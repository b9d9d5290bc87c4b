import Diagnostics.Script
import Diagnostics.Proofs.Issue.Resolution

namespace Diagnostics

structure Output where
  text : String
  failure : Option Failure

namespace Output

def andThen (a b : Output) : Output :=
  match a.failure with
  | none => ⟨a.text ++ b.text, b.failure⟩
  | some _ => a

def ofSteps (colored : Bool) : List Step → Output
  | [] => ⟨"", none⟩
  | .record _ :: rest => ofSteps colored rest
  | .write s :: rest =>
      let later := ofSteps colored rest
      ⟨s.piece colored ++ later.text, later.failure⟩
  | .fail f :: _ => ⟨"", some f⟩

theorem ofSteps_append (colored : Bool) (a b : List Step) :
    ofSteps colored (a ++ b) = (ofSteps colored a).andThen (ofSteps colored b) := by
  induction a with
  | nil => simp [ofSteps, andThen]
  | cons step a ih =>
    cases step with
    | record r => exact ih
    | write s =>
      simp only [List.cons_append, ofSteps, ih, andThen]
      cases ofSteps colored a with
      | mk text failure =>
        cases failure with
        | none => simp only [String.append_assoc]
        | some f => rfl
    | fail f => rfl

theorem ofSteps_records (colored : Bool) (rs : List Record) (rest : List Step) :
    ofSteps colored (rs.map Step.record ++ rest) = ofSteps colored rest := by
  induction rs with
  | nil => rfl
  | cons r rs ih => exact ih

theorem failure_ofSteps_lines (colored : Bool) (lines : List Line) :
    (ofSteps colored (lines.flatMap Line.steps)).failure = none := by
  induction lines with
  | nil => rfl
  | cons line lines ih =>
    have hline : (ofSteps colored line.steps).failure = none := by
      induction line with
      | nil => rfl
      | cons s line ih => exact ih
    rw [List.flatMap_cons, ofSteps_append, andThen, hline]
    exact ih

end Output

namespace Step

def written : List Step → List Segment
  | [] => []
  | .record _ :: rest => written rest
  | .write s :: rest => s :: written rest
  | .fail _ :: _ => []

theorem written_append (colored : Bool) {a : List Step} (h : (Output.ofSteps colored a).failure = none)
    (b : List Step) : written (a ++ b) = written a ++ written b := by
  induction a with
  | nil => rfl
  | cons step a ih =>
    cases step with
    | record r => exact ih h
    | write s => exact congrArg (s :: ·) (ih h)
    | fail f => cases h

theorem written_records (rs : List Record) (rest : List Step) : written (rs.map record ++ rest) = written rest := by
  induction rs with
  | nil => rfl
  | cons r rs ih => exact ih

theorem written_lines (lines : List Line) : written (lines.flatMap Line.steps) = lines.flatMap (· ++ [.newline]) := by
  have hline (line : Line) (rest : List Step) : written (line.map write ++ rest) = line ++ written rest := by
    induction line with
    | nil => rfl
    | cons s line ih => exact congrArg (s :: ·) ih
  induction lines with
  | nil => rfl
  | cons line lines ih =>
    rw [List.flatMap_cons, List.flatMap_cons, Line.steps, List.append_assoc, hline, ← ih, List.append_assoc]
    rfl

theorem mem_of_mem_written {s : Segment} {steps : List Step} (h : s ∈ written steps) : .write s ∈ steps := by
  induction steps with
  | nil => cases h
  | cons step steps ih =>
    cases step with
    | record r => exact List.mem_cons_of_mem _ (ih h)
    | write first =>
      rcases List.mem_cons.1 h with rfl | h
      · exact List.mem_cons_self ..
      · exact List.mem_cons_of_mem _ (ih h)
    | fail f => cases h

theorem written_append_congr (a : List Step) {b c : List Step} (h : written b = written c) :
    written (a ++ b) = written (a ++ c) := by
  induction a with
  | nil => exact h
  | cons step a ih =>
    cases step with
    | record r => exact ih
    | write s => exact congrArg (s :: ·) ih
    | fail f => rfl

end Step

def Segment.pieces (colored : Bool) (segments : List Segment) : String := String.join (segments.map (piece colored))

theorem Output.text_ofSteps (colored : Bool) (steps : List Step) :
    (ofSteps colored steps).text = Segment.pieces colored (Step.written steps) := by
  induction steps with
  | nil => rfl
  | cons step steps ih =>
    cases step with
    | record r => exact ih
    | write s => rw [ofSteps, Step.written, Segment.pieces, List.map_cons, String.join_cons, ih, Segment.pieces]
    | fail f => rfl

theorem Sink.run_memory (colored : Bool) (before : String) (steps : List Step) :
    ((Sink.memory colored before).run steps).sink =
        .memory colored (before ++ (Output.ofSteps colored steps).text) ∧
      ((Sink.memory colored before).run steps).failure = (Output.ofSteps colored steps).failure := by
  induction steps generalizing before with
  | nil => exact ⟨by rw [Output.ofSteps, String.append_empty]; rfl, rfl⟩
  | cons step steps ih =>
    cases step with
    | record r => exact ih before
    | write s =>
      simp only [Output.ofSteps]
      rw [← String.append_assoc]
      exact ih (before ++ s.piece colored)
    | fail f => exact ⟨by rw [Output.ofSteps, String.append_empty]; rfl, rfl⟩

inductive Part where
  | issue (i : Issue)
  | footer (r : Report)

namespace Part

def steps (config : Config) (registry : Registry) : Part → List Step
  | .issue i => i.steps config registry
  | .footer r => (r.footerLines config).flatMap Line.steps

def fault? (registry : Registry) : Part → Option Failure
  | .issue i => i.fault? registry
  | .footer _ => none

end Part

def Report.parts (r : Report) : List Part :=
  r.issues.map .issue ++ (r.footer.map fun _ => .footer r).toList

variable {config : Config} {registry : Registry}

theorem Issue.failure_ofSteps (colored : Bool) (i : Issue) :
    (Output.ofSteps colored (i.steps config registry)).failure = i.fault? registry := by
  rw [← faultOf_place, ← faultOf_lines_eq_place config, steps]
  cases i.lines config registry with
  | ok lines =>
    simp only
    rw [Output.ofSteps_records, Output.failure_ofSteps_lines]
    rfl
  | error f =>
    simp only
    rw [Output.ofSteps_records]
    rfl

namespace Part

theorem failure_ofSteps (colored : Bool) (p : Part) :
    (Output.ofSteps colored (p.steps config registry)).failure = p.fault? registry := by
  cases p with
  | issue i => exact i.failure_ofSteps colored
  | footer r => exact Output.failure_ofSteps_lines colored (r.footerLines config)

theorem steps_of_fault {p : Part} {f : Failure} (h : p.fault? registry = some f) :
    ∃ records : List Record, p.steps config registry = records.map .record ++ [.fail f] := by
  cases p with
  | issue i =>
    rw [fault?, ← Issue.faultOf_place, ← Issue.faultOf_lines_eq_place config, faultOf_eq_some] at h
    exact ⟨i.abortRecords f, by rw [steps, Issue.steps, h]⟩
  | footer r => cases h

theorem ofSteps_parts (colored : Bool) (parts : List Part) :
    Output.ofSteps colored (parts.flatMap (Part.steps config registry)) =
      ⟨String.join ((parts.takeWhile (·.fault? registry = none)).map
          fun p => (Output.ofSteps colored (p.steps config registry)).text),
        parts.findSome? (·.fault? registry)⟩ := by
  induction parts with
  | nil => rfl
  | cons p parts ih =>
    rw [List.flatMap_cons, Output.ofSteps_append, ih, Output.andThen]
    cases h : p.fault? registry with
    | none =>
      rw [failure_ofSteps, h]
      simp [h]
    | some f =>
      obtain ⟨records, hsteps⟩ : ∃ records : List Record,
          p.steps config registry = records.map .record ++ [.fail f] := steps_of_fault h
      rw [hsteps, Output.ofSteps_records]
      simp [h, Output.ofSteps]

theorem written_parts (parts : List Part) : Step.written (parts.flatMap (Part.steps config registry)) =
    (parts.takeWhile (·.fault? registry = none)).flatMap fun p => Step.written (p.steps config registry) := by
  induction parts with
  | nil => rfl
  | cons p parts ih =>
    rw [List.flatMap_cons]
    cases h : p.fault? registry with
    | none =>
      have hsteps : (Output.ofSteps false (p.steps config registry)).failure = none := by
        rw [failure_ofSteps, h]
      rw [Step.written_append false hsteps, ih]
      simp [h]
    | some f =>
      obtain ⟨records, hsteps⟩ : ∃ records : List Record,
          p.steps config registry = records.map .record ++ [.fail f] := steps_of_fault h
      rw [hsteps, List.append_assoc, Step.written_records]
      simp [h, Step.written]

end Part

namespace Report

theorem steps_eq (r : Report) (index : Nat) :
    r.steps config registry index =
      .record (r.record index) :: r.parts.flatMap (Part.steps config registry) := by
  have hissues : r.issues.flatMap (Issue.steps config registry) =
      (r.issues.map Part.issue).flatMap (Part.steps config registry) := by
    rw [List.flatMap_map]
    rfl
  rw [steps, parts, List.flatMap_append, ← hissues, footerLines]
  cases hf : r.footer with
  | none => simp
  | some f => simp [Part.steps, footerLines, hf]

theorem ofSteps_script (colored : Bool) (rs : List Report) :
    Output.ofSteps colored (script config registry rs) =
      Output.ofSteps colored ((rs.flatMap parts).flatMap (Part.steps config registry)) := by
  rw [script]
  generalize 0 = n
  induction rs generalizing n with
  | nil => rfl
  | cons r rs ih =>
    rw [List.zipIdx_cons, List.flatMap_cons, Output.ofSteps_append, ih]
    simp only [steps_eq]
    rw [List.flatMap_cons, List.flatMap_append, Output.ofSteps_append]
    rfl

theorem written_script (rs : List Report) : Step.written (script config registry rs) =
    Step.written ((rs.flatMap parts).flatMap (Part.steps config registry)) := by
  rw [script]
  generalize 0 = n
  induction rs generalizing n with
  | nil => rfl
  | cons r rs ih =>
    have hrest := ih (n + 1)
    rw [List.zipIdx_cons, List.flatMap_cons, List.flatMap_cons, List.flatMap_append]
    simp only [steps_eq] at hrest ⊢
    exact Step.written_append_congr (r.parts.flatMap (Part.steps config registry)) hrest

end Report

end Diagnostics
