import Diagnostics.Renderer
import Diagnostics.Proofs.Script
import Mathlib.Data.List.TakeWhile

namespace Diagnostics

def Part.text (r : Renderer) (env : Environment) (colored : Bool) : Part → String
  | .issue i => (r.render env (.sink (.memory colored "")) (.single (Report.ofIssue i))).sink.received
  | .footer report =>
      ((Sink.memory colored "").run ((report.footerLines r.config).flatMap Line.steps)).sink.received

theorem Reportable.reportsOf_map (rs : List Report) : reportsOf (rs.map .report) = .ok rs := by
  induction rs with
  | nil => rfl
  | cons r rs ih =>
    rw [List.map_cons, reportsOf, ih]
    rfl

theorem Reportable.reportsOf_other (rs : List Report) (found : String) (rest : List Entry) :
    reportsOf (rs.map .report ++ .other found :: rest) = .error (.notAReport found) := by
  induction rs with
  | nil => rfl
  | cons r rs ih =>
    rw [List.map_cons, List.cons_append, reportsOf, ih]
    rfl

namespace Renderer

variable (r : Renderer) (env : Environment) (colored : Bool)

theorem render_memory (before : String) {input : Reportable} {reports : List Report}
    (h : input.reports = .ok reports) :
    let output := Output.ofSteps colored (Report.script r.config r.registry reports)
    (r.render env (.sink (.memory colored before)) input).sink = .memory colored (before ++ output.text) ∧
      (r.render env (.sink (.memory colored before)) input).ending =
        (output.failure.map Ending.failed).getD .completed := by
  obtain ⟨hsink, hfailure⟩ :=
    Sink.run_memory colored before (Report.script r.config r.registry reports)
  simp only [render, h, Target.settle]
  refine ⟨hsink, ?_⟩
  rw [ending, hfailure, hsink]
  cases (Output.ofSteps colored (Report.script r.config r.registry reports)).failure <;> rfl

theorem text_part (p : Part) :
    p.text r env colored = (Output.ofSteps colored (p.steps r.config r.registry)).text := by
  cases p with
  | issue i =>
    have hreports : (Reportable.single (Report.ofIssue i)).reports = .ok [Report.ofIssue i] := rfl
    obtain ⟨hsink, -⟩ := r.render_memory env colored "" hreports
    rw [Part.text, hsink, Report.ofSteps_script, Sink.received, String.empty_append]
    simp [Report.parts, Report.ofIssue]
  | footer report =>
    obtain ⟨hsink, -⟩ := Sink.run_memory colored "" ((report.footerLines r.config).flatMap Line.steps)
    rw [Part.text, hsink, Sink.received, String.empty_append, Part.steps]

theorem render_parts (before : String) {input : Reportable} {reports : List Report}
    (h : input.reports = .ok reports) :
    let parts := reports.flatMap Report.parts
    (r.render env (.sink (.memory colored before)) input).sink =
        .memory colored (before ++
          String.join ((parts.takeWhile (·.fault? r.registry = none)).map (·.text r env colored))) ∧
      (r.render env (.sink (.memory colored before)) input).ending =
        ((parts.findSome? (·.fault? r.registry)).map Ending.failed).getD .completed := by
  have hrender := r.render_memory env colored before h
  rw [Report.ofSteps_script, Part.ofSteps_parts] at hrender
  simp only [text_part]
  exact hrender

theorem fault?_parts {reports : List Report}
    (h : ∀ report ∈ reports, ∀ i ∈ report.issues, i.fault? r.registry = none) :
    ∀ p ∈ reports.flatMap Report.parts, p.fault? r.registry = none := by
  intro p hp
  obtain ⟨report, hreport, hp⟩ := List.mem_flatMap.1 hp
  rcases List.mem_append.1 hp with hp | hp
  · obtain ⟨i, hi, rfl⟩ := List.mem_map.1 hp
    exact h report hreport i hi
  · rw [Option.mem_toList] at hp
    obtain ⟨f, -, rfl⟩ := Option.map_eq_some_iff.1 hp
    rfl

theorem renderText_parts {reports : List Report}
    (h : ∀ report ∈ reports, ∀ i ∈ report.issues, i.fault? r.registry = none) :
    (r.renderText env (.collection (reports.map .report))).sink.received =
        String.join ((reports.flatMap Report.parts).map
          (·.text r env (r.config.colors.resolve env .missing))) ∧
      (r.renderText env (.collection (reports.map .report))).ending = .completed := by
  have hreports : (Reportable.collection (reports.map .report)).reports = .ok reports :=
    Reportable.reportsOf_map reports
  have hnone := r.fault?_parts h
  obtain ⟨hsink, hending⟩ := r.render_parts env (r.config.colors.resolve env .missing) "" hreports
  have hall : (reports.flatMap Report.parts).takeWhile (fun p => decide (p.fault? r.registry = none)) =
      reports.flatMap Report.parts := by
    rw [List.takeWhile_eq_self_iff]
    intro p hp
    exact decide_eq_true (hnone p hp)
  rw [List.findSome?_eq_none_iff.2 hnone] at hending
  rw [hall, String.empty_append] at hsink
  refine ⟨?_, hending⟩
  rw [renderText, memory]
  simp only [hsink, Sink.received]

theorem render_sequence (before : String) (input : Reportable) :
    let out := r.render env (.sink (.memory colored before)) input
    (∀ reports, input.reports = .ok reports →
      let parts := reports.flatMap Report.parts
      out.sink = .memory colored (before ++
          String.join ((parts.takeWhile (·.fault? r.registry = none)).map (·.text r env colored))) ∧
        out.ending = ((parts.findSome? (·.fault? r.registry)).map Ending.failed).getD .completed) ∧
    (∀ (reports : List Report) found rest, input = .collection (reports.map .report ++ .other found :: rest) →
      out.sink = .memory colored before ∧ out.ending = .rejected (.notAReport found)) ∧
    (∀ first second : List Report,
      (∀ report ∈ first ++ second, ∀ i ∈ report.issues, i.fault? r.registry = none) →
      let shown := fun reports : List Report => r.renderText env (.collection (reports.map .report))
      (shown (first ++ second)).ending = .completed ∧
        (shown (first ++ second)).sink.received =
          (shown first).sink.received ++ (shown second).sink.received) := by
  refine ⟨fun reports h => r.render_parts env colored before h, ?_, ?_⟩
  · rintro reports found rest rfl
    have hreports : (Reportable.collection (reports.map .report ++ .other found :: rest)).reports =
        .error (.notAReport found) := Reportable.reportsOf_other reports found rest
    rw [render, hreports]
    exact ⟨rfl, rfl⟩
  · intro first second h
    have hboth := r.renderText_parts env h
    have hfirst := r.renderText_parts env fun report hr => h report (List.mem_append_left _ hr)
    have hsecond := r.renderText_parts env fun report hr => h report (List.mem_append_right _ hr)
    refine ⟨hboth.2, ?_⟩
    rw [hboth.1, hfirst.1, hsecond.1, List.flatMap_append, List.map_append, String.join_append]

theorem render_sequence_missing :
    let r : Renderer := ⟨Registry.empty, Config.initial⟩
    let env : Environment := ⟨none, none, none⟩
    let known : Report := ⟨[.ofMessage "m"], some ⟨"f", [], true⟩⟩
    let lost : Report := .ofIssue ⟨.error, "n", none, some ⟨"a", 0, 0⟩, [], []⟩
    let input : Reportable := .collection [.report known, .report lost, .report known]
    let mixed : Reportable := .collection [.report known, .other "int"]
    input.reports = .ok [known, lost, known] ∧
      (r.render env (.sink (.memory false "")) input).ending = .failed (.sourceMissing "a") ∧
      (r.render env (.sink (.memory false "")) mixed).sink = .memory false "" ∧
      (r.renderText env (.collection [.report known, .report known])).ending = .completed := by
  intro r env known lost input mixed
  have hinput : input.reports = .ok [known, lost, known] := rfl
  have hmixed : mixed = .collection ([known].map .report ++ .other "int" :: []) := rfl
  have hknown : ∀ report ∈ [known] ++ [known], ∀ i ∈ report.issues, i.fault? r.registry = none := by
    simp [known, Issue.ofMessage, Issue.new, Issue.fault?, Issue.origins, Issue.primaryOrigin, Issue.offsets,
      Issue.spans]
  exact ⟨hinput, ((r.render_sequence env false "" input).1 _ hinput).2,
    ((r.render_sequence env false "" mixed).2.1 _ _ _ hmixed).1,
    ((r.render_sequence env false "" input).2.2 [known] [known] hknown).1⟩

end Renderer

end Diagnostics
