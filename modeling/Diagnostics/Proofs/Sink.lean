import Diagnostics.Proofs.Stream
import Diagnostics.Proofs.Text.Width

namespace Diagnostics

open Text (stripEscapes)

theorem isSequence_switchOn (code : Nat) : Text.IsSequence (switchOn code).toList := by
  have hdigits : (toString code).toList = Nat.toDigits 10 code := Nat.toList_repr
  refine ⟨Nat.toDigits 10 code, [], 'm', ?_, ?_, by simp, by decide⟩
  · rw [switchOn, String.toList_append, String.toList_append, hdigits, List.append_nil]
    rfl
  · intro c hc
    have hdigit := Text.bounds_of_mem_toDigits hc
    rw [Text.isParameter_iff]
    omega

namespace Style

theorem stripEscapes_lead (s : Style) (rest : List Char) :
    stripEscapes (s.lead.toList ++ rest) = stripEscapes rest := by
  have hswitch (code : Nat) (rest : List Char) :
      stripEscapes ((switchOn code).toList ++ rest) = stripEscapes rest :=
    Text.stripEscapes_sequence (isSequence_switchOn code) rest
  have hcolor (c : Option Color) (rest : List Char) :
      stripEscapes (((c.map fun c => switchOn c.code).getD "").toList ++ rest) = stripEscapes rest := by
    cases c with
    | none => rfl
    | some c => exact hswitch c.code rest
  have hif (b : Bool) (code : Nat) (rest : List Char) :
      stripEscapes ((if b then switchOn code else "").toList ++ rest) = stripEscapes rest := by
    cases b with
    | false => rfl
    | true => exact hswitch code rest
  rw [lead, String.toList_append, String.toList_append, List.append_assoc, List.append_assoc, hcolor, hif, hif]

theorem stripEscapes_paint (s : Style) {text : String} (h : '\x1b' ∉ text.toList) (rest : List Char) :
    stripEscapes ((s.paint text).toList ++ rest) = text.toList ++ stripEscapes rest := by
  have hreset : stripEscapes (reset.toList ++ rest) = stripEscapes rest :=
    Text.stripEscapes_sequence (isSequence_switchOn 0) rest
  rw [paint, String.toList_append, String.toList_append, List.append_assoc, List.append_assoc, stripEscapes_lead,
    Text.stripEscapes_append h, hreset]

end Style

theorem Segment.stripEscapes_piece {s : Segment} (h : '\x1b' ∉ s.text.toList) (rest : List Char) :
    stripEscapes ((s.piece true).toList ++ rest) = s.text.toList ++ stripEscapes rest := by
  rw [piece]
  cases s.style with
  | none => exact Text.stripEscapes_append h rest
  | some style => exact style.stripEscapes_paint h rest

def Unescaped (steps : List Step) : Prop := ∀ s, .write s ∈ steps → '\x1b' ∉ s.text.toList

theorem Unescaped.tail {step : Step} {steps : List Step} (h : Unescaped (step :: steps)) : Unescaped steps :=
  fun s hs => h s (List.mem_cons_of_mem _ hs)

theorem Output.stripEscapes_ofSteps {steps : List Step} (h : Unescaped steps) :
    stripEscapes (ofSteps true steps).text.toList = (ofSteps false steps).text.toList ∧
      (ofSteps true steps).failure = (ofSteps false steps).failure := by
  induction steps with
  | nil => exact ⟨rfl, rfl⟩
  | cons step steps ih =>
    obtain ⟨htext, hfailure⟩ := ih h.tail
    cases step with
    | record r => exact ⟨htext, hfailure⟩
    | write s =>
      refine ⟨?_, hfailure⟩
      simp only [ofSteps, String.toList_append]
      rw [Segment.stripEscapes_piece (h s (List.mem_cons_self ..)), htext, Segment.piece_false]
    | fail f => exact ⟨rfl, rfl⟩

def Sink.Receives : Sink → List Char → Prop
  | .memory _ text, cs => text.toList = cs
  | .stream _ s, cs => s.content.Holds cs
  | .recorder _ segments, cs => segments.flatMap (·.text.toList) = cs

theorem Segment.shown_of_unescaped (colored : Bool) {steps : List Step} (h : Unescaped steps) :
    shown colored (Step.written steps) = (Output.ofSteps colored steps).text := by
  rw [Output.text_ofSteps, shown, pieces]
  refine congrArg String.join (List.map_congr_left fun s hs => ?_)
  cases colored with
  | true => rfl
  | false =>
    rw [piece_false]
    change String.ofList (stripEscapes s.text.toList) = s.text
    rw [Text.stripEscapes_of_notMem (h s (Step.mem_of_mem_written hs)), String.ofList_toList]

end Diagnostics
