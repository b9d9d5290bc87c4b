import Diagnostics.Proofs.Renderer.Streams
import Mathlib.Data.List.Flatten

namespace Diagnostics

open Text (stripEscapes HoldsSequence)

theorem flatMap_eq_iff_of_sublist {α β : Type} {l : List α} {f g : α → List β} (h : ∀ a ∈ l, (f a).Sublist (g a)) :
    l.flatMap f = l.flatMap g ↔ ∀ a ∈ l, f a = g a := by
  refine ⟨fun heq => ?_, List.flatMap_congr⟩
  induction l with
  | nil => exact fun a ha => absurd ha List.not_mem_nil
  | cons a l ih =>
    rw [List.forall_mem_cons] at h ⊢
    have hfirst := h.1.length_le
    have hrest := (List.Sublist.flatMap_right l h.2).length_le
    have hlength := congrArg List.length heq
    simp only [List.flatMap_cons, List.length_append] at heq hlength
    have ha : f a = g a := h.1.eq_of_length (by omega)
    rw [ha] at heq
    exact ⟨ha, ih h.2 (List.append_cancel_left heq)⟩

namespace Segment

theorem toList_pieces_false (segments : List Segment) :
    (pieces false segments).toList = segments.flatMap (·.text.toList) := by
  simp [pieces, String.toList_join, List.flatMap_map, piece_false]

theorem shown_eq_pieces_iff (colored : Bool) (segments : List Segment) :
    shown colored segments = pieces colored segments ↔
      colored = true ∨ ∀ s ∈ segments, ¬ HoldsSequence s.text.toList := by
  cases colored with
  | true => exact iff_of_true rfl (.inl rfl)
  | false =>
    have hshown : (shown false segments).toList = segments.flatMap fun s => stripEscapes s.text.toList := by
      simp [shown, String.toList_join, List.flatMap_map, echoed]
    rw [← String.toList_inj, hshown, toList_pieces_false,
      flatMap_eq_iff_of_sublist fun s _ => Text.stripFrom_sublist 0 s.text.toList]
    simp only [Bool.false_eq_true, false_or]
    exact forall₂_congr fun s _ => Text.stripEscapes_eq_self_iff

end Segment

theorem Content.Holds.unique {content : Content} {a b : List Char} (ha : content.Holds a) (hb : content.Holds b) :
    a = b := by
  cases content with
  | text s => exact ha.symm.trans hb
  | bytes bytes => exact Except.ok.inj (ha.symm.trans hb)

theorem ColorChoice.resolve_of_ne_auto {choice : ColorChoice} (h : choice ≠ .auto) (env : Environment) (t : Terminal) :
    choice.resolve env t = decide (choice = .always) := by
  cases choice with
  | always => rfl
  | never => rfl
  | auto => exact absurd rfl h

namespace Renderer

variable (r : Renderer) (env : Environment) {input : Reportable} {reports : List Report}

theorem renderText_pieces (hinput : input.reports = .ok reports)
    (hresolve : ∀ report ∈ reports, ∀ i ∈ report.issues, i.fault? r.registry = none) :
    let colored := r.config.colors.resolve env .missing
    (r.renderText env input).ending = .completed ∧ (r.renderText env input).sink =
      .memory colored (Segment.pieces colored (Step.written (Report.script r.config r.registry reports))) := by
  intro colored
  obtain ⟨hsink, hending⟩ := r.render_memory env colored "" hinput
  rw [Report.ofSteps_script, Part.ofSteps_parts, List.findSome?_eq_none_iff.2 (r.fault?_parts hresolve)] at hending
  rw [Output.text_ofSteps, String.empty_append] at hsink
  exact ⟨hending, hsink⟩

theorem modes_agree (hinput : input.reports = .ok reports)
    (hresolve : ∀ report ∈ reports, ∀ i ∈ report.issues, i.fault? r.registry = none)
    (hfixed : r.config.colors ≠ .auto) :
    let colored := decide (r.config.colors = .always)
    let segments := Step.written (Report.script r.config r.registry reports)
    let text := r.renderText env input
    text.ending = .completed ∧ text.sink = .memory colored (Segment.pieces colored segments) ∧
      ∀ (content : Content) (t : Terminal), content = .text "" ∨ content = .bytes [] →
        let streamed := r.render env (.stream (.opened content) t) input
        streamed.ending = .completed ∧ streamed.sink.Receives (Segment.shown colored segments).toList ∧
          (streamed.sink.Receives text.sink.received.toList ↔
            r.config.colors = .always ∨ ∀ s ∈ segments, ¬ HoldsSequence s.text.toList) := by
  intro colored segments text
  obtain ⟨htextEnding, htext⟩ := r.renderText_pieces env hinput hresolve
  rw [ColorChoice.resolve_of_ne_auto hfixed] at htext
  refine ⟨htextEnding, htext, fun content t hcontent => ?_⟩
  intro streamed
  obtain ⟨hsink, hending⟩ := r.render_opened env t content hinput
  rw [List.findSome?_eq_none_iff.2 (r.fault?_parts hresolve)] at hending
  rw [ColorChoice.resolve_of_ne_auto hfixed] at hsink
  have hreceives : streamed.sink.Receives (Segment.shown colored segments).toList := by
    rw [hsink]
    exact Content.holds_append (Content.holds_nil hcontent) _
  refine ⟨hending, hreceives, ?_⟩
  have hreceived : text.sink.received = Segment.pieces colored segments := by
    rw [htext]
    rfl
  rw [hreceived, ← decide_eq_true_iff (p := r.config.colors = .always), ← Segment.shown_eq_pieces_iff]
  constructor
  · intro h
    rw [hsink] at h hreceives
    exact String.toList_inj.1 (hreceives.unique h)
  · intro h
    rw [← h]
    exact hreceives

theorem modes_agree_incomplete :
    let r : Renderer := ⟨Registry.empty, Config.initial.withColors .never⟩
    let env : Environment := ⟨none, none, none⟩
    let report : Report := .ofIssue (.ofMessage "é\x1b[1")
    (∀ i ∈ report.issues, i.fault? r.registry = none) ∧ r.config.colors ≠ .auto ∧
      (r.render env (.stream (.opened (.bytes [])) .yes) (.single report)).sink.Receives
        (r.renderText env (.single report)).sink.received.toList := by
  intro r env report
  have hinput : (Reportable.single report).reports = .ok [report] := rfl
  have hresolve : ∀ other ∈ [report], ∀ i ∈ other.issues, i.fault? r.registry = none := by decide
  have hfixed : r.config.colors ≠ .auto := by decide
  have hplain : ∀ s ∈ Step.written (Report.script r.config r.registry [report]),
      stripEscapes s.text.toList = s.text.toList := by decide
  have hagree := (r.modes_agree env hinput hresolve hfixed).2.2 (.bytes []) .yes (.inr rfl)
  exact ⟨hresolve report (List.mem_singleton_self _), hfixed,
    hagree.2.2.2 (.inr fun s hs => Text.stripEscapes_eq_self_iff.1 (hplain s hs))⟩

theorem modes_differ_escape :
    let r : Renderer := ⟨Registry.empty, Config.initial.withColors .never⟩
    let env : Environment := ⟨none, none, none⟩
    let report : Report := .ofIssue (.ofMessage "\x1b[31mx")
    let text := r.renderText env (.single report)
    let streamed := fun content => r.render env (.stream (.opened content) .no) (.single report)
    (∀ i ∈ report.issues, i.fault? r.registry = none) ∧ text.ending = .completed ∧
      (streamed (.text "")).ending = .completed ∧ (streamed (.bytes [])).ending = .completed ∧
      text.sink.received = "error: \x1b[31mx\n\n" ∧ (streamed (.text "")).sink.received = "error: x\n\n" ∧
      (streamed (.bytes [])).sink.received = "error: x\n\n" := by
  decide

end Renderer

end Diagnostics
