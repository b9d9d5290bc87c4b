import Diagnostics.Proofs.Script
import Diagnostics.Proofs.Text.Escape

namespace Diagnostics

open Text (stripEscapes)

namespace Segment

theorem piece_false (s : Segment) : s.piece false = s.text := by
  rw [piece]
  cases s.style <;> rfl

def echoed (colored : Bool) (s : Segment) : String :=
  if colored then s.piece true else String.ofList (stripEscapes s.text.toList)

def shown (colored : Bool) (segments : List Segment) : String := String.join (segments.map (echoed colored))

theorem echoed_eq (colored : Bool) (s : Segment) : s.echoed colored =
    if colored then s.piece colored else String.ofList (stripEscapes (s.piece colored).toList) := by
  cases colored with
  | true => rfl
  | false =>
    rw [piece_false]
    rfl

theorem shown_cons (colored : Bool) (s : Segment) (segments : List Segment) :
    shown colored (s :: segments) = s.echoed colored ++ shown colored segments := by
  rw [shown, List.map_cons, String.join_cons, shown]

theorem shown_append (colored : Bool) (a b : List Segment) :
    shown colored (a ++ b) = shown colored a ++ shown colored b := by
  rw [shown, List.map_append, String.join_append, shown, shown]

end Segment

namespace Content

theorem append_empty (content : Content) : content.append "" = content := by
  cases content with
  | text s => rw [append, String.append_empty]
  | bytes b => rw [append, String.toList_empty, Text.Utf8.encode_nil, List.append_nil]

theorem append_append (content : Content) (a b : String) : (content.append a).append b = content.append (a ++ b) := by
  cases content with
  | text s => simp only [append, String.append_assoc]
  | bytes bs => simp only [append, String.toList_append, Text.Utf8.encode_append, List.append_assoc]

def Holds : Content → List Char → Prop
  | text s, cs => s.toList = cs
  | bytes b, cs => Text.Utf8.decode b = .ok cs

theorem holds_nil {content : Content} (h : content = text "" ∨ content = bytes []) : content.Holds [] := by
  rcases h with rfl | rfl <;> rfl

theorem holds_append {content : Content} {cs : List Char} (h : content.Holds cs) (piece : String) :
    (content.append piece).Holds (cs ++ piece.toList) := by
  cases content with
  | text s => rw [append, Holds, String.toList_append, h]
  | bytes b => exact Text.Utf8.decode_append h piece.toList

end Content

namespace Stream

def opened (content : Content) : Stream := ⟨content, none, false⟩

inductive Takes (colored : Bool) : Stream → List Segment → Stream → Prop where
  | nil (s : Stream) : Takes colored s [] s
  | cons {s next kept : Stream} {seg : Segment} {rest : List Segment} :
      s.echo colored (seg.piece colored) = .ok next → Takes colored next rest kept → Takes colored s (seg :: rest) kept

def Refuses (colored : Bool) (s : Stream) (segments done : List Segment) (kept : Stream) (refusal : Refusal) : Prop :=
  ∃ seg later, segments = done ++ seg :: later ∧ Takes colored s done kept ∧
    kept.echo colored (seg.piece colored) = .error refusal

variable {colored : Bool} {s kept : Stream} {segments : List Segment}

theorem accept_ok {next : Stream} {piece : String} (h : s.accept piece = .ok next) :
    next = { s with content := s.content.append piece } := by
  rw [accept] at h
  split at h
  · cases h
  · simp only at h
    split at h
    · exact (Except.ok.inj h).symm
    · cases h

theorem echo_ok {next : Stream} {seg : Segment} (h : s.echo colored (seg.piece colored) = .ok next) :
    next = { s with content := s.content.append (seg.echoed colored) } := by
  rw [Segment.echoed_eq]
  cases hcontent : s.content with
  | bytes b =>
    simp only [echo, hcontent] at h
    rw [accept_ok h, hcontent]
  | text t =>
    simp only [echo, hcontent] at h
    split at h
    · -- An empty piece is not written, and nothing is shown of it.
      rename_i hempty
      have hnone : (if colored then seg.piece colored else String.ofList (stripEscapes (seg.piece colored).toList)) =
          "" := by
        rw [String.isEmpty_iff.1 hempty]
        cases colored <;> rfl
      rw [hnone, Content.append_empty, ← hcontent]
      exact (Except.ok.inj h).symm
    · rw [accept_ok h, hcontent]

theorem Takes.eq (h : Takes colored s segments kept) :
    kept = { s with content := s.content.append (Segment.shown colored segments) } := by
  induction h with
  | nil s =>
    change s = { s with content := s.content.append "" }
    rw [Content.append_empty]
  | cons hseg hrest ih => rw [ih, echo_ok hseg, Segment.shown_cons, Content.append_append]

theorem Takes.flush (h : s.Takes colored segments kept) : kept.flush = s.flush := by
  rw [h.eq]
  obtain ⟨content, limit, closed⟩ := s
  cases content <;> cases closed <;> rfl

theorem takes_opened (colored : Bool) (content : Content) (segments : List Segment) :
    Takes colored (opened content) segments (opened (content.append (Segment.shown colored segments))) := by
  induction segments generalizing content with
  | nil =>
    change Takes colored (opened content) [] (opened (content.append ""))
    rw [Content.append_empty]
    exact .nil _
  | cons seg segments ih =>
    obtain ⟨next, hnext⟩ : ∃ next, (opened content).echo colored (seg.piece colored) = .ok next := by
      cases content with
      | bytes b => exact ⟨_, rfl⟩
      | text t =>
        simp only [echo, opened]
        split <;> exact ⟨_, rfl⟩
    have hshown := ih (content.append (seg.echoed colored))
    rw [Content.append_append, ← Segment.shown_cons] at hshown
    refine .cons hnext ?_
    rw [echo_ok hnext]
    exact hshown

theorem takes_or_refuses (colored : Bool) (s : Stream) (segments : List Segment) :
    (∃ kept, Takes colored s segments kept) ∨ ∃ done kept refusal, Refuses colored s segments done kept refusal := by
  induction segments generalizing s with
  | nil => exact .inl ⟨s, .nil s⟩
  | cons seg segments ih =>
    cases hseg : s.echo colored (seg.piece colored) with
    | error refusal => exact .inr ⟨[], s, refusal, seg, segments, rfl, .nil s, hseg⟩
    | ok next =>
      rcases ih next with ⟨kept, hkept⟩ | ⟨done, kept, refusal, last, later, hsegments, hdone, hlast⟩
      · exact .inl ⟨kept, .cons hseg hkept⟩
      · exact .inr ⟨seg :: done, kept, refusal, last, later, congrArg (seg :: ·) hsegments, .cons hseg hdone, hlast⟩

end Stream

namespace Sink

variable {colored : Bool} {s kept : Stream} {steps : List Step}

theorem run_write_ok {next : Stream} {seg : Segment} (h : s.echo colored (seg.piece colored) = .ok next) :
    (stream colored s).run (.write seg :: steps) = (stream colored next).run steps := by
  rw [run, write, h]
  rfl

theorem run_write_error {refusal : Refusal} {seg : Segment}
    (h : s.echo colored (seg.piece colored) = .error refusal) :
    (stream colored s).run (.write seg :: steps) =
      ⟨.stream colored s, [refusalRecord refusal], some (.refused refusal)⟩ := by
  rw [run, write, h]
  rfl

theorem run_takes (h : s.Takes colored (Step.written steps) kept) :
    ((stream colored s).run steps).sink = .stream colored kept ∧
      ((stream colored s).run steps).failure = (Output.ofSteps colored steps).failure := by
  induction steps generalizing s with
  | nil =>
    cases h
    exact ⟨rfl, rfl⟩
  | cons step steps ih =>
    cases step with
    | record r => exact ih h
    | write seg =>
      obtain _ | ⟨hseg, hrest⟩ := h
      rw [run_write_ok hseg]
      exact ih hrest
    | fail f =>
      cases h
      exact ⟨rfl, rfl⟩

theorem run_refuses {done : List Segment} {refusal : Refusal}
    (h : s.Refuses colored (Step.written steps) done kept refusal) :
    ((stream colored s).run steps).sink = .stream colored kept ∧
      ((stream colored s).run steps).failure = some (.refused refusal) := by
  obtain ⟨seg, later, hsegments, hdone, hrefused⟩ := h
  -- Along the steps, the segments still to be taken and the stream that takes them change together.
  induction steps generalizing s done with
  | nil => simp [Step.written] at hsegments
  | cons step steps ih =>
    cases step with
    | record r => exact ih hsegments hdone
    | write first =>
      rw [Step.written] at hsegments
      cases hdone with
      | nil =>
        obtain ⟨rfl, -⟩ := List.cons.inj hsegments
        rw [run_write_error hrefused]
        exact ⟨rfl, rfl⟩
      | cons hfirst hrest =>
        obtain ⟨rfl, hbehind⟩ := List.cons.inj hsegments
        rw [run_write_ok hfirst]
        exact ih hbehind hrest
    | fail f => simp [Step.written] at hsegments

end Sink

end Diagnostics
