import Diagnostics.Proofs.Source.Excerpt
import Diagnostics.Proofs.Source.Span

namespace Diagnostics

namespace Source

structure AgreeOn (shown : List Nat) (s s' : Source) : Prop where
  lineStarts : s'.lineStarts = s.lineStarts
  length : s'.data.length = s.data.length
  rawLine : ∀ k ∈ shown, s'.rawLine (k - 1) = s.rawLine (k - 1)

namespace AgreeOn

variable {s s' : Source} {shown : List Nat}

theorem lineCount (h : AgreeOn shown s s') : s'.lineCount = s.lineCount := by
  rw [Source.lineCount, Source.lineCount, h.lineStarts]

theorem length_rows (h : AgreeOn shown s s') : s'.rows.length = s.rows.length := by
  rw [← lineCount_eq, ← lineCount_eq, h.lineCount]

theorem startOf (h : AgreeOn shown s s') {i : Nat} (hi : i < s.rows.length) : s'.startOf i = s.startOf i := by
  have hstart := getElem?_lineStarts (s := s') (h.length_rows ▸ hi)
  rw [h.lineStarts, getElem?_lineStarts hi] at hstart
  exact (Option.some.inj hstart).symm

theorem rows (h : AgreeOn shown s s') {k : Nat} (hk : k ∈ shown) : s'.rows[k - 1]? = s.rows[k - 1]? := by
  by_cases hi : k - 1 < s.rows.length
  · have hi' : k - 1 < s'.rows.length := h.length_rows ▸ hi
    have hbytes := h.rawLine k hk
    rw [rawLine_eq hi, rawLine_eq hi'] at hbytes
    have hchars := congrArg chars hbytes
    rw [chars_encode, chars_encode] at hchars
    rw [List.getElem?_eq_getElem hi, List.getElem?_eq_getElem hi', hchars]
  · rw [List.getElem?_eq_none (Nat.le_of_not_lt hi),
      List.getElem?_eq_none (h.length_rows ▸ Nat.le_of_not_lt hi)]

theorem similar (h : AgreeOn shown s s') : Similar shown s s' where
  lineCount := h.lineCount
  lastContextLine := by
    rw [Source.lastContextLine, Source.lastContextLine, h.lineCount, h.lineStarts, h.length]
  shownText k hk := by
    rw [Source.shownText, Source.shownText, List.getD_eq_getElem?_getD, h.rows hk, ← List.getD_eq_getElem?_getD]

theorem locate (h : AgreeOn shown s s') {offset : Nat} {p : Position} (hp : s.locate offset = .ok p)
    (hshown : p.column = 1 ∨ p.line ∈ shown) : s'.locate offset = .ok p := by
  obtain ⟨i, hi, j, hj, rfl, rfl⟩ := exists_row_of_locate hp
  have hi' : i < s'.rows.length := h.length_rows ▸ hi
  rcases hshown with hcolumn | hline
  · obtain rfl : j = 0 := Nat.succ.inj hcolumn
    have hstart := locate_row hi' (Nat.zero_le _)
    rwa [h.startOf hi, List.take_zero] at hstart
  · have hrow := h.rows hline
    rw [Nat.add_sub_cancel, List.getElem?_eq_getElem hi, List.getElem?_eq_getElem hi', Option.some.injEq] at hrow
    rw [← hrow] at hj ⊢
    rw [← h.startOf hi]
    exact locate_row hi' hj

theorem lineRange (h : AgreeOn shown s s') {k : Nat} (hk : k ∈ shown) (hin : 1 ≤ k ∧ k ≤ s.lineCount) :
    s'.lineRange ((k : Int) - 1) = s.lineRange ((k : Int) - 1) := by
  obtain ⟨hi, hline⟩ := index_of_line hin
  have hi' : k - 1 < s'.rows.length := h.length_rows ▸ hi
  have hrow := h.rows hk
  rw [List.getElem?_eq_getElem hi, List.getElem?_eq_getElem hi', Option.some.injEq] at hrow
  rw [hline, lineRange_eq hi, lineRange_eq hi', h.startOf hi, hrow]

theorem resolve (h : AgreeOn shown s s') (hname : s'.name = s.name) {a b : Nat} (hab : a ≤ b) {r : ResolvedSpan}
    (hr : s.resolve a b = .ok r) (hfirst : r.start.line ∈ shown) (hlast : r.stop.line ∈ shown) :
    s'.resolve a b = .ok r := by
  obtain ⟨hstart, hstop, -⟩ := hasPosition_of_resolve hab hr
  obtain ⟨p, q, hp, hq, hrp, hrq⟩ := resolve_eq_ok hab hr
  rw [hrp] at hfirst hstart
  rw [hrq] at hlast hstop
  -- An end that moves back stood at the start of its line, and the line it moves to is the last one.
  have hclosing : s'.closing p q = s.closing p q := by
    rw [closing, closing]
    split
    · rename_i hback
      rw [closing, if_pos hback] at hlast
      have hraw := h.rawLine _ hlast
      rw [Nat.sub_sub] at hraw
      rw [hraw]
    · rfl
  have hq' : s'.locate b = .ok q := by
    refine h.locate hq ?_
    by_cases hback : p.line < q.line ∧ q.column = 1
    · exact .inl hback.2
    · rw [closing, if_neg hback] at hlast
      exact .inr hlast
  have hp' : s'.locate a = .ok p := h.locate hp (.inr hfirst)
  have hfirst' := h.lineRange hfirst hstart.1
  have hlast' := h.lineRange hlast hstop.1
  have hle : ¬ (b : Int) < a := by omega
  rw [← hr, Source.resolve, Source.resolve, if_neg hle, if_neg hle, hp, hq, hp', hq']
  simp only [bind, Except.bind, hclosing, hfirst', hlast', hname]

end AgreeOn

end Source

end Diagnostics
