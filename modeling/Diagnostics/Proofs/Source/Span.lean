import Diagnostics.Proofs.Outcome
import Diagnostics.Proofs.Source.Position

namespace Diagnostics

open Text.Utf8 (IsBoundary)

namespace Source

def offsetFault (s : Source) (offset : Nat) : Option Failure :=
  if s.data.length < offset then some (.offsetTooLarge offset s.data.length)
  else if IsBoundary s.content.toList offset then none
  else some (.insideCharacter offset)

theorem faultOf_locate (s : Source) (offset : Nat) : faultOf (s.locate offset) = s.offsetFault offset := by
  rw [offsetFault]
  by_cases hb : IsBoundary s.content.toList offset
  · obtain ⟨pre, hpre, rfl⟩ := hb
    have hle : (Text.Utf8.encode pre).length ≤ s.data.length :=
      Text.Utf8.isBoundary_le ⟨pre, hpre, rfl⟩
    rw [locate_of_isPrefix hpre, if_neg (Nat.not_lt.2 hle), if_pos ⟨pre, hpre, rfl⟩]
    rfl
  · rw [locate_of_not_isBoundary hb, if_neg hb]
    split <;> rfl

theorem hasPosition_of_locate {s : Source} {offset : Int} {p : Position} (h : s.locate offset = .ok p) :
    s.HasPosition p := by
  obtain ⟨pre, hpre, -, rfl⟩ := locate_eq_ok.1 h
  obtain ⟨i, hi, j, hj, rfl⟩ := Text.prefix_eq_before hpre
  exact hasPosition_iff.2 ⟨i, hi, j, hj, Position.after_append_take hi hj⟩

theorem closing_of_hasPosition {s : Source} {p q : Position} (hp : s.HasPosition p) (hq : s.HasPosition q)
    (hle : p.line ≤ q.line) : s.HasPosition (s.closing p q) ∧ p.line ≤ (s.closing p q).line := by
  rw [closing]
  split
  · rename_i h
    have hlt := h.1
    have hstart := hp.1.1
    have hi : q.line - 2 < s.rows.length := by
      have hstop := hq.1.2
      rw [lineCount_eq] at hstop
      omega
    have hline : q.line - 1 = q.line - 2 + 1 := by omega
    refine ⟨hasPosition_iff.2 ⟨q.line - 2, hi, _, Nat.le_refl _, ?_⟩, Nat.le_sub_one_of_lt hlt⟩
    rw [rawLine_eq hi, countChars_encode, hline]
  · exact ⟨hq, hle⟩

theorem locate_line_le {s : Source} {a b : Nat} {p q : Position} (hle : a ≤ b) (hp : s.locate a = .ok p)
    (hq : s.locate b = .ok q) : p.line ≤ q.line := by
  rcases Nat.lt_or_eq_of_le hle with h | rfl
  · have hpq := (locate_lt_iff hp hq).1 (by omega)
    rw [Position.lt_iff] at hpq
    omega
  · obtain rfl := Except.ok.inj (hp.symm.trans hq)
    exact Nat.le_refl _

theorem resolve_eq_ok {s : Source} {a b : Nat} {r : ResolvedSpan} (hle : a ≤ b)
    (h : s.resolve a b = .ok r) :
    ∃ p q, s.locate a = .ok p ∧ s.locate b = .ok q ∧ r.start = p ∧ r.stop = s.closing p q := by
  have hlt : ¬ (b : Int) < a := by omega
  rw [resolve, if_neg hlt] at h
  obtain ⟨p, hp, h⟩ := bind_ok.1 h
  obtain ⟨q, hq, h⟩ := bind_ok.1 h
  obtain ⟨_, -, h⟩ := bind_ok.1 h
  obtain ⟨_, -, h⟩ := bind_ok.1 h
  exact ⟨p, q, hp, hq, by rw [← Except.ok.inj h], by rw [← Except.ok.inj h]⟩

theorem faultOf_resolve {s : Source} {a b : Nat} (hle : a ≤ b) :
    faultOf (s.resolve a b) = (s.offsetFault a).or (s.offsetFault b) := by
  have hlt : ¬ (b : Int) < a := by omega
  rw [resolve, if_neg hlt, ← faultOf_locate, ← faultOf_locate]
  cases hp : s.locate a with
  | error e => rfl
  | ok p =>
    cases hq : s.locate b with
    | error e => rfl
    | ok q =>
      have hpos := hasPosition_of_locate hp
      have hend := closing_of_hasPosition hpos (hasPosition_of_locate hq) (locate_line_le hle hp hq)
      obtain ⟨range, hrange⟩ := lineRange_of_line hpos.1
      obtain ⟨range', hrange'⟩ := lineRange_of_line hend.1.1
      simp only [bind, Except.bind, hrange, hrange']
      rfl

theorem hasPosition_of_resolve {s : Source} {a b : Nat} {r : ResolvedSpan} (hle : a ≤ b)
    (h : s.resolve a b = .ok r) :
    s.HasPosition r.start ∧ s.HasPosition r.stop ∧ r.start.line ≤ r.stop.line := by
  obtain ⟨p, q, hp, hq, hstart, hstop⟩ := resolve_eq_ok hle h
  have hend := closing_of_hasPosition (hasPosition_of_locate hp) (hasPosition_of_locate hq)
    (locate_line_le hle hp hq)
  rw [hstart, hstop]
  exact ⟨hasPosition_of_locate hp, hend⟩

theorem column_eq_one_iff {s : Source} {offset : Nat} {p : Position} (h : s.locate offset = .ok p) :
    p.column = 1 ↔ offset ∈ s.lineStarts := by
  constructor
  · intro hcolumn
    obtain ⟨i, hi, j, -, rfl, rfl⟩ := exists_row_of_locate h
    obtain rfl : j = 0 := Nat.succ.inj hcolumn
    exact List.mem_of_getElem? (getElem?_lineStarts hi)
  · intro hmem
    obtain ⟨i, hi⟩ := List.mem_iff_getElem?.1 hmem
    have hlt : i < s.rows.length := by
      rw [← lineCount_eq]
      exact (List.getElem?_eq_some_iff.1 hi).1
    rw [getElem?_lineStarts hlt, Option.some.injEq] at hi
    have hstart := locate_row hlt (Nat.zero_le _)
    rw [List.take_zero] at hstart
    change s.locate (s.startOf i : Nat) = _ at hstart
    rw [hi, h] at hstart
    rw [Except.ok.inj hstart]

def EndsBehindFeed (s : Source) (start stop : Nat) : Prop := start < stop ∧ stop ∈ s.lineStarts

instance (s : Source) (start stop : Nat) : Decidable (s.EndsBehindFeed start stop) :=
  inferInstanceAs (Decidable (_ ∧ _))

theorem endsBehindFeed_iff {s : Source} {a b : Nat} {p q : Position} (hp : s.locate a = .ok p)
    (hq : s.locate b = .ok q) :
    p.line < q.line ∧ q.column = 1 ↔ s.EndsBehindFeed a b := by
  have hlt := locate_lt_iff hp hq
  have hcolumn := (hasPosition_of_locate hp).2.1
  rw [Int.ofNat_lt, Position.lt_iff] at hlt
  rw [EndsBehindFeed, ← column_eq_one_iff hq, hlt]
  omega

end Source

end Diagnostics
