import Diagnostics.Proofs.Block.Placed
import Diagnostics.Proofs.Text.Width

namespace Diagnostics

namespace Text

variable {tab : Nat} {cs : List Char}

theorem width_take_succ (tab : Nat) {i : Nat} (h : i < cs.length) :
    width tab (cs.take (i + 1)) = width tab (cs.take i) + charWidth tab cs[i] := by
  rw [List.take_succ_eq_append_getElem h, width_append]
  rfl

theorem width_take_mono (tab : Nat) (cs : List Char) {i j : Nat} (h : i ≤ j) :
    width tab (cs.take i) ≤ width tab (cs.take j) := by
  obtain ⟨more, hmore⟩ := List.take_prefix_take_left h (l := cs)
  rw [← hmore, width_append]
  exact Nat.le_add_right ..

theorem charWidth_pos_iff (htab : 1 ≤ tab) {c : Char} : 0 < charWidth tab c ↔ inRanges c combining = false := by
  by_cases hc : c = '\t'
  · subst hc
    exact iff_of_true htab (inRanges_of_lt _ (by decide))
  · rw [charWidth, if_neg hc]
    cases inRanges c combining <;> simp
    split <;> decide

theorem width_take_pred_lt (htab : 1 ≤ tab) {n : Nat} (hpos : 0 < width tab (cs.take n)) :
    width tab (cs.take (n - 1)) < width tab (cs.take n) ↔
      n ≤ cs.length ∧ ∀ c, (cs.take n).getLast? = some c → inRanges c combining = false := by
  cases n with
  | zero => exact absurd hpos (Nat.lt_irrefl 0)
  | succ n =>
    rw [Nat.add_sub_cancel]
    by_cases hn : n < cs.length
    · have hlast : (cs.take (n + 1)).getLast? = some cs[n] := by
        rw [List.take_succ_eq_append_getElem hn, List.getLast?_concat]
      rw [width_take_succ tab hn, Nat.lt_add_right_iff_pos, charWidth_pos_iff htab, hlast]
      simp [Nat.succ_le_of_lt hn]
    · rw [List.take_of_length_le (Nat.le_of_not_lt hn),
        List.take_of_length_le (Nat.le_succ_of_le (Nat.le_of_not_lt hn))]
      exact iff_of_false (Nat.lt_irrefl _) fun h => hn h.1

end Text

namespace Source

variable {s : Source} {offset : Nat} {p : Position}

theorem take_shownText (h : s.locate offset = .ok p) :
    ∃ first stop, s.lineRange ((p.line : Int) - 1) = .ok (first, stop) ∧
      (s.shownText p.line).take (p.column - 1) = chars (slice first (min offset stop) s.data) := by
  obtain ⟨i, hi, j, hj, rfl, rfl⟩ := exists_row_of_locate h
  have hindex : ((i + 1 : Nat) : Int) - 1 = i := by omega
  have hshown : s.shownText (i + 1) = dropReturn s.rows[i] := by
    rw [shownText, Nat.add_sub_cancel, List.getD_eq_getElem?_getD, List.getElem?_eq_getElem hi, Option.getD_some]
  have hfront : s.rows[i].take j <+: s.rows[i] := List.take_prefix j _
  have htext := dropReturn_isPrefix s.rows[i]
  refine ⟨_, _, hindex ▸ lineRange_eq hi, ?_⟩
  rw [hshown, Nat.add_sub_cancel, Nat.add_min_add_left]
  rcases List.prefix_or_prefix_of_prefix hfront htext with hle | hle
  · have htake := List.prefix_iff_eq_take.1 hle
    rw [List.length_take, Nat.min_eq_left hj] at htake
    rw [Nat.min_eq_left (Text.Utf8.length_encode_mono hle), slice_line hi hfront, chars_encode, htake]
  · -- The offset stands behind the carriage return.
    have hlength := hle.length_le
    rw [List.length_take] at hlength
    rw [Nat.min_eq_right (Text.Utf8.length_encode_mono hle), slice_line hi htext, chars_encode,
      List.take_of_length_le (by omega)]

end Source

namespace Placed

variable {tab : Nat}

theorem rail_closes (htab : 1 ≤ tab) (p : Placed)
    (hspan : p.source.resolve p.subject.span.start p.subject.span.stop = .ok p.span)
    (hmulti : p.span.isMultiline = true) :
    ∃ r text, p.shape tab = .ok (.rail r) ∧ p.source.lineText ((p.span.stop.line : Int) - 1) = .ok text ∧
      (let marked := text.take (p.span.stop.column - 1)
      r.endCell ≤ Text.width tab marked ∧
        (0 < Text.width tab marked → (r.endCell < Text.width tab marked ↔
          p.span.stop.column ≤ text.length + 1 ∧
            ∀ c, marked.getLast? = some c → Text.inRanges c Text.combining = false))) ∧
      ∃ first stop, p.source.lineRange ((p.span.start.line : Int) - 1) = .ok (first, stop) ∧
        r.startCell = Text.width tab (Source.chars (slice first (min p.subject.span.start stop) p.source.data)) := by
  obtain ⟨-, hstop, -⟩ := Source.hasPosition_of_resolve p.subject.span.ordered hspan
  obtain ⟨position, -, hlocate, -, hstart, -⟩ := Source.resolve_eq_ok p.subject.span.ordered hspan
  obtain ⟨first, stop, hrange, hopen⟩ := Source.take_shownText hlocate
  have hshape : p.shape tab = .ok (.rail (p.railOf tab)) := by
    rw [shape_of_resolve hspan, shapeOf, if_pos hmulti]
  refine ⟨p.railOf tab, _, hshape, Source.lineText_of_line hstop.1, ⟨?behind, fun hpos => ?under⟩, first, stop,
    ?opening⟩
  case behind =>
    exact Text.width_take_mono tab _ (by omega)
  case under =>
    have hlt := Text.width_take_pred_lt htab hpos
    rw [Nat.sub_sub, Nat.sub_le_iff_le_add] at hlt
    exact hlt
  case opening =>
    rw [← hstart] at hrange hopen
    exact ⟨hrange, by rw [← hopen]; rfl⟩

theorem rail_closes_tab :
    let p : Placed := ⟨⟨.primary, ⟨"a", 0, 5, by decide⟩, none⟩, ⟨"a", "a\r\nb\t"⟩,
      ⟨"a", ⟨1, 1⟩, ⟨2, 3⟩, 0, 5, 0, 5⟩, 0⟩
    1 ≤ 2 ∧ p.source.resolve p.subject.span.start p.subject.span.stop = .ok p.span ∧ p.span.isMultiline = true ∧
      ∃ r, p.shape 2 = .ok (.rail r) ∧ r.endCell < Text.width 2 ['b', '\t'] := by
  have hspan : (⟨"a", "a\r\nb\t"⟩ : Source).resolve (0 : Nat) (5 : Nat) =
      .ok ⟨"a", ⟨1, 1⟩, ⟨2, 3⟩, 0, 5, 0, 5⟩ := rfl
  have hline : (⟨"a", "a\r\nb\t"⟩ : Source).lineText ((2 : Nat) - 1) = .ok ['b', '\t'] := rfl
  intro p
  have hmulti : p.span.isMultiline = true := rfl
  obtain ⟨r, text, hshape, htext, ⟨-, hunder⟩, -⟩ := rail_closes (by decide : 1 ≤ 2) p hspan hmulti
  obtain rfl : ['b', '\t'] = text := Except.ok.inj (hline.symm.trans htext)
  refine ⟨by decide, hspan, hmulti, r, hshape, (hunder ?_).2 ⟨by decide, ?_⟩⟩
  · decide +kernel
  · rintro c hc
    obtain rfl := Option.some.inj hc
    decide +kernel

theorem rail_closes_behind :
    (let p : Placed := ⟨⟨.primary, ⟨"a", 0, 5, by decide⟩, none⟩, ⟨"a", "a\ne\u0301"⟩,
      ⟨"a", ⟨1, 1⟩, ⟨2, 3⟩, 0, 5, 0, 5⟩, 0⟩
    p.source.resolve p.subject.span.start p.subject.span.stop = .ok p.span ∧ p.span.isMultiline = true ∧
      p.source.lineText ((p.span.stop.line : Int) - 1) = .ok ['e', '\u0301'] ∧
      ∃ r, p.shape 1 = .ok (.rail r) ∧ 0 < Text.width 1 (['e', '\u0301'].take (p.span.stop.column - 1)) ∧
        ¬ r.endCell < Text.width 1 (['e', '\u0301'].take (p.span.stop.column - 1))) ∧
    (let p : Placed := ⟨⟨.primary, ⟨"a", 0, 7, by decide⟩, none⟩, ⟨"a", "ab\r\nc\r\n"⟩,
      ⟨"a", ⟨1, 1⟩, ⟨2, 3⟩, 0, 7, 0, 5⟩, 0⟩
    p.source.resolve p.subject.span.start p.subject.span.stop = .ok p.span ∧ p.span.isMultiline = true ∧
      p.source.lineText ((p.span.stop.line : Int) - 1) = .ok ['c'] ∧
      ∃ r, p.shape 1 = .ok (.rail r) ∧ 0 < Text.width 1 (['c'].take (p.span.stop.column - 1)) ∧
        ¬ r.endCell < Text.width 1 (['c'].take (p.span.stop.column - 1))) := by
  refine ⟨⟨rfl, rfl, rfl, _, rfl, ?_, ?_⟩, ⟨rfl, rfl, rfl, _, rfl, ?_, ?_⟩⟩
  all_goals decide +kernel

end Placed

end Diagnostics
