import Diagnostics.Proofs.Source.Span

namespace Diagnostics

open Text.Utf8 (encode IsBoundary)

theorem mem_startsAfter {pos k : Nat} {bytes : List UInt8} :
    k ∈ startsAfter pos bytes ↔ ∃ i, bytes[i]? = some lineFeed ∧ k = pos + i + 1 := by
  induction bytes generalizing pos with
  | nil => simp [startsAfter]
  | cons x bytes ih =>
    have hlater : k ∈ startsAfter (pos + 1) bytes ↔
        ∃ i, (x :: bytes)[i + 1]? = some lineFeed ∧ k = pos + (i + 1) + 1 := by
      simp only [ih, List.getElem?_cons_succ, Nat.add_assoc, Nat.add_comm 1]
    rw [← Nat.or_exists_add_one, ← hlater, startsAfter]
    split <;> simp_all

theorem ResolvedSpan.mem_lineNumbers {r : ResolvedSpan} {line : Nat} :
    line ∈ r.lineNumbers ↔ r.start.line ≤ line ∧ line ≤ r.stop.line := by
  rw [lineNumbers, List.mem_map]
  constructor
  · rintro ⟨k, hk, rfl⟩
    rw [List.mem_range] at hk
    omega
  · intro h
    exact ⟨line - r.start.line, by rw [List.mem_range]; omega, by omega⟩

theorem ResolvedSpan.ends_lineNumbers {r : ResolvedSpan} (h : r.start.line ≤ r.stop.line) :
    r.lineNumbers.head? = some r.start.line ∧ r.lineNumbers.getLast? = some r.stop.line := by
  have hcount : r.stop.line + 1 - r.start.line = r.stop.line - r.start.line + 1 := by omega
  rw [lineNumbers, hcount]
  constructor
  · rw [List.range_succ_eq_map]
    rfl
  · rw [List.range_succ, List.map_append, List.map_singleton, List.getLast?_concat, Nat.add_sub_cancel' h]

namespace Source

variable {s : Source} {a b : Nat} {p q : Position}

def HoldsByte (s : Source) (line offset : Nat) : Prop :=
  offset < s.data.length ∧ 1 ≤ line ∧ (∃ start, s.lineStarts[line - 1]? = some start ∧ start ≤ offset) ∧
    ∀ next, s.lineStarts[line]? = some next → offset < next

def feedsBefore (s : Source) (offset : Nat) : Nat := (s.data.take offset).count lineFeed

theorem feedsBefore_mono (h : a ≤ b) : s.feedsBefore a ≤ s.feedsBefore b :=
  (List.take_sublist_take_left h).count_le lineFeed

theorem feedsBefore_of_isPrefix {pre : List Char} (h : pre <+: s.content.toList) :
    s.feedsBefore (encode pre).length = pre.count '\n' := by
  rw [feedsBefore, take_data h, count_feed_encode]

theorem feedsBefore_lt_length (offset : Nat) : s.feedsBefore offset < s.rows.length := by
  have hle := (List.take_sublist offset s.data).count_le lineFeed
  rw [data, count_feed_encode, ← data] at hle
  rw [rows, Text.length_lines]
  exact Nat.lt_succ_of_le hle

theorem before_isPrefix {i : Nat} (h : i < s.rows.length) : Text.before s.content.toList i <+: s.content.toList :=
  (List.prefix_append _ _).trans (Text.before_getElem_isPrefix h)

theorem feedsBefore_startOf {i : Nat} (h : i < s.rows.length) : s.feedsBefore (s.startOf i) = i := by
  rw [startOf, feedsBefore_of_isPrefix (before_isPrefix h), Text.count_before (Nat.le_of_lt h)]

theorem startOf_le_iff {i : Nat} (h : i < s.rows.length) : s.startOf i ≤ a ↔ i ≤ s.feedsBefore a := by
  constructor
  · intro hle
    have hmono : s.feedsBefore (s.startOf i) ≤ s.feedsBefore a := feedsBefore_mono hle
    rwa [feedsBefore_startOf h] at hmono
  · intro hle
    cases i with
    | zero => exact Nat.zero_le a
    | succ k =>
      have hk : k < s.rows.length := Nat.lt_of_succ_lt h
      have hrow : '\n' ∉ s.rows[k] := Text.feed_notMem_getElem hk
      have hprefix : Text.before s.content.toList k ++ s.rows[k] <+: s.content.toList :=
        Text.before_getElem_isPrefix hk
      refine Decidable.byContradiction fun hlt => ?_
      -- In front of the feed that opens the line there are only the feeds of the lines before.
      have hfront : a ≤ (encode (Text.before s.content.toList k ++ s.rows[k])).length := by
        rw [startOf_succ hk, startOf] at hlt
        rw [Text.Utf8.encode_append, List.length_append]
        omega
      have hmono : s.feedsBefore a ≤ s.feedsBefore (encode (Text.before s.content.toList k ++ s.rows[k])).length :=
        feedsBefore_mono hfront
      rw [feedsBefore_of_isPrefix hprefix, List.count_append, Text.count_before (Nat.le_of_lt hk),
        List.count_eq_zero.2 hrow] at hmono
      omega

theorem feedsBefore_lt_iff (h : a ≤ b) :
    s.feedsBefore a < s.feedsBefore b ↔ ∃ k, a ≤ k ∧ k < b ∧ s.data[k]? = some lineFeed := by
  have hsplit : s.data.take b = s.data.take a ++ (s.data.drop a).take (b - a) := by
    rw [← List.take_add, Nat.add_sub_cancel' h]
  rw [feedsBefore, feedsBefore, hsplit, List.count_append, Nat.lt_add_right_iff_pos, List.count_pos_iff,
    List.mem_iff_getElem?]
  constructor
  · rintro ⟨i, hi⟩
    rw [List.getElem?_take, List.getElem?_drop] at hi
    split at hi
    · exact ⟨a + i, by omega, by omega, hi⟩
    · cases hi
  · rintro ⟨k, hak, hkb, hk⟩
    refine ⟨k - a, ?_⟩
    rw [List.getElem?_take, if_pos (by omega), List.getElem?_drop, Nat.add_sub_cancel' hak, hk]

def LineAt (s : Source) (index offset : Nat) : Prop :=
  (∃ start, s.lineStarts[index]? = some start ∧ start ≤ offset) ∧
    ∀ next, s.lineStarts[index + 1]? = some next → offset < next

theorem lineAt_iff {index offset : Nat} : s.LineAt index offset ↔ index = s.feedsBefore offset := by
  have hlength : s.lineStarts.length = s.rows.length := s.lineCount_eq
  have hfeeds := s.feedsBefore_lt_length offset
  constructor
  · rintro ⟨⟨start, hstart, hle⟩, hnext⟩
    have hi : index < s.rows.length := hlength ▸ (List.getElem?_eq_some_iff.1 hstart).1
    rw [getElem?_lineStarts hi, Option.some.injEq] at hstart
    rw [← hstart, startOf_le_iff hi] at hle
    refine Nat.le_antisymm hle (Nat.le_of_lt_succ ?_)
    by_cases hlast : index + 1 < s.rows.length
    · have hbehind := hnext _ (getElem?_lineStarts hlast)
      exact Nat.lt_of_not_le fun h => absurd ((startOf_le_iff hlast).2 h) (Nat.not_le.2 hbehind)
    · omega
  · rintro rfl
    refine ⟨⟨_, getElem?_lineStarts hfeeds, (startOf_le_iff hfeeds).2 (Nat.le_refl _)⟩, fun next hnext => ?_⟩
    have hi : s.feedsBefore offset + 1 < s.rows.length := hlength ▸ (List.getElem?_eq_some_iff.1 hnext).1
    rw [getElem?_lineStarts hi, Option.some.injEq] at hnext
    rw [← hnext]
    exact Nat.lt_of_not_le fun h => absurd ((startOf_le_iff hi).1 h) (Nat.not_succ_le_self _)

theorem holdsByte_iff {line offset : Nat} :
    s.HoldsByte line offset ↔ offset < s.data.length ∧ line = s.feedsBefore offset + 1 := by
  have hat (hline : 1 ≤ line) :
      ((∃ start, s.lineStarts[line - 1]? = some start ∧ start ≤ offset) ∧
        ∀ next, s.lineStarts[line]? = some next → offset < next) ↔ line - 1 = s.feedsBefore offset := by
    rw [← lineAt_iff, LineAt, Nat.sub_add_cancel hline]
  constructor
  · rintro ⟨hoffset, hline, hholds⟩
    have hindex := (hat hline).1 hholds
    exact ⟨hoffset, by omega⟩
  · rintro ⟨hoffset, rfl⟩
    exact ⟨hoffset, Nat.succ_pos _, (hat (Nat.succ_pos _)).2 rfl⟩

theorem exists_feedsBefore_eq {k : Nat} (ha : s.feedsBefore a ≤ k) (hb : k ≤ s.feedsBefore b) (hab : a ≤ b) :
    ∃ offset, a ≤ offset ∧ offset ≤ b ∧ s.feedsBefore offset = k := by
  rcases Nat.lt_or_eq_of_le ha with hlt | rfl
  · have hk : k < s.rows.length := Nat.lt_of_le_of_lt hb (s.feedsBefore_lt_length b)
    refine ⟨s.startOf k, ?_, (startOf_le_iff hk).2 hb, feedsBefore_startOf hk⟩
    exact Nat.le_of_not_le fun h => absurd ((startOf_le_iff hk).1 h) (Nat.not_le.2 hlt)
  · exact ⟨a, Nat.le_refl a, hab, rfl⟩

theorem line_of_locate (h : s.locate a = .ok p) : p.line = s.feedsBefore a + 1 := by
  obtain ⟨pre, hpre, hoffset, rfl⟩ := locate_eq_ok.1 h
  obtain ⟨i, hi, j, hj, rfl⟩ := Text.prefix_eq_before hpre
  have hfeed : '\n' ∉ (Text.lines s.content.toList)[i].take j := fun hmem =>
    Text.feed_notMem_getElem hi (List.mem_of_mem_take hmem)
  rw [Int.ofNat_inj.1 hoffset, feedsBefore_of_isPrefix hpre, List.count_append, Text.count_before (Nat.le_of_lt hi),
    List.count_eq_zero.2 hfeed, Position.after_append_take hi hj]

theorem exists_locate (h : IsBoundary s.content.toList a) : ∃ p, s.locate a = .ok p := by
  obtain ⟨pre, hpre, rfl⟩ := h
  exact ⟨_, locate_of_isPrefix hpre⟩

theorem lt_or_eq_of_locate (hab : a ≤ b) (hp : s.locate a = .ok p) (hq : s.locate b = .ok q) : p < q ∨ p = q := by
  rcases Nat.lt_or_eq_of_le hab with hlt | rfl
  · exact .inl ((locate_lt_iff hp hq).1 (Int.ofNat_lt.2 hlt))
  · exact .inr (Except.ok.inj (hp.symm.trans hq))

theorem endsBehindFeed_iff_getElem? : s.EndsBehindFeed a b ↔ a < b ∧ s.data[b - 1]? = some lineFeed := by
  rw [EndsBehindFeed, lineStarts, List.mem_cons, mem_startsAfter]
  constructor
  · rintro ⟨hab, rfl | ⟨i, hi, rfl⟩⟩
    · exact absurd hab (Nat.not_lt_zero a)
    · exact ⟨hab, by rwa [Nat.zero_add, Nat.add_sub_cancel]⟩
  · rintro ⟨hab, hfeed⟩
    exact ⟨hab, .inr ⟨b - 1, hfeed, by omega⟩⟩

theorem closing_self (s : Source) (p : Position) : s.closing p p = p := if_neg fun h => absurd h.1 (Nat.lt_irrefl _)

theorem locate_closing (hp : s.locate a = .ok p) (hq : s.locate b = .ok q) :
    s.locate (if a < b ∧ s.data[b - 1]? = some lineFeed then b - 1 else b : Nat) = .ok (s.closing p q) := by
  rw [closing]
  simp only [← endsBehindFeed_iff_getElem?, endsBehindFeed_iff hp hq]
  split
  · rename_i hfeed
    obtain ⟨hline, hcolumn⟩ := (endsBehindFeed_iff hp hq).2 hfeed
    obtain ⟨i, hi, j, hj, rfl, rfl⟩ := exists_row_of_locate hq
    obtain rfl : j = 0 := Nat.succ.inj hcolumn
    cases i with
    | zero => exact absurd hline (Nat.not_lt.2 (hasPosition_of_locate hp).1.1)
    | succ i =>
      have hback : s.startOf (i + 1) + (encode (s.rows[i + 1].take 0)).length - 1 =
          s.startOf i + (encode (s.rows[i].take s.rows[i].length)).length := by
        rw [startOf_succ, List.take_zero, List.take_length, Text.Utf8.encode_nil]
        rfl
      rw [hback, locate_row (Nat.lt_of_succ_lt hi) (Nat.le_refl _)]
      simp only [Nat.add_sub_cancel, Nat.reduceSubDiff, rawLine_eq (Nat.lt_of_succ_lt hi), countChars_encode]
  · exact hq

theorem line_closing (hab : a < b) (hp : s.locate a = .ok p) (hq : s.locate b = .ok q) :
    (s.closing p q).line = s.feedsBefore (b - 1) + 1 := by
  have hclosing := locate_closing hp hq
  split at hclosing
  · exact line_of_locate hclosing
  · rename_i hfeed
    have hsame : ¬ s.feedsBefore (b - 1) < s.feedsBefore b := by
      rw [feedsBefore_lt_iff (Nat.sub_le b 1)]
      rintro ⟨k, hle, hlt, hk⟩
      obtain rfl : k = b - 1 := by omega
      exact hfeed ⟨hab, hk⟩
    have hmono : s.feedsBefore (b - 1) ≤ s.feedsBefore b := feedsBefore_mono (Nat.sub_le b 1)
    rw [line_of_locate hclosing]
    omega

theorem resolve_of_locate (hab : a ≤ b) (hp : s.locate a = .ok p) (hq : s.locate b = .ok q) :
    ∃ lineStart lineEnd last,
      s.resolve a b = .ok ⟨s.name, p, s.closing p q, a, b, lineStart, lineEnd⟩ ∧
      s.lineStarts[p.line - 1]? = some lineStart ∧
      s.lineRange ((s.closing p q).line - 1) = .ok (last, lineEnd) := by
  have hstart := hasPosition_of_locate hp
  obtain ⟨hend, -⟩ := closing_of_hasPosition hstart (hasPosition_of_locate hq) (locate_line_le hab hp hq)
  obtain ⟨hi, hfirst⟩ := index_of_line hstart.1
  obtain ⟨⟨last, lineEnd⟩, hrange⟩ := lineRange_of_line hend.1
  refine ⟨s.startOf (p.line - 1), lineEnd, last, ?_, getElem?_lineStarts hi, hrange⟩
  have hlt : ¬ (b : Int) < a := by omega
  rw [resolve, if_neg hlt, hp, hq]
  simp only [bind, Except.bind, hfirst, lineRange_eq hi, hrange, Int.toNat_natCast]

theorem mem_lineNumbers_iff_holdsByte {r : ResolvedSpan} {line : Nat} (hab : a < b) (hstart : s.locate a = .ok r.start)
    (hb : b ≤ s.data.length) (hstop : r.stop.line = s.feedsBefore (b - 1) + 1) :
    line ∈ r.lineNumbers ↔ ∃ offset, a ≤ offset ∧ offset < b ∧ s.HoldsByte line offset := by
  rw [ResolvedSpan.mem_lineNumbers, line_of_locate hstart, hstop]
  simp only [holdsByte_iff]
  constructor
  · rintro ⟨hfirst, hlast⟩
    obtain ⟨offset, ha, hle, hfeeds⟩ :=
      exists_feedsBefore_eq (s := s) (k := line - 1) (by omega) (by omega) (Nat.le_sub_one_of_lt hab)
    exact ⟨offset, ha, by omega, by omega, by omega⟩
  · rintro ⟨offset, ha, hlt, -, rfl⟩
    have hfirst : s.feedsBefore a ≤ s.feedsBefore offset := feedsBefore_mono ha
    have hlast : s.feedsBefore offset ≤ s.feedsBefore (b - 1) := feedsBefore_mono (Nat.le_sub_one_of_lt hlt)
    omega

theorem resolve_covers (s : Source) (a b : Nat) (hab : a ≤ b) (ha : IsBoundary s.content.toList a)
    (hb : IsBoundary s.content.toList b) :
    ∃ r, s.resolve a b = .ok r ∧
      s.locate a = .ok r.start ∧
      s.locate (if a < b ∧ s.data[b - 1]? = some lineFeed then b - 1 else b : Nat) = .ok r.stop ∧
      (r.start < r.stop ∨ r.start = r.stop) ∧
      (a < b → ∀ line, line ∈ r.lineNumbers ↔ ∃ offset, a ≤ offset ∧ offset < b ∧ s.HoldsByte line offset) ∧
      (a = b → r.lineNumbers = [r.start.line]) ∧
      (r.isMultiline = true ↔ ∃ offset, a ≤ offset ∧ offset < b - 1 ∧ s.data[offset]? = some lineFeed) ∧
      (∃ first, r.lineNumbers.head? = some first ∧ s.lineStarts[first - 1]? = some r.lineStart) ∧
      ∃ last start, r.lineNumbers.getLast? = some last ∧ s.lineRange ((last : Int) - 1) = .ok (start, r.lineEnd) := by
  obtain ⟨p, hp⟩ := exists_locate ha
  obtain ⟨q, hq⟩ := exists_locate hb
  obtain ⟨lineStart, lineEnd, start, hresolve, hlineStart, hrange⟩ := resolve_of_locate hab hp hq
  have hclosing := locate_closing hp hq
  have hle := Text.Utf8.isBoundary_le hb
  have hlines := (hasPosition_of_resolve hab hresolve).2.2
  refine ⟨_, hresolve, hp, hclosing, ?order, ?covered, ?single, ?multiline, ?first, ?last⟩
  case order =>
    exact lt_or_eq_of_locate (by split <;> omega) hp hclosing
  case covered =>
    intro hlt line
    exact mem_lineNumbers_iff_holdsByte hlt hp hle (line_closing hlt hp hq)
  case single =>
    rintro rfl
    obtain rfl := Except.ok.inj (hp.symm.trans hq)
    rw [ResolvedSpan.lineNumbers, closing_self, Nat.add_sub_cancel_left]
    rfl
  case multiline =>
    rw [ResolvedSpan.isMultiline, decide_eq_true_iff]
    rcases Nat.lt_or_eq_of_le hab with hlt | rfl
    · rw [line_of_locate hp, line_closing hlt hp hq, Nat.add_lt_add_iff_right,
        feedsBefore_lt_iff (Nat.le_sub_one_of_lt hlt)]
    · obtain rfl := Except.ok.inj (hp.symm.trans hq)
      rw [closing_self]
      constructor
      · exact fun h => absurd h (Nat.lt_irrefl _)
      · rintro ⟨k, hle, hlt, -⟩
        omega
  case first =>
    exact ⟨p.line, (ResolvedSpan.ends_lineNumbers hlines).1, hlineStart⟩
  case last =>
    exact ⟨(s.closing p q).line, start, (ResolvedSpan.ends_lineNumbers hlines).2, hrange⟩

theorem resolve_covers_feeds :
    let s : Source := ⟨"a", "é\r\n\nb"⟩
    2 ≤ 5 ∧ IsBoundary s.content.toList 2 ∧ IsBoundary s.content.toList 5 ∧
      ∃ r, s.resolve 2 5 = .ok r ∧ s.locate 4 = .ok r.stop ∧
        ∀ line, line ∈ r.lineNumbers ↔ ∃ offset, 2 ≤ offset ∧ offset < 5 ∧ s.HoldsByte line offset := by
  intro s
  have hfirst : IsBoundary s.content.toList 2 := by decide
  have hlast : IsBoundary s.content.toList 5 := by decide
  have hfeed : 2 < 5 ∧ s.data[5 - 1]? = some lineFeed := by decide
  obtain ⟨r, hr, -, hstop, -, hlines, -⟩ := resolve_covers s 2 5 (by decide) hfirst hlast
  rw [if_pos hfeed] at hstop
  exact ⟨by decide, hfirst, hlast, r, hr, hstop, hlines (by decide)⟩

end Source

end Diagnostics
