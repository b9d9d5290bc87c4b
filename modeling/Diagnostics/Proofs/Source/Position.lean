import Diagnostics.Proofs.Source.LineTable

namespace Diagnostics

open Text.Utf8 (encode IsBoundary)

namespace Position

instance : LT Position := ⟨fun p q => p.line < q.line ∨ p.line = q.line ∧ p.column < q.column⟩

theorem lt_iff {p q : Position} : p < q ↔ p.line < q.line ∨ p.line = q.line ∧ p.column < q.column :=
  Iff.rfl

theorem lt_trans {p q r : Position} (h : p < q) (h' : q < r) : p < r := by
  rw [lt_iff] at *
  omega

theorem lt_irrefl (p : Position) : ¬ p < p := by
  rw [lt_iff]
  omega

def step (p : Position) (c : Char) : Position :=
  if c = '\n' then ⟨p.line + 1, 1⟩ else ⟨p.line, p.column + 1⟩

def after (cs : List Char) : Position := cs.foldl step ⟨1, 1⟩

theorem lt_step (p : Position) (c : Char) : p < p.step c := by
  rw [lt_iff, step]
  split <;> simp

theorem lt_foldl_step (p : Position) (c : Char) (cs : List Char) : p < (c :: cs).foldl step p := by
  induction cs generalizing p c with
  | nil => exact lt_step p c
  | cons d cs ih => exact lt_trans (lt_step p c) (ih (p.step c) d)

theorem after_lt {pre cs : List Char} (h : pre <+: cs) (hne : pre ≠ cs) : after pre < after cs := by
  obtain ⟨more, rfl⟩ := h
  cases more with
  | nil => simp at hne
  | cons c more =>
    rw [after, after, List.foldl_append]
    exact lt_foldl_step _ c more

theorem foldl_step_of_notMem {l : List Char} (p : Position) (h : '\n' ∉ l) :
    l.foldl step p = ⟨p.line, p.column + l.length⟩ := by
  induction l generalizing p with
  | nil => rfl
  | cons c l ih =>
    rw [List.mem_cons, not_or] at h
    rw [List.foldl_cons, ih _ h.2, step, if_neg (Ne.symm h.1), List.length_cons]
    simp only [mk.injEq, true_and]
    omega

theorem after_before {cs : List Char} {i : Nat} (h : i ≤ (Text.lines cs).length) :
    after (Text.before cs i) = ⟨i + 1, 1⟩ := by
  induction i with
  | zero => rfl
  | succ i ih =>
    rw [Text.before_succ h, after, List.foldl_append, List.foldl_append,
      ← after, ih (Nat.le_of_succ_le h), foldl_step_of_notMem _ (Text.feed_notMem_getElem h)]
    rfl

theorem after_append_take {cs : List Char} {i j : Nat} (h : i < (Text.lines cs).length)
    (hj : j ≤ (Text.lines cs)[i].length) :
    after (Text.before cs i ++ (Text.lines cs)[i].take j) = ⟨i + 1, j + 1⟩ := by
  have hfeed : '\n' ∉ (Text.lines cs)[i].take j := fun hmem =>
    Text.feed_notMem_getElem h (List.mem_of_mem_take hmem)
  rw [after, List.foldl_append, ← after, after_before (Nat.le_of_lt h), foldl_step_of_notMem _ hfeed,
    List.length_take, Nat.min_eq_left hj, Nat.add_comm 1 j]

end Position

theorem countChars_encode (cs : List Char) : countChars (encode cs) = cs.length := by
  induction cs with
  | nil => rfl
  | cons c cs ih =>
    obtain ⟨first, more, heq, hfirst, hmore, -⟩ := Text.Utf8.utf8EncodeChar_shape c
    have hzero : more.countP (fun b => !Text.Utf8.isContinuation b) = 0 := by
      rw [List.countP_eq_zero]
      intro b hb
      simp [hmore b hb]
    rw [countChars] at ih
    rw [countChars, Text.Utf8.encode_cons, heq, List.countP_append, ih, List.countP_cons_of_pos (by simp [hfirst]),
      hzero, List.length_cons, Nat.zero_add, Nat.add_comm]

namespace Source

def lastColumn (s : Source) (line : Nat) : Nat := (s.rows.getD (line - 1) []).length + 1

def HasPosition (s : Source) (p : Position) : Prop :=
  (1 ≤ p.line ∧ p.line ≤ s.lineCount) ∧ 1 ≤ p.column ∧ p.column ≤ s.lastColumn p.line

theorem lastColumn_eq {s : Source} {i : Nat} (h : i < s.rows.length) :
    s.lastColumn (i + 1) = s.rows[i].length + 1 := by
  rw [lastColumn, Nat.add_sub_cancel, List.getD_eq_getElem?_getD, List.getElem?_eq_getElem h,
    Option.getD_some]

theorem hasPosition_iff {s : Source} {p : Position} :
    s.HasPosition p ↔ ∃ i, ∃ h : i < s.rows.length, ∃ j ≤ s.rows[i].length, p = ⟨i + 1, j + 1⟩ := by
  constructor
  · rintro ⟨⟨hpos, hline⟩, hcol, hlast⟩
    have hi : p.line - 1 < s.rows.length := by rw [lineCount_eq] at hline; omega
    rw [show p.line = p.line - 1 + 1 by omega, lastColumn_eq hi] at hlast
    refine ⟨p.line - 1, hi, p.column - 1, by omega, ?_⟩
    rw [Nat.sub_add_cancel hpos, Nat.sub_add_cancel hcol]
  · rintro ⟨i, hi, j, hj, rfl⟩
    refine ⟨⟨Nat.succ_pos i, ?_⟩, Nat.succ_pos j, ?_⟩
    · rw [lineCount_eq]; exact hi
    · rw [lastColumn_eq hi]; exact Nat.succ_le_succ hj

theorem checkOffset_eq (s : Source) (offset : Nat) :
    s.checkOffset offset =
      if s.data.length < offset then .error (.offsetTooLarge offset s.data.length)
      else if IsBoundary s.content.toList offset then .ok ()
      else .error (.insideCharacter offset) := by
  have hneg : ¬ (offset : Int) < 0 := by omega
  simp only [checkOffset, hneg, false_or, Int.ofNat_lt, Int.toNat_natCast]
  by_cases hlt : s.data.length < offset
  · rw [if_pos hlt, if_pos hlt]
  · have hb := Text.Utf8.isBoundary_iff (Nat.le_of_not_lt hlt)
    rw [if_neg hlt, if_neg hlt, data]
    by_cases hbound : IsBoundary s.content.toList offset
    · simp only [hb.1 hbound, hbound, Bool.false_eq_true, if_true, if_false]
    · have hany : (((encode s.content.toList)[offset]?).any Text.Utf8.isContinuation) = true := by
        rw [← Bool.not_eq_false]
        exact fun h => hbound (hb.2 h)
      simp only [hany, hbound, if_true, if_false]

theorem lineOf_eq {s : Source} {offset : Nat} (h : offset ≤ s.data.length) :
    s.lineOf offset = (s.data.take offset).count lineFeed + 1 := by
  have hsplit := startsAfter_append 0 (s.data.take offset) (s.data.drop offset)
  rw [List.take_append_drop, List.length_take, Nat.min_eq_left h, Nat.zero_add] at hsplit
  have hfront : (startsAfter 0 (s.data.take offset)).countP (· ≤ offset) =
      (startsAfter 0 (s.data.take offset)).length := by
    rw [List.countP_eq_length]
    intro k hk
    have := startsAfter_bounds hk
    rw [List.length_take] at this
    simpa using by omega
  have hback : (startsAfter offset (s.data.drop offset)).countP (· ≤ offset) = 0 := by
    rw [List.countP_eq_zero]
    intro k hk
    have := startsAfter_bounds hk
    simpa using this.1
  rw [lineOf, lineStarts, List.countP_cons_of_pos (by simp), hsplit, List.countP_append, hfront, hback,
    length_startsAfter, Nat.add_zero]

theorem take_data {s : Source} {pre : List Char} (h : pre <+: s.content.toList) :
    s.data.take (encode pre).length = encode pre := by
  obtain ⟨post, hpost⟩ := h
  rw [data, ← hpost, Text.Utf8.encode_append, List.take_left]

theorem locate_of_isPrefix {s : Source} {pre : List Char} (h : pre <+: s.content.toList) :
    s.locate (encode pre).length = .ok (Position.after pre) := by
  have hbound : IsBoundary s.content.toList (encode pre).length := ⟨pre, h, rfl⟩
  have hle : (encode pre).length ≤ s.data.length := Text.Utf8.isBoundary_le hbound
  obtain ⟨i, hi, j, hj, hpre⟩ := Text.prefix_eq_before h
  have hline : s.lineOf (encode pre).length = i + 1 := by
    have hfeed : '\n' ∉ (Text.lines s.content.toList)[i].take j := fun hmem =>
      Text.feed_notMem_getElem hi (List.mem_of_mem_take hmem)
    rw [lineOf_eq hle, take_data h, count_feed_encode, hpre, List.count_append,
      Text.count_before (Nat.le_of_lt hi), List.count_eq_zero.2 hfeed]
  have hcolumn : s.columnNumber i (encode pre).length = j + 1 := by
    have htake : (Text.lines s.content.toList)[i].take j <+: s.rows[i] := List.take_prefix j _
    rw [columnNumber, getElem?_lineStarts hi]
    simp only [Int.toNat_natCast]
    rw [columnFrom, hpre, Text.Utf8.encode_append, List.length_append, ← startOf, slice_line hi htake,
      countChars_encode, List.length_take, Nat.min_eq_left hj]
  rw [locate, checkOffset_eq, if_neg (Nat.not_lt.2 hle), if_pos hbound, Int.toNat_natCast]
  change Except.ok (Position.mk (s.lineOf _) (s.columnNumber (s.lineOf _ - 1) _)) = _
  rw [hline, Nat.add_sub_cancel, hcolumn, hpre, Position.after_append_take hi hj]

theorem locate_of_not_isBoundary {s : Source} {offset : Nat} (h : ¬ IsBoundary s.content.toList offset) :
    s.locate offset = .error (if s.data.length < offset then .offsetTooLarge offset s.data.length
      else .insideCharacter offset) := by
  rw [locate, checkOffset_eq]
  by_cases hlt : s.data.length < offset
  · rw [if_pos hlt, if_pos hlt]; rfl
  · rw [if_neg hlt, if_neg hlt, if_neg h]; rfl

theorem locate_of_neg {s : Source} {offset : Int} (h : offset < 0) :
    s.locate offset = .error (.offsetTooLarge offset s.data.length) := by
  rw [locate, checkOffset, if_pos (.inl h)]
  rfl

theorem locate_eq_ok {s : Source} {offset : Int} {p : Position} :
    s.locate offset = .ok p ↔
      ∃ pre, pre <+: s.content.toList ∧ offset = (encode pre).length ∧ p = Position.after pre := by
  constructor
  · intro h
    by_cases hneg : offset < 0
    · rw [locate_of_neg hneg] at h
      cases h
    obtain ⟨n, rfl⟩ := Int.eq_ofNat_of_zero_le (Int.not_lt.1 hneg)
    by_cases hb : IsBoundary s.content.toList n
    · obtain ⟨pre, hpre, rfl⟩ := hb
      rw [locate_of_isPrefix hpre] at h
      exact ⟨pre, hpre, rfl, (Except.ok.inj h).symm⟩
    · rw [locate_of_not_isBoundary hb] at h
      cases h
  · rintro ⟨pre, hpre, rfl, rfl⟩
    exact locate_of_isPrefix hpre

theorem locate_lt_iff {s : Source} {a b : Int} {p q : Position} (ha : s.locate a = .ok p)
    (hb : s.locate b = .ok q) : a < b ↔ p < q := by
  obtain ⟨pre, hpre, rfl, rfl⟩ := locate_eq_ok.1 ha
  obtain ⟨pre', hpre', rfl, rfl⟩ := locate_eq_ok.1 hb
  rcases List.prefix_or_prefix_of_prefix hpre hpre' with h | h <;> by_cases heq : pre = pre'
  · subst heq
    exact ⟨fun hlt => absurd hlt (Int.lt_irrefl _), fun hlt => absurd hlt (Position.lt_irrefl _)⟩
  · exact ⟨fun _ => Position.after_lt h heq, fun _ => by
      have := Text.Utf8.length_encode_lt h heq
      omega⟩
  · subst heq
    exact ⟨fun hlt => absurd hlt (Int.lt_irrefl _), fun hlt => absurd hlt (Position.lt_irrefl _)⟩
  · have hlen := Text.Utf8.length_encode_lt h (Ne.symm heq)
    have hpos := Position.after_lt h (Ne.symm heq)
    exact ⟨fun hlt => by omega, fun hlt => absurd (Position.lt_trans hlt hpos) (Position.lt_irrefl _)⟩

theorem offsetOf_noLine {s : Source} {line : Int} (column : Int)
    (h : line < 1 ∨ (s.lineCount : Int) < line) :
    s.offsetOf line column = .error (.lineTooLarge (line - 1) (s.lineCount - 1)) := by
  rw [lineCount_eq] at h
  rw [offsetOf, lineRange_error (by omega)]
  rfl

theorem offsetOf_row {s : Source} {i : Nat} (h : i < s.rows.length) (column : Int) :
    s.offsetOf (i + 1 : Nat) column =
      if column < 1 ∨ (s.lastColumn (i + 1) : Int) < column then
        .error (.columnTooLarge column (s.lastColumn (i + 1)))
      else .ok (encode (Text.before s.content.toList i ++ s.rows[i].take (column - 1).toNat)).length := by
  have hindex : ((i + 1 : Nat) : Int) - 1 = i := by omega
  have hchars : chars (s.rawLine i) = s.rows[i] := by rw [rawLine_eq h, chars_encode]
  rw [offsetOf, hindex, lineRange_eq h, Int.toNat_natCast, hchars, Text.Utf8.encode_append,
    List.length_append, lastColumn_eq h]
  simp only [bind, Except.bind]
  split <;> rfl

theorem offsetOf_eq {s : Source} {i j : Nat} (h : i < s.rows.length) (hj : j ≤ s.rows[i].length) :
    s.offsetOf (i + 1 : Nat) (j + 1 : Nat) =
      .ok (encode (Text.before s.content.toList i ++ s.rows[i].take j)).length := by
  have hj' : (((j + 1 : Nat) : Int) - 1).toNat = j := by omega
  rw [offsetOf_row h, if_neg (by rw [lastColumn_eq h]; omega), hj']

theorem exists_row {s : Source} {line : Int} (h : 1 ≤ line ∧ line ≤ s.lineCount) :
    ∃ i, ∃ _ : i < s.rows.length, line = (i + 1 : Nat) := by
  rw [lineCount_eq] at h
  exact ⟨(line - 1).toNat, by omega, by omega⟩

theorem offsetOf_eq_ok {s : Source} {line column : Int} {offset : Nat}
    (h : s.offsetOf line column = .ok offset) :
    ∃ i, ∃ hi : i < s.rows.length, ∃ j ≤ s.rows[i].length, line = (i + 1 : Nat) ∧ column = (j + 1 : Nat) ∧
      offset = (encode (Text.before s.content.toList i ++ s.rows[i].take j)).length := by
  by_cases hline : line < 1 ∨ (s.lineCount : Int) < line
  · rw [offsetOf_noLine column hline] at h
    cases h
  have hin : 1 ≤ line ∧ line ≤ s.lineCount := by omega
  obtain ⟨i, hi, rfl⟩ := exists_row hin
  rw [offsetOf_row hi] at h
  split at h
  · cases h
  · rename_i hcol
    rw [lastColumn_eq hi] at hcol
    exact ⟨i, hi, (column - 1).toNat, by omega, rfl, by omega, (Except.ok.inj h).symm⟩

theorem locate_before_take {s : Source} {i j : Nat} (h : i < s.rows.length) (hj : j ≤ s.rows[i].length) :
    s.locate (encode (Text.before s.content.toList i ++ s.rows[i].take j)).length = .ok ⟨i + 1, j + 1⟩ := by
  have hpre := Text.before_take_isPrefix h j
  exact (locate_of_isPrefix hpre).trans (congrArg Except.ok (Position.after_append_take h hj))

theorem locate_row {s : Source} {i j : Nat} (h : i < s.rows.length) (hj : j ≤ s.rows[i].length) :
    s.locate (s.startOf i + (encode (s.rows[i].take j)).length : Nat) = .ok ⟨i + 1, j + 1⟩ := by
  rw [← locate_before_take h hj, Text.Utf8.encode_append, List.length_append, startOf]

theorem exists_row_of_locate {s : Source} {offset : Nat} {p : Position} (h : s.locate offset = .ok p) :
    ∃ i, ∃ hi : i < s.rows.length, ∃ j ≤ s.rows[i].length,
      offset = s.startOf i + (encode (s.rows[i].take j)).length ∧ p = ⟨i + 1, j + 1⟩ := by
  obtain ⟨pre, hpre, hoffset, rfl⟩ := locate_eq_ok.1 h
  obtain ⟨i, hi, j, hj, rfl⟩ := Text.prefix_eq_before hpre
  refine ⟨i, hi, j, hj, ?_, Position.after_append_take hi hj⟩
  rw [Int.ofNat_inj.1 hoffset, Text.Utf8.encode_append, List.length_append]
  rfl

theorem locate_orderIso (s : Source) :
    (∀ offset : Int, (∃ p, s.locate offset = .ok p) ↔
      ∃ n : Nat, offset = n ∧ IsBoundary s.content.toList n) ∧
    (∀ (offset : Nat) p, s.locate offset = .ok p →
      s.HasPosition p ∧ s.offsetOf p.line p.column = .ok offset) ∧
    (∀ p, s.HasPosition p → ∃ offset : Nat, s.locate offset = .ok p) ∧
    (∀ (a b : Int) p q, s.locate a = .ok p → s.locate b = .ok q → (a < b ↔ p < q)) ∧
    (∀ (line column : Int) (offset : Nat), s.offsetOf line column = .ok offset →
      ∃ p, s.locate offset = .ok p ∧ line = p.line ∧ column = p.column) ∧
    (∀ line column : Int,
      (s.offsetOf line column = .error (.lineTooLarge (line - 1) (s.lineCount - 1)) ↔
        line < 1 ∨ (s.lineCount : Int) < line) ∧
      (1 ≤ line ∧ line ≤ s.lineCount →
        (s.offsetOf line column = .error (.columnTooLarge column (s.lastColumn line.toNat)) ↔
          column < 1 ∨ (s.lastColumn line.toNat : Int) < column) ∧
        ((∃ offset, s.offsetOf line column = .ok offset) ↔
          1 ≤ column ∧ column ≤ s.lastColumn line.toNat))) := by
  refine ⟨?_, ?_, ?_, fun a b p q ha hb => locate_lt_iff ha hb, ?_, fun line column => ⟨?_, fun hline => ?_⟩⟩
  · intro offset
    simp only [locate_eq_ok]
    constructor
    · rintro ⟨_, pre, hpre, rfl, rfl⟩
      exact ⟨_, rfl, pre, hpre, rfl⟩
    · rintro ⟨_, rfl, pre, hpre, rfl⟩
      exact ⟨_, pre, hpre, rfl, rfl⟩
  · intro offset p h
    obtain ⟨pre, hpre, hoffset, rfl⟩ := locate_eq_ok.1 h
    obtain ⟨i, hi, j, hj, rfl⟩ := Text.prefix_eq_before hpre
    rw [Position.after_append_take hi hj, Int.ofNat_inj.1 hoffset]
    exact ⟨hasPosition_iff.2 ⟨i, hi, j, hj, rfl⟩, offsetOf_eq hi hj⟩
  · intro p hp
    obtain ⟨i, hi, j, hj, rfl⟩ := hasPosition_iff.1 hp
    exact ⟨_, locate_before_take hi hj⟩
  · intro line column offset h
    obtain ⟨i, hi, j, hj, rfl, rfl, rfl⟩ := offsetOf_eq_ok h
    exact ⟨_, locate_before_take hi hj, rfl, rfl⟩
  · refine ⟨fun h => ?_, offsetOf_noLine column⟩
    refine Decidable.byContradiction fun hline => ?_
    have hin : 1 ≤ line ∧ line ≤ s.lineCount := by omega
    obtain ⟨i, hi, rfl⟩ := exists_row hin
    rw [offsetOf_row hi] at h
    split at h <;> cases h
  · obtain ⟨i, hi, rfl⟩ := exists_row hline
    rw [offsetOf_row hi, Int.toNat_natCast]
    split
    · rename_i hcol
      exact ⟨by simpa using hcol, by simp; omega⟩
    · rename_i hcol
      exact ⟨by simpa using hcol, by simp; omega⟩

theorem locate_orderIso_return :
    (⟨"a", "é\r\n"⟩ : Source).locate 3 = .ok ⟨1, 3⟩ ∧ (⟨"a", "é\r\n"⟩ : Source).offsetOf 1 3 = .ok 3 := by
  have h : (⟨"a", "é\r\n"⟩ : Source).locate 3 = .ok ⟨1, 3⟩ := rfl
  exact ⟨h, ((locate_orderIso _).2.1 3 ⟨1, 3⟩ h).2⟩

end Source

end Diagnostics
