import Diagnostics.Source.Position
import Diagnostics.Proofs.Text.Lines
import Diagnostics.Proofs.Text.Utf8

namespace Diagnostics

open Text.Utf8 (encode)

theorem slice_append (a b c : List UInt8) :
    slice a.length (a.length + b.length) (a ++ b ++ c) = b := by
  simp [slice]

theorem encode_feed : encode ['\n'] = [lineFeed] := rfl

theorem feed_mem_encode {cs : List Char} : lineFeed ∈ encode cs ↔ '\n' ∈ cs :=
  Text.Utf8.mem_encode_ascii (c := '\n') (by decide)

theorem startsAfter_append (pos : Nat) (a b : List UInt8) :
    startsAfter pos (a ++ b) = startsAfter pos a ++ startsAfter (pos + a.length) b := by
  induction a generalizing pos with
  | nil => rfl
  | cons x a ih =>
    have hpos : pos + (x :: a).length = pos + 1 + a.length := by rw [List.length_cons]; omega
    by_cases hx : x = lineFeed
    · simp [startsAfter, hx, ih, ← hpos]
    · simp [startsAfter, hx, ih, ← hpos]

theorem length_startsAfter (pos : Nat) (bytes : List UInt8) :
    (startsAfter pos bytes).length = bytes.count lineFeed := by
  induction bytes generalizing pos with
  | nil => rfl
  | cons x bytes ih => by_cases hx : x = lineFeed <;> simp [startsAfter, hx, ih]

theorem startsAfter_bounds {pos k : Nat} {bytes : List UInt8} (h : k ∈ startsAfter pos bytes) :
    pos < k ∧ k ≤ pos + bytes.length := by
  induction bytes generalizing pos with
  | nil => simp [startsAfter] at h
  | cons x bytes ih =>
    rw [List.length_cons]
    simp only [startsAfter] at h
    split at h
    · rcases List.mem_cons.1 h with rfl | h
      · omega
      · have := ih h; omega
    · have := ih h; omega

theorem startsAfter_of_notMem {bytes : List UInt8} (pos : Nat) (h : lineFeed ∉ bytes) :
    startsAfter pos bytes = [] := by
  rw [← List.length_eq_zero_iff, length_startsAfter, List.count_eq_zero.2 h]

theorem startsAfter_line {l : List Char} (pos : Nat) (rest : List Char) (h : '\n' ∉ l) :
    startsAfter pos (encode (l ++ '\n' :: rest)) =
      (pos + (encode l).length + 1) ::
        startsAfter (pos + (encode l).length + 1) (encode rest) := by
  have hl : lineFeed ∉ encode l := fun hmem => h (feed_mem_encode.1 hmem)
  have hbytes : encode (l ++ '\n' :: rest) = encode l ++ lineFeed :: encode rest := by
    rw [Text.Utf8.encode_append, Text.Utf8.encode_cons]; rfl
  rw [hbytes, startsAfter_append, startsAfter_of_notMem pos hl, List.nil_append, startsAfter, if_pos rfl]

theorem count_feed_encode (cs : List Char) : (encode cs).count lineFeed = cs.count '\n' := by
  induction cs using Text.feedInduction with
  | last l h =>
    rw [List.count_eq_zero.2 h, List.count_eq_zero.2 fun hmem => h (feed_mem_encode.1 hmem)]
  | feed l rest h ih =>
    rw [← length_startsAfter 0, startsAfter_line 0 rest h, List.length_cons, length_startsAfter, ih,
      List.count_append, List.count_cons_self, List.count_eq_zero.2 h, Nat.zero_add]

theorem getElem?_starts (pos : Nat) {cs : List Char} {i : Nat} (h : i < (Text.lines cs).length) :
    (pos :: startsAfter pos (encode cs))[i]? = some (pos + (encode (Text.before cs i)).length) := by
  induction cs using Text.feedInduction generalizing pos i with
  | last l hl =>
    obtain rfl : i = 0 := by simpa [Text.lines_of_notMem hl] using h
    rfl
  | feed l rest hl ih =>
    cases i with
    | zero => rfl
    | succ i =>
      rw [Text.lines_append_feed rest hl, List.length_cons] at h
      have hfeed : (String.utf8EncodeChar '\n').length = 1 := rfl
      rw [startsAfter_line pos rest hl, List.getElem?_cons_succ, ih _ (Nat.lt_of_succ_lt_succ h),
        Text.before_append_feed rest i hl, Text.Utf8.encode_append, Text.Utf8.encode_cons,
        List.length_append, List.length_append, hfeed]
      exact congrArg some (by omega)

namespace Source

def rows (s : Source) : List (List Char) := Text.lines s.content.toList

theorem lineCount_eq (s : Source) : s.lineCount = s.rows.length := by
  rw [lineCount, lineStarts, List.length_cons, length_startsAfter, data, count_feed_encode, rows,
    Text.length_lines]

def startOf (s : Source) (i : Nat) : Nat := (encode (Text.before s.content.toList i)).length

theorem getElem?_lineStarts {s : Source} {i : Nat} (h : i < s.rows.length) :
    s.lineStarts[i]? = some (s.startOf i) := by
  rw [lineStarts, data, getElem?_starts 0 h, Nat.zero_add, startOf]

theorem startOf_succ {s : Source} {i : Nat} (h : i < s.rows.length) :
    s.startOf (i + 1) = s.startOf i + (encode s.rows[i]).length + 1 := by
  rw [startOf, Text.before_succ h, Text.Utf8.encode_append, Text.Utf8.encode_append, encode_feed,
    List.length_append, List.length_append]
  rfl

theorem data_eq_around {s : Source} {i : Nat} (h : i < s.rows.length) :
    ∃ after, s.data = encode (Text.before s.content.toList i) ++ encode s.rows[i] ++ after := by
  obtain ⟨after, hafter⟩ := Text.before_getElem_isPrefix h
  refine ⟨encode after, ?_⟩
  rw [data, ← Text.Utf8.encode_append, ← Text.Utf8.encode_append]
  exact congrArg encode hafter.symm

theorem feedOf_eq {s : Source} {i : Nat} (h : i < s.rows.length) :
    s.feedOf i = s.startOf i + (encode s.rows[i]).length := by
  by_cases hnext : i + 1 < s.rows.length
  · rw [feedOf, getElem?_lineStarts hnext]
    exact Nat.sub_eq_of_eq_add (startOf_succ h)
  · have hlast : Text.before s.content.toList i ++ s.rows[i] = s.content.toList :=
      Text.before_last (Nat.le_antisymm h (Nat.le_of_not_lt hnext))
    have hnone : s.lineStarts[i + 1]? = none := by
      rw [List.getElem?_eq_none_iff]
      have := s.lineCount_eq
      rw [lineCount] at this
      omega
    rw [feedOf, hnone]
    simp only [data, startOf]
    rw [← List.length_append, ← Text.Utf8.encode_append]
    exact congrArg (fun cs => (encode cs).length) hlast.symm

theorem chars_encode (cs : List Char) : chars (encode cs) = cs := by
  rw [chars, Text.Utf8.decode_encode]

end Source

def dropReturn (l : List Char) : List Char := if l.getLast? = some '\r' then l.dropLast else l

theorem dropReturn_isPrefix (l : List Char) : dropReturn l <+: l := by
  rw [dropReturn]
  split
  · exact List.dropLast_prefix l
  · exact List.prefix_refl l

theorem getLast?_encode_return (l : List Char) :
    (encode l).getLast? = some carriageReturn ↔ l.getLast? = some '\r' := by
  have hmem (c : Char) : carriageReturn ∈ encode [c] ↔ '\r' ∈ [c] :=
    Text.Utf8.mem_encode_ascii (c := '\r') (by decide)
  rcases List.eq_nil_or_concat l with rfl | ⟨l, c, rfl⟩
  · simp
  have hne : encode [c] ≠ [] := by
    have := Text.Utf8.length_utf8EncodeChar_pos c
    rw [Text.Utf8.encode_cons, ← List.length_pos_iff]
    simpa using this
  have hlast : (encode l ++ encode [c]).getLast? = (encode [c]).getLast? := by
    rw [List.getLast?_append, List.getLast?_eq_some_getLast hne]
    rfl
  rw [List.concat_eq_append, Text.Utf8.encode_append, hlast, List.getLast?_concat]
  constructor
  · intro h
    have := (hmem c).1 (List.mem_of_getLast? h)
    rw [List.mem_singleton.1 this]
  · intro h
    rw [Option.some.inj h]
    rfl

namespace Source

theorem trimReturn_eq {s : Source} {i : Nat} (h : i < s.rows.length) :
    s.trimReturn (s.startOf i) (s.startOf i + (encode s.rows[i]).length) =
      s.startOf i + (encode (dropReturn s.rows[i])).length := by
  obtain ⟨after, hdata⟩ := data_eq_around h
  generalize s.rows[i] = l at hdata ⊢
  rcases List.eq_nil_or_concat l with rfl | ⟨l, c, rfl⟩
  · simp [trimReturn, dropReturn]
  rw [List.concat_eq_append] at hdata ⊢
  have hpos : 0 < (encode (l ++ [c])).length := by
    have := Text.Utf8.length_utf8EncodeChar_pos c
    rw [Text.Utf8.encode_append, List.length_append, Text.Utf8.encode_cons, List.length_append]
    omega
  have hbyte : s.data[s.startOf i + (encode (l ++ [c])).length - 1]? = (encode (l ++ [c])).getLast? := by
    rw [hdata, startOf, List.append_assoc, List.getElem?_append_right (by omega),
      List.getElem?_append_left (by omega), List.getLast?_eq_getElem?]
    congr 1
    omega
  simp only [trimReturn, hbyte, getLast?_encode_return, dropReturn]
  by_cases hc : (l ++ [c]).getLast? = some '\r'
  · rw [if_pos ⟨by omega, hc⟩, if_pos hc, List.dropLast_concat]
    rw [List.getLast?_concat, Option.some.injEq] at hc
    have hone : (encode [c]).length = 1 := by rw [hc]; rfl
    rw [Text.Utf8.encode_append, List.length_append, hone, Nat.add_sub_assoc (by omega),
      Nat.add_sub_cancel]
  · rw [if_neg fun hboth => hc hboth.2, if_neg hc]

theorem lineRange_eq {s : Source} {i : Nat} (h : i < s.rows.length) :
    s.lineRange i = .ok (s.startOf i, s.startOf i + (encode (dropReturn s.rows[i])).length) := by
  have hi : ¬ ((i : Int) < 0) := by omega
  rw [lineRange, if_neg hi, Int.toNat_natCast, getElem?_lineStarts h]
  simp only
  rw [feedOf_eq h, trimReturn_eq h]

theorem lineRange_error {s : Source} {i : Int} (h : i < 0 ∨ (s.rows.length : Int) ≤ i) :
    s.lineRange i = .error (.lineTooLarge i (s.lineCount - 1)) := by
  by_cases hi : i < 0
  · rw [lineRange, if_pos hi, noLine]
  · have hlen := s.lineCount_eq
    rw [lineCount] at hlen
    have hnone : s.lineStarts[i.toNat]? = none := by
      rw [List.getElem?_eq_none_iff]
      omega
    rw [lineRange, if_neg hi, hnone, noLine]

theorem slice_line {s : Source} {i : Nat} (h : i < s.rows.length) {l : List Char} (hl : l <+: s.rows[i]) :
    slice (s.startOf i) (s.startOf i + (encode l).length) s.data = encode l := by
  obtain ⟨after, hdata⟩ := data_eq_around h
  obtain ⟨more, hmore⟩ := hl
  rw [hdata, ← hmore, Text.Utf8.encode_append, ← List.append_assoc, List.append_assoc _ _ after, startOf,
    slice_append]

theorem rawLine_eq {s : Source} {i : Nat} (h : i < s.rows.length) : s.rawLine i = encode s.rows[i] := by
  rw [rawLine, getElem?_lineStarts h]
  simp only
  rw [feedOf_eq h, slice_line h (List.prefix_refl _)]

theorem lineText_eq {s : Source} {i : Nat} (h : i < s.rows.length) :
    s.lineText i = .ok (dropReturn s.rows[i]) := by
  have hslice := slice_line h (dropReturn_isPrefix s.rows[i])
  rw [lineText, lineRange_eq h]
  simp only [Except.map, hslice, chars_encode]

theorem getLast?_lineStarts (s : Source) :
    s.lineStarts.getLast? = some s.data.length ↔ s.rows.getLast? = some [] := by
  have hlength : s.lineStarts.length = s.rows.length := s.lineCount_eq
  have hpos : 0 < s.rows.length := by simp [rows, Text.length_lines]
  have hlast : s.rows.length - 1 < s.rows.length := Nat.sub_one_lt_of_lt hpos
  have hcontent : Text.before s.content.toList (s.rows.length - 1) ++ s.rows[s.rows.length - 1] =
      s.content.toList := Text.before_last (Nat.sub_add_cancel hpos)
  have hdata : s.data.length = s.startOf (s.rows.length - 1) + (encode s.rows[s.rows.length - 1]).length := by
    rw [data, startOf, ← List.length_append, ← Text.Utf8.encode_append, hcontent]
  rw [List.getLast?_eq_getElem?, List.getLast?_eq_getElem?, hlength, getElem?_lineStarts hlast,
    List.getElem?_eq_getElem hlast, hdata, Option.some.injEq, Option.some.injEq]
  constructor
  · intro h
    by_contra hne
    have := Text.Utf8.length_encode_lt List.nil_prefix (Ne.symm hne)
    omega
  · intro h
    rw [h, Text.Utf8.encode_nil, List.length_nil, Nat.add_zero]

theorem index_of_line {s : Source} {line : Nat} (h : 1 ≤ line ∧ line ≤ s.lineCount) :
    line - 1 < s.rows.length ∧ (line : Int) - 1 = (line - 1 : Nat) := by
  rw [lineCount_eq] at h
  omega

theorem lineRange_of_line {s : Source} {line : Nat} (h : 1 ≤ line ∧ line ≤ s.lineCount) :
    ∃ range, s.lineRange ((line : Int) - 1) = .ok range := by
  obtain ⟨hi, hline⟩ := index_of_line h
  exact ⟨_, hline ▸ lineRange_eq hi⟩

def shownText (s : Source) (line : Nat) : List Char := dropReturn (s.rows.getD (line - 1) [])

theorem lineText_of_line {s : Source} {line : Nat} (h : 1 ≤ line ∧ line ≤ s.lineCount) :
    s.lineText ((line : Int) - 1) = .ok (s.shownText line) := by
  obtain ⟨hi, hline⟩ := index_of_line h
  rw [hline, lineText_eq hi, shownText, List.getD_eq_getElem?_getD, List.getElem?_eq_getElem hi,
    Option.getD_some]

theorem ne_feed_of_mem_shownText {s : Source} {line : Nat} {c : Char} (h : c ∈ s.shownText line) : c ≠ '\n' := by
  have hrow := (dropReturn_isPrefix _).subset h
  rw [List.getD_eq_getElem?_getD] at hrow
  cases hget : s.rows[line - 1]? with
  | none => simp [hget] at hrow
  | some row =>
    rw [hget, Option.getD_some] at hrow
    rintro rfl
    exact Text.feed_notMem_lines s.content.toList row (List.mem_of_getElem? hget) hrow

end Source

end Diagnostics
