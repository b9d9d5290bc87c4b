import Diagnostics.Proofs.Source.Excerpt
import Diagnostics.Proofs.Source.Span

namespace Diagnostics

open Text.Utf8 (encode)

namespace Text

def withReturns (cs : List Char) : List Char := cs.flatMap fun c => if c = '\n' then ['\r', '\n'] else [c]

theorem withReturns_append (a b : List Char) : withReturns (a ++ b) = withReturns a ++ withReturns b :=
  List.flatMap_append

theorem withReturns_of_notMem {l : List Char} (h : '\n' ∉ l) : withReturns l = l := by
  induction l with
  | nil => rfl
  | cons c l ih =>
    rw [List.mem_cons, not_or] at h
    rw [withReturns, List.flatMap_cons, if_neg (Ne.symm h.1), ← withReturns, ih h.2]
    rfl

theorem lines_withReturns_feed {l : List Char} (rest : List Char) (h : '\n' ∉ l) :
    lines (withReturns (l ++ '\n' :: rest)) = (l ++ ['\r']) :: lines (withReturns rest) := by
  have hl : '\n' ∉ l ++ ['\r'] := by simpa using h
  have heq : withReturns (l ++ '\n' :: rest) = (l ++ ['\r']) ++ '\n' :: withReturns rest := by
    rw [withReturns_append, withReturns_of_notMem h, List.append_assoc]
    rfl
  rw [heq, lines_append_feed _ hl]

theorem length_lines_withReturns (cs : List Char) : (lines (withReturns cs)).length = (lines cs).length := by
  induction cs using feedInduction with
  | last l h => rw [withReturns_of_notMem h]
  | feed l rest h ih =>
    rw [lines_withReturns_feed rest h, lines_append_feed rest h, List.length_cons, List.length_cons, ih]

theorem getElem?_lines_withReturns (cs : List Char) (i : Nat) :
    (lines (withReturns cs))[i]? =
      (lines cs)[i]?.map fun l => if i + 1 < (lines cs).length then l ++ ['\r'] else l := by
  induction cs using feedInduction generalizing i with
  | last l h =>
    rw [withReturns_of_notMem h, lines_of_notMem h]
    cases i <;> simp
  | feed l rest h ih =>
    have hne : 0 < (lines rest).length := by simp [length_lines]
    rw [lines_withReturns_feed rest h, lines_append_feed rest h]
    cases i with
    | zero => simp [hne]
    | succ i => simp [ih]

theorem length_encode_withReturns (cs : List Char) :
    (encode (withReturns cs)).length = (encode cs).length + cs.count '\n' := by
  induction cs with
  | nil => rfl
  | cons c cs ih =>
    rw [withReturns, List.flatMap_cons, ← withReturns, Utf8.encode_append, List.length_append, ih,
      Utf8.encode_cons, List.length_append, List.count_cons]
    by_cases hc : c = '\n'
    · have hfeed : (encode ['\r', '\n']).length = (String.utf8EncodeChar '\n').length + 1 := rfl
      simp only [hc, if_true, hfeed, BEq.rfl]
      omega
    · have hone : (encode [c]).length = (String.utf8EncodeChar c).length := by
        rw [Utf8.encode_cons, List.length_append]
        rfl
      simp only [hc, if_false, hone, beq_iff_eq]
      omega

end Text

theorem Position.foldl_step_withReturns (p : Position) (cs : List Char) :
    (Text.withReturns cs).foldl step p = cs.foldl step p := by
  induction cs generalizing p with
  | nil => rfl
  | cons c cs ih =>
    rw [Text.withReturns, List.flatMap_cons, ← Text.withReturns, List.foldl_append, ih, List.foldl_cons]
    by_cases hc : c = '\n'
    · simp [hc, step]
    · simp [hc]

theorem dropReturn_of_notMem {l : List Char} (h : '\r' ∉ l) : dropReturn l = l :=
  if_neg fun hlast => h (List.mem_of_getLast? hlast)

theorem dropReturn_concat (l : List Char) : dropReturn (l ++ ['\r']) = l := by simp [dropReturn]

namespace Source

def withReturns (s : Source) : Source := ⟨s.name, String.ofList (Text.withReturns s.content.toList)⟩

def shift (s : Source) (offset : Nat) : Nat := offset + (s.data.take offset).count lineFeed

variable {s : Source}

theorem toList_withReturns (s : Source) : s.withReturns.content.toList = Text.withReturns s.content.toList :=
  String.toList_ofList

theorem shift_mono {a b : Nat} (h : a ≤ b) : s.shift a ≤ s.shift b := by
  have hsub : (s.data.take a).Sublist (s.data.take b) := List.take_sublist_take_left h
  have hcount := hsub.count_le lineFeed
  rw [shift, shift]
  omega

theorem shift_of_isPrefix {pre : List Char} (h : pre <+: s.content.toList) :
    s.shift (encode pre).length = (encode (Text.withReturns pre)).length := by
  rw [shift, take_data h, count_feed_encode, Text.length_encode_withReturns]

theorem lineCount_withReturns (s : Source) : s.withReturns.lineCount = s.lineCount := by
  rw [lineCount_eq, lineCount_eq, rows, rows, toList_withReturns, Text.length_lines_withReturns]

theorem getElem?_rows_withReturns (s : Source) (i : Nat) :
    s.withReturns.rows[i]? = s.rows[i]?.map fun l => if i + 1 < s.rows.length then l ++ ['\r'] else l := by
  rw [rows, rows, toList_withReturns, Text.getElem?_lines_withReturns]

theorem shownText_of_getElem? {line : Nat} {row : List Char} (hreturn : '\r' ∉ s.content.toList)
    (h : s.rows[line - 1]? = some row) : s.shownText line = row := by
  have hrow : '\r' ∉ row := fun hmem => hreturn (Text.mem_of_mem_lines (List.mem_of_getElem? h) hmem)
  rw [shownText, List.getD_eq_getElem?_getD, h, Option.getD_some, dropReturn_of_notMem hrow]

theorem shownText_withReturns (hreturn : '\r' ∉ s.content.toList) (line : Nat) :
    s.withReturns.shownText line = s.shownText line := by
  cases h : s.rows[line - 1]? with
  | none =>
    rw [shownText, shownText, List.getD_eq_getElem?_getD, List.getD_eq_getElem?_getD, getElem?_rows_withReturns, h]
    rfl
  | some row =>
    have hrow : '\r' ∉ row := fun hmem => hreturn (Text.mem_of_mem_lines (List.mem_of_getElem? h) hmem)
    rw [shownText_of_getElem? hreturn h, shownText, List.getD_eq_getElem?_getD, getElem?_rows_withReturns, h,
      Option.map_some, Option.getD_some]
    split
    · exact dropReturn_concat row
    · exact dropReturn_of_notMem hrow

theorem lastContextLine_withReturns (s : Source) : s.withReturns.lastContextLine = s.lastContextLine := by
  have hlength : s.withReturns.rows.length = s.rows.length := by
    rw [← lineCount_eq, ← lineCount_eq, lineCount_withReturns]
  have hpos : 0 < s.rows.length := by simp [rows, Text.length_lines]
  have hlast : s.withReturns.rows.getLast? = s.rows.getLast? := by
    have hnone : ¬ s.rows.length - 1 + 1 < s.rows.length := by omega
    rw [List.getLast?_eq_getElem?, List.getLast?_eq_getElem?, hlength, getElem?_rows_withReturns]
    simp only [if_neg hnone, Option.map_id']
  simp only [lastContextLine, getLast?_lineStarts, hlast, lineCount_withReturns]

theorem similar_withReturns (hreturn : '\r' ∉ s.content.toList) (shown : List Nat) :
    Similar shown s s.withReturns where
  lineCount := s.lineCount_withReturns
  lastContextLine := s.lastContextLine_withReturns
  shownText k _ := shownText_withReturns hreturn k

theorem locate_withReturns {offset : Nat} {p : Position} (h : s.locate offset = .ok p) :
    s.withReturns.locate (s.shift offset) = .ok p := by
  obtain ⟨pre, ⟨post, hpost⟩, hoffset, rfl⟩ := locate_eq_ok.1 h
  rw [Int.ofNat_inj.1 hoffset, shift_of_isPrefix ⟨post, hpost⟩]
  refine locate_eq_ok.2 ⟨Text.withReturns pre, ⟨Text.withReturns post, ?_⟩, rfl, ?_⟩
  · rw [toList_withReturns, ← hpost, Text.withReturns_append]
  · exact (Position.foldl_step_withReturns _ pre).symm

theorem countChars_rawLine {i : Nat} {row : List Char} (h : s.rows[i]? = some row) :
    countChars (s.rawLine i) = row.length := by
  obtain ⟨hi, rfl⟩ := List.getElem?_eq_some_iff.1 h
  rw [rawLine_eq hi, countChars_encode]

theorem closing_withReturns {p q : Position} (hfirst : 1 ≤ p.line) (hlast : q.line ≤ s.lineCount)
    (hback : p.line < q.line ∧ q.column = 1) :
    ∃ row, s.rows[q.line - 2]? = some row ∧ s.closing p q = ⟨q.line - 1, row.length + 1⟩ ∧
      s.withReturns.closing p q = ⟨q.line - 1, row.length + 2⟩ := by
  rw [lineCount_eq] at hlast
  have hinner : q.line - 2 + 1 < s.rows.length := by omega
  have hrow : s.rows[q.line - 2]? = some s.rows[q.line - 2] := List.getElem?_eq_getElem (Nat.lt_of_succ_lt hinner)
  generalize s.rows[q.line - 2] = row at hrow
  have hrow' : s.withReturns.rows[q.line - 2]? = some (row ++ ['\r']) := by
    rw [getElem?_rows_withReturns, hrow, Option.map_some, if_pos hinner]
  refine ⟨row, hrow, ?_, ?_⟩
  · rw [closing, if_pos hback, countChars_rawLine hrow]
  · rw [closing, if_pos hback, countChars_rawLine hrow', List.length_append]
    rfl

theorem resolve_withReturns (hreturn : '\r' ∉ s.content.toList) {a b : Nat} (hab : a ≤ b) {r : ResolvedSpan}
    (h : s.resolve a b = .ok r) :
    (s.EndsBehindFeed a b → r.stop.column = (s.shownText r.stop.line).length + 1) ∧
    ∃ r', s.withReturns.resolve (s.shift a) (s.shift b) = .ok r' ∧ r'.start = r.start ∧
      r'.stop = if s.EndsBehindFeed a b then ⟨r.stop.line, r.stop.column + 1⟩ else r.stop := by
  obtain ⟨p, q, hp, hq, hstart, hstop⟩ := resolve_eq_ok hab h
  have hp' := locate_withReturns hp
  have hq' := locate_withReturns hq
  have hresolved : ∃ r', s.withReturns.resolve (s.shift a) (s.shift b) = .ok r' := by
    rw [← faultOf_eq_none, faultOf_resolve (shift_mono hab), ← faultOf_locate, ← faultOf_locate, hp', hq']
    rfl
  obtain ⟨r', hr'⟩ := hresolved
  obtain ⟨p', q', hp'', hq'', hstart', hstop'⟩ := resolve_eq_ok (shift_mono hab) hr'
  obtain rfl : p' = p := Except.ok.inj (hp''.symm.trans hp')
  obtain rfl : q' = q := Except.ok.inj (hq''.symm.trans hq')
  by_cases hfeed : s.EndsBehindFeed a b
  · have hback := (endsBehindFeed_iff hp hq).2 hfeed
    obtain ⟨row, hrow, hclosing, hclosing'⟩ := closing_withReturns (hasPosition_of_locate hp).1.1
      (hasPosition_of_locate hq).1.2 hback
    rw [hclosing] at hstop
    rw [hclosing'] at hstop'
    refine ⟨fun _ => ?_, r', hr', hstart'.trans hstart.symm, ?_⟩
    · have hshown : s.shownText (q'.line - 1) = row := shownText_of_getElem? hreturn hrow
      rw [hstop, hshown]
    · rw [if_pos hfeed, hstop, hstop']
  · have hback := fun h => hfeed ((endsBehindFeed_iff hp hq).1 h)
    rw [closing, if_neg hback] at hstop hstop'
    refine ⟨fun h => absurd h hfeed, r', hr', hstart'.trans hstart.symm, ?_⟩
    rw [if_neg hfeed, hstop, hstop']

end Source

end Diagnostics
