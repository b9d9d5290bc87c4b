import Mathlib.Data.List.GetD
import Diagnostics.Proofs.Outcome
import Diagnostics.Proofs.Source.LineTable

namespace Diagnostics

open Text.Utf8 (encode)

theorem Text.lines_eq_splitOn (cs : List Char) : lines cs = cs.splitOn '\n' := by
  have hne : lines cs ≠ [] := List.cons_ne_nil _ _
  rw [← List.splitOn_intercalate '\n' (feed_notMem_lines cs) hne, intercalate_lines]

theorem pairwise_startsAfter (pos : Nat) (bytes : List UInt8) : (startsAfter pos bytes).Pairwise (· < ·) := by
  induction bytes generalizing pos with
  | nil => exact List.Pairwise.nil
  | cons b bytes ih =>
    rw [startsAfter]
    split
    · exact List.pairwise_cons.2 ⟨fun k hk => (startsAfter_bounds hk).1, ih (pos + 1)⟩
    · exact ih (pos + 1)

theorem exists_dropReturn_append (l : List Char) :
    ∃ ending, l = dropReturn l ++ ending ∧ (ending = [] ∨ ending = ['\r']) := by
  rw [dropReturn]
  split
  · rename_i hlast
    exact ⟨['\r'], (List.dropLast_append_getLast? _ hlast).symm, .inr rfl⟩
  · exact ⟨[], (List.append_nil l).symm, .inl rfl⟩

namespace Source

variable {s : Source} {i : Nat}

theorem pairwise_lineStarts (s : Source) : s.lineStarts.Pairwise (· < ·) :=
  List.pairwise_cons.2 ⟨fun _ hk => (startsAfter_bounds hk).1, pairwise_startsAfter 0 s.data⟩

theorem mapM_lineText (s : Source) :
    (List.range s.lineCount).mapM (fun i : Nat => s.lineText i) = .ok (s.rows.map dropReturn) := by
  have htext (i : Nat) (hi : i ∈ List.range s.lineCount) : s.lineText i = .ok (dropReturn (s.rows.getD i [])) := by
    rw [List.mem_range, lineCount_eq] at hi
    rw [lineText_eq hi, List.getD_eq_getElem _ _ hi]
  rw [mapM_eq_map htext, lineCount_eq]
  congr 1
  apply List.ext_getElem (by simp)
  intro i _ hi
  have hrow : i < s.rows.length := by simpa using hi
  rw [List.getElem_map, List.getElem_map, List.getElem_range, List.getD_eq_getElem _ _ hrow]

theorem exists_ending (h : i < s.rows.length) :
    ∃ ending, (ending = [] ∨ ending = ['\r']) ∧
      (i + 1 < s.rows.length →
        slice (s.startOf i + (encode (dropReturn s.rows[i])).length) (s.startOf (i + 1)) s.data =
          encode (ending ++ ['\n'])) ∧
      (i + 1 = s.rows.length →
        s.data.drop (s.startOf i + (encode (dropReturn s.rows[i])).length) = encode ending) := by
  obtain ⟨ending, hrow, hending⟩ := exists_dropReturn_append s.rows[i]
  have hstop : s.startOf i + (encode (dropReturn s.rows[i])).length =
      (encode (Text.before s.content.toList i ++ dropReturn s.rows[i])).length := by
    rw [Text.Utf8.encode_append, List.length_append, startOf]
  refine ⟨ending, hending, fun hnext => ?_, fun hlast => ?_⟩
  · obtain ⟨after, hdata⟩ := data_eq_around hnext
    have hbefore : Text.before s.content.toList (i + 1) =
        (Text.before s.content.toList i ++ dropReturn s.rows[i]) ++ (ending ++ ['\n']) := by
      have hsucc : Text.before s.content.toList (i + 1) = Text.before s.content.toList i ++ s.rows[i] ++ ['\n'] :=
        Text.before_succ h
      rw [hsucc, List.append_assoc, List.append_assoc, ← List.append_assoc (dropReturn _), ← hrow]
    rw [hdata, hstop, startOf, hbefore, Text.Utf8.encode_append _ (ending ++ _), List.length_append, List.append_assoc]
    exact slice_append _ _ _
  · have hcontent : Text.before s.content.toList i ++ s.rows[i] = s.content.toList := Text.before_last hlast
    have hdata : s.data = encode (Text.before s.content.toList i ++ dropReturn s.rows[i]) ++ encode ending := by
      rw [← Text.Utf8.encode_append, List.append_assoc, ← hrow, hcontent, data]
    rw [hstop, hdata, List.drop_left]

theorem lineTable_partition (s : Source) :
    s.lineStarts.head? = some 0 ∧ s.lineStarts.Pairwise (· < ·) ∧
    (List.range s.lineCount).mapM (fun i : Nat => s.lineText i) =
      .ok ((s.content.toList.splitOn '\n').map dropReturn) ∧
    (∀ i : Nat, i < s.lineCount → ∃ start stop text,
      s.lineStarts[i]? = some start ∧ s.lineRange i = .ok (start, stop) ∧ s.lineText i = .ok text ∧
      start ≤ stop ∧ stop ≤ s.data.length ∧
      encode text = slice start stop s.data ∧ Text.Utf8.decode (slice start stop s.data) = .ok text ∧
      (∀ next, s.lineStarts[i + 1]? = some next →
        slice stop next s.data = [lineFeed] ∨ slice stop next s.data = [carriageReturn, lineFeed]) ∧
      (s.lineStarts[i + 1]? = none → s.data.drop stop = [] ∨ s.data.drop stop = [carriageReturn])) ∧
    ∀ i : Int, i < 0 ∨ (s.lineCount : Int) ≤ i →
      s.lineRange i = .error (.lineTooLarge i (s.lineCount - 1)) ∧
      s.lineText i = .error (.lineTooLarge i (s.lineCount - 1)) := by
  refine ⟨rfl, s.pairwise_lineStarts, ?texts, fun i hi => ?line, fun i hi => ?missing⟩
  case texts => rw [mapM_lineText, rows, Text.lines_eq_splitOn]
  case line =>
    have hrow : i < s.rows.length := s.lineCount_eq ▸ hi
    have hslice := slice_line hrow (dropReturn_isPrefix s.rows[i])
    obtain ⟨ending, hending, hnext, hlast⟩ := exists_ending hrow
    refine ⟨_, _, _, getElem?_lineStarts hrow, lineRange_eq hrow, lineText_eq hrow, Nat.le_add_right .., ?_,
      hslice.symm, ?_, fun next hstart => ?_, fun hnone => ?_⟩
    · obtain ⟨after, hdata⟩ := data_eq_around hrow
      have := Text.Utf8.length_encode_mono (dropReturn_isPrefix s.rows[i])
      rw [hdata, startOf, List.length_append, List.length_append]
      omega
    · rw [hslice, Text.Utf8.decode_encode]
    · have hlt : i + 1 < s.rows.length := by
        rw [← lineCount_eq, lineCount]
        exact (List.getElem?_eq_some_iff.1 hstart).1
      rw [getElem?_lineStarts hlt] at hstart
      rw [← Option.some.inj hstart, hnext hlt]
      rcases hending with rfl | rfl
      · exact .inl rfl
      · exact .inr rfl
    · have hle : s.rows.length ≤ i + 1 := by
        rw [← lineCount_eq, lineCount]
        exact List.getElem?_eq_none_iff.1 hnone
      rw [hlast (by omega)]
      rcases hending with rfl | rfl
      · exact .inl rfl
      · exact .inr rfl
  case missing =>
    rw [lineCount_eq] at hi
    have hrange := lineRange_error hi
    exact ⟨hrange, by rw [lineText, hrange]; rfl⟩

theorem lineTable_partition_return :
    let s : Source := ⟨"a", "é\r\n\r\r\n\n漢\r"⟩
    (1 < s.lineCount ∧ s.lineStarts[1 + 1]? = some 7 ∧ ∃ start stop text,
      s.lineRange (1 : Nat) = .ok (start, stop) ∧ s.lineText (1 : Nat) = .ok text ∧
      encode text = slice start stop s.data ∧
      (slice stop 7 s.data = [lineFeed] ∨ slice stop 7 s.data = [carriageReturn, lineFeed])) ∧
    ((4 : Int) < 0 ∨ (s.lineCount : Int) ≤ 4) ∧ s.lineRange 4 = .error (.lineTooLarge 4 (s.lineCount - 1)) := by
  intro s
  have hline : 1 < s.lineCount := by decide
  have hafter : s.lineStarts[1 + 1]? = some 7 := by decide
  have hmissing : (4 : Int) < 0 ∨ (s.lineCount : Int) ≤ 4 := by decide
  obtain ⟨-, -, -, hlines, herror⟩ := lineTable_partition s
  obtain ⟨start, stop, text, -, hrange, htext, -, -, hbytes, -, hnext, -⟩ := hlines 1 hline
  exact ⟨⟨hline, hafter, start, stop, text, hrange, htext, hbytes, hnext 7 hafter⟩, hmissing, (herror 4 hmissing).1⟩

end Source

end Diagnostics
