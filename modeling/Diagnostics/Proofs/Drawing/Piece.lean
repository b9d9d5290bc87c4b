import Diagnostics.Drawing.Piece
import Mathlib.Data.List.DropRight
import Mathlib.Data.List.Induction

namespace Diagnostics

theorem exists_rdropWhile_append (cs : List Cell) :
    ∃ n, cs = cs.rdropWhile (· = Cell.blank) ++ List.replicate n Cell.blank := by
  have hblanks : cs.rtakeWhile (· = Cell.blank) =
      List.replicate (cs.rtakeWhile (· = Cell.blank)).length Cell.blank := by
    refine List.eq_replicate_of_mem fun c hc => ?_
    have hblank := List.mem_rtakeWhile_imp hc
    exact of_decide_eq_true hblank
  refine ⟨(cs.rtakeWhile (· = Cell.blank)).length, ?_⟩
  rw [← hblanks, List.rdropWhile_append_rtakeWhile]

namespace Row

theorem trim_cons_of_ne_nil (p : Piece) {rest : Row} (h : trim rest ≠ []) : trim (p :: rest) = p :: trim rest := by
  obtain ⟨q, more, htrim⟩ := List.exists_cons_of_ne_nil h
  rw [trim, htrim]

theorem cells_trim_singleton (p : Piece) : (trim [p]).cells = p.cells.rdropWhile (· = Cell.blank) := by
  obtain ⟨text, kind⟩ := p
  cases kind with
  | some k =>
    have hkept : (Piece.cells ⟨text, some k⟩).rdropWhile (· = Cell.blank) = Piece.cells ⟨text, some k⟩ := by
      rw [List.rdropWhile_eq_self_iff]
      intro hne
      simp [Piece.cells, Cell.blank]
    rw [hkept]
    exact List.append_nil _
  | none =>
    have hspaces : (Piece.cells ⟨text, none⟩).rdropWhile (· = Cell.blank) =
        (Text.dropEndWhile (· = ' ') text).map (·, none) := by
      rw [Piece.cells, List.rdropWhile, ← List.map_reverse, List.dropWhile_map, ← List.map_reverse]
      simp [Function.comp_def, Cell.blank, Text.dropEndWhile]
    rw [hspaces]
    simp only [trim]
    cases Text.dropEndWhile (· = ' ') text with
    | nil => rfl
    | cons c more => exact List.append_nil _

theorem trim_concat (r : Row) (p : Piece) :
    trim (r ++ [p]) = if trim [p] = [] then trim r else r ++ trim [p] := by
  induction r with
  | nil =>
    rw [List.nil_append, List.nil_append]
    split
    · assumption
    · rfl
  | cons q rest ih =>
    rw [List.cons_append]
    split
    · rename_i hnil
      rw [if_pos hnil] at ih
      rw [trim, trim, ih]
    · rename_i hne
      rw [if_neg hne] at ih
      rw [trim_cons_of_ne_nil q (by simp [ih, hne]), ih, List.cons_append]

theorem cells_trim (r : Row) : ∃ n, r.cells = r.trim.cells ++ List.replicate n Cell.blank := by
  induction r using List.reverseRecOn with
  | nil => exact ⟨0, rfl⟩
  | append_singleton r p ih =>
    obtain ⟨m, hp⟩ := exists_rdropWhile_append p.cells
    rw [← cells_trim_singleton] at hp
    rw [trim_concat, cells_append, cells_singleton]
    split
    · rename_i hnil
      obtain ⟨n, hn⟩ := ih
      refine ⟨n + m, ?_⟩
      rw [hnil, cells_nil, List.nil_append] at hp
      rw [hp, hn, List.append_assoc, List.replicate_append_replicate]
    · refine ⟨m, ?_⟩
      rw [cells_append, List.append_assoc, ← hp]

theorem cells_trim_of_getLast? {r : Row} {c : Cell} (h : r.cells.getLast? = some c) (hc : c ≠ Cell.blank) :
    r.trim.cells = r.cells := by
  obtain ⟨n, hn⟩ := cells_trim r
  cases n with
  | zero => rw [hn, List.replicate_zero, List.append_nil]
  | succ n =>
    rw [hn, List.replicate_succ', ← List.append_assoc, List.getLast?_concat] at h
    exact absurd (Option.some.inj h).symm hc

end Row

end Diagnostics
