import Diagnostics.Annotation
import Diagnostics.Text.Blank

namespace Diagnostics

abbrev Cell := Char × Option Weight

def Cell.blank : Cell := (' ', none)

structure Piece where
  text : List Char
  kind : Option Weight
  deriving DecidableEq, Repr

def Piece.plain (text : List Char) : Piece := ⟨text, none⟩

def Piece.cells (p : Piece) : List Cell := p.text.map (·, p.kind)

abbrev Row := List Piece

namespace Row

def cells (r : Row) : List Cell := r.flatMap Piece.cells

def extend (r : Row) (p : Piece) : Row :=
  if p.text.isEmpty then r
  else
    match r.getLast? with
    | none => [p]
    | some q => if q.kind = p.kind then r.dropLast ++ [⟨q.text ++ p.text, p.kind⟩] else r ++ [p]

def merge (r : Row) : Row := r.foldl extend []

theorem extend_of_empty (r : Row) {p : Piece} (h : p.text = []) : extend r p = r := by
  rw [extend, h]
  rfl

theorem extend_nil {p : Piece} (h : p.text ≠ []) : extend [] p = [p] := if_neg (by simpa using h)

theorem extend_concat (r : Row) (q : Piece) {p : Piece} (h : p.text ≠ []) :
    extend (r ++ [q]) p = if q.kind = p.kind then r ++ [⟨q.text ++ p.text, p.kind⟩] else r ++ [q] ++ [p] := by
  rw [extend, if_neg (by simpa using h), List.getLast?_concat]
  simp only [List.dropLast_concat]

theorem cells_nil : cells [] = [] := rfl

theorem cells_cons (p : Piece) (r : Row) : cells (p :: r) = p.cells ++ cells r := List.flatMap_cons

theorem cells_append (a b : Row) : cells (a ++ b) = cells a ++ cells b := List.flatMap_append

theorem cells_singleton (p : Piece) : cells [p] = p.cells := List.append_nil _

theorem cells_extend (r : Row) (p : Piece) : cells (extend r p) = cells r ++ p.cells := by
  by_cases htext : p.text = []
  · rw [extend_of_empty r htext, Piece.cells, htext, List.map_nil, List.append_nil]
  · rcases List.eq_nil_or_concat r with rfl | ⟨front, q, rfl⟩
    · rw [extend_nil htext, cells_singleton, cells_nil, List.nil_append]
    · rw [List.concat_eq_append, extend_concat front q htext]
      split
      · rename_i hkind
        simp only [cells_append, cells_singleton, Piece.cells, List.map_append, hkind, List.append_assoc]
      · rw [cells_append, cells_singleton]

theorem cells_foldl_extend (r s : Row) : cells (s.foldl extend r) = cells r ++ cells s := by
  induction s generalizing r with
  | nil => exact (List.append_nil _).symm
  | cons p rest ih => rw [List.foldl_cons, ih, cells_extend, cells_cons, List.append_assoc]

theorem cells_merge (r : Row) : cells (merge r) = cells r := cells_foldl_extend [] r

def ofCells (cs : List Cell) : Row := merge (cs.map fun c => ⟨[c.1], c.2⟩)

theorem cells_ofCells (cs : List Cell) : cells (ofCells cs) = cs := by
  rw [ofCells, cells_merge]
  induction cs with
  | nil => rfl
  | cons c rest ih => simp_all [cells, Piece.cells]

def trim : Row → Row
  | [] => []
  | p :: rest =>
      match trim rest with
      | q :: more => p :: q :: more
      | [] =>
          match p.kind with
          | some _ => [p]
          | none =>
              match Text.dropEndWhile (· = ' ') p.text with
              | [] => []
              | text => [.plain text]

end Row

end Diagnostics
