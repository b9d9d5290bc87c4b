import Diagnostics.Drawing.Piece

namespace Diagnostics

abbrev Canvas := List Cell

namespace Canvas

def padTo : Nat → Canvas → Canvas
  | 0, _ => []
  | n + 1, [] => Cell.blank :: padTo n []
  | n + 1, c :: rest => c :: padTo n rest

theorem length_padTo (n : Nat) (canvas : Canvas) : (padTo n canvas).length = n := by
  induction n generalizing canvas with
  | zero => rfl
  | succ n ih => cases canvas <;> simp [padTo, ih]

def put (canvas : Canvas) (cell : Nat) (text : List Char) (kind : Option Weight) : Canvas :=
  padTo cell canvas ++ text.map (·, kind) ++ canvas.drop (cell + text.length)

def fill (canvas : Canvas) (start stop : Nat) (c : Char) (kind : Option Weight) : Canvas :=
  if start < stop then canvas.put start (List.replicate (stop - start) c) kind else canvas

def row (canvas : Canvas) : Row := Row.ofCells canvas

end Canvas

end Diagnostics
