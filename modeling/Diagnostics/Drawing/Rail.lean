import Diagnostics.Sorting
import Diagnostics.Drawing.Canvas
import Diagnostics.Drawing.Glyphs

namespace Diagnostics

structure Rail where
  startLine : Nat
  startCell : Nat
  endLine : Nat
  endCell : Nat
  kind : Weight
  label : Option String
  order : Nat
  deriving DecidableEq, Repr

namespace Rail

def labelText (r : Rail) : List Char := (r.label.getD "").toList

def precedes (a b : Rail) : Bool :=
  a.startLine < b.startLine
    || (a.startLine = b.startLine
      && (a.startCell < b.startCell || (a.startCell = b.startCell && a.order ≤ b.order)))

def isActive (r : Rail) (line : Nat) : Bool := r.startLine < line && line ≤ r.endLine

end Rail

def arrangeRails (rails : List Rail) : List Rail := sortBy Rail.precedes rails

namespace Rails

def width (rails : List Rail) : Nat := if rails.isEmpty then 0 else rails.length + 1

def pass (draw : Nat → Rail → Option (Char × Weight)) (rails : List Rail) : Canvas :=
  rails.zipIdx.foldl
    (fun canvas (r, i) =>
      match draw i r with
      | some (c, kind) => canvas.put i [c] (some kind)
      | none => canvas)
    []

def beside (g : Glyphs) (rails : List Rail) (line : Nat) : Canvas :=
  (pass (fun _ r => if r.isActive line then some (g.railVertical, r.kind) else none) rails).put
    (width rails) [] none

def opening (g : Glyphs) (rails : List Rail) (i : Nat) (r : Rail) : Canvas :=
  let stop := width rails + r.startCell
  let runs (o : Rail) : Bool := o.isActive r.startLine || o.startLine = r.startLine
  ((pass (fun _ o => if runs o then some (g.railVertical, o.kind) else none) (rails.take i)).put
      i [g.railTop] (some r.kind)
    |>.fill (i + 1) stop g.railFill (some r.kind)).put stop [g.caret r.kind] (some r.kind)

/-- Whether another rail runs through the row that closes rail `i` on a line: it ends later, or it ends
here and closes in a row below. -/
def passes (i line j : Nat) (o : Rail) : Bool :=
  o.startLine ≤ line && (line < o.endLine || (o.endLine = line && j < i))

def crossing (g : Glyphs) (i : Nat) (r : Rail) (j : Nat) (o : Rail) : Option (Char × Weight) :=
  if j = i then none
  else if passes i r.endLine j o then some (g.railVertical, o.kind)
  else if i < j then some (g.railFill, r.kind)
  else none

def closingRun (g : Glyphs) (rails : List Rail) (i : Nat) (r : Rail) : Canvas :=
  let stop := width rails + r.endCell
  ((pass (crossing g i r) rails).put i [g.railBottom] (some r.kind)
    |>.fill rails.length stop g.railFill (some r.kind)).put stop [g.caret r.kind] (some r.kind)

def closing (g : Glyphs) (rails : List Rail) (i : Nat) (r : Rail) : Canvas :=
  let drawn := closingRun g rails i r
  if r.labelText.isEmpty then drawn else drawn.put (width rails + r.endCell + 2) r.labelText (some r.kind)

end Rails

end Diagnostics
