import Diagnostics.Sorting
import Diagnostics.Drawing.Canvas
import Diagnostics.Drawing.Glyphs

namespace Diagnostics

structure Mark (κ : Type := Nat) where
  start : κ
  stop : κ
  kind : Weight
  label : Option String
  order : κ
  deriving DecidableEq, Repr

namespace Mark

def new (start stop : Nat) (kind : Weight) (label : Option String) (order : Nat) : Mark :=
  ⟨start, if stop ≤ start then start + 1 else stop, kind, label, order⟩

def labelText (m : Mark) : List Char := (m.label.getD "").toList

def hasLabel (m : Mark) : Bool := !m.labelText.isEmpty

end Mark

section Packing

variable {κ : Type} [LE κ] [DecidableLE κ]

def fits (m : Mark κ) (row : List (Mark κ)) : Bool := row.getLast?.all (·.stop ≤ m.start)

def placeMark (m : Mark κ) : List (List (Mark κ)) → List (List (Mark κ))
  | [] => [[m]]
  | row :: rest => if fits m row then (row ++ [m]) :: rest else row :: placeMark m rest

variable [LT κ] [DecidableLT κ] [DecidableEq κ]

def Mark.precedes (a b : Mark κ) : Bool := a.start < b.start || (a.start = b.start && a.order ≤ b.order)

def packMarks (marks : List (Mark κ)) : List (List (Mark κ)) :=
  (sortBy Mark.precedes marks).foldl (fun rows m => placeMark m rows) []

end Packing

namespace MarkRow

def hanging (row : List Mark) : List Mark := row.dropLast.filter (·.hasLabel)

def markers (g : Glyphs) (row : List Mark) : Canvas :=
  let drawn : Canvas :=
    row.foldl (fun c m => Canvas.fill c m.start m.stop (g.caret m.kind) (some m.kind)) []
  match row.getLast? with
  | some last =>
      if last.hasLabel then drawn.put (last.stop + 1) last.labelText (some last.kind) else drawn
  | none => drawn

def connectors (g : Glyphs) (marks : List Mark) : Canvas :=
  marks.foldl (fun c m => Canvas.put c m.start [g.connector] (some m.kind)) []

def labels (g : Glyphs) (marks : List Mark) : List Canvas :=
  (marks.zipIdx.map fun (m, i) =>
    (connectors g (marks.take i)).put m.start m.labelText (some m.kind)).reverse

def canvases (g : Glyphs) (row : List Mark) : List Canvas :=
  if (hanging row).isEmpty then [markers g row]
  else markers g row :: connectors g (hanging row) :: labels g (hanging row)

def draw (g : Glyphs) (row : List Mark) : List Row := (canvases g row).map Canvas.row

end MarkRow

end Diagnostics
