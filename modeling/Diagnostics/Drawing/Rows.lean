import Diagnostics.Drawing.Mark
import Diagnostics.Drawing.Rail

namespace Diagnostics

namespace Rows

def marks (g : Glyphs) (rails : List Rail) (line : Nat) (ms : List Mark) : List Row :=
  ((packMarks ms).flatMap (MarkRow.canvases g)).map fun canvas =>
    (Row.ofCells (Rails.beside g rails line ++ canvas)).trim

def openings (g : Glyphs) (rails : List Rail) (line : Nat) : List Row :=
  (rails.zipIdx.filter (·.1.startLine = line)).map fun (r, i) =>
    (Row.ofCells (Rails.opening g rails i r)).trim

def closings (g : Glyphs) (rails : List Rail) (line : Nat) : List Row :=
  (rails.zipIdx.filter (·.1.endLine = line)).reverse.map fun (r, i) =>
    (Row.ofCells (Rails.closing g rails i r)).trim

def below (g : Glyphs) (rails : List Rail) (line : Nat) (ms : List Mark) : List Row :=
  marks g rails line ms ++ openings g rails line ++ closings g rails line

end Rows

end Diagnostics
