import Diagnostics.Block

namespace Diagnostics

namespace Issue

def headerLine (i : Issue) : Line := Line.header i.severity i.headerLabel i.message

def locatedHeader (i : Issue) (placed : List Placed) : Line :=
  match i.primaryOrigin with
  | none => i.headerLine
  | some origin =>
      .styled (origin ++ ":" ++ (i.locationIn origin placed).text ++ ": ") .message :: i.headerLine

def noteLines (g : Glyphs) (i : Issue) (indent : Nat) : List Line :=
  i.notes.flatMap fun note => Line.note g "note" note indent

def blocks (config : Config) (registry : Registry) (i : Issue) (placed : List Placed) :
    Except Failure (List Block) :=
  i.origins.mapM (Block.ofOrigin config registry i placed)

def numberWidth (blocks : List Block) : Nat := (blocks.map Block.numberWidth).foldl max 1

def blockLines (config : Config) (g : Glyphs) (i : Issue) (blocks : List Block) : List Line :=
  blocks.zipIdx.flatMap fun (b, k) =>
    b.compose config g i.severity (numberWidth blocks) (k = 0)

def fullLines (config : Config) (i : Issue) (blocks : List Block) : List Line :=
  let g := Glyphs.ofCharSet config.charset
  let width := numberWidth blocks
  i.headerLine :: i.blockLines config g blocks
    ++ (if i.notes.isEmpty || blocks.isEmpty then [] else [Line.gutter g width])
    ++ i.noteLines g (width + 1)
    ++ [[]]

def lines (config : Config) (registry : Registry) (i : Issue) : Except Failure (List Line) := do
  let placed ← i.place registry
  match config.style with
  | .compact => .ok [i.locatedHeader placed]
  | .comfortable =>
      .ok (i.locatedHeader placed :: i.noteLines (Glyphs.ofCharSet config.charset) 2)
  | .full => .ok (i.fullLines config (← i.blocks config registry placed))

end Issue

end Diagnostics
