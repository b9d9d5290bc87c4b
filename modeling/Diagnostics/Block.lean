import Diagnostics.Config
import Diagnostics.Issue
import Diagnostics.Line
import Diagnostics.Source.Excerpt
import Diagnostics.Source.Position
import Diagnostics.Source.Registry
import Diagnostics.Text.Width

namespace Diagnostics

structure Placed where
  subject : Annotation
  source : Source
  span : ResolvedSpan
  order : Nat

inductive Shape where
  | mark (line : Nat) (m : Mark)
  | rail (r : Rail)
  deriving DecidableEq, Repr

structure Block where
  name : String
  location : Position
  requested : List Nat
  lines : List ExcerptLine
  marks : List (Nat × Mark)
  rails : List Rail
  deriving DecidableEq, Repr

namespace Placed

def cellsBefore (p : Placed) (tab : Nat) (line chars : Nat) : Except Failure Nat :=
  (p.source.lineText (line - 1)).map fun text => Text.width tab (text.take chars)

def shape (tab : Nat) (p : Placed) : Except Failure Shape := do
  let startCell ← p.cellsBefore tab p.span.start.line (p.span.start.column - 1)
  if p.span.isMultiline then
    let endCell ← p.cellsBefore tab p.span.stop.line (p.span.stop.column - 2)
    .ok <| .rail ⟨p.span.start.line, startCell, p.span.stop.line, endCell, p.subject.weight,
      p.subject.label, p.order⟩
  else
    let endCell ← p.cellsBefore tab p.span.start.line (p.span.stop.column - 1)
    .ok <| .mark p.span.start.line
      (.new startCell endCell p.subject.weight p.subject.label p.order)

end Placed

namespace Shape

def lines : Shape → List Nat
  | .mark line _ => [line]
  | .rail r => [r.startLine, r.endLine]

def mark? : Shape → Option (Nat × Mark)
  | .mark line m => some (line, m)
  | .rail _ => none

def rail? : Shape → Option Rail
  | .mark _ _ => none
  | .rail r => some r

end Shape

namespace Issue

def place (registry : Registry) (i : Issue) : Except Failure (List Placed) := do
  let _ ← i.origins.mapM registry.lookup
  let annotations ← i.allAnnotations.mapError .rejected
  annotations.zipIdx.mapM fun (a, order) => do
    let source ← registry.lookup a.span.origin
    let span ← source.resolve a.span.start a.span.stop
    .ok ⟨a, source, span, order⟩

def anchor (i : Issue) (origin : String) (placed : List Placed) : Option Placed :=
  let here := placed.filter (·.subject.span.origin = origin)
  if i.primary.any (·.origin = origin) then here.getLast?
  else (here.find? (·.subject.isPrimary)).or here.head?

def locationIn (i : Issue) (origin : String) (placed : List Placed) : Position :=
  ((i.anchor origin placed).map (·.span.start)).getD ⟨1, 1⟩

end Issue

namespace Block

def ofOrigin (config : Config) (registry : Registry) (i : Issue) (placed : List Placed)
    (origin : String) : Except Failure Block := do
  let source ← registry.lookup origin
  let shapes ← (placed.filter (·.subject.span.origin = origin)).mapM (·.shape config.tabWidth)
  let requested : List Int := (shapes.flatMap Shape.lines).map fun n : Nat => (n : Int)
  let lines ← source.excerpt requested config.contextLines
  .ok {
    name := source.name
    location := i.locationIn origin placed
    requested := requestedLines requested
    lines
    marks := shapes.filterMap Shape.mark?
    rails := arrangeRails (shapes.filterMap Shape.rail?) }

def lastNumber (b : Block) : Nat := (b.lines.map (·.number)).foldl max 0

def numberWidth (b : Block) : Nat := (toString b.lastNumber).length

def marksOn (b : Block) (line : Nat) : List Mark :=
  (b.marks.filter (·.1 = line)).map (·.2)

def body (config : Config) (g : Glyphs) (b : Block) (l : ExcerptLine) : Row :=
  let row := Row.ofCells (Rails.beside g b.rails l.number)
    ++ [Piece.plain (Text.expandTabs config.tabWidth l.text)]
  if l.text.isEmpty then row.trim else row

def sourceLine (config : Config) (g : Glyphs) (severity : Severity) (width : Nat) (b : Block)
    (l : ExcerptLine) : Line :=
  let body := b.body config g l
  Line.numbered g width l.number
    ++ if body.isEmpty then [] else .plain " " :: Line.ofRow severity body

def markerLine (g : Glyphs) (severity : Severity) (width : Nat) (row : Row) : Line :=
  Line.gutter g width ++ .plain " " :: Line.ofRow severity row

def rowsOf (config : Config) (g : Glyphs) (severity : Severity) (width : Nat) (b : Block)
    (l : ExcerptLine) : List Line :=
  (if l.gapBefore then [Line.gap config.charset width] else [])
    ++ b.sourceLine config g severity width l
    :: (Rows.below g b.rails l.number (b.marksOn l.number)).map (markerLine g severity width)

def place (b : Block) : String := b.name ++ ":" ++ b.location.text

def compose (config : Config) (g : Glyphs) (severity : Severity) (width : Nat) (isFirst : Bool)
    (b : Block) : List Line :=
  Line.location config.charset width isFirst b.place :: Line.gutter g width
    :: b.lines.flatMap (b.rowsOf config g severity width)

end Block

end Diagnostics
