import Diagnostics.Source

namespace Diagnostics

structure Position where
  line : Nat
  column : Nat
  deriving DecidableEq, Repr

def Position.text (p : Position) : String := toString p.line ++ ":" ++ toString p.column

structure ResolvedSpan where
  origin : String
  start : Position
  stop : Position
  startOffset : Nat
  stopOffset : Nat
  lineStart : Nat
  lineEnd : Nat
  deriving DecidableEq, Repr

namespace ResolvedSpan

def isMultiline (r : ResolvedSpan) : Bool := r.start.line < r.stop.line

def lineNumbers (r : ResolvedSpan) : List Nat :=
  (List.range (r.stop.line + 1 - r.start.line)).map (r.start.line + ·)

end ResolvedSpan

def countChars (bytes : List UInt8) : Nat := bytes.countP fun b => !Text.Utf8.isContinuation b

namespace Source

def checkOffset (s : Source) (offset : Int) : Except Failure Unit :=
  if offset < 0 ∨ (s.data.length : Int) < offset then
    .error (.offsetTooLarge offset s.data.length)
  else if (s.data[offset.toNat]?).any Text.Utf8.isContinuation then .error (.insideCharacter offset)
  else .ok ()

def columnFrom (s : Source) (start offset : Nat) : Nat := countChars (slice start offset s.data) + 1

def columnNumber (s : Source) (index : Nat) (offset : Int) : Nat :=
  match s.lineStarts[index]? with
  | some start => s.columnFrom start offset.toNat
  | none => 1

def locate (s : Source) (offset : Int) : Except Failure Position := do
  s.checkOffset offset
  let line := s.lineOf offset.toNat
  .ok ⟨line, s.columnNumber (line - 1) offset⟩

def rawLine (s : Source) (index : Nat) : List UInt8 :=
  match s.lineStarts[index]? with
  | some start => slice start (s.feedOf index) s.data
  | none => []

/-- The last position of a range: at the start of a later line it moves back behind the last character
of the line before. -/
def closing (s : Source) (start stop : Position) : Position :=
  if start.line < stop.line ∧ stop.column = 1 then
    ⟨stop.line - 1, countChars (s.rawLine (stop.line - 2)) + 1⟩
  else stop

def resolve (s : Source) (start stop : Int) : Except Failure ResolvedSpan := do
  if stop < start then .error (.reversedSpan start stop)
  let first ← s.locate start
  let last := s.closing first (← s.locate stop)
  let (lineStart, _) ← s.lineRange (first.line - 1)
  let (_, lineEnd) ← s.lineRange (last.line - 1)
  .ok ⟨s.name, first, last, start.toNat, stop.toNat, lineStart, lineEnd⟩

def offsetOf (s : Source) (line column : Int) : Except Failure Nat := do
  let (start, _) ← s.lineRange (line - 1)
  let text := chars (s.rawLine (line - 1).toNat)
  let last := text.length + 1
  if column < 1 ∨ (last : Int) < column then .error (.columnTooLarge column last)
  .ok (start + (Text.Utf8.encode (text.take (column - 1).toNat)).length)

end Source

end Diagnostics
