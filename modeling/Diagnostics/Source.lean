import Diagnostics.Failure
import Diagnostics.Text.Utf8

namespace Diagnostics

def lineFeed : UInt8 := 10

def carriageReturn : UInt8 := 13

structure Source where
  name : String
  content : String
  deriving DecidableEq, Repr

def slice (start stop : Nat) (bytes : List UInt8) : List UInt8 :=
  (bytes.drop start).take (stop - start)

def startsAfter : Nat → List UInt8 → List Nat
  | _, [] => []
  | pos, b :: rest =>
      if b = lineFeed then (pos + 1) :: startsAfter (pos + 1) rest else startsAfter (pos + 1) rest

namespace Source

def inlineName : String := "<inline>"

def inline (content : String) : Source := ⟨inlineName, content⟩

def data (s : Source) : List UInt8 := Text.Utf8.encode s.content.toList

def lineStarts (s : Source) : List Nat := 0 :: startsAfter 0 s.data

def lineCount (s : Source) : Nat := s.lineStarts.length

def lineOf (s : Source) (offset : Nat) : Nat := s.lineStarts.countP (· ≤ offset)

def lineIndex (s : Source) (offset : Int) : Int :=
  (s.lineStarts.countP fun start : Nat => (start : Int) ≤ offset : Nat) - 1

def feedOf (s : Source) (index : Nat) : Nat :=
  match s.lineStarts[index + 1]? with
  | some next => next - 1
  | none => s.data.length

def trimReturn (s : Source) (start feed : Nat) : Nat :=
  if start < feed ∧ s.data[feed - 1]? = some carriageReturn then feed - 1 else feed

def noLine (s : Source) (index : Int) : Failure := .lineTooLarge index (s.lineCount - 1)

def lineRange (s : Source) (index : Int) : Except Failure (Nat × Nat) :=
  if index < 0 then .error (s.noLine index)
  else
    match s.lineStarts[index.toNat]? with
    | some start => .ok (start, s.trimReturn start (s.feedOf index.toNat))
    | none => .error (s.noLine index)

def chars (bytes : List UInt8) : List Char :=
  match Text.Utf8.decode bytes with
  | .ok cs => cs
  | .error _ => []

def lineText (s : Source) (index : Int) : Except Failure (List Char) :=
  (s.lineRange index).map fun (start, stop) => chars (slice start stop s.data)

end Source

end Diagnostics
