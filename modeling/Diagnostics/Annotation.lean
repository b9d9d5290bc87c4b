import Diagnostics.Source

namespace Diagnostics

inductive Weight where
  | primary
  | secondary
  deriving DecidableEq, Repr

def Weight.tag : Weight → String
  | .primary => "primary"
  | .secondary => "secondary"

/-- A name and two offsets as they are given, which may be negative or reversed. -/
structure Span where
  origin : String
  start : Int
  stop : Int
  deriving DecidableEq, Repr

structure ByteRange where
  origin : String
  start : Nat
  stop : Nat
  ordered : start ≤ stop
  deriving DecidableEq, Repr

def Span.range? (s : Span) : Option ByteRange :=
  if h : 0 ≤ s.start ∧ s.start ≤ s.stop then some ⟨s.origin, s.start.toNat, s.stop.toNat, by omega⟩ else none

def ByteRange.toSpan (r : ByteRange) : Span := ⟨r.origin, r.start, r.stop⟩

structure Annotation where
  weight : Weight
  span : ByteRange
  label : Option String
  deriving DecidableEq, Repr

namespace Annotation

def ofSpan (weight : Weight) (span : Span) : Except Rejection Annotation :=
  match span.range? with
  | some range => .ok ⟨weight, range, none⟩
  | none =>
      if span.start < 0 ∨ span.stop < 0 then .error (.negativeOffsets span.start span.stop)
      else .error (.reversedOffsets span.start span.stop)

def withLabel (a : Annotation) (label : String) : Annotation := { a with label := some label }

def isPrimary (a : Annotation) : Bool := a.weight = .primary

end Annotation

end Diagnostics
