import Diagnostics.Decimal.Reading
import Diagnostics.Decimal.Rounded
import Diagnostics.Log.Template.Directive

namespace Diagnostics.Template

structure Piece where
  lead : List Char
  body : List Char
  numeric : Bool
  deriving DecidableEq, Repr

namespace Piece

def length (p : Piece) : Nat := p.lead.length + p.body.length

def pad (flags : List Char) (width : Nat) (p : Piece) : List Char :=
  let missing := width - p.length
  if flags.contains '-' then p.lead ++ p.body ++ List.replicate missing ' '
  else if p.numeric && flags.contains '0' then p.lead ++ List.replicate missing '0' ++ p.body
  else List.replicate missing ' ' ++ p.lead ++ p.body

def ofText (precision : Option Nat) (s : String) : Piece :=
  ⟨[], match precision with
       | some n => s.toList.take n
       | none => s.toList, false⟩

def sign (flags : List Char) (negative : Bool) : List Char :=
  if negative then ['-'] else if flags.contains '+' then ['+'] else if flags.contains ' ' then [' '] else []

def ofInt (d : Directive) (base : Nat) (n : Int) : Piece :=
  let digits := Nat.toDigits base n.natAbs
  let filled := List.replicate (d.precision.getD 0 - digits.length) '0' ++ digits
  let mark := if d.flags.contains '#' && base ≠ 10 then ['0', d.letter] else []
  ⟨sign d.flags (n < 0) ++ mark, if d.letter = 'X' then filled.map Char.toUpper else filled, true⟩

def realText (d : Directive) (b : Decimal.Binary) : List Char :=
  let keep := d.flags.contains '#'
  let precision := d.precision.getD 6
  match d.letter.toLower with
  | 'f' => Decimal.fixed keep precision b
  | 'e' => Decimal.scientific keep precision b
  | _ => Decimal.general keep (max precision 1) b

def ofDouble (d : Directive) (x : Decimal.Double) : Piece :=
  let (negative, text) :=
    match x with
    | .finite negative b => (negative, realText d b)
    | .infinite negative => (negative, ['i', 'n', 'f'])
    | .undefined => (false, ['n', 'a', 'n'])
  ⟨sign d.flags negative, if d.letter.isUpper then text.map Char.toUpper else text, true⟩

end Piece

def typeName : Value → String
  | .null => "NoneType"
  | .bool _ => "bool"
  | .int _ => "int"
  | .float _ => "float"
  | .text _ => "str"
  | .moment _ => "datetime"
  | .list _ => "list"
  | .table _ => "dict"

def plain : Value → String
  | .text s => s
  | v => v.shown

def wholePart : Decimal.Double → Except Fault Int
  | .undefined => .error .undefinedInteger
  | .infinite _ => .error .infiniteInteger
  | .finite negative b =>
      let whole := b.quotient.1 / b.quotient.2
      .ok (if negative then -whole else whole)

def wholeNumber (d : Directive) (base : Nat) (v : Value) : Except Fault Int :=
  match v, integer? v with
  | _, some n => .ok n
  | .float x, none =>
      if base = 10 then wholePart (.ofFloat x) else .error (.noInteger d.letter "float")
  | v, none =>
      .error (if base = 10 then .noNumber d.letter (typeName v) else .noInteger d.letter (typeName v))

def integerPiece (d : Directive) (base : Nat) (v : Value) : Except Fault Piece := do
  let n ← wholeNumber d base v
  if Size.precision.limit ≤ d.precision.getD 0 + 3 then .error .precisionTooLarge
  else .ok (.ofInt d base n)

def realNumber (v : Value) : Except Fault Decimal.Double :=
  match v, integer? v with
  | .float x, _ => .ok (.ofFloat x)
  | _, some n =>
      match Decimal.Double.ofFloat (Decimal.toFloat n.natAbs 0) with
      | .finite _ b => .ok (.finite (n < 0) b)
      | _ => .error .integerTooLarge
  | v, none => .error (.noReal (typeName v))

def characterPiece : Value → Except Fault Piece
  | .text s =>
      match s.toList with
      | [c] => .ok ⟨[], [c], false⟩
      | _ => .error .noCharacter
  | v =>
      match integer? v with
      | some n =>
          if 0 ≤ n ∧ n < 0x110000 then .ok ⟨[], [Char.ofNat n.toNat], false⟩
          else .error .characterTooLarge
      | none => .error .noCharacter

def Directive.piece (d : Directive) (index : Nat) (v : Value) : Except Fault Piece :=
  if d.letter = 's' then .ok (.ofText d.precision (plain v))
  else if d.letter = 'r' then .ok (.ofText d.precision v.shown)
  else if d.letter = 'a' then .ok (.ofText d.precision (Text.inAscii v.shown))
  else if ['d', 'i', 'u'].contains d.letter then integerPiece d 10 v
  else if d.letter = 'o' then integerPiece d 8 v
  else if ['x', 'X'].contains d.letter then integerPiece d 16 v
  else if ['e', 'E', 'f', 'F', 'g', 'G'].contains d.letter then
    (realNumber v).map (Piece.ofDouble d)
  else if d.letter = 'c' then characterPiece v
  else .error (.unknownForm d.letter index)

end Diagnostics.Template
