import Diagnostics.Decimal.Shortest
import Diagnostics.Text.Digit

namespace Diagnostics.Decimal

def ungroup (isDigit : Char → Bool) : List Char → Option (List Char)
  | [] => none
  | [c] => if isDigit c then some [c] else none
  | c :: '_' :: rest => if isDigit c then (ungroup isDigit rest).map (c :: ·) else none
  | c :: rest => if isDigit c then (ungroup isDigit rest).map (c :: ·) else none

def isAsciiDigit (c : Char) : Bool := '0' ≤ c && c ≤ '9'

def valueIn (base : Nat) (ds : List Char) : Nat :=
  ds.foldl (fun n c =>
    base * n + (if isAsciiDigit c then c.toNat - 48 else c.toLower.toNat - 87)) 0

def toFloat (digits : Nat) (exponent : Int) : Float :=
  let size : Int := digitCount digits + exponent
  if digits = 0 then 0.0
  else if 400 < size then 1.0 / 0.0
  else if size < -400 then 0.0
  else if exponent < 0 then Float.ofScientific digits true exponent.natAbs
  else Float.ofScientific digits false exponent.natAbs

def splitSign : List Char → Bool × List Char
  | '-' :: rest => (true, rest)
  | '+' :: rest => (false, rest)
  | cs => (false, cs)

def signed (negative : Bool) (x : Float) : Float := if negative then -x else x

def splitAtFirst (p : Char → Bool) (cs : List Char) : List Char × Option (List Char) :=
  (cs.takeWhile (!p ·), (cs.dropWhile (!p ·)).tail?)

def exponent? : Option (List Char) → Option Int
  | none => some 0
  | some cs =>
      let (negative, ds) := splitSign cs
      (ungroup isAsciiDigit ds).map fun ds =>
        if negative then -(valueIn 10 ds : Int) else valueIn 10 ds

def plainDigit (c : Char) : Char := (Text.decimalValue? c).elim c fun d => Char.ofNat (48 + d)

def read? (text : String) : Option Float :=
  let (negative, cs) := splitSign ((Text.trim text.toList).map plainDigit)
  let word := cs.map Char.toLower
  if word = ['i', 'n', 'f'] || word = "infinity".toList then some (signed negative (1.0 / 0.0))
  else if word = ['n', 'a', 'n'] then some (0.0 / 0.0)
  else
    let (number, exponent) := splitAtFirst (· = 'e') word
    let (whole, fraction) := splitAtFirst (· = '.') number
    let fraction := fraction.getD []
    let group (ds : List Char) := if ds.isEmpty then some [] else ungroup isAsciiDigit ds
    match group whole, group fraction, exponent? exponent with
    | some w, some f, some e =>
        if w.isEmpty && f.isEmpty then none
        else some (signed negative (toFloat (valueIn 10 (w ++ f)) (e - f.length)))
    | _, _, _ => none

end Diagnostics.Decimal
