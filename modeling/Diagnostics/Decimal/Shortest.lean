import Diagnostics.Decimal.Binary
import Diagnostics.Text.Blank

namespace Diagnostics.Decimal

structure Scientific where
  digits : Nat
  exponent : Int
  deriving DecidableEq, Repr

structure Rounding where
  value : Nat
  low : Nat
  high : Nat
  closed : Bool
  scale : Int
  deriving DecidableEq, Repr

def Rounding.ofBinary (b : Binary) : Rounding where
  value := 4 * b.significand
  low := 4 * b.significand - (if b.significand = power2 52 && -1074 < b.exponent then 1 else 2)
  high := 4 * b.significand + 2
  closed := b.significand % 2 = 0
  scale := b.exponent - 2

namespace Rounding

def leading (r : Rounding) : Int := Binary.leading ⟨r.value, r.scale⟩

def nearest? (r : Rounding) (exponent : Int) : Option Scientific :=
  let unit := power10 exponent.toNat * power2 (-r.scale).toNat
  let scale := power10 (-exponent).toNat * power2 r.scale.toNat
  let target := r.value * scale
  let inside (d : Nat) : Bool :=
    if r.closed then r.low * scale ≤ d * unit && d * unit ≤ r.high * scale
    else r.low * scale < d * unit && d * unit < r.high * scale
  let down := target / unit
  let below := target - down * unit
  let above := (down + 1) * unit - target
  match inside down, inside (down + 1) with
  | true, true =>
      if below < above || (below = above && down % 2 = 0) then some ⟨down, exponent⟩
      else some ⟨down + 1, exponent⟩
  | true, false => some ⟨down, exponent⟩
  | false, true => some ⟨down + 1, exponent⟩
  | false, false => none

def shortest (r : Rounding) : Scientific :=
  ((List.range 17).findSome? fun n : Nat => r.nearest? (r.leading - n)).getD ⟨r.value / 4, r.scale + 2⟩

end Rounding

def exponentText (exponent : Int) : List Char :=
  let digits := Nat.toDigits 10 exponent.natAbs
  'e' :: (if exponent < 0 then '-' else '+') :: List.replicate (2 - digits.length) '0' ++ digits

def write (ds : List Char) (point : Int) : List Char :=
  if -4 < point && point ≤ 16 then
    if point ≤ 0 then '0' :: '.' :: List.replicate (-point).toNat '0' ++ ds
    else if ds.length ≤ point.toNat then
      ds ++ List.replicate (point.toNat - ds.length) '0' ++ ['.', '0']
    else ds.take point.toNat ++ '.' :: ds.drop point.toNat
  else
    ds.take 1 ++ (if 1 < ds.length then '.' :: ds.drop 1 else []) ++ exponentText (point - 1)

def Scientific.text (s : Scientific) : List Char :=
  let ds := Nat.toDigits 10 s.digits
  write (Text.dropEndWhile (· = '0') ds) (ds.length + s.exponent)

def minus (negative : Bool) : String := if negative then "-" else ""

def ofFloat (x : Float) : String :=
  match Double.ofFloat x with
  | .undefined => "nan"
  | .infinite negative => minus negative ++ "inf"
  | .finite negative b =>
      minus negative
        ++ if b.significand = 0 then "0.0" else String.ofList (Rounding.ofBinary b).shortest.text

end Diagnostics.Decimal
