import Diagnostics.Decimal.Shortest

namespace Diagnostics.Decimal

def roundDiv (num den : Nat) : Nat :=
  let down := num / den
  let twice := 2 * (num % den)
  if den < twice || (den = twice && down % 2 = 1) then down + 1 else down

def Binary.roundedTo (b : Binary) (places : Int) : Nat :=
  roundDiv (b.quotient.1 * power10 places.toNat) (b.quotient.2 * power10 (-places).toNat)

def Binary.significant (b : Binary) (count : Nat) : List Char × Int :=
  if b.significand = 0 then (List.replicate count '0', 0)
  else
    let digits := Nat.toDigits 10 (b.roundedTo (count - 1 - b.leading))
    (digits.take count, b.leading + digits.length - count)

def withPoint (keep : Bool) (whole fraction : List Char) : List Char :=
  whole ++ (if fraction.isEmpty && !keep then [] else '.' :: fraction)

def fixed (keep : Bool) (places : Nat) (b : Binary) : List Char :=
  let digits := Nat.toDigits 10 (b.roundedTo places)
  let filled := List.replicate (places + 1 - digits.length) '0' ++ digits
  withPoint keep (filled.take (filled.length - places)) (filled.drop (filled.length - places))

def scientific (keep : Bool) (places : Nat) (b : Binary) : List Char :=
  let (digits, exponent) := b.significant (places + 1)
  withPoint keep (digits.take 1) (digits.drop 1) ++ exponentText exponent

def general (keep : Bool) (count : Nat) (b : Binary) : List Char :=
  let (digits, exponent) := b.significant count
  let ending (ds : List Char) : List Char := if keep then ds else Text.dropEndWhile (· = '0') ds
  if exponent < -4 || count ≤ exponent then
    withPoint keep (digits.take 1) (ending (digits.drop 1)) ++ exponentText exponent
  else if exponent < 0 then
    withPoint keep ['0'] (ending (List.replicate (-exponent - 1).toNat '0' ++ digits))
  else
    withPoint keep (digits.take (exponent.toNat + 1)) (ending (digits.drop (exponent.toNat + 1)))

end Diagnostics.Decimal
