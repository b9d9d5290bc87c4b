namespace Diagnostics.Decimal

def power2 (n : Nat) : Nat := Nat.pow 2 n

def power10 (n : Nat) : Nat := Nat.pow 10 n

def digitCount (n : Nat) : Nat := (Nat.toDigits 10 n).length

structure Binary where
  significand : Nat
  exponent : Int
  deriving DecidableEq, Repr

def Binary.quotient (b : Binary) : Nat × Nat :=
  (b.significand * power2 b.exponent.toNat, power2 (-b.exponent).toNat)

def Binary.leading (b : Binary) : Int :=
  let guess : Int := digitCount b.quotient.1 - digitCount b.quotient.2
  if b.quotient.2 * power10 guess.toNat ≤ b.quotient.1 * power10 (-guess).toNat then guess else guess - 1

inductive Double where
  | finite (negative : Bool) (b : Binary)
  | infinite (negative : Bool)
  | undefined
  deriving DecidableEq, Repr

def Double.ofFloat (x : Float) : Double :=
  let bits : Nat := x.toBits.toNat
  let fraction : Nat := bits % power2 52
  let field : Nat := bits / power2 52 % power2 11
  let negative : Bool := power2 63 ≤ bits
  if field = 2047 then (if fraction = 0 then .infinite negative else .undefined)
  else if field = 0 then .finite negative ⟨fraction, -1074⟩
  else .finite negative ⟨fraction + power2 52, (field : Int) - 1075⟩

end Diagnostics.Decimal
