namespace Diagnostics.Text.Utf8

def encode (cs : List Char) : List UInt8 := cs.flatMap String.utf8EncodeChar

def isContinuation (b : UInt8) : Bool := b &&& 0xC0 == 0x80

inductive FaultKind where
  | invalidStart
  | invalidContinuation
  | unexpectedEnd
  deriving DecidableEq, Repr

structure Fault where
  kind : FaultKind
  first : UInt8
  start : Nat
  stop : Nat
  deriving DecidableEq, Repr

def FaultKind.reason : FaultKind → String
  | .invalidStart => "invalid start byte"
  | .invalidContinuation => "invalid continuation byte"
  | .unexpectedEnd => "unexpected end of data"

def Fault.hexByte (b : UInt8) : String :=
  let ds := Nat.toDigits 16 b.toNat
  String.ofList (List.replicate (2 - ds.length) '0' ++ ds)

def Fault.message (f : Fault) : String :=
  let place :=
    if f.stop = f.start + 1 then
      "byte 0x" ++ Fault.hexByte f.first ++ " in position " ++ toString f.start
    else "bytes in position " ++ toString f.start ++ "-" ++ toString (f.stop - 1)
  "'utf-8' codec can't decode " ++ place ++ ": " ++ f.kind.reason

structure Pending where
  start : Nat
  first : UInt8
  missing : Nat
  lowest : Nat
  highest : Nat
  value : Nat

/-- The character that a byte beyond ASCII begins. The bounds of the second byte rule out overlong
forms, surrogates and values beyond the last code point. -/
def begin? (pos : Nat) (b : UInt8) : Option Pending :=
  let n := b.toNat
  if 0xC2 ≤ n ∧ n ≤ 0xDF then some ⟨pos, b, 1, 0x80, 0xBF, n - 0xC0⟩
  else if n = 0xE0 then some ⟨pos, b, 2, 0xA0, 0xBF, 0⟩
  else if n = 0xED then some ⟨pos, b, 2, 0x80, 0x9F, 0xD⟩
  else if 0xE1 ≤ n ∧ n ≤ 0xEF then some ⟨pos, b, 2, 0x80, 0xBF, n - 0xE0⟩
  else if n = 0xF0 then some ⟨pos, b, 3, 0x90, 0xBF, 0⟩
  else if 0xF1 ≤ n ∧ n ≤ 0xF3 then some ⟨pos, b, 3, 0x80, 0xBF, n - 0xF0⟩
  else if n = 0xF4 then some ⟨pos, b, 3, 0x80, 0x8F, 4⟩
  else none

def decodeFrom : Nat → Option Pending → List UInt8 → Except Fault (List Char)
  | _, none, [] => .ok []
  | pos, some p, [] => .error ⟨.unexpectedEnd, p.first, p.start, pos⟩
  | pos, none, b :: rest =>
      if b.toNat < 0x80 then (decodeFrom (pos + 1) none rest).map (Char.ofNat b.toNat :: ·)
      else
        match begin? pos b with
        | some p => decodeFrom (pos + 1) (some p) rest
        | none => .error ⟨.invalidStart, b, pos, pos + 1⟩
  | pos, some p, b :: rest =>
      if p.lowest ≤ b.toNat ∧ b.toNat ≤ p.highest then
        let value := p.value * 64 + b.toNat % 64
        if p.missing = 1 then (decodeFrom (pos + 1) none rest).map (Char.ofNat value :: ·)
        else decodeFrom (pos + 1) (some ⟨p.start, p.first, p.missing - 1, 0x80, 0xBF, value⟩) rest
      else .error ⟨.invalidContinuation, p.first, p.start, pos⟩

def decode (bytes : List UInt8) : Except Fault (List Char) := decodeFrom 0 none bytes

end Diagnostics.Text.Utf8
