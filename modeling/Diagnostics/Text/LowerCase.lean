import Diagnostics.Text.Range
import Diagnostics.Text.Case

namespace Diagnostics.Text

def lowerShift (n : Nat) : List (Nat × Nat × Nat × Int) → Option Int
  | [] => none
  | (first, last, step, shift) :: rest =>
      if n < first then none
      else if n ≤ last ∧ (n - first) % step = 0 then some shift
      else lowerShift n rest

def lowerChar (c : Char) : Char :=
  match lowerShift c.toNat lowerRuns with
  | some shift => Char.ofNat (c.toNat + shift).toNat
  | none => c

def meetsCased (cs : List Char) : Bool :=
  match cs.dropWhile (inRanges · caseIgnorable) with
  | [] => false
  | c :: _ => inRanges c cased

def lowerFrom : List Char → List Char → List Char
  | _, [] => []
  | before, c :: rest =>
      (if c = 'Σ' then [if meetsCased before && !meetsCased rest then 'ς' else 'σ']
        else if c = 'İ' then ['i', '\u0307']
        else [lowerChar c])
      ++ lowerFrom (c :: before) rest

def lower (cs : List Char) : List Char := lowerFrom [] cs

end Diagnostics.Text
