import Diagnostics.Sorting
import Diagnostics.Source

namespace Diagnostics

structure ExcerptLine where
  number : Nat
  text : List Char
  gapBefore : Bool
  deriving DecidableEq, Repr

def markGaps : Option Nat → List Nat → List (Nat × Bool)
  | _, [] => []
  | before, k :: rest => (k, before.any (· + 1 ≠ k)) :: markGaps (some k) rest

def requestedNumbers (requested : List Int) : List Int :=
  sortBy (fun a b => decide (a ≤ b)) (requested.foldl (fun numbers r => numbers.insert r) [])

def requestedLines (requested : List Int) : List Nat := (requestedNumbers requested).map Int.toNat

section Windows

variable (last : Nat)

def addAt (line : Nat) (shown : List Nat) (offset : Nat) : List Nat :=
  let shown := if offset < line then shown.insert (line - offset) else shown
  if line + offset ≤ last then shown.insert (line + offset) else shown

def addAround (context : Nat) (shown : List Nat) (line : Nat) : List Nat :=
  (List.range' 1 context).foldl (addAt last line) shown

def windows (requested : List Nat) (context : Nat) : List Nat :=
  sortBy (fun a b => decide (a ≤ b)) (requested.foldl (addAround last context) requested)

end Windows

namespace Source

def lastContextLine (s : Source) : Nat :=
  if 1 < s.lineCount ∧ s.lineStarts.getLast? = some s.data.length then s.lineCount - 1
  else s.lineCount

def missingLine? (s : Source) (requested : List Int) : Option Int :=
  (requestedNumbers requested).find? fun r => r < 1 || (s.lineCount : Int) - 1 < r - 1

def excerpt (s : Source) (requested : List Int) (context : Nat) :
    Except Failure (List ExcerptLine) :=
  match s.missingLine? requested with
  | some r => .error (s.noLine (r - 1))
  | none =>
      (markGaps none (windows s.lastContextLine (requestedLines requested) context)).mapM fun (k, gap) => do
        .ok ⟨k, ← s.lineText (k - 1), gap⟩

end Source

end Diagnostics
