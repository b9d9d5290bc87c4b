namespace Diagnostics.Text

def isParameter (c : Char) : Bool := '0' ≤ c && c ≤ '?'

def isIntermediate (c : Char) : Bool := ' ' ≤ c && c ≤ '/'

def isFinal (c : Char) : Bool := '@' ≤ c && c ≤ '~'

def sequenceTail (cs : List Char) : Option Nat :=
  let afterParameters := cs.dropWhile isParameter
  match afterParameters.dropWhile isIntermediate with
  | [] => none
  | c :: rest => if isFinal c then some (cs.length - rest.length) else none

def escapeLength : List Char → Option Nat
  | '\x1b' :: '[' :: rest => (sequenceTail rest).map (· + 2)
  | _ => none

def stripFrom : Nat → List Char → List Char
  | _, [] => []
  | skip + 1, _ :: rest => stripFrom skip rest
  | 0, c :: rest =>
      match escapeLength (c :: rest) with
      | some n => stripFrom (n - 1) rest
      | none => c :: stripFrom 0 rest

def stripEscapes (cs : List Char) : List Char := stripFrom 0 cs

end Diagnostics.Text
