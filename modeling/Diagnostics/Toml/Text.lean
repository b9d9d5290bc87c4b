import Diagnostics.Decimal.Reading

namespace Diagnostics.Toml

def isSpace (c : Char) : Bool := c = ' ' || c = '\t'

def isPlain (c : Char) : Bool := c = '\t' || (32 ≤ c.toNat && c.toNat ≠ 127)

def isSpaceOrFeed (c : Char) : Bool := isSpace c || c = '\n'

def skipSpaces (cs : List Char) : List Char := cs.dropWhile isSpace

def skipFill : Bool → List Char → Option (List Char)
  | _, [] => some []
  | true, c :: rest =>
      if c = '\n' then skipFill false rest
      else if isPlain c then skipFill true rest
      else none
  | false, c :: rest =>
      if isSpaceOrFeed c then skipFill false rest
      else if c = '#' then skipFill true rest
      else some (c :: rest)

def endLine (cs : List Char) : Option (List Char) :=
  match skipSpaces cs with
  | [] => some []
  | '\n' :: rest => some rest
  | '#' :: rest =>
      match rest.dropWhile isPlain with
      | [] => some []
      | '\n' :: more => some more
      | _ => none
  | _ => none

def isBare (c : Char) : Bool := c.isAlphanum || c = '_' || c = '-'

def isHex (c : Char) : Bool :=
  Decimal.isAsciiDigit c || ('a' ≤ c && c ≤ 'f') || ('A' ≤ c && c ≤ 'F')

def charOfHex (ds : List Char) : Option Char :=
  if ds.all isHex then
    let n := Decimal.valueIn 16 ds
    if n.isValidChar then some (Char.ofNat n) else none
  else none

def escapeOf : Char → Option Char
  | 'b' => some '\x08'
  | 'e' => some '\x1b'
  | 't' => some '\t'
  | 'n' => some '\n'
  | 'f' => some '\x0c'
  | 'r' => some '\r'
  | '"' => some '"'
  | '\\' => some '\\'
  | _ => none

def readEscape : List Char → Option (Char × Nat)
  | 'x' :: rest => if rest.length < 2 then none else (charOfHex (rest.take 2)).map (·, 3)
  | 'u' :: rest => if rest.length < 4 then none else (charOfHex (rest.take 4)).map (·, 5)
  | 'U' :: rest => if rest.length < 8 then none else (charOfHex (rest.take 8)).map (·, 9)
  | c :: _ => (escapeOf c).map (·, 1)
  | [] => none

def continuation (cs : List Char) : Option Nat :=
  match skipSpaces cs with
  | '\n' :: _ => some (cs.takeWhile isSpaceOrFeed).length
  | _ => none

def before (c : Char) (r : List Char × List Char) : List Char × List Char := (c :: r.1, r.2)

def basicText : Nat → List Char → Option (List Char × List Char)
  | _, [] => none
  | skip + 1, _ :: rest => basicText skip rest
  | 0, '"' :: rest => some ([], rest)
  | 0, '\\' :: rest =>
      match readEscape rest with
      | some (c, n) => (basicText n rest).map (before c)
      | none => none
  | 0, c :: rest => if isPlain c then (basicText 0 rest).map (before c) else none

def literalText : List Char → Option (List Char × List Char)
  | [] => none
  | '\'' :: rest => some ([], rest)
  | c :: rest => if isPlain c then (literalText rest).map (before c) else none

inductive Closing where
  | open
  | closed (extra rest : List Char)
  | overfull

def closing (quote : Char) (cs : List Char) : Closing :=
  let n := (cs.takeWhile (· = quote)).length
  if n < 3 then .open
  else if n < 6 then .closed (List.replicate (n - 3) quote) (cs.drop n)
  else .overfull

def basicBlock : Nat → List Char → Option (List Char × List Char)
  | _, [] => none
  | skip + 1, _ :: rest => basicBlock skip rest
  | 0, c :: rest =>
      match closing '"' (c :: rest) with
      | .closed extra last => some (extra, last)
      | .overfull => none
      | .open =>
          if c = '\\' then
            match continuation rest, readEscape rest with
            | some n, _ => basicBlock n rest
            | none, some (e, n) => (basicBlock n rest).map (before e)
            | none, none => none
          else if isPlain c || c = '\n' then (basicBlock 0 rest).map (before c)
          else none

def literalBlock : List Char → Option (List Char × List Char)
  | [] => none
  | c :: rest =>
      match closing '\'' (c :: rest) with
      | .closed extra last => some (extra, last)
      | .overfull => none
      | .open =>
          if isPlain c || c = '\n' then (literalBlock rest).map (before c) else none

def dropFeed : List Char → List Char
  | '\n' :: rest => rest
  | cs => cs

def quotedLine : List Char → Option (List Char × List Char)
  | '"' :: rest => basicText 0 rest
  | '\'' :: rest => literalText rest
  | _ => none

def quotedText : List Char → Option (List Char × List Char)
  | '"' :: '"' :: '"' :: rest => basicBlock 0 (dropFeed rest)
  | '\'' :: '\'' :: '\'' :: rest => literalBlock (dropFeed rest)
  | cs => quotedLine cs

def bareKey (cs : List Char) : Option (String × List Char) :=
  let inside (c : Char) : Bool := isBare c || isSpace c
  let word := Text.dropEndWhile isSpace (cs.takeWhile inside)
  if word.isEmpty || word.contains ' ' then none else some (String.ofList word, cs.dropWhile inside)

def keyPart (cs : List Char) : Option (String × List Char) :=
  match quotedLine cs with
  | some (text, rest) => some (String.ofList text, rest)
  | none => bareKey cs

def keyPath (cs : List Char) : Option (String × List String × List Char) :=
  match keyPart cs with
  | none => none
  | some (part, rest) =>
      match skipSpaces rest with
      | '.' :: more =>
          if _h : (skipSpaces more).length < cs.length then
            (keyPath (skipSpaces more)).map fun (next, path, last) => (part, next :: path, last)
          else none
      | other => some (part, [], other)
termination_by cs.length

end Diagnostics.Toml
