import Diagnostics.Config.Value
import Diagnostics.Decimal.Reading

namespace Diagnostics.Toml

open Decimal (isAsciiDigit valueIn splitSign plainDigit)

def endsWord (c : Char) : Bool := [' ', '\t', '\n', '#', ',', ']', '\x7d'].contains c

def splitWord (cs : List Char) : List Char × List Char :=
  (cs.takeWhile (!endsWord ·), cs.dropWhile (!endsWord ·))

def dropUnderscores (isDigit : Char → Bool) : List Char → Option (List Char)
  | [] => some []
  | '_' :: _ => none
  | c :: '_' :: rest =>
      if isDigit c && rest.head?.any isDigit then (dropUnderscores isDigit rest).map (c :: ·) else none
  | c :: rest => (dropUnderscores isDigit rest).map (c :: ·)

def isDigitIn (base : Nat) (c : Char) : Bool :=
  if isAsciiDigit c then c.toNat - 48 < base else 'a' ≤ c.toLower && c.toLower ≤ 'f' && base = 16

def basedNumber? (base : Nat) (ds : List Char) : Option Value := do
  let ds ← dropUnderscores (isDigitIn base) ds
  let ds := (Text.dropEndWhile Text.isBlank ds).map plainDigit
  if !ds.isEmpty && ds.all (isDigitIn base) then some (.int (valueIn base ds)) else none

def decimalNumber? (word : List Char) : Option Value := do
  let word ← dropUnderscores isAsciiDigit word
  let (negative, ds) := splitSign (Text.dropEndWhile Text.isBlank word)
  let mantissa := word.takeWhile fun c => c ≠ 'e' && c ≠ 'E'
  match Text.decimal? ds with
  | some n =>
      if ds.length ≤ Text.decimalLimit then some (.int (if negative then -n else n))
      else (Decimal.read? (String.ofList word)).map Value.float
  | none =>
      if word.getLast? = some '.' || mantissa.getLast? = some '.' then none
      else (Decimal.read? (String.ofList word)).map Value.float

def number? (word : List Char) : Option Value :=
  let ds := (splitSign word).2
  let hasSign := ds.length < word.length
  match ds with
  | '0' :: 'x' :: more => if hasSign then none else basedNumber? 16 more
  | '0' :: 'o' :: more => if hasSign then none else basedNumber? 8 more
  | '0' :: 'b' :: more => if hasSign then none else basedNumber? 2 more
  | '0' :: c :: _ => if c = '.' || c = 'e' then decimalNumber? word else none
  | c :: _ => if c = '.' then none else decimalNumber? word
  | [] => none

def fixed (n : Nat) (cs : List Char) : Option (Nat × List Char) :=
  let ds := cs.take n
  if ds.length = n && ds.all isAsciiDigit then some (valueIn 10 ds, cs.drop n) else none

def behind (separator : Char) (n : Nat) : List Char → Option (Nat × List Char)
  | c :: rest => if c = separator then fixed n rest else none
  | [] => none

def readDate (cs : List Char) : Option (Date × List Char) := do
  let (year, cs) ← fixed 4 cs
  let (month, cs) ← behind '-' 2 cs
  let (day, cs) ← behind '-' 2 cs
  let d : Date := ⟨year, month, day⟩
  if d.valid then some (d, cs) else none

def readMicro : List Char → Option (Nat × List Char)
  | '.' :: rest =>
      let ds := rest.takeWhile isAsciiDigit
      if ds.isEmpty then none
      else some (valueIn 10 ((ds ++ List.replicate 6 '0').take 6), rest.dropWhile isAsciiDigit)
  | cs => some (0, cs)

def readSeconds : List Char → Option (Nat × Nat × List Char)
  | ':' :: rest => do
      let (second, cs) ← fixed 2 rest
      let (micro, cs) ← readMicro cs
      some (second, micro, cs)
  | cs => some (0, 0, cs)

def readClock (cs : List Char) : Option (Clock × List Char) := do
  let (hour, cs) ← fixed 2 cs
  let (minute, cs) ← behind ':' 2 cs
  let (second, micro, cs) ← readSeconds cs
  let c : Clock := ⟨hour, minute, second, micro⟩
  if c.valid then some (c, cs) else none

def readOffset : List Char → Option (Option Offset)
  | [] => some none
  | ['Z'] => some (some .universal)
  | ['z'] => some (some .universal)
  | sign :: cs => do
      let (hour, cs) ← fixed 2 cs
      let (minute, cs) ← behind ':' 2 cs
      if (sign = '+' || sign = '-') && hour < 24 && minute < 60 && cs.isEmpty then
        some (some (.given (sign = '-') (60 * hour + minute)))
      else none

def moment? (cs : List Char) : Option Moment :=
  match readDate cs with
  | some (d, []) => some (.date d)
  | some (d, separator :: rest) =>
      if separator = 'T' || separator = 't' || separator = ' ' then do
        let (c, rest) ← readClock rest
        some (.dateTime d c (← readOffset rest))
      else none
  | none =>
      match readClock cs with
      | some (c, []) => some (.clock c)
      | _ => none

def splitTime (cs : List Char) : List Char × List Char :=
  let inside (c : Char) : Bool := c = ' ' || !endsWord c
  (Text.dropEndWhile Text.isBlank (cs.takeWhile inside), cs.dropWhile inside)

def startsNumber (word : List Char) : Bool :=
  word.head?.any (fun c => isAsciiDigit c || c = '+' || c = '-')
    || word = ['i', 'n', 'f'] || word = ['n', 'a', 'n']

def readScalar (cs : List Char) : Option (Value × List Char) :=
  if "true".toList.isPrefixOf cs then some (.bool true, cs.drop 4)
  else if "false".toList.isPrefixOf cs then some (.bool false, cs.drop 5)
  else
    let (word, rest) := splitWord cs
    match moment? word with
    | some (.date d) =>
        let (time, last) := splitTime rest
        if time.isEmpty then some (.moment (.date d), last)
        else (moment? (word ++ time)).map fun m => (.moment m, last)
    | some m => some (.moment m, rest)
    | none => if startsNumber word then (number? word).map (·, rest) else none

end Diagnostics.Toml
