import Diagnostics.Config.Value

namespace Diagnostics.Template

inductive Size where
  | width
  | precision
  deriving DecidableEq, Repr

inductive Fault where
  | incomplete
  | incompleteName
  | unnamed
  | missing (name : String)
  | tooFew
  | tooMany
  | unknownForm (letter : Char) (index : Nat)
  | noNumber (letter : Char) (found : String)
  | noInteger (letter : Char) (found : String)
  | noReal (found : String)
  | noCharacter
  | characterTooLarge
  | noSize
  | sizeTooLarge (size : Size)
  | sizeArgumentTooLarge (size : Size)
  | precisionTooLarge
  | integerTooLarge
  | infiniteInteger
  | undefinedInteger
  | outOfMemory
  deriving DecidableEq, Repr

def Fault.message : Fault → String
  | .incomplete => "incomplete format"
  | .incompleteName => "incomplete format key"
  | .unnamed => "format requires a mapping"
  | .missing name => Text.quoted name
  | .tooFew => "not enough arguments for format string"
  | .tooMany => "not all arguments converted during string formatting"
  | .unknownForm letter index =>
      let shown := if 31 ≤ letter.toNat && letter.toNat < 127 then letter else '?'
      "unsupported format character '" ++ shown.toString ++ "' (0x"
        ++ String.ofList (Nat.toDigits 16 letter.toNat) ++ ") at index " ++ toString index
  | .noNumber letter found =>
      "%" ++ letter.toString ++ " format: a real number is required, not " ++ found
  | .noInteger letter found =>
      "%" ++ letter.toString ++ " format: an integer is required, not " ++ found
  | .noReal found => "must be real number, not " ++ found
  | .noCharacter => "%c requires int or char"
  | .characterTooLarge => "%c arg not in range(0x110000)"
  | .noSize => "* wants int"
  | .sizeTooLarge .width => "width too big"
  | .sizeTooLarge .precision => "precision too big"
  | .sizeArgumentTooLarge .width => "Python int too large to convert to C ssize_t"
  | .sizeArgumentTooLarge .precision => "Python int too large to convert to C int"
  | .precisionTooLarge => "precision too large"
  | .integerTooLarge => "int too large to convert to float"
  | .infiniteInteger => "cannot convert float infinity to integer"
  | .undefinedInteger => "cannot convert float NaN to integer"
  | .outOfMemory => ""

structure Arguments where
  left : List Value
  names : Option Table

namespace Arguments

def ofList : List Value → Arguments
  | [.table (entry :: entries)] => ⟨[.table (entry :: entries)], some (entry :: entries)⟩
  | args => ⟨args, none⟩

def next (args : Arguments) : Except Fault (Value × Arguments) :=
  match args.left with
  | [] => .error .tooFew
  | v :: left => .ok (v, ⟨left, args.names⟩)

def select (name : String) (args : Arguments) : Except Fault Arguments :=
  match args.names with
  | none => .error .unnamed
  | some names =>
      match names.get? name with
      | some v => .ok ⟨[v], some names⟩
      | none => .error (.missing name)

def used (args : Arguments) : Bool := args.left.isEmpty || args.names.isSome

end Arguments

structure Directive where
  flags : List Char
  width : Nat
  precision : Option Nat
  letter : Char
  deriving DecidableEq, Repr

def isFlag (c : Char) : Bool := ['-', '+', ' ', '#', '0'].contains c

def isSizeLetter (c : Char) : Bool := ['h', 'l', 'L'].contains c

def digitsValue (ds : List Char) : Nat := ds.foldl (fun n d => 10 * n + (d.toNat - 48)) 0

def integer? : Value → Option Int
  | .int n => some n
  | .bool b => some (if b then 1 else 0)
  | _ => none

namespace Size

def limit : Size → Nat
  | width => 0x8000000000000000
  | precision => 0x80000000

def ofArgument (s : Size) (v : Value) : Except Fault Int :=
  match integer? v with
  | none => .error .noSize
  | some n =>
      if -(s.limit : Int) ≤ n ∧ n < s.limit then .ok n else .error (.sizeArgumentTooLarge s)

def read (s : Size) (cs : List Char) (args : Arguments) :
    Except Fault (Option Int × List Char × Arguments) :=
  match cs with
  | '*' :: rest => do
      let (v, args) ← args.next
      .ok (some (← s.ofArgument v), rest, args)
  | cs =>
      let ds := cs.takeWhile Char.isDigit
      if ds.isEmpty then .ok (none, cs, args)
      else if digitsValue ds < s.limit then
        .ok (some (digitsValue ds), cs.dropWhile Char.isDigit, args)
      else .error (.sizeTooLarge s)

end Size

def readName : Nat → List Char → Option (List Char × List Char)
  | _, [] => none
  | 0, ')' :: rest => some ([], rest)
  | depth, c :: rest =>
      let inside := if c = ')' then depth - 1 else if c = '(' then depth + 1 else depth
      (readName inside rest).map fun (name, more) => (c :: name, more)

def readSelection (cs : List Char) (args : Arguments) : Except Fault (List Char × Arguments) :=
  match cs with
  | '(' :: rest =>
      if args.names.isNone then .error .unnamed
      else
        match readName 0 rest with
        | none => .error .incompleteName
        | some (name, more) => (args.select (String.ofList name)).map (more, ·)
  | cs => .ok (cs, args)

def readPrecision (cs : List Char) (args : Arguments) :
    Except Fault (Option Nat × List Char × Arguments) :=
  match cs with
  | '.' :: rest => do
      let (precision, rest, args) ← Size.precision.read rest args
      .ok (some (precision.getD 0).toNat, rest, args)
  | cs => .ok (none, cs, args)

def dropSizeLetter : List Char → List Char
  | c :: rest => if isSizeLetter c then rest else c :: rest
  | [] => []

def Directive.read (cs : List Char) (args : Arguments) :
    Except Fault (Directive × List Char × Arguments) := do
  let (cs, args) ← readSelection cs args
  let flags := cs.takeWhile isFlag
  let (width, cs, args) ← Size.width.read (cs.dropWhile isFlag) args
  let width := width.getD 0
  let (precision, cs, args) ← readPrecision cs args
  match dropSizeLetter cs with
  | letter :: rest =>
      .ok (⟨if width < 0 then '-' :: flags else flags, width.natAbs, precision, letter⟩, rest, args)
  | [] => .error .incomplete

end Diagnostics.Template
