import Diagnostics.Text.Token

namespace Diagnostics

inductive ColorChoice where
  | always
  | auto
  | never
  deriving DecidableEq, Repr

inductive CharSet where
  | ascii
  | unicode
  deriving DecidableEq, Repr

inductive DisplayStyle where
  | full
  | comfortable
  | compact
  deriving DecidableEq, Repr

/-- A number as it is given for an option; a boolean counts as one. -/
inductive Count where
  | int (n : Int)
  | bool (b : Bool)
  deriving DecidableEq, Repr

namespace Count

def toInt : Count → Int
  | .int n => n
  | .bool b => if b then 1 else 0

def toNat (c : Count) : Nat := c.toInt.toNat

def text : Count → String
  | .int n => toString n
  | .bool b => if b then "True" else "False"

end Count

structure Spelling where
  name : String
  value : String
  description : String
  aliases : List String
  deriving DecidableEq, Repr

def Spelling.tokens (s : Spelling) : List String := (s.value :: s.name :: s.aliases).map Text.token

class Choice (α : Type) where
  title : String
  members : List α
  spelling : α → Spelling

namespace Choice

variable {α : Type} [Choice α]

def value (a : α) : String := (spelling a).value

def values (α : Type) [Choice α] : String := ", ".intercalate ((members : List α).map value)

def parse? (raw : String) : Option α :=
  members.find? fun a => (spelling a).tokens.contains (Text.token raw)

def text (a : α) : String :=
  "<" ++ title α ++ "." ++ (spelling a).name ++ ": '" ++ value a ++ "'>"

end Choice

instance : Choice ColorChoice where
  title := "ColorChoice"
  members := [.always, .auto, .never]
  spelling
    | .always => ⟨"ALWAYS", "always", "Always emit colors", ["force", "on"]⟩
    | .auto => ⟨"AUTO", "auto", "Emit colors when the sink is a terminal", []⟩
    | .never => ⟨"NEVER", "never", "Never emit colors", ["off", "none"]⟩

instance : Choice CharSet where
  title := "CharSet"
  members := [.ascii, .unicode]
  spelling
    | .ascii => ⟨"ASCII", "ascii", "ASCII line drawing (`-`, `|`)", []⟩
    | .unicode => ⟨"UNICODE", "unicode", "Box-drawing characters", ["utf8", "utf-8", "box"]⟩

instance : Choice DisplayStyle where
  title := "DisplayStyle"
  members := [.full, .comfortable, .compact]
  spelling
    | .full => ⟨"DEFAULT", "default", "Full source excerpts", ["rich"]⟩
    | .comfortable => ⟨"COMFORTABLE", "comfortable", "Header and notes", ["medium"]⟩
    | .compact => ⟨"COMPACT", "compact", "One line per issue", ["short"]⟩

end Diagnostics
