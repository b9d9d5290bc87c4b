import Diagnostics.Style

namespace Diagnostics

inductive Severity where
  | note
  | help
  | warning
  | error
  | bug
  deriving DecidableEq, Repr

namespace Severity

def all : List Severity := [.note, .help, .warning, .error, .bug]

def tag : Severity → String
  | .note => "note"
  | .help => "help"
  | .warning => "warning"
  | .error => "error"
  | .bug => "bug"

def ofTag? (tag : String) : Option Severity := all.find? (·.tag = tag)

def rank : Severity → Nat
  | .note => 0
  | .help => 1
  | .warning => 2
  | .error => 3
  | .bug => 4

instance : LE Severity := ⟨fun a b => a.rank ≤ b.rank⟩

instance : LT Severity := ⟨fun a b => a.rank < b.rank⟩

instance (a b : Severity) : Decidable (a ≤ b) := inferInstanceAs (Decidable (a.rank ≤ b.rank))

instance (a b : Severity) : Decidable (a < b) := inferInstanceAs (Decidable (a.rank < b.rank))

instance : Max Severity := ⟨fun a b => if a ≤ b then b else a⟩

instance : Min Severity := ⟨fun a b => if a ≤ b then a else b⟩

def style : Severity → Style
  | .note => .boldColored .green
  | .help => .boldColored .cyan
  | .warning => .boldColored .yellow
  | .error => .boldColored .red
  | .bug => .boldColored .brightRed

end Severity

end Diagnostics
