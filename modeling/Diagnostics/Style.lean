namespace Diagnostics

inductive Color where
  | red
  | green
  | yellow
  | blue
  | cyan
  | brightBlack
  | brightRed
  deriving DecidableEq, Repr

def Color.code : Color → Nat
  | .red => 31
  | .green => 32
  | .yellow => 33
  | .blue => 34
  | .cyan => 36
  | .brightBlack => 90
  | .brightRed => 91

structure Style where
  color : Option Color
  bold : Bool
  dim : Bool
  deriving DecidableEq, Repr

def switchOn (code : Nat) : String := "\x1b[" ++ toString code ++ "m"

namespace Style

def colored (c : Color) : Style := ⟨some c, false, false⟩

def boldColored (c : Color) : Style := ⟨some c, true, false⟩

def strong : Style := ⟨none, true, false⟩

def lead (s : Style) : String :=
  (s.color.map fun c => switchOn c.code).getD ""
    ++ (if s.bold then switchOn 1 else "") ++ (if s.dim then switchOn 2 else "")

def reset : String := switchOn 0

def paint (s : Style) (text : String) : String := s.lead ++ text ++ reset

def lineNumber : Style := colored .brightBlack

def border : Style := colored .brightBlack

def secondary : Style := colored .blue

def message : Style := strong

def noteLabel : Style := strong

end Style

end Diagnostics
