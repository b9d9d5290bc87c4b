import Diagnostics.Failure
import Diagnostics.Severity

namespace Diagnostics

inductive Comparison where
  | lt
  | le
  | gt
  | ge
  deriving DecidableEq, Repr

def Comparison.symbol : Comparison → String
  | .lt => "<"
  | .le => "<="
  | .gt => ">"
  | .ge => ">="

inductive Foreign where
  | text (s : String)
  | typed (name : String)
  deriving DecidableEq, Repr

namespace Severity

def compare (s : Severity) (c : Comparison) : Foreign → Except Rejection Bool
  | .typed name => .error (.unordered c.symbol "IssueSeverity" name)
  | .text t =>
      .ok <| match c with
        | .lt => s.tag < t
        | .le => !(t < s.tag : Bool)
        | .gt => t < s.tag
        | .ge => !(s.tag < t : Bool)

def equals (s : Severity) : Foreign → Bool
  | .typed _ => false
  | .text t => s.tag = t

end Severity

end Diagnostics
