import Diagnostics.Log.Environment
import Diagnostics.Options

namespace Diagnostics

inductive Terminal where
  | yes
  | no
  | missing
  | failing
  | unable
  | closed
  deriving DecidableEq, Repr

def Terminal.isTerminal (t : Terminal) : Bool := t = .yes

namespace Environment

def forcesColor (env : Environment) : Bool := env.forceColor.any fun s => s ≠ "" && s ≠ "0"

def refusesColor (env : Environment) : Bool := env.noColor.isSome

end Environment

namespace ColorChoice

def resolve (choice : ColorChoice) (env : Environment) (t : Terminal) : Bool :=
  match choice with
  | .always => true
  | .never => false
  | .auto => env.forcesColor || (!env.refusesColor && t.isTerminal)

def records (choice : ColorChoice) (env : Environment) : List Record :=
  match choice with
  | .always => []
  | .never => []
  | .auto =>
      if env.forcesColor then
        [Channel.color.record Level.trace "FORCE_COLOR set: enabling color"]
      else if env.refusesColor then
        [Channel.color.record Level.trace "NO_COLOR set: disabling color"]
      else []

end ColorChoice

end Diagnostics
