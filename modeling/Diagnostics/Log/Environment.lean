import Diagnostics.Log
import Diagnostics.Text.Blank
import Diagnostics.Text.Capital
import Diagnostics.Text.Digit
import Diagnostics.Text.Quoted

namespace Diagnostics

structure Environment where
  forceColor : Option String
  noColor : Option String
  logLevel : Option String
  deriving DecidableEq, Repr

inductive LevelFault where
  | notDecimal (given : String)
  | tooLong (digits : Nat)
  deriving DecidableEq, Repr

def LevelFault.message : LevelFault → String
  | .notDecimal given =>
      "invalid literal for int() with base 10: " ++ String.ofList ((Text.quoted given).toList.take 200)
  | .tooLong digits =>
      "Exceeds the limit (" ++ toString Text.decimalLimit
        ++ " digits) for integer string conversion: value has " ++ toString digits
        ++ " digits; use sys.set_int_max_str_digits() to increase the limit"

namespace Level

def canonicalName (name : String) : String :=
  if name = "WARN" then "WARNING" else if name = "FATAL" then "CRITICAL" else name

def parse (text : String) : Except LevelFault (Option Int) :=
  let cs := Text.capitals (Text.trim text.toList)
  if cs.isEmpty then .ok none
  else if cs.all Text.isDigit then
    let digits := (cs.takeWhile fun c => (Text.decimalValue? c).isSome).length
    if Text.decimalLimit < digits then .error (.tooLong digits)
    else
      match Text.decimal? cs with
      | some n => .ok (some n)
      | none => .error (.notDecimal (String.ofList cs))
  else .ok (registered.lookup (canonicalName (String.ofList cs)))

def ofEnvironment (env : Environment) : Except LevelFault (Option Int) :=
  parse (env.logLevel.getD "")

end Level

end Diagnostics
