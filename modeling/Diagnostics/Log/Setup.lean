import Diagnostics.Log.Environment
import Diagnostics.Style

namespace Diagnostics

structure Handler where
  level : Int
  tracing : Bool
  deriving DecidableEq, Repr

structure LocatedRecord where
  record : Record
  line : Int
  deriving DecidableEq, Repr

def levelStyles : List (Int × Style) :=
  [(Level.critical, .boldColored .brightRed), (Level.error, .colored .red),
   (Level.warning, .colored .yellow), (Level.info, .colored .green),
   (Level.debug, .colored .brightBlack), (Level.trace, ⟨some .blue, false, true⟩)]

namespace Handler

def setup (level : Option Int) (env : Environment) (tracing : Bool) : Except LevelFault Handler :=
  match level with
  | some l => .ok ⟨l, tracing⟩
  | none => (Level.ofEnvironment env).map fun l => ⟨l.getD Level.critical, tracing⟩

def levelOf (h : Handler) (logger : String) : Int :=
  if h.tracing && Channel.isLogger logger then Level.trace else h.level

def accepts (h : Handler) (r : Record) : Bool := h.levelOf r.logger ≤ r.level && 0 < r.level

def traced (h : Handler) (r : Record) : List Record :=
  if h.tracing && Channel.isLogger r.logger && h.accepts r then [r] else []

def format (h : Handler) (r : LocatedRecord) : String :=
  "[" ++ Level.name r.record.level ++ "] "
    ++ (if h.level < Level.info then
          "[" ++ r.record.logger ++ ":" ++ toString r.line ++ "] " else "")
    ++ r.record.message

def write (h : Handler) (r : LocatedRecord) : String :=
  if h.accepts r.record then
    let text := h.format r
    (match levelStyles.find? (·.1 ≤ r.record.level) with
      | some (_, style) => style.paint text
      | none => text) ++ "\n"
  else ""

end Handler

end Diagnostics
