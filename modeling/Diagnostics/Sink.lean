import Diagnostics.Line
import Diagnostics.Stream

namespace Diagnostics

inductive Sink where
  | memory (colored : Bool) (text : String)
  | stream (colored : Bool) (s : Stream)
  | recorder (colored : Bool) (segments : List Segment)
  deriving DecidableEq, Repr

def Segment.piece (colored : Bool) (s : Segment) : String :=
  match s.style with
  | some style => if colored then style.paint s.text else s.text
  | none => s.text

namespace Sink

def colored : Sink → Bool
  | .memory c _ => c
  | .stream c _ => c
  | .recorder c _ => c

def write : Sink → Segment → Except Refusal Sink
  | .memory c text, s => .ok (.memory c (text ++ s.piece c))
  | .stream c inner, s => (inner.echo c (s.piece c)).map (.stream c)
  | .recorder c segments, s => .ok (.recorder c (segments ++ [s]))

def flush : Sink → Except Refusal Unit
  | .stream _ inner => inner.flush
  | .memory _ _ => .ok ()
  | .recorder _ _ => .ok ()

def received : Sink → String
  | .memory _ text => text
  | .stream _ inner => inner.content.read
  | .recorder _ segments => String.join (segments.map (·.text))

end Sink

end Diagnostics
