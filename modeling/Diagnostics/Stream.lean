import Diagnostics.Failure
import Diagnostics.Text.Escape
import Diagnostics.Text.Utf8

namespace Diagnostics

inductive Content where
  | text (s : String)
  | bytes (b : List UInt8)
  deriving DecidableEq, Repr

namespace Content

def size : Content → Nat
  | .text s => s.length
  | .bytes b => b.length

def append : Content → String → Content
  | .text s, piece => .text (s ++ piece)
  | .bytes b, piece => .bytes (b ++ Text.Utf8.encode piece.toList)

def read : Content → String
  | .text s => s
  | .bytes b =>
      match Text.Utf8.decode b with
      | .ok cs => String.ofList cs
      | .error _ => ""

def closedRefusal : Content → Refusal
  | .text _ => .closedText
  | .bytes _ => .closedBytes

end Content

structure Stream where
  content : Content
  limit : Option Nat
  closed : Bool
  deriving DecidableEq, Repr

namespace Stream

def withinLimit (limit : Option Nat) (size : Nat) : Bool := limit.all (size ≤ ·)

def accept (s : Stream) (piece : String) : Except Refusal Stream :=
  if s.closed then .error s.content.closedRefusal
  else
    let content := s.content.append piece
    if withinLimit s.limit content.size then .ok { s with content } else .error .full

def flush (s : Stream) : Except Refusal Unit :=
  match s.closed, s.content with
  | true, .bytes _ => .error .closedBytes
  | _, _ => .ok ()

def close (s : Stream) : Stream := { s with closed := true }

def echo (s : Stream) (colored : Bool) (piece : String) : Except Refusal Stream :=
  let shown := if colored then piece else String.ofList (Text.stripEscapes piece.toList)
  match s.content with
  | .text _ => if piece.isEmpty then .ok s else s.accept shown
  | .bytes _ => s.accept shown

end Stream

end Diagnostics
