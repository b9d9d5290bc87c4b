import Diagnostics.Log
import Diagnostics.Log.Template.Piece

namespace Diagnostics.Template

def memory : Nat := 0x1000000000

def Directive.fill (d : Directive) (index : Nat) (args : Arguments) :
    Except Fault (List Char × Arguments) := do
  let (v, args) ← args.next
  let piece ← d.piece index v
  if memory ≤ d.width then .error .outOfMemory else .ok (piece.pad d.flags d.width, args)

def fillFrom (size : Nat) (cs : List Char) (args : Arguments) : Except Fault (List Char) :=
  match cs with
  | [] => if args.used then .ok [] else .error .tooMany
  | '%' :: '%' :: rest => (fillFrom size rest args).map ('%' :: ·)
  | '%' :: rest =>
      match Directive.read rest args with
      | .error fault => .error fault
      | .ok (d, more, args) =>
          if _h : more.length ≤ rest.length then
            match d.fill (size - more.length - 1) args with
            | .error fault => .error fault
            | .ok (text, left) => (fillFrom size more left).map (text ++ ·)
          else .error .incomplete
  | c :: rest => (fillFrom size rest args).map (c :: ·)
termination_by cs.length

def fill (template : String) (args : List Value) : Except Fault String :=
  if args.isEmpty then .ok template
  else (fillFrom template.length template.toList (.ofList args)).map String.ofList

end Diagnostics.Template

namespace Diagnostics

def Record.traced (logger : String) (level : Int) (template : String) (args : List Value) :
    Except Template.Fault (List Record) :=
  if level ≤ Level.trace then
    (Template.fill template args).map fun message => [⟨Level.trace, logger, message⟩]
  else .ok []

end Diagnostics
