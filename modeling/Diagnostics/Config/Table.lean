import Diagnostics.Config
import Diagnostics.Config.Value
import Diagnostics.Log

namespace Diagnostics

inductive OptionFault where
  | choice (key : String) (value : Value) (choices : String)
  | count (key : String) (value : Value) (least : Int)

def OptionFault.message : OptionFault → String
  | .choice key value choices =>
      "Invalid value for `" ++ key ++ "`: " ++ value.shown ++ " (expected one of: " ++ choices ++ ")"
  | .count key value least =>
      "Invalid value for `" ++ key ++ "`: " ++ value.shown ++ " (expected an integer >= "
        ++ toString least ++ ")"

namespace Config

def keys : List String := ["colors", "charset", "style", "context_lines", "tab_width"]

variable {α : Type} [Choice α]

def choiceIn (t : Table) (key : String) (missing : α) : Except OptionFault α :=
  match t.get? key with
  | none => .ok missing
  | some (.text raw) =>
      match Choice.parse? raw with
      | some a => .ok a
      | none => .error (.choice key (.text raw) (Choice.values α))
  | some v => .error (.choice key v (Choice.values α))

def countIn (t : Table) (key : String) (missing least : Nat) (h : least ≤ missing) :
    Except OptionFault { n : Nat // least ≤ n } :=
  match t.get? key with
  | none => .ok ⟨missing, h⟩
  | some (.int n) =>
      if h : (least : Int) ≤ n then .ok ⟨n.toNat, by omega⟩ else .error (.count key (.int n) least)
  | some v => .error (.count key v least)

def ofTable (t : Table) : Except OptionFault Config := do
  let colors ← choiceIn t "colors" initial.colors
  let charset ← choiceIn t "charset" initial.charset
  let style ← choiceIn t "style" initial.style
  let contextLines ← countIn t "context_lines" initial.contextLines 0 (Nat.zero_le _)
  let tabWidth ← countIn t "tab_width" initial.tabWidth 1 initial.tabWidth_pos
  .ok ⟨colors, charset, style, .int contextLines.1, .int tabWidth.1, Int.natCast_nonneg _, Int.ofNat_le.2 tabWidth.2⟩

def toTable (c : Config) : Table :=
  [("colors", .text (Choice.value c.colors)), ("charset", .text (Choice.value c.charset)),
   ("style", .text (Choice.value c.style)), ("context_lines", .ofCount c.context),
   ("tab_width", .ofCount c.tab)]

def records (t : Table) : List Record :=
  ((t.map (·.1)).filter fun key => !keys.contains key).map (fun key =>
      Channel.options.record Level.warning ("Ignoring unknown render option: " ++ Text.quoted key))
    ++ match ofTable t with
       | .ok c => [Channel.options.record Level.debug ("Resolved render config: " ++ c.text)]
       | .error _ => []

end Config

end Diagnostics
