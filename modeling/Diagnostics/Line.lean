import Diagnostics.Severity
import Diagnostics.Drawing.Rows
import Diagnostics.Text.Lines

namespace Diagnostics

structure Segment where
  text : String
  style : Option Style
  deriving DecidableEq, Repr

abbrev Line := List Segment

namespace Segment

def plain (text : String) : Segment := ⟨text, none⟩

def styled (text : String) (style : Style) : Segment := ⟨text, some style⟩

def newline : Segment := plain "\n"

end Segment

def spaces (n : Nat) : String := String.ofList (List.replicate n ' ')

namespace Style

def mark (severity : Severity) : Weight → Style
  | .primary => severity.style
  | .secondary => secondary

end Style

namespace Line

def header (severity : Severity) (label message : String) : Line :=
  [.styled label severity.style, .styled (": " ++ message) .message]

def note (g : Glyphs) (label text : String) (indent : Nat) : List Line :=
  let lead := spaces indent ++ String.ofList [g.bullet, ' ']
  let (first, rest) := Text.splitLines text.toList
  [.plain lead, .styled (label ++ ":") .noteLabel, .plain (" " ++ String.ofList first)]
    :: rest.map fun part =>
        [.plain (spaces (lead.length + label.length + 2) ++ String.ofList part)]

def gutter (g : Glyphs) (width : Nat) : Line :=
  [.plain (spaces (width + 1)), .styled (String.ofList [g.border]) .border]

def gap (charset : CharSet) (width : Nat) : Line :=
  match charset with
  | .ascii => [.styled "..." .border]
  | .unicode => [.plain (spaces (width + 1)), .styled "·" .border]

def location (charset : CharSet) (width : Nat) (isFirst : Bool) (place : String) : Line :=
  match charset with
  | .ascii =>
      [.plain (spaces width), .styled (if isFirst then "-->" else ":::") .border,
        .plain (" " ++ place)]
  | .unicode => [.plain (spaces (width + 1)), .styled "┌─" .border, .plain (" " ++ place)]

def ofRow (severity : Severity) (row : Row) : Line :=
  row.map fun p => ⟨String.ofList p.text, p.kind.map (Style.mark severity)⟩

def numbered (g : Glyphs) (width number : Nat) : Line :=
  let digits := toString number
  [.styled (spaces (width - digits.length) ++ digits ++ " ") .lineNumber,
    .styled (String.ofList [g.border]) .border]

end Line

end Diagnostics
