import Diagnostics.Failure
import Diagnostics.Options

namespace Diagnostics

structure Config where
  colors : ColorChoice
  charset : CharSet
  style : DisplayStyle
  context : Count
  tab : Count
  context_nonneg : 0 ≤ context.toInt
  tab_pos : 1 ≤ tab.toInt
  deriving DecidableEq, Repr

namespace Config

def contextLines (c : Config) : Nat := c.context.toNat

def tabWidth (c : Config) : Nat := c.tab.toNat

theorem tabWidth_pos (c : Config) : 0 < c.tabWidth := Int.lt_toNat.2 c.tab_pos

def initial : Config := ⟨.auto, .ascii, .full, .int 1, .int 2, by decide, by decide⟩

def withColors (c : Config) (colors : ColorChoice) : Config := { c with colors := colors }

def withCharset (c : Config) (charset : CharSet) : Config := { c with charset := charset }

def withStyle (c : Config) (style : DisplayStyle) : Config := { c with style := style }

def withContextLines (c : Config) (lines : Count) : Except Rejection Config :=
  if h : lines.toInt < 0 then .error (.negativeContext lines)
  else .ok { c with context := lines, context_nonneg := Int.not_lt.1 h }

def withTabWidth (c : Config) (width : Count) : Except Rejection Config :=
  if h : width.toInt < 1 then .error (.tabTooNarrow width)
  else .ok { c with tab := width, tab_pos := Int.not_lt.1 h }

inductive Change where
  | colors (colors : ColorChoice)
  | charset (charset : CharSet)
  | style (style : DisplayStyle)
  | contextLines (lines : Count)
  | tabWidth (width : Count)
  deriving DecidableEq, Repr

def change (c : Config) : Change → Except Rejection Config
  | .colors colors => .ok (c.withColors colors)
  | .charset charset => .ok (c.withCharset charset)
  | .style style => .ok (c.withStyle style)
  | .contextLines lines => c.withContextLines lines
  | .tabWidth width => c.withTabWidth width

def ofOptions (colors : ColorChoice) (charset : CharSet) (style : DisplayStyle)
    (context tab : Count) : Except Rejection Config := do
  let c := ((initial.withColors colors).withCharset charset).withStyle style
  let c ← c.withContextLines context
  c.withTabWidth tab

def summary (c : Config) : String :=
  "\x7b'colors': '" ++ Choice.value c.colors ++ "', 'charset': '" ++ Choice.value c.charset
    ++ "', 'style': '" ++ Choice.value c.style
    ++ "', 'context_lines': " ++ c.context.text
    ++ ", 'tab_width': " ++ c.tab.text ++ "\x7d"

def text (c : Config) : String :=
  "RenderConfig(colors=" ++ Choice.text c.colors ++ ", charset=" ++ Choice.text c.charset
    ++ ", style=" ++ Choice.text c.style ++ ", context_lines=" ++ c.context.text
    ++ ", tab_width=" ++ c.tab.text ++ ")"

end Config

end Diagnostics
