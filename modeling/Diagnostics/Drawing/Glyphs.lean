import Diagnostics.Annotation
import Diagnostics.Options

namespace Diagnostics

structure Glyphs where
  border : Char
  primaryCaret : Char
  secondaryCaret : Char
  connector : Char
  railTop : Char
  railFill : Char
  railVertical : Char
  railBottom : Char
  bullet : Char
  deriving DecidableEq, Repr

namespace Glyphs

def ascii : Glyphs := ⟨'|', '^', '-', '|', ' ', '_', '|', '|', '='⟩

def unicode : Glyphs := ⟨'│', '^', '-', '│', '╭', '─', '│', '╰', '='⟩

def ofCharSet : CharSet → Glyphs
  | .ascii => ascii
  | .unicode => unicode

def caret (g : Glyphs) : Weight → Char
  | .primary => g.primaryCaret
  | .secondary => g.secondaryCaret

end Glyphs

end Diagnostics
