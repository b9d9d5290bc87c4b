import Diagnostics.Text.Blank
import Diagnostics.Text.LowerCase

namespace Diagnostics.Text

def separator (c : Char) : Char := if c = '-' || c = ' ' then '_' else c

def token (s : String) : String := String.ofList ((lower (trim s.toList)).map separator)

end Diagnostics.Text
