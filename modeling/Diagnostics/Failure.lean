import Diagnostics.Options
import Diagnostics.Text.Quoted

namespace Diagnostics

inductive Refusal where
  | full
  | closedText
  | closedBytes
  deriving DecidableEq, Repr

def Refusal.message : Refusal → String
  | .full => "disk full"
  | .closedText => "I/O operation on closed file"
  | .closedBytes => "I/O operation on closed file."

inductive Rejection where
  | negativeOffsets (start stop : Int)
  | reversedOffsets (start stop : Int)
  | invalidPrimarySpan (origin : String) (start stop : Int)
  | incompletePrimarySpan
  | duplicateSource (name : String)
  | negativeContext (given : Count)
  | tabTooNarrow (given : Count)
  | notAReport (found : String)
  | notACollection (found : String)
  | unordered (symbol left right : String)
  deriving DecidableEq, Repr

def Rejection.message : Rejection → String
  | .negativeOffsets start stop =>
      "Annotation offsets must be non-negative: " ++ toString start ++ ".." ++ toString stop
  | .reversedOffsets start stop =>
      "Annotation start " ++ toString start ++ " is after its end " ++ toString stop
  | .invalidPrimarySpan origin start stop =>
      "Invalid primary span " ++ toString start ++ ".." ++ toString stop ++ " in "
        ++ Text.quoted origin
  | .incompletePrimarySpan => "A primary span needs both `from_` and `to` offsets"
  | .duplicateSource name => "Duplicate source name in source map: " ++ Text.quoted name
  | .negativeContext given => "context_lines must be >= 0, got " ++ given.text
  | .tabTooNarrow given => "tab_width must be >= 1, got " ++ given.text
  | .notAReport found => "Expected a Report, got " ++ found
  | .notACollection found => "'" ++ found ++ "' object is not iterable"
  | .unordered symbol left right =>
      "'" ++ symbol ++ "' not supported between instances of '" ++ left ++ "' and '" ++ right ++ "'"

inductive Failure where
  | sourceMissing (origin : String)
  | offsetTooLarge (given max : Int)
  | lineTooLarge (given max : Int)
  | columnTooLarge (given max : Int)
  | insideCharacter (given : Int)
  | reversedSpan (start stop : Int)
  | rejected (rejection : Rejection)
  | refused (refusal : Refusal)
  deriving DecidableEq, Repr

def Failure.message : Failure → String
  | .sourceMissing origin => "source " ++ Text.quoted origin ++ " is not in the source map"
  | .offsetTooLarge given max =>
      "invalid index " ++ toString given ++ ", maximum index is " ++ toString max
  | .lineTooLarge given max =>
      "invalid line " ++ toString given ++ ", maximum line is " ++ toString max
  | .columnTooLarge given max =>
      "invalid column " ++ toString given ++ ", maximum column is " ++ toString max
  | .insideCharacter given => "invalid character boundary at index " ++ toString given
  | .reversedSpan start stop =>
      "Span start " ++ toString start ++ " is after its end " ++ toString stop
  | .rejected rejection => rejection.message
  | .refused refusal => refusal.message

def Failure.isOwn : Failure → Bool
  | .rejected _ => false
  | .reversedSpan _ _ => false
  | _ => true

end Diagnostics
