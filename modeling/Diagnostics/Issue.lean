import Diagnostics.Annotation
import Diagnostics.Severity

namespace Diagnostics

structure Issue where
  severity : Severity
  message : String
  code : Option String
  primary : Option Span
  annotations : List Annotation
  notes : List String
  deriving DecidableEq, Repr

def addName (names : List String) (name : String) : List String :=
  if name ∈ names then names else names ++ [name]

namespace Issue

def new (severity : Severity) (message : String) : Issue := ⟨severity, message, none, none, [], []⟩

def ofMessage (message : String) : Issue := new .error message

def ofFailure (failure : Failure) : Issue := ofMessage failure.message

def withCode (i : Issue) (code : String) : Issue := { i with code := some code }

def withSource (i : Issue) (origin : String) (start stop : Int) : Except Rejection Issue :=
  if start < 0 ∨ stop < 0 ∨ stop < start then .error (.invalidPrimarySpan origin start stop)
  else .ok { i with primary := some ⟨origin, start, stop⟩ }

def annotate (i : Issue) (a : Annotation) : Issue :=
  { i with annotations := i.annotations ++ [a] }

def annotateAll (i : Issue) (as : List Annotation) : Issue :=
  { i with annotations := i.annotations ++ as }

def withNote (i : Issue) (note : String) : Issue := { i with notes := i.notes ++ [note] }

def coded (severity : Severity) (code message : String) (origin : Option String)
    (start stop : Option Int) : Except Rejection Issue :=
  let issue := (new severity message).withCode code
  match origin, start, stop with
  | none, _, _ => .ok issue
  | some o, some a, some b => issue.withSource o a b
  | some _, _, _ => .error .incompletePrimarySpan

def annotationOfPrimary (i : Issue) : Except Rejection (Option Annotation) :=
  match i.primary with
  | none => .ok none
  | some span => Except.map some <| Annotation.ofSpan .primary span

def allAnnotations (i : Issue) : Except Rejection (List Annotation) :=
  i.annotationOfPrimary.map fun implicit => i.annotations ++ implicit.toList

def primaryOrigin (i : Issue) : Option String :=
  match i.primary with
  | some span => some span.origin
  | none => ((i.annotations.find? (·.isPrimary)).or i.annotations.head?).map (·.span.origin)

def origins (i : Issue) : List String :=
  (i.annotations.map (·.span.origin)).foldl addName i.primaryOrigin.toList

def headerLabel (i : Issue) : String :=
  match i.code with
  | some code => i.severity.tag ++ "[" ++ code ++ "]"
  | none => i.severity.tag

def header (i : Issue) : String := i.headerLabel ++ ": " ++ i.message

def text (i : Issue) : String :=
  match i.primary with
  | some span =>
      i.header ++ " at " ++ span.origin ++ "@" ++ toString span.start ++ ":" ++ toString span.stop
  | none => i.header

end Issue

end Diagnostics
