import Diagnostics.Issue.Composition
import Diagnostics.Log
import Diagnostics.Report.Composition
import Diagnostics.Sink

namespace Diagnostics

inductive Step where
  | record (r : Record)
  | write (s : Segment)
  | fail (f : Failure)
  deriving DecidableEq, Repr

def Line.steps (l : Line) : List Step := l.map Step.write ++ [.write .newline]

namespace Block

def numberList (ns : List Nat) : String := "[" ++ ", ".intercalate (ns.map toString) ++ "]"

def record (b : Block) : Record :=
  Channel.excerpt.record Level.trace
    ("Excerpt of " ++ b.name ++ ": requested=" ++ numberList b.requested
      ++ " shown=" ++ numberList (b.lines.map (·.number)))

end Block

namespace Issue

def abortRecords (i : Issue) (f : Failure) : List Record :=
  if f.isOwn then [Channel.composition.record Level.debug ("Aborting render at " ++ i.header ++ ": " ++ f.message)]
  else []

def records (config : Config) (registry : Registry) (i : Issue) : List Record :=
  match i.place registry with
  | .error _ => []
  | .ok placed =>
      Channel.composition.record Level.trace
          ("Composing " ++ i.header ++ " across " ++ toString i.origins.length ++ " source(s)")
        :: match config.style, i.blocks config registry placed with
           | .full, .ok blocks => blocks.map Block.record
           | _, _ => []

def steps (config : Config) (registry : Registry) (i : Issue) : List Step :=
  match i.lines config registry with
  | .ok lines => (i.records config registry).map Step.record ++ lines.flatMap Line.steps
  | .error f => (i.abortRecords f).map Step.record ++ [.fail f]

end Issue

namespace Report

def record (r : Report) (index : Nat) : Record :=
  Channel.composition.record Level.debug
    ("Rendering report " ++ toString index ++ " (" ++ toString r.issues.length ++ " issue(s))")

def steps (config : Config) (registry : Registry) (r : Report) (index : Nat) : List Step :=
  .record (r.record index) :: r.issues.flatMap (Issue.steps config registry)
    ++ (r.footerLines config).flatMap Line.steps

def script (config : Config) (registry : Registry) (rs : List Report) : List Step :=
  rs.zipIdx.flatMap fun (r, index) => r.steps config registry index

end Report

structure Run where
  sink : Sink
  records : List Record
  failure : Option Failure
  deriving DecidableEq, Repr

namespace Sink

def refusalRecord (r : Refusal) : Record :=
  Channel.sink.record Level.error ("Failed to write report output: " ++ r.message)

def run : Sink → List Step → Run
  | sink, [] => ⟨sink, [], none⟩
  | sink, .record r :: rest =>
      let later := run sink rest
      ⟨later.sink, r :: later.records, later.failure⟩
  | sink, .write s :: rest =>
      match sink.write s with
      | .ok next => run next rest
      | .error refusal => ⟨sink, [refusalRecord refusal], some (.refused refusal)⟩
  | sink, .fail f :: _ => ⟨sink, [], some f⟩

end Sink

end Diagnostics
