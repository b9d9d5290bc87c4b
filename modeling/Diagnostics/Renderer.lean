import Diagnostics.Script
import Diagnostics.Terminal

namespace Diagnostics

structure Renderer where
  registry : Registry
  config : Config

inductive Target where
  | sink (s : Sink)
  | stream (s : Stream) (t : Terminal)

inductive Ending where
  | completed
  | failed (f : Failure)
  | rejected (r : Rejection)
  deriving DecidableEq, Repr

structure Rendering where
  sink : Sink
  records : List Record
  ending : Ending
  deriving DecidableEq, Repr

namespace Target

def settle (choice : ColorChoice) (env : Environment) : Target → Sink
  | .sink s => s
  | .stream s t => .stream (choice.resolve env t) s

def records (choice : ColorChoice) (env : Environment) : Target → List Record
  | .sink _ => []
  | .stream _ t =>
      let colored := if choice.resolve env t then "True" else "False"
      choice.records env
        ++ [Channel.sink.record Level.trace ("StreamWriter('<sink>'): color=" ++ colored)]

end Target

namespace Reportable

def records : Reportable → List Report → List Record
  | .collection _, rs =>
      [Channel.reports.record Level.trace ("Rendering " ++ toString rs.length ++ " report(s)")]
  | .single _, _ => []
  | .uncountable _, _ => []

end Reportable

namespace Renderer

def ofConfig (registry : Registry) (c : Config) : Except Rejection Renderer :=
  (Config.ofOptions c.colors c.charset c.style c.context c.tab).map fun config => ⟨registry, config⟩

def change (r : Renderer) (x : Config.Change) : Except Rejection Renderer :=
  (r.config.change x).map fun config => { r with config := config }

def startRecord (r : Renderer) (reports : List Report) (sink : Sink) : Record :=
  Channel.renderer.record Level.debug
    ("Writing " ++ toString reports.length ++ " report(s) with " ++ r.config.summary
      ++ " (color=" ++ (if sink.colored then "True" else "False") ++ ")")

def ending (run : Run) : Ending :=
  match run.failure with
  | some f => .failed f
  | none =>
      match run.sink.flush with
      | .ok _ => .completed
      | .error refusal => .failed (.refused refusal)

def render (r : Renderer) (env : Environment) (target : Target) (input : Reportable) : Rendering :=
  let sink := target.settle r.config.colors env
  match input.reports with
  | .error rejection => ⟨sink, [], .rejected rejection⟩
  | .ok reports =>
      let run := sink.run (Report.script r.config r.registry reports)
      ⟨run.sink,
        input.records reports ++ target.records r.config.colors env
          ++ r.startRecord reports sink :: run.records,
        ending run⟩

def memory (choice : ColorChoice) (env : Environment) : Sink :=
  .memory (choice.resolve env .missing) ""

def renderText (r : Renderer) (env : Environment) (input : Reportable) : Rendering :=
  let rendering := r.render env (.sink (memory r.config.colors env)) input
  { rendering with records := r.config.colors.records env ++ rendering.records }

end Renderer

end Diagnostics
