namespace Diagnostics

structure Record where
  level : Int
  logger : String
  message : String
  deriving DecidableEq, Repr

namespace Level

def trace : Int := 5

def debug : Int := 10

def info : Int := 20

def warning : Int := 30

def error : Int := 40

def critical : Int := 50

def registered : List (String × Int) :=
  [("NOTSET", 0), ("TRACE", trace), ("DEBUG", debug), ("INFO", info), ("WARNING", warning),
   ("ERROR", error), ("CRITICAL", critical)]

def name (level : Int) : String :=
  match registered.find? (·.2 = level) with
  | some (name, _) => name
  | none => "Level " ++ toString level

end Level

inductive Channel where
  | reports
  | renderer
  | composition
  | excerpt
  | sink
  | color
  | options
  | files
  deriving DecidableEq, Repr

def Channel.logger : Channel → String
  | .reports => "arareport.report"
  | .renderer => "arareport.builder"
  | .composition => "arareport.rendering.emitter"
  | .excerpt => "arareport.rendering.excerpt"
  | .sink => "arareport.rendering.writer"
  | .color => "arareport.rendering.color"
  | .options => "arareport.config.model"
  | .files => "arareport.config.io"

def Channel.family : String := "arareport"

def Channel.isLogger (logger : String) : Bool :=
  logger == family || (family ++ ".").isPrefixOf logger

def Channel.record (c : Channel) (level : Int) (message : String) : Record := ⟨level, c.logger, message⟩

end Diagnostics
