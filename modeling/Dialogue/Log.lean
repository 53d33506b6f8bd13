/-!
# Log lines

What the program tells about its work, besides its results. A line has a level and names
the part of the program that wrote it.
-/

namespace Dialogue

/-- How much a log line matters. -/
inductive LogLevel where
  | debug
  | info
  | warning
  | error
  deriving DecidableEq, Repr

/-- The part of the program that writes a log line. -/
inductive LogSource where
  | program
  | compiler
  | graphFiles
  | events
  deriving DecidableEq, Repr

/-- A line of the log. -/
structure LogLine where
  level : LogLevel
  source : LogSource
  message : String
  deriving DecidableEq, Repr

/-- The word for a level. -/
def LogLevel.word : LogLevel → String
  | .debug => "DEBUG"
  | .info => "INFO"
  | .warning => "WARNING"
  | .error => "ERROR"

/-- The dotted name of a part of the program. -/
def LogSource.path : LogSource → String
  | .program => "dialogscript"
  | .compiler => "dialogscript.compiler.compiler"
  | .graphFiles => "dialogscript.resources.graph_io"
  | .events => "dialogscript.core.events"

/-- A log line as it is written: level, source and message. -/
def LogLine.text (line : LogLine) : String :=
  line.level.word ++ " " ++ line.source.path ++ ": " ++ line.message

end Dialogue
