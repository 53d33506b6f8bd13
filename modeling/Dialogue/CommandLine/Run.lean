import Dialogue.CommandLine.Options
import Dialogue.Config.Fields
import Dialogue.Disk.Graphs
import Dialogue.Text.Lines

/-!
# The program

Given a disk and the arguments, the program compiles one script, stores its graph and
tells what it did. Its exit status says whether all went well, whether choices lead
nowhere, or whether it failed. A failure that it does not expect ends it without a
status. Arguments are texts, as names are.
-/

namespace Dialogue.CommandLine

/-- How the program ends. -/
inductive Ending where
  /-- With a status, lines of messages, and text on the standard output or not. -/
  | exited (status : Nat) (messages : List String) (printed : Bool)
  /-- By a failure that it does not expect. -/
  | crashed (failure : Failure)

/-- The status when all went well. -/
def statusOk : Nat := 0

/-- The status when choices lead nowhere. -/
def statusDangling : Nat := 1

/-- The status of a failure. -/
def statusError : Nat := 2

/-- Whether the program expects a failure and reports it. -/
def isExpected : Failure → Bool
  | .access _ error => error ≠ .hasNul
  | .json error => error.verdict = .malformed
  | .settings _ => true
  | .format _ => true
  | .compile .emptyTag => true
  | _ => false

/-- A text that is not empty. -/
def given : Option String → Option String
  | some text => if text = "" then none else some text
  | none => none

/-- The settings in a file, with what the arguments say on top of them. -/
def loadConfig (disk : Disk) (options : Options) : Except Failure Config := do
  let data ← match given options.config with
    | none => .ok (.obj [])
    | some text => disk.readJson (.ofText text)
  match Config.ofJson data with
  | .error report => .error (.settings report)
  | .ok config => return if options.noFlush then { config with flushAtEnd := false } else config

/-- A log line about something that the program itself did. -/
def programLine (level : LogLevel) (message : String) : LogLine :=
  ⟨level, .program, message⟩

/-- The log line about a choice that leads nowhere. -/
def danglingLine (entry : String × Option String) : LogLine :=
  programLine .warning ("Node " ++ Text.quote entry.1 ++ ": choice target " ++
    (Json.ofText? entry.2).display ++ " names no node")

/-- Where the graph is to be stored. -/
def outputPath (options : Options) (input : Path) : Except Failure Path :=
  match given options.output with
  | some text => .ok (.ofText text)
  | none => Disk.defaultOutput input

/-- Compile a script and store its graph: the log of the compile, the disk after that, and the path
of the graph and the graph, or what went wrong. -/
def build (disk : Disk) (options : Options) (input : Path) :
    List LogLine × Disk × Except Failure (Path × Graph) :=
  match loadConfig disk options with
  | .error failure => ([], disk, .error failure)
  | .ok config =>
    match outputPath options input with
    | .error failure => ([], disk, .error failure)
    | .ok output =>
      match Disk.compileScript .logger [] disk config input with
      | (log, .error failure) => (log, disk, .error failure)
      | (log, .ok graph) =>
        let (changed, saved) := disk.saveGraph graph output (some input.stem)
        (log, changed, saved.map fun _ => (output, graph))

/-- The lines of a message. -/
def messageLines (message : String) : List String :=
  (Text.splitLines message.toList).map String.ofList

/-- The lines in which log lines are shown. Lines of the lowest level are shown on demand
only. -/
def logLines (options : Options) (log : List LogLine) : List String :=
  (log.filter fun line => options.verbose || line.level ≠ .debug).flatMap fun line =>
    messageLines line.text

/-- Compile the script that the arguments name. -/
def runOptions (disk : Disk) (options : Options) (input : String) : Disk × Ending :=
  let path := Path.ofText input
  match build disk options path with
  | (log, changed, .error failure) =>
    if isExpected failure then
      let line := programLine .error ("Compilation failed: " ++ failure.message)
      (changed, .exited statusError (logLines options (log ++ [line])) false)
    else (changed, .crashed failure)
  | (log, changed, .ok (output, graph)) =>
    let dangling := if options.check then graph.dangling else []
    let log := log ++ [Disk.compiledLine .program path output graph] ++ dangling.map danglingLine
    let status := if dangling.isEmpty then statusOk else statusDangling
    (changed, .exited status (logLines options log) false)

/-- Run the program on a disk with the given arguments. -/
def run (disk : Disk) (arguments : List String) : Disk × Ending :=
  match parse arguments with
  | .error refusal =>
    let lines := messageLines ("dialogscript: error: " ++ refusal.message)
    (disk, .exited statusError lines.getLast?.toList false)
  | .ok .help => (disk, .exited statusOk [] true)
  | .ok (.run options input) => runOptions disk options input

end Dialogue.CommandLine
