import Dialogue.Compile.Basic
import Dialogue.Json.Display
import Dialogue.Log

/-!
# The log of a compile

Every notice of a compile but the first has a line in the log. All of them are of use
only to someone who looks for the reason of a result, so they have the lowest level.
-/

namespace Dialogue

/-- The name of a phase in log lines. -/
def Phase.name : Phase → String
  | .idle => "IDLE"
  | .dialogue => "DIALOGUE"
  | .choice => "CHOICE"

/-- The name of a kind of entry in data. -/
def DropKind.name : DropKind → String
  | .command => "COMMAND"
  | .choice => "CHOICE"
  | .node => "NODE"

/-- The name of a kind of entry within a sentence. -/
def DropKind.word : DropKind → String
  | .command => "command"
  | .choice => "choice"
  | .node => "node"

/-- The counts of a tally under the names of the kinds. -/
def Tally.toJson (tally : Tally) : Json :=
  .obj (tally.entries.map fun entry => (entry.1.name, .int entry.2))

namespace Notice

open Text

/-- What the log says about an event. -/
def eventMessage? (line : Nat) : CompileEvent → Option String
  | .started _ => none
  | .nodeClosed node _ =>
    some ("Line " ++ toString line ++ ": closed node " ++ quote node.tag ++ " (" ++
      node.speaker.getD "None" ++ ")")
  | .choicesAttached node choices =>
    some ("Line " ++ toString line ++ ": attached " ++ toString choices.length ++
      " choices to " ++ quote node.tag)
  | .entryDropped kind detail _ =>
    some ("Line " ++ toString line ++ ": " ++ kind.word ++ " " ++ quote detail ++
      " dropped, capacity reached")
  | .finished graph dropped =>
    let counts := if dropped.entries.isEmpty then "none" else dropped.toJson.display
    some ("Compiled " ++ toString line ++ " lines into " ++ toString graph.nodes.length ++
      " nodes (dropped: " ++ counts ++ ")")

/-- What the log says about a notice. -/
def message? (notice : Notice) : Option String :=
  match notice.news with
  | .event event => eventMessage? notice.line event
  | .malformedTag text =>
    some ("Line " ++ toString notice.line ++ ": malformed tag " ++ quote text ++ " ignored")
  | .choicesOrphaned count =>
    some ("Line " ++ toString notice.line ++ ": " ++ toString count ++
      " choices with no node to attach to")
  | .discarded phase =>
    some ("Input ended in state " ++ phase.name ++ ", open block discarded")
  | _ => none

/-- The log line of a notice. -/
def logLine? (notice : Notice) : Option LogLine :=
  notice.message?.map fun message => ⟨.debug, .compiler, message⟩

end Notice

/-- An observer that writes the log. -/
def Observer.logger : Observer (List LogLine) where
  notify notice config lines := (config, lines ++ notice.logLine?.toList)

end Dialogue
