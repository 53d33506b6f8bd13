import Dialogue.Compile.Log
import Dialogue.Config.Fields
import Dialogue.Graph.Record

/-!
# Events on a bus

An event has a name and data under further names. The events of a compile can be
published, and anyone can publish events of these names with data of their own. The
event that opens a compile carries the settings in force themselves: to assign one of
their fields on the event is to assign it in the compile.
-/

namespace Dialogue

/-- The names of events. -/
inductive EventName where
  | compileStarted
  | nodeClosed
  | choicesAttached
  | entryDropped
  | compileFinished
  deriving DecidableEq, Repr

/-- The name of an event in data. -/
def EventName.text : EventName → String
  | .compileStarted => "COMPILE_STARTED"
  | .nodeClosed => "NODE_CLOSED"
  | .choicesAttached => "CHOICES_ATTACHED"
  | .entryDropped => "ENTRY_DROPPED"
  | .compileFinished => "COMPILE_FINISHED"

/-- An event on its way through its subscribers. -/
structure Event where
  name : EventName
  /-- The settings of the compile that begins with the event. -/
  config : Option Config
  /-- The rest of the data. -/
  fields : List (String × Json)
  /-- Whether a handler has asked that no further ones are called. -/
  consumed : Bool

namespace Event

/-- An event with data of its own. -/
def custom (name : EventName) (fields : List (String × Json)) : Event :=
  ⟨name, none, fields, false⟩

/-- An event of a compile. -/
def ofCompile : CompileEvent → Event
  | .started config => ⟨.compileStarted, some config, [], false⟩
  | .nodeClosed node index =>
    ⟨.nodeClosed, none, [("node", node.toJson), ("index", .int index)], false⟩
  | .choicesAttached node choices =>
    ⟨.choicesAttached, none,
      [("node", node.toJson), ("choices", .arr (choices.map Choice.toJson))], false⟩
  | .entryDropped kind detail line =>
    ⟨.entryDropped, none,
      [("kind", .str kind.name), ("detail", .str detail), ("line", .int line)], false⟩
  | .finished graph dropped =>
    ⟨.compileFinished, none,
      [("graph", graph.toJson), ("dropped", dropped.toJson)], false⟩

/-- All data of an event as it is at the moment. -/
def data (event : Event) : List (String × Json) :=
  (event.config.toList.map fun config => ("config", config.toJson)) ++ event.fields

/-- The data under a name. -/
def get? (event : Event) (key : String) : Option Json :=
  Json.lookup? key event.data

/-- The event after a handler has asked that no further ones are called. -/
def consume (event : Event) : Event :=
  { event with consumed := true }

/-- The event with a field of its settings assigned, if it carries settings and the value is
usable. Assigning an inner name, which is left out, counts as refused. -/
def assign? (event : Event) (field : String) (value : Json) : Option Event :=
  match event.config with
  | none => none
  | some config =>
    match config.assign field value with
    | .ok config => some { event with config := some config }
    | .error _ => none

end Event

end Dialogue
