import Dialogue.Graph.Basic
import Dialogue.Json.Basic

/-!
# Graphs as JSON

A stored graph has an identifier, the tag of its first node, and its nodes in order.
`Graph.toRecord` writes this form. `Graph.ofRecord?` reads it and is strict: it answers
only for values that have exactly the form, in which the entries that may be missing
have their defaults.
-/

namespace Dialogue

/-- The stored form of a command. -/
def Command.toJson (command : Command) : Json :=
  .obj [("name", .str command.name), ("parameter", .ofText? command.parameter)]

/-- The stored form of a choice. -/
def Choice.toJson (choice : Choice) : Json :=
  .obj [("text", .str choice.text), ("target", .ofText? choice.target)]

/-- The stored form of a node. -/
def Node.toJson (node : Node) : Json :=
  .obj
    [("tag", .str node.tag),
      ("character", .ofText? node.speaker),
      ("text", .str node.text),
      ("commands", .arr (node.commands.map Command.toJson)),
      ("choices", .arr (node.choices.map Choice.toJson))]

namespace Graph

/-- The nodes of a graph in their stored form. -/
def toJson (graph : Graph) : Json :=
  .arr (graph.nodes.map Node.toJson)

/-- The stored form of a graph under an identifier. -/
def toRecord (graph : Graph) (id : Option String) : Json :=
  .obj
    [("id", .ofText? id),
      ("start", .ofText? (graph.start?.map (·.tag))),
      ("nodes", graph.toJson)]

end Graph

namespace Json

/-- A text. -/
def text? : Json → Option String
  | .str text => some text
  | _ => none

/-- A text or null. -/
def nullableText? : Json → Option (Option String)
  | .null => some none
  | .str text => some (some text)
  | _ => none

/-- A member that may be missing, in which case it has a default value. -/
def optional? {α : Type} (name : String) (read? : Json → Option α) (default : α)
    (members : List (String × Json)) : Option α :=
  match lookup? name members with
  | none => some default
  | some value => read? value

/-- A member that must be there. -/
def required? {α : Type} (name : String) (read? : Json → Option α)
    (members : List (String × Json)) : Option α :=
  (lookup? name members).bind read?

/-- All items of an array. -/
def items? {α : Type} (read? : Json → Option α) : Json → Option (List α)
  | .arr items => items.mapM read?
  | _ => none

/-- Whether all members have one of the given names. -/
def hasOnly (names : List String) (members : List (String × Json)) : Bool :=
  members.all fun member => names.contains member.1

end Json

open Json

/-- The command that a value in the stored form stands for. -/
def Command.ofJson? : Json → Option Command
  | .obj members => do
    guard (hasOnly ["name", "parameter"] members)
    let name ← required? "name" text? members
    let parameter ← optional? "parameter" nullableText? none members
    return ⟨name, parameter⟩
  | _ => none

/-- The choice that a value in the stored form stands for. -/
def Choice.ofJson? : Json → Option Choice
  | .obj members => do
    guard (hasOnly ["text", "target"] members)
    let text ← required? "text" text? members
    let target ← optional? "target" nullableText? none members
    return ⟨text, target⟩
  | _ => none

/-- A node with the given contents, if its tag is usable. -/
def Node.make? (tag : String) (speaker : Option String) (text : String)
    (commands : List Command) (choices : List Choice) : Option Node :=
  if usable : tag ≠ "" then some ⟨tag, speaker, text, commands, choices, usable⟩ else none

/-- The node that a value in the stored form stands for. -/
def Node.ofJson? : Json → Option Node
  | .obj members => do
    guard (hasOnly ["tag", "character", "text", "commands", "choices"] members)
    let tag ← required? "tag" text? members
    let speaker ← optional? "character" nullableText? none members
    let text ← optional? "text" text? "" members
    let commands ← optional? "commands" (items? Command.ofJson?) [] members
    let choices ← optional? "choices" (items? Choice.ofJson?) [] members
    Node.make? tag speaker text commands choices
  | _ => none

/-- The graph that a value in the stored form stands for. The identifier and the tag of the
first node are only checked, and further members are passed over. -/
def Graph.ofRecord? : Json → Option Graph
  | .obj members => do
    let _ ← optional? "id" nullableText? none members
    let _ ← optional? "start" nullableText? none members
    let nodes ← required? "nodes" (items? Node.ofJson?) members
    return ⟨nodes⟩
  | _ => none

end Dialogue
