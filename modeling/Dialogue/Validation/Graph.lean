import Dialogue.Validation.Value

/-!
# Checking graphs

The parts of a graph as data, each under the names of its own fields: these are the names
that the program uses for them, which differ from the names in stored graphs. The parts
of a graph cannot be changed once they are made.
-/

namespace Dialogue

open Validator

namespace Command

/-- The command that data stands for. -/
def validate (value : Json) : Checked Command :=
  match value with
  | .obj members =>
    only ["name", "parameter"] members <|
      Checked.and ((required value members "name" Validator.text).map Command.mk)
        (optional members "parameter" nullableText none)
  | _ => refuse (.notModel "Command") value

/-- A command as data. -/
def toData (command : Command) : Json :=
  .obj [("name", .str command.name), ("parameter", .ofText? command.parameter)]

end Command

namespace Choice

/-- The choice that data stands for. -/
def validate (value : Json) : Checked Choice :=
  match value with
  | .obj members =>
    only ["text", "target_tag"] members <|
      Checked.and ((required value members "text" Validator.text).map Choice.mk)
        (optional members "target_tag" nullableText none)
  | _ => refuse (.notModel "Choice") value

/-- A choice as data. -/
def toData (choice : Choice) : Json :=
  .obj [("text", .str choice.text), ("target_tag", .ofText? choice.target)]

end Choice

namespace Node

/-- The node with a usable tag and the given contents. -/
def ofTag (tag : { text : String // text ≠ "" }) (speaker : Option String) (text : String)
    (commands : List Command) (choices : List Choice) : Node :=
  match tag with
  | ⟨tag, tag_ne_empty⟩ => ⟨tag, speaker, text, commands, choices, tag_ne_empty⟩

/-- The node that data stands for. -/
def validate (value : Json) : Checked Node :=
  match value with
  | .obj members =>
    only ["tag", "character_id", "text", "commands", "choices"] members <|
      Checked.and
        (Checked.and
          (Checked.and
            (Checked.and ((required value members "tag" nonEmptyText).map ofTag)
              (optional members "character_id" nullableText none))
            (optional members "text" Validator.text ""))
          (optional members "commands" (listOf Command.validate) []))
        (optional members "choices" (listOf Choice.validate) [])
  | _ => refuse (.notModel "DialogueNode") value

/-- A node as data. -/
def toData (node : Node) : Json :=
  .obj
    [("tag", .str node.tag),
      ("character_id", .ofText? node.speaker),
      ("text", .str node.text),
      ("commands", .arr (node.commands.map Command.toData)),
      ("choices", .arr (node.choices.map Choice.toData))]

end Node

namespace Graph

/-- The graph that data stands for. -/
def validate (value : Json) : Checked Graph :=
  match value with
  | .obj members =>
    only ["nodes"] members ((optional members "nodes" (listOf Node.validate) []).map Graph.mk)
  | _ => refuse (.notModel "DialogueGraph") value

/-- A graph as data. -/
def toData (graph : Graph) : Json :=
  .obj [("nodes", .arr (graph.nodes.map Node.toData))]

end Graph

/-- The report about a node whose tag is empty. -/
def emptyTagReport : Report :=
  ⟨"DialogueNode", [⟨[.name "tag"], .emptyText, .str ""⟩]⟩

/-- Assign to a name of a part of a graph. Only a private name can be assigned: nothing about a
graph can be changed. Nothing is meant by the answer for an inner name. -/
def assignFrozen (name : String) (value : Json) : Checked Unit :=
  if isPrivateName name then .ok () else .error [⟨[.name name], .frozen, value⟩]

end Dialogue
