import Dialogue.Json.Basic
import Dialogue.Number.Shortest
import Dialogue.Text.Quoted

/-!
# Values in messages

Messages about unexpected data show the data itself, on one line, with texts quoted.
They also name the type of a value by a word.
-/

namespace Dialogue.Json

mutual

/-- A value as messages show it. -/
def display : Json → String
  | .null => "None"
  | .bool true => "True"
  | .bool false => "False"
  | .int value => toString value
  | .float value => value.text
  | .str text => Text.quote text
  | .arr items => "[" ++ displayItems items ++ "]"
  | .obj members => "\x7b" ++ displayMembers members ++ "\x7d"

/-- Items separated by commas. -/
def displayItems : List Json → String
  | [] => ""
  | [item] => item.display
  | item :: next :: rest => item.display ++ ", " ++ displayItems (next :: rest)

/-- Members separated by commas, each with its quoted name. -/
def displayMembers : List (String × Json) → String
  | [] => ""
  | [(name, value)] => Text.quote name ++ ": " ++ value.display
  | (name, value) :: next :: rest =>
    Text.quote name ++ ": " ++ value.display ++ ", " ++ displayMembers (next :: rest)

end

/-- The word for the type of a value. -/
def typeWord : Json → String
  | .null => "NoneType"
  | .bool _ => "bool"
  | .int _ => "int"
  | .float _ => "float"
  | .str _ => "str"
  | .arr _ => "list"
  | .obj _ => "dict"

end Dialogue.Json
