import Dialogue.Json.Basic
import Dialogue.Number.Shortest
import Dialogue.Text.Quoted

/-!
# Writing JSON

Two layouts of the same text: `compact` puts a value on one line, `pretty` puts every
item and member on a line of its own, indented by two spaces for each level, and leaves
empty arrays and objects on one line. Characters are written as they are, except for
quotation marks, backslashes and control characters.
-/

namespace Dialogue.Json

/-- One character inside a string. -/
def escapeChar (c : Char) : List Char :=
  if c = '\x22' || c = '\x5c' then ['\x5c', c]
  else if c = '\n' then ['\x5c', 'n']
  else if c = '\r' then ['\x5c', 'r']
  else if c = '\t' then ['\x5c', 't']
  else if c = '\x08' then ['\x5c', 'b']
  else if c = '\x0c' then ['\x5c', 'f']
  else if c.toNat < 0x20 then ['\x5c', 'u'] ++ Text.hexDigits 4 c.toNat
  else [c]

/-- A string between quotation marks. -/
def writeText (text : String) : List Char :=
  '\x22' :: text.toList.flatMap escapeChar ++ ['\x22']

/-- A floating point number; the values that are no numbers have names. -/
def writeFloat : Number.Binary64 → List Char
  | .infinite negative => (Number.signed negative "Infinity").toList
  | .nan => "NaN".toList
  | value => value.text.toList

/-- How the parts of a value are laid out. -/
structure Layout where
  /-- What opens a line at the given depth. -/
  lineStart : Nat → List Char
  /-- What separates an item from the next, before the start of the next line. -/
  comma : List Char
  /-- What separates a name from its value. -/
  colon : List Char

/-- Everything on one line, without blanks. -/
def Layout.compact : Layout where
  lineStart _ := []
  comma := [',']
  colon := [':']

/-- One item to a line, indented by two spaces for each level. -/
def Layout.pretty : Layout where
  lineStart depth := '\n' :: List.replicate (2 * depth) ' '
  comma := [',']
  colon := [':', ' ']

mutual

/-- A value at the given depth. -/
def write (layout : Layout) (depth : Nat) : Json → List Char
  | .null => "null".toList
  | .bool true => "true".toList
  | .bool false => "false".toList
  | .int value => (toString value).toList
  | .float value => writeFloat value
  | .str text => writeText text
  | .arr [] => ['[', ']']
  | .arr (item :: items) =>
    '[' :: layout.lineStart (depth + 1) ++ item.write layout (depth + 1) ++
      writeItems layout (depth + 1) items ++ layout.lineStart depth ++ [']']
  | .obj [] => ['\x7b', '\x7d']
  | .obj ((name, value) :: members) =>
    '\x7b' :: layout.lineStart (depth + 1) ++ writeText name ++ layout.colon ++
      value.write layout (depth + 1) ++ writeMembers layout (depth + 1) members ++
      layout.lineStart depth ++ ['\x7d']

/-- Further items of an array. -/
def writeItems (layout : Layout) (depth : Nat) : List Json → List Char
  | [] => []
  | item :: items =>
    layout.comma ++ layout.lineStart depth ++ item.write layout depth ++
      writeItems layout depth items

/-- Further members of an object. -/
def writeMembers (layout : Layout) (depth : Nat) : List (String × Json) → List Char
  | [] => []
  | (name, value) :: members =>
    layout.comma ++ layout.lineStart depth ++ writeText name ++ layout.colon ++
      value.write layout depth ++ writeMembers layout depth members

end

/-- A value on one line. -/
def compact (value : Json) : String :=
  String.ofList (value.write .compact 0)

/-- A value with one item or member to a line. -/
def pretty (value : Json) : String :=
  String.ofList (value.write .pretty 0)

end Dialogue.Json
