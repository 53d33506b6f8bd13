import Dialogue.Graph.Basic
import Dialogue.Text.Blank

/-!
# What a line says

Once the kind of a line is known, its content is taken out of it: the name and the
parameter of a command, the name of a speaker, the tag between brackets.
-/

namespace Dialogue.Script

open Text

/-- The command that a line gives. The first character introduces it. If the line holds no
space, all the rest is the name; otherwise the name ends at the first blank, and what
follows the blanks is the parameter. A line with a space before its name only has no end
of a name, and gives no command. -/
def command? (line : List Char) : Option Command :=
  let body := line.drop 1
  if line.contains ' ' then
    match body.dropWhile (!isBlank ·) with
    | [] => none
    | rest =>
      some ⟨String.ofList (body.takeWhile (!isBlank ·)), some (String.ofList (trimStart rest))⟩
  else some ⟨String.ofList body, none⟩

/-- The part of a text after the last occurrence of a character, all of it if there is
none. -/
def afterLast (mark : Char) (text : List Char) : List Char :=
  (text.reverse.takeWhile (· != mark)).reverse

/-- The name of the speaker in a label: what stands before the last colon, the whole line if
there is no colon. -/
def speakerName (line : List Char) : List Char :=
  match line.reverse.dropWhile (· != ':') with
  | [] => line
  | _ :: before => before.reverse

/-- The content of a tag line: it ends at the first closing bracket and begins after the last
opening bracket before that. A line without a closing bracket is its own content, and a line
of fewer than three characters has none. -/
def tagContent? (line : List Char) : Option (List Char) :=
  if line.length < 3 then none
  else if line.contains ']' then some (afterLast '[' (line.takeWhile (· != ']')))
  else some line

end Dialogue.Script
