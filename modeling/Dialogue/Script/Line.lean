import Dialogue.Text.Blank

/-!
# Script lines

Every line of a script that is not empty is of one of five kinds. The kind is read off
the raw line, indentation included; the indentation is taken away afterwards, once,
before the line is used.
-/

namespace Dialogue.Script

open Text

/-- What a line is, by its form alone. -/
inductive LineKind where
  /-- A speaker's label, which ends with a colon. -/
  | label
  /-- Text that none of the other rules applies to. -/
  | narration
  /-- A line that begins with the sign of a command. -/
  | command
  /-- A line that is indented as far as the lines of a choice block are. -/
  | indented
  /-- A line between square brackets. -/
  | tag
  deriving DecidableEq, Repr

/-- A line with nothing to see on it. -/
def isBlankLine (line : List Char) : Bool :=
  line.all isBlank

@[simp] theorem isBlankLine_eq_true {line : List Char} :
    isBlankLine line = true ↔ ∀ c ∈ line, isBlank c = true := by
  simp [isBlankLine]

/-- Whether a line is indented as far as a choice block. A leading tab always is far enough,
and so is a line of blanks alone; otherwise the blanks in front are counted. -/
def isIndented (threshold : Int) (line : List Char) : Bool :=
  match line with
  | [] => false
  | '\t' :: _ => true
  | line => isBlankLine line || threshold ≤ (line.takeWhile isBlank).length

/-- A line between square brackets. -/
def isBracketed (line : List Char) : Bool :=
  1 < line.length && line.head? = some '[' && line.getLast? = some ']'

/-- The kind of a raw line; the first rule that fits decides. -/
def lineKind (threshold : Int) (line : List Char) : LineKind :=
  if isIndented threshold line then .indented
  else if isBracketed line then .tag
  else if line.head? = some '@' then .command
  else if line.getLast? = some ':' then .label
  else .narration

/-- The line without its indentation: without one tab if it begins with a tab, otherwise
without all blanks in front. -/
def dedent : List Char → List Char
  | '\t' :: rest => rest
  | line => trimStart line

@[simp] theorem dedent_tab (rest : List Char) : dedent ('\t' :: rest) = rest := rfl

end Dialogue.Script
