import Dialogue.Text.Printable

/-!
# Quoted texts

Messages show a text between quotation marks so that blanks, line breaks and
invisible characters in it can be seen. Single quotation marks are used unless the
text holds one of those and no double one; then no escaping of quotation marks is
needed in either case but one: a text that holds both kinds.
-/

namespace Dialogue.Text

/-- The digit with the given value below sixteen, in lower case. -/
def hexDigit (value : Nat) : Char :=
  if value < 10 then Char.ofNat (0x30 + value) else Char.ofNat (0x57 + value)

/-- The last `width` hexadecimal digits of a number, most significant first. -/
def hexDigits : (width : Nat) → (value : Nat) → List Char
  | 0, _ => []
  | width + 1, value => hexDigits width (value / 16) ++ [hexDigit (value % 16)]

@[simp] theorem length_hexDigits (width value : Nat) :
    (hexDigits width value).length = width := by
  induction width generalizing value with
  | zero => rfl
  | succ width ih => simp [hexDigits, ih]

/-- The quotation mark that a text is shown between. -/
def quoteMark (text : List Char) : Char :=
  if text.contains '\x27' && !text.contains '\x22' then '\x22' else '\x27'

/-- One character between quotation marks `mark`: the mark itself and the backslash are
escaped, line breaks and tabs have short escapes, and other unprintable characters are
written by code point with two, four or eight digits. -/
def quoteChar (mark c : Char) : List Char :=
  if c = mark || c = '\x5c' then ['\x5c', c]
  else if c = '\n' then ['\x5c', 'n']
  else if c = '\r' then ['\x5c', 'r']
  else if c = '\t' then ['\x5c', 't']
  else if isPrintable c then [c]
  else if c.toNat < 0x100 then ['\x5c', 'x'] ++ hexDigits 2 c.toNat
  else if c.toNat < 0x10000 then ['\x5c', 'u'] ++ hexDigits 4 c.toNat
  else ['\x5c', 'U'] ++ hexDigits 8 c.toNat

/-- A text between quotation marks, as messages show it. -/
def quote (text : String) : String :=
  let mark := quoteMark text.toList
  String.ofList (mark :: text.toList.flatMap (quoteChar mark) ++ [mark])

end Dialogue.Text
