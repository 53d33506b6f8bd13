/-!
# Blank characters

Scripts are cut into words and indented by blank characters, and blankness is a
property of code points, not of bytes. The table below lists them; everything in
the library that asks whether a line is empty, how deep it is indented or where a
word ends goes through `isBlank`.
-/

namespace Dialogue.Text

/-- Whether a code point lies in one of the ranges of a table, both ends included. -/
def inRanges (table : List (Nat × Nat)) (code : Nat) : Bool :=
  table.any fun range => range.1 ≤ code && code ≤ range.2

/-- The code points with the Unicode property `White_Space`. -/
def whiteSpaceRanges : List (Nat × Nat) :=
  [(0x09, 0x0D), (0x20, 0x20), (0x85, 0x85), (0xA0, 0xA0), (0x1680, 0x1680),
    (0x2000, 0x200A), (0x2028, 0x2029), (0x202F, 0x202F), (0x205F, 0x205F), (0x3000, 0x3000)]

/-- The four information separators, which separate words although they lack the
property `White_Space`. -/
def separatorRanges : List (Nat × Nat) :=
  [(0x1C, 0x1F)]

/-- White space in the sense of the Unicode property, used where numbers are read. -/
def isWhiteSpace (c : Char) : Bool :=
  inRanges whiteSpaceRanges c.toNat

/-- A character that separates words and indents lines. -/
def isBlank (c : Char) : Bool :=
  isWhiteSpace c || inRanges separatorRanges c.toNat

@[simp] theorem isBlank_tab : isBlank '\t' = true := by decide

@[simp] theorem isBlank_space : isBlank ' ' = true := by decide

@[simp] theorem isBlank_lineFeed : isBlank '\n' = true := by decide

@[simp] theorem isBlank_carriageReturn : isBlank '\r' = true := by decide

/-- A text without its leading blank characters. -/
def trimStart (text : List Char) : List Char :=
  text.dropWhile isBlank

@[simp] theorem trimStart_nil : trimStart [] = [] := rfl

/-- Trimming goes on behind a blank character. -/
@[simp] theorem trimStart_cons_of_blank {c : Char} {rest : List Char} (blank : isBlank c = true) :
    trimStart (c :: rest) = trimStart rest := by
  simp [trimStart, blank]

/-- Trimming stops in front of a character that is not blank. -/
@[simp] theorem trimStart_cons_of_not_blank {c : Char} {rest : List Char}
    (visible : isBlank c = false) : trimStart (c :: rest) = c :: rest := by
  simp [trimStart, visible]

/-- Only a text of blank characters is trimmed to nothing. -/
theorem trimStart_eq_nil_iff {text : List Char} :
    trimStart text = [] ↔ ∀ c ∈ text, isBlank c = true := by
  induction text with
  | nil => simp
  | cons c rest ih =>
    by_cases blank : isBlank c = true
    · simp [blank, ih]
    · simp [blank]

end Dialogue.Text
