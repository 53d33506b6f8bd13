import Dialogue.Text.Blank

/-!
# Whole numbers as texts

A whole number may be as large as it likes, but some of what is done with one needs it to
fit into a word of a machine.

In its plain form a whole number is written with decimal digits, without zeros in front and
with a minus sign or without. `readWhole` reads that as it stands, and also takes freer
forms, which it brings into the plain form first: white space around the number, a plus
sign, zeros in front, a fraction of zeros, and low lines between the digits. A number may
not have more than `maxDigits` digits.
-/

namespace Dialogue.Number

/-! ## Words -/

/-- The numbers of a signed word of 64 bits lie between this number and its negative. -/
def wordBound : Int := Int.pow 2 63

/-- Whether a number fits into a signed word of 64 bits. -/
def fitsWord (number : Int) : Bool :=
  -wordBound ≤ number && number < wordBound

@[simp] theorem fitsWord_eq_true {number : Int} :
    fitsWord number = true ↔ -wordBound ≤ number ∧ number < wordBound := by
  simp [fitsWord]

/-! ## The plain form -/

/-- The number that decimal digits stand for. -/
def digitsValue (digits : List Char) : Nat :=
  digits.foldl (fun value c => value * 10 + (c.toNat - 0x30)) 0

/-- The largest number of digits of a whole number that is converted. -/
def maxDigits : Nat := 4300

/-- Whether a text has digits only, and neither too many nor zeros in front of others. -/
def isPlain (text : List Char) : Bool :=
  text.all Char.isDigit && (text.head? ≠ some '0' || text = ['0']) && !text.isEmpty &&
    text.length ≤ maxDigits

/-- The number that a text in plain form stands for. -/
def plain? : List Char → Option Int
  | '-' :: digits => if isPlain digits then some (-digitsValue digits) else none
  | digits => if isPlain digits then some (digitsValue digits) else none

/-! ## Freer forms -/

/-- What counts of a number behind a zero or a low line. More of them are skipped up to a digit
or a minus sign, but the last of them counts if a point or nothing is behind it. -/
def behindZero (last : Char) : List Char → Option (List Char)
  | [] => some [last]
  | c :: rest =>
    if c = '0' || c = '_' then behindZero c rest
    else if c.isDigit || c = '-' then some (c :: rest)
    else if c = '.' then some (last :: c :: rest)
    else none

/-- A number without the zeros in front of it; it must begin with a digit. -/
def dropZeros? : List Char → Option (List Char)
  | [] => none
  | c :: rest =>
    if c = '0' then behindZero c rest else if c.isDigit then some (c :: rest) else none

/-- A number without its fraction, if that is of zeros and has at least one. -/
def dropFraction (text : List Char) : List Char :=
  match text.dropWhile (· != '.') with
  | _ :: zeros =>
    if !zeros.isEmpty && zeros.all (· = '0') then text.takeWhile (· != '.') else text
  | [] => text

/-- A number without its low lines, each of which must stand between two other characters: none
may be at the end or where `fenced` says that the character in front is missing. -/
def dropLowLines? : (fenced : Bool) → List Char → Option (List Char)
  | fenced, [] => if fenced then none else some []
  | fenced, c :: rest =>
    if c = '_' then if fenced then none else dropLowLines? true rest
    else (dropLowLines? false rest).map (c :: ·)

/-- A text without the white space around it. -/
def trimWhiteSpace (text : List Char) : List Char :=
  let text := text.dropWhile Text.isWhiteSpace
  (text.reverse.dropWhile Text.isWhiteSpace).reverse

/-- The plain form of a number, in front of which there may be one sign. -/
def plainForm? (text : List Char) : Option (List Char) :=
  let unsigned? (number : List Char) : Option (List Char) :=
    (dropZeros? number).bind fun digits => dropLowLines? true (dropFraction digits)
  match trimWhiteSpace text with
  | '-' :: number => (unsigned? number).map ('-' :: ·)
  | '+' :: number => unsigned? number
  | number => unsigned? number

/-! ## Reading -/

/-- Why a text is not read as a whole number. -/
inductive WholeFault where
  | unreadable
  | tooLong
  deriving DecidableEq, Repr

/-- The digits that a text begins with, behind a minus sign or not. -/
def leadingDigits : List Char → List Char
  | '-' :: rest => rest.takeWhile Char.isDigit
  | text => text.takeWhile Char.isDigit

/-- Whether a text begins like a number in plain form, but with too many digits. -/
def isTooLong (text : List Char) : Bool :=
  let digits := leadingDigits text
  digits.head? ≠ some '0' && maxDigits < digits.length

/-- The whole number that a text stands for. -/
def readWhole (text : List Char) : Except WholeFault Int :=
  if isTooLong text then .error .tooLong
  else
    match (plainForm? text).bind plain? with
    | some number => .ok number
    | none => .error .unreadable

end Dialogue.Number
