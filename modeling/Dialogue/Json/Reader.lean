import Dialogue.Json.Basic
import Dialogue.Number.Whole

/-!
# Reading JSON

`read` reads one value from a whole text and says where and why a text is not JSON. A
reading function answers with the rest of the text; a fault carries the rest at which it
was noticed, and the place is worked out from that once, at the end. The recursion on
nested values is bounded by a number that the length of the text determines: every step
takes at least one character of it. How deep arrays and objects may lie inside each other
hangs on where reading begins, and is given with the text.

Besides JSON proper the names `NaN`, `Infinity` and `-Infinity` are read as numbers. Of
two members with the same name the later value counts. The strings of a value are texts, and
no text holds half of a surrogate pair. JSON can name such a half by an escape. What stands
for it is given to the reading functions; with nothing, they stop there. A text is read with
something first, so that all that is wrong with it is found, and then with nothing: JSON that
names a half has a fault of its own, and nothing is said about its value.
-/

namespace Dialogue.Json

open Number

/-- The values that have others inside. -/
inductive Container where
  | array
  | object
  deriving DecidableEq, Repr

/-- Why a text is not JSON, or is none that can be read. -/
inductive Fault where
  | value
  | memberName
  | colon
  | comma
  | extraData
  | unterminatedString
  | controlCharacter
  | escape
  | unicodeEscape
  | byteOrderMark
  /-- A whole number with more digits than are converted. -/
  | numberTooLong (digits : Nat)
  /-- A container inside more others than are followed. -/
  | nestedTooDeep (container : Container)
  /-- An escape for one half of a surrogate pair, without the other. It may stand in JSON, but
  what it stands for is no part of a text. -/
  | loneSurrogate
  deriving DecidableEq, Repr

/-- The result of reading the beginning of a text: what was read and the rest, or a fault
and the rest at which it was noticed. -/
abbrev Reading (α : Type) := Except (Fault × List Char) (α × List Char)

/-- The blanks that may stand between the parts of a value. -/
def isLayout (c : Char) : Bool :=
  c = ' ' || c = '\t' || c = '\n' || c = '\r'

/-- A text without blanks in front. -/
def skipLayout (text : List Char) : List Char :=
  text.dropWhile isLayout

/-! ## Strings -/

/-- The value of a hexadecimal digit. -/
def hexValue? (c : Char) : Option Nat :=
  if '0' ≤ c && c ≤ '9' then some (c.toNat - 0x30)
  else if 'a' ≤ c && c ≤ 'f' then some (c.toNat - 0x57)
  else if 'A' ≤ c && c ≤ 'F' then some (c.toNat - 0x37)
  else none

/-- The number that four hexadecimal digits stand for. -/
def fourDigits? : List Char → Option Nat
  | [a, b, c, d] => do
    let a ← hexValue? a
    let b ← hexValue? b
    let c ← hexValue? c
    let d ← hexValue? d
    return ((a * 16 + b) * 16 + c) * 16 + d
  | _ => none

/-- The character that an escape of one letter stands for. -/
def shortEscape? (c : Char) : Option Char :=
  if c = '\x22' || c = '\x5c' || c = '/' then some c
  else if c = 'b' then some '\x08'
  else if c = 'f' then some '\x0c'
  else if c = 'n' then some '\n'
  else if c = 'r' then some '\r'
  else if c = 't' then some '\t'
  else none

/-- Whether a code is the first half of a pair that stands for one character. -/
def isHighSurrogate (code : Nat) : Bool :=
  0xD800 ≤ code && code ≤ 0xDBFF

/-- Whether a code is the second half of such a pair. -/
def isLowSurrogate (code : Nat) : Bool :=
  0xDC00 ≤ code && code ≤ 0xDFFF

/-- The second half of a pair, if the text goes on with an escape for one. The text must not
end right after that escape. -/
def secondHalf? : List Char → Except (Fault × List Char) (Option (Nat × List Char))
  | '\x5c' :: 'u' :: a :: b :: c :: d :: next :: rest =>
    match fourDigits? [a, b, c, d] with
    | none => .error (.unicodeEscape, 'u' :: a :: b :: c :: d :: next :: rest)
    | some code => .ok (if isLowSurrogate code then some (code, next :: rest) else none)
  | _ => .ok none

/-- Half of a surrogate pair by itself, named by an escape at the beginning of `text` and before
`after`. -/
def readHalf (half : Option Char) (text after : List Char) : Reading Char :=
  match half with
  | some c => .ok (c, after)
  | none => .error (.loneSurrogate, text)

/-- The character that an escape stands for. `text` begins with the backslash and `rest` is
what follows it; `opening` is the text at the quotation mark that began the string. -/
def readEscape (half : Option Char) (opening text rest : List Char) : Reading Char :=
  match rest with
  | [] => .error (.unterminatedString, opening)
  | 'u' :: digits =>
    match digits with
    | a :: b :: c :: d :: next :: after =>
      match fourDigits? [a, b, c, d] with
      | none => .error (.unicodeEscape, rest)
      | some code =>
        if isHighSurrogate code then
          match secondHalf? (next :: after) with
          | .error fault => .error fault
          | .ok none => readHalf half text (next :: after)
          | .ok (some (second, after)) =>
            .ok (Char.ofNat (0x10000 + (code - 0xD800) * 0x400 + (second - 0xDC00)), after)
        else if isLowSurrogate code then readHalf half text (next :: after)
        else .ok (Char.ofNat code, next :: after)
    | _ => .error (.unicodeEscape, rest)
  | c :: after =>
    match shortEscape? c with
    | some c => .ok (c, after)
    | none => .error (.escape, text)

theorem length_of_secondHalf? {text rest : List Char} {code : Nat}
    (second : secondHalf? text = .ok (some (code, rest))) : rest.length ≤ text.length := by
  unfold secondHalf? at second
  split at second
  · split at second
    · simp at second
    · simp only [Except.ok.injEq] at second
      split at second
      · simp only [Option.some.injEq, Prod.mk.injEq] at second
        simp only [← second.2, List.length_cons]
        omega
      · simp at second
  · simp at second

theorem eq_of_readHalf {half : Option Char} {text after rest : List Char} {c : Char}
    (found : readHalf half text after = .ok (c, rest)) : rest = after := by
  cases half with
  | none => cases found
  | some _ =>
    obtain ⟨-, rfl⟩ := Prod.mk.inj (Except.ok.inj found)
    rfl

theorem length_of_readEscape {half : Option Char} {opening text rest after : List Char} {c : Char}
    (escape : readEscape half opening text rest = .ok (c, after)) :
    after.length ≤ rest.length := by
  unfold readEscape at escape
  split at escape
  · simp at escape
  · split at escape
    · split at escape
      · simp at escape
      · split at escape
        · split at escape
          · simp at escape
          · simp only [eq_of_readHalf escape, List.length_cons]
            omega
          · rename_i second
            simp only [Except.ok.injEq, Prod.mk.injEq] at escape
            have := length_of_secondHalf? second
            simp only [← escape.2, List.length_cons] at this ⊢
            omega
        · split at escape
          · simp only [eq_of_readHalf escape, List.length_cons]
            omega
          · simp only [Except.ok.injEq, Prod.mk.injEq] at escape
            simp only [← escape.2, List.length_cons]
            omega
    · simp at escape
  · split at escape
    · simp only [Except.ok.injEq, Prod.mk.injEq] at escape
      simp only [← escape.2, List.length_cons]
      omega
    · simp at escape

/-- The characters of a string up to its closing quotation mark. -/
def readChars (half : Option Char) (opening : List Char) : List Char → Reading (List Char)
  | [] => .error (.unterminatedString, opening)
  | c :: rest =>
    if c = '\x22' then .ok ([], rest)
    else if c = '\x5c' then
      match _escape : readEscape half opening (c :: rest) rest with
      | .error fault => .error fault
      | .ok (c, after) =>
        match readChars half opening after with
        | .error fault => .error fault
        | .ok (chars, rest) => .ok (c :: chars, rest)
    else if c.toNat < 0x20 then .error (.controlCharacter, c :: rest)
    else
      match readChars half opening rest with
      | .error fault => .error fault
      | .ok (chars, rest) => .ok (c :: chars, rest)
termination_by text => text.length
decreasing_by
  · have := length_of_readEscape _escape
    simp only [List.length_cons]
    omega
  · simp only [List.length_cons]
    omega

/-! ## Numbers -/

/-- The digits after a point, if the text begins with a point and a digit. -/
def readFraction : List Char → Option (List Char × List Char)
  | '.' :: rest =>
    let digits := rest.takeWhile Char.isDigit
    if digits.isEmpty then none else some (digits, rest.dropWhile Char.isDigit)
  | _ => none

/-- The exponent of a number, if the text begins with a complete one. -/
def readExponent : List Char → Option (Int × List Char)
  | c :: rest =>
    if c = 'e' || c = 'E' then
      let (negative, rest) :=
        match rest with
        | '-' :: rest => (true, rest)
        | '+' :: rest => (false, rest)
        | rest => (false, rest)
      let digits := rest.takeWhile Char.isDigit
      if digits.isEmpty then none
      else
        let power : Int := digitsValue digits
        some (if negative then -power else power, rest.dropWhile Char.isDigit)
    else none
  | [] => none

/-- A number with its whole part read: it is an integer unless a fraction or an exponent
follows. -/
def finishNumber (negative : Bool) (whole rest : List Char) : Reading Json :=
  let fraction := readFraction rest
  let (places, rest) := fraction.getD ([], rest)
  match readExponent rest with
  | some (power, rest) =>
    .ok (.float (.ofDecimal negative (digitsValue (whole ++ places)) (power - places.length)),
      rest)
  | none =>
    if fraction.isSome then
      .ok (.float (.ofDecimal negative (digitsValue (whole ++ places)) (-places.length)), rest)
    else if maxDigits < whole.length then .error (.numberTooLong whole.length, rest)
    else
      let magnitude : Int := digitsValue whole
      .ok (.int (if negative then -magnitude else magnitude), rest)

/-- A number: an optional minus sign, a whole part without leading zeros, and an optional
fraction and exponent. -/
def readNumber (text : List Char) : Reading Json :=
  let (negative, rest) :=
    match text with
    | '-' :: rest => (true, rest)
    | _ => (false, text)
  match rest with
  | '0' :: after => finishNumber negative ['0'] after
  | c :: _ =>
    if c.isDigit then
      finishNumber negative (rest.takeWhile Char.isDigit) (rest.dropWhile Char.isDigit)
    else .error (.value, text)
  | [] => .error (.value, text)

/-- The values that are written as a name. -/
def names : List (List Char × Json) :=
  [("null".toList, .null), ("true".toList, .bool true), ("false".toList, .bool false),
    ("NaN".toList, .float .nan), ("Infinity".toList, .float (.infinite false)),
    ("-Infinity".toList, .float (.infinite true))]

/-- A value that is written as a name, or a number. -/
def readSimple (text : List Char) : Reading Json :=
  match names.find? fun entry => entry.1.isPrefixOf text with
  | some (name, value) => .ok (value, text.drop name.length)
  | none => readNumber text

/-! ## Values -/

mutual

/-- A value at the beginning of a text, with room for so many containers inside each other. -/
def readValue (half : Option Char) : (bound room : Nat) → (text : List Char) → Reading Json
  | 0, _, text => .error (.value, text)
  | bound + 1, room, text =>
    match text, room with
    | '\x22' :: rest, _ =>
      match readChars half text rest with
      | .error fault => .error fault
      | .ok (chars, rest) => .ok (.str (String.ofList chars), rest)
    | '\x7b' :: _, 0 => .error (.nestedTooDeep .object, text)
    | '\x7b' :: rest, room + 1 =>
      match skipLayout rest with
      | '\x7d' :: rest => .ok (.obj [], rest)
      | rest => readMembers half bound room [] rest
    | '[' :: _, 0 => .error (.nestedTooDeep .array, text)
    | '[' :: rest, room + 1 =>
      match skipLayout rest with
      | ']' :: rest => .ok (.arr [], rest)
      | rest => readItems half bound room [] rest
    | text, _ => readSimple text

/-- The items of an array from the next one on, with those before it. -/
def readItems (half : Option Char) :
    (bound room : Nat) → (before : List Json) → (text : List Char) → Reading Json
  | 0, _, _, text => .error (.value, text)
  | bound + 1, room, before, text =>
    match readValue half bound room text with
    | .error fault => .error fault
    | .ok (item, rest) =>
      match skipLayout rest with
      | ']' :: rest => .ok (.arr (before ++ [item]), rest)
      | ',' :: rest => readItems half bound room (before ++ [item]) (skipLayout rest)
      | rest => .error (.comma, rest)

/-- The members of an object from the next one on, with those before it. -/
def readMembers (half : Option Char) :
    (bound room : Nat) → (before : List (String × Json)) → (text : List Char) → Reading Json
  | 0, _, _, text => .error (.memberName, text)
  | bound + 1, room, before, text =>
    match text with
    | '\x22' :: rest =>
      match readChars half text rest with
      | .error fault => .error fault
      | .ok (name, rest) =>
        match skipLayout rest with
        | ':' :: rest =>
          match readValue half bound room (skipLayout rest) with
          | .error fault => .error fault
          | .ok (value, rest) =>
            let members := addMember before (String.ofList name) value
            match skipLayout rest with
            | '\x7d' :: rest => .ok (.obj members, rest)
            | ',' :: rest => readMembers half bound room members (skipLayout rest)
            | rest => .error (.comma, rest)
        | rest => .error (.colon, rest)
    | text => .error (.memberName, text)

end

/-! ## Whole texts -/

/-- A fault at the place where it was noticed, counted in characters. -/
structure Error where
  fault : Fault
  offset : Nat
  line : Nat
  column : Nat
  deriving DecidableEq, Repr

/-- A fault that was noticed before the given rest of a text. Lines and columns are counted
from one, the offset from zero. -/
def Error.before (fault : Fault) (text rest : List Char) : Error :=
  let offset := text.length - rest.length
  let passed := text.take offset
  { fault, offset,
    line := passed.count '\n' + 1,
    column := (passed.reverse.takeWhile (· != '\n')).length + 1 }

/-- The one value that a text holds, with room for so many containers inside each other. -/
def readWith (half : Option Char) (room : Nat) (text : List Char) : Except Error Json :=
  if text.head? = some '\uFEFF' then .error (.before .byteOrderMark text text)
  else
    match readValue half (2 * text.length + 2) room (skipLayout text) with
    | .error (fault, rest) => .error (.before fault text rest)
    | .ok (value, rest) =>
      match skipLayout rest with
      | [] => .ok value
      | rest => .error (.before .extraData text rest)

/-- Read the one value that a text holds, with room for so many containers inside each other. What
stands for half of a surrogate pair is of no account: it only serves to find other faults. -/
def read (room : Nat) (text : List Char) : Except Error Json :=
  match readWith (some '\uFFFD') room text with
  | .error error => .error error
  | .ok _ => readWith none room text

/-- The reason as messages give it. -/
def Fault.message : Fault → String
  | .value => "Expecting value"
  | .memberName => "Expecting property name enclosed in double quotes"
  | .colon => "Expecting \x27:\x27 delimiter"
  | .comma => "Expecting \x27,\x27 delimiter"
  | .extraData => "Extra data"
  | .unterminatedString => "Unterminated string starting at"
  | .controlCharacter => "Invalid control character at"
  | .escape => "Invalid \\escape"
  | .unicodeEscape => "Invalid \\uXXXX escape"
  | .byteOrderMark => "Unexpected UTF-8 BOM (decode using utf-8-sig)"
  | .numberTooLong digits =>
    "Exceeds the limit (" ++ toString maxDigits ++
      " digits) for integer string conversion: value has " ++ toString digits ++
      " digits; use sys.set_int_max_str_digits() to increase the limit"
  | .nestedTooDeep .array =>
    "maximum recursion depth exceeded while decoding a JSON array from a unicode string"
  | .nestedTooDeep .object =>
    "maximum recursion depth exceeded while decoding a JSON object from a unicode string"
  | .loneSurrogate => "Lone surrogate"

/-- What a fault says about its text. -/
inductive Verdict where
  /-- The text is not JSON. -/
  | malformed
  /-- The text goes beyond what is converted or followed; it may be JSON. -/
  | beyond
  /-- The text names what is no text; it may be JSON. -/
  | unmodelled
  deriving DecidableEq, Repr

/-- What a fault says about its text. -/
def Error.verdict (error : Error) : Verdict :=
  match error.fault with
  | .numberTooLong _ => .beyond
  | .nestedTooDeep _ => .beyond
  | .loneSurrogate => .unmodelled
  | _ => .malformed

/-- A fault as messages give it, with its place if the text is not JSON. -/
def Error.message (error : Error) : String :=
  if error.verdict = .malformed then
    error.fault.message ++ ": line " ++ toString error.line ++ " column " ++
      toString error.column ++ " (char " ++ toString error.offset ++ ")"
  else error.fault.message

end Dialogue.Json
