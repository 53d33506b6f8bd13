import Dialogue.Text.Quoted

/-!
# Texts as bytes

Files hold bytes and the library works on characters. `encode` writes a text in
UTF-8; `decode` reads one and says exactly where and why bytes are not UTF-8. A
multi-byte character that breaks off names all the bytes that belonged to it.
-/

namespace Dialogue.Text.Utf8

/-- The bytes of a file. -/
abbrev Bytes := List UInt8

/-- Why bytes are no UTF-8. -/
inductive Cause where
  | startByte
  | continuationByte
  | endOfData
  deriving DecidableEq, Repr

/-- Bytes that cannot be read: where they begin, the first of them, how many they are,
and why. -/
structure Fault where
  offset : Nat
  first : UInt8
  count : Nat
  cause : Cause
  deriving DecidableEq, Repr

/-- The byte with the six low bits of a number, as the continuation of a character. -/
def continuation (code : Nat) : UInt8 :=
  UInt8.ofNat (0x80 + code % 0x40)

/-- The bytes of one character. -/
def encodeChar (c : Char) : Bytes :=
  let code := c.toNat
  if code < 0x80 then [UInt8.ofNat code]
  else if code < 0x800 then [UInt8.ofNat (0xC0 + code / 0x40), continuation code]
  else if code < 0x10000 then
    [UInt8.ofNat (0xE0 + code / 0x1000), continuation (code / 0x40), continuation code]
  else
    [UInt8.ofNat (0xF0 + code / 0x40000), continuation (code / 0x1000),
      continuation (code / 0x40), continuation code]

/-- The bytes of a text. -/
def encode (text : List Char) : Bytes :=
  text.flatMap encodeChar

/-- The bytes that may follow a leading byte: the second byte of a character must lie in
a range that rules out overlong forms, surrogates and code points past the last. -/
def secondRange (first : UInt8) : UInt8 × UInt8 :=
  if first = 0xE0 then (0xA0, 0xBF)
  else if first = 0xED then (0x80, 0x9F)
  else if first = 0xF0 then (0x90, 0xBF)
  else if first = 0xF4 then (0x80, 0x8F)
  else (0x80, 0xBF)

/-- How many bytes follow a leading byte, if it is one. -/
def followers? (first : UInt8) : Option Nat :=
  if first < 0x80 then some 0
  else if 0xC2 ≤ first && first ≤ 0xDF then some 1
  else if 0xE0 ≤ first && first ≤ 0xEF then some 2
  else if 0xF0 ≤ first && first ≤ 0xF4 then some 3
  else none

/-- The bits that a leading byte with the given number of followers carries. -/
def leadingBits (first : UInt8) : (followers : Nat) → Nat
  | 0 => first.toNat
  | 1 => first.toNat % 0x20
  | 2 => first.toNat % 0x10
  | _ => first.toNat % 0x08

/-- Take the given number of continuation bytes, the next of them from `range`, and
collect their bits. Bytes that run out or do not fit end the attempt with the number of
bytes taken before. -/
def takeContinuation (range : UInt8 × UInt8) (code : Nat) :
    (wanted taken : Nat) → Bytes → Except (Nat × Cause) (Nat × Bytes)
  | 0, _, bytes => .ok (code, bytes)
  | _ + 1, taken, [] => .error (taken, .endOfData)
  | wanted + 1, taken, byte :: bytes =>
    if range.1 ≤ byte && byte ≤ range.2 then
      takeContinuation (0x80, 0xBF) (code * 0x40 + byte.toNat % 0x40) wanted (taken + 1) bytes
    else .error (taken, .continuationByte)

theorem length_of_takeContinuation {range : UInt8 × UInt8} {code wanted taken result : Nat}
    {bytes rest : Bytes}
    (taking : takeContinuation range code wanted taken bytes = .ok (result, rest)) :
    rest.length ≤ bytes.length := by
  induction wanted generalizing range code taken bytes with
  | zero =>
    simp only [takeContinuation, Except.ok.injEq, Prod.mk.injEq] at taking
    simp [taking.2]
  | succ wanted ih =>
    cases bytes with
    | nil => simp [takeContinuation] at taking
    | cons byte bytes =>
      simp only [takeContinuation] at taking
      split at taking
      · exact Nat.le_succ_of_le (ih taking)
      · simp at taking

/-- Read a text from bytes of which `offset` have been read before. -/
def decodeFrom (offset : Nat) : Bytes → Except Fault (List Char)
  | [] => .ok []
  | first :: bytes =>
    match followers? first with
    | none => .error ⟨offset, first, 1, .startByte⟩
    | some wanted =>
      match _taking : takeContinuation (secondRange first) (leadingBits first wanted) wanted 1
          bytes with
      | .error (taken, cause) => .error ⟨offset, first, taken, cause⟩
      | .ok (code, rest) =>
        match decodeFrom (offset + wanted + 1) rest with
        | .ok text => .ok (Char.ofNat code :: text)
        | .error fault => .error fault
termination_by bytes => bytes.length
decreasing_by
  have := length_of_takeContinuation _taking
  simp only [List.length_cons]
  omega

/-- Read a text from the bytes of a file. -/
def decode (bytes : Bytes) : Except Fault (List Char) :=
  decodeFrom 0 bytes

/-- The bytes of the byte order mark. -/
def byteOrderMark : Bytes :=
  [0xEF, 0xBB, 0xBF]

/-- Bytes without a byte order mark at their beginning. A file that breaks off inside the
mark counts as empty. -/
def dropByteOrderMark (bytes : Bytes) : Bytes :=
  if bytes.isPrefixOf byteOrderMark then []
  else if byteOrderMark.isPrefixOf bytes then bytes.drop byteOrderMark.length
  else bytes

namespace Cause

/-- The reason as messages give it. -/
def message : Cause → String
  | .startByte => "invalid start byte"
  | .continuationByte => "invalid continuation byte"
  | .endOfData => "unexpected end of data"

end Cause

/-- A fault as messages give it: one byte is named by its value, several by their
positions. -/
def Fault.message (fault : Fault) : String :=
  let place :=
    if fault.count = 1 then
      "byte 0x" ++ String.ofList (hexDigits 2 fault.first.toNat) ++ " in position " ++
        toString fault.offset
    else
      "bytes in position " ++ toString fault.offset ++ "-" ++
        toString (fault.offset + fault.count - 1)
  "\x27utf-8\x27 codec can\x27t decode " ++ place ++ ": " ++ fault.cause.message

end Dialogue.Text.Utf8
