import Dialogue.Json.Reader
import Dialogue.Json.Writer
import Mathlib.Tactic.IntervalCases
import Mathlib.Tactic.SplitIfs

/-!
# Strings are read back

What is written between quotation marks is read back, whatever characters it holds: one
character is written as itself or as an escape, and both are read as that character.
-/

namespace Dialogue.Json

open Text

variable {half : Option Char} {opening tail rest chars : List Char} {c : Char} {code : Nat}

/-! ## Digits of escapes -/

theorem hexValue?_hexDigit (small : code < 16) : hexValue? (hexDigit code) = some code := by
  interval_cases code <;> decide

theorem hexDigits_four (code : Nat) :
    hexDigits 4 code = [hexDigit (code / 16 / 16 / 16 % 16), hexDigit (code / 16 / 16 % 16),
      hexDigit (code / 16 % 16), hexDigit (code % 16)] := rfl

/-- Four digits are enough for a code unit. -/
theorem fourDigits?_hexDigits (small : code < 0x10000) :
    fourDigits? (hexDigits 4 code) = some code := by
  rw [hexDigits_four, fourDigits?, hexValue?_hexDigit (by omega), hexValue?_hexDigit (by omega),
    hexValue?_hexDigit (by omega), hexValue?_hexDigit (by omega)]
  simp only [Option.bind_eq_bind, Option.bind_some, Option.pure_def, Option.some.injEq]
  omega

/-! ## One character -/

theorem readChars_end (rest : List Char) :
    readChars half opening ('\x22' :: rest) = .ok ([], rest) := by
  rw [readChars, if_pos rfl]

/-- There is something behind every character of a string. -/
theorem exists_cons_of_readChars (read : readChars half opening tail = .ok (chars, rest)) :
    ∃ next after, tail = next :: after := by
  cases tail with
  | nil =>
    rw [readChars] at read
    cases read
  | cons next after => exact ⟨next, after, rfl⟩

theorem readChars_plain (quote : c ≠ '\x22') (backslash : c ≠ '\x5c') (visible : 0x20 ≤ c.toNat)
    (read : readChars half opening tail = .ok (chars, rest)) :
    readChars half opening (c :: tail) = .ok (c :: chars, rest) := by
  have printed : ¬c.toNat < 0x20 := by omega
  rw [readChars, if_neg quote, if_neg backslash, if_neg printed, read]

theorem readChars_escape {text : List Char}
    (escape : readEscape half opening ('\x5c' :: text) text = .ok (c, tail))
    (read : readChars half opening tail = .ok (chars, rest)) :
    readChars half opening ('\x5c' :: text) = .ok (c :: chars, rest) := by
  rw [readChars, if_neg (by decide), if_pos rfl]
  split
  next failed => simp [escape] at failed
  next found =>
    rw [escape] at found
    obtain ⟨rfl, rfl⟩ := Prod.mk.inj (Except.ok.inj found)
    rw [read]

theorem readEscape_short {letter : Char} {text : List Char} (short : shortEscape? letter = some c)
    (tail : List Char) : readEscape half opening text (letter :: tail) = .ok (c, tail) := by
  have other : letter ≠ 'u' := by
    rintro rfl
    simp [shortEscape?] at short
  rw [readEscape]
  · rw [short]
  · exact other

/-- A control character is read from its code. -/
theorem readEscape_code {text : List Char} (control : c.toNat < 0x20) (next : Char)
    (after : List Char) :
    readEscape half opening text ('u' :: hexDigits 4 c.toNat ++ next :: after) =
      .ok (c, next :: after) := by
  have digits := @fourDigits?_hexDigits c.toNat (by omega)
  have unpaired : isHighSurrogate c.toNat = false ∧ isLowSurrogate c.toNat = false := by
    simp only [isHighSurrogate, isLowSurrogate, Bool.and_eq_false_iff, decide_eq_false_iff_not]
    omega
  rw [hexDigits_four] at digits ⊢
  simp [readEscape, digits, unpaired.1, unpaired.2]

/-- A character is read from the way in which it is written. -/
theorem readChars_escapeChar (c : Char) (read : readChars half opening tail = .ok (chars, rest)) :
    readChars half opening (escapeChar c ++ tail) = .ok (c :: chars, rest) := by
  have short {letter : Char} (short_eq : shortEscape? letter = some c) :
      readChars half opening (['\x5c', letter] ++ tail) = .ok (c :: chars, rest) :=
    readChars_escape (readEscape_short short_eq tail) read
  rw [escapeChar]
  split_ifs with marked feed carriage tab backspace page control
  · apply short
    simp only [Bool.or_eq_true, decide_eq_true_eq] at marked
    rcases marked with rfl | rfl <;> rfl
  · exact short (by rw [feed]; rfl)
  · exact short (by rw [carriage]; rfl)
  · exact short (by rw [tab]; rfl)
  · exact short (by rw [backspace]; rfl)
  · exact short (by rw [page]; rfl)
  · obtain ⟨next, after, rfl⟩ := exists_cons_of_readChars read
    exact readChars_escape (readEscape_code control next after) read
  · simp only [Bool.or_eq_true, decide_eq_true_eq, not_or] at marked
    exact readChars_plain marked.1 marked.2 (by omega) read

/-- A string is read back, up to the quotation mark that ends it. -/
theorem readChars_flatMap_escapeChar (half : Option Char) (opening rest chars : List Char) :
    readChars half opening (chars.flatMap escapeChar ++ '\x22' :: rest) = .ok (chars, rest) := by
  induction chars with
  | nil => exact readChars_end rest
  | cons c chars ih =>
    rw [List.flatMap_cons, List.append_assoc]
    exact readChars_escapeChar c ih

end Dialogue.Json
