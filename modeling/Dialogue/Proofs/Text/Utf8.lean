import Dialogue.Text.Utf8
import Mathlib.Logic.Basic

/-!
# Texts are read back from their bytes

What is encoded is decoded again. A character is taken apart into the bits of a leading
byte and of up to three continuation bytes, and the decoder puts them together again; it
also asks that the second byte lies in a range that depends on the first, and that a
character is in this range is what makes it a character of its length and no surrogate. A byte
order mark in front of a text is left out, and nothing else is taken for one.
-/

namespace Dialogue.Text.Utf8

variable {first : UInt8} {code wanted taken offset : Nat} {bytes rest : Bytes} {text : List Char}

/-! ## Bytes as numbers -/

theorem toNat_continuation (code : Nat) : (continuation code).toNat = 0x80 + code % 0x40 := by
  rw [continuation, UInt8.toNat_ofNat']
  omega

/-- A number below 256 is a byte. -/
theorem toNat_lead (small : code < 0x100) : (UInt8.ofNat code).toNat = code := by
  rw [UInt8.toNat_ofNat']
  omega

/-- A leading byte tells its number. -/
theorem eq_toNat_of_lead (small : code < 0x100) (lead : UInt8.ofNat code = first) :
    code = first.toNat := by
  rw [← lead, toNat_lead small]

theorem mod_eq_of_continuation (next : continuation code = first) :
    0x80 + code % 0x40 = first.toNat := by
  rw [← next, toNat_continuation]

theorem followers?_zero (low : first.toNat < 0x80) : followers? first = some 0 := by
  simp [followers?, UInt8.lt_iff_toNat_lt, low]

theorem followers?_one (low : 0xC2 ≤ first.toNat) (high : first.toNat ≤ 0xDF) :
    followers? first = some 1 := by
  simp only [followers?, UInt8.lt_iff_toNat_lt, UInt8.le_iff_toNat_le, UInt8.reduceToNat]
  grind

theorem followers?_two (low : 0xE0 ≤ first.toNat) (high : first.toNat ≤ 0xEF) :
    followers? first = some 2 := by
  simp only [followers?, UInt8.lt_iff_toNat_lt, UInt8.le_iff_toNat_le, UInt8.reduceToNat]
  grind

theorem followers?_three (low : 0xF0 ≤ first.toNat) (high : first.toNat ≤ 0xF4) :
    followers? first = some 3 := by
  simp only [followers?, UInt8.lt_iff_toNat_lt, UInt8.le_iff_toNat_le, UInt8.reduceToNat]
  grind

/-- The least second byte rules out longer forms than needed. -/
theorem toNat_secondRange_low (first : UInt8) :
    (secondRange first).1.toNat =
      if first.toNat = 0xE0 then 0xA0 else if first.toNat = 0xF0 then 0x90 else 0x80 := by
  rw [secondRange]
  simp only [apply_ite Prod.fst, apply_ite UInt8.toNat, ← UInt8.toNat_inj, UInt8.reduceToNat]
  grind

/-- The greatest second byte rules out surrogates and numbers past the last character. -/
theorem toNat_secondRange_high (first : UInt8) :
    (secondRange first).2.toNat =
      if first.toNat = 0xED then 0x9F else if first.toNat = 0xF4 then 0x8F else 0xBF := by
  rw [secondRange]
  simp only [apply_ite Prod.snd, apply_ite UInt8.toNat, ← UInt8.toNat_inj, UInt8.reduceToNat]
  grind

/-! ## Continuation bytes -/

/-- A continuation byte in the range is taken, and its bits are put behind those before it. -/
theorem takeContinuation_cons {range : UInt8 × UInt8} (next : Nat)
    (low : range.1.toNat ≤ 0x80 + next % 0x40) (high : 0x80 + next % 0x40 ≤ range.2.toNat) :
    takeContinuation range code (wanted + 1) taken (continuation next :: rest) =
      takeContinuation (0x80, 0xBF) (code * 0x40 + next % 0x40) wanted (taken + 1) rest := by
  have inside : (range.1 ≤ continuation next && continuation next ≤ range.2) = true := by
    simp only [Bool.and_eq_true, decide_eq_true_eq, UInt8.le_iff_toNat_le, toNat_continuation]
    exact ⟨low, high⟩
  have bits : (continuation next).toNat % 0x40 = next % 0x40 := by
    rw [toNat_continuation]
    omega
  rw [takeContinuation, if_pos inside, bits]

/-- Behind the second byte every continuation byte is in the range. -/
theorem takeContinuation_behind (next : Nat) :
    takeContinuation (0x80, 0xBF) code (wanted + 1) taken (continuation next :: rest) =
      takeContinuation (0x80, 0xBF) (code * 0x40 + next % 0x40) wanted (taken + 1) rest := by
  have below : next % 0x40 < 0x40 := Nat.mod_lt _ (by decide)
  apply takeContinuation_cons next
  · show 0x80 ≤ 0x80 + next % 0x40
    omega
  · show 0x80 + next % 0x40 ≤ 0xBF
    omega

/-! ## Characters -/

/-- A leading byte and the bytes that it asks for are read as one character. -/
theorem decodeFrom_cons (lead : followers? first = some wanted)
    (taking : takeContinuation (secondRange first) (leadingBits first wanted) wanted 1 bytes =
      .ok (code, rest))
    (read : decodeFrom (offset + wanted + 1) rest = .ok text) :
    decodeFrom offset (first :: bytes) = .ok (Char.ofNat code :: text) := by
  rw [decodeFrom, lead]
  simp only
  split
  next failed => simp [taking] at failed
  next taken =>
    rw [taking] at taken
    obtain ⟨rfl, rfl⟩ := Prod.mk.inj (Except.ok.inj taken)
    rw [read]

section Lengths

variable (read : ∀ offset, decodeFrom offset rest = .ok text) (offset : Nat)
include read

theorem decodeFrom_one (high : code < 0x80) :
    decodeFrom offset (UInt8.ofNat code :: rest) = .ok (Char.ofNat code :: text) := by
  have lead_eq : (UInt8.ofNat code).toNat = code := toNat_lead (by omega)
  apply decodeFrom_cons (followers?_zero (by omega)) _ (read _)
  rw [leadingBits, lead_eq, takeContinuation]

theorem decodeFrom_two (low : 0x80 ≤ code) (high : code < 0x800) :
    decodeFrom offset (UInt8.ofNat (0xC0 + code / 0x40) :: continuation code :: rest) =
      .ok (Char.ofNat code :: text) := by
  have lead_eq : (UInt8.ofNat (0xC0 + code / 0x40)).toNat = 0xC0 + code / 0x40 :=
    toNat_lead (by omega)
  apply decodeFrom_cons (followers?_one (by omega) (by omega)) _ (read _)
  rw [leadingBits, lead_eq, takeContinuation_cons, takeContinuation]
  · have bits : (0xC0 + code / 0x40) % 0x20 * 0x40 + code % 0x40 = code := by omega
    rw [bits]
  · rw [toNat_secondRange_low]
    grind
  · rw [toNat_secondRange_high]
    grind

theorem decodeFrom_three (low : 0x800 ≤ code) (high : code < 0x10000)
    (whole : code < 0xD800 ∨ 0xDFFF < code) :
    decodeFrom offset (UInt8.ofNat (0xE0 + code / 0x1000) :: continuation (code / 0x40) ::
      continuation code :: rest) = .ok (Char.ofNat code :: text) := by
  have lead_eq : (UInt8.ofNat (0xE0 + code / 0x1000)).toNat = 0xE0 + code / 0x1000 :=
    toNat_lead (by omega)
  apply decodeFrom_cons (followers?_two (by omega) (by omega)) _ (read _)
  rw [leadingBits, lead_eq, takeContinuation_cons, takeContinuation_behind, takeContinuation]
  · have bits : ((0xE0 + code / 0x1000) % 0x10 * 0x40 + code / 0x40 % 0x40) * 0x40 +
        code % 0x40 = code := by omega
    rw [bits]
  · rw [toNat_secondRange_low]
    grind
  · rw [toNat_secondRange_high]
    grind

theorem decodeFrom_four (low : 0x10000 ≤ code) (high : code < 0x110000) :
    decodeFrom offset (UInt8.ofNat (0xF0 + code / 0x40000) :: continuation (code / 0x1000) ::
      continuation (code / 0x40) :: continuation code :: rest) =
      .ok (Char.ofNat code :: text) := by
  have lead_eq : (UInt8.ofNat (0xF0 + code / 0x40000)).toNat = 0xF0 + code / 0x40000 :=
    toNat_lead (by omega)
  apply decodeFrom_cons (followers?_three (by omega) (by omega)) _ (read _)
  simp only [leadingBits, lead_eq]
  rw [takeContinuation_cons, takeContinuation_behind, takeContinuation_behind, takeContinuation]
  · have bits : (((0xF0 + code / 0x40000) % 0x08 * 0x40 + code / 0x1000 % 0x40) * 0x40 +
        code / 0x40 % 0x40) * 0x40 + code % 0x40 = code := by omega
    rw [bits]
  · rw [toNat_secondRange_low]
    grind
  · rw [toNat_secondRange_high]
    grind

theorem decodeFrom_encodeChar (c : Char) :
    decodeFrom offset (encodeChar c ++ rest) = .ok (c :: text) := by
  have valid : c.toNat < 0xD800 ∨ 0xDFFF < c.toNat ∧ c.toNat < 0x110000 := c.valid
  have same : Char.ofNat c.toNat = c := Char.ofNat_toNat c
  simp only [encodeChar]
  split
  next few =>
    have decoded := decodeFrom_one read offset few
    rwa [same] at decoded
  next =>
    split
    next few =>
      have decoded := decodeFrom_two read offset (by omega) few
      rwa [same] at decoded
    next =>
      split
      next few =>
        have decoded := decodeFrom_three read offset (by omega) few (by omega)
        rwa [same] at decoded
      next =>
        have decoded := @decodeFrom_four c.toNat rest text read offset (by omega) (by omega)
        rwa [same] at decoded

end Lengths

theorem decodeFrom_encode (text : List Char) (offset : Nat) :
    decodeFrom offset (encode text) = .ok text := by
  induction text generalizing offset with
  | nil => rw [encode, List.flatMap_nil, decodeFrom]
  | cons c text ih => exact decodeFrom_encodeChar ih offset c

/-- A text is read back from its bytes. -/
theorem decode_encode (text : List Char) : decode (encode text) = .ok text :=
  decodeFrom_encode text 0

/-! ## Byte order marks -/

/-- Only one character begins like the byte order mark. -/
theorem eq_of_byteOrderMark {c : Char} (begins : encodeChar c ++ bytes = byteOrderMark ++ rest) :
    c = '\uFEFF' := by
  have valid : c.toNat < 0xD800 ∨ 0xDFFF < c.toNat ∧ c.toNat < 0x110000 := c.valid
  suffices code : c.toNat = 0xFEFF by rw [← Char.ofNat_toNat c, code]
  simp only [encodeChar, byteOrderMark] at begins
  split at begins
  next few =>
    have lead : c.toNat = 0xEF := eq_toNat_of_lead (by omega) (List.cons.inj begins).1
    omega
  next =>
    split at begins
    next few =>
      have lead : 0xC0 + c.toNat / 0x40 = 0xEF :=
        eq_toNat_of_lead (by omega) (List.cons.inj begins).1
      omega
    next =>
      split at begins
      next =>
        obtain ⟨first, begins⟩ := List.cons.inj begins
        obtain ⟨second, begins⟩ := List.cons.inj begins
        obtain ⟨third, -⟩ := List.cons.inj begins
        have lead : 0xE0 + c.toNat / 0x1000 = 0xEF := eq_toNat_of_lead (by omega) first
        have middle : 0x80 + c.toNat / 0x40 % 0x40 = 0xBB := mod_eq_of_continuation second
        have last : 0x80 + c.toNat % 0x40 = 0xBF := mod_eq_of_continuation third
        omega
      next =>
        have lead : 0xF0 + c.toNat / 0x40000 = 0xEF :=
          eq_toNat_of_lead (by omega) (List.cons.inj begins).1
        omega

/-- A text that does not begin with the mark is read as it is. -/
theorem dropByteOrderMark_encode (unmarked : text.head? ≠ some '\uFEFF') :
    dropByteOrderMark (encode text) = encode text := by
  cases text with
  | nil => rfl
  | cons c text =>
    have other : c ≠ '\uFEFF' := fun same => unmarked (congrArg some same)
    rw [encode, List.flatMap_cons, dropByteOrderMark]
    split
    next broken =>
      obtain ⟨rest, mark_eq⟩ := List.isPrefixOf_iff_prefix.mp broken
      rw [List.append_assoc, ← List.append_nil byteOrderMark] at mark_eq
      exact absurd (eq_of_byteOrderMark mark_eq) other
    next =>
      split
      next marked =>
        obtain ⟨rest, mark_eq⟩ := List.isPrefixOf_iff_prefix.mp marked
        exact absurd (eq_of_byteOrderMark mark_eq.symm) other
      next => rfl

/-- A mark in front of a text is left out. -/
theorem dropByteOrderMark_append (bytes : Bytes) :
    dropByteOrderMark (byteOrderMark ++ bytes) = bytes := by
  rw [dropByteOrderMark]
  split
  next bare =>
    have short := (List.isPrefixOf_iff_prefix.mp bare).length_le
    rw [List.length_append] at short
    exact (List.length_eq_zero_iff.mp (by omega)).symm
  next =>
    have marked : byteOrderMark.isPrefixOf (byteOrderMark ++ bytes) = true :=
      List.isPrefixOf_iff_prefix.mpr (List.prefix_append _ _)
    rw [if_pos marked, List.drop_left]

end Dialogue.Text.Utf8
