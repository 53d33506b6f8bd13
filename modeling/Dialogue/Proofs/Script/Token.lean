import Dialogue.Proofs.Script.Kind
import Dialogue.Script.Token
import Mathlib.Data.List.Induction
import Mathlib.Data.List.TakeWhile

/-!
# What lines of a known form say

Commands, labels and tags as they are written, and what the readers of lines make of them.
A command with a parameter can be cut into its parts in one way only, and these are what is
read; the content of a tag line is what its first closing bracket encloses.
-/

namespace Dialogue.Script

open Text

variable {line rest name gap parameter speaker content : List Char} {mark c : Char}

/-! ## Commands -/

/-- The parts of a command with a parameter: the name, what divides it from the parameter, and
the parameter. The name holds no blank and the parameter begins with none. -/
structure IsSpacedCommand (name gap parameter : List Char) : Prop where
  unspaced : ∀ c ∈ name, isBlank c = false
  gap_ne_nil : gap ≠ []
  blank : ∀ c ∈ gap, isBlank c = true
  visible : ∀ c, parameter.head? = some c → isBlank c = false

namespace IsSpacedCommand

theorem trimStart_eq (parts : IsSpacedCommand name gap parameter) :
    trimStart (gap ++ parameter) = parameter := by
  rw [trimStart, List.dropWhile_append_of_pos parts.blank]
  cases parameter with
  | nil => rfl
  | cons c rest => exact trimStart_cons_of_not_blank (parts.visible c rfl)

/-- The parts are read back from the line that they make up, if there is a space in it. -/
theorem command?_eq (parts : IsSpacedCommand name gap parameter)
    (spaced : ' ' ∈ '@' :: name ++ gap ++ parameter) :
    command? ('@' :: name ++ gap ++ parameter) =
      some ⟨String.ofList name, some (String.ofList parameter)⟩ := by
  obtain ⟨first, others, gap_eq⟩ := List.exists_cons_of_ne_nil parts.gap_ne_nil
  have unspaced : ∀ c ∈ name, (!isBlank c) = true := by simpa using parts.unspaced
  have ended : (!isBlank first) = false := by simp [parts.blank first (by simp [gap_eq])]
  have body : ('@' :: name ++ gap ++ parameter).drop 1 = name ++ first :: (others ++ parameter) := by
    simp [gap_eq]
  have behind : (name ++ first :: (others ++ parameter)).dropWhile (!isBlank ·) =
      first :: (others ++ parameter) := by
    rw [List.dropWhile_append_of_pos unspaced, List.dropWhile_cons_of_neg (by simp [ended])]
  have front : (name ++ first :: (others ++ parameter)).takeWhile (!isBlank ·) = name := by
    rw [List.takeWhile_append_of_pos unspaced, List.takeWhile_cons_of_neg (by simp [ended]),
      List.append_nil]
  have trimmed : trimStart (first :: (others ++ parameter)) = parameter := by
    simpa [gap_eq] using parts.trimStart_eq
  rw [command?, if_pos (List.contains_iff_mem.mpr spaced), body, behind]
  simp only [front, trimmed]

end IsSpacedCommand

/-- A line with a space in it can be cut into the parts of a command behind its sign. -/
theorem exists_isSpacedCommand (sign : line.head? = some '@') (spaced : ' ' ∈ line) :
    ∃ name gap parameter,
      IsSpacedCommand name gap parameter ∧ line = '@' :: name ++ gap ++ parameter := by
  obtain ⟨rest, rfl⟩ := List.head?_eq_some_iff.mp sign
  have member : ' ' ∈ rest := by simpa using spaced
  let behind := rest.dropWhile (!isBlank ·)
  refine ⟨rest.takeWhile (!isBlank ·), behind.takeWhile isBlank, trimStart behind, ?_, ?_⟩
  · constructor
    · intro c member
      simpa using List.mem_takeWhile_imp member
    · intro nothing
      cases split : behind with
      | nil => simpa using List.dropWhile_eq_nil_iff.mp split ' ' member
      | cons first others =>
        have stopped := List.head?_dropWhile_not (!isBlank ·) rest
        have ended : isBlank first = true := by simpa [behind, split] using stopped
        simp [split, ended] at nothing
    · intro c member
      exact List.mem_takeWhile_imp member
    · intro c first
      exact visible_of_head?_trimStart first
  · rw [trimStart, List.append_assoc, List.takeWhile_append_dropWhile, List.cons_append,
      List.takeWhile_append_dropWhile]

/-- Without a space, all behind the sign is the name. -/
theorem command?_of_unspaced (unspaced : ' ' ∉ '@' :: name) :
    command? ('@' :: name) = some ⟨String.ofList name, none⟩ := by
  rw [command?, if_neg (by simpa using unspaced)]
  rfl

/-- Every line that begins with the sign of commands gives a command. -/
theorem exists_command_of_head? (sign : line.head? = some '@') :
    ∃ command, command? line = some command := by
  by_cases spaced : ' ' ∈ line
  · obtain ⟨name, gap, parameter, parts, rfl⟩ := exists_isSpacedCommand sign spaced
    exact ⟨_, parts.command?_eq spaced⟩
  · obtain ⟨name, rfl⟩ := List.head?_eq_some_iff.mp sign
    exact ⟨_, command?_of_unspaced spaced⟩

/-- A line gives no command if it holds a space, but no end of a name behind its first
character. -/
theorem command?_eq_none_iff :
    command? line = none ↔ ' ' ∈ line ∧ ∀ c ∈ line.drop 1, isBlank c = false := by
  rw [command?]
  split
  next spaced =>
    rw [List.contains_iff_mem] at spaced
    split
    next behind => simpa [spaced] using behind
    next ended =>
      simp only [reduceCtorEq, false_iff, not_and]
      intro _ unended
      exact ended (List.dropWhile_eq_nil_iff.mpr (by simpa using unended))
  next plain => simpa using fun space => absurd space (by simpa using plain)

/-- Every line behind the sign of commands is read. If there is a space in it, what is read is the
one way to cut the line into a name and a parameter with blanks between them; if there is none,
all of it is the name. And whatever is divided by blanks with a space among them is read as it
was written. -/
theorem commands_read_as_written :
    (∀ line : List Char, line.head? = some '@' →
      (∃ command, command? line = some command) ∧
      (' ' ∈ line → ∃ name parameter,
        command? line = some ⟨String.ofList name, some (String.ofList parameter)⟩ ∧
          ∀ name' parameter',
            (∃ gap, IsSpacedCommand name' gap parameter' ∧
              line = '@' :: name' ++ gap ++ parameter') ↔
              name' = name ∧ parameter' = parameter) ∧
      (' ' ∉ line → ∃ name,
        command? line = some ⟨String.ofList name, none⟩ ∧ line = '@' :: name)) ∧
    ∀ name gap parameter, IsSpacedCommand name gap parameter → ' ' ∈ gap →
      command? ('@' :: name ++ gap ++ parameter) =
        some ⟨String.ofList name, some (String.ofList parameter)⟩ := by
  constructor
  · intro line sign
    refine ⟨exists_command_of_head? sign, fun spaced => ?_, fun unspaced => ?_⟩
    · obtain ⟨name, gap, parameter, parts, line_eq⟩ := exists_isSpacedCommand sign spaced
      have read := parts.command?_eq (line_eq ▸ spaced)
      refine ⟨name, parameter, line_eq ▸ read, fun name' parameter' => ⟨?_, ?_⟩⟩
      · -- Of two ways to cut the line, both would be what is read.
        rintro ⟨gap', parts', line_eq'⟩
        have read' := parts'.command?_eq (line_eq' ▸ spaced)
        rw [← line_eq', line_eq, read] at read'
        simpa [String.ofList_inj, eq_comm] using read'
      · rintro ⟨rfl, rfl⟩
        exact ⟨gap, parts, line_eq⟩
    · obtain ⟨name, rfl⟩ := List.head?_eq_some_iff.mp sign
      exact ⟨name, command?_of_unspaced unspaced, rfl⟩
  · intro name gap parameter parts spaced
    exact parts.command?_eq (by simp [spaced])

/-- The name ends at a tab, and more blanks follow it; a tab without a space is in the name. -/
theorem commands_read_as_written_tabs :
    let parted := "@heal\t \t10 hp".toList
    let whole := "@heal\t10".toList
    parted.head? = some '@' ∧ ' ' ∈ parted ∧
      IsSpacedCommand "heal".toList "\t \t".toList "10 hp".toList ∧ ' ' ∈ "\t \t".toList ∧
      command? parted = some ⟨"heal", some "10 hp"⟩ ∧
      (∀ name gap parameter, IsSpacedCommand name gap parameter →
        parted = '@' :: name ++ gap ++ parameter →
          name = "heal".toList ∧ parameter = "10 hp".toList) ∧
      whole.head? = some '@' ∧ ' ' ∉ whole ∧ command? whole = some ⟨"heal\t10", none⟩ := by
  intro parted whole
  have parts : IsSpacedCommand "heal".toList "\t \t".toList "10 hp".toList :=
    ⟨by simp; decide, by decide, by simp, by simp; decide⟩
  obtain ⟨lines, written⟩ := commands_read_as_written
  obtain ⟨_, _, -, only⟩ := (lines parted rfl).2.1 (by decide)
  obtain ⟨rfl, rfl⟩ := (only _ _).mp ⟨_, parts, rfl⟩
  obtain ⟨name, read, whole_eq⟩ := (lines whole rfl).2.2 (by decide)
  obtain rfl : "heal\t10".toList = name := (List.cons.inj whole_eq).2
  exact ⟨rfl, by decide, parts, by decide, written _ _ _ parts (by decide),
    fun name gap parameter other line_eq => (only name parameter).mp ⟨gap, other, line_eq⟩, rfl,
    by decide, read⟩

/-! ## Labels -/

theorem speakerName_label : speakerName (speaker ++ [':']) = speaker := by
  simp [speakerName]

/-! ## Behind the last mark -/

@[simp] theorem afterLast_concat_self (mark : Char) (text : List Char) :
    afterLast mark (text ++ [mark]) = [] := by
  simp [afterLast]

theorem afterLast_concat_of_ne (other : c ≠ mark) (text : List Char) :
    afterLast mark (text ++ [c]) = afterLast mark text ++ [c] := by
  simp [afterLast, other]

/-- Reading on behind a mark, what is read is all that follows it until the next one. -/
theorem afterLast_append_cons (unmarked : mark ∉ rest) (front : List Char) :
    afterLast mark (front ++ mark :: rest) = rest := by
  induction rest using List.reverseRecOn with
  | nil => exact afterLast_concat_self mark front
  | append_singleton rest c ih =>
    simp only [List.mem_append, List.mem_singleton, not_or] at unmarked
    have longer := afterLast_concat_of_ne (Ne.symm unmarked.2) (front ++ mark :: rest)
    simpa [ih unmarked.1] using longer

/-- A text with a mark in it is cut behind the last one. -/
theorem exists_append_afterLast (member : mark ∈ line) :
    ∃ front, line = front ++ mark :: afterLast mark line ∧ mark ∉ afterLast mark line := by
  induction line using List.reverseRecOn with
  | nil => cases member
  | append_singleton line c ih =>
    by_cases last : c = mark
    · subst last
      exact ⟨line, by simp, by simp⟩
    · have earlier : mark ∈ line := by simpa [Ne.symm last] using member
      obtain ⟨front, line_eq, unmarked⟩ := ih earlier
      rw [afterLast_concat_of_ne last]
      refine ⟨front, ?_, by simpa [Ne.symm last] using unmarked⟩
      rw [← List.cons_append, ← List.append_assoc, ← line_eq]

/-! ## Tags -/

variable {front after : List Char}

/-- The first closing bracket ends the content, which begins behind the last opening bracket. -/
theorem tagContent?_of_closed (unclosed : ']' ∉ front)
    (long : 3 ≤ (front ++ ']' :: after).length) :
    tagContent? (front ++ ']' :: after) = some (afterLast '[' front) := by
  have unclosed : ∀ c ∈ front, (c != ']') = true := by
    intro c member
    simpa using fun same : c = ']' => unclosed (same ▸ member)
  rw [tagContent?, if_neg (Nat.not_lt.mpr long), if_pos (by simp),
    List.takeWhile_append_of_pos unclosed]
  simp

/-- What stands between two brackets is read back, if it is not empty and without brackets, and
no bracket was closed before. -/
theorem tagContent?_of_enclosed (before after : List Char) (filled : content ≠ [])
    (unbracketed : '[' ∉ content ∧ ']' ∉ content) (unclosed : ']' ∉ before) :
    tagContent? (before ++ '[' :: content ++ ']' :: after) = some content := by
  have long : 3 ≤ (before ++ '[' :: content ++ ']' :: after).length := by
    have := List.length_pos_iff.mpr filled
    simp
    omega
  rw [tagContent?_of_closed (by simp [unclosed, unbracketed.2]) long,
    afterLast_append_cons unbracketed.1]

/-- Only lines of fewer than three characters have no content. -/
theorem tagContent?_eq_none_iff : tagContent? line = none ↔ line.length < 3 := by
  rw [tagContent?]
  split
  next few => simpa using few
  next many =>
    split
    next => simpa using many
    next => simpa using many

/-- The first closing bracket of a line between brackets, with the last opening bracket before
it. -/
theorem exists_enclosed (bracketed : isBracketed line = true) :
    ∃ before content after, line = before ++ '[' :: content ++ ']' :: after ∧
      ']' ∉ before ∧ '[' ∉ content ∧ ']' ∉ content := by
  obtain ⟨inner, rfl⟩ := isBracketed_iff.mp bracketed
  obtain ⟨front, after, line_eq, unclosed⟩ :=
    List.eq_append_cons_of_mem (show ']' ∈ '[' :: inner ++ [']'] by simp)
  have opened : '[' ∈ front := by
    cases front with
    | nil => simp at line_eq
    | cons first front =>
      obtain ⟨rfl, -⟩ := List.cons.inj line_eq
      exact List.mem_cons_self
  obtain ⟨before, front_eq, unopened⟩ := exists_append_afterLast opened
  rw [front_eq] at unclosed
  simp only [List.mem_append, List.mem_cons, not_or] at unclosed
  exact ⟨before, afterLast '[' front, after, by rw [line_eq, ← front_eq], unclosed.1, unopened,
    unclosed.2.2⟩

/-- The content of a tag line is what the first closing bracket encloses with the last opening
bracket before it; only a line of fewer than three characters has none. And whatever stands
between two brackets is read, if it is not empty and without brackets, and no bracket was closed
before. -/
theorem innermost_pair_read :
    (∀ threshold line, lineKind threshold line = .tag →
      (3 ≤ line.length → ∃ before content after, tagContent? line = some content ∧
        line = before ++ '[' :: content ++ ']' :: after ∧
          ']' ∉ before ∧ '[' ∉ content ∧ ']' ∉ content) ∧
      (line.length < 3 → tagContent? line = none)) ∧
    ∀ before content after : List Char, content ≠ [] → '[' ∉ content → ']' ∉ content →
      ']' ∉ before → tagContent? (before ++ '[' :: content ++ ']' :: after) = some content := by
  refine ⟨fun threshold line tagged => ⟨fun long => ?_, tagContent?_eq_none_iff.mpr⟩, ?_⟩
  · obtain ⟨before, content, after, rfl, unclosed, unopened, within⟩ :=
      exists_enclosed (lineKind_eq_tag_iff.mp tagged).2
    refine ⟨before, content, after, ?_, rfl, unclosed, unopened, within⟩
    rw [tagContent?_of_closed (by simp [unclosed, within]) long, afterLast_append_cons unopened]
  · intro before content after filled unopened within unclosed
    exact tagContent?_of_enclosed before after filled ⟨unopened, within⟩ unclosed

/-- Of nested brackets the inner ones count. -/
theorem innermost_pair_read_nested :
    let line := "[to [inn] or]".toList
    lineKind 4 line = .tag ∧ 3 ≤ line.length ∧
      (∃ before content after, tagContent? line = some content ∧
        line = before ++ '[' :: content ++ ']' :: after ∧
          ']' ∉ before ∧ '[' ∉ content ∧ ']' ∉ content) ∧
      tagContent? line = some "inn".toList ∧
      lineKind 4 "[]".toList = .tag ∧ tagContent? "[]".toList = none := by
  intro line
  have tagged : lineKind 4 line = .tag := by decide
  have empty : lineKind 4 "[]".toList = .tag := by decide
  obtain ⟨lines, written⟩ := innermost_pair_read
  exact ⟨tagged, by decide, (lines 4 line tagged).1 (by decide),
    written "[to ".toList "inn".toList " or]".toList (by decide) (by decide) (by decide) (by decide),
    empty, (lines 4 "[]".toList empty).2 (by decide)⟩

end Dialogue.Script
