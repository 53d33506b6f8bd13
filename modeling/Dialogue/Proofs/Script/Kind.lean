import Dialogue.Script.Line
import Mathlib.Data.List.TakeWhile

/-!
# Kinds of lines before and after dedenting

The kind of a line is read off the raw line and, inside a choice block, once more off the
dedented one. This module says how the form of a line and its two kinds are related: dedenting
takes away blanks alone, it uncovers tags and commands under narration, and only a second blank
behind a tab is indentation still. A threshold is taken to be positive where that matters.
-/

namespace Dialogue.Script

open Text

variable {threshold : Int} {line rest : List Char} {c : Char}

/-! ## The five kinds -/

theorem lineKind_eq_indented_iff :
    lineKind threshold line = .indented ↔ isIndented threshold line = true := by
  grind [lineKind]

theorem lineKind_eq_tag_iff :
    lineKind threshold line = .tag ↔
      isIndented threshold line = false ∧ isBracketed line = true := by
  grind [lineKind]

theorem lineKind_eq_command_iff :
    lineKind threshold line = .command ↔
      isIndented threshold line = false ∧ isBracketed line = false ∧ line.head? = some '@' := by
  grind [lineKind]

theorem lineKind_eq_label_iff :
    lineKind threshold line = .label ↔
      isIndented threshold line = false ∧ isBracketed line = false ∧ line.head? ≠ some '@' ∧
        line.getLast? = some ':' := by
  grind [lineKind]

theorem lineKind_eq_narration_iff :
    lineKind threshold line = .narration ↔
      isIndented threshold line = false ∧ isBracketed line = false ∧ line.head? ≠ some '@' ∧
        line.getLast? ≠ some ':' := by
  grind [lineKind]

theorem isBracketed_iff :
    isBracketed line = true ↔ ∃ content, line = '[' :: content ++ [']'] := by
  constructor
  · intro bracketed
    simp only [isBracketed, Bool.and_eq_true, decide_eq_true_eq] at bracketed
    obtain ⟨⟨long, first⟩, last⟩ := bracketed
    obtain ⟨rest, rfl⟩ := List.head?_eq_some_iff.mp first
    rcases List.eq_nil_or_concat rest with rfl | ⟨content, c, rfl⟩
    · simp at long
    · rw [List.concat_eq_append, ← List.cons_append, List.getLast?_concat] at last
      obtain rfl := Option.some.inj last
      exact ⟨content, by simp⟩
  · rintro ⟨content, rfl⟩
    simp [isBracketed, List.getLast?_cons]

/-- There is nothing between the brackets of a short line. -/
theorem eq_of_isBracketed (bracketed : isBracketed line = true) (short : line.length < 3) :
    line = ['[', ']'] := by
  obtain ⟨content, rfl⟩ := isBracketed_iff.mp bracketed
  have nothing : content.length = 0 := by
    simp at short
    omega
  simp [List.length_eq_zero_iff.mp nothing]

/-! ## Indentation -/

theorem isIndented_of_visible (positive : 0 < threshold) (visible : isBlank c = false) :
    isIndented threshold (c :: rest) = false := by
  simp only [isIndented]
  split
  next empty => cases empty
  next tab =>
    obtain ⟨rfl, -⟩ := List.cons.inj tab
    simp at visible
  next => simp [isBlankLine, visible, positive]

@[simp] theorem isIndented_tab : isIndented threshold ('\t' :: rest) = true := rfl

/-- Only a positive threshold is above the indentation of a line with something to see. -/
theorem pos_of_not_indented (present : isBlankLine line = false)
    (outside : isIndented threshold line = false) : 0 < threshold := by
  simp only [isIndented] at outside
  split at outside
  next => simp [isBlankLine] at present
  next => cases outside
  next =>
    simp only [present, Bool.false_or, decide_eq_false_iff_not, Int.not_le] at outside
    omega

theorem dedent_of_visible (visible : isBlank c = false) : dedent (c :: rest) = c :: rest := by
  simp only [dedent]
  split
  next tab =>
    obtain ⟨rfl, -⟩ := List.cons.inj tab
    simp at visible
  next => exact trimStart_cons_of_not_blank visible

/-- Trimming stops at something to see. -/
theorem visible_of_head?_trimStart (first : (trimStart line).head? = some c) :
    isBlank c = false := by
  have stopped := List.head?_dropWhile_not isBlank line
  rw [← trimStart, first] at stopped
  simpa using stopped

/-- Without a tab in front, a dedented line begins with something to see. -/
theorem exists_visible_of_trimStart (present : isBlankLine line = false) :
    ∃ c rest, trimStart line = c :: rest ∧ isBlank c = false := by
  cases trimmed : trimStart line with
  | nil =>
    have blank : isBlankLine line = true := isBlankLine_eq_true.mpr (trimStart_eq_nil_iff.mp trimmed)
    simp [blank] at present
  | cons c rest => exact ⟨c, rest, rfl, visible_of_head?_trimStart (by rw [trimmed, List.head?_cons])⟩

/-- Dedenting takes away blanks in front and nothing else. -/
theorem exists_append_dedent (line : List Char) :
    ∃ blanks, line = blanks ++ dedent line ∧ ∀ c ∈ blanks, isBlank c = true := by
  simp only [dedent]
  split
  next rest => exact ⟨['\t'], rfl, by simp⟩
  next =>
    exact ⟨line.takeWhile isBlank, List.takeWhile_append_dropWhile.symm,
      fun _ member => List.mem_takeWhile_imp member⟩

/-- Dedenting leaves what there is to see. -/
theorem isBlankLine_dedent (present : isBlankLine line = false) :
    isBlankLine (dedent line) = false := by
  obtain ⟨blanks, split, blank⟩ := exists_append_dedent line
  rw [split, isBlankLine, List.all_append, List.all_eq_true.mpr blank, Bool.true_and] at present
  exact present

theorem dedent_ne_nil (present : isBlankLine line = false) : dedent line ≠ [] := by
  intro nothing
  have visible := isBlankLine_dedent present
  rw [nothing] at visible
  cases visible

/-- A line with something to see keeps its last character. -/
theorem getLast?_dedent (present : isBlankLine line = false) :
    (dedent line).getLast? = line.getLast? := by
  obtain ⟨blanks, split, -⟩ := exists_append_dedent line
  calc
    (dedent line).getLast? = (blanks ++ dedent line).getLast? := by
      rw [List.getLast?_append, List.getLast?_eq_some_getLast (dedent_ne_nil present),
        Option.some_or]
    _ = line.getLast? := by rw [← split]

/-- A dedented line is indented still only if more blanks follow the tab that was taken away. -/
theorem exists_tab_of_dedent_indented (positive : 0 < threshold)
    (present : isBlankLine line = false) (indented : isIndented threshold (dedent line) = true) :
    ∃ c rest, line = '\t' :: c :: rest ∧ isBlank c = true := by
  simp only [dedent] at indented
  split at indented
  next rest =>
    cases rest with
    | nil => cases indented
    | cons c rest =>
      cases visible : isBlank c with
      | true => exact ⟨c, rest, rfl, visible⟩
      | false => simp [isIndented_of_visible positive visible] at indented
  next =>
    obtain ⟨c, rest, trimmed, visible⟩ := exists_visible_of_trimStart present
    simp [trimmed, isIndented_of_visible positive visible] at indented

theorem isIndented_dedent (present : isBlankLine line = false)
    (outside : isIndented threshold line = false) : isIndented threshold (dedent line) = false := by
  rw [← Bool.not_eq_true]
  intro indented
  obtain ⟨c, rest, rfl, -⟩ :=
    exists_tab_of_dedent_indented (pos_of_not_indented present outside) present indented
  simp at outside

/-! ## Lines as they are written -/

theorem lineKind_command (positive : 0 < threshold) : lineKind threshold ('@' :: rest) = .command :=
  lineKind_eq_command_iff.mpr ⟨isIndented_of_visible positive (by decide), by simp [isBracketed], rfl⟩

theorem lineKind_tag (positive : 0 < threshold) (content : List Char) :
    lineKind threshold ('[' :: content ++ [']']) = .tag :=
  lineKind_eq_tag_iff.mpr
    ⟨isIndented_of_visible positive (by decide), isBracketed_iff.mpr ⟨content, rfl⟩⟩

/-- Whatever begins with something to see other than the sign of commands is a label with a colon
behind it, and so is the colon alone. -/
theorem lineKind_label (positive : 0 < threshold) {speaker : List Char}
    (plain : ∀ c, speaker.head? = some c → isBlank c = false ∧ c ≠ '@') :
    lineKind threshold (speaker ++ [':']) = .label := by
  have opened : ∃ c rest, speaker ++ [':'] = c :: rest ∧ isBlank c = false ∧ c ≠ '@' := by
    cases speaker with
    | nil => exact ⟨':', [], rfl, by decide, by decide⟩
    | cons c speaker => exact ⟨c, speaker ++ [':'], rfl, plain c rfl⟩
  obtain ⟨c, rest, line_eq, visible, unsigned⟩ := opened
  have last : (speaker ++ [':']).getLast? = some ':' := List.getLast?_concat
  refine lineKind_eq_label_iff.mpr ⟨?_, ?_, ?_, last⟩
  · rw [line_eq]
    exact isIndented_of_visible positive visible
  · simp [isBracketed, last]
  · rw [line_eq]
    exact fun same => unsigned (Option.some.inj same)

/-! ## Both kinds of a line -/

theorem dedent_of_command (command : lineKind threshold line = .command) :
    dedent line = line ∧ line.head? = some '@' := by
  have sign := (lineKind_eq_command_iff.mp command).2.2
  cases line with
  | nil => cases sign
  | cons c rest =>
    obtain rfl : c = '@' := Option.some.inj sign
    exact ⟨dedent_of_visible (by decide), rfl⟩

theorem dedent_of_tag (tag : lineKind threshold line = .tag) : dedent line = line := by
  obtain ⟨content, rfl⟩ := isBracketed_iff.mp (lineKind_eq_tag_iff.mp tag).2
  exact dedent_of_visible (by decide)

/-- Dedenting can show that a label begins with the sign of commands, and nothing else. -/
theorem lineKind_dedent_of_label (present : isBlankLine line = false)
    (label : lineKind threshold line = .label) :
    lineKind threshold (dedent line) = .label ∨ lineKind threshold (dedent line) = .command := by
  obtain ⟨outside, -, -, colon⟩ := lineKind_eq_label_iff.mp label
  rw [← getLast?_dedent present] at colon
  have unbracketed : isBracketed (dedent line) = false := by simp [isBracketed, colon]
  by_cases sign : (dedent line).head? = some '@'
  · exact .inr (lineKind_eq_command_iff.mpr ⟨isIndented_dedent present outside, unbracketed, sign⟩)
  · exact .inl
      (lineKind_eq_label_iff.mpr ⟨isIndented_dedent present outside, unbracketed, sign, colon⟩)

/-- Dedenting can show that narration is a tag or a command, but makes no label of it. -/
theorem lineKind_dedent_of_narration (present : isBlankLine line = false)
    (narration : lineKind threshold line = .narration) :
    lineKind threshold (dedent line) = .narration ∨ lineKind threshold (dedent line) = .tag ∨
      lineKind threshold (dedent line) = .command := by
  obtain ⟨outside, -, -, unended⟩ := lineKind_eq_narration_iff.mp narration
  cases kind : lineKind threshold (dedent line) with
  | narration => exact .inl rfl
  | tag => exact .inr (.inl rfl)
  | command => exact .inr (.inr rfl)
  | indented =>
    have indented := lineKind_eq_indented_iff.mp kind
    simp [isIndented_dedent present outside] at indented
  | label =>
    have colon := (lineKind_eq_label_iff.mp kind).2.2.2
    rw [getLast?_dedent present] at colon
    exact absurd colon unended

/-- Only a line with a blank in front changes its kind. -/
theorem exists_blank_of_lineKind_dedent_ne
    (changed : lineKind threshold (dedent line) ≠ lineKind threshold line) :
    ∃ c rest, line = c :: rest ∧ isBlank c = true := by
  cases line with
  | nil => exact absurd rfl changed
  | cons c rest =>
    cases visible : isBlank c with
    | true => exact ⟨c, rest, rfl, visible⟩
    | false => exact absurd (by rw [dedent_of_visible visible]) changed

/-- Dedenting makes no text out of a label, a command or a tag. -/
theorem lineKind_dedent_ne_narration (present : isBlankLine line = false)
    (unspoken : lineKind threshold line ≠ .narration)
    (outside : lineKind threshold line ≠ .indented) :
    lineKind threshold (dedent line) ≠ .narration := by
  cases kind : lineKind threshold line with
  | narration => exact absurd kind unspoken
  | indented => exact absurd kind outside
  | command => rw [(dedent_of_command kind).1, kind]; decide
  | tag => rw [dedent_of_tag kind, kind]; decide
  | label =>
    rcases lineKind_dedent_of_label present kind with label | command
    · rw [label]; decide
    · rw [command]; decide

/-- How the kind of a line with something to see and the kind of the dedented line are related.
The dedented line lacks nothing but blanks in front and shows what there is to see. A tag and a
command are not changed by dedenting; a label stays one or is a command; narration stays
narration or, behind a blank, is a tag or a command; and a dedented line is indented only if the
raw one begins with a tab and another blank. -/
theorem kinds_before_and_after_dedent (positive : 0 < threshold)
    (present : isBlankLine line = false) :
    (isBlankLine (dedent line) = false ∧
      ∃ blanks, line = blanks ++ dedent line ∧ ∀ c ∈ blanks, isBlank c = true) ∧
    (lineKind threshold line = .tag ∨ lineKind threshold line = .command → dedent line = line) ∧
    (lineKind threshold line = .label →
      lineKind threshold (dedent line) = .label ∨ lineKind threshold (dedent line) = .command) ∧
    (lineKind threshold line = .narration →
      lineKind threshold (dedent line) = .narration ∨
        (lineKind threshold (dedent line) = .tag ∨ lineKind threshold (dedent line) = .command) ∧
          ∃ c rest, line = c :: rest ∧ isBlank c = true) ∧
    (lineKind threshold (dedent line) = .indented →
      ∃ c rest, line = '\t' :: c :: rest ∧ isBlank c = true) := by
  refine ⟨⟨isBlankLine_dedent present, exists_append_dedent line⟩, ?_,
    lineKind_dedent_of_label present, fun narration => ?_, fun indented => ?_⟩
  · rintro (tag | command)
    · exact dedent_of_tag tag
    · exact (dedent_of_command command).1
  · refine (lineKind_dedent_of_narration present narration).imp_right fun uncovered => ?_
    have changed : lineKind threshold (dedent line) ≠ lineKind threshold line := by
      rcases uncovered with tag | command
      · rw [tag, narration]; decide
      · rw [command, narration]; decide
    exact ⟨uncovered, exists_blank_of_lineKind_dedent_ne changed⟩
  · exact exists_tab_of_dedent_indented positive present (lineKind_eq_indented_iff.mp indented)

/-- A tag behind two spaces passes for narration. -/
theorem kinds_before_and_after_dedent_tag :
    let line := "  [inn]".toList
    (0 : Int) < 4 ∧ isBlankLine line = false ∧ lineKind 4 line = .narration ∧
      (∃ blanks, line = blanks ++ dedent line ∧ ∀ c ∈ blanks, isBlank c = true) ∧
      lineKind 4 (dedent line) = .tag ∧ ∃ c rest, line = c :: rest ∧ isBlank c = true := by
  intro line
  have positive : (0 : Int) < 4 := by decide
  have present : isBlankLine line = false := by decide
  have narration : lineKind 4 line = .narration := by decide
  have uncovered : lineKind 4 (dedent line) = .tag := by decide
  obtain ⟨⟨-, blanks⟩, -, -, spoken, -⟩ := kinds_before_and_after_dedent positive present
  rcases spoken narration with same | ⟨-, blank⟩
  · cases uncovered.symm.trans same
  · exact ⟨positive, present, narration, blanks, uncovered, blank⟩

/-- A dedented line together with the kind of the raw line, as they come out of a line with
something to see. -/
def IsReading (threshold : Int) (line : String) (kind : LineKind) : Prop :=
  ∃ raw, isBlankLine raw = false ∧ line = String.ofList (dedent raw) ∧
    kind = lineKind threshold raw

namespace IsReading

variable {text : String} {kind : LineKind}

theorem ne_empty (reading : IsReading threshold text kind) : text ≠ "" := by
  obtain ⟨raw, present, rfl, -⟩ := reading
  simpa [← String.toList_inj] using dedent_ne_nil present

theorem head?_of_command (reading : IsReading threshold text kind) (command : kind = .command) :
    text.toList.head? = some '@' := by
  obtain ⟨raw, -, rfl, rfl⟩ := reading
  obtain ⟨same, sign⟩ := dedent_of_command command
  simpa [same] using sign

theorem lineKind_ne_narration (reading : IsReading threshold text kind)
    (unspoken : kind ≠ .narration) (outside : kind ≠ .indented) :
    lineKind threshold text.toList ≠ .narration := by
  obtain ⟨raw, present, rfl, rfl⟩ := reading
  simpa using lineKind_dedent_ne_narration present unspoken outside

end IsReading

end Dialogue.Script
