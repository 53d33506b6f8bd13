/-!
# Lines of a text

A text is cut into lines at every line feed. Text read from a file has its line
breaks made uniform first: a carriage return, with or without a line feed after it,
counts as one line feed.
-/

namespace Dialogue.Text

/-- The lines of a text: one more than it has line feeds. -/
def splitLines : List Char → List (List Char)
  | [] => [[]]
  | c :: rest =>
    if c = '\n' then [] :: splitLines rest
    else match splitLines rest with
      | [] => [[c]]
      | line :: lines => (c :: line) :: lines

theorem splitLines_ne_nil (text : List Char) : splitLines text ≠ [] := by
  cases text with
  | nil => simp [splitLines]
  | cons c rest =>
    simp only [splitLines]
    split
    · simp
    · split <;> simp

@[simp] theorem splitLines_nil : splitLines [] = [[]] := rfl

@[simp] theorem splitLines_lineFeed (rest : List Char) :
    splitLines ('\n' :: rest) = [] :: splitLines rest := by
  simp [splitLines]

/-- Two texts with a line feed between them are cut one after the other. -/
theorem splitLines_append (text rest : List Char) :
    splitLines (text ++ '\n' :: rest) = splitLines text ++ splitLines rest := by
  induction text with
  | nil => simp
  | cons c text ih =>
    by_cases feed : c = '\n'
    · subst feed
      simp [ih]
    · obtain ⟨line, lines, cut⟩ := List.exists_cons_of_ne_nil (splitLines_ne_nil text)
      simp [splitLines, feed, ih, cut]

/-- A text without line feeds is one line. -/
theorem splitLines_of_whole {text : List Char} (whole : '\n' ∉ text) : splitLines text = [text] := by
  induction text with
  | nil => rfl
  | cons c text ih =>
    simp only [List.mem_cons, not_or] at whole
    simp [splitLines, ih whole.2, Ne.symm whole.1]

/-- Cutting a text into lines adds nothing to it. -/
theorem mem_of_mem_splitLines {text line : List Char} {c : Char} (cut : line ∈ splitLines text)
    (member : c ∈ line) : c ∈ text := by
  induction text generalizing line with
  | nil =>
    obtain rfl := List.mem_singleton.mp cut
    exact member
  | cons first text ih =>
    obtain ⟨next, lines, rest_eq⟩ := List.exists_cons_of_ne_nil (splitLines_ne_nil text)
    rw [rest_eq] at ih
    simp only [splitLines, rest_eq] at cut
    split at cut
    next =>
      rcases List.mem_cons.mp cut with rfl | behind
      · cases member
      · exact List.mem_cons_of_mem _ (ih behind member)
    next =>
      rcases List.mem_cons.mp cut with rfl | behind
      · rcases List.mem_cons.mp member with rfl | inside
        · exact List.mem_cons_self
        · exact List.mem_cons_of_mem _ (ih List.mem_cons_self inside)
      · exact List.mem_cons_of_mem _ (ih (List.mem_cons_of_mem _ behind) member)

/-- Lines put together again, with a line feed between neighbours. -/
def joinLines (lines : List (List Char)) : List Char :=
  List.intercalate ['\n'] lines

@[simp] theorem joinLines_nil : joinLines [] = [] := rfl

@[simp] theorem joinLines_singleton (line : List Char) : joinLines [line] = line := by
  simp [joinLines]

@[simp] theorem joinLines_cons_cons (first second : List Char) (rest : List (List Char)) :
    joinLines (first :: second :: rest) = first ++ '\n' :: joinLines (second :: rest) := by
  simp [joinLines]

/-- Cutting a text into lines loses nothing of it. -/
@[simp] theorem joinLines_splitLines (text : List Char) : joinLines (splitLines text) = text := by
  induction text with
  | nil => rfl
  | cons c rest ih =>
    obtain ⟨line, lines, cut⟩ := List.exists_cons_of_ne_nil (splitLines_ne_nil rest)
    by_cases feed : c = '\n'
    · subst feed
      rw [splitLines_lineFeed, cut, joinLines_cons_cons, ← cut, ih, List.nil_append]
    · rw [splitLines, if_neg feed, cut]
      rw [cut] at ih
      cases lines with
      | nil => simpa using ih
      | cons next lines => simpa using ih

/-- Lines that were put together are cut apart again, and each of them where it has line feeds
of its own. -/
theorem splitLines_joinLines {lines : List (List Char)} (some_line : lines ≠ []) :
    splitLines (joinLines lines) = lines.flatMap splitLines := by
  induction lines with
  | nil => exact absurd rfl some_line
  | cons line lines ih =>
    cases lines with
    | nil => simp
    | cons next lines =>
      rw [joinLines_cons_cons, splitLines_append, ih (by simp)]
      rfl

/-- A line without the carriage returns and line feeds at its end. -/
def trimLineEnd (line : List Char) : List Char :=
  (line.reverse.dropWhile fun c => c == '\r' || c == '\n').reverse

/-- What is left of a line is its beginning. -/
theorem isPrefix_trimLineEnd (line : List Char) : trimLineEnd line <+: line := by
  rw [trimLineEnd, ← List.reverse_suffix, List.reverse_reverse]
  exact List.dropWhile_suffix _

@[simp] theorem trimLineEnd_nil : trimLineEnd [] = [] := rfl

/-- A line break at the end of a line does not count. -/
@[simp] theorem trimLineEnd_append_break {c : Char} (line : List Char)
    (isBreak : c = '\r' ∨ c = '\n') : trimLineEnd (line ++ [c]) = trimLineEnd line := by
  rcases isBreak with rfl | rfl <;> simp [trimLineEnd]

/-- What stands in front of a line that begins with something else is left as it is. -/
theorem trimLineEnd_cons_of_unbroken {c : Char} (rest : List Char)
    (unbroken : c ≠ '\r' ∧ c ≠ '\n') : trimLineEnd (c :: rest) = c :: trimLineEnd rest := by
  rw [trimLineEnd, trimLineEnd, List.reverse_cons, List.dropWhile_append]
  split
  next trimmed =>
    rw [List.isEmpty_iff.mp trimmed]
    simp [unbroken]
  next => simp

/-- A line that ends in something else is left as it is. -/
theorem trimLineEnd_of_unbroken {line : List Char}
    (unbroken : ∀ c, line.getLast? = some c → c ≠ '\r' ∧ c ≠ '\n') : trimLineEnd line = line := by
  rw [trimLineEnd, List.reverse_eq_iff]
  cases reversed : line.reverse with
  | nil => rfl
  | cons c rest =>
    obtain ⟨noReturn, noFeed⟩ := unbroken c (by rw [← List.head?_reverse, reversed]; rfl)
    simp [noReturn, noFeed]

/-- Uniform line breaks: a carriage return, alone or before a line feed, becomes a line
feed. -/
def uniformBreaks : List Char → List Char
  | [] => []
  | '\r' :: '\n' :: rest => '\n' :: uniformBreaks rest
  | c :: rest => (if c = '\r' then '\n' else c) :: uniformBreaks rest

end Dialogue.Text
