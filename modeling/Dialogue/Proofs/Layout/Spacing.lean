import Dialogue.Proofs.Run.Numbering
import Dialogue.Proofs.Run.Passive
import Mathlib.Logic.Relation

/-!
# Scripts that differ in their spacing

Blank lines, the breaks at the ends of lines and the way in which a line is indented make no
difference to what a script says. `Respacing` lists the changes; each of them leaves the
contents of the lines as they are, and so any number of them leaves the result of a compile
as it is.
-/

namespace Dialogue

open Script Text

/-- A change to the spacing of lines, in one direction. -/
inductive Respacing (threshold : Int) : List String → List String → Prop where
  /-- A blank line is put in. -/
  | blankLine (before after : List String) {line : String}
      (blank : isBlankLine line.toList = true) :
      Respacing threshold (before ++ after) (before ++ line :: after)
  /-- Line breaks are put behind a line. -/
  | lineEnd (before after : List String) (line : String) {breaks : String}
      (only : ∀ c ∈ breaks.toList, c = '\r' ∨ c = '\n') :
      Respacing threshold (before ++ line :: after) (before ++ (line ++ breaks) :: after)
  /-- The tab that indents a line is replaced by other blanks, as many as count. -/
  | indentation (before after : List String) {line blanks : String}
      (visible : line.toList.head?.map isBlank = some false)
      (blank : isBlankLine blanks.toList = true) (wide : threshold ≤ blanks.length)
      (untabbed : blanks.toList.head? ≠ some '\t') :
      Respacing threshold (before ++ ("\t" ++ line) :: after) (before ++ (blanks ++ line) :: after)

/-! ## Texts without their spacing -/

section Texts

variable {threshold : Int} {front line : List Char}

theorem trimLineEnd_append_breaks {breaks : List Char} (line : List Char)
    (only : ∀ c ∈ breaks, c = '\r' ∨ c = '\n') :
    trimLineEnd (line ++ breaks) = trimLineEnd line := by
  induction breaks generalizing line with
  | nil => rw [List.append_nil]
  | cons c breaks ih =>
    have first := only c List.mem_cons_self
    have rest := ih (line ++ [c]) fun other member => only other (List.mem_cons_of_mem _ member)
    rw [List.append_cons, rest, trimLineEnd_append_break line first]

/-- What stands in front of something that is left stays there. -/
theorem trimLineEnd_append (front : List Char) (left : trimLineEnd line ≠ []) :
    trimLineEnd (front ++ line) = front ++ trimLineEnd line := by
  have present : (line.reverse.dropWhile fun c => c == '\r' || c == '\n').isEmpty = false := by
    simpa [trimLineEnd] using left
  rw [trimLineEnd, List.reverse_append, List.dropWhile_append, present]
  simp [trimLineEnd]

/-- A blank line is blank without its end. -/
theorem isBlankLine_trimLineEnd (blank : isBlankLine line = true) :
    isBlankLine (trimLineEnd line) = true := by
  rw [isBlankLine_eq_true] at blank ⊢
  intro c member
  exact blank c ((isPrefix_trimLineEnd line).subset member)

/-- A line that begins with something to see still does without its end. -/
theorem exists_trimLineEnd {c : Char} (rest : List Char) (visible : isBlank c = false) :
    ∃ tail, trimLineEnd (c :: rest) = c :: tail := by
  refine ⟨trimLineEnd rest, trimLineEnd_cons_of_unbroken rest ⟨?_, ?_⟩⟩
  · rintro rfl
    simp at visible
  · rintro rfl
    simp at visible

theorem trimStart_append_blank (blank : isBlankLine front = true) (line : List Char) :
    trimStart (front ++ line) = trimStart line := by
  induction front with
  | nil => rfl
  | cons c front ih =>
    rw [isBlankLine_eq_true] at blank
    have first := blank c List.mem_cons_self
    have rest : isBlankLine front = true :=
      isBlankLine_eq_true.mpr fun other member => blank other (List.mem_cons_of_mem _ member)
    rw [List.cons_append, trimStart_cons_of_blank first, ih rest]

variable (positive : 0 < threshold) (blank : isBlankLine front = true)
  (wide : threshold ≤ front.length) (untabbed : front.head? ≠ some '\t')
include positive blank wide untabbed

/-- Enough blanks indent a line, and they are all taken away again. -/
theorem indented_of_blanks {c : Char} (tail : List Char) (visible : isBlank c = false) :
    isIndented threshold (front ++ c :: tail) = true ∧ dedent (front ++ c :: tail) = c :: tail := by
  cases front with
  | nil =>
    simp only [List.length_nil] at wide
    omega
  | cons first others =>
    have other : first ≠ '\t' := by
      rintro rfl
      exact untabbed rfl
    have all := isBlankLine_eq_true.mp blank
    constructor
    · have counted : ((first :: others) ++ c :: tail).takeWhile isBlank = first :: others := by
        rw [List.takeWhile_append_of_pos all]
        simp [visible]
      rw [List.cons_append] at counted ⊢
      rw [isIndented]
      · rw [counted, Bool.or_eq_true, decide_eq_true_eq]
        exact .inr wide
      · exact fun impossible => by cases impossible
      · exact fun rest same => other (List.cons.inj same).1
    · have trimmed := trimStart_append_blank blank (c :: tail)
      rw [trimStart_cons_of_not_blank visible, List.cons_append] at trimmed
      rw [List.cons_append, dedent]
      · exact trimmed
      · exact fun rest same => other (List.cons.inj same).1

end Texts

/-! ## Lines without their spacing -/

section Lines

variable {threshold : Int}

theorem contents_blank {line : String} (blank : isBlankLine line.toList = true) :
    contents threshold [line] = [] := by
  simp [contents, reading?_of_blank 0 (isBlankLine_trimLineEnd blank)]

theorem reading?_append_breaks {breaks : String} (line : String)
    (only : ∀ c ∈ breaks.toList, c = '\r' ∨ c = '\n') :
    reading? threshold 0 (line ++ breaks) = reading? threshold 0 line := by
  simp only [reading?, String.toList_append, trimLineEnd_append_breaks _ only]

/-- A line is read alike behind a tab and behind other blanks that are as many as count. -/
theorem reading?_indentation (positive : 0 < threshold) {line blanks : String}
    (visible : line.toList.head?.map isBlank = some false)
    (blank : isBlankLine blanks.toList = true) (wide : threshold ≤ blanks.length)
    (untabbed : blanks.toList.head? ≠ some '\t') :
    reading? threshold 0 ("\t" ++ line) = reading? threshold 0 (blanks ++ line) := by
  obtain ⟨c, first, visible⟩ := Option.map_eq_some_iff.mp visible
  obtain ⟨rest, line_eq⟩ := List.head?_eq_some_iff.mp first
  obtain ⟨tail, trimmed⟩ := exists_trimLineEnd rest visible
  have wide : threshold ≤ blanks.toList.length := by rwa [String.length_toList]
  obtain ⟨indented, dedented⟩ := indented_of_blanks positive blank wide untabbed tail visible
  have left : trimLineEnd (c :: rest) ≠ [] := by simp [trimmed]
  have present (front : List Char) : isBlankLine (front ++ c :: tail) = false := by
    simp [isBlankLine, visible]
  have kind : lineKind threshold (blanks.toList ++ c :: tail) = .indented :=
    lineKind_eq_indented_iff.mpr indented
  have kind_tab : lineKind threshold ('\t' :: c :: tail) = .indented :=
    lineKind_eq_indented_iff.mpr isIndented_tab
  simp only [reading?, String.toList_append, line_eq, trimLineEnd_append _ left, trimmed,
    present, kind, dedented]
  simp [kind_tab]

/-- A change to the spacing changes nothing about the contents. -/
theorem contents_of_respacing (positive : 0 < threshold) {lines lines' : List String}
    (respaced : Respacing threshold lines lines') :
    contents threshold lines = contents threshold lines' := by
  cases respaced with
  | blankLine before after blank =>
    rw [← List.singleton_append, contents_append, contents_append, contents_append,
      contents_blank blank, List.nil_append]
  | lineEnd before after line only =>
    simp only [contents, List.filterMap_append, List.filterMap_cons,
      reading?_append_breaks line only]
  | indentation before after visible blank wide untabbed =>
    simp only [contents, List.filterMap_append, List.filterMap_cons,
      reading?_indentation positive visible blank wide untabbed]

/-- And so do any number of them, in both directions. -/
theorem contents_of_respacings (positive : 0 < threshold) {lines lines' : List String}
    (respaced : Relation.EqvGen (Respacing threshold) lines lines') :
    contents threshold lines = contents threshold lines' := by
  induction respaced with
  | rel lines lines' once => exact contents_of_respacing positive once
  | refl lines => rfl
  | symm lines lines' _ ih => exact ih.symm
  | trans lines between lines' _ _ first second => exact first.trans second

end Lines

/-! ## Scripts with other line breaks -/

/-- A script with a carriage return in front of every line feed. -/
def withReturns (script : String) : String :=
  String.ofList (script.toList.flatMap fun c => if c = '\n' then ['\r', '\n'] else [c])

/-- The lines of a script with the line feeds behind them. There is no line behind the last line
feed if nothing stands there. -/
def linesWithFeeds (script : String) : List String :=
  (scriptLines script).dropLast.map (· ++ "\n") ++
    (scriptLines script).getLast?.toList.filter (· ≠ "")

/-- Lines but for the last, each with something behind it, and the last. -/
theorem splitLines_returns (text : List Char) :
    splitLines (text.flatMap fun c => if c = '\n' then ['\r', '\n'] else [c]) =
      (splitLines text).dropLast.map (· ++ ['\r']) ++ (splitLines text).getLast?.toList := by
  induction text with
  | nil => rfl
  | cons c text ih =>
    obtain ⟨line, lines, cut⟩ := List.exists_cons_of_ne_nil (splitLines_ne_nil text)
    rw [cut] at ih
    by_cases feed : c = '\n'
    · subst feed
      simp [splitLines, ih, cut, List.getLast?_cons]
    · cases lines with
      | nil => simpa [splitLines, feed, cut] using by rw [ih]; rfl
      | cons next lines => simp [splitLines, feed, cut, ih, List.getLast?_cons]

theorem scriptLines_withReturns (script : String) :
    scriptLines (withReturns script) =
      (scriptLines script).dropLast.map (· ++ "\r") ++ (scriptLines script).getLast?.toList := by
  have returned : String.ofList ∘ (· ++ ['\r']) = (· ++ "\r") ∘ String.ofList := by
    funext line
    rw [← String.toList_inj]
    simp
  simp only [scriptLines, withReturns, String.toList_ofList, splitLines_returns, List.map_append,
    List.map_map, List.map_dropLast, List.getLast?_map, returned]
  cases (splitLines script.toList).getLast? <;> rfl

/-- The lines with their line feeds are the whole script. -/
theorem flatMap_linesWithFeeds (script : String) :
    (linesWithFeeds script).flatMap String.toList = script.toList := by
  have joined (lines : List String) :
      (lines.dropLast.map (· ++ "\n") ++ lines.getLast?.toList.filter (· ≠ "")).flatMap
        String.toList = joinLines (lines.map String.toList) := by
    induction lines with
    | nil => rfl
    | cons line lines ih =>
      cases lines with
      | nil => by_cases empty : line = "" <;> simp [empty]
      | cons next lines => simpa [List.getLast?_cons] using ih
  rw [linesWithFeeds, joined, scriptLines, List.map_map]
  simp

section Scripts

variable {threshold : Int} {breaks : String} (only : ∀ c ∈ breaks.toList, c = '\r' ∨ c = '\n')
include only

theorem contents_map_append (lines : List String) :
    contents threshold (lines.map (· ++ breaks)) = contents threshold lines := by
  rw [contents, List.filterMap_map]
  apply List.filterMap_congr
  intro line _
  exact reading?_append_breaks line only

/-- It does not count what breaks stand behind all lines but the last. -/
theorem contents_broken (lines : List String) :
    contents threshold (lines.dropLast.map (· ++ breaks) ++ lines.getLast?.toList) =
      contents threshold lines := by
  rw [contents_append, contents_map_append only, ← contents_append]
  cases last : lines.getLast? with
  | none => simp [List.getLast?_eq_none_iff.mp last]
  | some line => rw [Option.toList_some, List.dropLast_append_getLast? line last]

end Scripts

/-- An empty line has no contents. -/
theorem contents_filter_ne_empty (threshold : Int) (lines : List String) :
    contents threshold (lines.filter (· ≠ "")) = contents threshold lines := by
  rw [contents, List.filterMap_filter]
  apply List.filterMap_congr
  intro line _
  by_cases empty : line = ""
  · subst empty
    simpa using (@reading?_of_blank threshold "" 0 rfl).symm
  · simp [empty]

theorem contents_linesWithFeeds (threshold : Int) (script : String) :
    contents threshold (linesWithFeeds script) = contents threshold (scriptLines script) := by
  rw [linesWithFeeds, contents_append, contents_filter_ne_empty, ← contents_append,
    contents_broken (by simp)]

/-! ## Compiles -/

namespace Run

variable {σ : Type} {observer : Observer σ}

/-- Lines with the same contents compile to the same graph. -/
theorem compileLines_of_contents {config : Config} {lines lines' : List String}
    (same : contents config.indentThreshold lines = contents config.indentThreshold lines') :
    compileLines config lines = compileLines config lines' := by
  obtain ⟨run, run', graph, compiled, compiled', -⟩ := compile_of_contents same
  rw [compileLines, compileLines, compiled, compiled']

/-- How lines are spaced makes no difference. Lines that differ in blank lines, in the breaks at
their ends and in the blanks that indent them compile to the same graph, with the same
entries refused, before every observer that leaves the settings alone once the compile has
begun; the threshold that counts is the one that it has left. And a script is compiled alike
with carriage returns in front of its line feeds and as lines with their line feeds. -/
theorem compile_of_respacing (passive : observer.IsPassive) (config : Config) (state : σ) :
    (∀ lines lines', Relation.EqvGen
        (Respacing (start observer config state).config.indentThreshold) lines lines' →
      ∃ run run' graph, compile observer config state lines = (run, .ok graph) ∧
        compile observer config state lines' = (run', .ok graph) ∧
        run.session.dropped = run'.session.dropped) ∧
    ∀ script, Dialogue.compile config (withReturns script) = Dialogue.compile config script ∧
      compileLines config (linesWithFeeds script) = Dialogue.compile config script ∧
      compileLines config (linesWithFeeds (withReturns script)) =
        Dialogue.compile config script := by
  constructor
  · intro lines lines' respaced
    have positive : (0 : Int) < (start observer config state).config.indentThreshold := by
      exact_mod_cast (start observer config state).config.indentThreshold_pos
    have same := contents_of_respacings positive respaced
    -- Before the observer a compile is the one that nobody watches, under the settings left to it.
    obtain ⟨run, run', graph, compiled, compiled', alike⟩ :=
      @compile_of_contents (config.hearing (start observer config state).config) lines lines' same
    obtain ⟨answer, session⟩ := compile_hearing passive config state lines
    obtain ⟨answer', session'⟩ := compile_hearing passive config state lines'
    rw [compiled] at answer session
    rw [compiled'] at answer' session'
    refine ⟨_, _, graph, Prod.ext rfl answer, Prod.ext rfl answer', ?_⟩
    have dropped : (run.atLine 0).session.dropped = (run'.atLine 0).session.dropped := by
      rw [alike]
    rw [session, session']
    exact dropped
  · intro script
    have returned : contents config.indentThreshold (scriptLines (withReturns script)) =
        contents config.indentThreshold (scriptLines script) := by
      rw [scriptLines_withReturns, contents_broken (by simp)]
    have fed := contents_linesWithFeeds config.indentThreshold script
    have both := contents_linesWithFeeds config.indentThreshold (withReturns script)
    exact ⟨compileLines_of_contents returned, compileLines_of_contents fed,
      compileLines_of_contents (both.trans returned)⟩

/-- A blank line put in, a carriage return behind a line, and four blanks in place of a tab. -/
theorem compile_of_respacing_block :
    Observer.silent.IsPassive ∧
      Relation.EqvGen (Respacing (start .silent {} ()).config.indentThreshold)
        ["Alice:", "Hi", "\tYes", "\t[yes]"] ["Alice:", "", "Hi", "\tYes\r", " \t  [yes]"] ∧
      ∃ run run' graph,
        compile .silent {} () ["Alice:", "Hi", "\tYes", "\t[yes]"] = (run, .ok graph) ∧
        compile .silent {} () ["Alice:", "", "Hi", "\tYes\r", " \t  [yes]"] = (run', .ok graph) ∧
        run.session.dropped = run'.session.dropped := by
  have blank : Respacing 4 ["Alice:", "Hi", "\tYes", "\t[yes]"]
      ["Alice:", "", "Hi", "\tYes", "\t[yes]"] :=
    .blankLine ["Alice:"] ["Hi", "\tYes", "\t[yes]"] (by decide)
  have ended : Respacing 4 ["Alice:", "", "Hi", "\tYes", "\t[yes]"]
      ["Alice:", "", "Hi", "\tYes\r", "\t[yes]"] :=
    @Respacing.lineEnd 4 ["Alice:", "", "Hi"] ["\t[yes]"] "\tYes" "\r" (by simp)
  have indented : Respacing 4 ["Alice:", "", "Hi", "\tYes\r", "\t[yes]"]
      ["Alice:", "", "Hi", "\tYes\r", " \t  [yes]"] :=
    @Respacing.indentation 4 ["Alice:", "", "Hi", "\tYes\r"] [] "[yes]" " \t  " (by decide)
      (by decide) (by decide) (by decide)
  have respaced := (Relation.EqvGen.rel _ _ blank).trans _ _ _
    ((Relation.EqvGen.rel _ _ ended).trans _ _ _ (.rel _ _ indented))
  exact ⟨Observer.silent_isPassive, respaced,
    (compile_of_respacing Observer.silent_isPassive {} ()).1 _ _ respaced⟩

end Run

end Dialogue
