import Dialogue.Proofs.Run.Journal
import Dialogue.Proofs.Run.Safety

/-!
# Visits

A line is handled once in each phase that it comes to, and the end of a script is handled in
the phase that is open then. A history is the list of these visits, each with what the
observer was told during it. `history_induction` carries a law from one visit to the
history of a whole compile.
-/

namespace Dialogue

open Script Text

/-- What is handled at one go: a dedented line in a phase, or the end of the script. -/
structure Visit where
  phase : Phase
  /-- The dedented line and its kind under the settings of that moment; none at the end. -/
  line : Option (String × LineKind)
  told : List Notice
  deriving DecidableEq, Repr

namespace Run

variable {σ : Type} (observer : Observer σ)

/-- What was told between a run and a later one. -/
def toldUntil (run next : Run (σ × List Notice)) : List Notice :=
  next.journal.drop run.journal.length

theorem toldUntil_eq {run next : Run (σ × List Notice)} {told : List Notice}
    (journal_eq : next.journal = run.journal ++ told) : run.toldUntil next = told := by
  rw [toldUntil, journal_eq, List.drop_left]

/-- The visit of a line that leads from one run to the next. -/
def visit (run next : Run (σ × List Notice)) (line : String) : Visit where
  phase := run.session.phase
  line := some (line, run.innerKind line)
  told := run.toldUntil next

/-- The visit of the end of a script. -/
def lastVisit (run next : Run (σ × List Notice)) : Visit where
  phase := run.session.phase
  line := none
  told := run.toldUntil next

/-- The visits of a dedented line that was of a kind before. -/
def visits (run : Run (σ × List Notice)) (line : String) (kind : LineKind) : List Visit :=
  match _handed : step observer.recording run line kind with
  | (next, .handOn phase) => run.visit next line :: visits (next.withPhase phase) line kind
  | (next, _) => [run.visit next line]
termination_by rank kind run.session.phase
decreasing_by exact rank_lt_of_step observer.recording _handed

/-- The visits of a raw line; a blank line is not handled. -/
def visitsOfLine (run : Run (σ × List Notice)) (raw : String) : List Visit :=
  let line := trimLineEnd raw.toList
  if isBlankLine line then []
  else
    visits observer run.atNextLine (String.ofList (dedent line))
      (lineKind run.config.indentThreshold line)

/-- The visits of lines that are read one after the other. -/
def visitsOfLines (run : Run (σ × List Notice)) : List String → List Visit
  | [] => []
  | raw :: rest =>
    visitsOfLine observer run raw ++ visitsOfLines (readLine observer.recording run raw).1 rest

/-- All visits of a compile. -/
def history (config : Config) (state : σ) (lines : List String) : List Visit :=
  let begun := start observer.recording config (state, [])
  let read := (readAll observer.recording begun lines).1
  visitsOfLines observer begun lines ++ [read.lastVisit (close observer.recording read).1]

variable {observer} {run next : Run (σ × List Notice)} {line : String} {kind : LineKind}

theorem visits_of_consumed (consumed : step observer.recording run line kind = (next, .consumed)) :
    visits observer run line kind = [run.visit next line] := by
  rw [visits]
  split <;> simp_all

theorem visits_of_handOn {phase : Phase}
    (handed : step observer.recording run line kind = (next, .handOn phase)) :
    visits observer run line kind =
      run.visit next line :: visits observer (next.withPhase phase) line kind := by
  rw [visits]
  split <;> simp_all

/-! ## Laws of histories -/

section Laws

variable (Law : List Visit → Run (σ × List Notice) → Prop)
  (counted : ∀ {past run}, Law past run → Law past run.atNextLine)
  (entered : ∀ {past run}, Law past run → ∀ phase, Law past (run.withPhase phase))
  (handled : ∀ {past run next line kind outcome}, Law past run →
    Move observer.recording line kind run next outcome → (∀ fault, outcome ≠ .failed fault) →
    Law (past ++ [run.visit next line]) next)
include entered handled

theorem law_of_visits {past : List Visit} (law : Law past run)
    (fed : feed observer.recording run line kind = (next, none)) :
    Law (past ++ visits observer run line kind) next := by
  -- The visits follow `feed`, so the rank of the run carries the induction here too.
  induction measure : rank kind run.session.phase using Nat.strongRecOn
    generalizing past run with
  | ind _ ih =>
    cases step_eq : step observer.recording run line kind with
    | mk between outcome =>
      have move := move_of_step step_eq
      cases outcome with
      | consumed =>
        rw [feed_of_consumed _ step_eq] at fed
        obtain ⟨rfl, -⟩ := Prod.mk.inj fed
        rw [visits_of_consumed step_eq]
        exact handled law move (by simp)
      | failed fault =>
        rw [feed_of_failed _ step_eq] at fed
        cases (Prod.mk.inj fed).2
      | handOn phase =>
        rw [feed_of_handOn _ step_eq] at fed
        have lower : rank kind phase < rank kind run.session.phase :=
          rank_lt_of_step observer.recording step_eq
        have reached := entered (handled law move (by simp)) phase
        have := ih _ (measure ▸ lower) reached fed rfl
        rw [visits_of_handOn step_eq]
        simpa using this

include counted

theorem law_of_visitsOfLine {past : List Visit} (law : Law past run) {raw : String}
    (read : readLine observer.recording run raw = (next, none)) :
    Law (past ++ visitsOfLine observer run raw) next := by
  cases present : isBlankLine (trimLineEnd raw.toList) with
  | true =>
    rw [readLine_of_blank present] at read
    obtain ⟨rfl, -⟩ := Prod.mk.inj read
    simpa [visitsOfLine, present] using counted law
  | false =>
    rw [readLine_of_present present] at read
    simpa [visitsOfLine, present] using law_of_visits Law entered handled (counted law) read

theorem law_of_visitsOfLines {past : List Visit} (law : Law past run) {lines : List String}
    (readAll_eq : readAll observer.recording run lines = (next, none)) :
    Law (past ++ visitsOfLines observer run lines) next := by
  induction lines generalizing past run with
  | nil =>
    obtain ⟨rfl, -⟩ := Prod.mk.inj readAll_eq
    simpa [visitsOfLines] using law
  | cons raw rest ih =>
    simp only [readAll] at readAll_eq
    split at readAll_eq
    next => cases (Prod.mk.inj readAll_eq).2
    next between read =>
      have := ih (law_of_visitsOfLine Law counted entered handled law read) readAll_eq
      simpa [visitsOfLines, read] using this

/-- A law that holds when a compile begins and is kept by every move, by counting lines, by changes
of phase and by the end of the script, holds of all visits of the compile. -/
theorem history_induction
    (ended : ∀ {past run next}, Law past run → Closing observer.recording run next →
      Law (past ++ [run.lastVisit next]) next)
    {config : Config} {state : σ} (lines : List String)
    (begun : Law [] (start observer.recording config (state, []))) :
    ∃ closed : Run (σ × List Notice),
      compile observer.recording config (state, []) lines =
        ((result observer.recording closed).1, .ok closed.session.assembly.graph) ∧
      Law (history observer config state lines) closed := by
  obtain ⟨read, closed, readAll_eq, close_eq, -, compiled⟩ :=
    exists_compile observer.recording config (state, []) lines
  refine ⟨closed, compiled, ?_⟩
  have law := ended (law_of_visitsOfLines Law counted entered handled begun readAll_eq)
    (closing_of_close close_eq)
  simpa [history, readAll_eq, close_eq] using law

end Laws

end Run

end Dialogue
