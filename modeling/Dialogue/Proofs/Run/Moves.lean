import Dialogue.Compile.Basic

/-!
# What a line can do

A line that is fed to a run makes one move in each phase that it visits. `Move` lists the
moves with their conditions, so that a law about runs is proved by one case for each
move, and `feed_induction`, `readAll_induction` and `compile_eq_ok_iff` carry such a law
from one move to a line, to a list of lines and to a whole compile.
-/

namespace Dialogue.Run

open Script Text

variable {σ : Type} (observer : Observer σ)

/-- The kind that a dedented line has in a choice block. -/
def innerKind (run : Run σ) (line : String) : LineKind :=
  lineKind run.config.indentThreshold line.toList

/-- The moves of a dedented line that was of a kind before: the run before it, the run after
it, and what has become of the line. -/
inductive Move (line : String) (kind : LineKind) (run : Run σ) : Run σ → Outcome → Prop where
  /-- Outside of a choice block the kind of the raw line makes it text. -/
  | gather (phase : run.session.phase ≠ .choice) (kind_eq : kind = .narration) :
      Move line kind run (gather observer run line) .consumed
  /-- In a choice block the kind of the dedented line makes it text. -/
  | gatherChoice (phase : run.session.phase = .choice) (inner : run.innerKind line = .narration) :
      Move line kind run (gather observer run line) .consumed
  | label (phase : run.session.phase = .idle) (kind_eq : kind = .label) :
      Move line kind run (takeLabel observer run line) .consumed
  | command {command : Command} (phase : run.session.phase = .idle)
      (kind_eq : kind = .command) (parsed : command? line.toList = some command) :
      Move line kind run (takeCommand observer run command) .consumed
  | unfinished (phase : run.session.phase = .idle) (kind_eq : kind = .command)
      (parsed : command? line.toList = none) :
      Move line kind run run (.failed .unfinishedCommand)
  | tag (phase : run.session.phase = .idle) (kind_eq : kind = .tag) :
      Move line kind run (takeTag observer run line) .consumed
  | openBlock (phase : run.session.phase = .idle) (kind_eq : kind = .indented) :
      Move line kind run (tell observer run .blockOpened) (.handOn .choice)
  | endNode {next : Run σ} (phase : run.session.phase = .dialogue) (kind_ne : kind ≠ .narration)
      (ended : endNode observer run = (next, none)) :
      Move line kind run next (.handOn .idle)
  | nodeFailed {next : Run σ} {fault : Fault} (phase : run.session.phase = .dialogue)
      (kind_ne : kind ≠ .narration) (ended : Run.endNode observer run = (next, some fault)) :
      Move line kind run next (.failed fault)
  /-- A tag in a choice block ends a choice. -/
  | target (phase : run.session.phase = .choice) (inner : run.innerKind line = .tag)
      (kind_eq : kind = .indented) :
      Move line kind run (endChoice observer (takeTarget observer run line)) .consumed
  /-- A tag that is not indented ends a choice and its block. -/
  | targetBehind (phase : run.session.phase = .choice) (inner : run.innerKind line = .tag)
      (kind_ne : kind ≠ .indented) :
      Move line kind run
        (endBlock observer (endChoice observer (takeTarget observer run line))) (.handOn .idle)
  /-- An indented line that is neither text nor a tag has no meaning in a choice block. -/
  | skip (phase : run.session.phase = .choice) (inner_ne : run.innerKind line ≠ .narration)
      (inner_ne_tag : run.innerKind line ≠ .tag) (kind_eq : kind = .indented) :
      Move line kind run run .consumed
  | endBlock (phase : run.session.phase = .choice) (inner_ne : run.innerKind line ≠ .narration)
      (inner_ne_tag : run.innerKind line ≠ .tag) (kind_ne : kind ≠ .indented) :
      Move line kind run (endBlock observer (endChoice observer run)) (.handOn .idle)

variable {observer} {line : String} {kind : LineKind} {run next : Run σ}

/-- Every step is one of the moves. -/
theorem move_of_step {outcome : Outcome} (step_eq : step observer run line kind = (next, outcome)) :
    Move observer line kind run next outcome := by
  rw [step] at step_eq
  split at step_eq
  next phase =>
    cases kind with
    | label =>
      obtain ⟨rfl, rfl⟩ := Prod.mk.inj step_eq
      exact .label phase rfl
    | narration =>
      obtain ⟨rfl, rfl⟩ := Prod.mk.inj step_eq
      exact .gather (by simp [phase]) rfl
    | command =>
      simp only [idleStep] at step_eq
      split at step_eq
      next unparsed =>
        obtain ⟨rfl, rfl⟩ := Prod.mk.inj step_eq
        exact .unfinished phase rfl unparsed
      next command parsed =>
        obtain ⟨rfl, rfl⟩ := Prod.mk.inj step_eq
        exact .command phase rfl parsed
    | tag =>
      obtain ⟨rfl, rfl⟩ := Prod.mk.inj step_eq
      exact .tag phase rfl
    | indented =>
      obtain ⟨rfl, rfl⟩ := Prod.mk.inj step_eq
      exact .openBlock phase rfl
  next phase =>
    rw [dialogueStep] at step_eq
    split at step_eq
    next spoken =>
      obtain ⟨rfl, rfl⟩ := Prod.mk.inj step_eq
      exact .gather (by simp [phase]) spoken
    next unspoken =>
      split at step_eq
      next failed =>
        obtain ⟨rfl, rfl⟩ := Prod.mk.inj step_eq
        exact .nodeFailed phase unspoken failed
      next ended =>
        obtain ⟨rfl, rfl⟩ := Prod.mk.inj step_eq
        exact .endNode phase unspoken ended
  next phase =>
    simp only [choiceStep] at step_eq
    split at step_eq
    next spoken =>
      obtain ⟨rfl, rfl⟩ := Prod.mk.inj step_eq
      exact .gatherChoice phase spoken
    next unspoken =>
      split at step_eq
      next tagged =>
        split at step_eq
        next inside =>
          obtain ⟨rfl, rfl⟩ := Prod.mk.inj step_eq
          exact .target phase tagged inside
        next outside =>
          obtain ⟨rfl, rfl⟩ := Prod.mk.inj step_eq
          exact .targetBehind phase tagged outside
      next untagged =>
        split at step_eq
        next inside =>
          obtain ⟨rfl, rfl⟩ := Prod.mk.inj step_eq
          exact .skip phase unspoken untagged inside
        next outside =>
          obtain ⟨rfl, rfl⟩ := Prod.mk.inj step_eq
          exact .endBlock phase unspoken untagged outside

theorem step_of_idle (phase : run.session.phase = .idle) :
    step observer run line kind = idleStep observer run line kind := by
  rw [step, phase]

theorem step_of_dialogue (phase : run.session.phase = .dialogue) :
    step observer run line kind = dialogueStep observer run line kind := by
  rw [step, phase]

theorem step_of_choice (phase : run.session.phase = .choice) :
    step observer run line kind = choiceStep observer run line kind := by
  rw [step, phase]

/-! ## From moves to lines -/

/-- What holds before a line, is kept whenever the line is handed on, and leads to a result
when the line is used up or fails, leads to that result for the whole line. -/
theorem feed_induction (Before : Run σ → Prop) (After : Run σ → Option Fault → Prop)
    (consumed : ∀ run next, Before run → Move observer line kind run next .consumed →
      After next none)
    (failed : ∀ run next fault, Before run → Move observer line kind run next (.failed fault) →
      After next (some fault))
    (handed : ∀ run next phase, Before run → Move observer line kind run next (.handOn phase) →
      Before (next.withPhase phase))
    (run : Run σ) (before : Before run) :
    After (feed observer run line kind).1 (feed observer run line kind).2 := by
  -- Each handing on lowers the rank, so the rank of the run carries the induction.
  induction measure : rank kind run.session.phase using Nat.strongRecOn
    generalizing run with
  | ind _ ih =>
    cases step_eq : step observer run line kind with
    | mk next outcome =>
      have move := move_of_step step_eq
      cases outcome with
      | consumed =>
        rw [feed_of_consumed observer step_eq]
        exact consumed run next before move
      | failed fault =>
        rw [feed_of_failed observer step_eq]
        exact failed run next fault before move
      | handOn phase =>
        rw [feed_of_handOn observer step_eq]
        have lower : rank kind phase < rank kind run.session.phase :=
          rank_lt_of_step observer step_eq
        exact ih _ (measure ▸ lower) (next.withPhase phase)
          (handed run next phase before move) rfl

/-- The same for lines that are fed without a fault. -/
theorem feed_keeps (Before After : Run σ → Prop)
    (consumed : ∀ run next, Before run → Move observer line kind run next .consumed → After next)
    (handed : ∀ run next phase, Before run → Move observer line kind run next (.handOn phase) →
      Before (next.withPhase phase))
    (before : Before run) (fed : feed observer run line kind = (next, none)) : After next := by
  have kept : (feed observer run line kind).2 = none → After (feed observer run line kind).1 := by
    refine feed_induction Before (fun next fault => fault = none → After next) ?_ ?_ handed run
      before
    · intro run next before move _
      exact consumed run next before move
    · intro run next fault _ _ faultless
      cases faultless
  rw [fed] at kept
  exact kept rfl

/-- The run at its next line. -/
def atNextLine (run : Run σ) : Run σ :=
  { run with session := { run.session with line := run.session.line + 1 } }

theorem readLine_of_blank {raw : String} (blank : isBlankLine (trimLineEnd raw.toList) = true) :
    readLine observer run raw = (run.atNextLine, none) := by
  simp only [readLine, blank]
  rfl

theorem readLine_of_present {raw : String}
    (present : isBlankLine (trimLineEnd raw.toList) = false) :
    readLine observer run raw =
      feed observer run.atNextLine (String.ofList (dedent (trimLineEnd raw.toList)))
        (lineKind run.config.indentThreshold (trimLineEnd raw.toList)) := by
  simp only [readLine, present]
  rfl

/-- A law about every line that is read without a fault holds of every list of such lines. -/
theorem readAll_induction (Law : List String → Run σ → Prop)
    (read : ∀ done raw run next, Law done run → readLine observer run raw = (next, none) →
      Law (done ++ [raw]) next)
    {lines : List String} (law : Law [] run)
    (readAll_eq : readAll observer run lines = (next, none)) : Law lines next := by
  suffices ∀ done run, Law done run → readAll observer run lines = (next, none) →
      Law (done ++ lines) next from this [] run law readAll_eq
  clear law readAll_eq
  intro done run law readAll_eq
  induction lines generalizing done run with
  | nil =>
    obtain ⟨rfl, -⟩ := Prod.mk.inj readAll_eq
    simpa using law
  | cons raw lines ih =>
    simp only [readAll] at readAll_eq
    split at readAll_eq
    next => simp at readAll_eq
    next between first =>
      have := ih (done ++ [raw]) between (read done raw run between law first) readAll_eq
      simpa using this

variable (observer) in
/-- What the end of a script can do to a run. -/
inductive Closing (run : Run σ) : Run σ → Prop where
  | nothing (phase : run.session.phase = .idle) : Closing run run
  | endNode {ended : Run σ} (flushes : run.config.flushAtEnd = true)
      (phase : run.session.phase = .dialogue) (ended_eq : endNode observer run = (ended, none)) :
      Closing run (ended.withPhase .idle)
  | endBlock (flushes : run.config.flushAtEnd = true) (phase : run.session.phase = .choice) :
      Closing run ((endBlock observer (endChoice observer run)).withPhase .idle)
  | discard (discards : run.config.flushAtEnd = false) (phase : run.session.phase ≠ .idle) :
      Closing run (tell observer run (.discarded run.session.phase))

/-- A script that is closed without a fault ends in one of these ways. -/
theorem closing_of_close (close_eq : close observer run = (next, none)) :
    Closing observer run next := by
  rw [close, settle] at close_eq
  split at close_eq
  next flushes =>
    split at close_eq
    next phase =>
      obtain ⟨rfl, -⟩ := Prod.mk.inj close_eq
      exact .nothing phase
    next phase =>
      split at close_eq
      next => cases (Prod.mk.inj close_eq).2
      next ended =>
        obtain ⟨rfl, -⟩ := Prod.mk.inj close_eq
        exact .endNode flushes phase ended
    next phase =>
      obtain ⟨rfl, -⟩ := Prod.mk.inj close_eq
      exact .endBlock flushes phase
  next discards =>
    split at close_eq
    next phase =>
      obtain ⟨rfl, -⟩ := Prod.mk.inj close_eq
      exact .nothing phase
    next phase =>
      obtain ⟨rfl, -⟩ := Prod.mk.inj close_eq
      exact .discard (Bool.eq_false_iff.mpr discards) phase

/-- A compile has a graph if and only if every line is read and the end is closed. -/
theorem compile_eq_ok_iff {config : Config} {state : σ} {lines : List String} {graph : Graph} :
    compile observer config state lines = (next, .ok graph) ↔
      ∃ read closed, readAll observer (start observer config state) lines = (read, none) ∧
        close observer read = (closed, none) ∧ result observer closed = (next, graph) := by
  rw [compile]
  constructor
  · intro compiled
    split at compiled
    next => simp at compiled
    next read readAll_eq =>
      split at compiled
      next => simp at compiled
      next closed close_eq =>
        simp only [Prod.mk.injEq, Except.ok.injEq] at compiled
        exact ⟨read, closed, readAll_eq, close_eq, Prod.ext compiled.1 compiled.2⟩
  · rintro ⟨read, closed, readAll_eq, close_eq, result_eq⟩
    simp [readAll_eq, close_eq, result_eq]

end Dialogue.Run
