import Dialogue.Proofs.Outline.Segment
import Dialogue.Proofs.Run.Ending
import Dialogue.Proofs.Run.Journal

/-!
# The numbers of lines

A compile counts its lines, but it makes no use of the number: it is told to the observer,
and that is all. So what nobody watches is the same compile at every number, and its result
is worked out from the readings of the lines alone, without the numbers that the lines have
and without the blank lines between them.
-/

namespace Dialogue

open Script Text

/-- The readings of lines without their numbers. -/
def contents (threshold : Int) (lines : List String) : List Reading :=
  lines.filterMap (reading? threshold 0)

theorem contents_cons (threshold : Int) (raw : String) (lines : List String) :
    contents threshold (raw :: lines) =
      (reading? threshold 0 raw).toList ++ contents threshold lines := by
  rw [contents, contents, List.filterMap_cons]
  cases reading? threshold 0 raw <;> rfl

theorem contents_append (threshold : Int) (lines more : List String) :
    contents threshold (lines ++ more) = contents threshold lines ++ contents threshold more :=
  List.filterMap_append

namespace Run

/-- The run at the line of a number. -/
def atLine {σ : Type} (run : Run σ) (number : Nat) : Run σ :=
  { run with session := { run.session with line := number } }

section Numbers

variable (run : Run Unit) (number : Nat)

/-! ## One operation -/

@[simp] theorem atLine_atNextLine : run.atNextLine.atLine number = run.atLine number := rfl

/-- Where nobody watches, a run is its session and its settings. -/
theorem ext_silent {run other : Run Unit} (session : run.session = other.session)
    (settings : run.config = other.config) : run = other := by
  cases run with
  | mk => cases other with
    | mk =>
      obtain rfl := session
      obtain rfl := settings
      rfl

theorem takeCommand_atLine (command : Command) :
    takeCommand .silent (run.atLine number) command =
      (takeCommand .silent run command).atLine number := by
  simp only [takeCommand, session_tell, atLine]
  cases run.session.draft.commands.push? command <;> rfl

theorem takeTag_atLine (line : String) :
    takeTag .silent (run.atLine number) line = (takeTag .silent run line).atLine number := by
  rw [takeTag, takeTag]
  split <;> rfl

theorem endNode_atLine :
    endNode .silent (run.atLine number) =
      ((endNode .silent run).1.atLine number, (endNode .silent run).2) := by
  have draft_eq : (run.atLine number).session.draft = run.session.draft := rfl
  have assembly_eq : (run.atLine number).session.assembly = run.session.assembly := rfl
  rw [endNode, endNode, draft_eq]
  cases run.session.draft.drainNode with
  | mk node draft =>
    cases node with
    | none => rfl
    | some node =>
      simp only [session_tell, session_withDraft, assembly_eq]
      by_cases full : run.session.assembly.isFull = true
      · simp only [full, ↓reduceIte]
        rfl
      · simp only [full]
        rfl

theorem endChoice_atLine :
    endChoice .silent (run.atLine number) = (endChoice .silent run).atLine number := by
  apply ext_silent
  · simpa [atLine] using run.session.endChoice_atLine number
  · simp [atLine, config_endChoice Observer.silent_isPassive]

theorem endBlock_atLine :
    endBlock .silent (run.atLine number) = (endBlock .silent run).atLine number := by
  apply ext_silent
  · simpa [atLine] using run.session.endBlock_atLine number
  · simp [atLine, config_endBlock Observer.silent_isPassive]

/-! ## One line -/

variable (line : String) (kind : LineKind)

theorem step_atLine :
    step .silent (run.atLine number) line kind =
      ((step .silent run line kind).1.atLine number, (step .silent run line kind).2) := by
  have phase_eq : (run.atLine number).session.phase = run.session.phase := rfl
  rw [step, step, phase_eq]
  cases run.session.phase with
  | idle =>
    cases kind with
    | label | narration | indented => rfl
    | command =>
      simp only [idleStep]
      cases command? line.toList with
      | none => rfl
      | some command => simp only [takeCommand_atLine]
    | tag => simp only [idleStep, takeTag_atLine]
  | dialogue =>
    simp only [dialogueStep, endNode_atLine]
    split
    · rfl
    · cases endNode .silent run with
      | mk ended fault => cases fault <;> rfl
  | choice =>
    have target_eq : takeTarget .silent (run.atLine number) line =
        (takeTarget .silent run line).atLine number := rfl
    have config_eq : (run.atLine number).config = run.config := rfl
    simp only [choiceStep, target_eq, config_eq, endChoice_atLine, endBlock_atLine]
    split
    · rfl
    · split <;> split <;> rfl

theorem feed_atLine :
    feed .silent (run.atLine number) line kind =
      ((feed .silent run line kind).1.atLine number, (feed .silent run line kind).2) := by
  -- Both runs are handed on to the same phase, so one rank carries the induction for both.
  induction measure : rank kind run.session.phase using Nat.strongRecOn generalizing run with
  | ind _ ih =>
    have stepped := step_atLine run number line kind
    cases step_eq : step .silent run line kind with
    | mk next outcome =>
      rw [step_eq] at stepped
      cases outcome with
      | consumed => rw [feed_of_consumed _ step_eq, feed_of_consumed _ stepped]
      | failed fault => rw [feed_of_failed _ step_eq, feed_of_failed _ stepped]
      | handOn phase =>
        rw [feed_of_handOn _ step_eq, feed_of_handOn _ stepped]
        have lower : rank kind phase < rank kind run.session.phase := rank_lt_of_step _ step_eq
        exact ih _ (measure ▸ lower) (next.withPhase phase) rfl

/-! ## The end of a script -/

theorem settle_atLine :
    settle .silent (run.atLine number) =
      ((settle .silent run).1.atLine number, (settle .silent run).2) := by
  have phase_eq : (run.atLine number).session.phase = run.session.phase := rfl
  rw [settle, settle, phase_eq]
  cases run.session.phase with
  | idle => rfl
  | dialogue =>
    simp only [endNode_atLine]
    cases endNode .silent run with
    | mk ended fault => cases fault <;> rfl
  | choice =>
    simp only [endChoice_atLine, endBlock_atLine]
    rfl

theorem close_atLine :
    close .silent (run.atLine number) =
      ((close .silent run).1.atLine number, (close .silent run).2) := by
  have config_eq : (run.atLine number).config = run.config := rfl
  have phase_eq : (run.atLine number).session.phase = run.session.phase := rfl
  rw [close, close, config_eq, phase_eq, settle_atLine]
  split
  · rfl
  · split <;> rfl

end Numbers

/-! ## Many lines -/

/-- Feed readings in order, up to the first that fails. -/
def feedAll {σ : Type} (observer : Observer σ) (run : Run σ) :
    List Reading → Run σ × Option Fault
  | [] => (run, none)
  | reading :: rest =>
    match feed observer run reading.line reading.kind with
    | (run, some fault) => (run, some fault)
    | (run, none) => feedAll observer run rest

/-- Readings are fed one part after the other. -/
theorem feedAll_append {σ : Type} {observer : Observer σ} {run next : Run σ}
    {readings : List Reading} (rest : List Reading)
    (fed : feedAll observer run readings = (next, none)) :
    feedAll observer run (readings ++ rest) = feedAll observer next rest := by
  induction readings generalizing run with
  | nil =>
    obtain ⟨rfl, -⟩ := Prod.mk.inj fed
    rfl
  | cons reading readings ih =>
    simp only [feedAll, List.cons_append] at fed ⊢
    split at fed
    · simp at fed
    · exact ih fed

variable {config : Config} {begun run next : Run Unit}

/-- Nobody changes the settings while a line is read. -/
theorem config_of_readLine {raw : String} (read : readLine .silent run raw = (next, none)) :
    next.config = run.config := by
  cases present : isBlankLine (trimLineEnd raw.toList) with
  | true =>
    rw [readLine_of_blank present] at read
    obtain ⟨rfl, -⟩ := Prod.mk.inj read
    rfl
  | false =>
    rw [readLine_of_present present] at read
    refine feed_keeps (·.config = run.config) (·.config = run.config) ?_ ?_
      (show run.atNextLine.config = run.config from rfl) read
    · intro before after settings move
      exact (config_of_move Observer.silent_isPassive move).trans settings
    · intro before after phase settings move
      exact (config_of_move Observer.silent_isPassive move).trans settings

/-- To read lines is to feed their contents, but for the number of the line. -/
theorem feedAll_of_readAll {lines : List String} (settings : begun.config = config)
    (read : readAll .silent begun lines = (next, none)) :
    feedAll .silent (begun.atLine 0) (contents config.indentThreshold lines) =
      (next.atLine 0, none) := by
  have both : feedAll .silent (begun.atLine 0) (contents config.indentThreshold lines) =
      (next.atLine 0, none) ∧ next.config = config := by
    refine readAll_induction
      (fun done run =>
        feedAll .silent (begun.atLine 0) (contents config.indentThreshold done) =
          (run.atLine 0, none) ∧ run.config = config) ?_ ⟨rfl, settings⟩ read
    intro done raw run next before read
    obtain ⟨fed, settings⟩ := before
    refine ⟨?_, (config_of_readLine read).trans settings⟩
    rw [contents_append, feedAll_append _ fed]
    cases present : isBlankLine (trimLineEnd raw.toList) with
    | true =>
      rw [readLine_of_blank present] at read
      obtain ⟨rfl, -⟩ := Prod.mk.inj read
      simp [contents, reading?_of_blank 0 present, feedAll]
    | false =>
      rw [readLine_of_present present, settings] at read
      have unnumbered := feed_atLine run.atNextLine 0
        (String.ofList (dedent (trimLineEnd raw.toList)))
        (lineKind config.indentThreshold (trimLineEnd raw.toList))
      rw [atLine_atNextLine, read] at unnumbered
      simp [contents, reading?_of_present 0 present, feedAll, unnumbered]
  exact both.1

/-- Two compiles whose lines have the same contents end alike, but for the number of the line. -/
theorem compile_of_contents {lines lines' : List String}
    (same : contents config.indentThreshold lines = contents config.indentThreshold lines') :
    ∃ run run' graph, compile .silent config () lines = (run, .ok graph) ∧
      compile .silent config () lines' = (run', .ok graph) ∧ run.atLine 0 = run'.atLine 0 := by
  obtain ⟨read, closed, readAll_eq, close_eq, -, compiled⟩ := exists_compile .silent config () lines
  obtain ⟨read', closed', readAll_eq', close_eq', -, compiled'⟩ :=
    exists_compile .silent config () lines'
  have read_alike : read.atLine 0 = read'.atLine 0 := by
    have fed := @feedAll_of_readAll config _ _ _ rfl readAll_eq
    have fed' := @feedAll_of_readAll config _ _ _ rfl readAll_eq'
    rw [same, fed'] at fed
    exact (Prod.mk.inj fed).1.symm
  have closed_alike : closed.atLine 0 = closed'.atLine 0 := by
    have ended := close_atLine read 0
    have ended' := close_atLine read' 0
    rw [close_eq] at ended
    rw [close_eq', ← read_alike, ended] at ended'
    exact (Prod.mk.inj ended').1
  have alike : (closed.atLine 0).session.assembly = (closed'.atLine 0).session.assembly := by
    rw [closed_alike]
  have assembly_eq : closed.session.assembly = closed'.session.assembly := alike
  exact ⟨closed, closed', _, compiled, assembly_eq ▸ compiled', closed_alike⟩

end Run

end Dialogue
