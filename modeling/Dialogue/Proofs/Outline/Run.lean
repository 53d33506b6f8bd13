import Dialogue.Proofs.Outline.Session
import Dialogue.Proofs.Run.Chronicle

/-!
# Runs along the outline of a script

A run that reads a script keeps step with its outline: after each line the outline of the
session is that of the lines read so far. A line that is handed on has not been counted
yet while it visits its phases, so the law for one line has the outline without the line
before every visit, and with it behind the last.
-/

namespace Dialogue

open Script Text

variable {config : Config} {read : List Reading} {reading : Reading}

/-! ## What no line but the next changes -/

namespace Session

variable {session : Session}

@[simp] theorem line_takeCommand (command : Command) :
    (session.takeCommand command).line = session.line := by
  rw [takeCommand]
  cases session.draft.commands.push? command <;> rfl

@[simp] theorem line_takeTag (line : String) : (session.takeTag line).line = session.line := by
  rw [takeTag]
  split <;> rfl

@[simp] theorem line_endChoice : session.endChoice.line = session.line := by
  rw [endChoice]
  cases session.draft.drainChoice.1 with
  | none => rfl
  | some choice =>
    dsimp only
    cases session.draft.choices.push? choice <;> rfl

@[simp] theorem line_endBlock : session.endBlock.line = session.line := by
  simp only [endBlock]
  cases session.assembly.attach? session.draft.drainChoices.1 <;> rfl

end Session

namespace Run

variable {σ : Type} {observer : Observer σ}

theorem line_of_endNode {run next : Run σ} (ended : endNode observer run = (next, none)) :
    next.session.line = run.session.line := by
  obtain ⟨node, -, session_eq⟩ := exists_node_of_endNode observer ended
  rw [session_eq]
  rfl

/-- While a line is handled, its number stays. -/
theorem line_of_move {run next : Run σ} {line : String} {kind : LineKind} {outcome : Outcome}
    (move : Move observer line kind run next outcome)
    (faultless : ∀ fault, outcome ≠ .failed fault) :
    next.session.line = run.session.line := by
  cases move with
  | gather | gatherChoice | label | unfinished | openBlock | skip => rfl
  | command | tag => simp
  | endNode _ _ ended => exact line_of_endNode ended
  | nodeFailed => exact absurd rfl (faultless _)
  | target | targetBehind | endBlock => simp [Session.takeTarget]

/-! ## One line -/

/-- A run at the line of a number, with the outline of what was read. -/
structure Along (config : Config) (number : Nat) (read : List Reading)
    (run : Run (σ × List Notice)) : Prop where
  settings : run.config = config
  within : run.session.Within config
  line : run.session.line = number
  outline : Outline config read run.journal run.session

namespace Along

variable {run next : Run (σ × List Notice)} {number : Nat}

/-- A line that is used up is accounted for. Either it opens a node, or it is no label and leaves
the phase as it is. -/
theorem outline_of_consumed (along : run.Along config reading.number read)
    (reads : IsReading config.indentThreshold reading.line reading.kind)
    (move : Move observer.recording reading.line reading.kind run next .consumed) :
    Outline config (read ++ [reading]) next.journal next.session ∧
      (next.session.phase = .dialogue ∨
        reading.kind ≠ .label ∧ next.session.phase = run.session.phase) := by
  have outline := along.outline
  cases move with
  | gather phase kind_eq =>
    have passed := (outline.pass (.inl kind_eq) (fun _ => kind_eq)).quiet
      (Session.quiet_gather run.session.phase reading.line)
    exact ⟨passed, .inr ⟨by simp [kind_eq], rfl⟩⟩
  | gatherChoice phase inner =>
    have kind_eq : reading.kind = .narration ∨ reading.kind = .indented := by
      by_contra neither
      rw [not_or] at neither
      rw [innerKind, along.settings] at inner
      exact reads.lineKind_ne_narration neither.1 neither.2 inner
    have passed := (outline.pass kind_eq (by simp [phase])).quiet
      (Session.quiet_gather run.session.phase reading.line)
    exact ⟨passed, .inr ⟨by rcases kind_eq with same | same <;> simp [same], rfl⟩⟩
  | label phase kind_eq =>
    exact ⟨outline.label (by simp [phase]) kind_eq, .inl rfl⟩
  | @command command phase kind_eq parsed =>
    have given : reading.directive? = some ⟨command, run.session.line⟩ := by
      simp [Reading.directive?, kind_eq, parsed, along.line]
    have gives := Session.gives_command along.within
      (Reading.tag?_of_kind_ne (by simp [kind_eq])) given
    have passed := outline.give (by simp [phase]) (by simp [kind_eq]) gives
    exact ⟨by simpa using passed, .inr ⟨by simp [kind_eq], by simpa using gives.phase⟩⟩
  | tag phase kind_eq =>
    have gives := Session.gives_tag along.within kind_eq
    have passed := outline.give (by simp [phase]) (by simp [kind_eq]) gives
    exact ⟨by simpa using passed, .inr ⟨by simp [kind_eq], by simpa using gives.phase⟩⟩
  | target phase _ kind_eq =>
    have passed := ((outline.pass (.inr kind_eq) (by simp [phase])).quiet
      (Session.quiet_takeTarget reading.line)).quiet Session.quiet_endChoice
    refine ⟨by simpa using passed, .inr ⟨by simp [kind_eq], ?_⟩⟩
    rw [session_endChoice]
    exact Session.quiet_endChoice.phase
  | skip phase _ _ kind_eq =>
    exact ⟨outline.pass (.inr kind_eq) (by simp [phase]), .inr ⟨by simp [kind_eq], rfl⟩⟩

variable (passive : observer.IsPassive)
include passive

/-- The end of a node changes the phase, and with it the node that counted as open is closed. -/
theorem outline_of_endNode (along : run.Along config number read)
    (phase : run.session.phase = .dialogue)
    (ended : endNode observer.recording run = (next, none)) :
    Outline config read next.journal { next.session with phase := .idle } := by
  obtain ⟨node, written, session_eq⟩ := exists_node_of_endNode observer.recording ended
  have settings : next.config = config :=
    (config_endNode passive.recording ended).trans along.settings
  rw [session_eq, settings, journal_endNode observer written ended]
  exact along.outline.endNode phase written

/-- A line that is handed on is not accounted for yet. Only a choice block hands text on. -/
theorem outline_of_handOn {line : String} {kind : LineKind} {phase : Phase}
    (along : run.Along config number read)
    (move : Move observer.recording line kind run next (.handOn phase)) :
    Outline config read next.journal { next.session with phase } ∧
      (kind = .narration → run.session.phase = .choice) := by
  have outline := along.outline
  cases move with
  | openBlock idle kind_eq =>
    have told := outline.quiet run.session.quiet_openBlock
    exact ⟨told.enter (by simp [idle]) (by simp), by simp [kind_eq]⟩
  | endNode inside kind_ne ended =>
    exact ⟨outline_of_endNode passive along inside ended, fun text => absurd text kind_ne⟩
  | targetBehind inside =>
    have outside : (run.session.takeTarget line).phase ≠ .dialogue := by
      simp [Session.takeTarget, inside]
    have told := (outline.quiet (run.session.quiet_takeTarget line)).endBlock outside
    exact ⟨by simpa using told, fun _ => inside⟩
  | endBlock inside =>
    have told := outline.endBlock (by simp [inside])
    exact ⟨by simpa using told, fun _ => inside⟩

end Along

variable {run next : Run (σ × List Notice)} {number : Nat} (passive : observer.IsPassive)
include passive

/-- A line is accounted for when it is used up, and then a node is open if and only if the lines
end so. -/
theorem along_of_feed (reading : Reading)
    (reads : IsReading config.indentThreshold reading.line reading.kind)
    (along : run.Along config reading.number read)
    (phase : run.session.phase = .dialogue ↔ endsOpen read = true)
    (fed : feed observer.recording run reading.line reading.kind = (next, none)) :
    next.Along config reading.number (read ++ [reading]) ∧
      (next.session.phase = .dialogue ↔ endsOpen (read ++ [reading]) = true) := by
  -- On its way a line may close a node that the lines before leave open, but text does not.
  refine feed_keeps
    (fun run => run.Along config reading.number read ∧
      (reading.kind = .narration → run.session.phase ≠ .dialogue → endsOpen read = false))
    (fun next => next.Along config reading.number (read ++ [reading]) ∧
      (next.session.phase = .dialogue ↔ endsOpen (read ++ [reading]) = true)) ?_ ?_ ?_ fed
  · intro run next before move
    obtain ⟨along, settled⟩ := before
    obtain ⟨outline, phase_eq⟩ := along.outline_of_consumed reads move
    refine ⟨⟨?_, ?_, ?_, outline⟩, outline.opened, ?_⟩
    · exact (config_of_move passive.recording move).trans along.settings
    · exact (within_of_move observer.recording reads.head?_of_command along.within move).2
    · exact (line_of_move move (by simp)).trans along.line
    · intro opened
      rcases phase_eq with dialogue | ⟨unlabelled, same⟩
      · exact dialogue
      · by_contra outside
        rw [endsOpen_concat unlabelled, Bool.and_eq_true, decide_eq_true_eq] at opened
        rw [settled opened.2 (same ▸ outside)] at opened
        cases opened.1
  · intro run next phase before move
    obtain ⟨along, settled⟩ := before
    obtain ⟨outline, text⟩ := along.outline_of_handOn passive move
    refine ⟨⟨?_, ?_, ?_, outline⟩, ?_⟩
    · exact (config_of_move passive.recording move).trans along.settings
    · exact { (within_of_move observer.recording reads.head?_of_command along.within move).2 with }
    · exact (line_of_move move (by simp)).trans along.line
    · intro kind_eq _
      exact settled kind_eq (by simp [text kind_eq])
  · refine ⟨along, ?_⟩
    intro _ outside
    exact Bool.eq_false_iff.mpr fun opened => outside (phase.mpr opened)

theorem along_of_readLine (raw : String) (along : run.Along config number read)
    (phase : run.session.phase = .dialogue ↔ endsOpen read = true)
    (read_eq : readLine observer.recording run raw = (next, none)) :
    next.Along config (number + 1)
        (read ++ (reading? config.indentThreshold (number + 1) raw).toList) ∧
      (next.session.phase = .dialogue ↔
        endsOpen (read ++ (reading? config.indentThreshold (number + 1) raw).toList) = true) := by
  have counted : run.atNextLine.Along config (number + 1) read :=
    ⟨along.settings, { along.within with }, congrArg Nat.succ along.line, { along.outline with }⟩
  cases present : isBlankLine (trimLineEnd raw.toList) with
  | true =>
    rw [readLine_of_blank present] at read_eq
    obtain ⟨rfl, -⟩ := Prod.mk.inj read_eq
    rw [reading?_of_blank _ present, Option.toList_none, List.append_nil]
    exact ⟨counted, phase⟩
  | false =>
    rw [readLine_of_present present, along.settings] at read_eq
    rw [reading?_of_present _ present, Option.toList_some]
    exact along_of_feed passive ⟨number + 1, _, _⟩ ⟨_, present, rfl, rfl⟩ counted phase read_eq

theorem along_of_readAll {lines : List String} (along : run.Along config 0 [])
    (phase : run.session.phase ≠ .dialogue)
    (readAll_eq : readAll observer.recording run lines = (next, none)) :
    next.Along config lines.length (readings config lines) ∧
      (next.session.phase = .dialogue ↔ endsOpen (readings config lines) = true) := by
  refine readAll_induction
    (fun done run => run.Along config done.length (readings config done) ∧
      (run.session.phase = .dialogue ↔ endsOpen (readings config done) = true)) ?_ ?_ readAll_eq
  · intro done raw run next before read_eq
    rw [readings_concat, List.length_append]
    exact along_of_readLine passive raw before.1 before.2 read_eq
  · refine ⟨along, ?_⟩
    constructor
    · intro inside
      exact absurd inside phase
    · intro opened
      cases opened

/-- The end of a script closes an open node, if the settings say so. -/
theorem outline_of_closing (along : run.Along config number read)
    (closing : Closing observer.recording run next) :
    Outline config read next.journal next.session ∧
      (next.session.phase = .dialogue ↔
        config.flushAtEnd = false ∧ run.session.phase = .dialogue) := by
  have outline := along.outline
  cases closing with
  | nothing phase => exact ⟨outline, by simp [phase]⟩
  | endNode flushes phase ended =>
    rw [along.settings] at flushes
    have told := along.outline_of_endNode passive phase ended
    exact ⟨told, by simp [flushes]⟩
  | endBlock flushes phase =>
    rw [along.settings] at flushes
    have told := outline.endBlock (by simp [phase])
    exact ⟨by simpa using told, by simp [flushes]⟩
  | discard discards phase =>
    rw [along.settings] at discards
    exact ⟨outline.quiet (run.session.quiet_discard run.session.phase), by simp [discards]⟩

end Run

end Dialogue
