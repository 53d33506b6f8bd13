import Dialogue.Proofs.Run.Twin

/-!
# The end of a script

What is open when the lines run out is closed by `settle`, or it is left out of the result.
A command line closes what is open too, before its command is kept. So a script that is
flushed at its end has the graph of the same script with one more command line and no
flushing.
-/

namespace Dialogue

open Script Text

/-- The settings with flushing turned on or off. -/
def Config.flushing (config : Config) (flush : Bool) : Config :=
  { config with flushAtEnd := flush }

@[simp] theorem Config.flushAtEnd_flushing (config : Config) (flush : Bool) :
    (config.flushing flush).flushAtEnd = flush := rfl

/-! ## Closed nodes at the end -/

namespace Session

/-- The closed nodes after everything open was closed. -/
def finalAssembly (session : Session) : Assembly :=
  match session.phase with
  | .idle => session.assembly
  | .dialogue =>
    match session.draft.node? with
    | none => session.assembly
    | some node => session.assembly.close node
  | .choice => session.endChoice.endBlock.assembly

/-- The number of the line does not count at the end of a choice. -/
theorem endChoice_atLine (session : Session) (line : Nat) :
    endChoice { session with line } = { session.endChoice with line } := by
  simp only [endChoice]
  cases session.draft.drainChoice.1 with
  | none => rfl
  | some choice =>
    dsimp only
    cases session.draft.choices.push? choice <;> rfl

theorem endBlock_atLine (session : Session) (line : Nat) :
    endBlock { session with line } = { session.endBlock with line } := by
  simp only [endBlock]
  cases session.assembly.attach? session.draft.drainChoices.1 <;> rfl

theorem finalAssembly_atLine (session : Session) (line : Nat) :
    finalAssembly { session with line } = session.finalAssembly := by
  simp only [finalAssembly, endChoice_atLine, endBlock_atLine]

end Session

/-- A command line is still one when its line break is gone, and nothing stands in front of its
sign. -/
theorem trimLineEnd_of_command {threshold : Int} (positive : 0 < threshold) {raw : List Char}
    (command : lineKind threshold raw = .command) :
    isBlankLine (trimLineEnd raw) = false ∧ lineKind threshold (trimLineEnd raw) = .command ∧
      dedent (trimLineEnd raw) = trimLineEnd raw := by
  cases raw with
  | nil => cases (lineKind_eq_command_iff.mp command).2.2
  | cons c rest =>
    obtain rfl : c = '@' := by simpa using (lineKind_eq_command_iff.mp command).2.2
    have visible : isBlank '@' = false := by decide
    rw [trimLineEnd_cons_of_unbroken rest (by decide)]
    exact ⟨by simp [isBlankLine, visible], lineKind_command positive, dedent_of_visible visible⟩

namespace Run

variable {σ : Type} (observer : Observer σ) {run next : Run σ} {limits : Config}

/-- Closing what is open never fails. -/
theorem exists_settle (within : run.session.Within limits) :
    ∃ next, settle observer run = (next, none) ∧
      next.session.assembly = run.session.finalAssembly := by
  rw [settle, Session.finalAssembly]
  cases run.session.phase with
  | idle => exact ⟨run, rfl, rfl⟩
  | dialogue =>
    obtain ⟨node, written⟩ := within.draft.exists_node
    obtain ⟨ended, ended_eq, session_eq⟩ := endNode_of_node observer written
    refine ⟨ended.withPhase .idle, by simp only [ended_eq], ?_⟩
    simp only [session_withPhase, session_eq, written]
    rfl
  | choice =>
    refine ⟨_, rfl, ?_⟩
    simp only [session_withPhase, session_endBlock, session_endChoice]

/-- Between nodes there is nothing to close. -/
theorem close_of_idle (phase : run.session.phase = .idle) : close observer run = (run, none) := by
  rw [close, settle, phase]
  split <;> rfl

/-! ## A command line behind what is open -/

variable {line : String}

/-- Between nodes a command line gives its command, and nothing else happens. -/
theorem feed_command_of_idle (phase : run.session.phase = .idle)
    (sign : line.toList.head? = some '@') :
    ∃ command, feed observer run line .command = (takeCommand observer run command, none) := by
  obtain ⟨command, parsed⟩ := exists_command_of_head? sign
  refine ⟨command, feed_of_consumed observer ?_⟩
  rw [step_of_idle phase, idleStep, parsed]

/-- A command line first does what the end of a script does. -/
theorem feed_command_of_settle (sign : line.toList.head? = some '@')
    (settled : settle observer run = (next, none)) :
    next.session.phase = .idle ∧
      feed observer run line .command = feed observer next line .command := by
  rw [settle] at settled
  cases phase : run.session.phase with
  | idle =>
    rw [phase] at settled
    obtain ⟨rfl, -⟩ := Prod.mk.inj settled
    exact ⟨phase, rfl⟩
  | dialogue =>
    rw [phase] at settled
    dsimp only at settled
    cases ended : endNode observer run with
    | mk closed fault =>
      rw [ended] at settled
      cases fault with
      | some fault => cases settled
      | none =>
        obtain ⟨rfl, -⟩ := Prod.mk.inj settled
        constructor
        · rfl
        · apply feed_of_handOn
          rw [step_of_dialogue phase, dialogueStep, if_neg (by decide), ended]
  | choice =>
    rw [phase] at settled
    obtain ⟨rfl, -⟩ := Prod.mk.inj settled
    have inner : lineKind run.config.indentThreshold line.toList = .command := by
      cases text : line.toList with
      | nil => simp [text] at sign
      | cons c rest =>
        obtain rfl : c = '@' := by simpa [text] using sign
        exact lineKind_command (by exact_mod_cast run.config.indentThreshold_pos)
    constructor
    · rfl
    · apply feed_of_handOn
      rw [step_of_choice phase, choiceStep]
      simp [inner]

/-- Reading a command line closes what is open, as the end of a script does, and opens nothing. -/
theorem readLine_command (within : run.session.Within limits)
    (command : lineKind run.config.indentThreshold line.toList = .command) :
    ∃ next, readLine observer run line = (next, none) ∧ next.session.phase = .idle ∧
      next.session.assembly = run.session.finalAssembly := by
  have positive : (0 : Int) < run.config.indentThreshold := by
    exact_mod_cast run.config.indentThreshold_pos
  obtain ⟨present, kind_eq, same⟩ := trimLineEnd_of_command positive command
  have sign := (lineKind_eq_command_iff.mp kind_eq).2.2
  rw [readLine_of_present present, kind_eq, same]
  have counted : run.atNextLine.session.Within limits := { within with }
  obtain ⟨settled, settle_eq, assembly_eq⟩ := exists_settle observer counted
  rw [← String.toList_ofList (l := trimLineEnd line.toList)] at sign
  obtain ⟨phase, fed⟩ := feed_command_of_settle observer sign settle_eq
  obtain ⟨command, kept⟩ := feed_command_of_idle observer phase sign
  refine ⟨_, fed.trans kept, ?_, ?_⟩
  · rw [session_takeCommand, Session.phase_takeCommand, phase]
  · rw [session_takeCommand, (Session.views_takeCommand command).2.2, assembly_eq]
    exact run.session.finalAssembly_atLine _

/-! ## Whole compiles -/

section Compiles

variable {config : Config} {state : σ} {lines : List String} {read : Run σ}
  (readAll_eq : readAll observer (start observer config state) lines = (read, none))
  (within : read.session.Within limits)
include readAll_eq within

/-- A compile that flushes has the graph of the nodes that are closed when everything is. -/
theorem compile_of_flush (flushes : read.config.flushAtEnd = true) :
    (compile observer config state lines).2 = .ok read.session.finalAssembly.graph := by
  obtain ⟨closed, settle_eq, assembly_eq⟩ := exists_settle observer within
  have close_eq : close observer read = (closed, none) := by
    rw [close, if_pos flushes, settle_eq]
  have compiled := compile_eq_ok_iff.mpr ⟨read, closed, readAll_eq, close_eq, rfl⟩
  rw [compiled, assembly_eq]

/-- A compile whose last line is a command has that graph too, whether it flushes or not. -/
theorem compile_of_command
    (command : lineKind read.config.indentThreshold line.toList = .command) :
    (compile observer config state (lines ++ [line])).2 =
      .ok read.session.finalAssembly.graph := by
  obtain ⟨last, line_eq, phase, assembly_eq⟩ :=
    readLine_command observer within command
  have all_eq : readAll observer (start observer config state) (lines ++ [line]) =
      (last, none) := by
    rw [readAll_append observer [line] readAll_eq, readAll_cons observer [] line_eq, readAll_nil]
  have close_eq : close observer last = (last, none) := close_of_idle observer phase
  have compiled := compile_eq_ok_iff.mpr ⟨last, last, all_eq, close_eq, rfl⟩
  rw [compiled, assembly_eq]

end Compiles

end Run

/-! ## Flushing or not -/

/-- Settings that differ in nothing but flushing, in the hands of nobody. -/
def FlushedOrNot (config : Config) (held held' : Config × Unit) : Prop :=
  held.1 = config.flushing true ∧ held'.1 = config.flushing false

theorem silent_agree (config : Config) :
    Observer.silent.Agree .silent (FlushedOrNot config) where
  threshold := by
    intro held held' alike
    rw [alike.1, alike.2]
    rfl
  tagStem := by
    intro held held' alike
    rw [alike.1, alike.2]
    rfl
  told := by
    intro held held' notice _ alike
    exact alike

/-- To flush at the end is to read one more command line and not to flush. -/
theorem flush_eq_command (config : Config) (lines : List String) (line : String)
    (command : lineKind config.indentThreshold line.toList = .command) :
    ∃ graph, compileLines (config.flushing true) lines = .ok graph ∧
      compileLines (config.flushing false) (lines ++ [line]) = .ok graph := by
  have begun : Run.Twin (FlushedOrNot config)
      (Run.start .silent (config.flushing true) ()) (.start .silent (config.flushing false) ()) :=
    ⟨rfl, rfl, rfl⟩
  have within : (Run.start .silent (config.flushing true) ()).session.Within config :=
    .start config
  -- Up to the last line of the script both compiles go the same way.
  obtain ⟨read, readAll_eq, within⟩ := Run.readAll_within .silent lines within
  have both := Run.readAll_twins (silent_agree config) begun lines
  rw [readAll_eq] at both
  cases readAll_eq' :
      Run.readAll .silent (.start .silent (config.flushing false) ()) lines with
  | mk read' fault =>
    rw [readAll_eq'] at both
    obtain rfl : none = fault := both.answer
    have session_eq : read.session = read'.session := both.twin.session
    have flushed : read.config = config.flushing true := both.twin.alike.1
    have unflushed : read'.config = config.flushing false := both.twin.alike.2
    refine ⟨read.session.finalAssembly.graph, ?_, ?_⟩
    · exact Run.compile_of_flush .silent readAll_eq within (by rw [flushed, Config.flushAtEnd_flushing])
    · rw [session_eq] at within ⊢
      exact Run.compile_of_command .silent readAll_eq' within (by rw [unflushed]; exact command)

/-- An open choice, and a command with a colon and a line break behind it. -/
theorem flush_eq_command_choice :
    lineKind (({} : Config).indentThreshold) "@wave to:\r\n".toList = .command ∧
      ∃ graph,
        compileLines (({} : Config).flushing true) ["Alice:", "Hi", "\tYes", "\t[yes]", "\tNo"] =
          .ok graph ∧
        compileLines (({} : Config).flushing false)
          (["Alice:", "Hi", "\tYes", "\t[yes]", "\tNo"] ++ ["@wave to:\r\n"]) = .ok graph :=
  ⟨by decide, flush_eq_command {} _ _ (by decide)⟩

end Dialogue
