import Dialogue.Proofs.Run.Safety

/-!
# Two compiles side by side

Of its settings, a compile that has begun reads the threshold of indentation and the stem of
made tags, and at its end whether it is to flush; it does not look at what its observer
remembers. So two runs with equal sessions that agree about these settings stay alike, line
after line, although they may have different observers: `Twin` is the relation between the
runs, and `Twins` also compares what became of a line.
-/

namespace Dialogue

open Script Text

variable {σ τ : Type}

/-- A relation between what two observers have made of the settings and of their own states. It
lets them agree about the settings that are read on the way, and whatever both are told
after the beginning of a compile keeps it. -/
structure Observer.Agree (observer : Observer σ) (other : Observer τ)
    (Alike : Config × σ → Config × τ → Prop) : Prop where
  threshold : ∀ {held held'}, Alike held held' →
    held.1.indentThreshold = held'.1.indentThreshold
  tagStem : ∀ {held held'}, Alike held held' → held.1.tagStem = held'.1.tagStem
  told : ∀ {held held'} (notice : Notice), (∀ config, notice.news ≠ .event (.started config)) →
    Alike held held' →
      Alike (observer.notify notice held.1 held.2) (other.notify notice held'.1 held'.2)

namespace Run

/-- Two runs with the same session whose settings and observers are alike. -/
structure Twin (Alike : Config × σ → Config × τ → Prop) (run : Run σ) (other : Run τ) :
    Prop where
  session : run.session = other.session
  alike : Alike (run.config, run.state) (other.config, other.state)

/-- Two runs that are twins, with the same answer. -/
structure Twins {β : Type} (Alike : Config × σ → Config × τ → Prop) (ended : Run σ × β)
    (other : Run τ × β) : Prop where
  answer : ended.2 = other.2
  twin : Twin Alike ended.1 other.1

section Agree

variable {observer : Observer σ} {observer' : Observer τ}
  {Alike : Config × σ → Config × τ → Prop} {run : Run σ} {other : Run τ}

namespace Twin

theorem withDraft (twin : Twin Alike run other) (draft : Draft) :
    Twin Alike (run.withDraft draft) (other.withDraft draft) where
  session := by simp only [session_withDraft, twin.session]
  alike := twin.alike

theorem withPhase (twin : Twin Alike run other) (phase : Phase) :
    Twin Alike (run.withPhase phase) (other.withPhase phase) where
  session := by simp only [session_withPhase, twin.session]
  alike := twin.alike

theorem withAssembly (twin : Twin Alike run other) (assembly : Assembly) :
    Twin Alike (run.withAssembly assembly) (other.withAssembly assembly) where
  session := by simp only [session_withAssembly, twin.session]
  alike := twin.alike

theorem atNextLine (twin : Twin Alike run other) :
    Twin Alike run.atNextLine other.atNextLine where
  session := by simp only [Run.atNextLine, twin.session]
  alike := twin.alike

variable (agree : observer.Agree observer' Alike)
include agree

theorem tell (twin : Twin Alike run other) (news : News)
    (later : ∀ config, news ≠ .event (.started config)) :
    Twin Alike (tell observer run news) (tell observer' other news) where
  session := twin.session
  alike := by
    have told := agree.told ⟨run.session.line, news⟩ later twin.alike
    rw [twin.session] at told
    simpa only [Run.tell, twin.session] using told

theorem innerKind (twin : Twin Alike run other) (line : String) :
    run.innerKind line = other.innerKind line := by
  have threshold : run.config.indentThreshold = other.config.indentThreshold :=
    agree.threshold twin.alike
  rw [Run.innerKind, Run.innerKind, threshold]

theorem renewTag (twin : Twin Alike run other) : Twin Alike run.renewTag other.renewTag where
  session := by
    have stem : run.config.tagStem = other.config.tagStem := agree.tagStem twin.alike
    simp only [Run.renewTag, Session.freshTag, Config.numberedTag, twin.session, stem]
  alike := twin.alike

theorem refuse (twin : Twin Alike run other) (kind : DropKind) (detail : String) :
    Twin Alike (refuse observer run kind detail) (refuse observer' other kind detail) := by
  have counted : Twin Alike
      { run with session := { run.session with dropped := run.session.dropped.record kind } }
      { other with
        session := { other.session with dropped := other.session.dropped.record kind } } :=
    ⟨by simp only [twin.session], twin.alike⟩
  rw [Run.refuse, Run.refuse, ← twin.session]
  rw [← twin.session] at counted
  exact counted.tell agree _ (by simp)

/-! ## One operation -/

theorem gather (twin : Twin Alike run other) (line : String) :
    Twin Alike (gather observer run line) (gather observer' other line) := by
  rw [Run.gather, Run.gather, ← twin.session]
  exact (twin.withDraft _).tell agree _ (by simp)

theorem takeLabel (twin : Twin Alike run other) (line : String) :
    Twin Alike (takeLabel observer run line) (takeLabel observer' other line) := by
  rw [Run.takeLabel, Run.takeLabel, ← twin.session]
  exact ((twin.withDraft _).tell agree _ (by simp)).withPhase .dialogue

theorem takeTarget (twin : Twin Alike run other) (line : String) :
    Twin Alike (takeTarget observer run line) (takeTarget observer' other line) := by
  rw [Run.takeTarget, Run.takeTarget, ← twin.session]
  exact (twin.withDraft _).tell agree _ (by simp)

theorem takeTag (twin : Twin Alike run other) (line : String) :
    Twin Alike (takeTag observer run line) (takeTag observer' other line) := by
  rw [Run.takeTag, Run.takeTag, ← twin.session]
  split
  · exact (twin.withDraft _).tell agree _ (by simp)
  · exact twin.tell agree _ (by simp)

theorem takeCommand (twin : Twin Alike run other) (command : Command) :
    Twin Alike (takeCommand observer run command) (takeCommand observer' other command) := by
  have told := twin.tell agree (.commandGiven command) (by simp)
  simp only [Run.takeCommand, session_tell, ← twin.session]
  cases run.session.draft.commands.push? command with
  | some commands => exact told.withDraft _
  | none => exact told.refuse agree _ _

theorem endNode (twin : Twin Alike run other) :
    Twins Alike (endNode observer run) (endNode observer' other) := by
  rw [Run.endNode, Run.endNode, ← twin.session]
  cases run.session.draft.drainNode with
  | mk node draft =>
    cases node with
    | none => exact ⟨rfl, twin.withDraft draft⟩
    | some node =>
      have written := (twin.withDraft draft).tell agree
        (.nodeWritten node run.session.draft.text) (by simp)
      have closed := written.withAssembly (run.session.assembly.close node)
      simp only [session_tell, session_withDraft, ← twin.session]
      by_cases full : run.session.assembly.isFull = true
      · simp only [full, ↓reduceIte]
        exact ⟨rfl, (closed.refuse agree _ _).renewTag agree⟩
      · simp only [full]
        exact ⟨rfl, (closed.tell agree _ (by simp)).renewTag agree⟩

theorem endChoice (twin : Twin Alike run other) :
    Twin Alike (endChoice observer run) (endChoice observer' other) := by
  rw [Run.endChoice, Run.endChoice, ← twin.session]
  cases run.session.draft.drainChoice with
  | mk choice draft =>
    cases choice with
    | none => exact twin.withDraft draft
    | some choice =>
      have written := (twin.withDraft draft).tell agree
        (.choiceWritten choice run.session.draft.text) (by simp)
      simp only [session_tell, session_withDraft]
      cases draft.choices.push? choice with
      | some choices => exact written.withDraft _
      | none => exact written.refuse agree _ _

theorem endBlock (twin : Twin Alike run other) :
    Twin Alike (endBlock observer run) (endBlock observer' other) := by
  rw [Run.endBlock, Run.endBlock, ← twin.session]
  cases run.session.draft.drainChoices with
  | mk choices draft =>
    have ended := (twin.withDraft draft).tell agree (.blockClosed choices) (by simp)
    simp only [session_tell, session_withDraft, ← twin.session]
    cases run.session.assembly.attach? choices with
    | none =>
      cases choices.isEmpty with
      | true => exact ended
      | false => exact ended.tell agree _ (by simp)
    | some attached => exact (ended.withAssembly attached.2).tell agree _ (by simp)

end Twin

/-! ## One line -/

variable (agree : observer.Agree observer' Alike)
include agree

theorem step_twins (twin : Twin Alike run other) (line : String) (kind : LineKind) :
    Twins Alike (step observer run line kind) (step observer' other line kind) := by
  rw [step, step, ← twin.session]
  cases run.session.phase with
  | idle =>
    cases kind with
    | label => exact ⟨rfl, twin.takeLabel agree line⟩
    | narration => exact ⟨rfl, twin.gather agree line⟩
    | command =>
      simp only [idleStep]
      cases command? line.toList with
      | none => exact ⟨rfl, twin⟩
      | some command => exact ⟨rfl, twin.takeCommand agree command⟩
    | tag => exact ⟨rfl, twin.takeTag agree line⟩
    | indented => exact ⟨rfl, twin.tell agree .blockOpened (by simp)⟩
  | dialogue =>
    simp only [dialogueStep]
    split
    · exact ⟨rfl, twin.gather agree line⟩
    · have ended := twin.endNode agree
      cases first : endNode observer run with
      | mk next fault =>
        cases second : endNode observer' other with
        | mk next' fault' =>
          rw [first, second] at ended
          obtain rfl : fault = fault' := ended.answer
          cases fault with
          | none => exact ⟨rfl, ended.twin⟩
          | some fault => exact ⟨rfl, ended.twin⟩
  | choice =>
    have inner := twin.innerKind agree line
    simp only [Run.innerKind] at inner
    simp only [choiceStep, inner]
    split
    · exact ⟨rfl, twin.gather agree line⟩
    · have ended := (twin.takeTarget agree line).endChoice agree
      split
      · split
        · exact ⟨rfl, ended⟩
        · exact ⟨rfl, ended.endBlock agree⟩
      · split
        · exact ⟨rfl, twin⟩
        · exact ⟨rfl, (twin.endChoice agree).endBlock agree⟩

theorem feed_twins (twin : Twin Alike run other) (line : String) (kind : LineKind) :
    Twins Alike (feed observer run line kind) (feed observer' other line kind) := by
  -- Both runs are handed on to the same phase, so one rank carries the induction for both.
  induction measure : rank kind run.session.phase using Nat.strongRecOn
    generalizing run other with
  | ind _ ih =>
    have stepped := step_twins agree twin line kind
    cases first : step observer run line kind with
    | mk next outcome =>
      cases second : step observer' other line kind with
      | mk next' outcome' =>
        rw [first, second] at stepped
        obtain rfl : outcome = outcome' := stepped.answer
        cases outcome with
        | consumed =>
          rw [feed_of_consumed observer first, feed_of_consumed observer' second]
          exact ⟨rfl, stepped.twin⟩
        | failed fault =>
          rw [feed_of_failed observer first, feed_of_failed observer' second]
          exact ⟨rfl, stepped.twin⟩
        | handOn phase =>
          rw [feed_of_handOn observer first, feed_of_handOn observer' second]
          have lower : rank kind phase < rank kind run.session.phase :=
            rank_lt_of_step observer first
          exact ih _ (measure ▸ lower) (stepped.twin.withPhase phase) rfl

theorem readLine_twins (twin : Twin Alike run other) (raw : String) :
    Twins Alike (readLine observer run raw) (readLine observer' other raw) := by
  cases present : isBlankLine (trimLineEnd raw.toList) with
  | true =>
    rw [readLine_of_blank present, readLine_of_blank present]
    exact ⟨rfl, twin.atNextLine⟩
  | false =>
    have threshold : run.config.indentThreshold = other.config.indentThreshold :=
      agree.threshold twin.alike
    rw [readLine_of_present present, readLine_of_present present, threshold]
    exact feed_twins agree twin.atNextLine _ _

/-! ## Many lines -/

theorem readAll_twins (twin : Twin Alike run other) (lines : List String) :
    Twins Alike (readAll observer run lines) (readAll observer' other lines) := by
  induction lines generalizing run other with
  | nil => exact ⟨rfl, twin⟩
  | cons raw lines ih =>
    have read := readLine_twins agree twin raw
    simp only [readAll]
    cases first : readLine observer run raw with
    | mk next fault =>
      cases second : readLine observer' other raw with
      | mk next' fault' =>
        rw [first, second] at read
        obtain rfl : fault = fault' := read.answer
        cases fault with
        | none => exact ih read.twin
        | some fault => exact ⟨rfl, read.twin⟩

theorem settle_twins (twin : Twin Alike run other) :
    Twins Alike (settle observer run) (settle observer' other) := by
  rw [settle, settle, ← twin.session]
  cases run.session.phase with
  | idle => exact ⟨rfl, twin⟩
  | dialogue =>
    have ended := twin.endNode agree
    dsimp only
    cases first : endNode observer run with
    | mk next fault =>
      cases second : endNode observer' other with
      | mk next' fault' =>
        rw [first, second] at ended
        obtain rfl : fault = fault' := ended.answer
        cases fault with
        | none => exact ⟨rfl, ended.twin.withPhase .idle⟩
        | some fault => exact ⟨rfl, ended.twin⟩
  | choice => exact ⟨rfl, ((twin.endChoice agree).endBlock agree).withPhase .idle⟩

theorem close_twins (twin : Twin Alike run other)
    (flush : run.config.flushAtEnd = other.config.flushAtEnd) :
    Twins Alike (close observer run) (close observer' other) := by
  rw [close, close, ← flush, ← twin.session]
  split
  · exact settle_twins agree twin
  · split
    · exact ⟨rfl, twin⟩
    · exact ⟨rfl, twin.tell agree _ (by simp)⟩

/-- Compiles that begin as twins and agree about flushing have the same answer. -/
theorem compile_twins {config config' : Config} {state : σ} {state' : τ}
    (flush : ∀ {held held'}, Alike held held' → held.1.flushAtEnd = held'.1.flushAtEnd)
    (begun : Twin Alike (start observer config state) (start observer' config' state'))
    (lines : List String) :
    Twins Alike (compile observer config state lines) (compile observer' config' state' lines) := by
  have read := readAll_twins agree begun lines
  simp only [compile]
  cases first : readAll observer (start observer config state) lines with
  | mk next fault =>
    cases second : readAll observer' (start observer' config' state') lines with
    | mk next' fault' =>
      rw [first, second] at read
      obtain rfl : fault = fault' := read.answer
      cases fault with
      | some fault => exact ⟨rfl, read.twin⟩
      | none =>
        have closed := close_twins agree read.twin (flush read.twin.alike)
        dsimp only
        cases last : close observer next with
        | mk ended fault =>
          cases last' : close observer' next' with
          | mk ended' fault' =>
            rw [last, last'] at closed
            obtain rfl : fault = fault' := closed.answer
            cases fault with
            | some fault => exact ⟨rfl, closed.twin⟩
            | none =>
              have session_eq : ended.session = ended'.session := closed.twin.session
              simp only [result, ← session_eq]
              exact ⟨rfl, closed.twin.tell agree _ (by simp)⟩

end Agree

/-! ## What an observer keeps -/

/-- What an observer keeps whatever it is told holds of its state when a compile is over. -/
theorem state_of_compile {observer : Observer σ} (Kept : σ → Prop)
    (kept : ∀ notice config state, Kept state → Kept (observer.notify notice config state).2)
    (config : Config) {state : σ} (before : Kept state) (lines : List String) :
    Kept (compile observer config state lines).1.state := by
  -- A compile is a twin of itself, and that both are alike may say more than that they are equal.
  have agree : observer.Agree observer fun held held' => held = held' ∧ Kept held.2 := by
    constructor
    · intro held held' alike
      rw [alike.1]
    · intro held held' alike
      rw [alike.1]
    · intro held held' notice _ alike
      rw [← alike.1]
      exact ⟨rfl, kept notice held.1 held.2 alike.2⟩
  have begun : Twin (fun held held' => held = held' ∧ Kept held.2)
      (start observer config state) (start observer config state) :=
    ⟨rfl, rfl, kept ⟨0, .event (.started config)⟩ config state before⟩
  have both := compile_twins agree (fun alike => by rw [alike.1]) begun lines
  exact both.twin.alike.2

/-! ## Keeping a journal -/

/-- Whoever keeps a journal of a compile holds the same settings and the same state as without
it. -/
def SameBesideJournal (held : Config × σ) (held' : Config × σ × List Notice) : Prop :=
  held.1 = held'.1 ∧ held.2 = held'.2.1

theorem recording_agree (observer : Observer σ) :
    observer.Agree observer.recording SameBesideJournal where
  threshold := by
    intro held held' same
    rw [same.1]
  tagStem := by
    intro held held' same
    rw [same.1]
  told := by
    intro held held' notice _ same
    rw [same.1, same.2]
    exact ⟨rfl, rfl⟩

/-- Keeping a journal changes nothing about a compile. -/
theorem compile_recording (observer : Observer σ) (config : Config) (state : σ)
    (lines : List String) :
    (compile observer config state lines).2 =
        (compile observer.recording config (state, []) lines).2 ∧
      (compile observer config state lines).1.state =
        (compile observer.recording config (state, []) lines).1.state.1 := by
  have begun : Twin SameBesideJournal (start observer config state)
      (start observer.recording config (state, [])) := ⟨rfl, rfl, rfl⟩
  have both := compile_twins (recording_agree observer)
    (fun same => by rw [same.1]) begun lines
  exact ⟨both.answer, both.twin.alike.2⟩

end Run

end Dialogue
