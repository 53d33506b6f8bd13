import Dialogue.Proofs.Outline.Compile

/-!
# The invariant of sessions

Between two lines a session is in order. What has been closed is accounted for: by the
numbers of made tags, by the recorded nodes and the refused ones, and by the node that can
still receive choices. This does not depend on the phase, and so it is kept by every effect.
What is in the draft does depend on the phase: an open block has choices, a node that was
begun has a speaker. This is kept by every move of a line.
-/

namespace Dialogue

open Script Text

/-! ## Closed nodes -/

namespace Assembly

variable {before after : Assembly} {told earlier : List Bool}

/-- Recorded nodes leave no room once there is none. -/
theorem Step.isFull (step : before.Step told after)
    (full : before.isFull = true ∨ false ∈ told) : after.isFull = true := by
  cases step with
  | still => simpa using full
  | close node =>
    have full : before.isFull = true := by
      rcases full with full | refused
      · exact full
      · simpa using List.mem_singleton.mp refused
    rw [Assembly.close, if_pos full]
    exact full
  | attach attach_eq =>
    have full : before.isFull = true := by simpa using full
    obtain ⟨front, last, nodes_eq, rfl, rfl⟩ := exists_of_attach? attach_eq
    simpa [Assembly.isFull, nodes_eq] using full

/-- The node closed last can receive choices if it was recorded. -/
theorem Step.attachable (step : before.Step told after)
    (known : before.attachable = true ↔ earlier.getLast? = some true) :
    after.attachable = true ↔ (earlier ++ told).getLast? = some true := by
  cases step with
  | still => rwa [List.append_nil]
  | close node =>
    rw [List.getLast?_concat, attachable_close, Option.some.injEq]
  | attach attach_eq =>
    obtain ⟨front, last, nodes_eq, rfl, rfl⟩ := exists_of_attach? attach_eq
    rwa [List.append_nil]

end Assembly

namespace Session

variable {session after : Session} {news : List News}

/-- A number is used up for each closed node, and for nothing else. -/
theorem nextNumber_of_effect (effect : session.Effect news after) :
    after.nextNumber = session.nextNumber + (nodesIn news).length := by
  cases effect with
  | nextLine | enter | gather | label | target | openBlock | discard => rfl
  | command command =>
    rw [takeCommand, commandNews, ← Bounded.isNone_push? _ command]
    cases session.draft.commands.push? command <;> rfl
  | tag line =>
    rw [takeTag, tagNews]
    split <;> rfl
  | endNode =>
    rw [nodesIn_nodeNews]
    rfl
  | endChoice =>
    rw [quiet_endChoice.number, quiet_endChoice.unwritten]
    rfl
  | endBlock =>
    rw [quiet_endBlock.number, quiet_endBlock.unwritten]
    rfl

end Session

/-- What a journal and a session say about the nodes that were closed. -/
structure Books (journal : List Notice) (session : Session) : Prop where
  census : Census journal session
  numbered : session.nextNumber = (nodesWritten journal).length
  full : false ∈ closures (events journal) → session.assembly.isFull = true
  attachable : session.assembly.attachable = true ↔
    (closures (events journal)).getLast? = some true

namespace Books

variable {journal : List Notice} {session after : Session} {news : List News}

theorem start (config : Config) (begun : events journal = [.started config])
    (unwritten : nodesWritten journal = []) : Books journal (.start config) where
  census := .start config begun unwritten
  numbered := by
    rw [unwritten]
    rfl
  full := by simp [begun, closures, CompileEvent.recorded?]
  attachable := by simp [begun, closures, CompileEvent.recorded?, Session.start]

theorem append (books : Books journal session) (effect : session.Effect news after) :
    Books (journal ++ session.notices news) after where
  census := books.census.append effect
  numbered := by
    rw [Session.nextNumber_of_effect effect, books.numbered, nodesWritten_append_notices,
      List.length_append]
  full := by
    rw [events_append, events_notices, closures_append, List.mem_append]
    intro refused
    exact (Session.step_of_effect effect).isFull (refused.imp_left books.full)
  attachable := by
    rw [events_append, events_notices, closures_append]
    exact (Session.step_of_effect effect).attachable books.attachable

/-- If a node was refused, there is no room for others. -/
theorem isFull_of_refused (books : Books journal session)
    (refused : session.dropped.count .node ≠ 0) : session.assembly.isFull = true := by
  rw [books.census.refused, Nat.ne_zero_iff_zero_lt, List.countP_pos_iff] at refused
  obtain ⟨event, member, drop⟩ := refused
  refine books.full (List.mem_filterMap.mpr ⟨event, member, ?_⟩)
  cases event with
  | entryDropped kind =>
    cases kind with
    | node => rfl
    | command | choice => cases drop
  | started | nodeClosed | choicesAttached | finished => cases drop

/-- No node can receive choices if none was closed or the one closed last was refused. -/
theorem last?_eq_none_iff (books : Books journal session) :
    session.assembly.last? = none ↔ closures (events journal) = [] ∨
      (closures (events journal)).getLast? = some false := by
  rw [Assembly.last?_eq_none_iff, ← Bool.not_eq_true, books.attachable, ← List.getLast?_eq_none_iff]
  cases (closures (events journal)).getLast? with
  | none => simp
  | some recorded => simp

/-- The numbers that were used up are those of the recorded and the refused nodes. -/
theorem nextNumber_eq (books : Books journal session) :
    session.nextNumber = session.assembly.nodes.length + session.dropped.count .node := by
  have tags := congrArg List.length books.census.named
  rw [List.length_map, length_closedTags] at tags
  rw [books.numbered, ← tags, books.census.recorded, books.census.refused, Nat.add_comm]

end Books

/-! ## The draft -/

/-- What the phase of a session says about its draft. No line of text in it is blank. -/
structure Session.Poised (session : Session) : Prop where
  unopened : session.phase ≠ .choice → session.draft.choices.items = []
  spoken : session.phase = .dialogue → session.draft.speaker ≠ none
  present : ∀ line ∈ session.draft.text, isBlankLine line.toList = false

namespace Session.Poised

variable {session : Session}

theorem start (config : Config) : (Session.start config).Poised where
  unopened := fun _ => rfl
  spoken := by
    intro phase
    cases phase
  present := by simp [Session.start, Draft.start]

theorem addText (poised : session.Poised) {line : String}
    (present : isBlankLine line.toList = false) :
    Session.Poised { session with draft := session.draft.addText line } where
  unopened := poised.unopened
  spoken := poised.spoken
  present := by
    intro other member
    rcases List.mem_append.mp member with before | same
    · exact poised.present other before
    · exact List.mem_singleton.mp same ▸ present

theorem takeLabel (poised : session.Poised) (phase : session.phase = .idle) (line : String) :
    (session.takeLabel line).Poised where
  unopened := by
    intro _
    exact poised.unopened (by simp [phase])
  spoken := fun _ => Option.some_ne_none _
  present := poised.present

/-- A change between nodes to neither text nor choices. -/
theorem of_idle (poised : session.Poised) (phase : session.phase = .idle) {next : Session}
    (phase_eq : next.phase = session.phase) (text : next.draft.text = session.draft.text)
    (choices : next.draft.choices = session.draft.choices) : next.Poised where
  unopened := by
    intro _
    rw [choices]
    exact poised.unopened (by simp [phase])
  spoken := by
    intro dialogue
    rw [phase_eq, phase] at dialogue
    cases dialogue
  present := text ▸ poised.present

/-- A block may hold whatever choices it has, and no speaker is asked for in it. -/
theorem of_choice (phase : session.phase = .choice)
    (present : ∀ line ∈ session.draft.text, isBlankLine line.toList = false) : session.Poised where
  unopened := fun outside => absurd phase outside
  spoken := by
    intro dialogue
    rw [phase] at dialogue
    cases dialogue
  present := present

/-- Between nodes, with nothing in the draft but what belongs to the next node. -/
theorem of_spent (phase : session.phase = .idle) (choices : session.draft.choices.items = [])
    (text : session.draft.text = []) : session.Poised where
  unopened := fun _ => choices
  spoken := by
    intro dialogue
    rw [phase] at dialogue
    cases dialogue
  present := by simp [text]

end Session.Poised

namespace Run

variable {σ : Type} {observer : Observer σ} {run next : Run σ} {line : String} {kind : LineKind}

theorem poised_of_consumed (present : isBlankLine line.toList = false)
    (poised : run.session.Poised) (move : Move observer line kind run next .consumed) :
    next.session.Poised := by
  cases move with
  | gather | gatherChoice => exact poised.addText present
  | label phase => exact poised.takeLabel phase line
  | @command command phase =>
    rw [session_takeCommand]
    obtain ⟨text, choices, -⟩ := @Session.views_takeCommand run.session command
    exact poised.of_idle phase (Session.phase_takeCommand _ _) text choices
  | tag phase =>
    rw [session_takeTag]
    obtain ⟨text, choices, -⟩ := @Session.views_takeTag run.session line
    exact poised.of_idle phase (Session.phase_takeTag line) text choices
  | target phase =>
    rw [session_endChoice, session_takeTarget]
    exact .of_choice (Session.phase_endChoice.trans phase) (by simp)
  | skip => exact poised

theorem poised_of_handOn {phase : Phase} (poised : run.session.Poised)
    (move : Move observer line kind run next (.handOn phase)) :
    (next.withPhase phase).session.Poised := by
  cases move with
  | openBlock => exact .of_choice rfl poised.present
  | endNode open_node _ ended =>
    obtain ⟨node, -, session_eq⟩ := exists_node_of_endNode observer ended
    have unopened := poised.unopened (by simp [open_node])
    rw [session_withPhase, session_eq]
    exact .of_spent rfl (by simp [Session.endNode, unopened]) (by simp [Session.endNode])
  | targetBehind => exact .of_spent rfl (by simp) (by simp)
  | endBlock => exact .of_spent rfl (by simp) (by simp)

theorem poised_of_readLine (poised : run.session.Poised) {raw : String}
    (read : readLine observer run raw = (next, none)) : next.session.Poised := by
  have counted : run.atNextLine.session.Poised := { poised with }
  cases present : isBlankLine (trimLineEnd raw.toList) with
  | true =>
    rw [readLine_of_blank present] at read
    obtain ⟨rfl, -⟩ := Prod.mk.inj read
    exact counted
  | false =>
    rw [readLine_of_present present] at read
    refine feed_keeps (fun run => run.session.Poised) (fun next => next.session.Poised) ?_ ?_
      counted read
    · intro run next poised move
      exact poised_of_consumed (by simpa using isBlankLine_dedent present) poised move
    · intro run next phase poised move
      exact poised_of_handOn poised move

end Run

/-! ## Sessions -/

/-- A session that is in order, under the settings that the compile began with and with what its
events tell of the nodes that were closed. -/
structure Session.Coherent (limits : Config) (told : List CompileEvent) (session : Session) :
    Prop where
  tag_ne_empty : session.draft.tag ≠ ""
  /-- Each made tag is for a node behind one that was recorded or refused. -/
  nextNumber_eq :
    session.nextNumber = session.assembly.nodes.length + session.dropped.count .node
  nodes_le : session.assembly.nodes.length ≤ limits.maxNodes
  commands_le : session.draft.commands.items.length ≤ limits.maxCommands
  choices_le : session.draft.choices.items.length ≤ limits.maxChoices
  unopened : session.phase ≠ .choice → session.draft.choices.items = []
  present : ∀ line ∈ session.draft.text, isBlankLine line.toList = false
  spoken : session.phase = .dialogue → session.draft.speaker ≠ none
  full : session.dropped.count .node ≠ 0 → session.assembly.nodes.length = limits.maxNodes
  last : ∀ node, session.assembly.last? = some node →
    session.assembly.nodes.getLast? = some node
  /-- No node receives choices if none was closed or the one closed last was refused. -/
  unattached : session.assembly.last? = none ↔
    closures told = [] ∨ (closures told).getLast? = some false

theorem Books.coherent {journal : List Notice} {session : Session} {limits : Config}
    (books : Books journal session) (within : session.Within limits) (poised : session.Poised) :
    session.Coherent limits (events journal) where
  tag_ne_empty := within.draft.tag_ne_empty
  nextNumber_eq := books.nextNumber_eq
  nodes_le := within.graph.nodes_le
  commands_le := within.length_commands_le
  choices_le := within.draft.choices_capacity ▸ session.draft.choices.length_le
  unopened := poised.unopened
  present := poised.present
  spoken := poised.spoken
  full := by
    intro refused
    have full := books.isFull_of_refused refused
    rw [Assembly.isFull, within.capacity, decide_eq_true_iff, Int.ofNat_le] at full
    exact Nat.le_antisymm within.graph.nodes_le full
  last := fun node => Assembly.getLast?_of_last?
  unattached := books.last?_eq_none_iff

namespace Run

variable {σ : Type}

/-- Whatever lines are read, and whatever an observer does to the settings on the way, there is a
session, and it is in order. -/
theorem coherent_of_readAll (observer : Observer σ) (config : Config) (state : σ)
    (lines : List String) :
    ∃ run, readAll observer.recording (start observer.recording config (state, [])) lines =
        (run, none) ∧
      run.session.Coherent config (events run.journal) := by
  have begun : (start observer.recording config (state, [])).session.Within config := .start config
  obtain ⟨run, readAll_eq, within⟩ := readAll_within observer.recording lines begun
  refine ⟨run, readAll_eq, Books.coherent ?_ within ?_⟩
  · refine readAll_induction (fun _ run => Books run.journal run.session) ?_
      (.start config rfl rfl) readAll_eq
    intro _ raw run next books read
    exact law_of_readLine (fun books effect => books.append effect) raw books read
  · refine readAll_induction (fun _ run => run.session.Poised) ?_ (.start config) readAll_eq
    intro _ raw run next poised read
    exact poised_of_readLine poised read

/-- A refused node uses up a number, and takes the place of the node that could receive choices. -/
example :
    let session := (readAll .silent (start .silent { maxNodes := 1 } ())
      ["Alice:", "Hi.", "Bob:", "Well.", "@wave"]).1.session
    session.nextNumber = 2 ∧ session.assembly.nodes.length = 1 ∧
      session.dropped.count .node = 1 ∧ session.assembly.last? = none := by
  decide +kernel

end Run

end Dialogue
