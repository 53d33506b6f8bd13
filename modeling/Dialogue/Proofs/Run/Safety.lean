import Dialogue.Proofs.Run.Effects
import Dialogue.Proofs.Script.Kind
import Dialogue.Proofs.Script.Token

/-!
# Compiling never fails

Whatever the lines are and whatever an observer does to the settings, a compile has a
graph, and the graph is within the limits that the settings set when the compile began.
Two things could go wrong: a line that is taken for a command may have no end of a name,
and a node may have no usable tag. The first is excluded by what a command line looks
like, the second by an invariant of sessions.
-/

namespace Dialogue

open Script Text

/-- A node that keeps to the limits. -/
structure Node.Within (limits : Config) (node : Node) : Prop where
  tag_ne_empty : node.tag ≠ ""
  commands_le : node.commands.length ≤ limits.maxCommands
  choices_le : node.choices.length ≤ limits.maxChoices

/-- A graph that keeps to the limits. -/
structure Graph.Within (limits : Config) (graph : Graph) : Prop where
  nodes_le : graph.nodes.length ≤ limits.maxNodes
  node : ∀ node ∈ graph.nodes, node.Within limits

/-- The buffers of a draft have the capacities that the limits give, and its tag is usable. -/
structure Draft.Within (limits : Config) (draft : Draft) : Prop where
  tag_ne_empty : draft.tag ≠ ""
  commands_capacity : draft.commands.capacity = limits.maxCommands
  choices_capacity : draft.choices.capacity = limits.maxChoices

/-- A session that keeps to the limits under which it was started. -/
structure Session.Within (limits : Config) (session : Session) : Prop where
  draft : session.draft.Within limits
  capacity : session.assembly.capacity = limits.maxNodes
  graph : session.assembly.graph.Within limits

variable {limits : Config}

/-! ## Drafts -/

namespace Draft.Within

variable {draft : Draft}

theorem start (limits : Config) : (Draft.start limits).Within limits :=
  ⟨limits.startTag_ne_empty, rfl, rfl⟩

theorem exists_node (within : draft.Within limits) : ∃ node, draft.node? = some node := by
  cases written : draft.node? with
  | none => exact absurd (Draft.node?_eq_none_iff.mp written) within.tag_ne_empty
  | some node => exact ⟨node, rfl⟩

theorem node_within (within : draft.Within limits) {node : Node}
    (written : draft.node? = some node) : node.Within limits := by
  rw [Draft.node?] at written
  split at written
  next usable =>
    obtain rfl := Option.some.inj written
    have bound := draft.commands.length_le
    rw [within.commands_capacity] at bound
    exact ⟨usable, bound, Nat.zero_le _⟩
  next => cases written

theorem drainNode (within : draft.Within limits) {tag : String} (usable : tag ≠ "") :
    Draft.Within limits { draft.drainNode.2 with tag } := by
  rw [Draft.drainNode]
  cases draft.node? with
  | none => exact { within with tag_ne_empty := usable }
  | some node => exact { within with tag_ne_empty := usable }

end Draft.Within

/-! ## Closed nodes -/

namespace Graph.Within

variable {assembly : Assembly}

theorem close (within : assembly.graph.Within limits) (capacity : assembly.capacity = limits.maxNodes)
    {node : Node} (fits : node.Within limits) : (assembly.close node).graph.Within limits := by
  constructor
  · cases full : assembly.isFull with
    | true =>
      simp only [Assembly.graph, Assembly.nodes_close_of_full full]
      exact within.nodes_le
    | false =>
      have room : assembly.nodes.length < limits.maxNodes := by
        simpa [Assembly.isFull, capacity] using full
      simpa [Assembly.graph, Assembly.nodes_close_of_room full] using Nat.succ_le_of_lt room
  · intro other member
    rcases Assembly.mem_close member with recorded | rfl
    · exact within.node other recorded
    · exact fits

theorem attach? (within : assembly.graph.Within limits) {choices : List Choice}
    (few : choices.length ≤ limits.maxChoices) {node : Node} {attached : Assembly}
    (attach_eq : assembly.attach? choices = some (node, attached)) :
    attached.graph.Within limits := by
  obtain ⟨front, last, nodes_eq, rfl, rfl⟩ := Assembly.exists_of_attach? attach_eq
  have bounds := within
  simp only [Assembly.graph, nodes_eq] at bounds ⊢
  constructor
  · simpa using bounds.nodes_le
  · intro other member
    rcases List.mem_append.mp member with before | same
    · exact bounds.node other (List.mem_append_left _ before)
    · obtain rfl := List.mem_singleton.mp same
      exact { bounds.node last (by simp) with choices_le := few }

end Graph.Within

/-! ## Sessions -/

namespace Session.Within

variable {session : Session}

theorem start (limits : Config) : (Session.start limits).Within limits :=
  ⟨.start limits, rfl, Nat.zero_le _, by simp [Session.start, Assembly.empty, Assembly.graph]⟩

theorem addText (within : session.Within limits) (line : String) :
    Session.Within limits { session with draft := session.draft.addText line } :=
  { within with draft := { within.draft with } }

theorem takeLabel (within : session.Within limits) (line : String) :
    (session.takeLabel line).Within limits :=
  { within with draft := { within.draft with } }

theorem takeTarget (within : session.Within limits) (line : String) :
    (session.takeTarget line).Within limits :=
  { within with draft := { within.draft with } }

theorem takeCommand (within : session.Within limits) (command : Command) :
    (session.takeCommand command).Within limits := by
  rw [Session.takeCommand]
  cases pushed : session.draft.commands.push? command with
  | none => exact { within with }
  | some commands =>
    have capacity := (Bounded.capacity_of_push? pushed).trans within.draft.commands_capacity
    exact { within with draft := { within.draft with commands_capacity := capacity } }

/-- A tag line without content is not taken, and so the pending tag stays usable. -/
theorem takeTag (within : session.Within limits) (line : String) :
    (session.takeTag line).Within limits := by
  rw [Session.takeTag]
  cases tagContent? line.toList with
  | none => exact within
  | some content =>
    cases content with
    | nil => exact within
    | cons c content =>
      have usable : String.ofList (c :: content) ≠ "" := by
        simp [← String.toList_inj]
      exact { within with draft := { within.draft with tag_ne_empty := usable } }

theorem endNode (within : session.Within limits) {node : Node}
    (written : session.draft.node? = some node) {tag : String} (usable : tag ≠ "") :
    (session.endNode node tag).Within limits where
  draft := within.draft.drainNode usable
  capacity := (Assembly.capacity_close _ _).trans within.capacity
  graph := within.graph.close within.capacity (within.draft.node_within written)

theorem endChoice (within : session.Within limits) : session.endChoice.Within limits := by
  rw [Session.endChoice]
  cases session.draft.drainChoice.1 with
  | none => exact { within with draft := { within.draft with } }
  | some choice =>
    dsimp only
    cases pushed : session.draft.choices.push? choice with
    | none => exact { within with draft := { within.draft with } }
    | some choices =>
      have capacity := (Bounded.capacity_of_push? pushed).trans within.draft.choices_capacity
      exact { within with draft := { within.draft with choices_capacity := capacity } }

theorem endBlock (within : session.Within limits) : session.endBlock.Within limits := by
  have draft : session.draft.drainChoices.2.Within limits := { within.draft with }
  have few : session.draft.choices.items.length ≤ limits.maxChoices :=
    within.draft.choices_capacity ▸ session.draft.choices.length_le
  simp only [Session.endBlock]
  cases attached : session.assembly.attach? session.draft.drainChoices.1 with
  | none => exact { within with draft }
  | some found =>
    obtain ⟨node, assembly⟩ := found
    obtain ⟨_, _, _, _, rfl⟩ := Assembly.exists_of_attach? attached
    exact { within with draft, graph := within.graph.attach? few attached }

end Session.Within

/-! ## Runs -/

namespace Run

variable {σ : Type} (observer : Observer σ) {run : Run σ}

theorem endNode_within (within : run.session.Within limits) :
    ∃ next, endNode observer run = (next, none) ∧ next.session.Within limits := by
  obtain ⟨node, written⟩ := within.draft.exists_node
  obtain ⟨next, ended, session_eq⟩ := endNode_of_node observer written
  exact ⟨next, ended,
    session_eq ▸ within.endNode written (Config.numberedTag_ne_empty next.config _)⟩

variable {line : String} {kind : LineKind}

/-- No move fails on a line that fits its kind, and every other move keeps the limits. -/
theorem within_of_move {next : Run σ} {outcome : Outcome}
    (sign : kind = .command → line.toList.head? = some '@')
    (within : run.session.Within limits) (move : Move observer line kind run next outcome) :
    (∀ fault, outcome ≠ .failed fault) ∧ next.session.Within limits := by
  cases move with
  | gather | gatherChoice => exact ⟨by simp, within.addText line⟩
  | label => exact ⟨by simp, within.takeLabel line⟩
  | command => exact ⟨by simp, by simpa using within.takeCommand _⟩
  | unfinished _ kind_eq parsed =>
    obtain ⟨command, named⟩ := exists_command_of_head? (sign kind_eq)
    simp [named] at parsed
  | tag => exact ⟨by simp, by simpa using within.takeTag line⟩
  | openBlock => exact ⟨by simp, within⟩
  | endNode _ _ ended =>
    obtain ⟨_, found, kept⟩ := endNode_within observer within
    obtain ⟨rfl, -⟩ := Prod.mk.inj (ended.symm.trans found)
    exact ⟨by simp, kept⟩
  | nodeFailed _ _ ended =>
    obtain ⟨_, found, -⟩ := endNode_within observer within
    cases ended.symm.trans found
  | target => exact ⟨by simp, by simpa using (within.takeTarget line).endChoice⟩
  | targetBehind => exact ⟨by simp, by simpa using (within.takeTarget line).endChoice.endBlock⟩
  | skip => exact ⟨by simp, within⟩
  | endBlock => exact ⟨by simp, by simpa using within.endChoice.endBlock⟩

theorem feed_within (sign : kind = .command → line.toList.head? = some '@')
    (within : run.session.Within limits) :
    ∃ next, feed observer run line kind = (next, none) ∧ next.session.Within limits := by
  have fed : (feed observer run line kind).2 = none ∧
      (feed observer run line kind).1.session.Within limits := by
    refine feed_induction (fun run => run.session.Within limits)
      (fun next fault => fault = none ∧ next.session.Within limits) ?_ ?_ ?_ run within
    · intro _ _ before move
      exact ⟨rfl, (within_of_move observer sign before move).2⟩
    · intro _ _ fault before move
      exact absurd rfl ((within_of_move observer sign before move).1 fault)
    · intro _ _ _ before move
      exact { (within_of_move observer sign before move).2 with }
  exact ⟨_, Prod.ext rfl fed.1, fed.2⟩

theorem readLine_within (raw : String) (within : run.session.Within limits) :
    ∃ next, readLine observer run raw = (next, none) ∧ next.session.Within limits := by
  cases present : isBlankLine (trimLineEnd raw.toList) with
  | true =>
    rw [readLine_of_blank present]
    exact ⟨_, rfl, { within with }⟩
  | false =>
    rw [readLine_of_present present]
    exact feed_within observer (IsReading.head?_of_command ⟨_, present, rfl, rfl⟩)
      { within with }

theorem readAll_within (lines : List String) (within : run.session.Within limits) :
    ∃ next, readAll observer run lines = (next, none) ∧ next.session.Within limits := by
  induction lines generalizing run with
  | nil => exact ⟨run, rfl, within⟩
  | cons raw lines ih =>
    obtain ⟨between, read, within⟩ := readLine_within observer raw within
    rw [readAll_cons observer lines read]
    exact ih within

theorem close_within (within : run.session.Within limits) :
    ∃ next, close observer run = (next, none) ∧ next.session.Within limits := by
  rw [close, settle]
  split
  next =>
    cases run.session.phase with
    | idle => exact ⟨run, rfl, within⟩
    | dialogue =>
      obtain ⟨next, ended, kept⟩ := endNode_within observer within
      simp only [ended]
      exact ⟨_, rfl, { kept with }⟩
    | choice =>
      have kept : (endBlock observer (endChoice observer run)).session.Within limits := by
        simpa using within.endChoice.endBlock
      exact ⟨_, rfl, { kept with }⟩
  next =>
    split
    · exact ⟨run, rfl, within⟩
    · exact ⟨_, rfl, within⟩

/-- A compile reads every line, closes the end and has the graph of the nodes that it recorded. -/
theorem exists_compile (config : Config) (state : σ) (lines : List String) :
    ∃ read closed, readAll observer (start observer config state) lines = (read, none) ∧
      close observer read = (closed, none) ∧ closed.session.Within config ∧
      compile observer config state lines =
        ((result observer closed).1, .ok closed.session.assembly.graph) := by
  have begun : (start observer config state).session.Within config := .start config
  obtain ⟨read, readAll_eq, within⟩ := readAll_within observer lines begun
  obtain ⟨closed, close_eq, within⟩ := close_within observer within
  exact ⟨read, closed, readAll_eq, close_eq, within,
    compile_eq_ok_iff.mpr ⟨read, closed, readAll_eq, close_eq, rfl⟩⟩

/-- Compiling never fails: for all lines, all settings and every observer there is a graph, all
its tags are usable, and it keeps to the limits in force when the compile began. An
observer may change the settings at every notice; a bus is one (`Publisher.observer`),
whatever its handlers do. -/
theorem compile_within (config : Config) (state : σ) (lines : List String) :
    ∃ run graph, compile observer config state lines = (run, .ok graph) ∧
      graph.Within config := by
  obtain ⟨_, closed, -, -, within, compiled⟩ := exists_compile observer config state lines
  exact ⟨_, _, compiled, within.graph⟩

end Run

end Dialogue
