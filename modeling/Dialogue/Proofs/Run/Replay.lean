import Dialogue.Proofs.Run.Safety
import Dialogue.Proofs.Run.Journal

/-!
# Replaying events

The events of a compile tell how its graph came about. A replay begins without nodes; an
event about a closed node appends the node, and an event about attached choices puts the
node with these choices in place of the last one. A replay is strict about positions and
about the node that choices go to. The events of a compile replay to its graph, and so
the events alone tell which choices a node of the graph has: those that were attached to
it last.
-/

namespace Dialogue

/-- The nodes after an event; nothing if the event does not fit the nodes before it. -/
def CompileEvent.replay? (nodes : List Node) : CompileEvent → Option (List Node)
  | .nodeClosed node index => if index = nodes.length then some (nodes ++ [node]) else none
  | .choicesAttached node choices =>
    match nodes.getLast? with
    | none => none
    | some last =>
      if node = { last with choices } then some (nodes.dropLast ++ [node]) else none
  | .started _ | .entryDropped _ _ _ | .finished _ _ => some nodes

/-- The nodes after events in order. -/
def replay? : List Node → List CompileEvent → Option (List Node)
  | nodes, [] => some nodes
  | nodes, event :: rest => (event.replay? nodes).bind (replay? · rest)

variable {nodes next : List Node} {node : Node} {choices : List Choice}
  {log rest : List CompileEvent}

/-! ## One event after another -/

theorem replay?_nodeClosed {index : Nat} :
    CompileEvent.replay? nodes (.nodeClosed node index) = some next ↔
      index = nodes.length ∧ next = nodes ++ [node] := by
  simp [CompileEvent.replay?, eq_comm]

/-- Choices go to the last of the nodes. -/
theorem replay?_choicesAttached :
    CompileEvent.replay? nodes (.choicesAttached node choices) = some next ↔
      ∃ front last, nodes = front ++ [last] ∧ node = { last with choices } ∧
        next = front ++ [node] := by
  constructor
  · intro replayed
    simp only [CompileEvent.replay?] at replayed
    split at replayed
    next => cases replayed
    next last found =>
      obtain ⟨front, rfl⟩ := List.getLast?_eq_some_iff.mp found
      split at replayed
      next fits => exact ⟨front, last, rfl, fits, by simpa [eq_comm] using replayed⟩
      next => cases replayed
  · rintro ⟨front, last, rfl, rfl, rfl⟩
    simp [CompileEvent.replay?]

theorem replay?_append : replay? nodes (log ++ rest) =
    (replay? nodes log).bind (replay? · rest) := by
  induction log generalizing nodes with
  | nil => rfl
  | cons event log ih =>
    cases replayed : event.replay? nodes with
    | none => simp [replay?, replayed]
    | some between => simpa [replay?, replayed] using ih

/-! ## What a session tells -/

/-- What happens to a session tells how its nodes change. -/
theorem replay?_of_effect {session after : Session} {news : List News}
    (effect : session.Effect news after) :
    replay? session.assembly.nodes (news.filterMap News.event?) =
      some after.assembly.nodes := by
  cases effect with
  | nextLine | enter | gather | label | target | openBlock | discard => rfl
  | command command =>
    rw [(Session.views_takeCommand command).2.2]
    rw [Session.commandNews]
    split <;> rfl
  | tag line =>
    rw [(Session.views_takeTag line).2.2]
    rw [Session.tagNews]
    split <;> rfl
  | @endNode node written tag =>
    simp only [Session.nodeNews, Session.endNode]
    cases full : session.assembly.isFull with
    | true => rw [Assembly.nodes_close_of_full full]; rfl
    | false =>
      have replayed := replay?_nodeClosed.mpr ⟨rfl, Assembly.nodes_close_of_room full node⟩
      simp [List.filterMap_cons, News.event?, replay?, replayed]
  | endChoice =>
    rw [Session.assembly_endChoice]
    rw [Session.choiceNews]
    split
    next => rfl
    next => split <;> rfl
  | endBlock =>
    rw [Session.blockNews, Session.endBlock]
    simp only [Draft.drainChoices]
    cases attached : session.assembly.attach? session.draft.choices.items with
    | none => cases session.draft.choices.items.isEmpty <;> rfl
    | some found =>
      obtain ⟨node, assembly⟩ := found
      obtain ⟨front, last, nodes_eq, node_eq, assembly_eq⟩ :=
        Assembly.exists_of_attach? attached
      have replayed := replay?_choicesAttached.mpr ⟨front, last, nodes_eq, node_eq, rfl⟩
      simp [List.filterMap_cons, News.event?, replay?, replayed, assembly_eq]

/-- The events of a compile replay to its graph. -/
theorem Run.replay?_of_compile {σ : Type} (observer : Observer σ) (config : Config) (state : σ)
    (lines : List String) :
    ∃ run graph, compile observer.recording config (state, []) lines = (run, .ok graph) ∧
      replay? [] (events run.journal) = some graph.nodes := by
  obtain ⟨read, closed, readAll_eq, close_eq, -, compiled⟩ :=
    exists_compile observer.recording config (state, []) lines
  have replayed : replay? [] (events closed.journal) = some closed.session.assembly.nodes := by
    refine law_of_compile
      (fun journal session => replay? [] (events journal) = some session.assembly.nodes)
      ?_ rfl readAll_eq close_eq
    intro journal session news next replayed effect
    rw [events_append, events_notices, replay?_append, replayed]
    exact replay?_of_effect effect
  refine ⟨_, _, compiled, ?_⟩
  simp only [result, journal_tell, events_append, events_notices, replay?_append, replayed]
  rfl

/-! ## Attached choices -/

/-- Whether an event is about a closed node. -/
def CompileEvent.isNodeClosed : CompileEvent → Bool
  | .nodeClosed _ _ => true
  | _ => false

/-- Whether choices are attached before another node is closed. -/
def attachesAgain : List CompileEvent → Bool
  | [] => false
  | .choicesAttached _ _ :: _ => true
  | .nodeClosed _ _ :: _ => false
  | _ :: rest => attachesAgain rest

/-- A replay adds one node for each event about a closed node. -/
theorem length_of_replay? (replayed : replay? nodes log = some next) :
    next.length = nodes.length + log.countP CompileEvent.isNodeClosed := by
  induction log generalizing nodes with
  | nil =>
    obtain rfl := Option.some.inj replayed
    rfl
  | cons event log ih =>
    obtain ⟨between, fits, replayed⟩ := Option.bind_eq_some_iff.mp replayed
    rw [ih replayed]
    cases event with
    | nodeClosed node index =>
      obtain ⟨-, rfl⟩ := replay?_nodeClosed.mp fits
      rw [List.countP_cons_of_pos rfl, List.length_append, List.length_singleton]
      omega
    | choicesAttached node choices =>
      obtain ⟨front, last, rfl, -, rfl⟩ := replay?_choicesAttached.mp fits
      simp [CompileEvent.isNodeClosed]
    | started | entryDropped | finished =>
      obtain rfl := Option.some.inj fits
      simp [CompileEvent.isNodeClosed]

/-- The last node stays where it is, and it keeps its choices unless it is given others before
another node is closed. -/
theorem exists_of_replay? {front : List Node}
    (replayed : replay? (front ++ [node]) log = some next) :
    ∃ choices behind, next = front ++ { node with choices } :: behind ∧
      (attachesAgain log = false → choices = node.choices) := by
  induction log generalizing front node with
  | nil =>
    obtain rfl := Option.some.inj replayed
    exact ⟨node.choices, [], rfl, fun _ => rfl⟩
  | cons event log ih =>
    obtain ⟨between, fits, replayed⟩ := Option.bind_eq_some_iff.mp replayed
    cases event with
    | nodeClosed other index =>
      -- Behind a new last node this one is part of the front and is not changed any more.
      obtain ⟨-, rfl⟩ := replay?_nodeClosed.mp fits
      obtain ⟨choices, behind, rfl, -⟩ := ih replayed
      exact ⟨node.choices, { other with choices } :: behind, by simp, fun _ => rfl⟩
    | choicesAttached other choices =>
      obtain ⟨_, last, same, rfl, rfl⟩ := replay?_choicesAttached.mp fits
      obtain ⟨rfl, rfl⟩ : front = _ ∧ node = last := by simpa using same
      obtain ⟨later, behind, rfl, -⟩ := ih replayed
      exact ⟨later, behind, rfl, by simp [attachesAgain]⟩
    | started | entryDropped | finished =>
      obtain rfl := Option.some.inj fits
      exact ih replayed

/-- An event about attached choices is about a node that stays in the result, with these choices
unless others are attached to it later. -/
theorem kept_of_replay?
    (replayed : replay? [] (log ++ .choicesAttached node choices :: rest) = some nodes) :
    ∃ index kept, log.countP CompileEvent.isNodeClosed = index + 1 ∧
      nodes[index]? = some kept ∧ node = { kept with choices } ∧
      (attachesAgain rest = false → kept.choices = choices) := by
  rw [replay?_append] at replayed
  obtain ⟨before, replayed_log, replayed⟩ := Option.bind_eq_some_iff.mp replayed
  obtain ⟨_, fits, replayed⟩ := Option.bind_eq_some_iff.mp replayed
  obtain ⟨front, last, rfl, rfl, rfl⟩ := replay?_choicesAttached.mp fits
  obtain ⟨later, behind, rfl, unchanged⟩ := exists_of_replay? replayed
  have count := length_of_replay? replayed_log
  exact ⟨front.length, { last with choices := later }, by simpa using count.symm, by simp, rfl,
    unchanged⟩

namespace Run

variable {σ : Type} (observer : Observer σ)

/-- Choices that were attached to a node are the choices of that node in the graph, unless
choices are attached to it again. The node is the one closed last before the event, and the
number of nodes closed until then gives its position. -/
theorem attached_choices_kept (config : Config) (state : σ) (lines : List String) :
    ∃ run graph, compile observer.recording config (state, []) lines = (run, .ok graph) ∧
      ∀ before node choices after,
        events run.journal = before ++ .choicesAttached node choices :: after →
          ∃ index kept, before.countP CompileEvent.isNodeClosed = index + 1 ∧
            graph.nodes[index]? = some kept ∧ node = { kept with choices } ∧
            (attachesAgain after = false → kept.choices = choices) := by
  obtain ⟨run, graph, compiled, replayed⟩ := replay?_of_compile observer config state lines
  refine ⟨run, graph, compiled, ?_⟩
  intro before node choices after split
  exact kept_of_replay? (split ▸ replayed)

/-- Of two blocks behind one node the second counts. -/
theorem attached_choices_kept_silent :
    ∃ run graph, compile Observer.silent.recording {} ((), [])
        ["Alice:", "Pick", "\tYes", "\t[yes]", "@wave", "\tNo", "\t[no]"] = (run, .ok graph) ∧
      ∃ kept, graph.nodes[0]? = some kept ∧ kept.choices = [⟨"No", some "no"⟩] := by
  obtain ⟨run, graph, compiled, kept⟩ := attached_choices_kept .silent {} ()
    ["Alice:", "Pick", "\tYes", "\t[yes]", "@wave", "\tNo", "\t[no]"]
  obtain rfl : _ = run := congrArg Prod.fst compiled
  obtain ⟨index, node, count, found, -, unchanged⟩ := kept
    [.started {}, .nodeClosed ⟨"start", some "Alice", "Pick", [], [], by decide⟩ 0,
      .choicesAttached ⟨"start", some "Alice", "Pick", [], [⟨"Yes", some "yes"⟩], by decide⟩
        [⟨"Yes", some "yes"⟩]]
    ⟨"start", some "Alice", "Pick", [], [⟨"No", some "no"⟩], by decide⟩ [⟨"No", some "no"⟩]
    [.finished ⟨[⟨"start", some "Alice", "Pick", [], [⟨"No", some "no"⟩], by decide⟩]⟩ .empty]
    (by decide +kernel)
  obtain rfl : index = 0 := (Nat.succ.inj count).symm
  exact ⟨_, graph, compiled, node, found, unchanged rfl⟩

/-- A later block, even one without a choice in it, takes the choices of an earlier one away. -/
theorem attached_choice_lost :
    ∃ run graph node, compile Observer.silent.recording {} ((), [])
        ["Alice:", "Pick", "\tYes", "\t[yes]", "@wave", "\t@wave"] = (run, .ok graph) ∧
      .choicesAttached node [⟨"Yes", some "yes"⟩] ∈ events run.journal ∧
        ∀ kept ∈ graph.nodes, kept.choices = [] := by
  refine ⟨_, ⟨[⟨"start", some "Alice", "Pick", [], [], by decide⟩]⟩,
    ⟨"start", some "Alice", "Pick", [], [⟨"Yes", some "yes"⟩], by decide⟩,
    Prod.ext rfl ?_, ?_, by simp⟩
  · decide +kernel
  · decide +kernel

end Run

end Dialogue
