import Dialogue.Proofs.Run.Passage
import Dialogue.Proofs.Run.Passive

/-!
# Graphs of scripts that go on

Lines that are read later change little of a graph. Only the node that was closed last can
still change, and of it only the choices; once a node has been refused, nothing changes any
more. What one effect can do to the recorded nodes is said once, by `Assembly.Step`, and
the comparison of a script with a longer one follows from it.
-/

namespace Dialogue

open Script Text

/-- Whether the closed node that an event tells of was recorded. -/
def CompileEvent.recorded? : CompileEvent → Option Bool
  | .nodeClosed _ _ => some true
  | .entryDropped .node _ _ => some false
  | _ => none

/-- Whether the nodes that events tell of were recorded, in the order in which they were closed. -/
def closures (told : List CompileEvent) : List Bool :=
  told.filterMap CompileEvent.recorded?

theorem closures_append (told more : List CompileEvent) :
    closures (told ++ more) = closures told ++ closures more :=
  List.filterMap_append

/-! ## What an effect does to recorded nodes -/

namespace Assembly

/-- The ways in which recorded nodes change, with what events tell of the closed nodes. -/
inductive Step (before : Assembly) : List Bool → Assembly → Prop where
  | still : Step before [] before
  | close (node : Node) : Step before [!before.isFull] (before.close node)
  | attach {choices : List Choice} {node : Node} {after : Assembly}
      (attach_eq : before.attach? choices = some (node, after)) : Step before [] after

/-- The node closed last was refused, and so will be all others. -/
structure Sealed (assembly : Assembly) : Prop where
  refused : assembly.attachable = false
  full : assembly.isFull = true

/-- Nodes that are recorded later: choices of the last node may have changed, and there may be
further nodes behind it. -/
structure Grows (before after : Assembly) : Prop where
  bare : before.nodes.map Node.bare <+: after.nodes.map Node.bare
  settled : before.nodes.dropLast <+: after.nodes.dropLast
  still : before.Sealed → after = before

namespace Grows

theorem refl (assembly : Assembly) : assembly.Grows assembly where
  bare := List.prefix_rfl
  settled := List.prefix_rfl
  still := fun _ => rfl

theorem trans {before between after : Assembly} (first : before.Grows between)
    (second : between.Grows after) : before.Grows after where
  bare := first.bare.trans second.bare
  settled := first.settled.trans second.settled
  still := by
    intro shut
    have same := first.still shut
    rw [same] at second
    exact second.still shut

end Grows

theorem Sealed.close {assembly : Assembly} (shut : assembly.Sealed) (node : Node) :
    assembly.close node = assembly := by
  obtain ⟨capacity, nodes, lastIndex, lastIndex_eq⟩ := assembly
  obtain rfl : lastIndex = none := Option.not_isSome_iff_eq_none.mp (by
    simpa [attachable] using shut.refused)
  rw [Assembly.close, if_pos shut.full]

theorem Sealed.attach? {assembly : Assembly} (shut : assembly.Sealed) (choices : List Choice) :
    assembly.attach? choices = none := by
  rw [attach?_eq_none_iff, last?_eq_none_iff]
  exact shut.refused

variable {before after : Assembly} {told : List Bool}

/-- A step adds a node behind the others, or replaces choices of the last. -/
theorem Step.grows (step : before.Step told after) : before.Grows after := by
  cases step with
  | still => exact .refl before
  | close node =>
    cases full : before.isFull with
    | true =>
      have same := nodes_close_of_full full node
      refine ⟨?_, ?_, fun shut => shut.close node⟩
      · simp only [same, List.prefix_rfl]
      · simp only [same, List.prefix_rfl]
    | false =>
      have longer := nodes_close_of_room full node
      refine ⟨?_, ?_, fun shut => shut.close node⟩
      · rw [longer, List.map_append]
        exact List.prefix_append _ _
      · rw [longer, List.dropLast_concat]
        exact List.dropLast_prefix _
  | attach attach_eq =>
    obtain ⟨front, last, nodes_eq, rfl, rfl⟩ := exists_of_attach? attach_eq
    refine ⟨?_, ?_, ?_⟩
    · simp only [nodes_withNodes, nodes_eq, List.map_append]
      exact List.prefix_rfl
    · simp only [nodes_withNodes, nodes_eq, List.dropLast_concat, List.prefix_rfl]
    · intro shut
      rw [shut.attach?] at attach_eq
      cases attach_eq

/-- The nodes are as many as were told of as recorded. -/
theorem Step.length_nodes (step : before.Step told after) :
    after.nodes.length = before.nodes.length + told.count true := by
  cases step with
  | still => rfl
  | close node =>
    cases full : before.isFull with
    | true =>
      rw [nodes_close_of_full full]
      rfl
    | false =>
      rw [nodes_close_of_room full, List.length_append]
      rfl
  | attach attach_eq =>
    obtain ⟨front, last, nodes_eq, rfl, rfl⟩ := exists_of_attach? attach_eq
    rw [nodes_withNodes, List.length_append, nodes_eq, List.length_append]
    rfl

/-- When the node closed last has been refused, the recorded nodes are sealed. -/
theorem Step.sealed (step : before.Step told after) {earlier : List Bool}
    (shut : earlier.getLast? = some false → before.Sealed)
    (last : (earlier ++ told).getLast? = some false) : after.Sealed := by
  cases step with
  | still =>
    rw [List.append_nil] at last
    exact shut last
  | close node =>
    rw [List.getLast?_concat, Option.some.injEq, Bool.not_eq_false'] at last
    refine ⟨by simp [last], ?_⟩
    rwa [Assembly.close, if_pos last]
  | attach attach_eq =>
    rw [List.append_nil] at last
    rw [(shut last).attach?] at attach_eq
    cases attach_eq

end Assembly

namespace Session

variable {session after : Session} {news : List News}

/-- No effect changes recorded nodes in any other way. -/
theorem step_of_effect (effect : session.Effect news after) :
    session.assembly.Step (closures (news.filterMap News.event?)) after.assembly := by
  cases effect with
  | nextLine | enter | gather | label | target | openBlock | discard => exact .still
  | command command =>
    rw [(views_takeCommand command).2.2, commandNews]
    split
    · exact .still
    · exact .still
  | tag line =>
    rw [(views_takeTag line).2.2, tagNews]
    split
    · exact .still
    · exact .still
  | @endNode node =>
    have told : closures ((session.nodeNews node).filterMap News.event?) =
        [!session.assembly.isFull] := by
      rw [nodeNews]
      cases session.assembly.isFull <;> rfl
    rw [told]
    exact .close node
  | endChoice =>
    rw [assembly_endChoice, choiceNews]
    cases session.draft.drainChoice.1 with
    | none => exact .still
    | some choice =>
      dsimp only
      split
      · exact .still
      · exact .still
  | endBlock =>
    simp only [endBlock, blockNews, Draft.drainChoices]
    cases attach_eq : session.assembly.attach? session.draft.choices.items with
    | none => cases session.draft.choices.items.isEmpty <;> exact .still
    | some attached => exact .attach attach_eq

end Session

namespace Assembly.Grows

variable {before after : Assembly}

theorem length_le (grows : before.Grows after) : before.nodes.length ≤ after.nodes.length := by
  simpa using grows.bare.length_le

/-- A recorded node keeps its place and all that it says, save that the last one may get other
choices. -/
theorem exists_node (grows : before.Grows after) {position : Nat} {node : Node}
    (found : before.nodes[position]? = some node) :
    ∃ kept, after.nodes[position]? = some kept ∧ kept.bare = node.bare ∧
      (position + 1 < before.nodes.length → kept = node) := by
  obtain ⟨inside, rfl⟩ := List.getElem?_eq_some_iff.mp found
  have bare := List.prefix_iff_getElem?.mp grows.bare position (by simpa using inside)
  rw [List.getElem?_map, List.getElem_map] at bare
  obtain ⟨kept, held, same⟩ := Option.map_eq_some_iff.mp bare
  refine ⟨kept, held, same, ?_⟩
  intro inner
  have settled := grows.settled.trans (List.dropLast_prefix _)
  have unchanged := List.prefix_iff_getElem?.mp settled position
    (by rw [List.length_dropLast]; omega)
  rw [List.getElem_dropLast, held] at unchanged
  exact Option.some.inj unchanged

end Assembly.Grows

/-! ## Runs -/

namespace Run

variable {σ : Type} {observer : Observer σ} {run next : Run (σ × List Notice)}

/-- Whatever lines are read, the recorded nodes grow. -/
theorem grows_of_readAll {lines : List String}
    (readAll_eq : readAll observer.recording run lines = (next, none)) :
    run.session.assembly.Grows next.session.assembly := by
  refine readAll_induction (fun _ next => run.session.assembly.Grows next.session.assembly) ?_
    (.refl _) readAll_eq
  intro _ raw between next grows read
  have kept : ∀ {session after : Session} {news : List News},
      run.session.assembly.Grows session.assembly → session.Effect news after →
        run.session.assembly.Grows after.assembly :=
    fun grows effect => grows.trans (Session.step_of_effect effect).grows
  exact law_of_readLine kept raw grows read

/-- The end of a script that closes nothing leaves the recorded nodes alone. -/
theorem assembly_of_close (open_end : run.config.flushAtEnd = false)
    (close_eq : close observer.recording run = (next, none)) :
    next.session.assembly = run.session.assembly := by
  cases closing_of_close close_eq with
  | nothing => rfl
  | endNode flushes => simp [open_end] at flushes
  | endBlock flushes => simp [open_end] at flushes
  | discard => rfl

theorem sealed_of_compile {config : Config} {state : σ} {lines : List String}
    {read closed : Run (σ × List Notice)}
    (readAll_eq : readAll observer.recording (start observer.recording config (state, [])) lines =
      (read, none))
    (close_eq : close observer.recording read = (closed, none))
    (last : (closures (events closed.journal)).getLast? = some false) :
    closed.session.assembly.Sealed := by
  refine law_of_compile (fun journal session =>
    (closures (events journal)).getLast? = some false → session.assembly.Sealed) ?_ ?_
    readAll_eq close_eq last
  · intro journal session news after shut effect last
    rw [events_append, events_notices, closures_append] at last
    exact (Session.step_of_effect effect).sealed shut last
  · intro none
    cases none

/-- A compile that leaves open what is open at the end has the nodes that were recorded while
lines were read. They are sealed if the last closed node was refused. -/
theorem exists_compile_open {config : Config} (open_end : config.flushAtEnd = false)
    (lines : List String) :
    ∃ read run, readAll Observer.silent.recording
          (start Observer.silent.recording config ((), [])) lines = (read, none) ∧
      compile Observer.silent.recording config ((), []) lines =
        (run, .ok read.session.assembly.graph) ∧
      ((closures (events run.journal)).getLast? = some false → read.session.assembly.Sealed) := by
  obtain ⟨read, closed, readAll_eq, close_eq, -, compiled⟩ :=
    exists_compile Observer.silent.recording config ((), []) lines
  have settings : read.config = config :=
    (text_of_readAll Observer.silent_isPassive
      (text_of_start Observer.silent_isBystander config ()) readAll_eq).settings
  have same : closed.session.assembly = read.session.assembly :=
    assembly_of_close (settings ▸ open_end) close_eq
  have told : closures (events (result Observer.silent.recording closed).1.journal) =
      closures (events closed.journal) := by
    rw [events_result, closures_append]
    exact List.append_nil _
  refine ⟨read, _, readAll_eq, same ▸ compiled, ?_⟩
  rw [told, ← same]
  exact sealed_of_compile readAll_eq close_eq

/-- Further lines add to a graph, and of what is there they change the choices of the last node at
most. Let the end of a script leave open what is open. Then the graph of a script with
further lines behind it has all the nodes of the script at their places, with their tags,
speakers, texts and commands, and all but the last of them with their choices. If the
last closed node was refused, then further lines add nothing. -/
theorem graph_of_append (passive : observer.IsPassive) (config : Config)
    (open_end : config.flushAtEnd = false) {state : σ}
    (kept : (start observer config state).config = config) (lines more : List String) :
    ∃ run graph longer whole,
      compile observer.recording config (state, []) lines = (run, .ok graph) ∧
      compile observer.recording config (state, []) (lines ++ more) = (longer, .ok whole) ∧
      graph.nodes.length ≤ whole.nodes.length ∧
      (∀ (position : Nat) (node : Node), graph.nodes[position]? = some node →
        ∃ later, whole.nodes[position]? = some later ∧ later.tag = node.tag ∧
          later.speaker = node.speaker ∧ later.text = node.text ∧
          later.commands = node.commands ∧
          (position + 1 < graph.nodes.length → later.choices = node.choices)) ∧
      ((closures (events run.journal)).getLast? = some false → whole = graph) := by
  obtain ⟨read, alone, readAll_eq, compiled, shut⟩ := exists_compile_open open_end lines
  obtain ⟨readOn, aloneOn, readAllOn_eq, compiledOn, -⟩ :=
    exists_compile_open open_end (lines ++ more)
  rw [readAll_append _ more readAll_eq] at readAllOn_eq
  have grows := grows_of_readAll readAllOn_eq
  obtain ⟨run, observed, -, journal_eq⟩ := compile_of_passive passive kept compiled
  obtain ⟨longer, observedOn, -, -⟩ := compile_of_passive passive kept compiledOn
  refine ⟨run, _, longer, _, observed, observedOn, grows.length_le, ?_, ?_⟩
  · intro position node found
    obtain ⟨later, held, same, inner⟩ := grows.exists_node found
    obtain ⟨tag_eq, speaker_eq, text_eq, commands_eq, -⟩ := Node.ext_iff.mp same
    exact ⟨later, held, tag_eq, speaker_eq, text_eq, commands_eq,
      fun earlier => congrArg Node.choices (inner earlier)⟩
  · intro last
    rw [journal_eq] at last
    exact congrArg Assembly.graph (grows.still (shut last))

/-- With room for both nodes the first keeps its choices when further lines come. With room for
one, the second node was refused, and further lines change nothing. -/
theorem graph_of_append_silent :
    Observer.silent.IsPassive ∧
      (∃ run graph longer whole first,
        compile Observer.silent.recording { flushAtEnd := false } ((), [])
            ["Alice:", "Hi.", "Bob:", "Well.", "@wave"] = (run, .ok graph) ∧
          compile Observer.silent.recording { flushAtEnd := false } ((), [])
            ["Alice:", "Hi.", "Bob:", "Well.", "@wave", "\tYes", "Carol:"] =
            (longer, .ok whole) ∧
          whole.nodes[0]? = some first ∧ first.speaker = some "Alice" ∧ first.choices = []) ∧
      ∃ run graph longer,
        compile Observer.silent.recording { maxNodes := 1, flushAtEnd := false } ((), [])
            ["Alice:", "Hi.", "Bob:", "Well.", "@wave"] = (run, .ok graph) ∧
          compile Observer.silent.recording { maxNodes := 1, flushAtEnd := false } ((), [])
            ["Alice:", "Hi.", "Bob:", "Well.", "@wave", "\tYes", "Carol:"] =
            (longer, .ok graph) := by
  have passive := Observer.silent_isPassive
  refine ⟨passive, ?_, ?_⟩
  · obtain ⟨run, graph, longer, whole, compiled, compiledOn, -, keeps, -⟩ :=
      graph_of_append passive { flushAtEnd := false } rfl rfl
        ["Alice:", "Hi.", "Bob:", "Well.", "@wave"] ["\tYes", "Carol:"]
    have answer : (compile Observer.silent.recording { flushAtEnd := false } ((), [])
        ["Alice:", "Hi.", "Bob:", "Well.", "@wave"]).2 =
          .ok ⟨[⟨"start", some "Alice", "Hi.", [], [], by decide⟩,
            ⟨"node_0", some "Bob", "Well.", [], [], by decide⟩]⟩ := by
      decide +kernel
    rw [compiled] at answer
    obtain rfl := Except.ok.inj answer
    obtain ⟨first, held, -, speaker_eq, -, -, inner⟩ := keeps 0 _ rfl
    exact ⟨run, _, longer, whole, first, compiled, compiledOn, held, speaker_eq,
      inner (by decide)⟩
  · obtain ⟨run, graph, longer, whole, compiled, compiledOn, -, -, still⟩ :=
      graph_of_append passive { maxNodes := 1, flushAtEnd := false } rfl rfl
        ["Alice:", "Hi.", "Bob:", "Well.", "@wave"] ["\tYes", "Carol:"]
    have last : (closures (events (compile Observer.silent.recording
        { maxNodes := 1, flushAtEnd := false } ((), [])
        ["Alice:", "Hi.", "Bob:", "Well.", "@wave"]).1.journal)).getLast? = some false := by
      decide +kernel
    rw [compiled] at last
    obtain rfl := still last
    exact ⟨run, _, longer, compiled, compiledOn⟩

end Run

end Dialogue
