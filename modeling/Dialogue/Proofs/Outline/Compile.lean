import Dialogue.Proofs.Outline.Run
import Dialogue.Proofs.Run.Growth
import Mathlib.Data.List.Nodup

/-!
# The outline of a compiled graph

The labels of a script decide how many nodes it has and who speaks in them, and the lines
in front of a label decide the tag and the commands of its node. Which phase a line is
met in, how often it is handed on and whether the graph has room left play no part. The
graph holds the first of these nodes, and whatever has no room is told of and counted.
-/

namespace Dialogue

open Script Text

/-- The tag of a closed node that an event tells of, be it recorded or refused. -/
def CompileEvent.closedTag? : CompileEvent → Option String
  | .nodeClosed node _ => some node.tag
  | .entryDropped .node detail _ => some detail
  | _ => none

/-! ## Nodes and what is counted of them -/

/-- Every node that was written is told of by its tag, with whether it was recorded. Recorded
nodes and refused entries are as many as are told of. -/
structure Census (journal : List Notice) (session : Session) : Prop where
  named : (events journal).filterMap CompileEvent.closedTag? = (nodesWritten journal).map Node.tag
  recorded : session.assembly.nodes.length = (closures (events journal)).count true
  refused : ∀ kind, session.dropped.count kind = (events journal).countP (·.isDropOf kind)

/-- The events of an effect name the nodes that it writes. -/
theorem Session.closedTags_of_effect {session after : Session} {news : List News}
    (effect : session.Effect news after) :
    (news.filterMap News.event?).filterMap CompileEvent.closedTag? =
      (nodesIn news).map Node.tag := by
  cases effect with
  | nextLine | enter | gather | label | target | openBlock | discard => rfl
  | command command =>
    rw [commandNews]
    split <;> rfl
  | tag line =>
    rw [tagNews]
    split <;> rfl
  | endNode =>
    rw [nodesIn_nodeNews, nodeNews]
    split <;> rfl
  | endChoice =>
    rw [choiceNews]
    cases session.draft.drainChoice.1 with
    | none => rfl
    | some choice =>
      dsimp only
      split <;> rfl
  | endBlock =>
    rw [blockNews]
    cases session.assembly.attach? session.draft.choices.items with
    | none => cases session.draft.choices.items.isEmpty <;> rfl
    | some attached => rfl

/-- A closed node that events tell of was either refused or recorded. -/
theorem length_closedTags (told : List CompileEvent) :
    (told.filterMap CompileEvent.closedTag?).length =
      told.countP (·.isDropOf .node) + (closures told).count true := by
  induction told with
  | nil => rfl
  | cons event told ih =>
    rw [closures] at ih ⊢
    simp only [List.filterMap_cons, List.countP_cons]
    cases event with
    | started | choicesAttached | finished => exact ih
    | nodeClosed =>
      simp only [CompileEvent.closedTag?, CompileEvent.recorded?, List.length_cons,
        List.count_cons_self, ih]
      exact Nat.add_assoc _ _ _
    | entryDropped kind =>
      cases kind with
      | command | choice => exact ih
      | node =>
        simp only [CompileEvent.closedTag?, CompileEvent.recorded?, List.length_cons, ih]
        rw [List.count_cons_of_ne (by decide)]
        exact Nat.add_right_comm _ _ 1

/-- The refused commands that events tell of are as many as the events that do so. -/
theorem length_refusedCommands (told : List CompileEvent) :
    (told.filterMap CompileEvent.refusedCommand?).length = told.countP (·.isDropOf .command) := by
  rw [List.length_filterMap_eq_countP]
  congr 1
  funext event
  cases event with
  | entryDropped kind => cases kind <;> rfl
  | started | nodeClosed | choicesAttached | finished => rfl

namespace Census

variable {journal : List Notice} {session after : Session} {news : List News}

theorem start (config : Config) (begun : events journal = [.started config])
    (unwritten : nodesWritten journal = []) : Census journal (.start config) := by
  constructor
  · rw [begun, unwritten]
    rfl
  · rw [begun]
    rfl
  · intro kind
    rw [begun]
    rfl

theorem append (census : Census journal session) (effect : session.Effect news after) :
    Census (journal ++ session.notices news) after := by
  constructor
  · rw [events_append, events_notices, List.filterMap_append, nodesWritten_append_notices,
      List.map_append, census.named, Session.closedTags_of_effect effect]
  · rw [(Session.step_of_effect effect).length_nodes, census.recorded, events_append,
      events_notices, closures_append, List.count_append]
  · intro kind
    rw [(Session.report_of_effect effect).counted kind, census.refused kind, events_append,
      events_notices, List.countP_append]

/-- The result of a compile is told of without any change. -/
theorem finish (census : Census journal session) (graph : Graph) (dropped : Tally) :
    Census (journal ++ session.notices [.event (.finished graph dropped)]) session := by
  have told : events (journal ++ session.notices [.event (.finished graph dropped)]) =
      events journal ++ [.finished graph dropped] := by
    rw [events_append, events_notices]
    rfl
  constructor
  · rw [told, List.filterMap_append, census.named, nodesWritten_append_notices, List.map_append]
    rfl
  · rw [told, closures_append, census.recorded]
    exact congrArg (List.count true) (List.append_nil _).symm
  · intro kind
    rw [told, List.countP_append, census.refused kind]
    rfl

theorem counted (census : Census journal session) :
    session.dropped.count .node + session.assembly.nodes.length =
      (nodesWritten journal).length := by
  have named := congrArg List.length census.named
  rw [List.length_map, length_closedTags] at named
  rw [census.refused, census.recorded, named]

end Census

/-! ## Whole compiles -/

/-- What a journal, a graph and the counts of what was refused say together about the outline of
a script. -/
structure Outlined (config : Config) (read : List Reading) (journal : List Notice)
    (graph : Graph) (dropped : Tally) : Prop where
  spoken : (nodesWritten journal).map Node.speaker =
    ((speakers read).map some).take (closedCount config read)
  headed : (nodesWritten journal).map Node.heading =
    (headings config read).take (closedCount config read)
  kept : graph.nodes.map Node.bare = (nodesWritten journal).take config.maxNodes
  named : (events journal).filterMap CompileEvent.closedTag? = (nodesWritten journal).map Node.tag
  counted : dropped.count .node + graph.nodes.length = (nodesWritten journal).length
  refused : commandsRefused journal =
    (refusals config read).map fun directive => (directive.command.name, directive.number)
  refusedCount : dropped.count .command = (refusals config read).length
  finished : (events journal).getLast? = some (.finished graph dropped)

namespace Run

/-- What a compile that nobody watches says about the outline of its script. -/
theorem outlined_of_silent (config : Config) (lines : List String) :
    ∃ run graph, compile Observer.silent.recording config ((), []) lines = (run, .ok graph) ∧
      Outlined config (readings config lines) run.journal graph run.session.dropped := by
  obtain ⟨read, closed, readAll_eq, close_eq, -, compiled⟩ :=
    exists_compile Observer.silent.recording config ((), []) lines
  have passive := Observer.silent_isPassive
  have begun : (start Observer.silent.recording config ((), [])).Along config 0 [] :=
    ⟨rfl, .start config, rfl, .start config rfl rfl⟩
  have idle : (start Observer.silent.recording config ((), [])).session.phase ≠ .dialogue :=
    by simp [start, Session.start]
  obtain ⟨along, opened⟩ := along_of_readAll passive begun idle readAll_eq
  obtain ⟨outline, phase⟩ := outline_of_closing passive along (closing_of_close close_eq)
  have census : Census closed.journal closed.session :=
    law_of_compile Census Census.append (.start config rfl rfl) readAll_eq close_eq
  have text := text_of_close passive
    (text_of_readAll passive (text_of_start Observer.silent_isBystander config ()) readAll_eq)
    close_eq
  -- The journal of the whole compile has the result behind what was told so far.
  have outline := outline.quiet
    (Session.quiet_finished closed.session.assembly.graph closed.session.dropped)
  have census := census.finish closed.session.assembly.graph closed.session.dropped
  have account := text.account.quiet closed.session
    [.event (.finished closed.session.assembly.graph closed.session.dropped)] rfl rfl rfl rfl
  have length := outline.length_nodesWritten
  simp only [phase, opened] at length
  refine ⟨_, _, compiled, ?_, ?_, account.nodes, census.named, census.counted, outline.refused,
    ?_, ?_⟩
  · rw [closedCount, ← length, ← outline.spoken]
    exact (List.take_left' (List.length_map _)).symm
  · rw [closedCount, ← length, ← outline.headed]
    exact (List.take_left' (List.length_map _)).symm
  · have same := congrArg List.length outline.refused
    rw [commandsRefused, length_refusedCommands, List.length_map, ← census.refused] at same
    exact same
  · rw [events_result, List.getLast?_concat]
    rfl

end Run

/-! ## What a graph takes from the outline -/

namespace Outlined

variable {config : Config} {read : List Reading} {journal : List Notice} {graph : Graph}
  {dropped : Tally}

/-- Apart from choices, the graph holds the first of the nodes that were written. -/
theorem map_nodes {α : Type} (outlined : Outlined config read journal graph dropped)
    (view : Node → α) (bare : ∀ node : Node, view node.bare = view node) :
    graph.nodes.map view = ((nodesWritten journal).map view).take config.maxNodes := by
  rw [← List.map_take, ← outlined.kept, List.map_map]
  exact List.map_congr_left fun node _ => (bare node).symm

theorem tagged (outlined : Outlined config read journal graph dropped) :
    (nodesWritten journal).map Node.tag =
      ((segments read).mapIdx (segmentTag config)).take (closedCount config read) := by
  have tags : (headings config read).map Heading.tag =
      (segments read).mapIdx (segmentTag config) := by
    simp [headings, List.mapIdx_eq_zipIdx_map, heading]
  rw [← tags, ← List.map_take, ← outlined.headed, List.map_map]
  rfl

theorem commanded (outlined : Outlined config read journal graph dropped) :
    (nodesWritten journal).map Node.commands =
      ((segments read).map fun segment =>
        ((directives segment).take config.maxCommands).map Directive.command).take
          (closedCount config read) := by
  have commands : (headings config read).map Heading.commands =
      (segments read).map fun segment =>
        ((directives segment).take config.maxCommands).map Directive.command := by
    apply List.ext_getElem?
    intro position
    simp [headings, heading, Function.comp_def]
  rw [← commands, ← List.map_take, ← outlined.headed, List.map_map]
  rfl

theorem length_nodesWritten (outlined : Outlined config read journal graph dropped) :
    (nodesWritten journal).length = closedCount config read := by
  have length := congrArg List.length outlined.spoken
  have few : closedCount config read ≤ (speakers read).length := by
    rw [closedCount]
    split
    · exact Nat.sub_le _ _
    · exact Nat.le_refl _
  rw [List.length_map, List.length_take, List.length_map, Nat.min_eq_left few] at length
  exact length

end Outlined

/-! ## Tags that are made -/

namespace Config

variable {config : Config}

/-- Tags made from different numbers are different. -/
theorem numberedTag_inj {first second : Nat}
    (same : config.numberedTag first = config.numberedTag second) : first = second := by
  have digits : first.repr = second.repr := (String.append_right_inj config.tagStem).mp same
  have value := congrArg (fun digits => Nat.ofDigitChars 10 digits.toList 0) digits
  simpa [Nat.repr_eq_ofList_toDigits] using value

/-- Nodes without a tag of their own are told apart by where they stand. -/
theorem defaultTag_injective
    (unmade : ∀ number : Nat, config.startTag ≠ config.numberedTag number) :
    Function.Injective config.defaultTag := by
  intro first second same
  cases first with
  | zero =>
    cases second with
    | zero => rfl
    | succ number => exact absurd same (unmade number)
  | succ number =>
    cases second with
    | zero => exact absurd same.symm (unmade number)
    | succ other => exact congrArg Nat.succ (numberedTag_inj same)

end Config

/-- Without tag lines every segment leaves the tag to the settings. -/
theorem segmentTags_of_untagged (config : Config) {read : List Reading}
    (untagged : ∀ reading ∈ read, reading.kind ≠ .tag) :
    (segments read).mapIdx (segmentTag config) =
      (List.range (segments read).length).map config.defaultTag := by
  have bare : ∀ position, ∀ segment ∈ segments read,
      segmentTag config position segment = config.defaultTag position := by
    intro position segment cut
    have none : segment.filterMap Reading.tag? = [] := by
      apply List.filterMap_eq_nil_iff.mpr
      intro reading member
      exact Reading.tag?_of_kind_ne (untagged reading (mem_of_mem_segments cut member))
    rw [segmentTag, none]
    rfl
  apply List.ext_getElem
  · simp
  · intro position _ _
    simp [bare position _ (List.getElem_mem _)]

/-! ## Commands that are read -/

/-- A reading of a script comes from a line with something to see on it. -/
theorem isReading_of_mem_readings {config : Config} {lines : List String} {reading : Reading}
    (member : reading ∈ readings config lines) :
    IsReading config.indentThreshold reading.line reading.kind := by
  obtain ⟨⟨raw, number⟩, -, read⟩ := List.mem_filterMap.mp member
  dsimp only at read
  cases present : isBlankLine (trimLineEnd raw.toList) with
  | true =>
    rw [reading?_of_blank number present] at read
    cases read
  | false =>
    rw [reading?_of_present number present] at read
    obtain rfl := Option.some.inj read
    exact ⟨_, present, rfl, rfl⟩

/-- Every command line of a script gives a command. -/
theorem exists_directive_of_mem_readings {config : Config} {lines : List String}
    {reading : Reading} (member : reading ∈ readings config lines)
    (kind_eq : reading.kind = .command) :
    ∃ command, reading.directive? = some ⟨command, reading.number⟩ := by
  have sign := (isReading_of_mem_readings member).head?_of_command kind_eq
  obtain ⟨command, parsed⟩ := exists_command_of_head? sign
  exact ⟨command, by simp [Reading.directive?, kind_eq, parsed]⟩

/-! ## Compiles whose settings are left alone -/

namespace Run

variable {σ : Type} {observer : Observer σ} {state : σ}

theorem outlined_of_compile (passive : observer.IsPassive) (config : Config)
    (kept : (start observer config state).config = config) (lines : List String) :
    ∃ run graph, compile observer.recording config (state, []) lines = (run, .ok graph) ∧
      Outlined config (readings config lines) run.journal graph run.session.dropped := by
  obtain ⟨alone, graph, compiled, outlined⟩ := outlined_of_silent config lines
  obtain ⟨run, observed, session_eq, journal_eq⟩ := compile_of_passive passive kept compiled
  rw [← session_eq, ← journal_eq] at outlined
  exact ⟨run, graph, observed, outlined⟩

/-- One node for each label, in order. A compile closes as many nodes as there are labels, save
that a node that is open at the end may stay open, and they have the speakers of the
labels. The graph holds as many of the first of them as it has room for, and the others
are counted as refused. -/
theorem nodes_of_labels (passive : observer.IsPassive) (config : Config)
    (kept : (start observer config state).config = config) (lines : List String) :
    ∃ run graph, compile observer.recording config (state, []) lines = (run, .ok graph) ∧
      (nodesWritten run.journal).length = closedCount config (readings config lines) ∧
      (events run.journal).filterMap CompileEvent.closedTag? =
        (nodesWritten run.journal).map Node.tag ∧
      (nodesWritten run.journal).map Node.speaker =
        ((speakers (readings config lines)).map some).take
          (closedCount config (readings config lines)) ∧
      graph.nodes.map Node.bare = (nodesWritten run.journal).take config.maxNodes ∧
      graph.nodes.map Node.speaker =
        ((speakers (readings config lines)).map some).take
          (min config.maxNodes (closedCount config (readings config lines))) ∧
      graph.nodes.length = min config.maxNodes (closedCount config (readings config lines)) ∧
      (events run.journal).getLast? = some (.finished graph run.session.dropped) ∧
      run.session.dropped.count .node + graph.nodes.length =
        closedCount config (readings config lines) := by
  obtain ⟨run, graph, compiled, outlined⟩ := outlined_of_compile passive config kept lines
  have length := outlined.length_nodesWritten
  refine ⟨run, graph, compiled, length, outlined.named, outlined.spoken, outlined.kept, ?_, ?_,
    outlined.finished, outlined.counted.trans length⟩
  · rw [outlined.map_nodes Node.speaker fun _ => rfl, outlined.spoken, List.take_take]
  · have held := congrArg List.length outlined.kept
    rwa [List.length_map, List.length_take, length] at held

/-- Three labels, of which the last one stays open, and room for one node. A handler on a bus is
told that the compile begins. -/
theorem nodes_of_labels_bus :
    ∃ run graph,
      compile (publish (fun _ _ _ => .done) 1).observer.recording
          { maxNodes := 1, flushAtEnd := false }
          (some (World.empty.withBus (Bus.empty.subscribe .compileStarted "onlooker" 0 false)), [])
          ["Alice:", "Hi.", "\tYes", "\tBob:", "", "Bob:", "Well.", "Carol:\r\n", "Bye."] =
          (run, .ok graph) ∧
        graph.nodes.map Node.speaker = [some "Alice"] ∧
        run.session.dropped.count .node + graph.nodes.length = 2 := by
  have kept : (start (publish (fun _ _ _ => .done) 1).observer
      { maxNodes := 1, flushAtEnd := false }
      (some (World.empty.withBus (Bus.empty.subscribe .compileStarted "onlooker" 0 false)))).config =
        { maxNodes := 1, flushAtEnd := false } := rfl
  obtain ⟨run, graph, compiled, -, -, -, -, speakers_eq, -, -, counted⟩ :=
    nodes_of_labels (Publisher.observer_isPassive _ 1) _ kept
      ["Alice:", "Hi.", "\tYes", "\tBob:", "", "Bob:", "Well.", "Carol:\r\n", "Bye."]
  exact ⟨run, graph, compiled, speakers_eq.trans (by decide), counted.trans (by decide)⟩

/-- The tag of a node is that of the last usable tag line in front of its label and behind the
label before, and without one it is made from the number of the nodes before it. So
without tag lines no two nodes have the same tag, unless the first tag looks made. -/
theorem tags_of_segments (passive : observer.IsPassive) (config : Config)
    (kept : (start observer config state).config = config) (lines : List String) :
    ∃ run graph, compile observer.recording config (state, []) lines = (run, .ok graph) ∧
      (nodesWritten run.journal).map Node.tag =
        ((segments (readings config lines)).mapIdx (segmentTag config)).take
          (closedCount config (readings config lines)) ∧
      (events run.journal).filterMap CompileEvent.closedTag? =
        (nodesWritten run.journal).map Node.tag ∧
      graph.tags = ((nodesWritten run.journal).map Node.tag).take config.maxNodes ∧
      ((∀ reading ∈ readings config lines, reading.kind ≠ .tag) →
        (∀ number : Nat, config.startTag ≠ config.numberedTag number) → graph.tags.Nodup) := by
  obtain ⟨run, graph, compiled, outlined⟩ := outlined_of_compile passive config kept lines
  have tags : graph.tags = ((nodesWritten run.journal).map Node.tag).take config.maxNodes :=
    outlined.map_nodes Node.tag fun _ => rfl
  refine ⟨run, graph, compiled, outlined.tagged, outlined.named, tags, ?_⟩
  intro untagged unmade
  rw [tags, outlined.tagged, segmentTags_of_untagged config untagged]
  have made : ((List.range (segments (readings config lines)).length).map
      config.defaultTag).Nodup :=
    List.Nodup.map (Config.defaultTag_injective unmade) List.nodup_range
  exact (made.sublist (List.take_sublist _ _)).sublist (List.take_sublist _ _)

/-- The last of two tag lines counts, an empty one does not, and tag lines behind the last label
give nothing any more. Without tag lines the tags are those of the settings. -/
theorem tags_of_segments_silent :
    (∃ run graph,
      compile Observer.silent.recording {} ((), [])
          ["[one]", "[two]", "[]", "Alice:", "Hi.", "Bob:", "\t[no]", "[end]", "Carol:", "Bye.",
            "[over]"] = (run, .ok graph) ∧
        graph.tags = ["two", "node_0", "end"]) ∧
      ∃ run graph,
        compile Observer.silent.recording {} ((), []) ["Alice:", "Hi.", "Bob:", "\t[no]"] =
            (run, .ok graph) ∧
          graph.tags = ["start", "node_0"] ∧ graph.tags.Nodup := by
  have passive := Observer.silent_isPassive
  have unmade : ∀ number : Nat,
      ({} : Config).startTag ≠ ({} : Config).numberedTag number := by
    intro number same
    have first := congrArg (fun tag => tag.toList.head?) same
    simp [Config.numberedTag] at first
  constructor
  · obtain ⟨run, graph, compiled, tags, -, held, -⟩ :=
      tags_of_segments passive {} rfl
        ["[one]", "[two]", "[]", "Alice:", "Hi.", "Bob:", "\t[no]", "[end]", "Carol:", "Bye.",
          "[over]"]
    exact ⟨run, graph, compiled, held.trans (tags ▸ by decide)⟩
  · obtain ⟨run, graph, compiled, tags, -, held, distinct⟩ :=
      tags_of_segments passive {} rfl ["Alice:", "Hi.", "Bob:", "\t[no]"]
    exact ⟨run, graph, compiled, held.trans (tags ▸ by decide), distinct (by decide) unmade⟩

/-- The commands of a node are the first of those between its label and the label before. Every
command line gives a command, and those for which there is no room are told of, each with
its name and its line, and counted. -/
theorem commands_of_segments (passive : observer.IsPassive) (config : Config)
    (kept : (start observer config state).config = config) (lines : List String) :
    ∃ run graph dropped,
      compile observer.recording config (state, []) lines = (run, .ok graph) ∧
      (∀ reading ∈ readings config lines, reading.kind = .command →
        ∃ command, reading.directive? = some ⟨command, reading.number⟩) ∧
      (nodesWritten run.journal).map Node.commands =
        ((segments (readings config lines)).map fun segment =>
          ((directives segment).take config.maxCommands).map Directive.command).take
            (closedCount config (readings config lines)) ∧
      graph.nodes.map Node.commands =
        ((nodesWritten run.journal).map Node.commands).take config.maxNodes ∧
      (events run.journal).filterMap CompileEvent.refusedCommand? =
        (refusals config (readings config lines)).map (fun directive =>
          (directive.command.name, directive.number)) ∧
      (events run.journal).getLast? = some (.finished graph dropped) ∧
      dropped.count .command = (refusals config (readings config lines)).length := by
  obtain ⟨run, graph, compiled, outlined⟩ := outlined_of_compile passive config kept lines
  exact ⟨run, graph, _, compiled, fun _ => exists_directive_of_mem_readings, outlined.commanded,
    outlined.map_nodes Node.commands fun _ => rfl, outlined.refused, outlined.finished,
    outlined.refusedCount⟩

/-- Room for one command: each further one in front of the label is refused, and so is each further
one behind it, while an indented line gives no command. -/
theorem commands_of_segments_silent :
    Observer.silent.IsPassive ∧ ∃ run graph dropped,
      compile Observer.silent.recording { maxCommands := 1 } ((), [])
          ["@wave", "@play town", "Alice:", "Hi.", "\t@no", "@nod", "", "@leave", "@run"] =
          (run, .ok graph) ∧
        graph.nodes.map Node.commands = [[⟨"wave", none⟩]] ∧
        (events run.journal).filterMap CompileEvent.refusedCommand? =
          [("play", 2), ("leave", 8), ("run", 9)] ∧
        (events run.journal).getLast? = some (.finished graph dropped) ∧
        dropped.count .command = 3 := by
  have passive := Observer.silent_isPassive
  obtain ⟨run, graph, dropped, compiled, -, commands_eq, held, refused, finished, counted⟩ :=
    commands_of_segments passive { maxCommands := 1 } rfl
      ["@wave", "@play town", "Alice:", "Hi.", "\t@no", "@nod", "", "@leave", "@run"]
  exact ⟨passive, run, graph, dropped, compiled, held.trans (commands_eq ▸ by decide),
    refused.trans (by decide), finished, counted.trans (by decide)⟩

end Run

end Dialogue
