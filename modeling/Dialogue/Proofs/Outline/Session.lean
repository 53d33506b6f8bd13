import Dialogue.Proofs.Outline.Segment
import Dialogue.Proofs.Run.Passage

/-!
# Sessions and the outline of what was read

At every moment of a compile the nodes that were written, with the node that is open and
the draft of the next one behind them, are the outline of the lines read so far. Most
operations of a session leave all of that alone (`Session.Quiet`); this module says what
the others do to it.
-/

namespace Dialogue

open Script Text

/-- The nodes that a journal tells of, recorded or refused, in the order in which they were
closed. -/
def nodesWritten (journal : List Notice) : List Node :=
  (passages journal).filterMap Passage.node?

/-- The name and the line of the refused command that an event tells of. -/
def CompileEvent.refusedCommand? : CompileEvent → Option (String × Nat)
  | .entryDropped .command detail line => some (detail, line)
  | _ => none

/-- The commands that a journal tells of as refused. -/
def commandsRefused (journal : List Notice) : List (String × Nat) :=
  (events journal).filterMap CompileEvent.refusedCommand?

/-- The nodes that news tells of. -/
def nodesIn (news : List News) : List Node :=
  (news.filterMap News.passage?).filterMap Passage.node?

/-- The commands that news tells of as refused. -/
def refusedIn (news : List News) : List (String × Nat) :=
  (news.filterMap News.event?).filterMap CompileEvent.refusedCommand?

theorem nodesWritten_append_notices (journal : List Notice) (session : Session) (news : List News) :
    nodesWritten (journal ++ session.notices news) = nodesWritten journal ++ nodesIn news := by
  rw [nodesWritten, passages_append, List.filterMap_append, passages_notices]
  rfl

theorem commandsRefused_append_notices (journal : List Notice) (session : Session)
    (news : List News) :
    commandsRefused (journal ++ session.notices news) =
      commandsRefused journal ++ refusedIn news := by
  rw [commandsRefused, events_append, List.filterMap_append, events_notices]
  rfl

def Node.heading (node : Node) : Heading :=
  ⟨node.tag, node.commands⟩

/-- The heading of the next node as it stands. -/
def Draft.heading (draft : Draft) : Heading :=
  ⟨draft.tag, draft.commands.items⟩

/-! ## Operations that do not touch headings -/

namespace Session

variable {session : Session}

/-- News and a later session that have nothing to do with nodes, tags, speakers and commands. -/
structure Quiet (session : Session) (news : List News) (next : Session) : Prop where
  heading : next.draft.heading = session.draft.heading
  speaker : next.draft.speaker = session.draft.speaker
  number : next.nextNumber = session.nextNumber
  phase : next.phase = session.phase
  unwritten : nodesIn news = []
  unrefused : refusedIn news = []

theorem quiet_gather (phase : Phase) (line : String) :
    session.Quiet [.textAdded phase line]
      { session with draft := session.draft.addText line } :=
  ⟨rfl, rfl, rfl, rfl, rfl, rfl⟩

theorem quiet_openBlock : session.Quiet [.blockOpened] session :=
  ⟨rfl, rfl, rfl, rfl, rfl, rfl⟩

theorem quiet_discard (phase : Phase) : session.Quiet [.discarded phase] session :=
  ⟨rfl, rfl, rfl, rfl, rfl, rfl⟩

theorem quiet_finished (graph : Graph) (dropped : Tally) :
    session.Quiet [.event (.finished graph dropped)] session :=
  ⟨rfl, rfl, rfl, rfl, rfl, rfl⟩

theorem quiet_takeTarget (line : String) :
    session.Quiet [.targetSet (targetOf line)] (session.takeTarget line) :=
  ⟨rfl, rfl, rfl, rfl, rfl, rfl⟩

theorem quiet_endChoice : session.Quiet session.choiceNews session.endChoice := by
  rw [endChoice, choiceNews]
  cases session.draft.drainChoice.1 with
  | none => exact ⟨rfl, rfl, rfl, rfl, rfl, rfl⟩
  | some choice =>
    dsimp only
    rw [← Bounded.isNone_push? _ choice]
    cases session.draft.choices.push? choice with
    | some choices => exact ⟨rfl, rfl, rfl, rfl, rfl, rfl⟩
    | none => exact ⟨rfl, rfl, rfl, rfl, rfl, rfl⟩

theorem quiet_endBlock : session.Quiet session.blockNews session.endBlock := by
  simp only [endBlock, blockNews, Draft.drainChoices]
  cases session.assembly.attach? session.draft.choices.items with
  | none =>
    cases session.draft.choices.items.isEmpty with
    | true => exact ⟨rfl, rfl, rfl, rfl, rfl, rfl⟩
    | false => exact ⟨rfl, rfl, rfl, rfl, rfl, rfl⟩
  | some attached => exact ⟨rfl, rfl, rfl, rfl, rfl, rfl⟩

theorem nodesIn_nodeNews (node : Node) : nodesIn (session.nodeNews node) = [node] := by
  rw [nodesIn, passages_nodeNews]
  rfl

theorem refusedIn_nodeNews (node : Node) : refusedIn (session.nodeNews node) = [] := by
  rw [nodeNews]
  split <;> rfl

/-! ## Operations that add to the heading of the draft -/

variable {config : Config} {reading : Reading}

/-- News and a later session with what a line adds to the heading of the next node. A command is
refused if there is no room for it. -/
structure Gives (config : Config) (reading : Reading) (session : Session) (news : List News)
    (next : Session) : Prop where
  heading : next.draft.heading = session.draft.heading.add config reading
  speaker : next.draft.speaker = session.draft.speaker
  number : next.nextNumber = session.nextNumber
  phase : next.phase = session.phase
  unwritten : nodesIn news = []
  refused : refusedIn news =
    (if session.draft.heading.commands.length < config.maxCommands then []
      else reading.directive?.toList).map fun directive =>
        (directive.command.name, directive.number)

/-- The commands of a draft fit into a node. -/
theorem Within.length_commands_le (within : session.Within config) :
    session.draft.commands.items.length ≤ config.maxCommands :=
  within.draft.commands_capacity ▸ session.draft.commands.length_le

theorem gives_command {command : Command} (within : session.Within config)
    (untagged : reading.tag? = none)
    (given : reading.directive? = some ⟨command, session.line⟩) :
    session.Gives config reading (session.commandNews command) (session.takeCommand command) := by
  have capacity : session.draft.commands.capacity = config.maxCommands :=
    within.draft.commands_capacity
  have added : session.draft.heading.add config reading =
      ⟨session.draft.tag, (session.draft.commands.items ++ [command]).take config.maxCommands⟩ := by
    rw [Heading.add, untagged, given]
    rfl
  rw [takeCommand, commandNews, ← Bounded.isNone_push? _ command]
  cases pushed : session.draft.commands.push? command with
  | some commands =>
    have items_eq := Bounded.items_of_push? pushed
    have few : (session.draft.commands.items ++ [command]).length ≤ config.maxCommands := by
      rw [← items_eq, ← capacity, ← Bounded.capacity_of_push? pushed]
      exact commands.length_le
    have room : session.draft.heading.commands.length < config.maxCommands := by
      rw [List.length_append] at few
      exact few
    refine ⟨?_, rfl, rfl, rfl, rfl, ?_⟩
    · rw [added, List.take_of_length_le few, ← items_eq]
      rfl
    · rw [if_pos room]
      rfl
  | none =>
    have full : config.maxCommands ≤ session.draft.commands.items.length :=
      capacity ▸ Bounded.isFull_eq_true.mp (Bounded.push?_eq_none_iff.mp pushed)
    have unfit : ¬session.draft.heading.commands.length < config.maxCommands :=
      Nat.not_lt.mpr full
    refine ⟨?_, rfl, rfl, rfl, rfl, ?_⟩
    · rw [added, List.take_append_of_le_length full,
        List.take_of_length_le within.length_commands_le]
      rfl
    · rw [if_neg unfit, given]
      rfl

theorem takeTag_eq (kind_eq : reading.kind = .tag) :
    session.takeTag reading.line =
      { session with
        draft := { session.draft with tag := reading.tag?.getD session.draft.tag } } := by
  rw [takeTag, Reading.tag?_of_kind kind_eq]
  cases tagContent? reading.line.toList with
  | none => rfl
  | some content => cases content <;> rfl

/-- A tag line gives its content to the next node, unless it is empty. -/
theorem gives_tag (within : session.Within config) (kind_eq : reading.kind = .tag) :
    session.Gives config reading [tagNews reading.line] (session.takeTag reading.line) := by
  have unordered : reading.directive? = none := Reading.directive?_of_kind_ne (by simp [kind_eq])
  rw [takeTag_eq kind_eq]
  refine ⟨?_, rfl, rfl, rfl, ?_, ?_⟩
  · rw [Heading.add, unordered, Option.map_none, Option.toList_none, List.append_nil]
    exact congrArg _ (List.take_of_length_le within.length_commands_le).symm
  · rw [tagNews]
    split <;> rfl
  · rw [unordered, Option.toList_none, ite_self, List.map_nil, tagNews]
    split <;> rfl

/-! ## Views of the open node -/

/-- The speaker of the open node, if a node is open. -/
def openSpeaker (session : Session) : List (Option String) :=
  if session.phase = .dialogue then [session.draft.speaker] else []

/-- The heading of the draft, and behind an open node also the bare heading of the node that will
follow it. -/
def openHeadings (config : Config) (session : Session) : List Heading :=
  session.draft.heading ::
    if session.phase = .dialogue then [⟨config.numberedTag session.nextNumber, []⟩] else []

theorem openSpeaker_of_phase (phase : session.phase = .dialogue) :
    session.openSpeaker = [session.draft.speaker] :=
  if_pos phase

theorem openSpeaker_of_phase_ne (phase : session.phase ≠ .dialogue) : session.openSpeaker = [] :=
  if_neg phase

theorem openHeadings_of_phase (phase : session.phase = .dialogue) :
    session.openHeadings config =
      [session.draft.heading, ⟨config.numberedTag session.nextNumber, []⟩] := by
  rw [openHeadings, if_pos phase]

theorem openHeadings_of_phase_ne (phase : session.phase ≠ .dialogue) :
    session.openHeadings config = [session.draft.heading] := by
  rw [openHeadings, if_neg phase]

end Session

/-! ## The outline of a session -/

/-- What a journal and a session say about the outline of the lines that were read. -/
structure Outline (config : Config) (read : List Reading) (journal : List Notice)
    (session : Session) : Prop where
  number : session.nextNumber = (nodesWritten journal).length
  spoken : (nodesWritten journal).map Node.speaker ++ session.openSpeaker =
    (speakers read).map some
  headed : (nodesWritten journal).map Node.heading ++ session.openHeadings config =
    headings config read
  refused : commandsRefused journal =
    (refusals config read).map fun directive => (directive.command.name, directive.number)
  opened : session.phase = .dialogue → endsOpen read = true

namespace Outline

variable {config : Config} {read : List Reading} {reading : Reading} {journal : List Notice}
  {session next : Session} {news : List News}

theorem start (config : Config) {journal : List Notice} (unwritten : nodesWritten journal = [])
    (unrefused : commandsRefused journal = []) : Outline config [] journal (.start config) := by
  constructor
  · rw [unwritten]
    rfl
  · rw [unwritten]
    rfl
  · rw [unwritten]
    exact congrArg (fun bare => [bare]) (heading_nil config 0).symm
  · rw [unrefused]
    simp [refusals, segments, directives]
  · intro phase
    cases phase

theorem quiet (outline : Outline config read journal session) (quiet : session.Quiet news next) :
    Outline config read (journal ++ session.notices news) next := by
  have nodes : nodesWritten (journal ++ session.notices news) = nodesWritten journal := by
    rw [nodesWritten_append_notices, quiet.unwritten, List.append_nil]
  constructor
  · rw [nodes, quiet.number, outline.number]
  · rw [nodes, Session.openSpeaker, quiet.phase, quiet.speaker]
    exact outline.spoken
  · rw [nodes, Session.openHeadings, quiet.phase, quiet.heading, quiet.number]
    exact outline.headed
  · rw [commandsRefused_append_notices, quiet.unrefused, List.append_nil, outline.refused]
  · intro phase
    exact outline.opened (quiet.phase ▸ phase)

/-- A change between the phases in which no node is open. -/
theorem enter (outline : Outline config read journal session) (outside : session.phase ≠ .dialogue)
    {phase : Phase} (entered : phase ≠ .dialogue) :
    Outline config read journal { session with phase } := by
  constructor
  · exact outline.number
  · rw [← outline.spoken, Session.openSpeaker_of_phase_ne outside,
      Session.openSpeaker_of_phase_ne entered]
  · rw [← outline.headed, Session.openHeadings_of_phase_ne outside,
      Session.openHeadings_of_phase_ne entered]
  · exact outline.refused
  · intro phase
    exact absurd phase entered

/-- The end of a choice block, with the choice that may be open in it. -/
theorem endBlock (outline : Outline config read journal session)
    (outside : session.phase ≠ .dialogue) :
    Outline config read
      (journal ++ session.notices session.choiceNews ++
        session.endChoice.notices session.endChoice.blockNews)
      { session.endChoice.endBlock with phase := .idle } := by
  have ended := (outline.quiet Session.quiet_endChoice).quiet Session.quiet_endBlock
  refine ended.enter ?_ (by simp)
  rw [Session.quiet_endBlock.phase, Session.quiet_endChoice.phase]
  exact outside

/-- A line that gives nothing to any heading. Behind a label it is text. -/
theorem pass (outline : Outline config read journal session)
    (kind_eq : reading.kind = .narration ∨ reading.kind = .indented)
    (text : session.phase = .dialogue → reading.kind = .narration) :
    Outline config (read ++ [reading]) journal session := by
  have unlabelled : reading.kind ≠ .label := by rcases kind_eq with same | same <;> simp [same]
  have untagged : reading.tag? = none :=
    Reading.tag?_of_kind_ne (by rcases kind_eq with same | same <;> simp [same])
  have unordered : reading.directive? = none :=
    Reading.directive?_of_kind_ne (by rcases kind_eq with same | same <;> simp [same])
  obtain ⟨headings_eq, refusals_eq⟩ :=
    headings_of_quiet config read unlabelled untagged unordered
  constructor
  · exact outline.number
  · rw [speakers_concat unlabelled, outline.spoken]
  · rw [headings_eq, outline.headed]
  · rw [refusals_eq, outline.refused]
  · intro phase
    rw [endsOpen_concat unlabelled, outline.opened phase, text phase]
    rfl

/-- A line that adds to the heading of the next node. -/
theorem give (outline : Outline config read journal session) (outside : session.phase ≠ .dialogue)
    (unlabelled : reading.kind ≠ .label) (gives : session.Gives config reading news next) :
    Outline config (read ++ [reading]) (journal ++ session.notices news) next := by
  have nodes : nodesWritten (journal ++ session.notices news) = nodesWritten journal := by
    rw [nodesWritten_append_notices, gives.unwritten, List.append_nil]
  have outside' : next.phase ≠ .dialogue := gives.phase ▸ outside
  have before := outline.headed
  rw [Session.openHeadings_of_phase_ne outside] at before
  obtain ⟨after, refused⟩ := headings_concat unlabelled before.symm
  constructor
  · rw [nodes, gives.number, outline.number]
  · rw [nodes, speakers_concat unlabelled, ← outline.spoken,
      Session.openSpeaker_of_phase_ne outside, Session.openSpeaker_of_phase_ne outside']
  · rw [nodes, after, Session.openHeadings_of_phase_ne outside', gives.heading]
  · rw [commandsRefused_append_notices, gives.refused, refused, List.map_append, outline.refused]
  · intro phase
    exact absurd phase outside'

/-- A label opens a node. -/
theorem label (outline : Outline config read journal session) (outside : session.phase ≠ .dialogue)
    (label : reading.kind = .label) :
    Outline config (read ++ [reading]) (journal ++ session.notices [.speakerSet reading.speaker])
      (session.takeLabel reading.line) := by
  have nodes : nodesWritten (journal ++ session.notices [.speakerSet reading.speaker]) =
      nodesWritten journal := by
    rw [nodesWritten_append_notices]
    exact List.append_nil _
  have spoken := outline.spoken
  rw [Session.openSpeaker_of_phase_ne outside, List.append_nil] at spoken
  have count : (speakers read ++ [reading.speaker]).length = session.nextNumber + 1 := by
    have same := congrArg List.length spoken
    rw [List.length_map, List.length_map, ← outline.number] at same
    rw [List.length_append, ← same, List.length_singleton]
  obtain ⟨headings_eq, refusals_eq⟩ :=
    headings_concat_label config read label
  constructor
  · rw [nodes]
    exact outline.number
  · rw [nodes, speakers_concat_label label, List.map_append, ← spoken]
    rfl
  · rw [nodes, headings_eq, ← outline.headed, count, Session.openHeadings_of_phase_ne outside,
      List.append_assoc]
    rfl
  · rw [commandsRefused_append_notices, refusals_eq, outline.refused]
    exact List.append_nil _
  · intro _
    exact endsOpen_concat_label label

/-- The open node is closed, and the next node has a bare heading with a made tag. -/
theorem endNode (outline : Outline config read journal session) (phase : session.phase = .dialogue)
    {node : Node} (written : session.draft.node? = some node) :
    Outline config read (journal ++ session.notices (session.nodeNews node))
      { session.endNode node (config.numberedTag session.nextNumber) with phase := .idle } := by
  have nodes : nodesWritten (journal ++ session.notices (session.nodeNews node)) =
      nodesWritten journal ++ [node] := by
    rw [nodesWritten_append_notices, Session.nodesIn_nodeNews]
  obtain ⟨tag_eq, speaker_eq, -, commands_eq, -⟩ := Draft.node?_eq_some_iff.mp written
  have heading_eq : node.heading = session.draft.heading := by
    rw [Node.heading, tag_eq, commands_eq]
    rfl
  have bare : (session.endNode node (config.numberedTag session.nextNumber)).draft.heading =
      ⟨config.numberedTag session.nextNumber, []⟩ := by
    simp [Session.endNode, Draft.heading, Draft.drainNode, written]
  constructor
  · rw [nodes, List.length_append, ← outline.number]
    rfl
  · rw [nodes, ← outline.spoken, Session.openSpeaker_of_phase phase,
      Session.openSpeaker_of_phase_ne (by simp), List.map_append, List.append_nil, ← speaker_eq]
    rfl
  · rw [nodes, ← outline.headed, Session.openHeadings_of_phase phase,
      Session.openHeadings_of_phase_ne (by simp), List.map_append, List.append_assoc, bare,
      ← heading_eq]
    rfl
  · rw [commandsRefused_append_notices, outline.refused, Session.refusedIn_nodeNews,
      List.append_nil]
  · intro idle
    cases idle

/-- The open node, if there is one, is the only one that was not closed yet. -/
theorem length_nodesWritten (outline : Outline config read journal session) :
    (nodesWritten journal).length =
      if session.phase = .dialogue then (speakers read).length - 1 else (speakers read).length := by
  have count := congrArg List.length outline.spoken
  rw [List.length_append, List.length_map, List.length_map, Session.openSpeaker] at count
  split at count
  next phase =>
    rw [if_pos phase, ← count]
    rfl
  next phase =>
    rw [if_neg phase, ← count]
    rfl

end Outline

end Dialogue
