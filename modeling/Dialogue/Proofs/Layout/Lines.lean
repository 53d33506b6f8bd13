import Dialogue.Proofs.Layout.Stage

/-!
# Reading the lines of a block

In the course of a block a run is ready for the block, behind its label, or among its
choices. A block has no line that ends it: its node is closed, and its choices are attached,
by the first line of the next block or by the end of the script. A run is therefore said
to be ready for a block already when only this is left to be done.
-/

namespace Dialogue.Run

open Script Text Layout

variable {σ : Type} {observer : Observer σ} {config : Config} {run : Run σ} {line : String}
  {kind : LineKind} {nodes : List Node} {block : Block} {commands : List Command}
  {entries : List Entry} {text : List String}

/-! ## Raw lines -/

theorem isBlankLine_of_upright (upright : IsUpright line) : isBlankLine line.toList = false := by
  obtain ⟨c, rest, line_eq, visible⟩ := upright.exists_cons
  simp [line_eq, isBlankLine, visible]

theorem trimLineEnd_of_upright (upright : IsUpright line) :
    trimLineEnd line.toList = line.toList := by
  refine trimLineEnd_of_unbroken fun c last => ⟨?_, ?_⟩
  · rintro rfl
    exact upright.unbroken last
  · rintro rfl
    exact upright.whole (List.mem_of_getLast? last)

theorem readLine_upright (upright : IsUpright line) (run : Run σ) :
    readLine observer run line =
      feed observer run.atNextLine line (lineKind run.config.indentThreshold line.toList) := by
  have whole := trimLineEnd_of_upright upright
  obtain ⟨c, rest, line_eq, visible⟩ := upright.exists_cons
  rw [readLine_of_present (by rw [whole, isBlankLine_of_upright upright]), whole]
  rw [show dedent line.toList = line.toList by rw [line_eq, dedent_of_visible visible],
    String.ofList_toList]

/-- An indented line loses its tab. -/
theorem readLine_indent (upright : IsUpright line) (run : Run σ) :
    readLine observer run (indent line) = feed observer run.atNextLine line .indented := by
  have raw_eq : (indent line).toList = '\t' :: line.toList := by simp [indent]
  obtain ⟨c, rest, line_eq, visible⟩ := upright.exists_cons
  have whole : trimLineEnd (indent line).toList = '\t' :: line.toList := by
    rw [raw_eq]
    refine trimLineEnd_of_unbroken fun c last => ?_
    have last : line.toList.getLast? = some c := by
      rw [line_eq] at last ⊢
      exact last
    exact ⟨fun same => upright.unbroken (same ▸ last),
      fun same => upright.whole (same ▸ List.mem_of_getLast? last)⟩
  have present : isBlankLine (trimLineEnd (indent line).toList) = false := by
    simp [whole, line_eq, isBlankLine, visible]
  rw [readLine_of_present present, whole, dedent_tab, String.ofList_toList]
  rfl

/-! ## Inside a block -/

/-- Behind the label of a block, and behind some lines of its text. -/
structure Speaking (config : Config) (nodes : List Node) (block : Block) (text : List String)
    (run : Run σ) : Prop extends run.Stage config .dialogue nodes block.commands [] text where
  tag_eq : run.session.draft.tag = block.tag
  speaker_eq : run.session.draft.speaker = some block.speaker

/-- Among the choices of a block, behind some entries and some lines of the next. -/
structure Choosing (config : Config) (nodes : List Node) (block : Block) (entries : List Entry)
    (text : List String) (run : Run σ) : Prop extends
    run.Stage config .choice (nodes ++ [block.bare]) [] (entries.map Entry.choice) text where
  last_eq : run.session.assembly.last? = some block.bare

/-- Behind the text of a block and some entries. -/
inductive Spoken (config : Config) (nodes : List Node) (block : Block) (entries : List Entry)
    (run : Run σ) : Prop where
  | text (speaking : run.Speaking config nodes block block.text) (none : entries = [])
  | entries (choosing : run.Choosing config nodes block entries [])

/-- In front of a block, or behind some of its commands. -/
inductive Ready (config : Config) (nodes : List Node) (commands : List Command) (run : Run σ) :
    Prop where
  | opening (stage : run.Stage config .idle nodes commands [] [])
  | behind {front : List Node} {block : Block}
      (spoken : run.Spoken config front block block.entries)
      (nodes_eq : nodes = front ++ [block.node]) (none : commands = [])

theorem Stage.atNextLine {phase : Phase} {choices : List Choice}
    (stage : run.Stage config phase nodes commands choices text) :
    run.atNextLine.Stage config phase nodes commands choices text :=
  ⟨stage.settings, { stage.session with within := { stage.session.within with } }⟩

theorem Stage.withPhase {phase : Phase} {choices : List Choice}
    (stage : run.Stage config phase nodes commands choices text) (next : Phase) :
    (run.withPhase next).Stage config next nodes commands choices text :=
  ⟨stage.settings, { stage.session with within := { stage.session.within with }, phase_eq := rfl }⟩

theorem Spoken.settings (spoken : run.Spoken config nodes block entries) : run.config = config := by
  cases spoken with
  | text speaking _ => exact speaking.settings
  | entries choosing => exact choosing.settings

theorem Ready.settings (ready : run.Ready config nodes commands) : run.config = config := by
  cases ready with
  | opening stage => exact stage.settings
  | behind spoken _ _ => exact spoken.settings

theorem Speaking.atNextLine (speaking : run.Speaking config nodes block text) :
    run.atNextLine.Speaking config nodes block text :=
  { speaking with toStage := speaking.toStage.atNextLine }

theorem Choosing.atNextLine (choosing : run.Choosing config nodes block entries text) :
    run.atNextLine.Choosing config nodes block entries text :=
  { choosing with toStage := choosing.toStage.atNextLine }

theorem Spoken.atNextLine (spoken : run.Spoken config nodes block entries) :
    run.atNextLine.Spoken config nodes block entries := by
  cases spoken with
  | text speaking none => exact .text speaking.atNextLine none
  | entries choosing => exact .entries choosing.atNextLine

theorem Ready.atNextLine (ready : run.Ready config nodes commands) :
    run.atNextLine.Ready config nodes commands := by
  cases ready with
  | opening stage => exact .opening stage.atNextLine
  | behind spoken nodes_eq none => exact .behind spoken.atNextLine nodes_eq none

variable (passive : observer.IsPassive)
include passive

/-- Behind all of its text the node of a block can be closed. -/
theorem Speaking.endNode (speaking : run.Speaking config nodes block block.text)
    (room : nodes.length < config.maxNodes) :
    ∃ next, endNode observer run = (next, none) ∧
      next.Stage config .dialogue (nodes ++ [block.bare]) [] [] [] ∧
      next.session.assembly.last? = some block.bare := by
  have written : run.session.draft.node? = some block.bare := by
    refine Draft.node?_eq_some_iff.mpr ⟨speaking.tag_eq.symm, speaking.speaker_eq.symm, ?_,
      speaking.session.commands_eq.symm, rfl⟩
    rw [Draft.joinedText_eq_intercalate, speaking.session.text_eq]
    rfl
  obtain ⟨next, ended, session_eq⟩ := endNode_of_node observer written
  have usable := Config.numberedTag_ne_empty next.config run.session.nextNumber
  refine ⟨next, ended, ⟨(config_endNode passive ended).trans speaking.settings, ?_⟩, ?_⟩
  · rw [session_eq]
    exact speaking.session.endNode written usable room
  · rw [session_eq]
    simp [Session.endNode, Assembly.last?_close, speaking.session.isFull_eq_false room]

/-- Closing the node is all that a block without choices leaves to be done. -/
theorem Speaking.endBlock (speaking : run.Speaking config nodes block block.text)
    (none : block.entries = []) (room : (nodes ++ [block.node]).length ≤ config.maxNodes) :
    ∃ next, Run.endNode observer run = (next, .none) ∧
      next.Stage config .dialogue (nodes ++ [block.node]) [] [] [] := by
  have bare : block.node = block.bare := by simp [Block.node, none, Block.bare]
  rw [List.length_append, List.length_singleton] at room
  obtain ⟨next, ended, stage, -⟩ := speaking.endNode passive room
  exact ⟨next, ended, bare ▸ stage⟩

theorem Choosing.takeTarget (choosing : run.Choosing config nodes block entries text)
    (line : String) :
    (takeTarget observer run line).Choosing config nodes block entries text where
  settings := (config_takeTarget passive line).trans choosing.settings
  session := choosing.session.takeTarget line
  last_eq := choosing.last_eq

/-- Behind an entry the choices of a block can be attached to its node. -/
theorem Choosing.endBlock (choosing : run.Choosing config nodes block entries []) :
    (endBlock observer (endChoice observer run)).Stage config .choice
      (nodes ++ [block.bare.offering (entries.map Entry.choice)]) [] [] [] where
  settings := by rw [config_endBlock passive, config_endChoice passive, choosing.settings]
  session := by
    rw [session_endBlock, session_endChoice]
    refine choosing.session.endChoice_of_no_text.endBlock rfl ?_
    rw [Session.assembly_endChoice, choosing.last_eq]

/-- A command line and a tag line first do what the block before has left to be done. -/
theorem Ready.exists_opening (ready : run.Ready config nodes commands)
    (opens : kind = .command ∨ kind = .tag)
    (inner : lineKind config.indentThreshold line.toList = kind)
    (room : nodes.length ≤ config.maxNodes) :
    ∃ next : Run σ, next.Stage config .idle nodes commands [] [] ∧
      feed observer run line kind = feed observer next line kind := by
  cases ready with
  | opening stage => exact ⟨run, stage, rfl⟩
  | @behind front block spoken nodes_eq none =>
    subst nodes_eq none
    cases spoken with
    | text speaking none =>
      have unspoken : kind ≠ .narration := by rcases opens with rfl | rfl <;> decide
      obtain ⟨next, ended, stage⟩ := speaking.endBlock passive none room
      have handed : step observer run line kind = (next, .handOn .idle) := by
        rw [step_of_dialogue speaking.session.phase_eq, dialogueStep, if_neg unspoken, ended]
      exact ⟨_, stage.withPhase .idle, feed_of_handOn observer handed⟩
    | entries choosing =>
      rcases opens with rfl | rfl
      · have handed : step observer run line .command =
            (endBlock observer (endChoice observer run), .handOn .idle) := by
          simp [step_of_choice choosing.session.phase_eq, choiceStep, choosing.settings, inner]
        exact ⟨_, (choosing.endBlock passive).withPhase .idle, feed_of_handOn observer handed⟩
      · have handed : step observer run line .tag =
            (endBlock observer (endChoice observer (takeTarget observer run line)),
              .handOn .idle) := by
          simp [step_of_choice choosing.session.phase_eq, choiceStep, choosing.settings, inner]
        exact ⟨_, ((choosing.takeTarget passive line).endBlock passive).withPhase .idle,
          feed_of_handOn observer handed⟩

/-! ## One line after another -/

theorem Ready.readCommand {command : Command} (ready : run.Ready config nodes commands)
    (written : IsCommand command) (room : nodes.length ≤ config.maxNodes)
    (free : commands.length < config.maxCommands) :
    ∃ next, readLine observer run (commandLine command) = (next, none) ∧
      next.Ready config nodes (commands ++ [command]) := by
  have kind_eq := lineKind_commandLine (Int.natCast_pos.mpr config.indentThreshold_pos) command
  obtain ⟨idle, stage, fed⟩ :=
    ready.atNextLine.exists_opening passive (.inl rfl) kind_eq room
  have consumed : step observer idle (commandLine command) .command =
      (takeCommand observer idle command, .consumed) := by
    simp [step_of_idle stage.session.phase_eq, idleStep, written.command?_commandLine]
  refine ⟨takeCommand observer idle command, ?_, .opening ⟨?_, ?_⟩⟩
  · rw [readLine_upright written.isUpright, ready.settings, kind_eq, fed,
      feed_of_consumed observer consumed]
  · exact (config_takeCommand passive command).trans stage.settings
  · rw [session_takeCommand]
    exact stage.session.takeCommand command free

theorem Ready.readTag {tag : String} (ready : run.Ready config nodes commands)
    (written : IsTag tag) (room : nodes.length ≤ config.maxNodes) :
    ∃ next, readLine observer run (tagLine tag) = (next, none) ∧
      next.Stage config .idle nodes commands [] [] ∧ next.session.draft.tag = tag := by
  have kind_eq := lineKind_tagLine (Int.natCast_pos.mpr config.indentThreshold_pos) tag
  obtain ⟨idle, stage, fed⟩ :=
    ready.atNextLine.exists_opening passive (.inr rfl) kind_eq room
  have consumed : step observer idle (tagLine tag) .tag =
      (takeTag observer idle (tagLine tag), .consumed) := by
    rw [step_of_idle stage.session.phase_eq, idleStep]
  refine ⟨takeTag observer idle (tagLine tag), ?_, ⟨?_, ?_⟩, ?_⟩
  · rw [readLine_upright written.isUpright, ready.settings, kind_eq, fed,
      feed_of_consumed observer consumed]
  · exact (config_takeTag passive _).trans stage.settings
  · rw [session_takeTag]
    exact stage.session.takeTag _
  · rw [session_takeTag]
    exact Session.tag_takeTag written

theorem Stage.readLabel (stage : run.Stage config .idle nodes block.commands [] [])
    (tag_eq : run.session.draft.tag = block.tag) (written : IsSpeaker block.speaker) :
    ∃ next, readLine observer run (labelLine block.speaker) = (next, none) ∧
      next.Speaking config nodes block [] := by
  have kind_eq :=
    written.lineKind_labelLine (Int.natCast_pos.mpr config.indentThreshold_pos)
  have consumed : step observer run.atNextLine (labelLine block.speaker) .label =
      (takeLabel observer run.atNextLine (labelLine block.speaker), .consumed) := by
    rw [step_of_idle stage.atNextLine.session.phase_eq, idleStep]
  refine ⟨takeLabel observer run.atNextLine (labelLine block.speaker), ?_, ⟨?_, ?_⟩, tag_eq, ?_⟩
  · rw [readLine_upright written.isUpright, stage.settings, kind_eq,
      feed_of_consumed observer consumed]
  · exact (config_takeLabel passive _).trans stage.settings
  · exact stage.atNextLine.session.takeLabel _
  · exact congrArg some (speakerName_labelLine block.speaker)

theorem Speaking.readText (speaking : run.Speaking config nodes block text)
    (written : IsText config.indentThreshold line) :
    ∃ next, readLine observer run line = (next, none) ∧
      next.Speaking config nodes block (text ++ [line]) := by
  have consumed : step observer run.atNextLine line .narration =
      (gather observer run.atNextLine line, .consumed) := by
    rw [step_of_dialogue speaking.atNextLine.session.phase_eq, dialogueStep, if_pos rfl]
  refine ⟨gather observer run.atNextLine line, ?_, ⟨?_, ?_⟩, speaking.tag_eq, speaking.speaker_eq⟩
  · rw [readLine_upright written.toIsUpright, speaking.settings, written.narration,
      feed_of_consumed observer consumed]
  · exact (config_tell passive _ (by simp)).trans speaking.settings
  · exact speaking.atNextLine.session.addText line

theorem Choosing.feedText (choosing : run.Choosing config nodes block entries text)
    (written : IsText config.indentThreshold line) :
    ∃ next, feed observer run line .indented = (next, none) ∧
      next.Choosing config nodes block entries (text ++ [line]) := by
  have consumed : step observer run line .indented = (gather observer run line, .consumed) := by
    simp [step_of_choice choosing.session.phase_eq, choiceStep, choosing.settings,
      written.narration]
  refine ⟨gather observer run line, feed_of_consumed observer consumed, ⟨?_, ?_⟩, choosing.last_eq⟩
  · exact (config_tell passive _ (by simp)).trans choosing.settings
  · exact choosing.session.addText line

theorem Choosing.readText (choosing : run.Choosing config nodes block entries text)
    (written : IsText config.indentThreshold line) :
    ∃ next, readLine observer run (indent line) = (next, none) ∧
      next.Choosing config nodes block entries (text ++ [line]) := by
  rw [readLine_indent written.toIsUpright]
  exact choosing.atNextLine.feedText passive written

/-- The first line of an entry; behind the text of a block it closes the node and opens the
choices. -/
theorem Spoken.readText (spoken : run.Spoken config nodes block entries)
    (written : IsText config.indentThreshold line) (room : nodes.length < config.maxNodes) :
    ∃ next, readLine observer run (indent line) = (next, none) ∧
      next.Choosing config nodes block entries [line] := by
  rw [readLine_indent written.toIsUpright]
  cases spoken.atNextLine with
  | entries choosing => exact choosing.feedText passive written
  | text speaking none =>
    obtain ⟨ended, ended_eq, stage, last_eq⟩ := speaking.endNode passive room
    have closes : step observer run.atNextLine line .indented = (ended, .handOn .idle) := by
      rw [step_of_dialogue speaking.session.phase_eq, dialogueStep, if_neg (by decide), ended_eq]
    have opens : step observer (ended.withPhase .idle) line .indented =
        (tell observer (ended.withPhase .idle) .blockOpened, .handOn .choice) := by
      rw [step_of_idle rfl, idleStep]
    have choosing : Choosing config nodes block entries []
        ((tell observer (ended.withPhase .idle) .blockOpened).withPhase .choice) := by
      refine ⟨⟨?_, ?_⟩, last_eq⟩
      · exact (config_tell passive _ (by simp)).trans stage.settings
      · subst none
        exact (stage.withPhase .choice).session
    rw [feed_of_handOn observer closes, feed_of_handOn observer opens]
    exact choosing.feedText passive written

/-- The target of an entry, which ends it. -/
theorem Choosing.readTarget {entry : Entry}
    (choosing : run.Choosing config nodes block entries entry.text) (fits : entry.Fits config)
    (free : entries.length < config.maxChoices) :
    ∃ next, readLine observer run (indent (tagLine entry.target)) = (next, none) ∧
      next.Choosing config nodes block (entries ++ [entry]) [] := by
  have inner := lineKind_tagLine (Int.natCast_pos.mpr config.indentThreshold_pos) entry.target
  have targeted := choosing.atNextLine.takeTarget passive (tagLine entry.target)
  have consumed : step observer run.atNextLine (tagLine entry.target) .indented =
      (endChoice observer (Run.takeTarget observer run.atNextLine (tagLine entry.target)),
        .consumed) := by
    simp [step_of_choice choosing.atNextLine.session.phase_eq, choiceStep,
      choosing.atNextLine.settings, inner]
  have filled : ∀ line ∈ entry.text, line ≠ "" := by
    rintro line member rfl
    obtain ⟨c, rest, impossible, -⟩ := (fits.text "" member).exists_cons
    cases impossible
  have ended := targeted.session.endChoice fits.text_ne_nil filled (by simpa using free)
  refine ⟨endChoice observer (Run.takeTarget observer run.atNextLine (tagLine entry.target)), ?_,
    ⟨?_, ?_⟩, ?_⟩
  · rw [readLine_indent fits.target.isUpright, feed_of_consumed observer consumed]
  · rw [config_endChoice passive, targeted.settings]
  · have target_eq : Session.targetOf (tagLine entry.target) = some entry.target := by
      simp [Session.targetOf, fits.target.tagContent?_tagLine]
    rw [session_endChoice, List.map_append]
    simpa [target_eq, Session.takeTarget, Entry.choice] using ended
  · rw [session_endChoice, Session.assembly_endChoice, targeted.last_eq]

end Dialogue.Run
