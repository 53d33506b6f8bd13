import Dialogue.Proofs.Layout.Basic
import Dialogue.Proofs.Run.Journal
import Dialogue.Proofs.Run.Safety

/-!
# Stages of a compile

Between two lines of a script in the usual layout a run is at a stage: its phase, the
nodes that are closed, and the commands, choices and lines of text that wait are known.
Here is how the operations of a run lead from one stage to another, as long as there is
room for everything and the observer leaves the settings alone.
-/

namespace Dialogue

open Script Text Layout

variable {config : Config} {phase : Phase} {nodes : List Node} {commands : List Command}
  {choices : List Choice} {text : List String}

/-- What is known about a session between two lines. -/
structure Session.Stage (config : Config) (phase : Phase) (nodes : List Node)
    (commands : List Command) (choices : List Choice) (text : List String) (session : Session) :
    Prop where
  within : session.Within config
  phase_eq : session.phase = phase
  nodes_eq : session.assembly.nodes = nodes
  commands_eq : session.draft.commands.items = commands
  choices_eq : session.draft.choices.items = choices
  text_eq : session.draft.text = text

/-- What is known about a run between two lines. -/
structure Run.Stage {σ : Type} (config : Config) (phase : Phase) (nodes : List Node)
    (commands : List Command) (choices : List Choice) (text : List String) (run : Run σ) :
    Prop where
  settings : run.config = config
  session : run.session.Stage config phase nodes commands choices text

/-! ## Sessions -/

namespace Session.Stage

variable {session : Session}

theorem start (config : Config) : (Session.start config).Stage config .idle [] [] [] [] :=
  ⟨.start config, rfl, rfl, rfl, rfl, rfl⟩

variable (stage : session.Stage config phase nodes commands choices text)
include stage

theorem addText (line : String) :
    Session.Stage config phase nodes commands choices (text ++ [line])
      { session with draft := session.draft.addText line } :=
  { stage with
    within := stage.within.addText line
    text_eq := congrArg (· ++ [line]) stage.text_eq }

theorem takeLabel (line : String) :
    (session.takeLabel line).Stage config .dialogue nodes commands choices text :=
  { stage with within := stage.within.takeLabel line, phase_eq := rfl }

theorem takeTarget (line : String) :
    (session.takeTarget line).Stage config phase nodes commands choices text :=
  { stage with within := stage.within.takeTarget line }

/-- A command comes to the commands that wait, if there is room. -/
theorem takeCommand (command : Command) (room : commands.length < config.maxCommands) :
    (session.takeCommand command).Stage config phase nodes (commands ++ [command]) choices text := by
  have within := stage.within.takeCommand command
  have free : session.draft.commands.items.length < session.draft.commands.capacity := by
    rwa [stage.commands_eq, stage.within.draft.commands_capacity]
  obtain ⟨larger, pushed, items_eq⟩ := Bounded.exists_push? free command
  simp only [Session.takeCommand, pushed] at within ⊢
  exact { stage with within, commands_eq := items_eq.trans (by rw [stage.commands_eq]) }

/-- A tag line changes nothing that is known. -/
theorem takeTag (line : String) :
    (session.takeTag line).Stage config phase nodes commands choices text := by
  have within := stage.within.takeTag line
  simp only [Session.takeTag] at within ⊢
  split at within
  · exact { stage with within }
  · exact stage

theorem isFull_eq_false (room : nodes.length < config.maxNodes) :
    session.assembly.isFull = false := by
  simpa [Assembly.isFull, stage.within.capacity, stage.nodes_eq] using room

/-- A node that ends is the last of the closed nodes. -/
theorem endNode {node : Node} (written : session.draft.node? = some node) {tag : String}
    (usable : tag ≠ "") (room : nodes.length < config.maxNodes) :
    (session.endNode node tag).Stage config phase (nodes ++ [node]) [] choices [] where
  within := stage.within.endNode written usable
  phase_eq := stage.phase_eq
  nodes_eq := by
    rw [← stage.nodes_eq]
    exact Assembly.nodes_close_of_room (stage.isFull_eq_false room) node
  commands_eq := by simp [Session.endNode, Draft.drainNode, written]
  choices_eq := by simpa [Session.endNode] using stage.choices_eq
  text_eq := by simp [Session.endNode]

/-- Text that waits becomes a choice, if there is room. -/
theorem endChoice (some_text : text ≠ []) (filled : ∀ line ∈ text, line ≠ "")
    (room : choices.length < config.maxChoices) :
    session.endChoice.Stage config phase nodes commands
      (choices ++ [⟨"\n".intercalate text, session.draft.target⟩]) [] := by
  have within := stage.within.endChoice
  have joined : session.draft.joinedText ≠ "" := by
    rw [← stage.text_eq] at some_text filled
    exact fun empty => some_text ((Draft.joinedText_eq_empty_iff filled).mp empty)
  have drained : session.draft.drainChoice.1 =
      some ⟨"\n".intercalate text, session.draft.target⟩ := by
    rw [← stage.text_eq, ← Draft.joinedText_eq_intercalate]
    exact if_neg joined
  have free : session.draft.choices.items.length < session.draft.choices.capacity := by
    rwa [stage.choices_eq, stage.within.draft.choices_capacity]
  obtain ⟨larger, pushed, items_eq⟩ := Bounded.exists_push? free
    ⟨"\n".intercalate text, session.draft.target⟩
  simp only [Session.endChoice, drained, pushed] at within ⊢
  exact { stage with
    within, text_eq := rfl, choices_eq := items_eq.trans (by rw [stage.choices_eq]) }

/-- The closed node that can receive choices receives those that wait. -/
theorem endBlock {front : List Node} {node : Node} (nodes_eq : nodes = front ++ [node])
    (last_eq : session.assembly.last? = some node) :
    session.endBlock.Stage config phase (front ++ [node.offering choices]) commands [] text := by
  have within := stage.within.endBlock
  have attached := Assembly.attach?_of_last? last_eq choices
  simp only [Session.endBlock, Draft.drainChoices, stage.choices_eq, attached] at within ⊢
  exact { stage with
    within, choices_eq := rfl, nodes_eq := by simp [stage.nodes_eq, nodes_eq] }

end Session.Stage

/-- A tag that is written between brackets is the tag of the next node. -/
theorem Session.tag_takeTag {session : Session} {tag : String} (written : IsTag tag) :
    (session.takeTag (tagLine tag)).draft.tag = tag := by
  have filled : tag.toList ≠ [] := by simpa using written.ne_empty
  obtain ⟨c, rest, tag_eq⟩ := List.exists_cons_of_ne_nil filled
  simp only [Session.takeTag, written.tagContent?_tagLine, tag_eq]
  rw [← tag_eq, String.ofList_toList]

/-- Where no text waits, no choice ends. -/
theorem Session.Stage.endChoice_of_no_text {session : Session}
    (stage : session.Stage config phase nodes commands choices []) :
    session.endChoice.Stage config phase nodes commands choices [] := by
  have within := stage.within.endChoice
  have drained : session.draft.drainChoice.1 = none := by
    have empty : session.draft.joinedText = "" :=
      (Draft.joinedText_eq_empty_iff (by simp [stage.text_eq])).mpr stage.text_eq
    exact if_pos empty
  simp only [Session.endChoice, drained] at within ⊢
  exact { stage with within, text_eq := rfl }

end Dialogue
