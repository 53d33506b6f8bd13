import Dialogue.Proofs.Run.Moves

/-!
# What the operations of a run do

An operation of a run changes the session and tells the observer about it. The change does
not depend on the observer, save for the tag that is made for the next node, and so it is
given here as a function of sessions. What an observer that keeps a journal is told is a
function of the session too. Laws about runs are proved about these functions.
-/

namespace Dialogue

open Script Text

/-! ## Drafts -/

namespace Draft

variable {draft : Draft}

theorem joinedText_eq_intercalate (draft : Draft) :
    draft.joinedText = "\n".intercalate draft.text := by
  rw [← String.toList_inj, String.toList_intercalate]
  simp [joinedText, joinLines]

/-- Lines with something in them join to a text with something in it. -/
theorem joinedText_eq_empty_iff (filled : ∀ line ∈ draft.text, line ≠ "") :
    draft.joinedText = "" ↔ draft.text = [] := by
  rw [joinedText_eq_intercalate]
  cases lines : draft.text with
  | nil => simp
  | cons line rest =>
    have := filled line (by simp [lines])
    cases rest <;> simp [this]

/-- A written node takes everything but its choices from the draft. -/
theorem node?_eq_some_iff {node : Node} :
    draft.node? = some node ↔
      node.tag = draft.tag ∧ node.speaker = draft.speaker ∧ node.text = draft.joinedText ∧
        node.commands = draft.commands.items ∧ node.choices = [] := by
  obtain ⟨tag, speaker, text, commands, choices, usable⟩ := node
  rw [node?]
  split
  next =>
    simp only [Option.some.injEq, Node.mk.injEq]
    constructor <;> simp +contextual [eq_comm]
  next empty =>
    constructor
    · intro impossible
      cases impossible
    · rintro ⟨rfl, -⟩
      exact absurd usable empty

theorem drainNode_of_node {node : Node} (written : draft.node? = some node) :
    draft.drainNode = (some node, draft.drainNode.2) := by
  simp [drainNode, written]

/-- Taking a choice uses the waiting text up. -/
theorem drainChoice_eq (draft : Draft) :
    draft.drainChoice = (draft.drainChoice.1, draft.clearText) := rfl

end Draft

/-! ## Sessions -/

namespace Session

/-- The session with one more command in its draft, or with one more refusal. -/
def takeCommand (session : Session) (command : Command) : Session :=
  match session.draft.commands.push? command with
  | some commands => { session with draft := { session.draft with commands } }
  | none => { session with dropped := session.dropped.record .command }

/-- What there is to tell about a command. -/
def commandNews (session : Session) (command : Command) : List News :=
  .commandGiven command ::
    if session.draft.commands.isFull then
      [.event (.entryDropped .command command.name session.line)]
    else []

/-- The session with the tag of a tag line, if the line has a usable one. -/
def takeTag (session : Session) (line : String) : Session :=
  match tagContent? line.toList with
  | some (c :: content) =>
    { session with draft := { session.draft with tag := String.ofList (c :: content) } }
  | _ => session

/-- What there is to tell about a tag line between nodes. -/
def tagNews (line : String) : News :=
  match tagContent? line.toList with
  | some (c :: content) => .tagSet (String.ofList (c :: content))
  | _ => .malformedTag line

/-- The target that a tag line gives. -/
def targetOf (line : String) : Option String :=
  (tagContent? line.toList).map String.ofList

/-- The session with the target that a tag line gives. -/
def takeTarget (session : Session) (line : String) : Session :=
  { session with draft := { session.draft with target := targetOf line } }

/-- The session with the speaker of a label, behind that label. -/
def takeLabel (session : Session) (line : String) : Session :=
  { session with
    draft := { session.draft with speaker := some (String.ofList (speakerName line.toList)) }
    phase := .dialogue }

/-- The session after a node was written and recorded or refused, and a tag was made for the
next. -/
def endNode (session : Session) (node : Node) (tag : String) : Session :=
  { session with
    draft := { session.draft.drainNode.2 with tag }
    assembly := session.assembly.close node
    nextNumber := session.nextNumber + 1
    dropped :=
      if session.assembly.isFull then session.dropped.record .node else session.dropped }

/-- What there is to tell about the end of a node. -/
def nodeNews (session : Session) (node : Node) : List News :=
  [.nodeWritten node session.draft.text,
    if session.assembly.isFull then .event (.entryDropped .node node.tag session.line)
    else .event (.nodeClosed node session.assembly.nodes.length)]

/-- The session after the waiting text became a choice that was kept or refused. -/
def endChoice (session : Session) : Session :=
  match session.draft.drainChoice.1 with
  | none => { session with draft := session.draft.clearText }
  | some choice =>
    match session.draft.choices.push? choice with
    | some choices => { session with draft := { session.draft.clearText with choices } }
    | none =>
      { session with
        draft := session.draft.clearText
        dropped := session.dropped.record .choice }

/-- What there is to tell about the end of a choice. -/
def choiceNews (session : Session) : List News :=
  match session.draft.drainChoice.1 with
  | none => []
  | some choice =>
    .choiceWritten choice session.draft.text ::
      if session.draft.choices.isFull then
        [.event (.entryDropped .choice choice.text session.line)]
      else []

/-- The session after the choices of the open block went to the node closed last. -/
def endBlock (session : Session) : Session :=
  let (choices, draft) := session.draft.drainChoices
  match session.assembly.attach? choices with
  | none => { session with draft }
  | some (_, assembly) => { session with draft, assembly }

/-- What there is to tell about the end of a choice block. -/
def blockNews (session : Session) : List News :=
  let choices := session.draft.choices.items
  .blockClosed choices ::
    match session.assembly.attach? choices with
    | none => if choices.isEmpty then [] else [.choicesOrphaned choices.length]
    | some (node, _) => [.event (.choicesAttached node choices)]

/-- Everything that can happen to a session, with what there is to tell about it. -/
inductive Effect (session : Session) : List News → Session → Prop where
  | nextLine : Effect session [] { session with line := session.line + 1 }
  | enter (phase : Phase) : Effect session [] { session with phase }
  | gather (line : String) :
      Effect session [.textAdded session.phase line]
        { session with draft := session.draft.addText line }
  | label (line : String) :
      Effect session [.speakerSet (String.ofList (speakerName line.toList))]
        (session.takeLabel line)
  | command (command : Command) :
      Effect session (session.commandNews command) (session.takeCommand command)
  | tag (line : String) : Effect session [tagNews line] (session.takeTag line)
  | target (line : String) :
      Effect session [.targetSet (targetOf line)] (session.takeTarget line)
  | openBlock : Effect session [.blockOpened] session
  | endNode {node : Node} (written : session.draft.node? = some node) (tag : String) :
      Effect session (session.nodeNews node) (session.endNode node tag)
  | endChoice : Effect session session.choiceNews session.endChoice
  | endBlock : Effect session session.blockNews session.endBlock
  | discard : Effect session [.discarded session.phase] session

/-! ## Views of changed sessions -/

section Views

variable {session : Session}

/-- A command changes neither the waiting text nor the open block nor the closed nodes. -/
theorem views_takeCommand (command : Command) :
    (session.takeCommand command).draft.text = session.draft.text ∧
      (session.takeCommand command).draft.choices = session.draft.choices ∧
      (session.takeCommand command).assembly = session.assembly := by
  rw [takeCommand]
  cases session.draft.commands.push? command <;> simp

/-- A tag line between nodes changes the pending tag alone. -/
theorem views_takeTag (line : String) :
    (session.takeTag line).draft.text = session.draft.text ∧
      (session.takeTag line).draft.choices = session.draft.choices ∧
      (session.takeTag line).assembly = session.assembly := by
  rw [takeTag]
  split <;> simp

/-- A command changes nothing about the phase. -/
theorem phase_takeCommand (session : Session) (command : Command) :
    (session.takeCommand command).phase = session.phase := by
  rw [takeCommand]
  cases session.draft.commands.push? command <;> rfl

theorem phase_takeTag (line : String) : (session.takeTag line).phase = session.phase := by
  rw [takeTag]
  split <;> rfl

theorem phase_endChoice : session.endChoice.phase = session.phase := by
  rw [endChoice]
  cases session.draft.drainChoice.1 with
  | none => rfl
  | some choice =>
    dsimp only
    cases session.draft.choices.push? choice <;> rfl

/-- The end of a choice uses the waiting text up, whether there is a choice or not. -/
@[simp] theorem text_endChoice : session.endChoice.draft.text = [] := by
  rw [endChoice]
  cases session.draft.drainChoice.1 with
  | none => rfl
  | some choice =>
    dsimp only
    cases session.draft.choices.push? choice <;> rfl

@[simp] theorem assembly_endChoice : session.endChoice.assembly = session.assembly := by
  rw [endChoice]
  cases session.draft.drainChoice.1 with
  | none => rfl
  | some choice =>
    dsimp only
    cases session.draft.choices.push? choice <;> rfl

/-- Only the choice that ends can come into the open block. -/
theorem mem_choices_endChoice {choice : Choice}
    (member : choice ∈ session.endChoice.draft.choices.items) :
    choice ∈ session.draft.choices.items ∨ session.draft.drainChoice.1 = some choice := by
  rw [endChoice] at member
  cases drained : session.draft.drainChoice.1 with
  | none =>
    simp only [drained] at member
    exact .inl member
  | some new =>
    simp only [drained] at member
    cases pushed : session.draft.choices.push? new with
    | none =>
      simp only [pushed] at member
      exact .inl member
    | some larger =>
      simp only [pushed, Bounded.items_of_push? pushed, List.mem_append,
        List.mem_singleton] at member
      exact member.imp_right fun same => congrArg some same.symm

@[simp] theorem text_endBlock : session.endBlock.draft.text = session.draft.text := by
  simp only [endBlock]
  cases session.assembly.attach? session.draft.drainChoices.1 <;> rfl

@[simp] theorem choices_endBlock : session.endBlock.draft.choices.items = [] := by
  simp only [endBlock]
  cases session.assembly.attach? session.draft.drainChoices.1 <;> rfl

/-- The end of a block changes the choices of the last node or nothing at all. -/
theorem nodes_endBlock :
    session.endBlock.assembly.nodes = session.assembly.nodes ∨
      ∃ front last, session.assembly.nodes = front ++ [last] ∧
        session.endBlock.assembly.nodes =
          front ++ [last.offering session.draft.choices.items] := by
  simp only [endBlock]
  cases attached : session.assembly.attach? session.draft.drainChoices.1 with
  | none => exact .inl rfl
  | some found =>
    obtain ⟨front, last, nodes_eq, node_eq, assembly_eq⟩ := Assembly.exists_of_attach? attached
    refine .inr ⟨front, last, nodes_eq, ?_⟩
    simp only [assembly_eq, node_eq]
    rfl

end Views

end Session

namespace Run

variable {σ : Type} (observer : Observer σ) (run : Run σ)

/-! ## Runs -/

@[simp] theorem session_gather (line : String) :
    (gather observer run line).session =
      { run.session with draft := run.session.draft.addText line } := rfl

@[simp] theorem session_takeLabel (line : String) :
    (takeLabel observer run line).session = run.session.takeLabel line := rfl

@[simp] theorem session_takeTarget (line : String) :
    (takeTarget observer run line).session = run.session.takeTarget line := rfl

@[simp] theorem session_takeTag (line : String) :
    (takeTag observer run line).session = run.session.takeTag line := by
  rw [takeTag, Session.takeTag]
  cases tagContent? line.toList with
  | none => rfl
  | some content => cases content <;> rfl

@[simp] theorem session_takeCommand (command : Command) :
    (takeCommand observer run command).session = run.session.takeCommand command := by
  simp only [takeCommand, Session.takeCommand, session_tell]
  cases run.session.draft.commands.push? command <;> rfl

@[simp] theorem session_endChoice :
    (endChoice observer run).session = run.session.endChoice := by
  rw [endChoice, Session.endChoice, Draft.drainChoice_eq]
  cases run.session.draft.drainChoice.1 with
  | none => rfl
  | some choice =>
    simp only [session_tell, session_withDraft, Draft.clearText]
    cases run.session.draft.choices.push? choice <;> rfl

@[simp] theorem session_endBlock :
    (endBlock observer run).session = run.session.endBlock := by
  simp only [endBlock, Session.endBlock, session_tell, session_withDraft]
  cases run.session.assembly.attach? run.session.draft.drainChoices.1 with
  | none => cases run.session.draft.drainChoices.1.isEmpty <;> rfl
  | some attached => rfl

variable {run}

/-- A node with a usable tag is ended without a fault. The tag of the next node is made under
the settings that the observer has left. -/
theorem endNode_of_node {node : Node} (written : run.session.draft.node? = some node) :
    ∃ next, endNode observer run = (next, none) ∧
      next.session = run.session.endNode node
        (next.config.numberedTag run.session.nextNumber) := by
  rw [endNode, Draft.drainNode_of_node written]
  cases full : run.session.assembly.isFull with
  | true => exact ⟨_, rfl, by simp [renewTag, Session.freshTag, refuse, Session.endNode, full]⟩
  | false => exact ⟨_, rfl, by simp [renewTag, Session.freshTag, Session.endNode, full]⟩

/-- Only a node with a usable tag is ended without a fault. -/
theorem exists_node_of_endNode {next : Run σ} (ended : endNode observer run = (next, none)) :
    ∃ node, run.session.draft.node? = some node ∧
      next.session = run.session.endNode node
        (next.config.numberedTag run.session.nextNumber) := by
  cases written : run.session.draft.node? with
  | none => simp [endNode, Draft.drainNode, written] at ended
  | some node =>
    obtain ⟨_, found, session_eq⟩ := endNode_of_node observer written
    obtain ⟨rfl, -⟩ := Prod.mk.inj (ended.symm.trans found)
    exact ⟨node, rfl, session_eq⟩

end Run

end Dialogue
