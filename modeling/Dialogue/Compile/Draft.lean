import Dialogue.Compile.Bounded
import Dialogue.Config.Basic
import Dialogue.Graph.Basic
import Dialogue.Text.Lines

/-!
# The node being written

A draft holds everything that lines have contributed and no node has taken yet: the tag
and the speaker for the next node, its commands, the text gathered so far, and the
choices of an open choice block. Text is shared: it becomes the text of a node or of a
choice, whichever takes it first. The speaker and the target of the latest choice stay
until they are replaced.
-/

namespace Dialogue

/-- Contributions that no node has taken yet. -/
structure Draft where
  /-- The tag of the next node; empty only if it was set so. -/
  tag : String
  /-- The speaker of the next node, none before the first label. -/
  speaker : Option String
  /-- The target of the next choice. -/
  target : Option String
  commands : Bounded Command
  choices : Bounded Choice
  /-- Lines of text, in order. -/
  text : List String
  deriving DecidableEq, Repr

namespace Draft

/-- The draft with which a compile begins. -/
def start (config : Config) : Draft where
  tag := config.startTag
  speaker := none
  target := none
  commands := .empty config.maxCommands
  choices := .empty config.maxChoices
  text := []

/-- Whether any line of text is waiting. -/
def isGathering (draft : Draft) : Bool :=
  !draft.text.isEmpty

/-- The draft with one more line of text. -/
def addText (draft : Draft) (line : String) : Draft :=
  { draft with text := draft.text ++ [line] }

@[simp] theorem isGathering_eq_true {draft : Draft} :
    draft.isGathering = true ↔ draft.text ≠ [] := by
  simp [isGathering]

@[simp] theorem text_addText (draft : Draft) (line : String) :
    (draft.addText line).text = draft.text ++ [line] := rfl

/-- The waiting lines as one text. -/
def joinedText (draft : Draft) : String :=
  String.ofList (Text.joinLines (draft.text.map String.toList))

/-- The draft without waiting text. -/
def clearText (draft : Draft) : Draft :=
  { draft with text := [] }

@[simp] theorem text_clearText (draft : Draft) : draft.clearText.text = [] := rfl

/-- The waiting text, drained out of the draft. -/
def drainText (draft : Draft) : String × Draft :=
  (draft.joinedText, draft.clearText)

/-- The node that the draft describes, if its tag is usable. Only the empty tag is not: one with
half of a surrogate pair would not be either, but no text has it. -/
def node? (draft : Draft) : Option Node :=
  if usable : draft.tag ≠ "" then
    some
      { tag := draft.tag
        speaker := draft.speaker
        text := draft.joinedText
        commands := draft.commands.items
        choices := []
        tag_ne_empty := usable }
  else none

/-- A draft describes a node if and only if its tag is usable. -/
theorem node?_eq_none_iff {draft : Draft} : draft.node? = none ↔ draft.tag = "" := by
  unfold node?
  split <;> simp_all

/-- The node that the draft describes, drained out of it: its text and commands are used up.
Without a usable tag there is no node; the text is used up nevertheless, the commands
stay. -/
def drainNode (draft : Draft) : Option Node × Draft :=
  match draft.node? with
  | some node => (some node, { draft.clearText with commands := draft.commands.clear })
  | none => (none, draft.clearText)

/-- The choice that the waiting text describes, drained out of the draft. Without text there
is no choice. -/
def drainChoice (draft : Draft) : Option Choice × Draft :=
  let text := draft.joinedText
  (if text = "" then none else some ⟨text, draft.target⟩, draft.clearText)

/-- The choices of the open block, drained out of the draft. -/
def drainChoices (draft : Draft) : List Choice × Draft :=
  (draft.choices.items, { draft with choices := draft.choices.clear })

/-- Whether there is a node or not, its text is used up. -/
@[simp] theorem text_drainNode (draft : Draft) : draft.drainNode.2.text = [] := by
  unfold drainNode
  split <;> rfl

/-- The open block is not touched by the end of a node. -/
@[simp] theorem choices_drainNode (draft : Draft) :
    draft.drainNode.2.choices = draft.choices := by
  unfold drainNode
  split <;> rfl

@[simp] theorem text_drainChoice (draft : Draft) : draft.drainChoice.2.text = [] := rfl

@[simp] theorem text_drainChoices (draft : Draft) : draft.drainChoices.2.text = draft.text := rfl

@[simp] theorem choices_drainChoices (draft : Draft) :
    draft.drainChoices.2.choices.items = [] := rfl

end Draft

end Dialogue
