import Dialogue.Compile.Session

/-!
# The journal of a compile

A compile tells an observer everything that it does as it does it: what each line was
taken for, what became of gathered text, and the events that others can subscribe to.
Whoever keeps all notices has a journal from which the result can be worked out again.
Every notice carries the number of the line that was being read.
-/

namespace Dialogue

/-- The events of a compile. -/
inductive CompileEvent where
  /-- A compile begins, under these settings. -/
  | started (config : Config)
  /-- A node was recorded, at this position. -/
  | nodeClosed (node : Node) (index : Nat)
  /-- The node closed last received its choices. -/
  | choicesAttached (node : Node) (choices : List Choice)
  /-- An entry was refused for lack of room. -/
  | entryDropped (kind : DropKind) (detail : String) (line : Nat)
  /-- A compile ends, with this result. -/
  | finished (graph : Graph) (dropped : Tally)
  deriving DecidableEq, Repr

/-- What a compile has to tell. -/
inductive News where
  /-- Something that others can subscribe to. -/
  | event (event : CompileEvent)
  /-- A line was added to the waiting text, in this phase. -/
  | textAdded (phase : Phase) (line : String)
  /-- A label gave the speaker. -/
  | speakerSet (speaker : String)
  /-- A line gave a command, which is kept if there is room. -/
  | commandGiven (command : Command)
  /-- A line gave the tag of the next node. -/
  | tagSet (tag : String)
  /-- A tag line gave no usable tag. -/
  | malformedTag (text : String)
  /-- A choice block begins. -/
  | blockOpened
  /-- A tag line in a choice block gave the target of the choice in front of it. -/
  | targetSet (target : Option String)
  /-- The waiting lines became the text of a node, which is recorded if there is room. -/
  | nodeWritten (node : Node) (lines : List String)
  /-- The waiting lines became the text of a choice, which is kept if there is room. -/
  | choiceWritten (choice : Choice) (lines : List String)
  /-- A choice block ends, with these choices. -/
  | blockClosed (choices : List Choice)
  /-- There is no node to attach choices to. -/
  | choicesOrphaned (count : Nat)
  /-- What was open at the end is not part of the result. -/
  | discarded (phase : Phase)
  deriving DecidableEq, Repr

/-- News with the number of the line at which it arose. -/
structure Notice where
  line : Nat
  news : News
  deriving DecidableEq, Repr

/-- The event that a notice brings, if it brings one. -/
def Notice.event? (notice : Notice) : Option CompileEvent :=
  match notice.news with
  | .event event => some event
  | _ => none

/-- Someone who is told what a compile does. An observer has a state of its own and may
change the settings in force. -/
structure Observer (σ : Type) where
  notify : Notice → Config → σ → Config × σ

namespace Observer

/-- Nobody. -/
def silent : Observer Unit where
  notify _ config state := (config, state)

/-- An observer that also keeps every notice, in order. -/
def recording {σ : Type} (observer : Observer σ) : Observer (σ × List Notice) where
  notify notice config state :=
    let told := observer.notify notice config state.1
    (told.1, told.2, state.2 ++ [notice])

/-- An observer that leaves the settings alone, except when a compile begins. -/
structure IsPassive {σ : Type} (observer : Observer σ) : Prop where
  /-- After the beginning of a compile the settings stay as they are. -/
  keeps : ∀ notice config state, (∀ started, notice.news ≠ .event (.started started)) →
    (observer.notify notice config state).1 = config

theorem silent_isPassive : silent.IsPassive := ⟨fun _ _ _ _ => rfl⟩

/-- Keeping a journal changes nothing about the settings. -/
theorem IsPassive.recording {σ : Type} {observer : Observer σ}
    (passive : observer.IsPassive) : observer.recording.IsPassive :=
  ⟨fun notice config state later => passive.keeps notice config state.1 later⟩

end Observer

end Dialogue
