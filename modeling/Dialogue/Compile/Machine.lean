import Dialogue.Compile.Notice
import Dialogue.Script.Line
import Dialogue.Script.Token

/-!
# The line machine

A session takes lines one at a time. What a line does depends on its kind and on the
phase; a line that ends what was open is handed on to the next phase, under which it may
begin something new. `feed` follows a line through the phases until it is used up. A line
visits no phase twice, because each handing on lowers `rank`.
-/

namespace Dialogue

open Script

/-- A compile under way: the session, the settings in force, and the observer's state. -/
structure Run (σ : Type) where
  session : Session
  config : Config
  state : σ

/-- Why a line cannot be processed. -/
inductive Fault where
  /-- A command whose name does not end. -/
  | unfinishedCommand
  /-- A node without a usable tag. -/
  | emptyTag
  deriving DecidableEq, Repr

/-- What became of a line in a phase. -/
inductive Outcome where
  /-- The line is used up. -/
  | consumed
  /-- The line is to be processed again, in another phase. -/
  | handOn (phase : Phase)
  /-- The line cannot be processed. -/
  | failed (fault : Fault)
  deriving DecidableEq, Repr

namespace Run

variable {σ : Type} (observer : Observer σ)

/-- The run with another draft. -/
def withDraft (run : Run σ) (draft : Draft) : Run σ :=
  { run with session := { run.session with draft } }

/-- The run in another phase. -/
def withPhase (run : Run σ) (phase : Phase) : Run σ :=
  { run with session := { run.session with phase } }

/-- The run with other closed nodes. -/
def withAssembly (run : Run σ) (assembly : Assembly) : Run σ :=
  { run with session := { run.session with assembly } }

/-- The run after the observer was told something. -/
def tell (run : Run σ) (news : News) : Run σ :=
  let told := observer.notify ⟨run.session.line, news⟩ run.config run.state
  { run with config := told.1, state := told.2 }

@[simp] theorem session_withDraft (run : Run σ) (draft : Draft) :
    (run.withDraft draft).session = { run.session with draft } := rfl

@[simp] theorem session_withPhase (run : Run σ) (phase : Phase) :
    (run.withPhase phase).session = { run.session with phase } := rfl

@[simp] theorem session_withAssembly (run : Run σ) (assembly : Assembly) :
    (run.withAssembly assembly).session = { run.session with assembly } := rfl

/-- Telling news changes nothing but the settings and the observer. -/
@[simp] theorem session_tell (run : Run σ) (news : News) :
    (run.tell observer news).session = run.session := rfl

/-- The run after an entry was refused. -/
def refuse (run : Run σ) (kind : DropKind) (detail : String) : Run σ :=
  let session := { run.session with dropped := run.session.dropped.record kind }
  tell observer { run with session } (.event (.entryDropped kind detail session.line))

/-- The run with one more line of text waiting. -/
def gather (run : Run σ) (line : String) : Run σ :=
  tell observer (run.withDraft (run.session.draft.addText line))
    (.textAdded run.session.phase line)

/-- The run with a made tag in its draft. -/
def renewTag (run : Run σ) : Run σ :=
  let (tag, session) := run.session.freshTag run.config
  { run with session := { session with draft := { session.draft with tag } } }

/-- Write the node in the draft, record it or refuse it, and make a tag for the next. -/
def endNode (run : Run σ) : Run σ × Option Fault :=
  let lines := run.session.draft.text
  let (node, draft) := run.session.draft.drainNode
  let run := run.withDraft draft
  match node with
  | none => (run, some .emptyTag)
  | some node =>
    let run := tell observer run (.nodeWritten node lines)
    let full := run.session.assembly.isFull
    let run := run.withAssembly (run.session.assembly.close node)
    let run :=
      if full then refuse observer run .node node.tag
      else
        tell observer run
          (.event (.nodeClosed node (run.session.assembly.nodes.length - 1)))
    (run.renewTag, none)

/-- Write the choice in the draft, if there is one, and put it into the open block. -/
def endChoice (run : Run σ) : Run σ :=
  let lines := run.session.draft.text
  let (choice, draft) := run.session.draft.drainChoice
  let run := run.withDraft draft
  match choice with
  | none => run
  | some choice =>
    let run := tell observer run (.choiceWritten choice lines)
    match run.session.draft.choices.push? choice with
    | some choices => run.withDraft { run.session.draft with choices }
    | none => refuse observer run .choice choice.text

/-- Give the choices of the open block to the node closed last, if it was recorded. -/
def endBlock (run : Run σ) : Run σ :=
  let (choices, draft) := run.session.draft.drainChoices
  let run := tell observer (run.withDraft draft) (.blockClosed choices)
  match run.session.assembly.attach? choices with
  | none =>
    if choices.isEmpty then run else tell observer run (.choicesOrphaned choices.length)
  | some (node, assembly) =>
    tell observer (run.withAssembly assembly) (.event (.choicesAttached node choices))

/-! ## One phase -/

/-- A command line: its command is kept or refused. -/
def takeCommand (run : Run σ) (command : Command) : Run σ :=
  let run := tell observer run (.commandGiven command)
  match run.session.draft.commands.push? command with
  | some commands => run.withDraft { run.session.draft with commands }
  | none => refuse observer run .command command.name

/-- A tag line between nodes: it gives the tag of the next node, if its content is usable. -/
def takeTag (run : Run σ) (line : String) : Run σ :=
  match tagContent? line.toList with
  | some (c :: content) =>
    let tag := String.ofList (c :: content)
    tell observer (run.withDraft { run.session.draft with tag }) (.tagSet tag)
  | _ => tell observer run (.malformedTag line)

/-- A label: it gives the speaker. Behind it the phase changes at once, for the label itself
must not be processed again. -/
def takeLabel (run : Run σ) (line : String) : Run σ :=
  let speaker := String.ofList (speakerName line.toList)
  let run := run.withDraft { run.session.draft with speaker := some speaker }
  (tell observer run (.speakerSet speaker)).withPhase .dialogue

/-- A line between nodes. -/
def idleStep (run : Run σ) (line : String) : LineKind → Run σ × Outcome
  | .label => (takeLabel observer run line, .consumed)
  | .narration => (gather observer run line, .consumed)
  | .command =>
    match command? line.toList with
    | none => (run, .failed .unfinishedCommand)
    | some command => (takeCommand observer run command, .consumed)
  | .tag => (takeTag observer run line, .consumed)
  | .indented => (tell observer run .blockOpened, .handOn .choice)

/-- A line behind a label: text is gathered, anything else closes the node. -/
def dialogueStep (run : Run σ) (line : String) (kind : LineKind) : Run σ × Outcome :=
  if kind = .narration then (gather observer run line, .consumed)
  else
    match endNode observer run with
    | (run, some fault) => (run, .failed fault)
    | (run, none) => (run, .handOn .idle)

/-- A tag line in a choice block: it gives the target of the choice in front of it. -/
def takeTarget (run : Run σ) (line : String) : Run σ :=
  let target := (tagContent? line.toList).map String.ofList
  tell observer (run.withDraft { run.session.draft with target }) (.targetSet target)

/-- A line in a choice block. Its kind is read off the dedented line once more, so that tags
inside the block are seen: text is gathered, a tag sets the target of the choice and ends
it, and a line that was not indented ends the block. -/
def choiceStep (run : Run σ) (line : String) (kind : LineKind) : Run σ × Outcome :=
  let inner := lineKind run.config.indentThreshold line.toList
  if inner = .narration then (gather observer run line, .consumed)
  else if inner = .tag then
    let run := endChoice observer (takeTarget observer run line)
    if kind = .indented then (run, .consumed) else (endBlock observer run, .handOn .idle)
  else if kind = .indented then (run, .consumed)
  else (endBlock observer (endChoice observer run), .handOn .idle)

/-- A line in the phase that the run is in. -/
def step (run : Run σ) (line : String) (kind : LineKind) : Run σ × Outcome :=
  match run.session.phase with
  | .idle => idleStep observer run line kind
  | .dialogue => dialogueStep observer run line kind
  | .choice => choiceStep observer run line kind

/-! ## All phases -/

/-- How many more phases a line of a kind can be handed on to. -/
def rank (kind : LineKind) : Phase → Nat
  | .idle => if kind = .indented then 1 else 0
  | .dialogue => 2
  | .choice => if kind = .indented then 0 else 1

/-- No line can be handed on more than twice. -/
theorem rank_le_two (kind : LineKind) (phase : Phase) : rank kind phase ≤ 2 := by
  cases kind <;> cases phase <;> decide

/-- A line is handed on to a phase of lower rank only. -/
theorem rank_lt_of_step {run next : Run σ} {line : String} {kind : LineKind} {phase : Phase}
    (handed : step observer run line kind = (next, .handOn phase)) :
    rank kind phase < rank kind run.session.phase := by
  unfold step at handed
  split at handed <;> rename_i current
  · unfold idleStep at handed
    split at handed
    · simp at handed
    · simp at handed
    · split at handed <;> simp at handed
    · simp at handed
    · simp only [Prod.mk.injEq, Outcome.handOn.injEq] at handed
      simp [← handed.2, current, rank]
  · unfold dialogueStep at handed
    split at handed
    · simp at handed
    · split at handed
      · simp at handed
      · simp only [Prod.mk.injEq, Outcome.handOn.injEq] at handed
        simp only [← handed.2, current, rank]
        split <;> omega
  · unfold choiceStep at handed
    simp only at handed
    split at handed
    · simp at handed
    · split at handed
      · split at handed
        · simp at handed
        · rename_i outside
          simp only [Prod.mk.injEq, Outcome.handOn.injEq] at handed
          simp [← handed.2, current, rank, outside]
      · split at handed
        · simp at handed
        · rename_i outside
          simp only [Prod.mk.injEq, Outcome.handOn.injEq] at handed
          simp [← handed.2, current, rank, outside]

/-- Follow a dedented line through the phases until it is used up. -/
def feed (run : Run σ) (line : String) (kind : LineKind) : Run σ × Option Fault :=
  match _handed : step observer run line kind with
  | (run, .consumed) => (run, none)
  | (run, .failed fault) => (run, some fault)
  | (run, .handOn phase) => feed (run.withPhase phase) line kind
termination_by rank kind run.session.phase
decreasing_by exact rank_lt_of_step observer _handed

theorem feed_of_consumed {run next : Run σ} {line : String} {kind : LineKind}
    (consumed : step observer run line kind = (next, .consumed)) :
    feed observer run line kind = (next, none) := by
  rw [feed]
  split <;> simp_all

theorem feed_of_failed {run next : Run σ} {line : String} {kind : LineKind} {fault : Fault}
    (failed : step observer run line kind = (next, .failed fault)) :
    feed observer run line kind = (next, some fault) := by
  rw [feed]
  split <;> simp_all

theorem feed_of_handOn {run next : Run σ} {line : String} {kind : LineKind} {phase : Phase}
    (handed : step observer run line kind = (next, .handOn phase)) :
    feed observer run line kind = feed observer (next.withPhase phase) line kind := by
  rw [feed]
  split <;> simp_all

/-- Close what is open at the end of a script. -/
def settle (run : Run σ) : Run σ × Option Fault :=
  match run.session.phase with
  | .idle => (run, none)
  | .dialogue =>
    match endNode observer run with
    | (run, some fault) => (run, some fault)
    | (run, none) => (run.withPhase .idle, none)
  | .choice => ((endBlock observer (endChoice observer run)).withPhase .idle, none)

end Run

end Dialogue
