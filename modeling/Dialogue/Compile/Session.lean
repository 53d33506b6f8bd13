import Dialogue.Compile.Assembly
import Dialogue.Compile.Draft

/-!
# Compile sessions

Everything that a compile changes as it goes: the draft of the next node, the nodes
closed so far, the phase that the lines are in, and the running numbers.
-/

namespace Dialogue

/-- What the next line is expected to continue. -/
inductive Phase where
  /-- Between nodes: labels, commands, tags and choice blocks begin here. -/
  | idle
  /-- Behind a label: the text of a node is being gathered. -/
  | dialogue
  /-- In an indented block of choices. -/
  | choice
  deriving DecidableEq, Repr

/-- What can be refused for lack of room. -/
inductive DropKind where
  | command
  | choice
  | node
  deriving DecidableEq, Repr

/-- How often each kind of entry was refused, in the order in which the kinds first
were. -/
structure Tally where
  entries : List (DropKind × Nat)
  deriving DecidableEq, Repr

namespace Tally

/-- Nothing refused yet. -/
def empty : Tally := ⟨[]⟩

/-- How often a kind of entry was refused. -/
def count (tally : Tally) (kind : DropKind) : Nat :=
  ((tally.entries.find? fun entry => entry.1 = kind).map (·.2)).getD 0

@[simp] theorem count_empty (kind : DropKind) : empty.count kind = 0 := rfl

/-- The entries with one of them counted once more. -/
def recordIn (kind : DropKind) : List (DropKind × Nat) → List (DropKind × Nat)
  | [] => [(kind, 1)]
  | (other, count) :: rest =>
    if other = kind then (other, count + 1) :: rest else (other, count) :: recordIn kind rest

/-- The tally after one more refusal. -/
def record (tally : Tally) (kind : DropKind) : Tally :=
  ⟨recordIn kind tally.entries⟩

/-- A refusal counts for its own kind only. -/
theorem count_record (tally : Tally) (kind other : DropKind) :
    (tally.record kind).count other = tally.count other + if other = kind then 1 else 0 := by
  obtain ⟨entries⟩ := tally
  simp only [count, record]
  induction entries with
  | nil => by_cases same : kind = other <;> simp [recordIn, same, eq_comm]
  | cons entry rest ih =>
    obtain ⟨first, times⟩ := entry
    simp only [recordIn]
    by_cases hit : first = kind
    · subst hit
      by_cases same : first = other
      · simp [same]
      · simp [same, Ne.symm same]
    · by_cases same : first = other
      · subst same
        simp [hit]
      · simpa [hit, same] using ih

end Tally

/-- The state of a compile. -/
structure Session where
  draft : Draft
  assembly : Assembly
  phase : Phase
  /-- The number of the next tag that is made. -/
  nextNumber : Nat
  /-- The number of the line being read, counted from one. -/
  line : Nat
  dropped : Tally
  deriving DecidableEq, Repr

namespace Session

/-- The session before the first line. -/
def start (config : Config) : Session where
  draft := .start config
  assembly := .empty config.maxNodes
  phase := .idle
  nextNumber := 0
  line := 0
  dropped := .empty

/-- The next made tag, and the session that will not make it again. -/
def freshTag (config : Config) (session : Session) : String × Session :=
  (config.numberedTag session.nextNumber, { session with nextNumber := session.nextNumber + 1 })

end Session

end Dialogue
