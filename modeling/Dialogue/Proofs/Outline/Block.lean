import Dialogue.Proofs.Outline.Segment
import Dialogue.Proofs.Run.Effects

/-!
# The entries of a choice block

Inside a choice block the kind of a line is that of its dedented form. The tag lines cut the
text of the block into pieces, and a piece is the text of an entry, which leads to the
target that the tag line behind it gives. Behind the last piece there is no tag line of the
block; its target is that of the line that ends the block, or the latest one that was
given. This module says what the entries are, and how they change with one more line.
-/

namespace Dialogue

open Script Text

namespace Reading

/-- The kind that a line has inside a choice block. -/
def inner (threshold : Int) (reading : Reading) : LineKind :=
  lineKind threshold reading.line.toList

/-- Whether a line is text of a choice block. -/
def isEntryText (threshold : Int) (reading : Reading) : Bool :=
  reading.inner threshold = .narration

/-- Whether a line gives a target in a choice block. -/
def isEntryTag (threshold : Int) (reading : Reading) : Bool :=
  reading.inner threshold = .tag

/-- A line with which a choice block goes on: it is indented, or it is text both as it stands and
inside the block. Any other line ends the block. -/
def Continues (threshold : Int) (reading : Reading) : Prop :=
  reading.kind = .indented ∨ reading.kind = .narration ∧ reading.inner threshold = .narration

instance (threshold : Int) (reading : Reading) : Decidable (reading.Continues threshold) :=
  inferInstanceAs (Decidable (_ ∨ _))

end Reading

/-- The text of a block, cut at its tag lines: one piece more than there are tag lines. -/
def pieces (threshold : Int) (block : List Reading) : List (List String) :=
  (block.splitOnP (Reading.isEntryTag threshold)).map fun segment =>
    (segment.filter (Reading.isEntryText threshold)).map Reading.line

/-- The targets that the tag lines of a block give. -/
def targets (threshold : Int) (block : List Reading) : List (Option String) :=
  (block.filter (Reading.isEntryTag threshold)).map fun reading => Session.targetOf reading.line

/-- The latest target that was given: that of the last tag line, or one from before. -/
def standingTarget (threshold : Int) (carried : Option String) (read : List Reading) :
    Option String :=
  (targets threshold read).getLast?.getD carried

/-- The entry of a piece, none if the piece is empty. -/
def choiceOf? (piece : List String) (target : Option String) : Option Choice :=
  if piece = [] then none else some ⟨"\n".intercalate piece, target⟩

/-- The entries of a block, given the target from before the block and the line that ends it. -/
def entries (threshold : Int) (carried : Option String) (block : List Reading)
    (ending : Option Reading) : List Choice :=
  let last := standingTarget threshold carried (block ++ ending.toList)
  ((pieces threshold block).zip (targets threshold block ++ [last])).filterMap fun entry =>
    choiceOf? entry.1 entry.2

/-- The text of a block behind its last tag line. -/
def openPiece (threshold : Int) (block : List Reading) : List String :=
  ((pieces threshold block).getLast?).getD []

/-- The pieces of a block that tag lines end. -/
def endedPieces (threshold : Int) (block : List Reading) : List (List String) :=
  (pieces threshold block).dropLast

/-- The entries of a block that tag lines end. -/
def endedEntries (threshold : Int) (block : List Reading) : List Choice :=
  ((endedPieces threshold block).zip (targets threshold block)).filterMap fun entry =>
    choiceOf? entry.1 entry.2

variable {threshold : Int} {carried : Option String} {block : List Reading} {reading : Reading}

/-! ## One more line -/

/-- A tag line ends a piece. -/
theorem pieces_concat_tag (tag : reading.inner threshold = .tag) :
    pieces threshold (block ++ [reading]) = pieces threshold block ++ [[]] := by
  have cuts : reading.isEntryTag threshold = true := decide_eq_true tag
  rw [pieces, List.splitOnP_append_cons block [] cuts, List.map_append]
  rfl

/-- A line of text goes to the last piece, and other lines do not count. -/
theorem pieces_concat (block : List Reading) (untagged : reading.inner threshold ≠ .tag) :
    ∃ front last, pieces threshold block = front ++ [last] ∧
      pieces threshold (block ++ [reading]) = front ++
        [if reading.inner threshold = .narration then last ++ [reading.line] else last] := by
  have keeps : reading.isEntryTag threshold = false := decide_eq_false untagged
  obtain ⟨front, last, before, after⟩ := splitOnP_concat block keeps
  refine ⟨_, _, by rw [pieces, before, List.map_append]; rfl, ?_⟩
  rw [pieces, after, List.map_append]
  by_cases text : reading.inner threshold = .narration
  · simp [Reading.isEntryText, text]
  · simp [Reading.isEntryText, text]

theorem targets_concat_tag (tag : reading.inner threshold = .tag) :
    targets threshold (block ++ [reading]) =
      targets threshold block ++ [Session.targetOf reading.line] := by
  simp [targets, Reading.isEntryTag, tag]

theorem targets_concat (untagged : reading.inner threshold ≠ .tag) :
    targets threshold (block ++ [reading]) = targets threshold block := by
  simp [targets, Reading.isEntryTag, untagged]

theorem pieces_eq (threshold : Int) (block : List Reading) :
    pieces threshold block = endedPieces threshold block ++ [openPiece threshold block] := by
  have some_piece : pieces threshold block ≠ [] := by simp [pieces, List.splitOnP_ne_nil]
  rw [endedPieces, openPiece, List.getLast?_eq_some_getLast some_piece]
  exact (List.dropLast_concat_getLast some_piece).symm

theorem endedPieces_concat_tag (tag : reading.inner threshold = .tag) :
    endedPieces threshold (block ++ [reading]) =
      endedPieces threshold block ++ [openPiece threshold block] := by
  rw [endedPieces, pieces_concat_tag tag, List.dropLast_concat, pieces_eq]

theorem openPiece_concat_tag (tag : reading.inner threshold = .tag) :
    openPiece threshold (block ++ [reading]) = [] := by
  rw [openPiece, pieces_concat_tag tag, List.getLast?_concat]
  rfl

theorem endedPieces_concat (untagged : reading.inner threshold ≠ .tag) :
    endedPieces threshold (block ++ [reading]) = endedPieces threshold block := by
  obtain ⟨front, last, before, after⟩ := pieces_concat block untagged
  rw [endedPieces, endedPieces, before, after, List.dropLast_concat, List.dropLast_concat]

theorem openPiece_concat (untagged : reading.inner threshold ≠ .tag) :
    openPiece threshold (block ++ [reading]) =
      if reading.inner threshold = .narration then openPiece threshold block ++ [reading.line]
      else openPiece threshold block := by
  obtain ⟨front, last, before, after⟩ := pieces_concat block untagged
  rw [openPiece, openPiece, before, after, List.getLast?_concat, List.getLast?_concat]
  rfl

/-- Each tag line ends a piece. -/
theorem length_endedPieces (threshold : Int) (block : List Reading) :
    (endedPieces threshold block).length = (targets threshold block).length := by
  induction block using List.reverseRecOn with
  | nil => rfl
  | append_singleton block reading ih =>
    by_cases tag : reading.inner threshold = .tag
    · rw [endedPieces_concat_tag tag, targets_concat_tag tag]
      simp [ih]
    · rw [endedPieces_concat tag, targets_concat tag, ih]

/-! ## What a line adds to the entries -/

theorem standingTarget_concat_tag (tag : reading.inner threshold = .tag) :
    standingTarget threshold carried (block ++ [reading]) = Session.targetOf reading.line := by
  rw [standingTarget, targets_concat_tag tag, List.getLast?_concat]
  rfl

theorem standingTarget_concat (untagged : reading.inner threshold ≠ .tag) :
    standingTarget threshold carried (block ++ [reading]) =
      standingTarget threshold carried block := by
  rw [standingTarget, targets_concat untagged, standingTarget]

/-- With the last piece and a target for it there is one entry more, unless the piece is empty. -/
theorem entries_zip_concat (threshold : Int) (block : List Reading) (target : Option String) :
    ((endedPieces threshold block ++ [openPiece threshold block]).zip
        (targets threshold block ++ [target])).filterMap (fun entry => choiceOf? entry.1 entry.2) =
      endedEntries threshold block ++ (choiceOf? (openPiece threshold block) target).toList := by
  rw [List.zip_append (length_endedPieces threshold block), List.filterMap_append, endedEntries]
  rfl

/-- A tag line ends an entry, unless there is no text for one. -/
theorem endedEntries_concat_tag (tag : reading.inner threshold = .tag) :
    endedEntries threshold (block ++ [reading]) =
      endedEntries threshold block ++
        (choiceOf? (openPiece threshold block) (Session.targetOf reading.line)).toList := by
  rw [endedEntries, endedPieces_concat_tag tag, targets_concat_tag tag, entries_zip_concat]

theorem endedEntries_concat (untagged : reading.inner threshold ≠ .tag) :
    endedEntries threshold (block ++ [reading]) = endedEntries threshold block := by
  rw [endedEntries, endedPieces_concat untagged, targets_concat untagged, endedEntries]

/-- The entries are those that tag lines end, and the last piece if it is not empty. -/
theorem entries_eq (threshold : Int) (carried : Option String) (block : List Reading)
    (ending : Option Reading) :
    entries threshold carried block ending =
      endedEntries threshold block ++
        (choiceOf? (openPiece threshold block)
          (standingTarget threshold carried (block ++ ending.toList))).toList := by
  rw [entries, pieces_eq, entries_zip_concat]

end Dialogue
