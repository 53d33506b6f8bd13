/-!
# Compiler settings

How much of a script is kept, how far a choice block is indented, how nodes without a
tag of their own are named, and whether the end of a script closes what is still open.
The limits that make settings usable are part of the type.
-/

namespace Dialogue

/-- Settings of a compile. -/
structure Config where
  /-- Commands kept for a node. -/
  maxCommands : Nat := 3
  /-- Choices kept for a choice block. -/
  maxChoices : Nat := 4
  /-- Nodes kept for a graph. -/
  maxNodes : Nat := 512
  /-- Blanks in front of a line that make it a line of a choice block. -/
  indentThreshold : Nat := 4
  /-- The tag of the first node, unless the script gives one. -/
  startTag : String := "start"
  /-- What the tags of further nodes begin with, unless the script gives them. -/
  tagStem : String := "node_"
  /-- Whether the end of the script closes an open node or choice block. -/
  flushAtEnd : Bool := true
  indentThreshold_pos : 0 < indentThreshold := by decide
  startTag_ne_empty : startTag ≠ "" := by decide
  tagStem_ne_empty : tagStem ≠ "" := by decide
  deriving DecidableEq, Repr

namespace Config

instance : Inhabited Config := ⟨{}⟩

/-- The tag made for a node without one, from a running number. -/
def numberedTag (config : Config) (number : Int) : String :=
  config.tagStem ++ toString number

/-- A made tag names something. -/
theorem numberedTag_ne_empty (config : Config) (number : Int) :
    config.numberedTag number ≠ "" := by
  intro empty
  have := congrArg String.toList empty
  simp only [numberedTag, String.toList_append, String.toList_empty,
    List.append_eq_nil_iff] at this
  exact config.tagStem_ne_empty (String.toList_eq_nil_iff.mp this.1)

end Config

end Dialogue
