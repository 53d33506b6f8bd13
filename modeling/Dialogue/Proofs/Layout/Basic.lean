import Dialogue.Config.Basic
import Dialogue.Proofs.Script.Kind
import Dialogue.Proofs.Script.Token

/-!
# The layout of scripts

A script in the usual layout is a list of blocks, one for each node. A block gives the
commands of its node, the tag, the speaker, the text and the choices, in this order. Here
is of which lines a block consists, which node it describes, and what its parts must be
like for its lines to be taken for what they are.
-/

namespace Dialogue.Layout

open Script Text

/-- A choice with the lines of its text. -/
structure Entry where
  text : List String
  target : String

/-- A node with the lines of its text and of its choices. -/
structure Block where
  commands : List Command
  tag : String
  speaker : String
  text : List String
  entries : List Entry
  tag_ne_empty : tag ≠ ""

def commandLine (command : Command) : String :=
  match command.parameter with
  | none => "@" ++ command.name
  | some parameter => "@" ++ command.name ++ " " ++ parameter

def tagLine (tag : String) : String :=
  "[" ++ tag ++ "]"

def labelLine (speaker : String) : String :=
  speaker ++ ":"

def indent (line : String) : String :=
  "\t" ++ line

namespace Entry

/-- The text of a choice and the tag of its target, all of it indented. -/
def lines (entry : Entry) : List String :=
  entry.text.map indent ++ [indent (tagLine entry.target)]

def choice (entry : Entry) : Choice :=
  ⟨"\n".intercalate entry.text, some entry.target⟩

end Entry

namespace Block

def lines (block : Block) : List String :=
  block.commands.map commandLine ++
    (tagLine block.tag :: labelLine block.speaker :: (block.text ++ block.entries.flatMap Entry.lines))

/-- The node that a block describes, before it has its choices. -/
def bare (block : Block) : Node where
  tag := block.tag
  speaker := some block.speaker
  text := "\n".intercalate block.text
  commands := block.commands
  choices := []
  tag_ne_empty := block.tag_ne_empty

/-- The node that a block describes. -/
def node (block : Block) : Node :=
  { block.bare with choices := block.entries.map Entry.choice }

end Block

/-! ## What fits into the layout -/

/-- A line that begins with something to see and neither holds nor ends in a line break. -/
structure IsUpright (line : String) : Prop where
  visible : line.toList.head?.map isBlank = some false
  whole : '\n' ∉ line.toList
  unbroken : line.toList.getLast? ≠ some '\r'

/-- A line of text. -/
structure IsText (threshold : Int) (line : String) : Prop extends IsUpright line where
  narration : lineKind threshold line.toList = .narration

/-- A command whose name ends where its parameter begins. -/
structure IsCommand (command : Command) : Prop where
  name : command.name.toList.any isBlank = false
  parameter : ∀ parameter ∈ command.parameter,
    parameter.toList.head?.map isBlank ≠ some true ∧
      '\n' ∉ parameter.toList ∧ parameter.toList.getLast? ≠ some '\r'

/-- A tag that can stand between brackets. -/
structure IsTag (tag : String) : Prop where
  ne_empty : tag ≠ ""
  unbracketed : '[' ∉ tag.toList ∧ ']' ∉ tag.toList
  whole : '\n' ∉ tag.toList

/-- A name that can stand in front of a colon. -/
structure IsSpeaker (speaker : String) : Prop where
  visible : speaker.toList.head?.map isBlank ≠ some true
  unsigned : speaker.toList.head? ≠ some '@'
  whole : '\n' ∉ speaker.toList

/-- An entry that is read as one choice. -/
structure Entry.Fits (config : Config) (entry : Entry) : Prop where
  text_ne_nil : entry.text ≠ []
  text : ∀ line ∈ entry.text, IsText config.indentThreshold line
  target : IsTag entry.target

/-- A block that is read as one node and for which there is room. -/
structure Block.Fits (config : Config) (block : Block) : Prop where
  commands_le : block.commands.length ≤ config.maxCommands
  commands : ∀ command ∈ block.commands, IsCommand command
  tag : IsTag block.tag
  speaker : IsSpeaker block.speaker
  text : ∀ line ∈ block.text, IsText config.indentThreshold line
  entries_le : block.entries.length ≤ config.maxChoices
  entries : ∀ entry ∈ block.entries, entry.Fits config

/-! Whether something fits can be computed. -/

instance (line : String) : Decidable (IsUpright line) :=
  decidable_of_iff
    (line.toList.head?.map isBlank = some false ∧ '\n' ∉ line.toList ∧
      line.toList.getLast? ≠ some '\r')
    ⟨fun ⟨visible, whole, unbroken⟩ => ⟨visible, whole, unbroken⟩,
      fun ⟨visible, whole, unbroken⟩ => ⟨visible, whole, unbroken⟩⟩

instance (threshold : Int) (line : String) : Decidable (IsText threshold line) :=
  decidable_of_iff (IsUpright line ∧ lineKind threshold line.toList = .narration)
    ⟨fun ⟨upright, narration⟩ => ⟨upright, narration⟩,
      fun ⟨upright, narration⟩ => ⟨upright, narration⟩⟩

instance (command : Command) : Decidable (IsCommand command) :=
  decidable_of_iff
    (command.name.toList.any isBlank = false ∧ ∀ parameter ∈ command.parameter,
      parameter.toList.head?.map isBlank ≠ some true ∧
        '\n' ∉ parameter.toList ∧ parameter.toList.getLast? ≠ some '\r')
    ⟨fun ⟨name, parameter⟩ => ⟨name, parameter⟩, fun ⟨name, parameter⟩ => ⟨name, parameter⟩⟩

instance (tag : String) : Decidable (IsTag tag) :=
  decidable_of_iff (tag ≠ "" ∧ ('[' ∉ tag.toList ∧ ']' ∉ tag.toList) ∧ '\n' ∉ tag.toList)
    ⟨fun ⟨ne_empty, unbracketed, whole⟩ => ⟨ne_empty, unbracketed, whole⟩,
      fun ⟨ne_empty, unbracketed, whole⟩ => ⟨ne_empty, unbracketed, whole⟩⟩

instance (speaker : String) : Decidable (IsSpeaker speaker) :=
  decidable_of_iff
    (speaker.toList.head?.map isBlank ≠ some true ∧ speaker.toList.head? ≠ some '@' ∧
      '\n' ∉ speaker.toList)
    ⟨fun ⟨visible, unsigned, whole⟩ => ⟨visible, unsigned, whole⟩,
      fun ⟨visible, unsigned, whole⟩ => ⟨visible, unsigned, whole⟩⟩

instance (config : Config) (entry : Entry) : Decidable (entry.Fits config) :=
  decidable_of_iff
    (entry.text ≠ [] ∧ (∀ line ∈ entry.text, IsText config.indentThreshold line) ∧
      IsTag entry.target)
    ⟨fun ⟨text_ne_nil, text, target⟩ => ⟨text_ne_nil, text, target⟩,
      fun ⟨text_ne_nil, text, target⟩ => ⟨text_ne_nil, text, target⟩⟩

instance (config : Config) (block : Block) : Decidable (block.Fits config) :=
  decidable_of_iff
    (block.commands.length ≤ config.maxCommands ∧
      (∀ command ∈ block.commands, IsCommand command) ∧ IsTag block.tag ∧
      IsSpeaker block.speaker ∧ (∀ line ∈ block.text, IsText config.indentThreshold line) ∧
      block.entries.length ≤ config.maxChoices ∧ ∀ entry ∈ block.entries, entry.Fits config)
    ⟨fun ⟨commands_le, commands, tag, speaker, text, entries_le, entries⟩ =>
        ⟨commands_le, commands, tag, speaker, text, entries_le, entries⟩,
      fun ⟨commands_le, commands, tag, speaker, text, entries_le, entries⟩ =>
        ⟨commands_le, commands, tag, speaker, text, entries_le, entries⟩⟩

/-! ## Lines of each form -/

section Forms

variable {threshold : Int} {command : Command} {tag speaker line : String}

theorem IsUpright.exists_cons (upright : IsUpright line) :
    ∃ c rest, line.toList = c :: rest ∧ isBlank c = false := by
  obtain ⟨c, first, visible⟩ := Option.map_eq_some_iff.mp upright.visible
  obtain ⟨rest, line_eq⟩ := List.head?_eq_some_iff.mp first
  exact ⟨c, rest, line_eq, visible⟩

theorem IsCommand.unspaced (written : IsCommand command) :
    ∀ c ∈ command.name.toList, isBlank c = false := by
  simpa using written.name

theorem IsCommand.isUpright (written : IsCommand command) : IsUpright (commandLine command) := by
  have absent : ∀ c, isBlank c = true → c ∉ command.name.toList := by
    intro c blank member
    simp [written.unspaced c member] at blank
  have sign : isBlank '@' = false := by decide
  cases parameter_eq : command.parameter with
  | none =>
    constructor
    · simp [commandLine, parameter_eq, sign]
    · simpa [commandLine, parameter_eq] using absent '\n' (by decide)
    · intro last
      have member : '\r' ∈ command.name.toList := by
        simpa [commandLine, parameter_eq] using List.mem_of_getLast? last
      exact absent '\r' (by decide) member
  | some parameter =>
    obtain ⟨-, whole, unbroken⟩ := written.parameter parameter parameter_eq
    constructor
    · simp [commandLine, parameter_eq, sign]
    · simpa [commandLine, parameter_eq, whole] using absent '\n' (by decide)
    · cases last : parameter.toList.getLast? with
      | none => simp [commandLine, parameter_eq, List.getLast?_cons, List.getLast?_append, last]
      | some c =>
        rw [last] at unbroken
        simpa [commandLine, parameter_eq, List.getLast?_cons, List.getLast?_append, last] using
          unbroken

theorem lineKind_commandLine (positive : 0 < threshold) (command : Command) :
    lineKind threshold (commandLine command).toList = .command := by
  rw [commandLine]
  cases command.parameter <;> simpa using lineKind_command positive

/-- A command is read back from its line. -/
theorem IsCommand.command?_commandLine (written : IsCommand command) :
    command? (commandLine command).toList = some command := by
  have unspaced := written.unspaced
  obtain ⟨name, _ | parameter⟩ := command
  · have plain : ' ' ∉ '@' :: name.toList := by
      simpa using fun member => by simpa using unspaced ' ' member
    simpa [commandLine] using command?_of_unspaced plain
  · have parts : IsSpacedCommand name.toList [' '] parameter.toList := by
      refine ⟨unspaced, by simp, by simp, fun c first => ?_⟩
      simpa [first] using (written.parameter parameter rfl).1
    simpa [commandLine] using parts.command?_eq (by simp)

theorem IsTag.isUpright (written : IsTag tag) : IsUpright (tagLine tag) where
  visible := by
    have sign : isBlank '[' = false := by decide
    simp [tagLine, sign]
  whole := by simpa [tagLine] using written.whole
  unbroken := by simp [tagLine, List.getLast?_cons]

theorem lineKind_tagLine (positive : 0 < threshold) (tag : String) :
    lineKind threshold (tagLine tag).toList = .tag := by
  simpa [tagLine] using lineKind_tag positive tag.toList

/-- A tag is read back from its line. -/
theorem IsTag.tagContent?_tagLine (written : IsTag tag) :
    tagContent? (tagLine tag).toList = some tag.toList := by
  have filled : tag.toList ≠ [] := by simpa using written.ne_empty
  simpa [tagLine] using tagContent?_of_enclosed [] [] filled written.unbracketed (by simp)

theorem IsSpeaker.plain (written : IsSpeaker speaker) :
    ∀ c, speaker.toList.head? = some c → isBlank c = false ∧ c ≠ '@' := by
  intro c first
  refine ⟨by simpa [first] using written.visible, ?_⟩
  rintro rfl
  exact written.unsigned first

theorem IsSpeaker.isUpright (written : IsSpeaker speaker) : IsUpright (labelLine speaker) where
  visible := by
    cases name : speaker.toList with
    | nil =>
      have sign : isBlank ':' = false := by decide
      simp [labelLine, name, sign]
    | cons c rest => simpa [labelLine, name] using (written.plain c (by simp [name])).1
  whole := by simpa [labelLine] using written.whole
  unbroken := by simp [labelLine]

theorem IsSpeaker.lineKind_labelLine (positive : 0 < threshold) (written : IsSpeaker speaker) :
    lineKind threshold (labelLine speaker).toList = .label := by
  simpa [labelLine] using lineKind_label positive written.plain

/-- A name is read back from its label. -/
theorem speakerName_labelLine (speaker : String) :
    String.ofList (speakerName (labelLine speaker).toList) = speaker := by
  simp [labelLine, speakerName_label]

/-- The lines of a block have no line feeds in them. -/
theorem Block.Fits.whole {config : Config} {block : Block} (fits : block.Fits config)
    (member : line ∈ block.lines) : '\n' ∉ line.toList := by
  simp only [Block.lines, List.mem_append, List.mem_map, List.mem_cons, List.mem_flatMap,
    Entry.lines] at member
  rcases member with ⟨command, inside, rfl⟩ | rfl | rfl | inside | ⟨entry, inside, text | target⟩
  · exact (fits.commands command inside).isUpright.whole
  · exact fits.tag.isUpright.whole
  · exact fits.speaker.isUpright.whole
  · exact (fits.text line inside).whole
  · obtain ⟨inner, among, rfl⟩ := text
    simpa [indent] using ((fits.entries entry inside).text inner among).whole
  · obtain rfl | impossible := target
    · simpa [indent] using (fits.entries entry inside).target.isUpright.whole
    · cases impossible

end Forms

end Dialogue.Layout
