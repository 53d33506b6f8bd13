import Dialogue.Compile.Session
import Dialogue.Script.Line
import Dialogue.Script.Token
import Mathlib.Data.List.DropRight

/-!
# The outline of a script

The labels of a script cut it into segments. What a node has in front of its text, that is
its speaker, its tag and its commands, can be read off the script without any machine: the
label gives the speaker, and the segment in front of the label gives the tag and the
commands. This module defines the outline and says how it changes with one more line.
-/

namespace Dialogue

open Script Text

/-- A line of a script with something to see on it. -/
structure Reading where
  /-- The number of the line, counted from one. -/
  number : Nat
  /-- The kind of the raw line. -/
  kind : LineKind
  /-- The line without its indentation. -/
  line : String
  deriving DecidableEq, Repr

/-- A command with the number of the line that gives it. -/
structure Directive where
  command : Command
  number : Nat
  deriving DecidableEq, Repr

/-- The reading of a raw line, none if the line is blank. -/
def reading? (threshold : Int) (number : Nat) (raw : String) : Option Reading :=
  let line := trimLineEnd raw.toList
  if isBlankLine line then none
  else some ⟨number, lineKind threshold line, String.ofList (dedent line)⟩

theorem reading?_of_blank {threshold : Int} {raw : String} (number : Nat)
    (blank : isBlankLine (trimLineEnd raw.toList) = true) :
    reading? threshold number raw = none := by
  simp only [reading?, blank, if_true]

theorem reading?_of_present {threshold : Int} {raw : String} (number : Nat)
    (present : isBlankLine (trimLineEnd raw.toList) = false) :
    reading? threshold number raw =
      some ⟨number, lineKind threshold (trimLineEnd raw.toList),
        String.ofList (dedent (trimLineEnd raw.toList))⟩ := by
  simp only [reading?, present, Bool.false_eq_true, if_false]

/-- The readings of the lines of a script, in order. -/
def readings (config : Config) (lines : List String) : List Reading :=
  (lines.zipIdx 1).filterMap fun (raw, number) => reading? config.indentThreshold number raw

theorem readings_concat (config : Config) (lines : List String) (raw : String) :
    readings config (lines ++ [raw]) =
      readings config lines ++
        (reading? config.indentThreshold (lines.length + 1) raw).toList := by
  rw [readings, List.zipIdx_append, List.filterMap_append, Nat.add_comm]
  cases read : reading? config.indentThreshold (lines.length + 1) raw with
  | none => simp [readings, read]
  | some reading => simp [readings, read]

namespace Reading

variable {reading : Reading}

def isLabel (reading : Reading) : Bool :=
  reading.kind = .label

/-- The speaker that a label gives. -/
def speaker (reading : Reading) : String :=
  String.ofList (speakerName reading.line.toList)

/-- The tag that a tag line gives, if its content is not empty. -/
def tag? (reading : Reading) : Option String :=
  if reading.kind = .tag then
    ((tagContent? reading.line.toList).map String.ofList).filter (· ≠ "")
  else none

/-- The command that a command line gives. -/
def directive? (reading : Reading) : Option Directive :=
  if reading.kind = .command then
    (command? reading.line.toList).map (⟨·, reading.number⟩)
  else none

@[simp] theorem isLabel_eq_true : reading.isLabel = true ↔ reading.kind = .label := by
  simp [isLabel]

@[simp] theorem isLabel_eq_false : reading.isLabel = false ↔ reading.kind ≠ .label := by
  simp [isLabel]

theorem tag?_of_kind_ne (kind_ne : reading.kind ≠ .tag) : reading.tag? = none := by
  simp [tag?, kind_ne]

/-- A tag line gives what stands between its brackets, and nothing if nothing stands there. -/
theorem tag?_of_kind (kind_eq : reading.kind = .tag) :
    reading.tag? =
      match tagContent? reading.line.toList with
      | some (c :: content) => some (String.ofList (c :: content))
      | _ => none := by
  rw [tag?, if_pos kind_eq]
  cases tagContent? reading.line.toList with
  | none => rfl
  | some content =>
    cases content with
    | nil => rfl
    | cons c rest =>
      have usable : String.ofList (c :: rest) ≠ "" := by simp [← String.toList_inj]
      exact Option.filter_some_pos (decide_eq_true usable)

theorem directive?_of_kind_ne (kind_ne : reading.kind ≠ .command) :
    reading.directive? = none := by
  simp [directive?, kind_ne]

end Reading

/-! ## Segments -/

/-- The speakers that the labels give, in order. -/
def speakers (read : List Reading) : List String :=
  (read.filter Reading.isLabel).map Reading.speaker

/-- The readings in front of the first label, those between each label and the next, and those
behind the last label. -/
def segments (read : List Reading) : List (List Reading) :=
  read.splitOnP Reading.isLabel

/-- The commands that the lines of a segment give, in order. -/
def directives (segment : List Reading) : List Directive :=
  segment.filterMap Reading.directive?

/-- The readings behind the last label. -/
def behindLastLabel (read : List Reading) : List Reading :=
  read.rtakeWhile (!·.isLabel)

/-- Whether there is a label, and nothing but text behind the last one. -/
def endsOpen (read : List Reading) : Bool :=
  read.any Reading.isLabel && (behindLastLabel read).all (·.kind = .narration)

/-- How many nodes a script closes: one for each label, but at the end only if that is asked
for. -/
def closedCount (config : Config) (read : List Reading) : Nat :=
  if config.flushAtEnd = false ∧ endsOpen read then (speakers read).length - 1
  else (speakers read).length

/-- The tag of a node whose segment gives none, by the number of the nodes before it. -/
def Config.defaultTag (config : Config) : Nat → String
  | 0 => config.startTag
  | number + 1 => config.numberedTag number

/-- The tag that a segment gives to the node behind it: that of its last usable tag line. -/
def segmentTag (config : Config) (position : Nat) (segment : List Reading) : String :=
  ((segment.filterMap Reading.tag?).getLast?).getD (config.defaultTag position)

/-- The commands of all segments for which there is no room in their nodes. -/
def refusals (config : Config) (read : List Reading) : List Directive :=
  (segments read).flatMap fun segment => (directives segment).drop config.maxCommands

/-- What stands in front of the text of a node, apart from its speaker. -/
structure Heading where
  tag : String
  commands : List Command

/-- The heading that a segment gives to the node behind it. -/
def heading (config : Config) (position : Nat) (segment : List Reading) : Heading where
  tag := segmentTag config position segment
  commands := ((directives segment).take config.maxCommands).map Directive.command

/-- The headings of all segments. -/
def headings (config : Config) (read : List Reading) : List Heading :=
  (segments read).mapIdx (heading config)

/-! ## One more line -/

variable {config : Config} {read : List Reading} {reading : Reading}

/-- What does not cut a list goes to the last part. -/
theorem splitOnP_concat {α : Type} {cuts : α → Bool} (items : List α) {item : α}
    (keeps : cuts item = false) :
    ∃ front last, items.splitOnP cuts = front ++ [last] ∧
      (items ++ [item]).splitOnP cuts = front ++ [last ++ [item]] := by
  induction items with
  | nil => exact ⟨[], [], rfl, by simp [List.splitOnP_cons_eq_if_modifyHead, keeps]⟩
  | cons first rest ih =>
    obtain ⟨front, last, before, after⟩ := ih
    simp only [List.cons_append, List.splitOnP_cons_eq_if_modifyHead, before, after]
    cases cuts first with
    | true => exact ⟨[] :: front, last, rfl, rfl⟩
    | false =>
      cases front with
      | nil => exact ⟨[], first :: last, rfl, rfl⟩
      | cons part front => exact ⟨(first :: part) :: front, last, rfl, rfl⟩

/-- A label opens a new segment. -/
theorem segments_concat_label (label : reading.kind = .label) :
    segments (read ++ [reading]) = segments read ++ [[]] := by
  rw [segments, List.splitOnP_append_cons read [] (Reading.isLabel_eq_true.mpr label)]
  rfl

/-- Any other line goes to the last segment. -/
theorem segments_concat (read : List Reading) (unlabelled : reading.kind ≠ .label) :
    ∃ front last, segments read = front ++ [last] ∧
      segments (read ++ [reading]) = front ++ [last ++ [reading]] :=
  splitOnP_concat read (Reading.isLabel_eq_false.mpr unlabelled)

/-- A segment holds lines of the script only. -/
theorem mem_of_mem_segments {segment : List Reading} (cut : segment ∈ segments read)
    (member : reading ∈ segment) : reading ∈ read := by
  induction read using List.reverseRecOn generalizing segment with
  | nil =>
    obtain rfl := List.mem_singleton.mp cut
    exact member
  | append_singleton read new ih =>
    by_cases label : new.kind = .label
    · rw [segments_concat_label label, List.mem_append, List.mem_singleton] at cut
      rcases cut with before | rfl
      · exact List.mem_append_left _ (ih before member)
      · cases member
    · obtain ⟨front, last, before, after⟩ := segments_concat read label
      rw [before] at ih
      rw [after, List.mem_append, List.mem_singleton] at cut
      rcases cut with earlier | rfl
      · exact List.mem_append_left _ (ih (List.mem_append_left _ earlier) member)
      · rcases List.mem_append.mp member with inside | same
        · exact List.mem_append_left _ (ih (List.mem_append_right _ (by simp)) inside)
        · exact List.mem_append_right _ same

theorem speakers_concat_label (label : reading.kind = .label) :
    speakers (read ++ [reading]) = speakers read ++ [reading.speaker] := by
  simp [speakers, Reading.isLabel_eq_true.mpr label]

theorem speakers_concat (unlabelled : reading.kind ≠ .label) :
    speakers (read ++ [reading]) = speakers read := by
  simp [speakers, Reading.isLabel_eq_false.mpr unlabelled]

/-- There is one segment more than there are labels. -/
theorem length_segments (read : List Reading) :
    (segments read).length = (speakers read).length + 1 := by
  induction read using List.reverseRecOn with
  | nil => rfl
  | append_singleton read new ih =>
    by_cases label : new.kind = .label
    · rw [segments_concat_label label, speakers_concat_label label]
      simp [ih]
    · obtain ⟨front, last, before, after⟩ := segments_concat read label
      rw [before] at ih
      rw [after, speakers_concat label]
      simpa using ih

/-! ## Headings -/

/-- A heading with what one more line of its segment adds. -/
def Heading.add (config : Config) (heading : Heading) (reading : Reading) : Heading where
  tag := reading.tag?.getD heading.tag
  commands :=
    (heading.commands ++ (reading.directive?.map Directive.command).toList).take
      config.maxCommands

/-- Of the items that come on top only those count for which the first ones leave room. -/
theorem take_append_eq_take {α : Type} (limit : Nat) (items more : List α) :
    (items ++ more).take limit = (items.take limit ++ more).take limit := by
  have room : limit - items.length = limit - (items.take limit).length := by
    rw [List.length_take]
    omega
  rw [List.take_append, List.take_append, List.take_take, Nat.min_self, room]

theorem directives_concat (segment : List Reading) (reading : Reading) :
    directives (segment ++ [reading]) = directives segment ++ reading.directive?.toList := by
  cases given : reading.directive? <;> simp [directives, given]

theorem length_commands_heading (config : Config) (position : Nat) (segment : List Reading) :
    (heading config position segment).commands.length =
      min config.maxCommands (directives segment).length := by
  rw [heading, List.length_map, List.length_take]

theorem heading_concat (config : Config) (position : Nat) (segment : List Reading)
    (reading : Reading) :
    heading config position (segment ++ [reading]) =
      (heading config position segment).add config reading := by
  rw [heading, Heading.add, Heading.mk.injEq]
  constructor
  · cases given : reading.tag? <;> simp [heading, segmentTag, given]
  · rw [directives_concat, List.map_take, List.map_append, take_append_eq_take, ← List.map_take]
    cases reading.directive? <;> rfl

theorem heading_nil (config : Config) (position : Nat) :
    heading config position [] = ⟨config.defaultTag position, []⟩ := by
  simp [heading, segmentTag, directives]

/-- A label opens a segment whose heading is still bare. -/
theorem headings_concat_label (config : Config) (read : List Reading)
    (label : reading.kind = .label) :
    headings config (read ++ [reading]) =
        headings config read ++
          [⟨config.defaultTag (speakers read ++ [reading.speaker]).length, []⟩] ∧
      refusals config (read ++ [reading]) = refusals config read := by
  constructor
  · rw [headings, segments_concat_label label, List.mapIdx_concat, length_segments, heading_nil]
    simp [headings]
  · simp [refusals, segments_concat_label label, directives]

/-- What does not fit behind a segment is what one more line gives, if there is no room. -/
theorem drop_directives_concat (limit : Nat) (segment : List Reading) (reading : Reading) :
    (directives (segment ++ [reading])).drop limit =
      (directives segment).drop limit ++
        if (directives segment).length < limit then [] else reading.directive?.toList := by
  rw [directives_concat, List.drop_append]
  congr 1
  split
  next room =>
    apply List.drop_eq_nil_of_le
    cases reading.directive? with
    | none => exact Nat.zero_le _
    | some directive => exact Nat.sub_pos_of_lt room
  next full => rw [Nat.sub_eq_zero_of_le (Nat.le_of_not_lt full), List.drop_zero]

/-- A line that is no label adds to the last heading, and the headings in front are settled. A
command is refused if the last heading has no room for it. -/
theorem headings_concat {front : List Heading} {last : Heading} (unlabelled : reading.kind ≠ .label)
    (headings_eq : headings config read = front ++ [last]) :
    headings config (read ++ [reading]) = front ++ [last.add config reading] ∧
      refusals config (read ++ [reading]) =
        refusals config read ++
          if last.commands.length < config.maxCommands then [] else reading.directive?.toList := by
  obtain ⟨earlier, segment, before, after⟩ := segments_concat read unlabelled
  rw [headings, before, List.mapIdx_concat] at headings_eq
  obtain ⟨rfl, last_eq⟩ := List.append_inj' headings_eq rfl
  obtain rfl := List.singleton_inj.mp last_eq
  constructor
  · rw [headings, after, List.mapIdx_concat, heading_concat]
  · have room : (heading config earlier.length segment).commands.length < config.maxCommands ↔
        (directives segment).length < config.maxCommands := by
      rw [length_commands_heading]
      omega
    simp only [refusals, before, after, List.flatMap_append, List.flatMap_singleton,
      drop_directives_concat, room, List.append_assoc]

/-- A line without a tag and without a command adds nothing to a heading. -/
theorem Heading.add_of_quiet {heading : Heading} (untagged : reading.tag? = none)
    (unordered : reading.directive? = none) (few : heading.commands.length ≤ config.maxCommands) :
    heading.add config reading = heading := by
  rw [add, untagged, unordered, Option.map_none, Option.toList_none, List.append_nil,
    List.take_of_length_le few]
  rfl

theorem length_commands_of_mem_headings {heading : Heading}
    (member : heading ∈ headings config read) :
    heading.commands.length ≤ config.maxCommands := by
  obtain ⟨position, _, rfl⟩ := List.mem_mapIdx.mp member
  rw [length_commands_heading]
  exact Nat.min_le_left _ _

/-- A line that gives nothing leaves the outline of a script as it is. -/
theorem headings_of_quiet (config : Config) (read : List Reading)
    (unlabelled : reading.kind ≠ .label) (untagged : reading.tag? = none)
    (unordered : reading.directive? = none) :
    headings config (read ++ [reading]) = headings config read ∧
      refusals config (read ++ [reading]) = refusals config read := by
  obtain ⟨earlier, segment, before, -⟩ := segments_concat read unlabelled
  have headings_eq : headings config read =
      earlier.mapIdx (heading config) ++ [heading config earlier.length segment] := by
    rw [headings, before, List.mapIdx_concat]
  obtain ⟨after, refused⟩ := headings_concat unlabelled headings_eq
  have few : (heading config earlier.length segment).commands.length ≤ config.maxCommands :=
    length_commands_of_mem_headings (headings_eq ▸ List.mem_append_right _ (by simp))
  rw [Heading.add_of_quiet untagged unordered few, ← headings_eq] at after
  exact ⟨after, by simp [refused, unordered]⟩

/-! ## The end of a script -/

theorem endsOpen_concat_label (label : reading.kind = .label) :
    endsOpen (read ++ [reading]) = true := by
  simp [endsOpen, behindLastLabel, Reading.isLabel_eq_true.mpr label]

theorem endsOpen_concat (unlabelled : reading.kind ≠ .label) :
    endsOpen (read ++ [reading]) =
      (endsOpen read && decide (reading.kind = .narration)) := by
  have outside : reading.isLabel = false := Reading.isLabel_eq_false.mpr unlabelled
  simp [endsOpen, behindLastLabel, outside, List.rtakeWhile_concat_pos, Bool.and_assoc]

end Dialogue
