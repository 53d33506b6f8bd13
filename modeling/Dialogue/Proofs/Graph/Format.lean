import Dialogue.Proofs.Graph.Record
import Dialogue.Validation.Graph
import Mathlib.Data.Option.Basic

/-!
# What is accepted as a stored graph

`IsRecord` says in full which values are stored graphs. Exactly these are read as graphs,
and exactly about these there is nothing to complain. A graph can also be made of a value
in a more careless way, from its parts as they are, once the complaints are out of the
way: what could go wrong then never does.
-/

namespace Dialogue

namespace Json

/-! ## The form of stored graphs -/

/-- A text. -/
def IsText (value : Json) : Prop :=
  ∃ text, value = .str text

/-- A text that is not empty. -/
def IsNonEmptyText (value : Json) : Prop :=
  ∃ text, value = .str text ∧ text ≠ ""

/-- A text or null. -/
def IsNullableText (value : Json) : Prop :=
  value = .null ∨ IsText value

/-- An array whose items have a form. -/
def IsListOf (form : Json → Prop) (value : Json) : Prop :=
  ∃ items, value = .arr items ∧ ∀ item ∈ items, form item

/-- There is a member of a name, and it has a form. -/
def Has (members : List (String × Json)) (name : String) (form : Json → Prop) : Prop :=
  ∃ value, lookup? name members = some value ∧ form value

/-- If there is a member of a name, it has a form. -/
def MayHave (members : List (String × Json)) (name : String) (form : Json → Prop) : Prop :=
  ∀ value, lookup? name members = some value → form value

/-- There are no members of other names. -/
def HasOnly (members : List (String × Json)) (names : List String) : Prop :=
  ∀ member ∈ members, member.1 ∈ names

/-- The form of a command. -/
def IsCommand (value : Json) : Prop :=
  ∃ members, value = .obj members ∧ HasOnly members ["name", "parameter"] ∧
    Has members "name" IsText ∧ MayHave members "parameter" IsNullableText

/-- The form of a choice. -/
def IsChoice (value : Json) : Prop :=
  ∃ members, value = .obj members ∧ HasOnly members ["text", "target"] ∧
    Has members "text" IsText ∧ MayHave members "target" IsNullableText

/-- The form of a node. -/
def IsNode (value : Json) : Prop :=
  ∃ members, value = .obj members ∧
    HasOnly members ["tag", "character", "text", "commands", "choices"] ∧
    Has members "tag" IsNonEmptyText ∧ MayHave members "character" IsNullableText ∧
    MayHave members "text" IsText ∧ MayHave members "commands" (IsListOf IsCommand) ∧
    MayHave members "choices" (IsListOf IsChoice)

/-- The form of a graph. -/
def IsRecord (value : Json) : Prop :=
  ∃ members, value = .obj members ∧
    MayHave members "id" IsNullableText ∧ MayHave members "start" IsNullableText ∧
    Has members "nodes" (IsListOf IsNode)

theorem has_iff {members : List (String × Json)} {name : String} {form : Json → Prop} :
    Has members name form ↔
      (lookup? name members).isSome = true ∧ MayHave members name form := by
  unfold Has MayHave
  cases lookup? name members <;> simp

/-! ## What is read -/

section Reading

variable {α : Type} {read? : Json → Option α} {form : Json → Prop}
  {members : List (String × Json)} {name : String}

theorem exists_bind {β : Type} {found? : Option α} {next : α → Option β} :
    (∃ result, found? >>= next = some result) ↔
      ∃ found, found? = some found ∧ ∃ result, next found = some result := by
  cases found? <;> simp

/-- Something is read from the values of a form and from no others. -/
def Reads (read? : Json → Option α) (form : Json → Prop) : Prop :=
  ∀ value, (∃ found, read? value = some found) ↔ form value

theorem reads_text? : Reads text? IsText := by
  intro value
  cases value <;> simp [text?, IsText]

theorem reads_nullableText? : Reads nullableText? IsNullableText := by
  intro value
  cases value <;> simp [nullableText?, IsNullableText, IsText]

theorem reads_items? (reads : Reads read? form) : Reads (items? read?) (IsListOf form) := by
  intro value
  cases value with
  | arr items =>
    simp only [items?, IsListOf, Json.arr.injEq, exists_eq_left']
    induction items with
    | nil => simp
    | cons item items ih =>
      rw [List.forall_mem_cons, ← reads item, ← ih, List.mapM_cons]
      simp only [exists_bind, exists_and_right, Option.pure_def, Option.some.injEq, exists_eq',
        and_true]
  | _ => simp [items?, IsListOf]

theorem exists_required? (reads : Reads read? form) :
    (∃ found, required? name read? members = some found) ↔ Has members name form := by
  unfold required? Has
  cases lookup? name members with
  | none => simp
  | some value => simpa using reads value

theorem exists_required?_text? :
    (∃ text, required? name text? members = some text ∧ text ≠ "") ↔
      Has members name IsNonEmptyText := by
  unfold required? Has IsNonEmptyText
  cases lookup? name members with
  | none => simp
  | some value => cases value <;> simp [text?]

theorem exists_optional? (reads : Reads read? form) (default : α) :
    (∃ found, optional? name read? default members = some found) ↔
      MayHave members name form := by
  unfold optional? MayHave
  cases lookup? name members with
  | none => simp
  | some value => simpa using reads value

theorem hasOnly_iff {names : List String} :
    hasOnly names members = true ↔ HasOnly members names := by
  simp [hasOnly, HasOnly]

end Reading

end Json

open Json

theorem Command.reads : Reads Command.ofJson? IsCommand := by
  intro value
  cases value with
  | obj members =>
    simp only [Command.ofJson?, exists_bind, exists_and_right, Option.guard_eq_some', exists_const,
      hasOnly_iff, exists_required? reads_text?, exists_optional? reads_nullableText?,
      Option.pure_def, Option.some.injEq, exists_eq', and_true, IsCommand, Json.obj.injEq,
      exists_eq_left']
  | _ => simp [Command.ofJson?, IsCommand]

theorem Choice.reads : Reads Choice.ofJson? IsChoice := by
  intro value
  cases value with
  | obj members =>
    simp only [Choice.ofJson?, exists_bind, exists_and_right, Option.guard_eq_some', exists_const,
      hasOnly_iff, exists_required? reads_text?, exists_optional? reads_nullableText?,
      Option.pure_def, Option.some.injEq, exists_eq', and_true, IsChoice, Json.obj.injEq,
      exists_eq_left']
  | _ => simp [Choice.ofJson?, IsChoice]

theorem Node.exists_make? {tag : String} {speaker : Option String} {text : String}
    {commands : List Command} {choices : List Choice} :
    (∃ node, Node.make? tag speaker text commands choices = some node) ↔ tag ≠ "" := by
  by_cases usable : tag ≠ "" <;> simp [Node.make?, usable]

theorem Node.reads : Reads Node.ofJson? IsNode := by
  intro value
  cases value with
  | obj members =>
    simp only [Node.ofJson?, exists_bind, exists_and_right, Option.guard_eq_some', exists_const,
      hasOnly_iff, exists_optional? reads_nullableText?, exists_optional? reads_text?,
      exists_optional? (reads_items? Command.reads), exists_optional? (reads_items? Choice.reads),
      Node.exists_make?, IsNode, Json.obj.injEq, exists_eq_left', ← exists_required?_text?]
    constructor
    · rintro ⟨only, tag, read, speaker, text, commands, choices, usable⟩
      exact ⟨only, ⟨tag, read, usable⟩, speaker, text, commands, choices⟩
    · rintro ⟨only, ⟨tag, read, usable⟩, speaker, text, commands, choices⟩
      exact ⟨only, tag, read, speaker, text, commands, choices, usable⟩
  | _ => simp [Node.ofJson?, IsNode]

/-- A graph is read from the values of its form and from no others. -/
theorem Graph.reads : Reads Graph.ofRecord? IsRecord := by
  intro value
  cases value with
  | obj members =>
    simp only [Graph.ofRecord?, exists_bind, exists_and_right,
      exists_optional? reads_nullableText?, exists_required? (reads_items? Node.reads),
      Option.pure_def, Option.some.injEq, exists_eq', and_true, IsRecord, Json.obj.injEq,
      exists_eq_left']
  | _ => simp [Graph.ofRecord?, IsRecord]

/-! ## What is complained about -/

namespace Check

/-- There is nothing to complain about in the values of a form, and something in all others. -/
def Judges (check : Check) (form : Json → Prop) : Prop :=
  ∀ value, check value = [] ↔ form value

theorem judges_text : Judges text IsText := by
  intro value
  cases value <;> simp [text, IsText]

theorem judges_nonEmptyText : Judges nonEmptyText IsNonEmptyText := by
  intro value
  cases value <;> simp [nonEmptyText, IsNonEmptyText]

theorem judges_nullableText : Judges nullableText IsNullableText := by
  intro value
  cases value <;> simp [nullableText, IsNullableText, IsText]

theorem judges_listOf {item : Check} {form : Json → Prop} (judges : Judges item form) :
    Judges (listOf item) (IsListOf form) := by
  intro value
  cases value with
  | arr items =>
    simp only [listOf, List.flatMap_eq_nil_iff, List.map_eq_nil_iff, judges _, IsListOf,
      Json.arr.injEq, exists_eq_left']
    constructor
    · intro every found member
      rw [← items.zipIdx_map_fst 0] at member
      obtain ⟨entry, entry_mem, rfl⟩ := List.mem_map.mp member
      exact every entry entry_mem
    · intro every entry member
      exact every entry.1 (List.fst_mem_of_mem_zipIdx member)
  | _ => simp [listOf, IsListOf]

theorem extraMembers_eq_nil_iff {names : List String} {members : List (String × Json)} :
    extraMembers names members = [] ↔ HasOnly members names := by
  simp [extraMembers, HasOnly]

theorem object_eq_nil_iff {needed : String} {closed : Bool} {fields : List (String × Check)}
    {value : Json} :
    object needed closed fields value = [] ↔
      ∃ members, value = .obj members ∧ (lookup? needed members).isSome = true ∧
        (closed = true → HasOnly members (fields.map (·.1))) ∧
        ∀ field ∈ fields, MayHave members field.1 fun found => field.2 found = [] := by
  cases value with
  | obj members =>
    have needed_iff : (if (lookup? needed members).isSome = true then []
        else [(⟨[], Text.quote needed ++ " is a required property"⟩ : Complaint)]) = [] ↔
          (lookup? needed members).isSome = true := by
      cases lookup? needed members <;> simp
    simp only [Json.obj.injEq, exists_eq_left']
    rw [object, List.append_eq_nil_iff, List.append_eq_nil_iff, List.flatMap_eq_nil_iff,
      and_assoc, needed_iff, ite_eq_right_iff, extraMembers_eq_nil_iff]
    refine and_congr_right' (and_congr_right' (forall₂_congr fun field _ => ?_))
    unfold MayHave
    cases lookup? field.1 members <;> simp
  | _ => simp [object]

theorem mayHave_congr {check : Check} {form : Json → Prop} (judges : Judges check form)
    {members : List (String × Json)} {name : String} :
    (MayHave members name fun found => check found = []) ↔ MayHave members name form :=
  forall₂_congr fun value _ => judges value

theorem judges_command : Judges command IsCommand := by
  intro value
  rw [command, object_eq_nil_iff]
  refine exists_congr fun members => and_congr_right' ?_
  simp only [List.map_cons, List.map_nil, List.forall_mem_cons, List.not_mem_nil, false_implies,
    implies_true, forall_const, and_true, has_iff, mayHave_congr judges_text,
    mayHave_congr judges_nullableText, and_assoc, and_left_comm]

theorem judges_choice : Judges choice IsChoice := by
  intro value
  rw [choice, object_eq_nil_iff]
  refine exists_congr fun members => and_congr_right' ?_
  simp only [List.map_cons, List.map_nil, List.forall_mem_cons, List.not_mem_nil, false_implies,
    implies_true, forall_const, and_true, has_iff, mayHave_congr judges_text,
    mayHave_congr judges_nullableText, and_assoc, and_left_comm]

theorem judges_node : Judges node IsNode := by
  intro value
  rw [node, object_eq_nil_iff]
  refine exists_congr fun members => and_congr_right' ?_
  simp only [List.map_cons, List.map_nil, List.forall_mem_cons, List.not_mem_nil, false_implies,
    implies_true, forall_const, and_true, has_iff, mayHave_congr judges_nonEmptyText,
    mayHave_congr judges_nullableText, mayHave_congr judges_text,
    mayHave_congr (judges_listOf judges_command), mayHave_congr (judges_listOf judges_choice),
    and_assoc, and_left_comm]

/-- There is nothing to complain about in stored graphs, and something in all other values. -/
theorem judges_graph : Judges graph IsRecord := by
  intro value
  rw [graph, object_eq_nil_iff]
  refine exists_congr fun members => and_congr_right' ?_
  simp only [List.forall_mem_cons, List.not_mem_nil, false_implies, implies_true, and_true,
    Bool.false_eq_true, true_and, has_iff, mayHave_congr judges_nullableText,
    mayHave_congr (judges_listOf judges_node), and_left_comm]

end Check

/-! ## Careless construction -/

/-- What can go wrong when a graph is made of a value that nobody looked at. -/
inductive ConstructFault where
  /-- A member is not there. -/
  | missing (name : String)
  /-- A value has no members, or no items. -/
  | unusable (value : Json)
  /-- A part of the graph cannot be what it is said to be. -/
  | refused (report : Report)

namespace Json

/-- The member of a name. -/
def member (name : String) : Json → Except ConstructFault Json
  | .obj members =>
    match lookup? name members with
    | some value => .ok value
    | none => .error (.missing name)
  | value => .error (.unusable value)

/-- The member of a name, or a default. -/
def memberOr (name : String) (default : Json) : Json → Except ConstructFault Json
  | .obj members => .ok ((lookup? name members).getD default)
  | value => .error (.unusable value)

/-- What a value consists of: items, characters or names. -/
def elements : Json → Except ConstructFault (List Json)
  | .arr items => .ok items
  | .str text => .ok (text.toList.map fun c => .str (String.singleton c))
  | .obj members => .ok (members.map fun member => .str member.1)
  | value => .error (.unusable value)

end Json

/-- The parts that the elements of a value are made into. -/
def constructAll {α : Type} (construct : Json → Except ConstructFault α) (value : Json) :
    Except ConstructFault (List α) := do
  (← elements value).mapM construct

/-- A part of the graph, if nothing stands against it. -/
def Checked.orRefused {α : Type} (model : String) : Checked α → Except ConstructFault α
  | .ok part => .ok part
  | .error issues => .error (.refused ⟨model, issues⟩)

/-- The command with the name and the parameter in a value. -/
def Command.construct (value : Json) : Except ConstructFault Command := do
  let name ← member "name" value
  let parameter ← memberOr "parameter" .null value
  (Command.validate (.obj [("name", name), ("parameter", parameter)])).orRefused "Command"

/-- The choice with the text and the target in a value. -/
def Choice.construct (value : Json) : Except ConstructFault Choice := do
  let text ← member "text" value
  let target ← memberOr "target" .null value
  (Choice.validate (.obj [("text", text), ("target_tag", target)])).orRefused "Choice"

/-- The node with the parts in a value. -/
def Node.construct (value : Json) : Except ConstructFault Node := do
  let tag ← member "tag" value
  let speaker ← memberOr "character" .null value
  let text ← memberOr "text" (.str "") value
  let commands ← constructAll Command.construct (← memberOr "commands" (.arr []) value)
  let choices ← constructAll Choice.construct (← memberOr "choices" (.arr []) value)
  let data := Json.obj
    [("tag", tag), ("character_id", speaker), ("text", text),
      ("commands", .arr (commands.map Command.toData)),
      ("choices", .arr (choices.map Choice.toData))]
  (Node.validate data).orRefused "DialogueNode"

/-- The graph of the nodes in a value. -/
def Graph.construct (value : Json) : Except ConstructFault Graph := do
  let nodes ← constructAll Node.construct (← member "nodes" value)
  return ⟨nodes⟩

/-! ### Parts as data -/

section Data

open Validator

theorem Validator.listOf_map {α : Type} {item : Validator α} {write : α → Json}
    (passes : ∀ found, item (write found) = .ok found) (found : List α) :
    listOf item (.arr (found.map write)) = .ok found := by
  have all (position : Nat) :
      Checked.all (((found.map write).zipIdx position).map fun entry =>
        Checked.inside (.index entry.2) (item entry.1)) = .ok found := by
    induction found generalizing position with
    | nil => rfl
    | cons first rest ih =>
      rw [List.map_cons, List.zipIdx_cons, List.map_cons, passes, Checked.all, ih]
      rfl
  exact all 0

theorem Validator.nullableText_ofText? (text : Option String) :
    Validator.nullableText (.ofText? text) = .ok text := by
  cases text <;> rfl

theorem Validator.only_of_extras {α : Type} {names : List String}
    {members : List (String × Json)} {found : α} (no_extras : extras names members = []) :
    only names members (.ok found) = .ok found := by
  rw [only, no_extras]
  rfl

theorem Validator.required_of_lookup? {α : Type} {object value : Json}
    {members : List (String × Json)} {name : String} {validator : Validator α} {found : α}
    (there : lookup? name members = some value) (passes : validator value = .ok found) :
    required object members name validator = .ok found := by
  rw [required, there]
  exact congrArg (Checked.inside _) passes

theorem Validator.optional_of_lookup? {α : Type} {value : Json}
    {members : List (String × Json)} {name : String} {validator : Validator α}
    {default found : α} (there : lookup? name members = some value)
    (passes : validator value = .ok found) :
    Validator.optional members name validator default = .ok found := by
  rw [Validator.optional, there]
  exact congrArg (Checked.inside _) passes

/-- Every command is its own data, and so are choices, nodes and graphs. -/
theorem Command.validate_toData (command : Command) :
    Command.validate command.toData = .ok command := by
  have name : Validator.text (.str command.name) = .ok command.name := rfl
  rw [Command.toData, Command.validate, required_of_lookup? rfl name,
    optional_of_lookup? rfl (nullableText_ofText? command.parameter)]
  exact only_of_extras rfl

theorem Choice.validate_toData (choice : Choice) : Choice.validate choice.toData = .ok choice := by
  have text : Validator.text (.str choice.text) = .ok choice.text := rfl
  rw [Choice.toData, Choice.validate, required_of_lookup? rfl text,
    optional_of_lookup? rfl (nullableText_ofText? choice.target)]
  exact only_of_extras rfl

theorem Node.validate_toData (node : Node) : Node.validate node.toData = .ok node := by
  have tag : nonEmptyText (.str node.tag) = .ok ⟨node.tag, node.tag_ne_empty⟩ :=
    dif_pos node.tag_ne_empty
  have text : Validator.text (.str node.text) = .ok node.text := rfl
  rw [Node.toData, Node.validate, required_of_lookup? rfl tag,
    optional_of_lookup? rfl (nullableText_ofText? node.speaker),
    optional_of_lookup? rfl text,
    optional_of_lookup? rfl (Validator.listOf_map Command.validate_toData node.commands),
    optional_of_lookup? rfl (Validator.listOf_map Choice.validate_toData node.choices)]
  exact only_of_extras rfl

theorem Graph.validate_toData (graph : Graph) : Graph.validate graph.toData = .ok graph := by
  rw [Graph.toData, Graph.validate,
    optional_of_lookup? rfl (Validator.listOf_map Node.validate_toData graph.nodes)]
  exact only_of_extras rfl

end Data

/-! ### From parts that are read -/

section Construction

variable {α : Type} {read? : Json → Option α} {write : α → Json}
  {construct : Json → Except ConstructFault α} {members : List (String × Json)} {name : String}

/-- A missing member is read as a default that stands in its place. -/
theorem optional?_eq {default : α} {stand : Json} (stands : read? stand = some default) :
    optional? name read? default members = read? ((lookup? name members).getD stand) := by
  unfold optional?
  cases lookup? name members with
  | none => exact stands.symm
  | some value => rfl

theorem member_of_required? (restores : Restores read? write id) {found : α}
    (read : required? name read? members = some found) :
    member name (.obj members) = .ok (write found) := by
  obtain ⟨value, value_eq, found_eq⟩ := Option.bind_eq_some_iff.mp read
  rw [member, value_eq, restores value found found_eq]
  rfl

theorem memberOr_of_optional? (restores : Restores read? write id) {default found : α}
    {stand : Json} (stands : read? stand = some default)
    (read : optional? name read? default members = some found) :
    memberOr name stand (.obj members) = .ok (write found) := by
  rw [optional?_eq stands] at read
  exact congrArg Except.ok (restores _ found read).symm

theorem memberOr_obj (name : String) (stand : Json) (members : List (String × Json)) :
    memberOr name stand (.obj members) = .ok ((lookup? name members).getD stand) := rfl

theorem ok_bind {β : Type} (value : α) (next : α → Except ConstructFault β) :
    (.ok value >>= next) = next value := rfl

/-- What is read from a value is constructed from it. -/
def Constructs (construct : Json → Except ConstructFault α) (read? : Json → Option α) : Prop :=
  ∀ value found, read? value = some found → construct value = .ok found

theorem mapM_construct (constructs : Constructs construct read?) {items : List Json}
    {found : List α} (read : items.mapM read? = some found) :
    items.mapM construct = .ok found := by
  induction items generalizing found with
  | nil =>
    obtain rfl := Option.some.inj read
    rfl
  | cons item items ih =>
    simp only [List.mapM_cons, Option.pure_def, Option.bind_eq_bind, Option.bind_eq_some_iff,
      Option.some.injEq] at read
    obtain ⟨first, first_eq, rest, rest_eq, rfl⟩ := read
    rw [List.mapM_cons, constructs item first first_eq, ih rest_eq]
    rfl

theorem constructs_all (constructs : Constructs construct read?) :
    Constructs (constructAll construct) (items? read?) := by
  intro value found read
  cases value with
  | arr items => exact mapM_construct constructs read
  | _ => cases read

end Construction

theorem Command.constructs : Constructs Command.construct Command.ofJson? := by
  intro value command read
  cases value with
  | obj members =>
    obtain ⟨-, -, read⟩ := Option.bind_eq_some_iff.mp read
    simp only [Option.bind_eq_bind, Option.bind_eq_some_iff] at read
    obtain ⟨name, name_eq, parameter, parameter_eq, made⟩ := read
    rw [Command.construct, member_of_required? restores_text? name_eq,
      memberOr_of_optional? restores_nullableText? rfl parameter_eq,
      ← Option.some.inj made]
    exact congrArg (Checked.orRefused "Command") (Command.validate_toData ⟨name, parameter⟩)
  | _ => cases read

theorem Choice.constructs : Constructs Choice.construct Choice.ofJson? := by
  intro value choice read
  cases value with
  | obj members =>
    obtain ⟨-, -, read⟩ := Option.bind_eq_some_iff.mp read
    simp only [Option.bind_eq_bind, Option.bind_eq_some_iff] at read
    obtain ⟨text, text_eq, target, target_eq, made⟩ := read
    rw [Choice.construct, member_of_required? restores_text? text_eq,
      memberOr_of_optional? restores_nullableText? rfl target_eq,
      ← Option.some.inj made]
    exact congrArg (Checked.orRefused "Choice") (Choice.validate_toData ⟨text, target⟩)
  | _ => cases read

theorem Node.constructs : Constructs Node.construct Node.ofJson? := by
  intro value node read
  cases value with
  | obj members =>
    obtain ⟨-, -, read⟩ := Option.bind_eq_some_iff.mp read
    simp only [Option.bind_eq_bind, Option.bind_eq_some_iff] at read
    obtain ⟨tag, tag_eq, speaker, speaker_eq, text, text_eq, commands, commands_eq, choices,
      choices_eq, made⟩ := read
    rw [Node.make?] at made
    split at made
    next usable =>
      obtain rfl := Option.some.inj made
      have stands {α : Type} {read? : Json → Option α} : items? read? (.arr []) = some [] := rfl
      rw [optional?_eq stands] at commands_eq choices_eq
      have commands_made := constructs_all Command.constructs _ commands commands_eq
      have choices_made := constructs_all Choice.constructs _ choices choices_eq
      have validated := Node.validate_toData ⟨tag, speaker, text, commands, choices, usable⟩
      have tag_made := member_of_required? restores_text? tag_eq
      have speaker_made : memberOr "character" .null (.obj members) = .ok (.ofText? speaker) :=
        memberOr_of_optional? restores_nullableText? rfl speaker_eq
      have text_made : memberOr "text" (.str "") (.obj members) = .ok (.str text) :=
        memberOr_of_optional? restores_text? rfl text_eq
      simp only [Node.construct, tag_made, speaker_made, text_made, memberOr_obj, ok_bind,
        commands_made, choices_made]
      exact congrArg (Checked.orRefused "DialogueNode") validated
    next => cases made
  | _ => cases read

/-- What is read from a stored graph is made of it without a fault. -/
theorem Graph.constructs : Constructs Graph.construct Graph.ofRecord? := by
  intro value graph read
  cases value with
  | obj members =>
    simp only [Graph.ofRecord?, Option.bind_eq_bind, Option.bind_eq_some_iff] at read
    obtain ⟨-, -, -, -, nodes, nodes_eq, made⟩ := read
    obtain ⟨items, items_eq, read⟩ := Option.bind_eq_some_iff.mp nodes_eq
    have nodes_made := constructs_all Node.constructs items nodes read
    simp only [Graph.construct, member, items_eq, ok_bind, nodes_made, ← Option.some.inj made]
    rfl
  | _ => cases read

/-! ## Loading -/

/-- What can go wrong when a value is first checked and then made into a graph. -/
inductive LoadFault where
  | format (error : FormatError)
  | construct (fault : ConstructFault)

/-- The graph that is made of a value after it was checked. -/
def Graph.load (source : Option String) (value : Json) : Except LoadFault Graph :=
  match Complaint.worst? (Check.graph value) with
  | some complaint => .error (.format ⟨source, complaint.message⟩)
  | none => (Graph.construct value).mapError .construct

theorem Complaint.foldl_yieldsTo_mem (first : Complaint) (rest : List Complaint) :
    rest.foldl (fun best next => if best.yieldsTo next then next else best) first ∈
      first :: rest := by
  induction rest generalizing first with
  | nil => exact List.mem_singleton_self first
  | cons next rest ih =>
    rw [List.foldl_cons]
    split
    · exact List.mem_cons_of_mem first (ih next)
    · exact List.cons_subset_cons first (List.subset_cons_self next rest) (ih first)

/-- If there are complaints, one of them is reported. -/
theorem Complaint.exists_worst? {complaints : List Complaint} (some_wrong : complaints ≠ []) :
    ∃ complaint ∈ complaints, worst? complaints = some complaint := by
  cases complaints with
  | nil => exact absurd rfl some_wrong
  | cons first rest => exact ⟨_, foldl_yieldsTo_mem first rest, rfl⟩

/-- Exactly the values of the form are accepted as stored graphs, and every other value is refused
for something that is wrong with its form. A value that passed the check is made into a graph
without a fault: members are only looked up where they are, and no part is refused. -/
theorem Graph.ofRecord_accepts (source : Option String) (value : Json) :
    ((∃ graph, Graph.ofRecord source value = .ok graph) ↔ IsRecord value) ∧
      (¬ IsRecord value → ∃ complaint ∈ Check.graph value,
        Graph.ofRecord source value = .error ⟨source, complaint.message⟩) ∧
      Graph.load source value = (Graph.ofRecord source value).mapError .format := by
  have accepts : (∃ graph, Graph.ofRecord source value = .ok graph) ↔ IsRecord value := by
    simp only [ofRecord_eq_ok_iff]
    exact Graph.reads value
  by_cases record : IsRecord value
  · have no_complaint := (Check.judges_graph value).mpr record
    obtain ⟨graph, read⟩ := (Graph.reads value).mpr record
    refine ⟨accepts, absurd record, ?_⟩
    rw [Graph.load, no_complaint, Complaint.worst?, Graph.constructs value graph read,
      ofRecord_eq_ok_iff.mpr read]
    rfl
  · obtain ⟨complaint, member, worst⟩ :=
      Complaint.exists_worst? (mt (Check.judges_graph value).mp record)
    have unread : Graph.ofRecord? value = none :=
      Option.eq_none_iff_forall_ne_some.mpr fun graph read =>
        record ((Graph.reads value).mp ⟨graph, read⟩)
    have refused : Graph.ofRecord source value = .error ⟨source, complaint.message⟩ := by
      rw [Graph.ofRecord, unread, worst]
      rfl
    refine ⟨accepts, fun _ => ⟨complaint, member, refused⟩, ?_⟩
    rw [Graph.load, worst, refused]
    rfl

/-- A stored graph whose only node has a number for a tag. -/
def numberedInn : Json :=
  .obj [("id", .null), ("nodes", .arr [.obj [("tag", .int 1)]])]

theorem ofRecord_accepts_inn :
    (∃ graph, Graph.ofRecord none sparseInn = .ok graph) ∧ ¬ IsRecord numberedInn ∧
      ∃ complaint ∈ Check.graph numberedInn,
        Graph.ofRecord (some "inn.json") numberedInn =
          .error ⟨some "inn.json", complaint.message⟩ := by
  have sparse : IsRecord sparseInn := (Check.judges_graph sparseInn).mp rfl
  have numbered : ¬ IsRecord numberedInn :=
    mt (Check.judges_graph numberedInn).mpr (List.cons_ne_nil _ _)
  exact ⟨(Graph.ofRecord_accepts none sparseInn).1.mpr sparse, numbered,
    (Graph.ofRecord_accepts (some "inn.json") numberedInn).2.1 numbered⟩

end Dialogue
