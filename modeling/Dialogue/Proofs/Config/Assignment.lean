import Dialogue.Proofs.Config.Fields

/-!
# Settings that change

Whatever is assigned to settings, one value after the other and with or without success, they stay
usable: each field holds what was last read for it. A refused assignment is one to no field or of a
value that the field does not take, and it changes nothing. What has passed a check, settings and
the parts of a graph alike, passes it again as data.
-/

namespace Dialogue

open Validator

/-! ## Assignments one after the other -/

namespace Config

/-- A value for a name that is not left out. -/
structure Assignment where
  name : String
  value : Json
  outer : isInnerName name = false

namespace Assignment

/-- The data that an assignment has for a field, if the field has the name and takes the value. -/
def reading? (assignment : Assignment) (field : Field) : Option Json :=
  if field.name = assignment.name then field.kind.reading? assignment.value else none

/-- An assignment that is refused: no field takes it, and the name is not private. -/
def IsRefused (assignment : Assignment) : Prop :=
  isPrivateName assignment.name = false ∧ ∀ field, assignment.reading? field = none

variable {assignment : Assignment} {found : Field}

/-- The field of the name is the only one that can take a value. -/
theorem reading?_of_named? (named : Field.named? assignment.name = some found) (field : Field) :
    assignment.reading? field =
      if field = found then found.kind.reading? assignment.value else none := by
  have found_name := Field.name_of_named? named
  rw [reading?]
  by_cases same : field = found
  · rw [if_pos same, same, if_pos found_name]
  · have apart : field.name ≠ assignment.name := fun name_eq =>
      same (Field.name_injective (name_eq.trans found_name.symm))
    rw [if_neg same, if_neg apart]

theorem reading?_of_unnamed (unnamed : Field.named? assignment.name = none) (field : Field) :
    assignment.reading? field = none :=
  if_neg (Field.name_ne_of_named? unnamed field)

theorem isRefused_iff_of_named? (named : Field.named? assignment.name = some found) :
    assignment.IsRefused ↔ found.kind.reading? assignment.value = none := by
  have visible : isPrivateName assignment.name = false := by
    refine Bool.eq_false_iff.mpr fun hidden => ?_
    cases named.symm.trans (named?_of_isPrivateName hidden)
  simp only [IsRefused, visible, true_and, reading?_of_named? named, ite_eq_right_iff, forall_eq]

theorem isRefused_iff_of_unnamed (unnamed : Field.named? assignment.name = none) :
    assignment.IsRefused ↔ isPrivateName assignment.name = false :=
  and_iff_left (reading?_of_unnamed unnamed)

end Assignment

/-- The settings after an assignment was tried. -/
def attempt (config : Config) (assignment : Assignment) : Config :=
  match config.assign assignment.name assignment.value with
  | .ok changed => changed
  | .error _ => config

/-- The settings after assignments were tried in order. -/
def afterAll (config : Config) (assignments : List Assignment) : Config :=
  assignments.foldl attempt config

variable {config changed : Config} {assignment : Assignment}

/-- An assignment to a field is the check of the value for the field. -/
theorem assign_eq_ok_iff_of_named? {found : Field}
    (named : Field.named? assignment.name = some found) :
    config.assign assignment.name assignment.value = .ok changed ↔
      config.assignField assignment.value found = .ok changed := by
  simp only [assign, named]
  cases config.assignField assignment.value found <;> simp [Checked.inside]

/-- All that a successful assignment does. -/
theorem datum_of_assign
    (assigned : config.assign assignment.name assignment.value = .ok changed) (field : Field) :
    changed.datum field = (assignment.reading? field).getD (config.datum field) := by
  cases named : Field.named? assignment.name with
  | some found =>
    rw [assign_eq_ok_iff_of_named? named] at assigned
    rw [Assignment.reading?_of_named? named]
    split
    next same =>
      rw [same, reading?_eq_assignField config, assigned]
      rfl
    next apart => exact datum_of_assignField apart assigned
  | none =>
    rw [Assignment.reading?_of_unnamed named]
    obtain ⟨-, -, rfl⟩ := (assign_eq_ok_iff_of_unnamed named).mp assigned
    rw [Option.getD_none]

/-- The assignments that fail are the refused ones. -/
theorem exists_fault_iff :
    (∃ fault, config.assign assignment.name assignment.value = .error fault) ↔
      assignment.IsRefused := by
  have fails : (∃ fault, config.assign assignment.name assignment.value = .error fault) ↔
      ¬∃ changed, config.assign assignment.name assignment.value = .ok changed := by
    cases config.assign assignment.name assignment.value <;> simp
  rw [fails]
  cases named : Field.named? assignment.name with
  | some found =>
    simp only [assign_eq_ok_iff_of_named? named, Assignment.isRefused_iff_of_named? named,
      reading?_eq_assignField config]
    cases config.assignField assignment.value found <;> simp [Except.toOption]
  | none =>
    simp [assign_eq_ok_iff_of_unnamed named, Assignment.isRefused_iff_of_unnamed named,
      assignment.outer]

theorem attempt_of_isRefused (refused : assignment.IsRefused) :
    config.attempt assignment = config := by
  obtain ⟨fault, failed⟩ :
      ∃ fault, config.assign assignment.name assignment.value = .error fault :=
    exists_fault_iff.mpr refused
  rw [attempt, failed]

/-- An attempt changes the fields that take it, and no others. -/
theorem datum_attempt (config : Config) (assignment : Assignment) (field : Field) :
    (config.attempt assignment).datum field =
      (assignment.reading? field).getD (config.datum field) := by
  cases assigned : config.assign assignment.name assignment.value with
  | ok changed =>
    rw [attempt, assigned]
    exact datum_of_assign assigned field
  | error fault =>
    have refused := exists_fault_iff.mp ⟨fault, assigned⟩
    rw [attempt_of_isRefused refused, refused.2 field, Option.getD_none]

/-- Each field holds what was last read for it. -/
theorem datum_afterAll (config : Config) (assignments : List Assignment) (field : Field) :
    (config.afterAll assignments).datum field =
      (assignments.filterMap (·.reading? field)).getLast?.getD (config.datum field) := by
  -- The rest is tried on the settings that the first assignment has left, hence the induction for
  -- all settings.
  induction assignments generalizing config with
  | nil => rfl
  | cons assignment rest ih =>
    rw [afterAll, List.foldl_cons, ← afterAll, ih, datum_attempt]
    cases read : assignment.reading? field with
    | none => simp [read]
    | some datum => simp [read, List.getLast?_cons]

/-! ## Settings as data -/

/-- The form of settings as data: every field is there, in order, and holds what it can hold. -/
def IsSettings (value : Json) : Prop :=
  ∃ datum : Field → Json, value = .obj (Field.all.map fun field => (field.name, datum field)) ∧
    ∀ field : Field, field.kind.Holds (datum field)

theorem isSettings_toJson (config : Config) : IsSettings config.toJson :=
  ⟨config.datum, config.toJson_eq, config.holds_datum⟩

/-- Each field holds what was last read for it, of the assignments or else of the object that the
settings are from. -/
theorem datum_afterAll_of_validate {members : List (String × Json)}
    (validated : validate (.obj members) = .ok config) (assignments : List Assignment)
    (field : Field) :
    some ((config.afterAll assignments).datum field) =
      (assignments.filterMap (·.reading? field)).getLast?.or (field.given? members) := by
  rw [datum_afterAll, (validate_eq_ok_iff.mp validated).2 field]
  cases (assignments.filterMap (·.reading? field)).getLast? <;> rfl

end Config

/-- What has passed a check passes it again as data, and is what it was. -/
def Validator.Stable {α : Type} (validate : Validator α) (data : α → Json) : Prop :=
  ∀ value found, validate value = .ok found → validate (data found) = .ok found

open Config in
/-- What is valid stays valid. Commands, choices, nodes, graphs and settings that have passed their
checks pass them again as data, and are what they were. Settings that are read from a value, which
must be an object, keep the form of settings whatever is assigned to them, and they are read back
from their data. Each field holds what was read for it by the last assignment that it took, or else
what the object gave for it. An assignment to settings like these fails if and only if no field
takes it and its name is not private, and then the settings stay as they are. -/
theorem validated_stays_valid :
    (Stable Command.validate Command.toData ∧ Stable Choice.validate Choice.toData ∧
      Stable Node.validate Node.toData ∧ Stable Graph.validate Graph.toData ∧
      Stable Config.validate Config.toJson) ∧
    ∀ value config, Config.ofJson value = .ok config →
      ∃ members, value = .obj members ∧ ∀ assignments : List Assignment,
        IsSettings (config.afterAll assignments).toJson ∧
        Config.ofJson (config.afterAll assignments).toJson = .ok (config.afterAll assignments) ∧
        (∀ field, some ((config.afterAll assignments).datum field) =
          (assignments.filterMap (·.reading? field)).getLast?.or (field.given? members)) ∧
        ∀ assignment : Assignment,
          ((∃ fault, (config.afterAll assignments).assign assignment.name assignment.value =
              .error fault) ↔ assignment.IsRefused) ∧
          (assignment.IsRefused →
            (config.afterAll assignments).attempt assignment = config.afterAll assignments) := by
  refine ⟨⟨fun _ command _ => command.validate_toData, fun _ choice _ => choice.validate_toData,
    fun _ node _ => node.validate_toData, fun _ graph _ => graph.validate_toData,
    fun _ config _ => config.validate_toJson⟩, ?_⟩
  intro value config read
  have validated := ofJson_eq_ok_iff.mp read
  obtain ⟨members, rfl⟩ := exists_members_of_validate validated
  refine ⟨members, rfl, fun assignments => ⟨isSettings_toJson _, ?_, ?_, ?_⟩⟩
  · exact ofJson_eq_ok_iff.mpr (validate_toJson _)
  · exact datum_afterAll_of_validate validated assignments
  · exact fun assignment => ⟨exists_fault_iff, attempt_of_isRefused⟩

namespace Config

/-- Settings whose fields are given generously. -/
def looseMembers : List (String × Json) :=
  [("max_commands", .str " +1_0.00 "), ("max_nodes", .float (.finite false 1 1)),
    ("indent_threshold", .bool true), ("flush_at_end", .float (.finite false 0 0))]

/-- Assignments of which one is taken. -/
def looseAssignments : List Assignment :=
  [⟨"nope", .int 1, rfl⟩, ⟨"max_choices", .str "7", rfl⟩, ⟨"max_choices", .int (-1), rfl⟩,
    ⟨"start_tag", .str "", rfl⟩, ⟨"indent_threshold", .bool false, rfl⟩]

/-- A graph of which only the tag of a node is given. -/
def bareGraph : Json :=
  .obj [("nodes", .arr [.obj [("tag", .str "inn")]])]

/-- A graph with usual contents is valid as data. Loose values are read as settings, refused ones
leave what was read before, and the rest is usual. -/
theorem validated_stays_valid_loose :
    (∃ graph, Graph.validate bareGraph = .ok graph ∧
      Graph.validate graph.toData = .ok graph) ∧
    ∃ config, Config.ofJson (.obj looseMembers) = .ok config ∧
      Config.ofJson (config.afterAll looseAssignments).toJson =
        .ok (config.afterAll looseAssignments) ∧
      (config.afterAll looseAssignments).datum .maxCommands = .int 10 ∧
      (config.afterAll looseAssignments).datum .maxChoices = .int 7 ∧
      (config.afterAll looseAssignments).datum .indentThreshold = .int 1 ∧
      (config.afterAll looseAssignments).datum .startTag = .str "start" ∧
      ∃ fault, (config.afterAll looseAssignments).assign "start_tag" (.str "") = .error fault := by
  have read : Config.ofJson (.obj looseMembers) =
      .ok { maxCommands := 10, maxNodes := 2, indentThreshold := 1, flushAtEnd := false } := rfl
  have bare : Graph.validate bareGraph = .ok ⟨[⟨"inn", none, "", [], [], by decide⟩]⟩ := rfl
  obtain ⟨⟨-, -, -, graphs, -⟩, settings⟩ := validated_stays_valid
  obtain ⟨members, members_eq, kept⟩ := settings _ _ read
  obtain rfl := Json.obj.inj members_eq
  obtain ⟨-, returned, held, refusals⟩ := kept looseAssignments
  have refused : Assignment.IsRefused ⟨"start_tag", .str "", rfl⟩ :=
    ⟨rfl, fun field => by cases field <;> rfl⟩
  refine ⟨⟨_, bare, graphs _ _ bare⟩, _, read, returned, ?_, ?_, ?_, ?_, (refusals _).1.mpr refused⟩
  · exact Option.some.inj ((held .maxCommands).trans rfl)
  · exact Option.some.inj ((held .maxChoices).trans rfl)
  · exact Option.some.inj ((held .indentThreshold).trans rfl)
  · exact Option.some.inj ((held .startTag).trans rfl)

end Config

end Dialogue
