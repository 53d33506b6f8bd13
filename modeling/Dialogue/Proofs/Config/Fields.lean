import Dialogue.Config.Fields
import Dialogue.Proofs.Graph.Format

/-!
# What the fields of settings hold

Every field of settings is of a kind: it holds whole numbers from a bound on, texts that are not
empty, or flags. A value that is given for a field is read as data of this kind or not at all, and
the data of a kind are the values that are read as themselves. Settings are read from an object if
they can be read from it field by field, so they are read back from their own data.
-/

namespace Dialogue

open Json (lookup? HasOnly)
open Validator

/-! ## Checks of parts -/

section Checks

variable {α β : Type}

theorem Checked.inside_eq_ok_iff {step : PathStep} {checked : Checked α} {found : α} :
    checked.inside step = .ok found ↔ checked = .ok found := by
  cases checked <;> simp [Checked.inside]

theorem Checked.map_eq_ok_iff {f : α → β} {checked : Checked α} {found : β} :
    checked.map f = .ok found ↔ ∃ part, checked = .ok part ∧ f part = found := by
  cases checked <;> simp [Except.map]

theorem Checked.and_eq_ok_iff {left : Checked (α → β)} {right : Checked α} {found : β} :
    left.and right = .ok found ↔
      ∃ f, left = .ok f ∧ ∃ part, right = .ok part ∧ f part = found := by
  cases left <;> cases right <;> simp [Checked.and]

theorem Validator.only_eq_ok_iff {names : List String} {members : List (String × Json)}
    {checked : Checked α} {found : α} :
    only names members checked = .ok found ↔ HasOnly members names ∧ checked = .ok found := by
  have no_extras : extras names members = [] ↔ HasOnly members names := by
    simp [extras, HasOnly]
  rw [only, ← no_extras, Checked.and_eq_ok_iff]
  cases extras names members <;> cases checked <;> simp [Except.map]

end Checks

namespace Config

/-! ## Kinds of fields -/

/-- What a field can hold. -/
inductive Kind where
  /-- Whole numbers from a bound on. -/
  | limit (least : Nat)
  /-- Texts that are not empty. -/
  | label
  /-- Flags. -/
  | switch

namespace Kind

variable {kind : Kind} {value datum : Json}

/-- The data of a kind. -/
def Holds : Kind → Json → Prop
  | .limit least, value => ∃ number : Int, value = .int number ∧ least ≤ number
  | .label, value => value.IsNonEmptyText
  | .switch, value => ∃ flag, value = .bool flag

/-- The data of a kind that a value is read as. Numbers and flags are read generously. -/
def reading? : Kind → Json → Option Json
  | .limit least, value =>
    match whole value with
    | .ok number => if least ≤ number then some (.int number) else none
    | .error _ => none
  | .label, .str text => if text ≠ "" then some (.str text) else none
  | .label, _ => none
  | .switch, value =>
    match flag value with
    | .ok flag => some (.bool flag)
    | .error _ => none

/-- What is read is data of the kind. -/
theorem holds_of_reading? (read : kind.reading? value = some datum) : kind.Holds datum := by
  cases kind with
  | limit least =>
    simp only [reading?] at read
    split at read
    next number _ =>
      split at read
      next enough =>
        obtain rfl := Option.some.inj read
        exact ⟨number, rfl, enough⟩
      next => cases read
    next => cases read
  | label =>
    cases value with
    | str text =>
      simp only [reading?] at read
      split at read
      next nonempty =>
        obtain rfl := Option.some.inj read
        exact ⟨text, rfl, nonempty⟩
      next => cases read
    | _ => cases read
  | switch =>
    simp only [reading?] at read
    split at read
    next flag _ =>
      obtain rfl := Option.some.inj read
      exact ⟨flag, rfl⟩
    next => cases read

/-- The data of a kind are the values that are read as themselves. -/
theorem holds_iff : kind.Holds value ↔ kind.reading? value = some value := by
  refine ⟨fun holds => ?_, holds_of_reading?⟩
  cases kind with
  | limit least =>
    obtain ⟨number, rfl, enough⟩ := holds
    simp only [reading?, whole, if_pos enough]
  | label =>
    obtain ⟨text, rfl, nonempty⟩ := holds
    exact if_pos nonempty
  | switch =>
    obtain ⟨flag, rfl⟩ := holds
    rfl

/-- A validator finds what the values of a kind are read as. -/
def Describes {α : Type} (kind : Kind) (validator : Validator α) (write : α → Json) : Prop :=
  ∀ value, kind.reading? value = (validator value).toOption.map write

theorem describes_atLeast (least : Nat) :
    (limit least).Describes (atLeast least) fun found => .int found.1 := by
  intro value
  simp only [reading?, atLeast]
  cases whole value with
  | error issues => rfl
  | ok number =>
    by_cases enough : (least : Int) ≤ number
    · have bounds : least ≤ number.toNat ∧ 0 ≤ number := by omega
      have same : (number.toNat : Int) = number := by omega
      simp [enough, bounds, same, Except.toOption]
    · have bounds : ¬(least ≤ number.toNat ∧ 0 ≤ number) := by omega
      simp [enough, bounds, refuse, Except.toOption]

theorem describes_nonEmptyText : label.Describes nonEmptyText fun found => .str found.1 := by
  intro value
  cases value with
  | str text =>
    by_cases empty : text = "" <;> simp [reading?, nonEmptyText, empty, refuse, Except.toOption]
  | _ => rfl

theorem describes_flag : switch.Describes flag .bool := by
  intro value
  simp only [reading?]
  cases flag value <;> rfl

end Kind

namespace Field

/-- The kind of a field. -/
def kind : Field → Kind
  | .maxCommands | .maxChoices | .maxNodes => .limit 0
  | .indentThreshold => .limit 1
  | .startTag | .tagStem => .label
  | .flushAtEnd => .switch

theorem name_injective : Function.Injective name := by
  intro field other same
  cases field <;> cases other <;> first | rfl | exact absurd same (by decide)

theorem name_of_named? {name : String} {field : Field} (named : named? name = some field) :
    field.name = name := by
  simpa using List.find?_some named

theorem mem_all (field : Field) : field ∈ all := by
  cases field <;> decide

theorem name_ne_of_named? {name : String} (unnamed : named? name = none) (field : Field) :
    field.name ≠ name := by
  simpa using List.find?_eq_none.mp unnamed field field.mem_all

end Field

/-! ## Data of fields -/

/-- What settings hold in a field, as data. -/
def datum (config : Config) : Field → Json
  | .maxCommands => .int config.maxCommands
  | .maxChoices => .int config.maxChoices
  | .maxNodes => .int config.maxNodes
  | .indentThreshold => .int config.indentThreshold
  | .startTag => .str config.startTag
  | .tagStem => .str config.tagStem
  | .flushAtEnd => .bool config.flushAtEnd

theorem toJson_eq (config : Config) :
    config.toJson = .obj (Field.all.map fun field => (field.name, config.datum field)) := rfl

theorem holds_datum (config : Config) (field : Field) : field.kind.Holds (config.datum field) := by
  cases field with
  | maxCommands | maxChoices | maxNodes => exact ⟨_, rfl, Int.natCast_nonneg _⟩
  | indentThreshold => exact ⟨_, rfl, Int.ofNat_le.mpr config.indentThreshold_pos⟩
  | startTag => exact ⟨_, rfl, config.startTag_ne_empty⟩
  | tagStem => exact ⟨_, rfl, config.tagStem_ne_empty⟩
  | flushAtEnd => exact ⟨_, rfl⟩

/-- Settings are their data. -/
theorem ext_datum {config other : Config} (same : ∀ field, config.datum field = other.datum field) :
    config = other := by
  have maxCommands := same .maxCommands
  have maxChoices := same .maxChoices
  have maxNodes := same .maxNodes
  have indentThreshold := same .indentThreshold
  have startTag := same .startTag
  have tagStem := same .tagStem
  have flushAtEnd := same .flushAtEnd
  cases config
  cases other
  simp only [datum, Json.int.injEq, Json.str.injEq, Json.bool.injEq, Int.natCast_inj] at *
  subst_vars
  rfl

/-! ## Assignments to a field -/

section Assigning

variable {config changed : Config} {value : Json} {field : Field}

theorem exists_of_map_ok {α β : Type} {f : α → β} {checked : Checked α} {value : β}
    (map_eq : checked.map f = .ok value) : ∃ found, value = f found := by
  obtain ⟨found, -, rfl⟩ := Checked.map_eq_ok_iff.mp map_eq
  exact ⟨found, rfl⟩

/-- A field is assigned what the value is read as, and if it is not read the assignment fails. -/
theorem reading?_eq_assignField (config : Config) (value : Json) (field : Field) :
    field.kind.reading? value =
      (config.assignField value field).toOption.map fun changed => changed.datum field := by
  cases field with
  | maxCommands | maxChoices | maxNodes =>
    rw [Field.kind, Kind.describes_atLeast, assignField]
    cases atLeast 0 value <;> rfl
  | indentThreshold =>
    rw [Field.kind, Kind.describes_atLeast, assignField]
    cases atLeast 1 value <;> rfl
  | startTag | tagStem =>
    rw [Field.kind, Kind.describes_nonEmptyText, assignField]
    cases nonEmptyText value <;> rfl
  | flushAtEnd =>
    rw [Field.kind, Kind.describes_flag, assignField]
    cases flag value <;> rfl

/-- The other fields stay as they are. -/
theorem datum_of_assignField {other : Field} (apart : other ≠ field)
    (assigned : config.assignField value field = .ok changed) :
    changed.datum other = config.datum other := by
  cases field <;> obtain ⟨found, rfl⟩ := exists_of_map_ok assigned <;> cases other <;>
    first | rfl | exact absurd rfl apart

end Assigning

/-! ## Settings from objects -/

section Objects

variable {members : List (String × Json)} {config : Config} {value : Json}

/-- The data that an object gives for a field: what its member of the name of the field is read as,
or the usual data if there is no such member. -/
def Field.given? (members : List (String × Json)) (field : Field) : Option Json :=
  match lookup? field.name members with
  | none => some ((default : Config).datum field)
  | some value => field.kind.reading? value

/-- An object gives data for a field if its member of that name passes, or is not there. -/
theorem Field.given?_eq_some_iff {α : Type} {validator : Validator α} {write : α → Json}
    (members : List (String × Json)) (field : Field)
    (describes : field.kind.Describes validator write) (usual : α)
    (usually : (default : Config).datum field = write usual) (datum : Json) :
    field.given? members = some datum ↔ ∃ part,
      Validator.optional members field.name validator usual = .ok part ∧ write part = datum := by
  rw [given?, Validator.optional]
  cases lookup? field.name members with
  | none => simp [usually]
  | some value =>
    simp only [describes value, Checked.inside_eq_ok_iff]
    cases validator value <;> simp [Except.toOption]

/-- The parts that an object gives make up the settings. -/
theorem validate_eq_ok_iff :
    validate (.obj members) = .ok config ↔ HasOnly members fieldNames ∧
      ∀ field : Field, field.given? members = some (config.datum field) := by
  have limit := Kind.describes_atLeast
  have label := Kind.describes_nonEmptyText
  have maxCommands := Field.given?_eq_some_iff members .maxCommands (limit 0)
    ⟨_, Nat.zero_le (default : Config).maxCommands⟩ rfl
  have maxChoices := Field.given?_eq_some_iff members .maxChoices (limit 0)
    ⟨_, Nat.zero_le (default : Config).maxChoices⟩ rfl
  have maxNodes := Field.given?_eq_some_iff members .maxNodes (limit 0)
    ⟨_, Nat.zero_le (default : Config).maxNodes⟩ rfl
  have indentThreshold := Field.given?_eq_some_iff members .indentThreshold (limit 1)
    ⟨_, (default : Config).indentThreshold_pos⟩ rfl
  have startTag := Field.given?_eq_some_iff members .startTag label
    ⟨_, (default : Config).startTag_ne_empty⟩ rfl
  have tagStem := Field.given?_eq_some_iff members .tagStem label
    ⟨_, (default : Config).tagStem_ne_empty⟩ rfl
  have flushAtEnd := Field.given?_eq_some_iff members .flushAtEnd Kind.describes_flag
    (default : Config).flushAtEnd rfl
  -- A check in parts passes if every part does, so there is one part for each field, the first
  -- field innermost.
  simp only [validate, only_eq_ok_iff, Checked.and_eq_ok_iff, Checked.map_eq_ok_iff]
  refine and_congr_right fun _ => ⟨fun parts => ?_, fun given => ?_⟩
  · obtain ⟨_, ⟨_, ⟨_, ⟨_, ⟨_, ⟨_, ⟨_, commands, rfl⟩, _, choices, rfl⟩, _, nodes, rfl⟩,
      _, indent, rfl⟩, _, start, rfl⟩, _, stem, rfl⟩, _, flush, rfl⟩ := parts
    intro field
    cases field with
    | maxCommands => exact (maxCommands _).mpr ⟨_, commands, rfl⟩
    | maxChoices => exact (maxChoices _).mpr ⟨_, choices, rfl⟩
    | maxNodes => exact (maxNodes _).mpr ⟨_, nodes, rfl⟩
    | indentThreshold => exact (indentThreshold _).mpr ⟨_, indent, rfl⟩
    | startTag => exact (startTag _).mpr ⟨_, start, rfl⟩
    | tagStem => exact (tagStem _).mpr ⟨_, stem, rfl⟩
    | flushAtEnd => exact (flushAtEnd _).mpr ⟨_, flush, rfl⟩
  · obtain ⟨_, commands, commands_eq⟩ := (maxCommands _).mp (given _)
    obtain ⟨_, choices, choices_eq⟩ := (maxChoices _).mp (given _)
    obtain ⟨_, nodes, nodes_eq⟩ := (maxNodes _).mp (given _)
    obtain ⟨_, indent, indent_eq⟩ := (indentThreshold _).mp (given _)
    obtain ⟨_, start, start_eq⟩ := (startTag _).mp (given _)
    obtain ⟨_, stem, stem_eq⟩ := (tagStem _).mp (given _)
    obtain ⟨_, flush, flush_eq⟩ := (flushAtEnd _).mp (given _)
    refine ⟨_, ⟨_, ⟨_, ⟨_, ⟨_, ⟨_, ⟨_, commands, rfl⟩, _, choices, rfl⟩, _, nodes, rfl⟩,
      _, indent, rfl⟩, _, start, rfl⟩, _, stem, rfl⟩, _, flush, ext_datum fun field => ?_⟩
    cases field with
    | maxCommands => exact commands_eq
    | maxChoices => exact choices_eq
    | maxNodes => exact nodes_eq
    | indentThreshold => exact indent_eq
    | startTag => exact start_eq
    | tagStem => exact stem_eq
    | flushAtEnd => exact flush_eq

/-- Settings are read back from their own data. -/
theorem validate_toJson (config : Config) : validate config.toJson = .ok config := by
  rw [toJson_eq, validate_eq_ok_iff]
  constructor
  · intro member inside
    obtain ⟨field, -, rfl⟩ := List.mem_map.mp inside
    exact List.mem_map_of_mem field.mem_all
  · intro field
    have found : lookup? field.name (Field.all.map fun field => (field.name, config.datum field)) =
        some (config.datum field) := by
      cases field <;> rfl
    rw [Field.given?, found]
    exact Kind.holds_iff.mp (config.holds_datum field)

theorem exists_members_of_validate (validated : validate value = .ok config) :
    ∃ members, value = .obj members := by
  cases value with
  | obj members => exact ⟨members, rfl⟩
  | _ => cases validated

theorem ofJson_eq_ok_iff : ofJson value = .ok config ↔ validate value = .ok config := by
  rw [ofJson]
  cases validate value <;> simp

end Objects

end Config

end Dialogue
