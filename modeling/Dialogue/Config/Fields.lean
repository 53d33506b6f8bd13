import Dialogue.Config.Basic
import Dialogue.Validation.Value

/-!
# Settings as data

Settings are given as an object with a member for every field that differs from its
default, and single fields can be assigned later. Both ways go through the same
validators, so settings are usable however they were arrived at; an assignment that is
refused changes nothing.
-/

namespace Dialogue

open Validator

namespace Config

/-- The fields of settings, in order. -/
inductive Field where
  | maxCommands
  | maxChoices
  | maxNodes
  | indentThreshold
  | startTag
  | tagStem
  | flushAtEnd
  deriving DecidableEq, Repr

namespace Field

/-- The fields in the order in which they are checked. -/
def all : List Field :=
  [.maxCommands, .maxChoices, .maxNodes, .indentThreshold, .startTag, .tagStem, .flushAtEnd]

/-- The name of a field in data. -/
def name : Field → String
  | .maxCommands => "max_commands"
  | .maxChoices => "max_choices"
  | .maxNodes => "max_nodes"
  | .indentThreshold => "indent_threshold"
  | .startTag => "start_tag"
  | .tagStem => "default_tag_prefix"
  | .flushAtEnd => "flush_at_end"

/-- The field with a name. -/
def named? (name : String) : Option Field :=
  all.find? fun field => field.name = name

end Field

/-- The names of all fields. -/
def fieldNames : List String :=
  Field.all.map Field.name

/-- Settings with usable contents in all fields. -/
def ofFields (maxCommands maxChoices maxNodes : { number : Nat // 0 ≤ number })
    (indentThreshold : { number : Nat // 1 ≤ number })
    (startTag tagStem : { text : String // text ≠ "" }) (flushAtEnd : Bool) : Config :=
  ⟨maxCommands.1, maxChoices.1, maxNodes.1, indentThreshold.1, startTag.1, tagStem.1,
    flushAtEnd, indentThreshold.2, startTag.2, tagStem.2⟩

/-- The settings that data stands for. -/
def validate (value : Json) : Checked Config :=
  match value with
  | .obj members =>
    let default : Config := default
    only fieldNames members <|
      Checked.and
        (Checked.and
          (Checked.and
            (Checked.and
              (Checked.and
                (Checked.and
                  ((optional members "max_commands" (atLeast 0)
                    ⟨default.maxCommands, Nat.zero_le _⟩).map ofFields)
                  (optional members "max_choices" (atLeast 0)
                    ⟨default.maxChoices, Nat.zero_le _⟩))
                (optional members "max_nodes" (atLeast 0) ⟨default.maxNodes, Nat.zero_le _⟩))
              (optional members "indent_threshold" (atLeast 1)
                ⟨default.indentThreshold, default.indentThreshold_pos⟩))
            (optional members "start_tag" nonEmptyText
              ⟨default.startTag, default.startTag_ne_empty⟩))
          (optional members "default_tag_prefix" nonEmptyText
            ⟨default.tagStem, default.tagStem_ne_empty⟩))
        (optional members "flush_at_end" flag default.flushAtEnd)
  | _ => refuse (.notModel "CompilerConfig") value

/-- The settings with another value in a field, if the value is usable there. -/
def assignField (config : Config) (value : Json) : Field → Checked Config
  | .maxCommands => (atLeast 0 value).map fun number => { config with maxCommands := number.1 }
  | .maxChoices => (atLeast 0 value).map fun number => { config with maxChoices := number.1 }
  | .maxNodes => (atLeast 0 value).map fun number => { config with maxNodes := number.1 }
  | .indentThreshold => (atLeast 1 value).map fun number =>
    { config with indentThreshold := number.1, indentThreshold_pos := number.2 }
  | .startTag => (nonEmptyText value).map fun text =>
    { config with startTag := text.1, startTag_ne_empty := text.2 }
  | .tagStem => (nonEmptyText value).map fun text =>
    { config with tagStem := text.1, tagStem_ne_empty := text.2 }
  | .flushAtEnd => (flag value).map fun flushAtEnd => { config with flushAtEnd }

/-- The names of what settings know about themselves. It can be looked at, but not assigned. -/
def viewNames : List String :=
  ["model_extra", "model_fields_set"]

/-- Why a name cannot be assigned. -/
inductive AssignFault where
  /-- No field has the name, or the value is not usable in it. -/
  | invalid (report : Report)
  /-- The name is one of the views. -/
  | readOnly (name : String)
  /-- The name is an inner one; what would come of the assignment is not known. -/
  | leftOut (name : String)

/-- A refused assignment as messages give it. -/
def AssignFault.message : AssignFault → String
  | .invalid report => report.summary
  | .readOnly name => "property '" ++ name ++ "' of 'CompilerConfig' object has no setter"
  | .leftOut name => "assigning '" ++ name ++ "' is left out"

/-- The report of issues with settings. -/
def report (issues : List Issue) : Report :=
  ⟨"CompilerConfig", issues⟩

/-- The settings with another value in the field of a name. A private name can be assigned too,
but no setting changes with it. Inner names are left out. -/
def assign (config : Config) (name : String) (value : Json) : Except AssignFault Config :=
  match Field.named? name with
  | some field =>
    match Checked.inside (.name name) (config.assignField value field) with
    | .ok config => .ok config
    | .error issues => .error (.invalid (report issues))
  | none =>
    if isInnerName name then .error (.leftOut name)
    else if isPrivateName name then .ok config
    else if viewNames.contains name then .error (.readOnly name)
    else .error (.invalid (report [⟨[.name name], .noSuchField name, value⟩]))

/-- No field has a private name. -/
theorem named?_of_isPrivateName {name : String} (hidden : isPrivateName name = true) :
    Field.named? name = none := by
  rw [Field.named?, List.find?_eq_none]
  intro field _ named
  rw [← of_decide_eq_true named] at hidden
  cases field <;> exact absurd hidden (by decide)

/-- An assignment to a name of no field changes nothing, if it is not refused: the name is private,
and no inner one. -/
theorem assign_eq_ok_iff_of_unnamed {config changed : Config} {name : String} {value : Json}
    (unnamed : Field.named? name = none) :
    config.assign name value = .ok changed ↔
      isInnerName name = false ∧ isPrivateName name = true ∧ changed = config := by
  simp only [assign, unnamed]
  split
  next inner => simp [inner]
  next outer =>
    split
    next hidden => simp [outer, hidden, eq_comm]
    next visible => split <;> simp [visible]

/-- Settings as data, with all fields. -/
def toJson (config : Config) : Json :=
  .obj
    [("max_commands", .int config.maxCommands),
      ("max_choices", .int config.maxChoices),
      ("max_nodes", .int config.maxNodes),
      ("indent_threshold", .int config.indentThreshold),
      ("start_tag", .str config.startTag),
      ("default_tag_prefix", .str config.tagStem),
      ("flush_at_end", .bool config.flushAtEnd)]

/-- The settings that data stands for, or the report of what is wrong with it. -/
def ofJson (value : Json) : Except Report Config :=
  match validate value with
  | .ok config => .ok config
  | .error issues => .error (report issues)

end Config

end Dialogue
