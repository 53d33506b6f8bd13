import Dialogue.Json.Reader
import Dialogue.Validation.Issue

/-!
# Checking values

A validator turns a value into what it stands for or says all that is wrong with it.
Texts must be texts, but whole numbers and flags are read generously: a whole number may
be written as a text or as a floating point number without a fraction, and a flag as a
word. Objects and arrays are checked part by part, and every part is checked even if
another one is wrong.
-/

namespace Dialogue

/-- A result, or all that stands against it. -/
abbrev Checked (α : Type) := Except (List Issue) α

/-- A validator for one kind of value. -/
abbrev Validator (α : Type) := Json → Checked α

namespace Checked

variable {α β : Type}

/-- Use two results together, with the issues of both if there are any. -/
def and (left : Checked (α → β)) (right : Checked α) : Checked β :=
  match left, right with
  | .ok f, .ok value => .ok (f value)
  | .ok _, .error issues => .error issues
  | .error issues, .ok _ => .error issues
  | .error first, .error second => .error (first ++ second)

/-- The issues that stand against a result. -/
def issues : Checked α → List Issue
  | .ok _ => []
  | .error issues => issues

@[simp] theorem issues_and (left : Checked (α → β)) (right : Checked α) :
    (left.and right).issues = left.issues ++ right.issues := by
  cases left <;> cases right <;> simp [Checked.and, issues]

/-- A result for a part of a value, seen from the value. -/
def inside (step : PathStep) : Checked α → Checked α
  | .ok value => .ok value
  | .error issues => .error (issues.map (.inside step))

/-- The results of all items, with the issues of every item. -/
def all : List (Checked α) → Checked (List α)
  | [] => .ok []
  | first :: rest => Checked.and (first.map List.cons) (all rest)

end Checked

namespace Validator

variable {α : Type}

/-- Refuse a value. -/
def refuse (kind : IssueKind) (value : Json) : Checked α :=
  .error [⟨[], kind, value⟩]

/-! ## Texts -/

/-- A text. -/
def text : Validator String
  | .str text => .ok text
  | value => refuse .notText value

/-- A text or null. -/
def nullableText : Validator (Option String)
  | .null => .ok none
  | .str text => .ok (some text)
  | value => refuse .notText value

/-- A text that is not empty. -/
def nonEmptyText : Validator { text : String // text ≠ "" }
  | .str text => if some : text ≠ "" then .ok ⟨text, some⟩ else refuse .emptyText (.str text)
  | value => refuse .notText value

/-! ## Whole numbers -/

/-- Whether a floating point number that is whole is converted: it must lie inside the bounds of
a word, of which the lower one is excluded here too. -/
def fitsFloatWord (number : Int) : Bool :=
  Number.fitsWord number && number ≠ -Number.wordBound

/-- The whole number that a value stands for. -/
def whole : Validator Int
  | .int value => .ok value
  | .bool value => .ok (if value then 1 else 0)
  | .float value =>
    if value.isFinite then
      match value.toInt? with
      | some whole =>
        if fitsFloatWord whole then .ok whole else refuse .wholeTooLong (.float value)
      | none => refuse .fractional (.float value)
    else refuse .notFinite (.float value)
  | .str text =>
    match Number.readWhole text.toList with
    | .ok whole => .ok whole
    | .error .tooLong => refuse .wholeTooLong (.str text)
    | .error .unreadable => refuse .unreadableWhole (.str text)
  | value => refuse .notWhole value

/-- A whole number that is not below a bound. -/
def atLeast (least : Nat) (value : Json) : Checked { number : Nat // least ≤ number } :=
  match whole value with
  | .error issues => .error issues
  | .ok number =>
    if enough : least ≤ number.toNat ∧ 0 ≤ number then .ok ⟨number.toNat, enough.1⟩
    else refuse (.below least) value

/-! ## Flags -/

/-- The words that stand for a flag, in lower case. -/
def flagWords : List (String × Bool) :=
  [("0", false), ("off", false), ("f", false), ("false", false), ("n", false), ("no", false),
    ("1", true), ("on", true), ("t", true), ("true", true), ("y", true), ("yes", true)]

/-- The flag that a number stands for. -/
def flagOfNumber (value : Json) (number : Int) : Checked Bool :=
  if number = 0 then .ok false else if number = 1 then .ok true else refuse .unreadableFlag value

/-- The flag that a value stands for. A number that fits into no word is not even taken for
one. -/
def flag : Validator Bool
  | .bool value => .ok value
  | .int value =>
    if Number.fitsWord value then flagOfNumber (.int value) value else refuse .notFlag (.int value)
  | .float value =>
    match value.toInt?.filter fitsFloatWord with
    | some number => flagOfNumber (.float value) number
    | none => refuse .notFlag (.float value)
  | .str text =>
    match flagWords.find? fun entry => entry.1 = text.map Char.toLower with
    | some entry => .ok entry.2
    | none => refuse .unreadableFlag (.str text)
  | value => refuse .notFlag value

/-! ## Arrays and objects -/

/-- An array whose items all pass. -/
def listOf (item : Validator α) : Validator (List α)
  | .arr items =>
    Checked.all (items.zipIdx.map fun entry => Checked.inside (.index entry.2) (item entry.1))
  | value => refuse .notList value

/-- A member that must be there. -/
def required (object : Json) (members : List (String × Json)) (name : String)
    (validator : Validator α) : Checked α :=
  match Json.lookup? name members with
  | none => .error [⟨[.name name], .missing, object⟩]
  | some value => Checked.inside (.name name) (validator value)

/-- A member with a default value. -/
def optional (members : List (String × Json)) (name : String) (validator : Validator α)
    (default : α) : Checked α :=
  match Json.lookup? name members with
  | none => .ok default
  | some value => Checked.inside (.name name) (validator value)

/-- The issues with members that no field has the name of. -/
def extras (names : List String) (members : List (String × Json)) : List Issue :=
  (members.filter fun member => !names.contains member.1).map fun member =>
    ⟨[.name member.1], .extra, member.2⟩

/-- A result, unless there are members that no field has the name of. -/
def only (names : List String) (members : List (String × Json)) (result : Checked α) :
    Checked α :=
  Checked.and (result.map fun value (_ : Unit) => value)
    (match extras names members with
    | [] => .ok ()
    | issues => .error issues)

end Validator

end Dialogue
