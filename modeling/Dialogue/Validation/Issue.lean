import Dialogue.Graph.Format
import Dialogue.Text.Utf8

/-!
# Issues with data

Data that is to become settings or a graph is checked field by field, and all that is
wrong with it is reported at once: where it is, what is wrong, and the value that was
found there. A report has a one-line summary and a text with a paragraph per issue.
-/

namespace Dialogue

/-- What is wrong with a value. -/
inductive IssueKind where
  | missing
  | extra
  | notText
  | emptyText
  | notList
  | notModel (model : String)
  | notWhole
  | unreadableWhole
  | wholeTooLong
  | fractional
  | notFinite
  | below (least : Nat)
  | notFlag
  | unreadableFlag
  | frozen
  | noSuchField (name : String)
  deriving DecidableEq, Repr

namespace IssueKind

/-- The short name of a kind of issue. -/
def code : IssueKind → String
  | .missing => "missing"
  | .extra => "extra_forbidden"
  | .notText => "string_type"
  | .emptyText => "string_too_short"
  | .notList => "tuple_type"
  | .notModel _ => "model_type"
  | .notWhole => "int_type"
  | .unreadableWhole => "int_parsing"
  | .wholeTooLong => "int_parsing_size"
  | .fractional => "int_from_float"
  | .notFinite => "finite_number"
  | .below _ => "greater_than_equal"
  | .notFlag => "bool_type"
  | .unreadableFlag => "bool_parsing"
  | .frozen => "frozen_instance"
  | .noSuchField _ => "no_such_attribute"

/-- The sentence for a kind of issue. -/
def message : IssueKind → String
  | .missing => "Field required"
  | .extra => "Extra inputs are not permitted"
  | .notText => "Input should be a valid string"
  | .emptyText => "String should have at least 1 character"
  | .notList => "Input should be a valid tuple"
  | .notModel model => "Input should be a valid dictionary or instance of " ++ model
  | .notWhole => "Input should be a valid integer"
  | .unreadableWhole => "Input should be a valid integer, unable to parse string as an integer"
  | .wholeTooLong => "Unable to parse input string as an integer, exceeded maximum size"
  | .fractional => "Input should be a valid integer, got a number with a fractional part"
  | .notFinite => "Input should be a finite number"
  | .below least =>
    "Input should be greater than or equal to " ++ toString least
  | .notFlag => "Input should be a valid boolean"
  | .unreadableFlag => "Input should be a valid boolean, unable to interpret input"
  | .frozen => "Instance is frozen"
  | .noSuchField name => "Object has no attribute '" ++ name ++ "'"

end IssueKind

/-- One thing wrong with data: where, what, and the value found there. -/
structure Issue where
  path : List PathStep
  kind : IssueKind
  input : Json
  deriving Repr

/-- An issue with a part of a value, seen from the value. -/
def Issue.inside (step : PathStep) (issue : Issue) : Issue :=
  { issue with path := step :: issue.path }

/-- All that is wrong with data for a model. -/
structure Report where
  model : String
  issues : List Issue
  deriving Repr

/-- Whether a name is private: it names no field, and what is assigned to it is no part of the
data. -/
def isPrivateName (name : String) : Bool :=
  "_".toList.isPrefixOf name.toList

/-- Whether a private name is one of those under which an object keeps what it is made of and how
it is assigned to: they stand between pairs of low lines, such as `__dict__` and `__class__`. What
comes of assigning to these is left out. -/
def isInnerName (name : String) : Bool :=
  "__".toList.isPrefixOf name.toList && "__".toList.isSuffixOf name.toList && 4 < name.length ||
    name = "_setattr_handler"

/-- A step of a path in a text. A name with a point in it is set apart. -/
def PathStep.text : PathStep → String
  | .name label => if label.toList.contains '.' then "`" ++ label ++ "`" else label
  | .index position => toString position

/-! ## Values cut to length -/

/-- The longest beginning of a text of at most so many bytes. -/
def takeBytes : (bytes : Nat) → List Char → List Char
  | _, [] => []
  | bytes, c :: rest =>
    if c.utf8Size ≤ bytes then c :: takeBytes (bytes - c.utf8Size) rest else []

/-- A value in a text of at most fifty bytes: a longer one is cut in the middle. -/
def shortDisplay (value : Json) : String :=
  let text := value.display
  if text.utf8ByteSize ≤ 50 then text
  else
    let chars := text.toList
    String.ofList (takeBytes 25 chars) ++ "..." ++
      String.ofList (takeBytes 24 chars.reverse).reverse

namespace Report

/-- How many issues there are with which model. -/
def summary (report : Report) : String :=
  toString report.issues.length ++
    (if report.issues.length = 1 then " validation error for " else " validation errors for ") ++
    report.model

/-- The paragraph of an issue: its path, if it has one, and what is wrong. -/
def paragraph (issue : Issue) : List String :=
  (if issue.path.isEmpty then []
    else [String.intercalate "." (issue.path.map PathStep.text)]) ++
  ["  " ++ issue.kind.message ++ " [type=" ++ issue.kind.code ++ ", input_value=" ++
    shortDisplay issue.input ++ ", input_type=" ++ issue.input.typeWord ++ "]"]

/-- The summary and a paragraph per issue. -/
def text (report : Report) : String :=
  String.intercalate "\n" (report.summary :: report.issues.flatMap paragraph)

end Report

end Dialogue
