import Dialogue.Graph.Record
import Dialogue.Json.Display

/-!
# Complaints about stored graphs

A value that is not a stored graph is refused with one complaint: the one nearest to the
top of the value, and among those the one that comes last in it. Complaints are gathered
by checks, which are built like the form itself and look at one value each.
-/

namespace Dialogue

/-- A step into a value. -/
inductive PathStep where
  | name (name : String)
  | index (index : Nat)
  deriving DecidableEq, Repr

namespace PathStep

/-- The order of steps from the same value: names by code points, positions by number. -/
def before : PathStep → PathStep → Bool
  | .name left, .name right => left < right
  | .index left, .index right => left < right
  | .index _, .name _ => true
  | .name _, .index _ => false

end PathStep

/-- The order of paths: by the first step in which they differ. -/
def pathBefore : List PathStep → List PathStep → Bool
  | [], [] => false
  | [], _ :: _ => true
  | _ :: _, [] => false
  | left :: lefts, right :: rights =>
    if left = right then pathBefore lefts rights else left.before right

/-- Something wrong with a value, and where in it. -/
structure Complaint where
  path : List PathStep
  message : String
  deriving DecidableEq, Repr

namespace Complaint

/-- Whether the second complaint is to be reported rather than the first: it is nearer to the
top, or as near and later. -/
def yieldsTo (first second : Complaint) : Bool :=
  second.path.length < first.path.length ||
    (second.path.length = first.path.length && pathBefore first.path second.path)

/-- The complaint to report: of several that no other precedes, the first. -/
def worst? : List Complaint → Option Complaint
  | [] => none
  | first :: rest =>
    some (rest.foldl (fun best next => if best.yieldsTo next then next else best) first)

/-- A complaint about a part of a value, seen from the value. -/
def inside (step : PathStep) (complaint : Complaint) : Complaint :=
  { complaint with path := step :: complaint.path }

end Complaint

/-! ## Checks -/

/-- A check looks at a value and complains about what is wrong with it. -/
abbrev Check := Json → List Complaint

namespace Check

/-- The complaint that a value is of none of the expected types. -/
def wrongType (value : Json) (types : List String) : Complaint :=
  ⟨[], value.display ++ " is not of type " ++
    String.intercalate ", " (types.map Text.quote)⟩

/-- A text. -/
def text : Check
  | .str _ => []
  | value => [wrongType value ["string"]]

/-- A text that is not empty. -/
def nonEmptyText : Check
  | .str text =>
    if text = "" then [⟨[], (Json.str text).display ++ " should be non-empty"⟩] else []
  | value => [wrongType value ["string"]]

/-- A text or null. -/
def nullableText : Check
  | .null => []
  | .str _ => []
  | value => [wrongType value ["string", "null"]]

/-- An array whose items pass a check. -/
def listOf (item : Check) : Check
  | .arr items =>
    items.zipIdx.flatMap fun entry => (item entry.1).map (.inside (.index entry.2))
  | value => [wrongType value ["array"]]

/-- Names between quotation marks, with a verb that fits their number. -/
def unexpectedNames (names : List String) : String :=
  String.intercalate ", " (names.map Text.quote) ++
    (if names.length = 1 then " was" else " were") ++ " unexpected"

/-- The complaint about members with other names than the expected ones, if there are any.
The names are sorted. -/
def extraMembers (names : List String) (members : List (String × Json)) : List Complaint :=
  let extra := (members.map (·.1)).filter fun name => !names.contains name
  if extra.isEmpty then []
  else
    [⟨[], "Additional properties are not allowed (" ++
      unexpectedNames (extra.mergeSort fun left right => left ≤ right) ++ ")"⟩]

/-- An object with a member that must be there and members that pass a check if they are
there. If it is closed there are no others. -/
def object (needed : String) (closed : Bool) (fields : List (String × Check)) : Check
  | .obj members =>
    (if (Json.lookup? needed members).isSome then []
      else [⟨[], Text.quote needed ++ " is a required property"⟩]) ++
    (if closed then extraMembers (fields.map (·.1)) members else []) ++
    fields.flatMap fun field =>
      match Json.lookup? field.1 members with
      | none => []
      | some value => (field.2 value).map (.inside (.name field.1))
  | value => [wrongType value ["object"]]

/-- The form of a command. -/
def command : Check :=
  object "name" true [("name", text), ("parameter", nullableText)]

/-- The form of a choice. -/
def choice : Check :=
  object "text" true [("text", text), ("target", nullableText)]

/-- The form of a node. -/
def node : Check :=
  object "tag" true
    [("tag", nonEmptyText), ("character", nullableText), ("text", text),
      ("commands", listOf command), ("choices", listOf choice)]

/-- The form of a graph. -/
def graph : Check :=
  object "nodes" false
    [("id", nullableText), ("start", nullableText), ("nodes", listOf node)]

end Check

/-- A value that is no stored graph, with the name of its source if it is known. -/
structure FormatError where
  source : Option String
  reason : String
  deriving DecidableEq, Repr

/-- The reason, with a source of some name in front. -/
def FormatError.message (error : FormatError) : String :=
  match error.source with
  | none => error.reason
  | some source => if source = "" then error.reason else source ++ ": " ++ error.reason

/-- The graph that a value stands for, or the complaint about it. -/
def Graph.ofRecord (source : Option String) (value : Json) : Except FormatError Graph :=
  match Graph.ofRecord? value with
  | some graph => .ok graph
  | none =>
    .error ⟨source, ((Complaint.worst? (Check.graph value)).map (·.message)).getD ""⟩

end Dialogue
