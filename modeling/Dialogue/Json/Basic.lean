import Dialogue.Number.Binary64

/-!
# JSON values

The value type of everything that is read from and written to JSON. Whole numbers and
floating point numbers are told apart, as they are in the text, and an object keeps its
members in the order in which their names first occurred.
-/

namespace Dialogue

open Number

/-- A JSON value. -/
inductive Json where
  | null
  | bool (value : Bool)
  | int (value : Int)
  | float (value : Binary64)
  | str (text : String)
  | arr (items : List Json)
  | obj (members : List (String × Json))
  deriving Inhabited, BEq, Repr

namespace Json

/-- The value of the first member with the given name. -/
def lookup? (name : String) : List (String × Json) → Option Json
  | [] => none
  | (other, value) :: rest => if other = name then some value else lookup? name rest

@[simp] theorem lookup?_nil (name : String) : lookup? name [] = none := rfl

/-- The member of an object with the given name. -/
def field? (name : String) : Json → Option Json
  | .obj members => lookup? name members
  | _ => none

/-- Members with one more: a name that occurred before keeps its place and takes the new
value. -/
def addMember (members : List (String × Json)) (name : String) (value : Json) :
    List (String × Json) :=
  if members.any fun member => member.1 = name then
    members.map fun member => if member.1 = name then (name, value) else member
  else members ++ [(name, value)]

@[simp] theorem lookup?_cons (name other : String) (value : Json)
    (rest : List (String × Json)) :
    lookup? name ((other, value) :: rest) =
      if other = name then some value else lookup? name rest := rfl

/-- The number that a value is, also one without a fraction; a truth value counts as one or
zero. -/
def toRat? : Json → Option Rat
  | .int value => some value
  | .float value => value.toRat?
  | .bool value => some (if value then 1 else 0)
  | _ => none

/-- A text, or null. -/
def ofText? : Option String → Json
  | some text => .str text
  | none => .null

end Json

end Dialogue
