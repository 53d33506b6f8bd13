/-!
# Paths

A path is a list of names. Slashes that do not separate anything and names that mean the
folder itself are left out when a path is read; the name of the folder above is kept,
since what it means depends on the disk. The last name of a path has a stem and a suffix.
-/

namespace Dialogue

/-- A path, from a root or from the working folder. -/
structure Path where
  /-- The slashes at the beginning: none, one, or the two of a root of its own. -/
  root : String
  names : List String
  deriving DecidableEq, Repr

namespace Path

/-- The parts of a text between slashes. -/
def splitSlashes : List Char → List (List Char)
  | [] => [[]]
  | c :: rest =>
    if c = '/' then [] :: splitSlashes rest
    else match splitSlashes rest with
      | [] => [[c]]
      | name :: names => (c :: name) :: names

/-- The root that a text begins with. -/
def rootOf (text : List Char) : String :=
  match (text.takeWhile (· = '/')).length with
  | 0 => ""
  | 2 => "//"
  | _ => "/"

/-- The path that a text means. -/
def ofText (text : String) : Path where
  root := rootOf text.toList
  names := ((splitSlashes text.toList).filter fun name => name ≠ [] && name ≠ ['.']).map
    String.ofList

/-- A path as a text; the working folder is a point. -/
def text (path : Path) : String :=
  if path.root = "" && path.names.isEmpty then "."
  else path.root ++ String.intercalate "/" path.names

/-- The path of something in a folder. -/
def child (path : Path) (name : String) : Path :=
  { path with names := path.names ++ [name] }

/-- The last name of a path, empty if it has none. -/
def name (path : Path) : String :=
  path.names.getLast?.getD ""

/-- A name in front of its last point, and the rest. Without a point inside the name there is
no rest. -/
def splitSuffix (name : List Char) : List Char × List Char :=
  match name.reverse.dropWhile (· != '.') with
  | [] => (name, [])
  | _ :: before =>
    let suffix := name.drop before.length
    if before.isEmpty || suffix.length ≤ 1 then (name, []) else (before.reverse, suffix)

/-- The last name without its suffix. -/
def stem (path : Path) : String :=
  String.ofList (splitSuffix path.name.toList).1

/-- The path with another suffix, if it has a name to put it on. -/
def withSuffix? (path : Path) (suffix : String) : Option Path :=
  if path.names.isEmpty then none
  else some { path with names := path.names.dropLast ++ [path.stem ++ suffix] }

end Path

end Dialogue
