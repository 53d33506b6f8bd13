import Dialogue.Disk.Path
import Dialogue.Text.Quoted
import Dialogue.Text.Utf8

/-!
# Disks

A disk holds files and folders, seen from a working folder. Reading and writing follow a
path name by name, and fail if it leads nowhere, through a file, or to a folder. Names and
paths have a greatest length, which is noticed when the disk is asked for them. Nothing is
known of the names of the folders above the working folder; they are reached only by going
up.

There may be too little room for what is written to a file. This is noticed only when the
file has been emptied and as much has been written as there is room for, so that a write
that fails can leave a file behind that is not what it was.

Some of what disks have is left out. There are no links, and names that differ in a letter or
its case differ, so that every file lies at one place. Nobody is refused a file or a folder;
there are files and folders and nothing else, no devices or pipes. Names are texts: those
whose bytes are not UTF-8 have no place here.
-/

namespace Dialogue

open Text.Utf8 (Bytes)

/-- Where something lies: the steps up from the working folder, if any, then the names of the
folders down to it, and its own. -/
abbrev Location := List String

/-- Files with their contents, and folders. -/
structure Disk where
  files : List (Location × Bytes)
  folders : List Location
  /-- How many bytes there is room for when a file is written; without a number, for all. -/
  room : Option Nat := none
  deriving Repr

/-- Why a path cannot be used, or not to the end. -/
inductive PathError where
  | notFound
  | notFolder
  | isFolder
  | tooLong
  /-- A NUL character ends every path, so none has one inside. -/
  | hasNul
  /-- What is written does not fit. -/
  | noSpace
  deriving DecidableEq, Repr

/-- What lies at a location. -/
inductive Entry where
  | file (bytes : Bytes)
  | folder
  deriving DecidableEq, Repr

namespace Disk

/-- A disk with nothing on it. -/
def empty : Disk := { files := [], folders := [] }

/-- Where paths begin: in the working folder, or at a root. -/
def base (root : String) : Location :=
  if root = "" then [] else [root]

/-- The working folder and the folders above it. -/
def isAncestor (location : Location) : Bool :=
  location.all (· = "..")

/-- The folders that every disk has: the working folder, those above it, and the roots. -/
def isBase (location : Location) : Bool :=
  isAncestor location || location = ["/"] || location = ["//"]

/-- The folder above a location; a root is above itself. -/
def above (location : Location) : Location :=
  if isAncestor location then ".." :: location
  else if isBase location then location
  else location.dropLast

/-- What lies at a location, if anything. -/
def entry? (disk : Disk) (location : Location) : Option Entry :=
  if isBase location || disk.folders.contains location then some .folder
  else ((disk.files.find? fun file => file.1 = location).map (·.2)).map .file

/-- The largest number of bytes of a name. -/
def maxNameBytes : Nat := 255

/-- The largest number of bytes of a path. -/
def maxPathBytes : Nat := 4095

/-- The location that names lead to from a folder. All but the last must be folders; the last
need not exist. -/
def walk (disk : Disk) (folder : Location) : List String → Except PathError Location
  | [] => .ok folder
  | name :: rest =>
    if name = ".." then disk.walk (above folder) rest
    else if maxNameBytes < name.utf8ByteSize then .error .tooLong
    else if rest.isEmpty then .ok (folder ++ [name])
    else
      match disk.entry? (folder ++ [name]) with
      | some .folder => disk.walk (folder ++ [name]) rest
      | some (.file _) => .error .notFolder
      | none => .error .notFound

/-- The location of a path. -/
def locate (disk : Disk) (path : Path) : Except PathError Location :=
  if path.text.toList.contains '\x00' then .error .hasNul
  else if maxPathBytes < path.text.utf8ByteSize then .error .tooLong
  else disk.walk (base path.root) path.names

/-- Whether a path leads to anything. What is too long to be asked for is left undecided. -/
def leadsAnywhere (disk : Disk) (path : Path) : Except PathError Bool :=
  match disk.locate path with
  | .ok location => .ok (disk.entry? location).isSome
  | .error .tooLong => .error .tooLong
  | .error _ => .ok false

/-- The bytes of the file that a path leads to. -/
def read (disk : Disk) (path : Path) : Except PathError Bytes :=
  match disk.locate path with
  | .error error => .error error
  | .ok location =>
    match disk.entry? location with
    | some (.file bytes) => .ok bytes
    | some .folder => .error .isFolder
    | none => .error .notFound

/-- The disk with other bytes in the file at a location. -/
def setFile (disk : Disk) (location : Location) (bytes : Bytes) : Disk :=
  { disk with
    files :=
      if disk.files.any fun file => file.1 = location then
        disk.files.map fun file => if file.1 = location then (location, bytes) else file
      else disk.files ++ [(location, bytes)] }

/-- Whether there is room for all of the given bytes. -/
def hasRoom (disk : Disk) (bytes : Bytes) : Bool :=
  disk.room.all (bytes.length ≤ ·)

/-- As many of the given bytes as there is room for. -/
def fitting (disk : Disk) (bytes : Bytes) : Bytes :=
  match disk.room with
  | some room => bytes.take room
  | none => bytes

/-- What there is room for is written as it is. -/
theorem fitting_of_hasRoom {disk : Disk} {bytes : Bytes} (fits : disk.hasRoom bytes = true) :
    disk.fitting bytes = bytes := by
  unfold hasRoom at fits
  unfold fitting
  split
  next room room_eq => exact List.take_of_length_le (by simpa [room_eq] using fits)
  next => rfl

/-- Write bytes to the file that a path leads to: the disk after that, and what went wrong. The
file is made if it does not exist, but not the folder that it is to lie in. -/
def write (disk : Disk) (path : Path) (bytes : Bytes) : Disk × Except PathError Unit :=
  match disk.locate path with
  | .error error => (disk, .error error)
  | .ok location =>
    match disk.entry? location with
    | some .folder => (disk, .error .isFolder)
    | _ =>
      (disk.setFile location (disk.fitting bytes),
        if disk.hasRoom bytes then .ok () else .error .noSpace)

/-- The disk with a folder and all folders above it. -/
def makeFolders (disk : Disk) (folder : Location) : List String → Disk
  | [] => disk
  | name :: rest =>
    if name = ".." then disk.makeFolders (above folder) rest
    else
      let inner := folder ++ [name]
      let disk :=
        if disk.folders.contains inner then disk
        else { disk with folders := disk.folders ++ [inner] }
      disk.makeFolders inner rest

/-- Write bytes to a file, with all folders above it. -/
def place (disk : Disk) (path : Path) (bytes : Bytes) : Disk × Except PathError Unit :=
  (disk.makeFolders (base path.root) path.names.dropLast).write path bytes

/-- The names of what lies in the folder at a location. -/
def namesIn (disk : Disk) (folder : Location) : List String :=
  (disk.files.map (·.1) ++ disk.folders).filterMap fun location =>
    if !isBase location && location.dropLast = folder then location.getLast? else none

end Disk

/-- A path that cannot be used, as messages give it. -/
def PathError.message (error : PathError) (path : Path) : String :=
  let about (reason : String) := reason ++ ": " ++ Text.quote path.text
  match error with
  | .notFound => about "[Errno 2] No such file or directory"
  | .notFolder => about "[Errno 20] Not a directory"
  | .isFolder => about "[Errno 21] Is a directory"
  | .tooLong => about "[Errno 36] File name too long"
  | .hasNul => "embedded null byte"
  | .noSpace => "[Errno 28] No space left on device"

end Dialogue
