import Dialogue.Compile.Log
import Dialogue.Disk.Basic
import Dialogue.Graph.Format
import Dialogue.Json.Reader
import Dialogue.Json.Writer
import Dialogue.Validation.Issue

/-!
# Scripts and graphs on a disk

Scripts are read from text files, graphs are stored in JSON files and read back, singly
or a whole folder at a time. Everything that can go wrong on the way is a `Failure`. A
failure leaves the disk as it was, with one exception: storing a graph may fail when a part
of it is written already.

What files and names hold is text, so all that is stored can be encoded. A file can name
what is no text, by an escape for half of a surrogate pair; this has a failure of its own,
`Failure.isUnmodelled`, and nothing is said here about what such a file is good for.
-/

namespace Dialogue

open Text

/-- Why something could not be done with files. -/
inductive Failure where
  /-- A path cannot be used. -/
  | access (path : Path) (error : PathError)
  /-- A file is no text. -/
  | encoding (fault : Utf8.Fault)
  /-- A text is no JSON. -/
  | json (error : Json.Error)
  /-- A value is no stored graph. -/
  | format (error : FormatError)
  /-- A value gives no settings. -/
  | settings (report : Report)
  /-- A path has no name to put a suffix on. -/
  | noName (path : Path)
  /-- A script cannot be compiled. -/
  | compile (fault : Fault)

/-- Whether a failure says that a file is left out here. What would become of it is not known. -/
def Failure.isUnmodelled : Failure → Bool
  | .json error => error.verdict = .unmodelled
  | _ => false

/-- A failure as messages give it. -/
def Failure.message : Failure → String
  | .access path error => error.message path
  | .encoding fault => fault.message
  | .json error => error.message
  | .format error => error.message
  | .settings report => report.text
  | .noName path => "PosixPath(" ++ quote path.text ++ ") has an empty name"
  | .compile .unfinishedCommand => "string index out of range"
  | .compile .emptyTag => "1 validation error for DialogueNode"

namespace Disk

/-! ## Reading -/

/-- The text of bytes, with uniform line breaks. -/
def textOf (bytes : Utf8.Bytes) : Except Failure (List Char) :=
  match Utf8.decode bytes with
  | .ok text => .ok (uniformBreaks text)
  | .error fault => .error (.encoding fault)

/-- The bytes of a file. -/
def readBytes (disk : Disk) (path : Path) : Except Failure Utf8.Bytes :=
  match disk.read path with
  | .ok bytes => .ok bytes
  | .error error => .error (.access path error)

/-- The script in a file. A byte order mark in front is not part of it. -/
def readScript (disk : Disk) (path : Path) : Except Failure String := do
  let bytes ← disk.readBytes path
  let text ← textOf (Utf8.dropByteOrderMark bytes)
  return String.ofList text

/-- How many arrays and objects may be open at once in a file that is read. The number is that of a
plain start of the program; a stored graph opens five. -/
def maxNesting : Nat := 985

/-- The JSON value in a file. -/
def readJson (disk : Disk) (path : Path) : Except Failure Json := do
  let bytes ← disk.readBytes path
  let text ← textOf bytes
  match Json.read maxNesting text with
  | .ok value => .ok value
  | .error error => .error (.json error)

/-- A text that is not JSON is not a stored graph either. -/
def asFormatError (source : String) : Failure → Failure
  | .json error =>
    if error.verdict = .malformed then
      .format ⟨some source, "invalid JSON: " ++ error.message⟩
    else .json error
  | failure => failure

/-- The graph stored in a file. -/
def loadGraph (disk : Disk) (path : Path) : Except Failure Graph :=
  match disk.readJson path with
  | .error failure => .error (asFormatError path.text failure)
  | .ok value =>
    match Graph.ofRecord (some path.text) value with
    | .ok graph => .ok graph
    | .error error => .error (.format error)

/-! ## Writing -/

/-- The text under which a graph is stored. -/
def graphText (graph : Graph) (id : Option String) : String :=
  (graph.toRecord id).pretty

/-- The identifier under which a graph is stored at a path: the given one, or the stem of the
file's name if none is given or an empty one. -/
def storedId (path : Path) (id : Option String) : String :=
  match id with
  | some id => if id = "" then path.stem else id
  | none => path.stem

/-- The bytes with which a graph is stored at a path. -/
def graphBytes (graph : Graph) (path : Path) (id : Option String) : Utf8.Bytes :=
  Utf8.encode (graphText graph (some (storedId path id))).toList

/-- Store a graph in a file: the disk after that, and what went wrong. -/
def saveGraph (disk : Disk) (graph : Graph) (path : Path) (id : Option String) :
    Disk × Except Failure Unit :=
  let (changed, written) := disk.write path (graphBytes graph path id)
  (changed, written.mapError (.access path))

/-! ## Compiling -/

/-- Compile the script in a file under the eyes of an observer. -/
def compileScript {σ : Type} (observer : Observer σ) (state : σ) (disk : Disk)
    (config : Config) (path : Path) : σ × Except Failure Graph :=
  match disk.readScript path with
  | .error failure => (state, .error failure)
  | .ok script =>
    match Run.compile observer config state (scriptLines script) with
    | (run, .ok graph) => (run.state, .ok graph)
    | (run, .error fault) => (run.state, .error (.compile fault))

/-- Compile the script in a file. -/
def compileFile (disk : Disk) (config : Config) (path : Path) : Except Failure Graph :=
  (compileScript .silent () disk config path).2

/-- The log line about a compiled file. -/
def compiledLine (source : LogSource) (input output : Path) (graph : Graph) : LogLine :=
  ⟨.info, source, "Compiled " ++ input.text ++ " -> " ++ output.text ++ " (" ++
    toString graph.nodes.length ++ " nodes)"⟩

/-- Where the graph of a script is stored if nothing else is asked for: beside the script. -/
def defaultOutput (input : Path) : Except Failure Path :=
  match input.withSuffix? ".json" with
  | some output => .ok output
  | none => .error (.noName input)

/-- Where the graph of a script goes: to the given path, or beside the script. -/
def placeOf (input : Path) : Option Path → Except Failure Path
  | some output => .ok output
  | none => defaultOutput input

/-- Compile the script in a file and store its graph: the disk after that, and the path of the
graph with a log line about it, or what went wrong. -/
def compileToFile (disk : Disk) (config : Config) (input : Path) (output : Option Path) :
    Disk × Except Failure (Path × LogLine) :=
  let compiled : Except Failure (Path × Graph) := do
    let place ← placeOf input output
    let graph ← disk.compileFile config input
    return (place, graph)
  match compiled with
  | .error failure => (disk, .error failure)
  | .ok (place, graph) =>
    let (changed, saved) := disk.saveGraph graph place (some input.stem)
    (changed, saved.map fun _ => (place, compiledLine .graphFiles input place graph))

/-! ## Folders -/

/-- Graphs with one more under a name: a name that occurred before keeps its place and takes
the new graph. -/
def addGraph (graphs : List (String × Graph)) (name : String) (graph : Graph) :
    List (String × Graph) :=
  if graphs.any fun entry => entry.1 = name then
    graphs.map fun entry => if entry.1 = name then (name, graph) else entry
  else graphs ++ [(name, graph)]

/-- The paths of the graph files in a folder, sorted. -/
def graphPaths (disk : Disk) (folder : Path) : List Path :=
  match disk.locate folder with
  | .error _ => []
  | .ok location =>
    let names := (disk.namesIn location).filter fun name => ".json".toList.isSuffixOf name.toList
    (names.mergeSort fun left right => left ≤ right).map folder.child

/-- Load graph files in order. A file that cannot be opened or holds no graph is skipped with a
line in the log; a file that is no text ends the loading. -/
def loadGraphs (disk : Disk) (log : List LogLine) (graphs : List (String × Graph)) :
    List Path → List LogLine × Except Failure (List (String × Graph))
  | [] => (log, .ok graphs)
  | path :: rest =>
    match disk.loadGraph path with
    | .ok graph => disk.loadGraphs log (addGraph graphs path.stem graph) rest
    | .error (.format error) =>
      let line : LogLine := ⟨.error, .graphFiles,
        "Validation error in " ++ path.text ++ ": " ++ error.message⟩
      disk.loadGraphs (log ++ [line]) graphs rest
    | .error (.access failing error) =>
      let line : LogLine := ⟨.error, .graphFiles,
        "Failed to load " ++ path.text ++ ": " ++ error.message failing⟩
      disk.loadGraphs (log ++ [line]) graphs rest
    | .error failure => (log, .error failure)

/-- Load all graph files in a folder, under the stems of their names. -/
def loadFolder (disk : Disk) (folder : Path) :
    List LogLine × Except Failure (List (String × Graph)) :=
  match disk.leadsAnywhere folder with
  | .error error => ([], .error (.access folder error))
  | .ok false =>
    ([⟨.warning, .graphFiles, "Graph directory not found: " ++ folder.text⟩], .ok [])
  | .ok true =>
    match disk.loadGraphs [] [] (disk.graphPaths folder) with
    | (log, .error failure) => (log, .error failure)
    | (log, .ok graphs) =>
      let line : LogLine := ⟨.info, .graphFiles,
        "Loaded " ++ toString graphs.length ++ " dialogue graphs from " ++ folder.text⟩
      (log ++ [line], .ok graphs)

end Disk

end Dialogue
