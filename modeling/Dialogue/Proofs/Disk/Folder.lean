import Dialogue.Proofs.Disk.Listing

/-!
# Loading a folder

The graph files of a folder are loaded in the order of their names. A file that holds no
graph, or cannot be opened, costs a line in the log and nothing else. A file that is
no text ends the loading, and so does one whose JSON goes beyond what is read. What is
loaded until then is thrown away. Of a folder with a file that names what is no text
nothing is said, unless the loading ends before it gets there.
-/

namespace Dialogue

open Text

namespace Disk

variable {disk : Disk} {folder path : Path} {location : Location} {name : String}
  {before behind : List Path} {failure : Failure} {graphs : List (String × Graph)}

/-! ## One file -/

/-- A file that ends the loading: its bytes are no text, or its text is JSON with a number too
long or with values too deep inside each other. -/
inductive Unread (disk : Disk) (path : Path) : Failure → Prop where
  | encoding {bytes : Utf8.Bytes} {fault : Utf8.Fault} (read : disk.read path = .ok bytes)
    (undecoded : Utf8.decode bytes = .error fault) : Unread disk path (.encoding fault)
  | limit {bytes : Utf8.Bytes} {text : List Char} {error : Json.Error}
    (read : disk.read path = .ok bytes) (decoded : Utf8.decode bytes = .ok text)
    (failed : Json.read maxNesting (uniformBreaks text) = .error error)
    (beyond : error.verdict = .beyond) : Unread disk path (.json error)

/-- A file that is left out: its text names what is no text. -/
def IsUnmodelled (disk : Disk) (path : Path) : Prop :=
  ∃ bytes text error, disk.read path = .ok bytes ∧ Utf8.decode bytes = .ok text ∧
    Json.read maxNesting (uniformBreaks text) = .error error ∧ error.verdict = .unmodelled

/-- A path that does not end the loading, and to a file that is not left out. -/
structure Passes (disk : Disk) (path : Path) : Prop where
  read : ∀ failure, ¬disk.Unread path failure
  modelled : ¬disk.IsUnmodelled path

/-- The line about a file that is skipped. -/
def skipLine? (disk : Disk) (path : Path) : Option LogLine :=
  match disk.loadGraph path with
  | .error (.format error) => some ⟨.error, .graphFiles,
      "Validation error in " ++ path.text ++ ": " ++ error.message⟩
  | .error (.access failing error) => some ⟨.error, .graphFiles,
      "Failed to load " ++ path.text ++ ": " ++ error.message failing⟩
  | _ => none

/-- The graph in a file, under the stem of the file's name. -/
def entryOf? (disk : Disk) (path : Path) : Option (String × Graph) :=
  match disk.loadGraph path with
  | .ok graph => some (path.stem, graph)
  | .error _ => none

/-- A file is loaded in four steps, and what goes wrong is told by the first that fails. -/
theorem loadGraph_eq (disk : Disk) (path : Path) :
    disk.loadGraph path =
      match disk.read path with
      | .error error => .error (.access path error)
      | .ok bytes =>
        match Utf8.decode bytes with
        | .error fault => .error (.encoding fault)
        | .ok text =>
          match Json.read maxNesting (uniformBreaks text) with
          | .error error => .error (asFormatError path.text (.json error))
          | .ok value =>
            match Graph.ofRecord (some path.text) value with
            | .ok graph => .ok graph
            | .error error => .error (.format error) := by
  rw [loadGraph, readJson, readBytes]
  cases disk.read path with
  | error error => rfl
  | ok bytes =>
    simp only [bind, Except.bind, textOf]
    cases Utf8.decode bytes with
    | error fault => rfl
    | ok text =>
      simp only
      cases Json.read maxNesting (uniformBreaks text) <;> rfl

theorem Unread.loadGraph_eq (unread : disk.Unread path failure) :
    disk.loadGraph path = .error failure := by
  rw [Disk.loadGraph_eq]
  cases unread with
  | encoding read undecoded => simp only [read, undecoded]
  | limit read decoded failed beyond =>
    simp only [read, decoded, failed, asFormatError, beyond, reduceCtorEq, if_false]

theorem IsUnmodelled.exists_failure (unmodelled : disk.IsUnmodelled path) :
    ∃ error, disk.loadGraph path = .error (.json error) := by
  obtain ⟨bytes, text, error, read, decoded, failed, verdict⟩ := unmodelled
  refine ⟨error, ?_⟩
  rw [Disk.loadGraph_eq]
  simp only [read, decoded, failed, asFormatError, verdict, reduceCtorEq, if_false]

/-- A file is loaded, skipped with a line, ends the loading, or is left out. -/
theorem loadGraph_cases (disk : Disk) (path : Path) :
    (∃ graph, disk.loadGraph path = .ok graph) ∨ (disk.skipLine? path).isSome ∨
      (∃ failure, disk.Unread path failure) ∨ disk.IsUnmodelled path := by
  rw [skipLine?, loadGraph_eq]
  cases read : disk.read path with
  | error error => exact .inr (.inl rfl)
  | ok bytes =>
    simp only
    cases decoded : Utf8.decode bytes with
    | error fault => exact .inr (.inr (.inl ⟨_, .encoding read decoded⟩))
    | ok text =>
      simp only
      cases value_eq : Json.read maxNesting (uniformBreaks text) with
      | error error =>
        cases verdict : error.verdict with
        | malformed =>
          simp only [asFormatError, verdict, if_true]
          exact .inr (.inl rfl)
        | beyond => exact .inr (.inr (.inl ⟨_, .limit read decoded value_eq verdict⟩))
        | unmodelled =>
          exact .inr (.inr (.inr ⟨bytes, text, error, read, decoded, value_eq, verdict⟩))
      | ok value =>
        simp only
        cases Graph.ofRecord (some path.text) value with
        | error error => exact .inr (.inl rfl)
        | ok graph => exact .inl ⟨graph, rfl⟩

/-- The loading is not ended by a file that is loaded or skipped. -/
theorem passes_iff :
    disk.Passes path ↔
      (∃ graph, disk.loadGraph path = .ok graph) ∨ (disk.skipLine? path).isSome := by
  constructor
  · intro passes
    rcases disk.loadGraph_cases path with loaded | skipped | ⟨failure, unread⟩ | unmodelled
    · exact .inl loaded
    · exact .inr skipped
    · exact absurd unread (passes.read failure)
    · exact absurd unmodelled passes.modelled
  · intro known
    rw [skipLine?] at known
    constructor
    · intro failure unread
      rw [unread.loadGraph_eq] at known
      cases unread <;> simp at known
    · intro unmodelled
      obtain ⟨error, failed⟩ := unmodelled.exists_failure
      simp [failed] at known

theorem level_of_skipLine? {line : LogLine} (skipped : disk.skipLine? path = some line) :
    line.level = .error := by
  rw [skipLine?] at skipped
  split at skipped
  next => rw [← Option.some.inj skipped]
  next => rw [← Option.some.inj skipped]
  next => cases skipped

/-- A file that passes is either kept or skipped. -/
theorem Passes.isSome_skipLine?_iff (passes : disk.Passes path) :
    (disk.skipLine? path).isSome ↔ disk.entryOf? path = none := by
  rcases passes_iff.mp passes with ⟨graph, loaded⟩ | skipped
  · simp [entryOf?, skipLine?, loaded]
  · refine iff_of_true skipped ?_
    rw [skipLine?] at skipped
    rw [entryOf?]
    split at skipped
    next failed => rw [failed]
    next failed => rw [failed]
    next => cases skipped

/-! ## All files -/

/-- Graphs with more put to them under their names, one after the other. -/
def addGraphs (graphs entries : List (String × Graph)) : List (String × Graph) :=
  entries.foldl (fun graphs entry => addGraph graphs entry.1 entry.2) graphs

theorem addGraph_of_not_mem (fresh : name ∉ graphs.map (·.1)) (graph : Graph) :
    addGraph graphs name graph = graphs ++ [(name, graph)] := by
  rw [addGraph, any_name_of_not_mem fresh, if_neg Bool.false_ne_true]

/-- Graphs with different names are all kept in order. -/
theorem addGraphs_of_nodup {entries : List (String × Graph)}
    (distinct : ((graphs ++ entries).map (·.1)).Nodup) :
    addGraphs graphs entries = graphs ++ entries := by
  induction entries generalizing graphs with
  | nil => exact (List.append_nil graphs).symm
  | cons entry entries ih =>
    have appended : ((graphs ++ [entry] ++ entries).map (·.1)).Nodup := by
      rwa [List.append_assoc]
    have rest := ih appended
    rw [addGraphs] at rest ⊢
    rw [List.foldl_cons, addGraph_of_not_mem (not_mem_of_nodup_names distinct), rest,
      List.append_assoc, List.singleton_append]

theorem loadGraphs_cons (passes : disk.Passes path) (log : List LogLine)
    (graphs : List (String × Graph)) (rest : List Path) :
    disk.loadGraphs log graphs (path :: rest) =
      disk.loadGraphs (log ++ (disk.skipLine? path).toList)
        (addGraphs graphs (disk.entryOf? path).toList) rest := by
  have known := passes_iff.mp passes
  rw [skipLine?] at known
  rw [loadGraphs, entryOf?, skipLine?]
  cases loaded : disk.loadGraph path with
  | ok graph => simp [addGraphs]
  | error failure =>
    cases failure with
    | format error => rfl
    | access failing error => rfl
    | _ => simp [loaded] at known

/-- Files that pass are loaded or skipped one after the other, by induction on them. -/
theorem loadGraphs_append (passes : ∀ path ∈ before, disk.Passes path) (log : List LogLine)
    (graphs : List (String × Graph)) (rest : List Path) :
    disk.loadGraphs log graphs (before ++ rest) =
      disk.loadGraphs (log ++ before.filterMap disk.skipLine?)
        (addGraphs graphs (before.filterMap disk.entryOf?)) rest := by
  induction before generalizing log graphs with
  | nil => simp [addGraphs]
  | cons path before ih =>
    rw [List.cons_append, loadGraphs_cons (passes path List.mem_cons_self),
      ih fun later inside => passes later (List.mem_cons_of_mem _ inside)]
    cases line_eq : disk.skipLine? path <;> cases entry_eq : disk.entryOf? path <;>
      simp [line_eq, entry_eq, addGraphs]

theorem loadGraphs_of_unread (passes : ∀ path ∈ before, disk.Passes path)
    (unread : disk.Unread path failure) (behind : List Path) :
    disk.loadGraphs [] [] (before ++ path :: behind) =
      (before.filterMap disk.skipLine?, .error failure) := by
  rw [loadGraphs_append passes, List.nil_append, loadGraphs, unread.loadGraph_eq]
  cases unread <;> rfl

/-! ## The folder -/

/-- The line behind the loading of a folder. -/
def loadedLine (folder : Path) (count : Nat) : LogLine :=
  ⟨.info, .graphFiles,
    "Loaded " ++ toString count ++ " dialogue graphs from " ++ folder.text⟩

section Loading

variable (located : disk.locate folder = .ok location)
  (found : disk.entry? location = some .folder)
include located found

theorem leadsAnywhere_of_folder : disk.leadsAnywhere folder = .ok true := by
  rw [leadsAnywhere, located]
  simp only [found, Option.isSome_some]

theorem loadFolder_of_passes (passes : ∀ path ∈ disk.graphPaths folder, disk.Passes path) :
    ∃ graphs, disk.loadFolder folder =
        ((disk.graphPaths folder).filterMap disk.skipLine? ++ [loadedLine folder graphs.length],
          .ok graphs) ∧
      graphs = addGraphs [] ((disk.graphPaths folder).filterMap disk.entryOf?) := by
  have loading := loadGraphs_append passes [] [] []
  rw [List.append_nil, List.nil_append, loadGraphs] at loading
  refine ⟨_, ?_, rfl⟩
  rw [loadFolder, leadsAnywhere_of_folder located found]
  simp only [loading]
  rfl

theorem loadFolder_of_unread (cut : disk.graphPaths folder = before ++ path :: behind)
    (passes : ∀ earlier ∈ before, disk.Passes earlier) (unread : disk.Unread path failure) :
    disk.loadFolder folder = (before.filterMap disk.skipLine?, .error failure) := by
  rw [loadFolder, leadsAnywhere_of_folder located found, cut]
  simp only [loadGraphs_of_unread passes unread]

end Loading

/-- Two files of which the second would take the place of the first. -/
def BareClash (disk : Disk) (folder : Path) : Prop :=
  (disk.entryOf? (folder.child ".json")).isSome ∧ (disk.entryOf? (folder.child ".json.json")).isSome

theorem stem_of_entryOf? {entry : String × Graph} (kept : disk.entryOf? path = some entry) :
    entry.1 = path.stem := by
  rw [entryOf?] at kept
  split at kept
  next => rw [← Option.some.inj kept]
  next => cases kept

/-- The loaded graphs of a folder have different names. -/
theorem IsProper.nodup_entries (proper : disk.IsProper)
    (located : disk.locate folder = .ok location) (clear : ¬disk.BareClash folder) :
    (((disk.graphPaths folder).filterMap disk.entryOf?).map (·.1)).Nodup := by
  rw [List.Nodup, List.pairwise_map, List.pairwise_filterMap]
  refine (proper.pairwise_graphPaths folder).imp_of_mem ?_
  intro path path' member member' ordered entry kept entry' kept' same
  rw [stem_of_entryOf? kept, stem_of_entryOf? kept'] at same
  obtain ⟨name, json, -, rfl⟩ := (mem_graphPaths_iff located).mp member
  obtain ⟨name', json', -, rfl⟩ := (mem_graphPaths_iff located).mp member'
  have first := Option.isSome_of_eq_some kept
  have second := Option.isSome_of_eq_some kept'
  rcases (Path.stem_eq_iff json json').mp same with rfl | ⟨rfl, rfl⟩ | ⟨rfl, rfl⟩
  · exact String.lt_irrefl _ ordered
  · exact clear ⟨first, second⟩
  · exact clear ⟨second, first⟩

/-- How a folder is loaded. Its graph files come in the order of their names, each of them once. As
long as no file ends the loading or is left out, each is either loaded or skipped with a line about
an error, and the result has the loaded graphs in this order under the stems of their names, the
log the lines in this order and one with the number of graphs. The first file that ends the loading
does so with its own failure, and no graph is loaded; the log has the lines up to there. -/
theorem loadFolder_of_folder (proper : disk.IsProper) (located : disk.locate folder = .ok location)
    (found : disk.entry? location = some .folder) :
    (∀ path, path ∈ disk.graphPaths folder ↔
      ∃ name, Path.IsGraphName name ∧ (disk.entry? (location ++ [name])).isSome ∧
        folder.child name = path) ∧
    ((disk.graphPaths folder).Pairwise fun path path' => path.name < path'.name) ∧
    (∀ path, disk.Passes path →
      ((disk.skipLine? path).isSome ↔ disk.entryOf? path = none)) ∧
    (∀ path line, disk.skipLine? path = some line → line.level = .error) ∧
    ((∀ path ∈ disk.graphPaths folder, disk.Passes path) →
      ∃ graphs, disk.loadFolder folder =
          ((disk.graphPaths folder).filterMap disk.skipLine? ++ [loadedLine folder graphs.length],
            .ok graphs) ∧
        graphs = addGraphs [] ((disk.graphPaths folder).filterMap disk.entryOf?) ∧
        (¬disk.BareClash folder → graphs = (disk.graphPaths folder).filterMap disk.entryOf?)) ∧
    ∀ before path behind failure, disk.graphPaths folder = before ++ path :: behind →
      (∀ earlier ∈ before, disk.Passes earlier) → disk.Unread path failure →
        disk.loadFolder folder = (before.filterMap disk.skipLine?, .error failure) := by
  refine ⟨?_, proper.pairwise_graphPaths folder, ?_, ?_, ?_, ?_⟩
  · intro path
    exact mem_graphPaths_iff located
  · intro path passes
    exact passes.isSome_skipLine?_iff
  · intro path line skipped
    exact level_of_skipLine? skipped
  · intro passes
    obtain ⟨graphs, loading, graphs_eq⟩ := loadFolder_of_passes located found passes
    refine ⟨graphs, loading, graphs_eq, ?_⟩
    intro clear
    rw [graphs_eq]
    exact addGraphs_of_nodup (proper.nodup_entries located clear)
  · intro before path behind failure cut passes unread
    exact loadFolder_of_unread located found cut passes unread

/-- A folder with two graph files. -/
def pairDisk (first second : Utf8.Bytes) : Disk :=
  { files := [(["d", "a.json"], first), (["d", "b.json"], second)], folders := [["d"]] }

theorem graphPaths_pair (first second : Utf8.Bytes) :
    (pairDisk first second).graphPaths (.ofText "d") =
      [.ofText "d/a.json", .ofText "d/b.json"] := by
  have names : (pairDisk first second).namesIn ["d"] = ["a.json", "b.json"] := rfl
  have located : (pairDisk first second).locate (.ofText "d") = .ok ["d"] := rfl
  have json : (["a.json", "b.json"].filter fun name => ".json".toList.isSuffixOf name.toList) =
      ["a.json", "b.json"] := by decide
  rw [graphPaths, located]
  simp only [names, json]
  rw [List.mergeSort_of_pairwise (by decide)]
  rfl

theorem loadGraph_pair_second (first : Utf8.Bytes) :
    (pairDisk first (Utf8.encode (graphText innGraph none).toList)).loadGraph
      (.ofText "d/b.json") = .ok innGraph := by
  have read (bytes : Utf8.Bytes) :
      (pairDisk first bytes).read (.ofText "d/b.json") = .ok bytes := rfl
  exact loadGraph_of_read (read _)

/-- The line about an empty file. -/
def emptyLine : LogLine :=
  ⟨.error, .graphFiles, "Validation error in d/a.json: d/a.json: invalid JSON: " ++
    "Expecting value: line 1 column 1 (char 0)"⟩

theorem skipLine?_pair_empty (second : Utf8.Bytes) :
    (pairDisk [] second).skipLine? (.ofText "d/a.json") = some emptyLine := by
  have read : (pairDisk [] second).read (.ofText "d/a.json") = .ok [] := rfl
  have decoded : Utf8.decode [] = .ok [] := Utf8.decode_encode []
  rw [skipLine?, loadGraph_eq, read]
  simp only [decoded]
  rfl

theorem loadFolder_of_folder_pair :
    (pairDisk [] (Utf8.encode (graphText innGraph none).toList)).loadFolder (.ofText "d") =
      ([emptyLine, loadedLine (.ofText "d") 1], .ok [("b", innGraph)]) := by
  -- The bytes of the second file are a variable, so that nothing evaluates them.
  have result (second : Utf8.Bytes)
      (loaded : (pairDisk [] second).loadGraph (.ofText "d/b.json") = .ok innGraph) :
      (pairDisk [] second).loadFolder (.ofText "d") =
        ([emptyLine, loadedLine (.ofText "d") 1], .ok [("b", innGraph)]) := by
    have proper : (pairDisk [] second).IsProper := by
      show ([["d", "a.json"], ["d", "b.json"], ["d"]] : List Location).Nodup
      decide
    have located : (pairDisk [] second).locate (.ofText "d") = .ok ["d"] := rfl
    have line := skipLine?_pair_empty second
    have passes : ∀ path ∈ (pairDisk [] second).graphPaths (.ofText "d"),
        (pairDisk [] second).Passes path := by
      rw [graphPaths_pair]
      simp [passes_iff, loaded, line]
    have clear : ¬(pairDisk [] second).BareClash (.ofText "d") := by
      rintro ⟨bare, -⟩
      cases bare
    obtain ⟨graphs, loading, -, graphs_eq⟩ :=
      (loadFolder_of_folder proper located rfl).2.2.2.2.1 passes
    have skipped : (pairDisk [] second).entryOf? (.ofText "d/a.json") = none :=
      (passes _ (by rw [graphPaths_pair]; exact List.mem_cons_self)).isSome_skipLine?_iff.mp
        (Option.isSome_of_eq_some line)
    have kept : (pairDisk [] second).entryOf? (.ofText "d/b.json") = some ("b", innGraph) := by
      rw [entryOf?, loaded]
      rfl
    have quiet : (pairDisk [] second).skipLine? (.ofText "d/b.json") = none := by
      rw [skipLine?, loaded]
    rw [graphs_eq clear, graphPaths_pair] at loading
    simpa [skipped, kept, line, quiet] using loading
  exact result _ (loadGraph_pair_second _)

/-- A file that is no text ends the loading, and the graph in the other file is lost. -/
theorem loadFolder_undecodable :
    (pairDisk [0xFF] (Utf8.encode (graphText innGraph none).toList)).loadGraph
        (.ofText "d/b.json") = .ok innGraph ∧
      (pairDisk [0xFF] (Utf8.encode (graphText innGraph none).toList)).loadFolder (.ofText "d") =
        ([], .error (.encoding ⟨0, 0xFF, 1, .startByte⟩)) := by
  let second := Utf8.encode (graphText innGraph none).toList
  have unread : (pairDisk [0xFF] second).Unread (.ofText "d/a.json")
      (.encoding ⟨0, 0xFF, 1, .startByte⟩) := by
    have read : (pairDisk [0xFF] second).read (.ofText "d/a.json") = .ok [0xFF] := rfl
    have undecoded : Utf8.decode [0xFF] = .error ⟨0, 0xFF, 1, .startByte⟩ := by
      simp [Utf8.decode, Utf8.decodeFrom, Utf8.followers?]
    exact .encoding read undecoded
  have cut : (pairDisk [0xFF] second).graphPaths (.ofText "d") =
      [] ++ .ofText "d/a.json" :: [.ofText "d/b.json"] := graphPaths_pair _ _
  have located : (pairDisk [0xFF] second).locate (.ofText "d") = .ok ["d"] := rfl
  refine ⟨loadGraph_pair_second _, ?_⟩
  exact loadFolder_of_unread located rfl cut (by simp) unread

end Disk

end Dialogue
