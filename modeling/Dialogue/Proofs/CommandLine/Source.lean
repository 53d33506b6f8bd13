import Dialogue.Proofs.CommandLine.Agreement

/-!
# The script beside its graph

A graph that is put beside its script has the name of the script, with the suffix `.json` in place
of its own. The two names differ unless that is the suffix of the script too, and then they lead to
different places, wherever the folders on the way lead. So the script stays as it is, whatever
becomes of the write, unless it has the suffix of graphs: then it is the script that is written
over, with its graph or with as much of it as there is room for.
-/

namespace Dialogue

open Text

namespace Path

/-! ## Suffixes -/

/-- The suffix of the last name of a path, empty if it has none. -/
def suffix (path : Path) : String :=
  String.ofList (splitSuffix path.name.toList).2

variable {path output : Path}

end Path

namespace Disk

variable {disk changed : Disk} {folder place place' : Location} {front : List String}
  {name name' : String} {path other : Path} {bytes : Utf8.Bytes}

/-! ## Places apart -/

end Disk

/-! ## Compiles to a file beside the script -/

namespace Disk

variable {disk changed : Disk} {config : Config} {input place : Path} {graph : Graph}
  {failure : Failure} {result : Except Failure Unit}

theorem graphBytes_ne_nil (graph : Graph) (path : Path) (id : Option String) :
    graphBytes graph path id ≠ [] := by
  rw [graphBytes, graphText, Json.pretty, String.toList_ofList]
  intro empty
  cases empty

end Disk

namespace CommandLine

variable {disk changed left : Disk} {options : Options} {input output : Path} {graph : Graph}
  {failure : Failure}

/-- A disk with the same script twice, once under a name that is like the name of a graph. -/
def scriptsDisk (room : Option Nat) : Disk where
  files := [(["s.dlg"], Utf8.encode askScript.toList), (["x.json"], Utf8.encode askScript.toList)]
  folders := []
  room := room

theorem parse_script : parse ["x.json"] = .ok (.run { input := some "x.json" } "x.json") := rfl

theorem compileFile_scriptsDisk (room : Option Nat) :
    ∃ graph, (scriptsDisk room).compileFile default (.ofText "x.json") = .ok graph := by
  have held : (scriptsDisk room).HoldsScript (.ofText "x.json") askScript := .inl rfl
  obtain ⟨graph, -, compiled, -⟩ :=
    Disk.compile_of_readScript (held.readScript_eq (by decide)) default
  exact ⟨graph, compiled⟩

/-- If there is no room at all, nothing is left of the second script, although the run fails. -/
theorem script_cut : ∃ left ending,
    run (scriptsDisk (some 0)) ["x.json"] = (left, ending) ∧ ending.IsFailure ∧
      left.read (.ofText "x.json") = .ok [] := by
  obtain ⟨graph, compiled⟩ := compileFile_scriptsDisk (some 0)
  have located : (scriptsDisk (some 0)).locate (.ofText "x.json") = .ok ["x.json"] := rfl
  have noFolder : Disk.entry? (scriptsDisk (some 0)) ["x.json"] ≠ some .folder := nofun
  have short {bytes : Utf8.Bytes} (present : bytes ≠ []) :
      (scriptsDisk (some 0)).hasRoom bytes = false := by
    simpa [Disk.hasRoom, scriptsDisk] using present
  have obstacle : Obstacle _ { input := some "x.json" } (.ofText "x.json") _ _ :=
    .write (.usual rfl) rfl compiled
      (.noRoom located noFolder (short (Disk.graphBytes_ne_nil _ _ _)))
  obtain ⟨ending, ended, failed⟩ := isFailure_of_obstacle obstacle
  rw [← run_of_accepted _ parse_script] at ended
  exact ⟨_, ending, ended, failed, Disk.read_setFile located noFolder _⟩

end CommandLine

end Dialogue
