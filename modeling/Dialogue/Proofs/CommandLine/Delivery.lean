import Dialogue.Proofs.CommandLine.Exit

/-!
# What a run leaves behind

A run writes once, as its last step, so it either leaves the disk alone or stores one
graph. This graph is the one that the script compiles to, and it can be loaded from where
it was stored, also if that is where the script or the settings were. Only if there is too
little room for the graph, a part of it is left where it was to be stored.
-/

namespace Dialogue

open Text

variable {disk next : Disk} {path : Path} {graph : Graph} {id : Option String}
  {bytes : Utf8.Bytes}

namespace Disk

/-- A disk that differs from another at one place at most: the file there has the given bytes. -/
def FillsOnly (disk next : Disk) (path : Path) (bytes : Utf8.Bytes) : Prop :=
  ∃ location, disk.locate path = .ok location ∧ next.entry? location = some (.file bytes) ∧
    ∀ other, other ≠ location → next.entry? other = disk.entry? other

theorem fillsOnly_setFile {location : Location} (located : disk.locate path = .ok location)
    (noFolder : disk.entry? location ≠ some .folder) (bytes : Utf8.Bytes) :
    disk.FillsOnly (disk.setFile location bytes) path bytes :=
  ⟨location, located, entry?_setFile_self noFolder bytes,
    fun _ distinct => entry?_setFile_of_ne distinct bytes⟩

/-- A disk on which a graph is stored at a place, and nothing else is different from another
disk. -/
structure Stored (disk next : Disk) (path : Path) (graph : Graph) : Prop where
  loads : next.loadGraph path = .ok graph
  /-- The one file that is made or overwritten. -/
  place : ∃ bytes, disk.FillsOnly next path bytes

theorem stored_of_saveGraph (saved : disk.saveGraph graph path id = (next, .ok ())) :
    disk.Stored next path graph := by
  obtain ⟨location, located, noFolder, -, rfl⟩ := write_eq_ok_iff.mp (saveGraph_eq_ok_iff.mp saved)
  exact ⟨loadGraph_of_saved saved, _, fillsOnly_setFile located noFolder _⟩

/-- A disk on which a write was given up: there was too little room, and the file has the beginning
of what was to be written. -/
structure GivenUp (disk next : Disk) (path : Path) (bytes : Utf8.Bytes) : Prop where
  short : disk.hasRoom bytes = false
  place : disk.FillsOnly next path (disk.fitting bytes)

/-- A write that fails leaves the disk as it was, or it was given up. -/
theorem WriteFails.left {error : PathError} (fails : disk.WriteFails path bytes error next) :
    next = disk ∨ disk.GivenUp next path bytes := by
  cases fails with
  | noPlace => exact .inl rfl
  | noRoom located noFolder short =>
    exact .inr ⟨short, fillsOnly_setFile located noFolder _⟩

end Disk

namespace CommandLine

variable {arguments : List String} {options : Options} {name : String} {ending : Ending}

/-- The endings of a run that failed: by a failure that was not foreseen, or with the status of
a failure. -/
inductive Ending.IsFailure : Ending → Prop where
  | crashed (failure : Failure) : IsFailure (.crashed failure)
  | reported (messages : List String) (printed : Bool) :
    IsFailure (.exited statusError messages printed)

/-- Whether a run was ended by a file that is left out. What would become of it is not known. -/
def Ending.isUnmodelled : Ending → Bool
  | .exited .. => false
  | .crashed failure => failure.isUnmodelled

theorem not_isFailure_statusOf (options : Options) (graph : Graph) (messages : List String) :
    ¬(Ending.exited (statusOf options graph) messages false).IsFailure := by
  intro failed
  generalize status_eq : statusOf options graph = status at failed
  cases failed
  rw [statusOf] at status_eq
  split at status_eq <;> cases status_eq

/-- What stands in the way of a run makes it fail. -/
theorem isFailure_of_obstacle {failure : Failure} {left : Disk}
    (obstacle : Obstacle disk options (.ofText name) failure left) :
    ∃ ending, runOptions disk options name = (left, ending) ∧ ending.IsFailure := by
  obtain ⟨log, built, -⟩ := exists_build disk options (.ofText name)
  rw [obstacle.buildSteps_eq] at built
  rw [runOptions]
  simp only [built]
  split
  · exact ⟨_, rfl, .reported _ _⟩
  · exact ⟨_, rfl, .crashed failure⟩

/-- What is left behind by whatever stands in the way of a run. -/
theorem Obstacle.left {input : Path} {failure : Failure} {left : Disk}
    (obstacle : Obstacle disk options input failure left) :
    left = disk ∨ ∃ output graph, outputPath options input = .ok output ∧
      disk.GivenUp left output (Disk.graphBytes graph output (some input.stem)) := by
  cases obstacle with
  | settings | nameless | script => exact .inl rfl
  | write _ placed _ fails => exact fails.left.imp_right fun givenUp => ⟨_, _, placed, givenUp⟩

/-- What a run does to the disk. A run that fails, with a status or without one, leaves the disk
as it was, unless there is too little room for the graph: then only the file that was to have it
is changed. Nothing is said of a run that is ended by a file that is left out. Any other run makes
or overwrites one file and leaves everything else alone: the file that the arguments name, or else
the one beside the script. What is loaded from it is the graph that the script compiles to on the
disk as it was, under the settings of the run, and the status says whether the run was to find
choices in it that lead nowhere and did. -/
theorem delivery_of_run (accepted : parse arguments = .ok (.run options name))
    (ended : run disk arguments = (next, ending)) :
    (ending.IsFailure → ending.isUnmodelled = false → next = disk ∨
      ∃ output graph, outputPath options (.ofText name) = .ok output ∧
        disk.GivenUp next output
          (Disk.graphBytes graph output (some (Path.ofText name).stem))) ∧
    (¬ending.IsFailure → ∃ config output graph messages,
      Settles disk options config ∧
      ((∃ text, given options.output = some text ∧ .ofText text = output) ∨
        given options.output = none ∧ (Path.ofText name).withSuffix? ".json" = some output) ∧
      disk.compileFile config (.ofText name) = .ok graph ∧
      disk.Stored next output graph ∧
      ending = .exited
        (if options.check ∧ graph.dangling ≠ [] then statusDangling else statusOk)
        messages false) := by
  rw [run_of_accepted disk accepted] at ended
  rcases build_cases disk options (.ofText name) with
    ⟨output, graph, changed, builds⟩ | ⟨failure, left, obstacle⟩
  · obtain ⟨log, -, ended'⟩ := runOptions_of_builds builds
    obtain ⟨rfl, rfl⟩ := Prod.mk.inj (ended'.symm.trans ended)
    obtain ⟨config, settled, compiled⟩ := builds.compiled
    constructor
    · intro failed
      exact absurd failed (not_isFailure_statusOf options graph _)
    · intro _
      exact ⟨config, output, graph, _, settled, outputPath_eq_ok_iff.mp builds.placed, compiled,
        Disk.stored_of_saveGraph builds.saved, rfl⟩
  · obtain ⟨failed, ended', isFailure⟩ := isFailure_of_obstacle obstacle
    obtain ⟨rfl, rfl⟩ := Prod.mk.inj (ended'.symm.trans ended)
    exact ⟨fun _ _ => obstacle.left, fun succeeded => absurd isFailure succeeded⟩

end CommandLine

end Dialogue
