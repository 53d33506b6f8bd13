import Dialogue.Proofs.CommandLine.Build

/-!
# How the program ends

A run whose arguments are accepted ends with a status if nothing stands in its way, or if
what does is a failure that the program foresees: the failure is then the one error in the
log. It does not foresee bytes that are no text, JSON beyond what is read, a path with a
NUL character and a path without a name. Such a failure ends the run without a status.
Nothing is said of settings that name what is no text.
-/

namespace Dialogue.CommandLine

open Text

variable {disk left : Disk} {arguments : List String} {options : Options} {input : Path}
  {name : String} {failure : Failure}

/-! ## What stands in the way -/

/-- The line about the failure of a run. -/
def failureLine (failure : Failure) : LogLine :=
  programLine .error ("Compilation failed: " ++ failure.message)

theorem run_of_accepted (disk : Disk) (accepted : parse arguments = .ok (.run options name)) :
    run disk arguments = runOptions disk options name := by
  rw [run, accepted]

/-- The status of a run that stores a graph. -/
def statusOf (options : Options) (graph : Graph) : Nat :=
  if options.check ∧ graph.dangling ≠ [] then statusDangling else statusOk

/-- A run that nothing stands in the way of stores its graph and logs nothing above a warning. -/
theorem runOptions_of_builds {output : Path} {graph : Graph} {changed : Disk}
    (builds : Builds disk options (.ofText name) output graph changed) :
    ∃ log, (∀ line ∈ log, line.level ≠ .error) ∧
      runOptions disk options name =
        (changed, .exited (statusOf options graph) (logLines options log) false) := by
  obtain ⟨log, built, levels⟩ := exists_build disk options (.ofText name)
  rw [builds.buildSteps_eq] at built
  rw [runOptions]
  simp only [built]
  refine ⟨_, ?_, congrArg (fun status => (changed, Ending.exited status _ false)) ?_⟩
  · intro line member
    simp only [List.mem_append, List.mem_singleton, List.mem_map] at member
    rcases member with (built | rfl) | ⟨entry, -, rfl⟩
    · rw [levels line built]
      decide
    · exact nofun
    · exact nofun
  · rw [statusOf]
    cases options.check <;> cases graph.dangling <;> simp

end Dialogue.CommandLine
