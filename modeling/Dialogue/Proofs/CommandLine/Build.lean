import Dialogue.CommandLine.Run
import Dialogue.Proofs.Disk.Storage
import Dialogue.Proofs.Run.Ending
import Dialogue.Proofs.Run.Passive

/-!
# Building a graph

A build reads the settings, finds the place for the graph, reads and compiles the script
and writes the graph, in this order. What stands in the way of each step is described by
what lies on the disk, and the first such thing is the failure of the build. If there is
none, the build is the compile that nobody watches, followed by one write.
-/

namespace Dialogue

open Text

variable {disk : Disk} {path : Path} {config : Config} {failure : Failure}

namespace Disk

/-! ## Settings on the disk -/

/-- The settings in a file. -/
def fileSettings (disk : Disk) (path : Path) : Except Failure Config :=
  match disk.readJson path with
  | .error failure => .error failure
  | .ok value =>
    match Config.ofJson value with
    | .error report => .error (.settings report)
    | .ok config => .ok config

/-- A file that holds settings. -/
def HoldsSettings (disk : Disk) (path : Path) (config : Config) : Prop :=
  ∃ bytes text value, disk.read path = .ok bytes ∧ Utf8.decode bytes = .ok text ∧
    Json.read maxNesting (uniformBreaks text) = .ok value ∧ Config.ofJson value = .ok config

/-- A path from which no settings are read, and why. -/
inductive NoSettings (disk : Disk) (path : Path) : Failure → Prop where
  | closed {error : PathError} (unread : disk.read path = .error error) :
    NoSettings disk path (.access path error)
  | noText {bytes : Utf8.Bytes} {fault : Utf8.Fault} (read : disk.read path = .ok bytes)
    (undecoded : Utf8.decode bytes = .error fault) : NoSettings disk path (.encoding fault)
  | noJson {bytes : Utf8.Bytes} {text : List Char} {error : Json.Error}
    (read : disk.read path = .ok bytes) (decoded : Utf8.decode bytes = .ok text)
    (failed : Json.read maxNesting (uniformBreaks text) = .error error) :
    NoSettings disk path (.json error)
  | invalid {bytes : Utf8.Bytes} {text : List Char} {value : Json} {report : Report}
    (read : disk.read path = .ok bytes) (decoded : Utf8.decode bytes = .ok text)
    (parsed : Json.read maxNesting (uniformBreaks text) = .ok value)
    (refused : Config.ofJson value = .error report) : NoSettings disk path (.settings report)

theorem HoldsSettings.fileSettings_eq (held : disk.HoldsSettings path config) :
    disk.fileSettings path = .ok config := by
  obtain ⟨bytes, text, value, read, decoded, parsed, accepted⟩ := held
  simp only [fileSettings, readJson, readBytes, textOf, bind, Except.bind, read, decoded, parsed,
    accepted]

theorem NoSettings.fileSettings_eq (without : disk.NoSettings path failure) :
    disk.fileSettings path = .error failure := by
  cases without with
  | closed unread => simp only [fileSettings, readJson, readBytes, bind, Except.bind, unread]
  | noText read undecoded =>
    simp only [fileSettings, readJson, readBytes, textOf, bind, Except.bind, read, undecoded]
  | noJson read decoded failed =>
    simp only [fileSettings, readJson, readBytes, textOf, bind, Except.bind, read, decoded, failed]
  | invalid read decoded parsed refused =>
    simp only [fileSettings, readJson, readBytes, textOf, bind, Except.bind, read, decoded, parsed,
      refused]

/-- Settings are read in four steps; what goes wrong is told by the first that fails. -/
theorem settings_cases (disk : Disk) (path : Path) :
    (∃ config, disk.HoldsSettings path config) ∨ ∃ failure, disk.NoSettings path failure := by
  cases read : disk.read path with
  | error error => exact .inr ⟨_, .closed read⟩
  | ok bytes =>
    cases decoded : Utf8.decode bytes with
    | error fault => exact .inr ⟨_, .noText read decoded⟩
    | ok text =>
      cases parsed : Json.read maxNesting (uniformBreaks text) with
      | error error => exact .inr ⟨_, .noJson read decoded parsed⟩
      | ok value =>
        cases accepted : Config.ofJson value with
        | error report => exact .inr ⟨_, .invalid read decoded parsed accepted⟩
        | ok config => exact .inl ⟨config, bytes, text, value, read, decoded, parsed, accepted⟩

/-! ## Scripts on the disk -/

/-- A path from which no script is read, and why. -/
inductive NoScript (disk : Disk) (path : Path) : Failure → Prop where
  | closed {error : PathError} (unread : disk.read path = .error error) :
    NoScript disk path (.access path error)
  | noText {bytes : Utf8.Bytes} {fault : Utf8.Fault} (read : disk.read path = .ok bytes)
    (undecoded : Utf8.decode (Utf8.dropByteOrderMark bytes) = .error fault) :
    NoScript disk path (.encoding fault)

theorem NoScript.readScript_eq (without : disk.NoScript path failure) :
    disk.readScript path = .error failure := by
  cases without with
  | closed unread => simp only [readScript, readBytes, bind, Except.bind, unread]
  | noText read undecoded =>
    simp only [readScript, readBytes, textOf, bind, Except.bind, read, undecoded]

theorem script_cases (disk : Disk) (path : Path) :
    (∃ script, disk.readScript path = .ok script) ∨ ∃ failure, disk.NoScript path failure := by
  cases read : disk.read path with
  | error error => exact .inr ⟨_, .closed read⟩
  | ok bytes =>
    cases decoded : Utf8.decode (Utf8.dropByteOrderMark bytes) with
    | error fault => exact .inr ⟨_, .noText read decoded⟩
    | ok text =>
      refine .inl ⟨String.ofList (uniformBreaks text), ?_⟩
      simp only [readScript, readBytes, textOf, bind, Except.bind, read, decoded]
      rfl

theorem level_of_logLine? {notice : Notice} {line : LogLine}
    (logged : notice.logLine? = some line) : line.level = .debug := by
  obtain ⟨message, -, rfl⟩ := Option.map_eq_some_iff.mp logged
  rfl

/-- The log of a compile has lines of the lowest level only. -/
theorem level_of_compile (config : Config) (lines : List String) :
    ∀ line ∈ (Run.compile .logger config [] lines).1.state, line.level = .debug := by
  refine Run.state_of_compile (fun log : List LogLine => ∀ line ∈ log, line.level = .debug) ?_
    config (List.forall_mem_nil _) lines
  intro notice config log levels line member
  rcases List.mem_append.mp member with earlier | added
  · exact levels line earlier
  · exact level_of_logLine? (Option.mem_toList.mp added)

theorem compileFile_of_readScript {script : String} (read : disk.readScript path = .ok script)
    (config : Config) :
    disk.compileFile config path = (compile config script).mapError .compile := by
  rw [compileFile, compileScript, read, compile, compileLines]
  cases silent : Run.compile .silent config () (scriptLines script) with
  | mk run answer => cases answer <;> simp only [silent] <;> rfl

/-- A script that is read is compiled, and to the same graph whether the compile is logged or
not. -/
theorem compile_of_readScript {script : String} (read : disk.readScript path = .ok script)
    (config : Config) :
    ∃ graph log, disk.compileFile config path = .ok graph ∧
      compileScript .logger [] disk config path = (log, .ok graph) ∧
      ∀ line ∈ log, line.level = .debug := by
  have passive : Observer.logger.IsPassive := ⟨fun _ _ _ _ => rfl⟩
  obtain ⟨_, closed, -, -, -, compiled⟩ :=
    Run.exists_compile .logger config [] (scriptLines script)
  have levels := level_of_compile config (scriptLines script)
  rw [compiled] at levels
  -- The logger leaves the settings alone at the beginning too.
  have alone : compile config script = .ok closed.session.assembly.graph := by
    have same := (Run.compile_hearing passive config [] (scriptLines script)).1
    rw [compiled] at same
    exact same.symm
  refine ⟨closed.session.assembly.graph, (Run.result .logger closed).1.state, ?_, ?_, levels⟩
  · rw [compileFile_of_readScript read, alone]
    rfl
  · rw [compileScript, read]
    simp only [compiled]

theorem compileFile_eq_error_iff :
    disk.compileFile config path = .error failure ↔ disk.NoScript path failure := by
  constructor
  · intro failed
    rcases disk.script_cases path with ⟨script, read⟩ | ⟨told, without⟩
    · obtain ⟨graph, log, compiled, -⟩ := compile_of_readScript read config
      cases compiled.symm.trans failed
    · simp only [compileFile, compileScript, without.readScript_eq] at failed
      obtain rfl := Except.error.inj failed
      exact without
  · intro without
    simp only [compileFile, compileScript, without.readScript_eq]

/-- The logged compile of a file has the graph, or the failure, of the one that nobody watches. -/
theorem compileScript_logger (disk : Disk) (config : Config) (path : Path) :
    ∃ log, compileScript .logger [] disk config path = (log, disk.compileFile config path) ∧
      ∀ line ∈ log, line.level = .debug := by
  rcases disk.script_cases path with ⟨script, read⟩ | ⟨failure, without⟩
  · obtain ⟨graph, log, compiled, logged, levels⟩ := compile_of_readScript read config
    exact ⟨log, by rw [logged, compiled], levels⟩
  · refine ⟨[], ?_, by simp⟩
    rw [compileFile_eq_error_iff.mpr without, compileScript, without.readScript_eq]

end Disk

namespace CommandLine

variable {options : Options} {input output : Path} {graph : Graph} {changed left : Disk}

/-! ## The settings of a build -/

/-- Settings with what the arguments say on top of them. -/
def Options.adjust (options : Options) (config : Config) : Config :=
  if options.noFlush then config.flushing false else config

/-- The settings of a build: those of the file that is given, or the usual ones if none is, with
what the arguments say on top. -/
inductive Settles (disk : Disk) (options : Options) : Config → Prop where
  | usual (unasked : given options.config = none) : Settles disk options (options.adjust default)
  | stored {text : String} {config : Config} (asked : given options.config = some text)
    (held : disk.HoldsSettings (.ofText text) config) :
    Settles disk options (options.adjust config)

theorem loadConfig_of_none (unasked : given options.config = none) :
    loadConfig disk options = .ok (options.adjust default) := by
  have usual : Config.ofJson (.obj []) = .ok default := rfl
  simp only [loadConfig, unasked, bind, Except.bind, usual]
  rfl

theorem loadConfig_of_some {text : String} (asked : given options.config = some text) :
    loadConfig disk options = (disk.fileSettings (.ofText text)).map options.adjust := by
  simp only [loadConfig, asked, bind, Except.bind, Disk.fileSettings]
  cases disk.readJson (.ofText text) with
  | error failure => rfl
  | ok value =>
    simp only
    cases Config.ofJson value with
    | error report => rfl
    | ok config => rfl

theorem Settles.loadConfig_eq (settled : Settles disk options config) :
    loadConfig disk options = .ok config := by
  cases settled with
  | usual unasked => exact loadConfig_of_none unasked
  | stored asked held =>
    rw [loadConfig_of_some asked, held.fileSettings_eq]
    rfl

/-- A file is given for the settings of a build, and none are read from it. -/
def Unsettled (disk : Disk) (options : Options) (failure : Failure) : Prop :=
  ∃ text, given options.config = some text ∧ disk.NoSettings (.ofText text) failure

theorem Unsettled.loadConfig_eq (unsettled : Unsettled disk options failure) :
    loadConfig disk options = .error failure := by
  obtain ⟨text, asked, without⟩ := unsettled
  rw [loadConfig_of_some asked, without.fileSettings_eq]
  rfl

theorem settles_cases (disk : Disk) (options : Options) :
    (∃ config, Settles disk options config) ∨ ∃ failure, Unsettled disk options failure := by
  cases asked : given options.config with
  | none => exact .inl ⟨_, .usual asked⟩
  | some text =>
    rcases disk.settings_cases (.ofText text) with ⟨config, held⟩ | ⟨failure, without⟩
    · exact .inl ⟨_, .stored asked held⟩
    · exact .inr ⟨failure, text, asked, without⟩

/-! ## The place of the graph -/

/-- A path with no name, for which no graph beside it can be named. -/
theorem outputPath_eq_error_iff :
    outputPath options input = .error failure ↔
      given options.output = none ∧ input.names = [] ∧ failure = .noName input := by
  rw [outputPath]
  cases asked : given options.output with
  | some text => simp
  | none =>
    rw [Disk.defaultOutput, Path.withSuffix?]
    by_cases bare : input.names = []
    · simp [bare, eq_comm]
    · simp [bare]

/-- The graph is placed where the arguments say, or else beside the script. -/
theorem outputPath_eq_ok_iff :
    outputPath options input = .ok output ↔
      (∃ text, given options.output = some text ∧ .ofText text = output) ∨
        given options.output = none ∧ input.withSuffix? ".json" = some output := by
  rw [outputPath]
  cases asked : given options.output with
  | some text => simp
  | none =>
    rw [Disk.defaultOutput]
    cases input.withSuffix? ".json" <;> simp

/-! ## Builds -/

/-- The first thing that stands in the way of a build, and the disk that is left behind. Only a
write that fails can leave another disk than before. -/
inductive Obstacle (disk : Disk) (options : Options) (input : Path) : Failure → Disk → Prop where
  | settings {failure : Failure} (unsettled : Unsettled disk options failure) :
    Obstacle disk options input failure disk
  | nameless {config : Config} (settled : Settles disk options config)
    (unasked : given options.output = none) (bare : input.names = []) :
    Obstacle disk options input (.noName input) disk
  | script {config : Config} {output : Path} {failure : Failure}
    (settled : Settles disk options config) (placed : outputPath options input = .ok output)
    (without : disk.NoScript input failure) : Obstacle disk options input failure disk
  | write {config : Config} {output : Path} {graph : Graph} {error : PathError} {left : Disk}
    (settled : Settles disk options config) (placed : outputPath options input = .ok output)
    (compiled : disk.compileFile config input = .ok graph)
    (fails : disk.WriteFails output (Disk.graphBytes graph output (some input.stem)) error left) :
    Obstacle disk options input (.access output error) left

/-- A build that nothing stands in the way of: the graph, where it is put, and the disk with it. -/
structure Builds (disk : Disk) (options : Options) (input output : Path) (graph : Graph)
    (changed : Disk) : Prop where
  placed : outputPath options input = .ok output
  compiled : ∃ config, Settles disk options config ∧ disk.compileFile config input = .ok graph
  saved : disk.saveGraph graph output (some input.stem) = (changed, .ok ())

/-- A graph and its place, if there are any, put on the disk. -/
def store (disk : Disk) (input : Path) (compiled : Except Failure (Path × Graph)) :
    Disk × Except Failure (Path × Graph) :=
  match compiled with
  | .error failure => (disk, .error failure)
  | .ok (output, graph) =>
    let (changed, saved) := disk.saveGraph graph output (some input.stem)
    (changed, saved.map fun _ => (output, graph))

/-- The steps of a build one after the other, with nobody watching. -/
def buildSteps (disk : Disk) (options : Options) (input : Path) :
    Disk × Except Failure (Path × Graph) :=
  store disk input do
    let config ← loadConfig disk options
    let output ← outputPath options input
    let graph ← disk.compileFile config input
    return (output, graph)

/-- A build is these steps, and what it logs has the lowest level. -/
theorem exists_build (disk : Disk) (options : Options) (input : Path) :
    ∃ log, build disk options input = (log, buildSteps disk options input) ∧
      ∀ line ∈ log, line.level = .debug := by
  rw [build, buildSteps]
  cases loadConfig disk options with
  | error failure => exact ⟨[], rfl, by simp⟩
  | ok config =>
    cases outputPath options input with
    | error failure => exact ⟨[], rfl, by simp⟩
    | ok output =>
      obtain ⟨log, logged, levels⟩ := disk.compileScript_logger config input
      refine ⟨log, ?_, levels⟩
      simp only [logged, bind, Except.bind]
      cases disk.compileFile config input <;> rfl

theorem Obstacle.buildSteps_eq (obstacle : Obstacle disk options input failure left) :
    buildSteps disk options input = (left, .error failure) := by
  rw [buildSteps]
  cases obstacle with
  | settings unsettled =>
    rw [unsettled.loadConfig_eq]
    rfl
  | nameless settled unasked bare =>
    rw [settled.loadConfig_eq, outputPath_eq_error_iff.mpr ⟨unasked, bare, rfl⟩]
    rfl
  | script settled placed without =>
    rw [settled.loadConfig_eq, placed]
    simp only [bind, Except.bind, Disk.compileFile_eq_error_iff.mpr without, store]
  | write settled placed compiled fails =>
    rw [settled.loadConfig_eq, placed]
    simp only [bind, Except.bind, compiled, pure, Except.pure, store,
      Disk.saveGraph_eq_error_iff.mpr ⟨_, fails, rfl⟩, Except.map]

theorem Builds.buildSteps_eq (builds : Builds disk options input output graph changed) :
    buildSteps disk options input = (changed, .ok (output, graph)) := by
  obtain ⟨config, settled, compiled⟩ := builds.compiled
  rw [buildSteps, settled.loadConfig_eq, builds.placed]
  simp only [bind, Except.bind, compiled, pure, Except.pure, store, builds.saved, Except.map]

/-- Step by step, a build goes through or meets its first obstacle. -/
theorem build_cases (disk : Disk) (options : Options) (input : Path) :
    (∃ output graph changed, Builds disk options input output graph changed) ∨
      ∃ failure left, Obstacle disk options input failure left := by
  rcases settles_cases disk options with ⟨config, settled⟩ | ⟨failure, unsettled⟩
  · cases placed : outputPath options input with
    | error failure =>
      obtain ⟨unasked, bare, -⟩ := outputPath_eq_error_iff.mp placed
      exact .inr ⟨_, _, .nameless settled unasked bare⟩
    | ok output =>
      cases compiled : disk.compileFile config input with
      | error failure =>
        have without := Disk.compileFile_eq_error_iff.mp compiled
        exact .inr ⟨failure, disk, .script settled placed without⟩
      | ok graph =>
        cases saved : disk.saveGraph graph output (some input.stem) with
        | mk changed result =>
          cases result with
          | error failure =>
            obtain ⟨error, fails, -⟩ := Disk.saveGraph_eq_error_iff.mp saved
            exact .inr ⟨_, changed, .write settled placed compiled fails⟩
          | ok =>
            exact .inl ⟨output, graph, changed, placed, ⟨config, settled, compiled⟩, saved⟩
  · exact .inr ⟨failure, disk, .settings unsettled⟩

end CommandLine

end Dialogue
