import Dialogue.CommandLine.Run

/-!
# The executable

The outer layer: it looks up on the real disk what the arguments name, runs the program on
that, and carries out what the program decided.
-/

namespace Dialogue.Main

/-- What the program prints when it is asked for help. -/
def usage : String :=
  "usage: dialogscript [-h] [-o OUTPUT] [--config CONFIG] [--no-flush] [--check] [-v] input"

/-- The disk with what really lies at the end of a path, whose other names it knows. -/
def look (disk : Disk) (path : Path) : IO Disk := do
  match disk.locate path with
  | .error _ => return disk
  | .ok location =>
    try
      let real ← IO.FS.realPath path.text
      if ← real.isDir then
        return { disk with folders := disk.folders ++ [location] }
      let bytes ← IO.FS.readBinFile real
      return disk.setFile location bytes.toList
    catch _ => return disk

/-- The disk with what really lies along a path, from the given beginning of it. -/
def survey (disk : Disk) (path : Path) : (names : List String) → IO Disk
  | [] => return disk
  | name :: rest => do
    let here := path.child name
    survey (← look disk here) here rest

/-- The disk as far as the program may look at it. -/
def surveyOptions (options : CommandLine.Options) (input : String) : IO Disk := do
  let inputPath := Path.ofText input
  let others := (CommandLine.given options.config).toList ++
    (CommandLine.given options.output).toList
  let paths := [inputPath] ++ others.map Path.ofText ++
    (Disk.defaultOutput inputPath).toOption.toList
  paths.foldlM (fun disk path => survey disk { path with names := [] } path.names) Disk.empty

/-- The path of a location. -/
def pathOf : Location → Path
  | "/" :: names => ⟨"/", names⟩
  | "//" :: names => ⟨"//", names⟩
  | names => ⟨"", names⟩

/-- Write the files that differ between two states of the disk. -/
def commit (before after : Disk) : IO Unit := do
  for file in after.files do
    if !before.files.contains file then
      IO.FS.writeBinFile (pathOf file.1).text ⟨file.2.toArray⟩

/-- Run the program with the given arguments and answer its exit status. -/
def run (arguments : List String) : IO UInt32 := do
  let disk ← match CommandLine.parse arguments with
    | .ok (.run options input) => surveyOptions options input
    | _ => pure Disk.empty
  match CommandLine.run disk arguments with
  | (after, .exited status messages printed) =>
    commit disk after
    if printed then IO.println usage
    for message in messages do
      IO.eprintln message
    return status.toUInt32
  | (after, .crashed failure) =>
    commit disk after
    IO.eprintln failure.message
    return 1

end Dialogue.Main

/-- The entry point of the program. -/
def main (arguments : List String) : IO UInt32 :=
  Dialogue.Main.run arguments
