import Dialogue.Disk.Graphs
import Dialogue.Proofs.Graph.Record
import Dialogue.Proofs.Json.Values
import Dialogue.Proofs.Text.Utf8

/-!
# Stored graphs are loaded again

What is written to a file is read from it again if there is room for it: the path leads to
the same place as before, since no folder comes or goes with a file. A stored graph goes
through five forms on its way to the disk, a record, a text, characters, bytes and a file,
and every one of them is undone by the step that reads it.
-/

namespace Dialogue

open Text

variable {disk saved : Disk} {path : Path} {location other target folder : Location}
  {bytes : Utf8.Bytes} {names : List String}

namespace Disk

/-! ## Files -/

/-- Whether there is a folder does not depend on the files. -/
theorem entry?_eq_folder_iff :
    disk.entry? location = some .folder ↔
      (isBase location || disk.folders.contains location) = true := by
  rw [Disk.entry?]
  split
  next folder => exact iff_of_true rfl folder
  next absent =>
    refine iff_of_false ?_ absent
    intro found
    obtain ⟨bytes, -, impossible⟩ := Option.map_eq_some_iff.mp found
    cases impossible

theorem entry?_setFile_folder (location : Location) (bytes : Utf8.Bytes)
    (found : disk.entry? other = some .folder) :
    Disk.entry? (disk.setFile location bytes) other = some .folder := by
  rw [entry?_eq_folder_iff] at found ⊢
  exact found

theorem find?_setFile (disk : Disk) (location : Location) (bytes : Utf8.Bytes) :
    ((disk.setFile location bytes).files.find? fun file => file.1 = location) =
      some (location, bytes) := by
  rw [setFile]
  simp only
  split
  next there =>
    obtain ⟨file, inside, same⟩ := List.any_eq_true.mp there
    have kept : (fun file : Location × Utf8.Bytes => decide (file.1 = location)) ∘
        (fun file => if file.1 = location then (location, bytes) else file) =
        fun file => decide (file.1 = location) := by
      funext file
      by_cases place : file.1 = location <;> simp [place]
    have found : (disk.files.find? fun file => file.1 = location).isSome := by
      rw [List.find?_isSome]
      exact ⟨file, inside, same⟩
    obtain ⟨first, first_eq⟩ := Option.isSome_iff_exists.mp found
    have place := List.find?_some first_eq
    rw [List.find?_map, kept, first_eq, Option.map_some, if_pos (of_decide_eq_true place)]
  next absent =>
    have none_eq : (disk.files.find? fun file => file.1 = location) = none := by
      rw [List.find?_eq_none]
      intro file inside same
      exact absent (List.any_eq_true.mpr ⟨file, inside, same⟩)
    rw [List.find?_append, none_eq]
    simp

/-- A file is found with the bytes that were put into it. -/
theorem entry?_setFile_self (noFolder : disk.entry? location ≠ some .folder)
    (bytes : Utf8.Bytes) :
    Disk.entry? (disk.setFile location bytes) location = some (.file bytes) := by
  have absent : ¬(isBase location || disk.folders.contains location) = true := by
    intro present
    exact noFolder (entry?_eq_folder_iff.mpr present)
  rw [Disk.entry?, find?_setFile]
  exact if_neg absent

theorem find?_setFile_of_ne (distinct : other ≠ location) (bytes : Utf8.Bytes) :
    ((disk.setFile location bytes).files.find? fun file => file.1 = other) =
      disk.files.find? fun file => file.1 = other := by
  rw [setFile]
  simp only
  split
  next =>
    have kept : (fun file : Location × Utf8.Bytes => decide (file.1 = other)) ∘
        (fun file => if file.1 = location then (location, bytes) else file) =
        fun file => decide (file.1 = other) := by
      funext file
      by_cases place : file.1 = location <;> simp [place]
    rw [List.find?_map, kept]
    cases found : disk.files.find? fun file => file.1 = other with
    | none => rfl
    | some file =>
      have place := List.find?_some found
      have place : file.1 = other := of_decide_eq_true place
      rw [Option.map_some, if_neg (place ▸ distinct)]
  next => simp [List.find?_append, Ne.symm distinct]

/-- What lies anywhere else stays there when a file is written. -/
theorem entry?_setFile_of_ne (distinct : other ≠ location) (bytes : Utf8.Bytes) :
    Disk.entry? (disk.setFile location bytes) other = disk.entry? other := by
  rw [Disk.entry?, Disk.entry?, find?_setFile_of_ne distinct]
  rfl

theorem walk_setFile (location : Location) (bytes : Utf8.Bytes)
    (walked : disk.walk folder names = .ok target) :
    (disk.setFile location bytes).walk folder names = .ok target := by
  induction names generalizing folder with
  | nil => exact walked
  | cons name rest ih =>
    rw [walk] at walked ⊢
    split
    next up =>
      rw [if_pos up] at walked
      exact ih walked
    next down =>
      rw [if_neg down] at walked
      split
      next long => simp [long] at walked
      next short =>
        rw [if_neg short] at walked
        split
        next last => rwa [if_pos last] at walked
        next inner =>
          rw [if_neg inner] at walked
          cases found : disk.entry? (folder ++ [name]) with
          | none => simp [found] at walked
          | some entry =>
            rw [found] at walked
            cases entry with
            | file _ => cases walked
            | folder =>
              rw [entry?_setFile_folder location bytes found]
              exact ih walked

/-- A path that leads to a place leads there also when a file is written. -/
theorem locate_setFile (location : Location) (bytes : Utf8.Bytes)
    (located : disk.locate path = .ok target) :
    (disk.setFile location bytes).locate path = .ok target := by
  rw [locate] at located ⊢
  split at located
  next => cases located
  next clean =>
    rw [if_neg clean]
    split at located
    next => cases located
    next short =>
      rw [if_neg short]
      exact walk_setFile location bytes located

/-- A path that leads to a file, or to where one can be made. -/
def HasPlace (disk : Disk) (path : Path) : Prop :=
  ∃ location, disk.locate path = .ok location ∧ disk.entry? location ≠ some .folder

/-- A path to which bytes can be written: it leads to a file, or to where one can be made, and there
is room for them. -/
def IsWritable (disk : Disk) (path : Path) (bytes : Utf8.Bytes) : Prop :=
  disk.HasPlace path ∧ disk.hasRoom bytes = true

/-- A path to which nothing can be written, and why. -/
inductive NoPlace (disk : Disk) (path : Path) : PathError → Prop where
  | astray {error : PathError} (lost : disk.locate path = .error error) : NoPlace disk path error
  | folder {location : Location} (located : disk.locate path = .ok location)
    (found : disk.entry? location = some .folder) : NoPlace disk path .isFolder

theorem exists_noPlace_iff : (∃ error, disk.NoPlace path error) ↔ ¬disk.HasPlace path := by
  constructor
  · rintro ⟨error, without⟩ ⟨location, located, noFolder⟩
    cases without with
    | astray lost => cases lost.symm.trans located
    | folder located' found =>
      obtain rfl := Except.ok.inj (located.symm.trans located')
      exact noFolder found
  · intro nowhere
    cases located : disk.locate path with
    | error error => exact ⟨error, .astray located⟩
    | ok location =>
      refine ⟨.isFolder, .folder located ?_⟩
      by_contra noFolder
      exact nowhere ⟨location, located, noFolder⟩

theorem NoPlace.write_eq {error : PathError} (without : disk.NoPlace path error)
    (bytes : Utf8.Bytes) : disk.write path bytes = (disk, .error error) := by
  cases without with
  | astray lost => simp only [write, lost]
  | folder located found => simp only [write, located, found]

/-- Where there is a place, bytes are written as far as there is room. -/
theorem write_of_located (located : disk.locate path = .ok location)
    (noFolder : disk.entry? location ≠ some .folder) (bytes : Utf8.Bytes) :
    disk.write path bytes =
      (disk.setFile location (disk.fitting bytes),
        if disk.hasRoom bytes then .ok () else .error .noSpace) := by
  simp only [write, located]

/-- All that a write can do. -/
theorem write_cases (disk : Disk) (path : Path) (bytes : Utf8.Bytes) :
    (∃ error, disk.NoPlace path error ∧ disk.write path bytes = (disk, .error error)) ∨
      ∃ location, disk.locate path = .ok location ∧ disk.entry? location ≠ some .folder ∧
        disk.write path bytes =
          (disk.setFile location (disk.fitting bytes),
            if disk.hasRoom bytes then .ok () else .error .noSpace) := by
  by_cases there : disk.HasPlace path
  · obtain ⟨location, located, noFolder⟩ := there
    exact .inr ⟨location, located, noFolder, write_of_located located noFolder bytes⟩
  · obtain ⟨error, without⟩ := exists_noPlace_iff.mpr there
    exact .inl ⟨error, without, without.write_eq bytes⟩

/-- Why a write fails, and what it leaves behind: a disk without a place for the bytes stays as it
was, and on one without room for all of them the file has as many as there is room for. -/
inductive WriteFails (disk : Disk) (path : Path) (bytes : Utf8.Bytes) : PathError → Disk → Prop
    where
  | noPlace {error : PathError} (without : disk.NoPlace path error) :
    WriteFails disk path bytes error disk
  | noRoom {location : Location} (located : disk.locate path = .ok location)
    (noFolder : disk.entry? location ≠ some .folder) (short : disk.hasRoom bytes = false) :
    WriteFails disk path bytes .noSpace (disk.setFile location (disk.fitting bytes))

theorem write_eq_error_iff {error : PathError} :
    disk.write path bytes = (saved, .error error) ↔ disk.WriteFails path bytes error saved := by
  constructor
  · intro failed
    rcases disk.write_cases path bytes with
      ⟨reason, without, outcome⟩ | ⟨location, located, noFolder, outcome⟩
    · obtain ⟨rfl, told⟩ := Prod.mk.inj (outcome.symm.trans failed)
      obtain rfl := Except.error.inj told
      exact .noPlace without
    · obtain ⟨rfl, told⟩ := Prod.mk.inj (outcome.symm.trans failed)
      split at told
      next => cases told
      next short =>
        obtain rfl := Except.error.inj told
        exact .noRoom located noFolder (Bool.eq_false_iff.mpr short)
  · intro fails
    cases fails with
    | noPlace without => exact without.write_eq bytes
    | noRoom located noFolder short => simp [write_of_located located noFolder, short]

/-- A write that does not fail puts its bytes where the path leads, and touches nothing else. -/
theorem write_eq_ok_iff :
    disk.write path bytes = (saved, .ok ()) ↔
      ∃ location, disk.locate path = .ok location ∧ disk.entry? location ≠ some .folder ∧
        disk.hasRoom bytes = true ∧ saved = disk.setFile location bytes := by
  constructor
  · intro written
    rcases disk.write_cases path bytes with
      ⟨reason, -, outcome⟩ | ⟨location, located, noFolder, outcome⟩
    · cases outcome.symm.trans written
    · obtain ⟨rfl, done⟩ := Prod.mk.inj (outcome.symm.trans written)
      split at done
      next room => exact ⟨location, located, noFolder, room, by rw [fitting_of_hasRoom room]⟩
      next => cases done
  · rintro ⟨location, located, noFolder, room, rfl⟩
    rw [write_of_located located noFolder, fitting_of_hasRoom room, if_pos room]

/-- What can be written is written. -/
theorem isWritable_iff :
    disk.IsWritable path bytes ↔ ∃ saved, disk.write path bytes = (saved, .ok ()) := by
  simp only [write_eq_ok_iff, IsWritable, HasPlace]
  constructor
  · rintro ⟨⟨location, located, noFolder⟩, room⟩
    exact ⟨_, location, located, noFolder, room, rfl⟩
  · rintro ⟨_, location, located, noFolder, room, -⟩
    exact ⟨⟨location, located, noFolder⟩, room⟩

theorem read_setFile (located : disk.locate path = .ok location)
    (noFolder : disk.entry? location ≠ some .folder) (bytes : Utf8.Bytes) :
    (disk.setFile location bytes).read path = .ok bytes := by
  rw [read, locate_setFile location bytes located]
  simp only [entry?_setFile_self noFolder]

/-- Bytes are read from the file that they were written to. -/
theorem read_of_write (written : disk.write path bytes = (saved, .ok ())) :
    saved.read path = .ok bytes := by
  obtain ⟨location, located, noFolder, -, rfl⟩ := write_eq_ok_iff.mp written
  exact read_setFile located noFolder bytes

end Disk

/-! ## Records as text -/

namespace Json

variable {room : Nat}

theorem Plain.ofText? (text : Option String) : Plain room (.ofText? text) := by
  cases text with
  | none => exact .null
  | some text => exact .str text

theorem Plain.map {α : Type} {write : α → Json} (plain : ∀ item, Plain room (write item))
    (items : List α) : Plain (room + 1) (.arr (items.map write)) := by
  apply Plain.arr
  simpa using fun item _ => plain item

end Json

open Json

theorem Command.plain_toJson (command : Command) (room : Nat) :
    Plain (room + 1) command.toJson := by
  refine .obj (by simp) ?_
  simp [Plain.str, Plain.ofText?]

theorem Choice.plain_toJson (choice : Choice) (room : Nat) : Plain (room + 1) choice.toJson := by
  refine .obj (by simp) ?_
  simp [Plain.str, Plain.ofText?]

theorem Node.plain_toJson (node : Node) (room : Nat) : Plain (room + 3) node.toJson := by
  have commands := Plain.map (fun command => Command.plain_toJson command room) node.commands
  have choices := Plain.map (fun choice => Choice.plain_toJson choice room) node.choices
  refine .obj (by simp) ?_
  simp [Plain.str, Plain.ofText?, commands, choices]

theorem Graph.plain_toRecord (graph : Graph) (id : Option String) (room : Nat) :
    Plain (room + 5) (graph.toRecord id) := by
  have nodes := Plain.map (fun node => Node.plain_toJson node room) graph.nodes
  refine .obj (by simp) ?_
  simp [Plain.ofText?, Graph.toJson, nodes]

/-- Line breaks that are uniform already are left alone. -/
theorem Text.uniformBreaks_of_not_mem {text : List Char} (unbroken : '\r' ∉ text) :
    uniformBreaks text = text := by
  induction text with
  | nil => rfl
  | cons c text ih =>
    simp only [List.mem_cons, not_or] at unbroken
    rw [uniformBreaks, if_neg (Ne.symm unbroken.1), ih unbroken.2]
    rintro rest rfl
    exact absurd rfl unbroken.1

namespace Disk

/-- A stored graph is read back from the bytes of its text. -/
theorem readJson_graphText {graph : Graph} {id : Option String}
    (stored : saved.read path = .ok (Utf8.encode (graphText graph id).toList)) :
    saved.readJson path = .ok (graph.toRecord id) := by
  have plain : Plain maxNesting (graph.toRecord id) := graph.plain_toRecord id 980
  have text_eq : (graphText graph id).toList = (graph.toRecord id).write .pretty 0 := by
    rw [graphText, pretty, String.toList_ofList]
  rw [text_eq] at stored
  have bytes : saved.readBytes path = .ok (Utf8.encode ((graph.toRecord id).write .pretty 0)) := by
    rw [readBytes, stored]
  have text : textOf (Utf8.encode ((graph.toRecord id).write .pretty 0)) =
      .ok ((graph.toRecord id).write .pretty 0) := by
    rw [textOf, Utf8.decode_encode]
    simp only [uniformBreaks_of_not_mem (plain.return_not_mem_write 0)]
  simp only [readJson, bytes, text, bind, Except.bind, read_write Layout.isBlank_pretty plain]

/-- A graph is loaded from a file that holds its text. -/
theorem loadGraph_of_read {graph : Graph} {id : Option String}
    (stored : saved.read path = .ok (Utf8.encode (graphText graph id).toList)) :
    saved.loadGraph path = .ok graph := by
  have decoded : Graph.ofRecord (some path.text) (graph.toRecord id) = .ok graph :=
    Graph.ofRecord_eq_ok_iff.mpr (graph.ofRecord?_toRecord id)
  rw [loadGraph, readJson_graphText stored]
  simp only [decoded]

theorem saveGraph_eq_ok_iff {graph : Graph} {id : Option String} :
    disk.saveGraph graph path id = (saved, .ok ()) ↔
      disk.write path (graphBytes graph path id) = (saved, .ok ()) := by
  rw [saveGraph]
  cases written : disk.write path (graphBytes graph path id) with
  | mk changed result => cases result <;> simp [Except.mapError]

theorem saveGraph_eq_error_iff {graph : Graph} {id : Option String} {failure : Failure} :
    disk.saveGraph graph path id = (saved, .error failure) ↔
      ∃ error, disk.WriteFails path (graphBytes graph path id) error saved ∧
        failure = .access path error := by
  simp only [← write_eq_error_iff, saveGraph]
  cases written : disk.write path (graphBytes graph path id) with
  | mk changed result => cases result <;> simp [Except.mapError, eq_comm]

theorem loadGraph_of_saved {graph : Graph} {id : Option String}
    (saving : disk.saveGraph graph path id = (saved, .ok ())) :
    saved.loadGraph path = .ok graph :=
  loadGraph_of_read (read_of_write (saveGraph_eq_ok_iff.mp saving))

theorem IsWritable.exists_saved {graph : Graph} {id : Option String}
    (writable : disk.IsWritable path (graphBytes graph path id)) :
    ∃ saved, disk.saveGraph graph path id = (saved, .ok ()) := by
  obtain ⟨saved, written⟩ := isWritable_iff.mp writable
  exact ⟨saved, saveGraph_eq_ok_iff.mpr written⟩

/-- What is saved under a path is loaded again from that path: every graph, whatever characters
are in its texts, and under every identifier. -/
theorem loadGraph_of_saveGraph (graph : Graph) (id : Option String)
    (writable : disk.IsWritable path (graphBytes graph path id)) :
    ∃ saved, disk.saveGraph graph path id = (saved, .ok ()) ∧
      saved.loadGraph path = .ok graph := by
  obtain ⟨saved, saving⟩ := writable.exists_saved
  exact ⟨saved, saving, loadGraph_of_saved saving⟩

/-- A graph whose texts hold quotation marks, backslashes, control characters, line breaks of all
kinds, byte order marks and characters beyond the first sixteen bits. -/
def oddGraph : Graph :=
  ⟨[⟨"\uFEFF\x22\x5c", some "\r\n\x00", "a\u2028b\x1f\x7f", [⟨"\t\x08\x0c", some ""⟩],
    [⟨"😀", none⟩], by decide⟩]⟩

theorem loadGraph_of_saveGraph_odd :
    empty.IsWritable (.ofText "g.json") (graphBytes oddGraph (.ofText "g.json") none) ∧
      ∃ saved, empty.saveGraph oddGraph (.ofText "g.json") none = (saved, .ok ()) ∧
        saved.loadGraph (.ofText "g.json") = .ok oddGraph := by
  have writable : empty.IsWritable (.ofText "g.json")
      (graphBytes oddGraph (.ofText "g.json") none) := ⟨⟨["g.json"], by decide, by decide⟩, rfl⟩
  exact ⟨writable, loadGraph_of_saveGraph oddGraph none writable⟩

end Disk

end Dialogue
