import Dialogue.Proofs.Disk.Storage
import Mathlib.Data.List.Nodup

/-!
# The graph files of a folder

A folder lists what lies in it by name, once if every place of the disk holds one thing. Of
these the graph files are those whose name ends in `.json`, in the order of their names. The
stems of the names tell the files apart, except for two names with nothing in front of their
suffix, `.json` and `.json.json`.
-/

namespace Dialogue

open Text

/-! ## Stems -/

namespace Path

/-- A name that a graph file can have. -/
def IsGraphName (name : String) : Prop :=
  ".json".toList <:+ name.toList

theorem splitSuffix_json (before : List Char) :
    splitSuffix (before ++ ".json".toList) =
      if before = [] then (".json".toList, []) else (before, ".json".toList) := by
  have reversed : ((before ++ ".json".toList).reverse.dropWhile fun c => c != '.') =
      '.' :: before.reverse := by
    simp
  rw [splitSuffix, reversed]
  cases before with
  | nil => rfl
  | cons c before => simp

theorem name_child (folder : Path) (name : String) : (folder.child name).name = name := by
  simp [child, Path.name]

/-- A graph file is known by its name without the suffix. With nothing in front of the suffix it
is known by its whole name. -/
theorem stem_child_json (folder : Path) {name : String} {before : List Char}
    (cut : name.toList = before ++ ".json".toList) :
    (folder.child name).stem = if before = [] then ".json" else String.ofList before := by
  rw [stem, name_child, cut, splitSuffix_json]
  split <;> rfl

/-- Two graph files in one folder have different stems, unless nothing stands in front of the
suffix of one of them. -/
theorem stem_eq_iff {folder : Path} {name name' : String} (json : IsGraphName name)
    (json' : IsGraphName name') :
    (folder.child name).stem = (folder.child name').stem ↔
      name = name' ∨ (name = ".json" ∧ name' = ".json.json") ∨
        (name = ".json.json" ∧ name' = ".json") := by
  constructor
  · intro same
    obtain ⟨before, cut⟩ := json
    obtain ⟨before', cut'⟩ := json'
    rw [stem_child_json folder cut.symm, stem_child_json folder cut'.symm] at same
    simp only [← String.toList_inj, ← cut, ← cut']
    split at same
    next bare =>
      split at same
      next bare' => exact .inl (by rw [bare, bare'])
      next =>
        have before_eq : ".json".toList = before' := by rw [same, String.toList_ofList]
        exact .inr (.inl ⟨by rw [bare]; rfl, by rw [← before_eq]; rfl⟩)
    next =>
      split at same
      next bare' =>
        have before_eq : before = ".json".toList := by rw [← same, String.toList_ofList]
        exact .inr (.inr ⟨by rw [before_eq]; rfl, by rw [bare']; rfl⟩)
      next => exact .inl (by rw [String.ofList_inj.mp same])
  · have clash : (folder.child ".json").stem = (folder.child ".json.json").stem := by
      rw [stem, stem, name_child, name_child]
      rfl
    rintro (rfl | ⟨rfl, rfl⟩ | ⟨rfl, rfl⟩)
    · rfl
    · exact clash
    · exact clash.symm

end Path

namespace Disk

variable {disk saved : Disk} {folder path : Path} {location inner : Location} {name : String}
  {names : List String} {bytes : Utf8.Bytes}

/-! ## What lies in a folder -/

/-- Every place holds one thing: no file lies where another file or a folder is. -/
def IsProper (disk : Disk) : Prop :=
  (disk.files.map (·.1) ++ disk.folders).Nodup

theorem isProper_empty : empty.IsProper :=
  List.nodup_nil

theorem map_fst_setFile (location : Location) (bytes : Utf8.Bytes) :
    (disk.setFile location bytes).files.map (·.1) =
      if location ∈ disk.files.map (·.1) then disk.files.map (·.1)
      else disk.files.map (·.1) ++ [location] := by
  have there_iff : (disk.files.any fun file => file.1 = location) = true ↔
      location ∈ disk.files.map (·.1) := by
    simp
  rw [setFile]
  simp only [there_iff]
  split
  next =>
    rw [List.map_map]
    apply List.map_congr_left
    intro file _
    by_cases same : file.1 = location <;> simp [same]
  next => rw [List.map_append, List.map_singleton]

/-- No file is put where a folder is. -/
theorem IsProper.setFile (proper : disk.IsProper) (noFolder : disk.entry? location ≠ some .folder)
    (bytes : Utf8.Bytes) : (disk.setFile location bytes).IsProper := by
  have absent : location ∉ disk.folders := by
    intro listed
    apply noFolder
    rw [entry?_eq_folder_iff, List.contains_iff_mem.mpr listed, Bool.or_true]
  rw [IsProper, map_fst_setFile]
  split
  next => exact proper
  next fresh =>
    have everywhere : location ∉ disk.files.map (·.1) ++ disk.folders := by
      rw [List.mem_append, not_or]
      exact ⟨fresh, absent⟩
    rw [List.append_assoc, List.singleton_append]
    exact List.nodup_middle.mpr (List.nodup_cons.mpr ⟨everywhere, proper⟩)

/-- A write keeps places apart, also if it fails. -/
theorem IsProper.write (proper : disk.IsProper) (path : Path) (bytes : Utf8.Bytes) :
    (disk.write path bytes).1.IsProper := by
  by_cases there : disk.HasPlace path
  · obtain ⟨location, located, noFolder⟩ := there
    rw [write_of_located located noFolder]
    exact proper.setFile noFolder _
  · obtain ⟨error, without⟩ := exists_noPlace_iff.mpr there
    rwa [without.write_eq]

theorem isSome_entry?_iff :
    (disk.entry? inner).isSome ↔
      isBase inner = true ∨ inner ∈ disk.files.map (·.1) ++ disk.folders := by
  rw [Disk.entry?]
  split
  next there =>
    simp only [Bool.or_eq_true, List.contains_iff_mem] at there
    refine iff_of_true rfl ?_
    rcases there with base | listed
    · exact .inl base
    · exact .inr (List.mem_append_right _ listed)
  next absent =>
    simp only [Bool.or_eq_true, List.contains_iff_mem, not_or] at absent
    simp only [Option.isSome_map, List.find?_isSome, decide_eq_true_eq, absent.1, false_or,
      List.mem_append, List.mem_map, absent.2, or_false, Bool.false_eq_true]

/-- The name under which something is listed in the folder above it. -/
theorem listed_iff :
    (if !isBase inner && inner.dropLast = location then inner.getLast? else none) = some name ↔
      isBase inner = false ∧ inner = location ++ [name] := by
  constructor
  · intro listed
    split at listed
    next outside =>
      simp only [Bool.and_eq_true, Bool.not_eq_true', decide_eq_true_eq] at outside
      refine ⟨outside.1, ?_⟩
      rw [← outside.2, List.dropLast_append_getLast? name listed]
    next => cases listed
  · rintro ⟨outside, rfl⟩
    simp [outside]

theorem mem_namesIn_iff :
    name ∈ disk.namesIn location ↔
      isBase (location ++ [name]) = false ∧ (disk.entry? (location ++ [name])).isSome := by
  rw [namesIn, List.mem_filterMap, isSome_entry?_iff]
  constructor
  · rintro ⟨inner, member, listed⟩
    obtain ⟨outside, rfl⟩ := listed_iff.mp listed
    exact ⟨outside, .inr member⟩
  · rintro ⟨outside, there⟩
    rw [outside] at there
    exact ⟨_, there.resolve_left Bool.false_ne_true, listed_iff.mpr ⟨outside, rfl⟩⟩

theorem IsProper.nodup_namesIn (proper : disk.IsProper) (location : Location) :
    (disk.namesIn location).Nodup := by
  apply List.Nodup.filterMap ?_ proper
  intro first second name first_eq second_eq
  rw [(listed_iff.mp first_eq).2, (listed_iff.mp second_eq).2]

/-- No base of a disk has a name that a graph file can have. -/
theorem isBase_of_isGraphName (json : Path.IsGraphName name) :
    isBase (location ++ [name]) = false := by
  have other (text : String) (short : ¬Path.IsGraphName text) : name ≠ text := by
    rintro rfl
    exact short json
  have up := other ".." (by unfold Path.IsGraphName; decide)
  have root := other "/" (by unfold Path.IsGraphName; decide)
  have roots := other "//" (by unfold Path.IsGraphName; decide)
  simp [isBase, isAncestor, up, List.append_eq_singleton_iff, root, roots]

theorem mem_graphPaths_iff (located : disk.locate folder = .ok location) :
    path ∈ disk.graphPaths folder ↔
      ∃ name, Path.IsGraphName name ∧ (disk.entry? (location ++ [name])).isSome ∧
        folder.child name = path := by
  rw [graphPaths, located]
  simp only [List.mem_map, List.mem_mergeSort, List.mem_filter, mem_namesIn_iff,
    List.isSuffixOf_iff_suffix]
  constructor
  · rintro ⟨name, ⟨⟨-, there⟩, json⟩, rfl⟩
    exact ⟨name, json, there, rfl⟩
  · rintro ⟨name, json, there, rfl⟩
    exact ⟨name, ⟨⟨isBase_of_isGraphName json, there⟩, json⟩, rfl⟩

/-- Different names are in strict order when they are sorted. -/
theorem pairwise_mergeSort_names (distinct : names.Nodup) :
    (names.mergeSort fun left right => left ≤ right).Pairwise (· < ·) := by
  have sorted := @List.pairwise_mergeSort String (fun left right => decide (left ≤ right))
  simp only [decide_eq_true_eq, Bool.or_eq_true] at sorted
  have distinct := (List.mergeSort_perm names fun left right => left ≤ right).nodup_iff.mpr distinct
  refine ((sorted (fun _ _ _ => String.le_trans) String.le_total names).and distinct).imp ?_
  rintro first second ⟨ordered, other⟩
  by_contra reversed
  exact other (String.le_antisymm ordered (String.not_lt.mp reversed))

/-- The graph files come in the order of their names, each of them once. -/
theorem IsProper.pairwise_graphPaths (proper : disk.IsProper) (folder : Path) :
    (disk.graphPaths folder).Pairwise fun path path' => path.name < path'.name := by
  rw [graphPaths]
  split
  next => exact List.Pairwise.nil
  next location _ =>
    simp only [List.pairwise_map, Path.name_child]
    exact pairwise_mergeSort_names ((proper.nodup_namesIn location).filter _)

end Disk

end Dialogue
