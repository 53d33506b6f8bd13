import Dialogue.Proofs.CommandLine.Exit
import Dialogue.Proofs.Layout.Spacing
import Mathlib.Data.List.Chain
import Mathlib.Data.List.DropRight

/-!
# Scripts in files

The script in a file is decoded, its byte order mark is left out, and its line breaks are made
uniform before it is cut into lines. A script at hand is cut at its line feeds as it is. The lines
differ, since a run of carriage returns becomes blank lines in the one case and stays behind a line
in the other, but the contents do not, unless a carriage return stands inside a line.
-/

namespace Dialogue

open Script Text

namespace Text

/-! ## Carriage returns at the ends of lines -/

/-- Every run of carriage returns, taken as long as it goes, ends at a line feed or at the end of
the text. -/
def ReturnsEndLines (text : List Char) : Prop :=
  ∀ before run after, text = before ++ run ++ after → run ≠ [] → (∀ c ∈ run, c = '\r') →
    before.getLast? ≠ some '\r' → after.head? ≠ some '\r' → after.head? = some '\n' ∨ after = []

/-- What stands behind a carriage return is another one or a line feed. -/
def MayPrecede (c next : Char) : Prop :=
  c = '\r' → next = '\r' ∨ next = '\n'

instance (c next : Char) : Decidable (MayPrecede c next) :=
  inferInstanceAs (Decidable (_ → _))

/-- Where runs end can be told from neighbours alone. -/
theorem returnsEndLines_iff {text : List Char} :
    ReturnsEndLines text ↔ text.IsChain MayPrecede := by
  rw [List.isChain_iff_forall_rel_of_append_cons_cons]
  constructor
  · rintro ends c next before after rfl rfl
    by_contra inside
    rw [not_or] at inside
    -- The run that this carriage return ends begins behind the last other character before it.
    have run_eq : before ++ '\r' :: next :: after = before.rdropWhile (· == '\r') ++
        (before.rtakeWhile (· == '\r') ++ ['\r']) ++ next :: after := by
      rw [← List.append_assoc, List.rdropWhile_append_rtakeWhile]
      simp
    have returns : ∀ d ∈ before.rtakeWhile (· == '\r') ++ ['\r'], d = '\r' := by
      intro d member
      rcases List.mem_append.mp member with earlier | last
      · simpa using List.mem_rtakeWhile_imp earlier
      · exact List.mem_singleton.mp last
    have front : (before.rdropWhile (· == '\r')).getLast? ≠ some '\r' := by
      intro last
      obtain ⟨nonempty, last_eq⟩ := List.mem_getLast?_eq_getLast last
      apply List.rdropWhile_last_not (· == '\r') before nonempty
      rw [← last_eq]
      rfl
    rcases ends _ _ _ run_eq (by simp) returns front (by simpa using inside.1) with feed | nothing
    · exact inside.2 (Option.some.inj feed)
    · cases nothing
  · rintro chain before run after rfl present returns - maximal
    cases after with
    | nil => exact .inr rfl
    | cons next after =>
      have ended := List.dropLast_append_getLast present
      rw [returns _ (List.getLast_mem present)] at ended
      have cut : before ++ run ++ next :: after =
          (before ++ run.dropLast) ++ '\r' :: next :: after := by
        rw [← ended]
        simp
      rcases chain cut rfl with rfl | rfl
      · exact absurd rfl maximal
      · exact .inl rfl

end Text

/-! ## The contents of a text -/

/-- The readings of the lines of a text, without their numbers. -/
def textContents (threshold : Int) (text : List Char) : List Reading :=
  contents threshold ((splitLines text).map String.ofList)

section Contents

variable {threshold : Int} {text front rest : List Char}

theorem textContents_nil (threshold : Int) : textContents threshold [] = [] :=
  contents_blank rfl

/-- What stands before a line feed and what stands behind it have nothing to do with each
other. -/
theorem textContents_append (threshold : Int) (text rest : List Char) :
    textContents threshold (text ++ '\n' :: rest) =
      textContents threshold text ++ textContents threshold rest := by
  rw [textContents, splitLines_append, List.map_append, contents_append]
  rfl

theorem textContents_lineFeed (threshold : Int) (rest : List Char) :
    textContents threshold ('\n' :: rest) = textContents threshold rest := by
  have split := textContents_append threshold [] rest
  rwa [textContents_nil] at split

/-- A character behind a text is put behind its last line. -/
theorem exists_splitLines_concat {c : Char} (line : c ≠ '\n') (text : List Char) :
    ∃ lines last, splitLines text = lines ++ [last] ∧
      splitLines (text ++ [c]) = lines ++ [last ++ [c]] := by
  induction text with
  | nil => exact ⟨[], [], rfl, by simp [splitLines, line]⟩
  | cons first text ih =>
    obtain ⟨lines, last, cut, cut_concat⟩ := ih
    by_cases feed : first = '\n'
    · subst feed
      exact ⟨[] :: lines, last, by simp [cut], by simp [cut_concat]⟩
    · cases lines with
      | nil =>
        exact ⟨[], first :: last, by simp [splitLines, feed, cut],
          by simp [splitLines, feed, cut_concat]⟩
      | cons next lines =>
        exact ⟨(first :: next) :: lines, last, by simp [splitLines, feed, cut],
          by simp [splitLines, feed, cut_concat]⟩

/-- A carriage return at the end of a text does not count. -/
theorem textContents_concat_return (threshold : Int) (text : List Char) :
    textContents threshold (text ++ ['\r']) = textContents threshold text := by
  obtain ⟨lines, last, cut, cut_concat⟩ := exists_splitLines_concat (c := '\r') (by decide) text
  have ended : reading? threshold 0 (String.ofList (last ++ ['\r'])) =
      reading? threshold 0 (String.ofList last) := by
    have appended : reading? threshold 0 (String.ofList last ++ "\r") =
        reading? threshold 0 (String.ofList last) :=
      reading?_append_breaks (String.ofList last) (by simp)
    rwa [← String.ofList_append] at appended
  rw [textContents, textContents, cut, cut_concat, List.map_append, List.map_append,
    contents_append, contents_append]
  simp only [contents, List.map_cons, List.map_nil, List.filterMap_cons, ended]

/-- A carriage return separates what stands on both sides of it like a line feed, if it stands at
the end of a line. -/
theorem textContents_return (chain : ('\r' :: rest).IsChain MayPrecede) (front : List Char) :
    textContents threshold (front ++ '\r' :: rest) =
      textContents threshold front ++ textContents threshold rest := by
  induction rest generalizing front with
  | nil => rw [textContents_concat_return, textContents_nil, List.append_nil]
  | cons c rest ih =>
    obtain ⟨next, chain⟩ := List.isChain_cons_cons.mp chain
    rw [List.append_cons]
    rcases next rfl with rfl | rfl
    · have behind := ih chain []
      rw [List.nil_append, textContents_nil, List.nil_append] at behind
      rw [ih chain, textContents_concat_return, behind]
    · rw [textContents_append, textContents_concat_return, textContents_lineFeed]

/-- With uniform line breaks a text has the same contents, behind whatever stands before it. -/
theorem textContents_uniformBreaks (chain : text.IsChain MayPrecede) (front : List Char) :
    textContents threshold (front ++ uniformBreaks text) =
      textContents threshold (front ++ text) := by
  induction text using uniformBreaks.induct generalizing front with
  | case1 => rfl
  | case2 rest ih =>
    have behind := ih chain.tail.tail []
    rw [uniformBreaks, textContents_append, textContents_return chain, textContents_lineFeed]
    exact congrArg _ behind
  | case3 c rest single ih =>
    have kept := ih chain.tail
    rw [uniformBreaks.eq_3 c rest single]
    split
    next carriage =>
      subst carriage
      rw [textContents_append, textContents_return chain]
      exact congrArg _ (kept [])
    next =>
      rw [List.append_cons, kept, ← List.append_cons]

end Contents

/-! ## Compiles of files -/

namespace Disk

variable {disk : Disk} {path : Path} {script : String}

/-- A file that holds the bytes of a script, behind a byte order mark or without one. -/
def HoldsScript (disk : Disk) (path : Path) (script : String) : Prop :=
  disk.read path = .ok (Utf8.encode script.toList) ∨
    disk.read path = .ok (Utf8.byteOrderMark ++ Utf8.encode script.toList)

/-- What is read from the file of a script is the script with uniform line breaks. -/
theorem HoldsScript.readScript_eq (held : disk.HoldsScript path script)
    (unmarked : script.toList.head? ≠ some '\uFEFF') :
    disk.readScript path = .ok (String.ofList (uniformBreaks script.toList)) := by
  have decoded {bytes : Utf8.Bytes} (read : disk.read path = .ok bytes)
      (script_eq : Utf8.dropByteOrderMark bytes = Utf8.encode script.toList) :
      disk.readScript path = .ok (String.ofList (uniformBreaks script.toList)) := by
    simp only [readScript, readBytes, textOf, bind, Except.bind, read, script_eq,
      Utf8.decode_encode]
    rfl
  rcases held with plain | marked
  · exact decoded plain (Utf8.dropByteOrderMark_encode unmarked)
  · exact decoded marked (Utf8.dropByteOrderMark_append _)

/-- Every script has a graph. -/
theorem exists_graph (config : Config) (script : String) :
    ∃ graph, compile config script = .ok graph := by
  obtain ⟨_, closed, -, -, -, compiled⟩ :=
    Run.exists_compile .silent config () (scriptLines script)
  exact ⟨_, congrArg Prod.snd compiled⟩

/-- A script is compiled to the same graph from a file as from its text, with a byte order mark in
front of its bytes or without one, if it begins with no such mark itself and its carriage returns
stand at the ends of lines. -/
theorem compileFile_of_holdsScript (held : disk.HoldsScript path script)
    (unmarked : script.toList.head? ≠ some '\uFEFF') (ends : ReturnsEndLines script.toList)
    (config : Config) :
    ∃ graph, disk.compileFile config path = .ok graph ∧ compile config script = .ok graph := by
  have read := held.readScript_eq unmarked
  have same : textContents config.indentThreshold (uniformBreaks script.toList) =
      textContents config.indentThreshold script.toList :=
    textContents_uniformBreaks (returnsEndLines_iff.mp ends) []
  have alike : compile config (String.ofList (uniformBreaks script.toList)) =
      compile config script := by
    apply Run.compileLines_of_contents
    rw [scriptLines, String.toList_ofList]
    exact same
  obtain ⟨graph, compiled⟩ := exists_graph config script
  refine ⟨graph, ?_, compiled⟩
  rw [compileFile_of_readScript read, alike, compiled]
  rfl

/-- A script with two carriage returns before a line feed, one at its end, and characters of
several bytes. -/
def returnScript : String := "Zoë:\r\r\nHi 😀\r"

/-- The disk on which `returnScript` lies behind a byte order mark. -/
def markedDisk : Disk where
  files := [(["s.dlg"], Utf8.byteOrderMark ++ Utf8.encode returnScript.toList)]
  folders := []

theorem compileFile_of_holdsScript_marked :
    markedDisk.HoldsScript (.ofText "s.dlg") returnScript ∧
      ReturnsEndLines returnScript.toList ∧
      ∃ graph, markedDisk.compileFile default (.ofText "s.dlg") = .ok graph ∧
        compile default returnScript = .ok graph := by
  have held : markedDisk.HoldsScript (.ofText "s.dlg") returnScript := .inr rfl
  have ends : ReturnsEndLines returnScript.toList := returnsEndLines_iff.mpr (by decide)
  exact ⟨held, ends, compileFile_of_holdsScript held (by decide) ends default⟩

end Disk

end Dialogue
