import Dialogue.Proofs.Layout.Lines
import Mathlib.Data.List.Basic

/-!
# Compiling a script in the usual layout

The lines of a block lead from a run that is ready for the block to one that is ready for
the next, with one more node closed or about to be closed. Blank lines may stand anywhere,
and so a compile of the lines of all blocks has exactly the nodes that the blocks describe.
-/

namespace Dialogue

open Script Text Layout

/-- Whether there is something to see on a line. -/
def isPresent (line : String) : Bool :=
  !isBlankLine line.toList

namespace Run

variable {σ : Type} {observer : Observer σ} {config : Config}

/-! ## Lines with blank lines between them -/

/-- Blank lines keep a law about runs. -/
def Steady (Law : Run σ → Prop) : Prop :=
  ∀ run, Law run → Law run.atNextLine

/-- From every run before them, lines lead to a run after them, whatever blank lines stand in
front, between and behind. -/
def Reads (observer : Observer σ) (Before : Run σ → Prop) (lines : List String)
    (After : Run σ → Prop) : Prop :=
  ∀ run raws, Before run → raws.filter isPresent = lines →
    ∃ next, readAll observer run raws = (next, none) ∧ After next

namespace Reads

variable {Before Between After : Run σ → Prop} {lines more : List String}

theorem nil (steady : Steady After) : Reads observer After [] After := by
  intro run raws after blank
  induction raws generalizing run with
  | nil => exact ⟨run, rfl, after⟩
  | cons raw raws ih =>
    have all_blank := List.filter_eq_nil_iff.mp blank
    have blank_raw : isBlankLine raw.toList = true := by
      simpa [isPresent] using all_blank raw List.mem_cons_self
    have trimmed : isBlankLine (trimLineEnd raw.toList) = true :=
      isBlankLine_eq_true.mpr fun c member =>
        isBlankLine_eq_true.mp blank_raw c ((isPrefix_trimLineEnd _).subset member)
    rw [readAll_cons observer raws (readLine_of_blank trimmed)]
    refine ih run.atNextLine (steady run after) (List.filter_eq_nil_iff.mpr ?_)
    exact fun other member => all_blank other (List.mem_cons_of_mem _ member)

theorem append (first : Reads observer Before lines Between)
    (second : Reads observer Between more After) :
    Reads observer Before (lines ++ more) After := by
  intro run raws before split
  obtain ⟨front, behind, rfl, front_eq, behind_eq⟩ := List.filter_eq_append_iff.mp split
  obtain ⟨between, read, kept⟩ := first run front before front_eq
  rw [readAll_append observer behind read]
  exact second between behind kept behind_eq

theorem line {line : String} (steady_before : Steady Before) (steady_after : Steady After)
    (read : ∀ run, Before run → ∃ next, readLine observer run line = (next, none) ∧ After next) :
    Reads observer Before [line] After := by
  intro run raws before split
  obtain ⟨front, behind, rfl, front_blank, -, behind_blank⟩ := List.filter_eq_cons_iff.mp split
  obtain ⟨between, read_front, kept⟩ :=
    Reads.nil steady_before run front before (List.filter_eq_nil_iff.mpr front_blank)
  obtain ⟨next, read_line, after⟩ := read between kept
  rw [readAll_append observer _ read_front, readAll_cons observer _ read_line]
  exact Reads.nil steady_after next behind after behind_blank

theorem weaken {Weaker : Run σ → Prop} (reads : Reads observer Before lines After)
    (weaker : ∀ run, After run → Weaker run) : Reads observer Before lines Weaker := by
  intro run raws before split
  obtain ⟨next, read, after⟩ := reads run raws before split
  exact ⟨next, read, weaker next after⟩

/-- The lines of several items are read if the lines of each are. -/
theorem flatMap {α : Type} (Law : List α → Run σ → Prop) {itemLines : α → List String}
    {items : List α} (steady : Steady (Law items))
    (each : ∀ done item rest, items = done ++ item :: rest →
      Reads observer (Law done) (itemLines item) (Law (done ++ [item]))) :
    Reads observer (Law []) (items.flatMap itemLines) (Law items) := by
  suffices ∀ done rest, items = done ++ rest →
      Reads observer (Law done) (rest.flatMap itemLines) (Law items) from this [] items rfl
  intro done rest split
  induction rest generalizing done with
  | nil =>
    obtain rfl : items = done := by simpa using split
    exact .nil steady
  | cons item rest ih =>
    rw [List.flatMap_cons]
    exact (each done item rest split).append (ih (done ++ [item]) (by simpa using split))

end Reads

/-! ## Blocks -/

section Blocks

variable {nodes : List Node} {block : Block}

theorem Speaking.steady {text : List String} :
    @Steady σ (Speaking config nodes block text) :=
  fun _ speaking => speaking.atNextLine

theorem Choosing.steady {entries : List Entry} {text : List String} :
    @Steady σ (Choosing config nodes block entries text) :=
  fun _ choosing => choosing.atNextLine

theorem Spoken.steady {entries : List Entry} :
    @Steady σ (Spoken config nodes block entries) :=
  fun _ spoken => spoken.atNextLine

theorem Ready.steady {commands : List Command} : @Steady σ (Ready config nodes commands) :=
  fun _ ready => ready.atNextLine

variable (passive : observer.IsPassive)
include passive

theorem reads_commands (fits : block.Fits config) (room : nodes.length < config.maxNodes) :
    Reads observer (Ready config nodes []) (block.commands.map commandLine)
      (Ready config nodes block.commands) := by
  rw [List.map_eq_flatMap]
  apply Reads.flatMap (Ready config nodes) Ready.steady
  intro done command rest split
  apply Reads.line Ready.steady Ready.steady
  intro run ready
  have few := fits.commands_le
  rw [split, List.length_append, List.length_cons] at few
  exact ready.readCommand passive (fits.commands command (by simp [split])) room.le (by omega)

theorem reads_opening (fits : block.Fits config) (room : nodes.length < config.maxNodes) :
    Reads observer (Ready config nodes block.commands)
      [tagLine block.tag, labelLine block.speaker] (Speaking config nodes block []) := by
  have tag : Reads observer (Ready config nodes block.commands) [tagLine block.tag] fun run =>
      run.Stage config .idle nodes block.commands [] [] ∧ run.session.draft.tag = block.tag := by
    apply Reads.line Ready.steady (fun _ tagged => ⟨tagged.1.atNextLine, tagged.2⟩)
    intro run ready
    exact ready.readTag passive fits.tag room.le
  refine tag.append (.line (fun _ tagged => ⟨tagged.1.atNextLine, tagged.2⟩) Speaking.steady ?_)
  intro run tagged
  exact tagged.1.readLabel passive tagged.2 fits.speaker

theorem reads_text (fits : block.Fits config) :
    Reads observer (Speaking config nodes block []) block.text
      (Speaking config nodes block block.text) := by
  have reads : Reads observer (Speaking config nodes block []) (block.text.flatMap fun line => [line])
      (Speaking config nodes block block.text) := by
    apply Reads.flatMap (Speaking config nodes block) Speaking.steady
    intro done line rest split
    apply Reads.line Speaking.steady Speaking.steady
    intro run speaking
    exact speaking.readText passive (fits.text line (by simp [split]))
  simpa using reads

theorem reads_entry {entries : List Entry} {entry : Entry} (fits : entry.Fits config)
    (room : nodes.length < config.maxNodes) (free : entries.length < config.maxChoices) :
    Reads observer (Spoken config nodes block entries) entry.lines
      (Spoken config nodes block (entries ++ [entry])) := by
  obtain ⟨first, rest, text_eq⟩ := List.exists_cons_of_ne_nil fits.text_ne_nil
  have opening : Reads observer (Spoken config nodes block entries) [indent first]
      (Choosing config nodes block entries [first]) := by
    apply Reads.line Spoken.steady Choosing.steady
    intro run spoken
    exact spoken.readText passive (fits.text first (by simp [text_eq])) room
  have text : Reads observer (Choosing config nodes block entries [first]) (rest.map indent)
      (Choosing config nodes block entries entry.text) := by
    rw [List.map_eq_flatMap, text_eq]
    apply Reads.flatMap (fun done => Choosing config nodes block entries (first :: done))
      Choosing.steady
    intro done line behind split
    apply Reads.line Choosing.steady Choosing.steady
    intro run choosing
    exact choosing.readText passive (fits.text line (by simp [text_eq, split]))
  have target : Reads observer (Choosing config nodes block entries entry.text)
      [indent (tagLine entry.target)] (Choosing config nodes block (entries ++ [entry]) []) := by
    apply Reads.line Choosing.steady Choosing.steady
    intro run choosing
    exact choosing.readTarget passive fits free
  have reads := (opening.append (text.append target)).weaken fun _ choosing => Spoken.entries choosing
  simpa [Entry.lines, text_eq] using reads

/-- The lines of a block close or are about to close one more node, the one that the block
describes. -/
theorem reads_block (fits : block.Fits config) (room : nodes.length < config.maxNodes) :
    Reads observer (Ready config nodes []) block.lines (Ready config (nodes ++ [block.node]) []) := by
  have entries : Reads observer (Spoken config nodes block []) (block.entries.flatMap Entry.lines)
      (Spoken config nodes block block.entries) := by
    apply Reads.flatMap (Spoken config nodes block) Spoken.steady
    intro done entry rest split
    have few := fits.entries_le
    rw [split, List.length_append, List.length_cons] at few
    exact reads_entry passive (fits.entries entry (by simp [split])) room (by omega)
  have text : Reads observer (Speaking config nodes block []) block.text
      (Spoken config nodes block []) :=
    (reads_text passive fits).weaken fun _ speaking => .text speaking rfl
  have ready := (text.append entries).weaken fun _ spoken => Ready.behind spoken rfl rfl
  exact (reads_commands passive fits room).append ((reads_opening passive fits room).append ready)

theorem reads_blocks {blocks : List Block} (fits : ∀ block ∈ blocks, block.Fits config)
    (room : blocks.length ≤ config.maxNodes) :
    Reads observer (Ready config [] []) (blocks.flatMap Block.lines)
      (Ready config (blocks.map Block.node) []) := by
  apply Reads.flatMap (fun done => Ready config (done.map Block.node) []) Ready.steady
  intro done block rest split
  rw [split, List.length_append, List.length_cons] at room
  rw [List.map_append]
  exact reads_block passive (fits block (by simp [split])) (by simp; omega)

/-- The end of a script does what the last block has left to be done. -/
theorem Ready.close {run : Run σ} (ready : run.Ready config nodes [])
    (flushes : config.flushAtEnd = true) (room : nodes.length ≤ config.maxNodes) :
    ∃ next, close observer run = (next, none) ∧ next.session.assembly.nodes = nodes := by
  have settled : Run.close observer run = settle observer run := by
    rw [Run.close, ready.settings, if_pos flushes]
  rw [settled]
  cases ready with
  | opening stage => exact ⟨run, by rw [settle, stage.session.phase_eq], stage.session.nodes_eq⟩
  | @behind front block spoken nodes_eq _ =>
    subst nodes_eq
    cases spoken with
    | text speaking none =>
      obtain ⟨next, ended, stage⟩ := speaking.endBlock passive none room
      refine ⟨next.withPhase .idle, ?_, stage.session.nodes_eq⟩
      simp only [settle, speaking.session.phase_eq, ended]
    | entries choosing =>
      refine ⟨(endBlock observer (endChoice observer run)).withPhase .idle, ?_, ?_⟩
      · simp only [settle, choosing.session.phase_eq]
      · exact (choosing.endBlock passive).session.nodes_eq

end Blocks

/-- The lines of blocks that fit compile to the nodes that the blocks describe. -/
theorem compile_of_lines (bystander : observer.IsBystander) (state : σ) {blocks : List Block}
    {lines : List String} (flushes : config.flushAtEnd = true)
    (room : blocks.length ≤ config.maxNodes) (fits : ∀ block ∈ blocks, block.Fits config)
    (laid_out : lines.filter isPresent = blocks.flatMap Block.lines) :
    (compile observer config state lines).2 = .ok ⟨blocks.map Block.node⟩ := by
  have passive := bystander.isPassive
  have ready : (start observer config state).Ready config [] [] :=
    .opening ⟨bystander.keeps _ _ _, .start config⟩
  obtain ⟨read, readAll_eq, ready⟩ := reads_blocks passive fits room _ lines ready laid_out
  obtain ⟨closed, close_eq, nodes_eq⟩ := ready.close passive flushes (by simpa using room)
  have compiled : compile observer config state lines =
      ((result observer closed).1, .ok closed.session.assembly.graph) :=
    compile_eq_ok_iff.mpr ⟨read, closed, readAll_eq, close_eq, rfl⟩
  rw [compiled, Assembly.graph, nodes_eq]

end Run

/-! ## Whole scripts -/

/-- A line with something to see is one line, and cutting a blank line gives blank lines. -/
theorem filter_splitLines {line : String} (whole : isPresent line = true → '\n' ∉ line.toList) :
    ((splitLines line.toList).map String.ofList).filter isPresent = [line].filter isPresent := by
  cases present : isPresent line with
  | true => simp [splitLines_of_whole (whole present)]
  | false =>
    have blank : ∀ c ∈ line.toList, isBlank c = true := by simpa [isPresent] using present
    have pieces : ∀ piece ∈ (splitLines line.toList).map String.ofList,
        ¬isPresent piece = true := by
      intro piece cut
      obtain ⟨chars, inside, rfl⟩ := List.mem_map.mp cut
      simpa [isPresent] using fun c member => blank c (mem_of_mem_splitLines inside member)
    rw [List.filter_eq_nil_iff.mpr pieces, List.filter_cons_of_neg (by simp [present]),
      List.filter_nil]

/-- The lines of a script that are present are those that it was put together from. -/
theorem filter_scriptLines {lines : List String}
    (whole : ∀ line ∈ lines, isPresent line = true → '\n' ∉ line.toList) :
    (scriptLines ("\n".intercalate lines)).filter isPresent = lines.filter isPresent := by
  by_cases none : lines = []
  · subst none
    decide
  · have some_line : lines.map String.toList ≠ [] := by simpa using none
    have cut : scriptLines ("\n".intercalate lines) =
        lines.flatMap fun line => (splitLines line.toList).map String.ofList := by
      have := splitLines_joinLines some_line
      rw [joinLines, List.flatMap_map] at this
      rw [scriptLines, String.toList_intercalate, ← List.map_flatMap, ← this]
      rfl
    calc (scriptLines ("\n".intercalate lines)).filter isPresent
        = lines.flatMap fun line =>
            ((splitLines line.toList).map String.ofList).filter isPresent := by
          rw [cut, List.filter_flatMap]
      _ = lines.flatMap fun line => [line].filter isPresent :=
          List.flatMap_congr fun line member => filter_splitLines (whole line member)
      _ = lines.filter isPresent := by
          rw [← List.filter_flatMap, List.flatMap_singleton']

/-- A script in the usual layout compiles to the graph that it describes. The layout leaves room
for blank lines everywhere; what it asks for is that every line has its form and that the
settings have room for every node, command and choice and close the last block. -/
theorem compile_of_layout {config : Config} {blocks : List Block} {lines : List String}
    (flushes : config.flushAtEnd = true) (room : blocks.length ≤ config.maxNodes)
    (fits : ∀ block ∈ blocks, block.Fits config)
    (laid_out : lines.filter isPresent = blocks.flatMap Block.lines) :
    compile config ("\n".intercalate lines) = .ok ⟨blocks.map Block.node⟩ := by
  have whole : ∀ line ∈ lines, isPresent line = true → '\n' ∉ line.toList := by
    intro line member present
    have inside : line ∈ blocks.flatMap Block.lines :=
      laid_out ▸ List.mem_filter.mpr ⟨member, present⟩
    obtain ⟨block, among, inside⟩ := List.mem_flatMap.mp inside
    exact (fits block among).whole inside
  exact Run.compile_of_lines Observer.silent_isBystander () flushes room fits
    ((filter_scriptLines whole).trans laid_out)

/-- Two blocks, the first with a command, two lines of text and two choices. -/
theorem compile_of_layout_two :
    compile {} ("\n".intercalate ["@play_music town", "[start]", "  ", "Alice:", "Hello there.",
      "How are you?", "", "\tGood,", "\tthanks!", "\t[good_reply]", "\tNot so great.",
      "\t[bad_reply]", "", "[good_reply]", "Bob: Jr:", "Great to hear!", "\r"]) =
    .ok ⟨[⟨"start", some "Alice", "Hello there.\nHow are you?", [⟨"play_music", some "town"⟩],
        [⟨"Good,\nthanks!", some "good_reply"⟩, ⟨"Not so great.", some "bad_reply"⟩], by decide⟩,
      ⟨"good_reply", some "Bob: Jr", "Great to hear!", [], [], by decide⟩]⟩ :=
  @compile_of_layout {}
    [⟨[⟨"play_music", some "town"⟩], "start", "Alice", ["Hello there.", "How are you?"],
        [⟨["Good,", "thanks!"], "good_reply"⟩, ⟨["Not so great."], "bad_reply"⟩], by decide⟩,
      ⟨[], "good_reply", "Bob: Jr", ["Great to hear!"], [], by decide⟩]
    ["@play_music town", "[start]", "  ", "Alice:", "Hello there.", "How are you?", "", "\tGood,",
      "\tthanks!", "\t[good_reply]", "\tNot so great.", "\t[bad_reply]", "", "[good_reply]",
      "Bob: Jr:", "Great to hear!", "\r"]
    (by decide) (by decide) (by decide) (by decide)

end Dialogue
