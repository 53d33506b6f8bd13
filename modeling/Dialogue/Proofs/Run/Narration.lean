import Dialogue.Proofs.Run.Scene

/-!
# Narration

A line of text between two nodes waits for whatever takes text next. That is the next node,
unless a choice block begins before it: then it is the first choice of that block, for the
block finds the line waiting and does not put it aside. So a choice consists of lines that
were added in its block, and only the first of a block can have narration in front of them.
-/

namespace Dialogue

namespace Scene

variable {scene later : Scene} {front between : List Notice} {number : Nat} {phase : Phase}
  {line : String}

/-- A passage consists of all lines that wait; it is a choice in a choice block and a node
behind a label. -/
theorem Step.passage {news : News} {passage : Passage} (step : scene.Step news later)
    (taken : news.passage? = some passage) :
    passage.lines = scene.lines ∧ passage.text = "\n".intercalate passage.lines ∧
      (passage.choice?.isSome ↔ scene.phase = .choice) := by
  cases step with
  | aside aside => cases news <;> simp_all [News.isAside, News.passage?]
  | gather | label | openBlock | endBlock => simp [News.passage?] at taken
  | endNode phase_eq taken_eq text_eq =>
    obtain rfl := Option.some.inj taken
    exact ⟨taken_eq, text_eq, by simp [Passage.choice?, phase_eq]⟩
  | endChoice phase_eq taken_eq text_eq =>
    obtain rfl := Option.some.inj taken
    exact ⟨taken_eq, text_eq, by simp [Passage.choice?, phase_eq]⟩

/-- A line waits with what was waiting before and all that is added until a passage is taken. -/
theorem gathered_around (untaken : passages between = []) :
    gathered (front ++ ⟨number, .textAdded phase line⟩ :: between) =
      gathered front ++ (phase, line) :: added between := by
  have untaken : passages (⟨number, .textAdded phase line⟩ :: between) = [] := untaken
  rw [gathered_append, if_pos untaken, gathered_of_passages_eq_nil untaken]
  rfl

/-- A line that was added between nodes was added in front of the open block. -/
theorem OpenBlock.exists_opened {before within : List Notice}
    (block : OpenBlock (front ++ ⟨number, .textAdded .idle line⟩ :: between) before within) :
    ∃ notice ∈ between, notice.news = .blockOpened := by
  obtain ⟨opened, split⟩ := block.split
  rcases List.append_eq_append_iff.mp split with ⟨gap, rfl, tail⟩ | ⟨gap, rfl, tail⟩
  · cases gap with
    | nil => simp at tail
    | cons first gap =>
      obtain ⟨-, rfl⟩ := List.cons.inj tail
      exact ⟨⟨opened, .blockOpened⟩, by simp, rfl⟩
  · cases gap with
    | nil => simp at tail
    | cons first gap =>
      obtain ⟨-, rfl⟩ := List.cons.inj tail
      have within := block.within_choice (.idle, line) (by simp [added, News.added?])
      cases within

/-- While a line that was added between nodes waits, the phase of choices is reached by the opening
of a block behind the line, and is not left again. -/
theorem Reached.phase_eq_choice_iff
    (reached : Reached (front ++ ⟨number, .textAdded .idle line⟩ :: between) scene)
    (untaken : passages between = []) :
    scene.phase = .choice ↔ ∃ notice ∈ between, notice.news = .blockOpened := by
  constructor
  · intro choosing
    obtain ⟨before, within, block⟩ := reached.exists_openBlock choosing
    exact block.exists_opened
  · rintro ⟨⟨opened, _⟩, member, rfl⟩
    by_contra outside
    obtain ⟨early, late, rfl⟩ := List.append_of_mem member
    rw [← List.cons_append, ← List.append_assoc] at reached
    rw [passages_append, List.append_eq_nil_iff] at untaken
    -- Outside of a block nothing that waited before it waits any more, but the line does.
    have untaken_late : passages late = [] := untaken.2
    have used : gathered (front ++ ⟨number, .textAdded .idle line⟩ :: early) = [] :=
      reached.gathered_eq_nil_of_opened outside rfl untaken_late
    simp [gathered_around untaken.1] at used

/-- In an open block the lines that wait were added in it. Until a passage is taken in it, what
was waiting when it was opened comes first. -/
theorem OpenBlock.gathered_eq {journal before within : List Notice}
    (block : OpenBlock journal before within) :
    gathered journal =
      (if passages within = [] then gathered before else []) ++ gathered within := by
  obtain ⟨opened, rfl⟩ := block.split
  have inside : gathered (⟨opened, .blockOpened⟩ :: within) = gathered within := by
    have nothing : gathered [⟨opened, .blockOpened⟩] = [] := rfl
    have waiting := gathered_append [⟨opened, .blockOpened⟩] within
    rwa [nothing, ite_self] at waiting
  rw [gathered_append, inside]
  rfl

end Scene

/-- The first passage of a journal that has one. -/
theorem exists_first_passage {journal : List Notice} (some : passages journal ≠ []) :
    ∃ between taken rest passage, journal = between ++ taken :: rest ∧ passages between = [] ∧
      taken.news.passage? = .some passage := by
  induction journal with
  | nil => exact absurd rfl some
  | cons notice journal ih =>
    cases taken : notice.news.passage? with
    | some passage => exact ⟨[], notice, journal, passage, rfl, rfl, taken⟩
    | none =>
      have skip (more : List Notice) : passages (notice :: more) = passages more := by
        simp [passages, taken]
      obtain ⟨between, first, rest, passage, rfl, untaken, taken⟩ := ih (skip _ ▸ some)
      exact ⟨notice :: between, first, rest, passage, rfl, (skip _).trans untaken, taken⟩

namespace Run

variable {σ : Type}

/-- Where narration goes. A line that is added between nodes waits, with the lines before and
behind it, until the next passage is taken, or to the end. This passage is a choice if and only
if a choice block was opened behind the line; otherwise it is a node. A choice consists of
lines that were added in the phase of choices since its block was opened. Only the first passage
of the block has more: in front of these lines it has those that were added between nodes and
were waiting when the block was opened. -/
theorem narration_of_compile (observer : Observer σ) (config : Config) (state : σ)
    (lines : List String) :
    ∃ run graph, compile observer.recording config (state, []) lines = (run, .ok graph) ∧
      (∀ front number line back,
        run.journal = front ++ ⟨number, .textAdded .idle line⟩ :: back →
          (passages back = [] ∧ run.session.draft.text =
            (gathered front).map Prod.snd ++ line :: (added back).map Prod.snd) ∨
          ∃ between taken rest passage, back = between ++ taken :: rest ∧
            passages between = [] ∧ taken.news.passage? = some passage ∧
            passage.lines =
              (gathered front).map Prod.snd ++ line :: (added between).map Prod.snd ∧
            passage.text = "\n".intercalate passage.lines ∧
            (passage.choice?.isSome ↔ ∃ notice ∈ between, notice.news = .blockOpened)) ∧
      ∀ front number choice taken back,
        run.journal = front ++ ⟨number, .choiceWritten choice taken⟩ :: back →
          choice.text = "\n".intercalate taken ∧
          ∃ before within, Scene.OpenBlock front before within ∧
            taken = ((if passages within = [] then gathered before else []) ++
              gathered within).map Prod.snd := by
  obtain ⟨run, graph, scene, compiled, plays⟩ := plays_of_compile observer config state lines
  refine ⟨run, graph, compiled, ?_, ?_⟩
  · intro front number line back split
    have reached := split ▸ plays.reached
    by_cases untaken : passages back = []
    · refine .inl ⟨untaken, ?_⟩
      rw [plays.text, Scene.lines, reached.waiting_eq, Scene.gathered_around untaken]
      simp
    · obtain ⟨between, taken, rest, passage, rfl, untaken, passage_eq⟩ :=
        exists_first_passage untaken
      rw [← List.cons_append, ← List.append_assoc] at reached
      obtain ⟨earlier, _, reached, step⟩ := reached.exists_step_of_split
      obtain ⟨lines_eq, text_eq, choice_iff⟩ := step.passage passage_eq
      refine .inr ⟨between, taken, rest, passage, rfl, untaken, passage_eq, ?_, text_eq,
        choice_iff.trans (reached.phase_eq_choice_iff untaken)⟩
      rw [lines_eq, Scene.lines, reached.waiting_eq, Scene.gathered_around untaken]
      simp
  · intro front number choice taken back split
    obtain ⟨earlier, _, reached, step⟩ := (split ▸ plays.reached).exists_step_of_split
    obtain ⟨lines_eq, text_eq, choice_iff⟩ := step.passage rfl
    obtain ⟨before, within, block⟩ := reached.exists_openBlock (choice_iff.mp rfl)
    refine ⟨text_eq, before, within, block, ?_⟩
    rw [← block.gathered_eq, ← reached.waiting_eq]
    exact lines_eq

/-- Narration in front of a block goes to the first choice of the block and not to the second. -/
theorem narration_of_compile_block :
    ∃ run graph, compile Observer.silent.recording {} ((), [])
        ["Alice:", "Hi", "@wave", "So.", "\tYes", "\t[yes]", "\tNo"] = (run, .ok graph) ∧
      (∃ between taken rest passage, run.journal.drop 7 = between ++ taken :: rest ∧
        taken.news.passage? = some passage ∧
        passage.lines = "So." :: (added between).map Prod.snd ∧
        (passage.choice?.isSome ↔ ∃ notice ∈ between, notice.news = .blockOpened)) ∧
      ∃ before within, Scene.OpenBlock (run.journal.take 12) before within ∧
        ["No"] = ((if passages within = [] then gathered before else []) ++
          gathered within).map Prod.snd := by
  obtain ⟨run, graph, compiled, narration, choices⟩ := narration_of_compile Observer.silent {} ()
    ["Alice:", "Hi", "@wave", "So.", "\tYes", "\t[yes]", "\tNo"]
  obtain ⟨first, taken, before, second⟩ :
      run.journal = run.journal.take 6 ++ ⟨4, .textAdded .idle "So."⟩ :: run.journal.drop 7 ∧
      passages (run.journal.drop 7) ≠ [] ∧ gathered (run.journal.take 6) = [] ∧
      run.journal = run.journal.take 12 ++
        ⟨7, .choiceWritten ⟨"No", some "yes"⟩ ["No"]⟩ :: run.journal.drop 13 := by
    obtain rfl : _ = run := congrArg Prod.fst compiled
    decide +kernel
  refine ⟨run, graph, compiled, ?_, (choices _ _ _ _ _ second).2⟩
  obtain ⟨between, next, rest, passage, split, -, next_eq, lines_eq, -, opened⟩ :=
    (narration _ _ _ _ first).resolve_left fun pending => taken pending.1
  rw [before] at lines_eq
  exact ⟨between, next, rest, passage, split, next_eq, lines_eq, opened⟩

/-- A line that is added between nodes can miss the next node and become part of a choice. -/
theorem narration_in_choice :
    let run := (compile Observer.silent.recording {} ((), [])
      ["Alice:", "Hi", "@wave", "Well.", "\tYes", "\t[yes]", "Bob:", "Go"]).1
    added run.journal = [(.dialogue, "Hi"), (.idle, "Well."), (.choice, "Yes"), (.dialogue, "Go")] ∧
      (passages run.journal).map (fun passage => (passage.choice?, passage.lines)) =
        [(none, ["Hi"]), (some ⟨"Well.\nYes", some "yes"⟩, ["Well.", "Yes"]), (none, ["Go"])] := by
  decide +kernel

end Run

end Dialogue
