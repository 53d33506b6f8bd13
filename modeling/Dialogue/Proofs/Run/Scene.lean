import Dialogue.Proofs.Run.Passage
import Mathlib.Data.List.DropRight

/-!
# Scenes

A scene is what matters about text at a moment of a compile: the phase, and the lines that
wait, each with the phase in which it was added. Every notice takes a scene to the next
one, and `Scene.Step` lists how. A run is always in the scene to which its journal leads,
so what holds of scenes by induction over journals holds of runs: the lines that wait are
those added since the latest passage, and a choice block that has ended has used up what
was waiting when it was opened.
-/

namespace Dialogue

open Script Text

/-- The line of text that news adds, with the phase in which it is added. -/
def News.added? : News → Option (Phase × String)
  | .textAdded phase line => some (phase, line)
  | _ => none

/-- The lines of text that were added in a journal, each with its phase. -/
def added (journal : List Notice) : List (Phase × String) :=
  journal.filterMap fun notice => notice.news.added?

/-- The lines of text that were added since the latest passage of a journal was taken. -/
def gathered (journal : List Notice) : List (Phase × String) :=
  added (journal.rtakeWhile fun notice => notice.news.passage?.isNone)

@[simp] theorem added_nil : added [] = [] := rfl

@[simp] theorem added_append (journal more : List Notice) :
    added (journal ++ more) = added journal ++ added more :=
  List.filterMap_append

theorem gathered_concat (journal : List Notice) (notice : Notice) :
    gathered (journal ++ [notice]) =
      if notice.news.passage?.isNone then gathered journal ++ added [notice] else [] := by
  rw [gathered, List.rtakeWhile_concat]
  split
  · exact added_append _ _
  · rfl

/-- What waited before counts until a passage is taken. -/
theorem gathered_append (before within : List Notice) :
    gathered (before ++ within) =
      (if passages within = [] then gathered before else []) ++ gathered within := by
  induction within using List.reverseRecOn with
  | nil => simp [gathered, passages, added]
  | append_singleton within notice ih =>
    rw [← List.append_assoc, gathered_concat, gathered_concat, passages_append]
    cases taken : notice.news.passage? with
    | none => simp [passages, taken, ih]
    | some passage => simp [passages, taken]

theorem gathered_of_passages_eq_nil {journal : List Notice} (untaken : passages journal = []) :
    gathered journal = added journal := by
  rw [passages, List.filterMap_eq_nil_iff] at untaken
  rw [gathered, List.rtakeWhile_eq_self_iff.mpr]
  intro notice member
  simp [untaken notice member]

/-! ## Steps -/

theorem News.added?_of_isAside {news : News} (aside : news.isAside = true) :
    news.added? = none := by
  cases news <;> simp_all [News.isAside, News.added?]

/-- The phase of a compile and the lines that wait, each with the phase in which it was added. -/
structure Scene where
  phase : Phase
  waiting : List (Phase × String)

namespace Scene

/-- The lines that wait. -/
def lines (scene : Scene) : List String :=
  scene.waiting.map Prod.snd

/-- How news takes a scene to the next one. -/
inductive Step (scene : Scene) : News → Scene → Prop where
  | aside {news : News} (aside : news.isAside = true) : Step scene news scene
  | gather {phase : Phase} (phase_eq : scene.phase = phase) (line : String) :
      Step scene (.textAdded phase line)
        { scene with waiting := scene.waiting ++ [(phase, line)] }
  | label (phase_eq : scene.phase = .idle) (speaker : String) :
      Step scene (.speakerSet speaker) { scene with phase := .dialogue }
  | openBlock (phase_eq : scene.phase = .idle) :
      Step scene .blockOpened { scene with phase := .choice }
  /-- A node takes every line that waits. -/
  | endNode {node : Node} {taken : List String} (phase_eq : scene.phase = .dialogue)
      (taken_eq : taken = scene.lines) (text_eq : node.text = "\n".intercalate taken) :
      Step scene (.nodeWritten node taken) ⟨.idle, []⟩
  /-- A choice takes every line that waits. -/
  | endChoice {choice : Choice} {taken : List String} (phase_eq : scene.phase = .choice)
      (taken_eq : taken = scene.lines) (text_eq : choice.text = "\n".intercalate taken) :
      Step scene (.choiceWritten choice taken) ⟨.choice, []⟩
  /-- No line waits any more when a block ends. -/
  | endBlock (phase_eq : scene.phase = .choice) (used : scene.waiting = [])
      (choices : List Choice) : Step scene (.blockClosed choices) ⟨.idle, []⟩

/-- The scenes to which a journal leads. -/
inductive Reached : List Notice → Scene → Prop where
  | begun : Reached [] ⟨.idle, []⟩
  | told {journal : List Notice} {notice : Notice} {earlier later : Scene}
      (reached : Reached journal earlier) (step : Step earlier notice.news later) :
      Reached (journal ++ [notice]) later

/-- The block that is open at the end of a journal: what was told before it was opened, and what
was told since. -/
structure OpenBlock (journal before within : List Notice) : Prop where
  split : ∃ line, journal = before ++ ⟨line, .blockOpened⟩ :: within
  unclosed : ∀ notice ∈ within, ∀ choices, notice.news ≠ .blockClosed choices
  before_idle : ∀ entry ∈ gathered before, entry.1 = .idle
  within_choice : ∀ entry ∈ added within, entry.1 = .choice

/-- What is told in an open block belongs to it. -/
theorem OpenBlock.append {journal before within : List Notice} {notice : Notice}
    (block : OpenBlock journal before within)
    (unclosed : ∀ choices, notice.news ≠ .blockClosed choices)
    (choice : ∀ entry ∈ added [notice], entry.1 = .choice) :
    OpenBlock (journal ++ [notice]) before (within ++ [notice]) := by
  obtain ⟨line, split⟩ := block.split
  refine ⟨⟨line, by simp [split]⟩, ?_, block.before_idle, ?_⟩
  · exact List.forall_mem_append.mpr ⟨block.unclosed, by simpa using unclosed⟩
  · rw [added_append]
    exact List.forall_mem_append.mpr ⟨block.within_choice, choice⟩

namespace Reached

variable {journal front back : List Notice} {notice : Notice} {scene : Scene}

theorem exists_step (reached : Reached (journal ++ [notice]) scene) :
    ∃ earlier, Reached journal earlier ∧ Step earlier notice.news scene := by
  generalize whole : journal ++ [notice] = told at reached
  cases reached with
  | begun => simp at whole
  | told reached step =>
    obtain ⟨rfl, last⟩ := List.append_inj' whole rfl
    obtain rfl := List.singleton_inj.mp last
    exact ⟨_, reached, step⟩

/-- Every notice of a journal has taken some scene to the next one. -/
theorem exists_step_of_split (reached : Reached (front ++ notice :: back) scene) :
    ∃ earlier later, Reached front earlier ∧ Step earlier notice.news later := by
  induction back using List.reverseRecOn generalizing scene with
  | nil =>
    obtain ⟨earlier, reached, step⟩ := reached.exists_step
    exact ⟨earlier, scene, reached, step⟩
  | append_singleton back last ih =>
    rw [← List.cons_append, ← List.append_assoc] at reached
    obtain ⟨_, reached, -⟩ := reached.exists_step
    exact ih reached

/-- The lines that wait are those that were added since the latest passage. -/
theorem waiting_eq (reached : Reached journal scene) : scene.waiting = gathered journal := by
  induction reached with
  | begun => rfl
  | @told journal notice earlier later reached step ih =>
    obtain ⟨line, news⟩ := notice
    rw [gathered_concat, ← ih]
    cases step with
    | aside aside =>
      simp [added, News.passage?_of_isAside aside, News.added?_of_isAside aside]
    | _ => simp_all [News.passage?, added, News.added?]

/-- Between nodes only lines wait that were added between nodes. -/
theorem waiting_idle (reached : Reached journal scene) (idle : scene.phase = .idle) :
    ∀ entry ∈ scene.waiting, entry.1 = .idle := by
  induction reached with
  | begun => simp
  | @told _ notice _ _ _ step ih =>
    obtain ⟨_, news⟩ := notice
    cases step with
    | aside => exact ih idle
    | gather phase_eq line =>
      obtain rfl : _ = Phase.idle := phase_eq.symm.trans idle
      exact List.forall_mem_append.mpr ⟨ih idle, by simp⟩
    | label | openBlock => cases idle
    | endNode | endChoice | endBlock => simp

/-- In the phase of choices a block is open. -/
theorem exists_openBlock (reached : Reached journal scene) (choosing : scene.phase = .choice) :
    ∃ before within, OpenBlock journal before within := by
  induction reached with
  | begun => cases choosing
  | @told journal notice earlier later reached step ih =>
    obtain ⟨line, news⟩ := notice
    cases step with
    | aside aside =>
      obtain ⟨before, within, block⟩ := ih choosing
      refine ⟨before, _, block.append ?_ (by simp [added, News.added?_of_isAside aside])⟩
      rintro choices rfl
      simp [News.isAside] at aside
    | gather phase_eq text =>
      obtain rfl : _ = Phase.choice := phase_eq.symm.trans choosing
      obtain ⟨before, within, block⟩ := ih phase_eq
      exact ⟨before, _, block.append (by simp) (by simp [added, News.added?])⟩
    | label | endNode | endBlock => cases choosing
    | openBlock phase_eq =>
      refine ⟨journal, [], ⟨line, rfl⟩, by simp, ?_, by simp⟩
      rw [← reached.waiting_eq]
      exact reached.waiting_idle phase_eq
    | endChoice phase_eq =>
      obtain ⟨before, within, block⟩ := ih phase_eq
      exact ⟨before, _, block.append (by simp) (by simp [added, News.added?])⟩

/-- Outside of a block, what was waiting when a block was opened has been taken. -/
theorem gathered_eq_nil_of_opened (reached : Reached journal scene)
    (outside : scene.phase ≠ .choice) {before within : List Notice} {opened : Nat}
    (split : journal = before ++ ⟨opened, .blockOpened⟩ :: within)
    (untaken : passages within = []) : gathered before = [] := by
  induction reached generalizing within with
  | begun => simp at split
  | @told journal notice earlier later reached step ih =>
    rcases List.eq_nil_or_concat within with rfl | ⟨within, last, rfl⟩
    · obtain ⟨rfl, same⟩ := List.append_inj' split rfl
      obtain rfl := List.singleton_inj.mp same
      cases step with
      | aside aside => simp [News.isAside] at aside
      | openBlock => simp at outside
    · rw [List.concat_eq_append] at split untaken
      rw [← List.cons_append, ← List.append_assoc] at split
      obtain ⟨rfl, same⟩ := List.append_inj' split rfl
      obtain rfl := List.singleton_inj.mp same
      rw [passages_append, List.append_eq_nil_iff] at untaken
      obtain ⟨line, news⟩ := notice
      cases step with
      | aside | gather => exact ih outside rfl untaken.1
      | label phase_eq => exact ih (by simp [phase_eq]) rfl untaken.1
      | openBlock => simp at outside
      | endNode | endChoice => simp [passages, News.passage?] at untaken
      | endBlock phase_eq used =>
        -- The block took what was waiting, or nothing was.
        have untaken : passages (⟨opened, .blockOpened⟩ :: within) = [] := untaken.1
        rw [reached.waiting_eq, gathered_append, if_pos untaken, List.append_eq_nil_iff] at used
        exact used.1

end Reached

end Scene

theorem Scene.Reached.told_of_leads {journal : List Notice} {scene later : Scene} {first : News}
    {news : List News} (reached : Reached journal scene) (leads : first.Leads news)
    (step : scene.Step first later) (session : Session) :
    Reached (journal ++ session.notices news) later := by
  obtain ⟨rest, rfl, asides⟩ := leads
  induction rest using List.reverseRecOn with
  | nil => exact .told reached step
  | append_singleton rest last ih =>
    have before := ih fun news member => asides news (List.mem_append_left _ member)
    have aside := asides last (by simp)
    have told : Reached
        (journal ++ session.notices (first :: rest) ++ [⟨session.line, last⟩]) later :=
      .told before (.aside aside)
    simpa [Session.notices] using told

/-! ## Runs -/

namespace Run

variable {σ : Type} {observer : Observer σ} {run next : Run (σ × List Notice)} {scene : Scene}
  {line : String} {kind : LineKind}

/-- A run is in a scene: its journal leads there, and its session agrees. -/
structure Plays (run : Run (σ × List Notice)) (scene : Scene) : Prop where
  reached : Scene.Reached run.journal scene
  phase : run.session.phase = scene.phase
  text : run.session.draft.text = scene.lines
  filled : ∀ line ∈ scene.lines, line ≠ ""

namespace Plays

/-- Operations that change neither the phase nor the waiting text do not change the scene. -/
theorem aside (plays : run.Plays scene) {first : News} {news : List News} (leads : first.Leads news)
    (aside : first.isAside = true)
    (journal_eq : next.journal = run.journal ++ run.session.notices news)
    (phase : next.session.phase = run.session.phase)
    (text : next.session.draft.text = run.session.draft.text) : next.Plays scene where
  reached := journal_eq ▸ plays.reached.told_of_leads leads (.aside aside) run.session
  phase := phase.trans plays.phase
  text := text.trans plays.text
  filled := plays.filled

theorem gather (plays : run.Plays scene) (filled : line ≠ "") :
    (gather observer.recording run line).Plays
      { scene with waiting := scene.waiting ++ [(run.session.phase, line)] } where
  reached := plays.reached.told_of_leads (News.leads_singleton _)
    (.gather plays.phase.symm line) run.session
  phase := plays.phase
  text := by simp [plays.text, Scene.lines]
  filled := by
    rw [Scene.lines, List.map_append]
    exact List.forall_mem_append.mpr ⟨plays.filled, by simpa using filled⟩

theorem label (plays : run.Plays scene) (idle : run.session.phase = .idle) :
    (takeLabel observer.recording run line).Plays { scene with phase := .dialogue } where
  reached := plays.reached.told_of_leads (News.leads_singleton _)
    (.label (plays.phase ▸ idle) _) run.session
  phase := rfl
  text := plays.text
  filled := plays.filled

theorem openBlock (plays : run.Plays scene) (idle : run.session.phase = .idle) :
    ((tell observer.recording run .blockOpened).withPhase .choice).Plays
      { scene with phase := .choice } where
  reached := plays.reached.told_of_leads (News.leads_singleton _)
    (.openBlock (plays.phase ▸ idle)) run.session
  phase := rfl
  text := plays.text
  filled := plays.filled

theorem endNode (plays : run.Plays scene) (speaking : run.session.phase = .dialogue)
    (ended : endNode observer.recording run = (next, none)) :
    (next.withPhase .idle).Plays ⟨.idle, []⟩ := by
  obtain ⟨node, written, session_eq⟩ := exists_node_of_endNode observer.recording ended
  have text_eq : node.text = "\n".intercalate run.session.draft.text :=
    (Draft.node?_eq_some_iff.mp written).2.2.1.trans (Draft.joinedText_eq_intercalate _)
  constructor
  · rw [journal_withPhase, journal_endNode observer written ended]
    exact plays.reached.told_of_leads (Session.leads_nodeNews _ node)
      (.endNode (plays.phase ▸ speaking) plays.text text_eq) run.session
  · rfl
  · simp [session_eq, Session.endNode, Scene.lines]
  · simp [Scene.lines]

theorem endChoice (plays : run.Plays scene) (choosing : run.session.phase = .choice) :
    (endChoice observer.recording run).Plays ⟨.choice, []⟩ := by
  have phase : (Run.endChoice observer.recording run).session.phase = .choice := by
    rw [session_endChoice, Session.phase_endChoice, choosing]
  refine ⟨?_, phase, by simp [Scene.lines], by simp [Scene.lines]⟩
  rw [journal_endChoice]
  have choosing : scene.phase = .choice := plays.phase ▸ choosing
  by_cases empty : run.session.draft.text = []
  · rw [Session.choiceNews_eq_nil _ empty, Session.notices_nil, List.append_nil]
    obtain ⟨phase, waiting⟩ := scene
    have used : waiting = [] := List.map_eq_nil_iff.mp (plays.text.symm.trans empty)
    exact choosing ▸ used ▸ plays.reached
  · obtain ⟨choice, text_eq, leads⟩ :=
      Session.exists_leads_choiceNews run.session (plays.text ▸ plays.filled) empty
    exact plays.reached.told_of_leads leads (.endChoice choosing plays.text text_eq) run.session

theorem endBlock (plays : run.Plays ⟨.choice, []⟩) :
    ((endBlock observer.recording run).withPhase .idle).Plays ⟨.idle, []⟩ where
  reached := by
    rw [journal_withPhase, journal_endBlock]
    exact plays.reached.told_of_leads (Session.leads_blockNews _) (.endBlock rfl rfl _) run.session
  phase := rfl
  text := by simpa [Scene.lines] using plays.text
  filled := by simp [Scene.lines]

end Plays

theorem Plays.takeTarget (plays : run.Plays scene) (line : String) :
    (takeTarget observer.recording run line).Plays scene :=
  plays.aside (News.leads_singleton _) rfl (journal_takeTarget observer run line) rfl rfl

/-- A line that is used up leads from a scene to a scene. -/
theorem plays_of_consumed (filled : line ≠ "") (plays : run.Plays scene)
    (move : Move observer.recording line kind run next .consumed) :
    ∃ later, next.Plays later := by
  cases move with
  | gather | gatherChoice => exact ⟨_, plays.gather filled⟩
  | label idle => exact ⟨_, plays.label idle⟩
  | command =>
    refine ⟨scene, plays.aside (Session.leads_commandNews _ _) rfl
      (journal_takeCommand observer run _) ?_ ?_⟩
    · rw [session_takeCommand, Session.phase_takeCommand]
    · rw [session_takeCommand, (Session.views_takeCommand _).1]
  | tag =>
    refine ⟨scene, plays.aside (News.leads_singleton _) (Session.isAside_tagNews line)
      (journal_takeTag observer run line) ?_ ?_⟩
    · rw [session_takeTag, Session.phase_takeTag]
    · rw [session_takeTag, (Session.views_takeTag line).1]
  | target choosing => exact ⟨_, (plays.takeTarget line).endChoice choosing⟩
  | skip => exact ⟨scene, plays⟩

/-- A line that is handed on leads from a scene to a scene in the next phase. -/
theorem plays_of_handOn {phase : Phase} (plays : run.Plays scene)
    (move : Move observer.recording line kind run next (.handOn phase)) :
    ∃ later, (next.withPhase phase).Plays later := by
  cases move with
  | openBlock idle => exact ⟨_, plays.openBlock idle⟩
  | endNode speaking _ ended => exact ⟨_, plays.endNode speaking ended⟩
  | targetBehind choosing =>
    exact ⟨_, ((plays.takeTarget line).endChoice choosing).endBlock⟩
  | endBlock choosing => exact ⟨_, (plays.endChoice choosing).endBlock⟩

theorem plays_of_readLine {raw : String} (plays : run.Plays scene)
    (read : readLine observer.recording run raw = (next, none)) : ∃ later, next.Plays later := by
  have counted : run.atNextLine.Plays scene := { plays with }
  cases present : isBlankLine (trimLineEnd raw.toList) with
  | true =>
    rw [readLine_of_blank present] at read
    obtain ⟨rfl, -⟩ := Prod.mk.inj read
    exact ⟨scene, counted⟩
  | false =>
    rw [readLine_of_present present] at read
    have reading : IsReading run.config.indentThreshold
        (String.ofList (dedent (trimLineEnd raw.toList)))
        (lineKind run.config.indentThreshold (trimLineEnd raw.toList)) :=
      ⟨_, present, rfl, rfl⟩
    refine feed_keeps (fun run => ∃ scene, run.Plays scene) (fun next => ∃ later, next.Plays later)
      ?_ ?_ ⟨scene, counted⟩ read
    · rintro run next ⟨scene, plays⟩ move
      exact plays_of_consumed reading.ne_empty plays move
    · rintro run next phase ⟨scene, plays⟩ move
      exact plays_of_handOn plays move

/-- A compile is in a scene from its first line to its end. -/
theorem plays_of_compile (observer : Observer σ) (config : Config) (state : σ)
    (lines : List String) :
    ∃ run graph scene, compile observer.recording config (state, []) lines = (run, .ok graph) ∧
      run.Plays scene := by
  obtain ⟨read, closed, readAll_eq, close_eq, -, compiled⟩ :=
    exists_compile observer.recording config (state, []) lines
  have begun : (start observer.recording config (state, [])).Plays ⟨.idle, []⟩ :=
    ⟨.told .begun (.aside rfl), rfl, rfl, by simp [Scene.lines]⟩
  obtain ⟨scene, plays⟩ : ∃ scene, read.Plays scene := by
    refine readAll_induction (fun _ run => ∃ scene, run.Plays scene) ?_ ⟨_, begun⟩ readAll_eq
    rintro _ raw run next ⟨scene, plays⟩ read
    exact plays_of_readLine plays read
  obtain ⟨last, plays⟩ : ∃ scene, closed.Plays scene := by
    cases closing_of_close close_eq with
    | nothing => exact ⟨scene, plays⟩
    | endNode _ speaking ended => exact ⟨_, plays.endNode speaking ended⟩
    | endBlock _ choosing => exact ⟨_, (plays.endChoice choosing).endBlock⟩
    | discard =>
      exact ⟨scene, plays.aside (News.leads_singleton _) rfl (journal_tell observer read _) rfl rfl⟩
  exact ⟨_, _, last, compiled,
    plays.aside (News.leads_singleton _) rfl (journal_tell observer closed _) rfl rfl⟩

end Run

end Dialogue
