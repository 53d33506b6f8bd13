import Dialogue.Proofs.Run.Scene
import Dialogue.Proofs.Run.Target

/-!
# Text or target

A line is classified raw, and in a choice block its dedented form is classified once more.
Where the two agree, a line that becomes text gives no target: the pending target stays as
it is, and a choice that ends while the line is handled takes that target. The two can
disagree about a tag that is indented, but not enough for a choice block. Such a line gives
a target, ends the block and becomes text behind it.
-/

namespace Dialogue

open Script Text

/-! ## Text in the news of operations -/

theorem added_notices (session : Session) (news : List News) :
    added (session.notices news) = news.filterMap News.added? := by
  rw [added, Session.notices, List.filterMap_map]
  rfl

theorem added_singleton (session : Session) (news : News) :
    added (session.notices [news]) = news.added?.toList := by
  rw [added_notices]
  cases text : news.added? <;> simp [text]

theorem News.Leads.added_eq_nil {first : News} {news : List News} (leads : first.Leads news)
    (textless : first.added? = none) (session : Session) : added (session.notices news) = [] := by
  rw [added_notices, leads.filterMap_eq News.added?_of_isAside, textless]
  rfl

namespace Session

variable (session other : Session)

@[simp] theorem added_commandNews (command : Command) :
    added (other.notices (session.commandNews command)) = [] :=
  (session.leads_commandNews command).added_eq_nil rfl other

@[simp] theorem added_tagNews (line : String) : added (other.notices [tagNews line]) = [] :=
  (News.leads_singleton _).added_eq_nil (News.added?_of_isAside (isAside_tagNews line)) other

@[simp] theorem added_nodeNews (node : Node) :
    added (other.notices (session.nodeNews node)) = [] :=
  (session.leads_nodeNews node).added_eq_nil rfl other

@[simp] theorem added_blockNews : added (other.notices session.blockNews) = [] :=
  session.leads_blockNews.added_eq_nil rfl other

@[simp] theorem added_choiceNews : added (other.notices session.choiceNews) = [] := by
  rw [added_notices, choiceNews]
  cases session.draft.drainChoice.1 with
  | none => rfl
  | some choice => cases session.draft.choices.isFull <;> rfl

end Session

/-- A raw line without its end and its indentation, as the phases handle it. -/
def dedented (raw : String) : String :=
  String.ofList (dedent (trimLineEnd raw.toList))

namespace Run

variable {σ : Type} {observer : Observer σ} {begun run next : Run (σ × List Notice)}
  {line raw : String} {kind : LineKind} {told : List Notice}

/-- The kind of a raw line under the settings in force. -/
def rawKind (run : Run σ) (raw : String) : LineKind :=
  lineKind run.config.indentThreshold (trimLineEnd raw.toList)

/-- A line in a choice block that is text as it stands and a tag when it is dedented. -/
structure ShallowTag (run : Run σ) (raw : String) : Prop where
  present : isBlankLine (trimLineEnd raw.toList) = false
  phase : run.session.phase = .choice
  text : run.rawKind raw = .narration
  tag : run.innerKind (dedented raw) = .tag

/-- Only the two moves that gather a line add text. -/
theorem added_of_move {outcome : Outcome}
    (move : Move observer.recording line kind run next outcome)
    (faultless : ∀ fault, outcome ≠ .failed fault) :
    (outcome = .consumed ∧ next = gather observer.recording run line ∧
        (run.session.phase ≠ .choice ∧ kind = .narration ∨
          run.session.phase = .choice ∧ run.innerKind line = .narration)) ∨
      added (run.toldUntil next) = [] := by
  cases move with
  | gather phase kind_eq => exact .inl ⟨rfl, rfl, .inl ⟨phase, kind_eq⟩⟩
  | gatherChoice phase inner => exact .inl ⟨rfl, rfl, .inr ⟨phase, inner⟩⟩
  | label | openBlock | target | targetBehind =>
    exact .inr (by simp [toldUntil, added_singleton, News.added?])
  | command | tag | skip | endBlock => exact .inr (by simp [toldUntil])
  | unfinished | nodeFailed => exact absurd rfl (faultless _)
  | endNode _ _ ended =>
    obtain ⟨node, written, -⟩ := exists_node_of_endNode observer.recording ended
    exact .inr (by simp [toldUntil, journal_endNode observer written ended])

/-! ## On the way of a line -/

/-- What a run aims at is the target of its draft and of all choices that were taken while
something was told. -/
structure Aims (run : Run (σ × List Notice)) (aim : Option String) (told : List Notice) :
    Prop where
  target : run.session.draft.target = aim
  choices : ∀ choice ∈ choicesTaken told, choice.target = aim

/-- A visit without a tag line leaves the target as it is. -/
theorem Aims.append {aim : Option String} {visit : Visit} (aims : run.Aims aim told)
    (serves : run.Serves visit next) (untagged : visit.tagLine? = none) :
    next.Aims aim (told ++ visit.told) := by
  have kept : next.session.draft.target = aim := by
    rw [serves.target, untagged, Option.elim_none, aims.target]
  refine ⟨kept, ?_⟩
  rw [choicesTaken_append]
  exact List.forall_mem_append.mpr
    ⟨aims.choices, fun choice taken => (serves.choices choice taken).2.trans kept⟩

/-- How far a line has come that was handed on: it has added no text, and if it can still become
text, it has given no target. -/
structure Underway (begun : Run (σ × List Notice)) (kind : LineKind)
    (run : Run (σ × List Notice)) (told : List Notice) : Prop where
  journal : run.journal = begun.journal ++ told
  textless : added told = []
  aims : kind = .narration ∨ kind = .indented ∨ run.session.phase = .choice →
    run.Aims begun.session.draft.target told
  fresh : run.session.phase = .choice → run = begun ∨ kind = .indented

theorem Underway.refl (begun : Run (σ × List Notice)) (kind : LineKind) :
    Underway begun kind begun [] where
  journal := (List.append_nil _).symm
  textless := rfl
  aims _ := ⟨rfl, by simp [choicesTaken, passages]⟩
  fresh _ := .inl rfl

/-- A line that is used up: if it has become text, then last of all, and with the target that there
was when it was begun. -/
structure UsedUp (begun : Run (σ × List Notice)) (line : String) (next : Run (σ × List Notice))
    (told : List Notice) : Prop where
  journal : next.journal = begun.journal ++ told
  text : added told ≠ [] → ∃ phase, added told = [(phase, line)] ∧
    next.session.draft.text.getLast? = some line ∧ next.Aims begun.session.draft.target told

theorem Underway.handOn {phase : Phase} (underway : Underway begun kind run told)
    (deep : ¬ (begun.session.phase = .choice ∧ kind = .narration ∧ begun.innerKind line = .tag))
    (move : Move observer.recording line kind run next (.handOn phase)) :
    Underway begun kind (next.withPhase phase) (told ++ run.toldUntil next) := by
  have serves := serves_of_move move (by simp)
  constructor
  · rw [journal_withPhase, serves.journal, underway.journal, List.append_assoc]
    rfl
  · rcases added_of_move move (by simp) with ⟨consumed, -⟩ | nothing
    · cases consumed
    · rw [added_append, underway.textless, nothing]
      rfl
  · intro possible
    suffices next.Aims begun.session.draft.target (told ++ run.toldUntil next) from { this with }
    cases move with
    | openBlock idle kind_eq =>
      have aims := underway.aims (.inr (.inl kind_eq))
      exact aims.append serves (tagLine?_of_phase_ne (by simp [idle]))
    | endNode speaking kind_ne =>
      rcases possible with narration | indented | choosing
      · exact absurd narration kind_ne
      · have aims := underway.aims (.inr (.inl indented))
        exact aims.append serves (tagLine?_of_phase_ne (by simp [speaking]))
      · cases choosing
    | targetBehind choosing inner kind_ne =>
      -- The line has given a target. It would be text behind the block if it were a shallow tag.
      rcases possible with narration | indented | choosing
      · rcases underway.fresh choosing with rfl | indented
        · exact absurd ⟨choosing, narration, inner⟩ deep
        · exact absurd indented kind_ne
      · exact absurd indented kind_ne
      · cases choosing
    | endBlock choosing _ inner_ne =>
      have aims := underway.aims (.inr (.inr choosing))
      exact aims.append serves (tagLine?_of_inner_ne inner_ne)
  · intro choosing
    cases move with
    | openBlock _ kind_eq => exact .inr kind_eq
    | endNode | targetBehind | endBlock => cases choosing

/-- A line becomes text at the end of its way, or not at all. -/
theorem Underway.consumed (underway : Underway begun kind run told)
    (move : Move observer.recording line kind run next .consumed) :
    UsedUp begun line next (told ++ run.toldUntil next) := by
  have serves := serves_of_move move (by simp)
  constructor
  · rw [serves.journal, underway.journal, List.append_assoc]
    rfl
  · intro text
    rw [added_append, underway.textless, List.nil_append] at text ⊢
    rcases added_of_move move (by simp) with ⟨-, rfl, classified⟩ | nothing
    · have told_eq := toldUntil_eq (journal_gather observer run line)
      refine ⟨run.session.phase, by rw [told_eq]; rfl, by simp, ?_⟩
      rcases classified with ⟨outside, narration⟩ | ⟨choosing, inner⟩
      · exact (underway.aims (.inl narration)).append serves (tagLine?_of_phase_ne outside)
      · have aims := underway.aims (.inr (.inr choosing))
        exact aims.append serves (tagLine?_of_inner_ne (by simp [inner]))
    · exact absurd nothing text

theorem usedUp_of_feed
    (deep : ¬ (begun.session.phase = .choice ∧ kind = .narration ∧ begun.innerKind line = .tag))
    (fed : feed observer.recording begun line kind = (next, none)) :
    ∃ told, UsedUp begun line next told := by
  refine feed_keeps (fun run => ∃ told, Underway begun kind run told)
    (fun next => ∃ told, UsedUp begun line next told) ?_ ?_ ⟨[], .refl begun kind⟩ fed
  · rintro run next ⟨told, underway⟩ move
    exact ⟨_, underway.consumed move⟩
  · rintro run next phase ⟨told, underway⟩ move
    exact ⟨_, underway.handOn deep move⟩

/-- Every line that is no shallow tag is either text or a target. -/
theorem usedUp_of_readLine (deep : ¬ run.ShallowTag raw)
    (read : readLine observer.recording run raw = (next, none)) :
    ∃ told, UsedUp run (dedented raw) next told := by
  cases present : isBlankLine (trimLineEnd raw.toList) with
  | true =>
    rw [readLine_of_blank present] at read
    obtain ⟨rfl, -⟩ := Prod.mk.inj read
    exact ⟨[], (List.append_nil _).symm, fun text => absurd rfl text⟩
  | false =>
    rw [readLine_of_present present] at read
    have deep : ¬ (run.atNextLine.session.phase = .choice ∧ run.rawKind raw = .narration ∧
        run.atNextLine.innerKind (dedented raw) = .tag) :=
      fun ⟨phase, text, tag⟩ => deep ⟨present, phase, text, tag⟩
    obtain ⟨told, used⟩ := usedUp_of_feed deep read
    exact ⟨told, used.journal, used.text⟩

/-! ## Shallow tags -/

variable (observer) in
/-- A shallow tag gives a target, ends the choice and its block, and becomes text behind it. -/
theorem feed_of_shallow (choosing : begun.session.phase = .choice)
    (inner : begun.innerKind line = .tag) :
    ∃ behind, Move observer.recording line .narration begun behind (.handOn .idle) ∧
      behind.session.draft.text = [] ∧
      feed observer.recording begun line .narration =
        (gather observer.recording (behind.withPhase .idle) line, none) := by
  have handed : step observer.recording begun line .narration =
      (endBlock observer.recording (endChoice observer.recording
        (takeTarget observer.recording begun line)), .handOn .idle) := by
    have inner : lineKind begun.config.indentThreshold line.toList = .tag := inner
    rw [step_of_choice choosing]
    simp [choiceStep, inner]
  refine ⟨_, move_of_step handed, by simp, ?_⟩
  rw [feed_of_handOn _ handed]
  exact feed_of_consumed _ (step_of_idle rfl)

theorem aims_of_shallow (choosing : begun.session.phase = .choice)
    (inner : begun.innerKind line = .tag)
    (fed : feed observer.recording begun line .narration = (next, none)) :
    ∃ told, next.journal = begun.journal ++ told ∧ added told = [(.idle, line)] ∧
      next.session.draft.text = [line] ∧ next.Aims (Session.targetOf line) told := by
  obtain ⟨behind, move, empty, fed_eq⟩ := feed_of_shallow observer choosing inner
  obtain ⟨rfl, -⟩ := Prod.mk.inj (fed.symm.trans fed_eq)
  have serves := serves_of_move move (by simp)
  have target : behind.session.draft.target = Session.targetOf line := by
    rw [serves.target, tagLine?_of_tag choosing inner]
    rfl
  have nothing : added (begun.toldUntil behind) = [] := by
    rcases added_of_move move (by simp) with ⟨consumed, -⟩ | nothing
    · cases consumed
    · exact nothing
  refine ⟨begun.toldUntil behind ++ behind.session.notices [.textAdded .idle line], ?_, ?_, ?_,
    target, ?_⟩
  · rw [journal_gather, journal_withPhase, serves.journal, List.append_assoc]
    rfl
  · rw [added_append, nothing]
    rfl
  · simp [empty]
  · intro choice taken
    rw [choicesTaken_append] at taken
    rcases List.mem_append.mp taken with taken | taken
    · exact (serves.choices choice taken).2.trans target
    · simp [choicesTaken, passages_notices, News.passage?] at taken

/-- A shallow tag is both: a target for what is told about it, and the only text behind it. -/
theorem ShallowTag.aims_of_readLine (shallow : run.ShallowTag raw)
    (read : readLine observer.recording run raw = (next, none)) :
    ∃ told, next.journal = run.journal ++ told ∧ added told = [(.idle, dedented raw)] ∧
      next.session.draft.text = [dedented raw] ∧
      next.Aims (Session.targetOf (dedented raw)) told := by
  have text : lineKind run.config.indentThreshold (trimLineEnd raw.toList) = .narration :=
    shallow.text
  have choosing : run.atNextLine.session.phase = .choice := shallow.phase
  have inner : run.atNextLine.innerKind (dedented raw) = .tag := shallow.tag
  rw [readLine_of_present shallow.present, text] at read
  obtain ⟨told, journal, told_eq⟩ := aims_of_shallow choosing inner read
  exact ⟨told, journal, told_eq⟩

/-! ## Lines of a compile -/

/-- A line is text or a target. For every session that a compile can come to and every line: if the
line becomes text, then it leaves the target as it was, and the choices that end while it is
handled take that target. Only a shallow tag is both: it gives the target to the choice that it
ends, and it is the text that waits behind the block. -/
theorem text_or_target (observer : Observer σ) (config : Config) (state : σ)
    (done : List String) (raw : String) :
    ∃ run next told,
      readAll observer.recording (start observer.recording config (state, [])) done =
        (run, none) ∧
      readLine observer.recording run raw = (next, none) ∧
      next.journal = run.journal ++ told ∧
      (¬ run.ShallowTag raw → added told ≠ [] →
        (∃ phase, added told = [(phase, dedented raw)]) ∧
        next.session.draft.text.getLast? = some (dedented raw) ∧
        next.session.draft.target = run.session.draft.target ∧
        ∀ choice ∈ choicesTaken told, choice.target = run.session.draft.target) ∧
      (run.ShallowTag raw →
        added told = [(.idle, dedented raw)] ∧ next.session.draft.text = [dedented raw] ∧
        next.session.draft.target = Session.targetOf (dedented raw) ∧
        ∀ choice ∈ choicesTaken told, choice.target = Session.targetOf (dedented raw)) := by
  have begun : (start observer.recording config (state, [])).session.Within config :=
    .start config
  obtain ⟨run, readAll_eq, within⟩ := readAll_within observer.recording done begun
  obtain ⟨next, read, -⟩ := readLine_within observer.recording raw within
  by_cases shallow : run.ShallowTag raw
  · obtain ⟨told, journal, text, waiting, aims⟩ := shallow.aims_of_readLine read
    exact ⟨run, next, told, readAll_eq, read, journal, fun deep => absurd shallow deep,
      fun _ => ⟨text, waiting, aims.target, aims.choices⟩⟩
  · obtain ⟨told, used⟩ := usedUp_of_readLine shallow read
    refine ⟨run, next, told, readAll_eq, read, used.journal, ?_,
      fun other => absurd other shallow⟩
    intro _ text
    obtain ⟨phase, added_eq, last, aims⟩ := used.text text
    exact ⟨⟨phase, added_eq⟩, last, aims.target, aims.choices⟩

/-- Two lines that end a choice and its block and become text behind it. A command that is indented
too little leaves the target alone, a tag gives it. -/
theorem text_or_target_indented :
    (∃ run next told,
      readAll Observer.silent.recording (start Observer.silent.recording {} ((), []))
        ["Alice:", "Pick", "\tYes", "\t[yes]", "\tNo"] = (run, none) ∧
      readLine Observer.silent.recording run "  @wave" = (next, none) ∧
      next.journal = run.journal ++ told ∧ ¬ run.ShallowTag "  @wave" ∧ added told ≠ [] ∧
      choicesTaken told ≠ [] ∧ ∀ choice ∈ choicesTaken told, choice.target = some "yes") ∧
    ∃ run next told,
      readAll Observer.silent.recording (start Observer.silent.recording {} ((), []))
        ["Alice:", "Pick", "\tYes", "\t[yes]", "\tNo"] = (run, none) ∧
      readLine Observer.silent.recording run "  [no]" = (next, none) ∧
      next.journal = run.journal ++ told ∧ run.ShallowTag "  [no]" ∧
      choicesTaken told ≠ [] ∧ ∀ choice ∈ choicesTaken told, choice.target = some "no" := by
  constructor
  · obtain ⟨run, next, told, readAll_eq, read, journal, deep, -⟩ :=
      text_or_target Observer.silent {} () ["Alice:", "Pick", "\tYes", "\t[yes]", "\tNo"] "  @wave"
    obtain ⟨command, text, taken, target⟩ :
        run.innerKind (dedented "  @wave") = .command ∧ added told ≠ [] ∧ choicesTaken told ≠ [] ∧
          run.session.draft.target = some "yes" := by
      obtain rfl : _ = told := toldUntil_eq journal
      obtain rfl : _ = next := congrArg Prod.fst read
      obtain rfl : _ = run := congrArg Prod.fst readAll_eq
      decide +kernel
    have shallow : ¬ run.ShallowTag "  @wave" := fun shallow => by
      simp [shallow.tag] at command
    obtain ⟨-, -, -, targets⟩ := deep shallow text
    exact ⟨run, next, told, readAll_eq, read, journal, shallow, text, taken, target ▸ targets⟩
  · obtain ⟨run, next, told, readAll_eq, read, journal, -, both⟩ :=
      text_or_target Observer.silent {} () ["Alice:", "Pick", "\tYes", "\t[yes]", "\tNo"] "  [no]"
    obtain ⟨choosing, narration, tag, taken⟩ :
        run.session.phase = .choice ∧ run.rawKind "  [no]" = .narration ∧
          run.innerKind (dedented "  [no]") = .tag ∧ choicesTaken told ≠ [] := by
      obtain rfl : _ = told := toldUntil_eq journal
      obtain rfl : _ = next := congrArg Prod.fst read
      obtain rfl : _ = run := congrArg Prod.fst readAll_eq
      decide +kernel
    have shallow : run.ShallowTag "  [no]" := ⟨by decide +kernel, choosing, narration, tag⟩
    obtain ⟨-, -, -, targets⟩ := both shallow
    have given : Session.targetOf (dedented "  [no]") = some "no" := by decide +kernel
    exact ⟨run, next, told, readAll_eq, read, journal, shallow, taken, given ▸ targets⟩

/-- A line that is a target and text: a tag indented by two blanks. -/
theorem shallow_tag_both :
    let run := (readAll Observer.silent.recording (start Observer.silent.recording {} ((), []))
      ["Alice:", "Pick", "\tYes"]).1
    let next := (readLine Observer.silent.recording run "  [x]").1
    run.session.draft.target = none ∧ next.session.draft.text = ["[x]"] ∧
      next.session.draft.target = some "x" ∧
      added (run.toldUntil next) = [(.idle, "[x]")] ∧
      choicesTaken (run.toldUntil next) = [⟨"Yes", some "x"⟩] := by
  decide +kernel

end Run

end Dialogue
