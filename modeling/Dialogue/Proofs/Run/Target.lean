import Dialogue.Proofs.Run.History
import Dialogue.Proofs.Run.Passage
import Dialogue.Proofs.Script.Kind
import Dialogue.Proofs.Script.Token
import Mathlib.Data.List.DropRight

/-!
# Targets of choices

A choice takes the target that the draft holds when it ends, and the draft holds what the
latest tag line in a choice block has given. So a choice whose own block had a tag line
takes the latest of that block. The draft is not cleared when a block ends: without a tag
line in its own block a choice has no target only if no earlier block had one either.
-/

namespace Dialogue

open Script Text

/-- The choices that were taken, kept or refused, while something was told. -/
def choicesTaken (told : List Notice) : List Choice :=
  (passages told).filterMap Passage.choice?

@[simp] theorem choicesTaken_append (told more : List Notice) :
    choicesTaken (told ++ more) = choicesTaken told ++ choicesTaken more := by
  simp [choicesTaken, List.filterMap_append]

namespace Visit

/-- The choices taken during a visit. -/
def choices (visit : Visit) : List Choice :=
  choicesTaken visit.told

theorem choicesTaken_flatMap_told (visits : List Visit) :
    choicesTaken (visits.flatMap Visit.told) = visits.flatMap Visit.choices := by
  induction visits with
  | nil => rfl
  | cons visit visits ih => simp [ih, choices]

/-- The line of a visit, if it is a tag line in a choice block. -/
def tagLine? (visit : Visit) : Option String :=
  match visit.phase, visit.line with
  | .choice, some (line, .tag) => some line
  | _, _ => none

end Visit

theorem Visit.tagLine?_eq_some_iff {visit : Visit} {line : String} :
    visit.tagLine? = some line ↔ visit.phase = .choice ∧ visit.line = some (line, .tag) := by
  rw [tagLine?]
  split
  next phase line_eq => simp [phase, line_eq]
  next other =>
    constructor
    · intro impossible
      cases impossible
    · intro tagged
      exact absurd tagged.2 (other line tagged.1)

/-- The lines that were handled as tags in choice blocks. -/
def tagLines (visits : List Visit) : List String :=
  visits.filterMap Visit.tagLine?

/-- The visits since the phase of the last one was entered, if that is the phase of choices. -/
def choiceBlock (visits : List Visit) : List Visit :=
  visits.rtakeWhile (·.phase = .choice)

/-- The target that the latest tag line gives. -/
def latestTarget (visits : List Visit) : Option String :=
  (tagLines visits).getLast?.bind Session.targetOf

/-! ## Tag lines -/

theorem latestTarget_concat (visits : List Visit) (visit : Visit) :
    latestTarget (visits ++ [visit]) =
      visit.tagLine?.elim (latestTarget visits) Session.targetOf := by
  rw [latestTarget, tagLines, List.filterMap_append]
  cases tagged : visit.tagLine? with
  | none => simp [tagged, latestTarget, tagLines]
  | some line => simp [tagged]

/-- A tag line of the block that is open now is later than all tag lines of earlier blocks. -/
theorem getLast?_tagLines_of_choiceBlock {visits : List Visit} {line : String}
    (latest : (tagLines (choiceBlock visits)).getLast? = some line) :
    (tagLines visits).getLast? = some line := by
  obtain ⟨front, split⟩ : choiceBlock visits <:+ visits := List.rtakeWhile_suffix _ _
  rw [← split, tagLines, List.filterMap_append, List.getLast?_append]
  simp only [tagLines] at latest
  rw [latest, Option.some_or]

/-- Of all tag lines only a pair of brackets gives no target. -/
theorem targetOf_eq_none_iff {threshold : Int} {line : String}
    (tagged : lineKind threshold line.toList = .tag) :
    Session.targetOf line = none ↔ line = "[]" := by
  have bracketed := (lineKind_eq_tag_iff.mp tagged).2
  rw [Session.targetOf, Option.map_eq_none_iff, tagContent?_eq_none_iff, ← String.toList_inj]
  constructor
  · intro short
    exact eq_of_isBracketed bracketed short
  · intro empty
    rw [empty]
    decide

/-! ## What the operations do to the target -/

namespace Session

variable {session : Session}

@[simp] theorem target_takeCommand (command : Command) :
    (session.takeCommand command).draft.target = session.draft.target := by
  rw [takeCommand]
  cases session.draft.commands.push? command <;> rfl

@[simp] theorem target_takeTag (line : String) :
    (session.takeTag line).draft.target = session.draft.target := by
  rw [takeTag]
  split <;> rfl

@[simp] theorem target_endNode (node : Node) (tag : String) :
    (session.endNode node tag).draft.target = session.draft.target := by
  simp only [endNode, Draft.drainNode]
  cases session.draft.node? <;> rfl

@[simp] theorem target_endChoice : session.endChoice.draft.target = session.draft.target := by
  rw [endChoice]
  cases session.draft.drainChoice.1 with
  | none => rfl
  | some choice =>
    dsimp only
    cases session.draft.choices.push? choice <;> rfl

@[simp] theorem target_endBlock : session.endBlock.draft.target = session.draft.target := by
  simp only [endBlock]
  cases session.assembly.attach? session.draft.drainChoices.1 <;> rfl

/-- Only the end of a choice takes choices, and it takes the target of the draft. -/
theorem target_of_mem_choiceNews {choice : Choice}
    (taken : choice ∈ choicesTaken (session.notices session.choiceNews)) :
    choice.target = session.draft.target := by
  rw [choicesTaken, passages_notices, passages_choiceNews, Draft.drainChoice] at taken
  by_cases empty : session.draft.joinedText = ""
  · simp [empty] at taken
  · simp only [empty, ↓reduceIte, Option.map_some, Option.toList_some, List.filterMap_cons,
      Passage.choice?, List.filterMap_nil, List.mem_singleton] at taken
    rw [taken]

@[simp] theorem choicesTaken_commandNews (command : Command) (other : Session) :
    choicesTaken (other.notices (session.commandNews command)) = [] := by
  simp [choicesTaken, passages_notices, passages_commandNews]

@[simp] theorem choicesTaken_tagNews (line : String) (other : Session) :
    choicesTaken (other.notices [tagNews line]) = [] := by
  simp [choicesTaken, passages_notices, passages_tagNews]

@[simp] theorem choicesTaken_nodeNews (node : Node) (other : Session) :
    choicesTaken (other.notices (session.nodeNews node)) = [] := by
  simp [choicesTaken, passages_notices, passages_nodeNews, Passage.choice?]

@[simp] theorem choicesTaken_blockNews (other : Session) :
    choicesTaken (other.notices session.blockNews) = [] := by
  simp [choicesTaken, passages_notices, passages_blockNews]

end Session

namespace Run

variable {σ : Type} {observer : Observer σ} {run next : Run (σ × List Notice)} {line : String}
  {kind : LineKind} {past : List Visit}

theorem tagLine?_visit_eq_some_iff {tag : String} :
    (run.visit next line).tagLine? = some tag ↔
      run.session.phase = .choice ∧ line = tag ∧ run.innerKind line = .tag := by
  simp [Visit.tagLine?_eq_some_iff, visit]

theorem tagLine?_of_phase_ne (phase : run.session.phase ≠ .choice) :
    (run.visit next line).tagLine? = none := by
  apply Option.eq_none_iff_forall_ne_some.mpr
  intro tag tagged
  exact phase (tagLine?_visit_eq_some_iff.mp tagged).1

theorem tagLine?_of_inner_ne (inner : run.innerKind line ≠ .tag) :
    (run.visit next line).tagLine? = none := by
  apply Option.eq_none_iff_forall_ne_some.mpr
  intro tag tagged
  exact inner (tagLine?_visit_eq_some_iff.mp tagged).2.2

theorem tagLine?_of_tag (phase : run.session.phase = .choice) (inner : run.innerKind line = .tag) :
    (run.visit next line).tagLine? = some line :=
  tagLine?_visit_eq_some_iff.mpr ⟨phase, rfl, inner⟩

/-- What a visit does as far as targets are concerned: a tag line of a choice block gives the
target, and only in choice blocks choices are taken, with the target given last. -/
structure Serves (run : Run (σ × List Notice)) (visit : Visit) (next : Run (σ × List Notice)) :
    Prop where
  journal : next.journal = run.journal ++ visit.told
  target : next.session.draft.target =
    visit.tagLine?.elim run.session.draft.target Session.targetOf
  choices : ∀ choice ∈ visit.choices,
    visit.phase = .choice ∧ choice.target = next.session.draft.target

theorem serves_of_told {visit : Visit} {told : List Notice}
    (journal_eq : next.journal = run.journal ++ told) (visit_told : visit.told = run.toldUntil next)
    (target : next.session.draft.target =
      visit.tagLine?.elim run.session.draft.target Session.targetOf)
    (choices : ∀ choice ∈ choicesTaken told,
      visit.phase = .choice ∧ choice.target = next.session.draft.target) :
    run.Serves visit next := by
  have told_eq : visit.told = told := visit_told.trans (toldUntil_eq journal_eq)
  refine ⟨told_eq ▸ journal_eq, target, ?_⟩
  rw [Visit.choices, told_eq]
  exact choices

/-- A visit without a tag line and without an ended choice leaves the target alone. -/
theorem serves_quietly {visit : Visit} {told : List Notice}
    (journal_eq : next.journal = run.journal ++ told) (visit_told : visit.told = run.toldUntil next)
    (untagged : visit.tagLine? = none) (untaken : choicesTaken told = [])
    (target : next.session.draft.target = run.session.draft.target) :
    run.Serves visit next := by
  apply serves_of_told journal_eq visit_told
  · rw [untagged]
    exact target
  · simp [untaken]

theorem serves_of_endNode {visit : Visit} (ended : endNode observer.recording run = (next, none))
    (visit_told : visit.told = run.toldUntil next) (untagged : visit.tagLine? = none) :
    run.Serves visit next := by
  obtain ⟨node, written, session_eq⟩ := exists_node_of_endNode observer.recording ended
  apply serves_quietly (journal_endNode observer written ended) visit_told untagged
  · simp
  · simp [session_eq]

/-- A visit that ends a choice, with what was told before and behind that. -/
theorem serves_of_endChoice {visit : Visit} {between : Run (σ × List Notice)}
    {front back : List Notice} (phase : visit.phase = .choice)
    (visit_told : visit.told = run.toldUntil next)
    (between_journal : between.journal = run.journal ++ front) (front_untaken : choicesTaken front = [])
    (between_target : between.session.draft.target =
      visit.tagLine?.elim run.session.draft.target Session.targetOf)
    (next_journal : next.journal =
      between.journal ++ between.session.notices between.session.choiceNews ++ back)
    (back_untaken : choicesTaken back = [])
    (next_target : next.session.draft.target = between.session.draft.target) :
    run.Serves visit next := by
  have journal_eq : next.journal = run.journal ++
      (front ++ between.session.notices between.session.choiceNews ++ back) := by
    rw [next_journal, between_journal]
    simp
  apply serves_of_told journal_eq visit_told
  · rw [next_target, between_target]
  · intro choice taken
    rw [choicesTaken_append, choicesTaken_append, front_untaken, back_untaken, List.nil_append,
      List.append_nil] at taken
    exact ⟨phase, next_target ▸ Session.target_of_mem_choiceNews taken⟩

theorem serves_of_move {outcome : Outcome}
    (move : Move observer.recording line kind run next outcome)
    (faultless : ∀ fault, outcome ≠ .failed fault) : run.Serves (run.visit next line) next := by
  cases move with
  | gather phase =>
    exact serves_quietly (journal_gather observer run line) rfl (tagLine?_of_phase_ne phase) rfl rfl
  | gatherChoice _ inner =>
    exact serves_quietly (journal_gather observer run line) rfl
      (tagLine?_of_inner_ne (by simp [inner])) rfl rfl
  | label phase =>
    exact serves_quietly (journal_takeLabel observer run line) rfl
      (tagLine?_of_phase_ne (by simp [phase])) rfl rfl
  | command phase =>
    exact serves_quietly (journal_takeCommand observer run _) rfl
      (tagLine?_of_phase_ne (by simp [phase])) (by simp) (by simp)
  | unfinished => exact absurd rfl (faultless _)
  | tag phase =>
    exact serves_quietly (journal_takeTag observer run line) rfl
      (tagLine?_of_phase_ne (by simp [phase])) (by simp) (by simp)
  | openBlock phase =>
    exact serves_quietly (journal_tell observer run _) rfl
      (tagLine?_of_phase_ne (by simp [phase])) rfl rfl
  | endNode phase _ ended =>
    exact serves_of_endNode ended rfl (tagLine?_of_phase_ne (by simp [phase]))
  | nodeFailed => exact absurd rfl (faultless _)
  | target phase inner =>
    apply serves_of_endChoice phase rfl (journal_takeTarget observer run line) rfl
    · rw [tagLine?_of_tag phase inner]
      rfl
    · rw [journal_endChoice, List.append_nil]
    · rfl
    · simp
  | targetBehind phase inner =>
    apply serves_of_endChoice phase rfl (journal_takeTarget observer run line) rfl
    · rw [tagLine?_of_tag phase inner]
      rfl
    · rw [journal_endBlock, journal_endChoice]
    · simp
    · simp
  | skip _ _ inner_ne =>
    exact serves_quietly (List.append_nil _).symm rfl (tagLine?_of_inner_ne inner_ne) rfl rfl
  | endBlock phase _ inner_ne =>
    apply serves_of_endChoice phase rfl (List.append_nil _).symm rfl
    · rw [tagLine?_of_inner_ne inner_ne]
      rfl
    · rw [journal_endBlock, journal_endChoice]
    · simp
    · simp

theorem serves_of_closing (closing : Closing observer.recording run next) :
    run.Serves (run.lastVisit next) next := by
  have untagged : (run.lastVisit next).tagLine? = none := by
    simp [Visit.tagLine?, lastVisit]
  cases closing with
  | nothing => exact serves_quietly (List.append_nil _).symm rfl untagged rfl rfl
  | endNode _ _ ended =>
    have ended := serves_of_endNode ended rfl untagged
    exact ⟨ended.journal, ended.target, ended.choices⟩
  | endBlock _ phase =>
    apply serves_of_endChoice phase rfl (List.append_nil _).symm rfl
    · rw [untagged]
      rfl
    · rw [journal_withPhase, journal_endBlock, journal_endChoice]
    · simp
    · simp
  | discard => exact serves_quietly (journal_tell observer run _) rfl untagged rfl rfl

/-! ## Histories -/

/-- What a history, and the run that it has led to, say about targets. -/
structure Targeted (begun : List Notice) (past : List Visit) (run : Run (σ × List Notice)) :
    Prop where
  journal : run.journal = begun ++ past.flatMap Visit.told
  target : run.session.draft.target = latestTarget past
  choices : ∀ seen visit, seen ++ [visit] <+: past → ∀ choice ∈ visit.choices,
    visit.phase = .choice ∧ choice.target = latestTarget (seen ++ [visit])
  tagged : ∀ line ∈ tagLines past, ∃ threshold, lineKind threshold line.toList = .tag

theorem Targeted.append {begun : List Notice} {visit : Visit} (targeted : run.Targeted begun past)
    (serves : run.Serves visit next)
    (tagged : ∀ line ∈ visit.tagLine?, ∃ threshold, lineKind threshold line.toList = .tag) :
    next.Targeted begun (past ++ [visit]) := by
  have target : next.session.draft.target = latestTarget (past ++ [visit]) := by
    rw [serves.target, latestTarget_concat, targeted.target]
  constructor
  · rw [serves.journal, targeted.journal]
    simp
  · exact target
  · intro seen last begins choice taken
    rcases List.prefix_concat_iff.mp begins with same | earlier
    · obtain ⟨rfl, last_eq⟩ := List.append_inj' same rfl
      obtain rfl := List.singleton_inj.mp last_eq
      exact target ▸ serves.choices choice taken
    · exact targeted.choices seen last earlier choice taken
  · intro line member
    rw [tagLines, List.filterMap_append] at member
    rcases List.mem_append.mp member with before | new
    · exact targeted.tagged line before
    · exact tagged line (by simpa using new)

/-- The targets of a whole compile: every choice is taken in a choice block, with the target that
the latest tag line of any choice block has given. -/
theorem targeted_of_compile (observer : Observer σ) (config : Config) (state : σ)
    (lines : List String) :
    ∃ closed : Run (σ × List Notice),
      compile observer.recording config (state, []) lines =
        ((result observer.recording closed).1, .ok closed.session.assembly.graph) ∧
      closed.Targeted [⟨0, .event (.started config)⟩] (history observer config state lines) := by
  refine history_induction (fun past run => run.Targeted [⟨0, .event (.started config)⟩] past)
    ?_ ?_ ?_ ?_ lines ?_
  · intro past run targeted
    exact { targeted with }
  · intro past run targeted phase
    exact { targeted with }
  · intro past run next line kind outcome targeted move faultless
    apply targeted.append (serves_of_move move faultless)
    intro tag tagged
    obtain ⟨-, rfl, inner⟩ := tagLine?_visit_eq_some_iff.mp tagged
    exact ⟨run.config.indentThreshold, inner⟩
  · intro past run next targeted closing
    apply targeted.append (serves_of_closing closing)
    simp [Visit.tagLine?, lastVisit]
  · exact ⟨rfl, rfl, by simp, by simp [tagLines]⟩

/-- Every choice is taken while its choice block is open. If its own block has had a tag line by
then, its target is what the latest of these gives, and only a pair of brackets gives none. If
no choice block of the compile has had a tag line yet, it has no target; and a target never
comes from anything but the latest tag line. -/
theorem target_of_compile (observer : Observer σ) (config : Config) (state : σ)
    (lines : List String) :
    ∃ run graph, compile observer.recording config (state, []) lines = (run, .ok graph) ∧
      choicesTaken run.journal =
        (history observer config state lines).flatMap Visit.choices ∧
      ∀ seen visit, seen ++ [visit] <+: history observer config state lines →
        ∀ choice ∈ visit.choices,
          visit.phase = .choice ∧
          (∀ tag, (tagLines (choiceBlock (seen ++ [visit]))).getLast? = some tag →
            choice.target = Session.targetOf tag ∧ (choice.target = none ↔ tag = "[]")) ∧
          (tagLines (seen ++ [visit]) = [] → choice.target = none) ∧
          (choice.target = none ∨ ∃ tag, (tagLines (seen ++ [visit])).getLast? = some tag ∧
            choice.target = Session.targetOf tag) := by
  obtain ⟨closed, compiled, targeted⟩ := targeted_of_compile observer config state lines
  refine ⟨_, _, compiled, ?_, ?_⟩
  · simp only [result, journal_tell, targeted.journal, choicesTaken_append,
      Visit.choicesTaken_flatMap_told]
    simp [choicesTaken, passages, Session.notices, News.passage?]
  · intro seen visit begins choice taken
    obtain ⟨phase, target_eq⟩ := targeted.choices seen visit begins choice taken
    refine ⟨phase, ?_, ?_, ?_⟩
    · intro tag latest
      have latest := getLast?_tagLines_of_choiceBlock latest
      have member : tag ∈ tagLines (history observer config state lines) :=
        (begins.filterMap _).subset (List.mem_of_getLast? latest)
      obtain ⟨threshold, tagged⟩ := targeted.tagged tag member
      have given : choice.target = Session.targetOf tag := by
        rw [target_eq, latestTarget, latest, Option.bind_some]
      exact ⟨given, given ▸ targetOf_eq_none_iff tagged⟩
    · intro untagged
      rw [target_eq, latestTarget, untagged]
      rfl
    · rw [target_eq, latestTarget]
      cases latest : (tagLines (seen ++ [visit])).getLast? with
      | none => exact .inl rfl
      | some tag => exact .inr ⟨tag, rfl, rfl⟩

/-- A visit of a history, found by its position. -/
theorem exists_visit {visits : List Visit} (index : Nat) {choices : List Choice} {tags : List String}
    (taken : visits[index]?.map Visit.choices = some choices)
    (tagged : tagLines (choiceBlock (visits.take (index + 1))) = tags) :
    ∃ seen visit, seen ++ [visit] <+: visits ∧
      tagLines (choiceBlock (seen ++ [visit])) = tags ∧ visit.choices = choices := by
  obtain ⟨visit, found, taken⟩ := Option.map_eq_some_iff.mp taken
  have split : visits.take (index + 1) = visits.take index ++ [visit] := by
    rw [List.take_add_one, found, Option.toList_some]
  exact ⟨visits.take index, visit, split ▸ List.take_prefix _ _, split ▸ tagged, taken⟩

/-- Of the two tag lines of a block the second counts for the second choice. -/
theorem target_of_compile_second :
    ∃ seen visit,
      seen ++ [visit] <+: history Observer.silent {} ()
        ["Alice:", "Pick", "\tYes", "\t[yes]", "\tNo", "\t[no]"] ∧
      tagLines (choiceBlock (seen ++ [visit])) = ["[yes]", "[no]"] ∧
      visit.choices ≠ [] ∧ ∀ choice ∈ visit.choices, choice.target = some "no" := by
  obtain ⟨_, _, -, -, targets⟩ := target_of_compile Observer.silent {} ()
    ["Alice:", "Pick", "\tYes", "\t[yes]", "\tNo", "\t[no]"]
  have found : ∃ seen visit,
      seen ++ [visit] <+: history Observer.silent {} ()
        ["Alice:", "Pick", "\tYes", "\t[yes]", "\tNo", "\t[no]"] ∧
      tagLines (choiceBlock (seen ++ [visit])) = ["[yes]", "[no]"] ∧
      visit.choices = [⟨"No", some "no"⟩] :=
    exists_visit 7 (by decide +kernel) (by decide +kernel)
  obtain ⟨seen, visit, begins, tagged, taken⟩ := found
  refine ⟨seen, visit, begins, tagged, by simp [taken], ?_⟩
  intro choice member
  obtain ⟨-, own, -⟩ := targets seen visit begins choice member
  have latest : (tagLines (choiceBlock (seen ++ [visit]))).getLast? = some "[no]" := by
    rw [tagged]
    rfl
  rw [(own "[no]" latest).1]
  decide

/-- A target is not local to its block: a choice without a tag line in its block can have the
target of an earlier block, and a choice can have no target although there was a tag line. -/
theorem target_not_local :
    (∃ seen visit,
      seen ++ [visit] <+: history Observer.silent {} ()
        ["Alice:", "Pick", "\tYes", "\t[yes]", "Bob:", "Go on", "\tNo", "Carol:", "Well",
          "\tMaybe", "\t[]"] ∧
      tagLines (choiceBlock (seen ++ [visit])) = [] ∧ visit.choices = [⟨"No", some "yes"⟩]) ∧
    ∃ seen visit,
      seen ++ [visit] <+: history Observer.silent {} ()
        ["Alice:", "Pick", "\tYes", "\t[yes]", "Bob:", "Go on", "\tNo", "Carol:", "Well",
          "\tMaybe", "\t[]"] ∧
      tagLines (choiceBlock (seen ++ [visit])) = ["[]"] ∧ visit.choices = [⟨"Maybe", none⟩] := by
  constructor
  · exact exists_visit 12 (by decide +kernel) (by decide +kernel)
  · exact exists_visit 18 (by decide +kernel) (by decide +kernel)

end Run

end Dialogue
