import Dialogue.Proofs.Outline.Run
import Dialogue.Proofs.Run.History

/-!
# A line is handled once

A line is handed on from phase to phase, and it may be said to be of a kind that its text
does not have. Nevertheless it comes to an end after three phases at most, and whatever
can be taken from it is taken once. What a line can still do depends on the phase that it
is handed on to; every move spends of this.
-/

namespace Dialogue

open Script Text

namespace News

/-- News that something was taken from a line: a text, a speaker, a command, or the tag of the next
node. -/
def takesLine : News → Bool
  | .textAdded _ _ | .speakerSet _ | .commandGiven _ | .tagSet _ => true
  | _ => false

/-- News that a node ends. -/
def endsNode : News → Bool
  | .nodeWritten _ _ => true
  | _ => false

/-- News that a choice block ends. -/
def endsBlock : News → Bool
  | .blockClosed _ => true
  | _ => false

/-- News that is none of these. -/
def isIdle : News → Bool
  | .textAdded _ _ | .speakerSet _ | .commandGiven _ | .tagSet _ | .nodeWritten _ _
  | .blockClosed _ => false
  | _ => true

theorem ends_of_takesLine {news : News} (takes : news.takesLine = true) :
    news.endsNode = false ∧ news.endsBlock = false := by
  cases news <;> simp_all [takesLine, endsNode, endsBlock]

theorem of_isIdle {news : News} (idle : news.isIdle = true) :
    news.takesLine = false ∧ news.endsNode = false ∧ news.endsBlock = false := by
  cases news <;> simp_all [isIdle, takesLine, endsNode, endsBlock]

end News

/-! ## Effects in a row -/

/-- What happens to a session at one line, effect by effect, with what there is to tell. -/
inductive Session.Effects (begun : Session) : List News → Session → Prop where
  | nothing : Effects begun [] begun
  | more {told news : List News} {between next : Session} (done : Effects begun told between)
      (effect : between.Effect news next) (line_eq : next.line = between.line) :
      Effects begun (told ++ news) next

theorem Session.tag_endChoice (session : Session) :
    session.endChoice.draft.tag = session.draft.tag := by
  rw [endChoice]
  cases session.draft.drainChoice.1 with
  | none => rfl
  | some choice =>
    dsimp only
    cases session.draft.choices.push? choice <;> rfl

theorem Session.tag_endBlock (session : Session) :
    session.endBlock.draft.tag = session.draft.tag := by
  simp only [endBlock]
  cases session.assembly.attach? session.draft.drainChoices.1 <;> rfl

namespace Session.Effects

variable {begun between next : Session} {told news : List News}

theorem single (effect : begun.Effect news next) (line_eq : next.line = begun.line) :
    begun.Effects news next :=
  .more .nothing effect line_eq

theorem trans (first : begun.Effects told between) (second : between.Effects news next) :
    begun.Effects (told ++ news) next := by
  induction second with
  | nothing => simpa using first
  | more _ effect line_eq ih =>
    rw [← List.append_assoc]
    exact .more ih effect line_eq

theorem line_eq (effects : begun.Effects told next) : next.line = begun.line := by
  induction effects with
  | nothing => rfl
  | more _ _ line_eq ih => exact line_eq.trans ih

end Session.Effects

namespace Run

/-! ## What a line can still do -/

/-- How often something can still be taken from a line. -/
def takesLeft : Outcome → Nat
  | .handOn _ => 1
  | _ => 0

/-- How many nodes a line can still end. -/
def nodesLeft : Outcome → Nat
  | .handOn .dialogue => 1
  | _ => 0

/-- How many choice blocks a line of a kind can still end. -/
def blocksLeft (kind : LineKind) : Outcome → Nat
  | .handOn .choice => if kind = .indented then 0 else 1
  | _ => 0

/-- News spends at most as much as lies between two outcomes. -/
structure Spends (kind : LineKind) (news : List News) (before after : Outcome) : Prop where
  takes : news.countP News.takesLine + takesLeft after ≤ takesLeft before
  nodes : news.countP News.endsNode + nodesLeft after ≤ nodesLeft before
  blocks : news.countP News.endsBlock + blocksLeft kind after ≤ blocksLeft kind before

namespace Spends

variable {kind : LineKind} {told news : List News} {before between after : Outcome}

theorem nothing (kind : LineKind) (outcome : Outcome) : Spends kind [] outcome outcome :=
  ⟨by simp, by simp, by simp⟩

theorem trans (first : Spends kind told before between) (second : Spends kind news between after) :
    Spends kind (told ++ news) before after := by
  obtain ⟨takes, nodes, blocks⟩ := first
  obtain ⟨takes', nodes', blocks'⟩ := second
  constructor <;> rw [List.countP_append] <;> omega

/-- Idle news spends nothing. -/
theorem of_idle (idle : ∀ piece ∈ news, piece.isIdle = true) (outcome : Outcome) :
    Spends kind news outcome outcome := by
  have none_of {view : News → Bool} (blind : ∀ {piece}, piece.isIdle = true → view piece = false) :
      news.countP view = 0 :=
    List.countP_eq_zero.mpr fun piece member => by simp [blind (idle piece member)]
  constructor
  · rw [none_of fun idle => (News.of_isIdle idle).1, Nat.zero_add]
  · rw [none_of fun idle => (News.of_isIdle idle).2.1, Nat.zero_add]
  · rw [none_of fun idle => (News.of_isIdle idle).2.2, Nat.zero_add]

/-- What is left need not be used. -/
theorem consumed (spends : Spends kind news before after) : Spends kind news before .consumed where
  takes := (Nat.le_add_right _ _).trans spends.takes
  nodes := (Nat.le_add_right _ _).trans spends.nodes
  blocks := (Nat.le_add_right _ _).trans spends.blocks

/-- Something is taken from a line, and idle news follows. -/
theorem take {first : News} (takes : first.takesLine = true)
    (idle : ∀ piece ∈ news, piece.isIdle = true) (phase : Phase) :
    Spends kind (first :: news) (.handOn phase) .consumed := by
  have ends := News.ends_of_takesLine takes
  have first_spends : Spends kind [first] (.handOn phase) .consumed :=
    ⟨by simp [takes, takesLeft], by simp [ends, nodesLeft], by simp [ends, blocksLeft]⟩
  exact first_spends.trans (of_idle idle .consumed)

/-- A node ends behind a label only. -/
theorem endNode {node : Node} {lines : List String}
    (idle : ∀ piece ∈ news, piece.isIdle = true) :
    Spends kind (.nodeWritten node lines :: news) (.handOn .dialogue) (.handOn .idle) := by
  have first_spends : Spends kind [.nodeWritten node lines] (.handOn .dialogue) (.handOn .idle) :=
    ⟨by simp [News.takesLine, takesLeft], by simp [News.endsNode, nodesLeft],
      by simp [News.endsBlock, blocksLeft]⟩
  exact first_spends.trans (of_idle idle _)

/-- A choice block ends at a line that is not indented only. -/
theorem endBlock {choices : List Choice} (kind_ne : kind ≠ .indented)
    (idle : ∀ piece ∈ news, piece.isIdle = true) :
    Spends kind (.blockClosed choices :: news) (.handOn .choice) (.handOn .idle) := by
  have first_spends : Spends kind [.blockClosed choices] (.handOn .choice) (.handOn .idle) :=
    ⟨by simp [News.takesLine, takesLeft], by simp [News.endsNode, nodesLeft],
      by simp [News.endsBlock, blocksLeft, kind_ne]⟩
  exact first_spends.trans (of_idle idle _)

/-- Nothing is spent more than once, whatever the first phase is. -/
theorem le_one {phase : Phase} (spends : Spends kind news (.handOn phase) after) :
    news.countP News.takesLine ≤ 1 ∧ news.countP News.endsNode ≤ 1 ∧
      news.countP News.endsBlock ≤ 1 := by
  have nodes : nodesLeft (.handOn phase) ≤ 1 := by cases phase <;> decide
  have blocks : blocksLeft kind (.handOn phase) ≤ 1 := by
    cases phase <;> cases kind <;> decide
  obtain ⟨takes_le, nodes_le, blocks_le⟩ := spends
  rw [show takesLeft (.handOn phase) = 1 from rfl] at takes_le
  omega

end Spends

/-! ## What the moves do -/

variable {σ : Type} {observer : Observer σ} {run between next : Run (σ × List Notice)}
  {line : String} {kind : LineKind}

/-- From one run to another a row of effects was told, and what a line could do was spent. -/
structure Handles (kind : LineKind) (run next : Run (σ × List Notice)) (news : List News)
    (before after : Outcome) : Prop where
  journal_eq : next.journal = run.journal ++ run.session.notices news
  effects : run.session.Effects news next.session
  spends : Spends kind news before after

namespace Handles

variable {told news : List News} {before middle after : Outcome}

theorem nothing (kind : LineKind) (run : Run (σ × List Notice)) (outcome : Outcome) :
    Handles kind run run [] outcome outcome :=
  ⟨by simp, .nothing, .nothing kind outcome⟩

theorem trans (first : Handles kind run between told before middle)
    (second : Handles kind between next news middle after) :
    Handles kind run next (told ++ news) before after where
  journal_eq := by
    simp [second.journal_eq, first.journal_eq, Session.notices, first.effects.line_eq]
  effects := first.effects.trans second.effects
  spends := first.spends.trans second.spends

theorem consumed (handles : Handles kind run next news before after) :
    Handles kind run next news before .consumed :=
  { handles with spends := handles.spends.consumed }

theorem takeTarget (run : Run (σ × List Notice)) (line : String) (outcome : Outcome) :
    Handles kind run (takeTarget observer.recording run line)
      [.targetSet (Session.targetOf line)] outcome outcome :=
  ⟨rfl, .single (.target line) rfl, .of_idle (by simp [News.isIdle]) _⟩

theorem endChoice (run : Run (σ × List Notice)) (outcome : Outcome) :
    Handles kind run (endChoice observer.recording run) run.session.choiceNews
      outcome outcome where
  journal_eq := journal_endChoice observer run
  effects := by
    rw [session_endChoice]
    exact .single .endChoice Session.line_endChoice
  spends := by
    refine .of_idle ?_ outcome
    rw [Session.choiceNews]
    cases run.session.draft.drainChoice.1 with
    | none => simp
    | some choice => cases run.session.draft.choices.isFull <;> simp [News.isIdle]

theorem endBlock (run : Run (σ × List Notice)) (kind_ne : kind ≠ .indented) :
    Handles kind run (endBlock observer.recording run) run.session.blockNews
      (.handOn .choice) (.handOn .idle) where
  journal_eq := journal_endBlock observer run
  effects := by
    rw [session_endBlock]
    exact .single .endBlock Session.line_endBlock
  spends := by
    refine .endBlock kind_ne ?_
    cases run.session.assembly.attach? run.session.draft.choices.items with
    | none => cases run.session.draft.choices.items.isEmpty <;> simp [News.isIdle]
    | some attached => simp [News.isIdle]

theorem endNode (ended : Run.endNode observer.recording run = (next, none)) :
    ∃ news, Handles kind run next news (.handOn .dialogue) (.handOn .idle) := by
  obtain ⟨node, written, session_eq⟩ := exists_node_of_endNode observer.recording ended
  refine ⟨_, journal_endNode observer written ended, ?_, .endNode ?_⟩
  · rw [session_eq]
    exact .single (.endNode written _) rfl
  · cases run.session.assembly.isFull <;> simp [News.isIdle]

end Handles

/-- Every move that does not fail spends of what the line could do in the phase it had come to. -/
theorem handles_of_move {outcome : Outcome}
    (move : Move observer.recording line kind run next outcome)
    (faultless : ∀ fault, outcome ≠ .failed fault) :
    ∃ news, Handles kind run next news (.handOn run.session.phase) outcome := by
  cases move with
  | gather | gatherChoice => exact ⟨_, rfl, .single (.gather line) rfl, .take rfl (by simp) _⟩
  | label => exact ⟨_, rfl, .single (.label line) rfl, .take rfl (by simp) _⟩
  | @command command phase kind_eq parsed =>
    refine ⟨_, journal_takeCommand _ _ _, ?_, .take rfl ?_ _⟩
    · rw [session_takeCommand]
      exact .single (.command _) (Session.line_takeCommand _)
    · cases run.session.draft.commands.isFull <;> simp [News.isIdle]
  | unfinished => exact absurd rfl (faultless _)
  | tag phase kind_eq =>
    refine ⟨_, journal_takeTag _ _ _, ?_, ?_⟩
    · rw [session_takeTag]
      exact .single (.tag line) (Session.line_takeTag line)
    · rw [Session.tagNews]
      split
      · exact .take rfl (by simp) _
      · exact (Spends.of_idle (by simp [News.isIdle]) _).consumed
  | openBlock phase kind_eq =>
    refine ⟨_, journal_tell _ _ _, .single .openBlock rfl, ?_⟩
    rw [phase, kind_eq]
    exact ⟨by decide, by decide, by decide⟩
  | endNode phase _ ended =>
    rw [phase]
    exact Handles.endNode ended
  | nodeFailed => exact absurd rfl (faultless _)
  | target phase inner kind_eq =>
    exact ⟨_, ((Handles.takeTarget run line _).trans (.endChoice _ _)).consumed⟩
  | targetBehind phase inner kind_ne =>
    rw [phase]
    exact ⟨_, ((Handles.takeTarget run line _).trans (.endChoice _ _)).trans (.endBlock _ kind_ne)⟩
  | skip => exact ⟨[], by simp, .nothing, (Spends.nothing kind _).consumed⟩
  | endBlock phase _ _ kind_ne =>
    rw [phase]
    exact ⟨_, (Handles.endChoice run _).trans (.endBlock _ kind_ne)⟩

theorem Handles.withPhase (kind : LineKind) (run : Run (σ × List Notice)) (phase : Phase)
    (outcome : Outcome) : Handles kind run (run.withPhase phase) [] outcome outcome :=
  ⟨by simp, .single (.enter phase) rfl, .nothing kind outcome⟩

/-! ## The pending tag -/

/-- A line that is handed on leaves a usable tag. -/
theorem tag_ne_empty_of_handOn {phase : Phase} (usable : run.session.draft.tag ≠ "")
    (move : Move observer.recording line kind run next (.handOn phase)) :
    next.session.draft.tag ≠ "" := by
  cases move with
  | openBlock => exact usable
  | endNode _ _ ended =>
    obtain ⟨node, -, session_eq⟩ := exists_node_of_endNode observer.recording ended
    rw [session_eq]
    exact Config.numberedTag_ne_empty _ _
  | targetBehind =>
    simpa [Session.tag_endBlock, Session.tag_endChoice, Session.takeTarget] using usable
  | endBlock => simpa [Session.tag_endBlock, Session.tag_endChoice] using usable

/-! ## Whole lines -/

/-- A line visits three phases at most. -/
theorem length_visits_le (run : Run (σ × List Notice)) (line : String) (kind : LineKind) :
    (visits observer run line kind).length ≤ rank kind run.session.phase + 1 := by
  induction measure : rank kind run.session.phase using Nat.strongRecOn generalizing run with
  | ind _ ih =>
    cases step_eq : step observer.recording run line kind with
    | mk next outcome =>
      cases outcome with
      | handOn phase =>
        have lower : rank kind phase < rank kind run.session.phase :=
          rank_lt_of_step observer.recording step_eq
        rw [visits_of_handOn step_eq, List.length_cons]
        have : (visits observer (next.withPhase phase) line kind).length ≤ rank kind phase + 1 :=
          ih _ (measure ▸ lower) (next.withPhase phase) rfl
        omega
      | consumed | failed fault =>
        rw [visits]
        split <;> simp_all

/-- With a usable tag the end of a node has no fault. -/
theorem endNode_ne_fault (usable : run.session.draft.tag ≠ "") {fault : Fault} :
    endNode observer.recording run ≠ (next, some fault) := by
  intro failed
  cases written : run.session.draft.node? with
  | none => exact usable (Draft.node?_eq_none_iff.mp written)
  | some node =>
    obtain ⟨_, ended, -⟩ := endNode_of_node observer.recording written
    cases ended.symm.trans failed

/-- A line spends at most what it can do in the phase in which it comes. -/
theorem handles_of_feed (observer : Observer σ) (line : String) (kind : LineKind)
    (usable : run.session.draft.tag ≠ "") :
    ∃ news, Handles kind run (feed observer.recording run line kind).1 news
      (.handOn run.session.phase) .consumed := by
  refine feed_induction
    (fun reached => reached.session.draft.tag ≠ "" ∧ ∃ news, Handles kind run reached news
      (.handOn run.session.phase) (.handOn reached.session.phase))
    (fun next _ => ∃ news, Handles kind run next news (.handOn run.session.phase) .consumed)
    ?_ ?_ ?_ run ⟨usable, [], .nothing kind run _⟩
  · rintro reached next ⟨-, told, handled⟩ move
    obtain ⟨news, last⟩ := handles_of_move move (by simp)
    exact ⟨_, handled.trans last⟩
  · rintro reached next fault ⟨usable, told, handled⟩ move
    cases move with
    | unfinished => exact ⟨told, handled.consumed⟩
    | nodeFailed _ _ failed => exact absurd failed (endNode_ne_fault usable)
  · rintro reached next phase ⟨usable, told, handled⟩ move
    obtain ⟨news, handed⟩ := handles_of_move move (by simp)
    have usable := tag_ne_empty_of_handOn usable move
    exact ⟨usable, _, (handled.trans handed).trans (.withPhase kind next phase _)⟩

/-- A line fails if it is taken for a command and has a space, but no end of a name; unless it is
text of a choice block, which is seen before anything is made of it. -/
theorem fault_of_feed (observer : Observer σ) (line : String) (kind : LineKind)
    (usable : run.session.draft.tag ≠ "") :
    ((feed observer.recording run line kind).2 = none ∨
      (feed observer.recording run line kind).2 = some .unfinishedCommand) ∧
    ((feed observer.recording run line kind).2 = some .unfinishedCommand ↔
      kind = .command ∧ command? line.toList = none ∧
        ¬ (run.session.phase = .choice ∧ run.innerKind line = .narration)) := by
  refine feed_induction
    (fun reached => reached.session.draft.tag ≠ "" ∧
      (reached.session.phase = .choice → reached = run ∨ kind = .indented) ∧
      (run.session.phase = .choice ∧ run.innerKind line = .narration → reached = run))
    (fun _ fault => (fault = none ∨ fault = some .unfinishedCommand) ∧
      (fault = some .unfinishedCommand ↔ kind = .command ∧ command? line.toList = none ∧
        ¬ (run.session.phase = .choice ∧ run.innerKind line = .narration)))
    ?_ ?_ ?_ run ⟨usable, fun _ => .inl rfl, fun _ => rfl⟩
  · rintro reached next ⟨-, indented, -⟩ move
    refine ⟨.inl rfl, ?_⟩
    simp only [reduceCtorEq, false_iff]
    rintro ⟨command, unparsed, elsewhere⟩
    cases move with
    | gather _ kind_eq | label _ kind_eq | tag _ kind_eq | target _ _ kind_eq
    | skip _ _ _ kind_eq => simp [kind_eq] at command
    | gatherChoice phase inner =>
      rcases indented phase with rfl | kind_eq
      · exact elsewhere ⟨phase, inner⟩
      · simp [kind_eq] at command
    | command _ _ parsed => simp [unparsed] at parsed
  · rintro reached next fault ⟨usable, -, waits⟩ move
    cases move with
    | unfinished phase kind_eq parsed =>
      refine ⟨.inr rfl, fun _ => ⟨kind_eq, parsed, fun text => ?_⟩, fun _ => rfl⟩
      rw [waits text, text.1] at phase
      cases phase
    | nodeFailed _ _ failed => exact absurd failed (endNode_ne_fault usable)
  · rintro reached next phase ⟨usable, -, waits⟩ move
    have usable := tag_ne_empty_of_handOn usable move
    refine ⟨usable, ?_, fun text => ?_⟩
    · cases move with
      | openBlock _ kind_eq => exact fun _ => .inr kind_eq
      | endNode | targetBehind | endBlock => exact fun entered => by cases entered
    · -- Text of a choice block is never handed on.
      obtain rfl := waits text
      cases move with
      | openBlock phase | endNode phase => rw [text.1] at phase; cases phase
      | targetBehind _ inner => rw [text.2] at inner; cases inner
      | endBlock _ inner_ne => exact absurd text.2 inner_ne

/-- Every line comes to an end and is applied once. Whatever it is taken for, it is handled in
three phases at most; what the run did is a row of effects, told as they happened, of which
one at most takes something from the line, one at most ends a node and one at most ends a
choice block. It fails only if it is taken for a command and has a space, but none behind its
first character and no other blank there. -/
theorem feed_handles_once (observer : Observer σ) (run : Run (σ × List Notice)) (line : String)
    (kind : LineKind) (usable : run.session.draft.tag ≠ "") :
    (visits observer run line kind).length ≤ 3 ∧
      ∃ next fault news, feed observer.recording run line kind = (next, fault) ∧
        next.journal = run.journal ++ run.session.notices news ∧
        run.session.Effects news next.session ∧
        news.countP News.takesLine ≤ 1 ∧ news.countP News.endsNode ≤ 1 ∧
        news.countP News.endsBlock ≤ 1 ∧
        (fault = none ∨ fault = some .unfinishedCommand) ∧
        (fault = some .unfinishedCommand → kind = .command ∧ ' ' ∈ line.toList ∧
          ∀ c ∈ line.toList.drop 1, isBlank c = false) := by
  obtain ⟨news, handled⟩ := handles_of_feed observer line kind usable
  obtain ⟨takes, nodes, blocks⟩ := handled.spends.le_one
  obtain ⟨faults, unfinished_iff⟩ := fault_of_feed observer line kind usable
  refine ⟨?_, _, _, news, rfl, handled.journal_eq, handled.effects, takes, nodes, blocks, faults,
    ?_⟩
  · exact (length_visits_le run line kind).trans
      (Nat.succ_le_succ (rank_le_two kind run.session.phase))
  · intro failed
    obtain ⟨kind_eq, unparsed, -⟩ := unfinished_iff.mp failed
    exact ⟨kind_eq, command?_eq_none_iff.mp unparsed⟩

end Run

end Dialogue
