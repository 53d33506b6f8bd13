import Dialogue.Proofs.Bus.Conduct
import Dialogue.Proofs.Run.Replay

/-!
# Events as a record of a compile

The events of a compile begin with the settings, end with the result, and in between tell
of every closed node, of every attachment of choices and of every refused entry. Whoever
has only the events can replay the nodes of the graph and count what was refused. Which
events one effect brings is said once, by `Report`; the laws about the whole record follow
from it case by case.
-/

namespace Dialogue

namespace CompileEvent

/-- Whether an event lies between the beginning and the end of a compile. -/
def isProgress : CompileEvent → Bool
  | .nodeClosed _ _ | .choicesAttached _ _ | .entryDropped _ _ _ => true
  | .started _ | .finished _ _ => false

/-- Whether an event tells of a refused entry of a kind. -/
def isDropOf (kind : DropKind) : CompileEvent → Bool
  | .entryDropped dropped _ _ => dropped = kind
  | _ => false

/-- The line at which the entry was refused that an event tells of. -/
def dropLine? : CompileEvent → Option Nat
  | .entryDropped _ _ line => some line
  | _ => none

end CompileEvent

/-! ## What one effect reports -/

namespace Session

variable {session after : Session} {news : List News}

/-- The events that an effect on a session can bring. -/
inductive Report (session after : Session) : List CompileEvent → Prop where
  | nothing (kept : after.dropped = session.dropped) : Report session after []
  | nodeClosed (kept : after.dropped = session.dropped) (node : Node) (index : Nat) :
      Report session after [.nodeClosed node index]
  | choicesAttached (kept : after.dropped = session.dropped) (node : Node)
      (choices : List Choice) : Report session after [.choicesAttached node choices]
  /-- A refused entry is counted, and its event has the line that is being read. -/
  | entryDropped (kind : DropKind) (detail : String)
      (counted : after.dropped = session.dropped.record kind) :
      Report session after [.entryDropped kind detail session.line]

theorem report_command (command : Command) :
    Report session (session.takeCommand command)
      ((session.commandNews command).filterMap News.event?) := by
  rw [takeCommand, commandNews, ← Bounded.isNone_push? _ command]
  cases session.draft.commands.push? command with
  | some commands => exact .nothing rfl
  | none => exact .entryDropped .command command.name rfl

theorem report_tag (line : String) :
    Report session (session.takeTag line) ([tagNews line].filterMap News.event?) := by
  rw [takeTag, tagNews]
  split
  · exact .nothing rfl
  · exact .nothing rfl

theorem report_endNode (node : Node) (tag : String) :
    Report session (session.endNode node tag)
      ((session.nodeNews node).filterMap News.event?) := by
  rw [nodeNews]
  cases full : session.assembly.isFull with
  | true => exact .entryDropped .node node.tag (by simp [endNode, full])
  | false => exact .nodeClosed (by simp [endNode, full]) node _

theorem report_endChoice :
    Report session session.endChoice (session.choiceNews.filterMap News.event?) := by
  rw [endChoice, choiceNews]
  cases session.draft.drainChoice.1 with
  | none => exact .nothing rfl
  | some choice =>
    dsimp only
    rw [← Bounded.isNone_push? _ choice]
    cases session.draft.choices.push? choice with
    | some choices => exact .nothing rfl
    | none => exact .entryDropped .choice choice.text rfl

theorem report_endBlock :
    Report session session.endBlock (session.blockNews.filterMap News.event?) := by
  simp only [endBlock, blockNews, Draft.drainChoices]
  cases session.assembly.attach? session.draft.choices.items with
  | none =>
    cases session.draft.choices.items.isEmpty with
    | true => exact .nothing rfl
    | false => exact .nothing rfl
  | some attached =>
    cases attached with
    | mk node assembly =>
      apply Report.choicesAttached
      rfl

/-- Every effect reports one event or none. -/
theorem report_of_effect (effect : session.Effect news after) :
    Report session after (news.filterMap News.event?) := by
  cases effect with
  | nextLine | enter | gather | label | target | openBlock | discard => exact .nothing rfl
  | command command => exact report_command command
  | tag line => exact report_tag line
  | @endNode node _ tag => exact report_endNode node tag
  | endChoice => exact report_endChoice
  | endBlock => exact report_endBlock

/-- The number of the line never falls. -/
theorem line_le_of_effect (effect : session.Effect news after) : session.line ≤ after.line := by
  cases effect with
  | nextLine => exact Nat.le_succ _
  | enter | gather | label | target | openBlock | discard | endNode => exact Nat.le_refl _
  | command command =>
    rw [takeCommand]
    cases session.draft.commands.push? command <;> exact Nat.le_refl _
  | tag line =>
    rw [takeTag]
    split <;> exact Nat.le_refl _
  | endChoice =>
    rw [endChoice]
    cases session.draft.drainChoice.1 with
    | none => exact Nat.le_refl _
    | some choice =>
      dsimp only
      cases session.draft.choices.push? choice <;> exact Nat.le_refl _
  | endBlock =>
    simp only [endBlock]
    cases session.assembly.attach? session.draft.drainChoices.1 <;> exact Nat.le_refl _

end Session

namespace Session.Report

variable {session after : Session} {reported : List CompileEvent}

theorem inside (report : Session.Report session after reported) :
    ∀ event ∈ reported, event.isProgress = true := by
  cases report with
  | nothing => simp
  | nodeClosed | choicesAttached | entryDropped =>
    intro event member
    rw [List.mem_singleton.mp member]
    rfl

/-- What is counted is what is reported as refused. -/
theorem counted (report : Session.Report session after reported) (kind : DropKind) :
    after.dropped.count kind =
      session.dropped.count kind + reported.countP (·.isDropOf kind) := by
  cases report with
  | nothing kept | nodeClosed kept | choicesAttached kept =>
    rw [kept]
    rfl
  | entryDropped dropped detail counted =>
    rw [counted, Tally.count_record]
    by_cases same : kind = dropped
    · simp [CompileEvent.isDropOf, same]
    · simp [CompileEvent.isDropOf, same, Ne.symm same]

/-- Whatever is refused is reported with the line that is being read. -/
theorem dropLine (report : Session.Report session after reported) :
    reported.filterMap CompileEvent.dropLine? = [] ∨
      reported.filterMap CompileEvent.dropLine? = [session.line] := by
  cases report with
  | nothing | nodeClosed | choicesAttached => exact .inl rfl
  | entryDropped => exact .inr rfl

end Session.Report

/-! ## What the events of a compile say together -/

/-- What the events behind the first one say about a session: all of them lie between beginning
and end, each kind of refused entry is counted, and the lines of refused entries come in
the order of the script. -/
structure Chronicle (log : List CompileEvent) (session : Session) : Prop where
  inside : ∀ event ∈ log, event.isProgress = true
  counted : ∀ kind, session.dropped.count kind = log.countP (·.isDropOf kind)
  ordered : (log.filterMap CompileEvent.dropLine?).Pairwise (· ≤ ·)
  reached : ∀ line ∈ log.filterMap CompileEvent.dropLine?, line ≤ session.line

namespace Chronicle

variable {log reported : List CompileEvent} {session after : Session}

theorem start (config : Config) : Chronicle [] (.start config) where
  inside := by simp
  counted := by
    intro kind
    rfl
  ordered := .nil
  reached := by simp

/-- What an effect reports goes on with the record. -/
theorem append (chronicle : Chronicle log session) (report : session.Report after reported)
    (later : session.line ≤ after.line) : Chronicle (log ++ reported) after where
  inside := by
    intro event member
    rcases List.mem_append.mp member with before | new
    · exact chronicle.inside event before
    · exact report.inside event new
  counted := by
    intro kind
    rw [report.counted kind, chronicle.counted kind, List.countP_append]
  ordered := by
    rw [List.filterMap_append]
    rcases report.dropLine with none | one
    · rw [none, List.append_nil]
      exact chronicle.ordered
    · rw [one]
      apply List.pairwise_append.mpr
      refine ⟨chronicle.ordered, List.pairwise_singleton _ _, ?_⟩
      intro line member last same
      rw [List.mem_singleton.mp same]
      exact chronicle.reached line member
  reached := by
    intro line member
    rw [List.filterMap_append] at member
    rcases List.mem_append.mp member with before | new
    · exact Nat.le_trans (chronicle.reached line before) later
    · rcases report.dropLine with none | one
      · simp [none] at new
      · rw [one, List.mem_singleton] at new
        exact new ▸ later

end Chronicle

/-- The record of a whole compile: behind the settings comes what went on, and then the result. -/
theorem Run.chronicle_of_compile {σ : Type} (observer : Observer σ) (config : Config) (state : σ)
    (lines : List String) :
    ∃ closed : Run (σ × List Notice), ∃ log,
      compile observer.recording config (state, []) lines =
        ((result observer.recording closed).1, .ok closed.session.assembly.graph) ∧
      events (result observer.recording closed).1.journal = .started config :: log ++
        [.finished closed.session.assembly.graph closed.session.dropped] ∧
      Chronicle log closed.session := by
  obtain ⟨read, closed, readAll_eq, close_eq, -, compiled⟩ :=
    exists_compile observer.recording config (state, []) lines
  have chronicle : ∃ log, events closed.journal = .started config :: log ∧
      Chronicle log closed.session := by
    refine law_of_compile (fun journal session => ∃ log,
      events journal = .started config :: log ∧ Chronicle log session) ?_ ?_ readAll_eq close_eq
    · intro journal session news next law effect
      obtain ⟨log, begun, chronicle⟩ := law
      refine ⟨log ++ news.filterMap News.event?, ?_, ?_⟩
      · rw [events_append, events_notices, begun, List.cons_append]
      · exact chronicle.append (Session.report_of_effect effect)
          (Session.line_le_of_effect effect)
    · exact ⟨[], rfl, .start config⟩
  obtain ⟨log, begun, chronicle⟩ := chronicle
  refine ⟨closed, log, compiled, ?_, chronicle⟩
  rw [← begun]
  simp only [result, journal_tell, events_append, events_notices]
  rfl

/-! ## Events on a bus -/

namespace Publisher

variable (publish : Publisher)

/-- The world after events of a compile have been published one after the other. -/
def publishAll : World → List CompileEvent → Option World
  | world, [] => some world
  | world, event :: rest =>
    match publish (.ofCompile event) world with
    | none => none
    | some (world, _) => publishAll world rest

theorem publishAll_concat (world : World) (log : List CompileEvent) (event : CompileEvent) :
    publish.publishAll world (log ++ [event]) =
      (publish.publishAll world log).bind fun world =>
        (publish (.ofCompile event) world).map Prod.fst := by
  induction log generalizing world with
  | nil =>
    simp only [List.nil_append, publishAll, Option.bind_some]
    cases publish (.ofCompile event) world with
    | none => rfl
    | some published => rfl
  | cons first log ih =>
    simp only [List.cons_append, publishAll]
    cases publish (.ofCompile first) world with
    | none => rfl
    | some published => exact ih published.1

/-- The events of a journal have been published in a world, and nothing else has happened there. -/
def Published (world : World) (state : Option World × List Notice) : Prop :=
  state.1 = publish.publishAll world (events state.2)

theorem published_notify {world : World} (notice : Notice) (config : Config)
    (state : Option World × List Notice) (published : publish.Published world state) :
    publish.Published world (publish.observer.recording.notify notice config state).2 := by
  rw [Published] at published ⊢
  simp only [Observer.recording, notify_observer, published, events, List.filterMap_append]
  cases told : notice.event? with
  | none => simp [told]
  | some event => simp [told, publishAll_concat]

/-- A compile leaves a bus as if the events of its journal had been published there in order. -/
theorem publishAll_of_compile (config : Config) (world : World) (lines : List String) :
    (Run.compile publish.observer config (some world) lines).1.state =
      publish.publishAll world
        (events (Run.compile publish.observer.recording config (some world, []) lines).1.journal) := by
  have begun : publish.Published world (some world, []) := rfl
  rw [(Run.compile_recording publish.observer config (some world) lines).2]
  exact Run.state_of_compile (publish.Published world) publish.published_notify config begun lines

end Publisher

/-- The events of a compile are a faithful record of it, whatever the handlers on the bus do. The
bus is left as if just these events had been published one after the other. They begin
with the settings and end, once, with the graph and the counts of the result; in between
they tell of closed nodes, attached choices and refused entries only. They replay to the
nodes of the graph, the counts are the numbers of refused entries of each kind, and the
lines of refused entries never go back. -/
theorem Run.events_of_compile (publish : Publisher) (config : Config) (world : World)
    (lines : List String) :
    ∃ run graph log dropped,
      compile publish.observer.recording config (some world, []) lines = (run, .ok graph) ∧
      (compile publish.observer config (some world) lines).2 = .ok graph ∧
      (compile publish.observer config (some world) lines).1.state =
        publish.publishAll world (events run.journal) ∧
      events run.journal = .started config :: log ++ [.finished graph dropped] ∧
      (∀ event ∈ log, event.isProgress = true) ∧
      replay? [] (events run.journal) = some graph.nodes ∧
      (∀ kind, dropped.count kind = (events run.journal).countP (·.isDropOf kind)) ∧
      ((events run.journal).filterMap CompileEvent.dropLine?).Pairwise (· ≤ ·) := by
  obtain ⟨closed, log, compiled, told, chronicle⟩ :=
    chronicle_of_compile publish.observer config (some world) lines
  refine ⟨_, _, log, _, compiled, ?_, ?_, told, chronicle.inside, ?_, ?_, ?_⟩
  · rw [(compile_recording publish.observer config (some world) lines).1, compiled]
  · rw [publish.publishAll_of_compile config world lines, compiled]
  · obtain ⟨run, graph, compiled', replayed⟩ :=
      replay?_of_compile publish.observer config (some world) lines
    obtain ⟨rfl, same⟩ := Prod.mk.inj (compiled.symm.trans compiled')
    rw [replayed, Except.ok.inj same]
  · intro kind
    rw [told, chronicle.counted kind]
    simp [CompileEvent.isDropOf]
  · have same : (events (result publish.observer.recording closed).1.journal).filterMap
        CompileEvent.dropLine? = log.filterMap CompileEvent.dropLine? := by
      rw [told, List.filterMap_append, List.filterMap_cons]
      simp [CompileEvent.dropLine?]
    rw [same]
    exact chronicle.ordered

end Dialogue
