import Dialogue.Proofs.Run.Effects

/-!
# Journals

An observer that keeps every notice has a journal of the compile. Here is what each
operation of a run adds to the journal, as the news of the session that it works on, and
that a passive observer leaves the settings alone while lines are read.
-/

namespace Dialogue

open Script Text

/-- An observer that never changes the settings. -/
structure Observer.IsBystander {σ : Type} (observer : Observer σ) : Prop where
  keeps : ∀ notice config state, (observer.notify notice config state).1 = config

namespace Observer

variable {σ : Type} {observer : Observer σ}

theorem silent_isBystander : silent.IsBystander := ⟨fun _ _ _ => rfl⟩

theorem IsBystander.isPassive (bystander : observer.IsBystander) : observer.IsPassive :=
  ⟨fun notice config state _ => bystander.keeps notice config state⟩

end Observer

/-- News with the line that a session is at. -/
def Session.notices (session : Session) (news : List News) : List Notice :=
  news.map (⟨session.line, ·⟩)

@[simp] theorem Session.notices_nil (session : Session) : session.notices [] = [] := rfl

/-- The event that news brings, if it brings one. -/
def News.event? : News → Option CompileEvent
  | .event told => some told
  | _ => none

theorem Notice.event?_eq (notice : Notice) : notice.event? = notice.news.event? := by
  rw [Notice.event?]
  cases notice.news <;> rfl

/-- The events in a journal. -/
def events (journal : List Notice) : List CompileEvent :=
  journal.filterMap Notice.event?

@[simp] theorem events_append (journal more : List Notice) :
    events (journal ++ more) = events journal ++ events more :=
  List.filterMap_append

theorem events_notices (session : Session) (news : List News) :
    events (session.notices news) = news.filterMap News.event? := by
  rw [events, Session.notices, List.filterMap_map]
  exact congrArg (List.filterMap · news) (funext fun _ => Notice.event?_eq _)

/-! ## What counts in the news of an operation

An operation tells one thing first, and what may follow it is aside: it has to do with the
record that is kept of nodes, commands and choices, and not with the phase or with text. -/

/-- News that neither changes the phase nor adds or takes text. -/
def News.isAside : News → Bool
  | .event _ | .commandGiven _ | .tagSet _ | .malformedTag _ | .targetSet _
  | .choicesOrphaned _ | .discarded _ => true
  | _ => false

/-- News that begins with this piece and goes on with what is aside. -/
def News.Leads (first : News) (news : List News) : Prop :=
  ∃ rest, news = first :: rest ∧ ∀ aside ∈ rest, aside.isAside = true

theorem News.leads_singleton (first : News) : first.Leads [first] :=
  ⟨[], rfl, by simp⟩

/-- Of leading news a view that is blind to what is aside sees the first piece alone. -/
theorem News.Leads.filterMap_eq {α : Type} {first : News} {news : List News}
    (leads : first.Leads news) {view : News → Option α}
    (blind : ∀ {aside : News}, aside.isAside = true → view aside = none) :
    news.filterMap view = (view first).toList := by
  obtain ⟨rest, rfl, asides⟩ := leads
  have nothing : rest.filterMap view = [] :=
    List.filterMap_eq_nil_iff.mpr fun aside member => blind (asides aside member)
  rw [List.filterMap_cons, nothing]
  cases view first <;> rfl

namespace Session

variable (session : Session)

theorem isAside_tagNews (line : String) : (tagNews line).isAside = true := by
  rw [tagNews]
  split <;> rfl

theorem leads_commandNews (command : Command) :
    (News.commandGiven command).Leads (session.commandNews command) := by
  refine ⟨_, rfl, ?_⟩
  split <;> simp [News.isAside]

theorem leads_nodeNews (node : Node) :
    (News.nodeWritten node session.draft.text).Leads (session.nodeNews node) := by
  refine ⟨_, rfl, ?_⟩
  split <;> simp [News.isAside]

theorem leads_blockNews :
    (News.blockClosed session.draft.choices.items).Leads session.blockNews := by
  refine ⟨_, rfl, ?_⟩
  cases session.assembly.attach? session.draft.choices.items with
  | none => cases session.draft.choices.items.isEmpty <;> simp [News.isAside]
  | some attached => simp [News.isAside]

/-- Without waiting lines no choice ends, and there is nothing to tell. -/
theorem choiceNews_eq_nil (empty : session.draft.text = []) : session.choiceNews = [] := by
  simp [choiceNews, Draft.drainChoice, Draft.joinedText, empty, joinLines]

/-- A choice ends with all waiting lines. -/
theorem exists_leads_choiceNews (filled : ∀ line ∈ session.draft.text, line ≠ "")
    (waiting : session.draft.text ≠ []) :
    ∃ choice, choice.text = "\n".intercalate session.draft.text ∧
      (News.choiceWritten choice session.draft.text).Leads session.choiceNews := by
  have joined : session.draft.joinedText ≠ "" :=
    fun empty => waiting ((Draft.joinedText_eq_empty_iff filled).mp empty)
  rw [choiceNews, Draft.drainChoice]
  simp only [joined, if_false]
  refine ⟨_, Draft.joinedText_eq_intercalate _, _, rfl, ?_⟩
  split <;> simp [News.isAside]

end Session

namespace Run

variable {σ : Type}

/-! ## Settings -/

section Settings

variable {observer : Observer σ} {run next : Run σ}

@[simp] theorem config_withDraft (draft : Draft) : (run.withDraft draft).config = run.config := rfl

@[simp] theorem config_withPhase (phase : Phase) : (run.withPhase phase).config = run.config := rfl

@[simp] theorem config_withAssembly (assembly : Assembly) :
    (run.withAssembly assembly).config = run.config := rfl

variable (passive : observer.IsPassive)
include passive

/-- A passive observer keeps the settings unless a compile begins. -/
theorem config_tell (news : News) (later : ∀ config, news ≠ .event (.started config)) :
    (tell observer run news).config = run.config :=
  passive.keeps _ _ _ later

theorem config_takeLabel (line : String) : (takeLabel observer run line).config = run.config := by
  simp [takeLabel, config_tell passive]

theorem config_takeTarget (line : String) :
    (takeTarget observer run line).config = run.config := by
  simp [takeTarget, config_tell passive]

theorem config_takeCommand (command : Command) :
    (takeCommand observer run command).config = run.config := by
  simp only [takeCommand]
  split <;> simp [refuse, config_tell passive]

theorem config_takeTag (line : String) : (takeTag observer run line).config = run.config := by
  rw [takeTag]
  split <;> simp [config_tell passive]

theorem config_endNode {fault : Option Fault} (ended : endNode observer run = (next, fault)) :
    next.config = run.config := by
  simp only [endNode] at ended
  split at ended
  next =>
    obtain ⟨rfl, -⟩ := Prod.mk.inj ended
    rfl
  next =>
    obtain ⟨rfl, -⟩ := Prod.mk.inj ended
    simp only [renewTag]
    split <;> simp [refuse, config_tell passive]

theorem config_endChoice : (endChoice observer run).config = run.config := by
  simp only [endChoice]
  split
  · rfl
  · split <;> simp [refuse, config_tell passive]

theorem config_endBlock : (endBlock observer run).config = run.config := by
  simp only [endBlock]
  split
  · split <;> simp [config_tell passive]
  · simp [config_tell passive]

/-- No move changes the settings. -/
theorem config_of_move {line : String} {kind : LineKind} {outcome : Outcome}
    (move : Move observer line kind run next outcome) : next.config = run.config := by
  cases move with
  | gather | gatherChoice => simp [gather, config_tell passive]
  | label => exact config_takeLabel passive line
  | command => exact config_takeCommand passive _
  | unfinished => rfl
  | tag => exact config_takeTag passive line
  | openBlock => exact config_tell passive _ (by simp)
  | endNode _ _ ended | nodeFailed _ _ ended => exact config_endNode passive ended
  | target => rw [config_endChoice passive, config_takeTarget passive]
  | targetBehind =>
    rw [config_endBlock passive, config_endChoice passive, config_takeTarget passive]
  | skip => rfl
  | endBlock => rw [config_endBlock passive, config_endChoice passive]

end Settings

/-! ## Notices -/

/-- The notices that were kept so far. -/
def journal (run : Run (σ × List Notice)) : List Notice := run.state.2

variable (observer : Observer σ) (run : Run (σ × List Notice))

@[simp] theorem journal_tell (news : News) :
    (tell observer.recording run news).journal = run.journal ++ run.session.notices [news] := rfl

@[simp] theorem journal_atNextLine : run.atNextLine.journal = run.journal := rfl

@[simp] theorem journal_withDraft (draft : Draft) :
    (run.withDraft draft).journal = run.journal := rfl

@[simp] theorem journal_withPhase (phase : Phase) :
    (run.withPhase phase).journal = run.journal := rfl

@[simp] theorem journal_withAssembly (assembly : Assembly) :
    (run.withAssembly assembly).journal = run.journal := rfl

@[simp] theorem journal_renewTag : run.renewTag.journal = run.journal := rfl

@[simp] theorem journal_gather (line : String) :
    (gather observer.recording run line).journal =
      run.journal ++ run.session.notices [.textAdded run.session.phase line] := rfl

@[simp] theorem journal_takeLabel (line : String) :
    (takeLabel observer.recording run line).journal =
      run.journal ++
        run.session.notices [.speakerSet (String.ofList (speakerName line.toList))] := rfl

@[simp] theorem journal_takeTarget (line : String) :
    (takeTarget observer.recording run line).journal =
      run.journal ++ run.session.notices [.targetSet (Session.targetOf line)] := rfl

@[simp] theorem journal_takeTag (line : String) :
    (takeTag observer.recording run line).journal =
      run.journal ++ run.session.notices [Session.tagNews line] := by
  rw [takeTag, Session.tagNews]
  cases tagContent? line.toList with
  | none => rfl
  | some content => cases content <;> rfl

@[simp] theorem journal_refuse (kind : DropKind) (detail : String) :
    (refuse observer.recording run kind detail).journal =
      run.journal ++
        run.session.notices [.event (.entryDropped kind detail run.session.line)] := rfl

@[simp] theorem journal_takeCommand (command : Command) :
    (takeCommand observer.recording run command).journal =
      run.journal ++ run.session.notices (run.session.commandNews command) := by
  rw [takeCommand, Session.commandNews]
  simp only [session_tell, ← Bounded.isNone_push? _ command]
  cases run.session.draft.commands.push? command <;> simp [Session.notices]

@[simp] theorem journal_endChoice :
    (endChoice observer.recording run).journal =
      run.journal ++ run.session.notices run.session.choiceNews := by
  rw [endChoice, Session.choiceNews, Draft.drainChoice_eq]
  cases run.session.draft.drainChoice.1 with
  | none => simp [Session.notices]
  | some choice =>
    simp only [session_tell, session_withDraft, Draft.clearText, ← Bounded.isNone_push? _ choice]
    cases run.session.draft.choices.push? choice <;> simp [Session.notices]

@[simp] theorem journal_endBlock :
    (endBlock observer.recording run).journal =
      run.journal ++ run.session.notices run.session.blockNews := by
  simp only [endBlock, Session.blockNews, Draft.drainChoices, session_tell, session_withDraft]
  cases run.session.assembly.attach? run.session.draft.choices.items with
  | none =>
    by_cases empty : run.session.draft.choices.items = [] <;> simp [empty, Session.notices]
  | some attached => simp [Session.notices]

variable {run}

/-- What the end of a node adds to a journal. -/
theorem journal_endNode {node : Node} {next : Run (σ × List Notice)}
    (written : run.session.draft.node? = some node)
    (ended : endNode observer.recording run = (next, none)) :
    next.journal = run.journal ++ run.session.notices (run.session.nodeNews node) := by
  rw [endNode, Draft.drainNode_of_node written] at ended
  obtain ⟨rfl, -⟩ := Prod.mk.inj ended
  cases full : run.session.assembly.isFull with
  | true => simp [full, Session.notices, Session.nodeNews]
  | false => simp [full, Session.notices, Session.nodeNews, Assembly.nodes_close_of_room]

/-- The result of a compile is the last event of its journal. -/
theorem events_result (closed : Run (σ × List Notice)) :
    events (result observer.recording closed).1.journal =
      events closed.journal ++
        [.finished closed.session.assembly.graph closed.session.dropped] := by
  rw [result, journal_tell, events_append, events_notices]
  rfl

/-! ## Laws of journals -/

section Laws

variable {observer} {next : Run (σ × List Notice)} {line : String} {kind : LineKind}
  {Law : List Notice → Session → Prop}
  (kept : ∀ {journal session news next}, Law journal session → session.Effect news next →
    Law (journal ++ session.notices news) next)
include kept

theorem law_of_endNode (law : Law run.journal run.session)
    (ended : endNode observer.recording run = (next, none)) : Law next.journal next.session := by
  obtain ⟨node, written, session_eq⟩ := exists_node_of_endNode observer.recording ended
  rw [session_eq, journal_endNode observer written ended]
  exact kept law (.endNode written _)

/-- A law that every effect keeps is kept by every move. -/
theorem law_of_move {outcome : Outcome} (law : Law run.journal run.session)
    (move : Move observer.recording line kind run next outcome)
    (faultless : ∀ fault, outcome ≠ .failed fault) : Law next.journal next.session := by
  have target := kept law (.target line)
  cases move with
  | gather | gatherChoice => exact kept law (.gather line)
  | label => exact kept law (.label line)
  | command => simpa using kept law (.command _)
  | unfinished => exact law
  | tag => simpa using kept law (.tag line)
  | openBlock => exact kept law .openBlock
  | endNode _ _ ended => exact law_of_endNode kept law ended
  | nodeFailed => exact absurd rfl (faultless _)
  | target => simpa using kept target .endChoice
  | targetBehind => simpa using kept (kept target .endChoice) .endBlock
  | skip => exact law
  | endBlock => simpa using kept (kept law .endChoice) .endBlock

theorem law_of_readLine (raw : String) (law : Law run.journal run.session)
    (read : readLine observer.recording run raw = (next, none)) :
    Law next.journal next.session := by
  have counted : Law run.atNextLine.journal run.atNextLine.session := by
    have counted := kept law .nextLine
    rwa [Session.notices_nil, List.append_nil] at counted
  cases present : isBlankLine (trimLineEnd raw.toList) with
  | true =>
    rw [readLine_of_blank present] at read
    obtain ⟨rfl, -⟩ := Prod.mk.inj read
    exact counted
  | false =>
    rw [readLine_of_present present] at read
    refine feed_keeps (fun run => Law run.journal run.session)
      (fun next => Law next.journal next.session) ?_ ?_ counted read
    · intro run next law move
      exact law_of_move kept law move (by simp)
    · intro run next phase law move
      simpa using kept (law_of_move kept law move (by simp)) (.enter phase)

variable (Law) in
/-- A law that every effect keeps is kept from the first line to the end of a compile. -/
theorem law_of_compile {config : Config} {state : σ} {lines : List String}
    {read closed : Run (σ × List Notice)}
    (law : Law (start observer.recording config (state, [])).journal (Session.start config))
    (readAll_eq : readAll observer.recording (start observer.recording config (state, [])) lines =
      (read, none))
    (close_eq : close observer.recording read = (closed, none)) :
    Law closed.journal closed.session := by
  have law : Law read.journal read.session := by
    refine readAll_induction (fun _ run => Law run.journal run.session) ?_ law readAll_eq
    intro _ raw run next law read
    exact law_of_readLine kept raw law read
  cases closing_of_close close_eq with
  | nothing => exact law
  | endNode _ _ ended => simpa using kept (law_of_endNode kept law ended) (.enter .idle)
  | endBlock => simpa using kept (kept (kept law .endChoice) .endBlock) (.enter .idle)
  | discard => exact kept law .discard

end Laws

end Run

end Dialogue
