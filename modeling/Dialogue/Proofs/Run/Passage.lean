import Dialogue.Proofs.Run.Journal
import Dialogue.Proofs.Run.Safety

/-!
# Where text goes

Lines of text wait in the draft, whichever phase has put them there, until a node or a
choice takes all of them as its text. The passages of a journal are the texts that were
taken so, in order. Which lines are text depends on the lines alone and not on the phase:
the main statement is that the lines of the passages, followed by the lines that wait at
the end, are exactly the text lines of the script.
-/

namespace Dialogue

open Script Text

/-- A text that was taken out of a draft, with the lines that it was taken from. -/
inductive Passage where
  | node (node : Node) (lines : List String)
  | choice (choice : Choice) (lines : List String)

namespace Passage

def text : Passage → String
  | .node written _ => written.text
  | .choice written _ => written.text

def lines : Passage → List String
  | .node _ taken => taken
  | .choice _ taken => taken

def node? : Passage → Option Node
  | .node written _ => some written
  | .choice _ _ => none

def choice? : Passage → Option Choice
  | .node _ _ => none
  | .choice written _ => some written

end Passage

/-- The passage that news tells about. -/
def News.passage? : News → Option Passage
  | .nodeWritten node lines => some (.node node lines)
  | .choiceWritten choice lines => some (.choice choice lines)
  | _ => none

/-- The passages in a journal, in the order in which they were taken. -/
def passages (journal : List Notice) : List Passage :=
  journal.filterMap fun notice => notice.news.passage?

/-- Whether a dedented line that was of a kind before is text. In a choice block the kind of
the dedented line counts. -/
def isText (threshold : Int) (kind : LineKind) (line : List Char) : Bool :=
  kind = .narration || (kind = .indented && lineKind threshold line = .narration)

/-- What a raw line contributes to the text of a script. -/
def textLine? (threshold : Int) (raw : String) : Option String :=
  let line := trimLineEnd raw.toList
  if isBlankLine line then none
  else if isText threshold (lineKind threshold line) (dedent line) then
    some (String.ofList (dedent line))
  else none

/-! ## The passages of each operation -/

theorem News.passage?_of_isAside {news : News} (aside : news.isAside = true) :
    news.passage? = none := by
  cases news <;> simp_all [News.isAside, News.passage?]

@[simp] theorem passages_append (journal more : List Notice) :
    passages (journal ++ more) = passages journal ++ passages more :=
  List.filterMap_append

theorem passages_notices (session : Session) (news : List News) :
    passages (session.notices news) = news.filterMap News.passage? := by
  rw [passages, Session.notices, List.filterMap_map]
  rfl

namespace Session

variable (session : Session)

theorem passages_tagNews (line : String) : (tagNews line).passage? = none :=
  News.passage?_of_isAside (isAside_tagNews line)

theorem passages_commandNews (command : Command) :
    (session.commandNews command).filterMap News.passage? = [] :=
  (session.leads_commandNews command).filterMap_eq News.passage?_of_isAside

theorem passages_blockNews : session.blockNews.filterMap News.passage? = [] :=
  session.leads_blockNews.filterMap_eq News.passage?_of_isAside

theorem passages_nodeNews (node : Node) :
    (session.nodeNews node).filterMap News.passage? = [.node node session.draft.text] :=
  (session.leads_nodeNews node).filterMap_eq News.passage?_of_isAside

theorem passages_choiceNews :
    session.choiceNews.filterMap News.passage? =
      (session.draft.drainChoice.1.map (Passage.choice · session.draft.text)).toList := by
  rw [choiceNews]
  cases session.draft.drainChoice.1 with
  | none => rfl
  | some choice => cases session.draft.choices.isFull <;> rfl

end Session

/-! ## The account of text -/

/-- What a journal and a session say about text, after the lines that were spoken: no line is
lost or added between them, and what was recorded or kept was taken before. -/
structure TextAccount (config : Config) (spoken : List String) (journal : List Notice)
    (session : Session) : Prop where
  lines : (passages journal).flatMap Passage.lines ++ session.draft.text = spoken
  filled : ∀ line ∈ session.draft.text, line ≠ ""
  joined : ∀ passage ∈ passages journal, passage.text = "\n".intercalate passage.lines
  nodes : session.assembly.nodes.map Node.bare =
    ((passages journal).filterMap Passage.node?).take config.maxNodes
  kept : ∀ choice ∈ session.draft.choices.items,
    choice ∈ (passages journal).filterMap Passage.choice?
  offered : ∀ node ∈ session.assembly.nodes, ∀ choice ∈ node.choices,
    choice ∈ (passages journal).filterMap Passage.choice?

/-- Closing a node keeps the recorded nodes the first of all that were written. -/
theorem map_close_eq_take {limit : Nat} {assembly : Assembly} {written : List Node} {node : Node}
    (capacity : assembly.capacity = limit)
    (recorded : assembly.nodes.map Node.bare = written.take limit)
    (bare : node.bare = node) :
    (assembly.close node).nodes.map Node.bare = (written ++ [node]).take limit := by
  have length_eq := congrArg List.length recorded
  simp only [List.length_map, List.length_take] at length_eq
  cases full : assembly.isFull with
  | true =>
    have : limit ≤ assembly.nodes.length := by simpa [Assembly.isFull, capacity] using full
    rw [Assembly.nodes_close_of_full full, recorded, List.take_append_of_le_length (by omega)]
  | false =>
    have : assembly.nodes.length < limit := by simpa [Assembly.isFull, capacity] using full
    rw [Assembly.nodes_close_of_room full, List.map_append, recorded,
      List.take_of_length_le (by omega), List.take_of_length_le (by simp; omega)]
    simp [bare]

namespace TextAccount

variable {config : Config} {spoken : List String} {journal : List Notice} {session : Session}

/-- Operations that neither gather text nor take it leave the account as it is. -/
theorem quiet (account : TextAccount config spoken journal session) (next : Session)
    (news : List News) (untaken : news.filterMap News.passage? = [])
    (text_eq : next.draft.text = session.draft.text)
    (choices_eq : next.draft.choices.items = session.draft.choices.items)
    (nodes_eq : next.assembly.nodes = session.assembly.nodes) :
    TextAccount config spoken (journal ++ session.notices news) next := by
  have same : passages (journal ++ session.notices news) = passages journal := by
    rw [passages_append, passages_notices, untaken, List.append_nil]
  constructor
  · rw [same, text_eq, account.lines]
  · rw [text_eq]; exact account.filled
  · rw [same]; exact account.joined
  · rw [same, nodes_eq, account.nodes]
  · rw [same, choices_eq]; exact account.kept
  · rw [same, nodes_eq]; exact account.offered

theorem gather (account : TextAccount config spoken journal session) {line : String} (filled : line ≠ "")
    (phase : Phase) :
    TextAccount config (spoken ++ [line]) (journal ++ session.notices [.textAdded phase line])
      { session with draft := session.draft.addText line } := by
  have same : passages (journal ++ session.notices [.textAdded phase line]) =
      passages journal := by
    simp [passages_notices, News.passage?]
  constructor
  · rw [same, ← account.lines, Draft.text_addText, List.append_assoc]
  · intro other member
    rcases List.mem_append.mp member with before | new
    · exact account.filled other before
    · exact List.mem_singleton.mp new ▸ filled
  · rw [same]; exact account.joined
  · rw [same]; exact account.nodes
  · rw [same]; exact account.kept
  · rw [same]; exact account.offered

/-- The end of a node takes all waiting lines, and records the node while there is room. -/
theorem endNode (account : TextAccount config spoken journal session)
    (capacity : session.assembly.capacity = config.maxNodes) {node : Node}
    (written : session.draft.node? = some node) (tag : String) :
    TextAccount config spoken (journal ++ session.notices (session.nodeNews node))
      (session.endNode node tag) := by
  have taken : passages (journal ++ session.notices (session.nodeNews node)) =
      passages journal ++ [.node node session.draft.text] := by
    rw [passages_append, passages_notices, Session.passages_nodeNews]
  obtain ⟨-, -, text_eq, -, choices_eq⟩ := Draft.node?_eq_some_iff.mp written
  have more : ∀ choice ∈ (passages journal).filterMap Passage.choice?, choice ∈
      (passages (journal ++ session.notices (session.nodeNews node))).filterMap
        Passage.choice? := by
    rw [taken, List.filterMap_append]
    exact fun choice member => List.mem_append_left _ member
  constructor
  · rw [taken, ← account.lines]
    simp [Session.endNode, Passage.lines]
  · simp [Session.endNode]
  · rw [taken]
    intro passage member
    rcases List.mem_append.mp member with before | new
    · exact account.joined passage before
    · obtain rfl := List.mem_singleton.mp new
      exact text_eq.trans (Draft.joinedText_eq_intercalate _)
  · have bare : node.bare = node := by rw [Node.bare, ← choices_eq]
    rw [taken, List.filterMap_append]
    exact map_close_eq_take capacity account.nodes bare
  · simpa [Session.endNode] using fun choice member => more choice (account.kept choice member)
  · intro other member choice chosen
    rcases Assembly.mem_close member with before | rfl
    · exact more choice (account.offered other before choice chosen)
    · simp [choices_eq] at chosen

/-- The end of a choice takes all waiting lines; if there is no choice, then because no line is
waiting. -/
theorem endChoice (account : TextAccount config spoken journal session) :
    TextAccount config spoken (journal ++ session.notices session.choiceNews) session.endChoice := by
  have taken : passages (journal ++ session.notices session.choiceNews) = passages journal ++
      (session.draft.drainChoice.1.map (Passage.choice · session.draft.text)).toList := by
    rw [passages_append, passages_notices, Session.passages_choiceNews]
  have drained : (session.draft.drainChoice.1 = none ∧ session.draft.text = []) ∨
      ∃ choice, session.draft.drainChoice.1 = some choice ∧
        choice.text = session.draft.joinedText := by
    by_cases empty : session.draft.joinedText = ""
    · exact .inl ⟨if_pos empty, (Draft.joinedText_eq_empty_iff account.filled).mp empty⟩
    · exact .inr ⟨_, if_neg empty, rfl⟩
  have more : ∀ choice ∈ (passages journal).filterMap Passage.choice?, choice ∈
      (passages (journal ++ session.notices session.choiceNews)).filterMap Passage.choice? := by
    rw [taken, List.filterMap_append]
    exact fun choice member => List.mem_append_left _ member
  constructor
  · rw [taken, ← account.lines]
    rcases drained with ⟨none, empty⟩ | ⟨choice, some, -⟩
    · simp [none, empty]
    · simp [some, Passage.lines]
  · simp
  · rw [taken]
    intro passage member
    rcases List.mem_append.mp member with before | new
    · exact account.joined passage before
    · rcases drained with ⟨none, -⟩ | ⟨choice, some, text_eq⟩
      · simp [none] at new
      · simp only [some, Option.map_some, Option.toList_some, List.mem_singleton] at new
        subst new
        exact text_eq.trans (Draft.joinedText_eq_intercalate _)
  · rw [taken, Session.assembly_endChoice, account.nodes, List.filterMap_append]
    cases session.draft.drainChoice.1 <;> simp [List.filterMap_cons, Passage.node?]
  · intro choice member
    rcases Session.mem_choices_endChoice member with before | new
    · exact more choice (account.kept choice before)
    · simp [taken, new, Passage.choice?]
  · rw [Session.assembly_endChoice]
    exact fun node member choice chosen => more choice (account.offered node member choice chosen)

/-- The end of a block takes no text; it offers choices that were kept. -/
theorem endBlock (account : TextAccount config spoken journal session) :
    TextAccount config spoken (journal ++ session.notices session.blockNews) session.endBlock := by
  have same : passages (journal ++ session.notices session.blockNews) = passages journal := by
    rw [passages_append, passages_notices, Session.passages_blockNews, List.append_nil]
  constructor
  · rw [same, Session.text_endBlock, account.lines]
  · rw [Session.text_endBlock]; exact account.filled
  · rw [same]; exact account.joined
  · rw [same, ← account.nodes]
    rcases Session.nodes_endBlock with unchanged | ⟨front, last, before, after⟩
    · rw [unchanged]
    · rw [before, after]
      simp
  · simp
  · rw [same]
    rcases Session.nodes_endBlock with unchanged | ⟨front, last, before, after⟩
    · rw [unchanged]; exact account.offered
    · rw [after]
      intro node member choice chosen
      rcases List.mem_append.mp member with earlier | changed
      · exact account.offered node (by simp [before, earlier]) choice chosen
      · obtain rfl := List.mem_singleton.mp changed
        exact account.kept choice chosen

end TextAccount

/-! ## Runs -/

namespace Run

variable {σ : Type} {observer : Observer σ} {config : Config} {spoken : List String}
  {run next : Run (σ × List Notice)}

/-- The account of text in a run whose settings stay as they are. -/
structure TextLaw (config : Config) (spoken : List String) (run : Run (σ × List Notice)) :
    Prop where
  settings : run.config = config
  within : run.session.Within config
  account : TextAccount config spoken run.journal run.session

namespace TextLaw

theorem withPhase (law : run.TextLaw config spoken) (phase : Phase) :
    (run.withPhase phase).TextLaw config spoken where
  settings := law.settings
  within := { law.within with }
  account := { law.account with }

theorem tell (passive : observer.IsPassive) (law : run.TextLaw config spoken) (news : News)
    (untaken : news.passage? = none) (later : ∀ config, news ≠ .event (.started config)) :
    (tell observer.recording run news).TextLaw config spoken where
  settings := (config_tell passive.recording news later).trans law.settings
  within := law.within
  account := law.account.quiet run.session [news] (by simp [untaken]) rfl rfl rfl

theorem endNode (passive : observer.IsPassive) (law : run.TextLaw config spoken)
    (ended : endNode observer.recording run = (next, none)) : next.TextLaw config spoken := by
  obtain ⟨node, written, session_eq⟩ := exists_node_of_endNode observer.recording ended
  obtain ⟨_, found, within⟩ := endNode_within observer.recording law.within
  obtain ⟨rfl, -⟩ := Prod.mk.inj (ended.symm.trans found)
  refine ⟨(config_endNode passive.recording ended).trans law.settings, within, ?_⟩
  rw [session_eq, journal_endNode observer written ended]
  exact law.account.endNode law.within.capacity written _

theorem endBlock (passive : observer.IsPassive) (law : run.TextLaw config spoken) :
    (endBlock observer.recording (endChoice observer.recording run)).TextLaw config spoken where
  settings := by
    rw [config_endBlock passive.recording, config_endChoice passive.recording, law.settings]
  within := by simpa using law.within.endChoice.endBlock
  account := by simpa using law.account.endChoice.endBlock

theorem takeTarget (passive : observer.IsPassive) (law : run.TextLaw config spoken)
    (line : String) : (takeTarget observer.recording run line).TextLaw config spoken where
  settings := (config_takeTarget passive.recording line).trans law.settings
  within := law.within.takeTarget line
  account := law.account.quiet (run.session.takeTarget line) [.targetSet _] rfl rfl rfl rfl

end TextLaw

/-- What a dedented line contributes to the text of a script. -/
def textOf (config : Config) (kind : LineKind) (line : String) : List String :=
  if isText config.indentThreshold kind line.toList then [line] else []

variable {line : String} {kind : LineKind}

/-- A move that uses a line up accounts for its text, a move that hands it on for nothing. -/
theorem text_of_move {outcome : Outcome} (passive : observer.IsPassive)
    (reading : IsReading config.indentThreshold line kind) (law : run.TextLaw config spoken)
    (move : Move observer.recording line kind run next outcome) :
    next.TextLaw config
      (spoken ++ if outcome = .consumed then textOf config kind line else []) := by
  refine ⟨(config_of_move passive.recording move).trans law.settings,
    (within_of_move observer.recording reading.head?_of_command law.within move).2, ?_⟩
  have inner_eq : run.innerKind line = lineKind config.indentThreshold line.toList := by
    rw [← law.settings]
    rfl
  have account := law.account
  have target := law.takeTarget passive line
  cases move with
  | gather phase kind_eq =>
    have text : textOf config kind line = [line] := by simp [textOf, isText, kind_eq]
    simpa [text] using account.gather reading.ne_empty run.session.phase
  | gatherChoice phase inner =>
    have text : textOf config kind line = [line] := by
      rw [inner_eq] at inner
      cases kind <;> simp_all [textOf, isText, reading.lineKind_ne_narration]
    simpa [text] using account.gather reading.ne_empty run.session.phase
  | label phase kind_eq =>
    have silent : textOf config kind line = [] := by simp [textOf, isText, kind_eq]
    simpa [silent] using account.quiet (run.session.takeLabel line) [.speakerSet _] rfl rfl rfl rfl
  | @command command phase kind_eq parsed =>
    have silent : textOf config kind line = [] := by simp [textOf, isText, kind_eq]
    obtain ⟨text_eq, choices_eq, assembly_eq⟩ := Session.views_takeCommand command
    simpa [silent] using account.quiet (run.session.takeCommand command) _
      (run.session.passages_commandNews command) text_eq (choices_eq ▸ rfl) (assembly_eq ▸ rfl)
  | unfinished => simpa using account
  | tag phase kind_eq =>
    have silent : textOf config kind line = [] := by simp [textOf, isText, kind_eq]
    have untaken : [Session.tagNews line].filterMap News.passage? = [] := by
      simp [Session.passages_tagNews]
    obtain ⟨text_eq, choices_eq, assembly_eq⟩ := Session.views_takeTag line
    simpa [silent] using account.quiet (run.session.takeTag line) _ untaken text_eq
      (choices_eq ▸ rfl) (assembly_eq ▸ rfl)
  | openBlock => simpa using (law.tell passive .blockOpened rfl (by simp)).account
  | endNode _ _ ended => simpa using (law.endNode passive ended).account
  | nodeFailed _ _ ended =>
    obtain ⟨_, found, -⟩ := endNode_within observer.recording law.within
    cases ended.symm.trans found
  | target phase inner kind_eq =>
    have silent : textOf config kind line = [] := by
      simp [textOf, isText, kind_eq, ← inner_eq, inner]
    simpa [silent] using target.account.endChoice
  | targetBehind => simpa using (target.endBlock passive).account
  | skip phase inner_ne _ kind_eq =>
    have silent : textOf config kind line = [] := by
      simp [textOf, isText, kind_eq, ← inner_eq, inner_ne]
    simpa [silent] using account
  | endBlock => simpa using (law.endBlock passive).account

theorem text_of_feed (passive : observer.IsPassive)
    (reading : IsReading config.indentThreshold line kind) (law : run.TextLaw config spoken)
    (fed : feed observer.recording run line kind = (next, none)) :
    next.TextLaw config (spoken ++ textOf config kind line) := by
  refine feed_keeps (fun run => run.TextLaw config spoken)
    (fun next => next.TextLaw config (spoken ++ textOf config kind line)) ?_ ?_ law fed
  · intro run next law move
    simpa using text_of_move passive reading law move
  · intro run next phase law move
    exact TextLaw.withPhase (by simpa using text_of_move passive reading law move) phase

theorem text_of_readLine (passive : observer.IsPassive) (raw : String)
    (law : run.TextLaw config spoken)
    (read : readLine observer.recording run raw = (next, none)) :
    next.TextLaw config (spoken ++ (textLine? config.indentThreshold raw).toList) := by
  have counted : run.atNextLine.TextLaw config spoken :=
    ⟨law.settings, { law.within with }, { law.account with }⟩
  cases present : isBlankLine (trimLineEnd raw.toList) with
  | true =>
    rw [readLine_of_blank present] at read
    obtain ⟨rfl, -⟩ := Prod.mk.inj read
    simpa [textLine?, present] using counted
  | false =>
    rw [readLine_of_present present, law.settings] at read
    have text_eq : (textLine? config.indentThreshold raw).toList =
        textOf config (lineKind config.indentThreshold (trimLineEnd raw.toList))
          (String.ofList (dedent (trimLineEnd raw.toList))) := by
      simp only [textLine?, present, textOf, String.toList_ofList, Bool.false_eq_true, if_false]
      split <;> rfl
    rw [text_eq]
    exact text_of_feed passive ⟨_, present, rfl, rfl⟩ counted read

theorem text_of_readAll (passive : observer.IsPassive) {lines : List String}
    (law : run.TextLaw config [])
    (read : readAll observer.recording run lines = (next, none)) :
    next.TextLaw config (lines.filterMap (textLine? config.indentThreshold)) := by
  refine readAll_induction
    (fun done run => run.TextLaw config (done.filterMap (textLine? config.indentThreshold)))
    ?_ law read
  intro done raw run next law read
  rw [List.filterMap_append]
  have kept := text_of_readLine passive raw law read
  cases text : textLine? config.indentThreshold raw <;> simpa [text] using kept

theorem text_of_close (passive : observer.IsPassive) (law : run.TextLaw config spoken)
    (closed : close observer.recording run = (next, none)) : next.TextLaw config spoken := by
  cases closing_of_close closed with
  | nothing => exact law
  | endNode _ _ ended => exact (law.endNode passive ended).withPhase .idle
  | endBlock => exact (law.endBlock passive).withPhase .idle
  | discard => exact law.tell passive _ rfl (by simp)

theorem text_of_start (bystander : observer.IsBystander) (config : Config) (state : σ) :
    (start observer.recording config (state, [])).TextLaw config [] where
  settings := bystander.keeps _ _ _
  within := .start config
  account := by constructor <;> simp [start, tell, Session.start, Draft.start, Assembly.empty,
    journal, Observer.recording, passages, News.passage?]

/-- No line of text is lost, added or moved. In a compile whose settings stay as they are, the
lines of all passages followed by the lines that wait at the end are the text lines of the
script in order. Each passage is its lines put together. The nodes of the graph are the
first of the nodes among the passages, and its choices are choices among the passages. -/
theorem text_of_compile (bystander : observer.IsBystander) (config : Config) (state : σ)
    (lines : List String) :
    ∃ run graph, compile observer.recording config (state, []) lines = (run, .ok graph) ∧
      (passages run.journal).flatMap Passage.lines ++ run.session.draft.text =
        lines.filterMap (textLine? config.indentThreshold) ∧
      (∀ passage ∈ passages run.journal, passage.text = "\n".intercalate passage.lines) ∧
      graph.nodes.map Node.bare =
        ((passages run.journal).filterMap Passage.node?).take config.maxNodes ∧
      ∀ node ∈ graph.nodes, ∀ choice ∈ node.choices,
        choice ∈ (passages run.journal).filterMap Passage.choice? := by
  obtain ⟨read, closed, readAll_eq, close_eq, -, compiled⟩ :=
    exists_compile observer.recording config (state, []) lines
  have passive := bystander.isPassive
  have law := text_of_close passive
    (text_of_readAll passive (text_of_start bystander config state) readAll_eq) close_eq
  have told := law.account.quiet closed.session
    [.event (.finished closed.session.assembly.graph closed.session.dropped)] rfl rfl rfl rfl
  exact ⟨_, _, compiled, told.lines, told.joined, told.nodes, told.offered⟩

/-- Text in all three phases: in front of a label, behind it and in a choice block, where a label
and an empty tag are no text. -/
theorem text_of_compile_silent :
    Observer.silent.IsBystander ∧ ∃ run graph,
      compile Observer.silent.recording {} ((), [])
          ["Well.", "Alice:", "Hi,", "", "\tYes", "\tBob:", "\t sure\r\n", "\t[]", "    maybe",
            "@wave", "[end]", "Done."] = (run, .ok graph) ∧
        (passages run.journal).flatMap Passage.lines ++ run.session.draft.text =
          ["Well.", "Hi,", "Yes", " sure", "maybe", "Done."] := by
  obtain ⟨run, graph, compiled, lines, -⟩ :=
    text_of_compile Observer.silent_isBystander {} ()
      ["Well.", "Alice:", "Hi,", "", "\tYes", "\tBob:", "\t sure\r\n", "\t[]", "    maybe",
        "@wave", "[end]", "Done."]
  exact ⟨Observer.silent_isBystander, run, graph, compiled, lines.trans (by decide)⟩

end Run

end Dialogue
