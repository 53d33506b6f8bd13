import Dialogue.Proofs.Outline.Block
import Dialogue.Proofs.Run.Coherence
import Dialogue.Proofs.Run.Numbering
import Dialogue.Proofs.Run.Target

/-!
# Reading a choice block

A run that reads a choice block keeps step with the entries that its lines say. While the
block is open, the draft holds the text behind the last tag line, the latest target, and
the choices for which there was room; the closed nodes do not change. Whatever ends the
block, be it another line or the end of the script, ends the last entry first and gives
the choices to the node that was closed last.
-/

namespace Dialogue

open Script Text

/-- A session that some compile comes to, whatever its observer does; the limits are those under
which the compile began. -/
def Session.Reachable (limits : Config) (session : Session) : Prop :=
  ∃ (σ : Type) (observer : Observer σ) (state : σ) (done : List String) (run : Run σ),
    Run.readAll observer (Run.start observer limits state) done = (run, none) ∧
      run.session = session

/-- The lines of a choice block: an indented line, and lines with which a block goes on. Blank
lines do not count. -/
structure IsChoiceBlock (threshold : Int) (first : String) (rest : List String) : Prop where
  opens : ∃ reading, reading? threshold 0 first = some reading ∧ reading.kind = .indented
  continues : ∀ reading ∈ contents threshold rest, reading.Continues threshold

/-- What has become of the entries of a choice block behind it: the first ones are the choices of
the node closed last, as many as there is room for, if that node was recorded; if it was not
recorded, no node has them. -/
structure Session.Offers (limits : Config) (opened : Assembly) (refused : Nat)
    (entries : List Choice) (session : Session) : Prop where
  recorded : ∀ node, opened.last? = some node →
    session.assembly.nodes =
      opened.nodes.dropLast ++ [{ node with choices := entries.take limits.maxChoices }]
  unrecorded : opened.last? = none → session.assembly = opened
  choices : session.draft.choices.items = []
  dropped : session.dropped.count .choice = refused + (entries.length - limits.maxChoices)

/-- An observer that leaves the indentation of choice blocks alone, whatever else it changes. -/
structure Observer.KeepsIndent {σ : Type} (observer : Observer σ) : Prop where
  keeps : ∀ notice config state, (∀ started, notice.news ≠ .event (.started started)) →
    (observer.notify notice config state).1.indentThreshold = config.indentThreshold

/-- Whatever changes settings only when a compile starts, as the bus does, is such an observer. -/
theorem Observer.IsPassive.keepsIndent {σ : Type} {observer : Observer σ}
    (passive : observer.IsPassive) : observer.KeepsIndent :=
  ⟨fun notice config state later =>
    congrArg Config.indentThreshold (passive.keeps notice config state later)⟩

/-! ## The first items of a list -/

namespace Bounded

variable {α : Type} {buffer larger : Bounded α} {offered : List α} {item : α}

/-- A buffer that holds the first items offered refuses only an item that is not one of them. -/
theorem firstItems_of_refused (firstItems : buffer.items = offered.take buffer.capacity)
    (refused : buffer.push? item = none) :
    buffer.capacity ≤ offered.length ∧
      buffer.items = (offered ++ [item]).take buffer.capacity := by
  have full := isFull_eq_true.mp (push?_eq_none_iff.mp refused)
  rw [firstItems, List.length_take] at full
  have enough : buffer.capacity ≤ offered.length := by omega
  exact ⟨enough, firstItems.trans (List.take_append_of_le_length enough).symm⟩

/-- A buffer that holds the first items offered and takes one more holds all of them. -/
theorem firstItems_of_push? (firstItems : buffer.items = offered.take buffer.capacity)
    (pushed : buffer.push? item = some larger) :
    offered.length < buffer.capacity ∧
      larger.items = (offered ++ [item]).take larger.capacity := by
  have within := larger.length_le
  rw [items_of_push? pushed, capacity_of_push? pushed, firstItems, List.length_append,
    List.length_singleton, List.length_take] at within
  have room : offered.length < buffer.capacity := by omega
  have fits : (offered ++ [item]).length ≤ buffer.capacity := length_concat_le item room
  refine ⟨room, ?_⟩
  rw [items_of_push? pushed, capacity_of_push? pushed, List.take_of_length_le fits, firstItems,
    List.take_of_length_le room.le]

end Bounded

/-! ## Sessions -/

namespace Session

variable {limits : Config} {threshold : Int} {opened : Assembly} {refused : Nat}
  {taken : List Choice} {session : Session}

/-- A session has taken entries: it holds the first ones, and the others were refused. -/
structure Took (limits : Config) (refused : Nat) (taken : List Choice) (session : Session) :
    Prop where
  capacity : session.draft.choices.capacity = limits.maxChoices
  items : session.draft.choices.items = taken.take limits.maxChoices
  dropped : session.dropped.count .choice = refused + (taken.length - limits.maxChoices)

/-- What is drained at the end of an entry is the entry. -/
theorem drainChoice_eq_choiceOf? (filled : ∀ line ∈ session.draft.text, line ≠ "") :
    session.draft.drainChoice.1 = choiceOf? session.draft.text session.draft.target := by
  simp only [Draft.drainChoice, choiceOf?, Draft.joinedText_eq_empty_iff filled]
  rw [Draft.joinedText_eq_intercalate]

/-- The end of an entry takes it, if there is any text for one. -/
theorem Took.endChoice (took : session.Took limits refused taken)
    (filled : ∀ line ∈ session.draft.text, line ≠ "") :
    session.endChoice.Took limits refused
      (taken ++ (choiceOf? session.draft.text session.draft.target).toList) := by
  have firstItems : session.draft.choices.items = taken.take session.draft.choices.capacity := by
    rw [took.capacity, took.items]
  rw [Session.endChoice, drainChoice_eq_choiceOf? filled]
  cases choiceOf? session.draft.text session.draft.target with
  | none => simpa using { took with }
  | some choice =>
    dsimp only [Option.toList_some]
    cases pushed : session.draft.choices.push? choice with
    | none =>
      obtain ⟨full, items⟩ := Bounded.firstItems_of_refused firstItems pushed
      rw [took.capacity] at full items
      refine ⟨took.capacity, items, ?_⟩
      rw [Tally.count_record, took.dropped, if_pos rfl, List.length_append, List.length_singleton]
      omega
    | some larger =>
      obtain ⟨room, items⟩ := Bounded.firstItems_of_push? firstItems pushed
      have capacity := (Bounded.capacity_of_push? pushed).trans took.capacity
      rw [took.capacity] at room
      rw [capacity] at items
      refine ⟨capacity, items, took.dropped.trans ?_⟩
      rw [List.length_append, List.length_singleton]
      omega

/-- The end of a block gives away what was taken. -/
theorem Took.endBlock (took : session.Took limits refused taken) :
    session.endBlock.Offers limits session.assembly refused taken := by
  have given : session.draft.drainChoices.1 = taken.take limits.maxChoices := took.items
  cases last : session.assembly.last? with
  | none =>
    have nowhere : session.assembly.attach? (taken.take limits.maxChoices) = none :=
      Assembly.attach?_eq_none_iff.mpr last
    refine ⟨by simp [last], ?_, choices_endBlock, ?_⟩ <;>
      simp only [Session.endBlock, given, nowhere]
    · exact fun _ => trivial
    · exact took.dropped
  | some node =>
    have attached := Assembly.attach?_of_last? last (taken.take limits.maxChoices)
    refine ⟨?_, by simp [last], choices_endBlock, ?_⟩ <;>
      simp only [Session.endBlock, given, attached]
    · intro other same
      obtain rfl := Option.some.inj (last.symm.trans same)
      rfl
    · exact took.dropped

/-- The last entry is taken before the block ends. -/
theorem Took.close (took : session.Took limits refused taken)
    (filled : ∀ line ∈ session.draft.text, line ≠ "") :
    session.endChoice.endBlock.Offers limits session.assembly refused
      (taken ++ (choiceOf? session.draft.text session.draft.target).toList) := by
  have offers := (took.endChoice filled).endBlock
  rwa [assembly_endChoice] at offers

theorem finalAssembly_of_idle (phase : session.phase = .idle) :
    session.finalAssembly = session.assembly := by
  rw [finalAssembly, phase]

theorem finalAssembly_of_dialogue (phase : session.phase = .dialogue) {node : Node}
    (written : session.draft.node? = some node) :
    session.finalAssembly = session.assembly.close node := by
  rw [finalAssembly, phase]
  simp only [written]

/-- A refused node counts as a node, not as a choice. -/
theorem count_choice_endNode (node : Node) (tag : String) :
    (session.endNode node tag).dropped.count .choice = session.dropped.count .choice := by
  rw [endNode]
  split
  · rw [Tally.count_record]
    rfl
  · rfl

/-- A command has nothing to do with choices, even if it is refused. -/
theorem Offers.takeCommand (offers : session.Offers limits opened refused taken)
    (command : Command) : (session.takeCommand command).Offers limits opened refused taken := by
  rw [Session.takeCommand]
  cases session.draft.commands.push? command with
  | some commands => exact { offers with }
  | none =>
    have dropped := offers.dropped
    exact { offers with dropped := by rw [Tally.count_record, dropped]; rfl }

theorem Offers.takeTag (offers : session.Offers limits opened refused taken) (line : String) :
    (session.takeTag line).Offers limits opened refused taken := by
  rw [Session.takeTag]
  split
  · exact { offers with }
  · exact offers

/-- A session in an open choice block, behind some of its lines. -/
structure Amid (limits : Config) (threshold : Int) (opened : Assembly) (refused : Nat)
    (carried : Option String) (block : List Reading) (session : Session) : Prop extends
    session.Took limits refused (endedEntries threshold block) where
  phase : session.phase = .choice
  assembly : session.assembly = opened
  text : session.draft.text = openPiece threshold block
  filled : ∀ line ∈ session.draft.text, line ≠ ""
  target : session.draft.target = standingTarget threshold carried block

namespace Amid

variable {carried : Option String} {block : List Reading} {reading : Reading}
  (amid : session.Amid limits threshold opened refused carried block)
include amid

/-- A line of text waits with the others. -/
theorem addText (text : reading.inner threshold = .narration) (filled : reading.line ≠ "") :
    Session.Amid limits threshold opened refused carried (block ++ [reading])
      { session with draft := session.draft.addText reading.line } := by
  have untagged : reading.inner threshold ≠ .tag := by simp [text]
  refine ⟨?_, amid.phase, amid.assembly, ?_, ?_, ?_⟩
  · rw [endedEntries_concat untagged]
    exact { amid.toTook with }
  · rw [openPiece_concat untagged, if_pos text, ← amid.text]
    rfl
  · intro line member
    rcases List.mem_append.mp member with before | same
    · exact amid.filled line before
    · exact List.mem_singleton.mp same ▸ filled
  · rw [standingTarget_concat untagged]
    exact amid.target

/-- A line that is neither text nor a tag counts for nothing. -/
theorem skip (untagged : reading.inner threshold ≠ .tag)
    (unspoken : reading.inner threshold ≠ .narration) :
    session.Amid limits threshold opened refused carried (block ++ [reading]) := by
  refine ⟨?_, amid.phase, amid.assembly, ?_, amid.filled, ?_⟩
  · rw [endedEntries_concat untagged]
    exact amid.toTook
  · rw [openPiece_concat untagged, if_neg unspoken]
    exact amid.text
  · rw [standingTarget_concat untagged]
    exact amid.target

/-- A tag line gives the target of the entry that it ends. -/
theorem endEntry (tag : reading.inner threshold = .tag) :
    (session.takeTarget reading.line).endChoice.Amid limits threshold opened refused carried
      (block ++ [reading]) := by
  have took : (session.takeTarget reading.line).Took limits refused
      (endedEntries threshold block) := { amid.toTook with }
  refine ⟨?_, ?_, ?_, ?_, by simp, ?_⟩
  · rw [endedEntries_concat_tag tag, ← amid.text]
    exact took.endChoice amid.filled
  · exact phase_endChoice.trans amid.phase
  · exact assembly_endChoice.trans amid.assembly
  · rw [openPiece_concat_tag tag, text_endChoice]
  · rw [standingTarget_concat_tag tag, target_endChoice]
    rfl

/-- The end of the script ends the last entry with the latest target. -/
theorem offers_of_end :
    session.endChoice.endBlock.Offers limits opened refused
      (entries threshold carried block none) := by
  have offers := amid.toTook.close amid.filled
  rw [amid.assembly, amid.text, amid.target] at offers
  rwa [entries_eq, Option.toList_none, List.append_nil]

/-- A tag line that ends the block gives the target of the last entry. -/
theorem offers_of_tag (tag : reading.inner threshold = .tag) :
    (session.takeTarget reading.line).endChoice.endBlock.Offers limits opened refused
      (entries threshold carried block (some reading)) := by
  have took : (session.takeTarget reading.line).Took limits refused
      (endedEntries threshold block) := { amid.toTook with }
  have offers := took.close amid.filled
  rw [entries_eq, Option.toList_some, standingTarget_concat_tag tag, ← amid.text, ← amid.assembly]
  exact offers

/-- Any other line that ends the block leaves the latest target. -/
theorem offers_of_line (untagged : reading.inner threshold ≠ .tag) :
    session.endChoice.endBlock.Offers limits opened refused
      (entries threshold carried block (some reading)) := by
  have offers := amid.offers_of_end
  rw [entries_eq, Option.toList_none, List.append_nil] at offers
  rwa [entries_eq, Option.toList_some, standingTarget_concat untagged]

end Amid

end Session

/-! ## Runs -/

namespace Run

variable {σ : Type} {observer : Observer σ} {run : Run σ} {limits : Config} {opened : Assembly}
  {refused : Nat} {carried : Option String} {block : List Reading} {reading : Reading}
  {line : String} {kind : LineKind} {taken : List Choice}

/-- A run in an open choice block, behind some of its lines. -/
structure Amid (limits : Config) (threshold : Int) (opened : Assembly) (refused : Nat)
    (carried : Option String) (block : List Reading) (run : Run σ) : Prop where
  threshold_eq : (run.config.indentThreshold : Int) = threshold
  session : run.session.Amid limits threshold opened refused carried block

variable {threshold : Int}

theorem Amid.atNextLine (amid : run.Amid limits threshold opened refused carried block) :
    run.atNextLine.Amid limits threshold opened refused carried block :=
  ⟨amid.threshold_eq, { amid.session with }⟩

/-! ### The indentation -/

section Indent

variable (keeps : observer.KeepsIndent)
include keeps

theorem indent_tell (news : News) (later : ∀ config, news ≠ .event (.started config)) :
    (tell observer run news).config.indentThreshold = run.config.indentThreshold :=
  keeps.keeps _ _ _ later

theorem indent_takeTarget (line : String) :
    (takeTarget observer run line).config.indentThreshold = run.config.indentThreshold := by
  simp [takeTarget, indent_tell keeps]

theorem indent_endNode {next : Run σ} (ended : endNode observer run = (next, none)) :
    next.config.indentThreshold = run.config.indentThreshold := by
  simp only [endNode] at ended
  split at ended
  next => cases (Prod.mk.inj ended).2
  next =>
    obtain ⟨rfl, -⟩ := Prod.mk.inj ended
    simp only [renewTag]
    split <;> simp [refuse, indent_tell keeps]

theorem indent_endChoice :
    (endChoice observer run).config.indentThreshold = run.config.indentThreshold := by
  simp only [endChoice]
  split
  · rfl
  · split <;> simp [refuse, indent_tell keeps]

end Indent

/-! ### One line -/

/-- Without a reading a line only counts. -/
theorem readLine_of_no_reading {raw : String}
    (unread : reading? run.config.indentThreshold 0 raw = none) :
    readLine observer run raw = (run.atNextLine, none) := by
  cases present : isBlankLine (trimLineEnd raw.toList) with
  | true => exact readLine_of_blank present
  | false =>
    rw [reading?_of_present 0 present] at unread
    cases unread

/-- A line is fed as it is read. -/
theorem readLine_of_reading {raw : String}
    (read : reading? run.config.indentThreshold 0 raw = some reading) :
    IsReading run.config.indentThreshold reading.line reading.kind ∧
      readLine observer run raw = feed observer run.atNextLine reading.line reading.kind := by
  cases present : isBlankLine (trimLineEnd raw.toList) with
  | true =>
    rw [reading?_of_blank 0 present] at read
    cases read
  | false =>
    rw [reading?_of_present 0 present, Option.some.injEq] at read
    subst read
    exact ⟨⟨_, present, rfl, rfl⟩, readLine_of_present present⟩

/-- Between nodes a line that is not indented has nothing to do with choices. -/
theorem exists_feed_of_idle (phase : run.session.phase = .idle)
    (offers : run.session.Offers limits opened refused taken)
    (sign : kind = .command → line.toList.head? = some '@') (outside : kind ≠ .indented) :
    ∃ next, feed observer run line kind = (next, none) ∧
      next.session.Offers limits opened refused taken := by
  have stepped : step observer run line kind = idleStep observer run line kind := step_of_idle phase
  cases kind with
  | label =>
    exact ⟨_, feed_of_consumed observer stepped, { offers with }⟩
  | narration => exact ⟨_, feed_of_consumed observer stepped, { offers with }⟩
  | command =>
    obtain ⟨command, fed⟩ := feed_command_of_idle observer phase (sign rfl)
    refine ⟨_, fed, ?_⟩
    rw [session_takeCommand]
    exact offers.takeCommand command
  | tag =>
    refine ⟨_, feed_of_consumed observer stepped, ?_⟩
    rw [session_takeTag]
    exact offers.takeTag line
  | indented => exact absurd rfl outside

section Lines

variable (keeps : observer.KeepsIndent)
  (amid : run.Amid limits threshold opened refused carried block)
include amid

include keeps in
/-- A line with which the block goes on is used up in it. -/
theorem Amid.exists_feed (reads : IsReading threshold reading.line reading.kind)
    (continues : reading.Continues threshold) :
    ∃ next, feed observer run reading.line reading.kind = (next, none) ∧
      next.Amid limits threshold opened refused carried (block ++ [reading]) := by
  have inner_eq : lineKind run.config.indentThreshold reading.line.toList =
      reading.inner threshold := by rw [amid.threshold_eq, Reading.inner]
  by_cases text : reading.inner threshold = .narration
  · have consumed : step observer run reading.line reading.kind =
        (gather observer run reading.line, .consumed) := by
      rw [step_of_choice amid.session.phase, choiceStep]
      simp [inner_eq, text]
    exact ⟨_, feed_of_consumed observer consumed,
      (congrArg _ (indent_tell keeps _ (by simp))).trans amid.threshold_eq,
      amid.session.addText text reads.ne_empty⟩
  · have indented : reading.kind = .indented := continues.resolve_right fun both => text both.2
    by_cases tag : reading.inner threshold = .tag
    · have consumed : step observer run reading.line reading.kind =
          (endChoice observer (takeTarget observer run reading.line), .consumed) := by
        rw [step_of_choice amid.session.phase, choiceStep]
        simp [inner_eq, tag, indented]
      refine ⟨_, feed_of_consumed observer consumed, ?_, ?_⟩
      · rw [indent_endChoice keeps, indent_takeTarget keeps, amid.threshold_eq]
      · rw [session_endChoice]
        exact amid.session.endEntry tag
    · have consumed : step observer run reading.line reading.kind = (run, .consumed) := by
        rw [step_of_choice amid.session.phase, choiceStep]
        simp [inner_eq, tag, text, indented]
      exact ⟨_, feed_of_consumed observer consumed, amid.threshold_eq, amid.session.skip tag text⟩

/-- A line with which the block does not go on ends it, and is handed on. -/
theorem Amid.exists_handOn (reads : IsReading threshold reading.line reading.kind)
    (ends : ¬ reading.Continues threshold) :
    ∃ behind : Run σ, behind.session.phase = .idle ∧
      behind.session.Offers limits opened refused
        (entries threshold carried block (some reading)) ∧
      feed observer run reading.line reading.kind =
        feed observer behind reading.line reading.kind := by
  have inner_eq : lineKind run.config.indentThreshold reading.line.toList =
      reading.inner threshold := by rw [amid.threshold_eq, Reading.inner]
  have outside : reading.kind ≠ .indented := fun indented => ends (.inl indented)
  -- Only text and indented lines can turn out as text without their indentation, and with
  -- either the block would go on.
  have unspoken : reading.inner threshold ≠ .narration := by
    intro text
    by_cases narration : reading.kind = .narration
    · exact ends (.inr ⟨narration, text⟩)
    · exact reads.lineKind_ne_narration narration outside text
  by_cases tag : reading.inner threshold = .tag
  · -- The block takes the target before the line is handed on, where it is taken once more.
    have handed : step observer run reading.line reading.kind =
        (endBlock observer (endChoice observer (takeTarget observer run reading.line)),
          .handOn .idle) := by
      rw [step_of_choice amid.session.phase, choiceStep]
      simp [inner_eq, tag, outside]
    refine ⟨_, rfl, ?_, feed_of_handOn observer handed⟩
    rw [session_withPhase, session_endBlock, session_endChoice, session_takeTarget]
    exact { amid.session.offers_of_tag tag with }
  · have handed : step observer run reading.line reading.kind =
        (endBlock observer (endChoice observer run), .handOn .idle) := by
      rw [step_of_choice amid.session.phase, choiceStep]
      simp [inner_eq, tag, unspoken, outside]
    refine ⟨_, rfl, ?_, feed_of_handOn observer handed⟩
    rw [session_withPhase, session_endBlock, session_endChoice]
    exact { amid.session.offers_of_line tag with }

include keeps in
theorem Amid.exists_readLine {raw : String}
    (continues : ∀ reading, reading? threshold 0 raw = some reading →
      reading.Continues threshold) :
    ∃ next, readLine observer run raw = (next, none) ∧
      next.Amid limits threshold opened refused carried
        (block ++ (reading? threshold 0 raw).toList) := by
  have atNextLine := amid.atNextLine
  obtain ⟨rfl, -⟩ := amid
  cases found : reading? run.config.indentThreshold 0 raw with
  | none =>
    refine ⟨_, readLine_of_no_reading found, ?_⟩
    rwa [Option.toList_none, List.append_nil]
  | some reading =>
    obtain ⟨reads, fed⟩ := readLine_of_reading found
    rw [fed]
    exact atNextLine.exists_feed keeps reads (continues reading found)

/-- A line with which a block does not go on ends it. -/
theorem Amid.exists_readLine_end {raw : String} (found : reading? threshold 0 raw = some reading)
    (ends : ¬ reading.Continues threshold) :
    ∃ next, readLine observer run raw = (next, none) ∧
      next.session.Offers limits opened refused
        (entries threshold carried block (some reading)) := by
  have atNextLine := amid.atNextLine
  obtain ⟨rfl, -⟩ := amid
  obtain ⟨reads, fed⟩ := readLine_of_reading found
  obtain ⟨behind, idle, offers, handed⟩ := atNextLine.exists_handOn reads ends
  rw [fed, handed]
  exact exists_feed_of_idle idle offers reads.head?_of_command fun indented => ends (.inl indented)

end Lines

/-! ### The whole block -/

theorem Amid.exists_readAll (keeps : observer.KeepsIndent)
    (amid : run.Amid limits threshold opened refused carried block) {lines : List String}
    (continues : ∀ reading ∈ contents threshold lines, reading.Continues threshold) :
    ∃ next, readAll observer run lines = (next, none) ∧
      next.Amid limits threshold opened refused carried (block ++ contents threshold lines) := by
  -- The entries depend on all lines from the first one, so the block read so far has to vary.
  induction lines generalizing run block with
  | nil => exact ⟨run, rfl, by simpa [contents] using amid⟩
  | cons raw lines ih =>
    rw [contents_cons] at continues ⊢
    have first : ∀ reading, reading? threshold 0 raw = some reading →
        reading.Continues threshold :=
      fun reading found => continues reading (List.mem_append_left _ (by simp [found]))
    obtain ⟨between, read, amid⟩ := amid.exists_readLine keeps first
    obtain ⟨next, readAll_eq, amid⟩ := ih amid fun reading member =>
      continues reading (List.mem_append_right _ member)
    rw [List.append_assoc] at amid
    exact ⟨next, (readAll_cons observer lines read).trans readAll_eq, amid⟩

/-- Between nodes an indented line opens a block. -/
theorem exists_opened_of_idle (keeps : observer.KeepsIndent) (phase : run.session.phase = .idle)
    (capacity : run.session.draft.choices.capacity = limits.maxChoices)
    (unopened : run.session.draft.choices.items = []) (empty : run.session.draft.text = [])
    (line : String) :
    ∃ within : Run σ, within.Amid limits run.config.indentThreshold run.session.assembly
        (run.session.dropped.count .choice) run.session.draft.target [] ∧
      feed observer run line .indented = feed observer within line .indented := by
  have handed : step observer run line .indented =
      (tell observer run .blockOpened, .handOn .choice) := by
    rw [step_of_idle phase, idleStep]
  have told : ∀ started, News.blockOpened ≠ .event (.started started) := by simp
  refine ⟨(tell observer run .blockOpened).withPhase .choice,
    ⟨congrArg _ (indent_tell keeps _ told), ?_⟩, feed_of_handOn observer handed⟩
  have none_ended : endedEntries run.config.indentThreshold [] = [] := rfl
  have took : Session.Took limits (run.session.dropped.count .choice)
      (endedEntries run.config.indentThreshold []) { run.session with phase := .choice } :=
    ⟨capacity, by simpa [none_ended] using unopened, by simp [none_ended]⟩
  exact ⟨took, rfl, rfl, empty, by simp [empty], rfl⟩

/-- Behind a label an indented line closes the node and opens a block. -/
theorem exists_opened_of_dialogue (keeps : observer.KeepsIndent)
    (phase : run.session.phase = .dialogue) (within : run.session.Within limits)
    (unopened : run.session.draft.choices.items = []) (line : String) :
    ∃ inside : Run σ, inside.Amid limits run.config.indentThreshold run.session.finalAssembly
        (run.session.dropped.count .choice) run.session.draft.target [] ∧
      feed observer run line .indented = feed observer inside line .indented := by
  have capacity := within.draft.choices_capacity
  obtain ⟨node, written⟩ := within.draft.exists_node
  obtain ⟨ended, ended_eq, session_eq⟩ := endNode_of_node observer written
  have handed : step observer run line .indented = (ended, .handOn .idle) := by
    rw [step_of_dialogue phase, dialogueStep, if_neg (by decide), ended_eq]
  have idle : (ended.withPhase .idle).session.phase = .idle := rfl
  have assembly_eq : (ended.withPhase .idle).session.assembly = run.session.finalAssembly := by
    rw [Session.finalAssembly_of_dialogue phase written, session_withPhase, session_eq]
    rfl
  have dropped_eq : (ended.withPhase .idle).session.dropped.count .choice =
      run.session.dropped.count .choice := by
    simp only [session_withPhase, session_eq, Session.count_choice_endNode]
  have target_eq : (ended.withPhase .idle).session.draft.target = run.session.draft.target := by
    simp only [session_withPhase, session_eq, Session.target_endNode]
  obtain ⟨inside, amid, fed⟩ := exists_opened_of_idle keeps idle
    (by simpa [session_eq, Session.endNode] using capacity)
    (by simpa [session_eq, Session.endNode] using unopened)
    (by simp [session_eq, Session.endNode]) line
  refine ⟨inside, ?_, (feed_of_handOn observer handed).trans fed⟩
  rwa [assembly_eq, dropped_eq, target_eq, config_withPhase, indent_endNode keeps ended_eq] at amid

/-- The first line of a block opens it and is the first that counts for it. -/
theorem exists_readLine_first (keeps : observer.KeepsIndent)
    (within : run.session.Within limits) (poised : run.session.Poised)
    (waiting : run.session.phase = .dialogue ∨
      run.session.phase = .idle ∧ run.session.draft.text = []) {raw : String}
    (found : reading? run.config.indentThreshold 0 raw = some reading)
    (indented : reading.kind = .indented) :
    ∃ next, readLine observer run raw = (next, none) ∧
      next.Amid limits run.config.indentThreshold run.session.finalAssembly
        (run.session.dropped.count .choice) run.session.draft.target [reading] := by
  obtain ⟨reads, fed⟩ := readLine_of_reading found
  have final_eq : run.atNextLine.session.finalAssembly = run.session.finalAssembly :=
    run.session.finalAssembly_atLine _
  have opened : ∃ inside : Run σ,
      inside.Amid limits run.config.indentThreshold run.session.finalAssembly
        (run.session.dropped.count .choice) run.session.draft.target [] ∧
      feed observer run.atNextLine reading.line .indented =
        feed observer inside reading.line .indented := by
    rw [← final_eq]
    rcases waiting with phase | ⟨phase, empty⟩
    · have unopened := poised.unopened (by simp [phase])
      have phase : run.atNextLine.session.phase = .dialogue := phase
      have within : run.atNextLine.session.Within limits := { within with }
      exact exists_opened_of_dialogue keeps phase within unopened reading.line
    · have unopened := poised.unopened (by simp [phase])
      have idle : run.atNextLine.session.phase = .idle := phase
      rw [Session.finalAssembly_of_idle idle]
      exact exists_opened_of_idle keeps idle within.draft.choices_capacity unopened empty
        reading.line
  obtain ⟨inside, amid, opens⟩ := opened
  rw [fed, indented, opens, ← indented]
  exact amid.exists_feed keeps reads (.inl indented)

/-- The end of the script ends a block that is open. -/
theorem Amid.exists_settle (amid : run.Amid limits threshold opened refused carried block) :
    ∃ next, settle observer run = (next, none) ∧
      next.session.Offers limits opened refused
        (entries threshold carried block none) := by
  rw [settle, amid.session.phase]
  refine ⟨_, rfl, ?_⟩
  rw [session_withPhase, session_endBlock, session_endChoice]
  exact { amid.session.offers_of_end with }

/-- What a compile comes to is within its limits and in order. -/
theorem of_reachable {session : Session} (reachable : session.Reachable limits) :
    session.Within limits ∧ session.Poised := by
  obtain ⟨σ, observer, state, done, run, readAll_eq, rfl⟩ := reachable
  constructor
  · have begun : (start observer limits state).session.Within limits := .start limits
    obtain ⟨_, found, within⟩ := readAll_within observer done begun
    obtain ⟨rfl, -⟩ := Prod.mk.inj (readAll_eq.symm.trans found)
    exact within
  · refine readAll_induction (fun _ run => run.session.Poised) ?_ (.start limits) readAll_eq
    intro _ raw run next poised read
    exact poised_of_readLine poised read

/-- A choice block means what its lines say. Behind a label, or between nodes with no text
waiting, let a session that a compile can come to read the lines of a block. Another line with
something to see, or the end of the script, ends it. In either case the text lines of the block,
cut at its tag lines, are its entries, each with the target of the tag line behind it; only the
target of the last one is that of the line that ends the block, if that is a tag line too, and
the latest one otherwise. The first of them are the choices of the node closed last, as many as
the limits allow; they go nowhere if that node was refused or there is none. -/
theorem choices_of_block (keeps : observer.KeepsIndent) (reachable : run.session.Reachable limits)
    (waiting : run.session.phase = .dialogue ∨
      run.session.phase = .idle ∧ run.session.draft.text = [])
    {first : String} {rest : List String}
    (choiceBlock : IsChoiceBlock run.config.indentThreshold first rest) :
    let threshold : Int := run.config.indentThreshold
    let said := entries threshold run.session.draft.target (contents threshold (first :: rest))
    let opened := run.session.finalAssembly
    let refused := run.session.dropped.count .choice
    ∃ between, readAll observer run (first :: rest) = (between, none) ∧
      (∀ ending reading, reading? threshold 0 ending = some reading →
        ¬ reading.Continues threshold →
        ∃ next, readLine observer between ending = (next, none) ∧
          next.session.Offers limits opened refused (said (some reading))) ∧
      ∃ next, settle observer between = (next, none) ∧
        next.session.Offers limits opened refused (said none) := by
  intro threshold said opened refused
  obtain ⟨within, poised⟩ := of_reachable reachable
  obtain ⟨reading, first_eq, indented⟩ := choiceBlock.opens
  have contents_eq : contents threshold (first :: rest) = [reading] ++ contents threshold rest := by
    rw [contents_cons, first_eq, Option.toList_some]
  obtain ⟨opening, read, amid⟩ :=
    exists_readLine_first keeps within poised waiting first_eq indented
  obtain ⟨between, readAll_eq, amid⟩ := amid.exists_readAll keeps choiceBlock.continues
  rw [← contents_eq] at amid
  refine ⟨between, (readAll_cons observer rest read).trans readAll_eq, ?_, amid.exists_settle⟩
  intro ending reading ending_eq ends
  exact amid.exists_readLine_end ending_eq ends

/-- A tag line that is not indented ends the block, and still gives the last entry its target. At
the end of the script that entry has the target of the one before it. -/
theorem choices_of_block_yes_no :
    let run := (readAll .silent (start .silent { maxChoices := 1 } ()) ["Alice:", "Pick"]).1
    run.session.Reachable { maxChoices := 1 } ∧ run.session.phase = .dialogue ∧
      IsChoiceBlock run.config.indentThreshold "\tYes" ["\t[yes]", "", "No"] ∧
      ∃ between, readAll .silent run ["\tYes", "\t[yes]", "", "No"] = (between, none) ∧
        (∃ next, readLine .silent between "[no]" = (next, none) ∧
          next.session.Offers { maxChoices := 1 } run.session.finalAssembly 0
            [⟨"Yes", some "yes"⟩, ⟨"No", some "no"⟩]) ∧
        ∃ next, settle .silent between = (next, none) ∧
          next.session.Offers { maxChoices := 1 } run.session.finalAssembly 0
            [⟨"Yes", some "yes"⟩, ⟨"No", some "yes"⟩] := by
  intro run
  have reachable : run.session.Reachable { maxChoices := 1 } :=
    ⟨Unit, .silent, (), ["Alice:", "Pick"], run, Prod.ext rfl (by decide +kernel), rfl⟩
  have waiting : run.session.phase = .dialogue := by decide +kernel
  have choiceBlock : IsChoiceBlock run.config.indentThreshold "\tYes" ["\t[yes]", "", "No"] :=
    ⟨⟨⟨0, .indented, "Yes"⟩, by decide +kernel, rfl⟩, by decide +kernel⟩
  have ending : reading? run.config.indentThreshold 0 "[no]" = some ⟨0, .tag, "[no]"⟩ := by
    decide +kernel
  have unrefused : run.session.dropped.count .choice = 0 := by decide +kernel
  have said_ended : entries run.config.indentThreshold run.session.draft.target
      (contents run.config.indentThreshold ["\tYes", "\t[yes]", "", "No"])
      (some ⟨0, .tag, "[no]"⟩) = [⟨"Yes", some "yes"⟩, ⟨"No", some "no"⟩] := by
    decide +kernel
  have said_settled : entries run.config.indentThreshold run.session.draft.target
      (contents run.config.indentThreshold ["\tYes", "\t[yes]", "", "No"]) none =
        [⟨"Yes", some "yes"⟩, ⟨"No", some "yes"⟩] := by
    decide +kernel
  obtain ⟨between, readAll_eq, ended, settled⟩ :=
    choices_of_block Observer.silent_isPassive.keepsIndent reachable (.inl waiting) choiceBlock
  have ended := ended "[no]" _ ending (by decide +kernel)
  rw [unrefused, said_ended] at ended
  rw [unrefused, said_settled] at settled
  exact ⟨reachable, waiting, choiceBlock, between, readAll_eq, ended, settled⟩

end Run

end Dialogue
