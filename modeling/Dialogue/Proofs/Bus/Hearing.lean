import Dialogue.Proofs.Config.Fields
import Dialogue.Proofs.Run.Chronicle
import Dialogue.Proofs.Run.Passive

/-!
# Compiles on a bus

Handlers on a bus come to the settings of a compile through its first event only. What they
assign there counts for the fields that the compile reads on its way; the limits and the
first tag have been taken before. Beyond that a bus has no effect on the result, whatever
its handlers do to it, to their events and with compiles of their own.
-/

namespace Dialogue

/-! ## Assigned settings -/

namespace Config

/-- The fields that a compile reads on its way. -/
def heardFields : List Field :=
  [.indentThreshold, .tagStem, .flushAtEnd]

/-- To assign one of the other fields makes no difference to what is read on the way. -/
theorem hearing_assignField {config held changed : Config} {value : Json} {field : Field}
    (unheard : field ∉ heardFields) (assigned : held.assignField value field = .ok changed) :
    config.hearing changed = config.hearing held := by
  cases field with
  | maxCommands | maxChoices | maxNodes | startTag =>
    obtain ⟨_, rfl⟩ := exists_of_map_ok assigned
    rfl
  | indentThreshold | tagStem | flushAtEnd => exact absurd (by decide) unheard

theorem hearing_assign {config held changed : Config} {name : String} {value : Json}
    (unheard : name ∉ heardFields.map Field.name)
    (assigned : held.assign name value = .ok changed) :
    config.hearing changed = config.hearing held := by
  cases named : Field.named? name with
  | some field =>
    simp only [assign, named] at assigned
    split at assigned
    next found found_eq =>
      obtain rfl := Except.ok.inj assigned
      apply hearing_assignField ?_ (Checked.inside_eq_ok_iff.mp found_eq)
      intro heard
      exact unheard (Field.name_of_named? named ▸ List.mem_map_of_mem heard)
    next => cases assigned
  | none =>
    obtain ⟨-, -, rfl⟩ := (assign_eq_ok_iff_of_unnamed named).mp assigned
    rfl

end Config

/-- Handlers that leave the heard fields alone leave settings that are heard as before. -/
theorem Event.keeps_hearing (config : Config) :
    Event.KeepsAmong (· ∉ Config.heardFields.map Config.Field.name)
      fun event => ∃ left, event.config = some left ∧ config.hearing left = config where
  consume := fun _ heard => heard
  assign := by
    intro event field value assigned unheard heard assigned_eq
    obtain ⟨left, left_eq, same⟩ := heard
    obtain ⟨held, changed, held_eq, changed_eq, rfl⟩ := exists_of_assign? assigned_eq
    obtain rfl := Option.some.inj (left_eq.symm.trans held_eq)
    exact ⟨changed, rfl, (Config.hearing_assign unheard changed_eq).trans same⟩

/-! ## The first event -/

/-- If all handlers of a compile come to an end, then so have those of its first event. -/
theorem Publisher.exists_of_compile (publish : Publisher) {config : Config} {world last : World}
    {lines : List String}
    (ended : (Run.compile publish.observer config (some world) lines).1.state = some last) :
    ∃ between opened, publish (.ofCompile (.started config)) world = some (between, opened) := by
  obtain ⟨closed, log, compiled, told, -⟩ :=
    Run.chronicle_of_compile publish.observer config (some world) lines
  rw [publish.publishAll_of_compile, compiled, told, List.cons_append, publishAll] at ended
  split at ended
  next => cases ended
  next between opened published => exact ⟨between, opened, published⟩

/-- The observer of a bus takes over the settings that come back with the first event. -/
theorem Publisher.config_start (publish : Publisher) {config left : Config}
    {world between : World} {opened : Event}
    (published : publish (.ofCompile (.started config)) world = some (between, opened))
    (left_eq : opened.config = some left) :
    (Run.start publish.observer config (some world)).config = left := by
  simp [Run.start, Run.tell, observer, Notice.event?, published, left_eq]

/-! ## Whole compiles -/

namespace Run

/-- A compile on a bus has the graph and the counts of a compile that nobody watches, if all
handlers come to an end. Its settings are those with which it was called, except that the
fields read on the way are as the handlers of the first event have left them. Handlers that
do not assign these fields have no effect at all. -/
theorem compile_of_bus (handlers : Handlers) (depth : Nat) (config : Config) (world last : World)
    (lines : List String)
    (ended : (compile (publish handlers depth).observer config (some world) lines).1.state =
      some last) :
    ∃ between opened left alone graph,
      publish handlers depth (.ofCompile (.started config)) world = some (between, opened) ∧
      opened.config = some left ∧
      compile Observer.silent (config.hearing left) () lines = (alone, .ok graph) ∧
      (compile (publish handlers depth).observer config (some world) lines).2 = .ok graph ∧
      (compile (publish handlers depth).observer config (some world) lines).1.session.dropped =
        alone.session.dropped ∧
      (handlers.AssignOnly (· ∉ Config.heardFields.map Config.Field.name) →
        compile Observer.silent config () lines = (alone, .ok graph)) := by
  obtain ⟨between, opened, published⟩ := (publish handlers depth).exists_of_compile ended
  have carried : opened.config.isSome := Event.keeps_set.published rfl published
  obtain ⟨left, left_eq⟩ := Option.isSome_iff_exists.mp carried
  obtain ⟨answer, session⟩ := compile_hearing
    (Publisher.observer_isPassive handlers depth) config (some world) lines
  rw [(publish handlers depth).config_start published left_eq] at answer session
  obtain ⟨_, _, -, -, -, compiled⟩ :=
    exists_compile Observer.silent (config.hearing left) () lines
  refine ⟨between, opened, left, _, _, published, left_eq, compiled, ?_, ?_, ?_⟩
  · rw [answer, compiled]
  · rw [session, compiled]
  · intro only
    obtain ⟨held, held_eq, same⟩ :=
      (Event.keeps_hearing config).published only ⟨config, rfl, rfl⟩ published
    obtain rfl := Option.some.inj (left_eq.symm.trans held_eq)
    rw [← same]
    exact compiled

/-- Handlers of which one assigns settings and fails, and the other clears the bus and compiles. -/
def meddlers : Handlers := fun name _ _ =>
  if name = "opener" then
    .ofList
      [.request (.subscribe .nodeClosed "closer" 0 false), .assign "indent_threshold" (.int 2),
        .assign "max_nodes" (.int 0)] .fail
  else if name = "closer" then
    .ofList [.request (.clear none), .request (.compile default ["Bob:", "Yo"]), .consume] .done
  else .ofList [.assign "max_nodes" (.int 0), .consume] .done

/-- A threshold assigned at the beginning counts and a limit does not. Where no heard field is
assigned, the graph is that of the default settings. -/
theorem compile_of_bus_meddlers :
    (∃ alone graph,
      compile Observer.silent { indentThreshold := 2 } () ["Alice:", "Hi", "  Yes", "  [yes]"] =
        (alone, .ok graph) ∧
      (compile (publish meddlers 2).observer {}
        (some ⟨Bus.empty.subscribe .compileStarted "opener" 0 true, []⟩)
        ["Alice:", "Hi", "  Yes", "  [yes]"]).2 = .ok graph) ∧
    ∃ alone graph,
      compile Observer.silent {} () ["Alice:", "Hi"] = (alone, .ok graph) ∧
      (compile (publish (fun _ => meddlers "other") 2).observer {}
        (some ⟨Bus.empty.subscribe .compileStarted "other" 0 true, []⟩)
        ["Alice:", "Hi"]).2 = .ok graph := by
  constructor
  · have ends : (compile (publish meddlers 2).observer {}
        (some ⟨Bus.empty.subscribe .compileStarted "opener" 0 true, []⟩)
        ["Alice:", "Hi", "  Yes", "  [yes]"]).1.state.isSome = true := by
      decide +kernel
    obtain ⟨last, ended⟩ := Option.isSome_iff_exists.mp ends
    obtain ⟨between, opened, left, alone, graph, published, left_eq, compiled, answer, -⟩ :=
      compile_of_bus meddlers 2 {} _ last _ ended
    have heard : ((publish meddlers 2 (.ofCompile (.started {}))
        ⟨Bus.empty.subscribe .compileStarted "opener" 0 true, []⟩).bind fun told =>
          told.2.config.map ({} : Config).hearing) = some { indentThreshold := 2 } := by
      decide +kernel
    rw [published, Option.bind_some, left_eq, Option.map_some] at heard
    rw [Option.some.inj heard] at compiled
    exact ⟨alone, graph, compiled, answer⟩
  · have ends : (compile (publish (fun _ => meddlers "other") 2).observer {}
        (some ⟨Bus.empty.subscribe .compileStarted "other" 0 true, []⟩)
        ["Alice:", "Hi"]).1.state.isSome = true := by
      decide +kernel
    obtain ⟨last, ended⟩ := Option.isSome_iff_exists.mp ends
    obtain ⟨_, _, _, alone, graph, -, -, -, answer, -, unheard⟩ :=
      compile_of_bus (fun _ => meddlers "other") 2 {} _ last _ ended
    refine ⟨alone, graph, unheard ?_, answer⟩
    intro name past event
    exact Script.assignsOnly_ofList (by simp [Config.heardFields, Config.Field.name]) trivial

end Run

end Dialogue
