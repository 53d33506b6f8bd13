import Dialogue.Bus.Dispatch
import Dialogue.Proofs.Run.Twin

/-!
# What handlers can do

A handler runs a script of actions, and its actions change a world in a few ways only: the
trace grows, and subscriptions come and go. `Manners` names a relation between a world and
a later one that all these ways keep; such a relation then holds across requests and
scripts, compiles and nested publishing included. The call of a handler as a whole is left
to each law, because that is where the laws differ; a `Conduct` leaves only its beginning.
To its event a handler can do less still (`Event.Keeps`): the event keeps its name, and
carries settings only if it opens a compile.
-/

namespace Dialogue

/-- Whether an entry of a trace is the call of a handler. -/
def TraceEntry.isCall : TraceEntry → Bool
  | .called _ _ => true
  | _ => false

/-- Whether an entry of a trace tells what a handler has looked at. -/
def TraceEntry.isLook : TraceEntry → Bool
  | .got _ | .item _ | .sawConsumed _ => true
  | .called _ _ | .returned _ | .failed _ => false

theorem TraceEntry.isCall_of_isLook {entry : TraceEntry} (look : entry.isLook = true) :
    entry.isCall = false := by
  cases entry with
  | called => cases look
  | returned | failed | got | item | sawConsumed => rfl

/-- A relation between a world and a later one that is kept by everything but calls of handlers and
the ends of these calls. -/
structure Manners (Leads : World → World → Prop) : Prop where
  refl : ∀ world, Leads world world
  trans : ∀ {world between next}, Leads world between → Leads between next → Leads world next
  look : ∀ world entry, entry.isLook = true → Leads world (world.note entry)
  subscribe : ∀ world event handler priority oneShot,
    Leads world (world.withBus (world.bus.subscribe event handler priority oneShot))
  unsubscribe : ∀ world event handler,
    Leads world (world.withBus (world.bus.unsubscribe event handler))
  clear : ∀ world event, Leads world (world.withBus (world.bus.clear event))

/-- A relation between a world and a later one that is kept by everything but a call. -/
structure Conduct (Leads : World → World → Prop) : Prop where
  refl : ∀ world, Leads world world
  trans : ∀ {world between next}, Leads world between → Leads between next → Leads world next
  note : ∀ world entry, entry.isCall = false → Leads world (world.note entry)
  subscribe : ∀ world event handler priority oneShot,
    Leads world (world.withBus (world.bus.subscribe event handler priority oneShot))
  unsubscribe : ∀ world event handler,
    Leads world (world.withBus (world.bus.unsubscribe event handler))
  clear : ∀ world event, Leads world (world.withBus (world.bus.clear event))

theorem Conduct.manners {Leads : World → World → Prop} (conduct : Conduct Leads) :
    Manners Leads :=
  { conduct with
    look := fun world entry look => conduct.note world entry (TraceEntry.isCall_of_isLook look) }

namespace Publisher

/-- Whether all that comes of publishing keeps a relation. -/
def Follows (publish : Publisher) (Leads : World → World → Prop) : Prop :=
  ∀ {event world next published}, publish event world = some (next, published) → Leads world next

variable (publish : Publisher)

/-- Do what is asked of a bus, one request after the other. -/
def performAll : World → List Request → Option World
  | world, [] => some world
  | world, request :: rest =>
    match request.perform publish world with
    | none => none
    | some (world, _) => performAll world rest

theorem performAll_append (world : World) (requests more : List Request) :
    publish.performAll world (requests ++ more) =
      (publish.performAll world requests).bind (publish.performAll · more) := by
  induction requests generalizing world with
  | nil => rfl
  | cons request requests ih =>
    simp only [List.cons_append, performAll]
    cases request.perform publish world with
    | none => rfl
    | some answered => exact ih answered.1

/-- A notice of a compile is published if it brings an event. -/
theorem notify_observer (notice : Notice) (config : Config) (state : Option World) :
    (publish.observer.notify notice config state).2 =
      match notice.event? with
      | none => state
      | some event =>
        state.bind fun world => (publish (.ofCompile event) world).map Prod.fst := by
  cases state with
  | none => cases notice.event? <;> rfl
  | some world =>
    simp only [observer]
    cases notice.event? with
    | none => rfl
    | some event =>
      simp only [Option.bind_some]
      cases publish (.ofCompile event) world with
      | none => rfl
      | some published => rfl

end Publisher

/-! ## One call after the other -/

/-- The world in which a subscription is served: for one call it ends before that call. -/
def Subscription.begin (subscription : Subscription) (event : EventName) (world : World) : World :=
  if subscription.oneShot then
    world.withBus (world.bus.unsubscribe event subscription.handler)
  else world

/-- After a call the event is either consumed or goes on to the other subscriptions. -/
theorem exists_call_of_dispatch {handlers : Handlers} {publish : Publisher}
    {subscription : Subscription} {rest : List Subscription} {event after : Event}
    {world next : World}
    (dispatched : dispatch handlers publish (subscription :: rest) event world = some (next, after)) :
    ∃ between passed,
      subscription.call handlers publish event (subscription.begin event.name world) =
        some (between, passed) ∧
      (passed.consumed = true ∧ next = between ∧ after = passed ∨
        passed.consumed = false ∧
          dispatch handlers publish rest passed between = some (next, after)) := by
  simp only [dispatch] at dispatched
  split at dispatched
  next => cases dispatched
  next between passed called =>
    refine ⟨between, passed, called, ?_⟩
    split at dispatched
    next consumed =>
      cases dispatched
      exact .inl ⟨consumed, rfl, rfl⟩
    next unconsumed => exact .inr ⟨Bool.eq_false_iff.mpr unconsumed, dispatched⟩

/-! ## Kept laws of events -/

/-- Whether all fields that a script assigns are of one kind, whatever its actions answer. -/
def Script.AssignsOnly (Among : String → Prop) : Script → Prop
  | .done | .fail => True
  | .act action resume =>
    (∀ field value, action = .assign field value → Among field) ∧
      ∀ reply, (resume reply).AssignsOnly Among

/-- Whether handlers assign no fields of another kind, whenever they are called. -/
def Handlers.AssignOnly (handlers : Handlers) (Among : String → Prop) : Prop :=
  ∀ name past event, (handlers name past event).AssignsOnly Among

theorem Script.assignsOnly_of_forall {Among : String → Prop} (all : ∀ field, Among field)
    (script : Script) : script.AssignsOnly Among := by
  induction script with
  | done | fail => trivial
  | act action resume ih => exact ⟨fun field _ _ => all field, ih⟩

/-- A list of actions assigns what its actions assign. -/
theorem Script.assignsOnly_ofList {Among : String → Prop} {actions : List Action} {last : Script}
    (only : ∀ action ∈ actions, ∀ field value, action = .assign field value → Among field)
    (last_only : last.AssignsOnly Among) : (Script.ofList actions last).AssignsOnly Among := by
  induction actions with
  | nil => exact last_only
  | cons action actions ih =>
    refine ⟨only action (by simp), ?_⟩
    intro reply
    dsimp only
    split
    · trivial
    · exact ih fun other member => only other (List.mem_cons_of_mem action member)

/-- A law of events that is kept by all that a handler can do to its event, if it assigns fields
of one kind only. -/
structure Event.KeepsAmong (Among : String → Prop) (Law : Event → Prop) : Prop where
  consume : ∀ event, Law event → Law event.consume
  assign : ∀ event field value assigned, Among field → Law event →
    event.assign? field value = some assigned → Law assigned

/-- A law of events that is kept by all that a handler can do to its event. -/
structure Event.Keeps (Law : Event → Prop) : Prop where
  consume : ∀ event, Law event → Law event.consume
  assign : ∀ event field value assigned, Law event →
    event.assign? field value = some assigned → Law assigned

/-- An assigned event carries its settings with one field assigned, and is otherwise the same. -/
theorem Event.exists_of_assign? {event assigned : Event} {field : String} {value : Json}
    (assigned_eq : event.assign? field value = some assigned) :
    ∃ held changed, event.config = some held ∧ held.assign field value = .ok changed ∧
      assigned = { event with config := some changed } := by
  rw [assign?] at assigned_eq
  split at assigned_eq
  next => cases assigned_eq
  next held held_eq =>
    split at assigned_eq
    next changed changed_eq =>
      exact ⟨held, changed, held_eq, changed_eq, (Option.some.inj assigned_eq).symm⟩
    next => cases assigned_eq

/-- Whatever is done to an event, its name stays. -/
theorem Event.keeps_name (name : EventName) : Event.Keeps (·.name = name) where
  consume := fun _ named => named
  assign := by
    intro event field value assigned named assigned_eq
    obtain ⟨_, _, -, -, rfl⟩ := exists_of_assign? assigned_eq
    exact named

/-- An event without settings never carries any. -/
theorem Event.keeps_unset : Event.Keeps (·.config = none) where
  consume := fun _ unset => unset
  assign := by
    intro event field value assigned unset assigned_eq
    obtain ⟨held, _, held_eq, -, -⟩ := exists_of_assign? assigned_eq
    cases unset.symm.trans held_eq

/-- An event with settings always carries some. -/
theorem Event.keeps_set : Event.Keeps (·.config.isSome) where
  consume := fun _ carried => carried
  assign := by
    intro event field value assigned _ assigned_eq
    obtain ⟨_, _, -, -, rfl⟩ := exists_of_assign? assigned_eq
    rfl

variable {publish : Publisher} {handlers : Handlers}

namespace Event.KeepsAmong

variable {Among : String → Prop} {Law : Event → Prop} (keeps : Event.KeepsAmong Among Law)
  {event after : Event} {world next : World}
include keeps

theorem action {action : Action} {reply : Reply}
    (among : ∀ field value, action = .assign field value → Among field) (law : Law event)
    (performed : action.perform publish event world = some (next, after, reply)) : Law after := by
  cases action with
  | request asked =>
    obtain ⟨_, _, same⟩ := Option.map_eq_some_iff.mp performed
    cases same
    exact law
  | consume =>
    cases performed
    exact keeps.consume event law
  | get | consumed =>
    cases performed
    exact law
  | item key =>
    simp only [Action.perform] at performed
    split at performed <;> cases performed <;> exact law
  | assign field value =>
    simp only [Action.perform] at performed
    split at performed
    next assigned assigned_eq =>
      cases performed
      exact keeps.assign event field value after (among field value rfl) law assigned_eq
    next =>
      cases performed
      exact law

theorem script {script : Script} {ended : Bool} (only : script.AssignsOnly Among) (law : Law event)
    (run_eq : script.run publish event world = some (next, after, ended)) : Law after := by
  induction script generalizing event world with
  | done | fail =>
    cases run_eq
    exact law
  | act action resume ih =>
    simp only [Script.run] at run_eq
    split at run_eq
    next => cases run_eq
    next performed => exact ih _ (only.2 _) (keeps.action only.1 law performed) run_eq

variable (only : handlers.AssignOnly Among)
include only

theorem call {subscription : Subscription} (law : Law event)
    (called : subscription.call handlers publish event world = some (next, after)) :
    Law after := by
  simp only [Subscription.call] at called
  split at called
  next => cases called
  next run_eq =>
    cases called
    exact keeps.script (only ..) law run_eq
  next run_eq =>
    cases called
    exact keeps.script (only ..) law run_eq

theorem dispatch {subscriptions : List Subscription} (law : Law event)
    (dispatched : dispatch handlers publish subscriptions event world = some (next, after)) :
    Law after := by
  induction subscriptions generalizing event world with
  | nil =>
    cases dispatched
    exact law
  | cons subscription rest ih =>
    obtain ⟨between, passed, call_eq, rest_eq⟩ := exists_call_of_dispatch dispatched
    have passed_law := keeps.call only law call_eq
    rcases rest_eq with ⟨-, -, rfl⟩ | ⟨-, rest_eq⟩
    · exact passed_law
    · exact ih passed_law rest_eq

/-- An event comes back from all its handlers with every law that it had. -/
theorem published {depth : Nat} (law : Law event)
    (publish_eq : Dialogue.publish handlers depth event world = some (next, after)) :
    Law after := by
  cases depth with
  | zero => cases publish_eq
  | succ depth => exact keeps.dispatch only law publish_eq

end Event.KeepsAmong

namespace Event.Keeps

variable {Law : Event → Prop} (keeps : Event.Keeps Law) {event after : Event}
  {world next : World}
include keeps

theorem among (Among : String → Prop) : Event.KeepsAmong Among Law where
  consume := keeps.consume
  assign := fun event field value assigned _ => keeps.assign event field value assigned

theorem call {subscription : Subscription} (law : Law event)
    (called : subscription.call handlers publish event world = some (next, after)) :
    Law after :=
  (keeps.among fun _ => True).call
    (fun _ _ _ => Script.assignsOnly_of_forall (fun _ => trivial) _) law called

/-- Whatever the handlers do, an event comes back from them with every law that it had. -/
theorem published {depth : Nat} (law : Law event)
    (publish_eq : Dialogue.publish handlers depth event world = some (next, after)) :
    Law after :=
  (keeps.among fun _ => True).published
    (fun _ _ _ => Script.assignsOnly_of_forall (fun _ => trivial) _) law publish_eq

end Event.Keeps

theorem Subscription.name_of_call {subscription : Subscription} {event after : Event}
    {world next : World} (called : subscription.call handlers publish event world =
      some (next, after)) : after.name = event.name :=
  (Event.keeps_name event.name).call rfl called

/-- Only the event that opens a compile carries settings. -/
theorem Event.config_ofCompile {event : CompileEvent} (later : ∀ config, event ≠ .started config) :
    (Event.ofCompile event).config = none := by
  cases event with
  | started config => exact absurd rfl (later config)
  | nodeClosed | choicesAttached | entryDropped | finished => rfl

/-- Whatever its handlers do, a bus can change the settings of a compile at the beginning only. -/
theorem Publisher.observer_isPassive (handlers : Handlers) (depth : Nat) :
    (Dialogue.publish handlers depth).observer.IsPassive := by
  constructor
  intro notice config state later
  obtain ⟨line, news⟩ := notice
  cases state with
  | none => rfl
  | some world =>
    cases news with
    | event event =>
      have unset := Event.config_ofCompile fun started same => later started (congrArg _ same)
      simp only [observer, Notice.event?]
      cases publish_eq : Dialogue.publish handlers depth (.ofCompile event) world with
      | none => rfl
      | some found =>
        have unset := Event.keeps_unset.published unset publish_eq
        simp only [unset, Option.getD_none]
    | _ => rfl

/-! ## Kept relations -/

namespace Manners

variable {Leads : World → World → Prop} (manners : Manners Leads)
include manners

theorem begin (subscription : Subscription) (event : EventName) (world : World) :
    Leads world (subscription.begin event world) := by
  rw [Subscription.begin]
  split
  next => exact manners.unsubscribe ..
  next => exact manners.refl _

variable {world next : World} {event after : Event}

section Follows

variable (follows : publish.Follows Leads)
include follows

theorem request {asked : Request} {reply : Reply}
    (performed : asked.perform publish world = some (next, reply)) : Leads world next := by
  cases asked with
  | subscribe =>
    cases performed
    exact manners.subscribe ..
  | unsubscribe =>
    cases performed
    exact manners.unsubscribe ..
  | hasSubscribers =>
    cases performed
    exact manners.refl _
  | clear =>
    cases performed
    exact manners.clear ..
  | publish name fields =>
    obtain ⟨published, published_eq, same⟩ := Option.map_eq_some_iff.mp performed
    cases same
    exact follows published_eq
  | compile config lines =>
    obtain ⟨last, state_eq, same⟩ := Option.map_eq_some_iff.mp performed
    cases same
    refine Run.state_of_compile (fun state => ∀ last, state = some last → Leads world last)
      ?_ config ?_ lines _ state_eq
    · intro notice config state kept last told
      rw [publish.notify_observer] at told
      split at told
      next => exact kept last told
      next =>
        obtain ⟨between, rfl, told⟩ := Option.bind_eq_some_iff.mp told
        obtain ⟨published, published_eq, rfl⟩ := Option.map_eq_some_iff.mp told
        exact manners.trans (kept between rfl) (follows published_eq)
    · intro last begun
      cases begun
      exact manners.refl _

theorem action {action : Action} {reply : Reply}
    (performed : action.perform publish event world = some (next, after, reply)) :
    Leads world next := by
  cases action with
  | request asked =>
    obtain ⟨answered, answered_eq, same⟩ := Option.map_eq_some_iff.mp performed
    cases same
    exact manners.request follows answered_eq
  | consume =>
    cases performed
    exact manners.refl _
  | get | consumed =>
    cases performed
    exact manners.look _ _ rfl
  | item key =>
    simp only [Action.perform] at performed
    split at performed
    next =>
      cases performed
      exact manners.look _ _ rfl
    next =>
      cases performed
      exact manners.refl _
  | assign field value =>
    simp only [Action.perform] at performed
    split at performed <;> cases performed <;> exact manners.refl _

theorem script {script : Script} {ended : Bool}
    (run_eq : script.run publish event world = some (next, after, ended)) : Leads world next := by
  induction script generalizing event world with
  | done | fail =>
    cases run_eq
    exact manners.refl _
  | act action resume ih =>
    simp only [Script.run] at run_eq
    split at run_eq
    next => cases run_eq
    next performed => exact manners.trans (manners.action follows performed) (ih _ run_eq)

end Follows

/-- Subscriptions are served within a relation if each call of one of them is. -/
theorem dispatch {subscriptions : List Subscription}
    (called : ∀ subscription ∈ subscriptions, ∀ {world next event after},
      subscription.call handlers publish event world = some (next, after) → Leads world next)
    (dispatched : dispatch handlers publish subscriptions event world = some (next, after)) :
    Leads world next := by
  induction subscriptions generalizing event world with
  | nil =>
    cases dispatched
    exact manners.refl _
  | cons subscription rest ih =>
    obtain ⟨between, passed, call_eq, rest_eq⟩ := exists_call_of_dispatch dispatched
    have reached : Leads world between :=
      manners.trans (manners.begin subscription event.name world) (called subscription (by simp) call_eq)
    rcases rest_eq with ⟨-, rfl, -⟩ | ⟨-, rest_eq⟩
    · exact reached
    · exact manners.trans reached (ih (fun other member => called other (by simp [member])) rest_eq)

/-- Publishing at any depth keeps a relation that all calls keep too. -/
theorem follows_publish
    (called : ∀ {publish : Publisher}, publish.Follows Leads →
      ∀ {subscription : Subscription} {world next event after},
        subscription.call handlers publish event world = some (next, after) → Leads world next)
    (depth : Nat) : (Dialogue.publish handlers depth).Follows Leads := by
  induction depth with
  | zero =>
    intro event world next published published_eq
    cases published_eq
  | succ depth ih =>
    intro event world next published published_eq
    exact manners.dispatch (fun _ _ {_ _ _ _} => called ih) published_eq

theorem requests (follows : publish.Follows Leads) {asked : List Request}
    (performed : publish.performAll world asked = some next) : Leads world next := by
  induction asked generalizing world with
  | nil =>
    cases performed
    exact manners.refl _
  | cons first rest ih =>
    simp only [Publisher.performAll] at performed
    split at performed
    next => cases performed
    next answered => exact manners.trans (manners.request follows answered) (ih performed)

end Manners

namespace Conduct

variable {Leads : World → World → Prop} (conduct : Conduct Leads)
include conduct

theorem begin (subscription : Subscription) (event : EventName) (world : World) :
    Leads world (subscription.begin event world) :=
  conduct.manners.begin subscription event world

variable {world next : World} {event after : Event}

/-- Behind the entry about a call comes only what the handler's script does. -/
theorem call (follows : publish.Follows Leads) {subscription : Subscription}
    (called : subscription.call handlers publish event world = some (next, after)) :
    Leads (world.note (.called subscription event)) next := by
  simp only [Subscription.call] at called
  split at called
  next => cases called
  next run_eq =>
    cases called
    exact conduct.trans (conduct.manners.script follows run_eq) (conduct.note _ _ rfl)
  next run_eq =>
    cases called
    exact conduct.trans (conduct.manners.script follows run_eq) (conduct.note _ _ rfl)

/-- Subscriptions are served within a relation if each beginning of a call of one of them is. -/
theorem dispatch (follows : publish.Follows Leads) {subscriptions : List Subscription}
    (called : ∀ subscription ∈ subscriptions, ∀ world event,
      Leads world (world.note (.called subscription event)))
    (dispatched : dispatch handlers publish subscriptions event world = some (next, after)) :
    Leads world next := by
  apply conduct.manners.dispatch ?_ dispatched
  intro subscription member world next event after call_eq
  exact conduct.trans (called subscription member world event) (conduct.call follows call_eq)

/-- Publishing at any depth keeps a relation that the beginnings of all calls keep too. -/
theorem follows_publish (called : ∀ world subscription event,
    Leads world (world.note (.called subscription event))) (depth : Nat) :
    (Dialogue.publish handlers depth).Follows Leads := by
  apply conduct.manners.follows_publish
  intro publish follows subscription world next event after call_eq
  exact conduct.trans (called world subscription event) (conduct.call follows call_eq)

theorem requests (follows : publish.Follows Leads) {asked : List Request}
    (performed : publish.performAll world asked = some next) : Leads world next :=
  conduct.manners.requests follows performed

end Conduct

end Dialogue
