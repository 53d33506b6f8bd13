import Dialogue.Proofs.Bus.Order
import Dialogue.Proofs.Run.Chronicle

/-!
# The ledger of a bus

A ledger lists the changes that are made to the subscriptions of a bus while something is
done with it, in order: those that are asked for, those that handlers ask for when they are
called, at any depth, and the ends of subscriptions for one call. It is read off requests
and scripts alone. The main statement is that nothing else changes a bus: what was there
before, after the changes of the ledger, is what is there then.
-/

namespace Dialogue

/-- The changes that come of publishing an event. -/
abbrev Ledger := Event → World → List Bus.Change

/-! ## What is written down -/

section Changes

variable (publish : Publisher) (ledger : Ledger)

/-- The changes that come of the events of a compile, published one after the other. -/
def Ledger.changesAll : World → List CompileEvent → List Bus.Change
  | _, [] => []
  | world, event :: rest =>
    ledger (.ofCompile event) world ++
      match publish (.ofCompile event) world with
      | none => []
      | some (world, _) => changesAll world rest

/-- The changes that come of a request. -/
def Request.changes (world : World) : Request → List Bus.Change
  | .subscribe event handler priority oneShot => [.subscribe event handler priority oneShot]
  | .unsubscribe event handler => [.unsubscribe event handler]
  | .hasSubscribers _ => []
  | .publish event fields => ledger (.custom event fields) world
  | .clear event => [.clear event]
  | .compile config lines =>
    ledger.changesAll publish world
      (events (Run.compile publish.observer.recording config (some world, []) lines).1.journal)

/-- The changes that come of requests, one after the other. -/
def Request.changesAll : World → List Request → List Bus.Change
  | _, [] => []
  | world, request :: rest =>
    request.changes publish ledger world ++
      match request.perform publish world with
      | none => []
      | some (world, _) => changesAll world rest

/-- The changes that come of an action: only requests make any. -/
def Action.changes (world : World) : Action → List Bus.Change
  | .request asked => asked.changes publish ledger world
  | .consume | .get _ _ | .item _ | .consumed | .assign _ _ => []

/-- The changes that come of a script. -/
def Script.changes : Script → Event → World → List Bus.Change
  | .done, _, _ | .fail, _, _ => []
  | .act action resume, event, world =>
    action.changes publish ledger world ++
      match action.perform publish event world with
      | none => []
      | some (world, event, reply) => changes (resume reply) event world

variable (handlers : Handlers)

/-- The changes that come of the call for a subscription; if it is for one call, its end is the
first of them. -/
def Subscription.changes (subscription : Subscription) (event : Event) (world : World) :
    List Bus.Change :=
  let begun := subscription.begin event.name world
  let called := begun.note (.called subscription event)
  (if subscription.oneShot then [.unsubscribe event.name subscription.handler] else []) ++
    (handlers subscription.handler called.trace event).changes publish ledger event called

/-- The changes that come of serving subscriptions in order. -/
def changesOfDispatch : List Subscription → Event → World → List Bus.Change
  | [], _, _ => []
  | subscription :: rest, event, world =>
    subscription.changes publish ledger handlers event world ++
      match subscription.call handlers publish event (subscription.begin event.name world) with
      | none => []
      | some (world, event) => if event.consumed then [] else changesOfDispatch rest event world

end Changes

/-- The changes that come of publishing with at most `depth` calls nested in each other. -/
def changesOfPublish (handlers : Handlers) : (depth : Nat) → Ledger
  | 0, _, _ => []
  | depth + 1, event, world =>
    changesOfDispatch (publish handlers depth) (changesOfPublish handlers depth) handlers
      (world.bus.subscribers event.name) event world

/-! ## Nothing else changes a bus -/

/-- Whether a ledger has all changes that come of publishing. -/
def Ledger.Covers (ledger : Ledger) (publish : Publisher) : Prop :=
  ∀ {event world next published}, publish event world = some (next, published) →
    next.bus = world.bus.after (ledger event world)

namespace Ledger.Covers

variable {publish : Publisher} {ledger : Ledger} (covers : ledger.Covers publish)
  {world next : World} {event after : Event}
include covers

theorem events {log : List CompileEvent} (published : publish.publishAll world log = some next) :
    next.bus = world.bus.after (ledger.changesAll publish world log) := by
  induction log generalizing world with
  | nil =>
    cases published
    rfl
  | cons first rest ih =>
    simp only [Publisher.publishAll] at published
    split at published
    next => cases published
    next between _ first_eq =>
      simp only [changesAll, first_eq, Bus.after_append, ← covers first_eq]
      exact ih published

theorem request {asked : Request} {reply : Reply}
    (performed : asked.perform publish world = some (next, reply)) :
    next.bus = world.bus.after (asked.changes publish ledger world) := by
  cases asked with
  | subscribe | unsubscribe | hasSubscribers | clear =>
    cases performed
    rfl
  | publish name fields =>
    obtain ⟨published, published_eq, same⟩ := Option.map_eq_some_iff.mp performed
    cases same
    exact covers published_eq
  | compile config lines =>
    obtain ⟨last, state_eq, same⟩ := Option.map_eq_some_iff.mp performed
    cases same
    have published := publish.publishAll_of_compile config world lines
    exact covers.events (published.symm.trans state_eq)

theorem requests {asked : List Request} (performed : publish.performAll world asked = some next) :
    next.bus = world.bus.after (Request.changesAll publish ledger world asked) := by
  induction asked generalizing world with
  | nil =>
    cases performed
    rfl
  | cons first rest ih =>
    simp only [Publisher.performAll] at performed
    split at performed
    next => cases performed
    next between _ first_eq =>
      simp only [Request.changesAll, first_eq, Bus.after_append, ← covers.request first_eq]
      exact ih performed

theorem action {action : Action} {reply : Reply}
    (performed : action.perform publish event world = some (next, after, reply)) :
    next.bus = world.bus.after (action.changes publish ledger world) := by
  cases action with
  | request asked =>
    obtain ⟨answered, answered_eq, same⟩ := Option.map_eq_some_iff.mp performed
    cases same
    exact covers.request answered_eq
  | consume | get | consumed =>
    cases performed
    rfl
  | item | assign =>
    simp only [Action.perform] at performed
    split at performed <;> cases performed <;> rfl

theorem script {script : Script} {ended : Bool}
    (run_eq : script.run publish event world = some (next, after, ended)) :
    next.bus = world.bus.after (script.changes publish ledger event world) := by
  induction script generalizing event world with
  | done | fail =>
    cases run_eq
    rfl
  | act action resume ih =>
    simp only [Script.run] at run_eq
    split at run_eq
    next => cases run_eq
    next between _ reply performed =>
      simp only [Script.changes, performed, Bus.after_append, ← covers.action performed]
      exact ih _ run_eq

variable {handlers : Handlers}

theorem call {subscription : Subscription}
    (called : subscription.call handlers publish event (subscription.begin event.name world) =
      some (next, after)) :
    next.bus = world.bus.after (subscription.changes publish ledger handlers event world) := by
  have begun : (subscription.begin event.name world).bus = world.bus.after
      (if subscription.oneShot then [.unsubscribe event.name subscription.handler] else []) := by
    rw [Subscription.begin]
    split <;> rfl
  simp only [Subscription.changes, Bus.after_append, ← begun]
  simp only [Subscription.call] at called
  split at called
  next => cases called
  next run_eq =>
    cases called
    exact covers.script run_eq
  next run_eq =>
    cases called
    exact covers.script run_eq

theorem dispatch {subscriptions : List Subscription}
    (dispatched : dispatch handlers publish subscriptions event world = some (next, after)) :
    next.bus =
      world.bus.after (changesOfDispatch publish ledger handlers subscriptions event world) := by
  induction subscriptions generalizing event world with
  | nil =>
    cases dispatched
    rfl
  | cons subscription rest ih =>
    obtain ⟨between, passed, call_eq, rest_eq⟩ := exists_call_of_dispatch dispatched
    simp only [changesOfDispatch, call_eq, Bus.after_append, ← covers.call call_eq]
    rcases rest_eq with ⟨consumed, rfl, -⟩ | ⟨unconsumed, rest_eq⟩
    · rw [if_pos consumed]
      rfl
    · rw [if_neg (by simp [unconsumed])]
      exact ih rest_eq

end Ledger.Covers

/-- The ledger of a publish has all changes that its handlers make, at any depth. -/
theorem covers_changesOfPublish (handlers : Handlers) (depth : Nat) :
    Ledger.Covers (changesOfPublish handlers depth) (publish handlers depth) := by
  induction depth with
  | zero =>
    intro event world next published published_eq
    cases published_eq
  | succ depth ih =>
    intro event world next published published_eq
    exact ih.dispatch published_eq

end Dialogue
