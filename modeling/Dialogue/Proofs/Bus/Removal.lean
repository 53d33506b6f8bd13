import Dialogue.Proofs.Bus.Serving

/-!
# Which subscriptions end with a publish

If the handlers of an event leave the bus alone, a publish of it always has a result, and the
only subscriptions that end are those which it ends itself, just before a call for a
subscription for one call. It ends them by handler: with the subscription that is called go
all others of the same handler to the event, among them subscriptions that are not for one
call and ones that the event never reaches.
-/

namespace Dialogue

/-! ## Handlers that leave the bus alone -/

/-- Whether an action leaves the bus alone: it asks nothing of it but who has subscribed. -/
def Action.isQuiet : Action → Bool
  | .request (.hasSubscribers _) => true
  | .request _ => false
  | .consume | .get _ _ | .item _ | .consumed | .assign _ _ => true

/-- Whether all actions of a script leave the bus alone, whatever they answer. -/
def Script.IsQuiet : Script → Prop
  | .done | .fail => True
  | .act action resume => action.isQuiet = true ∧ ∀ reply, (resume reply).IsQuiet

/-- Whether a handler leaves the bus alone, whenever it is called. -/
def Handlers.IsQuiet (handlers : Handlers) (name : String) : Prop :=
  ∀ past event, (handlers name past event).IsQuiet

/-- A list of actions leaves the bus alone if its actions do. -/
theorem Script.isQuiet_ofList {actions : List Action} {last : Script}
    (quiet : ∀ action ∈ actions, action.isQuiet = true) (last_quiet : last.IsQuiet) :
    (Script.ofList actions last).IsQuiet := by
  induction actions with
  | nil => exact last_quiet
  | cons action actions ih =>
    refine ⟨quiet action (by simp), ?_⟩
    intro reply
    dsimp only
    split
    · trivial
    · exact ih fun other member => quiet other (List.mem_cons_of_mem action member)

section Quiet

variable {handlers : Handlers} {publish : Publisher} {event after : Event} {world next : World}

theorem Action.exists_perform_of_isQuiet {action : Action} (quiet : action.isQuiet = true)
    (publish : Publisher) (event : Event) (world : World) :
    ∃ next after reply, action.perform publish event world = some (next, after, reply) ∧
      next.bus = world.bus := by
  cases action with
  | request asked =>
    cases asked with
    | hasSubscribers name => exact ⟨_, _, _, rfl, rfl⟩
    | subscribe | unsubscribe | publish | clear | compile => cases quiet
  | consume | get | consumed => exact ⟨_, _, _, rfl, rfl⟩
  | item key =>
    simp only [Action.perform]
    split <;> exact ⟨_, _, _, rfl, rfl⟩
  | assign field value =>
    simp only [Action.perform]
    split <;> exact ⟨_, _, _, rfl, rfl⟩

theorem Script.exists_run_of_isQuiet {script : Script} (quiet : script.IsQuiet)
    (publish : Publisher) (event : Event) (world : World) :
    ∃ next after ended, script.run publish event world = some (next, after, ended) ∧
      next.bus = world.bus := by
  induction script generalizing event world with
  | done | fail => exact ⟨_, _, _, rfl, rfl⟩
  | act action resume ih =>
    obtain ⟨between, passed, reply, performed, kept⟩ :=
      Action.exists_perform_of_isQuiet quiet.1 publish event world
    obtain ⟨next, after, ended, run_eq, same⟩ := ih reply (quiet.2 reply) passed between
    refine ⟨next, after, ended, ?_, same.trans kept⟩
    simp only [Script.run, performed]
    exact run_eq

theorem Subscription.exists_call_of_isQuiet {subscription : Subscription}
    (quiet : handlers.IsQuiet subscription.handler) (publish : Publisher) (event : Event)
    (world : World) :
    ∃ next after, subscription.call handlers publish event world = some (next, after) ∧
      next.bus = world.bus := by
  obtain ⟨next, after, ended, run_eq, kept⟩ := Script.exists_run_of_isQuiet
    (quiet (world.note (.called subscription event)).trace event) publish event
    (world.note (.called subscription event))
  cases ended with
  | true =>
    refine ⟨next.note (.returned subscription.handler), after, ?_, kept⟩
    simp only [Subscription.call, run_eq]
  | false =>
    refine ⟨next.note (.failed after.name), after, ?_, kept⟩
    simp only [Subscription.call, run_eq]

/-- Handlers that leave the bus alone are served to the end. -/
theorem exists_dispatch_of_isQuiet {subscriptions : List Subscription}
    (quiet : ∀ subscription ∈ subscriptions, handlers.IsQuiet subscription.handler)
    (publish : Publisher) (event : Event) (world : World) :
    ∃ next after, dispatch handlers publish subscriptions event world = some (next, after) := by
  induction subscriptions generalizing event world with
  | nil => exact ⟨_, _, rfl⟩
  | cons subscription rest ih =>
    obtain ⟨between, passed, called, -⟩ := Subscription.exists_call_of_isQuiet
      (quiet subscription List.mem_cons_self) publish event
      (subscription.begin event.name world)
    obtain ⟨next, after, dispatched⟩ :=
      ih (fun other member => quiet other (List.mem_cons_of_mem _ member)) passed between
    rw [Subscription.begin] at called
    simp only [dispatch, called]
    split
    · exact ⟨_, _, rfl⟩
    · exact ⟨next, after, dispatched⟩

/-! ## What the calls end -/

/-- Whether one of some calls ends a subscription: it is for one call, and of the same handler to
the same event. -/
def Subscription.endsWith (subscription : Subscription) (event : EventName)
    (called : List Subscription) : Bool :=
  subscription.event = event &&
    called.any fun other => other.oneShot && other.handler = subscription.handler

/-- The bus without the subscriptions that some calls end. -/
def Bus.endings (bus : Bus) (event : EventName) (called : List Subscription) : Bus :=
  { bus with
    subscriptions := bus.subscriptions.filter fun subscription =>
      !subscription.endsWith event called }

theorem Bus.endings_of_forall {bus : Bus} {event : EventName} {called : List Subscription}
    (lasting : ∀ other ∈ called, other.oneShot = false) : bus.endings event called = bus := by
  have kept : (bus.subscriptions.filter fun subscription =>
      !subscription.endsWith event called) = bus.subscriptions := by
    rw [List.filter_eq_self]
    intro subscription _
    have none_ends : (called.any fun other =>
        other.oneShot && other.handler = subscription.handler) = false := by
      rw [List.any_eq_false]
      intro other member
      simp [lasting other member]
    simp [Subscription.endsWith, none_ends]
  rw [Bus.endings, kept]

theorem Subscription.endsWith_iff {subscription : Subscription} {event : EventName}
    {called : List Subscription} :
    subscription.endsWith event called = true ↔ subscription.event = event ∧
      ∃ other ∈ called, other.oneShot = true ∧ other.handler = subscription.handler := by
  simp [Subscription.endsWith]

/-- Just the subscriptions for one call that are called end, if and only if there are no others of
the same handlers. -/
theorem Bus.endings_eq_filter_iff {bus : Bus} {event : EventName} {called : List Subscription}
    (among : ∀ other ∈ called, other ∈ bus.subscribers event) :
    ((bus.endings event called).subscriptions = bus.subscriptions.filter fun subscription =>
        !(subscription.oneShot && called.contains subscription)) ↔
      ∀ first ∈ called, first.oneShot = true →
        ∀ other ∈ bus.subscribers event, other.handler = first.handler →
          other.oneShot = true ∧ other ∈ called := by
  constructor
  · intro same first member oneShot other subscriber handler_eq
    obtain ⟨present, named⟩ := Bus.mem_subscribers.mp subscriber
    have ends : other.endsWith event called = true :=
      Subscription.endsWith_iff.mpr ⟨named, first, member, oneShot, handler_eq.symm⟩
    have gone : other ∉ (bus.endings event called).subscriptions := by
      simp [Bus.endings, ends]
    rw [same] at gone
    simpa [present] using gone
  · intro alone
    apply List.filter_congr
    intro other present
    rw [Bool.not_inj_iff, Bool.eq_iff_iff, Subscription.endsWith_iff, Bool.and_eq_true,
      List.contains_iff_mem]
    constructor
    · rintro ⟨named, first, member, oneShot, handler_eq⟩
      exact alone first member oneShot other (Bus.mem_subscribers.mpr ⟨present, named⟩)
        handler_eq.symm
    · rintro ⟨oneShot, member⟩
      exact ⟨(Bus.mem_subscribers.mp (among other member)).2, other, member, oneShot, rfl⟩

/-- Calls one after the other end what they end each. -/
theorem Bus.endings_cons (bus : Bus) (event : EventName) (first : Subscription)
    (rest : List Subscription) :
    bus.endings event (first :: rest) = (bus.endings event [first]).endings event rest := by
  simp only [Bus.endings, List.filter_filter, Bus.mk.injEq, and_true]
  apply List.filter_congr
  intro subscription _
  simp only [Subscription.endsWith, List.any_cons, List.any_nil, Bool.or_false]
  cases decide (subscription.event = event) <;> simp [Bool.and_comm]

theorem Subscription.bus_begin (subscription : Subscription) (event : EventName) (world : World) :
    (subscription.begin event world).bus = world.bus.endings event [subscription] := by
  rw [Subscription.begin]
  cases oneShot : subscription.oneShot with
  | false => exact (Bus.endings_of_forall (by simp [oneShot])).symm
  | true =>
    simp [Bus.endings, Subscription.endsWith, oneShot, World.withBus, Bus.unsubscribe, eq_comm]

theorem bus_of_course {calls : List (Subscription × Event)}
    (quiet : ∀ call ∈ calls, handlers.IsQuiet call.1.handler)
    (course : Course handlers publish event world calls next after) :
    next.bus = world.bus.endings event.name (calls.map Prod.fst) := by
  induction course with
  | nil => exact (Bus.endings_of_forall (by simp)).symm
  | @cons subscription event passed after world between next calls called rest ih =>
    obtain ⟨found, told, call_eq, kept⟩ := Subscription.exists_call_of_isQuiet
      (quiet _ List.mem_cons_self) publish event (subscription.begin event.name world)
    obtain ⟨rfl, rfl⟩ := Prod.mk.inj (Option.some.inj (call_eq.symm.trans called))
    rw [ih fun call member => quiet call (List.mem_cons_of_mem _ member), kept,
      Subscription.bus_begin, Subscription.name_of_call called, List.map_cons,
      ← Bus.endings_cons]

end Quiet

/-- The subscriptions that end with a publish. For handlers that leave the bus alone a publish has a
result. Its calls are for the subscriptions of its beginning, in order, as far as the event is
not consumed. What is on the bus then is what was there before, in the same order, without those
subscriptions to the event whose handler was called for a subscription for one call. These are
just the subscriptions for one call that were called if and only if there are no others of the
same handlers to the event. -/
theorem removed_of_publish {handlers : Handlers} (depth : Nat) (event : Event) (world : World)
    (fresh : event.consumed = false)
    (quiet : ∀ subscription ∈ world.bus.subscribers event.name,
      handlers.IsQuiet subscription.handler) :
    ∃ next after told,
      publish handlers (depth + 1) event world = some (next, after) ∧
      next.trace = world.trace ++ told ∧
      outerCalls 0 told <+: world.bus.subscribers event.name ∧
      (after.consumed = false → outerCalls 0 told = world.bus.subscribers event.name) ∧
      next.bus = world.bus.endings event.name (outerCalls 0 told) ∧
      ((next.bus.subscriptions = world.bus.subscriptions.filter fun subscription =>
          !(subscription.oneShot && (outerCalls 0 told).contains subscription)) ↔
        ∀ called ∈ outerCalls 0 told, called.oneShot = true →
          ∀ other ∈ world.bus.subscribers event.name, other.handler = called.handler →
            other.oneShot = true ∧ other ∈ outerCalls 0 told) := by
  obtain ⟨next, after, published⟩ :=
    exists_dispatch_of_isQuiet quiet (publish handlers depth) event world
  obtain ⟨calls, course, served⟩ := served_of_dispatch fresh published
  obtain ⟨told, trace_eq, outer⟩ :=
    exists_told_of_course (follows_publish_encloses handlers depth) course
  have called_quiet : ∀ call ∈ calls, handlers.IsQuiet call.1.handler := fun call member =>
    quiet call.1 (served.begins.subset (List.mem_map_of_mem member))
  have bus_eq := bus_of_course called_quiet course
  refine ⟨next, after, told, published, trace_eq, ?_, ?_, ?_, ?_⟩
  · exact outer ▸ served.begins
  · intro unconsumed
    rcases served.ends with ⟨consumed, -⟩ | ⟨-, all⟩
    · exact absurd (unconsumed.symm.trans consumed) Bool.false_ne_true
    · rw [outer, all]
  · rw [outer, bus_eq]
  · rw [outer, bus_eq]
    apply Bus.endings_eq_filter_iff
    intro other member
    exact served.begins.subset member

/-- A handler that consumes its event, beside others that do nothing. -/
def greedy : Handlers := fun name _ _ =>
  if name = "greedy" then .ofList [.consume] .done else .done

theorem isQuiet_greedy (name : String) : greedy.IsQuiet name := by
  intro past event
  rw [greedy]
  split
  · exact Script.isQuiet_ofList (by simp [Action.isQuiet]) trivial
  · trivial

/-- The handler that is called ends, and what the event does not reach stays. -/
theorem removed_of_publish_greedy :
    ∃ world next after told,
      (publish greedy 1).performAll .empty
        [.subscribe .nodeClosed "late" 0 true, .subscribe .nodeClosed "greedy" 1 true,
          .subscribe .nodeClosed "ever" 2 false] = some world ∧
      publish greedy 1 (.custom .nodeClosed []) world = some (next, after) ∧
      (outerCalls 0 told).map (·.handler) = ["ever", "greedy"] ∧
      next.bus.subscriptions = (world.bus.subscriptions.filter fun subscription =>
        !(subscription.oneShot && (outerCalls 0 told).contains subscription)) ∧
      next.bus.subscriptions.map (·.handler) = ["ever", "late"] := by
  have called : (((publish greedy 1).performAll .empty
      [.subscribe .nodeClosed "late" 0 true, .subscribe .nodeClosed "greedy" 1 true,
        .subscribe .nodeClosed "ever" 2 false]).bind fun world =>
          (publish greedy 1 (.custom .nodeClosed []) world).map fun published =>
            (world.bus.subscribers (Event.custom .nodeClosed []).name,
              outerCalls 0 (published.1.trace.drop world.trace.length),
              published.1.bus.subscriptions.map (·.handler))) =
      some ([⟨2, .nodeClosed, "ever", 2, false⟩, ⟨1, .nodeClosed, "greedy", 1, true⟩,
          ⟨0, .nodeClosed, "late", 0, true⟩],
        [⟨2, .nodeClosed, "ever", 2, false⟩, ⟨1, .nodeClosed, "greedy", 1, true⟩],
        ["ever", "late"]) := by
    decide +kernel
  obtain ⟨world, performed, called⟩ := Option.bind_eq_some_iff.mp called
  obtain ⟨next, after, told, published, trace_eq, -, -, -, exact_iff⟩ :=
    removed_of_publish 0 (.custom .nodeClosed []) world rfl
      fun subscription _ => isQuiet_greedy subscription.handler
  obtain ⟨_, published', called⟩ := Option.map_eq_some_iff.mp called
  obtain rfl := Option.some.inj (published.symm.trans published')
  simp only [trace_eq, List.drop_left, Prod.mk.injEq] at called
  obtain ⟨subscribers_eq, outer, handlers_eq⟩ := called
  have alone : ∀ called ∈ outerCalls 0 told, called.oneShot = true →
      ∀ other ∈ world.bus.subscribers (Event.custom .nodeClosed []).name,
        other.handler = called.handler → other.oneShot = true ∧ other ∈ outerCalls 0 told := by
    rw [outer, subscribers_eq]
    decide +kernel
  exact ⟨world, next, after, told, performed, published, by simp [outer],
    exact_iff.mpr alone, handlers_eq⟩

/-- A lasting subscription ends with one for one call of the same handler, and so does a subscription
for one call that the event has not reached. -/
theorem lasting_subscription_removed :
    ((publish greedy 1).performAll .empty
      [.subscribe .nodeClosed "h" 0 false, .subscribe .nodeClosed "h" 0 true,
        .publish .nodeClosed []]).map (·.bus.subscriptions) = some [] ∧
    ((publish greedy 1).performAll .empty
      [.subscribe .nodeClosed "greedy" 0 true, .subscribe .nodeClosed "greedy" 0 true,
        .publish .nodeClosed []]).map (fun world =>
          (world.bus.subscriptions, (outerCalls 0 world.trace).map (·.serial))) =
      some ([], [0]) := by
  decide +kernel

end Dialogue
