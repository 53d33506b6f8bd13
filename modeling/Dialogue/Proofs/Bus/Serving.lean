import Dialogue.Proofs.Bus.Ledger

/-!
# Whom a publish calls

Handlers publish in their turn, and so a trace has calls within calls. Every call is closed
by its end, and the calls of a publish itself are those that lie in no other call of its
stretch of the trace. They go through the subscriptions that there were when the publish
began, in the order in which these were served, and stop behind the first call that has
left the event consumed. What the handlers do to the bus in the meantime plays no part.
-/

namespace Dialogue

/-- Whether an entry of a trace is the end of a call. -/
def TraceEntry.isEnd : TraceEntry → Bool
  | .returned _ | .failed _ => true
  | .called _ _ | .got _ | .item _ | .sawConsumed _ => false

/-- The subscriptions for which there are calls in a stretch of trace that lie in no other call of
it. So many calls are open where the stretch begins. -/
def outerCalls : (opened : Nat) → List TraceEntry → List Subscription
  | _, [] => []
  | opened, .called subscription _ :: rest =>
    if opened = 0 then subscription :: outerCalls 1 rest else outerCalls (opened + 1) rest
  | opened, .returned _ :: rest | opened, .failed _ :: rest => outerCalls (opened - 1) rest
  | opened, .got _ :: rest | opened, .item _ :: rest | opened, .sawConsumed _ :: rest =>
    outerCalls opened rest

/-- A stretch of trace within a call: all calls that it opens are closed in it. -/
def IsInner (stretch : List TraceEntry) : Prop :=
  ∀ opened rest, outerCalls (opened + 1) (stretch ++ rest) = outerCalls (opened + 1) rest

namespace IsInner

theorem nil : IsInner [] := fun _ _ => rfl

theorem append {stretch more : List TraceEntry} (first : IsInner stretch) (second : IsInner more) :
    IsInner (stretch ++ more) := by
  intro opened rest
  rw [List.append_assoc, first, second]

theorem look {entry : TraceEntry} (look : entry.isLook = true) : IsInner [entry] := by
  intro opened rest
  cases entry with
  | called | returned | failed => cases look
  | got | item | sawConsumed => rfl

end IsInner

theorem outerCalls_end {ending : TraceEntry} (ends : ending.isEnd = true) (opened : Nat)
    (rest : List TraceEntry) : outerCalls opened (ending :: rest) = outerCalls (opened - 1) rest := by
  cases ending with
  | returned | failed => rfl
  | called | got | item | sawConsumed => cases ends

/-- A whole call with all that lies in it. -/
def wholeCall (subscription : Subscription) (event : Event) (stretch : List TraceEntry)
    (ending : TraceEntry) : List TraceEntry :=
  .called subscription event :: stretch ++ [ending]

section WholeCall

variable {subscription : Subscription} {event : Event} {stretch : List TraceEntry}
  {ending : TraceEntry} (inner : IsInner stretch) (ends : ending.isEnd = true)
include inner ends

/-- Outside of all calls a call counts, and nothing in it does. -/
theorem outerCalls_wholeCall (rest : List TraceEntry) :
    outerCalls 0 (wholeCall subscription event stretch ending ++ rest) =
      subscription :: outerCalls 0 rest := by
  simp only [wholeCall, List.cons_append, List.append_assoc, List.nil_append, outerCalls,
    ↓reduceIte]
  rw [inner 0, outerCalls_end ends]

theorem IsInner.wholeCall : IsInner (wholeCall subscription event stretch ending) := by
  intro opened rest
  simp only [Dialogue.wholeCall, List.cons_append, List.append_assoc, List.nil_append, outerCalls,
    Nat.add_one_ne_zero, ↓reduceIte]
  rw [inner (opened + 1), outerCalls_end ends]
  rfl

end WholeCall

/-! ## What a handler leaves in the trace -/

/-- Between two worlds the trace has grown by a stretch that closes all its calls. -/
def World.Encloses (world next : World) : Prop :=
  ∃ stretch, next.trace = world.trace ++ stretch ∧ IsInner stretch

theorem World.encloses_of_trace {world next : World} (same : next.trace = world.trace) :
    world.Encloses next :=
  ⟨[], by rw [same, List.append_nil], .nil⟩

theorem World.encloses_manners : Manners World.Encloses where
  refl := fun _ => encloses_of_trace rfl
  trans := by
    rintro world between next ⟨stretch, between_eq, inner⟩ ⟨more, next_eq, inner'⟩
    exact ⟨stretch ++ more, by rw [next_eq, between_eq, List.append_assoc], inner.append inner'⟩
  look := fun _ entry look => ⟨[entry], rfl, .look look⟩
  subscribe := fun _ _ _ _ _ => encloses_of_trace rfl
  unsubscribe := fun _ _ _ => encloses_of_trace rfl
  clear := fun _ _ => encloses_of_trace rfl

section Calls

variable {handlers : Handlers} {publish : Publisher} {subscription : Subscription}
  {event after : Event} {world next : World}

/-- A call adds itself to the trace, with a stretch that closes all calls within. -/
theorem exists_wholeCall (follows : publish.Follows World.Encloses)
    (called : subscription.call handlers publish event world = some (next, after)) :
    ∃ stretch ending, IsInner stretch ∧ ending.isEnd = true ∧
      next.trace = world.trace ++ wholeCall subscription event stretch ending := by
  simp only [Subscription.call] at called
  split at called
  next => cases called
  next between _ run_eq =>
    obtain ⟨stretch, trace_eq, inner⟩ := World.encloses_manners.script follows run_eq
    cases called
    refine ⟨stretch, .returned subscription.handler, inner, rfl, ?_⟩
    simp only [World.note, trace_eq, wholeCall, List.append_assoc, List.cons_append,
      List.nil_append]
  next between _ run_eq =>
    obtain ⟨stretch, trace_eq, inner⟩ := World.encloses_manners.script follows run_eq
    cases called
    refine ⟨stretch, .failed after.name, inner, rfl, ?_⟩
    simp only [World.note, trace_eq, wholeCall, List.append_assoc, List.cons_append,
      List.nil_append]

theorem follows_publish_encloses (handlers : Handlers) (depth : Nat) :
    (Dialogue.publish handlers depth).Follows World.Encloses := by
  apply World.encloses_manners.follows_publish
  intro publish follows subscription world next event after called
  obtain ⟨stretch, ending, inner, ends, trace_eq⟩ := exists_wholeCall follows called
  exact ⟨_, trace_eq, inner.wholeCall ends⟩

/-! ## The calls of a publish -/

variable (handlers publish) in
/-- Calls one after the other, each with the event as it has left it. The event goes on to the next
call in that state, and so does the world. -/
inductive Course : Event → World → List (Subscription × Event) → World → Event → Prop where
  | nil {event : Event} {world : World} : Course event world [] world event
  | cons {subscription : Subscription} {event passed after : Event} {world between next : World}
      {calls : List (Subscription × Event)}
      (called : subscription.call handlers publish event (subscription.begin event.name world) =
        some (between, passed))
      (rest : Course passed between calls next after) :
      Course event world ((subscription, passed) :: calls) next after

/-- The calls for subscriptions that are served in order, as far as the event is not consumed. -/
structure Served (subscriptions : List Subscription) (calls : List (Subscription × Event))
    (after : Event) : Prop where
  begins : calls.map Prod.fst <+: subscriptions
  unconsumed : ∀ call ∈ calls.dropLast, call.2.consumed = false
  ends : after.consumed = true ∧ calls.getLast?.map Prod.snd = some after ∨
    after.consumed = false ∧ calls.map Prod.fst = subscriptions

theorem served_of_dispatch {subscriptions : List Subscription} (fresh : event.consumed = false)
    (dispatched : dispatch handlers publish subscriptions event world = some (next, after)) :
    ∃ calls, Course handlers publish event world calls next after ∧
      Served subscriptions calls after := by
  induction subscriptions generalizing event world with
  | nil =>
    cases dispatched
    exact ⟨[], .nil, List.prefix_rfl, by simp, .inr ⟨fresh, rfl⟩⟩
  | cons subscription rest ih =>
    obtain ⟨between, passed, call_eq, rest_eq⟩ := exists_call_of_dispatch dispatched
    rcases rest_eq with ⟨consumed, rfl, rfl⟩ | ⟨unconsumed, rest_eq⟩
    · exact ⟨[(subscription, after)], .cons call_eq .nil, by simp, by simp, .inl ⟨consumed, rfl⟩⟩
    · obtain ⟨calls, course, served⟩ := ih unconsumed rest_eq
      refine ⟨(subscription, passed) :: calls, .cons call_eq course, ?_, ?_, ?_⟩
      · exact (List.prefix_cons_inj subscription).mpr served.begins
      · intro call member
        cases calls with
        | nil => cases member
        | cons second calls =>
          rcases List.mem_cons.mp member with rfl | later
          · exact unconsumed
          · exact served.unconsumed call later
      · rcases served.ends with ⟨consumed, last⟩ | ⟨left, all⟩
        · refine .inl ⟨consumed, ?_⟩
          cases calls with
          | nil => cases last
          | cons second calls => rw [List.getLast?_cons_cons, last]
        · exact .inr ⟨left, by rw [List.map_cons, all]⟩

/-- The calls of a course are the outer calls of the stretch by which the trace has grown. -/
theorem exists_told_of_course (follows : publish.Follows World.Encloses)
    {calls : List (Subscription × Event)} (course : Course handlers publish event world calls next after) :
    ∃ told, next.trace = world.trace ++ told ∧ outerCalls 0 told = calls.map Prod.fst := by
  induction course with
  | nil => exact ⟨[], (List.append_nil _).symm, rfl⟩
  | @cons subscription event passed after world between next calls called rest ih =>
    obtain ⟨stretch, ending, inner, ends, trace_eq⟩ := exists_wholeCall follows called
    obtain ⟨told, next_eq, outer⟩ := ih
    have begun : (subscription.begin event.name world).trace = world.trace := by
      rw [Subscription.begin]
      split <;> rfl
    refine ⟨wholeCall subscription event stretch ending ++ told, ?_, ?_⟩
    · rw [next_eq, trace_eq, begun, List.append_assoc]
    · rw [outerCalls_wholeCall inner ends, outer, List.map_cons]

end Calls

/-- A bus serves by priority, and a publish goes through what there was when it began. After every
history of changes the subscriptions to an event are those that were made and not removed
later, by falling priority and then by age; and whatever is asked of a bus, it has the
subscriptions that its ledger leaves. The calls that a publish makes itself, whatever its
handlers do and however they end, are for the subscriptions of its beginning, in order:
up to the first call that leaves the event consumed, or for all of them if none does. The
event comes back consumed in the first case only. -/
theorem serves_by_priority (handlers : Handlers) (depth : Nat) :
    (∀ history event,
      (∀ subscription, subscription ∈ (Bus.empty.after history).subscribers event ↔
        Bus.Standing history subscription ∧ subscription.event = event) ∧
      ((Bus.empty.after history).subscribers event).Pairwise Subscription.Precedes) ∧
    (∀ requests world next, (publish handlers depth).performAll world requests = some next →
      next.bus = world.bus.after (Request.changesAll (publish handlers depth)
        (changesOfPublish handlers depth) world requests)) ∧
    ∀ event world next after, event.consumed = false →
      publish handlers (depth + 1) event world = some (next, after) →
      ∃ calls told, Course handlers (publish handlers depth) event world calls next after ∧
        next.trace = world.trace ++ told ∧ outerCalls 0 told = calls.map Prod.fst ∧
        calls.map Prod.fst <+: world.bus.subscribers event.name ∧
        (∀ call ∈ calls.dropLast, call.2.consumed = false) ∧
        (after.consumed = true ∧ calls.getLast?.map Prod.snd = some after ∨
          after.consumed = false ∧
            calls.map Prod.fst = world.bus.subscribers event.name) := by
  refine ⟨?_, ?_, ?_⟩
  · intro history event
    have explained := Bus.explained_after history
    refine ⟨?_, explained.ordered.filter _⟩
    intro subscription
    rw [Bus.mem_subscribers, explained.standing]
  · intro requests world next performed
    exact Ledger.Covers.requests (covers_changesOfPublish handlers depth) performed
  · intro event world next after fresh published
    obtain ⟨calls, course, served⟩ := served_of_dispatch fresh published
    obtain ⟨told, trace_eq, outer⟩ :=
      exists_told_of_course (follows_publish_encloses handlers depth) course
    exact ⟨calls, told, course, trace_eq, outer, served.begins, served.unconsumed, served.ends⟩

/-- Handlers of which one takes the next one off the bus, publishes and fails, and the next one
consumes the event before it fails. -/
def unruly : Handlers := fun name _ _ =>
  if name = "high" then
    .ofList [.request (.unsubscribe .nodeClosed "middle"),
      .request (.publish .entryDropped [])] .fail
  else if name = "middle" then .ofList [.consume] .fail
  else .done

/-- A subscription that ended while the event was on its way is served, and one behind the handler
that consumes the event is not. -/
theorem serves_by_priority_unruly :
    ∃ world next after calls,
      (publish unruly 1).performAll .empty
        [.subscribe .nodeClosed "low" 0 false, .subscribe .nodeClosed "high" 2 false,
          .subscribe .nodeClosed "middle" 1 false,
          .subscribe .entryDropped "other" 0 true] = some world ∧
      (world.bus.subscribers .nodeClosed).Pairwise Subscription.Precedes ∧
      publish unruly 2 (.custom .nodeClosed []) world = some (next, after) ∧
      Course unruly (publish unruly 1) (.custom .nodeClosed []) world calls next after ∧
      calls.map Prod.fst <+: world.bus.subscribers .nodeClosed ∧
      after.consumed = true ∧ calls.map (·.1.handler) = ["high", "middle"] := by
  have called : (((publish unruly 1).performAll .empty
      [.subscribe .nodeClosed "low" 0 false, .subscribe .nodeClosed "high" 2 false,
        .subscribe .nodeClosed "middle" 1 false,
        .subscribe .entryDropped "other" 0 true]).bind fun world =>
          (publish unruly 2 (.custom .nodeClosed []) world).map fun told =>
            (told.2.consumed,
              (outerCalls 0 (told.1.trace.drop world.trace.length)).map (·.handler))) =
      some (true, ["high", "middle"]) := by
    decide +kernel
  obtain ⟨order, ledger, served⟩ := serves_by_priority unruly 1
  obtain ⟨world, performed, called⟩ := Option.bind_eq_some_iff.mp called
  obtain ⟨⟨next, after⟩, published, called⟩ := Option.map_eq_some_iff.mp called
  obtain ⟨calls, told, course, trace_eq, outer, begins, -, -⟩ :=
    served _ world next after rfl published
  simp only [trace_eq, List.drop_left, outer, List.map_map, Prod.mk.injEq] at called
  refine ⟨world, next, after, calls, performed, ?_, published, course, begins, called⟩
  rw [ledger _ _ world performed]
  exact (order _ .nodeClosed).2

end Dialogue
