import Dialogue.Bus.Handler

/-!
# Publishing

An event goes to the subscriptions that its name has when it is published, one after
another, until a handler consumes it. A subscription for one call ends just before that
call, together with all others of the same handler to events of the name. Handlers may
publish and compile in their turn; how deep such calls are nested is bounded by a number
that the caller gives, and a run that would go deeper has no result.
-/

namespace Dialogue

/-- A bus, and all that has happened on it, in order. -/
structure World where
  bus : Bus
  trace : List TraceEntry

namespace World

/-- A new bus. -/
def empty : World := ⟨.empty, []⟩

/-- The world after one more thing has happened. -/
def note (world : World) (entry : TraceEntry) : World :=
  { world with trace := world.trace ++ [entry] }

/-- The world with another bus. -/
def withBus (world : World) (bus : Bus) : World :=
  { world with bus }

end World

/-- A way to publish: the world and the event after all handlers have been called, or
nothing if that goes too deep. -/
abbrev Publisher := Event → World → Option (World × Event)

/-- The observer that publishes the events of a compile. Settings that handlers assign on the
event that opens the compile are the settings of the compile from then on. -/
def Publisher.observer (publish : Publisher) : Observer (Option World) where
  notify notice config state :=
    match state, notice.event? with
    | some world, some event =>
      match publish (.ofCompile event) world with
      | some (world, published) => (published.config.getD config, some world)
      | none => (config, none)
    | state, _ => (config, state)

/-- Do what is asked of a bus. -/
def Request.perform (publish : Publisher) (world : World) :
    Request → Option (World × Reply)
  | .subscribe event handler priority oneShot =>
    some (world.withBus (world.bus.subscribe event handler priority oneShot), .done)
  | .unsubscribe event handler =>
    some (world.withBus (world.bus.unsubscribe event handler), .done)
  | .hasSubscribers event => some (world, .truth (world.bus.hasSubscribers event))
  | .publish event fields =>
    (publish (.custom event fields) world).map fun (world, event) =>
      (world, .truth event.consumed)
  | .clear event => some (world.withBus (world.bus.clear event), .done)
  | .compile config lines =>
    let (run, result) := Run.compile publish.observer config (some world) lines
    run.state.map fun world => (world, .compiled result)

/-- Do what a handler does with the event that it was called with. -/
def Action.perform (publish : Publisher) (event : Event) (world : World) :
    Action → Option (World × Event × Reply)
  | .request asked =>
    (asked.perform publish world).map fun (world, reply) => (world, event, reply)
  | .consume => some (world, event.consume, .done)
  | .get key default =>
    let value := (event.get? key).getD default
    some (world.note (.got value), event, .data value)
  | .item key =>
    match event.get? key with
    | some value => some (world.note (.item value), event, .data value)
    | none => some (world, event, .failed)
  | .consumed => some (world.note (.sawConsumed event.consumed), event, .truth event.consumed)
  | .assign field value =>
    match event.assign? field value with
    | some event => some (world, event, .done)
    | none => some (world, event, .failed)

/-- Run a script; the last part of the result tells whether it came to its end. -/
def Script.run (publish : Publisher) :
    Script → Event → World → Option (World × Event × Bool)
  | .done, event, world => some (world, event, true)
  | .fail, event, world => some (world, event, false)
  | .act action resume, event, world =>
    match action.perform publish event world with
    | none => none
    | some (world, event, reply) => run publish (resume reply) event world

/-- Call a handler for its subscription. -/
def Subscription.call (handlers : Handlers) (publish : Publisher) (subscription : Subscription)
    (event : Event) (world : World) : Option (World × Event) :=
  let called := world.note (.called subscription event)
  match (handlers subscription.handler called.trace event).run publish event called with
  | none => none
  | some (world, event, true) => some (world.note (.returned subscription.handler), event)
  | some (world, event, false) => some (world.note (.failed event.name), event)

/-- Serve subscriptions in order, until the event is consumed. -/
def dispatch (handlers : Handlers) (publish : Publisher) :
    List Subscription → Event → World → Option (World × Event)
  | [], event, world => some (world, event)
  | subscription :: rest, event, world =>
    let world :=
      if subscription.oneShot then
        world.withBus (world.bus.unsubscribe event.name subscription.handler)
      else world
    match subscription.call handlers publish event world with
    | none => none
    | some (world, event) =>
      if event.consumed then some (world, event)
      else dispatch handlers publish rest event world

/-- Publish an event to the subscriptions that its name has at this moment, with at most
`depth` calls nested in each other. -/
def publish (handlers : Handlers) : (depth : Nat) → Publisher
  | 0, _, _ => none
  | depth + 1, event, world =>
    dispatch handlers (publish handlers depth) (world.bus.subscribers event.name) event world

end Dialogue
