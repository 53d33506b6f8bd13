import Dialogue.Bus.Event

/-!
# Subscriptions

A bus is the list of its subscriptions in the order in which they are served: by falling
priority, and in the order of subscribing among equal priorities. Every subscription has
a number of its own, so that two subscriptions of one handler can be told apart.
-/

namespace Dialogue

/-- A handler's wish to be called for events of a name. -/
structure Subscription where
  /-- The number of subscriptions made before. -/
  serial : Nat
  event : EventName
  handler : String
  /-- Handlers of higher priority are called earlier. -/
  priority : Rat
  /-- Whether the subscription ends with its first call. -/
  oneShot : Bool
  deriving DecidableEq, Repr

/-- Subscriptions in the order in which they are served. -/
structure Bus where
  subscriptions : List Subscription
  nextSerial : Nat
  deriving Repr

namespace Bus

/-- A bus without subscriptions. -/
def empty : Bus := ⟨[], 0⟩

/-- The subscriptions to events of a name, in the order in which they are served. -/
def subscribers (bus : Bus) (event : EventName) : List Subscription :=
  bus.subscriptions.filter fun subscription => subscription.event = event

/-- Whether anyone has subscribed to events of a name. -/
def hasSubscribers (bus : Bus) (event : EventName) : Bool :=
  bus.subscriptions.any fun subscription => subscription.event = event

@[simp] theorem mem_subscribers {bus : Bus} {event : EventName} {subscription : Subscription} :
    subscription ∈ bus.subscribers event ↔
      subscription ∈ bus.subscriptions ∧ subscription.event = event := by
  simp [subscribers]

/-- Someone has subscribed if and only if there is a subscription to serve. -/
theorem hasSubscribers_eq_true {bus : Bus} {event : EventName} :
    bus.hasSubscribers event = true ↔ bus.subscribers event ≠ [] := by
  simp [hasSubscribers, subscribers]

/-- Subscriptions with one more, which is served after all that have at least its
priority. -/
def insert (new : Subscription) : List Subscription → List Subscription
  | [] => [new]
  | subscription :: rest =>
    if new.priority ≤ subscription.priority then subscription :: insert new rest
    else new :: subscription :: rest

/-- Only the new subscription comes in. -/
@[simp] theorem mem_insert {new subscription : Subscription} {subscriptions : List Subscription} :
    subscription ∈ insert new subscriptions ↔
      subscription = new ∨ subscription ∈ subscriptions := by
  induction subscriptions with
  | nil => simp [insert]
  | cons first rest ih =>
    simp only [insert]
    split
    · simp only [List.mem_cons, ih]
      exact or_left_comm
    · simp

/-- The bus with one more subscription. -/
def subscribe (bus : Bus) (event : EventName) (handler : String) (priority : Rat)
    (oneShot : Bool) : Bus where
  subscriptions := insert ⟨bus.nextSerial, event, handler, priority, oneShot⟩ bus.subscriptions
  nextSerial := bus.nextSerial + 1

/-- The bus without any subscription of a handler to events of a name. -/
def unsubscribe (bus : Bus) (event : EventName) (handler : String) : Bus :=
  { bus with
    subscriptions := bus.subscriptions.filter fun subscription =>
      !(subscription.event = event && subscription.handler = handler) }

/-- Other handlers and other events keep their subscriptions. -/
theorem mem_unsubscribe {bus : Bus} {event : EventName} {handler : String}
    {subscription : Subscription} :
    subscription ∈ (bus.unsubscribe event handler).subscriptions ↔
      subscription ∈ bus.subscriptions ∧
        (subscription.event = event → subscription.handler ≠ handler) := by
  simp [unsubscribe, Decidable.imp_iff_not_or]

/-- The bus without the subscriptions to events of a name, or without any. -/
def clear (bus : Bus) (event : Option EventName) : Bus :=
  { bus with
    subscriptions :=
      match event with
      | none => []
      | some event => bus.subscriptions.filter fun subscription => subscription.event ≠ event }

end Bus

end Dialogue
