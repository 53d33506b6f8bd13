import Dialogue.Proofs.Bus.OneShot
import Mathlib.Algebra.Order.Ring.Rat
import Mathlib.Data.List.Induction

/-!
# The order of subscriptions

A bus is changed in three ways: a subscription is made, those of a handler to an event end,
or many end at once. Which subscriptions there are after a history of changes is read off
the history: those that were made in it and that no later change has removed. On the bus
they stand in the order in which they are served, by falling priority and then by the time
at which they were made.
-/

namespace Dialogue

/-- One subscription is served before another: its priority is higher, or it is the same and the
subscription is older. -/
def Subscription.Precedes (subscription other : Subscription) : Prop :=
  other.priority < subscription.priority ∨
    other.priority = subscription.priority ∧ subscription.serial < other.serial

namespace Bus

/-- What can be done to the subscriptions on a bus. -/
inductive Change where
  | subscribe (event : EventName) (handler : String) (priority : Rat) (oneShot : Bool)
  | unsubscribe (event : EventName) (handler : String)
  | clear (event : Option EventName)
  deriving DecidableEq, Repr

/-- The bus after a change. -/
def apply (bus : Bus) : Change → Bus
  | .subscribe event handler priority oneShot => bus.subscribe event handler priority oneShot
  | .unsubscribe event handler => bus.unsubscribe event handler
  | .clear event => bus.clear event

/-- The bus after a history of changes. -/
def after (bus : Bus) (history : List Change) : Bus :=
  history.foldl apply bus

@[simp] theorem after_nil (bus : Bus) : bus.after [] = bus := rfl

@[simp] theorem after_append (bus : Bus) (history more : List Change) :
    bus.after (history ++ more) = (bus.after history).after more :=
  List.foldl_append

/-! ## What a history leaves -/

namespace Change

/-- The subscription that a change makes, if there were so many before. -/
def made? (serial : Nat) : Change → Option Subscription
  | .subscribe event handler priority oneShot => some ⟨serial, event, handler, priority, oneShot⟩
  | .unsubscribe _ _ | .clear _ => none

/-- Whether a change removes a subscription. -/
def removes (subscription : Subscription) : Change → Bool
  | .subscribe _ _ _ _ => false
  | .unsubscribe event handler => subscription.event = event && subscription.handler = handler
  | .clear none => true
  | .clear (some event) => subscription.event = event

/-- Whether a change makes a subscription. -/
def isMaking : Change → Bool
  | .subscribe _ _ _ _ => true
  | .unsubscribe _ _ | .clear _ => false

end Change

/-- How many subscriptions a history has made. -/
def madeCount (history : List Change) : Nat :=
  history.countP Change.isMaking

/-- A subscription that was made in a history and not removed later in it. -/
def Standing (history : List Change) (subscription : Subscription) : Prop :=
  ∃ earlier change later, history = earlier ++ change :: later ∧
    change.made? (madeCount earlier) = some subscription ∧
    ∀ other ∈ later, other.removes subscription = false

theorem standing_concat {history : List Change} {change : Change} {subscription : Subscription} :
    Standing (history ++ [change]) subscription ↔
      change.made? (madeCount history) = some subscription ∨
        Standing history subscription ∧ change.removes subscription = false := by
  constructor
  · rintro ⟨earlier, making, later, split, made, kept⟩
    rcases List.eq_nil_or_concat later with rfl | ⟨front, last, rfl⟩
    · obtain ⟨rfl, same⟩ := List.append_inj' split rfl
      exact .inl (List.singleton_inj.mp same ▸ made)
    · rw [List.concat_eq_append, ← List.cons_append, ← List.append_assoc] at split
      obtain ⟨rfl, same⟩ := List.append_inj' split rfl
      obtain rfl := List.singleton_inj.mp same
      refine .inr ⟨⟨earlier, making, front, rfl, made, ?_⟩, kept _ (by simp)⟩
      exact fun other member => kept other (by simp [member])
  · rintro (made | ⟨⟨earlier, making, later, rfl, made, kept⟩, stays⟩)
    · exact ⟨history, change, [], rfl, made, by simp⟩
    · refine ⟨earlier, making, later ++ [change], by simp, made, ?_⟩
      intro other member
      rcases List.mem_append.mp member with before | last
      · exact kept other before
      · exact List.mem_singleton.mp last ▸ stays

/-- A change brings the subscription that it makes and takes those that it removes. -/
theorem mem_apply {bus : Bus} {change : Change} {subscription : Subscription} :
    subscription ∈ (bus.apply change).subscriptions ↔
      change.made? bus.nextSerial = some subscription ∨
        subscription ∈ bus.subscriptions ∧ change.removes subscription = false := by
  cases change with
  | subscribe event handler priority oneShot =>
    simp [apply, subscribe, Change.made?, Change.removes, eq_comm]
  | unsubscribe event handler =>
    simp [apply, mem_unsubscribe, Change.made?, Change.removes]
  | clear event =>
    cases event <;> simp [apply, clear, Change.made?, Change.removes]

theorem nextSerial_apply (bus : Bus) (change : Change) :
    (bus.apply change).nextSerial = bus.nextSerial + if change.isMaking then 1 else 0 := by
  cases change <;> rfl

/-! ## The order on the bus -/

/-- The subscriptions on a bus stand in the order in which they are served. -/
def InOrder (bus : Bus) : Prop :=
  bus.subscriptions.Pairwise Subscription.Precedes

/-- A subscription that is younger than all others finds its place behind those of its priority. -/
theorem pairwise_insert {new : Subscription} {subscriptions : List Subscription}
    (ordered : subscriptions.Pairwise Subscription.Precedes)
    (youngest : ∀ subscription ∈ subscriptions, subscription.serial < new.serial) :
    (insert new subscriptions).Pairwise Subscription.Precedes := by
  induction subscriptions with
  | nil => exact List.pairwise_singleton _ _
  | cons first rest ih =>
    obtain ⟨before, ordered⟩ := List.pairwise_cons.mp ordered
    have older := youngest first (by simp)
    simp only [insert]
    split
    next low =>
      refine List.pairwise_cons.mpr
        ⟨?_, ih ordered fun other member => youngest other (by simp [member])⟩
      intro other member
      rcases mem_insert.mp member with rfl | member
      · exact (lt_or_eq_of_le low).imp_right fun same => ⟨same, older⟩
      · exact before other member
    next high =>
      have higher : first.priority < new.priority := not_le.mp high
      refine List.pairwise_cons.mpr ⟨?_, List.pairwise_cons.mpr ⟨before, ordered⟩⟩
      intro other member
      rcases List.mem_cons.mp member with rfl | member
      · exact .inl higher
      · rcases before other member with lower | ⟨same, -⟩
        · exact .inl (lower.trans higher)
        · exact .inl (same ▸ higher)

theorem InOrder.apply {bus : Bus} (ordered : bus.InOrder) (numbered : bus.Numbered)
    (change : Change) : (bus.apply change).InOrder := by
  cases change with
  | subscribe => exact pairwise_insert ordered numbered.below
  | unsubscribe event handler => exact ordered.sublist (bus.unsubscribe_sublist event handler)
  | clear event => exact ordered.sublist (bus.clear_sublist event)

theorem Numbered.apply {bus : Bus} (numbered : bus.Numbered) (change : Change) :
    (bus.apply change).Numbered := by
  cases change with
  | subscribe => exact numbered.subscribe ..
  | unsubscribe event handler => exact numbered.sublist (bus.unsubscribe_sublist event handler)
  | clear event => exact numbered.sublist (bus.clear_sublist event)

/-- What a bus and its history have to do with each other. -/
structure Explained (history : List Change) (bus : Bus) : Prop where
  standing : ∀ subscription, subscription ∈ bus.subscriptions ↔ Standing history subscription
  nextSerial : bus.nextSerial = madeCount history
  numbered : bus.Numbered
  ordered : bus.InOrder

theorem Explained.empty : Explained [] .empty where
  standing := by simp [Bus.empty, Standing]
  nextSerial := rfl
  numbered := .empty
  ordered := .nil

theorem Explained.apply {history : List Change} {bus : Bus} (explained : Explained history bus)
    (change : Change) : Explained (history ++ [change]) (bus.apply change) where
  standing := by
    intro subscription
    rw [mem_apply, standing_concat, explained.standing, explained.nextSerial]
  nextSerial := by
    rw [nextSerial_apply, explained.nextSerial]
    simp [madeCount, List.countP_cons]
  numbered := explained.numbered.apply change
  ordered := explained.ordered.apply explained.numbered change

/-- Every bus is explained by its history. -/
theorem explained_after (history : List Change) : Explained history (Bus.empty.after history) := by
  induction history using List.reverseRecOn with
  | nil => exact .empty
  | append_singleton history change ih =>
    rw [after_append]
    exact ih.apply change

end Bus

end Dialogue
