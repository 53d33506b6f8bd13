import Dialogue.Proofs.Bus.Conduct

/-!
# Subscriptions for one call

A subscription for one call leaves the bus just before it is called, and no subscription
comes back. But whoever publishes goes through the subscriptions that there were at the
beginning, and a handler in front may publish the same event again: then the subscription
is called once by each of the publishes that were under way. So it is called at most as
often as publishes are nested, and only without nesting at most once.
-/

namespace Dialogue

/-! ## Numbers of subscriptions -/

namespace Bus

/-- What holds of the subscriptions on every bus: they are numbered by the order in which they
were made, and none is there twice. -/
structure Numbered (bus : Bus) : Prop where
  below : ∀ subscription ∈ bus.subscriptions, subscription.serial < bus.nextSerial
  nodup : bus.subscriptions.Nodup

theorem Numbered.empty : Bus.empty.Numbered where
  below := by simp [Bus.empty]
  nodup := .nil

theorem insert_perm (new : Subscription) (subscriptions : List Subscription) :
    (insert new subscriptions).Perm (new :: subscriptions) := by
  induction subscriptions with
  | nil => exact .refl _
  | cons first rest ih =>
    simp only [insert]
    split
    next => exact (ih.cons first).trans (.swap new first rest)
    next => exact .refl _

theorem Numbered.subscribe {bus : Bus} (numbered : bus.Numbered) (event : EventName)
    (handler : String) (priority : Rat) (oneShot : Bool) :
    (bus.subscribe event handler priority oneShot).Numbered where
  below := by
    intro subscription member
    rcases mem_insert.mp member with rfl | before
    · exact Nat.lt_succ_self _
    · exact Nat.lt_succ_of_lt (numbered.below subscription before)
  nodup := by
    have unused : ⟨bus.nextSerial, event, handler, priority, oneShot⟩ ∉ bus.subscriptions :=
      fun member => Nat.lt_irrefl _ (numbered.below _ member)
    exact (insert_perm _ _).nodup_iff.mpr (List.nodup_cons.mpr ⟨unused, numbered.nodup⟩)

/-- Fewer subscriptions are numbered as well. -/
theorem Numbered.sublist {bus : Bus} (numbered : bus.Numbered) {subscriptions : List Subscription}
    (fewer : subscriptions.Sublist bus.subscriptions) :
    Numbered { bus with subscriptions } where
  below := fun subscription member => numbered.below subscription (fewer.subset member)
  nodup := numbered.nodup.sublist fewer

theorem unsubscribe_sublist (bus : Bus) (event : EventName) (handler : String) :
    (bus.unsubscribe event handler).subscriptions.Sublist bus.subscriptions :=
  List.filter_sublist

theorem clear_sublist (bus : Bus) (event : Option EventName) :
    (bus.clear event).subscriptions.Sublist bus.subscriptions := by
  cases event with
  | none => exact List.nil_sublist _
  | some event => exact List.filter_sublist

end Bus

namespace World

/-- The numbers of subscriptions stay in order, and no number is given twice. -/
structure Counts (world next : World) : Prop where
  numbered : world.bus.Numbered → next.bus.Numbered
  nextSerial : world.bus.nextSerial ≤ next.bus.nextSerial

theorem counts_conduct : Conduct Counts where
  refl := by
    intro world
    exact ⟨id, Nat.le_refl _⟩
  trans := by
    intro world between next first second
    exact ⟨second.numbered ∘ first.numbered, first.nextSerial.trans second.nextSerial⟩
  note := by
    intro world entry _
    exact ⟨id, Nat.le_refl _⟩
  subscribe := by
    intro world event handler priority oneShot
    exact ⟨fun numbered => numbered.subscribe event handler priority oneShot, Nat.le_succ _⟩
  unsubscribe := by
    intro world event handler
    exact ⟨fun numbered => numbered.sublist (world.bus.unsubscribe_sublist event handler),
      Nat.le_refl _⟩
  clear := by
    intro world event
    exact ⟨fun numbered => numbered.sublist (world.bus.clear_sublist event), Nat.le_refl _⟩

/-! ## Calls for one subscription -/

end World

/-- Whether an entry of a trace is a call for a subscription. -/
def TraceEntry.isCallOf (subscription : Subscription) : TraceEntry → Bool
  | .called served _ => served = subscription
  | _ => false

theorem TraceEntry.isCallOf_of_isCall {entry : TraceEntry} (quiet : entry.isCall = false)
    (subscription : Subscription) : entry.isCallOf subscription = false := by
  cases entry with
  | called => cases quiet
  | returned | failed | got | item | sawConsumed => rfl

namespace World

variable {subscription : Subscription} {limit : Nat} {world between next : World}

/-- How often a handler has been called for a subscription. -/
def calls (world : World) (subscription : Subscription) : Nat :=
  world.trace.countP (·.isCallOf subscription)

@[simp] theorem calls_empty : World.empty.calls subscription = 0 := rfl

@[simp] theorem calls_withBus (bus : Bus) :
    (world.withBus bus).calls subscription = world.calls subscription := rfl

@[simp] theorem calls_note (entry : TraceEntry) :
    (world.note entry).calls subscription =
      world.calls subscription + if entry.isCallOf subscription then 1 else 0 := by
  simp [calls, note, List.countP_append]

/-- A subscription that was made once and is not there any more. -/
structure Gone (subscription : Subscription) (world : World) : Prop where
  made : subscription.serial < world.bus.nextSerial
  absent : subscription ∉ world.bus.subscriptions

/-- What may come of a subscription between two worlds: once it is gone it stays away and is not
called, and it can be called only if it is gone afterwards, so many times at most. -/
structure Spends (subscription : Subscription) (limit : Nat) (world next : World) : Prop where
  counts : Counts world next
  gone : Gone subscription world →
    Gone subscription next ∧ next.calls subscription = world.calls subscription
  calls : world.bus.Numbered → next.calls subscription = world.calls subscription ∨
    Gone subscription next ∧ next.calls subscription ≤ world.calls subscription + limit

namespace Spends

theorem refl : Spends subscription limit world world where
  counts := counts_conduct.refl world
  gone := fun gone => ⟨gone, rfl⟩
  calls := fun _ => .inl rfl

theorem trans (first : Spends subscription limit world between)
    (second : Spends subscription limit between next) : Spends subscription limit world next where
  counts := counts_conduct.trans first.counts second.counts
  gone := by
    intro gone
    obtain ⟨gone, calls⟩ := first.gone gone
    obtain ⟨gone, calls'⟩ := second.gone gone
    exact ⟨gone, calls'.trans calls⟩
  calls := by
    intro numbered
    rcases first.calls numbered with same | ⟨gone, few⟩
    · rw [← same]
      exact second.calls (first.counts.numbered numbered)
    · -- Whatever was called between is gone by now, and is not called again.
      obtain ⟨gone, same⟩ := second.gone gone
      exact .inr ⟨gone, same ▸ few⟩

theorem mono {more : Nat} (spends : Spends subscription limit world next) (le : limit ≤ more) :
    Spends subscription more world next where
  counts := spends.counts
  gone := spends.gone
  calls := by
    intro numbered
    rcases spends.calls numbered with same | ⟨gone, few⟩
    · exact .inl same
    · exact .inr ⟨gone, few.trans (Nat.add_le_add_left le _)⟩

/-- Whatever is on the bus then and was not before is numbered later. -/
theorem of_withBus {bus : Bus} (counts : Counts world (world.withBus bus))
    (known : ∀ other ∈ bus.subscriptions, other ∈ world.bus.subscriptions ∨
      world.bus.nextSerial ≤ other.serial) :
    Spends subscription limit world (world.withBus bus) where
  counts := counts
  gone := by
    intro gone
    refine ⟨⟨Nat.lt_of_lt_of_le gone.made counts.nextSerial, ?_⟩, rfl⟩
    intro member
    rcases known subscription member with before | later
    · exact gone.absent before
    · exact Nat.not_lt.mpr later gone.made
  calls := fun _ => .inl rfl

theorem of_note {entry : TraceEntry} (other : entry.isCallOf subscription = false) :
    Spends subscription limit world (world.note entry) where
  counts := ⟨id, Nat.le_refl _⟩
  gone := fun gone => ⟨⟨gone.made, gone.absent⟩, by simp [other]⟩
  calls := fun _ => .inl (by simp [other])

theorem conduct (subscription : Subscription) (limit : Nat) :
    Conduct (Spends subscription limit) where
  refl := fun _ => refl
  trans := trans
  note := fun _ _ quiet => of_note (TraceEntry.isCallOf_of_isCall quiet subscription)
  subscribe := by
    intro world event handler priority oneShot
    apply of_withBus (counts_conduct.subscribe ..)
    intro other member
    rcases Bus.mem_insert.mp member with rfl | before
    · exact .inr (Nat.le_refl _)
    · exact .inl before
  unsubscribe := by
    intro world event handler
    apply of_withBus (counts_conduct.unsubscribe ..)
    intro other member
    exact .inl ((world.bus.unsubscribe_sublist event handler).subset member)
  clear := by
    intro world event
    apply of_withBus (counts_conduct.clear ..)
    intro other member
    exact .inl ((world.bus.clear_sublist event).subset member)

end Spends

end World

/-! ## Publishing -/

section Publishing

variable {handlers : Handlers} {publish : Publisher} {subscription : Subscription} {depth : Nat}
  {subscriptions : List Subscription} {event after : Event} {world next start : World}

open World

/-- Those who are called are others, so nothing is called for the subscription here. -/
theorem spends_of_dispatch_others (follows : publish.Follows (Spends subscription depth))
    (others : subscription ∉ subscriptions)
    (dispatched : dispatch handlers publish subscriptions event world = some (next, after)) :
    Spends subscription depth world next := by
  apply (Spends.conduct subscription depth).dispatch follows ?_ dispatched
  intro other member world event
  have unlike : other ≠ subscription := fun same => others (same ▸ member)
  exact .of_note (by simp [TraceEntry.isCallOf, unlike])

/-- The call for a subscription for one call is the only one there, as it is gone by then. -/
theorem gone_of_call (oneShot : subscription.oneShot = true) (named : event.name = subscription.event)
    (made : subscription.serial < world.bus.nextSerial)
    (follows : publish.Follows (Spends subscription depth))
    (called : subscription.call handlers publish event (subscription.begin event.name world) =
      some (next, after)) :
    Gone subscription next ∧ next.calls subscription = world.calls subscription + 1 := by
  have begun : subscription.begin event.name world =
      world.withBus (world.bus.unsubscribe event.name subscription.handler) := if_pos oneShot
  rw [begun] at called
  have spends := (Spends.conduct subscription depth).call follows called
  have gone : Gone subscription ((world.withBus (world.bus.unsubscribe event.name
      subscription.handler)).note (.called subscription event)) := by
    refine ⟨made, ?_⟩
    intro member
    exact (Bus.mem_unsubscribe.mp member).2 named.symm rfl
  obtain ⟨gone, same⟩ := spends.gone gone
  refine ⟨gone, ?_⟩
  rw [same]
  simp [TraceEntry.isCallOf]

/-- A publish adds its own call for a subscription for one call to those of the publishes in it. -/
theorem calls_of_dispatch (oneShot : subscription.oneShot = true)
    (follows : publish.Follows (Spends subscription depth)) (nodup : subscriptions.Nodup)
    (member : subscription ∈ subscriptions) (named : event.name = subscription.event)
    (made : subscription.serial < world.bus.nextSerial) (numbered : start.bus.Numbered)
    (before : Spends subscription depth start world)
    (dispatched : dispatch handlers publish subscriptions event world = some (next, after)) :
    next.calls subscription = start.calls subscription ∨
      Gone subscription next ∧ next.calls subscription ≤ start.calls subscription + (depth + 1) := by
  induction subscriptions generalizing event world with
  | nil => cases member
  | cons first rest ih =>
    obtain ⟨between, passed, call_eq, rest_eq⟩ := exists_call_of_dispatch dispatched
    obtain ⟨unique, nodup⟩ := List.nodup_cons.mp nodup
    by_cases same : first = subscription
    · subst same
      right
      have few : world.calls first ≤ start.calls first + depth := by
        rcases before.calls numbered with same | ⟨-, few⟩
        · exact same ▸ Nat.le_add_right _ _
        · exact few
      obtain ⟨gone, once⟩ := gone_of_call oneShot named made follows call_eq
      have ended : Gone first next ∧ next.calls first = between.calls first := by
        rcases rest_eq with ⟨-, rfl, -⟩ | ⟨-, rest_eq⟩
        · exact ⟨gone, rfl⟩
        · exact (spends_of_dispatch_others follows unique rest_eq).gone gone
      refine ⟨ended.1, ?_⟩
      rw [ended.2, once]
      exact Nat.add_le_add_right few 1
    · have passing : Spends subscription depth world between := by
        apply ((Spends.conduct subscription depth).begin first event.name world).trans
        apply (Spends.of_note ?_).trans ((Spends.conduct subscription depth).call follows call_eq)
        simp [TraceEntry.isCallOf, same]
      have reached := before.trans passing
      rcases rest_eq with ⟨-, rfl, -⟩ | ⟨-, rest_eq⟩
      · exact (reached.mono (Nat.le_succ depth)).calls numbered
      · have member : subscription ∈ rest := (List.mem_cons.mp member).resolve_left (Ne.symm same)
        have named : passed.name = subscription.event :=
          (Subscription.name_of_call call_eq).trans named
        have made := Nat.lt_of_lt_of_le made passing.counts.nextSerial
        exact ih nodup member named made reached rest_eq

/-- With calls nested up to some depth, a subscription for one call is called as often at most. -/
theorem follows_publish_of_oneShot (oneShot : subscription.oneShot = true) (depth : Nat) :
    (Dialogue.publish handlers depth).Follows (Spends subscription depth) := by
  induction depth with
  | zero =>
    intro event world next published published_eq
    cases published_eq
  | succ depth ih =>
    intro event world next published published_eq
    by_cases served : subscription ∈ world.bus.subscribers event.name
    · obtain ⟨present, named⟩ := Bus.mem_subscribers.mp served
      constructor
      · exact counts_conduct.follows_publish (fun _ _ _ => ⟨id, Nat.le_refl _⟩) (depth + 1)
          published_eq
      · intro gone
        exact absurd present gone.absent
      · intro numbered
        exact calls_of_dispatch oneShot ih (numbered.nodup.filter _) served named.symm
          (numbered.below subscription present) numbered .refl published_eq
    · exact (spends_of_dispatch_others ih served published_eq).mono (Nat.le_succ depth)

end Publishing

/-- In every run of a bus, whatever the handlers do, a subscription for one call is called at most
as often as publishes are nested, so without nesting at most once. Once it was called it is
not on the bus any more, and no later request has it called again. -/
theorem calls_le_of_oneShot (handlers : Handlers) (depth : Nat) (requests : List Request)
    (world : World) (subscription : Subscription) (oneShot : subscription.oneShot = true)
    (performed : (publish handlers depth).performAll .empty requests = some world) :
    world.calls subscription ≤ depth ∧
      (world.calls subscription ≠ 0 → subscription ∉ world.bus.subscriptions) ∧
      ∀ earlier later between, requests = earlier ++ later →
        (publish handlers depth).performAll .empty earlier = some between →
        between.calls subscription ≠ 0 →
          world.calls subscription = between.calls subscription := by
  have conduct := World.Spends.conduct subscription depth
  have follows : (publish handlers depth).Follows (World.Spends subscription depth) :=
    follows_publish_of_oneShot oneShot depth
  have few {reached : World} {asked : List Request}
      (reached_eq : (publish handlers depth).performAll .empty asked = some reached) :
      reached.calls subscription = 0 ∨
        World.Gone subscription reached ∧ reached.calls subscription ≤ depth := by
    simpa using (conduct.requests follows reached_eq).calls .empty
  refine ⟨?_, ?_, ?_⟩
  · rcases few performed with uncalled | ⟨-, few⟩
    · exact uncalled ▸ Nat.zero_le depth
    · exact few
  · intro called
    rcases few performed with uncalled | ⟨gone, -⟩
    · exact absurd uncalled called
    · exact gone.absent
  · intro earlier later between split earlier_eq called
    rcases few earlier_eq with uncalled | ⟨gone, -⟩
    · exact absurd uncalled called
    · rw [split, Publisher.performAll_append, earlier_eq, Option.bind_some] at performed
      exact ((conduct.requests follows performed).gone gone).2

/-- Handlers of which the first publishes once more what it is called with. -/
def relay : Handlers := fun name _ event =>
  if name = "first" then .ofList [.request (.publish event.name [])] .done else .done

/-- A subscription for one call that nested publishes have called twice is not called again. -/
theorem calls_le_of_oneShot_relay :
    ∃ between world,
      (publish relay 2).performAll .empty
        [.subscribe .nodeClosed "first" 0 true, .subscribe .nodeClosed "second" 0 true,
          .publish .nodeClosed []] = some between ∧
      (publish relay 2).performAll .empty
        ([.subscribe .nodeClosed "first" 0 true, .subscribe .nodeClosed "second" 0 true,
          .publish .nodeClosed []] ++ [.publish .nodeClosed []]) = some world ∧
      world.calls ⟨1, .nodeClosed, "second", 0, true⟩ ≤ 2 ∧
      world.calls ⟨1, .nodeClosed, "second", 0, true⟩ =
        between.calls ⟨1, .nodeClosed, "second", 0, true⟩ := by
  have called : ((publish relay 2).performAll .empty
      [.subscribe .nodeClosed "first" 0 true, .subscribe .nodeClosed "second" 0 true,
        .publish .nodeClosed []]).map (·.calls ⟨1, .nodeClosed, "second", 0, true⟩) = some 2 := by
    decide +kernel
  have ends : ((publish relay 2).performAll .empty
      ([.subscribe .nodeClosed "first" 0 true, .subscribe .nodeClosed "second" 0 true,
        .publish .nodeClosed []] ++ [.publish .nodeClosed []])).isSome = true := by
    decide +kernel
  obtain ⟨between, between_eq, calls_eq⟩ := Option.map_eq_some_iff.mp called
  obtain ⟨world, world_eq⟩ := Option.isSome_iff_exists.mp ends
  obtain ⟨few, -, later⟩ := calls_le_of_oneShot relay 2 _ world
    ⟨1, .nodeClosed, "second", 0, true⟩ rfl world_eq
  exact ⟨between, world, between_eq, world_eq, few,
    later _ _ between rfl between_eq (by simp [calls_eq])⟩

/-- A subscription for one call can be called twice: by a publish of the handler in front of it, and
then by the publish that had called that handler. -/
theorem oneShot_called_twice :
    ((publish relay 2).performAll .empty
      [.subscribe .nodeClosed "first" 0 true, .subscribe .nodeClosed "second" 0 true,
        .publish .nodeClosed []]).map (·.calls ⟨1, .nodeClosed, "second", 0, true⟩) = some 2 := by
  decide +kernel

end Dialogue
