/-!
# Bounded lists

A list that takes items in order until it is full and refuses the rest. The commands and
choices of a node are gathered in such lists.
-/

namespace Dialogue

/-- A list of at most `capacity` items. -/
structure Bounded (α : Type) where
  capacity : Nat
  items : List α
  length_le : items.length ≤ capacity
  deriving DecidableEq, Repr

namespace Bounded

variable {α : Type}

/-- A list without items. -/
def empty (capacity : Nat) : Bounded α :=
  ⟨capacity, [], Nat.zero_le _⟩

@[simp] theorem items_empty (capacity : Nat) :
    (empty capacity : Bounded α).items = [] := rfl

@[simp] theorem capacity_empty (capacity : Nat) :
    (empty capacity : Bounded α).capacity = capacity := rfl

/-- Whether there is no room for another item. -/
def isFull (buffer : Bounded α) : Bool :=
  buffer.capacity ≤ buffer.items.length

@[simp] theorem isFull_eq_true {buffer : Bounded α} :
    buffer.isFull = true ↔ buffer.capacity ≤ buffer.items.length := by
  simp [isFull]

/-- Room for an item is enough room for the list with that item. -/
theorem length_concat_le {items : List α} {capacity : Nat} (item : α)
    (room : items.length < capacity) : (items ++ [item]).length ≤ capacity := by
  rw [List.length_append, List.length_singleton]
  exact room

/-- The list with one more item at its end, if there is room. -/
def push? (buffer : Bounded α) (item : α) : Option (Bounded α) :=
  if room : buffer.items.length < buffer.capacity then
    some ⟨buffer.capacity, buffer.items ++ [item], length_concat_le item room⟩
  else none

theorem push?_eq_none_iff {buffer : Bounded α} {item : α} :
    buffer.push? item = none ↔ buffer.isFull = true := by
  unfold push?
  split <;> rename_i room
  · simp [isFull, room]
  · simp [isFull, Nat.le_of_not_lt room]

theorem isNone_push? (buffer : Bounded α) (item : α) :
    (buffer.push? item).isNone = buffer.isFull := by
  rw [Bool.eq_iff_iff, Option.isNone_iff_eq_none, push?_eq_none_iff]

theorem items_of_push? {buffer larger : Bounded α} {item : α}
    (pushed : buffer.push? item = some larger) :
    larger.items = buffer.items ++ [item] := by
  unfold push? at pushed
  split at pushed
  · cases pushed; rfl
  · cases pushed

theorem capacity_of_push? {buffer larger : Bounded α} {item : α}
    (pushed : buffer.push? item = some larger) :
    larger.capacity = buffer.capacity := by
  unfold push? at pushed
  split at pushed
  · cases pushed; rfl
  · cases pushed

/-- An item for which there is room comes to the end of the list. -/
theorem exists_push? {buffer : Bounded α} (room : buffer.items.length < buffer.capacity)
    (item : α) : ∃ larger, buffer.push? item = some larger ∧
      larger.items = buffer.items ++ [item] := by
  cases pushed : buffer.push? item with
  | none =>
    have := isFull_eq_true.mp (push?_eq_none_iff.mp pushed)
    omega
  | some larger => exact ⟨larger, rfl, items_of_push? pushed⟩

/-- The list with all its room free again. -/
def clear (buffer : Bounded α) : Bounded α :=
  empty buffer.capacity

@[simp] theorem items_clear (buffer : Bounded α) : buffer.clear.items = [] := rfl

@[simp] theorem capacity_clear (buffer : Bounded α) :
    buffer.clear.capacity = buffer.capacity := rfl

/-- A list as messages show it, given how its items are shown. -/
def display (item : α → String) (buffer : Bounded α) : String :=
  "BoundedBuffer([" ++ String.intercalate ", " (buffer.items.map item) ++ "], capacity=" ++
    toString buffer.capacity ++ ")"

end Bounded

/-- A capacity below zero. -/
structure NegativeCapacity where
  capacity : Int
  deriving DecidableEq, Repr

/-- A negative capacity as messages give it. -/
def NegativeCapacity.message (error : NegativeCapacity) : String :=
  "capacity must be >= 0, got " ++ toString error.capacity

/-- A list without items, of a capacity that must not be negative. -/
def Bounded.ofCapacity {α : Type} (capacity : Int) : Except NegativeCapacity (Bounded α) :=
  if 0 ≤ capacity then .ok (.empty capacity.toNat) else .error ⟨capacity⟩

end Dialogue
