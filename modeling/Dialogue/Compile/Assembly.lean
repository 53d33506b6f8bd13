import Dialogue.Graph.Basic

/-!
# Closed nodes

Closed nodes are recorded in order up to a capacity; further ones are refused. The node
that was closed last can still receive choices, unless it was refused.
-/

namespace Dialogue

/-- Recorded nodes, and which of them was closed last. -/
structure Assembly where
  /-- How many nodes are recorded at most; nothing is recorded if it is negative. -/
  capacity : Int
  nodes : List Node
  /-- The position of the node closed last; none if it was refused, and before any node was
  closed. -/
  lastIndex : Option Nat
  /-- Nothing is recorded behind the node closed last. Whatever changes an assembly has to show
  it again. -/
  lastIndex_eq : ∀ index, lastIndex = some index → index + 1 = nodes.length
  deriving DecidableEq, Repr

namespace Assembly

/-- Nothing closed yet. -/
def empty (capacity : Int) : Assembly where
  capacity := capacity
  nodes := []
  lastIndex := none
  lastIndex_eq := nofun

/-- Whether the node closed last was recorded; false before any node was closed. -/
def attachable (assembly : Assembly) : Bool :=
  assembly.lastIndex.isSome

@[simp] theorem attachable_empty (capacity : Int) : (empty capacity).attachable = false := rfl

/-- The recorded node that can still receive choices. -/
def last? (assembly : Assembly) : Option Node :=
  assembly.lastIndex.bind fun index => assembly.nodes[index]?

theorem nodes_ne_nil {assembly : Assembly} (attachable : assembly.attachable = true) :
    assembly.nodes ≠ [] := by
  obtain ⟨index, index_eq⟩ := Option.isSome_iff_exists.mp attachable
  have position := assembly.lastIndex_eq index index_eq
  exact List.ne_nil_of_length_pos (by omega)

/-- The node that can still receive choices is the last of the recorded ones. -/
theorem last?_eq_getLast? (assembly : Assembly) :
    assembly.last? = if assembly.attachable then assembly.nodes.getLast? else none := by
  unfold last? attachable
  cases index_eq : assembly.lastIndex with
  | none => rfl
  | some index =>
    have position := assembly.lastIndex_eq index index_eq
    rw [Option.bind_some, Option.isSome_some, if_pos rfl, List.getLast?_eq_getElem?, ← position,
      Nat.add_sub_cancel]

@[simp] theorem last?_eq_none_iff {assembly : Assembly} :
    assembly.last? = none ↔ assembly.attachable = false := by
  rw [last?_eq_getLast?]
  split
  next attachable =>
    rw [List.getLast?_eq_none_iff, attachable]
    exact iff_of_false (nodes_ne_nil attachable) Bool.true_eq_false.mp
  next refused => exact iff_of_true rfl (Bool.eq_false_iff.mpr refused)

theorem getLast?_of_last? {assembly : Assembly} {node : Node}
    (last : assembly.last? = some node) : assembly.nodes.getLast? = some node := by
  rw [last?_eq_getLast?] at last
  split at last
  next => exact last
  next => cases last

theorem length_concat_eq {nodes front : List Node} {last : Node}
    (nodes_eq : nodes = front ++ [last]) (node : Node) :
    (front ++ [node]).length = nodes.length := by
  rw [nodes_eq, List.length_append, List.length_append, List.length_singleton,
    List.length_singleton]

theorem length_of_last? {assembly : Assembly} {node : Node} (last : assembly.last? = some node)
    (other : Node) :
    (assembly.nodes.dropLast ++ [other]).length = assembly.nodes.length := by
  obtain ⟨front, nodes_eq⟩ := List.getLast?_eq_some_iff.mp (getLast?_of_last? last)
  have kept : assembly.nodes.dropLast = front := by rw [nodes_eq, List.dropLast_concat]
  rw [kept, length_concat_eq nodes_eq]

/-- Whether another node would be refused. -/
def isFull (assembly : Assembly) : Bool :=
  assembly.capacity ≤ assembly.nodes.length

/-- The assembly after a node was closed. -/
def close (assembly : Assembly) (node : Node) : Assembly :=
  if assembly.isFull then { assembly with lastIndex := none, lastIndex_eq := nofun }
  else
    { assembly with
      nodes := assembly.nodes ++ [node], lastIndex := some assembly.nodes.length
      lastIndex_eq := by simp }

/-- A full assembly keeps its nodes. -/
theorem nodes_close_of_full {assembly : Assembly} (full : assembly.isFull = true) (node : Node) :
    (assembly.close node).nodes = assembly.nodes := by
  simp [close, full]

/-- An assembly with room takes a node as its last. -/
theorem nodes_close_of_room {assembly : Assembly} (room : assembly.isFull = false)
    (node : Node) : (assembly.close node).nodes = assembly.nodes ++ [node] := by
  simp [close, room]

/-- Closing a node records no other. -/
theorem mem_close {assembly : Assembly} {node other : Node}
    (member : other ∈ (assembly.close node).nodes) : other ∈ assembly.nodes ∨ other = node := by
  cases full : assembly.isFull with
  | true => exact .inl (nodes_close_of_full full node ▸ member)
  | false => simpa [nodes_close_of_room full] using member

@[simp] theorem attachable_close (assembly : Assembly) (node : Node) :
    (assembly.close node).attachable = !assembly.isFull := by
  unfold close
  split <;> simp_all [attachable]

/-- A node that was just closed can receive choices, unless it was refused. -/
theorem last?_close (assembly : Assembly) (node : Node) :
    (assembly.close node).last? = if assembly.isFull then none else some node := by
  unfold close
  split <;> simp [last?]

@[simp] theorem capacity_close (assembly : Assembly) (node : Node) :
    (assembly.close node).capacity = assembly.capacity := by
  unfold close
  split <;> rfl

/-- The assembly with other nodes, as many as before. -/
def withNodes (assembly : Assembly) (nodes : List Node)
    (same : nodes.length = assembly.nodes.length) : Assembly :=
  { assembly with nodes, lastIndex_eq := same ▸ assembly.lastIndex_eq }

section withNodes

variable {assembly : Assembly} {nodes : List Node} (same : nodes.length = assembly.nodes.length)

@[simp] theorem nodes_withNodes : (assembly.withNodes nodes same).nodes = nodes := rfl

@[simp] theorem capacity_withNodes :
    (assembly.withNodes nodes same).capacity = assembly.capacity := rfl

@[simp] theorem attachable_withNodes :
    (assembly.withNodes nodes same).attachable = assembly.attachable := rfl

end withNodes

/-- The node closed last with the given choices, and the assembly that holds it; nothing
if the node closed last was not recorded. -/
def attach? (assembly : Assembly) (choices : List Choice) : Option (Node × Assembly) :=
  assembly.lastIndex.bind fun index =>
    assembly.nodes[index]?.map fun node =>
      (node.offering choices,
        assembly.withNodes (assembly.nodes.set index (node.offering choices)) List.length_set)

/-- Choices find no node if and only if the node closed last was not recorded. -/
theorem attach?_eq_none_iff {assembly : Assembly} {choices : List Choice} :
    assembly.attach? choices = none ↔ assembly.last? = none := by
  unfold attach? last?
  cases assembly.lastIndex <;> simp

/-- Choices go to the last node, and nothing else changes. -/
theorem exists_of_attach? {assembly attached : Assembly} {choices : List Choice} {node : Node}
    (attach_eq : assembly.attach? choices = some (node, attached)) :
    ∃ front last, ∃ nodes_eq : assembly.nodes = front ++ [last],
      node = last.offering choices ∧
        attached = assembly.withNodes (front ++ [node]) (length_concat_eq nodes_eq node) := by
  obtain ⟨index, index_eq, found⟩ := Option.bind_eq_some_iff.mp attach_eq
  obtain ⟨last, last_eq, pair_eq⟩ := Option.map_eq_some_iff.mp found
  obtain ⟨rfl, rfl⟩ := Prod.mk.inj pair_eq
  have position := assembly.lastIndex_eq index index_eq
  rw [← Nat.add_sub_cancel (n := index) (m := 1), position, ← List.getLast?_eq_getElem?] at last_eq
  obtain ⟨front, nodes_eq⟩ := List.getLast?_eq_some_iff.mp last_eq
  refine ⟨front, last, nodes_eq, rfl, ?_⟩
  have place : index = front.length := by simpa [nodes_eq] using position
  simp [withNodes, nodes_eq, place]

/-- Choices go to the node that can still receive them. -/
theorem attach?_of_last? {assembly : Assembly} {node : Node} (last : assembly.last? = some node)
    (choices : List Choice) :
    assembly.attach? choices =
      some (node.offering choices,
        assembly.withNodes (assembly.nodes.dropLast ++ [node.offering choices])
          (length_of_last? last _)) := by
  cases attach_eq : assembly.attach? choices with
  | none => cases (attach?_eq_none_iff.mp attach_eq).symm.trans last
  | some attached =>
    obtain ⟨front, other, nodes_eq, node_eq, attached_eq⟩ := exists_of_attach? attach_eq
    have found := getLast?_of_last? last
    rw [nodes_eq, List.getLast?_concat] at found
    obtain rfl := Option.some.inj found
    simp only [Option.some.injEq, Prod.ext_iff]
    exact ⟨node_eq, by simp [attached_eq, node_eq, nodes_eq]⟩

/-- The graph of the recorded nodes. -/
def graph (assembly : Assembly) : Graph :=
  ⟨assembly.nodes⟩

end Assembly

end Dialogue
