import Dialogue.Compile.Assembly
import Mathlib.Data.List.Induction

/-!
# What an assembly holds

An assembly is asked to close nodes and to attach choices, in any order. What it holds can
be read off these calls alone: it has stored the nodes that were closed first, as many as
it has room for, and each of them has the choices that were attached to it last. Choices
that are attached when the node closed last was refused go to no node at all.
-/

namespace Dialogue.Assembly

/-! ## Calls -/

/-- What an assembly can be asked to do. -/
inductive Call where
  | close (node : Node)
  | attach (choices : List Choice)

/-- What an assembly answers to a call. -/
inductive Answer where
  /-- Whether there was room for a closed node. -/
  | stored (recorded : Bool)
  /-- The node with its choices, none if no node can receive them. -/
  | received (node : Option Node)
  deriving DecidableEq

/-- The assembly after a call, and its answer. -/
def call (assembly : Assembly) : Call → Assembly × Answer
  | .close node => (assembly.close node, .stored !assembly.isFull)
  | .attach choices =>
    match assembly.attach? choices with
    | none => (assembly, .received none)
    | some (node, attached) => (attached, .received (some node))

/-- Choices that are received are those of the node from then on. -/
theorem call_attach_of_last? {assembly : Assembly} {node : Node}
    (last : assembly.last? = some node) (choices : List Choice) :
    assembly.call (.attach choices) =
      (assembly.withNodes (assembly.nodes.dropLast ++ [{ node with choices }])
        (length_of_last? last _), .received (some { node with choices })) := by
  rw [call, attach?_of_last? last]
  rfl

/-- The assembly after calls in order. -/
def after (assembly : Assembly) (calls : List Call) : Assembly :=
  calls.foldl (fun reached next => (reached.call next).1) assembly

theorem after_concat (assembly : Assembly) (calls : List Call) (next : Call) :
    assembly.after (calls ++ [next]) = ((assembly.after calls).call next).1 := by
  rw [after, List.foldl_append]
  rfl

/-! ## What the calls say -/

/-- The node that a call closes. -/
def Call.node? : Call → Option Node
  | .close node => some node
  | .attach _ => none

/-- The nodes that calls close, stored or not, in order. -/
def closed (calls : List Call) : List Node :=
  calls.filterMap Call.node?

/-- The choices that are attached before the next node is closed, in order. -/
def offers : List Call → List (List Choice)
  | [] => []
  | .close _ :: _ => []
  | .attach choices :: rest => choices :: offers rest

/-- The nodes that calls close, stored or not, in order; each with the choices that are attached
last before the next node is closed, and with its own if there are none. -/
def described : List Call → List Node
  | [] => []
  | .close node :: rest =>
    { node with choices := (offers rest).getLast?.getD node.choices } :: described rest
  | .attach _ :: rest => described rest

theorem length_described (calls : List Call) :
    (described calls).length = (closed calls).length := by
  induction calls with
  | nil => rfl
  | cons first rest ih =>
    cases first with
    | close node => exact congrArg (· + 1) ih
    | attach choices => exact ih

theorem closed_concat_close (calls : List Call) (node : Node) :
    closed (calls ++ [.close node]) = closed calls ++ [node] := by
  simp [closed, Call.node?]

theorem closed_concat_attach (calls : List Call) (choices : List Choice) :
    closed (calls ++ [.attach choices]) = closed calls := by
  simp [closed, Call.node?]

theorem offers_concat_close (calls : List Call) (node : Node) :
    offers (calls ++ [.close node]) = offers calls := by
  induction calls with
  | nil => rfl
  | cons first rest ih =>
    cases first with
    | close other => rfl
    | attach choices => exact congrArg (choices :: ·) ih

/-- Choices are attached to the first node only if no other is closed before. -/
theorem offers_concat_attach (calls : List Call) (choices : List Choice) :
    offers (calls ++ [.attach choices]) =
      if described calls = [] then offers calls ++ [choices] else offers calls := by
  induction calls with
  | nil => rfl
  | cons first rest ih =>
    cases first with
    | close node => simp [offers, described]
    | attach others =>
      simp only [List.cons_append, offers, described, ih]
      split <;> rename_i none_closed <;> simp [none_closed]

/-- A closed node comes behind the others, as it is. -/
theorem described_concat_close (calls : List Call) (node : Node) :
    described (calls ++ [.close node]) = described calls ++ [node] := by
  induction calls with
  | nil => rfl
  | cons first rest ih =>
    cases first with
    | close other => simp only [List.cons_append, described, offers_concat_close, ih]
    | attach choices => exact ih

/-- Attached choices change the last of the nodes. -/
theorem described_concat_attach (calls : List Call) (choices : List Choice) :
    described (calls ++ [.attach choices]) =
      (described calls).dropLast ++
        ((described calls).getLast?.map fun node => { node with choices }).toList := by
  induction calls with
  | nil => rfl
  | cons first rest ih =>
    cases first with
    | attach others => exact ih
    | close node =>
      simp only [List.cons_append, described, offers_concat_attach, ih]
      cases behind : described rest with
      | nil =>
        simp
      | cons second others => simp [List.getLast?_cons]

/-! ## What the assembly holds -/

/-- An assembly of a capacity that is in keeping with the calls it was given. -/
structure Follows (capacity : Int) (calls : List Call) (assembly : Assembly) : Prop where
  capacity_eq : assembly.capacity = capacity
  nodes_eq : assembly.nodes = (described calls).take capacity.toNat
  attachable_iff : assembly.attachable = true ↔
    closed calls ≠ [] ∧ (closed calls).length ≤ capacity.toNat

namespace Follows

variable {capacity : Int} {calls : List Call} {assembly : Assembly}

theorem empty (capacity : Int) : Follows capacity [] (.empty capacity) where
  capacity_eq := rfl
  nodes_eq := List.take_nil.symm
  attachable_iff := by simp [closed]

/-- There is room for as many nodes as the capacity says, for none if it is negative. -/
theorem isFull_eq (follows : Follows capacity calls assembly) :
    assembly.isFull = decide (capacity.toNat ≤ (closed calls).length) := by
  rw [isFull, follows.capacity_eq, follows.nodes_eq, List.length_take, length_described,
    decide_eq_decide]
  omega

theorem close (follows : Follows capacity calls assembly) (node : Node) :
    Follows capacity (calls ++ [.close node]) (assembly.close node) := by
  have full_iff := follows.isFull_eq
  have length_eq := length_described calls
  cases full : assembly.isFull with
  | true =>
    rw [full, eq_comm, decide_eq_true_iff] at full_iff
    refine ⟨by simp [follows.capacity_eq], ?_, ?_⟩
    · rw [nodes_close_of_full full, follows.nodes_eq, described_concat_close,
        List.take_append_of_le_length (by omega)]
    · rw [closed_concat_close, attachable_close, full]
      simp only [Bool.not_true, Bool.false_eq_true, false_iff, List.length_append,
        List.length_singleton]
      omega
  | false =>
    rw [full, eq_comm, decide_eq_false_iff_not] at full_iff
    refine ⟨by simp [follows.capacity_eq], ?_, ?_⟩
    · rw [nodes_close_of_room full, follows.nodes_eq, described_concat_close,
        List.take_of_length_le (by omega), List.take_of_length_le (by simp; omega)]
    · rw [closed_concat_close, attachable_close, full]
      simp only [Bool.not_false, true_iff, List.length_append, List.length_singleton]
      exact ⟨by simp, by omega⟩

/-- The node that can receive choices is the last of all that were closed, unless it was refused. -/
theorem last?_eq (follows : Follows capacity calls assembly) :
    assembly.last? =
      if (closed calls).length ≤ capacity.toNat then (described calls).getLast? else none := by
  have length_eq := length_described calls
  have attachable_iff := follows.attachable_iff
  rw [last?_eq_getLast?, follows.nodes_eq]
  split
  next attachable =>
    have few := (attachable_iff.mp attachable).2
    rw [if_pos few, List.take_of_length_le (by omega)]
  next refused =>
    split
    next few =>
      have none_closed : closed calls = [] :=
        Decidable.byContradiction fun some_closed =>
          refused (attachable_iff.mpr ⟨some_closed, few⟩)
      rw [none_closed, List.length_nil] at length_eq
      rw [List.length_eq_zero_iff.mp length_eq, List.getLast?_nil]
    next => rfl

/-- The attached choices reach the node closed last, and no other. -/
theorem attach (follows : Follows capacity calls assembly) (choices : List Choice) :
    Follows capacity (calls ++ [.attach choices]) (assembly.call (.attach choices)).1 := by
  have length_eq := length_described calls
  have last_eq := follows.last?_eq
  have nodes_eq := follows.nodes_eq
  cases last : assembly.last? with
  | none =>
    have kept : (described (calls ++ [.attach choices])).take capacity.toNat =
        (described calls).take capacity.toNat := by
      rw [last, eq_comm, ite_eq_right_iff, List.getLast?_eq_none_iff] at last_eq
      rw [described_concat_attach]
      by_cases few : (closed calls).length ≤ capacity.toNat
      · rw [last_eq few]
        rfl
      · rw [List.take_append_of_le_length (by rw [List.length_dropLast]; omega),
          List.dropLast_eq_take, List.take_take, Nat.min_eq_left (by omega)]
    rw [call, attach?_eq_none_iff.mpr last]
    refine ⟨follows.capacity_eq, nodes_eq.trans kept.symm, ?_⟩
    rw [closed_concat_attach, follows.attachable_iff]
  | some node =>
    rw [last, eq_comm, Option.ite_none_right_eq_some] at last_eq
    obtain ⟨few, last_eq⟩ := last_eq
    rw [List.take_of_length_le (by omega)] at nodes_eq
    rw [call_attach_of_last? last]
    refine ⟨follows.capacity_eq, ?_, ?_⟩
    · have all : (described (calls ++ [.attach choices])).length ≤ capacity.toNat := by
        rw [length_described, closed_concat_attach]
        exact few
      rw [List.take_of_length_le all, described_concat_attach, last_eq, ← nodes_eq]
      rfl
    · rw [closed_concat_attach]
      exact follows.attachable_iff

end Follows

theorem follows_after (capacity : Int) (calls : List Call) :
    Follows capacity calls ((Assembly.empty capacity).after calls) := by
  induction calls using List.reverseRecOn with
  | nil => exact .empty capacity
  | append_singleton calls next ih =>
    rw [after_concat]
    cases next with
    | close node => exact ih.close node
    | attach choices => exact ih.attach choices

/-- What an assembly of any capacity holds and answers after any calls. It holds the first of the
closed nodes, as many as there is room for (none, if the capacity is negative), each with the
choices that were attached to it last. A closed node is stored if there is room left, counting
the refused ones. Choices go to the node closed last; if none was closed or the last one was
refused, they go nowhere and nothing changes. -/
theorem holds_after_calls (capacity : Int) (calls : List Call) :
    let assembly := (Assembly.empty capacity).after calls
    let limit := capacity.toNat
    assembly.graph.nodes = (described calls).take limit ∧
      (∀ node, (assembly.call (.close node)).2 =
        .stored (decide ((closed calls).length < limit))) ∧
      ∀ choices,
        (closed calls = [] ∨ limit < (closed calls).length →
          assembly.call (.attach choices) = (assembly, .received none)) ∧
        (closed calls ≠ [] ∧ (closed calls).length ≤ limit →
          ∃ front last, assembly.graph.nodes = front ++ [last] ∧
            (assembly.call (.attach choices)).1.graph.nodes = front ++ [{ last with choices }] ∧
            (assembly.call (.attach choices)).2 = .received (some { last with choices })) := by
  intro assembly limit
  have follows : Follows capacity calls assembly := follows_after capacity calls
  refine ⟨follows.nodes_eq, ?_, ?_⟩
  · intro node
    rw [call, follows.isFull_eq, ← decide_not]
    simp only [Nat.not_le, limit]
  · intro choices
    constructor
    · intro beyond
      have unattachable : assembly.attachable = false := by
        rw [← Bool.not_eq_true, follows.attachable_iff]
        rcases beyond with nothing | refused
        · exact fun reachable => reachable.1 nothing
        · exact fun reachable => Nat.not_lt.mpr reachable.2 refused
      rw [call, attach?_eq_none_iff.mpr (last?_eq_none_iff.mpr unattachable)]
    · intro reachable
      have attachable : assembly.attachable = true := follows.attachable_iff.mpr reachable
      rcases List.eq_nil_or_concat assembly.nodes with nothing | ⟨front, last, nodes_eq⟩
      · exact absurd nothing (nodes_ne_nil attachable)
      · rw [List.concat_eq_append] at nodes_eq
        have last_eq : assembly.last? = some last := by
          rw [last?_eq_getLast?, if_pos attachable, nodes_eq, List.getLast?_concat]
        refine ⟨front, last, nodes_eq, ?_, ?_⟩ <;> rw [call_attach_of_last? last_eq]
        simp only [graph, nodes_withNodes, nodes_eq, List.dropLast_concat]

/-- With room for one node, the first receives choices; the second is refused, and choices do not
go to the first any more. -/
theorem holds_after_calls_one_place :
    let inn : Node := ⟨"inn", none, "", [], [], by decide⟩
    let go : Choice := ⟨"Go", none⟩
    let roomy := (Assembly.empty 1).after [.close inn]
    let full := (Assembly.empty 1).after [.close inn, .attach [go], .close inn]
    (∃ front last, roomy.graph.nodes = front ++ [last] ∧
        (roomy.call (.attach [go])).1.graph.nodes = front ++ [{ last with choices := [go] }] ∧
        (roomy.call (.attach [go])).2 = .received (some { last with choices := [go] })) ∧
      full.graph.nodes = [{ inn with choices := [go] }] ∧
      (full.call (.close inn)).2 = .stored false ∧
      full.call (.attach []) = (full, .received none) := by
  intro inn go roomy full
  obtain ⟨_, _, roomy_offers⟩ := holds_after_calls 1 [.close inn]
  obtain ⟨full_nodes, full_closes, full_offers⟩ :=
    holds_after_calls 1 [.close inn, .attach [go], .close inn]
  exact ⟨(roomy_offers [go]).2 (by decide), full_nodes, full_closes inn,
    (full_offers []).1 (.inr (by decide))⟩

end Dialogue.Assembly
