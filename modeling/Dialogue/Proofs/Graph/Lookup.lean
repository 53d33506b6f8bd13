import Dialogue.Graph.Basic
import Mathlib.Data.List.Induction

/-!
# Where choices lead

A choice leads to the node that its target names, and of several nodes with one tag the tag
names the last. Here is which node a tag names, and that the choices listed as dangling are
those that lead to no node: each as often as it is offered, in the order of the nodes and of
their choices.
-/

namespace Dialogue.Graph

variable {graph : Graph} {tag : String} {node : Node} {choice : Choice}

/-! ## The node that a tag names -/

/-- Looking through the nodes in order, each one with the tag takes the place of what was found
before. -/
theorem get?_concat (nodes : List Node) (node : Node) (tag : String) :
    (Graph.mk (nodes ++ [node])).get? tag =
      if node.tag = tag then some node else (Graph.mk nodes).get? tag := by
  rw [get?, List.reverse_concat, List.find?_cons]
  by_cases same : node.tag = tag
  · simp [same]
  · simp [same, get?]

/-- A tag that nodes have names the last of them. -/
theorem exists_last_of_mem_tags (member : tag ∈ graph.tags) :
    ∃ before node after, graph.nodes = before ++ node :: after ∧ node.tag = tag ∧
      (∀ later ∈ after, later.tag ≠ tag) ∧ graph.get? tag = some node := by
  obtain ⟨nodes⟩ := graph
  induction nodes using List.reverseRecOn with
  | nil => cases member
  | append_singleton nodes node ih =>
    rw [get?_concat]
    by_cases same : node.tag = tag
    · exact ⟨nodes, node, [], rfl, same, by simp, if_pos same⟩
    · have earlier : tag ∈ (Graph.mk nodes).tags := by
        simpa [tags, Ne.symm same] using member
      obtain ⟨before, found, after, split, tagged, others, names⟩ := ih earlier
      refine ⟨before, found, after ++ [node], ?_, tagged, ?_, by rw [if_neg same, names]⟩
      · calc
          nodes ++ [node] = (before ++ found :: after) ++ [node] := congrArg (· ++ [node]) split
          _ = before ++ found :: (after ++ [node]) := by simp
      · intro later inside
        rcases List.mem_append.mp inside with old | new
        · exact others later old
        · rwa [List.mem_singleton.mp new]

theorem get?_eq_none_iff : graph.get? tag = none ↔ tag ∉ graph.tags := by
  rw [← get?_isSome, Option.not_isSome_iff_eq_none]

/-! ## The choices that lead to no node -/

/-- A target dangles if it is missing or names no node. -/
theorem dangles_eq_all (graph : Graph) (target : Option String) :
    graph.dangles target = target.all fun target => (graph.get? target).isNone := by
  cases target with
  | none => rfl
  | some target =>
    rw [dangles, Option.all_some, Bool.eq_iff_iff, Option.isNone_iff_eq_none, get?_eq_none_iff]
    simp

/-- Every choice together with the node that offers it, in the order of the nodes and of their
choices. -/
def branches (graph : Graph) : List (Node × Choice) :=
  graph.nodes.flatMap fun node => node.choices.map fun choice => (node, choice)

@[simp] theorem mem_branches :
    (node, choice) ∈ graph.branches ↔ node ∈ graph.nodes ∧ choice ∈ node.choices := by
  simp [branches]

/-- The choices that dangle are picked from all the branches, one by one. -/
theorem dangling_eq_branches (graph : Graph) :
    graph.dangling =
      (graph.branches.filter fun branch =>
        branch.2.target.all fun target => (graph.get? target).isNone).map
        fun branch => (branch.1.tag, branch.2.target) := by
  simp only [dangling, branches, List.filter_flatMap, List.map_flatMap, List.filter_map,
    List.map_map, dangles_eq_all]
  rfl

/-- Nothing dangles if and only if every choice leads to a node. -/
theorem dangling_eq_nil_iff :
    graph.dangling = [] ↔ ∀ node ∈ graph.nodes, ∀ choice ∈ node.choices,
      ∃ target found, choice.target = some target ∧ graph.get? target = some found := by
  rw [dangling_eq_branches, List.map_eq_nil_iff, List.filter_eq_nil_iff]
  constructor
  · intro led node offering choice offered
    have leads := led (node, choice) (mem_branches.mpr ⟨offering, offered⟩)
    cases target_eq : choice.target with
    | none => simp [target_eq] at leads
    | some target =>
      have named : graph.get? target ≠ none := by simpa [target_eq] using leads
      obtain ⟨found, names⟩ := Option.ne_none_iff_exists'.mp named
      exact ⟨target, found, rfl, names⟩
  · rintro led ⟨node, choice⟩ member
    obtain ⟨offering, offered⟩ := mem_branches.mp member
    obtain ⟨target, found, target_eq, names⟩ := led node offering choice offered
    simp [target_eq, names]

/-- The list of dangling choices agrees with the look-up of tags. Of all choices, in order and as
often as they are offered, it has those without a target and those whose target names no node. A
tag that nodes have names the last of them, and any other tag names none. So nothing dangles if
and only if every choice has a target that names a node. -/
theorem dangling_agrees_with_lookup (graph : Graph) :
    graph.dangling =
        (graph.branches.filter fun branch =>
          branch.2.target.all fun target => (graph.get? target).isNone).map
          (fun branch => (branch.1.tag, branch.2.target)) ∧
      (∀ tag,
        (tag ∈ graph.tags → ∃ before node after, graph.nodes = before ++ node :: after ∧
          node.tag = tag ∧ (∀ later ∈ after, later.tag ≠ tag) ∧ graph.get? tag = some node) ∧
        (tag ∉ graph.tags → graph.get? tag = none)) ∧
      (graph.dangling = [] ↔ ∀ node ∈ graph.nodes, ∀ choice ∈ node.choices,
        ∃ target found, choice.target = some target ∧ graph.get? target = some found) := by
  refine ⟨dangling_eq_branches graph, fun tag => ?_, dangling_eq_nil_iff⟩
  exact ⟨exists_last_of_mem_tags, get?_eq_none_iff.mpr⟩

/-- Of two nodes with one tag the second is found, and a choice offered twice dangles twice. -/
theorem dangling_agrees_with_lookup_inns :
    let first : Node := ⟨"inn", none, "", [],
      [⟨"Stay", some "inn"⟩, ⟨"Wait", none⟩, ⟨"Go", some "road"⟩, ⟨"Go", some "road"⟩], by decide⟩
    let second : Node := ⟨"inn", none, "Late", [], [], by decide⟩
    let graph : Graph := ⟨[first, second]⟩
    graph.dangling = [("inn", none), ("inn", some "road"), ("inn", some "road")] ∧
      "inn" ∈ graph.tags ∧
      (∃ before after, graph.nodes = before ++ second :: after ∧
        (∀ later ∈ after, later.tag ≠ "inn") ∧ graph.get? "inn" = some second) ∧
      "road" ∉ graph.tags ∧ graph.get? "road" = none := by
  intro first second graph
  obtain ⟨listed, named, -⟩ := dangling_agrees_with_lookup graph
  obtain ⟨before, node, after, split, -, others, found⟩ := (named "inn").1 (by decide)
  obtain rfl : second = node := Option.some.inj (Eq.trans rfl found)
  exact ⟨listed.trans rfl, by decide, ⟨before, after, split, others, found⟩, by decide,
    (named "road").2 (by decide)⟩

end Dialogue.Graph
