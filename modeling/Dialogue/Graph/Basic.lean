import Dialogue.Number.Whole

/-!
# Dialogue graphs

What a script compiles to: nodes in the order in which they were closed, each with its
speaker, its text, the commands to run when it plays and the choices that lead on from
it. A choice names its target by tag only; `get?` resolves a tag and `dangling` lists
the choices whose target resolves to nothing.

Here and everywhere else a text holds Unicode characters, and half of a surrogate pair by
itself is none. So every text can be written to a file, and every text but the empty one can
be a tag.
-/

namespace Dialogue

/-- A directive that runs when its node is reached. -/
structure Command where
  /-- The name, without the sign that introduces it. -/
  name : String
  /-- The rest of the line, if there is one. -/
  parameter : Option String
  deriving DecidableEq, Repr

/-- A branch offered at a node. -/
structure Choice where
  text : String
  /-- The tag of the node that the choice leads to. -/
  target : Option String
  deriving DecidableEq, Repr

/-- A unit of dialogue. Its tag is never empty, since an empty tag names nothing. -/
@[ext] structure Node where
  tag : String
  speaker : Option String
  text : String
  commands : List Command
  choices : List Choice
  tag_ne_empty : tag ≠ ""
  deriving Repr

/-- Nodes are the same if all that they say is. -/
instance : DecidableEq Node := fun first second =>
  decidable_of_iff
    (first.tag = second.tag ∧ first.speaker = second.speaker ∧ first.text = second.text ∧
      first.commands = second.commands ∧ first.choices = second.choices)
    Node.ext_iff.symm

namespace Node

/-- The node with other choices. -/
def offering (node : Node) (choices : List Choice) : Node :=
  { node with choices }

/-- The node without its choices. -/
def bare (node : Node) : Node :=
  { node with choices := [] }

@[simp] theorem bare_offering (node : Node) (choices : List Choice) :
    (node.offering choices).bare = node.bare := rfl

/-- Whether the node offers anything to choose. -/
def isBranching (node : Node) : Bool :=
  !node.choices.isEmpty

@[simp] theorem isBranching_eq_true {node : Node} :
    node.isBranching = true ↔ node.choices ≠ [] := by
  simp [isBranching]

end Node

/-- Compiled dialogue: nodes in the order in which they were closed. -/
structure Graph where
  nodes : List Node
  deriving DecidableEq, Repr

namespace Graph

/-- The node at which the dialogue begins. -/
def start? (graph : Graph) : Option Node :=
  graph.nodes.head?

/-- The tags of the nodes, with repetitions. -/
def tags (graph : Graph) : List String :=
  graph.nodes.map (·.tag)

/-- The node that a tag names: of several nodes with the tag, the last. -/
def get? (graph : Graph) (tag : String) : Option Node :=
  graph.nodes.reverse.find? fun node => node.tag = tag

/-- The node at a position, counted from the end if negative. -/
def at? (graph : Graph) (position : Int) : Option Node :=
  if 0 ≤ position then graph.nodes[position.toNat]?
  else
    let fromFront := (graph.nodes.length : Int) + position
    if 0 ≤ fromFront then graph.nodes[fromFront.toNat]? else none

/-- Why there is no node at a position. -/
inductive PositionFault where
  /-- The graph has fewer nodes. -/
  | outOfRange
  /-- No graph could have so many: positions are words. -/
  | noWord
  deriving DecidableEq, Repr

/-- A missing node as messages give it. -/
def PositionFault.message : PositionFault → String
  | .outOfRange => "tuple index out of range"
  | .noWord => "cannot fit 'int' into an index-sized integer"

/-- The node at a position, or why there is none. -/
def node (graph : Graph) (position : Int) : Except PositionFault Node :=
  if Number.fitsWord position then
    match graph.at? position with
    | some node => .ok node
    | none => .error .outOfRange
  else .error .noWord

/-- A position is answered with the node that is there, as long as it is a word. -/
theorem node_eq_ok_iff {graph : Graph} {position : Int} {node : Node} :
    graph.node position = .ok node ↔
      Number.fitsWord position = true ∧ graph.at? position = some node := by
  unfold Graph.node
  split
  · next fits => cases graph.at? position <;> simp [fits]
  · next wide => simp [wide]

/-- A tag names a node if and only if some node has it. -/
theorem get?_isSome {graph : Graph} {tag : String} :
    (graph.get? tag).isSome = true ↔ tag ∈ graph.tags := by
  simp [get?, tags]

/-- The node that a tag names has the tag. -/
theorem tag_of_get? {graph : Graph} {tag : String} {node : Node}
    (found : graph.get? tag = some node) : node.tag = tag := by
  have := List.find?_some found
  simpa using this

/-- Whether a target names no node of the graph. No target is no name. -/
def dangles (graph : Graph) : Option String → Bool
  | none => true
  | some target => !graph.tags.contains target

/-- The choices whose target names no node, as pairs of a node's tag and the target, in the
order of the nodes and of their choices. -/
def dangling (graph : Graph) : List (String × Option String) :=
  graph.nodes.flatMap fun node =>
    (node.choices.filter fun choice => graph.dangles choice.target).map fun choice =>
      (node.tag, choice.target)

end Graph

end Dialogue
