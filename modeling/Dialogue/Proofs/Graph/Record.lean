import Dialogue.Graph.Format

/-!
# Stored graphs are faithful

A graph is read back from its stored form, and a value that is read as a graph is stored as
itself, apart from what makes no difference: its nodes have their members in a fixed order
and with the defaults in the place of what was missing, and the entries beside the nodes
are written anew. `filledNodes` brings the nodes of a value into this form without reading
them.
-/

namespace Dialogue

namespace Json

/-! ## Values with their defaults filled in -/

/-- A member with its value brought into another form, or with a default if it is missing. -/
def filledMember (members : List (String × Json)) (name : String) (default : Json)
    (form : Json → Json) : String × Json :=
  (name, ((lookup? name members).map form).getD default)

/-- An array with its items brought into another form. -/
def filledItems (form : Json → Json) : Json → Json
  | .arr items => .arr (items.map form)
  | value => value

/-- A command with a parameter, which may be null. -/
def filledCommand : Json → Json
  | .obj members =>
    .obj [filledMember members "name" .null id, filledMember members "parameter" .null id]
  | value => value

/-- A choice with a target, which may be null. -/
def filledChoice : Json → Json
  | .obj members =>
    .obj [filledMember members "text" .null id, filledMember members "target" .null id]
  | value => value

/-- A node with all its members: no speaker is null, no text is empty, and there are no commands
and no choices where none are given. -/
def filledNode : Json → Json
  | .obj members =>
    .obj
      [filledMember members "tag" .null id,
        filledMember members "character" .null id,
        filledMember members "text" (.str "") id,
        filledMember members "commands" (.arr []) (filledItems filledCommand),
        filledMember members "choices" (.arr []) (filledItems filledChoice)]
  | value => value

/-- The nodes of a stored graph with all their members; nothing else of the value counts. -/
def filledNodes (value : Json) : Json :=
  filledItems filledNode ((value.field? "nodes").getD .null)

/-! ## One member -/

section Members

variable {α : Type} {read? : Json → Option α} {write : α → Json} {form : Json → Json}
  {members : List (String × Json)} {name : String}

/-- What is read from a value is written as the form of that value. -/
def Restores (read? : Json → Option α) (write : α → Json) (form : Json → Json) : Prop :=
  ∀ value found, read? value = some found → write found = form value

theorem restores_text? : Restores text? .str id := by
  intro value found read
  cases value with
  | str text =>
    obtain rfl := Option.some.inj read
    rfl
  | _ => cases read

theorem restores_nullableText? : Restores nullableText? .ofText? id := by
  intro value found read
  cases value with
  | null | str text =>
    obtain rfl := Option.some.inj read
    rfl
  | _ => cases read

theorem map_write_of_mapM (restores : Restores read? write form) {items : List Json}
    {found : List α} (read : items.mapM read? = some found) :
    found.map write = items.map form := by
  induction items generalizing found with
  | nil =>
    obtain rfl := Option.some.inj read
    rfl
  | cons item items ih =>
    simp only [List.mapM_cons, Option.pure_def, Option.bind_eq_bind, Option.bind_eq_some_iff,
      Option.some.injEq] at read
    obtain ⟨first, first_eq, rest, rest_eq, rfl⟩ := read
    rw [List.map_cons, List.map_cons, restores item first first_eq, ih rest_eq]

theorem restores_items? (restores : Restores read? write form) :
    Restores (items? read?) (fun found => .arr (found.map write)) (filledItems form) := by
  intro value found read
  cases value with
  | arr items => exact congrArg Json.arr (map_write_of_mapM restores read)
  | _ => cases read

theorem filledMember_of_required? (restores : Restores read? write form) {found : α}
    {default : Json} (read : required? name read? members = some found) :
    filledMember members name default form = (name, write found) := by
  obtain ⟨value, value_eq, found_eq⟩ := Option.bind_eq_some_iff.mp read
  rw [filledMember, value_eq, restores value found found_eq]
  rfl

theorem filledMember_of_optional? (restores : Restores read? write form) {default found : α}
    (read : optional? name read? default members = some found) :
    filledMember members name (write default) form = (name, write found) := by
  rw [optional?] at read
  rw [filledMember]
  cases value_eq : lookup? name members with
  | none =>
    rw [value_eq] at read
    obtain rfl := Option.some.inj read
    rfl
  | some value =>
    rw [value_eq] at read
    rw [restores value found read]
    rfl

/-- Items that are written are read back. -/
theorem items?_map (reads : ∀ item, read? (write item) = some item) (items : List α) :
    items? read? (.arr (items.map write)) = some items := by
  induction items with
  | nil => rfl
  | cons item items ih =>
    rw [items?] at ih
    simp [items?, reads, ih]

@[simp] theorem nullableText?_ofText? (text : Option String) :
    nullableText? (.ofText? text) = some text := by
  cases text <;> rfl

end Members

end Json

open Json

/-! ## Commands, choices and nodes -/

/-- A condition that holds does not stop the reading. -/
theorem guard_of {p : Prop} [Decidable p] (holds : p) : (guard p : Option Unit) = some () :=
  if_pos holds

theorem Command.ofJson?_toJson (command : Command) :
    Command.ofJson? command.toJson = some command := by
  rw [Command.toJson, Command.ofJson?, guard_of]
  · simp [required?, optional?, text?]
  · rfl

theorem Choice.ofJson?_toJson (choice : Choice) : Choice.ofJson? choice.toJson = some choice := by
  rw [Choice.toJson, Choice.ofJson?, guard_of]
  · simp [required?, optional?, text?]
  · rfl

theorem Node.ofJson?_toJson (node : Node) : Node.ofJson? node.toJson = some node := by
  have commands := items?_map Command.ofJson?_toJson node.commands
  have choices := items?_map Choice.ofJson?_toJson node.choices
  rw [Node.toJson, Node.ofJson?, guard_of]
  · simp [required?, optional?, text?, commands, choices, Node.make?, node.tag_ne_empty]
  · rfl

/-- The stored form of what is read is the value with its defaults filled in. -/
theorem Command.restores : Restores Command.ofJson? Command.toJson filledCommand := by
  intro value command read
  cases value with
  | obj members =>
    obtain ⟨-, -, read⟩ := Option.bind_eq_some_iff.mp read
    simp only [Option.bind_eq_bind, Option.bind_eq_some_iff] at read
    obtain ⟨name, name_eq, parameter, parameter_eq, made⟩ := read
    obtain rfl := Option.some.inj made
    have filled_name : filledMember members "name" .null id = ("name", .str name) :=
      filledMember_of_required? restores_text? name_eq
    have filled_parameter : filledMember members "parameter" .null id =
        ("parameter", .ofText? parameter) :=
      filledMember_of_optional? restores_nullableText? parameter_eq
    rw [filledCommand, filled_name, filled_parameter, Command.toJson]
  | _ => cases read

theorem Choice.restores : Restores Choice.ofJson? Choice.toJson filledChoice := by
  intro value choice read
  cases value with
  | obj members =>
    obtain ⟨-, -, read⟩ := Option.bind_eq_some_iff.mp read
    simp only [Option.bind_eq_bind, Option.bind_eq_some_iff] at read
    obtain ⟨text, text_eq, target, target_eq, made⟩ := read
    obtain rfl := Option.some.inj made
    have filled_text : filledMember members "text" .null id = ("text", .str text) :=
      filledMember_of_required? restores_text? text_eq
    have filled_target : filledMember members "target" .null id = ("target", .ofText? target) :=
      filledMember_of_optional? restores_nullableText? target_eq
    rw [filledChoice, filled_text, filled_target, Choice.toJson]
  | _ => cases read

theorem Node.restores : Restores Node.ofJson? Node.toJson filledNode := by
  intro value node read
  cases value with
  | obj members =>
    obtain ⟨-, -, read⟩ := Option.bind_eq_some_iff.mp read
    simp only [Option.bind_eq_bind, Option.bind_eq_some_iff] at read
    obtain ⟨tag, tag_eq, speaker, speaker_eq, text, text_eq, commands, commands_eq, choices,
      choices_eq, made⟩ := read
    rw [Node.make?] at made
    split at made
    next usable =>
      obtain rfl := Option.some.inj made
      have filled_tag : filledMember members "tag" .null id = ("tag", .str tag) :=
        filledMember_of_required? restores_text? tag_eq
      have filled_speaker : filledMember members "character" .null id =
          ("character", .ofText? speaker) :=
        filledMember_of_optional? restores_nullableText? speaker_eq
      have filled_text : filledMember members "text" (.str "") id = ("text", .str text) :=
        filledMember_of_optional? restores_text? text_eq
      have filled_commands :
          filledMember members "commands" (.arr []) (filledItems filledCommand) =
            ("commands", .arr (commands.map Command.toJson)) :=
        filledMember_of_optional? (restores_items? Command.restores) commands_eq
      have filled_choices : filledMember members "choices" (.arr []) (filledItems filledChoice) =
          ("choices", .arr (choices.map Choice.toJson)) :=
        filledMember_of_optional? (restores_items? Choice.restores) choices_eq
      rw [filledNode, filled_tag, filled_speaker, filled_text, filled_commands, filled_choices,
        Node.toJson]
    next => cases made
  | _ => cases read

/-! ## Graphs -/

namespace Graph

theorem ofRecord?_toRecord (graph : Graph) (id : Option String) :
    ofRecord? (graph.toRecord id) = some graph := by
  have nodes := items?_map Node.ofJson?_toJson graph.nodes
  simp [ofRecord?, toRecord, toJson, required?, optional?, nodes]

theorem ofRecord_eq_ok_iff {source : Option String} {value : Json} {graph : Graph} :
    ofRecord source value = .ok graph ↔ ofRecord? value = some graph := by
  rw [ofRecord]
  cases ofRecord? value <;> simp

/-- The stored form of what is read has the nodes of the value with their defaults filled in. -/
theorem toJson_of_ofRecord? {value : Json} {graph : Graph} (read : ofRecord? value = some graph) :
    graph.toJson = filledNodes value := by
  cases value with
  | obj members =>
    simp only [ofRecord?, Option.bind_eq_bind, Option.bind_eq_some_iff] at read
    obtain ⟨-, -, -, -, nodes, nodes_eq, made⟩ := read
    obtain rfl := Option.some.inj made
    obtain ⟨items, items_eq, read⟩ := Option.bind_eq_some_iff.mp nodes_eq
    have restored := restores_items? Node.restores items nodes read
    rw [filledNodes, field?, items_eq]
    exact restored
  | _ => cases read

/-- Graphs with the same stored nodes are the same. -/
theorem toJson_injective : Function.Injective toJson := by
  intro graph other same
  have first := items?_map Node.ofJson?_toJson graph.nodes
  have second := items?_map Node.ofJson?_toJson other.nodes
  rw [← toJson] at first second
  rw [same, second, Option.some.injEq] at first
  cases graph
  cases other
  exact congrArg Graph.mk first.symm

end Graph

/-! ## No complaints -/

namespace Check

theorem nullableText_ofText? (text : Option String) : nullableText (.ofText? text) = [] := by
  cases text <;> rfl

theorem listOf_map {α : Type} {item : Check} {write : α → Json}
    (passes : ∀ found, item (write found) = []) (found : List α) :
    listOf item (.arr (found.map write)) = [] := by
  rw [listOf, List.flatMap_eq_nil_iff]
  intro entry member
  obtain ⟨value, -, value_eq⟩ := List.mem_map.mp (List.fst_mem_of_mem_zipIdx member)
  rw [← value_eq, passes, List.map_nil]

theorem command_toJson (stored : Command) : command stored.toJson = [] := by
  simp [command, Command.toJson, object, extraMembers, text, nullableText_ofText?]

theorem choice_toJson (stored : Choice) : choice stored.toJson = [] := by
  simp [choice, Choice.toJson, object, extraMembers, text, nullableText_ofText?]

theorem node_toJson (stored : Node) : node stored.toJson = [] := by
  have commands := listOf_map command_toJson stored.commands
  have choices := listOf_map choice_toJson stored.choices
  simp [node, Node.toJson, object, extraMembers, text, nonEmptyText, nullableText_ofText?,
    stored.tag_ne_empty, commands, choices]

/-- There is nothing to complain about in a stored graph. -/
theorem graph_toRecord (stored : Graph) (id : Option String) : graph (stored.toRecord id) = [] := by
  have nodes := listOf_map node_toJson stored.nodes
  simp [graph, Graph.toRecord, Graph.toJson, object, nullableText_ofText?, nodes]

end Check

/-! ## Both ways -/

/-- The stored form is faithful. Every graph passes the checks of its form and is read back from
it, under whatever identifier. The stored form of a graph that is read from a value has the
nodes of that value in order with their defaults filled in, and the tag of the first node. So
two values are read as the same graph if and only if their nodes are the same with their
defaults filled in, whatever else they have. -/
theorem record_faithful :
    (∀ (graph : Graph) (id source : Option String),
      Check.graph (graph.toRecord id) = [] ∧
        Graph.ofRecord source (graph.toRecord id) = .ok graph) ∧
    (∀ (source : Option String) (value : Json) (graph : Graph),
      Graph.ofRecord source value = .ok graph → ∀ id,
        Graph.ofRecord source (graph.toRecord id) = .ok graph ∧
          graph.toRecord id =
            .obj [("id", .ofText? id), ("start", .ofText? graph.tags.head?),
              ("nodes", filledNodes value)]) ∧
    ∀ (source source' : Option String) (value value' : Json) (graph graph' : Graph),
      Graph.ofRecord source value = .ok graph → Graph.ofRecord source' value' = .ok graph' →
        (graph = graph' ↔ filledNodes value = filledNodes value') := by
  have reads (graph : Graph) (id source : Option String) :
      Graph.ofRecord source (graph.toRecord id) = .ok graph :=
    Graph.ofRecord_eq_ok_iff.mpr (graph.ofRecord?_toRecord id)
  refine ⟨?_, ?_, ?_⟩
  · intro graph id source
    exact ⟨Check.graph_toRecord graph id, reads graph id source⟩
  · intro source value graph read id
    have nodes := Graph.toJson_of_ofRecord? (Graph.ofRecord_eq_ok_iff.mp read)
    refine ⟨reads graph id source, ?_⟩
    rw [Graph.toRecord, nodes, Graph.tags, List.head?_map, Graph.start?]
  · intro source source' value value' graph graph' read read'
    have nodes := Graph.toJson_of_ofRecord? (Graph.ofRecord_eq_ok_iff.mp read)
    have nodes' := Graph.toJson_of_ofRecord? (Graph.ofRecord_eq_ok_iff.mp read')
    rw [← nodes, ← nodes']
    exact Graph.toJson_injective.eq_iff.symm

/-- One node, which leads to nowhere. -/
def innGraph : Graph :=
  ⟨[⟨"inn", none, "", [], [⟨"Go", none⟩], by decide⟩]⟩

/-- Its stored form with most of the members missing, the others in another order, and more. -/
def sparseInn : Json :=
  .obj
    [("nodes", .arr [.obj [("choices", .arr [.obj [("text", .str "Go")]]), ("tag", .str "inn")]]),
      ("version", .int 2)]

/-- Its stored form with all members, under an empty identifier. -/
def fullInn : Json :=
  .obj [("id", .str ""), ("start", .str "inn"),
    ("nodes", .arr [.obj [("tag", .str "inn"), ("character", .null), ("text", .str ""),
      ("commands", .arr []), ("choices", .arr [.obj [("text", .str "Go"), ("target", .null)]])]])]

theorem record_faithful_inn :
    Graph.ofRecord none sparseInn = .ok innGraph ∧
      Graph.ofRecord (some "inn.json") fullInn = .ok innGraph ∧
      innGraph.toRecord (some "") = fullInn ∧ filledNodes sparseInn = filledNodes fullInn := by
  have sparse : Graph.ofRecord none sparseInn = .ok innGraph := rfl
  have full : Graph.ofRecord (some "inn.json") fullInn = .ok innGraph := rfl
  have stored := (record_faithful.2.1 none sparseInn innGraph sparse (some "")).2
  have agree := (record_faithful.2.2 none (some "inn.json") _ _ _ _ sparse full).mp rfl
  exact ⟨sparse, full, stored, agree⟩

end Dialogue
