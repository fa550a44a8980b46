import Narrative.Dialog.Graph

/-!
# Graphs as they are wired

The wiring of a graph is a finite map: a node and the name of a port are looked up, and what is
found is where the port points. To connect a port changes this map at one entry, whatever ports the
nodes have, even where a decoded node has several of one name. A graph that is built up from nothing
has no such nodes, and none of its ports points anywhere but at a node.
-/

namespace Narrative

namespace Node

variable {name other : String} {target : NodeId}

/-- A port that is wired is the first one of its name. -/
theorem find?_wire_self (name : String) (target : NodeId) (ports : List Port) :
    (wire name target ports).find? (·.name == name) = some ⟨name, some target⟩ := by
  induction ports with
  | nil => exact List.find?_cons_of_pos (beq_self_eq_true name)
  | cons port rest ih =>
    unfold wire
    split
    · next same =>
      subst same
      exact List.find?_cons_of_pos (beq_self_eq_true port.name)
    · next differs =>
      rw [List.find?_cons_of_neg (by simpa using differs)]
      exact ih

/-- Under another name the same port is found as before. -/
theorem find?_wire_of_ne (distinct : other ≠ name) (target : NodeId) (ports : List Port) :
    (wire name target ports).find? (·.name == other) = ports.find? (·.name == other) := by
  induction ports with
  | nil => exact List.find?_cons_of_neg (mt eq_of_beq distinct.symm)
  | cons port rest ih =>
    unfold wire
    split
    · next same =>
      have passed : ¬(port.name == other) = true :=
        fun found => distinct ((eq_of_beq found).symm.trans same)
      rw [List.find?_cons_of_neg (by exact passed), List.find?_cons_of_neg (by exact passed)]
    · rw [List.find?_cons, List.find?_cons, ih]

/-- A port of a new name comes last; otherwise the names stay as they are. -/
theorem names_wire (name : String) (target : NodeId) (ports : List Port) :
    (wire name target ports).map Port.name =
      if name ∈ ports.map Port.name then ports.map Port.name
      else ports.map Port.name ++ [name] := by
  induction ports with
  | nil => rfl
  | cons port rest ih =>
    unfold wire
    split
    · next same =>
      rw [if_pos (same ▸ List.mem_cons_self)]
      rfl
    · next differs =>
      have later : name ∈ (port :: rest).map Port.name ↔ name ∈ rest.map Port.name :=
        List.mem_cons.trans (or_iff_right (Ne.symm differs))
      rw [List.map_cons, ih]
      simp only [later]
      split <;> rfl

/-- Names that do not repeat do not repeat after a port was wired. -/
theorem nodup_names_wire {ports : List Port} (distinct : (ports.map Port.name).Nodup)
    (name : String) (target : NodeId) : ((wire name target ports).map Port.name).Nodup := by
  rw [names_wire]
  split
  · exact distinct
  · next new =>
    refine List.nodup_append.2 ⟨distinct, List.pairwise_singleton .., ?_⟩
    intro first there last here
    obtain rfl := List.mem_singleton.1 here
    exact fun same => new (same ▸ there)

/-- A port of a wired node points at the target, or is one of those before. -/
theorem mem_wire {port : Port} {ports : List Port} (member : port ∈ wire name target ports) :
    port.target = some target ∨ port ∈ ports := by
  induction ports with
  | nil =>
    obtain rfl := List.mem_singleton.1 member
    exact .inl rfl
  | cons first rest ih =>
    unfold wire at member
    split at member
    · obtain rfl | later := List.mem_cons.1 member
      · exact .inl rfl
      · exact .inr (List.mem_cons_of_mem first later)
    · obtain rfl | later := List.mem_cons.1 member
      · exact .inr List.mem_cons_self
      · exact (ih later).imp id (List.mem_cons_of_mem first)

end Node

/-- A step of building a graph. -/
inductive Graph.Edit (κ : Type) where
  /-- Add a node. -/
  | addNode (kind : κ)
  /-- Connect a port of one node to another. -/
  | connect (source : NodeId) (port : String) (target : NodeId)

namespace Graph

variable {κ : Type} {graph wired : Graph κ} {source target id : NodeId} {port : String}

/-- The first port of a name at a node. -/
def port? (graph : Graph κ) (id : NodeId) (name : String) : Option Port :=
  (graph.node? id).bind (·.port? name)

/-- A port is connected if it points at a node of the graph. -/
theorem connected?_eq (graph : Graph κ) (id : NodeId) (name : String) :
    graph.connected? id name =
      ((graph.port? id name).bind Port.target).filter (· < graph.size) := by
  unfold connected? port? Node.connection?
  rw [Option.bind_assoc]

/-- What connecting a port comes to: both nodes are there, and the first one is wired. -/
theorem connect_ok (connects : graph.connect source port target = .ok wired) :
    target < graph.size ∧ ∃ node, graph.node? source = some node ∧
      wired = ⟨graph.name,
        graph.nodes.set source ⟨node.kind, Node.wire port target node.ports⟩⟩ := by
  unfold connect at connects
  split at connects
  · cases connects
  · next inside =>
    split at connects
    · cases connects
    · next node found => exact ⟨Nat.lt_of_not_le inside, node, found, (Except.ok.inj connects).symm⟩

/-- A port can be connected if both nodes are there. -/
theorem exists_connect_iff : (∃ wired, graph.connect source port target = .ok wired) ↔
    source < graph.size ∧ target < graph.size := by
  constructor
  · rintro ⟨wired, connects⟩
    obtain ⟨inside, node, found, -⟩ := connect_ok connects
    exact ⟨(List.getElem?_eq_some_iff.1 found).1, inside⟩
  · rintro ⟨present, inside⟩
    unfold connect
    rw [if_neg (Nat.not_le_of_lt inside), node?, List.getElem?_eq_getElem present]
    exact ⟨_, rfl⟩

/-- A port that cannot be connected is refused for a node that is missing: for the one that it would
lead to before the one that it is on. -/
theorem connect_error {error : GraphError}
    (refused : graph.connect source port target = .error error) :
    error = .unknownNode graph.name (if target < graph.size then source else target) := by
  unfold connect at refused
  split at refused
  · next outside =>
    rw [if_neg (Nat.not_lt_of_le outside)]
    exact (Except.error.inj refused).symm
  · next inside =>
    rw [if_pos (Nat.lt_of_not_le inside)]
    split at refused
    · exact (Except.error.inj refused).symm
    · cases refused

/-- Connecting a port changes no payload. -/
theorem kinds_connect (connects : graph.connect source port target = .ok wired) :
    wired.nodes.map Node.kind = graph.nodes.map Node.kind := by
  obtain ⟨-, node, found, rfl⟩ := connect_ok connects
  have same : (graph.nodes.map Node.kind)[source]? = some node.kind := by
    rw [List.getElem?_map, show graph.nodes[source]? = some node from found]
    rfl
  obtain ⟨inside, here⟩ := List.getElem?_eq_some_iff.1 same
  rw [List.map_set, ← here, List.set_getElem_self]

/-- Graphs with the same payloads have the same size. -/
theorem size_of_kinds (same : wired.nodes.map Node.kind = graph.nodes.map Node.kind) :
    wired.size = graph.size := by
  have lengths := congrArg List.length same
  rwa [List.length_map, List.length_map] at lengths

/-- Graphs with the same payloads have the same one at each node. -/
theorem kind?_of_kinds (same : wired.nodes.map Node.kind = graph.nodes.map Node.kind)
    (id : NodeId) : wired.kind? id = graph.kind? id := by
  have payloads := congrArg (fun kinds => kinds[id]?) same
  rwa [List.getElem?_map, List.getElem?_map] at payloads

/-- Graphs with the same payloads start at the same node. -/
theorem start?_of_kinds [NodeKind κ]
    (same : wired.nodes.map Node.kind = graph.nodes.map Node.kind) :
    wired.start? = graph.start? := by
  have starts := congrArg (List.findIdx? NodeKind.isStart) same
  rwa [List.findIdx?_map, List.findIdx?_map] at starts

/-- The port that was connected points at its target. -/
theorem port?_connect_self (connects : graph.connect source port target = .ok wired) :
    wired.port? source port = some ⟨port, some target⟩ := by
  obtain ⟨-, node, found, rfl⟩ := connect_ok connects
  have inside := (List.getElem?_eq_some_iff.1 found).1
  unfold port? node?
  rw [List.getElem?_set_self inside]
  exact Node.find?_wire_self port target node.ports

/-- Every other port is found as before. -/
theorem port?_connect_of_ne (connects : graph.connect source port target = .ok wired)
    {name : String} (distinct : (id, name) ≠ (source, port)) :
    wired.port? id name = graph.port? id name := by
  obtain ⟨-, node, found, rfl⟩ := connect_ok connects
  have inside := (List.getElem?_eq_some_iff.1 found).1
  unfold port? node?
  by_cases here : source = id
  · subst here
    rw [List.getElem?_set_self inside, show graph.nodes[source]? = some node from found]
    exact Node.find?_wire_of_ne (fun same => distinct (congrArg _ same)) target node.ports
  · rw [List.getElem?_set_ne here]

/-- The graph after a step; it stays as it is where a port is refused. -/
def edit (graph : Graph κ) : Edit κ → Graph κ
  | .addNode kind => (graph.addNode kind).2
  | .connect source port target =>
    match graph.connect source port target with
    | .ok wired => wired
    | .error _ => graph

/-- The graph after steps in order. -/
def build (graph : Graph κ) (edits : List (Edit κ)) : Graph κ := edits.foldl edit graph

/-- A graph without two ports of one name at a node, and without a port that leads nowhere. -/
structure Tidy (graph : Graph κ) : Prop where
  /-- The names of the ports of a node do not repeat. -/
  names : ∀ node ∈ graph.nodes, (node.ports.map Port.name).Nodup
  /-- Every port points at a node of the graph. -/
  targets : ∀ node ∈ graph.nodes, ∀ port ∈ node.ports,
    ∃ target, port.target = some target ∧ target < graph.size

namespace Tidy

/-- A node without ports keeps a graph tidy. -/
theorem addNode (tidy : graph.Tidy) (kind : κ) : (graph.addNode kind).2.Tidy := by
  have larger : graph.size ≤ (graph.addNode kind).2.size := by
    change graph.nodes.length ≤ (graph.nodes ++ [(⟨kind, []⟩ : Node κ)]).length
    rw [List.length_append]
    exact Nat.le_add_right ..
  refine ⟨fun node member => ?_, fun node member port found => ?_⟩
  · obtain known | new := List.mem_append.1 member
    · exact tidy.names node known
    · rw [List.mem_singleton.1 new]
      exact List.nodup_nil
  · obtain known | new := List.mem_append.1 member
    · obtain ⟨target, points, inside⟩ := tidy.targets node known port found
      exact ⟨target, points, Nat.lt_of_lt_of_le inside larger⟩
    · rw [List.mem_singleton.1 new] at found
      cases found

/-- A port that is connected keeps a graph tidy. -/
theorem connect (tidy : graph.Tidy) (connects : graph.connect source port target = .ok wired) :
    wired.Tidy := by
  have size : wired.size = graph.size := size_of_kinds (kinds_connect connects)
  obtain ⟨inside, changed, found, rfl⟩ := connect_ok connects
  have member : changed ∈ graph.nodes := List.mem_of_getElem? found
  refine ⟨fun node there => ?_, fun node there other held => ?_⟩
  · obtain known | rfl := List.mem_or_eq_of_mem_set there
    · exact tidy.names node known
    · exact Node.nodup_names_wire (tidy.names changed member) port target
  · rw [size]
    obtain known | rfl := List.mem_or_eq_of_mem_set there
    · exact tidy.targets node known other held
    · obtain points | before := Node.mem_wire held
      · exact ⟨target, points, inside⟩
      · exact tidy.targets changed member other before

/-- A step keeps a graph tidy. -/
theorem edit (tidy : graph.Tidy) (step : Edit κ) : (graph.edit step).Tidy := by
  cases step with
  | addNode kind => exact tidy.addNode kind
  | connect source port target =>
    unfold Graph.edit
    dsimp only
    split
    · next connects => exact tidy.connect connects
    · exact tidy

/-- Steps in order keep a graph tidy. -/
theorem build (tidy : graph.Tidy) (edits : List (Edit κ)) : (graph.build edits).Tidy := by
  induction edits generalizing graph with
  | nil => exact tidy
  | cons step rest ih => exact ih (tidy.edit step)

end Tidy

/-- A port can be connected exactly if both nodes are there. If one is missing, it is the one that
the error names, and the graph stays as it is. Otherwise the port leads to its target, and nothing
else has changed: every other port of every node is found and leads as before, and so are the
payloads, the start and the size. This holds of every graph, also if nodes have several ports of one
name. In a graph that is built up from nothing no node has, and every port points at a node. -/
theorem wiring_is_finite_map {κ : Type} [NodeKind κ] :
    (∀ (graph : Graph κ) (source : NodeId) (port : String) (target : NodeId),
      ((∃ wired, graph.connect source port target = .ok wired) ↔
        source < graph.size ∧ target < graph.size) ∧
      (∀ error, graph.connect source port target = .error error →
        error = .unknownNode graph.name (if target < graph.size then source else target) ∧
          graph.edit (.connect source port target) = graph) ∧
      ∀ wired, graph.connect source port target = .ok wired →
        graph.edit (.connect source port target) = wired ∧
        wired.connected? source port = some target ∧
        (∀ id name, (id, name) ≠ (source, port) →
          wired.port? id name = graph.port? id name ∧
            wired.connected? id name = graph.connected? id name) ∧
        (∀ id, wired.kind? id = graph.kind? id) ∧
        wired.start? = graph.start? ∧ wired.size = graph.size) ∧
    ∀ (name : String) (edits : List (Edit κ)),
      let built := (Graph.empty name).build edits
      ∀ node ∈ built.nodes, (node.ports.map Port.name).Nodup ∧
        ∀ port ∈ node.ports, ∃ target, port.target = some target ∧ target < built.size := by
  refine ⟨fun graph source port target => ⟨exists_connect_iff, fun error refused => ?_,
    fun wired connects => ?_⟩, fun name edits => ?_⟩
  · refine ⟨connect_error refused, ?_⟩
    unfold edit
    dsimp only
    rw [refused]
  · have kinds := kinds_connect connects
    have size := size_of_kinds kinds
    refine ⟨?_, ?_, fun id name distinct => ?_, kind?_of_kinds kinds, start?_of_kinds kinds, size⟩
    · unfold edit
      dsimp only
      rw [connects]
    · have inside : target < wired.size := size ▸ (connect_ok connects).1
      rw [connected?_eq, port?_connect_self connects]
      exact Option.filter_eq_some_iff.2 ⟨rfl, decide_eq_true inside⟩
    · have same := port?_connect_of_ne connects distinct
      refine ⟨same, ?_⟩
      rw [connected?_eq, connected?_eq, same, size]
  · have bare : (Graph.empty name : Graph κ).Tidy := ⟨nofun, nofun⟩
    have tidy := bare.build edits
    intro built node member
    exact ⟨tidy.names node member, tidy.targets node member⟩

/-- A start with two ports of one name, the first of which points past the last node. -/
def forked : Graph DialogNode :=
  ⟨"forked",
    [⟨.start, [⟨Port.exit, some 9⟩, ⟨Port.exit, some 1⟩, ⟨"side", some 0⟩]⟩, ⟨.finish, []⟩]⟩

/-- Connecting the first of two ports of one name makes it lead to the end, and leaves the port
beside it alone. -/
theorem wiring_is_finite_map_forked :
    forked.connected? 0 Port.exit = none ∧ ∃ wired,
      forked.connect 0 Port.exit 1 = .ok wired ∧ wired.connected? 0 Port.exit = some 1 ∧
        wired.connected? 0 "side" = some 0 ∧ wired.start? = some 0 := by
  obtain ⟨possible, -, connected⟩ := wiring_is_finite_map.1 forked 0 Port.exit 1
  obtain ⟨wired, connects⟩ := possible.2 ⟨by decide, by decide⟩
  obtain ⟨-, leads, others, -, starts, -⟩ := connected wired connects
  have side := (others 0 "side" (by decide)).2
  exact ⟨by decide, wired, connects, leads, side.trans (by decide), starts.trans (by decide)⟩

end Graph

end Narrative
