import Narrative.Format.Record

/-!
# Graphs and cursors

A graph is a list of nodes; the position of a node is its identifier. Nodes are wired by named
ports: a port leads to a node or nowhere. A graph that was decoded may have two ports of one name
on a node, of which the first counts, and ports that point past the last node, which lead nowhere.
A cursor stands on a node of a graph, or has not been started.
-/

namespace Narrative

/-- The position of a node in its graph. -/
abbrev NodeId := Nat

namespace NodeId

/-- How a node is named in a message. -/
def text (id : NodeId) : String := s!"#{id}"

end NodeId

/-- A named way out of a node. -/
structure Port where
  /-- The name. -/
  name : String
  /-- The node it points at. -/
  target : Option NodeId
  deriving DecidableEq, Repr

namespace Port

/-- The port of nodes with one way out. -/
def exit : String := "exit"

/-- The port of one option of a branch. -/
def option (index : Nat) : String := s!"options {index}"

/-- The stored form. -/
def format : Format Port :=
  Format.record
    (.field (.required "name" Format.text) <| .field (.optional "target" Format.natural) .done)
    (fun (name, target, ()) => ⟨name, target⟩)
    fun port => (port.name, port.target, ())

end Port

/-- A node: what it is and the ways out of it. -/
structure Node (κ : Type) where
  /-- What the node is. -/
  kind : κ
  /-- The ways out, in the order in which they were first wired. -/
  ports : List Port
  deriving DecidableEq

namespace Node

variable {κ : Type}

/-- The first port of a name. -/
def port? (node : Node κ) (name : String) : Option Port :=
  node.ports.find? fun port => port.name == name

/-- Where the first port of a name points. -/
def connection? (node : Node κ) (name : String) : Option NodeId :=
  (node.port? name).bind Port.target

/-- Point the first port of a name at a node, adding a port if there is none. -/
def wire (name : String) (target : NodeId) : List Port → List Port
  | [] => [⟨name, some target⟩]
  | port :: rest =>
    if port.name = name then { port with target := some target } :: rest
    else port :: wire name target rest

/-- The stored form. -/
def format (kind : Format κ) : Format (Node κ) :=
  Format.record
    (.field (.required "kind" kind) <|
      .field (.withDefault "ports" (Format.list Port.format) []) .done)
    (fun (kind, ports, ()) => ⟨kind, ports⟩)
    fun node => (node.kind, node.ports, ())

end Node

/-- What every sort of node tells about itself. -/
class NodeKind (κ : Type) where
  /-- Whether a walk starts here. -/
  isStart : κ → Bool
  /-- The name of the sort of node. -/
  label : κ → String

/-- A named graph. -/
structure Graph (κ : Type) where
  /-- The name. -/
  name : String
  /-- The nodes; a node is identified by its position. -/
  nodes : List (Node κ)
  deriving DecidableEq

/-- Why a graph cannot be walked or changed as asked. -/
inductive GraphError where
  /-- No node starts the graph. -/
  | missingStart (graph : String)
  /-- There is no graph of a name. -/
  | unknownGraph (name : String)
  /-- There is no node at a position. -/
  | unknownNode (graph : String) (node : NodeId)
  deriving DecidableEq, Repr

/-- The wording of an error. -/
def GraphError.message : GraphError → String
  | missingStart graph => s!"graph '{graph}' has no start node"
  | unknownGraph name => s!"graph '{name}' is not loaded"
  | unknownNode graph node => s!"node {node.text} does not exist in graph '{graph}'"

namespace Graph

variable {κ : Type}

/-- The graph without nodes. -/
def empty (name : String) : Graph κ := ⟨name, []⟩

/-- The number of nodes. -/
def size (graph : Graph κ) : Nat := graph.nodes.length

/-- The node at a position. -/
def node? (graph : Graph κ) (id : NodeId) : Option (Node κ) := graph.nodes[id]?

/-- What the node at a position is. -/
def kind? (graph : Graph κ) (id : NodeId) : Option κ := (graph.node? id).map Node.kind

/-- The identifiers of the nodes in order. -/
def ids (graph : Graph κ) : List NodeId := List.range graph.size

/-- Add a node without ports; its identifier is the size before. -/
def addNode (graph : Graph κ) (kind : κ) : NodeId × Graph κ :=
  (graph.size, { graph with nodes := graph.nodes ++ [⟨kind, []⟩] })

/-- Point a port of one node at another; both must exist. -/
def connect (graph : Graph κ) (source : NodeId) (port : String) (target : NodeId) :
    Except GraphError (Graph κ) :=
  if graph.size ≤ target then .error (.unknownNode graph.name target)
  else
    match graph.node? source with
    | none => .error (.unknownNode graph.name source)
    | some node =>
      .ok { graph with
        nodes := graph.nodes.set source { node with ports := Node.wire port target node.ports } }

/-- The node that a port leads to, if it points at a node of the graph. -/
def connected? (graph : Graph κ) (id : NodeId) (port : String) : Option NodeId :=
  ((graph.node? id).bind (·.connection? port)).filter (· < graph.size)

/-- The first node that starts the graph. -/
def start? [NodeKind κ] (graph : Graph κ) : Option NodeId :=
  graph.nodes.findIdx? fun node => NodeKind.isStart node.kind

/-- The node that starts the graph. -/
def start [NodeKind κ] (graph : Graph κ) : Except GraphError NodeId :=
  match graph.start? with
  | some id => .ok id
  | none => .error (.missingStart graph.name)

/-- The fields of a stored graph. -/
def layout (kind : Format κ) : Layout [String, List (Node κ)] :=
  .field (.required "name" Format.text) <|
    .field (.withDefault "nodes" (Format.list (Node.format kind)) []) .done

/-- The stored form. -/
def format (kind : Format κ) : Format (Graph κ) :=
  Format.record (layout kind) (fun (name, nodes, ()) => ⟨name, nodes⟩)
    fun graph => (graph.name, graph.nodes, ())

end Graph

/-- A place in a graph. -/
structure Cursor where
  /-- The node it stands on; none before it is started. -/
  current : Option NodeId
  deriving DecidableEq, Repr, Inhabited

namespace Cursor

variable {κ : Type}

/-- A cursor that has not been started. -/
def unstarted : Cursor := ⟨none⟩

/-- Where a port leads from the node the cursor stands on. -/
def next? (cursor : Cursor) (graph : Graph κ) (port : String) : Option NodeId :=
  cursor.current.bind fun id => graph.connected? id port

/-- The stored form. -/
def format : Format Cursor :=
  Format.record (.field (.nullable "current" Format.natural) .done)
    (fun (current, ()) => ⟨current⟩) fun cursor => (cursor.current, ())

end Cursor

end Narrative
