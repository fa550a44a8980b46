import Narrative.Graph

/-!
# Reachable nodes

Which nodes of a graph a walk from one of them can come to, over connected ports.
-/

namespace Narrative.Graph

variable {κ : Type}

/-- The nodes that the ports of a node lead to, in the order of the ports. -/
def successors (graph : Graph κ) (id : NodeId) : List NodeId :=
  match graph.node? id with
  | none => []
  | some node => node.ports.filterMap fun port => graph.connected? id port.name

/-- Search on from the nodes in a queue, in at most some number of steps: the nodes searched
before, followed by those in the queue and those found from them, nearest first. -/
def explore (graph : Graph κ) (bound : Nat) (searched queue : List NodeId) : List NodeId :=
  match bound, queue with
  | 0, queue => searched ++ queue
  | _ + 1, [] => searched
  | bound + 1, id :: rest =>
    let known := searched ++ id :: rest
    let found := ((graph.successors id).filter fun next => !known.contains next).eraseDups
    explore graph bound (searched ++ [id]) (rest ++ found)

/-- The nodes that can be reached from one, itself included. No node is searched twice, so that
the number of nodes bounds the steps. -/
def reachable (graph : Graph κ) (start : NodeId) : List NodeId :=
  graph.explore graph.size [] [start]

end Narrative.Graph
