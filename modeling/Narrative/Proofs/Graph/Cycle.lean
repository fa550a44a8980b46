import Mathlib.Data.List.Chain
import Mathlib.Data.List.Nodup
import Mathlib.Data.List.Perm.Subperm
import Narrative.Graph

/-!
# Cycles over connected ports

A port that is connected leads from one node of a graph to another. A walk that never comes to a
node twice passes at most as many nodes as there are, and one that comes back to a node has gone
round a cycle. A walk that cannot go round a cycle is therefore short.
-/

namespace Narrative.Graph

variable {κ : Type}

/-- One node leads to another if some port does. -/
def Leads (graph : Graph κ) (source target : NodeId) : Prop :=
  ∃ port, graph.connected? source port = some target

/-- A round of nodes, each of which leads to the next one and the last of which leads to the
first. -/
def Cycle (graph : Graph κ) (first : NodeId) (rest : List NodeId) : Prop :=
  List.IsChain graph.Leads (first :: (rest ++ [first]))

/-- One node reaches another if it leads there over any number of others. -/
abbrev Reaches (graph : Graph κ) : NodeId → NodeId → Prop := Relation.ReflTransGen graph.Leads

/-- A way over connected ports reaches its last node. -/
theorem reaches_of_isChain {graph : Graph κ} {source : NodeId} {way : List NodeId}
    (chain : List.IsChain graph.Leads (source :: way)) :
    graph.Reaches source (way.getLastD source) :=
  List.relationReflTransGen_of_exists_isChain_cons way chain (List.getLast_eq_getLastD _)

/-- A connected port leads to a node of the graph. -/
theorem connected?_lt {graph : Graph κ} {source target : NodeId} {port : String}
    (connected : graph.connected? source port = some target) : target < graph.size := by
  have inside := (Option.filter_eq_some_iff.1 connected).2
  exact of_decide_eq_true inside

/-- Whatever a node leads to is a node of the graph. -/
theorem Leads.lt {graph : Graph κ} {source target : NodeId} (leads : graph.Leads source target) :
    target < graph.size := by
  obtain ⟨port, connected⟩ := leads
  exact connected?_lt connected

/-- What a node leads to is the target of one of its ports. -/
theorem Leads.target {graph : Graph κ} {source target : NodeId}
    (leads : graph.Leads source target) :
    ∃ node ∈ graph.node? source, ∃ port ∈ node.ports, port.target = some target := by
  obtain ⟨name, connected⟩ := leads
  obtain ⟨points, -⟩ := Option.filter_eq_some_iff.1 connected
  obtain ⟨node, found, aims⟩ := Option.bind_eq_some_iff.1 points
  obtain ⟨port, known, target⟩ := Option.bind_eq_some_iff.1 aims
  exact ⟨node, found, port, List.mem_of_find?_eq_some known, target⟩

/-- Whatever leads to a node is a node of the graph. -/
theorem Leads.source_lt {graph : Graph κ} {source target : NodeId}
    (leads : graph.Leads source target) : source < graph.size := by
  obtain ⟨node, found, -⟩ := leads.target
  exact (List.getElem?_eq_some_iff.1 found).1

/-- Somewhere a cycle leads to a node that does not stand behind the one it comes from. -/
theorem Cycle.descends {graph : Graph κ} {first : NodeId} {rest : List NodeId}
    (cycle : graph.Cycle first rest) :
    ∃ source ∈ first :: rest, ∃ target, graph.Leads source target ∧ target ≤ source := by
  by_contra ascending
  have increasing : List.IsChain (· < ·) (first :: (rest ++ [first])) := by
    refine cycle.imp_of_mem_imp fun source target member _ leads => ?_
    have within : source ∈ first :: rest := by simpa [or_comm] using member
    exact Nat.lt_of_not_le fun descends => ascending ⟨source, within, target, leads, descends⟩
  have before := List.rel_of_pairwise_cons increasing.pairwise
    (List.mem_append_right rest List.mem_cons_self)
  exact Nat.lt_irrefl first before

/-- A port is connected if its first occurrence points at a node of the graph. -/
theorem connected?_of_connection? {graph : Graph κ} {source target : NodeId} {node : Node κ}
    {port : String} (found : graph.node? source = some node)
    (points : node.connection? port = some target) (inside : target < graph.size) :
    graph.connected? source port = some target := by
  unfold connected?
  rw [found, Option.bind_some, points]
  exact Option.filter_eq_some_iff.2 ⟨rfl, decide_eq_true inside⟩

/-- Inside a graph there is a node. -/
theorem kind?_of_lt {graph : Graph κ} {id : NodeId} (inside : id < graph.size) :
    ∃ kind, graph.kind? id = some kind := by
  refine ⟨graph.nodes[id].kind, ?_⟩
  unfold kind? node?
  rw [List.getElem?_eq_getElem inside]
  rfl

/-- A graph is started by one of its nodes. -/
theorem start_lt [NodeKind κ] {graph : Graph κ} {id : NodeId} (begins : graph.start = .ok id) :
    id < graph.size := by
  unfold start at begins
  split at begins
  · next found =>
    obtain rfl := Except.ok.inj begins
    obtain ⟨inside, -⟩ := List.findIdx?_eq_some_iff_getElem.1 found
    exact inside
  · cases begins

/-- A trail is a way through the graph that has not come to a node twice. -/
structure Trail (graph : Graph κ) (passed : List NodeId) (node : NodeId) : Prop where
  /-- Each node leads to the next one. -/
  chain : List.IsChain graph.Leads (passed ++ [node])
  /-- No node was passed twice. -/
  nodup : passed.Nodup
  /-- The nodes passed are nodes of the graph. -/
  inside : ∀ id ∈ passed, id < graph.size

namespace Trail

variable {graph : Graph κ} {passed : List NodeId} {node next : NodeId}

/-- A trail starts anywhere. -/
theorem nil (graph : Graph κ) (node : NodeId) : graph.Trail [] node :=
  ⟨List.isChain_singleton node, List.nodup_nil, nofun⟩

/-- A trail passes at most as many nodes as there are. -/
theorem length_le (trail : graph.Trail passed node) : passed.length ≤ graph.size := by
  have subset : passed ⊆ List.range graph.size := fun id member =>
    List.mem_range.2 (trail.inside id member)
  have shorter := (trail.nodup.subperm subset).length_le
  rwa [List.length_range] at shorter

/-- A trail that comes back to a node has gone round a cycle. -/
theorem cycle (trail : graph.Trail passed node) (back : node ∈ passed) :
    ∃ rest, graph.Cycle node rest ∧ ∀ id ∈ node :: rest, id ∈ passed := by
  obtain ⟨before, rest, rfl⟩ := List.append_of_mem back
  refine ⟨rest, ?_, fun id member => List.mem_append_right before member⟩
  have chain := trail.chain
  rw [List.append_assoc] at chain
  exact (List.isChain_split.1 chain).2

/-- A trail over nodes of one sort has not come back to a node, if no cycle is of that sort. -/
theorem fresh (sort : NodeId → Prop)
    (leaves : ∀ first rest, graph.Cycle first rest → ∃ id ∈ first :: rest, ¬sort id)
    (trail : graph.Trail passed node) (along : ∀ id ∈ passed, sort id) : node ∉ passed := by
  intro back
  obtain ⟨rest, cycle, within⟩ := trail.cycle back
  obtain ⟨id, member, other⟩ := leaves node rest cycle
  exact other (along id (within id member))

/-- A trail to a node that it has not passed leaves room for that node. -/
theorem length_lt (trail : graph.Trail passed node) (fresh : node ∉ passed)
    (inside : node < graph.size) : passed.length < graph.size := by
  have subset : node :: passed ⊆ List.range graph.size := by
    intro id member
    obtain rfl | earlier := List.mem_cons.1 member
    · exact List.mem_range.2 inside
    · exact List.mem_range.2 (trail.inside id earlier)
  have shorter := ((List.nodup_cons.2 ⟨fresh, trail.nodup⟩).subperm subset).length_le
  rwa [List.length_range] at shorter

/-- A trail goes on over a connected port from a node that it has not passed. -/
theorem step (trail : graph.Trail passed node) (fresh : node ∉ passed)
    (inside : node < graph.size) (leads : graph.Leads node next) :
    graph.Trail (passed ++ [node]) next where
  chain := by
    rw [List.append_assoc]
    exact List.isChain_split.2 ⟨trail.chain, List.isChain_pair.2 leads⟩
  nodup := by
    rw [List.nodup_append]
    refine ⟨trail.nodup, List.nodup_singleton node, fun id member other same => ?_⟩
    rintro rfl
    exact fresh (List.mem_singleton.1 same ▸ member)
  inside id member := by
    obtain earlier | last := List.mem_append.1 member
    · exact trail.inside id earlier
    · rw [List.mem_singleton.1 last]
      exact inside

end Trail

end Narrative.Graph
