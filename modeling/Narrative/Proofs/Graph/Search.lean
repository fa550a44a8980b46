import Narrative.Graph.Reachable
import Narrative.Proofs.Graph.Cycle

/-!
# The search for the nodes that can be reached

The search takes one node after another out of a queue and puts the nodes in that it leads to and
that were not found before. No node is put in twice, and so the search ends after as many steps as
there are nodes. The invariant is that a node that was searched leads to nodes that were found, and
that all nodes that were found can be reached; once the queue is empty, they are all that can be.
-/

namespace Narrative.Graph

variable {κ : Type} {graph : Graph κ} {first id next : NodeId} {searched queue : List NodeId}

/-- The nodes that are found when a node is searched: those that it leads to and that are not known
yet, each once. -/
def found (graph : Graph κ) (known : List NodeId) (id : NodeId) : List NodeId :=
  ((graph.successors id).filter fun next => !known.contains next).eraseDups

/-- A search from the nodes in a queue to its end: the nodes searched before, the queue, and all
nodes searched once the queue is empty. -/
inductive Searches (graph : Graph κ) : List NodeId → List NodeId → List NodeId → Prop where
  /-- The queue is empty. -/
  | done (searched : List NodeId) : Searches graph searched [] searched
  /-- The first node of the queue is searched. -/
  | next {searched rest all : List NodeId} {id : NodeId}
      (onward : Searches graph (searched ++ [id])
        (rest ++ graph.found (searched ++ id :: rest) id) all) :
      Searches graph searched (id :: rest) all

/-- No node is left twice where repetitions are erased. -/
theorem nodup_eraseDups : (nodes : List NodeId) → nodes.eraseDups.Nodup
  | [] => List.nodup_nil
  | id :: rest => by
    rw [List.eraseDups_cons, List.nodup_cons, List.mem_eraseDups]
    exact ⟨by simp, nodup_eraseDups _⟩
termination_by nodes => nodes.length
decreasing_by exact Nat.lt_succ_of_le (List.length_filter_le ..)

/-- The ports of a node lead to its successors. -/
theorem mem_successors_iff : next ∈ graph.successors id ↔ graph.Leads id next := by
  unfold successors
  constructor
  · intro member
    split at member
    · cases member
    · obtain ⟨port, -, connected⟩ := List.mem_filterMap.1 member
      exact ⟨port.name, connected⟩
  · rintro ⟨name, connected⟩
    obtain ⟨points, -⟩ := Option.filter_eq_some_iff.1 connected
    obtain ⟨node, found, aims⟩ := Option.bind_eq_some_iff.1 points
    obtain ⟨port, known, -⟩ := Option.bind_eq_some_iff.1 aims
    have named : port.name = name := by simpa using List.find?_some known
    rw [found]
    exact List.mem_filterMap.2 ⟨port, List.mem_of_find?_eq_some known, named ▸ connected⟩

/-- What is found. -/
theorem mem_found_iff {known : List NodeId} :
    next ∈ graph.found known id ↔ graph.Leads id next ∧ next ∉ known := by
  unfold found
  rw [List.mem_eraseDups, List.mem_filter, mem_successors_iff]
  simp

/-- A search that has not gone wrong: the nodes known are nodes of the graph that can be reached,
each of them known once, and all that the nodes searched lead to is known. -/
structure Underway (graph : Graph κ) (first : NodeId) (searched queue : List NodeId) : Prop where
  /-- No node is known twice. -/
  nodup : (searched ++ queue).Nodup
  /-- Every node known is one of the graph. -/
  inside : ∀ id ∈ searched ++ queue, id < graph.size
  /-- Every node known can be reached. -/
  reached : ∀ id ∈ searched ++ queue, graph.Reaches first id
  /-- The first node is known. -/
  begun : first ∈ searched ++ queue
  /-- What the nodes searched lead to is known. -/
  closed : ∀ id ∈ searched, ∀ next, graph.Leads id next → next ∈ searched ++ queue

namespace Underway

/-- A search begins well. -/
theorem start (inside : first < graph.size) : graph.Underway first [] [first] where
  nodup := List.nodup_singleton first
  inside id member := by
    obtain rfl := List.mem_singleton.1 member
    exact inside
  reached id member := by
    obtain rfl := List.mem_singleton.1 member
    exact .refl
  begun := List.mem_singleton_self first
  closed := nofun

/-- A search goes on well. -/
theorem step {rest : List NodeId} (underway : graph.Underway first searched (id :: rest)) :
    graph.Underway first (searched ++ [id])
      (rest ++ graph.found (searched ++ id :: rest) id) := by
  have known : searched ++ [id] ++ (rest ++ graph.found (searched ++ id :: rest) id) =
      searched ++ id :: rest ++ graph.found (searched ++ id :: rest) id := by simp
  have here : id ∈ searched ++ id :: rest := List.mem_append_right _ List.mem_cons_self
  constructor
  · rw [known, List.nodup_append]
    refine ⟨underway.nodup, nodup_eraseDups _, ?_⟩
    rintro old before new fresh rfl
    exact (mem_found_iff.1 fresh).2 before
  · rw [known]
    intro other member
    obtain old | new := List.mem_append.1 member
    · exact underway.inside other old
    · exact (mem_found_iff.1 new).1.lt
  · rw [known]
    intro other member
    obtain old | new := List.mem_append.1 member
    · exact underway.reached other old
    · exact (underway.reached id here).tail (mem_found_iff.1 new).1
  · rw [known]
    exact List.mem_append_left _ underway.begun
  · rw [known]
    intro other member next leads
    by_cases old : next ∈ searched ++ id :: rest
    · exact List.mem_append_left _ old
    · obtain earlier | last := List.mem_append.1 member
      · exact absurd (underway.closed other earlier next leads) old
      · rw [List.mem_singleton.1 last] at leads
        exact List.mem_append_right _ (mem_found_iff.2 ⟨leads, old⟩)

/-- A search knows at most as many nodes as there are. -/
theorem length_le (underway : graph.Underway first searched queue) :
    searched.length + queue.length ≤ graph.size := by
  have subset : searched ++ queue ⊆ List.range graph.size := fun id member =>
    List.mem_range.2 (underway.inside id member)
  have shorter := (underway.nodup.subperm subset).length_le
  rwa [List.length_append, List.length_range] at shorter

/-- A search ends within as many steps as there are nodes to search. -/
theorem searches (underway : graph.Underway first searched queue) {bound : Nat}
    (enough : searched.length + bound = graph.size) :
    graph.Searches searched queue (graph.explore bound searched queue) ∧
      graph.Underway first (graph.explore bound searched queue) [] := by
  induction bound generalizing searched queue with
  | zero =>
    have short := underway.length_le
    obtain rfl : queue = [] := List.length_eq_zero_iff.1 (by omega)
    unfold explore
    rw [List.append_nil]
    exact ⟨.done searched, underway⟩
  | succ bound ih =>
    cases queue with
    | nil => exact ⟨.done searched, underway⟩
    | cons id rest =>
      have length : (searched ++ [id]).length = searched.length + 1 := List.length_append
      obtain ⟨onward, ended⟩ := ih underway.step (by omega)
      exact ⟨.next onward, ended⟩

/-- A search that has ended knows the nodes that can be reached. -/
theorem mem_iff (ended : graph.Underway first searched []) :
    id ∈ searched ↔ graph.Reaches first id := by
  have whole : searched ++ [] = searched := List.append_nil searched
  constructor
  · intro member
    exact ended.reached id (List.mem_append_left [] member)
  · intro reaches
    induction reaches with
    | refl => exact whole ▸ ended.begun
    | tail _ leads ih => exact whole ▸ ended.closed _ ih _ leads

end Underway

/-- The search from a node ends, and finds the nodes that can be reached from there. -/
theorem reachable_searches (inside : first < graph.size) :
    graph.Searches [] [first] (graph.reachable first) ∧
      ∀ id, id ∈ graph.reachable first ↔ graph.Reaches first id := by
  obtain ⟨searches, ended⟩ := (Underway.start inside).searches (Nat.zero_add graph.size)
  exact ⟨searches, fun _ => ended.mem_iff⟩

end Narrative.Graph
