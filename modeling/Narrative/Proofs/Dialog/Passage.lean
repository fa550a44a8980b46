import Narrative.Dialog.Walk
import Narrative.Proofs.Branch
import Narrative.Proofs.Lint.Walkable

/-!
# Walks that come to a wait

A walk through a dialog stalls when it has nowhere to go, and when it passes more nodes than there
are. Neither happens in a dialog that can be walked and in which every cycle pauses: each node that
is passed leads to the next one, and a walk that does not pause cannot come back to a node.
-/

namespace Narrative

open Dialog (Manner Memory Stop Wait walk)

namespace DialogGraph

/-- A dialog pauses at its lines, and at the branches that the player decides. -/
def PausesAt (dialog : DialogGraph) (id : NodeId) : Prop :=
  (∃ line, dialog.graph.kind? id = some (.line line)) ∨
    ∃ options, dialog.graph.kind? id = some (.branch .player options)

/-- Every cycle over connected ports has a node at which the dialog pauses. -/
def Pausing (dialog : DialogGraph) : Prop :=
  ∀ first rest, dialog.graph.Cycle first rest → ∃ id ∈ first :: rest, dialog.PausesAt id

/-- One line without an illustration. -/
def greeting : DialogGraph :=
  ⟨⟨"hello",
    [⟨.start, [⟨Port.exit, some 1⟩]⟩, ⟨.line ⟨.narrator, "Hello.", none⟩, [⟨Port.exit, some 2⟩]⟩,
      ⟨.finish, []⟩]⟩, none⟩

/-- The start leads to the line, and the line to the end. -/
theorem greeting_leads {source target : NodeId} (leads : greeting.graph.Leads source target) :
    source = 0 ∧ target = 1 ∨ source = 1 ∧ target = 2 := by
  obtain ⟨port, connected⟩ := leads
  obtain ⟨points, -⟩ := Option.filter_eq_some_iff.1 connected
  obtain ⟨node, found, points⟩ := Option.bind_eq_some_iff.1 points
  obtain ⟨wired, known, aims⟩ := Option.bind_eq_some_iff.1 points
  have member := List.mem_of_find?_eq_some known
  match source with
  | 0 =>
    obtain rfl := Option.some.inj found
    rw [List.mem_singleton.1 member] at aims
    exact .inl ⟨rfl, (Option.some.inj aims).symm⟩
  | 1 =>
    obtain rfl := Option.some.inj found
    rw [List.mem_singleton.1 member] at aims
    exact .inr ⟨rfl, (Option.some.inj aims).symm⟩
  | 2 =>
    obtain rfl := Option.some.inj found
    cases member
  | _ + 3 => cases found

/-- The line pauses whatever cycle there might be. -/
theorem greeting_pausing : greeting.Pausing := by
  intro first rest cycle
  have pauses : greeting.PausesAt 1 := .inl ⟨_, rfl⟩
  cases rest with
  | nil =>
    obtain ⟨rfl, same⟩ | ⟨rfl, same⟩ := greeting_leads (List.isChain_pair.1 cycle) <;> cases same
  | cons second rest =>
    have leads := (List.isChain_cons_cons.1 cycle).1
    obtain ⟨-, rfl⟩ | ⟨rfl, -⟩ := greeting_leads leads
    · exact ⟨1, List.mem_cons_of_mem _ List.mem_cons_self, pauses⟩
    · exact ⟨1, List.mem_cons_self, pauses⟩

end DialogGraph

/-- A wait that the node of the dialog bears out: a line is shown at a line, a choice is made at a
branch of the player among its options, and nothing stalls. -/
def Dialog.Wait.Supported (dialog : DialogGraph) (node : NodeId) : Wait → Prop
  | .reveal .. => ∃ line, dialog.graph.kind? node = some (.line line)
  | .confirm => ∃ line, dialog.graph.kind? node = some (.line line)
  | .choose count selected =>
    ∃ options, dialog.graph.kind? node = some (.branch .player options) ∧
      options.length = count ∧ selected < count
  | .closing _ => True
  | .stalled _ => False

namespace Dialog

/-- A line that is being revealed is supported by the node of the line. -/
theorem revealLine_supported {dialog : DialogGraph} {node : NodeId} {line : Line}
    (known : dialog.graph.kind? node = some (.line line)) (manner : Manner)
    (remaining : List Char) (budget : Duration) (speaker : Speaker) :
    (revealLine manner remaining budget speaker).1.Supported dialog node := by
  unfold revealLine
  dsimp only
  split
  · exact ⟨line, known⟩
  · exact ⟨line, known⟩

/-- A stop whose wait, if there is one, is supported by the node it stands on. -/
def Stop.Supported (dialog : DialogGraph) (stop : Stop) : Prop :=
  ∀ wait, stop.wait = some wait → wait.Supported dialog stop.node

section Walk

variable {dialog : DialogGraph} {passed : List NodeId} {node next : NodeId}

/-- A way that has not paused goes on over a connected port of a node that does not pause. -/
theorem trail_step (pausing : dialog.Pausing) (trail : dialog.graph.Trail passed node)
    (unpaused : ∀ id ∈ passed, ¬dialog.PausesAt id) (inside : node < dialog.graph.size)
    (passing : ¬dialog.PausesAt node) (leads : dialog.graph.Leads node next) :
    dialog.graph.Trail (passed ++ [node]) next ∧
      ∀ id ∈ passed ++ [node], ¬dialog.PausesAt id := by
  have fresh : node ∉ passed := by
    refine trail.fresh (fun id => ¬dialog.PausesAt id) (fun first rest cycle => ?_) unpaused
    obtain ⟨id, member, pauses⟩ := pausing first rest cycle
    exact ⟨id, member, fun passing => passing pauses⟩
  refine ⟨trail.step fresh inside leads, fun id member => ?_⟩
  obtain earlier | last := List.mem_append.1 member
  · exact unpaused id earlier
  · rw [List.mem_singleton.1 last]
    exact passing

/-- A walk that has not paused on its way comes to a supported wait, as long as it may still pass
the nodes that it has not passed. -/
theorem walk_supported (walkable : dialog.Walkable) (pausing : dialog.Pausing) {bound : Nat}
    (trail : dialog.graph.Trail passed node) (unpaused : ∀ id ∈ passed, ¬dialog.PausesAt id)
    (inside : node < dialog.graph.size) (enough : passed.length + bound = dialog.graph.size + 1)
    (manner : Manner) (character : Option Speaker) (memory : Memory) :
    (walk manner dialog bound node character memory).value.Supported dialog := by
  induction bound generalizing passed node character memory with
  | zero =>
    -- All nodes were passed, and one of them twice.
    have short := trail.length_le
    omega
  | succ bound ih =>
    obtain ⟨kind, known⟩ := Graph.kind?_of_lt inside
    -- From a node that does not pause, the walk goes on as the induction says.
    have advance : ¬dialog.PausesAt node →
        ∀ {port next}, dialog.graph.connected? node port = some next → ∀ character memory,
          (walk manner dialog bound next character memory).value.Supported dialog := by
      intro passing port next connected character memory
      obtain ⟨longer, still⟩ :=
        trail_step pausing trail unpaused inside passing ⟨port, connected⟩
      have length : (passed ++ [node]).length = passed.length + 1 := List.length_append
      exact ih longer still (Graph.connected?_lt connected) (by omega) character memory
    have passing : (∀ line, kind ≠ .line line) → (∀ options, kind ≠ .branch .player options) →
        ¬dialog.PausesAt node := by
      rintro noLine noChoice (⟨line, same⟩ | ⟨options, same⟩)
      · exact noLine line (Option.some.inj (known.symm.trans same))
      · exact noChoice options (Option.some.inj (known.symm.trans same))
    have wired := walkable.wired node kind known
    unfold walk
    rw [known]
    dsimp only
    rw [Logged.value_bind]
    cases kind with
    | start =>
      obtain ⟨next, connected⟩ := wired _ List.mem_cons_self
      dsimp only at connected ⊢
      rw [connected]
      exact advance (passing nofun nofun) connected character memory
    | line line =>
      intro wait same
      obtain rfl := Option.some.inj same
      exact revealLine_supported known _ _ _ _
    | branch decider options =>
      have stocked := walkable.stocked node decider options known
      cases decider with
      | player =>
        have some : options.isEmpty = false := by simpa using stocked
        dsimp only
        rw [if_neg (by rw [some]; exact Bool.false_ne_true)]
        intro wait same
        obtain rfl := Option.some.inj same
        exact ⟨options, known, rfl, List.length_pos_iff.2 stocked⟩
      | automatic =>
        obtain ⟨index, resolved⟩ := Branch.resolve_of_unconditional memory.flags
          (walkable.resolving node options known)
        have within := Branch.resolve_lt resolved
        have followed : (Port.option index, Lint.Severity.error) ∈
            Lint.optionPorts options.length :=
          List.mem_map.2 ⟨index, List.mem_range.2 within, rfl⟩
        obtain ⟨next, connected⟩ := wired _ followed
        dsimp only at connected ⊢
        rw [Logged.value_bind, resolved]
        dsimp only
        rw [connected]
        exact advance (passing nofun nofun) connected _ _
    | event effects =>
      obtain ⟨next, connected⟩ := wired _ List.mem_cons_self
      dsimp only at connected ⊢
      rw [Logged.value_bind]
      rw [connected]
      exact advance (passing nofun nofun) connected _ _
    | finish =>
      dsimp only
      split
      · exact nofun
      · intro wait same
        obtain rfl := Option.some.inj same
        trivial

/-- The bound of a run is enough. -/
theorem run_supported (walkable : dialog.Walkable) (pausing : dialog.Pausing)
    (inside : node < dialog.graph.size) (manner : Manner) (character : Option Speaker)
    (memory : Memory) : (run manner dialog node character memory).value.Supported dialog :=
  walk_supported walkable pausing (.nil dialog.graph node) nofun inside (Nat.zero_add _) manner
    character memory

end Walk

end Dialog

end Narrative
