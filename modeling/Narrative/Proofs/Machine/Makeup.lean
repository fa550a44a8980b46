import Narrative.Proofs.Machine.Course

/-!
# What a machine is made of

The states of a machine are those of its plan and the loading state, and each is kept as its kind
wants it: with the scene of the plan, without a request while it is not active, with sub-states
only if it is free roam, with a target if it is the loading state. `GameState.Fits` says so of one
state and `Machine.Built` of all. A machine is built when it is made, and every operation replaces
states by others that fit.
-/

namespace Narrative

namespace SubMachine

/-- Sub-states as they are kept: the current one is active, and no other is active or asks for
anything. -/
structure Fits (machine : SubMachine) : Prop where
  /-- Only the current sub-state is active. -/
  single : ∀ kind state, machine.state? kind = some state → state.active = true →
    machine.current = some kind
  /-- Only the current sub-state asks for a successor. -/
  asks : ∀ kind state, machine.state? kind = some state → state.request ≠ none →
    machine.current = some kind
  /-- The current sub-state is there and active. -/
  entered : ∀ kind, machine.current = some kind →
    ∃ state, machine.state? kind = some state ∧ state.active = true

/-- The sub-states after one of them was replaced. -/
theorem state?_replace {machine : SubMachine} {kind : SubKind} {before : SubState}
    (found : machine.state? kind = some before) (state : SubState) (wanted : SubKind) :
    (machine.replace kind state).state? wanted =
      if wanted = kind then some state else machine.state? wanted := by
  unfold state? at found ⊢
  unfold replace
  split
  · next same => rw [same, SortedMap.get?_modify_self, found, Option.map_some]
  · next different => exact SortedMap.get?_modify_of_ne _ _ different

/-- Sub-states none of which is current fit. -/
theorem ofKinds_fits (kinds : SortedSet SubKind) : (ofKinds kinds).Fits := by
  have resting : ∀ kind state, (ofKinds kinds).state? kind = some state → state = .resting := by
    intro kind state found
    obtain ⟨entry, -, same⟩ := List.mem_map.1 (SortedMap.mem_of_get? found)
    exact (Prod.mk.inj same).2.symm
  refine ⟨fun kind state found active => ?_, fun kind state found asks => ?_, nofun⟩
  · rw [resting kind state found] at active
    cases active
  · rw [resting kind state found] at asks
    exact absurd rfl asks

/-- The current sub-state may be replaced by one that is as active. -/
theorem Fits.replace {machine : SubMachine} (fits : machine.Fits) {kind : SubKind}
    (current : machine.current = some kind) {before state : SubState}
    (found : machine.state? kind = some before) (active : state.active = before.active) :
    (machine.replace kind state).Fits := by
  refine ⟨fun wanted other known on => ?_, fun wanted other known asks => ?_,
    fun wanted standing => ?_⟩
  · rw [state?_replace found] at known
    split at known
    · next same => exact same ▸ current
    · exact fits.single wanted other known on
  · rw [state?_replace found] at known
    split at known
    · next same => exact same ▸ current
    · exact fits.asks wanted other known asks
  · obtain rfl := Option.some.inj (standing.symm.trans current)
    obtain ⟨entered, known, on⟩ := fits.entered wanted standing
    obtain rfl := Option.some.inj (known.symm.trans found)
    exact ⟨state, by rw [state?_replace found, if_pos rfl], active.trans on⟩

/-- Once the current sub-state was left, none is active and none asks for anything. -/
theorem Fits.exit_resting {machine : SubMachine} (fits : machine.Fits) {kind : SubKind}
    {state : SubState} (found : machine.exit.state? kind = some state) :
    state.active = false ∧ state.request = none := by
  unfold exit at found
  split at found
  · next vacant =>
    constructor
    · by_contra on
      have standing := fits.single kind state found (by simpa using on)
      rw [vacant] at standing
      cases standing
    · by_contra asks
      have standing := fits.asks kind state found asks
      rw [vacant] at standing
      cases standing
  · next current standing =>
    obtain ⟨before, known, -⟩ := fits.entered current standing
    change (machine.replace current .resting).state? kind = some state at found
    rw [state?_replace known] at found
    split at found
    · obtain rfl := Option.some.inj found
      exact ⟨rfl, rfl⟩
    · next different =>
      have elsewhere : machine.current ≠ some kind := fun same =>
        different (Option.some.inj (same.symm.trans standing))
      constructor
      · by_contra on
        exact elsewhere (fits.single kind state found (by simpa using on))
      · by_contra asks
        exact elsewhere (fits.asks kind state found asks)

/-- Leaving the current sub-state. -/
theorem Fits.exit {machine : SubMachine} (fits : machine.Fits) : machine.exit.Fits := by
  refine ⟨fun kind state found on => ?_, fun kind state found asks => ?_, fun kind standing => ?_⟩
  · rw [(fits.exit_resting found).1] at on
    cases on
  · exact absurd (fits.exit_resting found).2 asks
  · rw [current_exit] at standing
    cases standing

/-- Entering a sub-state once the current one was left. -/
theorem Fits.enter {machine : SubMachine} (fits : machine.Fits) {next : SubKind}
    (known : machine.isRegistered next = true) : (machine.exit.enter next).Fits := by
  have there : ∃ before, machine.exit.state? next = some before := by
    have kept : machine.exit.isRegistered next = true := by
      unfold SubMachine.exit
      split
      · exact known
      · exact (isRegistered_replace machine _ next _).trans known
    exact Option.isSome_iff_exists.1 kept
  obtain ⟨before, found⟩ := there
  have state? (kind : SubKind) : (machine.exit.enter next).state? kind =
      if kind = next then some .entered else machine.exit.state? kind := state?_replace found _ kind
  refine ⟨fun kind state found on => ?_, fun kind state found asks => ?_, fun kind standing => ?_⟩
  · rw [state?] at found
    split at found
    · next same => rw [same, current_enter]
    · rw [(fits.exit_resting found).1] at on
      cases on
  · rw [state?] at found
    split at found
    · next same => rw [same, current_enter]
    · exact absurd (fits.exit_resting found).2 asks
  · obtain rfl := Option.some.inj standing
    exact ⟨.entered, by rw [state?, if_pos rfl], rfl⟩

/-- A switch that succeeds. -/
theorem Fits.switchTo {machine sub : SubMachine} (fits : machine.Fits) {next : SubKind}
    (switched : (machine.switchTo next).value = .ok sub) : sub.Fits := by
  rw [switchTo_value] at switched
  split at switched
  · next known =>
    obtain rfl := Except.ok.inj switched
    exact fits.enter known
  · cases switched

/-- A request of the current sub-state. -/
theorem Fits.request {machine : SubMachine} (fits : machine.Fits) (next : SubKind) :
    (machine.request next).value.Fits := by
  unfold SubMachine.request
  split
  · exact fits
  · next kind state found =>
    obtain ⟨current, standing, found⟩ := Option.bind_eq_some_iff.1 found
    obtain ⟨asker, known, same⟩ := Option.map_eq_some_iff.1 found
    obtain ⟨rfl, rfl⟩ := Prod.mk.inj same
    exact fits.replace standing known rfl

/-- A request that is used up. -/
theorem Fits.dropRequest {machine : SubMachine} (fits : machine.Fits) :
    machine.dropRequest.Fits := by
  unfold SubMachine.dropRequest
  split
  · exact fits
  · next kind state found =>
    obtain ⟨current, standing, found⟩ := Option.bind_eq_some_iff.1 found
    obtain ⟨asker, known, same⟩ := Option.map_eq_some_iff.1 found
    obtain ⟨rfl, rfl⟩ := Prod.mk.inj same
    exact fits.replace standing known rfl

/-- A request that is met or refused. -/
theorem Fits.processRequest {machine : SubMachine} (fits : machine.Fits) :
    machine.processRequest.value.2.Fits := by
  unfold SubMachine.processRequest
  split
  · exact fits
  · dsimp only
    rw [Logged.value_bind]
    split
    · next switched => exact fits.dropRequest.switchTo switched
    · exact fits.dropRequest

end SubMachine

/-- A state as its kind wants it. -/
structure GameState.Fits (plan : StatePlan) (kind : StateKind) (state : GameState) : Prop where
  /-- It is the loading state or one of the plan. -/
  known : kind = .loading ∨ plan.registered.contains kind = true
  /-- Its scene is that of the plan. -/
  scene : state.scene = plan.scene? kind
  /-- It asks for nothing while it is not active. -/
  silent : state.active = false → state.request = none
  /-- It has no sub-states unless it is free roam. -/
  roaming : state.subMachine ≠ none → kind = .freeRoam
  /-- Its sub-states are as they are kept. -/
  subs : ∀ sub, state.subMachine = some sub → sub.Fits
  /-- If it is the loading state, it leads to a state of the plan that requires loading. -/
  leading : kind = .loading → ∃ target, state.target = some target ∧ target ≠ .loading ∧
    plan.registered.contains target = true ∧ plan.requiresLoading.contains target = true

/-- A state that fits also fits without what it asks for. -/
theorem GameState.Fits.hushed {plan : StatePlan} {kind : StateKind} {state : GameState}
    (fits : state.Fits plan kind) : state.silent.Fits plan kind :=
  ⟨fits.known, fits.scene, fun _ => rfl, fits.roaming, fits.subs, fits.leading⟩

namespace Machine

/-- A machine whose states are those of its plan, and as their kinds want them. -/
structure Built (plan : StatePlan) (machine : Machine) : Prop where
  /-- Every state is as its kind wants it. -/
  fits : ∀ kind state, machine.state? kind = some state → state.Fits plan kind
  /-- Every state of the plan is there. -/
  present : ∀ kind, kind ≠ .loading → plan.registered.contains kind = true →
    machine.state? kind ≠ none
  /-- The current state is there. -/
  standing : ∀ kind, machine.current = some kind → machine.state? kind ≠ none
  /-- The scene of the loading state is that of the plan. -/
  loadingScene : machine.loadingScene = plan.scene? .loading
  /-- The states that require loading are those of the plan. -/
  requiresLoading : machine.requiresLoading = plan.requiresLoading

variable {ℓ : Type} {plan : StatePlan} {machine other : Machine}

/-- The machine of a plan is built. -/
theorem ofPlan_built (plan : StatePlan) (tracing : Tracing) : (ofPlan plan tracing).Built plan := by
  refine ⟨fun kind state found => ?_, fun kind real registered => ?_, nofun, rfl, rfl⟩
  · have member := SortedMap.mem_of_mem_ofList (SortedMap.mem_of_get? found)
    obtain ⟨known, listed, same⟩ := List.mem_map.1 member
    obtain ⟨rfl, rfl⟩ := Prod.mk.inj same
    obtain ⟨registered, real⟩ := List.mem_filter.1 listed
    have real : known ≠ .loading := by simpa using real
    refine ⟨.inr (SortedMap.mem_keys_iff.1 registered), rfl, fun _ => rfl, fun roaming => ?_,
      fun sub same => ?_, fun loading => absurd loading real⟩
    · by_contra elsewhere
      exact roaming (if_neg elsewhere)
    · change (if known = .freeRoam then some _ else none) = some sub at same
      obtain ⟨-, made⟩ := Option.ite_none_right_eq_some.1 same
      obtain rfl := Option.some.inj made
      exact SubMachine.ofKinds_fits plan.subStates
  · have listed : kind ∈ plan.registered.members.filter (· != .loading) :=
      List.mem_filter.2 ⟨SortedMap.mem_keys_iff.2 registered, by simpa using real⟩
    have there : (ofPlan plan tracing).states.contains kind = true :=
      SortedMap.contains_ofList (List.mem_map.2 ⟨_, List.mem_map_of_mem listed, rfl⟩)
    exact Option.isSome_iff_ne_none.1 there

namespace Built

/-- One state is replaced by another that fits. -/
theorem insert (built : machine.Built plan) {key : StateKind} {state : GameState}
    (fits : state.Fits plan key) (written : other.states = machine.states.insert key state)
    (current : other.current = machine.current)
    (loadingScene : other.loadingScene = machine.loadingScene)
    (requiresLoading : other.requiresLoading = machine.requiresLoading) : other.Built plan := by
  have there : ∀ kind, machine.state? kind ≠ none → other.state? kind ≠ none := by
    intro kind found
    rw [state?_of_insert written]
    split
    · exact Option.some_ne_none _
    · exact found
  refine ⟨fun kind found known => ?_, fun kind real registered => ?_, fun kind standing => ?_,
    loadingScene.trans built.loadingScene, requiresLoading.trans built.requiresLoading⟩
  · rw [state?_of_insert written] at known
    split at known
    · next same =>
      obtain rfl := Option.some.inj known
      exact same ▸ fits
    · exact built.fits kind found known
  · exact there kind (built.present kind real registered)
  · exact there kind (built.standing kind (current ▸ standing))

/-- Sub-states of free roam are replaced by others that fit. -/
theorem withSubMachine (built : machine.Built plan) {sub : SubMachine} (fits : sub.Fits) :
    (machine.withSubMachine sub).Built plan := by
  unfold Machine.withSubMachine SortedMap.modify
  split
  · next state known =>
    have before := built.fits .freeRoam state known
    have roaming : GameState.Fits plan .freeRoam { state with subMachine := some sub } :=
      ⟨before.known, before.scene, before.silent, fun _ => rfl,
        fun _ same => Option.some.inj same ▸ fits, before.leading⟩
    exact built.insert roaming rfl rfl rfl rfl
  · exact built

/-- The sub-states of free roam are as they are kept. -/
theorem sub_fits (built : machine.Built plan) {sub : SubMachine}
    (found : machine.subMachine? = some sub) : sub.Fits := by
  obtain ⟨state, known, same⟩ := Option.bind_eq_some_iff.1 found
  exact (built.fits .freeRoam state known).subs sub same

/-- A current state that asks for something is active. -/
theorem active?_of_asking (built : machine.Built plan) (asks : machine.pendingRequest? ≠ none) :
    machine.active? = machine.current := by
  obtain ⟨request, asked⟩ := Option.ne_none_iff_exists'.1 asks
  obtain ⟨state, found, asking⟩ := Option.bind_eq_some_iff.1 asked
  obtain ⟨kind, standing, known⟩ := Option.bind_eq_some_iff.1 found
  have on : state.active = true := by
    by_contra off
    rw [(built.fits kind state known).silent (by simpa using off)] at asking
    cases asking
  rw [standing]
  refine active?_eq_some_iff.2 ⟨standing, ?_⟩
  unfold isActive
  rw [known]
  exact on

/-- Handing on the notices of the sub-states. -/
theorem drainSubNotices (built : machine.Built plan) : machine.drainSubNotices.Built plan := by
  unfold Machine.drainSubNotices
  split
  · exact built
  · next sub found =>
    have fits := built.sub_fits found
    have silent : sub.takeNotices.2.Fits := ⟨fits.single, fits.asks, fits.entered⟩
    have drained := built.withSubMachine silent
    exact ⟨drained.fits, drained.present, drained.standing, drained.loadingScene,
      drained.requiresLoading⟩

/-- Telling the notices. -/
theorem takeNotices (built : machine.Built plan) : machine.takeNotices.2.Built plan :=
  let drained := built.drainSubNotices
  ⟨drained.fits, drained.present, drained.standing, drained.loadingScene, drained.requiresLoading⟩

/-- Leaving the current state. -/
theorem exitCurrent (built : machine.Built plan) : machine.exitCurrent.value.Built plan := by
  have waitless : Built plan { machine with pending := none } :=
    ⟨built.fits, built.present, built.standing, built.loadingScene, built.requiresLoading⟩
  unfold Machine.exitCurrent
  dsimp only
  split
  · exact waitless
  · next current standing =>
    split
    · exact waitless
    · next state known =>
      have before := built.fits current state known
      split
      · let left : GameState :=
          { state with
            request := none, active := false, subMachine := state.subMachine.map SubMachine.exit }
        have fits : left.Fits plan current := by
          refine ⟨before.known, before.scene, fun _ => rfl, fun some => before.roaming ?_,
            fun sub found => ?_, before.leading⟩
          · exact fun none => some (by simp [left, none])
          · obtain ⟨old, known, rfl⟩ := Option.map_eq_some_iff.1 found
            exact (before.subs old known).exit
        have resting : Built plan
            { machine with pending := none, states := machine.states.insert current left } :=
          waitless.insert fits rfl rfl rfl rfl
        have resting := resting.drainSubNotices
        exact ⟨resting.fits, resting.present, resting.standing, resting.loadingScene,
          resting.requiresLoading⟩
      · exact waitless.insert before.hushed rfl rfl rfl rfl

/-- Naming a state that there is. -/
theorem changeTo (built : machine.Built plan) {next : StateKind}
    (known : machine.state? next ≠ none) : (machine.changeTo next).value.Built plan :=
  ⟨built.fits, built.present, fun _ same => Option.some.inj same ▸ known, built.loadingScene,
    built.requiresLoading⟩

/-- Entering a state. -/
theorem enter (built : machine.Built plan) (kind : StateKind) :
    (machine.enter kind).value.Built plan := by
  unfold Machine.enter
  split
  · exact built
  · next state known =>
    have before := built.fits kind state known
    have entered : GameState.Fits plan kind { state with active := true, request := none } :=
      ⟨before.known, before.scene, nofun, before.roaming, before.subs, before.leading⟩
    exact built.insert entered rfl rfl rfl rfl

/-- A state that is asked for by name and is there is one of the plan. -/
theorem lookup_ok (built : machine.Built plan) {kind : StateKind}
    (known : (machine.lookup kind).value = .ok ()) :
    kind ≠ .loading ∧ plan.registered.contains kind = true := by
  unfold lookup at known
  split at known
  · next found =>
    obtain ⟨real, there⟩ := found
    obtain ⟨state, found⟩ := Option.isSome_iff_exists.1 there
    exact ⟨real, (built.fits kind state found).known.resolve_left real⟩
  · cases known

/-- A state of the plan is there when it is asked for by name, unless it is the loading state. -/
theorem lookup_registered (built : machine.Built plan) {kind : StateKind} (real : kind ≠ .loading)
    (registered : plan.registered.contains kind = true) :
    (machine.lookup kind).value = .ok () := by
  have there : machine.states.contains kind = true :=
    Option.isSome_iff_ne_none.2 (built.present kind real registered)
  unfold lookup
  rw [if_pos ⟨real, there⟩]
  rfl

/-- Making the loading state lead to a target. -/
theorem withLoading (built : machine.Built plan) {target : StateKind} (real : target ≠ .loading)
    (registered : plan.registered.contains target = true)
    (requires : plan.requiresLoading.contains target = true) :
    (machine.withLoading target).value.Built plan ∧
      (machine.withLoading target).value.state? .loading ≠ none := by
  unfold Machine.withLoading
  split
  · next state known =>
    have before := built.fits .loading state known
    have led : GameState.Fits plan .loading { state with target := some target } :=
      ⟨before.known, before.scene, before.silent, before.roaming, before.subs,
        fun _ => ⟨target, rfl, real, registered, requires⟩⟩
    refine ⟨built.insert led rfl rfl rfl rfl, ?_⟩
    rw [Logged.value_pure, state?_of_insert rfl, if_pos rfl]
    exact Option.some_ne_none _
  · have made : GameState.Fits plan .loading
        { GameState.resting machine.loadingScene none with target := some target } :=
      ⟨.inl rfl, built.loadingScene, fun _ => rfl, fun roaming => absurd rfl roaming, nofun,
        fun _ => ⟨target, rfl, real, registered, requires⟩⟩
    refine ⟨built.insert made rfl rfl rfl rfl, ?_⟩
    rw [Logged.value_bind, Logged.value_pure, state?_of_insert rfl, if_pos rfl]
    exact Option.some_ne_none _

section Moves

variable [SceneLoader ℓ]

/-- Loading the scene of the current state, or entering it. -/
theorem loadOrEnter (built : machine.Built plan) (kind : StateKind) (transition : Transition)
    (loader : ℓ) : (machine.loadOrEnter kind transition loader).value.1.Built plan := by
  unfold Machine.loadOrEnter
  split
  · exact ⟨built.fits, built.present, built.standing, built.loadingScene, built.requiresLoading⟩
  · exact built.enter kind

/-- Asking for the scene of the current state. -/
theorem pollScene (built : machine.Built plan) (loader : ℓ) :
    (machine.pollScene loader).value.1.Built plan := by
  have waitless : Built plan { machine with pending := none } :=
    ⟨built.fits, built.present, built.standing, built.loadingScene, built.requiresLoading⟩
  unfold Machine.pollScene
  split
  · next current _ _ =>
    dsimp only
    split
    · exact waitless.enter current
    · split
      · exact waitless
      · exact built
  · exact built

end Moves

/-- The active state asks for a successor. -/
theorem request (built : machine.Built plan) (next : Request) :
    (machine.request next).value.Built plan := by
  unfold Machine.request
  split
  · exact built
  · next kind state found =>
    obtain ⟨asked, active, found⟩ := Option.bind_eq_some_iff.1 found
    obtain ⟨asker, known, same⟩ := Option.map_eq_some_iff.1 found
    obtain ⟨rfl, rfl⟩ := Prod.mk.inj same
    have before := built.fits asked asker known
    have on : asker.active = true := by
      have on := (active?_eq_some_iff.1 active).2
      unfold isActive at on
      rw [known] at on
      exact on
    have asking : GameState.Fits plan asked { asker with request := some next } :=
      ⟨before.known, before.scene, fun off => absurd (on.symm.trans off) (by decide),
        before.roaming, before.subs, before.leading⟩
    exact built.insert asking rfl rfl rfl rfl

/-- The request of the current state is used up. -/
theorem dropRequest (built : machine.Built plan) : machine.dropRequest.Built plan := by
  unfold Machine.dropRequest
  split
  · exact built
  · next current standing =>
    unfold SortedMap.modify
    split
    · next state known =>
      exact built.insert (built.fits current state known).hushed rfl rfl rfl rfl
    · exact built

end Built

end Machine

end Narrative
