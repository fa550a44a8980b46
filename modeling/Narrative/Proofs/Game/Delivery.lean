import Narrative.Proofs.Game.Happening
import Narrative.Proofs.Game.Ownership

/-!
# The delivery of notices

A game that settles takes what waits as a batch, reacts to each notice of it, and starts over until
nothing waits. Its reactions may queue notices themselves, so that nothing in this loop bounds the
number of its batches. Here the loop stands without a bound, delivery by delivery. Whenever it ends,
every notice that waited or was queued on the way was delivered once, in the order of the queue. And
it ends in every game, after two batches at most: only the reaction to entering free roam queues
anything, what it queues tells of sub-states, and the reactions to that queue nothing more.
-/

namespace Narrative

/-- Whether a notice tells of a sub-state. -/
def Notice.ofSubState : Notice → Bool
  | subEntered _ => true
  | subExited _ => true
  | _ => false

/-- A notice that is delivered. -/
structure Delivery (η ℓ : Type) where
  /-- The game that reacts to it. -/
  game : Game η ℓ
  /-- The notice. -/
  notice : Notice

/-- What the reaction to a delivery adds to what waits. -/
def Delivery.news {η ℓ : Type} [Host η] (delivery : Delivery η ℓ) : List Notice :=
  (delivery.game.react delivery.notice).value.machine.queue.drop delivery.game.machine.queue.length

namespace Game

variable {η ℓ : Type} [Host η]

/-- The loop of a game that has some notices of a batch before it: its deliveries in order, the
number of batches that it still takes, and what it comes to. A batch is taken once the one before it
was delivered, and the loop ends when nothing waits. -/
inductive Settles : Game η ℓ → List Notice → List (Delivery η ℓ) → Nat → Logged (Game η ℓ) → Prop
    where
  /-- Nothing waits. -/
  | ends {game : Game η ℓ} (told : game.machine.takeNotices.1 = []) :
    Settles game [] [] 0 (pure (game.withMachine game.machine.takeNotices.2))
  /-- What waits is the next batch. -/
  | takes {game : Game η ℓ} {deliveries : List (Delivery η ℓ)} {batches : Nat}
      {outcome : Logged (Game η ℓ)} (waiting : game.machine.takeNotices.1 ≠ [])
      (rest : Settles (game.withMachine game.machine.takeNotices.2) game.machine.takeNotices.1
        deliveries batches outcome) :
    Settles game [] deliveries (batches + 1) outcome
  /-- The first notice of the batch is delivered. -/
  | delivers {game : Game η ℓ} {notice : Notice} {batch : List Notice}
      {deliveries : List (Delivery η ℓ)} {batches : Nat} {outcome : Logged (Game η ℓ)}
      (rest : Settles (game.react notice).value batch deliveries batches outcome) :
    Settles game (notice :: batch) (⟨game, notice⟩ :: deliveries) batches
      (game.react notice >>= fun _ => outcome)

/-- The game once what waits was delivered as one batch. -/
def afterBatch (game : Game η ℓ) : Game η ℓ :=
  ((game.withMachine game.machine.takeNotices.2).reactAll game.machine.queue).value

variable {game : Game η ℓ} {batch : List Notice} {deliveries : List (Delivery η ℓ)}
  {batches bound : Nat} {outcome : Logged (Game η ℓ)}

omit [Host η] in
/-- Exploring queues behind what waits that one sub-state is left and another entered. -/
theorem explore_queue (game : Game η ℓ) :
    ∃ news, game.explore.value.machine.queue = game.machine.queue ++ news ∧
      ∀ notice ∈ news, notice.ofSubState = true := by
  obtain same | ⟨sub, roaming, -, value⟩ := game.explore_cases
  · rw [same]
    exact ⟨[], (List.append_nil _).symm, List.forall_mem_nil _⟩
  · obtain ⟨-, found⟩ := Machine.freeRoam_eq_ok_iff.1 roaming
    have waiting : game.machine.queue = game.machine.notices ++ sub.notices := by
      rw [← Machine.queue_withSubMachine found sub, Machine.withSubMachine_of_found found]
    have explored : (game.withSubMachine (sub.exit.enter .exploration)).machine.queue =
        game.machine.notices ++ (sub.exit.enter .exploration).notices :=
      Machine.queue_withSubMachine found _
    refine ⟨(sub.current.map Notice.subExited).toList ++ [.subEntered .exploration], ?_, ?_⟩
    · rw [value, explored, waiting, SubMachine.notices_enter, SubMachine.notices_exit]
      simp only [List.append_assoc]
    · intro notice member
      obtain left | entered := List.mem_append.1 member
      · obtain ⟨kind, -, rfl⟩ := Option.map_eq_some_iff.1 (Option.mem_toList.1 left)
        rfl
      · obtain rfl := List.mem_singleton.1 entered
        rfl

/-- A reaction queues behind what waits. Only that to entering free roam queues anything, which then
tells of sub-states. -/
theorem react_queue (game : Game η ℓ) (notice : Notice) :
    ∃ news, (game.react notice).value.machine.queue = game.machine.queue ++ news ∧
      (∀ told ∈ news, told.ofSubState = true) ∧ (notice.ofSubState = true → news = []) := by
  have silent {after : Game η ℓ} (queue : after.machine.queue = game.machine.queue) :
      ∃ news, after.machine.queue = game.machine.queue ++ news ∧
        (∀ told ∈ news, told.ofSubState = true) ∧ (notice.ofSubState = true → news = []) :=
    ⟨[], queue.trans (List.append_nil _).symm, List.forall_mem_nil _, fun _ => rfl⟩
  cases notice with
  | entered kind =>
    unfold react
    rw [Logged.value_bind]
    cases kind with
    | freeRoam =>
      change ∃ news, game.onFreeRoamEntered.value.machine.queue = _ ∧ _
      have ready := game.resetIfPending_quiet.queue
      obtain ⟨event, value⟩ | value := game.onFreeRoamEntered_cases
      · rw [value]
        exact silent ready
      · obtain ⟨news, explored, subs⟩ := game.resetIfPending.value.explore_queue
        rw [value, explored, ready]
        exact ⟨news, rfl, subs, nofun⟩
    | event => exact silent game.onEventEntered_quiet.queue
    | _ => exact silent rfl
  | _ => exact silent (game.react_departure rfl).1.queue

/-- The reactions to a batch queue what tells of sub-states, and nothing if the batch does. -/
theorem reactAll_queue (game : Game η ℓ) (batch : List Notice) :
    ∃ news, (game.reactAll batch).value.machine.queue = game.machine.queue ++ news ∧
      (∀ told ∈ news, told.ofSubState = true) ∧
        ((∀ notice ∈ batch, notice.ofSubState = true) → news = []) := by
  induction batch generalizing game with
  | nil => exact ⟨[], (List.append_nil _).symm, List.forall_mem_nil _, fun _ => rfl⟩
  | cons notice rest ih =>
    obtain ⟨news, queue, subs, silent⟩ := game.react_queue notice
    obtain ⟨others, later, subsLater, silentLater⟩ := ih (game.react notice).value
    refine ⟨news ++ others, ?_, fun told member => ?_, fun all => ?_⟩
    · rw [← List.append_assoc, ← queue]
      exact later
    · exact (List.mem_append.1 member).elim (subs told) (subsLater told)
    · obtain ⟨first, following⟩ := List.forall_mem_cons.1 all
      rw [silent first, silentLater following]
      rfl

/-- What waited before a delivery waits after it, with the news behind it. -/
theorem queue_delivery (delivery : Delivery η ℓ) :
    (delivery.game.react delivery.notice).value.machine.queue =
      delivery.game.machine.queue ++ delivery.news := by
  obtain ⟨news, queue, -⟩ := delivery.game.react_queue delivery.notice
  have same : delivery.news = news := by
    unfold Delivery.news
    rw [queue]
    exact List.drop_left
  rw [queue, same]

namespace Settles

/-- A loop that ends has delivered the rest of its batch, what waited behind that, and what was
queued on the way: each once, in this order. -/
theorem delivered (settles : game.Settles batch deliveries batches outcome) :
    deliveries.map Delivery.notice =
      batch ++ game.machine.queue ++ deliveries.flatMap Delivery.news := by
  induction settles with
  | @ends game told =>
    have empty : game.machine.queue = [] := game.machine.takeNotices_fst.symm.trans told
    rw [empty]
    rfl
  | @takes game deliveries _ _ _ _ ih =>
    have empty : (game.withMachine game.machine.takeNotices.2).machine.queue = [] :=
      game.machine.queue_takeNotices
    rw [ih, empty, Machine.takeNotices_fst, List.append_nil, List.nil_append]
  | @delivers game notice batch deliveries _ _ _ ih =>
    have queue := queue_delivery ⟨game, notice⟩
    rw [List.map_cons, ih, queue, List.flatMap_cons]
    simp only [List.cons_append, List.append_assoc]

/-- A loop that ends leaves nothing waiting. -/
theorem queue (settles : game.Settles batch deliveries batches outcome) :
    outcome.value.machine.queue = [] := by
  induction settles with
  | @ends game _ => exact game.machine.queue_takeNotices
  | takes _ _ ih => exact ih
  | delivers _ ih => exact ih

/-- There is one way to go through the loop. -/
theorem unique {others : List (Delivery η ℓ)} {count : Nat} {result : Logged (Game η ℓ)}
    (settles : game.Settles batch deliveries batches outcome)
    (again : game.Settles batch others count result) :
    others = deliveries ∧ count = batches ∧ result = outcome := by
  induction settles generalizing others count result with
  | ends told =>
    cases again with
    | ends => exact ⟨rfl, rfl, rfl⟩
    | takes waiting => exact absurd told waiting
  | takes waiting _ ih =>
    cases again with
    | ends told => exact absurd told waiting
    | takes _ rest =>
      obtain ⟨same, number, result⟩ := ih rest
      exact ⟨same, congrArg (· + 1) number, result⟩
  | delivers _ ih =>
    cases again with
    | delivers rest =>
      obtain ⟨rfl, number, rfl⟩ := ih rest
      exact ⟨rfl, number, rfl⟩

/-- Batches up to a bound do what the loop does, if it takes fewer. -/
theorem reactBatches (settles : game.Settles batch deliveries batches outcome)
    (enough : batches < bound) : (game.reactAll batch >>= Game.reactBatches bound) = outcome := by
  induction settles generalizing bound with
  | @ends game told =>
    cases bound with
    | zero => cases enough
    | succ bound => exact if_pos (List.isEmpty_iff.2 told)
  | @takes game _ batches _ waiting _ ih =>
    cases bound with
    | zero => cases enough
    | succ bound =>
      have next := ih (Nat.lt_of_succ_lt_succ enough)
      exact (if_neg (mt List.isEmpty_iff.1 waiting)).trans next
  | @delivers game notice batch _ _ outcome _ ih =>
    rw [← ih enough]
    exact congrArg (Logged.mk _) (List.append_assoc ..)

/-- A batch is delivered before the loop goes on after it. -/
theorem of_reactAll {batch : List Notice}
    (after : (game.reactAll batch).value.Settles [] deliveries batches outcome) :
    ∃ others result, game.Settles batch others batches result ∧
      others.map Delivery.notice = batch ++ deliveries.map Delivery.notice := by
  induction batch generalizing game with
  | nil => exact ⟨deliveries, outcome, after, rfl⟩
  | cons notice rest ih =>
    obtain ⟨others, _, settles, notices⟩ := ih after
    exact ⟨⟨game, notice⟩ :: others, _, .delivers settles, congrArg (notice :: ·) notices⟩

/-- What waits is delivered before the loop goes on after it. -/
theorem of_afterBatch (waiting : game.machine.queue ≠ [])
    (after : game.afterBatch.Settles [] deliveries batches outcome) :
    ∃ others result, game.Settles [] others (batches + 1) result ∧
      others.map Delivery.notice = game.machine.queue ++ deliveries.map Delivery.notice := by
  rw [afterBatch] at after
  rw [← Machine.takeNotices_fst] at waiting after ⊢
  obtain ⟨others, result, settles, notices⟩ := of_reactAll after
  exact ⟨others, result, .takes waiting settles, notices⟩

end Settles

/-- The loop of a game ends after some number of batches at most. -/
def SettlesWithin (bound : Nat) (game : Game η ℓ) : Prop :=
  ∃ deliveries batches outcome, batches ≤ bound ∧ game.Settles [] deliveries batches outcome

/-- Where nothing waits, there is no batch. -/
theorem settlesWithin_of_told (told : game.machine.queue = []) (bound : Nat) :
    game.SettlesWithin bound :=
  ⟨[], 0, _, Nat.zero_le bound, .ends (game.machine.takeNotices_fst.trans told)⟩

/-- The batch that waits comes before those that its deliveries leave. -/
theorem settlesWithin_succ (after : game.afterBatch.SettlesWithin bound) :
    game.SettlesWithin (bound + 1) := by
  by_cases told : game.machine.queue = []
  · exact settlesWithin_of_told told (bound + 1)
  · obtain ⟨_, batches, _, within, settles⟩ := after
    obtain ⟨others, result, more, -⟩ := settles.of_afterBatch told
    exact ⟨others, batches + 1, result, Nat.succ_le_succ within, more⟩

/-- After a batch, what waits tells of sub-states, and nothing waits if the batch did. -/
theorem queue_afterBatch (game : Game η ℓ) :
    (∀ notice ∈ game.afterBatch.machine.queue, notice.ofSubState = true) ∧
      ((∀ notice ∈ game.machine.queue, notice.ofSubState = true) →
        game.afterBatch.machine.queue = []) := by
  obtain ⟨news, queue, subs, silent⟩ := (game.withMachine game.machine.takeNotices.2).reactAll_queue
    game.machine.queue
  have empty : (game.withMachine game.machine.takeNotices.2).machine.queue = [] :=
    game.machine.queue_takeNotices
  have same : game.afterBatch.machine.queue = news := by
    rw [afterBatch, queue, empty, List.nil_append]
  rw [same]
  exact ⟨subs, silent⟩

/-- Every game settles within two batches: the first leaves what tells of sub-states, and the second
leaves nothing. -/
theorem settlesWithin_two (game : Game η ℓ) : game.SettlesWithin 2 := by
  obtain ⟨subs, -⟩ := game.queue_afterBatch
  obtain ⟨-, told⟩ := game.afterBatch.queue_afterBatch
  exact settlesWithin_succ (settlesWithin_succ (settlesWithin_of_told (told subs) 0))

/-- A game that settles as it should: the loop ends after two batches at most and comes to what
settling comes to, and every notice is delivered once. -/
structure DeliversOnce (game : Game η ℓ) (deliveries : List (Delivery η ℓ)) (batches : Nat) :
    Prop where
  /-- The loop ends, and comes to what settling comes to. -/
  settles : game.Settles [] deliveries batches game.settle
  /-- It can go no other way. -/
  only : ∀ others count outcome, game.Settles [] others count outcome →
    others = deliveries ∧ count = batches ∧ outcome = game.settle
  /-- It takes two batches at most. -/
  batches_le : batches ≤ 2
  /-- What a reaction queues comes behind what waits. -/
  queued : ∀ delivery ∈ deliveries,
    (delivery.game.react delivery.notice).value.machine.queue =
      delivery.game.machine.queue ++ delivery.news
  /-- What waited and what reactions queued is delivered, each once, in the order of the queue. -/
  delivered : deliveries.map Delivery.notice =
    game.machine.queue ++ deliveries.flatMap Delivery.news
  /-- Nothing waits in the machine any more. -/
  notices : game.settle.value.machine.notices = []
  /-- Nothing waits in its sub-states. -/
  subNotices : game.settle.value.machine.subNotices = []

/-- Every game settles as it should. -/
theorem exists_deliversOnce (game : Game η ℓ) :
    ∃ deliveries batches, game.DeliversOnce deliveries batches := by
  obtain ⟨deliveries, batches, outcome, few, settles⟩ := game.settlesWithin_two
  obtain rfl : game.settle = outcome := settles.reactBatches (Nat.lt_succ_of_le few)
  obtain ⟨notices, subNotices⟩ := List.append_eq_nil_iff.1 settles.queue
  exact ⟨deliveries, batches, settles, fun _ _ _ => settles.unique, few,
    fun delivery _ => queue_delivery delivery, settles.delivered, notices, subNotices⟩

/-- Whatever happens to a game, nothing waits to be told between two operations, neither in its
machine nor in the sub-states. Whatever waits when a game settles, in an operation or on opening it,
is delivered once, and in order: the loop that delivers it has no bound of its own and yet ends,
after two batches at most, in every game there is. -/
theorem every_notice_delivered_once [SceneLoader ℓ] {bundle : Bundle} {config : Config} {host : η}
    {loader : ℓ} {opened : Game η ℓ}
    (valid : (Game.ofBundle bundle config host loader).value = .ok opened)
    (operations : List (Operation η ℓ)) :
    (opened.runAll operations).machine.notices = [] ∧
      (opened.runAll operations).machine.subNotices = [] ∧
        ∀ unsettled : Game η ℓ, ∃ deliveries batches,
          unsettled.DeliversOnce deliveries batches := by
  have rest := runAll_atRest (ofBundle_atRest valid).1 operations
  obtain ⟨notices, subNotices⟩ := List.append_eq_nil_iff.1 rest.told
  exact ⟨notices, subNotices, exists_deliversOnce⟩

/-- A title is left for free roam. That is told in one batch, and that free roam is explored in a
second one. -/
theorem every_notice_delivered_once_roaming :
    ∃ opened, (Game.ofBundle .omen .staged Recorder.empty InstantLoader.empty).value = .ok opened ∧
      let game := opened.runAll [.requestState (.switch .freeRoam)]
      game.machine.notices = [] ∧ game.machine.subNotices = [] ∧
        ∃ deliveries, (game.proceed (.press .none)).value.DeliversOnce deliveries 2 ∧
          deliveries.map Delivery.notice = [.exited .title, .changed (some .title) .freeRoam,
            .entered .freeRoam, .subEntered .exploration] := by
  refine ⟨_, rfl, ?_⟩
  intro game
  have valid : (Game.ofBundle .omen .staged Recorder.empty InstantLoader.empty).value = .ok _ := rfl
  obtain ⟨notices, subNotices, settled⟩ :=
    every_notice_delivered_once valid [.requestState (.switch .freeRoam)]
  let left := (game.proceed (.press .none)).value
  have first : left.machine.queue =
      [.exited .title, .changed (some .title) .freeRoam, .entered .freeRoam] := by decide +kernel
  have second : left.afterBatch.machine.queue = [.subEntered .exploration] := by decide +kernel
  have third : left.afterBatch.afterBatch.machine.takeNotices.1 = [] := by decide +kernel
  obtain ⟨_, _, explored, last⟩ := Settles.of_afterBatch (second ▸ List.cons_ne_nil _ _)
    (.ends third)
  obtain ⟨deliveries, _, settles, all⟩ := explored.of_afterBatch (first ▸ List.cons_ne_nil _ _)
  obtain ⟨_, _, once⟩ := settled left
  obtain ⟨rfl, rfl, -⟩ := once.only _ _ _ settles
  refine ⟨notices, subNotices, deliveries, once, ?_⟩
  rw [all, last, first, second]
  rfl

end Game

end Narrative
