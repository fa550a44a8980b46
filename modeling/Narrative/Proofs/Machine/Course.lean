import Narrative.Proofs.Machine.Transition

/-!
# The course of a machine

A machine is used through its operations, in any order, with a scene loader that may change in any
way between them. Beside the machine stand the notices that were taken so far and a chronicle of
what happened around it: the changes it told, the scenes it asked for, and what it heard about
them. Nothing of this is part of the machine; it is what the machine is held against.
-/

namespace Narrative.Machine

/-- What can be done with a machine. -/
inductive Command (ℓ : Type) where
  /-- Enter a state without loading its scene. -/
  | enterState (kind : StateKind)
  /-- Change to a state, through loading where it needs that. -/
  | switchState (next : StateKind)
  /-- Change to a state at once. -/
  | enterScene (next : StateKind)
  /-- Ask for the scene of the current state. -/
  | pollScene
  /-- The active state asks for a successor. -/
  | request (next : Request)
  /-- Meet the request of the current state. -/
  | processRequest
  /-- Change to a sub-state of free roam. -/
  | switchSub (next : SubKind)
  /-- Leave the sub-state of free roam. -/
  | exitSub
  /-- The sub-state of free roam asks for a successor. -/
  | requestSub (next : SubKind)
  /-- Meet the request of the sub-state of free roam. -/
  | processSub
  /-- Take the notices. -/
  | takeNotices
  /-- Take the notices of free roam's sub-states, before the machine gets them. -/
  | takeSubNotices
  /-- The scene loader changes. -/
  | loader (change : ℓ → ℓ)

/-- What happens around a machine. -/
inductive Event where
  /-- A change is told. -/
  | notice (notice : Notice)
  /-- A scene is asked for, and the load gets a ticket. -/
  | loads (scene : String) (transition : Transition) (ticket : Ticket)
  /-- How far a load has come is asked and answered. -/
  | polls (ticket : Ticket) (phase : Phase)
  deriving DecidableEq

/-- A scene loader, and what was heard between it and the machine. -/
structure Overheard (ℓ : Type) where
  /-- The scene loader. -/
  loader : ℓ
  /-- What was heard, oldest first. -/
  heard : List Event

instance {ℓ : Type} [SceneLoader ℓ] : SceneLoader (Overheard ℓ) where
  load overheard scene transition :=
    let (ticket, loader) := SceneLoader.load overheard.loader scene transition
    (ticket, ⟨loader, overheard.heard ++ [.loads scene transition ticket]⟩)
  poll overheard ticket :=
    let (phase, loader) := SceneLoader.poll overheard.loader ticket
    (phase, ⟨loader, overheard.heard ++ [.polls ticket phase]⟩)

/-- What an operation comes to. -/
structure Outcome (ℓ : Type) where
  /-- The machine after it. -/
  machine : Machine
  /-- The loader after it. -/
  loader : ℓ
  /-- Why it was refused, if it was. -/
  error : Option MachineError
  /-- The notices that it took. -/
  taken : List Notice

section Perform

variable {ℓ : Type}

/-- A change of state comes to the machine that moved; one that is refused leaves all as it is. -/
def Outcome.ofMove (machine : Machine) (loader : ℓ) :
    Except MachineError (Machine × ℓ) → Outcome ℓ
  | .ok (moved, loader) => ⟨moved, loader, none, []⟩
  | .error error => ⟨machine, loader, some error, []⟩

/-- What is done with the sub-states of free roam is refused while it is not active. -/
def Outcome.ofSub (machine : Machine) (loader : ℓ)
    (change : SubMachine → SubMachine × Option MachineError) : Outcome ℓ :=
  match machine.freeRoam with
  | .ok sub =>
    let (sub, error) := change sub
    ⟨machine.withSubMachine sub, loader, error, []⟩
  | .error error => ⟨machine, loader, some error, []⟩

/-- What is done with the sub-states of free roam while it is active. -/
theorem Outcome.ofSub_ok {machine : Machine} {sub : SubMachine}
    (roaming : machine.freeRoam = .ok sub) (loader : ℓ)
    (change : SubMachine → SubMachine × Option MachineError) :
    ofSub machine loader change =
      ⟨machine.withSubMachine (change sub).1, loader, (change sub).2, []⟩ := by
  unfold ofSub
  rw [roaming]

/-- What an outcome adds to what a machine had told, taken or not. -/
def Outcome.news (machine : Machine) (outcome : Outcome ℓ) : List Notice :=
  (outcome.taken ++ outcome.machine.queue).drop machine.queue.length

/-- Why a request was refused, if there was one and it was. -/
def refusal {α : Type} : Option (Except MachineError α) → Option MachineError
  | some (.error error) => some error
  | _ => none

/-- Carry out an operation. -/
def Command.perform [SceneLoader ℓ] (machine : Machine) (loader : Overheard ℓ) :
    Command ℓ → Outcome (Overheard ℓ)
  | enterState kind =>
    .ofMove machine loader ((machine.enterState kind).value.map fun moved => (moved, loader))
  | switchState next => .ofMove machine loader (machine.switchState next loader).value
  | enterScene next => .ofMove machine loader (machine.enterScene next loader).value
  | pollScene =>
    let (polled, loader) := (machine.pollScene loader).value
    ⟨polled, loader, none, []⟩
  | request next => ⟨(machine.request next).value, loader, none, []⟩
  | processRequest =>
    let (result, met, loader) := (machine.processRequest loader).value
    ⟨met, loader, refusal result, []⟩
  | switchSub next =>
    .ofSub machine loader fun sub =>
      match (sub.switchTo next).value with
      | .ok switched => (switched, none)
      | .error error => (sub, some error)
  | exitSub => .ofSub machine loader fun sub => (sub.exit, none)
  | requestSub next => .ofSub machine loader fun sub => ((sub.request next).value, none)
  | processSub =>
    .ofSub machine loader fun sub =>
      let (result, met) := sub.processRequest.value
      (met, refusal result)
  | takeNotices =>
    let (notices, told) := machine.takeNotices
    ⟨told, loader, none, notices⟩
  | takeSubNotices =>
    match machine.freeRoam with
    | .ok sub =>
      let (notices, told) := sub.takeNotices
      ⟨machine.withSubMachine told, loader, none, notices⟩
    | .error error => ⟨machine, loader, some error, []⟩
  | .loader change => ⟨machine, ⟨change loader.loader, loader.heard⟩, none, []⟩

/-- Meeting a request is a change of state from where the request is used up. -/
theorem Command.perform_processRequest [SceneLoader ℓ] (machine : Machine)
    (loader : Overheard ℓ) :
    processRequest.perform machine loader =
      match machine.pendingRequest? with
      | none => ⟨machine, loader, none, []⟩
      | some next =>
        .ofMove machine.dropRequest loader (machine.dropRequest.fulfil loader next).value := by
  rw [perform]
  unfold Machine.processRequest
  cases machine.pendingRequest? with
  | none => rfl
  | some next =>
    generalize fulfilled : machine.dropRequest.fulfil loader next = met
    obtain ⟨result, entries⟩ := met
    cases result with
    | ok _ => simp [fulfilled, Outcome.ofMove, refusal]
    | error _ => simp [fulfilled, Outcome.ofMove, refusal]

section Roaming

variable [SceneLoader ℓ] {machine : Machine} {sub : SubMachine}

/-- While free roam is active, a switch to a sub-state that there is changes its sub-states. -/
theorem Command.perform_switchSub {switched : SubMachine} {next : SubKind}
    (roaming : machine.freeRoam = .ok sub) (known : (sub.switchTo next).value = .ok switched)
    (loader : Overheard ℓ) :
    (switchSub next).perform machine loader =
      ⟨machine.withSubMachine switched, loader, none, []⟩ := by
  rw [perform, Outcome.ofSub_ok roaming, known]

/-- While free roam is active, its sub-state can ask for a successor. -/
theorem Command.perform_requestSub (roaming : machine.freeRoam = .ok sub) (loader : Overheard ℓ)
    (next : SubKind) :
    (requestSub next).perform machine loader =
      ⟨machine.withSubMachine (sub.request next).value, loader, none, []⟩ := by
  rw [perform, Outcome.ofSub_ok roaming]

/-- While free roam is active, the request of its sub-state can be met. -/
theorem Command.perform_processSub (roaming : machine.freeRoam = .ok sub)
    (loader : Overheard ℓ) :
    processSub.perform machine loader =
      ⟨machine.withSubMachine sub.processRequest.value.2, loader,
        refusal sub.processRequest.value.1, []⟩ := by
  rw [perform, Outcome.ofSub_ok roaming]

end Roaming

/-- What an operation told and heard, in order: a poll hears its answer before anything is told;
otherwise a scene is asked for when the change to its state was told. -/
def Command.inOrder (told : List Notice) (heard : List Event) : Command ℓ → List Event
  | pollScene => heard ++ told.map Event.notice
  | _ => told.map Event.notice ++ heard

/-- Where nothing was told or heard, there is nothing to put in order. -/
theorem Command.inOrder_nil (command : Command ℓ) : command.inOrder [] [] = [] := by
  cases command <;> rfl

end Perform

end Machine

open Machine (Command Event Outcome Overheard)

/-- A machine in the course of its operations. -/
structure Course (ℓ : Type) where
  /-- The machine. -/
  machine : Machine
  /-- The scene loader. -/
  loader : ℓ
  /-- The notices that were taken, oldest first. -/
  taken : List Notice
  /-- What happened around the machine, oldest first. -/
  chronicle : List Event

namespace Course

variable {ℓ : Type}

/-- The machine of a plan, before its first operation. -/
def start (plan : StatePlan) (tracing : Tracing) (loader : ℓ) : Course ℓ :=
  ⟨.ofPlan plan tracing, loader, [], []⟩

/-- All that the machine told: the notices that were taken, and those that still wait. -/
def log (course : Course ℓ) : List Notice := course.taken ++ course.machine.queue

variable [SceneLoader ℓ]

/-- What an operation comes to at some point of the course. -/
def outcome (course : Course ℓ) (operation : Command ℓ) : Outcome (Overheard ℓ) :=
  operation.perform course.machine ⟨course.loader, []⟩

/-- The course after an operation. -/
def step (course : Course ℓ) (operation : Command ℓ) : Course ℓ :=
  let outcome := course.outcome operation
  { machine := outcome.machine
    loader := outcome.loader.loader
    taken := course.taken ++ outcome.taken
    chronicle :=
      course.chronicle ++ operation.inOrder (outcome.news course.machine) outcome.loader.heard }

/-- The course after operations in order. -/
def runAll (course : Course ℓ) : List (Command ℓ) → Course ℓ
  | [] => course
  | operation :: rest => (course.step operation).runAll rest

end Course

end Narrative
