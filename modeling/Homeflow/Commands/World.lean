import Homeflow.Commands.Service
import Homeflow.Lib.FifoMutex
import Homeflow.Lib.Machine
import Mathlib.Logic.Function.Basic

namespace Homeflow.Commands

-- Where the coroutine of an accepted command is suspended.
inductive Phase where
  -- On the lock of its device.
  | waiting
  -- Inside the locked section, on the adapter's execute.
  | executing
  -- Inside the locked section, on the adapter's get_state.
  | reconciling
deriving DecidableEq, Repr

structure Task where
  running : Command
  ref : ProviderDeviceRef
  params : CommandParams
  lock : LockId
  phase : Phase

-- The call of the adapter a command makes inside its locked section.
def Task.call (task : Task) (id : Uuid) : Effect :=
  .executed id task.ref ⟨task.running.action, task.params⟩

-- The service with every command in flight, the lock objects, and what the calls
-- of submit that have ended returned.
structure World where
  service : CommandService
  heap : LockId → FifoMutex Uuid := fun _ => .unlocked
  tasks : OrderedDict Uuid Task := .empty
  returned : OrderedDict Uuid Command := .empty

-- How a call of submit answers before it first suspends.
inductive Reply where
  | refused (error : HomeFlowError)
  | returned (command : Command)
  | suspended (id : Uuid)

-- The points at which the event loop runs a coroutine on to its next await.
inductive Label where
  | submit (call : SubmitCall)
  | enter (id : Uuid)
  | executeReturns (id : Uuid) (outcome : AdapterOutcome ProviderCommandResult)
  | getStateReturns (id : Uuid) (outcome : AdapterOutcome ProviderState)
  -- The submitting task is cancelled from outside.
  | cancelTask (id : Uuid)
  -- An adapter's subscription reports a state.
  | ingest (ref : ProviderDeviceRef) (state : ProviderState)

namespace World

variable (clock : Nat → Time) (coercion : Coercion)

def setLock (world : World) (lock : LockId) (mutex : FifoMutex Uuid) : World :=
  { world with heap := Function.update world.heap lock mutex }

-- A command that gets its lock calls the adapter at once.
def begin (world : World) (id : Uuid) (task : Task) : World :=
  { world with
    service := world.service.emit (task.call id)
    tasks := world.tasks.set id { task with phase := .executing } }

-- The locked section ends, whatever the command came to.
def leave (world : World) (id : Uuid) (task : Task) : World :=
  { world.setLock task.lock (world.heap task.lock).release with tasks := world.tasks.erase id }

def finished (world : World) (id : Uuid) (ended : CommandService × Command) : World :=
  { world with service := ended.1, returned := world.returned.set id ended.2 }

-- A created command is marked as running and asks for the lock of its device: it
-- enters the locked section at once when the lock is free, else it waits.
def join (world : World) (command : Command) (ref : ProviderDeviceRef) (params : CommandParams) :
    World :=
  let (started, running) := world.service.start clock command
  let (service, lock) := started.deviceLock command.deviceId
  let mutex := world.heap lock
  let task : Task :=
    { running, ref, params, lock, phase := if mutex.idle then .executing else .waiting }
  { world.setLock lock (mutex.acquire command.id) with
    service := if mutex.idle then service.emit (task.call command.id) else service
    tasks := world.tasks.set command.id task }

def submit (world : World) (call : SubmitCall) : World × Reply :=
  match CommandService.check clock coercion world.service call with
  | (service, .error error) => ({ world with service }, .refused error)
  | (service, .ok accepted) =>
      let (service, command) := service.create clock call accepted
      match service.registry.refFor accepted.device.id with
      | none => ({ world with service }, .refused .deviceNotFound)
      | some ref =>
          if ref.provider ∈ service.providers then
            ({ world with service }.join clock command ref accepted.params,
              .suspended command.id)
          else
            let ended := service.finish clock command .failed (some "provider_unavailable")
            (world.finished command.id ended, .returned ended.2)

-- The locked section once execute has ended.
def executeReturns (world : World) (id : Uuid) (task : Task)
    (outcome : AdapterOutcome ProviderCommandResult) : World :=
  let service := world.service.emit (.executeEnded id outcome)
  match service.afterExecute clock task.running task.ref outcome with
  | some ended => (world.leave id task).finished id ended
  -- The lock is kept while the state is read back.
  | none =>
      { world with
        service := (service.publish clock .commandTimedOut task.running).emit
          (.readBack id task.ref)
        tasks := world.tasks.set id { task with phase := .reconciling } }

def getStateReturns (world : World) (id : Uuid) (task : Task)
    (outcome : AdapterOutcome ProviderState) : World :=
  let service := world.service.emit (.readBackEnded id outcome)
  (world.leave id task).finished id
    (service.afterGetState clock task.running task.ref task.params outcome)

def cancelTask (world : World) (id : Uuid) (task : Task) : World :=
  match task.phase with
  | .waiting =>
      { world.setLock task.lock ((world.heap task.lock).abandon id) with
        tasks := world.tasks.erase id }
  | .executing | .reconciling => world.leave id task

def step (world : World) : Label → Option World
  | .submit call => some (world.submit clock coercion call).1
  | .enter id =>
      match world.tasks.get? id with
      | some task =>
          if task.phase = .waiting then
            ((world.heap task.lock).grant id).map fun mutex =>
              (world.setLock task.lock mutex).begin id task
          else none
      | none => none
  | .executeReturns id outcome =>
      match world.tasks.get? id with
      | some task =>
          if task.phase = .executing then some (world.executeReturns clock id task outcome)
          else none
      | none => none
  | .getStateReturns id outcome =>
      match world.tasks.get? id with
      | some task =>
          if task.phase = .reconciling then some (world.getStateReturns clock id task outcome)
          else none
      | none => none
  | .cancelTask id => (world.tasks.get? id).map fun task => world.cancelTask id task
  | .ingest ref state =>
      some { world with service := world.service.ingest clock ref state .providerEvent }

end World

-- The gateway at startup, with the devices its adapters reported.
def initial (registry : DeviceRegistry) (providers : List String) : World :=
  { service := { registry, providers } }

end Homeflow.Commands
