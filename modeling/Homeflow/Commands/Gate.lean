import Homeflow.Commands.Lifecycle

namespace Homeflow.Commands

open CommandService

-- What a submit must have found for the adapter to be called with a command.
structure Admissible (coercion : Coercion) (registry : DeviceRegistry) (call : SubmitCall)
    (ref : ProviderDeviceRef) (command : ProviderCommand) (device : Device) : Prop where
  registered : registry.get call.deviceId = some device
  ref : registry.refFor call.deviceId = some ref
  action : command.action = call.action
  params : validate coercion call.action call.parameters = .ok command.params
  capability : requiredCapabilityFor command.action command.params ∈ device.capabilities
  reachable : device.availability ≠ .offline
  belowHigh : classify command.action command.params ≠ .high
  setpoint : ∀ celsius, command.params = .targetTemperature celsius →
    ∃ minimum maximum, device.constraints.targetTemperatureMinC = some minimum ∧
      device.constraints.targetTemperatureMaxC = some maximum ∧
      minimum.le (.finite celsius.val) = true ∧ (PyFloat.finite celsius.val).le maximum = true

variable {clock : Nat → Time} {coercion : Coercion} {world after : World}

section Admissible

variable {registry : DeviceRegistry} {call : SubmitCall} {ref : ProviderDeviceRef}
  {command : ProviderCommand} {device : Device}

-- A lock is never opened and never unlatched.
theorem Admissible.never_opens (h : Admissible coercion registry call ref command device) :
    command.action ≠ .unlatch ∧
      ∀ desired, command = ⟨.setLockState, .lockState desired⟩ → desired.val ≠ .unlocked := by
  have hhigh := h.belowHigh
  constructor
  · intro haction
    rw [haction] at hhigh
    exact hhigh rfl
  · rintro desired rfl hunlocked
    simp [classify, hunlocked] at hhigh

theorem checkConstraints_iff {params : CommandParams} :
    checkConstraints device params = .ok () ↔
      ∀ celsius, params = .targetTemperature celsius →
        ∃ minimum maximum, device.constraints.targetTemperatureMinC = some minimum ∧
          device.constraints.targetTemperatureMaxC = some maximum ∧
          minimum.le (.finite celsius.val) = true ∧
          (PyFloat.finite celsius.val).le maximum = true := by
  cases params with
  | targetTemperature celsius =>
      cases hminimum : device.constraints.targetTemperatureMinC <;>
        cases hmaximum : device.constraints.targetTemperatureMaxC <;>
        simp [checkConstraints, hminimum, hmaximum]
  | onOff | brightness | volume | playback | lockState | noParams => simp [checkConstraints]

theorem CommandService.Accepts.admissible {accepted : Accepted}
    (h : Accepts coercion registry call accepted)
    (href : registry.refFor accepted.device.id = some ref) :
    Admissible coercion registry call ref ⟨call.action, accepted.params⟩ accepted.device :=
  ⟨h.registered, h.id_eq ▸ href, rfl, h.params, by simpa [Device.supports] using h.capability,
    h.reachable, h.notHigh, checkConstraints_iff.mp h.constraints⟩

end Admissible

-- A call that fails a check raises and leaves no command behind.
structure Refused (before after : World) : Prop where
  commands : after.service.commands = before.service.commands
  tasks : after.tasks = before.tasks
  returned : after.returned = before.returned
  life : ∀ id, life id after.service.trace = life id before.service.trace

theorem check_commands (service : CommandService) (call : SubmitCall) :
    (check clock coercion service call).1.commands = service.commands := by
  rcases check_denies clock coercion service call with hsame | ⟨device, reason, hdenied⟩
  · rw [hsame]
  · rw [hdenied, auditDenied]

theorem submit_refused {call : SubmitCall}
    (hinadmissible : ∀ ref command device,
      ¬Admissible coercion world.service.registry call ref command device) :
    ∃ error, (world.submit clock coercion call).2 = .refused error ∧
      Refused world (world.submit clock coercion call).1 := by
  cases hcheck : (check clock coercion world.service call).2 with
  | ok accepted =>
      have hok : check clock coercion world.service call =
          ((check clock coercion world.service call).1, .ok accepted) := by rw [← hcheck]
      obtain ⟨-, haccepts⟩ := check_ok hok
      obtain ⟨ref, href⟩ := haccepts.exists_ref
      exact absurd (haccepts.admissible href) (hinadmissible _ _ _)
  | error error =>
      have herror : check clock coercion world.service call =
          ((check clock coercion world.service call).1, .error error) := by rw [← hcheck]
      refine ⟨error, ?_, ?_⟩ <;> unfold World.submit <;> rw [herror]
      exact ⟨check_commands _ _, rfl, rfl, fun id => life_check _ _ _ _ _⟩

-- The commands in flight and the calls made of adapters all have one origin.
structure Originates (origin : Uuid → ProviderDeviceRef → ProviderCommand → Prop)
    (world : World) : Prop where
  flight : ∀ id task, world.tasks.get? id = some task →
    origin id task.ref ⟨task.running.action, task.params⟩
  executed : ∀ id ref command, .executed id ref command ∈ world.service.trace →
    origin id ref command

def Effect.executedId? : Effect → Option Uuid
  | .executed id _ _ => some id
  | _ => none

-- The commands the adapters were called for, in the order of the calls.
def executions (trace : List Effect) : List Uuid := trace.filterMap Effect.executedId?

theorem mem_executions {trace : List Effect} {id : Uuid} :
    id ∈ executions trace ↔ ∃ ref command, .executed id ref command ∈ trace := by
  simp only [executions, List.mem_filterMap]
  constructor
  · rintro ⟨effect, heffect, hid⟩
    cases effect with
    | executed other ref command =>
        obtain rfl := Option.some.inj hid
        exact ⟨ref, command, heffect⟩
    | remembered | recorded | published | executeEnded | readBack | readBackEnded => cases hid
  · rintro ⟨ref, command, hmem⟩
    exact ⟨_, hmem, rfl⟩

theorem executed_mem_life {trace : List Effect} {id : Uuid} {ref : ProviderDeviceRef}
    {command : ProviderCommand} :
    .executed id ref command ∈ life id trace ↔ .executed id ref command ∈ trace := by
  simp [life, Effect.concerns]

variable {origin : Uuid → ProviderDeviceRef → ProviderCommand → Prop}

-- A step that makes no new call of execute, and takes on no new command.
theorem Originates.of_life (h : Originates origin world)
    (htasks : ∀ id task, after.tasks.get? id = some task → ∃ held,
      world.tasks.get? id = some held ∧ task.ref = held.ref ∧ task.running = held.running ∧
        task.params = held.params)
    (hlife : ∀ id ref command, .executed id ref command ∈ life id after.service.trace →
      .executed id ref command ∈ life id world.service.trace) : Originates origin after := by
  refine ⟨fun id task htask => ?_, fun id ref command hmem => ?_⟩
  · obtain ⟨held, hheld, href, hrunning, hparams⟩ := htasks id task htask
    rw [href, hrunning, hparams]
    exact h.flight id held hheld
  · exact h.executed id ref command
      (executed_mem_life.mp (hlife id ref command (executed_mem_life.mpr hmem)))

theorem SinceRunning.executed {id other : Uuid} {task : Task} {since : List Effect}
    {ref : ProviderDeviceRef} {command : ProviderCommand} (h : SinceRunning id task since)
    (hmem : .executed other ref command ∈ since) :
    other = id ∧ ref = task.ref ∧ command = ⟨task.running.action, task.params⟩ := by
  unfold SinceRunning at h
  split at h
  · subst h
    cases hmem
  · subst h
    simpa [Task.call] using hmem
  · obtain ⟨outcome, -, rfl⟩ := h
    simpa [Task.call] using hmem

theorem Originates.join (h : Originates origin world) {call : SubmitCall} {accepted : Accepted}
    {ref : ProviderDeviceRef}
    (horigin : origin world.service.ids ref ⟨call.action, accepted.params⟩) :
    Originates origin
      ({ world with service := (world.service.create clock call accepted).1 }.join clock
        (world.service.create clock call accepted).2 ref accepted.params) := by
  obtain ⟨task, since, htasks, hrunning, ⟨href, hparams⟩, hsince, hlife⟩ := join_told clock
    { world with service := (world.service.create clock call accepted).1 }
    (world.service.create clock call accepted).2 ref accepted.params
  have haction : task.running.action = call.action := by
    rw [hrunning]
    rfl
  have hnew : origin world.service.ids task.ref ⟨task.running.action, task.params⟩ := by
    rw [href, hparams, haction]
    exact horigin
  refine ⟨fun id held hheld => ?_, fun id found command hmem => ?_⟩
  · rw [htasks] at hheld
    obtain ⟨rfl, rfl⟩ | ⟨-, hheld⟩ := OrderedDict.get?_set_eq_some.mp hheld
    · exact hnew
    · exact h.flight id held hheld
  · have hold := executed_mem_life.mpr hmem
    rw [hlife, life_create, create_id] at hold
    simp only [List.mem_append, List.mem_ite_nil_right, List.mem_singleton, reduceCtorEq, and_false,
      or_false, executed_mem_life] at hold
    obtain hold | ⟨hid, hold⟩ := hold
    · exact h.executed id found command hold
    · obtain ⟨-, rfl, rfl⟩ := hsince.executed (by simpa using hold)
      exact hid ▸ hnew

theorem originates_step {label : Label} (h : Originates origin world)
    (horigin : ∀ call ref command device, label = .submit call →
      Admissible coercion world.service.registry call ref command device →
      origin world.service.ids ref command)
    (hstep : World.step clock coercion world label = some after) : Originates origin after := by
  cases step_moved hstep with
  | @refused call _ _ hcheck =>
      have hlife := fun id => life_check clock coercion world.service id call
      rw [hcheck] at hlife
      exact h.of_life (fun id task htask => ⟨task, htask, rfl, rfl, rfl⟩)
        fun id _ _ hmem => hlife id ▸ hmem
  | unwired =>
      refine h.of_life (fun id task htask => ⟨task, htask, rfl, rfl, rfl⟩) fun id _ _ hmem => ?_
      dsimp only [World.finished] at hmem
      rw [life_finish, life_create, create_id] at hmem
      simpa using hmem
  | joined haccepts href => exact h.join (horigin _ _ _ _ rfl (haccepts.admissible href))
  | @entered id task mutex htask =>
      refine ⟨fun other held hheld => ?_, fun other ref command hmem => ?_⟩
      · obtain ⟨before, hbefore, href, hrunning, hparams⟩ := kept_rephase htask hheld
        rw [href, hrunning, hparams]
        exact h.flight other before hbefore
      · rcases List.mem_append.mp hmem with hmem | hmem
        · exact h.executed other ref command hmem
        · obtain ⟨rfl, rfl, rfl⟩ : other = id ∧ ref = task.ref ∧
              command = ⟨task.running.action, task.params⟩ := by
            simpa [Task.call] using hmem
          exact h.flight other task htask
  | ended htask _ hended =>
      refine h.of_life (fun other task hget => kept_erase hget) fun other _ _ hmem => ?_
      obtain ⟨_, _, _, hfinishes⟩ := finishes_afterExecute hended
      dsimp only [World.finished] at hmem
      rw [hfinishes.life_eq, life_emit] at hmem
      simpa using hmem
  | timedOut htask =>
      refine h.of_life (fun other task hget => kept_rephase htask hget) fun other _ _ hmem => ?_
      simpa using hmem
  | @reconciled id task outcome =>
      refine h.of_life (fun other task hget => kept_erase hget) fun other _ _ hmem => ?_
      obtain ⟨_, _, _, hfinishes, -⟩ := finishes_afterGetState clock
        (world.service.emit (.readBackEnded id outcome)) task.running task.ref task.params outcome
      dsimp only [World.finished] at hmem
      rw [hfinishes.life_eq, life_emit] at hmem
      simpa using hmem
  | abandoned | interrupted =>
      exact h.of_life (fun other task hget => kept_erase hget) fun _ _ _ hmem => hmem
  | ingested =>
      refine h.of_life (fun id task htask => ⟨task, htask, rfl, rfl, rfl⟩) fun id _ _ hmem => ?_
      dsimp only at hmem
      rwa [life_ingest] at hmem

end Homeflow.Commands
