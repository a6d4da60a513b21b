import Homeflow.Commands.Lemmas

namespace Homeflow.Commands

open CommandService

namespace CommandService

variable {clock : Nat → Time} {coercion : Coercion} {service held : CommandService}
  {call : SubmitCall}

-- What submit has found when it creates a command.
structure Accepts (coercion : Coercion) (registry : DeviceRegistry) (call : SubmitCall)
    (accepted : Accepted) : Prop where
  registered : registry.get call.deviceId = some accepted.device
  params : validate coercion call.action call.parameters = .ok accepted.params
  capability : accepted.device.supports (requiredCapabilityFor call.action accepted.params) = true
  constraints : checkConstraints accepted.device accepted.params = .ok ()
  risk : accepted.risk = classify call.action accepted.params
  notHigh : classify call.action accepted.params ≠ .high
  reachable : accepted.device.availability ≠ .offline

-- An accepted call leaves the service as it was.
theorem check_ok {accepted : Accepted}
    (h : check clock coercion service call = (held, .ok accepted)) :
    held = service ∧ Accepts coercion service.registry call accepted := by
  unfold check at h
  split at h
  · cases h
  · rename_i device hdevice
    split at h
    · cases h
    · rename_i params hparams
      split at h
      · cases h
      · rename_i hcapability
        split at h
        · cases h
        · rename_i hconstraints
          dsimp only at h
          split at h
          · cases h
          · rename_i hrisk
            split at h
            · cases h
            · rename_i hreachable
              obtain ⟨rfl, hok⟩ := Prod.mk.inj h
              cases hok
              exact ⟨rfl, hdevice, hparams, by simpa using hcapability, hconstraints, rfl, hrisk,
                hreachable⟩

theorem check_of_accepts {accepted : Accepted}
    (h : Accepts coercion service.registry call accepted) :
    check clock coercion service call = (service, .ok accepted) := by
  obtain ⟨device, params, risk⟩ := accepted
  obtain ⟨hdevice, hparams, hcapability, hconstraints, hrisk, hnotHigh, hreachable⟩ := h
  dsimp only at *
  subst hrisk
  simp only [check, hdevice, hparams, hcapability, Bool.not_true, Bool.false_eq_true, if_false,
    hconstraints, hnotHigh, hreachable]

theorem Accepts.id_eq {registry : DeviceRegistry} {accepted : Accepted}
    (h : Accepts coercion registry call accepted) : accepted.device.id = call.deviceId :=
  registry.devices_id _ _ h.registered

theorem Accepts.exists_ref {registry : DeviceRegistry} {accepted : Accepted}
    (h : Accepts coercion registry call accepted) :
    ∃ ref, registry.refFor accepted.device.id = some ref := by
  have hsome : (registry.devices.get? call.deviceId).isSome :=
    Option.isSome_iff_exists.mpr ⟨_, h.registered⟩
  rw [h.id_eq]
  exact Option.isSome_iff_exists.mp (registry.devices_ref _ hsome)

@[simp] theorem create_id (accepted : Accepted) :
    (create clock service call accepted).2.id = service.ids := rfl

@[simp] theorem create_deviceId (accepted : Accepted) :
    (create clock service call accepted).2.deviceId = accepted.device.id := rfl

@[simp] theorem create_ids (accepted : Accepted) :
    (create clock service call accepted).1.ids = service.ids + 1 := rfl

-- The lock a command is given: the one in the table, else a new one. The table keeps
-- no other entry than those it had.
structure Chosen (before after : CommandService) (deviceId : Uuid) (lock : LockId) : Prop where
  found : after.locks.get? deviceId = some lock
  others : ∀ other held, other ≠ deviceId → after.locks.get? other = some held →
    before.locks.get? other = some held
  choice : (before.locks.get? deviceId = some lock ∧ after.nextLock = before.nextLock) ∨
    (before.locks.get? deviceId = none ∧ lock = before.nextLock ∧
      after.nextLock = before.nextLock + 1)

theorem deviceLock_chosen (service : CommandService) (deviceId : Uuid) :
    Chosen service (service.deviceLock deviceId).1 deviceId (service.deviceLock deviceId).2 := by
  unfold deviceLock
  cases hlock : service.locks.get? deviceId with
  | some lock =>
      refine ⟨?_, fun other held _ hget => ?_, .inl ⟨hlock, rfl⟩⟩
      · exact (OrderedDict.get?_moveToEnd _ _ _).trans hlock
      · exact (OrderedDict.get?_moveToEnd _ _ _).symm.trans hget
  | none =>
      refine ⟨?_, fun other held hne hget => ?_, .inr ⟨hlock, rfl, rfl⟩⟩
      · exact (OrderedDict.get?_moveToEnd _ _ _).trans (OrderedDict.get?_set_self _ _ _)
      · rw [OrderedDict.get?_moveToEnd, OrderedDict.get?_set, if_neg hne] at hget
        split at hget
        · exact OrderedDict.get?_of_popFirst hget
        · exact hget

theorem deviceLock_rest (service : CommandService) (deviceId : Uuid) :
    (service.deviceLock deviceId).1 = { service with
      locks := (service.deviceLock deviceId).1.locks
      nextLock := (service.deviceLock deviceId).1.nextLock } := by
  unfold deviceLock
  cases service.locks.get? deviceId <;> rfl

theorem afterExecute_eq_none_iff {running : Command} {ref : ProviderDeviceRef}
    {outcome : AdapterOutcome ProviderCommandResult} :
    afterExecute clock service running ref outcome = none ↔ outcome.timedOut = true := by
  cases outcome with
  | returned result => simp [afterExecute, AdapterOutcome.timedOut]
  | raised error => cases error <;> simp [afterExecute, AdapterOutcome.timedOut]
  | deadline => simp [afterExecute, AdapterOutcome.timedOut]

end CommandService

variable (clock : Nat → Time) (coercion : Coercion)

-- Everything a step of the world can do.
inductive Moved (world : World) : Label → World → Prop where
  | refused {call : SubmitCall} {service : CommandService} {error : HomeFlowError}
      (hcheck : check clock coercion world.service call = (service, .error error)) :
      Moved world (.submit call) { world with service }
  | unwired {call : SubmitCall} {accepted : Accepted} {ref : ProviderDeviceRef}
      (haccepts : Accepts coercion world.service.registry call accepted)
      (href : world.service.registry.refFor accepted.device.id = some ref)
      (hwired : ref.provider ∉ world.service.providers) :
      Moved world (.submit call)
        (world.finished world.service.ids
          ((world.service.create clock call accepted).1.finish clock
            (world.service.create clock call accepted).2 .failed (some "provider_unavailable")))
  | joined {call : SubmitCall} {accepted : Accepted} {ref : ProviderDeviceRef}
      (haccepts : Accepts coercion world.service.registry call accepted)
      (href : world.service.registry.refFor accepted.device.id = some ref)
      (hwired : ref.provider ∈ world.service.providers) :
      Moved world (.submit call)
        ({ world with service := (world.service.create clock call accepted).1 }.join clock
          (world.service.create clock call accepted).2 ref accepted.params)
  | entered {id : Uuid} {task : Task} {mutex : FifoMutex Uuid}
      (htask : world.tasks.get? id = some task) (hphase : task.phase = .waiting)
      (hgrant : (world.heap task.lock).grant id = some mutex) :
      Moved world (.enter id) ((world.setLock task.lock mutex).begin id task)
  | ended {id : Uuid} {task : Task} {outcome : AdapterOutcome ProviderCommandResult}
      {result : CommandService × Command}
      (htask : world.tasks.get? id = some task) (hphase : task.phase = .executing)
      (hended : (world.service.emit (.executeEnded id outcome)).afterExecute clock task.running
        task.ref outcome = some result) :
      Moved world (.executeReturns id outcome) ((world.leave id task).finished id result)
  | timedOut {id : Uuid} {task : Task} {outcome : AdapterOutcome ProviderCommandResult}
      (htask : world.tasks.get? id = some task) (hphase : task.phase = .executing)
      (htimeout : outcome.timedOut = true) :
      Moved world (.executeReturns id outcome)
        { world with
          service := ((world.service.emit (.executeEnded id outcome)).publish clock
            .commandTimedOut task.running).emit (.readBack id task.ref)
          tasks := world.tasks.set id { task with phase := .reconciling } }
  | reconciled {id : Uuid} {task : Task} {outcome : AdapterOutcome ProviderState}
      (htask : world.tasks.get? id = some task) (hphase : task.phase = .reconciling) :
      Moved world (.getStateReturns id outcome)
        ((world.leave id task).finished id
          ((world.service.emit (.readBackEnded id outcome)).afterGetState clock task.running
            task.ref task.params outcome))
  | abandoned {id : Uuid} {task : Task} (htask : world.tasks.get? id = some task)
      (hphase : task.phase = .waiting) :
      Moved world (.cancelTask id)
        { world.setLock task.lock ((world.heap task.lock).abandon id) with
          tasks := world.tasks.erase id }
  | interrupted {id : Uuid} {task : Task} (htask : world.tasks.get? id = some task)
      (hphase : task.phase ≠ .waiting) : Moved world (.cancelTask id) (world.leave id task)
  | ingested {ref : ProviderDeviceRef} {state : ProviderState} :
      Moved world (.ingest ref state)
        { world with service := world.service.ingest clock ref state .providerEvent }

variable {clock coercion}

theorem submit_of_accepts {world : World} {call : SubmitCall} {accepted : Accepted}
    {ref : ProviderDeviceRef} (haccepts : Accepts coercion world.service.registry call accepted)
    (href : world.service.registry.refFor accepted.device.id = some ref)
    (hwired : ref.provider ∈ world.service.providers) :
    world.submit clock coercion call =
      ({ world with service := (world.service.create clock call accepted).1 }.join clock
        (world.service.create clock call accepted).2 ref accepted.params,
        .suspended world.service.ids) := by
  have href' : (world.service.create clock call accepted).1.registry.refFor accepted.device.id =
      some ref := href
  have hwired' : ref.provider ∈ (world.service.create clock call accepted).1.providers := hwired
  simp only [World.submit, check_of_accepts haccepts, href', hwired', if_true, create_id]

theorem submit_moved (world : World) (call : SubmitCall) :
    Moved clock coercion world (.submit call) (world.submit clock coercion call).1 := by
  unfold World.submit
  split
  · rename_i service error hcheck
    exact .refused hcheck
  · rename_i service accepted hcheck
    obtain ⟨rfl, haccepts⟩ := check_ok hcheck
    obtain ⟨ref, href⟩ := haccepts.exists_ref
    dsimp only
    rw [show (create clock world.service call accepted).1.registry.refFor accepted.device.id =
      some ref from href]
    dsimp only
    split
    · rename_i hwired
      exact .joined haccepts href hwired
    · rename_i hwired
      exact .unwired haccepts href hwired

theorem step_moved {world after : World} {label : Label}
    (h : World.step clock coercion world label = some after) :
    Moved clock coercion world label after := by
  cases label with
  | submit call =>
      obtain rfl := Option.some.inj h
      exact submit_moved world call
  | enter id =>
      simp only [World.step] at h
      split at h
      · rename_i task htask
        split at h
        · rename_i hphase
          obtain ⟨mutex, hgrant, rfl⟩ := Option.map_eq_some_iff.mp h
          exact .entered htask hphase hgrant
        · cases h
      · cases h
  | executeReturns id outcome =>
      simp only [World.step] at h
      split at h
      · rename_i task htask
        split at h
        · rename_i hphase
          obtain rfl := Option.some.inj h
          unfold World.executeReturns
          dsimp only
          split
          · rename_i result hended
            exact .ended htask hphase hended
          · rename_i hnone
            exact .timedOut htask hphase (afterExecute_eq_none_iff.mp hnone)
        · cases h
      · cases h
  | getStateReturns id outcome =>
      simp only [World.step] at h
      split at h
      · rename_i task htask
        split at h
        · rename_i hphase
          obtain rfl := Option.some.inj h
          exact .reconciled htask hphase
        · cases h
      · cases h
  | cancelTask id =>
      obtain ⟨task, htask, rfl⟩ := Option.map_eq_some_iff.mp h
      unfold World.cancelTask
      split
      · rename_i hphase
        exact .abandoned htask hphase
      · rename_i hphase
        exact .interrupted htask (by simp [hphase])
      · rename_i hphase
        exact .interrupted htask (by simp [hphase])
  | ingest ref state =>
      obtain rfl := Option.some.inj h
      exact .ingested

section Join

variable (clock) (world : World) (command : Command) (ref : ProviderDeviceRef)
  (params : CommandParams)

-- To join the queue of a lock touches neither the devices nor the adapters.
theorem join_rest :
    (world.join clock command ref params).service.registry = world.service.registry ∧
      (world.join clock command ref params).service.providers = world.service.providers ∧
      (world.join clock command ref params).service.ids = world.service.ids ∧
      world.service.reads ≤ (world.join clock command ref params).service.reads := by
  have hreads := (frame_start clock world.service command).reads
  unfold World.join
  dsimp only
  rw [deviceLock_rest]
  split <;> exact ⟨rfl, rfl, rfl, hreads⟩

theorem join_registry :
    (world.join clock command ref params).service.registry = world.service.registry :=
  (join_rest clock world command ref params).1

theorem join_providers :
    (world.join clock command ref params).service.providers = world.service.providers :=
  (join_rest clock world command ref params).2.1

theorem join_ids : (world.join clock command ref params).service.ids = world.service.ids :=
  (join_rest clock world command ref params).2.2.1

theorem join_reads :
    world.service.reads ≤ (world.join clock command ref params).service.reads :=
  (join_rest clock world command ref params).2.2.2

end Join

section Tasks

variable {world : World}

-- What is in flight once a task has ended or changed its phase was in flight before.
theorem kept_erase {id other : Uuid} {task : Task}
    (h : (world.tasks.erase id).get? other = some task) :
    ∃ held, world.tasks.get? other = some held ∧ task.ref = held.ref ∧
      task.running = held.running ∧ task.params = held.params :=
  ⟨task, (OrderedDict.get?_erase_eq_some.mp h).2, rfl, rfl, rfl⟩

theorem kept_rephase {id other : Uuid} {task held : Task} {phase : Phase}
    (htask : world.tasks.get? id = some task)
    (h : (world.tasks.set id { task with phase }).get? other = some held) :
    ∃ before, world.tasks.get? other = some before ∧ held.ref = before.ref ∧
      held.running = before.running ∧ held.params = before.params := by
  obtain ⟨rfl, rfl⟩ | ⟨-, h⟩ := OrderedDict.get?_set_eq_some.mp h
  · exact ⟨task, htask, rfl, rfl, rfl⟩
  · exact ⟨held, h, rfl, rfl, rfl⟩

theorem held_erase {id other : Uuid} {held : Task}
    (hheld : (world.tasks.erase id).get? other = some held) :
    ∃ before, world.tasks.get? other = some before ∧ held.running = before.running := by
  obtain ⟨before, hbefore, -, hrunning, -⟩ := kept_erase hheld
  exact ⟨before, hbefore, hrunning⟩

theorem held_rephase {id : Uuid} {task : Task} (htask : world.tasks.get? id = some task)
    {phase : Phase} {other : Uuid} {held : Task}
    (hheld : (world.tasks.set id { task with phase }).get? other = some held) :
    ∃ before, world.tasks.get? other = some before ∧ held.running = before.running := by
  obtain ⟨before, hbefore, -, hrunning, -⟩ := kept_rephase htask hheld
  exact ⟨before, hbefore, hrunning⟩

end Tasks

-- The identifiers drawn are never fewer.
theorem step_ids {label : Label} (hstep : World.step clock coercion world label = some after) :
    world.service.ids ≤ after.service.ids := by
  cases step_moved hstep with
  | @refused call _ _ hcheck =>
      have hframe := frame_check clock coercion world.service call
      rw [hcheck] at hframe
      exact le_of_eq hframe.ids.symm
  | @unwired call accepted =>
      have hids := (frame_finish clock (world.service.create clock call accepted).1
        (world.service.create clock call accepted).2 .failed (some "provider_unavailable")).ids
      rw [create_ids] at hids
      exact (Nat.le_succ _).trans (le_of_eq hids.symm)
  | @joined call accepted ref =>
      have hids := join_ids clock
        ({ world with service := (world.service.create clock call accepted).1 } : World)
        (world.service.create clock call accepted).2 ref accepted.params
      exact (Nat.le_succ _).trans (le_of_eq hids.symm)
  | entered | timedOut | abandoned | interrupted => exact le_rfl
  | ended _ _ hended => exact le_of_eq (frame_afterExecute _ _ hended).ids.symm
  | @reconciled id task outcome =>
      exact le_of_eq (frame_afterGetState clock (world.service.emit (.readBackEnded id outcome))
        task.running task.ref task.params outcome).ids.symm
  | ingested => exact le_of_eq (frame_ingest _ _ _ _ _ _).ids.symm

end Homeflow.Commands
