import Homeflow.Commands.Timed

-- No command makes more than one call of execute, whatever becomes of it.
namespace Homeflow.Commands

open CommandService

variable {clock : Nat → Time} {coercion : Coercion} {world after : World}

-- How many calls of execute a command has made.
def calls (world : World) (id : Uuid) : Nat := (life id world.service.trace).countP Effect.executes

structure Single (world : World) : Prop where
  once : ∀ id, calls world id ≤ 1
  waiting : ∀ id task, world.tasks.get? id = some task → task.phase = .waiting → calls world id = 0
  fresh : ∀ id, world.service.ids ≤ id → calls world id = 0

-- No call is made, and none is about to be that was not.
theorem Single.quiet (h : Single world) (hids : world.service.ids ≤ after.service.ids)
    (hcalls : ∀ id, calls after id = calls world id)
    (htasks : ∀ id task, after.tasks.get? id = some task → task.phase = .waiting →
      world.tasks.get? id = some task) : Single after := by
  refine ⟨fun id => ?_, fun id task htask hphase => ?_, fun id hid => ?_⟩
  · rw [hcalls]
    exact h.once id
  · rw [hcalls]
    exact h.waiting id task (htasks id task htask hphase) hphase
  · rw [hcalls]
    exact h.fresh id (hids.trans hid)

-- A command is finished.
theorem calls_finished {service held : CommandService} {running : Command} {id : Uuid}
    {result : CommandService × Command} {status : CommandStatus} {failureCode : Option String}
    {effect : Effect} (hfinishes : Finishes clock (service.emit effect) running result held status
      failureCode) (heffect : effect.executes = false) :
    (life id result.1.trace).countP Effect.executes =
      (life id service.trace).countP Effect.executes := by
  rw [hfinishes.life_eq, life_emit, List.countP_append, List.countP_append]
  have hemitted : (if effect.concerns id then [effect] else []).countP Effect.executes = 0 := by
    split <;> simp [heffect]
  have hrecord : (if running.id = id then [Effect.remembered result.2] else []).countP
      Effect.executes = 0 := by
    split <;> rfl
  rw [hemitted, hrecord, Nat.add_zero]

-- What waits after a change of phase has waited before.
theorem waiting_rephase {id other : Uuid} {task held : Task} {phase : Phase}
    (hphase : phase ≠ .waiting)
    (h : (world.tasks.set id { task with phase }).get? other = some held)
    (hwaits : held.phase = .waiting) : other ≠ id ∧ world.tasks.get? other = some held := by
  obtain ⟨-, rfl⟩ | ⟨hne, h⟩ := OrderedDict.get?_set_eq_some.mp h
  · exact absurd hwaits hphase
  · exact ⟨hne, h⟩

theorem Single.entered (h : Single world) {id : Uuid} {task : Task} {mutex : FifoMutex Uuid}
    (htask : world.tasks.get? id = some task) (hphase : task.phase = .waiting)
    (hid : id < world.service.ids) : Single ((world.setLock task.lock mutex).begin id task) := by
  have hcalls : ∀ other, calls ((world.setLock task.lock mutex).begin id task) other =
      calls world other + if id = other then 1 else 0 := by
    intro other
    have hlife := life_begin id task world.service other
    rw [calls, calls]
    change (life other (world.service.emit (task.call id)).trace).countP _ = _
    rw [hlife, List.countP_append]
    split <;> rfl
  have hnone := h.waiting id task htask hphase
  refine ⟨fun other => ?_, fun other held hheld hwaits => ?_, fun other hother => ?_⟩
  · rw [hcalls]
    split
    · next he => exact (he ▸ hnone).symm ▸ le_rfl
    · exact h.once other
  · obtain ⟨hne, hbefore⟩ := waiting_rephase (by decide) hheld hwaits
    rw [hcalls, if_neg (Ne.symm hne)]
    exact h.waiting other held hbefore hwaits
  · have hne : id ≠ other := by
      rintro rfl
      exact absurd hid (not_lt.mpr hother)
    rw [hcalls, if_neg hne]
    exact h.fresh other hother

theorem Single.joined (h : Single world) {call : SubmitCall} {accepted : Accepted}
    {ref : ProviderDeviceRef} :
    Single ({ world with service := (world.service.create clock call accepted).1 }.join clock
      (world.service.create clock call accepted).2 ref accepted.params) := by
  obtain ⟨task, since, htasks, -, -, hsince, hlife⟩ := join_told clock
    { world with service := (world.service.create clock call accepted).1 }
    (world.service.create clock call accepted).2 ref accepted.params
  have hids := join_ids clock
    ({ world with service := (world.service.create clock call accepted).1 } : World)
    (world.service.create clock call accepted).2 ref accepted.params
  have hcalls : ∀ other, calls ({ world with
      service := (world.service.create clock call accepted).1 }.join clock
        (world.service.create clock call accepted).2 ref accepted.params) other =
      calls world other +
        if world.service.ids = other then since.countP Effect.executes else 0 := by
    intro other
    rw [calls, hlife, life_create, create_id]
    split
    · simp [calls, Effect.executes, Effect.executedId?]
    · simp [calls]
  have hmade : since.countP Effect.executes ≤ 1 ∧
      (task.phase = .waiting → since.countP Effect.executes = 0) := by
    unfold SinceRunning at hsince
    split at hsince
    · rw [hsince]
      exact ⟨Nat.zero_le 1, fun _ => rfl⟩
    · next hphase =>
      rw [hsince]
      exact ⟨le_rfl, fun hwaits => by cases hphase.symm.trans hwaits⟩
    · next hphase =>
      obtain ⟨outcome, -, rfl⟩ := hsince
      exact ⟨le_rfl, fun hwaits => by cases hphase.symm.trans hwaits⟩
  refine ⟨fun other => ?_, fun other held hheld hwaits => ?_, fun other hother => ?_⟩
  · rw [hcalls]
    split
    · next he =>
      rw [← he, h.fresh _ le_rfl, Nat.zero_add]
      exact hmade.1
    · exact h.once other
  · rw [htasks, create_id] at hheld
    rw [hcalls]
    obtain ⟨rfl, rfl⟩ | ⟨hne, hbefore⟩ := OrderedDict.get?_set_eq_some.mp hheld
    · rw [if_pos rfl, h.fresh _ le_rfl, hmade.2 hwaits]
    · rw [if_neg (Ne.symm hne)]
      exact h.waiting other held hbefore hwaits
  · have hlater : world.service.ids < other := by
      rw [hids] at hother
      exact hother
    rw [hcalls, if_neg hlater.ne]
    exact h.fresh other hlater.le

theorem single_step {label : Label} (h : Single world) (hlocked : Locked world)
    (hstep : World.step clock coercion world label = some after) : Single after := by
  cases step_moved hstep with
  | @refused call _ _ hcheck =>
      have hframe := frame_check clock coercion world.service call
      have hlife := fun id => life_check clock coercion world.service id call
      rw [hcheck] at hframe hlife
      exact h.quiet hframe.ids.ge (fun id => congrArg _ (hlife id)) fun _ _ htask _ => htask
  | @unwired call accepted =>
      have hids : (world.service.create clock call accepted).1.ids ≤ _ :=
        (frame_finish clock (world.service.create clock call accepted).1
          (world.service.create clock call accepted).2 .failed
          (some "provider_unavailable")).ids.ge
      refine h.quiet ((Nat.le_succ _).trans hids) (fun id => ?_) fun _ _ htask _ => htask
      rw [calls, World.finished, life_finish, life_create, create_id]
      split <;> simp [calls, Effect.executes, Effect.executedId?]
  | joined => exact h.joined
  | entered htask hphase => exact h.entered htask hphase (hlocked.known _ _ htask)
  | ended htask _ hended =>
      obtain ⟨_, _, _, hfinishes⟩ := finishes_afterExecute hended
      refine h.quiet (frame_afterExecute _ _ hended).ids.ge
        (fun id => calls_finished hfinishes rfl) fun other task hget _ =>
          (OrderedDict.get?_erase_eq_some.mp hget).2
  | timedOut htask =>
      refine h.quiet le_rfl (fun id => ?_) fun other task hget hwaits =>
        (waiting_rephase (by decide) hget hwaits).2
      simp [calls, Effect.executes, Effect.executedId?, apply_ite (List.countP _)]
  | @reconciled id task outcome =>
      obtain ⟨_, _, _, hfinishes, -⟩ := finishes_afterGetState clock
        (world.service.emit (.readBackEnded id outcome)) task.running task.ref task.params outcome
      have hids := (frame_afterGetState clock (world.service.emit (.readBackEnded id outcome))
        task.running task.ref task.params outcome).ids
      refine h.quiet hids.ge
        (fun id => calls_finished hfinishes rfl) fun other task hget _ =>
          (OrderedDict.get?_erase_eq_some.mp hget).2
  | abandoned | interrupted =>
      exact h.quiet le_rfl (fun _ => rfl) fun other task hget _ =>
        (OrderedDict.get?_erase_eq_some.mp hget).2
  | ingested =>
      refine h.quiet (frame_ingest _ _ _ _ _ _).ids.ge (fun id => ?_) fun _ _ htask _ => htask
      exact congrArg _ (life_ingest _ _ _ _ _ _ _)

theorem single_initial (registry : DeviceRegistry) (providers : List String) :
    Single (initial registry providers) :=
  ⟨fun _ => Nat.zero_le 1, fun _ _ htask => by simp [initial] at htask, fun _ _ => rfl⟩

-- No more calls than commands.
theorem Single.length_le (h : Single world) :
    (executions world.service.trace).length ≤ world.service.ids := by
  have hnodup : (executions world.service.trace).Nodup :=
    List.nodup_iff_count_le_one.mpr fun id => count_executions id _ ▸ h.once id
  have hrange : executions world.service.trace ⊆ List.range world.service.ids := by
    intro id hid
    by_contra hout
    have hfresh := h.fresh id (not_lt.mp fun hlt => hout (List.mem_range.mpr hlt))
    rw [calls, ← count_executions] at hfresh
    exact List.count_eq_zero.mp hfresh hid
  simpa using (List.subperm_of_subset hnodup hrange).length_le

end Homeflow.Commands
