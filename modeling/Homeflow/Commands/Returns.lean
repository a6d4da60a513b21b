import Homeflow.Commands.Progress

namespace Homeflow.Commands

open CommandService

variable {clock : Nat → Time} {coercion : Coercion} {world after : World}

-- What a call of submit has returned is kept under the command's own identifier.
structure Ended (world : World) : Prop where
  locked : Locked world
  named : ∀ id final, world.returned.get? id = some final → final.id = id
  apart : ∀ id final, world.returned.get? id = some final →
    id < world.service.ids ∧ world.tasks.get? id = none

def KeepsReturned (before after : World) : Prop :=
  ∀ id final, before.returned.get? id = some final → after.returned.get? id = some final

-- No command comes into flight but a new one.
def NoneRevived (before after : World) : Prop :=
  ∀ id, id < before.service.ids → before.tasks.get? id = none → after.tasks.get? id = none

theorem noneRevived_erase {service : CommandService} {heap : LockId → FifoMutex Uuid}
    {returned : OrderedDict Uuid Command} {id : Uuid} :
    NoneRevived world { service, heap, returned, tasks := world.tasks.erase id } := by
  intro other _ hnone
  exact OrderedDict.get?_erase_of_none hnone

theorem noneRevived_rephase {service : CommandService} {heap : LockId → FifoMutex Uuid}
    {returned : OrderedDict Uuid Command} {id : Uuid} {task held : Task}
    (htask : world.tasks.get? id = some task) :
    NoneRevived world { service, heap, returned, tasks := world.tasks.set id held } := by
  intro other _ hnone
  have hne : other ≠ id := fun he => by cases (he ▸ htask).symm.trans hnone
  exact (OrderedDict.get?_set_of_ne hne).trans hnone

theorem Ended.kept (h : Ended world) (hlocked : Locked after)
    (hreturned : after.returned = world.returned) (hids : world.service.ids ≤ after.service.ids)
    (htasks : NoneRevived world after) : Ended after ∧ KeepsReturned world after := by
  refine ⟨⟨hlocked, hreturned ▸ h.named, fun id final hfinal => ?_⟩,
    fun id final hfinal => hreturned ▸ hfinal⟩
  obtain ⟨hlt, hnone⟩ := h.apart id final (hreturned ▸ hfinal)
  exact ⟨hlt.trans_le hids, htasks id hlt hnone⟩

-- A command that was in flight, or that is new, has not returned before.
theorem Ended.finished (h : Ended world) (hlocked : Locked after) {id : Uuid} {final : Command}
    (hreturned : after.returned = world.returned.set id final) (hid : final.id = id)
    (hbefore : world.returned.get? id = none) (hids : world.service.ids ≤ after.service.ids)
    (hlt : id < after.service.ids) (hgone : after.tasks.get? id = none)
    (htasks : NoneRevived world after) : Ended after ∧ KeepsReturned world after := by
  have hcases : ∀ other found, after.returned.get? other = some found →
      (other = id ∧ found = final) ∨ world.returned.get? other = some found := by
    intro other found hfound
    rw [hreturned, OrderedDict.get?_set_eq_some] at hfound
    exact hfound.imp_right And.right
  refine ⟨⟨hlocked, fun other found hfound => ?_, fun other found hfound => ?_⟩,
    fun other found hfound => ?_⟩
  · obtain ⟨rfl, rfl⟩ | hfound := hcases other found hfound
    · exact hid
    · exact h.named other found hfound
  · obtain ⟨rfl, rfl⟩ | hfound := hcases other found hfound
    · exact ⟨hlt, hgone⟩
    · obtain ⟨hltOther, hnone⟩ := h.apart other found hfound
      exact ⟨hltOther.trans_le hids, htasks other hltOther hnone⟩
  · have hne : other ≠ id := fun he => by cases (he ▸ hfound).symm.trans hbefore
    rw [hreturned, OrderedDict.get?_set_of_ne hne]
    exact hfound

theorem Ended.not_returned (h : Ended world) {id : Uuid} {task : Task}
    (htask : world.tasks.get? id = some task) : world.returned.get? id = none := by
  by_contra hreturned
  obtain ⟨final, hfinal⟩ := Option.ne_none_iff_exists'.mp hreturned
  cases htask.symm.trans (h.apart id final hfinal).2

theorem finish_id (service : CommandService) (command : Command) (status : CommandStatus)
    (failureCode : Option String) :
    (finish clock service command status failureCode).2.id = command.id := by
  rw [finish_eq]
  unfold Command.withStatus
  split <;> rfl

-- A command leaves its locked section and returns what it was finished as.
theorem Ended.leave (h : Ended world) {id : Uuid} {task : Task} {effect : Effect}
    {result : CommandService × Command} {held : CommandService} {status : CommandStatus}
    {failureCode : Option String} (htask : world.tasks.get? id = some task)
    (hframe : Frame (world.service.emit effect) result.1)
    (hfinishes : Finishes clock (world.service.emit effect) task.running result held status
      failureCode)
    (hlocked : Locked ((world.leave id task).finished id result)) :
    Ended ((world.leave id task).finished id result) ∧
      KeepsReturned world ((world.leave id task).finished id result) := by
  have hids : result.1.ids = world.service.ids := hframe.ids
  have hid : result.2.id = id := by
    rw [hfinishes.result, finish_id]
    exact h.locked.running_id id task htask
  refine h.finished hlocked rfl hid (h.not_returned htask) (le_of_eq hids.symm)
    (hids ▸ h.locked.known id task htask) ?_ noneRevived_erase
  exact OrderedDict.get?_erase_self _ _

theorem ended_step {label : Label} (h : Ended world)
    (hstep : World.step clock coercion world label = some after) :
    Ended after ∧ KeepsReturned world after := by
  have hlocked := locked_step h.locked hstep
  have hids := step_ids hstep
  cases step_moved hstep with
  | refused => exact h.kept hlocked rfl hids fun _ _ hnone => hnone
  | @unwired call accepted =>
      have hnext := (frame_finish clock (world.service.create clock call accepted).1
        (world.service.create clock call accepted).2 .failed (some "provider_unavailable")).ids
      rw [create_ids] at hnext
      have hfresh : world.tasks.get? world.service.ids = none := by
        by_contra hflight
        obtain ⟨task, htask⟩ := Option.ne_none_iff_exists'.mp hflight
        exact lt_irrefl _ (h.locked.known _ task htask)
      have hnew : world.returned.get? world.service.ids = none := by
        by_contra hreturned
        obtain ⟨final, hfinal⟩ := Option.ne_none_iff_exists'.mp hreturned
        exact lt_irrefl _ (h.apart _ final hfinal).1
      exact h.finished hlocked rfl ((finish_id _ _ _ _).trans (create_id _)) hnew hids
        ((Nat.lt_succ_self _).trans_le (le_of_eq hnext.symm)) hfresh fun _ _ hnone => hnone
  | @joined call accepted ref =>
      let before : World := { world with service := (world.service.create clock call accepted).1 }
      obtain ⟨task, -, htasks, -⟩ := join_told clock before
        (world.service.create clock call accepted).2 ref accepted.params
      refine h.kept hlocked rfl hids fun id hid hnone => ?_
      rw [htasks, create_id, OrderedDict.get?_set_of_ne (Nat.ne_of_lt hid)]
      exact hnone
  | entered htask => exact h.kept hlocked rfl hids (noneRevived_rephase htask)
  | ended htask _ hended =>
      obtain ⟨_, _, _, hfinishes⟩ := finishes_afterExecute hended
      exact h.leave htask (frame_afterExecute _ _ hended) hfinishes hlocked
  | timedOut htask => exact h.kept hlocked rfl hids (noneRevived_rephase htask)
  | @reconciled id task outcome htask =>
      obtain ⟨_, _, _, hfinishes, -⟩ := finishes_afterGetState clock
        (world.service.emit (.readBackEnded id outcome)) task.running task.ref task.params outcome
      exact h.leave htask (frame_afterGetState _ _ _ _ _ _) hfinishes hlocked
  | abandoned | interrupted => exact h.kept hlocked rfl hids noneRevived_erase
  | ingested => exact h.kept hlocked rfl hids fun _ _ hnone => hnone

-- A command in flight returns when one of its two calls of the adapter does.
theorem returned_step {label : Label} (h : Ended world)
    (hstep : World.step clock coercion world label = some after) {id : Uuid} {task : Task}
    (htask : world.tasks.get? id = some task) {final : Command}
    (hfinal : after.returned.get? id = some final) :
    (∃ outcome result, label = .executeReturns id outcome ∧
      (world.service.emit (.executeEnded id outcome)).afterExecute clock task.running task.ref
        outcome = some result ∧ final = result.2) ∨
      ∃ outcome, label = .getStateReturns id outcome ∧
        final = ((world.service.emit (.readBackEnded id outcome)).afterGetState clock task.running
          task.ref task.params outcome).2 := by
  have hnot := h.not_returned htask
  have hset : ∀ {other : Uuid} {command : Command},
      (world.returned.set other command).get? id = some final → other = id ∧ final = command := by
    intro other command hget
    obtain ⟨rfl, rfl⟩ | ⟨-, hold⟩ := OrderedDict.get?_set_eq_some.mp hget
    · exact ⟨rfl, rfl⟩
    · cases hnot.symm.trans hold
  cases step_moved hstep with
  | refused | entered | timedOut | abandoned | interrupted | ingested =>
      cases hnot.symm.trans hfinal
  | unwired =>
      obtain ⟨rfl, -⟩ := hset hfinal
      exact absurd (h.locked.known _ task htask) (lt_irrefl _)
  | @joined call accepted ref =>
      have hold : world.returned.get? id = some final := by
        unfold World.join at hfinal
        exact hfinal
      cases hnot.symm.trans hold
  | @ended other held outcome result hheld _ hended =>
      obtain ⟨rfl, rfl⟩ := hset hfinal
      obtain rfl := Option.some.inj (htask.symm.trans hheld)
      exact .inl ⟨outcome, result, rfl, hended, rfl⟩
  | @reconciled other held outcome hheld =>
      obtain ⟨rfl, rfl⟩ := hset hfinal
      obtain rfl := Option.some.inj (htask.symm.trans hheld)
      exact .inr ⟨outcome, rfl, rfl⟩

theorem ended_initial (registry : DeviceRegistry) (providers : List String) :
    Ended (initial registry providers) :=
  ⟨locked_initial rfl, fun _ _ hfinal => by simp [initial] at hfinal,
    fun _ _ hfinal => by simp [initial] at hfinal⟩

end Homeflow.Commands
