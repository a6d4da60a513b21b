import Homeflow.Commands.Returns

namespace Homeflow.Commands

open CommandService

-- The adapter has raised something else than a timeout, or says that the device refused.
def fails : AdapterOutcome ProviderCommandResult → Bool
  | .returned result => result.outcome = .rejected
  | .raised error => error ≠ .timeoutError
  | .deadline => false

variable {clock : Nat → Time} {coercion : Coercion} {world after : World}

section Status

theorem finish_status (service : CommandService) (command : Command) (status : CommandStatus)
    (failureCode : Option String) :
    (finish clock service command status failureCode).2.status = status := by
  rw [finish_eq]
  unfold Command.withStatus
  split <;> rfl

theorem afterExecute_failed_iff {service : CommandService} {running : Command}
    {ref : ProviderDeviceRef} {outcome : AdapterOutcome ProviderCommandResult}
    {result : CommandService × Command}
    (h : service.afterExecute clock running ref outcome = some result) :
    result.2.status = .failed ↔ fails outcome = true := by
  cases outcome with
  | returned answer =>
      obtain rfl := Option.some.inj h
      unfold settle
      cases hanswer : answer.outcome <;> simp [finish_status, fails, hanswer]
  | raised error =>
      cases error with
      | timeoutError => cases h
      | providerError failureCode | other =>
          obtain rfl := Option.some.inj h
          simp [finish_status, fails]
  | deadline => cases h

theorem afterGetState_not_failed (service : CommandService) (running : Command)
    (ref : ProviderDeviceRef) (params : CommandParams) (outcome : AdapterOutcome ProviderState) :
    (service.afterGetState clock running ref params outcome).2.status ≠ .failed := by
  obtain ⟨held, status, failureCode, hfinishes, hstatus, -⟩ :=
    finishes_afterGetState clock service running ref params outcome
  rw [hfinishes.result, finish_status]
  exact hstatus

end Status

section Step

-- A command fails by what its execute came to, or because it never gets to an adapter.
theorem step_failed {label : Label} {id : Uuid} {final : Command}
    (hstep : World.step clock coercion world label = some after)
    (hfinal : after.returned.get? id = some final) (hfailed : final.status = .failed) :
    world.returned.get? id = some final ∨ world.service.ids ≤ id ∨
      ∃ outcome, label = .executeReturns id outcome ∧ fails outcome = true := by
  have hset : ∀ {other : Uuid} {command : Command},
      (world.returned.set other command).get? id = some final →
        world.returned.get? id = some final ∨ id = other ∧ final = command := by
    intro other command h
    rw [OrderedDict.get?_set] at h
    split at h
    · exact .inr ⟨‹_›, (Option.some.inj h).symm⟩
    · exact .inl h
  cases step_moved hstep with
  | refused | entered | timedOut | abandoned | interrupted | ingested => exact .inl hfinal
  | joined => exact .inl hfinal
  | unwired =>
      rcases hset hfinal with hold | ⟨rfl, -⟩
      · exact .inl hold
      · exact .inr (.inl le_rfl)
  | @ended other task outcome result htask hphase hended =>
      rcases hset hfinal with hold | ⟨rfl, rfl⟩
      · exact .inl hold
      · exact .inr (.inr ⟨outcome, rfl, (afterExecute_failed_iff hended).mp hfailed⟩)
  | reconciled =>
      rcases hset hfinal with hold | ⟨-, rfl⟩
      · exact .inl hold
      · exact absurd hfailed (afterGetState_not_failed _ _ _ _ _)

theorem executing_of_returns {id : Uuid} {outcome : AdapterOutcome ProviderCommandResult}
    (hstep : World.step clock coercion world (.executeReturns id outcome) = some after) :
    ∃ task, world.tasks.get? id = some task ∧ task.phase = .executing := by
  cases step_moved hstep with
  | ended htask hphase | timedOut htask hphase => exact ⟨_, htask, hphase⟩

theorem executeReturns_failed {id : Uuid} {outcome : AdapterOutcome ProviderCommandResult}
    (hstep : World.step clock coercion world (.executeReturns id outcome) = some after)
    (hfails : fails outcome = true) :
    ∃ final, after.returned.get? id = some final ∧ final.status = .failed := by
  cases step_moved hstep with
  | @ended _ task _ result htask hphase hended =>
      exact ⟨result.2, OrderedDict.get?_set_self _ _ _, (afterExecute_failed_iff hended).mpr hfails⟩
  | timedOut _ _ htimeout =>
      cases outcome with
      | returned result => cases htimeout
      | raised error => cases error <;> simp_all [fails, AdapterOutcome.timedOut]
      | deadline => cases hfails

-- A call of the adapter goes on until it ends or its task is cancelled.
theorem executing_kept {label : Label} {id : Uuid} {task : Task} (hlocked : Locked world)
    (hstep : World.step clock coercion world label = some after)
    (htask : world.tasks.get? id = some task) (hphase : task.phase = .executing)
    (hreturns : ∀ outcome, label ≠ .executeReturns id outcome) (hcancel : label ≠ .cancelTask id) :
    after.tasks.get? id = some task := by
  have hset : ∀ {other : Uuid} {held : Task}, id ≠ other →
      (world.tasks.set other held).get? id = some task := fun hne =>
    OrderedDict.get?_set_eq_some.mpr (.inr ⟨hne, htask⟩)
  have herase : ∀ {other : Uuid}, id ≠ other → (world.tasks.erase other).get? id = some task :=
    fun hne => OrderedDict.get?_erase_eq_some.mpr ⟨hne, htask⟩
  cases step_moved hstep with
  | refused | unwired | ingested => exact htask
  | @joined call accepted ref =>
      obtain ⟨_, _, htasks, -⟩ := join_told clock
        ({ world with service := (world.service.create clock call accepted).1 } : World)
        (world.service.create clock call accepted).2 ref accepted.params
      rw [htasks]
      exact hset (Nat.ne_of_lt (hlocked.known id task htask))
  | entered hheld hwaiting =>
      refine hset ?_
      rintro rfl
      obtain rfl := Option.some.inj (htask.symm.trans hheld)
      cases hphase.symm.trans hwaiting
  | @ended other _ outcome => exact herase fun he => hreturns outcome (he ▸ rfl)
  | @timedOut other _ outcome => exact hset fun he => hreturns outcome (he ▸ rfl)
  | reconciled hheld hreconciling =>
      refine herase ?_
      rintro rfl
      obtain rfl := Option.some.inj (htask.symm.trans hheld)
      cases hphase.symm.trans hreconciling
  | abandoned | interrupted => exact herase fun he => hcancel (he ▸ rfl)

-- A command whose execute is over is only read back, if it is still in flight.
def Over (world : World) (id : Uuid) : Prop :=
  ∀ task, world.tasks.get? id = some task → task.phase = .reconciling

theorem Over.step {label : Label} {id : Uuid} (h : Over world id) (hid : id < world.service.ids)
    (hstep : World.step clock coercion world label = some after) : Over after id := by
  have herase : ∀ {other : Uuid}, ∀ task, (world.tasks.erase other).get? id = some task →
      task.phase = .reconciling := fun {_} task htask =>
    h task (OrderedDict.get?_erase_eq_some.mp htask).2
  intro task htask
  cases step_moved hstep with
  | refused | unwired | ingested => exact h task htask
  | @joined call accepted ref =>
      obtain ⟨_, _, htasks, -⟩ := join_told clock
        ({ world with service := (world.service.create clock call accepted).1 } : World)
        (world.service.create clock call accepted).2 ref accepted.params
      rw [htasks, OrderedDict.get?_set, create_id, if_neg (Nat.ne_of_lt hid)] at htask
      exact h task htask
  | @entered other held _ hheld hwaiting =>
      have htask' : (world.tasks.set other { held with phase := .executing }).get? id =
        some task := htask
      rw [OrderedDict.get?_set] at htask'
      split at htask'
      · rename_i he
        cases (h held (he ▸ hheld)).symm.trans hwaiting
      · exact h task htask'
  | @timedOut other held =>
      have htask' : (world.tasks.set other { held with phase := .reconciling }).get? id =
        some task := htask
      rw [OrderedDict.get?_set] at htask'
      split at htask'
      · obtain rfl := Option.some.inj htask'
        rfl
      · exact h task htask'
  | ended | reconciled | abandoned | interrupted => exact herase task htask

theorem over_of_returns {id : Uuid} {outcome : AdapterOutcome ProviderCommandResult}
    (hstep : World.step clock coercion world (.executeReturns id outcome) = some after) :
    Over after id := by
  intro task htask
  cases step_moved hstep with
  | ended => cases ((OrderedDict.get?_erase world.tasks id id).trans (if_pos rfl)).symm.trans htask
  | timedOut =>
      obtain rfl := Option.some.inj ((OrderedDict.get?_set_self _ _ _).symm.trans htask)
      rfl

theorem over_of_cancel {id : Uuid}
    (hstep : World.step clock coercion world (.cancelTask id) = some after) : Over after id := by
  intro task htask
  cases step_moved hstep with
  | abandoned | interrupted =>
      cases ((OrderedDict.get?_erase world.tasks id id).trans (if_pos rfl)).symm.trans htask

end Step

end Homeflow.Commands
