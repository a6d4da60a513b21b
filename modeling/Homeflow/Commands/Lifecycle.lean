import Homeflow.Commands.Locks
import Mathlib.Data.Int.ConditionallyCompleteOrder

namespace Homeflow.Commands

open CommandService

def ENDS : List CommandStatus := [.succeeded, .failed, .unknown]

-- The three records a command goes through, and their moments, which are in order as long as
-- the clock is not set back.
structure Went (clock : Nat → Time) (id : Uuid) (created running final : Command) : Prop where
  ids : created.id = id ∧ running.id = id ∧ final.id = id
  pending : created.status = .pending
  running : running.status = .running
  ended : final.status ∈ ENDS
  created_le : final.createdAt = created.createdAt ∧ ∃ startedAt completedAt,
    final.startedAt = some startedAt ∧ final.completedAt = some completedAt ∧
      (Monotone clock → final.createdAt ≤ startedAt ∧ startedAt ≤ completedAt)

-- All that is told of a command that has returned: one call of execute, and only
-- when that timed out one call of get_state.
inductive Lifecycle (clock : Nat → Time) (id : Uuid) (final : Command) : List Effect → Prop where
  | answered {created running : Command} {ref : ProviderDeviceRef} {params : CommandParams}
      {outcome : AdapterOutcome ProviderCommandResult}
      (hwent : Went clock id created running final) (htimeout : outcome.timedOut = false) :
      Lifecycle clock id final [.remembered created, .remembered running,
        .executed id ref ⟨running.action, params⟩, .executeEnded id outcome, .remembered final]
  | readBack {created running : Command} {ref : ProviderDeviceRef} {params : CommandParams}
      {outcome : AdapterOutcome ProviderCommandResult} {observed : AdapterOutcome ProviderState}
      (hwent : Went clock id created running final) (htimeout : outcome.timedOut = true)
      (hnotFailed : final.status ≠ .failed)
      (hsucceeded : final.status = .succeeded → ∃ state, observed = .returned state ∧
        desiredMatches running.action params state.state = some true) :
      Lifecycle clock id final [.remembered created, .remembered running,
        .executed id ref ⟨running.action, params⟩, .executeEnded id outcome, .readBack id ref,
        .readBackEnded id observed, .remembered final]

-- What was told of a command in flight since it was marked as running.
def SinceRunning (id : Uuid) (task : Task) (told : List Effect) : Prop :=
  match task.phase with
  | .waiting => told = []
  | .executing => told = [task.call id]
  | .reconciling => ∃ outcome, AdapterOutcome.timedOut outcome = true ∧
      told = [task.call id, .executeEnded id outcome, .readBack id task.ref]

structure Underway (clock : Nat → Time) (service : CommandService) (id : Uuid) (task : Task) :
    Prop where
  told : ∃ created startedAt since, created.id = id ∧ created.status = .pending ∧
    task.running = created.withStatus .running startedAt ∧
    (Monotone clock → created.createdAt ≤ startedAt ∧ startedAt ≤ clock service.reads) ∧
    life id service.trace = [.remembered created, .remembered task.running] ++ since ∧
    SinceRunning id task since

variable {clock : Nat → Time} {coercion : Coercion}

section Finish

variable {service : CommandService}

-- How a result is arrived at: nothing more is told of a command before it is finished.
structure Finishes (clock : Nat → Time) (service : CommandService) (running : Command)
    (result : CommandService × Command) (held : CommandService) (status : CommandStatus)
    (failureCode : Option String) : Prop where
  result : result = held.finish clock running status failureCode
  ended : status ∈ ENDS
  life : ∀ id, life id held.trace = life id service.trace
  reads : service.reads ≤ held.reads

theorem finishes_afterExecute {running : Command} {ref : ProviderDeviceRef}
    {outcome : AdapterOutcome ProviderCommandResult} {result : CommandService × Command}
    (h : service.afterExecute clock running ref outcome = some result) :
    ∃ held status failureCode, Finishes clock service running result held status failureCode := by
  cases outcome with
  | returned answer =>
      obtain rfl := Option.some.inj h
      have hlife := fun id => life_ingestResult clock service id running ref answer
      have hreads := (frame_ingestResult clock service running ref answer).reads
      unfold settle
      cases answer.outcome with
      | applied => exact ⟨_, _, _, rfl, by decide, hlife, hreads⟩
      | rejected => exact ⟨_, _, _, rfl, by decide, hlife, hreads⟩
      | unknown => exact ⟨_, _, _, rfl, by decide, hlife, hreads⟩
  | raised error =>
      cases error with
      | timeoutError => cases h
      | providerError failureCode | other =>
          obtain rfl := Option.some.inj h
          exact ⟨_, _, _, rfl, by decide, fun _ => rfl, le_rfl⟩
  | deadline => cases h

-- After a timeout a command never fails, and succeeds only on what was read back.
theorem finishes_afterGetState (clock : Nat → Time) (service : CommandService)
    (running : Command) (ref : ProviderDeviceRef)
    (params : CommandParams) (outcome : AdapterOutcome ProviderState) :
    ∃ held status failureCode, Finishes clock service running
        (service.afterGetState clock running ref params outcome) held status failureCode ∧
      status ≠ .failed ∧ (status = .succeeded → ∃ state, outcome = .returned state ∧
        desiredMatches running.action params state.state = some true) := by
  cases outcome with
  | returned observed =>
      have hlife := fun id => life_ingest clock service id ref observed .providerSnapshot
        (some running.correlationId)
      have hreads := (frame_ingest clock service ref observed .providerSnapshot
        (some running.correlationId)).reads
      simp only [afterGetState]
      split
      · rename_i hmatches
        exact ⟨_, .succeeded, _, ⟨rfl, by decide, hlife, hreads⟩, by decide,
          fun _ => ⟨observed, rfl, hmatches⟩⟩
      · exact ⟨_, .unknown, _, ⟨rfl, by decide, hlife, hreads⟩, by decide, by simp⟩
  | raised error | deadline =>
      exact ⟨_, .unknown, _, ⟨rfl, by decide, fun _ => rfl, le_rfl⟩, by decide, by simp⟩

theorem Finishes.life_eq {running : Command} {result : CommandService × Command}
    {held : CommandService} {status : CommandStatus} {failureCode : Option String}
    (h : Finishes clock service running result held status failureCode) (id : Uuid) :
    Commands.life id result.1.trace =
      Commands.life id service.trace ++
        if running.id = id then [.remembered result.2] else [] := by
  rw [h.result, life_finish, h.life]

-- The last record, made from a running one.
theorem Finishes.went {created running : Command} {id : Uuid} {startedAt : Time}
    {result : CommandService × Command} {held : CommandService} {status : CommandStatus}
    {failureCode : Option String}
    (h : Finishes clock service running result held status failureCode) (hid : created.id = id)
    (hpending : created.status = .pending)
    (hrunning : running = created.withStatus .running startedAt)
    (hordered : Monotone clock →
      created.createdAt ≤ startedAt ∧ startedAt ≤ clock service.reads) :
    Went clock id created running result.2 ∧ result.2.status = status := by
  have hne : status ≠ .running := by
    rintro rfl
    exact absurd h.ended (by decide)
  have hfinal : result.2 = { running with
      status, failureCode, completedAt := some (clock held.reads) } := by
    rw [h.result, finish_eq, Command.withStatus, if_neg hne]
  have hstatus : result.2.status = status := by rw [hfinal]
  obtain ⟨hrunningId, hrunningStatus, hrunningCreated, hrunningStarted⟩ : running.id = created.id ∧
      running.status = .running ∧ running.createdAt = created.createdAt ∧
      running.startedAt = some startedAt := by
    rw [hrunning]
    exact ⟨rfl, rfl, rfl, rfl⟩
  refine ⟨⟨⟨hid, hrunningId.trans hid, ?_⟩, hpending, hrunningStatus, hstatus ▸ h.ended, ?_,
    startedAt, clock held.reads, ?_, ?_, fun hclock => ?_⟩, hstatus⟩
  · rw [hfinal]
    exact hrunningId.trans hid
  · rw [hfinal]
    exact hrunningCreated
  · rw [hfinal]
    exact hrunningStarted
  · rw [hfinal]
  · obtain ⟨hcreated, hstarted⟩ := hordered hclock
    rw [hfinal]
    exact ⟨hrunningCreated.trans_le hcreated, hstarted.trans (hclock h.reads)⟩

end Finish

def Wired (service : CommandService) : Prop :=
  ∀ id ref, service.registry.refFor id = some ref → ref.provider ∈ service.providers

structure Told (clock : Nat → Time) (world : World) : Prop where
  flight : ∀ id task, world.tasks.get? id = some task → Underway clock world.service id task
  ended : ∀ id final, world.returned.get? id = some final →
    Lifecycle clock id final (life id world.service.trace)
  apart : ∀ id final, world.returned.get? id = some final →
    id < world.service.ids ∧ world.tasks.get? id = none
  fresh : ∀ id, world.service.ids ≤ id → life id world.service.trace = []
  wired : Wired world.service

section Told

variable {world after : World}

theorem Underway.mono {before service : CommandService} {id : Uuid}
    {task : Task} (h : Underway clock before id task)
    (hlife : life id service.trace = life id before.trace) (hreads : before.reads ≤ service.reads) :
    Underway clock service id task := by
  obtain ⟨created, startedAt, since, hid, hpending, hrunning, hordered, htold, hsince⟩ := h.told
  exact ⟨created, startedAt, since, hid, hpending, hrunning,
    fun hclock => (hordered hclock).imp_right fun hstarted => hstarted.trans (hclock hreads),
    hlife.trans htold, hsince⟩

-- A step tells of one command at most; the others stay as they are.
theorem Told.of_one (h : Told clock world) (id : Uuid)
    (hids : world.service.ids ≤ after.service.ids) (hid : id < after.service.ids)
    (hreads : world.service.reads ≤ after.service.reads)
    (hlife : ∀ other, other ≠ id → life other after.service.trace = life other world.service.trace)
    (htasks : ∀ other, other ≠ id → after.tasks.get? other = world.tasks.get? other)
    (hreturned : ∀ other, other ≠ id → after.returned.get? other = world.returned.get? other)
    (hwired : Wired after.service)
    (hflight : ∀ task, after.tasks.get? id = some task → Underway clock after.service id task)
    (hended : ∀ final, after.returned.get? id = some final →
      Lifecycle clock id final (life id after.service.trace) ∧ after.tasks.get? id = none) :
    Told clock after := by
  refine ⟨fun other task htask => ?_, fun other final hfinal => ?_, fun other final hfinal => ?_,
    fun other hother => ?_, hwired⟩
  · by_cases he : other = id
    · subst he
      exact hflight task htask
    · exact (h.flight other task (htasks other he ▸ htask)).mono (hlife other he) hreads
  · by_cases he : other = id
    · subst he
      exact (hended final hfinal).1
    · rw [hlife other he]
      exact h.ended other final (hreturned other he ▸ hfinal)
  · by_cases he : other = id
    · subst he
      exact ⟨hid, (hended final hfinal).2⟩
    · obtain ⟨hlt, hnone⟩ := h.apart other final (hreturned other he ▸ hfinal)
      exact ⟨hlt.trans_le hids, (htasks other he).trans hnone⟩
  · have he : other ≠ id := fun he => absurd hid (Nat.not_lt_of_ge (he ▸ hother))
    rw [hlife other he]
    exact h.fresh other (hids.trans hother)

theorem Frame.wired {before service : CommandService} (h : Frame before service)
    (hwired : Wired before) : Wired service := by
  intro id ref href
  rw [h.providers]
  refine hwired id ref ?_
  rwa [DeviceRegistry.refFor, ← h.refs]

theorem Told.quiet (h : Told clock world) {service : CommandService}
    (hframe : Frame world.service service)
    (hlife : ∀ id, life id service.trace = life id world.service.trace) :
    Told clock { world with service } := by
  refine ⟨fun id task htask => (h.flight id task htask).mono (hlife id) hframe.reads,
    fun id final hfinal => ?_, fun id final hfinal => ?_, fun id hid => ?_, hframe.wired h.wired⟩
  · dsimp only
    rw [hlife]
    exact h.ended id final hfinal
  · dsimp only
    rw [hframe.ids]
    exact h.apart id final hfinal
  · dsimp only at hid ⊢
    rw [hlife]
    exact h.fresh id (hframe.ids ▸ hid)

-- A command in flight has not returned.
theorem Told.not_returned (h : Told clock world) {id : Uuid} {task : Task}
    (htask : world.tasks.get? id = some task) : world.returned.get? id = none := by
  by_contra hreturned
  obtain ⟨final, hfinal⟩ := Option.ne_none_iff_exists'.mp hreturned
  cases htask.symm.trans (h.apart id final hfinal).2

theorem Told.leave (h : Told clock world) (hlocked : Locked world)
    {id : Uuid} {task : Task} (htask : world.tasks.get? id = some task)
    {result : CommandService × Command} (hframe : Frame world.service result.1)
    (hlife : ∀ other, other ≠ id → life other result.1.trace = life other world.service.trace)
    (hended : Lifecycle clock id result.2 (life id result.1.trace)) :
    Told clock ((world.leave id task).finished id result) := by
  refine h.of_one id hframe.ids.ge (hframe.ids ▸ hlocked.known id task htask) hframe.reads
    hlife ?_ ?_ (hframe.wired h.wired) ?_ ?_
  · intro other hne
    exact OrderedDict.get?_erase_of_ne hne
  · intro other hne
    exact OrderedDict.get?_set_of_ne hne
  · intro held hheld
    exact absurd rfl (OrderedDict.get?_erase_eq_some.mp hheld).1
  · intro final hfinal
    obtain rfl := Option.some.inj ((OrderedDict.get?_set_self _ _ _).symm.trans hfinal)
    exact ⟨hended, OrderedDict.get?_erase_self _ _⟩

-- The submitting task was cancelled: nothing is told and nothing returns.
theorem Told.forget (h : Told clock world) (hlocked : Locked world)
    {id : Uuid} {task : Task} (htask : world.tasks.get? id = some task)
    (hservice : after.service = world.service) (hreturned : after.returned = world.returned)
    (htasks : after.tasks = world.tasks.erase id) : Told clock after := by
  refine h.of_one id (hservice ▸ le_rfl) (hservice ▸ hlocked.known id task htask)
    (hservice ▸ le_rfl) (fun other _ => by rw [hservice]) ?_ (fun other _ => by rw [hreturned])
    (hservice ▸ h.wired) ?_ ?_
  · intro other hne
    rw [htasks]
    exact OrderedDict.get?_erase_of_ne hne
  · intro held hheld
    rw [htasks] at hheld
    exact absurd rfl (OrderedDict.get?_erase_eq_some.mp hheld).1
  · intro final hfinal
    rw [hreturned, h.not_returned htask] at hfinal
    cases hfinal

-- A command goes on to its next phase and more is told of it.
theorem Told.rephase (h : Told clock world) (hlocked : Locked world)
    {id : Uuid} {task : Task} (htask : world.tasks.get? id = some task) (phase : Phase)
    (more : List Effect) (hframe : Frame world.service after.service)
    (hreturned : after.returned = world.returned)
    (htasks : after.tasks = world.tasks.set id { task with phase })
    (hlife : ∀ other, other ≠ id → life other after.service.trace = life other world.service.trace)
    (htold : life id after.service.trace = life id world.service.trace ++ more)
    (hsince : ∀ since, SinceRunning id task since →
      SinceRunning id { task with phase } (since ++ more)) : Told clock after := by
  refine h.of_one id hframe.ids.ge (hframe.ids ▸ hlocked.known id task htask) hframe.reads
    hlife ?_ (fun other _ => by rw [hreturned]) (hframe.wired h.wired) ?_ ?_
  · intro other hne
    rw [htasks]
    exact OrderedDict.get?_set_of_ne hne
  · intro held hheld
    rw [htasks] at hheld
    obtain rfl := Option.some.inj ((OrderedDict.get?_set_self _ _ _).symm.trans hheld)
    obtain ⟨created, startedAt, since, hid, hpending, hrunning, hordered, hold, hphase⟩ :=
      (h.flight id task htask).told
    refine ⟨created, startedAt, since ++ more, hid, hpending, hrunning, fun hclock => ?_, ?_,
      hsince since hphase⟩
    · exact (hordered hclock).imp_right fun hstarted => hstarted.trans (hclock hframe.reads)
    · rw [htold, hold, List.append_assoc]
  · intro final hfinal
    rw [hreturned, h.not_returned htask] at hfinal
    cases hfinal

theorem life_begin (id : Uuid) (task : Task) (service : CommandService) (other : Uuid) :
    life other (service.emit (task.call id)).trace =
      life other service.trace ++ if id = other then [task.call id] else [] := by
  rw [life_emit]
  simp [Task.call, Effect.concerns]

theorem Told.enter (h : Told clock world) (hlocked : Locked world)
    {id : Uuid} {task : Task} {mutex : FifoMutex Uuid}
    (htask : world.tasks.get? id = some task) (hphase : task.phase = .waiting) :
    Told clock ((world.setLock task.lock mutex).begin id task) := by
  refine h.rephase hlocked htask .executing [task.call id] (frame_emit _ _) rfl rfl ?_ ?_ ?_
  · intro other hne
    exact (life_begin id task world.service other).trans (by simp [Ne.symm hne])
  · exact (life_begin id task world.service id).trans (by simp)
  · intro since hsince
    obtain rfl : since = [] := by simpa [SinceRunning, hphase] using hsince
    rfl

theorem Told.timedOut (h : Told clock world) (hlocked : Locked world)
    {id : Uuid} {task : Task} {outcome : AdapterOutcome ProviderCommandResult}
    (htask : world.tasks.get? id = some task) (hphase : task.phase = .executing)
    (htimeout : outcome.timedOut = true) :
    Told clock { world with
      service := ((world.service.emit (.executeEnded id outcome)).publish clock
        .commandTimedOut task.running).emit (.readBack id task.ref)
      tasks := world.tasks.set id { task with phase := .reconciling } } := by
  refine h.rephase hlocked htask .reconciling
    [.executeEnded id outcome, .readBack id task.ref]
    ((frame_emit _ _).trans ((frame_publish _ _ _ _).trans (frame_emit _ _))) rfl rfl ?_ ?_ ?_
  · intro other hne
    simp [Effect.concerns, Ne.symm hne]
  · simp [Effect.concerns]
  · intro since hsince
    obtain rfl : since = [task.call id] := by simpa [SinceRunning, hphase] using hsince
    exact ⟨outcome, htimeout, rfl⟩

theorem deviceLock_trace (service : CommandService) (deviceId : Uuid) :
    (service.deviceLock deviceId).1.trace = service.trace := by
  rw [deviceLock_rest]

variable (clock world) in
-- What join tells of the command, and how it is in flight then.
theorem join_told (command : Command) (ref : ProviderDeviceRef) (params : CommandParams) :
    ∃ task since, (world.join clock command ref params).tasks = world.tasks.set command.id task ∧
      task.running = command.withStatus .running (clock world.service.reads) ∧
      (task.ref = ref ∧ task.params = params) ∧ SinceRunning command.id task since ∧
      ∀ other, life other (world.join clock command ref params).service.trace =
        life other world.service.trace ++
          if command.id = other then .remembered task.running :: since else [] := by
  have hstart : ∀ other, life other
      ((world.service.start clock command).1.deviceLock command.deviceId).1.trace =
        life other world.service.trace ++ if command.id = other then
          [.remembered (world.service.start clock command).2] else [] := fun other => by
    rw [deviceLock_trace, life_start]
  unfold World.join
  dsimp only
  split
  · refine ⟨_, [Task.call _ command.id], rfl, rfl, ⟨rfl, rfl⟩, by rfl, fun other => ?_⟩
    rw [life_begin, hstart]
    split <;> simp
  · refine ⟨_, [], rfl, rfl, ⟨rfl, rfl⟩, by rfl, fun other => ?_⟩
    rw [hstart]

theorem Told.join (h : Told clock world) (hlocked : Locked world)
    (call : SubmitCall) (accepted : Accepted) (ref : ProviderDeviceRef) :
    Told clock ({ world with service := (world.service.create clock call accepted).1 }.join clock
      (world.service.create clock call accepted).2 ref accepted.params) := by
  let created := world.service.create clock call accepted
  let before : World := { world with service := created.1 }
  obtain ⟨task, since, htasks, hrunning, -, hsince, hlife⟩ :=
    join_told clock before created.2 ref accepted.params
  have hids : (before.join clock created.2 ref accepted.params).service.ids =
      world.service.ids + 1 :=
    join_ids clock before created.2 ref accepted.params
  have hreads : created.1.reads ≤
      (before.join clock created.2 ref accepted.params).service.reads :=
    join_reads clock before created.2 ref accepted.params
  have hread : world.service.reads ≤ created.1.reads := Nat.le_add_right _ 2
  have hnew : world.tasks.get? world.service.ids = none := by
    by_contra hsome
    obtain ⟨held, hheld⟩ := Option.ne_none_iff_exists'.mp hsome
    exact absurd (hlocked.known _ held hheld) (lt_irrefl _)
  refine h.of_one world.service.ids (hids ▸ Nat.le_succ _) (hids ▸ Nat.lt_succ_self _)
    (hread.trans hreads) ?_ ?_ (fun _ _ => rfl) ?_ ?_ ?_
  · intro other hne
    rw [hlife, life_create, create_id]
    simp [Ne.symm hne]
  · intro other hne
    rw [htasks]
    exact OrderedDict.get?_set_of_ne hne
  · intro id found href
    rw [join_providers]
    rw [join_registry] at href
    exact h.wired id found href
  · intro held hheld
    rw [htasks] at hheld
    obtain rfl := Option.some.inj ((OrderedDict.get?_set_self _ _ _).symm.trans hheld)
    refine ⟨created.2, clock created.1.reads, since, rfl, rfl, hrunning,
      fun hclock => ⟨hclock hread, hclock hreads⟩, ?_, hsince⟩
    · rw [hlife, life_create, h.fresh _ le_rfl, create_id, if_pos rfl, if_pos rfl]
      rfl
  · intro final hfinal
    have hlt := (h.apart _ final hfinal).1
    exact absurd hlt (lt_irrefl _)

-- A command ends: that is told of it, and of no other.
theorem Told.ends (h : Told clock world) (hlocked : Locked world)
    {id : Uuid} {task : Task} {effect : Effect} {result : CommandService × Command}
    {held : CommandService} {status : CommandStatus} {failureCode : Option String}
    (htask : world.tasks.get? id = some task)
    (heffect : ∀ other, effect.concerns other = decide (id = other))
    (hframe : Frame (world.service.emit effect) result.1)
    (hfinishes : Finishes clock (world.service.emit effect) task.running result held status
      failureCode)
    (hends : ∀ created since, Went clock id created task.running result.2 →
      result.2.status = status → SinceRunning id task since → Lifecycle clock id result.2
        ([.remembered created, .remembered task.running] ++ since ++ [effect] ++
          [.remembered result.2])) :
    Told clock ((world.leave id task).finished id result) := by
  have hlife := hfinishes.life_eq
  simp only [life_emit, heffect, decide_eq_true_eq] at hlife
  have hid := hlocked.running_id id task htask
  refine h.leave hlocked htask ((frame_emit _ _).trans hframe) ?_ ?_
  · intro other hne
    rw [hlife, hid]
    simp [Ne.symm hne]
  · obtain ⟨created, startedAt, since, hcreated, hpending, hrunning, hordered, htold, hsince⟩ :=
      (h.flight id task htask).told
    obtain ⟨hwent, hstatus⟩ := hfinishes.went hcreated hpending hrunning hordered
    rw [hlife, htold, hid, if_pos rfl, if_pos rfl]
    exact hends created since hwent hstatus hsince

theorem Told.end_execute (h : Told clock world) (hlocked : Locked world)
    {id : Uuid} {task : Task} {outcome : AdapterOutcome ProviderCommandResult}
    {result : CommandService × Command} (htask : world.tasks.get? id = some task)
    (hphase : task.phase = .executing)
    (hended : (world.service.emit (.executeEnded id outcome)).afterExecute clock task.running
      task.ref outcome = some result) :
    Told clock ((world.leave id task).finished id result) := by
  obtain ⟨held, status, failureCode, hfinishes⟩ := finishes_afterExecute hended
  refine h.ends hlocked htask (fun _ => rfl) (frame_afterExecute _ _ hended) hfinishes
    fun created since hwent _ hsince => ?_
  obtain rfl : since = [task.call id] := by simpa [SinceRunning, hphase] using hsince
  refine .answered hwent ?_
  by_contra htimeout
  rw [Bool.not_eq_false] at htimeout
  cases hended.symm.trans (afterExecute_eq_none_iff.mpr htimeout)

theorem Told.end_getState (h : Told clock world)
    (hlocked : Locked world) {id : Uuid} {task : Task} {outcome : AdapterOutcome ProviderState}
    (htask : world.tasks.get? id = some task) (hphase : task.phase = .reconciling) :
    Told clock ((world.leave id task).finished id
      ((world.service.emit (.readBackEnded id outcome)).afterGetState clock task.running task.ref
        task.params outcome)) := by
  obtain ⟨held, status, failureCode, hfinishes, hnotFailed, hsucceeded⟩ :=
    finishes_afterGetState clock (world.service.emit (.readBackEnded id outcome))
      task.running task.ref task.params outcome
  refine h.ends hlocked htask (fun _ => rfl) (frame_afterGetState _ _ _ _ _ _) hfinishes
    fun created since hwent hstatus hsince => ?_
  obtain ⟨timeout, htimeout, rfl⟩ : ∃ timeout, AdapterOutcome.timedOut timeout = true ∧
      since = [task.call id, .executeEnded id timeout, .readBack id task.ref] := by
    simpa [SinceRunning, hphase] using hsince
  exact .readBack hwent htimeout (hstatus ▸ hnotFailed) (hstatus ▸ hsucceeded)

theorem told_step {label : Label} (h : Told clock world)
    (hlocked : Locked world) (hstep : World.step clock coercion world label = some after) :
    Told clock after := by
  cases step_moved hstep with
  | @refused call _ _ hcheck =>
      have hframe := frame_check clock coercion world.service call
      have hlife := fun id => life_check clock coercion world.service id call
      rw [hcheck] at hframe hlife
      exact h.quiet hframe hlife
  | unwired _ href hwired => exact absurd (h.wired _ _ href) hwired
  | joined => exact h.join hlocked _ _ _
  | entered htask hphase => exact h.enter hlocked htask hphase
  | ended htask hphase hended => exact h.end_execute hlocked htask hphase hended
  | timedOut htask hphase htimeout => exact h.timedOut hlocked htask hphase htimeout
  | reconciled htask hphase => exact h.end_getState hlocked htask hphase
  | abandoned htask => exact h.forget hlocked htask rfl rfl rfl
  | interrupted htask => exact h.forget hlocked htask rfl rfl rfl
  | ingested => exact h.quiet (frame_ingest _ _ _ _ _ _) fun id => life_ingest _ _ _ _ _ _ _

end Told

end Homeflow.Commands
