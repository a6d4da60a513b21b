import Homeflow.Commands.Lifecycle
import Homeflow.Commands.Serial

namespace Homeflow.Commands

open CommandService

def Effect.entry? : Effect → Option AuditEntry
  | .recorded entry => some entry
  | _ => none

-- What the audit sink has received, and what of it names one command.
def audit (trace : List Effect) : List AuditEntry := trace.filterMap Effect.entry?

def audited (id : Uuid) (trace : List Effect) : List AuditEntry :=
  (audit trace).filter fun entry => entry.commandId = some id

structure Requests (id : Uuid) (entry : AuditEntry) : Prop where
  event : entry.event = "command.requested"
  commandId : entry.commandId = some id

structure Completes (id : Uuid) (status : CommandStatus) (entry : AuditEntry) : Prop where
  event : entry.event = "command.completed"
  commandId : entry.commandId = some id
  outcome : entry.outcome = some status.value

-- Everything the sink has received of a command in flight, and of one that has returned.
def AuditedOnce (id : Uuid) (trace : List Effect) : Prop :=
  ∃ requested, audited id trace = [requested] ∧ Requests id requested

def AuditedTwice (id : Uuid) (status : CommandStatus) (trace : List Effect) : Prop :=
  ∃ requested completed, audited id trace = [requested, completed] ∧ Requests id requested ∧
    Completes id status completed

-- A call of submit that is refused leaves one denial. One that is not leaves a request, and
-- with the result that is returned a completion. It does return unless its task is cancelled.
def Audited (clock : Nat → Time) (coercion : Coercion) (world : World) (call : SubmitCall) : Prop :=
  match world.submit clock coercion call with
  | (after, .refused _) => ∃ denied,
      audit after.service.trace = audit world.service.trace ++ [denied] ∧
      denied.event = "command.denied"
  | (after, .returned command) => ∃ requested completed,
      audit after.service.trace = audit world.service.trace ++ [requested, completed] ∧
        Requests command.id requested ∧ Completes command.id command.status completed
  | (after, .suspended id) => ∃ requested,
      audit after.service.trace = audit world.service.trace ++ [requested] ∧ Requests id requested ∧
      ∀ rest final, Machine.run (World.step clock coercion) after rest = some final →
        .cancelTask id ∉ rest →
        ((final.tasks.get? id).isSome = true ∧ AuditedOnce id final.service.trace) ∨
          ∃ command, final.returned.get? id = some command ∧
            AuditedTwice id command.status final.service.trace

section Entries

variable {clock : Nat → Time} {coercion : Coercion} {service : CommandService}

@[simp] theorem audit_append (first second : List Effect) :
    audit (first ++ second) = audit first ++ audit second :=
  List.filterMap_append

@[simp] theorem audit_emit (effect : Effect) :
    audit (service.emit effect).trace = audit service.trace ++ effect.entry?.toList := by
  rw [emit, audit_append]
  cases effect <;> rfl

@[simp] theorem audit_publish (type : EventType) (command : Command) :
    audit (publish clock service type command).trace = audit service.trace := by
  rw [publish, audit_append]
  exact List.append_nil _

@[simp] theorem audit_remember (command : Command) :
    audit (service.remember command).trace = audit service.trace := by
  rw [remember, audit_append]
  exact List.append_nil _

theorem audit_auditDenied (call : SubmitCall) (device : Device) (reason : String) : ∃ denied,
    audit (auditDenied clock service call device reason).trace = audit service.trace ++ [denied] ∧
      denied.event = "command.denied" ∧ denied.commandId = none :=
  ⟨_, audit_append _ _, rfl, rfl⟩

theorem audit_create (call : SubmitCall) (accepted : Accepted) : ∃ requested,
    audit (create clock service call accepted).1.trace = audit service.trace ++ [requested] ∧
      Requests service.ids requested := by
  unfold create
  dsimp only
  exact ⟨_, by rw [audit_publish, audit_emit, audit_remember]; rfl, rfl, rfl⟩

theorem audit_start (command : Command) :
    audit (start clock service command).1.trace = audit service.trace := by
  rw [start, audit_publish, audit_remember]

theorem audit_finish (command : Command) (status : CommandStatus) (failureCode : Option String) :
    ∃ completed,
      audit (finish clock service command status failureCode).1.trace =
          audit service.trace ++ [completed] ∧
        Completes command.id (finish clock service command status failureCode).2.status
          completed := by
  have hfinished : (command.withStatus status (clock service.reads) failureCode).id = command.id ∧
      (command.withStatus status (clock service.reads) failureCode).status = status := by
    unfold Command.withStatus
    split <;> exact ⟨rfl, rfl⟩
  obtain ⟨hid, hstatus⟩ := hfinished
  unfold finish
  dsimp only
  cases COMPLETION_EVENTS status with
  | none =>
      refine ⟨_, by rw [audit_emit, audit_remember]; rfl, rfl, congrArg some hid, ?_⟩
      rw [hstatus]
  | some type =>
      refine ⟨_, by rw [audit_publish, audit_emit, audit_remember]; rfl, rfl, congrArg some hid, ?_⟩
      rw [hstatus]

@[simp] theorem audit_ingest (ref : ProviderDeviceRef) (state : ProviderState)
    (source : StateSource) (correlationId : Option String) :
    audit (ingest clock service ref state source correlationId).trace = audit service.trace := by
  simp [ingest, audit, List.filterMap_map, Function.comp_def, Effect.entry?]

theorem audit_ingestResult (running : Command) (ref : ProviderDeviceRef)
    (result : ProviderCommandResult) :
    audit (ingestResult clock service running ref result).trace = audit service.trace := by
  unfold ingestResult
  cases result.state with
  | none => rfl
  | some state => exact audit_ingest _ _ _ _

theorem audit_afterExecute {running : Command} {ref : ProviderDeviceRef}
    {outcome : AdapterOutcome ProviderCommandResult} {ended : CommandService × Command}
    (h : afterExecute clock service running ref outcome = some ended) : ∃ completed,
    audit ended.1.trace = audit service.trace ++ [completed] ∧
      Completes running.id ended.2.status completed := by
  cases outcome with
  | returned result =>
      obtain rfl := Option.some.inj h
      rw [← @audit_ingestResult clock service running ref result]
      unfold settle
      cases result.outcome with
      | applied | rejected | unknown => exact audit_finish _ _ _
  | raised error =>
      cases error with
      | timeoutError => cases h
      | providerError failureCode | other =>
          obtain rfl := Option.some.inj h
          exact audit_finish _ _ _
  | deadline => cases h

theorem audit_afterGetState (running : Command) (ref : ProviderDeviceRef)
    (params : CommandParams) (outcome : AdapterOutcome ProviderState) : ∃ completed,
    audit (afterGetState clock service running ref params outcome).1.trace =
        audit service.trace ++ [completed] ∧
      Completes running.id (afterGetState clock service running ref params outcome).2.status
        completed := by
  cases outcome with
  | returned observed =>
      simp only [afterGetState]
      rw [← @audit_ingest clock service ref observed .providerSnapshot (some running.correlationId)]
      split <;> exact audit_finish _ _ _
  | raised error | deadline => exact audit_finish _ _ _

theorem audit_join (world : World) (command : Command) (ref : ProviderDeviceRef)
    (params : CommandParams) :
    audit (world.join clock command ref params).service.trace = audit world.service.trace := by
  have hstart : audit ((world.service.start clock command).1.deviceLock command.deviceId).1.trace =
      audit world.service.trace := by
    rw [deviceLock_trace]
    exact audit_start command
  unfold World.join
  dsimp only
  split
  · rw [audit_emit, hstart]
    exact List.append_nil _
  · exact hstart

-- What a refusal tells the sink: nothing only if the setpoint is out of the device's range.
theorem audit_check {call : SubmitCall} {device : Device} {params : CommandParams}
    {held : CommandService} {error : HomeFlowError}
    (hdevice : service.registry.get call.deviceId = some device)
    (hparams : validate coercion call.action call.parameters = .ok params)
    (hcheck : check clock coercion service call = (held, .error error)) :
    (∃ denied, audit held.trace = audit service.trace ++ [denied] ∧
        denied.event = "command.denied") ↔
      (device.supports (requiredCapabilityFor call.action params) = true →
        checkConstraints device params = .ok ()) := by
  have hdenied : ∀ reason, ∃ denied, audit (auditDenied clock service call device reason).trace =
      audit service.trace ++ [denied] ∧ denied.event = "command.denied" := fun reason => by
    obtain ⟨denied, haudit, hevent, -⟩ := @audit_auditDenied clock service call device reason
    exact ⟨denied, haudit, hevent⟩
  unfold check at hcheck
  simp only [hdevice, hparams] at hcheck
  split at hcheck
  · next hunsupported =>
    obtain ⟨rfl, -⟩ := Prod.mk.inj hcheck
    refine iff_of_true (hdenied _) fun hsupports => ?_
    rw [hsupports] at hunsupported
    cases hunsupported
  · next hsupports =>
    split at hcheck
    · next constraint hconstraint =>
      obtain ⟨rfl, -⟩ := Prod.mk.inj hcheck
      refine iff_of_false ?_ fun h => ?_
      · rintro ⟨denied, haudit, -⟩
        simp at haudit
      · rw [h (by simpa using hsupports)] at hconstraint
        cases hconstraint
    · next hconstraint =>
      have hright : device.supports (requiredCapabilityFor call.action params) = true →
          checkConstraints device params = .ok () := fun _ => hconstraint
      split at hcheck
      · obtain ⟨rfl, -⟩ := Prod.mk.inj hcheck
        exact iff_of_true (hdenied _) hright
      · split at hcheck
        · obtain ⟨rfl, -⟩ := Prod.mk.inj hcheck
          exact iff_of_true (hdenied _) hright
        · cases hcheck

theorem audited_check (id : Uuid) (call : SubmitCall) :
    audited id (check clock coercion service call).1.trace = audited id service.trace := by
  rcases check_denies clock coercion service call with hsame | ⟨device, reason, hdenied⟩
  · rw [hsame]
  · obtain ⟨denied, haudit, -, hnone⟩ := @audit_auditDenied clock service call device reason
    rw [hdenied, audited, haudit, List.filter_append, audited]
    simp [hnone]

end Entries

-- What the sink knows of each command at every moment.
structure Logged (world : World) : Prop where
  flight : ∀ id task, world.tasks.get? id = some task → AuditedOnce id world.service.trace
  ended : ∀ id final, world.returned.get? id = some final →
    AuditedTwice id final.status world.service.trace ∧ id < world.service.ids
  fresh : ∀ id, world.service.ids ≤ id → audited id world.service.trace = []

section Logged

variable {clock : Nat → Time} {coercion : Coercion} {world after : World} {id : Uuid}

theorem audited_more {before later : List Effect} {entries : List AuditEntry}
    (haudit : audit later = audit before ++ entries)
    (hentries : ∀ entry ∈ entries, entry.commandId = some id) (other : Uuid) :
    audited other later = audited other before ++ if other = id then entries else [] := by
  rw [audited, haudit, List.filter_append, audited]
  congr 1
  split
  · next he =>
    subst he
    exact List.filter_eq_self.mpr fun entry hentry => by simp [hentries entry hentry]
  · next hne =>
    refine List.filter_eq_nil_iff.mpr fun entry hentry => ?_
    simp [hentries entry hentry, Ne.symm hne]

-- A step has entries of one command recorded at most.
theorem Logged.of_one (h : Logged world) {entries : List AuditEntry}
    (haudit : audit after.service.trace = audit world.service.trace ++ entries)
    (hentries : ∀ entry ∈ entries, entry.commandId = some id)
    (hids : world.service.ids ≤ after.service.ids) (hid : id < after.service.ids)
    (htasks : ∀ other task, other ≠ id → after.tasks.get? other = some task →
      ∃ old, world.tasks.get? other = some old)
    (hreturned : ∀ other, other ≠ id → after.returned.get? other = world.returned.get? other)
    (hflight : ∀ task, after.tasks.get? id = some task → AuditedOnce id after.service.trace)
    (hended : ∀ final, after.returned.get? id = some final →
      AuditedTwice id final.status after.service.trace) : Logged after := by
  have hothers : ∀ other, other ≠ id →
      audited other after.service.trace = audited other world.service.trace := fun other hne => by
    rw [audited_more haudit hentries, if_neg hne, List.append_nil]
  refine ⟨fun other task htask => ?_, fun other final hfinal => ?_, fun other hother => ?_⟩
  · by_cases he : other = id
    · subst he
      exact hflight task htask
    · obtain ⟨old, hold⟩ := htasks other task he htask
      rw [AuditedOnce, hothers other he]
      exact h.flight other old hold
  · by_cases he : other = id
    · subst he
      exact ⟨hended final hfinal, hid⟩
    · rw [hreturned other he] at hfinal
      rw [AuditedTwice, hothers other he]
      exact ⟨(h.ended other final hfinal).1, (h.ended other final hfinal).2.trans_le hids⟩
  · have hne : other ≠ id := fun he => absurd hid (Nat.not_lt_of_ge (he ▸ hother))
    rw [hothers other hne]
    exact h.fresh other (hids.trans hother)

theorem Logged.quiet (h : Logged world)
    (haudited : ∀ id, audited id after.service.trace = audited id world.service.trace)
    (hids : after.service.ids = world.service.ids)
    (htasks : ∀ id task, after.tasks.get? id = some task → ∃ old, world.tasks.get? id = some old)
    (hreturned : after.returned = world.returned) : Logged after := by
  refine ⟨fun id task htask => ?_, fun id final hfinal => ?_, fun id hid => ?_⟩
  · obtain ⟨old, hold⟩ := htasks id task htask
    rw [AuditedOnce, haudited]
    exact h.flight id old hold
  · rw [hreturned] at hfinal
    rw [AuditedTwice, haudited, hids]
    exact h.ended id final hfinal
  · rw [haudited]
    exact h.fresh id (hids ▸ hid)

-- A command in flight is finished.
theorem Logged.finished (h : Logged world) (hlocked : Locked world) {task : Task}
    {result : CommandService × Command} {completed : AuditEntry}
    (htask : world.tasks.get? id = some task)
    (haudit : audit result.1.trace = audit world.service.trace ++ [completed])
    (hcompletes : Completes task.running.id result.2.status completed)
    (hids : result.1.ids = world.service.ids) :
    Logged ((world.leave id task).finished id result) := by
  rw [hlocked.running_id id task htask] at hcompletes
  have hentries : ∀ entry ∈ [completed], entry.commandId = some id := by
    intro entry hentry
    rw [List.mem_singleton.mp hentry, hcompletes.commandId]
  refine h.of_one haudit hentries hids.ge
    (hids.ge.trans_lt' (hlocked.known id task htask)) ?_ ?_ ?_ ?_
  · intro other held hne hheld
    exact ⟨held, (OrderedDict.get?_erase_eq_some.mp hheld).2⟩
  · intro other hne
    exact OrderedDict.get?_set_of_ne hne
  · intro held hheld
    exact absurd rfl (OrderedDict.get?_erase_eq_some.mp hheld).1
  · intro final hfinal
    obtain rfl := Option.some.inj ((OrderedDict.get?_set_self _ _ _).symm.trans hfinal)
    obtain ⟨requested, honce, hrequests⟩ := h.flight id task htask
    refine ⟨requested, completed, ?_, hrequests, hcompletes⟩
    exact (audited_more haudit hentries id).trans (by rw [honce, if_pos rfl]; rfl)

theorem audit_quiet {service : CommandService} {effect : Effect} (heffect : effect.entry? = none) :
    audit (service.emit effect).trace = audit service.trace := by
  rw [audit_emit, heffect]
  exact List.append_nil _

theorem audited_congr {before later : List Effect} (haudit : audit later = audit before)
    (id : Uuid) : audited id later = audited id before := by
  rw [audited, haudit, audited]

-- Both entries of a command whose device has no adapter are recorded at once.
theorem audit_unwired (service : CommandService) (call : SubmitCall) (accepted : Accepted) :
    ∃ requested completed,
      audit ((service.create clock call accepted).1.finish clock
          (service.create clock call accepted).2 .failed (some "provider_unavailable")).1.trace =
        audit service.trace ++ [requested, completed] ∧
      Requests service.ids requested ∧
      Completes service.ids ((service.create clock call accepted).1.finish clock
        (service.create clock call accepted).2 .failed (some "provider_unavailable")).2.status
          completed := by
  obtain ⟨requested, hrequested, hrequests⟩ := @audit_create clock service call accepted
  obtain ⟨completed, hcompleted, hcompletes⟩ := @audit_finish clock
    (service.create clock call accepted).1 (service.create clock call accepted).2 .failed
    (some "provider_unavailable")
  refine ⟨requested, completed, ?_, hrequests, hcompletes⟩
  rw [hcompleted, hrequested, List.append_assoc]
  rfl

theorem logged_step {label : Label} (h : Logged world) (hlocked : Locked world)
    (hstep : World.step clock coercion world label = some after) : Logged after := by
  cases step_moved hstep with
  | @refused call service error hcheck =>
      have haudited := fun id => @audited_check clock coercion world.service id call
      have hids := (frame_check clock coercion world.service call).ids
      rw [hcheck] at haudited hids
      exact h.quiet haudited hids (fun id task htask => ⟨task, htask⟩) rfl
  | @unwired call accepted ref =>
      obtain ⟨requested, completed, haudit, hrequests, hcompletes⟩ :=
        @audit_unwired clock world.service call accepted
      have hids := (frame_finish clock (world.service.create clock call accepted).1
        (world.service.create clock call accepted).2 .failed (some "provider_unavailable")).ids
      rw [create_ids] at hids
      have hentries : ∀ entry ∈ [requested, completed],
          entry.commandId = some world.service.ids := by
        simp [hrequests.commandId, hcompletes.commandId]
      refine h.of_one haudit hentries (hids.ge.trans' (Nat.le_succ _))
        (hids.ge.trans_lt' (Nat.lt_succ_self _)) (fun other held _ hheld => ⟨held, hheld⟩) ?_ ?_ ?_
      · intro other hne
        exact OrderedDict.get?_set_of_ne hne
      · intro held hheld
        exact absurd (hlocked.known _ held hheld) (lt_irrefl _)
      · intro final hfinal
        obtain rfl := Option.some.inj ((OrderedDict.get?_set_self _ _ _).symm.trans hfinal)
        refine ⟨requested, completed, ?_, hrequests, hcompletes⟩
        exact (audited_more haudit hentries _).trans (by rw [h.fresh _ le_rfl, if_pos rfl]; rfl)
  | @joined call accepted ref =>
      let created := world.service.create clock call accepted
      let before : World := { world with service := created.1 }
      obtain ⟨requested, hrequested, hrequests⟩ := @audit_create clock world.service call accepted
      obtain ⟨task, -, htasks, -⟩ := join_tasks clock before created.2 ref accepted.params
      have haudit : audit (before.join clock created.2 ref accepted.params).service.trace =
          audit world.service.trace ++ [requested] :=
        (audit_join before created.2 ref accepted.params).trans hrequested
      have hids : (before.join clock created.2 ref accepted.params).service.ids =
          world.service.ids + 1 := join_ids clock before created.2 ref accepted.params
      have hentries : ∀ entry ∈ [requested], entry.commandId = some world.service.ids := by
        simp [hrequests.commandId]
      refine h.of_one haudit hentries (hids.ge.trans' (Nat.le_succ _))
        (hids.ge.trans_lt' (Nat.lt_succ_self _)) ?_ (fun _ _ => rfl) ?_ ?_
      · intro other held hne hheld
        rw [htasks] at hheld
        exact ⟨held, (OrderedDict.get?_set_of_ne hne).symm.trans hheld⟩
      · intro held _
        refine ⟨requested, ?_, hrequests⟩
        exact (audited_more haudit hentries _).trans (by rw [h.fresh _ le_rfl, if_pos rfl]; rfl)
      · intro final hfinal
        exact absurd (h.ended _ final hfinal).2 (lt_irrefl _)
  | @entered id task mutex htask =>
      exact h.quiet (audited_congr (audit_quiet rfl)) rfl
        (fun other held hheld => (held_rephase htask hheld).imp fun _ => And.left) rfl
  | @ended id task outcome result htask _ hended =>
      obtain ⟨completed, haudit, hcompletes⟩ := audit_afterExecute hended
      rw [audit_quiet rfl] at haudit
      exact h.finished hlocked htask haudit hcompletes (frame_afterExecute clock _ hended).ids
  | @timedOut id task outcome htask =>
      refine h.quiet (audited_congr ?_) rfl
        (fun other held hheld => (held_rephase htask hheld).imp fun _ => And.left) rfl
      rw [audit_quiet rfl, audit_publish, audit_quiet rfl]
  | @reconciled id task outcome htask =>
      obtain ⟨completed, haudit, hcompletes⟩ := @audit_afterGetState clock
        (world.service.emit (.readBackEnded id outcome)) task.running task.ref task.params outcome
      rw [audit_quiet rfl] at haudit
      exact h.finished hlocked htask haudit hcompletes
        (frame_afterGetState clock (world.service.emit (.readBackEnded id outcome)) task.running
          task.ref task.params outcome).ids
  | abandoned | interrupted =>
      exact h.quiet (fun _ => rfl) rfl
        (fun other held hheld => (held_erase hheld).imp fun _ => And.left) rfl
  | ingested =>
      exact h.quiet (audited_congr (audit_ingest _ _ _ _)) rfl
        (fun other held hheld => ⟨held, hheld⟩) rfl

theorem logged_initial (registry : DeviceRegistry) (providers : List String) :
    Logged (initial registry providers) := by
  refine ⟨?_, ?_, fun _ _ => rfl⟩ <;> simp [initial]

theorem logged_run {registry : DeviceRegistry} {providers : List String} {labels : List Label}
    (hrun : Machine.run (World.step clock coercion) (initial registry providers) labels =
      some world) : Logged world ∧ Locked world :=
  @Machine.invariant _ _ (World.step clock coercion) (fun state => Logged state ∧ Locked state)
    _ world labels ⟨logged_initial registry providers, locked_initial rfl⟩
    (fun _ _ _ hbefore hstep =>
      ⟨logged_step hbefore.1 hbefore.2 hstep, locked_step hbefore.2 hstep⟩) hrun

-- The call of submit is still suspended, or it has returned.
def Present (id : Uuid) (world : World) : Prop :=
  (world.tasks.get? id).isSome = true ∨ (world.returned.get? id).isSome = true

-- Nothing but a cancellation makes a command vanish.
theorem present_step {label : Label} (h : Present id world) (hlabel : label ≠ .cancelTask id)
    (hstep : World.step clock coercion world label = some after) : Present id after := by
  cases step_moved hstep with
  | refused | ingested => exact h
  | unwired => exact h.imp_right OrderedDict.isSome_set
  | @joined call accepted ref =>
      obtain ⟨task, -, htasks, -⟩ := join_tasks clock
        { world with service := (world.service.create clock call accepted).1 }
        (world.service.create clock call accepted).2 ref accepted.params
      refine h.imp_left fun hsome => ?_
      rw [htasks]
      exact OrderedDict.isSome_set hsome
  | entered | timedOut => exact h.imp_left OrderedDict.isSome_set
  | @ended other | @reconciled other =>
      by_cases he : id = other
      · subst he
        exact .inr (Option.isSome_of_eq_some (OrderedDict.get?_set_self _ _ _))
      · refine h.imp (fun hsome => ?_) OrderedDict.isSome_set
        exact OrderedDict.isSome_erase he hsome
  | abandoned | interrupted =>
      refine h.imp_left fun hsome => OrderedDict.isSome_erase ?_ hsome
      rintro rfl
      exact hlabel rfl

end Logged

section Audited

variable {clock : Nat → Time} {coercion : Coercion} {registry : DeviceRegistry}
  {providers : List String} {labels : List Label} {world : World} {call : SubmitCall}
  {accepted : Accepted}

theorem audited_unwired {ref : ProviderDeviceRef}
    (haccepts : Accepts coercion world.service.registry call accepted)
    (href : world.service.registry.refFor accepted.device.id = some ref)
    (hwired : ref.provider ∉ world.service.providers) : Audited clock coercion world call := by
  obtain ⟨requested, completed, haudit, hrequests, hcompletes⟩ :=
    @audit_unwired clock world.service call accepted
  have href' : (world.service.create clock call accepted).1.registry.refFor accepted.device.id =
      some ref := href
  have hwired' : ref.provider ∉ (world.service.create clock call accepted).1.providers := hwired
  simp only [Audited, World.submit, check_of_accepts haccepts, href', hwired', if_false]
  exact ⟨requested, completed, haudit, hrequests, hcompletes⟩

theorem audited_joined {ref : ProviderDeviceRef}
    (hrun : Machine.run (World.step clock coercion) (initial registry providers) labels =
      some world)
    (haccepts : Accepts coercion world.service.registry call accepted)
    (href : world.service.registry.refFor accepted.device.id = some ref)
    (hwired : ref.provider ∈ world.service.providers) : Audited clock coercion world call := by
  have hsubmit := @submit_of_accepts clock coercion world call accepted ref haccepts href hwired
  obtain ⟨requested, hrequested, hrequests⟩ := @audit_create clock world.service call accepted
  rw [Audited, hsubmit]
  refine ⟨requested, (audit_join _ _ _ _).trans hrequested, hrequests, ?_⟩
  intro rest final hrest hkept
  have hwhole : Machine.run (World.step clock coercion) (initial registry providers)
      (labels ++ .submit call :: rest) = some final := by
    rw [Machine.run_append, hrun, Option.bind_some, Machine.run, World.step, hsubmit]
    exact hrest
  have hlogged := (logged_run hwhole).1
  obtain ⟨task, -, htasks, -⟩ := join_tasks clock
    { world with service := (world.service.create clock call accepted).1 }
    (world.service.create clock call accepted).2 ref accepted.params
  have hstart : Present world.service.ids
      (({ world with service := (world.service.create clock call accepted).1 } : World).join clock
        (world.service.create clock call accepted).2 ref accepted.params) := by
    refine .inl ?_
    rw [htasks]
    exact Option.isSome_of_eq_some (OrderedDict.get?_set_self _ _ _)
  have hpresent : Present world.service.ids final := Machine.guarded_invariant hstart
    (fun _ _ _ hbefore hlabel hstep => present_step hbefore hlabel hstep) hrest
    (Machine.guarded_of_forall fun label hlabel heq => hkept (heq ▸ hlabel))
  rcases hpresent with hflight | hreturned
  · obtain ⟨held, hheld⟩ := Option.isSome_iff_exists.mp hflight
    exact .inl ⟨hflight, hlogged.flight _ held hheld⟩
  · obtain ⟨command, hcommand⟩ := Option.isSome_iff_exists.mp hreturned
    exact .inr ⟨command, hcommand, (hlogged.ended _ command hcommand).1⟩

-- Every attempt to change a registered device leaves its entries in the audit trail, but for
-- a setpoint that is refused because of the limits of the device.
theorem audited_iff_constraints {device : Device} {params : CommandParams}
    (hrun : Machine.run (World.step clock coercion) (initial registry providers) labels =
      some world)
    (hdevice : world.service.registry.get call.deviceId = some device)
    (hparams : validate coercion call.action call.parameters = .ok params) :
    Audited clock coercion world call ↔
      (device.supports (requiredCapabilityFor call.action params) = true →
        checkConstraints device params = .ok ()) := by
  cases hcheck : check clock coercion world.service call with
  | mk held result =>
      cases result with
      | error error =>
          rw [← audit_check hdevice hparams hcheck]
          simp only [Audited, World.submit, hcheck]
      | ok accepted =>
          obtain ⟨rfl, haccepts⟩ := check_ok hcheck
          obtain ⟨ref, href⟩ := haccepts.exists_ref
          obtain rfl := Option.some.inj (haccepts.registered.symm.trans hdevice)
          obtain rfl := Except.ok.inj (haccepts.params.symm.trans hparams)
          refine iff_of_true ?_ fun _ => haccepts.constraints
          by_cases hwired : ref.provider ∈ world.service.providers
          · exact audited_joined hrun haccepts href hwired
          · exact audited_unwired haccepts href hwired

end Audited

theorem audited_iff_constraints_lamp :
    Audited (fun _ => 0) strict (initial (lamps 1) ["demo"]) (switchOn 0) ↔
      ((lampDevice 0).supports .power = true →
        checkConstraints (lampDevice 0) (.onOff true) = .ok ()) :=
  @audited_iff_constraints (fun _ => 0) strict (lamps 1) ["demo"] [] _ (switchOn 0) _ _ rfl
    (lamps_get Nat.zero_lt_one).1 (accepts_switchOn strict (lamps_get Nat.zero_lt_one).1).params

-- A tub that may be heated to forty degrees.
def tub : ProviderDevice :=
  { ref := lampRef 0, suggestedName := "Tub", kind := .pool, capabilities := [.targetTemperature]
    constraints := { targetTemperatureMinC := some (.finite 20)
                     targetTemperatureMaxC := some (.finite 40) } }

def tubRegistry : DeviceRegistry :=
  DeviceRegistry.empty.register lampUuid (fun _ => 0) tub lampState

def tubDevice : Device := DeviceRegistry.registered lampUuid (fun _ => 0) tub lampState

def fortyOne : Setpoint := ⟨41, by norm_num⟩

def heatTooMuch : SubmitCall :=
  ⟨⟨0, 0, "Member"⟩, 0, .setTargetTemperature, [("celsius", .float (.finite 41))], "request"⟩

-- A setpoint of forty-one degrees is refused, and the audit trail does not know.
theorem refused_setpoint_unaudited :
    (initial tubRegistry ["demo"]).service.registry.get heatTooMuch.deviceId = some tubDevice ∧
      validate strict heatTooMuch.action heatTooMuch.parameters =
        .ok (.targetTemperature fortyOne) ∧
      ¬Audited (fun _ => 0) strict (initial tubRegistry ["demo"]) heatTooMuch := by
  have hparams : validate strict heatTooMuch.action heatTooMuch.parameters =
      .ok (.targetTemperature fortyOne) := by
    have hsetpoint : Setpoint.validate (.finite 41) = some fortyOne := by decide +kernel
    simp [validate, heatTooMuch, ACTION_SPECS, ParamsModel.validate, strict, hsetpoint]
  have hconstraints : checkConstraints tubDevice (.targetTemperature fortyOne) =
      .error (.outsideRange (.finite 20) (.finite 40)) := by
    decide +kernel
  have hcheck : check (fun _ => 0) strict (initial tubRegistry ["demo"]).service heatTooMuch =
      ((initial tubRegistry ["demo"]).service,
          .error (.outsideRange (.finite 20) (.finite 40))) := by
    have hsupports : tubDevice.supports .targetTemperature = true := rfl
    have hdevice : (initial tubRegistry ["demo"]).service.registry.get heatTooMuch.deviceId =
        some tubDevice := rfl
    have hcapability : requiredCapabilityFor heatTooMuch.action (.targetTemperature fortyOne) =
        .targetTemperature := rfl
    simp only [check, hdevice, hparams, hcapability, hsupports, hconstraints, Bool.not_true,
      Bool.false_eq_true, if_false]
  refine ⟨rfl, hparams, fun h => ?_⟩
  rw [Audited, World.submit, hcheck] at h
  obtain ⟨denied, haudit, -⟩ := h
  simp at haudit

end Homeflow.Commands
