import Homeflow.Commands.Gate
import Homeflow.Commands.Serial
import Homeflow.Lib.History

-- Whatever is told of a command leads back to the call of submit that made it.
namespace Homeflow.Commands

open CommandService

-- An accepted call of submit: its parameters as they were validated, and its device.
structure Made where
  call : SubmitCall
  params : CommandParams
  ref : ProviderDeviceRef

-- A record of the command that the call made.
structure Bears (id : Uuid) (made : Made) (command : Command) : Prop where
  id : command.id = id
  deviceId : command.deviceId = made.call.deviceId
  userId : command.requestedByUserId = made.call.principal.userId
  clientId : command.requestedByClientId = made.call.principal.clientId
  action : command.action = made.call.action
  parameters : command.parameters = made.params.dump
  riskClass : command.riskClass = classify made.call.action made.params
  correlationId : command.correlationId = made.call.correlationId

structure Names (call : SubmitCall) (entry : AuditEntry) : Prop where
  userId : entry.actorUserId = some call.principal.userId
  clientId : entry.actorClientId = some call.principal.clientId
  deviceId : entry.deviceId = some call.deviceId
  action : entry.action = some call.action
  correlationId : entry.correlationId = some call.correlationId

-- What is told is told of a command that was made, and as its call has it. What is told of
-- no command is a denial, or an observation that a command may have brought about.
def Effect.Attributed (made : Uuid → Option Made) (calls : List SubmitCall) : Effect → Prop
  | .remembered command => ∃ one, made command.id = some one ∧ Bears command.id one command
  | .recorded entry =>
      match entry.commandId with
      | some id => ∃ one, made id = some one ∧ Names one.call entry ∧
          entry.riskClass = some (classify one.call.action one.params)
      | none => entry.event = "command.denied" ∧ ∃ call ∈ calls, Names call entry
  | .published event =>
      match event.commandId with
      | some id => ∃ one, made id = some one ∧ event.deviceId = some one.call.deviceId ∧
          event.correlationId = some one.call.correlationId ∧
          ("action", .str one.call.action.value) ∈ event.payload
      | none => ∀ correlationId, event.correlationId = some correlationId →
          ∃ id one, made id = some one ∧ one.call.correlationId = correlationId
  | .executed id ref command =>
      ∃ one, made id = some one ∧ ref = one.ref ∧ command = ⟨one.call.action, one.params⟩
  | .readBack id ref => ∃ one, made id = some one ∧ ref = one.ref
  | .executeEnded id _ | .readBackEnded id _ => (made id).isSome

variable {made : Uuid → Option Made} {calls : List SubmitCall}

structure Attributed (made : Uuid → Option Made) (calls : List SubmitCall)
    (service : CommandService) : Prop where
  trace : ∀ effect ∈ service.trace, effect.Attributed made calls
  commands : ∀ id command, service.commands.get? id = some command →
    ∃ one, made id = some one ∧ Bears id one command

section Service

variable (clock : Nat → Time) {coercion : Coercion} {service : CommandService} {id : Uuid}
  {one : Made} {command : Command}

theorem Attributed.told (h : Attributed made calls service) {effects : List Effect}
    (heffects : ∀ effect ∈ effects, effect.Attributed made calls) {after : CommandService}
    (htrace : after.trace = service.trace ++ effects)
    (hcommands : after.commands = service.commands) : Attributed made calls after := by
  refine ⟨fun effect heffect => ?_, fun id command hget => h.commands id command (hcommands ▸ hget)⟩
  rw [htrace, List.mem_append] at heffect
  exact heffect.elim (h.trace effect) (heffects effect)

theorem attributed_emit (h : Attributed made calls service) {effect : Effect}
    (heffect : effect.Attributed made calls) : Attributed made calls (service.emit effect) :=
  h.told (by simpa using heffect) rfl rfl

theorem get?_of_dropOldest {excess : Nat} {table : OrderedDict Uuid Command}
    (h : (dropOldest excess table).get? id = some command) : table.get? id = some command := by
  induction excess generalizing table with
  | zero => exact h
  | succ excess ih => exact OrderedDict.get?_of_popFirst (ih h)

theorem attributed_remember (h : Attributed made calls service) (hmade : made id = some one)
    (hbears : Bears id one command) : Attributed made calls (service.remember command) := by
  obtain rfl := hbears.id
  refine ⟨fun effect heffect => ?_, fun other held hheld => ?_⟩
  · rcases List.mem_append.mp heffect with hold | hnew
    · exact h.trace effect hold
    · obtain rfl := List.mem_singleton.mp hnew
      exact ⟨one, hmade, hbears⟩
  · have hstored := get?_of_dropOldest hheld
    rw [OrderedDict.get?_moveToEnd] at hstored
    obtain ⟨rfl, rfl⟩ | ⟨-, hold⟩ := OrderedDict.get?_set_eq_some.mp hstored
    · exact ⟨one, hmade, hbears⟩
    · exact h.commands other held hold

theorem attributed_publish (h : Attributed made calls service) (hmade : made id = some one)
    (hbears : Bears id one command) (type : EventType) :
    Attributed made calls (publish clock service type command) := by
  refine h.told ?_ rfl rfl
  simp only [List.mem_singleton, forall_eq, Effect.Attributed, hbears.id, hbears.deviceId,
    hbears.correlationId, hbears.action]
  exact ⟨one, hmade, rfl, rfl, by simp⟩

theorem Bears.withStatus (h : Bears id one command) (status : CommandStatus) (moment : Time)
    (failureCode : Option String) :
    Bears id one (command.withStatus status moment failureCode) := by
  unfold Command.withStatus
  split <;> exact ⟨h.id, h.deviceId, h.userId, h.clientId, h.action, h.parameters, h.riskClass,
    h.correlationId⟩

theorem Bears.names (h : Bears id one command) {entry : AuditEntry}
    (huser : entry.actorUserId = some command.requestedByUserId)
    (hclient : entry.actorClientId = some command.requestedByClientId)
    (hdevice : entry.deviceId = some command.deviceId)
    (haction : entry.action = some command.action)
    (hcorrelation : entry.correlationId = some command.correlationId) : Names one.call entry :=
  ⟨huser.trans (congrArg some h.userId), hclient.trans (congrArg some h.clientId),
    hdevice.trans (congrArg some h.deviceId), haction.trans (congrArg some h.action),
    hcorrelation.trans (congrArg some h.correlationId)⟩

-- An entry of a command that holds what the record of it holds.
theorem attributed_recorded (h : Attributed made calls service) (hmade : made id = some one)
    (hbears : Bears id one command) {entry : AuditEntry}
    (hid : entry.commandId = some command.id) (hnames : Names one.call entry)
    (hrisk : entry.riskClass = some command.riskClass) :
    Attributed made calls (service.emit (.recorded entry)) := by
  refine attributed_emit h ?_
  simp only [Effect.Attributed, hid, hbears.id]
  exact ⟨one, hmade, hnames, hrisk.trans (congrArg some hbears.riskClass)⟩

theorem Attributed.read (h : Attributed made calls service) (reads ids : Nat) :
    Attributed made calls { service with reads, ids } :=
  ⟨h.trace, h.commands⟩

theorem attributed_start (h : Attributed made calls service) (hmade : made id = some one)
    (hbears : Bears id one command) :
    Attributed made calls (service.start clock command).1 ∧
      Bears id one (service.start clock command).2 := by
  have hrunning := hbears.withStatus .running (clock service.reads) none
  have hremembered := attributed_remember (h.read (service.reads + 1) service.ids) hmade hrunning
  exact ⟨attributed_publish clock hremembered hmade hrunning _, hrunning⟩

theorem attributed_finish (h : Attributed made calls service) (hmade : made id = some one)
    (hbears : Bears id one command) (status : CommandStatus) (failureCode : Option String) :
    Attributed made calls (service.finish clock command status failureCode).1 ∧
      Bears id one (service.finish clock command status failureCode).2 := by
  have hfinished := hbears.withStatus status (clock service.reads) failureCode
  have hrecorded := attributed_remember (h.read (service.reads + 1) service.ids) hmade hfinished
  unfold CommandService.finish
  dsimp only
  cases COMPLETION_EVENTS status with
  | none =>
      exact ⟨attributed_recorded hrecorded hmade hfinished rfl (hfinished.names rfl rfl rfl rfl rfl)
        rfl, hfinished⟩
  | some type =>
      exact ⟨attributed_publish clock (attributed_recorded hrecorded hmade hfinished rfl
        (hfinished.names rfl rfl rfl rfl rfl) rfl) hmade hfinished type, hfinished⟩

theorem attributed_create (h : Attributed made calls service) {call : SubmitCall}
    {accepted : Accepted} {ref : ProviderDeviceRef}
    (haccepts : Accepts coercion service.registry call accepted)
    (hmade : made service.ids = some ⟨call, accepted.params, ref⟩) :
    Attributed made calls (service.create clock call accepted).1 ∧
      Bears service.ids ⟨call, accepted.params, ref⟩ (service.create clock call accepted).2 := by
  have hbears : Bears service.ids ⟨call, accepted.params, ref⟩
      (service.create clock call accepted).2 :=
    ⟨rfl, haccepts.id_eq, rfl, rfl, rfl, rfl, haccepts.risk, rfl⟩
  have hremembered := attributed_remember (h.read (service.reads + 1) (service.ids + 1)) hmade
    hbears
  refine ⟨?_, hbears⟩
  unfold CommandService.create
  dsimp only
  exact attributed_publish clock (attributed_recorded hremembered hmade hbears rfl
    (hbears.names rfl rfl (congrArg some haccepts.id_eq ▸ rfl) rfl rfl) rfl) hmade hbears _

-- A refused call leaves at most a denial, and that names it.
theorem attributed_check (h : Attributed made calls service) {call : SubmitCall}
    (hcall : call ∈ calls) : Attributed made calls (check clock coercion service call).1 := by
  have hdenied : ∀ device reason, device.id = call.deviceId →
      Attributed made calls (auditDenied clock service call device reason) := by
    intro device reason hid
    refine h.told ?_ rfl rfl
    simp only [List.mem_singleton, forall_eq, Effect.Attributed]
    exact ⟨trivial, call, hcall, rfl, rfl, congrArg some hid, rfl, rfl⟩
  unfold check
  split
  · exact h
  · next device hdevice =>
    have hid := service.registry.devices_id _ _ hdevice
    split
    · exact h
    · split
      · exact hdenied _ _ hid
      · split
        · exact h
        · dsimp only
          split
          · exact hdenied _ _ hid
          · split
            · exact hdenied _ _ hid
            · exact h

theorem attributed_ingest (h : Attributed made calls service) {correlationId : Option String}
    (hcorrelation : ∀ text, correlationId = some text →
      ∃ id one, made id = some one ∧ one.call.correlationId = text)
    (ref : ProviderDeviceRef) (state : ProviderState) (source : StateSource) :
    Attributed made calls (service.ingest clock ref state source correlationId) := by
  refine h.told (fun effect heffect => ?_) rfl rfl
  obtain ⟨event, hevent, rfl⟩ := List.mem_map.mp heffect
  obtain ⟨hcommand, hsame⟩ := (DeviceService.ingest_told clock _ hevent).resolve_left
    List.not_mem_nil
  simp only [Effect.Attributed, hcommand, hsame]
  exact hcorrelation

theorem correlates (hmade : made id = some one) (hbears : Bears id one command) :
    ∀ text, some command.correlationId = some text →
      ∃ id one, made id = some one ∧ one.call.correlationId = text := by
  rintro text ⟨⟩
  exact ⟨id, one, hmade, hbears.correlationId.symm⟩

theorem attributed_afterExecute (h : Attributed made calls service) (hmade : made id = some one)
    (hbears : Bears id one command) {ref : ProviderDeviceRef}
    {outcome : AdapterOutcome ProviderCommandResult} {result : CommandService × Command}
    (hended : service.afterExecute clock command ref outcome = some result) :
    Attributed made calls result.1 ∧ Bears id one result.2 := by
  cases outcome with
  | returned answer =>
      obtain rfl := Option.some.inj hended
      have hingested : Attributed made calls (ingestResult clock service command ref answer) := by
        unfold ingestResult
        cases answer.state with
        | none => exact h
        | some state => exact attributed_ingest clock h (correlates hmade hbears) ref state _
      unfold settle
      cases answer.outcome <;> exact attributed_finish clock hingested hmade hbears _ _
  | raised error =>
      cases error with
      | timeoutError => cases hended
      | providerError failureCode | other =>
          obtain rfl := Option.some.inj hended
          exact attributed_finish clock h hmade hbears _ _
  | deadline => cases hended

theorem attributed_afterGetState (h : Attributed made calls service) (hmade : made id = some one)
    (hbears : Bears id one command) (ref : ProviderDeviceRef) (params : CommandParams)
    (outcome : AdapterOutcome ProviderState) :
    Attributed made calls (service.afterGetState clock command ref params outcome).1 ∧
      Bears id one (service.afterGetState clock command ref params outcome).2 := by
  cases outcome with
  | returned observed =>
      have hingested := attributed_ingest clock h (correlates hmade hbears) ref observed
        .providerSnapshot
      simp only [afterGetState]
      split <;> exact attributed_finish clock hingested hmade hbears _ _
  | raised error | deadline => exact attributed_finish clock h hmade hbears _ _

end Service

-- More commands and more calls take nothing back.
theorem Effect.Attributed.mono {effect : Effect} (h : effect.Attributed made calls)
    {more : Uuid → Option Made} (hmore : ∀ id one, made id = some one → more id = some one)
    {others : List SubmitCall} (hothers : calls ⊆ others) : effect.Attributed more others := by
  cases effect with
  | remembered command =>
      obtain ⟨one, hmade, hbears⟩ := h
      exact ⟨one, hmore _ _ hmade, hbears⟩
  | recorded entry =>
      unfold Effect.Attributed at h ⊢
      dsimp only at h ⊢
      split at h
      · next hid =>
        obtain ⟨one, hmade, hnames⟩ := h
        exact ⟨one, hmore _ _ hmade, hnames⟩
      · obtain ⟨hdenied, call, hcall, hnames⟩ := h
        exact ⟨hdenied, call, hothers hcall, hnames⟩
  | published event =>
      unfold Effect.Attributed at h ⊢
      dsimp only at h ⊢
      split at h
      · next hid =>
        obtain ⟨one, hmade, hnames⟩ := h
        exact ⟨one, hmore _ _ hmade, hnames⟩
      · intro text htext
        obtain ⟨id, one, hmade, hsame⟩ := h text htext
        exact ⟨id, one, hmore _ _ hmade, hsame⟩
  | executed id ref command | readBack id ref =>
      obtain ⟨one, hmade, hsame⟩ := h
      exact ⟨one, hmore _ _ hmade, hsame⟩
  | executeEnded id outcome | readBackEnded id outcome =>
      obtain ⟨one, hmade⟩ := Option.isSome_iff_exists.mp h
      exact Option.isSome_iff_exists.mpr ⟨one, hmore _ _ hmade⟩

-- The same of all that a world holds and has told.
structure Traced (made : Uuid → Option Made) (calls : List SubmitCall) (world : World) : Prop where
  service : Attributed made calls world.service
  flight : ∀ id task, world.tasks.get? id = some task → ∃ one, made id = some one ∧
    Bears id one task.running ∧ task.ref = one.ref ∧ task.params = one.params
  returned : ∀ id command, world.returned.get? id = some command →
    ∃ one, made id = some one ∧ Bears id one command
  fresh : ∀ id, (made id).isSome ↔ id < world.service.ids

section Runs

variable {clock : Nat → Time} {coercion : Coercion} {world after : World}

theorem Traced.mono (h : Traced made calls world) {others : List SubmitCall}
    (hothers : calls ⊆ others) : Traced made others world :=
  ⟨⟨fun effect heffect => (h.service.trace effect heffect).mono (fun _ _ hmade => hmade) hothers,
    h.service.commands⟩, h.flight, h.returned, h.fresh⟩

-- What the run so far makes of a call that is accepted next.
theorem Traced.create (h : Traced made calls world) (one : Made) :
    let more := Function.update made world.service.ids (some one)
    (∀ id found, made id = some found → more id = some found) ∧
      Attributed more calls world.service ∧
      (∀ id, (more id).isSome ↔ id < world.service.ids + 1) := by
  have hmore : ∀ id found, made id = some found →
      Function.update made world.service.ids (some one) id = some found := by
    intro id found hmade
    have hlt := (h.fresh id).mp (by simp [hmade])
    rwa [Function.update_of_ne hlt.ne]
  refine ⟨hmore, ⟨fun effect heffect => (h.service.trace effect heffect).mono hmore fun _ hcall =>
    hcall, fun id command hget => ?_⟩, fun id => ?_⟩
  · obtain ⟨found, hmade, hbears⟩ := h.service.commands id command hget
    exact ⟨found, hmore _ _ hmade, hbears⟩
  · rcases eq_or_ne id world.service.ids with rfl | hne
    · simp
    · rw [Function.update_of_ne hne, h.fresh]
      exact ⟨Nat.lt_succ_of_lt, fun hlt => lt_of_le_of_ne (Nat.lt_succ_iff.mp hlt) hne⟩

theorem attributed_join (h : Attributed made calls world.service) {id : Uuid} {one : Made}
    {command : Command} (hmade : made id = some one) (hbears : Bears id one command) :
    Attributed made calls (world.join clock command one.ref one.params).service := by
  obtain ⟨hstarted, hrunning⟩ := attributed_start clock h hmade hbears
  have hlocked : Attributed made calls
      ((world.service.start clock command).1.deviceLock command.deviceId).1 := by
    rw [deviceLock_rest]
    exact ⟨hstarted.trace, hstarted.commands⟩
  unfold World.join
  dsimp only
  split
  · refine attributed_emit hlocked ?_
    exact ⟨one, hbears.id.symm ▸ hmade, rfl, by rw [hrunning.action]⟩
  · exact hlocked

theorem Traced.joined (h : Traced made calls world) {call : SubmitCall} {accepted : Accepted}
    {ref : ProviderDeviceRef} (haccepts : Accepts coercion world.service.registry call accepted) :
    Traced (Function.update made world.service.ids (some ⟨call, accepted.params, ref⟩)) calls
      ({ world with service := (world.service.create clock call accepted).1 }.join clock
        (world.service.create clock call accepted).2 ref accepted.params) := by
  obtain ⟨hmore, hservice, hfresh⟩ := h.create ⟨call, accepted.params, ref⟩
  have hmade := Function.update_self world.service.ids
    (some (⟨call, accepted.params, ref⟩ : Made)) made
  obtain ⟨hcreated, hbears⟩ := attributed_create clock hservice haccepts hmade
  obtain ⟨task, since, htasks, hrunning, ⟨href, hparams⟩, -⟩ := join_told clock
    { world with service := (world.service.create clock call accepted).1 }
    (world.service.create clock call accepted).2 ref accepted.params
  refine ⟨attributed_join hcreated hmade hbears, fun id held hheld => ?_, fun id command hget => ?_,
    fun id => ?_⟩
  · rw [htasks] at hheld
    obtain ⟨rfl, rfl⟩ | ⟨-, hold⟩ := OrderedDict.get?_set_eq_some.mp hheld
    · exact ⟨_, hmade, hrunning ▸ hbears.withStatus _ _ _, href, hparams⟩
    · obtain ⟨one, hone, hrest⟩ := h.flight id held hold
      exact ⟨one, hmore _ _ hone, hrest⟩
  · have hold : world.returned.get? id = some command := by
      unfold World.join at hget
      exact hget
    obtain ⟨one, hone, hheld⟩ := h.returned id command hold
    exact ⟨one, hmore _ _ hone, hheld⟩
  · rw [hfresh, join_ids]
    rfl

theorem Traced.unwired (h : Traced made calls world) {call : SubmitCall} {accepted : Accepted}
    (ref : ProviderDeviceRef) (haccepts : Accepts coercion world.service.registry call accepted)
    (failureCode : Option String) :
    Traced (Function.update made world.service.ids (some ⟨call, accepted.params, ref⟩)) calls
      (world.finished world.service.ids
        ((world.service.create clock call accepted).1.finish clock
          (world.service.create clock call accepted).2 .failed failureCode)) := by
  obtain ⟨hmore, hservice, hfresh⟩ := h.create ⟨call, accepted.params, ref⟩
  have hmade := Function.update_self world.service.ids
    (some (⟨call, accepted.params, ref⟩ : Made)) made
  obtain ⟨hcreated, hbears⟩ := attributed_create clock hservice haccepts hmade
  obtain ⟨hfinished, hended⟩ := attributed_finish clock hcreated hmade hbears .failed
    failureCode
  refine ⟨hfinished, fun id held hheld => ?_, fun id command hget => ?_, fun id => ?_⟩
  · obtain ⟨one, hone, hrest⟩ := h.flight id held hheld
    exact ⟨one, hmore _ _ hone, hrest⟩
  · obtain ⟨rfl, rfl⟩ | ⟨-, hold⟩ := OrderedDict.get?_set_eq_some.mp hget
    · exact ⟨_, hmade, hended⟩
    · obtain ⟨one, hone, hheld⟩ := h.returned id command hold
      exact ⟨one, hmore _ _ hone, hheld⟩
  · rw [hfresh]
    change _ ↔ id < ((world.service.create clock call accepted).1.finish clock _ _ _).1.ids
    rw [(frame_finish clock _ _ _ _).ids]
    rfl

-- A command in flight is finished.
theorem Traced.ended (h : Traced made calls world) {id : Uuid} {task : Task} {one : Made}
    (hmade : made id = some one) {result : CommandService × Command} {effect : Effect}
    (hframe : Frame (world.service.emit effect) result.1)
    (hresult : Attributed made calls result.1 ∧ Bears id one result.2) :
    Traced made calls ((world.leave id task).finished id result) := by
  refine ⟨hresult.1, fun other held hheld => ?_, fun other command hget => ?_, fun other => ?_⟩
  · exact h.flight other held (OrderedDict.get?_erase_eq_some.mp hheld).2
  · obtain ⟨rfl, rfl⟩ | ⟨-, hold⟩ := OrderedDict.get?_set_eq_some.mp hget
    · exact ⟨one, hmade, hresult.2⟩
    · exact h.returned other command hold
  · rw [h.fresh]
    change _ ↔ other < result.1.ids
    rw [hframe.ids]
    rfl

-- A step that leaves the service alone and takes on no command.
theorem Traced.of_kept (h : Traced made calls world) {heap : LockId → FifoMutex Uuid}
    {tasks : OrderedDict Uuid Task} {service : CommandService}
    (hservice : Attributed made calls service) (hids : service.ids = world.service.ids)
    (htasks : ∀ id task, tasks.get? id = some task → ∃ held, world.tasks.get? id = some held ∧
      task.ref = held.ref ∧ task.running = held.running ∧ task.params = held.params) :
    Traced made calls { world with service, heap, tasks } := by
  refine ⟨hservice, fun id task htask => ?_, h.returned, fun id => ?_⟩
  · obtain ⟨held, hheld, href, hrunning, hparams⟩ := htasks id task htask
    rw [href, hrunning, hparams]
    exact h.flight id held hheld
  · rw [h.fresh]
    change _ ↔ id < service.ids
    rw [hids]

def Label.call? : Label → Option SubmitCall
  | .submit call => some call
  | _ => none

def submits (labels : List Label) : List SubmitCall := labels.filterMap Label.call?

-- A command comes of the call that is made when its identifier is the next one, and only
-- when all the checks of that call go through.
def Creates (coercion : Coercion) (world : World) (label : Label) (id : Uuid) (one : Made) : Prop :=
  label = .submit one.call ∧ id = world.service.ids ∧ ∃ device,
    Admissible coercion world.service.registry one.call one.ref ⟨one.call.action, one.params⟩ device

theorem creates_update {call : SubmitCall} {accepted : Accepted} {ref : ProviderDeviceRef}
    (haccepts : Accepts coercion world.service.registry call accepted)
    (href : world.service.registry.refFor accepted.device.id = some ref) {id : Uuid} {one : Made}
    (hone : Function.update made world.service.ids (some ⟨call, accepted.params, ref⟩) id =
      some one) : made id = some one ∨ Creates coercion world (.submit call) id one := by
  rcases eq_or_ne id world.service.ids with rfl | hne
  · rw [Function.update_self] at hone
    obtain rfl := Option.some.inj hone
    exact .inr ⟨rfl, rfl, _, haccepts.admissible href⟩
  · rw [Function.update_of_ne hne] at hone
    exact .inl hone

theorem Traced.step (h : Traced made calls world) {label : Label}
    (hstep : World.step clock coercion world label = some after) :
    ∃ more, (∀ id one, more id = some one → made id = some one ∨
        Creates coercion world label id one) ∧
      Traced more (calls ++ label.call?.toList) after := by
  have hnow : Traced made (calls ++ label.call?.toList) world := h.mono (by simp)
  have hsame : ∀ id one, made id = some one → made id = some one ∨
      Creates coercion world label id one := fun _ _ => .inl
  cases step_moved hstep with
  | @refused call service _ hcheck =>
      have hchecked : Attributed made _ (check clock coercion world.service call).1 :=
        attributed_check clock hnow.service (by simp [Label.call?])
      have hids := (frame_check clock coercion world.service call).ids
      rw [hcheck] at hchecked hids
      exact ⟨made, hsame, hnow.of_kept hchecked hids fun id task htask =>
        ⟨task, htask, rfl, rfl, rfl⟩⟩
  | @unwired call accepted ref haccepts href =>
      exact ⟨_, fun id one => creates_update haccepts href, hnow.unwired ref haccepts _⟩
  | @joined call accepted ref haccepts href =>
      exact ⟨_, fun id one => creates_update haccepts href, hnow.joined haccepts⟩
  | @entered id task mutex htask =>
      obtain ⟨one, hmade, hbears, href, hparams⟩ := hnow.flight id task htask
      refine ⟨made, hsame, hnow.of_kept (attributed_emit hnow.service ?_) rfl
        fun other held hheld => kept_rephase htask hheld⟩
      exact ⟨one, hmade, href, by rw [hbears.action, hparams]⟩
  | @ended id task outcome result htask _ hended =>
      obtain ⟨one, hmade, hbears, -⟩ := hnow.flight id task htask
      have hemitted := attributed_emit hnow.service
        (show (Effect.executeEnded id outcome).Attributed made _ by simp [Effect.Attributed, hmade])
      exact ⟨made, hsame, hnow.ended hmade (frame_afterExecute clock _ hended)
        (attributed_afterExecute clock hemitted hmade hbears hended)⟩
  | @timedOut id task outcome htask =>
      obtain ⟨one, hmade, hbears, href, -⟩ := hnow.flight id task htask
      have hemitted := attributed_emit hnow.service
        (show (Effect.executeEnded id outcome).Attributed made _ by simp [Effect.Attributed, hmade])
      exact ⟨made, hsame, hnow.of_kept
        (attributed_emit (attributed_publish clock hemitted hmade hbears _) ⟨one, hmade, href⟩) rfl
        fun other held hheld => kept_rephase htask hheld⟩
  | @reconciled id task outcome htask =>
      obtain ⟨one, hmade, hbears, -⟩ := hnow.flight id task htask
      have hemitted := attributed_emit hnow.service
        (show (Effect.readBackEnded id outcome).Attributed made _ by
          simp [Effect.Attributed, hmade])
      exact ⟨made, hsame, hnow.ended hmade (frame_afterGetState clock _ _ _ _ _)
        (attributed_afterGetState clock hemitted hmade hbears _ _ _)⟩
  | abandoned | interrupted =>
      exact ⟨made, hsame, hnow.of_kept hnow.service rfl fun other held hheld => kept_erase hheld⟩
  | @ingested ref state =>
      exact ⟨made, hsame, hnow.of_kept (attributed_ingest clock hnow.service (by simp) ref state _)
        (frame_ingest clock _ _ _ _ _).ids fun id task htask => ⟨task, htask, rfl, rfl, rfl⟩⟩

-- In any run there is for each command the one call that made it, which all checks had let
-- through then, and every record, audit entry, event and call of an adapter that names a
-- command has the device, the user, the client, the action and the correlation of that call.
theorem every_record_leads_to_its_submit {registry : DeviceRegistry} {providers : List String}
    {labels : List Label}
    (hrun : Machine.run (World.step clock coercion) (initial registry providers) labels =
      some world) :
    ∃ made, Traced made (submits labels) world ∧ ∀ id one, made id = some one →
      History.Happens (fun before label => ∃ earlier,
        Machine.run (World.step clock coercion) (initial registry providers) before = some earlier ∧
        Creates coercion earlier label id one) labels := by
  induction labels using List.reverseRecOn generalizing world with
  | nil =>
      obtain rfl := Option.some.inj hrun
      exact ⟨fun _ => none, ⟨⟨by simp [initial], by simp [initial]⟩, by simp [initial],
        by simp [initial], by simp [initial]⟩, by simp⟩
  | append_singleton labels label ih =>
      obtain ⟨before, hbefore, hstep⟩ := Machine.run_concat.mp hrun
      obtain ⟨made, htraced, hmade⟩ := ih hbefore
      obtain ⟨more, hmore, htold⟩ := htraced.step hstep
      have hcalls : submits (labels ++ [label]) = submits labels ++ label.call?.toList := by
        cases hcall : label.call? <;> simp [submits, hcall]
      refine ⟨more, hcalls ▸ htold, fun id one hone => History.happens_concat.mpr ?_⟩
      exact (hmore id one hone).imp (hmade id one) fun hcreates => ⟨before, hbefore, hcreates⟩

end Runs

theorem every_record_leads_to_its_submit_lamp :
    ∃ world, Machine.run (World.step (fun _ => 0) strict) (initial (lamps 1) ["demo"])
        [.submit (switchOn 0)] = some world ∧ ∃ made, Traced made [switchOn 0] world := by
  obtain ⟨made, htraced, -⟩ := @every_record_leads_to_its_submit (fun _ => 0) strict
    ((initial (lamps 1) ["demo"]).submit (fun _ => 0) strict (switchOn 0)).1 (lamps 1) ["demo"]
    [.submit (switchOn 0)] rfl
  exact ⟨_, rfl, made, htraced⟩

end Homeflow.Commands
