import Homeflow.Commands.World

namespace Homeflow.Commands

-- What only a new command or the choice of a lock changes.
structure Frame (before after : CommandService) : Prop where
  locks : after.locks = before.locks
  nextLock : after.nextLock = before.nextLock
  ids : after.ids = before.ids
  providers : after.providers = before.providers
  refs : after.registry.refs = before.registry.refs
  reads : before.reads ≤ after.reads

theorem Frame.refl (service : CommandService) : Frame service service :=
  ⟨rfl, rfl, rfl, rfl, rfl, le_rfl⟩

theorem Frame.trans {first second third : CommandService} (hfirst : Frame first second)
    (hsecond : Frame second third) : Frame first third :=
  ⟨hsecond.locks.trans hfirst.locks, hsecond.nextLock.trans hfirst.nextLock,
    hsecond.ids.trans hfirst.ids, hsecond.providers.trans hfirst.providers,
    hsecond.refs.trans hfirst.refs, hfirst.reads.trans hsecond.reads⟩

-- The effects that tell how one command went.
def Effect.concerns (id : Uuid) : Effect → Bool
  | .remembered command => command.id = id
  | .executed other _ _ | .executeEnded other _ | .readBack other _ | .readBackEnded other _ =>
      other = id
  | .recorded _ | .published _ => false

def life (id : Uuid) (trace : List Effect) : List Effect := trace.filter (Effect.concerns id)

@[simp] theorem life_append (id : Uuid) (first second : List Effect) :
    life id (first ++ second) = life id first ++ life id second :=
  List.filter_append _ _

theorem life_singleton (id : Uuid) (effect : Effect) :
    life id [effect] = if effect.concerns id then [effect] else [] := by
  simp [life, List.filter_cons]

namespace CommandService

variable (clock : Nat → Time) (coercion : Coercion) (service : CommandService)

theorem frame_emit (effect : Effect) : Frame service (service.emit effect) :=
  ⟨rfl, rfl, rfl, rfl, rfl, le_rfl⟩

theorem frame_ite (condition : Prop) [Decidable condition] (effect : Effect) :
    Frame service (if condition then service.emit effect else service) := by
  split
  · exact frame_emit service effect
  · exact .refl service

theorem frame_publish (type : EventType) (command : Command) :
    Frame service (publish clock service type command) :=
  ⟨rfl, rfl, rfl, rfl, rfl, Nat.le_succ _⟩

theorem frame_auditDenied (call : SubmitCall) (device : Device) (reason : String) :
    Frame service (auditDenied clock service call device reason) :=
  ⟨rfl, rfl, rfl, rfl, rfl, Nat.le_succ _⟩

-- A check leaves the service as it is or has a denial recorded.
theorem check_denies (call : SubmitCall) :
    (check clock coercion service call).1 = service ∨
      ∃ device reason, (check clock coercion service call).1 =
        auditDenied clock service call device reason := by
  unfold check
  split
  · exact .inl rfl
  · split
    · exact .inl rfl
    · split
      · exact .inr ⟨_, _, rfl⟩
      · split
        · exact .inl rfl
        · dsimp only
          split
          · exact .inr ⟨_, _, rfl⟩
          · split
            · exact .inr ⟨_, _, rfl⟩
            · exact .inl rfl

theorem frame_check (call : SubmitCall) :
    Frame service (check clock coercion service call).1 := by
  rcases check_denies clock coercion service call with hsame | ⟨device, reason, hdenied⟩
  · rw [hsame]
    exact .refl service
  · rw [hdenied]
    exact frame_auditDenied clock service call device reason

theorem frame_finish (command : Command) (status : CommandStatus) (failureCode : Option String) :
    Frame service (finish clock service command status failureCode).1 := by
  unfold finish
  cases COMPLETION_EVENTS status with
  | none => exact ⟨rfl, rfl, rfl, rfl, rfl, Nat.le_succ _⟩
  | some type => exact ⟨rfl, rfl, rfl, rfl, rfl, Nat.le_add_right _ 2⟩

theorem frame_start (command : Command) : Frame service (start clock service command).1 :=
  ⟨rfl, rfl, rfl, rfl, rfl, Nat.le_add_right _ 2⟩

end CommandService

end Homeflow.Commands

namespace Homeflow.Commands.CommandService

variable (clock : Nat → Time) (coercion : Coercion) (service : CommandService)

theorem frame_ingest (ref : ProviderDeviceRef) (state : ProviderState) (source : StateSource)
    (correlationId : Option String) :
    Frame service (ingest clock service ref state source correlationId) :=
  ⟨rfl, rfl, rfl, rfl, DeviceService.ingest_refs _ _ _ _ _ _,
    DeviceService.ingest_reads clock { registry := service.registry, reads := service.reads }
      ref state source correlationId⟩

theorem frame_ingestResult (running : Command) (ref : ProviderDeviceRef)
    (result : ProviderCommandResult) :
    Frame service (ingestResult clock service running ref result) := by
  unfold ingestResult
  cases result.state with
  | none => exact .refl service
  | some state => exact frame_ingest _ _ _ _ _ _

theorem frame_settle (running : Command) (result : ProviderCommandResult) :
    Frame service (settle clock service running result).1 := by
  unfold settle
  cases result.outcome <;> exact frame_finish _ _ _ _ _

theorem frame_afterExecute {running : Command} {ref : ProviderDeviceRef}
    {outcome : AdapterOutcome ProviderCommandResult} {ended : CommandService × Command}
    (h : afterExecute clock service running ref outcome = some ended) :
    Frame service ended.1 := by
  cases outcome with
  | returned result =>
      obtain rfl := Option.some.inj h
      exact (frame_ingestResult clock service running ref result).trans (frame_settle _ _ _ _)
  | raised error =>
      cases error with
      | timeoutError => cases h
      | providerError failureCode | other =>
          obtain rfl := Option.some.inj h
          exact frame_finish _ _ _ _ _
  | deadline => cases h

theorem frame_afterGetState (running : Command) (ref : ProviderDeviceRef) (params : CommandParams)
    (outcome : AdapterOutcome ProviderState) :
    Frame service (afterGetState clock service running ref params outcome).1 := by
  cases outcome with
  | returned observed =>
      refine (frame_ingest clock service ref observed .providerSnapshot
        (some running.correlationId)).trans ?_
      simp only [afterGetState]
      split <;> exact frame_finish _ _ _ _ _
  | raised error | deadline => exact frame_finish _ _ _ _ _

section Life

variable (id : Uuid)

@[simp] theorem life_emit (effect : Effect) :
    life id (service.emit effect).trace =
      life id service.trace ++ if effect.concerns id then [effect] else [] := by
  rw [emit, life_append, life_singleton]

@[simp] theorem life_publish (type : EventType) (command : Command) :
    life id (publish clock service type command).trace = life id service.trace := by
  simp [publish, life_singleton, Effect.concerns]

@[simp] theorem life_auditDenied (call : SubmitCall) (device : Device) (reason : String) :
    life id (auditDenied clock service call device reason).trace = life id service.trace := by
  simp [auditDenied, life_singleton, Effect.concerns]

@[simp] theorem life_remember (command : Command) :
    life id (service.remember command).trace =
      life id service.trace ++ if command.id = id then [.remembered command] else [] := by
  simp [remember, life_singleton, Effect.concerns]

@[simp] theorem life_ingest (ref : ProviderDeviceRef) (state : ProviderState)
    (source : StateSource) (correlationId : Option String) :
    life id (ingest clock service ref state source correlationId).trace =
      life id service.trace := by
  simp [ingest, life, List.filter_map, Effect.concerns, Function.comp_def]

@[simp] theorem life_ingestResult (running : Command) (ref : ProviderDeviceRef)
    (result : ProviderCommandResult) :
    life id (ingestResult clock service running ref result).trace = life id service.trace := by
  unfold ingestResult
  cases result.state with
  | none => rfl
  | some state => exact life_ingest _ _ _ _ _ _ _

theorem life_finish (command : Command) (status : CommandStatus) (failureCode : Option String) :
    life id (finish clock service command status failureCode).1.trace =
      life id service.trace ++
        if command.id = id then [.remembered (finish clock service command status failureCode).2]
        else [] := by
  have hid : (command.withStatus status (clock service.reads) failureCode).id = command.id := by
    unfold Command.withStatus
    split <;> rfl
  unfold finish
  cases COMPLETION_EVENTS status <;> simp [Effect.concerns, hid]

theorem finish_eq (command : Command) (status : CommandStatus) (failureCode : Option String) :
    (finish clock service command status failureCode).2 =
      command.withStatus status (clock service.reads) failureCode := by
  unfold finish
  cases COMPLETION_EVENTS status <;> rfl

theorem life_start (command : Command) :
    life id (start clock service command).1.trace =
      life id service.trace ++
        if command.id = id then [.remembered (start clock service command).2] else [] := by
  simp [start, Command.withStatus]

theorem life_create (call : SubmitCall) (accepted : Accepted) :
    life id (create clock service call accepted).1.trace =
      life id service.trace ++
        if service.ids = id then [.remembered (create clock service call accepted).2] else [] := by
  simp [create, Effect.concerns]

theorem life_check (call : SubmitCall) :
    life id (check clock coercion service call).1.trace = life id service.trace := by
  rcases check_denies clock coercion service call with hsame | ⟨device, reason, hdenied⟩
  · rw [hsame]
  · rw [hdenied, life_auditDenied]

end Life

end Homeflow.Commands.CommandService
