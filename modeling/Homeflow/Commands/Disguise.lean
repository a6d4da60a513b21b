import Homeflow.Commands.Declared

-- The handles of the adapters under other names.
namespace OrderedDict

variable {κ ν μ : Type*} [DecidableEq κ] (f : ν → μ)

theorem mapValues_set (dict : OrderedDict κ ν) (key : κ) (value : ν) :
    (dict.set key value).mapValues f = (dict.mapValues f).set key (f value) := by
  have hkeys : (dict.mapValues f).entries.map Prod.fst = dict.entries.map Prod.fst := by
    rw [mapValues, List.map_map]
    rfl
  refine ext ?_
  by_cases hkey : key ∈ dict.entries.map Prod.fst
  · rw [set, dif_pos hkey, set, dif_pos (hkeys ▸ hkey)]
    simp only [mapValues, replace, List.map_map]
    refine List.map_congr_left fun entry _ => ?_
    simp only [Function.comp_apply]
    split <;> rfl
  · rw [set, dif_neg hkey, set, dif_neg (hkeys ▸ hkey)]
    simp only [mapValues, List.map_append, List.map_cons, List.map_nil]

theorem mapValues_erase (dict : OrderedDict κ ν) (key : κ) :
    (dict.erase key).mapValues f = (dict.mapValues f).erase key := by
  refine ext ?_
  simp only [mapValues, erase, List.filter_map]
  rfl

end OrderedDict

namespace Homeflow

variable (disguise : ProviderDeviceRef → ProviderDeviceRef)

-- The same devices under the same identifiers, with other handles.
structure DeviceRegistry.Disguised (registry other : DeviceRegistry) : Prop where
  devices : other.devices = registry.devices
  refs : ∀ id, other.refFor id = (registry.refFor id).map disguise
  ids : ∀ ref, other.idForRef (disguise ref) = registry.idForRef ref

namespace DeviceRegistry

variable {disguise} {registry other : DeviceRegistry}

theorem Disguised.get (h : registry.Disguised disguise other) (id : Uuid) :
    other.get id = registry.get id := congrArg (fun devices => devices.get? id) h.devices

theorem Disguised.listDevices (h : registry.Disguised disguise other) :
    other.listDevices = registry.listDevices := by
  rw [DeviceRegistry.listDevices, h.devices]
  rfl

theorem disguised_empty : empty.Disguised disguise empty := ⟨rfl, fun _ => rfl, fun _ => rfl⟩

-- Registration keeps the handles apart where the disguise does.
theorem Disguised.register (h : registry.Disguised disguise other)
    (hinjective : Function.Injective disguise) {deviceUuid : ProviderDeviceRef → Uuid}
    {roomUuid : String → Uuid} {otherUuid : ProviderDeviceRef → Uuid}
    (huuid : ∀ ref, otherUuid (disguise ref) = deviceUuid ref) (device : ProviderDevice)
    (state : ProviderState) :
    (registry.register deviceUuid roomUuid device state).Disguised disguise
      (other.register otherUuid roomUuid { device with ref := disguise device.ref } state) where
  devices := by simp only [DeviceRegistry.register, registered, huuid, h.devices]
  refs id := by
    have hrefs := h.refs id
    simp only [refFor, DeviceRegistry.register, huuid, OrderedDict.get?_set] at hrefs ⊢
    split
    · rfl
    · exact hrefs
  ids ref := by
    have hids := h.ids ref
    simp only [idForRef, DeviceRegistry.register, huuid, OrderedDict.get?_set,
      hinjective.eq_iff] at hids ⊢
    split
    · rfl
    · exact hids

theorem apply_of_get {current : Device} {id : Uuid} (hget : registry.get id = some current)
    (state : DeviceState) (availability : Availability) (observedAt : Time)
    (source : StateSource) :
    ∃ updated, registry.apply id state availability observedAt source =
        some (updated, merged current state availability observedAt source) ∧
      updated.devices = registry.devices.set current.id
        (merged current state availability observedAt source) ∧
      updated.refs = registry.refs ∧ updated.idByRef = registry.idByRef := by
  unfold apply
  split
  · next hnone => cases hget.symm.trans hnone
  · next found hfound =>
    obtain rfl := Option.some.inj (hget.symm.trans hfound)
    exact ⟨_, rfl, rfl, rfl, rfl⟩

end DeviceRegistry

namespace DeviceService

variable {disguise} (clock : Nat → Time)

def withRegistry (service : DeviceService) (registry : DeviceRegistry) : DeviceService :=
  { service with registry }

theorem withDerived_withRegistry (service : DeviceService) (registry : DeviceRegistry)
    (before : Device) (observed : DeviceState) :
    withDerived clock (service.withRegistry registry) before observed =
      ((withDerived clock service before observed).1.withRegistry registry,
        (withDerived clock service before observed).2) := by
  unfold withDerived
  split
  · rfl
  · split <;> rfl

theorem ingest_disguised (service : DeviceService) {other : DeviceRegistry}
    (h : service.registry.Disguised disguise other) (ref : ProviderDeviceRef)
    (state : ProviderState) (source : StateSource) (correlationId : Option String) :
    ∃ after, (ingest clock service ref state source correlationId).registry.Disguised disguise
        after ∧
      ingest clock (service.withRegistry other) (disguise ref) state source correlationId =
        (ingest clock service ref state source correlationId).withRegistry after := by
  have hids := h.ids ref
  unfold ingest
  rw [show (service.withRegistry other).registry.idForRef (disguise ref) = _ from hids]
  cases service.registry.idForRef ref with
  | none => exact ⟨other, h, rfl⟩
  | some id =>
      dsimp only
      rw [show (service.withRegistry other).registry.get id = _ from h.get id]
      cases hbefore : service.registry.get id with
      | none => exact ⟨other, h, rfl⟩
      | some before =>
          dsimp only
          rw [withDerived_withRegistry]
          generalize withDerived clock service before state.state = derived
          obtain ⟨updated, hupdated, hdevices, hrefs, hids⟩ := DeviceRegistry.apply_of_get hbefore
            derived.2 state.availability state.observedAt source
          obtain ⟨after, hafter, hotherDevices, hotherRefs, hotherIds⟩ :=
            DeviceRegistry.apply_of_get ((h.get id).trans hbefore) derived.2 state.availability
              state.observedAt source
          dsimp only
          rw [hupdated, show (service.withRegistry other).registry.apply id derived.2
            state.availability state.observedAt source = _ from hafter]
          refine ⟨after, ⟨?_, fun id => ?_, fun ref => ?_⟩, rfl⟩
          · change after.devices = updated.devices
            rw [hotherDevices, hdevices, h.devices]
          · change after.refs.get? id = (updated.refs.get? id).map disguise
            rw [hotherRefs, hrefs]
            exact h.refs id
          · change after.idByRef.get? (disguise ref) = updated.idByRef.get? ref
            rw [hotherIds, hids]
            exact h.ids ref

end DeviceService

namespace Commands

-- Only what an adapter is told has a handle in it.
def Effect.disguised : Effect → Effect
  | .executed id ref command => .executed id (disguise ref) command
  | .readBack id ref => .readBack id (disguise ref)
  | .remembered command => .remembered command
  | .recorded entry => .recorded entry
  | .published event => .published event
  | .executeEnded id outcome => .executeEnded id outcome
  | .readBackEnded id outcome => .readBackEnded id outcome

namespace CommandService

def disguised (registry : DeviceRegistry) (service : CommandService) : CommandService :=
  { service with registry, trace := service.trace.map (Effect.disguised disguise) }

variable {disguise} {clock : Nat → Time} {coercion : Coercion} {other : DeviceRegistry}
  (service : CommandService)

theorem emit_disguised (effect : Effect) :
    (service.disguised disguise other).emit (effect.disguised disguise) =
      (service.emit effect).disguised disguise other := by
  simp [emit, disguised]

theorem publish_disguised (type : EventType) (command : Command) :
    publish clock (service.disguised disguise other) type command =
      (publish clock service type command).disguised disguise other := by
  simp [publish, disguised, Effect.disguised]

theorem auditDenied_disguised (call : SubmitCall) (device : Device) (reason : String) :
    auditDenied clock (service.disguised disguise other) call device reason =
      (auditDenied clock service call device reason).disguised disguise other := by
  simp [auditDenied, disguised, Effect.disguised]

-- The checks look at the devices, and at no handle.
theorem check_disguised (h : service.registry.Disguised disguise other) (call : SubmitCall) :
    check clock coercion (service.disguised disguise other) call =
      ((check clock coercion service call).1.disguised disguise other,
        (check clock coercion service call).2) := by
  unfold check
  rw [show (service.disguised disguise other).registry.get call.deviceId = _ from
    h.get call.deviceId]
  cases service.registry.get call.deviceId with
  | none => rfl
  | some device =>
      dsimp only
      cases validate coercion call.action call.parameters with
      | error error => rfl
      | ok params =>
          dsimp only
          split
          · rw [auditDenied_disguised]
          · cases checkConstraints device params with
            | error error => rfl
            | ok =>
                dsimp only
                split
                · rw [auditDenied_disguised]
                · split
                  · rw [auditDenied_disguised]
                  · rfl

theorem create_disguised (call : SubmitCall) (accepted : Accepted) :
    create clock (service.disguised disguise other) call accepted =
      ((create clock service call accepted).1.disguised disguise other,
        (create clock service call accepted).2) := by
  simp [create, publish, emit, remember, disguised, Effect.disguised]

theorem finish_disguised (command : Command) (status : CommandStatus)
    (failureCode : Option String) :
    finish clock (service.disguised disguise other) command status failureCode =
      ((finish clock service command status failureCode).1.disguised disguise other,
        (finish clock service command status failureCode).2) := by
  unfold finish
  cases COMPLETION_EVENTS status with
  | none => simp [emit, remember, disguised, Effect.disguised]
  | some type => simp [publish, emit, remember, disguised, Effect.disguised]

theorem start_disguised (command : Command) :
    start clock (service.disguised disguise other) command =
      ((start clock service command).1.disguised disguise other,
        (start clock service command).2) := by
  simp [start, publish, remember, disguised, Effect.disguised]

theorem deviceLock_disguised (deviceId : Uuid) :
    deviceLock (service.disguised disguise other) deviceId =
      ((deviceLock service deviceId).1.disguised disguise other,
        (deviceLock service deviceId).2) := by
  unfold deviceLock
  rw [show (service.disguised disguise other).locks.get? deviceId =
    service.locks.get? deviceId from rfl]
  cases service.locks.get? deviceId <;> rfl

variable (clock) in
theorem ingest_disguised (h : service.registry.Disguised disguise other) (ref : ProviderDeviceRef)
    (state : ProviderState) (source : StateSource) (correlationId : Option String) :
    ∃ after, (service.ingest clock ref state source correlationId).registry.Disguised disguise
        after ∧
      (service.disguised disguise other).ingest clock (disguise ref) state source correlationId =
        (service.ingest clock ref state source correlationId).disguised disguise after := by
  obtain ⟨after, hafter, hingest⟩ := DeviceService.ingest_disguised clock
    { registry := service.registry, reads := service.reads } h ref state source correlationId
  have hbegun : DeviceService.ingest clock ⟨other, service.reads, []⟩ (disguise ref) state source
      correlationId = _ := hingest
  refine ⟨after, hafter, ?_⟩
  simp only [ingest, disguised, hbegun, DeviceService.withRegistry, List.map_append, List.map_map]
  rfl

-- However it went, what is left of a command is the same.
theorem afterExecute_disguised (h : service.registry.Disguised disguise other) (running : Command)
    (ref : ProviderDeviceRef) (outcome : AdapterOutcome ProviderCommandResult) :
    ∃ after, (∀ ended, service.afterExecute clock running ref outcome = some ended →
        ended.1.registry.Disguised disguise after) ∧
      (service.disguised disguise other).afterExecute clock running (disguise ref) outcome =
        (service.afterExecute clock running ref outcome).map fun ended =>
          (ended.1.disguised disguise after, ended.2) := by
  cases outcome with
  | returned result =>
      obtain ⟨after, hafter, hingested⟩ : ∃ after,
          (ingestResult clock service running ref result).registry.Disguised disguise after ∧
          ingestResult clock (service.disguised disguise other) running (disguise ref) result =
            (ingestResult clock service running ref result).disguised disguise after := by
        unfold ingestResult
        cases result.state with
        | none => exact ⟨other, h, rfl⟩
        | some state => exact ingest_disguised clock service h ref state _ _
      refine ⟨after, fun ended hended => ?_, ?_⟩
      · obtain rfl := Option.some.inj hended
        unfold settle
        split <;> rw [finish_registry] <;> exact hafter
      · simp only [afterExecute, hingested, Option.map_some, settle]
        split <;> rw [finish_disguised]
  | raised error =>
      cases error with
      | timeoutError => exact ⟨other, fun _ hnone => (by cases hnone), rfl⟩
      | providerError failureCode | other =>
          refine ⟨other, fun ended hended => ?_, ?_⟩
          · obtain rfl := Option.some.inj hended
            rw [finish_registry]
            exact h
          · simp only [afterExecute, finish_disguised, Option.map_some]
  | deadline => exact ⟨other, fun _ hnone => (by cases hnone), rfl⟩

theorem afterGetState_disguised (h : service.registry.Disguised disguise other)
    (running : Command) (ref : ProviderDeviceRef) (params : CommandParams)
    (outcome : AdapterOutcome ProviderState) :
    ∃ after, (service.afterGetState clock running ref params outcome).1.registry.Disguised
        disguise after ∧
      (service.disguised disguise other).afterGetState clock running (disguise ref) params
          outcome =
        ((service.afterGetState clock running ref params outcome).1.disguised disguise after,
          (service.afterGetState clock running ref params outcome).2) := by
  cases outcome with
  | returned observed =>
      obtain ⟨after, hafter, hingested⟩ := ingest_disguised clock service h ref observed
        .providerSnapshot (some running.correlationId)
      refine ⟨after, ?_, ?_⟩
      · simp only [afterGetState]
        split <;> rw [finish_registry] <;> exact hafter
      · simp only [afterGetState, hingested]
        split <;> rw [finish_disguised]
  | raised error | deadline =>
      refine ⟨other, ?_, ?_⟩
      · simp only [afterGetState, finish_registry]
        exact h
      · simp only [afterGetState, finish_disguised]

end CommandService

end Commands

end Homeflow
