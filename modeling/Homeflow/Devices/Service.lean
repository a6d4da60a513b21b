import Homeflow.Devices.Registry
import Homeflow.Records

namespace Homeflow

-- The device view together with the bus it publishes on. The bus and the clock are
-- shared with the other services: an operation tells what it adds to them.
structure DeviceService where
  registry : DeviceRegistry
  reads : Nat := 0
  events : List DomainEvent := []

namespace DeviceService

variable (clock : Nat → Time)

-- What the gateway knows and the adapter does not: when the pump came on.
def withDerived (service : DeviceService) (before : Device) (observed : DeviceState) :
    DeviceService × DeviceState :=
  if observed.filterPump = some true ∧ before.state.filterPump ≠ some true then
    ({ service with reads := service.reads + 1 },
      { observed with filterLastStartedAt := some (clock service.reads) })
  else
    match before.state.filterLastStartedAt, observed.filterLastStartedAt with
    | some remembered, none => (service, { observed with filterLastStartedAt := some remembered })
    | _, _ => (service, observed)

-- Python compares a field that was carried over by identity first, so only a field
-- the observation reports can differ from itself.
def sameFloat (held observed : Option PyFloat) : Bool :=
  match held, observed with
  | _, none => true
  | some first, some second => first.eq second
  | none, some _ => false

def sameState (before after observed : DeviceState) : Bool :=
  { before with currentTemperatureC := none, targetTemperatureC := none } =
      { after with currentTemperatureC := none, targetTemperatureC := none } ∧
    sameFloat before.currentTemperatureC observed.currentTemperatureC ∧
    sameFloat before.targetTemperatureC observed.targetTemperatureC

def differs : Option PyFloat → Option PyFloat → Bool
  | none, none => false
  | some first, some second => !first.eq second
  | _, _ => true

-- The types of the events that tell the two versions of a device apart.
def transitions (before after : Device) (observed : DeviceState) : List EventType :=
  (if before.availability ≠ after.availability then [.deviceAvailabilityChanged] else []) ++
  (if sameState before.state after.state observed then []
  else
    [.deviceStateChanged] ++
    (if after.kind = .pool then
      (if differs before.state.currentTemperatureC after.state.currentTemperatureC then
        [EventType.poolTemperatureChanged] else []) ++
      (if differs before.state.targetTemperatureC after.state.targetTemperatureC then
        [.poolTargetTemperatureChanged] else [])
    else []) ++
    (if after.kind ∈ [DeviceKind.washingMachine, .dishwasher] ∧
        before.state.program ≠ after.state.program then
      match after.state.program with
      | some .running => [.applianceProgramStarted]
      | some .finished => [.applianceProgramFinished]
      | _ => []
    else []))

def publishTransitions (service : DeviceService) (before after : Device)
    (observed : DeviceState) (correlationId : Option String) : DeviceService :=
  let now := clock service.reads
  { service with
    reads := service.reads + 1
    events := service.events ++ (transitions before after observed).map fun type =>
      { type, occurredAt := now, deviceId := some after.id, correlationId } }

-- An observation of a ref that leads to no device is dropped.
def ingest (service : DeviceService) (ref : ProviderDeviceRef) (providerState : ProviderState)
    (source : StateSource) (correlationId : Option String := none) : DeviceService :=
  match service.registry.idForRef ref with
  | none => service
  | some deviceId =>
      match service.registry.get deviceId with
      | none => service
      | some before =>
          let (derived, observed) := withDerived clock service before providerState.state
          match service.registry.apply deviceId observed providerState.availability
              providerState.observedAt source with
          | none => derived
          | some (registry, after) =>
              publishTransitions clock { derived with registry } before after observed
                correlationId

section Ingest

variable (service : DeviceService)

theorem withDerived_registry (before : Device) (observed : DeviceState) :
    (withDerived clock service before observed).1.registry = service.registry := by
  unfold withDerived
  split
  · rfl
  · split <;> rfl

theorem withDerived_events (before : Device) (observed : DeviceState) :
    (withDerived clock service before observed).1.events = service.events := by
  unfold withDerived
  split
  · rfl
  · split <;> rfl

theorem withDerived_reads (before : Device) (observed : DeviceState) :
    service.reads ≤ (withDerived clock service before observed).1.reads := by
  unfold withDerived
  split
  · exact Nat.le_succ _
  · split <;> exact le_rfl

theorem ingest_reads (ref : ProviderDeviceRef) (state : ProviderState) (source : StateSource)
    (correlationId : Option String) :
    service.reads ≤ (ingest clock service ref state source correlationId).reads := by
  unfold ingest
  split
  · exact le_rfl
  · split
    · exact le_rfl
    · rename_i before _
      have hreads := withDerived_reads clock service before state.state
      dsimp only
      split
      · exact hreads
      · exact hreads.trans (Nat.le_succ _)

theorem ingest_refs (ref : ProviderDeviceRef) (state : ProviderState) (source : StateSource)
    (correlationId : Option String) :
    (ingest clock service ref state source correlationId).registry.refs =
      service.registry.refs := by
  unfold ingest
  split
  · rfl
  · split
    · rfl
    · rename_i before _
      dsimp only
      split
      · rw [withDerived_registry]
      · rename_i registry after happly
        obtain ⟨_, _, _, _, hrefs, _⟩ := DeviceRegistry.apply_eq_some happly
        exact hrefs

-- Of the state of an observation only the moment the pump came on can be made up here.
theorem withDerived_heater (before : Device) (observed : DeviceState) :
    (withDerived clock service before observed).2.heater = observed.heater := by
  unfold withDerived
  split
  · rfl
  · split <;> rfl

-- An observation of a known ref is merged into its device.
theorem ingest_merged {ref : ProviderDeviceRef} {state : ProviderState} {source : StateSource}
    {correlationId : Option String} {id : Uuid} {before : Device}
    (hid : service.registry.idForRef ref = some id)
    (hget : service.registry.get id = some before) :
    (ingest clock service ref state source correlationId).registry.get id =
        some (DeviceRegistry.merged before (withDerived clock service before state.state).2
          state.availability state.observedAt source) ∧
      (ingest clock service ref state source correlationId).registry.idByRef =
        service.registry.idByRef := by
  unfold ingest
  rw [hid]
  dsimp only
  rw [hget]
  dsimp only
  split
  · rename_i hnone
    unfold DeviceRegistry.apply at hnone
    split at hnone
    · rename_i hgone
      cases hget.symm.trans hgone
    · cases hnone
  · rename_i registry after happly
    obtain ⟨current, hcurrent, rfl, hafter, -, hrefs⟩ := DeviceRegistry.apply_eq_some happly
    obtain rfl := Option.some.inj (hget.symm.trans hcurrent)
    exact ⟨(hafter id).trans (if_pos rfl), hrefs⟩

theorem ingest_unregistered {ref : ProviderDeviceRef} (state : ProviderState)
    (source : StateSource) (correlationId : Option String)
    (hid : service.registry.idForRef ref = none) :
    ingest clock service ref state source correlationId = service := by
  unfold ingest
  rw [hid]

-- Every other device is left as it was.
theorem ingest_other {ref : ProviderDeviceRef} (state : ProviderState) (source : StateSource)
    (correlationId : Option String) {id : Uuid} (hid : service.registry.idForRef ref ≠ some id) :
    (ingest clock service ref state source correlationId).registry.get id =
      service.registry.get id := by
  unfold ingest
  split
  · rfl
  · rename_i deviceId hdevice
    split
    · rfl
    · rename_i before _
      dsimp only
      split
      · rw [withDerived_registry]
      · rename_i registry after happly
        obtain ⟨_, _, _, hafter, _, _⟩ := DeviceRegistry.apply_eq_some happly
        have hne : id ≠ deviceId := fun heq => hid (heq ▸ hdevice)
        exact (hafter id).trans (if_neg hne)

-- Which device a ref leads to is settled by the registrations.
theorem ingest_idForRef (ref : ProviderDeviceRef) (state : ProviderState) (source : StateSource)
    (correlationId : Option String) :
    (ingest clock service ref state source correlationId).registry.idForRef =
      service.registry.idForRef := by
  unfold ingest
  split
  · rfl
  · split
    · rfl
    · rename_i before _
      dsimp only
      split
      · rw [withDerived_registry]
      · rename_i registry after happly
        obtain ⟨_, _, _, _, _, hrefs⟩ := DeviceRegistry.apply_eq_some happly
        exact congrArg OrderedDict.get? hrefs

-- What the observation leaves out is carried over, so only a reported float can differ.
theorem eq_mergedWith_of_sameFloat {held observed : Option PyFloat}
    (h : sameFloat held observed = true) : (observed <|> held) = held := by
  cases observed with
  | none => rfl
  | some reported =>
      cases held with
      | none => cases h
      | some carried => cases carried <;> cases reported <;> simp_all [sameFloat, PyFloat.eq]

theorem mergedWith_of_sameState {before observed : DeviceState}
    (h : sameState before (before.mergedWith observed) observed = true) :
    before.mergedWith observed = before := by
  simp only [sameState, decide_eq_true_eq] at h
  obtain ⟨hrest, hcurrent, htarget⟩ := h
  have hcarried := eq_mergedWith_of_sameFloat hcurrent
  have htargeted := eq_mergedWith_of_sameFloat htarget
  calc before.mergedWith observed
      = { { before.mergedWith observed with
            currentTemperatureC := none, targetTemperatureC := none } with
          currentTemperatureC := observed.currentTemperatureC <|> before.currentTemperatureC
          targetTemperatureC := observed.targetTemperatureC <|> before.targetTemperatureC } := rfl
    _ = { { before with currentTemperatureC := none, targetTemperatureC := none } with
          currentTemperatureC := before.currentTemperatureC
          targetTemperatureC := before.targetTemperatureC } := by
      rw [← hrest, hcarried, htargeted]
    _ = before := rfl

-- Unless an event tells of the device, its state and its availability are kept.
theorem view_of_transitions {before : Device} {observed : DeviceState}
    {availability : Availability} {observedAt : Time} {source : StateSource}
    (h : transitions before (DeviceRegistry.merged before observed availability observedAt source)
      observed = []) :
    (DeviceRegistry.merged before observed availability observedAt source).view = before.view := by
  unfold transitions at h
  obtain ⟨havailability, hstate⟩ := List.append_eq_nil_iff.mp h
  have hsame : before.availability = availability := by
    by_contra hne
    simp [DeviceRegistry.merged, hne] at havailability
  have hkept : sameState before.state (before.state.mergedWith observed) observed = true := by
    by_contra hdiffers
    simp [DeviceRegistry.merged, hdiffers] at hstate
  simp only [Device.view, DeviceRegistry.merged, mergedWith_of_sameState hkept, hsame]

-- An observation neither adds nor removes a device, and a device it changes is told of.
theorem ingest_view (ref : ProviderDeviceRef) (state : ProviderState) (source : StateSource)
    (correlationId : Option String) (id : Uuid) :
    let after := ingest clock service ref state source correlationId
    (after.registry.get id).isSome = (service.registry.get id).isSome ∧
      ((after.registry.get id).map Device.view = (service.registry.get id).map Device.view ∨
        ∃ event ∈ after.events.drop service.events.length, event.deviceId = some id) := by
  unfold ingest
  split
  · exact ⟨rfl, .inl rfl⟩
  · rename_i deviceId _
    split
    · exact ⟨rfl, .inl rfl⟩
    · rename_i before hbefore
      dsimp only
      have hregistry := withDerived_registry clock service before state.state
      have hevents := withDerived_events clock service before state.state
      split
      · rw [hregistry]
        exact ⟨rfl, .inl rfl⟩
      · rename_i registry after happly
        obtain ⟨current, hcurrent, rfl, hafter, -, -⟩ := DeviceRegistry.apply_eq_some happly
        obtain rfl := Option.some.inj (hbefore.symm.trans hcurrent)
        simp only [publishTransitions, hafter]
        by_cases hid : id = deviceId
        · subst hid
          rw [if_pos rfl, hbefore]
          refine ⟨rfl, ?_⟩
          have hkey : before.id = id := service.registry.devices_id id before hbefore
          generalize hobserved : (withDerived clock service before state.state).2 = observed
          cases htypes : transitions before
              (DeviceRegistry.merged before observed state.availability state.observedAt source)
              observed with
          | nil => exact .inl (congrArg some (view_of_transitions htypes))
          | cons type rest =>
              rw [hevents, List.drop_left]
              exact .inr ⟨_, List.mem_cons_self, congrArg some hkey⟩
        · rw [if_neg hid]
          exact ⟨rfl, .inl rfl⟩

-- What is told of an observation is told of no command, and with the correlation it came with.
theorem ingest_told {ref : ProviderDeviceRef} {state : ProviderState} {source : StateSource}
    {correlationId : Option String} {event : DomainEvent}
    (h : event ∈ (ingest clock service ref state source correlationId).events) :
    event ∈ service.events ∨ (event.commandId = none ∧ event.correlationId = correlationId) := by
  unfold ingest at h
  split at h
  · exact .inl h
  · split at h
    · exact .inl h
    · next before _ =>
      dsimp only at h
      have hevents := withDerived_events clock service before state.state
      split at h
      · exact .inl (hevents ▸ h)
      · rcases List.mem_append.mp h with hold | hnew
        · exact .inl (hevents ▸ hold)
        · obtain ⟨type, -, rfl⟩ := List.mem_map.mp hnew
          exact .inr ⟨rfl, rfl⟩

end Ingest

end DeviceService

end Homeflow
