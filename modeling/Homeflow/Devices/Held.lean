import Homeflow.Devices.Service
import Homeflow.Lib.History

namespace Homeflow

-- One call of ingest: an observation of a ref, and how the gateway came by it.
structure Ingestion where
  ref : ProviderDeviceRef
  state : ProviderState
  source : StateSource
  correlationId : Option String := none

namespace Ingestion

def observedOnline (call : Ingestion) : Option Time :=
  if call.state.availability = .online then some call.state.observedAt else none

end Ingestion

-- The fields of a state that are held as they were reported. When the filter was last
-- started is the one that the gateway makes up.
inductive ReportedField : (α : Type) → (DeviceState → Option α) → Prop where
  | power : ReportedField _ DeviceState.power
  | brightness : ReportedField _ DeviceState.brightness
  | currentTemperatureC : ReportedField _ DeviceState.currentTemperatureC
  | targetTemperatureC : ReportedField _ DeviceState.targetTemperatureC
  | heater : ReportedField _ DeviceState.heater
  | filterPump : ReportedField _ DeviceState.filterPump
  | bubbles : ReportedField _ DeviceState.bubbles
  | controlPanelLock : ReportedField _ DeviceState.controlPanelLock
  | lockState : ReportedField _ DeviceState.lockState
  | volume : ReportedField _ DeviceState.volume
  | playback : ReportedField _ DeviceState.playback
  | program : ReportedField _ DeviceState.program
  | programName : ReportedField _ DeviceState.programName
  | remainingSeconds : ReportedField _ DeviceState.remainingSeconds

section Fields

variable {α : Type} {field : DeviceState → Option α}

theorem ReportedField.merged (h : ReportedField α field) (state other : DeviceState) :
    field (state.mergedWith other) = (field other <|> field state) := by
  cases h <;> rfl

theorem ReportedField.derived (h : ReportedField α field) (clock : Nat → Time)
    (service : DeviceService) (before : Device) (observed : DeviceState) :
    field (service.withDerived clock before observed).2 = field observed := by
  unfold DeviceService.withDerived
  split
  · cases h <;> rfl
  · split
    · cases h <;> rfl
    · rfl

end Fields

-- A device that was registered as it is here, after these observations of it.
structure Folded (registered : Device) (own : List Ingestion) (held : Device) : Prop where
  reported : ∀ {α : Type} (field : DeviceState → Option α), ReportedField α field →
    field held.state =
      (History.lastSome (fun call => field call.state.state) own <|> field registered.state)
  availability : held.availability =
    (own.getLast?.map fun call => call.state.availability).getD registered.availability
  stateSource : held.stateSource = (own.getLast?.map Ingestion.source).getD registered.stateSource
  stateObservedAt : held.stateObservedAt =
    (History.lastSome Ingestion.observedOnline own).getD registered.stateObservedAt
  lastSeenAt : held.lastSeenAt =
    (History.lastSome Ingestion.observedOnline own).getD registered.lastSeenAt
  -- Everything else is as it was registered.
  identity : held = { registered with
    state := held.state
    availability := held.availability
    stateObservedAt := held.stateObservedAt
    lastSeenAt := held.lastSeenAt
    stateSource := held.stateSource }

namespace DeviceService

variable (clock : Nat → Time)

def ingestCall (service : DeviceService) (call : Ingestion) : DeviceService :=
  service.ingest clock call.ref call.state call.source call.correlationId

def ingestEach (service : DeviceService) (calls : List Ingestion) : DeviceService :=
  calls.foldl (ingestCall clock) service

-- The device after one of its own observations.
def observed (service : DeviceService) (before : Device) (call : Ingestion) : Device :=
  DeviceRegistry.merged before (service.withDerived clock before call.state.state).2
    call.state.availability call.state.observedAt call.source

-- The observations among them that are of one device.
def ownCalls (service : DeviceService) (id : Uuid) (calls : List Ingestion) : List Ingestion :=
  calls.filter fun call => service.registry.idForRef call.ref = some id

section Runs

variable {service : DeviceService} {id : Uuid} {calls : List Ingestion} {call : Ingestion}

theorem ingestEach_concat : service.ingestEach clock (calls ++ [call]) =
    (service.ingestEach clock calls).ingestCall clock call :=
  List.foldl_concat _ _ _ _

theorem ingestEach_idForRef :
    (service.ingestEach clock calls).registry.idForRef = service.registry.idForRef := by
  induction calls using List.reverseRecOn with
  | nil => rfl
  | append_singleton calls call ih =>
      rw [ingestEach_concat]
      exact (ingest_idForRef clock _ _ _ _ _).trans ih

theorem ownCalls_concat_own (hown : service.registry.idForRef call.ref = some id) :
    service.ownCalls id (calls ++ [call]) = service.ownCalls id calls ++ [call] := by
  simp [ownCalls, List.filter_append, hown]

theorem ownCalls_concat_other (hother : service.registry.idForRef call.ref ≠ some id) :
    service.ownCalls id (calls ++ [call]) = service.ownCalls id calls := by
  simp [ownCalls, List.filter_append, hother]

theorem ingestCall_own {before : Device} (hown : service.registry.idForRef call.ref = some id)
    (hget : service.registry.get id = some before) :
    (service.ingestCall clock call).registry.get id =
      some (service.observed clock before call) :=
  (ingest_merged clock service hown hget).1

theorem ingestEach_get {registered : Device} (hget : service.registry.get id = some registered)
    (calls : List Ingestion) :
    ∃ held, (service.ingestEach clock calls).registry.get id = some held := by
  induction calls using List.reverseRecOn with
  | nil => exact ⟨registered, hget⟩
  | append_singleton calls call ih =>
      obtain ⟨before, hbefore⟩ := ih
      rw [ingestEach_concat]
      by_cases hown : (service.ingestEach clock calls).registry.idForRef call.ref = some id
      · exact ⟨_, ingestCall_own clock hown hbefore⟩
      · exact ⟨before, (ingest_other clock _ _ _ _ hown).trans hbefore⟩

-- A part of a device that each of its observations settles or leaves is what the last of
-- them to settle it said.
theorem ingestEach_part {registered held : Device} {α : Type} (part : Device → α)
    (read : Ingestion → Option α)
    (hpart : ∀ (current : DeviceService) (before : Device) (call : Ingestion),
      part (current.observed clock before call) = (read call).getD (part before))
    (hget : service.registry.get id = some registered)
    (hheld : (service.ingestEach clock calls).registry.get id = some held) :
    part held = (History.lastSome read (service.ownCalls id calls)).getD (part registered) := by
  induction calls using List.reverseRecOn generalizing held with
  | nil =>
      obtain rfl := Option.some.inj (hget.symm.trans hheld)
      rfl
  | append_singleton calls call ih =>
      obtain ⟨before, hbefore⟩ := ingestEach_get clock hget calls
      rw [ingestEach_concat] at hheld
      by_cases hown : service.registry.idForRef call.ref = some id
      · have hcurrent : (service.ingestEach clock calls).registry.idForRef call.ref = some id := by
          rw [ingestEach_idForRef, hown]
        obtain rfl := Option.some.inj ((ingestCall_own clock hcurrent hbefore).symm.trans hheld)
        rw [hpart, ih hbefore, ownCalls_concat_own hown, History.lastSome_concat]
        cases read call <;> rfl
      · have hcurrent : (service.ingestEach clock calls).registry.idForRef call.ref ≠ some id := by
          rwa [ingestEach_idForRef]
        rw [ownCalls_concat_other hown]
        exact ih ((ingest_other clock _ _ _ _ hcurrent).symm.trans hheld)

theorem ingestEach_field {registered held : Device} {α : Type} {field : DeviceState → Option α}
    (hfield : ReportedField α field) (hget : service.registry.get id = some registered)
    (hheld : (service.ingestEach clock calls).registry.get id = some held) :
    field held.state = (History.lastSome (fun call => field call.state.state)
      (service.ownCalls id calls) <|> field registered.state) := by
  have hpart := ingestEach_part clock (fun device => field device.state)
    (fun call => (field call.state.state).map some)
    (fun current before call => by
      rw [observed, DeviceRegistry.merged, hfield.merged, hfield.derived]
      cases field call.state.state <;> rfl) hget hheld
  rw [hpart, History.lastSome_map]
  cases History.lastSome (fun call => field call.state.state) (service.ownCalls id calls) <;> rfl

-- The parts of a device that no observation is about, with the others blanked out.
def lasting (device : Device) : Device := { device with
  state := {}
  availability := .unknown
  stateObservedAt := 0
  lastSeenAt := 0
  stateSource := .providerSnapshot }

theorem observedOnline_getD (before : Time) (call : Ingestion) :
    (if call.state.availability = .online then call.state.observedAt else before) =
      call.observedOnline.getD before := by
  unfold Ingestion.observedOnline
  split <;> rfl

theorem ingestEach_folded {registered held : Device}
    (hget : service.registry.get id = some registered)
    (hheld : (service.ingestEach clock calls).registry.get id = some held) :
    Folded registered (service.ownCalls id calls) held := by
  have hlasting := ingestEach_part clock lasting (fun _ => none) (fun _ _ _ => rfl) hget hheld
  rw [(History.lastSome_eq_none_iff _).mpr fun _ _ => rfl, Option.getD_none] at hlasting
  constructor
  case reported =>
    intro α field hfield
    exact ingestEach_field clock hfield hget hheld
  case availability =>
    rw [← History.lastSome_some]
    exact ingestEach_part clock Device.availability _ (fun _ _ _ => rfl) hget hheld
  case stateSource =>
    rw [← History.lastSome_some]
    exact ingestEach_part clock Device.stateSource _ (fun _ _ _ => rfl) hget hheld
  case stateObservedAt =>
    refine ingestEach_part clock Device.stateObservedAt _ (fun _ before call => ?_) hget hheld
    simpa [observed, DeviceRegistry.merged] using observedOnline_getD before.stateObservedAt call
  case lastSeenAt =>
    refine ingestEach_part clock Device.lastSeenAt _ (fun _ before call => ?_) hget hheld
    simpa [observed, DeviceRegistry.merged] using observedOnline_getD before.lastSeenAt call
  case identity =>
    calc held = { lasting held with
            state := held.state
            availability := held.availability
            stateObservedAt := held.stateObservedAt
            lastSeenAt := held.lastSeenAt
            stateSource := held.stateSource } := rfl
      _ = { lasting registered with
            state := held.state
            availability := held.availability
            stateObservedAt := held.stateObservedAt
            lastSeenAt := held.lastSeenAt
            stateSource := held.stateSource } := by rw [hlasting]

end Runs

-- Whatever was registered, each device is the fold of its own observations, and what comes
-- of a ref that was not registered changes nothing and tells nobody.
theorem held_is_fold (service : DeviceService) (calls : List Ingestion) :
    (∀ id registered, service.registry.get id = some registered →
      ∃ held, (service.ingestEach clock calls).registry.get id = some held ∧
        Folded registered (service.ownCalls id calls) held) ∧
    ∀ call, service.registry.idForRef call.ref = none →
      (service.ingestEach clock calls).ingestCall clock call =
        service.ingestEach clock calls := by
  constructor
  · intro id registered hget
    obtain ⟨held, hheld⟩ := ingestEach_get clock hget calls
    exact ⟨held, hheld, ingestEach_folded clock hget hheld⟩
  · intro call hunregistered
    refine ingest_unregistered clock _ _ _ _ ?_
    rwa [ingestEach_idForRef]

end DeviceService

end Homeflow
