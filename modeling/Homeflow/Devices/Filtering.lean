import Homeflow.Devices.Bootstrap
import Homeflow.Devices.Held

namespace Homeflow.DeviceService

variable (clock : Nat → Time)

-- When the filter of a device was last started, as the gateway holds it.
def lastFiltered (service : DeviceService) (id : Uuid) : Option Time :=
  (service.registry.get id).bind fun device => device.state.filterLastStartedAt

-- What the pump was last reported to do, the registration included.
def lastPump (registered : Device) (own : List Ingestion) : Option Bool :=
  History.lastSome (fun call => call.state.state.filterPump) own <|> registered.state.filterPump

-- After these observations, one that changes the moment is that of a pump that was reported
-- off and now is reported on.
def StartWitnessed (service : DeviceService) (id : Uuid) (registered : Device)
    (before : List Ingestion) (call : Ingestion) : Prop :=
  let current := service.ingestEach clock before
  (current.ingestCall clock call).lastFiltered id ≠ current.lastFiltered id →
    service.registry.idForRef call.ref = some id ∧ call.state.state.filterPump = some true ∧
      lastPump registered (service.ownCalls id before) = some false

-- A pump reported on was heard of before, unless its moment is the one at which it is heard.
def PumpHeardOf (service : DeviceService) (id : Uuid) (registered : Device)
    (before : List Ingestion) (call : Ingestion) : Prop :=
  let current := service.ingestEach clock before
  service.registry.idForRef call.ref = some id → call.state.state.filterPump = some true →
    lastPump registered (service.ownCalls id before) ≠ none ∨
      current.lastFiltered id = some (clock current.reads)

section Starts

variable {clock} {service : DeviceService} {id : Uuid} {registered before : Device}
  {calls : List Ingestion} {call : Ingestion}

-- What an adapter that does not report the moment makes of it.
theorem observed_filterLastStartedAt
    (hnever : call.state.state.filterLastStartedAt = none) :
    (service.observed clock before call).state.filterLastStartedAt =
      if call.state.state.filterPump = some true ∧ before.state.filterPump ≠ some true then
        some (clock service.reads) else before.state.filterLastStartedAt := by
  unfold observed withDerived
  split
  · rfl
  · cases hheld : before.state.filterLastStartedAt with
    | none => simp [DeviceRegistry.merged, DeviceState.mergedWith, hnever, hheld]
    | some remembered => simp [DeviceRegistry.merged, DeviceState.mergedWith, hnever]

theorem lastFiltered_ingestCall_own (hget : service.registry.get id = some before)
    (hown : service.registry.idForRef call.ref = some id)
    (hnever : call.state.state.filterLastStartedAt = none) :
    (service.ingestCall clock call).lastFiltered id =
      if call.state.state.filterPump = some true ∧ before.state.filterPump ≠ some true then
        some (clock service.reads) else service.lastFiltered id := by
  rw [lastFiltered, ingestCall_own clock hown hget, Option.bind_some,
    observed_filterLastStartedAt hnever, lastFiltered, hget, Option.bind_some]

theorem lastFiltered_ingestCall_other (hother : service.registry.idForRef call.ref ≠ some id) :
    (service.ingestCall clock call).lastFiltered id = service.lastFiltered id := by
  rw [lastFiltered, ingestCall, ingest_other clock _ _ _ _ hother, lastFiltered]

-- The held pump tells a pump that was never reported from one that was reported off, and the
-- test for the start does not.
theorem startWitnessed_iff (hget : service.registry.get id = some registered)
    (hnever : service.registry.idForRef call.ref = some id →
      call.state.state.filterLastStartedAt = none) :
    StartWitnessed clock service id registered calls call ↔
      PumpHeardOf clock service id registered calls call := by
  obtain ⟨held, hheld⟩ := ingestEach_get clock hget calls
  have hpump : held.state.filterPump = lastPump registered (service.ownCalls id calls) :=
    ingestEach_field clock .filterPump hget hheld
  unfold StartWitnessed PumpHeardOf
  dsimp only
  by_cases hown : service.registry.idForRef call.ref = some id
  · have hcurrent : (service.ingestEach clock calls).registry.idForRef call.ref = some id := by
      rwa [ingestEach_idForRef]
    rw [lastFiltered_ingestCall_own hheld hcurrent (hnever hown), hpump]
    by_cases hon : call.state.state.filterPump = some true
    · cases hlast : lastPump registered (service.ownCalls id calls) with
      | none => simp [hown, hon, eq_comm]
      | some running => cases running <;> simp [hown, hon]
    · simp [hon]
  · have hcurrent : (service.ingestEach clock calls).registry.idForRef call.ref ≠ some id := by
      rwa [ingestEach_idForRef]
    rw [lastFiltered_ingestCall_other hcurrent]
    simp [hown]

end Starts

-- Every change of the moment is a start that was seen, in exactly the histories in which no
-- pump that was never heard of is first reported running.
theorem starts_witnessed_iff (service : DeviceService) (id : Uuid) (registered : Device)
    (hget : service.registry.get id = some registered) (calls : List Ingestion)
    (hnever : ∀ call ∈ service.ownCalls id calls, call.state.state.filterLastStartedAt = none) :
    History.Always (StartWitnessed clock service id registered) calls ↔
      History.Always (PumpHeardOf clock service id registered) calls := by
  refine forall_congr' fun before => forall_congr' fun call => forall_congr' fun after =>
    forall_congr' fun hsplit => startWitnessed_iff hget fun hown => hnever call ?_
  simp [ownCalls, hsplit, hown]

def spa : ProviderDevice where
  ref := ⟨"bestway", "airjet"⟩
  suggestedName := "Spa"
  kind := .pool
  capabilities := [.filter]

def spaSnapshot (pump : Option Bool) : ProviderState where
  state := { filterPump := pump }
  availability := if pump.isSome then .online else .offline
  observedAt := 0

-- The gateway after its start, with what the controller said of the pump.
def startedWith (pump : Option Bool) : DeviceService :=
  discovered (fun _ => 60) (fun _ => 0) (fun _ => 0) { registry := .empty } spa (spaSnapshot pump)

def registeredWith (pump : Option Bool) : Device :=
  DeviceRegistry.registered (fun _ => 0) (fun _ => 0) spa (spaSnapshot pump)

def pumpReport (pump : Option Bool) : Ingestion where
  ref := spa.ref
  state := spaSnapshot pump
  source := .providerEvent

theorem startedWith_get (pump : Option Bool) :
    (startedWith pump).registry.get 0 = some (registeredWith pump) :=
  OrderedDict.get?_set_self _ _ _

theorem startedWith_idForRef (pump : Option Bool) :
    (startedWith pump).registry.idForRef spa.ref = some 0 :=
  OrderedDict.get?_set_self _ _ _

theorem startedWith_own (pump : Option Bool) (reports : List (Option Bool)) :
    ownCalls (startedWith pump) 0 (reports.map pumpReport) = reports.map pumpReport := by
  refine List.filter_eq_self.mpr fun call hcall => ?_
  obtain ⟨report, -, rfl⟩ := List.mem_map.mp hcall
  exact decide_eq_true (startedWith_idForRef pump)

-- The pump is off at the start, and goes on and off while the controller answers.
theorem starts_witnessed_iff_spa :
    History.Always (StartWitnessed (fun _ => 60) (startedWith (some false)) 0
      (registeredWith (some false))) ([some true, none, some false].map pumpReport) := by
  have hnever : ∀ call ∈ ownCalls (startedWith (some false)) 0
      ([some true, none, some false].map pumpReport),
      call.state.state.filterLastStartedAt = none := by
    intro call hcall
    rw [startedWith_own] at hcall
    obtain ⟨report, -, rfl⟩ := List.mem_map.mp hcall
    rfl
  refine (starts_witnessed_iff (fun _ => 60) (startedWith (some false)) 0
    (registeredWith (some false)) (startedWith_get _) _ hnever).mpr ?_
  intro before call after hsplit hown hon
  refine .inl fun hnone => ?_
  simp [lastPump, registeredWith, DeviceRegistry.registered, spaSnapshot] at hnone

-- The controller cannot be reached at the start, and is found with its pump running.
theorem running_pump_invented :
    (startedWith none).registry.get 0 = some (registeredWith none) ∧
      (∀ call ∈ ownCalls (startedWith none) 0 [pumpReport (some true)],
        call.state.state.filterLastStartedAt = none) ∧
      ¬History.Always (StartWitnessed (fun _ => 60) (startedWith none) 0 (registeredWith none))
        [pumpReport (some true)] := by
  refine ⟨startedWith_get none, ?_, fun halways => ?_⟩
  · rintro call hcall
    rw [List.mem_singleton.mp (List.mem_of_mem_filter hcall)]
    rfl
  · have hstart := (startWitnessed_iff (startedWith_get none) fun _ => rfl).mp
      (halways [] (pumpReport (some true)) [] rfl)
    rcases hstart (startedWith_idForRef none) rfl with hheard | hmoment
    · exact hheard rfl
    · cases hmoment

end Homeflow.DeviceService
