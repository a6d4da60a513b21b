import Homeflow.Commands.Declared
import Homeflow.Commands.Serial
import Homeflow.Demo.Desired
import Homeflow.Demo.Household
import Homeflow.Devices.Identity

-- What the gateway holds of the household is what the household is.
namespace Homeflow

theorem DeviceState.eq_of_reported {state other : DeviceState}
    (hfields : ∀ {α : Type} (field : DeviceState → Option α), ReportedField α field →
      field state = field other)
    (hmade : state.filterLastStartedAt = other.filterLastStartedAt) : state = other := by
  have hpower := hfields _ .power
  have hbrightness := hfields _ .brightness
  have hcurrent := hfields _ .currentTemperatureC
  have htarget := hfields _ .targetTemperatureC
  have hheater := hfields _ .heater
  have hpump := hfields _ .filterPump
  have hbubbles := hfields _ .bubbles
  have hpanel := hfields _ .controlPanelLock
  have hlock := hfields _ .lockState
  have hvolume := hfields _ .volume
  have hplayback := hfields _ .playback
  have hprogram := hfields _ .program
  have hname := hfields _ .programName
  have hremaining := hfields _ .remainingSeconds
  cases state
  cases other
  simp_all only

namespace Demo

open Commands (CommandService)

-- The gateway adds the moment at which the filter was started, the household never does.
def reported (state : DeviceState) : DeviceState := { state with filterLastStartedAt := none }

theorem reported_field {α : Type} {field : DeviceState → Option α} (h : ReportedField α field)
    (state : DeviceState) : field (reported state) = field state := by
  cases h <;> rfl

-- A device goes on to report whatever it did.
def Overlay (before after : DeviceState) : Prop :=
  ∃ changes : DeviceState, changes.filterLastStartedAt = none ∧ after = before.mergedWith changes

theorem overlay_refl (state : DeviceState) : Overlay state state := ⟨{}, rfl, rfl⟩

theorem apply_overlay (state : DeviceState) (command : ProviderCommand) :
    Overlay state (apply state command) := by
  obtain ⟨action, params⟩ := command
  cases action <;> cases params <;> try exact overlay_refl state
  case setPower.onOff on => exact ⟨{ power := some on }, rfl, rfl⟩
  case setBrightness.brightness value =>
      exact ⟨{ brightness := some value, power := some true }, rfl, rfl⟩
  case setVolume.volume value => exact ⟨{ volume := some value }, rfl, rfl⟩
  case setPlayback.playback command =>
      exact ⟨{ playback := some (if command = .play then .playing else .paused) }, rfl, rfl⟩
  case setTargetTemperature.targetTemperature celsius =>
      exact ⟨{ targetTemperatureC := some (.finite celsius.val) }, rfl, rfl⟩
  case setHeater.onOff on =>
      cases on
      · exact ⟨{ heater := some false }, rfl, rfl⟩
      · exact ⟨{ heater := some true, filterPump := some true }, rfl, rfl⟩
  case setFilter.onOff on =>
      cases on
      · exact ⟨{ filterPump := some false, heater := some false }, rfl, rfl⟩
      · exact ⟨{ filterPump := some true }, rfl, rfl⟩
  case setBubbles.onOff on => exact ⟨{ bubbles := some on }, rfl, rfl⟩
  case setControlPanelLock.onOff on => exact ⟨{ controlPanelLock := some on }, rfl, rfl⟩
  case setLockState.lockState desired => exact ⟨{ lockState := some desired.val }, rfl, rfl⟩

theorem advancePool_overlay (state : DeviceState) (simulatedSeconds : ℚ) :
    Overlay state (advancePool state simulatedSeconds) := by
  unfold advancePool
  split
  · exact overlay_refl state
  · split
    · exact overlay_refl state
    · next moved _ =>
      split
      · exact overlay_refl state
      · exact ⟨{ currentTemperatureC := some moved.roundHundredths }, rfl, rfl⟩

theorem advanceAppliance_overlay (state : DeviceState) (simulatedSeconds : ℚ) :
    Overlay state (advanceAppliance state simulatedSeconds) := by
  unfold advanceAppliance
  split
  · dsimp only
    split
    · exact overlay_refl state
    · split
      · exact ⟨{ remainingSeconds := some 0, program := some .finished }, rfl, rfl⟩
      · exact ⟨{ remainingSeconds := some _ }, rfl, rfl⟩
  · exact overlay_refl state

theorem ticked_overlay (simulatedSeconds : ℚ) (device : DemoDevice) :
    Overlay device.state (device.ticked simulatedSeconds).state := by
  unfold DemoDevice.ticked
  split
  · exact overlay_refl _
  · unfold advance
    dsimp only
    split
    · exact advancePool_overlay _ _
    · exact advanceAppliance_overlay _ _
    · exact advanceAppliance_overlay _ _
    · exact overlay_refl _

-- The room that a hint leads to.
def roomOf (roomUuid : String → Uuid) : Option String → Option Uuid
  | some roomName => if roomName = "" then none else some (roomUuid roomName)
  | none => none

-- The device in the registry is the one in the household.
structure Reflects (roomUuid : String → Uuid) (device : DemoDevice) (held : Device) : Prop where
  state : reported held.state = device.state
  availability : held.availability = device.availability
  displayName : held.displayName = device.definition.suggestedName
  kind : held.kind = device.definition.kind
  capabilities : held.capabilities = device.definition.capabilities
  constraints : held.constraints = device.definition.constraints
  roomName : held.roomName = device.definition.roomHint
  roomId : held.roomId = roomOf roomUuid device.definition.roomHint

variable {roomUuid : String → Uuid}

section Reflects

variable {device : DemoDevice} {held : Device}

theorem Reflects.unmade (h : Reflects roomUuid device held) :
    device.state.filterLastStartedAt = none := by
  rw [← h.state]
  rfl

-- An observation of the device as it has become takes the held one along.
theorem Reflects.observed (h : Reflects roomUuid device held) {state : DeviceState}
    (hstate : Overlay device.state state) (clock : Nat → Time) (service : DeviceService)
    (observedAt : Time) (source : StateSource) :
    Reflects roomUuid { device with state := state }
      (DeviceRegistry.merged held (service.withDerived clock held state).2 device.availability
        observedAt source) := by
  obtain ⟨changes, hmade, rfl⟩ := hstate
  refine ⟨DeviceState.eq_of_reported (fun {_} field hfield => ?_) ?_, rfl, h.displayName, h.kind,
    h.capabilities, h.constraints, h.roomName, h.roomId⟩
  · have hheld : field held.state = field device.state := by
      rw [← h.state, reported_field hfield]
    simp only [DeviceRegistry.merged, reported_field hfield, hfield.merged, hfield.derived, hheld]
    cases field changes <;> cases field device.state <;> rfl
  · change none = (changes.filterLastStartedAt <|> device.state.filterLastStartedAt)
    rw [hmade, h.unmade]
    rfl

end Reflects

variable {clock : Nat → Time} {coercion : Coercion} {deviceUuid : ProviderDeviceRef → Uuid}

-- No two demo devices share an identifier.
def Separates (deviceUuid : ProviderDeviceRef → Uuid) : Prop :=
  ∀ first second : ProviderDeviceRef, first.provider = PROVIDER_NAME →
    second.provider = PROVIDER_NAME → deviceUuid first = deviceUuid second → first = second

-- The registry holds the device under the identifier of its ref.
structure Known (deviceUuid : ProviderDeviceRef → Uuid) (roomUuid : String → Uuid)
    (registry : DeviceRegistry) (device : DemoDevice) : Prop where
  provider : device.ref.provider = PROVIDER_NAME
  id : registry.idForRef device.ref = some (deviceUuid device.ref)
  held : ∃ held, registry.get (deviceUuid device.ref) = some held ∧ Reflects roomUuid device held

section Ingest

variable {service : CommandService} {device : DemoDevice}

theorem known_ingest (h : Known deviceUuid roomUuid service.registry device) {state : DeviceState}
    (hstate : Overlay device.state state) (now : Time) (source : StateSource)
    (correlationId : Option String) :
    Known deviceUuid roomUuid (service.ingest clock device.ref
      (snapshot { device with state := state } now) source correlationId).registry
        { device with state := state } := by
  obtain ⟨hprovider, hid, held, hget, hreflects⟩ := h
  let devices : DeviceService := { registry := service.registry, reads := service.reads }
  have hmerged := @DeviceService.ingest_merged clock devices device.ref
    (snapshot { device with state := state } now) source correlationId _ held hid hget
  refine ⟨hprovider, ?_, _, hmerged.1, hreflects.observed hstate clock devices now source⟩
  exact (congrArg (fun refs => OrderedDict.get? refs device.ref) hmerged.2).trans hid

-- What is observed of one device tells nothing of another.
theorem known_ingest_other (hseparates : Separates deviceUuid) {other : DemoDevice}
    (h : Known deviceUuid roomUuid service.registry device)
    (hother : Known deviceUuid roomUuid service.registry other) (hne : other.ref ≠ device.ref)
    (state : ProviderState) (source : StateSource)
    (correlationId : Option String) :
    Known deviceUuid roomUuid (service.ingest clock device.ref state source correlationId).registry
      other := by
  obtain ⟨hprovider, hid, held, hget, hreflects⟩ := hother
  let devices : DeviceService := { registry := service.registry, reads := service.reads }
  have hids := DeviceService.ingest_idForRef clock devices device.ref state source correlationId
  have hframe := @DeviceService.ingest_other clock devices device.ref state source correlationId
    (deviceUuid other.ref) fun hsame => hne
      (hseparates _ _ hprovider h.provider (Option.some.inj (hsame.symm.trans h.id)))
  exact ⟨hprovider, (congrFun hids other.ref).trans hid, held, hframe.trans hget, hreflects⟩

theorem ingest_isSome (ref : ProviderDeviceRef) (state : ProviderState) (source : StateSource)
    (correlationId : Option String) (id : Uuid) :
    ((service.ingest clock ref state source correlationId).registry.get id).isSome =
      (service.registry.get id).isSome :=
  (DeviceService.ingest_view clock { registry := service.registry, reads := service.reads } ref
    state source correlationId id).1

end Ingest

section Tick

-- The events of a tick, as far as these devices give rise to them.
def tickEvents (simulatedSeconds : ℚ) (now : DemoDevice → Time) (devices : List DemoDevice) :
    List ProviderEvent :=
  devices.filterMap fun before =>
    let device := before.ticked simulatedSeconds
    if device.state = before.state then none else some ⟨device.ref, snapshot device (now device)⟩

variable {service : CommandService}

theorem ticked_definition (simulatedSeconds : ℚ) (device : DemoDevice) :
    (device.ticked simulatedSeconds).definition = device.definition ∧
      (device.ticked simulatedSeconds).availability = device.availability := by
  unfold DemoDevice.ticked
  split <;> exact ⟨rfl, rfl⟩

theorem ticked_eq (simulatedSeconds : ℚ) (device : DemoDevice) :
    device.ticked simulatedSeconds =
      { device with state := (device.ticked simulatedSeconds).state } := by
  unfold DemoDevice.ticked
  split <;> rfl

theorem ticked_ref (simulatedSeconds : ℚ) (device : DemoDevice) :
    (device.ticked simulatedSeconds).ref = device.ref :=
  congrArg ProviderDevice.ref (ticked_definition simulatedSeconds device).1

variable (clock) (simulatedSeconds : ℚ) (now : DemoDevice → Time)

-- The event of one device, if it has one, leaves it known as it has become and all others
-- as they are.
theorem known_event (hseparates : Separates deviceUuid) {device : DemoDevice}
    (h : Known deviceUuid roomUuid service.registry device) :
    Known deviceUuid roomUuid (World.ingested clock service
        (tickEvents simulatedSeconds now [device])).registry (device.ticked simulatedSeconds) ∧
      ∀ other, Known deviceUuid roomUuid service.registry other → other.ref ≠ device.ref →
        Known deviceUuid roomUuid (World.ingested clock service
          (tickEvents simulatedSeconds now [device])).registry other := by
  have hstate := ticked_overlay simulatedSeconds device
  have hticked := ticked_eq simulatedSeconds device
  generalize (device.ticked simulatedSeconds).state = state at hstate hticked
  simp only [tickEvents, List.filterMap_cons, List.filterMap_nil, hticked]
  by_cases hsame : state = device.state
  · subst hsame
    rw [if_pos rfl]
    exact ⟨h, fun other hother _ => hother⟩
  · rw [if_neg hsame]
    exact ⟨known_ingest h hstate _ _ _,
      fun other hother hne => known_ingest_other hseparates h hother hne _ _ _⟩

theorem ingested_cons (device : DemoDevice) (devices : List DemoDevice) :
    World.ingested clock service (tickEvents simulatedSeconds now (device :: devices)) =
      World.ingested clock
        (World.ingested clock service (tickEvents simulatedSeconds now [device]))
        (tickEvents simulatedSeconds now devices) := by
  have hsplit : tickEvents simulatedSeconds now (device :: devices) =
      tickEvents simulatedSeconds now [device] ++ tickEvents simulatedSeconds now devices :=
    @List.filterMap_append _ _ [device] devices _
  rw [hsplit, World.ingested, List.foldl_append]
  rfl

theorem known_events (hseparates : Separates deviceUuid) {devices : List DemoDevice}
    (hrefs : (devices.map DemoDevice.ref).Nodup)
    (hknown : ∀ device ∈ devices, Known deviceUuid roomUuid service.registry device) :
    (∀ device ∈ devices, Known deviceUuid roomUuid (World.ingested clock service
        (tickEvents simulatedSeconds now devices)).registry (device.ticked simulatedSeconds)) ∧
      ∀ other, Known deviceUuid roomUuid service.registry other →
        other.ref ∉ devices.map DemoDevice.ref →
        Known deviceUuid roomUuid (World.ingested clock service
          (tickEvents simulatedSeconds now devices)).registry other := by
  induction devices generalizing service with
  | nil => exact ⟨by simp, fun other hother _ => hother⟩
  | cons device rest ih =>
      obtain ⟨hfresh, hrest⟩ := List.nodup_cons.mp hrefs
      obtain ⟨hself, hothers⟩ := known_event clock simulatedSeconds now hseparates
        (hknown device List.mem_cons_self)
      have hne : ∀ other ∈ rest, other.ref ≠ device.ref := fun other hother heq =>
        hfresh (heq ▸ List.mem_map_of_mem hother)
      obtain ⟨hall, hframe⟩ := ih hrest fun other hother =>
        hothers other (hknown other (List.mem_cons_of_mem _ hother)) (hne other hother)
      rw [ingested_cons]
      refine ⟨fun other hother => ?_, fun other hother hnot => ?_⟩
      · rcases List.mem_cons.mp hother with rfl | hother
        · exact hframe _ hself (by rwa [ticked_ref])
        · exact hall other hother
      · rw [List.map_cons, List.mem_cons, not_or] at hnot
        exact hframe other (hothers other hother hnot.1) hnot.2

theorem ingested_isSome (events : List ProviderEvent) (id : Uuid) :
    ((World.ingested clock service events).registry.get id).isSome =
      (service.registry.get id).isSome := by
  induction events generalizing service with
  | nil => rfl
  | cons event rest ih =>
      rw [World.ingested, List.foldl_cons, ← World.ingested, ih]
      exact ingest_isSome _ _ _ _ _

end Tick

-- The household is keyed by the refs of its devices. The registry holds each of them as it
-- is, and nothing else.
structure Mirrors (deviceUuid : ProviderDeviceRef → Uuid) (roomUuid : String → Uuid)
    (household : DemoProvider) (registry : DeviceRegistry) : Prop where
  keyed : ∀ key device, household.devices.get? key = some device → device.ref = ref key
  known : ∀ key device, household.devices.get? key = some device →
    Known deviceUuid roomUuid registry device
  only : ∀ id, (registry.get id).isSome →
    ∃ key device, household.devices.get? key = some device ∧ id = deviceUuid device.ref

section Household

variable (clock) {household : DemoProvider} {service : CommandService}

theorem nodup_refs (h : ∀ key device, household.devices.get? key = some device →
    device.ref = ref key) : (household.devices.values.map DemoDevice.ref).Nodup := by
  have hrefs : household.devices.values.map DemoDevice.ref = household.devices.keys.map ref := by
    rw [OrderedDict.values, OrderedDict.keys, List.map_map, List.map_map]
    refine List.map_congr_left fun entry hentry => ?_
    exact h entry.1 entry.2 ((OrderedDict.get?_eq_some_iff _ _ _).mpr hentry)
  rw [hrefs]
  exact household.devices.nodup.map fun _ _ hsame => (ProviderDeviceRef.mk.inj hsame).2

theorem Mirrors.tick (hseparates : Separates deviceUuid)
    (h : Mirrors deviceUuid roomUuid household service.registry) (elapsedSeconds : ℚ)
    (now : DemoDevice → Time) :
    Mirrors deviceUuid roomUuid (household.tick elapsedSeconds now).1
      (World.ingested clock service (household.tick elapsedSeconds now).2).registry := by
  have hget : ∀ key, (household.tick elapsedSeconds now).1.devices.get? key =
      (household.devices.get? key).map (DemoDevice.ticked (elapsedSeconds * household.timeScale)) :=
    fun key => OrderedDict.get?_mapValues _ _ _
  have hknown := (known_events clock (elapsedSeconds * household.timeScale) now hseparates
    (nodup_refs h.keyed) fun device hdevice => by
      obtain ⟨key, hkey⟩ := (OrderedDict.mem_values_iff _ _).mp hdevice
      exact h.known key device hkey).1
  constructor
  case keyed =>
    intro key device hdevice
    rw [hget] at hdevice
    obtain ⟨before, hbefore, rfl⟩ := Option.map_eq_some_iff.mp hdevice
    rw [ticked_ref]
    exact h.keyed key before hbefore
  case known =>
    intro key device hdevice
    rw [hget] at hdevice
    obtain ⟨before, hbefore, rfl⟩ := Option.map_eq_some_iff.mp hdevice
    exact hknown before ((OrderedDict.mem_values_iff _ _).mpr ⟨key, hbefore⟩)
  case only =>
    intro id hid
    rw [ingested_isSome] at hid
    obtain ⟨key, device, hdevice, rfl⟩ := h.only id hid
    refine ⟨key, device.ticked (elapsedSeconds * household.timeScale), ?_, ?_⟩
    · rw [hget, hdevice]
      rfl
    · rw [ticked_ref]

theorem require_eq_some {ref : ProviderDeviceRef} {device : DemoDevice}
    (h : household.require ref = some device) :
    household.devices.get? ref.providerDeviceId = some device ∧ ref.provider = PROVIDER_NAME := by
  obtain ⟨hget, hprovider⟩ := Option.filter_eq_some_iff.mp h
  exact ⟨hget, by simpa using hprovider⟩

theorem Mirrors.require_ref (h : Mirrors deviceUuid roomUuid household service.registry)
    {ref : ProviderDeviceRef} {device : DemoDevice}
    (hdevice : household.require ref = some device) : device.ref = ref := by
  obtain ⟨hget, hprovider⟩ := require_eq_some hdevice
  obtain ⟨provider, providerDeviceId⟩ := ref
  obtain rfl : provider = PROVIDER_NAME := hprovider
  exact h.keyed _ device hget

-- A command that is applied is told of with the device as it then is.
theorem Mirrors.set (hseparates : Separates deviceUuid)
    (h : Mirrors deviceUuid roomUuid household service.registry) {key : String}
    {device : DemoDevice} (hdevice : household.devices.get? key = some device) {state : DeviceState}
    (hstate : Overlay device.state state) (now : Time) (source : StateSource)
    (correlationId : Option String) :
    Mirrors deviceUuid roomUuid
      { household with devices := household.devices.set key { device with state := state } }
      (service.ingest clock device.ref (snapshot { device with state := state } now) source
        correlationId).registry := by
  have hknown := h.known key device hdevice
  constructor
  case keyed =>
    intro other found hfound
    obtain ⟨rfl, rfl⟩ | ⟨-, hfound⟩ := OrderedDict.get?_set_eq_some.mp hfound
    · exact h.keyed other device hdevice
    · exact h.keyed other found hfound
  case known =>
    intro other found hfound
    obtain ⟨rfl, rfl⟩ | ⟨hne, hfound⟩ := OrderedDict.get?_set_eq_some.mp hfound
    · exact known_ingest hknown hstate now source correlationId
    · refine known_ingest_other hseparates hknown (h.known other found hfound) (fun hsame => ?_) _
        source correlationId
      rw [h.keyed other found hfound, h.keyed key device hdevice] at hsame
      exact hne (ProviderDeviceRef.mk.inj hsame).2
  case only =>
    intro id hid
    rw [ingest_isSome] at hid
    obtain ⟨other, found, hfound, rfl⟩ := h.only id hid
    by_cases hsame : other = key
    · subst hsame
      obtain rfl := Option.some.inj (hdevice.symm.trans hfound)
      exact ⟨other, _, OrderedDict.get?_set_self _ _ _, rfl⟩
    · exact ⟨other, found, (OrderedDict.get?_set_of_ne hsame).trans hfound, rfl⟩

-- A device that is read tells nothing new.
theorem Mirrors.read (hseparates : Separates deviceUuid)
    (h : Mirrors deviceUuid roomUuid household service.registry) {key : String}
    {device : DemoDevice} (hdevice : household.devices.get? key = some device) (now : Time)
    (source : StateSource) (correlationId : Option String) :
    Mirrors deviceUuid roomUuid household
      (service.ingest clock device.ref (snapshot device now) source correlationId).registry := by
  have hset := h.set clock hseparates hdevice (overlay_refl device.state) now source correlationId
  have hget : ∀ other, (household.devices.set key device).get? other =
      household.devices.get? other := by
    intro other
    rw [OrderedDict.get?_set]
    split
    · next hsame => rw [hsame, hdevice]
    · rfl
  exact ⟨fun other found hfound => hset.keyed other found ((hget other).trans hfound),
    fun other found hfound => hset.known other found ((hget other).trans hfound),
    fun id hid => by
      obtain ⟨other, found, hfound, hsame⟩ := hset.only id hid
      exact ⟨other, found, (hget other).symm.trans hfound, hsame⟩⟩

end Household

section Pipeline

variable {pipeline next : Commands.World} {id : Uuid}

theorem registry_submit {call : SubmitCall}
    (h : pipeline.step clock coercion (.submit call) = some next) :
    next.service.registry = pipeline.service.registry := by
  cases Commands.step_moved h with
  | @refused _ service error hcheck =>
      have hregistry := @Commands.check_registry clock coercion pipeline.service call
      rwa [hcheck] at hregistry
  | unwired => exact Commands.finish_registry _ _ _ _
  | joined => exact Commands.join_registry _ _ _ _ _

theorem registry_enter (h : pipeline.step clock coercion (.enter id) = some next) :
    next.service.registry = pipeline.service.registry := by
  cases Commands.step_moved h
  rfl

theorem registry_cancelTask (h : pipeline.step clock coercion (.cancelTask id) = some next) :
    next.service.registry = pipeline.service.registry := by
  cases Commands.step_moved h <;> rfl

-- A call of execute that returns no state leaves the registry as it was.
theorem registry_unanswered {outcome : AdapterOutcome ProviderCommandResult}
    (houtcome : ∀ result, outcome ≠ .returned result)
    (h : pipeline.step clock coercion (.executeReturns id outcome) = some next) :
    next.service.registry = pipeline.service.registry := by
  cases Commands.step_moved h with
  | ended _ _ hended =>
      cases outcome with
      | returned result => exact absurd rfl (houtcome result)
      | raised error =>
          cases error with
          | timeoutError => cases hended
          | providerError failureCode | other =>
              obtain rfl := Option.some.inj hended
              exact Commands.finish_registry _ _ _ _
      | deadline => cases hended
  | timedOut => rfl

theorem registry_answered {result : ProviderCommandResult} {state : ProviderState}
    {task : Commands.Task} (hstate : result.state = some state)
    (htask : pipeline.tasks.get? id = some task)
    (h : pipeline.step clock coercion (.executeReturns id (.returned result)) = some next) :
    ∃ service : CommandService, service.registry = pipeline.service.registry ∧
      service.reads = pipeline.service.reads ∧
      next.service.registry = (service.ingest clock task.ref state .commandResult
        (some task.running.correlationId)).registry := by
  refine ⟨pipeline.service.emit (.executeEnded id (.returned result)), rfl, rfl, ?_⟩
  cases Commands.step_moved h with
  | @ended _ held _ ended hheld _ hended =>
      obtain rfl := Option.some.inj (htask.symm.trans hheld)
      obtain rfl := Option.some.inj hended
      change (CommandService.settle clock _ task.running result).1.registry = _
      unfold CommandService.settle
      cases result.outcome <;>
        rw [Commands.finish_registry, CommandService.ingestResult, hstate]
  | timedOut _ _ htimeout => cases htimeout

theorem registry_unread {error : ProviderException}
    (h : pipeline.step clock coercion (.getStateReturns id (.raised error)) = some next) :
    next.service.registry = pipeline.service.registry := by
  cases Commands.step_moved h
  exact Commands.finish_registry _ _ _ _

theorem registry_readBack {state : ProviderState} {task : Commands.Task}
    (htask : pipeline.tasks.get? id = some task)
    (h : pipeline.step clock coercion (.getStateReturns id (.returned state)) = some next) :
    ∃ service : CommandService, service.registry = pipeline.service.registry ∧
      service.reads = pipeline.service.reads ∧
      next.service.registry = (service.ingest clock task.ref state .providerSnapshot
        (some task.running.correlationId)).registry := by
  refine ⟨pipeline.service.emit (.readBackEnded id (.returned state)), rfl, rfl, ?_⟩
  cases Commands.step_moved h with
  | @reconciled _ held _ hheld =>
      obtain rfl := Option.some.inj (htask.symm.trans hheld)
      change (CommandService.afterGetState clock _ task.running task.ref task.params
        (.returned state)).1.registry = _
      unfold CommandService.afterGetState
      dsimp only
      split <;> rw [Commands.finish_registry]

end Pipeline

section Runs

variable {world after : World}

theorem act_eq_some {label : Commands.Label} (h : world.act clock coercion label = some after) :
    ∃ pipeline, world.pipeline.step clock coercion label = some pipeline ∧
      after = { world with pipeline } := by
  obtain ⟨pipeline, hnext, rfl⟩ := Option.map_eq_some_iff.mp h
  exact ⟨pipeline, hnext, rfl⟩

-- Every step of the pipeline or of the household keeps the two alike.
theorem Mirrors.step (hseparates : Separates deviceUuid)
    (h : Mirrors deviceUuid roomUuid world.household world.pipeline.service.registry)
    {label : Label} (hstep : world.step clock coercion label = some after) :
    Mirrors deviceUuid roomUuid after.household after.pipeline.service.registry := by
  cases label with
  | submit call =>
      obtain ⟨pipeline, hnext, rfl⟩ := act_eq_some hstep
      exact (registry_submit hnext).symm ▸ h
  | enter id =>
      obtain ⟨pipeline, hnext, rfl⟩ := act_eq_some hstep
      exact (registry_enter hnext).symm ▸ h
  | cancelTask id =>
      obtain ⟨pipeline, hnext, rfl⟩ := act_eq_some hstep
      exact (registry_cancelTask hnext).symm ▸ h
  | executed id random now =>
      obtain ⟨task, htask, hact⟩ := Option.bind_eq_some_iff.mp hstep
      rcases hresult : world.household.execute task.ref ⟨task.running.action, task.params⟩ random
        now with ⟨household, result⟩
      rw [hresult] at hact
      obtain ⟨pipeline, hnext, rfl⟩ := act_eq_some hact
      cases result with
      | ok result =>
          obtain ⟨device, hdevice, -, rfl, rfl⟩ := execute_applied hresult
          obtain ⟨service, hsame, -, hregistry⟩ := registry_answered rfl htask hnext
          rw [← hsame] at h
          have hset := h.set clock hseparates (require_eq_some hdevice).1
            (apply_overlay device.state ⟨task.running.action, task.params⟩) now .commandResult
            (some task.running.correlationId)
          rw [h.require_ref hdevice] at hset
          exact hregistry.symm ▸ hset
      | error error =>
          obtain ⟨rfl, rfl⟩ := execute_error hresult
          exact (registry_unanswered (by simp [ended]) hnext).symm ▸ h
  | deadline id =>
      obtain ⟨pipeline, hnext, rfl⟩ := act_eq_some hstep
      exact (registry_unanswered (by simp) hnext).symm ▸ h
  | readBack id now =>
      obtain ⟨task, htask, hact⟩ := Option.bind_eq_some_iff.mp hstep
      obtain ⟨pipeline, hnext, rfl⟩ := act_eq_some hact
      unfold DemoProvider.getState at hnext
      split at hnext
      · next device hdevice =>
        obtain ⟨service, hsame, -, hregistry⟩ := registry_readBack htask hnext
        rw [← hsame] at h
        have hread := h.read clock hseparates (require_eq_some hdevice).1 now
          .providerSnapshot (some task.running.correlationId)
        rw [h.require_ref hdevice] at hread
        exact hregistry.symm ▸ hread
      · exact (registry_unread hnext).symm ▸ h
  | tick elapsedSeconds now =>
      obtain rfl := Option.some.inj hstep
      exact h.tick clock hseparates elapsedSeconds now

end Runs

section Start

-- A household whose devices are filed under their own names, as the provider files them.
structure Household (household : DemoProvider) : Prop where
  keyed : ∀ key device, household.devices.get? key = some device → device.ref = ref key
  unmade : ∀ key device, household.devices.get? key = some device →
    device.state.filterLastStartedAt = none

variable {household : DemoProvider} {now : ProviderDeviceRef → Time}

-- What the start of the gateway takes of one device.
def answer (now : ProviderDeviceRef → Time) (device : DemoDevice) :
    Except ProviderException (ProviderDevice × ProviderState) :=
  .ok (device.definition, snapshot device (now device.ref))

theorem answers_found (h : Household household) :
    (household.found now).answers = household.devices.values.map (answer now) := by
  simp only [DemoProvider.found, DeviceProvider.answers, DemoProvider.discoverDevices,
    List.map_map]
  refine List.map_congr_left fun device hdevice => ?_
  obtain ⟨key, hkey⟩ := (OrderedDict.mem_values_iff _ _).mp hdevice
  have hrequire : household.require device.ref = some device := by
    rw [h.keyed key device hkey, DemoProvider.require]
    simp [ref, hkey]
  have hstate : household.getState device.definition.ref (now device.definition.ref) =
      .ok (snapshot device (now device.ref)) := by
    rw [DemoProvider.getState, show household.require device.definition.ref = _ from hrequire]
    rfl
  simp [answer, hstate, Except.map]

theorem known_registered {device : DemoDevice} (hprovider : device.ref.provider = PROVIDER_NAME)
    (hunmade : device.state.filterLastStartedAt = none) (registry : DeviceRegistry) :
    Known deviceUuid roomUuid (registry.register deviceUuid roomUuid device.definition
      (snapshot device (now device.ref))) device := by
  refine ⟨hprovider, OrderedDict.get?_set_self _ _ _, _, OrderedDict.get?_set_self _ _ _, ?_, rfl,
    rfl, rfl, rfl, rfl, rfl, rfl⟩
  change reported device.state = device.state
  rw [reported, ← hunmade]

theorem known_register_other (hseparates : Separates deviceUuid) {registry : DeviceRegistry}
    {device other : DemoDevice} (h : Known deviceUuid roomUuid registry other)
    (hprovider : device.ref.provider = PROVIDER_NAME) (hne : other.ref ≠ device.ref) :
    Known deviceUuid roomUuid (registry.register deviceUuid roomUuid device.definition
      (snapshot device (now device.ref))) other := by
  obtain ⟨hown, hid, held, hget, hreflects⟩ := h
  refine ⟨hown, (OrderedDict.get?_set_of_ne hne).trans hid, held, ?_, hreflects⟩
  exact (OrderedDict.get?_set_of_ne fun hsame => hne (hseparates _ _ hown hprovider hsame)).trans
    hget

theorem known_adopt (clock : Nat → Time) (roomUuid : String → Uuid) (now : ProviderDeviceRef → Time)
    (hseparates : Separates deviceUuid) {devices : List DemoDevice}
    (hrefs : (devices.map DemoDevice.ref).Nodup)
    (hown : ∀ device ∈ devices, device.ref.provider = PROVIDER_NAME ∧
      device.state.filterLastStartedAt = none)
    (service : DeviceService) :
    let adopted := (DeviceService.adopt clock deviceUuid roomUuid service
      (devices.map (answer now))).1.registry
    (∀ device ∈ devices, Known deviceUuid roomUuid adopted device) ∧
      (∀ other, Known deviceUuid roomUuid service.registry other →
        other.ref ∉ devices.map DemoDevice.ref → Known deviceUuid roomUuid adopted other) ∧
      ∀ id, (adopted.get id).isSome → (service.registry.get id).isSome ∨
        ∃ device ∈ devices, id = deviceUuid device.ref := by
  induction devices generalizing service with
  | nil => exact ⟨by simp, fun other hother _ => hother, fun id hid => .inl hid⟩
  | cons device rest ih =>
      obtain ⟨hfresh, hrest⟩ := List.nodup_cons.mp hrefs
      obtain ⟨hall, hframe, honly⟩ := ih hrest
        (fun other hother => hown other (List.mem_cons_of_mem _ hother))
        (service.discovered clock deviceUuid roomUuid device.definition
          (snapshot device (now device.ref)))
      obtain ⟨hprovider, hunmade⟩ := hown device List.mem_cons_self
      refine ⟨fun other hother => ?_, fun other hother hnot => ?_, fun id hid => ?_⟩
      · rcases List.mem_cons.mp hother with rfl | hother
        · exact hframe _ (known_registered hprovider hunmade _) hfresh
        · exact hall other hother
      · rw [List.map_cons, List.mem_cons, not_or] at hnot
        exact hframe other (known_register_other hseparates hother hprovider hnot.1) hnot.2
      · rcases honly id hid with hbefore | ⟨other, hother, hsame⟩
        · by_cases hself : id = deviceUuid device.ref
          · exact .inr ⟨device, List.mem_cons_self, hself⟩
          · refine .inl ?_
            rwa [show (service.discovered clock deviceUuid roomUuid device.definition
              (snapshot device (now device.ref))).registry.get id = service.registry.get id from
                OrderedDict.get?_set_of_ne hself] at hbefore
        · exact .inr ⟨other, List.mem_cons_of_mem _ hother, hsame⟩

theorem mirrors_initial (hseparates : Separates deviceUuid) (h : Household household) :
    Mirrors deviceUuid roomUuid household
      (initial clock deviceUuid roomUuid household now).pipeline.service.registry := by
  have hadopted : (initial clock deviceUuid roomUuid household now).pipeline.service.registry =
      (DeviceService.adopt clock deviceUuid roomUuid { registry := .empty }
        (household.devices.values.map (answer now))).1.registry := by
    change (DeviceService.bootstrap clock deviceUuid roomUuid _ _).1.registry = _
    rw [DeviceService.bootstrap_eq, List.flatMap_singleton, answers_found h]
  obtain ⟨hall, -, honly⟩ := known_adopt clock roomUuid now hseparates (nodup_refs h.keyed)
    (fun device hdevice => by
      obtain ⟨key, hkey⟩ := (OrderedDict.mem_values_iff _ _).mp hdevice
      exact ⟨congrArg ProviderDeviceRef.provider (h.keyed key device hkey),
        h.unmade key device hkey⟩) { registry := .empty }
  rw [hadopted]
  refine ⟨h.keyed, fun key device hkey => ?_, fun id hid => ?_⟩
  · exact hall device ((OrderedDict.mem_values_iff _ _).mpr ⟨key, hkey⟩)
  · rcases honly id hid with hnone | ⟨device, hdevice, hsame⟩
    · simp [DeviceRegistry.empty, DeviceRegistry.get] at hnone
    · obtain ⟨key, hkey⟩ := (OrderedDict.mem_values_iff _ _).mp hdevice
      exact ⟨key, device, hkey, hsame⟩

end Start

section Identity

variable {digest : String → String → Uuid} {casefold : String → String} {salt : String}

theorem separates_idOf (hdigest : Function.Injective (digest salt)) :
    Separates (Identity.idOf digest salt) := by
  have hdemo : ∀ ref : ProviderDeviceRef, ref.provider = PROVIDER_NAME → Identity.Named ref := by
    intro ref hprovider
    rw [Identity.Named, hprovider]
    decide
  exact fun first second hfirst hsecond hsame =>
    Identity.deviceUuid_inj hdigest (hdemo first hfirst) (hdemo second hsecond) hsame

-- Whatever commands, deadlines and ticks come in whatever order, the registry shows each
-- device of the household as it is then, and no others.
theorem mirrors_run (hdigest : Function.Injective (digest salt))
    {household : DemoProvider} (hhousehold : Household household) {now : ProviderDeviceRef → Time}
    {labels : List Label} {world : World}
    (hrun : Machine.run (World.step clock coercion) (initial clock (Identity.idOf digest salt)
      (Identity.roomUuid digest casefold salt) household now) labels = some world) :
    Mirrors (Identity.idOf digest salt) (Identity.roomUuid digest casefold salt) world.household
      world.pipeline.service.registry := by
  let inv : World → Prop := fun world =>
    Mirrors (Identity.idOf digest salt) (Identity.roomUuid digest casefold salt) world.household
      world.pipeline.service.registry
  have hseparates := separates_idOf hdigest
  have hinv : inv world := Machine.invariant (mirrors_initial hseparates hhousehold)
    (fun _ _ _ hbefore hstep => Mirrors.step hseparates hbefore hstep) hrun
  exact hinv

end Identity

-- The household that the provider builds is one of these.
theorem create_household (failureRate timeScale : ℚ) :
    Household (DemoProvider.create failureRate timeScale) := by
  have hget : ∀ key device, (DemoProvider.create failureRate timeScale).devices.get? key =
      some device → device ∈ buildDevices ∧ device.ref.providerDeviceId = key :=
    fun key device => (OrderedDict.get?_ofValues (by decide) key device).mp
  have hbuilt : ∀ device ∈ buildDevices, device.ref.provider = PROVIDER_NAME ∧
      device.state.filterLastStartedAt = none := by
    simp only [buildDevices, List.forall_mem_cons]
    simp [DemoDevice.ref, ref]
  refine ⟨fun key device hdevice => ?_, fun key device hdevice => ?_⟩
  · obtain ⟨hmem, rfl⟩ := hget key device hdevice
    rw [ref, ← (hbuilt device hmem).1]
  · exact (hbuilt device (hget key device hdevice).1).2

end Demo

end Homeflow
