import Homeflow.Devices.Service

namespace Homeflow

-- A device a discovery finds, with the end of the call that asks for its state.
structure Discovery where
  device : ProviderDevice
  state : Except ProviderException ProviderState

-- What a provider answers at the start of the gateway.
structure DeviceProvider where
  discoverDevices : Except ProviderException (List Discovery)

namespace DeviceProvider

def Succeeds (provider : DeviceProvider) : Prop :=
  ∃ found, provider.discoverDevices = .ok found ∧
    ∀ discovery ∈ found, ∃ state, discovery.state = .ok state

-- The answers in the order they are asked for, a failed discovery being the only one.
def answers (provider : DeviceProvider) :
    List (Except ProviderException (ProviderDevice × ProviderState)) :=
  match provider.discoverDevices with
  | .error error => [.error error]
  | .ok found => found.map fun discovery => discovery.state.map (discovery.device, ·)

end DeviceProvider

namespace DeviceService

variable (clock : Nat → Time) (deviceUuid : ProviderDeviceRef → Uuid) (roomUuid : String → Uuid)

-- A device enters the registry, and the bus is told.
def discovered (service : DeviceService) (device : ProviderDevice) (state : ProviderState) :
    DeviceService where
  registry := service.registry.register deviceUuid roomUuid device state
  reads := service.reads + 1
  events := service.events ++ [{
    type := .deviceDiscovered
    occurredAt := clock service.reads
    deviceId := some (deviceUuid device.ref) }]

-- The devices of one provider. What get_state raises is not handled.
def takeSnapshots (service : DeviceService) :
    List Discovery → DeviceService × Option ProviderException
  | [] => (service, none)
  | found :: rest =>
      match found.state with
      | .error error => (service, some error)
      | .ok state =>
          (service.discovered clock deviceUuid roomUuid found.device state).takeSnapshots rest

-- Discover devices and take an initial state snapshot. What discover_devices raises
-- is not handled either, and ends the start of the application.
def bootstrap (service : DeviceService) :
    List DeviceProvider → DeviceService × Option ProviderException
  | [] => (service, none)
  | provider :: rest =>
      match provider.discoverDevices with
      | .error error => (service, some error)
      | .ok found =>
          match service.takeSnapshots clock deviceUuid roomUuid found with
          | (taken, none) => taken.bootstrap rest
          | (taken, some error) => (taken, some error)

-- A device that is in the registry under the identifier of its ref.
def Registered (service : DeviceService) (ref : ProviderDeviceRef) : Prop :=
  service.registry.idForRef ref = some (deviceUuid ref) ∧
    (service.registry.get (deviceUuid ref)).isSome

-- The start survives, and no provider without a fault of its own loses a device.
def Starts (service : DeviceService) (providers : List DeviceProvider) : Prop :=
  (service.bootstrap clock deviceUuid roomUuid providers).2 = none ∧
    ∀ provider ∈ providers, provider.Succeeds →
      ∀ found, provider.discoverDevices = .ok found → ∀ discovery ∈ found,
        Registered deviceUuid (service.bootstrap clock deviceUuid roomUuid providers).1
          discovery.device.ref

section Answers

variable {clock deviceUuid roomUuid}

-- Registration goes on until the first answer that is an error.
def adopt (clock : Nat → Time) (deviceUuid : ProviderDeviceRef → Uuid)
    (roomUuid : String → Uuid) (service : DeviceService) :
    List (Except ProviderException (ProviderDevice × ProviderState)) →
      DeviceService × Option ProviderException
  | [] => (service, none)
  | .error error :: _ => (service, some error)
  | .ok (device, state) :: rest =>
      adopt clock deviceUuid roomUuid (service.discovered clock deviceUuid roomUuid device state)
        rest

theorem adopt_append (service : DeviceService)
    (first rest : List (Except ProviderException (ProviderDevice × ProviderState))) :
    adopt clock deviceUuid roomUuid service (first ++ rest) =
      match adopt clock deviceUuid roomUuid service first with
      | (taken, none) => adopt clock deviceUuid roomUuid taken rest
      | (taken, some error) => (taken, some error) := by
  induction first generalizing service with
  | nil => rfl
  | cons answer first ih =>
      cases answer with
      | error error => rfl
      | ok found => exact ih _

theorem takeSnapshots_eq (service : DeviceService) (found : List Discovery) :
    service.takeSnapshots clock deviceUuid roomUuid found =
      adopt clock deviceUuid roomUuid service
        (found.map fun discovery => discovery.state.map (discovery.device, ·)) := by
  induction found generalizing service with
  | nil => rfl
  | cons discovery found ih =>
      unfold takeSnapshots
      cases hstate : discovery.state with
      | error error => simp [hstate, Except.map, adopt]
      | ok state => simp [hstate, Except.map, adopt, ih]

-- The nested loop is one walk through all the answers.
theorem bootstrap_eq (service : DeviceService) (providers : List DeviceProvider) :
    service.bootstrap clock deviceUuid roomUuid providers =
      adopt clock deviceUuid roomUuid service (providers.flatMap DeviceProvider.answers) := by
  induction providers generalizing service with
  | nil => rfl
  | cons provider rest ih =>
      unfold bootstrap
      rw [List.flatMap_cons, adopt_append]
      cases hfound : provider.discoverDevices with
      | error error => simp [DeviceProvider.answers, hfound, adopt]
      | ok found =>
          simp only [DeviceProvider.answers, hfound, ← takeSnapshots_eq]
          split
          · exact ih _
          · rfl

theorem adopt_error_iff (service : DeviceService)
    (answers : List (Except ProviderException (ProviderDevice × ProviderState))) :
    (adopt clock deviceUuid roomUuid service answers).2 = none ↔
      ∀ answer ∈ answers, ∃ found, answer = .ok found := by
  induction answers generalizing service with
  | nil => simp [adopt]
  | cons answer rest ih =>
      cases answer with
      | error error => simp [adopt]
      | ok found =>
          rw [adopt, ih, List.forall_mem_cons]
          exact ⟨fun h => ⟨⟨found, rfl⟩, h⟩, And.right⟩

theorem registered_discovered_self (service : DeviceService) (device : ProviderDevice)
    (state : ProviderState) :
    Registered deviceUuid (service.discovered clock deviceUuid roomUuid device state)
      device.ref := by
  simp [Registered, discovered, DeviceRegistry.register, DeviceRegistry.idForRef,
    DeviceRegistry.get]

-- A later device can replace an earlier one under the same identifier, but removes none.
theorem registered_discovered {service : DeviceService} {ref : ProviderDeviceRef}
    (device : ProviderDevice) (state : ProviderState) (h : Registered deviceUuid service ref) :
    Registered deviceUuid (service.discovered clock deviceUuid roomUuid device state) ref := by
  refine ⟨?_, OrderedDict.isSome_set h.2⟩
  change (service.registry.idByRef.set device.ref (deviceUuid device.ref)).get? ref = _
  rw [OrderedDict.get?_set]
  split
  · next href => rw [href]
  · exact h.1

theorem registered_adopt {service : DeviceService} {ref : ProviderDeviceRef}
    (answers : List (Except ProviderException (ProviderDevice × ProviderState)))
    (h : Registered deviceUuid service ref) :
    Registered deviceUuid (adopt clock deviceUuid roomUuid service answers).1 ref := by
  induction answers generalizing service with
  | nil => exact h
  | cons answer rest ih =>
      cases answer with
      | error error => exact h
      | ok found => exact ih (registered_discovered found.1 found.2 h)

-- What comes in front of the first error is registered, whatever happens behind it.
theorem registered_of_taken (service : DeviceService) (device : ProviderDevice)
    (state : ProviderState)
    {before : List (Except ProviderException (ProviderDevice × ProviderState))}
    (after : List (Except ProviderException (ProviderDevice × ProviderState)))
    (hbefore : ∀ answer ∈ before, ∃ found, answer = .ok found) :
    Registered deviceUuid
      (adopt clock deviceUuid roomUuid service (before ++ .ok (device, state) :: after)).1
      device.ref := by
  rw [adopt_append]
  have herror := (@adopt_error_iff clock deviceUuid roomUuid service before).mpr hbefore
  rcases hadopted : adopt clock deviceUuid roomUuid service before with ⟨taken, error⟩
  rw [hadopted] at herror
  cases herror
  exact registered_adopt after (registered_discovered_self taken device state)

end Answers

theorem answers_ok_iff (provider : DeviceProvider) :
    (∀ answer ∈ provider.answers, ∃ found, answer = .ok found) ↔ provider.Succeeds := by
  unfold DeviceProvider.Succeeds DeviceProvider.answers
  cases provider.discoverDevices with
  | error error => simp
  | ok found =>
      simp only [List.forall_mem_map, Except.ok.injEq, exists_eq_left']
      refine forall₂_congr fun discovery _ => ?_
      cases discovery.state with
      | error error => simp [Except.map]
      | ok state => simp [Except.map]

-- The gateway starts as it should exactly if no provider raises anything.
theorem starts_iff (service : DeviceService) (providers : List DeviceProvider) :
    service.Starts clock deviceUuid roomUuid providers ↔
      ∀ provider ∈ providers, provider.Succeeds := by
  have hanswers : (service.bootstrap clock deviceUuid roomUuid providers).2 = none ↔
      ∀ provider ∈ providers, provider.Succeeds := by
    rw [bootstrap_eq, adopt_error_iff]
    simp only [List.forall_mem_flatMap, answers_ok_iff]
  refine ⟨fun h => hanswers.mp h.1, fun h => ⟨hanswers.mpr h, ?_⟩⟩
  intro provider hprovider hsucceeds found hfound discovery hdiscovery
  obtain ⟨_, hsame, hstates⟩ := hsucceeds
  cases hfound.symm.trans hsame
  obtain ⟨state, hstate⟩ := hstates discovery hdiscovery
  have hanswer : .ok (discovery.device, state) ∈ provider.answers := by
    simp only [DeviceProvider.answers, hfound, List.mem_map]
    exact ⟨discovery, hdiscovery, by rw [hstate]; rfl⟩
  obtain ⟨before, after, hsplit⟩ :=
    List.append_of_mem (List.mem_flatMap.mpr ⟨provider, hprovider, hanswer⟩)
  rw [bootstrap_eq, hsplit]
  refine registered_of_taken service discovery.device state after fun answer hbefore => ?_
  obtain ⟨owner, howner, hmem⟩ := List.mem_flatMap.mp
    (hsplit ▸ List.mem_append_left _ hbefore : answer ∈ providers.flatMap DeviceProvider.answers)
  exact (answers_ok_iff owner).mpr (h owner howner) answer hmem

-- A controller that is switched off, and a lamp of an instance that answers.
def darkController : DeviceProvider where
  discoverDevices := .ok [{
    device := {
      ref := ⟨"bestway", "airjet"⟩, suggestedName := "Pool", kind := .pool, capabilities := [] }
    state := .error (.providerError PROVIDER_UNAVAILABLE) }]

def lamp : Discovery where
  device := {
    ref := ⟨"home_assistant", "light.lamp"⟩, suggestedName := "Lamp", kind := .light
    capabilities := [.power] }
  state := .ok { state := { power := some true }, availability := .online, observedAt := 0 }

-- The start ends with the error of the controller, and the lamp's provider is never asked.
theorem darkController_stops_start :
    ¬∃ (clock : Nat → Time) (deviceUuid : ProviderDeviceRef → Uuid) (roomUuid : String → Uuid),
      Starts clock deviceUuid roomUuid { registry := .empty } [darkController, ⟨.ok [lamp]⟩] ∨
      Registered deviceUuid (bootstrap clock deviceUuid roomUuid { registry := .empty }
        [darkController, ⟨.ok [lamp]⟩]).1 lamp.device.ref := by
  rintro ⟨clock, deviceUuid, roomUuid, hgood⟩
  have hboot : bootstrap clock deviceUuid roomUuid { registry := .empty }
      [darkController, ⟨.ok [lamp]⟩] =
        ({ registry := .empty }, some (.providerError PROVIDER_UNAVAILABLE)) := rfl
  rcases hgood with hstarts | hregistered
  · have hnone := hstarts.1
    rw [hboot] at hnone
    cases hnone
  · rw [hboot] at hregistered
    cases hregistered.1

end DeviceService

end Homeflow
