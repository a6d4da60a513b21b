import Homeflow.Bestway.Execution
import Homeflow.Bestway.Released

namespace Homeflow.Bestway

-- The settings of the gateway as far as they are about this adapter, past the checks
-- that refuse to start it.
structure GatewaySettings extends Settings where
  demoMode : Bool := true
  bestwayEnabled : Bool := false
  bestwayHost : Option String := none
  host_given : bestwayEnabled = true → ∃ host, bestwayHost = some host ∧ host ≠ ""
  writes_trusted : bestwayWriteEnabled ≠ [] → bestwayTrustProfile = true
  not_demo : bestwayEnabled = true → demoMode = false

-- The adapter that is wired, if one is. None on the outside: the start fails.
def buildProvider (read : String → Option Layout) (settings : GatewaySettings) :
    Option (Option BestwayProvider) :=
  if settings.demoMode then some none
  else if settings.bestwayEnabled ∧ settings.bestwayHost.any (· ≠ "") then
    (buildBestwayProfile read settings.toSettings).map fun profile => some { profile }
  else some none

-- What a released datapoint lets the client do.
def WRITE_CAPABILITIES : List (Datapoint × Capability) :=
  [(.targetTemperature, .targetTemperature), (.heater, .heating), (.filterPump, .filter),
    (.bubbles, .bubbles), (.controlPanelLock, .controlPanelLock)]

namespace BestwayProvider

-- Read capabilities always; write capabilities only once released.
def capabilities (provider : BestwayProvider) : List Capability :=
  (if (provider.profile.locations.get? .currentTemperature).isSome then
    [Capability.currentTemperature] else []) ++
  WRITE_CAPABILITIES.filterMap fun entry =>
    if provider.profile.mayWrite entry.1 then some entry.2 else none

def discoverDevices (provider : BestwayProvider) (displayName : String := "Pool")
    (roomHint : Option String := some "Terrace") : List ProviderDevice :=
  if provider.profile.trusted then
    [{
      ref := airjetRef
      suggestedName := displayName
      kind := .pool
      capabilities := provider.capabilities
      roomHint
      constraints := {
        targetTemperatureMinC := some provider.profile.targetTemperatureMinC
        targetTemperatureMaxC := some provider.profile.targetTemperatureMaxC
        targetTemperatureStepC := some provider.profile.targetTemperatureStepC } }]
  else []

end BestwayProvider

-- The device offers to write the datapoint.
def Offers (device : ProviderDevice) (datapoint : Datapoint) : Prop :=
  ∃ capability, (datapoint, capability) ∈ WRITE_CAPABILITIES ∧ capability ∈ device.capabilities

section Build

variable {read : String → Option Layout} {settings : GatewaySettings}
  {provider : BestwayProvider}

theorem buildProvider_profile (h : buildProvider read settings = some (some provider)) :
    buildBestwayProfile read settings.toSettings = some provider.profile := by
  unfold buildProvider at h
  split at h
  · cases h
  · split at h
    · obtain ⟨profile, hprofile, hprovider⟩ := Option.map_eq_some_iff.mp h
      cases hprovider
      exact hprofile
    · cases h

theorem trusted_of_build (h : buildProvider read settings = some (some provider)) :
    provider.profile.trusted = settings.bestwayTrustProfile := by
  have hprofile := buildProvider_profile h
  simp only [buildBestwayProfile, Option.bind_eq_bind, Option.bind_eq_some_iff] at hprofile
  obtain ⟨base, -, writable, -, hvalid⟩ := hprofile
  exact congrArg Layout.trusted (validate_dump hvalid)

-- Of the capabilities of a write each belongs to one datapoint.
theorem mem_capabilities {datapoint : Datapoint} {capability : Capability}
    (h : (datapoint, capability) ∈ WRITE_CAPABILITIES) :
    capability ∈ provider.capabilities ↔ provider.profile.mayWrite datapoint = true := by
  unfold BestwayProvider.capabilities
  simp only [WRITE_CAPABILITIES, List.mem_cons, Prod.mk.injEq, List.not_mem_nil, or_false] at h
  rcases h with ⟨rfl, rfl⟩ | ⟨rfl, rfl⟩ | ⟨rfl, rfl⟩ | ⟨rfl, rfl⟩ | ⟨rfl, rfl⟩ <;>
    simp [WRITE_CAPABILITIES, List.mem_filterMap]

theorem discoverDevices_untrusted (h : buildProvider read settings = some (some provider))
    (huntrusted : settings.bestwayTrustProfile = false) (displayName : String)
    (roomHint : Option String) : provider.discoverDevices displayName roomHint = [] :=
  if_neg (by simp [trusted_of_build h, huntrusted])

theorem exists_discovered (h : buildProvider read settings = some (some provider))
    (htrusted : settings.bestwayTrustProfile = true) (displayName : String)
    (roomHint : Option String) :
    ∃ device, device ∈ provider.discoverDevices displayName roomHint := by
  unfold BestwayProvider.discoverDevices
  rw [if_pos ((trusted_of_build h).trans htrusted)]
  exact ⟨_, List.mem_singleton_self _⟩

-- The unit can never be released, and a reading has no capability of a write.
theorem offers_iff (h : buildProvider read settings = some (some provider))
    {device : ProviderDevice} {displayName : String} {roomHint : Option String}
    (hdevice : device ∈ provider.discoverDevices displayName roomHint) (datapoint : Datapoint) :
    Offers device datapoint ↔
      datapoint.value ∈ settings.bestwayWriteEnabled ∧ datapoint ≠ .currentTemperature := by
  unfold BestwayProvider.discoverDevices at hdevice
  split at hdevice
  · next htrusted =>
    cases List.mem_singleton.mp hdevice
    have hwrite : provider.profile.mayWrite datapoint = true ↔
        datapoint.value ∈ settings.bestwayWriteEnabled := by
      rw [mayWrite_of_build (buildProvider_profile h), ← trusted_of_build h]
      exact and_iff_right htrusted
    have hunit (hreleased : datapoint.value ∈ settings.bestwayWriteEnabled) :
        datapoint ≠ .unitIsFahrenheit := by
      have hmay := hwrite.mpr hreleased
      rw [DatapointProfile.mayWrite, decide_eq_true_eq] at hmay
      exact (provider.profile.writable_known datapoint hmay.2).1
    constructor
    · rintro ⟨capability, hpair, hcapability⟩
      refine ⟨hwrite.mp ((mem_capabilities hpair).mp hcapability), ?_⟩
      rintro rfl
      simp [WRITE_CAPABILITIES] at hpair
    · rintro ⟨hreleased, hcurrent⟩
      obtain ⟨capability, hpair⟩ : ∃ capability, (datapoint, capability) ∈ WRITE_CAPABILITIES := by
        have hknown := hunit hreleased
        cases datapoint <;> simp_all [WRITE_CAPABILITIES]
      exact ⟨capability, hpair, (mem_capabilities hpair).mpr (hwrite.mpr hreleased)⟩
  · cases hdevice

end Build

-- A layout file that knows a flag bit for the reading of the temperature.
def flaggedReading : Layout :=
  { AIRJET_19BYTE_PROFILE.dump with
    controlFlagBits := AIRJET_19BYTE_PROFILE.controlFlagBits.set .currentTemperature 8 }

def readingReleased : GatewaySettings where
  bestwayProfilePath := some "layout.json"
  bestwayTrustProfile := true
  bestwayWriteEnabled := ["CURRENT_TEMPERATURE"]
  demoMode := false
  bestwayEnabled := true
  bestwayHost := some "192.168.0.9"
  host_given := fun _ => ⟨_, rfl, by decide⟩
  writes_trusted := fun _ => rfl
  not_demo := fun _ => rfl

-- It can be released, but nothing is advertised for it.
theorem readingReleased_offers_nothing :
    ¬ ∀ (read : String → Option Layout) (settings : GatewaySettings) (provider : BestwayProvider),
      buildProvider read settings = some (some provider) →
      ∀ device ∈ provider.discoverDevices, ∀ datapoint,
        Offers device datapoint ↔ datapoint.value ∈ settings.bestwayWriteEnabled := by
  intro hall
  obtain ⟨profile, hprofile⟩ := Option.isSome_iff_exists.mp
    (show (buildBestwayProfile (fun _ => some flaggedReading)
      readingReleased.toSettings).isSome = true by decide +kernel)
  have hbuild : buildProvider (fun _ => some flaggedReading) readingReleased =
      some (some { profile }) := by
    unfold buildProvider
    rw [if_neg (by decide), if_pos (by decide), hprofile]
    rfl
  obtain ⟨device, hdevice⟩ := exists_discovered hbuild rfl "Pool" (some "Terrace")
  have hoffers := (hall _ _ _ hbuild device hdevice .currentTemperature).mpr (by decide)
  exact ((offers_iff hbuild hdevice .currentTemperature).mp hoffers).2 rfl

end Homeflow.Bestway
