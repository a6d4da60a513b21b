import Homeflow.Adapters.Applied
import Homeflow.Adapters.Reach
import Homeflow.Config.Container

-- The operator's word holds whatever comes over the wire.
namespace Homeflow.Config

open Adapters (Adapter Wiring)

-- The adapters of the container, once devices were discovered.
structure Container.Wires (container : Container) (wiring : Wiring) : Prop where
  homeAssistant : ∀ provider, .homeAssistant provider ∈ container.providers →
    ∃ history, wiring.homeAssistant = provider.surveyed history
  bestway : ∀ provider, .bestway provider ∈ container.providers → wiring.bestway = provider

def Container.names (container : Container) : List String :=
  container.providers.map Provider.name

-- The operator has set up this call, and released what it is about to write.
def Settings.Allows (settings : Settings) : Adapter → Prop
  | .homeAssistant execution =>
      settings.homeAssistantEnabled = true ∧ given settings.homeAssistantBaseUrl = true ∧
        given settings.homeAssistantToken = true ∧ ∀ asked, execution = .calling asked →
          HomeAssistant.domainOf asked.entityId ∈ settings.homeAssistantWriteEnabled ∧
          HomeAssistant.domainOf asked.entityId ∈ HomeAssistant.RELEASABLE_DOMAINS
  | .bestway execution =>
      settings.bestwayEnabled = true ∧ given settings.bestwayHost = true ∧
        ∀ request base, execution = .writing request base →
          settings.bestwayTrustProfile = true ∧
          request.datapoint.value ∈ settings.bestwayWriteEnabled

theorem Provider.of_name_homeAssistant {provider : Provider}
    (h : provider.name = HomeAssistant.PROVIDER_NAME) :
    ∃ wired, provider = .homeAssistant wired := by
  cases provider with
  | homeAssistant wired => exact ⟨wired, rfl⟩
  | demo => exact absurd h (show Demo.PROVIDER_NAME ≠ HomeAssistant.PROVIDER_NAME by decide)
  | bestway => exact absurd h (show Bestway.PROVIDER_NAME ≠ HomeAssistant.PROVIDER_NAME by decide)
  | weather => exact absurd h (show Weather.PROVIDER_NAME ≠ HomeAssistant.PROVIDER_NAME by decide)

theorem Provider.of_name_bestway {provider : Provider} (h : provider.name = Bestway.PROVIDER_NAME) :
    ∃ wired, provider = .bestway wired := by
  cases provider with
  | bestway wired => exact ⟨wired, rfl⟩
  | demo => exact absurd h (show Demo.PROVIDER_NAME ≠ Bestway.PROVIDER_NAME by decide)
  | homeAssistant =>
      exact absurd h (show HomeAssistant.PROVIDER_NAME ≠ Bestway.PROVIDER_NAME by decide)
  | weather => exact absurd h (show Weather.PROVIDER_NAME ≠ Bestway.PROVIDER_NAME by decide)

section Build

variable {settings : Settings} {read : String → Option Bestway.Layout}
  {providers : List Provider}

theorem buildProviders_demo (hdemo : settings.demoMode = true)
    (h : buildProviders settings read = some providers) :
    providers = [.demo (.create settings.demoFailureRate)] := by
  rw [buildProviders, if_pos hdemo] at h
  exact (Option.some.inj h).symm

-- An adapter is there when it is set up.
theorem buildProviders_real (hdemo : settings.demoMode = false)
    (h : buildProviders settings read = some providers) :
    ∃ bestway, Bestway.buildProvider read settings.gateway = some bestway ∧
      providers = (bestway.map Provider.bestway).toList ++
        ((buildHomeAssistant settings).map Provider.homeAssistant).toList ++
        ((buildWeather settings).map Provider.weather).toList := by
  rw [buildProviders, if_neg (by simp [hdemo])] at h
  obtain ⟨bestway, hbuild, hproviders⟩ := Option.map_eq_some_iff.mp h
  exact ⟨bestway, hbuild, hproviders.symm⟩

-- What is in the container, by the settings that have put it there.
theorem provider_cases (h : buildProviders settings read = some providers) {provider : Provider}
    (hprovider : provider ∈ providers) :
    (settings.demoMode = true ∧ provider = .demo (.create settings.demoFailureRate)) ∨
    settings.demoMode = false ∧
      ((∃ bestway, provider = .bestway bestway ∧
          Bestway.buildProvider read settings.gateway = some (some bestway)) ∨
        (∃ homeAssistant, provider = .homeAssistant homeAssistant ∧
          buildHomeAssistant settings = some homeAssistant) ∨
        ∃ weather, provider = .weather weather ∧ buildWeather settings = some weather) := by
  cases hdemo : settings.demoMode with
  | true =>
      rw [buildProviders_demo hdemo h] at hprovider
      exact .inl ⟨rfl, List.mem_singleton.mp hprovider⟩
  | false =>
      obtain ⟨bestway, hbuild, rfl⟩ := buildProviders_real hdemo h
      simp only [List.mem_append, Option.mem_toList, Option.map_eq_some_iff] at hprovider
      refine .inr ⟨rfl, ?_⟩
      rcases hprovider with (⟨wired, rfl, rfl⟩ | ⟨wired, hwired, rfl⟩) | ⟨wired, hwired, rfl⟩
      · exact .inl ⟨wired, rfl, hbuild⟩
      · exact .inr (.inl ⟨wired, rfl, hwired⟩)
      · exact .inr (.inr ⟨wired, rfl, hwired⟩)

theorem homeAssistant_mem (h : buildProviders settings read = some providers)
    (hname : HomeAssistant.PROVIDER_NAME ∈ providers.map Provider.name) :
    ∃ provider, .homeAssistant provider ∈ providers ∧ settings.demoMode = false ∧
      buildHomeAssistant settings = some provider := by
  obtain ⟨provider, hprovider, hsame⟩ := List.mem_map.mp hname
  obtain ⟨wired, rfl⟩ := Provider.of_name_homeAssistant hsame
  rcases provider_cases h hprovider with ⟨-, hother⟩ | ⟨hdemo, ⟨_, hother, -⟩ |
    ⟨_, hself, hwired⟩ | ⟨_, hother, -⟩⟩
  · cases hother
  · cases hother
  · cases hself
    exact ⟨wired, hprovider, hdemo, hwired⟩
  · cases hother

theorem bestway_mem (h : buildProviders settings read = some providers)
    (hname : Bestway.PROVIDER_NAME ∈ providers.map Provider.name) :
    ∃ provider, .bestway provider ∈ providers ∧ settings.demoMode = false ∧
      Bestway.buildProvider read settings.gateway = some (some provider) := by
  obtain ⟨provider, hprovider, hsame⟩ := List.mem_map.mp hname
  obtain ⟨wired, rfl⟩ := Provider.of_name_bestway hsame
  rcases provider_cases h hprovider with ⟨-, hother⟩ | ⟨hdemo, ⟨_, hself, hwired⟩ |
    ⟨_, hother, -⟩ | ⟨_, hother, -⟩⟩
  · cases hother
  · cases hself
    exact ⟨wired, hprovider, hdemo, hwired⟩
  · cases hother
  · cases hother

end Build

section Runs

variable {sha256Hex : String → String} {digest : String → String → Uuid}
  {read : String → Option Bestway.Layout} {settings : Settings} {container : Container}
  {wiring : Wiring} {adapter : Adapter}

theorem allows (hbuild : buildContainer sha256Hex digest read settings = some container)
    (hwires : container.Wires wiring) (hname : adapter.provider ∈ container.names)
    (hreleased : Adapters.Released wiring adapter)
    (hencoded : Adapters.Encoded wiring.bestway.profile adapter) :
    settings.demoMode = false ∧ settings.Allows adapter := by
  obtain ⟨providers, hproviders, rfl⟩ := Option.map_eq_some_iff.mp hbuild
  cases adapter with
  | homeAssistant execution =>
      obtain ⟨provider, hprovider, hdemo, hwired⟩ := homeAssistant_mem hproviders hname
      obtain ⟨⟨henabled, hurl, htoken⟩, hsame⟩ := Option.ite_none_right_eq_some.mp hwired
      obtain ⟨history, hsurveyed⟩ := hwires.homeAssistant provider hprovider
      refine ⟨hdemo, henabled, hurl, htoken, fun asked hasked => ?_⟩
      have hdomain := hreleased asked (congrArg Adapter.homeAssistant hasked)
      rw [hsurveyed, HomeAssistant.surveyed_releasedDomains, ← Option.some.inj hsame] at hdomain
      exact ⟨hdomain, settings.closed.releasable _ hdomain⟩
  | bestway execution =>
      obtain ⟨provider, hprovider, hdemo, hwired⟩ := bestway_mem hproviders hname
      obtain ⟨henabled, hhost⟩ : settings.bestwayEnabled = true ∧
          given settings.bestwayHost = true := by
        unfold Bestway.buildProvider at hwired
        split at hwired
        · cases hwired
        · split at hwired
          · next hset => exact hset
          · cases hwired
      refine ⟨hdemo, henabled, hhost, fun request base hwriting => ?_⟩
      have hencode := hencoded request base (by rw [hwriting]; rfl)
      rw [hwires.bestway provider hprovider] at hencode
      exact (Bestway.mayWrite_of_build (Bestway.buildProvider_profile hwired)
        request.datapoint).mp (Bestway.DatapointProfile.encodeControl_of_ok hencode).1

-- No call of an adapter is under way that the operator has not allowed for, and a demo has
-- written nothing.
theorem deployment_writes_what_is_released {clock : Nat → Time} {coercion : Coercion}
    {registry : DeviceRegistry} {labels : List Adapters.Label} {world : Adapters.World}
    (hbuild : buildContainer sha256Hex digest read settings = some container)
    (hwires : container.Wires wiring)
    (hrun : Machine.run (Adapters.World.step clock coercion wiring)
      (Adapters.initial registry container.names) labels = some world) :
    (∀ id adapter, world.adapters.get? id = some adapter →
      settings.demoMode = false ∧ settings.Allows adapter) ∧
    (settings.demoMode = true → world.sent = []) := by
  have hcontained := Adapters.contained_run hrun
  constructor
  · intro id adapter hadapter
    obtain ⟨hname, hreleased, hencoded⟩ := hcontained.flight id adapter hadapter
    exact allows hbuild hwires hname hreleased hencoded
  · intro hdemo
    refine List.eq_nil_iff_forall_not_mem.mpr fun id hid => ?_
    obtain ⟨providers, hproviders, rfl⟩ := Option.map_eq_some_iff.mp hbuild
    rcases hcontained.sent id hid with hname | hname
    · obtain ⟨_, _, hreal, _⟩ := homeAssistant_mem hproviders hname
      cases hreal.symm.trans hdemo
    · obtain ⟨_, _, hreal, _⟩ := bestway_mem hproviders hname
      cases hreal.symm.trans hdemo

end Runs

-- A gateway in front of an instance with one lamp.
def lampFields : Fields where
  demoMode := false
  idSalt := some "salt"
  homeAssistantEnabled := true
  homeAssistantBaseUrl := some "http://assistant.home"
  homeAssistantToken := some "token"
  homeAssistantWriteEnabled := ["light"]

def lampSettings : Settings where
  toFields := lampFields
  bounded := by decide +kernel
  closed := Fields.failClosed_eq_none_iff.mp (by decide +kernel)

def lampSurvey : HomeAssistant.Survey where
  answer := .answered ⟨200, 2, .json (.arr [Adapters.hallOn])⟩
  rooms := .ok .empty

def lampProvider : HomeAssistant.HomeAssistantProvider :=
  { releasedDomains := lampSettings.homeAssistantWriteEnabled }

def lampWiring : Wiring where
  homeAssistant := lampProvider.surveyed [lampSurvey]
  bestway := { profile := Bestway.AIRJET_19BYTE_PROFILE }
  float _ := none

def lampContainer : Container where
  clients := {}
  providers := [.homeAssistant lampProvider]
  commandRateLimiter := .create 60 none 1024 RateLimiter.tracksSome_default

theorem lampContainer_built :
    buildContainer (fun text => text) (fun _ _ => 0) (fun _ => none) lampSettings =
      some lampContainer := by
  rfl

theorem lampWiring_wires : lampContainer.Wires lampWiring where
  homeAssistant provider hprovider := by
    obtain rfl := Provider.homeAssistant.inj (List.mem_singleton.mp hprovider)
    exact ⟨[lampSurvey], rfl⟩
  bestway provider hprovider := by cases List.mem_singleton.mp hprovider

-- The call that switches the lamp on is under way.
theorem deployment_writes_what_is_released_lamp :
    ∃ world, Machine.run (Adapters.World.step (fun _ => 0) Commands.strict lampWiring)
        (Adapters.initial Adapters.hallRegistry lampContainer.names)
        [.pipeline (.submit (Commands.switchOn 1)), .begin 0 0] = some world ∧
      (world.adapters.get? 0).isSome = true ∧
      ∀ adapter, world.adapters.get? 0 = some adapter → lampSettings.Allows adapter := by
  have hruns : (Machine.run (Adapters.World.step (fun _ => 0) Commands.strict lampWiring)
      (Adapters.initial Adapters.hallRegistry lampContainer.names)
      [.pipeline (.submit (Commands.switchOn 1)), .begin 0 0]).any
        (fun world => (world.adapters.get? 0).isSome) = true := by
    decide +kernel
  obtain ⟨world, hrun, hsome⟩ := (Option.any_eq_true _ _).mp hruns
  have hallowed := (deployment_writes_what_is_released lampContainer_built lampWiring_wires hrun).1
  exact ⟨world, hrun, hsome, fun adapter hadapter => (hallowed 0 adapter hadapter).2⟩

end Homeflow.Config
