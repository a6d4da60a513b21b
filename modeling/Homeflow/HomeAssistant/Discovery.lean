import Homeflow.HomeAssistant.Execution
import Homeflow.HomeAssistant.Mappers

namespace Homeflow.HomeAssistant

-- Whether configuration and code both let a domain be written to.
def HomeAssistantProvider.releases (provider : HomeAssistantProvider) (domain : String) : Bool :=
  domain ∈ provider.releasedDomains ∧ domain ∈ RELEASABLE_DOMAINS

-- What the instance answers to the two requests of a discovery: the states, and the
-- rooms behind them.
structure Survey where
  answer : Exchange
  rooms : Except HaError (OrderedDict String String)

-- The entities a discovery gets to see. None: it fails before.
def Survey.entities (survey : Survey) : Option (List HaEntity) :=
  match states survey.answer, survey.rooms with
  | .ok entities, .ok _ => some entities
  | _, _ => none

namespace HomeAssistantProvider

-- The device an entity is advertised as. None: HomeFlow has no use for it.
def advertise (provider : HomeAssistantProvider) (rooms : OrderedDict String String)
    (entity : HaEntity) : Except EntityError (Option ProviderDevice) := do
  match ← describe entity with
  | none => return none
  | some mapping =>
      return some {
        ref := refFor entity.entityId
        suggestedName := displayName entity
        kind := mapping.kind
        capabilities := if provider.releases entity.domain then mapping.capabilities
          else mapping.capabilities.filter (· ∉ mapping.writable)
        roomHint := rooms.get? entity.entityId
        constraints := mapping.constraints }

-- The devices of a list of entities, whose kinds are kept. An entity that cannot be
-- described ends the discovery with the kinds that were found until then.
def advertiseAll (provider : HomeAssistantProvider) (rooms : OrderedDict String String) :
    List HaEntity → HomeAssistantProvider × Except EntityError (List ProviderDevice)
  | [] => (provider, .ok [])
  | entity :: rest =>
      match provider.advertise rooms entity with
      | .error error => (provider, .error error)
      | .ok none => provider.advertiseAll rooms rest
      | .ok (some device) =>
          let (after, devices) :=
            { provider with kinds := provider.kinds.set entity.entityId device.kind }.advertiseAll
              rooms rest
          (after, (device :: ·) <$> devices)

-- The kinds of the last discovery are kept until the answers are there.
def discoverDevices (provider : HomeAssistantProvider) (survey : Survey) :
    HomeAssistantProvider × Except HaError (List ProviderDevice) :=
  match states survey.answer, survey.rooms with
  | .error error, _ => (provider, .error error)
  | .ok _, .error error => (provider, .error error)
  | .ok entities, .ok rooms =>
      match { provider with kinds := .empty }.advertiseAll rooms entities with
      | (after, .ok devices) => (after, .ok devices)
      | (after, .error _) => (after, .error .other)

-- The provider after a series of discoveries.
def surveyed (provider : HomeAssistantProvider) (history : List Survey) :
    HomeAssistantProvider :=
  history.foldl (fun provider survey => (provider.discoverDevices survey).1) provider

section Advertise

variable {provider : HomeAssistantProvider} {rooms : OrderedDict String String}
  {entity : HaEntity} {device : ProviderDevice}

theorem advertise_ok (h : provider.advertise rooms entity = .ok (some device)) :
    ∃ mapping, describe entity = .ok (some mapping) ∧ device.ref = refFor entity.entityId ∧
      device.capabilities = if provider.releases entity.domain then mapping.capabilities
        else mapping.capabilities.filter (· ∉ mapping.writable) := by
  simp only [advertise, Except.bind_eq_ok] at h
  obtain ⟨described, hdescribed, h⟩ := h
  cases described with
  | none => simp [pure, Except.pure] at h
  | some mapping =>
      cases h
      exact ⟨mapping, hdescribed, rfl, rfl⟩

theorem advertiseAll_releasedDomains (provider : HomeAssistantProvider)
    (entities : List HaEntity) :
    (provider.advertiseAll rooms entities).1.releasedDomains = provider.releasedDomains := by
  induction entities generalizing provider with
  | nil => rfl
  | cons entity rest ih =>
      unfold advertiseAll
      split
      · rfl
      · exact ih _
      · exact ih _

-- An entity has a kind because it is one of the list, or had it before.
theorem advertiseAll_kinds (provider : HomeAssistantProvider) (entities : List HaEntity)
    {id : String} (h : ((provider.advertiseAll rooms entities).1.kinds.get? id).isSome) :
    (provider.kinds.get? id).isSome ∨ ∃ entity ∈ entities, entity.entityId = id := by
  induction entities generalizing provider with
  | nil => exact .inl h
  | cons entity rest ih =>
      unfold advertiseAll at h
      split at h
      · exact .inl h
      · exact (ih _ h).imp_right fun ⟨other, hother, hid⟩ =>
          ⟨other, List.mem_cons_of_mem _ hother, hid⟩
      · rcases ih _ h with hbefore | ⟨other, hother, hid⟩
        · rw [OrderedDict.get?_set] at hbefore
          split at hbefore
          · next hid => exact .inr ⟨entity, List.mem_cons_self, hid.symm⟩
          · exact .inl hbefore
        · exact .inr ⟨other, List.mem_cons_of_mem _ hother, hid⟩

theorem advertiseAll_devices (provider : HomeAssistantProvider) (entities : List HaEntity)
    {devices : List ProviderDevice} (h : (provider.advertiseAll rooms entities).2 = .ok devices)
    (hdevice : device ∈ devices) :
    ∃ entity ∈ entities, ∃ mapping, describe entity = .ok (some mapping) ∧
      device.ref = refFor entity.entityId ∧
      device.capabilities = if provider.releases entity.domain then mapping.capabilities
        else mapping.capabilities.filter (· ∉ mapping.writable) := by
  induction entities generalizing provider devices with
  | nil =>
      cases h
      cases hdevice
  | cons entity rest ih =>
      unfold advertiseAll at h
      split at h
      · cases h
      · obtain ⟨other, hother, hspec⟩ := ih _ h hdevice
        exact ⟨other, List.mem_cons_of_mem _ hother, hspec⟩
      · next first hfirst =>
        obtain ⟨others, hothers, rfl⟩ := Except.map_eq_ok.mp h
        rcases List.mem_cons.mp hdevice with rfl | hmem
        · exact ⟨entity, List.mem_cons_self, advertise_ok hfirst⟩
        · obtain ⟨other, hother, hspec⟩ := ih _ hothers hmem
          exact ⟨other, List.mem_cons_of_mem _ hother, hspec⟩

end Advertise

end HomeAssistantProvider

end Homeflow.HomeAssistant
