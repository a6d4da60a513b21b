import Homeflow.Commands.Declared
import Homeflow.HomeAssistant.Discovery

namespace Homeflow.HomeAssistant

open HomeAssistantProvider

-- What the last discovery that got its answers saw.
def latest (history : List Survey) : List HaEntity :=
  ((history.filterMap Survey.entities).getLast?).getD []

section Discovered

theorem discoverDevices_of_none {provider : HomeAssistantProvider} {survey : Survey}
    (h : survey.entities = none) : (provider.discoverDevices survey).1 = provider := by
  unfold Survey.entities at h
  unfold discoverDevices
  split <;> simp_all

theorem discoverDevices_of_some {provider : HomeAssistantProvider} {survey : Survey}
    {entities : List HaEntity} (h : survey.entities = some entities) :
    ∃ rooms, (provider.discoverDevices survey).1 =
        (advertiseAll { provider with kinds := .empty } rooms entities).1 ∧
      ∀ devices, (provider.discoverDevices survey).2 = .ok devices →
        (advertiseAll { provider with kinds := .empty } rooms entities).2 = .ok devices := by
  unfold Survey.entities at h
  split at h
  · next found rooms hfound hrooms =>
    cases h
    refine ⟨rooms, ?_⟩
    simp only [discoverDevices, hfound, hrooms]
    split
    · next after devices hall => simp [hall]
    · next after error hall => simp [hall]
  · cases h

theorem discoverDevices_releasedDomains (provider : HomeAssistantProvider) (survey : Survey) :
    (provider.discoverDevices survey).1.releasedDomains = provider.releasedDomains := by
  cases hentities : survey.entities with
  | none => rw [discoverDevices_of_none hentities]
  | some entities =>
      obtain ⟨rooms, hprovider, -⟩ := @discoverDevices_of_some provider _ _ hentities
      rw [hprovider, advertiseAll_releasedDomains]

theorem surveyed_releasedDomains (provider : HomeAssistantProvider) (history : List Survey) :
    (provider.surveyed history).releasedDomains = provider.releasedDomains := by
  induction history generalizing provider with
  | nil => rfl
  | cons survey rest ih => exact (ih _).trans (discoverDevices_releasedDomains _ _)

-- Only what the last discovery saw has a kind.
theorem surveyed_kinds {provider : HomeAssistantProvider} (hfresh : provider.kinds = .empty)
    (history : List Survey) {id : String}
    (h : ((provider.surveyed history).kinds.get? id).isSome) :
    ∃ entity ∈ latest history, entity.entityId = id := by
  induction history using List.reverseRecOn with
  | nil => simp [surveyed, hfresh] at h
  | append_singleton history survey ih =>
      rw [surveyed, List.foldl_concat] at h
      cases hentities : survey.entities with
      | none =>
          rw [discoverDevices_of_none hentities] at h
          simpa [latest, hentities] using ih h
      | some entities =>
          obtain ⟨rooms, hprovider, -⟩ := discoverDevices_of_some hentities
          rw [hprovider] at h
          rcases advertiseAll_kinds _ entities h with hbefore | hfound
          · simp at hbefore
          · simpa [latest, hentities] using hfound

end Discovered

section Execute

-- The points a call of execute comes to. The adapter may discover anew while it waits.
inductive Reached (float : String → Option PyFloat) (provider : HomeAssistantProvider)
    (ref : ProviderDeviceRef) (command : ProviderCommand) : Execution → Prop where
  | started : Reached float provider ref command (Execution.start provider ref command)
  | answered (later : HomeAssistantProvider) (now : Time) (exchange : Exchange)
      {execution : Execution} (h : Reached float provider ref command execution) :
      Reached float provider ref command (execution.answered later float now exchange)
  | slept {execution : Execution} (h : Reached float provider ref command execution) :
      Reached float provider ref command execution.slept

variable {float : String → Option PyFloat} {provider : HomeAssistantProvider}

theorem conclude_not_calling (now : Time) (asked other : Asked) (found : Option HaEntity) :
    Execution.conclude provider float now asked found ≠ .calling other := by
  unfold Execution.conclude
  split
  · simp
  · split <;> simp

theorem nextAttempt_not_calling (now : Time) (asked other : Asked) (attempt : Nat)
    (found : Option HaEntity) :
    Execution.nextAttempt provider float now asked attempt found ≠ .calling other := by
  unfold Execution.nextAttempt
  split
  · split <;> simp
  · exact conclude_not_calling now asked other found

theorem judge_not_calling (now : Time) (asked other : Asked) (changed : List HaEntity) :
    Execution.judge provider float now asked changed ≠ .calling other := by
  induction changed with
  | nil => exact nextAttempt_not_calling now asked other 0 none
  | cons entity rest ih =>
      unfold Execution.judge
      split
      · split
        · simp
        · unfold Execution.applied
          split <;> simp
        · exact ih
      · exact ih

-- No later point is another service call.
theorem answered_not_calling (now : Time) (exchange : Exchange) (execution : Execution)
    (asked : Asked) : execution.answered provider float now exchange ≠ .calling asked := by
  cases execution with
  | calling first =>
      simp only [Execution.answered]
      split
      · simp
      · exact judge_not_calling now first asked _
  | confirming first attempt found =>
      simp only [Execution.answered]
      split
      · exact nextAttempt_not_calling now first asked _ _
      · simp
      · split
        · simp
        · exact conclude_not_calling now first asked _
        · exact nextAttempt_not_calling now first asked _ _
  | sleeping first attempt found => simp [Execution.answered]
  | ended result => simp [Execution.answered]

theorem calling_of_reached {ref : ProviderDeviceRef} {command : ProviderCommand} {asked : Asked}
    (h : Reached float provider ref command (.calling asked)) :
    Execution.start provider ref command = .calling asked := by
  generalize hexecution : Execution.calling asked = execution at h
  induction h with
  | started => rfl
  | answered later now exchange h ih =>
      exact absurd hexecution.symm (answered_not_calling now exchange _ asked)
  | @slept execution h ih =>
      cases execution with
      | calling first => exact ih hexecution
      | confirming | sleeping | ended => cases hexecution

-- What execute checks before it calls a service.
theorem start_calling {ref : ProviderDeviceRef} {command : ProviderCommand} {asked : Asked}
    (h : Execution.start provider ref command = .calling asked) :
    asked.entityId = ref.providerDeviceId ∧ (provider.kinds.get? asked.entityId).isSome ∧
      domainOf asked.entityId ∈ provider.releasedDomains ∧
      domainOf asked.entityId ∈ RELEASABLE_DOMAINS := by
  unfold Execution.start at h
  split at h
  · cases h
  · split at h
    · cases h
    · next kind hkind =>
      dsimp only at h
      split at h
      · cases h
      · next hreleased =>
        split at h
        · cases h
        · cases h
          simp only [not_or, not_not] at hreleased
          exact ⟨rfl, by simp [hkind], hreleased.1, hreleased.2⟩

end Execute

section Advertised

variable {entity : HaEntity} {mapping : Mapping}

-- What stays when the writable capabilities are taken away.
theorem describe_readable (h : describe entity = .ok (some mapping)) {capability : Capability}
    (hcapability : capability ∈ mapping.capabilities) (hread : capability ∉ mapping.writable) :
    capability = .currentTemperature ∨ capability = .humidity := by
  unfold describe at h
  split at h
  · cases h
    exact absurd hcapability hread
  · cases h
    exact absurd hcapability hread
  · cases h
    exact absurd hcapability hread
  · cases h
    cases hcapability
  · cases hclimate : climate entity with
    | error error => simp [hclimate, Except.map] at h
    | ok found =>
        simp only [hclimate, Except.map, Except.ok.injEq, Option.some.injEq] at h
        subst h
        exact (climate_mapping entity hclimate).2 capability hcapability hread
  · obtain ⟨-, hsensor⟩ : True ∧ sensor entity = some mapping := ⟨trivial, by simpa using h⟩
    unfold sensor at hsensor
    split at hsensor
    · cases hsensor
      exact .inl (List.mem_singleton.mp hcapability)
    · cases hsensor
  · cases h

theorem actionSpecs_write (action : Action) :
    (ACTION_SPECS action).requiredCapability ≠ .currentTemperature ∧
      (ACTION_SPECS action).requiredCapability ≠ .humidity := by
  cases action <;> decide

-- No action is about a capability that is only read.
theorem requiredCapabilityFor_writes (action : Action) (params : CommandParams) :
    requiredCapabilityFor action params ≠ .currentTemperature ∧
      requiredCapabilityFor action params ≠ .humidity := by
  unfold requiredCapabilityFor
  split
  · split <;> decide
  · exact actionSpecs_write _

-- A device of a domain that is not released offers nothing an action could ask for.
theorem discovered_undeclared {provider : HomeAssistantProvider} {survey : Survey}
    {devices : List ProviderDevice} {device : ProviderDevice}
    (hdevices : (provider.discoverDevices survey).2 = .ok devices) (hdevice : device ∈ devices)
    (hunreleased : provider.releases (domainOf device.ref.providerDeviceId) = false)
    (action : Action) (params : CommandParams) :
    requiredCapabilityFor action params ∉ device.capabilities := by
  obtain ⟨entities, hentities⟩ : ∃ entities, survey.entities = some entities := by
    unfold Survey.entities
    unfold discoverDevices at hdevices
    split at hdevices <;> simp_all
  obtain ⟨rooms, -, hall⟩ := discoverDevices_of_some hentities
  obtain ⟨entity, -, mapping, hmapping, href, hcapabilities⟩ :=
    advertiseAll_devices _ entities (hall devices hdevices) hdevice
  have hdomain : provider.releases entity.domain = false := by
    rw [href] at hunreleased
    exact hunreleased
  have hfilter : device.capabilities =
      mapping.capabilities.filter (· ∉ mapping.writable) := by
    refine hcapabilities.trans (if_neg fun hreleases => ?_)
    exact Bool.false_ne_true (hdomain.symm.trans hreleases)
  intro hrequired
  rw [hfilter, List.mem_filter, decide_eq_true_eq] at hrequired
  have hread := describe_readable hmapping hrequired.1 hrequired.2
  have hwrites := requiredCapabilityFor_writes action params
  exact hread.elim hwrites.1 hwrites.2

end Advertised

-- A service is called for what was found in a released domain, and whatever else was found
-- is a device on which every action is refused, after any run of the commands.
theorem release_gate (float : String → Option PyFloat) (released : List String)
    (confirmAttempts : Nat) (history : List Survey) :
    let provider := ({ releasedDomains := released, confirmAttempts } :
      HomeAssistantProvider).surveyed history
    (∀ ref command asked, Reached float provider ref command (.calling asked) →
      ∃ entity ∈ latest history, entity.entityId = asked.entityId ∧
        entity.domain ∈ released ∧ entity.domain ∈ RELEASABLE_DOMAINS) ∧
    ∀ survey devices, (provider.discoverDevices survey).2 = .ok devices →
      ∀ found ∈ devices, ¬ (domainOf found.ref.providerDeviceId ∈ released ∧
          domainOf found.ref.providerDeviceId ∈ RELEASABLE_DOMAINS) →
        (∀ action params, requiredCapabilityFor action params ∉ found.capabilities) ∧
        ∀ clock coercion registry providers labels world deviceUuid roomUuid state call params,
          registry.get call.deviceId =
            some (DeviceRegistry.registered deviceUuid roomUuid found state) →
          Machine.run (Commands.World.step clock coercion) (Commands.initial registry providers)
            labels = some world →
          Commands.CommandService.validate coercion call.action call.parameters = .ok params →
          (world.submit clock coercion call).2 = .refused .capabilityNotSupported := by
  intro provider
  have hreleased : provider.releasedDomains = released := surveyed_releasedDomains _ history
  refine ⟨fun ref command asked hreached => ?_, fun survey devices hdevices found hfound hout => ?_⟩
  · obtain ⟨-, hkind, hdomain, hreleasable⟩ := start_calling (calling_of_reached hreached)
    obtain ⟨entity, hentity, hid⟩ := surveyed_kinds rfl history hkind
    rw [← hid] at hdomain hreleasable
    exact ⟨entity, hentity, hid, hreleased ▸ hdomain, hreleasable⟩
  · have hunreleased : provider.releases (domainOf found.ref.providerDeviceId) = false := by
      simpa [HomeAssistantProvider.releases, hreleased] using hout
    have hundeclared := discovered_undeclared hdevices hfound hunreleased
    refine ⟨hundeclared, ?_⟩
    intro clock coercion registry providers labels world deviceUuid roomUuid state call params
      hregistered hrun hparams
    have hdeclared : world.service.registry.declared call.deviceId = some found.capabilities := by
      rw [Commands.run_declared hrun, DeviceRegistry.declared, hregistered]
      rfl
    exact Commands.submit_undeclared hdeclared hparams (hundeclared call.action params)

end Homeflow.HomeAssistant
