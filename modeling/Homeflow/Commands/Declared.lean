import Homeflow.Commands.Moves

namespace Homeflow

-- A part of every device.
def DeviceRegistry.each {α : Type} (registry : DeviceRegistry) (part : Device → α) (id : Uuid) :
    Option α := (registry.get id).map part

-- The capabilities of a device, as they were declared when it was registered.
def DeviceRegistry.declared (registry : DeviceRegistry) (id : Uuid) : Option (List Capability) :=
  (registry.get id).map Device.capabilities

-- A part that observations leave as it is.
def Device.Lasts {α : Type} (part : Device → α) : Prop :=
  ∀ device state availability observedAt source,
    part (DeviceRegistry.merged device state availability observedAt source) = part device

section Each

variable {α : Type} {part : Device → α}

-- An observation changes what a device is, but not what it can do.
theorem DeviceService.ingest_each (hpart : Device.Lasts part) (clock : Nat → Time)
    (service : DeviceService) (ref : ProviderDeviceRef) (state : ProviderState)
    (source : StateSource) (correlationId : Option String) :
    (service.ingest clock ref state source correlationId).registry.each part =
      service.registry.each part := by
  unfold ingest
  split
  · rfl
  · split
    · rfl
    · next deviceId before hbefore =>
      dsimp only
      split
      · rw [withDerived_registry]
      · next registry after happly =>
        obtain ⟨current, hcurrent, rfl, hafter, -, -⟩ := DeviceRegistry.apply_eq_some happly
        funext id
        simp only [publishTransitions, DeviceRegistry.each, hafter]
        split
        · next hid =>
          subst hid
          rw [hcurrent, Option.map_some, Option.map_some, hpart]
        · rfl

end Each

namespace Commands

open CommandService

variable {clock : Nat → Time} {coercion : Coercion} {world after : World}

section Operations

variable {α : Type} {part : Device → α} (service : CommandService)

theorem finish_registry (command : Command) (status : CommandStatus)
    (failureCode : Option String) :
    (finish clock service command status failureCode).1.registry = service.registry := by
  unfold finish
  cases COMPLETION_EVENTS status <;> rfl

theorem ingest_each (hpart : Device.Lasts part) (ref : ProviderDeviceRef) (state : ProviderState)
    (source : StateSource) (correlationId : Option String) :
    (service.ingest clock ref state source correlationId).registry.each part =
      service.registry.each part :=
  DeviceService.ingest_each hpart clock _ ref state source correlationId

theorem afterExecute_each (hpart : Device.Lasts part) {running : Command} {ref : ProviderDeviceRef}
    {outcome : AdapterOutcome ProviderCommandResult} {ended : CommandService × Command}
    (h : afterExecute clock service running ref outcome = some ended) :
    ended.1.registry.each part = service.registry.each part := by
  cases outcome with
  | returned result =>
      obtain rfl := Option.some.inj h
      have hingested : (ingestResult clock service running ref result).registry.each part =
          service.registry.each part := by
        unfold ingestResult
        cases result.state with
        | none => rfl
        | some state => exact ingest_each _ hpart _ _ _ _
      unfold settle
      cases result.outcome <;> rw [finish_registry, hingested]
  | raised error =>
      cases error with
      | timeoutError => cases h
      | providerError failureCode | other =>
          obtain rfl := Option.some.inj h
          rw [finish_registry]
  | deadline => cases h

theorem afterGetState_each (hpart : Device.Lasts part) (running : Command)
    (ref : ProviderDeviceRef) (params : CommandParams) (outcome : AdapterOutcome ProviderState) :
    (afterGetState clock service running ref params outcome).1.registry.each part =
      service.registry.each part := by
  cases outcome with
  | returned observed =>
      simp only [afterGetState]
      split <;> rw [finish_registry, ingest_each _ hpart]
  | raised error | deadline => simp only [afterGetState, finish_registry]

theorem check_registry (call : SubmitCall) :
    (check clock coercion service call).1.registry = service.registry := by
  rcases check_denies clock coercion service call with hsame | ⟨device, reason, hdenied⟩
  · rw [hsame]
  · rw [hdenied, auditDenied]

end Operations

section Each

variable {α : Type} {part : Device → α}

theorem step_each (hpart : Device.Lasts part) {label : Label}
    (hstep : World.step clock coercion world label = some after) :
    after.service.registry.each part = world.service.registry.each part := by
  have hsame : ∀ {registry : DeviceRegistry}, registry = world.service.registry →
      registry.each part = world.service.registry.each part := fun hregistry => by rw [hregistry]
  cases step_moved hstep with
  | @refused call _ _ hcheck =>
      have hregistry := @check_registry clock coercion world.service call
      rw [hcheck] at hregistry
      exact hsame hregistry
  | unwired => exact hsame (finish_registry _ _ _ _)
  | joined => exact hsame (join_registry _ _ _ _ _)
  | entered | timedOut | abandoned | interrupted => rfl
  | @ended id _ outcome _ _ _ hended =>
      exact afterExecute_each (world.service.emit (.executeEnded id outcome)) hpart hended
  | reconciled => exact afterGetState_each _ hpart _ _ _ _
  | ingested => exact ingest_each _ hpart _ _ _ _

-- What lasts is what it was at the start, after any run.
theorem run_each (hpart : Device.Lasts part) {start final : World} {labels : List Label}
    (hrun : Machine.run (World.step clock coercion) start labels = some final) :
    final.service.registry.each part = start.service.registry.each part := by
  let inv : World → Prop := fun world =>
    world.service.registry.each part = start.service.registry.each part
  have hinv : inv final := Machine.invariant rfl
    (fun _ _ _ hbefore hstep => (step_each hpart hstep).trans hbefore) hrun
  exact hinv

end Each

-- What a device can do is what its adapter declared, after any run.
theorem run_declared {registry : DeviceRegistry} {providers : List String} {labels : List Label}
    (hrun : Machine.run (World.step clock coercion) (initial registry providers) labels =
      some world) : world.service.registry.declared = registry.declared :=
  run_each (fun _ _ _ _ _ => rfl) hrun

-- A call that needs a capability the device does not declare is refused for that.
theorem submit_undeclared {call : SubmitCall} {params : CommandParams}
    {capabilities : List Capability}
    (hdeclared : world.service.registry.declared call.deviceId = some capabilities)
    (hparams : validate coercion call.action call.parameters = .ok params)
    (hmissing : requiredCapabilityFor call.action params ∉ capabilities) :
    (world.submit clock coercion call).2 = .refused (.capabilityNotSupported) := by
  obtain ⟨device, hdevice, rfl⟩ := Option.map_eq_some_iff.mp hdeclared
  have hsupports : device.supports (requiredCapabilityFor call.action params) = false := by
    simpa [Device.supports] using hmissing
  have hget : world.service.registry.get call.deviceId = some device := hdevice
  simp [World.submit, check, hget, hparams, hsupports]

end Commands

end Homeflow
