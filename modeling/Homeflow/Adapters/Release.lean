import Homeflow.Adapters.World
import Homeflow.Bestway.Discovery

namespace Homeflow.Adapters

variable {clock : Nat → Time} {coercion : Coercion} {wiring : Wiring} {world after : World}

section Flight

-- Every call that is under way has a property.
def InFlight (property : Adapter → Prop) (world : World) : Prop :=
  ∀ id adapter, world.adapters.get? id = some adapter → property adapter

variable {property : Adapter → Prop}

theorem inFlight_act {label : Commands.Label} (h : InFlight property world)
    (hact : world.act clock coercion label = some after) : InFlight property after := by
  obtain ⟨pipeline, -, rfl⟩ := Option.map_eq_some_iff.mp hact
  exact h

theorem inFlight_forget {id : Uuid} (h : InFlight property world) :
    InFlight property (world.forget id) :=
  fun other adapter hadapter => h other adapter (OrderedDict.get?_erase_eq_some.mp hadapter).2

theorem inFlight_settle {id : Uuid} {now : Time} {adapter : Adapter}
    (h : InFlight property world) (hadapter : property adapter)
    (hsettle : world.settle clock coercion wiring id now adapter = some after) :
    InFlight property after := by
  unfold World.settle at hsettle
  split at hsettle
  · exact inFlight_act (inFlight_forget h) hsettle
  · obtain rfl := Option.some.inj hsettle
    intro other found hfound
    rcases OrderedDict.get?_set_eq_some.mp hfound with ⟨-, rfl⟩ | ⟨-, hbefore⟩
    · exact hadapter
    · exact h other found hbefore

-- It has it when it starts, and keeps it.
theorem inFlight_step {label : Label}
    (hstart : ∀ id task adapter, world.pipeline.tasks.get? id = some task →
      Adapter.start wiring task.ref ⟨task.running.action, task.params⟩ = some adapter →
      property adapter)
    (hkeep : ∀ now event adapter next, property adapter →
      adapter.step wiring now event = some next → property next)
    (h : InFlight property world)
    (hstep : world.step clock coercion wiring label = some after) : InFlight property after := by
  cases label with
  | pipeline label =>
      cases label with
      | executeReturns id outcome =>
          simp only [World.step] at hstep
          split at hstep
          · exact inFlight_act h hstep
          · cases hstep
      | cancelTask id => exact inFlight_act (inFlight_forget h) hstep
      | submit | enter | getStateReturns | ingest => exact inFlight_act h hstep
  | begin id now =>
      simp only [World.step] at hstep
      split at hstep
      · next task htask _ =>
        split at hstep
        · obtain ⟨adapter, hadapter, hsettle⟩ := Option.bind_eq_some_iff.mp hstep
          exact inFlight_settle h (hstart id task adapter htask hadapter) hsettle
        · cases hstep
      · cases hstep
  | event id now event =>
      obtain ⟨adapter, hadapter, hstep⟩ := Option.bind_eq_some_iff.mp hstep
      obtain ⟨next, hnext, hsettle⟩ := Option.bind_eq_some_iff.mp hstep
      have hflight : InFlight property { world with
          sent := if adapter.unsent event then world.sent.filter (· ≠ id) else world.sent } := h
      exact inFlight_settle hflight (hkeep now event adapter next (h id adapter hadapter) hnext)
        hsettle
  | deadline id =>
      simp only [World.step] at hstep
      split at hstep
      · exact inFlight_act (inFlight_forget h) hstep
      · cases hstep

theorem inFlight_run {registry : DeviceRegistry} {providers : List String} {labels : List Label}
    (hstart : ∀ ref command adapter, Adapter.start wiring ref command = some adapter →
      property adapter)
    (hkeep : ∀ now event adapter next, property adapter →
      adapter.step wiring now event = some next → property next)
    (hrun : Machine.run (World.step clock coercion wiring) (initial registry providers) labels =
      some world) : InFlight property world := by
  have hinitial : InFlight property (initial registry providers) := fun id adapter hadapter => by
    simp [initial] at hadapter
  exact Machine.invariant hinitial
    (fun _ _ _ hbefore hstep => inFlight_step
      (fun _ _ adapter _ hadapter => hstart _ _ adapter hadapter) hkeep hbefore hstep) hrun

end Flight

-- A control request that is about to be sent, with the block it modifies.
def Adapter.request : Adapter → Option (Bestway.ControlRequest × Bestway.Bytes)
  | .bestway (.writing request base) => some (request, base)
  | _ => none

-- It is what the layout encodes for its datapoint.
def Encoded (profile : Bestway.DatapointProfile) (adapter : Adapter) : Prop :=
  ∀ request base, adapter.request = some (request, base) →
    profile.encodeControl request.datapoint request.value base =
      .ok (some (request.attrFlags, request.attrVals))

section Encoded

open Bestway (Execution)

variable {now : Time} {event : Event} {adapter next : Adapter} {provider : Bestway.BestwayProvider}

theorem encoded_prepare (datapoint : Bestway.Datapoint) (params : CommandParams)
    (base : Bestway.Bytes) :
    Encoded provider.profile (.bestway (Execution.prepare provider (fun payload => payload)
      datapoint params base)) := by
  unfold Execution.prepare
  intro request block hrequest
  split at hrequest
  · cases hrequest
  · split at hrequest
    · cases hrequest
    · split at hrequest
      · cases hrequest
      · cases hrequest
      · next hencode =>
        cases hrequest
        exact hencode

theorem request_conclude (datapoint : Bestway.Datapoint) (value : Bestway.Value)
    (observed : Option Bestway.Bytes) :
    (Adapter.bestway (Execution.conclude provider (fun payload => payload) datapoint value
      observed)).request = none := by
  unfold Execution.conclude
  split
  · rfl
  · split <;> rfl

theorem request_nextAttempt (datapoint : Bestway.Datapoint) (value : Bestway.Value)
    (attempt : Nat) (observed : Option Bestway.Bytes) :
    (Adapter.bestway (Execution.nextAttempt provider (fun payload => payload) datapoint value
      attempt observed)).request = none := by
  unfold Execution.nextAttempt
  split
  · split <;> rfl
  · exact request_conclude datapoint value observed

theorem encoded_of_none {profile : Bestway.DatapointProfile} (h : adapter.request = none) :
    Encoded profile adapter := fun request base hrequest => by simp [h] at hrequest

-- Only the end of the read before the write comes to a request.
theorem encoded_readEnds (execution : Execution Bestway.Bytes)
    (hbefore : Encoded provider.profile (.bestway execution))
    (reading : Except Bestway.ClientError Bestway.Bytes) :
    Encoded provider.profile
      (.bestway (execution.readEnds provider (fun payload => payload) reading)) := by
  unfold Execution.readEnds
  split
  · exact encoded_of_none rfl
  · exact encoded_prepare _ _ _
  · exact encoded_of_none rfl
  · exact encoded_of_none (request_nextAttempt _ _ _ _)
  · split
    · exact encoded_of_none (request_nextAttempt _ _ _ _)
    · split
      · exact encoded_of_none (request_conclude _ _ _)
      · exact encoded_of_none (request_nextAttempt _ _ _ _)
  · exact hbefore

theorem encoded_start (ref : ProviderDeviceRef) (command : ProviderCommand)
    (h : Adapter.start wiring ref command = some adapter) :
    Encoded wiring.bestway.profile adapter := by
  unfold Adapter.start at h
  split at h
  · obtain rfl := Option.some.inj h
    exact encoded_of_none rfl
  · split at h
    · obtain rfl := Option.some.inj h
      refine encoded_of_none ?_
      unfold Execution.start
      split
      · rfl
      · split <;> rfl
    · cases h

theorem encoded_step (hbefore : Encoded wiring.bestway.profile adapter)
    (hstep : adapter.step wiring now event = some next) :
    Encoded wiring.bestway.profile next := by
  unfold Adapter.step at hstep
  split at hstep
  · obtain rfl := Option.some.inj hstep
    exact encoded_of_none rfl
  · obtain rfl := Option.some.inj hstep
    exact encoded_of_none rfl
  · obtain rfl := Option.some.inj hstep
    exact encoded_of_none rfl
  · obtain rfl := Option.some.inj hstep
    exact encoded_readEnds _ hbefore _
  · obtain rfl := Option.some.inj hstep
    exact encoded_of_none rfl
  · obtain rfl := Option.some.inj hstep
    exact encoded_of_none rfl
  · obtain rfl := Option.some.inj hstep
    exact encoded_of_none (request_nextAttempt _ _ _ _)
  · obtain rfl := Option.some.inj hstep
    exact encoded_of_none rfl
  · obtain rfl := Option.some.inj hstep
    exact encoded_readEnds _ hbefore _
  · obtain rfl := Option.some.inj hstep
    exact encoded_of_none rfl
  · cases hstep

end Encoded

-- Whatever a layout says of itself, a control request is sent for a datapoint the operator
-- has named in a layout the operator trusts, and just these datapoints are advertised.
theorem bestway_release_gate {read : String → Option Bestway.Layout}
    {settings : Bestway.GatewaySettings} {provider : Bestway.BestwayProvider}
    (hbuild : Bestway.buildProvider read settings = some (some provider)) :
    (∀ clock coercion homeAssistant float registry providers labels world,
      Machine.run (World.step clock coercion ⟨homeAssistant, provider, float⟩)
        (initial registry providers) labels = some world →
      ∀ id adapter request base, world.adapters.get? id = some adapter →
        adapter.request = some (request, base) →
        settings.bestwayTrustProfile = true ∧
          request.datapoint.value ∈ settings.bestwayWriteEnabled ∧
          provider.profile.encodeControl request.datapoint request.value base =
            .ok (some (request.attrFlags, request.attrVals))) ∧
    ∀ displayName roomHint,
      (settings.bestwayTrustProfile = false → provider.discoverDevices displayName roomHint = []) ∧
      ∀ device ∈ provider.discoverDevices displayName roomHint, ∀ datapoint,
        Bestway.Offers device datapoint ↔
          datapoint.value ∈ settings.bestwayWriteEnabled ∧
            datapoint ≠ .currentTemperature := by
  constructor
  · intro clock coercion homeAssistant float registry providers labels world hrun id adapter
      request base hadapter hrequest
    let wiring : Wiring := ⟨homeAssistant, provider, float⟩
    have hflight : InFlight (Encoded wiring.bestway.profile) world :=
      inFlight_run (fun ref command _ => encoded_start ref command)
        (fun now event _ _ => encoded_step) hrun
    have hencode := hflight id adapter hadapter request base hrequest
    have hwrite := (Bestway.DatapointProfile.encodeControl_of_ok hencode).1
    have hnamed := (Bestway.mayWrite_of_build (Bestway.buildProvider_profile hbuild)
      request.datapoint).mp hwrite
    exact ⟨hnamed.1, hnamed.2, hencode⟩
  · intro displayName roomHint
    exact ⟨fun huntrusted =>
        Bestway.discoverDevices_untrusted hbuild huntrusted displayName roomHint,
      fun device hdevice => Bestway.offers_iff hbuild hdevice⟩

def heaterHost : String := "192.168.0.9"

theorem heaterHost_ne : heaterHost ≠ "" := by decide

def heaterGateway : Bestway.GatewaySettings where
  toSettings := Bestway.heaterReleased
  demoMode := false
  bestwayEnabled := true
  bestwayHost := some heaterHost
  host_given := fun _ => ⟨heaterHost, rfl, heaterHost_ne⟩
  writes_trusted := fun _ => rfl
  not_demo := fun _ => rfl

theorem bestway_release_gate_heater : ∃ provider,
    Bestway.buildProvider (fun _ => none) heaterGateway = some (some provider) ∧
      ∀ device ∈ provider.discoverDevices,
        Bestway.Offers device .heater ∧ ¬Bestway.Offers device .bubbles := by
  obtain ⟨profile, hprofile⟩ := Option.isSome_iff_exists.mp
    (show (Bestway.buildBestwayProfile (fun _ => none) heaterGateway.toSettings).isSome = true by
      decide +kernel)
  have hbuild : Bestway.buildProvider (fun _ => none) heaterGateway =
      some (some { profile }) := by
    unfold Bestway.buildProvider
    rw [if_neg (by decide), if_pos (by decide), hprofile]
    rfl
  refine ⟨_, hbuild, fun device hdevice => ?_⟩
  have hoffers := ((bestway_release_gate hbuild).2 "Pool" (some "Terrace")).2 device hdevice
  exact ⟨(hoffers .heater).mpr (by decide), fun h => absurd ((hoffers .bubbles).mp h).1 (by decide)⟩

end Homeflow.Adapters
