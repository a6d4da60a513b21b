import Homeflow.Demo.Mirror

-- What the gateway keeps of a device for good, and what it adds to it.
namespace Homeflow

-- What a device is registered with.
def Device.nameplate (device : Device) : Uuid × String × DeviceKind × Option Uuid ×
    Option String × List Capability × DeviceConstraints :=
  (device.id, device.displayName, device.kind, device.roomId, device.roomName,
    device.capabilities, device.constraints)

-- The filter, and when it was seen to start.
def Device.filtering (device : Device) : Option Bool × Option Time :=
  (device.state.filterPump, device.state.filterLastStartedAt)

-- A version of the device that shows the filter to have come on is dated, any other one
-- keeps the date.
def Dates (moment : Time) (before after : Device) : Prop :=
  after.state.filterLastStartedAt =
    if after.state.filterPump = some true ∧ before.state.filterPump ≠ some true then some moment
    else before.state.filterLastStartedAt

theorem dates_refl (moment : Time) (device : Device) : Dates moment device device := by
  rw [Dates, if_neg fun h => h.2 h.1]

theorem dates_of_filtering {moment : Time} {before after : Device}
    (h : after.filtering = before.filtering) : Dates moment before after := by
  obtain ⟨hpump, hdate⟩ := Prod.mk.inj h
  rw [Dates, hpump, hdate, if_neg fun h => h.2 h.1]

namespace DeviceService

variable (clock : Nat → Time) (service : DeviceService) {ref : ProviderDeviceRef}
  {state : ProviderState} {source : StateSource} {correlationId : Option String} {id : Uuid}
  {before after : Device}

-- An adapter that knows nothing of that date leaves it to the gateway.
theorem merged_dates (hunmade : state.state.filterLastStartedAt = none) (observedAt : Time) :
    Dates (clock service.reads) before
      (DeviceRegistry.merged before (withDerived clock service before state.state).2
        state.availability observedAt source) := by
  unfold withDerived
  split
  · next hstarts =>
    have hon : (state.state.filterPump <|> before.state.filterPump) = some true := by
      rw [hstarts.1]
      rfl
    exact (if_pos ⟨hon, hstarts.2⟩).symm
  · next hstarts =>
    have hkept : ∀ observed : DeviceState, observed.filterPump = state.state.filterPump →
        (observed.filterLastStartedAt <|> before.state.filterLastStartedAt) =
          before.state.filterLastStartedAt →
        Dates (clock service.reads) before
          (DeviceRegistry.merged before observed state.availability observedAt source) := by
      intro observed hpump hdate
      refine hdate.trans (if_neg ?_).symm
      rintro ⟨hon, hoff⟩
      change (observed.filterPump <|> before.state.filterPump) = some true at hon
      rw [hpump] at hon
      cases hobserved : state.state.filterPump with
      | none => exact hoff (by simpa [hobserved] using hon)
      | some running => exact hstarts ⟨by simpa [hobserved] using hon, hoff⟩
    rw [hunmade]
    split
    · next remembered _ hremembered _ => exact hkept _ rfl (by rw [hremembered]; rfl)
    · exact hkept _ rfl (by rw [hunmade]; rfl)

theorem ingest_dates (hunmade : state.state.filterLastStartedAt = none)
    (hbefore : service.registry.get id = some before)
    (hafter : (service.ingest clock ref state source correlationId).registry.get id = some after) :
    Dates (clock service.reads) before after := by
  by_cases hown : service.registry.idForRef ref = some id
  · have hmerged := @ingest_merged clock service ref state source correlationId id before hown
      hbefore
    obtain rfl := Option.some.inj (hmerged.1.symm.trans hafter)
    exact merged_dates clock service hunmade _
  · rw [ingest_other clock service _ _ _ hown] at hafter
    obtain rfl := Option.some.inj (hbefore.symm.trans hafter)
    exact dates_refl _ _

end DeviceService

namespace Demo

open Commands (CommandService)

variable {clock : Nat → Time} {coercion : Coercion} {deviceUuid : ProviderDeviceRef → Uuid}
  {roomUuid : String → Uuid} {world after : World}

section Each

variable {α : Type} {part : Device → α}

theorem each_ingested (hpart : Device.Lasts part) (service : CommandService)
    (events : List ProviderEvent) :
    (World.ingested clock service events).registry.each part = service.registry.each part := by
  induction events generalizing service with
  | nil => rfl
  | cons event rest ih =>
      exact (ih _).trans (Commands.ingest_each service hpart _ _ _ _)

-- What lasts is not touched by any step.
theorem each_step (hpart : Device.Lasts part) {label : Label}
    (hstep : world.step clock coercion label = some after) :
    after.pipeline.service.registry.each part = world.pipeline.service.registry.each part := by
  have hact : ∀ {before next : World} {label : Commands.Label},
      before.act clock coercion label = some next →
        next.pipeline.service.registry.each part = before.pipeline.service.registry.each part := by
    intro before next label h
    obtain ⟨pipeline, hnext, rfl⟩ := act_eq_some h
    exact Commands.step_each hpart hnext
  cases label with
  | submit | enter | cancelTask | deadline => exact hact hstep
  | executed id random now =>
      obtain ⟨task, -, hnext⟩ := Option.bind_eq_some_iff.mp hstep
      rcases hresult : world.household.execute task.ref ⟨task.running.action, task.params⟩ random
        now with ⟨household, result⟩
      rw [hresult] at hnext
      have hkept := @hact { world with household } after (.executeReturns id (ended result)) hnext
      exact hkept
  | readBack =>
      obtain ⟨task, -, hnext⟩ := Option.bind_eq_some_iff.mp hstep
      exact hact hnext
  | tick elapsedSeconds now =>
      obtain rfl := Option.some.inj hstep
      exact each_ingested hpart _ _

end Each

section Tick

theorem advanceAppliance_pump (state : DeviceState) (simulatedSeconds : ℚ) :
    (advanceAppliance state simulatedSeconds).filterPump = state.filterPump := by
  unfold advanceAppliance
  split
  · dsimp only
    split
    · rfl
    · split <;> rfl
  · rfl

theorem ticked_pump (simulatedSeconds : ℚ) (device : DemoDevice) :
    (device.ticked simulatedSeconds).state.filterPump = device.state.filterPump := by
  unfold DemoDevice.ticked
  split
  · rfl
  · unfold advance
    dsimp only
    split
    · unfold advancePool
      split
      · rfl
      · split
        · rfl
        · split <;> rfl
    · exact advanceAppliance_pump _ _
    · exact advanceAppliance_pump _ _
    · rfl

variable {service : CommandService} {device : DemoDevice}

-- An observation that shows the filter as it was keeps its date.
theorem filtering_ingest (h : Known deviceUuid roomUuid service.registry device)
    {state : DeviceState} (hstate : Overlay device.state state)
    (hpump : state.filterPump = device.state.filterPump) (now : Time) (source : StateSource)
    (correlationId : Option String) :
    (service.ingest clock device.ref (snapshot { device with state := state } now) source
      correlationId).registry.each Device.filtering =
        service.registry.each Device.filtering := by
  have hknown := @known_ingest roomUuid clock deviceUuid service device h state hstate now source
    correlationId
  obtain ⟨changes, hmade, rfl⟩ := hstate
  obtain ⟨-, hid, held, hget, hreflects⟩ := h
  obtain ⟨-, -, later, hlater, hshows⟩ := hknown
  have hunmade : (snapshot { device with state := device.state.mergedWith changes }
      now).state.filterLastStartedAt = none := by
    change (changes.filterLastStartedAt <|> device.state.filterLastStartedAt) = none
    rw [hmade, hreflects.unmade]
    rfl
  have hsame : later.state.filterPump = held.state.filterPump := by
    rw [← reported_field .filterPump, ← reported_field .filterPump held.state, hshows.state,
      hreflects.state]
    exact hpump
  let devices : DeviceService := { registry := service.registry, reads := service.reads }
  funext id
  by_cases hown : id = deviceUuid device.ref
  · subst hown
    have hdates : Dates (clock service.reads) held later :=
      DeviceService.ingest_dates clock devices hunmade hget hlater
    rw [Dates, hsame, if_neg fun h => h.2 h.1] at hdates
    have hfiltering : later.filtering = held.filtering := Prod.ext hsame hdates
    rw [DeviceRegistry.each, DeviceRegistry.each, hget, Option.map_some, ← hfiltering]
    exact congrArg (Option.map Device.filtering) hlater
  · have hother := @DeviceService.ingest_other clock devices device.ref
      (snapshot { device with state := device.state.mergedWith changes } now) source correlationId
      id fun hsome => hown (Option.some.inj (hsome.symm.trans hid))
    exact congrArg (Option.map Device.filtering) hother

theorem filtering_events (simulatedSeconds : ℚ) (now : DemoDevice → Time)
    (hseparates : Separates deviceUuid) {devices : List DemoDevice}
    (hrefs : (devices.map DemoDevice.ref).Nodup)
    (hknown : ∀ device ∈ devices, Known deviceUuid roomUuid service.registry device) :
    (World.ingested clock service
        (tickEvents simulatedSeconds now devices)).registry.each Device.filtering =
      service.registry.each Device.filtering := by
  induction devices generalizing service with
  | nil => rfl
  | cons device rest ih =>
      obtain ⟨hfresh, hrest⟩ := List.nodup_cons.mp hrefs
      have hfirst := hknown device List.mem_cons_self
      obtain ⟨-, hothers⟩ := known_event clock simulatedSeconds now hseparates hfirst
      rw [ingested_cons, ih hrest fun other hother =>
        hothers other (hknown other (List.mem_cons_of_mem _ hother)) fun heq =>
          hfresh (heq ▸ List.mem_map_of_mem hother)]
      have hstate := ticked_overlay simulatedSeconds device
      have hpump := ticked_pump simulatedSeconds device
      have hticked := ticked_eq simulatedSeconds device
      generalize (device.ticked simulatedSeconds).state = state at hstate hpump hticked
      simp only [tickEvents, List.filterMap_cons, List.filterMap_nil, hticked]
      by_cases hsame : state = device.state
      · rw [if_pos hsame]
        rfl
      · rw [if_neg hsame]
        exact filtering_ingest hfirst hstate hpump _ _ _

end Tick

-- Every step dates the filters that it shows to have come on, by the reading of the clock that
-- it begins with.
theorem dates_step (hseparates : Separates deviceUuid)
    (h : Mirrors deviceUuid roomUuid world.household world.pipeline.service.registry)
    {label : Label} (hstep : world.step clock coercion label = some after) {id : Uuid}
    {held later : Device} (hheld : world.pipeline.service.registry.get id = some held)
    (hlater : after.pipeline.service.registry.get id = some later) :
    Dates (clock world.pipeline.service.reads) held later := by
  have hquiet : after.pipeline.service.registry = world.pipeline.service.registry →
      Dates (clock world.pipeline.service.reads) held later := by
    intro hsame
    rw [hsame] at hlater
    obtain rfl := Option.some.inj (hheld.symm.trans hlater)
    exact dates_refl _ _
  -- One observation of a device of the household.
  have hingests : ∀ {service : CommandService} {ref : ProviderDeviceRef} {state : ProviderState}
      {source : StateSource} {correlationId : Option String},
      service.registry = world.pipeline.service.registry →
      service.reads = world.pipeline.service.reads → state.state.filterLastStartedAt = none →
      after.pipeline.service.registry =
        (service.ingest clock ref state source correlationId).registry →
      Dates (clock world.pipeline.service.reads) held later := by
    intro service ref state source correlationId hregistry hreads hunmade hingested
    rw [hingested] at hlater
    rw [← hregistry] at hheld
    rw [← hreads]
    exact DeviceService.ingest_dates clock
      { registry := service.registry, reads := service.reads } hunmade hheld hlater
  cases label with
  | submit call =>
      obtain ⟨pipeline, hnext, rfl⟩ := act_eq_some hstep
      exact hquiet (registry_submit hnext)
  | enter id =>
      obtain ⟨pipeline, hnext, rfl⟩ := act_eq_some hstep
      exact hquiet (registry_enter hnext)
  | cancelTask id =>
      obtain ⟨pipeline, hnext, rfl⟩ := act_eq_some hstep
      exact hquiet (registry_cancelTask hnext)
  | deadline id =>
      obtain ⟨pipeline, hnext, rfl⟩ := act_eq_some hstep
      exact hquiet (registry_unanswered (by simp) hnext)
  | executed id random now =>
      obtain ⟨task, htask, hact⟩ := Option.bind_eq_some_iff.mp hstep
      rcases hresult : world.household.execute task.ref ⟨task.running.action, task.params⟩ random
        now with ⟨household, result⟩
      rw [hresult] at hact
      obtain ⟨pipeline, hnext, rfl⟩ := act_eq_some hact
      cases result with
      | ok result =>
          obtain ⟨device, hdevice, -, rfl, rfl⟩ := execute_applied hresult
          obtain ⟨service, hregistry, hreads, hingested⟩ := registry_answered rfl htask hnext
          obtain ⟨-, -, shown, -, hreflects⟩ := h.known _ device (require_eq_some hdevice).1
          obtain ⟨changes, hmade, happlied⟩ :=
            apply_overlay device.state ⟨task.running.action, task.params⟩
          refine hingests hregistry hreads ?_ hingested
          rw [snapshot, happlied]
          change (changes.filterLastStartedAt <|> device.state.filterLastStartedAt) = none
          rw [hmade, hreflects.unmade]
          rfl
      | error error =>
          obtain ⟨rfl, rfl⟩ := execute_error hresult
          exact hquiet (registry_unanswered (by simp [ended]) hnext)
  | readBack id now =>
      obtain ⟨task, htask, hact⟩ := Option.bind_eq_some_iff.mp hstep
      obtain ⟨pipeline, hnext, rfl⟩ := act_eq_some hact
      unfold DemoProvider.getState at hnext
      split at hnext
      · next device hdevice =>
        obtain ⟨service, hregistry, hreads, hingested⟩ := registry_readBack htask hnext
        obtain ⟨-, -, shown, -, hreflects⟩ := h.known _ device (require_eq_some hdevice).1
        exact hingests hregistry hreads hreflects.unmade hingested
      · exact hquiet (registry_unread hnext)
  | tick elapsedSeconds now =>
      obtain rfl := Option.some.inj hstep
      have hkept := @filtering_events clock deviceUuid roomUuid world.pipeline.service
        (elapsedSeconds * world.household.timeScale) now hseparates world.household.devices.values
        (nodup_refs h.keyed) fun device hdevice => by
          obtain ⟨key, hkey⟩ := (OrderedDict.mem_values_iff _ _).mp hdevice
          exact h.known key device hkey
      have hsame := congrFun hkept id
      have hlater' : (World.ingested clock world.pipeline.service (tickEvents
          (elapsedSeconds * world.household.timeScale) now
          world.household.devices.values)).registry.get id = some later := hlater
      rw [DeviceRegistry.each, DeviceRegistry.each, hlater', hheld] at hsame
      exact dates_of_filtering (Option.some.inj hsame)

section Start

variable {household : DemoProvider} {now : ProviderDeviceRef → Time}

theorem adopted_undated {devices : List DemoDevice}
    (hunmade : ∀ device ∈ devices, device.state.filterLastStartedAt = none)
    {service : DeviceService} (h : ∀ id held, service.registry.get id = some held →
      held.state.filterLastStartedAt = none) {id : Uuid} {held : Device}
    (hheld : (DeviceService.adopt clock deviceUuid roomUuid service
      (devices.map (answer now))).1.registry.get id = some held) :
    held.state.filterLastStartedAt = none := by
  induction devices generalizing service with
  | nil => exact h id held hheld
  | cons device rest ih =>
      refine ih (fun other hother => hunmade other (List.mem_cons_of_mem _ hother))
        (fun other found hfound => ?_) hheld
      obtain ⟨-, rfl⟩ | ⟨-, hold⟩ := OrderedDict.get?_set_eq_some.mp hfound
      · exact hunmade device List.mem_cons_self
      · exact h other found hold

-- At the start no filter has been seen to come on.
theorem initial_undated (h : Household household) {id : Uuid} {held : Device}
    (hheld : (initial clock deviceUuid roomUuid household now).pipeline.service.registry.get id =
      some held) : held.state.filterLastStartedAt = none := by
  change (DeviceService.bootstrap clock deviceUuid roomUuid _ _).1.registry.get id = _ at hheld
  rw [DeviceService.bootstrap_eq, List.flatMap_singleton, answers_found h] at hheld
  refine adopted_undated (fun device hdevice => ?_) (fun _ _ hnone => by cases hnone) hheld
  obtain ⟨key, hkey⟩ := (OrderedDict.mem_values_iff _ _).mp hdevice
  exact h.unmade key device hkey

end Start

section Runs

variable {digest : String → String → Uuid} {casefold : String → String} {salt : String}

-- Whatever commands, deadlines and ticks come in whatever order: the registry shows each
-- device of the household as it is then, and no others, under what it was registered with, and
-- its filter with the date of the step that showed it to have come on.
theorem registry_mirrors_household (hdigest : Function.Injective (digest salt))
    {household : DemoProvider} (hhousehold : Household household) {now : ProviderDeviceRef → Time}
    {labels : List Label} {world : World}
    (hrun : Machine.run (World.step clock coercion) (initial clock (Identity.idOf digest salt)
      (Identity.roomUuid digest casefold salt) household now) labels = some world) :
    let start := initial clock (Identity.idOf digest salt) (Identity.roomUuid digest casefold salt)
      household now
    Mirrors (Identity.idOf digest salt) (Identity.roomUuid digest casefold salt) world.household
        world.pipeline.service.registry ∧
      world.pipeline.service.registry.each Device.nameplate =
        start.pipeline.service.registry.each Device.nameplate ∧
      (∀ id held, start.pipeline.service.registry.get id = some held →
        held.state.filterLastStartedAt = none) ∧
      ∀ label after, world.step clock coercion label = some after → ∀ id held later,
        world.pipeline.service.registry.get id = some held →
        after.pipeline.service.registry.get id = some later →
          Dates (clock world.pipeline.service.reads) held later := by
  intro start
  have hmirrors := mirrors_run hdigest hhousehold hrun
  let inv : World → Prop := fun reached =>
    reached.pipeline.service.registry.each Device.nameplate =
      start.pipeline.service.registry.each Device.nameplate
  have hkept : inv world := Machine.invariant rfl
    (fun _ _ _ hbefore hstep => (each_step (fun _ _ _ _ _ => rfl) hstep).trans hbefore) hrun
  exact ⟨hmirrors, hkept, fun _ _ => initial_undated hhousehold,
    fun _ _ hstep _ _ _ => dates_step (separates_idOf hdigest) hmirrors hstep⟩

-- The pool is heated, its pump first switched off. The light is asked for what it shows already,
-- which its silent adapter does not tell.
def evening : List Label :=
  let ask (key : String) (action : Action) (parameters : List (String × Json)) : Label :=
    .submit ⟨⟨0, 0, "Member"⟩, Identity.idOf Identity.spelled "salt" (ref key), action, parameters,
      "request"⟩
  [ask "terrace-pool" .setFilter [("on", .bool false)], .executed 0 1 3,
    ask "terrace-pool" .setHeater [("on", .bool true)], .executed 1 1 5,
    .tick 60 fun _ => 6, ask "living-room-ceiling-light" .setBrightness [("brightness", .int 60)],
    .deadline 2, .readBack 2 7, .tick 2 fun _ => 8]

theorem registry_mirrors_household_evening :
    ∃ world, Machine.run (World.step (fun reads => reads) Commands.strict)
        (initial (fun reads => reads) (Identity.idOf Identity.spelled "salt")
          (Identity.roomUuid Identity.spelled id "salt") (.create 0) fun _ => 0) evening =
            some world ∧
      Mirrors (Identity.idOf Identity.spelled "salt") (Identity.roomUuid Identity.spelled id "salt")
        world.household world.pipeline.service.registry := by
  have hsome : (Machine.run (World.step (fun reads => reads) Commands.strict)
      (initial (fun reads => reads) (Identity.idOf Identity.spelled "salt")
        (Identity.roomUuid Identity.spelled id "salt") (.create 0) fun _ => 0) evening).isSome := by
    decide +kernel
  obtain ⟨world, hrun⟩ := Option.isSome_iff_exists.mp hsome
  exact ⟨world, hrun, (registry_mirrors_household (Identity.spelled_injective "salt")
    (create_household 0 DEFAULT_TIME_SCALE) hrun).1⟩

end Runs

end Demo

end Homeflow
