import Homeflow.Bestway.Discovery
import Homeflow.Bestway.Freshness
import Homeflow.Commands.Declared
import Homeflow.Commands.Serial
import Homeflow.Demo.Household
import Homeflow.Schedules.Lemmas
import Homeflow.Web.Controls

-- What the page offers, the gateway accepts.
namespace Homeflow.Web

open Commands (CommandService World)
open Commands.CommandService (Accepts Accepted)

-- The conversions of a number and of a float that a client's JSON has for them.
structure Plain (coercion : Coercion) : Prop where
  int : ∀ value, coercion.int (.int value) = some value
  float : ∀ value, coercion.float (.float value) = some value
  whole : ∀ value : Int, coercion.float (.int value) = some (.finite value)

-- A setpoint within the limits of the device is one that the gateway's schema takes, and the
-- dial of a tub goes up and down by something.
structure Sensible (kind : DeviceKind) (constraints : DeviceConstraints) : Prop where
  limits : ∀ minimum maximum, constraints.targetTemperatureMinC = some minimum →
    constraints.targetTemperatureMaxC = some maximum →
    ∃ low high, minimum = .finite low ∧ maximum = .finite high ∧ 0 ≤ low ∧ low ≤ high ∧ high ≤ 60
  step : kind = .pool → ∀ step, constraints.targetTemperatureStepC = some step →
    ∃ size, step = .finite size ∧ 0 < size

-- The tub of the controller and that of the fictional household are like that.
theorem sensible_bestway {provider : Bestway.BestwayProvider} {displayName : String}
    {roomHint : Option String} {device : ProviderDevice}
    (h : device ∈ provider.discoverDevices displayName roomHint) :
    Sensible device.kind device.constraints := by
  unfold Bestway.BestwayProvider.discoverDevices at h
  split at h
  · obtain rfl := List.mem_singleton.mp h
    refine ⟨fun minimum maximum hminimum hmaximum => ?_, fun _ step hstep => ?_⟩
    · obtain ⟨low, high, hlow, hhigh, hpositive, hordered, hbounded⟩ :=
        Bestway.limits_finite provider.profile
      exact ⟨low, high, (Option.some.inj hminimum).symm.trans hlow,
        (Option.some.inj hmaximum).symm.trans hhigh, hpositive, hordered.le, hbounded⟩
    · obtain ⟨habove, hbelow⟩ := provider.profile.step_bounded
      rw [Option.some.inj hstep] at habove hbelow
      cases step with
      | finite size => exact ⟨size, rfl, by simpa [PyFloat.le] using habove⟩
      | posInf | nan => cases hbelow
      | negInf => cases habove
  · cases h

theorem sensible_demo : ∀ device ∈ Demo.buildDevices,
    Sensible device.definition.kind device.definition.constraints := by
  have hother : ∀ {kind : DeviceKind} {constraints : DeviceConstraints}, kind ≠ .pool →
      constraints.targetTemperatureMinC = none → Sensible kind constraints :=
    fun hkind hnone => ⟨fun minimum _ hminimum => (by cases hnone.symm.trans hminimum),
      fun hpool => absurd hpool hkind⟩
  simp only [Demo.buildDevices, List.forall_mem_cons]
  refine ⟨hother (by decide) rfl, hother (by decide) rfl, hother (by decide) rfl, ?_,
    hother (by decide) rfl, hother (by decide) rfl, by simp⟩
  refine ⟨fun minimum maximum hminimum hmaximum => ?_, fun _ step hstep => ?_⟩
  · exact ⟨Demo.POOL_MIN_C, Demo.POOL_MAX_C, (Option.some.inj hminimum).symm,
      (Option.some.inj hmaximum).symm, by decide +kernel, by decide +kernel, by decide +kernel⟩
  · exact ⟨Demo.POOL_STEP_C, (Option.some.inj hstep).symm, by decide +kernel⟩

section Suits

variable {coercion : Coercion} {device : Device} {context : Context} {request : CommandRequest}

-- The request passes every check but that of the availability.
structure Suits (coercion : Coercion) (device : Device) (request : CommandRequest)
    (params : CommandParams) : Prop where
  valid : CommandService.validate coercion request.action request.parameters = .ok params
  capability : requiredCapabilityFor request.action params ∈ device.capabilities
  constraints : CommandService.checkConstraints device params = .ok ()
  risk : classify request.action params ≠ .high

theorem has_mem {capability : Capability} (h : has device capability = true) :
    capability ∈ device.capabilities := by
  simpa [has] using h

theorem suits_onOff {action : Action} {capability : Capability} (on : Bool)
    (haction : (ACTION_SPECS action).requiredCapability = capability)
    (hmodel : (ACTION_SPECS action).paramsModel = .onOffParams)
    (hhas : has device capability = true) (deviceId : Uuid) :
    Suits coercion device ⟨deviceId, action, [("on", .bool on)]⟩ (.onOff on) := by
  have hrequired : requiredCapabilityFor action (.onOff on) = capability := by
    rw [← haction]
    cases action <;> rfl
  refine ⟨?_, ?_, rfl, ?_⟩
  · simp only [CommandService.validate, hmodel, ParamsModel.validate_onOff]
  · exact hrequired ▸ has_mem hhas
  · cases action
    case unlatch => cases hmodel
    all_goals simp [classify, ACTION_SPECS]

theorem takes_percent {action : Action} {field : String} {value : ℚ}
    (h : Slider.Takes { action, field, min := 0, max := 100, step := 1 } value) :
    ∃ percent : Percent, value = (percent.val : ℚ) := by
  unfold Slider.Takes at h
  rw [if_neg (by norm_num)] at h
  obtain ⟨steps, hvalue, hmax⟩ := h
  obtain rfl : value = steps := by simpa using hvalue
  have hbound : (steps : ℚ) ≤ 100 := hmax
  have hsteps : steps ≤ 100 := by exact_mod_cast hbound
  exact ⟨⟨steps, by omega⟩, by simp⟩

theorem jsonNumber_int (value : Int) : jsonNumber value = .int value := by
  simp [jsonNumber]

theorem suits_brightness (hplain : Plain coercion) (hhas : has device .brightness = true)
    (percent : Percent) (deviceId : Uuid) :
    Suits coercion device ⟨deviceId, .setBrightness, [("brightness", jsonNumber percent.val)]⟩
      (.brightness percent) := by
  refine ⟨?_, has_mem hhas, rfl, by simp [classify, ACTION_SPECS]⟩
  have hpercent : Percent.validate percent.val = some percent := dif_pos percent.property
  simp [CommandService.validate, ACTION_SPECS, ParamsModel.validate, jsonNumber_int, hplain.int,
    hpercent]

theorem suits_volume (hplain : Plain coercion) (hhas : has device .volume = true)
    (percent : Percent) (deviceId : Uuid) :
    Suits coercion device ⟨deviceId, .setVolume, [("volume", jsonNumber percent.val)]⟩
      (.volume percent) := by
  refine ⟨?_, has_mem hhas, rfl, by simp [classify, ACTION_SPECS]⟩
  have hpercent : Percent.validate percent.val = some percent := dif_pos percent.property
  simp [CommandService.validate, ACTION_SPECS, ParamsModel.validate, jsonNumber_int, hplain.int,
    hpercent]

theorem number_eq_some {value : Option PyFloat} {found : ℚ} (h : number value = some found) :
    value = some (.finite found) := by
  unfold number at h
  split at h
  · rw [Option.some.inj h]
  · cases h

theorem float_jsonNumber (hplain : Plain coercion) (value : ℚ) :
    coercion.float (jsonNumber value) = some (.finite value) := by
  unfold jsonNumber
  split
  · next hwhole =>
    rw [hplain.whole, Rat.coe_int_num_of_den_eq_one hwhole]
  · exact hplain.float _

theorem suits_setpoint (hplain : Plain coercion) (hhas : has device .targetTemperature = true)
    (hsensible : Sensible device.kind device.constraints) {min max value : ℚ}
    (hmin : number device.constraints.targetTemperatureMinC = some min)
    (hmax : number device.constraints.targetTemperatureMaxC = some max)
    (hvalue : min ≤ max → min ≤ value ∧ value ≤ max) (deviceId : Uuid) :
    ∃ params, Suits coercion device
      ⟨deviceId, .setTargetTemperature, [("celsius", jsonNumber value)]⟩ params := by
  have hminimum := number_eq_some hmin
  have hmaximum := number_eq_some hmax
  obtain ⟨low, high, hlow, hhigh, hpositive, hordered, hbounded⟩ :=
    hsensible.limits _ _ hminimum hmaximum
  obtain rfl := PyFloat.finite.inj hlow
  obtain rfl := PyFloat.finite.inj hhigh
  obtain ⟨habove, hbelow⟩ := hvalue hordered
  have hrange : 0 ≤ value ∧ value ≤ 60 := ⟨hpositive.trans habove, hbelow.trans hbounded⟩
  refine ⟨.targetTemperature ⟨value, hrange⟩, ?_, has_mem hhas, ?_,
    by simp [classify, ACTION_SPECS]⟩
  · simp [CommandService.validate, ACTION_SPECS, ParamsModel.validate, float_jsonNumber hplain,
      Setpoint.validate, hrange]
  · simp [CommandService.checkConstraints, hminimum, hmaximum, PyFloat.le, habove, hbelow]

theorem takes_mem {input : Slider} {value : ℚ} (h : input.Takes value)
    (hordered : input.min ≤ input.max) : input.min ≤ value ∧ value ≤ input.max := by
  unfold Slider.Takes at h
  rw [if_neg (not_lt.mpr hordered)] at h
  obtain ⟨steps, hvalue, hmax⟩ := h
  refine ⟨?_, hmax⟩
  have hstep : (0 : ℚ) < if 0 < input.step then input.step else 1 := by
    split
    · assumption
    · norm_num
  have hsteps : (0 : ℚ) ≤ steps := Nat.cast_nonneg steps
  rw [hvalue]
  nlinarith

theorem suits_toggle {action : Action} {capability : Capability} {value disabled : Bool}
    (haction : (ACTION_SPECS action).requiredCapability = capability)
    (hmodel : (ACTION_SPECS action).paramsModel = .onOffParams)
    (hhas : has device capability = true) {deviceId : Uuid}
    (hasks : (toggle context action value disabled).control.Asks deviceId request) :
    request.deviceId = deviceId ∧ ∃ params, Suits coercion device request params := by
  have hrequest : request = ⟨deviceId, action, _⟩ := hasks
  subst hrequest
  exact ⟨rfl, _, suits_onOff _ haction hmodel hhas deviceId⟩

theorem suits_tile {action : Action} {capability : Capability} {value : Option Bool}
    {shown : Shown} (hshown : shown ∈ functionTile device context capability action value)
    (haction : (ACTION_SPECS action).requiredCapability = capability)
    (hmodel : (ACTION_SPECS action).paramsModel = .onOffParams) {deviceId : Uuid}
    (hasks : shown.control.Asks deviceId request) :
    request.deviceId = deviceId ∧ ∃ params, Suits coercion device request params := by
  unfold functionTile at hshown
  split at hshown
  · split at hshown
    · next hhas =>
      obtain rfl := List.mem_singleton.mp hshown
      exact suits_toggle haction hmodel hhas hasks
    · cases hshown
  · cases hshown

theorem suits_pool (hplain : Plain coercion) (hsensible : Sensible device.kind device.constraints)
    {shown : Shown} (hshown : shown ∈ poolBody device context) {deviceId : Uuid}
    (hasks : shown.control.Asks deviceId request) :
    request.deviceId = deviceId ∧ ∃ params, Suits coercion device request params := by
  simp only [poolBody, List.mem_append] at hshown
  rcases hshown with ((((hdial | htile) | htile) | htile) | htile) | htimer
  · split at hdial
    · next min max value hmin hmax hvalue =>
      split at hdial
      · next hhas =>
        obtain rfl := List.mem_singleton.mp hdial
        obtain ⟨gestures, chosen, hchosen, rfl⟩ := hasks
        exact ⟨rfl, suits_setpoint hplain hhas hsensible hmin hmax
          (fun hordered => Dial.commits_mem hordered (Dial.within_create hordered) hchosen) _⟩
      · cases hdial
    · cases hdial
  · exact suits_tile htile rfl rfl hasks
  · exact suits_tile htile rfl rfl hasks
  · exact suits_tile htile rfl rfl hasks
  · exact suits_tile htile rfl rfl hasks
  · -- What the timers ask for is no command.
    obtain ⟨entry, -, rfl⟩ := List.mem_map.mp htimer
    dsimp only at hasks
    split at hasks <;> exact hasks.elim

theorem suits_percent {capability : Capability} {action : Action} {field : String}
    {value : Option Percent}
    (hsuits : ∀ (percent : Percent) (deviceId : Uuid), has device capability = true →
      ∃ params, Suits coercion device ⟨deviceId, action, [(field, jsonNumber percent.val)]⟩ params)
    {shown : Shown} (hshown : shown ∈ percentRow device capability action field value)
    {deviceId : Uuid} (hasks : shown.control.Asks deviceId request) :
    request.deviceId = deviceId ∧ ∃ params, Suits coercion device request params := by
  unfold percentRow at hshown
  split at hshown
  · split at hshown
    · next hhas =>
      obtain rfl := List.mem_singleton.mp hshown
      obtain ⟨chosen, hchosen, rfl⟩ := hasks
      obtain ⟨percent, rfl⟩ := takes_percent hchosen
      exact ⟨rfl, hsuits percent deviceId hhas⟩
    · cases hshown
  · cases hshown

theorem suits_light (hplain : Plain coercion) {shown : Shown}
    (hshown : shown ∈ lightBody device context) {deviceId : Uuid}
    (hasks : shown.control.Asks deviceId request) :
    request.deviceId = deviceId ∧ ∃ params, Suits coercion device request params := by
  rcases List.mem_append.mp hshown with hpower | hbrightness
  · split at hpower
    · split at hpower
      · next hhas =>
        obtain rfl := List.mem_singleton.mp hpower
        exact suits_toggle rfl rfl hhas hasks
      · cases hpower
    · cases hpower
  · exact suits_percent (fun percent deviceId hhas =>
      ⟨_, suits_brightness hplain hhas percent deviceId⟩) hbrightness hasks

theorem suits_media (hplain : Plain coercion) {shown : Shown}
    (hshown : shown ∈ mediaBody device context) {deviceId : Uuid}
    (hasks : shown.control.Asks deviceId request) :
    request.deviceId = deviceId ∧ ∃ params, Suits coercion device request params := by
  rcases List.mem_append.mp hshown with hplayback | hvolume
  · split at hplayback
    · next playback _ =>
      split at hplayback
      · next hhas =>
        obtain rfl := List.mem_singleton.mp hplayback
        have hrequest : request = ⟨deviceId, .setPlayback, _⟩ := hasks
        subst hrequest
        refine ⟨rfl, .playback (if playback = .playing then .pause else .play), ?_,
          has_mem hhas, rfl, by simp [classify, ACTION_SPECS]⟩
        by_cases hplaying : playback = .playing <;>
          simp [CommandService.validate, ACTION_SPECS, ParamsModel.validate,
            PlaybackCommand.ofJson, hplaying]
      · cases hplayback
    · cases hplayback
  · exact suits_percent (fun percent deviceId hhas =>
      ⟨_, suits_volume hplain hhas percent deviceId⟩) hvolume hasks

theorem suits_thermostat (hplain : Plain coercion)
    (hsensible : Sensible device.kind device.constraints)
    {shown : Shown} (hshown : shown ∈ thermostatBody device) {deviceId : Uuid}
    (hasks : shown.control.Asks deviceId request) :
    request.deviceId = deviceId ∧ ∃ params, Suits coercion device request params := by
  unfold thermostatBody at hshown
  split at hshown
  · next target min max htarget hmin hmax =>
    split at hshown
    · next hhas =>
      obtain rfl := List.mem_singleton.mp hshown
      obtain ⟨chosen, hchosen, rfl⟩ := hasks
      exact ⟨rfl, suits_setpoint hplain hhas hsensible hmin hmax (takes_mem hchosen) _⟩
    · cases hshown
  · cases hshown

-- The button locks: to unlock there is none that can be pressed.
theorem suits_lock {shown : Shown} (hshown : shown ∈ lockBody device context) {deviceId : Uuid}
    (hasks : shown.control.Asks deviceId request) :
    request.deviceId = deviceId ∧ ∃ params, Suits coercion device request params := by
  unfold lockBody at hshown
  split at hshown
  · next hhas =>
    obtain rfl := List.mem_singleton.mp hshown
    have hrequest : request = ⟨deviceId, .setLockState, _⟩ := hasks
    subst hrequest
    refine ⟨rfl, .lockState ⟨.locked, by decide⟩, ?_, has_mem hhas, rfl, by simp [classify]⟩
    simp [CommandService.validate, ACTION_SPECS, ParamsModel.validate, DesiredLock.ofJson]
  · cases hshown

-- Every control of a card asks for what suits the device.
theorem suits_of_offered (hplain : Plain coercion)
    (hsensible : Sensible device.kind device.constraints)
    {shown : Shown} (hshown : shown ∈ renderDevice device context) {deviceId : Uuid}
    (hasks : shown.control.Asks deviceId request) :
    request.deviceId = deviceId ∧ ∃ params, Suits coercion device request params := by
  unfold renderDevice at hshown
  split at hshown
  · exact suits_pool hplain hsensible hshown hasks
  · exact suits_thermostat hplain hsensible hshown hasks
  · exact suits_light hplain hshown hasks
  · exact suits_light hplain hshown hasks
  · exact suits_media hplain hshown hasks
  · exact suits_lock hshown hasks
  · cases hshown

end Suits

section Accepted

variable {clock : Nat → Time} {coercion : Coercion} {world : World} {device current : Device}
  {request : CommandRequest} {params : CommandParams}

-- What the checks look at but for the availability does not change.
theorem Suits.later (h : Suits coercion device request params)
    (hcapabilities : current.capabilities = device.capabilities)
    (hconstraints : current.constraints = device.constraints) :
    Suits coercion current request params := by
  refine ⟨h.valid, hcapabilities ▸ h.capability, ?_, h.risk⟩
  have hsame : CommandService.checkConstraints current params =
      CommandService.checkConstraints device params := by
    cases params <;> simp only [CommandService.checkConstraints, hconstraints]
  exact hsame.trans h.constraints

theorem check_of_suits {call : SubmitCall} {service : CommandService}
    (h : Suits coercion device ⟨call.deviceId, call.action, call.parameters⟩ params)
    (hdevice : service.registry.get call.deviceId = some device) :
    (device.availability ≠ .offline ∧
        ∃ accepted, Accepts coercion service.registry call accepted) ∨
      (device.availability = .offline ∧
        (CommandService.check clock coercion service call).2 = .error .deviceUnavailable) := by
  have hsupports : device.supports (requiredCapabilityFor call.action params) = true := by
    simpa [Device.supports] using h.capability
  by_cases hoffline : device.availability = .offline
  · refine .inr ⟨hoffline, ?_⟩
    simp [CommandService.check, hdevice, h.valid, hsupports, h.constraints, h.risk, hoffline]
  · exact .inl ⟨hoffline, ⟨device, params, classify call.action params⟩, hdevice, h.valid,
      hsupports, h.constraints, rfl, h.risk, hoffline⟩

-- A request that suits the device is refused only while the device is offline.
theorem submit_of_suits {call : SubmitCall} {error : HomeFlowError}
    (h : Suits coercion device ⟨call.deviceId, call.action, call.parameters⟩ params)
    (hdevice : world.service.registry.get call.deviceId = some device)
    (hrefused : (world.submit clock coercion call).2 = .refused error) :
    error = .deviceUnavailable ∧ device.availability = .offline := by
  rcases @check_of_suits clock coercion device params call world.service h hdevice with
    ⟨-, accepted, haccepts⟩ | ⟨hoffline, hcheck⟩
  · obtain ⟨ref, href⟩ := haccepts.exists_ref
    have hcheck := @Commands.CommandService.check_of_accepts clock coercion world.service call
      accepted haccepts
    have hkept : (world.service.create clock call accepted).1.registry.refFor
        accepted.device.id = some ref := href
    simp only [World.submit, hcheck, hkept] at hrefused
    split at hrefused <;> cases hrefused
  · unfold World.submit at hrefused
    split at hrefused
    · next service found hfound =>
      rw [hfound] at hcheck
      obtain rfl := Except.error.inj hcheck
      exact ⟨(Commands.Reply.refused.inj hrefused).symm, hoffline⟩
    · next service accepted hfound =>
      rw [hfound] at hcheck
      cases hcheck

-- A device stays, and can do what it could.
theorem lasting {rendered now : World} {later : List Commands.Label} {id : Uuid}
    (hnow : Machine.run (World.step clock coercion) rendered later = some now)
    (hdevice : rendered.service.registry.get id = some device) :
    ∃ current, now.service.registry.get id = some current ∧
      current.capabilities = device.capabilities ∧ current.constraints = device.constraints := by
  have hlasts : Device.Lasts fun device => (device.capabilities, device.constraints) :=
    fun _ _ _ _ _ => rfl
  have heach := congrFun (Commands.run_each hlasts hnow) id
  simp only [DeviceRegistry.each, hdevice, Option.map_some] at heach
  obtain ⟨current, hcurrent, hsame⟩ := Option.map_eq_some_iff.mp heach
  exact ⟨current, hcurrent, Prod.mk.inj hsame⟩

end Accepted

-- Whatever the page has shown of a device, and whatever has happened since: what a control of
-- its card asks for is refused only while the device is offline.
theorem offered_controls_are_accepted {clock : Nat → Time} {coercion : Coercion}
    (hplain : Plain coercion) {rendered now : World} {later : List Commands.Label}
    (hnow : Machine.run (World.step clock coercion) rendered later = some now)
    {id : Uuid} {device : Device} (hdevice : rendered.service.registry.get id = some device)
    (hsensible : Sensible device.kind device.constraints) {context : Context} {shown : Shown}
    (hshown : shown ∈ renderDevice device context) {request : CommandRequest}
    (hasks : shown.control.Asks id request) {principal : Principal} {correlationId : String}
    {error : HomeFlowError}
    (hrefused : (now.submit clock coercion
      ⟨principal, request.deviceId, request.action, request.parameters, correlationId⟩).2 =
        .refused error) :
    error = .deviceUnavailable ∧
      ∃ current, now.service.registry.get id = some current ∧ current.availability = .offline := by
  obtain ⟨hsame, params, hsuits⟩ := suits_of_offered hplain hsensible hshown hasks
  obtain ⟨current, hcurrent, hcapabilities, hconstraints⟩ := lasting hnow hdevice
  obtain ⟨herror, hoffline⟩ := @submit_of_suits clock coercion now current params
    ⟨principal, request.deviceId, request.action, request.parameters, correlationId⟩ error
    (hsuits.later hcapabilities hconstraints) (hsame ▸ hcurrent) hrefused
  exact ⟨herror, current, hcurrent, hoffline⟩

section Timers

variable {device : Device} {context : Context} {action : Action} {hours maximum : ℚ}

theorem control_of_tile {capability : Capability} {tile : Action} {value : Option Bool}
    {shown : Shown} (h : shown ∈ functionTile device context capability tile value) :
    ∃ parameters, shown.control = .button tile parameters := by
  unfold functionTile at h
  split at h
  · split at h
    · obtain rfl := List.mem_singleton.mp h
      exact ⟨_, rfl⟩
    · cases h
  · cases h

theorem control_of_percent {capability : Capability} {row : Action} {field : String}
    {value : Option Percent} {shown : Shown}
    (h : shown ∈ percentRow device capability row field value) :
    ∃ input, shown.control = .slider input := by
  unfold percentRow at h
  split at h
  · split at h
    · obtain rfl := List.mem_singleton.mp h
      exact ⟨_, rfl⟩
    · cases h
  · cases h

-- A function that can be put on a timer is one of the tub, and released.
theorem timed_of_shown {shown : Shown} (hshown : shown ∈ renderDevice device context)
    (htimer : shown.control = .timer action) :
    ∃ capability, (capability, action) ∈ TIMED ∧ has device capability = true := by
  unfold renderDevice at hshown
  split at hshown
  case h_1 =>
    simp only [poolBody, List.mem_append] at hshown
    rcases hshown with ((((hdial | htile) | htile) | htile) | htile) | hrow
    · grind
    · obtain ⟨_, hbutton⟩ := control_of_tile htile
      cases hbutton.symm.trans htimer
    · obtain ⟨_, hbutton⟩ := control_of_tile htile
      cases hbutton.symm.trans htimer
    · obtain ⟨_, hbutton⟩ := control_of_tile htile
      cases hbutton.symm.trans htimer
    · obtain ⟨_, hbutton⟩ := control_of_tile htile
      cases hbutton.symm.trans htimer
    · obtain ⟨⟨capability, timed⟩, hentry, rfl⟩ := List.mem_map.mp hrow
      obtain ⟨htimed, hhas⟩ := List.mem_filter.mp hentry
      dsimp only at htimer
      split at htimer
      · cases htimer
      · cases htimer
        exact ⟨capability, htimed, hhas⟩
  case h_2 =>
    unfold thermostatBody at hshown
    grind
  case h_3 | h_4 =>
    rcases List.mem_append.mp hshown with hpower | hpercent
    · grind [toggle]
    · obtain ⟨_, hslider⟩ := control_of_percent hpercent
      cases hslider.symm.trans htimer
  case h_5 =>
    rcases List.mem_append.mp hshown with hplayback | hpercent
    · grind
    · obtain ⟨_, hslider⟩ := control_of_percent hpercent
      cases hslider.symm.trans htimer
  case h_6 =>
    unfold lockBody at hshown
    grind
  case h_7 => cases hshown

-- The hours to pick from are whole steps of the gateway's.
theorem validateHours_offered (hhours : hours ∈ TIMER_HOURS) (hmaximum : 24 ≤ maximum) :
    ∃ delay, Schedules.ScheduleService.validateHours maximum hours = .ok delay := by
  obtain ⟨steps, rfl, hleast, hmost⟩ :
      ∃ steps : ℤ, hours = steps / 2 ∧ 1 ≤ steps ∧ steps ≤ 48 := by
    simp only [TIMER_HOURS, List.mem_cons, List.not_mem_nil, or_false] at hhours
    rcases hhours with rfl | rfl | rfl | rfl | rfl | rfl | rfl | rfl | rfl | rfl
    · exact ⟨1, by norm_num⟩
    · exact ⟨2, by norm_num⟩
    · exact ⟨3, by norm_num⟩
    · exact ⟨4, by norm_num⟩
    · exact ⟨6, by norm_num⟩
    · exact ⟨8, by norm_num⟩
    · exact ⟨12, by norm_num⟩
    · exact ⟨16, by norm_num⟩
    · exact ⟨24, by norm_num⟩
    · exact ⟨48, by norm_num⟩
  have hround : PyFloat.roundHalfEven ((steps : ℚ) / 2 / Schedules.STEP_HOURS) = steps := by
    rw [Schedules.STEP_HOURS, div_div_div_cancel_right₀ (by norm_num), div_one,
      PyFloat.roundHalfEven_intCast]
  have hlow : (1 : ℚ) ≤ steps := by exact_mod_cast hleast
  have hhigh : (steps : ℚ) ≤ 48 := by exact_mod_cast hmost
  refine ⟨_, if_neg ?_⟩
  rw [hround, Schedules.MIN_HOURS, Schedules.STEP_HOURS]
  rintro (hbelow | habove | hoff)
  · linarith
  · linarith
  · rw [mul_one_div, sub_self, abs_zero] at hoff
    norm_num at hoff

end Timers

-- The tub of the fictional household beside the one of the controller, in one home.
def terracePool : Demo.DemoDevice := Demo.buildDevices.get ⟨3, by decide⟩

def airjet : ProviderDevice where
  ref := Bestway.airjetRef
  suggestedName := "Pool"
  kind := .pool
  capabilities := Bestway.tub.capabilities
  roomHint := some "Terrace"
  constraints := {
    targetTemperatureMinC := some Bestway.tub.profile.targetTemperatureMinC
    targetTemperatureMaxC := some Bestway.tub.profile.targetTemperatureMaxC
    targetTemperatureStepC := some Bestway.tub.profile.targetTemperatureStepC }

theorem airjet_discovered : airjet ∈ Bestway.tub.discoverDevices :=
  List.mem_singleton.mpr rfl

def tubState (availability : Availability) : ProviderState :=
  { state := { heater := some false, targetTemperatureC := some (.finite 36) }
    availability, observedAt := 0 }

def tubUuid (ref : ProviderDeviceRef) : Uuid := if ref = Bestway.airjetRef then 8 else 7

def registeredTub (tub : ProviderDevice) : Device :=
  DeviceRegistry.registered tubUuid (fun _ => 0) tub (tubState .online)

def tubs : World := Commands.initial
  ((DeviceRegistry.empty.register tubUuid (fun _ => 0) terracePool.definition
    (tubState .online)).register tubUuid (fun _ => 0) airjet (tubState .online))
  [Demo.PROVIDER_NAME, Bestway.PROVIDER_NAME]

def unbusy : Context := ⟨fun _ => false, fun _ => false, fun _ => none, []⟩

theorem plain_strict : Plain Commands.strict := ⟨fun _ => rfl, fun _ => rfl, fun _ => rfl⟩

def warmer : SubmitCall :=
  ⟨⟨1, 2, "Alice"⟩, 7, .setTargetTemperature, [("celsius", .int 37)], "correlation"⟩

def heating : SubmitCall := ⟨⟨1, 2, "Alice"⟩, 8, .setHeater, [("on", .bool true)], "correlation"⟩

def airjetLost : Commands.Label := .ingest Bestway.airjetRef (tubState .offline)

def tubsLost : World :=
  { tubs with
    service := tubs.service.ingest (fun _ => 0) Bestway.airjetRef (tubState .offline)
      .providerEvent }

def terraceDial : DialOptions := ⟨36, 20, 40, Demo.POOL_STEP_C, false⟩

theorem terraceDial_commits :
    ((37 : Int) : ℚ) ∈ (Dial.create terraceDial).commits [.key true, .key true] := by
  norm_num [terraceDial, Dial.commits, Dial.act, Dial.create, Dial.stepped, Dial.safe, clamp,
    Demo.POOL_STEP_C]

-- The heater and its timer are offered for the tub of the controller.
theorem airjet_offers : ∀ control ∈ [.button .setHeater [("on", .bool true)], .timer .setHeater],
    ⟨control, false⟩ ∈ renderDevice (registeredTub airjet) unbusy := by
  have hheating : .heating ∈ Bestway.tub.capabilities := by decide +kernel
  simp [renderDevice, poolBody, functionTile, timerSection, TIMED, toggle, offline, unbusy, has,
    hheating, registeredTub, DeviceRegistry.registered, airjet, tubState]

-- One tub is set a degree warmer, by a key of its dial. The other one is out of reach by the
-- time that its heater is pressed.
theorem offered_controls_are_accepted_tub :
    (∀ error, (tubs.submit (fun _ => 0) Commands.strict warmer).2 ≠ .refused error) ∧
      ∃ now, Machine.run (World.step (fun _ => 0) Commands.strict) tubs [airjetLost] = some now ∧
        (now.submit (fun _ => 0) Commands.strict heating).2 = .refused .deviceUnavailable ∧
        ∃ current, now.service.registry.get 8 = some current ∧
          current.availability = .offline := by
  constructor
  · intro error hrefused
    have hsensible := sensible_demo terracePool (List.get_mem _ _)
    obtain ⟨-, current, hcurrent, hoffline⟩ := @offered_controls_are_accepted (fun _ => 0)
      Commands.strict plain_strict tubs tubs [] rfl 7 (registeredTub terracePool.definition) rfl
      hsensible unbusy ⟨.dial terraceDial, false⟩ List.mem_cons_self
      ⟨7, .setTargetTemperature, [("celsius", .int 37)]⟩
      ⟨_, _, terraceDial_commits, by rw [jsonNumber_int]⟩ ⟨1, 2, "Alice"⟩ "correlation" error
      hrefused
    obtain rfl := Option.some.inj hcurrent
    cases hoffline
  · refine ⟨tubsLost, rfl, rfl, ?_⟩
    exact (@offered_controls_are_accepted (fun _ => 0) Commands.strict plain_strict tubs _
      [airjetLost] rfl 8 (registeredTub airjet) rfl (sensible_bestway airjet_discovered) unbusy
      ⟨.button .setHeater [("on", .bool true)], false⟩ (airjet_offers _ (by simp))
      ⟨8, .setHeater, [("on", .bool true)]⟩ rfl ⟨1, 2, "Alice"⟩ "correlation" .deviceUnavailable
      rfl).2

-- So are the timers it offers, unless the operator allows for fewer hours than a day: when one
-- is asked for, when a function is turned on for it, and when it fires.
theorem offered_timers_are_accepted {clock : Nat → Time} {coercion : Coercion} {maximum : ℚ}
    (hmaximum : 24 ≤ maximum) {rendered asked now : World} {later last : List Commands.Label}
    (hasked : Machine.run (World.step clock coercion) rendered later = some asked)
    (hnow : Machine.run (World.step clock coercion) asked last = some now)
    {id : Uuid} {device : Device} (hdevice : rendered.service.registry.get id = some device)
    {context : Context} {shown : Shown} (hshown : shown ∈ renderDevice device context)
    {action : Action} (htimer : shown.control = .timer action) {hours : ℚ}
    (hhours : hours ∈ TIMER_HOURS) (kind : ScheduleKind) (principal : Principal)
    (correlationId : String) (service : Schedules.ScheduleService) :
    ∃ pending, service.prepare clock maximum
        ⟨principal, id, action, kind, hours, correlationId⟩ (asked.service.registry.get id) =
          (service, .ok pending) ∧
      ∀ call error, (call = Schedules.ScheduleService.onCommand pending ∨ ∃ commandId, call =
          Schedules.ScheduleService.fireCall (service.arm clock pending commandId).2) →
        (now.submit clock coercion call).2 = .refused error →
        error = .deviceUnavailable ∧
          ∃ current, now.service.registry.get id = some current ∧
            current.availability = .offline := by
  obtain ⟨capability, htimed, hhas⟩ := timed_of_shown hshown htimer
  have hpair : (ACTION_SPECS action).requiredCapability = capability ∧
      (ACTION_SPECS action).paramsModel = .onOffParams ∧ action ∈ Schedules.TIMED_ACTIONS ∧
      ∀ on, classify action (.onOff on) ≠ .high ∧
        requiredCapabilityFor action (.onOff on) = capability := by
    simp only [TIMED, List.mem_cons, Prod.mk.injEq, List.not_mem_nil, or_false] at htimed
    rcases htimed with ⟨rfl, rfl⟩ | ⟨rfl, rfl⟩ <;>
      exact ⟨rfl, rfl, by decide, fun on => ⟨by simp [classify, ACTION_SPECS], rfl⟩⟩
  obtain ⟨hcapability, hmodel, hallowed, hspec⟩ := hpair
  obtain ⟨delay, hdelay⟩ := validateHours_offered hhours hmaximum
  obtain ⟨current, hcurrent, hcapabilities, hconstraints⟩ := lasting hasked hdevice
  have hsupports : current.supports capability = true := by
    rw [Device.supports, hcapabilities]
    exact hhas
  refine ⟨⟨⟨principal, id, action, kind, hours, correlationId⟩, delay, kind = .delayedStart⟩,
    ?_, ?_⟩
  · simp only [Schedules.ScheduleService.prepare, hcurrent, hallowed, hdelay, not_true_eq_false,
      if_false, (hspec _).2, hsupports, Bool.not_true, Bool.false_eq_true, (hspec _).1]
  · intro call error hcall hrefused
    obtain ⟨on, hid, hsame, hparameters⟩ : ∃ on, call.deviceId = id ∧ call.action = action ∧
        call.parameters = [("on", .bool on)] := by
      rcases hcall with rfl | ⟨commandId, rfl⟩
      · exact ⟨_, rfl, rfl, rfl⟩
      · exact ⟨_, rfl, rfl, rfl⟩
    obtain ⟨found, hfound, hsupported, hlimits⟩ := lasting hnow hcurrent
    have hsuits := @suits_onOff coercion device action capability on hcapability hmodel hhas id
    have hkept := hsuits.later (hsupported.trans hcapabilities) (hlimits.trans hconstraints)
    have hasks : Suits coercion found ⟨call.deviceId, call.action, call.parameters⟩
        (.onOff on) := by
      rw [hid, hsame, hparameters]
      exact hkept
    obtain ⟨herror, hoffline⟩ := submit_of_suits hasks (hid ▸ hfound) hrefused
    exact ⟨herror, found, hfound, hoffline⟩

-- A timer to heat the one out of reach by the time that it runs out.
theorem offered_timers_are_accepted_tub :
    ∃ pending now, ({} : Schedules.ScheduleService).prepare (fun _ => 0) 24
        ⟨⟨1, 2, "Alice"⟩, 8, .setHeater, .delayedStart, 3, "correlation"⟩
        (tubs.service.registry.get 8) = ({}, .ok pending) ∧
      Machine.run (World.step (fun _ => 0) Commands.strict) tubs [airjetLost] = some now ∧
      (now.submit (fun _ => 0) Commands.strict (Schedules.ScheduleService.fireCall
        (Schedules.ScheduleService.arm (fun _ => 0) {} pending none).2)).2 =
          .refused .deviceUnavailable ∧
      ∃ current, now.service.registry.get 8 = some current ∧
        current.availability = .offline := by
  obtain ⟨pending, hprepared, hlater⟩ := @offered_timers_are_accepted (fun _ => 0)
    Commands.strict 24 le_rfl tubs tubs tubsLost [] [airjetLost] rfl rfl 8 (registeredTub airjet)
    rfl unbusy ⟨.timer .setHeater, false⟩ (airjet_offers _ (by simp)) .setHeater rfl 3
    (by simp [TIMER_HOURS]) .delayedStart ⟨1, 2, "Alice"⟩ "correlation" {}
  have hcall : Schedules.ScheduleService.fireCall
      (Schedules.ScheduleService.arm (fun _ => 0) {} pending none).2 =
        { heating with parameters := [("on", .bool pending.desired)] } := by
    simp [Schedules.ScheduleService.fireCall, Schedules.ScheduleService.arm, heating,
      (Schedules.ScheduleService.prepare_ok hprepared).2]
  have hrefused : ∀ desired, (tubsLost.submit (fun _ => 0) Commands.strict
      { heating with parameters := [("on", .bool desired)] }).2 = .refused .deviceUnavailable := by
    intro desired
    cases desired <;> rfl
  refine ⟨pending, tubsLost, hprepared, rfl, ?_, ?_⟩
  · rw [hcall]
    exact hrefused _
  · exact (hlater _ _ (.inr ⟨none, rfl⟩) (hcall ▸ hrefused _)).2

end Homeflow.Web
