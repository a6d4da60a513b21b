import Homeflow.Commands.Gate
import Homeflow.Demo.Heating
import Homeflow.Demo.Remembered

-- What the household can come to under the commands that the pipeline lets through.
namespace Homeflow.Demo

open PyFloat

-- A command within the range of the pool.
def Ranged (command : ProviderCommand) : Prop :=
  ∀ celsius, command.params = .targetTemperature celsius →
    POOL_MIN_C ≤ celsius.val ∧ celsius.val ≤ POOL_MAX_C

-- Setpoints are offered within the range of the pool or not at all.
def Verified (constraints : DeviceConstraints) : Prop :=
  constraints.targetTemperatureMinC = none ∨
    constraints.targetTemperatureMinC = some (.finite POOL_MIN_C) ∧
      constraints.targetTemperatureMaxC = some (.finite POOL_MAX_C)

-- The pump runs whenever the heater does, the water is no colder than the air and no warmer
-- than the pool can be set to, and a program runs exactly as long as it has time left.
structure Sound (state : DeviceState) : Prop where
  interlock : state.heater = some true → state.filterPump = some true
  target : ∀ celsius, state.targetTemperatureC = some celsius →
    ∃ value, celsius = .finite value ∧ POOL_MIN_C ≤ value ∧ value ≤ POOL_MAX_C
  water : ∀ celsius, state.currentTemperatureC = some celsius →
    ∃ value, celsius = .finite value ∧ AMBIENT_C ≤ value ∧ value ≤ POOL_MAX_C
  running : state.program = some .running → ∃ seconds, state.remainingSeconds = some seconds ∧
    0 < seconds
  finished : state.program = some .finished → state.remainingSeconds = some 0

-- Nothing of this depends on the moment at which the gateway saw the filter start.
theorem Reflects.sound {roomUuid : String → Uuid} {device : DemoDevice} {held : Device}
    (h : Reflects roomUuid device held)
    (hsound : Sound device.state) : Sound held.state := by
  rw [← h.state] at hsound
  exact ⟨hsound.interlock, hsound.target, hsound.water, hsound.running, hsound.finished⟩

section Commands

theorem Sound.apply {state : DeviceState} (h : Sound state) {command : ProviderCommand}
    (hranged : Ranged command) : Sound (apply state command) := by
  obtain ⟨action, params⟩ := command
  cases action <;> cases params <;> try exact h
  case setPower.onOff | setBrightness.brightness | setVolume.volume | setPlayback.playback |
      setBubbles.onOff | setControlPanelLock.onOff | setLockState.lockState =>
    exact ⟨h.interlock, h.target, h.water, h.running, h.finished⟩
  case setTargetTemperature.targetTemperature celsius =>
    refine ⟨h.interlock, fun target htarget => ?_, h.water, h.running, h.finished⟩
    obtain rfl := Option.some.inj htarget
    exact ⟨celsius.val, rfl, hranged celsius rfl⟩
  case setHeater.onOff on =>
    refine ⟨fun hheater => ?_, h.target, h.water, h.running, h.finished⟩
    obtain rfl := Option.some.inj hheater
    rfl
  case setFilter.onOff on =>
    refine ⟨fun hheater => ?_, h.target, h.water, h.running, h.finished⟩
    cases on
    · cases hheater
    · rfl

end Commands

section Time

variable {state : DeviceState} {simulatedSeconds : ℚ}

theorem maximum_finite (first second : ℚ) :
    (PyFloat.finite first).maximum (.finite second) = .finite (max first second) := by
  unfold PyFloat.maximum PyFloat.lt PyFloat.le
  rcases lt_or_ge first second with hlt | hge
  · simp [hlt.le, hlt.not_ge]
  · simp [hge]

-- Rounding to hundredths leaves no range that ends on them.
theorem roundHundredths_bounds {value : ℚ} (hlow : AMBIENT_C ≤ value) (hhigh : value ≤ POOL_MAX_C) :
    AMBIENT_C ≤ (roundHalfEven (100 * value) : ℚ) / 100 ∧
      (roundHalfEven (100 * value) : ℚ) / 100 ≤ POOL_MAX_C := by
  unfold AMBIENT_C POOL_MAX_C at *
  have hbelow : (2200 : ℤ) ≤ roundHalfEven (100 * value) :=
    le_roundHalfEven (by push_cast; linarith)
  have habove : roundHalfEven (100 * value) ≤ (4000 : ℤ) :=
    roundHalfEven_le (by push_cast; linarith)
  have hbelow' : (2200 : ℚ) ≤ roundHalfEven (100 * value) := by exact_mod_cast hbelow
  have habove' : (roundHalfEven (100 * value) : ℚ) ≤ 4000 := by exact_mod_cast habove
  constructor <;> linarith

-- Water that is let cool goes down to the air at most.
theorem cooled_bounds {current loss minutes : ℚ} (hloss : 0 ≤ loss) (hminutes : 0 ≤ minutes)
    (hlow : AMBIENT_C ≤ current) (hhigh : current ≤ POOL_MAX_C) :
    AMBIENT_C ≤ max AMBIENT_C (current + -(minutes * (loss * (current + -AMBIENT_C)))) ∧
      max AMBIENT_C (current + -(minutes * (loss * (current + -AMBIENT_C)))) ≤ POOL_MAX_C := by
  have hdrop : 0 ≤ minutes * (loss * (current + -AMBIENT_C)) :=
    mul_nonneg hminutes (mul_nonneg hloss (by linarith))
  exact ⟨le_max_left _ _, max_le (hlow.trans hhigh) (by linarith)⟩

theorem drift_bounds (h : Sound state) (hforward : 0 ≤ simulatedSeconds) {current : ℚ}
    (hcurrent : state.currentTemperatureC = some (.finite current)) {moved : PyFloat}
    (hmoved : drift state (.finite current) (simulatedSeconds / 60) = some moved) :
    ∃ value, moved = .finite value ∧ AMBIENT_C ≤ value ∧ value ≤ POOL_MAX_C := by
  obtain ⟨_, ⟨⟩, hlow, hhigh⟩ := h.water _ hcurrent
  have hminutes : 0 ≤ simulatedSeconds / 60 := by positivity
  unfold drift at hmoved
  split at hmoved
  · next target _ htarget =>
    obtain ⟨goal, rfl, -, hgoal⟩ := h.target _ htarget
    simp only [PyFloat.le, decide_eq_true_eq, PyFloat.add, minimum_finite] at hmoved
    split at hmoved
    · cases hmoved
    · next hbelow =>
      obtain rfl := Option.some.inj hmoved
      have hrise : 0 ≤ HEAT_RATE_C_PER_SIM_MINUTE * (simulatedSeconds / 60) :=
        mul_nonneg (by norm_num [HEAT_RATE_C_PER_SIM_MINUTE]) hminutes
      refine ⟨_, rfl, le_min ?_ ?_, (min_le_left _ _).trans hgoal⟩ <;> linarith
  · obtain rfl := Option.some.inj hmoved
    have hloss : 0 ≤ COOL_COEFFICIENT_PER_SIM_MINUTE *
        (if state.bubbles = some true then BUBBLE_COOLING_FACTOR else 1) := by
      unfold COOL_COEFFICIENT_PER_SIM_MINUTE BUBBLE_COOLING_FACTOR
      split <;> norm_num
    simp only [PyFloat.sub, PyFloat.neg, PyFloat.add, PyFloat.scale, maximum_finite]
    exact ⟨_, rfl, cooled_bounds hloss hminutes hlow hhigh⟩

theorem Sound.advancePool (h : Sound state) (hforward : 0 ≤ simulatedSeconds) :
    Sound (advancePool state simulatedSeconds) := by
  unfold Demo.advancePool
  split
  · exact h
  · next current hcurrent =>
    obtain ⟨value, rfl, -, -⟩ := h.water _ hcurrent
    split
    · exact h
    · next moved hmoved =>
      obtain ⟨moved, rfl, hlow, hhigh⟩ := drift_bounds h hforward hcurrent hmoved
      split
      · exact h
      · refine ⟨h.interlock, h.target, fun celsius hcelsius => ?_, h.running, h.finished⟩
        obtain rfl := Option.some.inj hcelsius
        exact ⟨_, rfl, roundHundredths_bounds hlow hhigh⟩

theorem Sound.advanceAppliance (h : Sound state) :
    Sound (advanceAppliance state simulatedSeconds) := by
  unfold Demo.advanceAppliance
  split
  · next seconds hprogram hseconds =>
    dsimp only
    split
    · exact h
    · split
      · exact ⟨h.interlock, h.target, h.water, fun hrunning => (by cases hrunning), fun _ => rfl⟩
      · next hleft =>
        refine ⟨h.interlock, h.target, h.water, fun _ => ⟨_, rfl, Nat.pos_of_ne_zero hleft⟩,
          fun hfinished => ?_⟩
        cases hprogram.symm.trans hfinished
  · exact h

theorem Sound.ticked {device : DemoDevice} (h : Sound device.state)
    (hforward : 0 ≤ simulatedSeconds) : Sound (device.ticked simulatedSeconds).state := by
  unfold DemoDevice.ticked
  split
  · exact h
  · unfold advance
    dsimp only
    split
    · exact h.advancePool hforward
    · exact h.advanceAppliance
    · exact h.advanceAppliance
    · exact h

end Time

section Pipeline

variable {clock : Nat → Time} {coercion : Coercion} {deviceUuid : ProviderDeviceRef → Uuid}
  {roomUuid : String → Uuid} {household : DemoProvider} {pipeline : Commands.World}

-- A setpoint that the pipeline accepts is within the range of the device it is meant for.
theorem ranged_of_admissible (h : Mirrors deviceUuid roomUuid household pipeline.service.registry)
    (hverified : ∀ key device, household.devices.get? key = some device →
      Verified device.definition.constraints) {call : SubmitCall} {ref : ProviderDeviceRef}
    {command : ProviderCommand} {held : Device}
    (hadmissible : Commands.Admissible coercion pipeline.service.registry call ref command held) :
    Ranged command := by
  intro celsius hparams
  obtain ⟨minimum, maximum, hminimum, hmaximum, hlow, hhigh⟩ := hadmissible.setpoint celsius hparams
  obtain ⟨key, device, hdevice, hid⟩ := h.only call.deviceId (by simp [hadmissible.registered])
  obtain ⟨-, -, other, hother, hreflects⟩ := h.known key device hdevice
  rw [← hid] at hother
  obtain rfl := Option.some.inj (hadmissible.registered.symm.trans hother)
  rw [hreflects.constraints] at hminimum hmaximum
  rcases hverified key device hdevice with hnone | ⟨hleast, hmost⟩
  · cases hminimum.symm.trans hnone
  · obtain rfl := Option.some.inj (hminimum.symm.trans hleast)
    obtain rfl := Option.some.inj (hmaximum.symm.trans hmost)
    exact ⟨by simpa [PyFloat.le] using hlow, by simpa [PyFloat.le] using hhigh⟩

variable {origin : Uuid → ProviderDeviceRef → ProviderCommand → Prop}

-- To ingest the events of a tick makes no command.
theorem originates_ingested (h : Commands.Originates origin pipeline)
    (events : List ProviderEvent) :
    Commands.Originates origin
      { pipeline with service := World.ingested clock pipeline.service events } := by
  induction events generalizing pipeline with
  | nil => exact h
  | cons event rest ih =>
      have hnext : pipeline.step clock Commands.strict (.ingest event.ref event.state) =
        some { pipeline with
          service := pipeline.service.ingest clock event.ref event.state .providerEvent } := rfl
      exact ih (Commands.originates_step h (fun _ _ _ _ hlabel => by cases hlabel) hnext)

end Pipeline

section Runs

-- Simulated time does not go back.
def Label.Forward : Label → Prop
  | .tick elapsedSeconds _ => 0 ≤ elapsedSeconds
  | _ => True

-- A household as it can be started with.
structure Decent (household : DemoProvider) : Prop extends Household household where
  forward : 0 ≤ household.timeScale
  verified : ∀ key device, household.devices.get? key = some device →
    Verified device.definition.constraints
  sound : ∀ key device, household.devices.get? key = some device → Sound device.state

-- What holds of the household since it was started like this: setpoints in flight are within
-- the range, its devices are sound, and those that cannot be reached are as they were.
structure Kept (deviceUuid : ProviderDeviceRef → Uuid) (roomUuid : String → Uuid)
    (start : DemoProvider) (world : World) : Prop where
  mirrors : Mirrors deviceUuid roomUuid world.household world.pipeline.service.registry
  ranged : Commands.Originates (fun _ _ command => Ranged command) world.pipeline
  forward : 0 ≤ world.household.timeScale
  verified : ∀ key device, world.household.devices.get? key = some device →
    Verified device.definition.constraints
  sound : ∀ key device, world.household.devices.get? key = some device → Sound device.state
  unreachable : ∀ key device, start.devices.get? key = some device →
    device.availability = .offline → world.household.devices.get? key = some device

variable {clock : Nat → Time} {coercion : Coercion} {deviceUuid : ProviderDeviceRef → Uuid}
  {roomUuid : String → Uuid} {start : DemoProvider} {world after : World}

theorem kept_initial (hseparates : Separates deviceUuid) (h : Decent start)
    (now : ProviderDeviceRef → Time) :
    Kept deviceUuid roomUuid start (initial clock deviceUuid roomUuid start now) where
  mirrors := mirrors_initial hseparates h.toHousehold
  ranged := ⟨fun _ _ htask => (by cases htask), fun _ _ _ hmem => (by cases hmem)⟩
  forward := h.forward
  verified := h.verified
  sound := h.sound
  unreachable _ _ hdevice _ := hdevice

-- A step of the pipeline that the household takes no part in.
theorem Kept.act (h : Kept deviceUuid roomUuid start world) {pipeline : Commands.World}
    {label : Commands.Label}
    (hmirrors : Mirrors deviceUuid roomUuid world.household pipeline.service.registry)
    (hnext : world.pipeline.step clock coercion label = some pipeline) :
    Kept deviceUuid roomUuid start { world with pipeline } where
  mirrors := hmirrors
  ranged := Commands.originates_step h.ranged
    (fun _ _ _ _ _ => ranged_of_admissible h.mirrors h.verified) hnext
  forward := h.forward
  verified := h.verified
  sound := h.sound
  unreachable := h.unreachable

-- A command that the household carries out.
theorem Kept.applied (h : Kept deviceUuid roomUuid start world) {ref : ProviderDeviceRef}
    {command : ProviderCommand} {device : DemoDevice}
    (hdevice : world.household.require ref = some device) (honline : device.availability ≠ .offline)
    (hcommand : Ranged command) {pipeline : Commands.World} {household : DemoProvider}
    (hhousehold : household = { world.household with
      devices := world.household.devices.set ref.providerDeviceId
        { device with state := apply device.state command } })
    (hmirrors : Mirrors deviceUuid roomUuid household pipeline.service.registry)
    {label : Commands.Label} (hnext : world.pipeline.step clock coercion label = some pipeline) :
    Kept deviceUuid roomUuid start ⟨pipeline, household⟩ := by
  subst hhousehold
  have hget := (require_eq_some hdevice).1
  constructor
  case mirrors => exact hmirrors
  case ranged =>
    have hranged : Commands.Originates (fun _ _ command => Ranged command) pipeline :=
      Commands.originates_step h.ranged
        (fun _ _ _ _ _ => ranged_of_admissible h.mirrors h.verified) hnext
    exact hranged
  case forward => exact h.forward
  case verified =>
    intro key found hfound
    obtain ⟨rfl, rfl⟩ | ⟨-, hfound⟩ := OrderedDict.get?_set_eq_some.mp hfound
    · exact h.verified _ device hget
    · exact h.verified key found hfound
  case sound =>
    intro key found hfound
    obtain ⟨rfl, rfl⟩ | ⟨-, hfound⟩ := OrderedDict.get?_set_eq_some.mp hfound
    · exact (h.sound _ device hget).apply hcommand
    · exact h.sound key found hfound
  case unreachable =>
    intro key found hfound hoffline
    have hheld := h.unreachable key found hfound hoffline
    refine (OrderedDict.get?_set_of_ne fun hsame => honline ?_).trans hheld
    rw [hsame] at hheld
    rwa [Option.some.inj (hget.symm.trans hheld)]

theorem Kept.ticked (h : Kept deviceUuid roomUuid start world) (hseparates : Separates deviceUuid)
    {elapsedSeconds : ℚ} (hforward : 0 ≤ elapsedSeconds) (now : DemoDevice → Time) :
    Kept deviceUuid roomUuid start {
      pipeline := { world.pipeline with
        service := World.ingested clock world.pipeline.service
          (world.household.tick elapsedSeconds now).2 }
      household := (world.household.tick elapsedSeconds now).1 } := by
  have hseconds : 0 ≤ elapsedSeconds * world.household.timeScale := mul_nonneg hforward h.forward
  constructor
  case mirrors => exact h.mirrors.tick clock hseparates elapsedSeconds now
  case ranged => exact originates_ingested h.ranged _
  case forward => exact h.forward
  case verified =>
    intro key found hfound
    rw [get?_tick] at hfound
    obtain ⟨device, hdevice, rfl⟩ := Option.map_eq_some_iff.mp hfound
    rw [(ticked_definition _ device).1]
    exact h.verified key device hdevice
  case sound =>
    intro key found hfound
    rw [get?_tick] at hfound
    obtain ⟨device, hdevice, rfl⟩ := Option.map_eq_some_iff.mp hfound
    exact (h.sound key device hdevice).ticked hseconds
  case unreachable =>
    intro key found hfound hoffline
    rw [get?_tick, h.unreachable key found hfound hoffline, Option.map_some, DemoDevice.ticked,
      if_pos hoffline]

theorem Kept.step (hseparates : Separates deviceUuid) (h : Kept deviceUuid roomUuid start world)
    {label : Label} (hforward : label.Forward)
    (hstep : world.step clock coercion label = some after) :
    Kept deviceUuid roomUuid start after := by
  have hmirrors := Mirrors.step hseparates h.mirrors hstep
  cases label with
  | submit call | enter id | cancelTask id | deadline id =>
      obtain ⟨pipeline, hnext, rfl⟩ := act_eq_some hstep
      exact h.act hmirrors hnext
  | executed id random now =>
      obtain ⟨task, htask, hact⟩ := Option.bind_eq_some_iff.mp hstep
      rcases hresult : world.household.execute task.ref ⟨task.running.action, task.params⟩ random
        now with ⟨household, result⟩
      rw [hresult] at hact
      obtain ⟨pipeline, hnext, rfl⟩ := act_eq_some hact
      cases result with
      | ok result =>
          obtain ⟨device, hdevice, honline, hhousehold, -⟩ := execute_applied hresult
          exact h.applied hdevice honline (h.ranged.flight id task htask) hhousehold hmirrors hnext
      | error error =>
          obtain ⟨rfl, -⟩ := execute_error hresult
          exact h.act hmirrors hnext
  | readBack id now =>
      obtain ⟨task, -, hact⟩ := Option.bind_eq_some_iff.mp hstep
      obtain ⟨pipeline, hnext, rfl⟩ := act_eq_some hact
      exact h.act hmirrors hnext
  | tick elapsedSeconds now =>
      obtain rfl := Option.some.inj hstep
      exact h.ticked hseparates hforward now

variable {digest : String → String → Uuid} {casefold : String → String} {salt : String}

-- Whatever is asked of it in whatever order, the household stays sound, the gateway shows
-- it so, and a device that cannot be reached is not changed.
theorem household_stays_sound (hdigest : Function.Injective (digest salt)) (hstart : Decent start)
    {now : ProviderDeviceRef → Time} {labels : List Label}
    (hforward : ∀ label ∈ labels, label.Forward)
    (hrun : Machine.run (World.step clock coercion) (initial clock (Identity.idOf digest salt)
      (Identity.roomUuid digest casefold salt) start now) labels = some world) :
    (∀ key device, world.household.devices.get? key = some device → Sound device.state) ∧
      (∀ id held, world.pipeline.service.registry.get id = some held → Sound held.state) ∧
      ∀ key device, start.devices.get? key = some device → device.availability = .offline →
        world.household.devices.get? key = some device := by
  have hseparates := separates_idOf hdigest
  have hkept : Kept (Identity.idOf digest salt) (Identity.roomUuid digest casefold salt) start
      world :=
    Machine.guarded_invariant (kept_initial hseparates hstart now)
      (fun _ _ _ hbefore hguard hstep => Kept.step hseparates hbefore hguard hstep)
      hrun (Machine.guarded_of_forall hforward)
  refine ⟨hkept.sound, fun id held hheld => ?_, hkept.unreachable⟩
  obtain ⟨key, device, hdevice, rfl⟩ := hkept.mirrors.only id (by simp [hheld])
  obtain ⟨-, -, other, hother, hreflects⟩ := hkept.mirrors.known key device hdevice
  obtain rfl := Option.some.inj (hheld.symm.trans hother)
  exact hreflects.sound (hkept.sound key device hdevice)

end Runs

-- The household that the provider builds is one of these.
theorem create_decent {failureRate timeScale : ℚ} (hforward : 0 ≤ timeScale) :
    Decent (DemoProvider.create failureRate timeScale) := by
  have hget : ∀ key device, (DemoProvider.create failureRate timeScale).devices.get? key =
      some device → device ∈ buildDevices :=
    fun key device hdevice => ((OrderedDict.get?_ofValues (by decide) key device).mp hdevice).1
  have hbuilt : ∀ device ∈ buildDevices, Verified device.definition.constraints ∧
      Sound device.state := by
    simp only [buildDevices, List.forall_mem_cons, List.not_mem_nil, false_implies, implies_true,
      and_true]
    refine ⟨⟨.inl rfl, ?_⟩, ⟨.inl rfl, ?_⟩, ⟨.inl rfl, ?_⟩, ⟨.inr ⟨rfl, rfl⟩, ?_⟩,
      ⟨.inl rfl, ?_⟩, .inl rfl, ?_⟩ <;> constructor <;>
      simp [AMBIENT_C, POOL_MIN_C, POOL_MAX_C] <;> norm_num
  exact {
    toHousehold := create_household failureRate timeScale
    forward := hforward
    verified := fun key device hdevice => (hbuilt device (hget key device hdevice)).1
    sound := fun key device hdevice => (hbuilt device (hget key device hdevice)).2 }

theorem household_stays_sound_evening :
    ∃ world, Machine.run (World.step (fun reads => reads) Commands.strict)
        (initial (fun reads => reads) (Identity.idOf Identity.spelled "salt")
          (Identity.roomUuid Identity.spelled id "salt") (.create 0) fun _ => 0) evening =
            some world ∧
      (world.household.devices.get? "terrace-pool").any
        (fun device => device.state.heater = some true) ∧
      ∀ key device, world.household.devices.get? key = some device → Sound device.state := by
  have hsome : (Machine.run (World.step (fun reads => reads) Commands.strict)
      (initial (fun reads => reads) (Identity.idOf Identity.spelled "salt")
        (Identity.roomUuid Identity.spelled id "salt") (.create 0) fun _ => 0) evening).any
          (fun world => (world.household.devices.get? "terrace-pool").any fun device =>
            device.state.heater = some true) = true := by decide +kernel
  obtain ⟨world, hrun, hheater⟩ := (Option.any_eq_true _ _).mp hsome
  exact ⟨world, hrun, hheater, (household_stays_sound (Identity.spelled_injective "salt")
    (create_decent (by decide +kernel)) (by simp [evening, Label.Forward]) hrun).1⟩

end Homeflow.Demo
