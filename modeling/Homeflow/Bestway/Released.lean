import Homeflow.Bestway.Control

namespace Homeflow.Bestway

-- The values the adapter passes for a datapoint.
inductive Passed (profile : DatapointProfile) : Datapoint → Value → Prop
  | flag {datapoint : Datapoint} (h : datapoint ∈ BOOLEAN_DATAPOINTS) (on : Bool) :
      Passed profile datapoint (.bool on)
  | setpoint (celsius : ℚ) (fahrenheit : Bool)
      (hmin : profile.targetTemperatureMinC.le (.finite celsius))
      (hmax : (PyFloat.finite celsius).le profile.targetTemperatureMaxC) :
      Passed profile .targetTemperature (.int (fromCelsius celsius fahrenheit))

-- Every tap on the control of a datapoint comes to a control request.
def AlwaysWorks (profile : DatapointProfile) (datapoint : Datapoint) : Prop :=
  ∀ payload decoded, profile.decode payload = .ok decoded → ∀ value,
    Passed profile datapoint value → ∃ attrFlags attrVals,
      profile.encodeControl datapoint value payload = .ok (some (attrFlags, attrVals)) ∧
      ∀ sequence < 2 ^ 32, ∃ body, buildControlPayload sequence attrFlags attrVals = .ok body

-- The control values lie within the shortest block that is decoded and hold the location of
-- the datapoint, and its flag is one of the two flag bytes' bits.
def BlockHolds (profile : DatapointProfile) (datapoint : Datapoint) : Prop :=
  ∃ block : DatapointProfile.Block profile datapoint profile.shortest, block.flagBit < 16

section Build

variable {read : String → Option Layout} {settings : Settings} {profile : DatapointProfile}

theorem validate_dump {layout : Layout} (h : DatapointProfile.validate layout = some profile) :
    profile.dump = layout := by
  unfold DatapointProfile.validate at h
  split at h
  · obtain rfl := Option.some.inj h
    rfl
  · cases h

theorem ofValue_eq_some_iff {name : String} {datapoint : Datapoint} :
    Datapoint.ofValue name = some datapoint ↔ datapoint.value = name := by
  unfold Datapoint.ofValue
  constructor
  · intro h
    simpa using List.find?_some h
  · rintro rfl
    cases datapoint <;> decide

theorem mem_of_mapM_ofValue {names : List String} {datapoints : List Datapoint}
    (h : names.mapM Datapoint.ofValue = some datapoints) (datapoint : Datapoint) :
    datapoint ∈ datapoints ↔ datapoint.value ∈ names := by
  induction names generalizing datapoints with
  | nil =>
      obtain rfl := Option.some.inj h
      simp
  | cons name names ih =>
      simp only [List.mapM_cons, Option.bind_eq_bind, Option.bind_eq_some_iff] at h
      obtain ⟨first, hfirst, rest, hrest, hall⟩ := h
      obtain rfl := Option.some.inj hall
      rw [List.mem_cons, List.mem_cons, ih hrest]
      refine or_congr_left ⟨fun heq => ?_, fun heq => ?_⟩
      · rw [heq]
        exact ofValue_eq_some_iff.mp hfirst
      · exact Option.some.inj ((ofValue_eq_some_iff.mpr heq).symm.trans hfirst)

-- A datapoint may be written when the operator trusts the layout and names it.
theorem mayWrite_of_build (h : buildBestwayProfile read settings = some profile)
    (datapoint : Datapoint) :
    profile.mayWrite datapoint = true ↔ settings.bestwayTrustProfile = true ∧
      datapoint.value ∈ settings.bestwayWriteEnabled := by
  simp only [buildBestwayProfile, Option.bind_eq_bind, Option.bind_eq_some_iff] at h
  obtain ⟨base, -, writable, hwritable, hvalid⟩ := h
  have hdump := validate_dump hvalid
  have htrusted : profile.trusted = settings.bestwayTrustProfile := congrArg Layout.trusted hdump
  have hnames : profile.writable = writable := congrArg Layout.writable hdump
  rw [DatapointProfile.mayWrite, decide_eq_true_eq, htrusted, hnames,
    mem_of_mapM_ofValue hwritable]

end Build

section Works

variable {profile : DatapointProfile} {datapoint : Datapoint}

theorem buildControlPayload_ok_iff {sequence attrFlags : Nat} {attrVals : Bytes}
    (hsequence : sequence < 2 ^ 32) :
    (∃ body, buildControlPayload sequence attrFlags attrVals = .ok body) ↔
      attrFlags < 2 ^ 16 ∧ attrVals ≠ [] := by
  have hwidth : 8 * CONTROL_ATTR_FLAGS_BYTES = 16 := rfl
  unfold buildControlPayload
  rw [if_neg (not_not.mpr hsequence), hwidth]
  split
  · rename_i hflags
    simp only [reduceCtorEq, exists_false, false_iff, not_and]
    exact fun h => absurd h hflags
  · rename_i hflags
    rw [not_not] at hflags
    split
    · rename_i hvals
      simp [hvals]
    · rename_i hvals
      exact ⟨fun _ => ⟨hflags, hvals⟩, fun _ => ⟨_, rfl⟩⟩

theorem flag_lt_iff (flagBit : Nat) : 1 <<< flagBit < 2 ^ 16 ↔ flagBit < 16 := by
  rw [Nat.one_shiftLeft]
  exact Nat.pow_lt_pow_iff_right (by decide)

-- A verified limit is a number of degrees.
theorem finite_of_bounded {limit : PyFloat}
    (h : (PyFloat.finite 0).le limit ∧ limit.le (.finite 60)) :
    ∃ value : ℚ, limit = .finite value ∧ 0 ≤ value ∧ value ≤ 60 := by
  cases limit with
  | finite value => exact ⟨value, rfl, by simpa [PyFloat.le] using h⟩
  | posInf => simp [PyFloat.le] at h
  | negInf => simp [PyFloat.le] at h
  | nan => simp [PyFloat.le] at h

theorem limits_finite (profile : DatapointProfile) : ∃ minimum maximum : ℚ,
    profile.targetTemperatureMinC = .finite minimum ∧
    profile.targetTemperatureMaxC = .finite maximum ∧
    0 ≤ minimum ∧ minimum < maximum ∧ maximum ≤ 60 := by
  obtain ⟨minimum, hmin, hlow, -⟩ := finite_of_bounded
    (profile.limits_bounded profile.targetTemperatureMinC (by simp))
  obtain ⟨maximum, hmax, -, hhigh⟩ := finite_of_bounded
    (profile.limits_bounded profile.targetTemperatureMaxC (by simp))
  have hordered := profile.range_ordered
  rw [hmin, hmax] at hordered
  exact ⟨minimum, maximum, hmin, hmax, hlow, by simpa [PyFloat.le] using hordered, hhigh⟩

-- A setpoint fits one byte in either unit.
theorem fromCelsius_bounds {celsius : ℚ} (hlow : 0 ≤ celsius) (hhigh : celsius ≤ 60)
    (fahrenheit : Bool) : 0 ≤ fromCelsius celsius fahrenheit ∧
      fromCelsius celsius fahrenheit ≤ 140 := by
  cases fahrenheit with
  | true =>
      refine ⟨PyFloat.le_roundHalfEven ?_, PyFloat.roundHalfEven_le ?_⟩
      · rw [if_pos rfl]
        push_cast
        linarith
      · rw [if_pos rfl]
        push_cast
        linarith
  | false =>
      refine ⟨PyFloat.le_roundHalfEven ?_, PyFloat.roundHalfEven_le ?_⟩
      · simpa using hlow
      · rw [if_neg (by decide)]
        push_cast
        linarith

theorem fits_of_passed {value : Value} (h : Passed profile datapoint value) (location : Location) :
    location.Fits value := by
  cases location with
  | bit offset place => trivial
  | byte offset =>
      cases h with
      | flag hflag on => cases on <;> exact ⟨by decide, by decide⟩
      | setpoint celsius fahrenheit hmin hmax =>
          obtain ⟨minimum, maximum, hminimum, hmaximum, hlow, -, hhigh⟩ := limits_finite profile
          rw [hminimum] at hmin
          rw [hmaximum] at hmax
          simp only [PyFloat.le, decide_eq_true_eq] at hmin hmax
          have hbounds := fromCelsius_bounds (hlow.trans hmin) (hmax.trans hhigh) fahrenheit
          exact ⟨hbounds.1, by simp only [Value.number]; omega⟩

-- Every other datapoint that may be written has a value the adapter passes.
theorem exists_passed (hwrite : profile.mayWrite datapoint = true)
    (h : datapoint ≠ .currentTemperature) : ∃ value, Passed profile datapoint value := by
  cases datapoint with
  | currentTemperature => exact absurd rfl h
  | targetTemperature =>
      obtain ⟨minimum, maximum, hminimum, hmaximum, -, hlt, -⟩ := limits_finite profile
      refine ⟨_, .setpoint minimum false ?_ ?_⟩
      · simp [hminimum, PyFloat.le]
      · simp [hmaximum, PyFloat.le, hlt.le]
  | heater | filterPump | bubbles | controlPanelLock | unitIsFahrenheit =>
      exact ⟨_, .flag (by decide) true⟩

theorem alwaysWorks_iff (hwrite : profile.mayWrite datapoint = true) :
    AlwaysWorks profile datapoint ↔
      datapoint = .currentTemperature ∨ BlockHolds profile datapoint := by
  constructor
  · intro h
    by_cases hcurrent : datapoint = .currentTemperature
    · exact Or.inl hcurrent
    · obtain ⟨value, hvalue⟩ := exists_passed hwrite hcurrent
      have hlength : (List.replicate profile.shortest (0 : UInt8)).length = profile.shortest :=
        List.length_replicate
      obtain ⟨decoded, hdecode⟩ := DatapointProfile.decodes_iff.mpr hlength.ge
      obtain ⟨attrFlags, attrVals, hencode, haccepted⟩ := h _ decoded hdecode value hvalue
      obtain ⟨-, block, -, rfl, -⟩ := DatapointProfile.encodeControl_of_ok hencode
      have hflags := (buildControlPayload_ok_iff (by decide)).mp (haccepted 0 (by decide))
      exact Or.inr ⟨block.longer hlength.le, (flag_lt_iff _).mp hflags.1⟩
  · rintro (rfl | ⟨block, hflag⟩) payload decoded hdecode value hvalue
    · cases hvalue with
      | flag hflag on => exact absurd hflag (by decide)
    · have hlength := DatapointProfile.decodes_iff.mp ⟨decoded, hdecode⟩
      refine ⟨_, _, DatapointProfile.encodeControl_of_block hwrite (block.longer hlength)
        (fits_of_passed hvalue _), fun sequence hsequence => ?_⟩
      refine (buildControlPayload_ok_iff hsequence).mpr ⟨(flag_lt_iff _).mpr hflag, fun hnil => ?_⟩
      have hvalues := congrArg List.length (List.modify_eq_nil_iff.mp hnil)
      rw [(block.longer hlength).values_length] at hvalues
      have hindex := (block.longer hlength).index_lt
      simp only [List.length_nil] at hvalues
      omega

end Works

-- Of the fields a control request needs, only the flag bit and the location of a released
-- datapoint are looked for when the gateway starts.
theorem released_works_iff {read : String → Option Layout} {settings : Settings}
    {profile : DatapointProfile} (hbuild : buildBestwayProfile read settings = some profile)
    {datapoint : Datapoint} (htrusted : settings.bestwayTrustProfile = true)
    (hreleased : datapoint.value ∈ settings.bestwayWriteEnabled) :
    AlwaysWorks profile datapoint ↔
      datapoint = .currentTemperature ∨ BlockHolds profile datapoint :=
  alwaysWorks_iff ((mayWrite_of_build hbuild datapoint).mpr ⟨htrusted, hreleased⟩)

def heaterReleased : Settings :=
  { bestwayProfile := "airjet-19byte", bestwayTrustProfile := true
    bestwayWriteEnabled := ["HEATER"] }

theorem released_works_iff_heater : ∃ profile,
    buildBestwayProfile (fun _ => none) heaterReleased = some profile ∧
      (AlwaysWorks profile .heater ↔
        Datapoint.heater = .currentTemperature ∨ BlockHolds profile .heater) := by
  obtain ⟨profile, hbuild⟩ := Option.isSome_iff_exists.mp
    (show (buildBestwayProfile (fun _ => none) heaterReleased).isSome = true by decide +kernel)
  exact ⟨profile, hbuild, released_works_iff hbuild rfl (by decide)⟩

-- A layout that names the location and the flag bit of the heater, but no control values.
def withoutBlock : Layout :=
  { AIRJET_19BYTE_PROFILE.dump with controlValuesOffset := none, controlValuesLength := none }

theorem released_heater_fails : ∃ profile,
    buildBestwayProfile (fun _ => some withoutBlock)
        { heaterReleased with bestwayProfilePath := some "layout.json" } = some profile ∧
      profile.mayWrite .heater = true ∧ ¬AlwaysWorks profile .heater := by
  obtain ⟨profile, hbuild, hfails⟩ := (Option.any_eq_true _ _).mp
    (show (buildBestwayProfile (fun _ => some withoutBlock)
        { heaterReleased with bestwayProfilePath := some "layout.json" }).any (fun profile =>
      decide (profile.mayWrite .heater = true ∧
        (profile.decode (List.replicate 19 0)).toOption.isSome = true ∧
        (profile.encodeControl .heater (.bool true) (List.replicate 19 0)).toOption = none)) = true
      by decide +kernel)
  obtain ⟨hwrite, hdecode, hencode⟩ := of_decide_eq_true hfails
  refine ⟨profile, hbuild, hwrite, fun hworks => ?_⟩
  cases hdecoded : profile.decode (List.replicate 19 0) with
  | error error =>
      rw [hdecoded] at hdecode
      cases hdecode
  | ok decoded =>
      obtain ⟨attrFlags, attrVals, hok, -⟩ :=
        hworks _ decoded hdecoded _ (.flag (by decide) true)
      rw [hok] at hencode
      cases hencode

end Homeflow.Bestway
