import Homeflow.Bestway.Confirm
import Homeflow.Bestway.Setpoint
import Homeflow.Commands.Policy

namespace Homeflow.Bestway

-- The unit of the controller, as a status block shows it.
def unitOf (profile : DatapointProfile) (block : Bytes) : Bool :=
  match profile.decode block with
  | .error _ => false
  | .ok decoded => (decoded .unitIsFahrenheit).any Value.truth

-- The reconciliation's comparison of setpoints in exact arithmetic.
def isNearExactly (target : PyFloat) (celsius : ℚ) : Bool :=
  (target.sub (.finite celsius)).abs.le (.finite (1 / 20))

theorem isNearExactly_finite (target celsius : ℚ) :
    isNearExactly (.finite target) celsius = true ↔ |target - celsius| ≤ 1 / 20 := by
  simp [isNearExactly, PyFloat.sub, PyFloat.neg, PyFloat.add, PyFloat.abs, PyFloat.le,
    ← sub_eq_add_neg]

-- Some whole degree of the controller is shown as this temperature, but for the tolerance of
-- the reconciliation.
def Representable (celsius : ℚ) (fahrenheit : Bool) : Prop :=
  ∃ degrees : ℤ, |shownCelsius degrees fahrenheit - celsius| ≤ 1 / 20

section Degrees

variable {celsius : ℚ}

-- A tenth of a degree Celsius is less than half a degree Fahrenheit.
theorem fromCelsius_near {degrees : ℤ} {fahrenheit : Bool}
    (h : |shownCelsius degrees fahrenheit - celsius| ≤ 1 / 20) :
    fromCelsius celsius fahrenheit = degrees := by
  refine PyFloat.roundHalfEven_eq_of_lt ?_
  cases fahrenheit with
  | false =>
      simp only [shownCelsius, Bool.false_eq_true, if_false] at h ⊢
      linarith
  | true =>
      have htenths := PyFloat.roundHalfEven_sub_le (((degrees : ℚ) - 32) * 5 / 9 * 10)
      simp only [shownCelsius, if_true] at h ⊢
      rw [abs_le] at h htenths
      rw [abs_lt]
      constructor
      · linarith
      · linarith

-- If any whole degree comes close enough, the one that is written does.
theorem near_iff_representable (fahrenheit : Bool) :
    |shownCelsius (fromCelsius celsius fahrenheit) fahrenheit - celsius| ≤ 1 / 20 ↔
      Representable celsius fahrenheit := by
  constructor
  · intro h
    exact ⟨_, h⟩
  · rintro ⟨degrees, h⟩
    rw [fromCelsius_near h]
    exact h

-- The two scales agree below zero only.
theorem units_far (hcelsius : 0 ≤ celsius) {written shown : Bool} (h : shown ≠ written) :
    ¬|shownCelsius (fromCelsius celsius written) shown - celsius| ≤ 1 / 20 := by
  have hrounded := PyFloat.roundHalfEven_sub_le (inUnit celsius written)
  rw [← fromCelsius_eq, abs_le] at hrounded
  intro hnear
  rw [abs_le] at hnear
  cases written with
  | true =>
      obtain rfl : shown = false := by simpa using h
      simp only [shownCelsius, inUnit, Bool.false_eq_true, if_false, if_true] at hnear hrounded
      linarith
  | false =>
      obtain rfl : shown = true := by simpa using h
      have htenths := PyFloat.roundHalfEven_sub_le
        (((fromCelsius celsius false : ℚ) - 32) * 5 / 9 * 10)
      rw [abs_le] at htenths
      simp only [shownCelsius, inUnit, Bool.false_eq_true, if_false, if_true] at hnear hrounded
      linarith

theorem near_iff (hcelsius : 0 ≤ celsius) (written shown : Bool) :
    |shownCelsius (fromCelsius celsius written) shown - celsius| ≤ 1 / 20 ↔
      shown = written ∧ Representable celsius written := by
  by_cases h : shown = written
  · subst h
    rw [near_iff_representable, and_iff_right rfl]
  · constructor
    · intro hnear
      exact absurd hnear (units_far hcelsius h)
    · rintro ⟨hsame, -⟩
      exact absurd hsame h

end Degrees

section Applied

variable {profile : DatapointProfile} {celsius : Setpoint} {block : Bytes}

-- The setpoint is written in whole degrees of the unit that the first read shows.
theorem Requested.setpoint {base : Bytes} {request : ControlRequest}
    (h : Requested profile ⟨.setTargetTemperature, .targetTemperature celsius⟩ base request) :
    request.datapoint = .targetTemperature ∧
      request.value = .int (fromCelsius celsius.val (unitOf profile base)) := by
  obtain ⟨decoded, hdecode, hvalue⟩ := h.value
  refine ⟨(Option.some.inj h.datapoint).symm, ?_⟩
  simp only [valueFor] at hvalue
  split at hvalue
  · rw [unitOf, hdecode]
    exact (Option.some.inj hvalue).symm
  · cases hvalue

-- What a block that shows a number is taken for.
theorem shows_target {number : Int}
    (h : shows profile .targetTemperature (.int number) block = true)
    (now : Time) : ∃ observed, blockState profile now block = some observed ∧
      observed.state.targetTemperatureC =
        some (.finite (shownCelsius number (unitOf profile block))) := by
  unfold shows at h
  split at h
  · cases h
  · next decoded hdecode =>
    obtain ⟨raw, hraw, hsame⟩ := (Option.any_eq_true _ _).mp h
    have hnumber : raw.number = number := (decide_eq_true_eq.mp hsame).symm
    refine ⟨BestwayProvider.snapshot decoded now, by rw [blockState, hdecode], ?_⟩
    simp only [BestwayProvider.snapshot, BestwayProvider.stateOf, hraw, Option.map_some, hnumber,
      unitOf, hdecode]
    rw [toCelsius_eq]

end Applied

-- An applied setpoint is what was asked for exactly if the controller has not changed its unit
-- in between, and has a whole degree that is close enough to it.
theorem applied_matches_iff {provider : BestwayProvider} {ref : ProviderDeviceRef}
    {celsius : Setpoint} {turns : List Turn} {executed : Executed Bytes}
    (hrun : Machine.run (Execution.turn provider)
      (.start ref ⟨.setTargetTemperature, .targetTemperature celsius⟩) turns =
        some (.ended (.ok executed)))
    (happlied : executed.outcome = .applied) :
    ∃ base block, (readings turns).head? = some (.ok base) ∧
      (readings turns).getLast? = some (.ok block) ∧
      ∀ now, ∃ observed, executed.state provider.profile now = some observed ∧
        (desiredMatchesBy isNearExactly .setTargetTemperature (.targetTemperature celsius)
            observed.state = some true ↔
          unitOf provider.profile block = unitOf provider.profile base ∧
            Representable celsius.val (unitOf provider.profile base)) := by
  cases ran_run hrun with
  | judged hconfirming hbudget hlength hjudged =>
      next base request after =>
      obtain ⟨block, hlast, hobserved, hshows⟩ := hjudged.shown happlied
      obtain ⟨hdatapoint, hvalue⟩ := hconfirming.requested.setpoint
      rw [hdatapoint, hvalue] at hshows
      have hreadings := hconfirming.readings_eq
      refine ⟨base, block, by rw [hreadings]; rfl, ?_, fun now => ?_⟩
      · rw [hreadings, List.getLast?_cons, hlast, Option.getD_some]
      · obtain ⟨observed, hstate, htarget⟩ := shows_target hshows now
        refine ⟨observed, by rw [Executed.state, hobserved, Option.bind_some, hstate], ?_⟩
        rw [desiredMatchesBy_target celsius observed.state _ htarget, isNearExactly_finite]
        exact near_iff celsius.property.1 _ _

def setpointProvider : BestwayProvider where
  profile :=
    { AIRJET_19BYTE_PROFILE with
      trusted := true
      writable := [.targetTemperature]
      writable_known := by decide }

def atTwenty : Bytes := heaterOffBlock.set 2 20

-- Twenty degrees are written, and read back.
def twentyTurns : List Turn :=
  [.read (.ok heaterOffBlock), .written, .drained, .read (.ok atTwenty)]

theorem twenty_run (celsius : Setpoint) (hmin : 20 ≤ celsius.val) (hmax : celsius.val ≤ 41 / 2) :
    Machine.run (Execution.turn setpointProvider)
      (.start airjetRef ⟨.setTargetTemperature, .targetTemperature celsius⟩) twentyTurns =
        some (.ended (.ok ⟨.applied, some atTwenty, none⟩)) := by
  have hwritten : fromCelsius celsius.val false = 20 := by
    refine le_antisymm (PyFloat.roundsToAtMost_iff.mp ?_) (PyFloat.le_roundHalfEven ?_)
    · simp only [PyFloat.RoundsToAtMost, Bool.false_eq_true, if_false]
      norm_num
      exact hmax
    · exact_mod_cast hmin
  have hrange : setpointProvider.profile.targetTemperatureMinC.le (.finite celsius.val) ∧
      (PyFloat.finite celsius.val).le setpointProvider.profile.targetTemperatureMaxC := by
    simp only [setpointProvider, AIRJET_19BYTE_PROFILE, PyFloat.le, decide_eq_true_eq]
    constructor
    · exact hmin
    · linarith
  obtain ⟨decoded, hdecode, hunit⟩ : ∃ decoded,
      setpointProvider.profile.decode heaterOffBlock = .ok decoded ∧
        decoded .unitIsFahrenheit = none := ⟨_, rfl, rfl⟩
  have hprepare : (Execution.reading .targetTemperature (.targetTemperature celsius)).readEnds
      setpointProvider (fun payload => payload) (.ok heaterOffBlock) =
        .writing ⟨.targetTemperature, .int 20, 128, (heaterOffBlock.take 14).set 1 20⟩
          heaterOffBlock := by
    rw [Execution.readEnds, Execution.prepare, hdecode]
    simp only [valueFor, if_pos hrange, hunit, Option.any_none, hwritten]
    rfl
  have hturn : Execution.turn setpointProvider
      (.start airjetRef ⟨.setTargetTemperature, .targetTemperature celsius⟩)
      (.read (.ok heaterOffBlock)) =
        some (.writing ⟨.targetTemperature, .int 20, 128, (heaterOffBlock.take 14).set 1 20⟩
          heaterOffBlock) :=
    congrArg some hprepare
  rw [twentyTurns, Machine.run, hturn, Option.bind_some]
  rfl

def twentyDegrees : Setpoint := ⟨20, by norm_num⟩

theorem applied_matches_iff_twenty : ∃ base block,
    (readings twentyTurns).head? = some (.ok base) ∧
      (readings twentyTurns).getLast? = some (.ok block) ∧
      ∃ observed, blockState setpointProvider.profile 0 atTwenty = some observed ∧
        (desiredMatchesBy isNearExactly .setTargetTemperature (.targetTemperature twentyDegrees)
            observed.state = some true ↔
          unitOf setpointProvider.profile block = unitOf setpointProvider.profile base ∧
            Representable 20 (unitOf setpointProvider.profile base)) := by
  obtain ⟨base, block, hbase, hblock, hstate⟩ := applied_matches_iff
    (twenty_run twentyDegrees (le_refl _) (by norm_num [twentyDegrees])) rfl
  exact ⟨base, block, hbase, hblock, hstate 0⟩

-- Asked for twenty degrees and four tenths, the controller is told twenty.
theorem applied_fraction_differs :
    ¬∀ (celsius : Setpoint) (executed : Executed Bytes),
      Machine.run (Execution.turn setpointProvider)
        (.start airjetRef ⟨.setTargetTemperature, .targetTemperature celsius⟩) twentyTurns =
          some (.ended (.ok executed)) → executed.outcome = .applied →
      ∀ now observed, executed.state setpointProvider.profile now = some observed →
        desiredMatchesBy isNearExactly .setTargetTemperature (.targetTemperature celsius)
          observed.state = some true := by
  intro h
  have hmatches := h ⟨102 / 5, by norm_num⟩ _
    (twenty_run _ (by norm_num) (by norm_num)) rfl 0 _ rfl
  rw [desiredMatchesBy_target _ _ (.finite 20) rfl, isNearExactly_finite] at hmatches
  norm_num [abs_le] at hmatches

end Homeflow.Bestway
