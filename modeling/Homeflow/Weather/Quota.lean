import Homeflow.Commands.Serial
import Homeflow.Lib.Spacing
import Homeflow.Weather.Provider

-- How often the service is asked, and what of its answers gets through.
namespace Homeflow.Weather

open Main (Jitter)
open Spacing

def Effect.time? : Effect → Option ℚ
  | .asked time => some time
  | .reading _ | .unavailable | .raised => none

def requests (trace : List Effect) : List ℚ := trace.filterMap Effect.time?

-- How many requests in a row the service has not answered, up to now.
def streak (past : List Effect) : Nat :=
  past.foldl (fun count effect =>
    match effect with
    | .asked _ => count
    | .unavailable => count + 1
    | .reading _ | .raised => 0) 0

-- The least that is waited for it on top of the usual interval.
def pause : Nat → ℚ
  | 0 => 0
  | failures + 1 => min (INITIAL_BACKOFF_SECONDS * 2 ^ failures) MAX_BACKOFF_SECONDS

-- Between two requests the interval passes, and after failures longer and longer pauses too.
def Sparing (pollSeconds : ℚ) (trace : List Effect) : Prop :=
  History.Always (fun past effect => ∀ time, effect = .asked time →
    ∀ earlier ∈ requests past, earlier + pollSeconds + pause (streak past) ≤ time) trace

-- What gets through is a temperature, in tenths of a degree.
def Plausible (celsius : PyFloat) : Prop :=
  ∃ tenths : ℤ, celsius = .finite (tenths / 10) ∧ -900 ≤ tenths ∧ tenths ≤ 600

section Trace

variable {past : List Effect} {effect : Effect}

theorem requests_concat : requests (past ++ [effect]) = requests past ++ effect.time?.toList := by
  rw [requests, List.filterMap_append]
  cases effect <;> rfl

theorem streak_concat : streak (past ++ [effect]) =
    match effect with
    | .asked _ => streak past
    | .unavailable => streak past + 1
    | .reading _ | .raised => 0 :=
  List.foldl_concat _ _ _ _

theorem pause_nonneg (failures : Nat) : 0 ≤ pause failures := by
  cases failures with
  | zero => exact le_rfl
  | succ failures =>
      refine le_min ?_ (by norm_num [MAX_BACKOFF_SECONDS])
      exact mul_nonneg (by norm_num [INITIAL_BACKOFF_SECONDS]) (by positivity)

theorem pause_one : pause 1 = INITIAL_BACKOFF_SECONDS := by
  norm_num [pause, INITIAL_BACKOFF_SECONDS, MAX_BACKOFF_SECONDS]

-- The pause doubles up to an hour.
theorem pause_double (failures : Nat) :
    min (pause (failures + 1) * 2) MAX_BACKOFF_SECONDS = pause (failures + 2) := by
  have hmax : (0 : ℚ) ≤ MAX_BACKOFF_SECONDS := by norm_num [MAX_BACKOFF_SECONDS]
  rw [pause, pause, min_mul_of_nonneg _ _ (by norm_num), min_assoc,
    min_eq_right (a := MAX_BACKOFF_SECONDS * 2) (by linarith), pow_succ, mul_assoc]

theorem sparing_concat_of_ne {pollSeconds : ℚ} (h : Sparing pollSeconds past)
    (hne : ∀ time, effect ≠ .asked time) : Sparing pollSeconds (past ++ [effect]) :=
  h.concat fun time htime => absurd htime (hne time)

-- The requests keep their distance.
theorem Sparing.spaced {pollSeconds : ℚ} (h : Sparing pollSeconds past) :
    Spaced pollSeconds (requests past) := by
  induction past using List.reverseRecOn with
  | nil => exact List.Pairwise.nil
  | append_singleton past effect ih =>
      have hbefore := ih (h.shorten (List.prefix_append past [effect]))
      rw [requests_concat]
      cases effect with
      | asked time =>
          refine spaced_concat.mpr ⟨hbefore, fun earlier hearlier => ?_⟩
          have hwaited := h past (.asked time) [] rfl time rfl earlier hearlier
          linarith [pause_nonneg (streak past)]
      | reading | unavailable | raised => simpa [Effect.time?] using hbefore

end Trace

theorem roundTenths_plausible {value : PyFloat} (h : inPlausibleRange value = true) :
    Plausible (roundTenths value) := by
  cases value with
  | posInf | negInf | nan => cases h
  | finite value =>
      obtain ⟨hlow, hhigh⟩ : -90 ≤ value ∧ value ≤ 60 := of_decide_eq_true h
      refine ⟨PyFloat.roundHalfEven (10 * value), rfl, ?_, ?_⟩
      · exact PyFloat.le_roundHalfEven (by push_cast; linarith)
      · exact PyFloat.roundHalfEven_le (by push_cast; linarith)

theorem fetch_plausible {coercion : Coercion} {answer : Answer} {celsius : PyFloat}
    (h : fetch coercion answer = .ok celsius) : Plausible celsius := by
  cases answer with
  | failed | raised => cases h
  | payload json =>
      simp only [fetch] at h
      split at h
      · next value hvalue =>
          cases h
          unfold temperature at hvalue
          split at hvalue
          · split at hvalue
            · exact roundTenths_plausible (Option.filter_eq_some_iff.mp hvalue).2
            · cases hvalue
          · cases hvalue
      · cases h

section Runs

variable {provider : OpenMeteoProvider} {coercion : Coercion}
  {world after final : World} {label : Label} {labels : List Label} {effect : Effect}

-- Every request is at least these seconds past at that time.
def World.Since (world : World) (seconds time : ℚ) : Prop :=
  ∀ earlier ∈ requests world.trace, earlier + seconds ≤ time

-- What the phase tells of the failures in a row and of the sleep.
def World.Fits (pollSeconds : ℚ) (world : World) : Prop :=
  match world.phase with
  | .idle | .resting _ => streak world.trace = 0
  | .sleeping deadline =>
      world.backoff = pause (streak world.trace + 1) ∧
        world.Since (pollSeconds + pause (streak world.trace)) deadline
  | .backing deadline =>
      0 < streak world.trace ∧ world.backoff = pause (streak world.trace) ∧
        world.Since (pause (streak world.trace)) deadline
  | .fetching => world.backoff = pause (streak world.trace + 1)
  | .yielded => world.backoff = INITIAL_BACKOFF_SECONDS ∧ streak world.trace = 0
  | .stopped => True

structure Inv (pollSeconds : ℚ) (world : World) : Prop where
  past : world.Since 0 world.now
  fits : world.Fits pollSeconds
  sparing : Sparing pollSeconds world.trace
  readings : ∀ celsius, .reading celsius ∈ world.trace → Plausible celsius

theorem World.requests_emit (hnone : effect.time? = none) :
    requests (world.emit effect).trace = requests world.trace := by
  rw [World.emit, requests_concat, hnone, Option.toList_none, List.append_nil]

-- A request is made only when the sleep before it is over.
theorem Inv.ask {pollSeconds deadline : ℚ} (h : Inv pollSeconds world)
    (hphase : world.phase = .sleeping deadline) (hover : deadline ≤ world.now) :
    Inv pollSeconds
      ({ world with phase := .fetching : World }.emit (.asked world.now)) := by
  obtain ⟨hbackoff, hsince⟩ : world.backoff = pause (streak world.trace + 1) ∧
      world.Since (pollSeconds + pause (streak world.trace)) deadline := by
    simpa [World.Fits, hphase] using h.fits
  refine ⟨fun earlier hearlier => ?_, ?_, ?_, fun celsius hread => ?_⟩
  · rw [World.emit, requests_concat] at hearlier
    rcases List.mem_append.mp hearlier with hold | hnew
    · exact h.past earlier hold
    · rw [List.mem_singleton.mp hnew, add_zero]
      exact le_rfl
  · simpa [World.Fits, World.emit, streak_concat] using hbackoff
  · refine h.sparing.concat fun time htime earlier hearlier => ?_
    cases htime
    linarith [hsince earlier hearlier]
  · rcases List.mem_append.mp hread with hold | hnew
    · exact h.readings celsius hold
    · cases List.mem_singleton.mp hnew

-- The request ends, and nothing is asked.
theorem Inv.settle {pollSeconds : ℚ} (h : Inv pollSeconds world)
    (effect : Effect) (hnone : effect.time? = none)
    (hreading : ∀ celsius, effect = .reading celsius → Plausible celsius)
    (hafter : after.trace = (world.emit effect).trace) (hnow : after.now = world.now)
    (hfits : after.Fits pollSeconds) : Inv pollSeconds after := by
  refine ⟨?_, hfits, ?_, fun celsius hread => ?_⟩
  · rw [World.Since, hafter, World.requests_emit hnone, hnow]
    exact h.past
  · rw [hafter]
    refine sparing_concat_of_ne h.sparing fun time htime => ?_
    rw [htime] at hnone
    cases hnone
  · rw [hafter] at hread
    rcases List.mem_append.mp hread with hold | hnew
    · exact h.readings celsius hold
    · exact hreading celsius (List.mem_singleton.mp hnew).symm

-- Nothing happens to the trace.
theorem Inv.rest {pollSeconds : ℚ} (h : Inv pollSeconds world)
    (htrace : after.trace = world.trace) (hnow : world.now ≤ after.now)
    (hfits : after.Fits pollSeconds) : Inv pollSeconds after := by
  refine ⟨fun earlier hearlier => (h.past earlier (htrace ▸ hearlier)).trans hnow, hfits, ?_, ?_⟩
  · rw [htrace]
    exact h.sparing
  · rw [htrace]
    exact h.readings

theorem World.fails_eq {jitter : Jitter} (h : world.fails jitter = some after) :
    after.trace = world.trace ∧ after.now = world.now ∧
      ∃ deadline, after.phase = .resting deadline := by
  obtain ⟨supervisor, -, rfl⟩ := Option.map_eq_some_iff.mp h
  exact ⟨rfl, rfl, _, rfl⟩

theorem Inv.fail {pollSeconds : ℚ} {jitter : Jitter} (h : Inv pollSeconds world)
    (hfresh : streak world.trace = 0) (hfails : world.fails jitter = some after) :
    Inv pollSeconds after := by
  obtain ⟨htrace, hnow, deadline, hphase⟩ := World.fails_eq hfails
  refine h.rest htrace hnow.ge ?_
  simpa [World.Fits, hphase, htrace] using hfresh

-- The sleep that starts now is as long as the interval, and comes after the pause.
theorem World.fits_sleep (world : World) {pollSeconds start : ℚ}
    (htrace : after.trace = world.trace)
    (hphase : after.phase = .sleeping (start + pollSeconds))
    (hbackoff : after.backoff = pause (streak world.trace + 1))
    (hsince : world.Since (pause (streak world.trace)) start) : after.Fits pollSeconds := by
  simp only [World.Fits, hphase, htrace]
  refine ⟨hbackoff, fun earlier hearlier => ?_⟩
  rw [htrace] at hearlier
  linarith [hsince earlier hearlier]

theorem inv_subscribes (h : Inv provider.pollSeconds world)
    (hstep : world.step provider coercion .subscribes = some after) :
    Inv provider.pollSeconds after := by
  simp only [World.step] at hstep
  split at hstep
  · next hphase =>
      obtain ⟨supervisor, -, rfl⟩ := Option.map_eq_some_iff.mp hstep
      have hfresh : streak world.trace = 0 := by simpa [World.Fits, hphase] using h.fits
      refine h.rest rfl le_rfl (World.fits_sleep world rfl rfl ?_ ?_)
      · rw [hfresh]
        exact pause_one.symm
      · rw [hfresh]
        exact h.past
  · cases hstep

theorem inv_wakes (h : Inv provider.pollSeconds world)
    (hstep : world.step provider coercion .wakes = some after) :
    Inv provider.pollSeconds after := by
  simp only [World.step] at hstep
  split at hstep
  · next deadline hphase =>
      obtain ⟨hover, hafter⟩ := Option.ite_none_right_eq_some.mp hstep
      cases hafter
      exact h.ask hphase hover
  · next deadline hphase =>
      obtain ⟨hover, hafter⟩ := Option.ite_none_right_eq_some.mp hstep
      cases hafter
      obtain ⟨hsome, hbackoff, hsince⟩ : 0 < streak world.trace ∧
          world.backoff = pause (streak world.trace) ∧
          world.Since (pause (streak world.trace)) deadline := by
        simpa [World.Fits, hphase] using h.fits
      refine h.rest rfl le_rfl (World.fits_sleep world rfl rfl ?_ fun earlier hearlier =>
        (hsince earlier hearlier).trans hover)
      obtain ⟨failures, hfailures⟩ := Nat.exists_eq_succ_of_ne_zero hsome.ne'
      rw [hbackoff, hfailures]
      exact pause_double failures
  · next deadline hphase =>
      obtain ⟨-, hafter⟩ := Option.ite_none_right_eq_some.mp hstep
      obtain ⟨supervisor, -, rfl⟩ := Option.map_eq_some_iff.mp hafter
      have hfresh : streak world.trace = 0 := by simpa [World.Fits, hphase] using h.fits
      exact h.rest rfl le_rfl hfresh
  · cases hstep

theorem inv_answered {answer : Answer} {jitter : Jitter}
    (h : Inv provider.pollSeconds world)
    (hstep : world.step provider coercion (.answered answer jitter) = some after) :
    Inv provider.pollSeconds after := by
  simp only [World.step] at hstep
  split at hstep
  · next hphase =>
      have hbackoff : world.backoff = pause (streak world.trace + 1) := by
        simpa [World.Fits, hphase] using h.fits
      split at hstep
      · next celsius hcelsius =>
          cases hstep
          refine h.settle (.reading celsius) rfl
            (fun other hother => Effect.reading.inj hother ▸ fetch_plausible hcelsius) rfl rfl ?_
          exact ⟨rfl, streak_concat⟩
      · cases hstep
        refine h.settle .unavailable rfl (fun _ hother => nomatch hother) rfl rfl ?_
        have hstreak : streak (world.trace ++ [.unavailable]) = streak world.trace + 1 :=
          streak_concat
        simp only [World.Fits, World.emit, hstreak]
        refine ⟨Nat.succ_pos _, hbackoff, fun earlier hearlier => ?_⟩
        have hasked : earlier ≤ world.now := by
          simpa using h.past earlier (by simpa [requests_concat, Effect.time?] using hearlier)
        have hpause : pause (streak world.trace + 1) ≤
            min (world.backoff + jitter * 30) MAX_BACKOFF_SECONDS := by
          refine le_min ?_ (min_le_right _ _)
          linarith [jitter.2.1]
        linarith
      · have hraised : Inv provider.pollSeconds
            { world.emit .raised with phase := .resting 0 } :=
          h.settle .raised rfl (fun _ hother => nomatch hother) rfl rfl streak_concat
        obtain ⟨htrace, hnow, deadline, hafter⟩ := World.fails_eq hstep
        refine hraised.rest htrace hnow.ge ?_
        simp [World.Fits, hafter, htrace, World.emit, streak_concat]
  · cases hstep

theorem inv_step (h : Inv provider.pollSeconds world)
    (hstep : world.step provider coercion label = some after) :
    Inv provider.pollSeconds after := by
  cases label with
  | elapses seconds =>
      cases hstep
      exact h.rest rfl (le_add_of_nonneg_right seconds.2) h.fits
  | subscribes => exact inv_subscribes h hstep
  | wakes => exact inv_wakes h hstep
  | answered answer jitter => exact inv_answered h hstep
  | ingested =>
      simp only [World.step] at hstep
      split at hstep
      · next hphase =>
          obtain ⟨supervisor, -, rfl⟩ := Option.map_eq_some_iff.mp hstep
          obtain ⟨hbackoff, hfresh⟩ : world.backoff = INITIAL_BACKOFF_SECONDS ∧
              streak world.trace = 0 := by simpa [World.Fits, hphase] using h.fits
          refine h.rest rfl le_rfl (World.fits_sleep world rfl rfl ?_ ?_)
          · rw [hfresh]
            exact hbackoff.trans pause_one.symm
          · rw [hfresh]
            exact h.past
      · cases hstep
  | ingestFails jitter =>
      simp only [World.step] at hstep
      split at hstep
      · next hphase =>
          have hfits : world.backoff = INITIAL_BACKOFF_SECONDS ∧ streak world.trace = 0 := by
            simpa [World.Fits, hphase] using h.fits
          exact h.fail hfits.2 hstep
      · cases hstep
  | cancelled =>
      obtain ⟨supervisor, -, rfl⟩ := Option.map_eq_some_iff.mp hstep
      exact h.rest rfl le_rfl trivial

end Runs

-- Bootstrap asks once, before the stream does.
def begin (first : Option { time : ℚ // time ≤ 0 }) : World :=
  { trace := first.toList.map fun time => .asked time }

theorem inv_begin (pollSeconds : ℚ) (first : Option { time : ℚ // time ≤ 0 }) :
    Inv pollSeconds (begin first) := by
  cases first with
  | none =>
      refine ⟨fun _ hearlier => ?_, rfl, History.always_nil, fun _ hread => ?_⟩
      · cases hearlier
      · cases hread
  | some time =>
      refine ⟨fun earlier hearlier => ?_, rfl, ?_, fun celsius hread => ?_⟩
      · obtain rfl := List.mem_singleton.mp hearlier
        rw [add_zero]
        exact time.2
      · exact History.Always.concat History.always_nil fun _ _ _ hnone => nomatch hnone
      · cases List.mem_singleton.mp hread

-- The service is asked seldom, ever more so while it does not answer, and only what can be a
-- temperature of the place gets through.
theorem forecasts_are_asked_for_sparingly (provider : OpenMeteoProvider) (coercion : Coercion)
    (hpoll : 0 < provider.pollSeconds) (first : Option { time : ℚ // time ≤ 0 })
    {labels : List Label} {final : World}
    (hrun : Machine.run (World.step provider coercion) (begin first) labels = some final) :
    Sparing provider.pollSeconds final.trace ∧
      (∀ start seconds : ℚ, 0 ≤ seconds →
        within start seconds (requests final.trace) ≤ 1 + seconds / provider.pollSeconds) ∧
      ∀ celsius, .reading celsius ∈ final.trace → Plausible celsius := by
  have hinv := Machine.invariant (inv_begin provider.pollSeconds first)
    (fun before label after hbefore hnext => inv_step hbefore hnext) hrun
  exact ⟨hinv.sparing, fun start seconds hseconds =>
    hinv.sparing.spaced.within_le hpoll start hseconds, hinv.readings⟩

def discovered : { time : ℚ // time ≤ 0 } := ⟨-2, by norm_num⟩

-- A morning on which it does not answer at first.
def morning : List Label :=
  [.subscribes, .elapses ⟨900, by norm_num⟩, .wakes, .answered .failed ⟨1 / 2, by norm_num⟩,
    .elapses ⟨75, by norm_num⟩, .wakes, .elapses ⟨900, by norm_num⟩, .wakes,
    .answered (.payload (.obj [("current", .obj
      [("temperature_2m", .float (.finite (29 / 4)))])])) Main.calm]

theorem forecasts_are_asked_for_sparingly_morning :
    ∃ final, Machine.run (World.step {} Commands.strict) (begin (some discovered))
        morning = some final ∧
      final.trace = [.asked (-2), .asked 900, .unavailable, .asked 1875,
        .reading (.finite (36 / 5))] ∧
      (within 900 1000 (requests final.trace) : ℚ) ≤ 1 + 1000 / 900 := by
  have htrace : (Machine.run (World.step {} Commands.strict)
      (begin (some discovered)) morning).map World.trace =
        some [.asked (-2), .asked 900, .unavailable, .asked 1875, .reading (.finite (36 / 5))] := by
    decide +kernel
  obtain ⟨final, hrun, hfinal⟩ := Option.map_eq_some_iff.mp htrace
  have hasked := forecasts_are_asked_for_sparingly {} Commands.strict (by norm_num)
    (some discovered) hrun
  exact ⟨final, hrun, hfinal, hasked.2.1 900 1000 (by norm_num)⟩

end Homeflow.Weather
