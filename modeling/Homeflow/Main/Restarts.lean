import Homeflow.Lib.History
import Homeflow.Lib.Machine
import Mathlib.Algebra.Order.Field.Rat
import Mathlib.Data.List.Basic
import Mathlib.Tactic.Linarith
import Mathlib.Tactic.NormNum

namespace Homeflow.Main

def INITIAL_BACKOFF_SECONDS : ℚ := 1

def MAX_BACKOFF_SECONDS : ℚ := 60

-- What random.random() can return.
abbrev Jitter := { value : ℚ // 0 ≤ value ∧ value < 1 }

inductive Effect where
  | subscribed
  | ingested
  -- The delay before the jitter, and the seconds slept.
  | slept (delay seconds : ℚ)

inductive Phase where
  -- The head of the loop.
  | restarting
  | streaming | sleeping | stopped
deriving DecidableEq, Repr

structure Supervisor where
  phase : Phase := .restarting
  backoff : ℚ := INITIAL_BACKOFF_SECONDS
  trace : List Effect := []

inductive Label where
  | subscribe
  -- The stream yields an event, and ingest returns.
  | ingested
  -- The stream or ingest raises, with the jitter that is drawn then.
  | failed (jitter : Jitter)
  -- The stream ends, and raises nothing.
  | ended
  | woke
  | cancelled

def step (supervisor : Supervisor) : Label → Option Supervisor
  | .subscribe =>
      if supervisor.phase = .restarting then
        some { supervisor with
          phase := .streaming
          trace := supervisor.trace ++ [.subscribed] }
      else none
  | .ingested =>
      if supervisor.phase = .streaming then
        some { supervisor with
          backoff := INITIAL_BACKOFF_SECONDS
          trace := supervisor.trace ++ [.ingested] }
      else none
  | .failed jitter =>
      if supervisor.phase = .streaming then
        some { supervisor with
          phase := .sleeping
          trace := supervisor.trace ++ [.slept supervisor.backoff
            (min (supervisor.backoff + jitter) MAX_BACKOFF_SECONDS)] }
      else none
  | .ended =>
      if supervisor.phase = .streaming then some { supervisor with phase := .restarting }
      else none
  | .woke =>
      if supervisor.phase = .sleeping then
        some { supervisor with
          phase := .restarting
          backoff := min (supervisor.backoff * 2) MAX_BACKOFF_SECONDS }
      else none
  | .cancelled =>
      if supervisor.phase = .streaming ∨ supervisor.phase = .sleeping then
        some { supervisor with phase := .stopped }
      else none

-- The seconds slept since the last call of subscribe, if there was one.
def restSince (past : List Effect) : Option ℚ :=
  past.foldl (fun rest effect =>
    match effect with
    | .subscribed => some 0
    | .ingested => rest
    | .slept _ seconds => rest.map (· + seconds)) none

-- The delay of the last sleep, if no event was ingested after it.
def lastDelay (past : List Effect) : Option ℚ :=
  past.foldl (fun delay effect =>
    match effect with
    | .subscribed => delay
    | .ingested => none
    | .slept drawn _ => some drawn) none

-- Between two calls of subscribe the supervisor sleeps a second at least, and a minute at most.
def Rests (trace : List Effect) : Prop :=
  History.Always (fun past effect => effect = .subscribed → ∀ seconds,
    restSince past = some seconds → 1 ≤ seconds ∧ seconds ≤ 60) trace

-- The delay before the jitter gets no shorter while no event is ingested.
def NeverShortens (trace : List Effect) : Prop :=
  History.Always (fun past effect => ∀ delay seconds, effect = .slept delay seconds →
    ∀ earlier, lastDelay past = some earlier → earlier ≤ delay) trace

def BacksOff (trace : List Effect) : Prop := Rests trace ∧ NeverShortens trace

section Runs

variable {supervisor after final : Supervisor} {label : Label} {labels : List Label}

-- What the phase tells of the rest since the last call.
def RestFits (phase : Phase) (rest : Option ℚ) : Prop :=
  match phase with
  | .streaming => rest = some 0
  | .sleeping => ∃ seconds, rest = some seconds ∧ 1 ≤ seconds ∧ seconds ≤ 60
  | .restarting => ∀ seconds, rest = some seconds → seconds = 0 ∨ (1 ≤ seconds ∧ seconds ≤ 60)
  | .stopped => True

structure Inv (supervisor : Supervisor) : Prop where
  backoff : 1 ≤ supervisor.backoff ∧ supervisor.backoff ≤ 60
  rest : RestFits supervisor.phase (restSince supervisor.trace)
  delay : ∀ earlier, lastDelay supervisor.trace = some earlier → earlier ≤ supervisor.backoff
  shortens : NeverShortens supervisor.trace

theorem restSince_concat (past : List Effect) (effect : Effect) :
    restSince (past ++ [effect]) = match effect with
      | .subscribed => some 0
      | .ingested => restSince past
      | .slept _ seconds => (restSince past).map (· + seconds) :=
  List.foldl_concat _ _ _ _

theorem lastDelay_concat (past : List Effect) (effect : Effect) :
    lastDelay (past ++ [effect]) = match effect with
      | .subscribed => lastDelay past
      | .ingested => none
      | .slept delay _ => some delay :=
  List.foldl_concat _ _ _ _

-- Only a call of subscribe straight after another stream breaks the rest.
def Rested (supervisor : Supervisor) (label : Label) : Prop :=
  label = .subscribe → restSince supervisor.trace ≠ some 0

-- What only ends or begins a wait leaves the trace as it is.
theorem Inv.silent (hinv : Inv supervisor) {phase : Phase} {backoff : ℚ}
    (hbackoff : supervisor.backoff ≤ backoff) (hmax : backoff ≤ 60)
    (hrest : RestFits phase (restSince supervisor.trace)) :
    Inv { phase, backoff, trace := supervisor.trace } where
  backoff := ⟨hinv.backoff.1.trans hbackoff, hmax⟩
  rest := hrest
  delay := fun earlier hearlier => (hinv.delay earlier hearlier).trans hbackoff
  shortens := hinv.shortens

theorem rests_concat_of_ne {past : List Effect} {effect : Effect} (hne : effect ≠ .subscribed) :
    Rests (past ++ [effect]) ↔ Rests past := by
  refine ⟨fun h => h.shorten (List.prefix_append _ _), fun h => h.concat ?_⟩
  exact fun hsubscribed => absurd hsubscribed hne

theorem rests_concat_subscribed {past : List Effect} : Rests (past ++ [.subscribed]) ↔
    Rests past ∧ ∀ seconds, restSince past = some seconds → 1 ≤ seconds ∧ seconds ≤ 60 := by
  constructor
  · exact fun h => ⟨h.shorten (List.prefix_append _ _), h past .subscribed [] rfl rfl⟩
  · exact fun h => h.1.concat fun _ => h.2

theorem neverShortens_concat {past : List Effect} {effect : Effect} (h : NeverShortens past)
    (hne : ∀ delay seconds, effect ≠ .slept delay seconds) : NeverShortens (past ++ [effect]) :=
  h.concat fun delay seconds heq => absurd heq (hne delay seconds)

theorem rested_of_ne (hne : label ≠ .subscribe) : Rested supervisor label :=
  fun heq => absurd heq hne

theorem step_subscribe (hinv : Inv supervisor) (hphase : supervisor.phase = .restarting) :
    Inv { supervisor with phase := .streaming, trace := supervisor.trace ++ [.subscribed] } ∧
      (Rests (supervisor.trace ++ [.subscribed]) ↔
        Rests supervisor.trace ∧ Rested supervisor .subscribe) := by
  constructor
  · exact {
      backoff := hinv.backoff
      rest := restSince_concat _ _
      delay := fun earlier hearlier => hinv.delay earlier (by rwa [lastDelay_concat] at hearlier)
      shortens := neverShortens_concat hinv.shortens (by simp) }
  · have hrest := hinv.rest
    rw [hphase] at hrest
    rw [rests_concat_subscribed]
    refine and_congr_right fun _ => ⟨fun hslept _ hzero => ?_, fun hrested seconds hslept => ?_⟩
    · have hnone := hslept 0 hzero
      norm_num at hnone
    · refine (hrest seconds hslept).resolve_left ?_
      rintro rfl
      exact hrested rfl hslept

theorem step_failed (hinv : Inv supervisor) (hphase : supervisor.phase = .streaming)
    (jitter : Jitter) :
    Inv { supervisor with
      phase := .sleeping
      trace := supervisor.trace ++ [.slept supervisor.backoff
        (min (supervisor.backoff + jitter) MAX_BACKOFF_SECONDS)] } := by
  have hstreaming := hinv.rest
  rw [hphase] at hstreaming
  have hnone : restSince supervisor.trace = some 0 := hstreaming
  have hdrawn : supervisor.backoff ≤ supervisor.backoff + jitter := by
    linarith [jitter.property.1]
  refine { backoff := hinv.backoff, rest := ?_, delay := ?_, shortens := ?_ }
  · refine ⟨min (supervisor.backoff + jitter) MAX_BACKOFF_SECONDS, ?_, ?_, min_le_right _ _⟩
    · simp only [restSince_concat, hnone, Option.map_some, zero_add]
    · exact le_min (hinv.backoff.1.trans hdrawn) (by norm_num [MAX_BACKOFF_SECONDS])
  · intro earlier hearlier
    rw [lastDelay_concat] at hearlier
    exact (Option.some.inj hearlier).ge
  · refine hinv.shortens.concat fun delay seconds heq earlier hearlier => ?_
    obtain ⟨rfl, -⟩ := Effect.slept.inj heq
    exact hinv.delay earlier hearlier

theorem step_inv (hinv : Inv supervisor) (hstep : step supervisor label = some after) :
    Inv after ∧ (Rests after.trace ↔ Rests supervisor.trace ∧ Rested supervisor label) := by
  have hbackoff := hinv.backoff
  have hsilent : label ≠ .subscribe →
      (Rests supervisor.trace ↔ Rests supervisor.trace ∧ Rested supervisor label) :=
    fun hne => (and_iff_left (rested_of_ne hne)).symm
  cases label with
  | subscribe =>
      obtain ⟨hphase, hafter⟩ := Option.ite_none_right_eq_some.mp hstep
      obtain rfl := Option.some.inj hafter
      exact step_subscribe hinv hphase
  | ingested =>
      obtain ⟨hphase, hafter⟩ := Option.ite_none_right_eq_some.mp hstep
      obtain rfl := Option.some.inj hafter
      have hrest := hinv.rest
      rw [hphase] at hrest
      refine ⟨?_, (rests_concat_of_ne (by simp)).trans (hsilent (by simp))⟩
      exact {
        backoff := by norm_num [INITIAL_BACKOFF_SECONDS]
        rest := by rwa [restSince_concat, hphase]
        delay := fun earlier hearlier => by simp [lastDelay_concat] at hearlier
        shortens := neverShortens_concat hinv.shortens (by simp) }
  | failed jitter =>
      obtain ⟨hphase, hafter⟩ := Option.ite_none_right_eq_some.mp hstep
      obtain rfl := Option.some.inj hafter
      exact ⟨step_failed hinv hphase jitter, (rests_concat_of_ne (by simp)).trans
        (hsilent (by simp))⟩
  | ended =>
      obtain ⟨hphase, hafter⟩ := Option.ite_none_right_eq_some.mp hstep
      obtain rfl := Option.some.inj hafter
      have hrest := hinv.rest
      rw [hphase] at hrest
      refine ⟨hinv.silent le_rfl hbackoff.2 fun seconds hslept => .inl ?_, hsilent (by simp)⟩
      exact (Option.some.inj (hrest.symm.trans hslept)).symm
  | woke =>
      obtain ⟨hphase, hafter⟩ := Option.ite_none_right_eq_some.mp hstep
      obtain rfl := Option.some.inj hafter
      have hrest := hinv.rest
      rw [hphase] at hrest
      obtain ⟨slept, hslept, hbounds⟩ := hrest
      have hdoubled : supervisor.backoff ≤ min (supervisor.backoff * 2) MAX_BACKOFF_SECONDS :=
        le_min (by linarith) hbackoff.2
      refine ⟨hinv.silent hdoubled (min_le_right _ _) fun seconds hseconds => .inr ?_,
        hsilent (by simp)⟩
      rwa [← Option.some.inj (hslept.symm.trans hseconds)]
  | cancelled =>
      obtain ⟨hphase, hafter⟩ := Option.ite_none_right_eq_some.mp hstep
      obtain rfl := Option.some.inj hafter
      exact ⟨hinv.silent le_rfl hbackoff.2 trivial, hsilent (by simp)⟩

theorem start_inv : Inv {} where
  backoff := by norm_num [INITIAL_BACKOFF_SECONDS]
  rest := fun seconds hslept => by cases hslept
  delay := fun earlier hearlier => by cases hearlier
  shortens := History.always_nil

-- At the head of the loop nothing was slept since the last call exactly if its stream ended.
theorem restarting_iff (hrun : Machine.run step {} labels = some supervisor)
    (hphase : supervisor.phase = .restarting) :
    restSince supervisor.trace = some 0 ↔ ∃ before, labels = before ++ [.ended] := by
  rcases List.eq_nil_or_concat labels with rfl | ⟨before, label, rfl⟩
  · obtain rfl : ({} : Supervisor) = supervisor := Option.some.inj hrun
    simp [restSince]
  · rw [List.concat_eq_append] at hrun ⊢
    obtain ⟨previous, hprevious, hstep⟩ := Machine.run_concat.mp hrun
    have hinv : Inv previous :=
      Machine.invariant start_inv (fun _ _ _ hbefore hnext => (step_inv hbefore hnext).1) hprevious
    have hrest := hinv.rest
    cases label with
    | ended =>
        obtain ⟨hstreaming, hafter⟩ := Option.ite_none_right_eq_some.mp hstep
        obtain rfl := Option.some.inj hafter
        rw [hstreaming] at hrest
        exact iff_of_true hrest ⟨before, rfl⟩
    | woke =>
        obtain ⟨hsleeping, hafter⟩ := Option.ite_none_right_eq_some.mp hstep
        obtain rfl := Option.some.inj hafter
        rw [hsleeping] at hrest
        obtain ⟨seconds, hslept, hbound, -⟩ := hrest
        refine iff_of_false (fun hzero => ?_) (by simp)
        obtain rfl := Option.some.inj (hslept.symm.trans hzero)
        norm_num at hbound
    | ingested =>
        obtain ⟨hstreaming, hafter⟩ := Option.ite_none_right_eq_some.mp hstep
        obtain rfl := Option.some.inj hafter
        cases hstreaming.symm.trans hphase
    | subscribe | failed | cancelled =>
        obtain ⟨-, hafter⟩ := Option.ite_none_right_eq_some.mp hstep
        obtain rfl := Option.some.inj hafter
        cases hphase

theorem guarded_iff (hrun : Machine.run step {} labels = some final) :
    Machine.Guarded step Rested {} labels ↔
      ∀ before rest, labels ≠ before ++ .ended :: .subscribe :: rest := by
  rw [Machine.guarded_iff_forall hrun]
  constructor
  · rintro hrested before rest rfl
    have hsplit : before ++ .ended :: .subscribe :: rest =
        (before ++ [.ended]) ++ .subscribe :: rest := by simp
    rw [hsplit, Machine.run_append] at hrun
    obtain ⟨reached, hreached, hlater⟩ := Option.bind_eq_some_iff.mp hrun
    obtain ⟨next, hnext, -⟩ := Option.bind_eq_some_iff.mp hlater
    obtain ⟨hphase, -⟩ := Option.ite_none_right_eq_some.mp hnext
    exact hrested _ .subscribe rest reached hsplit hreached rfl
      ((restarting_iff hreached hphase).mpr ⟨before, rfl⟩)
  · rintro hnever first label rest reached rfl hreached rfl hzero
    rw [Machine.run_append, hreached, Option.bind_some] at hrun
    obtain ⟨next, hnext, -⟩ := Option.bind_eq_some_iff.mp hrun
    obtain ⟨hphase, -⟩ := Option.ite_none_right_eq_some.mp hnext
    obtain ⟨before, rfl⟩ := (restarting_iff hreached hphase).mp hzero
    exact hnever before rest (by simp)

end Runs

-- The supervisor backs off in every run in which no stream that ends of itself is followed by
-- another, and in no other run.
theorem backs_off_iff {labels : List Label} {final : Supervisor}
    (hrun : Machine.run step {} labels = some final) :
    BacksOff final.trace ↔ ∀ before rest, labels ≠ before ++ .ended :: .subscribe :: rest := by
  have hinv : Inv final :=
    Machine.invariant start_inv (fun _ _ _ hbefore hnext => (step_inv hbefore hnext).1) hrun
  rw [← guarded_iff hrun, BacksOff, and_iff_left hinv.shortens]
  exact @Machine.good_iff_guarded _ _ step Rested Inv (fun supervisor => Rests supervisor.trace)
    _ _ _ start_inv History.always_nil (fun _ _ _ hbefore hnext => step_inv hbefore hnext) hrun

def calm : Jitter := ⟨0, by norm_num⟩

-- The socket fails twice before an event arrives.
def failures : List Label :=
  [.subscribe, .failed calm, .woke, .subscribe, .failed calm, .woke, .subscribe, .ingested]

theorem backs_off_iff_failures : ∃ final, Machine.run step {} failures = some final ∧
    BacksOff final.trace := by
  obtain ⟨final, hrun⟩ : ∃ final, Machine.run step {} failures = some final := ⟨_, rfl⟩
  refine ⟨final, hrun, (backs_off_iff hrun).mpr ?_⟩
  intro before rest hsplit
  have hmem : Label.ended ∈ failures := by simp [hsplit]
  simp [failures] at hmem

-- A stream that ends at once is called again without a pause.
theorem ended_stream_restarts : ∃ final,
    Machine.run step {} [.subscribe, .ended, .subscribe] = some final ∧ ¬BacksOff final.trace := by
  refine ⟨_, rfl, fun hbacks => ?_⟩
  have hslept := hbacks.1 [.subscribed] .subscribed [] rfl rfl 0 rfl
  norm_num at hslept

end Homeflow.Main
