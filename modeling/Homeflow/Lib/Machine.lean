import Mathlib.Data.List.Induction
import Mathlib.Tactic.Common

namespace Machine

variable {σ ε : Type*} (step : σ → ε → Option σ)

-- The state a list of labels leads to, or none when one of them is not enabled.
def run : σ → List ε → Option σ
  | state, [] => some state
  | state, label :: rest => (step state label).bind fun next => run next rest

-- Every step of the run meets the guard in the state it starts from.
def Guarded (guard : σ → ε → Prop) : σ → List ε → Prop
  | _, [] => True
  | state, label :: rest =>
      guard state label ∧ ∀ next, step state label = some next → Guarded guard next rest

variable {step}

theorem run_append (start : σ) (first second : List ε) :
    run step start (first ++ second) =
      (run step start first).bind fun middle => run step middle second := by
  induction first generalizing start with
  | nil => rfl
  | cons label rest ih =>
      simp only [List.cons_append, run]
      cases step start label with
      | none => rfl
      | some next => exact ih next

theorem run_concat {start final : σ} {labels : List ε} {label : ε} :
    run step start (labels ++ [label]) = some final ↔
      ∃ before, run step start labels = some before ∧ step before label = some final := by
  simp [run_append, run, Option.bind_eq_some_iff]

theorem guarded_append {guard : σ → ε → Prop} {start middle : σ} {first : List ε}
    (second : List ε) (hrun : run step start first = some middle) :
    Guarded step guard start (first ++ second) ↔
      Guarded step guard start first ∧ Guarded step guard middle second := by
  induction first generalizing start with
  | nil =>
      obtain rfl : start = middle := by simpa [run] using hrun
      simp [Guarded]
  | cons label rest ih =>
      obtain ⟨next, hnext, hrest⟩ := Option.bind_eq_some_iff.mp hrun
      simp only [List.cons_append, Guarded, hnext, Option.some.injEq, forall_eq', ih hrest,
        and_assoc]

theorem guarded_concat {guard : σ → ε → Prop} {start before : σ} {labels : List ε} {label : ε}
    (hrun : run step start labels = some before) :
    Guarded step guard start (labels ++ [label]) ↔
      Guarded step guard start labels ∧ guard before label := by
  rw [guarded_append [label] hrun]
  simp [Guarded]

theorem Guarded.and {first second : σ → ε → Prop} {start : σ} {labels : List ε}
    (hfirst : Guarded step first start labels) (hsecond : Guarded step second start labels) :
    Guarded step (fun state label => first state label ∧ second state label) start labels := by
  induction labels generalizing start with
  | nil => trivial
  | cons label rest ih =>
      exact ⟨⟨hfirst.1, hsecond.1⟩,
        fun next hnext => ih (hfirst.2 next hnext) (hsecond.2 next hnext)⟩

theorem guarded_of_forall {allowed : ε → Prop} {start : σ} {labels : List ε}
    (hallowed : ∀ label ∈ labels, allowed label) :
    Guarded step (fun _ label => allowed label) start labels := by
  induction labels generalizing start with
  | nil => trivial
  | cons label rest ih =>
      exact ⟨hallowed label List.mem_cons_self, fun next _ =>
        ih fun other hother => hallowed other (List.mem_cons_of_mem _ hother)⟩

instance Guarded.decidable {guard : σ → ε → Prop}
    [∀ state label, Decidable (guard state label)] :
    ∀ (start : σ) (labels : List ε), Decidable (Guarded step guard start labels)
  | _, [] => isTrue trivial
  | start, label :: rest =>
      match h : step start label with
      | none => decidable_of_iff (guard start label)
          ⟨fun hguard => ⟨hguard, fun next hnext => by simp [h] at hnext⟩, And.left⟩
      | some next =>
          haveI : Decidable (Guarded step guard next rest) := Guarded.decidable next rest
          decidable_of_iff (guard start label ∧ Guarded step guard next rest) (by simp [Guarded, h])

-- What every guarded step keeps holds at the end of every guarded run.
theorem guarded_invariant {guard : σ → ε → Prop} {inv : σ → Prop} {start final : σ}
    {labels : List ε} (hstart : inv start)
    (hstep : ∀ before label after, inv before → guard before label →
      step before label = some after → inv after)
    (hrun : run step start labels = some final) (hguard : Guarded step guard start labels) :
    inv final := by
  induction labels generalizing start with
  | nil =>
      obtain rfl : start = final := by simpa [run] using hrun
      exact hstart
  | cons label rest ih =>
      obtain ⟨next, hnext, hrest⟩ := Option.bind_eq_some_iff.mp hrun
      exact ih (hstep start label next hstart hguard.1 hnext) hrest (hguard.2 next hnext)

theorem invariant {inv : σ → Prop} {start final : σ} {labels : List ε} (hstart : inv start)
    (hstep : ∀ before label after, inv before → step before label = some after → inv after)
    (hrun : run step start labels = some final) : inv final := by
  have hguard : Guarded step (fun _ _ => True) start labels :=
    guarded_of_forall fun _ _ => trivial
  exact guarded_invariant hstart
    (fun before label after hbefore _ => hstep before label after hbefore) hrun hguard

-- A machine whose every step is a run of another one goes where that one can go.
theorem run_simulated {τ δ : Type*} {other : τ → δ → Option τ} (view : σ → τ)
    (hstep : ∀ before label after, step before label = some after →
      ∃ labels, run other (view before) labels = some (view after)) {start final : σ}
    {labels : List ε} (hrun : run step start labels = some final) :
    ∃ labels, run other (view start) labels = some (view final) := by
  induction labels generalizing start with
  | nil =>
      obtain rfl : start = final := by simpa [run] using hrun
      exact ⟨[], rfl⟩
  | cons label rest ih =>
      obtain ⟨next, hnext, hrest⟩ := Option.bind_eq_some_iff.mp hrun
      obtain ⟨first, hfirst⟩ := hstep start label next hnext
      obtain ⟨second, hsecond⟩ := ih hrest
      exact ⟨first ++ second, by rw [run_append, hfirst]; exact hsecond⟩

-- A state stays good as long as every step meets the guard, and no longer.
theorem good_iff_guarded {guard : σ → ε → Prop} {inv good : σ → Prop} {start final : σ}
    {labels : List ε} (hstart : inv start) (hgood : good start)
    (hstep : ∀ before label after, inv before → step before label = some after →
      inv after ∧ (good after ↔ good before ∧ guard before label))
    (hrun : run step start labels = some final) :
    good final ↔ Guarded step guard start labels := by
  induction labels using List.reverseRecOn generalizing final with
  | nil =>
      obtain rfl : start = final := by simpa [run] using hrun
      simp [Guarded, hgood]
  | append_singleton labels label ih =>
      obtain ⟨before, hbefore, hlast⟩ := run_concat.mp hrun
      have hinv : inv before := invariant hstart
        (fun state label next hstate hnext => (hstep state label next hstate hnext).1) hbefore
      rw [(hstep before label final hinv hlast).2, ih hbefore, guarded_concat hbefore]

-- One guard gives another when every state that meets the first on its way does.
theorem Guarded.weaken {first second : σ → ε → Prop} {inv : σ → Prop} {start final : σ}
    {labels : List ε} (hstart : inv start)
    (hstep : ∀ before label after, inv before → first before label →
      step before label = some after → inv after ∧ second before label)
    (hrun : run step start labels = some final) (hguard : Guarded step first start labels) :
    Guarded step second start labels := by
  induction labels generalizing start with
  | nil => trivial
  | cons label rest ih =>
      obtain ⟨next, hnext, hrest⟩ := Option.bind_eq_some_iff.mp hrun
      obtain ⟨hinv, hsecond⟩ := hstep start label next hstart hguard.1 hnext
      refine ⟨hsecond, fun other hother => ?_⟩
      obtain rfl := Option.some.inj (hnext.symm.trans hother)
      exact ih hinv hrest (hguard.2 next hnext)

-- A run that leaves its guard does so at a first step, which a guarded run reaches.
theorem exists_unguarded {guard : σ → ε → Prop} {start final : σ} {labels : List ε}
    (hrun : run step start labels = some final) (hnot : ¬Guarded step guard start labels) :
    ∃ first label rest before, labels = first ++ label :: rest ∧
      run step start first = some before ∧ Guarded step guard start first ∧
      ¬guard before label := by
  induction labels generalizing start with
  | nil => exact absurd trivial hnot
  | cons label rest ih =>
      obtain ⟨next, hnext, hrest⟩ := Option.bind_eq_some_iff.mp hrun
      by_cases hguard : guard start label
      · have hnot' : ¬Guarded step guard next rest := by
          intro hrestGuard
          refine hnot ⟨hguard, fun other hother => ?_⟩
          obtain rfl := Option.some.inj (hnext.symm.trans hother)
          exact hrestGuard
        obtain ⟨first, bad, tail, before, rfl, hbefore, hfirst, hbad⟩ := ih hrest hnot'
        refine ⟨label :: first, bad, tail, before, rfl, ?_, ⟨hguard, fun other hother => ?_⟩, hbad⟩
        · simpa [run, hnext] using hbefore
        · obtain rfl := Option.some.inj (hnext.symm.trans hother)
          exact hfirst
      · exact ⟨[], label, rest, start, rfl, rfl, trivial, hguard⟩

-- A run is guarded when each of its steps meets the guard in the state it starts from.
theorem guarded_iff_forall {guard : σ → ε → Prop} {start final : σ} {labels : List ε}
    (hrun : run step start labels = some final) :
    Guarded step guard start labels ↔ ∀ first label rest state, labels = first ++ label :: rest →
      run step start first = some state → guard state label := by
  constructor
  · rintro hguard first label rest state rfl hfirst
    exact ((guarded_append (label :: rest) hfirst).mp hguard).2.1
  · intro hevery
    by_contra hunguarded
    obtain ⟨first, label, rest, state, hsplit, hfirst, -, hoff⟩ := exists_unguarded hrun hunguarded
    exact hoff (hevery first label rest state hsplit hfirst)

-- Every state a run comes through is good as long as every step meets the guard, and no longer.
theorem always_good_iff {guard : σ → ε → Prop} {inv good : σ → Prop} {start final : σ}
    {labels : List ε} (hstart : inv start) (hgood : good start)
    (hinv : ∀ before label after, inv before → step before label = some after → inv after)
    (hstep : ∀ before label after, inv before → good before → step before label = some after →
      (good after ↔ guard before label))
    (hrun : run step start labels = some final) :
    (∀ first rest state, labels = first ++ rest → run step start first = some state →
      good state) ↔ Guarded step guard start labels := by
  have hreached : ∀ first state, run step start first = some state → inv state :=
    fun _ _ hfirst => invariant hstart hinv hfirst
  constructor
  · intro halways
    by_contra hunguarded
    obtain ⟨first, label, rest, before, rfl, hbefore, -, hoff⟩ := exists_unguarded hrun hunguarded
    have hlast : run step before (label :: rest) = some final := by
      simpa [run_append, hbefore] using hrun
    obtain ⟨after, hnext, -⟩ := Option.bind_eq_some_iff.mp hlast
    have hafter := halways (first ++ [label]) rest after (by simp)
      (run_concat.mpr ⟨before, hbefore, hnext⟩)
    have hbeforeGood := halways first (label :: rest) before rfl hbefore
    exact hoff ((hstep before label after (hreached first before hbefore) hbeforeGood hnext).mp
      hafter)
  · rintro hguard first rest state rfl hfirst
    have hboth := @guarded_invariant σ ε step guard (fun reached => inv reached ∧ good reached)
      start state first ⟨hstart, hgood⟩
      (fun before label after hbefore hlabel hnext => ⟨hinv before label after hbefore.1 hnext,
        (hstep before label after hbefore.1 hbefore.2 hnext).mpr hlabel⟩)
      hfirst ((guarded_append rest hfirst).mp hguard).1
    exact hboth.2

-- Where every step off the guard can be followed by a breach, so can the first one of a run.
theorem exists_breach {guard : σ → ε → Prop} {good : σ → Prop} {start final : σ} {labels : List ε}
    (hbreaks : ∀ first before label after, run step start first = some before →
      ¬guard before label → step before label = some after →
      ∃ more broken, run step after more = some broken ∧ ¬good broken)
    (hrun : run step start labels = some final) (hnot : ¬Guarded step guard start labels) :
    ∃ before label rest more broken, labels = before ++ label :: rest ∧
      Guarded step guard start before ∧ run step start (before ++ label :: more) = some broken ∧
      ¬good broken := by
  obtain ⟨before, label, rest, reached, rfl, hreached, hguarded, hoff⟩ :=
    exists_unguarded hrun hnot
  have hrest : run step reached (label :: rest) = some final := by
    simpa [run_append, hreached] using hrun
  obtain ⟨after, hstep, -⟩ := Option.bind_eq_some_iff.mp hrest
  obtain ⟨more, broken, hbroken, hbad⟩ := hbreaks before reached label after hreached hoff hstep
  refine ⟨before, label, rest, more, broken, rfl, hguarded, ?_, hbad⟩
  simp [run_append, hreached, run, hstep, hbroken]

end Machine
