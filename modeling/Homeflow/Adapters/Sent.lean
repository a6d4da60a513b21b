import Homeflow.Adapters.Calls

namespace Homeflow.Adapters

open Commands (Ended Over fails)

section Invariant

variable {clock : Nat → Time} {coercion : Coercion} {applies : Uuid → Bool} {world : World}
  {pipeline : Commands.World} {label : Commands.Label} {id : Uuid}

-- A call under way belongs to a command that executes, and the write of a command is sent
-- by its call and by nothing after it.
structure Kept (world : World) : Prop where
  ended : Ended world.pipeline
  executing : ∀ id adapter, world.adapters.get? id = some adapter →
    ∃ task, world.pipeline.tasks.get? id = some task ∧ task.phase = .executing
  domestic : ∀ id adapter, world.adapters.get? id = some adapter → world.foreign id = false
  wrote : ∀ id adapter, world.adapters.get? id = some adapter →
    (adapter.wrote = true ↔ id ∈ world.sent)
  known : ∀ id ∈ world.sent, id < world.pipeline.service.ids
  silent : ∀ id ∈ world.sent, world.adapters.get? id = none → Over world.pipeline id

theorem Kept.not_returned (h : Kept world) {adapter : Adapter}
    (hadapter : world.adapters.get? id = some adapter) :
    world.pipeline.returned.get? id = none := by
  obtain ⟨task, htask, -⟩ := h.executing id adapter hadapter
  exact h.ended.not_returned htask

theorem foreign_of_tasks {adapters : OrderedDict Uuid Adapter} {sent : List Uuid}
    (h : pipeline.tasks.get? id = world.pipeline.tasks.get? id) :
    ({ pipeline, adapters, sent } : World).foreign id = world.foreign id := by
  simp only [World.foreign, h]

-- The pipeline moves on, with no other call ended than those that are forgotten.
theorem Kept.move (h : Kept world) {adapters : OrderedDict Uuid Adapter} {sent : List Uuid}
    (hstep : world.pipeline.step clock coercion label = some pipeline)
    (hadapters : ∀ id adapter, adapters.get? id = some adapter →
      world.adapters.get? id = some adapter ∧ (id ∈ sent ↔ id ∈ world.sent) ∧
        (∀ outcome, label ≠ .executeReturns id outcome) ∧ label ≠ .cancelTask id)
    (hsent : ∀ id ∈ sent, id ∈ world.sent)
    (hover : ∀ id ∈ sent, adapters.get? id = none →
      world.adapters.get? id = none ∨ Over pipeline id) :
    Kept { pipeline, adapters, sent } := by
  have htasks : ∀ id adapter, adapters.get? id = some adapter → ∃ task,
      world.pipeline.tasks.get? id = some task ∧ pipeline.tasks.get? id = some task ∧
        task.phase = .executing := by
    intro id adapter hadapter
    obtain ⟨hheld, -, hreturns, hcancel⟩ := hadapters id adapter hadapter
    obtain ⟨task, htask, hphase⟩ := h.executing id adapter hheld
    exact ⟨task, htask,
      Commands.executing_kept h.ended.locked hstep htask hphase hreturns hcancel, hphase⟩
  refine ⟨(Commands.ended_step h.ended hstep).1, fun id adapter hadapter => ?_,
    fun id adapter hadapter => ?_, fun id adapter hadapter => ?_, fun id hid => ?_,
    fun id hid hnone => ?_⟩
  · obtain ⟨task, -, htask, hphase⟩ := htasks id adapter hadapter
    exact ⟨task, htask, hphase⟩
  · obtain ⟨task, hbefore, hafter, -⟩ := htasks id adapter hadapter
    rw [foreign_of_tasks (hafter.trans hbefore.symm)]
    exact h.domestic id adapter (hadapters id adapter hadapter).1
  · obtain ⟨hheld, hsame, -⟩ := hadapters id adapter hadapter
    rw [hsame]
    exact h.wrote id adapter hheld
  · exact (h.known id (hsent id hid)).trans_le (Commands.step_ids hstep)
  · rcases hover id hid hnone with hbefore | hafter
    · exact (h.silent id (hsent id hid) hbefore).step (h.known id (hsent id hid)) hstep
    · exact hafter

theorem get?_forget {other : Uuid} {adapter : Adapter}
    (h : (world.forget id).adapters.get? other = some adapter) :
    other ≠ id ∧ world.adapters.get? other = some adapter :=
  OrderedDict.get?_erase_eq_some.mp h

-- A call ends, or its task does.
theorem Kept.leave (h : Kept world) {sent : List Uuid}
    (hlabel : (∃ outcome, label = .executeReturns id outcome) ∨ label = .cancelTask id)
    (hstep : world.pipeline.step clock coercion label = some pipeline)
    (hsent : ∀ other ∈ sent, other ∈ world.sent)
    (hothers : ∀ other ≠ id, other ∈ world.sent → other ∈ sent) :
    Kept { pipeline, adapters := (world.forget id).adapters, sent } := by
  have hgone : Over pipeline id := by
    rcases hlabel with ⟨outcome, rfl⟩ | rfl
    · exact Commands.over_of_returns hstep
    · exact Commands.over_of_cancel hstep
  refine h.move hstep (fun other adapter hadapter => ?_) hsent fun other hother hnone => ?_
  · obtain ⟨hne, hheld⟩ := get?_forget hadapter
    refine ⟨hheld, ⟨hsent other, hothers other hne⟩, fun outcome he => ?_, fun he => ?_⟩
    · rcases hlabel with ⟨_, rfl⟩ | rfl
      · cases he
        exact hne rfl
      · cases he
    · rcases hlabel with ⟨_, rfl⟩ | rfl
      · cases he
      · cases he
        exact hne rfl
  · by_cases hid : other = id
    · exact .inr (hid ▸ hgone)
    · exact .inl ((OrderedDict.get?_erase_of_ne hid).symm.trans hnone)

-- A call begins, or goes on.
theorem Kept.set (h : Kept world) {adapter : Adapter} {task : Commands.Task}
    (htask : world.pipeline.tasks.get? id = some task) (hphase : task.phase = .executing)
    (hdomestic : world.foreign id = false)
    (hwrote : adapter.wrote = false → id ∉ world.sent) :
    Kept { world with
      adapters := world.adapters.set id adapter
      sent := if adapter.wrote then id :: world.sent else world.sent } := by
  have hmem : ∀ other, other ∈ (if adapter.wrote then id :: world.sent else world.sent) →
      other = id ∨ other ∈ world.sent := by
    intro other hother
    split at hother
    · exact List.mem_cons.mp hother
    · exact .inr hother
  have hcases : ∀ other held, (world.adapters.set id adapter).get? other = some held →
      (other = id ∧ held = adapter) ∨ (other ≠ id ∧ world.adapters.get? other = some held) :=
    fun _ _ => OrderedDict.get?_set_eq_some.mp
  refine ⟨h.ended, fun other held hheld => ?_, fun other held hheld => ?_,
    fun other held hheld => ?_, fun other hother => ?_, fun other hother hnone => ?_⟩
  · rcases hcases other held hheld with ⟨rfl, -⟩ | ⟨-, hbefore⟩
    · exact ⟨task, htask, hphase⟩
    · exact h.executing other held hbefore
  · rcases hcases other held hheld with ⟨rfl, -⟩ | ⟨-, hbefore⟩
    · exact hdomestic
    · exact h.domestic other held hbefore
  · rcases hcases other held hheld with ⟨rfl, rfl⟩ | ⟨hne, hbefore⟩
    · cases hheld : held.wrote with
      | true => simp
      | false => simpa using hwrote hheld
    · rw [h.wrote other held hbefore]
      split
      · simp [hne]
      · rfl
  · rcases hmem other hother with rfl | hbefore
    · exact h.ended.locked.known other task htask
    · exact h.known other hbefore
  · by_cases he : other = id
    · subst he
      cases (OrderedDict.get?_set_self world.adapters other adapter).symm.trans hnone
    · exact h.silent other ((hmem other hother).resolve_left he)
        ((OrderedDict.get?_set_of_ne he).symm.trans hnone)

-- Nothing that fails a written command happens elsewhere than at the end of its call.
theorem spared_move (applies : Uuid → Bool) (adapters : OrderedDict Uuid Adapter)
    (h : Kept world) (hstep : world.pipeline.step clock coercion label = some pipeline)
    (hlabel : ∀ id ∈ world.sent, ∀ outcome, label = .executeReturns id outcome →
      fails outcome = false) :
    Spared applies { pipeline, adapters, sent := world.sent } ↔ Spared applies world := by
  constructor
  · intro hspared other hother happlies command hcommand
    exact hspared other hother happlies command
      ((Commands.ended_step h.ended hstep).2 other command hcommand)
  · intro hspared other hother happlies command hcommand hfailed
    rcases Commands.step_failed hstep hcommand hfailed with hold | hnew | ⟨outcome, hends, hfails⟩
    · exact hspared other hother happlies command hold hfailed
    · exact absurd (h.known other hother) (Nat.not_lt.mpr hnew)
    · cases (hlabel other hother outcome hends).symm.trans hfails

-- A call that ends spares its command if it does not fail, or if nothing of it was sent.
theorem spared_leave (applies : Uuid → Bool) (adapters : OrderedDict Uuid Adapter)
    {sent : List Uuid} {outcome : AdapterOutcome ProviderCommandResult} (h : Kept world)
    (hstep : world.pipeline.step clock coercion (.executeReturns id outcome) = some pipeline)
    (hnew : world.pipeline.returned.get? id = none) (hid : id < world.pipeline.service.ids)
    (hsent : ∀ other ≠ id, (other ∈ sent ↔ other ∈ world.sent)) :
    Spared applies { pipeline, adapters, sent } ↔
      Spared applies world ∧ (id ∈ sent → applies id = true → fails outcome = false) := by
  have hne : ∀ {other command}, world.pipeline.returned.get? other = some command → other ≠ id := by
    rintro other command hcommand rfl
    cases hnew.symm.trans hcommand
  constructor
  · intro hspared
    refine ⟨fun other hother happlies command hcommand => ?_, fun hmem happlies => ?_⟩
    · exact hspared other ((hsent other (hne hcommand)).mpr hother) happlies command
        ((Commands.ended_step h.ended hstep).2 other command hcommand)
    · by_contra hfails
      obtain ⟨final, hfinal, hfailed⟩ :=
        Commands.executeReturns_failed hstep (Bool.eq_true_of_not_eq_false hfails)
      exact hspared id hmem happlies final hfinal hfailed
  · rintro ⟨hspared, hends⟩ other hother happlies command hcommand hfailed
    rcases Commands.step_failed hstep hcommand hfailed with hold | hfresh | ⟨_, hlabel, hfails⟩
    · exact hspared other ((hsent other (hne hold)).mp hother) happlies command hold hfailed
    · have hlt : other < world.pipeline.service.ids := by
        by_cases he : other = id
        · exact he ▸ hid
        · exact h.known other ((hsent other he).mp hother)
      exact absurd hlt (Nat.not_lt.mpr hfresh)
    · cases hlabel
      cases (hends hother happlies).symm.trans hfails

-- A call that goes on leaves its command unfinished.
theorem spared_set (hnew : world.pipeline.returned.get? id = none)
    {adapters : OrderedDict Uuid Adapter} {sent : List Uuid}
    (hsent : ∀ other ≠ id, (other ∈ sent ↔ other ∈ world.sent)) :
    Spared applies { pipeline := world.pipeline, adapters, sent } ↔ Spared applies world := by
  have hne : ∀ {other command}, world.pipeline.returned.get? other = some command → other ≠ id := by
    rintro other command hcommand rfl
    cases hnew.symm.trans hcommand
  constructor
  · intro hspared other hother happlies command hcommand
    exact hspared other ((hsent other (hne hcommand)).mpr hother) happlies command hcommand
  · intro hspared other hother happlies command hcommand
    exact hspared other ((hsent other (hne hcommand)).mp hother) happlies command hcommand

end Invariant

end Homeflow.Adapters
