import Homeflow.Commands.Lifecycle

-- A command is in flight for an adapter that is wired.
namespace Homeflow.Commands

open CommandService

variable {clock : Nat → Time} {coercion : Coercion} {providers : List String} {world after : World}

structure Provided (providers : List String) (world : World) : Prop where
  names : world.service.providers = providers
  flight : ∀ id task, world.tasks.get? id = some task → task.ref.provider ∈ providers

-- No new task, or one in another phase.
theorem Provided.keep (h : Provided providers world)
    (hnames : after.service.providers = world.service.providers)
    (htasks : ∀ id task, after.tasks.get? id = some task → ∃ held,
      world.tasks.get? id = some held ∧ task.ref = held.ref) : Provided providers after := by
  refine ⟨hnames.trans h.names, fun id task htask => ?_⟩
  obtain ⟨held, hheld, href⟩ := htasks id task htask
  exact href ▸ h.flight id held hheld

theorem Provided.same (h : Provided providers world)
    (hnames : after.service.providers = world.service.providers)
    (htasks : after.tasks = world.tasks) : Provided providers after :=
  h.keep hnames fun _ task htask => ⟨task, htasks ▸ htask, rfl⟩

theorem provided_step {label : Label} (h : Provided providers world)
    (hstep : World.step clock coercion world label = some after) : Provided providers after := by
  cases step_moved hstep with
  | @refused call _ _ hcheck =>
      have hframe := frame_check clock coercion world.service call
      rw [hcheck] at hframe
      exact h.same hframe.providers rfl
  | unwired => exact h.same (frame_finish _ _ _ _ _).providers rfl
  | @joined call accepted ref haccepts href hwired =>
      obtain ⟨task, -, htasks, -, ⟨htaskRef, -⟩, -⟩ := join_told clock
        { world with service := (world.service.create clock call accepted).1 }
        (world.service.create clock call accepted).2 ref accepted.params
      refine ⟨(join_providers clock _ _ _ _).trans h.names, fun id held hheld => ?_⟩
      rw [htasks] at hheld
      obtain ⟨-, rfl⟩ | ⟨-, hold⟩ := OrderedDict.get?_set_eq_some.mp hheld
      · rw [htaskRef, ← h.names]
        exact hwired
      · exact h.flight id held hold
  | @entered id task mutex htask =>
      refine h.keep rfl fun other held hheld => ?_
      obtain ⟨before, hbefore, href, -⟩ := kept_rephase htask hheld
      exact ⟨before, hbefore, href⟩
  | @timedOut id task outcome htask =>
      refine h.keep rfl fun other held hheld => ?_
      obtain ⟨before, hbefore, href, -⟩ := kept_rephase htask hheld
      exact ⟨before, hbefore, href⟩
  | ended _ _ hended =>
      refine h.keep (frame_afterExecute _ _ hended).providers fun other held hheld => ?_
      obtain ⟨before, hbefore, href, -⟩ := kept_erase hheld
      exact ⟨before, hbefore, href⟩
  | reconciled =>
      refine h.keep (frame_afterGetState _ _ _ _ _ _).providers fun other held hheld => ?_
      obtain ⟨before, hbefore, href, -⟩ := kept_erase hheld
      exact ⟨before, hbefore, href⟩
  | abandoned | interrupted =>
      refine h.keep rfl fun other held hheld => ?_
      obtain ⟨before, hbefore, href, -⟩ := kept_erase hheld
      exact ⟨before, hbefore, href⟩
  | ingested => exact h.same (frame_ingest _ _ _ _ _ _).providers rfl

theorem provided_initial (registry : DeviceRegistry) (providers : List String) :
    Provided providers (initial registry providers) :=
  ⟨rfl, fun _ _ htask => by simp [initial] at htask⟩

end Homeflow.Commands
