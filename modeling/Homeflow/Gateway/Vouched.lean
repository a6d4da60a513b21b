import Homeflow.Commands.Trail
import Homeflow.Gateway.Gate
import Homeflow.Schedules.Vouched

-- What is done to the house, and on whose behalf.
namespace Homeflow

namespace Commands

open CommandService (validate)

variable {clock : Nat → Time} {coercion : Coercion} {world after : World} {label : Label}

-- The devices stay where they are.
theorem step_refs (hstep : World.step clock coercion world label = some after) :
    after.service.registry.refs = world.service.registry.refs := by
  cases step_moved hstep with
  | @refused call _ _ hcheck =>
      have hframe := CommandService.frame_check clock coercion world.service call
      rw [hcheck] at hframe
      exact hframe.refs
  | @unwired call accepted =>
      exact (CommandService.frame_finish clock (world.service.create clock call accepted).1
        (world.service.create clock call accepted).2 .failed
        (some "provider_unavailable")).refs
  | @joined call accepted ref =>
      exact congrArg DeviceRegistry.refs (join_registry clock
        ({ world with service := (world.service.create clock call accepted).1 } : World)
        (world.service.create clock call accepted).2 ref accepted.params)
  | entered | timedOut | abandoned | interrupted => rfl
  | ended _ _ hended => exact (CommandService.frame_afterExecute _ _ hended).refs
  | @reconciled id task outcome =>
      exact (CommandService.frame_afterGetState clock
        (world.service.emit (.readBackEnded id outcome)) task.running task.ref task.params
        outcome).refs
  | ingested => exact (CommandService.frame_ingest _ _ _ _ _ _).refs

-- A command that someone has asked for.
structure Grounded (warrant : Warrant) (coercion : Coercion) (registry : DeviceRegistry)
    (one : Made) : Prop where
  call : warrant.calls one.call
  params : validate coercion one.call.action one.call.parameters = .ok one.params
  ref : registry.refFor one.call.deviceId = some one.ref

structure Vouched (warrant : Warrant) (coercion : Coercion) (made : Uuid → Option Made)
    (world : World) : Prop where
  traced : ∃ calls, Traced made calls world ∧ ∀ call ∈ calls, warrant.calls call
  grounded : ∀ id one, made id = some one →
    Grounded warrant coercion world.service.registry one

variable {warrant : Warrant} {made : Uuid → Option Made}

theorem vouched_step (h : Vouched warrant coercion made world)
    (hlabel : ∀ call, label = .submit call → warrant.calls call)
    (hstep : World.step clock coercion world label = some after) :
    ∃ more, Vouched warrant coercion more after := by
  obtain ⟨calls, htraced, hcalls⟩ := h.traced
  obtain ⟨more, hmore, hafter⟩ := htraced.step hstep
  have hrefs : ∀ id, after.service.registry.refFor id = world.service.registry.refFor id :=
    fun id => congrArg (OrderedDict.get? · id) (step_refs hstep)
  refine ⟨more, ⟨_, hafter, fun call hcall => ?_⟩, fun id one hone => ?_⟩
  · rcases List.mem_append.mp hcall with hold | hnew
    · exact hcalls call hold
    · cases label with
      | submit submitted =>
          obtain rfl := List.mem_singleton.mp hnew
          exact hlabel _ rfl
      | enter | executeReturns | getStateReturns | cancelTask | ingest => cases hnew
  · rcases hmore id one hone with hold | ⟨hsubmit, -, device, hadmissible⟩
    · obtain ⟨hcall, hparams, href⟩ := h.grounded id one hold
      exact ⟨hcall, hparams, (hrefs _).trans href⟩
    · exact ⟨hlabel _ hsubmit, hadmissible.params, (hrefs _).trans hadmissible.ref⟩

theorem Vouched.executed (h : Vouched warrant coercion made world) {id : Uuid}
    {ref : ProviderDeviceRef} {command : ProviderCommand}
    (hexecuted : .executed id ref command ∈ world.service.trace) :
    ∃ call, warrant.calls call ∧ command.action = call.action ∧
      validate coercion call.action call.parameters = .ok command.params ∧
      world.service.registry.refFor call.deviceId = some ref ∧
      ∀ record, .remembered record ∈ world.service.trace → record.id = id →
        record.requestedByUserId = call.principal.userId ∧
          record.requestedByClientId = call.principal.clientId := by
  obtain ⟨calls, htraced, -⟩ := h.traced
  obtain ⟨one, hmade, rfl, rfl⟩ := htraced.service.trace _ hexecuted
  obtain ⟨hcall, hparams, href⟩ := h.grounded id one hmade
  refine ⟨one.call, hcall, rfl, hparams, href, ?_⟩
  rintro record hrecord rfl
  obtain ⟨other, hother, hbears⟩ := htraced.service.trace _ hrecord
  obtain rfl := Option.some.inj (hmade.symm.trans hother)
  exact ⟨hbears.userId, hbears.clientId⟩

theorem Vouched.recorded (h : Vouched warrant coercion made world) {entry : AuditEntry}
    (hrecorded : .recorded entry ∈ world.service.trace) : warrant.Names entry := by
  obtain ⟨calls, htraced, hcalls⟩ := h.traced
  have hattributed := htraced.service.trace _ hrecorded
  have hnames : ∃ call, warrant.calls call ∧ Names call entry := by
    unfold Effect.Attributed at hattributed
    dsimp only at hattributed
    split at hattributed
    · next id hid =>
      obtain ⟨one, hmade, hentry, -⟩ := hattributed
      exact ⟨one.call, (h.grounded id one hmade).call, hentry⟩
    · obtain ⟨-, call, hcall, hentry⟩ := hattributed
      exact ⟨call, hcalls call hcall, hentry⟩
  obtain ⟨call, hcall, hentry⟩ := hnames
  exact ⟨call.principal, warrant.named hcall, hentry.userId, hentry.clientId⟩

theorem vouched_initial (registry : DeviceRegistry) (providers : List String) :
    Vouched warrant coercion (fun _ => none) (initial registry providers) where
  traced := ⟨[], ⟨⟨by simp [initial], by simp [initial]⟩, by simp [initial], by simp [initial],
    by simp [initial]⟩, by simp⟩
  grounded := by simp

end Commands

namespace Gateway

variable {warrant : Warrant} {commandsClock schedulesClock : Nat → Time} {maximum : ℚ}
  {coercion : Coercion} {world after : World} {label : Label}

def Label.Within (warrant : Warrant) : Label → Prop
  | .command (.submit call) => warrant.calls call
  | .create request => Schedules.Covers warrant request
  | .cancel principal _ => warrant.known principal
  | .fire _ | .fireReturns _ => False
  | _ => True

structure Vouched (warrant : Warrant) (coercion : Coercion) (world : World) : Prop where
  commands : ∃ made, Commands.Vouched warrant coercion made world.commands
  schedules : Schedules.Vouched warrant world.schedules

theorem timers_within {timer : Schedules.Label} (hlabel : label.Within warrant)
    (htimer : world.timers label = some timer) : timer.Within warrant := by
  cases label with
  | command inner => cases htimer
  | create | wake | cancel | stop =>
      obtain rfl := Option.some.inj htimer
      exact hlabel
  | createReturns =>
      obtain ⟨outcome, -, rfl⟩ := Option.map_eq_some_iff.mp htimer
      exact hlabel
  | loopReturns =>
      simp only [World.timers] at htimer
      split at htimer
      · obtain ⟨outcome, -, rfl⟩ := Option.map_eq_some_iff.mp htimer
        exact hlabel
      · cases htimer
  | fire | fireReturns => exact hlabel.elim

theorem vouched_step (h : Vouched warrant coercion world) (hlabel : label.Within warrant)
    (hstep : world.step commandsClock schedulesClock maximum coercion label = some after) :
    Vouched warrant coercion after := by
  obtain ⟨made, hmade⟩ := h.commands
  by_cases hcommand : ∃ inner, label = .command inner
  · obtain ⟨inner, rfl⟩ := hcommand
    obtain ⟨commands, hinner, rfl⟩ := Option.map_eq_some_iff.mp hstep
    refine ⟨Commands.vouched_step hmade (fun call hcall => ?_) hinner, h.schedules⟩
    subst hcall
    exact hlabel
  · obtain ⟨timer, ⟨schedules, call⟩, htimer, hadvance, rfl, -⟩ :=
      step_timers (fun inner hinner => hcommand ⟨inner, hinner⟩) hstep
    obtain ⟨hschedules, hcall⟩ :=
      Schedules.vouched_advance h.schedules (timers_within hlabel htimer) hadvance
    cases call with
    | none => exact ⟨h.commands, hschedules⟩
    | some call =>
        have hsubmit : Commands.World.step commandsClock coercion world.commands
            (.submit call.2) = some (world.commands.submit commandsClock coercion call.2).1 := rfl
        refine ⟨Commands.vouched_step hmade (fun submitted hsame => ?_) hsubmit, hschedules⟩
        obtain rfl := Commands.Label.submit.inj hsame
        exact hcall call rfl

theorem vouched_initial (registry : DeviceRegistry) (providers : List String) :
    Vouched warrant coercion (initial registry providers) :=
  ⟨⟨_, Commands.vouched_initial registry providers⟩, Schedules.vouched_initial⟩

end Gateway

end Homeflow
