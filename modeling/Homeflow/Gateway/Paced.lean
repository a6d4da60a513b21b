import Homeflow.Commands.Single
import Homeflow.Gateway.Replacement
import Homeflow.Schedules.Counts

-- What the requests of the clients can come to.
namespace Homeflow

namespace Commands

variable {clock : Nat → Time} {coercion : Coercion} {world after : World} {label : Label}

def Label.submits : Label → Bool
  | .submit _ => true
  | _ => false

-- Only a submit draws an identifier, and no more than one.
theorem step_ids_le (hstep : World.step clock coercion world label = some after) :
    after.service.ids ≤ world.service.ids + if label.submits then 1 else 0 := by
  cases step_moved hstep with
  | @refused call _ _ hcheck =>
      have hframe := CommandService.frame_check clock coercion world.service call
      rw [hcheck] at hframe
      exact hframe.ids.le.trans (Nat.le_succ _)
  | @unwired call accepted =>
      exact (CommandService.frame_finish clock (world.service.create clock call accepted).1
        (world.service.create clock call accepted).2 .failed
        (some "provider_unavailable")).ids.le
  | @joined call accepted ref =>
      exact (join_ids clock
        ({ world with service := (world.service.create clock call accepted).1 } : World)
        (world.service.create clock call accepted).2 ref accepted.params).le
  | entered | timedOut | abandoned | interrupted => exact le_rfl
  | ended _ _ hended => exact (CommandService.frame_afterExecute _ _ hended).ids.le
  | @reconciled id task outcome =>
      exact (CommandService.frame_afterGetState clock
        (world.service.emit (.readBackEnded id outcome)) task.running task.ref task.params
        outcome).ids.le
  | ingested => exact (CommandService.frame_ingest _ _ _ _ _ _).ids.le

end Commands

namespace Gateway

open Schedules (Handling Counted)

variable {commandsClock schedulesClock : Nat → Time} {maximum : ℚ} {coercion : Coercion}
  {world after : World} {label : Label} {tapped asked : Nat}

def Label.taps : Label → Bool
  | .command label => label.submits
  | _ => false

def Label.requests : Label → Bool
  | .create _ => true
  | _ => false

-- How often the clients may have asked for what has happened.
structure Paced (schedulesClock : Nat → Time) (tapped asked : Nat) (world : World) : Prop where
  locked : Commands.Locked world.commands
  single : Commands.Single world.commands
  handling : Handling schedulesClock world.schedules
  counted : Counted asked world.schedules
  ids : world.commands.service.ids ≤
    tapped + (Schedules.made world.schedules.service.trace).length

-- A call that is made runs on in the commands.
theorem Paced.submits {world : World} {schedules : Schedules.World}
    {call : Option (Schedules.Ticket × SubmitCall)}
    (h : Paced schedulesClock tapped asked world) {more : Nat}
    (hhandling : Handling schedulesClock schedules) (hcounted : Counted more schedules)
    (hmade : Schedules.made schedules.service.trace =
      Schedules.made world.schedules.service.trace ++ call.toList) :
    Paced schedulesClock tapped more (world.submits commandsClock coercion (schedules, call)) := by
  cases call with
  | none =>
      refine ⟨h.locked, h.single, hhandling, hcounted, ?_⟩
      simpa [World.submits, hmade] using h.ids
  | some call =>
      obtain ⟨ticket, call⟩ := call
      have hstep : Commands.World.step commandsClock coercion world.commands (.submit call) =
        some (world.commands.submit commandsClock coercion call).1 := rfl
      have hids := Commands.step_ids_le hstep
      refine ⟨Commands.locked_step h.locked hstep, Commands.single_step h.single h.locked hstep,
        hhandling, hcounted, ?_⟩
      have hbefore := h.ids
      simp only [World.submits, hmade, List.length_append, Option.toList_some,
        List.length_singleton]
      refine hids.trans ?_
      simp only [Commands.Label.submits, if_true]
      omega

theorem Paced.command {inner : Commands.Label}
    (h : Paced schedulesClock tapped asked world)
    (hstep : world.step commandsClock schedulesClock maximum coercion (.command inner) =
      some after) :
    Paced schedulesClock (tapped + if inner.submits then 1 else 0) asked after := by
  obtain ⟨commands, hcommands, rfl⟩ := Option.map_eq_some_iff.mp hstep
  refine ⟨Commands.locked_step h.locked hcommands,
    Commands.single_step h.single h.locked hcommands, h.handling, h.counted, ?_⟩
  have hids := Commands.step_ids_le hcommands
  have hbefore := h.ids
  dsimp only
  omega

theorem timers_creates {timer : Schedules.Label} (htimer : world.timers label = some timer) :
    timer.creates = label.requests := by
  cases label with
  | command inner => cases htimer
  | create | wake | fire | cancel | stop =>
      obtain rfl := Option.some.inj htimer
      rfl
  | createReturns | fireReturns =>
      obtain ⟨outcome, -, rfl⟩ := Option.map_eq_some_iff.mp htimer
      rfl
  | loopReturns =>
      simp only [World.timers] at htimer
      split at htimer
      · obtain ⟨outcome, -, rfl⟩ := Option.map_eq_some_iff.mp htimer
        rfl
      · cases htimer

-- What the timers do, they do for a request.
theorem Paced.timer (hclock : Monotone schedulesClock)
    (h : Paced schedulesClock tapped asked world) (hlabel : ∀ inner, label ≠ .command inner)
    (hdirect : label.direct = false)
    (hstep : world.step commandsClock schedulesClock maximum coercion label = some after) :
    Paced schedulesClock tapped (asked + if label.requests then 1 else 0) after := by
  obtain ⟨timer, ⟨schedules, call⟩, htimer, hadvance, rfl, -⟩ := step_timers hlabel hstep
  have htimerDirect := timers_direct hdirect htimer
  have htimerStep : Schedules.World.step schedulesClock maximum world.schedules timer =
      some schedules := by
    rw [Schedules.World.step, hadvance]
    rfl
  refine h.submits (Schedules.handling_step hclock h.handling htimerDirect htimerStep) ?_
    (Schedules.advance_made hadvance)
  rw [← timers_creates htimer]
  by_cases hcreates : timer.creates = true
  · rw [hcreates, if_pos rfl]
    cases timer with
    | create => exact Schedules.counted_create h.counted hadvance
    | createReturns | cancel | wake | loopReturns | stop | fire | fireReturns => cases hcreates
  · rw [if_neg hcreates]
    exact Schedules.counted_runs h.counted htimerDirect (Bool.not_eq_true _ ▸ hcreates) hadvance

theorem paced_step (hclock : Monotone schedulesClock)
    (h : Paced schedulesClock tapped asked world) (hdirect : label.direct = false)
    (hstep : world.step commandsClock schedulesClock maximum coercion label = some after) :
    Paced schedulesClock (tapped + if label.taps then 1 else 0)
      (asked + if label.requests then 1 else 0) after := by
  by_cases hlabel : ∃ inner, label = .command inner
  · obtain ⟨inner, rfl⟩ := hlabel
    exact h.command hstep
  · have hnone : ∀ inner, label ≠ .command inner := fun inner hinner => hlabel ⟨inner, hinner⟩
    have htaps : label.taps = false := by
      cases label with
      | command inner => exact absurd rfl (hnone inner)
      | create | createReturns | cancel | wake | loopReturns | stop | fire | fireReturns => rfl
    rw [htaps]
    exact h.timer hclock hnone hdirect hstep

theorem paced_initial (registry : DeviceRegistry) (providers : List String) :
    Paced schedulesClock 0 0 (initial registry providers) where
  locked := Commands.locked_initial rfl
  single := Commands.single_initial registry providers
  handling := Schedules.handling_initial
  counted := ⟨le_rfl, le_rfl⟩
  ids := le_rfl

-- A tap comes to one call of an adapter at most, and a timer to two.
theorem Paced.executions_le (h : Paced schedulesClock tapped asked world) :
    world.executions.length ≤ tapped + 2 * asked := by
  have hsingle := h.single.length_le
  have hmade := h.counted.made_le h.handling
  have hids := h.ids
  change (Commands.executions world.commands.service.trace).length ≤ _
  omega

end Gateway

end Homeflow
