import Homeflow.Lib.History
import Homeflow.Schedules.Table

namespace Homeflow.Schedules

open ScheduleService

variable (clock : Nat → Time) (maximum : ℚ)

-- The timer the loop has just made a call for, when the step was one of its own.
def World.submits (after : World) : Label → List Schedule
  | .wake _ | .loopReturns _ _ => after.current.toList
  | _ => []

-- The timers the loop makes calls for over a run, in order.
def submitted (world : World) : List Label → List Schedule
  | [] => []
  | label :: rest =>
      match World.step clock maximum world label with
      | some after => after.submits label ++ submitted after rest
      | none => []

-- Of two due timers on one device, the one due earlier is submitted before the other is.
def InDueOrder (timers submits : List Schedule) : Prop :=
  ∀ first ∈ timers, ∀ second ∈ timers, first.deviceId = second.deviceId →
    first.dueAt < second.dueAt →
    History.Always (fun before timer => timer = second → first ∈ before) submits

-- The due timers of a wake-up are submitted in due order, however the run goes on.
def WakesInOrder (world : World) (ticket : Ticket) : Prop :=
  ∀ more, (Machine.run (World.step clock maximum) world (.wake ticket :: more)).isSome →
    InDueOrder (due clock world.service).2 (submitted clock maximum world (.wake ticket :: more))

-- Timers on one device stand in the order they are due in.
def Sorted (timers : List Schedule) : Prop :=
  timers.Pairwise fun first second => first.deviceId = second.deviceId →
    first.dueAt ≤ second.dueAt

-- At a wake-up no timer that is due stands behind one on its device that is due later.
def ArmedInDueOrder (world : World) : Label → Prop
  | .wake _ => world.service.armed.Pairwise fun first second =>
      first.deviceId = second.deviceId → first.dueAt ≤ clock world.service.reads →
        second.dueAt ≤ clock world.service.reads → first.dueAt ≤ second.dueAt
  | _ => True

variable {clock maximum} {world after : World} {label : Label} {labels : List Label}

instance (timers : List Schedule) : Decidable (Sorted timers) :=
  inferInstanceAs (Decidable (List.Pairwise _ _))

instance : Decidable (ArmedInDueOrder clock world label) := by
  cases label <;> unfold ArmedInDueOrder <;> infer_instance

section Order

variable {timers submits : List Schedule}

-- A list that is in order is gone through in order.
theorem Sorted.inDueOrder (h : Sorted timers) : InDueOrder timers timers := by
  rintro first hfirst second - hdevice hearlier before timer later rfl rfl
  obtain ⟨-, hlater, -⟩ := List.pairwise_append.mp h
  rcases List.mem_append.mp hfirst with hbefore | hbehind
  · exact hbefore
  · exfalso
    rcases List.mem_cons.mp hbehind with rfl | htail
    · exact lt_irrefl _ hearlier
    · have hle := (List.pairwise_cons.mp hlater).1 first htail hdevice.symm
      exact absurd hle (not_le.mpr hearlier)

theorem InDueOrder.sorted (hnodup : timers.Nodup) (h : InDueOrder timers timers) :
    Sorted timers := by
  refine List.pairwise_iff_forall_sublist.mpr fun {first second} hpair hdevice => ?_
  by_contra hlater
  obtain ⟨front, back, rfl, hfirst, hback⟩ := List.cons_sublist_iff.mp hpair
  have hsecond : second ∈ back := List.singleton_sublist.mp hback
  -- The second timer is due earlier, so it would have to stand before the first as well.
  obtain ⟨before, behind, rfl⟩ := List.append_of_mem hfirst
  have hbefore := h second (List.mem_append_right _ hsecond) first
    (List.mem_append_left _ hfirst) hdevice.symm (not_le.mp hlater) before first
    (behind ++ back) (by simp) rfl
  exact List.disjoint_of_nodup_append hnodup (List.mem_append_left _ hbefore) hsecond

theorem InDueOrder.shorten (h : InDueOrder timers timers) (hfront : submits <+: timers) :
    InDueOrder timers submits :=
  fun first hfirst second hsecond hdevice hearlier =>
    (h first hfirst second hsecond hdevice hearlier).shorten hfront

-- Once every due timer has been submitted, nothing that comes later is out of order.
theorem InDueOrder.extend (h : InDueOrder timers timers) (hfront : timers <+: submits) :
    InDueOrder timers submits := by
  obtain ⟨later, rfl⟩ := hfront
  intro first hfirst second hsecond hdevice hearlier
  exact (h first hfirst second hsecond hdevice hearlier).append
    (fun more timer _ => List.mem_append_left more hfirst) later

end Order

section Loop

theorem step_wake (ticket : Ticket) (hloop : world.loop = .asleep) :
    World.step clock maximum world (.wake ticket) =
      some (World.next clock { world with service := (due clock world.service).1 } ticket
        (due clock world.service).2).1 := by
  rw [World.step, World.advance, hloop]
  rfl

theorem asleep_of_step {ticket : Ticket}
    (hstep : World.step clock maximum world (.wake ticket) = some after) :
    world.loop = .asleep := by
  obtain ⟨stepped, hadvance, -⟩ := Option.map_eq_some_iff.mp hstep
  rw [World.advance] at hadvance
  split at hadvance
  · next hloop => exact hloop
  · cases hadvance

theorem firing_of_step {outcome : SubmitOutcome} {ticket : Ticket}
    (hstep : World.step clock maximum world (.loopReturns outcome ticket) = some after) :
    ∃ called current rest, world.loop = .firing called current rest ∧
      after = (World.next clock
        { world with service := runResumes clock world.service current outcome } ticket
          rest).1 := by
  obtain ⟨stepped, hadvance, rfl⟩ := Option.map_eq_some_iff.mp hstep
  rw [World.advance] at hadvance
  split at hadvance
  · next called current rest hloop =>
    obtain rfl := Option.some.inj hadvance
    exact ⟨called, current, rest, hloop, rfl⟩
  · cases hadvance

-- A step that is not the loop's own leaves the loop where it is, or stops it.
theorem step_loop (hstep : World.step clock maximum world label = some after) :
    (∃ ticket, label = .wake ticket ∧ world.loop = .asleep ∧
        after = (World.next clock { world with service := (due clock world.service).1 } ticket
          (due clock world.service).2).1) ∨
      (∃ outcome ticket called current rest, label = .loopReturns outcome ticket ∧
        world.loop = .firing called current rest ∧
        after = (World.next clock
          { world with service := runResumes clock world.service current outcome } ticket
            rest).1) ∨
      (∃ abandoned, after.submits label = [] ∧ after.loop = .stopped abandoned) ∨
      (after.submits label = [] ∧ after.loop = world.loop) := by
  have hwhole := hstep
  obtain ⟨stepped, hadvance, rfl⟩ := Option.map_eq_some_iff.mp hstep
  cases label with
  | create ticket request device =>
      refine .inr (.inr (.inr ⟨rfl, ?_⟩))
      rw [World.advance] at hadvance
      split at hadvance
      · cases hadvance
      · split at hadvance <;> cases hadvance <;> rfl
  | createReturns ticket outcome =>
      obtain ⟨pending, -, rfl⟩ := Option.map_eq_some_iff.mp hadvance
      exact .inr (.inr (.inr ⟨rfl, rfl⟩))
  | cancel principal id =>
      obtain rfl := Option.some.inj hadvance
      exact .inr (.inr (.inr ⟨rfl, rfl⟩))
  | wake ticket =>
      have hloop := asleep_of_step hwhole
      exact .inl ⟨ticket, rfl, hloop, Option.some.inj (hwhole.symm.trans (step_wake ticket hloop))⟩
  | loopReturns outcome ticket =>
      obtain ⟨called, current, rest, hloop, hnext⟩ := firing_of_step hwhole
      exact .inr (.inl ⟨outcome, ticket, called, current, rest, rfl, hloop, hnext⟩)
  | stop =>
      obtain rfl := Option.some.inj hadvance
      exact .inr (.inr (.inl ⟨world.unhandled, rfl, rfl⟩))
  | fire ticket schedule =>
      rw [World.advance] at hadvance
      split at hadvance
      · cases hadvance
      · obtain rfl := Option.some.inj hadvance
        exact .inr (.inr (.inr ⟨rfl, rfl⟩))
  | fireReturns ticket outcome =>
      obtain ⟨schedule, -, rfl⟩ := Option.map_eq_some_iff.mp hadvance
      exact .inr (.inr (.inr ⟨rfl, rfl⟩))

theorem submitted_cons (hstep : World.step clock maximum world label = some after)
    (rest : List Label) :
    submitted clock maximum world (label :: rest) =
      after.submits label ++ submitted clock maximum after rest := by
  rw [submitted, hstep]

-- A loop that was cancelled submits nothing more.
theorem submitted_stopped {abandoned : Option Schedule} (hloop : world.loop = .stopped abandoned) :
    submitted clock maximum world labels = [] := by
  induction labels generalizing world abandoned with
  | nil => rfl
  | cons label rest ih =>
      rw [submitted]
      split
      · next after hstep =>
        rcases step_loop hstep with ⟨_, -, hasleep, -⟩ | ⟨_, _, _, _, _, -, hfiring, -⟩ |
          ⟨_, hsubmits, hstopped⟩ | ⟨hsubmits, hsame⟩
        · simp [hloop] at hasleep
        · simp [hloop] at hfiring
        · rw [hsubmits, ih hstopped, List.append_nil]
        · rw [hsubmits, ih (hsame.trans hloop), List.append_nil]
      · rfl

-- Until it wakes up again the loop submits the rest of its due list, in the order it has it.
theorem submitted_firing {called : Ticket} {current : Schedule} {timers : List Schedule}
    (hloop : world.loop = .firing called current timers) :
    submitted clock maximum world labels <+: timers ∨
      timers <+: submitted clock maximum world labels := by
  induction labels generalizing world called current timers with
  | nil => exact .inl List.nil_prefix
  | cons label rest ih =>
      rw [submitted]
      split
      · next after hstep =>
        rcases step_loop hstep with ⟨_, -, hasleep, -⟩ |
          ⟨outcome, ticket, _, fired, queued, rfl, hfiring, rfl⟩ |
          ⟨_, hsubmits, hstopped⟩ | ⟨hsubmits, hsame⟩
        · simp [hloop] at hasleep
        · obtain ⟨-, -, rfl⟩ := Loop.firing.inj (hloop.symm.trans hfiring)
          cases timers with
          | nil => exact .inr List.nil_prefix
          | cons timer queued =>
              let next := (World.next clock
                { world with service := runResumes clock world.service fired outcome } ticket
                  (timer :: queued)).1
              have hnext : next.loop = .firing ticket timer queued := rfl
              rcases ih hnext with hpart | hall
              · exact .inl ((List.prefix_cons_inj timer).mpr hpart)
              · exact .inr ((List.prefix_cons_inj timer).mpr hall)
        · rw [hsubmits, submitted_stopped hstopped]
          exact .inl List.nil_prefix
        · rw [hsubmits, List.nil_append]
          exact ih (hsame.trans hloop)
      · exact .inl List.nil_prefix

-- With every call ended, the loop has submitted all that it was to fire.
theorem submitted_all {called : Ticket} {current : Schedule} {timers : List Schedule}
    (hloop : world.loop = .firing called current timers) (ticket : Ticket) :
    (Machine.run (World.step clock maximum) world
        (timers.map fun _ => .loopReturns .raised ticket)).isSome ∧
      submitted clock maximum world (timers.map fun _ => .loopReturns .raised ticket) =
        timers := by
  induction timers generalizing world called current with
  | nil => exact ⟨rfl, rfl⟩
  | cons timer rest ih =>
      let next := (World.next clock
        { world with service := runResumes clock world.service current .raised } ticket
          (timer :: rest)).1
      have hstep : World.step clock maximum world (.loopReturns .raised ticket) = some next := by
        rw [World.step, World.advance, hloop]
        rfl
      have hnext : next.loop = .firing ticket timer rest := rfl
      obtain ⟨hrun, hsubmitted⟩ := ih hnext
      rw [List.map_cons, Machine.run, submitted_cons hstep, hstep]
      exact ⟨hrun, congrArg (timer :: ·) hsubmitted⟩

end Loop

section Wake

variable {ticket : Ticket}

theorem armedInDueOrder_wake :
    ArmedInDueOrder clock world (.wake ticket) ↔ Sorted (due clock world.service).2 := by
  rw [ArmedInDueOrder, Sorted, due, List.pairwise_filter]
  refine List.Pairwise.iff fun {first second} => ?_
  simp only [decide_eq_true_eq]
  tauto

-- What the loop submits after a wake-up begins with its due list, as far as it comes.
theorem submitted_wake (hloop : world.loop = .asleep) (more : List Label) :
    submitted clock maximum world (.wake ticket :: more) <+: (due clock world.service).2 ∨
      (due clock world.service).2 <+: submitted clock maximum world (.wake ticket :: more) := by
  rw [submitted_cons (step_wake ticket hloop)]
  cases hdue : (due clock world.service).2 with
  | nil => exact .inr List.nil_prefix
  | cons timer rest =>
      let next := (World.next clock { world with service := (due clock world.service).1 } ticket
        (timer :: rest)).1
      have hnext : next.loop = .firing ticket timer rest := rfl
      rcases submitted_firing hnext with hpart | hall
      · exact .inl ((List.prefix_cons_inj timer).mpr hpart)
      · exact .inr ((List.prefix_cons_inj timer).mpr hall)

theorem submitted_wake_all (hloop : world.loop = .asleep) :
    ∃ more, (Machine.run (World.step clock maximum) world (.wake ticket :: more)).isSome ∧
      submitted clock maximum world (.wake ticket :: more) = (due clock world.service).2 := by
  have hstep := @step_wake clock maximum world ticket hloop
  cases hdue : (due clock world.service).2 with
  | nil =>
      refine ⟨[], ?_, ?_⟩
      · rw [Machine.run, hstep]
        rfl
      · rw [submitted_cons hstep, hdue]
        rfl
  | cons timer rest =>
      rw [hdue] at hstep
      let next := (World.next clock { world with service := (due clock world.service).1 } ticket
        (timer :: rest)).1
      have hnext : next.loop = .firing ticket timer rest := rfl
      obtain ⟨hrun, hsubmitted⟩ := submitted_all hnext ticket
      refine ⟨rest.map fun _ => .loopReturns .raised ticket, ?_, ?_⟩
      · rw [Machine.run, hstep]
        exact hrun
      · rw [submitted_cons hstep]
        exact congrArg (timer :: ·) hsubmitted

-- A wake-up is in order when the armed timers that are due stand in due order, and only then.
theorem wakesInOrder_iff (hkeyed : Keyed world.service) (hloop : world.loop = .asleep) :
    WakesInOrder clock maximum world ticket ↔ ArmedInDueOrder clock world (.wake ticket) := by
  rw [armedInDueOrder_wake]
  constructor
  · intro hwakes
    have hnodup : (due clock world.service).2.Nodup :=
      (hkeyed.armed_ids_nodup.of_map _).filter _
    obtain ⟨more, hrun, hall⟩ := @submitted_wake_all clock maximum world ticket hloop
    exact InDueOrder.sorted hnodup (hall ▸ hwakes more hrun)
  · intro hsorted more _
    rcases @submitted_wake clock maximum world ticket hloop more with hpart | hall
    · exact hsorted.inDueOrder.shorten hpart
    · exact hsorted.inDueOrder.extend hall

end Wake

-- The loop fires in the order of its table: due timers are submitted in due order exactly in
-- the runs in which, at each wake-up, no due timer is stored behind one due later.
theorem fires_in_due_order_iff
    (hrun : Machine.run (World.step clock maximum) {} labels = some world) :
    (∀ before ticket rest asleep, labels = before ++ .wake ticket :: rest →
      Machine.run (World.step clock maximum) {} before = some asleep →
      WakesInOrder clock maximum asleep ticket) ↔
      Machine.Guarded (World.step clock maximum) (ArmedInDueOrder clock) {} labels := by
  rw [Machine.guarded_iff_forall hrun]
  have hwake : ∀ before ticket rest asleep, labels = before ++ .wake ticket :: rest →
      Machine.run (World.step clock maximum) {} before = some asleep →
      (WakesInOrder clock maximum asleep ticket ↔
        ArmedInDueOrder clock asleep (.wake ticket)) := by
    rintro before ticket rest asleep rfl hbefore
    have hwoken : Machine.run (World.step clock maximum) asleep (.wake ticket :: rest) =
        some world := by
      simpa [Machine.run_append, hbefore] using hrun
    obtain ⟨after, hstep, -⟩ := Option.bind_eq_some_iff.mp hwoken
    exact wakesInOrder_iff (oneArmed_run hbefore).keyed (asleep_of_step hstep)
  constructor
  · intro hwakes before label rest asleep hsplit hbefore
    cases label with
    | wake ticket =>
        exact (hwake before ticket rest asleep hsplit hbefore).mp
          (hwakes before ticket rest asleep hsplit hbefore)
    | create | createReturns | cancel | loopReturns | stop | fire | fireReturns => trivial
  · intro hguarded before ticket rest asleep hsplit hbefore
    exact (hwake before ticket rest asleep hsplit hbefore).mpr
      (hguarded before (.wake ticket) rest asleep hsplit hbefore)

theorem fires_in_due_order_iff_untouched :
    Machine.Guarded (World.step halfHourly 24) (ArmedInDueOrder halfHourly) {} untouched ∧
      ∀ before ticket rest asleep, untouched = before ++ .wake ticket :: rest →
        Machine.run (World.step halfHourly 24) {} before = some asleep →
        WakesInOrder halfHourly 24 asleep ticket := by
  have hguarded : Machine.Guarded (World.step halfHourly 24) (ArmedInDueOrder halfHourly) {}
      untouched := by decide +kernel
  obtain ⟨world, hrun⟩ := Option.isSome_iff_exists.mp
    (show (Machine.run (World.step halfHourly 24) {} untouched).isSome = true by decide +kernel)
  exact ⟨hguarded, (fires_in_due_order_iff hrun).mpr hguarded⟩

-- Two timers are armed at 10 s and at 1805 s, and the loop looks at the clock at 3612 s.
def lateTick (reading : Nat) : Time :=
  if reading < 3 then 10000000 else if reading < 6 then 1805000000 else 3612000000

def pumpOn : Command :=
  { id := 0, deviceId := 0, requestedByUserId := 0, requestedByClientId := 0
    action := .setFilter, parameters := [("on", .bool true)], riskClass := .medium
    correlationId := "request", createdAt := 0, expiresAt := 0, status := .succeeded }

-- The heater is to start in an hour, and later on the pump is run for half an hour.
def pumpEndsFirst : List Label :=
  [.create 0 ⟨member, 0, .setHeater, .delayedStart, 1, "request"⟩ (some poolDevice),
    .create 1 (halfHourTimer .setFilter .runFor) (some poolDevice),
    .createReturns 1 (.returned pumpOn)]

def lateWake : List Label := [.wake 2, .loopReturns .raised 3]

-- The pump is due to go off before the heater goes on, and goes off after it.
theorem pump_off_fires_last :
    ∃ asleep final, Machine.run (World.step lateTick 24) {} pumpEndsFirst = some asleep ∧
      Machine.run (World.step lateTick 24) asleep lateWake = some final ∧
      ((firings final.service.trace).map fun firing =>
        (firing.timer.dueAt, firing.call.action, firing.timer.desired)) =
          [(3610000000, .setHeater, true), (3605000000, .setFilter, false)] ∧
      ¬InDueOrder (due lateTick asleep.service).2 (submitted lateTick 24 asleep lateWake) := by
  obtain ⟨asleep, hasleep, hrest⟩ := (Option.any_eq_true _ _).mp
    (show (Machine.run (World.step lateTick 24) {} pumpEndsFirst).any (fun asleep =>
      (due lateTick asleep.service).2.Nodup ∧ ¬Sorted (due lateTick asleep.service).2 ∧
        submitted lateTick 24 asleep lateWake = (due lateTick asleep.service).2 ∧
        (Machine.run (World.step lateTick 24) asleep lateWake).any (fun final =>
          ((firings final.service.trace).map fun firing =>
            (firing.timer.dueAt, firing.call.action, firing.timer.desired)) =
              [(3610000000, .setHeater, true), (3605000000, .setFilter, false)])) = true by
        decide +kernel)
  obtain ⟨hnodup, hunsorted, hsubmitted, hfinal⟩ := of_decide_eq_true hrest
  obtain ⟨final, hrun, hfired⟩ := (Option.any_eq_true _ _).mp hfinal
  refine ⟨asleep, final, hasleep, hrun, of_decide_eq_true hfired, fun hordered => ?_⟩
  rw [hsubmitted] at hordered
  exact hunsorted (hordered.sorted hnodup)

end Homeflow.Schedules
