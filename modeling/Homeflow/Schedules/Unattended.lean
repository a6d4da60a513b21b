import Homeflow.Schedules.Disarmed
import Mathlib.Data.Int.ConditionallyCompleteOrder

namespace Homeflow.Schedules

open ScheduleService

-- A firing call asks for what its timer was armed for, no earlier than it is due.
structure Firing.Faithful (firing : Firing) : Prop where
  deviceId : firing.call.deviceId = firing.timer.deviceId
  action : firing.call.action = firing.timer.action
  parameters : firing.call.parameters = [("on", .bool firing.timer.desired)]
  due : firing.timer.dueAt ≤ firing.reading

-- The last record stored for a timer is settled, and so is the one in the table.
def StoredSettled (service : ScheduleService) (id : Uuid) : Prop :=
  (∃ last, Journal.latest Schedule.id (records service.trace) id = some last ∧
    last.status ∈ SETTLED) ∧
  ∀ schedule, service.schedules.get? id = some schedule → schedule.status ∈ SETTLED

-- Every timer fires at most once, as it was armed, and is settled when the loop is
-- done with it.
structure AtMostOnce (world : World) : Prop where
  once : ((firings world.service.trace).map fun firing => firing.timer.id).Nodup
  armed : ∀ firing ∈ firings world.service.trace,
    firing.timer ∈ records world.service.trace ∧ firing.timer.status = .armed
  faithful : ∀ firing ∈ firings world.service.trace, firing.Faithful
  handled : ∀ firing ∈ firings world.service.trace,
    world.unhandled = some firing.timer ∨ StoredSettled world.service firing.timer.id

def Fired (service : ScheduleService) (id : Uuid) : Prop :=
  id ∈ (firings service.trace).map fun firing => firing.timer.id

def SettledFor (service : ScheduleService) (id : Uuid) : Prop :=
  ∃ schedule ∈ records service.trace, schedule.id = id ∧ schedule.status ∈ SETTLED

section Service

variable {clock : Nat → Time} {service after : ScheduleService}

theorem SettledFor.stored (htidy : Tidy service) {id : Uuid} (h : SettledFor service id) :
    StoredSettled service id := by
  obtain ⟨schedule, hmem, rfl, hsettled⟩ := h
  obtain ⟨last, hlatest, hlast⟩ := Journal.latest_closed htidy.closes hmem hsettled
  refine ⟨⟨last, hlatest, hlast⟩, fun held hget => ?_⟩
  obtain rfl := Option.some.inj (hlatest.symm.trans (htidy.latest _ held hget))
  exact hlast

-- What the service has fired and what it will still fire, when the loop holds a list
-- of due timers.
structure Firable (clock : Nat → Time) (service : ScheduleService) (timers : List Schedule) :
    Prop where
  tidy : Tidy service
  once : ((firings service.trace).map fun firing => firing.timer.id).Nodup
  armed : ∀ firing ∈ firings service.trace,
    firing.timer ∈ records service.trace ∧ firing.timer.status = .armed
  faithful : ∀ firing ∈ firings service.trace, firing.Faithful
  distinct : (timers.map Schedule.id).Nodup
  timers : ∀ timer ∈ timers, timer ∈ records service.trace ∧ timer.status = .armed ∧
    timer.dueAt ≤ clock (service.reads - 1) ∧ ¬Fired service timer.id

-- An operation that fires nothing and forgets no record.
structure Grows (before after : ScheduleService) : Prop where
  reads : before.reads ≤ after.reads
  records : records before.trace ⊆ records after.trace
  firings : firings after.trace = firings before.trace

theorem Quiet.grows (h : Quiet service after) : Grows service after :=
  ⟨h.reads, h.records ▸ List.Subset.refl _, h.unfired.firings_eq⟩

theorem grows_settle {schedule : Schedule} {status : SettledStatus} {failureCode : Option String}
    {commandId : Option Uuid} {actor : Option Principal} :
    Grows service (settle clock service schedule status failureCode commandId actor) :=
  ⟨Nat.le_add_right _ 2, records_settle service _ _ _ _ _ ▸ List.subset_append_left _ _,
    (unfired_settle service _ _ _ _ _).firings_eq⟩

theorem grows_arm {pending : PendingCreate} {commandId : Option Uuid} :
    Grows service (arm clock service pending commandId).1 := by
  refine ⟨arm_reads _ _ _ _, ?_, (unfired_arm clock service _ _).firings_eq⟩
  rw [records_arm, records_supersede, List.append_assoc]
  exact List.subset_append_left _ _

theorem Grows.settledFor (h : Grows service after) {id : Uuid} (hid : SettledFor service id) :
    SettledFor after id := by
  obtain ⟨schedule, hmem, hrest⟩ := hid
  exact ⟨schedule, h.records hmem, hrest⟩

theorem Firable.grows (hclock : Monotone clock) {timers : List Schedule}
    (h : Firable clock service timers) (hgrows : Grows service after) (htidy : Tidy after) :
    Firable clock after timers := by
  refine ⟨htidy, hgrows.firings ▸ h.once, ?_, hgrows.firings ▸ h.faithful, h.distinct, ?_⟩
  · rw [hgrows.firings]
    exact fun firing hfiring =>
      ⟨hgrows.records (h.armed firing hfiring).1, (h.armed firing hfiring).2⟩
  · intro timer htimer
    obtain ⟨hmem, harmed, hdue, hnot⟩ := h.timers timer htimer
    refine ⟨hgrows.records hmem, harmed, hdue.trans (hclock ?_), ?_⟩
    · exact Nat.sub_le_sub_right hgrows.reads 1
    · rwa [Fired, hgrows.firings]

theorem firings_emit_fired (service : ScheduleService) (firing : Firing) :
    firings (service.emit (.fired firing)).trace = firings service.trace ++ [firing] := by
  simp [emit, firings, Effect.fired?]

end Service

variable {clock : Nat → Time} {maximum : ℚ}

-- Nothing that was fired before the current timer is left unsettled.
structure Handling (clock : Nat → Time) (world : World) : Prop where
  firable : Firable clock world.service world.waiting
  handled : ∀ firing ∈ firings world.service.trace,
    world.unhandled = some firing.timer ∨ SettledFor world.service firing.timer.id
  unhandled : ∀ timer, world.unhandled = some timer → timer.id < world.service.ids

theorem handling_next {world : World} {ticket : Ticket} {timers : List Schedule}
    (h : Firable clock world.service timers)
    (hhandled : ∀ firing ∈ firings world.service.trace,
      SettledFor world.service firing.timer.id) :
    Handling clock (World.next clock world ticket timers).1 := by
  obtain ⟨rfl, heq⟩ | ⟨timer, rest, rfl, heq⟩ := next_cases clock world ticket timers
  · rw [heq]
    exact ⟨h, fun firing hfiring => .inr (hhandled firing hfiring),
      fun _ hnone => by simp [World.unhandled] at hnone⟩
  · rw [heq]
    obtain ⟨hmem, harmed, hdue, hnot⟩ := h.timers timer List.mem_cons_self
    obtain ⟨hfirst, hdistinct⟩ := List.nodup_cons.mp h.distinct
    have hrecords : records (world.call clock ticket timer).service.trace =
        records world.service.trace := records_emit_fired _ _
    have hfirings : firings (world.call clock ticket timer).service.trace =
        firings world.service.trace ++
          [⟨ticket, timer, fireCall timer, clock (world.service.reads - 1)⟩] :=
      firings_emit_fired _ _
    refine ⟨⟨h.tidy.congr rfl rfl hrecords, ?_, ?_, ?_, hdistinct, ?_⟩, ?_, ?_⟩
    · dsimp only
      rw [hfirings, List.map_append, List.nodup_append]
      refine ⟨h.once, List.nodup_singleton _, fun id hid other hother he => ?_⟩
      have hsame : id = timer.id := he.trans (List.mem_singleton.mp hother)
      exact hnot (hsame ▸ hid)
    · dsimp only
      rw [hfirings, hrecords]
      intro firing hfiring
      rcases List.mem_append.mp hfiring with hold | hnew
      · exact h.armed firing hold
      · obtain rfl := List.mem_singleton.mp hnew
        exact ⟨hmem, harmed⟩
    · dsimp only
      rw [hfirings]
      intro firing hfiring
      rcases List.mem_append.mp hfiring with hold | hnew
      · exact h.faithful firing hold
      · obtain rfl := List.mem_singleton.mp hnew
        exact ⟨rfl, rfl, rfl, hdue⟩
    · intro other hother
      obtain ⟨hmem', harmed', hdue', hnot'⟩ := h.timers other (List.mem_cons_of_mem _ hother)
      refine ⟨hrecords ▸ hmem', harmed', hdue', ?_⟩
      rw [Fired, hfirings, List.map_append, List.mem_append, not_or]
      refine ⟨hnot', fun he => hfirst ?_⟩
      rw [← (List.mem_singleton.mp he : other.id = timer.id)]
      exact List.mem_map_of_mem hother
    · dsimp only
      rw [hfirings]
      intro firing hfiring
      rcases List.mem_append.mp hfiring with hold | hnew
      · obtain ⟨schedule, hschedule, hrest⟩ := hhandled firing hold
        exact .inr ⟨schedule, hrecords ▸ hschedule, hrest⟩
      · obtain rfl := List.mem_singleton.mp hnew
        exact .inl rfl
    · rintro _ ⟨⟩
      exact h.tidy.known timer hmem

theorem Handling.grows (hclock : Monotone clock) {world : World} {after : ScheduleService}
    (h : Handling clock world) (hgrows : Grows world.service after) (htidy : Tidy after)
    (hids : world.service.ids ≤ after.ids) (creating : OrderedDict Ticket PendingCreate) :
    Handling clock { world with service := after, creating } := by
  refine ⟨h.firable.grows hclock hgrows htidy, fun firing hfiring => ?_, fun timer htimer => ?_⟩
  · rcases h.handled firing (hgrows.firings ▸ hfiring) with hnow | hsettled
    · exact .inl hnow
    · exact .inr (hgrows.settledFor hsettled)
  · exact Nat.lt_of_lt_of_le (h.unhandled timer htimer) hids

theorem handling_step (hclock : Monotone clock) {before after : World} {label : Label}
    (h : Handling clock before) (hlabel : label.direct = false)
    (hstep : World.step clock maximum before label = some after) : Handling clock after := by
  have htidy := h.firable.tidy
  cases step_moved hstep with
  | quiet _ hquiet => exact h.grows hclock hquiet.grows (htidy.quiet hquiet) hquiet.ids.ge _
  | armed => exact h.grows hclock grows_arm (htidy.arm _ _) (arm_ids _ _ _ _ ▸ Nat.le_succ _) _
  | cancelled hget =>
      have hid := htidy.id_eq hget
      exact h.grows hclock grows_settle (htidy.settle (hid ▸ htidy.lt_ids hget) _ _ _ _) le_rfl _
  | woken hloop =>
      have hquiet := quiet_due clock before.service
      have hunhandled : before.unhandled = none := by simp [World.unhandled, hloop]
      have hsettled : ∀ firing ∈ firings before.service.trace,
          SettledFor before.service firing.timer.id := fun firing hfiring =>
        (h.handled firing hfiring).resolve_left (by simp [hunhandled])
      refine handling_next ⟨htidy.quiet hquiet, h.firable.once, h.firable.armed,
        h.firable.faithful, ?_, ?_⟩ hsettled
      · exact htidy.keyed.armed_ids_nodup.sublist (List.filter_sublist.map _)
      · intro timer htimer
        obtain ⟨hmem, hdue⟩ := mem_due_iff.mp htimer
        obtain ⟨hget, harmed⟩ := htidy.of_mem_armed hmem
        refine ⟨htidy.recorded hget, harmed, hdue, fun hfired => ?_⟩
        -- A timer that fired before was settled, so it is not armed now.
        obtain ⟨firing, hfiring, hid⟩ := List.mem_map.mp hfired
        obtain ⟨schedule, hschedule, hsame, hstatus⟩ := hsettled firing hfiring
        obtain rfl := htidy.eq_of_armed hget harmed hschedule (hsame.trans hid)
        exact armed_notMem_settled (harmed ▸ hstatus)
  | @returned _ _ _ current rest status failureCode commandId hloop _ =>
      have hunhandled : before.unhandled = some current := by simp [World.unhandled, hloop]
      have hwaiting : before.waiting = rest := by simp [World.waiting, hloop]
      have hgrows : Grows before.service
          (settle clock before.service current status failureCode commandId) := grows_settle
      refine handling_next ?_ fun firing hfiring => ?_
      · exact hwaiting ▸ h.firable.grows hclock hgrows
          (htidy.settle (h.unhandled current hunhandled) _ _ _ _)
      · rcases h.handled firing (hgrows.firings ▸ hfiring) with hnow | hsettled
        · have hsame : current = firing.timer := Option.some.inj (hunhandled.symm.trans hnow)
          refine ⟨current.settled status.val failureCode commandId, ?_,
            show current.id = firing.timer.id from congrArg Schedule.id hsame, status.property⟩
          rw [records_settle]
          exact List.mem_append_right _ (List.mem_singleton_self _)
        · exact hgrows.settledFor hsettled
  | stopped =>
      refine ⟨⟨htidy, h.firable.once, h.firable.armed, h.firable.faithful, List.nodup_nil, ?_⟩,
        h.handled, h.unhandled⟩
      exact fun _ hmem => by simp [World.waiting] at hmem
  | fired => cases hlabel
  | firedReturns => cases hlabel
  | firedRaises => cases hlabel

theorem handling_initial : Handling clock {} :=
  ⟨⟨tidy_initial, List.nodup_nil, by simp [firings], by simp [firings], List.nodup_nil,
    by simp [World.waiting]⟩, by simp [firings], by simp [World.unhandled]⟩

-- One loop with any calls of create and cancel, however its submit calls end.
theorem unattended_at_most_once (hclock : Monotone clock) {labels : List Label} {world : World}
    (hrun : Machine.run (World.step clock maximum) {} labels = some world)
    (hloop : ∀ label ∈ labels, label.direct = false) : AtMostOnce world := by
  have h : Handling clock world := Machine.guarded_invariant handling_initial
    (fun before label after hbefore hlabel hstep => handling_step hclock hbefore hlabel hstep)
    hrun (Machine.guarded_of_forall hloop)
  refine ⟨h.firable.once, h.firable.armed, h.firable.faithful, fun firing hfiring => ?_⟩
  rcases h.handled firing hfiring with hnow | hsettled
  · exact .inl hnow
  · exact .inr (hsettled.stored h.firable.tidy)

theorem halfHourly_monotone : Monotone halfHourly := by
  intro first second hle
  exact Int.mul_le_mul_of_nonneg_right (Int.ofNat_le.mpr hle) (by decide)

theorem unattended_at_most_once_untouched :
    ∃ world, Machine.run (World.step halfHourly 24) {} untouched = some world ∧
      AtMostOnce world := by
  obtain ⟨world, hrun⟩ := Option.isSome_iff_exists.mp
    (show (Machine.run (World.step halfHourly 24) {} untouched).isSome = true by decide +kernel)
  exact ⟨world, hrun, unattended_at_most_once halfHourly_monotone hrun (by decide)⟩

end Homeflow.Schedules
