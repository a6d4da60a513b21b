import Homeflow.Schedules.Disarmed

namespace Homeflow.Schedules

open ScheduleService

-- A settled status is never replaced by another one and is announced once.
def FinalStatuses (trace : List Effect) : Prop :=
  ((records trace).Pairwise fun earlier later =>
    later.id = earlier.id → earlier.status ∈ SETTLED → later.status = earlier.status) ∧
  ∀ schedule ∈ records trace, schedule.status ∈ SETTLED →
    (settlements trace).count schedule.id = 1

instance (trace : List Effect) : Decidable (FinalStatuses trace) :=
  inferInstanceAs (Decidable (_ ∧ _))

def Armed (service : ScheduleService) (id : Uuid) : Prop :=
  ∃ schedule, service.schedules.get? id = some schedule ∧ schedule.status = .armed

instance (service : ScheduleService) (id : Uuid) : Decidable (Armed service id) :=
  decidable_of_iff
    ((service.schedules.get? id).any fun schedule => schedule.status = .armed)
    (by simp [Armed, Option.any_eq_true])

-- Nothing is stored for a timer once it is settled, and every settlement that is
-- stored is announced.
structure Orderly (service : ScheduleService) : Prop where
  tidy : Tidy service
  final : Journal.Final Schedule.id (fun schedule => schedule.status ∈ SETTLED)
    (records service.trace)
  announced : ∀ id, (settlements service.trace).count id =
    (records service.trace).countP fun schedule => schedule.id = id ∧ schedule.status ∈ SETTLED

variable {clock : Nat → Time} {maximum : ℚ}

section Orderly

variable {service : ScheduleService}

theorem Armed.notMem_settled (htidy : Tidy service) {id : Uuid} (h : Armed service id) :
    ∀ schedule ∈ records service.trace, id = schedule.id → schedule.status ∉ SETTLED := by
  obtain ⟨held, hget, harmed⟩ := h
  intro schedule hmem hid
  rw [htidy.eq_of_armed hget harmed hmem hid.symm, harmed]
  exact armed_notMem_settled

theorem Orderly.finalStatuses (h : Orderly service) : FinalStatuses service.trace := by
  refine ⟨h.final.imp fun {earlier later} hnot hid hsettled => absurd hsettled (hnot hid), ?_⟩
  intro schedule hmem hsettled
  rw [h.announced]
  have hle := Journal.countP_closed_le_one h.final schedule.id
  have hpos : 0 < (records service.trace).countP
      (fun other => other.id = schedule.id ∧ other.status ∈ SETTLED) :=
    List.countP_pos_iff.mpr ⟨schedule, hmem, by simpa using hsettled⟩
  omega

theorem Orderly.congr {after : ScheduleService} (h : Orderly service)
    (hschedules : after.schedules = service.schedules) (hids : after.ids = service.ids)
    (hrecords : records after.trace = records service.trace)
    (hsettlements : settlements after.trace = settlements service.trace) : Orderly after := by
  refine ⟨h.tidy.congr hschedules hids hrecords, hrecords ▸ h.final, fun id => ?_⟩
  rw [hrecords, hsettlements]
  exact h.announced id

theorem Orderly.quiet {after : ScheduleService} (h : Orderly service)
    (hquiet : Quiet service after) : Orderly after :=
  h.congr hquiet.schedules hquiet.ids hquiet.records hquiet.settlements

theorem Orderly.settle (h : Orderly service) {schedule : Schedule}
    (harmed : Armed service schedule.id) (status : SettledStatus) (failureCode : Option String)
    (commandId : Option Uuid) (actor : Option Principal) :
    Orderly (settle clock service schedule status failureCode commandId actor) := by
  obtain ⟨held, hget, -⟩ := id harmed
  refine ⟨h.tidy.settle (h.tidy.lt_ids hget) status failureCode commandId actor, ?_, fun id => ?_⟩
  · rw [records_settle, Journal.final_concat]
    exact ⟨h.final, fun earlier hearlier hid => harmed.notMem_settled h.tidy earlier hearlier hid⟩
  · rw [records_settle, settlements_settle, List.count_append, List.countP_append, h.announced]
    simp [Schedule.settled, List.count_singleton, List.countP_singleton, status.property]

theorem armed_settle_of_ne {schedule : Schedule} {id : Uuid} (hid : id ≠ schedule.id)
    (status : SettledStatus) (failureCode : Option String) (commandId : Option Uuid)
    (actor : Option Principal) :
    Armed (ScheduleService.settle clock service schedule status failureCode commandId actor) id ↔
      Armed service id := by
  rw [Armed, settle_get?, if_neg hid, Armed]

theorem Orderly.supersede (h : Orderly service) {existing : List Schedule}
    (harmed : ∀ timer ∈ existing, Armed service timer.id)
    (hnodup : (existing.map Schedule.id).Nodup) :
    Orderly (supersede clock service existing) := by
  induction existing generalizing service with
  | nil => exact h
  | cons timer rest ih =>
      obtain ⟨htimer, hrest⟩ := List.nodup_cons.mp hnodup
      refine ih (h.settle (harmed timer List.mem_cons_self) _ _ _ _) (fun other hother => ?_) hrest
      have hne : other.id ≠ timer.id := fun he => htimer (he ▸ List.mem_map_of_mem hother)
      exact (armed_settle_of_ne hne _ _ _ _).mpr (harmed other (List.mem_cons_of_mem _ hother))

theorem Orderly.replaced_nodup (h : Orderly service) (deviceId : Uuid) (action : Action) :
    ((service.replaced deviceId action).map Schedule.id).Nodup := by
  have hsorted : ((service.forDevice deviceId).map Schedule.id).Nodup := by
    refine (((service.armed.filter _).perm_insertionSort _).map Schedule.id).nodup_iff.mpr ?_
    exact h.tidy.keyed.armed_ids_nodup.sublist (List.filter_sublist.map _)
  exact hsorted.sublist (List.filter_sublist.map _)

theorem Orderly.arm (h : Orderly service) (pending : PendingCreate) (commandId : Option Uuid) :
    Orderly (arm clock service pending commandId).1 := by
  let drawn : ScheduleService := { service with reads := service.reads + 1 }
  have hsuperseded : Orderly (ScheduleService.supersede clock drawn
      (service.replaced pending.request.deviceId pending.request.action)) := by
    have hdrawn : Orderly drawn := h.congr rfl rfl rfl rfl
    refine hdrawn.supersede (fun timer htimer => ?_) (h.replaced_nodup _ _)
    exact ⟨timer, h.tidy.of_mem_replaced htimer⟩
  refine ⟨h.tidy.arm pending commandId, ?_, fun id => ?_⟩
  · rw [records_arm, Journal.final_concat]
    refine ⟨hsuperseded.final, fun earlier hearlier hid => ?_⟩
    have hlt := hsuperseded.tidy.known earlier hearlier
    rw [supersede_ids] at hlt
    exact absurd hid (Nat.ne_of_gt hlt)
  · have hannounced := hsuperseded.announced id
    rw [settlements_supersede] at hannounced
    rw [records_arm, settlements_arm, List.countP_append, ← hannounced]
    simp [SETTLED, drawn]

theorem armed_arm (htidy : Tidy service) {pending : PendingCreate} {commandId : Option Uuid}
    {id : Uuid} (h : Armed service id)
    (hid : id ∉ (service.replaced pending.request.deviceId pending.request.action).map
      Schedule.id) :
    Armed (ScheduleService.arm clock service pending commandId).1 id := by
  obtain ⟨held, hget, harmed⟩ := h
  have hne := Nat.ne_of_lt (htidy.lt_ids hget)
  exact ⟨held, arm_get?_of_notMem _ _ _ _ hne hid hget harmed, harmed⟩

end Orderly

-- The timers some coroutine will settle are distinct and still armed.
structure Apart (service : ScheduleService) (timers : List Schedule)
    (firing : OrderedDict Ticket Schedule) : Prop where
  orderly : Orderly service
  nodup : (timers.map Schedule.id).Nodup
  timersArmed : ∀ timer ∈ timers, Armed service timer.id
  firingArmed : ∀ ticket timer, firing.get? ticket = some timer → Armed service timer.id
  firingDistinct : ∀ first second timer other, firing.get? first = some timer →
    firing.get? second = some other → timer.id = other.id → first = second
  disjoint : ∀ ticket timer, firing.get? ticket = some timer → timer.id ∉ timers.map Schedule.id

-- The timers whose settling some coroutine has still to do.
def Busy (world : World) (id : Uuid) : Prop :=
  id ∈ world.loopTimers.map Schedule.id ∨
    ∃ ticket timer, world.firing.get? ticket = some timer ∧ timer.id = id

instance (world : World) (id : Uuid) : Decidable (Busy world id) :=
  decidable_of_iff
    (id ∈ world.loopTimers.map Schedule.id ∨ id ∈ world.firing.values.map Schedule.id)
    (by simp only [Busy, List.mem_map, OrderedDict.mem_values_iff]; grind)

variable (clock maximum) in
-- No two settlings of one timer overlap: a busy timer is neither cancelled, replaced
-- nor fired a second time, and only armed timers are fired.
def SettlesApart (world : World) (label : Label) : Prop :=
  (∀ id ∈ disarms clock maximum world label, ¬Busy world id) ∧
  match label with
  | .wake _ => ∀ timer ∈ (due clock world.service).2, ¬Busy world timer.id
  | .fire _ schedule => Armed world.service schedule.id ∧ ¬Busy world schedule.id
  | _ => True

instance (world : World) : ∀ label, Decidable (SettlesApart clock maximum world label)
  | .wake _ | .fire _ _ => inferInstanceAs (Decidable (_ ∧ _))
  | .create _ _ _ | .createReturns _ _ | .cancel _ _ | .loopReturns _ _ | .stop
  | .fireReturns _ _ => inferInstanceAs (Decidable (_ ∧ True))

section Step

variable {service : ScheduleService} {timers : List Schedule} {firing : OrderedDict Ticket Schedule}

theorem Apart.of_orderly {after : ScheduleService} (h : Apart service timers firing)
    (horderly : Orderly after) (harmed : ∀ id, Armed service id →
      (id ∈ timers.map Schedule.id ∨
        ∃ ticket timer, firing.get? ticket = some timer ∧ timer.id = id) →
      Armed after id) : Apart after timers firing :=
  ⟨horderly, h.nodup,
    fun timer htimer => harmed _ (h.timersArmed timer htimer) (.inl (List.mem_map_of_mem htimer)),
    fun ticket timer htimer => harmed _ (h.firingArmed ticket timer htimer)
      (.inr ⟨ticket, timer, htimer, rfl⟩), h.firingDistinct, h.disjoint⟩

theorem armed_congr {after : ScheduleService} {id : Uuid}
    (h : after.schedules = service.schedules) : Armed after id ↔ Armed service id := by
  rw [Armed, h, Armed]

theorem Apart.congr {after : ScheduleService} (h : Apart service timers firing)
    (hschedules : after.schedules = service.schedules) (hids : after.ids = service.ids)
    (hrecords : records after.trace = records service.trace)
    (hsettlements : settlements after.trace = settlements service.trace) :
    Apart after timers firing :=
  h.of_orderly (h.orderly.congr hschedules hids hrecords hsettlements) fun _ harmed _ =>
    (armed_congr hschedules).mpr harmed

theorem Apart.settle_current {timer : Schedule} (h : Apart service (timer :: timers) firing)
    (status : SettledStatus) (failureCode : Option String) (commandId : Option Uuid)
    (actor : Option Principal) :
    Apart (settle clock service timer status failureCode commandId actor) timers firing := by
  obtain ⟨hnot, hnodup⟩ := List.nodup_cons.mp h.nodup
  refine ⟨h.orderly.settle (h.timersArmed timer List.mem_cons_self) _ _ _ _, hnodup, ?_, ?_,
    h.firingDistinct, ?_⟩
  · intro other hother
    have hne : other.id ≠ timer.id := fun he => hnot (he ▸ List.mem_map_of_mem hother)
    exact (armed_settle_of_ne hne _ _ _ _).mpr (h.timersArmed other (List.mem_cons_of_mem _ hother))
  · intro ticket other hother
    have hne : other.id ≠ timer.id := fun he =>
      h.disjoint ticket other hother (by rw [he]; exact List.mem_cons_self)
    exact (armed_settle_of_ne hne _ _ _ _).mpr (h.firingArmed ticket other hother)
  · exact fun ticket other hother hmem =>
      h.disjoint ticket other hother (List.mem_cons_of_mem _ hmem)

-- A direct call that ends leaves the others in flight.
theorem Apart.end_firing {after : ScheduleService} (h : Apart service timers firing)
    (ticket : Ticket) (horderly : Orderly after)
    (harmed : ∀ id, Armed service id → (∀ timer, firing.get? ticket = some timer → id ≠ timer.id) →
      Armed after id) :
    Apart after timers (firing.erase ticket) := by
  have hother : ∀ other timer, (firing.erase ticket).get? other = some timer →
      other ≠ ticket ∧ firing.get? other = some timer :=
    fun _ _ => OrderedDict.get?_erase_eq_some.mp
  refine ⟨horderly, h.nodup, ?_, ?_, ?_, ?_⟩
  · intro timer htimer
    refine harmed _ (h.timersArmed timer htimer) fun fired hfired he => ?_
    exact h.disjoint ticket fired hfired (he ▸ List.mem_map_of_mem htimer)
  · intro other timer htimer
    obtain ⟨hne, hfiring⟩ := hother other timer htimer
    refine harmed _ (h.firingArmed other timer hfiring) fun fired hfired he => ?_
    exact hne (h.firingDistinct other ticket timer fired hfiring hfired he)
  · intro first second timer other hfirst hsecond
    exact h.firingDistinct first second timer other (hother first timer hfirst).2
      (hother second other hsecond).2
  · exact fun other timer htimer => h.disjoint other timer (hother other timer htimer).2

theorem Apart.start_firing {timer : Schedule} (h : Apart service timers firing)
    (ticket : Ticket) (harmed : Armed service timer.id)
    (hloop : timer.id ∉ timers.map Schedule.id)
    (hfiring : ∀ other held, firing.get? other = some held → held.id ≠ timer.id) :
    Apart service timers (firing.set ticket timer) := by
  have hcases : ∀ other held, (firing.set ticket timer).get? other = some held →
      (other = ticket ∧ held = timer) ∨ firing.get? other = some held :=
    fun _ _ hheld => (OrderedDict.get?_set_eq_some.mp hheld).imp_right And.right
  refine ⟨h.orderly, h.nodup, h.timersArmed, ?_, ?_, ?_⟩
  · intro other held hheld
    obtain ⟨-, rfl⟩ | hheld := hcases other held hheld
    · exact harmed
    · exact h.firingArmed other held hheld
  · intro first second held other hfirst hsecond hid
    obtain ⟨rfl, rfl⟩ | hheld := hcases first held hfirst
    · obtain ⟨rfl, -⟩ | hother := hcases second other hsecond
      · rfl
      · exact absurd hid.symm (hfiring second other hother)
    · obtain ⟨-, rfl⟩ | hother := hcases second other hsecond
      · exact absurd hid (hfiring first held hheld)
      · exact h.firingDistinct first second held other hheld hother hid
  · intro other held hheld
    obtain ⟨-, rfl⟩ | hheld := hcases other held hheld
    · exact hloop
    · exact h.disjoint other held hheld

end Step

theorem settlements_emit_fired (service : ScheduleService) (firing : Firing) :
    settlements (service.emit (.fired firing)).trace = settlements service.trace := by
  simp [emit, settlements, Effect.settledId?]

theorem Apart.call {world : World} {timers : List Schedule} {firing : OrderedDict Ticket Schedule}
    (h : Apart world.service timers firing) (ticket : Ticket) (timer : Schedule) :
    Apart (world.call clock ticket timer).service timers firing :=
  h.congr rfl rfl (records_emit_fired _ _) (settlements_emit_fired _ _)

theorem apart_next {world : World} {ticket : Ticket} {timers : List Schedule}
    (h : Apart world.service timers world.firing) :
    Apart (World.next clock world ticket timers).1.service
      (World.next clock world ticket timers).1.loopTimers
      (World.next clock world ticket timers).1.firing := by
  obtain ⟨rfl, heq⟩ | ⟨timer, rest, rfl, heq⟩ := next_cases clock world ticket timers
  · rw [heq]
    exact h
  · rw [heq]
    exact h.call ticket timer

theorem apart_step {before after : World} {label : Label}
    (h : Apart before.service before.loopTimers before.firing)
    (hguard : SettlesApart clock maximum before label)
    (hstep : World.step clock maximum before label = some after) :
    Apart after.service after.loopTimers after.firing := by
  obtain ⟨hdisarms, hlabel⟩ := hguard
  cases step_moved hstep with
  | quiet _ hquiet =>
      exact h.congr hquiet.schedules hquiet.ids hquiet.records hquiet.settlements
  | @armed _ pending commandId _ _ heq =>
      refine h.of_orderly (h.orderly.arm _ _) fun id harmed hbusy => ?_
      exact armed_arm h.orderly.tidy harmed fun hmem => hdisarms id (heq ▸ hmem) hbusy
  | @cancelled _ id schedule hget harmed heq =>
      have hid := h.orderly.tidy.id_eq hget
      have hheld : Armed before.service schedule.id := ⟨schedule, hid ▸ hget, harmed⟩
      refine h.of_orderly (h.orderly.settle hheld _ _ _ _) fun other hother hbusy => ?_
      refine (armed_settle_of_ne (fun he => ?_) _ _ _ _).mpr hother
      exact hdisarms id (heq ▸ List.mem_singleton_self id) (hid ▸ he ▸ hbusy)
  | woken hloop =>
      have hquiet := quiet_due clock before.service
      have hfree := h.congr hquiet.schedules hquiet.ids hquiet.records hquiet.settlements
      refine apart_next ⟨hfree.orderly, ?_, ?_, hfree.firingArmed, hfree.firingDistinct, ?_⟩
      · exact h.orderly.tidy.keyed.armed_ids_nodup.sublist (List.filter_sublist.map _)
      · exact fun timer htimer => ⟨timer, h.orderly.tidy.of_mem_armed (mem_due_iff.mp htimer).1⟩
      · intro other timer htimer hmem
        obtain ⟨fired, hfired, he⟩ := List.mem_map.mp hmem
        exact hlabel fired hfired (.inr ⟨other, timer, htimer, he.symm⟩)
  | @returned _ _ _ current rest _ _ _ hloop _ =>
      have htimers : before.loopTimers = current :: rest := by simp [World.loopTimers, hloop]
      rw [htimers] at h
      exact apart_next (h.settle_current _ _ _ _)
  | stopped =>
      exact ⟨h.orderly, List.nodup_nil, fun _ hmem => by simp [World.loopTimers] at hmem,
        h.firingArmed, h.firingDistinct, fun _ _ _ hmem => by simp [World.loopTimers] at hmem⟩
  | @fired ticket schedule hfree =>
      obtain ⟨harmed, hidle⟩ := hlabel
      exact (h.call ticket schedule).start_firing ticket harmed (fun hmem => hidle (.inl hmem))
        fun other held hheld he => hidle (.inr ⟨other, held, hheld, he⟩)
  | @firedReturns ticket _ schedule _ _ _ hfiring =>
      have hheld := h.firingArmed ticket schedule hfiring
      refine h.end_firing ticket (h.orderly.settle hheld _ _ _ _) fun id harmed hne => ?_
      exact (armed_settle_of_ne (hne schedule hfiring) _ _ _ _).mpr harmed
  | firedRaises hfiring =>
      exact h.end_firing _ h.orderly fun _ harmed _ => harmed

theorem apart_initial : Apart {} [] .empty := by
  refine ⟨⟨tidy_initial, List.Pairwise.nil, fun _ => rfl⟩, List.nodup_nil, ?_, ?_, ?_, ?_⟩ <;> simp

-- A timer settles once and for good in every run in which no two settlings of one
-- timer overlap.
theorem settled_is_final {labels : List Label} {world : World}
    (hrun : Machine.run (World.step clock maximum) {} labels = some world)
    (hguard : Machine.Guarded (World.step clock maximum) (SettlesApart clock maximum) {} labels) :
    FinalStatuses world.service.trace := by
  let inv : World → Prop := fun world => Apart world.service world.loopTimers world.firing
  have hinv : inv world := Machine.guarded_invariant apart_initial
    (fun before label after hbefore hlabel hstep => apart_step hbefore hlabel hstep) hrun hguard
  exact hinv.orderly.finalStatuses

-- One timer runs out, fires and is cancelled only afterwards.
def firedThenCancelled : List Label :=
  [.create 0 (halfHourTimer .setHeater .delayedStart) (some poolDevice), .wake 1,
    .loopReturns (.refused .deviceUnavailable) 2, .cancel member 0]

theorem settled_is_final_fired :
    ∃ world, Machine.run (World.step halfHourly 24) {} firedThenCancelled = some world ∧
      FinalStatuses world.service.trace := by
  obtain ⟨world, hrun⟩ := Option.isSome_iff_exists.mp (show (Machine.run
    (World.step halfHourly 24) {} firedThenCancelled).isSome = true by decide +kernel)
  exact ⟨world, hrun, settled_is_final hrun (by decide +kernel)⟩

-- A timer is cancelled while the command it fired is still in flight.
def cancelledWhileFiring : List Label :=
  [.create 0 (halfHourTimer .setHeater .delayedStart) (some poolDevice), .wake 1,
    .cancel member 0, .loopReturns (.refused .deviceUnavailable) 2]

theorem cancelled_timer_fails :
    ∃ world, Machine.run (World.step halfHourly 24) {} cancelledWhileFiring = some world ∧
      ¬FinalStatuses world.service.trace := by
  obtain ⟨world, hrun, hchanges⟩ := (Option.any_eq_true _ _).mp
    (show (Machine.run (World.step halfHourly 24) {} cancelledWhileFiring).any
      (fun world => ¬FinalStatuses world.service.trace) = true by decide +kernel)
  exact ⟨world, hrun, of_decide_eq_true hchanges⟩

end Homeflow.Schedules
