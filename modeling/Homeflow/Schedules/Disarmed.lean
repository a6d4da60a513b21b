import Homeflow.Schedules.Moves

namespace Homeflow.Schedules

open ScheduleService

def DISARMED : List ScheduleStatus := [.cancelled, .superseded]

-- The later effect does not fire a timer that the earlier one disarms.
def Effect.respects : Effect → Effect → Bool
  | .fired firing, .stored schedule =>
      schedule.status ∉ DISARMED ∨ firing.timer.id ≠ schedule.id
  | _, _ => true

def StaysDisarmed (trace : List Effect) : Prop :=
  trace.Pairwise fun earlier later => later.respects earlier = true

instance (trace : List Effect) : Decidable (StaysDisarmed trace) :=
  inferInstanceAs (Decidable (trace.Pairwise _))

def Disarmed (trace : List Effect) (id : Uuid) : Prop :=
  ∃ schedule ∈ records trace, schedule.id = id ∧ schedule.status ∈ DISARMED

section Trace

variable {before after trace : List Effect} {firing : Firing} {id : Uuid}

theorem Effect.respects_of_unfired {earlier later : Effect} (h : later.fired? = none) :
    later.respects earlier = true := by
  cases later with
  | fired firing => cases h
  | stored | recorded | published | turnedOn => rfl

theorem StaysDisarmed.unfired (h : StaysDisarmed before) (hunfired : Unfired before after) :
    StaysDisarmed after := by
  obtain ⟨added, rfl, hadded⟩ := hunfired
  refine List.pairwise_append.mpr ⟨h, ?_, fun earlier _ later hlater =>
    Effect.respects_of_unfired (hadded later hlater)⟩
  exact List.pairwise_iff_forall_sublist.mpr fun {earlier later} hsub =>
    Effect.respects_of_unfired (hadded later (hsub.subset (by simp)))

theorem StaysDisarmed.fired (h : StaysDisarmed trace) (hnot : ¬Disarmed trace firing.timer.id) :
    StaysDisarmed (trace ++ [.fired firing]) := by
  refine List.pairwise_append.mpr ⟨h, List.pairwise_singleton _ _,
    fun earlier hearlier later hlater => ?_⟩
  obtain rfl := List.mem_singleton.mp hlater
  cases earlier with
  | stored schedule =>
      simp only [Effect.respects, decide_eq_true_eq]
      by_contra hno
      obtain ⟨hstatus, hid⟩ := not_or.mp hno
      exact hnot ⟨schedule, List.mem_filterMap.mpr ⟨_, hearlier, rfl⟩, (not_not.mp hid).symm,
        not_not.mp hstatus⟩
  | recorded | published | fired | turnedOn => rfl

theorem disarmed_congr (h : records after = records before) :
    Disarmed after id ↔ Disarmed before id := by
  rw [Disarmed, Disarmed, h]

theorem records_emit_fired (service : ScheduleService) (firing : Firing) :
    records (service.emit (.fired firing)).trace = records service.trace := by
  simp [emit, records, Effect.stored?]

end Trace

variable {clock : Nat → Time} {maximum : ℚ}

theorem disarmed_settle {service : ScheduleService} {schedule : Schedule} {status : SettledStatus}
    {failureCode : Option String} {commandId : Option Uuid} {actor : Option Principal} {id : Uuid} :
    Disarmed (settle clock service schedule status failureCode commandId actor).trace id ↔
      Disarmed service.trace id ∨ (schedule.id = id ∧ status.val ∈ DISARMED) := by
  simp [Disarmed, records_settle, Schedule.settled, or_and_right, exists_or]

theorem disarmed_arm {service : ScheduleService} {pending : PendingCreate}
    {commandId : Option Uuid} {id : Uuid} :
    Disarmed (arm clock service pending commandId).1.trace id ↔
      Disarmed service.trace id ∨
        id ∈ (service.replaced pending.request.deviceId pending.request.action).map
          Schedule.id := by
  rw [Disarmed, records_arm, records_supersede]
  simp only [List.mem_append, List.mem_map, List.mem_singleton, Disarmed]
  constructor
  · rintro ⟨schedule, (hold | ⟨timer, htimer, rfl⟩) | rfl, hid, hstatus⟩
    · exact .inl ⟨schedule, hold, hid, hstatus⟩
    · exact .inr ⟨timer, htimer, hid⟩
    · simp [DISARMED] at hstatus
  · rintro (⟨schedule, hold, hid, hstatus⟩ | ⟨timer, htimer, hid⟩)
    · exact ⟨schedule, .inl (.inl hold), hid, hstatus⟩
    · exact ⟨_, .inl (.inr ⟨timer, htimer, rfl⟩), hid, by simp [DISARMED, Schedule.settled]⟩

-- The timers the loop will still fire have not been disarmed.
structure Undisarmed (world : World) : Prop where
  tidy : Tidy world.service
  current : ∀ timer, world.current = some timer → timer.id < world.service.ids
  waiting : ∀ timer ∈ world.waiting,
    timer.id < world.service.ids ∧ ¬Disarmed world.service.trace timer.id
  stays : StaysDisarmed world.service.trace

theorem undisarmed_initial : Undisarmed {} :=
  ⟨tidy_initial, fun _ h => by simp [World.current] at h, fun _ h => by simp [World.waiting] at h,
    List.Pairwise.nil⟩

theorem undisarmed_next {world : World} {ticket : Ticket} {timers : List Schedule}
    (htidy : Tidy world.service) (hstays : StaysDisarmed world.service.trace)
    (htimers : ∀ timer ∈ timers,
      timer.id < world.service.ids ∧ ¬Disarmed world.service.trace timer.id) :
    Undisarmed (World.next clock world ticket timers).1 := by
  obtain ⟨rfl, heq⟩ | ⟨timer, rest, rfl, heq⟩ := next_cases clock world ticket timers
  · rw [heq]
    exact ⟨htidy, fun _ h => by simp [World.current] at h, fun _ h => by simp [World.waiting] at h,
      hstays⟩
  · rw [heq]
    have hrecords : records (world.call clock ticket timer).service.trace =
        records world.service.trace := records_emit_fired _ _
    refine ⟨htidy.congr rfl rfl hrecords, ?_, ?_, ?_⟩
    · rintro _ ⟨⟩
      exact (htimers timer List.mem_cons_self).1
    · intro other hother
      obtain ⟨hid, hnot⟩ := htimers other (List.mem_cons_of_mem _ hother)
      exact ⟨hid, mt (disarmed_congr hrecords).mp hnot⟩
    · exact hstays.fired (htimers timer List.mem_cons_self).2

variable (clock maximum) in
-- No timer is cancelled or replaced while it waits in the due list of the loop.
def DisarmsNoneWaiting (world : World) (label : Label) : Prop :=
  ∀ id ∈ disarms clock maximum world label, id ∉ world.waiting.map Schedule.id

instance (world : World) (label : Label) :
    Decidable (DisarmsNoneWaiting clock maximum world label) :=
  inferInstanceAs (Decidable (∀ _ ∈ _, _))

theorem undisarmed_step {before after : World} {label : Label} (h : Undisarmed before)
    (hguard : DisarmsNoneWaiting clock maximum before label) (hlabel : label.direct = false)
    (hstep : World.step clock maximum before label = some after) : Undisarmed after := by
  have hwaiting : ∀ timer ∈ before.waiting, timer.id ∉ disarms clock maximum before label :=
    fun timer htimer hdisarms => hguard timer.id hdisarms (List.mem_map_of_mem htimer)
  cases step_moved hstep with
  | quiet _ hquiet =>
      have hids := hquiet.ids
      refine ⟨h.tidy.quiet hquiet, ?_, ?_, h.stays.unfired hquiet.unfired⟩
      · exact fun timer htimer => hids ▸ h.current timer htimer
      · intro timer htimer
        obtain ⟨hid, hnot⟩ := h.waiting timer htimer
        exact ⟨hids ▸ hid, mt (disarmed_congr hquiet.records).mp hnot⟩
  | @armed _ pending commandId _ _ hdisarms =>
      have hids := arm_ids clock before.service pending commandId
      refine ⟨h.tidy.arm _ _, ?_, ?_, h.stays.unfired (unfired_arm _ _ _ _)⟩
      · intro timer htimer
        exact (Nat.lt_succ_of_lt (h.current timer htimer)).trans_eq hids.symm
      · intro timer htimer
        obtain ⟨hid, hnot⟩ := h.waiting timer htimer
        refine ⟨(Nat.lt_succ_of_lt hid).trans_eq hids.symm, fun hdisarmed => ?_⟩
        rcases disarmed_arm.mp hdisarmed with hold | hnew
        · exact hnot hold
        · exact hwaiting timer htimer (hdisarms ▸ hnew)
  | cancelled hget _ hdisarms =>
      have hid := h.tidy.id_eq hget
      refine ⟨h.tidy.settle (hid ▸ h.tidy.lt_ids hget) _ _ _ _, h.current, ?_,
        h.stays.unfired (unfired_settle _ _ _ _ _ _)⟩
      intro timer htimer
      obtain ⟨hlt, hnot⟩ := h.waiting timer htimer
      refine ⟨hlt, fun hdisarmed => ?_⟩
      rcases disarmed_settle.mp hdisarmed with hold | ⟨hsame, -⟩
      · exact hnot hold
      · refine hwaiting timer htimer ?_
        rw [hdisarms, ← hsame, hid]
        exact List.mem_singleton_self _
  | woken hloop =>
      have hquiet := quiet_due clock before.service
      refine undisarmed_next (h.tidy.quiet hquiet) (h.stays.unfired hquiet.unfired) ?_
      intro timer htimer
      obtain ⟨hget, harmed⟩ := h.tidy.of_mem_armed (mem_due_iff.mp htimer).1
      refine ⟨h.tidy.lt_ids hget, ?_⟩
      rintro ⟨schedule, hmem, hid, hstatus⟩
      obtain rfl := h.tidy.eq_of_armed hget harmed hmem hid
      rw [harmed] at hstatus
      exact absurd hstatus (by decide)
  | @returned _ _ _ current rest _ _ _ hloop hstatus =>
      have hcurrent : before.current = some current := by simp [World.current, hloop]
      have hrest : before.waiting = rest := by simp [World.waiting, hloop]
      refine undisarmed_next (h.tidy.settle (h.current current hcurrent) _ _ _ _)
        (h.stays.unfired (unfired_settle _ _ _ _ _ _)) ?_
      intro timer htimer
      obtain ⟨hlt, hnot⟩ := h.waiting timer (hrest ▸ htimer)
      refine ⟨hlt, fun hdisarmed => ?_⟩
      rcases disarmed_settle.mp hdisarmed with hold | ⟨-, hmem⟩
      · exact hnot hold
      · simp [DISARMED, hstatus] at hmem
  | stopped =>
      exact ⟨h.tidy, fun _ h => by simp [World.current] at h,
        fun _ h => by simp [World.waiting] at h, h.stays⟩
  | fired => cases hlabel
  | firedReturns => cases hlabel
  | firedRaises => cases hlabel

-- In a run of the loop with any calls of create and cancel, a timer that was
-- cancelled or replaced is not fired afterwards, as long as none is while it
-- waits behind another one in the due list.
theorem disarmed_never_fires {labels : List Label} {world : World}
    (hrun : Machine.run (World.step clock maximum) {} labels = some world)
    (hloop : ∀ label ∈ labels, label.direct = false)
    (hguard : Machine.Guarded (World.step clock maximum)
      (DisarmsNoneWaiting clock maximum) {} labels) :
    StaysDisarmed world.service.trace := by
  have hguarded := hguard.and (Machine.guarded_of_forall hloop)
  have hinv : Undisarmed world := Machine.guarded_invariant undisarmed_initial
    (fun before label after hbefore hlabel hstep =>
      undisarmed_step hbefore hlabel.1 hlabel.2 hstep) hrun hguarded
  exact hinv.stays

def poolDevice : Device :=
  { id := 0, displayName := "Pool", kind := .pool, capabilities := [.heating, .filter]
    availability := .online, stateObservedAt := 0, lastSeenAt := 0 }

def member : Principal := ⟨0, 0, "Member"⟩

def halfHourTimer (action : Action) (kind : ScheduleKind) : CreateRequest :=
  ⟨member, 0, action, kind, 1 / 2, "request"⟩

-- A clock that has gone on by half an hour at each reading.
def halfHourly (reading : Nat) : Time := reading * STEP_MICROSECONDS

-- Two timers run out together and the second is left alone.
def untouched : List Label :=
  [.create 0 (halfHourTimer .setHeater .delayedStart) (some poolDevice),
    .create 0 (halfHourTimer .setFilter .delayedStart) (some poolDevice),
    .wake 1, .loopReturns (.refused .deviceUnavailable) 2,
    .loopReturns (.refused .deviceUnavailable) 3, .cancel member 1]

theorem disarmed_never_fires_untouched :
    ∃ world, Machine.run (World.step halfHourly 24) {} untouched = some world ∧
      StaysDisarmed world.service.trace := by
  obtain ⟨world, hrun⟩ := Option.isSome_iff_exists.mp
    (show (Machine.run (World.step halfHourly 24) {} untouched).isSome = true by decide +kernel)
  exact ⟨world, hrun, disarmed_never_fires hrun (by decide) (by decide +kernel)⟩

-- Two timers run out together and the second is cancelled during the first's command.
def cancelledWhileWaiting : List Label :=
  [.create 0 (halfHourTimer .setHeater .delayedStart) (some poolDevice),
    .create 0 (halfHourTimer .setFilter .delayedStart) (some poolDevice),
    .wake 1, .cancel member 1, .loopReturns (.refused .deviceUnavailable) 2]

theorem cancelled_timer_fires :
    ∃ world, Machine.run (World.step halfHourly 24) {} cancelledWhileWaiting = some world ∧
      (∀ label ∈ cancelledWhileWaiting, label.direct = false) ∧
      ¬StaysDisarmed world.service.trace := by
  obtain ⟨world, hrun, hfires⟩ := (Option.any_eq_true _ _).mp
    (show (Machine.run (World.step halfHourly 24) {} cancelledWhileWaiting).any
      (fun world => ¬StaysDisarmed world.service.trace) = true by decide +kernel)
  exact ⟨world, hrun, by decide, of_decide_eq_true hfires⟩

end Homeflow.Schedules
