import Homeflow.Schedules.Calls
import Homeflow.Schedules.Disarmed

namespace Homeflow.Schedules

open ScheduleService

variable (clock : Nat → Time) (maximum : ℚ)

-- The timer a call of create returns.
def returned (world : World) : Label → Option Schedule
  | .create _ request device =>
      match (create clock maximum world.service request device).2 with
      | .armed schedule => some schedule
      | _ => none
  | .createReturns ticket outcome =>
      (world.creating.get? ticket).bind fun pending =>
        match (createResumes clock world.service pending outcome).2 with
        | .armed schedule => some schedule
        | _ => none
  | _ => none

-- The timer a firing ends for. A call of fire that raises settles nothing.
def firedTimer (world : World) : Label → Option Schedule
  | .loopReturns _ _ => world.current
  | .fireReturns ticket outcome =>
      match outcome with
      | .raised => none
      | _ => world.firing.get? ticket
  | _ => none

-- The timers a step cancels, replaces or has fired.
def settles (world : World) (label : Label) : List Uuid :=
  disarms clock maximum world label ++ ((firedTimer world label).map Schedule.id).toList

-- One timer is armed for a function at most, and its identifier is not drawn again.
structure OneArmed (service : ScheduleService) : Prop where
  keyed : Keyed service
  drawn : ∀ timer ∈ service.armed, timer.id < service.ids
  single : ∀ timer ∈ service.armed, ∀ other ∈ service.armed, timer.deviceId = other.deviceId →
    timer.action = other.action → timer = other

variable {clock maximum}

section Evict

-- The loop ends with a table that is small enough, or with no settled timer left in it.
theorem evictSettled_ends (excess : Nat) (table : OrderedDict Uuid Schedule) :
    (evictSettled excess table).length ≤ table.length - excess ∨
      ∀ entry ∈ (evictSettled excess table).entries, entry.2.status = .armed := by
  induction excess generalizing table with
  | zero => exact .inl le_rfl
  | succ excess ih =>
      rw [evictSettled]
      split
      · next entry hentry =>
        have hmem : entry ∈ table.entries := List.mem_of_find?_eq_some hentry
        have hshorter : (table.erase entry.1).length < table.length :=
          List.length_filter_lt_length_iff_exists.mpr ⟨entry, hmem, by simp⟩
        refine (ih (table.erase entry.1)).imp_left fun hle => ?_
        omega
      · next hnone =>
        refine .inr fun entry hentry => ?_
        simpa using List.find?_eq_none.mp hnone entry hentry

theorem remember_bounded (service : ScheduleService) (schedule : Schedule) :
    (service.remember schedule).schedules.length ≤
      max MAX_TRACKED (service.remember schedule).armed.length := by
  rcases evictSettled_ends ((service.store schedule).schedules.length - MAX_TRACKED)
    (service.store schedule).schedules with hle | hall
  · refine le_max_of_le_left ?_
    change (evictSettled _ _).length ≤ _
    omega
  · refine le_max_of_le_right ?_
    have hvalues : ∀ timer ∈ (service.remember schedule).schedules.values,
        decide (timer.status = .armed) = true := by
      intro timer htimer
      obtain ⟨entry, hentry, rfl⟩ := List.mem_map.mp htimer
      exact decide_eq_true (hall entry hentry)
    rw [armed, List.filter_eq_self.mpr hvalues, OrderedDict.values, List.length_map]
    exact le_rfl

theorem arm_bounded (clock : Nat → Time) (service : ScheduleService) (pending : PendingCreate)
    (commandId : Option Uuid) :
    (arm clock service pending commandId).1.schedules.length ≤
      max MAX_TRACKED (arm clock service pending commandId).1.armed.length :=
  remember_bounded _ _

end Evict

section OneArmed

variable {service : ScheduleService}

theorem oneArmed_initial : OneArmed {} where
  keyed := fun _ _ h => by simp at h
  drawn := fun _ h => by cases h
  single := fun _ h => by cases h

theorem OneArmed.congr {after : ScheduleService} (h : OneArmed service)
    (hschedules : after.schedules = service.schedules) (hids : after.ids = service.ids) :
    OneArmed after := by
  have harmed : after.armed = service.armed := by rw [armed, hschedules, armed]
  refine ⟨?_, ?_, ?_⟩
  · rw [Keyed, hschedules]
    exact h.keyed
  · rw [harmed, hids]
    exact h.drawn
  · rw [harmed]
    exact h.single

theorem OneArmed.settle (h : OneArmed service) (schedule : Schedule) (status : SettledStatus)
    (failureCode : Option String) (commandId : Option Uuid) (actor : Option Principal) :
    OneArmed (settle clock service schedule status failureCode commandId actor) := by
  refine ⟨fun key other hget => ?_, fun timer htimer => h.drawn timer (armed_of_settle htimer),
    fun timer htimer other hother => h.single timer (armed_of_settle htimer) other
      (armed_of_settle hother)⟩
  rw [settle_get?] at hget
  split at hget
  · next hkey =>
    rw [← Option.some.inj hget, hkey]
    rfl
  · exact h.keyed key other hget

theorem OneArmed.supersede (h : OneArmed service) (existing : List Schedule) :
    OneArmed (supersede clock service existing) := by
  induction existing generalizing service with
  | nil => exact h
  | cons timer rest ih => exact ih (h.settle timer _ _ _ _)

theorem OneArmed.arm (h : OneArmed service) (pending : PendingCreate) (commandId : Option Uuid) :
    OneArmed (arm clock service pending commandId).1 := by
  let drawn : ScheduleService := { service with reads := service.reads + 1 }
  have hsuperseded : OneArmed (ScheduleService.supersede clock drawn
      (service.replaced pending.request.deviceId pending.request.action)) := by
    have hdrawn : OneArmed drawn := h.congr rfl rfl
    exact hdrawn.supersede _
  refine ⟨fun key other hget => ?_, fun timer htimer => ?_, fun timer htimer other hother => ?_⟩
  · by_cases hkey : key = service.ids
    · subst hkey
      rw [arm_get?_self] at hget
      rw [← Option.some.inj hget, arm_id]
    · exact hsuperseded.keyed key other (get?_of_arm clock service pending commandId hkey hget)
  · rw [arm_ids]
    rcases armed_of_arm h.keyed htimer with rfl | ⟨hold, -⟩
    · exact Nat.lt_succ_self _
    · exact Nat.lt_succ_of_lt (h.drawn timer hold)
  · intro hdevice haction
    rcases armed_of_arm h.keyed htimer with rfl | ⟨hold, hnot⟩ <;>
      rcases armed_of_arm h.keyed hother with rfl | ⟨hold', hnot'⟩
    · rfl
    · exact absurd ⟨hdevice.symm, haction.symm⟩ hnot'
    · exact absurd ⟨hdevice, haction⟩ hnot
    · exact h.single timer hold other hold' hdevice haction

theorem oneArmed_next {world : World} {ticket : Ticket} {timers : List Schedule}
    (h : OneArmed world.service) : OneArmed (World.next clock world ticket timers).1.service := by
  obtain ⟨rfl, heq⟩ | ⟨timer, rest, rfl, heq⟩ := next_cases clock world ticket timers
  · rw [heq]
    exact h
  · rw [heq]
    exact h.congr rfl rfl

theorem oneArmed_step {before after : World} {label : Label} (h : OneArmed before.service)
    (hstep : World.step clock maximum before label = some after) : OneArmed after.service := by
  cases step_moved hstep with
  | quiet _ hquiet => exact h.congr hquiet.schedules hquiet.ids
  | armed => exact h.arm _ _
  | cancelled => exact h.settle _ _ _ _ _
  | woken => exact oneArmed_next (h.congr rfl rfl)
  | returned => exact oneArmed_next (h.settle _ _ _ _ _)
  | stopped | firedRaises => exact h
  | fired => exact h.congr rfl rfl
  | firedReturns => exact h.settle _ _ _ _ _

theorem oneArmed_run {labels : List Label} {world : World}
    (hrun : Machine.run (World.step clock maximum) {} labels = some world) :
    OneArmed world.service := by
  let inv : World → Prop := fun world => OneArmed world.service
  have hinv : inv world := Machine.invariant oneArmed_initial
    (fun _ _ _ hbefore hstep => oneArmed_step hbefore hstep) hrun
  exact hinv

end OneArmed

section Kept

-- A timer that is stored and armed.
def Holds (service : ScheduleService) (timer : Schedule) : Prop :=
  service.schedules.get? timer.id = some timer ∧ timer.status = .armed

theorem Holds.settle {service : ScheduleService} {timer schedule : Schedule}
    (h : Holds service timer) (hid : timer.id ≠ schedule.id) (status : SettledStatus)
    (failureCode : Option String) (commandId : Option Uuid) (actor : Option Principal) :
    Holds (settle clock service schedule status failureCode commandId actor) timer := by
  refine ⟨?_, h.2⟩
  rw [settle_get?, if_neg hid]
  exact h.1

theorem holds_next {world : World} {ticket : Ticket} {timers : List Schedule} {timer : Schedule}
    (h : Holds world.service timer) :
    Holds (World.next clock world ticket timers).1.service timer := by
  obtain ⟨rfl, heq⟩ | ⟨fired, rest, rfl, heq⟩ := next_cases clock world ticket timers
  · rw [heq]
    exact h
  · rw [heq]
    exact h

theorem holds_step {before after : World} {label : Label} {timer : Schedule}
    (htable : OneArmed before.service) (h : Holds before.service timer)
    (hnot : timer.id ∉ settles clock maximum before label)
    (hstep : World.step clock maximum before label = some after) : Holds after.service timer := by
  obtain ⟨hdisarms, hfired⟩ := not_or.mp (List.mem_append.not.mp hnot)
  have hagain := hstep
  cases step_moved hstep with
  | quiet _ hquiet => exact ⟨hquiet.schedules ▸ h.1, h.2⟩
  | @armed _ pending commandId _ _ heq =>
      have hdrawn := htable.drawn timer (mem_armed_iff.mpr ⟨⟨_, h.1⟩, h.2⟩)
      exact ⟨arm_get?_of_notMem clock before.service pending commandId (Nat.ne_of_lt hdrawn)
        (heq ▸ hdisarms) h.1 h.2, h.2⟩
  | @cancelled _ id schedule hget _ heq =>
      refine h.settle (fun hid => hdisarms ?_) _ _ _ _
      rw [heq, hid, htable.keyed id schedule hget]
      exact List.mem_singleton_self id
  | woken => exact holds_next h
  | returned hloop =>
      refine holds_next (h.settle (fun hid => hfired ?_) _ _ _ _)
      simp [firedTimer, World.current, hloop, hid]
  | stopped | firedRaises => exact h
  | fired => exact h
  | @firedReturns ticket outcome schedule _ _ _ hfiring =>
      cases outcome with
      | returned | refused =>
          refine h.settle (fun hid => hfired ?_) _ _ _ _
          simp [firedTimer, hfiring, hid]
      | raised =>
          simp only [World.step, World.advance, hfiring, fireResumes, Option.map_some,
            Option.getD_none, Option.some.injEq] at hagain
          have hservice := congrArg World.service hagain
          dsimp only at hservice ⊢
          exact hservice ▸ h

theorem holds_guarded {world final : World} {labels : List Label} {timer : Schedule}
    (htable : OneArmed world.service) (h : Holds world.service timer)
    (hrun : Machine.run (World.step clock maximum) world labels = some final)
    (hguard : Machine.Guarded (World.step clock maximum)
      (fun world label => timer.id ∉ settles clock maximum world label) world labels) :
    Holds final.service timer := by
  let inv : World → Prop := fun world => OneArmed world.service ∧ Holds world.service timer
  have hinv : inv final := Machine.guarded_invariant ⟨htable, h⟩
    (fun _ _ _ hbefore hnot hstep =>
      ⟨oneArmed_step hbefore.1 hstep, holds_step hbefore.1 hbefore.2 hnot hstep⟩) hrun hguard
  exact hinv.2

theorem create_armed {service after : ScheduleService} {request : CreateRequest}
    {device : Option Device} {schedule : Schedule}
    (h : create clock maximum service request device = (after, .armed schedule)) :
    ∃ pending, arm clock service pending none = (after, schedule) := by
  unfold create at h
  split at h
  · cases h
  · next held pending hprepare =>
    obtain ⟨rfl, -⟩ := prepare_ok hprepare
    split at h
    · cases h
    · cases h
      exact ⟨pending, rfl⟩

-- A create that returns has just armed its timer.
theorem returned_arms {before after : World} {label : Label} {timer : Schedule}
    (hreturned : returned clock maximum before label = some timer)
    (hstep : World.step clock maximum before label = some after) :
    ∃ pending commandId, (arm clock before.service pending commandId).1 = after.service ∧
      (arm clock before.service pending commandId).2 = timer := by
  cases label with
  | create ticket request device =>
      obtain ⟨stepped, hadvance, rfl⟩ := Option.map_eq_some_iff.mp hstep
      rcases hcreate : create clock maximum before.service request device with ⟨service, progress⟩
      simp only [World.advance, hcreate] at hadvance
      simp only [returned, hcreate] at hreturned
      cases progress with
      | armed schedule =>
          obtain ⟨pending, harm⟩ := create_armed hcreate
          split at hadvance
          · cases hadvance
          · obtain rfl := Option.some.inj hadvance
            exact ⟨pending, none, congrArg Prod.fst harm,
              (congrArg Prod.snd harm).trans (Option.some.inj hreturned)⟩
      | raised | failed | submitting => cases hreturned
  | createReturns ticket outcome =>
      obtain ⟨stepped, hadvance, rfl⟩ := Option.map_eq_some_iff.mp hstep
      obtain ⟨pending, hpending, rfl⟩ := Option.map_eq_some_iff.mp hadvance
      cases outcome with
      | returned command =>
          by_cases hstatus : command.status ∈ [CommandStatus.succeeded, .unknown]
          · refine ⟨pending, some command.id, ?_, ?_⟩
            · simp [createResumes, hstatus]
            · simpa [returned, hpending, createResumes, hstatus] using hreturned
          · simp [returned, hpending, createResumes, hstatus] at hreturned
      | refused | raised => simp [returned, hpending, createResumes] at hreturned
  | cancel | wake | loopReturns | stop | fire | fireReturns => cases hreturned

end Kept

-- One timer is armed for each function at most, and no armed timer is ever evicted: what
-- create returns is held until it is cancelled, replaced or fired.
theorem timer_table {labels : List Label} {world : World}
    (hrun : Machine.run (World.step clock maximum) {} labels = some world) :
    (∀ first second timer other, world.service.schedules.get? first = some timer →
      timer.status = .armed → world.service.schedules.get? second = some other →
      other.status = .armed → timer.deviceId = other.deviceId → timer.action = other.action →
      first = second) ∧
    ∀ label timer after, returned clock maximum world label = some timer →
      World.step clock maximum world label = some after →
      after.service.schedules.length ≤ max 200 after.service.armed.length ∧
        ∀ later final, Machine.run (World.step clock maximum) after later = some final →
          Machine.Guarded (World.step clock maximum)
            (fun world label => timer.id ∉ settles clock maximum world label) after later →
          final.service.schedules.get? timer.id = some timer ∧ timer.status = .armed := by
  have htable := oneArmed_run hrun
  refine ⟨fun first second timer other hfirst harmed hsecond harmed' hdevice haction => ?_,
    fun label timer after hreturned hstep => ?_⟩
  · have hsame := htable.single timer (mem_armed_iff.mpr ⟨⟨_, hfirst⟩, harmed⟩) other
      (mem_armed_iff.mpr ⟨⟨_, hsecond⟩, harmed'⟩) hdevice haction
    rw [← htable.keyed first timer hfirst, ← htable.keyed second other hsecond, hsame]
  · obtain ⟨pending, commandId, hservice, rfl⟩ := returned_arms hreturned hstep
    have hbounded := arm_bounded clock world.service pending commandId
    rw [hservice] at hbounded
    unfold MAX_TRACKED at hbounded
    refine ⟨hbounded, fun later final hlater hguard => ?_⟩
    refine holds_guarded (oneArmed_step htable hstep) ?_ hlater hguard
    refine ⟨?_, rfl⟩
    rw [← hservice]
    exact arm_get?_self clock world.service pending commandId

-- The heater is put on a timer twice.
def heaterTwice : List Label :=
  [.create 0 (halfHourTimer .setHeater .delayedStart) (some poolDevice),
    .create 0 (halfHourTimer .setFilter .delayedStart) (some poolDevice),
    .create 0 (halfHourTimer .setHeater .delayedStart) (some poolDevice)]

theorem timer_table_heaterTwice :
    ∃ world, Machine.run (World.step halfHourly 24) {} heaterTwice = some world ∧
      world.service.schedules.length = 3 ∧ world.service.armed.length = 2 ∧
      ∀ first second timer other, world.service.schedules.get? first = some timer →
        timer.status = .armed → world.service.schedules.get? second = some other →
        other.status = .armed → timer.deviceId = other.deviceId → timer.action = other.action →
        first = second := by
  obtain ⟨world, hrun, hlengths⟩ := (Option.any_eq_true _ _).mp
    (show (Machine.run (World.step halfHourly 24) {} heaterTwice).any (fun world =>
      world.service.schedules.length = 3 ∧ world.service.armed.length = 2) = true by
        decide +kernel)
  obtain ⟨hstored, harmed⟩ := of_decide_eq_true hlengths
  exact ⟨world, hrun, hstored, harmed, (timer_table hrun).1⟩

end Homeflow.Schedules
