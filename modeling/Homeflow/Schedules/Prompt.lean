import Homeflow.Schedules.Calls
import Homeflow.Schedules.DueOrder
import Homeflow.Schedules.Table
import Homeflow.Schedules.Unattended

-- Nothing that is due is left behind.
namespace Homeflow.Schedules

open ScheduleService

variable {clock : Nat → Time} {maximum : ℚ}

section Service

variable {service : ScheduleService} {timer : Schedule}

theorem firings_growing {after : ScheduleService} (h : Grows service after) :
    firings service.trace <+: firings after.trace := h.firings ▸ List.prefix_rfl

-- What has been settled is armed no more.
theorem ne_of_armed_settle (hkeyed : Keyed service) {schedule : Schedule}
    {status : SettledStatus} {failureCode : Option String} {commandId : Option Uuid}
    {actor : Option Principal}
    (h : timer ∈ (settle clock service schedule status failureCode commandId actor).armed) :
    timer ≠ schedule := by
  rintro rfl
  obtain ⟨⟨key, hget⟩, harmed⟩ := mem_armed_iff.mp h
  rw [settle_get?] at hget
  split at hget
  · obtain hsame := Option.some.inj hget
    exact armed_notMem_settled (harmed ▸ hsame ▸ status.property)
  · next hne => exact hne (hkeyed key timer hget).symm

-- No timer is due at once.
theorem delay_pos {hours : ℚ} {delay : Time} (h : validateHours maximum hours = .ok delay) :
    0 < delay := by
  simp only [validateHours] at h
  split at h
  · cases h
  · next hrange =>
    obtain rfl := Except.ok.inj h
    have hleast : MIN_HOURS ≤ PyFloat.roundHalfEven (hours / STEP_HOURS) * STEP_HOURS :=
      not_lt.mp fun hlt => hrange (.inl hlt)
    have hsteps : (1 : ℚ) ≤ PyFloat.roundHalfEven (hours / STEP_HOURS) := by
      unfold MIN_HOURS at hleast
      have hhalf : STEP_HOURS = 1 / 2 := rfl
      rw [hhalf] at hleast ⊢
      linarith
    have hpos : 1 ≤ PyFloat.roundHalfEven (hours / STEP_HOURS) := by exact_mod_cast hsteps
    exact Int.mul_pos hpos (by decide)

theorem prepare_delay {held : ScheduleService} {request : CreateRequest} {device : Option Device}
    {pending : PendingCreate}
    (h : prepare clock maximum service request device = (held, .ok pending)) :
    0 < pending.delay := by
  unfold prepare at h
  split at h
  · cases h
  · split at h
    · cases h
    · split at h
      · cases h
      · next hdelay =>
        dsimp only at h
        split at h
        · cases h
        · split at h
          · cases h
          · cases h
            exact delay_pos hdelay

end Service

def Label.returns : Label → Bool
  | .loopReturns _ _ => true
  | _ => false

-- No request that waits for its on-command is for a timer that would be due at once.
structure Ready (world : World) : Prop where
  table : OneArmed world.service
  delays : ∀ ticket pending, world.creating.get? ticket = some pending → 0 < pending.delay

-- The timers that have been fired but for so many first firings.
def firedAfter (past : Nat) (world : World) : List Schedule :=
  ((firings world.service.trace).drop past).map Firing.timer

-- An armed timer that was due at that moment is one of the next ones of the loop, and the
-- ones that are waited for have been fired since or still come.
structure Prompt (clock : Nat → Time) (moment : Time) (awaited : List Schedule)
    (past left : Nat) (world : World) : Prop extends Ready world where
  reached : moment ≤ clock world.service.reads
  behind : past ≤ (firings world.service.trace).length
  due : ∀ timer ∈ world.service.armed, timer.dueAt ≤ moment →
    timer ∈ world.loopTimers.take left
  fired : ∀ timer ∈ awaited, timer ∈ firedAfter past world ∨
    timer ∈ world.waiting.take (left - 1)

section World

variable {world after : World} {moment : Time} {awaited : List Schedule} {past left : Nat}

theorem ready_step {label : Label} (h : Ready world)
    (hstep : World.step clock maximum world label = some after) : Ready after := by
  refine ⟨oneArmed_step h.table hstep, ?_⟩
  obtain ⟨stepped, hadvance, rfl⟩ := Option.map_eq_some_iff.mp hstep
  have hnext (service : ScheduleService) (ticket : Ticket) (due : List Schedule) :
      (World.next clock { world with service } ticket due).1.creating = world.creating := by
    cases due <;> rfl
  cases label with
  | create ticket request device =>
      cases creates_of_advance hadvance with
      | refused | arms => exact h.delays
      | submits hprepare =>
          intro other pending hpending
          obtain ⟨-, rfl⟩ | ⟨-, hold⟩ := OrderedDict.get?_set_eq_some.mp hpending
          · exact prepare_delay hprepare
          · exact h.delays other pending hold
  | createReturns ticket outcome =>
      obtain ⟨_, -, rfl⟩ := Option.map_eq_some_iff.mp hadvance
      intro other pending hpending
      exact h.delays other pending (OrderedDict.get?_erase_eq_some.mp hpending).2
  | cancel | stop =>
      obtain rfl := Option.some.inj hadvance
      exact h.delays
  | wake ticket =>
      simp only [World.advance] at hadvance
      split at hadvance
      · obtain rfl := Option.some.inj hadvance
        rw [hnext]
        exact h.delays
      · cases hadvance
  | loopReturns outcome ticket =>
      simp only [World.advance] at hadvance
      split at hadvance
      · obtain rfl := Option.some.inj hadvance
        rw [hnext]
        exact h.delays
      · cases hadvance
  | fire ticket schedule =>
      simp only [World.advance] at hadvance
      split at hadvance
      · cases hadvance
      · obtain rfl := Option.some.inj hadvance
        exact h.delays
  | fireReturns ticket outcome =>
      obtain ⟨_, -, rfl⟩ := Option.map_eq_some_iff.mp hadvance
      exact h.delays

-- Where the loop is left alone no armed timer becomes due.
theorem Prompt.aside (hclock : Monotone clock) (h : Prompt clock moment awaited past left world)
    (hready : Ready after) (hloop : after.loop = world.loop)
    (hreads : world.service.reads ≤ after.service.reads)
    (hfirings : firings world.service.trace <+: firings after.service.trace)
    (harmed : ∀ timer ∈ after.service.armed,
      timer ∈ world.service.armed ∨ moment < timer.dueAt) :
    Prompt clock moment awaited past left after := by
  have htimers : after.loopTimers = world.loopTimers := by
    rw [World.loopTimers, World.loopTimers, hloop]
  have hwaiting : after.waiting = world.waiting := by
    rw [World.waiting, World.waiting, hloop]
  refine ⟨hready, h.reached.trans (hclock hreads), h.behind.trans hfirings.length_le,
    fun timer htimer hdue => ?_, fun timer htimer => ?_⟩
  · rcases harmed timer htimer with hold | hlater
    · exact htimers ▸ h.due timer hold hdue
    · exact absurd hlater (not_lt.mpr hdue)
  · rw [hwaiting]
    refine (h.fired timer htimer).imp_left fun hfired => ?_
    obtain ⟨more, hmore⟩ := hfirings
    rw [firedAfter, ← hmore, List.drop_append_of_le_length h.behind, List.map_append]
    exact List.mem_append_left _ hfired

theorem Prompt.still (hclock : Monotone clock) (h : Prompt clock moment awaited past left world)
    (hready : Ready after) (hloop : after.loop = world.loop)
    (hservice : after.service = world.service) : Prompt clock moment awaited past left after := by
  refine h.aside hclock hready hloop (hservice ▸ le_rfl) (hservice ▸ List.prefix_rfl)
    fun timer htimer => .inl ?_
  rwa [hservice] at htimer

theorem Prompt.settles (hclock : Monotone clock) (h : Prompt clock moment awaited past left world)
    (hready : Ready after) (hloop : after.loop = world.loop) {schedule : Schedule}
    {status : SettledStatus} {failureCode : Option String} {commandId : Option Uuid}
    {actor : Option Principal}
    (hservice : after.service =
      settle clock world.service schedule status failureCode commandId actor) :
    Prompt clock moment awaited past left after := by
  refine h.aside hclock hready hloop ?_ ?_ fun timer htimer => .inl ?_
  · rw [hservice]
    exact grows_settle.reads
  · rw [hservice]
    exact firings_growing grows_settle
  · rw [hservice] at htimer
    exact armed_of_settle htimer

-- A new timer is due after what has been read.
theorem Prompt.arms (h : Prompt clock moment awaited past left world) {pending : PendingCreate}
    {commandId : Option Uuid} (hdelay : 0 < pending.delay) :
    ∀ timer ∈ (arm clock world.service pending commandId).1.armed,
      timer ∈ world.service.armed ∨ moment < timer.dueAt := by
  intro timer htimer
  rcases armed_of_arm h.table.keyed htimer with rfl | ⟨hold, -⟩
  · exact .inr (h.reached.trans_lt (lt_add_of_pos_right _ hdelay))
  · exact .inl hold

theorem prompt_create (hclock : Monotone clock) {ticket : Ticket} {request : CreateRequest}
    {device : Option Device} (h : Prompt clock moment awaited past left world)
    (hready : Ready after)
    (hstep : World.step clock maximum world (.create ticket request device) = some after) :
    Prompt clock moment awaited past left after := by
  obtain ⟨stepped, hadvance, rfl⟩ := Option.map_eq_some_iff.mp hstep
  have hquiet := quiet_prepare clock maximum world.service request device
  cases creates_of_advance hadvance with
  | refused hprepare =>
      rw [hprepare] at hquiet
      refine h.aside hclock hready rfl hquiet.reads (firings_growing hquiet.grows)
        fun timer htimer => .inl ?_
      rwa [armed, hquiet.schedules] at htimer
  | @submits pending =>
      have hgrows := (quiet_turnedOn world.service ticket (onCommand pending)).grows
      exact h.aside hclock hready rfl le_rfl (firings_growing hgrows) fun _ => .inl
  | arms hprepare =>
      exact h.aside hclock hready rfl grows_arm.reads (firings_growing grows_arm)
        (h.arms (prepare_delay hprepare))

theorem prompt_createReturns (hclock : Monotone clock) {ticket : Ticket}
    {outcome : SubmitOutcome} (h : Prompt clock moment awaited past left world)
    (hready : Ready after)
    (hstep : World.step clock maximum world (.createReturns ticket outcome) = some after) :
    Prompt clock moment awaited past left after := by
  obtain ⟨stepped, hadvance, rfl⟩ := Option.map_eq_some_iff.mp hstep
  obtain ⟨pending, hpending, rfl⟩ := Option.map_eq_some_iff.mp hadvance
  have hdelay := h.delays ticket pending hpending
  cases outcome with
  | returned command =>
      by_cases hstatus : command.status ∈ [CommandStatus.succeeded, .unknown]
      · simp only [createResumes, hstatus, not_true_eq_false, if_false] at hready ⊢
        exact h.aside hclock hready rfl grows_arm.reads (firings_growing grows_arm) (h.arms hdelay)
      · simp only [createResumes, hstatus, not_false_eq_true, if_true] at hready ⊢
        exact h.still hclock hready rfl rfl
  | refused | raised => exact h.still hclock hready rfl rfl

theorem prompt_cancel (hclock : Monotone clock) {principal : Principal} {id : Uuid}
    (h : Prompt clock moment awaited past left world) (hready : Ready after)
    (hstep : World.step clock maximum world (.cancel principal id) = some after) :
    Prompt clock moment awaited past left after := by
  obtain ⟨stepped, hadvance, rfl⟩ := Option.map_eq_some_iff.mp hstep
  obtain rfl := Option.some.inj hadvance
  cases hget : world.service.schedules.get? id with
  | none =>
      simp only [cancel, ScheduleService.get, hget] at hready ⊢
      exact h.still hclock hready rfl rfl
  | some schedule =>
      by_cases harmed : schedule.status = .armed
      · simp only [cancel, ScheduleService.get, hget, harmed, ne_eq, not_true_eq_false,
          if_false] at hready ⊢
        exact h.settles hclock hready rfl rfl
      · simp only [cancel, ScheduleService.get, hget, ne_eq, harmed, not_false_eq_true,
          if_true] at hready ⊢
        exact h.still hclock hready rfl rfl

theorem prompt_next {ticket : Ticket} {due : List Schedule}
    (hbehind : past ≤ (firings world.service.trace).length)
    (hready : Ready (World.next clock world ticket due).1)
    (hreached : moment ≤ clock world.service.reads)
    (hdue : ∀ timer ∈ world.service.armed, timer.dueAt ≤ moment → timer ∈ due.take left)
    (hfired : ∀ timer ∈ awaited, timer ∈ firedAfter past world ∨
      timer ∈ due.take left) :
    Prompt clock moment awaited past left (World.next clock world ticket due).1 := by
  cases due with
  | nil =>
      refine ⟨hready, hreached, hbehind, hdue, fun timer htimer => .inl ?_⟩
      exact (hfired timer htimer).resolve_right (by simp)
  | cons current rest =>
      have hgrown : past ≤ (firings (world.call clock ticket current).service.trace).length := by
        rw [World.call, firings_emit_fired, List.length_append]
        exact hbehind.trans (Nat.le_add_right _ _)
      refine ⟨hready, hreached, hgrown, hdue, fun timer htimer => ?_⟩
      have hnow : firedAfter past (world.call clock ticket current) =
          firedAfter past world ++ [current] := by
        rw [firedAfter, World.call, firings_emit_fired, List.drop_append_of_le_length hbehind,
          List.map_append]
        rfl
      change timer ∈ firedAfter past (world.call clock ticket current) ∨ _
      rw [hnow]
      rcases hfired timer htimer with hbefore | hcomes
      · exact .inl (List.mem_append_left _ hbefore)
      · cases left with
        | zero => cases hcomes
        | succ left =>
            rcases List.mem_cons.mp hcomes with rfl | hrest
            · exact .inl (List.mem_append_right _ (List.mem_singleton_self _))
            · exact .inr hrest

-- The loop has one timer less to go.
theorem prompt_returns (hclock : Monotone clock) {outcome : SubmitOutcome} {ticket : Ticket}
    (h : Prompt clock moment awaited past left world) (hready : Ready after)
    (hstep : World.step clock maximum world (.loopReturns outcome ticket) = some after) :
    Prompt clock moment awaited past (left - 1) after := by
  obtain ⟨called, current, rest, hloop, rfl⟩ := firing_of_step hstep
  obtain ⟨status, failureCode, commandId, -, hsettle⟩ :=
    runResumes_settles clock world.service current outcome
  rw [hsettle] at hready ⊢
  refine prompt_next ?_ hready (h.reached.trans (hclock grows_settle.reads)) ?_ ?_
  · rw [grows_settle.firings]
    exact h.behind
  · intro timer htimer hdue
    have hne : timer ≠ current := ne_of_armed_settle h.table.keyed htimer
    have hleft := h.due timer (armed_of_settle htimer) hdue
    rw [World.loopTimers, hloop] at hleft
    cases left with
    | zero => cases hleft
    | succ left => exact (List.mem_cons.mp hleft).resolve_left hne
  · have hfired := h.fired
    rw [World.waiting, hloop] at hfired
    rwa [firedAfter, grows_settle.firings]

theorem prompt_step (hclock : Monotone clock) {label : Label} (hstop : label ≠ .stop)
    (h : Prompt clock moment awaited past left world)
    (hstep : World.step clock maximum world label = some after) :
    Prompt clock moment awaited past (left - if label.returns then 1 else 0) after := by
  have hready := ready_step h.toReady hstep
  cases label with
  | create => exact prompt_create hclock h hready hstep
  | createReturns => exact prompt_createReturns hclock h hready hstep
  | cancel => exact prompt_cancel hclock h hready hstep
  | wake ticket =>
      have hloop := asleep_of_step hstep
      obtain rfl := Option.some.inj (hstep.symm.trans (step_wake ticket hloop))
      refine prompt_next h.behind hready (h.reached.trans (hclock (Nat.le_succ _))) ?_ ?_
      · intro timer htimer hdue
        have hnone := h.due timer htimer hdue
        rw [World.loopTimers, hloop, List.take_nil] at hnone
        cases hnone
      · intro timer htimer
        have hnone := h.fired timer htimer
        rw [World.waiting, hloop, List.take_nil] at hnone
        exact .inl (hnone.resolve_right List.not_mem_nil)
  | loopReturns => exact prompt_returns hclock h hready hstep
  | stop => exact absurd rfl hstop
  | fire ticket schedule =>
      obtain ⟨stepped, hadvance, rfl⟩ := Option.map_eq_some_iff.mp hstep
      simp only [World.advance] at hadvance
      split at hadvance
      · cases hadvance
      · obtain rfl := Option.some.inj hadvance
        exact h.aside hclock hready rfl le_rfl (by simp [World.call, firings_emit_fired])
          fun _ => .inl
  | fireReturns ticket outcome =>
      obtain ⟨stepped, hadvance, rfl⟩ := Option.map_eq_some_iff.mp hstep
      obtain ⟨schedule, -, rfl⟩ := Option.map_eq_some_iff.mp hadvance
      cases outcome with
      | returned | refused =>
          exact h.settles hclock hready rfl rfl
      | raised => exact h.still hclock hready rfl rfl

theorem prompt_run (hclock : Monotone clock) {labels : List Label}
    (h : Prompt clock moment awaited past left world) (hstop : ∀ label ∈ labels, label ≠ .stop)
    (hrun : Machine.run (World.step clock maximum) world labels = some after) :
    Prompt clock moment awaited past (left - labels.countP Label.returns) after := by
  induction labels generalizing world left with
  | nil =>
      obtain rfl := Option.some.inj hrun
      exact h
  | cons label rest ih =>
      obtain ⟨between, hstep, hrest⟩ := Option.bind_eq_some_iff.mp hrun
      obtain ⟨hlabel, hothers⟩ := List.forall_mem_cons.mp hstop
      have hafter := ih (prompt_step hclock hlabel h hstep) hothers hrest
      rw [List.countP_cons, Nat.add_comm, ← Nat.sub_sub]
      exact hafter

theorem ready_run {labels : List Label}
    (hrun : Machine.run (World.step clock maximum) {} labels = some world) : Ready world :=
  Machine.invariant ⟨oneArmed_initial, by simp⟩ (fun _ _ _ h hstep => ready_step h hstep) hrun

theorem prompt_wake (hclock : Monotone clock) {ticket : Ticket} (h : Ready world)
    (hstep : World.step clock maximum world (.wake ticket) = some after) :
    Prompt clock (clock world.service.reads) (due clock world.service).2
      (firings world.service.trace).length (due clock world.service).2.length after := by
  have hready := ready_step h hstep
  obtain rfl := Option.some.inj (hstep.symm.trans (step_wake ticket (asleep_of_step hstep)))
  refine prompt_next le_rfl hready (hclock (Nat.le_succ _)) (fun timer htimer hdue => ?_)
    fun timer htimer => .inr ?_
  · rw [List.take_length]
    exact mem_due_iff.mpr ⟨htimer, hdue⟩
  · rwa [List.take_length]

-- Once the loop sleeps again, or once as many calls have ended as timers were due when it
-- woke, each of these has been fired since it woke, and no timer is armed any more that was due
-- by then. Only a stop gets in the way.
theorem nothing_due_is_left_behind (hclock : Monotone clock) {before rest : List Label}
    {ticket : Ticket} {final : World}
    (hbefore : Machine.run (World.step clock maximum) {} before = some world)
    (hrest : Machine.run (World.step clock maximum) world (.wake ticket :: rest) = some final)
    (hstop : ∀ label ∈ rest, label ≠ .stop)
    (hdone : final.loop = .asleep ∨
      (due clock world.service).2.length ≤ rest.countP Label.returns) :
    (∀ timer ∈ (due clock world.service).2,
      timer ∈ firedAfter (firings world.service.trace).length final) ∧
    ∀ timer ∈ final.service.armed, clock world.service.reads < timer.dueAt := by
  obtain ⟨woken, hwake, hrun⟩ := Option.bind_eq_some_iff.mp hrest
  have hprompt := prompt_run hclock (prompt_wake hclock (ready_run hbefore) hwake) hstop hrun
  have hnone : final.loopTimers.take ((due clock world.service).2.length -
        rest.countP Label.returns) = [] ∧
      final.waiting.take ((due clock world.service).2.length - rest.countP Label.returns - 1) =
        [] := by
    rcases hdone with hasleep | hended
    · simp [World.loopTimers, World.waiting, hasleep]
    · simp [Nat.sub_eq_zero_of_le hended]
  refine ⟨fun timer htimer => ?_, fun timer htimer => not_le.mp fun hdue => ?_⟩
  · have hfired := hprompt.fired timer htimer
    rw [hnone.2] at hfired
    exact hfired.resolve_right List.not_mem_nil
  · have hleft := hprompt.due timer htimer hdue
    rw [hnone.1] at hleft
    exact List.not_mem_nil hleft

-- Two timers run out together, and both of them are done with when the loop sleeps again.
theorem nothing_due_is_left_behind_untouched :
    ∃ world final, Machine.run (World.step halfHourly 24) {} (untouched.take 2) = some world ∧
      Machine.run (World.step halfHourly 24) world (untouched.drop 2) = some final ∧
      (due halfHourly world.service).2.length = 2 ∧
      (∀ timer ∈ (due halfHourly world.service).2,
        timer ∈ firedAfter (firings world.service.trace).length final) ∧
      ∀ timer ∈ final.service.armed, halfHourly world.service.reads < timer.dueAt := by
  obtain ⟨world, hbefore, hdue⟩ := (Option.any_eq_true _ _).mp
    (show (Machine.run (World.step halfHourly 24) {} (untouched.take 2)).any
      (fun world => decide ((due halfHourly world.service).2.length = 2)) = true by decide +kernel)
  obtain ⟨final, hrest⟩ := Option.isSome_iff_exists.mp
    (show ((Machine.run (World.step halfHourly 24) {} (untouched.take 2)).bind fun world =>
      Machine.run (World.step halfHourly 24) world (untouched.drop 2)).isSome = true by
        decide +kernel)
  rw [hbefore, Option.bind_some] at hrest
  have hended : (due halfHourly world.service).2.length ≤
      (untouched.drop 3).countP Label.returns := (of_decide_eq_true hdue).le.trans (by decide)
  have hleft := nothing_due_is_left_behind halfHourly_monotone hbefore hrest
    (by simp) (.inr hended)
  exact ⟨world, final, hbefore, hrest, of_decide_eq_true hdue, hleft⟩

end World

end Homeflow.Schedules
