import Homeflow.Schedules.Moves

namespace Homeflow.Schedules

open ScheduleService

def Effect.made? : Effect → Option (Ticket × SubmitCall)
  | .fired firing => some (firing.ticket, firing.call)
  | .turnedOn ticket call => some (ticket, call)
  | _ => none

-- The calls made of the submitter, with their tickets.
def made (trace : List Effect) : List (Ticket × SubmitCall) := trace.filterMap Effect.made?

variable {clock : Nat → Time} {maximum : ℚ}

theorem made_of_firing {trace : List Effect} {firing : Firing} (h : firing ∈ firings trace) :
    (firing.ticket, firing.call) ∈ made trace := by
  obtain ⟨effect, heffect, hfired⟩ := List.mem_filterMap.mp h
  cases effect with
  | fired found =>
      obtain rfl := Option.some.inj hfired
      exact List.mem_filterMap.mpr ⟨_, heffect, rfl⟩
  | stored | recorded | published | turnedOn => cases hfired

section Service

variable (clock maximum) (service : ScheduleService)

theorem made_settle (schedule : Schedule) (status : SettledStatus) (failureCode : Option String)
    (commandId : Option Uuid) (actor : Option Principal) :
    made (settle clock service schedule status failureCode commandId actor).trace =
      made service.trace := by
  simp [settle, publish, record, store, made, Effect.made?]

theorem made_supersede (existing : List Schedule) :
    made (supersede clock service existing).trace = made service.trace := by
  induction existing generalizing service with
  | nil => rfl
  | cons timer rest ih => exact (ih _).trans (made_settle clock service timer _ _ _ _)

theorem made_arm (pending : PendingCreate) (commandId : Option Uuid) :
    made (arm clock service pending commandId).1.trace = made service.trace := by
  rw [← made_supersede clock { service with reads := service.reads + 1 }
    (service.replaced pending.request.deviceId pending.request.action)]
  simp [arm, publish, record, remember, store, made, Effect.made?]

theorem made_prepare (request : CreateRequest) (device : Option Device) :
    made (prepare clock maximum service request device).1.trace = made service.trace := by
  have hdenied (reason : String) :
      made (auditDenied clock service request reason).trace = made service.trace := by
    simp [auditDenied, made, Effect.made?]
  unfold prepare
  split
  · rfl
  · split
    · exact hdenied _
    · split
      · rfl
      · dsimp only
        split
        · exact hdenied _
        · split <;> rfl

theorem made_emit (effect : Effect) :
    made (service.emit effect).trace = made service.trace ++ effect.made?.toList := by
  cases effect <;> simp [emit, made, Effect.made?]

end Service

variable (clock) in
theorem next_made (world : World) (ticket : Ticket) (due : List Schedule) :
    made (World.next clock world ticket due).1.service.trace =
      made world.service.trace ++ (World.next clock world ticket due).2.toList := by
  cases due with
  | nil => simp [World.next]
  | cons timer rest => exact made_emit _ _

-- A step tells of exactly the call it makes.
theorem advance_made {world after : World} {label : Label} {call : Option (Ticket × SubmitCall)}
    (h : World.advance clock maximum world label = some (after, call)) :
    made after.service.trace = made world.service.trace ++ call.toList := by
  cases label with
  | create ticket request device =>
      have hprepared := made_prepare clock maximum world.service request device
      cases creates_of_advance h with
      | refused hprepare => simpa [hprepare] using hprepared
      | submits => exact made_emit _ _
      | @arms pending => simpa using made_arm clock world.service pending none
  | createReturns ticket outcome =>
      obtain ⟨pending, -, hafter⟩ := Option.map_eq_some_iff.mp h
      cases hafter
      cases outcome with
      | returned command =>
          simp only [createResumes]
          split
          · simp
          · simpa using made_arm clock world.service pending (some command.id)
      | refused | raised => simp [createResumes]
  | cancel principal id =>
      cases h
      simp only [cancel]
      split
      · simp
      · split
        · simp
        · simpa using made_settle clock world.service _ _ none none (some principal)
  | wake ticket =>
      simp only [World.advance] at h
      split at h
      · have hnext := next_made clock { world with service := (due clock world.service).1 } ticket
          (due clock world.service).2
        rwa [Option.some.inj h] at hnext
      · cases h
  | loopReturns outcome ticket =>
      simp only [World.advance] at h
      split at h
      · rename_i called current rest hloop
        obtain ⟨status, failureCode, commandId, -, hsettle⟩ :=
          runResumes_settles clock world.service current outcome
        have hnext := next_made clock
          { world with service := runResumes clock world.service current outcome } ticket rest
        rw [Option.some.inj h] at hnext
        dsimp only at hnext
        rwa [hsettle, made_settle] at hnext
      · cases h
  | stop =>
      cases h
      simp
  | fire ticket schedule =>
      simp only [World.advance] at h
      split at h
      · cases h
      · cases h
        exact made_emit _ _
  | fireReturns ticket outcome =>
      obtain ⟨schedule, -, hafter⟩ := Option.map_eq_some_iff.mp h
      cases hafter
      cases outcome with
      | returned | refused => simpa [fireResumes] using made_settle clock world.service _ _ _ _ _
      | raised => simp [fireResumes]

-- Only the new timer is armed for its function.
theorem armed_of_arm {service : ScheduleService} (hkeyed : Keyed service) {pending : PendingCreate}
    {commandId : Option Uuid} {timer : Schedule}
    (h : timer ∈ (arm clock service pending commandId).1.armed) :
    timer = (arm clock service pending commandId).2 ∨
      (timer ∈ service.armed ∧
        ¬(timer.deviceId = pending.request.deviceId ∧ timer.action = pending.request.action)) := by
  obtain ⟨⟨key, hget⟩, harmed⟩ := mem_armed_iff.mp h
  by_cases hkey : key = service.ids
  · subst hkey
    rw [arm_get?_self] at hget
    exact .inl (Option.some.inj hget).symm
  · have hkept := get?_of_arm clock service pending commandId hkey hget
    have hnot : key ∉ (service.replaced pending.request.deviceId pending.request.action).map
        Schedule.id := by
      intro hmem
      obtain ⟨other, -, -, hsettled⟩ := get?_supersede_of_mem clock
        { service with reads := service.reads + 1 } hmem
      rw [Option.some.inj (hkept.symm.trans hsettled)] at harmed
      cases harmed
    have hbefore := (get?_supersede_of_notMem clock
      { service with reads := service.reads + 1 } hnot).symm.trans hkept
    have hmem : timer ∈ service.armed := mem_armed_iff.mpr ⟨⟨key, hbefore⟩, harmed⟩
    refine .inr ⟨hmem, fun hsame => hnot (List.mem_map.mpr ⟨timer, ?_, ?_⟩)⟩
    · exact mem_replaced_iff.mpr ⟨hmem, hsame⟩
    · exact hkeyed key timer hbefore

theorem armed_of_settle {service : ScheduleService} {schedule timer : Schedule}
    {status : SettledStatus} {failureCode : Option String} {commandId : Option Uuid}
    {actor : Option Principal}
    (h : timer ∈ (settle clock service schedule status failureCode commandId actor).armed) :
    timer ∈ service.armed := by
  obtain ⟨⟨key, hget⟩, harmed⟩ := mem_armed_iff.mp h
  rw [settle_get?] at hget
  split at hget
  · rw [← Option.some.inj hget] at harmed
    exact absurd harmed fun he => armed_notMem_settled (he ▸ status.property)
  · exact mem_armed_iff.mpr ⟨⟨key, hget⟩, harmed⟩

theorem armed_record_of_settle {service : ScheduleService} {schedule timer : Schedule}
    {status : SettledStatus} {failureCode : Option String} {commandId : Option Uuid}
    {actor : Option Principal}
    (h : timer ∈ records
      (settle clock service schedule status failureCode commandId actor).trace)
    (harmed : timer.status = .armed) : timer ∈ records service.trace := by
  rw [records_settle, List.mem_append, List.mem_singleton] at h
  rcases h with h | rfl
  · exact h
  · exact absurd harmed fun he => armed_notMem_settled (he ▸ status.property)

-- The timers a call may still be made for.
def World.Active (world : World) (timer : Schedule) : Prop :=
  timer ∈ world.service.armed ∨ timer ∈ world.waiting

-- The new timer a create arms with the command its request waited for.
structure Replaces (world after : World) (label : Label) (timer : Schedule) (on : Uuid)
    (ticket : Ticket) (command : Command) (pending : PendingCreate) : Prop where
  label : label = .createReturns ticket (.returned command)
  creating : world.creating.get? ticket = some pending
  on : on = command.id
  id : timer.id = world.service.ids
  deviceId : timer.deviceId = pending.request.deviceId
  action : timer.action = pending.request.action
  waiting : after.waiting = world.waiting
  firings : firings after.service.trace = firings world.service.trace
  armed : ∀ other ∈ after.service.armed, other.deviceId = timer.deviceId →
    other.action = timer.action → other = timer

-- What a step of the loop, or of a call of create or cancel, does to the timers.
structure Advanced (world after : World) (label : Label) : Prop where
  tidy : Tidy after.service
  known : ∀ timer ∈ after.loopTimers, timer.id < after.service.ids
  active : ∀ timer, after.Active timer → world.Active timer ∨ timer.id = world.service.ids
  firings : ∀ firing ∈ firings after.service.trace,
    firing ∈ firings world.service.trace ∨
      (world.Active firing.timer ∧ firing.call = fireCall firing.timer)
  records : ∀ timer ∈ records after.service.trace, timer.status = .armed →
    ∀ on ∈ timer.commandId, timer ∈ records world.service.trace ∨
      ∃ ticket command pending, Replaces world after label timer on ticket command pending
  creating : ∀ ticket pending, after.creating.get? ticket = some pending →
    world.creating.get? ticket = some pending ∨
      .turnedOn ticket (onCommand pending) ∈ after.service.trace

theorem firings_emit (service : ScheduleService) (firing : Firing) :
    firings (service.emit (.fired firing)).trace = firings service.trace ++ [firing] := by
  simp [emit, firings, Effect.fired?]

theorem waiting_subset_loopTimers {world : World} {timer : Schedule}
    (h : timer ∈ world.waiting) : timer ∈ world.loopTimers := by
  unfold World.waiting at h
  unfold World.loopTimers
  split at h
  · exact List.mem_cons_of_mem _ h
  · cases h

-- The loop goes on with timers that were active before.
theorem advanced_next {before world : World} {label : Label} {ticket : Ticket}
    {due : List Schedule} (htidy : Tidy world.service)
    (hknown : ∀ timer ∈ due, timer.id < world.service.ids)
    (hdue : ∀ timer ∈ due, before.Active timer)
    (harmed : ∀ timer ∈ world.service.armed, before.Active timer)
    (hfirings : firings world.service.trace = firings before.service.trace)
    (hrecords : ∀ timer ∈ records world.service.trace, timer.status = .armed →
      timer ∈ records before.service.trace)
    (hcreating : world.creating = before.creating) :
    Advanced before (World.next clock world ticket due).1 label := by
  obtain ⟨rfl, heq⟩ | ⟨timer, rest, rfl, heq⟩ := next_cases clock world ticket due
  · rw [heq]
    refine ⟨htidy, fun _ htimer => by simp [World.loopTimers] at htimer, ?_, ?_, ?_, ?_⟩
    · rintro timer (htimer | htimer)
      · exact .inl (harmed timer htimer)
      · simp [World.waiting] at htimer
    · exact fun firing hfiring => .inl (hfirings ▸ hfiring)
    · exact fun timer htimer hstatus _ _ => .inl (hrecords timer htimer hstatus)
    · exact fun _ _ hpending => .inl (hcreating ▸ hpending)
  · rw [heq]
    have hsame : records (world.call clock ticket timer).service.trace =
        records world.service.trace := by
      simp [World.call, emit, records, Effect.stored?]
    refine ⟨htidy.congr rfl rfl hsame, hknown, ?_, ?_, ?_, ?_⟩
    · rintro other (hother | hother)
      · exact .inl (harmed other hother)
      · exact .inl (hdue other (List.mem_cons_of_mem _ hother))
    · intro firing hfiring
      rw [World.call, firings_emit, hfirings, List.mem_append, List.mem_singleton] at hfiring
      rcases hfiring with hfiring | rfl
      · exact .inl hfiring
      · exact .inr ⟨hdue timer List.mem_cons_self, rfl⟩
    · exact fun other hother hstatus _ _ => .inl (hrecords other (hsame ▸ hother) hstatus)
    · exact fun _ _ hpending => .inl (hcreating ▸ hpending)

-- Arming a timer makes it the only new one.
theorem advanced_arm {world : World} {label : Label} (htidy : Tidy world.service)
    (hknown : ∀ timer ∈ world.loopTimers, timer.id < world.service.ids) {pending : PendingCreate}
    {commandId : Option Uuid} {creating : OrderedDict Ticket PendingCreate}
    (hcreating : ∀ ticket pending, creating.get? ticket = some pending →
      world.creating.get? ticket = some pending)
    (horigin : commandId = none ∨ ∃ ticket command,
      label = .createReturns ticket (.returned command) ∧
        world.creating.get? ticket = some pending ∧ commandId = some command.id) :
    Advanced world
      { world with service := (arm clock world.service pending commandId).1, creating } label := by
  refine ⟨htidy.arm pending commandId, fun timer htimer => ?_, ?_, ?_, ?_,
    fun ticket found hfound => .inl (hcreating ticket found hfound)⟩
  · dsimp only
    rw [arm_ids]
    exact Nat.lt_succ_of_lt (hknown timer htimer)
  · rintro timer (htimer | htimer)
    · rcases armed_of_arm htidy.keyed htimer with rfl | ⟨htimer, -⟩
      · exact .inr rfl
      · exact .inl (.inl htimer)
    · exact .inl (.inr htimer)
  · exact fun firing hfiring => .inl ((unfired_arm clock _ _ _).firings_eq ▸ hfiring)
  · intro timer htimer hstatus on hon
    rw [records_arm, records_supersede] at htimer
    simp only [List.mem_append, List.mem_map, List.mem_singleton] at htimer
    rcases htimer with (htimer | ⟨replaced, -, rfl⟩) | rfl
    · exact .inl htimer
    · cases hstatus
    · rcases horigin with rfl | ⟨ticket, command, hlabel, hpending, rfl⟩
      · cases hon
      · have hfirings := (unfired_arm clock world.service pending (some command.id)).firings_eq
        refine .inr ⟨ticket, command, pending, hlabel, hpending,
          (Option.some.inj hon).symm, rfl, rfl, rfl, rfl, hfirings, ?_⟩
        intro other hother hdevice haction
        rcases armed_of_arm htidy.keyed hother with rfl | ⟨-, hnot⟩
        · rfl
        · exact absurd ⟨hdevice, haction⟩ hnot

theorem advanced_step {world after : World} {label : Label} (htidy : Tidy world.service)
    (hknown : ∀ timer ∈ world.loopTimers, timer.id < world.service.ids)
    (hlabel : label.direct = false)
    (hstep : World.step clock maximum world label = some after) : Advanced world after label := by
  have hactive : ∀ timer, world.Active timer → timer.id < world.service.ids := by
    rintro timer (htimer | htimer)
    · exact htidy.lt_ids (htidy.of_mem_armed htimer).1
    · exact hknown timer (waiting_subset_loopTimers htimer)
  cases step_moved hstep with
  | quiet _ hquiet hcreating =>
      refine ⟨htidy.quiet hquiet, ?_, ?_, ?_, ?_, hcreating⟩
      · exact hquiet.ids ▸ hknown
      · rintro timer (htimer | htimer)
        · refine .inl (.inl ?_)
          rwa [armed, ← hquiet.schedules]
        · exact .inl (.inr htimer)
      · exact fun firing hfiring => .inl (hquiet.unfired.firings_eq ▸ hfiring)
      · exact fun timer htimer _ _ _ => .inl (hquiet.records ▸ htimer)
  | armed _ _ hcreating horigin => exact advanced_arm htidy hknown hcreating horigin
  | @cancelled principal id schedule hget harmed =>
      refine ⟨htidy.settle (htidy.id_eq hget ▸ htidy.lt_ids hget) _ _ _ _, hknown, ?_, ?_, ?_,
        fun _ _ hfound => .inl hfound⟩
      · rintro timer (htimer | htimer)
        · exact .inl (.inl (armed_of_settle htimer))
        · exact .inl (.inr htimer)
      · exact fun firing hfiring => .inl ((unfired_settle _ _ _ _ _ _).firings_eq ▸ hfiring)
      · exact fun timer htimer hstatus _ _ => .inl (armed_record_of_settle htimer hstatus)
  | woken hloop =>
      refine advanced_next (htidy.quiet (quiet_due clock _)) ?_ ?_ ?_ rfl
        (fun _ htimer _ => htimer) rfl
      · exact fun timer htimer => hactive timer (.inl (mem_due_iff.mp htimer).1)
      · exact fun timer htimer => .inl (mem_due_iff.mp htimer).1
      · exact fun timer htimer => .inl htimer
  | @returned outcome ticket called current rest status failureCode commandId hloop =>
      have hcurrent : current.id < world.service.ids :=
        hknown current (by simp [World.loopTimers, hloop])
      have hrest : ∀ timer ∈ rest, world.Active timer := fun timer htimer =>
        .inr (by simpa [World.waiting, hloop] using htimer)
      refine advanced_next (htidy.settle hcurrent _ _ _ _)
        (fun timer htimer => hactive timer (hrest timer htimer)) hrest
        (fun timer htimer => .inl (armed_of_settle htimer)) ?_ ?_ rfl
      · exact (unfired_settle _ _ _ _ _ _).firings_eq
      · exact fun timer htimer hstatus => armed_record_of_settle htimer hstatus
  | stopped =>
      refine ⟨htidy, fun _ htimer => by simp [World.loopTimers] at htimer, ?_,
        fun _ hfiring => .inl hfiring, fun _ htimer _ _ _ => .inl htimer,
        fun _ _ hfound => .inl hfound⟩
      rintro timer (htimer | htimer)
      · exact .inl (.inl htimer)
      · simp [World.waiting] at htimer
  | fired | firedReturns | firedRaises => cases hlabel

end Homeflow.Schedules
