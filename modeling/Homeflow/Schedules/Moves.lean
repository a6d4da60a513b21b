import Homeflow.Schedules.Lemmas

namespace Homeflow.Schedules

open ScheduleService

-- Every timer lies under its own identifier.
def Keyed (service : ScheduleService) : Prop :=
  ∀ key schedule, service.schedules.get? key = some schedule → schedule.id = key

theorem Keyed.armed_ids_nodup {service : ScheduleService} (h : Keyed service) :
    (service.armed.map Schedule.id).Nodup := by
  have hvalues : service.schedules.values.map Schedule.id = service.schedules.keys := by
    simp only [OrderedDict.values, OrderedDict.keys, List.map_map]
    refine List.map_congr_left fun entry hentry => ?_
    exact h entry.1 entry.2 ((OrderedDict.get?_eq_some_iff _ _ _).mpr hentry)
  have hnodup : (service.schedules.values.map Schedule.id).Nodup :=
    hvalues ▸ service.schedules.nodup
  exact hnodup.sublist (List.filter_sublist.map _)

-- The table agrees with what was written to it, and a timer is armed at most once.
structure Tidy (service : ScheduleService) : Prop where
  latest : ∀ key schedule, service.schedules.get? key = some schedule →
    Journal.latest Schedule.id (records service.trace) key = some schedule
  known : ∀ schedule ∈ records service.trace, schedule.id < service.ids
  closes : Journal.Closes Schedule.id (fun schedule => schedule.status ∈ SETTLED)
    (records service.trace)

section Tidy

variable {clock : Nat → Time} {maximum : ℚ} {service : ScheduleService}

theorem tidy_initial : Tidy {} :=
  ⟨fun _ _ h => by simp at h, fun _ h => by simp [records] at h, List.Pairwise.nil⟩

theorem Tidy.id_eq (h : Tidy service) {key : Uuid} {schedule : Schedule}
    (hget : service.schedules.get? key = some schedule) : schedule.id = key :=
  (Journal.mem_of_latest (h.latest key schedule hget)).2

theorem Tidy.keyed (h : Tidy service) : Keyed service := fun _ _ => h.id_eq

theorem Tidy.recorded (h : Tidy service) {key : Uuid} {schedule : Schedule}
    (hget : service.schedules.get? key = some schedule) : schedule ∈ records service.trace :=
  (Journal.mem_of_latest (h.latest key schedule hget)).1

theorem Tidy.lt_ids (h : Tidy service) {key : Uuid} {schedule : Schedule}
    (hget : service.schedules.get? key = some schedule) : key < service.ids :=
  h.id_eq hget ▸ h.known schedule (h.recorded hget)

-- Nothing but its arming was ever written for a timer that is still armed.
theorem Tidy.eq_of_armed (h : Tidy service) {key : Uuid} {schedule other : Schedule}
    (hget : service.schedules.get? key = some schedule) (harmed : schedule.status = .armed)
    (hother : other ∈ records service.trace) (hid : other.id = key) : other = schedule :=
  Journal.eq_of_latest_open h.closes (h.latest key schedule hget)
    (harmed ▸ armed_notMem_settled) other hother hid

theorem Tidy.congr {after : ScheduleService} (h : Tidy service)
    (hschedules : after.schedules = service.schedules) (hids : after.ids = service.ids)
    (hrecords : records after.trace = records service.trace) : Tidy after := by
  refine ⟨?_, ?_, ?_⟩
  · rw [hschedules, hrecords]
    exact h.latest
  · rw [hids, hrecords]
    exact h.known
  · rw [hrecords]
    exact h.closes

theorem Tidy.quiet {after : ScheduleService} (h : Tidy service) (hquiet : Quiet service after) :
    Tidy after :=
  h.congr hquiet.schedules hquiet.ids hquiet.records

theorem Tidy.settle (h : Tidy service) {schedule : Schedule} (hid : schedule.id < service.ids)
    (status : SettledStatus) (failureCode : Option String) (commandId : Option Uuid)
    (actor : Option Principal) :
    Tidy (settle clock service schedule status failureCode commandId actor) := by
  refine ⟨fun key other hget => ?_, fun other hother => ?_, ?_⟩
  · rw [records_settle, Journal.latest_concat]
    rw [settle_get?] at hget
    by_cases hkey : key = schedule.id
    · rw [if_pos hkey] at hget
      rw [if_pos (by simpa [Schedule.settled] using hkey.symm), hget]
    · rw [if_neg hkey] at hget
      rw [if_neg (by simpa [Schedule.settled] using fun he : schedule.id = key => hkey he.symm)]
      exact h.latest key other hget
  · rw [records_settle, List.mem_append, List.mem_singleton] at hother
    rcases hother with hother | rfl
    · exact h.known other hother
    · exact hid
  · rw [records_settle, Journal.closes_concat]
    exact ⟨h.closes, fun _ _ _ => status.property⟩

theorem Tidy.supersede (h : Tidy service) {existing : List Schedule}
    (hids : ∀ timer ∈ existing, timer.id < service.ids) :
    Tidy (supersede clock service existing) := by
  induction existing generalizing service with
  | nil => exact h
  | cons timer rest ih =>
      exact ih (h.settle (hids timer List.mem_cons_self) _ _ _ _)
        fun other hother => hids other (List.mem_cons_of_mem _ hother)

theorem Tidy.of_mem_armed (h : Tidy service) {timer : Schedule} (htimer : timer ∈ service.armed) :
    service.schedules.get? timer.id = some timer ∧ timer.status = .armed := by
  obtain ⟨⟨key, hget⟩, harmed⟩ := mem_armed_iff.mp htimer
  exact ⟨h.id_eq hget ▸ hget, harmed⟩

theorem Tidy.of_mem_replaced (h : Tidy service) {timer : Schedule} {deviceId : Uuid}
    {action : Action} (htimer : timer ∈ service.replaced deviceId action) :
    service.schedules.get? timer.id = some timer ∧ timer.status = .armed :=
  h.of_mem_armed (mem_replaced_iff.mp htimer).1

theorem Tidy.arm (h : Tidy service) (pending : PendingCreate) (commandId : Option Uuid) :
    Tidy (arm clock service pending commandId).1 := by
  let drawn : ScheduleService := { service with reads := service.reads + 1 }
  have hsuperseded : Tidy (ScheduleService.supersede clock drawn
      (service.replaced pending.request.deviceId pending.request.action)) := by
    have hdrawn : Tidy drawn := h.congr rfl rfl rfl
    refine hdrawn.supersede fun timer htimer => ?_
    exact h.lt_ids (h.of_mem_replaced htimer).1
  have hids := supersede_ids clock drawn
    (service.replaced pending.request.deviceId pending.request.action)
  have hknown := hsuperseded.known
  rw [hids] at hknown
  refine ⟨fun key other hget => ?_, fun other hother => ?_, ?_⟩
  · rw [records_arm, Journal.latest_concat, arm_id]
    by_cases hkey : key = service.ids
    · rw [hkey, arm_get?_self] at hget
      rw [if_pos hkey.symm, hget]
    · rw [if_neg (Ne.symm hkey)]
      exact hsuperseded.latest key other (get?_of_arm clock service pending commandId hkey hget)
  · rw [arm_ids]
    rw [records_arm, List.mem_append, List.mem_singleton] at hother
    rcases hother with hother | rfl
    · exact Nat.lt_succ_of_lt (hknown other hother)
    · exact Nat.lt_succ_self _
  · rw [records_arm, Journal.closes_concat]
    refine ⟨hsuperseded.closes, fun earlier hearlier hid => ?_⟩
    have hlt : earlier.id < service.ids := hknown earlier hearlier
    exact absurd hid (Nat.ne_of_gt hlt)

end Tidy

variable (clock : Nat → Time) (maximum : ℚ)

-- The timers a step cancels or replaces.
def disarms (world : World) : Label → List Uuid
  | .create _ request device =>
      match prepare clock maximum world.service request device with
      | (_, .ok pending) =>
          if request.kind = .runFor then []
          else (world.service.replaced pending.request.deviceId pending.request.action).map
            Schedule.id
      | _ => []
  | .createReturns ticket (.returned command) =>
      match world.creating.get? ticket with
      | some pending =>
          if command.status ∈ [CommandStatus.succeeded, .unknown] then
            (world.service.replaced pending.request.deviceId pending.request.action).map
              Schedule.id
          else []
      | none => []
  | .cancel _ id =>
      match world.service.schedules.get? id with
      | some schedule => if schedule.status = .armed then [id] else []
      | none => []
  | _ => []

-- Everything a step of the world can do.
inductive Moved (world : World) : Label → World → Prop where
  | quiet {label : Label} {service : ScheduleService} {creating : OrderedDict Ticket PendingCreate}
      (hlabel : label.direct = false) (hquiet : Quiet world.service service)
      (hcreating : ∀ ticket pending, creating.get? ticket = some pending →
        world.creating.get? ticket = some pending ∨
          .turnedOn ticket (onCommand pending) ∈ service.trace) :
      Moved world label { world with service, creating }
  | armed {label : Label} {pending : PendingCreate} {commandId : Option Uuid}
      {creating : OrderedDict Ticket PendingCreate} (hlabel : label.direct = false)
      (hdisarms : disarms clock maximum world label =
        (world.service.replaced pending.request.deviceId pending.request.action).map
          Schedule.id)
      (hcreating : ∀ ticket pending, creating.get? ticket = some pending →
        world.creating.get? ticket = some pending)
      (horigin : commandId = none ∨ ∃ ticket command,
        label = .createReturns ticket (.returned command) ∧
          world.creating.get? ticket = some pending ∧ commandId = some command.id) :
      Moved world label
        { world with service := (arm clock world.service pending commandId).1, creating }
  | cancelled {principal : Principal} {id : Uuid} {schedule : Schedule}
      (hget : world.service.schedules.get? id = some schedule)
      (harmed : schedule.status = .armed)
      (hdisarms : disarms clock maximum world (.cancel principal id) = [id]) :
      Moved world (.cancel principal id)
        { world with
          service := settle clock world.service schedule ⟨.cancelled, by decide⟩ none none
            (some principal) }
  | woken {ticket : Ticket} (hloop : world.loop = .asleep) :
      Moved world (.wake ticket)
        (World.next clock { world with service := (due clock world.service).1 } ticket
          (due clock world.service).2).1
  | returned {outcome : SubmitOutcome} {ticket called : Ticket} {current : Schedule}
      {rest : List Schedule} {status : SettledStatus} {failureCode : Option String}
      {commandId : Option Uuid} (hloop : world.loop = .firing called current rest)
      (hstatus : status.val ≠ .cancelled ∧ status.val ≠ .superseded) :
      Moved world (.loopReturns outcome ticket)
        (World.next clock
          { world with service := settle clock world.service current status failureCode commandId }
          ticket rest).1
  | stopped : Moved world .stop { world with loop := .stopped world.unhandled }
  | fired {ticket : Ticket} {schedule : Schedule} (hfree : world.firing.get? ticket = none) :
      Moved world (.fire ticket schedule)
        { world.call clock ticket schedule with
          firing := world.firing.set ticket schedule }
  | firedReturns {ticket : Ticket} {outcome : SubmitOutcome} {schedule : Schedule}
      {status : SettledStatus} {failureCode : Option String} {commandId : Option Uuid}
      (hfiring : world.firing.get? ticket = some schedule) :
      Moved world (.fireReturns ticket outcome)
        { world with
          service := settle clock world.service schedule status failureCode commandId
          firing := world.firing.erase ticket }
  | firedRaises {ticket : Ticket} {outcome : SubmitOutcome} {schedule : Schedule}
      (hfiring : world.firing.get? ticket = some schedule) :
      Moved world (.fireReturns ticket outcome)
        { world with firing := world.firing.erase ticket }

variable {clock maximum}

theorem firedStatus_val (status : CommandStatus) :
    (firedStatus status).val ≠ .cancelled ∧ (firedStatus status).val ≠ .superseded := by
  cases status <;> decide

variable (clock) in
-- However a firing ends, it settles its timer, never as cancelled or superseded.
theorem runResumes_settles (service : ScheduleService) (schedule : Schedule)
    (outcome : SubmitOutcome) :
    ∃ (status : SettledStatus) (failureCode : Option String) (commandId : Option Uuid),
      (status.val ≠ .cancelled ∧ status.val ≠ .superseded) ∧
      runResumes clock service schedule outcome =
        settle clock service schedule status failureCode commandId := by
  cases outcome with
  | returned command =>
      exact ⟨firedStatus command.status, command.failureCode, some command.id,
        firedStatus_val command.status, rfl⟩
  | refused error =>
      exact ⟨⟨.failed, by decide⟩, some error.problemType, none, by decide, rfl⟩
  | raised => exact ⟨⟨.failed, by decide⟩, some "internal_error", none, by decide, rfl⟩

theorem quiet_turnedOn (service : ScheduleService) (ticket : Ticket) (call : SubmitCall) :
    Quiet service (service.emit (.turnedOn ticket call)) := by
  refine ⟨rfl, rfl, le_rfl, ?_, ?_, .concat _ rfl⟩ <;>
    simp [emit, records, settlements, Effect.stored?, Effect.settledId?]

variable (clock maximum) in
-- What a call of create has done when it first waits or ends.
inductive Creates (world : World) (ticket : Ticket) (request : CreateRequest)
    (device : Option Device) : Stepped → Prop where
  | refused {service : ScheduleService} {error : HomeFlowError}
      (hprepare : prepare clock maximum world.service request device = (service, .error error)) :
      Creates world ticket request device ({ world with service }, none)
  | submits {pending : PendingCreate}
      (hprepare : prepare clock maximum world.service request device =
        (world.service, .ok pending)) :
      Creates world ticket request device
        ({ world with
          service := world.service.emit (.turnedOn ticket (onCommand pending))
          creating := world.creating.set ticket pending }, some (ticket, onCommand pending))
  | arms {pending : PendingCreate}
      (hprepare : prepare clock maximum world.service request device =
        (world.service, .ok pending)) (hkind : request.kind ≠ .runFor) :
      Creates world ticket request device
        ({ world with service := (arm clock world.service pending none).1 }, none)

theorem creates_of_advance {world : World} {ticket : Ticket} {request : CreateRequest}
    {device : Option Device} {stepped : Stepped}
    (h : World.advance clock maximum world (.create ticket request device) = some stepped) :
    Creates clock maximum world ticket request device stepped := by
  simp only [World.advance] at h
  split at h
  · cases h
  · cases hprepare : prepare clock maximum world.service request device with
    | mk service result =>
        cases result with
        | error error =>
            simp only [create, hprepare] at h
            cases h
            exact .refused hprepare
        | ok pending =>
            obtain ⟨rfl, -⟩ := prepare_ok hprepare
            by_cases hkind : request.kind = .runFor
            · simp only [create, hprepare, if_pos hkind] at h
              cases h
              exact .submits hprepare
            · simp only [create, hprepare, if_neg hkind] at h
              cases h
              exact .arms hprepare hkind

theorem create_moved {world after : World} {ticket : Ticket} {request : CreateRequest}
    {device : Option Device}
    (h : World.step clock maximum world (.create ticket request device) = some after) :
    Moved clock maximum world (.create ticket request device) after := by
  obtain ⟨stepped, hadvance, rfl⟩ := Option.map_eq_some_iff.mp h
  have hquiet := quiet_prepare clock maximum world.service request device
  cases creates_of_advance hadvance with
  | refused hprepare =>
      exact .quiet rfl (by simpa [hprepare] using hquiet) fun _ _ hfound => .inl hfound
  | submits =>
      refine .quiet rfl (quiet_turnedOn _ _ _) fun other found hfound => ?_
      obtain ⟨rfl, rfl⟩ | ⟨-, hfound⟩ := OrderedDict.get?_set_eq_some.mp hfound
      · exact .inr (List.mem_append_right _ (List.mem_singleton_self _))
      · exact .inl hfound
  | arms hprepare hkind =>
      exact .armed rfl (by simp [disarms, hprepare, hkind]) (fun _ _ hfound => hfound) (.inl rfl)

theorem createReturns_moved {world after : World} {ticket : Ticket} {outcome : SubmitOutcome}
    (h : World.step clock maximum world (.createReturns ticket outcome) = some after) :
    Moved clock maximum world (.createReturns ticket outcome) after := by
  simp only [World.step, World.advance, Option.map_map, Option.map_eq_some_iff,
    Function.comp_apply] at h
  obtain ⟨pending, hpending, rfl⟩ := h
  have hcreating : ∀ other found, (world.creating.erase ticket).get? other = some found →
      world.creating.get? other = some found :=
    fun _ _ hfound => (OrderedDict.get?_erase_eq_some.mp hfound).2
  cases outcome with
  | returned command =>
      by_cases hstatus : command.status ∈ [CommandStatus.succeeded, .unknown]
      · have hdisarms : disarms clock maximum world (.createReturns ticket (.returned command)) =
            (world.service.replaced pending.request.deviceId pending.request.action).map
              Schedule.id := by
          simp only [disarms, hpending, if_pos hstatus]
        simp only [createResumes, hstatus, not_true_eq_false, if_false]
        exact .armed rfl hdisarms hcreating (.inr ⟨ticket, command, rfl, hpending, rfl⟩)
      · simp only [createResumes, hstatus, not_false_eq_true, if_true]
        exact .quiet rfl (.refl _) fun other found hfound => .inl (hcreating other found hfound)
  | refused error | raised =>
      exact .quiet rfl (.refl _) fun other found hfound => .inl (hcreating other found hfound)

theorem cancel_moved {world after : World} {principal : Principal} {id : Uuid}
    (h : World.step clock maximum world (.cancel principal id) = some after) :
    Moved clock maximum world (.cancel principal id) after := by
  simp only [World.step, World.advance, Option.map_some, Option.some.injEq] at h
  subst h
  cases hget : world.service.schedules.get? id with
  | none =>
      simp only [cancel, ScheduleService.get, hget]
      refine .quiet rfl (.refl _) ?_
      exact fun _ _ hfound => .inl hfound
  | some schedule =>
      by_cases harmed : schedule.status = .armed
      · simp only [cancel, ScheduleService.get, hget, harmed, ne_eq, not_true_eq_false, if_false]
        exact .cancelled hget harmed (by simp only [disarms, hget, harmed, if_true])
      · simp only [cancel, ScheduleService.get, hget, ne_eq, harmed, not_false_eq_true, if_true]
        refine .quiet rfl (.refl _) ?_
        exact fun _ _ hfound => .inl hfound

theorem fireReturns_moved {world after : World} {ticket : Ticket} {outcome : SubmitOutcome}
    (h : World.step clock maximum world (.fireReturns ticket outcome) = some after) :
    Moved clock maximum world (.fireReturns ticket outcome) after := by
  simp only [World.step, World.advance, Option.map_map, Option.map_eq_some_iff,
    Function.comp_apply] at h
  obtain ⟨schedule, hfiring, rfl⟩ := h
  cases outcome with
  | returned command => exact .firedReturns hfiring
  | refused error => exact .firedReturns hfiring
  | raised => exact .firedRaises hfiring

theorem step_moved {world after : World} {label : Label}
    (h : World.step clock maximum world label = some after) :
    Moved clock maximum world label after := by
  cases label with
  | create ticket request device => exact create_moved h
  | createReturns ticket outcome => exact createReturns_moved h
  | cancel principal id => exact cancel_moved h
  | wake ticket =>
      simp only [World.step, World.advance] at h
      split at h
      · rename_i hloop
        cases h
        exact .woken hloop
      · cases h
  | loopReturns outcome ticket =>
      simp only [World.step, World.advance] at h
      split at h
      · rename_i called current rest hloop
        obtain ⟨status, failureCode, commandId, hstatus, hsettle⟩ :=
          runResumes_settles clock world.service current outcome
        cases h
        rw [hsettle]
        exact .returned hloop hstatus
      · cases h
  | stop =>
      cases h
      exact .stopped
  | fire ticket schedule =>
      simp only [World.step, World.advance] at h
      split at h
      · cases h
      · rename_i hfree
        cases h
        exact .fired (by simpa using hfree)
  | fireReturns ticket outcome => exact fireReturns_moved h

variable (clock) in
-- The next timer of the due list is fired, if there is one.
theorem next_cases (world : World) (ticket : Ticket) (due : List Schedule) :
    (due = [] ∧ (World.next clock world ticket due).1 = { world with loop := .asleep }) ∨
      ∃ timer rest, due = timer :: rest ∧
        (World.next clock world ticket due).1 =
          { world.call clock ticket timer with loop := .firing ticket timer rest } := by
  cases due with
  | nil => exact .inl ⟨rfl, rfl⟩
  | cons timer rest => exact .inr ⟨timer, rest, rfl, rfl⟩

variable (clock) in
theorem quiet_due (service : ScheduleService) : Quiet service (due clock service).1 :=
  ⟨rfl, rfl, Nat.le_succ _, rfl, rfl, .refl _⟩

theorem mem_due_iff {service : ScheduleService} {timer : Schedule} :
    timer ∈ (due clock service).2 ↔ timer ∈ service.armed ∧ timer.dueAt ≤ clock service.reads := by
  simp [due]

end Homeflow.Schedules
