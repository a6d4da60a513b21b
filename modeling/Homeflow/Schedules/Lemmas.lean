import Homeflow.Lib.Journal
import Homeflow.Schedules.World
import Mathlib.Data.List.Sort
import Mathlib.Data.List.Perm.Basic

namespace Homeflow.Schedules

def Effect.stored? : Effect → Option Schedule
  | .stored schedule => some schedule
  | _ => none

def Effect.fired? : Effect → Option Firing
  | .fired firing => some firing
  | _ => none

-- The timer an event announces as settled.
def Effect.settledId? : Effect → Option Uuid
  | .published event =>
      if event.type = .scheduleSettled then
        match Json.member? event.payload "scheduleId" with
        | some (.int id) => some id.toNat
        | _ => none
      else none
  | _ => none

def records (trace : List Effect) : List Schedule := trace.filterMap Effect.stored?

def firings (trace : List Effect) : List Firing := trace.filterMap Effect.fired?

def settlements (trace : List Effect) : List Uuid := trace.filterMap Effect.settledId?

-- A step that fires nothing only adds other effects to the trace.
def Unfired (before after : List Effect) : Prop :=
  ∃ added, after = before ++ added ∧ ∀ effect ∈ added, effect.fired? = none

theorem Unfired.refl (trace : List Effect) : Unfired trace trace := ⟨[], by simp, by simp⟩

theorem Unfired.trans {first second third : List Effect} (hfirst : Unfired first second)
    (hsecond : Unfired second third) : Unfired first third := by
  obtain ⟨added, rfl, hadded⟩ := hfirst
  obtain ⟨more, rfl, hmore⟩ := hsecond
  refine ⟨added ++ more, by simp, fun effect heffect => ?_⟩
  rcases List.mem_append.mp heffect with h | h
  · exact hadded effect h
  · exact hmore effect h

theorem Unfired.concat (trace : List Effect) {effect : Effect} (h : effect.fired? = none) :
    Unfired trace (trace ++ [effect]) := ⟨[effect], rfl, by simpa using h⟩

theorem Unfired.firings_eq {before after : List Effect} (h : Unfired before after) :
    firings after = firings before := by
  obtain ⟨added, rfl, hadded⟩ := h
  simpa [firings] using hadded

-- Neither the table nor the timers fired or settled differ; what is recorded may.
structure Quiet (before after : ScheduleService) : Prop where
  schedules : after.schedules = before.schedules
  ids : after.ids = before.ids
  reads : before.reads ≤ after.reads
  records : records after.trace = records before.trace
  settlements : settlements after.trace = settlements before.trace
  unfired : Unfired before.trace after.trace

theorem Quiet.refl (service : ScheduleService) : Quiet service service :=
  ⟨rfl, rfl, le_rfl, rfl, rfl, .refl _⟩

namespace ScheduleService

variable {clock : Nat → Time} {maximum : ℚ}

theorem quiet_auditDenied (service : ScheduleService) (request : CreateRequest)
    (reason : String) : Quiet service (auditDenied clock service request reason) := by
  refine ⟨rfl, rfl, Nat.le_succ _, ?_, ?_, ⟨[_], rfl, ?_⟩⟩ <;>
    simp [auditDenied, records, settlements, Effect.stored?, Effect.settledId?, Effect.fired?]

variable (clock maximum) in
theorem quiet_prepare (service : ScheduleService) (request : CreateRequest)
    (device : Option Device) : Quiet service (prepare clock maximum service request device).1 := by
  unfold prepare
  split
  · exact .refl service
  · split
    · exact quiet_auditDenied service request _
    · split
      · exact .refl service
      · dsimp only
        split
        · exact quiet_auditDenied service request _
        · split <;> exact .refl service

-- An accepted request leaves the service as it was.
theorem prepare_ok {service held : ScheduleService} {request : CreateRequest}
    {device : Option Device} {pending : PendingCreate}
    (h : prepare clock maximum service request device = (held, .ok pending)) :
    held = service ∧ pending.request = request := by
  unfold prepare at h
  split at h
  · cases h
  · split at h
    · cases h
    · split at h
      · cases h
      · dsimp only at h
        split at h
        · cases h
        · split at h
          · cases h
          · cases h
            exact ⟨rfl, rfl⟩

section Settle

variable (service : ScheduleService) (schedule : Schedule) (status : SettledStatus)
  (failureCode : Option String) (commandId : Option Uuid) (actor : Option Principal)

theorem settle_get? (key : Uuid) :
    (settle clock service schedule status failureCode commandId actor).schedules.get? key =
      if key = schedule.id then some (schedule.settled status.val failureCode commandId)
      else service.schedules.get? key :=
  OrderedDict.get?_set _ _ _ _

@[simp] theorem settle_ids :
    (settle clock service schedule status failureCode commandId actor).ids = service.ids := rfl

@[simp] theorem settle_reads :
    (settle clock service schedule status failureCode commandId actor).reads =
      service.reads + 2 := rfl

theorem records_settle :
    records (settle clock service schedule status failureCode commandId actor).trace =
      records service.trace ++ [schedule.settled status.val failureCode commandId] := by
  simp [settle, publish, record, store, records, Effect.stored?]

theorem settlements_settle :
    settlements (settle clock service schedule status failureCode commandId actor).trace =
      settlements service.trace ++ [schedule.id] := by
  simp [settle, publish, record, store, settlements, List.filterMap_cons, Effect.settledId?,
    Json.member?, Schedule.settled]

theorem unfired_settle :
    Unfired service.trace
      (settle clock service schedule status failureCode commandId actor).trace :=
  (Unfired.concat _ rfl).trans ((Unfired.concat _ rfl).trans (Unfired.concat _ rfl))

end Settle

section Supersede

variable (clock)

-- Replacing timers: each named one is settled and nothing else changes.
theorem supersede_ids (service : ScheduleService) (existing : List Schedule) :
    (supersede clock service existing).ids = service.ids := by
  induction existing generalizing service with
  | nil => rfl
  | cons timer rest ih => exact ih _

theorem supersede_reads (service : ScheduleService) (existing : List Schedule) :
    service.reads ≤ (supersede clock service existing).reads := by
  induction existing generalizing service with
  | nil => exact le_rfl
  | cons timer rest ih =>
      exact (Nat.le_add_right _ 2).trans (ih (settle clock service timer _ none none none))

theorem records_supersede (service : ScheduleService) (existing : List Schedule) :
    records (supersede clock service existing).trace =
      records service.trace ++ existing.map fun timer => timer.settled .superseded := by
  induction existing generalizing service with
  | nil => simp [supersede]
  | cons timer rest ih =>
      refine (ih _).trans ?_
      rw [records_settle]
      simp

theorem settlements_supersede (service : ScheduleService) (existing : List Schedule) :
    settlements (supersede clock service existing).trace =
      settlements service.trace ++ existing.map Schedule.id := by
  induction existing generalizing service with
  | nil => simp [supersede]
  | cons timer rest ih =>
      refine (ih _).trans ?_
      rw [settlements_settle]
      simp

theorem unfired_supersede (service : ScheduleService) (existing : List Schedule) :
    Unfired service.trace (supersede clock service existing).trace := by
  induction existing generalizing service with
  | nil => exact .refl _
  | cons timer rest ih => exact (unfired_settle service timer _ _ _ _).trans (ih _)

theorem get?_supersede_of_notMem (service : ScheduleService) {existing : List Schedule}
    {key : Uuid} (hkey : key ∉ existing.map Schedule.id) :
    (supersede clock service existing).schedules.get? key = service.schedules.get? key := by
  induction existing generalizing service with
  | nil => rfl
  | cons timer rest ih =>
      obtain ⟨hne, hrest⟩ := not_or.mp (List.mem_cons.not.mp hkey)
      refine (ih _ hrest).trans ?_
      rw [settle_get?, if_neg hne]

theorem get?_supersede_of_mem (service : ScheduleService) {existing : List Schedule}
    {key : Uuid} (hkey : key ∈ existing.map Schedule.id) :
    ∃ timer ∈ existing, timer.id = key ∧
      (supersede clock service existing).schedules.get? key =
        some (timer.settled .superseded) := by
  induction existing generalizing service with
  | nil => simp at hkey
  | cons timer rest ih =>
      by_cases hrest : key ∈ rest.map Schedule.id
      · obtain ⟨other, hother, hid, hget⟩ := ih (settle clock service timer _ none none none) hrest
        exact ⟨other, List.mem_cons_of_mem _ hother, hid, hget⟩
      · obtain rfl : key = timer.id := by simpa [hrest] using hkey
        refine ⟨timer, List.mem_cons_self, rfl, ?_⟩
        refine (get?_supersede_of_notMem _ _ hrest).trans ?_
        rw [settle_get?, if_pos rfl]

end Supersede

-- Eviction only ever drops settled timers.
theorem get?_of_evictSettled {excess : Nat} {table : OrderedDict Uuid Schedule} {key : Uuid}
    {schedule : Schedule} (h : (evictSettled excess table).get? key = some schedule) :
    table.get? key = some schedule := by
  induction excess generalizing table with
  | zero => exact h
  | succ excess ih =>
      rw [evictSettled] at h
      split at h
      · exact (OrderedDict.get?_erase_eq_some.mp (ih h)).2
      · exact h

theorem evictSettled_get?_armed (excess : Nat) {table : OrderedDict Uuid Schedule} {key : Uuid}
    {schedule : Schedule} (h : table.get? key = some schedule)
    (harmed : schedule.status = .armed) :
    (evictSettled excess table).get? key = some schedule := by
  induction excess generalizing table with
  | zero => exact h
  | succ excess ih =>
      rw [evictSettled]
      split
      · rename_i entry hentry
        have hsettled := List.find?_some hentry
        have hmem := (OrderedDict.get?_eq_some_iff table entry.1 entry.2).mpr
          (List.mem_of_find?_eq_some hentry)
        refine ih (OrderedDict.get?_erase_eq_some.mpr ⟨?_, h⟩)
        rintro rfl
        obtain rfl := Option.some.inj (h.symm.trans hmem)
        simp [harmed] at hsettled
      · exact h

theorem remember_get?_armed (service : ScheduleService) (new : Schedule) {key : Uuid}
    {schedule : Schedule} (h : (service.store new).schedules.get? key = some schedule)
    (harmed : schedule.status = .armed) :
    (service.remember new).schedules.get? key = some schedule :=
  evictSettled_get?_armed _ h harmed

theorem store_get?_of_remember {service : ScheduleService} {new : Schedule} {key : Uuid}
    {schedule : Schedule} (h : (service.remember new).schedules.get? key = some schedule) :
    (service.store new).schedules.get? key = some schedule :=
  get?_of_evictSettled h

section Arm

variable (clock) (service : ScheduleService) (pending : PendingCreate) (commandId : Option Uuid)

theorem arm_ids : (arm clock service pending commandId).1.ids = service.ids + 1 :=
  congrArg (· + 1) (supersede_ids clock _ _)

@[simp] theorem arm_id : (arm clock service pending commandId).2.id = service.ids := rfl

@[simp] theorem arm_status : (arm clock service pending commandId).2.status = .armed := rfl

theorem arm_reads : service.reads ≤ (arm clock service pending commandId).1.reads := by
  have hreads := supersede_reads clock { service with reads := service.reads + 1 }
    (service.replaced pending.request.deviceId pending.request.action)
  simp only [arm, publish, record, remember, store] at hreads ⊢
  omega

theorem records_arm :
    records (arm clock service pending commandId).1.trace =
      records (supersede clock { service with reads := service.reads + 1 }
        (service.replaced pending.request.deviceId pending.request.action)).trace ++
        [(arm clock service pending commandId).2] := by
  simp [arm, publish, record, remember, store, records, Effect.stored?]

theorem settlements_arm :
    settlements (arm clock service pending commandId).1.trace =
      settlements service.trace ++
        (service.replaced pending.request.deviceId pending.request.action).map Schedule.id := by
  rw [← settlements_supersede clock { service with reads := service.reads + 1 }]
  simp [arm, publish, record, remember, store, settlements, Effect.settledId?]

theorem unfired_arm : Unfired service.trace (arm clock service pending commandId).1.trace := by
  refine (unfired_supersede clock { service with reads := service.reads + 1 }
    (service.replaced pending.request.deviceId pending.request.action)).trans ?_
  simp only [arm, publish, record, remember, store]
  exact (Unfired.concat _ rfl).trans ((Unfired.concat _ rfl).trans (Unfired.concat _ rfl))

theorem arm_get?_self :
    (arm clock service pending commandId).1.schedules.get? service.ids =
      some (arm clock service pending commandId).2 :=
  remember_get?_armed _ _ (OrderedDict.get?_set_self _ _ _) rfl

theorem get?_of_arm {key : Uuid} {schedule : Schedule} (hkey : key ≠ service.ids)
    (h : (arm clock service pending commandId).1.schedules.get? key = some schedule) :
    (supersede clock { service with reads := service.reads + 1 }
      (service.replaced pending.request.deviceId pending.request.action)).schedules.get? key =
        some schedule := by
  have hget := store_get?_of_remember h
  rwa [store, OrderedDict.get?_set_of_ne hkey] at hget

-- An armed timer that is not replaced stays in the table as it is.
theorem arm_get?_of_notMem {key : Uuid} {schedule : Schedule} (hkey : key ≠ service.ids)
    (hnot : key ∉ (service.replaced pending.request.deviceId pending.request.action).map
      Schedule.id)
    (h : service.schedules.get? key = some schedule) (harmed : schedule.status = .armed) :
    (arm clock service pending commandId).1.schedules.get? key = some schedule := by
  refine remember_get?_armed _ _ ?_ harmed
  rw [store, OrderedDict.get?_set_of_ne hkey]
  exact (get?_supersede_of_notMem clock { service with reads := service.reads + 1 } hnot).trans h

end Arm

theorem mem_armed_iff {service : ScheduleService} {timer : Schedule} :
    timer ∈ service.armed ↔
      (∃ key, service.schedules.get? key = some timer) ∧ timer.status = .armed := by
  simp [armed, OrderedDict.mem_values_iff]

theorem mem_replaced_iff {service : ScheduleService} {timer : Schedule} {deviceId : Uuid}
    {action : Action} :
    timer ∈ service.replaced deviceId action ↔
      timer ∈ service.armed ∧ timer.deviceId = deviceId ∧ timer.action = action := by
  simp [replaced, forDevice, List.mem_insertionSort, and_assoc]

end ScheduleService

end Homeflow.Schedules
