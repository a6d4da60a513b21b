import Homeflow.Schedules.Calls

-- What the timer service asks for, and on whose behalf.
namespace Homeflow

-- What may be asked of the house, and who may ask.
structure Warrant where
  calls : SubmitCall → Prop
  known : Principal → Prop
  named : ∀ {call}, calls call → known call.principal

-- An entry that names one of these as its actor.
def Warrant.Names (warrant : Warrant) (entry : AuditEntry) : Prop :=
  ∃ principal, warrant.known principal ∧ entry.actorUserId = some principal.userId ∧
    entry.actorClientId = some principal.clientId

namespace Schedules

open ScheduleService

-- What a request for a timer can ask for: a delayed start turns nothing off.
structure CreateRequest.Asks (request : CreateRequest) (call : SubmitCall) : Prop where
  principal : call.principal = request.principal
  deviceId : call.deviceId = request.deviceId
  action : call.action = request.action
  timed : request.action ∈ TIMED_ACTIONS
  correlationId : call.correlationId = request.correlationId
  parameters : ∃ on, call.parameters = [("on", .bool on)] ∧
    (request.kind = .delayedStart → on = true)

structure Covers (warrant : Warrant) (request : CreateRequest) : Prop where
  calls : ∀ call, request.Asks call → warrant.calls call
  known : warrant.known request.principal

variable {warrant : Warrant} {clock : Nat → Time} {maximum : ℚ}

structure Vouches (warrant : Warrant) (service : ScheduleService) : Prop where
  timers : ∀ id schedule, service.schedules.get? id = some schedule →
    warrant.calls (fireCall schedule)
  told : ∀ entry, .recorded entry ∈ service.trace → warrant.Names entry

-- A request that is waiting for its on-command.
structure Awaits (warrant : Warrant) (pending : PendingCreate) : Prop where
  covered : Covers warrant pending.request
  timed : pending.request.action ∈ TIMED_ACTIONS
  desired : pending.request.kind = .delayedStart → pending.desired = true

section Service

variable {service : ScheduleService} {schedule : Schedule}

theorem prepare_timed {held : ScheduleService} {request : CreateRequest} {device : Option Device}
    {pending : PendingCreate}
    (h : prepare clock maximum service request device = (held, .ok pending)) :
    pending.request = request ∧ request.action ∈ TIMED_ACTIONS ∧
      pending.desired = decide (request.kind = .delayedStart) := by
  unfold prepare at h
  split at h
  · cases h
  · split at h
    · cases h
    · next htimed =>
      split at h
      · cases h
      · dsimp only at h
        split at h
        · cases h
        · split at h
          · cases h
          · cases h
            exact ⟨rfl, not_not.mp htimed, rfl⟩

-- What is no entry names nobody.
theorem Vouches.silent (h : Vouches warrant service) {effects : List Effect} {reads ids : Nat}
    (heffects : ∀ entry, .recorded entry ∉ effects) :
    Vouches warrant { service with reads, ids, trace := service.trace ++ effects } := by
  refine ⟨h.timers, fun entry hentry => ?_⟩
  exact h.told entry ((List.mem_append.mp hentry).resolve_right (heffects entry))

theorem Vouches.names (h : Vouches warrant service) {entry : AuditEntry} {reads : Nat}
    (hentry : warrant.Names entry) :
    Vouches warrant { service with reads, trace := service.trace ++ [.recorded entry] } := by
  refine ⟨h.timers, fun other hother => ?_⟩
  rcases List.mem_append.mp hother with hold | hnew
  · exact h.told other hold
  · obtain rfl := Effect.recorded.inj (List.mem_singleton.mp hnew)
    exact hentry

theorem Vouches.publish (h : Vouches warrant service) (type : EventType) :
    Vouches warrant (publish clock service schedule type) :=
  h.silent (by simp)

theorem Vouches.record (h : Vouches warrant service) (hschedule : warrant.calls (fireCall schedule))
    (event : String) {actor : Option Principal}
    (hactor : ∀ principal, actor = some principal → warrant.known principal) :
    Vouches warrant (record clock service schedule event actor) := by
  refine h.names ?_
  cases actor with
  | none => exact ⟨_, warrant.named hschedule, rfl, rfl⟩
  | some principal => exact ⟨principal, hactor principal rfl, rfl, rfl⟩

theorem Vouches.store (h : Vouches warrant service)
    (hschedule : warrant.calls (fireCall schedule)) :
    Vouches warrant (service.store schedule) := by
  refine ⟨fun id held hheld => ?_, fun entry hentry => ?_⟩
  · obtain ⟨-, rfl⟩ | ⟨-, hold⟩ := OrderedDict.get?_set_eq_some.mp hheld
    · exact hschedule
    · exact h.timers id held hold
  · exact h.told entry ((List.mem_append.mp hentry).resolve_right (by simp))

theorem Vouches.settle (h : Vouches warrant service) (hschedule : warrant.calls (fireCall schedule))
    (status : SettledStatus) (failureCode : Option String) (commandId : Option Uuid)
    {actor : Option Principal}
    (hactor : ∀ principal, actor = some principal → warrant.known principal) :
    Vouches warrant (settle clock service schedule status failureCode commandId actor) := by
  have hsettled : warrant.calls (fireCall (schedule.settled status.val failureCode commandId)) :=
    hschedule
  exact ((h.store hsettled).record hsettled _ hactor).publish _

theorem Vouches.supersede (h : Vouches warrant service) {existing : List Schedule}
    (hexisting : ∀ timer ∈ existing, warrant.calls (fireCall timer)) :
    Vouches warrant (supersede clock service existing) := by
  induction existing generalizing service with
  | nil => exact h
  | cons timer rest ih =>
      obtain ⟨htimer, hrest⟩ := List.forall_mem_cons.mp hexisting
      exact ih (h.settle htimer _ none none (by simp)) hrest

theorem Vouches.armed (h : Vouches warrant service) {timer : Schedule}
    (htimer : timer ∈ service.armed) : warrant.calls (fireCall timer) := by
  obtain ⟨⟨id, hheld⟩, -⟩ := mem_armed_iff.mp htimer
  exact h.timers id timer hheld

theorem Vouches.remember (h : Vouches warrant service)
    (hschedule : warrant.calls (fireCall schedule)) :
    Vouches warrant (service.remember schedule) := by
  have hstored := h.store hschedule
  exact ⟨fun id held hheld => hstored.timers id held (store_get?_of_remember hheld),
    hstored.told⟩

theorem Vouches.kept (h : Vouches warrant service) (hschedule : warrant.calls (fireCall schedule)) :
    Vouches warrant (ScheduleService.publish clock
      (ScheduleService.record clock (service.remember schedule) schedule "schedule.created")
      schedule .scheduleArmed) :=
  ((h.remember hschedule).record hschedule _ (by simp)).publish _

theorem Vouches.arm (h : Vouches warrant service) {pending : PendingCreate}
    (hpending : Awaits warrant pending) (commandId : Option Uuid) :
    Vouches warrant (arm clock service pending commandId).1 := by
  have hcall : warrant.calls (fireCall (ScheduleService.arm clock service pending commandId).2) :=
    hpending.covered.calls _ ⟨rfl, rfl, rfl, hpending.timed, rfl, pending.desired, rfl,
      hpending.desired⟩
  have hread : Vouches warrant { service with reads := service.reads + 1 } := ⟨h.timers, h.told⟩
  have hsuperseded : Vouches warrant (ScheduleService.supersede clock
      { service with reads := service.reads + 1 }
      (service.replaced pending.request.deviceId pending.request.action)) :=
    hread.supersede fun timer htimer => h.armed (mem_replaced_iff.mp htimer).1
  have hdrawn (ids : Nat) : Vouches warrant { ScheduleService.supersede clock
      { service with reads := service.reads + 1 }
      (service.replaced pending.request.deviceId pending.request.action) with ids } :=
    ⟨hsuperseded.timers, hsuperseded.told⟩
  exact (hdrawn _).kept hcall

theorem Vouches.prepare (h : Vouches warrant service) {request : CreateRequest}
    {device : Option Device} (hrequest : Covers warrant request) :
    Vouches warrant (prepare clock maximum service request device).1 := by
  have hdenied : ∀ reason, Vouches warrant (auditDenied clock service request reason) :=
    fun _ => h.names ⟨request.principal, hrequest.known, rfl, rfl⟩
  unfold ScheduleService.prepare
  split
  · exact h
  · split
    · exact hdenied _
    · split
      · exact h
      · dsimp only
        split
        · exact hdenied _
        · split <;> exact h

theorem Vouches.createResumes (h : Vouches warrant service) {pending : PendingCreate}
    (hpending : Awaits warrant pending) (outcome : SubmitOutcome) :
    Vouches warrant (createResumes clock service pending outcome).1 := by
  cases outcome with
  | returned command =>
      simp only [ScheduleService.createResumes]
      split
      · exact h
      · exact h.arm hpending _
  | refused | raised => exact h

theorem Vouches.cancel (h : Vouches warrant service) {principal : Principal}
    (hprincipal : warrant.known principal) (id : Uuid) :
    Vouches warrant (cancel clock service principal id).1 := by
  unfold ScheduleService.cancel
  cases hget : service.get id with
  | error error => exact h
  | ok schedule =>
      have hheld : service.schedules.get? id = some schedule := by
        unfold ScheduleService.get at hget
        split at hget
        · next held hheld => exact hheld.trans (congrArg some (Except.ok.inj hget))
        · cases hget
      dsimp only
      split
      · exact h
      · refine h.settle (h.timers id schedule hheld) _ none none ?_
        rintro _ ⟨⟩
        exact hprincipal

end Service

-- Nor does the service hold any other request or timer.
structure Vouched (warrant : Warrant) (world : World) : Prop where
  service : Vouches warrant world.service
  creating : ∀ ticket pending, world.creating.get? ticket = some pending → Awaits warrant pending
  loop : ∀ timer ∈ world.loopTimers, warrant.calls (fireCall timer)

def Label.Within (warrant : Warrant) : Label → Prop
  | .create _ request _ => Covers warrant request
  | .cancel principal _ => warrant.known principal
  -- Nobody settles a timer of his own making.
  | .fire _ _ | .fireReturns _ _ => False
  | _ => True

section World

variable {world after : World} {call : Option (Ticket × SubmitCall)}

theorem vouched_next {service : ScheduleService} (h : Vouched warrant world) {ticket : Ticket}
    {due : List Schedule} (hservice : Vouches warrant service)
    (hdue : ∀ timer ∈ due, warrant.calls (fireCall timer))
    (hnext : World.next clock { world with service } ticket due = (after, call)) :
    Vouched warrant after ∧ ∀ entry ∈ call, warrant.calls entry.2 := by
  cases due with
  | nil =>
      obtain ⟨rfl, rfl⟩ := Prod.mk.inj hnext
      exact ⟨⟨hservice, h.creating, by simp [World.loopTimers]⟩, by simp⟩
  | cons timer rest =>
      obtain ⟨rfl, rfl⟩ := Prod.mk.inj hnext
      refine ⟨⟨hservice.silent (by simp), h.creating, hdue⟩, ?_⟩
      rintro entry ⟨⟩
      exact hdue timer List.mem_cons_self

theorem vouched_create {ticket : Ticket} {request : CreateRequest} {device : Option Device}
    (h : Vouched warrant world) (hrequest : Covers warrant request)
    (hadvance : world.advance clock maximum (.create ticket request device) =
      some (after, call)) :
    Vouched warrant after ∧ ∀ entry ∈ call, warrant.calls entry.2 := by
  have hprepared : Vouches warrant (prepare clock maximum world.service request device).1 :=
    h.service.prepare hrequest
  have hawaits {pending : PendingCreate}
      (hprepare : prepare clock maximum world.service request device =
        (world.service, .ok pending)) : Awaits warrant pending := by
    obtain ⟨rfl, htimed, hdesired⟩ := prepare_timed hprepare
    exact ⟨hrequest, htimed, fun hkind => hdesired.trans (decide_eq_true hkind)⟩
  cases creates_of_advance hadvance with
  | refused hprepare =>
      rw [hprepare] at hprepared
      exact ⟨⟨hprepared, h.creating, h.loop⟩, by simp⟩
  | @submits pending hprepare =>
      have hpending := hawaits hprepare
      refine ⟨⟨h.service.silent (by simp), fun other held hheld => ?_, h.loop⟩, ?_⟩
      · obtain ⟨-, rfl⟩ | ⟨-, hold⟩ := OrderedDict.get?_set_eq_some.mp hheld
        · exact hpending
        · exact h.creating other held hold
      · rintro entry ⟨⟩
        exact hpending.covered.calls _
          ⟨rfl, rfl, rfl, hpending.timed, rfl, true, rfl, fun _ => rfl⟩
  | @arms pending hprepare hkind =>
      exact ⟨⟨h.service.arm (hawaits hprepare) none, h.creating, h.loop⟩, by simp⟩

-- The timer service asks for nothing but what it has been asked for.
theorem vouched_advance {label : Label} (h : Vouched warrant world)
    (hlabel : label.Within warrant)
    (hadvance : world.advance clock maximum label = some (after, call)) :
    Vouched warrant after ∧ ∀ entry ∈ call, warrant.calls entry.2 := by
  cases label with
  | create ticket request device => exact vouched_create h hlabel hadvance
  | createReturns ticket outcome =>
      obtain ⟨pending, hpending, hafter⟩ := Option.map_eq_some_iff.mp hadvance
      obtain ⟨rfl, rfl⟩ := Prod.mk.inj hafter
      refine ⟨⟨h.service.createResumes (h.creating ticket pending hpending) outcome,
        fun other held hheld => ?_, h.loop⟩, by simp⟩
      exact h.creating other held (OrderedDict.get?_erase_eq_some.mp hheld).2
  | cancel principal id =>
      obtain ⟨rfl, rfl⟩ := Prod.mk.inj (Option.some.inj hadvance)
      exact ⟨⟨h.service.cancel hlabel id, h.creating, h.loop⟩, by simp⟩
  | wake ticket =>
      simp only [World.advance] at hadvance
      split at hadvance
      · have hread : Vouches warrant (due clock world.service).1 :=
          ⟨h.service.timers, h.service.told⟩
        exact vouched_next h hread (fun timer htimer => h.service.armed (mem_due_iff.mp htimer).1)
          (Option.some.inj hadvance)
      · cases hadvance
  | loopReturns outcome ticket =>
      simp only [World.advance] at hadvance
      split at hadvance
      · next called current rest hloop =>
        have htimers : ∀ timer ∈ current :: rest, warrant.calls (fireCall timer) := by
          have hheld := h.loop
          rwa [World.loopTimers, hloop] at hheld
        obtain ⟨hcurrent, hrest⟩ := List.forall_mem_cons.mp htimers
        obtain ⟨status, failureCode, commandId, -, hsettle⟩ :=
          runResumes_settles clock world.service current outcome
        have hsettled : Vouches warrant (runResumes clock world.service current outcome) := by
          rw [hsettle]
          exact h.service.settle hcurrent status failureCode commandId (by simp)
        exact vouched_next h hsettled hrest (Option.some.inj hadvance)
      · cases hadvance
  | stop =>
      obtain ⟨rfl, rfl⟩ := Prod.mk.inj (Option.some.inj hadvance)
      exact ⟨⟨h.service, h.creating, by simp [World.loopTimers]⟩, by simp⟩
  | fire | fireReturns => exact hlabel.elim

theorem vouched_initial : Vouched warrant {} :=
  ⟨⟨by simp, by simp⟩, by simp, by simp [World.loopTimers]⟩

end World

end Schedules

end Homeflow
