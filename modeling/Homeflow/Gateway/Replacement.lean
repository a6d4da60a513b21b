import Homeflow.Commands.Returns
import Homeflow.Gateway.Gate
import Homeflow.Schedules.Calls
import Homeflow.Schedules.Disarmed

namespace Homeflow.Gateway

open Schedules (Firing PendingCreate Ticket made firings records)
open Schedules.ScheduleService (onCommand fireCall)

def Call.command? : Call → Option Uuid
  | .command id => some id
  | .refused _ => none

namespace World

-- The command a call of the timer service became.
def commandOf (world : World) (ticket : Ticket) : Option Uuid :=
  (world.calls.get? ticket).bind Call.command?

def Succeeded (world : World) (id : Uuid) : Prop :=
  ∃ final ∈ world.commands.returned.get? id, final.status = .succeeded

-- The commands the timer service asked for, with their devices.
def asked (world : World) : List (Uuid × Uuid) :=
  (made world.schedules.service.trace).filterMap fun entry =>
    (world.commandOf entry.1).map fun id => (id, entry.2.deviceId)

-- The calls of the adapters, in their order.
def executions (world : World) : List Uuid := Commands.executions world.commands.service.trace

end World

-- Commands on one device are executed in the order in which they were submitted.
def SubmissionOrder (world : World) : Prop :=
  ∀ first ∈ world.asked, ∀ second ∈ world.asked, first.2 = second.2 →
    [first.1, second.1].Sublist world.executions → first.1 ≤ second.1

def SameFunction (timer other : Schedule) : Prop :=
  timer.deviceId = other.deviceId ∧ timer.action = other.action

-- The firing of a timer armed before this one is executed after its on-command,
-- which succeeded.
def Undoes (world : World) (firing : Firing) (timer : Schedule) : Prop :=
  timer.status = .armed ∧ firing.timer.id < timer.id ∧ SameFunction firing.timer timer ∧
    ∃ on ∈ timer.commandId, world.Succeeded on ∧
      ∃ off ∈ world.commandOf firing.ticket, [on, off].Sublist world.executions

def Undone (world : World) : Prop :=
  ∃ timer ∈ records world.schedules.service.trace,
    ∃ firing ∈ firings world.schedules.service.trace, Undoes world firing timer

-- When create goes on after an on-command that succeeded, no timer of its function was
-- fired since that command was submitted, and none still waits in the due list.
def ReplacesQuietly (world : World) : Label → Prop
  | .createReturns ticket =>
      ∀ pending ∈ world.schedules.creating.get? ticket, ∀ on ∈ world.commandOf ticket,
        world.Succeeded on →
          (∀ firing ∈ firings world.schedules.service.trace,
            firing.timer.deviceId = pending.request.deviceId →
            firing.timer.action = pending.request.action →
            ∀ off ∈ world.commandOf firing.ticket, off < on) ∧
          ∀ timer ∈ world.schedules.waiting, timer.deviceId = pending.request.deviceId →
            timer.action ≠ pending.request.action
  | _ => True

section Decidable

variable (world : World)

instance (id : Uuid) : Decidable (world.Succeeded id) :=
  inferInstanceAs (Decidable (∃ final ∈ world.commands.returned.get? id, final.status = .succeeded))

instance : Decidable (SubmissionOrder world) :=
  inferInstanceAs (Decidable (∀ first ∈ world.asked, ∀ second ∈ world.asked, first.2 = second.2 →
    [first.1, second.1].Sublist world.executions → first.1 ≤ second.1))

instance (timer other : Schedule) : Decidable (SameFunction timer other) :=
  inferInstanceAs (Decidable (_ ∧ _))

instance (firing : Firing) (timer : Schedule) : Decidable (Undoes world firing timer) :=
  inferInstanceAs (Decidable (_ ∧ _ ∧ _ ∧ ∃ on ∈ timer.commandId, world.Succeeded on ∧
      ∃ off ∈ world.commandOf firing.ticket, [on, off].Sublist world.executions))

instance : Decidable (Undone world) :=
  inferInstanceAs (Decidable (∃ timer ∈ records world.schedules.service.trace,
    ∃ firing ∈ firings world.schedules.service.trace, Undoes world firing timer))

instance : ∀ label, Decidable (ReplacesQuietly world label)
  | .createReturns ticket =>
      inferInstanceAs (Decidable (∀ pending ∈ world.schedules.creating.get? ticket,
        ∀ on ∈ world.commandOf ticket, world.Succeeded on →
          (∀ firing ∈ firings world.schedules.service.trace,
            firing.timer.deviceId = pending.request.deviceId →
            firing.timer.action = pending.request.action →
            ∀ off ∈ world.commandOf firing.ticket, off < on) ∧
          ∀ timer ∈ world.schedules.waiting, timer.deviceId = pending.request.deviceId →
            timer.action ≠ pending.request.action))
  | .command _ | .create _ | .cancel _ _ | .wake | .loopReturns | .stop | .fire _
  | .fireReturns _ => isTrue trivial

end Decidable

-- No firing undoes this timer, and no call that could is still to be made.
structure Cleared (world : World) (timer : Schedule) (on : Uuid) : Prop where
  firings : ∀ firing ∈ firings world.schedules.service.trace, SameFunction firing.timer timer →
    firing.timer.id < timer.id → ∀ off ∈ world.commandOf firing.ticket, off < on
  active : ∀ other, world.schedules.Active other → SameFunction other timer → timer.id ≤ other.id

structure Replaced (world : World) : Prop where
  ended : Commands.Ended world.commands
  tidy : Schedules.Tidy world.schedules.service
  known : ∀ timer ∈ world.schedules.loopTimers, timer.id < world.schedules.service.ids
  tickets : ∀ entry ∈ made world.schedules.service.trace, entry.1 < world.tickets
  creating : ∀ ticket pending, world.schedules.creating.get? ticket = some pending →
    (ticket, onCommand pending) ∈ made world.schedules.service.trace
  calls : ∀ firing ∈ firings world.schedules.service.trace, firing.call = fireCall firing.timer
  turnedOn : ∀ timer ∈ records world.schedules.service.trace, timer.status = .armed →
    ∀ on ∈ timer.commandId, (world.commands.returned.get? on).isSome ∧
      (on, timer.deviceId) ∈ world.asked
  cleared : ∀ timer ∈ records world.schedules.service.trace, timer.status = .armed →
    ∀ on ∈ timer.commandId, world.Succeeded on → Cleared world timer on

variable {commandsClock schedulesClock : Nat → Time} {maximum : ℚ} {coercion : Coercion}
  {world after : World} {label : Label}

-- What holds of the calls and of the commands behind them across any step.
structure Goes (world after : World) : Prop where
  ended : Commands.Ended after.commands
  keeps : Commands.KeepsReturned world.commands after.commands
  commandOf : ∀ ticket < world.tickets, after.commandOf ticket = world.commandOf ticket
  kept : ∀ entry ∈ made world.schedules.service.trace, entry ∈ made after.schedules.service.trace
  tickets : ∀ entry ∈ made after.schedules.service.trace, entry.1 < after.tickets

theorem Goes.asked (h : Goes world after) (hworld : Replaced world) {entry : Uuid × Uuid}
    (hentry : entry ∈ world.asked) : entry ∈ after.asked := by
  obtain ⟨call, hcall, hcommand⟩ := List.mem_filterMap.mp hentry
  refine List.mem_filterMap.mpr ⟨call, h.kept call hcall, ?_⟩
  rwa [h.commandOf _ (hworld.tickets call hcall)]

theorem Goes.succeeded (h : Goes world after) {on : Uuid}
    (hon : (world.commands.returned.get? on).isSome) (hsucceeded : after.Succeeded on) :
    world.Succeeded on := by
  obtain ⟨final, hfinal⟩ := Option.isSome_iff_exists.mp hon
  obtain ⟨found, hfound, hstatus⟩ := hsucceeded
  obtain rfl := Option.some.inj ((h.keeps on final hfinal).symm.trans hfound)
  exact ⟨final, hfinal, hstatus⟩

theorem Replaced.ticket_lt (h : Replaced world) {firing : Firing}
    (hfiring : firing ∈ firings world.schedules.service.trace) : firing.ticket < world.tickets :=
  h.tickets _ (Schedules.made_of_firing hfiring)

theorem Replaced.commands (h : Replaced world) {commands : Commands.World}
    (hended : Commands.Ended commands)
    (hkeeps : Commands.KeepsReturned world.commands commands) :
    Replaced { world with commands } := by
  have hgoes : Goes world { world with commands } :=
    ⟨hended, hkeeps, fun _ _ => rfl, fun _ hentry => hentry, h.tickets⟩
  refine ⟨hended, h.tidy, h.known, h.tickets, h.creating, h.calls, ?_, ?_⟩
  · intro timer htimer harmed on hon
    obtain ⟨hreturned, hasked⟩ := h.turnedOn timer htimer harmed on hon
    obtain ⟨final, hfinal⟩ := Option.isSome_iff_exists.mp hreturned
    exact ⟨Option.isSome_iff_exists.mpr ⟨final, hkeeps on final hfinal⟩, hasked⟩
  · intro timer htimer harmed on hon hsucceeded
    have hreturned := (h.turnedOn timer htimer harmed on hon).1
    obtain ⟨hfirings, hactive⟩ :=
      h.cleared timer htimer harmed on hon (hgoes.succeeded hreturned hsucceeded)
    exact ⟨hfirings, hactive⟩

theorem advance_ticket {world : Schedules.World} {timer : Schedules.Label}
    {stepped : Schedules.Stepped} {ticket : Ticket}
    (htimer : match timer with
      | .create found _ _ | .wake found | .loopReturns _ found | .fire found _ => found = ticket
      | .createReturns _ _ | .cancel _ _ | .stop | .fireReturns _ _ => True)
    (h : world.advance schedulesClock maximum timer = some stepped) :
    ∀ entry ∈ stepped.2, entry.1 = ticket := by
  have hnext (held : Schedules.World) (due : List Schedule) :
      ∀ entry ∈ (held.next schedulesClock ticket due).2, entry.1 = ticket := by
    intro entry hentry
    cases due with
    | nil => cases hentry
    | cons timer rest =>
        obtain rfl := Option.some.inj hentry
        rfl
  cases timer with
  | create found request device =>
      subst htimer
      cases Schedules.creates_of_advance h with
      | refused | arms => simp
      | submits => simp
  | wake found =>
      subst htimer
      simp only [Schedules.World.advance] at h
      split at h
      · obtain rfl := Option.some.inj h
        exact hnext _ _
      · cases h
  | loopReturns outcome found =>
      subst htimer
      simp only [Schedules.World.advance] at h
      split at h
      · obtain rfl := Option.some.inj h
        exact hnext _ _
      · cases h
  | fire found schedule =>
      subst htimer
      simp only [Schedules.World.advance] at h
      split at h
      · cases h
      · cases h
        simp
  | createReturns | fireReturns =>
      obtain ⟨_, -, rfl⟩ := Option.map_eq_some_iff.mp h
      simp
  | cancel | stop =>
      obtain rfl := Option.some.inj h
      simp

-- The new call of a step of the timer service gets a ticket of its own.
theorem new_ticket {timer : Schedules.Label} {stepped : Schedules.Stepped}
    (htimer : world.timers label = some timer)
    (hstepped : world.schedules.advance schedulesClock maximum timer = some stepped) :
    ∀ entry ∈ stepped.2, entry.1 = world.tickets := by
  refine advance_ticket ?_ hstepped
  cases label with
  | command inner => cases htimer
  | create | wake | fire | cancel | stop =>
      obtain rfl := Option.some.inj htimer
      trivial
  | createReturns | fireReturns =>
      obtain ⟨outcome, -, rfl⟩ := Option.map_eq_some_iff.mp htimer
      trivial
  | loopReturns =>
      simp only [World.timers] at htimer
      split at htimer
      · obtain ⟨outcome, -, rfl⟩ := Option.map_eq_some_iff.mp htimer
        trivial
      · cases htimer

theorem timers_direct {timer : Schedules.Label} (hdirect : label.direct = false)
    (htimer : world.timers label = some timer) : timer.direct = false := by
  cases label with
  | command inner => cases htimer
  | fire | fireReturns => cases hdirect
  | create | wake | cancel | stop =>
      obtain rfl := Option.some.inj htimer
      rfl
  | createReturns =>
      obtain ⟨outcome, -, rfl⟩ := Option.map_eq_some_iff.mp htimer
      rfl
  | loopReturns =>
      simp only [World.timers] at htimer
      split at htimer
      · obtain ⟨outcome, -, rfl⟩ := Option.map_eq_some_iff.mp htimer
        rfl
      · cases htimer

theorem Replaced.goes (h : Replaced world) {timer : Schedules.Label}
    {stepped : Schedules.Stepped} (htimer : world.timers label = some timer)
    (hstepped : world.schedules.advance schedulesClock maximum timer = some stepped) :
    Goes world (world.submits commandsClock coercion stepped) := by
  have hmade := Schedules.advance_made hstepped
  have hticket := new_ticket htimer hstepped
  obtain ⟨schedules, call⟩ := stepped
  cases call with
  | none =>
      simp only [Option.toList_none, List.append_nil] at hmade
      exact ⟨h.ended, fun _ _ hfinal => hfinal, fun _ _ => rfl,
        fun entry hentry => hmade.symm ▸ hentry,
        fun entry hentry => h.tickets entry (hmade ▸ hentry)⟩
  | some call =>
      obtain ⟨ticket, call⟩ := call
      obtain rfl : ticket = world.tickets := hticket _ rfl
      have hinner : Commands.World.step commandsClock coercion world.commands (.submit call) =
          some (world.commands.submit commandsClock coercion call).1 := rfl
      obtain ⟨hended, hkeeps⟩ := Commands.ended_step h.ended hinner
      refine ⟨hended, hkeeps, fun ticket hlt => ?_, fun entry hentry => ?_, fun entry hentry => ?_⟩
      · simp only [World.commandOf, World.submits,
          OrderedDict.get?_set_of_ne (Nat.ne_of_lt hlt)]
      · exact hmade.symm ▸ List.mem_append_left _ hentry
      · rw [World.submits, hmade, List.mem_append, Option.toList_some, List.mem_singleton] at hentry
        rcases hentry with hentry | rfl
        · exact Nat.lt_succ_of_lt (h.tickets entry hentry)
        · exact Nat.lt_succ_self _

theorem outcome_returned {ticket : Ticket} {command : Command}
    (h : world.outcome ticket = some (.returned command)) :
    ∃ id, world.commandOf ticket = some id ∧ world.commands.returned.get? id = some command := by
  unfold World.outcome at h
  split at h
  · cases h
  · rename_i id hcall
    obtain ⟨found, hfound, hsame⟩ := Option.map_eq_some_iff.mp h
    obtain rfl := SubmitOutcome.returned.inj hsame
    exact ⟨id, by simp [World.commandOf, hcall, Call.command?], hfound⟩
  · cases h

-- The on-command of a timer that replaces others is the one its create waited for.
theorem Replaced.on_command (h : Replaced world) {inner : Schedules.Label}
    {schedules : Schedules.World} {timer : Schedule} {on : Uuid} {ticket : Ticket}
    {command : Command} {pending : PendingCreate} (htimer : world.timers label = some inner)
    (hreplaces : Schedules.Replaces world.schedules schedules inner timer on ticket command
      pending) :
    label = .createReturns ticket ∧ world.commandOf ticket = some on ∧
      world.commands.returned.get? on = some command := by
  obtain rfl := hreplaces.label
  cases label with
  | createReturns found =>
      obtain ⟨outcome, houtcome, hlabel⟩ := Option.map_eq_some_iff.mp htimer
      obtain ⟨rfl, rfl⟩ := Schedules.Label.createReturns.inj hlabel
      obtain ⟨id, hcommand, hreturned⟩ := outcome_returned houtcome
      obtain rfl : on = id := hreplaces.on.trans (h.ended.named id command hreturned)
      exact ⟨rfl, hcommand, hreturned⟩
  | loopReturns =>
      simp only [World.timers] at htimer
      split at htimer
      · obtain ⟨_, -, hlabel⟩ := Option.map_eq_some_iff.mp htimer
        cases hlabel
      · cases htimer
  | fireReturns =>
      obtain ⟨_, -, hlabel⟩ := Option.map_eq_some_iff.mp htimer
      cases hlabel
  | command | create | cancel | wake | stop | fire => cases htimer

-- A later call of the loop is for a timer that is not older.
theorem cleared_kept {timer : Schedule} {on : Uuid} (h : Cleared world timer on)
    {inner : Schedules.Label}
    (hadvanced : Schedules.Advanced world.schedules after.schedules inner)
    (hcommandOf : ∀ firing ∈ firings world.schedules.service.trace,
      after.commandOf firing.ticket = world.commandOf firing.ticket)
    (hknown : timer.id < world.schedules.service.ids) : Cleared after timer on := by
  refine ⟨fun firing hfiring hsame hlt => ?_, fun other hother hsame => ?_⟩
  · rcases hadvanced.firings firing hfiring with hfired | ⟨hfired, -⟩
    · rw [hcommandOf firing hfired]
      exact h.firings firing hfired hsame hlt
    · exact absurd (h.active _ hfired hsame) (Nat.not_le_of_lt hlt)
  · rcases hadvanced.active other hother with hactive | hnew
    · exact h.active other hactive hsame
    · rw [hnew]
      exact Nat.le_of_lt hknown

-- A timer that replaces others quietly is the only one of its function.
theorem cleared_new {inner : Schedules.Label} {timer : Schedule} {on : Uuid} {ticket : Ticket}
    {command : Command} {pending : PendingCreate}
    (hreplaces : Schedules.Replaces world.schedules after.schedules inner timer on ticket command
      pending)
    (hcommandOf : ∀ firing ∈ firings world.schedules.service.trace,
      after.commandOf firing.ticket = world.commandOf firing.ticket)
    (hquiet : (∀ firing ∈ firings world.schedules.service.trace,
        firing.timer.deviceId = pending.request.deviceId →
        firing.timer.action = pending.request.action →
        ∀ off ∈ world.commandOf firing.ticket, off < on) ∧
      ∀ timer ∈ world.schedules.waiting, timer.deviceId = pending.request.deviceId →
        timer.action ≠ pending.request.action) : Cleared after timer on := by
  obtain ⟨hfirings, hwaiting⟩ := hquiet
  refine ⟨fun firing hfiring hsame _ => ?_, fun other hother hsame => ?_⟩
  · rw [hreplaces.firings] at hfiring
    rw [hcommandOf firing hfiring]
    exact hfirings firing hfiring (hsame.1.trans hreplaces.deviceId)
      (hsame.2.trans hreplaces.action)
  · rcases hother with harmed | hwaits
    · rw [hreplaces.armed other harmed hsame.1 hsame.2]
    · rw [hreplaces.waiting] at hwaits
      exact absurd (hsame.2.trans hreplaces.action)
        (hwaiting other hwaits (hsame.1.trans hreplaces.deviceId))

theorem Replaced.step_timers (h : Replaced world) (hdirect : label.direct = false)
    (hguard : ReplacesQuietly world label) (hcommand : ∀ inner, label ≠ .command inner)
    (hstep : World.step commandsClock schedulesClock maximum coercion world label = some after) :
    Replaced after := by
  obtain ⟨inner, stepped, htimer, hstepped, rfl, -⟩ := Gateway.step_timers hcommand hstep
  have hgoes : Goes world (world.submits commandsClock coercion stepped) := h.goes htimer hstepped
  have hschedules : (world.submits commandsClock coercion stepped).schedules = stepped.1 := by
    obtain ⟨schedules, _ | call⟩ := stepped <;> rfl
  have hinner : Schedules.World.step schedulesClock maximum world.schedules inner =
      some (world.submits commandsClock coercion stepped).schedules := by
    rw [hschedules, Schedules.World.step, hstepped]
    rfl
  have hadvanced := Schedules.advanced_step h.tidy h.known (timers_direct hdirect htimer) hinner
  generalize world.submits commandsClock coercion stepped = after at hgoes hadvanced
  have hcommandOf : ∀ firing ∈ firings world.schedules.service.trace,
      after.commandOf firing.ticket = world.commandOf firing.ticket :=
    fun firing hfiring => hgoes.commandOf _ (h.ticket_lt hfiring)
  refine ⟨hgoes.ended, hadvanced.tidy, hadvanced.known, hgoes.tickets, ?_, ?_, ?_, ?_⟩
  · intro ticket pending hpending
    rcases hadvanced.creating ticket pending hpending with hold | hnew
    · exact hgoes.kept _ (h.creating ticket pending hold)
    · exact List.mem_filterMap.mpr ⟨_, hnew, rfl⟩
  · intro firing hfiring
    rcases hadvanced.firings firing hfiring with hold | ⟨-, hcall⟩
    · exact h.calls firing hold
    · exact hcall
  · intro timer htimerRecord harmed on hon
    rcases hadvanced.records timer htimerRecord harmed on hon with
      hold | ⟨ticket, command, pending, hreplaces⟩
    · obtain ⟨hreturned, hasked⟩ := h.turnedOn timer hold harmed on hon
      obtain ⟨final, hfinal⟩ := Option.isSome_iff_exists.mp hreturned
      exact ⟨Option.isSome_iff_exists.mpr ⟨final, hgoes.keeps on final hfinal⟩,
        hgoes.asked h hasked⟩
    · obtain ⟨-, hcommandOn, hreturned⟩ := h.on_command htimer hreplaces
      have hmade := h.creating ticket pending hreplaces.creating
      refine ⟨Option.isSome_iff_exists.mpr ⟨command, hgoes.keeps on command hreturned⟩, ?_⟩
      refine hgoes.asked h (List.mem_filterMap.mpr ⟨_, hmade, ?_⟩)
      rw [hcommandOn, hreplaces.deviceId]
      rfl
  · intro timer htimerRecord harmed on hon hsucceeded
    rcases hadvanced.records timer htimerRecord harmed on hon with
      hold | ⟨ticket, command, pending, hreplaces⟩
    · have hreturned := (h.turnedOn timer hold harmed on hon).1
      have hcleared := h.cleared timer hold harmed on hon (hgoes.succeeded hreturned hsucceeded)
      exact cleared_kept hcleared hadvanced hcommandOf (h.tidy.known timer hold)
    · obtain ⟨rfl, hcommandOn, hreturned⟩ := h.on_command htimer hreplaces
      have hbefore : world.Succeeded on :=
        hgoes.succeeded (Option.isSome_iff_exists.mpr ⟨command, hreturned⟩) hsucceeded
      exact cleared_new hreplaces hcommandOf
        (hguard pending hreplaces.creating on hcommandOn hbefore)

theorem replaced_step (h : Replaced world) (hdirect : label.direct = false)
    (hguard : ReplacesQuietly world label)
    (hstep : World.step commandsClock schedulesClock maximum coercion world label = some after) :
    Replaced after := by
  by_cases hlabel : ∃ inner, label = .command inner
  · obtain ⟨inner, rfl⟩ := hlabel
    obtain ⟨commands, hinner, rfl⟩ := Option.map_eq_some_iff.mp hstep
    obtain ⟨hended, hkeeps⟩ := Commands.ended_step h.ended hinner
    exact h.commands hended hkeeps
  · exact h.step_timers hdirect hguard (fun inner hinner => hlabel ⟨inner, hinner⟩) hstep

theorem replaced_initial (registry : DeviceRegistry) (providers : List String) :
    Replaced (initial registry providers) := by
  refine ⟨Commands.ended_initial registry providers, Schedules.tidy_initial, ?_, ?_, ?_, ?_, ?_,
    ?_⟩ <;>
    simp [initial, Schedules.World.loopTimers, made, firings, records]

-- In a run of the loop with calls of create and cancel and any commands, no firing of a
-- timer is executed after the on-command of the timer that replaced it, as long as
-- every such on-command that succeeds does so before the next firing is submitted.
theorem replacement_never_undone {registry : DeviceRegistry} {providers : List String}
    {labels : List Label}
    (hrun : Machine.run (World.step commandsClock schedulesClock maximum coercion)
      (initial registry providers) labels = some world)
    (hloop : ∀ label ∈ labels, label.direct = false) (horder : SubmissionOrder world)
    (hguard : Machine.Guarded (World.step commandsClock schedulesClock maximum coercion)
      ReplacesQuietly (initial registry providers) labels) :
    ¬Undone world := by
  have hguarded := hguard.and (Machine.guarded_of_forall hloop)
  have hreplaced : Replaced world := Machine.guarded_invariant (replaced_initial _ _)
    (fun _ _ _ hbefore hlabel hstep => replaced_step hbefore hlabel.2 hlabel.1 hstep) hrun hguarded
  rintro ⟨timer, htimer, firing, hfiring, harmed, hlt, hsame, on, hon, hsucceeded, off, hoff,
    hafter⟩
  have hbefore := (hreplaced.cleared timer htimer harmed on hon hsucceeded).firings firing hfiring
    hsame hlt off hoff
  have hasked : (off, firing.timer.deviceId) ∈ world.asked := by
    refine List.mem_filterMap.mpr ⟨_, Schedules.made_of_firing hfiring, ?_⟩
    rw [hreplaced.calls firing hfiring, Option.mem_def.mp hoff]
    rfl
  have hasksOn := (hreplaced.turnedOn timer htimer harmed on hon).2
  exact absurd (horder _ hasksOn _ hasked hsame.1.symm hafter) (Nat.not_le_of_lt hbefore)

def pump : ProviderDevice :=
  { ref := ⟨"demo", ""⟩, suggestedName := "Pool", kind := .pool,
    capabilities := [.heating, .filter] }

def pool : DeviceRegistry :=
  DeviceRegistry.empty.register Commands.lampUuid (fun _ => 0) pump Commands.lampState

def heatForHalfAnHour : Label := .create (Schedules.halfHourTimer .setHeater .runFor)

def applied (id : Uuid) : Label :=
  .command (.executeReturns id (.returned { outcome := .applied }))

-- The second request is answered before the first one's timer is fired.
def replacedInTime : List Label :=
  [heatForHalfAnHour, applied 0, .createReturns 0, heatForHalfAnHour, applied 1, .createReturns 1,
    .wake, applied 2, .loopReturns]

theorem replacement_never_undone_in_time :
    ∃ world, Machine.run (World.step (fun _ => 0) Schedules.halfHourly 24 Commands.strict)
        (initial pool ["demo"]) replacedInTime = some world ∧ ¬Undone world := by
  obtain ⟨world, hrun, horder⟩ := (Option.any_eq_true _ _).mp
    (show (Machine.run (World.step (fun _ => 0) Schedules.halfHourly 24 Commands.strict)
      (initial pool ["demo"]) replacedInTime).any (fun world => decide (SubmissionOrder world)) =
        true by decide +kernel)
  exact ⟨world, hrun, replacement_never_undone hrun (by decide) (of_decide_eq_true horder)
    (by decide +kernel)⟩

-- The first one's timer is fired while the second request waits for its on-command: the
-- firing waits for the device and is executed after the new timer was armed.
def replacedTooLate : List Label :=
  [heatForHalfAnHour, applied 0, .createReturns 0, heatForHalfAnHour, .wake, applied 1,
    .createReturns 1, .command (.enter 2)]

theorem replaced_timer_undoes :
    ∃ world, Machine.run (World.step (fun _ => 0) Schedules.halfHourly 24 Commands.strict)
        (initial pool ["demo"]) replacedTooLate = some world ∧
      (∀ label ∈ replacedTooLate, label.direct = false) ∧ SubmissionOrder world ∧ Undone world := by
  obtain ⟨world, hrun, hfails⟩ := (Option.any_eq_true _ _).mp
    (show (Machine.run (World.step (fun _ => 0) Schedules.halfHourly 24 Commands.strict)
      (initial pool ["demo"]) replacedTooLate).any
        (fun world => decide (SubmissionOrder world ∧ Undone world)) = true by decide +kernel)
  exact ⟨world, hrun, by decide, of_decide_eq_true hfails⟩

end Homeflow.Gateway
