import Homeflow.Commands.Serial
import Mathlib.Data.List.Perm.Subperm

namespace Homeflow.Commands

open CommandService

-- The table of the records once one of them is stored.
def recorded (table : OrderedDict Uuid Command) (command : Command) : OrderedDict Uuid Command :=
  let stored := (table.set command.id command).moveToEnd command.id
  dropOldest (stored.length - MAX_TRACKED_COMMANDS) stored

-- The record that is forgotten for a new one.
def forgotten (table : OrderedDict Uuid Command) (id : Uuid) : Option Uuid :=
  if id ∈ table.keys ∨ table.length < MAX_TRACKED_COMMANDS then none else table.keys.head?

-- Each command in flight is found, with the status it has.
def Retrievable (world : World) : Prop :=
  ∀ id task, world.tasks.get? id = some task →
    world.service.get id = .ok task.running ∧ task.running.status = .running

-- A command that is created while the table is full makes the service forget none in flight.
def ForgetsReturned (coercion : Coercion) (world : World) (label : Label) : Prop :=
  ∀ call accepted, label = .submit call → Accepts coercion world.service.registry call accepted →
    MAX_TRACKED_COMMANDS ≤ world.service.commands.length →
    ∀ id, world.service.commands.keys.head? = some id → world.tasks.get? id = none

section Recorded

variable {table : OrderedDict Uuid Command} {command : Command}

theorem maxTracked_pos : 0 < MAX_TRACKED_COMMANDS := by
  unfold MAX_TRACKED_COMMANDS
  decide

theorem length_stored (table : OrderedDict Uuid Command) (command : Command) :
    ((table.set command.id command).moveToEnd command.id).length =
      (table.erase command.id).length + 1 := by
  rw [← OrderedDict.length_keys, OrderedDict.keys_moveToEnd_set_eq, List.length_append,
    OrderedDict.length_keys, List.length_singleton]

theorem length_erase_lt {id : Uuid} (h : id ∈ table.keys) :
    (table.erase id).length < table.length := by
  obtain ⟨entry, hentry, rfl⟩ := List.mem_map.mp h
  exact List.length_filter_lt_length_iff_exists.mpr ⟨entry, hentry, by simp⟩

theorem erase_of_notMem {id : Uuid} (h : id ∉ table.keys) : table.erase id = table := by
  ext1
  refine List.filter_eq_self.mpr fun entry hentry => ?_
  have hne : entry.1 ≠ id := fun he => h (he ▸ List.mem_map_of_mem hentry)
  simpa using hne

-- One record at most is forgotten, and never the one that was just stored.
theorem get?_recorded (hbounded : table.length ≤ MAX_TRACKED_COMMANDS) (command : Command)
    (id : Uuid) : (recorded table command).get? id =
      if id = command.id then some command
      else if forgotten table command.id = some id then none else table.get? id := by
  have hstored : ((table.set command.id command).moveToEnd command.id).get? id =
      if id = command.id then some command else table.get? id := by
    rw [OrderedDict.get?_moveToEnd, OrderedDict.get?_set]
  have hlength := length_stored table command
  by_cases hkept : command.id ∈ table.keys ∨ table.length < MAX_TRACKED_COMMANDS
  · have hnone : ((table.set command.id command).moveToEnd command.id).length -
        MAX_TRACKED_COMMANDS = 0 := by
      rw [hlength]
      rcases hkept with hmem | hlt
      · have hshorter := length_erase_lt hmem
        omega
      · have hle : (table.erase command.id).length ≤ table.length := List.length_filter_le _ _
        omega
    rw [recorded, hnone, dropOldest, hstored, forgotten, if_pos hkept]
    simp
  · obtain ⟨hnew, hfull⟩ := not_or.mp hkept
    have hpos := maxTracked_pos
    have hone : ((table.set command.id command).moveToEnd command.id).length -
        MAX_TRACKED_COMMANDS = 1 := by
      rw [hlength, erase_of_notMem hnew]
      omega
    have hne : table.keys ≠ [] := by
      rw [← List.length_pos_iff, OrderedDict.length_keys]
      omega
    have hhead : ((table.set command.id command).moveToEnd command.id).keys.head? =
        table.keys.head? := by
      rw [OrderedDict.keys_moveToEnd_set_eq, erase_of_notMem hnew,
        List.head?_append_of_ne_nil _ hne]
    have hother : table.keys.head? = some id → id ≠ command.id := fun h he =>
      hnew (he ▸ List.mem_of_head? h)
    rw [recorded, hone, dropOldest, dropOldest, OrderedDict.get?_popFirst, hhead, hstored,
      forgotten, if_neg hkept]
    by_cases hfirst : table.keys.head? = some id
    · rw [if_pos hfirst, if_pos hfirst, if_neg (hother hfirst)]
    · rw [if_neg hfirst, if_neg hfirst]

theorem length_dropOldest (excess : Nat) (table : OrderedDict Uuid Command) :
    (dropOldest excess table).length = table.length - excess := by
  induction excess generalizing table with
  | zero => rfl
  | succ excess ih =>
      have hpop : table.popFirst.length = table.length - 1 := List.length_tail
      rw [dropOldest, ih, hpop]
      omega

theorem length_recorded (table : OrderedDict Uuid Command) (command : Command) :
    (recorded table command).length ≤ MAX_TRACKED_COMMANDS := by
  rw [recorded, length_dropOldest]
  omega

-- A record that is stored once more takes no other's place.
theorem get?_recorded_again (hbounded : table.length ≤ MAX_TRACKED_COMMANDS) {again : Command}
    (hsame : again.id = command.id) (id : Uuid) :
    (recorded (recorded table command) again).get? id =
      if id = command.id then some again
      else if forgotten table command.id = some id then none else table.get? id := by
  have hheld : again.id ∈ (recorded table command).keys := by
    by_contra hmissing
    have hnone := (OrderedDict.get?_eq_none_iff _ _).mpr hmissing
    rw [get?_recorded hbounded, if_pos hsame] at hnone
    cases hnone
  have hkept : forgotten (recorded table command) again.id = none := if_pos (.inl hheld)
  rw [get?_recorded (length_recorded _ _), hkept, get?_recorded hbounded, hsame]
  by_cases he : id = command.id
  · rw [if_pos he, if_pos he]
  · simp [he]

end Recorded

section Service

variable {clock : Nat → Time} {coercion : Coercion} {service : CommandService}

theorem commands_finish (command : Command) (status : CommandStatus)
    (failureCode : Option String) :
    (finish clock service command status failureCode).1.commands =
        recorded service.commands (finish clock service command status failureCode).2 ∧
      (finish clock service command status failureCode).2.id = command.id := by
  have hid : (command.withStatus status (clock service.reads) failureCode).id = command.id := by
    unfold Command.withStatus
    split <;> rfl
  unfold finish
  cases COMPLETION_EVENTS status <;> exact ⟨rfl, hid⟩

theorem commands_ingestResult (running : Command) (ref : ProviderDeviceRef)
    (result : ProviderCommandResult) :
    (ingestResult clock service running ref result).commands = service.commands := by
  unfold ingestResult
  cases result.state <;> rfl

theorem commands_afterExecute {running : Command} {ref : ProviderDeviceRef}
    {outcome : AdapterOutcome ProviderCommandResult} {ended : CommandService × Command}
    (h : afterExecute clock service running ref outcome = some ended) :
    ended.1.commands = recorded service.commands ended.2 ∧ ended.2.id = running.id := by
  cases outcome with
  | returned result =>
      obtain rfl := Option.some.inj h
      have hingested := @commands_ingestResult clock service running ref result
      unfold settle
      cases result.outcome <;> (rw [← hingested]; exact commands_finish _ _ _)
  | raised error =>
      cases error with
      | timeoutError => cases h
      | providerError failureCode | other =>
          obtain rfl := Option.some.inj h
          exact commands_finish _ _ _
  | deadline => cases h

theorem commands_afterGetState (running : Command) (ref : ProviderDeviceRef)
    (params : CommandParams) (outcome : AdapterOutcome ProviderState) :
    (afterGetState clock service running ref params outcome).1.commands =
        recorded service.commands
          (afterGetState clock service running ref params outcome).2 ∧
      (afterGetState clock service running ref params outcome).2.id = running.id := by
  cases outcome with
  | returned observed =>
      simp only [afterGetState]
      split <;> exact @commands_finish clock
        (ingest clock service ref observed .providerSnapshot (some running.correlationId)) _ _ _
  | raised error | deadline => exact commands_finish _ _ _

theorem commands_check (call : SubmitCall) :
    (check clock coercion service call).1.commands = service.commands := by
  rcases check_denies clock coercion service call with hsame | ⟨device, reason, hdenied⟩
  · rw [hsame]
  · rw [hdenied]
    rfl

theorem commands_create (call : SubmitCall) (accepted : Accepted) :
    (create clock service call accepted).1.commands =
      recorded service.commands (create clock service call accepted).2 := rfl

theorem start_id (command : Command) : (start clock service command).2.id = command.id := rfl

theorem commands_join (world : World) (command : Command) (ref : ProviderDeviceRef)
    (params : CommandParams) :
    (world.join clock command ref params).service.commands =
        recorded world.service.commands (start clock world.service command).2 ∧
      ∃ task, (world.join clock command ref params).tasks = world.tasks.set command.id task ∧
        task.running = (start clock world.service command).2 := by
  refine ⟨?_, _, rfl, rfl⟩
  unfold World.join
  dsimp only
  rw [deviceLock_rest]
  split <;> rfl

end Service

-- The table is never longer than it may be, and no command is stored before it is created.
structure Stored (world : World) : Prop where
  bounded : world.service.commands.length ≤ MAX_TRACKED_COMMANDS
  known : ∀ id, (world.service.commands.get? id).isSome = true → id < world.service.ids
  running : ∀ id task, world.tasks.get? id = some task → task.running.status = .running

section Step

variable {clock : Nat → Time} {coercion : Coercion} {world after : World}

theorem get_eq_ok {service : CommandService} {id : Uuid} {command : Command} :
    service.get id = .ok command ↔ service.commands.get? id = some command := by
  unfold CommandService.get
  cases service.commands.get? id <;> simp

theorem Stored.same (h : Stored world) (hcommands : after.service.commands = world.service.commands)
    (hids : after.service.ids = world.service.ids)
    (htasks : ∀ id task, after.tasks.get? id = some task →
      ∃ old, world.tasks.get? id = some old ∧ task.running = old.running) : Stored after := by
  refine ⟨hcommands ▸ h.bounded, fun id hid => ?_, fun id task htask => ?_⟩
  · rw [hcommands] at hid
    exact (h.known id hid).trans_le hids.ge
  · obtain ⟨old, hold, hrunning⟩ := htasks id task htask
    rw [hrunning]
    exact h.running id old hold

theorem Stored.recorded (h : Stored world) {last : Command}
    (hcommands : after.service.commands = Commands.recorded world.service.commands last)
    (hids : world.service.ids ≤ after.service.ids) (hlast : last.id < after.service.ids)
    (htasks : ∀ id task, after.tasks.get? id = some task → task.running.status = .running) :
    Stored after := by
  refine ⟨hcommands ▸ length_recorded _ _, fun id hid => ?_, htasks⟩
  rw [hcommands, get?_recorded h.bounded] at hid
  split at hid
  · next he => exact he ▸ hlast
  · split at hid
    · cases hid
    · exact (h.known id hid).trans_le hids

theorem Stored.created (h : Stored world) (call : SubmitCall) (accepted : Accepted) :
    Stored { world with service := (world.service.create clock call accepted).1 } := by
  exact h.recorded (commands_create call accepted) (Nat.le_succ _) (Nat.lt_succ_self _) h.running

theorem stored_step {label : Label} (h : Stored world) (hlocked : Locked world)
    (hstep : World.step clock coercion world label = some after) : Stored after := by
  cases step_moved hstep with
  | @refused call service error hcheck =>
      have hcommands := @commands_check clock coercion world.service call
      have hids := (frame_check clock coercion world.service call).ids
      rw [hcheck] at hcommands hids
      exact h.same hcommands hids fun id task htask => ⟨task, htask, rfl⟩
  | @unwired call accepted ref =>
      have hcreated := @Stored.created clock world h call accepted
      obtain ⟨hcommands, hid⟩ := @commands_finish clock
        (world.service.create clock call accepted).1 (world.service.create clock call accepted).2
        .failed (some "provider_unavailable")
      have hids := (frame_finish clock (world.service.create clock call accepted).1
        (world.service.create clock call accepted).2 .failed (some "provider_unavailable")).ids
      refine hcreated.recorded hcommands hids.ge ?_ h.running
      rw [hid]
      exact (Nat.lt_succ_self _).trans_le hids.ge
  | @joined call accepted ref =>
      have hcreated := @Stored.created clock world h call accepted
      obtain ⟨hcommands, task, htasks, hrunning⟩ := @commands_join clock
        { world with service := (world.service.create clock call accepted).1 }
        (world.service.create clock call accepted).2 ref accepted.params
      have hids := join_ids clock
        ({ world with service := (world.service.create clock call accepted).1 } : World)
        (world.service.create clock call accepted).2 ref accepted.params
      refine hcreated.recorded hcommands hids.ge ?_ fun id held hheld => ?_
      · exact (Nat.lt_succ_self _).trans_le hids.ge
      · rw [htasks] at hheld
        rcases OrderedDict.get?_set_eq_some.mp hheld with ⟨-, rfl⟩ | ⟨-, hold⟩
        · rw [hrunning]
          rfl
        · exact h.running id held hold
  | entered htask | timedOut htask =>
      exact h.same rfl rfl fun other held hheld => held_rephase htask hheld
  | @ended id task outcome result htask _ hended =>
      obtain ⟨hcommands, hid⟩ := commands_afterExecute hended
      have hids := (frame_afterExecute clock _ hended).ids
      refine h.recorded hcommands hids.ge ?_ fun other held hheld =>
        h.running other held (OrderedDict.get?_erase_eq_some.mp hheld).2
      rw [hid, hlocked.running_id id task htask]
      exact (hlocked.known id task htask).trans_le hids.ge
  | @reconciled id task outcome htask =>
      obtain ⟨hcommands, hid⟩ := @commands_afterGetState clock
        (world.service.emit (.readBackEnded id outcome)) task.running task.ref task.params outcome
      have hids := (frame_afterGetState clock (world.service.emit (.readBackEnded id outcome))
        task.running task.ref task.params outcome).ids
      refine h.recorded hcommands hids.ge ?_ fun other held hheld =>
        h.running other held (OrderedDict.get?_erase_eq_some.mp hheld).2
      rw [hid, hlocked.running_id id task htask]
      exact (hlocked.known id task htask).trans_le hids.ge
  | abandoned | interrupted =>
      exact h.same rfl rfl fun other held hheld => held_erase hheld
  | ingested => exact h.same rfl rfl fun id task htask => ⟨task, htask, rfl⟩

theorem Retrievable.same (h : Retrievable world)
    (hcommands : after.service.commands = world.service.commands)
    (htasks : ∀ id task, after.tasks.get? id = some task →
      ∃ old, world.tasks.get? id = some old ∧ task.running = old.running) : Retrievable after := by
  intro id task htask
  obtain ⟨old, hold, hrunning⟩ := htasks id task htask
  rw [get_eq_ok, hcommands, ← get_eq_ok, hrunning]
  exact h id old hold

-- A command that returns takes no other's place: its own record is there.
theorem Retrievable.ended (h : Retrievable world) (hstored : Stored world) {id : Uuid} {task : Task}
    {last : Command} (htask : world.tasks.get? id = some task) (hlast : last.id = id)
    (hcommands : after.service.commands = Commands.recorded world.service.commands last)
    (htasks : after.tasks = world.tasks.erase id) : Retrievable after := by
  intro other held hheld
  obtain ⟨hne, hold⟩ := OrderedDict.get?_erase_eq_some.mp (htasks ▸ hheld)
  have hown := get_eq_ok.mp (h id task htask).1
  have hmem : last.id ∈ world.service.commands.keys :=
    hlast ▸ List.mem_map_of_mem ((OrderedDict.get?_eq_some_iff _ _ _).mp hown)
  have hkept : forgotten world.service.commands last.id = none := if_pos (.inl hmem)
  rw [get_eq_ok, hcommands, get?_recorded hstored.bounded, hkept, if_neg (hlast ▸ hne),
    if_neg (by simp), ← get_eq_ok]
  exact h other held hold

-- A command is created: its record is there, and one other at most is forgotten.
structure Created (world after : World) (last : Command) : Prop where
  commands : ∀ id, after.service.commands.get? id =
    if id = world.service.ids then some last
    else if forgotten world.service.commands world.service.ids = some id then none
    else world.service.commands.get? id
  others : ∀ id task, id ≠ world.service.ids →
    (after.tasks.get? id = some task ↔ world.tasks.get? id = some task)
  own : ∀ task, after.tasks.get? world.service.ids = some task →
    task.running = last ∧ task.running.status = .running

theorem Created.retrievable {call : SubmitCall} {accepted : Accepted} {last : Command}
    (h : Created world after last) (hstored : Stored world) (hlocked : Locked world)
    (hbefore : Retrievable world)
    (haccepts : Accepts coercion world.service.registry call accepted) :
    Retrievable after ↔ ForgetsReturned coercion world (.submit call) := by
  have hnew : world.service.ids ∉ world.service.commands.keys := by
    intro hmem
    have hsome : (world.service.commands.get? world.service.ids).isSome = true := by
      by_contra hnone
      exact (OrderedDict.get?_eq_none_iff _ _).mp (Option.not_isSome_iff_eq_none.mp hnone) hmem
    exact absurd (hstored.known _ hsome) (lt_irrefl _)
  constructor
  · intro hafter other found _ _ hfull id hfirst
    by_contra hinFlight
    obtain ⟨task, htask⟩ := Option.ne_none_iff_exists'.mp hinFlight
    have hne : id ≠ world.service.ids := (hlocked.known id task htask).ne
    have hgone : forgotten world.service.commands world.service.ids = some id := by
      rw [forgotten, if_neg (not_or.mpr ⟨hnew, by omega⟩), hfirst]
    have hfound := get_eq_ok.mp (hafter id task ((h.others id task hne).mpr htask)).1
    rw [h.commands, if_neg hne, if_pos hgone] at hfound
    cases hfound
  · intro hguard id task htask
    rw [get_eq_ok, h.commands]
    by_cases he : id = world.service.ids
    · subst he
      obtain ⟨rfl, hrunning⟩ := h.own task htask
      exact ⟨if_pos rfl, hrunning⟩
    · have hold := (h.others id task he).mp htask
      have hkept : forgotten world.service.commands world.service.ids ≠ some id := by
        intro hgone
        unfold forgotten at hgone
        split at hgone
        · cases hgone
        · next hfull =>
          have hnone := hguard call accepted rfl haccepts (by omega) id hgone
          rw [hold] at hnone
          cases hnone
      rw [if_neg he, if_neg hkept, ← get_eq_ok]
      exact hbefore id task hold

theorem retrievable_step {label : Label} (hstored : Stored world) (hlocked : Locked world)
    (hbefore : Retrievable world) (hstep : World.step clock coercion world label = some after) :
    Retrievable after ↔ ForgetsReturned coercion world label := by
  have hother (hlabel : ∀ call, label ≠ .submit call) (h : Retrievable after) :
      Retrievable after ↔ ForgetsReturned coercion world label :=
    iff_of_true h fun call _ heq => absurd heq (hlabel call)
  cases step_moved hstep with
  | @refused call service error hcheck =>
      have hcommands := @commands_check clock coercion world.service call
      rw [hcheck] at hcommands
      refine iff_of_true (hbefore.same hcommands fun id task htask => ⟨task, htask, rfl⟩) ?_
      rintro other accepted heq haccepts
      cases heq
      rw [check_of_accepts haccepts] at hcheck
      cases hcheck
  | @unwired call accepted ref haccepts =>
      obtain ⟨hcommands, hid⟩ := @commands_finish clock
        (world.service.create clock call accepted).1 (world.service.create clock call accepted).2
        .failed (some "provider_unavailable")
      rw [commands_create] at hcommands
      have hfound := fun id => (congrArg (fun table => table.get? id) hcommands).trans
        (get?_recorded_again hstored.bounded hid id)
      refine Created.retrievable ⟨hfound, fun id task _ => Iff.rfl, fun task htask => ?_⟩
        hstored hlocked hbefore haccepts
      exact absurd (hlocked.known _ task htask) (lt_irrefl _)
  | @joined call accepted ref haccepts =>
      obtain ⟨hcommands, new, htasks, hnew⟩ := @commands_join clock
        { world with service := (world.service.create clock call accepted).1 }
        (world.service.create clock call accepted).2 ref accepted.params
      dsimp only at hcommands htasks hnew
      rw [commands_create] at hcommands
      have hfound := fun id => (congrArg (fun table => table.get? id) hcommands).trans
        (get?_recorded_again hstored.bounded (start_id _) id)
      refine Created.retrievable ⟨hfound, fun id task hne => ?_, fun task htask => ?_⟩
        hstored hlocked hbefore haccepts
      · rw [htasks]
        exact iff_of_eq (congrArg (· = some task) (OrderedDict.get?_set_of_ne hne))
      · rw [htasks] at htask
        obtain rfl := Option.some.inj ((OrderedDict.get?_set_self _ _ _).symm.trans htask)
        exact ⟨hnew, by rw [hnew]; rfl⟩
  | entered htask | timedOut htask =>
      exact hother (by simp)
        (hbefore.same rfl fun other held hheld => held_rephase htask hheld)
  | @ended id task outcome result htask _ hended =>
      obtain ⟨hcommands, hid⟩ := commands_afterExecute hended
      exact hother (by simp) (hbefore.ended hstored htask
        (hid.trans (hlocked.running_id id task htask)) hcommands rfl)
  | @reconciled id task outcome htask =>
      obtain ⟨hcommands, hid⟩ := @commands_afterGetState clock
        (world.service.emit (.readBackEnded id outcome)) task.running task.ref task.params outcome
      exact hother (by simp) (hbefore.ended hstored htask
        (hid.trans (hlocked.running_id id task htask)) hcommands rfl)
  | abandoned | interrupted =>
      exact hother (by simp) (hbefore.same rfl fun other held hheld => held_erase hheld)
  | ingested =>
      exact hother (by simp) (hbefore.same rfl fun id task htask => ⟨task, htask, rfl⟩)

theorem stored_initial (registry : DeviceRegistry) (providers : List String) :
    Stored (initial registry providers) := by
  refine ⟨Nat.zero_le _, ?_, ?_⟩ <;> simp [initial]

theorem stored_run {registry : DeviceRegistry} {providers : List String} {labels : List Label}
    (hrun : Machine.run (World.step clock coercion) (initial registry providers) labels =
      some world) : Stored world ∧ Locked world := by
  have hboth := @Machine.invariant _ _ (World.step clock coercion)
    (fun state => Stored state ∧ Locked state) _ world labels
    ⟨stored_initial registry providers, locked_initial rfl⟩
    (fun _ _ _ hbefore hstep =>
      ⟨stored_step hbefore.1 hbefore.2 hstep, locked_step hbefore.2 hstep⟩) hrun
  exact hboth

end Step

-- The record of a command in flight is forgotten for a new one as soon as it is the oldest of
-- a full table, and in no other way.
theorem retrievable_iff_forgetsReturned {clock : Nat → Time} {coercion : Coercion}
    {registry : DeviceRegistry} {providers : List String} {labels : List Label} {world : World}
    (hrun : Machine.run (World.step clock coercion) (initial registry providers) labels =
      some world) :
    world.service.commands.length ≤ MAX_TRACKED_COMMANDS ∧
    ((∀ first rest state, labels = first ++ rest →
      Machine.run (World.step clock coercion) (initial registry providers) first = some state →
      Retrievable state) ↔
    Machine.Guarded (World.step clock coercion) (ForgetsReturned coercion)
      (initial registry providers) labels) := by
  refine ⟨(stored_run hrun).1.bounded, ?_⟩
  refine @Machine.always_good_iff _ _ _ _ (fun state => Stored state ∧ Locked state) _ _ _ _
    ⟨stored_initial registry providers, locked_initial rfl⟩ (fun id task htask => by cases htask)
    (fun _ _ _ hbefore hstep =>
      ⟨stored_step hbefore.1 hbefore.2 hstep, locked_step hbefore.2 hstep⟩)
    (fun _ _ _ hbefore hgood hstep => retrievable_step hbefore.1 hbefore.2 hgood hstep) hrun

theorem retrievable_iff_forgetsReturned_lamps :
    ∃ world, Machine.run (World.step (fun _ => 0) strict) (initial (lamps 257) ["demo"])
        (switchEach 2) = some world ∧
      (world.service.commands.length ≤ MAX_TRACKED_COMMANDS ∧
        ((∀ first rest state, switchEach 2 = first ++ rest →
          Machine.run (World.step (fun _ => 0) strict) (initial (lamps 257) ["demo"]) first =
            some state → Retrievable state) ↔
        Machine.Guarded (World.step (fun _ => 0) strict) (ForgetsReturned strict)
          (initial (lamps 257) ["demo"]) (switchEach 2))) := by
  obtain ⟨world, hrun, -⟩ := switchEach_run (fun _ => 0) strict
    (fun _ hnumber => lamps_get hnumber) (show 2 ≤ 257 by omega)
  exact ⟨world, hrun, retrievable_iff_forgetsReturned hrun⟩

-- Commands for a lamp whose adapter does not answer all stay in flight.
theorem switchAgain_run (clock : Nat → Time) (coercion : Coercion) (count : Nat) :
    ∃ world, Machine.run (World.step clock coercion) (initial (lamps 1) ["demo"])
        (List.replicate count (.submit (switchOn 0))) = some world ∧
      world.service.registry = lamps 1 ∧ world.service.providers = ["demo"] ∧
      world.service.ids = count ∧ ∀ id < count, (world.tasks.get? id).isSome = true := by
  induction count with
  | zero => exact ⟨_, rfl, rfl, rfl, rfl, fun id hid => absurd hid (Nat.not_lt_zero id)⟩
  | succ count ih =>
      obtain ⟨before, hrun, hregistry, hproviders, hids, htasks⟩ := ih
      obtain ⟨hget, href⟩ := lamps_get (show 0 < 1 by omega)
      rw [← hregistry] at hget href
      have haccepts := accepts_switchOn coercion hget
      have hid : (lampDevice 0).id = 0 := haccepts.id_eq
      let created := before.service.create clock (switchOn 0) ⟨lampDevice 0, .onOff true, .low⟩
      let joined := { before with service := created.1 }.join clock created.2 (lampRef 0)
        (.onOff true)
      have hsubmit : (before.submit clock coercion (switchOn 0)).1 = joined := by
        rw [submit_of_accepts haccepts (by rw [hid]; exact href)
          (by rw [hproviders]; exact List.mem_singleton_self _)]
      obtain ⟨-, task, hjoined, -⟩ := @commands_join clock { before with service := created.1 }
        created.2 (lampRef 0) (.onOff true)
      refine ⟨joined, ?_, ?_, ?_, ?_, fun id hlt => ?_⟩
      · rw [List.replicate_succ']
        exact Machine.run_concat.mpr ⟨before, hrun, congrArg some hsubmit⟩
      · exact (join_registry _ _ _ _ _).trans hregistry
      · exact (join_providers _ _ _ _ _).trans hproviders
      · exact (join_ids _ _ _ _ _).trans (congrArg (· + 1) hids)
      · change ((World.join clock _ _ _ _).tasks.get? id).isSome = true
        rw [hjoined]
        change ((before.tasks.set before.service.ids task).get? id).isSome = true
        rw [hids]
        rcases Nat.lt_succ_iff_lt_or_eq.mp hlt with hold | rfl
        · rw [OrderedDict.get?_set_of_ne hold.ne]
          exact htasks id hold
        · rw [OrderedDict.get?_set_self]
          rfl

-- 501 commands in flight have no place in a table of 500.
theorem stuck_command_forgotten :
    ∃ world, Machine.run (World.step (fun _ => 0) strict) (initial (lamps 1) ["demo"])
        (List.replicate 501 (.submit (switchOn 0))) = some world ∧ ¬Retrievable world := by
  obtain ⟨world, hrun, -, -, -, htasks⟩ := switchAgain_run (fun _ => 0) strict 501
  refine ⟨world, hrun, fun h => ?_⟩
  have hbounded := (stored_run hrun).1.bounded
  have hkeys : List.range 501 ⊆ world.service.commands.keys := by
    intro id hid
    obtain ⟨task, htask⟩ := Option.isSome_iff_exists.mp (htasks id (List.mem_range.mp hid))
    exact List.mem_map_of_mem
      ((OrderedDict.get?_eq_some_iff _ _ _).mp (get_eq_ok.mp (h id task htask).1))
  have hle := (List.subperm_of_subset List.nodup_range hkeys).length_le
  rw [List.length_range, OrderedDict.length_keys] at hle
  unfold MAX_TRACKED_COMMANDS at hbounded
  omega

end Homeflow.Commands
