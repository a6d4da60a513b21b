import Homeflow.Commands.Locks

namespace Homeflow.Commands

open CommandService

-- Identifiers are drawn in the order of creation. On each device at most one command
-- is inside the locked section, and it was created before every one that waits.
structure Serial (world : World) : Prop where
  exclusive : ∀ first second task other, world.tasks.get? first = some task →
    world.tasks.get? second = some other → task.running.deviceId = other.running.deviceId →
    task.phase ≠ .waiting → other.phase ≠ .waiting → first = second
  inOrder : ∀ first second task other, world.tasks.get? first = some task →
    world.tasks.get? second = some other → task.running.deviceId = other.running.deviceId →
    task.phase ≠ .waiting → other.phase = .waiting → first < second

-- All commands in flight on one device use one lock, and no other is in the table.
structure Shared (world : World) : Prop where
  lock : ∀ first second task other, world.tasks.get? first = some task →
    world.tasks.get? second = some other → task.running.deviceId = other.running.deviceId →
    task.lock = other.lock
  table : ∀ id task lock, world.tasks.get? id = some task →
    world.service.locks.get? task.running.deviceId = some lock → task.lock = lock

def InFlightOn (world : World) (deviceId : Uuid) : Prop :=
  ∃ id task, world.tasks.get? id = some task ∧ task.running.deviceId = deviceId

-- The call passes every check and its adapter is wired.
def Joins (coercion : Coercion) (world : World) (call : SubmitCall) : Prop :=
  ∃ accepted ref, Accepts coercion world.service.registry call accepted ∧
    world.service.registry.refFor accepted.device.id = some ref ∧
    ref.provider ∈ world.service.providers

-- A command joins others on its device only while the table still has their lock.
def FindsLock (coercion : Coercion) (world : World) : Label → Prop
  | .submit call => Joins coercion world call → InFlightOn world call.deviceId →
      (world.service.locks.get? call.deviceId).isSome
  | _ => True

variable {clock : Nat → Time} {coercion : Coercion} {world : World}

theorem Shared.serial (h : Shared world) (hlocked : Locked world) : Serial world := by
  refine ⟨?_, ?_⟩
  · intro first second task other htask hother hdevice hinside hother'
    have hlock := h.lock first second task other htask hother hdevice
    have hfirst := (hlocked.holder task.lock first).mpr ⟨task, htask, rfl, hinside⟩
    have hsecond := (hlocked.holder task.lock second).mpr ⟨other, hother, hlock.symm, hother'⟩
    exact Option.some.inj (hfirst.symm.trans hsecond)
  · intro first second task other htask hother hdevice hinside hwaiting
    have hlock := h.lock first second task other htask hother hdevice
    have hfirst := (hlocked.holder task.lock first).mpr ⟨task, htask, rfl, hinside⟩
    have hsecond := (hlocked.waiter task.lock second).mpr ⟨other, hother, hlock.symm, hwaiting⟩
    exact (hlocked.ordered task.lock).holder first hfirst second hsecond

-- Commands that leave, and others that change their phase only, share the same lock.
theorem Shared.of_tasks {after : World} (h : Shared world)
    (hlocks : after.service.locks = world.service.locks)
    (htasks : ∀ id task, after.tasks.get? id = some task → ∃ held,
      world.tasks.get? id = some held ∧ task.running = held.running ∧ task.lock = held.lock) :
    Shared after := by
  refine ⟨?_, ?_⟩
  · intro first second task other htask hother hdevice
    obtain ⟨held, hheld, hrunning, hlock⟩ := htasks first task htask
    obtain ⟨held', hheld', hrunning', hlock'⟩ := htasks second other hother
    rw [hrunning, hrunning'] at hdevice
    rw [hlock, hlock', h.lock first second held held' hheld hheld' hdevice]
  · intro id task lock htask hget
    obtain ⟨held, hheld, hrunning, hlock⟩ := htasks id task htask
    rw [hlocks, hrunning] at hget
    exact hlock.trans (h.table id held lock hheld hget)

theorem Shared.erase {after : World} (h : Shared world) {id : Uuid}
    (hlocks : after.service.locks = world.service.locks)
    (htasks : after.tasks = world.tasks.erase id) : Shared after := by
  refine h.of_tasks hlocks fun other task htask => ?_
  rw [htasks, OrderedDict.get?_erase_eq_some] at htask
  exact ⟨task, htask.2, rfl, rfl⟩

theorem Shared.rephase {after : World} (h : Shared world) {id : Uuid} {task : Task}
    (htask : world.tasks.get? id = some task) (phase : Phase)
    (hlocks : after.service.locks = world.service.locks)
    (htasks : after.tasks = world.tasks.set id { task with phase }) : Shared after := by
  refine h.of_tasks hlocks fun other held hheld => ?_
  rw [htasks, OrderedDict.get?_set_eq_some] at hheld
  obtain ⟨rfl, rfl⟩ | ⟨-, hheld⟩ := hheld
  · exact ⟨task, htask, rfl, rfl⟩
  · exact ⟨held, hheld, rfl, rfl⟩

variable (clock world) in
-- What join makes of the tasks and of the lock table.
theorem join_tasks (command : Command) (ref : ProviderDeviceRef) (params : CommandParams) :
    ∃ task lock, (world.join clock command ref params).tasks =
        world.tasks.set command.id task ∧ task.lock = lock ∧
      task.running.deviceId = command.deviceId ∧
      Chosen world.service (world.join clock command ref params).service command.deviceId lock ∧
      ((world.heap lock).idle = true → task.phase = .executing) := by
  have hlocks : (world.join clock command ref params).service.locks =
      ((world.service.start clock command).1.deviceLock command.deviceId).1.locks :=
    (frame_ite _ _ _).locks
  have hnext : (world.join clock command ref params).service.nextLock =
      ((world.service.start clock command).1.deviceLock command.deviceId).1.nextLock :=
    (frame_ite _ _ _).nextLock
  have hchosen := join_chosen world clock command
  refine ⟨_, _, rfl, rfl, rfl, ⟨?_, ?_, ?_⟩, fun hidle => if_pos hidle⟩
  · exact hlocks ▸ hchosen.found
  · exact hlocks ▸ hchosen.others
  · exact hnext ▸ hchosen.choice

theorem Shared.join (h : Shared world) (command : Command) (ref : ProviderDeviceRef)
    (params : CommandParams) (hfinds : InFlightOn world command.deviceId →
      (world.service.locks.get? command.deviceId).isSome) :
    Shared (world.join clock command ref params) := by
  obtain ⟨task, lock, htasks, rfl, hdevice, hchosen, -⟩ :=
    join_tasks clock world command ref params
  -- The lock that was chosen is the one of every other command on the device.
  have hsame : ∀ id held, world.tasks.get? id = some held →
      held.running.deviceId = command.deviceId → held.lock = task.lock := by
    intro id held hheld hon
    obtain ⟨found, hfound⟩ := Option.isSome_iff_exists.mp (hfinds ⟨id, held, hheld, hon⟩)
    rcases hchosen.choice with ⟨hhit, -⟩ | ⟨hmiss, -⟩
    · exact h.table id held task.lock hheld (hon ▸ hhit)
    · cases hfound.symm.trans hmiss
  refine ⟨?_, ?_⟩
  · intro first second one other hone hother hon
    rw [htasks, OrderedDict.get?_set_eq_some] at hone hother
    obtain ⟨-, rfl⟩ | ⟨-, hone⟩ := hone
    · obtain ⟨-, rfl⟩ | ⟨-, hother⟩ := hother
      · rfl
      · exact (hsame second other hother (hon.symm.trans hdevice)).symm
    · obtain ⟨-, rfl⟩ | ⟨-, hother⟩ := hother
      · exact hsame first one hone (hon.trans hdevice)
      · exact h.lock first second one other hone hother hon
  · intro id held found hheld hget
    rw [htasks, OrderedDict.get?_set_eq_some] at hheld
    obtain ⟨-, rfl⟩ | ⟨-, hheld⟩ := hheld
    · exact Option.some.inj (hchosen.found.symm.trans (hdevice ▸ hget))
    · by_cases hon : held.running.deviceId = command.deviceId
      · obtain rfl := Option.some.inj (hchosen.found.symm.trans (hon ▸ hget))
        exact hsame id held hheld hon
      · exact h.table id held found hheld (hchosen.others _ _ hon hget)

theorem shared_step {after : World} {label : Label} (h : Shared world)
    (hguard : FindsLock coercion world label)
    (hstep : World.step clock coercion world label = some after) : Shared after := by
  cases step_moved hstep with
  | @refused call _ _ hcheck =>
      have hframe := frame_check clock coercion world.service call
      rw [hcheck] at hframe
      exact h.of_tasks hframe.locks fun id task htask => ⟨task, htask, rfl, rfl⟩
  | unwired =>
      exact h.of_tasks (frame_finish _ _ _ _ _).locks fun id task htask => ⟨task, htask, rfl, rfl⟩
  | @joined call accepted ref haccepts href hwired =>
      have hcreated : Shared { world with
          service := (world.service.create clock call accepted).1 } := ⟨h.lock, h.table⟩
      refine hcreated.join _ ref accepted.params ?_
      rw [create_deviceId, haccepts.id_eq]
      exact hguard ⟨accepted, ref, haccepts, href, hwired⟩
  | entered htask => exact h.rephase htask .executing rfl rfl
  | ended _ _ hended =>
      exact h.erase ((frame_emit _ _).trans (frame_afterExecute _ _ hended)).locks rfl
  | timedOut htask => exact h.rephase htask .reconciling rfl rfl
  | reconciled =>
      exact h.erase ((frame_emit _ _).trans (frame_afterGetState _ _ _ _ _ _)).locks rfl
  | abandoned => exact h.erase rfl rfl
  | interrupted => exact h.erase rfl rfl
  | ingested =>
      exact h.of_tasks (frame_ingest _ _ _ _ _ _).locks fun id task htask => ⟨task, htask, rfl, rfl⟩

-- A command that misses the lock of those in flight enters beside or ahead of them.
theorem not_serial_of_missed {call : SubmitCall} (hlocked : Locked world)
    (hmissed : ¬FindsLock coercion world (.submit call)) :
    ¬Serial (world.submit clock coercion call).1 := by
  simp only [FindsLock, not_forall, Option.not_isSome_iff_eq_none] at hmissed
  obtain ⟨⟨accepted, ref, haccepts, href, hwired⟩, ⟨id, task, htask, hdevice⟩, hnone⟩ := hmissed
  rw [submit_of_accepts haccepts href hwired]
  intro hserial
  obtain ⟨new, lock, htasks, -, hnew, hchosen, hphase⟩ := join_tasks clock
    { world with service := (world.service.create clock call accepted).1 }
    (world.service.create clock call accepted).2 ref accepted.params
  have hon : new.running.deviceId = call.deviceId := hnew.trans haccepts.id_eq
  -- The lock it gets is a new one, so it is free.
  have hlock : lock = world.service.nextLock := by
    rcases hchosen.choice with ⟨hhit, -⟩ | ⟨-, hlock, -⟩
    · rw [create_deviceId, haccepts.id_eq] at hhit
      cases hhit.symm.trans hnone
    · exact hlock
  have hidle : (world.heap lock).idle = true := hlocked.idle_of_unused hlock.ge
  have hinside : new.phase ≠ .waiting := by simp [hphase hidle]
  have hlt : id < world.service.ids := hlocked.known id task htask
  have hget : ∀ other held, (other = world.service.ids ∧ held = new) ∨
      (other ≠ world.service.ids ∧ world.tasks.get? other = some held) →
      (World.join clock { world with service := (world.service.create clock call accepted).1 }
        (world.service.create clock call accepted).2 ref accepted.params).tasks.get? other =
          some held := by
    intro other held hcases
    rw [htasks]
    exact OrderedDict.get?_set_eq_some.mpr hcases
  have hold := hget id task (.inr ⟨Nat.ne_of_lt hlt, htask⟩)
  have hjoined := hget world.service.ids new (.inl ⟨rfl, rfl⟩)
  by_cases hwaiting : task.phase = .waiting
  · exact absurd
      (hserial.inOrder _ _ new task hjoined hold (hon.trans hdevice.symm) hinside hwaiting)
      (Nat.not_lt_of_gt hlt)
  · exact absurd (hserial.exclusive _ _ new task hjoined hold (hon.trans hdevice.symm) hinside
      hwaiting) (Nat.ne_of_gt hlt)

theorem shared_initial (registry : DeviceRegistry) (providers : List String) :
    Shared (initial registry providers) := by
  refine ⟨?_, ?_⟩ <;> simp [initial]

-- On every device commands run one at a time and in the order of creation, in every
-- state of a run, exactly when each that joins others finds their lock in the table.
theorem serial_iff_findsLock {registry : DeviceRegistry} {providers : List String}
    {labels : List Label} {world : World}
    (hrun : Machine.run (World.step clock coercion) (initial registry providers) labels =
      some world) :
    (∀ first rest state, labels = first ++ rest →
      Machine.run (World.step clock coercion) (initial registry providers) first = some state →
      Serial state) ↔
    Machine.Guarded (World.step clock coercion) (FindsLock coercion)
      (initial registry providers) labels := by
  have hlocked : ∀ first state, Machine.run (World.step clock coercion)
      (initial registry providers) first = some state → Locked state := fun first state hfirst =>
    Machine.invariant (locked_initial rfl) (fun _ _ _ hbefore hstep => locked_step hbefore hstep)
      hfirst
  constructor
  · intro hserial
    refine (Machine.guarded_iff_forall hrun).mpr ?_
    rintro first label rest before rfl hbefore
    cases label with
    | submit call =>
        by_contra hmissed
        have hnot : ¬Serial (before.submit clock coercion call).1 :=
          not_serial_of_missed (hlocked first before hbefore) hmissed
        refine hnot (hserial (first ++ [.submit call]) rest _ (by simp) ?_)
        exact Machine.run_concat.mpr ⟨before, hbefore, rfl⟩
    | enter | executeReturns | getStateReturns | cancelTask | ingest => trivial
  · rintro hguard first rest state rfl hfirst
    have hshared : Shared state := Machine.guarded_invariant (shared_initial _ _)
      (fun _ _ _ hbefore hlabel hstep => shared_step hbefore hlabel hstep) hfirst
      ((Machine.guarded_append rest hfirst).mp hguard).1
    exact hshared.serial (hlocked first state hfirst)

-- Conversions that take each value as it is.
def strict : Coercion where
  bool
    | .bool value => some value
    | _ => none
  int
    | .int value => some value
    | _ => none
  float
    | .float value => some value
    | .int value => some (.finite value)
    | _ => none
  bool_bool _ := rfl

-- A house of lamps. The public identifier of each is its number.
def lampRef (number : Nat) : ProviderDeviceRef :=
  ⟨"demo", String.ofList (List.replicate number '1')⟩

def lampUuid (ref : ProviderDeviceRef) : Uuid := ref.providerDeviceId.length

def lamp (number : Nat) : ProviderDevice :=
  { ref := lampRef number, suggestedName := "Lamp", kind := .light, capabilities := [.power] }

def lampState : ProviderState := { state := {}, availability := .online, observedAt := 0 }

def lampDevice (number : Nat) : Device :=
  DeviceRegistry.registered lampUuid (fun _ => 0) (lamp number) lampState

def lamps : Nat → DeviceRegistry
  | 0 => .empty
  | count + 1 => (lamps count).register lampUuid (fun _ => 0) (lamp count) lampState

def switchOn (deviceId : Uuid) : SubmitCall :=
  ⟨⟨0, 0, "Member"⟩, deviceId, .setPower, [("on", .bool true)], "request"⟩

def switchEach (count : Nat) : List Label :=
  (List.range count).map fun number => .submit (switchOn number)

theorem lampUuid_lampRef (number : Nat) : lampUuid (lampRef number) = number := by
  simp [lampUuid, lampRef]

theorem lamps_get {count number : Nat} (h : number < count) :
    (lamps count).get number = some (lampDevice number) ∧
      (lamps count).refFor number = some (lampRef number) := by
  induction count with
  | zero => cases h
  | succ count ih =>
      simp only [lamps, DeviceRegistry.register, DeviceRegistry.get, DeviceRegistry.refFor,
        OrderedDict.get?_set, lamp, lampUuid_lampRef]
      by_cases he : number = count
      · subst he
        simp [lampDevice, lamp]
      · rw [if_neg he, if_neg he]
        exact ih (by omega)

theorem accepts_switchOn (coercion : Coercion) {registry : DeviceRegistry} {number : Nat}
    (h : registry.get number = some (lampDevice number)) :
    Accepts coercion registry (switchOn number) ⟨lampDevice number, .onOff true, .low⟩ :=
  ⟨h, by simp [validate, switchOn, ACTION_SPECS, ParamsModel.validate_onOff], rfl, rfl, rfl,
    nofun, nofun⟩

-- A device that is new to the table goes to its end, and the first goes when it is full.
theorem deviceLock_keys (service : CommandService) {deviceId : Uuid}
    (hmiss : deviceId ∉ service.locks.keys) :
    (service.deviceLock deviceId).1.locks.keys =
      (if service.locks.keys.length ≥ 256 then service.locks.keys.tail
      else service.locks.keys) ++ [deviceId] := by
  have hlength : service.locks.keys.length = service.locks.length := List.length_map _
  have hmax : MAX_DEVICE_LOCKS = 256 := by unfold MAX_DEVICE_LOCKS; rfl
  unfold deviceLock
  rw [(OrderedDict.get?_eq_none_iff _ _).mpr hmiss]
  dsimp only
  rw [hmax, hlength]
  split
  · rw [OrderedDict.keys_moveToEnd_set, OrderedDict.keys_popFirst]
    rw [OrderedDict.keys_popFirst]
    exact fun hmem => hmiss (List.mem_of_mem_tail hmem)
  · rw [OrderedDict.keys_moveToEnd_set _ hmiss]

-- After each of the first lamps was switched on, every command is in flight and the
-- table has the locks of the last 256 of these lamps.
theorem switchEach_run (clock : Nat → Time) (coercion : Coercion) {registry : DeviceRegistry}
    (hlamps : ∀ number < 257, registry.get number = some (lampDevice number) ∧
      registry.refFor number = some (lampRef number)) {count : Nat} (hcount : count ≤ 257) :
    ∃ world, Machine.run (World.step clock coercion) (initial registry ["demo"])
        (switchEach count) = some world ∧
      world.service.registry = registry ∧ world.service.providers = ["demo"] ∧
      (∀ number < count, InFlightOn world number) ∧
      world.service.locks.keys = (List.range count).drop (count - 256) := by
  induction count with
  | zero => exact ⟨_, rfl, rfl, rfl, nofun, rfl⟩
  | succ count ih =>
      obtain ⟨before, hrun, hregistry, hproviders, hinFlight, hkeys⟩ := ih (by omega)
      obtain ⟨hget, href⟩ := hlamps count hcount
      rw [← hregistry] at hget href
      have haccepts := accepts_switchOn coercion hget
      have hid : (lampDevice count).id = count := haccepts.id_eq
      let created := before.service.create clock (switchOn count)
        ⟨lampDevice count, .onOff true, .low⟩
      let joined := { before with service := created.1 }.join clock created.2 (lampRef count)
        (.onOff true)
      have hsubmit : (before.submit clock coercion (switchOn count)).1 = joined := by
        rw [submit_of_accepts haccepts (by rw [hid]; exact href)
          (by rw [hproviders]; exact List.mem_singleton_self _)]
      refine ⟨joined, ?_, ?_, ?_, ?_, ?_⟩
      · rw [switchEach, List.range_succ, List.map_append]
        exact Machine.run_concat.mpr ⟨before, hrun, congrArg some hsubmit⟩
      · exact (join_registry _ _ _ _ _).trans hregistry
      · exact (join_providers _ _ _ _ _).trans hproviders
      · obtain ⟨new, lock, htasks, -, hnew, -⟩ := join_tasks clock
          { before with service := created.1 } created.2 (lampRef count) (.onOff true)
        have hlocked : Locked before := Machine.invariant (locked_initial rfl)
          (fun _ _ _ hbefore hstep => locked_step hbefore hstep) hrun
        intro number hnumber
        rcases Nat.lt_succ_iff_lt_or_eq.mp hnumber with hlt | rfl
        · obtain ⟨id, task, htask, hon⟩ := hinFlight number hlt
          have hne : id ≠ before.service.ids := Nat.ne_of_lt (hlocked.known id task htask)
          exact ⟨id, task, htasks ▸ OrderedDict.get?_set_eq_some.mpr (.inr ⟨hne, htask⟩), hon⟩
        · exact ⟨created.2.id, new, htasks ▸ OrderedDict.get?_set_self _ _ _, hnew.trans hid⟩
      · have hlocks : joined.service.locks =
            ((created.1.start clock created.2).1.deviceLock created.2.deviceId).1.locks :=
          (frame_ite _ _ _).locks
        have hmiss : created.2.deviceId ∉ (created.1.start clock created.2).1.locks.keys := by
          change (lampDevice count).id ∉ before.service.locks.keys
          rw [hid, hkeys]
          intro hmem
          exact absurd (List.mem_range.mp (List.mem_of_mem_drop hmem)) (lt_irrefl _)
        rw [hlocks, deviceLock_keys _ hmiss]
        change (if before.service.locks.keys.length ≥ 256 then before.service.locks.keys.tail
          else before.service.locks.keys) ++ [(lampDevice count).id] = _
        rw [hid, hkeys, show count - 256 = 0 by omega, List.drop_zero, List.length_range,
          List.range_succ]
        split
        · rw [show count + 1 - 256 = 1 by omega, List.drop_append_of_le_length (by simp; omega),
            List.drop_one]
        · rw [show count + 1 - 256 = 0 by omega, List.drop_zero]

theorem serial_iff_findsLock_lamps :
    ∃ world, Machine.run (World.step (fun _ => 0) strict) (initial (lamps 257) ["demo"])
        (switchEach 2) = some world ∧
      ((∀ first rest state, switchEach 2 = first ++ rest →
        Machine.run (World.step (fun _ => 0) strict) (initial (lamps 257) ["demo"]) first =
          some state → Serial state) ↔
      Machine.Guarded (World.step (fun _ => 0) strict) (FindsLock strict)
        (initial (lamps 257) ["demo"]) (switchEach 2)) := by
  obtain ⟨world, hrun, -⟩ := switchEach_run (fun _ => 0) strict
    (fun _ hnumber => lamps_get hnumber) (show 2 ≤ 257 by omega)
  exact ⟨world, hrun, serial_iff_findsLock hrun⟩

-- With 257 lamps in use the lock of the first is gone while its command still runs, and
-- a second command for it enters beside the first.
theorem evicted_lock_overlaps :
    ∃ world, Machine.run (World.step (fun _ => 0) strict) (initial (lamps 257) ["demo"])
        (switchEach 257 ++ [.submit (switchOn 0)]) = some world ∧ ¬Serial world := by
  obtain ⟨before, hrun, hregistry, hproviders, hinFlight, hkeys⟩ :=
    switchEach_run (fun _ => 0) strict (fun _ hnumber => lamps_get hnumber) le_rfl
  obtain ⟨hget, href⟩ := lamps_get (show 0 < 257 by omega)
  rw [← hregistry] at hget href
  have haccepts := accepts_switchOn strict hget
  have hid : (lampDevice 0).id = 0 := haccepts.id_eq
  have hlocked : Locked before := Machine.invariant (locked_initial rfl)
    (fun _ _ _ hbefore hstep => locked_step hbefore hstep) hrun
  have hgone : before.service.locks.get? 0 = none := by
    rw [OrderedDict.get?_eq_none_iff, hkeys]
    decide
  refine ⟨_, Machine.run_concat.mpr ⟨before, hrun, rfl⟩,
    not_serial_of_missed hlocked fun hfinds => ?_⟩
  have hsome := hfinds ⟨_, lampRef 0, haccepts, by rw [hid]; exact href,
    by rw [hproviders]; exact List.mem_singleton_self _⟩ (hinFlight 0 (by omega))
  rw [show (switchOn 0).deviceId = 0 from rfl, hgone] at hsome
  cases hsome

end Homeflow.Commands
