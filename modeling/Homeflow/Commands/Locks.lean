import Homeflow.Commands.Moves

namespace Homeflow.Commands

open CommandService

-- The lock objects know exactly the commands in flight: who holds one is inside its
-- locked section, and who waits for one asked in the order of creation. A lock
-- belongs to one device.
structure Locked (world : World) : Prop where
  running_id : ∀ id task, world.tasks.get? id = some task → task.running.id = id
  known : ∀ id task, world.tasks.get? id = some task → id < world.service.ids
  lock_lt : ∀ id task, world.tasks.get? id = some task → task.lock < world.service.nextLock
  holder : ∀ lock id, (world.heap lock).holder = some id ↔
    ∃ task, world.tasks.get? id = some task ∧ task.lock = lock ∧ task.phase ≠ .waiting
  waiter : ∀ lock id, id ∈ (world.heap lock).waiters ↔
    ∃ task, world.tasks.get? id = some task ∧ task.lock = lock ∧ task.phase = .waiting
  ordered : ∀ lock, (world.heap lock).Ordered
  table_lt : ∀ deviceId lock, world.service.locks.get? deviceId = some lock →
    lock < world.service.nextLock
  table_injective : ∀ first second lock, world.service.locks.get? first = some lock →
    world.service.locks.get? second = some lock → first = second
  table_device : ∀ deviceId lock id task, world.service.locks.get? deviceId = some lock →
    world.tasks.get? id = some task → task.lock = lock → task.running.deviceId = deviceId

section Locked

variable {world : World}

theorem locked_initial {service : CommandService} (hlocks : service.locks = .empty) :
    Locked { service } := by
  refine ⟨?_, ?_, ?_, ?_, ?_, fun _ => FifoMutex.ordered_unlocked, ?_, ?_, ?_⟩ <;>
    simp [FifoMutex.unlocked, hlocks]

theorem Locked.frame (h : Locked world) {service : CommandService}
    (hframe : Frame world.service service) (returned : OrderedDict Uuid Command) :
    Locked { world with service, returned } := by
  refine ⟨h.running_id, ?_, ?_, h.holder, h.waiter, h.ordered, ?_, ?_, ?_⟩
  · exact hframe.ids ▸ h.known
  · exact hframe.nextLock ▸ h.lock_lt
  · exact hframe.nextLock ▸ hframe.locks ▸ h.table_lt
  · exact hframe.locks ▸ h.table_injective
  · exact hframe.locks ▸ h.table_device

-- Who leaves one lock was not at another.
theorem exists_erase_iff {tasks : OrderedDict Uuid Task} {id other : Uuid} {task : Task}
    {lock : LockId} {P : Task → Prop} (htask : tasks.get? id = some task)
    (hlock : lock ≠ task.lock) :
    (∃ held, tasks.get? other = some held ∧ held.lock = lock ∧ P held) ↔
      ∃ held, (tasks.erase id).get? other = some held ∧ held.lock = lock ∧ P held := by
  simp only [OrderedDict.get?_erase_eq_some]
  constructor
  · rintro ⟨held, hget, hheld, hphase⟩
    refine ⟨held, ⟨?_, hget⟩, hheld, hphase⟩
    rintro rfl
    obtain rfl := Option.some.inj (htask.symm.trans hget)
    exact hlock hheld.symm
  · rintro ⟨held, ⟨-, hget⟩, hheld⟩
    exact ⟨held, hget, hheld⟩

-- A command leaves and its lock changes so that the lock no longer knows it.
theorem Locked.erase (h : Locked world) {id : Uuid} {task : Task} {mutex : FifoMutex Uuid}
    (htask : world.tasks.get? id = some task) (hordered : mutex.Ordered)
    (hholder : ∀ other, mutex.holder = some other ↔
      other ≠ id ∧ (world.heap task.lock).holder = some other)
    (hwaiter : ∀ other, other ∈ mutex.waiters ↔
      other ≠ id ∧ other ∈ (world.heap task.lock).waiters) :
    Locked { world.setLock task.lock mutex with tasks := world.tasks.erase id } := by
  have hold : ∀ other held, (world.tasks.erase id).get? other = some held →
      world.tasks.get? other = some held := fun other held hget =>
    (OrderedDict.get?_erase_eq_some.mp hget).2
  refine ⟨fun other held hget => h.running_id other held (hold other held hget),
    fun other held hget => h.known other held (hold other held hget),
    fun other held hget => h.lock_lt other held (hold other held hget), ?_, ?_, ?_,
    h.table_lt, h.table_injective, fun deviceId lock other held hlock hget =>
      h.table_device deviceId lock other held hlock (hold other held hget)⟩
  · intro lock other
    simp only [World.setLock, Function.update_apply]
    split
    · rename_i hlock
      simp only [OrderedDict.get?_erase_eq_some]
      rw [hholder, h.holder, hlock]
      grind
    · rename_i hlock
      rw [h.holder]
      exact exists_erase_iff htask hlock
  · intro lock other
    simp only [World.setLock, Function.update_apply]
    split
    · rename_i hlock
      simp only [OrderedDict.get?_erase_eq_some]
      rw [hwaiter, h.waiter, hlock]
      grind
    · rename_i hlock
      rw [h.waiter]
      exact exists_erase_iff htask hlock
  · intro lock
    simp only [World.setLock, Function.update_apply]
    split
    · exact hordered
    · exact h.ordered lock

theorem Locked.leave (h : Locked world) {id : Uuid} {task : Task}
    (htask : world.tasks.get? id = some task) (hphase : task.phase ≠ .waiting) :
    Locked (world.leave id task) := by
  have hheld : (world.heap task.lock).holder = some id :=
    (h.holder task.lock id).mpr ⟨task, htask, rfl, hphase⟩
  refine h.erase htask (h.ordered task.lock).release ?_ ?_
  · intro other
    simp [FifoMutex.release, hheld]
    grind
  · intro other
    simp only [FifoMutex.release]
    constructor
    · intro hmem
      refine ⟨?_, hmem⟩
      rintro rfl
      obtain ⟨held, hget, -, hwaiting⟩ := (h.waiter task.lock other).mp hmem
      obtain rfl := Option.some.inj (htask.symm.trans hget)
      exact hphase hwaiting
    · exact And.right

theorem Locked.abandon (h : Locked world) {id : Uuid} {task : Task}
    (htask : world.tasks.get? id = some task) (hphase : task.phase = .waiting) :
    Locked { world.setLock task.lock ((world.heap task.lock).abandon id) with
      tasks := world.tasks.erase id } := by
  refine h.erase htask ((h.ordered task.lock).abandon id) ?_ ?_
  · intro other
    simp only [FifoMutex.abandon]
    constructor
    · intro hholder
      refine ⟨?_, hholder⟩
      rintro rfl
      obtain ⟨held, hget, -, hinside⟩ := (h.holder task.lock other).mp hholder
      obtain rfl := Option.some.inj (htask.symm.trans hget)
      exact hinside hphase
    · exact And.right
  · intro other
    have hnodup : (world.heap task.lock).waiters.Nodup :=
      (h.ordered task.lock).waiters.imp fun {first second} hlt => Nat.ne_of_lt hlt
    exact hnodup.mem_erase_iff

-- A command is written back, or added, and its lock changes so that the lock knows it
-- as what it now is.
theorem Locked.set (h : Locked world) {id : Uuid} (task : Task) (mutex : FifoMutex Uuid)
    (hid : task.running.id = id) (hknown : id < world.service.ids)
    (hlock : task.lock < world.service.nextLock)
    (hsame : ∀ held, world.tasks.get? id = some held → held.lock = task.lock)
    (hdevice : ∀ deviceId, world.service.locks.get? deviceId = some task.lock →
      task.running.deviceId = deviceId)
    (hordered : mutex.Ordered)
    (hholder : ∀ other, mutex.holder = some other ↔
      (other = id ∧ task.phase ≠ .waiting) ∨
        (other ≠ id ∧ (world.heap task.lock).holder = some other))
    (hwaiter : ∀ other, other ∈ mutex.waiters ↔
      (other = id ∧ task.phase = .waiting) ∨
        (other ≠ id ∧ other ∈ (world.heap task.lock).waiters)) :
    Locked { world.setLock task.lock mutex with tasks := world.tasks.set id task } := by
  have hcases : ∀ other held, (world.tasks.set id task).get? other = some held →
      (other = id ∧ held = task) ∨ (other ≠ id ∧ world.tasks.get? other = some held) :=
    fun other held => OrderedDict.get?_set_eq_some.mp
  refine ⟨?_, ?_, ?_, ?_, ?_, ?_, h.table_lt, h.table_injective, ?_⟩
  · intro other held hget
    obtain ⟨rfl, rfl⟩ | ⟨-, hget⟩ := hcases other held hget
    · exact hid
    · exact h.running_id other held hget
  · intro other held hget
    obtain ⟨rfl, -⟩ | ⟨-, hget⟩ := hcases other held hget
    · exact hknown
    · exact h.known other held hget
  · intro other held hget
    obtain ⟨-, rfl⟩ | ⟨-, hget⟩ := hcases other held hget
    · exact hlock
    · exact h.lock_lt other held hget
  · intro lock other
    simp only [World.setLock, Function.update_apply, OrderedDict.get?_set_eq_some]
    split
    · rename_i hat
      rw [hholder, h.holder, hat]
      grind
    · rename_i hat
      rw [h.holder]
      grind
  · intro lock other
    simp only [World.setLock, Function.update_apply, OrderedDict.get?_set_eq_some]
    split
    · rename_i hat
      rw [hwaiter, h.waiter, hat]
      grind
    · rename_i hat
      rw [h.waiter]
      grind
  · intro lock
    simp only [World.setLock, Function.update_apply]
    split
    · exact hordered
    · exact h.ordered lock
  · intro deviceId lock other held hget htask hat
    obtain ⟨-, rfl⟩ | ⟨-, htask⟩ := hcases other held htask
    · exact hdevice deviceId (hat ▸ hget)
    · exact h.table_device deviceId lock other held hget htask hat

theorem Locked.enter (h : Locked world) {id : Uuid} {task : Task} {mutex : FifoMutex Uuid}
    (htask : world.tasks.get? id = some task)
    (hgrant : (world.heap task.lock).grant id = some mutex) :
    Locked ((world.setLock task.lock mutex).begin id task) := by
  have hordered := h.ordered task.lock
  obtain ⟨hfree, rest, hwaiters, rfl⟩ := FifoMutex.grant_eq_some hgrant
  have hfirst := hordered.waiters
  rw [hwaiters, List.pairwise_cons] at hfirst
  have hset := h.set { task with phase := .executing } ⟨some id, rest⟩
    (h.running_id id task htask) (h.known id task htask) (h.lock_lt id task htask)
    (fun held hget => by rw [Option.some.inj (htask.symm.trans hget)])
    (fun deviceId hlock => h.table_device deviceId _ id task hlock htask rfl)
    (hordered.grant hgrant) (fun other => by simp [hfree, eq_comm])
    (fun other => by
      have hne : ∀ waiter ∈ rest, waiter ≠ id := fun waiter hmem =>
        Nat.ne_of_gt (hfirst.1 waiter hmem)
      simp only [hwaiters, List.mem_cons]
      grind)
  exact hset.frame (frame_emit _ _) world.returned

theorem Locked.timedOut (h : Locked world) {id : Uuid} {task : Task}
    (htask : world.tasks.get? id = some task) (hphase : task.phase = .executing)
    {service : CommandService} (hframe : Frame world.service service) :
    Locked { world with
      service, tasks := world.tasks.set id { task with phase := .reconciling } } := by
  have hinside : (world.heap task.lock).holder = some id :=
    (h.holder task.lock id).mpr ⟨task, htask, rfl, by simp [hphase]⟩
  have hnot : id ∉ (world.heap task.lock).waiters := by
    intro hmem
    obtain ⟨held, hget, -, hwaiting⟩ := (h.waiter task.lock id).mp hmem
    obtain rfl := Option.some.inj (htask.symm.trans hget)
    simp [hphase] at hwaiting
  have hset := h.set { task with phase := .reconciling } (world.heap task.lock)
    (h.running_id id task htask) (h.known id task htask) (h.lock_lt id task htask)
    (fun held hget => by rw [Option.some.inj (htask.symm.trans hget)])
    (fun deviceId hlock => h.table_device deviceId _ id task hlock htask rfl)
    (h.ordered task.lock) (fun other => by simp only [hinside]; grind) (fun other => by grind)
  rw [World.setLock, Function.update_eq_self] at hset
  exact hset.frame hframe world.returned

-- Nobody has a lock that was not made yet.
theorem Locked.idle_of_unused (h : Locked world) {lock : LockId}
    (hlock : world.service.nextLock ≤ lock) : (world.heap lock).idle = true := by
  have hunknown : ∀ id task, world.tasks.get? id = some task → task.lock ≠ lock :=
    fun id task htask he => absurd (h.lock_lt id task htask) (Nat.not_lt_of_ge (he ▸ hlock))
  rw [FifoMutex.idle_iff]
  constructor
  · by_contra hheld
    obtain ⟨id, hid⟩ := Option.ne_none_iff_exists'.mp hheld
    obtain ⟨task, htask, he, -⟩ := (h.holder lock id).mp hid
    exact hunknown id task htask he
  · refine List.eq_nil_iff_forall_not_mem.mpr fun id hid => ?_
    obtain ⟨task, htask, he, -⟩ := (h.waiter lock id).mp hid
    exact hunknown id task htask he

-- The table gets a lock for the device; a new one is one that nobody has.
theorem Locked.chosen (h : Locked world) {service : CommandService} {deviceId : Uuid}
    {lock : LockId} (hchosen : Chosen world.service service deviceId lock)
    (hids : service.ids = world.service.ids) :
    Locked { world with service } ∧ lock < service.nextLock ∧
      ∀ other, service.locks.get? other = some lock → other = deviceId := by
  have hnext : world.service.nextLock ≤ service.nextLock := by
    rcases hchosen.choice with ⟨-, hnext⟩ | ⟨-, -, hnext⟩
    · exact hnext.ge
    · exact hnext ▸ Nat.le_succ _
  have hlt : lock < service.nextLock := by
    rcases hchosen.choice with ⟨hhit, hnext⟩ | ⟨-, rfl, hnext⟩
    · exact hnext ▸ h.table_lt deviceId lock hhit
    · exact hnext ▸ Nat.lt_succ_self _
  -- Another device never has the lock that was chosen here.
  have hothers : ∀ other, service.locks.get? other = some lock → other = deviceId := by
    intro other hother
    by_contra hne
    have hbefore := hchosen.others other lock hne hother
    rcases hchosen.choice with ⟨hhit, -⟩ | ⟨-, rfl, -⟩
    · exact hne (h.table_injective other deviceId lock hbefore hhit)
    · exact absurd (h.table_lt other _ hbefore) (lt_irrefl _)
  refine ⟨⟨h.running_id, hids ▸ h.known, ?_, h.holder, h.waiter, h.ordered, ?_, ?_, ?_⟩, hlt,
    hothers⟩
  · exact fun id task htask => (h.lock_lt id task htask).trans_le hnext
  · intro other held hget
    by_cases he : other = deviceId
    · obtain rfl := Option.some.inj (hchosen.found.symm.trans (he ▸ hget))
      exact hlt
    · exact (h.table_lt other held (hchosen.others other held he hget)).trans_le hnext
  · intro first second held hfirst hsecond
    by_cases he : first = deviceId
    · obtain rfl := Option.some.inj (hchosen.found.symm.trans (he ▸ hfirst))
      exact he.trans (hothers second hsecond).symm
    · by_cases hs : second = deviceId
      · obtain rfl := Option.some.inj (hchosen.found.symm.trans (hs ▸ hsecond))
        exact absurd (hothers first hfirst) he
      · exact h.table_injective first second held (hchosen.others first held he hfirst)
          (hchosen.others second held hs hsecond)
  · intro other held id task hget htask hlock
    by_cases he : other = deviceId
    · obtain rfl := Option.some.inj (hchosen.found.symm.trans (he ▸ hget))
      rcases hchosen.choice with ⟨hhit, -⟩ | ⟨-, rfl, -⟩
      · exact h.table_device other _ id task (he ▸ hhit) htask hlock
      · exact absurd (h.lock_lt id task htask) (hlock ▸ lt_irrefl _)
    · exact h.table_device other held id task (hchosen.others other held he hget) htask hlock

-- What a command is in flight as once it has asked for its lock.
def asked (running : Command) (ref : ProviderDeviceRef) (params : CommandParams) (lock : LockId)
    (mutex : FifoMutex Uuid) : Task :=
  { running, ref, params, lock, phase := if mutex.idle then .executing else .waiting }

theorem Locked.ask (h : Locked world) (running : Command) (ref : ProviderDeviceRef)
    (params : CommandParams) {lock : LockId}
    (hfresh : ∀ other held, world.tasks.get? other = some held → other < running.id)
    (hknown : running.id < world.service.ids) (hlock : lock < world.service.nextLock)
    (hdevice : ∀ other, world.service.locks.get? other = some lock → other = running.deviceId) :
    Locked { world.setLock lock ((world.heap lock).acquire running.id) with
      tasks := world.tasks.set running.id (asked running ref params lock (world.heap lock)) } := by
  have hnew : ∀ held, world.tasks.get? running.id ≠ some held := fun held hget =>
    lt_irrefl _ (hfresh _ held hget)
  have hholders : ∀ other, (world.heap lock).holder = some other → other < running.id := by
    intro other hother
    obtain ⟨held, hget, -⟩ := (h.holder lock other).mp hother
    exact hfresh other held hget
  have hwaiters : ∀ other ∈ (world.heap lock).waiters, other < running.id := by
    intro other hother
    obtain ⟨held, hget, -⟩ := (h.waiter lock other).mp hother
    exact hfresh other held hget
  refine h.set (asked running ref params lock (world.heap lock)) _ rfl hknown hlock
    (fun held hget => absurd hget (hnew held)) (fun other hother => (hdevice other hother).symm)
    ((h.ordered lock).acquire hwaiters hholders) ?_ ?_
  · intro other
    simp only [FifoMutex.acquire, asked]
    by_cases hidle : (world.heap lock).idle = true
    · have hnone := (FifoMutex.idle_iff _).mp hidle
      simp [hidle, hnone.1, eq_comm]
    · simp only [hidle, Bool.false_eq_true, if_false, ne_eq, not_true_eq_false, and_false,
        false_or]
      exact ⟨fun hother => ⟨Nat.ne_of_lt (hholders other hother), hother⟩, And.right⟩
  · intro other
    simp only [FifoMutex.acquire, asked]
    by_cases hidle : (world.heap lock).idle = true
    · have hnone := (FifoMutex.idle_iff _).mp hidle
      simp [hidle, hnone.2]
    · simp only [hidle, Bool.false_eq_true, if_false, List.mem_append, List.mem_singleton, and_true]
      constructor
      · rintro (hother | rfl)
        · exact .inr ⟨Nat.ne_of_lt (hwaiters other hother), hother⟩
        · exact .inl rfl
      · rintro (rfl | ⟨-, hother⟩)
        · exact .inr rfl
        · exact .inl hother

variable {clock : Nat → Time} {coercion : Coercion}

variable (clock world) in
-- The lock a created command asks for, and the table after that.
theorem join_chosen (command : Command) :
    Chosen world.service ((world.service.start clock command).1.deviceLock command.deviceId).1
      command.deviceId ((world.service.start clock command).1.deviceLock command.deviceId).2 := by
  have hchosen := deviceLock_chosen (world.service.start clock command).1 command.deviceId
  exact ⟨hchosen.found, hchosen.others, hchosen.choice⟩

theorem Locked.join (h : Locked world) (command : Command) (ref : ProviderDeviceRef)
    (params : CommandParams)
    (hfresh : ∀ other held, world.tasks.get? other = some held → other < command.id)
    (hknown : command.id < world.service.ids) :
    Locked (world.join clock command ref params) := by
  have hids : ((world.service.start clock command).1.deviceLock command.deviceId).1.ids =
      world.service.ids := by rw [deviceLock_rest]; rfl
  obtain ⟨hlocked, hlt, hdevice⟩ := h.chosen (join_chosen _ clock command) hids
  have hasked := hlocked.ask (world.service.start clock command).2 ref params hfresh
    (hids ▸ hknown) hlt
    hdevice
  exact hasked.frame (frame_ite _ _ _) world.returned

theorem Locked.create (h : Locked world) (call : SubmitCall) (accepted : Accepted) :
    Locked { world with service := (world.service.create clock call accepted).1 } :=
  ⟨h.running_id, fun id task htask => Nat.lt_succ_of_lt (h.known id task htask), h.lock_lt,
    h.holder, h.waiter, h.ordered, h.table_lt, h.table_injective, h.table_device⟩

theorem locked_step {after : World} {label : Label} (h : Locked world)
    (hstep : World.step clock coercion world label = some after) : Locked after := by
  cases step_moved hstep with
  | @refused call _ _ hcheck =>
      have hframe := frame_check clock coercion world.service call
      rw [hcheck] at hframe
      exact h.frame hframe world.returned
  | @unwired call accepted =>
      exact (h.create call accepted).frame (frame_finish _ _ _ _ _) _
  | @joined call accepted ref =>
      exact (h.create call accepted).join _ ref accepted.params h.known (Nat.lt_succ_self _)
  | entered htask _ hgrant => exact h.enter htask hgrant
  | ended htask hphase hended =>
      exact (h.leave htask (by simp [hphase])).frame
        ((frame_emit _ _).trans (frame_afterExecute _ _ hended)) _
  | timedOut htask hphase =>
      exact h.timedOut htask hphase
        ((frame_emit _ _).trans ((frame_publish _ _ _ _).trans (frame_emit _ _)))
  | reconciled htask hphase =>
      exact (h.leave htask (by simp [hphase])).frame
        ((frame_emit _ _).trans (frame_afterGetState _ _ _ _ _ _)) _
  | abandoned htask hphase => exact h.abandon htask hphase
  | interrupted htask hphase => exact h.leave htask hphase
  | ingested => exact h.frame (frame_ingest _ _ _ _ _ _) world.returned

end Locked

end Homeflow.Commands
