import Homeflow.Commands.Timed

namespace Homeflow.Commands

open CommandService

section Dated

-- A record expires two minutes after its identifier was drawn. Every command in flight
-- has one, and so has every command whose execute was called.
structure Dated (state : Timed) : Prop where
  locked : Locked state.world
  records : ∀ command, .remembered command ∈ state.world.service.trace →
    command.id < state.world.service.ids ∧
      command.expiresAt = state.drawn command.id + COMMAND_TTL
  flight : ∀ id task, state.world.tasks.get? id = some task →
    task.running.expiresAt = state.drawn id + COMMAND_TTL ∧
      ∃ command, .remembered command ∈ state.world.service.trace ∧ command.id = id
  recorded : ∀ id, state.starts id ≠ [] →
    ∃ command, .remembered command ∈ state.world.service.trace ∧ command.id = id

variable {coercion : Coercion} {state after : Timed} {registry : DeviceRegistry}
  {providers : List String} {now : Time}

theorem dated_started (registry : DeviceRegistry) (providers : List String) (now : Time) :
    Dated (started registry providers now) := by
  refine ⟨locked_initial rfl, ?_, ?_, ?_⟩ <;> simp [started, initial]

theorem calls_of_tells {world next : World} {label : Label} {more : Uuid → List Effect}
    (h : Tells now world next label more) (id : Uuid) :
    Timed.calls next id - Timed.calls world id = (more id).countP Effect.executes := by
  simp only [Timed.calls, count_executions, h.told, List.countP_append, Nat.add_sub_cancel_left]

-- What an act makes of the history.
theorem step_act {label : Label} (h : Dated state)
    (hstep : state.step coercion (.act label) = some after) :
    ∃ more, Tells state.now state.world after.world label more ∧ Locked after.world ∧
      after.now = state.now ∧
      (∀ id < state.world.service.ids, after.drawn id = state.drawn id) ∧
      after.drawn state.world.service.ids = state.now ∧
      ∀ id, after.starts id = state.starts id ++
        List.replicate ((more id).countP Effect.executes) state.now := by
  obtain ⟨world, hworld, rfl⟩ := Option.map_eq_some_iff.mp hstep
  obtain ⟨more, htells⟩ := step_tells h.locked hworld
  refine ⟨more, htells, locked_step h.locked hworld, rfl, fun id hid => if_pos hid,
    if_neg (lt_irrefl _), fun id => ?_⟩
  rw [← calls_of_tells htells id]

theorem Dated.act {label : Label} (h : Dated state)
    (hstep : state.step coercion (.act label) = some after) : Dated after := by
  obtain ⟨more, htells, hlocked, -, hdrawn, hnew, hstarts⟩ := step_act h hstep
  have hold : ∀ command, .remembered command ∈ state.world.service.trace →
      .remembered command ∈ after.world.service.trace := by
    intro command hmem
    rw [← remembered_mem_life] at hmem ⊢
    rw [htells.told]
    exact List.mem_append_left _ hmem
  have hmore : ∀ command, .remembered command ∈ more command.id →
      .remembered command ∈ after.world.service.trace := by
    intro command hmem
    rw [← remembered_mem_life, htells.told]
    exact List.mem_append_right _ hmem
  have hflight : ∀ id task, after.world.tasks.get? id = some task →
      task.running.expiresAt = after.drawn id + COMMAND_TTL ∧
        ∃ command, .remembered command ∈ after.world.service.trace ∧ command.id = id := by
    intro id task htask
    rcases htells.flight id task htask with ⟨held, hheld, hrunning⟩ | ⟨rfl, hexpires, hmem⟩
    · obtain ⟨hexpires, command, hmem, hid⟩ := h.flight id held hheld
      rw [hrunning, hdrawn id (h.locked.known id held hheld)]
      exact ⟨hexpires, command, hold command hmem, hid⟩
    · have hid := hlocked.running_id _ task htask
      rw [hnew]
      exact ⟨hexpires, task.running, hmore task.running (hid ▸ hmem), hid⟩
  refine ⟨hlocked, fun command hmem => ?_, hflight, fun id hsome => ?_⟩
  · rw [← remembered_mem_life, htells.told] at hmem
    rcases List.mem_append.mp hmem with hmem | hmem
    · obtain ⟨hlt, hexpires⟩ := h.records command (remembered_mem_life.mp hmem)
      exact ⟨hlt.trans_le htells.ids, hdrawn _ hlt ▸ hexpires⟩
    · rcases htells.remembered _ command hmem with ⟨hid, hlt, hexpires⟩ | ⟨task, htask, hexpires⟩
      · exact ⟨hlt, by rw [hid, hnew, hexpires]⟩
      · have hlt := h.locked.known _ task htask
        refine ⟨hlt.trans_le htells.ids, ?_⟩
        rw [hdrawn _ hlt, hexpires]
        exact (h.flight _ task htask).1
  · rw [hstarts] at hsome
    by_cases hexecutes : (more id).countP Effect.executes = 0
    · obtain ⟨command, hmem, hid⟩ := h.recorded id (by simpa [hexecutes] using hsome)
      exact ⟨command, hold command hmem, hid⟩
    · rcases htells.executed id hexecutes with ⟨-, task, htask⟩ | ⟨-, command, hmem, hid⟩
      · obtain ⟨-, command, hmem, hid⟩ := h.flight id task htask
        exact ⟨command, hold command hmem, hid⟩
      · exact ⟨command, hmore command (hid.symm ▸ hmem), hid⟩

theorem Dated.step {tick : Tick} (h : Dated state) (hstep : state.step coercion tick = some after) :
    Dated after := by
  cases tick with
  | clock now =>
      obtain rfl := Option.some.inj hstep
      exact ⟨h.locked, h.records, h.flight, h.recorded⟩
  | act label => exact h.act hstep

-- A call is in time when it comes no later than two minutes after the submission.
theorem Dated.inTime_iff (h : Dated state) :
    InTime state ↔ ∀ id, ∀ moment ∈ state.starts id, moment ≤ state.drawn id + COMMAND_TTL := by
  constructor
  · intro hin id moment hmoment
    obtain ⟨command, hmem, hid⟩ := h.recorded id (List.ne_nil_of_mem hmoment)
    have hle := hin id moment hmoment command hmem hid
    rwa [(h.records command hmem).2, hid] at hle
  · intro hin id moment hmoment command hmem hid
    rw [(h.records command hmem).2, hid]
    exact hin id moment hmoment

-- A step keeps the calls in time exactly when the command that enters waited briefly.
theorem inTime_step_iff {tick : Tick} (h : Dated state)
    (hstep : state.step coercion tick = some after) :
    InTime after ↔ InTime state ∧ WaitsBriefly state tick := by
  rw [(h.step hstep).inTime_iff, h.inTime_iff]
  cases tick with
  | clock now =>
      obtain rfl := Option.some.inj hstep
      simp [WaitsBriefly]
  | act label =>
      obtain ⟨more, htells, -, -, hdrawn, hnew, hstarts⟩ := step_act h hstep
      have hkept : ∀ id, ∀ moment ∈ state.starts id, after.drawn id = state.drawn id := by
        intro id moment hmoment
        obtain ⟨command, hmem, rfl⟩ := h.recorded id (List.ne_nil_of_mem hmoment)
        exact hdrawn _ (h.records command hmem).1
      have hfirst : ∀ id task, state.world.tasks.get? id = some task →
          after.drawn id = state.drawn id := fun id task htask =>
        hdrawn id (h.locked.known id task htask)
      constructor
      · intro hin
        refine ⟨fun id moment hmoment => ?_, ?_⟩
        · rw [← hkept id moment hmoment]
          exact hin id moment (hstarts id ▸ List.mem_append_left _ hmoment)
        · cases label with
          | enter id =>
              obtain ⟨hexecutes, task, htask⟩ := htells.enters id rfl
              have hmem : state.now ∈ after.starts id := by
                rw [hstarts]
                exact List.mem_append_right _ (List.mem_replicate.mpr ⟨hexecutes, rfl⟩)
              exact Int.sub_left_le_of_le_add (hfirst id task htask ▸ hin id state.now hmem)
          | submit | executeReturns | getStateReturns | cancelTask | ingest => trivial
      · rintro ⟨hin, hwaits⟩ id moment hmoment
        rw [hstarts] at hmoment
        rcases List.mem_append.mp hmoment with hmoment | hmoment
        · rw [hkept id moment hmoment]
          exact hin id moment hmoment
        · obtain ⟨hexecutes, rfl⟩ := List.mem_replicate.mp hmoment
          rcases htells.executed id hexecutes with ⟨rfl, task, htask⟩ | ⟨rfl, -⟩
          · rw [hfirst id task htask]
            exact Int.le_add_of_sub_left_le hwaits
          · rw [hnew]
            exact Int.le_add_of_nonneg_right (by decide)

end Dated

section Paced

structure Paced (hold handover : Nat) (state : Timed) : Prop where
  dated : Dated state
  changed_le : ∀ lock, state.changed lock ≤ state.now
  served : ∀ lock, (state.world.heap lock).Served hold handover (state.changed lock) fun id =>
    state.drawn id + COMMAND_TTL

variable {coercion : Coercion} {hold handover : Nat} {state after : Timed}

theorem Dated.waiter_lt (h : Dated state) {lock : LockId} {id : Uuid}
    (hwaits : id ∈ (state.world.heap lock).waiters) : id < state.world.service.ids := by
  obtain ⟨task, htask, -⟩ := (h.locked.waiter lock id).mp hwaits
  exact h.locked.known id task htask

-- One lock is turned into another state, the others stay as they are.
theorem Paced.turn {label : Label} (h : Paced hold handover state)
    (hstep : state.step coercion (.act label) = some after) (lock : LockId)
    {mutex : FifoMutex Uuid}
    (hheap : after.world.heap = Function.update state.world.heap lock mutex)
    (hserved : mutex.Served hold handover
      (if mutex.holder = (state.world.heap lock).holder then state.changed lock else state.now)
      fun id => after.drawn id + COMMAND_TTL) : Paced hold handover after := by
  have hdated := h.dated.act hstep
  obtain ⟨-, -, -, hnow, hdrawn, -, -⟩ := step_act h.dated hstep
  have hchanged : ∀ other, after.changed other =
      if (after.world.heap other).holder = (state.world.heap other).holder then
        state.changed other
      else state.now := by
    obtain ⟨world, -, rfl⟩ := Option.map_eq_some_iff.mp hstep
    exact fun other => rfl
  refine ⟨hdated, fun other => ?_, fun other => ?_⟩
  · rw [hchanged, hnow]
    split
    · exact h.changed_le other
    · exact le_rfl
  · rw [hchanged, hheap]
    by_cases he : other = lock
    · subst he
      rw [Function.update_self]
      exact hserved
    · rw [Function.update_of_ne he, if_pos rfl]
      refine (h.served other).of_due fun id hid => ?_
      rw [hdrawn id (h.dated.waiter_lt hid)]

theorem Paced.same {label : Label} (h : Paced hold handover state)
    (hstep : state.step coercion (.act label) = some after)
    (hheap : after.world.heap = state.world.heap) : Paced hold handover after := by
  obtain ⟨-, -, -, -, hdrawn, -, -⟩ := step_act h.dated hstep
  refine h.turn hstep 0 (by rw [Function.update_eq_self]; exact hheap) ?_
  rw [if_pos rfl]
  refine (h.served 0).of_due fun id hid => ?_
  rw [hdrawn id (h.dated.waiter_lt hid)]

-- A command releases its lock no later than it has to.
theorem Paced.leave {label : Label} {id : Uuid} {task : Task} (h : Paced hold handover state)
    (hprompt : Prompt hold handover state)
    (hstep : state.step coercion (.act label) = some after)
    (htask : state.world.tasks.get? id = some task) (hphase : task.phase ≠ .waiting)
    (hheap : after.world.heap = Function.update state.world.heap task.lock
      (state.world.heap task.lock).release) : Paced hold handover after := by
  obtain ⟨-, -, -, -, hdrawn, -, -⟩ := step_act h.dated hstep
  have hholder : (state.world.heap task.lock).holder = some id :=
    (h.dated.locked.holder task.lock id).mpr ⟨task, htask, rfl, hphase⟩
  have hheld : (state.world.heap task.lock).holder.isSome := by simp [hholder]
  refine h.turn hstep task.lock hheap ?_
  rw [if_neg (by simp [FifoMutex.release, hholder])]
  have hlock := h.dated.locked.lock_lt id task htask
  refine ((h.served task.lock).release hheld ((hprompt task.lock hlock).1 hheld)).of_due
    fun other hother => ?_
  rw [hdrawn other (h.dated.waiter_lt hother)]

theorem Paced.abandon {label : Label} {id : Uuid} {task : Task} (h : Paced hold handover state)
    (hstep : state.step coercion (.act label) = some after)
    (hheap : after.world.heap = Function.update state.world.heap task.lock
      ((state.world.heap task.lock).abandon id)) : Paced hold handover after := by
  obtain ⟨-, -, -, -, hdrawn, -, -⟩ := step_act h.dated hstep
  have hholder : ((state.world.heap task.lock).abandon id).holder =
      (state.world.heap task.lock).holder := rfl
  refine h.turn hstep task.lock hheap ?_
  rw [if_pos hholder]
  refine ((h.served task.lock).abandon id).of_due fun other hother => ?_
  rw [hdrawn other (h.dated.waiter_lt (List.mem_of_mem_erase hother))]

-- The first of the queue takes the lock, and has not waited too long for it.
theorem Paced.enter {id : Uuid} {task : Task} {mutex : FifoMutex Uuid}
    (h : Paced hold handover state) (hprompt : Prompt hold handover state)
    (hstep : state.step coercion (.act (.enter id)) = some after)
    (hgrant : (state.world.heap task.lock).grant id = some mutex)
    (hheap : after.world.heap = Function.update state.world.heap task.lock mutex) :
    Paced hold handover after ∧ WaitsBriefly state (.act (.enter id)) := by
  obtain ⟨-, -, -, -, hdrawn, -, -⟩ := step_act h.dated hstep
  obtain ⟨hfree, rest, hwaiters, hmutex⟩ := FifoMutex.grant_eq_some hgrant
  have hlock : task.lock < state.world.service.nextLock := by
    obtain ⟨waiting, hwaiting, hsame, -⟩ :=
      (h.dated.locked.waiter task.lock id).mp (hwaiters ▸ List.mem_cons_self)
    exact hsame ▸ h.dated.locked.lock_lt id waiting hwaiting
  have htaken : state.now ≤ state.changed task.lock + handover :=
    (hprompt task.lock hlock).2 hfree (by simp [hwaiters])
  obtain ⟨hnow, hserved⟩ := (h.served task.lock).grant hgrant htaken
  refine ⟨h.turn hstep task.lock hheap ?_, Int.sub_left_le_of_le_add hnow⟩
  rw [if_neg (by simp [hmutex, hfree])]
  refine hserved.of_due fun other hother => ?_
  have hwaits : other ∈ (state.world.heap task.lock).waiters := by
    rw [hmutex] at hother
    exact hwaiters ▸ List.mem_cons_of_mem _ hother
  rw [hdrawn other (h.dated.waiter_lt hwaits)]

-- A new command gets a free lock at once, else it finds a queue that is short enough.
theorem Paced.join {call : SubmitCall} {lock : LockId} (h : Paced hold handover state)
    (hstep : state.step coercion (.act (.submit call)) = some after)
    (hheap : after.world.heap = Function.update state.world.heap lock
      ((state.world.heap lock).acquire state.world.service.ids))
    (hshort : (state.world.heap lock).idle = false →
      (state.world.heap lock).span hold handover (state.world.heap lock).waiters.length ≤
        COMMAND_TTL) : Paced hold handover after := by
  obtain ⟨-, -, -, -, hdrawn, hnew, -⟩ := step_act h.dated hstep
  refine h.turn hstep lock hheap ?_
  cases hidle : (state.world.heap lock).idle with
  | true => exact FifoMutex.served_of_waiters_nil (by simp [FifoMutex.acquire, hidle])
  | false =>
      have hholder : ((state.world.heap lock).acquire state.world.service.ids).holder =
          (state.world.heap lock).holder := by simp [FifoMutex.acquire, hidle]
      rw [if_pos hholder]
      have hserved : (state.world.heap lock).Served hold handover (state.changed lock) fun id =>
          after.drawn id + COMMAND_TTL := (h.served lock).of_due fun id hid => by
        rw [hdrawn id (h.dated.waiter_lt hid)]
      refine hserved.acquire hidle ?_
      rw [hnew]
      exact Int.add_le_add (h.changed_le lock) (hshort hidle)

theorem Paced.step {tick : Tick} (h : Paced hold handover state)
    (hguard : QueuesShort coercion hold handover state tick)
    (hstep : state.step coercion tick = some after) :
    Paced hold handover after ∧ WaitsBriefly state tick := by
  cases tick with
  | clock now =>
      obtain rfl := Option.some.inj hstep
      exact ⟨⟨h.dated.step hstep, fun lock => (h.changed_le lock).trans hguard, h.served⟩, trivial⟩
  | act label =>
      obtain ⟨hprompt, hshort⟩ := hguard
      obtain ⟨world, hworld, hafter⟩ := Option.map_eq_some_iff.mp hstep
      have heq : after.world = world := by rw [← hafter]
      cases step_moved hworld with
      | unwired => exact ⟨h.same hstep (by rw [heq]; rfl), trivial⟩
      | refused | timedOut | ingested => exact ⟨h.same hstep (by rw [heq]), trivial⟩
      | @joined call accepted ref haccepts href hwired =>
          let created := state.world.service.create (fun _ => state.now) call accepted
          have hchosen := join_chosen { state.world with service := created.1 }
            (fun _ => state.now) created.2
          refine ⟨h.join hstep (by rw [heq]; rfl) fun hidle => ?_, trivial⟩
          rcases hchosen.choice with ⟨hhit, -⟩ | ⟨-, hlock, -⟩
          · refine hshort ⟨accepted, ref, haccepts, href, hwired⟩ _ ?_ hidle
            rw [← haccepts.id_eq]
            exact hhit
          · cases hidle.symm.trans (h.dated.locked.idle_of_unused hlock.ge)
      | entered _ _ hgrant => exact h.enter hprompt hstep hgrant (by rw [heq]; rfl)
      | ended htask hphase =>
          exact ⟨h.leave hprompt hstep htask (by simp [hphase]) (by rw [heq]; rfl), trivial⟩
      | reconciled htask hphase =>
          exact ⟨h.leave hprompt hstep htask (by simp [hphase]) (by rw [heq]; rfl), trivial⟩
      | interrupted htask hphase =>
          exact ⟨h.leave hprompt hstep htask hphase (by rw [heq]; rfl), trivial⟩
      | abandoned => exact ⟨h.abandon hstep (by rw [heq]; rfl), trivial⟩

end Paced

variable {coercion : Coercion} {registry : DeviceRegistry} {providers : List String} {now : Time}
  {ticks : List Tick} {state : Timed}

-- Execute is called in time for every command where the queues are short.
theorem inTime_of_queuesShort {hold handover : Nat}
    (hrun : Machine.run (Timed.step coercion) (started registry providers now) ticks = some state)
    (hguard : Machine.Guarded (Timed.step coercion) (QueuesShort coercion hold handover)
      (started registry providers now) ticks) : InTime state := by
  have hdated := dated_started registry providers now
  have hpaced : Paced hold handover (started registry providers now) :=
    ⟨hdated, fun _ => le_rfl, fun _ => FifoMutex.served_of_waiters_nil rfl⟩
  have hinTime : InTime (started registry providers now) := by simp [InTime, started]
  let Kept (reached : Timed) : Prop := Paced hold handover reached ∧ InTime reached
  have hkept : Kept state := by
    refine Machine.guarded_invariant (⟨hpaced, hinTime⟩ : Kept _)
      (fun before tick after hbefore hshort hstep => ?_) hrun hguard
    obtain ⟨hafter, hbriefly⟩ := hbefore.1.step hshort hstep
    exact ⟨hafter, (inTime_step_iff hbefore.1.dated hstep).mpr ⟨hbefore.2, hbriefly⟩⟩
  exact hkept.2

def SECOND : Time := 1000000

section Queue

-- Three commands for one lamp, whose adapter takes ten seconds for each.
def queue : List Tick :=
  List.replicate 3 (.act (.submit (switchOn 0))) ++
  [.clock (10 * SECOND), .act (.executeReturns 0 (.returned ⟨.applied, none, none⟩)),
    .act (.enter 1), .clock (20 * SECOND),
    .act (.executeReturns 1 (.returned ⟨.applied, none, none⟩)), .act (.enter 2)]

-- What is to be looked at on such a run, whether or not a call joins the queue.
def findsShortQueue (hold handover : Nat) (state : Timed) : Tick → Bool
  | .clock now => state.now ≤ now
  | .act label =>
      (List.range state.world.service.nextLock).all (fun lock =>
        (!(state.world.heap lock).holder.isSome || state.now ≤ state.changed lock + hold) &&
          ((state.world.heap lock).holder.isSome || state.now ≤ state.changed lock + handover)) &&
      match label with
      | .submit call => (state.world.service.locks.get? call.deviceId).all fun lock =>
          (state.world.heap lock).span hold handover (state.world.heap lock).waiters.length ≤
            COMMAND_TTL
      | _ => true

theorem queuesShort_of_finds {hold handover : Nat} {state : Timed} {tick : Tick}
    (h : findsShortQueue hold handover state tick = true) :
    QueuesShort coercion hold handover state tick := by
  cases tick with
  | clock now =>
      have hnow : state.now ≤ now := decide_eq_true_eq.mp h
      exact hnow
  | act label =>
      obtain ⟨hprompt, hqueue⟩ := Bool.and_eq_true_iff.mp h
      refine ⟨fun lock hlock => ?_, ?_⟩
      · have hboth := List.all_eq_true.mp hprompt lock (List.mem_range.mpr hlock)
        simp only [Bool.and_eq_true, Bool.or_eq_true, Bool.not_eq_true', decide_eq_true_eq] at hboth
        refine ⟨fun hheld => hboth.1.resolve_left (by simp [hheld]), fun hfree _ => ?_⟩
        exact hboth.2.resolve_left (by simp [hfree])
      · cases label with
        | submit call =>
            intro _ lock hlock _
            exact of_decide_eq_true ((Option.all_eq_true _ _).mp hqueue lock hlock)
        | enter | executeReturns | getStateReturns | cancelTask | ingest => trivial

-- The third command waits for twenty seconds, behind two others.
theorem inTime_of_queuesShort_queue :
    ∃ state, Machine.run (Timed.step strict) (started (lamps 1) ["demo"] 0) queue = some state ∧
      state.starts 2 = [20 * SECOND] ∧
      Machine.Guarded (Timed.step strict) (QueuesShort strict 10000000 0)
        (started (lamps 1) ["demo"] 0) queue ∧
      InTime state := by
  have hsome : (Machine.run (Timed.step strict) (started (lamps 1) ["demo"] 0) queue).any
      (fun state => state.starts 2 = [20 * SECOND]) = true := by decide +kernel
  have hfinds : Machine.Guarded (Timed.step strict)
      (fun state tick => findsShortQueue 10000000 0 state tick = true)
      (started (lamps 1) ["demo"] 0) queue := by decide +kernel
  obtain ⟨state, hrun, hstarts⟩ := (Option.any_eq_true _ _).mp hsome
  have hguard : Machine.Guarded (Timed.step strict) (QueuesShort strict 10000000 0)
      (started (lamps 1) ["demo"] 0) queue :=
    hfinds.weaken (trivial : (fun _ => True) _)
      (fun _ _ _ _ h _ => ⟨trivial, queuesShort_of_finds h⟩) hrun
  exact ⟨state, hrun, of_decide_eq_true hstarts, hguard, inTime_of_queuesShort hrun hguard⟩

end Queue

-- Three commands for one lamp, whose adapter is silent for as long as the settings allow:
-- a minute in execute and half a minute in get_state.
def silence : List Tick :=
  List.replicate 3 (.act (.submit (switchOn 0))) ++
  [.clock (60 * SECOND), .act (.executeReturns 0 .deadline), .clock (90 * SECOND),
    .act (.getStateReturns 0 .deadline), .act (.enter 1), .clock (150 * SECOND),
    .act (.executeReturns 1 .deadline), .clock (180 * SECOND), .act (.getStateReturns 1 .deadline),
    .act (.enter 2)]

-- The third command expires after 120 seconds and is executed after 180.
theorem expired_command_executed :
    ¬ ∀ (coercion : Coercion) (registry : DeviceRegistry) (providers : List String) (now : Time)
        (ticks : List Tick) (state : Timed),
      Machine.run (Timed.step coercion) (started registry providers now) ticks = some state →
        InTime state := by
  intro h
  have hlate : (Machine.run (Timed.step strict) (started (lamps 1) ["demo"] 0) silence).any
      (fun state => decide (180 * SECOND ∈ state.starts 2) &&
        state.world.service.trace.any fun effect => match effect with
          | .remembered command => command.id = 2 ∧ command.expiresAt = 120 * SECOND
          | _ => false) = true := by decide +kernel
  obtain ⟨state, hrun, hstate⟩ := (Option.any_eq_true _ _).mp hlate
  obtain ⟨hstart, hrecord⟩ := Bool.and_eq_true_iff.mp hstate
  obtain ⟨effect, hmem, heffect⟩ := List.any_eq_true.mp hrecord
  cases effect with
  | remembered command =>
      obtain ⟨hid, hexpires⟩ := of_decide_eq_true heffect
      have hle := h strict (lamps 1) ["demo"] 0 silence state hrun 2 _ (of_decide_eq_true hstart)
        command hmem hid
      rw [hexpires] at hle
      exact absurd hle (by decide)
  | recorded | published | executed | executeEnded | readBack | readBackEnded => cases heffect

end Homeflow.Commands
