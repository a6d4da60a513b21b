import Homeflow.Commands.Gate
import Homeflow.Commands.Serial

namespace Homeflow.Commands

open CommandService

-- The pipeline under a clock that reads anything at any time. A step runs from one
-- await to the next, so the clock stands still in it.
structure Timed where
  world : World
  now : Time
  -- The history: when each identifier was drawn, when each lock was last taken or
  -- released, and when execute was called for each command.
  drawn : Uuid → Time
  changed : LockId → Time
  starts : Uuid → List Time := fun _ => []

inductive Tick where
  | clock (now : Time)
  | act (label : Label)

namespace Timed

def calls (world : World) (id : Uuid) : Nat := (executions world.service.trace).count id

def step (coercion : Coercion) (state : Timed) : Tick → Option Timed
  | .clock now => some { state with now }
  | .act label =>
      (state.world.step (fun _ => state.now) coercion label).map fun after =>
        { world := after
          now := state.now
          drawn := fun id => if id < state.world.service.ids then state.drawn id else state.now
          changed := fun lock =>
            if (after.heap lock).holder = (state.world.heap lock).holder then state.changed lock
            else state.now
          starts := fun id => state.starts id ++
            List.replicate (calls after id - calls state.world id) state.now }

end Timed

def started (registry : DeviceRegistry) (providers : List String) (now : Time) : Timed :=
  { world := initial registry providers, now, drawn := fun _ => now, changed := fun _ => now }

-- No call of execute came later than its command's record allows.
def InTime (state : Timed) : Prop :=
  ∀ id, ∀ moment ∈ state.starts id, ∀ command,
    .remembered command ∈ state.world.service.trace → command.id = id →
      moment ≤ command.expiresAt

-- A command that waited for the lock of its device does not enter after more than the
-- two minutes since it was submitted.
def WaitsBriefly (state : Timed) : Tick → Prop
  | .act (.enter id) => state.now - state.drawn id ≤ COMMAND_TTL
  | _ => True

-- Nobody keeps a lock for longer than `hold`, and a released lock is taken within `handover`.
def Prompt (hold handover : Nat) (state : Timed) : Prop :=
  ∀ lock < state.world.service.nextLock,
    ((state.world.heap lock).holder.isSome → state.now ≤ state.changed lock + hold) ∧
    ((state.world.heap lock).holder = none → (state.world.heap lock).waiters ≠ [] →
      state.now ≤ state.changed lock + handover)

-- The clock does not go back, the commands are prompt, and one that has to wait finds
-- a queue that is served within the two minutes.
def QueuesShort (coercion : Coercion) (hold handover : Nat) (state : Timed) : Tick → Prop
  | .clock now => state.now ≤ now
  | .act label => Prompt hold handover state ∧ match label with
      | .submit call => Joins coercion state.world call → ∀ lock,
          state.world.service.locks.get? call.deviceId = some lock →
          (state.world.heap lock).idle = false →
          (state.world.heap lock).span hold handover (state.world.heap lock).waiters.length ≤
            COMMAND_TTL
      | _ => True

section Tells

def Effect.executes (effect : Effect) : Bool := effect.executedId?.isSome

theorem count_executions (id : Uuid) (trace : List Effect) :
    (executions trace).count id = (life id trace).countP Effect.executes := by
  induction trace with
  | nil => rfl
  | cons effect rest ih =>
      have htail : executions (effect :: rest) =
          (effect.executedId?.toList) ++ executions rest := by
        cases effect <;> rfl
      have hlife : life id (effect :: rest) =
          (if effect.concerns id then [effect] else []) ++ life id rest := by
        simp only [life, List.filter_cons]
        split <;> rfl
      rw [htail, hlife, List.count_append, List.countP_append, ih]
      congr 1
      cases effect with
      | executed other ref command =>
          by_cases he : other = id <;>
            simp [Effect.executedId?, Effect.concerns, Effect.executes, he]
      | remembered | executeEnded | readBack | readBackEnded =>
          simp [Effect.executedId?, Effect.executes, apply_ite (List.countP _)]
      | recorded | published => rfl

theorem remembered_mem_life {trace : List Effect} {command : Command} :
    .remembered command ∈ life command.id trace ↔ .remembered command ∈ trace := by
  simp [life, Effect.concerns]

-- What a step at a moment tells of every command, and whom it takes on.
structure Tells (now : Time) (world after : World) (label : Label)
    (more : Uuid → List Effect) : Prop where
  ids : world.service.ids ≤ after.service.ids
  told : ∀ id, life id after.service.trace = life id world.service.trace ++ more id
  flight : ∀ id task, after.tasks.get? id = some task →
    (∃ held, world.tasks.get? id = some held ∧ task.running = held.running) ∨
      (id = world.service.ids ∧ task.running.expiresAt = now + COMMAND_TTL ∧
        .remembered task.running ∈ more id)
  remembered : ∀ id command, .remembered command ∈ more id →
    (id = world.service.ids ∧ id < after.service.ids ∧ command.expiresAt = now + COMMAND_TTL) ∨
      ∃ task, world.tasks.get? id = some task ∧ command.expiresAt = task.running.expiresAt
  executed : ∀ id, (more id).countP Effect.executes ≠ 0 →
    (label = .enter id ∧ ∃ task, world.tasks.get? id = some task) ∨
      (id = world.service.ids ∧ ∃ command, .remembered command ∈ more id ∧ command.id = id)
  enters : ∀ id, label = .enter id → (more id).countP Effect.executes ≠ 0 ∧
    ∃ task, world.tasks.get? id = some task

variable {now : Time} {coercion : Coercion} {world after : World}

-- A step that tells of commands in flight only, and calls no execute.
theorem Tells.quiet {label : Label} {more : Uuid → List Effect}
    (hlabel : ∀ id, label ≠ .enter id) (hids : after.service.ids = world.service.ids)
    (hlife : ∀ id, life id after.service.trace = life id world.service.trace ++ more id)
    (hflight : ∀ id task, after.tasks.get? id = some task →
      ∃ held, world.tasks.get? id = some held ∧ task.running = held.running)
    (hremembered : ∀ id command, .remembered command ∈ more id →
      ∃ task, world.tasks.get? id = some task ∧ command.expiresAt = task.running.expiresAt)
    (hexecuted : ∀ id, (more id).countP Effect.executes = 0) :
    Tells now world after label more :=
  ⟨hids.ge, hlife, fun id task htask => .inl (hflight id task htask),
    fun id command hmem => .inr (hremembered id command hmem),
    fun id hexecutes => absurd (hexecuted id) hexecutes, fun id he => absurd he (hlabel id)⟩

-- A command in flight is finished.
theorem Tells.ended {label : Label} {id : Uuid} {task : Task} {effect : Effect}
    {held : CommandService} {status : CommandStatus} {failureCode : Option String}
    {result : CommandService × Command} (hlabel : ∀ other, label ≠ .enter other)
    (hlocked : Locked world) (htask : world.tasks.get? id = some task)
    (heffect : effect.executes = false ∧ ∀ command, effect ≠ .remembered command)
    (hids : result.1.ids = world.service.ids)
    (hfinishes : Finishes (fun _ => now) (world.service.emit effect) task.running result held
      status failureCode) :
    Tells now world ((world.leave id task).finished id result) label fun other =>
      (if effect.concerns other then [effect] else []) ++
        if id = other then [.remembered result.2] else [] := by
  have hresult : result.2.expiresAt = task.running.expiresAt := by
    rw [hfinishes.result, finish_eq]
    unfold Command.withStatus
    split <;> rfl
  refine .quiet hlabel hids (fun other => ?_) (fun other kept hkept => ?_)
    (fun other command hmem => ?_) (fun other => ?_)
  · have hlife := hfinishes.life_eq other
    rw [life_emit, hlocked.running_id id task htask, List.append_assoc] at hlife
    exact hlife
  · exact held_erase hkept
  · rcases List.mem_append.mp hmem with hmem | hmem
    · split at hmem
      · exact absurd (List.mem_singleton.mp hmem).symm (heffect.2 command)
      · cases hmem
    · split at hmem
      · rename_i he
        cases List.mem_singleton.mp hmem
        exact ⟨task, he ▸ htask, hresult⟩
      · cases hmem
  · have hrecord : (Effect.remembered result.2).executes = false := rfl
    rw [List.countP_append]
    split <;> split <;> simp [heffect.1, hrecord]

theorem tells_entered {id : Uuid} {task : Task} {mutex : FifoMutex Uuid}
    (htask : world.tasks.get? id = some task) :
    Tells now world ((world.setLock task.lock mutex).begin id task) (.enter id) fun other =>
      if id = other then [task.call id] else [] := by
  refine ⟨le_rfl, fun other => life_begin id task world.service other,
    fun other held hheld => .inl (held_rephase htask hheld), fun other command hmem => ?_,
    fun other hexecutes => ?_, fun other he => ?_⟩
  · split at hmem <;> simp [Task.call] at hmem
  · by_cases he : id = other
    · exact .inl ⟨he ▸ rfl, task, he ▸ htask⟩
    · simp [he] at hexecutes
  · cases he
    exact ⟨by simp [Task.call, Effect.executes, Effect.executedId?], task, htask⟩

theorem tells_unwired (call : SubmitCall) (accepted : Accepted) :
    Tells now world (world.finished world.service.ids
      ((world.service.create (fun _ => now) call accepted).1.finish (fun _ => now)
        (world.service.create (fun _ => now) call accepted).2 .failed
          (some "provider_unavailable"))) (.submit call) fun other =>
      if world.service.ids = other then
        [.remembered (world.service.create (fun _ => now) call accepted).2,
          .remembered ((world.service.create (fun _ => now) call accepted).1.finish (fun _ => now)
            (world.service.create (fun _ => now) call accepted).2 .failed
              (some "provider_unavailable")).2] else [] := by
  let created := world.service.create (fun _ => now) call accepted
  have hids : (created.1.finish (fun _ => now) created.2 .failed
      (some "provider_unavailable")).1.ids = world.service.ids + 1 := (frame_finish _ _ _ _ _).ids
  have hlt : world.service.ids < (created.1.finish (fun _ => now) created.2 .failed
      (some "provider_unavailable")).1.ids := hids ▸ Nat.lt_succ_self _
  refine ⟨hlt.le, fun other => ?_, fun other held hheld => .inl ⟨held, hheld, rfl⟩,
    fun other command hmem => ?_, fun other hexecutes => ?_, fun other he => by cases he⟩
  · change life other (created.1.finish _ created.2 _ _).1.trace = _
    rw [life_finish, life_create, create_id, List.append_assoc]
    split <;> rfl
  · split at hmem
    · rename_i he
      refine .inl ⟨he.symm, he ▸ hlt, ?_⟩
      rcases List.mem_cons.mp hmem with hcreated | hfinished
      · cases hcreated
        rfl
      · cases List.mem_singleton.mp hfinished
        rw [finish_eq]
        rfl
    · cases hmem
  · by_cases he : world.service.ids = other
    · simp [he, Effect.executes, Effect.executedId?] at hexecutes
    · simp [he] at hexecutes

theorem tells_joined (call : SubmitCall) (accepted : Accepted)
    (ref : ProviderDeviceRef) :
    ∃ more, Tells now world ({ world with service :=
        (world.service.create (fun _ => now) call accepted).1 }.join (fun _ => now)
          (world.service.create (fun _ => now) call accepted).2 ref accepted.params)
      (.submit call) more := by
  let created := world.service.create (fun _ => now) call accepted
  let before : World := { world with service := created.1 }
  obtain ⟨task, since, htasks, hrunning, -, hsince, hlife⟩ :=
    join_told (fun _ => now) before created.2 ref accepted.params
  have hids : (before.join (fun _ => now) created.2 ref accepted.params).service.ids =
      world.service.ids + 1 := join_ids (fun _ => now) before created.2 ref accepted.params
  have hexpires : task.running.expiresAt = now + COMMAND_TTL := by rw [hrunning]; rfl
  -- Whether it enters at once or waits, no record is made of it since.
  have hnone : ∀ command, .remembered command ∉ since := by
    intro command hmem
    unfold SinceRunning at hsince
    split at hsince
    · simp [hsince] at hmem
    · simp [hsince, Task.call] at hmem
    · obtain ⟨outcome, -, rfl⟩ := hsince
      simp [Task.call] at hmem
  refine ⟨fun other => if world.service.ids = other then
    .remembered created.2 :: .remembered task.running :: since else [], hids ▸ Nat.le_succ _,
    fun other => ?_, fun other held hheld => ?_, fun other command hmem => ?_,
    fun other hexecutes => ?_, fun other he => by cases he⟩
  · rw [hlife]
    change life other created.1.trace ++ (if world.service.ids = other then _ else _) = _
    rw [life_create]
    split <;> simp [created]
  · rw [htasks, OrderedDict.get?_set_eq_some] at hheld
    obtain ⟨rfl, rfl⟩ | ⟨-, hheld⟩ := hheld
    · refine .inr ⟨rfl, hexpires, ?_⟩
      rw [if_pos (show world.service.ids = created.2.id from rfl)]
      simp
    · exact .inl ⟨held, hheld, rfl⟩
  · split at hmem
    · rename_i he
      refine .inl ⟨he.symm, by rw [hids, ← he]; exact Nat.lt_succ_self _, ?_⟩
      rcases List.mem_cons.mp hmem with hcreated | hmem
      · cases hcreated
        rfl
      · rcases List.mem_cons.mp hmem with hran | hmem
        · cases hran
          exact hexpires
        · exact absurd hmem (hnone command)
    · cases hmem
  · by_cases he : world.service.ids = other
    · exact .inr ⟨he.symm, created.2, by simp [he], he⟩
    · simp [he] at hexecutes

theorem step_tells {label : Label} (hlocked : Locked world)
    (hstep : World.step (fun _ => now) coercion world label = some after) :
    ∃ more, Tells now world after label more := by
  cases step_moved hstep with
  | @refused call service _ hcheck =>
      have hframe := frame_check (fun _ => now) coercion world.service call
      have hlife := fun id => life_check (fun _ => now) coercion world.service id call
      rw [hcheck] at hframe hlife
      exact ⟨fun _ => [], .quiet (by simp) hframe.ids (fun id => by simp [hlife])
        (fun id task htask => ⟨task, htask, rfl⟩) (by simp) (by simp)⟩
  | @unwired call accepted => exact ⟨_, tells_unwired call accepted⟩
  | @joined call accepted ref => exact tells_joined call accepted ref
  | @entered id task _ htask => exact ⟨_, tells_entered htask⟩
  | @ended id task outcome result htask _ hended =>
      obtain ⟨held, status, failureCode, hfinishes⟩ := finishes_afterExecute hended
      exact ⟨_, .ended (by simp) hlocked htask ⟨rfl, by simp⟩
        ((frame_emit _ _).trans (frame_afterExecute _ _ hended)).ids hfinishes⟩
  | @timedOut id task outcome htask =>
      refine ⟨fun other => if id = other then
        [.executeEnded id outcome, .readBack id task.ref] else [], .quiet (by simp) rfl
        (fun other => ?_) (fun other held hheld => held_rephase htask hheld)
        (fun other command hmem => ?_) (fun other => ?_)⟩
      · by_cases he : id = other <;> simp [Effect.concerns, he]
      · split at hmem <;> simp at hmem
      · split <;> rfl
  | @reconciled id task outcome htask =>
      obtain ⟨held, status, failureCode, hfinishes, -⟩ := finishes_afterGetState (fun _ => now)
        (world.service.emit (.readBackEnded id outcome)) task.running task.ref task.params outcome
      exact ⟨_, .ended (by simp) hlocked htask ⟨rfl, by simp⟩
        ((frame_emit _ _).trans (frame_afterGetState _ _ _ _ _ _)).ids hfinishes⟩
  | @abandoned id task htask =>
      exact ⟨fun _ => [], .quiet (by simp) rfl (fun _ => by simp [World.setLock])
        (fun other held hheld => held_erase hheld) (by simp) (by simp)⟩
  | @interrupted id task htask =>
      exact ⟨fun _ => [], .quiet (by simp) rfl (fun _ => by simp [World.leave, World.setLock])
        (fun other held hheld => held_erase hheld) (by simp) (by simp)⟩
  | ingested =>
      exact ⟨fun _ => [], .quiet (by simp) (frame_ingest _ _ _ _ _ _).ids (fun _ => by simp)
        (fun id task htask => ⟨task, htask, rfl⟩) (by simp) (by simp)⟩

end Tells

end Homeflow.Commands
