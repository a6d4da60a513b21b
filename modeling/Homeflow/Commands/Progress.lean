import Homeflow.Commands.Lifecycle
import Homeflow.Commands.Serial

namespace Homeflow.Commands

open CommandService

variable {clock : Nat → Time} {coercion : Coercion} {world after : World}

-- A command that is neither in flight nor returned had its task cancelled.
def Accounted (world : World) (id : Uuid) : Prop :=
  (world.tasks.get? id).isSome ∨ (world.returned.get? id).isSome

theorem Accounted.of_tasks {id : Uuid} (h : Accounted world id)
    (htasks : (world.tasks.get? id).isSome → (after.tasks.get? id).isSome)
    (hreturned : after.returned = world.returned) : Accounted after id := by
  rcases h with h | h
  · exact .inl (htasks h)
  · exact .inr (hreturned ▸ h)

theorem Accounted.left {id other : Uuid} {task : Task} {result : CommandService × Command}
    (h : Accounted world other) : Accounted ((world.leave id task).finished id result) other := by
  by_cases he : other = id
  · subst he
    exact .inr (Option.isSome_iff_exists.mpr ⟨_, OrderedDict.get?_set_self _ _ _⟩)
  · rcases h with h | h
    · exact .inl (OrderedDict.isSome_erase he h)
    · exact .inr (OrderedDict.isSome_set h)

theorem accounted_step {label : Label} {id : Uuid}
    (hstep : World.step clock coercion world label = some after)
    (h : id < world.service.ids → Accounted world id) (hid : id < after.service.ids) :
    Accounted after id ∨ label = .cancelTask id := by
  cases step_moved hstep with
  | @refused call _ _ hcheck =>
      have hframe := frame_check clock coercion world.service call
      rw [hcheck] at hframe
      exact .inl (h (hframe.ids ▸ hid))
  | @unwired call accepted =>
      have hids := (frame_finish clock (world.service.create clock call accepted).1
        (world.service.create clock call accepted).2 .failed (some "provider_unavailable")).ids
      have hlt : id < world.service.ids + 1 := lt_of_lt_of_eq hid hids
      rcases Nat.lt_succ_iff_lt_or_eq.mp hlt with hlt | rfl
      · rcases h hlt with hold | hold
        · exact .inl (.inl hold)
        · exact .inl (.inr (OrderedDict.isSome_set hold))
      · exact .inl (.inr (Option.isSome_iff_exists.mpr ⟨_, OrderedDict.get?_set_self _ _ _⟩))
  | @joined call accepted ref =>
      let before : World := { world with service := (world.service.create clock call accepted).1 }
      obtain ⟨task, -, htasks, -⟩ := join_told clock before
        (world.service.create clock call accepted).2 ref accepted.params
      have hids := join_ids clock before (world.service.create clock call accepted).2 ref
        accepted.params
      have hlt : id < world.service.ids + 1 := lt_of_lt_of_eq hid hids
      rcases Nat.lt_succ_iff_lt_or_eq.mp hlt with hlt | rfl
      · exact .inl ((h hlt).of_tasks (fun hold => htasks ▸ OrderedDict.isSome_set hold) rfl)
      · refine .inl (.inl ?_)
        rw [htasks]
        exact Option.isSome_iff_exists.mpr ⟨_, OrderedDict.get?_set_self _ _ _⟩
  | entered htask =>
      exact .inl ((h hid).of_tasks OrderedDict.isSome_set rfl)
  | ended _ _ hended =>
      have hids := ((frame_emit _ _).trans (frame_afterExecute _ _ hended)).ids
      exact .inl (h (hids ▸ hid)).left
  | timedOut => exact .inl ((h hid).of_tasks OrderedDict.isSome_set rfl)
  | @reconciled other task outcome =>
      have hids := ((frame_emit world.service (.readBackEnded other outcome)).trans
        (frame_afterGetState clock _ task.running task.ref task.params outcome)).ids
      exact .inl (h (hids ▸ hid)).left
  | @abandoned other task htask hphase =>
      by_cases he : id = other
      · exact .inr (he ▸ rfl)
      · exact .inl ((h hid).of_tasks (fun hold => OrderedDict.isSome_erase he hold) rfl)
  | @interrupted other task htask hphase =>
      by_cases he : id = other
      · exact .inr (he ▸ rfl)
      · exact .inl ((h hid).of_tasks (fun hold => OrderedDict.isSome_erase he hold) rfl)
  | ingested => exact .inl (h ((frame_ingest _ _ _ _ _ _).ids ▸ hid))

theorem accounted {registry : DeviceRegistry} {providers : List String} {labels : List Label}
    {id : Uuid} (hrun : Machine.run (World.step clock coercion) (initial registry providers)
      labels = some world) (hid : id < world.service.ids) :
    Accounted world id ∨ .cancelTask id ∈ labels := by
  induction labels using List.reverseRecOn generalizing world with
  | nil =>
      obtain rfl := Option.some.inj hrun
      cases hid
  | append_singleton labels label ih =>
      obtain ⟨before, hbefore, hstep⟩ := Machine.run_concat.mp hrun
      by_cases hcancelled : .cancelTask id ∈ labels
      · exact .inr (List.mem_append_left _ hcancelled)
      · have hold : id < before.service.ids → Accounted before id := fun hlt =>
          (ih hbefore hlt).resolve_right hcancelled
        rcases accounted_step hstep hold hid with hnow | rfl
        · exact .inl hnow
        · exact .inr (List.mem_append_right _ (List.mem_singleton_self _))

-- The steps a command in flight needs to go on, with the answers of one provider.
def Follows (execute : Uuid → AdapterOutcome ProviderCommandResult)
    (getState : Uuid → AdapterOutcome ProviderState) : Label → Prop
  | .enter _ => True
  | .executeReturns id outcome => outcome = execute id
  | .getStateReturns id outcome => outcome = getState id
  | .submit _ | .cancelTask _ | .ingest _ _ => False

section Returns

variable (clock coercion) (execute : Uuid → AdapterOutcome ProviderCommandResult)
  (getState : Uuid → AdapterOutcome ProviderState)

-- Reading back ends the command, whatever it finds.
theorem returns_reconciling {id : Uuid} {task : Task} (htask : world.tasks.get? id = some task)
    (hphase : task.phase = .reconciling) :
    ∃ after, World.step clock coercion world (.getStateReturns id (getState id)) = some after ∧
      (after.returned.get? id).isSome ∧
      after.heap task.lock = (world.heap task.lock).release := by
  refine ⟨_, by simp only [World.step, htask, hphase, if_true]; rfl, ?_, ?_⟩
  · exact Option.isSome_iff_exists.mpr ⟨_, OrderedDict.get?_set_self _ _ _⟩
  · exact Function.update_self _ _ _

-- A command inside its locked section returns and releases the lock.
theorem returns_inside {id : Uuid} {task : Task} (htask : world.tasks.get? id = some task)
    (hphase : task.phase ≠ .waiting) :
    ∃ rest after, (∀ label ∈ rest, Follows execute getState label) ∧
      Machine.run (World.step clock coercion) world rest = some after ∧
      (after.returned.get? id).isSome ∧
      after.heap task.lock = (world.heap task.lock).release := by
  cases hcases : task.phase with
  | waiting => exact absurd hcases hphase
  | reconciling =>
      obtain ⟨after, hstep, hreturned, hheap⟩ :=
        returns_reconciling clock coercion getState htask hcases
      refine ⟨[.getStateReturns id (getState id)], after, by simp [Follows], ?_, hreturned, hheap⟩
      simp [Machine.run, hstep]
  | executing =>
      cases hended : (world.service.emit (.executeEnded id (execute id))).afterExecute clock
          task.running task.ref (execute id) with
      | some result =>
          refine ⟨[.executeReturns id (execute id)], (world.leave id task).finished id result,
            by simp [Follows], ?_, ?_, Function.update_self _ _ _⟩
          · simp [Machine.run, World.step, htask, hcases, World.executeReturns, hended]
          · exact Option.isSome_iff_exists.mpr ⟨_, OrderedDict.get?_set_self _ _ _⟩
      | none =>
          -- The lock stays held while the state is read back.
          have hstep : World.step clock coercion world (.executeReturns id (execute id)) =
              some (world.executeReturns clock id task (execute id)) := by
            simp [World.step, htask, hcases]
          have hmiddle : (world.executeReturns clock id task (execute id)).tasks.get? id =
              some { task with phase := .reconciling } := by
            simp [World.executeReturns, hended]
          obtain ⟨after, hread, hreturned, hheap⟩ :=
            returns_reconciling clock coercion getState hmiddle rfl
          refine ⟨[.executeReturns id (execute id), .getStateReturns id (getState id)], after,
            by simp [Follows], by simp [Machine.run, hstep, hread], hreturned, ?_⟩
          rw [hheap]
          simp [World.executeReturns, hended]

-- The first of the queue of a free lock enters.
theorem enters {lock : LockId} {first : Uuid} {rest : List Uuid} (hlocked : Locked world)
    (hfree : (world.heap lock).holder = none)
    (hwaiters : (world.heap lock).waiters = first :: rest) :
    ∃ after task, World.step clock coercion world (.enter first) = some after ∧
      after.tasks.get? first = some task ∧ task.phase ≠ .waiting ∧ task.lock = lock ∧
      after.heap lock = ⟨some first, rest⟩ := by
  obtain ⟨task, htask, rfl, hphase⟩ := (hlocked.waiter lock first).mp (by simp [hwaiters])
  have hgrant : (world.heap task.lock).grant first = some ⟨some first, rest⟩ := by
    simp [FifoMutex.grant, hfree, hwaiters]
  refine ⟨(world.setLock task.lock ⟨some first, rest⟩).begin first task,
    { task with phase := .executing }, ?_, OrderedDict.get?_set_self _ _ _, by simp, rfl, ?_⟩
  · simp [World.step, htask, hphase, hgrant]
  · exact Function.update_self _ _ _

-- Everyone who waits before the command enters and returns first.
theorem returns_waiting {lock : LockId} {id : Uuid} (ahead behind : List Uuid)
    (hlocked : Locked world) (hfree : (world.heap lock).holder = none)
    (hwaiters : (world.heap lock).waiters = ahead ++ id :: behind) :
    ∃ rest after, (∀ label ∈ rest, Follows execute getState label) ∧
      Machine.run (World.step clock coercion) world rest = some after ∧
      (after.returned.get? id).isSome := by
  induction ahead generalizing world with
  | nil =>
      obtain ⟨entered, task, hstep, htask, hphase, -, -⟩ :=
        enters clock coercion hlocked hfree hwaiters
      obtain ⟨rest, after, hfollows, hrun, hreturned, -⟩ :=
        returns_inside clock coercion execute getState htask hphase
      refine ⟨.enter id :: rest, after, ?_, by simp [Machine.run, hstep, hrun], hreturned⟩
      exact List.forall_mem_cons.mpr ⟨trivial, hfollows⟩
  | cons first ahead ih =>
      obtain ⟨entered, task, hstep, htask, hphase, hlock, hheap⟩ :=
        enters clock coercion hlocked hfree hwaiters
      obtain ⟨rest, middle, hfollows, hrun, -, hreleased⟩ :=
        returns_inside clock coercion execute getState htask hphase
      have hmiddle : Locked middle := Machine.invariant (locked_step hlocked hstep)
        (fun _ _ _ hbefore hnext => locked_step hbefore hnext) hrun
      rw [hlock, hheap] at hreleased
      obtain ⟨more, after, hmore, hlast, hreturned⟩ := ih hmiddle (by rw [hreleased]; rfl)
        (by rw [hreleased]; rfl)
      refine ⟨.enter first :: (rest ++ more), after, ?_, ?_, hreturned⟩
      · exact List.forall_mem_cons.mpr ⟨trivial, List.forall_mem_append.mpr ⟨hfollows, hmore⟩⟩
      · simp [Machine.run, hstep, Machine.run_append, hrun, hlast]

end Returns

-- A command in flight returns, whatever the provider answers.
theorem returns_inFlight (execute : Uuid → AdapterOutcome ProviderCommandResult)
    (getState : Uuid → AdapterOutcome ProviderState) (hlocked : Locked world) {id : Uuid}
    {task : Task} (htask : world.tasks.get? id = some task) :
    ∃ rest after, (∀ label ∈ rest, Follows execute getState label) ∧
      Machine.run (World.step clock coercion) world rest = some after ∧
      (after.returned.get? id).isSome := by
  by_cases hphase : task.phase = .waiting
  · have hmem := (hlocked.waiter task.lock id).mpr ⟨task, htask, rfl, hphase⟩
    obtain ⟨ahead, behind, hwaiters⟩ := List.append_of_mem hmem
    cases hholder : (world.heap task.lock).holder with
    | none =>
        exact returns_waiting clock coercion execute getState ahead behind hlocked hholder hwaiters
    | some holder =>
        obtain ⟨other, hother, hlock, hinside⟩ := (hlocked.holder task.lock holder).mp hholder
        obtain ⟨rest, middle, hfollows, hrun, -, hreleased⟩ :=
          returns_inside clock coercion execute getState hother hinside
        have hmiddle : Locked middle := Machine.invariant hlocked
          (fun _ _ _ hbefore hnext => locked_step hbefore hnext) hrun
        rw [hlock] at hreleased
        have hfree : (middle.heap task.lock).holder = none := by rw [hreleased]; rfl
        have hqueue : (middle.heap task.lock).waiters = ahead ++ id :: behind := by
          rw [hreleased]
          exact hwaiters
        obtain ⟨more, after, hmore, hlast, hreturned⟩ :=
          returns_waiting clock coercion execute getState ahead behind hmiddle hfree hqueue
        refine ⟨rest ++ more, after, List.forall_mem_append.mpr ⟨hfollows, hmore⟩, ?_, hreturned⟩
        simp [Machine.run_append, hrun, hlast]
  · obtain ⟨rest, after, hfollows, hrun, hreturned, -⟩ :=
      returns_inside clock coercion execute getState htask hphase
    exact ⟨rest, after, hfollows, hrun, hreturned⟩

theorem told_initial {registry : DeviceRegistry} {providers : List String}
    (hwired : ∀ id ref, registry.refFor id = some ref → ref.provider ∈ providers) :
    Told clock (initial registry providers) :=
  ⟨fun _ _ htask => by simp [initial] at htask, fun _ _ hfinal => by simp [initial] at hfinal,
    fun _ _ hfinal => by simp [initial] at hfinal, fun _ _ => rfl, hwired⟩

theorem told_run {registry : DeviceRegistry} {providers : List String} {labels : List Label}
    (hwired : ∀ id ref, registry.refFor id = some ref → ref.provider ∈ providers)
    (hrun : Machine.run (World.step clock coercion) (initial registry providers) labels =
      some world) : Locked world ∧ Told clock world := by
  let inv : World → Prop := fun world => Locked world ∧ Told clock world
  have hinv : inv world := Machine.invariant ⟨locked_initial rfl, told_initial hwired⟩
    (fun _ _ _ hbefore hstep => ⟨locked_step hbefore.1 hstep,
      told_step hbefore.2 hbefore.1 hstep⟩) hrun
  exact hinv

-- Every accepted submit draws the next identifier. Unless its task is cancelled it
-- returns whatever the provider does, and what it returns went one of the two ways.
theorem accepted_command_lifecycle {registry : DeviceRegistry} {providers : List String}
    {labels : List Label} {id : Uuid}
    (hwired : ∀ id ref, registry.refFor id = some ref → ref.provider ∈ providers)
    (hrun : Machine.run (World.step clock coercion) (initial registry providers) labels =
      some world)
    (hid : id < world.service.ids) (hcancelled : .cancelTask id ∉ labels) :
    (∀ final, world.returned.get? id = some final →
      Lifecycle clock id final (life id world.service.trace)) ∧
    ∀ (execute : Uuid → AdapterOutcome ProviderCommandResult)
      (getState : Uuid → AdapterOutcome ProviderState), ∃ rest after final,
        (∀ label ∈ rest, Follows execute getState label) ∧
        Machine.run (World.step clock coercion) world rest = some after ∧
        after.returned.get? id = some final ∧
        Lifecycle clock id final (life id after.service.trace) := by
  obtain ⟨hlocked, htold⟩ := told_run hwired hrun
  refine ⟨htold.ended id, fun execute getState => ?_⟩
  rcases (accounted hrun hid).resolve_right hcancelled with hflight | hreturned
  · obtain ⟨task, htask⟩ := Option.isSome_iff_exists.mp hflight
    obtain ⟨rest, after, hfollows, hrest, hreturned⟩ :=
      returns_inFlight execute getState hlocked htask
    obtain ⟨final, hfinal⟩ := Option.isSome_iff_exists.mp hreturned
    have hwhole : Machine.run (World.step clock coercion) (initial registry providers)
        (labels ++ rest) = some after := by
      rw [Machine.run_append, hrun]
      exact hrest
    exact ⟨rest, after, final, hfollows, hrest, hfinal,
      (told_run hwired hwhole).2.ended id final hfinal⟩
  · obtain ⟨final, hfinal⟩ := Option.isSome_iff_exists.mp hreturned
    exact ⟨[], world, final, by simp, rfl, hfinal, htold.ended id final hfinal⟩

theorem lamps_wired (count : Nat) :
    ∀ id ref, (lamps count).refFor id = some ref → ref.provider ∈ ["demo"] := by
  induction count with
  | zero =>
      intro id ref href
      simp [lamps, DeviceRegistry.empty, DeviceRegistry.refFor] at href
  | succ count ih =>
      intro id ref href
      simp only [lamps, DeviceRegistry.register, DeviceRegistry.refFor,
        OrderedDict.get?_set] at href
      split at href
      · obtain rfl := Option.some.inj href
        exact List.mem_singleton_self _
      · exact ih id ref href

theorem accepted_command_lifecycle_lamp :
    ∃ world, Machine.run (World.step (fun _ => 0) strict) (initial (lamps 1) ["demo"])
        [.submit (switchOn 0)] = some world ∧
      ∃ rest after final,
        (∀ label ∈ rest, Follows (fun _ => .deadline) (fun _ => .deadline) label) ∧
        Machine.run (World.step (fun _ => 0) strict) world rest = some after ∧
        after.returned.get? 0 = some final ∧
        Lifecycle (fun _ => 0) 0 final (life 0 after.service.trace) := by
  obtain ⟨hget, href⟩ := lamps_get (show 0 < 1 by omega)
  have haccepts := accepts_switchOn strict hget
  have hids : ((initial (lamps 1) ["demo"]).submit (fun _ => 0) strict (switchOn 0)).1.service.ids =
      1 := by
    rw [submit_of_accepts haccepts href (List.mem_singleton_self _)]
    exact join_ids _ _ _ _ _
  have hrun : Machine.run (World.step (fun _ => 0) strict) (initial (lamps 1) ["demo"])
      [.submit (switchOn 0)] = some ((initial (lamps 1) ["demo"]).submit (fun _ => 0) strict
        (switchOn 0)).1 := rfl
  refine ⟨_, hrun, ?_⟩
  exact (accepted_command_lifecycle (lamps_wired 1) hrun (hids ▸ Nat.zero_lt_one)
    (fun hmem => by cases List.mem_singleton.mp hmem)).2 _ _

end Homeflow.Commands
