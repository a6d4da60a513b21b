import Homeflow.Commands.Disguise
import Homeflow.Commands.Gate
import Homeflow.Commands.Serial
import Homeflow.Gateway.World

namespace Homeflow

variable {disguise : ProviderDeviceRef → ProviderDeviceRef}

namespace Commands

open CommandService

def Task.disguised (disguise : ProviderDeviceRef → ProviderDeviceRef) (task : Task) : Task :=
  { task with ref := disguise task.ref }

def Label.disguised (disguise : ProviderDeviceRef → ProviderDeviceRef) : Label → Label
  | .ingest ref state => .ingest (disguise ref) state
  | .submit call => .submit call
  | .enter id => .enter id
  | .executeReturns id outcome => .executeReturns id outcome
  | .getStateReturns id outcome => .getStateReturns id outcome
  | .cancelTask id => .cancelTask id

def World.disguised (disguise : ProviderDeviceRef → ProviderDeviceRef) (registry : DeviceRegistry)
    (world : World) : World :=
  { world with
    service := world.service.disguised disguise registry
    tasks := world.tasks.mapValues (Task.disguised disguise) }

-- The same world but for the handles.
def Likened (disguise : ProviderDeviceRef → ProviderDeviceRef) (world likeness : World) : Prop :=
  ∃ registry, world.service.registry.Disguised disguise registry ∧
    likeness = world.disguised disguise registry

variable {clock : Nat → Time} {coercion : Coercion} {world : World} {registry : DeviceRegistry}

theorem begin_disguised (id : Uuid) (task : Task) :
    (world.disguised disguise registry).begin id (task.disguised disguise) =
      (world.begin id task).disguised disguise registry := by
  have hcall : (task.disguised disguise).call id = (task.call id).disguised disguise := rfl
  simp only [World.begin, World.disguised, hcall, emit_disguised, OrderedDict.mapValues_set]
  rfl

theorem leave_disguised (id : Uuid) (task : Task) :
    (world.disguised disguise registry).leave id (task.disguised disguise) =
      (world.leave id task).disguised disguise registry := by
  simp only [World.leave, World.disguised, OrderedDict.mapValues_erase]
  rfl

theorem join_disguised (command : Command) (ref : ProviderDeviceRef) (params : CommandParams) :
    (world.disguised disguise registry).join clock command (disguise ref) params =
      (world.join clock command ref params).disguised disguise registry := by
  unfold World.join
  rw [show (world.disguised disguise registry).service = world.service.disguised disguise registry
    from rfl, start_disguised]
  generalize world.service.start clock command = started
  dsimp only
  rw [deviceLock_disguised]
  generalize started.1.deviceLock command.deviceId = locked
  dsimp only
  rw [show (world.disguised disguise registry).heap = world.heap from rfl]
  split
  · simp only [World.disguised, World.setLock, OrderedDict.mapValues_set]
    rw [← emit_disguised]
    rfl
  · simp only [World.disguised, World.setLock, OrderedDict.mapValues_set]
    rfl

theorem submit_disguised (hprovider : ∀ ref, (disguise ref).provider = ref.provider)
    (h : world.service.registry.Disguised disguise registry) (call : SubmitCall) :
    (world.submit clock coercion call).1.service.registry.Disguised disguise registry ∧
      (world.disguised disguise registry).submit clock coercion call =
        ((world.submit clock coercion call).1.disguised disguise registry,
          (world.submit clock coercion call).2) := by
  have hchecked : (check clock coercion world.service call).1.registry.Disguised disguise
      registry := by
    rw [check_registry]
    exact h
  unfold World.submit
  rw [show (world.disguised disguise registry).service = world.service.disguised disguise registry
    from rfl, check_disguised _ h]
  generalize check clock coercion world.service call = checked at hchecked
  obtain ⟨service, answer⟩ := checked
  cases answer with
  | error error => exact ⟨hchecked, rfl⟩
  | ok accepted =>
      dsimp only
      rw [create_disguised]
      have hcreated : (service.create clock call accepted).1.registry.Disguised disguise
          registry := hchecked
      generalize service.create clock call accepted = created at hcreated
      dsimp only
      rw [show (created.1.disguised disguise registry).registry.refFor accepted.device.id = _ from
        hcreated.refs accepted.device.id]
      cases created.1.registry.refFor accepted.device.id with
      | none => exact ⟨hcreated, rfl⟩
      | some ref =>
          simp only [Option.map_some, hprovider]
          rw [show (created.1.disguised disguise registry).providers = created.1.providers from rfl]
          split
          · refine ⟨?_, ?_⟩
            · rw [join_registry]
              exact hcreated
            · exact Prod.ext (@join_disguised disguise clock { world with service := created.1 }
                registry created.2 ref accepted.params) rfl
          · rw [finish_disguised]
            refine ⟨?_, rfl⟩
            change (finish clock created.1 created.2 _ _).1.registry.Disguised disguise registry
            rw [finish_registry]
            exact hcreated

theorem executeReturns_likened (h : world.service.registry.Disguised disguise registry)
    (id : Uuid) (task : Task) (outcome : AdapterOutcome ProviderCommandResult) :
    Likened disguise (world.executeReturns clock id task outcome)
      ((world.disguised disguise registry).executeReturns clock id (task.disguised disguise)
        outcome) := by
  obtain ⟨after, hafter, hsame⟩ := @afterExecute_disguised disguise clock registry
    (world.service.emit (.executeEnded id outcome)) h task.running task.ref outcome
  have hemitted : (world.disguised disguise registry).service.emit (.executeEnded id outcome) =
      (world.service.emit (.executeEnded id outcome)).disguised disguise registry :=
    emit_disguised world.service (.executeEnded id outcome)
  unfold World.executeReturns
  dsimp only
  rw [hemitted, show (task.disguised disguise).running = task.running from rfl,
    show (task.disguised disguise).ref = disguise task.ref from rfl, hsame]
  cases hended : (world.service.emit (.executeEnded id outcome)).afterExecute clock task.running
      task.ref outcome with
  | some ended =>
      refine ⟨after, hafter ended hended, ?_⟩
      dsimp only [Option.map_some]
      rw [leave_disguised]
      rfl
  | none =>
      refine ⟨registry, h, ?_⟩
      dsimp only [Option.map_none]
      rw [publish_disguised]
      simp only [World.disguised, OrderedDict.mapValues_set]
      rw [← emit_disguised]
      rfl

theorem getStateReturns_likened (h : world.service.registry.Disguised disguise registry)
    (id : Uuid) (task : Task) (outcome : AdapterOutcome ProviderState) :
    Likened disguise (world.getStateReturns clock id task outcome)
      ((world.disguised disguise registry).getStateReturns clock id (task.disguised disguise)
        outcome) := by
  obtain ⟨after, hafter, hsame⟩ := @afterGetState_disguised disguise clock registry
    (world.service.emit (.readBackEnded id outcome)) h task.running task.ref task.params outcome
  have hemitted : (world.disguised disguise registry).service.emit (.readBackEnded id outcome) =
      (world.service.emit (.readBackEnded id outcome)).disguised disguise registry :=
    emit_disguised world.service (.readBackEnded id outcome)
  unfold World.getStateReturns
  dsimp only
  rw [hemitted, show (task.disguised disguise).running = task.running from rfl,
    show (task.disguised disguise).ref = disguise task.ref from rfl,
    show (task.disguised disguise).params = task.params from rfl, hsame, leave_disguised]
  exact ⟨after, hafter, rfl⟩

theorem cancelTask_likened (h : world.service.registry.Disguised disguise registry)
    (id : Uuid) (task : Task) :
    Likened disguise (world.cancelTask id task)
      ((world.disguised disguise registry).cancelTask id (task.disguised disguise)) := by
  unfold World.cancelTask
  rw [show (task.disguised disguise).phase = task.phase from rfl]
  cases task.phase with
  | waiting =>
      refine ⟨registry, h, ?_⟩
      simp only [World.disguised, World.setLock, OrderedDict.mapValues_erase]
      rfl
  | executing | reconciling => exact ⟨registry, h, leave_disguised id task⟩

-- A step and its likeness lead to a world and its likeness.
theorem step_likened (hprovider : ∀ ref, (disguise ref).provider = ref.provider)
    {likeness : World} (h : Likened disguise world likeness) (label : Label) :
    Option.Rel (Likened disguise) (world.step clock coercion label)
      (likeness.step clock coercion (label.disguised disguise)) := by
  obtain ⟨registry, hregistry, rfl⟩ := h
  have htasks : ∀ id, (world.disguised disguise registry).tasks.get? id =
      (world.tasks.get? id).map (Task.disguised disguise) := fun id =>
    OrderedDict.get?_mapValues _ _ _
  cases label with
  | submit call =>
      obtain ⟨hsubmitted, hsame⟩ := @submit_disguised disguise clock coercion world registry
        hprovider hregistry call
      exact .some ⟨registry, hsubmitted, congrArg Prod.fst hsame⟩
  | enter id =>
      simp only [World.step, Label.disguised, htasks]
      cases world.tasks.get? id with
      | none => exact .none
      | some task =>
          simp only [Option.map_some]
          rw [show (task.disguised disguise).phase = task.phase from rfl]
          split
          · rw [show (world.disguised disguise registry).heap (task.disguised disguise).lock =
              world.heap task.lock from rfl]
            cases (world.heap task.lock).grant id with
            | none => exact .none
            | some mutex =>
                exact .some ⟨registry, hregistry, @begin_disguised disguise
                  (world.setLock task.lock mutex) registry id task⟩
          · exact .none
  | executeReturns id outcome =>
      simp only [World.step, Label.disguised, htasks]
      cases world.tasks.get? id with
      | none => exact .none
      | some task =>
          simp only [Option.map_some]
          rw [show (task.disguised disguise).phase = task.phase from rfl]
          split
          · exact .some (executeReturns_likened hregistry id task outcome)
          · exact .none
  | getStateReturns id outcome =>
      simp only [World.step, Label.disguised, htasks]
      cases world.tasks.get? id with
      | none => exact .none
      | some task =>
          simp only [Option.map_some]
          rw [show (task.disguised disguise).phase = task.phase from rfl]
          split
          · exact .some (getStateReturns_likened hregistry id task outcome)
          · exact .none
  | cancelTask id =>
      simp only [World.step, Label.disguised, htasks]
      cases world.tasks.get? id with
      | none => exact .none
      | some task => exact .some (cancelTask_likened hregistry id task)
  | ingest ref state =>
      obtain ⟨after, hafter, hsame⟩ := ingest_disguised clock world.service hregistry ref state
        .providerEvent none
      refine .some ⟨after, hafter, ?_⟩
      simp only [World.disguised]
      rw [hsame]

end Commands

namespace Gateway

open Commands (Effect)

-- The handles occur where an adapter reports a state.
def Label.disguised (disguise : ProviderDeviceRef → ProviderDeviceRef) : Label → Label
  | .command label => .command (label.disguised disguise)
  | label => label

def World.disguised (disguise : ProviderDeviceRef → ProviderDeviceRef) (registry : DeviceRegistry)
    (world : World) : World :=
  { world with commands := world.commands.disguised disguise registry }

def Likened (disguise : ProviderDeviceRef → ProviderDeviceRef) (world likeness : World) : Prop :=
  ∃ registry, world.commands.service.registry.Disguised disguise registry ∧
    likeness = world.disguised disguise registry

variable {commandsClock schedulesClock : Nat → Time} {maximum : ℚ} {coercion : Coercion}
  {world likeness : World} {registry : DeviceRegistry}

theorem timers_disguised (h : world.commands.service.registry.Disguised disguise registry)
    (label : Label) :
    (world.disguised disguise registry).timers (label.disguised disguise) =
      world.timers label := by
  cases label with
  | create request =>
      simp only [World.timers, Label.disguised]
      rw [show (world.disguised disguise registry).commands.service.registry.get
        request.deviceId = _ from h.get request.deviceId]
      rfl
  | command | createReturns | cancel | wake | loopReturns | stop | fire | fireReturns => rfl

theorem submits_likened (hprovider : ∀ ref, (disguise ref).provider = ref.provider)
    (h : world.commands.service.registry.Disguised disguise registry)
    (stepped : Schedules.Stepped) :
    Likened disguise (world.submits commandsClock coercion stepped)
      ((world.disguised disguise registry).submits commandsClock coercion stepped) := by
  obtain ⟨schedules, call⟩ := stepped
  cases call with
  | none => exact ⟨registry, h, rfl⟩
  | some call =>
      obtain ⟨hsubmitted, hsame⟩ := @Commands.submit_disguised disguise commandsClock coercion
        world.commands registry hprovider h call.2
      refine ⟨registry, hsubmitted, ?_⟩
      simp only [World.submits, World.disguised, hsame]

theorem timed_likened (hprovider : ∀ ref, (disguise ref).provider = ref.provider)
    (h : world.commands.service.registry.Disguised disguise registry) (label : Label) :
    Option.Rel (Likened disguise)
      ((world.timers label).bind fun timer =>
        (world.schedules.advance schedulesClock maximum timer).map
          (world.submits commandsClock coercion))
      (((world.disguised disguise registry).timers (label.disguised disguise)).bind fun timer =>
        ((world.disguised disguise registry).schedules.advance schedulesClock maximum timer).map
          ((world.disguised disguise registry).submits commandsClock coercion)) := by
  rw [timers_disguised h]
  cases world.timers label with
  | none => exact .none
  | some timer =>
      dsimp only [Option.bind_some]
      rw [show (world.disguised disguise registry).schedules = world.schedules from rfl]
      cases world.schedules.advance schedulesClock maximum timer with
      | none => exact .none
      | some stepped => exact .some (submits_likened hprovider h stepped)

theorem step_likened (hprovider : ∀ ref, (disguise ref).provider = ref.provider)
    (h : Likened disguise world likeness) (label : Label) :
    Option.Rel (Likened disguise)
      (world.step commandsClock schedulesClock maximum coercion label)
      (likeness.step commandsClock schedulesClock maximum coercion
        (label.disguised disguise)) := by
  obtain ⟨registry, hregistry, rfl⟩ := h
  have htimed := @timed_likened disguise commandsClock schedulesClock maximum coercion world
    registry hprovider hregistry
  cases label with
  | command inner =>
      have hstep := @Commands.step_likened disguise commandsClock coercion world.commands hprovider
        _ ⟨registry, hregistry, rfl⟩ inner
      simp only [World.step, Label.disguised]
      rw [show (world.disguised disguise registry).commands =
        world.commands.disguised disguise registry from rfl]
      generalize Commands.World.step commandsClock coercion world.commands inner = stepped
        at hstep ⊢
      generalize Commands.World.step commandsClock coercion
        (world.commands.disguised disguise registry) (inner.disguised disguise) = other at hstep ⊢
      cases hstep with
      | none => exact .none
      | some hlike =>
          obtain ⟨after, hafter, rfl⟩ := hlike
          exact .some ⟨after, hafter, rfl⟩
  | create request => exact htimed (.create request)
  | createReturns ticket => exact htimed (.createReturns ticket)
  | cancel principal id => exact htimed (.cancel principal id)
  | wake => exact htimed .wake
  | loopReturns => exact htimed .loopReturns
  | stop => exact htimed .stop
  | fire schedule => exact htimed (.fire schedule)
  | fireReturns ticket => exact htimed (.fireReturns ticket)

theorem run_likened (hprovider : ∀ ref, (disguise ref).provider = ref.provider)
    (h : Likened disguise world likeness) (labels : List Label) :
    Option.Rel (Likened disguise)
      (Machine.run (World.step commandsClock schedulesClock maximum coercion) world labels)
      (Machine.run (World.step commandsClock schedulesClock maximum coercion) likeness
        (labels.map (Label.disguised disguise))) := by
  induction labels generalizing world likeness with
  | nil => exact .some h
  | cons label rest ih =>
      have hstep := @step_likened disguise commandsClock schedulesClock maximum coercion world
        likeness hprovider h label
      simp only [List.map_cons, Machine.run]
      generalize world.step commandsClock schedulesClock maximum coercion label = stepped
        at hstep ⊢
      generalize likeness.step commandsClock schedulesClock maximum coercion
        (label.disguised disguise) = other at hstep ⊢
      cases hstep with
      | none => exact .none
      | some hlike => exact ih hlike

variable (disguise commandsClock coercion) in
-- What clients read, are told and are answered is the same, and what the adapters are told
-- differs in the handles alone.
structure SameForClients (world likeness : World) : Prop where
  devices : likeness.commands.service.registry.listDevices =
    world.commands.service.registry.listDevices
  commands : likeness.commands.service.commands = world.commands.service.commands
  returned : likeness.commands.returned = world.commands.returned
  schedules : likeness.schedules = world.schedules
  calls : likeness.calls = world.calls
  answers : ∀ call, (likeness.commands.submit commandsClock coercion call).2 =
    (world.commands.submit commandsClock coercion call).2
  trace : likeness.commands.service.trace =
    world.commands.service.trace.map (Effect.disguised disguise)

theorem Likened.sameForClients (hprovider : ∀ ref, (disguise ref).provider = ref.provider)
    (h : Likened disguise world likeness) :
    SameForClients disguise commandsClock coercion world likeness := by
  obtain ⟨registry, hregistry, rfl⟩ := h
  refine ⟨hregistry.listDevices, rfl, rfl, rfl, rfl, fun call => ?_, rfl⟩
  have hsame := congrArg Prod.snd (@Commands.submit_disguised disguise commandsClock coercion
    world.commands registry hprovider hregistry call).2
  exact hsame

-- No client can tell by what it reads, is told or is answered, in any run, which handles the
-- adapters have for its devices.
theorem handles_stay_private (hprovider : ∀ ref, (disguise ref).provider = ref.provider)
    {registry other : DeviceRegistry} (hregistry : registry.Disguised disguise other)
    (providers : List String) (labels : List Label) :
    Option.Rel (SameForClients disguise commandsClock coercion)
      (Machine.run (World.step commandsClock schedulesClock maximum coercion)
        (initial registry providers) labels)
      (Machine.run (World.step commandsClock schedulesClock maximum coercion)
        (initial other providers) (labels.map (Label.disguised disguise))) := by
  have hinitial : Likened disguise (initial registry providers) (initial other providers) :=
    ⟨other, hregistry, rfl⟩
  have hrun := @run_likened disguise commandsClock schedulesClock maximum coercion _ _ hprovider
    hinitial labels
  generalize Machine.run _ (initial registry providers) labels = ended at hrun ⊢
  generalize Machine.run _ (initial other providers) _ = endedOther at hrun ⊢
  cases hrun with
  | none => exact .none
  | some hlike => exact .some (hlike.sameForClients hprovider)

-- The lamp under another number of its maker.
def veil (ref : ProviderDeviceRef) : ProviderDeviceRef :=
  { ref with providerDeviceId := "secret" ++ ref.providerDeviceId }

def veiledUuid (ref : ProviderDeviceRef) : Uuid := ref.providerDeviceId.length - 6

theorem veil_injective : Function.Injective veil := by
  intro first second hsame
  obtain ⟨hprovider, hid⟩ := ProviderDeviceRef.mk.inj hsame
  have hlists := congrArg String.toList hid
  rw [String.toList_append, String.toList_append, List.append_cancel_left_eq,
    String.toList_inj] at hlists
  cases first
  cases second
  exact congrArg₂ ProviderDeviceRef.mk hprovider hlists

theorem veiledUuid_veil (ref : ProviderDeviceRef) :
    veiledUuid (veil ref) = Commands.lampUuid ref := by
  simp only [veiledUuid, veil, Commands.lampUuid, String.length_append]
  exact Nat.add_sub_cancel_left _ _

def veiledLamp : DeviceRegistry :=
  DeviceRegistry.empty.register veiledUuid (fun _ => 0)
    { Commands.lamp 0 with ref := veil (Commands.lamp 0).ref } Commands.lampState

theorem handles_stay_private_lamp :
    ∃ world likeness, Machine.run (World.step (fun _ => 0) (fun _ => 0) 24 Commands.strict)
        (initial (Commands.lamps 1) ["demo"]) [.command (.submit (Commands.switchOn 0))] =
          some world ∧
      Machine.run (World.step (fun _ => 0) (fun _ => 0) 24 Commands.strict)
        (initial veiledLamp ["demo"]) [.command (.submit (Commands.switchOn 0))] =
          some likeness ∧
      Commands.executions world.commands.service.trace = [0] ∧
      SameForClients veil (fun _ => 0) Commands.strict world likeness := by
  have hregistry : (Commands.lamps 1).Disguised veil veiledLamp :=
    DeviceRegistry.disguised_empty.register veil_injective veiledUuid_veil _ _
  obtain ⟨world, hrun, hexecuted⟩ := (Option.any_eq_true _ _).mp
    (show (Machine.run (World.step (fun _ => 0) (fun _ => 0) 24 Commands.strict)
      (initial (Commands.lamps 1) ["demo"]) [.command (.submit (Commands.switchOn 0))]).any
        (fun world => decide (Commands.executions world.commands.service.trace = [0])) = true by
      decide +kernel)
  have hveil : ∀ ref, (veil ref).provider = ref.provider := fun _ => rfl
  have hsame := @handles_stay_private veil (fun _ => 0) (fun _ => 0) 24 Commands.strict hveil
    _ _ hregistry ["demo"] [.command (.submit (Commands.switchOn 0))]
  rw [hrun] at hsame
  change Option.Rel _ _ (Machine.run _ _ [Label.command (.submit (Commands.switchOn 0))]) at hsame
  generalize Machine.run _ (initial veiledLamp ["demo"]) _ = ended at hsame ⊢
  cases hsame with
  | some hlike => exact ⟨world, _, hrun, rfl, of_decide_eq_true hexecuted, hlike⟩

end Gateway

end Homeflow
