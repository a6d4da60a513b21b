import Homeflow.Commands.Gate
import Homeflow.Commands.Serial
import Homeflow.Gateway.World

namespace Homeflow.Gateway

open Commands (Admissible Originates Refused)

variable {commandsClock schedulesClock : Nat → Time} {maximum : ℚ} {coercion : Coercion}
  {world after : World} {label : Label}

-- What a step of the timer service comes to: its own step, and the call of submit in it.
theorem step_timers (htimer : ∀ inner, label ≠ .command inner)
    (h : World.step commandsClock schedulesClock maximum coercion world label = some after) :
    ∃ timer stepped, world.timers label = some timer ∧
      world.schedules.advance schedulesClock maximum timer = some stepped ∧
      after = world.submits commandsClock coercion stepped ∧
      world.submitted schedulesClock maximum label = stepped.2.map Prod.snd := by
  have hstep : (world.timers label).bind (fun timer =>
      (world.schedules.advance schedulesClock maximum timer).map
        (world.submits commandsClock coercion)) = some after := by
    rw [← h]
    unfold World.step
    split
    · exact absurd rfl (htimer _)
    · rfl
  have hsubmitted : world.submitted schedulesClock maximum label =
      (world.timers label).bind fun timer =>
        (world.schedules.advance schedulesClock maximum timer).bind fun stepped =>
          stepped.2.map Prod.snd := by
    unfold World.submitted
    split
    · exact absurd rfl (htimer _)
    · rfl
  obtain ⟨timer, hlabel, hadvance⟩ := Option.bind_eq_some_iff.mp hstep
  obtain ⟨stepped, hstepped, rfl⟩ := Option.map_eq_some_iff.mp hadvance
  refine ⟨timer, stepped, hlabel, hstepped, rfl, ?_⟩
  rw [hsubmitted, hlabel, Option.bind_some, hstepped, Option.bind_some]

-- The step of the command service inside a step of the gateway, if there is one.
theorem step_commands
    (h : World.step commandsClock schedulesClock maximum coercion world label = some after) :
    after.commands = world.commands ∨
      ∃ inner, Commands.World.step commandsClock coercion world.commands inner =
          some after.commands ∧
        ∀ call, inner = .submit call →
          world.submitted schedulesClock maximum label = some call := by
  by_cases hlabel : ∃ inner, label = .command inner
  · obtain ⟨inner, rfl⟩ := hlabel
    obtain ⟨commands, hinner, rfl⟩ := Option.map_eq_some_iff.mp h
    exact .inr ⟨inner, hinner, fun call hcall => by rw [hcall]; rfl⟩
  · obtain ⟨timer, ⟨schedules, made⟩, -, -, rfl, hsubmitted⟩ :=
      step_timers (fun inner hinner => hlabel ⟨inner, hinner⟩) h
    cases made with
    | none => exact .inl rfl
    | some made =>
        refine .inr ⟨.submit made.2, rfl, fun call hcall => ?_⟩
        obtain rfl := Commands.Label.submit.inj hcall
        exact hsubmitted

-- A step that calls submit makes the state of the commands what submit makes of it.
theorem submitted_commands {call : SubmitCall}
    (h : World.step commandsClock schedulesClock maximum coercion world label = some after)
    (hcall : world.submitted schedulesClock maximum label = some call) :
    after.commands = (world.commands.submit commandsClock coercion call).1 := by
  by_cases hlabel : ∃ inner, label = .command inner
  · obtain ⟨inner, rfl⟩ := hlabel
    obtain ⟨commands, hinner, rfl⟩ := Option.map_eq_some_iff.mp h
    cases inner with
    | submit made =>
        obtain rfl := Option.some.inj hcall
        exact (Option.some.inj hinner).symm
    | enter | executeReturns | getStateReturns | cancelTask | ingest => cases hcall
  · obtain ⟨timer, ⟨schedules, made⟩, -, -, rfl, hsubmitted⟩ :=
      step_timers (fun inner hinner => hlabel ⟨inner, hinner⟩) h
    rw [hsubmitted] at hcall
    obtain ⟨⟨ticket, found⟩, rfl, rfl⟩ := Option.map_eq_some_iff.mp hcall
    rfl

variable (commandsClock schedulesClock maximum coercion) in
-- The step among these that submitted a command, in a state where that was admissible.
def Stems (start : World) (labels : List Label) (id : Uuid) (ref : ProviderDeviceRef)
    (command : ProviderCommand) : Prop :=
  ∃ first label rest before call device, labels = first ++ label :: rest ∧
    Machine.run (World.step commandsClock schedulesClock maximum coercion) start first =
      some before ∧
    before.submitted schedulesClock maximum label = some call ∧
    before.commands.service.ids = id ∧
    Admissible coercion before.commands.service.registry call ref command device

theorem Stems.concat {start : World} {labels : List Label} {id : Uuid} {ref : ProviderDeviceRef}
    {command : ProviderCommand}
    (h : Stems commandsClock schedulesClock maximum coercion start labels id ref command)
    (label : Label) :
    Stems commandsClock schedulesClock maximum coercion start (labels ++ [label]) id ref
      command := by
  obtain ⟨first, made, rest, before, call, device, rfl, hrest⟩ := h
  exact ⟨first, made, rest ++ [label], before, call, device, by simp, hrest⟩

theorem stems_run {registry : DeviceRegistry} {providers : List String} {labels : List Label}
    (hrun : Machine.run (World.step commandsClock schedulesClock maximum coercion)
      (initial registry providers) labels = some world) :
    Originates (Stems commandsClock schedulesClock maximum coercion
      (initial registry providers) labels) world.commands := by
  induction labels using List.reverseRecOn generalizing world with
  | nil =>
      obtain rfl := Option.some.inj hrun
      exact ⟨fun _ _ htask => by simp [initial, Commands.initial] at htask,
        fun _ _ _ hmem => by simp [initial, Commands.initial] at hmem⟩
  | append_singleton labels label ih =>
      obtain ⟨before, hbefore, hstep⟩ := Machine.run_concat.mp hrun
      obtain ⟨hflight, hexecuted⟩ := ih hbefore
      have hkept : Originates (Stems commandsClock schedulesClock maximum coercion
          (initial registry providers) (labels ++ [label])) before.commands :=
        ⟨fun id task htask => (hflight id task htask).concat label,
          fun id ref command hmem => (hexecuted id ref command hmem).concat label⟩
      rcases step_commands hstep with hsame | ⟨inner, hinner, hsubmitted⟩
      · rw [hsame]
        exact hkept
      · refine Commands.originates_step hkept ?_ hinner
        intro call ref command device hcall hadmissible
        exact ⟨labels, label, [], before, call, device, rfl, hbefore, hsubmitted call hcall, rfl,
          hadmissible⟩

-- In every run of taps and timers an adapter is only called with what an admissible
-- submit asked for, and a submit that is not admissible raises and leaves no trace.
theorem command_gate {registry : DeviceRegistry} {providers : List String} {labels : List Label}
    (hrun : Machine.run (World.step commandsClock schedulesClock maximum coercion)
      (initial registry providers) labels = some world) :
    (∀ id ref command, .executed id ref command ∈ world.commands.service.trace →
      Stems commandsClock schedulesClock maximum coercion (initial registry providers) labels id
          ref command ∧
        command.action ≠ .unlatch ∧
        ∀ desired, command = ⟨.setLockState, .lockState desired⟩ → desired.val ≠ .unlocked) ∧
    ∀ label call after, world.submitted schedulesClock maximum label = some call →
      (∀ ref command device,
        ¬Admissible coercion world.commands.service.registry call ref command device) →
      World.step commandsClock schedulesClock maximum coercion world label = some after →
      ∃ error, (world.commands.submit commandsClock coercion call).2 = .refused error ∧
        Refused world.commands after.commands := by
  refine ⟨fun id ref command hmem => ?_, fun label call after hcall hinadmissible hstep => ?_⟩
  · have hstems := (stems_run hrun).executed id ref command hmem
    refine ⟨hstems, ?_⟩
    obtain ⟨_, _, _, _, _, _, -, -, -, -, hadmissible⟩ := hstems
    exact hadmissible.never_opens
  · rw [submitted_commands hstep hcall]
    exact Commands.submit_refused hinadmissible

theorem command_gate_lamp :
    ∃ world, Machine.run (World.step (fun _ => 0) (fun _ => 0) 24 Commands.strict)
        (initial (Commands.lamps 1) ["demo"]) [.command (.submit (Commands.switchOn 0))] =
          some world ∧
      ∃ ref command, .executed 0 ref command ∈ world.commands.service.trace ∧
        Stems (fun _ => 0) (fun _ => 0) 24 Commands.strict (initial (Commands.lamps 1) ["demo"])
          [.command (.submit (Commands.switchOn 0))] 0 ref command := by
  obtain ⟨world, hrun, hexecuted⟩ := (Option.any_eq_true _ _).mp
    (show (Machine.run (World.step (fun _ => 0) (fun _ => 0) 24 Commands.strict)
      (initial (Commands.lamps 1) ["demo"]) [.command (.submit (Commands.switchOn 0))]).any
        (fun world => decide (0 ∈ Commands.executions world.commands.service.trace)) = true by
      decide +kernel)
  obtain ⟨ref, command, hmem⟩ := Commands.mem_executions.mp (of_decide_eq_true hexecuted)
  exact ⟨world, hrun, ref, command, hmem, ((command_gate hrun).1 _ _ _ hmem).1⟩

end Homeflow.Gateway
