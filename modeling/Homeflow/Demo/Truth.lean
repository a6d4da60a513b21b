import Homeflow.Commands.Gate
import Homeflow.Commands.Outcomes
import Homeflow.Commands.Returns
import Homeflow.Demo.Remembered

-- What is returned of a command in Demo Mode is what it did to the household.
namespace Homeflow.Demo

variable {clock : Nat → Time} {coercion : Coercion} {deviceUuid : ProviderDeviceRef → Uuid}
  {roomUuid : String → Uuid} {start : DemoProvider} {now : ProviderDeviceRef → Time}
  {world before after : World}

section Pipeline

theorem ingested_run (pipeline : Commands.World) (events : List ProviderEvent) :
    Machine.run (Commands.World.step clock coercion) pipeline
        (events.map fun event => .ingest event.ref event.state) =
      some { pipeline with service := World.ingested clock pipeline.service events } := by
  induction events generalizing pipeline with
  | nil => rfl
  | cons event rest ih => exact ih _

-- The pipeline over the household does what the pipeline over any adapter may do.
theorem pipeline_run {labels : List Label}
    (hrun : Machine.run (World.step clock coercion) (initial clock deviceUuid roomUuid start now)
      labels = some world) :
    ∃ labels, Machine.run (Commands.World.step clock coercion)
      (initial clock deviceUuid roomUuid start now).pipeline labels = some world.pipeline := by
  have hact : ∀ {before after : World} {label : Commands.Label},
      before.act clock coercion label = some after → ∃ labels,
        Machine.run (Commands.World.step clock coercion) before.pipeline labels =
          some after.pipeline := by
    intro before after label h
    obtain ⟨pipeline, hnext, rfl⟩ := act_eq_some h
    exact ⟨[label], by simp [Machine.run, hnext]⟩
  refine Machine.run_simulated World.pipeline (fun before label after hstep => ?_) hrun
  cases label with
  | submit | enter | cancelTask | deadline => exact hact hstep
  | executed =>
      obtain ⟨task, -, hnext⟩ := Option.bind_eq_some_iff.mp hstep
      obtain ⟨labels, hlabels⟩ := hact hnext
      exact ⟨labels, hlabels⟩
  | readBack =>
      obtain ⟨task, -, hnext⟩ := Option.bind_eq_some_iff.mp hstep
      exact hact hnext
  | tick elapsedSeconds now =>
      obtain rfl := Option.some.inj hstep
      exact ⟨_, ingested_run before.pipeline _⟩

end Pipeline

-- What is in flight has passed the checks: it is of the model of its action, and opens nothing.
def Asked (_ : Uuid) (_ : ProviderDeviceRef) (command : ProviderCommand) : Prop :=
  Admitted command ∧ command.action ≠ .unlatch

structure Sane (world : World) : Prop where
  ended : Commands.Ended world.pipeline
  asked : Commands.Originates Asked world.pipeline

-- What the step that ends a command did, against what the call of submit returns of it.
structure Truthful (before after : World) (task : Commands.Task) (final : Command) : Prop where
  succeeded : final.status = .succeeded → ∃ device,
    after.household.require task.ref = some device ∧
      desiredMatches task.running.action task.params device.state = some true
  others : final.status ≠ .succeeded → after.household = before.household
  unknown : final.status = .unknown → ∀ device, after.household.require task.ref = some device →
    desiredMatches task.running.action task.params device.state ≠ some true

-- What a household goes through.
inductive Change where
  | passed (elapsedSeconds : ℚ)
  | applied (id : Uuid) (ref : ProviderDeviceRef) (command : ProviderCommand)

def Change.id? : Change → Option Uuid
  | .passed _ => none
  | .applied id _ _ => some id

def Change.redo (household : DemoProvider) : Change → DemoProvider
  | .passed elapsedSeconds => { household with
      devices := household.devices.mapValues
        (DemoDevice.ticked (elapsedSeconds * household.timeScale)) }
  | .applied _ ref command =>
      match household.require ref with
      | some device => { household with
          devices := household.devices.set ref.providerDeviceId
            { device with state := apply device.state command } }
      | none => household

-- The change that a step makes to the household, if it makes one: the time of a tick, or a
-- command that the adapter answers.
def Label.change? (world : World) : Label → Option Change
  | .tick elapsedSeconds _ => some (.passed elapsedSeconds)
  | .executed id random now =>
      (world.pipeline.tasks.get? id).bind fun task =>
        match world.household.execute task.ref ⟨task.running.action, task.params⟩ random now with
        | (_, .ok _) => some (.applied id task.ref ⟨task.running.action, task.params⟩)
        | (_, .error _) => none
  | _ => none

-- The changes of a run, in the order of its steps.
def story (clock : Nat → Time) (coercion : Coercion) (world : World) : List Label → List Change
  | [] => []
  | label :: rest =>
      (label.change? world).toList ++ match world.step clock coercion label with
        | some after => story clock coercion after rest
        | none => []

-- The household is what these changes make of the one at the start. No command is among them
-- twice, and none that was not returned as a success.
structure Replayed (start : DemoProvider) (changes : List Change) (world : World) : Prop where
  household : world.household = changes.foldl Change.redo start
  once : (changes.filterMap Change.id?).Nodup
  succeeded : ∀ id ref command, .applied id ref command ∈ changes → ∃ final,
    world.pipeline.returned.get? id = some final ∧ final.status = .succeeded ∧
      final.action = command.action

section Runs

theorem asked_of_admissible {registry : DeviceRegistry} {call : SubmitCall}
    {ref : ProviderDeviceRef} {command : ProviderCommand} {held : Device} (id : Uuid)
    (h : Commands.Admissible coercion registry call ref command held) : Asked id ref command := by
  refine ⟨?_, h.never_opens.1⟩
  have hparams := h.params
  rw [Admitted, h.action]
  unfold Commands.CommandService.validate at hparams
  split at hparams
  · next hvalid =>
    obtain rfl := Except.ok.inj hparams
    exact ParamsModel.validate_model hvalid
  · cases hparams

theorem sane_run {labels : List Label}
    (hrun : Machine.run (World.step clock coercion) (initial clock deviceUuid roomUuid start now)
      labels = some world) : Sane world := by
  obtain ⟨labels, hpipeline⟩ := pipeline_run hrun
  constructor
  case ended =>
    exact Machine.invariant (Commands.ended_initial _ _)
      (fun _ _ _ hbefore hstep => (Commands.ended_step hbefore hstep).1) hpipeline
  case asked =>
    have hstart :
        Commands.Originates Asked (initial clock deviceUuid roomUuid start now).pipeline :=
      ⟨fun _ _ htask => (by cases htask), fun _ _ _ hmem => (by cases hmem)⟩
    exact Machine.invariant hstart
      (fun _ _ _ hbefore hstep => Commands.originates_step hbefore
        (fun _ _ _ _ _ => asked_of_admissible _) hstep) hpipeline

theorem require_set {ref : ProviderDeviceRef} {device other : DemoDevice}
    (h : start.require ref = some device) :
    { start with devices := start.devices.set ref.providerDeviceId other }.require ref =
      some other := by
  obtain ⟨-, hprovider⟩ := require_eq_some h
  simp [DemoProvider.require, hprovider]

-- A command that its adapter answers is told as the answer has it.
theorem truthful_executed (h : Sane before) {id other : Uuid} {random : ℚ} {moment : Time}
    (hstep : before.step clock coercion (.executed other random moment) = some after)
    {task : Commands.Task} {final : Command} (htask : before.pipeline.tasks.get? id = some task)
    (hfinal : after.pipeline.returned.get? id = some final) : Truthful before after task final := by
  obtain ⟨held, hheld, hact⟩ := Option.bind_eq_some_iff.mp hstep
  rcases hresult : before.household.execute held.ref ⟨held.running.action, held.params⟩ random
    moment with ⟨household, result⟩
  rw [hresult] at hact
  obtain ⟨pipeline, hnext, rfl⟩ := act_eq_some hact
  obtain ⟨outcome, ending, hlabel, hended, rfl⟩ | ⟨outcome, hlabel, -⟩ :=
    Commands.returned_step h.ended hnext htask hfinal
  · obtain ⟨rfl, rfl⟩ := Commands.Label.executeReturns.inj hlabel
    obtain rfl := Option.some.inj (htask.symm.trans hheld)
    cases result with
    | ok result =>
        obtain ⟨device, hdevice, -, rfl, rfl⟩ := execute_applied hresult
        obtain rfl := Option.some.inj hended
        have hsucceeded : ∀ service, (Commands.CommandService.settle clock service task.running
            ⟨.applied, some (snapshot { device with
              state := apply device.state ⟨task.running.action, task.params⟩ } moment),
              none⟩).2.status = .succeeded := fun service => Commands.finish_status service _ _ _
        obtain ⟨hadmitted, hne⟩ := h.asked.flight _ task htask
        refine ⟨fun _ => ⟨_, require_set hdevice, desiredMatches_apply device.state hadmitted hne⟩,
          fun hnot => absurd (hsucceeded _) hnot, fun hunknown => ?_⟩
        cases (hsucceeded _).symm.trans hunknown
    | error error =>
        obtain ⟨rfl, rfl⟩ := execute_error hresult
        obtain rfl := Option.some.inj hended
        refine ⟨fun hsucceeded => ?_, fun _ => rfl, fun hunknown => ?_⟩
        · cases (Commands.finish_status _ _ _ _).symm.trans hsucceeded
        · cases (Commands.finish_status _ _ _ _).symm.trans hunknown
  · cases hlabel

-- A command that is decided by what is read back is told as the household then is.
theorem truthful_readBack (h : Sane before) {id other : Uuid} {moment : Time}
    (hstep : before.step clock coercion (.readBack other moment) = some after)
    {task : Commands.Task} {final : Command} (htask : before.pipeline.tasks.get? id = some task)
    (hfinal : after.pipeline.returned.get? id = some final) : Truthful before after task final := by
  obtain ⟨held, hheld, hact⟩ := Option.bind_eq_some_iff.mp hstep
  obtain ⟨pipeline, hnext, rfl⟩ := act_eq_some hact
  obtain ⟨_, _, hlabel, -⟩ | ⟨outcome, hlabel, rfl⟩ :=
    Commands.returned_step h.ended hnext htask hfinal
  · cases hlabel
  · obtain ⟨rfl, rfl⟩ := Commands.Label.getStateReturns.inj hlabel
    obtain rfl := Option.some.inj (htask.symm.trans hheld)
    unfold DemoProvider.getState
    split
    · next device hdevice =>
      simp only [ended, Commands.CommandService.afterGetState, snapshot]
      split
      · next hmatches =>
        refine ⟨fun _ => ⟨device, hdevice, hmatches⟩, fun _ => rfl, fun hunknown => ?_⟩
        cases (Commands.finish_status _ _ _ _).symm.trans hunknown
      · next hdiffers =>
        refine ⟨fun hsucceeded => ?_, fun _ => rfl, fun _ other hother => ?_⟩
        · cases (Commands.finish_status _ _ _ _).symm.trans hsucceeded
        · obtain rfl := Option.some.inj (hdevice.symm.trans hother)
          exact hdiffers
    · next hnone =>
      refine ⟨fun hsucceeded => ?_, fun _ => rfl, fun _ other hother => ?_⟩
      · cases (Commands.finish_status _ _ _ _).symm.trans hsucceeded
      · cases hnone.symm.trans hother

theorem truthful_step (h : Sane before) {label : Label}
    (hstep : before.step clock coercion label = some after) {id : Uuid} {task : Commands.Task}
    {final : Command} (htask : before.pipeline.tasks.get? id = some task)
    (hfinal : after.pipeline.returned.get? id = some final) : Truthful before after task final := by
  cases label with
  | submit call | enter other | cancelTask other =>
      obtain ⟨pipeline, hnext, rfl⟩ := act_eq_some hstep
      obtain ⟨_, _, hlabel, -⟩ | ⟨_, hlabel, -⟩ :=
        Commands.returned_step h.ended hnext htask hfinal <;> cases hlabel
  | deadline other =>
      obtain ⟨pipeline, hnext, rfl⟩ := act_eq_some hstep
      obtain ⟨outcome, _, hlabel, hended, -⟩ | ⟨_, hlabel, -⟩ :=
        Commands.returned_step h.ended hnext htask hfinal
      · obtain rfl := (Commands.Label.executeReturns.inj hlabel).2
        cases hended
      · cases hlabel
  | executed other random moment => exact truthful_executed h hstep htask hfinal
  | readBack other moment => exact truthful_readBack h hstep htask hfinal
  | tick elapsedSeconds now =>
      obtain rfl := Option.some.inj hstep
      cases (h.ended.not_returned htask).symm.trans hfinal

theorem story_concat {first : World} {labels : List Label} {label : Label}
    (hrun : Machine.run (World.step clock coercion) first labels = some before)
    (hstep : before.step clock coercion label = some after) :
    story clock coercion first (labels ++ [label]) =
      story clock coercion first labels ++ (label.change? before).toList := by
  induction labels generalizing first with
  | nil =>
      obtain rfl := Option.some.inj hrun
      simp [story, hstep]
  | cons next rest ih =>
      obtain ⟨middle, hmiddle, hrest⟩ := Option.bind_eq_some_iff.mp hrun
      simp only [List.cons_append, story, hmiddle, ih hrest, List.append_assoc]

-- A step that leaves the household alone.
theorem Replayed.kept {changes : List Change} (h : Replayed start changes before)
    (hended : Commands.Ended before.pipeline) {label : Commands.Label}
    (hact : before.act clock coercion label = some after) : Replayed start changes after := by
  obtain ⟨pipeline, hnext, rfl⟩ := act_eq_some hact
  refine ⟨h.household, h.once, fun id ref command hmem => ?_⟩
  obtain ⟨final, hfinal, hrest⟩ := h.succeeded id ref command hmem
  exact ⟨final, (Commands.ended_step hended hnext).2 id final hfinal, hrest⟩

theorem returned_applied {pipeline next : Commands.World} {id : Uuid} {task : Commands.Task}
    (htask : pipeline.tasks.get? id = some task) {result : ProviderCommandResult}
    (happlied : result.outcome = .applied)
    (hnext : pipeline.step clock coercion (.executeReturns id (.returned result)) = some next) :
    ∃ final, next.returned.get? id = some final ∧ final.status = .succeeded ∧
      final.action = task.running.action := by
  cases Commands.step_moved hnext with
  | ended hheld _ hended =>
      obtain rfl := Option.some.inj (htask.symm.trans hheld)
      obtain rfl := Option.some.inj hended
      refine ⟨_, OrderedDict.get?_set_self _ _ _, ?_⟩
      simp only [Commands.CommandService.settle, happlied, Commands.CommandService.finish_eq]
      exact ⟨rfl, rfl⟩
  | timedOut _ _ htimeout => cases htimeout

theorem Replayed.executed {changes : List Change} (h : Replayed start changes before)
    (hsane : Sane before) {id : Uuid} {random : ℚ} {moment : Time}
    (hstep : before.step clock coercion (.executed id random moment) = some after) :
    Replayed start (changes ++ ((Label.executed id random moment).change? before).toList)
      after := by
  obtain ⟨task, htask, hact⟩ := Option.bind_eq_some_iff.mp hstep
  rw [Label.change?, htask, Option.bind_some]
  rcases hresult : before.household.execute task.ref ⟨task.running.action, task.params⟩ random
    moment with ⟨household, result⟩
  rw [hresult] at hact
  cases result with
  | error error =>
      obtain ⟨rfl, -⟩ := execute_error hresult
      exact (List.append_nil changes).symm ▸ h.kept hsane.ended hact
  | ok result =>
      obtain ⟨pipeline, hnext, rfl⟩ := act_eq_some hact
      obtain ⟨device, hdevice, -, rfl, rfl⟩ := execute_applied hresult
      obtain ⟨final, hfinal, hsucceeded, haction⟩ := returned_applied htask rfl hnext
      have hkept := (Commands.ended_step hsane.ended hnext).2
      refine ⟨?_, ?_, ?_⟩
      · rw [List.foldl_append, ← h.household]
        simp [Change.redo, hdevice]
      · rw [List.filterMap_append]
        refine List.nodup_append'.mpr ⟨h.once, List.nodup_singleton id, ?_⟩
        rintro other hbefore hnow
        obtain rfl := List.mem_singleton.mp hnow
        obtain ⟨change, hchange, hid⟩ := List.mem_filterMap.mp hbefore
        cases change with
        | passed => cases hid
        | applied first ref command =>
            obtain rfl := Option.some.inj hid
            obtain ⟨earlier, hearlier, -⟩ := h.succeeded first ref command hchange
            cases (hsane.ended.not_returned htask).symm.trans hearlier
      · intro other ref command hmem
        rcases List.mem_append.mp hmem with hbefore | hnow
        · obtain ⟨earlier, hearlier, hrest⟩ := h.succeeded other ref command hbefore
          exact ⟨earlier, hkept other earlier hearlier, hrest⟩
        · obtain ⟨rfl, rfl, rfl⟩ := Change.applied.inj (List.mem_singleton.mp hnow)
          exact ⟨final, hfinal, hsucceeded, haction⟩

theorem Replayed.step {changes : List Change} (h : Replayed start changes before)
    (hsane : Sane before) {label : Label} (hstep : before.step clock coercion label = some after) :
    Replayed start (changes ++ (label.change? before).toList) after := by
  cases label with
  | submit | enter | cancelTask | deadline =>
      exact (List.append_nil changes).symm ▸ h.kept hsane.ended hstep
  | executed => exact h.executed hsane hstep
  | readBack =>
      obtain ⟨task, -, hact⟩ := Option.bind_eq_some_iff.mp hstep
      exact (List.append_nil changes).symm ▸ h.kept hsane.ended hact
  | tick elapsedSeconds now =>
      obtain rfl := Option.some.inj hstep
      refine ⟨?_, ?_, fun id ref command hmem => ?_⟩
      · rw [List.foldl_append, ← h.household]
        rfl
      · rw [List.filterMap_append]
        exact (List.append_nil _).symm ▸ h.once
      · rcases List.mem_append.mp hmem with hbefore | hnow
        · exact h.succeeded id ref command hbefore
        · cases List.mem_singleton.mp hnow

-- Whatever comes in whatever order: the step that ends a command tells what it did, and the
-- household is what the ticks and the answered commands of the run have made of it.
theorem outcomes_are_truthful {labels : List Label}
    (hrun : Machine.run (World.step clock coercion) (initial clock deviceUuid roomUuid start now)
      labels = some before) :
    Replayed start (story clock coercion (initial clock deviceUuid roomUuid start now) labels)
        before ∧
      ∀ label after, before.step clock coercion label = some after →
        ∀ id task final, before.pipeline.tasks.get? id = some task →
          after.pipeline.returned.get? id = some final → Truthful before after task final := by
  refine ⟨?_, fun label after hstep id task final htask hfinal =>
    truthful_step (sane_run hrun) hstep htask hfinal⟩
  induction labels using List.reverseRecOn generalizing before with
  | nil =>
      obtain rfl := Option.some.inj hrun
      exact ⟨rfl, List.nodup_nil, fun _ _ _ hmem => (by cases hmem)⟩
  | append_singleton labels label ih =>
      obtain ⟨middle, hmiddle, hstep⟩ := Machine.run_concat.mp hrun
      rw [story_concat hmiddle hstep]
      exact (ih hmiddle).step (sane_run hmiddle) hstep

end Runs

def startOfEvening : World :=
  initial (fun reads => reads) (Identity.idOf Identity.spelled "salt")
    (Identity.roomUuid Identity.spelled id "salt") (.create 0) fun _ => 0

-- Two commands are replayed. The third one has timed out and is found as it was asked for.
theorem outcomes_are_truthful_evening :
    ∃ before, Machine.run (World.step (fun reads => reads) Commands.strict) startOfEvening
        evening = some before ∧
      Replayed (.create 0) (story (fun reads => reads) Commands.strict startOfEvening evening)
        before ∧
      (story (fun reads => reads) Commands.strict startOfEvening evening).filterMap Change.id? =
        [0, 1] ∧
      (before.pipeline.returned.get? 2).any fun final => final.status = .succeeded := by
  have hsome : (Machine.run (World.step (fun reads => reads) Commands.strict) startOfEvening
      evening).any (fun before =>
        (before.pipeline.returned.get? 2).any fun final => final.status = .succeeded) = true := by
    decide +kernel
  obtain ⟨before, hrun, hreturned⟩ := (Option.any_eq_true _ _).mp hsome
  exact ⟨before, hrun, (outcomes_are_truthful hrun).1, by decide +kernel, hreturned⟩

end Homeflow.Demo
