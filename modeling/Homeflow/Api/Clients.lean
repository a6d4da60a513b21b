import Homeflow.Api.Pace
import Homeflow.Gateway.Vouched

-- Who drives the house.
namespace Homeflow.Api

open Auth
open Commands.CommandService (validate)
open Schedules (CreateRequest)

variable (sha256Hex : String → String) (registry : ClientRegistry)

-- The request comes with the token of a client.
def LetIn (attempt : Attempt) (principal : Principal) : Prop :=
  ∃ token, bearerToken attempt.authorization = some token ∧
    Registered sha256Hex registry token principal

-- What a request can ask of the house.
inductive Write.Drives (principal : Principal) : Write → SubmitCall → Prop where
  | tap {deviceId : Uuid} {action : Action} {parameters : List (String × Json)}
      {correlationId : String} :
      Drives principal (.submitCommand deviceId action parameters correlationId)
        ⟨principal, deviceId, action, parameters, correlationId⟩
  | timer {deviceId : Uuid} {action : Action} {kind : ScheduleKind} {hours : ℚ}
      {correlationId : String} {call : SubmitCall} (hhours : 0 < hours ∧ hours ≤ 48)
      (hasks : CreateRequest.Asks ⟨principal, deviceId, action, kind, hours, correlationId⟩ call) :
      Drives principal (.createSchedule deviceId action kind hours correlationId) call

theorem Write.Drives.principal {principal : Principal} {write : Write} {call : SubmitCall}
    (h : write.Drives principal call) : call.principal = principal := by
  cases h with
  | tap => rfl
  | timer _ hasks => exact hasks.principal

-- All that the requests ask for, and the clients that send them.
def warrant (labels : List Server.Label) : Warrant where
  calls call := ∃ attempt write principal, .write attempt write ∈ labels ∧
    LetIn sha256Hex registry attempt principal ∧ write.Drives principal call
  known principal := ∃ attempt write, .write attempt write ∈ labels ∧
    LetIn sha256Hex registry attempt principal
  named := by
    rintro call ⟨attempt, write, principal, hlabel, hletIn, hdrives⟩
    exact ⟨attempt, write, hlabel, hdrives.principal ▸ hletIn⟩

variable {sha256Hex registry} {commandsClock schedulesClock : Nat → Time} {maximum : ℚ}
  {coercion : Coercion} {str : Uuid → String} {server after : Server}
  {labels : List Server.Label}

theorem asks_within {attempt : Attempt} {write : Write} {principal : Principal}
    {label : Gateway.Label} (hlabel : .write attempt write ∈ labels)
    (hletIn : LetIn sha256Hex registry attempt principal)
    (hasks : write.asks principal = some label) :
    label.Within (warrant sha256Hex registry labels) := by
  cases write with
  | submitCommand =>
      obtain rfl := Option.some.inj hasks
      exact ⟨attempt, _, principal, hlabel, hletIn, .tap⟩
  | createSchedule =>
      simp only [Write.asks] at hasks
      split at hasks
      · next hhours =>
        obtain rfl := Option.some.inj hasks
        exact ⟨fun call hcall => ⟨attempt, _, principal, hlabel, hletIn, .timer hhours hcall⟩,
          attempt, _, hlabel, hletIn⟩
      · cases hasks
  | cancelSchedule =>
      obtain rfl := Option.some.inj hasks
      exact ⟨attempt, _, hlabel, hletIn⟩
  | malformed => cases hasks

theorem runs_within {warrant : Warrant} {label : Gateway.Label} (hasked : asked label = false)
    (hdirect : label.direct = false) : label.Within warrant := by
  cases label with
  | command inner =>
      cases inner with
      | submit => cases hasked
      | enter | executeReturns | getStateReturns | cancelTask | ingest => trivial
  | create | cancel => cases hasked
  | createReturns | wake | loopReturns | stop => trivial
  | fire | fireReturns => cases hdirect

theorem vouched_step {label : Server.Label} (hlabel : label ∈ labels)
    (h : Gateway.Vouched (warrant sha256Hex registry labels) coercion server.gateway)
    (hstep : server.step commandsClock schedulesClock maximum coercion sha256Hex str registry
      label = some after) :
    Gateway.Vouched (warrant sha256Hex registry labels) coercion after.gateway := by
  cases label with
  | write attempt write =>
      rcases @authenticate_eq sha256Hex registry server.authRateLimiter attempt with
        ⟨principal, hvalid, hok⟩ | ⟨-, error, authRateLimiter, herror⟩
      · simp only [Server.step, hok] at hstep
        split at hstep
        · obtain rfl := Option.some.inj hstep
          exact h
        · split at hstep
          · obtain rfl := Option.some.inj hstep
            exact h
          · next inner hasks =>
            obtain ⟨gateway, hgateway, rfl⟩ := Option.map_eq_some_iff.mp hstep
            have hwithin := asks_within hlabel (registered_of_authenticate hvalid) hasks
            exact Gateway.vouched_step h hwithin hgateway
      · simp only [Server.step, herror] at hstep
        obtain rfl := Option.some.inj hstep
        exact h
  | runs inner =>
      obtain ⟨hasked, hdirect, gateway, hgateway, rfl⟩ := Server.step_runs hstep
      exact Gateway.vouched_step h (runs_within hasked hdirect) hgateway

theorem vouched_run {devices : DeviceRegistry} {providers : List String} {ratePerMinute : Nat}
    {sent : List Server.Label} (hsent : sent ⊆ labels)
    (hrun : Machine.run (Server.step commandsClock schedulesClock maximum coercion sha256Hex str
      registry) (.initial devices providers ratePerMinute) sent = some server) :
    Gateway.Vouched (warrant sha256Hex registry labels) coercion server.gateway := by
  induction sent using List.reverseRecOn generalizing server with
  | nil =>
      obtain rfl := Option.some.inj hrun
      exact Gateway.vouched_initial devices providers
  | append_singleton sent label ih =>
      obtain ⟨before, hbefore, hstep⟩ := Machine.run_concat.mp hrun
      obtain ⟨hold, hlabel⟩ := List.append_subset.mp hsent
      exact vouched_step (hlabel List.mem_cons_self) (ih hold hbefore) hstep

-- An adapter is called only with what a request has asked for that came with the token of a
-- client, by itself or through its timer, and the records of the command name that client.
-- No entry of the audit names anyone else.
theorem only_clients_drive_the_house {devices : DeviceRegistry} {providers : List String}
    {ratePerMinute : Nat}
    (hrun : Machine.run (Server.step commandsClock schedulesClock maximum coercion sha256Hex str
      registry) (.initial devices providers ratePerMinute) labels = some server) :
    (∀ id ref command, .executed id ref command ∈ server.gateway.commands.service.trace →
      ∃ call, (warrant sha256Hex registry labels).calls call ∧ command.action = call.action ∧
        validate coercion call.action call.parameters = .ok command.params ∧
        server.gateway.commands.service.registry.refFor call.deviceId = some ref ∧
        ∀ record, .remembered record ∈ server.gateway.commands.service.trace → record.id = id →
          record.requestedByUserId = call.principal.userId ∧
            record.requestedByClientId = call.principal.clientId) ∧
    ∀ entry, .recorded entry ∈ server.gateway.commands.service.trace ∨
        .recorded entry ∈ server.gateway.schedules.service.trace →
      (warrant sha256Hex registry labels).Names entry := by
  have hvouched := vouched_run (List.Subset.refl labels) hrun
  obtain ⟨made, hmade⟩ := hvouched.commands
  refine ⟨fun id ref command hexecuted => hmade.executed hexecuted, ?_⟩
  rintro entry (hcommand | htimer)
  · exact hmade.recorded hcommand
  · exact hvouched.schedules.service.told entry htimer

theorem only_clients_drive_the_house_hasty :
    ∃ server, Machine.run (Server.step (fun _ => 0) (fun _ => 0) 24 Commands.strict id
        (fun _ => "client") household) (.initial (Commands.lamps 1) ["demo"] 1) hasty =
          some server ∧
      ∃ ref command, .executed 0 ref command ∈ server.gateway.commands.service.trace ∧
        ∃ call, (warrant id household hasty).calls call ∧ command.action = call.action := by
  obtain ⟨server, hrun, hexecuted⟩ := (Option.any_eq_true _ _).mp
    (show (Machine.run (Server.step (fun _ => 0) (fun _ => 0) 24 Commands.strict id
      (fun _ => "client") household) (.initial (Commands.lamps 1) ["demo"] 1) hasty).any
        (fun server => decide (0 ∈ server.gateway.executions)) = true by
      decide +kernel)
  obtain ⟨ref, command, hmem⟩ := Commands.mem_executions.mp (of_decide_eq_true hexecuted)
  obtain ⟨call, hcall, haction, -⟩ := (only_clients_drive_the_house hrun).1 _ _ _ hmem
  exact ⟨server, hrun, ref, command, hmem, call, hcall, haction⟩

end Homeflow.Api
