import Homeflow.Api.Entry
import Homeflow.Gateway.Paced
import Homeflow.RateBudget
import Mathlib.Algebra.BigOperators.Group.Finset.Piecewise
import Mathlib.Algebra.Order.BigOperators.Group.Finset
import Mathlib.Algebra.BigOperators.Ring.Finset

-- How fast the clients together can drive the house.
namespace Homeflow

namespace RateLimiter

variable {limiter : RateLimiter} {series : List (Call × Bool)}

def after (limiter : RateLimiter) (calls : List Call) : RateLimiter :=
  calls.foldl (fun limiter call => (limiter.allow call.time call.key).2) limiter

theorem outcomes_concat (limiter : RateLimiter) (calls : List Call) (call : Call) :
    limiter.outcomes (calls ++ [call]) = limiter.outcomes calls ++
      [(call, ((limiter.after calls).allow call.time call.key).1)] := by
  induction calls generalizing limiter with
  | nil => rfl
  | cons first rest ih =>
      simp only [List.cons_append, outcomes, ih]
      rfl

theorem after_concat (limiter : RateLimiter) (calls : List Call) (call : Call) :
    limiter.after (calls ++ [call]) =
      ((limiter.after calls).allow call.time call.key).2 := by
  rw [after, List.foldl_append]
  rfl

def granted (series : List (Call × Bool)) : Nat := series.countP Prod.snd

theorem outcomes_calls (limiter : RateLimiter) (calls : List Call) :
    (limiter.outcomes calls).map Prod.fst = calls := by
  induction calls generalizing limiter with
  | nil => rfl
  | cons call rest ih => exact congrArg (call :: ·) (ih _)

-- Each call that is granted is granted to one of the keys.
theorem granted_eq_sum {keys : Finset String} {start seconds : ℚ}
    (hkeys : ∀ entry ∈ series, entry.1.key ∈ keys)
    (hwithin : ∀ entry ∈ series, start ≤ timestamp entry.1.time ∧
      timestamp entry.1.time ≤ start + seconds) :
    granted series = ∑ key ∈ keys, allowedIn key start seconds series := by
  induction series with
  | nil => simp [granted, allowedIn]
  | cons entry rest ih =>
      obtain ⟨hkey, hrestKeys⟩ := List.forall_mem_cons.mp hkeys
      obtain ⟨htime, hrestTimes⟩ := List.forall_mem_cons.mp hwithin
      have hrest := ih hrestKeys hrestTimes
      have hone : ∑ key ∈ keys, (if entry.2 && decide (entry.1.key = key ∧
          start ≤ timestamp entry.1.time ∧ timestamp entry.1.time ≤ start + seconds)
            then 1 else 0) = if entry.2 then 1 else 0 := by
        cases entry.2 with
        | false => simp
        | true => simp [htime, hkey]
      simp only [granted, allowedIn, List.countP_cons, Finset.sum_add_distrib] at hrest ⊢
      rw [hrest, hone]

variable {calls : List Call} {ratePerMinute : Nat}

-- All the keys together have a budget for each.
theorem granted_le {count : Nat}
    (hordered : calls.Pairwise fun first second => first.time ≤ second.time)
    (hkeys : (calls.map Call.key).toFinset.card ≤ count) (hcount : count ≤ 1024)
    {start seconds : ℚ} (hseconds : 0 ≤ seconds)
    (hwithin : ∀ call ∈ calls, start ≤ timestamp call.time ∧
      timestamp call.time ≤ start + seconds) :
    (granted ((create ratePerMinute).outcomes calls) : ℚ) ≤
      count * (ratePerMinute + seconds * (ratePerMinute / 60)) := by
  have hfits : (create ratePerMinute).Fits calls := hkeys.trans hcount
  have hcalls : ∀ entry ∈ (create ratePerMinute).outcomes calls, entry.1 ∈ calls := by
    intro entry hentry
    rw [← outcomes_calls (create ratePerMinute) calls]
    exact List.mem_map_of_mem hentry
  have hrate : (0 : ℚ) ≤ (create ratePerMinute).ratePerSecond := by
    change (0 : ℚ) ≤ ratePerMinute / 60
    positivity
  have hburst : (0 : ℚ) ≤ (create ratePerMinute).burst := Nat.cast_nonneg _
  have heach : ∀ key ∈ (calls.map Call.key).toFinset,
      (allowedIn key start seconds ((create ratePerMinute).outcomes calls) : ℚ) ≤
        ratePerMinute + seconds * (ratePerMinute / 60) := by
    intro key _
    have hfull : ∀ held ∈ (create ratePerMinute).level key, 0 ≤ held.tokens := by
      intro held hheld
      cases hheld
    have hwindow : start ≤ start + seconds := le_add_of_nonneg_right hseconds
    have hbound :=
      TokenBucket.grantedIn_le hrate hburst hfull hwindow (drawsOf_ordered hordered key)
    rw [allowedIn_eq hfits]
    rwa [add_sub_cancel_left] at hbound
  have hpace : (0 : ℚ) ≤ ratePerMinute + seconds * (ratePerMinute / 60) := by positivity
  have hsum : granted ((create ratePerMinute).outcomes calls) =
      ∑ key ∈ (calls.map Call.key).toFinset,
        allowedIn key start seconds ((create ratePerMinute).outcomes calls) :=
    granted_eq_sum
      (fun entry hentry => List.mem_toFinset.mpr (List.mem_map_of_mem (hcalls entry hentry)))
      fun entry hentry => hwithin _ (hcalls entry hentry)
  rw [hsum, Nat.cast_sum]
  calc ∑ key ∈ (calls.map Call.key).toFinset,
        (allowedIn key start seconds ((create ratePerMinute).outcomes calls) : ℚ)
      ≤ (calls.map Call.key).toFinset.card • (ratePerMinute + seconds * (ratePerMinute / 60)) :=
        Finset.sum_le_card_nsmul _ _ _ heach
    _ ≤ count * (ratePerMinute + seconds * (ratePerMinute / 60)) := by
        rw [nsmul_eq_mul]
        exact mul_le_mul_of_nonneg_right (Nat.cast_le.mpr hkeys) hpace

end RateLimiter

namespace Api

open Auth

-- The requests that need a budget.
inductive Write where
  | submitCommand (deviceId : Uuid) (action : Action) (parameters : List (String × Json))
      (correlationId : String)
  | createSchedule (deviceId : Uuid) (action : Action) (kind : ScheduleKind) (hours : ℚ)
      (correlationId : String)
  | cancelSchedule (scheduleId : Uuid)
  -- A body its schema refuses.
  | malformed

-- What the route asks the services for.
def Write.asks (principal : Principal) : Write → Option Gateway.Label
  | .submitCommand deviceId action parameters correlationId =>
      some (.command (.submit ⟨principal, deviceId, action, parameters, correlationId⟩))
  | .createSchedule deviceId action kind hours correlationId =>
      if 0 < hours ∧ hours ≤ 48 then
        some (.create ⟨principal, deviceId, action, kind, hours, correlationId⟩)
      else none
  | .cancelSchedule scheduleId => some (.cancel principal scheduleId)
  | .malformed => none

-- What only a request can ask for.
def asked : Gateway.Label → Bool
  | .command (.submit _) | .create _ | .cancel _ _ => true
  | _ => false

structure Server where
  gateway : Gateway.World
  authRateLimiter : RateLimiter := .create 30 (some 10) 1024 RateLimiter.tracksSome_default
  commandRateLimiter : RateLimiter

namespace Server

inductive Label where
  | write (attempt : Attempt) (write : Write)
  -- The services go on by themselves.
  | runs (label : Gateway.Label)

variable (commandsClock schedulesClock : Nat → Time) (maximum : ℚ) (coercion : Coercion)
  (sha256Hex : String → String) (str : Uuid → String) (registry : ClientRegistry)

-- Requests come one at a time: none draws on a budget while another one does.
def step (server : Server) : Label → Option Server
  | .write attempt write =>
      match authenticate sha256Hex registry server.authRateLimiter attempt with
      | (.error _, authRateLimiter) => some { server with authRateLimiter }
      | (.ok principal, authRateLimiter) =>
          let (allowed, commandRateLimiter) :=
            server.commandRateLimiter.allow attempt.time (str principal.clientId)
          let drawn : Server := { server with authRateLimiter, commandRateLimiter }
          if ¬allowed then some drawn
          else
            match write.asks principal with
            | none => some drawn
            | some label =>
                (server.gateway.step commandsClock schedulesClock maximum coercion label).map
                  fun gateway => { drawn with gateway }
  | .runs label =>
      if asked label ∨ label.direct then none
      else
        (server.gateway.step commandsClock schedulesClock maximum coercion label).map
          fun gateway => { server with gateway }

end Server

def Server.initial (devices : DeviceRegistry) (providers : List String) (ratePerMinute : Nat) :
    Server where
  gateway := Gateway.initial devices providers
  commandRateLimiter := .create ratePerMinute none 1024 RateLimiter.tracksSome_default

-- The draws of a label from the budgets of the clients.
def Server.Label.draw? (sha256Hex : String → String) (str : Uuid → String)
    (registry : ClientRegistry) : Server.Label → Option RateLimiter.Call
  | .write attempt _ =>
      (registry.authenticate sha256Hex (bearerToken attempt.authorization)).map fun principal =>
        ⟨attempt.time, str principal.clientId⟩
  | .runs _ => none

def drawsOf (sha256Hex : String → String) (str : Uuid → String) (registry : ClientRegistry)
    (labels : List Server.Label) : List RateLimiter.Call :=
  labels.filterMap (Server.Label.draw? sha256Hex str registry)

-- The times of the requests.
def Server.Label.attempt? : Server.Label → Option Attempt
  | .write attempt _ => some attempt
  | .runs _ => none

def attempts (labels : List Server.Label) : List Attempt := labels.filterMap Server.Label.attempt?

section Pace

open Gateway (Paced)
open RateLimiter (granted)

variable {commandsClock schedulesClock : Nat → Time} {maximum : ℚ} {coercion : Coercion}
  {sha256Hex : String → String} {str : Uuid → String} {registry : ClientRegistry}
  {server after : Server}

-- What has been asked of the services was granted.
structure Budgeted (schedulesClock : Nat → Time) (limiter : RateLimiter)
    (calls : List RateLimiter.Call) (server : Server) : Prop where
  drawn : server.commandRateLimiter = limiter.after calls
  paced : ∃ tapped asked, Paced schedulesClock tapped asked server.gateway ∧
    tapped + asked ≤ granted (limiter.outcomes calls)

theorem asks_once {principal : Principal} {write : Write} {label : Gateway.Label}
    (h : write.asks principal = some label) : label.direct = false ∧
      (if label.taps then 1 else 0) + (if label.requests then 1 else 0) ≤ 1 := by
  cases write with
  | submitCommand =>
      obtain rfl := Option.some.inj h
      exact ⟨rfl, le_rfl⟩
  | createSchedule =>
      simp only [Write.asks] at h
      split at h
      · obtain rfl := Option.some.inj h
        exact ⟨rfl, le_rfl⟩
      · cases h
  | cancelSchedule =>
      obtain rfl := Option.some.inj h
      exact ⟨rfl, Nat.zero_le 1⟩
  | malformed => cases h

theorem unasked {label : Gateway.Label} (h : asked label = false) :
    label.taps = false ∧ label.requests = false := by
  cases label with
  | command label =>
      cases label with
      | submit => cases h
      | enter | executeReturns | getStateReturns | cancelTask | ingest => exact ⟨rfl, rfl⟩
  | create | cancel => cases h
  | createReturns | wake | loopReturns | stop | fire | fireReturns => exact ⟨rfl, rfl⟩

-- What the gateway does by itself leaves the budgets alone.
theorem Server.step_runs {label : Gateway.Label}
    (hstep : server.step commandsClock schedulesClock maximum coercion sha256Hex str registry
      (.runs label) = some after) :
    asked label = false ∧ label.direct = false ∧ ∃ gateway,
      server.gateway.step commandsClock schedulesClock maximum coercion label = some gateway ∧
      after = { server with gateway } := by
  simp only [Server.step] at hstep
  split at hstep
  · cases hstep
  · next hown =>
    rw [not_or, Bool.not_eq_true, Bool.not_eq_true] at hown
    obtain ⟨gateway, hgateway, hafter⟩ := Option.map_eq_some_iff.mp hstep
    exact ⟨hown.1, hown.2, gateway, hgateway, hafter.symm⟩

theorem granted_concat (limiter : RateLimiter) (calls : List RateLimiter.Call)
    (call : RateLimiter.Call) :
    granted (limiter.outcomes (calls ++ [call])) = granted (limiter.outcomes calls) +
      if ((limiter.after calls).allow call.time call.key).1 then 1 else 0 := by
  rw [RateLimiter.outcomes_concat, granted, granted, List.countP_append, List.countP_singleton]

variable {limiter : RateLimiter} {calls : List RateLimiter.Call}

-- A draw makes room for one request.
theorem Budgeted.draws {call : RateLimiter.Call} {gateway : Gateway.World}
    {authRateLimiter commandRateLimiter : RateLimiter} {tapped asked : Nat}
    (h : Budgeted schedulesClock limiter calls server)
    (hdrawn : commandRateLimiter = (server.commandRateLimiter.allow call.time call.key).2)
    (hpaced : Paced schedulesClock tapped asked gateway)
    (hgranted : tapped + asked ≤ granted (limiter.outcomes calls) +
      if (server.commandRateLimiter.allow call.time call.key).1 then 1 else 0) :
    Budgeted schedulesClock limiter (calls ++ [call])
      { gateway, authRateLimiter, commandRateLimiter } := by
  refine ⟨?_, tapped, asked, hpaced, ?_⟩
  · rw [hdrawn, h.drawn, RateLimiter.after_concat]
  · rwa [granted_concat, ← h.drawn]

theorem budgeted_write (hclock : Monotone schedulesClock) {attempt : Attempt} {write : Write}
    (h : Budgeted schedulesClock limiter calls server)
    (hstep : server.step commandsClock schedulesClock maximum coercion sha256Hex str registry
      (.write attempt write) = some after) :
    Budgeted schedulesClock limiter
      (calls ++ (Server.Label.draw? sha256Hex str registry (.write attempt write)).toList)
      after := by
  obtain ⟨tapped, asked, hpaced, hgranted⟩ := h.paced
  rcases @authenticate_eq sha256Hex registry server.authRateLimiter attempt with
    ⟨principal, hvalid, hok⟩ | ⟨hinvalid, error, authRateLimiter, herror⟩
  · simp only [Server.step, hok] at hstep
    simp only [Server.Label.draw?, hvalid, Option.map_some, Option.toList_some]
    split at hstep
    · obtain rfl := Option.some.inj hstep
      exact h.draws rfl hpaced (hgranted.trans (Nat.le_add_right _ _))
    · next hallowed =>
      split at hstep
      · obtain rfl := Option.some.inj hstep
        exact h.draws rfl hpaced (hgranted.trans (Nat.le_add_right _ _))
      · next label hasks =>
        obtain ⟨gateway, hgateway, rfl⟩ := Option.map_eq_some_iff.mp hstep
        obtain ⟨hdirect, honce⟩ := asks_once hasks
        refine h.draws rfl (Gateway.paced_step hclock hpaced hdirect hgateway) ?_
        rw [if_pos (not_not.mp hallowed)]
        omega
  · simp only [Server.step, herror] at hstep
    obtain rfl := Option.some.inj hstep
    simp only [Server.Label.draw?, hinvalid, Option.map_none, Option.toList_none,
      List.append_nil]
    exact ⟨h.drawn, h.paced⟩

theorem budgeted_runs (hclock : Monotone schedulesClock) {label : Gateway.Label}
    (h : Budgeted schedulesClock limiter calls server)
    (hstep : server.step commandsClock schedulesClock maximum coercion sha256Hex str registry
      (.runs label) = some after) : Budgeted schedulesClock limiter calls after := by
  obtain ⟨tapped, asked, hpaced, hgranted⟩ := h.paced
  obtain ⟨hasked, hdirect, gateway, hgateway, rfl⟩ := Server.step_runs hstep
  obtain ⟨htaps, hrequests⟩ := unasked hasked
  have hafter := Gateway.paced_step hclock hpaced hdirect hgateway
  rw [htaps, hrequests] at hafter
  exact ⟨h.drawn, tapped, asked, hafter, hgranted⟩

theorem budgeted_run (hclock : Monotone schedulesClock) {devices : DeviceRegistry}
    {providers : List String} {ratePerMinute : Nat} {labels : List Server.Label}
    (hrun : Machine.run (Server.step commandsClock schedulesClock maximum coercion sha256Hex str
      registry) (.initial devices providers ratePerMinute) labels = some server) :
    Budgeted schedulesClock (.create ratePerMinute) (drawsOf sha256Hex str registry labels)
      server := by
  induction labels using List.reverseRecOn generalizing server with
  | nil =>
      obtain rfl := Option.some.inj hrun
      exact ⟨rfl, 0, 0, Gateway.paced_initial devices providers, le_rfl⟩
  | append_singleton labels label ih =>
      obtain ⟨before, hbefore, hstep⟩ := Machine.run_concat.mp hrun
      have hcalls : drawsOf sha256Hex str registry (labels ++ [label]) =
          drawsOf sha256Hex str registry labels ++
            (label.draw? sha256Hex str registry).toList := by
        rw [drawsOf, List.filterMap_append]
        cases hdraw : label.draw? sha256Hex str registry with
        | none => simp [drawsOf, hdraw]
        | some call => simp [drawsOf, hdraw]
      rw [hcalls]
      cases label with
      | write attempt write => exact budgeted_write hclock (ih hbefore) hstep
      | runs label =>
          simp only [Server.Label.draw?, Option.toList_none, List.append_nil]
          exact budgeted_runs hclock (ih hbefore) hstep

theorem mem_drawsOf {labels : List Server.Label} {call : RateLimiter.Call}
    (h : call ∈ drawsOf sha256Hex str registry labels) :
    ∃ attempt ∈ attempts labels, attempt.time = call.time ∧
      ∃ client ∈ registry.clients, str client.clientId = call.key := by
  obtain ⟨label, hlabel, hdraw⟩ := List.mem_filterMap.mp h
  cases label with
  | write attempt write =>
      obtain ⟨principal, hvalid, rfl⟩ := Option.map_eq_some_iff.mp hdraw
      obtain ⟨_, -, client, hclient, -, -, rfl⟩ := registered_of_authenticate hvalid
      exact ⟨attempt, List.mem_filterMap.mpr ⟨_, hlabel, rfl⟩, rfl, client, hclient, rfl⟩
  | runs => cases hdraw

theorem drawsOf_ordered {labels : List Server.Label}
    (hordered : (attempts labels).Pairwise fun first second => first.time ≤ second.time) :
    (drawsOf sha256Hex str registry labels).Pairwise
      fun first second => first.time ≤ second.time := by
  refine (List.pairwise_filterMap.mp hordered).filterMap _ ?_
  intro first second hle call hcall later hlater
  cases first with
  | write attempt =>
      cases second with
      | write other =>
          obtain ⟨_, -, rfl⟩ := Option.map_eq_some_iff.mp hcall
          obtain ⟨_, -, rfl⟩ := Option.map_eq_some_iff.mp hlater
          exact hle attempt rfl other rfl
      | runs => cases hlater
  | runs => cases hcall

-- However many requests come in and whatever the adapters answer, execute is called no more
-- than twice for each request that the budgets of the clients allow in that time.
theorem house_is_driven_within_budget (hclock : Monotone schedulesClock)
    {devices : DeviceRegistry} {providers : List String} {ratePerMinute : Nat}
    {labels : List Server.Label} (hclients : registry.clients.length ≤ 1024)
    (hordered : (attempts labels).Pairwise fun first second => first.time ≤ second.time)
    {start seconds : ℚ} (hseconds : 0 ≤ seconds)
    (hwithin : ∀ attempt ∈ attempts labels, start ≤ timestamp attempt.time ∧
      timestamp attempt.time ≤ start + seconds)
    (hrun : Machine.run (Server.step commandsClock schedulesClock maximum coercion sha256Hex str
      registry) (.initial devices providers ratePerMinute) labels = some server) :
    (server.gateway.executions.length : ℚ) ≤
      2 * (registry.clients.length * (ratePerMinute + seconds * (ratePerMinute / 60))) := by
  obtain ⟨tapped, asked, hpaced, hgranted⟩ := (budgeted_run hclock hrun).paced
  have hexecutions := hpaced.executions_le
  have hkeys : ((drawsOf sha256Hex str registry labels).map RateLimiter.Call.key).toFinset.card ≤
      registry.clients.length := by
    have hsubset : ((drawsOf sha256Hex str registry labels).map
        RateLimiter.Call.key).toFinset ⊆
        (registry.clients.map fun client => str client.clientId).toFinset := by
      intro key hkey
      obtain ⟨call, hcall, rfl⟩ := List.mem_map.mp (List.mem_toFinset.mp hkey)
      obtain ⟨-, -, -, client, hclient, hkey⟩ := mem_drawsOf hcall
      exact List.mem_toFinset.mpr (List.mem_map.mpr ⟨client, hclient, hkey⟩)
    have hlength := List.toFinset_card_le (registry.clients.map fun client => str client.clientId)
    rw [List.length_map] at hlength
    exact (Finset.card_le_card hsubset).trans hlength
  have hbudget := @RateLimiter.granted_le (drawsOf sha256Hex str registry labels) ratePerMinute _
    (drawsOf_ordered hordered) hkeys hclients start seconds hseconds (by
      intro call hcall
      obtain ⟨attempt, hattempt, htime, -⟩ := mem_drawsOf hcall
      exact htime ▸ hwithin attempt hattempt)
  have hcount : server.gateway.executions.length ≤
      2 * granted ((RateLimiter.create ratePerMinute).outcomes
        (drawsOf sha256Hex str registry labels)) := by omega
  have hcast := @Nat.cast_le ℚ _ _ _ _ |>.mpr hcount
  rw [Nat.cast_mul, Nat.cast_ofNat] at hcast
  exact hcast.trans (mul_le_mul_of_nonneg_left hbudget (by norm_num))

-- A budget of one request each minute, and two taps on the lamp within a second.
def hasty : List Server.Label :=
  [⟨0, "phone", some "Bearer secret"⟩, ⟨1000000, "phone", some "Bearer secret"⟩].map
    fun attempt => .write attempt (.submitCommand 0 .setPower [("on", .bool true)] "request")

def household : ClientRegistry := ⟨[⟨0, 0, "Member", "secret", false⟩]⟩

theorem house_is_driven_within_budget_hasty :
    ∃ server, Machine.run (Server.step (fun _ => 0) (fun _ => 0) 24 Commands.strict id
        (fun _ => "client") household) (.initial (Commands.lamps 1) ["demo"] 1) hasty =
          some server ∧
      server.gateway.executions = [0] ∧
      (server.gateway.executions.length : ℚ) ≤
        2 * (household.clients.length * ((1 : Nat) + 1 * ((1 : Nat) / 60))) := by
  obtain ⟨server, hrun, hexecuted⟩ := (Option.any_eq_true _ _).mp
    (show (Machine.run (Server.step (fun _ => 0) (fun _ => 0) 24 Commands.strict id
      (fun _ => "client") household) (.initial (Commands.lamps 1) ["demo"] 1) hasty).any
        (fun server => decide (server.gateway.executions = [0])) = true by
      decide +kernel)
  refine ⟨server, hrun, of_decide_eq_true hexecuted, ?_⟩
  have hwithin : ∀ attempt ∈ attempts hasty, (0 : ℚ) ≤ timestamp attempt.time ∧
      timestamp attempt.time ≤ 0 + 1 := by
    decide +kernel
  have hordered : (attempts hasty).Pairwise fun first second => first.time ≤ second.time := by
    decide
  have hclients : household.clients.length ≤ 1024 := by decide
  exact house_is_driven_within_budget monotone_const hclients hordered zero_le_one hwithin hrun

end Pace

end Api

end Homeflow
