import Homeflow.Bestway.Provider
import Homeflow.Devices.Service
import Mathlib.Data.List.Induction

namespace Homeflow.Bestway

-- The adapter's event stream together with the device view that consumes it.
structure Subscription where
  provider : BestwayProvider
  previous : Option Bytes := none
  service : DeviceService

namespace Subscription

variable (clock : Nat → Time)

-- One poll and what the consumer makes of the event it yields. A stream that fails is
-- started anew.
def handle (subscription : Subscription) (reading : Except ClientError Bytes) : Subscription :=
  let service := subscription.service
  match subscription.provider.poll subscription.previous reading (clock service.reads) with
  | (provider, none) => { provider, previous := none, service }
  | (provider, some (previous, none)) => { provider, previous, service }
  | (provider, some (previous, some state)) =>
      { provider, previous
        service := { service with reads := service.reads + 1 }.ingest clock airjetRef state
          .providerEvent }

def polls (subscription : Subscription) (readings : List (Except ClientError Bytes)) :
    Subscription :=
  readings.foldl (handle clock) subscription

-- The availability the registry holds for the controller.
def held (subscription : Subscription) : Option Availability :=
  ((subscription.service.registry.idForRef airjetRef).bind
    subscription.service.registry.get).map Device.availability

end Subscription

-- The block of a poll that succeeded.
def decodable (profile : DatapointProfile) : Except ClientError Bytes → Option Bytes
  | .error _ => none
  | .ok payload =>
      match profile.decode payload with
      | .ok _ => some payload
      | .error _ => none

-- After each poll the controller is held as online exactly if that poll succeeded.
def TracksReachability (clock : Nat → Time) (start : Subscription)
    (readings : List (Except ClientError Bytes)) : Prop :=
  ∀ handled reading rest, readings = handled ++ reading :: rest →
    ((start.polls clock (handled ++ [reading])).held = some .online ↔
      (decodable start.provider.profile reading).isSome)

def lastBlock (profile : DatapointProfile) (readings : List (Except ClientError Bytes)) :
    Option Bytes :=
  (readings.filterMap (decodable profile)).getLast?

-- No poll that succeeds right after one that failed reads the block that was read last.
def ReturnsChanged (profile : DatapointProfile) (readings : List (Except ClientError Bytes)) :
    Prop :=
  ∀ handled failed reading rest, readings = handled ++ failed :: reading :: rest →
    decodable profile failed = none → ∀ block, decodable profile reading = some block →
      lastBlock profile handled ≠ some block

section Handle

variable {clock : Nat → Time} {subscription : Subscription}

theorem decodable_eq_some {profile : DatapointProfile} {reading : Except ClientError Bytes}
    {block : Bytes} (h : decodable profile reading = some block) :
    reading = .ok block ∧ ∃ decoded, profile.decode block = .ok decoded := by
  unfold decodable at h
  split at h
  · cases h
  · split at h
    · rename_i decoded hdecoded
      obtain rfl := Option.some.inj h
      exact ⟨rfl, decoded, hdecoded⟩
    · cases h

-- The controller is registered.
def Subscription.Registered (subscription : Subscription) : Prop :=
  ∃ id device, subscription.service.registry.idForRef airjetRef = some id ∧
    subscription.service.registry.get id = some device

theorem Subscription.Registered.ingest (h : subscription.Registered) {provider : BestwayProvider}
    {previous : Option Bytes} (state : ProviderState) :
    let after : Subscription :=
      { provider, previous
        service := { subscription.service with reads := subscription.service.reads + 1 }.ingest
          clock airjetRef state .providerEvent }
    after.Registered ∧ after.held = some state.availability := by
  obtain ⟨id, device, hid, hdevice⟩ := h
  obtain ⟨hupdated, hrefs⟩ := DeviceService.ingest_merged clock
    { subscription.service with reads := subscription.service.reads + 1 } hid hdevice
  have hafter := (congrFun (congrArg OrderedDict.get? hrefs) airjetRef).trans hid
  refine ⟨⟨id, _, hafter, hupdated⟩, ?_⟩
  simp only [Subscription.held, DeviceRegistry.idForRef] at hafter ⊢
  rw [hafter, Option.bind_some, hupdated, Option.map_some, DeviceRegistry.merged]

-- All that a poll can come to.
inductive Handled (profile : DatapointProfile) (before : Subscription)
    (reading : Except ClientError Bytes) (after : Subscription) : Prop where
  | lost (hreading : decodable profile reading = none)
      (hprevious : after.previous = before.previous)
      (hflag : after.provider.availability = .offline) (hheld : after.held = some .offline)
  | stillLost (hreading : decodable profile reading = none)
      (hflag : before.provider.availability = .offline) (hsame : after = before)
  | reported {block : Bytes} (hreading : decodable profile reading = some block)
      (hbefore : before.previous ≠ some block) (hprevious : after.previous = some block)
      (hflag : after.provider.availability = .online) (hheld : after.held = some .online)
  | unchanged {block : Bytes} (hreading : decodable profile reading = some block)
      (hbefore : before.previous = some block) (hprevious : after.previous = before.previous)
      (hflag : after.provider.availability = .online) (hheld : after.held = before.held)

theorem poll_failed {provider : BestwayProvider} {reading : Except ClientError Bytes}
    (hfailed : decodable provider.profile reading = none)
    (hreading : reading ≠ .error .protocol) (previous : Option Bytes) (now : Time) :
    provider.poll previous reading now =
      if provider.availability ≠ .offline then
        ({ provider with availability := .offline },
          some (previous, some (BestwayProvider.offlineSnapshot now)))
      else (provider, some (previous, none)) := by
  cases reading with
  | error error =>
      cases error with
      | protocol => exact absurd rfl hreading
      | unavailable | misbehaved => rfl
  | ok payload =>
      unfold decodable at hfailed
      dsimp only at hfailed
      split at hfailed
      · cases hfailed
      · rename_i error herror
        simp only [BestwayProvider.poll, BestwayProvider.readPayload, herror]

theorem poll_read {provider : BestwayProvider} {block : Bytes}
    {decoded : Datapoint → Option Value} (hdecoded : provider.profile.decode block = .ok decoded)
    (previous : Option Bytes) (now : Time) :
    provider.poll previous (.ok block) now =
      if some block ≠ previous then
        ({ provider with availability := .online },
          some (some block, some (BestwayProvider.snapshot decoded now)))
      else ({ provider with availability := .online }, some (previous, none)) := by
  simp only [BestwayProvider.poll, BestwayProvider.readPayload, hdecoded]

theorem handle_handled (clock : Nat → Time) (h : subscription.Registered)
    {reading : Except ClientError Bytes}
    (hreading : reading ≠ .error .protocol) :
    (subscription.handle clock reading).Registered ∧
      (subscription.handle clock reading).provider.profile = subscription.provider.profile ∧
      Handled subscription.provider.profile subscription reading
        (subscription.handle clock reading) := by
  cases hdecodable : decodable subscription.provider.profile reading with
  | none =>
      simp only [Subscription.handle, poll_failed hdecodable hreading]
      by_cases hflag : subscription.provider.availability = .offline
      · simp only [hflag, ne_eq, not_true_eq_false, if_false]
        exact ⟨h, trivial, .stillLost hdecodable hflag rfl⟩
      · simp only [hflag, ne_eq, not_false_eq_true, if_true]
        obtain ⟨hregistered, hheld⟩ := h.ingest (BestwayProvider.offlineSnapshot _)
        exact ⟨hregistered, trivial, .lost hdecodable rfl rfl hheld⟩
  | some block =>
      obtain ⟨rfl, decoded, hdecoded⟩ := decodable_eq_some hdecodable
      simp only [Subscription.handle, poll_read hdecoded]
      by_cases hprevious : some block = subscription.previous
      · simp only [hprevious, ne_eq, not_true_eq_false, if_false]
        exact ⟨h, trivial, .unchanged hdecodable hprevious.symm rfl rfl rfl⟩
      · simp only [hprevious, ne_eq, not_false_eq_true, if_true]
        obtain ⟨hregistered, hheld⟩ := h.ingest (BestwayProvider.snapshot decoded _)
        exact ⟨hregistered, trivial, .reported hdecodable (Ne.symm hprevious) rfl rfl hheld⟩

end Handle

section Polls

variable {clock : Nat → Time} {start : Subscription}

theorem polls_concat (handled : List (Except ClientError Bytes))
    (reading : Except ClientError Bytes) :
    start.polls clock (handled ++ [reading]) = (start.polls clock handled).handle clock reading :=
  List.foldl_concat _ _ _ _

-- What the three pieces of state have to do with the polls handled so far.
structure Polled (clock : Nat → Time) (start : Subscription)
    (handled : List (Except ClientError Bytes)) : Prop where
  registered : (start.polls clock handled).Registered
  profile : (start.polls clock handled).provider.profile = start.provider.profile
  previous : (start.polls clock handled).previous = lastBlock start.provider.profile handled
  flag : (start.polls clock handled).provider.availability = .offline ↔
    ∃ failed ∈ handled.getLast?, decodable start.provider.profile failed = none

theorem lastBlock_concat (profile : DatapointProfile)
    (handled : List (Except ClientError Bytes)) (reading : Except ClientError Bytes) :
    lastBlock profile (handled ++ [reading]) =
      (decodable profile reading).or (lastBlock profile handled) := by
  cases hreading : decodable profile reading <;> simp [lastBlock, hreading]

theorem Polled.handled {handled : List (Except ClientError Bytes)}
    (h : Polled clock start handled) {reading : Except ClientError Bytes}
    (hreading : reading ≠ .error .protocol) :
    Handled start.provider.profile (start.polls clock handled) reading
      (start.polls clock (handled ++ [reading])) := by
  rw [polls_concat, ← h.profile]
  exact (handle_handled clock h.registered hreading).2.2

theorem polled (hregistered : start.Registered) (hprevious : start.previous = none)
    (honline : start.provider.availability = .online)
    {handled : List (Except ClientError Bytes)}
    (hreadings : ∀ reading ∈ handled, reading ≠ .error .protocol) : Polled clock start handled := by
  induction handled using List.reverseRecOn with
  | nil =>
      refine ⟨hregistered, rfl, hprevious, ?_⟩
      simp [Subscription.polls, honline]
  | append_singleton handled reading ih =>
      have hbefore := ih fun other hother => hreadings other (List.mem_append_left _ hother)
      have hreading := hreadings reading (List.mem_append_right _ (List.mem_singleton_self _))
      obtain ⟨hregisteredAfter, hprofile, -⟩ :=
        handle_handled clock hbefore.registered hreading
      have hhandled := hbefore.handled hreading
      rw [← polls_concat] at hregisteredAfter hprofile
      refine ⟨hregisteredAfter, hprofile.trans hbefore.profile, ?_, ?_⟩
      · rw [lastBlock_concat, ← hbefore.previous]
        cases hhandled with
        | lost hreading hsame => rw [hsame, hreading, Option.none_or]
        | stillLost hreading _ hsame => rw [hsame, hreading, Option.none_or]
        | reported hreading _ hsame => rw [hsame, hreading, Option.some_or]
        | unchanged hreading hblock hsame => rw [hsame, hreading, Option.some_or, hblock]
      · simp only [List.getLast?_concat, Option.mem_some_iff, exists_eq_left']
        cases hhandled with
        | lost hreading _ hflag => simp [hreading, hflag]
        | stillLost hreading hflag hsame => simp [hreading, hsame, hflag]
        | reported hreading _ _ hflag => simp [hreading, hflag]
        | unchanged hreading _ _ hflag => simp [hreading, hflag]

-- Where the blocks change after a failure, no poll leaves the registry behind.
theorem ReturnsChanged.tracks (hregistered : start.Registered)
    (hprevious : start.previous = none) (honline : start.provider.availability = .online)
    {readings : List (Except ClientError Bytes)}
    (hreadings : ∀ reading ∈ readings, reading ≠ .error .protocol)
    (hchanged : ReturnsChanged start.provider.profile readings) :
    TracksReachability clock start readings := by
  intro handled
  induction handled using List.reverseRecOn with
  | nil =>
      intro reading rest hsplit
      have hpolled : Polled clock start [] :=
        polled hregistered hprevious honline fun _ hother => by cases hother
      cases hpolled.handled (hreadings reading (by simp [hsplit])) with
      | lost hreading _ _ hlost =>
          rw [hlost, hreading]
          simp
      | stillLost _ hflag => simp [Subscription.polls, honline] at hflag
      | reported hreading _ _ _ hreported =>
          rw [hreported, hreading]
          simp
      | unchanged hreading hbefore => simp [Subscription.polls, hprevious] at hbefore
  | append_singleton handled last ih =>
      intro reading rest hsplit
      have hbefore := ih last (reading :: rest) (by simp [hsplit])
      have hpolled : Polled clock start (handled ++ [last]) :=
        polled hregistered hprevious honline fun other hother =>
          hreadings other (hsplit ▸ List.mem_append_left _ hother)
      cases hpolled.handled (hreadings reading (by simp [hsplit])) with
      | lost hreading _ _ hlost =>
          rw [hlost, hreading]
          simp
      | stillLost hreading hflag hsame =>
          obtain ⟨failed, hfailed, hnone⟩ := hpolled.flag.mp hflag
          obtain rfl : last = failed := by simpa using hfailed
          rw [hsame, hbefore, hreading, hnone]
      | reported hreading _ _ _ hreported =>
          rw [hreported, hreading]
          simp
      | @unchanged block hreading hblock _ _ hsame =>
          rw [hpolled.previous, lastBlock_concat] at hblock
          cases hlast : decodable start.provider.profile last with
          | none =>
              rw [hlast, Option.none_or] at hblock
              exact absurd hblock (hchanged handled last reading rest (by simp [hsplit]) hlast
                block hreading)
          | some held =>
              rw [hsame, hbefore, hreading, hlast]
              simp

-- The registry follows every poll exactly if no successful poll after a failed one
-- reads the block that was read last.
theorem tracks_iff_returnsChanged (hregistered : start.Registered)
    (hprevious : start.previous = none) (honline : start.provider.availability = .online)
    {readings : List (Except ClientError Bytes)}
    (hreadings : ∀ reading ∈ readings, reading ≠ .error .protocol) :
    TracksReachability clock start readings ↔ ReturnsChanged start.provider.profile readings := by
  refine ⟨?_, ReturnsChanged.tracks hregistered hprevious honline hreadings⟩
  intro htracks handled failed reading rest hsplit hfailed block hblock hlast
  have hlost := htracks handled failed (reading :: rest) hsplit
  have hback := htracks (handled ++ [failed]) reading rest (by simp [hsplit])
  have hpolled : Polled clock start (handled ++ [failed]) :=
    polled hregistered hprevious honline fun other hother => hreadings other (by
      rw [hsplit, List.append_cons]
      exact List.mem_append_left _ hother)
  cases hpolled.handled (hreadings reading (by simp [hsplit])) with
  | lost hreading | stillLost hreading => cases hreading.symm.trans hblock
  | @reported found hreading hbefore =>
      obtain rfl := Option.some.inj (hreading.symm.trans hblock)
      rw [hpolled.previous, lastBlock_concat, hfailed, Option.none_or] at hbefore
      exact hbefore hlast
  | unchanged _ _ _ _ hsame =>
      rw [hsame, hlost, hfailed, hblock] at hback
      simp at hback

end Polls

def controller : ProviderDevice :=
  { ref := airjetRef, suggestedName := "Pool", kind := .pool,
    capabilities := [.currentTemperature] }

def block (temperature : UInt8) : Bytes := (List.replicate 19 0).set 15 temperature

-- The controller was reached at startup.
def atStartup : Subscription where
  provider := { profile := AIRJET_19BYTE_PROFILE, availability := .online }
  service :=
    { registry := DeviceRegistry.empty.register (fun _ => 0) (fun _ => 0) controller
        { state := {}, availability := .online, observedAt := 0 } }

theorem atStartup_registered : atStartup.Registered :=
  ⟨0, _, rfl, rfl⟩

theorem tracks_iff_returnsChanged_atStartup :
    TracksReachability (fun _ => 0) atStartup
        [.ok (block 30), .error .unavailable, .ok (block 31)] ↔
      ReturnsChanged atStartup.provider.profile
        [.ok (block 30), .error .unavailable, .ok (block 31)] :=
  tracks_iff_returnsChanged atStartup_registered rfl rfl (by decide)

-- The controller is gone for one poll and comes back with the block it had before.
theorem returned_controller_stays_offline :
    ¬TracksReachability (fun _ => 0) atStartup
      [.ok (block 30), .error .unavailable, .ok (block 30)] := by
  intro htracks
  have hback := htracks [.ok (block 30), .error .unavailable] (.ok (block 30)) [] rfl
  exact absurd hback (by decide +kernel)

end Homeflow.Bestway
