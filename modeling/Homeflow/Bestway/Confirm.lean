import Homeflow.Bestway.Control
import Homeflow.Bestway.Execution
import Homeflow.Bestway.Subscription
import Homeflow.Lib.Machine

namespace Homeflow.Bestway

-- What ends an await of execute.
inductive Turn where
  | read (reading : Except ClientError Bytes)
  -- The control request is handed to the transport, or send_control raises before that.
  | written
  | unwritten (error : ClientError)
  -- The drain of it returns or raises.
  | drained
  | undrained (error : ClientError)
  | slept

def Turn.reading? : Turn → Option (Except ClientError Bytes)
  | .read reading => some reading
  | _ => none

def Turn.writes : Turn → Bool
  | .written => true
  | _ => false

def readings (turns : List Turn) : List (Except ClientError Bytes) := turns.filterMap Turn.reading?

def Execution.turn (provider : BestwayProvider) : Execution Bytes → Turn → Option (Execution Bytes)
  | .reading datapoint params, .read block =>
      some ((Execution.reading datapoint params).readEnds provider (fun payload => payload) block)
  | .writing request base, .written => some (Execution.writing request base).wrote
  | .writing request base, .unwritten error =>
      some ((Execution.writing request base).sendEnds provider (fun payload => payload)
        (.error error))
  | .sending datapoint value, .drained =>
      some ((Execution.sending datapoint value).sendEnds provider (fun payload => payload) (.ok ()))
  | .sending datapoint value, .undrained error =>
      some ((Execution.sending datapoint value).sendEnds provider (fun payload => payload)
        (.error error))
  | .confirming datapoint value attempt latest, .read block =>
      some ((Execution.confirming datapoint value attempt latest).readEnds provider
        (fun payload => payload) block)
  | .sleeping datapoint value attempt latest, .slept =>
      some (Execution.sleeping datapoint value attempt latest).slept
  | _, _ => none

-- What a block that was read shows, and the state a result of execute comes with.
def blockState (profile : DatapointProfile) (now : Time) (payload : Bytes) : Option ProviderState :=
  match profile.decode payload with
  | .error _ => none
  | .ok decoded => some (BestwayProvider.snapshot decoded now)

def Executed.state (profile : DatapointProfile) (now : Time) (executed : Executed Bytes) :
    Option ProviderState := executed.observed.bind (blockState profile now)

-- The control request that a command comes to on a status block.
structure Requested (profile : DatapointProfile) (command : ProviderCommand) (base : Bytes)
    (request : ControlRequest) : Prop where
  datapoint : ACTION_DATAPOINTS command.action = some request.datapoint
  value : ∃ decoded, profile.decode base = .ok decoded ∧
    valueFor profile decoded command.params = some request.value
  encoded : profile.encodeControl request.datapoint request.value base =
    .ok (some (request.attrFlags, request.attrVals))

-- Why a command is refused once its first read has ended: the read has failed, the setpoint
-- is out of range, or encode_control raises.
inductive Refused (profile : DatapointProfile) (command : ProviderCommand) :
    Except ClientError Bytes → Prop
  | unread {reading : Except ClientError Bytes} (h : decodable profile reading = none) :
      Refused profile command reading
  | outOfRange {base : Bytes} {decoded : Datapoint → Option Value}
      (hdecode : profile.decode base = .ok decoded)
      (hvalue : valueFor profile decoded command.params = none) : Refused profile command (.ok base)
  | unencoded {base : Bytes} {decoded : Datapoint → Option Value} {datapoint : Datapoint}
      {value : Value} (hdecode : profile.decode base = .ok decoded)
      (hdatapoint : ACTION_DATAPOINTS command.action = some datapoint)
      (hvalue : valueFor profile decoded command.params = some value)
      (hencode : ∀ sent, profile.encodeControl datapoint value base ≠ .ok (some sent)) :
      Refused profile command (.ok base)

-- What ends execute with an exception that is no ProviderError: a first read that ends with a
-- ProtocolError, and a negative flag bit where nothing else stands against the request.
inductive Breaks (profile : DatapointProfile) (command : ProviderCommand) :
    Except ClientError Bytes → Prop
  | protocol : Breaks profile command (.error .protocol)
  | shift {base : Bytes} {decoded : Datapoint → Option Value} {datapoint : Datapoint}
      {value : Value} {flagBit : Int} (hdecode : profile.decode base = .ok decoded)
      (hdatapoint : ACTION_DATAPOINTS command.action = some datapoint)
      (hvalue : valueFor profile decoded command.params = some value)
      (hflagBit : profile.controlFlagBits.get? datapoint = some flagBit) (hnegative : flagBit < 0)
      (hencode : ∀ error, profile.encodeControl datapoint value base ≠ .error error) :
      Breaks profile command (.ok base)

-- The call after its control request is sent, and the reads since.
structure Confirming (provider : BestwayProvider) (command : ProviderCommand) (turns : List Turn)
    (base : Bytes) (request : ControlRequest) (after : List Turn) : Prop where
  turns_eq : turns = .read (.ok base) :: .written :: .drained :: after
  requested : Requested provider.profile command base request
  -- Only the read repeats.
  writes : after.countP Turn.writes = 0

-- What execute returns after these reads.
structure Judged (provider : BestwayProvider) (request : ControlRequest)
    (reads : List (Except ClientError Bytes)) (executed : Executed Bytes) : Prop where
  applied : executed.outcome = .applied ↔ ∃ payload, .ok payload ∈ reads ∧
    shows provider.profile request.datapoint request.value payload = true
  -- The read that shows it is the last one.
  shown : executed.outcome = .applied → ∃ block, reads.getLast? = some (.ok block) ∧
    executed.observed = some block ∧
    shows provider.profile request.datapoint request.value block = true
  unknown : executed.outcome ≠ .applied → executed.outcome = .unknown
  observed : executed.observed = lastBlock provider.profile reads

-- Everything a run of execute can have come to.
inductive Ran (provider : BestwayProvider) (command : ProviderCommand) :
    List Turn → Execution Bytes → Prop
  | asked {datapoint : Datapoint} (h : ACTION_DATAPOINTS command.action = some datapoint) :
      Ran provider command [] (.reading datapoint command.params)
  | unasked {failureCode : String} :
      Ran provider command [] (.ended (.error (.providerError failureCode)))
  | prepared {base : Bytes} {request : ControlRequest}
      (h : Requested provider.profile command base request) :
      Ran provider command [.read (.ok base)] (.writing request base)
  | unprepared {reading : Except ClientError Bytes} {exception : ProviderException}
      (hdatapoint : ACTION_DATAPOINTS command.action ≠ none)
      (h : (∃ failureCode, exception = .providerError failureCode) ↔
        ¬Breaks provider.profile command reading) :
      Ran provider command [.read reading] (.ended (.error exception))
  | unwritten {base : Bytes} {request : ControlRequest} {error : ClientError}
      (h : Requested provider.profile command base request) :
      Ran provider command [.read (.ok base), .unwritten error]
        (.ended (.error error.exception))
  | sending {base : Bytes} {request : ControlRequest}
      (h : Requested provider.profile command base request) :
      Ran provider command [.read (.ok base), .written]
        (.sending request.datapoint request.value)
  | undrained {base : Bytes} {request : ControlRequest} {error : ClientError}
      (h : Requested provider.profile command base request) :
      Ran provider command [.read (.ok base), .written, .undrained error]
        (.ended (.error error.exception))
  | confirming {base : Bytes} {request : ControlRequest} {turns after : List Turn} {attempt : Nat}
      (h : Confirming provider command turns base request after)
      (hattempt : attempt = (readings after).length) (hlt : attempt < provider.confirmAttempts)
      (hlength : after.length = 2 * attempt)
      (hsilent : ∀ payload, .ok payload ∈ readings after →
        shows provider.profile request.datapoint request.value payload = false) :
      Ran provider command turns (.confirming request.datapoint request.value attempt
        (lastBlock provider.profile (readings after)))
  | sleeping {base : Bytes} {request : ControlRequest} {turns after : List Turn} {attempt : Nat}
      (h : Confirming provider command turns base request after)
      (hattempt : attempt = (readings after).length) (hlt : attempt < provider.confirmAttempts)
      (hlength : after.length + 1 = 2 * attempt)
      (hsilent : ∀ payload, .ok payload ∈ readings after →
        shows provider.profile request.datapoint request.value payload = false) :
      Ran provider command turns (.sleeping request.datapoint request.value attempt
        (lastBlock provider.profile (readings after)))
  | judged {base : Bytes} {request : ControlRequest} {turns after : List Turn}
      {executed : Executed Bytes} (h : Confirming provider command turns base request after)
      (hbudget : (readings after).length ≤ provider.confirmAttempts)
      (hlength : after.length ≤ 2 * (readings after).length)
      (hjudged : Judged provider request (readings after) executed) :
      Ran provider command turns (.ended (.ok executed))
  -- Only an error of this side's own ends the reads early.
  | broken {base : Bytes} {request : ControlRequest} {turns after : List Turn}
      (h : Confirming provider command turns base request after)
      (hbudget : (readings after).length ≤ provider.confirmAttempts)
      (hlength : after.length ≤ 2 * (readings after).length)
      (hprotocol : .error .protocol ∈ readings after) :
      Ran provider command turns (.ended (.error .other))

section Ran

variable {provider : BestwayProvider} {command : ProviderCommand} {turns after : List Turn}
  {base : Bytes} {request : ControlRequest} {reads : List (Except ClientError Bytes)}

@[simp] theorem readings_concat_read (turns : List Turn) (reading : Except ClientError Bytes) :
    readings (turns ++ [.read reading]) = readings turns ++ [reading] := by
  simp [readings, Turn.reading?]

@[simp] theorem readings_concat_slept (turns : List Turn) :
    readings (turns ++ [.slept]) = readings turns := by
  simp [readings, Turn.reading?]

theorem decodable_ok {payload : Bytes} {decoded : Datapoint → Option Value}
    (h : provider.profile.decode payload = .ok decoded) :
    decodable provider.profile (.ok payload) = some payload := by
  simp [decodable, h]

theorem decodable_error {payload : Bytes} {error : ProfileError}
    (h : provider.profile.decode payload = .error error) :
    decodable provider.profile (.ok payload) = none := by
  simp [decodable, h]

-- A command is not refused on a block that has a value for it and that encode_control takes.
theorem Requested.not_refused (h : Requested provider.profile command base request) :
    ¬Refused provider.profile command (.ok base) := by
  obtain ⟨decoded, hdecode, hvalue⟩ := h.value
  intro hrefused
  cases hrefused with
  | unread hunread =>
      rw [decodable_ok hdecode] at hunread
      cases hunread
  | outOfRange hother hnone =>
      obtain rfl := Except.ok.inj (hdecode.symm.trans hother)
      rw [hvalue] at hnone
      cases hnone
  | unencoded hother hdatapoint hsome hencode =>
      obtain rfl := Except.ok.inj (hdecode.symm.trans hother)
      obtain rfl := Option.some.inj (hvalue.symm.trans hsome)
      obtain rfl := Option.some.inj (h.datapoint.symm.trans hdatapoint)
      exact hencode _ h.encoded

-- A layout that gives no negative flag bit raises nothing but its own errors.
theorem Breaks.encodeControl {decoded : Datapoint → Option Value} {datapoint : Datapoint}
    {value : Value} (h : Breaks provider.profile command (.ok base))
    (hdecode : provider.profile.decode base = .ok decoded)
    (hdatapoint : ACTION_DATAPOINTS command.action = some datapoint)
    (hvalue : valueFor provider.profile decoded command.params = some value) :
    provider.profile.encodeControl datapoint value base = .ok none := by
  cases h with
  | shift hother hsame hsome hflagBit hnegative hencode =>
      obtain rfl := Except.ok.inj (hdecode.symm.trans hother)
      obtain rfl := Option.some.inj (hvalue.symm.trans hsome)
      obtain rfl := Option.some.inj (hdatapoint.symm.trans hsame)
      rcases hresult : provider.profile.encodeControl datapoint value base with error | sent
      · exact absurd hresult (hencode error)
      · cases sent with
        | none => rfl
        | some sent =>
            obtain ⟨-, block, -⟩ := DatapointProfile.encodeControl_of_ok hresult
            have hsameBit := Option.some.inj (hflagBit.symm.trans block.flagBit_eq)
            omega

theorem Breaks.refused {reading : Except ClientError Bytes}
    (h : Breaks provider.profile command reading) : Refused provider.profile command reading := by
  cases h with
  | protocol => exact .unread rfl
  | shift hdecode hdatapoint hvalue hflagBit hnegative hencode =>
      refine .unencoded hdecode hdatapoint hvalue fun sent hsent => ?_
      have hbreaks : Breaks provider.profile command (.ok _) :=
        .shift hdecode hdatapoint hvalue hflagBit hnegative hencode
      rw [hbreaks.encodeControl hdecode hdatapoint hvalue] at hsent
      cases hsent

-- The block that is judged last has been read.
theorem mem_of_lastBlock {block : Bytes} (h : lastBlock provider.profile reads = some block) :
    .ok block ∈ reads := by
  obtain ⟨reading, hmem, hreading⟩ := List.mem_filterMap.mp (List.mem_of_getLast? h)
  obtain ⟨rfl, -⟩ := decodable_eq_some hreading
  exact hmem

-- The reads are over and none of them has shown the value.
theorem conclude_silent (hsilent : ∀ payload, .ok payload ∈ reads →
      shows provider.profile request.datapoint request.value payload = false) :
    ∃ executed, Execution.conclude provider (fun payload => payload) request.datapoint
        request.value (lastBlock provider.profile reads) = .ended (.ok executed) ∧
      Judged provider request reads executed := by
  have hnone : ¬∃ payload, .ok payload ∈ reads ∧
      shows provider.profile request.datapoint request.value payload = true := by
    rintro ⟨payload, hmem, hshows⟩
    rw [hsilent payload hmem] at hshows
    cases hshows
  cases hlast : lastBlock provider.profile reads with
  | none =>
      exact ⟨_, rfl, by simpa using hnone, fun h => (by cases h), fun _ => rfl, hlast.symm⟩
  | some observed =>
      have hshows := hsilent observed (mem_of_lastBlock hlast)
      rw [Execution.conclude, hshows]
      exact ⟨_, rfl, by simpa using hnone, fun h => (by cases h), fun _ => rfl, hlast.symm⟩

-- Another read, or the end of them.
theorem ran_nextAttempt (h : Confirming provider command turns base request after)
    (hbudget : (readings after).length ≤ provider.confirmAttempts)
    (hlength : after = [] ∨ after.length + 1 = 2 * (readings after).length)
    (hsilent : ∀ payload, .ok payload ∈ readings after →
      shows provider.profile request.datapoint request.value payload = false) :
    Ran provider command turns (Execution.nextAttempt provider (fun payload => payload)
      request.datapoint request.value (readings after).length
      (lastBlock provider.profile (readings after))) := by
  unfold Execution.nextAttempt
  split
  · next hlt =>
    rcases hlength with rfl | hlength
    · exact .confirming h rfl hlt rfl hsilent
    · rw [if_neg (by omega)]
      exact .sleeping h rfl hlt hlength hsilent
  · obtain ⟨executed, hconclude, hjudged⟩ := conclude_silent hsilent
    rw [hconclude]
    refine .judged h hbudget ?_ hjudged
    rcases hlength with rfl | hlength
    · simp
    · omega

theorem Confirming.concat (h : Confirming provider command turns base request after)
    {turn : Turn} (hturn : turn.writes = false) :
    Confirming provider command (turns ++ [turn]) base request (after ++ [turn]) :=
  ⟨by simp [h.turns_eq], h.requested, by simp [List.countP_append, h.writes, hturn]⟩

-- One read after the control request.
theorem ran_confirming {reading : Except ClientError Bytes}
    (h : Confirming provider command turns base request after)
    (hlt : (readings after).length < provider.confirmAttempts)
    (hlength : after.length = 2 * (readings after).length)
    (hsilent : ∀ payload, .ok payload ∈ readings after →
      shows provider.profile request.datapoint request.value payload = false) :
    Ran provider command (turns ++ [.read reading])
      ((Execution.confirming request.datapoint request.value (readings after).length
        (lastBlock provider.profile (readings after))).readEnds provider (fun payload => payload)
        reading) := by
  have hconfirming : Confirming provider command (turns ++ [.read reading]) base request
      (after ++ [.read reading]) := h.concat rfl
  have hreads := readings_concat_read after reading
  have hlast := lastBlock_concat provider.profile (readings after) reading
  have hcount : (readings (after ++ [Turn.read reading])).length = (readings after).length + 1 := by
    rw [hreads, List.length_append, List.length_singleton]
  have hturns : (after ++ [Turn.read reading]).length + 1 =
      2 * (readings (after ++ [Turn.read reading])).length := by
    rw [hcount, List.length_append, List.length_singleton]
    omega
  have hbudget : (readings (after ++ [Turn.read reading])).length ≤ provider.confirmAttempts := by
    omega
  -- A read that does not show the value leads to the next attempt.
  have hnext (hquiet : ∀ payload, reading = .ok payload →
      shows provider.profile request.datapoint request.value payload = false) :
      Ran provider command (turns ++ [.read reading]) (Execution.nextAttempt provider
        (fun payload => payload) request.datapoint request.value ((readings after).length + 1)
        (lastBlock provider.profile (readings after ++ [reading]))) := by
    rw [← hcount, ← hreads]
    refine ran_nextAttempt hconfirming hbudget (.inr hturns) fun payload hmem => ?_
    rw [hreads, List.mem_append, List.mem_singleton] at hmem
    rcases hmem with hold | hnew
    · exact hsilent payload hold
    · exact hquiet payload hnew.symm
  cases reading with
  | error error =>
      cases error with
      | protocol => exact .broken hconfirming hbudget (by omega) (by simp)
      | unavailable | misbehaved =>
          have hsame := hnext (by simp)
          rw [hlast] at hsame
          exact hsame
  | ok observed =>
      simp only [Execution.readEnds]
      split
      · next error hdecode =>
        have hsame := hnext fun payload hpayload => by
          obtain rfl := Except.ok.inj hpayload
          simp [shows, hdecode]
        rw [hlast, decodable_error hdecode] at hsame
        exact hsame
      · next decoded hdecode =>
        rw [decodable_ok hdecode, Option.some_or] at hlast
        split
        · next hshows =>
          rw [Execution.conclude, if_pos hshows]
          refine .judged hconfirming hbudget (by omega) ⟨?_, ?_, ?_, ?_⟩
          · exact ⟨fun _ => ⟨observed, by simp, hshows⟩, fun _ => rfl⟩
          · exact fun _ => ⟨observed, by simp, rfl, hshows⟩
          · exact fun hnot => absurd rfl hnot
          · rw [hreads, hlast]
        · next hshows =>
          rw [← hlast]
          refine hnext fun payload hpayload => ?_
          obtain rfl := Except.ok.inj hpayload
          simpa using hshows

theorem ran_start (ref : ProviderDeviceRef) :
    Ran provider command [] (Execution.start ref command) := by
  unfold Execution.start
  split
  · exact .unasked
  · split
    · exact .unasked
    · next hdatapoint => exact .asked hdatapoint

-- The first read, and what becomes of the command on it.
theorem ran_reading {reading : Except ClientError Bytes} {datapoint : Datapoint}
    (hdatapoint : ACTION_DATAPOINTS command.action = some datapoint) :
    Ran provider command [.read reading] ((Execution.reading datapoint command.params).readEnds
      provider (fun payload => payload) reading) := by
  have hgiven : ACTION_DATAPOINTS command.action ≠ none := by simp [hdatapoint]
  cases reading with
  | error error =>
      cases error with
      | protocol =>
          exact .unprepared hgiven ⟨fun ⟨_, hnone⟩ => (by cases hnone), fun h => absurd .protocol h⟩
      | unavailable | misbehaved =>
          exact .unprepared hgiven ⟨fun _ h => (by cases h), fun _ => ⟨_, rfl⟩⟩
  | ok base =>
      simp only [Execution.readEnds, Execution.prepare]
      split
      · next error hdecode =>
        refine .unprepared hgiven ⟨fun _ h => ?_, fun _ => ⟨_, rfl⟩⟩
        cases h with
        | shift hother => cases hdecode.symm.trans hother
      · next decoded hdecode =>
        split
        · next hvalue =>
          refine .unprepared hgiven ⟨fun _ h => ?_, fun _ => ⟨_, rfl⟩⟩
          cases h with
          | shift hother _ hsome =>
              obtain rfl := Except.ok.inj (hdecode.symm.trans hother)
              cases hvalue.symm.trans hsome
        · next value hvalue =>
          split
          · next error hencode =>
            refine .unprepared hgiven ⟨fun _ h => ?_, fun _ => ⟨_, rfl⟩⟩
            cases hencode.symm.trans (h.encodeControl hdecode hdatapoint hvalue)
          · next hnone =>
            -- A shift by a negative number is a ValueError.
            obtain ⟨flagBit, hnegative, hflagBit⟩ :=
              DatapointProfile.negative_of_encodeControl hnone
            have hencode : ∀ error,
                provider.profile.encodeControl datapoint value base ≠ .error error := by
              intro error herror
              cases hnone.symm.trans herror
            have hbreaks : Breaks provider.profile command (.ok base) :=
              .shift hdecode hdatapoint hvalue hflagBit hnegative hencode
            exact .unprepared hgiven ⟨fun ⟨_, h⟩ => (by cases h), fun h => absurd hbreaks h⟩
          · next attrFlags attrVals hencode =>
            exact .prepared ⟨hdatapoint, ⟨decoded, hdecode, hvalue⟩, hencode⟩

theorem ran_turn {turn : Turn} {execution next : Execution Bytes}
    (h : Ran provider command turns execution) (hturn : execution.turn provider turn = some next) :
    Ran provider command (turns ++ [turn]) next := by
  cases h with
  | asked hdatapoint =>
      cases turn <;> cases hturn
      exact ran_reading hdatapoint
  | unasked | unprepared | unwritten | undrained | judged | broken => cases turn <;> cases hturn
  | prepared hrequested =>
      cases turn <;> cases hturn
      · exact .sending hrequested
      · exact .unwritten hrequested
  | sending hrequested =>
      cases turn <;> cases hturn
      · exact ran_nextAttempt ⟨rfl, hrequested, rfl⟩ (Nat.zero_le _) (.inl rfl)
          fun payload hmem => by cases hmem
      · exact .undrained hrequested
  | confirming hconfirming hattempt hlt hlength hsilent =>
      cases turn <;> cases hturn
      subst hattempt
      exact ran_confirming hconfirming hlt hlength hsilent
  | sleeping hconfirming hattempt hlt hlength hsilent =>
      cases turn <;> cases hturn
      next base request after attempt =>
      have hsame := readings_concat_slept after
      have hnext : Ran provider command (turns ++ [.slept])
          (.confirming request.datapoint request.value attempt
            (lastBlock provider.profile (readings (after ++ [Turn.slept])))) := by
        refine .confirming (hconfirming.concat rfl) (by rw [hsame, hattempt]) hlt ?_ ?_
        · rw [List.length_append, List.length_singleton, hlength]
        · rw [hsame]
          exact hsilent
      rw [hsame] at hnext
      exact hnext

theorem ran_run {ref : ProviderDeviceRef} {execution : Execution Bytes}
    (hrun : Machine.run (Execution.turn provider) (.start ref command) turns = some execution) :
    Ran provider command turns execution := by
  induction turns using List.reverseRecOn generalizing execution with
  | nil =>
      obtain rfl := Option.some.inj hrun
      exact ran_start ref
  | append_singleton turns turn ih =>
      obtain ⟨before, hbefore, hturn⟩ := Machine.run_concat.mp hrun
      exact ran_turn (ih hbefore) hturn

theorem isSome_lastBlock : (lastBlock provider.profile reads).isSome = true ↔
    ∃ reading ∈ reads, (decodable provider.profile reading).isSome = true := by
  rw [lastBlock, List.getLast?_isSome, ne_eq, List.filterMap_eq_nil_iff, not_forall]
  refine exists_congr fun reading => ?_
  rw [Classical.not_imp, Option.isSome_iff_ne_none, ne_eq]

-- The result has a state as soon as one of the reads has succeeded.
theorem Judged.isSome_state {executed : Executed Bytes} (h : Judged provider request reads executed)
    (now : Time) : (executed.state provider.profile now).isSome = true ↔
      ∃ reading ∈ reads, (decodable provider.profile reading).isSome = true := by
  rw [← isSome_lastBlock, Executed.state, h.observed]
  cases hlast : lastBlock provider.profile reads with
  | none => simp
  | some block =>
      obtain ⟨reading, -, hreading⟩ := List.mem_filterMap.mp (List.mem_of_getLast? hlast)
      obtain ⟨-, decoded, hdecode⟩ := decodable_eq_some hreading
      simp [blockState, hdecode]

theorem Confirming.readings_eq (h : Confirming provider command turns base request after) :
    readings turns = .ok base :: readings after := by
  rw [h.turns_eq]
  rfl

theorem Confirming.countP_writes (h : Confirming provider command turns base request after) :
    turns.countP Turn.writes = 1 := by
  have hwritten : Turn.written.writes = true := rfl
  rw [h.turns_eq, List.countP_cons_of_neg (by simp [Turn.writes]),
    List.countP_cons_of_pos hwritten, List.countP_cons_of_neg (by simp [Turn.writes]), h.writes]

theorem Ran.writes_le {execution : Execution Bytes} (h : Ran provider command turns execution) :
    turns.countP Turn.writes ≤ 1 := by
  cases h with
  | confirming h | sleeping h | judged h | broken h => exact h.countP_writes.le
  | _ => simp [Turn.writes, List.countP_cons]

-- The command has no datapoint, or it is refused on its first read.
def Declined (profile : DatapointProfile) (command : ProviderCommand) (turns : List Turn) : Prop :=
  ACTION_DATAPOINTS command.action = none ∨ ∃ reading,
    (readings turns).head? = some reading ∧ Refused profile command reading

theorem Requested.not_declined (h : Requested provider.profile command base request)
    (hreadings : (readings turns).head? = some (.ok base)) :
    ¬Declined provider.profile command turns := by
  rintro (hnone | ⟨reading, hhead, hrefused⟩)
  · rw [h.datapoint] at hnone
    cases hnone
  · obtain rfl := Option.some.inj (hreadings.symm.trans hhead)
    exact h.not_refused hrefused

-- The command breaks on its first read.
def Broken (profile : DatapointProfile) (command : ProviderCommand) (turns : List Turn) : Prop :=
  ∃ reading, (readings turns).head? = some reading ∧ Breaks profile command reading

theorem Ran.declined {execution : Execution Bytes} (h : Ran provider command turns execution)
    (hbroken : ¬Broken provider.profile command turns)
    (hdeclined : Declined provider.profile command turns) :
    turns.countP Turn.writes = 0 ∧
      ∃ failureCode, execution = .ended (.error (.providerError failureCode)) := by
  cases h with
  | asked hdatapoint =>
      rcases hdeclined with hnone | ⟨reading, hhead, -⟩
      · rw [hdatapoint] at hnone
        cases hnone
      · cases hhead
  | unasked => exact ⟨rfl, _, rfl⟩
  | prepared h | unwritten h | sending h | undrained h =>
      exact absurd hdeclined (h.not_declined rfl)
  | unprepared hdatapoint hraises =>
      obtain ⟨failureCode, rfl⟩ := hraises.mpr fun hbreaks => hbroken ⟨_, rfl, hbreaks⟩
      exact ⟨rfl, failureCode, rfl⟩
  | confirming h | sleeping h | judged h | broken h =>
      exact absurd hdeclined (h.requested.not_declined (by rw [h.readings_eq]; rfl))

-- A command that breaks is declined, but ends with an exception of another kind.
theorem Ran.broken_raises {execution : Execution Bytes} (h : Ran provider command turns execution)
    (hbroken : Broken provider.profile command turns) :
    Declined provider.profile command turns ∧
      ∀ failureCode, execution ≠ .ended (.error (.providerError failureCode)) := by
  obtain ⟨reading, hhead, hbreaks⟩ := hbroken
  have hdeclined : Declined provider.profile command turns := .inr ⟨reading, hhead, hbreaks.refused⟩
  refine ⟨hdeclined, ?_⟩
  cases h with
  | asked | unasked => cases hhead
  | prepared h | unwritten h | sending h | undrained h =>
      exact absurd hdeclined (h.not_declined rfl)
  | unprepared hdatapoint hraises =>
      obtain rfl := Option.some.inj hhead.symm
      intro failureCode hended
      cases hended
      exact hraises.mp ⟨failureCode, rfl⟩ hbreaks
  | confirming h | sleeping h | judged h | broken h =>
      exact absurd hdeclined (h.requested.not_declined (by rw [h.readings_eq]; rfl))

-- A request that went out is followed by a result, and the result by nothing.
theorem Ran.drained {result : Except ProviderException (Executed Bytes)}
    (h : Ran provider command turns (.ended result))
    (hreads : .error .protocol ∉ (readings turns).tail) (hdrained : .drained ∈ turns) :
    ∃ base request after executed, Confirming provider command turns base request after ∧
      result = .ok executed ∧ (readings after).length ≤ provider.confirmAttempts ∧
      Judged provider request (readings after) executed := by
  cases h with
  | unasked | unprepared | unwritten | undrained => simp at hdrained
  | judged h hbudget _ hjudged => exact ⟨_, _, _, _, h, rfl, hbudget, hjudged⟩
  | broken h _ _ hprotocol =>
      rw [h.readings_eq] at hreads
      exact absurd hprotocol hreads

theorem Ran.length_le {execution : Execution Bytes} (h : Ran provider command turns execution) :
    turns.length ≤ 3 + 2 * provider.confirmAttempts := by
  cases h with
  | confirming h hattempt hlt hlength | sleeping h hattempt hlt hlength
  | judged h hlt hlength | broken h hlt hlength =>
      have hturns := congrArg List.length h.turns_eq
      simp only [List.length_cons] at hturns
      omega
  | _ => simp only [List.length_cons, List.length_nil]; omega

-- Whatever it waits for can end.
theorem Ran.goes_on {execution : Execution Bytes} (h : Ran provider command turns execution)
    (hgoes : ∀ result, execution ≠ .ended result) :
    ∃ turn, (execution.turn provider turn).isSome := by
  cases h with
  | asked => exact ⟨.read (.error .unavailable), rfl⟩
  | prepared => exact ⟨.written, rfl⟩
  | sending => exact ⟨.drained, rfl⟩
  | confirming => exact ⟨.read (.error .unavailable), rfl⟩
  | sleeping => exact ⟨.slept, rfl⟩
  | _ => exact absurd rfl (hgoes _)

end Ran

-- What is asked of a run of execute: it sends one control request at most, and none where
-- the command is declined with a ProviderError. Once the request is sent, the reads that
-- follow decide: the value is applied if one of them shows it, and the state is what the last
-- one that succeeded has shown. And it ends.
structure Confirmed (provider : BestwayProvider) (command : ProviderCommand) (turns : List Turn)
    (execution : Execution Bytes) : Prop where
  writes : turns.countP Turn.writes ≤ 1
  declined : Declined provider.profile command turns → turns.countP Turn.writes = 0 ∧
    ∃ failureCode, execution = .ended (.error (.providerError failureCode))
  judged : .drained ∈ turns → ∀ result, execution = .ended result →
    ∃ base request after executed, Confirming provider command turns base request after ∧
      result = .ok executed ∧ (readings after).length ≤ provider.confirmAttempts ∧
      Judged provider request (readings after) executed ∧
      ∀ now, executed.state provider.profile now =
          (lastBlock provider.profile (readings after)).bind (blockState provider.profile now) ∧
        ((executed.state provider.profile now).isSome ↔
          ∃ reading ∈ readings after, (decodable provider.profile reading).isSome)
  bounded : turns.length ≤ 3 + 2 * provider.confirmAttempts
  goes_on : (∀ result, execution ≠ .ended result) → ∃ turn, (execution.turn provider turn).isSome

-- A run meets this unless its first read ends with a ProtocolError or the layout has a negative
-- flag bit for it. The reads that confirm the write return or raise what a poll handles.
theorem write_confirmed_iff {provider : BestwayProvider} {ref : ProviderDeviceRef}
    {command : ProviderCommand} {turns : List Turn} {execution : Execution Bytes}
    (hrun : Machine.run (Execution.turn provider) (.start ref command) turns = some execution)
    (hreads : .error .protocol ∉ (readings turns).tail) :
    Confirmed provider command turns execution ↔ ¬Broken provider.profile command turns := by
  have hran := ran_run hrun
  constructor
  · intro hconfirmed hbroken
    obtain ⟨hdeclined, hother⟩ := hran.broken_raises hbroken
    obtain ⟨-, failureCode, hended⟩ := hconfirmed.declined hdeclined
    exact hother failureCode hended
  · intro hbroken
    refine ⟨hran.writes_le, hran.declined hbroken, fun hdrained result hended => ?_,
      hran.length_le, hran.goes_on⟩
    subst hended
    obtain ⟨base, request, after, executed, hconfirming, hresult, hbudget, hjudged⟩ :=
      hran.drained hreads hdrained
    refine ⟨base, request, after, executed, hconfirming, hresult, hbudget, hjudged, fun now => ?_⟩
    refine ⟨?_, hjudged.isSome_state now⟩
    rw [Executed.state, hjudged.observed]

def heaterProvider : BestwayProvider where
  profile :=
    { AIRJET_19BYTE_PROFILE with
      trusted := true
      writable := [.filterPump, .heater]
      writable_known := by decide }

def heaterOffBlock : Bytes := List.replicate 19 0

def heaterOnBlock : Bytes := heaterOffBlock.set 1 2

-- The heater is seen to be on at the second attempt.
def heaterTurns : List Turn :=
  [.read (.ok heaterOffBlock), .written, .drained, .read (.error .unavailable), .slept,
    .read (.ok heaterOnBlock)]

theorem heater_run : Machine.run (Execution.turn heaterProvider)
    (.start airjetRef ⟨.setHeater, .onOff true⟩) heaterTurns =
      some (.ended (.ok ⟨.applied, some heaterOnBlock, none⟩)) :=
  rfl

theorem write_confirmed_iff_heater :
    Confirmed heaterProvider ⟨.setHeater, .onOff true⟩ heaterTurns
      (.ended (.ok ⟨.applied, some heaterOnBlock, none⟩)) := by
  have hiff := write_confirmed_iff heater_run (by simp [heaterTurns, readings, Turn.reading?])
  refine hiff.mpr ?_
  rintro ⟨reading, hhead, hbreaks⟩
  obtain rfl := Option.some.inj hhead
  cases hbreaks with
  | shift hdecode hdatapoint hvalue hflagBit hnegative hencode =>
      obtain rfl := Option.some.inj hdatapoint
      obtain rfl := Option.some.inj hflagBit
      exact absurd hnegative (by decide)

-- The first read meets a passcode answer of one byte, and execute raises its ProtocolError.
theorem short_passcode_breaks_execute :
    ¬ ∀ (provider : BestwayProvider) (ref : ProviderDeviceRef) (command : ProviderCommand)
        (turns : List Turn) (execution : Execution Bytes),
      Machine.run (Execution.turn provider) (.start ref command) turns = some execution →
      .error .protocol ∉ (readings turns).tail →
      Confirmed provider command turns execution := by
  intro h
  have hconfirmed := h heaterProvider airjetRef ⟨.setHeater, .onOff true⟩
    [.read (.error .protocol)] (.ended (.error .other)) rfl (by simp [readings, Turn.reading?])
  obtain ⟨-, failureCode, hended⟩ := hconfirmed.declined (.inr ⟨_, rfl, .unread rfl⟩)
  cases hended

end Homeflow.Bestway
