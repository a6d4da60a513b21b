import Homeflow.Bestway.Codec
import Homeflow.Bestway.Execution

namespace Homeflow.Bestway

-- What a frame brings: of the longest one, the flag and the command are left out.
abbrev Payload := { payload : Bytes // payload.length ≤ MAX_PAYLOAD_BYTES - 3 }

theorem decodeFrame_payload {data : Bytes} {frame : Frame} {consumed : Nat}
    (h : decodeFrame data = .ok (frame, consumed)) :
    frame.payload.length ≤ MAX_PAYLOAD_BYTES - 3 := by
  obtain ⟨length, body, rest, -, -, -, -, hmax, -, rfl⟩ := decodeFrame_eq_ok h
  rw [Frame.ofBody, List.length_drop]
  omega

-- How an exchange of the client ends: a timeout, an error of the socket and the end of the
-- stream are one, a malformed frame is another.
inductive Exchanged where
  | answered (payload : Payload)
  | unavailable
  | misbehaved

def Exchanged.result : Exchanged → Except ClientError Bytes
  | .answered payload => .ok payload.val
  | .unavailable => .error .unavailable
  | .misbehaved => .error .misbehaved

-- What an attempt of _read_with_retry meets.
structure Attempt where
  -- Whether the client is connected.
  connected : Bool
  -- Whether open_connection succeeds, if it is called.
  opened : Bool
  passcode : Exchanged
  login : Exchanged
  status : Exchanged

namespace Attempt

variable (attempt : Attempt)

def connect : Except ClientError Unit :=
  if !attempt.opened then .error .unavailable
  else
    match attempt.passcode.result with
    | .error error => .error error
    | .ok answer =>
        match decodeLengthPrefixed answer with
        | .error _ => .error .protocol
        | .ok passcode =>
            match encodeLengthPrefixed passcode with
            | .error _ => .error .protocol
            | .ok payload =>
                match Frame.encode { command := Command.loginRequest.number, payload } with
                | .error _ => .error .protocol
                | .ok _ => attempt.login.result.map fun _ => ()

def run : Except ClientError Bytes :=
  if attempt.connected then attempt.status.result
  else
    match attempt.connect with
    | .error error => .error error
    | .ok () => attempt.status.result

-- It has to connect, and the passcode it is handed out is shorter than its own length.
def Truncated : Prop :=
  attempt.connected = false ∧ attempt.opened = true ∧
    ∃ answer, attempt.passcode = .answered answer ∧ answer.val.length < 2

end Attempt

-- A failed read is expected, so it is tried again, unless the peer does not speak the protocol.
def readWithRetry (first second : Attempt) : Except ClientError Bytes :=
  match first.run with
  | .error .unavailable => second.run
  | result => result

section Truncated

variable {attempt first second : Attempt}

theorem decodeLengthPrefixed_error_iff (answer : Payload) :
    (∃ error, decodeLengthPrefixed answer.val = .error error) ↔ answer.val.length < 2 := by
  have hlength := answer.property
  unfold decodeLengthPrefixed
  by_cases hshort : answer.val.length < 2
  · simp [hshort]
  · rw [if_neg hshort]
    dsimp only
    simp only [hshort, iff_false, not_exists]
    intro error
    split
    · rw [if_neg (by omega)]
      nofun
    · nofun

-- The passcode that was read can be sent back.
theorem login_encodes {answer : Payload} {passcode : Bytes}
    (h : decodeLengthPrefixed answer.val = .ok passcode) :
    ∃ payload encoded, encodeLengthPrefixed passcode = .ok payload ∧
      Frame.encode { command := Command.loginRequest.number, payload } = .ok encoded := by
  have hlength := answer.property
  have hpasscode : passcode.length ≤ MAX_PAYLOAD_BYTES - 3 := by
    unfold decodeLengthPrefixed at h
    split at h
    · cases h
    · dsimp only at h
      split at h
      · split at h
        · cases h
        · cases h
          exact hlength
      · cases h
        rw [List.length_drop]
        omega
  have hmax : MAX_PAYLOAD_BYTES = 2048 := rfl
  refine ⟨toBytesBig 2 passcode.length ++ passcode, ?_⟩
  have hframe : (toBytesBig 2 passcode.length ++ passcode).length ≤ MAX_PAYLOAD_BYTES := by
    simp only [toBytesBig, List.length_append, List.length_cons, List.length_nil]
    omega
  let login : Frame :=
    { command := Command.loginRequest.number, payload := toBytesBig 2 passcode.length ++ passcode }
  obtain ⟨encoded, hencoded⟩ : ∃ encoded, login.encode = .ok encoded :=
    Frame.encode_succeeds hframe
  refine ⟨encoded, ?_, hencoded⟩
  unfold encodeLengthPrefixed
  rw [if_neg (by omega)]

theorem Exchanged.result_ne_protocol (exchanged : Exchanged) :
    exchanged.result ≠ .error .protocol := by
  cases exchanged <;> nofun

-- Only a truncated passcode makes an attempt raise the error of this side's own.
theorem connect_protocol_iff (hopened : attempt.opened = true) :
    attempt.connect = .error .protocol ↔
      ∃ answer, attempt.passcode = .answered answer ∧ answer.val.length < 2 := by
  unfold Attempt.connect
  rw [hopened]
  cases hpasscode : attempt.passcode with
  | unavailable | misbehaved => exact ⟨nofun, fun ⟨_, heq, _⟩ => by cases heq⟩
  | answered answer =>
      simp only [Bool.not_true, Bool.false_eq_true, if_false, Exchanged.result,
        Exchanged.answered.injEq, exists_eq_left']
      rw [← decodeLengthPrefixed_error_iff]
      cases hdecode : decodeLengthPrefixed answer.val with
      | error error => simp
      | ok passcode =>
          obtain ⟨payload, encoded, hpayload, hencoded⟩ := login_encodes hdecode
          simp only [hpayload, hencoded, reduceCtorEq, exists_false, iff_false]
          cases attempt.login <;> simp [Except.map]

theorem run_protocol_iff : attempt.run = .error .protocol ↔ attempt.Truncated := by
  unfold Attempt.run Attempt.Truncated
  cases hconnected : attempt.connected with
  | true =>
      rw [if_pos rfl]
      exact ⟨fun h => absurd h attempt.status.result_ne_protocol, nofun⟩
  | false =>
      rw [if_neg (by simp)]
      simp only [true_and]
      cases hopened : attempt.opened with
      | false => simp [Attempt.connect, hopened]
      | true =>
          rw [← connect_protocol_iff hopened]
          simp only [true_and]
          cases hconnect : attempt.connect with
          | error error => simp
          | ok => simpa using attempt.status.result_ne_protocol

theorem readWithRetry_protocol_iff :
    readWithRetry first second = .error .protocol ↔
      first.Truncated ∨ first.run = .error .unavailable ∧ second.Truncated := by
  rw [← run_protocol_iff, ← run_protocol_iff, readWithRetry]
  split
  · rename_i hfirst
    simp [hfirst]
  · rename_i hfirst
    exact ⟨.inl, fun h => h.resolve_right fun hsecond => absurd hsecond.1 hfirst⟩

end Truncated

namespace Execution

variable {α : Type} {provider : BestwayProvider} {payload : α → Bytes} {datapoint : Datapoint}
  {value : Value}

-- Whether the control request has been written.
def controlled : Execution α → Bool
  | .sending _ _ | .confirming _ _ _ _ | .sleeping _ _ _ _ => true
  | .reading _ _ | .writing _ _ | .ended _ => false

-- Whether it has raised, and whether it has ended as no call of it ends: with a timeout of
-- its own, or saying that the device refused.
def raised : Execution α → Bool
  | .ended (.error _) => true
  | _ => false

def strange : Execution α → Bool
  | .ended (.error exception) => exception = .timeoutError
  | .ended (.ok executed) => executed.outcome = .rejected
  | _ => false

theorem nextAttempt_raised (attempt : Nat) (latest : Option α) :
    (nextAttempt provider payload datapoint value attempt latest).raised = false := by
  unfold nextAttempt conclude
  split
  · split <;> rfl
  · split
    · rfl
    · split <;> rfl

theorem sendEnds_raised (result : Except ClientError Unit) :
    ((sending datapoint value).sendEnds provider payload result).raised = false ↔
      result = .ok () := by
  cases result with
  | error error => exact ⟨nofun, nofun⟩
  | ok => simp [sendEnds, nextAttempt_raised]

-- A confirming read never raises what the client could not help.
theorem readEnds_raised (attempt : Nat) (latest : Option α) (result : Except ClientError α) :
    ((confirming datapoint value attempt latest).readEnds provider payload result).raised =
      false ↔ result ≠ .error .protocol := by
  cases result with
  | error error =>
      cases error with
      | protocol => simp [readEnds, raised]
      | unavailable | misbehaved => simp [readEnds, nextAttempt_raised]
  | ok observed =>
      simp only [readEnds, ne_eq, reduceCtorEq, not_false_eq_true, iff_true]
      split
      · exact nextAttempt_raised _ _
      · split
        · rename_i hshows
          simp [conclude, hshows, raised]
        · exact nextAttempt_raised _ _

theorem nextAttempt_strange (attempt : Nat) (latest : Option α) :
    (nextAttempt provider payload datapoint value attempt latest).strange = false := by
  unfold nextAttempt conclude
  split
  · split <;> rfl
  · split
    · rfl
    · split <;> rfl

-- After the control request a call goes on behind it, or it ends.
theorem nextAttempt_controlled (attempt : Nat) (latest : Option α) :
    (nextAttempt provider payload datapoint value attempt latest).controlled = true ∨
      ∃ result, nextAttempt provider payload datapoint value attempt latest = .ended result := by
  unfold nextAttempt conclude
  split
  · split <;> exact .inl rfl
  · split
    · exact .inr ⟨_, rfl⟩
    · split <;> exact .inr ⟨_, rfl⟩

theorem sendEnds_controlled (result : Except ClientError Unit) :
    ((sending datapoint value).sendEnds provider payload result).controlled = true ∨
      ∃ ended, (sending datapoint value).sendEnds provider payload result = .ended ended := by
  cases result with
  | error error => exact .inr ⟨_, rfl⟩
  | ok => exact nextAttempt_controlled _ _

theorem readEnds_controlled (attempt : Nat) (latest : Option α) (result : Except ClientError α) :
    ((confirming datapoint value attempt latest).readEnds provider payload result).controlled =
        true ∨
      ∃ ended, (confirming datapoint value attempt latest).readEnds provider payload result =
        .ended ended := by
  cases result with
  | error error =>
      cases error with
      | protocol => exact .inr ⟨_, rfl⟩
      | unavailable | misbehaved => exact nextAttempt_controlled _ _
  | ok observed =>
      simp only [readEnds]
      split
      · exact nextAttempt_controlled _ _
      · split
        · unfold conclude
          dsimp only
          split <;> exact .inr ⟨_, rfl⟩
        · exact nextAttempt_controlled _ _

theorem exception_strange (error : ClientError) :
    (ended (.error error.exception) : Execution α).strange = false := by
  cases error <;> rfl

theorem sendEnds_strange (result : Except ClientError Unit) :
    ((sending datapoint value).sendEnds provider payload result).strange = false := by
  cases result with
  | error error => exact exception_strange error
  | ok => exact nextAttempt_strange _ _

theorem readEnds_strange (attempt : Nat) (latest : Option α) (result : Except ClientError α) :
    ((confirming datapoint value attempt latest).readEnds provider payload result).strange =
      false := by
  cases result with
  | error error =>
      cases error with
      | protocol => rfl
      | unavailable | misbehaved => exact nextAttempt_strange _ _
  | ok observed =>
      simp only [readEnds]
      split
      · exact nextAttempt_strange _ _
      · split
        · rename_i hshows
          simp [conclude, hshows, strange]
        · exact nextAttempt_strange _ _

end Execution

end Homeflow.Bestway
