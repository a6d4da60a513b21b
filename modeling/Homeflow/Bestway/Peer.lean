import Homeflow.Bestway.Reassembly
import Homeflow.Bestway.Retry
import Homeflow.Bestway.Tasks

-- One call of connect or read_status, against whatever the peer sends.
namespace Homeflow.Bestway.Peer

inductive Call where
  | connect
  | readStatus
deriving DecidableEq

-- Where the call is suspended, or between two awaits of the loop of _exchange.
inductive Point where
  -- On the close that connect begins with, and on open_connection.
  | hangingUp
  | opening
  | draining (request : Tasks.Request)
  | turning (request : Tasks.Request)
  | reading (request : Tasks.Request)
  -- On the close that connect ends with when an exchange has raised.
  | undoing (error : ClientError)
  | ended (result : Except ClientError (Option Bytes))

-- The client. Its reader and its writer are set and cleared together.
structure Session where
  writer : Bool
  reader : FrameReader UInt8 := {}
  pending : List Frame := []
  passcode : Bytes := []
  point : Point

-- What the awaits bring.
inductive Label where
  -- wait_closed has returned, or the error of the socket it raised is swallowed.
  | closed
  | opened
  | refused
  | drained
  | turn
  -- What a read returns: nothing at the end of the stream.
  | chunk (bytes : Bytes)
  -- A drain or a read raises: a timeout or an error of the socket.
  | fails

namespace Session

-- connect once an exchange of it has raised.
def undo (session : Session) (error : ClientError) : Session :=
  if session.writer then
    { session with writer := false, passcode := [], point := .undoing error }
  else { session with passcode := [], point := .ended (.error error) }

def raised (session : Session) (request : Tasks.Request) (error : ClientError) : Session :=
  match request with
  | .passcode | .login _ => session.undo error
  | .status => { session with point := .ended (.error error) }

-- _send up to its drain.
def send (session : Session) (request : Tasks.Request) (frame : Frame) : Session :=
  if !session.writer then session.raised request .unavailable
  else
    match frame.encode with
    | .error _ => session.raised request .protocol
    | .ok _ => { session with point := .draining request }

-- The frame an exchange has waited for is there.
def answered (session : Session) (request : Tasks.Request) (payload : Bytes) : Session :=
  match request with
  | .passcode =>
      match decodeLengthPrefixed payload with
      | .error _ => session.raised request .protocol
      | .ok passcode =>
          match encodeLengthPrefixed passcode with
          | .error _ => { session with passcode }.raised request .protocol
          | .ok login =>
              { session with passcode }.send (.login login) (Tasks.Request.login login).frame
  | .login _ => { session with point := .ended (.ok none) }
  | .status => { session with point := .ended (.ok (some payload)) }

def turn (session : Session) (request : Tasks.Request) : Session :=
  match session.pending with
  | [] =>
      if session.writer then { session with point := .reading request }
      else session.raised request .unavailable
  | frame :: rest =>
      let popped := { session with pending := rest }
      if frame.command = request.expect.number then popped.answered request frame.payload
      else if frame.command = Command.heartbeatRequest.number then
        popped.send request { command := Command.heartbeatResponse.number }
      else popped

def chunk (session : Session) (request : Tasks.Request) (bytes : Bytes) : Session :=
  if bytes = [] then session.raised request .unavailable
  else
    match session.reader.feed id bytes with
    | (reader, none) => { session with reader }.raised request .misbehaved
    | (reader, some frames) =>
        { session with
          reader, pending := session.pending ++ frames.map Prod.fst, point := .turning request }

def start (session : Session) : Call → Session
  | .connect =>
      if session.writer then { session with writer := false, passcode := [], point := .hangingUp }
      else { session with passcode := [], point := .opening }
  | .readStatus => session.send .status Tasks.Request.status.frame

def step (session : Session) : Label → Option Session
  | .closed =>
      match session.point with
      | .hangingUp => some { session with point := .opening }
      | .undoing error => some { session with point := .ended (.error error) }
      | _ => none
  | .opened =>
      match session.point with
      | .opening =>
          some ({ session with writer := true, reader := {}, pending := [] }.send .passcode
            Tasks.Request.passcode.frame)
      | _ => none
  | .refused =>
      match session.point with
      | .opening => some { session with point := .ended (.error .unavailable) }
      | _ => none
  | .drained =>
      match session.point with
      | .draining request => some { session with point := .turning request }
      | _ => none
  | .turn =>
      match session.point with
      | .turning request => some (session.turn request)
      | _ => none
  | .chunk bytes =>
      match session.point with
      | .reading request =>
          if bytes.length ≤ READ_CHUNK then some (session.chunk request bytes) else none
      | _ => none
  | .fails =>
      match session.point with
      | .draining request | .reading request => some (session.raised request .unavailable)
      | _ => none

end Session

-- The call returns or raises an error of the adapter, and connect that raises leaves nothing
-- open.
structure AsPromised (call : Call) (result : Except ClientError (Option Bytes))
    (session : Session) : Prop where
  raises : ∀ error, result = .error error → error = .unavailable ∨ error = .misbehaved
  shuts : call = .connect → ∀ error, result = .error error → session.writer = false

-- The answer to the passcode request that the loop takes next has room for a length.
def HoldsLength (session : Session) (label : Label) : Prop :=
  label = .turn → session.point = .turning .passcode → ∀ frame rest,
    session.pending = frame :: rest → frame.command = Command.passcodeResponse.number →
    2 ≤ frame.payload.length

-- The exchanges of a call.
def Call.asks : Call → Tasks.Request → Bool
  | .connect, .passcode | .connect, .login _ => true
  | .connect, .status => false
  | .readStatus, .status => true
  | .readStatus, _ => false

-- What the frames that are queued for the passcode exchange have in common.
def Bounded (pending : List Frame) : Prop :=
  ∀ frame ∈ pending, frame.payload.length ≤ MAX_PAYLOAD_BYTES - 3

-- No error of this side's own has come up.
def Clean (session : Session) : Prop :=
  session.point ≠ .undoing .protocol ∧ session.point ≠ .ended (.error .protocol)

-- What a call knows of the client at each of its awaits.
def Sound (call : Call) (session : Session) : Prop :=
  match session.point with
  | .hangingUp | .opening | .undoing _ => call = .connect ∧ session.writer = false
  | .draining request | .turning request | .reading request =>
      call.asks request = true ∧ (request = .passcode → Bounded session.pending)
  | .ended (.error _) => call = .connect → session.writer = false
  | .ended (.ok _) => True

section Session

variable {session : Session} {call : Call} {request : Tasks.Request}

theorem raised_sound (error : ClientError) (hasks : call.asks request = true) :
    Sound call (session.raised request error) := by
  cases request with
  | passcode | login =>
      cases call with
      | readStatus => cases hasks
      | connect =>
          simp only [Session.raised, Session.undo]
          split
          · exact ⟨rfl, rfl⟩
          · next hwriter => exact fun _ => Bool.eq_false_iff.mpr hwriter
  | status =>
      cases call with
      | connect => cases hasks
      | readStatus => exact fun h => by cases h

theorem raised_clean {error : ClientError} :
    Clean (session.raised request error) ↔ error ≠ .protocol := by
  have hundo : Clean (session.undo error) ↔ error ≠ .protocol := by
    unfold Session.undo
    split <;> simp [Clean]
  cases request with
  | passcode | login => exact hundo
  | status => simp [Session.raised, Clean]

theorem send_sound {frame : Frame} (hasks : call.asks request = true)
    (hframe : frame.payload.length ≤ MAX_PAYLOAD_BYTES)
    (hbounded : request = .passcode → Bounded session.pending) :
    Sound call (session.send request frame) ∧ Clean (session.send request frame) := by
  obtain ⟨encoded, hencoded⟩ := Frame.encode_succeeds hframe
  unfold Session.send
  split
  · exact ⟨raised_sound _ hasks, raised_clean.mpr (by simp)⟩
  · rw [hencoded]
    exact ⟨⟨hasks, hbounded⟩, by simp [Clean]⟩

-- The passcode is sent back as it came, unless its length is cut off.
theorem answered_passcode {payload : Bytes} (hpayload : payload.length ≤ MAX_PAYLOAD_BYTES - 3) :
    Sound .connect (session.answered .passcode payload) ∧
      (Clean (session.answered .passcode payload) ↔ 2 ≤ payload.length) := by
  have herror := decodeLengthPrefixed_error_iff ⟨payload, hpayload⟩
  dsimp only at herror
  unfold Session.answered
  cases hdecode : decodeLengthPrefixed payload with
  | error error =>
      have hshort := herror.mp ⟨error, hdecode⟩
      refine ⟨raised_sound _ rfl, ?_⟩
      simp only [raised_clean, ne_eq, not_true_eq_false, false_iff]
      omega
  | ok passcode =>
      have hlong : 2 ≤ payload.length := by
        by_contra hshort
        obtain ⟨error, hfails⟩ := herror.mpr (by omega)
        rw [hdecode] at hfails
        cases hfails
      obtain ⟨login, encoded, hlogin, hencoded⟩ :=
        @login_encodes ⟨payload, hpayload⟩ passcode hdecode
      have hframe := (Frame.encode_ok hencoded).1
      dsimp only
      rw [hlogin]
      have hsent := @send_sound { session with passcode } .connect (.login login)
        (Tasks.Request.login login).frame rfl hframe (by simp)
      exact ⟨hsent.1, iff_of_true hsent.2 hlong⟩

theorem answered_sound {payload : Bytes} (hasks : call.asks request = true)
    (hpayload : request = .passcode → payload.length ≤ MAX_PAYLOAD_BYTES - 3) :
    Sound call (session.answered request payload) ∧
      (Clean (session.answered request payload) ↔ (request = .passcode → 2 ≤ payload.length)) := by
  cases request with
  | passcode =>
      cases call with
      | readStatus => cases hasks
      | connect =>
          have h := @answered_passcode session payload (hpayload rfl)
          exact ⟨h.1, by rw [h.2]; simp⟩
  | login | status => exact ⟨trivial, by simp [Session.answered, Clean]⟩

-- One turn of the loop of _exchange.
theorem turn_sound (hpoint : session.point = .turning request)
    (hasks : call.asks request = true)
    (hbounded : request = .passcode → Bounded session.pending) :
    Sound call (session.turn request) ∧
      (Clean (session.turn request) ↔ (request = .passcode → ∀ frame rest,
        session.pending = frame :: rest → frame.command = Command.passcodeResponse.number →
        2 ≤ frame.payload.length)) := by
  cases hpending : session.pending with
  | nil =>
      have hclean : Clean (session.turn request) ∧ Sound call (session.turn request) := by
        rw [Session.turn, hpending]
        dsimp only
        split
        · exact ⟨by simp [Clean], hasks, fun _ frame hframe => by cases hframe⟩
        · exact ⟨raised_clean.mpr (by simp), raised_sound _ hasks⟩
      exact ⟨hclean.2, iff_of_true hclean.1 fun _ _ _ h => (by cases h)⟩
  | cons frame rest =>
      rw [hpending] at hbounded
      have hrest : request = .passcode → Bounded rest := fun he other hother =>
        hbounded he other (List.mem_cons_of_mem _ hother)
      rw [Session.turn, hpending]
      dsimp only
      split
      · next hexpected =>
        have hanswered := @answered_sound { session with pending := rest } call request
          frame.payload hasks fun he => hbounded he frame List.mem_cons_self
        refine ⟨hanswered.1, hanswered.2.trans ⟨fun h he other later heq _ => ?_, fun h he => ?_⟩⟩
        · obtain ⟨rfl, rfl⟩ := List.cons.inj heq
          exact h he
        · subst he
          exact h rfl frame rest rfl hexpected
      · next hother =>
        -- Any other frame leaves the exchange where it is.
        have hvacuous : request = .passcode → ∀ other later, frame :: rest = other :: later →
            other.command = Command.passcodeResponse.number → 2 ≤ other.payload.length := by
          rintro rfl other later heq hcommand
          obtain ⟨rfl, rfl⟩ := List.cons.inj heq
          exact absurd hcommand hother
        split
        · have hsent := @send_sound { session with pending := rest } call request
            { command := Command.heartbeatResponse.number } hasks (Nat.zero_le _) hrest
          exact ⟨hsent.1, iff_of_true hsent.2 hvacuous⟩
        · refine ⟨?_, iff_of_true (by simp [Clean, hpoint]) hvacuous⟩
          simp only [Sound, hpoint]
          exact ⟨hasks, hrest⟩

theorem feed_bounded {reader after : FrameReader UInt8} {bytes : Bytes}
    {frames : List (Frame × Bytes)} (h : reader.feed id bytes = (after, some frames)) :
    Bounded (frames.map Prod.fst) := by
  intro frame hframe
  obtain ⟨entry, hentry, rfl⟩ := List.mem_map.mp hframe
  unfold FrameReader.feed at h
  dsimp only at h
  split at h
  · cases h
  · split at h
    · cases h
    · obtain ⟨-, hframes⟩ := Prod.mk.inj h
      obtain rfl := Option.some.inj hframes
      exact decodeFrame_payload (frameDecoder_frame (Decoder.decode_of_mem_drain hentry))

theorem chunk_sound {bytes : Bytes} (hasks : call.asks request = true)
    (hbounded : request = .passcode → Bounded session.pending) :
    Sound call (session.chunk request bytes) ∧ Clean (session.chunk request bytes) := by
  unfold Session.chunk
  split
  · exact ⟨raised_sound _ hasks, raised_clean.mpr (by simp)⟩
  · split
    · exact ⟨raised_sound _ hasks, raised_clean.mpr (by simp)⟩
    · next reader frames hfeed =>
      refine ⟨⟨hasks, fun he frame hframe => ?_⟩, by simp [Clean]⟩
      rcases List.mem_append.mp hframe with hold | hnew
      · exact hbounded he frame hold
      · exact feed_bounded hfeed frame hnew

theorem start_sound (client : Session) :
    Sound call (client.start call) ∧ Clean (client.start call) := by
  cases call with
  | connect =>
      simp only [Session.start]
      split
      · exact ⟨⟨rfl, rfl⟩, by simp [Clean]⟩
      · next hwriter => exact ⟨⟨rfl, Bool.eq_false_iff.mpr hwriter⟩, by simp [Clean]⟩
  | readStatus => exact send_sound rfl (by decide) fun h => by cases h

-- Every await leaves the client in order, and only a passcode that is cut off makes an error
-- of this side's own come up.
theorem step_sound {label : Label} {after : Session} (h : Sound call session)
    (hstep : session.step label = some after) :
    Sound call after ∧ (Clean after ↔ Clean session ∧ HoldsLength session label) := by
  have hfree : label ≠ .turn → HoldsLength session label := fun hne heq => absurd heq hne
  unfold Sound at h
  cases label with
  | closed =>
      simp only [Session.step] at hstep
      split at hstep
      · next hpoint =>
        obtain rfl := Option.some.inj hstep
        rw [hpoint] at h
        exact ⟨h, iff_of_true (by simp [Clean]) ⟨by simp [Clean, hpoint], hfree (by simp)⟩⟩
      · next error hpoint =>
        obtain rfl := Option.some.inj hstep
        rw [hpoint] at h
        refine ⟨fun _ => h.2, ?_⟩
        rw [and_iff_left (hfree (by simp))]
        simp [Clean, hpoint]
      · cases hstep
  | opened =>
      simp only [Session.step] at hstep
      split at hstep
      · next hpoint =>
        obtain rfl := Option.some.inj hstep
        rw [hpoint] at h
        obtain ⟨rfl, -⟩ := h
        have hsent := @send_sound { session with writer := true, reader := {}, pending := [] }
          .connect .passcode Tasks.Request.passcode.frame rfl (Nat.zero_le _)
          fun _ frame hframe => by cases hframe
        exact ⟨hsent.1, iff_of_true hsent.2 ⟨by simp [Clean, hpoint], hfree (by simp)⟩⟩
      · cases hstep
  | refused =>
      simp only [Session.step] at hstep
      split at hstep
      · next hpoint =>
        obtain rfl := Option.some.inj hstep
        rw [hpoint] at h
        exact ⟨fun _ => h.2, iff_of_true (by simp [Clean])
          ⟨by simp [Clean, hpoint], hfree (by simp)⟩⟩
      · cases hstep
  | drained =>
      simp only [Session.step] at hstep
      split at hstep
      · next request hpoint =>
        obtain rfl := Option.some.inj hstep
        rw [hpoint] at h
        exact ⟨h, iff_of_true (by simp [Clean]) ⟨by simp [Clean, hpoint], hfree (by simp)⟩⟩
      · cases hstep
  | turn =>
      simp only [Session.step] at hstep
      split at hstep
      · next request hpoint =>
        obtain rfl := Option.some.inj hstep
        rw [hpoint] at h
        have hturn := turn_sound hpoint h.1 h.2
        refine ⟨hturn.1, hturn.2.trans ?_⟩
        rw [and_iff_right (by simp [Clean, hpoint]), HoldsLength, hpoint]
        simp
      · cases hstep
  | chunk bytes =>
      simp only [Session.step] at hstep
      split at hstep
      · next request hpoint =>
        split at hstep
        · obtain rfl := Option.some.inj hstep
          rw [hpoint] at h
          have hchunk := @chunk_sound session call request bytes h.1 h.2
          exact ⟨hchunk.1, iff_of_true hchunk.2 ⟨by simp [Clean, hpoint], hfree (by simp)⟩⟩
        · cases hstep
      · cases hstep
  | fails =>
      simp only [Session.step] at hstep
      split at hstep
      · next request hpoint =>
        obtain rfl := Option.some.inj hstep
        rw [hpoint] at h
        exact ⟨raised_sound _ h.1, iff_of_true (raised_clean.mpr (by simp))
          ⟨by simp [Clean, hpoint], hfree (by simp)⟩⟩
      · next request hpoint =>
        obtain rfl := Option.some.inj hstep
        rw [hpoint] at h
        exact ⟨raised_sound _ h.1, iff_of_true (raised_clean.mpr (by simp))
          ⟨by simp [Clean, hpoint], hfree (by simp)⟩⟩
      · cases hstep

end Session

-- An await that brings nothing ends in a timeout.
def silent : Label → Bool
  | .closed | .refused | .turn | .fails => true
  | _ => false

-- The call is over when the peer says nothing any more.
def Ends (session : Session) : Prop :=
  ∃ labels final result, (∀ label ∈ labels, silent label = true) ∧
    Machine.run Session.step session labels = some final ∧ final.point = .ended result

section Ends

variable {session next : Session} {request : Tasks.Request}

theorem Ends.of_step (label : Label) (hlabel : silent label = true)
    (hstep : session.step label = some next) (h : Ends next) : Ends session := by
  obtain ⟨labels, final, result, hlabels, hrun, hended⟩ := h
  refine ⟨label :: labels, final, result, ?_, ?_, hended⟩
  · intro other hother
    rcases List.mem_cons.mp hother with rfl | hother
    · exact hlabel
    · exact hlabels other hother
  · rw [Machine.run, hstep, Option.bind_some, hrun]

theorem ends_ended {result : Except ClientError (Option Bytes)}
    (hpoint : session.point = .ended result) : Ends session :=
  ⟨[], session, result, by simp, rfl, hpoint⟩

theorem ends_undo (session : Session) (error : ClientError) : Ends (session.undo error) := by
  unfold Session.undo
  split
  · exact .of_step .closed rfl rfl (ends_ended rfl)
  · exact ends_ended rfl

theorem ends_raised (session : Session) (request : Tasks.Request) (error : ClientError) :
    Ends (session.raised request error) := by
  cases request with
  | passcode | login => exact ends_undo session error
  | status => exact ends_ended rfl

theorem ends_draining (hpoint : session.point = .draining request) : Ends session :=
  .of_step .fails rfl (by rw [Session.step, hpoint]) (ends_raised session request _)

theorem ends_reading (hpoint : session.point = .reading request) : Ends session :=
  .of_step .fails rfl (by rw [Session.step, hpoint]) (ends_raised session request _)

theorem ends_opening (hpoint : session.point = .opening) : Ends session :=
  .of_step .refused rfl (by rw [Session.step, hpoint]) (ends_ended rfl)

theorem ends_send (session : Session) (request : Tasks.Request) (frame : Frame) :
    Ends (session.send request frame) := by
  unfold Session.send
  split
  · exact ends_raised _ _ _
  · split
    · exact ends_raised _ _ _
    · exact ends_draining rfl

theorem ends_answered (session : Session) (request : Tasks.Request) (payload : Bytes) :
    Ends (session.answered request payload) := by
  unfold Session.answered
  split
  · split
    · exact ends_raised _ _ _
    · split
      · exact ends_raised _ _ _
      · exact ends_send _ _ _
  · exact ends_ended rfl
  · exact ends_ended rfl

-- The loop goes over the frames that are queued first.
theorem ends_turning {pending : List Frame} (hpending : session.pending = pending)
    (hpoint : session.point = .turning request) : Ends session := by
  induction pending generalizing session with
  | nil =>
      refine .of_step .turn rfl (by rw [Session.step, hpoint]) ?_
      rw [Session.turn, hpending]
      dsimp only
      split
      · exact ends_reading rfl
      · exact ends_raised _ _ _
  | cons frame rest ih =>
      refine .of_step .turn rfl (by rw [Session.step, hpoint]) ?_
      rw [Session.turn, hpending]
      dsimp only
      split
      · exact ends_answered _ _ _
      · split
        · exact ends_send _ _ _
        · exact ih rfl hpoint

theorem ends (session : Session) : Ends session := by
  cases hpoint : session.point with
  | hangingUp =>
      exact .of_step .closed rfl (by rw [Session.step, hpoint]) (ends_opening rfl)
  | opening => exact ends_opening hpoint
  | draining request => exact ends_draining hpoint
  | turning request => exact ends_turning rfl hpoint
  | reading request => exact ends_reading hpoint
  | undoing error =>
      exact .of_step .closed rfl (by rw [Session.step, hpoint]) (ends_ended rfl)
  | ended result => exact ends_ended hpoint

end Ends

-- The bytes of the peer become errors of the adapter, exactly as long as each answer to the
-- passcode request has room for the length it begins with.
theorem adapter_errors_iff {client final : Session} {call : Call} {labels : List Label}
    (hrun : Machine.run Session.step (client.start call) labels = some final) :
    Ends final ∧ ∀ result, final.point = .ended result → (AsPromised call result final ↔
      Machine.Guarded Session.step HoldsLength (client.start call) labels) := by
  refine ⟨ends final, fun result hended => ?_⟩
  have hstart := @start_sound call client
  have hsound : Sound call final := Machine.invariant hstart.1
    (fun _ _ _ hbefore hstep => (step_sound hbefore hstep).1) hrun
  have hclean : Clean final ↔
      Machine.Guarded Session.step HoldsLength (client.start call) labels :=
    Machine.good_iff_guarded hstart.1 hstart.2 (fun _ _ _ hbefore => step_sound hbefore) hrun
  rw [← hclean]
  constructor
  · intro h
    refine ⟨by simp [hended], ?_⟩
    rw [hended]
    intro heq
    cases heq
    rcases h.raises .protocol rfl with hsame | hsame <;> cases hsame
  · intro h
    refine ⟨?_, ?_⟩
    · rintro error rfl
      cases error with
      | unavailable => exact .inl rfl
      | misbehaved => exact .inr rfl
      | protocol => exact absurd hended h.2
    · rintro hcall error rfl
      unfold Sound at hsound
      rw [hended] at hsound
      exact hsound hcall

def idleClient : Session := { writer := false, point := .ended (.ok none) }

def passcodeBytes : Bytes := [0, 0, 0, 3, 7, 0, 0, 7, 0, 2, 0x13, 0x37]

def loginBytes : Bytes := [0, 0, 0, 3, 3, 0, 0, 9]

-- A controller that answers both requests.
def answeringPeer : List Label :=
  [.opened, .drained, .turn, .chunk passcodeBytes, .turn, .drained, .turn, .chunk loginBytes, .turn]

theorem adapter_errors_iff_connected : ∃ final : Session,
    Machine.run Session.step (idleClient.start .connect) answeringPeer = some final ∧
      (AsPromised .connect (.ok none) final ↔
        Machine.Guarded Session.step HoldsLength (idleClient.start .connect) answeringPeer) := by
  have hruns : (Machine.run Session.step (idleClient.start .connect) answeringPeer).map
      Session.point = some (.ended (.ok none)) := by rfl
  obtain ⟨final, hrun, hended⟩ := Option.map_eq_some_iff.mp hruns
  exact ⟨final, hrun, (adapter_errors_iff hrun).2 _ hended⟩

-- A passcode of one byte, without room for its length.
def shortPasscodeBytes : Bytes := [0, 0, 0, 3, 4, 0, 0, 7, 0x13]

def shortPeer : List Label :=
  [.opened, .drained, .turn, .chunk shortPasscodeBytes, .turn, .closed]

theorem short_passcode_raises :
    ¬∀ (client final : Session) (call : Call) (labels : List Label)
      (result : Except ClientError (Option Bytes)),
      Machine.run Session.step (client.start call) labels = some final →
      final.point = .ended result → AsPromised call result final := by
  intro h
  have hruns : (Machine.run Session.step (idleClient.start .connect) shortPeer).map
      Session.point = some (.ended (.error .protocol)) := by rfl
  obtain ⟨final, hrun, hended⟩ := Option.map_eq_some_iff.mp hruns
  rcases (h _ _ _ _ _ hrun hended).raises _ rfl with hsame | hsame <;> cases hsame

end Homeflow.Bestway.Peer
