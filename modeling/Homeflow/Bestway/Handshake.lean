import Homeflow.Bestway.Tasks

namespace Homeflow.Bestway.Tasks

-- The frames that must not come before the login.
def Frame.NeedsLogin (frame : Frame) : Prop :=
  frame.command = Command.statusRequest.number ∨ frame.command = Command.controlRequest.number

-- The response to the login was received on this connection.
def LoggedIn (trace : List Effect) (stream : StreamId) : Prop :=
  ∃ frame, .received stream frame ∈ trace ∧ frame.command = Command.loginResponse.number

def LoginBeforeUse (trace : List Effect) : Prop :=
  ∀ before stream frame after, trace = before ++ .wrote stream frame :: after →
    Frame.NeedsLogin frame → LoggedIn before stream

def Point.handshaking : Point → Bool
  | .exchanging (.passcode) _ | .exchanging (.login _) _ => true
  | _ => false

-- Whether a task is inside connect.
def Point.connecting : Point → Bool
  | .hangingUp | .opening | .undoing _ => true
  | point => point.handshaking

-- The task that runs, other than to be cancelled.
def Label.task? : Label → Option TaskId
  | .read id | .control id _ _ | .aclose id | .resume id | .connected id | .refused id | .enter id
  | .drained id | .turn id | .chunk id _ | .fails id | .misbehaves id => some id
  | .breaks _ | .cancel _ => none

-- While a task is inside connect no other one runs, and it is not cancelled between the
-- opening of its socket and the login.
structure Undisturbed (link : Link) (label : Label) : Prop where
  alone : ∀ id, label.task? = some id → ∀ other task, link.tasks.get? other = some task →
    task.point.connecting = true → other = id
  uncancelled : ∀ id task, label = .cancel id → link.tasks.get? id = some task →
    task.point.handshaking = false

section Trace

variable {trace : List Effect} {effect : Effect} {stream : StreamId}

theorem LoggedIn.append (h : LoggedIn trace stream) (more : List Effect) :
    LoggedIn (trace ++ more) stream := by
  obtain ⟨frame, hmem, hcommand⟩ := h
  exact ⟨frame, List.mem_append_left _ hmem, hcommand⟩

theorem LoginBeforeUse.concat (h : LoginBeforeUse trace)
    (heffect : ∀ stream frame, effect = .wrote stream frame → Frame.NeedsLogin frame →
      LoggedIn trace stream) : LoginBeforeUse (trace ++ [effect]) := by
  intro before stream frame after hsplit hneeds
  rcases List.eq_nil_or_concat after with rfl | ⟨rest, last, rfl⟩
  · obtain ⟨rfl, hlast⟩ := List.append_inj' hsplit rfl
    exact heffect stream frame (List.cons.inj hlast).1 hneeds
  · have hsplit' : trace ++ [effect] = (before ++ .wrote stream frame :: rest) ++ [last] := by
      simpa using hsplit
    exact h before stream frame rest (List.append_inj' hsplit' rfl).1 hneeds

end Trace

-- What a task in connect knows of the connection.
def Handshake (link : Link) : Point → Prop
  | .exchanging _ phase => ∃ stream, link.stream = some stream ∧
      (∀ entry ∈ link.pending, entry.1 = stream) ∧ ∀ other, phase = .reading other → other = stream
  | _ => link.stream = none

-- One task at most is inside connect, and a connection nobody is logging in on is logged in.
structure Sound (link : Link) : Prop where
  used : LoginBeforeUse link.trace
  one : ∀ first second task other, link.tasks.get? first = some task →
    link.tasks.get? second = some other → task.point.connecting = true →
    other.point.connecting = true → first = second
  handshake : ∀ id task, link.tasks.get? id = some task → task.point.connecting = true →
    Handshake link task.point
  logged : (∀ id task, link.tasks.get? id = some task → task.point.handshaking = false) →
    ∀ stream, link.stream = some stream → LoggedIn link.trace stream

-- While a task runs, no other one is inside connect.
structure Running (link : Link) (id : TaskId) : Prop where
  used : LoginBeforeUse link.trace
  others : ∀ other task, other ≠ id → link.tasks.get? other = some task →
    task.point.connecting = false

def Logged (link : Link) : Prop := ∀ stream, link.stream = some stream → LoggedIn link.trace stream

section Running

variable {link : Link} {id : TaskId}

theorem connecting_of_handshaking {point : Point} (h : point.handshaking = true) :
    point.connecting = true := by
  unfold Point.connecting
  split <;> trivial

theorem get?_put_eq_some {task held : Task} {other : TaskId} :
    (link.put id task).tasks.get? other = some held ↔
      (other = id ∧ held = task) ∨ (other ≠ id ∧ link.tasks.get? other = some held) :=
  OrderedDict.get?_set_eq_some

theorem get?_finish_eq_some {held : Task} {other : TaskId} :
    (link.finish id).tasks.get? other = some held ↔
      other ≠ id ∧ link.tasks.get? other = some held :=
  OrderedDict.get?_erase_eq_some

theorem Running.finish (h : Running link id) (hlogged : Logged link) : Sound (link.finish id) := by
  have hnone : ∀ other task, (link.finish id).tasks.get? other = some task →
      task.point.connecting = false := fun other task htask =>
    h.others other task (get?_finish_eq_some.mp htask).1 (get?_finish_eq_some.mp htask).2
  refine ⟨h.used, fun first second task other htask hother hconnecting => ?_,
    fun other task htask hconnecting => ?_, fun _ => hlogged⟩
  · cases (hnone first task htask).symm.trans hconnecting
  · cases (hnone other task htask).symm.trans hconnecting

-- The task that runs is suspended somewhere.
theorem Running.sound (h : Running link id) {task : Task} (htask : link.tasks.get? id = some task)
    (hhandshake : task.point.connecting = true → Handshake link task.point)
    (hlogged : task.point.handshaking = false → Logged link) : Sound link := by
  have hcases : ∀ other held, link.tasks.get? other = some held →
      held.point.connecting = true → other = id := by
    intro other held hheld hconnecting
    by_contra hne
    cases (h.others other held hne hheld).symm.trans hconnecting
  refine ⟨h.used, fun first second one other hone hother hfirst hsecond => ?_,
    fun other held hheld hconnecting => ?_, fun hquiet => hlogged (hquiet id task htask)⟩
  · exact (hcases first one hone hfirst).trans (hcases second other hother hsecond).symm
  · obtain rfl := hcases other held hheld hconnecting
    obtain rfl := Option.some.inj (htask.symm.trans hheld)
    exact hhandshake hconnecting

theorem Running.put (h : Running link id) (task : Task)
    (hhandshake : task.point.connecting = true → Handshake link task.point)
    (hlogged : task.point.handshaking = false → Logged link) : Sound (link.put id task) := by
  have hput : Running (link.put id task) id := by
    refine ⟨h.used, fun other held hne hheld => ?_⟩
    rcases get?_put_eq_some.mp hheld with ⟨he, -⟩ | ⟨-, hheld⟩
    · exact absurd he hne
    · exact h.others other held hne hheld
  have hpoint : Handshake (link.put id task) task.point ↔ Handshake link task.point := by
    cases task.point <;> exact Iff.rfl
  exact hput.sound (OrderedDict.get?_set_self _ _ _) (fun h => hpoint.mpr (hhandshake h)) hlogged

theorem logged_of_none (h : link.stream = none) : Logged link := by
  intro stream hstream
  cases h.symm.trans hstream

theorem Running.caught (h : Running link id) (hlogged : Logged link) (attempt : Nat)
    (error : ClientError) : Sound (link.caught id attempt error) := by
  unfold Link.caught
  split
  · exact h.finish hlogged
  · split
    · rename_i stream _
      have hclosed : Running (link.close stream) id := ⟨h.used, h.others⟩
      exact hclosed.put _ nofun fun _ => logged_of_none rfl
    · rename_i hnone
      split
      · exact h.finish hlogged
      · exact h.put _ (fun _ => hnone) fun _ => hlogged

theorem Running.undo (h : Running link id) (attempt : Nat) (error : ClientError) :
    Sound (link.undo id attempt error) := by
  unfold Link.undo
  split
  · rename_i stream _
    have hclosed : Running (link.close stream) id := ⟨h.used, h.others⟩
    exact hclosed.put _ (fun _ => rfl) fun _ => logged_of_none rfl
  · rename_i hnone
    exact h.caught (logged_of_none hnone) attempt error

-- What an exchange needs of the connection.
def Ready (link : Link) : Request → Prop
  | .status => Logged link
  | _ => ∃ stream, link.stream = some stream ∧ ∀ entry ∈ link.pending, entry.1 = stream

theorem Running.raised (h : Running link id) (attempt : Nat) (request : Request)
    (error : ClientError) (hlogged : request = .status → Logged link) :
    Sound (link.raised id attempt request error) := by
  cases request with
  | status => exact h.caught (hlogged rfl) attempt error
  | passcode | login => exact h.undo attempt error

theorem Running.suspend (h : Running link id) (attempt : Nat) {request : Request} {phase : Phase}
    (hready : Ready link request) (hphase : ∀ stream, phase ≠ .reading stream) :
    Sound (link.put id ⟨attempt, .exchanging request phase⟩) := by
  cases request with
  | status => exact h.put _ nofun fun _ => hready
  | passcode | login =>
      obtain ⟨stream, hstream, hpending⟩ := hready
      exact h.put _ (fun _ => ⟨stream, hstream, hpending, fun other hother =>
        absurd hother (hphase other)⟩) nofun

theorem Running.send (h : Running link id) (attempt : Nat) {request : Request}
    (hready : Ready link request) : Sound (link.send id attempt request) := by
  have hlogged : request = .status → Logged link := by
    rintro rfl
    exact hready
  have hreleased : Running link.release id := ⟨h.used, h.others⟩
  unfold Link.send
  split
  · exact hreleased.raised attempt request .unavailable hlogged
  · rename_i stream hstream
    split
    · exact hreleased.raised attempt request .protocol hlogged
    · have hneeds : Frame.NeedsLogin request.frame → LoggedIn link.trace stream := by
        intro hneeds
        cases request with
        | status => exact hready stream hstream
        | passcode | login =>
            rcases hneeds with hneeds | hneeds <;> cases hneeds
      have hwrote : Running (link.emit (.wrote stream request.frame)) id := by
        refine ⟨h.used.concat fun other frame he hframe => ?_, h.others⟩
        cases he
        exact hneeds hframe
      refine hwrote.suspend attempt ?_ nofun
      cases request with
      | status => exact fun other hother => (hready other hother).append _
      | passcode | login => exact hready

theorem Running.exchange (h : Running link id) (attempt : Nat) {request : Request}
    (hready : Ready link request) : Sound (link.exchange id attempt request) := by
  have hasked : Running { link with lock := link.lock.acquire id } id := ⟨h.used, h.others⟩
  have hready' : Ready { link with lock := link.lock.acquire id } request := by
    cases request <;> exact hready
  unfold Link.exchange
  split
  · exact hasked.send attempt hready'
  · exact hasked.suspend attempt hready' nofun

theorem Running.connect (h : Running link id) (attempt : Nat) :
    Sound (link.connect id attempt) := by
  unfold Link.connect
  split
  · rename_i stream _
    have hclosed : Running (link.close stream) id := ⟨h.used, h.others⟩
    exact hclosed.put _ (fun _ => rfl) fun _ => logged_of_none rfl
  · rename_i hnone
    exact h.put _ (fun _ => hnone) fun _ => logged_of_none hnone

theorem Running.attempt (h : Running link id) (hlogged : Logged link) (attempt : Nat) :
    Sound (link.attempt id attempt) := by
  unfold Link.attempt
  split
  · exact h.exchange attempt hlogged
  · exact h.connect attempt

theorem Running.connected (h : Running link id) (attempt : Nat) :
    Sound (link.connected id attempt) := by
  let opened : Link := { link.emit (.opened link.opened) with
    stream := some link.opened, opened := link.opened + 1, pending := [] }
  have hopened : Running opened id := ⟨h.used.concat nofun, h.others⟩
  have hready : Ready opened .passcode := ⟨link.opened, rfl, by simp [opened]⟩
  exact hopened.exchange attempt hready

-- The answer goes on to the next exchange: after the login the connection is logged in.
theorem Running.answered (h : Running link id) (attempt : Nat) {request : Request} {frame : Frame}
    (hlogged : (∃ payload, request = .login payload) ∨ request = .status → Logged link)
    (hready : request = .passcode → ∃ stream, link.stream = some stream ∧
      ∀ entry ∈ link.pending, entry.1 = stream) :
    Sound (link.answered id attempt request frame) := by
  cases request with
  | passcode =>
      simp only [Link.answered]
      split
      · exact h.undo attempt .protocol
      · split
        · exact h.undo attempt .protocol
        · rename_i payload _
          have hlogin : Ready link (.login payload) := hready rfl
          exact h.exchange attempt hlogin
  | login payload =>
      have hstatus : Ready link .status := hlogged (.inl ⟨payload, rfl⟩)
      exact h.exchange attempt hstatus
  | status => exact h.finish (hlogged (.inr rfl))

-- What was received is no longer pending.
theorem Ready.popped {request : Request} (h : Ready link request) {origin : StreamId}
    {frame : Bestway.Frame} {rest : List (StreamId × Bestway.Frame)}
    (hpending : link.pending = (origin, frame) :: rest) :
    Ready { link.emit (.received origin frame) with pending := rest } request := by
  cases request with
  | status => exact fun other hother => (h other hother).append _
  | passcode | login =>
      obtain ⟨stream, hstream, hentries⟩ := h
      exact ⟨stream, hstream, fun entry hentry =>
        hentries entry (hpending ▸ List.mem_cons_of_mem _ hentry)⟩

-- A heartbeat may be answered before the login.
theorem Running.heartbeat (h : Running link id) (stream : StreamId) :
    Running (link.emit (.wrote stream { command := Command.heartbeatResponse.number })) id := by
  refine ⟨h.used.concat fun other written he hneeds => ?_, h.others⟩
  cases he
  rcases hneeds with hneeds | hneeds <;> cases hneeds

theorem Running.turn (h : Running link id) (attempt : Nat) {request : Request}
    (htask : link.tasks.get? id = some ⟨attempt, .exchanging request .turning⟩)
    (hready : Ready link request) : Sound (link.turn id attempt request) := by
  have hlogged : request = .status → Logged link := by
    rintro rfl
    exact hready
  unfold Link.turn
  split
  · rename_i origin frame rest hpending
    let popped : Link := { link.emit (.received origin frame) with pending := rest }
    have hpopped : Running popped id := ⟨h.used.concat nofun, h.others⟩
    have hkept : Logged link → Logged popped := fun hlogged other hother =>
      (hlogged other hother).append _
    have hready' : Ready popped request := hready.popped hpending
    have hreleased : Running popped.release id := ⟨hpopped.used, hpopped.others⟩
    dsimp only
    split
    · rename_i hexpected
      refine hreleased.answered attempt ?_ ?_
      · rintro (⟨payload, rfl⟩ | rfl)
        · -- The response came from the connection it logs in on.
          obtain ⟨stream, hstream, hentries⟩ := hready
          intro other hother
          obtain rfl := Option.some.inj (hstream.symm.trans hother)
          have horigin : origin = stream := hentries (origin, frame) (by simp [hpending])
          exact ⟨frame, List.mem_append_right _ (by simp [horigin]), hexpected⟩
        · exact hkept hready
      · rintro rfl
        exact hready'
    · split
      · split
        · exact hreleased.raised attempt request .unavailable fun he => hkept (hlogged he)
        · rename_i stream hstream
          refine (hpopped.heartbeat stream).suspend attempt ?_ nofun
          cases request with
          | status => exact fun other hother => (hready' other hother).append _
          | passcode | login => exact hready'
      · cases request with
        | status => exact hpopped.sound htask nofun fun _ => hready'
        | passcode | login =>
            obtain ⟨stream, hstream, hentries⟩ := hready'
            exact hpopped.sound htask (fun _ => ⟨stream, hstream, hentries, nofun⟩) nofun
  · rename_i hpending
    have hreleased : Running link.release id := ⟨h.used, h.others⟩
    split
    · exact hreleased.raised attempt request .unavailable hlogged
    · rename_i stream hstream
      cases request with
      | status => exact h.put _ nofun fun _ => hready
      | passcode | login =>
          refine h.put _ (fun _ => ⟨stream, hstream, by simp [hpending],
            fun other hother => ?_⟩) nofun
          cases hother
          rfl

end Running

end Homeflow.Bestway.Tasks
