import Homeflow.Lib.History
import Homeflow.Web.LiveConnection

namespace Homeflow.Web

open History (Always)

-- The socket has been created since the last start, and there has been no stop since.
def Fresh (trace : List Effect) (id : Nat) : Prop :=
  ∃ before after, trace = before ++ .started :: after ∧ .created id ∈ after ∧ .stopped ∉ after

-- No message of a socket reaches the handlers once the connection has been stopped.
def Heeded (trace : List Effect) : Prop :=
  Always (fun before effect => ∀ call id, effect = .handled call (some id) → Fresh before id) trace

-- The socket's close event has come, or does not matter any more.
def Socket.settled (socket : Socket) : Bool := socket.readyState = .closed ∨ socket.onclose = false

namespace LiveConnection

-- Whether a step begins an attempt to connect.
def begins (connection : LiveConnection) : Label → Bool
  | .start => true
  | .wake => !connection.stopped && !connection.isOpen
  | .retry => !connection.stopped
  | _ => false

-- No other attempt awaits its ticket, and none has a socket left.
def Idle (connection : LiveConnection) : Prop :=
  connection.connecting = 0 ∧ ∀ socket ∈ connection.sockets, socket.settled

def BeginsIdle (connection : LiveConnection) (label : Label) : Prop :=
  connection.begins label → connection.Idle

instance (connection : LiveConnection) : Decidable connection.Idle :=
  inferInstanceAs (Decidable (_ ∧ _))

instance (connection : LiveConnection) (label : Label) : Decidable (connection.BeginsIdle label) :=
  inferInstanceAs (Decidable (_ → _))

end LiveConnection

section Trace

variable {trace : List Effect} {effect : Effect} {id : Nat}

theorem fresh_concat (h : Fresh trace id) (heffect : effect ≠ .stopped) :
    Fresh (trace ++ [effect]) id := by
  obtain ⟨before, after, rfl, hcreated, hstopped⟩ := h
  refine ⟨before, after ++ [effect], by simp, List.mem_append_left _ hcreated, ?_⟩
  simp [hstopped, heffect.symm]

end Trace

-- A start that no stop has followed.
def Running (trace : List Effect) : Prop :=
  ∃ before after, trace = before ++ .started :: after ∧ .stopped ∉ after

-- The socket the connection holds is the only one that may still be heard of, and an attempt
-- is the only one, too.
structure Single (connection : LiveConnection) : Prop where
  waits : connection.connecting ≠ 0 →
    connection.connecting = 1 ∧ ∀ socket ∈ connection.sockets, socket.settled
  current : ∀ (id : Nat) (socket : Socket), connection.sockets[id]? = some socket →
    socket.settled = false → connection.socket = some id ∧ Fresh connection.trace id
  detached : ∀ socket ∈ connection.sockets, socket.onclose = false → socket.live = false
  stopped : connection.stopped = true → ∀ socket ∈ connection.sockets, socket.settled
  running : connection.stopped = false → Running connection.trace
  heeded : Heeded connection.trace

section Single

variable {connection : LiveConnection}

theorem single_initial : Single {} where
  waits := by simp
  current := by simp
  detached := by simp
  stopped := by simp
  running := by simp
  heeded := History.always_nil

theorem Single.congr {after : LiveConnection} (h : Single connection)
    (hsocket : after.socket = connection.socket) (hstopped : after.stopped = connection.stopped)
    (hconnecting : after.connecting = connection.connecting)
    (hsockets : after.sockets = connection.sockets) (htrace : after.trace = connection.trace) :
    Single after := by
  constructor
  · rw [hconnecting, hsockets]
    exact h.waits
  · rw [hsockets, hsocket, htrace]
    exact h.current
  · rw [hsockets]
    exact h.detached
  · rw [hstopped, hsockets]
    exact h.stopped
  · rw [hstopped, htrace]
    exact h.running
  · rw [htrace]
    exact h.heeded

theorem Single.emit (h : Single connection) (effect : Effect) (heffect : effect ≠ .stopped)
    (hsource : ∀ call id, effect = .handled call (some id) → Fresh connection.trace id) :
    Single (connection.emit effect) where
  waits := h.waits
  current := by
    intro id socket hget hsettled
    obtain ⟨hcurrent, hfresh⟩ := h.current id socket hget hsettled
    exact ⟨hcurrent, fresh_concat hfresh heffect⟩
  detached := h.detached
  stopped := h.stopped
  running := by
    intro hstopped
    obtain ⟨before, after, htrace, hnot⟩ := h.running hstopped
    refine ⟨before, after ++ [effect], ?_, by simp [hnot, heffect.symm]⟩
    simp [LiveConnection.emit, htrace]
  heeded := h.heeded.concat hsource

-- A handler that is called of itself, not for a message.
theorem Single.tell (h : Single connection) (call : HandlerCall) :
    Single (connection.handle call) :=
  h.emit _ (by simp) (by simp)

theorem Single.scheduleRetry (h : Single connection) (random : ℚ) :
    Single (connection.scheduleRetry random) := by
  unfold LiveConnection.scheduleRetry
  split
  · exact h
  · exact (h.tell _).congr rfl rfl rfl rfl rfl

-- Where every socket is settled, none has to be held.
theorem Single.settled (h : Single connection)
    (hsettled : ∀ socket ∈ connection.sockets, socket.settled) (held : Option Nat) :
    Single { connection with socket := held } := by
  refine ⟨h.waits, fun id socket hget hunsettled => ?_, h.detached, h.stopped, h.running, h.heeded⟩
  rw [hsettled socket (List.mem_of_getElem? hget)] at hunsettled
  cases hunsettled

theorem Single.connect (h : Single connection)
    (hidle : connection.stopped = false → connection.Idle) : Single connection.connect := by
  unfold LiveConnection.connect
  split
  · exact h
  · next hstopped =>
    obtain ⟨hconnecting, hsettled⟩ := hidle (by simpa using hstopped)
    have htold := h.tell (.status "connecting")
    refine ⟨fun _ => ⟨?_, hsettled⟩, htold.current, h.detached, h.stopped, htold.running,
      htold.heeded⟩
    change connection.connecting + 1 = 1
    omega

theorem Single.start (h : Single connection) (hidle : connection.Idle) :
    Single connection.start := by
  obtain ⟨hconnecting, hsettled⟩ := hidle
  refine Single.connect ⟨fun hne => absurd hconnecting hne, fun id socket hget hunsettled => ?_,
    h.detached, fun _ => hsettled, fun _ => ⟨connection.trace, [], rfl, by simp⟩, ?_⟩
    fun _ => ⟨hconnecting, hsettled⟩
  · rw [hsettled socket (List.mem_of_getElem? hget)] at hunsettled
    cases hunsettled
  · exact h.heeded.concat (by simp)

theorem getElem?_modified {id other : Nat} {change : Socket → Socket} {socket : Socket}
    (h : (connection.modify id change).sockets[other]? = some socket) :
    ∃ before, connection.sockets[other]? = some before ∧
      socket = if id = other then change before else before := by
  rw [LiveConnection.modify, List.getElem?_modify] at h
  obtain ⟨before, hbefore, rfl⟩ := Option.map_eq_some_iff.mp h
  exact ⟨before, hbefore, rfl⟩

-- A socket may come closer to its end.
theorem Single.modify (h : Single connection) {id : Nat} (change : Socket → Socket)
    {socket : Socket} (hget : connection.sockets[id]? = some socket)
    (hsettled : socket.settled → (change socket).settled)
    (honclose : (change socket).onclose = socket.onclose)
    (hlive : (change socket).live → socket.live) : Single (connection.modify id change) := by
  have hmodified : ∀ (other : Nat) (found : Socket),
      (connection.modify id change).sockets[other]? = some found →
      ∃ before, connection.sockets[other]? = some before ∧
        (before.settled → found.settled) ∧ found.onclose = before.onclose ∧
        (found.live → before.live) := by
    intro other found hfound
    obtain ⟨before, hbefore, rfl⟩ := getElem?_modified hfound
    refine ⟨before, hbefore, ?_⟩
    split
    · next hsame =>
      subst hsame
      obtain rfl := Option.some.inj (hget.symm.trans hbefore)
      exact ⟨hsettled, honclose, hlive⟩
    · exact ⟨fun hbefore => hbefore, rfl, fun hbefore => hbefore⟩
  have hall : (∀ found ∈ connection.sockets, found.settled) →
      ∀ found ∈ (connection.modify id change).sockets, found.settled := by
    intro hall found hmem
    obtain ⟨other, hfound⟩ := List.getElem?_of_mem hmem
    obtain ⟨before, hbefore, hkept, -⟩ := hmodified other found hfound
    exact hkept (hall before (List.mem_of_getElem? hbefore))
  refine ⟨fun hne => ⟨(h.waits hne).1, hall (h.waits hne).2⟩,
    fun other found hfound hunsettled => ?_, fun found hmem hdetached => ?_,
    fun hstopped => hall (h.stopped hstopped), h.running, h.heeded⟩
  · obtain ⟨before, hbefore, hkept, -⟩ := hmodified other found hfound
    refine h.current other before hbefore ?_
    by_contra hbeforeSettled
    simp [hkept (by simpa using hbeforeSettled)] at hunsettled
  · obtain ⟨other, hfound⟩ := List.getElem?_of_mem hmem
    obtain ⟨before, hbefore, -, hsame, hkept⟩ := hmodified other found hfound
    by_contra hfoundLive
    have hbeforeLive := hkept (by simpa using hfoundLive)
    have hbeforeDetached := hsame.symm.trans hdetached
    rw [h.detached before (List.mem_of_getElem? hbefore) hbeforeDetached] at hbeforeLive
    cases hbeforeLive

theorem live_close (socket : Socket) : socket.close.live = false := by
  obtain ⟨state, onclose⟩ := socket
  cases state <;> rfl

theorem onclose_close (socket : Socket) : socket.close.onclose = socket.onclose := by
  obtain ⟨state, onclose⟩ := socket
  cases state <;> rfl

-- Once it is stopped, the connection does not hear of any socket again.
theorem Single.halted (h : Single connection) {after : LiveConnection}
    (hstopped : after.stopped = true) (hconnecting : after.connecting = connection.connecting)
    (htrace : after.trace = connection.trace ++ [.stopped])
    (hsettled : ∀ socket ∈ after.sockets, socket.settled)
    (hdetached : ∀ socket ∈ after.sockets, socket.onclose = false → socket.live = false) :
    Single after := by
  refine ⟨fun hne => ⟨?_, hsettled⟩, fun id socket hget hunsettled => ?_, hdetached,
    fun _ => hsettled, fun hruns => ?_, ?_⟩
  · rw [hconnecting] at hne ⊢
    exact (h.waits hne).1
  · rw [hsettled socket (List.mem_of_getElem? hget)] at hunsettled
    cases hunsettled
  · rw [hstopped] at hruns
    cases hruns
  · rw [htrace]
    exact h.heeded.concat (by simp)

theorem Single.stop (h : Single connection) : Single connection.stop := by
  unfold LiveConnection.stop
  refine Single.tell ?_ _
  dsimp only
  split
  · next hsocket =>
    refine h.halted rfl rfl rfl (fun socket hmem => ?_) h.detached
    obtain ⟨id, hget⟩ := List.getElem?_of_mem hmem
    by_contra hunsettled
    have hheld := (h.current id socket hget (by simpa using hunsettled)).1
    rw [show connection.socket = none from hsocket] at hheld
    cases hheld
  · next held hsocket =>
    have hclosed : ∀ socket ∈ (connection.modify held fun socket =>
        { socket with onclose := false }.close).sockets,
        socket.settled ∧ (socket.onclose = false → socket.live = false) := by
      intro socket hmem
      obtain ⟨id, hget⟩ := List.getElem?_of_mem hmem
      obtain ⟨before, hbefore, rfl⟩ := getElem?_modified hget
      split
      · refine ⟨?_, fun _ => live_close _⟩
        rw [Socket.settled, onclose_close]
        simp
      · next hother =>
        refine ⟨?_, h.detached before (List.mem_of_getElem? hbefore)⟩
        by_contra hunsettled
        have hheld := (h.current id before hbefore (by simpa using hunsettled)).1
        rw [show connection.socket = some held from hsocket] at hheld
        exact hother (Option.some.inj hheld)
    exact h.halted rfl rfl rfl (fun socket hmem => (hclosed socket hmem).1)
      fun socket hmem => (hclosed socket hmem).2

theorem Single.wake (h : Single connection)
    (hidle : connection.begins .wake = true → connection.Idle) : Single connection.wake := by
  unfold LiveConnection.wake
  split
  · exact h
  · next hstopped =>
    split
    · exact h.tell _
    · next hclosed =>
      refine Single.connect (h.congr rfl rfl rfl rfl rfl) fun _ => ?_
      exact hidle (by simp [LiveConnection.begins, hstopped, hclosed])

theorem Single.retry (h : Single connection)
    (hidle : connection.begins .retry = true → connection.Idle) : Single connection.retry := by
  refine Single.connect (h.congr rfl rfl rfl rfl rfl) fun hstopped => ?_
  exact hidle (by simpa [LiveConnection.begins] using hstopped)

section Resumes

-- One attempt the less waits for its ticket.
theorem Single.resumed (h : Single connection) (hwaits : connection.connecting ≠ 0) :
    Single { connection with connecting := connection.connecting - 1 } := by
  have hone := (h.waits hwaits).1
  refine ⟨fun hne => absurd ?_ hne, h.current, h.detached, h.stopped, h.running, h.heeded⟩
  change connection.connecting - 1 = 0
  omega

theorem Single.ticketFails (h : Single connection) (hwaits : connection.connecting ≠ 0)
    (random : ℚ) : Single (connection.ticketFails random) :=
  (h.resumed hwaits).scheduleRetry random

theorem Single.ticketRefused (h : Single connection) (hwaits : connection.connecting ≠ 0)
    (random : ℚ) : Single (connection.ticketRefused random) := by
  unfold LiveConnection.ticketRefused
  dsimp only
  split
  · exact h.resumed hwaits
  · exact (h.resumed hwaits).scheduleRetry random

theorem Single.ticketArrives (h : Single connection) (hwaits : connection.connecting ≠ 0) :
    Single connection.ticketArrives := by
  obtain ⟨hone, hsettled⟩ := h.waits hwaits
  unfold LiveConnection.ticketArrives
  dsimp only
  split
  · exact h.resumed hwaits
  · next hstopped =>
    have hcreated := (h.resumed hwaits).emit (.created connection.sockets.length) (by simp)
      (by simp)
    obtain ⟨before, after, htrace, hnot⟩ := h.running (by simpa using hstopped)
    refine ⟨fun hne => absurd ?_ hne, fun id socket hget hunsettled => ?_, fun socket hmem => ?_,
      fun hstops => absurd hstops hstopped, hcreated.running, hcreated.heeded⟩
    · change connection.connecting - 1 = 0
      omega
    · dsimp only at hget
      rw [List.getElem?_append] at hget
      split at hget
      · rw [hsettled socket (List.mem_of_getElem? hget)] at hunsettled
        cases hunsettled
      · next hlength =>
        have hid : id = connection.sockets.length := by
          rw [List.getElem?_singleton] at hget
          split at hget
          · omega
          · cases hget
        subst hid
        refine ⟨rfl, before, after ++ [.created connection.sockets.length], ?_, by simp,
          by simp [hnot]⟩
        simp [LiveConnection.emit, htrace]
    · rcases List.mem_append.mp hmem with hold | hnew
      · exact h.detached socket hold
      · rw [List.mem_singleton.mp hnew]
        simp

end Resumes

section Sockets

variable {id : Nat} {hears : Bool}

theorem Single.opens (h : Single connection)
    (hget : connection.sockets[id]? = some ⟨.connecting, hears⟩) :
    Single (connection.modify id fun socket => { socket with readyState := .opened }).onopen := by
  let opened := connection.modify id fun socket => { socket with readyState := .opened }
  have hopened : Single opened := h.modify (fun socket => { socket with readyState := .opened })
    hget (by simp [Socket.settled]) rfl (by simp [Socket.live])
  have hreset : Single { opened with backoff := INITIAL_BACKOFF_MS } :=
    hopened.congr rfl rfl rfl rfl rfl
  exact (hreset.tell _).tell _

theorem Single.closing (h : Single connection)
    (hget : connection.sockets[id]? = some ⟨.opened, hears⟩) :
    Single (connection.modify id fun socket => { socket with readyState := .closing }) :=
  h.modify _ hget (by simp [Socket.settled]) rfl (by simp [Socket.live])

theorem Single.closes (h : Single connection) {state : ReadyState}
    (hget : connection.sockets[id]? = some ⟨state, hears⟩) (hstate : state ≠ .closed) (random : ℚ) :
    Single (if hears then
        (connection.modify id fun socket => { socket with readyState := .closed }).onclose random
      else connection.modify id fun socket => { socket with readyState := .closed }) := by
  have hclosed := h.modify (fun socket => { socket with readyState := .closed }) hget
    (by simp [Socket.settled]) rfl (by simp [Socket.live])
  split
  · next hhears =>
    subst hhears
    have hunsettled : (⟨state, true⟩ : Socket).settled = false := by simp [Socket.settled, hstate]
    have hheld := (h.current id _ hget hunsettled).1
    refine Single.scheduleRetry (hclosed.settled (fun socket hmem => ?_) none) random
    obtain ⟨other, hother⟩ := List.getElem?_of_mem hmem
    obtain ⟨before, hbefore, rfl⟩ := getElem?_modified hother
    split
    · simp [Socket.settled]
    · next hne =>
      -- Another socket that is not settled would be the one that is held, too.
      by_contra hleft
      have hsame := (h.current other before hbefore (by simpa using hleft)).1
      exact hne (Option.some.inj (hheld.symm.trans hsame))
  · exact hclosed

theorem Single.send (h : Single connection) : Single connection.send := by
  unfold LiveConnection.send
  split
  · split
    · exact h.emit _ (by simp) (by simp)
    · exact h
  · exact h

-- A message that is heard is of the socket the connection holds.
theorem Single.hear (h : Single connection) (hfresh : Fresh connection.trace id)
    (call : HandlerCall) :
    Single (connection.handle call id) ∧ Fresh (connection.handle call id).trace id := by
  refine ⟨h.emit _ (by simp) ?_, fresh_concat hfresh (by simp)⟩
  rintro _ _ ⟨⟩
  exact hfresh

theorem Single.dispatchDevice (h : Single connection) (hfresh : Fresh connection.trace id)
    (device : Option Json) : Single (connection.dispatchDevice id device) := by
  unfold LiveConnection.dispatchDevice
  split
  · split
    · exact (h.hear hfresh _).1
    · exact h
  · exact h

theorem Single.dispatch (h : Single connection) (hfresh : Fresh connection.trace id)
    (frame : Json) : Single (connection.dispatch id frame) := by
  unfold LiveConnection.dispatch
  split
  · dsimp only
    split
    · exact h
    · split
      · exact h.send
      · split
        · exact (h.hear hfresh _).1
        · split
          · obtain ⟨hheard, hstill⟩ := h.hear hfresh (.schedule _)
            exact hheard.dispatchDevice hstill _
          · exact h.dispatchDevice hfresh _
  · exact h

theorem Single.message (h : Single connection)
    (hget : connection.sockets[id]? = some ⟨.opened, hears⟩) (data : Option Json) :
    Single (connection.onmessage id data) := by
  unfold LiveConnection.onmessage
  split
  · have hhears : hears ≠ false := fun hdetached => by
      have hdead := h.detached _ (List.mem_of_getElem? hget) hdetached
      simp [Socket.live] at hdead
    have hunsettled : (⟨.opened, hears⟩ : Socket).settled = false := by
      simp [Socket.settled, hhears]
    exact h.dispatch (h.current id _ hget hunsettled).2 _
  · exact h

end Sockets

theorem single_step {after : LiveConnection} {label : Label} (h : Single connection)
    (hidle : connection.BeginsIdle label) (hstep : connection.step label = some after) :
    Single after := by
  cases label with
  | start =>
      cases hstep
      exact h.start (hidle rfl)
  | stop =>
      cases hstep
      exact h.stop
  | wake =>
      cases hstep
      exact h.wake hidle
  | retry =>
      obtain ⟨delay, -, rfl⟩ := Option.map_eq_some_iff.mp hstep
      exact h.retry hidle
  | ticketFails random =>
      simp only [LiveConnection.step] at hstep
      split at hstep
      · cases hstep
      · next hwaits =>
        cases hstep
        exact h.ticketFails hwaits random
  | ticketArrives =>
      simp only [LiveConnection.step] at hstep
      split at hstep
      · cases hstep
      · next hwaits =>
        cases hstep
        exact h.ticketArrives hwaits
  | ticketRefused random =>
      simp only [LiveConnection.step] at hstep
      split at hstep
      · cases hstep
      · next hwaits =>
        cases hstep
        exact h.ticketRefused hwaits random
  | opens id =>
      simp only [LiveConnection.step] at hstep
      split at hstep
      · next hget =>
        cases hstep
        exact h.opens hget
      · cases hstep
  | message id data =>
      simp only [LiveConnection.step] at hstep
      split at hstep
      · next hget =>
        cases hstep
        exact h.message hget data
      · cases hstep
  | closing id =>
      simp only [LiveConnection.step] at hstep
      split at hstep
      · next hget =>
        cases hstep
        exact h.closing hget
      · cases hstep
  | closes id random =>
      simp only [LiveConnection.step] at hstep
      split at hstep
      · cases hstep
      · cases hstep
      · next state hears hopen hget =>
        cases hstep
        exact h.closes hget hopen random

end Single

end Homeflow.Web
