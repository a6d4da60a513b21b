import Homeflow.Web.Sockets

namespace Homeflow.Web

-- At most one socket is connecting or open.
def OneLive (connection : LiveConnection) : Prop :=
  ∀ first second : Nat, ∀ socket other : Socket, connection.sockets[first]? = some socket →
    connection.sockets[second]? = some other → socket.live → other.live → first = second

theorem Single.oneLive {connection : LiveConnection} (h : Single connection) :
    OneLive connection := by
  have hheld : ∀ (id : Nat) (socket : Socket), connection.sockets[id]? = some socket →
      socket.live → connection.socket = some id := by
    intro id socket hget hlive
    refine (h.current id socket hget ?_).1
    have hattached : socket.onclose ≠ false := fun hdetached => by
      rw [h.detached socket (List.mem_of_getElem? hget) hdetached] at hlive
      cases hlive
    have hopen : socket.readyState ≠ .closed := fun hclosed => by
      simp [Socket.live, hclosed] at hlive
    simp [Socket.settled, hattached, hopen]
  intro first second socket other hfirst hsecond hlive hother
  exact Option.some.inj ((hheld first socket hfirst hlive).symm.trans
    (hheld second other hsecond hother))

-- A stop is not undone by anything but a start.
theorem not_fresh_of_stopped {before after : List Effect} {id : Nat} (hafter : .started ∉ after) :
    ¬Fresh (before ++ .stopped :: after) id := by
  rintro ⟨first, rest, hsplit, -, hstopped⟩
  rcases List.append_eq_append_iff.mp hsplit with ⟨more, -, hmore⟩ | ⟨more, -, hmore⟩
  · cases more with
    | nil => simp at hmore
    | cons effect more =>
        obtain ⟨-, rfl⟩ := List.cons.inj hmore
        exact hafter (by simp)
  · cases more with
    | nil => simp at hmore
    | cons effect more =>
        obtain ⟨-, rfl⟩ := List.cons.inj hmore
        exact hstopped (by simp)

section Overlap

variable {connection : LiveConnection}

@[simp] theorem socket_scheduleRetry (random : ℚ) :
    (connection.scheduleRetry random).socket = connection.socket := by
  unfold LiveConnection.scheduleRetry
  split <;> rfl

@[simp] theorem sockets_scheduleRetry (random : ℚ) :
    (connection.scheduleRetry random).sockets = connection.sockets := by
  unfold LiveConnection.scheduleRetry
  split <;> rfl

theorem begun {after : LiveConnection} {label : Label} (hbegins : connection.begins label = true)
    (hstep : connection.step label = some after) :
    after.stopped = false ∧ after.connecting = connection.connecting + 1 ∧
      after.sockets = connection.sockets := by
  cases label with
  | start =>
      cases hstep
      exact ⟨rfl, rfl, rfl⟩
  | wake =>
      cases hstep
      simp only [LiveConnection.begins, Bool.and_eq_true, Bool.not_eq_true'] at hbegins
      simp [LiveConnection.wake, LiveConnection.connect, LiveConnection.clearRetry,
        LiveConnection.handle, LiveConnection.emit, hbegins]
  | retry =>
      obtain ⟨delay, -, rfl⟩ := Option.map_eq_some_iff.mp hstep
      simp only [LiveConnection.begins, Bool.not_eq_true'] at hbegins
      simp [LiveConnection.retry, LiveConnection.connect, LiveConnection.handle,
        LiveConnection.emit, hbegins]
  | stop | ticketFails | ticketArrives | ticketRefused | opens | message | closing | closes =>
      cases hbegins

theorem arrives (hstopped : connection.stopped = false) (hwaits : connection.connecting ≠ 0) :
    ∃ after, connection.step .ticketArrives = some after ∧ after.stopped = false ∧
      after.connecting = connection.connecting - 1 ∧
      after.sockets = connection.sockets ++ [⟨.connecting, true⟩] := by
  refine ⟨connection.ticketArrives, if_neg hwaits, ?_⟩
  simp [LiveConnection.ticketArrives, LiveConnection.emit, hstopped]

-- Two attempts that both have their tickets are two sockets.
theorem twice_live (hstopped : connection.stopped = false) (hwaits : 2 ≤ connection.connecting) :
    ∃ final, Machine.run LiveConnection.step connection [.ticketArrives, .ticketArrives] =
      some final ∧ ¬OneLive final := by
  obtain ⟨first, hfirst, hruns, hconnecting, hsockets⟩ := arrives hstopped (by omega)
  obtain ⟨second, hsecond, -, -, hboth⟩ := arrives hruns (by omega)
  refine ⟨second, by simp [Machine.run, hfirst, hsecond], fun hone => ?_⟩
  have hsame := hone connection.sockets.length (connection.sockets.length + 1) ⟨.connecting, true⟩
    ⟨.connecting, true⟩ (by simp [hboth, hsockets]) (by simp [hboth, hsockets]) rfl rfl
  omega

-- So are an attempt that has its ticket and a socket that is left.
theorem beside_live (hstopped : connection.stopped = false) (hwaits : connection.connecting ≠ 0)
    {id : Nat} {socket : Socket} (hget : connection.sockets[id]? = some socket)
    (hlive : socket.live) :
    ∃ final, Machine.run LiveConnection.step connection [.ticketArrives] = some final ∧
      ¬OneLive final := by
  obtain ⟨after, hafter, -, -, hsockets⟩ := arrives hstopped hwaits
  refine ⟨after, by simp [Machine.run, hafter], fun hone => ?_⟩
  obtain ⟨hlt, -⟩ := List.getElem?_eq_some_iff.mp hget
  have hsame := hone id connection.sockets.length socket ⟨.connecting, true⟩
    (by rw [hsockets, List.getElem?_append_left hlt, hget]) (by simp [hsockets]) hlive rfl
  omega

def resyncFrame : Json := .obj [("type", .str "ResyncRequired")]

-- A socket the connection does not hold speaks after the stop.
theorem orphan_speaks {id : Nat} {hears : Bool} (hheld : connection.socket ≠ some id)
    (hget : connection.sockets[id]? = some ⟨.opened, hears⟩) :
    ∃ final, Machine.run LiveConnection.step connection [.stop, .message id (some resyncFrame)] =
      some final ∧ ¬Heeded final.trace := by
  have hstop : connection.stop.sockets[id]? = some ⟨.opened, hears⟩ ∧
      connection.stop.trace = connection.trace ++ [.stopped, .handled (.status "offline")] := by
    cases hsocket : connection.socket with
    | none =>
        simp [LiveConnection.stop, LiveConnection.emit, LiveConnection.clearRetry,
          LiveConnection.handle, hsocket, hget]
    | some held =>
        have hne : held ≠ id := fun hsame => hheld (hsame ▸ hsocket)
        simp [LiveConnection.stop, LiveConnection.emit, LiveConnection.clearRetry,
          LiveConnection.handle, LiveConnection.modify, hsocket, hget, hne]
  have hheard : connection.stop.onmessage id (some resyncFrame) =
      connection.stop.handle .resync (some id) := by
    simp [LiveConnection.onmessage, LiveConnection.dispatch, resyncFrame, Json.member?, Json.eqStr]
  have hmessage : connection.stop.step (.message id (some resyncFrame)) =
      some (connection.stop.handle .resync (some id)) := by
    simp [LiveConnection.step, hstop.1, hheard]
  have hhalts : connection.step .stop = some connection.stop := rfl
  refine ⟨connection.stop.handle .resync (some id), by simp [Machine.run, hhalts, hmessage],
    fun hheeded => ?_⟩
  have hfresh := hheeded connection.stop.trace (.handled .resync (some id)) [] rfl .resync id rfl
  rw [hstop.2] at hfresh
  exact not_fresh_of_stopped (by simp) hfresh

theorem closes_attached {id : Nat} (hget : connection.sockets[id]? = some ⟨.closing, true⟩) :
    ∃ after, connection.step (.closes id 0) = some after ∧ after.socket = none ∧
      ∀ other, id ≠ other → after.sockets[other]? = connection.sockets[other]? := by
  let closed := connection.modify id fun socket => { socket with readyState := .closed }
  refine ⟨closed.onclose 0, by simp [LiveConnection.step, hget, closed], ?_, fun other hother => ?_⟩
  · simp [LiveConnection.onclose]
  · simp [LiveConnection.onclose, closed, LiveConnection.modify, hother]

theorem opens_connecting {id : Nat} {hears : Bool}
    (hget : connection.sockets[id]? = some ⟨.connecting, hears⟩) :
    ∃ after, connection.step (.opens id) = some after ∧ after.socket = connection.socket ∧
      after.sockets[id]? = some ⟨.opened, hears⟩ := by
  refine ⟨(connection.modify id fun socket => { socket with readyState := .opened }).onopen,
    by simp [LiveConnection.step, hget], rfl, ?_⟩
  simp [LiveConnection.onopen, LiveConnection.handle, LiveConnection.emit, LiveConnection.modify,
    hget]

-- The end of one socket lets go of the next one.
theorem beside_closing (hstopped : connection.stopped = false) (hwaits : connection.connecting ≠ 0)
    {id : Nat} (hget : connection.sockets[id]? = some ⟨.closing, true⟩) :
    ∃ more final, Machine.run LiveConnection.step connection more = some final ∧
      ¬Heeded final.trace := by
  obtain ⟨created, hcreated, -, -, hsockets⟩ := arrives hstopped hwaits
  obtain ⟨hlt, -⟩ := List.getElem?_eq_some_iff.mp hget
  have hold : created.sockets[id]? = some ⟨.closing, true⟩ := by
    rw [hsockets, List.getElem?_append_left hlt, hget]
  obtain ⟨closed, hclosed, hfree, hothers⟩ := closes_attached hold
  have hnew : closed.sockets[connection.sockets.length]? = some ⟨.connecting, true⟩ := by
    rw [hothers _ (by omega), hsockets]
    simp
  obtain ⟨opened, hopened, hheld, hspeaks⟩ := opens_connecting hnew
  obtain ⟨final, hfinal, hnot⟩ := orphan_speaks (by simp [hheld, hfree]) hspeaks
  refine ⟨[.ticketArrives, .closes id 0, .opens connection.sockets.length] ++
    [.stop, .message connection.sockets.length (some resyncFrame)], final, ?_, hnot⟩
  rw [Machine.run_append]
  simpa [Machine.run, hcreated, hclosed, hopened] using hfinal

-- A step that begins an attempt beside another one can be followed by a breach.
theorem overlap_breaks {after : LiveConnection} {label : Label}
    (hbegins : ¬connection.BeginsIdle label) (hstep : connection.step label = some after) :
    ∃ more final, Machine.run LiveConnection.step after more = some final ∧
      ¬(OneLive final ∧ Heeded final.trace) := by
  obtain ⟨hbegin, hbusy⟩ := Classical.not_imp.mp hbegins
  obtain ⟨hstopped, hconnecting, hsockets⟩ := begun hbegin hstep
  by_cases hwaits : connection.connecting = 0
  · obtain ⟨socket, hmem, hunsettled⟩ : ∃ socket ∈ connection.sockets, ¬socket.settled := by
      by_contra hall
      exact hbusy ⟨hwaits, fun socket hmem => by
        by_contra hunsettled
        exact hall ⟨socket, hmem, hunsettled⟩⟩
    obtain ⟨id, hget⟩ := List.getElem?_of_mem hmem
    rw [← hsockets] at hget
    have hpositive : after.connecting ≠ 0 := by omega
    by_cases hlive : socket.live = true
    · obtain ⟨final, hfinal, hnot⟩ := beside_live hstopped hpositive hget hlive
      exact ⟨_, final, hfinal, fun hgood => hnot hgood.1⟩
    · obtain ⟨state, onclose⟩ := socket
      obtain ⟨rfl, rfl⟩ : state = .closing ∧ onclose = true := by
        cases state <;> cases onclose <;> simp [Socket.settled, Socket.live] at hunsettled hlive ⊢
      obtain ⟨more, final, hfinal, hnot⟩ := beside_closing hstopped hpositive hget
      exact ⟨more, final, hfinal, fun hgood => hnot hgood.2⟩
  · obtain ⟨final, hfinal, hnot⟩ := twice_live hstopped (by omega)
    exact ⟨_, final, hfinal, fun hgood => hnot hgood.1⟩

end Overlap

-- As long as every attempt begins when the last one is over there is one live socket at most,
-- and it is heard only while the connection is not stopped. The first attempt that begins
-- beside another one can break both.
theorem one_live_socket {labels : List Label} {connection : LiveConnection}
    (hrun : Machine.run LiveConnection.step {} labels = some connection) :
    (Machine.Guarded LiveConnection.step LiveConnection.BeginsIdle {} labels →
      OneLive connection ∧ Heeded connection.trace) ∧
    (¬Machine.Guarded LiveConnection.step LiveConnection.BeginsIdle {} labels →
      ∃ before label rest more final, labels = before ++ label :: rest ∧
        Machine.Guarded LiveConnection.step LiveConnection.BeginsIdle {} before ∧
        Machine.run LiveConnection.step {} (before ++ label :: more) = some final ∧
        ¬(OneLive final ∧ Heeded final.trace)) := by
  constructor
  · intro hguard
    have hsingle : Single connection := Machine.guarded_invariant single_initial
      (fun _ _ _ hbefore hlabel hstep => single_step hbefore hlabel hstep) hrun hguard
    exact ⟨hsingle.oneLive, hsingle.heeded⟩
  · exact Machine.exists_breach (fun _ _ _ _ _ hbusy hstep => overlap_breaks hbusy hstep) hrun

-- The network is lost and comes back.
def lostNetwork : List Label :=
  [.start, .ticketArrives, .opens 0, .closes 0 0, .retry, .ticketFails 0, .wake, .ticketArrives,
    .opens 1]

theorem one_live_socket_lostNetwork : ∃ connection,
    Machine.run LiveConnection.step {} lostNetwork = some connection ∧
      connection.sockets = [⟨.closed, true⟩, ⟨.opened, true⟩] ∧ OneLive connection ∧
      Heeded connection.trace := by
  obtain ⟨connection, hrun, hsockets⟩ := (Option.any_eq_true _ _).mp
    (show (Machine.run LiveConnection.step {} lostNetwork).any (fun connection =>
      connection.sockets = [⟨.closed, true⟩, ⟨.opened, true⟩]) = true by decide +kernel)
  exact ⟨connection, hrun, of_decide_eq_true hsockets,
    (one_live_socket hrun).1 (by decide +kernel)⟩

-- The page becomes visible and the browser is online again at the same time.
def wokenTwice : List Label :=
  [.start, .ticketArrives, .opens 0, .closes 0 0, .wake, .wake, .ticketArrives, .ticketArrives,
    .opens 1, .opens 2]

theorem woken_twice_two_sockets : ∃ connection,
    Machine.run LiveConnection.step {} wokenTwice = some connection ∧ ¬OneLive connection ∧
      ∃ final, Machine.run LiveConnection.step connection
        [.stop, .message 1 (some resyncFrame)] = some final ∧ ¬Heeded final.trace := by
  obtain ⟨connection, hrun, hsockets⟩ := (Option.any_eq_true _ _).mp
    (show (Machine.run LiveConnection.step {} wokenTwice).any (fun connection =>
      connection.sockets = [⟨.closed, true⟩, ⟨.opened, true⟩, ⟨.opened, true⟩] ∧
        connection.socket = some 2) = true by decide +kernel)
  obtain ⟨hopen, hheld⟩ := of_decide_eq_true hsockets
  refine ⟨connection, hrun, fun hone => ?_, ?_⟩
  · have hsame := hone 1 2 ⟨.opened, true⟩ ⟨.opened, true⟩ (by simp [hopen]) (by simp [hopen])
      rfl rfl
    cases hsame
  · exact orphan_speaks (by simp [hheld]) (by rw [hopen]; rfl)

end Homeflow.Web
