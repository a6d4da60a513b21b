import Homeflow.Lib.Machine
import Homeflow.Ws.Session

-- What a peer can see of its connection.
namespace Homeflow.Ws

open Events (Connection Frame)

-- How far the exchange on the socket is.
inductive Wire where
  | fresh
  | accepted
  | greeted
  | closed

-- What may be sent next: an acceptance or a refusal, the greeting, then frames, and nothing
-- after the close.
def Wire.admit : Wire → Send → Option Wire
  | .fresh, .accept _ => some .accepted
  | .fresh, .close code | .greeted, .close code =>
      if code = CLOSE_POLICY_VIOLATION then some .closed else none
  | .accepted, .hello => some .greeted
  | .greeted, .frame _ => some .greeted
  | _, _ => none

def Admitted (sends : List Send) : Prop := ∃ wire, Machine.run Wire.admit .fresh sends = some wire

-- A call that is over before the next one begins.
def call (send : Send) : List Entry := [.begun send, .finished send]

-- What the phases of the handler stand for on the wire.
def Phase.Sees : Phase → Wire → Prop
  | .rejecting, .closed | .accepting _, .accepted | .greeting, .greeted | .serving, .greeted
  | .closing _, .closed | .returned, _ => True
  | _, _ => False

-- The handler has no tasks yet.
def Phase.Starting : Phase → Prop
  | .rejecting | .accepting _ | .greeting => True
  | .serving | .closing _ | .returned => False

namespace Session

-- The call that is under way: that of the handler, or else that of the writer.
def current (session : Session) : Option Send :=
  session.phase.send <|> session.connection.bind writing

structure Keeps (session : Session) : Prop where
  sends : ∃ made wire, session.log = made.flatMap call ++ session.current.toList.map .begun ∧
    Machine.run Wire.admit .fresh (made ++ session.current.toList) = some wire ∧
    session.phase.Sees wire
  starting : session.phase.Starting → session.connection = none ∧ session.reader = .idle
  serving : session.phase = .serving → session.connection.isSome ∧ session.principal.isSome
  ending : ∀ connection, session.connection = some connection → session.phase = .serving ∨
    connection.phase = .ended ∧ session.reader ≠ .listening
  listening : session.reader = .listening ↔
    ∃ connection, session.connection = some connection ∧ connection.subscription.closed = false
  code : ∀ code, session.closeCode = some code → code = CLOSE_POLICY_VIOLATION ∧
    session.reader = .ended
  closing : ∀ code, session.phase = .closing code → session.closeCode = some code
  refused : session.principal = none → session.connection = none ∧
    (session.phase = .rejecting ∨ session.phase = .returned)

end Session

section Log

variable {session after : Session} {finished begun : Option Send} {made : List Send} {wire : Wire}

theorem logged_calls (h : session.log = made.flatMap call ++ finished.toList.map .begun) :
    session.logged finished begun =
      (made ++ finished.toList).flatMap call ++ begun.toList.map .begun := by
  rw [Session.logged, h]
  cases finished <;> simp [call]

theorem run_begun (h : Machine.run Wire.admit .fresh made = some wire) {send : Send} {next : Wire}
    (hnext : wire.admit send = some next) :
    Machine.run Wire.admit .fresh (made ++ [send]) = some next :=
  Machine.run_concat.mpr ⟨wire, h, hnext⟩

end Log

namespace Session

variable {session after : Session} {queueSize : Nat} {loads : String → Loaded}

-- The handler goes from a call, or from none, on to the next.
theorem Keeps.sends_goTo (h : session.Keeps) {phase : Phase}
    (hcurrent : session.current = session.phase.send)
    (hnone : phase.send = none → ∀ wire, phase.Sees wire)
    (hsome : ∀ send wire, phase.send = some send → session.phase.Sees wire →
      ∃ next, wire.admit send = some next ∧ phase.Sees next) :
    ∃ made wire, (session.goTo phase).log = made.flatMap call ++ phase.send.toList.map .begun ∧
      Machine.run Wire.admit .fresh (made ++ phase.send.toList) = some wire ∧
      phase.Sees wire := by
  obtain ⟨made, wire, hlog, hrun, hsees⟩ := h.sends
  rw [hcurrent] at hlog hrun
  cases hsend : phase.send with
  | none =>
      refine ⟨made ++ session.phase.send.toList, wire, ?_, by simpa using hrun, hnone hsend wire⟩
      rw [goTo, hsend]
      exact logged_calls hlog
  | some send =>
      obtain ⟨next, hnext, hnow⟩ := hsome send wire hsend hsees
      refine ⟨made ++ session.phase.send.toList, next, ?_, run_begun hrun hnext, hnow⟩
      rw [goTo, hsend]
      exact logged_calls hlog

theorem Keeps.current_starting (h : session.Keeps) (hphase : session.phase.Starting) :
    session.current = session.phase.send := by
  rw [current, (h.starting hphase).1]
  cases session.phase.send <;> rfl

theorem Keeps.leave (h : session.Keeps) (hphase : session.phase.Starting) :
    (session.goTo .returned).Keeps := by
  obtain ⟨hconnection, hreader⟩ := h.starting hphase
  have hcurrent : (session.goTo .returned).current = none := by
    simp [current, goTo, Phase.send, hconnection]
  constructor
  case sends =>
    rw [hcurrent]
    exact h.sends_goTo (h.current_starting hphase) (fun _ _ => trivial) fun _ _ hsend =>
      (by cases hsend)
  case starting => exact fun hstarting => hstarting.elim
  case serving => exact fun hserving => (by cases hserving)
  case ending => exact fun connection hsome => (by cases hconnection.symm.trans hsome)
  case listening => exact h.listening
  case code => exact h.code
  case closing => exact fun code hclosing => (by cases hclosing)
  case refused => exact fun _ => ⟨hconnection, .inr rfl⟩

theorem Keeps.greet (h : session.Keeps) {subprotocol : Option String}
    (hphase : session.phase = .accepting subprotocol) : (session.goTo .greeting).Keeps := by
  have hstarting : session.phase.Starting := by simp [hphase, Phase.Starting]
  obtain ⟨hconnection, hreader⟩ := h.starting hstarting
  have hcurrent : (session.goTo .greeting).current = some .hello := rfl
  constructor
  case sends =>
    rw [hcurrent]
    refine h.sends_goTo (h.current_starting hstarting) (fun hnone => by cases hnone)
      fun send wire hsend hsees => ?_
    cases hsend
    rw [hphase] at hsees
    cases wire <;> first
      | exact hsees.elim
      | exact ⟨.greeted, rfl, trivial⟩
  case starting => exact fun _ => ⟨hconnection, hreader⟩
  case serving => exact fun hserving => (by cases hserving)
  case ending => exact fun connection hsome => (by cases hconnection.symm.trans hsome)
  case listening => exact h.listening
  case code => exact h.code
  case closing => exact fun code hclosing => (by cases hclosing)
  case refused =>
    intro hprincipal
    obtain ⟨-, hrejecting | hreturned⟩ := h.refused hprincipal
    · cases hphase.symm.trans hrejecting
    · cases hphase.symm.trans hreturned

theorem Keeps.serve (h : session.Keeps) (hphase : session.phase = .greeting) (queueSize : Nat) :
    Keeps { session.goTo .serving with
      connection := some (Events.subscribed queueSize), reader := .listening } := by
  have hstarting : session.phase.Starting := by simp [hphase, Phase.Starting]
  obtain ⟨hconnection, hreader⟩ := h.starting hstarting
  have hprincipal : session.principal ≠ none := by
    intro hnone
    obtain ⟨-, hrejecting | hreturned⟩ := h.refused hnone
    · cases hphase.symm.trans hrejecting
    · cases hphase.symm.trans hreturned
  constructor
  case sends =>
    obtain ⟨made, wire, hlog, hrun, hsees⟩ := h.sends
    rw [h.current_starting hstarting, hphase] at hlog hrun
    refine ⟨made ++ [.hello], wire, ?_, ?_, ?_⟩
    · change session.logged session.phase.send _ = _
      rw [hphase]
      exact logged_calls hlog
    · change Machine.run Wire.admit .fresh ((made ++ [.hello]) ++ []) = some wire
      rw [List.append_nil]
      exact hrun
    · rw [hphase] at hsees
      cases wire <;> exact hsees
  case starting => exact fun hserving => hserving.elim
  case serving => exact fun _ => ⟨rfl, Option.isSome_iff_ne_none.mpr hprincipal⟩
  case ending => exact fun _ _ => .inl rfl
  case listening => exact ⟨fun _ => ⟨_, rfl, rfl⟩, fun _ => rfl⟩
  case code =>
    intro code hcode
    cases hreader.symm.trans (h.code code hcode).2
  case closing => exact fun code hclosing => (by cases hclosing)
  case refused => exact fun hnone => absurd hnone hprincipal

theorem writerEnded_eq_true (h : session.writerEnded = true) :
    ∃ connection, session.connection = some connection ∧ connection.phase = .ended := by
  unfold writerEnded at h
  split at h
  · next connection hconnection =>
    split at h
    · next hended => exact ⟨connection, hconnection, hended⟩
    · cases h
  · cases h

-- Both tasks have ended.
theorem Keeps.finish (h : session.Keeps) (hphase : session.phase = .serving)
    (hended : session.writerEnded = true) (hreader : session.reader ≠ .listening) {phase : Phase}
    (hnext : phase = .returned ∨ ∃ code, phase = .closing code ∧ session.closeCode = some code) :
    (session.goTo phase).Keeps := by
  obtain ⟨connection, hconnection, hdone⟩ := writerEnded_eq_true hended
  have hwriting : writing connection = none := by simp [writing, hdone, Events.Phase.frame]
  have hcurrent : session.current = session.phase.send := by
    simp [current, hphase, hconnection, Phase.send, hwriting]
  have hnow : (session.goTo phase).current = phase.send := by
    change (phase.send <|> session.connection.bind writing) = phase.send
    rw [hconnection, Option.bind_some, hwriting]
    cases phase.send <;> rfl
  constructor
  case sends =>
    rw [hnow]
    refine h.sends_goTo hcurrent (fun hnone wire => ?_) fun send wire hsend hsees => ?_
    · obtain rfl | ⟨code, rfl, -⟩ := hnext
      · trivial
      · cases hnone
    · obtain rfl | ⟨code, rfl, hcode⟩ := hnext
      · cases hsend
      · obtain ⟨rfl, -⟩ := h.code code hcode
        cases hsend
        rw [hphase] at hsees
        cases wire <;> first
          | exact hsees.elim
          | exact ⟨.closed, rfl, trivial⟩
  case starting => obtain rfl | ⟨code, rfl, -⟩ := hnext <;> exact fun hstarting => hstarting.elim
  case serving =>
    obtain rfl | ⟨code, rfl, -⟩ := hnext <;> exact fun hserving => (by cases hserving)
  case ending =>
    intro found hfound
    obtain rfl := Option.some.inj (hconnection.symm.trans hfound)
    exact .inr ⟨hdone, hreader⟩
  case listening => exact h.listening
  case code => exact h.code
  case closing =>
    obtain rfl | ⟨code, rfl, hcode⟩ := hnext
    · exact fun code hclosing => (by cases hclosing)
    · intro other hclosing
      obtain rfl := Phase.closing.inj hclosing
      exact hcode
  case refused =>
    intro hnone
    cases (h.refused hnone).1.symm.trans hconnection

-- What the connection does to the lines of the others.
theorem Keeps.connects (h : session.Keeps) {connection next : Connection}
    (hconnection : session.connection = some connection)
    (hclosed : next.subscription.closed = connection.subscription.closed)
    (hended : connection.phase = .ended → next.phase = .ended) (log : List Entry)
    (hsends : ∃ made wire, log = made.flatMap call ++
        ((session.phase.send <|> writing next).toList.map .begun) ∧
      Machine.run Wire.admit .fresh (made ++ (session.phase.send <|> writing next).toList) =
        some wire ∧ session.phase.Sees wire) :
    Keeps { session with connection := some next, log } where
  sends := hsends
  starting hstarting := by cases hconnection.symm.trans (h.starting hstarting).1
  serving hserving := ⟨rfl, (h.serving hserving).2⟩
  ending found hfound := by
    obtain rfl := Option.some.inj hfound
    exact (h.ending connection hconnection).imp_right fun hending => ⟨hended hending.1, hending.2⟩
  listening := by
    rw [h.listening, hconnection]
    simp [hclosed]
  code := h.code
  closing := h.closing
  refused hnone := by cases (h.refused hnone).1.symm.trans hconnection

-- A step of the writer is one of a connection that is alive, and closes nothing.
theorem writer_step {label : Label} {line : Events.Label} (hlabel : label.writes = some line)
    {connection next : Connection} (hstep : connection.step line = some next) :
    next.subscription.closed = connection.subscription.closed ∧ connection.phase ≠ .ended := by
  cases label <;> cases hlabel
  case take =>
    cases hphase : connection.phase <;> simp only [Connection.step, hphase] at hstep
    case waiting =>
      refine ⟨?_, by simp⟩
      simp only [Connection.take, Events.Subscription.next] at hstep
      cases hget : connection.subscription.queue.get with
      | none => simp [hget] at hstep
      | some found =>
          obtain ⟨entry, queue⟩ := found
          cases entry <;> simp only [hget, Option.map_some] at hstep <;> cases hstep <;> rfl
    all_goals cases hstep
  case timeout =>
    cases hphase : connection.phase <;> simp only [Connection.step, hphase] at hstep
    case waiting =>
      cases hstep
      exact ⟨rfl, by simp⟩
    all_goals cases hstep
  case delivered | gone =>
    obtain ⟨frame, hframe, rfl⟩ := Option.map_eq_some_iff.mp hstep
    refine ⟨rfl, fun hended => ?_⟩
    rw [hended] at hframe
    cases hframe

theorem Keeps.writes (h : session.Keeps) (label : Label) {line : Events.Label}
    (hlabel : label.writes = some line) (hstep : session.writes line = some after) :
    after.Keeps := by
  obtain ⟨connection, hconnection, hnext⟩ := Option.bind_eq_some_iff.mp hstep
  obtain ⟨next, hmove, rfl⟩ := Option.map_eq_some_iff.mp hnext
  obtain ⟨hclosed, halive⟩ := writer_step hlabel hmove
  have hserving : session.phase = .serving :=
    (h.ending connection hconnection).resolve_right fun hending => halive hending.1
  have hcurrent : session.current = writing connection := by
    simp [current, hserving, Phase.send, hconnection]
  obtain ⟨made, wire, hlog, hrun, hsees⟩ := h.sends
  rw [hcurrent] at hlog hrun
  refine h.connects hconnection hclosed (fun hended => absurd hended halive) _
    ⟨made ++ (writing connection).toList, wire, ?_, ?_, hsees⟩
  · rw [hserving]
    exact logged_calls hlog
  · have hgreeted : wire = .greeted := by
      rw [hserving] at hsees
      cases wire <;> first
        | rfl
        | exact hsees.elim
    rw [hserving]
    change Machine.run Wire.admit .fresh ((made ++ _) ++ (writing next).toList) = _
    cases hframe : next.phase.frame with
    | none => simpa [writing, hframe] using hrun
    | some frame =>
        have hbegun : (writing next).toList = [.frame frame] := by simp [writing, hframe]
        rw [hbegun]
        exact run_begun hrun (by rw [hgreeted]; rfl)

-- What happens to the subscription does not show on the wire.
theorem Keeps.subscribes (h : session.Keeps) (change : Connection → Connection)
    (hphase : ∀ connection, (change connection).phase = connection.phase)
    (hclosed : ∀ connection, (change connection).subscription.closed =
      connection.subscription.closed) :
    Keeps { session with connection := session.connection.map change } := by
  cases hconnection : session.connection with
  | none =>
      have hsame : { session with connection := Option.map change none } = session := by
        rw [Option.map_none, ← hconnection]
      exact hsame ▸ h
  | some connection =>
      have hcurrent : session.current = (session.phase.send <|> writing (change connection)) := by
        rw [current, hconnection, Option.bind_some, writing, writing, hphase]
      refine h.connects hconnection (hclosed connection) (fun hended => ?_) session.log ?_
      · rw [hphase, hended]
      · rw [← hcurrent]
        exact h.sends

theorem Keeps.publish (h : session.Keeps) (event : DomainEvent) :
    (session.publish event).Keeps := by
  refine h.subscribes _ (fun connection => ?_) fun connection => ?_
  · unfold Connection.publish
    split <;> rfl
  · unfold Connection.publish Events.Subscription.offer
    split
    · rfl
    · next hopen => simp [hopen]

-- To a connection that does not listen an event makes no difference.
theorem Keeps.publish_eq (h : session.Keeps)
    (hreader : session.reader ≠ .listening) (event : DomainEvent) :
    session.publish event = session := by
  have hconnection : session.connection.map (fun connection => connection.publish event) =
      session.connection := by
    cases hsome : session.connection with
    | none => rfl
    | some connection =>
        have hclosed : connection.subscription.closed = true := by
          by_contra hopen
          exact hreader (h.listening.mpr ⟨connection, hsome, Bool.eq_false_iff.mpr hopen⟩)
        rw [Option.map_some, Connection.publish, if_pos hclosed]
  unfold Session.publish
  rw [hconnection]

theorem close_closed {ε : Type} (subscription : Events.Subscription ε) :
    subscription.close.closed = true := by
  unfold Events.Subscription.close
  split
  · assumption
  · rfl

theorem Keeps.serving_of_listening (h : session.Keeps) (hlistening : session.reader = .listening) :
    session.phase = .serving := by
  obtain ⟨connection, hconnection, -⟩ := h.listening.mp hlistening
  exact (h.ending connection hconnection).resolve_right fun hending => hending.2 hlistening

-- The reader ends, and with it the subscription.
theorem Keeps.stops (h : session.Keeps) (hlistening : session.reader = .listening)
    {reader : Reader} (hreader : reader = .ended ∨ reader = .raised) (budget : RateLimiter)
    {closeCode : Option Nat} (hcode : ∀ code, closeCode = some code →
      code = CLOSE_POLICY_VIOLATION ∧ reader = .ended) :
    (stopReading { session with budget, closeCode } reader).Keeps := by
  obtain ⟨connection, hconnection, -⟩ := h.listening.mp hlistening
  have hserving := h.serving_of_listening hlistening
  have hother : reader ≠ .listening ∧ reader ≠ .idle := by
    obtain rfl | rfl := hreader <;> exact ⟨by decide, by decide⟩
  constructor
  case sends =>
    have hcurrent : (stopReading { session with budget, closeCode } reader).current =
        session.current := by
      simp [current, stopReading, hconnection, writing]
    rw [hcurrent]
    exact h.sends
  case starting =>
    intro hstarting
    have hphase : session.phase.Starting := hstarting
    rw [hserving] at hphase
    exact hphase.elim
  case serving =>
    exact fun _ => ⟨by simp [stopReading, hconnection], (h.serving hserving).2⟩
  case ending => exact fun _ _ => .inl hserving
  case listening =>
    simp only [stopReading, hconnection, Option.map_some, Option.some.injEq, exists_eq_left',
      close_closed, Bool.true_eq_false, iff_false]
    exact hother.1
  case code => exact hcode
  case closing => exact fun code hclosing => (by cases hserving.symm.trans hclosing)
  case refused => exact fun hnone => (by cases (h.refused hnone).1.symm.trans hconnection)

theorem Keeps.receives (h : session.Keeps) (hlistening : session.reader = .listening)
    (raw : String) (now : Time) : (session.receives loads raw now).Keeps := by
  have hnone : ∀ code, session.closeCode ≠ some code := fun code hcode => by
    cases hlistening.symm.trans (h.code code hcode).2
  unfold Session.receives
  dsimp only
  split
  · exact ⟨h.sends, h.starting, h.serving, h.ending, h.listening, h.code, h.closing, h.refused⟩
  · exact h.stops hlistening (.inl rfl) _ fun code hcode => ⟨(Option.some.inj hcode).symm, rfl⟩
  · exact h.stops hlistening (.inr rfl) _ fun code hcode => absurd hcode (hnone code)

theorem keeps_begin (reply : Api.Reply) (websocketRateLimitPerMinute : Nat) :
    (begin reply websocketRateLimitPerMinute).Keeps := by
  cases reply with
  | opened principal subprotocol =>
      refine ⟨⟨[], .accepted, rfl, rfl, trivial⟩, fun _ => ⟨rfl, rfl⟩, ?_, ?_, ?_, ?_, ?_, ?_⟩ <;>
        simp [begin]
  | refused | admitted | issued =>
      refine ⟨⟨[], .closed, rfl, rfl, trivial⟩, fun _ => ⟨rfl, rfl⟩, ?_, ?_, ?_, ?_, ?_, ?_⟩ <;>
        simp [begin]

-- The close is over.
theorem Keeps.depart (h : session.Keeps) {code : Nat} (hphase : session.phase = .closing code) :
    (session.goTo .returned).Keeps := by
  have hcurrent : session.current = session.phase.send := by rw [current, hphase]; rfl
  have hnow : (session.goTo .returned).current = none := by
    change (none <|> session.connection.bind writing) = none
    cases hconnection : session.connection with
    | none => rfl
    | some connection =>
        rcases h.ending connection hconnection with hserving | ⟨hended, -⟩
        · cases hphase.symm.trans hserving
        · simp [writing, hended, Events.Phase.frame]
  constructor
  case sends =>
    rw [hnow]
    exact h.sends_goTo hcurrent (fun _ _ => trivial) fun _ _ hsend => (by cases hsend)
  case starting => exact fun hstarting => hstarting.elim
  case serving => exact fun hserving => (by cases hserving)
  case ending =>
    intro connection hconnection
    rcases h.ending connection hconnection with hserving | hending
    · cases hphase.symm.trans hserving
    · exact .inr hending
  case listening => exact h.listening
  case code => exact h.code
  case closing => exact fun code hclosing => (by cases hclosing)
  case refused => exact fun hnone => ⟨(h.refused hnone).1, .inr rfl⟩

theorem Keeps.returns (h : session.Keeps) (hstep : session.returns queueSize = some after) :
    after.Keeps := by
  unfold Session.returns at hstep
  split at hstep
  · next hphase =>
    obtain rfl := Option.some.inj hstep
    exact h.leave (by simp [hphase, Phase.Starting])
  · next code hphase =>
    obtain rfl := Option.some.inj hstep
    exact h.depart hphase
  · next hphase =>
    obtain rfl := Option.some.inj hstep
    exact h.greet hphase
  · next hphase =>
    obtain rfl := Option.some.inj hstep
    exact h.serve hphase queueSize
  · cases hstep
  · cases hstep

theorem Keeps.raises (h : session.Keeps) (hstep : session.raises = some after) : after.Keeps := by
  unfold Session.raises at hstep
  split at hstep
  · cases hstep
  · cases hstep
  · next hserving hreturned =>
    obtain rfl := Option.some.inj hstep
    cases hphase : session.phase with
    | rejecting | accepting | greeting => exact h.leave (by simp [hphase, Phase.Starting])
    | serving => exact absurd hphase hserving
    | closing code => exact h.depart hphase
    | returned => exact absurd hphase hreturned

theorem Keeps.joined (h : session.Keeps) (hphase : session.phase = .serving)
    (hended : session.writerEnded = true) (hreader : session.reader ≠ .listening) :
    session.joined.Keeps := by
  unfold Session.joined
  split
  · exact h.finish hphase hended hreader (.inl rfl)
  · split
    · next code hcode => exact h.finish hphase hended hreader (.inr ⟨code, rfl, hcode⟩)
    · exact h.finish hphase hended hreader (.inl rfl)

theorem Keeps.step (h : session.Keeps) {label : Label}
    (hstep : session.step queueSize loads label = some after) : after.Keeps := by
  cases label with
  | returns => exact h.returns hstep
  | raises => exact h.raises hstep
  | publish event =>
      obtain rfl := Option.some.inj hstep
      exact h.publish event
  | receives raw now =>
      obtain ⟨hlistening, hafter⟩ := Option.ite_none_right_eq_some.mp hstep
      obtain rfl := Option.some.inj hafter
      exact h.receives hlistening raw now
  | disconnects =>
      obtain ⟨hlistening, hafter⟩ := Option.ite_none_right_eq_some.mp hstep
      obtain rfl := Option.some.inj hafter
      refine h.stops hlistening (.inl rfl) session.budget fun code hcode => ?_
      cases hlistening.symm.trans (h.code code hcode).2
  | fails =>
      obtain ⟨hlistening, hafter⟩ := Option.ite_none_right_eq_some.mp hstep
      obtain rfl := Option.some.inj hafter
      refine h.stops hlistening (.inr rfl) session.budget fun code hcode => ?_
      cases hlistening.symm.trans (h.code code hcode).2
  | joined =>
      simp only [Session.step] at hstep
      split at hstep
      · next hphase =>
        obtain ⟨⟨hended, hreader⟩, hafter⟩ := Option.ite_none_right_eq_some.mp hstep
        obtain rfl := Option.some.inj hafter
        exact h.joined hphase hended hreader
      · cases hstep
  | take => exact h.writes .take rfl hstep
  | timeout => exact h.writes .timeout rfl hstep
  | delivered => exact h.writes .delivered rfl hstep
  | gone written => exact h.writes (.gone written) rfl hstep

end Session

end Homeflow.Ws
