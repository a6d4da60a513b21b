import Homeflow.Events.Forward
import Homeflow.Ws.Closing
import Homeflow.Ws.Hub

-- What the client of a stream is told of the events.
namespace Homeflow.Ws

open Events (Connection Publication)

variable {queueSize : Nat} {loads : String → Loaded} {session after : Session}

-- The event that a label brings to a session that listens.
def Label.hears (session : Session) : Label → List DomainEvent
  | .publish event => if session.reader = .listening then [event] else []
  | _ => []

-- The events that are published while the session listens.
def heardBy (queueSize : Nat) (loads : String → Loaded) : Session → List Label → List DomainEvent
  | _, [] => []
  | session, label :: rest =>
      label.hears session ++
        match session.step queueSize loads label with
        | some next => heardBy queueSize loads next rest
        | none => []

theorem heardBy_concat {start : Session} {labels : List Label}
    (hrun : Machine.run (Session.step queueSize loads) start labels = some session)
    (label : Label) :
    heardBy queueSize loads start (labels ++ [label]) =
      heardBy queueSize loads start labels ++ label.hears session := by
  induction labels generalizing start with
  | nil =>
      obtain rfl := Option.some.inj hrun
      simp only [List.nil_append, heardBy]
      split <;> simp
  | cons first rest ih =>
      obtain ⟨next, hnext, hrest⟩ := Option.bind_eq_some_iff.mp hrun
      simp only [List.cons_append, heardBy, hnext, ih hrest, List.append_assoc]

-- The connection of a session is a run of its own, and has been offered these events.
structure Session.Serves (queueSize : Nat) (heard : List DomainEvent) (session : Session) :
    Prop where
  idle : session.connection = none → heard = []
  runs : ∀ connection, session.connection = some connection →
    (∃ lines, Machine.run Connection.step (Events.subscribed queueSize) lines = some connection) ∧
      connection.published.map Publication.event = heard

namespace Session.Serves

variable {heard : List DomainEvent}

theorem of_connection (h : session.Serves queueSize heard)
    (hsame : after.connection = session.connection) : after.Serves queueSize heard where
  idle hnone := h.idle (hsame ▸ hnone)
  runs connection hsome := h.runs connection (hsame ▸ hsome)

-- A step of the connection.
theorem go (h : session.Serves queueSize heard) {connection next : Connection}
    (hconnection : session.connection = some connection) {line : Events.Label}
    (hstep : connection.step line = some next) (hafter : after.connection = some next)
    {more : List DomainEvent}
    (hheard : next.published.map Publication.event =
      connection.published.map Publication.event ++ more) :
    after.Serves queueSize (heard ++ more) := by
  obtain ⟨⟨lines, hrun⟩, hevents⟩ := h.runs connection hconnection
  refine ⟨fun hnone => ?_, fun found hfound => ?_⟩
  · cases hafter.symm.trans hnone
  · obtain rfl := Option.some.inj (hafter.symm.trans hfound)
    refine ⟨⟨lines ++ [line], Machine.run_concat.mpr ⟨connection, hrun, hstep⟩⟩, ?_⟩
    rw [hheard, hevents]

-- A step that brings no event.
theorem quiet (h : session.Serves queueSize heard) {connection next : Connection}
    (hconnection : session.connection = some connection) {line : Events.Label}
    (hstep : connection.step line = some next) (hafter : after.connection = some next)
    (hsame : next.published = connection.published) : after.Serves queueSize heard := by
  have hnone : next.published.map Publication.event =
      connection.published.map Publication.event ++ [] := by rw [hsame, List.append_nil]
  have hnow := h.go hconnection hstep hafter hnone
  rwa [List.append_nil] at hnow

theorem stops (h : session.Serves queueSize heard) (reader : Reader) (budget : RateLimiter)
    (closeCode : Option Nat) :
    (stopReading { session with budget, closeCode } reader).Serves queueSize heard := by
  rcases Option.eq_none_or_eq_some session.connection with hnone | ⟨connection, hconnection⟩
  · exact h.of_connection (by simp [stopReading, hnone])
  · have hstep : connection.step .close =
        some { connection with subscription := connection.subscription.close } := rfl
    refine h.quiet hconnection hstep ?_ rfl
    simp [stopReading, hconnection]

theorem receives (h : session.Serves queueSize heard) (raw : String) (now : Time) :
    (session.receives loads raw now).Serves queueSize heard := by
  unfold Session.receives
  dsimp only
  split
  · exact h.of_connection rfl
  · exact h.stops _ _ _
  · exact h.stops _ _ _

theorem published_line {line : Events.Label} {connection next : Connection} {label : Label}
    (hlabel : label.writes = some line) (hstep : connection.step line = some next) :
    next.published = connection.published := by
  cases label <;> cases hlabel
  case take =>
    simp only [Connection.step] at hstep
    split at hstep
    · unfold Connection.take at hstep
      split at hstep <;> cases hstep <;> rfl
    · cases hstep
  case timeout =>
    simp only [Connection.step] at hstep
    split at hstep <;> cases hstep
    rfl
  case delivered | gone =>
    obtain ⟨frame, -, rfl⟩ := Option.map_eq_some_iff.mp hstep
    rfl

theorem writes (h : session.Serves queueSize heard) (label : Label) {line : Events.Label}
    (hlabel : label.writes = some line) (hstep : session.writes line = some after) :
    after.Serves queueSize heard := by
  obtain ⟨connection, hconnection, hnext⟩ := Option.bind_eq_some_iff.mp hstep
  obtain ⟨next, hmove, rfl⟩ := Option.map_eq_some_iff.mp hnext
  exact h.quiet hconnection hmove rfl (published_line hlabel hmove)

theorem publish (h : session.Serves queueSize heard) (hkeeps : session.Keeps)
    (event : DomainEvent) :
    (session.publish event).Serves queueSize
      (heard ++ (Label.publish event).hears session) := by
  by_cases hlistening : session.reader = .listening
  · obtain ⟨connection, hconnection, hopen⟩ := hkeeps.listening.mp hlistening
    have hstep : connection.step (.publish event) = some (connection.publish event) := rfl
    refine h.go hconnection hstep ?_ ?_
    · simp [Session.publish, hconnection]
    · simp [Connection.publish, hopen, Label.hears, hlistening]
  · rw [hkeeps.publish_eq hlistening]
    simpa [Label.hears, hlistening] using h

theorem begins (reply : Api.Reply) (websocketRateLimitPerMinute : Nat) :
    (Session.begin reply websocketRateLimitPerMinute).Serves queueSize [] := by
  cases reply <;> exact ⟨fun _ => rfl, fun connection hsome => by cases hsome⟩

theorem returns (h : session.Serves queueSize heard) (hkeeps : session.Keeps)
    (hstep : session.returns queueSize = some after) : after.Serves queueSize heard := by
  unfold Session.returns at hstep
  split at hstep
  · obtain rfl := Option.some.inj hstep
    exact h.of_connection rfl
  · obtain rfl := Option.some.inj hstep
    exact h.of_connection rfl
  · obtain rfl := Option.some.inj hstep
    exact h.of_connection rfl
  · next hphase =>
    obtain rfl := Option.some.inj hstep
    -- Nothing was heard before the subscription.
    have hnone := (hkeeps.starting (by simp [hphase, Phase.Starting])).1
    refine ⟨fun hnever => ?_, fun connection hsome => ?_⟩
    · cases hnever
    · obtain rfl := Option.some.inj hsome
      exact ⟨⟨[], rfl⟩, (h.idle hnone).symm⟩
  · cases hstep
  · cases hstep

theorem step_quiet (h : session.Serves queueSize heard) (hkeeps : session.Keeps) {label : Label}
    (hquiet : label.published = false)
    (hstep : session.step queueSize loads label = some after) : after.Serves queueSize heard := by
  cases label with
  | publish event => cases hquiet
  | returns => exact h.returns hkeeps hstep
  | raises =>
      simp only [Session.step, Session.raises] at hstep
      split at hstep <;> cases hstep
      exact h.of_connection rfl
  | receives raw now =>
      obtain ⟨-, hafter⟩ := Option.ite_none_right_eq_some.mp hstep
      obtain rfl := Option.some.inj hafter
      exact h.receives raw now
  | disconnects | fails =>
      obtain ⟨-, hafter⟩ := Option.ite_none_right_eq_some.mp hstep
      obtain rfl := Option.some.inj hafter
      exact h.stops _ session.budget session.closeCode
  | joined =>
      simp only [Session.step] at hstep
      split at hstep
      · obtain ⟨-, hafter⟩ := Option.ite_none_right_eq_some.mp hstep
        obtain rfl := Option.some.inj hafter
        refine h.of_connection ?_
        unfold Session.joined
        split
        · rfl
        · split <;> rfl
      · cases hstep
  | take => exact h.writes .take rfl hstep
  | timeout => exact h.writes .timeout rfl hstep
  | delivered => exact h.writes .delivered rfl hstep
  | gone written => exact h.writes (.gone written) rfl hstep

theorem step (h : session.Serves queueSize heard) (hkeeps : session.Keeps) {label : Label}
    (hstep : session.step queueSize loads label = some after) :
    after.Serves queueSize (heard ++ label.hears session) := by
  cases hquiet : label.published with
  | true =>
      cases label <;> cases hquiet
      obtain rfl := Option.some.inj hstep
      exact h.publish hkeeps _
  | false =>
      have hnone : label.hears session = [] := by
        cases label <;> first
          | rfl
          | cases hquiet
      rw [hnone, List.append_nil]
      exact h.step_quiet hkeeps hquiet hstep

end Session.Serves

theorem serves_run {reply : Api.Reply} {websocketRateLimitPerMinute : Nat} {labels : List Label}
    (hrun : Machine.run (Session.step queueSize loads) (.begin reply websocketRateLimitPerMinute)
      labels = some session) :
    session.Keeps ∧ session.Serves queueSize
      (heardBy queueSize loads (.begin reply websocketRateLimitPerMinute) labels) := by
  induction labels using List.reverseRecOn generalizing session with
  | nil =>
      obtain rfl := Option.some.inj hrun
      exact ⟨Session.keeps_begin _ _, .begins _ _⟩
  | append_singleton labels label ih =>
      obtain ⟨earlier, hearlier, hstep⟩ := Machine.run_concat.mp hrun
      obtain ⟨hkeeps, hserves⟩ := ih hearlier
      rw [heardBy_concat hearlier]
      exact ⟨hkeeps.step hstep, hserves.step hkeeps hstep⟩

end Homeflow.Ws
