import Homeflow.Lib.History
import Homeflow.Ws.Wire

-- When the server closes a stream that it has accepted.
namespace Homeflow.Ws

-- A Ping or a Pong.
def Welcome (loads : String → Loaded) (raw : String) : Prop :=
  raw.length ≤ MAX_INBOUND_BYTES ∧ ∃ members type, loads raw = .value (.obj members) ∧
    Json.member? members "type" = some (.str type) ∧ type ∈ ACCEPTED_INBOUND_TYPES

-- The reader itself fails on the text: json.loads does, or the lookup of its type.
def Baffling (loads : String → Loaded) (raw : String) : Prop :=
  raw.length ≤ MAX_INBOUND_BYTES ∧ (loads raw = .raised ∨
    ∃ members type, loads raw = .value (.obj members) ∧
      Json.member? members "type" = some type ∧ type.hashable = false)

theorem judge_eq (loads : String → Loaded) (raw : String) :
    (judge loads raw = .goOn ↔ Welcome loads raw) ∧
      (judge loads raw = .raises ↔ Baffling loads raw) := by
  unfold judge Welcome Baffling
  split
  · next hlong => simp [Nat.not_le.mpr hlong]
  · next hshort =>
    split
    · next hloads => simp [hloads]
    · next hloads => simpa [hloads] using hshort
    · next members hloads =>
      split
      · next type htype =>
        split
        · next hknown => simpa [hloads, htype, hknown, Json.hashable] using hshort
        · next hunknown => simp [hloads, htype, hunknown, Json.hashable]
      · next type hother htype =>
        cases type <;> simp_all [Json.hashable]
      · next htype => simp [hloads, htype]
    · next value hother hloads =>
      cases value <;> simp_all

-- The reader is given a text that is not let pass.
def Label.Violates (loads : String → Loaded) (session : Session) : Label → Prop
  | .receives raw now =>
      (session.budget.allow now "inbound").1 = false ∨ ¬Welcome loads raw ∧ ¬Baffling loads raw
  | _ => False

-- The reader fails on a text that its budget has room for, or on receiving one.
def Label.Breaks (loads : String → Loaded) (session : Session) : Label → Prop
  | .receives raw now => (session.budget.allow now "inbound").1 = true ∧ Baffling loads raw
  | .fails => True
  | _ => False

section Reading

variable (queueSize : Nat) (loads : String → Loaded) (start : Session) (labels : List Label)

-- One of the texts that have been received is not let pass.
def Violated : Prop :=
  History.Happens (fun before label => ∃ earlier,
    Machine.run (Session.step queueSize loads) start before = some earlier ∧
    label.Violates loads earlier) labels

-- The reader has failed.
def Broken : Prop :=
  History.Happens (fun before label => ∃ earlier,
    Machine.run (Session.step queueSize loads) start before = some earlier ∧
    label.Breaks loads earlier) labels

end Reading

namespace Session

-- A close goes out for a close code alone, and for every one by the time the handler returns.
structure Closes (session : Session) : Prop where
  coded : session.principal.isSome → ∀ code, .begun (.close code) ∈ session.log →
    session.closeCode = some code
  done : session.phase = .returned → ∀ code, session.closeCode = some code →
    .begun (.close code) ∈ session.log

variable {session after : Session} {queueSize : Nat} {loads : String → Loaded}

theorem mem_logged {finished begun : Option Send} {send : Send} :
    .begun send ∈ session.logged finished begun ↔
      .begun send ∈ session.log ∨ begun = some send := by
  cases finished <;> cases begun <;> simp [logged, eq_comm]

-- A step that begins no close, before the handler has returned.
theorem Closes.of_log (h : session.Closes) (hprincipal : after.principal = session.principal)
    (hcode : after.closeCode = session.closeCode) {finished begun : Option Send}
    (hlog : after.log = session.logged finished begun) (hbegun : ∀ code, begun ≠ some (.close code))
    (hphase : after.phase = .returned → ∀ code, session.closeCode ≠ some code) : after.Closes where
  coded hsome code hmem := by
    rw [hlog, mem_logged] at hmem
    rw [hcode]
    exact h.coded (hprincipal ▸ hsome) code (hmem.resolve_right (hbegun code))
  done hreturned code hsome := absurd (hcode ▸ hsome) (hphase hreturned code)

theorem Keeps.uncoded (h : session.Keeps) (hreader : session.reader ≠ .ended) (code : Nat) :
    session.closeCode ≠ some code :=
  fun hcode => hreader (h.code code hcode).2

theorem Keeps.uncoded_starting (h : session.Keeps) (hphase : session.phase.Starting) (code : Nat) :
    session.closeCode ≠ some code :=
  h.uncoded (by rw [(h.starting hphase).2]; decide) code

theorem Closes.leave (h : session.Closes) (hkeeps : session.Keeps)
    (hphase : session.phase.Starting) : (session.goTo .returned).Closes :=
  h.of_log rfl rfl rfl (fun _ => by simp [Phase.send]) fun _ => hkeeps.uncoded_starting hphase

theorem Closes.depart (h : session.Closes) (hkeeps : session.Keeps) {code : Nat}
    (hphase : session.phase = .closing code) : (session.goTo .returned).Closes := by
  refine ⟨fun hsome other hmem => ?_, fun _ other hcode => ?_⟩
  · exact h.coded hsome other ((mem_logged.mp hmem).resolve_right (by simp [Phase.send]))
  · obtain rfl := Option.some.inj ((hkeeps.closing code hphase).symm.trans hcode)
    obtain ⟨made, wire, hlog, -, -⟩ := hkeeps.sends
    have hcurrent : session.current = some (.close code) := by rw [current, hphase]; rfl
    refine mem_logged.mpr (.inl ?_)
    rw [hlog, hcurrent]
    simp

theorem Closes.returns (h : session.Closes) (hkeeps : session.Keeps)
    (hstep : session.returns queueSize = some after) : after.Closes := by
  unfold Session.returns at hstep
  split at hstep
  · next hphase =>
    obtain rfl := Option.some.inj hstep
    exact h.leave hkeeps (by simp [hphase, Phase.Starting])
  · next code hphase =>
    obtain rfl := Option.some.inj hstep
    exact h.depart hkeeps hphase
  · obtain rfl := Option.some.inj hstep
    exact h.of_log rfl rfl rfl (fun _ => by simp [Phase.send]) fun hreturned => by cases hreturned
  · obtain rfl := Option.some.inj hstep
    exact h.of_log rfl rfl rfl (fun _ => by simp [Phase.send]) fun hreturned => by cases hreturned
  · cases hstep
  · cases hstep

theorem Closes.raises (h : session.Closes) (hkeeps : session.Keeps)
    (hstep : session.raises = some after) : after.Closes := by
  unfold Session.raises at hstep
  split at hstep
  · cases hstep
  · cases hstep
  · next hserving hreturned =>
    obtain rfl := Option.some.inj hstep
    cases hphase : session.phase with
    | rejecting | accepting | greeting => exact h.leave hkeeps (by simp [hphase, Phase.Starting])
    | serving => exact absurd hphase hserving
    | closing code => exact h.depart hkeeps hphase
    | returned => exact absurd hphase hreturned

theorem Closes.joined (h : session.Closes) (hkeeps : session.Keeps) : session.joined.Closes := by
  unfold Session.joined
  split
  · next hraised =>
    exact h.of_log rfl rfl rfl (fun _ => by simp [Phase.send]) fun _ =>
      hkeeps.uncoded (by rw [hraised]; decide)
  · split
    · next code hcode =>
      refine ⟨fun hsome other hmem => ?_, fun hreturned => by cases hreturned⟩
      rcases mem_logged.mp hmem with hold | hnew
      · exact h.coded hsome other hold
      · obtain rfl := Send.close.inj (Option.some.inj hnew)
        exact hcode
    · next hnone =>
      exact h.of_log rfl rfl rfl (fun _ => by simp [Phase.send]) fun _ code hcode => by
        cases hnone.symm.trans hcode

-- The reader ends before any close has begun.
theorem Closes.stops (h : session.Closes) (hkeeps : session.Keeps)
    (hlistening : session.reader = .listening) (reader : Reader) (budget : RateLimiter)
    (closeCode : Option Nat) :
    (stopReading { session with budget, closeCode } reader).Closes := by
  have hnone := hkeeps.uncoded (by rw [hlistening]; decide)
  refine ⟨fun hsome code hmem => absurd (h.coded hsome code hmem) (hnone code), fun hreturned => ?_⟩
  have hserving : session.phase = .serving := hkeeps.serving_of_listening hlistening
  cases hserving.symm.trans hreturned

theorem Closes.receives (h : session.Closes) (hkeeps : session.Keeps)
    (hlistening : session.reader = .listening) (raw : String) (now : Time) :
    (session.receives loads raw now).Closes := by
  unfold Session.receives
  dsimp only
  split
  · exact ⟨h.coded, h.done⟩
  · exact h.stops hkeeps hlistening _ _ _
  · exact h.stops hkeeps hlistening _ _ _

theorem closes_begin (reply : Api.Reply) (websocketRateLimitPerMinute : Nat) :
    (begin reply websocketRateLimitPerMinute).Closes := by
  cases reply <;> constructor <;> simp [begin]

theorem Closes.writes (h : session.Closes) (hkeeps : session.Keeps) (label : Label)
    {line : Events.Label} (hlabel : label.writes = some line)
    (hstep : session.writes line = some after) : after.Closes := by
  obtain ⟨connection, hconnection, hnext⟩ := Option.bind_eq_some_iff.mp hstep
  obtain ⟨next, hmove, rfl⟩ := Option.map_eq_some_iff.mp hnext
  refine h.of_log rfl rfl rfl (fun code => ?_) fun hreturned => ?_
  · unfold writing
    cases next.phase.frame <;> simp
  · -- A writer that goes on is one of a handler that has not returned.
    rcases hkeeps.ending connection hconnection with hserving | ⟨hended, -⟩
    · cases hserving.symm.trans hreturned
    · exact absurd hended (writer_step hlabel hmove).2

theorem Closes.step (h : session.Closes) (hkeeps : session.Keeps) {label : Label}
    (hstep : session.step queueSize loads label = some after) : after.Closes := by
  cases label with
  | returns => exact h.returns hkeeps hstep
  | raises => exact h.raises hkeeps hstep
  | publish event =>
      obtain rfl := Option.some.inj hstep
      exact ⟨h.coded, h.done⟩
  | receives raw now =>
      obtain ⟨hlistening, hafter⟩ := Option.ite_none_right_eq_some.mp hstep
      obtain rfl := Option.some.inj hafter
      exact h.receives hkeeps hlistening raw now
  | disconnects =>
      obtain ⟨hlistening, hafter⟩ := Option.ite_none_right_eq_some.mp hstep
      obtain rfl := Option.some.inj hafter
      exact h.stops hkeeps hlistening .ended session.budget session.closeCode
  | fails =>
      obtain ⟨hlistening, hafter⟩ := Option.ite_none_right_eq_some.mp hstep
      obtain rfl := Option.some.inj hafter
      exact h.stops hkeeps hlistening .raised session.budget session.closeCode
  | joined =>
      simp only [Session.step] at hstep
      split at hstep
      · obtain ⟨-, hafter⟩ := Option.ite_none_right_eq_some.mp hstep
        obtain rfl := Option.some.inj hafter
        exact h.joined hkeeps
      · cases hstep
  | take => exact h.writes hkeeps .take rfl hstep
  | timeout => exact h.writes hkeeps .timeout rfl hstep
  | delivered => exact h.writes hkeeps .delivered rfl hstep
  | gone written => exact h.writes hkeeps (.gone written) rfl hstep

-- Only a text that is not let pass sets the close code.
theorem closeCode_step {label : Label} (hstep : session.step queueSize loads label = some after) :
    (label.Violates loads session → after.closeCode = some CLOSE_POLICY_VIOLATION) ∧
      (¬label.Violates loads session → after.closeCode = session.closeCode) := by
  cases label with
  | receives raw now =>
      obtain ⟨-, hafter⟩ := Option.ite_none_right_eq_some.mp hstep
      obtain rfl := Option.some.inj hafter
      rcases hallow : session.budget.allow now "inbound" with ⟨allowed, budget⟩
      cases allowed with
      | false => simp [Session.receives, Label.Violates, hallow, stopReading]
      | true =>
          simp only [Label.Violates, hallow, ← (judge_eq loads raw).1, ← (judge_eq loads raw).2]
          cases hjudge : judge loads raw <;>
            simp [Session.receives, hallow, hjudge, stopReading]
  | returns =>
      refine ⟨False.elim, fun _ => ?_⟩
      simp only [Session.step, Session.returns] at hstep
      split at hstep <;> cases hstep <;> rfl
  | raises =>
      refine ⟨False.elim, fun _ => ?_⟩
      simp only [Session.step, Session.raises] at hstep
      split at hstep <;> cases hstep
      rfl
  | publish event =>
      obtain rfl := Option.some.inj hstep
      exact ⟨False.elim, fun _ => rfl⟩
  | disconnects | fails =>
      obtain ⟨-, hafter⟩ := Option.ite_none_right_eq_some.mp hstep
      obtain rfl := Option.some.inj hafter
      exact ⟨False.elim, fun _ => rfl⟩
  | joined =>
      refine ⟨False.elim, fun _ => ?_⟩
      simp only [Session.step] at hstep
      split at hstep
      · obtain ⟨-, hafter⟩ := Option.ite_none_right_eq_some.mp hstep
        obtain rfl := Option.some.inj hafter
        unfold Session.joined
        split
        · rfl
        · split <;> rfl
      · cases hstep
  | take | timeout | delivered | gone =>
      obtain ⟨connection, -, hnext⟩ := Option.bind_eq_some_iff.mp hstep
      obtain ⟨next, -, rfl⟩ := Option.map_eq_some_iff.mp hnext
      exact ⟨False.elim, fun _ => rfl⟩

-- A reader that has failed stays so.
theorem reader_step {label : Label} (hkeeps : session.Keeps)
    (hstep : session.step queueSize loads label = some after)
    (hbroken : label.Breaks loads session ∨ session.reader = .raised) :
    after.reader = .raised := by
  cases label with
  | receives raw now =>
      obtain ⟨hlistening, hafter⟩ := Option.ite_none_right_eq_some.mp hstep
      obtain rfl := Option.some.inj hafter
      obtain ⟨hallow, hbaffling⟩ := hbroken.resolve_right (by rw [hlistening]; decide)
      have hjudge := (judge_eq loads raw).2.mpr hbaffling
      simp [Session.receives, hallow, hjudge, stopReading]
  | fails =>
      obtain ⟨-, hafter⟩ := Option.ite_none_right_eq_some.mp hstep
      obtain rfl := Option.some.inj hafter
      rfl
  | disconnects =>
      obtain ⟨hlistening, -⟩ := Option.ite_none_right_eq_some.mp hstep
      cases hlistening.symm.trans (hbroken.resolve_left id)
  | returns =>
      have hraised := hbroken.resolve_left id
      simp only [Session.step, Session.returns] at hstep
      split at hstep
      · cases hstep; exact hraised
      · cases hstep; exact hraised
      · cases hstep; exact hraised
      · next hphase =>
        have hidle := (hkeeps.starting (by simp [hphase, Phase.Starting])).2
        cases hidle.symm.trans hraised
      · cases hstep
      · cases hstep
  | raises =>
      simp only [Session.step, Session.raises] at hstep
      split at hstep <;> cases hstep
      exact hbroken.resolve_left id
  | publish event =>
      obtain rfl := Option.some.inj hstep
      exact hbroken.resolve_left id
  | joined =>
      have hraised := hbroken.resolve_left id
      simp only [Session.step] at hstep
      split at hstep
      · obtain ⟨-, hafter⟩ := Option.ite_none_right_eq_some.mp hstep
        obtain rfl := Option.some.inj hafter
        rw [Session.joined, if_pos hraised]
        exact hraised
      · cases hstep
  | take | timeout | delivered | gone =>
      obtain ⟨connection, -, hnext⟩ := Option.bind_eq_some_iff.mp hstep
      obtain ⟨next, -, rfl⟩ := Option.map_eq_some_iff.mp hnext
      exact hbroken.resolve_left id

-- All that can be said of one connection, whatever its peer and its tasks do in whatever order.
theorem run_keeps {start : Session} {labels : List Label} (hkeeps : start.Keeps)
    (hcloses : start.Closes) (hcode : start.closeCode = none)
    (hrun : Machine.run (Session.step queueSize loads) start labels = some session) :
    session.Keeps ∧ session.Closes ∧
      (session.closeCode.isSome ↔ Violated queueSize loads start labels) ∧
      (Broken queueSize loads start labels → session.reader = .raised) := by
  unfold Violated Broken
  induction labels using List.reverseRecOn generalizing session with
  | nil =>
      obtain rfl := Option.some.inj hrun
      exact ⟨hkeeps, hcloses, by simp [hcode, History.not_happens_nil],
        fun hbroken => absurd hbroken History.not_happens_nil⟩
  | append_singleton labels label ih =>
      obtain ⟨earlier, hearlier, hstep⟩ := Machine.run_concat.mp hrun
      obtain ⟨hbefore, hclosed, hviolated, hbroken⟩ := ih hearlier
      have hnow : ∀ what : Session → Prop,
          (∃ found, Machine.run (Session.step queueSize loads) start labels = some found ∧
            what found) ↔ what earlier := by
        simp [hearlier]
      refine ⟨hbefore.step hstep, hclosed.step hbefore hstep, ?_, fun hbreaks => ?_⟩
      · obtain ⟨hsets, hleaves⟩ := closeCode_step hstep
        rw [History.happens_concat, ← hviolated, hnow]
        by_cases hviolates : label.Violates loads earlier
        · simp [hsets hviolates, hviolates]
        · simp [hleaves hviolates, hviolates]
      · rw [History.happens_concat, hnow] at hbreaks
        exact reader_step hbefore hstep (hbreaks.symm.imp_right hbroken)

-- The log only grows, and whom a session is for does not change.
theorem grows_step {label : Label} (hstep : session.step queueSize loads label = some after) :
    session.log <+: after.log ∧ after.principal = session.principal := by
  have hlogged : ∀ finished begun, session.log <+: session.logged finished begun :=
    fun finished begun => ⟨_, (List.append_assoc _ _ _).symm⟩
  cases label with
  | returns =>
      simp only [Session.step, Session.returns] at hstep
      split at hstep <;> cases hstep <;> exact ⟨hlogged _ _, rfl⟩
  | raises =>
      simp only [Session.step, Session.raises] at hstep
      split at hstep <;> cases hstep
      exact ⟨hlogged _ _, rfl⟩
  | publish event =>
      obtain rfl := Option.some.inj hstep
      exact ⟨List.prefix_rfl, rfl⟩
  | receives raw now =>
      obtain ⟨-, hafter⟩ := Option.ite_none_right_eq_some.mp hstep
      obtain rfl := Option.some.inj hafter
      unfold Session.receives
      dsimp only
      split <;> exact ⟨List.prefix_rfl, rfl⟩
  | disconnects | fails =>
      obtain ⟨-, hafter⟩ := Option.ite_none_right_eq_some.mp hstep
      obtain rfl := Option.some.inj hafter
      exact ⟨List.prefix_rfl, rfl⟩
  | joined =>
      simp only [Session.step] at hstep
      split at hstep
      · obtain ⟨-, hafter⟩ := Option.ite_none_right_eq_some.mp hstep
        obtain rfl := Option.some.inj hafter
        unfold Session.joined
        split
        · exact ⟨hlogged _ _, rfl⟩
        · split <;> exact ⟨hlogged _ _, rfl⟩
      · cases hstep
  | take | timeout | delivered | gone =>
      obtain ⟨connection, -, hnext⟩ := Option.bind_eq_some_iff.mp hstep
      obtain ⟨next, -, rfl⟩ := Option.map_eq_some_iff.mp hnext
      exact ⟨hlogged _ _, rfl⟩

theorem grows_run {start : Session} {labels : List Label}
    (hrun : Machine.run (Session.step queueSize loads) start labels = some session) :
    start.log <+: session.log ∧ session.principal = start.principal := by
  induction labels using List.reverseRecOn generalizing session with
  | nil =>
      obtain rfl := Option.some.inj hrun
      exact ⟨List.prefix_rfl, rfl⟩
  | append_singleton labels label ih =>
      obtain ⟨earlier, hearlier, hstep⟩ := Machine.run_concat.mp hrun
      obtain ⟨hlog, hprincipal⟩ := ih hearlier
      obtain ⟨hgrows, hsame⟩ := grows_step hstep
      exact ⟨hlog.trans hgrows, hsame.trans hprincipal⟩

end Session

-- How a handshake is answered on the wire.
def opening : Api.Reply → Send
  | .opened _ subprotocol => .accept subprotocol
  | .refused _ | .admitted _ | .issued _ _ => .close CLOSE_POLICY_VIOLATION

section Runs

variable {queueSize websocketRateLimitPerMinute : Nat} {loads : String → Loaded}
  {reply : Api.Reply} {session : Session} {labels : List Label}

theorem begin_log (reply : Api.Reply) (websocketRateLimitPerMinute : Nat) :
    (Session.begin reply websocketRateLimitPerMinute).log = [.begun (opening reply)] := by
  cases reply <;> rfl

-- Nothing comes after a close.
theorem admitted_close {code : Nat} {rest : List Send} (h : Admitted (.close code :: rest)) :
    rest = [] := by
  obtain ⟨wire, hrun⟩ := h
  obtain ⟨next, hnext, hrest⟩ := Option.bind_eq_some_iff.mp hrun
  obtain ⟨-, hclosed⟩ := Option.ite_none_right_eq_some.mp hnext
  obtain rfl := Option.some.inj hclosed
  cases rest with
  | nil => rfl
  | cons send rest => cases hrest

theorem mem_calls {made : List Send} {current : Option Send} {send : Send} :
    .begun send ∈ made.flatMap call ++ current.toList.map .begun ↔
      send ∈ made ++ current.toList := by
  simp [call]

theorem head_calls {made : List Send} {current : Option Send} {first : Send} {log : List Entry}
    (hlog : log = made.flatMap call ++ current.toList.map .begun) (hhead : [.begun first] <+: log) :
    (made ++ current.toList).head? = some first := by
  obtain ⟨rest, rfl⟩ := hhead
  cases made with
  | nil => cases current <;> simp_all
  | cons send made => simp_all [call]

-- Whatever the peer sends, and however the tasks of the handler take turns: the writes to the
-- socket come one after the other, in an order that the protocol admits; one who is refused sees
-- a close and nothing else; one who is let in is sent a close only if, and by the time that the
-- handler returns if, it has sent a text that is not let pass; and where the reader itself has
-- failed, no text has been refused and no close is sent.
theorem streams_keep_to_the_protocol
    (hrun : Machine.run (Session.step queueSize loads) (.begin reply websocketRateLimitPerMinute)
      labels = some session) :
    (∃ made, session.log = made.flatMap call ++ session.current.toList.map .begun ∧
      Admitted (made ++ session.current.toList) ∧
      (made ++ session.current.toList).head? = some (opening reply)) ∧
    (∀ principal subprotocol, reply = .opened principal subprotocol →
      (∀ code, .begun (.close code) ∈ session.log → code = CLOSE_POLICY_VIOLATION ∧
        Violated queueSize loads (.begin reply websocketRateLimitPerMinute) labels) ∧
      (session.phase = .returned →
        Violated queueSize loads (.begin reply websocketRateLimitPerMinute) labels →
        .begun (.close CLOSE_POLICY_VIOLATION) ∈ session.log) ∧
      (Broken queueSize loads (.begin reply websocketRateLimitPerMinute) labels →
        session.reader = .raised ∧
          ¬Violated queueSize loads (.begin reply websocketRateLimitPerMinute) labels ∧
          ∀ code, .begun (.close code) ∉ session.log)) ∧
    ((∀ principal subprotocol, reply ≠ .opened principal subprotocol) →
      ∀ send, .begun send ∈ session.log → send = .close CLOSE_POLICY_VIOLATION) := by
  obtain ⟨hkeeps, hcloses, hcode, hbroken⟩ := Session.run_keeps (Session.keeps_begin _ _)
    (Session.closes_begin _ _) (by cases reply <;> rfl) hrun
  obtain ⟨hgrown, hprincipal⟩ := Session.grows_run hrun
  obtain ⟨made, wire, hlog, hadmitted, -⟩ := hkeeps.sends
  have hhead := head_calls hlog (begin_log reply websocketRateLimitPerMinute ▸ hgrown)
  refine ⟨⟨made, hlog, ⟨wire, hadmitted⟩, hhead⟩, ?_, fun hrefused send hsend => ?_⟩
  · rintro principal subprotocol rfl
    have hsome : session.principal.isSome := by rw [hprincipal]; rfl
    refine ⟨fun code hclose => ?_, fun hreturned hviolated => ?_, fun hbreaks => ?_⟩
    · have hset := hcloses.coded hsome code hclose
      exact ⟨(hkeeps.code code hset).1, hcode.mp (by rw [hset]; rfl)⟩
    · obtain ⟨code, hset⟩ := Option.isSome_iff_exists.mp (hcode.mpr hviolated)
      obtain ⟨rfl, -⟩ := hkeeps.code code hset
      exact hcloses.done hreturned _ hset
    · have hraised := hbroken hbreaks
      have hnone := hkeeps.uncoded (by rw [hraised]; decide)
      refine ⟨hraised, fun hviolated => ?_, fun code hclose => ?_⟩
      · obtain ⟨code, hset⟩ := Option.isSome_iff_exists.mp (hcode.mpr hviolated)
        exact hnone code hset
      · exact hnone code (hcloses.coded hsome code hclose)
  · have hopening : opening reply = .close CLOSE_POLICY_VIOLATION := by
      cases reply with
      | opened principal subprotocol => exact absurd rfl (hrefused principal subprotocol)
      | refused | admitted | issued => rfl
    rw [hlog, mem_calls] at hsend
    obtain ⟨first, rest, hsends⟩ := List.exists_cons_of_ne_nil (List.ne_nil_of_mem hsend)
    rw [hsends] at hsend hhead hadmitted
    rw [List.head?_cons, hopening] at hhead
    obtain rfl := Option.some.inj hhead
    obtain rfl := admitted_close ⟨wire, hadmitted⟩
    exact List.mem_singleton.mp hsend

end Runs

-- A client that is let in, and then says what it may not, or what the reader fails on.
def rude : List Label :=
  [.returns, .returns, .receives "[]" 0, .take, .joined, .returns]

def puzzling : List Label :=
  [.returns, .returns, .receives "\x7b\"type\": []\x7d" 0, .take, .joined]

def loadsRude (raw : String) : Loaded :=
  if raw = "[]" then .value (.arr []) else .value (.obj [("type", .arr [])])

def greeted : Session := .begin (.opened ⟨1, 2, "Alice"⟩ none) 60

theorem streams_keep_to_the_protocol_rude :
    (∃ session, Machine.run (Session.step 1 loadsRude) greeted rude = some session ∧
      .begun (.close CLOSE_POLICY_VIOLATION) ∈ session.log ∧
      ∃ made, session.log = made.flatMap call ++ session.current.toList.map .begun ∧
        Admitted (made ++ session.current.toList)) ∧
    ∃ session, Machine.run (Session.step 1 loadsRude) greeted puzzling = some session ∧
      session.reader = .raised ∧ ∀ code, .begun (.close code) ∉ session.log := by
  constructor
  · obtain ⟨session, hrun, hreturned⟩ := (Option.any_eq_true _ _).mp
      (show (Machine.run (Session.step 1 loadsRude) greeted rude).any
        (fun session => session.phase matches .returned) = true by decide)
    obtain ⟨⟨made, hlog, hadmitted, -⟩, hclosing, -⟩ := streams_keep_to_the_protocol hrun
    refine ⟨session, hrun, ?_, made, hlog, hadmitted⟩
    refine (hclosing _ _ rfl).2.1 (by cases hphase : session.phase <;> simp_all) ?_
    refine ⟨[.returns, .returns], _, [.take, .joined, .returns], rfl, _, rfl, .inr ⟨?_, ?_⟩⟩
    · simp [Welcome, loadsRude]
    · simp [Baffling, loadsRude]
  · obtain ⟨session, hrun⟩ := Option.isSome_iff_exists.mp
      (show (Machine.run (Session.step 1 loadsRude) greeted puzzling).isSome = true by decide)
    obtain ⟨-, hclosing, -⟩ := streams_keep_to_the_protocol hrun
    obtain ⟨hraised, -, hnone⟩ := (hclosing _ _ rfl).2.2
      ⟨[.returns, .returns], _, [.take, .joined], rfl, _, rfl, by decide, by decide,
        .inr ⟨[("type", .arr [])], .arr [], by simp [loadsRude], rfl, rfl⟩⟩
    exact ⟨session, hrun, hraised, hnone⟩

end Homeflow.Ws
