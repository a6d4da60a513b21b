import Homeflow.Api.Entry
import Homeflow.Events.Bus
import Homeflow.Lib.Json

-- One connection to the live stream: the coroutine of the handler and its two tasks.
namespace Homeflow.Ws

open Events (Connection Frame)

def MAX_INBOUND_BYTES : Nat := 4096
def ACCEPTED_INBOUND_TYPES : List String := ["Ping", "Pong"]
def CLOSE_POLICY_VIOLATION : Nat := 1008

-- What json.loads makes of a text.
inductive Loaded where
  | value (json : Json)
  | decodeError
  -- It raises something else, as where a text nests too deeply.
  | raised

inductive Verdict where
  | goOn
  | violation
  | raises
deriving DecidableEq

-- What the reader makes of a text that its budget has room for.
def judge (loads : String → Loaded) (raw : String) : Verdict :=
  if MAX_INBOUND_BYTES < raw.length then .violation
  else
    match loads raw with
    | .decodeError => .violation
    | .raised => .raises
    | .value (.obj members) =>
        match Json.member? members "type" with
        | some (.str type) => if type ∈ ACCEPTED_INBOUND_TYPES then .goOn else .violation
        -- A list or a dict cannot be looked up in a set.
        | some type => if type.hashable then .violation else .raises
        | none => .violation
    | .value _ => .violation

-- A call of the socket that writes to it.
inductive Send where
  | accept (subprotocol : Option String)
  | hello
  | frame (frame : Frame)
  | close (code : Nat)

inductive Entry where
  | begun (send : Send)
  -- The call has returned, or raised because the peer is gone.
  | finished (send : Send)

-- Where the handler is suspended.
inductive Phase where
  | rejecting
  | accepting (subprotocol : Option String)
  | greeting
  -- On its two tasks.
  | serving
  | closing (code : Nat)
  | returned

inductive Reader where
  | idle
  | listening
  | ended
  -- By an exception that is none of a peer that is gone.
  | raised
deriving DecidableEq

structure Session where
  -- Who the handshake was authenticated as.
  principal : Option Principal
  phase : Phase
  -- The subscription and the writer, once there are any.
  connection : Option Connection := none
  reader : Reader := .idle
  budget : RateLimiter
  closeCode : Option Nat := none
  log : List Entry

inductive Label where
  -- A call the handler awaits returns, or raises because the peer is gone.
  | returns
  | raises
  | publish (event : DomainEvent)
  -- The wait of the writer ends with an entry or with the heartbeat, or its send does.
  | take
  | timeout
  | delivered
  | gone (written : Bool)
  -- The reader is given a text, finds the peer gone, or fails otherwise.
  | receives (raw : String) (now : Time)
  | disconnects
  | fails
  -- Both tasks have ended.
  | joined

-- The step of the writer that a label stands for.
def Label.writes : Label → Option Events.Label
  | .take => some .take
  | .timeout => some .timeout
  | .delivered => some .delivered
  | .gone written => some (.gone written)
  | _ => none

-- The call that the handler is suspended on.
def Phase.send : Phase → Option Send
  | .rejecting => some (.close CLOSE_POLICY_VIOLATION)
  | .accepting subprotocol => some (.accept subprotocol)
  | .greeting => some .hello
  | .serving | .returned => none
  | .closing code => some (.close code)

def writing (connection : Connection) : Option Send := connection.phase.frame.map .frame

namespace Session

-- The handshake has been answered. The budget of the reader is its own.
def begin (reply : Api.Reply) (websocketRateLimitPerMinute : Nat) : Session :=
  match reply with
  | .opened principal subprotocol =>
      { principal := some principal, phase := .accepting subprotocol
        budget := .create websocketRateLimitPerMinute none 1024 RateLimiter.tracksSome_default
        log := [.begun (.accept subprotocol)] }
  | _ =>
      { principal := none, phase := .rejecting
        budget := .create websocketRateLimitPerMinute none 1024 RateLimiter.tracksSome_default
        log := [.begun (.close CLOSE_POLICY_VIOLATION)] }

def logged (session : Session) (finished begun : Option Send) : List Entry :=
  session.log ++ finished.toList.map .finished ++ begun.toList.map .begun

-- The handler goes on to another phase, by way of its calls of the socket.
def goTo (session : Session) (phase : Phase) : Session :=
  { session with phase, log := session.logged session.phase.send phase.send }

-- On the way out the reader closes the subscription.
def stopReading (session : Session) (reader : Reader) : Session :=
  { session with
    reader
    connection := session.connection.map fun connection =>
      { connection with subscription := connection.subscription.close } }

variable (queueSize : Nat) (loads : String → Loaded)

def returns (session : Session) : Option Session :=
  match session.phase with
  | .rejecting | .closing _ => some (session.goTo .returned)
  | .accepting _ => some (session.goTo .greeting)
  | .greeting => some { session.goTo .serving with
      connection := some (Events.subscribed queueSize), reader := .listening }
  | .serving | .returned => none

-- Without a peer there is nothing more to do.
def raises (session : Session) : Option Session :=
  match session.phase with
  | .serving | .returned => none
  | _ => some (session.goTo .returned)

def writes (session : Session) (label : Events.Label) : Option Session :=
  session.connection.bind fun connection =>
    (connection.step label).map fun next =>
      { session with
        connection := some next, log := session.logged (writing connection) (writing next) }

def receives (session : Session) (raw : String) (now : Time) : Session :=
  let (allowed, budget) := session.budget.allow now "inbound"
  match if allowed then judge loads raw else .violation with
  | .goOn => { session with budget }
  | .violation =>
      { session with budget, closeCode := some CLOSE_POLICY_VIOLATION }.stopReading .ended
  | .raises => { session with budget }.stopReading .raised

-- The outcomes of both are looked at before the code is.
def joined (session : Session) : Session :=
  if session.reader = .raised then session.goTo .returned
  else
    match session.closeCode with
    | some code => session.goTo (.closing code)
    | none => session.goTo .returned

def publish (session : Session) (event : DomainEvent) : Session :=
  { session with connection := session.connection.map fun connection => connection.publish event }

def writerEnded (session : Session) : Bool :=
  match session.connection with
  | some connection =>
      match connection.phase with
      | .ended => true
      | _ => false
  | none => false

def step (session : Session) : Label → Option Session
  | .returns => session.returns queueSize
  | .raises => session.raises
  | .publish event => some (session.publish event)
  | .receives raw now =>
      if session.reader = .listening then some (session.receives loads raw now) else none
  | .disconnects =>
      if session.reader = .listening then some (session.stopReading .ended) else none
  | .fails => if session.reader = .listening then some (session.stopReading .raised) else none
  | .joined =>
      match session.phase with
      | .serving =>
          if session.writerEnded ∧ session.reader ≠ .listening then some session.joined else none
      | _ => none
  | label => label.writes.bind session.writes

end Session

end Homeflow.Ws
