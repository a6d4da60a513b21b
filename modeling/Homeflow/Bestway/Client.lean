import Homeflow.Bestway.Execution
import Homeflow.Bestway.Reader
import Homeflow.Lib.Machine
import Mathlib.Logic.Function.Basic

namespace Homeflow.Bestway

abbrev StreamId := Nat
abbrev ExecutionId := Nat

def READ_CHUNK : Nat := 4096

-- A byte and the moment the gateway received it.
structure Octet where
  value : UInt8
  receivedAt : Nat
deriving DecidableEq

-- What read_status returned, when it was asked for and when the last byte of it came.
structure Answer where
  payload : Bytes
  askedAt : Nat
  receivedAt : Nat
deriving DecidableEq

-- The exchanges the client makes: two within connect, and read_status, which is called for
-- a running execute or else for subscribe or get_state.
inductive Request where
  | passcode
  | login
  | status (execution : Option ExecutionId)
deriving DecidableEq

def Request.expect : Request → Command
  | .passcode => .passcodeResponse
  | .login => .loginResponse
  | .status _ => .statusResponse

def Request.isStatus : Request → Bool
  | .status _ => true
  | _ => false

-- Where the exchange that holds the lock is: on a drain, between two awaits of its loop, or
-- on the read of a stream.
inductive Phase where
  | draining
  | turning
  | reading (stream : StreamId)

structure Exchange where
  request : Request
  askedAt : Nat
  phase : Phase

inductive Effect where
  | asked (request : Request) (moment : Nat)
  | answered (answer : Answer)
  -- A control request was written, built from this block.
  | controlled (id : ExecutionId) (request : ControlRequest) (base : Answer)
  -- A call of execute reported APPLIED on this block.
  | applied (id : ExecutionId) (observed : Answer)

-- One client with every coroutine that is suspended in it. Only one of them at a time is
-- inside the lock of _exchange, the others wait for it in order.
structure Client where
  now : Nat := 0
  -- The reader and the writer of a connection are set and cleared together.
  stream : Option StreamId := none
  opened : Nat := 0
  inbox : StreamId → List Octet := fun _ => []
  hungUp : StreamId → Bool := fun _ => false
  reader : FrameReader Octet := {}
  pending : List (Frame × List Octet) := []
  sequence : Nat := 0
  inside : Option Exchange := none
  waiting : List Request := []
  executions : OrderedDict ExecutionId (Execution Answer) := .empty
  trace : List Effect := []

-- What happens between two awaits, and what the network and the callers do. The callers may
-- connect, close, ask again or give up at any time.
inductive Label where
  | arrive (stream : StreamId) (bytes : Bytes)
  | hangUp (stream : StreamId)
  | connected
  | close
  | ask (request : Request)
  | enter
  | drained
  | turn
  | data
  -- The await of the exchange inside the lock raises: a timeout, an error of the socket, or
  -- the cancellation of its task.
  | fail
  | abandon (request : Request)
  | execute (id : ExecutionId) (ref : ProviderDeviceRef) (command : ProviderCommand)
  | readFails (id : ExecutionId) (error : ClientError)
  | write (id : ExecutionId)
  | sent (id : ExecutionId)
  | sendFails (id : ExecutionId)
  | slept (id : ExecutionId)
  -- The deadline of the command cancels its execute wherever it is.
  | cancel (id : ExecutionId)

def receivedAt (bytes : List Octet) : Nat := (bytes.getLast?.map Octet.receivedAt).getD 0

namespace Client

variable (provider : BestwayProvider)

def emit (client : Client) (effect : Effect) : Client :=
  { client with trace := client.trace ++ [effect] }

-- The unread bytes of the connection the client reads from.
def unread (client : Client) : List Octet := client.stream.elim [] client.inbox

-- connect once the socket is open.
def connected (client : Client) : Client :=
  { client with
    stream := some client.opened, opened := client.opened + 1, reader := {}, pending := [] }

-- The first half of an exchange inside the lock. Without a connection it raises.
def begin (client : Client) (request : Request) : Client :=
  match client.stream with
  | none => client
  | some _ =>
      { client.emit (.asked request client.now) with
        inside := some { request, askedAt := client.now, phase := .draining } }

def ask (client : Client) (request : Request) : Client :=
  if client.inside.isNone ∧ client.waiting = [] then client.begin request
  else { client with waiting := client.waiting ++ [request] }

def become (client : Client) (id : ExecutionId) (execution : Execution Answer) : Client :=
  let after := { client with executions := client.executions.set id execution }
  match execution with
  | .ended (.ok { outcome := .applied, observed := some observed, .. }) =>
      after.emit (.applied id observed)
  | _ => after

-- The lock is released and what was asked for goes to the caller.
def answer (client : Client) (exchange : Exchange) (frame : Frame) (bytes : List Octet) :
    Client :=
  let left := { client with inside := none }
  match exchange.request with
  | .passcode | .login => left
  | .status execution =>
      let answer : Answer := ⟨frame.payload, exchange.askedAt, receivedAt bytes⟩
      let told := left.emit (.answered answer)
      match execution with
      | none => told
      | some id =>
          match client.executions.get? id with
          | none => told
          | some execution =>
              told.become id (execution.readEnds provider Answer.payload (.ok answer))

-- A chunk is taken off the stream and its complete frames are queued.
def receive (client : Client) (exchange : Exchange) (stream : StreamId) : Client :=
  let chunk := (client.inbox stream).take READ_CHUNK
  let taken := { client with
    inbox := Function.update client.inbox stream ((client.inbox stream).drop READ_CHUNK) }
  match client.reader.feed Octet.value chunk with
  | (reader, none) => { taken with reader, inside := none }
  | (reader, some frames) =>
      { taken with
        reader, pending := client.pending ++ frames
        inside := some { exchange with phase := .turning } }

-- One turn of the loop of _exchange, with _next_frame in it.
def turn (client : Client) (exchange : Exchange) : Client :=
  match client.pending with
  | (frame, bytes) :: rest =>
      let popped := { client with pending := rest }
      if frame.command = exchange.request.expect.number then
        popped.answer provider exchange frame bytes
      else if frame.command = Command.heartbeatRequest.number then
        match client.stream with
        | none => { popped with inside := none }
        | some _ => { popped with inside := some { exchange with phase := .draining } }
      else popped
  | [] =>
      match client.stream with
      | none => { client with inside := none }
      | some stream =>
          if client.inbox stream ≠ [] then client.receive exchange stream
          else if client.hungUp stream then { client with inside := none }
          else { client with inside := some { exchange with phase := .reading stream } }

-- The suspended read resumes once there is something to read, or the end of it.
def data (client : Client) (exchange : Exchange) (stream : StreamId) : Option Client :=
  if client.inbox stream ≠ [] then some (client.receive exchange stream)
  else if client.hungUp stream then some { client with inside := none }
  else none

-- send_control up to its drain.
def sendControl (client : Client) (id : ExecutionId) (execution : Execution Answer)
    (request : ControlRequest) (base : Answer) : Client :=
  let counted := { client with sequence := (client.sequence + 1) % 2 ^ 32 }
  let raised (error : ClientError) :=
    counted.become id (execution.sendEnds provider Answer.payload (.error error))
  match buildControlPayload counted.sequence request.attrFlags request.attrVals with
  | .error _ => raised .protocol
  | .ok payload =>
      match client.stream with
      | none => raised .unavailable
      | some _ =>
          match Frame.encode { command := Command.controlRequest.number, payload } with
          | .error _ => raised .protocol
          | .ok _ => (counted.emit (.controlled id request base)).become id execution.wrote

-- Whether a read_status on behalf of this execute is under way.
def reading (client : Client) (id : ExecutionId) : Bool :=
  (client.inside.any fun exchange => exchange.request = .status (some id)) ∨
    .status (some id) ∈ client.waiting

-- Whether a caller can make this exchange now.
def mayAsk (client : Client) : Request → Bool
  | .status (some id) => (client.executions.get? id).any Execution.reads ∧ !client.reading id
  | _ => true

def cancel (client : Client) (id : ExecutionId) : Client :=
  { client with
    executions := client.executions.erase id
    inside := client.inside.filter fun exchange => exchange.request ≠ .status (some id)
    waiting := client.waiting.filter fun request => request ≠ .status (some id) }

def step (client : Client) : Label → Option Client
  | .arrive stream bytes =>
      if stream < client.opened ∧ !client.hungUp stream then
        let arrived := bytes.map fun value => ⟨value, client.now + 1⟩
        some { client with
          now := client.now + 1
          inbox := Function.update client.inbox stream (client.inbox stream ++ arrived) }
      else none
  | .hangUp stream => some { client with hungUp := Function.update client.hungUp stream true }
  | .connected => some client.connected
  | .close => some { client with stream := none }
  | .ask request => if client.mayAsk request then some (client.ask request) else none
  | .enter =>
      match client.inside, client.waiting with
      | none, request :: rest => some ({ client with waiting := rest }.begin request)
      | _, _ => none
  | .drained =>
      match client.inside with
      | some exchange =>
          match exchange.phase with
          | .draining => some { client with inside := some { exchange with phase := .turning } }
          | _ => none
      | none => none
  | .turn =>
      match client.inside with
      | some exchange =>
          match exchange.phase with
          | .turning => some (client.turn provider exchange)
          | _ => none
      | none => none
  | .data =>
      match client.inside with
      | some exchange =>
          match exchange.phase with
          | .reading stream => client.data exchange stream
          | _ => none
      | none => none
  | .fail => some { client with inside := none }
  | .abandon request => some { client with waiting := client.waiting.erase request }
  | .execute id ref command =>
      if (client.executions.get? id).isSome then none
      else some (client.become id (Execution.start ref command))
  | .readFails id error =>
      match client.executions.get? id with
      | some execution =>
          if execution.reads ∧ !client.reading id then
            some (client.become id (execution.readEnds provider Answer.payload (.error error)))
          else none
      | none => none
  | .write id =>
      match client.executions.get? id with
      | some execution =>
          match execution with
          | .writing request base => some (client.sendControl provider id execution request base)
          | _ => none
      | none => none
  | .sent id =>
      match client.executions.get? id with
      | some execution =>
          match execution with
          | .sending _ _ =>
              some (client.become id (execution.sendEnds provider Answer.payload (.ok ())))
          | _ => none
      | none => none
  | .sendFails id =>
      match client.executions.get? id with
      | some execution =>
          match execution with
          | .sending _ _ =>
              some (client.become id
                (execution.sendEnds provider Answer.payload (.error .unavailable)))
          | _ => none
      | none => none
  | .slept id =>
      match client.executions.get? id with
      | some execution =>
          match execution with
          | .sleeping _ _ _ _ => some (client.become id execution.slept)
          | _ => none
      | none => none
  | .cancel id => some (client.cancel id)

end Client

end Homeflow.Bestway
