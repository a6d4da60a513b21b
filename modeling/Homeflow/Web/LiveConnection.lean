import Homeflow.Lib.Json
import Homeflow.Lib.Machine

namespace Homeflow.Web

def INITIAL_BACKOFF_MS : Nat := 1000
def MAX_BACKOFF_MS : Nat := 30000

inductive ReadyState where
  | connecting | opened | closing | closed
deriving DecidableEq

-- A WebSocket of the browser, and whether its onclose is set.
structure Socket where
  readyState : ReadyState := .connecting
  onclose : Bool := true
deriving DecidableEq

def Socket.close (socket : Socket) : Socket :=
  match socket.readyState with
  | .connecting | .opened => { socket with readyState := .closing }
  | .closing | .closed => socket

def Socket.live (socket : Socket) : Bool :=
  socket.readyState = .connecting ∨ socket.readyState = .opened

-- A call of one of the handlers.
inductive HandlerCall where
  | status (status : String)
  | resync
  | schedule (frame : Json)
  | state (device : Json)

-- What the connection does, with the socket whose message it does it for.
inductive Effect where
  | started
  | stopped
  | created (id : Nat)
  | handled (call : HandlerCall) (source : Option Nat := none)
  | pong (id : Nat)

structure LiveConnection where
  socket : Option Nat := none
  backoff : Nat := INITIAL_BACKOFF_MS
  -- The delay of the timer that is set.
  retryTimer : Option ℚ := none
  stopped : Bool := true
  -- How many calls of connect await their ticket.
  connecting : Nat := 0
  -- Every socket that was created. The number of a socket is its place.
  sockets : List Socket := []
  trace : List Effect := []

inductive Label where
  | start
  | stop
  -- The page becomes visible, or the browser is online again.
  | wake
  | retry
  -- The request for a ticket fails, or the ticket arrives and the socket is created or throws.
  | ticketFails (random : ℚ)
  | ticketArrives
  | ticketRefused (random : ℚ)
  | opens (id : Nat)
  -- None: data that is not JSON.
  | message (id : Nat) (data : Option Json)
  -- The peer starts the closing handshake.
  | closing (id : Nat)
  | closes (id : Nat) (random : ℚ)

-- Whether a member of a parsed document counts as true.
def truthy : Option Json → Bool
  | none | some .null => false
  | some (.bool value) => value
  | some (.int value) => value ≠ 0
  | some (.float value) => value ≠ .finite 0 ∧ value ≠ .nan
  | some (.str value) => value ≠ ""
  | some (.arr _) | some (.obj _) => true

namespace LiveConnection

def emit (connection : LiveConnection) (effect : Effect) : LiveConnection :=
  { connection with trace := connection.trace ++ [effect] }

def handle (connection : LiveConnection) (call : HandlerCall) (source : Option Nat := none) :
    LiveConnection :=
  connection.emit (.handled call source)

def modify (connection : LiveConnection) (id : Nat) (change : Socket → Socket) : LiveConnection :=
  { connection with sockets := connection.sockets.modify id change }

-- Whether the socket the connection holds is open.
def isOpen (connection : LiveConnection) : Bool :=
  (connection.socket.bind fun id => connection.sockets[id]?).any fun socket =>
    socket.readyState = .opened

def clearRetry (connection : LiveConnection) : LiveConnection :=
  { connection with retryTimer := none }

def scheduleRetry (connection : LiveConnection) (random : ℚ) : LiveConnection :=
  if connection.stopped ∨ connection.retryTimer.isSome then connection
  else
    { connection.handle (.status "offline") with
      retryTimer := some (min connection.backoff MAX_BACKOFF_MS + random * 400) }

-- Up to the await of the ticket.
def connect (connection : LiveConnection) : LiveConnection :=
  if connection.stopped then connection
  else
    { connection.handle (.status "connecting") with connecting := connection.connecting + 1 }

def start (connection : LiveConnection) : LiveConnection :=
  ({ connection with stopped := false }.emit .started).connect

def stop (connection : LiveConnection) : LiveConnection :=
  let stopped := ({ connection with stopped := true }.emit .stopped).clearRetry
  let closed := match stopped.socket with
    | none => stopped
    | some id =>
        { stopped.modify id fun socket => { socket with onclose := false }.close with
          socket := none }
  closed.handle (.status "offline")

-- Reconnect immediately.
def wake (connection : LiveConnection) : LiveConnection :=
  if connection.stopped then connection
  else if connection.isOpen then connection.handle .resync
  else { connection.clearRetry with backoff := INITIAL_BACKOFF_MS }.connect

def retry (connection : LiveConnection) : LiveConnection :=
  { connection with
    retryTimer := none
    backoff := min (connection.backoff * 2) MAX_BACKOFF_MS }.connect

-- The rest of connect.
def ticketFails (connection : LiveConnection) (random : ℚ) : LiveConnection :=
  { connection with connecting := connection.connecting - 1 }.scheduleRetry random

def ticketArrives (connection : LiveConnection) : LiveConnection :=
  let resumed := { connection with connecting := connection.connecting - 1 }
  if resumed.stopped then resumed
  else
    { resumed.emit (.created resumed.sockets.length) with
      sockets := resumed.sockets ++ [{ readyState := .connecting }]
      socket := some resumed.sockets.length }

def ticketRefused (connection : LiveConnection) (random : ℚ) : LiveConnection :=
  let resumed := { connection with connecting := connection.connecting - 1 }
  if resumed.stopped then resumed else resumed.scheduleRetry random

def onopen (connection : LiveConnection) : LiveConnection :=
  ({ connection with backoff := INITIAL_BACKOFF_MS }.handle (.status "live")).handle .resync

def onclose (connection : LiveConnection) (random : ℚ) : LiveConnection :=
  { connection with socket := none }.scheduleRetry random

-- The answer to a ping goes to the socket the connection holds.
def send (connection : LiveConnection) : LiveConnection :=
  match connection.socket with
  | some id => if connection.isOpen then connection.emit (.pong id) else connection
  | none => connection

def dispatchDevice (connection : LiveConnection) (source : Nat) (device : Option Json) :
    LiveConnection :=
  match device with
  | some found => if truthy device then connection.handle (.state found) source else connection
  | none => connection

-- A frame that is null has no type, and nothing but an object has one or a device.
def dispatch (connection : LiveConnection) (source : Nat) : Json → LiveConnection
  | .obj members =>
      let type := Json.member? members "type"
      let device := Json.member? members "device"
      if Json.eqStr type "Hello" then connection
      else if Json.eqStr type "Ping" then connection.send
      else if Json.eqStr type "ResyncRequired" then connection.handle .resync source
      else if Json.eqStr type "ScheduleArmed" ∨ Json.eqStr type "ScheduleSettled" then
        (connection.handle (.schedule (.obj members)) source).dispatchDevice source device
      else connection.dispatchDevice source device
  | _ => connection

def onmessage (connection : LiveConnection) (source : Nat) (data : Option Json) :
    LiveConnection :=
  match data with
  | some frame => connection.dispatch source frame
  | none => connection

def step (connection : LiveConnection) : Label → Option LiveConnection
  | .start => some connection.start
  | .stop => some connection.stop
  | .wake => some connection.wake
  | .retry => connection.retryTimer.map fun _ => connection.retry
  | .ticketFails random =>
      if connection.connecting = 0 then none else some (connection.ticketFails random)
  | .ticketArrives => if connection.connecting = 0 then none else some connection.ticketArrives
  | .ticketRefused random =>
      if connection.connecting = 0 then none else some (connection.ticketRefused random)
  | .opens id =>
      match connection.sockets[id]? with
      | some ⟨.connecting, _⟩ =>
          some (connection.modify id fun socket => { socket with readyState := .opened }).onopen
      | _ => none
  | .message id data =>
      match connection.sockets[id]? with
      | some ⟨.opened, _⟩ => some (connection.onmessage id data)
      | _ => none
  | .closing id =>
      match connection.sockets[id]? with
      | some ⟨.opened, _⟩ =>
          some (connection.modify id fun socket => { socket with readyState := .closing })
      | _ => none
  | .closes id random =>
      match connection.sockets[id]? with
      | some ⟨.closed, _⟩ | none => none
      | some ⟨_, hears⟩ =>
          let closed := connection.modify id fun socket => { socket with readyState := .closed }
          some (if hears then closed.onclose random else closed)

end LiveConnection

end Homeflow.Web
