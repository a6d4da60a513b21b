import Homeflow.Lib.Machine
import Homeflow.Ws.Session

-- All connections of the gateway, and the bus that they are subscribed to.
namespace Homeflow.Ws

structure Hub where
  gate : Api.Gate
  -- The handlers, in the order of their handshakes.
  sessions : List Session := []
  -- The bus: who is subscribed, in the order of the subscriptions.
  subscribers : List Nat := []

inductive Happening where
  -- A request, or a credential that is exchanged for a ticket.
  | visit (visit : Api.Visit)
  | connect (socket : Api.Handshake)
  | publish (event : DomainEvent)
  -- A handler, its writer or its reader goes on.
  | act (id : Nat) (label : Label)

def Label.published : Label → Bool
  | .publish _ => true
  | _ => false

def Visited (visit : Api.Visit) : Bool :=
  match visit with
  | .handshake _ => false
  | _ => true

-- To subscribe appends to the bus, and to close removes from it.
def enrolled (subscribers : List Nat) (id : Nat) (before after : Session) : List Nat :=
  if before.reader ≠ .listening ∧ after.reader = .listening then subscribers ++ [id]
  else if before.reader = .listening ∧ after.reader ≠ .listening then subscribers.erase id
  else subscribers

section Hub

variable (sha256Hex : String → String) (registry : Auth.ClientRegistry)
  (queueSize websocketRateLimitPerMinute : Nat) (loads : String → Loaded)

namespace Hub

-- Publishing offers the event to every live subscriber, and awaits none of them.
def publish (hub : Hub) (event : DomainEvent) : Hub :=
  let offer (sessions : List Session) (id : Nat) : List Session :=
    sessions.modify id fun session => session.publish event
  { hub with sessions := hub.subscribers.foldl offer hub.sessions }

def step (hub : Hub) : Happening → Option Hub
  | .visit visit =>
      if Visited visit then some { hub with gate := (hub.gate.visit sha256Hex registry visit).2 }
      else none
  | .connect socket =>
      let (reply, gate) := hub.gate.visit sha256Hex registry (.handshake socket)
      some { hub with
        gate, sessions := hub.sessions ++ [.begin reply websocketRateLimitPerMinute] }
  | .publish event => some (hub.publish event)
  | .act id label =>
      if label.published then none
      else
        hub.sessions[id]?.bind fun before =>
          (before.step queueSize loads label).map fun after =>
            { hub with
              sessions := hub.sessions.set id after
              subscribers := enrolled hub.subscribers id before after }

end Hub

end Hub

-- What of all that happens concerns one connection.
def Happening.concerns (id : Nat) : Happening → Option Label
  | .visit _ | .connect _ => none
  | .publish event => some (.publish event)
  | .act other label => if other = id then some label else none

-- What of it the gate answers.
def Happening.visit? : Happening → Option Api.Visit
  | .visit coming => some coming
  | .connect socket => some (.handshake socket)
  | .publish _ | .act _ _ => none

def Happening.Connects : Happening → Bool
  | .connect _ => true
  | _ => false

end Homeflow.Ws
