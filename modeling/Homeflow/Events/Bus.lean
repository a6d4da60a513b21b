import Homeflow.Lib.LossyQueue
import Homeflow.Lib.Machine
import Homeflow.Records

namespace Homeflow.Events

-- An event as it goes through the queues. Equal events are told apart by when they were
-- published.
structure Publication where
  number : Nat
  event : DomainEvent

-- What a subscriber has not taken yet. None is the end of it.
structure Subscription (ε : Type) where
  queue : LossyQueue (Option ε)
  closed : Bool := false

namespace Subscription

variable {ε : Type}

-- Enqueue without blocking.
def offer (subscription : Subscription ε) (event : ε) : Subscription ε :=
  if subscription.closed then subscription
  else { subscription with queue := subscription.queue.offer (some event) }

-- The end is not told to a subscriber whose queue is full.
def close (subscription : Subscription ε) : Subscription ε :=
  if subscription.closed then subscription
  else { queue := (subscription.queue.put none).getD subscription.queue, closed := true }

-- Return the lag flag and clear it.
def takeLagged (subscription : Subscription ε) : Bool × Subscription ε :=
  (subscription.queue.lagged, { subscription with queue := subscription.queue.clear })

-- The next entry of the queue, if there is one.
def next (subscription : Subscription ε) : Option (Option ε × Subscription ε) :=
  subscription.queue.get.map fun (entry, queue) => (entry, { subscription with queue })

end Subscription

-- What _forward sends.
inductive Frame where
  | ping
  | resyncRequired
  | event (publication : Publication)

-- Where _forward is suspended.
inductive Phase where
  -- On the queue.
  | waiting
  -- On the send of a frame.
  | pinging
  | hinting (publication : Publication)
  | sending (publication : Publication)
  | ended

-- The frame whose send is under way.
def Phase.frame : Phase → Option Frame
  | .pinging => some .ping
  | .hinting _ => some .resyncRequired
  | .sending publication => some (.event publication)
  | .waiting | .ended => none

-- One connection, with what was published while its subscription was open and what it
-- was sent.
structure Connection where
  subscription : Subscription Publication
  phase : Phase := .waiting
  published : List Publication := []
  sent : List Frame := []

inductive Label where
  | publish (event : DomainEvent)
  -- The reader ends and closes the subscription.
  | close
  -- The wait ends, with the next entry of the queue or by the heartbeat.
  | take
  | timeout
  -- The send returns, or the peer is gone. The frame may have been written then.
  | delivered
  | gone (written : Bool)

namespace Connection

def publish (connection : Connection) (event : DomainEvent) : Connection :=
  if connection.subscription.closed then connection
  else
    let publication : Publication := ⟨connection.published.length, event⟩
    { connection with
      subscription := connection.subscription.offer publication
      published := connection.published ++ [publication] }

-- Nothing is awaited between the end of the wait and the look at the flag.
def take (connection : Connection) : Option Connection :=
  match connection.subscription.next with
  | none => none
  | some (none, subscription) => some { connection with subscription, phase := .ended }
  | some (some publication, subscription) =>
      let (lagged, subscription) := subscription.takeLagged
      some { connection with
        subscription
        phase := if lagged then .hinting publication else .sending publication }

def delivered (connection : Connection) (frame : Frame) : Connection :=
  { connection with
    phase := match connection.phase with
      | .hinting publication => .sending publication
      | _ => .waiting
    sent := connection.sent ++ [frame] }

def step (connection : Connection) : Label → Option Connection
  | .publish event => some (connection.publish event)
  | .close => some { connection with subscription := connection.subscription.close }
  | .take =>
      match connection.phase with
      | .waiting => connection.take
      | _ => none
  | .timeout =>
      match connection.phase with
      | .waiting => some { connection with phase := .pinging }
      | _ => none
  | .delivered => connection.phase.frame.map connection.delivered
  | .gone written =>
      connection.phase.frame.map fun frame =>
        { connection with
          phase := .ended
          sent := if written then connection.sent ++ [frame] else connection.sent }

end Connection

-- The bus has just been subscribed to.
def subscribed (queueSize : Nat) : Connection :=
  { subscription := { queue := { capacity := queueSize } } }

end Homeflow.Events
