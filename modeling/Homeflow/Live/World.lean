import Homeflow.Devices.Service
import Homeflow.Events.Bus

namespace Homeflow.Live

-- The subscription of a socket that is open. Whoever has lost an event has another one to take.
structure Subscription extends Events.Subscription DomainEvent where
  opened : closed = false
  lagged_items : queue.lagged = true → queue.items ≠ []

namespace Subscription

def subscribed (queueSize : Nat) : Subscription where
  queue := { capacity := queueSize, bounded := fun _ => Nat.zero_le _ }
  opened := rfl
  lagged_items := fun hlagged => by cases hlagged

variable {subscription : Subscription} {event : DomainEvent}

theorem offer_eq (subscription : Subscription) (event : DomainEvent) :
    subscription.toSubscription.offer event =
      { subscription.toSubscription with queue := subscription.queue.offer (some event) } := by
  rw [Events.Subscription.offer, if_neg (by simp [subscription.opened])]

theorem offer_opened (subscription : Subscription) (event : DomainEvent) :
    (subscription.toSubscription.offer event).closed = false := by
  rw [offer_eq]
  exact subscription.opened

theorem mem_offer (subscription : Subscription) (event : DomainEvent) :
    some event ∈ (subscription.toSubscription.offer event).queue.items := by
  rw [offer_eq]
  cases hfull : subscription.queue.full with
  | true => simp [(LossyQueue.offer_full hfull (some event)).1]
  | false => simp [(LossyQueue.offer_room hfull (some event)).1]

theorem closed_next {entry : Option DomainEvent} {rest : Events.Subscription DomainEvent}
    (h : subscription.next = some (entry, rest)) : rest.closed = false := by
  obtain ⟨⟨head, queue⟩, -, hpair⟩ := Option.map_eq_some_iff.mp h
  cases hpair
  exact subscription.opened

def offer (subscription : Subscription) (event : DomainEvent) : Subscription where
  toSubscription := subscription.toSubscription.offer event
  opened := subscription.offer_opened event
  lagged_items _ := List.ne_nil_of_mem (subscription.mem_offer event)

-- The next event, and whether events before it were dropped.
def take (subscription : Subscription) : Option (DomainEvent × Bool × Subscription) :=
  match hnext : subscription.next with
  | some (some event, rest) =>
      some (event, rest.takeLagged.1, {
        toSubscription := rest.takeLagged.2
        opened := show rest.closed = false from closed_next hnext
        lagged_items := fun hlagged => by cases hlagged })
  | _ => none

theorem lagged_offer (h : subscription.queue.lagged = true) :
    (subscription.offer event).queue.lagged = true := by
  change (subscription.toSubscription.offer event).queue.lagged = true
  rw [offer_eq]
  cases hfull : subscription.queue.full with
  | true => exact (LossyQueue.offer_full hfull _).2
  | false => exact (LossyQueue.offer_room hfull _).2.trans h

theorem kept_or_lagged (other : DomainEvent) {entry : Option DomainEvent}
    (h : entry ∈ subscription.queue.items) :
    entry ∈ (subscription.offer other).queue.items ∨
      (subscription.offer other).queue.lagged = true := by
  change entry ∈ (subscription.toSubscription.offer other).queue.items ∨
    (subscription.toSubscription.offer other).queue.lagged = true
  rw [offer_eq]
  cases hfull : subscription.queue.full with
  | true => exact .inr (LossyQueue.offer_full hfull _).2
  | false =>
      refine .inl ?_
      rw [(LossyQueue.offer_room hfull _).1]
      exact List.mem_append_left _ h

end Subscription

structure DeviceResponse extends Device where
  isStale : Bool

def DeviceResponse.fromDomain (device : Device) (now : Time) (staleAfterSeconds : Nat) :
    DeviceResponse :=
  { device with isStale := device.isStale now staleAfterSeconds }

-- What the server sends on the socket, as far as the client reads it.
inductive Frame where
  | hello
  | ping
  | resyncRequired
  | event (event : DomainEvent) (device : Option DeviceResponse)

-- The server's end of the socket.
inductive Session where
  | closed
  | accepted
  | greeted
  -- The event that was taken, after the hint that others before it were dropped.
  | following (subscription : Subscription) (sending : Option DomainEvent)

def Session.offers (events : List DomainEvent) : Session → Session
  | .following subscription sending => .following (events.foldl .offer subscription) sending
  | session => session

-- The gateway, one socket, the requests for the devices, and what the client holds.
structure World where
  service : DeviceService
  session : Session := .closed
  -- What was sent on the socket and not received yet.
  wire : List Frame := []
  opened : Bool := false
  -- The requests that are not answered yet, and the answers that are not received yet.
  requests : Nat := 0
  responses : List (List DeviceResponse) := []
  devices : OrderedDict Uuid DeviceResponse

inductive Label where
  -- A provider tells of a device.
  | ingest (ref : ProviderDeviceRef) (state : ProviderState) (source : StateSource)
      (correlationId : Option String)
  -- The other services publish on the bus too.
  | publish (event : DomainEvent)
  | accept
  | greet
  | subscribe
  | take
  | send (now : Time)
  | heartbeat
  | onopen
  | receive
  -- A command is finished, or the app returns to the foreground.
  | refetch
  | answer (now : Time)
  -- Answers arrive in any order.
  | deliver (index : Nat)
  -- The socket is lost.
  | drop

namespace World

variable (clock : Nat → Time) (queueSize staleAfterSeconds : Nat)

def ingest (world : World) (ref : ProviderDeviceRef) (state : ProviderState)
    (source : StateSource) (correlationId : Option String) : World :=
  let service := world.service.ingest clock ref state source correlationId
  let events := service.events.drop world.service.events.length
  { world with service, session := world.session.offers events }

-- The device is read as the frame is sent.
def frame (world : World) (now : Time) (event : DomainEvent) : Frame :=
  .event event ((event.deviceId.bind world.service.registry.get).map fun device =>
    .fromDomain device now staleAfterSeconds)

def listDevices (world : World) (now : Time) : List DeviceResponse :=
  world.service.registry.listDevices.map fun device => .fromDomain device now staleAfterSeconds

-- The client handles one frame.
def dispatch (world : World) : Frame → World
  | .hello | .ping => world
  | .resyncRequired => { world with requests := world.requests + 1 }
  | .event _ (some device) => { world with devices := world.devices.set device.id device }
  | .event _ none => world

-- The whole map is replaced.
def refreshDevices (world : World) (devices : List DeviceResponse) : World :=
  { world with devices := .ofValues (fun device => device.id) devices }

def step (world : World) : Label → Option World
  | .ingest ref state source correlationId =>
      some (world.ingest clock ref state source correlationId)
  | .publish event => some { world with session := world.session.offers [event] }
  | .accept =>
      match world.session with
      | .closed => some { world with session := .accepted }
      | _ => none
  | .greet =>
      match world.session with
      | .accepted => some { world with session := .greeted, wire := world.wire ++ [.hello] }
      | _ => none
  | .subscribe =>
      match world.session with
      | .greeted => some { world with session := .following (.subscribed queueSize) none }
      | _ => none
  | .take =>
      match world.session with
      | .following subscription none =>
          subscription.take.map fun (event, lagged, rest) =>
            { world with
              session := .following rest (some event)
              wire := if lagged then world.wire ++ [.resyncRequired] else world.wire }
      | _ => none
  | .send now =>
      match world.session with
      | .following subscription (some event) =>
          some { world with
            session := .following subscription none
            wire := world.wire ++ [world.frame staleAfterSeconds now event] }
      | _ => none
  | .heartbeat =>
      match world.session with
      | .following _ none => some { world with wire := world.wire ++ [.ping] }
      | _ => none
  | .onopen =>
      match world.session, world.opened with
      | .closed, _ | _, true => none
      | _, false => some { world with opened := true, requests := world.requests + 1 }
  | .receive =>
      match world.opened, world.wire with
      | true, frame :: rest => some ({ world with wire := rest }.dispatch frame)
      | _, _ => none
  | .refetch => some { world with requests := world.requests + 1 }
  | .answer now =>
      match world.requests with
      | 0 => none
      | requests + 1 =>
          some { world with
            requests
            responses := world.responses ++ [world.listDevices staleAfterSeconds now] }
  | .deliver index =>
      world.responses[index]?.map fun devices =>
        { world with responses := world.responses.eraseIdx index }.refreshDevices devices
  | .drop => some { world with session := .closed, wire := [], opened := false }

-- What the gateway holds of a device, and what the client shows.
def held (world : World) (id : Uuid) : Option (DeviceState × Availability) :=
  (world.service.registry.get id).map Device.view

def shown (world : World) (id : Uuid) : Option (DeviceState × Availability) :=
  (world.devices.get? id).map fun response => response.view

end World

-- The socket is about to be opened, with the devices of an earlier answer.
def signedIn (service : DeviceService) (devices : OrderedDict Uuid DeviceResponse) : World :=
  { service, devices }

end Homeflow.Live
