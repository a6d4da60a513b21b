import Homeflow.Devices.Service
import Homeflow.HomeAssistant.Provider
import Homeflow.Lib.Journal
import Homeflow.Lib.Machine

namespace Homeflow.HomeAssistant

-- What the instance holds for an entity beside its id.
abbrev Members := List (String × Json)

def stateObject (entityId : String) (members : Members) : Json :=
  .obj (("entity_id", .str entityId) :: members)

-- What the instance sends on the socket.
inductive Frame where
  | authRequired
  | authOk
  | result (commandId : Int) (success : Bool)
  -- None: the entity was removed.
  | event (commandId : Int) (entityId : String) (newState : Option Members)

def newStateJson (entityId : String) : Option Members → Json
  | some members => stateObject entityId members
  | none => .null

def Frame.members : Frame → Members
  | .authRequired => [("type", .str "auth_required")]
  | .authOk => [("type", .str "auth_ok")]
  | .result commandId success =>
      [("id", .int commandId), ("type", .str "result"), ("success", .bool success),
        ("result", .null)]
  | .event commandId entityId newState =>
      [("id", .int commandId), ("type", .str "event"),
        ("event", .obj [("event_type", .str "state_changed"),
          ("data", .obj [("entity_id", .str entityId),
            ("new_state", newStateJson entityId newState)])])]

-- The entity a frame reports as changed, if it makes sense.
def eventEntity (frame : Members) : Option HaEntity :=
  if Json.eqStr (Json.member? frame "type") "event" then
    match Json.member? frame "event" with
    | some (.obj event) =>
        match Json.member? event "data" with
        | some (.obj data) => (Json.member? data "new_state").bind HaEntity.validate
        | _ => none
    | _ => none
  else none

-- The adapter's event stream together with the device view that consumes it.
structure Stream where
  provider : HomeAssistantProvider
  service : DeviceService
  yielded : List (ProviderDeviceRef × ProviderState) := []

namespace Stream

variable (clock : Nat → Time) (float : String → Option PyFloat)

-- An entity of the stream that is a device is yielded and ingested.
def offer (stream : Stream) (entity : HaEntity) : Except EntityError Stream :=
  match stream.provider.kinds.get? entity.entityId with
  | none => .ok stream
  | some _ =>
      match stream.provider.snapshot float entity (clock stream.service.reads) with
      | .error error => .error error
      | .ok state =>
          let ref := refFor entity.entityId
          let drawn := { stream.service with reads := stream.service.reads + 1 }
          .ok { stream with
            service := drawn.ingest clock ref state .providerEvent
            yielded := stream.yielded ++ [(ref, state)] }

def offers (stream : Stream) : List HaEntity → Stream × Option EntityError
  | [] => (stream, none)
  | entity :: rest =>
      match stream.offer clock float entity with
      | .ok next => next.offers rest
      | .error error => (stream, some error)

-- The state that was yielded last for an entity.
def last (stream : Stream) (entityId : String) : Option ProviderState :=
  (Journal.latest Prod.fst stream.yielded (refFor entityId)).map Prod.snd

end Stream

-- Where a run of subscribe is.
inductive Phase where
  -- GET /api/states is under way.
  | requesting
  -- The socket is open and has not greeted, or has not accepted the token yet.
  | connecting
  | authenticating
  -- For the result of subscribe_events.
  | waiting (commandId : Int)
  | following
  | failed
deriving DecidableEq

-- One run of subscribe and the instance it talks to.
structure World where
  home : OrderedDict String Members
  response : Option Exchange := none
  -- The command whose subscription the instance serves, and whether the result of
  -- the command was sent.
  subscription : Option Int := none
  answered : Bool := false
  -- What was sent on the socket and not received yet.
  socket : List Frame := []
  phase : Phase := .requesting
  -- The last command id the client has used.
  commandId : Int
  stream : Stream

inductive Label where
  -- An entity changes, or is removed.
  | change (entityId : String) (newState : Option Members)
  -- The instance computes its answer to the GET, and the answer arrives.
  | answer (contentLength : Nat)
  | deliver
  | greet
  | authenticate
  -- The instance processes subscribe_events, and sends the result.
  | process
  | result
  | refuse
  | receive
  -- The connection breaks.
  | fail

namespace World

variable (clock : Nat → Time) (float : String → Option PyFloat)

def change (world : World) (entityId : String) (newState : Option Members) : World :=
  { world with
    home := match newState with
      | some members => world.home.set entityId members
      | none => world.home.erase entityId
    socket := match world.subscription with
      | some commandId => world.socket ++ [.event commandId entityId newState]
      | none => world.socket }

def allStates (world : World) : Json :=
  .arr (world.home.entries.map fun entry => stateObject entry.1 entry.2)

def deliver (world : World) (exchange : Exchange) : World :=
  match states exchange with
  | .error _ => { world with phase := .failed }
  | .ok entities =>
      match world.stream.offers clock float entities with
      | (stream, none) => { world with phase := .connecting, stream }
      | (stream, some _) => { world with phase := .failed, stream }

-- The client handles one frame.
def receive (world : World) (frame : Members) : Option World :=
  match world.phase with
  | .requesting | .failed => none
  | .connecting =>
      if Json.eqStr (Json.member? frame "type") "auth_required" then
        some { world with phase := .authenticating }
      else some { world with phase := .failed }
  | .authenticating =>
      if Json.eqStr (Json.member? frame "type") "auth_ok" then
        -- The next command is subscribe_events.
        some { world with
          phase := .waiting (world.commandId + 1), commandId := world.commandId + 1 }
      else some { world with phase := .failed }
  | .waiting commandId =>
      -- Every other frame is skipped.
      if !Json.eqInt (Json.member? frame "id") commandId ||
          !Json.eqStr (Json.member? frame "type") "result" then
        some world
      else if ((Json.member? frame "success").map Json.truthy).getD false then
        some { world with phase := .following }
      else some { world with phase := .failed }
  | .following =>
      match eventEntity frame with
      | none => some world
      | some entity =>
          match world.stream.offer clock float entity with
          | .ok stream => some { world with stream }
          | .error _ => some { world with phase := .failed }

def step (world : World) : Label → Option World
  | .change entityId newState => some (world.change entityId newState)
  | .answer contentLength =>
      if world.phase = .requesting ∧ world.response.isNone then
        some { world with
          response := some (.answered ⟨200, contentLength, .json world.allStates⟩) }
      else none
  | .deliver =>
      match world.phase, world.response with
      | .requesting, some exchange => some (world.deliver clock float exchange)
      | _, _ => none
  | .greet =>
      if world.phase = .connecting ∧ world.socket.isEmpty then
        some { world with socket := [.authRequired] }
      else none
  | .authenticate =>
      if world.phase = .authenticating ∧ world.socket.isEmpty then
        some { world with socket := [.authOk] }
      else none
  | .process =>
      match world.phase, world.subscription, world.answered with
      | .waiting commandId, none, false => some { world with subscription := some commandId }
      | _, _, _ => none
  | .result =>
      match world.subscription, world.answered with
      | some commandId, false =>
          some { world with socket := world.socket ++ [.result commandId true], answered := true }
      | _, _ => none
  | .refuse =>
      match world.phase, world.subscription, world.answered with
      | .waiting commandId, none, false =>
          some { world with socket := world.socket ++ [.result commandId false], answered := true }
      | _, _, _ => none
  | .receive =>
      match world.socket with
      | frame :: rest => { world with socket := rest }.receive clock float frame.members
      | [] => none
  | .fail => some { world with phase := .failed }

-- From the computation of the answer until the result of the subscription is sent.
def unwatched (world : World) : Bool :=
  (world.response.isSome || world.phase ≠ .requesting) && !world.answered

end World

-- A run of subscribe begins.
def opened (home : OrderedDict String Members) (provider : HomeAssistantProvider)
    (service : DeviceService) (commandId : Int) : World :=
  { home, commandId, stream := { provider, service } }

end Homeflow.HomeAssistant
