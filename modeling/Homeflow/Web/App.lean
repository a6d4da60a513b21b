import Homeflow.Commands.Models
import Homeflow.Lib.Machine
import Homeflow.Lib.OrderedDict
import Mathlib.Data.Finset.Basic

namespace Homeflow.Web

-- A control. In the key the identifier and the name of the action are set apart by a bar.
abbrev Key := Uuid × Action

def pendingKey (deviceId : Uuid) (action : Action) : Key := (deviceId, action)

structure CommandRequest where
  deviceId : Uuid
  action : Action
  parameters : List (String × Json)

def CommandRequest.key (request : CommandRequest) : Key :=
  pendingKey request.deviceId request.action

-- What an on/off request wants to see happen.
def CommandRequest.on? (request : CommandRequest) : Option Bool :=
  match Json.member? request.parameters "on" with
  | some (.bool on) => some on
  | _ => none

inductive Notice where
  | notApplied
  | unknown
  | failed
  -- An error of the API by its type, or the internal error.
  | error (type : Option String)
deriving DecidableEq

-- How a call of submitCommand ends.
inductive Answer where
  | command (status : CommandStatus) (failureCode : Option String)
  | apiError (type : String)
  | raised

def Answer.notice : Answer → Option Notice
  | .command .unknown failureCode =>
      some (if failureCode = some "not_confirmed_by_device" then .notApplied else .unknown)
  | .command .succeeded _ => none
  | .command _ _ => some .failed
  | .apiError type => some (.error type)
  | .raised => some (.error none)

def Answer.unauthenticated : Answer → Bool
  | .apiError type => type = "unauthenticated"
  | _ => false

-- A call in flight, made with the API of its session.
structure Call where
  session : Nat
  request : CommandRequest

inductive AppEffect where
  | pressed (request : CommandRequest)
  | submitted (call : Call)
  | signedIn (session : Nat)
  | signedOut

-- The state of the page as far as commands are concerned, and its calls.
structure State where
  -- The API is known by its session.
  api : Option Nat := none
  busy : Finset Key := ∅
  queued : OrderedDict Key CommandRequest := .empty
  desired : OrderedDict Key Bool := .empty
  notices : OrderedDict Uuid Notice := .empty
  calls : OrderedDict Nat Call := .empty
  -- How many calls have been made and how many sessions begun.
  tickets : Nat := 0
  sessions : Nat := 0
  trace : List AppEffect := []

inductive AppLabel where
  | press (request : CommandRequest)
  | answered (ticket : Nat) (answer : Answer)
  | signIn
  | signOut

namespace State

def want (state : State) (request : CommandRequest) : State :=
  match request.on? with
  | some on => { state with desired := state.desired.set request.key on }
  | none => state

def notify (state : State) (deviceId : Uuid) : Option Notice → State
  | some notice => { state with notices := state.notices.set deviceId notice }
  | none => state

-- Make the call, up to its await. Without an API it raises at once: false.
def submit (state : State) (request : CommandRequest) : State × Bool :=
  let begun := { state with
    busy := insert request.key state.busy
    notices := state.notices.erase request.deviceId }
  match begun.api with
  | some session =>
      ({ begun with
        calls := begun.calls.set begun.tickets ⟨session, request⟩
        tickets := begun.tickets + 1
        trace := begun.trace ++ [AppEffect.submitted ⟨session, request⟩] }, true)
  | none =>
      ({ begun.notify request.deviceId (some (.error none)) with
        busy := begun.busy.erase request.key }, false)

-- From here on the gateway's confirmed state is what the control shows.
def confirm (state : State) (key : Key) : State :=
  { state with desired := state.desired.erase key }

-- The rest of execute: the request that waits is executed. Nothing waits behind it.
def resume (state : State) (key : Key) : State :=
  match state.queued.get? key with
  | some next =>
      let (state, waits) := ({ state with queued := state.queued.erase key }.want next).submit next
      if waits then state else state.confirm key
  | none => state.confirm key

def execute (state : State) (request : CommandRequest) : State :=
  let state := state.want request
  if request.key ∈ state.busy then
    { state with queued := state.queued.set request.key request }
  else
    let (state, waits) := state.submit request
    if waits then state else state.resume request.key

def press (state : State) (request : CommandRequest) : State :=
  { state with trace := state.trace ++ [AppEffect.pressed request] }.execute request

def signOut (state : State) : State :=
  { state with
    api := none
    desired := .empty
    notices := .empty
    busy := ∅
    queued := .empty
    trace := state.trace ++ [.signedOut] }

-- The end of startSession.
def signIn (state : State) : State :=
  { state with
    api := some state.sessions
    sessions := state.sessions + 1
    trace := state.trace ++ [.signedIn state.sessions] }

-- The await of execute ends.
def answered (state : State) (ticket : Nat) (call : Call) (answer : Answer) : State :=
  let key := call.request.key
  let told := { state with calls := state.calls.erase ticket }.notify call.request.deviceId
    answer.notice
  if answer.unauthenticated then
    { told.signOut with busy := told.signOut.busy.erase key }
  else { told with busy := told.busy.erase key }.resume key

def step (state : State) : AppLabel → Option State
  | .press request => some (state.press request)
  | .answered ticket answer =>
      (state.calls.get? ticket).map fun call => state.answered ticket call answer
  | .signIn => some state.signIn
  | .signOut => some state.signOut

end State

end Homeflow.Web
