import Homeflow.Bestway.Provider
import Homeflow.Lib.FifoMutex
import Homeflow.Lib.Machine
import Homeflow.Lib.OrderedDict
import Mathlib.Logic.Function.Basic

-- The tasks that share one client: the poll loop, execute and get_state.
namespace Homeflow.Bestway.Tasks

abbrev TaskId := Nat
abbrev StreamId := Nat

-- How often _read_with_retry tries.
def ATTEMPTS : Nat := 2

-- The exchanges, with the frame of the login already built.
inductive Request where
  | passcode
  | login (payload : Bytes)
  | status

def Request.frame : Request → Frame
  | .passcode => { command := Command.passcodeRequest.number }
  | .login payload => { command := Command.loginRequest.number, payload }
  | .status => { command := Command.statusRequest.number, payload := STATUS_READ_PAYLOAD }

def Request.expect : Request → Command
  | .passcode => .passcodeResponse
  | .login _ => .loginResponse
  | .status => .statusResponse

-- Where an exchange is: on the lock, on a drain, between two awaits of its loop, or on the
-- read of a stream.
inductive Phase where
  | queued
  | draining
  | turning
  | reading (stream : StreamId)

-- Where a task is suspended.
inductive Point where
  -- In connect: on the close it begins with, on open_connection, and on the close it ends
  -- with when an exchange has raised.
  | hangingUp
  | opening
  | undoing (error : ClientError)
  | exchanging (request : Request) (phase : Phase)
  -- In _read_with_retry: on the close after a read that has raised.
  | retreating (error : ClientError)
  -- On the drain of send_control.
  | controlling
  -- In aclose.
  | closing

structure Task where
  attempt : Nat
  point : Point

inductive Effect where
  | opened (stream : StreamId)
  | wrote (stream : StreamId) (frame : Frame)
  -- An exchange took the frame, and this is the connection it came from.
  | received (stream : StreamId) (frame : Frame)
deriving DecidableEq

-- The client. Its reader and its writer are set and cleared together.
structure Link where
  stream : Option StreamId := none
  opened : Nat := 0
  -- The writers that are closing, on either side's account.
  isClosing : StreamId → Bool := fun _ => false
  pending : List (StreamId × Frame) := []
  sequence : Nat := 0
  lock : FifoMutex TaskId := .unlocked
  tasks : OrderedDict TaskId Task := .empty
  trace : List Effect := []

inductive Label where
  -- A task of the provider calls _read_with_retry, send_control or aclose.
  | read (id : TaskId)
  | control (id : TaskId) (attrFlags : Nat) (attrVals : Bytes)
  | aclose (id : TaskId)
  -- wait_closed has returned.
  | resume (id : TaskId)
  | connected (id : TaskId)
  | refused (id : TaskId)
  | enter (id : TaskId)
  | drained (id : TaskId)
  | turn (id : TaskId)
  -- A read returns a chunk that completes these frames.
  | chunk (id : TaskId) (frames : List Frame)
  -- A drain or a read raises: a timeout, an error of the socket, the end of the stream, or
  -- a malformed frame.
  | fails (id : TaskId)
  | misbehaves (id : TaskId)
  -- The transport is lost.
  | breaks (stream : StreamId)
  | cancel (id : TaskId)

namespace Link

def put (link : Link) (id : TaskId) (task : Task) : Link :=
  { link with tasks := link.tasks.set id task }

def finish (link : Link) (id : TaskId) : Link := { link with tasks := link.tasks.erase id }

def emit (link : Link) (effect : Effect) : Link := { link with trace := link.trace ++ [effect] }

def isConnected (link : Link) : Bool := link.stream.any fun stream => !link.isClosing stream

-- close() up to its await. Without a connection it does not suspend.
def close (link : Link) (stream : StreamId) : Link :=
  { link with stream := none, isClosing := Function.update link.isClosing stream true }

-- What _read_with_retry does when an attempt has raised.
def caught (link : Link) (id : TaskId) (attempt : Nat) (error : ClientError) : Link :=
  if error = .protocol then link.finish id
  else
    match link.stream with
    | some stream => (link.close stream).put id ⟨attempt, .retreating error⟩
    | none =>
        -- Nothing is open, so the next attempt goes straight on to open_connection.
        if error = .misbehaved ∨ attempt = ATTEMPTS then link.finish id
        else link.put id ⟨attempt + 1, .opening⟩

-- What connect does when an exchange of its own has raised.
def undo (link : Link) (id : TaskId) (attempt : Nat) (error : ClientError) : Link :=
  match link.stream with
  | some stream => (link.close stream).put id ⟨attempt, .undoing error⟩
  | none => link.caught id attempt error

-- An exchange raises, having left the lock.
def raised (link : Link) (id : TaskId) (attempt : Nat) (request : Request) (error : ClientError) :
    Link :=
  match request with
  | .passcode | .login _ => link.undo id attempt error
  | .status => link.caught id attempt error

def release (link : Link) : Link := { link with lock := link.lock.release }

-- The first half of an exchange inside the lock.
def send (link : Link) (id : TaskId) (attempt : Nat) (request : Request) : Link :=
  match link.stream with
  | none => link.release.raised id attempt request .unavailable
  | some stream =>
      match request.frame.encode with
      | .error _ => link.release.raised id attempt request .protocol
      | .ok _ =>
          (link.emit (.wrote stream request.frame)).put id
            ⟨attempt, .exchanging request .draining⟩

def exchange (link : Link) (id : TaskId) (attempt : Nat) (request : Request) : Link :=
  let asked := { link with lock := link.lock.acquire id }
  if link.lock.idle then asked.send id attempt request
  else asked.put id ⟨attempt, .exchanging request .queued⟩

def connect (link : Link) (id : TaskId) (attempt : Nat) : Link :=
  match link.stream with
  | some stream => (link.close stream).put id ⟨attempt, .hangingUp⟩
  | none => link.put id ⟨attempt, .opening⟩

-- One attempt of _read_with_retry.
def attempt (link : Link) (id : TaskId) (attempt : Nat) : Link :=
  if link.isConnected then link.exchange id attempt .status else link.connect id attempt

-- The socket is open.
def connected (link : Link) (id : TaskId) (attempt : Nat) : Link :=
  { link.emit (.opened link.opened) with
    stream := some link.opened, opened := link.opened + 1, pending := [] }.exchange id attempt
      .passcode

-- The answer of an exchange has come and the lock is left.
def answered (link : Link) (id : TaskId) (attempt : Nat) (request : Request) (frame : Frame) :
    Link :=
  match request with
  | .passcode =>
      match decodeLengthPrefixed frame.payload with
      | .error _ => link.undo id attempt .protocol
      | .ok passcode =>
          match encodeLengthPrefixed passcode with
          | .error _ => link.undo id attempt .protocol
          | .ok payload => link.exchange id attempt (.login payload)
  | .login _ => link.exchange id attempt .status
  | .status => link.finish id

-- One turn of the loop of _exchange, with _next_frame in it.
def turn (link : Link) (id : TaskId) (attempt : Nat) (request : Request) : Link :=
  match link.pending with
  | (origin, frame) :: rest =>
      let popped := { link.emit (.received origin frame) with pending := rest }
      if frame.command = request.expect.number then
        popped.release.answered id attempt request frame
      else if frame.command = Command.heartbeatRequest.number then
        match link.stream with
        | none => popped.release.raised id attempt request .unavailable
        | some stream =>
            (popped.emit (.wrote stream { command := Command.heartbeatResponse.number })).put id
              ⟨attempt, .exchanging request .draining⟩
      else popped
  | [] =>
      match link.stream with
      | none => link.release.raised id attempt request .unavailable
      | some stream => link.put id ⟨attempt, .exchanging request (.reading stream)⟩

-- send_control up to its drain. It takes no lock.
def sendControl (link : Link) (id : TaskId) (attrFlags : Nat) (attrVals : Bytes) : Link :=
  let counted := { link with sequence := (link.sequence + 1) % 2 ^ 32 }
  match buildControlPayload counted.sequence attrFlags attrVals, link.stream with
  | .ok payload, some stream =>
      let frame : Frame := { command := Command.controlRequest.number, payload }
      match frame.encode with
      | .error _ => counted
      | .ok _ => (counted.emit (.wrote stream frame)).put id ⟨0, .controlling⟩
  | _, _ => counted

def resume (link : Link) (id : TaskId) (task : Task) : Option Link :=
  match task.point with
  | .hangingUp => some (link.put id ⟨task.attempt, .opening⟩)
  | .undoing error => some (link.caught id task.attempt error)
  | .retreating error =>
      if error = .misbehaved ∨ task.attempt = ATTEMPTS then some (link.finish id)
      else some (link.attempt id (task.attempt + 1))
  | .closing => some (link.finish id)
  | _ => none

-- A cancelled exchange leaves the lock, and nothing else is undone.
def cancel (link : Link) (id : TaskId) (task : Task) : Link :=
  match task.point with
  | .exchanging _ .queued => { link with lock := link.lock.abandon id }.finish id
  | .exchanging _ _ => link.release.finish id
  | _ => link.finish id

-- A drain or a read raises.
def fails (link : Link) (id : TaskId) (task : Task) (error : ClientError) : Option Link :=
  match task.point with
  | .exchanging request .draining | .exchanging request (.reading _) =>
      some (link.release.raised id task.attempt request error)
  | .controlling => some (link.finish id)
  | _ => none

def step (link : Link) : Label → Option Link
  | .read id => if (link.tasks.get? id).isNone then some (link.attempt id 1) else none
  | .control id attrFlags attrVals =>
      if (link.tasks.get? id).isNone then some (link.sendControl id attrFlags attrVals) else none
  | .aclose id =>
      if (link.tasks.get? id).isNone then
        match link.stream with
        | some stream => some ((link.close stream).put id ⟨0, .closing⟩)
        | none => some link
      else none
  | .resume id => (link.tasks.get? id).bind fun task => link.resume id task
  | .connected id =>
      match link.tasks.get? id with
      | some ⟨attempt, .opening⟩ => some (link.connected id attempt)
      | _ => none
  | .refused id =>
      match link.tasks.get? id with
      | some ⟨attempt, .opening⟩ => some (link.caught id attempt .unavailable)
      | _ => none
  | .enter id =>
      match link.tasks.get? id with
      | some ⟨attempt, .exchanging request .queued⟩ =>
          (link.lock.grant id).map fun lock => { link with lock }.send id attempt request
      | _ => none
  | .drained id =>
      match link.tasks.get? id with
      | some ⟨attempt, .exchanging request .draining⟩ =>
          some (link.put id ⟨attempt, .exchanging request .turning⟩)
      | some ⟨_, .controlling⟩ => some (link.finish id)
      | _ => none
  | .turn id =>
      match link.tasks.get? id with
      | some ⟨attempt, .exchanging request .turning⟩ => some (link.turn id attempt request)
      | _ => none
  | .chunk id frames =>
      match link.tasks.get? id with
      | some ⟨attempt, .exchanging request (.reading stream)⟩ =>
          some ({ link with pending := link.pending ++ frames.map fun frame => (stream, frame) }.put
            id ⟨attempt, .exchanging request .turning⟩)
      | _ => none
  | .fails id => (link.tasks.get? id).bind fun task => link.fails id task .unavailable
  | .misbehaves id =>
      match link.tasks.get? id with
      | some ⟨attempt, .exchanging request (.reading _)⟩ =>
          some (link.release.raised id attempt request .misbehaved)
      | _ => none
  | .breaks stream => some { link with isClosing := Function.update link.isClosing stream true }
  | .cancel id => (link.tasks.get? id).map fun task => link.cancel id task

end Link

end Homeflow.Bestway.Tasks
