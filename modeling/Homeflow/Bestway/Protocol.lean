import Mathlib.Algebra.Group.Nat.Defs
import Mathlib.Tactic.Common

namespace Homeflow.Bestway

abbrev Bytes := List UInt8

def MAGIC : Bytes := [0x00, 0x00, 0x00, 0x03]
def MAX_PAYLOAD_BYTES : Nat := 2048
def MAX_VARINT_BYTES : Nat := 4

inductive Command where
  | deviceInfoRequest | deviceInfoResponse
  | passcodeRequest | passcodeResponse
  | loginRequest | loginResponse
  | heartbeatRequest | heartbeatResponse
  | statusRequest | statusResponse
  | controlRequest | controlResponse
deriving DecidableEq, Repr

def Command.number : Command → Nat
  | .deviceInfoRequest => 0x0003
  | .deviceInfoResponse => 0x0004
  | .passcodeRequest => 0x0006
  | .passcodeResponse => 0x0007
  | .loginRequest => 0x0008
  | .loginResponse => 0x0009
  | .heartbeatRequest => 0x0015
  | .heartbeatResponse => 0x0016
  | .statusRequest => 0x0090
  | .statusResponse => 0x0091
  | .controlRequest => 0x0093
  | .controlResponse => 0x0094

-- A command this implementation does not know is its bare number.
structure Frame where
  command : Nat
  payload : Bytes := []
  flag : UInt8 := 0x00
deriving DecidableEq

-- More bytes are needed, which is normal on a stream, or no bytes can help.
inductive ProtocolError where
  | incompleteFrame (message : String)
  | refused (message : String)
deriving DecidableEq

def STATUS_READ_PAYLOAD : Bytes := [0x02]

-- The big-endian bytes of a number that fits them.
def toBytesBig : Nat → Nat → Bytes
  | 0, _ => []
  | width + 1, value => UInt8.ofNat (value / 256 ^ width % 256) :: toBytesBig width value

def fromBytesBig (bytes : Bytes) : Nat := bytes.foldl (fun value byte => value * 256 + byte.toNat) 0

def encodeLengthPrefixed (data : Bytes) : Except ProtocolError Bytes :=
  if data.length > 0xFFFF then .error (.refused "field is too long to length-prefix")
  else .ok (toBytesBig 2 data.length ++ data)

-- A payload that omits the prefix is taken as it is.
def decodeLengthPrefixed (payload : Bytes) : Except ProtocolError Bytes :=
  if payload.length < 2 then .error (.refused "length-prefixed field is truncated")
  else
    let body := payload.drop 2
    if fromBytesBig (payload.take 2) ≠ body.length then
      if payload.length > MAX_PAYLOAD_BYTES then
        .error (.refused "length-prefixed field exceeds the permitted maximum")
      else .ok payload
    else .ok body

def P0_ACTION_CONTROL : UInt8 := 0x01
def CONTROL_ATTR_FLAGS_BYTES : Nat := 2
def CONTROL_SEQUENCE_BYTES : Nat := 4

def buildControlPayload (sequence attrFlags : Nat) (attrVals : Bytes) :
    Except ProtocolError Bytes :=
  if ¬sequence < 2 ^ 32 then .error (.refused "control sequence number out of range")
  else if ¬attrFlags < 2 ^ (8 * CONTROL_ATTR_FLAGS_BYTES) then
    .error (.refused "attribute flags do not fit the field")
  else if attrVals = [] then .error (.refused "a control request needs an attribute value block")
  else
    .ok (toBytesBig CONTROL_SEQUENCE_BYTES sequence ++ [P0_ACTION_CONTROL] ++
      toBytesBig CONTROL_ATTR_FLAGS_BYTES attrFlags ++ attrVals)

-- Seven bits per byte, low group first. The first argument is how many bytes are left.
def encodeVarint : Nat → Nat → Except ProtocolError Bytes
  | 0, _ => .error (.refused "varint too large to encode")
  | left + 1, value =>
      if value >>> 7 = 0 then .ok [UInt8.ofNat (value &&& 0x7F)]
      else
        (encodeVarint left (value >>> 7)).map fun rest =>
          UInt8.ofNat ((value &&& 0x7F) ||| 0x80) :: rest

-- The value and how many bytes it took, from the given index on.
def decodeVarint (data : Bytes) : Nat → Nat → Nat → Except ProtocolError (Nat × Nat)
  | 0, _, _ => .error (.refused "varint exceeds the permitted length")
  | left + 1, index, value =>
      match data[index]? with
      | none => .error (.incompleteFrame "varint is truncated")
      | some byte =>
          let value := value ||| ((byte.toNat &&& 0x7F) <<< (7 * index))
          if byte.toNat &&& 0x80 = 0 then .ok (value, index + 1)
          else decodeVarint data left (index + 1) value

def Frame.encode (frame : Frame) : Except ProtocolError Bytes :=
  if frame.payload.length > MAX_PAYLOAD_BYTES then
    .error (.refused "refusing to send an oversized payload")
  else
    let body := frame.flag :: toBytesBig 2 frame.command ++ frame.payload
    (encodeVarint MAX_VARINT_BYTES body.length).map fun length => MAGIC ++ length ++ body

-- One frame from the head of the data, and how many bytes it consumed.
def decodeFrame (data : Bytes) : Except ProtocolError (Frame × Nat) :=
  if data.length < MAGIC.length then .error (.incompleteFrame "magic is truncated")
  else if ¬MAGIC.isPrefixOf data then
    .error (.refused "frame does not start with the protocol magic")
  else
    match decodeVarint (data.drop MAGIC.length) MAX_VARINT_BYTES 0 0 with
    | .error error => .error error
    | .ok (length, consumed) =>
        if length > MAX_PAYLOAD_BYTES then
          .error (.refused "declared frame length exceeds the permitted maximum")
        else if length < 3 then
          .error (.refused "declared frame length is too small to hold a command")
        else
          let start := MAGIC.length + consumed
          if data.length < start + length then .error (.incompleteFrame "frame body is truncated")
          else
            let body := (data.drop start).take length
            .ok ({ command := fromBytesBig ((body.drop 1).take 2), payload := body.drop 3
                   flag := body.headD 0 }, start + length)

example : (Frame.encode { command := Command.statusRequest.number
                          payload := STATUS_READ_PAYLOAD }).bind decodeFrame =
    .ok ({ command := 0x0090, payload := [0x02] }, 9) := by decide +kernel

end Homeflow.Bestway
