import Homeflow.HomeAssistant.Entities
import Homeflow.Integrations.Base

namespace Homeflow.HomeAssistant

-- Ten megabytes.
def MAX_RESPONSE_BYTES : Nat := 10 * 1024 * 1024

-- What response.json() comes to.
inductive Body where
  | json (payload : Json)
  | valueError
  -- Any other exception, as for JSON that is nested too deeply.
  | otherError

structure Response where
  statusCode : Nat
  contentLength : Nat
  body : Body

-- How a request to the instance ends.
inductive Exchange where
  -- An httpx.HTTPError before anything of the request was sent, or behind that.
  | unreachable
  | lost
  | answered (response : Response)

-- What the client and the provider raise.
inductive HaError where
  | unavailable | rejected | other
deriving DecidableEq, Repr

def HaError.exception : HaError → ProviderException
  | .unavailable => .providerError PROVIDER_UNAVAILABLE
  | .rejected => .providerError PROVIDER_REJECTED
  | .other => .other

def request : Exchange → Except HaError Json
  | .unreachable | .lost => .error .unavailable
  | .answered response =>
      if response.statusCode = 401 ∨ response.statusCode = 403 then .error .unavailable
      else if response.statusCode = 400 then .error .rejected
      else if response.statusCode ≥ 400 then .error .unavailable
      else if response.contentLength > MAX_RESPONSE_BYTES then .error .unavailable
      else if response.contentLength = 0 then .ok .null
      else
        match response.body with
        | .json payload => .ok payload
        | .valueError => .error .unavailable
        | .otherError => .error .other

-- An entity that makes no sense is skipped, not fatal.
def parseEntities (payload : List Json) : Except HaError (List HaEntity) :=
  let parsed := payload.filterMap HaEntity.validate
  if payload ≠ [] ∧ parsed = [] then .error .unavailable else .ok parsed

def states (exchange : Exchange) : Except HaError (List HaEntity) :=
  match request exchange with
  | .error error => .error error
  | .ok (.arr items) => parseEntities items
  | .ok _ => .error .unavailable

def state (exchange : Exchange) : Except HaError HaEntity :=
  match request exchange with
  | .error error => .error error
  | .ok payload =>
      match HaEntity.validate payload with
      | some entity => .ok entity
      | none => .error .unavailable

-- The entities the instance says it changed.
def callService (exchange : Exchange) : Except HaError (List HaEntity) :=
  match request exchange with
  | .error error => .error error
  | .ok (.arr items) => parseEntities items
  | .ok _ => .ok []

end Homeflow.HomeAssistant
