import Homeflow.Records

namespace Homeflow.Auth

-- The credential itself is never stored, only its digest.
structure RegisteredClient where
  clientId : Uuid
  userId : Uuid
  displayName : String
  tokenSha256 : String
  revoked : Bool := false

def RegisteredClient.principal (client : RegisteredClient) : Principal where
  userId := client.userId
  clientId := client.clientId
  displayName := client.displayName

structure ClientRegistry where
  clients : List RegisteredClient := []

namespace ClientRegistry

variable (sha256Hex : String → String)

-- Every client is compared, and the last one that matches is taken. None:
-- UnauthenticatedError.
def authenticate (registry : ClientRegistry) (presentedToken : Option String) :
    Option Principal :=
  let digest := sha256Hex (presentedToken.getD "")
  let found : Option RegisteredClient := registry.clients.foldl (fun found client =>
    if digest = client.tokenSha256 ∧ ¬client.revoked then some client else found) none
  match found, presentedToken with
  | none, _ | _, none => none
  | some client, some token => if token = "" then none else some client.principal

@[simp] theorem authenticate_none (registry : ClientRegistry) :
    registry.authenticate sha256Hex none = none := by
  unfold authenticate
  dsimp only
  split
  · rfl
  · rfl
  · next hnone => cases hnone

@[simp] theorem authenticate_nobody (presentedToken : Option String) :
    (⟨[]⟩ : ClientRegistry).authenticate sha256Hex presentedToken = none := rfl

-- A token is valid where its client is registered.
theorem authenticate_registered (client : RegisteredClient) (hrevoked : client.revoked = false)
    {token : String} (htoken : token ≠ "") (hdigest : client.tokenSha256 = sha256Hex token) :
    (⟨[client]⟩ : ClientRegistry).authenticate sha256Hex (some token) = some client.principal := by
  simp [authenticate, hrevoked, htoken, hdigest]

end ClientRegistry

end Homeflow.Auth
