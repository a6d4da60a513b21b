import Homeflow.Config.Container

-- Who may come in at all.
namespace Homeflow

namespace Auth

variable {digest : String → String} {ttl : Time} {calls : List Call} {key : String} {entry : Issued}

-- No ticket is held that was not issued.
theorem issued_of_held (h : (storeAfter digest ttl calls).tickets.get? key = some entry) :
    ∃ issuedAt ticket, Call.issue issuedAt entry.principal ticket ∈ calls := by
  induction calls using List.reverseRecOn generalizing key entry with
  | nil => simp [storeAfter] at h
  | append_singleton calls call ih =>
      have hearlier : ∀ {now : Time} {key : String},
          ((storeAfter digest ttl calls).prune now).tickets.get? key = some entry →
            ∃ issuedAt ticket, Call.issue issuedAt entry.principal ticket ∈ calls ++ [call] :=
        fun hheld => by
          obtain ⟨issuedAt, ticket, hissue⟩ := ih (TicketStore.get?_prune.mp hheld).1
          exact ⟨issuedAt, ticket, List.mem_append_left _ hissue⟩
      rw [storeAfter_concat] at h
      cases call with
      | issue now principal ticket =>
          rcases TicketStore.get?_issue.mp h with ⟨-, rfl⟩ | ⟨-, hold⟩
          · exact ⟨now, ticket, List.mem_append_right _ (List.mem_singleton_self _)⟩
          · exact hearlier (TicketStore.get?_makeRoom.mp hold).1
      | redeem now presented =>
          rw [TicketStore.after, TicketStore.redeem_eq] at h
          split at h
          · exact hearlier h
          · split at h
            · exact hearlier h
            · exact hearlier (OrderedDict.get?_erase_eq_some.mp h).2

end Auth

namespace Api

-- The credential that is shown with a visit.
def Visit.credential? : Visit → Option String
  | .request attempt | .exchange attempt _ _ => bearerToken attempt.authorization
  | .handshake socket => bearerToken socket.authorization

-- Who is let through.
def Reply.principal? : Reply → Option Principal
  | .refused _ => none
  | .admitted principal | .issued principal _ | .opened principal _ => some principal

section Gate

variable {sha256Hex : String → String} {registry : Auth.ClientRegistry} {ttl : Time}
  {limiter : RateLimiter} {before : List Visit} {visit : Visit} {principal : Principal}

theorem registered_of_ok {attempt : Attempt}
    (h : (authenticate sha256Hex registry limiter attempt).1 = .ok principal) :
    ∃ token, bearerToken attempt.authorization = some token ∧
      Registered sha256Hex registry token principal := by
  rcases @authenticate_eq sha256Hex registry limiter attempt with
    ⟨found, hvalid, hok⟩ | ⟨-, error, after, herror⟩
  · rw [hok] at h
    obtain rfl := Except.ok.inj h
    obtain ⟨token, htoken, hregistered⟩ := registered_of_authenticate hvalid
    exact ⟨token, htoken, hregistered⟩
  · rw [herror] at h
    cases h

theorem handshake_cases (gate : Gate) (socket : Handshake) :
    (∃ error, (gate.visit sha256Hex registry (.handshake socket)).1 = .refused error) ∨
      ∃ principal subprotocol,
        (gate.visit sha256Hex registry (.handshake socket)).1 = .opened principal subprotocol := by
  simp only [Gate.visit, Gate.authenticateWebsocket]
  split
  · split
    · exact .inr ⟨_, _, rfl⟩
    · exact .inl ⟨_, rfl⟩
  · split
    · exact .inl ⟨_, rfl⟩
    · split
      · exact .inl ⟨_, rfl⟩
      · exact .inr ⟨_, _, rfl⟩

-- Whoever is let through has shown a credential that is registered, then or before.
theorem registered_of_admitted
    (h : (answer sha256Hex registry ttl limiter before visit).principal? = some principal) :
    ∃ earlier ∈ before ++ [visit], ∃ token, earlier.credential? = some token ∧
      Registered sha256Hex registry token principal := by
  have hself : visit ∈ before ++ [visit] := List.mem_append_right _ (List.mem_singleton_self _)
  cases visit with
  | request attempt =>
      simp only [answer, Gate.visit] at h
      split at h
      · next hok =>
        obtain rfl := Option.some.inj h
        exact ⟨_, hself, registered_of_ok (congrArg Prod.fst hok)⟩
      · cases h
  | exchange attempt issuedAt ticket =>
      simp only [answer, Gate.visit] at h
      split at h
      · next hok =>
        obtain rfl := Option.some.inj h
        exact ⟨_, hself, registered_of_ok (congrArg Prod.fst hok)⟩
      · cases h
  | handshake socket =>
      obtain ⟨subprotocol, hopened⟩ : ∃ subprotocol, answer sha256Hex registry ttl limiter before
          (.handshake socket) = .opened principal subprotocol := by
        rcases @handshake_cases sha256Hex registry (gateAfter sha256Hex registry ttl limiter before)
          socket with ⟨error, hrefused⟩ | ⟨found, subprotocol, hopened⟩
        · rw [answer, hrefused] at h
          cases h
        · rw [answer, hopened] at h
          exact ⟨subprotocol, Option.some.inj h ▸ hopened⟩
      obtain ⟨-, token, htoken, hregistered⟩ | ⟨_, ticket, -, -, hredeemed, -⟩ :=
        opened_cases hopened
      · exact ⟨_, hself, token, htoken, hregistered⟩
      · rw [gateAfter, after_tickets] at hredeemed
        obtain ⟨_, entry, -, -, hheld, -, rfl, -⟩ := Auth.TicketStore.redeem_ok hredeemed
        obtain ⟨issuedAt, drawn, hissue⟩ := Auth.issued_of_held hheld
        obtain ⟨attempt, token, hexchange, htoken, hregistered⟩ := mem_callsOf_issue hissue
        exact ⟨_, List.mem_append_left _ hexchange, token, htoken, hregistered⟩

end Gate

end Api

namespace Config

variable {sha256Hex : String → String} {digest : String → String → Uuid}
  {read : String → Option Bestway.Layout} {settings : Settings} {container : Container}

-- The one client there can be.
def Settings.developmentPrincipal (digest : String → String → Uuid) (settings : Settings) :
    Principal where
  userId := Identity.deriveUuid digest settings.effectiveIdSalt ["user", "development"]
  clientId := Identity.deriveUuid digest settings.effectiveIdSalt ["client", "development"]
  displayName := "Development client"

theorem registered_development {shown : String} {principal : Principal}
    (h : Api.Registered sha256Hex (buildClientRegistry settings sha256Hex digest) shown
      principal) :
    settings.env ≠ .production ∧ principal = settings.developmentPrincipal digest ∧
      ∃ token, settings.devClientToken = some token ∧ sha256Hex token = sha256Hex shown := by
  obtain ⟨client, hclient, -, hdigest, rfl⟩ := h
  unfold buildClientRegistry at hclient
  split at hclient
  · cases hclient
  · next token htoken =>
    split at hclient
    · cases hclient
    · next hdevelopment =>
      obtain rfl := List.mem_singleton.mp hclient
      exact ⟨hdevelopment, rfl, token, htoken, hdigest⟩

-- The demo on the developer's own machine.
def demoSettings : Settings where
  devClientToken := some "secret"
  bounded := by decide +kernel
  closed := Fields.failClosed_eq_none_iff.mp (by decide +kernel)

end Config

end Homeflow
