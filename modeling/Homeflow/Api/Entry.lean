import Homeflow.Api.Deps
import Homeflow.Auth.Redemption

-- Who comes in: by a credential with each request, or by a ticket it was exchanged for.
namespace Homeflow.Api

open Auth

-- What the server echoes, so that no ticket is repeated in its answer.
def WEBSOCKET_SUBPROTOCOL : String := "homeflow.v1"
def PROTOCOL_PREFIX : String := "homeflow.ticket."

def ticketProtocol (ticket : String) : String := PROTOCOL_PREFIX ++ ticket

def ticketFromProtocol (protocol : String) : Option String :=
  if ¬PROTOCOL_PREFIX.toList.isPrefixOf protocol.toList then none
  else
    let ticket := String.ofList (protocol.toList.drop PROTOCOL_PREFIX.length)
    if ticket = "" then none else some ticket

-- The items of the header that are not blank.
def offered (header : Option String) : List String :=
  (((header.getD "").toList.splitOn ',').map fun item => strip (String.ofList item)).filter
    fun item => item ≠ ""

-- Only the first ticket among them is tried.
def offeredTicket (protocols : List String) : Option (String × String) :=
  protocols.findSome? fun protocol =>
    (ticketFromProtocol protocol).map fun ticket => (protocol, ticket)

structure Handshake extends Attempt where
  protocols : Option String
  -- When its ticket is redeemed.
  redeemedAt : Time

inductive Visit where
  | request (attempt : Attempt)
  -- POST /v1/auth/ws-ticket, with the ticket that is drawn if it is let through.
  | exchange (attempt : Attempt) (issuedAt : Time) (ticket : Ticket)
  | handshake (handshake : Handshake)

inductive Reply where
  | refused (error : AuthError)
  | admitted (principal : Principal)
  | issued (principal : Principal) (ticket : Ticket)
  | opened (principal : Principal) (subprotocol : Option String)

-- What the answers change.
structure Gate where
  tickets : TicketStore
  limiter : RateLimiter

namespace Gate

-- Count the failure, and say so differently once there are too many.
def refuse (gate : Gate) (attempt : Attempt) : Reply × Gate :=
  let (allowed, limiter) := gate.limiter.allow attempt.time attempt.peer
  (.refused (if allowed then .unauthenticated else .rateLimited), { gate with limiter })

variable (sha256Hex : String → String) (registry : ClientRegistry)

def authenticateWebsocket (gate : Gate) (handshake : Handshake) : Reply × Gate :=
  match bearerToken handshake.authorization with
  | some token =>
      match registry.authenticate sha256Hex (some token) with
      | some principal => (.opened principal none, gate)
      | none => gate.refuse handshake.toAttempt
  | none =>
      let protocols := offered handshake.protocols
      match offeredTicket protocols with
      | none => gate.refuse handshake.toAttempt
      | some (protocol, ticket) =>
          match gate.tickets.redeem sha256Hex handshake.redeemedAt (some ticket) with
          | (.error _, tickets) => { gate with tickets }.refuse handshake.toAttempt
          | (.ok principal, tickets) =>
              let selected := if WEBSOCKET_SUBPROTOCOL ∈ protocols then WEBSOCKET_SUBPROTOCOL
                else protocol
              (.opened principal (some selected), { gate with tickets })

-- Visits come one at a time: none looks at the tickets while another one does.
def visit (gate : Gate) : Visit → Reply × Gate
  | .request attempt =>
      match authenticate sha256Hex registry gate.limiter attempt with
      | (.ok principal, limiter) => (.admitted principal, { gate with limiter })
      | (.error error, limiter) => (.refused error, { gate with limiter })
  | .exchange attempt issuedAt ticket =>
      match authenticate sha256Hex registry gate.limiter attempt with
      | (.ok principal, limiter) =>
          (.issued principal ticket,
            { tickets := gate.tickets.issue sha256Hex issuedAt principal ticket, limiter })
      | (.error error, limiter) => (.refused error, { gate with limiter })
  | .handshake handshake => gate.authenticateWebsocket sha256Hex registry handshake

def after (gate : Gate) (visits : List Visit) : Gate :=
  visits.foldl (fun gate visit => (gate.visit sha256Hex registry visit).2) gate

end Gate

section Calls

variable (sha256Hex : String → String) (registry : ClientRegistry)

-- The call a visit makes of the ticket store.
def Visit.call? : Visit → Option Call
  | .request _ => none
  | .exchange attempt issuedAt ticket =>
      (registry.authenticate sha256Hex (bearerToken attempt.authorization)).map fun principal =>
        .issue issuedAt principal ticket
  | .handshake socket =>
      match bearerToken socket.authorization with
      | some _ => none
      | none => (offeredTicket (offered socket.protocols)).map fun (_, ticket) =>
          .redeem socket.redeemedAt (some ticket)

def callsOf (visits : List Visit) : List Call := visits.filterMap (Visit.call? sha256Hex registry)

-- The principal is that of a client which is registered for the token, and not revoked.
def Registered (token : String) (principal : Principal) : Prop :=
  ∃ client ∈ registry.clients, client.revoked = false ∧ client.tokenSha256 = sha256Hex token ∧
    client.principal = principal

end Calls

section Protocols

theorem ticketFromProtocol_ticketProtocol {ticket : String} (h : ticket ≠ "") :
    ticketFromProtocol (ticketProtocol ticket) = some ticket := by
  have hprefix : PROTOCOL_PREFIX.toList.isPrefixOf (ticketProtocol ticket).toList = true := by
    rw [List.isPrefixOf_iff_prefix, ticketProtocol, String.toList_append]
    exact List.prefix_append _ _
  have hrest : (ticketProtocol ticket).toList.drop PROTOCOL_PREFIX.length = ticket.toList := by
    rw [ticketProtocol, String.toList_append, ← String.length_toList, List.drop_left]
  simp only [ticketFromProtocol, hprefix, not_true_eq_false, if_false, hrest, String.ofList_toList,
    h]

-- The header of the web client, which offers the version and its ticket.
def webOffer (ticket : String) : String := WEBSOCKET_SUBPROTOCOL ++ ", " ++ ticketProtocol ticket

-- The characters of token_urlsafe are none that a header is split or stripped at.
def Urlsafe (ticket : String) : Prop :=
  ∀ char ∈ ticket.toList, isSpace char = false ∧ char ≠ ','

theorem urlsafe_of_all {text : String}
    (h : text.toList.all (fun char => !isSpace char && char != ',') = true) : Urlsafe text := by
  intro char hchar
  simpa using List.all_eq_true.mp h char hchar

theorem strip_spaced {text : String} (h : ∀ char ∈ text.toList, isSpace char = false) :
    strip (String.ofList (' ' :: text.toList)) = text := by
  have hspace : strip (String.ofList (' ' :: text.toList)) = strip text := by
    rw [strip, strip, String.toList_ofList, List.dropWhile_cons_of_pos (by decide)]
  rw [hspace, strip_of_unspaced h]

theorem offered_webOffer {ticket : String} (h : Urlsafe ticket) :
    offered (some (webOffer ticket)) = [WEBSOCKET_SUBPROTOCOL, ticketProtocol ticket] := by
  have hscheme : Urlsafe PROTOCOL_PREFIX := urlsafe_of_all (by decide)
  have hversion : Urlsafe WEBSOCKET_SUBPROTOCOL := urlsafe_of_all (by decide)
  have hticket : ∀ char ∈ (ticketProtocol ticket).toList, isSpace char = false ∧ char ≠ ',' := by
    intro char hchar
    rw [ticketProtocol, String.toList_append, List.mem_append] at hchar
    exact hchar.elim (hscheme char) (h char)
  have hheader : (webOffer ticket).toList = WEBSOCKET_SUBPROTOCOL.toList ++ ',' ::
      (' ' :: (ticketProtocol ticket).toList) := by
    simp [webOffer, List.append_assoc]
  have hlast : ',' ∉ ' ' :: (ticketProtocol ticket).toList := by
    simp only [List.mem_cons, not_or]
    exact ⟨by decide, fun hmem => (hticket _ hmem).2 rfl⟩
  have hnonempty : ticketProtocol ticket ≠ "" := fun hempty => by
    have hlength := congrArg String.toList hempty
    simp [ticketProtocol, PROTOCOL_PREFIX] at hlength
  rw [offered, Option.getD_some, hheader, List.splitOn_append_cons_self_of_not_mem
    fun hmem => (hversion _ hmem).2 rfl, List.splitOn_eq_singleton hlast]
  simp only [List.map_cons, List.map_nil, String.ofList_toList,
    strip_of_unspaced fun char hchar => (hversion char hchar).1,
    strip_spaced fun char hchar => (hticket char hchar).1]
  simp [hnonempty, WEBSOCKET_SUBPROTOCOL]

-- What the web client offers is what the server looks for.
theorem offeredTicket_webOffer {ticket : String} (hne : ticket ≠ "") (h : Urlsafe ticket) :
    offeredTicket (offered (some (webOffer ticket))) = some (ticketProtocol ticket, ticket) := by
  have hversion : ticketFromProtocol WEBSOCKET_SUBPROTOCOL = none := by decide
  rw [offered_webOffer h]
  simp [offeredTicket, hversion, ticketFromProtocol_ticketProtocol hne]

end Protocols

section Visits

variable {sha256Hex : String → String} {registry : ClientRegistry} {gate : Gate}

theorem registered_of_authenticate {presented : Option String} {principal : Principal}
    (h : registry.authenticate sha256Hex presented = some principal) :
    ∃ token, presented = some token ∧ Registered sha256Hex registry token principal := by
  have hwalk : ∀ (clients : List RegisteredClient) (found : Option RegisteredClient) client,
      clients.foldl (fun found client => if sha256Hex (presented.getD "") = client.tokenSha256 ∧
        ¬client.revoked then some client else found) found = some client →
      found = some client ∨ client ∈ clients ∧ sha256Hex (presented.getD "") =
        client.tokenSha256 ∧ client.revoked = false := by
    intro clients
    induction clients with
    | nil => exact fun _ _ hfound => .inl hfound
    | cons first rest ih =>
        intro found client hfound
        rcases ih _ client hfound with hsome | ⟨hmem, hmatches⟩
        · dsimp only at hsome
          split at hsome
          · next hmatches =>
            obtain rfl := Option.some.inj hsome
            exact .inr ⟨List.mem_cons_self, hmatches.1, by simpa using hmatches.2⟩
          · exact .inl hsome
        · exact .inr ⟨List.mem_cons_of_mem _ hmem, hmatches⟩
  unfold ClientRegistry.authenticate at h
  dsimp only at h
  split at h
  · cases h
  · cases h
  · next client token hfound =>
    split at h
    · cases h
    · obtain rfl := Option.some.inj h
      rcases hwalk _ _ _ hfound with hnone | ⟨hmem, hdigest, hrevoked⟩
      · cases hnone
      · exact ⟨token, rfl, client, hmem, hrevoked, hdigest.symm, rfl⟩

theorem authenticate_eq (limiter : RateLimiter) (attempt : Attempt) :
    (∃ principal, registry.authenticate sha256Hex (bearerToken attempt.authorization) =
        some principal ∧
      authenticate sha256Hex registry limiter attempt = (.ok principal, limiter)) ∨
    (registry.authenticate sha256Hex (bearerToken attempt.authorization) = none ∧
      ∃ error limiter', authenticate sha256Hex registry limiter attempt =
        (.error error, limiter')) := by
  unfold authenticate
  split
  · next principal hvalid => exact .inl ⟨principal, hvalid, rfl⟩
  · next hnone => exact .inr ⟨hnone, _, _, rfl⟩

theorem refuse_tickets (attempt : Attempt) : (gate.refuse attempt).2.tickets = gate.tickets := rfl

-- Whatever comes, the store sees at most one call.
theorem visit_tickets (visit : Visit) :
    (gate.visit sha256Hex registry visit).2.tickets =
      ((visit.call? sha256Hex registry).map (gate.tickets.after sha256Hex)).getD gate.tickets := by
  cases visit with
  | request attempt =>
      unfold Gate.visit
      rcases @authenticate_eq sha256Hex registry gate.limiter attempt with
        ⟨_, _, hok⟩ | ⟨_, _, _, herror⟩
      · simp only [hok, Visit.call?, Option.map_none, Option.getD_none]
      · simp only [herror, Visit.call?, Option.map_none, Option.getD_none]
  | exchange attempt issuedAt ticket =>
      unfold Gate.visit
      rcases @authenticate_eq sha256Hex registry gate.limiter attempt with
        ⟨_, hvalid, hok⟩ | ⟨hnone, _, _, herror⟩
      · simp only [hok, Visit.call?, hvalid, Option.map_some, Option.getD_some, TicketStore.after]
      · simp only [herror, Visit.call?, hnone, Option.map_none, Option.getD_none]
  | handshake socket =>
      simp only [Gate.visit, Gate.authenticateWebsocket, Visit.call?]
      split
      · split <;> rfl
      · split
        · next hnone => simp only [hnone, Option.map_none, Option.getD_none, refuse_tickets]
        · next protocol ticket hticket =>
          simp only [hticket, Option.map_some, Option.getD_some, TicketStore.after]
          split
          · next hrefused => rw [refuse_tickets, hrefused]
          · next hredeemed => rw [hredeemed]

theorem after_concat (visits : List Visit) (visit : Visit) :
    gate.after sha256Hex registry (visits ++ [visit]) =
      ((gate.after sha256Hex registry visits).visit sha256Hex registry visit).2 := by
  rw [Gate.after, List.foldl_append]
  rfl

theorem callsOf_append (first second : List Visit) :
    callsOf sha256Hex registry (first ++ second) =
      callsOf sha256Hex registry first ++ callsOf sha256Hex registry second :=
  List.filterMap_append

-- The store of the gate is the one that its calls lead to.
theorem after_tickets {ttl : Time} (limiter : RateLimiter) (visits : List Visit) :
    (Gate.after sha256Hex registry ⟨{ ttl }, limiter⟩ visits).tickets =
      storeAfter sha256Hex ttl (callsOf sha256Hex registry visits) := by
  induction visits using List.reverseRecOn with
  | nil => rfl
  | append_singleton visits visit ih =>
      rw [after_concat, visit_tickets, ih, callsOf_append]
      cases hcall : visit.call? sha256Hex registry with
      | none => simp [callsOf, hcall]
      | some call => simp [callsOf, hcall, storeAfter]

-- A handshake goes through by a credential of its own, or else by a ticket.
theorem opened_cases {socket : Handshake} {principal : Principal} {subprotocol : Option String}
    (h : (gate.visit sha256Hex registry (.handshake socket)).1 = .opened principal subprotocol) :
    (subprotocol = none ∧ ∃ token, bearerToken socket.authorization = some token ∧
      Registered sha256Hex registry token principal) ∨
    ∃ protocol ticket, bearerToken socket.authorization = none ∧
      offeredTicket (offered socket.protocols) = some (protocol, ticket) ∧
      (gate.tickets.redeem sha256Hex socket.redeemedAt (some ticket)).1 = .ok principal ∧
      subprotocol = some (if WEBSOCKET_SUBPROTOCOL ∈ offered socket.protocols then
        WEBSOCKET_SUBPROTOCOL else protocol) := by
  simp only [Gate.visit, Gate.authenticateWebsocket] at h
  split at h
  · next token htoken =>
    split at h
    · next valid hvalid =>
      obtain ⟨rfl, rfl⟩ := Reply.opened.inj h
      obtain ⟨_, hsame, hregistered⟩ := registered_of_authenticate hvalid
      obtain rfl := Option.some.inj hsame
      exact .inl ⟨rfl, token, htoken, hregistered⟩
    · cases h
  · next hnone =>
    split at h
    · cases h
    · next protocol ticket hticket =>
      split at h
      · cases h
      · next redeemed _ hredeemed =>
        obtain ⟨rfl, rfl⟩ := Reply.opened.inj h
        exact .inr ⟨protocol, ticket, hnone, hticket, by rw [hredeemed], rfl⟩

theorem mem_callsOf_issue {visits : List Visit} {issuedAt : Time} {principal : Principal}
    {ticket : Ticket} (h : .issue issuedAt principal ticket ∈ callsOf sha256Hex registry visits) :
    ∃ attempt token, .exchange attempt issuedAt ticket ∈ visits ∧
      bearerToken attempt.authorization = some token ∧
      Registered sha256Hex registry token principal := by
  obtain ⟨visit, hvisit, hcall⟩ := List.mem_filterMap.mp h
  cases visit with
  | request attempt => cases hcall
  | exchange attempt issuedAt ticket =>
      obtain ⟨principal, hvalid, hissue⟩ := Option.map_eq_some_iff.mp hcall
      cases hissue
      obtain ⟨token, htoken, hregistered⟩ := registered_of_authenticate hvalid
      exact ⟨attempt, token, hvisit, htoken, hregistered⟩
  | handshake socket =>
      simp only [Visit.call?] at hcall
      split at hcall
      · cases hcall
      · obtain ⟨_, _, hredeem⟩ := Option.map_eq_some_iff.mp hcall
        cases hredeem

theorem callsOf_handshake {socket : Handshake} (hnone : bearerToken socket.authorization = none)
    {protocol ticket : String}
    (hticket : offeredTicket (offered socket.protocols) = some (protocol, ticket))
    (before after : List Visit) :
    callsOf sha256Hex registry (before ++ .handshake socket :: after) =
      callsOf sha256Hex registry before ++
        .redeem socket.redeemedAt (some ticket) :: callsOf sha256Hex registry after := by
  rw [callsOf_append, callsOf, callsOf, callsOf, List.filterMap_cons_some]
  simp only [Visit.call?, hnone, hticket, Option.map_some]

end Visits

-- The visits, as a gate without tickets sees them.
section Runs

variable (sha256Hex : String → String) (registry : ClientRegistry) (ttl : Time)
  (limiter : RateLimiter)

def gateAfter (visits : List Visit) : Gate :=
  Gate.after sha256Hex registry ⟨{ ttl, bounded := TicketStore.bounded_empty }, limiter⟩ visits

-- What a visit is answered after others.
def answer (before : List Visit) (visit : Visit) : Reply :=
  ((gateAfter sha256Hex registry ttl limiter before).visit sha256Hex registry visit).1

-- The socket was opened by this ticket.
def OpenedBy (ticket : String) (before : List Visit) (visit : Visit) : Prop :=
  ∃ socket protocol principal subprotocol, visit = .handshake socket ∧
    bearerToken socket.authorization = none ∧
    offeredTicket (offered socket.protocols) = some (protocol, ticket) ∧
    answer sha256Hex registry ttl limiter before visit = .opened principal subprotocol

end Runs

section Runs

variable {sha256Hex : String → String} {registry : ClientRegistry} {ttl : Time}
  {limiter : RateLimiter} {visits : List Visit}

theorem redeemed_of_openedBy {ticket : String}
    (h : History.Happens (OpenedBy sha256Hex registry ttl limiter ticket) visits) :
    Redeemed sha256Hex ttl ticket (callsOf sha256Hex registry visits) := by
  obtain ⟨before, visit, after, rfl, socket, protocol, principal, subprotocol, rfl, hnone, hticket,
    hopened⟩ := h
  rw [callsOf_handshake hnone hticket]
  refine ⟨_, _, _, rfl, socket.redeemedAt, principal, rfl, ?_⟩
  obtain ⟨-, token, htoken, -⟩ | ⟨_, found, -, hfound, hredeemed, -⟩ := opened_cases hopened
  · cases hnone.symm.trans htoken
  · obtain rfl := (Prod.mk.inj (Option.some.inj (hticket.symm.trans hfound))).2
    rwa [gateAfter, after_tickets] at hredeemed

-- Whoever is let onto the stream has shown a credential that is registered and not revoked,
-- either with the handshake, or when a ticket was issued that has opened no other socket
-- and is not older than it may be.
theorem opened_sockets_are_justified
    (hdistinct : (issued (callsOf sha256Hex registry visits)).Nodup)
    (hdigest : CollisionFree sha256Hex (callsOf sha256Hex registry visits))
    {before after : List Visit} {socket : Handshake}
    (hvisits : visits = before ++ .handshake socket :: after) {principal : Principal}
    {subprotocol : Option String}
    (hopened : answer sha256Hex registry ttl limiter before (.handshake socket) =
      .opened principal subprotocol) :
    (subprotocol = none ∧ ∃ token, bearerToken socket.authorization = some token ∧
      Registered sha256Hex registry token principal) ∨
    ∃ protocol attempt token issuedAt, ∃ ticket : Ticket,
      offeredTicket (offered socket.protocols) = some (protocol, ticket.val) ∧
      .exchange attempt issuedAt ticket ∈ before ∧
      bearerToken attempt.authorization = some token ∧
      Registered sha256Hex registry token principal ∧ socket.redeemedAt < issuedAt + ttl ∧
      ¬History.Happens (OpenedBy sha256Hex registry ttl limiter ticket) before ∧
      subprotocol = some (if WEBSOCKET_SUBPROTOCOL ∈ offered socket.protocols then
        WEBSOCKET_SUBPROTOCOL else protocol) := by
  obtain hcredential | ⟨protocol, text, hnone, hticket, hredeemed, hselected⟩ :=
    opened_cases hopened
  · exact .inl hcredential
  · have hcalls : callsOf sha256Hex registry visits = _ :=
      hvisits ▸ callsOf_handshake hnone hticket before after
    rw [gateAfter, after_tickets] at hredeemed
    rw [hcalls] at hdistinct hdigest
    obtain ⟨issuedAt, ticket, rfl, hissue, hfresh, hnot⟩ :=
      redeem_issued hdistinct hdigest hredeemed
    obtain ⟨attempt, token, hexchange, htoken, hregistered⟩ := mem_callsOf_issue hissue
    exact .inr ⟨protocol, attempt, token, issuedAt, ticket, hticket, hexchange, htoken, hregistered,
      hfresh, fun hearlier => hnot (redeemed_of_openedBy hearlier), hselected⟩

-- The handshake of a web client that has been given a ticket is let through, and is not told
-- the ticket again, unless the ticket is gone. The failures of others do not matter.
theorem web_client_is_let_in
    (hdistinct : (issued (callsOf sha256Hex registry visits)).Nodup)
    (hdigest : CollisionFree sha256Hex (callsOf sha256Hex registry visits))
    {before after : List Visit} {socket : Handshake}
    (hvisits : visits = before ++ .handshake socket :: after) {attempt : Attempt}
    {issuedAt : Time} {ticket : Ticket} {principal : Principal}
    (hexchange : .exchange attempt issuedAt ticket ∈ before)
    (hvalid : registry.authenticate sha256Hex (bearerToken attempt.authorization) = some principal)
    (hsafe : Urlsafe ticket) (hheader : socket.authorization = none)
    (hoffer : socket.protocols = some (webOffer ticket))
    (hfresh : socket.redeemedAt < issuedAt + ttl) :
    answer sha256Hex registry ttl limiter before (.handshake socket) =
        .opened principal (some WEBSOCKET_SUBPROTOCOL) ∨
      Gone sha256Hex ttl ticket (callsOf sha256Hex registry before) := by
  have hticket := offeredTicket_webOffer ticket.property hsafe
  have hissue : .issue issuedAt principal ticket ∈ callsOf sha256Hex registry before :=
    List.mem_filterMap.mpr ⟨_, hexchange, by simp only [Visit.call?, hvalid, Option.map_some]⟩
  have hbefore : Accounted sha256Hex ttl (callsOf sha256Hex registry before) := by
    rw [hvisits, callsOf_append] at hdistinct hdigest
    rw [issued, List.filterMap_append] at hdistinct
    exact accounted (List.nodup_append.mp hdistinct).1 hdigest.prefix
  refine (hbefore.kept issuedAt principal ticket hissue).imp_left fun hheld => ?_
  have hredeemed := TicketStore.redeem_outstanding hheld hfresh
  rw [← after_tickets limiter, ← gateAfter] at hredeemed
  simp only [answer, Gate.visit, Gate.authenticateWebsocket, hheader, bearerToken, hoffer, hticket]
  split
  · next herror =>
    rw [herror] at hredeemed
    cases hredeemed
  · next hok =>
    rw [hok] at hredeemed
    obtain rfl := Except.ok.inj hredeemed
    simp [offered_webOffer hsafe]

end Runs

-- A browser that has its credential exchanged and then connects.
def home : ClientRegistry := ⟨[⟨2, 1, "Alice", "secret", false⟩]⟩

def drawn : Ticket := ⟨"ticket", by decide⟩

def exchanged : Visit := .exchange ⟨0, "browser", some "Bearer secret"⟩ 0 drawn

def browser : Handshake :=
  { time := 1, peer := "browser", authorization := none, protocols := some (webOffer "ticket")
    redeemedAt := 1 }

theorem urlsafe_drawn : Urlsafe drawn := urlsafe_of_all (by decide)

theorem callsOf_browser : callsOf id home [exchanged, .handshake browser] =
    [.issue 0 ⟨1, 2, "Alice"⟩ drawn, .redeem 1 (some "ticket")] := by
  have hticket : offeredTicket (offered browser.protocols) =
      some (ticketProtocol "ticket", "ticket") :=
    offeredTicket_webOffer drawn.property urlsafe_drawn
  have hvalid : home.authenticate id (bearerToken (some "Bearer secret")) =
      some ⟨1, 2, "Alice"⟩ := by decide
  have hexchanged : callsOf id home [exchanged] = [.issue 0 ⟨1, 2, "Alice"⟩ drawn] := by
    simp [callsOf, Visit.call?, exchanged, hvalid]
  exact (callsOf_handshake rfl hticket [exchanged] []).trans (by rw [hexchanged]; rfl)

theorem web_client_is_let_in_browser :
    answer id home 30 (.create 30 (some 10)) [exchanged] (.handshake browser) =
        .opened ⟨1, 2, "Alice"⟩ (some WEBSOCKET_SUBPROTOCOL) ∨
      Gone id 30 drawn (callsOf id home [exchanged]) :=
  @web_client_is_let_in id home 30 (.create 30 (some 10)) [exchanged, .handshake browser]
    (by rw [callsOf_browser]; decide) (fun _ _ _ _ hsame => hsame) [exchanged] [] browser rfl
    ⟨0, "browser", some "Bearer secret"⟩ 0 drawn ⟨1, 2, "Alice"⟩ List.mem_cons_self (by decide)
    urlsafe_drawn rfl rfl (by decide)

theorem opened_sockets_are_justified_browser :
    ∃ protocol attempt token issuedAt, ∃ ticket : Ticket,
      offeredTicket (offered browser.protocols) = some (protocol, ticket.val) ∧
      .exchange attempt issuedAt ticket ∈ [exchanged] ∧
      bearerToken attempt.authorization = some token ∧
      Registered id home token ⟨1, 2, "Alice"⟩ ∧ browser.redeemedAt < issuedAt + 30 := by
  have hopened : answer id home 30 (.create 30 (some 10)) [exchanged] (.handshake browser) =
      .opened ⟨1, 2, "Alice"⟩ (some WEBSOCKET_SUBPROTOCOL) := by
    rfl
  obtain ⟨hnone, -⟩ | ⟨protocol, attempt, token, issuedAt, issued, hoffered, hexchange, htoken,
      hregistered, hfresh, -⟩ :=
    @opened_sockets_are_justified id home 30 (.create 30 (some 10))
      [exchanged, .handshake browser] (by rw [callsOf_browser]; decide)
      (fun _ _ _ _ hsame => hsame) [exchanged] [] browser rfl _ _ hopened
  · cases hnone
  · exact ⟨protocol, attempt, token, issuedAt, issued, hoffered, hexchange, htoken, hregistered,
      hfresh⟩

end Homeflow.Api
