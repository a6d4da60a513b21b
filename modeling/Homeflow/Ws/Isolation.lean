import Homeflow.Ws.Hub
import Homeflow.Ws.Serving

-- A connection goes as it would without the others.
namespace Homeflow.Ws

open Events (Publication)

variable {sha256Hex : String → String} {registry : Auth.ClientRegistry}
  {queueSize websocketRateLimitPerMinute : Nat} {loads : String → Loaded} {hub after : Hub}

-- On the bus are those who listen, each of them once.
structure Enrolled (hub : Hub) : Prop where
  nodup : hub.subscribers.Nodup
  listening : ∀ id, id ∈ hub.subscribers ↔
    ∃ session, hub.sessions[id]? = some session ∧ session.reader = .listening
  keeps : ∀ (id : Nat) session, hub.sessions[id]? = some session → session.Keeps

section Publish

theorem foldl_modify {α : Type} (change : α → α) {ids : List Nat} (hnodup : ids.Nodup)
    (items : List α) (id : Nat) :
    (ids.foldl (fun items id => items.modify id change) items)[id]? =
      if id ∈ ids then items[id]?.map change else items[id]? := by
  induction ids generalizing items with
  | nil => rfl
  | cons first rest ih =>
      obtain ⟨hfirst, hrest⟩ := List.nodup_cons.mp hnodup
      rw [List.foldl_cons, ih hrest, List.getElem?_modify]
      by_cases hsame : first = id
      · subst hsame
        simp [hfirst]
      · simp [hsame, Ne.symm hsame]

theorem length_foldl_modify {α : Type} (change : α → α) (ids : List Nat) (items : List α) :
    (ids.foldl (fun items id => items.modify id change) items).length = items.length := by
  induction ids generalizing items with
  | nil => rfl
  | cons first rest ih => rw [List.foldl_cons, ih, List.length_modify]

theorem length_publish (event : DomainEvent) :
    (hub.publish event).sessions.length = hub.sessions.length :=
  length_foldl_modify _ _ _

-- Every connection is offered the event: to those that are not on the bus it makes no difference.
theorem Enrolled.publish (h : Enrolled hub) (event : DomainEvent) (id : Nat) :
    (hub.publish event).sessions[id]? =
      hub.sessions[id]?.map fun session => session.publish event := by
  refine (foldl_modify _ h.nodup _ _).trans ?_
  split
  · rfl
  · next hnot =>
    cases hsession : hub.sessions[id]? with
    | none => rfl
    | some session =>
        have hreader : session.reader ≠ .listening := fun hlistening =>
          hnot ((h.listening id).mpr ⟨session, hsession, hlistening⟩)
        rw [Option.map_some, (h.keeps id session hsession).publish_eq hreader]

end Publish

section Enrolled

theorem publish_reader (session : Session) (event : DomainEvent) :
    (session.publish event).reader = session.reader := rfl

theorem Enrolled.published (h : Enrolled hub) (event : DomainEvent) :
    Enrolled (hub.publish event) where
  nodup := h.nodup
  listening id := by
    rw [h.publish]
    refine (h.listening id).trans ?_
    simp [publish_reader]
  keeps id session hsession := by
    rw [h.publish] at hsession
    obtain ⟨before, hbefore, rfl⟩ := Option.map_eq_some_iff.mp hsession
    exact (h.keeps id before hbefore).publish event

theorem mem_enrolled {subscribers : List Nat} (hnodup : subscribers.Nodup) {id other : Nat}
    {before now : Session} (hbefore : id ∈ subscribers ↔ before.reader = .listening) :
    (enrolled subscribers id before now).Nodup ∧
      (other ∈ enrolled subscribers id before now ↔
        if other = id then now.reader = .listening else other ∈ subscribers) := by
  unfold enrolled
  split
  · next hnew =>
    have hfresh : id ∉ subscribers := fun hmem => hnew.1 (hbefore.mp hmem)
    refine ⟨List.nodup_append'.mpr ⟨hnodup, List.nodup_singleton id, ?_⟩, ?_⟩
    · exact fun found hfound hid => hfresh (List.mem_singleton.mp hid ▸ hfound)
    · by_cases hsame : other = id
      · simp [hsame, hnew.2]
      · simp [hsame]
  · next hnot =>
    split
    · next hgone =>
      refine ⟨hnodup.erase id, ?_⟩
      rw [hnodup.mem_erase_iff]
      by_cases hsame : other = id
      · simp [hsame, hgone.2]
      · simp [hsame]
    · next hkept =>
      refine ⟨hnodup, ?_⟩
      by_cases hsame : other = id
      · subst hsame
        rw [if_pos rfl, hbefore]
        by_cases hlistening : before.reader = .listening <;>
          by_cases hnow : now.reader = .listening <;> simp_all
      · rw [if_neg hsame]

theorem Enrolled.act (h : Enrolled hub) {id : Nat} {before now : Session}
    (hbefore : hub.sessions[id]? = some before) (hkeeps : now.Keeps) :
    Enrolled { hub with
      sessions := hub.sessions.set id now
      subscribers := enrolled hub.subscribers id before now } := by
  have hreads : id ∈ hub.subscribers ↔ before.reader = .listening := by
    rw [h.listening, hbefore]
    simp
  have hlength : id < hub.sessions.length := (List.getElem?_eq_some_iff.mp hbefore).1
  have hget : ∀ other : Nat, (hub.sessions.set id now)[other]? =
      if other = id then some now else hub.sessions[other]? := by
    intro other
    rw [List.getElem?_set]
    by_cases hsame : id = other
    · simp [hsame, hsame ▸ hlength]
    · simp [hsame, Ne.symm hsame]
  constructor
  case nodup => exact (@mem_enrolled _ h.nodup id id before now hreads).1
  case listening =>
    intro other
    refine (mem_enrolled h.nodup hreads).2.trans ?_
    rw [hget]
    by_cases hsame : other = id
    · simp [hsame]
    · rw [if_neg hsame, if_neg hsame]
      exact h.listening other
  case keeps =>
    intro other session hsession
    rw [hget] at hsession
    by_cases hsame : other = id
    · rw [if_pos hsame] at hsession
      exact Option.some.inj hsession ▸ hkeeps
    · rw [if_neg hsame] at hsession
      exact h.keeps other session hsession

theorem Enrolled.connect (h : Enrolled hub) {session : Session} (hkeeps : session.Keeps)
    (hreader : session.reader = .idle) (gate : Api.Gate) :
    Enrolled { hub with gate, sessions := hub.sessions ++ [session] } := by
  have hget : ∀ id found, (hub.sessions ++ [session])[id]? = some found ↔
      hub.sessions[id]? = some found ∨ id = hub.sessions.length ∧ session = found := by
    intro id found
    rcases Nat.lt_trichotomy id hub.sessions.length with hlt | rfl | hgt
    · rw [List.getElem?_append_left hlt]
      exact ⟨.inl, fun hor => hor.resolve_right fun hnew => hlt.ne hnew.1⟩
    · simp
    · rw [List.getElem?_eq_none (by simp; omega), List.getElem?_eq_none (by omega)]
      simp [hgt.ne']
  refine ⟨h.nodup, fun id => ?_, fun id found hfound => ?_⟩
  · refine (h.listening id).trans ⟨?_, ?_⟩
    · rintro ⟨found, hfound, hlistening⟩
      exact ⟨found, (hget id found).mpr (.inl hfound), hlistening⟩
    · rintro ⟨found, hfound, hlistening⟩
      rcases (hget id found).mp hfound with hold | ⟨-, rfl⟩
      · exact ⟨found, hold, hlistening⟩
      · cases hreader.symm.trans hlistening
  · rcases (hget id found).mp hfound with hold | ⟨-, rfl⟩
    · exact h.keeps id found hold
    · exact hkeeps

end Enrolled

-- The connection is where its own labels lead to, from the answer to its handshake on.
def Follows (sha256Hex : String → String) (registry : Auth.ClientRegistry)
    (queueSize websocketRateLimitPerMinute : Nat) (loads : String → Loaded) (gate : Api.Gate)
    (happenings : List Happening) (id : Nat) (session : Session) : Prop :=
  ∃ before socket after, happenings = before ++ .connect socket :: after ∧
    before.countP Happening.Connects = id ∧
    Machine.run (Session.step queueSize loads)
      (.begin ((gate.after sha256Hex registry (before.filterMap Happening.visit?)).visit sha256Hex
        registry (.handshake socket)).1 websocketRateLimitPerMinute)
      (after.filterMap (Happening.concerns id)) = some session

section Follows

variable {gate : Api.Gate} {happenings : List Happening} {id : Nat} {session now : Session}

theorem Follows.skip
    (h : Follows sha256Hex registry queueSize websocketRateLimitPerMinute loads gate happenings id
      session) {happening : Happening} (hnone : happening.concerns id = none) :
    Follows sha256Hex registry queueSize websocketRateLimitPerMinute loads gate
      (happenings ++ [happening]) id session := by
  obtain ⟨before, socket, after, rfl, hcount, hrun⟩ := h
  refine ⟨before, socket, after ++ [happening], by simp, hcount, ?_⟩
  rw [List.filterMap_append, List.filterMap_cons_none hnone, List.filterMap_nil, List.append_nil]
  exact hrun

theorem Follows.go
    (h : Follows sha256Hex registry queueSize websocketRateLimitPerMinute loads gate happenings id
      session) {happening : Happening} {label : Label}
    (hsome : happening.concerns id = some label)
    (hstep : session.step queueSize loads label = some now) :
    Follows sha256Hex registry queueSize websocketRateLimitPerMinute loads gate
      (happenings ++ [happening]) id now := by
  obtain ⟨before, socket, after, rfl, hcount, hrun⟩ := h
  refine ⟨before, socket, after ++ [happening], by simp, hcount, ?_⟩
  rw [List.filterMap_append, List.filterMap_cons_some hsome, List.filterMap_nil]
  exact Machine.run_concat.mpr ⟨session, hrun, hstep⟩

end Follows

section Runs

variable {gate : Api.Gate} {happenings : List Happening}

theorem begin_reader (reply : Api.Reply) (websocketRateLimitPerMinute : Nat) :
    (Session.begin reply websocketRateLimitPerMinute).reader = .idle := by
  cases reply <;> rfl

theorem visits_quiet {happening : Happening} (hnone : happening.visit? = none) :
    (happenings ++ [happening]).filterMap Happening.visit? =
      happenings.filterMap Happening.visit? := by
  rw [List.filterMap_append, List.filterMap_cons_none hnone]
  exact List.append_nil _

-- Every happening moves the connections it concerns, and no other one.
theorem hub_run
    (hrun : Machine.run (Hub.step sha256Hex registry queueSize websocketRateLimitPerMinute loads)
      ⟨gate, [], []⟩ happenings = some hub) :
    Enrolled hub ∧
      hub.gate = gate.after sha256Hex registry (happenings.filterMap Happening.visit?) ∧
      hub.sessions.length = happenings.countP Happening.Connects ∧
      ∀ (id : Nat) session, hub.sessions[id]? = some session →
        Follows sha256Hex registry queueSize websocketRateLimitPerMinute loads gate happenings id
          session := by
  induction happenings using List.reverseRecOn generalizing hub with
  | nil =>
      obtain rfl := Option.some.inj hrun
      exact ⟨⟨List.nodup_nil, by simp, by simp⟩, rfl, rfl, by simp⟩
  | append_singleton happenings happening ih =>
      obtain ⟨before, hbefore, hstep⟩ := Machine.run_concat.mp hrun
      obtain ⟨henrolled, hgate, hlength, hfollows⟩ := ih hbefore
      cases happening with
      | visit visit =>
          obtain ⟨-, hafter⟩ := Option.ite_none_right_eq_some.mp hstep
          obtain rfl := Option.some.inj hafter
          refine ⟨⟨henrolled.nodup, henrolled.listening, henrolled.keeps⟩, ?_, ?_, ?_⟩
          · rw [List.filterMap_append, hgate]
            exact (Api.after_concat _ _).symm
          · simpa [Happening.Connects] using hlength
          · exact fun id session hsession => (hfollows id session hsession).skip rfl
      | connect socket =>
          obtain rfl := Option.some.inj hstep
          have hnow : (before.gate.visit sha256Hex registry (.handshake socket)).2 =
              gate.after sha256Hex registry
                ((happenings ++ [Happening.connect socket]).filterMap Happening.visit?) := by
            rw [List.filterMap_append, hgate]
            exact (Api.after_concat _ _).symm
          refine ⟨henrolled.connect (Session.keeps_begin _ _) (begin_reader _ _) _, hnow, ?_, ?_⟩
          · simpa [Happening.Connects] using hlength
          · intro id session hsession
            rcases lt_or_ge id before.sessions.length with hold | hnew
            · rw [List.getElem?_append_left hold] at hsession
              exact (hfollows id session hsession).skip rfl
            · rw [List.getElem?_append_right hnew, List.getElem?_singleton] at hsession
              obtain ⟨hzero, hbegun⟩ := Option.ite_none_right_eq_some.mp hsession
              refine ⟨happenings, socket, [], rfl, by omega, ?_⟩
              rw [← hgate]
              exact hbegun
      | publish event =>
          obtain rfl := Option.some.inj hstep
          refine ⟨henrolled.published event, ?_, ?_, ?_⟩
          · rw [visits_quiet rfl]
            exact hgate
          · simpa [Happening.Connects, length_publish] using hlength
          · intro id session hsession
            rw [henrolled.publish] at hsession
            obtain ⟨earlier, hearlier, rfl⟩ := Option.map_eq_some_iff.mp hsession
            exact (hfollows id earlier hearlier).go rfl rfl
      | act acting label =>
          obtain ⟨-, hafter⟩ := Option.ite_none_left_eq_some.mp hstep
          obtain ⟨earlier, hearlier, hnow⟩ := Option.bind_eq_some_iff.mp hafter
          obtain ⟨now, hmove, rfl⟩ := Option.map_eq_some_iff.mp hnow
          refine ⟨henrolled.act hearlier ((henrolled.keeps acting earlier hearlier).step hmove),
            ?_, ?_, ?_⟩
          · rw [visits_quiet rfl]
            exact hgate
          · simpa [Happening.Connects] using hlength
          · intro id session hsession
            rw [List.getElem?_set] at hsession
            by_cases hsame : acting = id
            · subst hsame
              have hin : acting < before.sessions.length :=
                (List.getElem?_eq_some_iff.mp hearlier).1
              rw [if_pos rfl, if_pos hin] at hsession
              obtain rfl := Option.some.inj hsession
              exact (hfollows acting earlier hearlier).go (if_pos rfl) hmove
            · rw [if_neg hsame] at hsession
              exact (hfollows id session hsession).skip (if_neg hsame)

-- However many clients there are, and whatever they and the household do in whatever order:
-- a stream goes as it would alone, from the answer to its handshake on. It is on the bus once
-- and as long as its reader listens, and tells what is published meanwhile without silent gaps.
theorem streams_run_alone {ttl : Time} {limiter : RateLimiter}
    (hrun : Machine.run (Hub.step sha256Hex registry queueSize websocketRateLimitPerMinute loads)
      ⟨⟨{ ttl }, limiter⟩, [], []⟩ happenings = some hub)
    {id : Nat} {session : Session} (hsession : hub.sessions[id]? = some session) :
    (hub.subscribers.count id = if session.reader = .listening then 1 else 0) ∧
    (session.phase = .returned → id ∉ hub.subscribers) ∧
    ∃ before socket after start, happenings = before ++ .connect socket :: after ∧
      before.countP Happening.Connects = id ∧
      start = Session.begin (Api.answer sha256Hex registry ttl limiter
        (before.filterMap Happening.visit?) (.handshake socket)) websocketRateLimitPerMinute ∧
      Machine.run (Session.step queueSize loads) start
        (after.filterMap (Happening.concerns id)) = some session ∧
      ∀ connection, session.connection = some connection →
        connection.published.map Publication.event =
          heardBy queueSize loads start (after.filterMap (Happening.concerns id)) ∧
        (∀ position (publication : Publication),
          connection.published[position]? = some publication → publication.number = position) ∧
        (Events.eventsOf connection.sent).Sublist connection.published ∧
        Events.Told connection.sent := by
  obtain ⟨henrolled, -, -, hfollows⟩ := hub_run hrun
  obtain ⟨before, socket, after, hhappenings, hcount, halone⟩ := hfollows id session hsession
  have hmem : id ∈ hub.subscribers ↔ session.reader = .listening := by
    rw [henrolled.listening, hsession]
    simp
  obtain ⟨hkeeps, hserves⟩ := serves_run halone
  refine ⟨?_, fun hreturned hon => ?_, before, socket, after, _, hhappenings, hcount, rfl, halone,
    fun connection hconnection => ?_⟩
  · split
    · next hlistening => exact List.count_eq_one_of_mem henrolled.nodup (hmem.mpr hlistening)
    · next hnot => exact List.count_eq_zero_of_not_mem fun hon => hnot (hmem.mp hon)
  · cases (hkeeps.serving_of_listening (hmem.mp hon)).symm.trans hreturned
  · obtain ⟨⟨lines, hlines⟩, hheard⟩ := hserves.runs connection hconnection
    have hfaithful := Events.faithful_run hlines
    exact ⟨hheard, hfaithful.numbered, hfaithful.sublist.trans (List.take_sublist _ _),
      hfaithful.told⟩

end Runs

-- Two clients, and an event that only the first of them is there for.
def visitor : Api.Handshake :=
  { time := 0, peer := "browser", authorization := some "Bearer secret", protocols := none
    redeemedAt := 0 }

def neighbours : List Happening :=
  [.connect visitor, .connect visitor, .act 0 .returns, .act 0 .returns, .act 1 .raises,
    .publish { type := .deviceStateChanged, occurredAt := 0 }, .act 0 .take, .act 0 .delivered]

theorem streams_run_alone_neighbours : ∃ hub session,
    Machine.run (Hub.step id Api.home 1 60 fun _ => .decodeError)
      ⟨⟨{ ttl := 30 }, .create 30 none⟩, [], []⟩ neighbours = some hub ∧
      hub.sessions[0]? = some session ∧ hub.subscribers.count 0 = 1 := by
  have hreader : (Machine.run (Hub.step id Api.home 1 60 fun _ => .decodeError)
      ⟨⟨{ ttl := 30 }, .create 30 none⟩, [], []⟩ neighbours).map (fun hub =>
        hub.sessions[0]?.map Session.reader) = some (some .listening) := by
    decide
  obtain ⟨hub, hrun, hfirst⟩ := Option.map_eq_some_iff.mp hreader
  obtain ⟨session, hsession, hlistening⟩ := Option.map_eq_some_iff.mp hfirst
  refine ⟨hub, session, hrun, hsession, ?_⟩
  rw [(streams_run_alone hrun hsession).1, if_pos hlistening]

end Homeflow.Ws
