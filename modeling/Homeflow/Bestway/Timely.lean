import Homeflow.Bestway.Answers

namespace Homeflow.Bestway

-- Every block that was handed on is fresh, and so is every block a caller still holds.
structure Sound (client : Client) : Prop where
  trace : Fresh client
  held : ∀ id execution, client.executions.get? id = some execution →
    ∀ answer ∈ execution.answers, answer.Fresh

-- What the exchange inside the lock may still return was received after it was asked for.
structure Awaits (client : Client) (exchange : Exchange) : Prop where
  asked : exchange.askedAt ≤ client.now
  pending : ∀ entry ∈ client.pending, IsStatus entry.1 →
    ∃ octet ∈ entry.2.getLast?, exchange.askedAt < octet.receivedAt
  clear : (frameDecoder Octet.value).Clear IsStatus
    (fun octet => exchange.askedAt < octet.receivedAt) (client.reader.buffer ++ client.unread)
  reading : ∀ stream, exchange.phase = .reading stream →
    (∀ octet ∈ client.inbox stream, exchange.askedAt < octet.receivedAt) ∧
    ∀ current, client.stream = some current → current ≠ stream →
      ∀ octet ∈ client.reader.buffer ++ client.inbox current,
        exchange.askedAt < octet.receivedAt

structure Timely (client : Client) : Prop where
  sound : Sound client
  unopened : ∀ stream, client.opened ≤ stream → client.inbox stream = []
  inside : ∀ exchange, client.inside = some exchange → exchange.request.isStatus = true →
    Awaits client exchange

section Timely

variable {provider : BestwayProvider} {client after : Client}

theorem fresh_emit (h : Fresh client) {effect : Effect}
    (heffect : ∀ answer ∈ effect.answer?, answer.Fresh) : Fresh (client.emit effect) := by
  intro answer hanswer
  simp only [Client.emit, answers, List.filterMap_append, List.mem_append] at hanswer
  rcases hanswer with hanswer | hanswer
  · exact h answer hanswer
  · obtain ⟨told, htold, hsome⟩ := List.mem_filterMap.mp hanswer
    obtain rfl := List.mem_singleton.mp htold
    exact heffect answer hsome

theorem Sound.emit (h : Sound client) {effect : Effect}
    (heffect : ∀ answer ∈ effect.answer?, answer.Fresh) : Sound (client.emit effect) :=
  ⟨fresh_emit h.trace heffect, h.held⟩

theorem Sound.become (h : Sound client) {id : ExecutionId} {execution : Execution Answer}
    (hexecution : ∀ answer ∈ execution.answers, answer.Fresh) :
    Sound (client.become id execution) := by
  have hset : Sound { client with executions := client.executions.set id execution } := by
    refine ⟨h.trace, fun other held hheld => ?_⟩
    obtain ⟨-, rfl⟩ | ⟨-, hheld⟩ := OrderedDict.get?_set_eq_some.mp hheld
    · exact hexecution
    · exact h.held other held hheld
  unfold Client.become
  split
  · rename_i observed _
    refine hset.emit fun answer hanswer => ?_
    obtain rfl := Option.some.inj hanswer
    exact hexecution _ (List.mem_singleton_self _)
  · exact hset

-- Steps that leave the connection and the exchange inside the lock as they are.
structure Apart (client after : Client) : Prop where
  now : after.now = client.now
  stream : after.stream = client.stream
  opened : after.opened = client.opened
  inbox : after.inbox = client.inbox
  reader : after.reader = client.reader
  pending : after.pending = client.pending

theorem apart_emit (effect : Effect) : Apart client (client.emit effect) :=
  ⟨rfl, rfl, rfl, rfl, rfl, rfl⟩

theorem apart_become (id : ExecutionId) (execution : Execution Answer) :
    Apart client (client.become id execution) := by
  unfold Client.become
  split <;> exact ⟨rfl, rfl, rfl, rfl, rfl, rfl⟩

theorem become_inside (id : ExecutionId) (execution : Execution Answer) :
    (client.become id execution).inside = client.inside := by
  unfold Client.become
  split <;> rfl

theorem Awaits.apart {exchange : Exchange} (h : Awaits client exchange)
    (hapart : Apart client after) : Awaits after exchange := by
  obtain ⟨hasked, hpending, hclear, hreading⟩ := h
  have hunread : after.unread = client.unread := by
    simp only [Client.unread, hapart.stream, hapart.inbox]
  refine ⟨hapart.now ▸ hasked, hapart.pending ▸ hpending, ?_, ?_⟩
  · rw [hunread, hapart.reader]
    exact hclear
  · rw [hapart.stream, hapart.inbox, hapart.reader]
    exact hreading

theorem Timely.apart (h : Timely client) (hapart : Apart client after) (hsound : Sound after)
    (hinside : ∀ exchange, after.inside = some exchange → client.inside = some exchange) :
    Timely after :=
  ⟨hsound, fun stream hstream => hapart.inbox ▸ h.unopened stream (hapart.opened ▸ hstream),
    fun exchange hexchange hstatus =>
      (h.inside exchange (hinside exchange hexchange) hstatus).apart hapart⟩

theorem Timely.become (h : Timely client) (id : ExecutionId) {execution : Execution Answer}
    (hexecution : ∀ answer ∈ execution.answers, answer.Fresh) :
    Timely (client.become id execution) :=
  h.apart (apart_become id execution) (h.sound.become hexecution)
    fun _ hexchange => (become_inside id execution).symm.trans hexchange

-- Nothing that is read or waited for changes.
theorem Timely.aside (h : Timely client) (hapart : Apart client after)
    (htrace : after.trace = client.trace) (hexecutions : after.executions = client.executions)
    (hinside : after.inside = client.inside) : Timely after := by
  refine h.apart hapart ⟨?_, hexecutions ▸ h.sound.held⟩ fun _ hexchange => hinside ▸ hexchange
  unfold Fresh
  rw [htrace]
  exact h.sound.trace

-- The exchange leaves the lock.
theorem Timely.left (h : Timely client) : Timely { client with inside := none } :=
  h.apart ⟨rfl, rfl, rfl, rfl, rfl, rfl⟩ ⟨h.sound.trace, h.sound.held⟩
    fun _ hexchange => by cases hexchange

theorem feed_eq_some {reader after : FrameReader Octet} {chunk : List Octet}
    {frames : List (Frame × List Octet)}
    (h : reader.feed Octet.value chunk = (after, some frames)) :
    after.buffer = ((frameDecoder Octet.value).drain (reader.buffer ++ chunk)).rest ∧
      frames = ((frameDecoder Octet.value).drain (reader.buffer ++ chunk)).frames := by
  unfold FrameReader.feed at h
  dsimp only at h
  split at h
  · cases h
  · obtain ⟨rfl, hframes⟩ := Prod.mk.inj h
    split at hframes
    · cases hframes
    · exact ⟨rfl, (Option.some.inj hframes).symm⟩

-- What is still unread behind a chunk, and that it was safe to take the chunk.
theorem Awaits.chunk {exchange : Exchange} {stream : StreamId} (h : Awaits client exchange)
    (hstream : client.stream = some stream ∨ exchange.phase = .reading stream) :
    (frameDecoder Octet.value).Clear IsStatus (fun octet => exchange.askedAt < octet.receivedAt)
      ((client.reader.buffer ++ (client.inbox stream).take READ_CHUNK) ++
        Client.unread { client with
          inbox := Function.update client.inbox stream
            ((client.inbox stream).drop READ_CHUNK) }) := by
  obtain ⟨-, -, hclear, hreading⟩ := h
  cases hcurrent : client.stream with
  | none =>
      have hphase := hstream.resolve_left (by simp [hcurrent])
      simp only [Client.unread, hcurrent, Option.elim_none, List.append_nil] at hclear ⊢
      refine hclear.append fun octet hoctet => ?_
      exact (hreading stream hphase).1 octet (List.mem_of_mem_take hoctet)
  | some current =>
      simp only [Client.unread, hcurrent, Option.elim_some] at hclear ⊢
      by_cases hsame : current = stream
      · rw [hsame, Function.update_self, List.append_assoc, List.take_append_drop]
        exact hsame ▸ hclear
      · have hphase := hstream.resolve_left (by simp [hcurrent, hsame])
        obtain ⟨hinbox, hothers⟩ := hreading stream hphase
        have hlate := hothers current hcurrent hsame
        rw [Function.update_of_ne hsame]
        refine Decoder.clear_of_late fun octet hoctet => ?_
        simp only [List.mem_append] at hoctet hlate
        rcases hoctet with (hoctet | hoctet) | hoctet
        · exact hlate octet (.inl hoctet)
        · exact hinbox octet (List.mem_of_mem_take hoctet)
        · exact hlate octet (.inr hoctet)

theorem Timely.receive (h : Timely client) {exchange : Exchange} {stream : StreamId}
    (hinside : client.inside = some exchange)
    (hstream : client.stream = some stream ∨ exchange.phase = .reading stream) :
    Timely (client.receive exchange stream) := by
  have hunopened : ∀ other, client.opened ≤ other →
      Function.update client.inbox stream ((client.inbox stream).drop READ_CHUNK) other = [] := by
    intro other hother
    by_cases he : other = stream
    · rw [he, Function.update_self, ← he, h.unopened other hother, List.drop_nil]
    · rw [Function.update_of_ne he]
      exact h.unopened other hother
  unfold Client.receive
  dsimp only
  split
  · exact ⟨⟨h.sound.trace, h.sound.held⟩, hunopened, fun _ hexchange => by cases hexchange⟩
  · rename_i reader frames hfeed
    refine ⟨⟨h.sound.trace, h.sound.held⟩, hunopened, fun other hother hstatus => ?_⟩
    obtain rfl := Option.some.inj hother
    have hawaits := h.inside exchange hinside hstatus
    obtain ⟨hframes, hclear⟩ := (hawaits.chunk hstream).drain
    obtain ⟨hbuffer, rfl⟩ := feed_eq_some hfeed
    refine ⟨hawaits.asked, fun entry hentry hkind => ?_, ?_, fun _ hphase => by cases hphase⟩
    · rcases List.mem_append.mp hentry with hentry | hentry
      · exact hawaits.pending entry hentry hkind
      · exact hframes entry hentry hkind
    · rw [hbuffer]
      exact hclear

-- Popping the queue and leaving the lock, or not, is safe.
theorem Timely.popped (h : Timely client) {entry : Frame × List Octet}
    {rest : List (Frame × List Octet)} (hpending : client.pending = entry :: rest)
    {inside : Option Exchange}
    (hinside : ∀ exchange, inside = some exchange → ∃ before, client.inside = some before ∧
      exchange.request = before.request ∧ exchange.askedAt = before.askedAt ∧
      ∀ stream, exchange.phase ≠ .reading stream) :
    Timely { client with pending := rest, inside } := by
  refine ⟨⟨h.sound.trace, h.sound.held⟩, h.unopened, fun exchange hexchange hstatus => ?_⟩
  obtain ⟨before, hbefore, hrequest, hasked, hphase⟩ := hinside exchange hexchange
  have hawaits := h.inside before hbefore (hrequest ▸ hstatus)
  refine ⟨hasked ▸ hawaits.asked, fun other hother => ?_, hasked ▸ hawaits.clear,
    fun stream hstream => absurd hstream (hphase stream)⟩
  rw [hasked]
  exact hawaits.pending other (hpending ▸ List.mem_cons_of_mem _ hother)

-- A frame taken for the answer to a STATUS_REQUEST is a fresh one.
theorem Timely.answer (h : Timely client) {exchange : Exchange} {frame : Frame}
    {bytes : List Octet} {rest : List (Frame × List Octet)}
    (hinside : client.inside = some exchange) (hpending : client.pending = (frame, bytes) :: rest)
    (hframe : frame.command = exchange.request.expect.number) :
    Timely ({ client with pending := rest }.answer provider exchange frame bytes) := by
  have hleft : Timely { client with pending := rest, inside := none } :=
    h.popped hpending fun _ hnone => by cases hnone
  unfold Client.answer
  cases hrequest : exchange.request with
  | passcode | login => exact hleft
  | status execution =>
      have hstatus : exchange.request.isStatus = true := by rw [hrequest]; rfl
      have hkind : IsStatus frame := by rw [IsStatus, hframe, hrequest]; rfl
      obtain ⟨octet, hoctet, hlate⟩ := (h.inside exchange hinside hstatus).pending (frame, bytes)
        (hpending ▸ List.mem_cons_self) hkind
      have hfresh : Answer.Fresh ⟨frame.payload, exchange.askedAt, receivedAt bytes⟩ := by
        simp only [Answer.Fresh, receivedAt, Option.mem_def.mp hoctet, Option.map_some,
          Option.getD_some]
        exact hlate
      have htold : Timely (Client.emit { client with pending := rest, inside := none }
          (.answered ⟨frame.payload, exchange.askedAt, receivedAt bytes⟩)) := by
        refine hleft.apart (apart_emit _) (hleft.sound.emit fun answer hanswer => ?_)
          fun _ hexchange => hexchange
        obtain rfl := Option.some.inj hanswer
        exact hfresh
      dsimp only
      cases execution with
      | none => exact htold
      | some id =>
          dsimp only
          split
          · exact htold
          · rename_i held hheld
            refine htold.become id fun answer hanswer => ?_
            rcases answers_readEnds hanswer with hold | hnew
            · exact h.sound.held id held hheld answer hold
            · obtain rfl := Except.ok.inj hnew
              exact hfresh

theorem Timely.turn (h : Timely client) {exchange : Exchange}
    (hinside : client.inside = some exchange) (hphase : exchange.phase = .turning) :
    Timely (client.turn provider exchange) := by
  unfold Client.turn
  split
  · rename_i frame bytes rest hpending
    dsimp only
    split
    · rename_i hframe
      exact h.answer hinside hpending hframe
    · split
      · split
        · exact h.popped hpending fun _ hnone => by cases hnone
        · refine h.popped hpending fun other hother => ⟨exchange, hinside, ?_⟩
          obtain rfl := Option.some.inj hother
          exact ⟨rfl, rfl, nofun⟩
      · refine h.popped hpending fun other hother => ⟨exchange, hinside, ?_⟩
        obtain rfl := Option.some.inj (hinside.symm.trans hother)
        exact ⟨rfl, rfl, fun stream hreading => by cases hphase.symm.trans hreading⟩
  · split
    · exact h.left
    · rename_i stream hstream
      split
      · exact h.receive hinside (.inl hstream)
      · rename_i hempty
        split
        · exact h.left
        · refine ⟨⟨h.sound.trace, h.sound.held⟩, h.unopened, fun other hother hstatus => ?_⟩
          obtain rfl := Option.some.inj hother
          obtain ⟨hasked, hpendingLate, hclear, -⟩ := h.inside exchange hinside hstatus
          refine ⟨hasked, hpendingLate, hclear, fun found hfound => ?_⟩
          obtain rfl := Phase.reading.inj hfound
          have hinbox : client.inbox stream = [] := by simpa using hempty
          refine ⟨fun octet hoctet => ?_, fun current hcurrent hne => ?_⟩
          · rw [show ({ client with inside := _ } : Client).inbox stream = [] from hinbox] at hoctet
            cases hoctet
          · exact absurd (Option.some.inj (hcurrent.symm.trans hstream)) hne

-- A request is only written when no answer to it can already be there.
theorem Timely.begin (h : Timely client) {request : Request}
    (hguard : request.isStatus = true → client.stream.isSome = true →
      ∀ entry ∈ client.received, ¬IsStatus entry.1) : Timely (client.begin request) := by
  unfold Client.begin
  split
  · exact h
  · rename_i stream hstream
    have hemitted : Sound (client.emit (.asked request client.now)) :=
      h.sound.emit fun _ hanswer => by cases hanswer
    refine ⟨⟨hemitted.trace, hemitted.held⟩, h.unopened, fun exchange hexchange hstatus => ?_⟩
    obtain rfl := Option.some.inj hexchange
    have hnone := hguard hstatus (by rw [hstream]; rfl)
    refine ⟨Nat.le_refl _, fun entry hentry hkind => ?_,
      Decoder.clear_of_drain fun entry hentry => ?_,
      fun _ hphase => by cases hphase⟩
    · exact absurd hkind (hnone entry (List.mem_append_left _ hentry))
    · exact hnone entry (List.mem_append_right _ hentry)

theorem Timely.arrive (h : Timely client) {stream : StreamId} (bytes : Bytes)
    (hopened : stream < client.opened) :
    Timely { client with
      now := client.now + 1
      inbox := Function.update client.inbox stream (client.inbox stream ++
        bytes.map fun value => ⟨value, client.now + 1⟩) } := by
  refine ⟨⟨h.sound.trace, h.sound.held⟩, fun other hother => ?_,
    fun exchange hexchange hstatus => ?_⟩
  · have hne : other ≠ stream := fun he => absurd hopened (Nat.not_lt_of_ge (he ▸ hother))
    exact (Function.update_of_ne hne _ _).trans (h.unopened other hother)
  · obtain ⟨hasked, hpending, hclear, hreading⟩ := h.inside exchange hexchange hstatus
    have hnew : ∀ octet ∈ bytes.map fun value => (⟨value, client.now + 1⟩ : Octet),
        exchange.askedAt < octet.receivedAt := by
      intro octet hoctet
      obtain ⟨value, -, rfl⟩ := List.mem_map.mp hoctet
      exact Nat.lt_succ_of_le hasked
    -- Whatever a stream held late, it holds late with the new bytes.
    have hinbox : ∀ other, (∀ octet ∈ client.inbox other, exchange.askedAt < octet.receivedAt) →
        ∀ octet ∈ Function.update client.inbox stream (client.inbox stream ++
          bytes.map fun value => ⟨value, client.now + 1⟩) other,
          exchange.askedAt < octet.receivedAt := by
      intro other hlate octet hoctet
      by_cases he : other = stream
      · rw [he, Function.update_self, List.mem_append] at hoctet
        exact hoctet.elim (fun hold => hlate octet (he ▸ hold)) (hnew octet)
      · rw [Function.update_of_ne he] at hoctet
        exact hlate octet hoctet
    refine ⟨Nat.le_succ_of_le hasked, hpending, ?_, fun found hphase => ?_⟩
    · cases hcurrent : client.stream with
      | none => simpa only [Client.unread, hcurrent, Option.elim_none] using hclear
      | some current =>
          simp only [Client.unread, hcurrent, Option.elim_some] at hclear ⊢
          by_cases he : current = stream
          · rw [he, Function.update_self, ← List.append_assoc]
            exact (he ▸ hclear).append hnew
          · rw [Function.update_of_ne he]
            exact hclear
    · obtain ⟨hlate, hothers⟩ := hreading found hphase
      refine ⟨hinbox found hlate, fun current hcurrent hne octet hoctet => ?_⟩
      have hall := hothers current hcurrent hne
      rcases List.mem_append.mp hoctet with hoctet | hoctet
      · exact hall octet (List.mem_append_left _ hoctet)
      · exact hinbox current (fun other hother => hall other (List.mem_append_right _ hother)) octet
          hoctet

theorem Timely.connected (h : Timely client) : Timely client.connected := by
  have hempty : client.inbox client.opened = [] := h.unopened _ (Nat.le_refl _)
  refine ⟨⟨h.sound.trace, h.sound.held⟩,
    fun stream hstream => h.unopened stream (Nat.le_of_succ_le hstream),
    fun exchange hexchange hstatus => ?_⟩
  obtain ⟨hasked, -, -, hreading⟩ := h.inside exchange hexchange hstatus
  refine ⟨hasked, nofun, Decoder.clear_of_late fun octet hoctet => ?_,
    fun stream hphase => ⟨(hreading stream hphase).1, fun current hcurrent _ octet hoctet => ?_⟩⟩
  · simp [Client.connected, Client.unread, hempty] at hoctet
  · obtain rfl := Option.some.inj hcurrent
    simp [Client.connected, hempty] at hoctet

theorem Timely.close (h : Timely client) : Timely { client with stream := none } := by
  refine ⟨⟨h.sound.trace, h.sound.held⟩, h.unopened, fun exchange hexchange hstatus => ?_⟩
  obtain ⟨hasked, hpending, hclear, hreading⟩ := h.inside exchange hexchange hstatus
  refine ⟨hasked, hpending, ?_,
    fun stream hphase => ⟨(hreading stream hphase).1, fun _ hcurrent => by cases hcurrent⟩⟩
  simpa only [Client.unread, Option.elim_none, List.append_nil] using hclear.left

theorem Timely.drained (h : Timely client) {exchange : Exchange}
    (hinside : client.inside = some exchange) :
    Timely { client with inside := some { exchange with phase := .turning } } := by
  refine ⟨⟨h.sound.trace, h.sound.held⟩, h.unopened, fun other hother hstatus => ?_⟩
  obtain rfl := Option.some.inj hother
  obtain ⟨hasked, hpending, hclear, -⟩ := h.inside exchange hinside hstatus
  exact ⟨hasked, hpending, hclear, fun _ hphase => by cases hphase⟩

theorem Timely.data (h : Timely client) {exchange : Exchange} {stream : StreamId}
    (hinside : client.inside = some exchange) (hphase : exchange.phase = .reading stream)
    (hdata : client.data exchange stream = some after) : Timely after := by
  unfold Client.data at hdata
  split at hdata
  · obtain rfl := Option.some.inj hdata
    exact h.receive hinside (.inr hphase)
  · split at hdata
    · obtain rfl := Option.some.inj hdata
      exact h.left
    · cases hdata

theorem Timely.sendControl (h : Timely client) {id : ExecutionId} {request : ControlRequest}
    {base : Answer} (hget : client.executions.get? id = some (.writing request base)) :
    Timely (client.sendControl provider id (.writing request base) request base) := by
  have hbase : ∀ answer ∈ (Execution.writing request base).answers, answer.Fresh :=
    h.sound.held id _ hget
  have hcounted : Timely { client with sequence := (client.sequence + 1) % 2 ^ 32 } :=
    h.aside ⟨rfl, rfl, rfl, rfl, rfl, rfl⟩ rfl rfl rfl
  have hraised (error : ClientError) : Timely (Client.become
      { client with sequence := (client.sequence + 1) % 2 ^ 32 } id
      ((Execution.writing request base).sendEnds provider Answer.payload (.error error))) :=
    hcounted.become id fun answer hanswer => hbase answer (answers_sendEnds hanswer)
  unfold Client.sendControl
  dsimp only
  split
  · exact hraised _
  · split
    · exact hraised _
    · split
      · exact hraised _
      · refine Timely.become (hcounted.apart (apart_emit _) (hcounted.sound.emit ?_)
          fun _ hsame => hsame) id fun _ hanswer => by cases hanswer
        intro answer hanswer
        obtain rfl := Option.some.inj hanswer
        exact hbase _ (List.mem_singleton_self _)

end Timely

end Homeflow.Bestway
