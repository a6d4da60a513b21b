import Homeflow.Live.World

namespace Homeflow.Live

variable {clock : Nat → Time} {queueSize staleAfterSeconds : Nat} {id : Uuid}

-- What an answer says of a device.
def seen (devices : List DeviceResponse) (id : Uuid) : Option (DeviceState × Availability) :=
  ((OrderedDict.ofValues (fun device => device.id) devices).get? id).map fun device => device.view

-- What a frame says of a device. A hint says that there is more to know.
def word (id : Uuid) : Frame → Option (Option (DeviceState × Availability))
  | .resyncRequired => some none
  | .event _ (some device) => if device.id = id then some (some device.view) else none
  | _ => none

def words (id : Uuid) (wire : List Frame) : List (Option (DeviceState × Availability)) :=
  wire.filterMap (word id)

def about (id : Uuid) (event : DomainEvent) : Bool := event.deviceId = some id

def Subscription.tells (id : Uuid) (subscription : Subscription) : Bool :=
  subscription.queue.lagged || subscription.queue.items.any fun entry => entry.any (about id)

-- The session will send the device as it is then, or the hint.
def Session.tells (id : Uuid) : Session → Bool
  | .following subscription sending => sending.any (about id) || subscription.tells id
  | _ => false

def Session.followed : Session → Bool
  | .following _ _ => true
  | _ => false

def Session.idle : Session → Bool
  | .following subscription sending => subscription.queue.items.isEmpty && sending.isNone
  | _ => true

namespace World

def awaited (world : World) (id : Uuid) : Bool :=
  (world.held id).isSome && world.session.tells id

-- Something that is newer than what the client was told of a device is on its way: the map
-- that onopen or a pending request will fetch, an event or a frame, or a current answer.
def Coming (world : World) (id : Uuid) : Prop :=
  world.opened = false ∨ world.requests ≠ 0 ∨ world.awaited id = true ∨
    words id world.wire ≠ [] ∨ ∃ devices ∈ world.responses, seen devices id = world.held id

-- All that was sent is received.
def Settled (world : World) : Prop :=
  world.opened = true ∧ world.requests = 0 ∧ world.responses = [] ∧ world.wire = [] ∧
    world.session.idle = true

end World

-- A change before the subscription is still to be read by a request, and an outdated answer
-- arrives only while something newer is on its way.
def Caught (clock : Nat → Time) (id : Uuid) (world : World) : Label → Prop
  | .ingest ref state source correlationId =>
      (world.ingest clock ref state source correlationId).held id = world.held id ∨
        world.session.followed = true ∨ world.opened = false ∨ world.requests ≠ 0
  | .deliver index => ∀ devices ∈ world.responses[index]?,
      seen devices id = world.held id ∨
        { world with responses := world.responses.eraseIdx index }.Coming id
  | _ => True

section Events

variable {subscription : Subscription} {events : List DomainEvent} {event : DomainEvent}

theorem tells_offer (h : subscription.tells id = true) :
    (subscription.offer event).tells id = true := by
  simp only [Subscription.tells, Bool.or_eq_true, List.any_eq_true] at h ⊢
  rcases h with hlagged | ⟨told, hmem, habout⟩
  · exact .inl (Subscription.lagged_offer hlagged)
  · rcases Subscription.kept_or_lagged event hmem with hmem | hlagged
    · exact .inr ⟨told, hmem, habout⟩
    · exact .inl hlagged

theorem tells_offers (events : List DomainEvent) (h : subscription.tells id = true) :
    (events.foldl .offer subscription).tells id = true := by
  induction events generalizing subscription with
  | nil => exact h
  | cons event rest ih => exact ih (tells_offer h)

theorem session_tells_offers {session : Session} (events : List DomainEvent)
    (h : session.tells id = true) : (session.offers events).tells id = true := by
  cases session with
  | closed | accepted | greeted => cases h
  | following subscription sending =>
      simp only [Session.tells, Session.offers, Bool.or_eq_true] at h ⊢
      exact h.imp_right (tells_offers events)

theorem followed_offers (session : Session) (events : List DomainEvent) :
    (session.offers events).followed = session.followed := by
  cases session <;> rfl

theorem tells_offered (hmem : event ∈ events) (habout : about id event = true) :
    (events.foldl .offer subscription).tells id = true := by
  obtain ⟨before, after, rfl⟩ := List.append_of_mem hmem
  rw [List.foldl_append, List.foldl_cons]
  refine tells_offers after ?_
  simp only [Subscription.tells, Bool.or_eq_true, List.any_eq_true]
  exact .inr ⟨some event, Subscription.mem_offer _ event, habout⟩

theorem session_tells_offered {session : Session} (hfollowed : session.followed = true)
    (hmem : event ∈ events) (habout : about id event = true) :
    (session.offers events).tells id = true := by
  cases session with
  | closed | accepted | greeted => cases hfollowed
  | following subscription sending =>
      simp only [Session.tells, Session.offers, Bool.or_eq_true]
      exact .inr (tells_offered hmem habout)

-- What is taken is about to be sent, after the hint if events were dropped.
theorem tells_take {lagged : Bool} {rest : Subscription}
    (htake : subscription.take = some (event, lagged, rest))
    (h : subscription.tells id = true) :
    lagged = true ∨ (Session.following rest (some event)).tells id = true := by
  unfold Subscription.take at htake
  split at htake
  · next first others hnext =>
    obtain ⟨⟨head, queue⟩, hget, hpair⟩ := Option.map_eq_some_iff.mp hnext
    cases hpair
    cases htake
    simp only [Subscription.tells, LossyQueue.items_get hget, List.any_cons,
      ← LossyQueue.lagged_get hget, Bool.or_eq_true] at h
    simp only [Session.tells, Subscription.tells, Option.any_some, Bool.or_eq_true]
    rcases h with hlagged | habout | hrest
    · exact .inl hlagged
    · exact .inr (.inl habout)
    · exact .inr (.inr (.inr hrest))
  · cases htake

theorem tells_of_idle {session : Session} (h : session.idle = true) :
    session.tells id = false := by
  cases session with
  | closed | accepted | greeted => rfl
  | following subscription sending =>
      simp only [Session.idle, Bool.and_eq_true, List.isEmpty_iff, Option.isNone_iff_eq_none] at h
      obtain ⟨hqueue, rfl⟩ := h
      have hlagged : subscription.queue.lagged = false := by
        by_contra hlagged
        exact subscription.lagged_items (Bool.eq_true_of_not_eq_false hlagged) hqueue
      simp [Session.tells, Subscription.tells, hqueue, hlagged]

end Events

section Words

variable {world : World}

theorem words_concat (wire : List Frame) (frame : Frame) :
    words id (wire ++ [frame]) = words id wire ++ (word id frame).toList := by
  rw [words, List.filterMap_append]
  cases h : word id frame <;> simp [words, h]

-- The frame of an event says of its device what the gateway holds.
theorem word_frame (now : Time) (event : DomainEvent) :
    word id (world.frame staleAfterSeconds now event) =
      if about id event then (world.held id).map some else none := by
  unfold World.frame World.held about
  cases hid : event.deviceId with
  | none => rfl
  | some deviceId =>
      have hsame : ∀ device, world.service.registry.get deviceId = some device →
          device.id = deviceId := world.service.registry.devices_id deviceId
      by_cases heq : deviceId = id
      · subst heq
        cases hget : world.service.registry.get deviceId with
        | none => simp [word, hget]
        | some device => simp [word, hget, DeviceResponse.fromDomain, hsame device hget]
      · cases hget : world.service.registry.get deviceId with
        | none => simp [word, hget, heq]
        | some device => simp [word, hget, DeviceResponse.fromDomain, hsame device hget, heq]

theorem seen_listDevices (now : Time) :
    seen (world.listDevices staleAfterSeconds now) id = world.held id := by
  have hids : (world.listDevices staleAfterSeconds now).map (fun device => device.id) =
      world.service.registry.listDevices.map Device.id := by
    rw [World.listDevices, List.map_map]
    rfl
  have hnodup := world.service.registry.listDevices_ids_nodup
  rw [← hids] at hnodup
  unfold seen World.held
  cases hget : world.service.registry.get id with
  | none =>
      have hnone : (OrderedDict.ofValues (fun device => device.id)
          (world.listDevices staleAfterSeconds now)).get? id = none := by
        by_contra hsome
        obtain ⟨response, hresponse⟩ := Option.ne_none_iff_exists'.mp hsome
        obtain ⟨hmem, hid⟩ := (OrderedDict.get?_ofValues hnodup id response).mp hresponse
        obtain ⟨device, hdevice, rfl⟩ := List.mem_map.mp hmem
        rw [DeviceRegistry.mem_listDevices, show device.id = id from hid, hget] at hdevice
        cases hdevice
      rw [hnone]
      rfl
  | some device =>
      have hid : device.id = id := world.service.registry.devices_id id device hget
      have hmem : device ∈ world.service.registry.listDevices :=
        (DeviceRegistry.mem_listDevices _ device).mpr (hid.symm ▸ hget)
      rw [(OrderedDict.get?_ofValues hnodup id _).mpr ⟨List.mem_map_of_mem hmem, hid⟩]
      rfl

end Words

end Homeflow.Live
