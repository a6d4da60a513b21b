import Homeflow.Events.Bus
import Homeflow.Lib.History

namespace Homeflow.Events

-- The event a frame tells of.
def Frame.event? : Frame → Option Publication
  | .event publication => some publication
  | .ping | .resyncRequired => none

def eventsOf (frames : List Frame) : List Publication := frames.filterMap Frame.event?

-- The number a receiver expects of the next event, and whether it was told not to.
def heard (frames : List Frame) : Nat × Bool :=
  frames.foldl (fun state frame => match frame with
    | .ping => state
    | .resyncRequired => (state.1, true)
    | .event publication => (publication.number + 1, false)) (0, false)

section Heard

variable (frames : List Frame)

@[simp] theorem heard_ping : heard (frames ++ [.ping]) = heard frames := by
  simp [heard]

@[simp] theorem heard_resync : heard (frames ++ [.resyncRequired]) = ((heard frames).1, true) := by
  simp [heard]

@[simp] theorem heard_event (publication : Publication) :
    heard (frames ++ [.event publication]) = (publication.number + 1, false) := by
  simp [heard]

@[simp] theorem eventsOf_ping : eventsOf (frames ++ [.ping]) = eventsOf frames := by
  rw [eventsOf, List.filterMap_append]
  exact List.append_nil _

@[simp] theorem eventsOf_resync : eventsOf (frames ++ [.resyncRequired]) = eventsOf frames := by
  rw [eventsOf, List.filterMap_append]
  exact List.append_nil _

@[simp] theorem eventsOf_event (publication : Publication) :
    eventsOf (frames ++ [.event publication]) = eventsOf frames ++ [publication] := by
  rw [eventsOf, List.filterMap_append]
  rfl

-- As long as no event comes, a hint is all that can be heard.
theorem heard_between {between : List Frame} (h : eventsOf between = []) :
    (heard (frames ++ between)).1 = (heard frames).1 ∧
      ((heard (frames ++ between)).2 = true → (heard frames).2 = true ∨
        .resyncRequired ∈ between) := by
  induction between using List.reverseRecOn with
  | nil => simp
  | append_singleton between frame ih =>
      rw [eventsOf, List.filterMap_append, List.append_eq_nil_iff] at h
      obtain ⟨hnumber, hhinted⟩ := ih h.1
      rw [← List.append_assoc]
      cases frame with
      | ping =>
          simp only [heard_ping, List.mem_append]
          exact ⟨hnumber, fun htrue => (hhinted htrue).imp_right .inl⟩
      | resyncRequired =>
          rw [heard_resync]
          exact ⟨hnumber, fun _ => .inr (by simp)⟩
      | event publication => simp [Frame.event?] at h

end Heard

-- No event frame comes out of order, and none after a gap without a hint.
def Told (frames : List Frame) : Prop :=
  ∀ before publication after, frames = before ++ .event publication :: after →
    (heard before).1 ≤ publication.number ∧
      ((heard before).1 < publication.number → (heard before).2 = true)

theorem told_concat {frames : List Frame} {frame : Frame} (h : Told frames)
    (hframe : ∀ publication, frame = .event publication →
      (heard frames).1 ≤ publication.number ∧
        ((heard frames).1 < publication.number → (heard frames).2 = true)) :
    Told (frames ++ [frame]) := by
  intro before publication after hsplit
  rcases History.concat_eq_iff.mp hsplit with ⟨rfl, hlast, -⟩ | ⟨rest, hshorter, -⟩
  · exact hframe publication hlast
  · exact h before publication rest hshorter

-- The entries that go through the queue of a connection.
def Connection.Stream (connection : Connection) (stream : List (Option Publication)) : Prop :=
  stream = connection.published.map some ∨
    connection.subscription.closed = true ∧ stream = connection.published.map some ++ [none]

-- The event the loop has taken and not sent.
def Phase.hand : Phase → Option Publication
  | .hinting publication | .sending publication => some publication
  | .waiting | .pinging | .ended => none

-- How far the stream has been taken.
def Connection.taken (connection : Connection) : Nat :=
  match connection.phase.hand with
  | some publication => publication.number + 1
  | none => (heard connection.sent).1

-- What is missing between the frames that were sent has been told, and what is missing
-- behind the last of them is still to be told.
structure Faithful (connection : Connection) : Prop where
  numbered : ∀ position (publication : Publication),
    connection.published[position]? = some publication → publication.number = position
  told : Told connection.sent
  sublist : (eventsOf connection.sent).Sublist
    (connection.published.take (heard connection.sent).1)
  hand : ∀ publication : Publication, connection.phase.hand = some publication →
    connection.published[publication.number]? = some publication ∧
      (heard connection.sent).1 ≤ publication.number
  hinted : ∀ publication : Publication, connection.phase = .sending publication →
    (heard connection.sent).1 < publication.number → (heard connection.sent).2 = true
  queue : connection.phase ≠ .ended → ∃ stream, connection.Stream stream ∧
    connection.subscription.queue.Tracks stream connection.taken

theorem faithful_subscribed (queueSize : Nat) : Faithful (subscribed queueSize) where
  numbered := by simp [subscribed]
  told := by
    intro before publication after hsplit
    simp [subscribed] at hsplit
  sublist := by simp [subscribed, eventsOf]
  hand := by simp [subscribed, Phase.hand]
  hinted := by simp [subscribed]
  queue := fun _ => ⟨[], .inl rfl, LossyQueue.tracks_empty rfl⟩

section Steps

variable {connection after : Connection}

theorem faithful_publish (h : Faithful connection) (event : DomainEvent) :
    Faithful (connection.publish event) := by
  unfold Connection.publish
  split
  · exact h
  · next hopen =>
    dsimp only
    refine ⟨fun position publication hget => ?_, h.told, ?_, fun publication hhand => ?_,
      h.hinted, fun hended => ?_⟩
    · rcases Nat.lt_trichotomy position connection.published.length with hlt | rfl | hgt
      · rw [List.getElem?_append_left hlt] at hget
        exact h.numbered position publication hget
      · simp at hget
        rw [← hget]
      · rw [List.getElem?_eq_none (by simp; omega)] at hget
        cases hget
    · rw [List.take_append]
      exact h.sublist.trans (List.sublist_append_left _ _)
    · obtain ⟨hget, hle⟩ := h.hand publication hhand
      obtain ⟨hlt, -⟩ := List.getElem?_eq_some_iff.mp hget
      exact ⟨(List.getElem?_append_left hlt).trans hget, hle⟩
    · obtain ⟨stream, hstream, htracks⟩ := h.queue hended
      have hopened : stream = connection.published.map some := by
        rcases hstream with rfl | ⟨hclosed, -⟩
        · rfl
        · exact absurd hclosed hopen
      subst hopened
      refine ⟨_, .inl rfl, ?_⟩
      rw [Subscription.offer, if_neg hopen, List.map_append]
      exact LossyQueue.tracks_offer htracks _

theorem faithful_close (h : Faithful connection) :
    Faithful { connection with subscription := connection.subscription.close } := by
  refine ⟨h.numbered, h.told, h.sublist, h.hand, h.hinted, fun hended => ?_⟩
  obtain ⟨stream, hstream, htracks⟩ := h.queue hended
  by_cases hclosed : connection.subscription.closed = true
  · rw [Subscription.close, if_pos hclosed]
    exact ⟨stream, hstream, htracks⟩
  · have hopened : stream = connection.published.map some := by
      rcases hstream with rfl | ⟨hclosed', -⟩
      · rfl
      · exact absurd hclosed' hclosed
    subst hopened
    rw [Subscription.close, if_neg hclosed]
    cases hput : connection.subscription.queue.put none with
    | none => exact ⟨_, .inl rfl, htracks⟩
    | some queue => exact ⟨_, .inr ⟨rfl, rfl⟩, LossyQueue.tracks_put htracks hput⟩

theorem published_of_stream {stream : List (Option Publication)} {position : Nat}
    {publication : Publication} (hstream : connection.Stream stream)
    (hitem : stream[position]? = some (some publication)) :
    connection.published[position]? = some publication := by
  rcases hstream with rfl | ⟨-, rfl⟩
  · simpa using hitem
  · rw [List.getElem?_append] at hitem
    split at hitem
    · simpa using hitem
    · simp [List.getElem?_cons] at hitem

theorem faithful_take (h : Faithful connection) (hphase : connection.phase = .waiting)
    (htake : connection.take = some after) : Faithful after := by
  obtain ⟨stream, hstream, htracks⟩ := h.queue (by simp [hphase])
  unfold Connection.take at htake
  split at htake
  · cases htake
  · cases htake
    exact ⟨h.numbered, h.told, h.sublist, by simp [Phase.hand], by simp, fun hended =>
      absurd rfl hended⟩
  · next publication subscription hnext =>
    obtain ⟨⟨entry, queue⟩, hget, hentry⟩ := Option.map_eq_some_iff.mp hnext
    cases hentry
    cases htake
    have htaken : connection.taken = (heard connection.sent).1 := by
      simp [Connection.taken, hphase, Phase.hand]
    rw [htaken] at htracks
    obtain ⟨position, hle, hlagged, hitem, hrest⟩ := LossyQueue.tracks_get htracks hget
    have hpublished : connection.published[position]? = some publication :=
      published_of_stream hstream hitem
    obtain rfl := h.numbered position publication hpublished
    have hkeep : queue.lagged = connection.subscription.queue.lagged := LossyQueue.lagged_get hget
    have hhand : (if queue.lagged then Phase.hinting publication
        else .sending publication).hand = some publication := by
      split <;> rfl
    refine ⟨h.numbered, h.told, h.sublist, fun other hother => ?_, fun other hother hgap => ?_,
      fun _ => ⟨stream, hstream, ?_⟩⟩
    · obtain rfl := Option.some.inj (hhand.symm.trans hother)
      exact ⟨hpublished, hle⟩
    · -- Without the flag there is no gap to be told of.
      dsimp only at hother
      split at hother
      · cases hother
      · next hquiet =>
        cases hother
        exact absurd (hkeep.trans (hlagged hgap)) hquiet
    · change queue.clear.Tracks stream _
      simp only [Connection.taken, hhand]
      exact hrest

theorem faithful_timeout (h : Faithful connection) (hphase : connection.phase = .waiting) :
    Faithful { connection with phase := .pinging } := by
  refine ⟨h.numbered, h.told, h.sublist, by simp [Phase.hand], by simp, fun _ => ?_⟩
  obtain ⟨stream, hstream, htracks⟩ := h.queue (by simp [hphase])
  refine ⟨stream, hstream, ?_⟩
  simpa [Connection.taken, hphase, Phase.hand] using htracks

-- A frame that leaves is in order.
theorem frame_sent (h : Faithful connection) {frame : Frame}
    (hframe : connection.phase.frame = some frame) :
    Told (connection.sent ++ [frame]) ∧ (eventsOf (connection.sent ++ [frame])).Sublist
      (connection.published.take (heard (connection.sent ++ [frame])).1) := by
  cases hphase : connection.phase with
  | waiting | ended => simp [hphase, Phase.frame] at hframe
  | pinging =>
      rw [hphase] at hframe
      cases hframe
      exact ⟨told_concat h.told (by simp), by simpa using h.sublist⟩
  | hinting publication =>
      rw [hphase] at hframe
      cases hframe
      exact ⟨told_concat h.told (by simp), by simpa using h.sublist⟩
  | sending publication =>
      rw [hphase] at hframe
      cases hframe
      obtain ⟨hget, hle⟩ := h.hand publication (by rw [hphase]; rfl)
      refine ⟨told_concat h.told ?_, ?_⟩
      · rintro other ⟨⟩
        exact ⟨hle, h.hinted publication hphase⟩
      · have hlast : connection.published.take (publication.number + 1) =
            connection.published.take publication.number ++ [publication] := by
          rw [List.take_add_one, hget]
          rfl
        rw [heard_event, hlast, eventsOf_event]
        exact (h.sublist.trans (List.take_sublist_take_left hle)).append (List.Sublist.refl _)

theorem faithful_delivered (h : Faithful connection) {frame : Frame}
    (hframe : connection.phase.frame = some frame) : Faithful (connection.delivered frame) := by
  obtain ⟨htold, hsublist⟩ := frame_sent h hframe
  obtain ⟨stream, hstream, htracks⟩ := h.queue (by
    rintro hended
    simp [hended, Phase.frame] at hframe)
  cases hphase : connection.phase with
  | waiting | ended => simp [hphase, Phase.frame] at hframe
  | pinging =>
      rw [hphase] at hframe
      cases hframe
      have htaken : (connection.delivered .ping).taken = connection.taken := by
        simp [Connection.taken, Connection.delivered, hphase, Phase.hand]
      refine ⟨h.numbered, htold, hsublist, ?_, ?_, fun _ => ⟨stream, hstream, htaken ▸ htracks⟩⟩
      · simp [Connection.delivered, hphase, Phase.hand]
      · simp [Connection.delivered, hphase]
  | hinting publication =>
      rw [hphase] at hframe
      cases hframe
      have htaken : (connection.delivered .resyncRequired).taken = connection.taken := by
        simp [Connection.taken, Connection.delivered, hphase, Phase.hand]
      refine ⟨h.numbered, htold, hsublist, fun other hother => ?_, fun _ _ _ => ?_,
        fun _ => ⟨stream, hstream, htaken ▸ htracks⟩⟩
      · obtain rfl : publication = other := by
          simpa [Connection.delivered, hphase, Phase.hand] using hother
        have hheld := h.hand publication (by rw [hphase]; rfl)
        simpa [Connection.delivered] using hheld
      · simp [Connection.delivered]
  | sending publication =>
      rw [hphase] at hframe
      cases hframe
      have htaken : (connection.delivered (.event publication)).taken = connection.taken := by
        simp [Connection.taken, Connection.delivered, hphase, Phase.hand]
      refine ⟨h.numbered, htold, hsublist, ?_, ?_, fun _ => ⟨stream, hstream, htaken ▸ htracks⟩⟩
      · simp [Connection.delivered, hphase, Phase.hand]
      · simp [Connection.delivered, hphase]

theorem faithful_gone (h : Faithful connection) {frame : Frame}
    (hframe : connection.phase.frame = some frame) (written : Bool) :
    Faithful { connection with
      phase := .ended
      sent := if written then connection.sent ++ [frame] else connection.sent } := by
  obtain ⟨htold, hsublist⟩ := frame_sent h hframe
  refine ⟨h.numbered, ?_, ?_, by simp [Phase.hand], by simp, fun hended => absurd rfl hended⟩
  · cases written with
    | true => exact htold
    | false => exact h.told
  · cases written with
    | true => exact hsublist
    | false => exact h.sublist

theorem faithful_step {label : Label} (h : Faithful connection)
    (hstep : connection.step label = some after) : Faithful after := by
  cases label with
  | publish event =>
      cases hstep
      exact faithful_publish h event
  | close =>
      cases hstep
      exact faithful_close h
  | take =>
      simp only [Connection.step] at hstep
      split at hstep
      · next hphase => exact faithful_take h hphase hstep
      · cases hstep
  | timeout =>
      simp only [Connection.step] at hstep
      split at hstep
      · next hphase =>
        cases hstep
        exact faithful_timeout h hphase
      · cases hstep
  | delivered =>
      obtain ⟨frame, hframe, rfl⟩ := Option.map_eq_some_iff.mp hstep
      exact faithful_delivered h hframe
  | gone written =>
      obtain ⟨frame, hframe, rfl⟩ := Option.map_eq_some_iff.mp hstep
      exact faithful_gone h hframe written

theorem capacity_step {label : Label} (hstep : connection.step label = some after) :
    after.subscription.queue.capacity = connection.subscription.queue.capacity := by
  cases label with
  | publish event =>
      cases hstep
      unfold Connection.publish
      split
      · rfl
      · next hopen =>
        simp only [Subscription.offer, if_neg hopen]
        exact LossyQueue.capacity_offer _ _
  | close =>
      cases hstep
      unfold Subscription.close
      split
      · rfl
      · cases hput : connection.subscription.queue.put none with
        | none => rfl
        | some queue => exact LossyQueue.capacity_put hput
  | take =>
      simp only [Connection.step, Connection.take] at hstep
      split at hstep
      · split at hstep
        · cases hstep
        · next subscription hnext =>
          obtain ⟨⟨entry, queue⟩, hget, hentry⟩ := Option.map_eq_some_iff.mp hnext
          cases hentry
          cases hstep
          exact LossyQueue.capacity_get hget
        · next publication subscription hnext =>
          obtain ⟨⟨entry, queue⟩, hget, hentry⟩ := Option.map_eq_some_iff.mp hnext
          cases hentry
          cases hstep
          have hcapacity := LossyQueue.capacity_get hget
          exact hcapacity
      · cases hstep
  | timeout =>
      simp only [Connection.step] at hstep
      split at hstep
      · cases hstep
        rfl
      · cases hstep
  | delivered | gone =>
      obtain ⟨frame, -, rfl⟩ := Option.map_eq_some_iff.mp hstep
      rfl

end Steps

section Runs

variable {queueSize : Nat} {labels : List Label} {connection : Connection}

theorem faithful_run
    (hrun : Machine.run Connection.step (subscribed queueSize) labels = some connection) :
    Faithful connection :=
  Machine.invariant (faithful_subscribed queueSize)
    (fun _ _ _ hbefore hstep => faithful_step hbefore hstep) hrun

theorem capacity_run
    (hrun : Machine.run Connection.step (subscribed queueSize) labels = some connection) :
    connection.subscription.queue.capacity = queueSize := by
  let inv : Connection → Prop := fun connection =>
    connection.subscription.queue.capacity = queueSize
  have hinv : inv connection := Machine.invariant rfl
    (fun _ _ _ hbefore hstep => (capacity_step hstep).trans hbefore) hrun
  exact hinv

end Runs

-- Whatever the connection skips it tells: the events it sends are published ones in their
-- order, and the hint comes between two of them, or before the first, if others are missing.
theorem no_silent_loss {queueSize : Nat} (hsize : 1 ≤ queueSize) {labels : List Label}
    {connection : Connection}
    (hrun : Machine.run Connection.step (subscribed queueSize) labels = some connection) :
    (∀ position (publication : Publication),
      connection.published[position]? = some publication → publication.number = position) ∧
    (eventsOf connection.sent).Sublist connection.published ∧
    (∀ between (publication : Publication) after,
      connection.sent = between ++ .event publication :: after → eventsOf between = [] →
      0 < publication.number → .resyncRequired ∈ between) ∧
    (∀ before (first : Publication) between (second : Publication) after,
      connection.sent = before ++ .event first :: between ++ .event second :: after →
      eventsOf between = [] →
      first.number < second.number ∧
        (first.number + 1 < second.number → .resyncRequired ∈ between)) ∧
    connection.subscription.queue.items.length ≤ queueSize := by
  have hfaithful := faithful_run hrun
  have hcapacity := capacity_run hrun
  refine ⟨hfaithful.numbered, hfaithful.sublist.trans (List.take_sublist _ _), ?_, ?_, ?_⟩
  · intro between publication after hsent hbetween hgap
    obtain ⟨hnumber, hhinted⟩ := heard_between [] hbetween
    have htold := hfaithful.told between publication after hsent
    simp only [List.nil_append] at hnumber hhinted
    have hhint := htold.2 (by rw [hnumber]; exact hgap)
    exact (hhinted hhint).resolve_left (by simp [heard])
  · intro before first between second after hsent hbetween
    obtain ⟨hnumber, hhinted⟩ := heard_between (before ++ [.event first]) hbetween
    rw [heard_event] at hnumber hhinted
    have htold := hfaithful.told (before ++ [.event first] ++ between) second after (by
      rw [hsent]
      simp)
    rw [hnumber] at htold
    exact ⟨htold.1, fun hgap => (hhinted (htold.2 hgap)).resolve_left (by simp)⟩
  · have hbounded := connection.subscription.queue.bounded
    rw [hcapacity] at hbounded
    exact hbounded hsize

-- A full queue of one, twice over.
def overrun : List Label :=
  let event : DomainEvent := { type := .deviceStateChanged, occurredAt := 0 }
  [.publish event, .publish event, .take, .publish event, .publish event, .delivered, .delivered,
    .take, .delivered, .delivered]

theorem no_silent_loss_overrun : ∃ connection,
    Machine.run Connection.step (subscribed 1) overrun = some connection ∧
      (eventsOf connection.sent).map Publication.number = [1, 3] ∧
      connection.subscription.queue.items.length ≤ 1 := by
  obtain ⟨connection, hrun⟩ := Option.isSome_iff_exists.mp
    (show (Machine.run Connection.step (subscribed 1) overrun).isSome = true by decide)
  have hnumbers : (Machine.run Connection.step (subscribed 1) overrun).map (fun connection =>
      (eventsOf connection.sent).map Publication.number) = some [1, 3] := by decide
  rw [hrun] at hnumbers
  exact ⟨connection, hrun, Option.some.inj hnumbers, (no_silent_loss le_rfl hrun).2.2.2.2⟩

end Homeflow.Events
