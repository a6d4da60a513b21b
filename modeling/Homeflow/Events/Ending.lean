import Homeflow.Events.Bus

namespace Homeflow.Events

-- A subscription with everything its consumer has been handed.
structure Consumer where
  subscription : Subscription Publication
  received : List (Option Publication) := []

inductive Use where
  | offer (publication : Publication)
  | takeLagged
  | close
  -- A call of __anext__ returns an entry, or stops at the end marker.
  | read

namespace Consumer

-- Without an entry a read waits.
def read (consumer : Consumer) : Option Consumer :=
  consumer.subscription.next.map fun (entry, subscription) =>
    { subscription, received := consumer.received ++ [entry] }

def step (consumer : Consumer) : Use → Option Consumer
  | .offer publication =>
      some { consumer with subscription := consumer.subscription.offer publication }
  | .takeLagged => some { consumer with subscription := consumer.subscription.takeLagged.2 }
  | .close => some { consumer with subscription := consumer.subscription.close }
  | .read => consumer.read

end Consumer

def fresh (queueSize : Nat) : Consumer := { subscription := (subscribed queueSize).subscription }

-- Whatever happens once it is closed, the consumer gets what was queued, and the end after it.
def EndsOnceClosed (subscription : Subscription Publication) : Prop :=
  ∀ uses later, Machine.run Consumer.step { subscription := subscription.close } uses = some later →
    later.received <+: subscription.queue.items ++ [none] ∧
      (none ∉ later.received → later.read.isSome = true)

section Consumer

variable {consumer after : Consumer} {subscription : Subscription Publication}

theorem read_eq_some (h : consumer.read = some after) : ∃ entry,
    consumer.subscription.queue.items = entry :: after.subscription.queue.items ∧
      after.received = consumer.received ++ [entry] ∧
      after.subscription.closed = consumer.subscription.closed := by
  obtain ⟨⟨entry, next⟩, hnext, rfl⟩ := Option.map_eq_some_iff.mp h
  obtain ⟨⟨item, queue⟩, hget, hpair⟩ := Option.map_eq_some_iff.mp hnext
  cases hpair
  exact ⟨entry, LossyQueue.items_get hget, rfl, rfl⟩

theorem isSome_read (h : consumer.subscription.queue.items ≠ []) : consumer.read.isSome = true := by
  rw [Consumer.read, Option.isSome_map, Subscription.next, Option.isSome_map]
  by_contra hnone
  exact h (LossyQueue.items_get_none (Option.not_isSome_iff_eq_none.mp hnone))

-- Before it is closed there are only events in the queue.
def Unmarked (consumer : Consumer) : Prop :=
  consumer.subscription.closed = false → none ∉ consumer.subscription.queue.items

theorem unmarked_step {use : Use} (h : Unmarked consumer) (hstep : consumer.step use = some after) :
    Unmarked after := by
  cases use with
  | offer publication =>
      obtain rfl := Option.some.inj hstep
      intro hopen
      simp only [Subscription.offer] at hopen ⊢
      split at hopen
      · next hclosed => cases hopen.symm.trans hclosed
      · next hclosed =>
        have hitems := h (Bool.eq_false_iff.mpr hclosed)
        rw [if_neg hclosed]
        cases hfull : consumer.subscription.queue.full with
        | true =>
            rw [(LossyQueue.offer_full hfull _).1]
            simp only [List.mem_append, List.mem_singleton, reduceCtorEq, or_false]
            exact fun hmem => hitems (List.mem_of_mem_tail hmem)
        | false =>
            rw [(LossyQueue.offer_room hfull _).1]
            simpa using hitems
  | takeLagged =>
      obtain rfl := Option.some.inj hstep
      exact h
  | close =>
      obtain rfl := Option.some.inj hstep
      intro hopen
      simp only [Subscription.close] at hopen
      split at hopen
      · next hclosed => cases hopen.symm.trans hclosed
      · cases hopen
  | read =>
      obtain ⟨entry, hitems, -, hclosed⟩ := read_eq_some hstep
      intro hopen hmem
      refine h (hclosed ▸ hopen) ?_
      rw [hitems]
      exact List.mem_cons_of_mem _ hmem

-- What the consumer of a closed subscription has and what is left for it.
def Holds (items : List (Option Publication)) (consumer : Consumer) : Prop :=
  consumer.subscription.closed = true ∧
    consumer.received ++ consumer.subscription.queue.items = items

theorem holds_step {items : List (Option Publication)} {use : Use} (h : Holds items consumer)
    (hstep : consumer.step use = some after) : Holds items after := by
  obtain ⟨hclosed, hitems⟩ := h
  cases use with
  | offer publication =>
      obtain rfl := Option.some.inj hstep
      simp only [Holds, Subscription.offer, if_pos hclosed]
      exact ⟨hclosed, hitems⟩
  | takeLagged =>
      obtain rfl := Option.some.inj hstep
      exact ⟨hclosed, hitems⟩
  | close =>
      obtain rfl := Option.some.inj hstep
      simp only [Holds, Subscription.close, if_pos hclosed]
      exact ⟨hclosed, hitems⟩
  | read =>
      obtain ⟨entry, hqueue, hreceived, hsame⟩ := read_eq_some hstep
      refine ⟨hsame.trans hclosed, ?_⟩
      rw [← hitems, hqueue, hreceived, List.append_assoc, List.singleton_append]

-- Reads empty the queue.
theorem exists_drained (consumer : Consumer) : ∃ uses later,
    Machine.run Consumer.step consumer uses = some later ∧
      later.received = consumer.received ++ consumer.subscription.queue.items ∧
      later.subscription.queue.items = [] := by
  generalize hitems : consumer.subscription.queue.items = items
  induction items generalizing consumer with
  | nil => exact ⟨[], consumer, rfl, by simp, hitems⟩
  | cons entry rest ih =>
      obtain ⟨next, hnext⟩ := Option.isSome_iff_exists.mp
        (@isSome_read consumer (by simp [hitems]))
      obtain ⟨first, hqueue, hreceived, -⟩ := read_eq_some hnext
      obtain ⟨rfl, hrest⟩ := List.cons.inj (hitems.symm.trans hqueue)
      obtain ⟨uses, later, hrun, hlater, hempty⟩ := ih next hrest.symm
      refine ⟨.read :: uses, later, ?_, ?_, hempty⟩
      · rw [Machine.run, Consumer.step, hnext, Option.bind_some, hrun]
      · rw [hlater, hreceived, List.append_assoc, List.singleton_append]

theorem close_room (hopen : subscription.closed = false) (hroom : subscription.queue.full = false) :
    Holds (subscription.queue.items ++ [none]) { subscription := subscription.close } := by
  obtain ⟨queue, hput, hitems⟩ : ∃ queue, subscription.queue.put none = some queue ∧
      queue.items = subscription.queue.items ++ [none] := ⟨_, dif_neg (by simp [hroom]), rfl⟩
  simp only [Holds, Subscription.close, hopen, Bool.false_eq_true, if_false, hput,
    Option.getD_some, List.nil_append, true_and]
  exact hitems

theorem close_full (hopen : subscription.closed = false) (hfull : subscription.queue.full = true) :
    Holds subscription.queue.items { subscription := subscription.close } := by
  have hput : subscription.queue.put none = none := dif_pos hfull
  simp [Holds, Subscription.close, hopen, hput]

end Consumer

-- The end marker needs a place in the queue: with none left for it, a consumer waits for ever
-- once it has taken what was queued.
theorem closed_ends_iff {queueSize : Nat} {uses : List Use} {consumer : Consumer}
    (hrun : Machine.run Consumer.step (fresh queueSize) uses = some consumer)
    (hopen : consumer.subscription.closed = false) :
    EndsOnceClosed consumer.subscription ↔ consumer.subscription.queue.full = false := by
  constructor
  · intro h
    by_contra hroom
    have hheld := close_full hopen (Bool.not_eq_false _ ▸ hroom)
    obtain ⟨uses, later, hlater, hreceived, hempty⟩ :=
      exists_drained { subscription := consumer.subscription.close }
    have hall : later.received = consumer.subscription.queue.items := by
      rw [hreceived, hheld.2]
    have hunmarked : Unmarked consumer := Machine.invariant (fun _ => by simp [fresh, subscribed])
      (fun _ _ _ hbefore hstep => unmarked_step hbefore hstep) hrun
    obtain ⟨next, hnext⟩ := Option.isSome_iff_exists.mp
      ((h uses later hlater).2 (hall ▸ hunmarked hopen))
    obtain ⟨entry, hitems, -⟩ := read_eq_some hnext
    rw [hempty] at hitems
    cases hitems
  · intro hroom uses later hlater
    have hheld : Holds (consumer.subscription.queue.items ++ [none]) later :=
      Machine.invariant (close_room hopen hroom)
        (fun _ _ _ hbefore hstep => holds_step hbefore hstep) hlater
    refine ⟨⟨_, hheld.2⟩, fun hgoes => isSome_read fun hempty => hgoes ?_⟩
    have hall := hheld.2
    rw [hempty, List.append_nil] at hall
    rw [hall]
    simp

def oneEvent : Publication := ⟨0, { type := .deviceStateChanged, occurredAt := 0 }⟩

theorem closed_ends_iff_two : ∃ consumer,
    Machine.run Consumer.step (fresh 2) [.offer oneEvent] = some consumer ∧
      (EndsOnceClosed consumer.subscription ↔ consumer.subscription.queue.full = false) :=
  ⟨_, rfl, @closed_ends_iff 2 [.offer oneEvent] _ rfl rfl⟩

-- A queue of one is full with one event.
theorem full_queue_waits :
    ¬∀ (queueSize : Nat) (uses : List Use) (consumer : Consumer), 1 ≤ queueSize →
      Machine.run Consumer.step (fresh queueSize) uses = some consumer →
      consumer.subscription.closed = false → EndsOnceClosed consumer.subscription := by
  intro h
  have hends := h 1 [.offer oneEvent] _ (Nat.le_refl 1) rfl rfl
  -- The event is handed out, and nothing comes after it.
  have hwaits := (hends [.read] _ rfl).2 fun hmem => by
    have hsame := List.mem_singleton.mp hmem
    cases hsame
  cases hwaits

end Homeflow.Events
