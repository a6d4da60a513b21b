import Mathlib.Tactic.Common

-- A queue that forgets its oldest entry for a new one when it is full, and says so. A
-- capacity of zero is none.
structure LossyQueue (α : Type) where
  capacity : Nat
  items : List α := []
  lagged : Bool := false
  bounded : 0 < capacity → items.length ≤ capacity := by simp

namespace LossyQueue

variable {α : Type}

def full (queue : LossyQueue α) : Bool := 0 < queue.capacity ∧ queue.capacity ≤ queue.items.length

-- None: the queue is full.
def put (queue : LossyQueue α) (item : α) : Option (LossyQueue α) :=
  if h : queue.full then none
  else some { queue with
    items := queue.items ++ [item]
    bounded := by
      simp only [full, decide_eq_true_eq] at h
      simp only [List.length_append, List.length_singleton]
      omega }

def offer (queue : LossyQueue α) (item : α) : LossyQueue α :=
  match queue.put item with
  | some queue => queue
  | none => { queue with
      items := queue.items.tail ++ [item]
      lagged := true
      bounded := by
        have hbounded := queue.bounded
        simp only [List.length_append, List.length_singleton, List.length_tail]
        omega }

def get (queue : LossyQueue α) : Option (α × LossyQueue α) :=
  match h : queue.items with
  | [] => none
  | item :: rest => some (item, { queue with
      items := rest
      bounded := by
        have hbounded := queue.bounded
        rw [h, List.length_cons] at hbounded
        omega })

def clear (queue : LossyQueue α) : LossyQueue α := { queue with lagged := false }

section Capacity

variable {queue after : LossyQueue α} {item : α}

theorem capacity_put (h : queue.put item = some after) : after.capacity = queue.capacity := by
  unfold put at h
  split at h
  · cases h
  · cases h
    rfl

theorem capacity_offer (queue : LossyQueue α) (item : α) :
    (queue.offer item).capacity = queue.capacity := by
  unfold offer
  split
  · next hput => exact capacity_put hput
  · rfl

theorem capacity_get (h : queue.get = some (item, after)) : after.capacity = queue.capacity := by
  unfold get at h
  split at h
  · cases h
  · cases h
    rfl

end Capacity

section Items

variable {queue after : LossyQueue α} {item : α}

theorem offer_full (h : queue.full = true) (item : α) :
    (queue.offer item).items = queue.items.tail ++ [item] ∧ (queue.offer item).lagged = true := by
  have hput : queue.put item = none := dif_pos h
  rw [offer, hput]
  exact ⟨rfl, rfl⟩

theorem offer_room (h : queue.full = false) (item : α) :
    (queue.offer item).items = queue.items ++ [item] ∧
      (queue.offer item).lagged = queue.lagged := by
  have hput : ∃ after, queue.put item = some after ∧ after.items = queue.items ++ [item] ∧
      after.lagged = queue.lagged := ⟨_, dif_neg (by simp [h]), rfl, rfl⟩
  obtain ⟨after, hput, hitems, hlagged⟩ := hput
  rw [offer, hput]
  exact ⟨hitems, hlagged⟩

theorem items_get (h : queue.get = some (item, after)) : queue.items = item :: after.items := by
  unfold get at h
  split at h
  · cases h
  · next hitems =>
    cases h
    exact hitems

theorem items_get_none (h : queue.get = none) : queue.items = [] := by
  unfold get at h
  split at h
  · next hitems => exact hitems
  · cases h

end Items

-- The queue holds the end of a stream of which so much has been taken. Whatever is missing
-- in between has been lost, and the queue says so.
structure Tracks (queue : LossyQueue α) (stream : List α) (taken : Nat) : Prop where
  items : ∃ start, taken ≤ start ∧ start ≤ stream.length ∧ queue.items = stream.drop start ∧
    (taken < start → queue.lagged = true)

variable {queue after : LossyQueue α} {stream : List α} {taken : Nat} {item : α}

theorem tracks_put (h : Tracks queue stream taken) (hput : queue.put item = some after) :
    Tracks after (stream ++ [item]) taken := by
  unfold put at hput
  split at hput
  · cases hput
  · cases hput
    obtain ⟨start, htaken, hstart, hitems, hlagged⟩ := h.items
    refine ⟨start, htaken, ?_, ?_, hlagged⟩
    · rw [List.length_append]
      omega
    · rw [List.drop_append_of_le_length hstart, ← hitems]

theorem tracks_offer (h : Tracks queue stream taken) (item : α) :
    Tracks (queue.offer item) (stream ++ [item]) taken := by
  unfold offer
  split
  · next hput => exact tracks_put h hput
  · next hput =>
    have hfull : queue.full = true := by
      unfold put at hput
      split at hput
      · assumption
      · cases hput
    simp only [full, decide_eq_true_eq] at hfull
    obtain ⟨start, htaken, hstart, hitems, -⟩ := h.items
    have hlength := congrArg List.length hitems
    rw [List.length_drop] at hlength
    refine ⟨start + 1, by omega, ?_, ?_, fun _ => rfl⟩
    · rw [List.length_append, List.length_singleton]
      omega
    · change queue.items.tail ++ [item] = _
      rw [List.drop_append_of_le_length (by omega), hitems, List.tail_drop]

theorem lagged_get (hget : queue.get = some (item, after)) : after.lagged = queue.lagged := by
  unfold get at hget
  split at hget
  · cases hget
  · cases hget
    rfl

-- What is taken is further on in the stream, and it is the next one unless the queue lags.
theorem tracks_get (h : Tracks queue stream taken) (hget : queue.get = some (item, after)) :
    ∃ position, taken ≤ position ∧ (taken < position → queue.lagged = true) ∧
      stream[position]? = some item ∧ Tracks after.clear stream (position + 1) := by
  obtain ⟨start, htaken, hstart, hitems, hlagged⟩ := h.items
  unfold get at hget
  split at hget
  · cases hget
  · next first rest hfirst =>
    cases hget
    rw [hfirst] at hitems
    have hitem : stream[start]? = some item := by
      rw [← List.head?_drop, ← hitems]
      rfl
    obtain ⟨hlt, -⟩ := List.getElem?_eq_some_iff.mp hitem
    refine ⟨start, htaken, hlagged, hitem, start + 1, Nat.le_refl _, hlt, ?_, ?_⟩
    · change rest = _
      rw [← List.tail_drop, ← hitems]
      rfl
    · omega

theorem tracks_empty (h : queue.items = []) : Tracks queue [] 0 :=
  ⟨0, Nat.le_refl _, Nat.le_refl _, h, by omega⟩

end LossyQueue
