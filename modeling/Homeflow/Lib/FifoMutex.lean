import Mathlib.Data.List.Basic
import Mathlib.Data.List.NodupEquivFin
import Mathlib.Order.Defs.LinearOrder
import Mathlib.Order.WellFounded
import Mathlib.Tactic.Common

-- A mutual exclusion lock that serves its waiters in the order they asked.
-- A released lock stays unheld until its first waiter resumes, and a newcomer
-- queues behind that waiter even though nobody holds the lock.
structure FifoMutex (τ : Type*) where
  holder : Option τ
  waiters : List τ
deriving DecidableEq

namespace FifoMutex

variable {τ : Type*}

def unlocked : FifoMutex τ := ⟨none, []⟩

def idle (lock : FifoMutex τ) : Bool := lock.holder.isNone && lock.waiters.isEmpty

def acquire (lock : FifoMutex τ) (task : τ) : FifoMutex τ :=
  if lock.idle then ⟨some task, []⟩ else ⟨lock.holder, lock.waiters ++ [task]⟩

def release (lock : FifoMutex τ) : FifoMutex τ := ⟨none, lock.waiters⟩

variable [DecidableEq τ]

-- The first waiter resumes and takes the unheld lock.
def grant (lock : FifoMutex τ) (task : τ) : Option (FifoMutex τ) :=
  if lock.holder = none ∧ lock.waiters.head? = some task then
    some ⟨some task, lock.waiters.tail⟩
  else none

def abandon (lock : FifoMutex τ) (task : τ) : FifoMutex τ :=
  ⟨lock.holder, lock.waiters.erase task⟩

omit [DecidableEq τ] in
theorem idle_iff (lock : FifoMutex τ) :
    lock.idle = true ↔ lock.holder = none ∧ lock.waiters = [] := by
  simp [idle]

theorem grant_eq_some {lock after : FifoMutex τ} {task : τ} (h : lock.grant task = some after) :
    lock.holder = none ∧ ∃ rest, lock.waiters = task :: rest ∧ after = ⟨some task, rest⟩ := by
  unfold grant at h
  split at h
  · rename_i hc
    obtain ⟨hholder, hhead⟩ := hc
    cases hw : lock.waiters with
    | nil => simp [hw] at hhead
    | cons first rest =>
        obtain rfl : first = task := by simpa [hw] using hhead
        refine ⟨hholder, rest, rfl, ?_⟩
        simpa [hw, eq_comm] using h
  · cases h

section Order

variable {τ : Type*} [LinearOrder τ]

-- Everyone asked in increasing order, and who holds the lock asked first.
structure Ordered (lock : FifoMutex τ) : Prop where
  waiters : lock.waiters.Pairwise (· < ·)
  holder : ∀ task, lock.holder = some task → ∀ waiter ∈ lock.waiters, task < waiter

variable {lock after : FifoMutex τ} {task : τ}

theorem ordered_unlocked : (unlocked : FifoMutex τ).Ordered :=
  ⟨List.Pairwise.nil, fun _ h => by cases h⟩

theorem Ordered.acquire (h : lock.Ordered) (hwaiters : ∀ waiter ∈ lock.waiters, waiter < task)
    (hholder : ∀ other, lock.holder = some other → other < task) : (lock.acquire task).Ordered := by
  unfold FifoMutex.acquire
  split
  · exact ⟨List.Pairwise.nil, fun _ _ _ hmem => by cases hmem⟩
  · refine ⟨List.pairwise_append.mpr ⟨h.waiters, List.pairwise_singleton _ _, ?_⟩, ?_⟩
    · intro waiter hwaiter other hother
      obtain rfl := List.mem_singleton.mp hother
      exact hwaiters waiter hwaiter
    · intro other hother waiter hwaiter
      rcases List.mem_append.mp hwaiter with hwaiter | hwaiter
      · exact h.holder other hother waiter hwaiter
      · obtain rfl := List.mem_singleton.mp hwaiter
        exact hholder other hother

theorem Ordered.release (h : lock.Ordered) : lock.release.Ordered :=
  ⟨h.waiters, fun _ hnone => by cases hnone⟩

theorem Ordered.grant (h : lock.Ordered) (hgrant : lock.grant task = some after) :
    after.Ordered := by
  obtain ⟨-, rest, hwaiters, rfl⟩ := grant_eq_some hgrant
  have hsorted := h.waiters
  rw [hwaiters, List.pairwise_cons] at hsorted
  refine ⟨hsorted.2, fun other hother => ?_⟩
  obtain rfl := Option.some.inj hother
  exact hsorted.1

theorem Ordered.abandon (h : lock.Ordered) (task : τ) : (lock.abandon task).Ordered :=
  ⟨h.waiters.sublist List.erase_sublist, fun other hother waiter hwaiter =>
    h.holder other hother waiter (List.mem_of_mem_erase hwaiter)⟩

end Order

section Deadlines

variable {τ : Type*} (hold handover : Nat)

-- How long after the lock last changed hands a position of the queue is served, when
-- everyone holds the lock for a bounded time and takes it a bounded time after its release.
def span (lock : FifoMutex τ) (index : Nat) : Nat :=
  (if lock.holder.isSome then hold + handover else handover) + index * (hold + handover)

-- Everyone who waits is served when it is due, or before.
def Served (lock : FifoMutex τ) (since : Int) (due : τ → Int) : Prop :=
  ∀ index task, lock.waiters[index]? = some task → since + lock.span hold handover index ≤ due task

variable {hold handover} {lock after : FifoMutex τ} {since now : Int} {due : τ → Int} {task : τ}

theorem served_of_waiters_nil (h : lock.waiters = []) : lock.Served hold handover since due := by
  intro index other hother
  simp [h] at hother

theorem Served.of_due {due' : τ → Int} (h : lock.Served hold handover since due)
    (hdue : ∀ waiter ∈ lock.waiters, due' waiter = due waiter) :
    lock.Served hold handover since due' := fun index other hother =>
  (h index other hother).trans_eq (hdue other (List.mem_of_getElem? hother)).symm

theorem Served.acquire (h : lock.Served hold handover since due) (hbusy : lock.idle = false)
    (hdue : since + lock.span hold handover lock.waiters.length ≤ due task) :
    (lock.acquire task).Served hold handover since due := by
  intro index other hother
  simp only [FifoMutex.acquire, hbusy, Bool.false_eq_true, if_false] at hother ⊢
  rw [List.getElem?_append] at hother
  split at hother
  · exact h index other hother
  · rename_i hbehind
    rw [List.getElem?_singleton] at hother
    split at hother
    · rename_i hlast
      obtain rfl := Option.some.inj hother
      obtain rfl : index = lock.waiters.length := by omega
      exact hdue
    · cases hother

theorem Served.release (h : lock.Served hold handover since due) (hheld : lock.holder.isSome)
    (hnow : now ≤ since + hold) : lock.release.Served hold handover now due := by
  intro index other hother
  have hserved := h index other hother
  simp only [span, hheld, if_true, FifoMutex.release, Option.isSome_none, Bool.false_eq_true,
    if_false] at hserved ⊢
  omega

theorem Served.abandon [DecidableEq τ] (h : lock.Served hold handover since due) (task : τ) :
    (lock.abandon task).Served hold handover since due := by
  intro index other hother
  -- Whoever stays in the queue was at this position or behind it.
  obtain ⟨position, hposition⟩ := List.sublist_iff_exists_orderEmbedding_getElem?_eq.mp
    (List.erase_sublist : (lock.waiters.erase task).Sublist lock.waiters)
  have hserved := h (position index) other ((hposition index).symm.trans hother)
  have hle : index * (hold + handover) ≤ position index * (hold + handover) :=
    Nat.mul_le_mul_right _ position.strictMono.le_apply
  have hspan : lock.span hold handover index ≤ lock.span hold handover (position index) :=
    Nat.add_le_add_left hle _
  have hsame : (lock.abandon task).span hold handover index = lock.span hold handover index := rfl
  omega

theorem Served.grant [DecidableEq τ] (h : lock.Served hold handover since due)
    (hgrant : lock.grant task = some after) (hnow : now ≤ since + handover) :
    now ≤ due task ∧ after.Served hold handover now due := by
  obtain ⟨hfree, rest, hwaiters, rfl⟩ := grant_eq_some hgrant
  constructor
  · have hserved := h 0 task (by simp [hwaiters])
    simp only [span, hfree, Option.isSome_none, Bool.false_eq_true, if_false] at hserved
    omega
  · intro index other hother
    have hserved := h (index + 1) other (by simpa [hwaiters] using hother)
    simp only [span, hfree, Option.isSome_none, Option.isSome_some, Bool.false_eq_true, if_false,
      if_true, Nat.add_mul, Nat.one_mul] at hserved ⊢
    omega

end Deadlines

end FifoMutex
