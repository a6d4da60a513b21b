import Homeflow.Lib.OrderedDict
import Homeflow.Records

namespace Homeflow.Auth

def MAX_OUTSTANDING : Nat := 64

-- What secrets.token_urlsafe returns is never empty.
abbrev Ticket := { text : String // text ≠ "" }

structure Issued where
  principal : Principal
  expiresAt : Time
deriving DecidableEq

-- The tickets that are outstanding, by their digests.
structure TicketStore where
  ttl : Time
  tickets : OrderedDict String Issued := .empty
  bounded : tickets.length ≤ MAX_OUTSTANDING := by decide

def TICKET_REFUSED : String := "The WebSocket ticket is invalid or has expired."

namespace TicketStore

theorem bounded_empty : (.empty : OrderedDict String Issued).length ≤ MAX_OUTSTANDING := by decide

def prune (store : TicketStore) (now : Time) : TicketStore :=
  let expired := (store.tickets.entries.filter fun entry => entry.2.expiresAt ≤ now).map Prod.fst
  { store with
    tickets := store.tickets.eraseAll expired
    bounded := by
      have hsublist := (store.tickets.keys_eraseAll_sublist expired).length_le
      rw [OrderedDict.length_keys, OrderedDict.length_keys] at hsublist
      exact hsublist.trans store.bounded }

-- The oldest ticket makes room for a new one.
def makeRoom (store : TicketStore) : OrderedDict String Issued :=
  if MAX_OUTSTANDING ≤ store.tickets.length then store.tickets.popFirst else store.tickets

theorem length_makeRoom_lt (store : TicketStore) : store.makeRoom.length < MAX_OUTSTANDING := by
  have hbounded := store.bounded
  unfold makeRoom
  split
  · next hfull =>
    have hpositive : 0 < MAX_OUTSTANDING := by decide
    have hpopped : store.tickets.popFirst.length = store.tickets.length - 1 := List.length_tail
    omega
  · next hroom => exact not_le.mp hroom

section Digest

variable (digest : String → String)

-- The ticket is the one that was drawn.
def issue (store : TicketStore) (now : Time) (principal : Principal) (ticket : Ticket) :
    TicketStore :=
  let pruned := store.prune now
  { pruned with
    tickets := pruned.makeRoom.set (digest ticket) ⟨principal, now + store.ttl⟩
    bounded := by
      have hsublist := (pruned.makeRoom.keys_set_sublist (digest ticket)
        ⟨principal, now + store.ttl⟩).length_le
      rw [List.length_append, List.length_singleton, OrderedDict.length_keys,
        OrderedDict.length_keys] at hsublist
      have hroom := pruned.length_makeRoom_lt
      omega }

def discard (store : TicketStore) (key : String) : TicketStore :=
  { store with
    tickets := store.tickets.erase key
    bounded := by
      have hsublist := (store.tickets.keys_erase_sublist key).length_le
      rw [OrderedDict.length_keys, OrderedDict.length_keys] at hsublist
      exact hsublist.trans store.bounded }

-- Every candidate is walked.
def scan (store : TicketStore) (sought : String) : Option (String × Issued) :=
  store.tickets.entries.foldl (fun found entry => if sought = entry.1 then some entry else found)
    none

def redeem (store : TicketStore) (now : Time) (ticket : Option String) :
    Except String Principal × TicketStore :=
  let store := store.prune now
  match store.scan (digest (ticket.getD "")) with
  | none => (.error TICKET_REFUSED, store)
  | some (foundKey, found) =>
      if ticket.getD "" = "" then (.error TICKET_REFUSED, store)
      else if found.expiresAt ≤ now then (.error TICKET_REFUSED, store.discard foundKey)
      else (.ok found.principal, store.discard foundKey)

end Digest

section Operations

variable {digest : String → String} {store : TicketStore} {now : Time} {principal : Principal}
  {ticket : Ticket} {key : String} {entry : Issued}

theorem get?_prune : (store.prune now).tickets.get? key = some entry ↔
    store.tickets.get? key = some entry ∧ now < entry.expiresAt := by
  rw [prune, OrderedDict.get?_eraseAll_eq_some, and_comm]
  refine and_congr_right fun hentry => ?_
  have hmem := (OrderedDict.get?_eq_some_iff _ _ _).mp hentry
  constructor
  · intro hkept
    by_contra hexpired
    exact hkept (List.mem_map.mpr ⟨(key, entry), List.mem_filter.mpr
      ⟨hmem, by simpa using hexpired⟩, rfl⟩)
  · intro hfresh hkey
    obtain ⟨⟨other, found⟩, hfound, rfl⟩ := List.mem_map.mp hkey
    obtain ⟨hheld, hexpired⟩ := List.mem_filter.mp hfound
    rw [← OrderedDict.get?_eq_some_iff, hentry] at hheld
    cases hheld
    exact absurd hfresh (not_lt.mpr (of_decide_eq_true hexpired))

theorem keys_prune_sublist : (store.prune now).tickets.keys.Sublist store.tickets.keys :=
  OrderedDict.keys_eraseAll_sublist _ _

theorem keys_makeRoom_sublist : store.makeRoom.keys.Sublist store.tickets.keys := by
  unfold makeRoom
  split
  · rw [OrderedDict.keys_popFirst]
    exact List.tail_sublist _
  · exact List.Sublist.refl _

-- No more than the first ticket of a full store goes.
theorem get?_makeRoom : store.makeRoom.get? key = some entry ↔
    store.tickets.get? key = some entry ∧
      ¬(store.tickets.length = MAX_OUTSTANDING ∧ store.tickets.keys.head? = some key) := by
  have hbounded := store.bounded
  unfold makeRoom
  split
  · next hfull =>
    have hlength : store.tickets.length = MAX_OUTSTANDING := le_antisymm hbounded hfull
    simp only [hlength, true_and, OrderedDict.get?_eq_some_iff]
    rcases store.tickets with ⟨entries, hnodup⟩
    cases entries with
    | nil => simp [OrderedDict.popFirst]
    | cons first rest =>
        have hfirst : first.1 ∉ rest.map Prod.fst := (List.nodup_cons.mp hnodup).1
        simp only [OrderedDict.popFirst, OrderedDict.keys, List.tail_cons, List.map_cons,
          List.head?_cons, Option.some.injEq, List.mem_cons]
        constructor
        · intro hmem
          refine ⟨.inr hmem, ?_⟩
          rintro rfl
          exact hfirst (List.mem_map.mpr ⟨_, hmem, rfl⟩)
        · rintro ⟨rfl | hmem, hne⟩
          · exact absurd rfl hne
          · exact hmem
  · next hroom =>
    have hlength : store.tickets.length ≠ MAX_OUTSTANDING := by omega
    simp [hlength]

theorem scan_eq (sought : String) :
    store.scan sought = (store.tickets.get? sought).map fun entry => (sought, entry) := by
  have hwalk : ∀ (entries : List (String × Issued)) (found : Option (String × Issued)),
      (entries.map Prod.fst).Nodup → (found.isSome → sought ∉ entries.map Prod.fst) →
      entries.foldl (fun found entry => if sought = entry.1 then some entry else found) found =
        found.or (((entries.find? fun entry => entry.1 = sought).map Prod.snd).map
          fun entry => (sought, entry)) := by
    intro entries
    induction entries with
    | nil => simp
    | cons first rest ih =>
        intro found hnodup hfound
        obtain ⟨hfirst, hrest⟩ := List.nodup_cons.mp hnodup
        rw [List.foldl_cons]
        by_cases hkey : sought = first.1
        · subst hkey
          rw [if_pos rfl, ih _ hrest (fun _ => hfirst)]
          cases found with
          | none => simp
          | some _ => simp at hfound
        · have hlater : found.isSome → sought ∉ rest.map Prod.fst := fun hsome hmem =>
            hfound hsome (List.mem_cons_of_mem _ hmem)
          rw [if_neg hkey, ih _ hrest hlater]
          simp [Ne.symm hkey]
  exact hwalk _ none store.tickets.nodup (by simp)

theorem get?_issue : (store.issue digest now principal ticket).tickets.get? key = some entry ↔
    (key = digest ticket ∧ entry = ⟨principal, now + store.ttl⟩) ∨
      (key ≠ digest ticket ∧ (store.prune now).makeRoom.get? key = some entry) := by
  rw [issue, OrderedDict.get?_set_eq_some]

theorem redeem_eq (ticket : Option String) : store.redeem digest now ticket =
    match (store.prune now).tickets.get? (digest (ticket.getD "")) with
    | none => (.error TICKET_REFUSED, store.prune now)
    | some entry =>
        if ticket.getD "" = "" then (.error TICKET_REFUSED, store.prune now)
        else (.ok entry.principal, (store.prune now).discard (digest (ticket.getD ""))) := by
  unfold redeem
  dsimp only
  rw [scan_eq]
  cases hentry : (store.prune now).tickets.get? (digest (ticket.getD "")) with
  | none => rfl
  | some entry =>
      -- What is expired has been pruned.
      have hfresh : ¬entry.expiresAt ≤ now := not_le.mpr (get?_prune.mp hentry).2
      simp only [Option.map_some, if_neg hfresh]

theorem redeem_error {ticket : Option String} {refusal : String}
    (h : (store.redeem digest now ticket).1 = .error refusal) :
    (store.redeem digest now ticket).2 = store.prune now := by
  rw [redeem_eq] at h ⊢
  split at h
  · rfl
  · split at h
    · next hempty => simp only [if_pos hempty]
    · cases h

-- A ticket that goes through is an outstanding one that has not expired.
theorem redeem_ok {ticket : Option String}
    (h : (store.redeem digest now ticket).1 = .ok principal) :
    ∃ text entry, ticket = some text ∧ text ≠ "" ∧
      store.tickets.get? (digest text) = some entry ∧ now < entry.expiresAt ∧
      entry.principal = principal ∧
      (store.redeem digest now ticket).2 = (store.prune now).discard (digest text) := by
  rw [redeem_eq] at h ⊢
  split at h
  · cases h
  · next entry hentry =>
    split at h
    · cases h
    · next hempty =>
      cases ticket with
      | none => exact absurd rfl hempty
      | some text =>
          obtain ⟨hheld, hfresh⟩ := get?_prune.mp hentry
          refine ⟨text, entry, rfl, hempty, hheld, hfresh, Except.ok.inj h, ?_⟩
          rw [if_neg hempty, Option.getD_some]

theorem redeem_outstanding {ticket : Ticket}
    (hentry : store.tickets.get? (digest ticket) = some entry) (hfresh : now < entry.expiresAt) :
    (store.redeem digest now (some ticket.val)).1 = .ok entry.principal := by
  rw [redeem_eq, Option.getD_some, get?_prune.mpr ⟨hentry, hfresh⟩]
  simp only [if_neg ticket.property]

theorem keys_issue_sublist : (store.issue digest now principal ticket).tickets.keys.Sublist
    (store.tickets.keys ++ [digest ticket]) :=
  (OrderedDict.keys_set_sublist _ _ _).trans
    ((keys_makeRoom_sublist.trans keys_prune_sublist).append (List.Sublist.refl _))

end Operations

end TicketStore

end Homeflow.Auth
