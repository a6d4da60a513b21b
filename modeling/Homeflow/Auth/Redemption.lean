import Homeflow.Auth.Tickets
import Homeflow.Lib.History

namespace Homeflow.Auth

open History (Happens)

-- A call of the store, at the moment it reads the clock.
inductive Call where
  | issue (now : Time) (principal : Principal) (ticket : Ticket)
  | redeem (now : Time) (ticket : Option String)

def Call.now : Call → Time
  | .issue now _ _ | .redeem now _ => now

def Call.issued? : Call → Option String
  | .issue _ _ ticket => some ticket
  | .redeem _ _ => none

def Call.presented? : Call → Option String
  | .issue _ _ _ => none
  | .redeem _ ticket => ticket

def issued (calls : List Call) : List String := calls.filterMap Call.issued?

section Calls

variable (digest : String → String) (ttl : Time)

def TicketStore.after (store : TicketStore) : Call → TicketStore
  | .issue now principal ticket => store.issue digest now principal ticket
  | .redeem now ticket => (store.redeem digest now ticket).2

def storeAfter (calls : List Call) : TicketStore :=
  calls.foldl (fun store call => store.after digest call) { ttl }

-- No issued ticket shares its digest with another string that occurs.
def CollisionFree (calls : List Call) : Prop :=
  ∀ ticket ∈ issued calls, ∀ other,
    other ∈ issued calls ∨ other ∈ calls.filterMap Call.presented? →
    digest other = digest ticket → other = ticket

def Redeemed (ticket : String) : List Call → Prop :=
  Happens fun before call => ∃ now principal, call = .redeem now (some ticket) ∧
    ((storeAfter digest ttl before).redeem digest now (some ticket)).1 = .ok principal

-- It has been pruned at a reading past its expiry.
def Expired (ticket : Ticket) : List Call → Prop :=
  Happens fun before call => ∃ issuedAt principal,
    .issue issuedAt principal ticket ∈ before ∧ issuedAt + ttl ≤ call.now

-- It was the first of as many tickets as there may be, when one more was issued.
def Evicted (ticket : String) : List Call → Prop :=
  Happens fun before call => ∃ now principal newer, call = .issue now principal newer ∧
    let outstanding := ((storeAfter digest ttl before).prune now).tickets
    outstanding.length = MAX_OUTSTANDING ∧ outstanding.keys.head? = some (digest ticket)

def Gone (ticket : Ticket) (calls : List Call) : Prop :=
  Redeemed digest ttl ticket calls ∨ Expired ttl ticket calls ∨ Evicted digest ttl ticket calls

-- What the store holds has been issued and not redeemed, and what is not held any more
-- has been redeemed, pruned or evicted.
structure Accounted (calls : List Call) : Prop where
  held : ∀ key entry, (storeAfter digest ttl calls).tickets.get? key = some entry →
    ∃ issuedAt, ∃ ticket : Ticket, .issue issuedAt entry.principal ticket ∈ calls ∧
      key = digest ticket ∧ entry.expiresAt = issuedAt + ttl ∧ ¬Redeemed digest ttl ticket calls
  kept : ∀ issuedAt principal (ticket : Ticket), .issue issuedAt principal ticket ∈ calls →
    (storeAfter digest ttl calls).tickets.get? (digest ticket) =
        some ⟨principal, issuedAt + ttl⟩ ∨ Gone digest ttl ticket calls
  redeemed : ∀ ticket, Redeemed digest ttl ticket calls → ticket ∈ issued calls
  order : (storeAfter digest ttl calls).tickets.keys.Sublist ((issued calls).map digest)

end Calls

section Calls

variable {digest : String → String} {ttl : Time} {calls : List Call} {call : Call}

theorem storeAfter_concat : storeAfter digest ttl (calls ++ [call]) =
    (storeAfter digest ttl calls).after digest call := by
  rw [storeAfter, List.foldl_append]
  rfl

theorem after_ttl (store : TicketStore) (call : Call) :
    (store.after digest call).ttl = store.ttl := by
  cases call with
  | issue now principal ticket => rfl
  | redeem now ticket =>
      rw [TicketStore.after, TicketStore.redeem_eq]
      split
      · rfl
      · split <;> rfl

theorem storeAfter_ttl : (storeAfter digest ttl calls).ttl = ttl := by
  induction calls using List.reverseRecOn with
  | nil => rfl
  | append_singleton calls call ih => rw [storeAfter_concat, after_ttl, ih]

theorem issued_concat : issued (calls ++ [call]) = issued calls ++ call.issued?.toList := by
  rw [issued, List.filterMap_append]
  cases hissued : call.issued? <;> simp [issued, hissued]

theorem mem_issued {issuedAt : Time} {principal : Principal} {ticket : Ticket}
    (h : .issue issuedAt principal ticket ∈ calls) : ticket.val ∈ issued calls :=
  List.mem_filterMap.mpr ⟨_, h, rfl⟩

theorem CollisionFree.prefix {rest : List Call} (h : CollisionFree digest (calls ++ rest)) :
    CollisionFree digest calls := by
  intro ticket hticket other hother
  have hissued : ∀ text, text ∈ issued calls → text ∈ issued (calls ++ rest) := fun text htext => by
    rw [issued, List.filterMap_append]
    exact List.mem_append_left _ htext
  refine h ticket (hissued ticket hticket) other (hother.imp (hissued other) fun hpresented => ?_)
  rw [List.filterMap_append]
  exact List.mem_append_left _ hpresented

theorem redeemed_issue {now : Time} {principal : Principal} {newer : Ticket} {ticket : String} :
    Redeemed digest ttl ticket (calls ++ [.issue now principal newer]) ↔
      Redeemed digest ttl ticket calls := by
  simp [Redeemed, History.happens_concat]

theorem redeemed_redeem {now : Time} {presented : Option String} {ticket : String} :
    Redeemed digest ttl ticket (calls ++ [.redeem now presented]) ↔
      Redeemed digest ttl ticket calls ∨ presented = some ticket ∧ ∃ principal,
        ((storeAfter digest ttl calls).redeem digest now (some ticket)).1 = .ok principal := by
  simp [Redeemed, History.happens_concat]

theorem accounted_nil : Accounted digest ttl [] where
  held := by
    intro key entry hentry
    cases hentry
  kept := by simp
  redeemed := fun ticket hredeemed => absurd hredeemed History.not_happens_nil
  order := List.Sublist.refl _

theorem Gone.concat {ticket : Ticket} (h : Gone digest ttl ticket calls) (call : Call) :
    Gone digest ttl ticket (calls ++ [call]) :=
  h.imp (·.concat call) (·.imp (·.concat call) (·.concat call))

-- Whatever the call is, it prunes first.
theorem Accounted.survives (h : Accounted digest ttl calls) (call : Call) {issuedAt : Time}
    {principal : Principal} {ticket : Ticket} (hcall : .issue issuedAt principal ticket ∈ calls) :
    ((storeAfter digest ttl calls).prune call.now).tickets.get? (digest ticket) =
        some ⟨principal, issuedAt + ttl⟩ ∨ Gone digest ttl ticket (calls ++ [call]) := by
  rcases h.kept issuedAt principal ticket hcall with hheld | hgone
  · by_cases hfresh : call.now < issuedAt + ttl
    · exact .inl (TicketStore.get?_prune.mpr ⟨hheld, hfresh⟩)
    · have hexpired : Expired ttl ticket (calls ++ [call]) :=
        History.happens_concat.mpr (.inr ⟨issuedAt, principal, hcall, not_lt.mp hfresh⟩)
      exact .inr (.inr (.inl hexpired))
  · exact .inr (hgone.concat call)

theorem Accounted.issue (h : Accounted digest ttl calls) {now : Time} {principal : Principal}
    {ticket : Ticket} (hnew : ticket.val ∉ issued calls)
    (hdigest : CollisionFree digest (calls ++ [.issue now principal ticket])) :
    Accounted digest ttl (calls ++ [.issue now principal ticket]) := by
  have hstore : storeAfter digest ttl (calls ++ [.issue now principal ticket]) =
      (storeAfter digest ttl calls).issue digest now principal ticket := storeAfter_concat
  have hissued : issued (calls ++ [.issue now principal ticket]) = issued calls ++ [ticket.val] :=
    issued_concat
  refine ⟨fun key entry hentry => ?_, fun issuedAt owner text htext => ?_, fun text htext => ?_, ?_⟩
  · rw [hstore, TicketStore.get?_issue, storeAfter_ttl] at hentry
    rcases hentry with ⟨rfl, rfl⟩ | ⟨-, hroom⟩
    · refine ⟨now, ticket, by simp, rfl, rfl, ?_⟩
      rw [redeemed_issue]
      exact fun hredeemed => hnew (h.redeemed _ hredeemed)
    · obtain ⟨hpruned, -⟩ := TicketStore.get?_makeRoom.mp hroom
      obtain ⟨issuedAt, text, hcall, hkey, hexpires, hnot⟩ :=
        h.held key entry (TicketStore.get?_prune.mp hpruned).1
      exact ⟨issuedAt, text, List.mem_append_left _ hcall, hkey, hexpires,
        redeemed_issue.not.mpr hnot⟩
  · rw [hstore, TicketStore.get?_issue, storeAfter_ttl]
    rcases List.mem_append.mp htext with hcall | hlast
    · rcases h.survives (.issue now principal ticket) hcall with hpruned | hgone
      · by_cases hfirst : ((storeAfter digest ttl calls).prune now).tickets.length =
            MAX_OUTSTANDING ∧
          ((storeAfter digest ttl calls).prune now).tickets.keys.head? = some (digest text)
        · have hevicted : Evicted digest ttl text (calls ++ [.issue now principal ticket]) :=
            History.happens_concat.mpr (.inr ⟨now, principal, ticket, rfl, hfirst⟩)
          exact .inr (.inr (.inr hevicted))
        · refine .inl (.inr ⟨fun hsame => hnew ?_, TicketStore.get?_makeRoom.mpr ⟨hpruned, hfirst⟩⟩)
          have hboth : ticket.val ∈ issued (calls ++ [.issue now principal ticket]) ∧
              text.val ∈ issued (calls ++ [.issue now principal ticket]) := by
            simp [hissued, mem_issued hcall]
          rw [← hdigest ticket hboth.1 text (.inl hboth.2) hsame]
          exact mem_issued hcall
      · exact .inr hgone
    · cases List.mem_singleton.mp hlast
      exact .inl (.inl ⟨rfl, rfl⟩)
  · rw [hissued]
    exact List.mem_append_left _ (h.redeemed text (redeemed_issue.mp htext))
  · rw [hstore, hissued, List.map_append]
    exact TicketStore.keys_issue_sublist.trans (h.order.append (List.Sublist.refl _))

section Redeem

variable {now : Time} {presented : Option String}

theorem issued_redeem : issued (calls ++ [.redeem now presented]) = issued calls := by
  rw [issued_concat]
  exact List.append_nil _

theorem mem_of_issue {issuedAt : Time} {principal : Principal} {ticket : Ticket}
    (h : .issue issuedAt principal ticket ∈ calls ++ [.redeem now presented]) :
    .issue issuedAt principal ticket ∈ calls := by
  simpa using h

theorem Accounted.refuse (h : Accounted digest ttl calls) {refusal : String}
    (hanswer : ((storeAfter digest ttl calls).redeem digest now presented).1 = .error refusal) :
    Accounted digest ttl (calls ++ [.redeem now presented]) := by
  have hstore : storeAfter digest ttl (calls ++ [.redeem now presented]) =
      (storeAfter digest ttl calls).prune now :=
    storeAfter_concat.trans (TicketStore.redeem_error hanswer)
  have hredeemed : ∀ ticket, Redeemed digest ttl ticket (calls ++ [.redeem now presented]) →
      Redeemed digest ttl ticket calls := by
    intro ticket hredeemed
    rcases redeemed_redeem.mp hredeemed with hearlier | ⟨rfl, principal, hok⟩
    · exact hearlier
    · rw [hanswer] at hok
      cases hok
  refine ⟨fun key entry hentry => ?_, fun issuedAt principal ticket hcall => ?_,
    fun ticket hticket => ?_, ?_⟩
  · rw [hstore, TicketStore.get?_prune] at hentry
    obtain ⟨issuedAt, ticket, hcall, hkey, hexpires, hnot⟩ := h.held key entry hentry.1
    exact ⟨issuedAt, ticket, List.mem_append_left _ hcall, hkey, hexpires,
      fun hticket => hnot (hredeemed _ hticket)⟩
  · rw [hstore]
    exact h.survives (.redeem now presented) (mem_of_issue hcall)
  · rw [issued_redeem]
    exact h.redeemed ticket (hredeemed ticket hticket)
  · rw [hstore, issued_redeem]
    exact TicketStore.keys_prune_sublist.trans h.order

theorem Accounted.honour (h : Accounted digest ttl calls) {principal : Principal}
    (hdigest : CollisionFree digest (calls ++ [.redeem now presented]))
    (hanswer : ((storeAfter digest ttl calls).redeem digest now presented).1 = .ok principal) :
    Accounted digest ttl (calls ++ [.redeem now presented]) := by
  obtain ⟨text, entry, rfl, -, hheld, hfresh, -, hleft⟩ := TicketStore.redeem_ok hanswer
  have hstore : storeAfter digest ttl (calls ++ [.redeem now (some text)]) =
      ((storeAfter digest ttl calls).prune now).discard (digest text) :=
    storeAfter_concat.trans hleft
  have hpresented : text ∈
      (calls ++ [Call.redeem now (some text)]).filterMap Call.presented? := by
    simp [Call.presented?]
  have hsame : ∀ ticket ∈ issued calls, digest text = digest ticket → text = ticket :=
    fun ticket hticket => hdigest ticket (by rwa [issued_redeem]) text (.inr hpresented)
  refine ⟨fun key found hfound => ?_, fun issuedAt owner ticket hcall => ?_,
    fun ticket hticket => ?_, ?_⟩
  · rw [hstore, TicketStore.discard, OrderedDict.get?_erase_eq_some, TicketStore.get?_prune]
      at hfound
    obtain ⟨issuedAt, ticket, hcall, rfl, hexpires, hnot⟩ := h.held key found hfound.2.1
    refine ⟨issuedAt, ticket, List.mem_append_left _ hcall, rfl, hexpires, ?_⟩
    rw [redeemed_redeem]
    rintro (hearlier | ⟨hpresents, -⟩)
    · exact hnot hearlier
    · exact hfound.1 (congrArg digest (Option.some.inj hpresents).symm)
  · have hissuing := mem_of_issue hcall
    by_cases hticket : text = ticket.val
    · have hredeemed : Redeemed digest ttl ticket (calls ++ [.redeem now (some text)]) :=
        redeemed_redeem.mpr (.inr ⟨congrArg some hticket, principal, hticket ▸ hanswer⟩)
      exact .inr (.inl hredeemed)
    · rcases h.survives (.redeem now (some text)) hissuing with hpruned | hgone
      · have hother : digest ticket ≠ digest text := fun hkey =>
          hticket (hsame ticket (mem_issued hissuing) hkey.symm)
        rw [hstore]
        exact .inl ((OrderedDict.get?_erase_of_ne hother).trans hpruned)
      · exact .inr hgone
  · rw [issued_redeem]
    rcases redeemed_redeem.mp hticket with hearlier | ⟨hpresents, -⟩
    · exact h.redeemed ticket hearlier
    · obtain rfl := Option.some.inj hpresents
      obtain ⟨issuedAt, owner, hcall, hkey, -⟩ := h.held _ entry hheld
      rw [hsame owner (mem_issued hcall) hkey]
      exact mem_issued hcall
  · rw [hstore, issued_redeem]
    exact (OrderedDict.keys_erase_sublist _ _).trans
      (TicketStore.keys_prune_sublist.trans h.order)

end Redeem

theorem accounted (hdistinct : (issued calls).Nodup) (hdigest : CollisionFree digest calls) :
    Accounted digest ttl calls := by
  induction calls using List.reverseRecOn with
  | nil => exact accounted_nil
  | append_singleton calls call ih =>
      rw [issued_concat, List.nodup_append] at hdistinct
      have hbefore := ih hdistinct.1 hdigest.prefix
      cases call with
      | issue now principal ticket =>
          refine hbefore.issue (fun hold => ?_) hdigest
          exact hdistinct.2.2 _ hold _ (List.mem_singleton_self _) rfl
      | redeem now presented =>
          cases hanswer : ((storeAfter digest ttl calls).redeem digest now presented).1 with
          | error refusal => exact hbefore.refuse hanswer
          | ok principal => exact hbefore.honour hdigest hanswer

-- What goes through is a ticket that was issued to the one it lets in, has not expired, and
-- has not gone through before.
theorem redeem_issued {now : Time} {presented : String} {before after : List Call}
    (hdistinct : (issued (before ++ .redeem now (some presented) :: after)).Nodup)
    (hdigest : CollisionFree digest (before ++ .redeem now (some presented) :: after))
    {principal : Principal}
    (hok : ((storeAfter digest ttl before).redeem digest now (some presented)).1 = .ok principal) :
    ∃ issuedAt, ∃ ticket : Ticket, presented = ticket.val ∧
      .issue issuedAt principal ticket ∈ before ∧ now < issuedAt + ttl ∧
      ¬Redeemed digest ttl ticket before := by
  have hbefore : Accounted digest ttl before := by
    rw [issued, List.filterMap_append] at hdistinct
    exact accounted (List.nodup_append.mp hdistinct).1 hdigest.prefix
  obtain ⟨text, entry, hsame, -, hheld, hfresh, rfl, -⟩ := TicketStore.redeem_ok hok
  obtain rfl := Option.some.inj hsame
  obtain ⟨issuedAt, ticket, hcall, hkey, hexpires, hnot⟩ := hbefore.held _ entry hheld
  have hissued : ticket.val ∈ issued (before ++ .redeem now (some presented) :: after) :=
    mem_issued (List.mem_append_left _ hcall)
  have hpresented : presented ∈
      (before ++ .redeem now (some presented) :: after).filterMap Call.presented? := by
    simp [Call.presented?]
  exact ⟨issuedAt, ticket, hdigest ticket hissued presented (.inr hpresented) hkey, hcall,
    hexpires ▸ hfresh, hnot⟩

end Calls

-- A ticket goes through at most once, before it expires, and for the one it was issued to.
-- One that is refused in time has been redeemed, pruned or evicted before, and the refusal
-- costs the store no ticket that has not expired.
theorem ticket_store_law {digest : String → String} {ttl : Time} {calls : List Call}
    (hdistinct : (issued calls).Nodup) (hdigest : CollisionFree digest calls) :
    (∀ before now presented after, calls = before ++ .redeem now presented :: after →
      (∀ principal, ((storeAfter digest ttl before).redeem digest now presented).1 =
          .ok principal →
        ∃ issuedAt, ∃ ticket : Ticket, presented = some ticket.val ∧
          .issue issuedAt principal ticket ∈ before ∧ now < issuedAt + ttl ∧
          ¬Redeemed digest ttl ticket before) ∧
      (∀ refusal, ((storeAfter digest ttl before).redeem digest now presented).1 =
          .error refusal →
        (∀ key entry, (storeAfter digest ttl (before ++ [.redeem now presented])).tickets.get? key =
            some entry ↔
          (storeAfter digest ttl before).tickets.get? key = some entry ∧
            now < entry.expiresAt) ∧
        ∀ issuedAt principal (ticket : Ticket), presented = some ticket.val →
          .issue issuedAt principal ticket ∈ before → now < issuedAt + ttl →
          Redeemed digest ttl ticket before ∨ Expired ttl ticket before ∨
            Evicted digest ttl ticket before)) ∧
    ∀ before after, calls = before ++ after →
      (storeAfter digest ttl before).tickets.length ≤ 64 ∧
        (storeAfter digest ttl before).tickets.keys.Sublist ((issued before).map digest) := by
  have haccounted : ∀ before after, calls = before ++ after → Accounted digest ttl before := by
    rintro before after rfl
    rw [issued, List.filterMap_append] at hdistinct
    exact accounted (List.nodup_append.mp hdistinct).1 hdigest.prefix
  refine ⟨fun before now presented after hcalls => ⟨fun principal hok => ?_,
    fun refusal hrefused => ⟨fun key entry => ?_,
      fun issuedAt principal ticket hticket hcall hfresh => ?_⟩⟩,
    fun before after hcalls => ⟨TicketStore.bounded _, (haccounted before after hcalls).order⟩⟩
  · have hbefore := haccounted before _ hcalls
    obtain ⟨text, entry, rfl, -, hheld, hfresh, rfl, -⟩ := TicketStore.redeem_ok hok
    obtain ⟨issuedAt, ticket, hcall, hkey, hexpires, hnot⟩ := hbefore.held _ entry hheld
    have hpresented : text ∈ calls.filterMap Call.presented? := by
      rw [hcalls]
      simp [Call.presented?]
    have hissued : ticket.val ∈ issued calls := by
      rw [hcalls]
      exact mem_issued (List.mem_append_left _ hcall)
    obtain rfl := hdigest ticket hissued text (.inr hpresented) hkey
    exact ⟨issuedAt, ticket, rfl, hcall, hexpires ▸ hfresh, hnot⟩
  · rw [storeAfter_concat, TicketStore.after, TicketStore.redeem_error hrefused]
    exact TicketStore.get?_prune
  · obtain rfl := hticket
    rcases (haccounted before _ hcalls).kept issuedAt principal ticket hcall with hheld | hgone
    · rw [TicketStore.redeem_outstanding hheld hfresh] at hrefused
      cases hrefused
    · exact hgone

def alice : Principal := ⟨1, 2, "Alice"⟩

-- The first ticket is presented as it expires, the second one in time.
def visit : List Call :=
  [.issue 0 alice ⟨"first", by decide⟩, .redeem 10 (some "guess"),
    .issue 20 alice ⟨"second", by decide⟩, .redeem 30000000 (some "first"),
    .redeem 30000001 (some "second")]

theorem ticket_store_law_visit :
    ((storeAfter id 30000000 (visit.take 4)).redeem id 30000001 (some "second")).1 = .ok alice ∧
      ∃ issuedAt, ∃ ticket : Ticket, some "second" = some ticket.val ∧
        .issue issuedAt alice ticket ∈ visit.take 4 ∧ 30000001 < issuedAt + 30000000 ∧
        ¬Redeemed id 30000000 ticket (visit.take 4) := by
  have hok : ((storeAfter id 30000000 (visit.take 4)).redeem id 30000001 (some "second")).1 =
      .ok alice := by rfl
  have hdistinct : (issued visit).Nodup := by decide
  have hdigest : CollisionFree id visit := fun _ _ _ _ hsame => hsame
  exact ⟨hok, ((ticket_store_law hdistinct hdigest).1 (visit.take 4) 30000001 (some "second") []
    rfl).1 alice hok⟩

end Homeflow.Auth
