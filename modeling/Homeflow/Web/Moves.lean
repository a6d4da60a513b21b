import Homeflow.Web.App

namespace Homeflow.Web.State

-- The call is made.
def sent (state : State) (session : Nat) (request : CommandRequest) : State :=
  { state with
    busy := insert request.key state.busy
    calls := state.calls.set state.tickets ⟨session, request⟩
    tickets := state.tickets + 1
    trace := state.trace ++ [AppEffect.submitted ⟨session, request⟩] }

-- An answer has come for one of the calls: the mark of its control goes with it.
def freed (state : State) (ticket : Nat) (key : Key) (queued : OrderedDict Key CommandRequest) :
    State :=
  { state with calls := state.calls.erase ticket, busy := state.busy.erase key, queued }

-- The two differ in what is shown only.
def Alike (state after : State) : Prop :=
  ∃ desired notices, after = { state with desired, notices }

theorem Alike.refl (state : State) : Alike state state := ⟨_, _, rfl⟩

theorem Alike.trans {first second third : State} (hfirst : Alike first second)
    (hsecond : Alike second third) : Alike first third := by
  obtain ⟨desired, notices, rfl⟩ := hfirst
  obtain ⟨desired', notices', rfl⟩ := hsecond
  exact ⟨desired', notices', rfl⟩

section Shown

variable (state : State)

theorem alike_want (request : CommandRequest) : Alike state (state.want request) := by
  unfold want
  split
  · exact ⟨_, _, rfl⟩
  · exact .refl state

theorem alike_notify (deviceId : Uuid) (notice : Option Notice) :
    Alike state (state.notify deviceId notice) := by
  unfold notify
  split
  · exact ⟨_, _, rfl⟩
  · exact .refl state

theorem alike_confirm (key : Key) : Alike state (state.confirm key) := ⟨_, _, rfl⟩

end Shown

-- Everything a step can do.
inductive Moved (state : State) : AppLabel → State → Prop where
  | waits {request : CommandRequest} (hbusy : request.key ∈ state.busy) :
      Moved state (.press request)
        { state with
          queued := state.queued.set request.key request
          trace := state.trace ++ [AppEffect.pressed request] }
  | sends {request : CommandRequest} {session : Nat} (hfree : request.key ∉ state.busy)
      (hapi : state.api = some session) :
      Moved state (.press request)
        ({ state with trace := state.trace ++ [AppEffect.pressed request] }.sent session request)
  | raises {request : CommandRequest} (hfree : request.key ∉ state.busy)
      (hapi : state.api = none) :
      Moved state (.press request)
        { state with trace := state.trace ++ [AppEffect.pressed request] }
  | ends {ticket : Nat} {call : Call} {answer : Answer}
      (hcall : state.calls.get? ticket = some call) (hends : answer.unauthenticated = true) :
      Moved state (.answered ticket answer)
        { state.signOut with calls := state.calls.erase ticket }
  | done {ticket : Nat} {call : Call} {answer : Answer}
      (hcall : state.calls.get? ticket = some call) (hgoes : answer.unauthenticated = false)
      (hqueued : state.queued.get? call.request.key = none) :
      Moved state (.answered ticket answer) (state.freed ticket call.request.key state.queued)
  | next {ticket session : Nat} {call : Call} {answer : Answer} {request : CommandRequest}
      (hcall : state.calls.get? ticket = some call) (hgoes : answer.unauthenticated = false)
      (hqueued : state.queued.get? call.request.key = some request)
      (hapi : state.api = some session) :
      Moved state (.answered ticket answer)
        ((state.freed ticket call.request.key (state.queued.erase call.request.key)).sent session
          request)
  | drops {ticket : Nat} {call : Call} {answer : Answer} {request : CommandRequest}
      (hcall : state.calls.get? ticket = some call) (hgoes : answer.unauthenticated = false)
      (hqueued : state.queued.get? call.request.key = some request) (hapi : state.api = none) :
      Moved state (.answered ticket answer)
        (state.freed ticket call.request.key (state.queued.erase call.request.key))
  | signsIn : Moved state .signIn state.signIn
  | signsOut : Moved state .signOut state.signOut

-- A request waits under its own control, and only behind a call that is in flight.
structure Tracked (state : State) : Prop where
  queued : ∀ key request, state.queued.get? key = some request →
    key ∈ state.busy ∧ request.key = key
  busy : ∀ key ∈ state.busy, ∃ ticket call, state.calls.get? ticket = some call ∧
    call.request.key = key
  tickets : ∀ ticket call, state.calls.get? ticket = some call →
    ticket < state.tickets ∧ call.session < state.sessions
  session : ∀ session, state.api = some session → session < state.sessions

section Step

variable {state after : State}

theorem submit_sends (request : CommandRequest) {session : Nat}
    (hapi : state.api = some session) :
    ∃ reached, state.submit request = (reached, true) ∧
      Alike (state.sent session request) reached := by
  refine ⟨_, by simp only [submit, hapi]; rfl, state.desired,
    state.notices.erase request.deviceId, ?_⟩
  simp [sent, hapi]

theorem submit_raises (request : CommandRequest) (hapi : state.api = none) :
    ∃ reached, state.submit request = (reached, false) ∧
      Alike { state with busy := (insert request.key state.busy).erase request.key } reached := by
  refine ⟨_, by simp only [submit, hapi]; rfl, ?_⟩
  exact ⟨state.desired, _, by simp [notify, hapi]; rfl⟩

theorem Alike.sent {session : Nat} {request : CommandRequest} (h : Alike state after) :
    Alike (state.sent session request) (after.sent session request) := by
  obtain ⟨desired, notices, rfl⟩ := h
  exact ⟨_, _, rfl⟩

theorem Alike.api (h : Alike state after) : after.api = state.api := by
  obtain ⟨desired, notices, rfl⟩ := h
  rfl

theorem resume_none {key : Key} (hqueued : state.queued.get? key = none) :
    Alike state (state.resume key) := by
  simp only [resume, hqueued]
  exact alike_confirm state key

theorem resume_sends {key : Key} {session : Nat} {next : CommandRequest}
    (hqueued : state.queued.get? key = some next) (hapi : state.api = some session) :
    Alike ({ state with queued := state.queued.erase key }.sent session next)
      (state.resume key) := by
  have hwant := alike_want { state with queued := state.queued.erase key } next
  obtain ⟨reached, hreached, halike⟩ := submit_sends next (hwant.api.trans hapi)
  simp only [resume, hqueued, hreached, if_true]
  exact hwant.sent.trans halike

theorem resume_drops {key : Key} {next : CommandRequest}
    (hqueued : state.queued.get? key = some next) (hkey : next.key = key)
    (hfree : key ∉ state.busy) (hapi : state.api = none) :
    Alike { state with queued := state.queued.erase key } (state.resume key) := by
  have hwant := alike_want { state with queued := state.queued.erase key } next
  obtain ⟨reached, hreached, halike⟩ := submit_raises next (hwant.api.trans hapi)
  simp only [resume, hqueued, hreached]
  obtain ⟨desired, notices, hwanted⟩ := hwant
  rw [hwanted] at halike
  subst hkey
  simp only [Finset.erase_insert hfree] at halike
  exact (Alike.trans ⟨desired, notices, rfl⟩ halike).trans (alike_confirm reached next.key)

theorem press_moved (h : Tracked state) (request : CommandRequest) :
    ∃ reached, Moved state (.press request) reached ∧ Alike reached (state.press request) := by
  let pressed := { state with trace := state.trace ++ [AppEffect.pressed request] }
  have hwant := alike_want pressed request
  by_cases hbusy : request.key ∈ state.busy
  · refine ⟨_, .waits hbusy, ?_⟩
    obtain ⟨desired, notices, hwanted⟩ := hwant
    refine ⟨desired, notices, ?_⟩
    simp only [press, execute]
    rw [show { state with trace := state.trace ++ [AppEffect.pressed request] } = pressed from rfl,
      hwanted, if_pos hbusy]
  · have hfree : request.key ∉ (pressed.want request).busy := by
      obtain ⟨desired, notices, hwanted⟩ := hwant
      rw [hwanted]
      exact hbusy
    cases hapi : state.api with
    | some session =>
        refine ⟨_, .sends hbusy hapi, ?_⟩
        obtain ⟨reached, hreached, halike⟩ := submit_sends request (hwant.api.trans hapi)
        have hpress : state.press request = reached := by
          simp only [press, execute]
          rw [if_neg hfree, hreached]
          rfl
        rw [hpress]
        exact hwant.sent.trans halike
    | none =>
        refine ⟨_, .raises hbusy hapi, ?_⟩
        obtain ⟨reached, hreached, halike⟩ := submit_raises request (hwant.api.trans hapi)
        have hpress : state.press request = reached.resume request.key := by
          simp only [press, execute]
          rw [if_neg hfree, hreached]
          rfl
        rw [Finset.erase_insert hfree] at halike
        have hreachedAlike : Alike pressed reached := hwant.trans halike
        have hqueued : reached.queued.get? request.key = none := by
          obtain ⟨desired, notices, rfl⟩ := hreachedAlike
          by_contra hsome
          obtain ⟨waiting, hwaiting⟩ := Option.ne_none_iff_exists'.mp hsome
          exact hbusy (h.queued _ waiting hwaiting).1
        rw [hpress]
        exact hreachedAlike.trans (resume_none hqueued)

theorem answered_moved (h : Tracked state) {ticket : Nat} {call : Call} (answer : Answer)
    (hcall : state.calls.get? ticket = some call) :
    ∃ reached, Moved state (.answered ticket answer) reached ∧
      Alike reached (state.answered ticket call answer) := by
  obtain ⟨desired, notices, htold⟩ := alike_notify { state with calls := state.calls.erase ticket }
    call.request.deviceId answer.notice
  simp only [answered]
  rw [htold]
  by_cases hends : answer.unauthenticated = true
  · refine ⟨_, .ends hcall hends, ?_⟩
    rw [if_pos hends]
    refine ⟨.empty, .empty, ?_⟩
    simp [signOut]
  · have hgoes : answer.unauthenticated = false := by simpa using hends
    rw [if_neg hends]
    have hfree : call.request.key ∉ state.busy.erase call.request.key := Finset.notMem_erase _ _
    let told := { state.freed ticket call.request.key state.queued with desired, notices }
    have htold : Alike (state.freed ticket call.request.key state.queued) told :=
      ⟨desired, notices, rfl⟩
    rcases Option.eq_none_or_eq_some (state.queued.get? call.request.key) with
      hqueued | ⟨next, hqueued⟩
    · have hresumed : Alike told (told.resume call.request.key) := resume_none hqueued
      exact ⟨_, .done hcall hgoes hqueued, htold.trans hresumed⟩
    · obtain ⟨-, hkey⟩ := h.queued _ next hqueued
      rcases Option.eq_none_or_eq_some state.api with hapi | ⟨session, hapi⟩
      · have hresumed : Alike { told with queued := told.queued.erase call.request.key }
            (told.resume call.request.key) := resume_drops hqueued hkey hfree hapi
        exact ⟨_, .drops hcall hgoes hqueued hapi, Alike.trans ⟨desired, notices, rfl⟩ hresumed⟩
      · have hresumed : Alike ({ told with queued := told.queued.erase call.request.key }.sent
            session next) (told.resume call.request.key) := resume_sends hqueued hapi
        exact ⟨_, .next hcall hgoes hqueued hapi,
          Alike.trans (Alike.sent ⟨desired, notices, rfl⟩) hresumed⟩

theorem step_moved (h : Tracked state) {label : AppLabel} (hstep : state.step label = some after) :
    ∃ reached, Moved state label reached ∧ Alike reached after := by
  cases label with
  | press request =>
      cases hstep
      exact press_moved h request
  | answered ticket answer =>
      obtain ⟨call, hcall, rfl⟩ := Option.map_eq_some_iff.mp hstep
      exact answered_moved h answer hcall
  | signIn =>
      cases hstep
      exact ⟨_, .signsIn, .refl _⟩
  | signOut =>
      cases hstep
      exact ⟨_, .signsOut, .refl _⟩

end Step

section Kept

variable {state after : State}

theorem Tracked.freed (h : Tracked state) {ticket : Nat} {call : Call}
    (hcall : state.calls.get? ticket = some call) {queued : OrderedDict Key CommandRequest}
    (hqueued : ∀ key request, queued.get? key = some request →
      key ≠ call.request.key ∧ state.queued.get? key = some request) :
    Tracked (state.freed ticket call.request.key queued) where
  queued := by
    intro key request hget
    obtain ⟨hne, hold⟩ := hqueued key request hget
    exact ⟨Finset.mem_erase.mpr ⟨hne, (h.queued key request hold).1⟩, (h.queued key request hold).2⟩
  busy := by
    intro key hmem
    obtain ⟨hne, hbusy⟩ := Finset.mem_erase.mp hmem
    obtain ⟨other, found, hfound, rfl⟩ := h.busy key hbusy
    refine ⟨other, found, OrderedDict.get?_erase_eq_some.mpr ⟨?_, hfound⟩, rfl⟩
    rintro rfl
    obtain rfl := Option.some.inj (hcall.symm.trans hfound)
    exact hne rfl
  tickets := fun other found hfound =>
    h.tickets other found (OrderedDict.get?_erase_eq_some.mp hfound).2
  session := h.session

theorem Tracked.pressed (h : Tracked state) (request : CommandRequest) :
    Tracked { state with trace := state.trace ++ [AppEffect.pressed request] } :=
  ⟨h.queued, h.busy, h.tickets, h.session⟩

theorem get?_sent (h : Tracked state) {session : Nat} {request : CommandRequest} {ticket : Nat}
    {call : Call} (hcall : state.calls.get? ticket = some call) :
    (state.sent session request).calls.get? ticket = some call := by
  have hlt := (h.tickets ticket call hcall).1
  rw [State.sent, OrderedDict.get?_set_of_ne (by omega), hcall]

theorem Tracked.sent (h : Tracked state) {session : Nat} (hapi : state.api = some session)
    (request : CommandRequest) : Tracked (state.sent session request) where
  queued := by
    intro key waiting hget
    obtain ⟨hbusy, hkey⟩ := h.queued key waiting hget
    exact ⟨Finset.mem_insert_of_mem hbusy, hkey⟩
  busy := by
    intro key hmem
    rcases Finset.mem_insert.mp hmem with rfl | hbusy
    · exact ⟨state.tickets, ⟨session, request⟩, OrderedDict.get?_set_self _ _ _, rfl⟩
    · obtain ⟨ticket, call, hcall, hkey⟩ := h.busy key hbusy
      exact ⟨ticket, call, get?_sent h hcall, hkey⟩
  tickets := by
    intro ticket call hget
    rcases OrderedDict.get?_set_eq_some.mp hget with ⟨rfl, rfl⟩ | ⟨-, hold⟩
    · exact ⟨Nat.lt_succ_self _, h.session session hapi⟩
    · obtain ⟨hlt, hsession⟩ := h.tickets ticket call hold
      exact ⟨Nat.lt_succ_of_lt hlt, hsession⟩
  session := h.session

theorem Tracked.signOut (h : Tracked state) {calls : OrderedDict Nat Call}
    (hcalls : ∀ ticket call, calls.get? ticket = some call →
      state.calls.get? ticket = some call) : Tracked { state.signOut with calls } where
  queued := by simp [State.signOut]
  busy := by simp [State.signOut]
  tickets := fun ticket call hget => h.tickets ticket call (hcalls ticket call hget)
  session := by simp [State.signOut]

theorem Tracked.moved (h : Tracked state) {label : AppLabel} (hmoved : Moved state label after) :
    Tracked after := by
  cases hmoved with
  | @waits request hbusy =>
      refine ⟨fun key waiting hget => ?_, h.busy, h.tickets, h.session⟩
      rcases OrderedDict.get?_set_eq_some.mp hget with ⟨rfl, rfl⟩ | ⟨-, hold⟩
      · exact ⟨hbusy, rfl⟩
      · exact h.queued key waiting hold
  | @sends request session hfree hapi => exact (h.pressed request).sent hapi request
  | @raises request hfree hapi => exact h.pressed request
  | ends hcall hends =>
      exact h.signOut fun other found hfound => (OrderedDict.get?_erase_eq_some.mp hfound).2
  | done hcall hgoes hqueued =>
      refine h.freed hcall fun key request hget => ⟨?_, hget⟩
      rintro rfl
      rw [hqueued] at hget
      cases hget
  | next hcall hgoes hqueued hapi =>
      refine Tracked.sent (h.freed hcall fun key request hget => ?_) hapi _
      exact OrderedDict.get?_erase_eq_some.mp hget
  | drops hcall hgoes hqueued hapi =>
      exact h.freed hcall fun key request hget => OrderedDict.get?_erase_eq_some.mp hget
  | signsIn =>
      refine ⟨h.queued, h.busy, fun ticket call hget => ?_, fun session hsession => ?_⟩
      · obtain ⟨hlt, hold⟩ := h.tickets ticket call hget
        exact ⟨hlt, Nat.lt_succ_of_lt hold⟩
      · cases hsession
        exact Nat.lt_succ_self _
  | signsOut => exact h.signOut fun ticket call hget => hget

end Kept

end Homeflow.Web.State
