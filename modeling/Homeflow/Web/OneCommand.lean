import Homeflow.Web.Moves

namespace Homeflow.Web

-- What was pressed last on a control since the session began.
def lastPressed (key : Key) (trace : List AppEffect) : Option CommandRequest :=
  trace.foldl (fun last effect => match effect with
    | .pressed request => if request.key = key then some request else last
    | .signedIn _ | .signedOut => none
    | .submitted _ => last) none

-- What was submitted last for a control.
def lastSubmitted (key : Key) (trace : List AppEffect) : Option CommandRequest :=
  trace.foldl (fun last effect => match effect with
    | .submitted call => if call.request.key = key then some call.request else last
    | .pressed _ | .signedIn _ | .signedOut => last) none

section Trace

variable {key : Key} {trace : List AppEffect}

@[simp] theorem lastPressed_pressed (request : CommandRequest) :
    lastPressed key (trace ++ [.pressed request]) =
      if request.key = key then some request else lastPressed key trace := by
  simp [lastPressed]

@[simp] theorem lastPressed_submitted (call : Call) :
    lastPressed key (trace ++ [.submitted call]) = lastPressed key trace := by
  simp [lastPressed]

@[simp] theorem lastPressed_signedIn (session : Nat) :
    lastPressed key (trace ++ [.signedIn session]) = none := by
  simp [lastPressed]

@[simp] theorem lastSubmitted_pressed (request : CommandRequest) :
    lastSubmitted key (trace ++ [.pressed request]) = lastSubmitted key trace := by
  simp [lastSubmitted]

@[simp] theorem lastSubmitted_submitted (call : Call) :
    lastSubmitted key (trace ++ [.submitted call]) =
      if call.request.key = key then some call.request else lastSubmitted key trace := by
  simp [lastSubmitted]

end Trace

namespace State

-- A call of the current session.
def Current (state : State) (call : Call) : Prop := state.api = some call.session

-- At most one call of the current session is in flight for a control.
def OneInFlight (state : State) : Prop :=
  ∀ first second call other, state.calls.get? first = some call →
    state.calls.get? second = some other → state.Current call → state.Current other →
    call.request.key = other.request.key → first = second

-- At most one request waits for a control, and behind a call that is in flight for it.
def OneWaits (state : State) : Prop :=
  ∀ key, (state.queued.entries.filter fun entry => entry.1 = key).length ≤ 1 ∧
    ∀ request, state.queued.get? key = some request → request.key = key ∧
      ∃ ticket call, state.calls.get? ticket = some call ∧ call.request.key = key

-- Where every call for a control is answered, the last value pressed was submitted last.
def LastSubmitted (state : State) : Prop :=
  state.api.isSome → ∀ key, (∀ ticket call, state.calls.get? ticket = some call →
    call.request.key ≠ key) → ∀ request, lastPressed key state.trace = some request →
    lastSubmitted key state.trace = some request

-- No answer of an earlier session, but one that ends the session, comes while a call of
-- the current one is in flight for the same control.
def AnsweredApart (state : State) : AppLabel → Prop
  | .answered ticket answer =>
      answer.unauthenticated = true ∨ ∀ call, state.calls.get? ticket = some call →
        ¬state.Current call → ∀ other found, state.calls.get? other = some found →
        state.Current found → found.request.key ≠ call.request.key
  | _ => True

instance (state : State) (call : Call) : Decidable (state.Current call) :=
  inferInstanceAs (Decidable (_ = _))

instance AnsweredApart.decidable (state : State) :
    (label : AppLabel) → Decidable (state.AnsweredApart label)
  | .answered ticket answer =>
      decidable_of_iff (answer.unauthenticated = true ∨ ∀ call ∈ state.calls.get? ticket,
        ¬state.Current call → ∀ entry ∈ state.calls.entries, state.Current entry.2 →
          entry.2.request.key ≠ call.request.key)
        (by simp [AnsweredApart, ← OrderedDict.get?_eq_some_iff])
  | .press _ => isTrue trivial
  | .signIn => isTrue trivial
  | .signOut => isTrue trivial

-- What was pressed last waits or was submitted last.
def Heard (state : State) (key : Key) : Prop :=
  ∀ request, lastPressed key state.trace = some request →
    state.queued.get? key = some request ∨
      state.queued.get? key = none ∧ lastSubmitted key state.trace = some request

structure Waiting (state : State) : Prop extends Tracked state where
  heard : state.api.isSome → ∀ key, state.Heard key

-- The call of the current session that is in flight for a control holds its mark.
structure Lone (state : State) : Prop where
  busy : ∀ ticket call, state.calls.get? ticket = some call → state.Current call →
    call.request.key ∈ state.busy
  one : state.OneInFlight

theorem Waiting.alike {state after : State} (h : Waiting state) (halike : Alike state after) :
    Waiting after := by
  obtain ⟨desired, notices, rfl⟩ := halike
  exact ⟨⟨h.queued, h.busy, h.tickets, h.session⟩, h.heard⟩

theorem Lone.alike {state after : State} (h : Lone state) (halike : Alike state after) :
    Lone after := by
  obtain ⟨desired, notices, rfl⟩ := halike
  exact ⟨h.busy, h.one⟩

section Waiting

variable {state after : State}

-- Only a press and the end of a wait touch what was heard, and of their own control only.
theorem Waiting.moved (h : Waiting state) {label : AppLabel} (hmoved : Moved state label after) :
    Waiting after := by
  refine ⟨h.toTracked.moved hmoved, fun hsome key last hlast => ?_⟩
  cases hmoved with
  | @waits request hbusy =>
      dsimp only at hlast ⊢
      rw [lastPressed_pressed] at hlast
      rw [lastSubmitted_pressed, OrderedDict.get?_set]
      by_cases hkey : request.key = key
      · rw [if_pos hkey] at hlast
        rw [if_pos hkey.symm]
        exact .inl hlast
      · rw [if_neg hkey] at hlast
        rw [if_neg (Ne.symm hkey)]
        exact h.heard hsome key last hlast
  | @sends request session hfree hapi =>
      simp only [State.sent, lastPressed_submitted, lastPressed_pressed] at hlast
      simp only [State.sent, lastSubmitted_submitted, lastSubmitted_pressed]
      by_cases hkey : request.key = key
      · subst hkey
        rw [if_pos rfl] at hlast ⊢
        refine .inr ⟨?_, hlast⟩
        by_contra hwaits
        obtain ⟨waiting, hwaiting⟩ := Option.ne_none_iff_exists'.mp hwaits
        exact hfree (h.queued _ waiting hwaiting).1
      · rw [if_neg hkey] at hlast ⊢
        exact h.heard (by simp [hapi]) key last hlast
  | raises hfree hapi =>
      dsimp only at hsome
      rw [hapi] at hsome
      cases hsome
  | ends hcall hends => cases hsome
  | done hcall hgoes hqueued => exact h.heard hsome key last hlast
  | @next ticket session call answer request hcall hgoes hqueued hapi =>
      have hnext := (h.queued _ request hqueued).2
      simp only [State.sent, lastPressed_submitted] at hlast
      simp only [State.sent, State.freed, lastSubmitted_submitted, hnext]
      have hheard := h.heard (by simp [hapi]) key last hlast
      by_cases hkey : call.request.key = key
      · subst hkey
        rw [hqueued] at hheard
        rw [if_pos rfl, OrderedDict.get?_erase_self]
        simpa using hheard
      · rw [if_neg hkey, OrderedDict.get?_erase_of_ne (Ne.symm hkey)]
        exact hheard
  | drops hcall hgoes hqueued hapi =>
      rw [State.freed, hapi] at hsome
      cases hsome
  | signsIn => simp [State.signIn] at hlast
  | signsOut => cases hsome

theorem Waiting.step (h : Waiting state) {label : AppLabel}
    (hstep : state.step label = some after) : Waiting after := by
  obtain ⟨reached, hmoved, halike⟩ := step_moved h.toTracked hstep
  exact (h.moved hmoved).alike halike

theorem waiting_initial : Waiting {} where
  queued := by simp
  busy := by simp
  tickets := by simp
  session := by simp
  heard := by simp

end Waiting

section Lone

variable {state after : State}

theorem lone_initial : Lone {} where
  busy := by simp
  one := by simp [OneInFlight]

theorem Lone.signOut {calls : OrderedDict Nat Call} : Lone { state.signOut with calls } where
  busy := by simp [Current, State.signOut]
  one := by simp [OneInFlight, Current, State.signOut]

theorem Lone.freed (h : Lone state) {ticket : Nat} {call : Call}
    (hcall : state.calls.get? ticket = some call)
    (hapart : ¬state.Current call → ∀ other found, state.calls.get? other = some found →
      state.Current found → found.request.key ≠ call.request.key)
    (queued : OrderedDict Key CommandRequest) :
    Lone (state.freed ticket call.request.key queued) where
  busy := by
    intro other found hget hfound
    obtain ⟨hne, hold⟩ := OrderedDict.get?_erase_eq_some.mp hget
    refine Finset.mem_erase.mpr ⟨fun hkey => ?_, h.busy other found hold hfound⟩
    by_cases hcurrent : state.Current call
    · exact hne (h.one other ticket found call hold hcall hfound hcurrent hkey)
    · exact hapart hcurrent other found hold hfound hkey
  one := by
    intro first second call other hfirst hsecond
    exact h.one first second call other (OrderedDict.get?_erase_eq_some.mp hfirst).2
      (OrderedDict.get?_erase_eq_some.mp hsecond).2

theorem Lone.sent (h : Lone state) {request : CommandRequest} (hfree : request.key ∉ state.busy)
    (session : Nat) : Lone (state.sent session request) where
  busy := by
    intro ticket call hget hcall
    rcases OrderedDict.get?_set_eq_some.mp hget with ⟨-, rfl⟩ | ⟨-, hold⟩
    · exact Finset.mem_insert_self _ _
    · exact Finset.mem_insert_of_mem (h.busy ticket call hold hcall)
  one := by
    intro first second call other hfirst hsecond hcall hother hkey
    rcases OrderedDict.get?_set_eq_some.mp hfirst with ⟨rfl, rfl⟩ | ⟨-, holdFirst⟩ <;>
      rcases OrderedDict.get?_set_eq_some.mp hsecond with ⟨rfl, rfl⟩ | ⟨-, holdSecond⟩
    · rfl
    · exact absurd (hkey ▸ h.busy second other holdSecond hother) hfree
    · exact absurd (hkey ▸ h.busy first call holdFirst hcall) hfree
    · exact h.one first second call other holdFirst holdSecond hcall hother hkey

theorem Lone.moved (h : Lone state) (hwaiting : Waiting state) {label : AppLabel}
    (hguard : state.AnsweredApart label) (hmoved : Moved state label after) : Lone after := by
  cases hmoved with
  | waits hbusy => exact ⟨h.busy, h.one⟩
  | @sends request session hfree hapi =>
      have hpressed : Lone { state with trace := state.trace ++ [AppEffect.pressed request] } :=
        ⟨h.busy, h.one⟩
      exact hpressed.sent hfree session
  | raises hfree hapi => exact ⟨h.busy, h.one⟩
  | ends hcall hends => exact Lone.signOut
  | @done ticket call answer hcall hgoes hqueued =>
      exact h.freed hcall (hguard.resolve_left (by simp [hgoes]) call hcall) _
  | @next ticket session call answer request hcall hgoes hqueued hapi =>
      refine (h.freed hcall (hguard.resolve_left (by simp [hgoes]) call hcall) _).sent ?_ session
      rw [(hwaiting.queued _ request hqueued).2]
      exact Finset.notMem_erase _ _
  | @drops ticket call answer request hcall hgoes hqueued hapi =>
      exact h.freed hcall (hguard.resolve_left (by simp [hgoes]) call hcall) _
  | signsIn =>
      -- No call has been made in the session that begins.
      have hfresh : ∀ ticket call, state.calls.get? ticket = some call →
          ¬state.signIn.Current call := by
        intro ticket call hget hcurrent
        have hlt := (hwaiting.tickets ticket call hget).2
        have hsession : state.sessions = call.session := Option.some.inj hcurrent
        omega
      exact ⟨fun ticket call hget hcurrent => absurd hcurrent (hfresh ticket call hget),
        fun first second call other hfirst _ hcurrent => absurd hcurrent (hfresh first call hfirst)⟩
  | signsOut => exact Lone.signOut

theorem Lone.step (h : Lone state) (hwaiting : Waiting state) {label : AppLabel}
    (hguard : state.AnsweredApart label) (hstep : state.step label = some after) : Lone after := by
  obtain ⟨reached, hmoved, halike⟩ := step_moved hwaiting.toTracked hstep
  exact (h.moved hwaiting hguard hmoved).alike halike

end Lone

section Stale

variable {state after : State}

-- A call that is made beside another one for the same control.
theorem sent_beside (h : Tracked state) {ticket session : Nat} {call : Call}
    (hget : state.calls.get? ticket = some call) (hcall : state.Current call)
    (hapi : state.api = some session) {request : CommandRequest}
    (hkey : request.key = call.request.key) : ¬(state.sent session request).OneInFlight := by
  intro hone
  have hlt := (h.tickets ticket call hget).1
  have hsame := hone ticket state.tickets call ⟨session, request⟩ (get?_sent h hget)
    (OrderedDict.get?_set_self _ _ _) hcall hapi hkey.symm
  omega

theorem OneInFlight.alike (h : OneInFlight after) (halike : Alike state after) :
    OneInFlight state := by
  obtain ⟨desired, notices, rfl⟩ := halike
  exact h

-- The next press on a control whose mark is gone makes a call.
theorem press_beside (h : Waiting state) {ticket : Nat} {call : Call}
    (hget : state.calls.get? ticket = some call) (hcall : state.Current call)
    (hfree : call.request.key ∉ state.busy) : ¬(state.press call.request).OneInFlight := by
  intro hone
  obtain ⟨reached, hmoved, halike⟩ := press_moved h.toTracked call.request
  cases hmoved with
  | waits hbusy => exact hfree hbusy
  | sends _ hapi =>
      exact sent_beside (h.toTracked.pressed call.request) hget hcall hapi rfl (hone.alike halike)
  | raises _ hapi =>
      rw [State.Current, hapi] at hcall
      cases hcall

-- The end of a call of an earlier session takes the mark of the current one with it. Either
-- what waits goes out beside it at once or what is pressed next does.
theorem stale_breaks (h : Waiting state) {label : AppLabel} (hguard : ¬state.AnsweredApart label)
    (hstep : state.step label = some after) :
    ∃ more final, Machine.run State.step after more = some final ∧ ¬final.OneInFlight := by
  cases label with
  | press request => exact absurd trivial hguard
  | signIn => exact absurd trivial hguard
  | signOut => exact absurd trivial hguard
  | answered ticket answer =>
      simp only [AnsweredApart, not_or, not_forall, not_not] at hguard
      obtain ⟨hgoes, call, hcall, hstale, other, found, hfound, hcurrent, hkey⟩ := hguard
      have hother : other ≠ ticket := by
        rintro rfl
        obtain rfl := Option.some.inj (hcall.symm.trans hfound)
        exact hstale hcurrent
      have hleft : (state.calls.erase ticket).get? other = some found :=
        OrderedDict.get?_erase_eq_some.mpr ⟨hother, hfound⟩
      have hwaiting := h.step hstep
      obtain ⟨reached, hmoved, halike⟩ := step_moved h.toTracked hstep
      cases hmoved with
      | ends _ hends => exact absurd hends hgoes
      | @done _ answered _ hanswered _ hqueued =>
          obtain rfl := Option.some.inj (hcall.symm.trans hanswered)
          obtain ⟨desired, notices, rfl⟩ := halike
          refine ⟨[.press found.request], _, rfl, press_beside hwaiting hleft hcurrent ?_⟩
          rw [hkey]
          exact Finset.notMem_erase _ _
      | @next _ session answered _ request hanswered _ hqueued hapi =>
          obtain rfl := Option.some.inj (hcall.symm.trans hanswered)
          refine ⟨[], after, rfl, fun hone => ?_⟩
          have hfreed : Tracked (state.freed ticket call.request.key
              (state.queued.erase call.request.key)) :=
            h.toTracked.freed hcall fun key request hget =>
              OrderedDict.get?_erase_eq_some.mp hget
          have hwanted := (h.queued _ request hqueued).2
          exact sent_beside hfreed hleft hcurrent hapi (hwanted.trans hkey.symm)
            (hone.alike halike)
      | drops _ _ _ hapi =>
          rw [State.Current, hapi] at hcurrent
          cases hcurrent

end Stale

theorem Waiting.oneWaits {state : State} (h : Waiting state) : state.OneWaits := by
  refine fun key => ⟨?_, fun request hget => ?_⟩
  · have hnodup := state.queued.nodup.filter fun other => other = key
    rw [List.filter_map] at hnodup
    have hall : (state.queued.entries.filter fun entry => entry.1 = key).map Prod.fst =
        List.replicate (state.queued.entries.filter fun entry => entry.1 = key).length key := by
      refine List.eq_replicate_iff.mpr ⟨List.length_map _, fun other hmem => ?_⟩
      obtain ⟨entry, hentry, rfl⟩ := List.mem_map.mp hmem
      simpa using (List.mem_filter.mp hentry).2
    exact List.nodup_replicate.mp (hall ▸ hnodup)
  · obtain ⟨hbusy, hkey⟩ := h.queued key request hget
    exact ⟨hkey, h.busy key hbusy⟩

theorem Waiting.lastSubmitted {state : State} (h : Waiting state) : state.LastSubmitted := by
  intro hsome key hnone request hlast
  rcases h.heard hsome key request hlast with hqueued | ⟨-, hsubmitted⟩
  · obtain ⟨ticket, call, hcall, hkey⟩ := h.busy key (h.queued key request hqueued).1
    exact absurd hkey (hnone ticket call hcall)
  · exact hsubmitted

end State

-- One request waits for a control at most, and what was pressed last is submitted last. As long
-- as no call outlives its session into the next one one call is in flight at most. The first
-- answer to such a call can put two calls in flight.
theorem one_command {labels : List AppLabel} {state : State}
    (hrun : Machine.run State.step {} labels = some state) :
    state.OneWaits ∧ state.LastSubmitted ∧
    (Machine.Guarded State.step State.AnsweredApart {} labels → state.OneInFlight) ∧
    (¬Machine.Guarded State.step State.AnsweredApart {} labels →
      ∃ before label rest more final, labels = before ++ label :: rest ∧
        Machine.Guarded State.step State.AnsweredApart {} before ∧
        Machine.run State.step {} (before ++ label :: more) = some final ∧
        ¬final.OneInFlight) := by
  have hreached : ∀ {first : List AppLabel} {reached : State},
      Machine.run State.step {} first = some reached → State.Waiting reached := fun hfirst =>
    Machine.invariant State.waiting_initial (fun _ _ _ hbefore hstep => hbefore.step hstep) hfirst
  refine ⟨(hreached hrun).oneWaits, (hreached hrun).lastSubmitted, fun hguard => ?_,
    fun hunguarded => ?_⟩
  · have hkept : ∀ (before : State) (label : AppLabel) (after : State),
        State.Waiting before ∧ State.Lone before → before.AnsweredApart label →
          before.step label = some after → State.Waiting after ∧ State.Lone after := by
      rintro before label after ⟨hwaiting, hlone⟩ hlabel hstep
      exact ⟨hwaiting.step hstep, hlone.step hwaiting hlabel hstep⟩
    exact (Machine.guarded_invariant ⟨State.waiting_initial, State.lone_initial⟩ hkept hrun
      hguard).2.one
  · refine Machine.exists_breach (fun first before label after hfirst hstale hstep => ?_) hrun
      hunguarded
    exact State.stale_breaks (hreached hfirst) hstale hstep

-- The heater of a pool, to be switched on or off.
def heater (on : Bool) : CommandRequest := ⟨7, .setHeater, [("on", .bool on)]⟩

-- The second press waits until the first call has failed.
def pressedTwice : List AppLabel :=
  [.signIn, .press (heater true), .press (heater false), .answered 0 (.apiError "network"),
    .answered 1 (.command .succeeded none)]

theorem one_command_pressedTwice : ∃ state,
    Machine.run State.step {} pressedTwice = some state ∧ state.tickets = 2 ∧
      state.calls.keys = [] ∧ state.OneWaits ∧ state.LastSubmitted ∧ state.OneInFlight := by
  obtain ⟨state, hrun, hstate⟩ := (Option.any_eq_true _ _).mp
    (show (Machine.run State.step {} pressedTwice).any (fun state =>
      state.tickets = 2 ∧ state.calls.keys = []) = true by decide +kernel)
  obtain ⟨htickets, hcalls⟩ := of_decide_eq_true hstate
  obtain ⟨hwaits, hlast, hone, -⟩ := one_command hrun
  exact ⟨state, hrun, htickets, hcalls, hwaits, hlast, hone (by decide +kernel)⟩

-- The first call is answered in the session after its own.
def signedInAgain : List AppLabel :=
  [.signIn, .press (heater true), .signOut, .signIn, .press (heater false),
    .answered 0 (.command .succeeded none), .press (heater true)]

theorem signed_in_again_two_calls : ∃ state,
    Machine.run State.step {} signedInAgain = some state ∧ ¬state.OneInFlight := by
  refine ⟨_, rfl, fun hone => ?_⟩
  have hsame := hone 1 2 ⟨1, heater false⟩ ⟨1, heater true⟩ rfl rfl rfl rfl rfl
  cases hsame

end Homeflow.Web
