import Homeflow.Live.Words

namespace Homeflow.Live

variable {clock : Nat → Time} {queueSize staleAfterSeconds : Nat} {id : Uuid}

section Run

-- The last word on the wire is current, unless the device is told of again, and so is
-- what the client shows, unless something newer is coming.
structure Kept (id : Uuid) (world : World) : Prop where
  unfollowed : world.session.followed = false → words id world.wire = []
  current : world.awaited id = true ∨
    ∀ view, (words id world.wire).getLast? = some (some view) → some view = world.held id
  coming : world.shown id = world.held id ∨ world.Coming id

variable {world after : World}

theorem kept_ingest (h : Kept id world) {ref : ProviderDeviceRef} {state : ProviderState}
    {source : StateSource} {correlationId : Option String}
    (hguard : Caught clock id world (.ingest ref state source correlationId)) :
    Kept id (world.ingest clock ref state source correlationId) := by
  have hwords : (world.ingest clock ref state source correlationId).wire = world.wire := rfl
  obtain ⟨hregistered, hview⟩ :=
    DeviceService.ingest_view clock world.service ref state source correlationId id
  have hfollowed : (world.ingest clock ref state source correlationId).session.followed =
      world.session.followed := followed_offers _ _
  have hsome : ((world.ingest clock ref state source correlationId).held id).isSome =
      (world.held id).isSome := by
    unfold World.held
    rw [Option.isSome_map, Option.isSome_map]
    exact hregistered
  by_cases hheld : (world.ingest clock ref state source correlationId).held id = world.held id
  · have hawaited : world.awaited id = true →
        (world.ingest clock ref state source correlationId).awaited id = true := by
      unfold World.awaited
      rw [hheld, Bool.and_eq_true, Bool.and_eq_true]
      exact fun hold => ⟨hold.1, session_tells_offers _ hold.2⟩
    refine ⟨?_, ?_, ?_⟩
    · rw [hfollowed]
      exact h.unfollowed
    · rw [hheld]
      exact h.current.imp hawaited fun hlast => hlast
    · rw [hheld]
      refine h.coming.imp (fun hshown => hshown) fun hcoming => ?_
      unfold World.Coming
      rw [hheld]
      exact hcoming.imp_right fun hcoming => hcoming.imp_right fun hcoming =>
        hcoming.imp_left hawaited
  · cases hsession : world.session.followed with
    | true =>
        -- The change was told, and nothing that is told is lost without a hint.
        have hawaited : (world.ingest clock ref state source correlationId).awaited id = true := by
          obtain hsame | ⟨event, hmem, habout⟩ := hview
          · exact absurd hsame hheld
          · unfold World.awaited
            rw [Bool.and_eq_true]
            refine ⟨?_, session_tells_offered hsession hmem (decide_eq_true habout)⟩
            by_contra hnone
            rw [hsome] at hnone
            rw [Bool.not_eq_true, Option.isSome_eq_false_iff, Option.isNone_iff_eq_none] at hnone
            rw [hnone, Option.isSome_none, Option.isSome_eq_false_iff,
              Option.isNone_iff_eq_none] at hsome
            exact hheld (hsome.trans hnone.symm)
        exact ⟨fun hfalse => absurd (hfollowed.symm.trans hfalse) (by simp [hsession]),
          .inl hawaited, .inr (.inr (.inr (.inl hawaited)))⟩
    | false =>
        have hempty := h.unfollowed hsession
        refine ⟨fun _ => hempty, .inr fun view hlast => ?_, .inr ?_⟩
        · rw [hwords, hempty] at hlast
          cases hlast
        · rcases hguard with hsame | hfollows | hopened | hrequests
          · exact absurd hsame hheld
          · exact absurd hfollows (by simp [hsession])
          · exact .inl hopened
          · exact .inr (.inl hrequests)

-- What is put on the wire besides keeps what was coming.
theorem Coming.wire {session : Session} {wire : List Frame} (h : world.Coming id)
    (hawaited : world.awaited id = true →
      ({ world with session, wire } : World).awaited id = true ∨ words id wire ≠ [])
    (hwords : words id world.wire ≠ [] → words id wire ≠ []) :
    ({ world with session, wire } : World).Coming id := by
  rcases h with hopened | hrequests | hold | hsaid | hresponse
  · exact .inl hopened
  · exact .inr (.inl hrequests)
  · rcases hawaited hold with hnew | hnew
    · exact .inr (.inr (.inl hnew))
    · exact .inr (.inr (.inr (.inl hnew)))
  · exact .inr (.inr (.inr (.inl (hwords hsaid))))
  · exact .inr (.inr (.inr (.inr hresponse)))

theorem kept_take (h : Kept id world) {subscription rest : Subscription} {event : DomainEvent}
    {lagged : Bool} (hsession : world.session = .following subscription none)
    (htake : subscription.take = some (event, lagged, rest)) :
    Kept id { world with
      session := .following rest (some event)
      wire := if lagged then world.wire ++ [.resyncRequired] else world.wire } := by
  have htells : world.session.tells id = true →
      lagged = true ∨ (Session.following rest (some event)).tells id = true := by
    intro htells
    rw [hsession] at htells
    exact tells_take htake (by simpa [Session.tells] using htells)
  cases lagged with
  | true =>
      have hwords : words id (world.wire ++ [Frame.resyncRequired]) =
          words id world.wire ++ [none] := words_concat _ _
      refine ⟨by simp [Session.followed], .inr fun view hlast => ?_,
        .inr (.inr (.inr (.inr (.inl ?_))))⟩
      · rw [if_pos rfl, hwords, List.getLast?_concat] at hlast
        cases hlast
      · rw [if_pos rfl, hwords]
        simp
  | false =>
      have hawaited : world.awaited id = true → ({ world with
          session := .following rest (some event), wire := world.wire } : World).awaited id =
            true := by
        unfold World.awaited
        rw [Bool.and_eq_true, Bool.and_eq_true]
        exact fun hold => ⟨hold.1, (htells hold.2).resolve_left (by simp)⟩
      exact ⟨by simp [Session.followed], h.current.imp hawaited fun hlast => hlast,
        h.coming.imp_right fun hcoming =>
          Coming.wire hcoming (fun hold => .inl (hawaited hold)) fun hsaid => hsaid⟩

theorem kept_send (h : Kept id world) {subscription : Subscription} {event : DomainEvent}
    (now : Time) (hsession : world.session = .following subscription (some event)) :
    Kept id { world with
      session := .following subscription none
      wire := world.wire ++ [world.frame staleAfterSeconds now event] } := by
  have hwords : words id (world.wire ++ [world.frame staleAfterSeconds now event]) =
      words id world.wire ++
        (if about id event then (world.held id).map some else none).toList := by
    rw [words_concat, word_frame]
  cases htold : decide (about id event = true ∧ (world.held id).isSome) with
  | true =>
      obtain ⟨habout, hsome⟩ := of_decide_eq_true htold
      obtain ⟨view, hview⟩ := Option.isSome_iff_exists.mp hsome
      rw [if_pos habout, hview] at hwords
      refine ⟨by simp [Session.followed], .inr fun last hlast => ?_,
        .inr (.inr (.inr (.inr (.inl ?_))))⟩
      · have hlast' := hwords ▸ hlast
        rw [Option.map_some, Option.toList_some, List.getLast?_concat] at hlast'
        obtain rfl := Option.some.inj (Option.some.inj hlast')
        exact hview.symm
      · rw [hwords]
        simp
  | false =>
      -- The frame says nothing of the device.
      have hnot := of_decide_eq_false htold
      have hsame : words id (world.wire ++ [world.frame staleAfterSeconds now event]) =
          words id world.wire := by
        rw [hwords]
        by_cases habout : about id event = true
        · have hnone : world.held id = none := by
            by_contra hsome
            exact hnot ⟨habout, Option.isSome_iff_ne_none.mpr hsome⟩
          simp [hnone]
        · simp [habout]
      have hawaited : world.awaited id = true → ({ world with
          session := .following subscription none
          wire := world.wire ++ [world.frame staleAfterSeconds now event] } : World).awaited id =
            true := by
        unfold World.awaited
        rw [Bool.and_eq_true, Bool.and_eq_true, hsession]
        rintro ⟨hsome, htells⟩
        refine ⟨hsome, ?_⟩
        have habout : about id event = false := by
          by_contra habout
          exact hnot ⟨Bool.eq_true_of_not_eq_false habout, hsome⟩
        simpa [Session.tells, habout] using htells
      refine ⟨by simp [Session.followed], h.current.imp hawaited fun hlast view => ?_,
        h.coming.imp_right fun hcoming =>
          Coming.wire hcoming (fun hold => .inl (hawaited hold)) fun hsaid => ?_⟩
      · rw [hsame]
        exact hlast view
      · rw [hsame]
        exact hsaid

theorem kept_receive (h : Kept id world) {frame : Frame} {rest : List Frame}
    (hwire : world.wire = frame :: rest) :
    Kept id ({ world with wire := rest }.dispatch frame) := by
  have hwords : words id world.wire = (word id frame).toList ++ words id rest := by
    rw [hwire, words, List.filterMap_cons]
    cases word id frame <;> rfl
  have hunfollowed : world.session.followed = false → words id rest = [] := fun hfollowed =>
    (List.append_eq_nil_iff.mp (hwords ▸ h.unfollowed hfollowed)).2
  have hcurrent : world.awaited id = true ∨
      ∀ view, (words id rest).getLast? = some (some view) → some view = world.held id := by
    refine h.current.imp_right fun hlast view hview => hlast view ?_
    rw [hwords, List.getLast?_append, hview]
    rfl
  -- A frame that says nothing of the device leaves all that was coming.
  have hother : word id frame = none → world.Coming id →
      ({ world with wire := rest } : World).Coming id := by
    intro hnone hcoming
    have hsame : words id world.wire = words id rest := by simpa [hnone] using hwords
    exact Coming.wire hcoming .inl fun hsaid => hsame ▸ hsaid
  cases frame with
  | hello | ping => exact ⟨hunfollowed, hcurrent, h.coming.imp_right (hother rfl)⟩
  | resyncRequired =>
      exact ⟨hunfollowed, hcurrent, .inr (.inr (.inl (Nat.succ_ne_zero _)))⟩
  | event event found =>
      cases found with
      | none => exact ⟨hunfollowed, hcurrent, h.coming.imp_right (hother rfl)⟩
      | some device =>
          have hshown : (({ world with wire := rest }.dispatch
              (.event event (some device))).shown id) =
                if id = device.id then some device.view else world.shown id := by
            simp only [World.dispatch, World.shown, OrderedDict.get?_set]
            split <;> rfl
          refine ⟨hunfollowed, hcurrent, ?_⟩
          by_cases hid : device.id = id
          · rw [hshown, if_pos hid.symm]
            have hword : word id (.event event (some device)) = some (some device.view) :=
              if_pos hid
            rw [hword, Option.toList_some] at hwords
            by_cases hempty : words id rest = []
            · rcases h.current with hawaited | hlast
              · exact .inr (.inr (.inr (.inl hawaited)))
              · exact .inl (hlast device.view (by rw [hwords, hempty]; rfl))
            · exact .inr (.inr (.inr (.inr (.inl hempty))))
          · rw [hshown, if_neg (Ne.symm hid)]
            exact h.coming.imp_right (hother (if_neg hid))

theorem kept_answer (h : Kept id world) (now : Time) (requests : Nat) :
    Kept id { world with
      requests, responses := world.responses ++ [world.listDevices staleAfterSeconds now] } :=
  ⟨h.unfollowed, h.current, .inr (.inr (.inr (.inr (.inr
    ⟨_, List.mem_append_right _ (List.mem_singleton_self _), seen_listDevices now⟩))))⟩

theorem kept_request (h : Kept id world) (opened : Bool) :
    Kept id { world with opened, requests := world.requests + 1 } :=
  ⟨h.unfollowed, h.current, .inr (.inr (.inl (Nat.succ_ne_zero _)))⟩

-- A step of the handshake or a heartbeat says nothing of any device.
theorem kept_silent (h : Kept id world) {session : Session} {wire : List Frame}
    (htells : world.session.tells id = true → session.tells id = true)
    (hfollowed : session.followed = false → world.session.followed = false)
    (hwords : words id wire = words id world.wire) :
    Kept id { world with session, wire } := by
  have hawaited : world.awaited id = true →
      ({ world with session, wire } : World).awaited id = true := by
    unfold World.awaited
    rw [Bool.and_eq_true, Bool.and_eq_true]
    exact fun hold => ⟨hold.1, htells hold.2⟩
  refine ⟨fun hnot => hwords.trans (h.unfollowed (hfollowed hnot)),
    h.current.imp hawaited fun hlast view => ?_, h.coming.imp_right fun hcoming =>
      Coming.wire hcoming (fun hold => .inl (hawaited hold)) fun hsaid => ?_⟩
  · rw [hwords]
    exact hlast view
  · rw [hwords]
    exact hsaid

theorem kept_step {label : Label} (h : Kept id world) (hguard : Caught clock id world label)
    (hstep : world.step clock queueSize staleAfterSeconds label = some after) :
    Kept id after := by
  cases label with
  | ingest ref state source correlationId =>
      obtain rfl := Option.some.inj hstep
      exact kept_ingest h hguard
  | publish event =>
      obtain rfl := Option.some.inj hstep
      exact kept_silent h (session_tells_offers [event])
        (fun hnot => (followed_offers world.session [event]) ▸ hnot) rfl
  | accept =>
      simp only [World.step] at hstep
      split at hstep
      · rename_i hsession
        obtain rfl := Option.some.inj hstep
        exact kept_silent h (by simp [hsession, Session.tells])
          (fun _ => by simp [hsession, Session.followed]) rfl
      · cases hstep
  | greet =>
      simp only [World.step] at hstep
      split at hstep
      · rename_i hsession
        obtain rfl := Option.some.inj hstep
        refine kept_silent h (by simp [hsession, Session.tells])
          (fun _ => by simp [hsession, Session.followed]) ?_
        rw [words_concat]
        simp [word]
      · cases hstep
  | subscribe =>
      simp only [World.step] at hstep
      split at hstep
      · rename_i hsession
        obtain rfl := Option.some.inj hstep
        exact kept_silent h (by simp [hsession, Session.tells])
          (fun hnot => by cases hnot) rfl
      · cases hstep
  | take =>
      simp only [World.step] at hstep
      split at hstep
      · rename_i subscription hsession
        obtain ⟨⟨event, lagged, rest⟩, htake, rfl⟩ := Option.map_eq_some_iff.mp hstep
        exact kept_take h hsession htake
      · cases hstep
  | send now =>
      simp only [World.step] at hstep
      split at hstep
      · rename_i subscription event hsession
        obtain rfl := Option.some.inj hstep
        exact kept_send h now hsession
      · cases hstep
  | heartbeat =>
      simp only [World.step] at hstep
      split at hstep
      · obtain rfl := Option.some.inj hstep
        refine kept_silent h (fun hold => hold) (fun hnot => hnot) ?_
        rw [words_concat]
        simp [word]
      · cases hstep
  | onopen =>
      simp only [World.step] at hstep
      split at hstep
      · cases hstep
      · cases hstep
      · obtain rfl := Option.some.inj hstep
        exact kept_request h true
  | receive =>
      simp only [World.step] at hstep
      split at hstep
      · rename_i frame rest _ hwire
        obtain rfl := Option.some.inj hstep
        exact kept_receive h hwire
      · cases hstep
  | refetch =>
      obtain rfl := Option.some.inj hstep
      exact kept_request h world.opened
  | answer now =>
      simp only [World.step] at hstep
      split at hstep
      · cases hstep
      · rename_i requests _
        obtain rfl := Option.some.inj hstep
        exact kept_answer h now requests
  | deliver index =>
      obtain ⟨devices, hdevices, rfl⟩ := Option.map_eq_some_iff.mp hstep
      exact ⟨h.unfollowed, h.current, hguard devices hdevices⟩
  | drop =>
      obtain rfl := Option.some.inj hstep
      exact ⟨fun _ => rfl, .inr (by simp [words]), .inr (.inl rfl)⟩

theorem not_coming_of_settled (h : world.Settled) : ¬world.Coming id := by
  obtain ⟨hopened, hrequests, hresponses, hwire, hidle⟩ := h
  rintro (hclosed | hpending | hawaited | hsaid | ⟨devices, hmem, -⟩)
  · cases hopened.symm.trans hclosed
  · exact hpending hrequests
  · rw [World.awaited, Bool.and_eq_true, tells_of_idle hidle] at hawaited
    cases hawaited.2
  · exact hsaid (by rw [hwire]; rfl)
  · rw [hresponses] at hmem
    cases hmem

-- Once all is received, the client shows every device as the gateway holds it, if every
-- change was caught.
theorem shown_eq_held {service : DeviceService} {devices : OrderedDict Uuid DeviceResponse}
    {labels : List Label}
    (hrun : Machine.run (World.step clock queueSize staleAfterSeconds)
      (signedIn service devices) labels = some world)
    (hguard : Machine.Guarded (World.step clock queueSize staleAfterSeconds) (Caught clock id)
      (signedIn service devices) labels)
    (hsettled : world.Settled) : world.shown id = world.held id := by
  have hstart : Kept id (signedIn service devices) :=
    ⟨fun _ => rfl, .inr (by simp [words, signedIn]), .inr (.inl rfl)⟩
  have hkept : Kept id world := Machine.guarded_invariant hstart
    (fun _ _ _ hbefore hlabel hstep => kept_step hbefore hlabel hstep) hrun hguard
  exact hkept.coming.resolve_right (not_coming_of_settled hsettled)

instance (world : World) (id : Uuid) : Decidable (world.Coming id) := by
  unfold World.Coming
  infer_instance

instance (world : World) : Decidable world.Settled := by
  unfold World.Settled
  infer_instance

instance (world : World) (label : Label) : Decidable (Caught clock id world label) := by
  cases label <;> unfold Caught <;> infer_instance

def hallRef : ProviderDeviceRef := ⟨"home_assistant", "light.hall"⟩

def hallState (power : Bool) : ProviderState :=
  { state := { power := some power }, availability := .online, observedAt := 0 }

def hallService : DeviceService where
  registry := DeviceRegistry.empty.register (fun _ => 1) (fun _ => 0)
    { ref := hallRef, suggestedName := "Hall", kind := .light, capabilities := [.power] }
    (hallState false)

def hallSignedIn : World :=
  signedIn hallService (.ofValues (fun device => device.id)
    ((signedIn hallService .empty).listDevices 120 0))

def switchedOn : Label := .ingest hallRef (hallState true) .providerEvent none

-- The light is switched on between the answer and the subscription, or after both.
def switchedEarly : List Label :=
  [.accept, .greet, .onopen, .answer 0, switchedOn, .subscribe, .receive, .deliver 0]

def switchedLate : List Label :=
  [.accept, .greet, .subscribe, .onopen, .answer 0, switchedOn, .take, .deliver 0, .send 0,
    .receive, .receive]

theorem shown_eq_held_late :
    ∃ world, Machine.run (World.step (fun _ => 0) 256 120) hallSignedIn switchedLate =
        some world ∧ world.shown 1 = world.held 1 := by
  have hruns : (Machine.run (World.step (fun _ => 0) 256 120) hallSignedIn switchedLate).any
      (fun world => decide world.Settled) = true := by
    decide +kernel
  obtain ⟨world, hrun, hsettled⟩ := (Option.any_eq_true _ _).mp hruns
  exact ⟨world, hrun, shown_eq_held hrun (by decide +kernel) (of_decide_eq_true hsettled)⟩

-- The client goes on showing the light that was switched on before the subscription as off.
theorem change_before_following_missed :
    ¬ ∀ (clock : Nat → Time) (queueSize staleAfterSeconds : Nat) (service : DeviceService)
        (devices : OrderedDict Uuid DeviceResponse) (labels : List Label) (world : World),
      Machine.run (World.step clock queueSize staleAfterSeconds) (signedIn service devices)
        labels = some world → world.Settled →
      ∀ id, (world.devices.get? id).isSome → world.shown id = world.held id := by
  intro h
  have hruns : (Machine.run (World.step (fun _ => 0) 256 120) hallSignedIn switchedEarly).any
      (fun world => decide world.Settled &&
        ((world.devices.get? 1).isSome && decide (world.shown 1 ≠ world.held 1))) = true := by
    decide +kernel
  obtain ⟨world, hrun, hworld⟩ := (Option.any_eq_true _ _).mp hruns
  obtain ⟨hsettled, hdiffers⟩ := Bool.and_eq_true_iff.mp hworld
  obtain ⟨hknown, hdiffers⟩ := Bool.and_eq_true_iff.mp hdiffers
  exact of_decide_eq_true hdiffers
    (h _ _ _ _ _ _ world hrun (of_decide_eq_true hsettled) 1 hknown)

end Run

end Homeflow.Live
