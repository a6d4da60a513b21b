import Homeflow.HomeAssistant.Current

namespace Homeflow.HomeAssistant

variable {clock : Nat → Time} {float : String → Option PyFloat} {kind : DeviceKind}
  {entityId : String}

section Run

variable {world after : World}

-- The whole map arrives.
theorem kept_deliver {exchange : Exchange} (h : Kept float kind entityId world)
    (hphase : world.phase = .requesting) (hresponse : world.response = some exchange) :
    Kept float kind entityId (world.deliver clock float exchange) := by
  obtain ⟨hkind, hcurrent⟩ := h
  simp only [Current, hphase] at hcurrent
  obtain ⟨hsocket, hsubscription, hanswered, hexchange⟩ := hcurrent
  obtain ⟨home, contentLength, rfl, hget⟩ := hexchange exchange hresponse
  unfold World.deliver
  cases hstates : states (.answered ⟨200, contentLength,
      .json (.arr (home.entries.map fun entry => stateObject entry.1 entry.2))⟩) with
  | error error => exact ⟨hkind, trivial⟩
  | ok entities =>
      obtain rfl := states_answered hstates
      dsimp only
      split
      · rename_i stream hoffers
        obtain ⟨hprovider, hseen, -⟩ := offers_snapshot home.nodup hkind hoffers
        refine ⟨?_, hsubscription, hanswered, Reflects.tracks ?_, ?_⟩
        · dsimp only
          rw [hprovider]
          exact hkind
        · dsimp only
          rw [← hget]
          intro members entity hheld
          exact hseen members ((OrderedDict.get?_eq_some_iff _ _ _).mp hheld) members entity rfl
        · simp [hsocket]
      · rename_i stream error hoffers
        have hprovider : stream.provider = world.stream.provider := by
          rw [← offers_provider world.stream, hoffers]
        exact ⟨by rw [hprovider]; exact hkind, trivial⟩

-- A change is handled: what the entity was believed to be is what the frame says.
theorem kept_event {commandId : Int} {other : String} {newState : Option Members}
    {rest : List Frame} {entity : HaEntity} {stream : Stream}
    (h : Kept float kind entityId world) (hphase : world.phase = .following)
    (hsocket : world.socket = .event commandId other newState :: rest)
    (hentity : eventEntity (Frame.event commandId other newState).members = some entity)
    (hoffer : world.stream.offer clock float entity = .ok stream) :
    Kept float kind entityId { world with socket := rest, stream } := by
  obtain ⟨hkind, hcurrent⟩ := h
  simp only [Current, hphase] at hcurrent
  obtain ⟨hanswered, hsubscription, believed, hreflects, hheld⟩ := hcurrent
  rw [eventEntity_event] at hentity
  obtain ⟨members, rfl, hvalid⟩ := Option.bind_eq_some_iff.mp hentity
  have hid := validate_stateObject hvalid
  refine ⟨by rw [offer_provider hoffer]; exact hkind, ?_⟩
  simp only [Current, hphase]
  refine ⟨hanswered, hsubscription, ?_⟩
  rw [hsocket] at hheld
  by_cases he : other = entityId
  · subst he
    rw [pending_event_same, List.getLastD_cons] at hheld
    refine ⟨some members, ?_, hheld⟩
    rintro found again ⟨rfl⟩ hagain
    obtain rfl := Option.some.inj (hvalid.symm.trans hagain)
    have hsame : world.stream.provider.kinds.get? entity.entityId = some kind := by
      rw [hid]
      exact hkind
    have hlast := offer_same hsame hoffer
    rwa [hid] at hlast
  · rw [pending_event_other commandId (some members) rest he] at hheld
    refine ⟨believed, ?_, hheld⟩
    rw [offer_other hoffer (by rw [hid]; exact he)]
    exact hreflects

-- A frame that yields nothing tells nothing either.
theorem kept_ignored {frame : Frame} {rest : List Frame} (h : Kept float kind entityId world)
    (hphase : world.phase = .following) (hsocket : world.socket = frame :: rest)
    (hentity : eventEntity frame.members = none) :
    Kept float kind entityId { world with socket := rest } := by
  obtain ⟨hkind, hcurrent⟩ := h
  simp only [Current, hphase] at hcurrent
  obtain ⟨hanswered, hsubscription, believed, hreflects, hheld⟩ := hcurrent
  refine ⟨hkind, ?_⟩
  simp only [Current, hphase]
  refine ⟨hanswered, hsubscription, ?_⟩
  rw [hsocket] at hheld
  cases frame with
  | event commandId other newState =>
      by_cases he : other = entityId
      · subst he
        rw [pending_event_same, List.getLastD_cons] at hheld
        refine ⟨newState, ?_, hheld⟩
        rintro members entity rfl hvalid
        rw [eventEntity_event] at hentity
        cases hentity.symm.trans hvalid
      · rw [pending_event_other commandId newState rest he] at hheld
        exact ⟨believed, hreflects, hheld⟩
  | authRequired | authOk | result => exact ⟨believed, hreflects, hheld⟩

theorem kept_waiting {commandId : Int} {frame : Frame} {rest : List Frame}
    (h : Kept float kind entityId world) (hphase : world.phase = .waiting commandId)
    (hsocket : world.socket = frame :: rest)
    (hreceive : { world with socket := rest }.receive clock float frame.members = some after) :
    Kept float kind entityId after := by
  obtain ⟨hkind, hcurrent⟩ := h
  simp only [Current, hphase] at hcurrent
  obtain ⟨hserved, hcurrent⟩ := hcurrent
  -- A frame about another entity is skipped.
  have hskip : Elsewhere entityId frame → after = { world with socket := rest } := by
    rintro ⟨served, other, newState, rfl, -⟩
    simp only [World.receive, hphase] at hreceive
    rw [if_pos (by rw [Bool.or_eq_true]; exact .inr rfl)] at hreceive
    rw [hphase]
    exact (Option.some.inj hreceive).symm
  cases hanswered : world.answered with
  | false =>
      simp only [hanswered, Bool.false_eq_true, if_false, hsocket] at hcurrent
      obtain ⟨hskipped, htracks⟩ := hcurrent
      obtain rfl := hskip (hskipped frame List.mem_cons_self)
      refine ⟨hkind, ?_⟩
      simp only [Current, hphase, hanswered, Bool.false_eq_true, if_false]
      exact ⟨hserved, fun other hother => hskipped other (List.mem_cons_of_mem _ hother), htracks⟩
  | true =>
      simp only [hanswered, if_true] at hcurrent
      obtain ⟨skipped, success, behind, hframes, hskipped, htracks⟩ := hcurrent
      rw [hsocket] at hframes
      cases skipped with
      | cons first skipped =>
          obtain ⟨rfl, rfl⟩ := List.cons.inj hframes
          obtain rfl := hskip (hskipped frame List.mem_cons_self)
          refine ⟨hkind, ?_⟩
          simp only [Current, hphase, hanswered, if_true]
          exact ⟨hserved, skipped, success, behind, rfl,
            fun other hother => hskipped other (List.mem_cons_of_mem _ hother), htracks⟩
      | nil =>
          obtain ⟨rfl, rfl⟩ := List.cons.inj hframes
          have hmine : (!Json.eqInt (some (.int commandId)) commandId ||
              !Json.eqStr (some (.str "result")) "result") = false := by
            simp [Json.eqInt, Json.eqStr]
          simp only [World.receive, hphase] at hreceive
          rw [if_neg (by rw [Bool.not_eq_true]; exact hmine)] at hreceive
          cases success with
          | true =>
              obtain rfl := Option.some.inj hreceive
              obtain ⟨hsubscription, htracks⟩ := htracks rfl
              exact ⟨hkind, hanswered, hsubscription, htracks⟩
          | false =>
              obtain rfl := Option.some.inj hreceive
              exact ⟨hkind, trivial⟩

theorem kept_receive {frame : Frame} {rest : List Frame} (h : Kept float kind entityId world)
    (hsocket : world.socket = frame :: rest)
    (hreceive : { world with socket := rest }.receive clock float frame.members = some after) :
    Kept float kind entityId after := by
  cases hphase : world.phase with
  | requesting | failed => simp [World.receive, hphase] at hreceive
  | connecting | authenticating =>
      obtain ⟨hkind, hcurrent⟩ := h
      simp only [Current, hphase] at hcurrent
      obtain ⟨hsubscription, hanswered, htracks, hlength⟩ := hcurrent
      obtain rfl : rest = [] := by
        rw [hsocket, List.length_cons] at hlength
        exact List.eq_nil_of_length_eq_zero (by omega)
      simp only [World.receive, hphase] at hreceive
      split at hreceive
      · obtain rfl := Option.some.inj hreceive
        refine ⟨hkind, ?_⟩
        simp only [Current, hanswered, Bool.false_eq_true, if_false]
        refine ⟨?_, ?_⟩ <;> simp_all
      · obtain rfl := Option.some.inj hreceive
        exact ⟨hkind, trivial⟩
  | waiting commandId => exact kept_waiting h hphase hsocket hreceive
  | following =>
      simp only [World.receive, hphase] at hreceive
      split at hreceive
      · rename_i hentity
        have hkept := kept_ignored h hphase hsocket hentity
        rw [hphase] at hkept
        obtain rfl := Option.some.inj hreceive
        exact hkept
      · rename_i entity hentity
        split at hreceive
        · rename_i stream hoffer
          obtain rfl := Option.some.inj hreceive
          cases frame with
          | event =>
              have hkept := kept_event h hphase hsocket hentity hoffer
              rw [hphase] at hkept
              exact hkept
          | authRequired | authOk | result => cases hentity
        · obtain rfl := Option.some.inj hreceive
          exact ⟨h.discovered, trivial⟩

theorem kept_step {label : Label} (h : Kept float kind entityId world)
    (hguard : ChangesWatched entityId world label)
    (hstep : world.step clock float label = some after) : Kept float kind entityId after := by
  obtain ⟨hkind, hcurrent⟩ := h
  cases label with
  | change other newState =>
      obtain rfl := Option.some.inj hstep
      exact ⟨hkind, current_change hcurrent other newState hguard⟩
  | answer contentLength =>
      simp only [World.step] at hstep
      split at hstep
      · rename_i henabled
        obtain rfl := Option.some.inj hstep
        simp only [Current, henabled.1] at hcurrent
        obtain ⟨hsocket, hsubscription, hanswered, -⟩ := hcurrent
        refine ⟨hkind, ?_⟩
        simp only [Current, henabled.1]
        refine ⟨hsocket, hsubscription, hanswered, fun exchange hexchange => ?_⟩
        obtain rfl := Option.some.inj hexchange
        exact ⟨world.home, contentLength, rfl, rfl⟩
      · cases hstep
  | deliver =>
      simp only [World.step] at hstep
      split at hstep
      · rename_i exchange hphase hresponse
        obtain rfl := Option.some.inj hstep
        exact kept_deliver ⟨hkind, hcurrent⟩ hphase hresponse
      · cases hstep
  | greet | authenticate =>
      simp only [World.step] at hstep
      split at hstep
      · rename_i henabled
        obtain rfl := Option.some.inj hstep
        simp only [Current, henabled.1] at hcurrent
        obtain ⟨hsubscription, hanswered, htracks, -⟩ := hcurrent
        refine ⟨hkind, ?_⟩
        simp only [Current, henabled.1]
        exact ⟨hsubscription, hanswered, htracks, le_rfl⟩
      · cases hstep
  | process =>
      simp only [World.step] at hstep
      split at hstep
      · rename_i commandId hphase _ hanswered
        obtain rfl := Option.some.inj hstep
        simp only [Current, hphase, hanswered] at hcurrent
        refine ⟨hkind, ?_⟩
        simp only [Current, hphase, hanswered]
        exact ⟨fun served hserved => (Option.some.inj hserved).symm, hcurrent.2⟩
      · cases hstep
  | result =>
      simp only [World.step] at hstep
      split at hstep
      · rename_i served hsubscription hanswered
        obtain rfl := Option.some.inj hstep
        refine ⟨hkind, ?_⟩
        unfold Current at hcurrent ⊢
        dsimp only
        cases hphase : world.phase with
        | failed => trivial
        | requesting | connecting | authenticating =>
            simp [hphase, hsubscription] at hcurrent
        | following => simp [hphase, hanswered] at hcurrent
        | waiting commandId =>
            simp only [hphase, hanswered, Bool.false_eq_true, if_false] at hcurrent
            obtain ⟨hserved, hskipped, htracks⟩ := hcurrent
            obtain rfl := hserved served hsubscription
            refine ⟨hserved, ?_⟩
            rw [if_pos rfl]
            exact ⟨world.socket, true, [], rfl, hskipped,
              fun _ => ⟨by simp [hsubscription], htracks⟩⟩
      · cases hstep
  | refuse =>
      simp only [World.step] at hstep
      split at hstep
      · rename_i commandId hphase hsubscription hanswered
        obtain rfl := Option.some.inj hstep
        simp only [Current, hphase, hanswered, Bool.false_eq_true, if_false] at hcurrent
        obtain ⟨hserved, hskipped, -⟩ := hcurrent
        refine ⟨hkind, ?_⟩
        simp only [Current, hphase, if_true]
        exact ⟨hserved, world.socket, false, [], rfl, hskipped, nofun⟩
      · cases hstep
  | receive =>
      simp only [World.step] at hstep
      split at hstep
      · rename_i frame rest hsocket
        exact kept_receive ⟨hkind, hcurrent⟩ hsocket hstep
      · cases hstep
  | fail =>
      obtain rfl := Option.some.inj hstep
      exact ⟨hkind, trivial⟩

-- As long as an entity does not change between the reading of the map and the result of
-- the subscription, what was yielded last for it is what the instance holds.
theorem last_yielded_reflects {home : OrderedDict String Members}
    {provider : HomeAssistantProvider} {service : DeviceService} {commandId : Int}
    {labels : List Label} (hkind : provider.kinds.get? entityId = some kind)
    (hrun : Machine.run (World.step clock float) (opened home provider service commandId) labels =
      some world)
    (hguard : Machine.Guarded (World.step clock float) (ChangesWatched entityId)
      (opened home provider service commandId) labels)
    (hsettled : Settled world) :
    Reflects float kind entityId (world.home.get? entityId) (world.stream.last entityId) := by
  have hstart : Kept float kind entityId (opened home provider service commandId) :=
    ⟨hkind, rfl, rfl, rfl, nofun⟩
  have hkept : Kept float kind entityId world := Machine.guarded_invariant hstart
    (fun _ _ _ hbefore hlabel hstep => kept_step hbefore hlabel hstep) hrun hguard
  have hcurrent := hkept.current
  simp only [Current, hsettled.1, hsettled.2] at hcurrent
  exact hcurrent.2.2.reflects

instance (entityId : String) (world : World) (label : Label) :
    Decidable (ChangesWatched entityId world label) := by
  cases label <;> unfold ChangesWatched <;> infer_instance

def hall (state : String) : Members := [("state", .str state)]

def hallProvider : HomeAssistantProvider := { kinds := .set .empty "light.hall" .light }

def hallOpened : World :=
  opened (.set .empty "light.hall" (hall "off")) hallProvider { registry := .empty } 3

-- The light is switched on after the subscription is answered, or while the token is checked.
def switchedLate : List Label :=
  [.answer 100, .deliver, .greet, .receive, .authenticate, .receive, .process, .result, .receive,
    .change "light.hall" (some (hall "on")), .receive]

def switchedEarly : List Label :=
  [.answer 100, .deliver, .greet, .receive, .authenticate,
    .change "light.hall" (some (hall "on")), .receive, .process, .result, .receive]

theorem last_yielded_reflects_late :
    ∃ world, Machine.run (World.step (fun _ => 0) fun _ => none) hallOpened switchedLate =
        some world ∧
      Reflects (fun _ => none) .light "light.hall" (world.home.get? "light.hall")
        (world.stream.last "light.hall") := by
  have hruns : (Machine.run (World.step (fun _ => 0) fun _ => none) hallOpened switchedLate).any
      (fun world => decide (world.phase = .following) && world.socket.isEmpty) = true := by
    decide +kernel
  obtain ⟨world, hrun, hworld⟩ := (Option.any_eq_true _ _).mp hruns
  obtain ⟨hphase, hsocket⟩ := Bool.and_eq_true_iff.mp hworld
  refine ⟨world, hrun, last_yielded_reflects rfl hrun (by decide +kernel)
    ⟨of_decide_eq_true hphase, ?_⟩⟩
  exact List.isEmpty_iff.mp hsocket

def readsOn (members : Members) : Bool :=
  (HaEntity.validate (stateObject "light.hall" members)).any fun entity =>
    match normalise (fun _ => none) entity .light with
    | .ok state => state.power = some true
    | .error _ => false

def seenOff (seen : ProviderState) : Bool := seen.state.power = some false

theorem not_reflects_of_off {held : Option Members} {seen : Option ProviderState}
    (hheld : held.any readsOn = true) (hseen : seen.any seenOff = true) :
    ¬Reflects (fun _ => none) .light "light.hall" held seen := by
  obtain ⟨members, hmembers, hreads⟩ := (Option.any_eq_true _ _).mp hheld
  obtain ⟨entity, hvalid, hon⟩ := (Option.any_eq_true _ _).mp hreads
  obtain ⟨state, hstate, hoff⟩ := (Option.any_eq_true _ _).mp hseen
  intro hreflects
  obtain ⟨yielded, hyielded, hnormalise, -⟩ := hreflects members entity hmembers hvalid
  obtain rfl := Option.some.inj (hyielded.symm.trans hstate)
  rw [hnormalise] at hon
  cases (of_decide_eq_true hoff).symm.trans (of_decide_eq_true hon)

-- The light that was switched on while the token was checked stays off in the gateway.
theorem change_before_subscription_lost :
    ¬ ∀ (clock : Nat → Time) (float : String → Option PyFloat) (home : OrderedDict String Members)
        (provider : HomeAssistantProvider) (service : DeviceService) (commandId : Int)
        (labels : List Label) (world : World),
      Machine.run (World.step clock float) (opened home provider service commandId) labels =
        some world → Settled world →
      ∀ entityId kind, provider.kinds.get? entityId = some kind →
        Reflects float kind entityId (world.home.get? entityId) (world.stream.last entityId) := by
  intro h
  have hruns : (Machine.run (World.step (fun _ => 0) fun _ => none) hallOpened switchedEarly).any
      (fun world => (decide (world.phase = .following) && world.socket.isEmpty) &&
        ((world.home.get? "light.hall").any readsOn &&
          (world.stream.last "light.hall").any seenOff)) = true := by
    decide +kernel
  obtain ⟨world, hrun, hworld⟩ := (Option.any_eq_true _ _).mp hruns
  obtain ⟨hsettled, hdiffers⟩ := Bool.and_eq_true_iff.mp hworld
  obtain ⟨hphase, hsocket⟩ := Bool.and_eq_true_iff.mp hsettled
  obtain ⟨hheld, hseen⟩ := Bool.and_eq_true_iff.mp hdiffers
  exact not_reflects_of_off hheld hseen (h _ _ _ _ _ _ _ world hrun
    ⟨of_decide_eq_true hphase, List.isEmpty_iff.mp hsocket⟩ "light.hall" .light rfl)

end Run

end Homeflow.HomeAssistant
