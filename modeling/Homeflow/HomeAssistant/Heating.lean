import Homeflow.Devices.Bootstrap
import Homeflow.HomeAssistant.Mappers
import Homeflow.Lib.History

namespace Homeflow.HomeAssistant

section Entity

variable (entity : HaEntity)

-- The state of a climate entity that may be heating.
def HaEntity.Heats : Prop := entity.state = "heat" ∨ entity.state = "heat_cool"

-- An observation of it that says whether it heats. Off says nothing, and neither does a
-- temperature that no float can hold.
def HaEntity.TellsHeater : Prop :=
  ¬entity.Unreported ∧ entity.state ≠ "off" ∧ Normalisable entity .thermostat

-- One that should end the heating and leaves the heater as it was.
def HaEntity.LeavesHeater : Prop :=
  ¬entity.Unreported ∧ ¬entity.Heats ∧
    (entity.state = "off" ∨ ¬Normalisable entity .thermostat)

instance : Decidable entity.Unreported := inferInstanceAs (Decidable (_ ∨ _))

instance : Decidable entity.Heats := inferInstanceAs (Decidable (_ ∨ _))

end Entity

-- An observation of a climate entity, and how the gateway came by it.
structure Observation where
  entity : HaEntity
  observedAt : Time
  source : StateSource
  correlationId : Option String := none

-- None: normalise raises, and there is nothing to ingest.
def Observation.report (float : String → Option PyFloat) (observation : Observation) :
    Option ProviderState :=
  match normalise float observation.entity .thermostat with
  | .ok state => some {
      state
      availability := availability observation.entity
      observedAt := observation.observedAt }
  | .error _ => none

def observe (clock : Nat → Time) (float : String → Option PyFloat) (ref : ProviderDeviceRef)
    (service : DeviceService) (observation : Observation) : DeviceService :=
  match observation.report float with
  | some state => service.ingest clock ref state observation.source observation.correlationId
  | none => service

-- The heater as the registry holds it.
def heldHeater (service : DeviceService) (ref : ProviderDeviceRef) : Option Bool :=
  ((service.registry.idForRef ref).bind service.registry.get).bind fun device =>
    device.state.heater

-- The last observation of a kind is of an entity that heats.
def LastHeats (kind : HaEntity → Prop) (history : List Observation) : Prop :=
  ∃ last, History.Latest (fun seen => kind seen.entity) history last ∧ last.entity.Heats

-- Held as heating only if the last state that was reported at all is one of heating.
def ShownRightly (service : DeviceService) (ref : ProviderDeviceRef)
    (history : List Observation) : Prop :=
  heldHeater service ref = some true →
    LastHeats (fun entity => ¬entity.Unreported) history

-- So it is after each observation that follows the first.
def ShownThroughout (clock : Nat → Time) (float : String → Option PyFloat)
    (ref : ProviderDeviceRef) (start : DeviceService) (first : Observation)
    (observations : List Observation) : Prop :=
  ∀ handled rest, observations = handled ++ rest →
    ShownRightly (handled.foldl (observe clock float ref) start) ref (first :: handled)

-- No observation that leaves the heater as it was comes while the last to tell of it heats.
def NeverLeftHeating (history : List Observation) : Prop :=
  History.Always (fun before seen => seen.entity.LeavesHeater →
    ¬LastHeats HaEntity.TellsHeater before) history

section Histories

variable {history : List Observation} {seen : Observation}

theorem HaEntity.LeavesHeater.not_tells {entity : HaEntity} (h : entity.LeavesHeater) :
    ¬entity.TellsHeater := by
  rintro ⟨-, hon, hnormalisable⟩
  rcases h.2.2 with hoff | hlarge
  · exact hon hoff
  · exact hlarge hnormalisable

theorem lastHeats_concat_of_kind {kind : HaEntity → Prop} (hkind : kind seen.entity) :
    LastHeats kind (history ++ [seen]) ↔ seen.entity.Heats := by
  have hlatest : ∀ last, History.Latest (fun other => kind other.entity) (history ++ [seen]) last ↔
      last = seen := fun _ => History.latest_concat_of_kind hkind
  simp [LastHeats, hlatest]

theorem lastHeats_concat_of_not {kind : HaEntity → Prop} (hkind : ¬kind seen.entity) :
    LastHeats kind (history ++ [seen]) ↔ LastHeats kind history := by
  have hlatest : ∀ last, History.Latest (fun other => kind other.entity) (history ++ [seen]) last ↔
      History.Latest (fun other => kind other.entity) history last :=
    fun _ => History.latest_concat_of_not hkind
  simp [LastHeats, hlatest]

theorem not_lastHeats_nil {kind : HaEntity → Prop} : ¬LastHeats kind [] := by
  rintro ⟨last, hlast, -⟩
  exact History.not_latest_nil hlast

-- An entity that is reported, and neither heats nor tells so, leaves the heater.
theorem heats_of_not_leaves {entity : HaEntity} (hreported : ¬entity.Unreported)
    (htells : ¬entity.TellsHeater) (hleaves : ¬entity.LeavesHeater) : entity.Heats := by
  by_contra hcold
  refine htells ⟨hreported, fun hoff => ?_, ?_⟩
  · exact hleaves ⟨hreported, hcold, .inl hoff⟩
  · by_contra hlarge
    exact hleaves ⟨hreported, hcold, .inr hlarge⟩

-- What told of the heater last is what was reported last, in every part of such a history.
theorem neverLeftHeating_iff :
    (∀ before after, history = before ++ after → LastHeats HaEntity.TellsHeater before →
      LastHeats (fun entity => ¬entity.Unreported) before) ↔ NeverLeftHeating history := by
  constructor
  · intro hright before seen after hsplit hleaves htold
    have hshown := hright (before ++ [seen]) after (by simp [hsplit])
      ((lastHeats_concat_of_not hleaves.not_tells).mpr htold)
    exact hleaves.2.1 ((lastHeats_concat_of_kind hleaves.1).mp hshown)
  · intro hnever before
    induction before using List.reverseRecOn with
    | nil => exact fun _ _ hnone => absurd hnone not_lastHeats_nil
    | append_singleton before seen ih =>
        intro after hsplit htold
        have hearlier : history = before ++ seen :: after := by simp [hsplit]
        by_cases htells : seen.entity.TellsHeater
        · have hheats := (lastHeats_concat_of_kind htells).mp htold
          exact (lastHeats_concat_of_kind htells.1).mpr hheats
        · have hbefore := (lastHeats_concat_of_not htells).mp htold
          by_cases hunreported : seen.entity.Unreported
          · refine (lastHeats_concat_of_not (not_not.mpr hunreported)).mpr ?_
            exact ih (seen :: after) hearlier hbefore
          · refine (lastHeats_concat_of_kind hunreported).mpr ?_
            exact heats_of_not_leaves hunreported htells fun hleaves =>
              hnever before seen after hearlier hleaves hbefore

end Histories

section Heater

variable {clock : Nat → Time} {float : String → Option PyFloat} {entity : HaEntity}
  {state : DeviceState}

theorem normalise_heater (h : normalise float entity .thermostat = .ok state) :
    (entity.TellsHeater ∧ ∃ heats, state.heater = some heats ∧ (heats = true ↔ entity.Heats)) ∨
      (¬entity.TellsHeater ∧ state.heater = none) := by
  by_cases hunreported : entity.Unreported
  · have hstate : entity.state = UNAVAILABLE ∨ entity.state = UNKNOWN := hunreported
    simp only [normalise, if_pos hstate, Except.ok.injEq] at h
    exact .inr ⟨fun htells => htells.1 hunreported, h ▸ rfl⟩
  have hnormalisable : Normalisable entity .thermostat :=
    ((normalise_returns float entity .thermostat).mp ⟨state, h⟩).resolve_left hunreported
  have hstate : ¬(entity.state = UNAVAILABLE ∨ entity.state = UNKNOWN) := hunreported
  rw [normalise, if_neg hstate] at h
  obtain ⟨current, -, hrest⟩ := Except.bind_eq_ok.mp h
  obtain ⟨target, -, hstate⟩ := Except.bind_eq_ok.mp hrest
  obtain rfl := Except.pure_eq_ok.mp hstate
  by_cases hoff : entity.state = "off"
  · exact .inr ⟨fun htells => htells.2.1 hoff, if_pos hoff⟩
  · exact .inl ⟨⟨hunreported, hoff, hnormalisable⟩, _, if_neg hoff, decide_eq_true_iff⟩

-- The registry leads from the ref to a device with this heater.
def Holds (service : DeviceService) (ref : ProviderDeviceRef) (heater : Option Bool) : Prop :=
  ∃ id device, service.registry.idForRef ref = some id ∧ service.registry.get id = some device ∧
    device.state.heater = heater

theorem Holds.heldHeater {service : DeviceService} {ref : ProviderDeviceRef}
    {heater : Option Bool} (h : Holds service ref heater) : heldHeater service ref = heater := by
  obtain ⟨id, device, hid, hget, rfl⟩ := h
  rw [HomeAssistant.heldHeater, hid, Option.bind_some, hget, Option.bind_some]

theorem Holds.ingest {service : DeviceService} {ref : ProviderDeviceRef} {heater : Option Bool}
    (h : Holds service ref heater) (report : ProviderState) (source : StateSource)
    (correlationId : Option String) :
    Holds (service.ingest clock ref report source correlationId) ref
      (report.state.heater <|> heater) := by
  obtain ⟨id, device, hid, hget, rfl⟩ := h
  obtain ⟨hmerged, hrefs⟩ := DeviceService.ingest_merged clock service hid hget
  refine ⟨id, _, (congrFun (congrArg OrderedDict.get? hrefs) ref).trans hid, hmerged, ?_⟩
  rw [DeviceRegistry.merged, DeviceState.mergedWith, DeviceService.withDerived_heater]

-- An observation that tells of the heater sets it, and any other leaves it.
theorem Holds.observe {service : DeviceService} {ref : ProviderDeviceRef} {heater : Option Bool}
    (h : Holds service ref heater) (seen : Observation) :
    ∃ after, Holds (observe clock float ref service seen) ref after ∧
      ((seen.entity.TellsHeater ∧ (after = some true ↔ seen.entity.Heats)) ∨
        (¬seen.entity.TellsHeater ∧ after = heater)) := by
  unfold HomeAssistant.observe Observation.report
  cases hnormal : normalise float seen.entity .thermostat with
  | error error =>
      refine ⟨heater, h, .inr ⟨fun htells => ?_, rfl⟩⟩
      obtain ⟨state, hstate⟩ :=
        (normalise_returns float seen.entity .thermostat).mpr (.inr htells.2.2)
      cases hnormal.symm.trans hstate
  | ok state =>
      refine ⟨_, h.ingest _ seen.source seen.correlationId, ?_⟩
      rcases normalise_heater hnormal with ⟨htells, heats, hheater, hheats⟩ | ⟨hsilent, hheater⟩
      · refine .inl ⟨htells, ?_⟩
        simp [hheater, hheats]
      · exact .inr ⟨hsilent, by simp [hheater]⟩

variable {deviceUuid : ProviderDeviceRef → Uuid} {roomUuid : String → Uuid}

-- The device enters the registry with what was seen of it first.
theorem holds_discovered (service : DeviceService) (device : ProviderDevice)
    (snapshot : ProviderState) :
    Holds (service.discovered clock deviceUuid roomUuid device snapshot) device.ref
      snapshot.state.heater :=
  ⟨deviceUuid device.ref, _, OrderedDict.get?_set_self _ _ _, OrderedDict.get?_set_self _ _ _,
    rfl⟩

-- What is held is what the last observation to tell of the heater said.
theorem holds_observed (service : DeviceService) (device : ProviderDevice) {first : Observation}
    {snapshot : ProviderState} (hfirst : first.report float = some snapshot)
    (handled : List Observation) :
    ∃ heater, Holds (handled.foldl (observe clock float device.ref)
        (service.discovered clock deviceUuid roomUuid device snapshot)) device.ref heater ∧
      (heater = some true ↔ LastHeats HaEntity.TellsHeater (first :: handled)) := by
  induction handled using List.reverseRecOn with
  | nil =>
      refine ⟨snapshot.state.heater, holds_discovered service device snapshot, ?_⟩
      have hstate : normalise float first.entity .thermostat = .ok snapshot.state := by
        unfold Observation.report at hfirst
        split at hfirst
        · next state hnormal =>
          obtain rfl := Option.some.inj hfirst
          exact hnormal
        · cases hfirst
      rcases normalise_heater hstate with ⟨htells, heats, hheater, hheats⟩ | ⟨hsilent, hheater⟩
      · rw [hheater, Option.some.injEq, hheats]
        exact (@lastHeats_concat_of_kind [] first _ htells).symm
      · rw [hheater]
        refine iff_of_false (Option.some_ne_none true).symm fun htold => ?_
        exact not_lastHeats_nil ((@lastHeats_concat_of_not [] first _ hsilent).mp htold)
  | append_singleton handled seen ih =>
      obtain ⟨heater, hholds, hheater⟩ := ih
      obtain ⟨after, hafter, hstep⟩ := hholds.observe seen
      rw [List.foldl_concat]
      refine ⟨after, hafter, ?_⟩
      rw [← List.cons_append]
      rcases hstep with ⟨htells, hheats⟩ | ⟨hsilent, rfl⟩
      · exact hheats.trans (lastHeats_concat_of_kind htells).symm
      · exact hheater.trans (lastHeats_concat_of_not hsilent).symm

end Heater

-- A thermostat is shown as heating only while it may be, in exactly the histories that never
-- go from heating straight to an observation that leaves the heater as it was.
theorem shown_rightly_iff (clock : Nat → Time) (float : String → Option PyFloat)
    (deviceUuid : ProviderDeviceRef → Uuid) (roomUuid : String → Uuid) (service : DeviceService)
    (device : ProviderDevice) (first : Observation) (snapshot : ProviderState)
    (hfirst : first.report float = some snapshot) (observations : List Observation) :
    ShownThroughout clock float device.ref
        (service.discovered clock deviceUuid roomUuid device snapshot) first observations ↔
      NeverLeftHeating (first :: observations) := by
  rw [← neverLeftHeating_iff]
  constructor
  · intro hshown before after hsplit htold
    cases before with
    | nil => exact absurd htold not_lastHeats_nil
    | cons head handled =>
        obtain ⟨rfl, hrest⟩ := List.cons.inj hsplit
        obtain ⟨heater, hholds, hheater⟩ := holds_observed service device hfirst handled
        exact hshown handled after hrest (hholds.heldHeater.trans (hheater.mpr htold))
  · intro hright handled rest hsplit hheld
    obtain ⟨heater, hholds, hheater⟩ := holds_observed service device hfirst handled
    refine hright (first :: handled) rest (by rw [hsplit, List.cons_append]) (hheater.mp ?_)
    exact hholds.heldHeater.symm.trans hheld

def roomIn (state : String) (hstate : state.length ≤ 255) : Observation where
  entity :=
    { entityId := "climate.room", state, entityId_bounds := by decide
      entityId_pattern := by decide, state_le := hstate }
  observedAt := 0
  source := .providerEvent

def heatingRoom : Observation := roomIn "heat" (by decide)
def coolingRoom : Observation := roomIn "cool" (by decide)
def unreachableRoom : Observation := roomIn "unavailable" (by decide)

theorem off_length_le : "off".length ≤ 255 := by decide

def offRoom : Observation := roomIn "off" off_length_le

def radiator : ProviderDevice where
  ref := refFor "climate.room"
  suggestedName := "Room"
  kind := .thermostat
  capabilities := [.currentTemperature]

def heatingSnapshot : ProviderState where
  state := { heater := some true }
  availability := .online
  observedAt := 0

-- The radiator as it is registered while the room is heated.
def heatedHome : DeviceService :=
  DeviceService.discovered (fun _ => 0) (fun _ => 0) (fun _ => 0) { registry := .empty } radiator
    heatingSnapshot

theorem heatingRoom_report : heatingRoom.report (fun _ => none) = some heatingSnapshot := by
  have hstate : normalise (fun _ => none) heatingRoom.entity .thermostat =
      .ok { heater := some true } := by decide
  rw [Observation.report, hstate]
  rfl

-- The room is cooled, and then cannot be reached, before it is switched off.
theorem shown_rightly_iff_cooled :
    ShownThroughout (fun _ => 0) (fun _ => none) radiator.ref heatedHome heatingRoom
      [coolingRoom, unreachableRoom, offRoom] := by
  have htells : coolingRoom.entity.TellsHeater := by
    refine ⟨by decide, by decide, ?_, ?_⟩ <;>
      simp [HaEntity.Fits, coolingRoom, roomIn, Json.member?]
  have hcool : ¬LastHeats HaEntity.TellsHeater [heatingRoom, coolingRoom] := by
    intro htold
    have hheats := (@lastHeats_concat_of_kind [heatingRoom] coolingRoom _ htells).mp htold
    exact absurd hheats (by decide)
  have hunreported : unreachableRoom.entity.Unreported := .inl rfl
  have hsilent : ¬unreachableRoom.entity.TellsHeater := fun htold => htold.1 hunreported
  refine (shown_rightly_iff (fun _ => 0) (fun _ => none) (fun _ => 0) (fun _ => 0)
    { registry := .empty } radiator heatingRoom heatingSnapshot heatingRoom_report
    [coolingRoom, unreachableRoom, offRoom]).mpr ?_
  have hnever : NeverLeftHeating ([] ++ [heatingRoom]) :=
    History.always_nil.concat fun _ => not_lastHeats_nil
  have hcooled := hnever.concat fun hleaves => absurd htells hleaves.not_tells
  have hunreachable := hcooled.concat fun hleaves => absurd hunreported hleaves.1
  exact hunreachable.concat fun _ htold =>
    hcool ((@lastHeats_concat_of_not [heatingRoom, coolingRoom] unreachableRoom _ hsilent).mp htold)

-- The room is heated and switched off, and still shown as heated.
theorem switched_off_shown_heating :
    ∃ snapshot, heatingRoom.report (fun _ => none) = some snapshot ∧
      heatedHome = DeviceService.discovered (fun _ => 0) (fun _ => 0) (fun _ => 0)
        { registry := .empty } radiator snapshot ∧
      ¬ShownThroughout (fun _ => 0) (fun _ => none) radiator.ref heatedHome heatingRoom
        [offRoom] := by
  refine ⟨heatingSnapshot, heatingRoom_report, rfl, fun hright => ?_⟩
  have hoff : normalise (fun _ => none) offRoom.entity .thermostat = .ok {} := by decide
  have hheld : heldHeater (observe (fun _ => 0) (fun _ => none) radiator.ref heatedHome offRoom)
      radiator.ref = some true := by
    rw [observe, Observation.report, hoff]
    decide +kernel
  have hlast := hright [offRoom] [] rfl hheld
  have hreported : ¬offRoom.entity.Unreported := by decide
  have hheats := (@lastHeats_concat_of_kind [heatingRoom] offRoom
    (fun entity => ¬entity.Unreported) hreported).mp hlast
  exact absurd hheats (by decide)

end Homeflow.HomeAssistant
