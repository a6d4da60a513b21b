import Homeflow.HomeAssistant.Mappers
import Homeflow.HomeAssistant.Offers

namespace Homeflow.HomeAssistant

-- A state whose percentages are in their range and whose temperatures are numbers.
structure Sound (state : DeviceState) : Prop where
  brightness : ∀ percentage, state.brightness = some percentage →
    0 ≤ percentage.val ∧ percentage.val ≤ 100
  volume : ∀ percentage, state.volume = some percentage →
    0 ≤ percentage.val ∧ percentage.val ≤ 100
  current : ∀ celsius, state.currentTemperatureC = some celsius → celsius.IsFinite
  target : ∀ celsius, state.targetTemperatureC = some celsius → celsius.IsFinite

variable (float : String → Option PyFloat) (entity : HaEntity)

-- Describing the entity and normalising it as the kind it is given raise nothing, and
-- the state is sound. The availability of an entity never raises.
def Contained : Prop :=
  ∃ described, describe entity = .ok described ∧
    ∀ mapping, described = some mapping →
      ∃ state, normalise float entity mapping.kind = .ok state ∧ Sound state

-- A sensor's state is no number, or a finite one.
def ReadsFinite : Prop := ∀ celsius, float entity.state = some celsius → celsius.IsFinite

-- The entities that do no harm, by the domain and what is read of the attributes there.
def Tame : Prop :=
  match entity.domain with
  | "light" | "switch" => entity.Unreported ∨ entity.InScale "brightness" brightnessShare
  | "media_player" => entity.Unreported ∨ entity.InScale "volume_level" volumeShare
  | "climate" => entity.ClimateFits
  | "sensor" =>
      Json.member? entity.attributes "device_class" = some (.str "temperature") →
        entity.Unreported ∨ ReadsFinite float entity
  | _ => True

variable {float entity}

-- The percentages carry their range.
theorem sound_iff_finite {state : DeviceState} : Sound state ↔
    (∀ celsius, state.currentTemperatureC = some celsius → celsius.IsFinite) ∧
      ∀ celsius, state.targetTemperatureC = some celsius → celsius.IsFinite :=
  ⟨fun h => ⟨h.current, h.target⟩, fun h =>
    ⟨fun percentage _ => percentage.property, fun percentage _ => percentage.property, h.1, h.2⟩⟩

theorem isFinite_of_map {value : Option ℚ} (celsius : PyFloat)
    (h : value.map PyFloat.finite = some celsius) : celsius.IsFinite := by
  obtain ⟨number, -, rfl⟩ := Option.map_eq_some_iff.mp h
  exact ⟨number, rfl⟩

-- Of the readings only a sensor's can come to a special value.
theorem sound_iff {kind : DeviceKind} {state : DeviceState}
    (h : normalise float entity kind = .ok state) :
    Sound state ↔ (kind = .sensor → entity.Unreported ∨ ReadsFinite float entity) := by
  rw [sound_iff_finite]
  unfold normalise at h
  split at h
  · next hunreported =>
    cases h
    exact ⟨fun _ _ => .inl hunreported, fun _ => ⟨by simp, by simp⟩⟩
  · next hunreported =>
    have hreported : ¬ entity.Unreported := hunreported
    cases kind with
    | light | switch | mediaPlayer =>
        simp only [Except.bind_eq_ok, Except.pure_eq_ok] at h
        obtain ⟨_, -, percentage, -, rfl⟩ := h
        simp
    | thermostat =>
        simp only [Except.bind_eq_ok, Except.pure_eq_ok] at h
        obtain ⟨current, -, target, -, rfl⟩ := h
        exact ⟨fun _ hkind => by simp at hkind, fun _ => ⟨isFinite_of_map, isFinite_of_map⟩⟩
    | sensor =>
        cases h
        simp [hreported, ReadsFinite]
    | _ =>
        cases h
        simp

-- What is left to ask for once the kind is known.
theorem normalises_soundly_iff {kind : DeviceKind} :
    (∃ state, normalise float entity kind = .ok state ∧ Sound state) ↔
      entity.Unreported ∨
        (Normalisable entity kind ∧ (kind = .sensor → ReadsFinite float entity)) := by
  have hreturns := normalise_returns float entity kind
  constructor
  · rintro ⟨state, hstate, hsound⟩
    have hsensor := (sound_iff hstate).mp hsound
    have hread := hreturns.mp ⟨state, hstate⟩
    tauto
  · intro h
    obtain ⟨state, hstate⟩ := hreturns.mpr (h.imp_right And.left)
    refine ⟨state, hstate, (sound_iff hstate).mpr fun hkind => ?_⟩
    exact h.imp_right fun hsensible => hsensible.2 hkind

section Domains

-- What containment comes to behind the mapper.
variable (float entity) in
def Absorbed (described : Option Mapping) : Prop :=
  ∀ mapping, described = some mapping →
    ∃ state, normalise float entity mapping.kind = .ok state ∧ Sound state

theorem absorbed_some {mapping : Mapping} : Absorbed float entity (some mapping) ↔
    entity.Unreported ∨
      (Normalisable entity mapping.kind ∧
        (mapping.kind = .sensor → ReadsFinite float entity)) := by
  rw [← normalises_soundly_iff]
  simp [Absorbed]

-- A climate entity has been asked for everything when it is described.
theorem absorbed_climate : (∃ described, (climate entity).map some = .ok described ∧
    Absorbed float entity described) ↔ entity.ClimateFits := by
  rw [← climate_returns]
  rcases hclimate : climate entity with error | mapping
  · simp [Except.map]
  · have hfits := (climate_returns entity).mp ⟨mapping, hclimate⟩
    have hkind := (climate_mapping entity hclimate).1
    have habsorbed : Absorbed float entity (some mapping) := by
      rw [absorbed_some, hkind]
      exact .inr ⟨⟨hfits.1, hfits.2.2.2.1⟩, by simp⟩
    simp [Except.map, habsorbed]

theorem absorbed_sensor : Absorbed float entity (sensor entity) ↔
    (Json.member? entity.attributes "device_class" = some (.str "temperature") →
      entity.Unreported ∨ ReadsFinite float entity) := by
  by_cases hclass : Json.member? entity.attributes "device_class" = some (.str "temperature")
  · simp [sensor, hclass, absorbed_some, Normalisable]
  · have hsensor : sensor entity = none := by
      unfold sensor
      split
      · next h => exact absurd h hclass
      · rfl
    simp [hsensor, hclass, Absorbed]

end Domains

theorem contained_iff : Contained float entity ↔ Tame float entity := by
  have hok (described : Option Mapping) :
      (∃ found, (Except.ok described : Except EntityError _) = .ok found ∧
        Absorbed float entity found) ↔ Absorbed float entity described := by
    simp
  change (∃ described, describe entity = .ok described ∧ Absorbed float entity described) ↔ _
  unfold Tame describe
  split
  · next hdomain =>
    rw [hok, absorbed_some]
    simp [hdomain, light, Normalisable]
  · next hdomain =>
    rw [hok, absorbed_some]
    simp [hdomain, switch, Normalisable]
  · next hdomain =>
    rw [hok, absorbed_some]
    simp [hdomain, mediaPlayer, Normalisable]
  · next hdomain =>
    rw [hok, absorbed_some]
    simp [hdomain, lock, Normalisable]
  · next hdomain =>
    rw [absorbed_climate]
    simp [hdomain]
  · next hdomain =>
    rw [hok, absorbed_sensor]
    simp [hdomain]
  · rw [hok]
    simp_all [Absorbed]

section Streaming

variable {clock : Nat → Time} {stream : Stream}

theorem snapshot_returns (provider : HomeAssistantProvider) (now : Time) {kind : DeviceKind}
    (hkind : provider.kinds.get? entity.entityId = some kind) :
    (∃ state, provider.snapshot float entity now = .ok state) ↔
      (entity.Unreported ∨ Normalisable entity kind) := by
  rw [← normalise_returns float]
  simp only [HomeAssistantProvider.snapshot, hkind, Option.getD_some, Except.bind_eq_ok,
    Except.pure_eq_ok]
  constructor
  · rintro ⟨_, state, hstate, -⟩
    exact ⟨state, hstate⟩
  · rintro ⟨state, hstate⟩
    exact ⟨_, state, hstate, rfl⟩

-- An entity is passed over, taken, or ends the stream.
theorem offer_returns : (∃ next, stream.offer clock float entity = .ok next) ↔
    ∀ kind, stream.provider.kinds.get? entity.entityId = some kind →
      entity.Unreported ∨ Normalisable entity kind := by
  unfold Stream.offer
  split
  · next hnone => simp [hnone]
  · next kind hkind =>
    have hreturns := @snapshot_returns float entity stream.provider
      (clock stream.service.reads) kind hkind
    simp only [hkind, Option.some.injEq, forall_eq']
    rw [← hreturns]
    rcases stream.provider.snapshot float entity (clock stream.service.reads) with _ | state
    · simp
    · simp

-- The stream goes through a list of entities unless one of them ends it.
theorem offers_complete (entities : List HaEntity) :
    (stream.offers clock float entities).2 = none ↔
      ∀ entity ∈ entities, ∀ kind, stream.provider.kinds.get? entity.entityId = some kind →
        entity.Unreported ∨ Normalisable entity kind := by
  induction entities generalizing stream with
  | nil => simp [Stream.offers]
  | cons entity rest ih =>
      have hreturns := @offer_returns float entity clock stream
      rw [Stream.offers, List.forall_mem_cons, ← hreturns]
      cases hoffer : stream.offer clock float entity with
      | error error => simp
      | ok next => simp [ih, offer_provider hoffer]

end Streaming

-- Normalisation stands every entity that is tame, and no other, and the stream goes on
-- exactly as long as each entity can be normalised as the kind that discovery gave it.
theorem contained_iff_tame (float : String → Option PyFloat) :
    (∀ entity, Contained float entity ↔ Tame float entity) ∧
      ∀ (clock : Nat → Time) (stream : Stream) (entities : List HaEntity),
        (stream.offers clock float entities).2 = none ↔
          ∀ entity ∈ entities, ∀ kind, stream.provider.kinds.get? entity.entityId = some kind →
            entity.Unreported ∨ Normalisable entity kind :=
  ⟨fun _ => contained_iff, fun _ _ => offers_complete⟩

-- A lamp that reports a brightness of three hundred.
def brightLamp : HaEntity where
  entityId := "light.lamp"
  state := "on"
  attributes := [("brightness", .int 300)]
  entityId_bounds := by decide
  entityId_pattern := by decide
  state_le := by decide

theorem percent_brightLamp :
    percent (some (brightnessShare (PyFloat.toDouble 300))) = .error .validation := by
  decide +kernel

-- Its brightness comes to 118 percent, which the canonical state does not take.
theorem brightLamp_not_contained :
    ¬∃ float : String → Option PyFloat, ∀ entity, Contained float entity := by
  rintro ⟨float, hall⟩
  obtain ⟨described, hdescribed, habsorbed⟩ := hall brightLamp
  have hlight : describe brightLamp = .ok (some (light brightLamp)) := rfl
  cases hlight.symm.trans hdescribed
  obtain ⟨state, hstate, -⟩ := habsorbed _ rfl
  have hfits : brightLamp.Fits "brightness" := by
    intro value hvalue
    cases (by simpa [brightLamp, Json.member?] using hvalue : 300 = value)
    decide +kernel
  have hnumber := HaEntity.number_of_fits hfits
  simp only [normalise, light] at hstate
  rw [if_neg (by simp [brightLamp, UNAVAILABLE, UNKNOWN])] at hstate
  simp only [hnumber, Except.bind_eq_ok] at hstate
  obtain ⟨number, hread, percentage, hpercent, -⟩ := hstate
  cases hread
  exact absurd (percent_brightLamp.symm.trans hpercent) (by simp)

end Homeflow.HomeAssistant
