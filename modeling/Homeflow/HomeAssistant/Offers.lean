import Homeflow.HomeAssistant.Stream

namespace Homeflow.HomeAssistant

variable {clock : Nat → Time} {float : String → Option PyFloat} {kind : DeviceKind}
  {entityId : String}

-- What was seen last is what the instance holds, if that makes sense as an entity.
def Reflects (float : String → Option PyFloat) (kind : DeviceKind) (entityId : String)
    (held : Option Members) (seen : Option ProviderState) : Prop :=
  ∀ members entity, held = some members →
    HaEntity.validate (stateObject entityId members) = some entity →
    ∃ state, seen = some state ∧ normalise float entity kind = .ok state.state ∧
      state.availability = availability entity

-- All that was sent is consumed.
def Settled (world : World) : Prop := world.phase = .following ∧ world.socket = []

-- The entity does not change while its state was read and nobody watches it.
def ChangesWatched (entityId : String) (world : World) : Label → Prop
  | .change other _ => other = entityId → world.unwatched = false
  | _ => True

section Entities

def entityOf (entry : String × Members) : Option HaEntity :=
  HaEntity.validate (stateObject entry.1 entry.2)

theorem validate_stateObject {members : Members} {entity : HaEntity}
    (h : HaEntity.validate (stateObject entityId members) = some entity) :
    entity.entityId = entityId := by
  simp only [stateObject, HaEntity.validate] at h
  have hid : Json.member? (("entity_id", .str entityId) :: members) "entity_id" =
      some (.str entityId) := rfl
  rw [hid] at h
  split at h
  · rename_i found state attributes hfound _ _
    cases hfound
    split at h
    · cases h
      rfl
    · cases h
  · cases h

theorem eventEntity_event (commandId : Int) (other : String) (newState : Option Members) :
    eventEntity (Frame.event commandId other newState).members =
      newState.bind fun members => HaEntity.validate (stateObject other members) := by
  cases newState <;> rfl

theorem states_answered {home : OrderedDict String Members} {contentLength : Nat}
    {entities : List HaEntity}
    (h : states (.answered ⟨200, contentLength,
      .json (.arr (home.entries.map fun entry => stateObject entry.1 entry.2))⟩) = .ok entities) :
    entities = home.entries.filterMap entityOf := by
  unfold states request at h
  split at h
  · cases h
  · rename_i items hitems
    simp only [show ¬(200 = 401 ∨ 200 = 403) by omega, show ¬(200 = 400) by omega,
      show ¬(200 ≥ 400) by omega, if_false] at hitems
    split at hitems
    · cases hitems
    · split at hitems
      · cases hitems
      · cases hitems
        unfold parseEntities at h
        dsimp only at h
        split at h
        · cases h
        · cases h
          rw [List.filterMap_map]
          rfl
  · cases h

end Entities

section Offers

variable {stream after : Stream} {entity : HaEntity}

theorem offer_provider (h : stream.offer clock float entity = .ok after) :
    after.provider = stream.provider := by
  unfold Stream.offer at h
  split at h
  · cases h
    rfl
  · split at h
    · cases h
    · cases h
      rfl

theorem offers_provider (stream : Stream) (entities : List HaEntity) :
    (stream.offers clock float entities).1.provider = stream.provider := by
  induction entities generalizing stream with
  | nil => rfl
  | cons entity rest ih =>
      simp only [Stream.offers]
      split
      · rename_i next hnext
        exact (ih next).trans (offer_provider hnext)
      · rfl

theorem offer_other (h : stream.offer clock float entity = .ok after)
    (hne : entity.entityId ≠ entityId) : after.last entityId = stream.last entityId := by
  unfold Stream.offer at h
  split at h
  · cases h
    rfl
  · split at h
    · cases h
    · cases h
      have href : refFor entity.entityId ≠ refFor entityId := fun he =>
        hne (congrArg ProviderDeviceRef.providerDeviceId he)
      simp [Stream.last, Journal.latest_concat, href]

theorem offer_same (hkind : stream.provider.kinds.get? entity.entityId = some kind)
    (h : stream.offer clock float entity = .ok after) :
    ∃ state, after.last entity.entityId = some state ∧
      normalise float entity kind = .ok state.state ∧ state.availability = availability entity := by
  unfold Stream.offer at h
  rw [hkind] at h
  dsimp only at h
  split at h
  · cases h
  · rename_i state hstate
    cases h
    refine ⟨state, by simp [Stream.last, Journal.latest_concat], ?_⟩
    unfold HomeAssistantProvider.snapshot at hstate
    rw [hkind, Option.getD_some] at hstate
    cases hnormalise : normalise float entity kind with
    | error error => simp [hnormalise, bind, Except.bind] at hstate
    | ok reading =>
        simp only [hnormalise, bind, Except.bind, pure, Except.pure, Except.ok.injEq] at hstate
        cases hstate
        exact ⟨rfl, rfl⟩

-- One state object after the other: the last one of an entity is what was seen last.
theorem offers_snapshot {entries : List (String × Members)}
    (hnodup : (entries.map Prod.fst).Nodup)
    (hkind : stream.provider.kinds.get? entityId = some kind)
    (h : stream.offers clock float (entries.filterMap entityOf) = (after, none)) :
    after.provider = stream.provider ∧
      (∀ members, (entityId, members) ∈ entries →
        Reflects float kind entityId (some members) (after.last entityId)) ∧
      (entityId ∉ entries.map Prod.fst → after.last entityId = stream.last entityId) := by
  induction entries generalizing stream with
  | nil =>
      cases h
      exact ⟨rfl, by simp, fun _ => rfl⟩
  | cons entry rest ih =>
      obtain ⟨hfirst, hrest⟩ := List.nodup_cons.mp hnodup
      cases hvalid : entityOf entry with
      | none =>
          rw [List.filterMap_cons_none hvalid] at h
          obtain ⟨hprovider, hseen, hkept⟩ := ih hrest hkind h
          refine ⟨hprovider, fun members hmem => ?_, fun hnot => ?_⟩
          · rcases List.mem_cons.mp hmem with rfl | hmem
            · rintro found entity ⟨rfl⟩ hfound
              cases hvalid.symm.trans hfound
            · exact hseen members hmem
          · exact hkept fun hmem => hnot (List.mem_cons_of_mem _ hmem)
      | some entity =>
          have hid := validate_stateObject hvalid
          rw [List.filterMap_cons_some hvalid] at h
          simp only [Stream.offers] at h
          split at h
          · rename_i next hnext
            have hkinds : next.provider.kinds.get? entityId = some kind := by
              rw [offer_provider hnext]
              exact hkind
            obtain ⟨hprovider, hseen, hkept⟩ := ih hrest hkinds h
            refine ⟨hprovider.trans (offer_provider hnext), fun members hmem => ?_, fun hnot => ?_⟩
            · rcases List.mem_cons.mp hmem with rfl | hmem
              · rintro found other ⟨rfl⟩ hfound
                obtain rfl := Option.some.inj (hvalid.symm.trans hfound)
                have hsame : stream.provider.kinds.get? entity.entityId = some kind := by
                  rw [hid]
                  exact hkind
                have hlast := offer_same hsame hnext
                rw [hid] at hlast
                rw [hkept hfirst]
                exact hlast
              · exact hseen members hmem
            · have hne : entity.entityId ≠ entityId := by
                rintro rfl
                exact hnot (List.mem_cons.mpr (.inl hid))
              rw [hkept fun hmem => hnot (List.mem_cons_of_mem _ hmem), offer_other hnext hne]
          · cases h

end Offers

end Homeflow.HomeAssistant
