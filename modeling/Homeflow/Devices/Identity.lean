import Homeflow.Api.Deps
import Homeflow.Devices.Registry
import Mathlib.Data.Nat.Digits.Defs

-- Which public identifier stands for which device.
namespace Homeflow.Identity

-- The keyed digest of a message, as far as an identifier keeps it, and str.casefold.
variable (digest : String → String → Uuid) (casefold : String → String) (salt : String)

def deriveUuid (parts : List String) : Uuid := digest salt ("\x00".intercalate parts)

def deviceUuid (provider providerDeviceId : String) : Uuid :=
  deriveUuid digest salt ["device", provider, providerDeviceId]

def roomUuid (roomName : String) : Uuid :=
  deriveUuid digest salt ["room", casefold (Api.strip roomName)]

-- A call of the registry.
inductive Call where
  | register (providerDevice : ProviderDevice) (state : ProviderState)
  | apply (deviceId : Uuid) (state : DeviceState) (availability : Availability)
      (observedAt : Time) (source : StateSource)

-- A device that is not found changes nothing.
def call (registry : DeviceRegistry) : Call → DeviceRegistry
  | .register providerDevice state =>
      registry.register (fun ref => deviceUuid digest salt ref.provider ref.providerDeviceId)
        (roomUuid digest casefold salt) providerDevice state
  | .apply deviceId state availability observedAt source =>
      match registry.apply deviceId state availability observedAt source with
      | none => registry
      | some (applied, _) => applied

def afterCalls (calls : List Call) : DeviceRegistry :=
  calls.foldl (call digest casefold salt) .empty

-- A provider's name has no separator in it.
def Named (ref : ProviderDeviceRef) : Prop := '\x00' ∉ ref.provider.toList

def Call.Named : Call → Prop
  | .register providerDevice _ => Identity.Named providerDevice.ref
  | .apply .. => True

section Messages

variable {digest casefold salt}

-- What comes before the first separator is the same in equal messages.
theorem parts_inj {first second rest other : List Char} (hfirst : '\x00' ∉ first)
    (hsecond : '\x00' ∉ second) (h : first ++ '\x00' :: rest = second ++ '\x00' :: other) :
    first = second ∧ rest = other := by
  induction first generalizing second with
  | nil =>
      cases second with
      | nil => exact ⟨rfl, (List.cons.inj h).2⟩
      | cons char second =>
          obtain rfl : '\x00' = char := (List.cons.inj h).1
          exact absurd List.mem_cons_self hsecond
  | cons char first ih =>
      cases second with
      | nil =>
          obtain rfl : char = '\x00' := (List.cons.inj h).1
          exact absurd List.mem_cons_self hfirst
      | cons head second =>
          obtain ⟨rfl, hrest⟩ := List.cons.inj h
          obtain ⟨rfl, hother⟩ := ih (fun hmem => hfirst (List.mem_cons_of_mem _ hmem))
            (fun hmem => hsecond (List.mem_cons_of_mem _ hmem)) hrest
          exact ⟨rfl, hother⟩

theorem message_device (provider providerDeviceId : String) :
    ("\x00".intercalate ["device", provider, providerDeviceId]).toList =
      "device".toList ++ '\x00' :: (provider.toList ++ '\x00' :: providerDeviceId.toList) := by
  simp

theorem message_room (name : String) :
    ("\x00".intercalate ["room", name]).toList = "room".toList ++ '\x00' :: name.toList := by
  simp

variable (hdigest : Function.Injective (digest salt))
include hdigest

theorem deviceUuid_inj {first second : ProviderDeviceRef} (hfirst : Named first)
    (hsecond : Named second)
    (h : deviceUuid digest salt first.provider first.providerDeviceId =
      deviceUuid digest salt second.provider second.providerDeviceId) : first = second := by
  have hmessage := congrArg String.toList (hdigest h)
  rw [message_device, message_device] at hmessage
  obtain ⟨hprovider, hid⟩ := parts_inj hfirst hsecond
    (List.cons.inj (List.append_cancel_left hmessage)).2
  obtain ⟨provider, providerDeviceId⟩ := first
  rw [String.toList_inj] at hprovider hid
  exact congrArg₂ ProviderDeviceRef.mk hprovider hid

theorem deviceUuid_ne_roomUuid (ref : ProviderDeviceRef) (roomName : String) :
    deviceUuid digest salt ref.provider ref.providerDeviceId ≠
      roomUuid digest casefold salt roomName := by
  intro h
  have hmessage := congrArg String.toList (hdigest h)
  rw [message_device, message_room] at hmessage
  exact absurd (parts_inj (by decide) (by decide) hmessage).1 (by decide)

end Messages

section Calls

-- The id under which the registry files what a reference names.
def idOf (ref : ProviderDeviceRef) : Uuid :=
  deviceUuid digest salt ref.provider ref.providerDeviceId

-- The three tables lead to each other, and every identifier is derived.
structure Exact (registry : DeviceRegistry) : Prop where
  derived : ∀ ref id, registry.idForRef ref = some id → Named ref ∧ id = idOf digest salt ref
  ref_iff : ∀ ref id, registry.refFor id = some ref ↔ registry.idForRef ref = some id
  held_iff : ∀ id, (registry.get id).isSome ↔ (registry.refFor id).isSome
  rooms : ∀ id device, registry.get id = some device → ∀ roomId, device.roomId = some roomId →
    ∃ roomName, roomId = roomUuid digest casefold salt roomName

variable {digest casefold salt} {registry : DeviceRegistry}

theorem exact_empty : Exact digest casefold salt .empty where
  derived := by simp [DeviceRegistry.idForRef, DeviceRegistry.empty]
  ref_iff := by simp [DeviceRegistry.idForRef, DeviceRegistry.refFor, DeviceRegistry.empty]
  held_iff := by simp [DeviceRegistry.get, DeviceRegistry.refFor, DeviceRegistry.empty]
  rooms := by simp [DeviceRegistry.get, DeviceRegistry.empty]

theorem registered_room {ref : ProviderDeviceRef → Uuid} {room : String → Uuid}
    {providerDevice : ProviderDevice} {state : ProviderState} {roomId : Uuid}
    (h : (DeviceRegistry.registered ref room providerDevice state).roomId = some roomId) :
    ∃ roomName, roomId = room roomName := by
  unfold DeviceRegistry.registered at h
  dsimp only at h
  split at h
  · next roomName _ =>
    split at h
    · cases h
    · exact ⟨roomName, (Option.some.inj h).symm⟩
  · cases h

theorem Exact.register (hdigest : Function.Injective (digest salt))
    (h : Exact digest casefold salt registry) {providerDevice : ProviderDevice}
    (hnamed : Named providerDevice.ref) (state : ProviderState) :
    Exact digest casefold salt
      (call digest casefold salt registry (.register providerDevice state)) := by
  have hids : ∀ ref, (call digest casefold salt registry (.register providerDevice state)).idForRef
      ref = if ref = providerDevice.ref then some (idOf digest salt providerDevice.ref)
        else registry.idForRef ref := fun ref => OrderedDict.get?_set _ _ _ _
  have hrefs : ∀ id, (call digest casefold salt registry (.register providerDevice state)).refFor
      id = if id = idOf digest salt providerDevice.ref then some providerDevice.ref
        else registry.refFor id := fun id => OrderedDict.get?_set _ _ _ _
  have hheld : ∀ id, (call digest casefold salt registry (.register providerDevice state)).get
      id = if id = idOf digest salt providerDevice.ref then
          some (DeviceRegistry.registered (fun ref => idOf digest salt ref)
            (roomUuid digest casefold salt) providerDevice state)
        else registry.get id := fun id => OrderedDict.get?_set _ _ _ _
  refine ⟨fun ref id hid => ?_, fun ref id => ?_, fun id => ?_, fun id device hget => ?_⟩
  · rw [hids] at hid
    split at hid
    · next hsame => exact ⟨hsame ▸ hnamed, hsame ▸ (Option.some.inj hid).symm⟩
    · exact h.derived ref id hid
  · rw [hrefs, hids]
    by_cases hid : id = idOf digest salt providerDevice.ref
    · by_cases hsame : ref = providerDevice.ref
      · simp [hid, hsame]
      · rw [if_pos hid, if_neg hsame]
        refine iff_of_false (fun heq => hsame (Option.some.inj heq).symm) fun hother => hsame ?_
        obtain ⟨hother, hderived⟩ := h.derived ref id hother
        exact deviceUuid_inj hdigest hother hnamed (hderived.symm.trans hid)
    · rw [if_neg hid]
      by_cases hsame : ref = providerDevice.ref
      · rw [if_pos hsame, hsame]
        refine iff_of_false (fun hother => hid ?_) fun heq => hid (Option.some.inj heq).symm
        exact (h.derived _ id ((h.ref_iff _ id).mp hother)).2
      · rw [if_neg hsame]
        exact h.ref_iff ref id
  · rw [hheld, hrefs]
    split
    · simp
    · exact h.held_iff id
  · rw [hheld] at hget
    split at hget
    · obtain rfl := Option.some.inj hget
      exact fun roomId hroom => registered_room hroom
    · exact h.rooms id device hget

theorem Exact.apply (h : Exact digest casefold salt registry) (deviceId : Uuid)
    (state : DeviceState) (availability : Availability) (observedAt : Time)
    (source : StateSource) : Exact digest casefold salt
      (call digest casefold salt registry
        (.apply deviceId state availability observedAt source)) := by
  rw [call]
  split
  · exact h
  · next applied updated happly =>
    obtain ⟨current, hcurrent, rfl, hget, hrefs, hids⟩ := DeviceRegistry.apply_eq_some happly
    have hrefFor : applied.refFor = registry.refFor := by
      unfold DeviceRegistry.refFor
      rw [hrefs]
    have hidFor : applied.idForRef = registry.idForRef := by
      unfold DeviceRegistry.idForRef
      rw [hids]
    refine ⟨hidFor ▸ h.derived, hidFor ▸ hrefFor ▸ h.ref_iff, fun id => ?_, fun id device hid => ?_⟩
    · rw [hget, hrefFor, ← h.held_iff id]
      split
      · next hsame => simp [hsame, hcurrent]
      · rfl
    · rw [hget] at hid
      split at hid
      · obtain rfl := Option.some.inj hid
        exact h.rooms deviceId current hcurrent
      · exact h.rooms id device hid

theorem exact_afterCalls (hdigest : Function.Injective (digest salt)) {calls : List Call}
    (hnamed : ∀ call ∈ calls, call.Named) :
    Exact digest casefold salt (afterCalls digest casefold salt calls) := by
  induction calls using List.reverseRecOn with
  | nil => exact exact_empty
  | append_singleton calls last ih =>
      have hbefore := ih fun call hcall => hnamed call (List.mem_append_left _ hcall)
      have hlast := hnamed last (List.mem_append_right _ List.mem_cons_self)
      rw [afterCalls, List.foldl_concat]
      cases last with
      | register providerDevice state => exact hbefore.register hdigest hlast state
      | apply deviceId state availability observedAt source =>
          exact hbefore.apply deviceId state availability observedAt source

-- What has been registered stays registered, under the same identifier.
theorem registered_afterCalls {calls : List Call} {providerDevice : ProviderDevice}
    {state : ProviderState} (h : .register providerDevice state ∈ calls) :
    (afterCalls digest casefold salt calls).idForRef providerDevice.ref =
      some (idOf digest salt providerDevice.ref) := by
  induction calls using List.reverseRecOn with
  | nil => cases h
  | append_singleton calls last ih =>
      rw [afterCalls, List.foldl_concat]
      rcases List.mem_append.mp h with hbefore | hlast
      · have hheld := ih hbefore
        cases last with
        | register other observed =>
            refine (OrderedDict.get?_set _ _ _ _).trans ?_
            split
            · next hsame => rw [hsame]; rfl
            · exact hheld
        | apply deviceId reported availability observedAt source =>
            rw [call]
            split
            · exact hheld
            · next applied updated happly =>
              obtain ⟨_, _, _, _, _, hids⟩ := DeviceRegistry.apply_eq_some happly
              rw [DeviceRegistry.idForRef, hids]
              exact hheld
      · obtain rfl := List.mem_singleton.mp hlast
        exact OrderedDict.get?_set_self _ _ _

-- No two references share an identifier, no identifier is that of a room, the tables lead
-- to each other, and what is reported of one device changes no other.
structure Separate (registry : DeviceRegistry) : Prop where
  unshared : ∀ first second id, registry.idForRef first = some id →
    registry.idForRef second = some id → first = second
  apart : ∀ id device other held, registry.get id = some device →
    registry.get other = some held → held.roomId ≠ some id
  inverse : ∀ ref id, registry.idForRef ref = some id → registry.refFor id = some ref
  held_iff : ∀ id, (registry.get id).isSome ↔ (registry.refFor id).isSome
  ref_iff : ∀ ref id, registry.refFor id = some ref ↔ registry.idForRef ref = some id
  frame : ∀ deviceId state availability observedAt source after updated,
    registry.apply deviceId state availability observedAt source = some (after, updated) →
      (∀ other, other ≠ deviceId → after.get other = registry.get other) ∧
        after.refFor = registry.refFor ∧ after.idForRef = registry.idForRef

theorem Exact.separate (hdigest : Function.Injective (digest salt))
    (h : Exact digest casefold salt registry) : Separate registry where
  unshared first second id hfirst hsecond := by
    have hrefs := ((h.ref_iff first id).mpr hfirst).symm.trans ((h.ref_iff second id).mpr hsecond)
    exact Option.some.inj hrefs
  apart id device other held hdevice hheld hroom := by
    obtain ⟨ref, href⟩ := Option.isSome_iff_exists.mp
      ((h.held_iff id).mp (Option.isSome_iff_exists.mpr ⟨device, hdevice⟩))
    obtain ⟨-, hid⟩ := h.derived ref id ((h.ref_iff ref id).mp href)
    obtain ⟨roomName, hname⟩ := h.rooms other held hheld id hroom
    exact deviceUuid_ne_roomUuid hdigest ref roomName (hid.symm.trans hname)
  inverse ref id hid := (h.ref_iff ref id).mpr hid
  held_iff := h.held_iff
  ref_iff := h.ref_iff
  frame deviceId state availability observedAt source after updated happly := by
    obtain ⟨current, -, -, hget, hrefs, hids⟩ := DeviceRegistry.apply_eq_some happly
    refine ⟨fun other hother => (hget other).trans (if_neg hother), ?_, ?_⟩
    · unfold DeviceRegistry.refFor
      rw [hrefs]
    · unfold DeviceRegistry.idForRef
      rw [hids]

theorem identity_exact (hdigest : Function.Injective (digest salt)) :
    (∀ first second, Named first → Named second → first ≠ second →
      idOf digest salt first ≠ idOf digest salt second) ∧
    (∀ ref roomName, idOf digest salt ref ≠ roomUuid digest casefold salt roomName) ∧
    ∀ calls : List Call, (∀ call ∈ calls, call.Named) →
      Separate (afterCalls digest casefold salt calls) ∧
      ∀ providerDevice state, .register providerDevice state ∈ calls →
        ∃ id, (afterCalls digest casefold salt calls).idForRef providerDevice.ref = some id ∧
          (afterCalls digest casefold salt calls).refFor id = some providerDevice.ref := by
  refine ⟨fun first second hfirst hsecond hne hsame => ?_,
    deviceUuid_ne_roomUuid hdigest, fun calls hnamed => ?_⟩
  · exact hne (deviceUuid_inj hdigest hfirst hsecond hsame)
  · have hexact := @exact_afterCalls digest casefold salt hdigest calls hnamed
    refine ⟨hexact.separate hdigest, fun providerDevice state hmem => ?_⟩
    have hid := @registered_afterCalls digest casefold salt calls providerDevice state hmem
    exact ⟨_, hid, (hexact.ref_iff _ _).mpr hid⟩

end Calls

-- A digest that keeps the whole message: its characters are the digits of a number.
def spelled (_salt message : String) : Uuid :=
  Nat.ofDigits (2 ^ 21) (message.toList.map fun symbol => symbol.toNat + 1)

theorem digits_spelled (salt message : String) :
    Nat.digits (2 ^ 21) (spelled salt message) =
      message.toList.map fun symbol => symbol.toNat + 1 := by
  refine Nat.digits_ofDigits (2 ^ 21) (by norm_num) _ (fun digit hdigit => ?_) fun hne => ?_
  · obtain ⟨symbol, -, rfl⟩ := List.mem_map.mp hdigit
    have hsymbol : symbol.toNat < 0x110000 :=
      symbol.valid.elim (fun hlow => hlow.trans (by decide)) And.right
    omega
  · obtain ⟨symbol, -, hlast⟩ := List.mem_map.mp (List.getLast_mem hne)
    omega

theorem spelled_injective (salt : String) : Function.Injective (spelled salt) := by
  intro first second h
  have hcodes := (digits_spelled salt first).symm.trans (h ▸ digits_spelled salt second)
  have hcode : Function.Injective fun symbol : Char => symbol.toNat + 1 :=
    fun _ _ hsame => Char.toNat_inj.mp (Nat.succ_injective hsame)
  exact String.toList_inj.mp (List.map_injective_iff.mpr hcode hcodes)

def lamp : ProviderDevice where
  ref := ⟨"demo", "lamp\x00hall"⟩
  suggestedName := "Lamp"
  kind := .light
  capabilities := [.power]
  roomHint := some "Hall"

def plug : ProviderDevice where
  ref := ⟨"demo", "plug"⟩
  suggestedName := "Plug"
  kind := .switch
  capabilities := [.power]
  roomHint := some "Hall"

-- Two devices of one room. The lamp is heard of once it is registered, something else never is.
def lampCalls : List Call :=
  [.register lamp ⟨{}, .online, 0⟩, .register plug ⟨{}, .online, 0⟩,
    .apply (idOf spelled "salt" lamp.ref) { power := some true } .online 1 .providerEvent,
    .apply 7 {} .online 1 .providerEvent, .register lamp ⟨{}, .offline, 2⟩]

theorem lampCalls_named : ∀ call ∈ lampCalls, call.Named := by
  have hlamp : Named lamp.ref := by
    unfold Named
    decide
  have hplug : Named plug.ref := by
    unfold Named
    decide
  simp only [lampCalls, List.forall_mem_cons]
  exact ⟨hlamp, hplug, trivial, trivial, hlamp, by simp⟩

theorem identity_exact_lamp : idOf spelled "salt" lamp.ref ≠ idOf spelled "salt" plug.ref ∧
    Separate (afterCalls spelled id "salt" lampCalls) ∧
    ∀ providerDevice ∈ [lamp, plug],
      ∃ found, (afterCalls spelled id "salt" lampCalls).idForRef providerDevice.ref = some found ∧
        (afterCalls spelled id "salt" lampCalls).refFor found = some providerDevice.ref := by
  obtain ⟨hdistinct, -, hcalls⟩ :=
    @identity_exact spelled id "salt" (spelled_injective "salt")
  obtain ⟨hseparate, hkept⟩ := hcalls lampCalls lampCalls_named
  have hlamp : .register lamp ⟨{}, .online, 0⟩ ∈ lampCalls := by simp [lampCalls]
  have hplug : .register plug ⟨{}, .online, 0⟩ ∈ lampCalls := by simp [lampCalls]
  refine ⟨hdistinct lamp.ref plug.ref (by unfold Named; decide) (by unfold Named; decide)
    (by decide), hseparate, ?_⟩
  simp only [List.forall_mem_cons]
  exact ⟨hkept _ _ hlamp, hkept _ _ hplug, by simp⟩

end Homeflow.Identity
