import Homeflow.Integrations.Base
import Homeflow.Lib.OrderedDict
import Mathlib.Data.List.Sort

namespace Homeflow

-- The three tables of the registry agree: a device is held under its own id,
-- has a ref, and every ref that leads to an id leads to a device.
structure DeviceRegistry where
  devices : OrderedDict Uuid Device
  refs : OrderedDict Uuid ProviderDeviceRef
  idByRef : OrderedDict ProviderDeviceRef Uuid
  devices_id : ∀ id device, devices.get? id = some device → device.id = id
  devices_ref : ∀ id, (devices.get? id).isSome → (refs.get? id).isSome
  ref_devices : ∀ ref id, idByRef.get? ref = some id → (devices.get? id).isSome

namespace DeviceRegistry

def empty : DeviceRegistry where
  devices := .empty
  refs := .empty
  idByRef := .empty
  devices_id := by simp
  devices_ref := by simp
  ref_devices := by simp

section Identity

-- The keyed digests behind the public identifiers.
variable (deviceUuid : ProviderDeviceRef → Uuid) (roomUuid : String → Uuid)

def registered (providerDevice : ProviderDevice) (state : ProviderState) : Device where
  id := deviceUuid providerDevice.ref
  displayName := providerDevice.suggestedName
  kind := providerDevice.kind
  roomId := match providerDevice.roomHint with
    | some roomName => if roomName = "" then none else some (roomUuid roomName)
    | none => none
  roomName := providerDevice.roomHint
  capabilities := providerDevice.capabilities
  availability := state.availability
  state := state.state
  constraints := providerDevice.constraints
  stateObservedAt := state.observedAt
  lastSeenAt := state.observedAt
  stateSource := .providerSnapshot

def register (registry : DeviceRegistry) (providerDevice : ProviderDevice)
    (state : ProviderState) : DeviceRegistry where
  devices := registry.devices.set (deviceUuid providerDevice.ref)
    (registered deviceUuid roomUuid providerDevice state)
  refs := registry.refs.set (deviceUuid providerDevice.ref) providerDevice.ref
  idByRef := registry.idByRef.set providerDevice.ref (deviceUuid providerDevice.ref)
  devices_id := by
    intro id device hget
    rw [OrderedDict.get?_set] at hget
    split at hget
    · rename_i hid
      obtain rfl := Option.some.inj hget
      exact hid.symm
    · exact registry.devices_id id device hget
  devices_ref := by
    intro id hsome
    rw [OrderedDict.get?_set] at hsome ⊢
    split at hsome
    · rename_i hid
      simp [hid]
    · rename_i hid
      rw [if_neg hid]
      exact registry.devices_ref id hsome
  ref_devices := by
    intro ref id hget
    rw [OrderedDict.get?_set] at hget ⊢
    split
    · rfl
    · rename_i hid
      split at hget
      · exact absurd (Option.some.inj hget).symm hid
      · exact registry.ref_devices ref id hget

end Identity

def listDevices (registry : DeviceRegistry) : List Device :=
  registry.devices.values.insertionSort fun first second =>
    first.displayName ≤ second.displayName

def get (registry : DeviceRegistry) (deviceId : Uuid) : Option Device :=
  registry.devices.get? deviceId

def refFor (registry : DeviceRegistry) (deviceId : Uuid) : Option ProviderDeviceRef :=
  registry.refs.get? deviceId

def idForRef (registry : DeviceRegistry) (ref : ProviderDeviceRef) : Option Uuid :=
  registry.idByRef.get? ref

-- Freshness only advances while the device is reachable.
def merged (current : Device) (state : DeviceState) (availability : Availability)
    (observedAt : Time) (source : StateSource) : Device :=
  let reachable : Bool := availability = .online
  { current with
    state := current.state.mergedWith state
    availability := availability
    stateObservedAt := if reachable then observedAt else current.stateObservedAt
    lastSeenAt := if reachable then observedAt else current.lastSeenAt
    stateSource := source }

-- A device is only ever replaced by a version of itself.
def update (registry : DeviceRegistry) (current updated : Device)
    (hcurrent : registry.get current.id = some current) (hid : updated.id = current.id) :
    DeviceRegistry where
  devices := registry.devices.set current.id updated
  refs := registry.refs
  idByRef := registry.idByRef
  devices_id := by
    intro id device hget
    rw [OrderedDict.get?_set] at hget
    split at hget
    · rename_i he
      obtain rfl := Option.some.inj hget
      exact hid.trans he.symm
    · exact registry.devices_id id device hget
  devices_ref := by
    intro id hsome
    rw [OrderedDict.get?_set] at hsome
    split at hsome
    · rename_i he
      exact registry.devices_ref id (by rw [he]; exact Option.isSome_iff_exists.mpr ⟨_, hcurrent⟩)
    · exact registry.devices_ref id hsome
  ref_devices := by
    intro ref id hget
    rw [OrderedDict.get?_set]
    split
    · rfl
    · exact registry.ref_devices ref id hget

-- The registry with the merged device, and that device. None: no such device.
def apply (registry : DeviceRegistry) (deviceId : Uuid) (state : DeviceState)
    (availability : Availability) (observedAt : Time) (source : StateSource) :
    Option (DeviceRegistry × Device) :=
  match h : registry.get deviceId with
  | none => none
  | some current =>
      let updated := merged current state availability observedAt source
      some (registry.update current updated
        (by rw [registry.devices_id deviceId current h]; exact h) rfl, updated)

theorem mem_listDevices (registry : DeviceRegistry) (device : Device) :
    device ∈ registry.listDevices ↔ registry.get device.id = some device := by
  rw [listDevices, (List.perm_insertionSort _ _).mem_iff, OrderedDict.mem_values_iff]
  constructor
  · rintro ⟨id, hget⟩
    rw [registry.devices_id id device hget]
    exact hget
  · exact fun hget => ⟨_, hget⟩

theorem listDevices_ids_nodup (registry : DeviceRegistry) :
    (registry.listDevices.map Device.id).Nodup := by
  have hids : registry.devices.values.map Device.id = registry.devices.keys := by
    rw [OrderedDict.values, OrderedDict.keys, List.map_map]
    refine List.map_congr_left fun entry hentry => ?_
    exact registry.devices_id entry.1 entry.2
      ((OrderedDict.get?_eq_some_iff registry.devices entry.1 entry.2).mpr hentry)
  rw [listDevices, ((List.perm_insertionSort _ _).map Device.id).nodup_iff, hids]
  exact registry.devices.nodup

theorem get_update (registry : DeviceRegistry) {current updated : Device}
    (hcurrent : registry.get current.id = some current) (hid : updated.id = current.id)
    (id : Uuid) : (registry.update current updated hcurrent hid).get id =
      if id = current.id then some updated else registry.get id :=
  OrderedDict.get?_set _ _ _ _

-- What apply leaves in the registry, read back by id.
theorem apply_eq_some {registry after : DeviceRegistry} {deviceId : Uuid} {state : DeviceState}
    {availability : Availability} {observedAt : Time} {source : StateSource} {updated : Device}
    (h : registry.apply deviceId state availability observedAt source = some (after, updated)) :
    ∃ current, registry.get deviceId = some current ∧
      updated = merged current state availability observedAt source ∧
      (∀ id, after.get id = if id = deviceId then some updated else registry.get id) ∧
      after.refs = registry.refs ∧ after.idByRef = registry.idByRef := by
  unfold apply at h
  split at h
  · cases h
  · rename_i current hget
    obtain ⟨rfl, rfl⟩ := Prod.mk.inj (Option.some.inj h)
    have hid := registry.devices_id deviceId current hget
    refine ⟨current, hget, rfl, fun id => ?_, rfl, rfl⟩
    exact (get_update registry _ _ id).trans (by rw [hid])

end DeviceRegistry

end Homeflow
