import Homeflow.HomeAssistant.Discovery
import Homeflow.Lib.History

namespace Homeflow.HomeAssistant

abbrev Row := List (String × Json)

def rows : Json → List Row
  | .arr items => items.filterMap fun item =>
      match item with
      | .obj members => some members
      | _ => none
  | _ => []

-- The results of the three registry commands.
structure Registries where
  areas : Json
  devices : Json
  entities : Json

-- A field of a row that is a text.
def Row.text? (item : Row) (key : String) : Option String :=
  match Json.member? item key with
  | some (.str text) => some text
  | _ => none

-- A field of a row that counts as true.
def Row.truthy? (item : Row) (key : String) : Option Json :=
  (Json.member? item key).filter Json.truthy

section Rooms

-- What str makes of a value that is not a text itself.
variable (repr : Json → { text : String // text ≠ "" })

def str : Json → String
  | .str text => text
  | value => repr value

def roomName (value : Json) : String := String.ofList ((str repr value).toList.take 80)

def areaEntry (item : Row) : Option (String × String) :=
  match item.text? "area_id", item.truthy? "name" with
  | some area, some name => some (area, roomName repr name)
  | _, _ => none

def areaNames (registries : Registries) : OrderedDict String String :=
  .ofEntries ((rows registries.areas).filterMap (areaEntry repr))

def deviceEntry (item : Row) : Option (String × String) :=
  match item.text? "id", item.text? "area_id" with
  | some device, some area => some (device, area)
  | _, _ => none

def deviceAreas (registries : Registries) : OrderedDict String String :=
  .ofEntries ((rows registries.devices).filterMap deviceEntry)

-- An entity may sit in a room directly, or inherit the room of the physical device it
-- belongs to. A dict raises a TypeError for a value it cannot look up.
def areaOf (areas : OrderedDict String String) (item : Row) : Except HaError (Option String) :=
  match item.text? "area_id", Json.member? item "device_id" with
  | some area, _ => .ok (some area)
  | none, some (.str device) => .ok (areas.get? device)
  | none, some value => if value.hashable then .ok none else .error .other
  | none, none => .ok none

-- The entity of a row, and the name of its room if it has one.
def roomOf (names areas : OrderedDict String String) (item : Row) :
    Except HaError (Option (String × String)) :=
  match item.text? "entity_id" with
  | none => .ok none
  | some entityId => do
      let area ← areaOf areas item
      return (area.bind names.get?).bind fun name =>
        if name = "" then none else some (entityId, name)

def collect (names areas rooms : OrderedDict String String) :
    List Row → Except HaError (OrderedDict String String)
  | [] => .ok rooms
  | item :: rest => do
      match ← roomOf names areas item with
      | some (entityId, name) => collect names areas (rooms.set entityId name) rest
      | none => collect names areas rooms rest

-- Best effort: registries that cannot be read leave every device without a room.
def rooms (answer : Except HaError Registries) : Except HaError (OrderedDict String String) :=
  match answer with
  | .error .unavailable => .ok .empty
  | .error error => .error error
  | .ok registries =>
      collect (areaNames repr registries) (deviceAreas registries) .empty
        (rows registries.entities)

-- An area goes by the name in the last row that has its id and a name.
def AreaNamed (registries : Registries) (area name : String) : Prop :=
  ∃ row value, History.Latest
      (fun other : Row => other.text? "area_id" = some area ∧ (other.truthy? "name").isSome)
      (rows registries.areas) row ∧
    row.truthy? "name" = some value ∧ name = roomName repr value

-- A device is in the area of the last row that has its id and an area.
def DeviceIn (registries : Registries) (device area : String) : Prop :=
  ∃ row, History.Latest
      (fun other : Row => other.text? "id" = some device ∧ (other.text? "area_id").isSome)
      (rows registries.devices) row ∧ row.text? "area_id" = some area

-- The room a row gives to an entity.
inductive GivesRoom (registries : Registries) (row : Row) : String → String → Prop where
  | directly {entityId area name : String} (hentity : row.text? "entity_id" = some entityId)
      (harea : row.text? "area_id" = some area) (hname : AreaNamed repr registries area name) :
      GivesRoom registries row entityId name
  | inherited {entityId device area name : String}
      (hentity : row.text? "entity_id" = some entityId) (hnone : row.text? "area_id" = none)
      (hdevice : row.text? "device_id" = some device) (harea : DeviceIn registries device area)
      (hname : AreaNamed repr registries area name) : GivesRoom registries row entityId name

-- The last row that gives an entity a room gives it this one.
def InRoom (registries : Registries) (entityId name : String) : Prop :=
  ∃ row, History.Latest (fun other => ∃ room, GivesRoom repr registries other entityId room)
      (rows registries.entities) row ∧ GivesRoom repr registries row entityId name

def unplaced (device : ProviderDevice) : ProviderDevice := { device with roomHint := none }

-- A discovery finds the devices that it finds when the registries cannot be read.
def SparesDevices (registries : Registries) : Prop :=
  ∀ (provider : HomeAssistantProvider) (answer : Exchange),
    (provider.discoverDevices ⟨answer, rooms repr (.ok registries)⟩).2.map
        (List.map unplaced) =
      (provider.discoverDevices ⟨answer, rooms repr (.error .unavailable)⟩).2.map
        (List.map unplaced)

-- The lookup comes to a mapping, to the right one, and the household keeps its devices.
def BestEffort (registries : Registries) : Prop :=
  (∃ found, rooms repr (.ok registries) = .ok found ∧
    ∀ entityId name, found.get? entityId = some name ↔ InRoom repr registries entityId name) ∧
  SparesDevices repr registries

-- An entity without an area of its own is not given a list or an object for a device.
def Lookable (row : Row) : Prop :=
  (row.text? "entity_id").isSome → row.text? "area_id" = none →
    ∀ value, Json.member? row "device_id" = some value → value.hashable

section Exact

variable {repr} {registries : Registries} {row : Row} {area device entityId name : String}

theorem areaEntry_eq_some : areaEntry repr row = some (area, name) ↔
    row.text? "area_id" = some area ∧
      ∃ value, row.truthy? "name" = some value ∧ name = roomName repr value := by
  unfold areaEntry
  cases row.text? "area_id" <;> cases row.truthy? "name" <;> simp [eq_comm]

theorem deviceEntry_eq_some : deviceEntry row = some (device, area) ↔
    row.text? "id" = some device ∧ row.text? "area_id" = some area := by
  unfold deviceEntry
  cases row.text? "id" <;> cases row.text? "area_id" <;> simp

theorem areaNames_get? : (areaNames repr registries).get? area = some name ↔
    AreaNamed repr registries area name := by
  have hkind : ∀ row, (∃ found, areaEntry repr row = some (area, found)) ↔
      row.text? "area_id" = some area ∧ (row.truthy? "name").isSome := by
    intro row
    simp [areaEntry_eq_some, Option.isSome_iff_exists]
  rw [areaNames, OrderedDict.get?_ofEntries_filterMap]
  constructor
  · rintro ⟨row, hlatest, hentry⟩
    obtain ⟨-, value, hvalue, hname⟩ := areaEntry_eq_some.mp hentry
    exact ⟨row, value, (History.latest_congr hkind).mp hlatest, hvalue, hname⟩
  · rintro ⟨row, value, hlatest, hvalue, hname⟩
    exact ⟨row, (History.latest_congr hkind).mpr hlatest,
      areaEntry_eq_some.mpr ⟨hlatest.holds.1, value, hvalue, hname⟩⟩

theorem deviceAreas_get? : (deviceAreas registries).get? device = some area ↔
    DeviceIn registries device area := by
  have hkind : ∀ row, (∃ found, deviceEntry row = some (device, found)) ↔
      row.text? "id" = some device ∧ (row.text? "area_id").isSome := by
    intro row
    simp [deviceEntry_eq_some, Option.isSome_iff_exists]
  rw [deviceAreas, OrderedDict.get?_ofEntries_filterMap]
  constructor
  · rintro ⟨row, hlatest, hentry⟩
    exact ⟨row, (History.latest_congr hkind).mp hlatest, (deviceEntry_eq_some.mp hentry).2⟩
  · rintro ⟨row, hlatest, harea⟩
    exact ⟨row, (History.latest_congr hkind).mpr hlatest,
      deviceEntry_eq_some.mpr ⟨hlatest.holds.1, harea⟩⟩

theorem roomName_ne (value : Json) (h : value.truthy) : roomName repr value ≠ "" := by
  have htext : str repr value ≠ "" := by
    cases value with
    | str text => simpa [str, Json.truthy] using h
    | _ => exact (repr _).property
  intro hempty
  have hchars : (str repr value).toList.take 80 = [] :=
    String.ofList_eq_empty_iff.mp hempty
  exact htext (String.toList_eq_nil_iff.mp
    ((List.take_eq_nil_iff.mp hchars).resolve_left (by simp)))

theorem AreaNamed.name_ne (h : AreaNamed repr registries area name) : name ≠ "" := by
  obtain ⟨row, value, -, hvalue, rfl⟩ := h
  exact roomName_ne value (Option.filter_eq_some_iff.mp hvalue).2

theorem roomOf_ok_iff {names areas : OrderedDict String String} :
    (∃ room, roomOf names areas row = .ok room) ↔ Lookable row := by
  unfold roomOf Lookable areaOf
  rcases row.text? "entity_id" with _ | entityId
  · simp
  rcases row.text? "area_id" with _ | area
  · rcases Json.member? row "device_id" with _ | value
    · simp
    · cases value <;> simp [Json.hashable]
  · simp

theorem text?_eq_some {key text : String} :
    row.text? key = some text ↔ Json.member? row key = some (.str text) := by
  unfold Row.text?
  rcases Json.member? row key with _ | value
  · simp
  · cases value <;> simp

theorem areaOf_eq_some {areas : OrderedDict String String} :
    areaOf areas row = .ok (some area) ↔ row.text? "area_id" = some area ∨
      (row.text? "area_id" = none ∧
        ∃ device, row.text? "device_id" = some device ∧ areas.get? device = some area) := by
  have hdevice : ∀ device, row.text? "device_id" = some device ↔
      Json.member? row "device_id" = some (.str device) := fun _ => text?_eq_some
  simp only [hdevice]
  unfold areaOf
  rcases row.text? "area_id" with _ | own
  · rcases Json.member? row "device_id" with _ | value
    · simp
    · cases value <;> simp [Json.hashable]
  · simp

theorem roomOf_eq_some : roomOf (areaNames repr registries) (deviceAreas registries) row =
    .ok (some (entityId, name)) ↔ GivesRoom repr registries row entityId name := by
  have hroom : roomOf (areaNames repr registries) (deviceAreas registries) row =
      .ok (some (entityId, name)) ↔ row.text? "entity_id" = some entityId ∧
        ∃ area, areaOf (deviceAreas registries) row = .ok (some area) ∧
          AreaNamed repr registries area name := by
    unfold roomOf
    rcases row.text? "entity_id" with _ | found
    · simp
    rcases areaOf (deviceAreas registries) row with error | _ | area
    · simp [Bind.bind, Except.bind]
    · simp [Bind.bind, Except.bind, pure, Except.pure]
    · simp only [← areaNames_get?]
      rcases hname : (areaNames repr registries).get? area with _ | room
      · simp [Bind.bind, Except.bind, pure, Except.pure, hname]
      · have hne : room ≠ "" := (areaNames_get?.mp hname).name_ne
        simp [Bind.bind, Except.bind, pure, Except.pure, hname, hne]
  rw [hroom]
  constructor
  · rintro ⟨hentity, area, harea, hname⟩
    rcases areaOf_eq_some.mp harea with hown | ⟨hnone, device, hdevice, hin⟩
    · exact .directly hentity hown hname
    · exact .inherited hentity hnone hdevice (deviceAreas_get?.mp hin) hname
  · intro hgives
    cases hgives with
    | directly hentity harea hname =>
        exact ⟨hentity, _, areaOf_eq_some.mpr (.inl harea), hname⟩
    | inherited hentity hnone hdevice hin hname =>
        exact ⟨hentity, _, areaOf_eq_some.mpr
          (.inr ⟨hnone, _, hdevice, deviceAreas_get?.mpr hin⟩), hname⟩

theorem collect_ok_iff {names areas start : OrderedDict String String} (items : List Row) :
    (∃ found, collect names areas start items = .ok found) ↔ ∀ item ∈ items, Lookable item := by
  induction items generalizing start with
  | nil => simp [collect]
  | cons item rest ih =>
      rw [List.forall_mem_cons, ← @roomOf_ok_iff _ names areas, collect]
      rcases hroom : roomOf names areas item with error | room
      · simp [Bind.bind, Except.bind]
      · rcases room with _ | ⟨entityId, name⟩
        · simpa [Bind.bind, Except.bind] using ih
        · simpa [Bind.bind, Except.bind] using ih

-- What a row that raises nothing comes to.
def resolved (names areas : OrderedDict String String) (row : Row) : Option (String × String) :=
  (roomOf names areas row).toOption.join

theorem resolved_eq_some : resolved (areaNames repr registries) (deviceAreas registries) row =
    some (entityId, name) ↔ GivesRoom repr registries row entityId name := by
  rw [← roomOf_eq_some, resolved]
  rcases roomOf (areaNames repr registries) (deviceAreas registries) row with error | room
  · simp [Except.toOption]
  · simp [Except.toOption]

theorem collect_eq {names areas start found : OrderedDict String String} {items : List Row}
    (h : collect names areas start items = .ok found) :
    found = (items.filterMap (resolved names areas)).foldl
      (fun dict entry => dict.set entry.1 entry.2) start := by
  induction items generalizing start with
  | nil => exact (Except.ok.inj h).symm
  | cons item rest ih =>
      obtain ⟨room, hroom, hrest⟩ := Except.bind_eq_ok.mp h
      have hresolved : resolved names areas item = room := by
        simp [resolved, hroom, Except.toOption]
      rcases room with _ | ⟨entityId, name⟩
      · rw [List.filterMap_cons_none hresolved]
        exact ih hrest
      · rw [List.filterMap_cons_some hresolved, List.foldl_cons]
        exact ih hrest

theorem rooms_get? {found : OrderedDict String String}
    (h : rooms repr (.ok registries) = .ok found) :
    found.get? entityId = some name ↔ InRoom repr registries entityId name := by
  have hkind : ∀ row, (∃ room, resolved (areaNames repr registries) (deviceAreas registries) row =
      some (entityId, room)) ↔ ∃ room, GivesRoom repr registries row entityId room :=
    fun row => exists_congr fun room => resolved_eq_some
  have hentries : found = .ofEntries ((rows registries.entities).filterMap
      (resolved (areaNames repr registries) (deviceAreas registries))) := collect_eq h
  rw [hentries, OrderedDict.get?_ofEntries_filterMap]
  exact exists_congr fun row => and_congr (History.latest_congr hkind) resolved_eq_some

end Exact

-- The rooms decide where a device is, and nothing else of it.
theorem advertise_unplaced (provider : HomeAssistantProvider)
    (first second : OrderedDict String String) (entity : HaEntity) :
    (provider.advertise first entity).map (Option.map unplaced) =
      (provider.advertise second entity).map (Option.map unplaced) := by
  unfold HomeAssistantProvider.advertise
  rcases describe entity with error | _ | mapping <;> rfl

theorem advertiseAll_unplaced (provider : HomeAssistantProvider)
    (first second : OrderedDict String String) (entities : List HaEntity) :
    (provider.advertiseAll first entities).2.map (List.map unplaced) =
      (provider.advertiseAll second entities).2.map (List.map unplaced) := by
  induction entities generalizing provider with
  | nil => rfl
  | cons entity rest ih =>
      have hdevice := advertise_unplaced provider first second entity
      unfold HomeAssistantProvider.advertiseAll
      rcases hfirst : provider.advertise first entity with error | _ | placed <;>
        rcases hsecond : provider.advertise second entity with other | _ | device <;>
        simp only [hfirst, hsecond, Except.map, Option.map, Except.ok.injEq, Except.error.injEq,
          Option.some.injEq, reduceCtorEq] at hdevice
      · rw [hdevice]
      · exact ih provider
      · have hkind : (unplaced placed).kind = (unplaced device).kind := by rw [hdevice]
        change placed.kind = device.kind at hkind
        have hcons : ∀ (head : ProviderDevice) (devices : Except EntityError (List ProviderDevice)),
            ((head :: ·) <$> devices).map (List.map unplaced) =
              (unplaced head :: ·) <$> devices.map (List.map unplaced) := by
          intro head devices
          cases devices <;> rfl
        dsimp only
        rw [hcons, hcons, hkind, ih, hdevice]

theorem discoverDevices_unplaced (provider : HomeAssistantProvider) (answer : Exchange)
    (first second : OrderedDict String String) :
    (provider.discoverDevices ⟨answer, .ok first⟩).2.map (List.map unplaced) =
      (provider.discoverDevices ⟨answer, .ok second⟩).2.map (List.map unplaced) := by
  unfold HomeAssistantProvider.discoverDevices
  rcases states answer with error | entities
  · rfl
  · have hdevices := advertiseAll_unplaced { provider with kinds := .empty } first second entities
    dsimp only
    rcases hfirst : HomeAssistantProvider.advertiseAll { provider with kinds := .empty } first
        entities with ⟨after, error | devices⟩ <;>
      rcases hsecond : HomeAssistantProvider.advertiseAll { provider with kinds := .empty } second
        entities with ⟨other, wrong | found⟩ <;>
      simp only [hfirst, hsecond, Except.map, Except.ok.injEq, reduceCtorEq] at hdevices
    · rfl
    · exact congrArg Except.ok hdevices

-- Where no entity without an area has a device id that a dict cannot look up.
theorem bestEffort_iff (registries : Registries) :
    BestEffort repr registries ↔ ∀ row ∈ rows registries.entities, Lookable row := by
  rw [← @collect_ok_iff (areaNames repr registries) (deviceAreas registries) .empty]
  constructor
  · rintro ⟨⟨found, hfound, -⟩, -⟩
    exact ⟨found, hfound⟩
  · rintro ⟨found, hfound⟩
    have hrooms : rooms repr (.ok registries) = .ok found := hfound
    refine ⟨⟨found, hrooms, fun _ _ => rooms_get? hrooms⟩, fun provider answer => ?_⟩
    rw [hrooms]
    exact discoverDevices_unplaced provider answer found .empty

end Rooms

-- A lamp whose device id is a list, as no registry should send it.
def listedDevice : Registries where
  areas := .arr []
  devices := .arr []
  entities := .arr [.obj [("entity_id", .str "light.lamp"), ("device_id", .arr [])]]

-- The lookup raises, and the discovery of the lamp with it.
theorem listed_device_raises : ¬∃ repr, BestEffort repr listedDevice := by
  rintro ⟨repr, ⟨found, hfound, -⟩, -⟩
  cases hfound

end Homeflow.HomeAssistant
