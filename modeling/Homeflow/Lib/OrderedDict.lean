import Homeflow.Lib.History
import Mathlib.Data.List.Basic
import Mathlib.Data.List.Induction
import Mathlib.Data.List.Nodup
import Mathlib.Tactic.Common

-- A mapping that remembers the order in which its keys were first written.
structure OrderedDict (κ ν : Type*) where
  entries : List (κ × ν)
  nodup : (entries.map Prod.fst).Nodup

namespace OrderedDict

variable {κ ν : Type*}

def empty : OrderedDict κ ν := ⟨[], List.nodup_nil⟩

def keys (dict : OrderedDict κ ν) : List κ := dict.entries.map Prod.fst

def values (dict : OrderedDict κ ν) : List ν := dict.entries.map Prod.snd

def length (dict : OrderedDict κ ν) : Nat := dict.entries.length

-- Drop the entry written longest ago.
def popFirst (dict : OrderedDict κ ν) : OrderedDict κ ν :=
  ⟨dict.entries.tail, dict.nodup.sublist (dict.entries.tail_sublist.map _)⟩

theorem append_nodup (entries : List (κ × ν)) (hentries : (entries.map Prod.fst).Nodup)
    (key : κ) (value : ν) (hkey : key ∉ entries.map Prod.fst) :
    ((entries ++ [(key, value)]).map Prod.fst).Nodup := by
  simp only [List.map_append, List.map_cons, List.map_nil]
  exact List.nodup_append.mpr ⟨hentries, List.nodup_singleton _, fun a ha b hb =>
    fun hab => hkey (by rw [List.mem_singleton] at hb; exact hb ▸ hab ▸ ha)⟩

variable [DecidableEq κ]

def get? (dict : OrderedDict κ ν) (key : κ) : Option ν :=
  (dict.entries.find? fun entry => entry.1 = key).map Prod.snd

def erase (dict : OrderedDict κ ν) (key : κ) : OrderedDict κ ν :=
  ⟨dict.entries.filter fun entry => entry.1 ≠ key, dict.nodup.sublist (List.filter_sublist.map _)⟩

-- A key that is present keeps its place and takes the new value.
def replace (entries : List (κ × ν)) (key : κ) (value : ν) : List (κ × ν) :=
  entries.map fun entry => if entry.1 = key then (key, value) else entry

theorem replace_keys (entries : List (κ × ν)) (key : κ) (value : ν) :
    (replace entries key value).map Prod.fst = entries.map Prod.fst := by
  simp only [replace, List.map_map, List.map_inj_left, Function.comp_apply]
  intro entry _
  split
  · simp_all
  · rfl

def set (dict : OrderedDict κ ν) (key : κ) (value : ν) : OrderedDict κ ν :=
  if h : key ∈ dict.entries.map Prod.fst then
    ⟨replace dict.entries key value, by rw [replace_keys]; exact dict.nodup⟩
  else
    ⟨dict.entries ++ [(key, value)], append_nodup dict.entries dict.nodup key value h⟩

theorem erase_keys_notMem (dict : OrderedDict κ ν) (key : κ) :
    key ∉ (dict.erase key).entries.map Prod.fst := by
  simp [erase]

def moveToEnd (dict : OrderedDict κ ν) (key : κ) : OrderedDict κ ν :=
  match dict.get? key with
  | some value => ⟨(dict.erase key).entries ++ [(key, value)],
      append_nodup _ (dict.erase key).nodup key value (dict.erase_keys_notMem key)⟩
  | none => dict

def eraseAll (dict : OrderedDict κ ν) (keys : List κ) : OrderedDict κ ν :=
  keys.foldl erase dict

-- The same keys with other values.
def mapValues {μ : Type*} (f : ν → μ) (dict : OrderedDict κ ν) : OrderedDict κ μ :=
  ⟨dict.entries.map fun entry => (entry.1, f entry.2), by
    rw [List.map_map]
    exact dict.nodup⟩

-- The mapping of values that bring their keys, a later one in place of an earlier one.
def ofValues (key : ν → κ) (values : List ν) : OrderedDict κ ν :=
  values.foldl (fun dict value => dict.set (key value) value) empty

-- The mapping that a comprehension builds, a later entry in place of an earlier one.
def ofEntries (entries : List (κ × ν)) : OrderedDict κ ν :=
  entries.foldl (fun dict entry => dict.set entry.1 entry.2) empty

omit [DecidableEq κ] in
@[ext] theorem ext {first second : OrderedDict κ ν} (h : first.entries = second.entries) :
    first = second := by
  cases first; cases second; cases h; rfl

theorem get?_eq_some_iff (dict : OrderedDict κ ν) (key : κ) (value : ν) :
    dict.get? key = some value ↔ (key, value) ∈ dict.entries := by
  obtain ⟨entries, hnodup⟩ := dict
  simp only [get?]
  induction entries with
  | nil => simp
  | cons entry rest ih =>
      obtain ⟨first, held⟩ := entry
      have hrest : (rest.map Prod.fst).Nodup := (List.nodup_cons.mp hnodup).2
      have hfirst : first ∉ rest.map Prod.fst := (List.nodup_cons.mp hnodup).1
      by_cases hkey : first = key
      · subst hkey
        have hnot : (first, value) ∉ rest := fun hm => hfirst (List.mem_map_of_mem hm)
        simp [hnot, eq_comm]
      · simp only [List.find?_cons, hkey, decide_false, List.mem_cons, Prod.mk.injEq]
        rw [ih hrest]
        simp [Ne.symm hkey]

theorem get?_eq_none_iff (dict : OrderedDict κ ν) (key : κ) :
    dict.get? key = none ↔ key ∉ dict.keys := by
  simp only [get?, Option.map_eq_none_iff, List.find?_eq_none, decide_eq_true_eq, keys,
    List.mem_map, not_exists, not_and]

theorem get?_mapValues {μ : Type*} (f : ν → μ) (dict : OrderedDict κ ν) (key : κ) :
    (dict.mapValues f).get? key = (dict.get? key).map f := by
  simp only [get?, mapValues, List.find?_map, Option.map_map]
  rfl

theorem mem_values_iff (dict : OrderedDict κ ν) (value : ν) :
    value ∈ dict.values ↔ ∃ key, dict.get? key = some value := by
  simp only [values, List.mem_map, get?_eq_some_iff]
  constructor
  · rintro ⟨⟨key, _⟩, hm, rfl⟩
    exact ⟨key, hm⟩
  · rintro ⟨key, hm⟩
    exact ⟨_, hm, rfl⟩

@[simp] theorem get?_empty (key : κ) : (empty : OrderedDict κ ν).get? key = none := rfl

theorem mem_set_iff (dict : OrderedDict κ ν) (key other : κ) (value found : ν) :
    (other, found) ∈ (dict.set key value).entries ↔
      (other = key ∧ found = value) ∨ (other ≠ key ∧ (other, found) ∈ dict.entries) := by
  unfold set
  split
  · rename_i hkey
    simp only [replace, List.mem_map, Prod.exists]
    constructor
    · rintro ⟨a, b, hm, he⟩
      split at he
      · simp only [Prod.mk.injEq] at he
        exact Or.inl ⟨he.1.symm, he.2.symm⟩
      · rename_i hne
        simp only [Prod.mk.injEq] at he
        exact Or.inr ⟨he.1 ▸ hne, he.1 ▸ he.2 ▸ hm⟩
    · rintro (⟨rfl, rfl⟩ | ⟨hne, hm⟩)
      · obtain ⟨⟨a, b⟩, hm, ha⟩ := List.mem_map.mp hkey
        exact ⟨a, b, hm, by simp [show a = other from ha]⟩
      · exact ⟨other, found, hm, by simp [hne]⟩
  · rename_i hkey
    simp only [List.mem_append, List.mem_singleton, Prod.mk.injEq]
    constructor
    · rintro (hm | he)
      · exact Or.inr ⟨fun he => hkey (he ▸ List.mem_map_of_mem hm), hm⟩
      · exact Or.inl he
    · rintro (he | ⟨_, hm⟩)
      · exact Or.inr he
      · exact Or.inl hm

theorem get?_set (dict : OrderedDict κ ν) (key other : κ) (value : ν) :
    (dict.set key value).get? other = if other = key then some value else dict.get? other := by
  apply Option.ext
  intro found
  rw [get?_eq_some_iff, mem_set_iff]
  split
  · rename_i he
    simp [he, eq_comm]
  · rename_i hne
    simp [hne, get?_eq_some_iff]

@[simp] theorem get?_set_self (dict : OrderedDict κ ν) (key : κ) (value : ν) :
    (dict.set key value).get? key = some value := by
  simp [get?_set]

theorem get?_erase (dict : OrderedDict κ ν) (key other : κ) :
    (dict.erase key).get? other = if other = key then none else dict.get? other := by
  apply Option.ext
  intro found
  rw [get?_eq_some_iff]
  simp only [erase, List.mem_filter, ne_eq, decide_not, Bool.not_eq_eq_eq_not, Bool.not_true,
    decide_eq_false_iff_not]
  split
  · rename_i he
    simp [he]
  · rename_i hne
    simp [hne, get?_eq_some_iff]

theorem get?_set_of_ne {dict : OrderedDict κ ν} {key other : κ} {value : ν} (h : other ≠ key) :
    (dict.set key value).get? other = dict.get? other := by
  rw [get?_set, if_neg h]

theorem get?_set_eq_some {dict : OrderedDict κ ν} {key other : κ} {value found : ν} :
    (dict.set key value).get? other = some found ↔
      (other = key ∧ found = value) ∨ (other ≠ key ∧ dict.get? other = some found) := by
  simp only [get?_eq_some_iff, mem_set_iff]

theorem isSome_set {dict : OrderedDict κ ν} {key other : κ} {value : ν}
    (h : (dict.get? other).isSome) : ((dict.set key value).get? other).isSome := by
  rw [get?_set]
  split
  · rfl
  · exact h

@[simp] theorem get?_erase_self (dict : OrderedDict κ ν) (key : κ) :
    (dict.erase key).get? key = none := by
  rw [get?_erase, if_pos rfl]

theorem get?_erase_of_ne {dict : OrderedDict κ ν} {key other : κ} (h : other ≠ key) :
    (dict.erase key).get? other = dict.get? other := by
  rw [get?_erase, if_neg h]

theorem get?_erase_eq_some {dict : OrderedDict κ ν} {key other : κ} {found : ν} :
    (dict.erase key).get? other = some found ↔ other ≠ key ∧ dict.get? other = some found := by
  by_cases he : other = key
  · simp [he]
  · simp [get?_erase_of_ne he, he]

theorem isSome_erase {dict : OrderedDict κ ν} {key other : κ} (hne : other ≠ key)
    (h : (dict.get? other).isSome) : ((dict.erase key).get? other).isSome := by
  rwa [get?_erase_of_ne hne]

theorem get?_erase_of_none {dict : OrderedDict κ ν} {key other : κ}
    (h : dict.get? other = none) : (dict.erase key).get? other = none := by
  by_cases he : other = key
  · rw [he, get?_erase_self]
  · rw [get?_erase_of_ne he, h]

theorem get?_eraseAll_eq_some {dict : OrderedDict κ ν} {keys : List κ} {other : κ} {found : ν} :
    (dict.eraseAll keys).get? other = some found ↔
      other ∉ keys ∧ dict.get? other = some found := by
  induction keys generalizing dict with
  | nil => simp [eraseAll]
  | cons key rest ih =>
      rw [eraseAll, List.foldl_cons, ← eraseAll, ih, get?_erase_eq_some, List.mem_cons, not_or]
      constructor
      · rintro ⟨hrest, hne, hfound⟩
        exact ⟨⟨hne, hrest⟩, hfound⟩
      · rintro ⟨⟨hne, hrest⟩, hfound⟩
        exact ⟨hrest, hne, hfound⟩

theorem keys_erase_sublist (dict : OrderedDict κ ν) (key : κ) :
    (dict.erase key).keys.Sublist dict.keys :=
  List.filter_sublist.map _

theorem keys_eraseAll_sublist (dict : OrderedDict κ ν) (keys : List κ) :
    (dict.eraseAll keys).keys.Sublist dict.keys := by
  induction keys generalizing dict with
  | nil => exact List.Sublist.refl _
  | cons key rest ih =>
      rw [eraseAll, List.foldl_cons, ← eraseAll]
      exact (ih _).trans (keys_erase_sublist dict key)

theorem keys_set_sublist (dict : OrderedDict κ ν) (key : κ) (value : ν) :
    (dict.set key value).keys.Sublist (dict.keys ++ [key]) := by
  unfold set
  split
  · rw [keys, replace_keys]
    exact List.sublist_append_left _ _
  · rw [keys, List.map_append]
    exact List.Sublist.refl _

omit [DecidableEq κ] in
theorem length_keys (dict : OrderedDict κ ν) : dict.keys.length = dict.length := List.length_map _

theorem get?_of_popFirst {dict : OrderedDict κ ν} {key : κ} {value : ν}
    (h : dict.popFirst.get? key = some value) : dict.get? key = some value := by
  rw [get?_eq_some_iff] at h ⊢
  exact List.mem_of_mem_tail h

theorem get?_moveToEnd (dict : OrderedDict κ ν) (key other : κ) :
    (dict.moveToEnd key).get? other = dict.get? other := by
  unfold moveToEnd
  split
  · rename_i value hvalue
    apply Option.ext
    intro found
    rw [get?_eq_some_iff]
    simp only [List.mem_append, List.mem_singleton, Prod.mk.injEq, ← get?_eq_some_iff, get?_erase]
    by_cases he : other = key
    · subst he
      simp [hvalue, eq_comm]
    · simp [he]
  · rfl

omit [DecidableEq κ] in
theorem keys_popFirst (dict : OrderedDict κ ν) : dict.popFirst.keys = dict.keys.tail :=
  List.map_tail

-- A key that was just added at the end stays there.
theorem keys_moveToEnd_set {dict : OrderedDict κ ν} {key : κ} (value : ν)
    (hkey : key ∉ dict.keys) : ((dict.set key value).moveToEnd key).keys = dict.keys ++ [key] := by
  have herase : (dict.set key value).erase key = dict := by
    ext1
    unfold set
    rw [dif_neg (show key ∉ dict.entries.map Prod.fst from hkey)]
    have hall : ∀ entry ∈ dict.entries, entry.1 ≠ key := fun entry hentry he =>
      hkey (he ▸ List.mem_map_of_mem hentry)
    simpa [erase, List.filter_append] using hall
  unfold moveToEnd
  rw [get?_set_self, keys, List.map_append, herase]
  rfl

theorem erase_set (dict : OrderedDict κ ν) (key : κ) (value : ν) :
    (dict.set key value).erase key = dict.erase key := by
  have hreplace : ∀ entries : List (κ × ν), (replace entries key value).filter
      (fun entry => entry.1 ≠ key) = entries.filter fun entry => entry.1 ≠ key := by
    intro entries
    induction entries with
    | nil => rfl
    | cons entry rest ih =>
        simp only [replace, List.map_cons, List.filter_cons] at ih ⊢
        rw [ih]
        by_cases he : entry.1 = key <;> simp [he]
  ext1
  unfold set
  split
  · exact hreplace _
  · simp [erase, List.filter_append]

-- A key that is written anew goes behind all others.
theorem keys_moveToEnd_set_eq (dict : OrderedDict κ ν) (key : κ) (value : ν) :
    ((dict.set key value).moveToEnd key).keys = (dict.erase key).keys ++ [key] := by
  unfold moveToEnd
  rw [get?_set_self, keys, List.map_append, erase_set]
  rfl

theorem get?_popFirst (dict : OrderedDict κ ν) (key : κ) :
    dict.popFirst.get? key = if dict.keys.head? = some key then none else dict.get? key := by
  obtain ⟨entries, hnodup⟩ := dict
  cases entries with
  | nil => simp [popFirst, get?, keys]
  | cons entry rest =>
      rw [List.map_cons, List.nodup_cons] at hnodup
      by_cases he : entry.1 = key
      · have hgone : key ∉ rest.map Prod.fst := he ▸ hnodup.1
        simp only [keys, List.map_cons, List.head?_cons, he, if_true]
        exact (get?_eq_none_iff _ _).mpr hgone
      · simp [popFirst, get?, keys, he]

theorem get?_ofValues {key : ν → κ} {values : List ν} (hkeys : (values.map key).Nodup)
    (sought : κ) (value : ν) :
    (ofValues key values).get? sought = some value ↔ value ∈ values ∧ key value = sought := by
  induction values using List.reverseRecOn with
  | nil => simp [ofValues]
  | append_singleton values last ih =>
      rw [List.map_append, List.map_singleton, List.nodup_append] at hkeys
      obtain ⟨hinit, -, hlast⟩ := hkeys
      have hne : ∀ other ∈ values, key other ≠ key last := fun other hother =>
        hlast _ (List.mem_map_of_mem hother) _ (List.mem_singleton_self _)
      rw [ofValues, List.foldl_append, List.foldl_cons, List.foldl_nil, get?_set, ← ofValues,
        List.mem_append, List.mem_singleton]
      split
      · rename_i hsought
        constructor
        · rintro ⟨⟩
          exact ⟨.inr rfl, hsought.symm⟩
        · rintro ⟨hmem | rfl, hkey⟩
          · exact absurd (hkey.trans hsought) (hne value hmem)
          · rfl
      · rename_i hsought
        rw [ih hinit]
        constructor
        · exact fun h => ⟨.inl h.1, h.2⟩
        · rintro ⟨hmem | rfl, hkey⟩
          · exact ⟨hmem, hkey⟩
          · exact absurd hkey.symm hsought

-- A comprehension over rows: the last row with this key says what it is mapped to.
theorem get?_ofEntries_filterMap {β : Type*} (convert : β → Option (κ × ν)) (rows : List β)
    (key : κ) (value : ν) : (ofEntries (rows.filterMap convert)).get? key = some value ↔
      ∃ row, History.Latest (fun other => ∃ found, convert other = some (key, found)) rows row ∧
        convert row = some (key, value) := by
  induction rows using List.reverseRecOn with
  | nil =>
      refine iff_of_false (Option.some_ne_none value).symm ?_
      rintro ⟨row, hlatest, -⟩
      exact History.not_latest_nil hlatest
  | append_singleton rows last ih =>
      rw [List.filterMap_append, ofEntries, List.foldl_append, ← ofEntries]
      by_cases htells : ∃ found, convert last = some (key, found)
      · obtain ⟨found, hfound⟩ := htells
        have hlatest : ∀ row, History.Latest (fun other => ∃ found, convert other =
            some (key, found)) (rows ++ [last]) row ↔ row = last :=
          fun _ => History.latest_concat_of_kind ⟨found, hfound⟩
        simp [hlatest, hfound]
      · have hlatest : ∀ row, History.Latest (fun other => ∃ found, convert other =
            some (key, found)) (rows ++ [last]) row ↔ History.Latest (fun other => ∃ found,
              convert other = some (key, found)) rows row :=
          fun _ => History.latest_concat_of_not htells
        simp only [hlatest, ← ih]
        rcases hconvert : convert last with _ | ⟨other, found⟩
        · simp [hconvert]
        · have hne : key ≠ other := fun heq => htells ⟨found, heq ▸ hconvert⟩
          simp [hconvert, get?_set_of_ne hne]

theorem mem_ofEntries_map {β : Type*} (convert : β → κ × ν) (rows : List β) (key : κ) (value : ν) :
    (key, value) ∈ (ofEntries (rows.map convert)).entries ↔
      ∃ row, History.Latest (fun other => (convert other).1 = key) rows row ∧
        convert row = (key, value) := by
  have hkind : ∀ row, (∃ found, convert row = (key, found)) ↔ (convert row).1 = key := by
    refine fun row => ⟨?_, fun h => ⟨(convert row).2, by rw [← h]⟩⟩
    rintro ⟨found, hfound⟩
    rw [hfound]
  have hread := get?_ofEntries_filterMap (fun row => some (convert row)) rows key value
  simp only [Option.some_inj, History.latest_congr hkind] at hread
  rw [← get?_eq_some_iff, ← hread, List.filterMap_eq_map']

end OrderedDict
