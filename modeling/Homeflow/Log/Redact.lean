import Homeflow.Log.Scrub
import Homeflow.Lib.OrderedDict

namespace Homeflow.Log

def SENSITIVE_KEYS : List String :=
  ["authorization", "token", "access_token", "refresh_token", "id_token", "client_secret",
    "secret", "password", "passwd", "api_key", "apikey", "cookie", "set-cookie", "mac", "bssid",
    "ssid", "uid", "serial", "serial_number", "device_uid", "entity_id", "provider_entity_id",
    "provider_device_id", "provider_id", "email", "address", "latitude", "longitude", "resident",
    "resident_name", "camera_url", "stream_url", "snapshot_url", "signed_url", "tailnet",
    "hostname", "host", "ip", "ip_address"]

def _SENSITIVE_SUFFIXES : List String :=
  ["_token", "_secret", "_password", "_key", "_uid", "_mac", "_email", "_url"]

-- What is handed to the log. A scalar is neither a text nor a container.
inductive Payload (σ : Type*) where
  | mapping (entries : List (Payload σ × Payload σ))
  | list (items : List (Payload σ))
  | tuple (items : List (Payload σ))
  | set (elements : List (Payload σ))
  | str (value : String)
  | bytes (content : List UInt8)
  | scalar (value : σ)

variable {σ : Type*} (unicode : Unicode) (repr : Payload σ → String)

def isSensitiveKey (key : String) : Bool :=
  SENSITIVE_KEYS.contains (unicode.lower key) ||
    _SENSITIVE_SUFFIXES.any fun suffix => suffix.toList.isSuffixOf (unicode.lower key).toList

-- str of a key: a text is its own, any other key has one that is made for it.
def keyText : Payload σ → String
  | .str value => value
  | key => repr key

mutual

def redact : Payload σ → Payload σ
  | .mapping entries =>
      .mapping ((OrderedDict.ofEntries (redactEntries entries)).entries.map fun entry =>
        (.str entry.1, entry.2))
  | .str value => .str (scrubText unicode value)
  | .list items => .list (redactItems items)
  | .tuple items => .list (redactItems items)
  | .bytes _ => .str REDACTED
  | .set elements => .set elements
  | .scalar value => .scalar value

def redactEntries : List (Payload σ × Payload σ) → List (String × Payload σ)
  | [] => []
  | (key, item) :: entries =>
      (keyText repr key,
        if isSensitiveKey unicode (keyText repr key) then .str REDACTED else redact item) ::
      redactEntries entries

def redactItems : List (Payload σ) → List (Payload σ)
  | [] => []
  | item :: items => redact item :: redactItems items

end

-- A sensitive name is one in capital letters too.
theorem isSensitiveKey_of_ascii {key : String} (hascii : ∀ char ∈ key.toList, char.toNat < 128) :
    isSensitiveKey unicode key = true ↔
      String.ofList (key.toList.map Char.toLower) ∈ SENSITIVE_KEYS ∨
        ∃ suffix ∈ _SENSITIVE_SUFFIXES, suffix.toList <:+ key.toList.map Char.toLower := by
  simp [isSensitiveKey, unicode.lower_ascii key hascii]

def redactEntry (entry : Payload σ × Payload σ) : String × Payload σ :=
  (keyText repr entry.1, if isSensitiveKey unicode (keyText repr entry.1) then .str REDACTED
    else redact unicode repr entry.2)

@[simp] theorem redactEntries_eq (entries : List (Payload σ × Payload σ)) :
    redactEntries unicode repr entries = entries.map (redactEntry unicode repr) := by
  induction entries with
  | nil => simp [redactEntries]
  | cons entry entries ih => simp [redactEntries, redactEntry, ih]

@[simp] theorem redactItems_eq (items : List (Payload σ)) :
    redactItems unicode repr items = items.map (redact unicode repr) := by
  induction items with
  | nil => simp [redactItems]
  | cons item items ih => simp [redactItems, ih]

section Noninterference

-- Payloads of one shape that differ in what is stored under sensitive keys, or as bytes.
inductive Similar : Payload σ → Payload σ → Prop
  | same (payload : Payload σ) : Similar payload payload
  | bytes (content other : List UInt8) : Similar (.bytes content) (.bytes other)
  | mapping {entries others : List (Payload σ × Payload σ)}
      (hlength : entries.length = others.length)
      (hkeys : ∀ pair ∈ entries.zip others, pair.1.1 = pair.2.1)
      (hvalues : ∀ pair ∈ entries.zip others,
        isSensitiveKey unicode (keyText repr pair.1.1) = false → Similar pair.1.2 pair.2.2) :
      Similar (.mapping entries) (.mapping others)
  | list {items others : List (Payload σ)} (hlength : items.length = others.length)
      (hitems : ∀ pair ∈ items.zip others, Similar pair.1 pair.2) :
      Similar (.list items) (.list others)
  | tuple {items others : List (Payload σ)} (hlength : items.length = others.length)
      (hitems : ∀ pair ∈ items.zip others, Similar pair.1 pair.2) :
      Similar (.tuple items) (.tuple others)

theorem map_eq_of_zip {α β : Type*} {f : α → β} {items others : List α}
    (hlength : items.length = others.length)
    (h : ∀ pair ∈ items.zip others, f pair.1 = f pair.2) : items.map f = others.map f := by
  induction items generalizing others with
  | nil => rw [List.eq_nil_of_length_eq_zero hlength.symm]
  | cons item items ih =>
      cases others with
      | nil => cases hlength
      | cons other others =>
          obtain ⟨hfirst, hrest⟩ := List.forall_mem_cons.mp h
          rw [List.map_cons, List.map_cons, hfirst, ih (Nat.succ.inj hlength) hrest]

theorem redact_eq_of_similar {first second : Payload σ} (h : Similar unicode repr first second) :
    redact unicode repr first = redact unicode repr second := by
  induction h with
  | same => rfl
  | bytes content other => simp only [redact]
  | mapping hlength hkeys hvalues ih =>
      have hentries := map_eq_of_zip (f := redactEntry unicode repr) hlength fun pair hpair => by
        have hkey := hkeys pair hpair
        rw [redactEntry, redactEntry, ← hkey]
        cases hsensitive : isSensitiveKey unicode (keyText repr pair.1.1) with
        | true => rfl
        | false => rw [ih pair hpair hsensitive]
      simp only [redact, redactEntries_eq, hentries]
  | list hlength hitems ih => simp only [redact, redactItems_eq, map_eq_of_zip hlength ih]
  | tuple hlength hitems ih => simp only [redact, redactItems_eq, map_eq_of_zip hlength ih]

-- A request with a token and a password in it.
def request (token password : String) (body : List UInt8) : Payload Int :=
  .mapping [(.str "headers", .mapping [(.str "Token", .str token)]),
    (.str "items", .list [.mapping [(.str "wifi_password", .str password)], .scalar 7]),
    (.str "body", .bytes body)]

theorem request_similar : Similar asciiOnly (fun _ => "") (request "abc" "open" [1, 2])
    (request "def" "shut" []) := by
  have htoken : isSensitiveKey asciiOnly "Token" = true := by decide
  have hpassword : isSensitiveKey asciiOnly "wifi_password" = true := by decide
  refine .mapping rfl (by simp) ?_
  simp only [List.zip_cons_cons, List.zip_nil_right, List.forall_mem_cons]
  refine ⟨fun _ => .mapping rfl (by simp) (by simp [keyText, htoken]),
    fun _ => .list rfl ?_, fun _ => .bytes _ _, by simp⟩
  simp only [List.zip_cons_cons, List.zip_nil_right, List.forall_mem_cons]
  exact ⟨.mapping rfl (by simp) (by simp [keyText, hpassword]), .same _, by simp⟩

theorem redact_eq_of_similar_request :
    redact asciiOnly (fun _ => "") (request "abc" "open" [1, 2]) =
      redact asciiOnly (fun _ => "") (request "def" "shut" []) :=
  redact_eq_of_similar asciiOnly (fun _ => "") request_similar

end Noninterference

section Escapes

-- A text that is somewhere in a payload.
inductive Occurs (text : String) : Payload σ → Prop
  | str : Occurs text (.str text)
  | key {entries : List (Payload σ × Payload σ)} {entry : Payload σ × Payload σ}
      (hentry : entry ∈ entries) (hkey : Occurs text entry.1) : Occurs text (.mapping entries)
  | value {entries : List (Payload σ × Payload σ)} {entry : Payload σ × Payload σ}
      (hentry : entry ∈ entries) (hvalue : Occurs text entry.2) : Occurs text (.mapping entries)
  | list {items : List (Payload σ)} {item : Payload σ} (hitem : item ∈ items)
      (hoccurs : Occurs text item) : Occurs text (.list items)
  | tuple {items : List (Payload σ)} {item : Payload σ} (hitem : item ∈ items)
      (hoccurs : Occurs text item) : Occurs text (.tuple items)
  | set {elements : List (Payload σ)} {element : Payload σ} (helement : element ∈ elements)
      (hoccurs : Occurs text element) : Occurs text (.set elements)

-- Nothing is in a payload that scrubbing would change.
def Scrubbed (payload : Payload σ) : Prop :=
  ∀ text, Occurs text payload → scrubText unicode text = text

-- A key that scrubbing would change, or a set with such a text in it, that redact comes to.
inductive Leaks : Payload σ → Prop
  | key {entries : List (Payload σ × Payload σ)} {entry : Payload σ × Payload σ}
      (hentry : entry ∈ entries)
      (hchanged : scrubText unicode (keyText repr entry.1) ≠ keyText repr entry.1) :
      Leaks (.mapping entries)
  | value {entries : List (Payload σ × Payload σ)} {entry : Payload σ × Payload σ}
      (hlatest : History.Latest (fun other => keyText repr other.1 = keyText repr entry.1)
        entries entry)
      (hplain : isSensitiveKey unicode (keyText repr entry.1) = false) (hvalue : Leaks entry.2) :
      Leaks (.mapping entries)
  | list {items : List (Payload σ)} {item : Payload σ} (hitem : item ∈ items)
      (hleaks : Leaks item) : Leaks (.list items)
  | tuple {items : List (Payload σ)} {item : Payload σ} (hitem : item ∈ items)
      (hleaks : Leaks item) : Leaks (.tuple items)
  | set {elements : List (Payload σ)} {element : Payload σ} {text : String}
      (helement : element ∈ elements) (hoccurs : Occurs text element)
      (hchanged : scrubText unicode text ≠ text) : Leaks (.set elements)

variable {unicode repr}

theorem mem_redacted {entries : List (Payload σ × Payload σ)} {entry : String × Payload σ} :
    entry ∈ (OrderedDict.ofEntries (entries.map (redactEntry unicode repr))).entries ↔
      ∃ row, History.Latest (fun other => keyText repr other.1 = keyText repr row.1)
        entries row ∧ redactEntry unicode repr row = entry := by
  obtain ⟨key, value⟩ := entry
  rw [OrderedDict.mem_ofEntries_map]
  refine exists_congr fun row => and_congr_left fun h => ?_
  obtain rfl : keyText repr row.1 = key := congrArg Prod.fst h
  rfl

theorem redactEntry_mem {entries : List (Payload σ × Payload σ)} {row : Payload σ × Payload σ}
    (h : History.Latest (fun other => keyText repr other.1 = keyText repr row.1) entries row) :
    redactEntry unicode repr row ∈
      (OrderedDict.ofEntries (entries.map (redactEntry unicode repr))).entries :=
  mem_redacted.mpr ⟨row, h, rfl⟩

theorem occurs_of_leaks {payload : Payload σ} (h : Leaks unicode repr payload) :
    ∃ text, Occurs text (redact unicode repr payload) ∧ scrubText unicode text ≠ text := by
  induction h with
  | @key entries entry hentry hchanged =>
      obtain ⟨row, hlatest⟩ := @History.exists_latest _ entries
        (fun other => keyText repr other.1 = keyText repr entry.1) ⟨entry, hentry, rfl⟩
      have hkey : keyText repr row.1 = keyText repr entry.1 := hlatest.holds
      simp only [redact, redactEntries_eq]
      refine ⟨_, .key (List.mem_map_of_mem (redactEntry_mem (hkey ▸ hlatest))) .str, ?_⟩
      change scrubText unicode (keyText repr row.1) ≠ keyText repr row.1
      rwa [hkey]
  | @value entries entry hlatest hplain hvalue ih =>
      obtain ⟨text, hoccurs, hchanged⟩ := ih
      simp only [redact, redactEntries_eq]
      refine ⟨text, .value (List.mem_map_of_mem (redactEntry_mem hlatest)) ?_, hchanged⟩
      simpa [redactEntry, hplain] using hoccurs
  | list hitem hleaks ih =>
      obtain ⟨text, hoccurs, hchanged⟩ := ih
      simp only [redact, redactItems_eq]
      exact ⟨text, .list (List.mem_map_of_mem hitem) hoccurs, hchanged⟩
  | tuple hitem hleaks ih =>
      obtain ⟨text, hoccurs, hchanged⟩ := ih
      simp only [redact, redactItems_eq]
      exact ⟨text, .list (List.mem_map_of_mem hitem) hoccurs, hchanged⟩
  | set helement hoccurs hchanged =>
      simp only [redact]
      exact ⟨_, .set helement hoccurs, hchanged⟩

theorem occurs_str {text value : String} (h : Occurs text (.str value : Payload σ)) :
    text = value := by
  cases h
  rfl

-- Induction on what is stored in a payload, its keys left aside.
theorem Payload.induction {motive : Payload σ → Prop}
    (mapping : ∀ entries, (∀ entry ∈ entries, motive entry.2) → motive (.mapping entries))
    (list : ∀ items, (∀ item ∈ items, motive item) → motive (.list items))
    (tuple : ∀ items, (∀ item ∈ items, motive item) → motive (.tuple items))
    (set : ∀ elements, motive (.set elements)) (str : ∀ value, motive (.str value))
    (bytes : ∀ content, motive (.bytes content)) (scalar : ∀ value, motive (.scalar value))
    (payload : Payload σ) : motive payload :=
  @Payload.rec σ motive (fun entries => ∀ entry ∈ entries, motive entry.2)
    (fun items => ∀ item ∈ items, motive item) (fun entry => motive entry.2)
    mapping list tuple (fun elements _ => set elements) str bytes scalar (by simp)
    (fun _ _ hentry hentries => List.forall_mem_cons.mpr ⟨hentry, hentries⟩) (by simp)
    (fun _ _ hitem hitems => List.forall_mem_cons.mpr ⟨hitem, hitems⟩)
    (fun _ _ _ hvalue => hvalue) payload

theorem leaks_of_occurs {text : String} (hchanged : scrubText unicode text ≠ text)
    (payload : Payload σ) (h : Occurs text (redact unicode repr payload)) :
    Leaks unicode repr payload := by
  induction payload using Payload.induction with
  | mapping entries ih =>
      simp only [redact, redactEntries_eq] at h
      cases h with
      | key hentry hkey =>
          obtain ⟨found, hfound, rfl⟩ := List.mem_map.mp hentry
          obtain ⟨row, hlatest, rfl⟩ := mem_redacted.mp hfound
          obtain rfl := occurs_str hkey
          obtain ⟨before, after, rfl, -, -⟩ := hlatest
          exact .key (List.mem_append_right _ List.mem_cons_self) hchanged
      | value hentry hvalue =>
          obtain ⟨found, hfound, rfl⟩ := List.mem_map.mp hentry
          obtain ⟨row, hlatest, rfl⟩ := mem_redacted.mp hfound
          cases hsensitive : isSensitiveKey unicode (keyText repr row.1) with
          | true =>
              simp only [redactEntry, hsensitive, if_true] at hvalue
              obtain rfl := occurs_str hvalue
              exact absurd (scrubText_redacted unicode) hchanged
          | false =>
              refine .value hlatest hsensitive (ih row ?_ ?_)
              · obtain ⟨before, after, rfl, -, -⟩ := hlatest
                exact List.mem_append_right _ List.mem_cons_self
              · simpa [redactEntry, hsensitive] using hvalue
  | list items ih =>
      simp only [redact, redactItems_eq] at h
      cases h with
      | list hitem hoccurs =>
          obtain ⟨item, hmem, rfl⟩ := List.mem_map.mp hitem
          exact .list hmem (ih item hmem hoccurs)
  | tuple items ih =>
      simp only [redact, redactItems_eq] at h
      cases h with
      | list hitem hoccurs =>
          obtain ⟨item, hmem, rfl⟩ := List.mem_map.mp hitem
          exact .tuple hmem (ih item hmem hoccurs)
  | set elements =>
      simp only [redact] at h
      cases h with
      | set helement hoccurs => exact .set helement hoccurs hchanged
  | str value =>
      simp only [redact] at h
      obtain rfl := occurs_str h
      exact absurd (scrubText_idem unicode value) hchanged
  | bytes content =>
      simp only [redact] at h
      obtain rfl := occurs_str h
      exact absurd (scrubText_redacted unicode) hchanged
  | scalar value =>
      simp only [redact] at h
      cases h

theorem scrubbed_redact_iff (payload : Payload σ) :
    Scrubbed unicode (redact unicode repr payload) ↔ ¬Leaks unicode repr payload := by
  constructor
  · intro hscrubbed hleaks
    obtain ⟨text, hoccurs, hchanged⟩ := occurs_of_leaks hleaks
    exact hchanged (hscrubbed text hoccurs)
  · intro hsafe text hoccurs
    by_contra hchanged
    exact hsafe (leaks_of_occurs hchanged payload hoccurs)

-- The address of a peer in a set of them.
def peers : Payload Int := .mapping [(.str "peers", .set [.str "192.0.2.10"])]

theorem peers_escape : ¬Scrubbed asciiOnly (redact asciiOnly (fun _ => "") peers) := by
  have hchanged : scrubText asciiOnly "192.0.2.10" = REDACTED := by decide
  have hplain : isSensitiveKey asciiOnly "peers" = false := by decide
  intro hscrubbed
  have hsame := hscrubbed "192.0.2.10" ?_
  · rw [hchanged] at hsame
    exact absurd hsame (by decide)
  · simp only [peers, redact, redactEntries, keyText, hplain]
    exact .value List.mem_cons_self (.set List.mem_cons_self .str)

end Escapes

end Homeflow.Log
