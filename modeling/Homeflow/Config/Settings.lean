import Homeflow.Bestway.Discovery
import Homeflow.HomeAssistant.Entities
import Mathlib.Data.List.Dedup

-- What the operator decides. A start that could do harm is refused.
namespace Homeflow.Config

-- Deliberately public, for devices that are synthetic.
def DEMO_ID_SALT : String := "homeflow-demo-mode-public-salt"

inductive Environment where
  | development | test | production
deriving DecidableEq, Repr

-- The settings, each converted to its type.
structure Fields extends Bestway.Settings where
  env : Environment := .development
  demoMode : Bool := true
  allowedHosts : List String := ["*"]
  idSalt : Option String := none
  devClientToken : Option String := none
  commandTimeoutSeconds : ℚ := 8
  reconcileTimeoutSeconds : ℚ := 4
  staleAfterSeconds : Int := 120
  commandRateLimitPerMinute : Int := 60
  websocketRateLimitPerMinute : Int := 120
  eventQueueSize : Int := 256
  homeAssistantEnabled : Bool := false
  homeAssistantBaseUrl : Option String := none
  homeAssistantToken : Option String := none
  homeAssistantTimeoutSeconds : ℚ := 10
  homeAssistantWriteEnabled : List String := []
  scheduleMaxHours : ℚ := 24
  scheduleTickSeconds : ℚ := 20
  weatherEnabled : Bool := false
  weatherLatitude : Option ℚ := none
  weatherLongitude : Option ℚ := none
  weatherPollSeconds : ℚ := 900
  weatherDisplayName : String := "Outdoor"
  bestwayEnabled : Bool := false
  bestwayHost : Option String := none
  bestwayPort : Int := 12416
  bestwayPollSeconds : ℚ := 15
  demoTickSeconds : ℚ := 2
  demoFailureRate : ℚ := 0

-- Whether Python takes a text that may be missing for true.
def given (text : Option String) : Bool := text.any (· ≠ "")

namespace Fields

variable (fields : Fields)

def Bounded : Prop :=
  (0 < fields.commandTimeoutSeconds ∧ fields.commandTimeoutSeconds ≤ 60) ∧
  (0 < fields.reconcileTimeoutSeconds ∧ fields.reconcileTimeoutSeconds ≤ 30) ∧
  5 ≤ fields.staleAfterSeconds ∧
  1 ≤ fields.commandRateLimitPerMinute ∧
  1 ≤ fields.websocketRateLimitPerMinute ∧
  8 ≤ fields.eventQueueSize ∧
  (0 < fields.homeAssistantTimeoutSeconds ∧ fields.homeAssistantTimeoutSeconds ≤ 60) ∧
  (0 < fields.scheduleMaxHours ∧ fields.scheduleMaxHours ≤ 48) ∧
  (1 ≤ fields.scheduleTickSeconds ∧ fields.scheduleTickSeconds ≤ 300) ∧
  (∀ latitude ∈ fields.weatherLatitude, -90 ≤ latitude ∧ latitude ≤ 90) ∧
  (∀ longitude ∈ fields.weatherLongitude, -180 ≤ longitude ∧ longitude ≤ 180) ∧
  (300 ≤ fields.weatherPollSeconds ∧ fields.weatherPollSeconds ≤ 21600) ∧
  (1 ≤ fields.bestwayPort ∧ fields.bestwayPort ≤ 65535) ∧
  (2 ≤ fields.bestwayPollSeconds ∧ fields.bestwayPollSeconds ≤ 300) ∧
  0 < fields.demoTickSeconds ∧
  (0 ≤ fields.demoFailureRate ∧ fields.demoFailureRate ≤ 1)

instance : Decidable fields.Bounded := by
  unfold Bounded
  infer_instance

-- The domains asked for that no setting can release, sorted.
def unreleasable : List String :=
  (fields.homeAssistantWriteEnabled.filter (· ∉ HomeAssistant.RELEASABLE_DOMAINS)).dedup.mergeSort

-- What must not be, in the order in which it is looked at, and what is said of it.
def failures : List (Bool × String) :=
  [(fields.env = .production ∧ fields.demoMode,
      "HOMEFLOW_DEMO_MODE must be false in production: demo mode serves " ++
        "synthetic devices and would hide real household state."),
    (fields.env = .production ∧ fields.devClientToken.isSome,
      "HOMEFLOW_DEV_CLIENT_TOKEN must not be set in production. Register a client instead."),
    (fields.env = .production ∧ "*" ∈ fields.allowedHosts,
      "HOMEFLOW_ALLOWED_HOSTS must list the exact private hostnames the " ++
        "gateway answers on; a wildcard enables DNS rebinding."),
    (fields.weatherEnabled ∧ (fields.weatherLatitude = none ∨ fields.weatherLongitude = none),
      "HOMEFLOW_WEATHER_LATITUDE and HOMEFLOW_WEATHER_LONGITUDE are required " ++
        "when the outdoor temperature is enabled"),
    (fields.homeAssistantEnabled ∧
        ¬(given fields.homeAssistantBaseUrl ∧ given fields.homeAssistantToken),
      "HOMEFLOW_HOME_ASSISTANT_BASE_URL and HOMEFLOW_HOME_ASSISTANT_TOKEN are " ++
        "required when the Home Assistant adapter is enabled"),
    (fields.unreleasable ≠ [],
      "HOMEFLOW_HOME_ASSISTANT_WRITE_ENABLED may not contain " ++
        ", ".intercalate fields.unreleasable ++ ". Releasable domains are " ++
        ", ".intercalate HomeAssistant.RELEASABLE_DOMAINS.mergeSort ++
        "; door control needs the fresh device-owner authorisation described in SECURITY.md."),
    (fields.homeAssistantEnabled ∧ fields.demoMode,
      "Demo mode must not run alongside the Home Assistant adapter: a demo " ++
        "build must not be able to reach real devices."),
    (fields.bestwayEnabled ∧ ¬given fields.bestwayHost,
      "HOMEFLOW_BESTWAY_HOST is required when the adapter is enabled"),
    (fields.bestwayWriteEnabled ≠ [] ∧ ¬fields.bestwayTrustProfile,
      "HOMEFLOW_BESTWAY_WRITE_ENABLED requires HOMEFLOW_BESTWAY_TRUST_PROFILE: a " ++
        "capability cannot be released for writing while the datapoint layout is " ++
        "still unverified."),
    (fields.bestwayEnabled ∧ fields.demoMode,
      "Demo mode must not run alongside the Bestway adapter: a demo build must " ++
        "not be able to reach real hardware."),
    (¬fields.demoMode ∧ fields.idSalt = none,
      "HOMEFLOW_ID_SALT is required outside demo mode so that public device " ++
        "identifiers cannot be reversed to provider identifiers.")]

def failClosed : Option String := (fields.failures.find? Prod.fst).map Prod.snd

end Fields

section Closed

variable {fields : Fields}

theorem Fields.mem_unreleasable {domain : String} : domain ∈ fields.unreleasable ↔
    domain ∈ fields.homeAssistantWriteEnabled ∧ domain ∉ HomeAssistant.RELEASABLE_DOMAINS := by
  rw [unreleasable, (List.mergeSort_perm _ _).mem_iff, List.mem_dedup, List.mem_filter,
    decide_eq_true_eq]

-- What holds of settings with none of the failures.
@[mk_iff] structure Fields.Closed (fields : Fields) : Prop where
  real : fields.env = .production → fields.demoMode = false
  unregistered : fields.env = .production → fields.devClientToken = none
  hosts : fields.env = .production → "*" ∉ fields.allowedHosts
  located : fields.weatherEnabled = true →
    fields.weatherLatitude.isSome ∧ fields.weatherLongitude.isSome
  reachable : fields.homeAssistantEnabled = true →
    given fields.homeAssistantBaseUrl = true ∧ given fields.homeAssistantToken = true
  releasable : ∀ domain ∈ fields.homeAssistantWriteEnabled,
    domain ∈ HomeAssistant.RELEASABLE_DOMAINS
  realHouse : fields.homeAssistantEnabled = true → fields.demoMode = false
  hosted : fields.bestwayEnabled = true → given fields.bestwayHost = true
  trusted : fields.bestwayWriteEnabled ≠ [] → fields.bestwayTrustProfile = true
  realPool : fields.bestwayEnabled = true → fields.demoMode = false
  salted : fields.demoMode = false → fields.idSalt.isSome

theorem Fields.releasable_iff : fields.unreleasable = [] ↔
    ∀ domain ∈ fields.homeAssistantWriteEnabled, domain ∈ HomeAssistant.RELEASABLE_DOMAINS := by
  simp [List.eq_nil_iff_forall_not_mem, mem_unreleasable]

theorem Fields.failClosed_eq_none_iff : fields.failClosed = none ↔ fields.Closed := by
  rw [failClosed, Option.map_eq_none_iff, List.find?_eq_none, Fields.closed_iff]
  simp [failures, Fields.releasable_iff, Option.isSome_iff_ne_none]

end Closed

-- Settings that the gateway starts with.
structure Settings extends Fields where
  bounded : toFields.Bounded
  closed : toFields.Closed

inductive Refusal where
  | outOfBounds
  | failedClosed (text : String)

def Settings.load (fields : Fields) : Except Refusal Settings :=
  if hbounded : fields.Bounded then
    match hclosed : fields.failClosed with
    | none => .ok ⟨fields, hbounded, Fields.failClosed_eq_none_iff.mp hclosed⟩
    | some text => .error (.failedClosed text)
  else .error .outOfBounds

def Settings.effectiveIdSalt (settings : Settings) : String := settings.idSalt.getD DEMO_ID_SALT

end Homeflow.Config
