import Homeflow.Api.Entry
import Homeflow.Config.Settings
import Homeflow.Demo.Household
import Homeflow.Devices.Identity
import Homeflow.HomeAssistant.Discovery
import Homeflow.Weather.Provider

-- What a deployment can reach is wired here.
namespace Homeflow.Config

inductive Provider where
  | demo (provider : Demo.DemoProvider)
  | bestway (provider : Bestway.BestwayProvider)
  | homeAssistant (provider : HomeAssistant.HomeAssistantProvider)
  | weather (provider : Weather.OpenMeteoProvider)

def Provider.name : Provider → String
  | .demo _ => Demo.PROVIDER_NAME
  | .bestway _ => Bestway.PROVIDER_NAME
  | .homeAssistant _ => HomeAssistant.PROVIDER_NAME
  | .weather _ => Weather.PROVIDER_NAME

theorem given_iff {text : Option String} : given text = true ↔ ∃ value, text = some value ∧
    value ≠ "" := by
  simp [given, Option.any_eq_true]

section Build

variable (settings : Settings)

-- The settings as the adapter of the pool sees them.
def Settings.gateway : Bestway.GatewaySettings where
  toSettings := settings.toSettings
  demoMode := settings.demoMode
  bestwayEnabled := settings.bestwayEnabled
  bestwayHost := settings.bestwayHost
  host_given := fun henabled => given_iff.mp (settings.closed.hosted henabled)
  writes_trusted := settings.closed.trusted
  not_demo := settings.closed.realPool

def buildHomeAssistant : Option HomeAssistant.HomeAssistantProvider :=
  if settings.homeAssistantEnabled ∧ given settings.homeAssistantBaseUrl ∧
      given settings.homeAssistantToken then
    some { releasedDomains := settings.homeAssistantWriteEnabled }
  else none

def buildWeather : Option Weather.OpenMeteoProvider :=
  if settings.weatherEnabled ∧ settings.weatherLatitude.isSome ∧
      settings.weatherLongitude.isSome then
    some { displayName := settings.weatherDisplayName, pollSeconds := settings.weatherPollSeconds }
  else none

-- None: the layout of the pool is refused, and the start fails.
def buildProviders (read : String → Option Bestway.Layout) : Option (List Provider) :=
  if settings.demoMode then some [.demo (.create settings.demoFailureRate)]
  else
    (Bestway.buildProvider read settings.gateway).map fun bestway =>
      (bestway.map Provider.bestway).toList ++
        ((buildHomeAssistant settings).map Provider.homeAssistant).toList ++
        ((buildWeather settings).map Provider.weather).toList

-- Without a credential, and in production, there are no clients.
def buildClientRegistry (sha256Hex : String → String) (digest : String → String → Uuid) :
    Auth.ClientRegistry :=
  match settings.devClientToken with
  | none => {}
  | some token =>
      if settings.env = .production then {}
      else
        let salt := settings.effectiveIdSalt
        ⟨[{ clientId := Identity.deriveUuid digest salt ["client", "development"]
            userId := Identity.deriveUuid digest salt ["user", "development"]
            displayName := "Development client"
            tokenSha256 := sha256Hex token }]⟩

end Build

-- 30 seconds, in microseconds.
def TICKET_TTL_SECONDS : Time := 30000000

structure Container where
  clients : Auth.ClientRegistry
  tickets : Auth.TicketStore := {
    ttl := TICKET_TTL_SECONDS, bounded := Auth.TicketStore.bounded_empty }
  providers : List Provider
  authRateLimiter : RateLimiter := .create 30 (some 10) 1024 RateLimiter.tracksSome_default
  commandRateLimiter : RateLimiter

def buildContainer (sha256Hex : String → String) (digest : String → String → Uuid)
    (read : String → Option Bestway.Layout) (settings : Settings) : Option Container :=
  (buildProviders settings read).map fun providers => {
    clients := buildClientRegistry settings sha256Hex digest
    providers
    commandRateLimiter := .create settings.commandRateLimitPerMinute.toNat none 1024
      RateLimiter.tracksSome_default }

end Homeflow.Config
