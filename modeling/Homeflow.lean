import Homeflow.Commands.Policy
import Homeflow.Schedules.Disarmed
import Homeflow.Schedules.DueOrder
import Homeflow.Schedules.Final
import Homeflow.Schedules.Table
import Homeflow.Schedules.Unattended
import Homeflow.Adapters.Applied
import Homeflow.Adapters.Release
import Homeflow.Api.Guessing
import Homeflow.Auth.Redemption
import Homeflow.Bestway.Client
import Homeflow.Bestway.Confirm
import Homeflow.Bestway.Control
import Homeflow.Bestway.Disclosure
import Homeflow.Bestway.Freshness
import Homeflow.Bestway.Isolation
import Homeflow.Bestway.Login
import Homeflow.Bestway.OneField
import Homeflow.Bestway.Peer
import Homeflow.Bestway.Reassembly
import Homeflow.Bestway.Released
import Homeflow.Bestway.Setpoint
import Homeflow.Bestway.Subscription
import Homeflow.Bestway.Tolerance
import Homeflow.Bestway.Varint
import Homeflow.Commands.Audit
import Homeflow.Commands.Expiry
import Homeflow.Commands.Tracked
import Homeflow.Commands.Trail
import Homeflow.Demo.Desired
import Homeflow.Demo.Heating
import Homeflow.Demo.Sound
import Homeflow.Demo.Truth
import Homeflow.Devices.Filtering
import Homeflow.Devices.Identity
import Homeflow.Events.Ending
import Homeflow.Events.Forward
import Homeflow.Gateway.Gate
import Homeflow.Gateway.Replacement
import Homeflow.HomeAssistant.Heating
import Homeflow.HomeAssistant.Hostile
import Homeflow.HomeAssistant.Judgement
import Homeflow.HomeAssistant.Release
import Homeflow.HomeAssistant.Rooms
import Homeflow.HomeAssistant.Stream
import Homeflow.HomeAssistant.Updates
import Homeflow.Lib.FifoMutex
import Homeflow.Live.Convergence
import Homeflow.Log.Redact
import Homeflow.Main.Restarts
import Homeflow.RateBudget
import Homeflow.Web.Offered
import Homeflow.Web.OneCommand
import Homeflow.Web.OneSocket
import Homeflow.Weather.Quota
import Homeflow.Ws.Isolation
import Homeflow.Config.Access
import Homeflow.Config.Deployment
import Homeflow.Api.Clients
import Homeflow.Web.Offline
import Homeflow.Gateway.Privacy
import Homeflow.Schedules.Prompt
