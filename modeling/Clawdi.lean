import Clawdi.CliUpdate.Recovery
import Clawdi.ConvergeLock.Exclusion
import Clawdi.Credentials.Bearer
import Clawdi.Delivery.Finality
import Clawdi.Delivery.Safety
import Clawdi.DiscordGateway.Disclosure
import Clawdi.DiscordLocks.Leases
import Clawdi.DiscordWorker.Reports
import Clawdi.EventUpload.Validated
import Clawdi.Heartbeat.CaptureClock
import Clawdi.Heartbeat.Lockout
import Clawdi.Heartbeat.UserActivity
import Clawdi.Noise.Decoding
import Clawdi.OAuth.Recovery
import Clawdi.Observation.Pages
import Clawdi.Observation.Tombstone
import Clawdi.Onboarding.Final
import Clawdi.Pairing.ControlReplay
import Clawdi.PlatformMutations.AtMostOnce
import Clawdi.Principals.Lifecycle
import Clawdi.PrivateLock.Exclusion
import Clawdi.ProviderInbox.Atomicity
import Clawdi.ProviderInbox.Delivery
import Clawdi.Providers.Ownership
import Clawdi.RateLimits.DiscordBackOff
import Clawdi.RateLimits.Shared
import Clawdi.RateLimits.Telegram
import Clawdi.Serve.Capacity
import Clawdi.Serve.Conservation
import Clawdi.SessionEvents.PinnedPrefix
import Clawdi.SessionEvents.Retry
import Clawdi.SessionSearch.Agreement
import Clawdi.Signal.Agreement
import Clawdi.Signal.Atomicity
import Clawdi.Signal.Codec
import Clawdi.SkillArchives.Available
import Clawdi.SkillArchives.Rerooting
import Clawdi.SkillSync.Authority
import Clawdi.SkillSync.Fence
import Clawdi.SkillSync.Materialization
import Clawdi.Snapshots.BlobHash
import Clawdi.Snapshots.Collected
import Clawdi.SyncEvents.Delivery
import Clawdi.SystemdActivation.Truthful
import Clawdi.Telegram.Loss
import Clawdi.Vaults.BulkResolution
import Clawdi.Vaults.Consistency
import Clawdi.Vaults.Dotenv
import Clawdi.Vaults.References
import Clawdi.WhatsApp.Progress
import Clawdi.WhatsApp.Registry
import Clawdi.WhatsApp.Relay
