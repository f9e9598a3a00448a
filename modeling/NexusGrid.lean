import NexusGrid.Groups.Attachments
import NexusGrid.Groups.Binding
import NexusGrid.Groups.Catchup
import NexusGrid.Groups.Convergence
import NexusGrid.Groups.Dedupe
import NexusGrid.Groups.Desk
import NexusGrid.Groups.Refresh
import NexusGrid.Groups.RelayCode
import NexusGrid.Groups.Relaying
import NexusGrid.Groups.Standing
import NexusGrid.Networking.Listeners
import NexusGrid.Networking.PeerHttp
import NexusGrid.Networking.PeerSocket
import NexusGrid.Networking.Pipe
import NexusGrid.Networking.StreamEnds
import NexusGrid.Networking.TokenBucket
import NexusGrid.Networking.WorkerFrames
import NexusGrid.Pairing.Limit
import NexusGrid.Pairing.Verifiers
import NexusGrid.Relay.Subscriptions
import NexusGrid.Replica.Bases
import NexusGrid.Replica.Env
import NexusGrid.Runtime.Backup
import NexusGrid.Runtime.IsoTime
import NexusGrid.Runtime.RelayBindings
import NexusGrid.Runtime.Updater
import NexusGrid.Scheduler.Dispatch
import NexusGrid.Security.Entrypoint
import NexusGrid.Security.JoinLink
import NexusGrid.Services.Health
import NexusGrid.Services.Provision
import NexusGrid.Services.Published
import NexusGrid.Services.Revocation
import NexusGrid.Services.Snapshot
import NexusGrid.Storage.Abandoned
import NexusGrid.Storage.Acknowledged
import NexusGrid.Storage.AutoOffer
import NexusGrid.Storage.Capacity
import NexusGrid.Storage.Deposited
import NexusGrid.Storage.Eviction
import NexusGrid.Storage.Grace
import NexusGrid.Storage.Missing
import NexusGrid.Storage.Overflow
import NexusGrid.Storage.Preview
import NexusGrid.Storage.Rescue
import NexusGrid.Storage.Series
import NexusGrid.Storage.Throttle
import NexusGrid.Storage.Versions
import NexusGrid.Tasks.Completion
import NexusGrid.Tasks.Deploy
import NexusGrid.Tasks.Offers
import NexusGrid.Tasks.Outcomes
import NexusGrid.Tasks.Rounds
import NexusGrid.Tasks.Sessions
import NexusGrid.Tasks.SubmitResult
import NexusGrid.Lib.LruSet
