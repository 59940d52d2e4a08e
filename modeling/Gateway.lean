import Gateway.Foundation.Execution
import Gateway.Foundation.ExpiringQueue
import Gateway.Foundation.Scheduling
import Gateway.Foundation.FirstOccurrences
import Gateway.Foundation.HashTable
import Gateway.Foundation.IterationOrder
import Gateway.Foundation.IncreasingLog
import Gateway.Foundation.InvertedIndex
import Gateway.Foundation.Json
import Gateway.Foundation.JsonValues
import Gateway.Foundation.Text
import Gateway.Foundation.UrlEncoded
import Gateway.Foundation.LastWrite
import Gateway.Foundation.KeyedList
import Gateway.Foundation.Retry
import Gateway.State.SubjectIndex
import Gateway.State.RelayAuthorization
import Gateway.State.RelayRuns
import Gateway.State.RelayStore
import Gateway.State.Replay
import Gateway.State.Delivery
import Gateway.State.Silence
import Gateway.State.Registrations
import Gateway.State.RouteRefinement
import Gateway.State.Dangling
import Gateway.State.Eviction
import Gateway.State.Closing
import Gateway.State.Fanout
import Gateway.State.ConnectionCap
import Gateway.State.RelayCalls
import Gateway.State.IterationOrder
import Gateway.State.Capacity
import Gateway.State.Refusals
import Gateway.State.SnapshotMerge
import Gateway.State.KeyCollisions
import Gateway.State.Provenance
import Gateway.State.PendingDiscipline
import Gateway.Concurrency.Subscription
import Gateway.Concurrency.Nonces
import Gateway.Concurrency.CapRace
import Gateway.Concurrency.Removal
import Gateway.Concurrency.Reconnect
import Gateway.Concurrency.PushRace
import Gateway.Broker.ExactlyOnce
import Gateway.Broker.RelaySnapshot
import Gateway.Broker.Audience
import Gateway.Broker.SnapshotLeaks
import Gateway.Broker.Deletion
import Gateway.Ingress.Confinement
import Gateway.Ingress.Sender
import Gateway.Ingress.RouteIsolation
import Gateway.Ingress.Validation
import Gateway.Ingress.Rejections
import Gateway.Ingress.RelayConditions
import Gateway.Ingress.IterationOrder
import Gateway.Session.Presence
import Gateway.Session.Traffic
import Gateway.Session.Trace
import Gateway.Session.Undelivered
import Gateway.Preauth.Guests
import Gateway.Preauth.InitialAuth
import Gateway.Preauth.Admission
import Gateway.Preauth.Authentication
import Gateway.Preauth.Query
import Gateway.Preauth.GuestIsolation
import Gateway.Foundation.Decimal
import Gateway.Process.Config
import Gateway.State.ChannelLog
import Gateway.State.PolicyTable
import Gateway.State.Listing
import Gateway.Http.Api
import Gateway.State.Departures
import Gateway.Session.Transcript
import Gateway.Process.Requests
import Gateway.Process.IterationOrder
import Gateway.Process.Policies
import Gateway.Process.Relays
import Gateway.Broker.SnapshotFormat
import Gateway.Process.Snapshots
import Gateway.Session.Credentials
import Gateway.State.Multiplicity
