import Kurrent.Batch.Answers
import Kurrent.Batch.Calls
import Kurrent.Batch.Client
import Kurrent.Batch.Session
import Kurrent.Batch.Shutdown
import Kurrent.Batch.Wire
import Kurrent.Extras.Drives
import Kurrent.Extras.FreeMem
import Kurrent.Extras.Metrics
import Kurrent.Extras.Queues
import Kurrent.Extras.Stats
import Kurrent.Extras.StatsOrder
import Kurrent.Extras.StatsPanics
import Kurrent.Grpc.Accepted
import Kurrent.Grpc.AcceptedSettings
import Kurrent.Grpc.Attempts
import Kurrent.Grpc.Candidates
import Kurrent.Grpc.Changes
import Kurrent.Grpc.Clients
import Kurrent.Grpc.ConnectionString
import Kurrent.Grpc.Deadline
import Kurrent.Grpc.Expressible
import Kurrent.Grpc.Failover
import Kurrent.Grpc.Gossip
import Kurrent.Grpc.Headers
import Kurrent.Grpc.NodeConnection
import Kurrent.Grpc.NodeSelection
import Kurrent.Grpc.Operations
import Kurrent.Grpc.Provenance
import Kurrent.Grpc.Query
import Kurrent.Grpc.QueryOrder
import Kurrent.Grpc.Seeds
import Kurrent.Grpc.Semver
import Kurrent.Grpc.Senders
import Kurrent.Grpc.ServerFeatures
import Kurrent.Grpc.Settings
import Kurrent.Grpc.SettingsJson
import Kurrent.Grpc.StateMachine
import Kurrent.Grpc.UrlText
import Kurrent.Grpc.UserInfo
import Kurrent.Lib.Actor
import Kurrent.Lib.BigEndian
import Kurrent.Lib.Channel
import Kurrent.Lib.Json
import Kurrent.Lib.Log
import Kurrent.Lib.Loop
import Kurrent.Lib.Optimistic
import Kurrent.Lib.Orders
import Kurrent.Lib.Percent
import Kurrent.Lib.Pick
import Kurrent.Lib.Pull
import Kurrent.Lib.Run
import Kurrent.Lib.SortedMap
import Kurrent.Lib.Text
import Kurrent.Lib.Versioned
import Kurrent.Persistent.Acks
import Kurrent.Persistent.Answers
import Kurrent.Persistent.Info
import Kurrent.Persistent.Manage
import Kurrent.Persistent.Selectors
import Kurrent.Persistent.Snapshot
import Kurrent.Persistent.Wire
import Kurrent.Projections.Create
import Kurrent.Projections.Value
import Kurrent.Streams.CatchUp
import Kurrent.Streams.Delivery
import Kurrent.Streams.Drain
import Kurrent.Streams.Event
import Kurrent.Streams.FromEnd
import Kurrent.Streams.Metadata
import Kurrent.Streams.MetadataCalls
import Kurrent.Streams.MetadataNull
import Kurrent.Streams.Names
import Kurrent.Streams.Position
import Kurrent.Streams.PositionText
import Kurrent.Streams.Proposed
import Kurrent.Streams.Published
import Kurrent.Streams.Readers
import Kurrent.Streams.Requests
import Kurrent.Streams.Resubscribe
import Kurrent.Streams.Subscription
import Kurrent.Streams.UuidWire
import Kurrent.Streams.Write
import Kurrent.Types
