import RtsGame.Library.Table
import RtsGame.Library.Tracking
import RtsGame.Library.Runs
import RtsGame.Library.Words
import RtsGame.Scalar
import RtsGame.Exact
import RtsGame.Room.Types
import RtsGame.Room.Commands
import RtsGame.Room.Simulation
import RtsGame.Room.Effects
import RtsGame.Room.Purchases
import RtsGame.Room.Refinement
import RtsGame.Room.Orders
import RtsGame.Room.Reachability
import RtsGame.Room.Isolation
import RtsGame.Room.Tracking
import RtsGame.Room.Accounting
import RtsGame.Room.Origins
import RtsGame.Room.LoadTypes
import RtsGame.Room.Setup
import RtsGame.Room.Battle
import RtsGame.Shard.Protocol
import RtsGame.Shard.Sync
import RtsGame.Shard.LogicShard
import RtsGame.Shard.Moves
import RtsGame.Shard.Indexing
import RtsGame.Shard.Handlers
import RtsGame.Shard.RoomRules
import RtsGame.Shard.LifeCycle
import RtsGame.Shard.Teams
import RtsGame.Server.GameServer
import RtsGame.Server.Membership
import RtsGame.Shard.GameStart
import RtsGame.Shard.Games
import RtsGame.Shard.Accounts
import RtsGame.Shard.Victory
import RtsGame.Library.Replica
import RtsGame.Room.FrameLists
import RtsGame.Shard.Replica
import RtsGame.Room.Interleaving
import RtsGame.Library.Bytes
import RtsGame.Wire.Framing
import RtsGame.Server.Placement
import RtsGame.Server.Addressing
import RtsGame.Server.NetworkShard
import RtsGame.Server.Routes
import RtsGame.Server.Feeding
import RtsGame.Gate.Cluster
import RtsGame.Library.Lanes
import RtsGame.Gate.Inbound
import RtsGame.Server.Memory
import RtsGame.Gate.Farewell
import RtsGame.Gate.Departures
import RtsGame.Gate.Zombies
import RtsGame.Gate.Links
import RtsGame.Gate.Outbound
import RtsGame.Library.Proto
import RtsGame.Wire.Messages
import RtsGame.Server.Queues
import RtsGame.Shard.Announcements
import RtsGame.Shard.Capacity
import RtsGame.Server.Recipients
import RtsGame.Server.Packets
import RtsGame.Room.Standstill
import RtsGame.Server.Flood
import RtsGame.Shard.Waiting
import RtsGame.Library.Register
import RtsGame.Room.Identity
import RtsGame.Room.Modes
import RtsGame.Gate.ClientSession
import RtsGame.Gate.SendQueues
import RtsGame.Gate.LinkQueues
import RtsGame.Gate.ConnPool
import RtsGame.Gate.Frontend
import RtsGame.Gate.Indexes
import RtsGame.Library.ProtoReader
import RtsGame.Gate.Authenticity
import RtsGame.Library.Script
import RtsGame.Room.Turns
import RtsGame.Room.Conduct
import RtsGame.Room.Fates
import RtsGame.Room.Trade
import RtsGame.Room.Training
import RtsGame.Room.Destruction
import RtsGame.Room.Workers
import RtsGame.Room.Construction
import RtsGame.Library.Pace
import RtsGame.Room.Combat
import RtsGame.Reals
import RtsGame.Room.Leash
import RtsGame.Library.Ring
import RtsGame.Server.Metrics
import RtsGame.Shard.Leaving
import RtsGame.Gate.Forwarding
import RtsGame.Library.Strides
import RtsGame.Room.Walking
import RtsGame.Library.Polyline
import RtsGame.Room.Paths
import RtsGame.Room.Offsets
import RtsGame.Room.Reach
import RtsGame.Library.Grid
import RtsGame.Room.Formation
import RtsGame.Library.Ranks
import RtsGame.Room.Groups
import RtsGame.Library.Tally
import RtsGame.Room.Deeds
import RtsGame.Room.Harvest
import RtsGame.Room.Speed
import RtsGame.Shard.Audience
import RtsGame.Gate.Integrity
import RtsGame.Shard.Stream
import RtsGame.Shard.Recovery
import RtsGame.Library.Compartments
import RtsGame.Shard.Compartments
import RtsGame.Library.Deadlines
import RtsGame.Shard.TickLoop
import RtsGame.Library.ProtoFields
import RtsGame.Wire.Decoding
import RtsGame.Gate.Delivery
import RtsGame.Gate.Requests
import RtsGame.Gate.Upload
import RtsGame.Gate.Heartbeat
import RtsGame.Gate.KeepAlive
import RtsGame.Library.RoundRobin
import RtsGame.Gate.Balance
import RtsGame.Library.Countdown
import RtsGame.Room.Production
import RtsGame.Room.Effort
import RtsGame.Server.Spread
import RtsGame.Library.Nearest
import RtsGame.Room.Vigilance
