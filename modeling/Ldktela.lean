import Ldktela.Api.Announcements
import Ldktela.Api.Concealment
import Ldktela.Api.Config
import Ldktela.Api.Errors
import Ldktela.Api.HandlerSteps
import Ldktela.Api.InFlight
import Ldktela.Api.Integers
import Ldktela.Api.Livekit
import Ldktela.Api.PeakViewers
import Ldktela.Api.Permissions
import Ldktela.Api.PublishSlots
import Ldktela.Api.RoomIsolation
import Ldktela.Api.RoomTokens
import Ldktela.Api.Rooms
import Ldktela.Api.SessionMirror
import Ldktela.Api.Sfu
import Ldktela.Api.ShareHistory
import Ldktela.Api.TwoConnections
import Ldktela.Auth.Cleanup
import Ldktela.Auth.Exchange
import Ldktela.Auth.Family
import Ldktela.Auth.Ownership
import Ldktela.Auth.Session
import Ldktela.Auth.SignIn
import Ldktela.Bot.Announce
import Ldktela.Bot.Announcer
import Ldktela.Bot.Backfill
import Ldktela.Bot.Eviction
import Ldktela.Bot.FollowedRoom
import Ldktela.Bot.Handler
import Ldktela.Bot.Incremental
import Ldktela.Bot.Nicknames
import Ldktela.Bot.Pairing
import Ldktela.Bot.ReplicaSync
import Ldktela.Bot.Revoke
import Ldktela.Bot.StaleTokens
import Ldktela.Bot.VoicePosition
import Ldktela.Bot.VoiceState
import Ldktela.Camera.Conversions
import Ldktela.Camera.Convert
import Ldktela.Camera.Devices
import Ldktela.Camera.Formats
import Ldktela.Camera.Frames
import Ldktela.Camera.Negotiation
import Ldktela.Camera.Pacing
import Ldktela.Camera.Preview
import Ldktela.Camera.Reading
import Ldktela.Db.LiveTags
import Ldktela.Db.Pairing
import Ldktela.Db.Presence
import Ldktela.Db.PublishingFlag
import Ldktela.Db.RefreshTokens
import Ldktela.Db.ShareSessions
import Ldktela.Desktop.Admission
import Ldktela.Desktop.Agreement
import Ldktela.Desktop.ApiClient
import Ldktela.Desktop.AudioCapture
import Ldktela.Desktop.AudioPolicy
import Ldktela.Desktop.AudioPump
import Ldktela.Desktop.Backoff
import Ldktela.Desktop.Chimes
import Ldktela.Desktop.ConnectionState
import Ldktela.Desktop.Detached
import Ldktela.Desktop.DiscordTree
import Ldktela.Desktop.Echo
import Ldktela.Desktop.ErrorText
import Ldktela.Desktop.Follow
import Ldktela.Desktop.FrameText
import Ldktela.Desktop.GatewayClient
import Ldktela.Desktop.GatewayFrames
import Ldktela.Desktop.GatewayStages
import Ldktela.Desktop.GiveUp
import Ldktela.Desktop.HeartbeatInterval
import Ldktela.Desktop.KeptSession
import Ldktela.Desktop.Leave
import Ldktela.Desktop.MediaSession
import Ldktela.Desktop.MediaStore
import Ldktela.Desktop.Notes
import Ldktela.Desktop.OwnRoom
import Ldktela.Desktop.PairingCode
import Ldktela.Desktop.Publisher
import Ldktela.Desktop.Reconnection
import Ldktela.Desktop.ReleaseNotes
import Ldktela.Desktop.RoomEvents
import Ldktela.Desktop.RoomStore
import Ldktela.Desktop.RoomView
import Ldktela.Desktop.Runtime
import Ldktela.Desktop.SameSession
import Ldktela.Desktop.Sampling
import Ldktela.Desktop.SessionTurns
import Ldktela.Desktop.Share
import Ldktela.Desktop.Sharing
import Ldktela.Desktop.Shown
import Ldktela.Desktop.SignedOut
import Ldktela.Desktop.SingleUse
import Ldktela.Desktop.TileState
import Ldktela.Desktop.Tiles
import Ldktela.Desktop.TimedGateway
import Ldktela.Desktop.Wire
import Ldktela.Desktop.WithinLimits
import Ldktela.Discord.ChannelIndex
import Ldktela.Discord.Mirror
import Ldktela.Discord.Outage
import Ldktela.Discord.Replica
import Ldktela.Domain.Discord
import Ldktela.Domain.Precedence
import Ldktela.Gateway.Connections
import Ldktela.Gateway.Dispatches
import Ldktela.Gateway.FrameLimit
import Ldktela.Gateway.FreshClient
import Ldktela.Gateway.Hub
import Ldktela.Gateway.HubLimits
import Ldktela.Gateway.Messages
import Ldktela.Gateway.Reachable
import Ldktela.Gateway.Ready
import Ldktela.Gateway.Registered
import Ldktela.Gateway.ReplayWindow
import Ldktela.Gateway.Resume
import Ldktela.Gateway.Serve
import Ldktela.Gateway.Session
import Ldktela.Gateway.Standing
import Ldktela.Lib.Ancestry
import Ldktela.Lib.Attempts
import Ldktela.Lib.Base64
import Ldktela.Lib.Broadcast
import Ldktela.Lib.Bursts
import Ldktela.Lib.Collected
import Ldktela.Lib.Hex
import Ldktela.Lib.HighWater
import Ldktela.Lib.Json
import Ldktela.Lib.Keyed
import Ldktela.Lib.Lossy
import Ldktela.Lib.Masks
import Ldktela.Lib.Numbered
import Ldktela.Lib.Paging
import Ldktela.Lib.Regex
import Ldktela.Lib.Replay
import Ldktela.Lib.Rows
import Ldktela.Lib.Runs
import Ldktela.Lib.Simulation
import Ldktela.Lib.Unique
import Ldktela.Protocol
import Ldktela.Protocol.UuidText
