import FuryClash.Client.Agreement
import FuryClash.Client.Arena
import FuryClash.Client.Boundaries
import FuryClash.Client.Chunks
import FuryClash.Client.Clock
import FuryClash.Client.Detection
import FuryClash.Client.Dispatch
import FuryClash.Client.Duel
import FuryClash.Client.EarlyInput
import FuryClash.Client.FightLoop
import FuryClash.Client.FrameLaws
import FuryClash.Client.HonestInput
import FuryClash.Client.HostLoop
import FuryClash.Client.HttpClient
import FuryClash.Client.InRoom
import FuryClash.Client.Input
import FuryClash.Client.InputBuffer
import FuryClash.Client.InputCodec
import FuryClash.Client.Introduction
import FuryClash.Client.Isolation
import FuryClash.Client.JoinText
import FuryClash.Client.Keyboard
import FuryClash.Client.Lobby
import FuryClash.Client.LobbyPair
import FuryClash.Client.LobbyText
import FuryClash.Client.NetErrors
import FuryClash.Client.OwnBytes
import FuryClash.Client.Prediction
import FuryClash.Client.Replay
import FuryClash.Client.Rewind
import FuryClash.Client.RingIndex
import FuryClash.Client.Rollback
import FuryClash.Client.SameFight
import FuryClash.Client.Sending
import FuryClash.Client.Serializer
import FuryClash.Client.ServerJson
import FuryClash.Client.ServerText
import FuryClash.Client.Serving
import FuryClash.Client.Session
import FuryClash.Client.SignedFrames
import FuryClash.Client.SlotInputs
import FuryClash.Client.Solo
import FuryClash.Client.Upgrade
import FuryClash.Client.UrlParsers
import FuryClash.Client.Wire
import FuryClash.Client.WireFrame
import FuryClash.Client.WsClient
import FuryClash.Client.WsFrame
import FuryClash.Data.Alignment
import FuryClash.Data.Framing
import FuryClash.Data.Http
import FuryClash.Data.JsValue
import FuryClash.Data.JsonParser
import FuryClash.Data.JsonReads
import FuryClash.Data.JsonStrings
import FuryClash.Data.JsonText
import FuryClash.Data.ListUpdate
import FuryClash.Data.LittleEndian
import FuryClash.Data.MergedLog
import FuryClash.Data.Ring
import FuryClash.Data.Run
import FuryClash.Data.Table
import FuryClash.Data.Tasks
import FuryClash.Data.Traces
import FuryClash.Gameplay.Bounds
import FuryClash.Gameplay.Exchange
import FuryClash.Gameplay.Fighter
import FuryClash.Gameplay.HeldButton
import FuryClash.Gameplay.Hitboxes
import FuryClash.Gameplay.MatchOver
import FuryClash.Gameplay.PushOut
import FuryClash.Gameplay.Reach
import FuryClash.Gameplay.Recovery
import FuryClash.Gameplay.Rounds
import FuryClash.Gameplay.Sides
import FuryClash.Gameplay.SimState
import FuryClash.Gameplay.SpecialMoves
import FuryClash.Gameplay.Verdict
import FuryClash.Gameplay.Wounds
import FuryClash.Server.AccountUse
import FuryClash.Server.Accounts
import FuryClash.Server.Acts
import FuryClash.Server.Admission
import FuryClash.Server.AllOrNothing
import FuryClash.Server.Coins
import FuryClash.Server.Elo
import FuryClash.Server.EloLaws
import FuryClash.Server.EndTold
import FuryClash.Server.ForfeitTimers
import FuryClash.Server.InputLog
import FuryClash.Server.Joint
import FuryClash.Server.LeftOver
import FuryClash.Server.Lifecycle
import FuryClash.Server.MatchQueue
import FuryClash.Server.Matcher
import FuryClash.Server.Meeting
import FuryClash.Server.Moves
import FuryClash.Server.OneRegion
import FuryClash.Server.Pairing
import FuryClash.Server.Passwords
import FuryClash.Server.Persistence
import FuryClash.Server.Protocol
import FuryClash.Server.QueueContract
import FuryClash.Server.Ratings
import FuryClash.Server.Reconnect
import FuryClash.Server.RecordedChange
import FuryClash.Server.Records
import FuryClash.Server.RegionQueues
import FuryClash.Server.Relay
import FuryClash.Server.RelayRoom
import FuryClash.Server.ReplayLog
import FuryClash.Server.RoomCreation
import FuryClash.Server.RoomLife
import FuryClash.Server.RoomManager
import FuryClash.Server.RoomSends
import FuryClash.Server.RoomTable
import FuryClash.Server.RoomsRoute
import FuryClash.Server.Shop
import FuryClash.Server.Standings
import FuryClash.Server.Tickets
import FuryClash.Server.WireFormat
import FuryClash.Slot
import FuryClash.System.Bout
import FuryClash.System.Delivery
import FuryClash.System.Link
import FuryClash.System.MatchEnd
import FuryClash.System.Matched
import FuryClash.System.RoomCode
