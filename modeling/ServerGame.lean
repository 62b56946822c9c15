import ServerGame.Lib.Map
import ServerGame.Lib.Heap
import ServerGame.Lib.Machine
import ServerGame.Lib.Transfers
import ServerGame.Lib.Pool
import ServerGame.Lib.Reorder
import ServerGame.Lib.JsonText
import ServerGame.Server
import ServerGame.TimeOut
import ServerGame.Detector
import ServerGame.Roster
import ServerGame.Welcome
import ServerGame.Registration
import ServerGame.Registry
import ServerGame.Restart
import ServerGame.CaptureTiming
import ServerGame.Score
import ServerGame.Replies
import ServerGame.Frames
import ServerGame.ReadyHello
import ServerGame.Winner
import ServerGame.OneRobot
import ServerGame.Drops
import ServerGame.Malformed
import ServerGame.CaptureStates
import ServerGame.Independent
import ServerGame.Instantiation
import ServerGame.Points
import ServerGame.ItemCodes
import ServerGame.PortRange
import ServerGame.Ports
import ServerGame.Membership
import ServerGame.OwnItem
import ServerGame.ContactOrder
import ServerGame.Proxy.Grammar
import ServerGame.Proxy.JsonPrefix
import ServerGame.Proxy.Refusals
import ServerGame.Proxy.JsonAnswers
import ServerGame.FreshId
import ServerGame.Com.Framing
import ServerGame.Proxy.QuotedNames
import ServerGame.StartCondition
import ServerGame.ItemTables
import ServerGame.Relay
import ServerGame.Pong
import ServerGame.RfidLists
import ServerGame.Clock
import ServerGame.BroadcastServer
import ServerGame.Precedence
import ServerGame.Tokenize
import ServerGame.Loop.Deadline
import ServerGame.Loop.Stop
import ServerGame.Loop.Launch
import ServerGame.Countdown
import ServerGame.Loop.Conversation
import ServerGame.Discovery
import ServerGame.Configured
