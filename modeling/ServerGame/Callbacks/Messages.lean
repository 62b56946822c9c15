import ServerGame.Game.Game

/-!
# Messages

`RawMessage`, the protobuf messages with the fields the handlers use, and what
the code calls outside the repository. The generated classes are not here, so
parsing is a parameter and what is sent keeps its fields instead of the bytes
of `SerializeAsString`.
-/

namespace ServerGame

inductive Channel
  | publish
  | reply
  deriving DecidableEq, Repr

structure RawMessage where
  routingId : Str
  type : Str
  payload : Str
  deriving DecidableEq, Repr

-- ---------------------------------------------------------------------------
-- From the clients
-- ---------------------------------------------------------------------------

structure Hello where
  name : Str := []
  ready : Option Bool := none
  address : Option Str := none
  deriving DecidableEq, Repr

structure Input where
  left : Int := 0
  right : Int := 0
  weapon1 : Bool := false
  weapon2 : Bool := false
  deriving DecidableEq, Repr

structure Register where
  temporaryRobotId : Str := []
  videoUrl : Str := []
  deriving DecidableEq, Repr

inductive Status
  | on
  | off
  deriving DecidableEq, Repr

structure Rfid where
  rfid : Str
  status : Status
  timestamp : UInt64
  deriving DecidableEq, Repr

structure Colour where
  colour : Int
  timestamp : UInt64
  deriving DecidableEq, Repr

/-- The battery and the ultrasound message are copied as they are. -/
structure ServerRobotState where
  rfid : List Rfid := []
  colour : List Colour := []
  battery : Option Str := none
  ultrasound : Option Str := none
  deriving DecidableEq, Repr

structure Timing where
  logger : Str
  timestamp : Option UInt64 := none
  elapsed : Option UInt64 := none
  deriving DecidableEq, Repr

structure Timings where
  timing : List Timing := []
  deriving DecidableEq, Repr

-- ---------------------------------------------------------------------------
-- To the clients
-- ---------------------------------------------------------------------------

structure Welcome where
  robot : Str
  team : Str
  id : Str
  videoAddress : Str
  videoPort : UInt16
  deriving DecidableEq, Repr

structure Registered where
  robotId : Str
  team : Option Str := none
  deriving DecidableEq, Repr

structure ItemMessage where
  name : Str
  owner : Option Str := none
  /-- Not set for `PENDING`. -/
  captureStatus : Option CaptureState := none
  capturer : Option Str := none
  deriving DecidableEq, Repr

structure PlayerState where
  battery : Option Str := none
  ultrasound : Option Str := none
  item : Option ItemMessage := none
  deriving DecidableEq, Repr

structure GameState where
  playing : Bool
  seconds : UInt64
  totalSeconds : Int
  teams : List (Str × UInt32)
  items : List ItemMessage
  winner : Option Str
  deriving DecidableEq, Repr

inductive Body
  | welcome (welcome : Welcome)
  | goodbye
  | registered (registered : Registered)
  | input (input : Input)
  | ping (timings : Timings)
  | pong (timings : Timings)
  | playerState (state : PlayerState)
  | gameState (state : GameState)
  deriving DecidableEq, Repr

def Body.type : Body → Str
  | .welcome _ => "Welcome".toList
  | .goodbye => "Goodbye".toList
  | .registered _ => "Registered".toList
  | .input _ => "Input".toList
  | .ping _ => "Ping".toList
  | .pong _ => "Pong".toList
  | .playerState _ => "PlayerState".toList
  | .gameState _ => "GameState".toList

inductive OutSocket
  | publisher
  | replier
  deriving DecidableEq, Repr

/-- One call of `Socket::send`. The type of the message is that of its body. -/
structure Sent where
  socket : OutSocket
  routingId : Str
  body : Body
  deriving DecidableEq, Repr

-- ---------------------------------------------------------------------------
-- Outside the repository
-- ---------------------------------------------------------------------------

/-- What the code uses that the repository does not contain. -/
structure Externals where
  /-- `ParsePartialFromString` of each class, with what was decoded. -/
  parseHello : Str → Bool × Hello
  parseInput : Str → Bool × Input
  parseRegister : Str → Bool × Register
  parseServerRobotState : Str → Bool × ServerRobotState
  parsePing : Str → Bool × Timings
  parsePong : Str → Bool × Timings
  /-- `boost::lexical_cast`, none where it throws. -/
  lexicalCastUint16 : Str → Option UInt16
  lexicalCastUint32 : Str → Option UInt32
  /-- `boost::split` with `is_any_of(" ")`. -/
  splitAtBlanks : Str → List Str
  /-- The addresses that order a `std::set` of pointers to items. -/
  addressOfItem : ItemRef → Nat
  /-- Which of two arguments of a call is evaluated first. -/
  leftFirst : Bool

/-- Decimal digits below a bound, with nothing before or after them. -/
def castDecimal (bound : Nat) (text : Str) : Option Nat :=
  if text ≠ [] ∧ text.all Char.isDigit then
    some (text.foldl (fun n c => 10 * n + (c.toNat - '0'.toNat)) 0) |>.filter (· < bound)
  else none

/-- The externals of the examples. Their payloads are empty, or one string of
field 1 of a hello, and their numbers have no sign. -/
def Externals.plain : Externals where
  parseHello payload := match payload with
    | tag :: length :: name =>
      if tag.toNat = 10 ∧ length.toNat = name.length then (true, { name }) else (false, {})
    | _ => (payload.isEmpty, {})
  parseInput payload := (payload.isEmpty, {})
  parseRegister payload := (payload.isEmpty, {})
  parseServerRobotState payload := (payload.isEmpty, {})
  parsePing payload := (payload.isEmpty, {})
  parsePong payload := (payload.isEmpty, {})
  lexicalCastUint16 text := (castDecimal (2 ^ 16) text).map UInt16.ofNat
  lexicalCastUint32 text := (castDecimal (2 ^ 32) text).map UInt32.ofNat
  splitAtBlanks text := text.splitOn ' '
  addressOfItem item := item
  leftFirst := true

/-- What a handler leaves: the game, what it sent, the calls it made to the
contact handler, and the exception it let out, if any. -/
structure Outcome where
  game : Game
  sent : List Sent := []
  calls : List ContactCall := []
  escaped : Option Fault := none

end ServerGame
