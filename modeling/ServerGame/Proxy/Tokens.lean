import ServerGame.Lib.Stream
import ServerGame.Server

/-!
# Tokens, replies and JSON values

`Tokens.cpp`, `Reply.cpp`, `OutputMode.hpp` and the `Simple*` views that are
turned into JSON. `nlohmann::json` itself is outside the repository: a value is
kept as it is built, and its text comes from the externals.
-/

namespace ServerGame

open Lib (InStream)

-- ---------------------------------------------------------------------------
-- ReadName
-- ---------------------------------------------------------------------------

def nameQuotes : Char := Char.ofNat 34

/-- `front` of an empty text reads the terminator. -/
def front (text : Str) : Char := text.headD (Char.ofNat 0)

/-- `back` of an empty text reads the byte before it. -/
def back (byteBefore : Char) (text : Str) : Char := text.getLastD byteBefore

def readNameLoop (byteBefore : Char) : Nat → Str → Str → InStream → Str × InStream
  | 0, result, _, stream => (result, stream)
  | fuel + 1, result, fragment, stream =>
    if stream.good then
      let (fragment, stream) := stream.readWord fragment
      let result := result ++ ' ' :: fragment
      if nameQuotes = back byteBefore fragment then
        ((result.drop 1).take (result.length - 2), stream)
      else readNameLoop byteBefore fuel result fragment stream
    else (result, stream)

/-- Each turn of the loop reads at least one character or is the last one. -/
def readName (byteBefore : Char) (stream : InStream) : Str × InStream :=
  let (result, stream) := stream.readWord []
  if nameQuotes = front result then
    readNameLoop byteBefore (stream.rest.length + 1) result [] stream
  else (result, stream)

-- ---------------------------------------------------------------------------
-- Reply
-- ---------------------------------------------------------------------------

inductive OutputMode
  | text
  | json
  deriving DecidableEq, Repr

inductive Reply.Status
  | empty
  | success
  | failure
  deriving DecidableEq, Repr

structure Reply where
  status : Reply.Status := .empty
  reply : Str := []

namespace Reply

def isSuccess (reply : Reply) : Bool := decide (reply.status = .success)

/-- `=`, which does not make a failure good. -/
def assign (reply : Reply) (text : Str) : Reply where
  status := if reply.status = .empty then .success else reply.status
  reply := text

def append (reply : Reply) (text : Str) : Reply where
  status := if reply.status = .empty then .success else reply.status
  reply := reply.reply ++ text

def failWith (text : Str) : Reply := { status := .failure, reply := text }

def fail (reply : Reply) : Reply := { reply with status := .failure }

end Reply

-- ---------------------------------------------------------------------------
-- JSON
-- ---------------------------------------------------------------------------

inductive Json
  | null
  | bool (value : Bool)
  | number (value : Int)
  | string (text : Str)
  | array (elements : List Json)
  | object (members : List (Str × Json))

def IsUtf8 (bytes : Str) : Prop :=
  ∃ text : List Char,
    bytes = (text.flatMap String.utf8EncodeChar).map fun byte => Char.ofNat byte.toNat

mutual

/-- Every text in the value, keys included, is valid UTF-8. -/
def Json.IsUtf8 : Json → Prop
  | .string text => ServerGame.IsUtf8 text
  | .array elements => Json.AllUtf8 elements
  | .object members => Json.MembersUtf8 members
  | _ => True

def Json.AllUtf8 : List Json → Prop
  | [] => True
  | element :: rest => element.IsUtf8 ∧ Json.AllUtf8 rest

def Json.MembersUtf8 : List (Str × Json) → Prop
  | [] => True
  | (key, value) :: rest => ServerGame.IsUtf8 key ∧ value.IsUtf8 ∧ Json.MembersUtf8 rest

end

/-- What the commands of an agent use and the repository does not contain:
`dump` of a JSON value, `none` where it throws; the byte before an empty text;
what an uninitialised number holds. -/
structure AgentExternals extends Externals where
  dump : Json → Option Str
  byteBefore : Char
  uninitialised : UInt32

/-- What is documented of `dump`: the text of a null value, and that it throws
exactly for a text that is not UTF-8. -/
structure DumpDocumented (env : AgentExternals) : Prop where
  null : env.dump .null = some "null".toList
  throws : ∀ json, env.dump json = none ↔ ¬json.IsUtf8

def dumped (env : AgentExternals) (json : Json) : Except Fault Str :=
  match env.dump json with
  | some text => .ok text
  | none => .error .typeError

-- ---------------------------------------------------------------------------
-- Texts and views of the objects
-- ---------------------------------------------------------------------------

def decimal (n : Nat) : Str := Nat.toDigits 10 n

def decimalInt : Int → Str
  | .ofNat n => decimal n
  | .negSucc n => '-' :: decimal (n + 1)

namespace Game

variable (game : Game)

/-- The neutral team for a name that is not there. -/
def getTeam (name : Str) : Team :=
  match game.teams[name]? with
  | some t => game.team t
  | none => {}

def robotAsString (r : RobotRef) : Str :=
  "Robot name = ".toList ++ (game.robot r).name ++ " ; ".toList ++
    (if (game.robot r).hasRealRobot then [] else "not ".toList) ++
    "registered ; video_url = ".toList ++ (game.robot r).videoUrl ++ " ; player = ".toList ++
    match game.getPlayerOfRobot r with
    | some p => (game.player p).name
    | none => []

def playerAsString (p : PlayerRef) : Str :=
  "Player name = ".toList ++ (game.player p).name ++ " ; address = ".toList ++
    (game.player p).address ++ " ; robot = ".toList ++
    match game.getRobotOfPlayer p with
    | some r => (game.robot r).name
    | none => []

def itemAsString (item : Item) : Str :=
  "Item name = ".toList ++ item.name ++ " ; RFID =".toList ++
    item.rfids.toList.flatMap (' ' :: ·) ++ " ; colour = ".toList ++ decimalInt item.colour ++
    " ; team = ".toList ++ item.owningTeam

def asString : Str :=
  "Game time = ".toList ++ decimal game.getSecondsLeft.toNat ++ " ; running = ".toList ++
    decimal game.isRunning.toNat ++ " ; duration = ".toList ++
    decimalInt (totalSeconds game.gameDuration)

def playerJson (p : PlayerRef) : Json :=
  .object
    [("name".toList, .string (game.player p).name),
      ("address".toList, .string (game.player p).address),
      ("robot".toList, .string <| match game.getRobotOfPlayer p with
        | some r => (game.robot r).name
        | none => [])]

/-- The name of the team is read through the reference of the robot. -/
def robotJson (r : RobotRef) : Except Fault Json :=
  if game.teamIsAlive (game.robot r).team then
    .ok <| .object
      [("id".toList, .string (game.robot r).robotId),
        ("name".toList, .string (game.robot r).name),
        ("player".toList, .string <| match game.getPlayerOfRobot r with
          | some p => (game.player p).name
          | none => []),
        ("registered".toList, .bool (game.robot r).hasRealRobot),
        ("team".toList, .string (game.team (game.robot r).team).name),
        ("video_url".toList, .string (game.robot r).videoUrl)]
  else .error .danglingTeam

def itemJson (item : Item) : Json :=
  .object
    [("name".toList, .string item.name),
      ("RFID".toList, .array (item.rfids.toList.map .string)),
      ("colour".toList, .number item.colour),
      ("team".toList, .string item.owningTeam)]

def robotNames (team : Team) : List Str := team.robots.map fun r => (game.robot r).name

def teamJson (team : Team) : Json :=
  .object
    [("name".toList, .string team.name),
      ("score".toList, .number team.score.toNat),
      ("robots".toList, .array ((game.robotNames team).map .string))]

end Game

end ServerGame
