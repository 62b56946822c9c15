import ServerGame.Proxy.Tokens

/-!
# list, view and get

`List.cpp`, `View.cpp` and `Get.cpp`: the three actions that only read the
game, as text and as JSON.
-/

namespace ServerGame

open Lib (InStream)

variable (env : AgentExternals) (mode : OutputMode) (game : Game)

-- ---------------------------------------------------------------------------
-- list
-- ---------------------------------------------------------------------------

structure Listing where
  title : Str
  lines : List Str
  views : Except Fault (List Json)

def listedAs (name asString : Str) : Str :=
  "\t".toList ++ name ++ " -> ".toList ++ asString ++ "\n".toList

def listPlayer : Listing where
  title := "Players".toList
  lines := game.players.toList.map fun entry => listedAs entry.1 (game.playerAsString entry.2)
  views := .ok (game.players.toList.map fun entry => game.playerJson entry.2)

def listRobot : Listing where
  title := "Robots".toList
  lines := game.robots.toList.map fun entry => listedAs entry.1 (game.robotAsString entry.2)
  views := game.robots.toList.mapM fun entry => game.robotJson entry.2

def listTeam : Listing where
  title := "Teams".toList
  lines := game.teams.toList.map fun entry => "\t".toList ++ entry.1 ++ "\n".toList
  views := .ok (game.teams.toList.map fun entry => .string entry.1)

def listFlag : Listing where
  title := "Flags".toList
  lines := game.items.allItems.map fun item =>
    "\t".toList ++ Game.itemAsString item ++ "\n".toList
  views := .ok (game.items.allItems.map Game.itemJson)

def listingOf (object : Str) : Option Listing :=
  if object = "player".toList then some (listPlayer game)
  else if object = "robot".toList then some (listRobot game)
  else if object = "team".toList then some (listTeam game)
  else if object = "flag".toList then some (listFlag game)
  else none

def Listing.document (listing : Listing) : Except Fault Json := do
  let views ← listing.views
  return .object [(listing.title, .array views)]

def Listing.reply (listing : Listing) : Except Fault Reply :=
  match mode with
  | .text =>
    .ok <| listing.lines.foldl Reply.append (Reply.assign {} (listing.title ++ ":\n".toList))
  | .json => do
    let json ← listing.document
    let text ← dumped env json
    return Reply.assign {} text

def ListAction.process (stream : InStream) : Except Fault Reply :=
  let (object, stream) := stream.readWord []
  if stream.eof then
    match listingOf game object with
    | some listing => listing.reply env mode
    | none => .ok <| .failWith ("Invalid object for list: '".toList ++ object ++ "'".toList)
  else
    .ok <| .failWith ("Unexpected text after list ".toList ++ object ++ ": '".toList ++
      stream.text ++ "'".toList)

-- ---------------------------------------------------------------------------
-- view
-- ---------------------------------------------------------------------------

def teamDocument (team : Team) : Json :=
  .object [("Team".toList, if team.isNeutralTeam then .null else game.teamJson team)]

def viewTeam (name : Str) : Except Fault Reply :=
  let team := game.getTeam name
  match mode with
  | .text =>
    .ok <|
      if team.isNeutralTeam then .failWith ("Invalid team name (".toList ++ name ++ ")".toList)
      else
        ((((({} : Reply).assign ("Team ".toList ++ name ++ ":\n".toList)).append
          ("\tscore = ".toList ++ decimal team.score.toNat ++ " ; ".toList)).append
          "robots = [".toList).append
          (List.intercalate ", ".toList
            ((game.robotNames team).map fun robot => nameQuotes :: robot ++ [nameQuotes]))).append
          "]".toList
  | .json => do
    let text ← dumped env (teamDocument game team)
    return Reply.assign {} text

def ViewAction.process (stream : InStream) : Except Fault Reply :=
  let (object, stream) := stream.readWord []
  if object = "team".toList then
    let (name, stream) := readName env.byteBefore stream
    if stream.eof then viewTeam env mode game name
    else
      .ok <| .failWith ("Unexpected text after view ".toList ++ object ++ ' ' :: name ++
        ": '".toList ++ stream.text ++ "'".toList)
  else .ok <| .failWith ("Invalid object for view: '".toList ++ object ++ "'".toList)

-- ---------------------------------------------------------------------------
-- get
-- ---------------------------------------------------------------------------

/-- `ioReply = aJson.dump()` where an exception is caught and logged. -/
def Reply.assignDump (reply : Reply) (json : Json) : Reply :=
  match env.dump json with
  | some text => reply.assign text
  | none => reply

def ko : Str := "KO".toList

/-- A robot that is not there makes `at` throw, which is caught and logged. -/
def getRobot (robotName : Str) (property : Option Str) : Except Fault Reply :=
  match game.accessRobot robotName with
  | .error _ => .ok {}
  | .ok r =>
    match mode, property with
    | .text, some property =>
      .ok <|
        if property = "id".toList then Reply.assign {} (game.robot r).robotId
        else if property = "video_url".toList then Reply.assign {} (game.robot r).videoUrl
        else if property = "video_port".toList then
          Reply.assign {} (decimal (game.robot r).videoRetransmissionPort.toNat)
        else if property = "video_command_port".toList then
          Reply.assign {} (decimal (game.robot r).serverCommandPort.toNat)
        else .failWith ko
    | .text, none => .ok <| Reply.assign {} (game.robotAsString r)
    | .json, some property =>
      .ok <|
        if property = "id".toList then
          Reply.assignDump env {} (.object [(property, .string (game.robot r).robotId)])
        else Reply.assignDump env (Reply.fail {}) .null
    | .json, none => do
      let json ← game.robotJson r
      return Reply.assignDump env {} json

/-- A team with the empty name is taken for the neutral one. -/
def getTeamReply (teamName : Str) (property : Option Str) : Reply :=
  let team := game.getTeam teamName
  if team.name.isEmpty then Reply.fail {}
  else
    match mode, property with
    | .text, some property =>
      if property = "score".toList then Reply.assign {} (decimal team.score.toNat)
      else .failWith ko
    | .text, none => .failWith ko
    | .json, some property =>
      if property = "score".toList then
        Reply.assignDump env {} (.object [(property, .number team.score.toNat)])
      else Reply.assignDump env (Reply.fail {}) .null
    | .json, none => Reply.assignDump env (Reply.fail {}) .null

def getPlayer (playerName : Str) (property : Option Str) : Reply :=
  match game.accessPlayer playerName with
  | .error _ => Reply.fail {}
  | .ok p =>
    match mode, property with
    | .text, some property =>
      if property = "address".toList then Reply.assign {} (game.player p).address
      else .failWith ko
    | .text, none => Reply.assign {} (game.playerAsString p)
    | .json, some property =>
      if property = "address".toList then
        Reply.assignDump env {} (.object [(property, .string (game.player p).address)])
      else Reply.assignDump env (Reply.fail {}) .null
    | .json, none => Reply.assignDump env {} (game.playerJson p)

def gameDocument : Json :=
  .object
    [("time".toList, .number game.getSecondsLeft.toNat),
      ("running".toList, .bool game.isRunning),
      ("duration".toList, .number (totalSeconds game.gameDuration))]

def getGameJson : Except Fault Reply := do
  let text ← dumped env (gameDocument game)
  return Reply.assign {} text

def getGameText (property : Option Str) : Reply :=
  match property with
  | some property =>
    if property = "time".toList then Reply.assign {} (decimal game.getSecondsLeft.toNat)
    else if property = "running".toList then Reply.assign {} (decimal game.isRunning.toNat)
    else if property = "duration".toList then
      Reply.assign {} (decimalInt (totalSeconds game.gameDuration))
    else .failWith ko
  | none => Reply.assign {} game.asString

/-- What is asked for: an object, a name where the object has one, and a
property when the text does not end before it. -/
structure GetQuery where
  object : Str
  name : Str
  property : Option Str
  text : Str

def GetAction.read (stream : InStream) : GetQuery :=
  let (object, stream) := stream.readWord []
  let (name, stream) :=
    if object = "robot".toList ∨ object = "team".toList ∨ object = "player".toList then
      readName env.byteBefore stream
    else ([], stream)
  { object, name, text := stream.text
    property := if stream.eof then none else some (stream.readWord []).1 }

def GetAction.answer (query : GetQuery) : Except Fault Reply :=
  if query.object = "game".toList ∧ mode = .json then getGameJson env game
  else if query.object = "robot".toList then getRobot env mode game query.name query.property
  else if query.object = "team".toList then
    .ok (getTeamReply env mode game query.name query.property)
  else if query.object = "game".toList then .ok (getGameText game query.property)
  else if query.object = "player".toList then
    .ok (getPlayer env mode game query.name query.property)
  else
    .ok <|
      match mode with
      | .text =>
        .failWith ("Unexpected text after list ".toList ++ query.object ++ ": '".toList ++
          query.text ++ "'".toList)
      | .json => Reply.fail {}

def GetAction.process (stream : InStream) : Except Fault Reply :=
  GetAction.answer env mode game (GetAction.read env stream)

/-- `GlobalActionMap`. -/
def actionNamed (name : Str) : Option (InStream → Except Fault Reply) :=
  if name = "list".toList then some (ListAction.process env mode game)
  else if name = "view".toList then some (ViewAction.process env mode game)
  else if name = "get".toList then some (GetAction.process env mode game)
  else none

variable {env mode game} {name : Str} {process : InStream → Except Fault Reply}

theorem actionNamed_eq_some (h : actionNamed env mode game name = some process) :
    (name = "list".toList ∧ process = ListAction.process env mode game) ∨
      (name = "view".toList ∧ process = ViewAction.process env mode game) ∨
      (name = "get".toList ∧ process = GetAction.process env mode game) := by
  unfold actionNamed at h
  split at h
  · next hlist =>
    cases h
    exact .inl ⟨hlist, rfl⟩
  · split at h
    · next hview =>
      cases h
      exact .inr (.inl ⟨hview, rfl⟩)
    · split at h
      · next hget =>
        cases h
        exact .inr (.inr ⟨hget, rfl⟩)
      · cases h

theorem actionNamed_eq_none (h : actionNamed env mode game name = none) :
    name ≠ "list".toList ∧ name ≠ "view".toList ∧ name ≠ "get".toList := by
  refine ⟨?_, ?_, ?_⟩ <;> rintro rfl <;> cases h

end ServerGame
