import ServerGame.Callbacks.Messages

/-!
# The message handlers

The classes of `callbacks/`. A handler gets the routing id and the channel the
message came with, and the local time at which it runs.
-/

namespace ServerGame

-- ---------------------------------------------------------------------------
-- InterfaceProcess
-- ---------------------------------------------------------------------------

/-- `InterfaceProcess::reply` answers on the channel of the request. -/
def reply (channel : Channel) (routingId : Str) (body : Body) : Sent where
  socket := match channel with
    | .publish => .publisher
    | .reply => .replier
  routingId := routingId
  body := body

def publish (routingId : Str) (body : Body) : Sent := { socket := .publisher, routingId, body }

-- ---------------------------------------------------------------------------
-- ProcessHello
-- ---------------------------------------------------------------------------

def Game.link (game : Game) (p : PlayerRef) (r : RobotRef) : Game :=
  (game.modifyPlayer p ({ · with robot := some r })).modifyRobot r ({ · with player := some p })

def Game.setAddress (game : Game) (p : PlayerRef) (address : Str) : Game :=
  game.modifyPlayer p ({ · with address })

/-- The position of the first such character at or after a position: `find`,
with `none` for `npos`. -/
def Str.find (s : Str) (c : Char) (from_ : Nat) : Option Nat :=
  ((s.drop from_).findIdx? (· == c)).map (· + from_)

namespace ProcessHello

/-- Address and port of an `nc:` video URL, both still text. Without a second
colon `aPortIndex` is `npos`: the address goes on to the end, and as
`npos + 1` is 0 the port is the whole URL. -/
def splitVideoUrl (videoUrl : Str) : Str × Str :=
  match videoUrl.find ':' 0 with
  | none => (videoUrl, videoUrl)
  | some addressIndex =>
    match videoUrl.find ':' (addressIndex + 1) with
    | some portIndex =>
      ((videoUrl.drop (addressIndex + 1)).take (portIndex - addressIndex - 1),
        videoUrl.drop (portIndex + 1))
    | none => (videoUrl.drop (addressIndex + 1), videoUrl)

/-- `find("nc:") == 0`. -/
def isNcUrl (videoUrl : Str) : Bool := "nc:".toList.isPrefixOf videoUrl

def videoOf (env : Externals) (robot : Robot) : Option (Str × UInt16) :=
  if isNcUrl robot.videoUrl then
    let (address, portStr) := splitVideoUrl robot.videoUrl
    (env.lexicalCastUint16 portStr).map fun port => (address, port)
  else some ("localhost".toList, robot.videoRetransmissionPort)

def welcomeOf (robot : Robot) (video : Str × UInt16) : Welcome where
  robot := robot.name
  team := "team_red".toList
  id := robot.robotId
  videoAddress := video.1
  videoPort := video.2

/-- A ready player starts the game if no robot waits for a player. The call of
`Game::start` is an argument. -/
def startIfReadyWith (start : Game → Game) (hello : Hello) (game : Game) : Game :=
  if hello.ready = some true then
    match game.getAvailableRobot with
    | none => start game
    | some _ => game
  else game

def startIfReady (hello : Hello) (localTime : Ptime) (game : Game) : Game :=
  startIfReadyWith (·.start true none localTime) hello game

theorem startIfReady_eq (hello : Hello) (localTime : Ptime) (game : Game) :
    startIfReady hello localTime game =
      if hello.ready = some true then
        match game.getAvailableRobot with
        | none => game.start true none localTime
        | some _ => game
      else game := rfl

theorem startIfReadyWith_start (hello : Hello) (localTime : Ptime) (game : Game) :
    startIfReadyWith (·.start true none localTime) hello game =
      startIfReady hello localTime game := rfl

def setAddressOf (hello : Hello) (game : Game) : Except Fault Game :=
  match hello.address with
  | none => .ok game
  | some address => do
    let p ← game.accessPlayer hello.name
    return game.setAddress p address

def executeWith (start : Game → Game) (env : Externals) (channel : Channel) (clientId : Str)
    (hello : Hello) (game : Game) : Outcome :=
  let (playerAddedSuccess, game) := game.addPlayer hello.name
  let goodbye := reply channel clientId .goodbye
  if playerAddedSuccess then
    match game.getRobotForPlayer hello.name with
    | some availableRobot =>
      match game.accessPlayer hello.name with
      | .error fault => { game, escaped := some fault }
      | .ok aPlayer =>
        let game := game.link aPlayer availableRobot
        match videoOf env (game.robot availableRobot) with
        | none => { game, escaped := some .badLexicalCast }
        | some video =>
          let welcome := welcomeOf (game.robot availableRobot) video
          let sent := [reply channel clientId (.welcome welcome)]
          let game := startIfReadyWith start hello game
          match setAddressOf hello game with
          | .error fault => { game, sent, escaped := some fault }
          | .ok game => { game, sent }
    | none =>
      match setAddressOf hello game with
      | .error fault => { game, escaped := some fault }
      | .ok game => { game, sent := [goodbye] }
  else { game, sent := [goodbye] }

def execute (env : Externals) (channel : Channel) (clientId : Str) (hello : Hello)
    (localTime : Ptime) (game : Game) : Outcome :=
  executeWith (·.start true none localTime) env channel clientId hello game

end ProcessHello

-- ---------------------------------------------------------------------------
-- ProcessRegister
-- ---------------------------------------------------------------------------

def Robot.register (videoUrl : Str) (robot : Robot) : Robot :=
  { robot with hasRealRobot := true, videoUrl }

def ProcessRegister.execute (channel : Channel) (clientId : Str) (register : Register)
    (game : Game) : Outcome :=
  match game.getRobotWithoutRealRobot register.temporaryRobotId with
  | .error fault => { game, escaped := some fault }
  | .ok (some aRobot, game) =>
    let robotId := (game.robot aRobot).robotId
    let game := game.modifyRobot aRobot (Robot.register register.videoUrl)
    let team := (game.robot aRobot).team
    if game.teamIsAlive team then
      { game
        sent := [reply channel clientId
          (.registered { robotId, team := some (game.team team).name })] }
    else { game, escaped := some .danglingTeam }
  | .ok (none, game) =>
    { game, sent := [reply channel clientId (.registered { robotId := [] })] }

-- ---------------------------------------------------------------------------
-- ProcessInput
-- ---------------------------------------------------------------------------

def ProcessInput.execute (destination : Str) (input : Input) (game : Game) : Outcome :=
  if game.isRunning then
    if input.weapon1 ∧ ¬game.getHasRobotById destination then { game }
    else { game, sent := [publish destination (.input input)] }
  else { game }

-- ---------------------------------------------------------------------------
-- ProcessPing, ProcessPong
-- ---------------------------------------------------------------------------

/-- 1970-01-01 in microseconds since the Julian day 0. -/
def epochTicks : Int := 2440588 * 86400 * 1000000

/-- The timestamp of both handlers, milliseconds since 1970 as a `uint64_t`. -/
def timestampOf (localTime : Instant) : UInt64 :=
  UInt64.ofInt (totalMilliseconds (localTime.val - epochTicks))

def serverGameLogger : Str := "server_game".toList

def ProcessPing.execute (destination : Str) (ping : Timings) (localTime : Instant)
    (game : Game) : Outcome :=
  let timing := { logger := serverGameLogger, timestamp := some (timestampOf localTime) }
  { game, sent := [publish destination (.ping { timing := ping.timing ++ [timing] })] }

/-- The loop over the timings; the `break` leaves the rest as it is. -/
def ProcessPong.setElapsed (timestamp : UInt64) : List Timing → List Timing
  | [] => []
  | timing :: rest =>
    if timing.logger = serverGameLogger then
      match timing.timestamp with
      | none => timing :: rest
      | some pingTimestamp =>
        { timing with elapsed := some (timestamp - pingTimestamp) } :: setElapsed timestamp rest
    else timing :: setElapsed timestamp rest

def ProcessPong.execute (destination : Str) (pong : Timings) (localTime : Instant)
    (game : Game) : Outcome :=
  let timing := setElapsed (timestampOf localTime) pong.timing
  { game, sent := [publish destination (.pong { timing })] }

-- ---------------------------------------------------------------------------
-- ItemEncoder
-- ---------------------------------------------------------------------------

def Item.encode (item : Item) : ItemMessage where
  name := item.name
  owner := if item.owningTeam.isEmpty then none else some item.owningTeam
  captureStatus := if item.captureState = .pending then none else some item.captureState
  capturer := if item.captureState = .started then some item.capturingTeam else none

-- ---------------------------------------------------------------------------
-- ProcessRobotState
-- ---------------------------------------------------------------------------

namespace ProcessRobotState

/-- What the two loops carry: the game, the items seen so far, each once, and
the calls made to the contact handler. -/
structure Scan where
  game : Game
  visitedItems : List ItemRef := []
  calls : List ContactCall := []

def Scan.visit (scan : Scan) (item : ItemRef) : Scan :=
  if item ∈ scan.visitedItems then scan
  else { scan with visitedItems := scan.visitedItems ++ [item] }

def Scan.call (scan : Scan) (call : ContactCall) : Except Fault Scan := do
  let game ← scan.game.handleContactCall call
  return { scan with game, calls := scan.calls ++ [call] }

def lookForRfid (destination : Str) (scan : Scan) (rfid : Rfid) : Except Fault Scan :=
  match scan.game.items.getItemByRfid rfid.rfid with
  | none => .ok scan
  | some item =>
    match rfid.status with
    | .on => (scan.visit item).call (.isInContactWith destination item)
    | .off => (scan.visit item).call (.dropsContactWith destination item)

def lookForColour (destination : Str) (scan : Scan) (colour : Colour) : Except Fault Scan :=
  match scan.game.getFlagDetector destination with
  | none => .ok scan
  | some detector => do
    let reading := detector.setColour scan.game.items.getItemByColour
      (scan.game.robot detector.robot).robotId colour.colour
    let game :=
      { scan.game with
        flagDetectorsByRobot :=
          scan.game.flagDetectorsByRobot.insert destination reading.detector }
    let scan ← reading.calls.foldlM Scan.call { scan with game }
    return match reading.newItem with
      | some item => scan.visit item
      | none => scan

def inAddressOrder (env : Externals) (items : List ItemRef) : List ItemRef :=
  items.mergeSort fun i j => env.addressOfItem i ≤ env.addressOfItem j

/-- The messages to the player, one for each item; the first one also carries
the telemetry. -/
def playerStates (message : ServerRobotState) : List ItemMessage → List PlayerState
  | [] => [{ battery := message.battery, ultrasound := message.ultrasound }]
  | first :: rest =>
    { battery := message.battery, ultrasound := message.ultrasound, item := some first } ::
      rest.map fun item => { item := some item }

def execute (env : Externals) (destination : Str) (message : ServerRobotState) (game : Game) :
    Outcome :=
  if ¬game.getHasRobotById destination then { game }
  else
    let scanned := do
      let scan ← message.rfid.foldlM (lookForRfid destination) { game }
      message.colour.foldlM (lookForColour destination) scan
    match scanned with
    | .error fault => { game, escaped := some fault }
    | .ok scan =>
      let items := (inAddressOrder env scan.visitedItems).filterMap fun item =>
        scan.game.items.allItems[item]?.map Item.encode
      { game := scan.game
        sent := (playerStates message items).map fun state =>
          publish destination (.playerState state)
        calls := scan.calls }

end ProcessRobotState

-- ---------------------------------------------------------------------------
-- ProcessTimer
-- ---------------------------------------------------------------------------

/-- The broadcast of a tick, without the map limits. -/
def ProcessTimer.execute (game : Game) : Outcome :=
  { game
    sent := [publish "all_clients".toList (.gameState
      { playing := game.isRunning
        seconds := game.getSecondsLeft
        totalSeconds := totalSeconds game.gameDuration
        teams := game.teams.toList.map fun entry => (entry.1, (game.team entry.2).score)
        items := game.items.allItems.map Item.encode
        winner := game.winner })] }

-- ---------------------------------------------------------------------------
-- ProcessDecider
-- ---------------------------------------------------------------------------

/-- A message whose payload is not parsed to its end is handled all the same:
the result of `BuildProtobuf` is only logged. -/
def ProcessDecider.process (env : Externals) (message : RawMessage) (channel : Channel)
    (localTime : Instant) (game : Game) : Outcome :=
  if message.type = "Hello".toList then
    ProcessHello.execute env channel message.routingId (env.parseHello message.payload).2
      (.at localTime) game
  else if message.type = "Input".toList then
    ProcessInput.execute message.routingId (env.parseInput message.payload).2 game
  else if message.type = "ServerRobotState".toList then
    ProcessRobotState.execute env message.routingId
      (env.parseServerRobotState message.payload).2 game
  else if message.type = "Ping".toList then
    ProcessPing.execute message.routingId (env.parsePing message.payload).2 localTime game
  else if message.type = "Pong".toList then
    ProcessPong.execute message.routingId (env.parsePong message.payload).2 localTime game
  else if message.type = "Register".toList then
    ProcessRegister.execute channel message.routingId (env.parseRegister message.payload).2 game
  else { game }

end ServerGame
