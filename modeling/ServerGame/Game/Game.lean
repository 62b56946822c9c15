import ServerGame.Game.FlagDetector

/-!
# The game

`Game.cpp` with `Contact.cpp`, `Robot.cpp` and `Player.cpp`. The state holds
the members of `Game`, the objects their pointers lead to and the static
registry of items. What the code reads from the clock is an argument.

`Robot::startVideo`, `Robot::stop`, `Robot::fire` and `Robot::readImage` only
log, so the loops that call them are left out.
-/

namespace ServerGame

open Lib (Map Ref Heap)

structure Game where
  ruleset : Ruleset
  gameDuration : Int
  isRunning : Bool := false
  robots : Map Str RobotRef := ∅
  robotsById : Map Str RobotRef := ∅
  players : Map Str PlayerRef := ∅
  teams : Map Str TeamRef := ∅
  registeredRobots : Map Str Str := ∅
  time : Ptime := .notADateTime
  startTime : Ptime := .notADateTime
  contacts : Map Str Contact := ∅
  winner : Option Str := none
  flagDetectorsByRobot : Map Str FlagDetector := ∅
  teamHeap : Heap ObjectKind.team Team := .empty
  robotHeap : Heap ObjectKind.robot Robot := .empty
  playerHeap : Heap ObjectKind.player Player := .empty
  items : ItemRegistry := {}

def Game.create (gameDuration : Int) (ruleset : Ruleset) : Game := { gameDuration, ruleset }

namespace Game

def team (game : Game) (t : TeamRef) : Team := game.teamHeap.get t

def robot (game : Game) (r : RobotRef) : Robot := game.robotHeap.get r

def player (game : Game) (p : PlayerRef) : Player := game.playerHeap.get p

-- ---------------------------------------------------------------------------
-- Lifetimes
-- ---------------------------------------------------------------------------

/-- `m_teams` stores the teams themselves. -/
def teamIsAlive (game : Game) (t : TeamRef) : Bool := game.teams.holds t

/-- `m_players` has the only lasting `shared_ptr` to a player. -/
def playerIsAlive (game : Game) (p : PlayerRef) : Bool := game.players.holds p

/-- Everything that keeps a `shared_ptr` to a robot. -/
def robotIsAlive (game : Game) (r : RobotRef) : Bool :=
  game.robots.holds r || game.robotsById.holds r ||
    game.flagDetectorsByRobot.toList.any (fun entry => entry.2.robot == r) ||
    game.contacts.toList.any (fun entry => entry.2.robot == r) ||
    game.teams.toList.any (fun entry => (game.team entry.2).robots.contains r)

/-- `Robot::getPlayer`, the lock of a weak pointer. -/
def getPlayerOfRobot (game : Game) (r : RobotRef) : Option PlayerRef :=
  (game.robot r).player.filter game.playerIsAlive

def getHasPlayer (game : Game) (r : RobotRef) : Bool := (game.getPlayerOfRobot r).isSome

def getIsAvailable (game : Game) (r : RobotRef) : Bool :=
  (game.robot r).hasRealRobot && !game.getHasPlayer r

/-- `Player::getRobot`, the lock of a weak pointer. -/
def getRobotOfPlayer (game : Game) (p : PlayerRef) : Option RobotRef :=
  (game.player p).robot.filter game.robotIsAlive

-- ---------------------------------------------------------------------------
-- Writes through pointers
-- ---------------------------------------------------------------------------

def modifyTeam (game : Game) (t : TeamRef) (f : Team → Team) : Game :=
  { game with teamHeap := game.teamHeap.modify t f }

def modifyRobot (game : Game) (r : RobotRef) (f : Robot → Robot) : Game :=
  { game with robotHeap := game.robotHeap.modify r f }

def modifyPlayer (game : Game) (p : PlayerRef) (f : Player → Player) : Game :=
  { game with playerHeap := game.playerHeap.modify p f }

def modifyItem (game : Game) (item : ItemRef) (f : Item → Item) : Game :=
  { game with items := game.items.modify item f }

-- ---------------------------------------------------------------------------
-- Players
-- ---------------------------------------------------------------------------

def addPlayer (game : Game) (name : Str) : Bool × Game :=
  if name ∈ game.players then (true, game)
  else
    (true,
      { game with
        playerHeap := game.playerHeap.alloc { name }
        players := game.players.insertIfNew name game.playerHeap.fresh })

def removePlayer (game : Game) (name : Str) : Bool × Game :=
  if name ∈ game.players then (true, { game with players := game.players.erase name })
  else (false, game)

-- ---------------------------------------------------------------------------
-- Teams
-- ---------------------------------------------------------------------------

def addTeam (game : Game) (teamName : Str) : Bool × Game :=
  if teamName ∈ game.teams then (false, game)
  else
    (true,
      { game with
        teamHeap := game.teamHeap.alloc (Team.ofName teamName)
        teams := game.teams.insert teamName game.teamHeap.fresh })

def removeTeam (game : Game) (teamName : Str) : Bool × Game :=
  if teamName ∈ game.teams then (true, { game with teams := game.teams.erase teamName })
  else (false, game)

-- ---------------------------------------------------------------------------
-- Robots
-- ---------------------------------------------------------------------------

def robotIdPrefix : Str := "robot_".toList

/-- The loop of `getNewRobotId`, one unit of fuel for each turn. -/
def getNewRobotIdLoop (alreadyThere : Str → Bool) : Nat → UInt32 → Option Str
  | 0, _ => none
  | fuel + 1, index =>
    let fullRobotId := robotIdPrefix ++ Nat.toDigits 10 index.toNat
    if alreadyThere fullRobotId then getNewRobotIdLoop alreadyThere fuel (index + 1)
    else some fullRobotId

/-- After `2 ^ 32` turns the index is back at 0, so a search that has found
nothing by then never ends. -/
def getNewRobotId (game : Game) : Option Str :=
  getNewRobotIdLoop
    (fun id => game.robots.toList.any fun entry => (game.robot entry.2).robotId == id) (2 ^ 32) 0

def chooseRobotId (game : Game) (robotId : Str) : Except Fault Str :=
  if robotId.isEmpty then
    match game.getNewRobotId with
    | some id => .ok id
    | none => .error .endlessLoop
  else .ok robotId

def insertRobot (game : Game) (name : Str) (team : TeamRef)
    (videoRetransmissionPort serverCommandPort : UInt16) (robotId : Str) : Game :=
  let aRobot := game.robotHeap.fresh
  { game with
    robotHeap := game.robotHeap.alloc
      { name, robotId, team, videoRetransmissionPort, serverCommandPort }
    teamHeap := game.teamHeap.modify team (·.addRobot aRobot)
    robots := game.robots.insertIfNew name aRobot
    robotsById := game.robotsById.insertIfNew robotId aRobot
    flagDetectorsByRobot :=
      game.flagDetectorsByRobot.insertIfNew robotId (FlagDetector.ofRobot aRobot) }

def addRobot (game : Game) (name teamName : Str)
    (videoRetransmissionPort serverCommandPort : UInt16) (robotId : Str) :
    Except Fault (Bool × Game) := do
  if name ∈ game.robots then return (false, game)
  let robotId ← game.chooseRobotId robotId
  match game.teams[teamName]? with
  | none => return (false, game)
  | some team =>
    return (true, game.insertRobot name team videoRetransmissionPort serverCommandPort robotId)

def removeRobot (game : Game) (name : Str) : Bool × Game :=
  if name ∈ game.robots then (true, { game with robots := game.robots.erase name })
  else (false, game)

def getHasRobotById (game : Game) (robotId : Str) : Bool := game.robotsById.contains robotId

/-- `m_robots.at` throws for a name that is not there. -/
def accessRobot (game : Game) (name : Str) : Except Fault RobotRef :=
  match game.robots[name]? with
  | some r => .ok r
  | none => .error .outOfRange

def accessPlayer (game : Game) (name : Str) : Except Fault PlayerRef :=
  match game.players[name]? with
  | some p => .ok p
  | none => .error .outOfRange

def getRobotWithoutRealRobot (game : Game) (temporaryRobotId : Str) :
    Except Fault (Option RobotRef × Game) :=
  match game.registeredRobots[temporaryRobotId]? with
  | some name => do
    let aFoundRobot ← game.accessRobot name
    return (some aFoundRobot, game)
  | none =>
    match game.robots.findFirst fun r => !(game.robot r).hasRealRobot with
    | some (name, r) =>
      .ok (some r,
        { game with registeredRobots := game.registeredRobots.insert temporaryRobotId name })
    | none => .ok (none, game)

def getAvailableRobot (game : Game) : Option RobotRef :=
  (game.robots.findFirst game.getIsAvailable).map Prod.snd

def playerIsNamed (game : Game) (name : Str) (r : RobotRef) : Bool :=
  match game.getPlayerOfRobot r with
  | some p => (game.player p).name == name
  | none => false

def getRobotForPlayer (game : Game) (name : Str) : Option RobotRef :=
  match game.robots.findLast (game.playerIsNamed name) with
  | some r => some r
  | none => game.getAvailableRobot

-- ---------------------------------------------------------------------------
-- Time
-- ---------------------------------------------------------------------------

def setTime (game : Game) (currentTime : Ptime) : Game := { game with time := currentTime }

def setDuration (game : Game) (duration : Int) : Game :=
  { game with gameDuration := duration }

/-- A signed difference returned as a `uint64_t`. -/
def getSecondsLeft (game : Game) : UInt64 :=
  if game.isRunning then
    UInt64.ofInt (totalSeconds game.gameDuration - totalSeconds (game.time.since game.startTime))
  else UInt64.ofInt (totalSeconds game.gameDuration)

-- ---------------------------------------------------------------------------
-- Start and stop
-- ---------------------------------------------------------------------------

def stop (game : Game) : Game :=
  if game.isRunning then
    { game with isRunning := false, items := game.items.resetAllItems }
  else game

def resetScores (game : Game) : Game :=
  { game with
    teamHeap := game.teams.toList.foldl (fun heap entry => heap.modify entry.2 Team.resetScore)
      game.teamHeap }

def start (game : Game) (forceStop : Bool) (forcedStartTime : Option Ptime)
    (localTime : Ptime) : Game :=
  let game := if forceStop then { game with winner := none }.resetScores.stop else game
  if game.isRunning then game
  else
    let startTime := forcedStartTime.getD localTime
    { game with startTime, time := startTime, isRunning := true }

-- ---------------------------------------------------------------------------
-- Contacts
-- ---------------------------------------------------------------------------

/-- The constructor of `Contact`, which reads the team of the robot and starts
the capture of the item. -/
def newContact (game : Game) (r : RobotRef) (item : ItemRef) : Except Fault (Contact × Game) :=
  if !game.teamIsAlive (game.robot r).team then .error .danglingTeam
  else if item < game.items.allItems.length then
    .ok ({ robot := r, item,
           stopTime := game.time.plus (milliseconds game.ruleset.timeToCapture) },
      game.modifyItem item (·.startCapture (game.team (game.robot r).team).name))
  else .error .nullPointer

def destroyContact (game : Game) (contact : Contact) : Game :=
  if contact.finished then game else game.modifyItem contact.item Item.abortCapture

def robotIsInContactWith (game : Game) (robotId : Str) (item : ItemRef) : Except Fault Game :=
  match game.robotsById[robotId]? with
  | none => .error .nullPointer
  | some r => do
    let (contact, game) ← game.newContact r item
    let replaced := game.contacts[robotId]?
    let game := { game with contacts := game.contacts.insert robotId contact }
    -- the contact it replaces is destroyed by the assignment, after the new one was made
    return match replaced with
      | some old => game.destroyContact old
      | none => game

def robotDropsContactWith (game : Game) (robotId : Str) (_item : ItemRef) : Game :=
  match game.contacts[robotId]? with
  | some contact =>
    { game with contacts := game.contacts.erase robotId }.destroyContact contact
  | none => game

/-- One call of `Item::capture`, with the owner it found. -/
structure Capture where
  item : ItemRef
  team : TeamRef
  teamName : Str
  previousOwner : Str
  deriving DecidableEq

def captureItem (game : Game) (t : TeamRef) (item : ItemRef) : Except Fault (Capture × Game) :=
  if !game.teamIsAlive t then .error .danglingTeam
  else
    match game.items.allItems[item]? with
    | none => .error .nullPointer
    | some it =>
      let captured := it.capture (game.team t)
      .ok ({ item, team := t, teamName := (game.team t).name, previousOwner := it.owningTeam },
        (game.modifyItem item fun _ => captured.1).modifyTeam t fun _ => captured.2)

structure ContactStep where
  robotId : Str
  contact : Contact
  signal : StepSignal
  capture : Option Capture := none
  deriving DecidableEq

def stepContact (game : Game) (robotId : Str) (contact : Contact) :
    Except Fault (ContactStep × Contact × Game) :=
  if contact.finished then .error .logicError
  else if game.time.isAfter contact.stopTime then do
    let (capture, game) ← game.captureItem (game.robot contact.robot).team contact.item
    return ({ robotId, contact, signal := .silenceIKillU, capture := some capture },
      { contact with finished := true }, game)
  else .ok ({ robotId, contact, signal := .stayingAlive }, contact, game)

/-- The loop of `handleContacts` over what is left of `m_contacts`. Erasing the
current entry leads to the next one. -/
def handleContactsLoop : Game → List (Str × Contact) → Except Fault (List ContactStep × Game)
  | game, [] => .ok ([], game)
  | game, (robotId, contact) :: rest => do
    let (aStep, contact, game) ← game.stepContact robotId contact
    let game := match aStep.signal with
      | .silenceIKillU =>
        { game with contacts := game.contacts.erase robotId }.destroyContact contact
      | .stayingAlive => game
    let (steps, game) ← handleContactsLoop game rest
    return (aStep :: steps, game)

def handleContacts (game : Game) : Except Fault (List ContactStep × Game) :=
  game.handleContactsLoop game.contacts.toList

-- ---------------------------------------------------------------------------
-- The tick
-- ---------------------------------------------------------------------------

def winningTeams (game : Game) : List Str :=
  game.teams.toList.filterMap fun entry =>
    if game.ruleset.scoreToWin ≤ (game.team entry.2).score then some (game.team entry.2).name
    else none

def stopIfGameIsFinished (game : Game) : Game :=
  if game.getSecondsLeft ≤ 0 then game.stop
  else
    match game.winningTeams with
    | [] => game
    | [winner] => { game with winner := some winner }.stop
    | _ => game.stop

def step (game : Game) : Except Fault (List ContactStep × Game) := do
  let (steps, game) ← game.handleContacts
  return (steps, game.stopIfGameIsFinished)

def getFlagDetector (game : Game) (robotId : Str) : Option FlagDetector :=
  game.flagDetectorsByRobot[robotId]?

/-- What a call of the contact handler does: `Game` is the handler. -/
def handleContactCall (game : Game) : ContactCall → Except Fault Game
  | .isInContactWith robotId item => game.robotIsInContactWith robotId item
  | .dropsContactWith robotId item => .ok (game.robotDropsContactWith robotId item)

end Game

end ServerGame
