import ServerGame.Server

/-!
# Parameters

`Application::CheckParametersConsistency` and `Application::initServer`: what
is accepted of a configuration, and the game that is made of it. The sockets
of the server and the map limits are left out.
-/

namespace ServerGame

open Lib (Map bind_eq_ok pure_eq_ok)

-- ---------------------------------------------------------------------------
-- Parameters
-- ---------------------------------------------------------------------------

structure CommandLineParameters where
  pullerPort : Option UInt16 := none
  publisherPort : Option UInt16 := none
  agentPort : Option UInt16 := none
  replierPort : Option UInt16 := none
  tickInterval : Option Int64 := none
  gameDuration : Option Int32 := none
  dryRun : Option Bool := none
  broadcast : Option Bool := none
  broadcastPort : Option UInt16 := none

structure Parameters.Robot where
  name : Str
  team : Str

structure Parameters.Item where
  name : Str
  type : Str
  rfids : Std.ExtTreeSet Str compare
  colour : Int

structure Parameters where
  commandLineParameters : CommandLineParameters
  videoPorts : List UInt16 := []
  robots : Map Str Parameters.Robot := ∅
  items : Map Str Parameters.Item := ∅
  teams : Std.ExtTreeSet Str compare := ∅
  ruleset : Ruleset

def valueOf (parameter : Option α) : Except Fault α :=
  match parameter with
  | some value => .ok value
  | none => .error .emptyOptional

-- ---------------------------------------------------------------------------
-- CheckParametersConsistency
-- ---------------------------------------------------------------------------

/-- `std::adjacent_find` on the keys of a multimap. -/
def hasIdenticalNeighbours : List UInt16 → Bool
  | left :: right :: rest => left == right || hasIdenticalNeighbours (right :: rest)
  | _ => false

def Parameters.Item.isBadlyConfigured (item : Parameters.Item) : Bool :=
  decide (item.colour ≠ -1) && !item.rfids.isEmpty

def checkParametersConsistency (param : Parameters) : Except Fault Bool := do
  let publisher ← valueOf param.commandLineParameters.publisherPort
  let puller ← valueOf param.commandLineParameters.pullerPort
  let agent ← valueOf param.commandLineParameters.agentPort
  let replier ← valueOf param.commandLineParameters.replierPort
  let broadcast ← valueOf param.commandLineParameters.broadcastPort
  let ports := [publisher, puller, agent, replier, broadcast].insertionSort (· ≤ ·)
  if hasIdenticalNeighbours ports then return false
  if 0 ∈ ports then return false
  if param.videoPorts.length < 2 * param.robots.size then return false
  return !param.items.toList.any fun entry => entry.2.isBadlyConfigured

-- ---------------------------------------------------------------------------
-- initServer
-- ---------------------------------------------------------------------------

/-- The result of `Game::addRobot` is not looked at. -/
def Application.addConfiguredRobot (leftFirst : Bool) (app : Application)
    (entry : Str × Parameters.Robot) : Except Fault Application := do
  let (port, commandPort, app) := app.popTwoPorts leftFirst
  let (_, game) ← app.game.addRobot entry.2.name entry.2.team port commandPort entry.1
  return { app with game }

/-- The new item is logged, which reads it. -/
def Parameters.Item.create (ruleset : Ruleset) (items : ItemRegistry) (item : Parameters.Item) :
    Except Fault ItemRegistry :=
  match items.createItem item.type item.name item.rfids item.colour ruleset with
  | (some _, items) => .ok items
  | (none, _) => .error .nullPointer

/-- `items` is the registry before, which is static. -/
def initServer (leftFirst : Bool) (items : ItemRegistry) (param : Parameters) :
    Except Fault Application := do
  let _ ← valueOf param.commandLineParameters.agentPort
  let _ ← valueOf param.commandLineParameters.publisherPort
  let _ ← valueOf param.commandLineParameters.pullerPort
  let _ ← valueOf param.commandLineParameters.replierPort
  let _ ← valueOf param.commandLineParameters.tickInterval
  let gameDuration ← valueOf param.commandLineParameters.gameDuration
  let game := { Game.create (seconds gameDuration.toUInt32) param.ruleset with items }
  let game := param.teams.toList.foldl (fun game name => (game.addTeam name).2) game
  let app : Application := { game, availablePorts := param.videoPorts, state := .created }
  let app ← param.robots.toList.foldlM (Application.addConfiguredRobot leftFirst) app
  let items ← (param.items.toList.map Prod.snd).foldlM (Parameters.Item.create param.ruleset)
    app.game.items
  return { app with game := { app.game with items } }

end ServerGame
