import ServerGame.Callbacks.Handlers
import ServerGame.Lib.Machine

/-!
# The server as a machine

The calls of the public interface of `Game`, the commands of `AgentProxy` and
the loop of `Server`, as one step function over the state of the application.
An exception a handler lets out is part of the output and the run goes on from
the state it left, so what holds of every run holds up to an exception too. A
fault without defined behaviour ends the run.
-/

namespace ServerGame

open Lib (bind_eq_ok pure_eq_ok)

/-- What a step shows: messages sent, calls of the contact handler, contacts
stepped, an exception let out. -/
structure Output where
  sent : List Sent := []
  calls : List ContactCall := []
  steps : List Game.ContactStep := []
  escaped : Option Fault := none

-- ---------------------------------------------------------------------------
-- The interface of Game
-- ---------------------------------------------------------------------------

inductive GameCall
  | addTeam (name : Str)
  | removeTeam (name : Str)
  | addRobot (name teamName : Str) (videoRetransmissionPort serverCommandPort : UInt16)
      (robotId : Str)
  | removeRobot (name : Str)
  | addPlayer (name : Str)
  | removePlayer (name : Str)
  | createItem (type name : Str) (rfids : Std.ExtTreeSet Str compare) (colourCode : Int)
  | start (forceStop : Bool) (forcedStartTime : Option Ptime) (localTime : Instant)
  | stop
  | setTime (time : Ptime)
  | setDuration (duration : Int)
  | contact (call : ContactCall)
  | step

def GameCall.apply (game : Game) : GameCall → Except Fault (Game × Output)
  | .addTeam name => .ok ((game.addTeam name).2, {})
  | .removeTeam name => .ok ((game.removeTeam name).2, {})
  | .addRobot name teamName port commandPort robotId => do
    let (_, game) ← game.addRobot name teamName port commandPort robotId
    return (game, {})
  | .removeRobot name => .ok ((game.removeRobot name).2, {})
  | .addPlayer name => .ok ((game.addPlayer name).2, {})
  | .removePlayer name => .ok ((game.removePlayer name).2, {})
  | .createItem type name rfids colourCode =>
    .ok ({ game with items := (game.items.createItem type name rfids colourCode game.ruleset).2 },
      {})
  | .start forceStop forcedStartTime localTime =>
    .ok (game.start forceStop forcedStartTime (.at localTime), {})
  | .stop => .ok (game.stop, {})
  | .setTime time => .ok (game.setTime time, {})
  | .setDuration duration => .ok (game.setDuration duration, {})
  | .contact call => do
    let game ← game.handleContactCall call
    return (game, { calls := [call] })
  | .step => do
    let (steps, game) ← game.step
    return (game, { steps })

namespace GameCall

variable {game game' : Game}

theorem apply_contact {call : ContactCall} {output : Output} :
    (contact call).apply game = .ok (game', output) ↔
      game.handleContactCall call = .ok game' ∧ output = { calls := [call] } := by
  simp only [apply, bind_eq_ok, pure_eq_ok, Prod.mk.injEq]
  constructor
  · rintro ⟨_, h, rfl, rfl⟩; exact ⟨h, rfl⟩
  · rintro ⟨h, rfl⟩; exact ⟨_, h, rfl, rfl⟩

theorem apply_step {output : Output} :
    step.apply game = .ok (game', output) ↔
      ∃ steps, game.step = .ok (steps, game') ∧ output = { steps } := by
  simp only [apply, bind_eq_ok, pure_eq_ok, Prod.exists, Prod.mk.injEq]
  constructor
  · rintro ⟨steps, _, h, rfl, rfl⟩; exact ⟨steps, h, rfl⟩
  · rintro ⟨steps, h, rfl⟩; exact ⟨steps, _, h, rfl, rfl⟩

theorem apply_addRobot {name teamName robotId : Str} {port commandPort : UInt16}
    {output : Output} :
    (addRobot name teamName port commandPort robotId).apply game = .ok (game', output) ↔
      ∃ added, game.addRobot name teamName port commandPort robotId = .ok (added, game') ∧
        output = {} := by
  simp only [apply, bind_eq_ok, pure_eq_ok, Prod.exists, Prod.mk.injEq]
  constructor
  · rintro ⟨added, _, h, rfl, rfl⟩; exact ⟨added, h, rfl⟩
  · rintro ⟨added, h, rfl⟩; exact ⟨added, _, h, rfl, rfl⟩

theorem apply_output {call : GameCall} {output : Output}
    (h : call.apply game = .ok (game', output)) :
    output.sent = [] ∧ (output.calls = [] ∨ output.steps = []) := by
  cases call with
  | contact call => obtain ⟨-, rfl⟩ := apply_contact.mp h; exact ⟨rfl, .inr rfl⟩
  | step => obtain ⟨_, -, rfl⟩ := apply_step.mp h; exact ⟨rfl, .inl rfl⟩
  | addRobot => obtain ⟨_, -, rfl⟩ := apply_addRobot.mp h; exact ⟨rfl, .inl rfl⟩
  | _ => cases h; exact ⟨rfl, .inl rfl⟩

end GameCall

-- ---------------------------------------------------------------------------
-- Application and AgentProxy
-- ---------------------------------------------------------------------------

inductive State
  | created
  | running
  | stopped
  deriving DecidableEq, Repr

structure Application where
  game : Game
  /-- Vectors, popped and pushed at the back. -/
  availablePorts : List UInt16 := []
  takenPorts : List UInt16 := []
  state : State := .running

namespace Application

def popPort (app : Application) : UInt16 × Application :=
  match app.availablePorts.getLast? with
  | some port =>
    (port,
      { app with
        availablePorts := app.availablePorts.dropLast
        takenPorts := app.takenPorts ++ [port] })
  | none => (0, app)

/-- `popPort(), popPort()` as two arguments of a call: which one is evaluated
first is up to the compiler. -/
def popTwoPorts (leftFirst : Bool) (app : Application) : UInt16 × UInt16 × Application :=
  let (first, app) := app.popPort
  let (second, app) := app.popPort
  if leftFirst then (first, second, app) else (second, first, app)

/-- `stop` also ends the loop of the server. -/
def stop (app : Application) : Application :=
  if app.state = .running then { app with state := .stopped, game := app.game.stop } else app

end Application

/-- A parsed agent command: the method of `AgentProxy` it calls. -/
inductive Command
  | stopApplication
  | addTeam (teamName : Str)
  | removeTeam (teamName : Str)
  | setTeam (teamName property value : Str)
  | addRobot (robotName teamName : Str)
  | removeRobot (robotName : Str)
  | registerRobot (robotName : Str)
  | unregisterRobot (robotName : Str)
  | setRobot (robotName property value : Str)
  | addPlayer (playerName : Str)
  | removePlayer (playerName : Str)
  | setPlayer (playerName property value : Str)
  | startGame
  | stopGame
  | setGame (property : Str) (value : UInt32)
  deriving DecidableEq, Repr

namespace AgentProxy

/-- A name that is not in the map makes `at` throw, which is caught and logged. -/
def modifyRobotNamed (name : Str) (f : Robot → Robot) (game : Game) : Game :=
  match game.accessRobot name with
  | .ok r => game.modifyRobot r f
  | .error _ => game

def modifyPlayerNamed (name : Str) (f : Player → Player) (game : Game) : Game :=
  match game.accessPlayer name with
  | .ok p => game.modifyPlayer p f
  | .error _ => game

/-- An unknown name leads to the neutral team, which has the empty name: a team
of that name is taken for it. -/
def setTeam (env : Externals) (teamName property value : Str) (game : Game) : Game :=
  match game.teams[teamName]? with
  | none => game
  | some t =>
    if (game.team t).name.isEmpty then game
    else if property = "score".toList then
      match env.lexicalCastUint32 value with
      | some score => game.modifyTeam t (·.setScore score)
      | none => game
    else game

def setHasRealRobot (robotName : Str) (hasRealRobot : Bool) (game : Game) : Game :=
  modifyRobotNamed robotName ({ · with hasRealRobot }) game

def setRobot (robotName property value : Str) (game : Game) : Game :=
  if property = "video_url".toList then
    modifyRobotNamed robotName ({ · with videoUrl := value }) game
  else game

def setPlayer (playerName property value : Str) (game : Game) : Game :=
  if property = "address".toList then
    modifyPlayerNamed playerName ({ · with address := value }) game
  else game

def setGame (property : Str) (value : UInt32) (game : Game) : Game :=
  if property = "duration".toList then game.setDuration (seconds value) else game

/-- The ports are popped before `Game::addRobot` decides. -/
def addRobot (leftFirst : Bool) (robotName teamName : Str) (app : Application) :
    Except Fault Application := do
  let (port, commandPort, app) := app.popTwoPorts leftFirst
  let (_, game) ← app.game.addRobot robotName teamName port commandPort []
  return { app with game }

def apply (env : Externals) (localTime : Instant) (app : Application) :
    Command → Except Fault Application
  | .stopApplication => .ok app.stop
  | .addTeam name => .ok { app with game := (app.game.addTeam name).2 }
  | .removeTeam name => .ok { app with game := (app.game.removeTeam name).2 }
  | .setTeam name property value =>
    .ok { app with game := setTeam env name property value app.game }
  | .addRobot name teamName => addRobot env.leftFirst name teamName app
  | .removeRobot name => .ok { app with game := (app.game.removeRobot name).2 }
  | .registerRobot name => .ok { app with game := setHasRealRobot name true app.game }
  | .unregisterRobot name => .ok { app with game := setHasRealRobot name false app.game }
  | .setRobot name property value => .ok { app with game := setRobot name property value app.game }
  | .addPlayer name => .ok { app with game := (app.game.addPlayer name).2 }
  | .removePlayer name => .ok { app with game := (app.game.removePlayer name).2 }
  | .setPlayer name property value =>
    .ok { app with game := setPlayer name property value app.game }
  | .startGame => .ok { app with game := app.game.start true none (.at localTime) }
  | .stopGame => .ok { app with game := app.game.stop }
  | .setGame property value => .ok { app with game := setGame property value app.game }

end AgentProxy

-- ---------------------------------------------------------------------------
-- Server
-- ---------------------------------------------------------------------------

/-- What the loop of the server can do next: note the time, handle a message,
an agent command or a tic. The tests also call the game directly. -/
inductive Event
  | clock (currentTic : Instant)
  | message (message : RawMessage) (channel : Channel) (localTime : Instant)
  | agent (command : Command) (localTime : Instant)
  | tic
  | call (call : GameCall)

namespace Server

/-- A handler's outcome as a step: what has no defined behaviour ends the run. -/
def ofOutcome (app : Application) (outcome : Outcome) : Except Fault (Application × Output) :=
  let output :=
    { sent := outcome.sent, calls := outcome.calls, escaped := outcome.escaped : Output }
  match outcome.escaped with
  | none => .ok ({ app with game := outcome.game }, output)
  | some fault =>
    if fault.isException then .ok ({ app with game := outcome.game }, output) else .error fault

def tic (app : Application) : Except Fault (Application × Output) :=
  if app.game.isRunning then do
    let (steps, game) ← app.game.step
    return ({ app with game }, { sent := (ProcessTimer.execute game).sent, steps })
  else .ok (app, {})

def step (env : Externals) (app : Application) : Event → Except Fault (Application × Output)
  | .clock currentTic => .ok ({ app with game := app.game.setTime (.at currentTic) }, {})
  | .message message channel localTime =>
    ofOutcome app (ProcessDecider.process env message channel localTime app.game)
  | .agent command localTime => do
    let app ← AgentProxy.apply env localTime app command
    return (app, {})
  | .tic => tic app
  | .call call => do
    let (game, output) ← call.apply app.game
    return ({ app with game }, output)

section
variable {env : Externals} {app app' : Application} {output : Output}

theorem ofOutcome_ok {outcome : Outcome} (h : ofOutcome app outcome = .ok (app', output)) :
    app' = { app with game := outcome.game } ∧
      output = { sent := outcome.sent, calls := outcome.calls, escaped := outcome.escaped } := by
  unfold ofOutcome at h
  split at h
  · cases h; exact ⟨rfl, by simp_all⟩
  · split at h
    · cases h; exact ⟨rfl, by simp_all⟩
    · cases h

theorem step_agent {command : Command} {localTime : Instant} :
    step env app (.agent command localTime) = .ok (app', output) ↔
      AgentProxy.apply env localTime app command = .ok app' ∧ output = {} := by
  simp only [step, bind_eq_ok, pure_eq_ok, Prod.mk.injEq]
  constructor
  · rintro ⟨_, happly, rfl, rfl⟩
    exact ⟨happly, rfl⟩
  · rintro ⟨happly, rfl⟩
    exact ⟨_, happly, rfl, rfl⟩

theorem step_call {call : GameCall} :
    step env app (.call call) = .ok (app', output) ↔
      ∃ game, call.apply app.game = .ok (game, output) ∧ app' = { app with game } := by
  simp only [step, bind_eq_ok, pure_eq_ok, Prod.exists, Prod.mk.injEq]
  constructor
  · rintro ⟨game, _, happly, rfl, rfl⟩
    exact ⟨game, happly, rfl⟩
  · rintro ⟨game, happly, rfl⟩
    exact ⟨game, _, happly, rfl, rfl⟩

theorem step_tic (h : step env app .tic = .ok (app', output)) :
    (app.game.isRunning = true ∧ ∃ steps game, app.game.step = .ok (steps, game) ∧
      app' = { app with game } ∧
        output = { sent := (ProcessTimer.execute game).sent, steps }) ∨
    app.game.isRunning = false ∧ app' = app ∧ output = {} := by
  simp only [step, tic] at h
  split at h
  · next hrunning =>
    simp only [bind_eq_ok, pure_eq_ok, Prod.exists, Prod.mk.injEq] at h
    obtain ⟨steps, game, hstep, rfl, rfl⟩ := h
    exact .inl ⟨hrunning, steps, game, hstep, rfl, rfl⟩
  · next hrest => cases h; exact .inr ⟨by simpa using hrest, rfl, rfl⟩

end

def create (ports : List UInt16) (gameDuration : Int) (ruleset : Ruleset) : Application :=
  { game := Game.create gameDuration ruleset, availablePorts := ports }

abbrev run (env : Externals) := Lib.run (step env)

/-- The states an application reaches from an empty game. -/
def Reachable (env : Externals) (app : Application) : Prop :=
  ∃ ports gameDuration ruleset events outputs,
    run env (create ports gameDuration ruleset) events = .ok (app, outputs)

end Server

-- ---------------------------------------------------------------------------
-- The games of the examples
-- ---------------------------------------------------------------------------

def oneTeam : Ruleset := { scoreToWin := 1, pointsOnCapture := 1, timeToCapture := 0 }

def oneRobot : List Event :=
  [.call (.addTeam "A".toList), .call (.addRobot "r1".toList "A".toList 0 0 "robot_0".toList),
    .agent (.registerRobot "r1".toList) 0]

def oneFlag : Game :=
  { ((Game.create 2000000 oneTeam).addTeam "A".toList).2.insertRobot "r1".toList ⟨0⟩ 0 0
      "robot_0".toList with
    items := (ItemRegistry.createItem {} "flag".toList "red".toList ∅ 2 oneTeam).2 }

end ServerGame
