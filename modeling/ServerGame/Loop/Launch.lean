import ServerGame.Discovery
import ServerGame.Ports
import ServerGame.Loop.Survival

/-!
# From the parameters to the loop

`Application::run` of a new application: `initServer` makes the game by calls of
its interface, so what holds of every game the server machine reaches holds of
the game of the loop. With the broadcast option a child process answers
broadcasts, and in a dry run there is no loop.
-/

namespace ServerGame

open Lib (along bind_eq_ok pure_eq_ok)

/-- What `run` comes to: the server of the parent process, whether it goes into its
loop, and what the child process has made, if there is one. -/
structure Launched (zmq : Zmq) where
  server : Server zmq
  loops : Bool
  child : Option (Except Fault (Option BroadcastServer))

namespace Application

/-- `initServer`, with the state set behind it. The interval between tics is given
in milliseconds, and the server takes the time it is made at for that of its
last tic. -/
def runServer (zmq : Zmq) (leftFirst : Bool) (param : Parameters) (localTime : Instant) :
    Except Fault (Server zmq) := do
  let app ← initServer leftFirst {} param
  let tickInterval ← valueOf param.commandLineParameters.tickInterval
  return Server.launch zmq { application := { app with state := .running } }
    (tickInterval.toInt * 1000) localTime

def run (zmq : Zmq) (leftFirst : Bool) (param : Parameters) (localTime : Instant) :
    Except Fault (Launched zmq) :=
  if param.commandLineParameters.dryRun = some true then do
    let server ← runServer zmq leftFirst param localTime
    return { server, loops := false, child := none }
  else if param.commandLineParameters.broadcast = some true then do
    let server ← runServer zmq leftFirst param localTime
    return { server, loops := true, child := some (initBroadcastServer param) }
  else do
    let server ← runServer zmq leftFirst param localTime
    return { server, loops := true, child := none }

end Application

-- ---------------------------------------------------------------------------
-- The calls of initServer
-- ---------------------------------------------------------------------------

def nextPort (availablePorts : List UInt16) : UInt16 := availablePorts.getLast?.getD 0

def robotCalls (leftFirst : Bool) : List UInt16 → List (Str × Parameters.Robot) → List GameCall
  | _, [] => []
  | ports, (robotId, robot) :: rest =>
    let first := nextPort ports
    let second := nextPort ports.dropLast
    .addRobot robot.name robot.team (if leftFirst then first else second)
        (if leftFirst then second else first) robotId ::
      robotCalls leftFirst ports.dropLast.dropLast rest

def Parameters.Item.call (item : Parameters.Item) : GameCall :=
  .createItem item.type item.name item.rfids item.colour

namespace Parameters

def calls (leftFirst : Bool) (param : Parameters) : List GameCall :=
  param.teams.toList.map .addTeam ++ (robotCalls leftFirst param.videoPorts param.robots.toList ++
    (param.items.toList.map Prod.snd).map Item.call)

def portsLeft (param : Parameters) : List UInt16 :=
  param.videoPorts.take (param.videoPorts.length - 2 * param.robots.toList.length)

end Parameters

theorem Application.popTwoPorts_eq (leftFirst : Bool) (app : Application) :
    (app.popTwoPorts leftFirst).1 =
        (if leftFirst then nextPort app.availablePorts else nextPort app.availablePorts.dropLast) ∧
      (app.popTwoPorts leftFirst).2.1 =
        (if leftFirst then nextPort app.availablePorts.dropLast else nextPort app.availablePorts) ∧
      (app.popTwoPorts leftFirst).2.2.availablePorts = app.availablePorts.dropLast.dropLast := by
  have hport (app : Application) : app.popPort.1 = nextPort app.availablePorts := by
    unfold Application.popPort nextPort
    cases app.availablePorts.getLast? <;> rfl
  rw [popTwoPorts_left, popPort_availablePorts, popPort_availablePorts]
  unfold Application.popTwoPorts
  have hfirst := hport app
  have hsecond := hport app.popPort.2
  rw [popPort_availablePorts] at hsecond
  cases leftFirst
  · exact ⟨hsecond, hfirst, rfl⟩
  · exact ⟨hfirst, hsecond, rfl⟩

-- ---------------------------------------------------------------------------
-- Building a game
-- ---------------------------------------------------------------------------

variable {game game' game'' : Game} {calls calls' : List GameCall}

def GameCall.IsBuilding : GameCall → Prop
  | .addTeam _ | .addRobot .. | .createItem .. => True
  | _ => False

/-- The calls lead from one game to the other, and show nothing. -/
structure Builds (calls : List GameCall) (game game' : Game) : Prop where
  building : ∀ call ∈ calls, call.IsBuilding
  run : Lib.run GameCall.apply game calls = .ok (game', calls.map fun _ => {})

theorem Builds.refl (game : Game) : Builds [] game game := ⟨by simp, Lib.run_nil.mpr rfl⟩

theorem Builds.single (call : GameCall) (hcall : call.IsBuilding)
    (h : call.apply game = .ok (game', {})) : Builds [call] game game' :=
  ⟨by simpa using hcall, Lib.run_singleton.mpr ⟨{}, h, rfl⟩⟩

theorem Builds.trans (h : Builds calls game game') (h' : Builds calls' game' game'') :
    Builds (calls ++ calls') game game'' where
  building call hcall := (List.mem_append.mp hcall).elim (h.building call) (h'.building call)
  run := Lib.run_append.mpr ⟨game', _, _, h.run, h'.run, List.map_append⟩

theorem Builds.invariant (h : Builds calls game game') (P : Game → Prop)
    (hstep : ∀ g (call : GameCall) g' output, call.IsBuilding → P g →
      call.apply g = .ok (g', output) → P g')
    (hP : P game) : P game' :=
  Lib.run_invariant P
    (fun g call g' output hmem hg hcall => hstep g call g' output (h.building call hmem) hg hcall)
    hP h.run

theorem Builds.addTeams (names : List Str) (game : Game) :
    Builds (names.map .addTeam) game
      (names.foldl (fun game name => (game.addTeam name).2) game) := by
  induction names generalizing game with
  | nil => exact .refl game
  | cons name names ih =>
    have hfirst : Builds [.addTeam name] game (game.addTeam name).2 :=
      .single (.addTeam name) trivial rfl
    exact hfirst.trans (ih _)

theorem Builds.addConfiguredRobot {leftFirst : Bool} {app app' : Application}
    {entry : Str × Parameters.Robot} (h : app.addConfiguredRobot leftFirst entry = .ok app') :
    Builds (robotCalls leftFirst app.availablePorts [entry]) app.game app'.game ∧
      app'.availablePorts = app.availablePorts.dropLast.dropLast := by
  obtain ⟨hport, hcommandPort, hleft⟩ := app.popTwoPorts_eq leftFirst
  unfold Application.addConfiguredRobot at h
  simp only [bind_eq_ok, pure_eq_ok, Prod.exists, Application.popTwoPorts_game] at h
  obtain ⟨added, game', hadd, rfl⟩ := h
  rw [hport, hcommandPort] at hadd
  exact ⟨.single _ trivial (GameCall.apply_addRobot.mpr ⟨added, hadd, rfl⟩), hleft⟩

theorem Builds.addConfiguredRobots {leftFirst : Bool} {app app' : Application}
    {entries : List (Str × Parameters.Robot)}
    (h : entries.foldlM (Application.addConfiguredRobot leftFirst) app = .ok app') :
    Builds (robotCalls leftFirst app.availablePorts entries) app.game app'.game ∧
      app'.availablePorts =
        app.availablePorts.take (app.availablePorts.length - 2 * entries.length) := by
  induction entries generalizing app with
  | nil =>
    cases h
    exact ⟨.refl _, by simp⟩
  | cons entry entries ih =>
    simp only [List.foldlM_cons, bind_eq_ok] at h
    obtain ⟨app₁, hadd, hrest⟩ := h
    obtain ⟨hfirst, hports⟩ := Builds.addConfiguredRobot hadd
    obtain ⟨hlater, hleft⟩ := ih hrest
    rw [hports] at hlater hleft
    refine ⟨hfirst.trans hlater, hleft.trans ?_⟩
    simp only [List.dropLast_eq_take, List.take_take, List.length_take, List.length_cons]
    congr 1
    omega

theorem Builds.create {ruleset : Ruleset} {items items' : ItemRegistry} {item : Parameters.Item}
    (h : item.create ruleset items = .ok items') {game : Game} (hitems : game.items = items)
    (hruleset : game.ruleset = ruleset) :
    Builds [item.call] game { game with items := items' } := by
  subst hitems hruleset
  have hmade : (game.items.createItem item.type item.name item.rfids item.colour
      game.ruleset).2 = items' := by
    unfold Parameters.Item.create at h
    split at h
    · next hcreated => cases h; rw [hcreated]
    · cases h
  subst hmade
  exact .single item.call trivial rfl

theorem Builds.createAll {ruleset : Ruleset} {items items' : ItemRegistry}
    {entries : List Parameters.Item}
    (h : entries.foldlM (Parameters.Item.create ruleset) items = .ok items') (game : Game)
    (hitems : game.items = items) (hruleset : game.ruleset = ruleset) :
    Builds (entries.map Parameters.Item.call) game { game with items := items' } := by
  induction entries generalizing items game with
  | nil =>
    cases h
    subst hitems
    exact .refl game
  | cons item entries ih =>
    simp only [List.foldlM_cons, bind_eq_ok] at h
    obtain ⟨items₁, hitem, hrest⟩ := h
    have hfirst := Builds.create hitem hitems hruleset
    have hlater : Builds (entries.map Parameters.Item.call) { game with items := items₁ }
        { game with items := items' } := ih hrest _ rfl hruleset
    exact hfirst.trans hlater

theorem Builds.ruleset (h : Builds calls game game') : game'.ruleset = game.ruleset := by
  refine h.invariant (fun g => g.ruleset = game.ruleset)
    (fun g call g' output hbuilding hg hcall => ?_) rfl
  cases call with
  | addTeam name =>
    cases hcall
    unfold Game.addTeam
    split <;> exact hg
  | addRobot name teamName port commandPort robotId =>
    obtain ⟨_, hadd, -⟩ := GameCall.apply_addRobot.mp hcall
    rcases Game.addRobot_ok hadd with ⟨-, rfl⟩ | ⟨_, _, -, -, -, -, rfl⟩ <;> exact hg
  | createItem => cases hcall; exact hg
  | _ => exact hbuilding.elim

theorem initServer_builds {leftFirst : Bool} {param : Parameters} {app : Application}
    (h : initServer leftFirst {} param = .ok app) :
    ∃ gameDuration, param.commandLineParameters.gameDuration = some gameDuration ∧
      Builds (param.calls leftFirst)
        (Game.create (seconds gameDuration.toUInt32) param.ruleset) app.game ∧
      app.availablePorts = param.portsLeft := by
  unfold initServer at h
  simp only [bind_eq_ok, pure_eq_ok] at h
  obtain ⟨_, -, _, -, _, -, _, -, _, -, duration, hduration, app₁, hrobots, items, hitems, rfl⟩ := h
  refine ⟨duration, valueOf_ok.mp hduration, ?_⟩
  have hteams : Builds (param.teams.toList.map .addTeam)
      (Game.create (seconds duration.toUInt32) param.ruleset)
      (param.teams.toList.foldl (fun game name => (game.addTeam name).2)
        { Game.create (seconds duration.toUInt32) param.ruleset with items := {} }) :=
    .addTeams _ _
  obtain ⟨hbuilt, hports⟩ := Builds.addConfiguredRobots hrobots
  have hruleset : app₁.game.ruleset = param.ruleset := (hteams.trans hbuilt).ruleset
  exact ⟨hteams.trans (hbuilt.trans (.createAll hitems _ rfl hruleset)), hports⟩

theorem Safe.builds {env : Externals} (hs : Safe env game) (h : Builds calls game game') :
    Safe env game' := by
  refine h.invariant (Safe env) (fun g call g' output hbuilding hg hcall => ?_) hs
  have hsteady : Steady env g' := by
    cases call with
    | addTeam name => cases hcall; exact hg.steady.addTeam name
    | addRobot name teamName port commandPort robotId =>
      obtain ⟨_, hadd, -⟩ := GameCall.apply_addRobot.mp hcall
      exact hg.steady.addRobot hadd
    | createItem type name rfids colourCode =>
      cases hcall; exact hg.steady.createItem type name rfids colourCode
    | _ => exact hbuilding.elim
  have hedits : Edits (.call call) g output.calls output.steps g' := .call hcall
  exact ⟨hsteady, hg.itemsSound.edits hedits, hg.detectorsNamed.edits hedits⟩

-- ---------------------------------------------------------------------------
-- The ports
-- ---------------------------------------------------------------------------

theorem Application.popPort_takenPorts (app : Application) (taken : List UInt16) :
    ∃ taken', ({ app with takenPorts := taken } : Application).popPort =
      (app.popPort.1, { app.popPort.2 with takenPorts := taken' }) := by
  unfold Application.popPort
  dsimp only
  cases app.availablePorts.getLast? <;> exact ⟨_, rfl⟩

theorem Application.popTwoPorts_takenPorts (leftFirst : Bool) (app : Application)
    (taken : List UInt16) :
    ∃ taken', ({ app with takenPorts := taken } : Application).popTwoPorts leftFirst =
      ((app.popTwoPorts leftFirst).1, (app.popTwoPorts leftFirst).2.1,
        { (app.popTwoPorts leftFirst).2.2 with takenPorts := taken' }) := by
  obtain ⟨taken₁, h₁⟩ := app.popPort_takenPorts taken
  obtain ⟨taken₂, h₂⟩ := app.popPort.2.popPort_takenPorts taken₁
  unfold Application.popTwoPorts
  dsimp only
  rw [h₁]
  dsimp only
  rw [h₂]
  cases leftFirst <;> exact ⟨taken₂, rfl⟩

theorem AgentProxy.addRobot_takenPorts {leftFirst : Bool} {app app' : Application}
    {name teamName : Str} (taken : List UInt16)
    (h : AgentProxy.addRobot leftFirst name teamName app = .ok app') :
    ∃ taken', AgentProxy.addRobot leftFirst name teamName { app with takenPorts := taken } =
      .ok { app' with takenPorts := taken' } := by
  obtain ⟨taken', htwo⟩ := app.popTwoPorts_takenPorts leftFirst taken
  simp only [AgentProxy.addRobot, bind_eq_ok, pure_eq_ok, Prod.exists] at h ⊢
  obtain ⟨added, game, hadd, rfl⟩ := h
  refine ⟨taken', added, game, ?_, ?_⟩
  · rw [htwo]
    exact hadd
  · rw [htwo]

theorem Server.step_takenPorts {env : Externals} {app app' : Application} {event : Event}
    {output : Output} (taken : List UInt16)
    (h : Server.step env app event = .ok (app', output)) :
    ∃ taken', Server.step env { app with takenPorts := taken } event =
      .ok ({ app' with takenPorts := taken' }, output) := by
  cases event with
  | clock currentTic => cases h; exact ⟨taken, rfl⟩
  | message raw channel localTime =>
    refine ⟨taken, ?_⟩
    simp only [Server.step, Server.ofOutcome] at h ⊢
    split at h
    · cases h; rfl
    · split at h
      · next hexception =>
        cases h
        rw [if_pos hexception]
      · cases h
  | tic =>
    refine ⟨taken, ?_⟩
    rcases Server.step_tic h with ⟨hrunning, steps, game, hstep, rfl, rfl⟩ | ⟨hrest, rfl, rfl⟩
    · simp only [Server.step, Server.tic, hrunning, hstep]
      rfl
    · simp only [Server.step, Server.tic, hrest]
      rfl
  | call call =>
    obtain ⟨game, hcall, rfl⟩ := Server.step_call.mp h
    exact ⟨taken, Server.step_call.mpr ⟨game, hcall, rfl⟩⟩
  | agent command localTime =>
    obtain ⟨happly, rfl⟩ := Server.step_agent.mp h
    suffices ∃ taken', AgentProxy.apply env localTime { app with takenPorts := taken } command =
        .ok { app' with takenPorts := taken' } by
      obtain ⟨taken', happly'⟩ := this
      exact ⟨taken', Server.step_agent.mpr ⟨happly', rfl⟩⟩
    cases command with
    | stopApplication =>
      cases happly
      refine ⟨taken, ?_⟩
      unfold AgentProxy.apply Application.stop
      dsimp only
      split <;> rfl
    | addRobot name teamName => exact AgentProxy.addRobot_takenPorts taken happly
    | _ => cases happly; exact ⟨taken, rfl⟩

theorem Server.run_takenPorts {env : Externals} {app app' : Application} {events : List Event}
    {outputs : List Output} (taken : List UInt16)
    (h : Server.run env app events = .ok (app', outputs)) :
    ∃ taken', Server.run env { app with takenPorts := taken } events =
      .ok ({ app' with takenPorts := taken' }, outputs) := by
  obtain ⟨_, hrun, taken', rfl⟩ := Lib.run_lockstep
    (R := fun app app' : Application => ∃ taken, app' = { app with takenPorts := taken })
    (fun app event app' output _ ⟨taken, heq⟩ hstep => by
      subst heq
      obtain ⟨taken', hstep'⟩ := Server.step_takenPorts taken hstep
      exact ⟨_, hstep', taken', rfl⟩) ⟨taken, rfl⟩ h
  exact ⟨taken', hrun⟩

-- ---------------------------------------------------------------------------
-- The program
-- ---------------------------------------------------------------------------

section
variable {zmq : Zmq} {env : AgentExternals} {leftFirst : Bool} {param : Parameters}
  {localTime : Instant} {launched : Launched zmq}

theorem Application.run_ok (h : Application.run zmq leftFirst param localTime = .ok launched) :
    ∃ app interval, initServer leftFirst {} param = .ok app ∧ launched.server =
      Server.launch zmq { application := { app with state := .running } } interval localTime := by
  have hserver : runServer zmq leftFirst param localTime = .ok launched.server := by
    unfold Application.run at h
    split_ifs at h
    all_goals
      simp only [bind_eq_ok, pure_eq_ok] at h
      obtain ⟨server, hserver, rfl⟩ := h
      exact hserver
  unfold runServer at hserver
  simp only [bind_eq_ok, pure_eq_ok] at hserver
  obtain ⟨app, happ, interval, -, hserver⟩ := hserver
  exact ⟨app, _, happ, hserver.symm⟩

theorem Application.run_sound (h : Application.run zmq leftFirst param localTime = .ok launched) :
    launched.server.Sound env := by
  obtain ⟨app, interval, happ, hserver⟩ := Application.run_ok h
  obtain ⟨gameDuration, -, hbuilds, -⟩ := initServer_builds happ
  rw [hserver]
  exact ⟨(Safe.create env.toExternals _ param.ruleset).builds hbuilds, rfl⟩

theorem Builds.events (env : Externals) (h : Builds calls game game') (app : Application)
    (happ : app.game = game) :
    ∃ outputs, Server.run env app (calls.map .call) = .ok ({ app with game := game' }, outputs) ∧
      Lib.trace Event.seen (calls.map .call) outputs = [] := by
  obtain ⟨-, hrun⟩ := h
  refine ⟨calls.map fun _ => {}, ?_, ?_⟩
  · induction calls generalizing game app with
    | nil =>
      cases Lib.run_nil.mp hrun
      subst happ
      exact Lib.run_nil.mpr rfl
    | cons call calls ih =>
      obtain ⟨game₁, output, outputs, hcall, hrest, houtputs⟩ := Lib.run_cons.mp hrun
      obtain ⟨rfl, rfl⟩ := List.cons.inj houtputs
      subst happ
      have htail := ih { app with game := game₁ } rfl hrest
      exact Lib.run_cons.mpr ⟨_, _, _, Server.step_call.mpr ⟨game₁, hcall, rfl⟩, htail, rfl⟩
  · clear hrun
    induction calls with
    | nil => rfl
    | cons call calls ih => exact ih

end

/-- The program from its parameters on: the server machine, given an empty game of
the configured duration and the ports that `initServer` leaves, makes the calls of
`initServer` and what the loop receives, reads and does event by event. It comes
to the application of the loop, but for the ports that are taken, and handles and
sends what the loop receives and sends. -/
theorem launch_refines_machine (zmq : Zmq) (env : AgentExternals) (leftFirst : Bool)
    (param : Parameters) (localTime : Instant) (launched : Launched zmq)
    (hlaunch : Application.run zmq leftFirst param localTime = .ok launched)
    (inputs : List LoopInput) (server' : Server zmq) (opss : List (List SocketOp))
    (hrun : Lib.run (Server.advance env) launched.server inputs = .ok (server', opss)) :
    ∃ gameDuration taken outputs,
      param.commandLineParameters.gameDuration = some gameDuration ∧
      Server.run env.toExternals
          (Server.create param.portsLeft (seconds gameDuration.toUInt32) param.ruleset)
          ((param.calls leftFirst).map .call ++
            along (Server.advance env) (Server.events env) launched.server inputs) =
        .ok ({ server'.agentProxy.application with takenPorts := taken }, outputs) ∧
      Lib.trace Event.seen ((param.calls leftFirst).map .call ++
          along (Server.advance env) (Server.events env) launched.server inputs) outputs =
        opss.flatten.filterMap SocketOp.seen := by
  obtain ⟨app₀, interval, happ, hserver⟩ := Application.run_ok hlaunch
  obtain ⟨gameDuration, hduration, hbuilds, hports⟩ := initServer_builds happ
  obtain ⟨outputs, hbuilt, hnothing⟩ := hbuilds.events env.toExternals
    (Server.create param.portsLeft (seconds gameDuration.toUInt32) param.ruleset) rfl
  obtain ⟨outputs', hrun', hseen⟩ := Server.run_events hrun
  obtain ⟨taken, hrun''⟩ := Server.run_takenPorts [] hrun'
  refine ⟨gameDuration, taken, outputs ++ outputs', hduration,
    Lib.run_append.mpr ⟨_, outputs, outputs', hbuilt, ?_, rfl⟩, ?_⟩
  · rw [← hrun'', hserver]
    simp only [Server.launch, hports]
    rfl
  · rw [Lib.trace_append hbuilt, hnothing, hseen, List.nil_append]

def addTeamThenTurns : List LoopInput :=
  [.arrives .agentSocket 0 "add team A".toList, .turn 1, .turn 2]

theorem launch_refines_machine_addTeam :
    ∃ launched server' opss, Application.run .fifo true (twoColours 2 3) 0 = .ok launched ∧
      Lib.run (Server.advance .plain) launched.server addTeamThenTurns = .ok (server', opss) ∧
      ∃ gameDuration taken outputs,
        (twoColours 2 3).commandLineParameters.gameDuration = some gameDuration ∧
        Server.run .plain (Server.create [] (seconds gameDuration.toUInt32) oneTeam)
            (((twoColours 2 3).calls true).map .call ++ [.agent (.addTeam "A".toList) 2]) =
          .ok ({ server'.agentProxy.application with takenPorts := taken }, outputs) := by
  obtain ⟨gameDuration, taken, outputs, hduration, hrun, -⟩ := launch_refines_machine .fifo .plain
    true (twoColours 2 3) 0 _ rfl addTeamThenTurns _ _ rfl
  exact ⟨_, _, _, rfl, rfl, gameDuration, taken, outputs, hduration, hrun⟩

/-- Whatever parameters the server is made of: as long as what is next at its
sockets is harmless whenever the loop takes a turn, the loop goes on, stopped by
no exception and reading nothing that is gone. -/
theorem launched_loop_survives (zmq : Zmq) (env : AgentExternals) (hdoc : DumpDocumented env)
    (leftFirst : Bool) (param : Parameters) (localTime : Instant) (launched : Launched zmq)
    (hlaunch : Application.run zmq leftFirst param localTime = .ok launched)
    (inputs : List LoopInput) (hharmless : Lib.AllSteps (Server.advance env) launched.server inputs
      (Server.ReceivesHarmless env)) :
    ∃ server' opss, Lib.run (Server.advance env) launched.server inputs = .ok (server', opss) :=
  (Application.run_sound hlaunch).run hdoc hharmless

theorem launched_loop_survives_addTeam :
    ∃ launched, Application.run .fifo true (twoColours 2 3) 0 = .ok launched ∧
      ∃ server' opss,
        Lib.run (Server.advance .plain) launched.server addTeamThenTurns =
          .ok (server', opss) := by
  refine ⟨_, rfl, launched_loop_survives .fifo .plain AgentExternals.plain_documented true
    (twoColours 2 3) 0 _ rfl addTeamThenTurns ?_⟩
  have hcommand : ∀ game, AgentProxy.HarmlessText .plain game "add team A".toList := fun game =>
    ⟨fun h => absurd h (by decide), fun h => absurd h (by decide), fun _ h => by cases h; trivial⟩
  rw [addTeamThenTurns, Lib.allSteps_cons]
  refine ⟨trivial, fun server₁ ops₁ harrives => ?_⟩
  cases harrives
  rw [Lib.allSteps_cons]
  refine ⟨⟨fun text received htext => ?_, fun channel text received htext => ?_⟩,
    fun server₂ ops₂ hstarts => ?_⟩
  · cases htext
    exact hcommand _
  · cases channel <;> cases htext
  · cases hstarts
    rw [Lib.allSteps_cons]
    refine ⟨⟨fun text received htext => ?_, fun channel text received htext => ?_⟩,
      fun _ _ _ => ?_⟩
    · cases htext
      exact hcommand _
    · cases channel <;> cases htext
    · rintro pre input post server os heq -
      cases pre <;> cases heq

end ServerGame
