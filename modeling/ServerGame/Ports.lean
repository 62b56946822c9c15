import ServerGame.Lib.Pool
import ServerGame.Instantiation
import ServerGame.Roster

/-!
# The video ports

`Application::popPort` hands the configured ports out, two for each robot that
is configured and two for each `add robot` of an agent, whether or not the robot
is added.
-/

namespace ServerGame

open Lib (Pool bind_eq_ok pure_eq_ok)

variable {app app' : Application} {configured : List UInt16}

-- ---------------------------------------------------------------------------
-- popPort
-- ---------------------------------------------------------------------------

def Application.pool (app : Application) : Pool UInt16 where
  free := app.availablePorts
  taken := app.takenPorts

theorem popPort_cases (app : Application) :
    (app.availablePorts = [] ∧ app.popPort = (0, app)) ∨
      ∃ port free,
        app.pool.take = some (port, { free, taken := app.takenPorts ++ [port] }) ∧
        app.availablePorts = free ++ [port] ∧
        app.popPort = (port, { app with
          availablePorts := free, takenPorts := app.takenPorts ++ [port] }) := by
  cases htake : app.pool.take with
  | none =>
    have hempty : app.availablePorts = [] := Pool.take_eq_none.mp htake
    exact .inl ⟨hempty, by simp [Application.popPort, hempty]⟩
  | some taken =>
    obtain ⟨port, free, taken⟩ := taken
    obtain ⟨hfree, htaken⟩ := Pool.take_eq_some.mp htake
    have hlast : app.availablePorts = free ++ [port] := hfree
    have htaken : taken = app.takenPorts ++ [port] := htaken
    subst htaken
    exact .inr ⟨port, free, rfl, hlast, by simp [Application.popPort, hlast]⟩

structure Pops (configured : List UInt16) (app : Application) (port : UInt16) (app' : Application) :
    Prop where
  game : app'.game = app.game
  holds : app'.pool.Holds configured
  grows : ∀ p ∈ app.takenPorts, p ∈ app'.takenPorts
  fresh : port ≠ 0 → port ∉ app.takenPorts ∧ port ∈ app'.takenPorts

theorem Pops.popPort (h : app.pool.Holds configured) (hconfigured : configured.Nodup) :
    Pops configured app app.popPort.1 app.popPort.2 := by
  obtain ⟨-, hpop⟩ | ⟨port, free, htake, -, hpop⟩ := popPort_cases app
  · rw [hpop]
    exact ⟨rfl, h, fun _ hp => hp, fun hzero => absurd rfl hzero⟩
  · rw [hpop]
    refine ⟨rfl, h.take htake, fun p hp => ?_, fun _ => ⟨h.notMem_taken hconfigured htake, ?_⟩⟩
    · simp [hp]
    · simp

theorem popPort_configured {n : Nat} (h : app.pool.Holds configured)
    (hlength : app.availablePorts.length = n + 1) :
    app.popPort.1 ∈ configured ∧ app.popPort.2.availablePorts.length = n := by
  obtain ⟨hempty, -⟩ | ⟨port, free, htake, hfree, hpop⟩ := popPort_cases app
  · rw [hempty] at hlength
    cases hlength
  · rw [hpop]
    refine ⟨h.mem_of_take htake, ?_⟩
    simpa [hfree] using hlength

theorem popPort_taken (h : app.pool.Holds configured) (hzero : 0 ∉ configured) :
    app.popPort.2.takenPorts = app.takenPorts ++ [app.popPort.1].filter (· ≠ 0) := by
  obtain ⟨-, hpop⟩ | ⟨port, free, htake, -, hpop⟩ := popPort_cases app
  · simp [hpop]
  · have hne : port ≠ 0 := fun hport => hzero (hport ▸ h.mem_of_take htake)
    rw [hpop, List.filter_cons_of_pos (by simpa using hne)]
    rfl

theorem popTwoPorts_left (leftFirst : Bool) :
    (app.popTwoPorts leftFirst).2.2 = app.popPort.2.popPort.2 := by
  unfold Application.popTwoPorts
  cases leftFirst <;> rfl

theorem popPort_availablePorts : app.popPort.2.availablePorts = app.availablePorts.dropLast := by
  obtain ⟨hempty, hpop⟩ | ⟨port, free, -, hfree, hpop⟩ := popPort_cases app
  · rw [hpop, hempty, List.dropLast_nil]
  · rw [hpop, hfree, List.dropLast_concat]

-- ---------------------------------------------------------------------------
-- The ports of the robots
-- ---------------------------------------------------------------------------

def Robot.ports (robot : Robot) : List UInt16 :=
  [robot.videoRetransmissionPort, robot.serverCommandPort]

/-- No two robots share a port, and no robot has one twice, 0 apart. -/
structure PortsApart (game : Game) : Prop where
  own : ∀ (name : Str) r, game.robots[name]? = some r →
    (game.robot r).videoRetransmissionPort = (game.robot r).serverCommandPort →
    (game.robot r).videoRetransmissionPort = 0
  shared : ∀ (name name' : Str) r r', game.robots[name]? = some r → game.robots[name']? = some r' →
    name ≠ name' → ∀ port ∈ (game.robot r).ports, port ∈ (game.robot r').ports → port = 0

structure PortsHeld (configured : List UInt16) (app : Application) : Prop where
  holds : app.pool.Holds configured
  allocated : ∀ (name : Str) r, app.game.robots[name]? = some r → app.game.robotHeap.Allocated r
  taken : ∀ (name : Str) r, app.game.robots[name]? = some r →
    ∀ port ∈ (app.game.robot r).ports, port ≠ 0 → port ∈ app.takenPorts
  apart : PortsApart app.game

structure TwoPops (configured : List UInt16) (app : Application) (port commandPort : UInt16)
    (app' : Application) : Prop where
  game : app'.game = app.game
  holds : app'.pool.Holds configured
  grows : ∀ p ∈ app.takenPorts, p ∈ app'.takenPorts
  fresh : ∀ p ∈ [port, commandPort], p ≠ 0 → p ∉ app.takenPorts ∧ p ∈ app'.takenPorts
  apart : port = commandPort → port = 0

theorem TwoPops.popTwoPorts (h : app.pool.Holds configured) (hconfigured : configured.Nodup)
    (leftFirst : Bool) :
    TwoPops configured app (app.popTwoPorts leftFirst).1 (app.popTwoPorts leftFirst).2.1
      (app.popTwoPorts leftFirst).2.2 := by
  have hfirst := Pops.popPort h hconfigured
  have hsecond := Pops.popPort hfirst.holds hconfigured
  have hfresh₁ : app.popPort.1 ≠ 0 →
      app.popPort.1 ∉ app.takenPorts ∧ app.popPort.1 ∈ app.popPort.2.popPort.2.takenPorts := by
    intro hne
    obtain ⟨hnew, htaken⟩ := hfirst.fresh hne
    exact ⟨hnew, hsecond.grows _ htaken⟩
  have hfresh₂ : app.popPort.2.popPort.1 ≠ 0 → app.popPort.2.popPort.1 ∉ app.takenPorts ∧
      app.popPort.2.popPort.1 ∈ app.popPort.2.popPort.2.takenPorts := by
    intro hne
    obtain ⟨hnew, htaken⟩ := hsecond.fresh hne
    exact ⟨fun hold => hnew (hfirst.grows _ hold), htaken⟩
  have hapart : app.popPort.1 = app.popPort.2.popPort.1 → app.popPort.1 = 0 := by
    intro hsame
    by_contra hne
    exact (hsecond.fresh (hsame ▸ hne)).1 (hsame ▸ (hfirst.fresh hne).2)
  unfold Application.popTwoPorts
  cases leftFirst with
  | true =>
    refine ⟨hsecond.game.trans hfirst.game, hsecond.holds,
      fun p hp => hsecond.grows p (hfirst.grows p hp), fun p hp hne => ?_, hapart⟩
    rcases List.mem_pair.mp hp with rfl | rfl
    · exact hfresh₁ hne
    · exact hfresh₂ hne
  | false =>
    refine ⟨hsecond.game.trans hfirst.game, hsecond.holds,
      fun p hp => hsecond.grows p (hfirst.grows p hp), fun p hp hne => ?_,
      fun hsame => hsame.trans (hapart hsame.symm)⟩
    rcases List.mem_pair.mp hp with rfl | rfl
    · exact hfresh₂ hne
    · exact hfresh₁ hne

-- ---------------------------------------------------------------------------
-- A robot more
-- ---------------------------------------------------------------------------

theorem insertRobot_entry {game : Game} {name robotId : Str} {team : TeamRef}
    {port commandPort : UInt16} (hname : name ∉ game.robots)
    (hallocated : ∀ (name : Str) r, game.robots[name]? = some r → game.robotHeap.Allocated r)
    {key : Str} {r : RobotRef}
    (hr : (game.insertRobot name team port commandPort robotId).robots[key]? = some r) :
    (key = name ∧
        ((game.insertRobot name team port commandPort robotId).robot r).ports =
          [port, commandPort]) ∨
      key ≠ name ∧ game.robots[key]? = some r ∧
        (game.insertRobot name team port commandPort robotId).robot r = game.robot r := by
  rcases Std.ExtTreeMap.getElem?_insertIfNew_eq_some.mp hr with ⟨rfl, -, rfl⟩ | hold
  · exact .inl ⟨rfl, by rw [Game.insertRobot_robot_fresh]; rfl⟩
  · refine .inr ⟨?_, hold, Game.insertRobot_robot_of_ne (hallocated key r hold).ne_fresh⟩
    rintro rfl
    exact hname (Std.ExtTreeMap.mem_iff_isSome_getElem?.mpr (by simp [hold]))

theorem PortsHeld.same (h : PortsHeld configured app) (hholds : app'.pool.Holds configured)
    (hgrows : ∀ p ∈ app.takenPorts, p ∈ app'.takenPorts) (hgame : app'.game = app.game) :
    PortsHeld configured app' where
  holds := hholds
  allocated := by rw [hgame]; exact h.allocated
  taken name r hr port hport hne := by
    rw [hgame] at hr hport
    exact hgrows _ (h.taken name r hr port hport hne)
  apart := by rw [hgame]; exact h.apart

theorem PortsHeld.insertRobot {popped : Application} {port commandPort : UInt16}
    (h : PortsHeld configured app) (hpops : TwoPops configured app port commandPort popped)
    {name : Str} (hname : name ∉ app.game.robots) (team : TeamRef) (robotId : Str) :
    PortsHeld configured
      { popped with game := app.game.insertRobot name team port commandPort robotId } where
  holds := hpops.holds
  allocated key r hr := by
    rcases Std.ExtTreeMap.getElem?_insertIfNew_eq_some.mp hr with ⟨-, -, rfl⟩ | hold
    · exact Lib.Heap.allocated_fresh _ _
    · exact (h.allocated key r hold).alloc _
  taken key r hr p hp hne := by
    rcases insertRobot_entry hname h.allocated hr with ⟨-, hports⟩ | ⟨-, hold, hsame⟩
    · rw [hports] at hp
      exact (hpops.fresh p hp hne).2
    · rw [hsame] at hp
      exact hpops.grows p (h.taken key r hold p hp hne)
  apart := by
    constructor
    · intro key r hr hown
      rcases insertRobot_entry hname h.allocated hr with ⟨-, hports⟩ | ⟨-, hold, hsame⟩
      · obtain ⟨hport, hcommand⟩ : _ = port ∧ _ = commandPort := by simpa [Robot.ports] using hports
        rw [hport, hcommand] at hown
        rw [hport, hpops.apart hown]
      · rw [hsame] at hown ⊢
        exact h.apart.own key r hold hown
    · intro key key' r r' hr hr' hkeys p hp hp'
      by_contra hne
      rcases insertRobot_entry hname h.allocated hr with ⟨rfl, hports⟩ | ⟨-, hold, hsame⟩ <;>
        rcases insertRobot_entry hname h.allocated hr' with ⟨rfl, hports'⟩ | ⟨-, hold', hsame'⟩
      · exact hkeys rfl
      · rw [hports] at hp
        rw [hsame'] at hp'
        exact (hpops.fresh p hp hne).1 (h.taken key' r' hold' p hp' hne)
      · rw [hsame] at hp
        rw [hports'] at hp'
        exact (hpops.fresh p hp' hne).1 (h.taken key r hold p hp hne)
      · rw [hsame] at hp
        rw [hsame'] at hp'
        exact hne (h.apart.shared key key' r r' hold hold' hkeys p hp hp')

theorem addConfiguredRobot_eq_ok {leftFirst : Bool} {entry : Str × Parameters.Robot} :
    app.addConfiguredRobot leftFirst entry = .ok app' ↔
      ∃ added game, app.game.addRobot entry.2.name entry.2.team (app.popTwoPorts leftFirst).1
          (app.popTwoPorts leftFirst).2.1 entry.1 = .ok (added, game) ∧
        app' = { (app.popTwoPorts leftFirst).2.2 with game } := by
  simp only [Application.addConfiguredRobot, Application.popTwoPorts_game, bind_eq_ok, pure_eq_ok,
    Prod.exists, @eq_comm _ app']

theorem PortsHeld.addConfiguredRobot {leftFirst : Bool} {entry : Str × Parameters.Robot}
    (h : PortsHeld configured app) (hconfigured : configured.Nodup)
    (hadd : app.addConfiguredRobot leftFirst entry = .ok app') : PortsHeld configured app' := by
  have hpops := TwoPops.popTwoPorts h.holds hconfigured leftFirst
  obtain ⟨added, game, hgame, rfl⟩ := addConfiguredRobot_eq_ok.mp hadd
  rcases Game.addRobot_ok hgame with ⟨-, rfl⟩ | ⟨id, t, -, hname, -, -, rfl⟩
  · exact h.same hpops.holds hpops.grows rfl
  · exact h.insertRobot hpops hname t id

theorem addRobot_eq (leftFirst : Bool) (robotName teamName : Str) (app : Application) :
    AgentProxy.addRobot leftFirst robotName teamName app =
      app.addConfiguredRobot leftFirst ([], { name := robotName, team := teamName }) := rfl

-- ---------------------------------------------------------------------------
-- initServer
-- ---------------------------------------------------------------------------

def EachConfigured (configured : List UInt16) (game : Game) : Prop :=
  ∀ (name : Str) r, game.robots[name]? = some r → ∀ port ∈ (game.robot r).ports, port ∈ configured

theorem popTwoPorts_configured {n : Nat} (h : app.pool.Holds configured)
    (hconfigured : configured.Nodup) (hlength : app.availablePorts.length = n + 2)
    (leftFirst : Bool) :
    (∀ p ∈ [(app.popTwoPorts leftFirst).1, (app.popTwoPorts leftFirst).2.1], p ∈ configured) ∧
      (app.popTwoPorts leftFirst).2.2.availablePorts.length = n := by
  obtain ⟨hfirst, hlength₁⟩ := popPort_configured h hlength
  obtain ⟨hsecond, hlength₂⟩ :=
    popPort_configured (Pops.popPort h hconfigured).holds hlength₁
  unfold Application.popTwoPorts
  cases leftFirst with
  | true =>
    refine ⟨fun p hp => ?_, hlength₂⟩
    rcases List.mem_pair.mp hp with rfl | rfl
    · exact hfirst
    · exact hsecond
  | false =>
    refine ⟨fun p hp => ?_, hlength₂⟩
    rcases List.mem_pair.mp hp with rfl | rfl
    · exact hsecond
    · exact hfirst

theorem EachConfigured.addConfiguredRobot {leftFirst : Bool} {entry : Str × Parameters.Robot}
    {n : Nat} (heach : EachConfigured configured app.game) (h : PortsHeld configured app)
    (hconfigured : configured.Nodup) (hlength : app.availablePorts.length = n + 2)
    (hadd : app.addConfiguredRobot leftFirst entry = .ok app') :
    EachConfigured configured app'.game ∧ app'.availablePorts.length = n := by
  obtain ⟨hports, hlength'⟩ := popTwoPorts_configured h.holds hconfigured hlength leftFirst
  obtain ⟨added, game, hgame, rfl⟩ := addConfiguredRobot_eq_ok.mp hadd
  refine ⟨?_, hlength'⟩
  rcases Game.addRobot_ok hgame with ⟨-, rfl⟩ | ⟨id, t, -, hname, -, -, rfl⟩
  · exact heach
  · intro key r hr port hport
    rcases insertRobot_entry hname h.allocated hr with ⟨-, hnew⟩ | ⟨-, hold, hsame⟩
    · rw [hnew] at hport
      exact hports port hport
    · rw [hsame] at hport
      exact heach key r hold port hport

theorem addConfiguredRobots_ports {leftFirst : Bool} {entries : List (Str × Parameters.Robot)}
    (h : PortsHeld configured app) (heach : EachConfigured configured app.game)
    (hconfigured : configured.Nodup) (hlength : 2 * entries.length ≤ app.availablePorts.length)
    (hfold : entries.foldlM (Application.addConfiguredRobot leftFirst) app = .ok app') :
    PortsHeld configured app' ∧ EachConfigured configured app'.game ∧
      app'.availablePorts.length = app.availablePorts.length - 2 * entries.length := by
  induction entries generalizing app with
  | nil =>
    simp only [List.foldlM_nil, pure_eq_ok] at hfold
    subst hfold
    exact ⟨h, heach, rfl⟩
  | cons entry entries ih =>
    simp only [List.foldlM_cons, bind_eq_ok] at hfold
    obtain ⟨app₁, hadd, hrest⟩ := hfold
    rw [List.length_cons] at hlength
    obtain ⟨n, hn⟩ : ∃ n, app.availablePorts.length = n + 2 :=
      ⟨app.availablePorts.length - 2, by omega⟩
    obtain ⟨heach₁, hlength₁⟩ := heach.addConfiguredRobot h hconfigured hn hadd
    obtain ⟨hheld, heach', hlength'⟩ :=
      ih (h.addConfiguredRobot hconfigured hadd) heach₁ (by omega) hrest
    refine ⟨hheld, heach', ?_⟩
    rw [List.length_cons]
    omega

theorem PortsHeld.start (hrobots : app.game.robots = ∅) (hfree : app.availablePorts = configured)
    (htaken : app.takenPorts = []) :
    PortsHeld configured app ∧ EachConfigured configured app.game := by
  have hempty : ∀ (name : Str) r, ¬app.game.robots[name]? = some r := by simp [hrobots]
  refine ⟨⟨?_, ?_, ?_, ?_, ?_⟩, fun name r hr => absurd hr (hempty name r)⟩
  · simp [Pool.Holds, Application.pool, hfree, htaken]
  · exact fun name r hr => absurd hr (hempty name r)
  · exact fun name r hr => absurd hr (hempty name r)
  · exact fun name r hr => absurd hr (hempty name r)
  · exact fun name _ r _ hr => absurd hr (hempty name r)

theorem checkParametersConsistency_ports {param : Parameters}
    (h : checkParametersConsistency param = .ok true) :
    2 * param.robots.size ≤ param.videoPorts.length := by
  unfold checkParametersConsistency at h
  simp only [bind_eq_ok] at h
  obtain ⟨_, -, _, -, _, -, _, -, _, -, h⟩ := h
  split at h
  · cases h
  · split at h
    · cases h
    · split at h
      · cases h
      · next hlength => exact Nat.le_of_not_lt hlength

theorem initServer_ports {leftFirst : Bool} {items : ItemRegistry} {param : Parameters}
    (hcheck : checkParametersConsistency param = .ok true) (hconfigured : param.videoPorts.Nodup)
    (hinit : initServer leftFirst items param = .ok app) :
    PortsHeld param.videoPorts app ∧ EachConfigured param.videoPorts app.game ∧
      app.availablePorts.length = param.videoPorts.length - 2 * param.robots.size := by
  unfold initServer at hinit
  simp only [bind_eq_ok, pure_eq_ok] at hinit
  obtain ⟨_, -, _, -, _, -, _, -, _, -, gameDuration, -, app₁, hrobots, items', -, rfl⟩ := hinit
  have hnone := (addTeams_frame param.teams.toList
    { Game.create (seconds gameDuration.toUInt32) param.ruleset with items }).2
  obtain ⟨hheld, heach⟩ :=
    @PortsHeld.start { game := _, availablePorts := param.videoPorts, state := .created } _
      hnone rfl rfl
  obtain ⟨hheld', heach', hlength⟩ := addConfiguredRobots_ports hheld heach hconfigured
    (by simpa using checkParametersConsistency_ports hcheck) hrobots
  refine ⟨⟨hheld'.holds, hheld'.allocated, hheld'.taken, hheld'.apart.own, hheld'.apart.shared⟩,
    heach', ?_⟩
  simpa using hlength

-- ---------------------------------------------------------------------------
-- Robots added by an agent
-- ---------------------------------------------------------------------------

def Event.AddsRobot (event : Event) : Prop :=
  ∃ robotName teamName localTime, event = .agent (.addRobot robotName teamName) localTime

theorem step_addRobot {env : Externals} {robotName teamName : Str} {localTime : Instant}
    {output : Output} :
    Server.step env app (.agent (.addRobot robotName teamName) localTime) = .ok (app', output) ↔
      app.addConfiguredRobot env.leftFirst ([], { name := robotName, team := teamName }) =
          .ok app' ∧ output = {} := by
  rw [Server.step_agent, AgentProxy.apply, addRobot_eq]

/-- What the pops of a list of `add robot` commands return, two for each. -/
def popsOf (env : Externals) (app : Application) : List Event → List UInt16
  | [] => []
  | event :: events =>
    [app.popPort.1, app.popPort.2.popPort.1] ++
      (Server.step env app event).toOption.elim [] fun stepped => popsOf env stepped.1 events

theorem takenPorts_popsOf_nodup {env : Externals} {events : List Event}
    (h : app.pool.Holds configured) (hconfigured : configured.Nodup) (hzero : 0 ∉ configured)
    (hadds : ∀ event ∈ events, event.AddsRobot) :
    (app.takenPorts ++ (popsOf env app events).filter (· ≠ 0)).Nodup := by
  induction events generalizing app with
  | nil =>
    rw [popsOf, List.filter_nil, List.append_nil]
    exact h.nodup_taken hconfigured
  | cons event events ih =>
    have hholds₁ := (Pops.popPort h hconfigured).holds
    have hholds₂ := (Pops.popPort hholds₁ hconfigured).holds
    have htaken : app.takenPorts ++ [app.popPort.1, app.popPort.2.popPort.1].filter (· ≠ 0) =
        app.popPort.2.popPort.2.takenPorts := by
      rw [popPort_taken hholds₁ hzero, popPort_taken h hzero, List.append_assoc,
        ← List.filter_append, List.singleton_append]
    rw [popsOf, List.filter_append, ← List.append_assoc, htaken]
    obtain ⟨robotName, teamName, localTime, rfl⟩ := hadds event (by simp)
    cases hstep : Server.step env app (.agent (.addRobot robotName teamName) localTime) with
    | error fault =>
      rw [Except.toOption, Option.elim_none, List.filter_nil, List.append_nil]
      exact hholds₂.nodup_taken hconfigured
    | ok stepped =>
      obtain ⟨app', output⟩ := stepped
      obtain ⟨added, game, -, rfl⟩ := addConfiguredRobot_eq_ok.mp (step_addRobot.mp hstep).1
      rw [popTwoPorts_left]
      exact @ih { app.popPort.2.popPort.2 with game } hholds₂ fun event hevent =>
        hadds event (List.mem_cons_of_mem _ hevent)

theorem PortsHeld.events {env : Externals} {events : List Event} (h : PortsHeld configured app)
    (hconfigured : configured.Nodup) (hadds : ∀ event ∈ events, event.AddsRobot) :
    Lib.AllStates (Server.step env) app events (PortsHeld configured) := by
  intro pre post app' outputs hevents hrun
  refine Lib.run_invariant (PortsHeld configured) ?_ h hrun
  intro app₁ event app₂ output hevent h₁ hstep
  obtain ⟨robotName, teamName, localTime, rfl⟩ := hadds event (by simp [hevents, hevent])
  exact h₁.addConfiguredRobot hconfigured (step_addRobot.mp hstep).1

/-- No port is handed out twice, neither to the robots of the configuration nor
to those that agents add, and there are enough for the former. -/
theorem videoPorts_handed_out_once {leftFirst : Bool} {items : ItemRegistry} {param : Parameters}
    (hcheck : checkParametersConsistency param = .ok true) (hconfigured : param.videoPorts.Nodup)
    (hzero : 0 ∉ param.videoPorts) (hinit : initServer leftFirst items param = .ok app) :
    (∀ (name : Str) r, app.game.robots[name]? = some r →
        (app.game.robot r).videoRetransmissionPort ∈ param.videoPorts ∧
        (app.game.robot r).serverCommandPort ∈ param.videoPorts ∧
        (app.game.robot r).videoRetransmissionPort ≠ (app.game.robot r).serverCommandPort) ∧
      app.takenPorts.length = 2 * param.robots.size ∧
      ∀ env events, (∀ event ∈ events, Event.AddsRobot event) →
        Lib.AllStates (Server.step env) app events (fun app =>
          (app.availablePorts ++ app.takenPorts).Perm param.videoPorts ∧ PortsApart app.game) ∧
        (app.takenPorts ++ (popsOf env app events).filter (· ≠ 0)).Nodup := by
  obtain ⟨hheld, heach, hlength⟩ := initServer_ports hcheck hconfigured hinit
  refine ⟨fun name r hr => ?_, ?_, fun env events hadds => ⟨?_, ?_⟩⟩
  · have hvideo :=
      heach name r hr (app.game.robot r).videoRetransmissionPort (by simp [Robot.ports])
    have hcommand := heach name r hr (app.game.robot r).serverCommandPort (by simp [Robot.ports])
    exact ⟨hvideo, hcommand, fun hsame => hzero (hheld.apart.own name r hr hsame ▸ hvideo)⟩
  · have hall := hheld.holds.length_eq
    have henough := checkParametersConsistency_ports hcheck
    simp only [Application.pool, List.length_append] at hall
    omega
  · intro pre post app' outputs hevents hrun
    have h := hheld.events hconfigured hadds pre post app' outputs hevents hrun
    exact ⟨h.holds, h.apart⟩
  · exact takenPorts_popsOf_nodup hheld.holds hconfigured hzero hadds

def fourPorts : Parameters where
  commandLineParameters := givenPorts
  videoPorts := [4, 3, 2, 1]
  robots := (∅ : Lib.Map Str Parameters.Robot).insert "robot_0".toList
    { name := "r1".toList, team := "A".toList }
  teams := (∅ : Std.ExtTreeSet Str compare).insert "A".toList
  ruleset := oneTeam

/-- The robot of the configuration and the one added later leave no port. -/
theorem videoPorts_handed_out_once_fourPorts :
    ∃ app, initServer true {} fourPorts = .ok app ∧ app.availablePorts = [4, 3] ∧
      (app.takenPorts ++ (popsOf .plain app [.agent (.addRobot "r2".toList "A".toList) 0]).filter
        (· ≠ 0)).Nodup := by
  refine ⟨_, rfl, rfl, ?_⟩
  obtain ⟨-, -, hlater⟩ :=
    @videoPorts_handed_out_once _ true {} fourPorts rfl (by decide) (by decide) rfl
  exact (hlater .plain _ (by simp [Event.AddsRobot])).2

-- ---------------------------------------------------------------------------
-- Robots that are refused
-- ---------------------------------------------------------------------------

def Event.RefusesRobot (env : Externals) (app : Application) (event : Event) : Prop :=
  ∃ robotName teamName localTime game,
    event = .agent (.addRobot robotName teamName) localTime ∧
    app.game.addRobot robotName teamName (app.popTwoPorts env.leftFirst).1
      (app.popTwoPorts env.leftFirst).2.1 [] = .ok (false, game)

/-- The event does nothing to the game nor to the ports that are left. -/
def Event.LeavesAsItWas (env : Externals) (app : Application) (event : Event) : Prop :=
  ∃ app' output, Server.step env app event = .ok (app', output) ∧
    app'.game = app.game ∧ app'.availablePorts = app.availablePorts

theorem Event.RefusesRobot.step {env : Externals} {event : Event}
    (h : event.RefusesRobot env app) :
    Server.step env app event =
      .ok ({ app.popPort.2.popPort.2 with game := app.game }, {}) := by
  obtain ⟨robotName, teamName, localTime, game, rfl, hrefused⟩ := h
  obtain ⟨-, rfl⟩ | ⟨_, _, hadded, -⟩ := Game.addRobot_ok hrefused
  · rw [← popTwoPorts_left env.leftFirst]
    exact step_addRobot.mpr ⟨addConfiguredRobot_eq_ok.mpr ⟨false, _, hrefused, rfl⟩, rfl⟩
  · cases hadded

theorem Event.RefusesRobot.leavesAsItWas_iff {env : Externals} {event : Event}
    (h : event.RefusesRobot env app) : event.LeavesAsItWas env app ↔ app.availablePorts = [] := by
  have hports : app.popPort.2.popPort.2.availablePorts = app.availablePorts.dropLast.dropLast := by
    rw [popPort_availablePorts, popPort_availablePorts]
  unfold Event.LeavesAsItWas
  simp only [h.step, Except.ok.injEq, Prod.mk.injEq]
  constructor
  · rintro ⟨app', output, ⟨rfl, -⟩, -, hsame⟩
    have hlength := congrArg List.length (hports.symm.trans hsame)
    rw [List.length_dropLast, List.length_dropLast] at hlength
    exact List.length_eq_zero_iff.mp (by omega)
  · intro hempty
    refine ⟨_, _, ⟨rfl, rfl⟩, rfl, ?_⟩
    rw [hports, hempty]
    rfl

theorem refused_run {env : Externals} {events : List Event} {outputs : List Output}
    (hrefused : Lib.AllSteps (Server.step env) app events
      fun app event => event.RefusesRobot env app)
    (hrun : Server.run env app events = .ok (app', outputs)) :
    app'.game = app.game ∧
      app'.availablePorts.length = app.availablePorts.length - 2 * events.length := by
  induction events generalizing app outputs with
  | nil =>
    cases Lib.run_nil.mp hrun
    exact ⟨rfl, rfl⟩
  | cons event events ih =>
    obtain ⟨hevent, hevents⟩ := Lib.allSteps_cons.mp hrefused
    obtain ⟨app₁, output, outputs', hstep, hrest, -⟩ := Lib.run_cons.mp hrun
    obtain ⟨hgame, hlength⟩ := ih (hevents app₁ output hstep) hrest
    have hfirst := hevent.step.symm.trans hstep
    simp only [Except.ok.injEq, Prod.mk.injEq] at hfirst
    obtain ⟨rfl, -⟩ := hfirst
    refine ⟨hgame, ?_⟩
    have hports : app.popPort.2.popPort.2.availablePorts.length =
        app.availablePorts.length - 2 := by
      simp [popPort_availablePorts, Nat.sub_sub]
    have hlength : app'.availablePorts.length =
        app.popPort.2.popPort.2.availablePorts.length - 2 * events.length := hlength
    rw [List.length_cons]
    omega

/-- A robot that is refused costs the ports popped for it, as long as there are
any: then one such command after the other uses them up. -/
theorem refused_robot_unchanged_iff (env : Externals) :
    (∀ app event, Event.RefusesRobot env app event →
      (event.LeavesAsItWas env app ↔ app.availablePorts = [])) ∧
    (∀ app events,
      Lib.AllSteps (Server.step env) app events (fun app event =>
        event.RefusesRobot env app → event.LeavesAsItWas env app) ↔
      Lib.AllSteps (Server.step env) app events (fun app event =>
        event.RefusesRobot env app → app.availablePorts = [])) ∧
    ∀ app events app' outputs,
      Lib.AllSteps (Server.step env) app events (fun app event => event.RefusesRobot env app) →
      Server.run env app events = .ok (app', outputs) →
      app'.game = app.game ∧
        (app'.availablePorts = app.availablePorts ↔ events = [] ∨ app.availablePorts = []) := by
  refine ⟨fun app event h => h.leavesAsItWas_iff, fun app events => ?_,
    fun app events app' outputs hrefused hrun => ?_⟩
  · constructor
    · intro h pre event post app' outputs heq hrun hevent
      exact hevent.leavesAsItWas_iff.mp (h pre event post app' outputs heq hrun hevent)
    · intro h pre event post app' outputs heq hrun hevent
      exact hevent.leavesAsItWas_iff.mpr (h pre event post app' outputs heq hrun hevent)
  · obtain ⟨hgame, hlength⟩ := refused_run hrefused hrun
    refine ⟨hgame, fun hsame => ?_, ?_⟩
    · rw [hsame] at hlength
      rw [← List.length_eq_zero_iff, ← @List.length_eq_zero_iff _ app.availablePorts]
      omega
    · rintro (rfl | hempty)
      · cases Lib.run_nil.mp hrun
        rfl
      · rw [hempty, List.length_nil, Nat.zero_sub] at hlength
        rw [hempty, List.length_eq_zero_iff.mp hlength]

theorem refused_robot_unchanged_iff_spent :
    (Event.agent (.addRobot "r1".toList "A".toList) 0).LeavesAsItWas .plain
      { game := Game.create 0 oneTeam } :=
  ((refused_robot_unchanged_iff .plain).1 _ _ ⟨_, _, _, _, rfl, rfl⟩).mpr rfl

/-- A second robot of the same name is refused, and the next one has no port. -/
theorem refused_robot_takes_ports :
    ∃ app app', Server.Reachable .plain app ∧
      Event.RefusesRobot .plain app (.agent (.addRobot "r1".toList "A".toList) 0) ∧
      ¬(Event.agent (.addRobot "r1".toList "A".toList) 0).LeavesAsItWas .plain app ∧
      Server.run .plain app [.agent (.addRobot "r1".toList "A".toList) 0,
        .agent (.addRobot "r2".toList "A".toList) 0] = .ok (app', [{}, {}]) ∧
      ∃ r, app'.game.robots["r2".toList]? = some r ∧ (app'.game.robot r).ports = [0, 0] := by
  refine ⟨_, _, ⟨[2, 1], 0, oneTeam, oneRobot, _, rfl⟩, ⟨_, _, _, _, rfl, rfl⟩, ?_, rfl, _,
    rfl, rfl⟩
  rintro ⟨app', output, hstep, -, hports⟩
  cases hstep
  cases hports

end ServerGame
