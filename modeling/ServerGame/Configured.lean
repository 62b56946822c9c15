import ServerGame.Loop.Launch
import ServerGame.Registry

/-!
# What is configured

The game of a launched server: the teams of the configuration, and of its
robots those whose team is among them. Of two robots of one name the first one
counts; the others are dropped without a word, as `initServer` does not look at
the result of `addRobot`.
-/

namespace ServerGame

open Lib (bind_eq_ok pure_eq_ok)

variable {game game' : Game} {app app' : Application} {leftFirst : Bool} {isTeam : Str → Bool}
  {entry : Str × Parameters.Robot} {entries done : List (Str × Parameters.Robot)} {name : Str}

def firstNamed (isTeam : Str → Bool) (entries : List (Str × Parameters.Robot)) (name : Str) :
    Option (Str × Parameters.Robot) :=
  entries.find? fun entry => entry.2.name = name && isTeam entry.2.team

def MadeOf (game : Game) (name : Str) : Option (Str × Parameters.Robot) → Prop
  | none => name ∉ game.robots
  | some (id, robot) => ∃ r, game.robots[name]? = some r ∧ game.robotHeap.Allocated r ∧
      (game.robot r).name = name ∧ game.teams[robot.team]? = some (game.robot r).team ∧
      (id ≠ [] → (game.robot r).robotId = id)

theorem firstNamed_snoc : firstNamed isTeam (done ++ [entry]) name =
    (firstNamed isTeam done name).or
      (if entry.2.name = name && isTeam entry.2.team then some entry else none) := by
  unfold firstNamed
  rw [List.find?_append, List.find?_singleton]

-- ---------------------------------------------------------------------------
-- Teams
-- ---------------------------------------------------------------------------

theorem addTeam_mem_teams (game : Game) (teamName : Str) :
    name ∈ (game.addTeam teamName).2.teams ↔ name = teamName ∨ name ∈ game.teams := by
  unfold Game.addTeam
  split
  · next hmem =>
    refine ⟨.inr, fun h => h.elim (fun heq => ?_) id⟩
    rw [heq]
    exact hmem
  · rw [Std.ExtTreeMap.mem_insert, Std.LawfulEqCmp.compare_eq_iff_eq, eq_comm]

theorem addTeams_mem_teams (names : List Str) (game : Game) :
    name ∈ (names.foldl (fun game name => (game.addTeam name).2) game).teams ↔
      name ∈ names ∨ name ∈ game.teams := by
  induction names generalizing game with
  | nil => simp
  | cons teamName names ih =>
    rw [List.foldl_cons, ih, addTeam_mem_teams, List.mem_cons]
    tauto

-- ---------------------------------------------------------------------------
-- Robots
-- ---------------------------------------------------------------------------

theorem addRobot_refused {teamName robotId : Str} {port commandPort : UInt16}
    (h : game.addRobot name teamName port commandPort robotId = .ok (false, game')) :
    name ∈ game.robots ∨ teamName ∉ game.teams := by
  unfold Game.addRobot at h
  split at h
  · next hname => exact .inl hname
  · simp only [bind_eq_ok] at h
    obtain ⟨id, -, h⟩ := h
    split at h
    · next hnone =>
      refine .inr fun hmem => ?_
      rw [Std.ExtTreeMap.mem_iff_isSome_getElem?, hnone] at hmem
      cases hmem
    · cases h

theorem MadeOf.insertRobot {found : Option (Str × Parameters.Robot)} (h : MadeOf game name found)
    {newName robotId : Str} {team : TeamRef} {port commandPort : UInt16}
    (hnew : newName ∉ game.robots) (hne : newName ≠ name) :
    MadeOf (game.insertRobot newName team port commandPort robotId) name found := by
  cases found with
  | none =>
    intro hmem
    obtain ⟨r, hr⟩ :=
      Option.isSome_iff_exists.mp (Std.ExtTreeMap.mem_iff_isSome_getElem?.mp hmem)
    rcases (insertRobot_robots robotId team port commandPort hnew).mp hr with ⟨heq, -⟩ | hold
    · exact hne heq
    · exact h (Std.ExtTreeMap.mem_iff_isSome_getElem?.mpr (by simp [hold]))
  | some found =>
    obtain ⟨r, hr, hallocated, hname, hteam, hid⟩ := h
    have hsame : (game.insertRobot newName team port commandPort robotId).robot r = game.robot r :=
      Game.insertRobot_robot_of_ne hallocated.ne_fresh
    refine ⟨r, (insertRobot_robots robotId team port commandPort hnew).mpr (.inr hr),
      hallocated.alloc _, ?_, ?_, ?_⟩ <;> rw [hsame]
    · exact hname
    · exact hteam
    · exact hid

theorem MadeOf.mem (h : MadeOf game name (some entry)) : name ∈ game.robots := by
  obtain ⟨r, hr, -⟩ := h
  exact Std.ExtTreeMap.mem_iff_isSome_getElem?.mpr (by simp [hr])

/-- The robots are those of the entries so far. -/
structure Entered (isTeam : Str → Bool) (entries : List (Str × Parameters.Robot)) (game : Game) :
    Prop where
  teams : ∀ name, isTeam name = true ↔ name ∈ game.teams
  robots : ∀ name, MadeOf game name (firstNamed isTeam entries name)

theorem Entered.refused (h : Entered isTeam done game)
    (hrefused : entry.2.name ∈ game.robots ∨ entry.2.team ∉ game.teams) :
    Entered isTeam (done ++ [entry]) game := by
  refine ⟨h.teams, fun name => ?_⟩
  have hname := h.robots name
  rw [firstNamed_snoc]
  cases hfound : firstNamed isTeam done name with
  | some found =>
    rw [hfound] at hname
    exact hname
  | none =>
    rw [hfound] at hname
    rw [if_neg]
    · exact hname
    · simp only [Bool.and_eq_true, decide_eq_true_eq, h.teams, not_and]
      rintro rfl hteam
      exact hrefused.elim hname (fun hnot => hnot hteam)

theorem Entered.inserted (h : Entered isTeam done game) (hnew : entry.2.name ∉ game.robots)
    {team : TeamRef} (hteam : game.teams[entry.2.team]? = some team) {id : Str}
    (hid : entry.1 ≠ [] → id = entry.1) (port commandPort : UInt16) :
    Entered isTeam (done ++ [entry])
      (game.insertRobot entry.2.name team port commandPort id) := by
  have hisTeam : isTeam entry.2.team = true :=
    (h.teams _).mpr (Std.ExtTreeMap.mem_iff_isSome_getElem?.mpr (by simp [hteam]))
  refine ⟨h.teams, fun name => ?_⟩
  rw [firstNamed_snoc]
  by_cases hname : entry.2.name = name
  · subst hname
    have hnone : firstNamed isTeam done entry.2.name = none := by
      have hold := h.robots entry.2.name
      cases hfound : firstNamed isTeam done entry.2.name with
      | none => rfl
      | some found =>
        rw [hfound] at hold
        exact absurd hold.mem hnew
    rw [hnone, if_pos (by simp [hisTeam])]
    refine ⟨game.robotHeap.fresh,
      (insertRobot_robots id team port commandPort hnew).mpr (.inl ⟨rfl, rfl⟩),
      Lib.Heap.allocated_fresh _ _, ?_, ?_, ?_⟩ <;> rw [Game.insertRobot_robot_fresh]
    · exact hteam
    · exact hid
  · rw [if_neg (by simp [hname]), Option.or_none]
    exact (h.robots name).insertRobot hnew hname

theorem Entered.addConfiguredRobot (h : Entered isTeam done app.game)
    (hadd : app.addConfiguredRobot leftFirst entry = .ok app') :
    Entered isTeam (done ++ [entry]) app'.game := by
  unfold Application.addConfiguredRobot at hadd
  simp only [bind_eq_ok, pure_eq_ok, Prod.exists, Application.popTwoPorts_game] at hadd
  obtain ⟨added, game', hadd, rfl⟩ := hadd
  cases added with
  | false =>
    have hrefused := addRobot_refused hadd
    rcases Game.addRobot_ok hadd with ⟨-, rfl⟩ | ⟨_, _, hfalse, -⟩
    · exact h.refused hrefused
    · cases hfalse
  | true =>
    rcases Game.addRobot_ok hadd with ⟨hfalse, -⟩ | ⟨id, team, -, hnew, hchoose, hteam, rfl⟩
    · cases hfalse
    · refine h.inserted hnew hteam (fun hid => ?_) _ _
      rcases Game.chooseRobotId_ok.mp hchoose with ⟨hempty, -⟩ | ⟨-, hsame⟩
      · exact absurd hempty hid
      · exact hsame

theorem Entered.addConfiguredRobots (h : Entered isTeam done app.game)
    (hrun : entries.foldlM (Application.addConfiguredRobot leftFirst) app = .ok app') :
    Entered isTeam (done ++ entries) app'.game := by
  induction entries generalizing app done with
  | nil =>
    cases hrun
    rwa [List.append_nil]
  | cons entry entries ih =>
    rw [List.foldlM_cons, bind_eq_ok] at hrun
    obtain ⟨app₁, hfirst, hrest⟩ := hrun
    rw [← List.singleton_append, ← List.append_assoc]
    exact ih (h.addConfiguredRobot hfirst) hrest

-- ---------------------------------------------------------------------------
-- The launched game
-- ---------------------------------------------------------------------------

theorem initServer_entered {param : Parameters} (h : initServer leftFirst {} param = .ok app) :
    Entered (fun name => decide (name ∈ param.teams)) param.robots.toList app.game := by
  unfold initServer at h
  simp only [bind_eq_ok, pure_eq_ok] at h
  obtain ⟨_, -, _, -, _, -, _, -, _, -, duration, -, app₁, hrobots, items, -, rfl⟩ := h
  have hempty : Entered (fun name => decide (name ∈ param.teams)) []
      (param.teams.toList.foldl (fun game name => (game.addTeam name).2)
        { Game.create (seconds duration.toUInt32) param.ruleset with items := {} }) := by
    refine ⟨fun name => ?_, fun name => ?_⟩
    · rw [addTeams_mem_teams]
      simp [Game.create]
    · intro hmem
      rw [(addTeams_frame _ _).2] at hmem
      simp [Game.create] at hmem
  have hentered := hempty.addConfiguredRobots hrobots
  exact ⟨hentered.teams, hentered.robots⟩

structure Untouched (game : Game) : Prop where
  isRunning : game.isRunning = false
  players : game.players = ∅
  contacts : game.contacts = ∅
  winner : game.winner = none

theorem Builds.untouched {calls : List GameCall} (h : Builds calls game game')
    (hgame : Untouched game) : Untouched game' := by
  refine h.invariant Untouched (fun g call g' output hbuilding hg hcall => ?_) hgame
  cases call with
  | addTeam teamName =>
    cases hcall
    unfold Game.addTeam
    split <;> exact ⟨hg.isRunning, hg.players, hg.contacts, hg.winner⟩
  | addRobot robotName teamName port commandPort robotId =>
    obtain ⟨_, hadd, -⟩ := GameCall.apply_addRobot.mp hcall
    rcases Game.addRobot_ok hadd with ⟨-, rfl⟩ | ⟨_, _, -, -, -, -, rfl⟩ <;>
      exact ⟨hg.isRunning, hg.players, hg.contacts, hg.winner⟩
  | createItem =>
    cases hcall
    exact ⟨hg.isRunning, hg.players, hg.contacts, hg.winner⟩
  | _ => exact hbuilding.elim

/-- A launched server has the configured teams, and under each name the first
configured robot of that name whose team is configured, in that team and, if it
has one, with its id; nothing has happened in its game. -/
theorem launch_as_configured (zmq : Zmq) (leftFirst : Bool) (param : Parameters)
    (localTime : Instant) (launched : Launched zmq)
    (hlaunch : Application.run zmq leftFirst param localTime = .ok launched) :
    (∀ name, name ∈ launched.server.game.teams ↔ name ∈ param.teams) ∧
      (∀ name, MadeOf launched.server.game name
        (firstNamed (fun team => decide (team ∈ param.teams)) param.robots.toList name)) ∧
      Untouched launched.server.game := by
  obtain ⟨app, interval, happ, hserver⟩ := Application.run_ok hlaunch
  obtain ⟨gameDuration, -, hbuilds, -⟩ := initServer_builds happ
  have hentered := initServer_entered happ
  rw [hserver]
  refine ⟨fun name => ?_, hentered.robots, hbuilds.untouched ⟨rfl, rfl, rfl, rfl⟩⟩
  rw [← decide_eq_true_iff (p := name ∈ param.teams)]
  exact (hentered.teams name).symm

/-- Two robots of one name, the first of them in a team that is not configured. -/
def twoOfOneName : Parameters :=
  { twoColours 2 3 with
    videoPorts := [9000, 9001, 9002, 9003]
    teams := (∅ : Std.ExtTreeSet Str compare).insert "A".toList
    robots := ((∅ : Lib.Map Str Parameters.Robot).insert "robot_1".toList
        ⟨"r".toList, "B".toList⟩).insert "robot_2".toList ⟨"r".toList, "A".toList⟩ }

theorem launch_as_configured_twoOfOneName :
    ∃ launched, Application.run .fifo true twoOfOneName 0 = .ok launched ∧
      MadeOf launched.server.game "r".toList
        (some ("robot_2".toList, ⟨"r".toList, "A".toList⟩)) :=
  ⟨_, rfl, (launch_as_configured .fifo true twoOfOneName 0 _ rfl).2.1 "r".toList⟩

end ServerGame
