import ServerGame.Links

/-!
# Registrations

A registration is kept under the temporary id of a robot and names a robot of
the game. `removeRobot` does not look at registrations, so the next message of
a robot whose name is gone runs into `map::at`.
-/

namespace ServerGame

variable {game game' : Game}

-- ---------------------------------------------------------------------------
-- What is promised
-- ---------------------------------------------------------------------------

/-- A registration is answered once, and with an empty id only if there is no
robot to assign. -/
def RegisterAnswered (game : Game) (channel : Channel) (clientId : Str) (register : Register) :
    Prop :=
  (ProcessRegister.execute channel clientId register game).escaped = none ∧
    ∃ registered, (ProcessRegister.execute channel clientId register game).sent =
        [reply channel clientId (.registered registered)] ∧
      (registered.robotId = [] → game.registeredRobots[register.temporaryRobotId]? = none ∧
        ∀ (name : Str) r, game.robots[name]? = some r → (game.robot r).hasRealRobot = true)

structure RegistrationsValid (game : Game) : Prop where
  names : ∀ (temporaryId : Str) name, game.registeredRobots[temporaryId]? = some name →
    name ∈ game.robots
  answered : ∀ channel clientId register, RegisterAnswered game channel clientId register

/-- The events of the robots and of the commands about them; teams can be added. -/
def Event.Registers : Event → Prop
  | .message raw _ _ => raw.type = "Register".toList
  | .agent (.addTeam _) _ | .agent (.addRobot _ _) _ | .agent (.removeRobot _) _ => True
  | .agent (.registerRobot _) _ | .agent (.unregisterRobot _) _ => True
  | .call (.addTeam _) | .call (.addRobot ..) => True
  | _ => False

def KeepsRegistered (app : Application) (event : Event) : Prop :=
  ∀ name, event.RemovesRobot name →
    ∀ temporaryId : Str, app.game.registeredRobots[temporaryId]? ≠ some name

-- ---------------------------------------------------------------------------
-- The invariant
-- ---------------------------------------------------------------------------

structure Enrolled (game : Game) : Prop where
  names : ∀ {temporaryId name : Str}, game.registeredRobots[temporaryId]? = some name →
    name ∈ game.robots
  allocated : ∀ {name : Str} {r}, game.robots[name]? = some r → game.robotHeap.Allocated r
  teamIsAlive : ∀ {name : Str} {r}, game.robots[name]? = some r →
    game.teamIsAlive (game.robot r).team = true
  robotId : ∀ {name : Str} {r}, game.robots[name]? = some r → (game.robot r).robotId ≠ []

theorem Enrolled.create (gameDuration : Int) (ruleset : Ruleset) :
    Enrolled (Game.create gameDuration ruleset) where
  names h := by simp [Game.create] at h
  allocated h := by simp [Game.create] at h
  teamIsAlive h := by simp [Game.create] at h
  robotId h := by simp [Game.create] at h

theorem Enrolled.addTeam (he : Enrolled game) (name : Str) : Enrolled (game.addTeam name).2 := by
  unfold Game.addTeam
  split
  · exact he
  · next hnew =>
    refine { he with teamIsAlive := fun hr => ?_ }
    obtain ⟨teamName, ht⟩ := Game.teamIsAlive_iff.mp (he.teamIsAlive hr)
    have hne : name ≠ teamName := by
      rintro rfl
      exact hnew (Std.ExtTreeMap.mem_iff_isSome_getElem?.mpr (by simp [ht]))
    exact Game.teamIsAlive_iff.mpr
      ⟨teamName, Std.ExtTreeMap.getElem?_insert_eq_some.mpr (.inr ⟨hne, ht⟩)⟩

theorem Enrolled.insertRobot (he : Enrolled game) {name teamName robotId : Str} {team : TeamRef}
    (ht : game.teams[teamName]? = some team) (hid : robotId ≠ []) (port commandPort : UInt16) :
    Enrolled (game.insertRobot name team port commandPort robotId) where
  names h := Std.ExtTreeMap.mem_insertIfNew.mpr (.inr (he.names h))
  allocated hr := by
    rcases Std.ExtTreeMap.getElem?_insertIfNew_eq_some.mp hr with ⟨-, -, rfl⟩ | hr
    · exact Lib.Heap.allocated_fresh _ _
    · exact (he.allocated hr).alloc _
  teamIsAlive hr := by
    rcases Std.ExtTreeMap.getElem?_insertIfNew_eq_some.mp hr with ⟨-, -, rfl⟩ | hr
    · exact Game.teamIsAlive_iff.mpr ⟨teamName, by simpa [Game.insertRobot, Game.robot] using ht⟩
    · rw [Game.insertRobot_robot_of_ne (he.allocated hr).ne_fresh]
      exact he.teamIsAlive hr
  robotId hr := by
    rcases Std.ExtTreeMap.getElem?_insertIfNew_eq_some.mp hr with ⟨-, -, rfl⟩ | hr
    · simpa [Game.insertRobot, Game.robot] using hid
    · rw [Game.insertRobot_robot_of_ne (he.allocated hr).ne_fresh]
      exact he.robotId hr

theorem Enrolled.removeRobot (he : Enrolled game) {name : Str}
    (hkeep : ∀ temporaryId : Str, game.registeredRobots[temporaryId]? ≠ some name) :
    Enrolled (game.removeRobot name).2 := by
  unfold Game.removeRobot
  split
  · have hold : ∀ {name' : Str} {r}, (game.robots.erase name)[name']? = some r →
        game.robots[name']? = some r := fun h =>
      (Std.ExtTreeMap.getElem?_erase_eq_some.mp h).2
    refine { he with
      names := fun {temporaryId name'} h => ?_
      allocated := fun hr => he.allocated (hold hr)
      teamIsAlive := fun hr => he.teamIsAlive (hold hr)
      robotId := fun hr => he.robotId (hold hr) }
    refine Std.ExtTreeMap.mem_erase.mpr ⟨?_, he.names h⟩
    rw [ne_eq, Std.LawfulEqCmp.compare_eq_iff_eq]
    rintro rfl
    exact hkeep temporaryId h
  · exact he

theorem Enrolled.modifyRobot (he : Enrolled game) (r : RobotRef) {f : Robot → Robot}
    (hteam : ∀ robot, (f robot).team = robot.team)
    (hid : ∀ robot, (f robot).robotId = robot.robotId) : Enrolled (game.modifyRobot r f) where
  names := he.names
  allocated := he.allocated
  teamIsAlive {_ r'} hr := by
    have hsame : ((game.modifyRobot r f).robot r').team = (game.robot r').team :=
      Lib.Heap.get_modify_field hteam
    rw [hsame]
    exact he.teamIsAlive hr
  robotId {_ r'} hr := by
    have hsame : ((game.modifyRobot r f).robot r').robotId = (game.robot r').robotId :=
      Lib.Heap.get_modify_field hid
    rw [hsame]
    exact he.robotId hr

theorem Enrolled.modifyRobotNamed (he : Enrolled game) (name : Str) {f : Robot → Robot}
    (hteam : ∀ robot, (f robot).team = robot.team)
    (hid : ∀ robot, (f robot).robotId = robot.robotId) :
    Enrolled (AgentProxy.modifyRobotNamed name f game) := by
  unfold AgentProxy.modifyRobotNamed
  split
  · exact he.modifyRobot _ hteam hid
  · exact he

theorem Enrolled.addRobot (he : Enrolled game) {name teamName robotId : Str}
    {port commandPort : UInt16} {added : Bool}
    (h : game.addRobot name teamName port commandPort robotId = .ok (added, game')) :
    Enrolled game' := by
  rcases Game.addRobot_ok h with ⟨-, rfl⟩ | ⟨id, t, -, -, hid, ht, rfl⟩
  · exact he
  · refine he.insertRobot ht ?_ port commandPort
    rcases Game.chooseRobotId_ok.mp hid with ⟨-, hnew⟩ | ⟨hne, rfl⟩
    · exact (Game.getNewRobotIdLoop_unused hnew).2
    · exact hne

-- ---------------------------------------------------------------------------
-- The answer to a registration
-- ---------------------------------------------------------------------------

theorem Enrolled.register (he : Enrolled game) {name : Str} (hname : name ∈ game.robots)
    (temporaryId : Str) :
    Enrolled { game with
      registeredRobots := game.registeredRobots.insert temporaryId name } := by
  refine { he with names := fun {id name'} h => ?_ }
  rcases Std.ExtTreeMap.getElem?_insert_eq_some.mp h with ⟨-, rfl⟩ | ⟨-, h⟩
  · exact hname
  · exact he.names h

theorem Enrolled.getRobotWithoutRealRobot (he : Enrolled game) (temporaryId : Str) :
    ∃ found game', game.getRobotWithoutRealRobot temporaryId = .ok (found, game') ∧
      Enrolled game' ∧
      match found with
      | some r => ∃ name : Str, game'.robots[name]? = some r
      | none => game.registeredRobots[temporaryId]? = none ∧
        ∀ (name : Str) r, game.robots[name]? = some r → (game.robot r).hasRealRobot = true := by
  have htotal : ∃ result, game.getRobotWithoutRealRobot temporaryId = .ok result := by
    unfold Game.getRobotWithoutRealRobot
    split
    · next name hname =>
      have haccess := Game.accessRobot_ok.mpr
        (Std.ExtTreeMap.getElem?_eq_some_getElem (he.names hname))
      exact ⟨_, by rw [haccess, Lib.ok_bind]; rfl⟩
    · split <;> exact ⟨_, rfl⟩
  obtain ⟨⟨found, game'⟩, h⟩ := htotal
  refine ⟨found, game', h, ?_⟩
  rcases Game.getRobotWithoutRealRobot_ok h with
    ⟨name, r, -, hr, rfl, rfl⟩ | ⟨name, r, -, hr, -, rfl, rfl⟩ | ⟨hnone, hreal, rfl, rfl⟩
  · exact ⟨he, name, hr⟩
  · exact ⟨he.register (Std.ExtTreeMap.mem_iff_isSome_getElem?.mpr (by simp [hr])) temporaryId,
      name, hr⟩
  · exact ⟨he, hnone, hreal⟩

theorem Enrolled.execute (he : Enrolled game) (channel : Channel) (clientId : Str)
    (register : Register) :
    RegisterAnswered game channel clientId register ∧
      Enrolled (ProcessRegister.execute channel clientId register game).game := by
  obtain ⟨found, game', h, he', hfound⟩ :=
    he.getRobotWithoutRealRobot register.temporaryRobotId
  unfold RegisterAnswered ProcessRegister.execute
  rw [h]
  cases found with
  | none => exact ⟨⟨rfl, _, rfl, fun _ => hfound⟩, he'⟩
  | some r =>
    obtain ⟨name, hr⟩ := hfound
    have hregistered := he'.modifyRobot r (f := Robot.register register.videoUrl)
      (fun _ => rfl) (fun _ => rfl)
    have halive := hregistered.teamIsAlive hr
    simp only [halive, ↓reduceIte, true_and]
    exact ⟨⟨_, rfl, fun hid => absurd hid (he'.robotId hr)⟩, hregistered⟩

theorem Enrolled.valid (he : Enrolled game) : RegistrationsValid game :=
  ⟨fun _ _ => he.names, fun channel clientId register => (he.execute channel clientId register).1⟩

-- ---------------------------------------------------------------------------
-- Runs
-- ---------------------------------------------------------------------------

theorem Enrolled.step {env : Externals} {app app' : Application} {event : Event} {output : Output}
    (hevent : event.Registers) (he : Enrolled app.game) (hkeep : KeepsRegistered app event)
    (h : Server.step env app event = .ok (app', output)) : Enrolled app'.game := by
  cases event with
  | message raw channel localTime =>
    obtain ⟨rfl, -⟩ := Server.ofOutcome_ok h
    have htype : raw.type = "Register".toList := hevent
    simp only [ProcessDecider.process, htype]
    exact (he.execute channel raw.routingId (env.parseRegister raw.payload).2).2
  | agent command localTime =>
    obtain ⟨hagent, -⟩ := Server.step_agent.mp h
    cases command with
    | addTeam name => cases hagent; exact he.addTeam name
    | addRobot name teamName =>
      obtain ⟨_, _, _, hadd⟩ := AgentProxy.addRobot_game hagent
      exact he.addRobot hadd
    | removeRobot name => cases hagent; exact he.removeRobot (hkeep name rfl)
    | registerRobot name =>
      cases hagent; exact he.modifyRobotNamed name (fun _ => rfl) (fun _ => rfl)
    | unregisterRobot name =>
      cases hagent; exact he.modifyRobotNamed name (fun _ => rfl) (fun _ => rfl)
    | _ => exact hevent.elim
  | call call =>
    obtain ⟨_, hcall, rfl⟩ := Server.step_call.mp h
    cases call with
    | addTeam name => cases hcall; exact he.addTeam name
    | addRobot name teamName port commandPort robotId =>
      obtain ⟨_, hadd, -⟩ := GameCall.apply_addRobot.mp hcall
      exact he.addRobot hadd
    | _ => exact hevent.elim
  | clock _ => exact hevent.elim
  | tic => exact hevent.elim

theorem RegistrationsValid.keeps {env : Externals} {app app' : Application} {event : Event}
    {output : Output} (hevent : event.Registers)
    (h : Server.step env app event = .ok (app', output))
    (hvalid' : RegistrationsValid app'.game) : KeepsRegistered app event := by
  intro name hremoves temporaryId hreg
  cases event with
  | agent command localTime =>
    cases command with
    | removeRobot name' =>
      cases hremoves
      cases h
      have hname := hvalid'.names temporaryId name
      unfold Game.removeRobot at hname
      split at hname
      · have hgone := hname hreg
        rw [Std.ExtTreeMap.mem_erase] at hgone
        exact hgone.1 Std.ReflCmp.compare_self
      · next hnot => exact hnot (hname hreg)
    | _ => exact hremoves.elim
  | call call =>
    cases call with
    | removeRobot name' => exact hevent.elim
    | _ => exact hremoves.elim
  | _ => exact hremoves.elim

/-- In a run of registrations and of commands about robots, all registrations
stay valid exactly when no robot is removed that a registration names. -/
theorem registrations_valid_iff (env : Externals) (ports : List UInt16) (gameDuration : Int)
    (ruleset : Ruleset) (events : List Event) (app : Application) (outputs : List Output)
    (hevents : ∀ event ∈ events, event.Registers)
    (hrun : Server.run env (Server.create ports gameDuration ruleset) events =
      .ok (app, outputs)) :
    Lib.AllStates (Server.step env) (Server.create ports gameDuration ruleset) events
        (fun app => RegistrationsValid app.game) ↔
      Lib.AllSteps (Server.step env) (Server.create ports gameDuration ruleset) events
        KeepsRegistered := by
  constructor
  · intro hvalid pre event post app₁ outputs₁ heq hpre
    subst heq
    obtain ⟨app₂, output, hstep, -, hvalid₂⟩ := hvalid.both hrun hpre
    exact hvalid₂.keeps (hevents event (by simp)) hstep
  · intro hkeep pre post app₁ outputs₁ heq hpre
    have henrolled := hkeep.invariant (P := fun app => Enrolled app.game)
      (fun _ event _ _ hmem he hk hstep => Enrolled.step (hevents event hmem) he hk hstep)
      (Enrolled.create gameDuration ruleset)
    exact (henrolled pre post app₁ outputs₁ heq hpre).valid

def registerMessage : RawMessage where
  routingId := "c".toList
  type := "Register".toList
  payload := []

def oneRegistration : List Event :=
  [.call (.addTeam "A".toList), .call (.addRobot "r1".toList "A".toList 0 0 "robot_0".toList),
    .message registerMessage .reply 0]

theorem oneRegistration_registers : ∀ event ∈ oneRegistration, event.Registers := by
  simp [oneRegistration, Event.Registers, registerMessage]

theorem registrations_valid_iff_one :
    Lib.AllStates (Server.step .plain) (Server.create [] 0 oneTeam) oneRegistration
      (fun app => RegistrationsValid app.game) := by
  refine (registrations_valid_iff .plain [] 0 oneTeam oneRegistration _ _
    oneRegistration_registers rfl).mpr ?_
  intro pre event post app outputs heq _ name hremoves
  have hmem : event ∈ oneRegistration := by simp [heq]
  simp only [oneRegistration, List.mem_cons, List.not_mem_nil, or_false] at hmem
  rcases hmem with rfl | rfl | rfl <;> exact hremoves.elim

/-- The robot registers, an agent removes it, and the next registration under
the same temporary id ends in `std::out_of_range` and is not answered. -/
theorem registration_dangling :
    ∃ app outputs,
      Server.run .plain (Server.create [] 0 oneTeam)
        (oneRegistration ++ [.agent (.removeRobot "r1".toList) 0]) = .ok (app, outputs) ∧
      (ProcessRegister.execute .reply "c".toList {} app.game).escaped = some .outOfRange ∧
      (ProcessRegister.execute .reply "c".toList {} app.game).sent = [] ∧
      ¬RegistrationsValid app.game := by
  refine ⟨_, _, rfl, rfl, rfl, fun h => ?_⟩
  cases (h.answered .reply "c".toList {}).1

end ServerGame
