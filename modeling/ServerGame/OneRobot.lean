import ServerGame.Frames
import ServerGame.Registration

/-!
# One physical robot for each robot of the game

A robot is kept to one temporary id by its flag alone. An agent can clear the
flag, and a robot that is added again under an old name comes with it cleared,
while the registration that names the robot stays.
-/

namespace ServerGame

variable {event : Event} {game game' : Game} {env : Externals} {app app' : Application}
  {output : Output}

-- ---------------------------------------------------------------------------
-- What is promised
-- ---------------------------------------------------------------------------

def OneRobotEach (game : Game) : Prop :=
  ∀ (temporaryId temporaryId' : Str) (name : Str),
    game.registeredRobots[temporaryId]? = some name →
    game.registeredRobots[temporaryId']? = some name → temporaryId = temporaryId'

def Game.Assigns (game : Game) (temporaryId : Str) (r : RobotRef) : Prop :=
  ∃ game', game.getRobotWithoutRealRobot temporaryId = .ok (some r, game')

def Event.RegistersAs (env : Externals) (temporaryId : Str) : Event → Prop
  | .message raw _ _ => raw.type = "Register".toList ∧
      (env.parseRegister raw.payload).2.temporaryRobotId = temporaryId
  | _ => False

/-- A temporary id that has got a robot gets it again as long as it exists. -/
def SameRobotAgain (env : Externals) (app : Application) (events : List Event) : Prop :=
  ∀ pre event mid post app₁ app₂ outputs₁ outputs₂, events = pre ++ event :: mid ++ post →
    Server.run env app pre = .ok (app₁, outputs₁) →
    Server.run env app₁ (event :: mid) = .ok (app₂, outputs₂) →
    ∀ temporaryId, event.RegistersAs env temporaryId → ∀ (name : Str) r,
      app₁.game.robots[name]? = some r → app₁.game.Assigns temporaryId r →
      app₂.game.robots[name]? = some r → app₂.game.Assigns temporaryId r

/-- A temporary id that is not known does not come while the first robot
without a real one, in name order, is one that a registration names. -/
def AssignsUnnamed (env : Externals) (app : Application) : Event → Prop
  | .message raw _ _ =>
    let temporaryId := (env.parseRegister raw.payload).2.temporaryRobotId
    app.game.registeredRobots[temporaryId]? = none → ∀ (name : Str) r,
      (app.game.robots.findFirst fun r => !(app.game.robot r).hasRealRobot) = some (name, r) →
      ∀ temporaryId' : Str, app.game.registeredRobots[temporaryId']? ≠ some name
  | _ => True

-- ---------------------------------------------------------------------------
-- What a step does to the registrations
-- ---------------------------------------------------------------------------

inductive RegisteredStep (env : Externals) (event : Event) (game game' : Game) : Prop
  | same (h : game'.registeredRobots = game.registeredRobots)
  | assigned {temporaryId name r} (hevent : event.RegistersAs env temporaryId)
      (hnew : game.registeredRobots[temporaryId]? = none)
      (hfirst : (game.robots.findFirst fun r => !(game.robot r).hasRealRobot) = some (name, r))
      (h : game'.registeredRobots = game.registeredRobots.insert temporaryId name)

theorem getRobotWithoutRealRobot_cases {temporaryId : Str} :
    (∃ name, game.registeredRobots[temporaryId]? = some name ∧
      game.getRobotWithoutRealRobot temporaryId =
        (game.accessRobot name).map fun r => (some r, game)) ∨
    (∃ name r, game.registeredRobots[temporaryId]? = none ∧
      (game.robots.findFirst fun r => !(game.robot r).hasRealRobot) = some (name, r) ∧
      game.getRobotWithoutRealRobot temporaryId = .ok (some r,
        { game with registeredRobots := game.registeredRobots.insert temporaryId name })) ∨
    (game.registeredRobots[temporaryId]? = none ∧
      (game.robots.findFirst fun r => !(game.robot r).hasRealRobot) = none ∧
      game.getRobotWithoutRealRobot temporaryId = .ok (none, game)) := by
  unfold Game.getRobotWithoutRealRobot
  cases hknown : game.registeredRobots[temporaryId]? with
  | some name =>
    refine .inl ⟨name, rfl, ?_⟩
    dsimp only
    cases game.accessRobot name <;> rfl
  | none =>
    cases hfirst : game.robots.findFirst fun r => !(game.robot r).hasRealRobot with
    | some entry => exact .inr (.inl ⟨entry.1, entry.2, rfl, rfl, rfl⟩)
    | none => exact .inr (.inr ⟨rfl, rfl, rfl⟩)

theorem ProcessRegister.execute_registered (channel : Channel) (clientId : Str)
    (register : Register) (game : Game) :
    (execute channel clientId register game).game.registeredRobots =
      match game.getRobotWithoutRealRobot register.temporaryRobotId with
      | .ok (_, game') => game'.registeredRobots
      | .error _ => game.registeredRobots := by
  unfold execute
  split
  · next h => rw [h]
  · next h =>
    rw [h]
    dsimp only
    split <;> rfl
  · next h => rw [h]

theorem RegisteredStep.register {raw : RawMessage} {channel : Channel} {localTime : Instant}
    (htype : raw.type = "Register".toList) (clientId : Str) :
    RegisteredStep env (.message raw channel localTime) game
      (ProcessRegister.execute channel clientId (env.parseRegister raw.payload).2 game).game := by
  have hexecute := ProcessRegister.execute_registered channel clientId
    (env.parseRegister raw.payload).2 game
  rcases @getRobotWithoutRealRobot_cases game
    (env.parseRegister raw.payload).2.temporaryRobotId with
    ⟨name, -, h⟩ | ⟨name, r, hnew, hfirst, h⟩ | ⟨-, -, h⟩
  · rw [h] at hexecute
    cases haccess : game.accessRobot name <;> rw [haccess] at hexecute <;> exact .same hexecute
  · rw [h] at hexecute
    exact .assigned ⟨htype, rfl⟩ hnew hfirst hexecute
  · rw [h] at hexecute
    exact .same hexecute

theorem modifyRobotNamed_registered (name : Str) (f : Robot → Robot) :
    (AgentProxy.modifyRobotNamed name f game).registeredRobots = game.registeredRobots := by
  unfold AgentProxy.modifyRobotNamed
  split <;> rfl

theorem addRobot_registered {name teamName robotId : Str} {port commandPort : UInt16}
    {added : Bool} (h : game.addRobot name teamName port commandPort robotId = .ok (added, game')) :
    game'.registeredRobots = game.registeredRobots := by
  rcases Game.addRobot_ok h with ⟨-, rfl⟩ | ⟨_, _, -, -, -, -, rfl⟩ <;> rfl

theorem RegisteredStep.step (hevent : event.Registers)
    (h : Server.step env app event = .ok (app', output)) :
    RegisteredStep env event app.game app'.game := by
  cases event with
  | message raw channel localTime =>
    obtain ⟨rfl, -⟩ := Server.ofOutcome_ok h
    have htype : raw.type = "Register".toList := hevent
    simp only [ProcessDecider.process, htype]
    exact .register htype raw.routingId
  | agent command localTime =>
    obtain ⟨hagent, -⟩ := Server.step_agent.mp h
    cases command with
    | addTeam name => cases hagent; unfold Game.addTeam; split <;> exact .same rfl
    | addRobot name teamName =>
      obtain ⟨_, _, _, hadd⟩ := AgentProxy.addRobot_game hagent
      exact .same (addRobot_registered hadd)
    | removeRobot name => cases hagent; unfold Game.removeRobot; split <;> exact .same rfl
    | registerRobot name => cases hagent; exact .same (modifyRobotNamed_registered name _)
    | unregisterRobot name => cases hagent; exact .same (modifyRobotNamed_registered name _)
    | _ => exact hevent.elim
  | call call =>
    obtain ⟨_, hcall, rfl⟩ := Server.step_call.mp h
    cases call with
    | addTeam name => cases hcall; unfold Game.addTeam; split <;> exact .same rfl
    | addRobot name teamName port commandPort robotId =>
      obtain ⟨_, hadd, -⟩ := GameCall.apply_addRobot.mp hcall
      exact .same (addRobot_registered hadd)
    | _ => exact hevent.elim
  | clock _ => exact hevent.elim
  | tic => exact hevent.elim

-- ---------------------------------------------------------------------------
-- The same robot again
-- ---------------------------------------------------------------------------

theorem RegisteredStep.keeps (h : RegisteredStep env event game game') {temporaryId name : Str}
    (hknown : game.registeredRobots[temporaryId]? = some name) :
    game'.registeredRobots[temporaryId]? = some name := by
  cases h with
  | same h => rw [h, hknown]
  | assigned hevent hnew hfirst h =>
    rw [h, Std.ExtTreeMap.getElem?_insert_eq_some]
    refine .inr ⟨?_, hknown⟩
    rintro rfl
    rw [hnew] at hknown
    cases hknown

theorem registered_kept {events : List Event} {outputs : List Output}
    (hevents : ∀ event ∈ events, event.Registers)
    (hrun : Server.run env app events = .ok (app', outputs)) {temporaryId name : Str}
    (hknown : app.game.registeredRobots[temporaryId]? = some name) :
    app'.game.registeredRobots[temporaryId]? = some name :=
  Lib.run_invariant (fun app => app.game.registeredRobots[temporaryId]? = some name)
    (fun _ event _ _ hmem hk hstep => (RegisteredStep.step (hevents event hmem) hstep).keeps hk)
    hknown hrun

theorem assigns_of_known {temporaryId name : Str} {r : RobotRef}
    (hknown : game.registeredRobots[temporaryId]? = some name)
    (hr : game.robots[name]? = some r) : game.Assigns temporaryId r := by
  refine ⟨game, ?_⟩
  unfold Game.getRobotWithoutRealRobot
  rw [hknown]
  simp only [Game.accessRobot_ok.mpr hr, Lib.ok_bind]
  rfl

theorem WellFormed.assigned_known (hw : WellFormed app.game) {temporaryId name : Str}
    {r : RobotRef} (hevent : event.RegistersAs env temporaryId)
    (hr : app.game.robots[name]? = some r) (hassigns : app.game.Assigns temporaryId r)
    (h : Server.step env app event = .ok (app', output)) :
    app'.game.registeredRobots[temporaryId]? = some name := by
  cases event with
  | message raw channel localTime =>
    obtain ⟨htype, rfl⟩ := hevent
    obtain ⟨rfl, -⟩ := Server.ofOutcome_ok h
    obtain ⟨game', hfound⟩ := hassigns
    simp only [ProcessDecider.process, htype]
    refine (congrArg (fun registered : Lib.Map Str Str => registered[_]?)
      (ProcessRegister.execute_registered channel raw.routingId
        (env.parseRegister raw.payload).2 app.game)).trans ?_
    rw [hfound]
    rcases Game.getRobotWithoutRealRobot_ok hfound with
      ⟨name', r', hknown, hr', hsome, rfl⟩ | ⟨name', r', -, hr', -, hsome, rfl⟩ | ⟨-, -, hnone, -⟩
    · cases hsome
      rw [hknown, ← hw.robotName hr', hw.robotName hr]
    · cases hsome
      rw [← hw.robotName hr, hw.robotName hr', Std.ExtTreeMap.getElem?_insert_self]
    · cases hnone
  | _ => exact hevent.elim

theorem sameRobotAgain (env : Externals) (ports : List UInt16) (gameDuration : Int)
    (ruleset : Ruleset) (events : List Event) (hevents : ∀ event ∈ events, event.Registers) :
    SameRobotAgain env (Server.create ports gameDuration ruleset) events := by
  intro pre event mid post app₁ app₂ outputs₁ outputs₂ heq hpre hrest temporaryId hevent name r hr
    hassigns hr'
  subst heq
  have hw : WellFormed app₁.game :=
    Server.Reachable.wellFormed ⟨ports, gameDuration, ruleset, pre, outputs₁, hpre⟩
  obtain ⟨app', output, _, hstep, hmid, -⟩ := Lib.run_cons.mp hrest
  have hknown := hw.assigned_known hevent hr hassigns hstep
  exact assigns_of_known
    (registered_kept (fun event hmem => hevents event (by simp [hmem])) hmid hknown) hr'

-- ---------------------------------------------------------------------------
-- One robot each
-- ---------------------------------------------------------------------------

theorem OneRobotEach.step (hone : OneRobotEach app.game) (hevent : event.Registers)
    (hunnamed : AssignsUnnamed env app event)
    (h : Server.step env app event = .ok (app', output)) : OneRobotEach app'.game := by
  cases RegisteredStep.step hevent h with
  | same h => unfold OneRobotEach; rwa [h]
  | @assigned temporaryId name r hregisters hnew hfirst h =>
    have hfree : ∀ temporaryId' : Str, app.game.registeredRobots[temporaryId']? ≠ some name := by
      cases event with
      | message raw channel localTime =>
        obtain ⟨-, rfl⟩ := hregisters
        exact hunnamed hnew name r hfirst
      | _ => exact hregisters.elim
    intro id id' name' hid hid'
    rw [h, Std.ExtTreeMap.getElem?_insert_eq_some] at hid hid'
    rcases hid with ⟨rfl, rfl⟩ | ⟨-, hid⟩
    · rcases hid' with ⟨rfl, -⟩ | ⟨-, hid'⟩
      · rfl
      · exact absurd hid' (hfree id')
    · rcases hid' with ⟨rfl, rfl⟩ | ⟨-, hid'⟩
      · exact absurd hid (hfree id)
      · exact hone id id' name' hid hid'

theorem OneRobotEach.keeps (hevent : event.Registers)
    (h : Server.step env app event = .ok (app', output)) (hone' : OneRobotEach app'.game) :
    AssignsUnnamed env app event := by
  cases event with
  | message raw channel localTime =>
    intro hnew name r hfirst temporaryId' hknown
    obtain ⟨rfl, -⟩ := Server.ofOutcome_ok h
    have htype : raw.type = "Register".toList := hevent
    have hregistered : (ProcessDecider.process env raw channel localTime app.game).game =
        (ProcessRegister.execute channel raw.routingId (env.parseRegister raw.payload).2
          app.game).game := by
      simp only [ProcessDecider.process, htype]
      rfl
    have hexecute := ProcessRegister.execute_registered channel raw.routingId
      (env.parseRegister raw.payload).2 app.game
    rcases @getRobotWithoutRealRobot_cases app.game
      (env.parseRegister raw.payload).2.temporaryRobotId with
      ⟨_, hold, -⟩ | ⟨name', r', -, hfirst', hfound⟩ | ⟨-, hnone, -⟩
    · rw [hnew] at hold; cases hold
    · cases hfirst.symm.trans hfirst'
      rw [hfound] at hexecute
      have hne : (env.parseRegister raw.payload).2.temporaryRobotId ≠ temporaryId' := by
        rintro rfl
        rw [hnew] at hknown
        cases hknown
      unfold OneRobotEach at hone'
      simp only [hregistered, hexecute] at hone'
      exact hne (hone' _ _ name (Std.ExtTreeMap.getElem?_insert_eq_some.mpr (.inl ⟨rfl, rfl⟩))
        (Std.ExtTreeMap.getElem?_insert_eq_some.mpr (.inr ⟨hne, hknown⟩)))
    · rw [hfirst] at hnone; cases hnone
  | _ => exact trivial

/-- In a run of registrations and of commands about robots, no two temporary
ids share a robot, and each keeps its own, exactly when no registration under a
new temporary id comes while the first robot without a real one is named by an
older registration. -/
theorem one_robot_each_iff (env : Externals) (ports : List UInt16) (gameDuration : Int)
    (ruleset : Ruleset) (events : List Event) (app : Application) (outputs : List Output)
    (hevents : ∀ event ∈ events, event.Registers)
    (hrun : Server.run env (Server.create ports gameDuration ruleset) events =
      .ok (app, outputs)) :
    (Lib.AllStates (Server.step env) (Server.create ports gameDuration ruleset) events
        (fun app => OneRobotEach app.game) ∧
      SameRobotAgain env (Server.create ports gameDuration ruleset) events) ↔
      Lib.AllSteps (Server.step env) (Server.create ports gameDuration ruleset) events
        (AssignsUnnamed env) := by
  constructor
  · rintro ⟨hone, -⟩ pre event post app₁ outputs₁ heq hpre
    subst heq
    obtain ⟨app₂, output, hstep, -, hone₂⟩ := hone.both hrun hpre
    exact hone₂.keeps (hevents event (by simp)) hstep
  · intro hunnamed
    refine ⟨?_, sameRobotAgain env ports gameDuration ruleset events hevents⟩
    refine hunnamed.invariant (P := fun app => OneRobotEach app.game)
      (fun _ event _ _ hmem hone hu hstep => hone.step (hevents event hmem) hu hstep) ?_
    intro temporaryId temporaryId' name h
    simp [Server.create, Game.create] at h

/-- Registrations whose payload is one string, the temporary id in field 1. -/
def withTemporaryIds : Externals :=
  { Externals.plain with
    parseRegister := fun payload => match payload with
      | tag :: length :: temporaryRobotId =>
        if tag.toNat = 10 ∧ length.toNat = temporaryRobotId.length then
          (true, { temporaryRobotId })
        else (false, {})
      | _ => (payload.isEmpty, {}) }

def registerOf (temporaryRobotId : Str) : RawMessage where
  routingId := temporaryRobotId
  type := "Register".toList
  payload := Char.ofNat 10 :: Char.ofNat temporaryRobotId.length :: temporaryRobotId

def t1Registers : List Event :=
  [.call (.addTeam "A".toList), .call (.addRobot "r1".toList "A".toList 0 0 "robot_0".toList),
    .message (registerOf "t1".toList) .reply 0]

theorem one_robot_each_iff_t1 :
    Lib.AllStates (Server.step withTemporaryIds) (Server.create [] 0 oneTeam) t1Registers
        (fun app => OneRobotEach app.game) ∧
      SameRobotAgain withTemporaryIds (Server.create [] 0 oneTeam) t1Registers := by
  refine (one_robot_each_iff withTemporaryIds [] 0 oneTeam t1Registers _ _ ?_ rfl).mpr ?_
  · simp [t1Registers, Event.Registers, registerOf]
  · refine Lib.allSteps_cons.mpr ⟨trivial, fun app₁ output₁ h₁ => ?_⟩
    cases h₁
    refine Lib.allSteps_cons.mpr ⟨trivial, fun app₂ output₂ h₂ => ?_⟩
    cases h₂
    refine Lib.allSteps_cons.mpr ⟨fun _ name r _ temporaryId' hknown => ?_, fun app₃ _ _ => ?_⟩
    · cases hknown
    · intro pre event post app outputs heq
      cases pre <;> cases heq

/-- The robot of `t1` is unregistered by an agent; the robot that registers next
as `t2` gets the same one. -/
theorem one_robot_twice :
    ∃ app outputs, Server.run withTemporaryIds (Server.create [] 0 oneTeam)
        (t1Registers ++ [.agent (.unregisterRobot "r1".toList) 0,
          .message (registerOf "t2".toList) .reply 0]) = .ok (app, outputs) ∧
      outputs.flatMap Output.sent =
        ["t1".toList, "t2".toList].map (reply .reply · (.registered
          { robotId := "robot_0".toList, team := some "A".toList })) ∧
      app.game.registeredRobots["t1".toList]? = some "r1".toList ∧
      app.game.registeredRobots["t2".toList]? = some "r1".toList ∧
      ¬OneRobotEach app.game := by
  refine ⟨_, _, rfl, rfl, rfl, rfl, fun h => ?_⟩
  have hsame := h "t1".toList "t2".toList "r1".toList rfl rfl
  simp at hsame

end ServerGame
