import ServerGame.Server
import ServerGame.Game.Contacts

/-!
# What a step of the server can do

Whatever the event, the game changes by a chain of the edits listed here. An
invariant of runs is proved once for each edit, and no proof about runs looks
into the handlers again.
-/

namespace ServerGame

open Lib (bind_eq_ok pure_eq_ok)

-- ---------------------------------------------------------------------------
-- Edits
-- ---------------------------------------------------------------------------

def Event.RemovesRobot (name : Str) : Event → Prop
  | .agent (.removeRobot name') _ => name' = name
  | .call (.removeRobot name') => name' = name
  | _ => False

def Event.RemovesPlayer (name : Str) : Event → Prop
  | .agent (.removePlayer name') _ => name' = name
  | .call (.removePlayer name') => name' = name
  | _ => False

def Event.SetsScore : Event → Prop
  | .agent (.setTeam ..) _ => True
  | _ => False

structure KeepsRobot (f : Robot → Robot) : Prop where
  name : ∀ robot, (f robot).name = robot.name
  robotId : ∀ robot, (f robot).robotId = robot.robotId
  team : ∀ robot, (f robot).team = robot.team
  player : ∀ robot, (f robot).player = robot.player

structure KeepsPlayer (f : Player → Player) : Prop where
  name : ∀ player, (f player).name = player.name
  robot : ∀ player, (f player).robot = player.robot

/-- One edit, with the calls of the contact handler and the steps of contacts
it shows. -/
inductive Edit (event : Event) (game : Game) :
    List ContactCall → List Game.ContactStep → Game → Prop
  | setTime (time) : Edit event game [] [] (game.setTime time)
  | setDuration (duration) : Edit event game [] [] (game.setDuration duration)
  | start (forceStop forced localTime) :
      Edit event game [] [] (game.start forceStop forced localTime)
  | stop : Edit event game [] [] game.stop
  | contact {call game'} (h : game.handleContactCall call = .ok game') :
      Edit event game [call] [] game'
  | detector {id detector} (reading) (h : game.flagDetectorsByRobot[id]? = some detector)
      (hrobot : reading.robot = detector.robot) :
      Edit event game [] []
        { game with flagDetectorsByRobot := game.flagDetectorsByRobot.insert id reading }
  | step {steps game'} (h : game.step = .ok (steps, game')) : Edit event game [] steps game'
  | createItem (type name rfids colourCode) :
      Edit event game [] [] { game with
        items := (game.items.createItem type name rfids colourCode game.ruleset).2 }
  | setScore (t score) (h : event.SetsScore) :
      Edit event game [] [] (game.modifyTeam t (·.setScore score))
  | register {name} (temporaryId) (h : name ∈ game.robots) :
      Edit event game [] [] { game with
        registeredRobots := game.registeredRobots.insert temporaryId name }
  | addTeam (name) : Edit event game [] [] (game.addTeam name).2
  | removeTeam (name) : Edit event game [] [] (game.removeTeam name).2
  | addRobot {name teamName port commandPort robotId added game'}
      (h : game.addRobot name teamName port commandPort robotId = .ok (added, game')) :
      Edit event game [] [] game'
  | removeRobot (name) (h : event.RemovesRobot name) :
      Edit event game [] [] (game.removeRobot name).2
  | addPlayer (name) : Edit event game [] [] (game.addPlayer name).2
  | removePlayer (name) (h : event.RemovesPlayer name) :
      Edit event game [] [] (game.removePlayer name).2
  | modifyRobot (r) {f} (hf : KeepsRobot f) : Edit event game [] [] (game.modifyRobot r f)
  | modifyPlayer (p) {f} (hf : KeepsPlayer f) : Edit event game [] [] (game.modifyPlayer p f)
  /-- Only a hello links, and it takes the robot the scan chose. -/
  | link {name p r} (hp : game.players[name]? = some p)
      (hr : game.getRobotForPlayer name = some r) : Edit event game [] [] (game.link p r)

inductive Edits (event : Event) (game : Game) :
    List ContactCall → List Game.ContactStep → Game → Prop
  | refl : Edits event game [] [] game
  | tail {calls steps game' calls' steps' game''} (h : Edits event game calls steps game')
      (hlast : Edit event game' calls' steps' game'') :
      Edits event game (calls ++ calls') (steps ++ steps') game''

variable {event : Event} {game game' : Game} {calls : List ContactCall}
  {steps : List Game.ContactStep}

theorem Edits.single (h : Edit event game calls steps game') :
    Edits event game calls steps game' := by
  simpa using Edits.refl.tail h

theorem Edits.quiet {game'' : Game} (h : Edits event game calls steps game')
    (hlast : Edit event game' [] [] game'') : Edits event game calls steps game'' := by
  simpa using h.tail hlast

-- ---------------------------------------------------------------------------
-- The handlers
-- ---------------------------------------------------------------------------

theorem KeepsPlayer.setAddress (address : Str) :
    KeepsPlayer ({ · with address : Player }) := ⟨fun _ => rfl, fun _ => rfl⟩

theorem KeepsRobot.register (videoUrl : Str) : KeepsRobot (Robot.register videoUrl) :=
  ⟨fun _ => rfl, fun _ => rfl, fun _ => rfl, fun _ => rfl⟩

theorem Edits.startIfReady (h : Edits event game calls steps game') (hello : Hello)
    (localTime : Ptime) :
    Edits event game calls steps (ProcessHello.startIfReady hello localTime game') := by
  rw [ProcessHello.startIfReady_eq]
  split
  · split
    · exact h.quiet (.start true none localTime)
    · exact h
  · exact h

theorem Edits.setAddressOf {game'' : Game} {hello : Hello}
    (h : Edits event game calls steps game')
    (haddress : ProcessHello.setAddressOf hello game' = .ok game'') :
    Edits event game calls steps game'' := by
  unfold ProcessHello.setAddressOf at haddress
  split at haddress
  · cases haddress; exact h
  · next address _ =>
    simp only [bind_eq_ok, pure_eq_ok] at haddress
    obtain ⟨p, -, rfl⟩ := haddress
    exact h.quiet (.modifyPlayer p (.setAddress address))

theorem Edits.hello (env : Externals) (channel : Channel) (clientId : Str) (hello : Hello)
    (localTime : Ptime) : Edits event game [] []
      (ProcessHello.execute env channel clientId hello localTime game).game := by
  have hadd : Edits event game [] [] (game.addPlayer hello.name).2 :=
    .single (.addPlayer hello.name)
  unfold ProcessHello.execute ProcessHello.executeWith
  dsimp only
  split
  · split
    · next r hr =>
      split
      · exact hadd
      · next p hp =>
        have hlink := hadd.quiet (.link (Game.accessPlayer_ok.mp hp) hr)
        split
        · exact hlink
        · have hstart := hlink.startIfReady hello localTime
          split
          · exact hstart
          · next haddress => exact hstart.setAddressOf haddress
    · split
      · exact hadd
      · next haddress => exact hadd.setAddressOf haddress
  · exact hadd

theorem Edits.getRobotWithoutRealRobot {temporaryId : Str} {found : Option RobotRef}
    (h : game.getRobotWithoutRealRobot temporaryId = .ok (found, game')) :
    Edits event game [] [] game' := by
  rcases Game.getRobotWithoutRealRobot_ok h with
    ⟨_, _, _, _, _, rfl⟩ | ⟨name, r, _, hr, _, _, rfl⟩ | ⟨_, _, _, rfl⟩
  · exact .refl
  · have hmem : name ∈ game.robots := Std.ExtTreeMap.mem_iff_isSome_getElem?.mpr (by simp [hr])
    exact .single (.register temporaryId hmem)
  · exact .refl

theorem Edits.register (channel : Channel) (clientId : Str) (register : Register) :
    Edits event game [] [] (ProcessRegister.execute channel clientId register game).game := by
  unfold ProcessRegister.execute
  split
  · exact .refl
  · next r game' h =>
    have hfound : Edits event game [] [] game' := .getRobotWithoutRealRobot h
    have hmod := hfound.quiet (.modifyRobot r (.register register.videoUrl))
    dsimp only
    split <;> exact hmod
  · next h => exact Edits.getRobotWithoutRealRobot h

section
variable {scan scan' : ProcessRobotState.Scan} {destination : Str}

@[simp] theorem ProcessRobotState.visit_game (item : ItemRef) :
    (scan.visit item).game = scan.game := by
  unfold ProcessRobotState.Scan.visit; split <;> rfl

@[simp] theorem ProcessRobotState.visit_calls (item : ItemRef) :
    (scan.visit item).calls = scan.calls := by
  unfold ProcessRobotState.Scan.visit; split <;> rfl

def Edits.Scanned (event : Event) (game : Game) (scan : ProcessRobotState.Scan) : Prop :=
  Edits event game scan.calls [] scan.game

theorem Edits.Scanned.visit (h : Edits.Scanned event game scan) (item : ItemRef) :
    Edits.Scanned event game (scan.visit item) := by
  simpa [Edits.Scanned] using h

theorem Edits.Scanned.call (h : Edits.Scanned event game scan) {call : ContactCall}
    (hcall : scan.call call = .ok scan') : Edits.Scanned event game scan' := by
  simp only [ProcessRobotState.Scan.call, bind_eq_ok, pure_eq_ok] at hcall
  obtain ⟨game₁, hcontact, rfl⟩ := hcall
  simpa [Edits.Scanned] using h.tail (.contact hcontact)

theorem Edits.Scanned.lookForRfid (h : Edits.Scanned event game scan) {rfid : Rfid}
    (hlook : ProcessRobotState.lookForRfid destination scan rfid = .ok scan') :
    Edits.Scanned event game scan' := by
  unfold ProcessRobotState.lookForRfid at hlook
  split at hlook
  · cases hlook; exact h
  · next item _ => split at hlook <;> exact (h.visit item).call hlook

theorem Edits.Scanned.lookForColour (h : Edits.Scanned event game scan) {colour : Colour}
    (hlook : ProcessRobotState.lookForColour destination scan colour = .ok scan') :
    Edits.Scanned event game scan' := by
  unfold ProcessRobotState.lookForColour at hlook
  split at hlook
  · cases hlook; exact h
  · next detector hdetector =>
    simp only [bind_eq_ok, pure_eq_ok] at hlook
    obtain ⟨scan₁, hcalls, rfl⟩ := hlook
    have hread : Edits.Scanned event game { scan with game := { scan.game with
        flagDetectorsByRobot := scan.game.flagDetectorsByRobot.insert destination
          (detector.setColour scan.game.items.getItemByColour
            (scan.game.robot detector.robot).robotId colour.colour).detector } } :=
      h.quiet (.detector _ hdetector (FlagDetector.setColour_robot ..))
    have hscan₁ := Lib.foldlM_invariant (Edits.Scanned event game)
      (fun _ _ _ hs hcall => hs.call hcall) hread hcalls
    split
    · exact hscan₁.visit _
    · exact hscan₁

theorem Edits.robotState (env : Externals) (destination : Str) (message : ServerRobotState) :
    Edits event game (ProcessRobotState.execute env destination message game).calls []
      (ProcessRobotState.execute env destination message game).game := by
  unfold ProcessRobotState.execute
  split
  · exact .refl
  · dsimp only
    split
    · exact .refl
    · next scan h =>
      simp only [bind_eq_ok] at h
      obtain ⟨scan₁, h₁, h₂⟩ := h
      have hstart : Edits.Scanned event game { game } := Edits.refl
      have hrfid := Lib.foldlM_invariant (Edits.Scanned event game)
        (fun _ _ _ hs hlook => hs.lookForRfid hlook) hstart h₁
      exact Lib.foldlM_invariant (Edits.Scanned event game)
        (fun _ _ _ hs hlook => hs.lookForColour hlook) hrfid h₂

end

theorem ProcessHello.execute_calls (env : Externals) (channel : Channel) (clientId : Str)
    (hello : Hello) (localTime : Ptime) :
    (ProcessHello.execute env channel clientId hello localTime game).calls = [] := by
  unfold ProcessHello.execute ProcessHello.executeWith
  dsimp only
  repeat' split
  all_goals rfl

theorem ProcessRegister.execute_calls (channel : Channel) (clientId : Str) (register : Register) :
    (ProcessRegister.execute channel clientId register game).calls = [] := by
  unfold ProcessRegister.execute
  dsimp only
  repeat' split
  all_goals rfl

theorem Edits.input (destination : Str) (input : Input) :
    Edits event game (ProcessInput.execute destination input game).calls []
      (ProcessInput.execute destination input game).game := by
  unfold ProcessInput.execute
  split
  · split <;> exact .refl
  · exact .refl

theorem Edits.process (env : Externals) (message : RawMessage) (channel : Channel)
    (localTime : Instant) :
    Edits event game (ProcessDecider.process env message channel localTime game).calls []
      (ProcessDecider.process env message channel localTime game).game := by
  unfold ProcessDecider.process
  split
  · rw [ProcessHello.execute_calls]
    exact .hello env channel message.routingId _ (.at localTime)
  · split
    · exact .input message.routingId _
    · split
      · exact .robotState env message.routingId _
      · split
        · exact .refl
        · split
          · exact .refl
          · split
            · rw [ProcessRegister.execute_calls]
              exact .register channel message.routingId _
            · exact .refl

-- ---------------------------------------------------------------------------
-- Agent commands, calls, events
-- ---------------------------------------------------------------------------

theorem Edits.modifyRobotNamed {name : Str} {f : Robot → Robot} (hf : KeepsRobot f) :
    Edits event game [] [] (AgentProxy.modifyRobotNamed name f game) := by
  unfold AgentProxy.modifyRobotNamed
  split
  · next r _ => exact .single (.modifyRobot r hf)
  · exact .refl

theorem Edits.modifyPlayerNamed {name : Str} {f : Player → Player} (hf : KeepsPlayer f) :
    Edits event game [] [] (AgentProxy.modifyPlayerNamed name f game) := by
  unfold AgentProxy.modifyPlayerNamed
  split
  · next p _ => exact .single (.modifyPlayer p hf)
  · exact .refl

theorem Edits.setTeam (env : Externals) (teamName property value : Str) (h : event.SetsScore) :
    Edits event game [] [] (AgentProxy.setTeam env teamName property value game) := by
  unfold AgentProxy.setTeam
  split
  · exact .refl
  · next t _ =>
    split
    · exact .refl
    · split
      · split
        · next score _ => exact .single (.setScore t score h)
        · exact .refl
      · exact .refl

@[simp] theorem Application.popPort_game (app : Application) : app.popPort.2.game = app.game := by
  unfold Application.popPort
  split <;> rfl

@[simp] theorem Application.popPort_state (app : Application) :
    app.popPort.2.state = app.state := by
  unfold Application.popPort
  split <;> rfl

@[simp] theorem Application.popTwoPorts_state (leftFirst : Bool) (app : Application) :
    (app.popTwoPorts leftFirst).2.2.state = app.state := by
  unfold Application.popTwoPorts
  cases leftFirst <;> simp

@[simp] theorem Application.popTwoPorts_game (leftFirst : Bool) (app : Application) :
    (app.popTwoPorts leftFirst).2.2.game = app.game := by
  unfold Application.popTwoPorts
  cases leftFirst <;> simp

theorem AgentProxy.addRobot_game {leftFirst : Bool} {app app' : Application}
    {robotName teamName : Str}
    (h : AgentProxy.addRobot leftFirst robotName teamName app = .ok app') :
    ∃ added port commandPort,
      app.game.addRobot robotName teamName port commandPort [] = .ok (added, app'.game) := by
  simp only [AgentProxy.addRobot, bind_eq_ok, pure_eq_ok, Prod.exists,
    Application.popTwoPorts_game] at h
  obtain ⟨added, game, hadd, rfl⟩ := h
  exact ⟨added, _, _, hadd⟩

theorem Edits.agent {env : Externals} {localTime : Instant} {app app' : Application}
    {command : Command} (h : AgentProxy.apply env localTime app command = .ok app') :
    Edits (.agent command localTime) app.game [] [] app'.game := by
  cases command with
  | stopApplication =>
    cases h
    unfold Application.stop
    split
    · exact .single .stop
    · exact .refl
  | addTeam name => cases h; exact .single (.addTeam name)
  | removeTeam name => cases h; exact .single (.removeTeam name)
  | setTeam name property value => cases h; exact .setTeam env name property value trivial
  | addRobot name teamName =>
    obtain ⟨_, _, _, hadd⟩ := AgentProxy.addRobot_game h
    exact .single (.addRobot hadd)
  | removeRobot name => cases h; exact .single (.removeRobot name rfl)
  | registerRobot name =>
    cases h; exact .modifyRobotNamed ⟨fun _ => rfl, fun _ => rfl, fun _ => rfl, fun _ => rfl⟩
  | unregisterRobot name =>
    cases h; exact .modifyRobotNamed ⟨fun _ => rfl, fun _ => rfl, fun _ => rfl, fun _ => rfl⟩
  | setRobot name property value =>
    cases h
    unfold AgentProxy.setRobot
    split
    · exact .modifyRobotNamed ⟨fun _ => rfl, fun _ => rfl, fun _ => rfl, fun _ => rfl⟩
    · exact .refl
  | addPlayer name => cases h; exact .single (.addPlayer name)
  | removePlayer name => cases h; exact .single (.removePlayer name rfl)
  | setPlayer name property value =>
    cases h
    unfold AgentProxy.setPlayer
    split
    · exact .modifyPlayerNamed (.setAddress value)
    · exact .refl
  | startGame => cases h; exact .single (.start true none (.at localTime))
  | stopGame => cases h; exact .single .stop
  | setGame property value =>
    cases h
    unfold AgentProxy.setGame
    split
    · exact .single (.setDuration (seconds value))
    · exact .refl

theorem Edits.call {call : GameCall} {output : Output}
    (h : call.apply game = .ok (game', output)) :
    Edits (.call call) game output.calls output.steps game' := by
  cases call with
  | addTeam name => cases h; exact .single (.addTeam name)
  | removeTeam name => cases h; exact .single (.removeTeam name)
  | addRobot name teamName port commandPort robotId =>
    obtain ⟨_, hadd, rfl⟩ := GameCall.apply_addRobot.mp h
    exact .single (.addRobot hadd)
  | removeRobot name => cases h; exact .single (.removeRobot name rfl)
  | addPlayer name => cases h; exact .single (.addPlayer name)
  | removePlayer name => cases h; exact .single (.removePlayer name rfl)
  | createItem type name rfids colourCode =>
    cases h; exact .single (.createItem type name rfids colourCode)
  | start forceStop forced localTime =>
    cases h; exact .single (.start forceStop forced (.at localTime))
  | stop => cases h; exact .single .stop
  | setTime time => cases h; exact .single (.setTime time)
  | setDuration duration => cases h; exact .single (.setDuration duration)
  | contact call =>
    obtain ⟨hcall, rfl⟩ := GameCall.apply_contact.mp h
    exact .single (.contact hcall)
  | step =>
    obtain ⟨_, hstep, rfl⟩ := GameCall.apply_step.mp h
    exact .single (.step hstep)

/-- Whatever happens, the game changes by edits that show the calls and the
steps of the output. -/
theorem Server.step_edits {env : Externals} {app app' : Application} {output : Output}
    (h : Server.step env app event = .ok (app', output)) :
    Edits event app.game output.calls output.steps app'.game := by
  cases event with
  | clock currentTic => cases h; exact .single (.setTime (.at currentTic))
  | message message channel localTime =>
    obtain ⟨rfl, rfl⟩ := Server.ofOutcome_ok h
    exact .process env message channel localTime
  | agent command localTime =>
    obtain ⟨hagent, rfl⟩ := Server.step_agent.mp h
    exact .agent hagent
  | tic =>
    obtain ⟨-, _, _, hstep, rfl, rfl⟩ | ⟨-, rfl, rfl⟩ := Server.step_tic h
    · exact .single (.step hstep)
    · exact .refl
  | call call =>
    obtain ⟨_, hcall, rfl⟩ := Server.step_call.mp h
    exact .call hcall

end ServerGame
