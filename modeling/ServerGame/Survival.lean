import ServerGame.FreshId
import ServerGame.Proxy.Commands
import ServerGame.Registration
import ServerGame.Relay
import ServerGame.Welcome

/-!
# What the server survives

No exception is caught above the loop, so one that a handler lets out is the
end of the server, and so is a team that is read after it is gone. Three things
lead there later: a video URL without a port, a team removed under its robots,
a robot removed under its registration. Without them every handler and every
tic goes through.
-/

namespace ServerGame

open Lib (bind_eq_ok pure_eq_ok)

variable {env : Externals} {game game' : Game}

-- ---------------------------------------------------------------------------
-- What is harmless
-- ---------------------------------------------------------------------------

def UrlParses (env : Externals) (videoUrl : Str) : Prop :=
  ProcessHello.isNcUrl videoUrl = true →
    (env.lexicalCastUint16 (ProcessHello.splitVideoUrl videoUrl).2).isSome

def Game.TeamIsFree (game : Game) (teamName : Str) : Prop :=
  ∀ t, game.teams[teamName]? = some t → ∀ r, game.robotHeap.Allocated r → (game.robot r).team ≠ t

def Game.RobotIsFree (game : Game) (name : Str) : Prop :=
  ∀ temporaryId : Str, game.registeredRobots[temporaryId]? ≠ some name

def Command.Harmless (env : Externals) (game : Game) : Command → Prop
  | .removeTeam teamName => game.TeamIsFree teamName
  | .addRobot _ _ => game.robots.size < 2 ^ 32
  | .removeRobot name => game.RobotIsFree name
  | .setRobot _ property value => property = "video_url".toList → UrlParses env value
  | _ => True

def GameCall.Harmless (game : Game) : GameCall → Prop
  | .removeTeam teamName => game.TeamIsFree teamName
  | .addRobot _ _ _ _ robotId => robotId = [] → game.robots.size < 2 ^ 32
  | .removeRobot name => game.RobotIsFree name
  | .contact (.isInContactWith robotId item) =>
    robotId ∈ game.robotsById ∧ item < game.items.allItems.length
  | _ => True

def RawMessage.Harmless (env : Externals) (message : RawMessage) : Prop :=
  message.type = "Register".toList →
    UrlParses env (env.parseRegister message.payload).2.videoUrl

def Event.Harmless (env : Externals) (game : Game) : Event → Prop
  | .message raw _ _ => raw.Harmless env
  | .agent command _ => command.Harmless env game
  | .call made => made.Harmless game
  | .clock _ | .tic => True

-- ---------------------------------------------------------------------------
-- What the handlers rely on
-- ---------------------------------------------------------------------------

/-- Every pointer a handler or a tic follows leads to something. -/
structure Steady (env : Externals) (game : Game) : Prop where
  names : ∀ {temporaryId name : Str}, game.registeredRobots[temporaryId]? = some name →
    name ∈ game.robots
  robotId : ∀ {name : Str} {r}, game.robots[name]? = some r → (game.robot r).robotId ≠ []
  allocated : ∀ {name : Str} {r}, game.robots[name]? = some r → game.robotHeap.Allocated r
  byId : ∀ {id : Str} {r}, game.robotsById[id]? = some r → game.robotHeap.Allocated r
  teamIsAlive : ∀ {r}, game.robotHeap.Allocated r → game.teamIsAlive (game.robot r).team = true
  pending : ∀ {id : Str} {c}, game.contacts[id]? = some c → c.finished = false ∧
    c.item < game.items.allItems.length ∧ game.robotHeap.Allocated c.robot
  videoUrl : ∀ r, UrlParses env (game.robot r).videoUrl

theorem Steady.enrolled (h : Steady env game) : Enrolled game where
  names := h.names
  allocated := h.allocated
  teamIsAlive hr := h.teamIsAlive (h.allocated hr)
  robotId := h.robotId

theorem Steady.videoOf (h : Steady env game) (r : RobotRef) :
    (ProcessHello.videoOf env (game.robot r)).isSome :=
  videoOf_isSome.mpr (h.videoUrl r)

theorem Steady.create (env : Externals) (gameDuration : Int) (ruleset : Ruleset) :
    Steady env (Game.create gameDuration ruleset) where
  names h := by simp [Game.create] at h
  robotId h := by simp [Game.create] at h
  allocated h := by simp [Game.create] at h
  byId h := by simp [Game.create] at h
  teamIsAlive h := by cases h
  pending h := by simp [Game.create] at h
  videoUrl _ h := by cases h

structure SameGround (game game' : Game) : Prop where
  robots : game'.robots = game.robots
  robotsById : game'.robotsById = game.robotsById
  registeredRobots : game'.registeredRobots = game.registeredRobots
  teams : game'.teams = game.teams
  contacts : game'.contacts = game.contacts
  items : game'.items.allItems.length = game.items.allItems.length
  robotNext : game'.robotHeap.next = game.robotHeap.next
  robotId : ∀ r, (game'.robot r).robotId = (game.robot r).robotId
  robotTeam : ∀ r, (game'.robot r).team = (game.robot r).team
  videoUrl : ∀ r, (game'.robot r).videoUrl = (game.robot r).videoUrl

theorem SameGround.refl (game : Game) : SameGround game game :=
  ⟨rfl, rfl, rfl, rfl, rfl, rfl, rfl, fun _ => rfl, fun _ => rfl, fun _ => rfl⟩

theorem SameGround.trans {g₁ g₂ g₃ : Game} (h : SameGround g₁ g₂) (h' : SameGround g₂ g₃) :
    SameGround g₁ g₃ where
  robots := h'.robots.trans h.robots
  robotsById := h'.robotsById.trans h.robotsById
  registeredRobots := h'.registeredRobots.trans h.registeredRobots
  teams := h'.teams.trans h.teams
  contacts := h'.contacts.trans h.contacts
  items := h'.items.trans h.items
  robotNext := h'.robotNext.trans h.robotNext
  robotId r := (h'.robotId r).trans (h.robotId r)
  robotTeam r := (h'.robotTeam r).trans (h.robotTeam r)
  videoUrl r := (h'.videoUrl r).trans (h.videoUrl r)

theorem SameGround.allocated (h : SameGround game game') {r : RobotRef} :
    game'.robotHeap.Allocated r ↔ game.robotHeap.Allocated r := by
  unfold Lib.Heap.Allocated
  rw [h.robotNext]

theorem Steady.same (hs : Steady env game) (h : SameGround game game') : Steady env game' where
  names hname := h.robots ▸ hs.names (h.registeredRobots ▸ hname)
  robotId {_ r} hr := by
    rw [h.robotId]
    exact hs.robotId (h.robots ▸ hr)
  allocated hr := h.allocated.mpr (hs.allocated (h.robots ▸ hr))
  byId hr := h.allocated.mpr (hs.byId (h.robotsById ▸ hr))
  teamIsAlive {r} hr := by
    rw [h.robotTeam, Game.teamIsAlive, h.teams]
    exact hs.teamIsAlive (h.allocated.mp hr)
  pending hc := by
    obtain ⟨hfinished, hitem, hrobot⟩ := hs.pending (h.contacts ▸ hc)
    exact ⟨hfinished, h.items ▸ hitem, h.allocated.mpr hrobot⟩
  videoUrl r := by
    rw [h.videoUrl]
    exact hs.videoUrl r

-- ---------------------------------------------------------------------------
-- Play
-- ---------------------------------------------------------------------------

theorem SameGround.resetScores : SameGround game game.resetScores :=
  ⟨rfl, rfl, rfl, rfl, rfl, rfl, rfl, fun _ => rfl, fun _ => rfl, fun _ => rfl⟩

theorem SameGround.stop : SameGround game game.stop := by
  unfold Game.stop
  split
  · exact ⟨rfl, rfl, rfl, rfl, rfl, by simp, rfl, fun _ => rfl, fun _ => rfl, fun _ => rfl⟩
  · exact .refl game

theorem SameGround.start (forceStop : Bool) (forced : Option Ptime) (localTime : Ptime) :
    SameGround game (game.start forceStop forced localTime) := by
  cases forceStop with
  | true =>
    have hwinner : SameGround game { game with winner := none } :=
      ⟨rfl, rfl, rfl, rfl, rfl, rfl, rfl, fun _ => rfl, fun _ => rfl, fun _ => rfl⟩
    have hstop := (hwinner.trans SameGround.resetScores).trans SameGround.stop
    rw [Game.start_true]
    exact hstop.trans
      ⟨rfl, rfl, rfl, rfl, rfl, rfl, rfl, fun _ => rfl, fun _ => rfl, fun _ => rfl⟩
  | false =>
    unfold Game.start
    simp only [Bool.false_eq_true, ↓reduceIte]
    split
    · exact .refl game
    · exact ⟨rfl, rfl, rfl, rfl, rfl, rfl, rfl, fun _ => rfl, fun _ => rfl, fun _ => rfl⟩

theorem SameGround.addPlayer (name : Str) : SameGround game (game.addPlayer name).2 := by
  unfold Game.addPlayer
  split
  · exact .refl game
  · exact ⟨rfl, rfl, rfl, rfl, rfl, rfl, rfl, fun _ => rfl, fun _ => rfl, fun _ => rfl⟩

theorem SameGround.removePlayer (name : Str) : SameGround game (game.removePlayer name).2 := by
  unfold Game.removePlayer
  split
  · exact ⟨rfl, rfl, rfl, rfl, rfl, rfl, rfl, fun _ => rfl, fun _ => rfl, fun _ => rfl⟩
  · exact .refl game

theorem SameGround.link (p : PlayerRef) (r : RobotRef) : SameGround game (game.link p r) := by
  have hfield {α : Type} (field : Robot → α)
      (hf : ∀ robot, field { robot with player := some p } = field robot) (r' : RobotRef) :
      field ((game.link p r).robot r') = field (game.robot r') := by
    rw [Game.link_robot]
    split
    · next h => rw [hf, h]
    · rfl
  exact ⟨rfl, rfl, rfl, rfl, rfl, rfl, rfl, hfield Robot.robotId fun _ => rfl,
    hfield Robot.team fun _ => rfl, hfield Robot.videoUrl fun _ => rfl⟩

theorem SameGround.startIfReady (hello : Hello) (localTime : Ptime) :
    SameGround game (ProcessHello.startIfReady hello localTime game) := by
  rw [ProcessHello.startIfReady_eq]
  split
  · split
    · exact .start true none localTime
    · exact .refl game
  · exact .refl game

theorem SameGround.setAddressOf {hello : Hello}
    (h : ProcessHello.setAddressOf hello game = .ok game') : SameGround game game' := by
  unfold ProcessHello.setAddressOf at h
  split at h
  · cases h
    exact .refl game
  · simp only [bind_eq_ok, pure_eq_ok] at h
    obtain ⟨p, -, rfl⟩ := h
    exact ⟨rfl, rfl, rfl, rfl, rfl, rfl, rfl, fun _ => rfl, fun _ => rfl, fun _ => rfl⟩

theorem SameGround.hello (env : Externals) (channel : Channel) (clientId : Str) (hello : Hello)
    (localTime : Ptime) :
    SameGround game (ProcessHello.execute env channel clientId hello localTime game).game := by
  have hadd : SameGround game (game.addPlayer hello.name).2 := .addPlayer hello.name
  unfold ProcessHello.execute ProcessHello.executeWith
  dsimp only
  split
  · split
    · next r _ =>
      split
      · exact hadd
      · next p _ =>
        have hlink := hadd.trans (.link p r)
        split
        · exact hlink
        · have hstart := hlink.trans (.startIfReady hello localTime)
          split
          · exact hstart
          · next haddress => exact hstart.trans (.setAddressOf haddress)
    · split
      · exact hadd
      · next haddress => exact hadd.trans (.setAddressOf haddress)
  · exact hadd

theorem Steady.handleContactCall (hs : Steady env game) {call : ContactCall}
    (h : game.handleContactCall call = .ok game') : Steady env game' := by
  have hlength := (SameTables.contact h).length
  have hframe := Game.handleContactCall_frame h
  have hpending : ∀ {id : Str} {c}, game'.contacts[id]? = some c → c.finished = false ∧
      c.item < game'.items.allItems.length ∧ game.robotHeap.Allocated c.robot := by
    intro id c hc
    rw [hlength]
    cases call with
    | isInContactWith robotId item =>
      obtain ⟨r, hr, -, hitem, rfl⟩ := Game.robotIsInContactWith_ok.mp h
      rw [Game.recordContact_contacts] at hc
      rcases Std.ExtTreeMap.getElem?_insert_eq_some.mp hc with ⟨-, rfl⟩ | ⟨-, hold⟩
      · exact ⟨rfl, hitem, hs.byId hr⟩
      · exact hs.pending hold
    | dropsContactWith robotId item =>
      cases h
      rw [Game.robotDropsContactWith_contacts] at hc
      exact hs.pending (Std.ExtTreeMap.getElem?_erase_eq_some.mp hc).2
  rw [hframe]
  exact { hs with pending := hpending }

theorem Steady.step (hs : Steady env game) {steps : List Game.ContactStep}
    (h : game.step = .ok (steps, game')) : Steady env game' := by
  have hroster := SameRoster.step h
  have hstage := SameStage.step h
  have hregistered : game'.registeredRobots = game.registeredRobots := by
    refine Game.step_invariant (fun g => g.registeredRobots = game.registeredRobots)
      (fun g t item c g' hg hc => ?_) (fun _ _ hg => hg) (fun g hg => ?_) (fun _ _ hg => hg) h rfl
    · rw [Game.captureItem_frame hc]
      exact hg
    · exact SameGround.stop.registeredRobots.trans hg
  have hrobot : ∀ r, game'.robot r = game.robot r := fun r => by
    rw [Game.robot, hroster.robotHeap]
    rfl
  refine ⟨fun hname => ?_, fun hr => ?_, fun hr => ?_, fun hr => ?_, fun {r} hr => ?_,
    fun hc => ?_, fun r => ?_⟩
  · exact hroster.robots ▸ hs.names (hregistered ▸ hname)
  · rw [hrobot]
    exact hs.robotId (hroster.robots ▸ hr)
  · rw [hroster.robotHeap]
    exact hs.allocated (hroster.robots ▸ hr)
  · rw [hroster.robotHeap]
    exact hs.byId (hstage.robotsById ▸ hr)
  · rw [hrobot, Game.teamIsAlive, hroster.teams]
    exact hs.teamIsAlive (hroster.robotHeap ▸ hr)
  · obtain ⟨hfinished, hitem, hcontact⟩ := hs.pending ((Game.step_contacts_iff h).mp hc).1
    exact ⟨hfinished, hstage.items ▸ hitem, hroster.robotHeap ▸ hcontact⟩
  · rw [hrobot]
    exact hs.videoUrl r

theorem Steady.step_total (hs : Steady env game) : ∃ steps game', game.step = .ok (steps, game') :=
  Game.step_total fun _ _ hc => by
    obtain ⟨hfinished, hitem, hrobot⟩ := hs.pending hc
    exact ⟨hfinished, hitem, hs.teamIsAlive hrobot⟩

-- ---------------------------------------------------------------------------
-- The roster
-- ---------------------------------------------------------------------------

theorem Game.addTeam_teamIsAlive (name : Str) {t : TeamRef} (h : game.teamIsAlive t = true) :
    (game.addTeam name).2.teamIsAlive t = true := by
  unfold Game.addTeam
  split
  · exact h
  · next hnew =>
    obtain ⟨teamName, ht⟩ := Game.teamIsAlive_iff.mp h
    have hne : name ≠ teamName := by
      rintro rfl
      exact hnew (Std.ExtTreeMap.mem_iff_isSome_getElem?.mpr (by simp [ht]))
    exact Game.teamIsAlive_iff.mpr
      ⟨teamName, Std.ExtTreeMap.getElem?_insert_eq_some.mpr (.inr ⟨hne, ht⟩)⟩

theorem Steady.addTeam (hs : Steady env game) (name : Str) : Steady env (game.addTeam name).2 := by
  have halive : ∀ {r}, game.robotHeap.Allocated r →
      (game.addTeam name).2.teamIsAlive (game.robot r).team = true :=
    fun hr => Game.addTeam_teamIsAlive name (hs.teamIsAlive hr)
  unfold Game.addTeam at halive ⊢
  split
  · exact hs
  · next hnew =>
    rw [if_neg hnew] at halive
    exact { hs with teamIsAlive := halive }

theorem Steady.removeTeam (hs : Steady env game) {name : Str} (hfree : game.TeamIsFree name) :
    Steady env (game.removeTeam name).2 := by
  unfold Game.removeTeam
  split
  · refine { hs with teamIsAlive := fun {r} hr => ?_ }
    obtain ⟨teamName, ht⟩ := Game.teamIsAlive_iff.mp (hs.teamIsAlive hr)
    have hne : name ≠ teamName := by
      rintro rfl
      exact hfree _ ht r hr rfl
    exact Game.teamIsAlive_iff.mpr
      ⟨teamName, Std.ExtTreeMap.getElem?_erase_eq_some.mpr ⟨hne, ht⟩⟩
  · exact hs

theorem Steady.insertRobot (hs : Steady env game) {name teamName robotId : Str} {team : TeamRef}
    (ht : game.teams[teamName]? = some team) (hid : robotId ≠ []) (port commandPort : UInt16) :
    Steady env (game.insertRobot name team port commandPort robotId) := by
  have he : Enrolled (game.insertRobot name team port commandPort robotId) :=
    hs.enrolled.insertRobot ht hid port commandPort
  refine ⟨he.names, he.robotId, he.allocated, fun hr => ?_, fun {r} hr => ?_, fun hc => ?_,
    fun r => ?_⟩
  · rcases Std.ExtTreeMap.getElem?_insertIfNew_eq_some.mp hr with ⟨-, -, rfl⟩ | hr
    · exact Lib.Heap.allocated_fresh _ _
    · exact (hs.byId hr).alloc _
  · by_cases hfresh : r = game.robotHeap.fresh
    · subst hfresh
      exact Game.teamIsAlive_iff.mpr
        ⟨teamName, by simpa [Game.insertRobot, Game.robot] using ht⟩
    · rw [Game.insertRobot_robot_of_ne hfresh]
      refine hs.teamIsAlive (Nat.lt_of_le_of_ne (Nat.le_of_lt_succ hr) fun haddr => hfresh ?_)
      exact Lib.Ref.ext haddr
  · obtain ⟨hfinished, hitem, hrobot⟩ := hs.pending hc
    exact ⟨hfinished, hitem, hrobot.alloc _⟩
  · by_cases hfresh : r = game.robotHeap.fresh
    · subst hfresh
      rw [Game.insertRobot_robot_fresh]
      exact fun hnc => by cases hnc
    · rw [Game.insertRobot_robot_of_ne hfresh]
      exact hs.videoUrl r

theorem Steady.addRobot (hs : Steady env game) {name teamName robotId : Str}
    {port commandPort : UInt16} {added : Bool}
    (h : game.addRobot name teamName port commandPort robotId = .ok (added, game')) :
    Steady env game' := by
  rcases Game.addRobot_ok h with ⟨-, rfl⟩ | ⟨id, t, -, -, hid, ht, rfl⟩
  · exact hs
  · refine hs.insertRobot ht ?_ port commandPort
    rcases Game.chooseRobotId_ok.mp hid with ⟨-, hnew⟩ | ⟨hne, rfl⟩
    · exact (Game.getNewRobotIdLoop_unused hnew).2
    · exact hne

theorem Steady.removeRobot (hs : Steady env game) {name : Str} (hfree : game.RobotIsFree name) :
    Steady env (game.removeRobot name).2 := by
  have he := hs.enrolled.removeRobot hfree
  unfold Game.removeRobot at he ⊢
  split
  · next hmem =>
    rw [if_pos hmem] at he
    exact { hs with names := he.names, robotId := he.robotId, allocated := he.allocated }
  · exact hs

theorem Steady.modifyRobot (hs : Steady env game) (r : RobotRef) {f : Robot → Robot}
    (hteam : ∀ robot, (f robot).team = robot.team)
    (hid : ∀ robot, (f robot).robotId = robot.robotId)
    (hurl : ∀ robot, UrlParses env robot.videoUrl → UrlParses env (f robot).videoUrl) :
    Steady env (game.modifyRobot r f) := by
  have he := hs.enrolled.modifyRobot r hteam hid
  refine ⟨he.names, he.robotId, he.allocated, hs.byId, fun {r'} hr => ?_, hs.pending,
    fun r' => ?_⟩
  · have hsame : ((game.modifyRobot r f).robot r').team = (game.robot r').team :=
      Lib.Heap.get_modify_field hteam
    rw [hsame]
    exact hs.teamIsAlive hr
  · rw [Game.robot, Game.modifyRobot, Lib.Heap.get_modify]
    split
    · exact hurl _ (hs.videoUrl r)
    · exact hs.videoUrl r'

theorem Steady.modifyRobotNamed (hs : Steady env game) (name : Str) {f : Robot → Robot}
    (hteam : ∀ robot, (f robot).team = robot.team)
    (hid : ∀ robot, (f robot).robotId = robot.robotId)
    (hurl : ∀ robot, UrlParses env robot.videoUrl → UrlParses env (f robot).videoUrl) :
    Steady env (AgentProxy.modifyRobotNamed name f game) := by
  unfold AgentProxy.modifyRobotNamed
  split
  · exact hs.modifyRobot _ hteam hid hurl
  · exact hs

theorem Steady.createItem (hs : Steady env game) (type name : Str)
    (rfids : Std.ExtTreeSet Str compare) (colourCode : Int) :
    Steady env { game with
      items := (game.items.createItem type name rfids colourCode game.ruleset).2 } := by
  have hgrows := (created game.items { name, type, rfids, colour := colourCode }
    game.ruleset).grows.length
  refine { hs with pending := fun hc => ?_ }
  obtain ⟨hfinished, hitem, hrobot⟩ := hs.pending hc
  exact ⟨hfinished, hitem.trans_le hgrows, hrobot⟩

-- ---------------------------------------------------------------------------
-- The messages
-- ---------------------------------------------------------------------------

theorem Steady.getRobotWithoutRealRobot (hs : Steady env game) {temporaryId : Str}
    {found : Option RobotRef}
    (h : game.getRobotWithoutRealRobot temporaryId = .ok (found, game')) : Steady env game' := by
  rcases Game.getRobotWithoutRealRobot_ok h with
    ⟨_, _, _, _, _, rfl⟩ | ⟨name, r, _, hr, _, _, rfl⟩ | ⟨_, _, _, rfl⟩
  · exact hs
  · have hmem : name ∈ game.robots := Std.ExtTreeMap.mem_iff_isSome_getElem?.mpr (by simp [hr])
    exact { hs with names := (hs.enrolled.register hmem temporaryId).names }
  · exact hs

theorem Steady.register (hs : Steady env game) (channel : Channel) (clientId : Str)
    {register : Register} (hurl : UrlParses env register.videoUrl) :
    (ProcessRegister.execute channel clientId register game).escaped = none ∧
      Steady env (ProcessRegister.execute channel clientId register game).game := by
  refine ⟨(hs.enrolled.execute channel clientId register).1.1, ?_⟩
  unfold ProcessRegister.execute
  split
  · exact hs
  · next r game' h =>
    have hregistered := (hs.getRobotWithoutRealRobot h).modifyRobot r
      (f := Robot.register register.videoUrl) (fun _ => rfl) (fun _ => rfl) fun _ _ => hurl
    dsimp only
    split <;> exact hregistered
  · next h => exact hs.getRobotWithoutRealRobot h

theorem Steady.hello (hs : Steady env game) (channel : Channel) (clientId : Str) (hello : Hello)
    (localTime : Ptime) :
    (ProcessHello.execute env channel clientId hello localTime game).escaped = none := by
  obtain ⟨p, -, hcase⟩ := execute_cases env channel clientId hello localTime game
  cases hcase with
  | refused _ hescaped => exact hescaped
  | stopped r _ hvideo =>
    have hsome := hs.videoOf r
    rw [addPlayer_robot] at hvideo
    rw [hvideo] at hsome
    cases hsome
  | welcomed _ _ _ _ hescaped => exact hescaped

section
variable {scan scan' : ProcessRobotState.Scan} {destination : Str}

theorem Steady.call (hs : Steady env scan.game) {call : ContactCall}
    (hcall : scan.call call = .ok scan') : Steady env scan'.game := by
  simp only [ProcessRobotState.Scan.call, bind_eq_ok, pure_eq_ok] at hcall
  obtain ⟨game₁, hcontact, rfl⟩ := hcall
  exact hs.handleContactCall hcontact

theorem Steady.visit (hs : Steady env scan.game) (item : ItemRef) :
    Steady env (scan.visit item).game := by
  rw [ProcessRobotState.visit_game]
  exact hs

theorem Steady.lookForRfid (hs : Steady env scan.game) {rfid : Rfid}
    (h : ProcessRobotState.lookForRfid destination scan rfid = .ok scan') :
    Steady env scan'.game := by
  unfold ProcessRobotState.lookForRfid at h
  split at h
  · cases h
    exact hs
  · next item _ => split at h <;> exact (hs.visit item).call h

theorem Steady.lookForColour (hs : Steady env scan.game) {colour : Colour}
    (h : ProcessRobotState.lookForColour destination scan colour = .ok scan') :
    Steady env scan'.game := by
  unfold ProcessRobotState.lookForColour at h
  split at h
  · cases h
    exact hs
  · next detector _ =>
    simp only [bind_eq_ok, pure_eq_ok] at h
    obtain ⟨scan₁, hcalls, rfl⟩ := h
    have hread : Steady env { scan.game with
        flagDetectorsByRobot := scan.game.flagDetectorsByRobot.insert destination
          (detector.setColour scan.game.items.getItemByColour
            (scan.game.robot detector.robot).robotId colour.colour).detector } :=
      { hs with }
    have hscan₁ := Lib.foldlM_invariant (fun scan => Steady env scan.game)
      (fun _ _ _ hs hcall => hs.call hcall) hread hcalls
    split
    · exact hscan₁.visit _
    · exact hscan₁

theorem Steady.robotState (hs : Steady env game) (hsound : game.items.Sound)
    (hnamed : DetectorsNamed game) (destination : Str) (message : ServerRobotState) :
    (ProcessRobotState.execute env destination message game).escaped = none ∧
      Steady env (ProcessRobotState.execute env destination message game).game := by
  by_cases hid : game.getHasRobotById destination = true
  · obtain ⟨_, hscan⟩ := ProcessRobotState.Part.scan hsound hnamed destination message
    have hteam : game.HasRobotOnTeam destination := by
      have hmem := Std.ExtTreeMap.mem_iff_contains.mpr hid
      have hr := Std.ExtTreeMap.getElem?_eq_some_getElem hmem
      exact ⟨_, hr, hs.teamIsAlive (hs.byId hr)⟩
    obtain ⟨scan, hok, -⟩ := hscan.runs (fun _ => hteam) { game }
      (ProcessRobotState.scanned_start game) rfl
    have hrun := hok
    simp only [bind_eq_ok] at hrun
    obtain ⟨scan₁, hrfid, hcolour⟩ := hrun
    have hs₁ := Lib.foldlM_invariant (fun scan => Steady env scan.game)
      (fun _ _ _ hs hlook => hs.lookForRfid hlook) hs hrfid
    have hs₂ := Lib.foldlM_invariant (fun scan => Steady env scan.game)
      (fun _ _ _ hs hlook => hs.lookForColour hlook) hs₁ hcolour
    rw [ProcessRobotState.execute_of_ok (Std.ExtTreeMap.mem_iff_contains.mpr hid) hok]
    exact ⟨rfl, hs₂⟩
  · unfold ProcessRobotState.execute
    rw [if_pos hid]
    exact ⟨rfl, hs⟩

end

theorem Steady.process (hs : Steady env game) (hsound : game.items.Sound)
    (hnamed : DetectorsNamed game) {raw : RawMessage} (hraw : raw.Harmless env)
    (channel : Channel) (localTime : Instant) :
    (ProcessDecider.process env raw channel localTime game).escaped = none ∧
      Steady env (ProcessDecider.process env raw channel localTime game).game := by
  unfold ProcessDecider.process
  split
  · exact ⟨hs.hello .., hs.same (.hello ..)⟩
  · split
    · unfold ProcessInput.execute
      split
      · split <;> exact ⟨rfl, hs⟩
      · exact ⟨rfl, hs⟩
    · split
      · exact hs.robotState hsound hnamed _ _
      · split
        · exact ⟨rfl, hs⟩
        · split
          · exact ⟨rfl, hs⟩
          · split
            · next hregister => exact hs.register channel _ (hraw hregister)
            · exact ⟨rfl, hs⟩

-- ---------------------------------------------------------------------------
-- Commands, calls, events
-- ---------------------------------------------------------------------------

theorem Game.getNewRobotId_isSome (h : game.robots.size < 2 ^ 32) :
    game.getNewRobotId.isSome = true := by
  obtain ⟨n, -, hid, -⟩ := Game.getNewRobotId_leastFree h
  rw [hid]
  rfl

theorem Game.addRobot_total {name teamName robotId : Str} {port commandPort : UInt16}
    (h : robotId = [] → game.robots.size < 2 ^ 32) :
    ∃ added, game.addRobot name teamName port commandPort robotId = .ok added := by
  have hid : ∃ id, game.chooseRobotId robotId = .ok id := by
    unfold Game.chooseRobotId
    split
    · next hempty =>
      obtain ⟨id, hid⟩ := Option.isSome_iff_exists.mp
        (Game.getNewRobotId_isSome (h (List.isEmpty_iff.mp hempty)))
      exact ⟨id, by rw [hid]⟩
    · exact ⟨robotId, rfl⟩
  obtain ⟨id, hid⟩ := hid
  unfold Game.addRobot
  split
  · exact ⟨_, rfl⟩
  · rw [hid, Lib.ok_bind]
    cases game.teams[teamName]? <;> exact ⟨_, rfl⟩

theorem SameGround.setTeam (env : Externals) (teamName property value : Str) :
    SameGround game (AgentProxy.setTeam env teamName property value game) := by
  unfold AgentProxy.setTeam
  repeat' split
  all_goals exact ⟨rfl, rfl, rfl, rfl, rfl, rfl, rfl, fun _ => rfl, fun _ => rfl, fun _ => rfl⟩

theorem SameGround.setPlayer (playerName property value : Str) :
    SameGround game (AgentProxy.setPlayer playerName property value game) := by
  unfold AgentProxy.setPlayer AgentProxy.modifyPlayerNamed
  repeat' split
  all_goals exact ⟨rfl, rfl, rfl, rfl, rfl, rfl, rfl, fun _ => rfl, fun _ => rfl, fun _ => rfl⟩

theorem SameGround.setGame (property : Str) (value : UInt32) :
    SameGround game (AgentProxy.setGame property value game) := by
  unfold AgentProxy.setGame
  split <;> exact ⟨rfl, rfl, rfl, rfl, rfl, rfl, rfl, fun _ => rfl, fun _ => rfl, fun _ => rfl⟩

theorem Steady.agent {app : Application} (hs : Steady env app.game) {command : Command}
    (hcommand : command.Harmless env app.game) (localTime : Instant) :
    ∃ app', AgentProxy.apply env localTime app command = .ok app' ∧ Steady env app'.game := by
  cases command with
  | stopApplication =>
    refine ⟨_, rfl, ?_⟩
    unfold Application.stop
    split
    · exact hs.same .stop
    · exact hs
  | addTeam name => exact ⟨_, rfl, hs.addTeam name⟩
  | removeTeam name => exact ⟨_, rfl, hs.removeTeam hcommand⟩
  | setTeam name property value => exact ⟨_, rfl, hs.same (.setTeam env name property value)⟩
  | addRobot name teamName =>
    obtain ⟨app', h⟩ := AgentProxy.addRobot_ok_iff.mpr
      (.inr (Game.getNewRobotId_isSome hcommand) : name ∈ app.game.robots ∨ _)
    obtain ⟨_, _, _, hadd⟩ := AgentProxy.addRobot_game h
    exact ⟨app', h, hs.addRobot hadd⟩
  | removeRobot name => exact ⟨_, rfl, hs.removeRobot hcommand⟩
  | registerRobot name =>
    exact ⟨_, rfl, hs.modifyRobotNamed name (fun _ => rfl) (fun _ => rfl) fun _ hurl => hurl⟩
  | unregisterRobot name =>
    exact ⟨_, rfl, hs.modifyRobotNamed name (fun _ => rfl) (fun _ => rfl) fun _ hurl => hurl⟩
  | setRobot name property value =>
    refine ⟨_, rfl, ?_⟩
    unfold AgentProxy.setRobot
    split
    · next hproperty =>
      exact hs.modifyRobotNamed name (fun _ => rfl) (fun _ => rfl) fun _ _ => hcommand hproperty
    · exact hs
  | addPlayer name => exact ⟨_, rfl, hs.same (.addPlayer name)⟩
  | removePlayer name => exact ⟨_, rfl, hs.same (.removePlayer name)⟩
  | setPlayer name property value => exact ⟨_, rfl, hs.same (.setPlayer name property value)⟩
  | startGame => exact ⟨_, rfl, hs.same (.start true none (.at localTime))⟩
  | stopGame => exact ⟨_, rfl, hs.same .stop⟩
  | setGame property value => exact ⟨_, rfl, hs.same (.setGame property value)⟩

theorem Steady.gameCall (hs : Steady env game) {call : GameCall} (hcall : call.Harmless game) :
    ∃ game' output, call.apply game = .ok (game', output) ∧ Steady env game' ∧
      output.escaped = none := by
  cases call with
  | addTeam name => exact ⟨_, _, rfl, hs.addTeam name, rfl⟩
  | removeTeam name => exact ⟨_, _, rfl, hs.removeTeam hcall, rfl⟩
  | addRobot name teamName port commandPort robotId =>
    obtain ⟨⟨added, game'⟩, hadd⟩ := Game.addRobot_total hcall
    exact ⟨game', _, GameCall.apply_addRobot.mpr ⟨added, hadd, rfl⟩, hs.addRobot hadd, rfl⟩
  | removeRobot name => exact ⟨_, _, rfl, hs.removeRobot hcall, rfl⟩
  | addPlayer name => exact ⟨_, _, rfl, hs.same (.addPlayer name), rfl⟩
  | removePlayer name => exact ⟨_, _, rfl, hs.same (.removePlayer name), rfl⟩
  | createItem type name rfids colourCode =>
    exact ⟨_, _, rfl, hs.createItem type name rfids colourCode, rfl⟩
  | start forceStop forced localTime =>
    exact ⟨_, _, rfl, hs.same (.start forceStop forced (.at localTime)), rfl⟩
  | stop => exact ⟨_, _, rfl, hs.same .stop, rfl⟩
  | setTime time => exact ⟨_, _, rfl, { hs with }, rfl⟩
  | setDuration duration => exact ⟨_, _, rfl, { hs with }, rfl⟩
  | contact call =>
    have hok : ∃ game', game.handleContactCall call = .ok game' := by
      cases call with
      | isInContactWith robotId item =>
        have hr := Std.ExtTreeMap.getElem?_eq_some_getElem hcall.1
        exact ⟨_, Game.robotIsInContactWith_ok.mpr
          ⟨_, hr, hs.teamIsAlive (hs.byId hr), hcall.2, rfl⟩⟩
      | dropsContactWith robotId item => exact ⟨_, rfl⟩
    obtain ⟨game', hok⟩ := hok
    exact ⟨game', _, GameCall.apply_contact.mpr ⟨hok, rfl⟩, hs.handleContactCall hok, rfl⟩
  | step =>
    obtain ⟨steps, game', hstep⟩ := hs.step_total
    exact ⟨game', _, GameCall.apply_step.mpr ⟨steps, hstep, rfl⟩, hs.step hstep, rfl⟩

/-- A state from which everything harmless goes through. -/
structure Safe (env : Externals) (game : Game) : Prop where
  steady : Steady env game
  itemsSound : game.items.Sound
  detectorsNamed : DetectorsNamed game

theorem Safe.create (env : Externals) (gameDuration : Int) (ruleset : Ruleset) :
    Safe env (Game.create gameDuration ruleset) where
  steady := .create env gameDuration ruleset
  itemsSound := .empty
  detectorsNamed id d hd := by simp [Game.create] at hd

theorem Server.ofOutcome_of_none {app : Application} {outcome : Outcome}
    (h : outcome.escaped = none) :
    Server.ofOutcome app outcome =
      .ok ({ app with game := outcome.game },
        { sent := outcome.sent, calls := outcome.calls }) := by
  unfold Server.ofOutcome
  rw [h]

theorem Safe.step {app : Application} (hs : Safe env app.game) (event : Event)
    (hevent : event.Harmless env app.game) :
    ∃ app' output, Server.step env app event = .ok (app', output) ∧ Safe env app'.game ∧
      output.escaped = none := by
  have hgoes : ∃ app' output, Server.step env app event = .ok (app', output) ∧
      Steady env app'.game ∧ output.escaped = none := by
    cases event with
    | clock currentTic => exact ⟨_, _, rfl, { hs.steady with }, rfl⟩
    | message raw channel localTime =>
      obtain ⟨hescaped, hsteady⟩ := hs.steady.process hs.itemsSound hs.detectorsNamed hevent
        channel localTime
      exact ⟨_, _, Server.ofOutcome_of_none hescaped, hsteady, rfl⟩
    | agent command localTime =>
      obtain ⟨app', happly, hsteady⟩ := hs.steady.agent hevent localTime
      exact ⟨app', _, Server.step_agent.mpr ⟨happly, rfl⟩, hsteady, rfl⟩
    | tic =>
      obtain ⟨steps, game', hstep⟩ := hs.steady.step_total
      show ∃ app' output, Server.tic app = .ok (app', output) ∧ _
      unfold Server.tic
      split
      · rw [hstep]
        exact ⟨_, _, rfl, hs.steady.step hstep, rfl⟩
      · exact ⟨_, _, rfl, hs.steady, rfl⟩
    | call call =>
      obtain ⟨game', output, hcall, hsteady, hescaped⟩ := hs.steady.gameCall hevent
      exact ⟨_, output, Server.step_call.mpr ⟨game', hcall, rfl⟩, hsteady, hescaped⟩
  obtain ⟨app', output, hstep, hsteady, hescaped⟩ := hgoes
  have hedits := Server.step_edits hstep
  exact ⟨app', output, hstep,
    ⟨hsteady, hs.itemsSound.edits hedits, hs.detectorsNamed.edits hedits⟩, hescaped⟩

-- ---------------------------------------------------------------------------
-- Runs
-- ---------------------------------------------------------------------------

/-- A run whose events are all harmless where they come goes through to its
end, and no handler lets an exception out. -/
theorem harmless_run_survives (env : Externals) (ports : List UInt16) (gameDuration : Int)
    (ruleset : Ruleset) (events : List Event)
    (hharmless : Lib.AllSteps (Server.step env) (Server.create ports gameDuration ruleset) events
      fun app event => event.Harmless env app.game) :
    ∃ app outputs, Server.run env (Server.create ports gameDuration ruleset) events =
        .ok (app, outputs) ∧ ∀ output ∈ outputs, output.escaped = none := by
  obtain ⟨app, outputs, hrun, -, hescaped⟩ : ∃ app outputs,
      Server.run env (Server.create ports gameDuration ruleset) events = .ok (app, outputs) ∧
        Safe env app.game ∧ ∀ output ∈ outputs, output.escaped = none :=
    Lib.run_total (P := fun _ app => Safe env app.game)
      (fun pre event post app outputs heq hpre hs =>
        hs.step event (hharmless pre event post app outputs heq hpre))
      (Safe.create env gameDuration ruleset)
  exact ⟨app, outputs, hrun, hescaped⟩

def registeredThenPlayed : List Event :=
  oneRobot ++ [.call (.addTeam "B".toList), .message registerMessage .reply 0,
    .agent .startGame 0, .clock 1, .tic, .agent (.setRobot "r1".toList "video_url".toList
      "nc:host:80".toList) 1]

theorem harmless_run_survives_registered :
    ∃ app outputs, Server.run .plain (Server.create [] 0 oneTeam) registeredThenPlayed =
        .ok (app, outputs) ∧ ∀ output ∈ outputs, output.escaped = none := by
  refine harmless_run_survives .plain [] 0 oneTeam registeredThenPlayed ?_
  rintro pre event post app outputs heq -
  have hmem : event ∈ registeredThenPlayed := by simp [heq]
  simp only [registeredThenPlayed, oneRobot, List.mem_append, List.mem_cons, List.not_mem_nil,
    or_false] at hmem
  rcases hmem with (rfl | rfl | rfl) | rfl | rfl | rfl | rfl | rfl | rfl
  · exact trivial
  · exact fun hempty => by cases hempty
  · exact trivial
  · exact trivial
  · exact fun _ hnc => by cases hnc
  · exact trivial
  · exact trivial
  · exact trivial
  · exact fun _ _ => rfl

end ServerGame
