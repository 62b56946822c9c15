import ServerGame.Edits

/-!
# The roster

Which teams, robots and players there are, and which player drives which
robot: every state the server reaches files each of them under its own name
and links them both ways.
-/

namespace ServerGame

variable {event : Event} {game game' : Game} {calls : List ContactCall}
  {steps : List Game.ContactStep}

-- ---------------------------------------------------------------------------
-- Play leaves the roster alone
-- ---------------------------------------------------------------------------

structure SameRoster (game game' : Game) : Prop where
  robots : game'.robots = game.robots
  players : game'.players = game.players
  teams : game'.teams = game.teams
  robotHeap : game'.robotHeap = game.robotHeap
  playerHeap : game'.playerHeap = game.playerHeap
  teamNext : game'.teamHeap.next = game.teamHeap.next
  teamName : ∀ t, (game'.team t).name = (game.team t).name

theorem SameRoster.refl (game : Game) : SameRoster game game :=
  ⟨rfl, rfl, rfl, rfl, rfl, rfl, fun _ => rfl⟩

theorem SameRoster.trans {g₁ g₂ g₃ : Game} (h : SameRoster g₁ g₂) (h' : SameRoster g₂ g₃) :
    SameRoster g₁ g₃ where
  robots := h'.robots.trans h.robots
  players := h'.players.trans h.players
  teams := h'.teams.trans h.teams
  robotHeap := h'.robotHeap.trans h.robotHeap
  playerHeap := h'.playerHeap.trans h.playerHeap
  teamNext := h'.teamNext.trans h.teamNext
  teamName t := (h'.teamName t).trans (h.teamName t)

theorem SameRoster.modifyTeam (t : TeamRef) {f : Team → Team}
    (hf : ∀ team, (f team).name = team.name) : SameRoster game (game.modifyTeam t f) where
  robots := rfl
  players := rfl
  teams := rfl
  robotHeap := rfl
  playerHeap := rfl
  teamNext := rfl
  teamName _ := Lib.Heap.get_modify_field hf

theorem SameRoster.resetScores : SameRoster game game.resetScores where
  robots := rfl
  players := rfl
  teams := rfl
  robotHeap := rfl
  playerHeap := rfl
  teamNext := Game.foldl_resetScore_next
  teamName t := by
    rcases game.resetScores_team t with h | h
    · rw [h, Team.resetScore_name]
    · rw [h]

theorem SameRoster.winner (winner : Option Str) : SameRoster game { game with winner } :=
  ⟨rfl, rfl, rfl, rfl, rfl, rfl, fun _ => rfl⟩

theorem SameRoster.stop : SameRoster game game.stop := by
  unfold Game.stop
  split
  · exact ⟨rfl, rfl, rfl, rfl, rfl, rfl, fun _ => rfl⟩
  · exact .refl game

theorem SameRoster.start (forceStop : Bool) (forced : Option Ptime) (localTime : Ptime) :
    SameRoster game (game.start forceStop forced localTime) := by
  cases forceStop with
  | true =>
    have hstop : SameRoster game { game with winner := none }.resetScores.stop :=
      ((SameRoster.winner none).trans SameRoster.resetScores).trans SameRoster.stop
    rw [Game.start_true]
    exact hstop.trans ⟨rfl, rfl, rfl, rfl, rfl, rfl, fun _ => rfl⟩
  | false =>
    unfold Game.start
    simp only [Bool.false_eq_true, ↓reduceIte]
    split
    · exact .refl game
    · exact ⟨rfl, rfl, rfl, rfl, rfl, rfl, fun _ => rfl⟩

theorem SameRoster.handleContactCall {call : ContactCall}
    (h : game.handleContactCall call = .ok game') : SameRoster game game' := by
  rw [Game.handleContactCall_frame h]
  exact ⟨rfl, rfl, rfl, rfl, rfl, rfl, fun _ => rfl⟩

theorem SameRoster.contacts (contacts : Lib.Map Str Contact) :
    SameRoster game { game with contacts } :=
  ⟨rfl, rfl, rfl, rfl, rfl, rfl, fun _ => rfl⟩

theorem SameRoster.captureItem {t : TeamRef} {item : ItemRef} {c : Game.Capture}
    (h : game.captureItem t item = .ok (c, game')) : SameRoster game game' := by
  obtain ⟨it, _, _, -, rfl⟩ := Game.captureItem_ok.mp h
  refine ⟨rfl, rfl, rfl, rfl, rfl, rfl, fun t' => ?_⟩
  simp only [Game.afterCapture, Game.modifyTeam_team]
  split
  · next ht => rw [ht]; exact Item.capture_name it _
  · rfl

theorem SameRoster.handleContactsLoop {entries : List (Str × Contact)}
    {steps : List Game.ContactStep} (h : game.handleContactsLoop entries = .ok (steps, game')) :
    SameRoster game game' :=
  Game.handleContactsLoop_invariant (SameRoster game)
    (fun _ _ _ _ _ hs hc => hs.trans (.captureItem hc))
    (fun _ contacts hs => hs.trans (.contacts contacts)) h (.refl game)

theorem SameRoster.step {steps : List Game.ContactStep} (h : game.step = .ok (steps, game')) :
    SameRoster game game' :=
  Game.step_invariant (SameRoster game) (fun _ _ _ _ _ hs hc => hs.trans (.captureItem hc))
    (fun _ contacts hs => hs.trans (.contacts contacts)) (fun _ hs => hs.trans .stop)
    (fun _ winner hs => hs.trans (.winner winner)) h (.refl game)

-- ---------------------------------------------------------------------------
-- The invariant
-- ---------------------------------------------------------------------------

/-- Every object is filed under its own name, and a player a robot reports
refers back to that robot. -/
structure WellFormed (game : Game) : Prop where
  robotAllocated : ∀ {name : Str} {r}, game.robots[name]? = some r → game.robotHeap.Allocated r
  robotName : ∀ {name : Str} {r}, game.robots[name]? = some r → (game.robot r).name = name
  playerAllocated : ∀ {name : Str} {p}, game.players[name]? = some p → game.playerHeap.Allocated p
  playerName : ∀ {name : Str} {p}, game.players[name]? = some p → (game.player p).name = name
  teamAllocated : ∀ {name : Str} {t}, game.teams[name]? = some t → game.teamHeap.Allocated t
  teamName : ∀ {name : Str} {t}, game.teams[name]? = some t → (game.team t).name = name
  linkAllocated : ∀ {r p}, (game.robot r).player = some p → game.playerHeap.Allocated p
  linked : ∀ {name playerName : Str} {r p}, game.robots[name]? = some r →
    (game.robot r).player = some p → game.players[playerName]? = some p →
    (game.player p).robot = some r

structure Shrinks (game game' : Game) : Prop where
  robots : ∀ {name : Str} {r}, game'.robots[name]? = some r → game.robots[name]? = some r
  players : ∀ {name : Str} {p}, game'.players[name]? = some p → game.players[name]? = some p
  teams : ∀ {name : Str} {t}, game'.teams[name]? = some t → game.teams[name]? = some t
  robotNext : game'.robotHeap.next = game.robotHeap.next
  playerNext : game'.playerHeap.next = game.playerHeap.next
  teamNext : game'.teamHeap.next = game.teamHeap.next
  robotName : ∀ r, (game'.robot r).name = (game.robot r).name
  robotPlayer : ∀ r, (game'.robot r).player = (game.robot r).player
  playerName : ∀ p, (game'.player p).name = (game.player p).name
  playerRobot : ∀ p, (game'.player p).robot = (game.player p).robot
  teamName : ∀ t, (game'.team t).name = (game.team t).name

theorem WellFormed.shrinks (hw : WellFormed game) (h : Shrinks game game') : WellFormed game' where
  robotAllocated hr := by
    have := hw.robotAllocated (h.robots hr)
    unfold Lib.Heap.Allocated at this ⊢
    rwa [h.robotNext]
  robotName hr := (h.robotName _).trans (hw.robotName (h.robots hr))
  playerAllocated hp := by
    have := hw.playerAllocated (h.players hp)
    unfold Lib.Heap.Allocated at this ⊢
    rwa [h.playerNext]
  playerName hp := (h.playerName _).trans (hw.playerName (h.players hp))
  teamAllocated ht := by
    have := hw.teamAllocated (h.teams ht)
    unfold Lib.Heap.Allocated at this ⊢
    rwa [h.teamNext]
  teamName ht := (h.teamName _).trans (hw.teamName (h.teams ht))
  linkAllocated hl := by
    rw [h.robotPlayer] at hl
    have := hw.linkAllocated hl
    unfold Lib.Heap.Allocated at this ⊢
    rwa [h.playerNext]
  linked hr hl hp := by
    rw [h.robotPlayer] at hl
    rw [h.playerRobot]
    exact hw.linked (h.robots hr) hl (h.players hp)

theorem SameRoster.shrinks (h : SameRoster game game') : Shrinks game game' where
  robots hr := h.robots ▸ hr
  players hp := h.players ▸ hp
  teams ht := h.teams ▸ ht
  robotNext := by rw [h.robotHeap]
  playerNext := by rw [h.playerHeap]
  teamNext := h.teamNext
  robotName r := by simp only [Game.robot, h.robotHeap]
  robotPlayer r := by simp only [Game.robot, h.robotHeap]
  playerName p := by simp only [Game.player, h.playerHeap]
  playerRobot p := by simp only [Game.player, h.playerHeap]
  teamName := h.teamName

theorem Shrinks.refl (game : Game) : Shrinks game game := (SameRoster.refl game).shrinks

theorem Shrinks.removeTeam (name : Str) : Shrinks game (game.removeTeam name).2 := by
  unfold Game.removeTeam
  split
  · exact { Shrinks.refl game with
      teams := fun ht => (Std.ExtTreeMap.getElem?_erase_eq_some.mp ht).2 }
  · exact .refl game

theorem Shrinks.removeRobot (name : Str) : Shrinks game (game.removeRobot name).2 := by
  unfold Game.removeRobot
  split
  · exact { Shrinks.refl game with
      robots := fun hr => (Std.ExtTreeMap.getElem?_erase_eq_some.mp hr).2 }
  · exact .refl game

theorem Shrinks.removePlayer (name : Str) : Shrinks game (game.removePlayer name).2 := by
  unfold Game.removePlayer
  split
  · exact { Shrinks.refl game with
      players := fun hp => (Std.ExtTreeMap.getElem?_erase_eq_some.mp hp).2 }
  · exact .refl game

theorem Shrinks.modifyRobot (r : RobotRef) {f : Robot → Robot} (hf : KeepsRobot f) :
    Shrinks game (game.modifyRobot r f) :=
  { Shrinks.refl game with
    robotName := fun _ => Lib.Heap.get_modify_field hf.name
    robotPlayer := fun _ => Lib.Heap.get_modify_field hf.player }

theorem Shrinks.modifyPlayer (p : PlayerRef) {f : Player → Player} (hf : KeepsPlayer f) :
    Shrinks game (game.modifyPlayer p f) :=
  { Shrinks.refl game with
    playerName := fun _ => Lib.Heap.get_modify_field hf.name
    playerRobot := fun _ => Lib.Heap.get_modify_field hf.robot }

theorem WellFormed.addTeam (hw : WellFormed game) (name : Str) :
    WellFormed (game.addTeam name).2 := by
  unfold Game.addTeam
  split
  · exact hw
  · refine { hw with teamAllocated := ?_, teamName := ?_ }
    · intro name' t ht
      rcases Std.ExtTreeMap.getElem?_insert_eq_some.mp ht with ⟨-, rfl⟩ | ⟨-, ht⟩
      · exact Lib.Heap.allocated_fresh _ _
      · exact (hw.teamAllocated ht).alloc _
    · intro name' t ht
      rcases Std.ExtTreeMap.getElem?_insert_eq_some.mp ht with ⟨rfl, rfl⟩ | ⟨-, ht⟩
      · simp [Game.team, Team.ofName]
      · exact (congrArg Team.name (hw.teamAllocated ht).get_alloc).trans (hw.teamName ht)

theorem WellFormed.addPlayer (hw : WellFormed game) (name : Str) :
    WellFormed (game.addPlayer name).2 := by
  unfold Game.addPlayer
  split
  · exact hw
  · refine { hw with
      playerAllocated := ?_, playerName := ?_
      linkAllocated := fun hl => (hw.linkAllocated hl).alloc _
      linked := ?_ }
    · intro name' p hp
      rcases Std.ExtTreeMap.getElem?_insertIfNew_eq_some.mp hp with ⟨-, -, rfl⟩ | hp
      · exact Lib.Heap.allocated_fresh _ _
      · exact (hw.playerAllocated hp).alloc _
    · intro name' p hp
      rcases Std.ExtTreeMap.getElem?_insertIfNew_eq_some.mp hp with ⟨rfl, -, rfl⟩ | hp
      · simp [Game.player]
      · exact (congrArg Player.name (hw.playerAllocated hp).get_alloc).trans (hw.playerName hp)
    · intro _ name' r p hr hl hp
      have hold := hw.linkAllocated hl
      rcases Std.ExtTreeMap.getElem?_insertIfNew_eq_some.mp hp with ⟨-, -, rfl⟩ | hp
      · exact absurd rfl hold.ne_fresh
      · exact (congrArg Player.robot hold.get_alloc).trans (hw.linked hr hl hp)

theorem WellFormed.insertRobot (hw : WellFormed game) (name : Str)
    (team : TeamRef) (port commandPort : UInt16) (robotId : Str) :
    WellFormed (game.insertRobot name team port commandPort robotId) := by
  have hplayer : ∀ r, ((game.insertRobot name team port commandPort robotId).robot r).player =
      if r = game.robotHeap.fresh then none else (game.robot r).player := by
    intro r
    simp only [Game.insertRobot, Game.robot, Lib.Heap.alloc]
    split <;> rfl
  refine { hw with
    robotAllocated := ?_, robotName := ?_, linkAllocated := ?_, linked := ?_
    teamName := fun ht =>
      (Game.insertRobot_team Team.addRobot_name name team port commandPort robotId _).trans
        (hw.teamName ht) }
  · intro name' r hr
    rcases Std.ExtTreeMap.getElem?_insertIfNew_eq_some.mp hr with ⟨-, -, rfl⟩ | hr
    · exact Lib.Heap.allocated_fresh _ _
    · exact (hw.robotAllocated hr).alloc _
  · intro name' r hr
    rcases Std.ExtTreeMap.getElem?_insertIfNew_eq_some.mp hr with ⟨rfl, -, rfl⟩ | hr
    · simp [Game.robot, Game.insertRobot]
    · rw [Game.insertRobot_robot_of_ne (hw.robotAllocated hr).ne_fresh]
      exact hw.robotName hr
  · intro r p hl
    rw [hplayer] at hl
    split at hl
    · cases hl
    · exact hw.linkAllocated hl
  · intro name' playerName r p hr hl hp
    rw [hplayer] at hl
    split at hl
    · cases hl
    · next hne =>
      rcases Std.ExtTreeMap.getElem?_insertIfNew_eq_some.mp hr with ⟨-, -, rfl⟩ | hr
      · exact absurd rfl hne
      · exact hw.linked hr hl hp

-- ---------------------------------------------------------------------------
-- Links
-- ---------------------------------------------------------------------------

theorem Game.link_robot (p : PlayerRef) (r r' : RobotRef) :
    (game.link p r).robot r' =
      if r' = r then { game.robot r with player := some p } else game.robot r' := rfl

theorem Game.link_player (p p' : PlayerRef) (r : RobotRef) :
    (game.link p r).player p' =
      if p' = p then { game.player p with robot := some r } else game.player p' := rfl

theorem WellFormed.robot_unique (hw : WellFormed game) {name name' playerName : Str}
    {r r' : RobotRef} {p : PlayerRef} (hr : game.robots[name]? = some r)
    (hr' : game.robots[name']? = some r') (hp : game.players[playerName]? = some p)
    (hl : (game.robot r).player = some p) (hl' : (game.robot r').player = some p) : r = r' :=
  Option.some.inj ((hw.linked hr hl hp).symm.trans (hw.linked hr' hl' hp))

theorem WellFormed.playerIsNamed_iff (hw : WellFormed game) {name : Str} {r : RobotRef} :
    game.playerIsNamed name r = true ↔
      ∃ p, game.players[name]? = some p ∧ (game.robot r).player = some p := by
  rw [Game.playerIsNamed_iff]
  constructor
  · rintro ⟨p, hp, rfl⟩
    obtain ⟨hl, halive⟩ := Game.getPlayerOfRobot_some.mp hp
    obtain ⟨name', hstored⟩ := Game.playerIsAlive_iff.mp halive
    exact ⟨p, hw.playerName hstored ▸ hstored, hl⟩
  · rintro ⟨p, hp, hl⟩
    exact ⟨p, Game.getPlayerOfRobot_some.mpr ⟨hl, Game.playerIsAlive_iff.mpr ⟨name, hp⟩⟩,
      hw.playerName hp⟩

/-- The robot a hello gets is, among the robots, the only one its player may
already be linked to. -/
theorem WellFormed.getRobotForPlayer_unique (hw : WellFormed game) {name key : Str}
    {p : PlayerRef} {r r' : RobotRef} (hp : game.players[name]? = some p)
    (hr : game.getRobotForPlayer name = some r) (hr' : game.robots[key]? = some r')
    (hl : (game.robot r').player = some p) : r' = r := by
  have hnamed : game.playerIsNamed name r' = true := hw.playerIsNamed_iff.mpr ⟨p, hp, hl⟩
  obtain ⟨key', hkey, h | ⟨-, hnone⟩⟩ := Game.getRobotForPlayer_some hr
  · obtain ⟨p', hp', hl'⟩ := hw.playerIsNamed_iff.mp h
    cases hp.symm.trans hp'
    exact hw.robot_unique hr' hkey hp hl hl'
  · rw [hnone key r' hr'] at hnamed
    cases hnamed

theorem WellFormed.link (hw : WellFormed game) {name : Str} {p : PlayerRef} {r : RobotRef}
    (hp : game.players[name]? = some p) (hr : game.getRobotForPlayer name = some r) :
    WellFormed (game.link p r) := by
  refine { hw with
    robotName := fun hr' => ?_, playerName := fun hp' => ?_
    linkAllocated := ?_, linked := ?_ }
  · rw [← hw.robotName hr', Game.link_robot]
    split
    · next h => rw [h]
    · rfl
  · rw [← hw.playerName hp', Game.link_player]
    split
    · next h => rw [h]
    · rfl
  · intro r' p' hl
    rw [Game.link_robot] at hl
    split at hl
    · cases hl; exact hw.playerAllocated hp
    · exact hw.linkAllocated hl
  · intro name' playerName r' p' hr' hl hp'
    rw [Game.link_robot] at hl
    rw [Game.link_player]
    split at hl
    · next h =>
      cases hl
      simp [h]
    · next hne =>
      -- a robot that is not the chosen one is not linked to the player
      have hother : p' ≠ p := by
        rintro rfl
        exact hne (hw.getRobotForPlayer_unique hp hr hr' hl)
      rw [if_neg hother]
      exact hw.linked hr' hl hp'

-- ---------------------------------------------------------------------------
-- Every run keeps the invariant
-- ---------------------------------------------------------------------------

theorem WellFormed.create (gameDuration : Int) (ruleset : Ruleset) :
    WellFormed (Game.create gameDuration ruleset) where
  robotAllocated hr := by simp [Game.create] at hr
  robotName hr := by simp [Game.create] at hr
  playerAllocated hp := by simp [Game.create] at hp
  playerName hp := by simp [Game.create] at hp
  teamAllocated ht := by simp [Game.create] at ht
  teamName ht := by simp [Game.create] at ht
  linkAllocated hl := by cases hl
  linked hr := by simp [Game.create] at hr

theorem WellFormed.edit (hw : WellFormed game) (h : Edit event game calls steps game') :
    WellFormed game' := by
  cases h with
  | setTime | setDuration | detector | createItem | register =>
    exact hw.shrinks (SameRoster.shrinks ⟨rfl, rfl, rfl, rfl, rfl, rfl, fun _ => rfl⟩)
  | start forceStop forced localTime =>
    exact hw.shrinks (SameRoster.start forceStop forced localTime).shrinks
  | stop => exact hw.shrinks SameRoster.stop.shrinks
  | contact h => exact hw.shrinks (SameRoster.handleContactCall h).shrinks
  | step h => exact hw.shrinks (SameRoster.step h).shrinks
  | setScore t score => exact hw.shrinks (SameRoster.modifyTeam t (·.setScore_name score)).shrinks
  | addTeam name => exact hw.addTeam name
  | removeTeam name => exact hw.shrinks (.removeTeam name)
  | addRobot h =>
    rcases Game.addRobot_ok h with ⟨-, rfl⟩ | ⟨id, t, -, -, -, -, rfl⟩
    · exact hw
    · exact hw.insertRobot _ t _ _ id
  | removeRobot name h => exact hw.shrinks (.removeRobot name)
  | addPlayer name => exact hw.addPlayer name
  | removePlayer name h => exact hw.shrinks (.removePlayer name)
  | modifyRobot r hf => exact hw.shrinks (.modifyRobot r hf)
  | modifyPlayer p hf => exact hw.shrinks (.modifyPlayer p hf)
  | link hp hr => exact hw.link hp hr

theorem WellFormed.edits (hw : WellFormed game) (h : Edits event game calls steps game') :
    WellFormed game' := by
  induction h with
  | refl => exact hw
  | tail _ hlast ih => exact ih.edit hlast

theorem Server.Reachable.wellFormed {env : Externals} {app : Application}
    (h : Server.Reachable env app) : WellFormed app.game := by
  obtain ⟨ports, gameDuration, ruleset, events, outputs, hrun⟩ := h
  exact Lib.run_invariant (fun app => WellFormed app.game)
    (fun _ _ _ _ _ hw hstep => hw.edits (Server.step_edits hstep))
    (WellFormed.create gameDuration ruleset) hrun

end ServerGame
