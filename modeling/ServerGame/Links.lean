import ServerGame.Roster

/-!
# Players and robots

A hello links a player and a robot; nothing else does. So a robot belongs to
at most one player, a hello takes no robot from another player, and a player
keeps its robot until one of the two is removed.
-/

namespace ServerGame

variable {event : Event} {game game' : Game} {calls : List ContactCall}
  {steps : List Game.ContactStep}

def Game.Linked (game : Game) (p : PlayerRef) (r : RobotRef) : Prop :=
  (game.player p).robot = some r ∧ (game.robot r).player = some p

/-- The same robots and players, linked the same way and as long-lived. -/
structure SameLinks (game game' : Game) : Prop where
  robots : game'.robots = game.robots
  players : game'.players = game.players
  robotHeap : game'.robotHeap = game.robotHeap
  playerRobot : ∀ p, (game'.player p).robot = (game.player p).robot
  robotIsAlive : ∀ r, game'.robotIsAlive r = game.robotIsAlive r

theorem SameLinks.refl (game : Game) : SameLinks game game :=
  ⟨rfl, rfl, rfl, fun _ => rfl, fun _ => rfl⟩

theorem SameLinks.trans {g₁ g₂ g₃ : Game} (h : SameLinks g₁ g₂) (h' : SameLinks g₂ g₃) :
    SameLinks g₁ g₃ where
  robots := h'.robots.trans h.robots
  players := h'.players.trans h.players
  robotHeap := h'.robotHeap.trans h.robotHeap
  playerRobot p := (h'.playerRobot p).trans (h.playerRobot p)
  robotIsAlive r := (h'.robotIsAlive r).trans (h.robotIsAlive r)

theorem SameLinks.robot (h : SameLinks game game') (r : RobotRef) :
    game'.robot r = game.robot r := by
  simp only [Game.robot, h.robotHeap]

theorem SameLinks.linked (h : SameLinks game game') {p : PlayerRef} {r : RobotRef} :
    game'.Linked p r ↔ game.Linked p r := by
  simp only [Game.Linked, h.playerRobot, h.robot]

theorem SameLinks.getPlayerOfRobot (h : SameLinks game game') (r : RobotRef) :
    game'.getPlayerOfRobot r = game.getPlayerOfRobot r := by
  have halive : game'.playerIsAlive = game.playerIsAlive := by
    funext p
    simp only [Game.playerIsAlive, h.players]
  simp only [Game.getPlayerOfRobot, h.robot, halive]

theorem SameLinks.getRobotOfPlayer (h : SameLinks game game') (p : PlayerRef) :
    game'.getRobotOfPlayer p = game.getRobotOfPlayer p := by
  have halive : game'.robotIsAlive = game.robotIsAlive := funext h.robotIsAlive
  simp only [Game.getRobotOfPlayer, h.playerRobot, halive]

-- ---------------------------------------------------------------------------
-- What a hello does
-- ---------------------------------------------------------------------------

theorem Game.robotIsAlive_congr (hrobots : game'.robots = game.robots)
    (hbyId : game'.robotsById = game.robotsById)
    (hdetectors : game'.flagDetectorsByRobot = game.flagDetectorsByRobot)
    (hcontacts : game'.contacts = game.contacts) (hteams : game'.teams = game.teams)
    (hteam : ∀ t, (game'.team t).robots = (game.team t).robots) (r : RobotRef) :
    game'.robotIsAlive r = game.robotIsAlive r := by
  simp only [Game.robotIsAlive, hrobots, hbyId, hdetectors, hcontacts, hteams, hteam]

theorem SameLinks.resetScores : SameLinks game game.resetScores where
  robots := rfl
  players := rfl
  robotHeap := rfl
  playerRobot _ := rfl
  robotIsAlive := by
    refine Game.robotIsAlive_congr rfl rfl rfl rfl rfl fun t => ?_
    rcases game.resetScores_team t with h | h
    · rw [h, Team.resetScore_robots]
    · rw [h]

theorem SameLinks.stop : SameLinks game game.stop := by
  unfold Game.stop
  split
  · exact ⟨rfl, rfl, rfl, fun _ => rfl, fun _ => rfl⟩
  · exact .refl game

theorem SameLinks.startIfReady (hello : Hello) (localTime : Ptime) :
    SameLinks game (ProcessHello.startIfReady hello localTime game) := by
  rw [ProcessHello.startIfReady_eq]
  split
  · split
    · have hwinner : SameLinks game { game with winner := none } :=
        ⟨rfl, rfl, rfl, fun _ => rfl, fun _ => rfl⟩
      have hstop := (hwinner.trans SameLinks.resetScores).trans SameLinks.stop
      rw [Game.start_true]
      exact hstop.trans ⟨rfl, rfl, rfl, fun _ => rfl, fun _ => rfl⟩
    · exact .refl game
  · exact .refl game

theorem SameLinks.setAddress (p : PlayerRef) (address : Str) :
    SameLinks game (game.setAddress p address) where
  robots := rfl
  players := rfl
  robotHeap := rfl
  playerRobot p' := by
    rw [Game.setAddress, Game.modifyPlayer_player]
    split
    · next h => rw [h]
    · rfl
  robotIsAlive _ := rfl

theorem setAddressOf_ok {hello : Hello} {p : PlayerRef}
    (hp : game.players[hello.name]? = some p) :
    ∃ game', ProcessHello.setAddressOf hello game = .ok game' ∧ SameLinks game game' := by
  unfold ProcessHello.setAddressOf
  cases hello.address with
  | none => exact ⟨game, rfl, .refl game⟩
  | some address =>
    have haccess := Game.accessPlayer_ok.mpr hp
    refine ⟨game.setAddress p address, ?_, .setAddress p address⟩
    simp only [haccess, Lib.ok_bind]
    rfl

theorem addPlayer_stored (game : Game) (name : Str) :
    (game.addPlayer name).1 = true ∧ ∃ p, (game.addPlayer name).2.players[name]? = some p := by
  unfold Game.addPlayer
  split
  · next h => exact ⟨rfl, _, Std.ExtTreeMap.getElem?_eq_some_getElem h⟩
  · next h => exact ⟨rfl, _, Std.ExtTreeMap.getElem?_insertIfNew_eq_some.mpr (.inl ⟨rfl, h, rfl⟩)⟩

/-- A hello is refused, stopped by the port of its robot, or welcomed. -/
inductive HelloCase (env : Externals) (channel : Channel) (clientId : Str) (hello : Hello)
    (game : Game) (p : PlayerRef) (outcome : Outcome) : Prop
  | refused
      (hrobot : (game.addPlayer hello.name).2.getRobotForPlayer hello.name = none)
      (hescaped : outcome.escaped = none)
      (hsent : outcome.sent = [reply channel clientId .goodbye])
      (hlinks : SameLinks (game.addPlayer hello.name).2 outcome.game)
  | stopped (r)
      (hrobot : (game.addPlayer hello.name).2.getRobotForPlayer hello.name = some r)
      (hvideo : ProcessHello.videoOf env ((game.addPlayer hello.name).2.robot r) = none)
      (houtcome : outcome =
        { game := (game.addPlayer hello.name).2.link p r, escaped := some .badLexicalCast })
  | welcomed (r video)
      (hrobot : (game.addPlayer hello.name).2.getRobotForPlayer hello.name = some r)
      (hvideo : ProcessHello.videoOf env ((game.addPlayer hello.name).2.robot r) = some video)
      (hescaped : outcome.escaped = none)
      (hsent : outcome.sent = [reply channel clientId
        (.welcome (ProcessHello.welcomeOf ((game.addPlayer hello.name).2.robot r) video))])
      (hlinks : SameLinks ((game.addPlayer hello.name).2.link p r) outcome.game)

theorem videoOf_link (env : Externals) (p : PlayerRef) (r : RobotRef) :
    ProcessHello.videoOf env ((game.link p r).robot r) =
      ProcessHello.videoOf env (game.robot r) := by
  rw [Game.link_robot, if_pos rfl]
  rfl

theorem welcomeOf_link (p : PlayerRef) (r : RobotRef) (video : Str × UInt16) :
    ProcessHello.welcomeOf ((game.link p r).robot r) video =
      ProcessHello.welcomeOf (game.robot r) video := by
  rw [Game.link_robot, if_pos rfl]
  rfl

theorem execute_cases (env : Externals) (channel : Channel) (clientId : Str) (hello : Hello)
    (localTime : Ptime) (game : Game) :
    ∃ p, (game.addPlayer hello.name).2.players[hello.name]? = some p ∧
      HelloCase env channel clientId hello game p
        (ProcessHello.execute env channel clientId hello localTime game) := by
  obtain ⟨hadded, p, hp⟩ := addPlayer_stored game hello.name
  refine ⟨p, hp, ?_⟩
  have haccess := Game.accessPlayer_ok.mpr hp
  unfold ProcessHello.execute ProcessHello.executeWith
  simp only [hadded, ↓reduceIte]
  cases hrobot : (game.addPlayer hello.name).2.getRobotForPlayer hello.name with
  | none =>
    obtain ⟨game', haddress, hlinks⟩ := setAddressOf_ok hp
    simp only [haddress]
    exact .refused hrobot rfl rfl hlinks
  | some r =>
    simp only [haccess, videoOf_link, welcomeOf_link]
    cases hvideo : ProcessHello.videoOf env ((game.addPlayer hello.name).2.robot r) with
    | none => exact .stopped r hrobot hvideo rfl
    | some video =>
      have hstart : SameLinks ((game.addPlayer hello.name).2.link p r) _ :=
        .startIfReady hello localTime
      obtain ⟨game', haddress, hlinks⟩ := setAddressOf_ok (hstart.players ▸ hp)
      simp only [ProcessHello.startIfReadyWith_start, haddress]
      exact .welcomed r video hrobot hvideo rfl rfl (hstart.trans hlinks)

-- ---------------------------------------------------------------------------
-- A new player is linked to nothing
-- ---------------------------------------------------------------------------

@[simp] theorem addPlayer_robots (name : Str) :
    (game.addPlayer name).2.robots = game.robots := by
  unfold Game.addPlayer; split <;> rfl

@[simp] theorem addPlayer_robot (name : Str) (r : RobotRef) :
    (game.addPlayer name).2.robot r = game.robot r := by
  unfold Game.addPlayer; split <;> rfl

section
variable (hw : WellFormed game) (name : Str)
include hw

theorem addPlayer_players {name' : Str} {p : PlayerRef} (hp : game.players[name']? = some p) :
    (game.addPlayer name).2.players[name']? = some p ∧
      (game.addPlayer name).2.player p = game.player p := by
  unfold Game.addPlayer
  split
  · exact ⟨hp, rfl⟩
  · exact ⟨Std.ExtTreeMap.getElem?_insertIfNew_eq_some.mpr (.inr hp),
      (hw.playerAllocated hp).get_alloc⟩

theorem addPlayer_getPlayerOfRobot (r : RobotRef) :
    (game.addPlayer name).2.getPlayerOfRobot r = game.getPlayerOfRobot r := by
  refine Option.ext fun p => ?_
  simp only [Game.getPlayerOfRobot_some, Game.playerIsAlive_iff]
  unfold Game.addPlayer
  split
  · rfl
  · refine and_congr_right fun hl => exists_congr fun name' => ?_
    rw [Std.ExtTreeMap.getElem?_insertIfNew_eq_some]
    constructor
    · rintro (⟨-, -, rfl⟩ | h)
      · exact absurd rfl (hw.linkAllocated hl).ne_fresh
      · exact h
    · exact .inr

theorem addPlayer_playerIsNamed (name' : Str) (r : RobotRef) :
    (game.addPlayer name).2.playerIsNamed name' r = game.playerIsNamed name' r := by
  rw [Bool.eq_iff_iff, Game.playerIsNamed_iff, Game.playerIsNamed_iff,
    addPlayer_getPlayerOfRobot hw]
  refine exists_congr fun p => and_congr_right fun hp => ?_
  obtain ⟨-, halive⟩ := Game.getPlayerOfRobot_some.mp hp
  obtain ⟨stored, hstored⟩ := Game.playerIsAlive_iff.mp halive
  rw [(addPlayer_players hw name hstored).2]

theorem addPlayer_getRobotForPlayer (name' : Str) :
    (game.addPlayer name).2.getRobotForPlayer name' = game.getRobotForPlayer name' := by
  have hnamed := funext (addPlayer_playerIsNamed hw name name')
  have havailable : (game.addPlayer name).2.getIsAvailable = game.getIsAvailable := by
    funext r
    simp only [Game.getIsAvailable, Game.getHasPlayer, addPlayer_getPlayerOfRobot hw,
      addPlayer_robot]
  simp only [Game.getRobotForPlayer, Game.getAvailableRobot, hnamed, havailable,
    addPlayer_robots]

end

-- ---------------------------------------------------------------------------
-- One robot, one player
-- ---------------------------------------------------------------------------

/-- No two robots report the same player, and a player a robot reports is the
one stored under its name and refers back to that robot. -/
structure Exclusive (game : Game) : Prop where
  unique : ∀ (name name' : Str) r r' p, game.robots[name]? = some r →
    game.robots[name']? = some r' → game.getPlayerOfRobot r = some p →
    game.getPlayerOfRobot r' = some p → name = name' ∧ r = r'
  stored : ∀ (name : Str) r p, game.robots[name]? = some r → game.getPlayerOfRobot r = some p →
    game.players[(game.player p).name]? = some p ∧ game.getRobotOfPlayer p = some r

theorem WellFormed.exclusive (hw : WellFormed game) : Exclusive game where
  unique name name' r r' p hr hr' hp hp' := by
    obtain ⟨hl, halive⟩ := Game.getPlayerOfRobot_some.mp hp
    obtain ⟨hl', -⟩ := Game.getPlayerOfRobot_some.mp hp'
    obtain ⟨playerName, hstored⟩ := Game.playerIsAlive_iff.mp halive
    obtain rfl := hw.robot_unique hr hr' hstored hl hl'
    exact ⟨(hw.robotName hr).symm.trans (hw.robotName hr'), rfl⟩
  stored name r p hr hp := by
    obtain ⟨hl, halive⟩ := Game.getPlayerOfRobot_some.mp hp
    obtain ⟨playerName, hstored⟩ := Game.playerIsAlive_iff.mp halive
    exact ⟨hw.playerName hstored ▸ hstored,
      Game.getRobotOfPlayer_some.mpr ⟨hw.linked hr hl hstored, Game.robotIsAlive_of_mem hr⟩⟩

/-- Every registered player but the one of this name has the robot it had, and
is the player of the robots it was the player of. -/
def KeepsOthers (game game' : Game) (name : Str) : Prop :=
  ∀ (name' : Str) p, name' ≠ name → game.players[name']? = some p →
    game'.players[name']? = some p ∧ game'.getRobotOfPlayer p = game.getRobotOfPlayer p ∧
      ∀ r, game'.getPlayerOfRobot r = some p ↔ game.getPlayerOfRobot r = some p

theorem KeepsOthers.trans {g₁ g₂ g₃ : Game} {name : Str} (h : KeepsOthers g₁ g₂ name)
    (h' : KeepsOthers g₂ g₃ name) : KeepsOthers g₁ g₃ name := by
  intro name' p hne hp
  obtain ⟨hp₂, hrobot₂, hplayer₂⟩ := h name' p hne hp
  obtain ⟨hp₃, hrobot₃, hplayer₃⟩ := h' name' p hne hp₂
  exact ⟨hp₃, hrobot₃.trans hrobot₂, fun r => (hplayer₃ r).trans (hplayer₂ r)⟩

theorem SameLinks.keepsOthers (h : SameLinks game game') (name : Str) :
    KeepsOthers game game' name := by
  intro name' p _ hp
  exact ⟨h.players ▸ hp, h.getRobotOfPlayer p, fun r => by rw [h.getPlayerOfRobot]⟩

theorem WellFormed.addPlayer_keepsOthers (hw : WellFormed game) (name : Str) :
    KeepsOthers game (game.addPlayer name).2 name := by
  intro name' p _ hp
  obtain ⟨hp', hplayer⟩ := addPlayer_players hw name hp
  refine ⟨hp', ?_, fun r => by rw [addPlayer_getPlayerOfRobot hw]⟩
  have halive : (game.addPlayer name).2.robotIsAlive = game.robotIsAlive := by
    funext r
    unfold Game.addPlayer
    split <;> rfl
  simp only [Game.getRobotOfPlayer, hplayer, halive]

theorem WellFormed.getRobotForPlayer_free (hw : WellFormed game) {name name' : Str} {r : RobotRef}
    {p : PlayerRef} (hr : game.getRobotForPlayer name = some r)
    (hp : game.players[name']? = some p) (hl : (game.robot r).player = some p) : name' = name := by
  obtain ⟨key, hkey, h | ⟨havailable, -⟩⟩ := Game.getRobotForPlayer_some hr
  · obtain ⟨p', hp', hl'⟩ := hw.playerIsNamed_iff.mp h
    cases hl.symm.trans hl'
    rw [← hw.playerName hp, ← hw.playerName hp']
  · have hplayer : game.getPlayerOfRobot r = some p :=
      Game.getPlayerOfRobot_some.mpr ⟨hl, Game.playerIsAlive_iff.mpr ⟨name', hp⟩⟩
    simp [Game.getIsAvailable, Game.getHasPlayer, hplayer] at havailable

theorem WellFormed.link_keepsOthers (hw : WellFormed game) {name : Str} {p : PlayerRef}
    {r : RobotRef} (hp : game.players[name]? = some p)
    (hr : game.getRobotForPlayer name = some r) : KeepsOthers game (game.link p r) name := by
  intro name' p' hne hp'
  have hother : p' ≠ p := by
    rintro rfl
    exact hne ((hw.playerName hp').symm.trans (hw.playerName hp))
  refine ⟨hp', ?_, fun r' => ?_⟩
  · show Option.filter game.robotIsAlive ((game.link p r).player p').robot = _
    rw [Game.link_player, if_neg hother]
    rfl
  · show Option.filter game.playerIsAlive ((game.link p r).robot r').player = some p' ↔
      game.getPlayerOfRobot r' = some p'
    rw [Game.link_robot]
    split
    · next h =>
      -- the chosen robot is the player's afterwards and was nobody else's before
      subst h
      constructor
      · intro h
        simp only [Option.filter_eq_some_iff, Option.some.injEq] at h
        exact absurd h.1.symm hother
      · intro h
        exact absurd (hw.getRobotForPlayer_free hr hp' (Game.getPlayerOfRobot_some.mp h).1) hne
    · rfl

theorem WellFormed.hello_keepsOthers (hw : WellFormed game) (env : Externals) (channel : Channel)
    (clientId : Str) (hello : Hello) (localTime : Ptime) :
    KeepsOthers game (ProcessHello.execute env channel clientId hello localTime game).game
      hello.name := by
  have hadd := hw.addPlayer_keepsOthers hello.name
  have hw' := hw.addPlayer hello.name
  obtain ⟨p, hp, hcase⟩ := execute_cases env channel clientId hello localTime game
  cases hcase with
  | refused _ _ _ hlinks => exact hadd.trans (hlinks.keepsOthers hello.name)
  | stopped r hrobot _ houtcome =>
    rw [houtcome]
    exact hadd.trans (hw'.link_keepsOthers hp hrobot)
  | welcomed r _ hrobot _ _ _ hlinks =>
    exact (hadd.trans (hw'.link_keepsOthers hp hrobot)).trans (hlinks.keepsOthers hello.name)

-- ---------------------------------------------------------------------------
-- A player keeps its robot
-- ---------------------------------------------------------------------------

structure HasRobot (game : Game) (name key : Str) (p : PlayerRef) (r : RobotRef) : Prop where
  player : game.players[name]? = some p
  robot : game.robots[key]? = some r
  linked : game.Linked p r

section
variable {name key : Str} {p : PlayerRef} {r : RobotRef}

theorem SameLinks.hasRobot (h : SameLinks game game') (hh : HasRobot game name key p r) :
    HasRobot game' name key p r :=
  ⟨h.players ▸ hh.player, h.robots ▸ hh.robot, h.linked.mpr hh.linked⟩

theorem HasRobot.getRobotForPlayer (hw : WellFormed game) (hh : HasRobot game name key p r) :
    game.getRobotForPlayer name = some r := by
  have hnamed := hw.playerIsNamed_iff.mpr ⟨p, hh.player, hh.linked.2⟩
  cases h : game.getRobotForPlayer name with
  | none => rw [Game.getRobotForPlayer_none h hh.robot] at hnamed; cases hnamed
  | some r' => rw [hw.getRobotForPlayer_unique hh.player h hh.robot hh.linked.2]

theorem HasRobot.link (hw : WellFormed game) (hh : HasRobot game name key p r) {name' : Str}
    {p' : PlayerRef} {r' : RobotRef} (hp' : game.players[name']? = some p')
    (hr' : game.getRobotForPlayer name' = some r') : HasRobot (game.link p' r') name key p r := by
  refine ⟨hh.player, hh.robot, ?_⟩
  by_cases hname : name' = name
  · -- the player's own hello gets the same robot again
    subst hname
    cases hh.player.symm.trans hp'
    cases (hh.getRobotForPlayer hw).symm.trans hr'
    exact ⟨by simp [Game.link_player], by simp [Game.link_robot]⟩
  · have hrobot : r ≠ r' := by
      rintro rfl
      exact hname (hw.getRobotForPlayer_free hr' hh.player hh.linked.2).symm
    have hplayer : p ≠ p' := by
      rintro rfl
      exact hname ((hw.playerName hp').symm.trans (hw.playerName hh.player))
    exact ⟨by rw [Game.link_player, if_neg hplayer]; exact hh.linked.1,
      by rw [Game.link_robot, if_neg hrobot]; exact hh.linked.2⟩

theorem SameRoster.hasRobot (h : SameRoster game game') (hh : HasRobot game name key p r) :
    HasRobot game' name key p r := by
  refine ⟨h.players ▸ hh.player, h.robots ▸ hh.robot, ?_⟩
  simpa only [Game.Linked, Game.player, Game.robot, h.playerHeap, h.robotHeap] using hh.linked

theorem HasRobot.edit (hw : WellFormed game) (hh : HasRobot game name key p r)
    (hp : ¬event.RemovesPlayer name) (hr : ¬event.RemovesRobot key)
    (h : Edit event game calls steps game') : HasRobot game' name key p r := by
  cases h with
  | setTime | setDuration | detector | createItem | register | setScore =>
    exact ⟨hh.player, hh.robot, hh.linked⟩
  | start forceStop forced localTime =>
    exact (SameRoster.start forceStop forced localTime).hasRobot hh
  | stop => exact SameRoster.stop.hasRobot hh
  | contact h => exact (SameRoster.handleContactCall h).hasRobot hh
  | step h => exact (SameRoster.step h).hasRobot hh
  | addTeam =>
    unfold Game.addTeam
    split <;> exact ⟨hh.player, hh.robot, hh.linked⟩
  | removeTeam =>
    unfold Game.removeTeam
    split <;> exact ⟨hh.player, hh.robot, hh.linked⟩
  | addRobot h =>
    rcases Game.addRobot_ok h with ⟨-, rfl⟩ | ⟨id, t, -, -, -, -, rfl⟩
    · exact hh
    · refine ⟨hh.player, Std.ExtTreeMap.getElem?_insertIfNew_eq_some.mpr (.inr hh.robot),
        hh.linked.1, ?_⟩
      rw [Game.insertRobot_robot_of_ne (hw.robotAllocated hh.robot).ne_fresh]
      exact hh.linked.2
  | removeRobot name' hremoves =>
    have hne : name' ≠ key := fun h => hr (h ▸ hremoves)
    unfold Game.removeRobot
    split
    · exact ⟨hh.player, Std.ExtTreeMap.getElem?_erase_eq_some.mpr ⟨hne, hh.robot⟩, hh.linked⟩
    · exact hh
  | addPlayer name' =>
    obtain ⟨hplayer, hsame⟩ := addPlayer_players hw name' hh.player
    exact ⟨hplayer, by simpa using hh.robot,
      by rw [hsame]; exact hh.linked.1, by simpa using hh.linked.2⟩
  | removePlayer name' hremoves =>
    have hne : name' ≠ name := fun h => hp (h ▸ hremoves)
    unfold Game.removePlayer
    split
    · exact ⟨Std.ExtTreeMap.getElem?_erase_eq_some.mpr ⟨hne, hh.player⟩, hh.robot, hh.linked⟩
    · exact hh
  | modifyRobot r' hf =>
    exact ⟨hh.player, hh.robot, hh.linked.1,
      (Lib.Heap.get_modify_field hf.player).trans hh.linked.2⟩
  | modifyPlayer p' hf =>
    exact ⟨hh.player, hh.robot, (Lib.Heap.get_modify_field hf.robot).trans hh.linked.1,
      hh.linked.2⟩
  | link hp' hr' => exact hh.link hw hp' hr'

theorem HasRobot.edits (hw : WellFormed game) (hh : HasRobot game name key p r)
    (hp : ¬event.RemovesPlayer name) (hr : ¬event.RemovesRobot key)
    (h : Edits event game calls steps game') : HasRobot game' name key p r := by
  induction h with
  | refl => exact hh
  | tail hbefore hlast ih => exact ih.edit (hw.edits hbefore) hp hr hlast

theorem HasRobot.run {env : Externals} {app app' : Application} {events : List Event}
    {outputs : List Output} (hw : WellFormed app.game) (hh : HasRobot app.game name key p r)
    (hrun : Server.run env app events = .ok (app', outputs))
    (hkeep : ∀ event ∈ events, ¬event.RemovesPlayer name ∧ ¬event.RemovesRobot key) :
    WellFormed app'.game ∧ HasRobot app'.game name key p r := by
  refine Lib.run_invariant (fun app => WellFormed app.game ∧ HasRobot app.game name key p r)
    ?_ ⟨hw, hh⟩ hrun
  intro app₁ event app₂ output hmem ⟨hw₁, hh₁⟩ hstep
  obtain ⟨hp, hr⟩ := hkeep event hmem
  have hedits := Server.step_edits hstep
  exact ⟨hw₁.edits hedits, hh₁.edits hw₁ hp hr hedits⟩

/-- A hello of a player that has a robot gets that robot, and no other answer
than a welcome for it. -/
theorem HasRobot.hello (hw : WellFormed game) (hh : HasRobot game name key p r) (env : Externals)
    (channel : Channel) (clientId : Str) (hello : Hello) (localTime : Ptime)
    (hname : hello.name = name) :
    HasRobot (ProcessHello.execute env channel clientId hello localTime game).game name key p r ∧
      ∀ message ∈ (ProcessHello.execute env channel clientId hello localTime game).sent,
        ∃ welcome, message.body = .welcome welcome ∧ welcome.robot = key := by
  subst hname
  have hw' := hw.addPlayer hello.name
  obtain ⟨hplayer, hsame⟩ := addPlayer_players hw hello.name hh.player
  have hadd : HasRobot (game.addPlayer hello.name).2 hello.name key p r :=
    ⟨hplayer, by simpa using hh.robot, by rw [hsame]; exact hh.linked.1,
      by simpa using hh.linked.2⟩
  have hscan := hadd.getRobotForPlayer hw'
  obtain ⟨p', hp', hcase⟩ := execute_cases env channel clientId hello localTime game
  cases hcase with
  | refused hrobot => rw [hscan] at hrobot; cases hrobot
  | stopped r' hrobot _ houtcome =>
    rw [houtcome]
    exact ⟨hadd.link hw' hp' hrobot, by simp⟩
  | welcomed r' video hrobot _ _ hsent hlinks =>
    cases hscan.symm.trans hrobot
    refine ⟨hlinks.hasRobot (hadd.link hw' hp' hrobot), ?_⟩
    simp only [hsent, List.mem_singleton]
    rintro _ rfl
    exact ⟨_, rfl, by rw [addPlayer_robot]; exact hw.robotName hh.robot⟩

theorem WellFormed.welcomed_hasRobot (hw : WellFormed game) {env : Externals} {channel : Channel}
    {clientId : Str} {hello : Hello} {localTime : Ptime} {message : Sent} {welcome : Welcome}
    (hsent : message ∈ (ProcessHello.execute env channel clientId hello localTime game).sent)
    (hbody : message.body = .welcome welcome) :
    ∃ p r, HasRobot (ProcessHello.execute env channel clientId hello localTime game).game
      hello.name welcome.robot p r := by
  have hw' := hw.addPlayer hello.name
  obtain ⟨p, hp, hcase⟩ := execute_cases env channel clientId hello localTime game
  cases hcase with
  | refused _ _ hgoodbye =>
    rw [hgoodbye, List.mem_singleton] at hsent
    rw [hsent] at hbody
    cases hbody
  | stopped r _ _ houtcome =>
    rw [houtcome] at hsent
    cases hsent
  | welcomed r video hrobot _ _ hwelcome hlinks =>
    rw [hwelcome, List.mem_singleton] at hsent
    rw [hsent] at hbody
    cases hbody
    obtain ⟨key, hkey, -⟩ := Game.getRobotForPlayer_some hrobot
    refine ⟨p, r, hlinks.hasRobot ⟨hp, ?_, ?_⟩⟩
    · rw [show (ProcessHello.welcomeOf _ video).robot = key from hw'.robotName hkey]
      exact hkey
    · exact ⟨by simp [Game.link_player], by simp [Game.link_robot]⟩

end

/-- In every state the server reaches, players and robots are assigned one to
one, a hello takes no robot from another player, a welcome gives the player its
robot, and, after any further run that removes neither of the two, a hello gets
the player this robot again. -/
theorem assignment_exclusive (env : Externals) (app : Application)
    (h : Server.Reachable env app) :
    Exclusive app.game ∧
      (∀ channel clientId hello localTime, KeepsOthers app.game
        (ProcessHello.execute env channel clientId hello localTime app.game).game hello.name) ∧
      (∀ channel clientId hello localTime, ∀ message ∈
        (ProcessHello.execute env channel clientId hello localTime app.game).sent,
        ∀ welcome, message.body = .welcome welcome → ∃ p r,
          HasRobot (ProcessHello.execute env channel clientId hello localTime app.game).game
            hello.name welcome.robot p r) ∧
      ∀ name key p r events app' outputs, HasRobot app.game name key p r →
        Server.run env app events = .ok (app', outputs) →
        (∀ event ∈ events, ¬event.RemovesPlayer name ∧ ¬event.RemovesRobot key) →
        ∀ channel clientId hello localTime, hello.name = name →
          HasRobot (ProcessHello.execute env channel clientId hello localTime app'.game).game
            name key p r ∧
          ∀ message ∈
            (ProcessHello.execute env channel clientId hello localTime app'.game).sent,
            ∃ welcome, message.body = .welcome welcome ∧ welcome.robot = key := by
  have hw := h.wellFormed
  refine ⟨hw.exclusive, fun channel clientId hello localTime =>
    hw.hello_keepsOthers env channel clientId hello localTime,
    fun _ _ _ _ _ hsent _ hbody => hw.welcomed_hasRobot hsent hbody, ?_⟩
  intro name key p r events app' outputs hh hrun hkeep channel clientId hello localTime hname
  obtain ⟨hw', hh'⟩ := hh.run hw hrun hkeep
  exact hh'.hello hw' env channel clientId hello localTime hname

def helloOf (name : Str) : RawMessage where
  routingId := "c".toList
  type := "Hello".toList
  payload := Char.ofNat 10 :: Char.ofNat name.length :: name

def adaPlays : List Event := oneRobot ++ [.message (helloOf "Ada".toList) .reply 0]

/-- Ada says hello, and once more after an agent has turned the robot off. -/
theorem assignment_exclusive_ada :
    ∃ app app' outputs outputs',
      Server.run .plain (Server.create [] 0 oneTeam) adaPlays = .ok (app, outputs) ∧
      Exclusive app.game ∧
      Server.run .plain app [.agent (.unregisterRobot "r1".toList) 0] = .ok (app', outputs') ∧
      HasRobot (ProcessHello.execute .plain .reply "c".toList { name := "Ada".toList }
        .notADateTime app'.game).game "Ada".toList "r1".toList ⟨0⟩ ⟨0⟩ := by
  refine ⟨_, _, _, _, rfl, ?_, rfl, ?_⟩
  · exact (assignment_exclusive .plain _ ⟨[], 0, oneTeam, adaPlays, _, rfl⟩).1
  · have hagain := (assignment_exclusive .plain _ ⟨[], 0, oneTeam, adaPlays, _, rfl⟩).2.2.2
    refine (hagain "Ada".toList "r1".toList _ _ [.agent (.unregisterRobot "r1".toList) 0] _ _
      ⟨rfl, rfl, rfl, rfl⟩ rfl ?_ _ _ _ _ rfl).1
    simp [Event.RemovesPlayer, Event.RemovesRobot]

end ServerGame
