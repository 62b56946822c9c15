import ServerGame.Frames
import ServerGame.Restart

/-!
# A hello while the game runs

A ready player starts the game when no robot waits for a player, and does so
with the force flag: in a running game that is a restart. Any other hello
leaves the play alone.
-/

namespace ServerGame

variable {game game' : Game} {env : Externals} {hello : Hello} {localTime : Ptime}

-- ---------------------------------------------------------------------------
-- What is promised
-- ---------------------------------------------------------------------------

structure PlayUndisturbed (game game' : Game) : Prop where
  startTime : game'.startTime = game.startTime
  winner : game'.winner = game.winner
  teams : game'.teams = game.teams
  scores : ∀ (name : Str) t, game.teams[name]? = some t →
    (game'.team t).score = (game.team t).score
  items : game'.items.allItems.map (fun it => (it.owningTeam, it.captureState)) =
    game.items.allItems.map fun it => (it.owningTeam, it.captureState)

/-- The player is ready and gets a robot whose video URL can be read, and no
other robot waits for a player. -/
def RestartsGame (env : Externals) (game : Game) (hello : Hello) : Prop :=
  hello.ready = some true ∧ ∃ r, game.getRobotForPlayer hello.name = some r ∧
    (ProcessHello.videoOf env (game.robot r)).isSome = true ∧
    ∀ (name : Str) r', game.robots[name]? = some r' → r' ≠ r → game.getIsAvailable r' = false

structure JustStarted (game : Game) (localTime : Ptime) : Prop where
  startTime : game.startTime = localTime
  winner : game.winner = none
  scores : ∀ (name : Str) t, game.teams[name]? = some t → (game.team t).score = 0
  items : ∀ it ∈ game.items.allItems, it.owningTeam = [] ∧ it.captureState = .pending

-- ---------------------------------------------------------------------------
-- What a hello does to the play
-- ---------------------------------------------------------------------------

theorem SamePlay.start (h : SamePlay game game') (localTime : Ptime) :
    SamePlay (game.start true none localTime) (game'.start true none localTime) := by
  have hstopped : SamePlay { game with winner := none }.resetScores.stop
      { game' with winner := none }.resetScores.stop := by
    unfold Game.stop Game.resetScores
    simp only [h.isRunning, h.teams, h.teamHeap, h.items]
    split
    · exact ⟨h.gameDuration, h.startTime, h.time, rfl, rfl, rfl, rfl, rfl⟩
    · exact ⟨h.gameDuration, h.startTime, h.time, rfl, rfl, rfl, rfl, rfl⟩
  rw [Game.start_true, Game.start_true]
  exact ⟨hstopped.gameDuration, rfl, rfl, hstopped.winner, rfl, hstopped.teams,
    hstopped.teamHeap, hstopped.items⟩

/-- Only a hello that is welcomed may start the game. -/
inductive HelloPlay (env : Externals) (hello : Hello) (localTime : Ptime) (game : Game)
    (p : PlayerRef) (outcome : Outcome) : Prop
  | refused (hrobot : (game.addPlayer hello.name).2.getRobotForPlayer hello.name = none)
      (h : SamePlay game outcome.game)
  | stopped (r) (hrobot : (game.addPlayer hello.name).2.getRobotForPlayer hello.name = some r)
      (hvideo : ProcessHello.videoOf env ((game.addPlayer hello.name).2.robot r) = none)
      (h : SamePlay game outcome.game)
  | welcomed (r video)
      (hrobot : (game.addPlayer hello.name).2.getRobotForPlayer hello.name = some r)
      (hvideo : ProcessHello.videoOf env ((game.addPlayer hello.name).2.robot r) = some video)
      (h : SamePlay (ProcessHello.startIfReady hello localTime
        ((game.addPlayer hello.name).2.link p r)) outcome.game)

theorem execute_play (env : Externals) (channel : Channel) (clientId : Str) (hello : Hello)
    (localTime : Ptime) (game : Game) :
    ∃ p, (game.addPlayer hello.name).2.players[hello.name]? = some p ∧
      HelloPlay env hello localTime game p
        (ProcessHello.execute env channel clientId hello localTime game) := by
  obtain ⟨hadded, p, hp⟩ := addPlayer_stored game hello.name
  refine ⟨p, hp, ?_⟩
  have haccess := Game.accessPlayer_ok.mpr hp
  have hadd : SamePlay game (game.addPlayer hello.name).2 := .addPlayer hello.name
  unfold ProcessHello.execute ProcessHello.executeWith
  simp only [hadded, ↓reduceIte]
  cases hrobot : (game.addPlayer hello.name).2.getRobotForPlayer hello.name with
  | none =>
    obtain ⟨game', haddress, -⟩ := setAddressOf_ok hp
    simp only [haddress]
    exact .refused hrobot (hadd.trans (.setAddressOf haddress))
  | some r =>
    simp only [haccess, videoOf_link]
    cases hvideo : ProcessHello.videoOf env ((game.addPlayer hello.name).2.robot r) with
    | none => exact .stopped r hrobot hvideo (hadd.trans (.link p r))
    | some video =>
      have hstart : SameLinks ((game.addPlayer hello.name).2.link p r) _ :=
        .startIfReady hello localTime
      obtain ⟨game', haddress, -⟩ := setAddressOf_ok (hstart.players ▸ hp)
      simp only [ProcessHello.startIfReadyWith_start, haddress]
      exact .welcomed r video hrobot hvideo (.setAddressOf haddress)

theorem link_getIsAvailable {p : PlayerRef} {r : RobotRef} {name : Str}
    (hp : game.players[name]? = some p) (r' : RobotRef) :
    (game.link p r).getIsAvailable r' = if r' = r then false else game.getIsAvailable r' := by
  have halive : (game.link p r).playerIsAlive p = true := Game.playerIsAlive_iff.mpr ⟨name, hp⟩
  simp only [Game.getIsAvailable, Game.getHasPlayer, Game.getPlayerOfRobot, Game.link_robot]
  split
  · simp [halive]
  · rfl

theorem getAvailableRobot_none :
    game.getAvailableRobot = none ↔
      ∀ (name : Str) r, game.robots[name]? = some r → game.getIsAvailable r = false := by
  rw [Game.getAvailableRobot, Option.map_eq_none_iff, Std.ExtTreeMap.findFirst_none]

theorem addPlayer_getIsAvailable (hw : WellFormed game) (name : Str) (r : RobotRef) :
    (game.addPlayer name).2.getIsAvailable r = game.getIsAvailable r := by
  simp only [Game.getIsAvailable, Game.getHasPlayer, addPlayer_getPlayerOfRobot hw,
    addPlayer_robot]

theorem WellFormed.linked_getAvailableRobot (hw : WellFormed game) {name playerName : Str}
    {p : PlayerRef} {r : RobotRef} (hp : (game.addPlayer name).2.players[playerName]? = some p) :
    ((game.addPlayer name).2.link p r).getAvailableRobot = none ↔
      ∀ (key : Str) r', game.robots[key]? = some r' → r' ≠ r → game.getIsAvailable r' = false := by
  rw [getAvailableRobot_none]
  have hrobots : ((game.addPlayer name).2.link p r).robots = game.robots := addPlayer_robots name
  simp only [hrobots, link_getIsAvailable hp, addPlayer_getIsAvailable hw]
  refine forall_congr' fun key => forall_congr' fun r' => imp_congr_right fun _ => ?_
  by_cases hr : r' = r <;> simp [hr]

/-- A hello restarts the game or leaves the play as it is. -/
theorem WellFormed.hello_play (hw : WellFormed game) (channel : Channel) (clientId : Str) :
    (RestartsGame env game hello ∧ SamePlay (game.start true none localTime)
        (ProcessHello.execute env channel clientId hello localTime game).game) ∨
      (¬RestartsGame env game hello ∧
        SamePlay game (ProcessHello.execute env channel clientId hello localTime game).game) := by
  obtain ⟨p, hp, hcase⟩ := execute_play env channel clientId hello localTime game
  have hscan := addPlayer_getRobotForPlayer hw hello.name hello.name
  cases hcase with
  | refused hrobot h =>
    refine .inr ⟨?_, h⟩
    rintro ⟨-, r, hr, -⟩
    rw [hscan, hr] at hrobot
    cases hrobot
  | stopped r hrobot hvideo h =>
    refine .inr ⟨?_, h⟩
    rintro ⟨-, r', hr, hsome, -⟩
    rw [hscan, hr] at hrobot
    cases hrobot
    rw [addPlayer_robot] at hvideo
    simp [hvideo] at hsome
  | welcomed r video hrobot hvideo h =>
    have hlinked : SamePlay game ((game.addPlayer hello.name).2.link p r) :=
      (SamePlay.addPlayer hello.name).trans (.link p r)
    rw [hscan] at hrobot
    rw [addPlayer_robot] at hvideo
    have hwaits := @WellFormed.linked_getAvailableRobot _ hw _ _ _ r hp
    rw [ProcessHello.startIfReady_eq] at h
    by_cases hready : hello.ready = some true
    · rw [if_pos hready] at h
      split at h
      · next hnone =>
        refine .inl ⟨⟨hready, r, hrobot, by simp [hvideo], hwaits.mp hnone⟩, ?_⟩
        exact (hlinked.start localTime).trans h
      · next hsome =>
        refine .inr ⟨?_, hlinked.trans h⟩
        rintro ⟨-, r', hr, -, hothers⟩
        cases hrobot.symm.trans hr
        rw [hwaits.mpr hothers] at hsome
        cases hsome
    · rw [if_neg hready] at h
      exact .inr ⟨fun h => hready h.1, hlinked.trans h⟩

theorem SamePlay.undisturbed (h : SamePlay game game') : PlayUndisturbed game game' where
  startTime := h.startTime
  winner := h.winner
  teams := h.teams
  scores name t _ := by simp only [Game.team, h.teamHeap]
  items := by rw [h.items]

theorem PlayUndisturbed.trans {g₁ g₂ g₃ : Game} (h : PlayUndisturbed g₁ g₂)
    (h' : PlayUndisturbed g₂ g₃) : PlayUndisturbed g₁ g₃ where
  startTime := h'.startTime.trans h.startTime
  winner := h'.winner.trans h.winner
  teams := h'.teams.trans h.teams
  scores name t ht := (h'.scores name t (h.teams ▸ ht)).trans (h.scores name t ht)
  items := h'.items.trans h.items

/-- The restart of a running game goes unnoticed only in a game that has just
started. -/
theorem restart_undisturbed_iff (hrun : game.isRunning = true) :
    PlayUndisturbed game (game.start true none localTime) ↔ JustStarted game localTime := by
  have htime : (game.start true none localTime).startTime = localTime := by
    rw [Game.start_true]
    rfl
  have hitems : (game.start true none localTime).items = game.items.resetAllItems := by
    rw [start_true_items, if_pos hrun]
  constructor
  · intro h
    refine ⟨h.startTime.symm.trans htime, h.winner.symm.trans (start_true_winner none localTime),
      fun name t ht => ?_, fun it hit => ?_⟩
    · rw [← h.scores name t ht, start_true_score none localTime ht]
    · have hsame := h.items
      rw [hitems, ItemRegistry.resetAllItems, List.map_map] at hsame
      have heq := List.map_inj_left.mp hsame it hit
      simp only [Function.comp_apply, Item.reset, Prod.mk.injEq] at heq
      exact ⟨heq.1.symm, heq.2.symm⟩
  · intro h
    refine ⟨htime.trans h.startTime.symm, (start_true_winner none localTime).trans h.winner.symm,
      start_true_teams none localTime, fun name t ht => ?_, ?_⟩
    · rw [start_true_score none localTime ht, h.scores name t ht]
    · rw [hitems, ItemRegistry.resetAllItems, List.map_map]
      refine List.map_inj_left.mpr fun it hit => ?_
      simp [Item.reset, h.items it hit]

/-- In every state the server reaches in which the game runs, a hello leaves
the play alone exactly when it does not restart the game or the game has
started at that very time and nothing has happened yet. -/
theorem hello_undisturbed_iff (env : Externals) (app : Application)
    (h : Server.Reachable env app) (hrun : app.game.isRunning = true) (channel : Channel)
    (clientId : Str) (hello : Hello) (localTime : Ptime) :
    PlayUndisturbed app.game
        (ProcessHello.execute env channel clientId hello localTime app.game).game ↔
      ¬RestartsGame env app.game hello ∨ JustStarted app.game localTime := by
  rcases @WellFormed.hello_play _ env hello localTime h.wellFormed channel clientId with
    ⟨hrestarts, hplay⟩ | ⟨hnot, hplay⟩
  · rw [← restart_undisturbed_iff hrun]
    have hsame := hplay.undisturbed
    have hback : PlayUndisturbed
        (ProcessHello.execute env channel clientId hello localTime app.game).game
        (app.game.start true none localTime) :=
      ⟨hsame.startTime.symm, hsame.winner.symm, hsame.teams.symm,
        fun name t ht => (hsame.scores name t (hsame.teams ▸ ht)).symm, hsame.items.symm⟩
    constructor
    · exact fun hplay => .inr (hplay.trans hback)
    · rintro (hnot | hstarted)
      · exact absurd hrestarts hnot
      · exact hstarted.trans hsame
  · exact ⟨fun _ => .inl hnot, fun _ => hplay.undisturbed⟩

def captured : List Event :=
  oneRobot ++
    [.call (.createItem "flag".toList "red".toList ∅ 2), .call (.start true none 0),
      .call (.contact (.isInContactWith "robot_0".toList 0)), .clock 1, .tic]

def firstOfTwo : Ruleset := { scoreToWin := 2, pointsOnCapture := 1, timeToCapture := 0 }

theorem hello_undisturbed_iff_ada :
    ∃ app outputs, Server.run .plain (Server.create [] 2000000 firstOfTwo) captured =
        .ok (app, outputs) ∧
      PlayUndisturbed app.game (ProcessHello.execute .plain .reply "c".toList
        { name := "Ada".toList } .notADateTime app.game).game := by
  refine ⟨_, _, rfl, (hello_undisturbed_iff .plain _ ⟨[], 2000000, firstOfTwo, captured, _, rfl⟩
    rfl .reply "c".toList { name := "Ada".toList } .notADateTime).mpr (.inl ?_)⟩
  rintro ⟨hready, -⟩
  cases hready

/-- The flag is captured; then Ada, ready and on the only robot, says hello: the
game starts again and the score of the team is back to 0. -/
theorem hello_restarts :
    ∃ app outputs, Server.run .plain (Server.create [] 2000000 firstOfTwo) captured =
        .ok (app, outputs) ∧
      app.game.isRunning = true ∧ app.game.teams["A".toList]? = some ⟨0⟩ ∧
      (app.game.team ⟨0⟩).score = 1 ∧
      ((ProcessHello.execute .plain .reply "c".toList { name := "Ada".toList, ready := some true }
        (.at 1) app.game).game.team ⟨0⟩).score = 0 ∧
      ¬PlayUndisturbed app.game (ProcessHello.execute .plain .reply "c".toList
        { name := "Ada".toList, ready := some true } (.at 1) app.game).game := by
  refine ⟨_, _, rfl, rfl, rfl, rfl, rfl, fun h => ?_⟩
  cases h.scores "A".toList ⟨0⟩ rfl

end ServerGame
