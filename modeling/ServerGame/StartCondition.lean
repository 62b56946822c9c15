import ServerGame.ReadyHello

/-!
# When a hello calls start

The decision is taken after the new link, over all robots. Robots nobody drives
do not wait for a player, so they do not keep the game from starting.
-/

namespace ServerGame

namespace ProcessHello

-- ---------------------------------------------------------------------------
-- The call
-- ---------------------------------------------------------------------------

/-- The call is made: what stands in its place makes a difference. -/
def CallsStart (env : Externals) (channel : Channel) (clientId : Str) (hello : Hello)
    (game : Game) : Prop :=
  ∃ start start', executeWith start env channel clientId hello game ≠
    executeWith start' env channel clientId hello game

def NoRobotWaits (game : Game) : Prop :=
  ∀ (name : Str) r, game.robots[name]? = some r → (game.robot r).hasRealRobot = true →
    (game.getPlayerOfRobot r).isSome = true

-- ---------------------------------------------------------------------------
-- The branches
-- ---------------------------------------------------------------------------

variable {env : Externals} {channel : Channel} {clientId : Str} {hello : Hello}
  {game game' : Game} {p : PlayerRef} {r : RobotRef}

theorem noRobotWaits_iff : NoRobotWaits game ↔ game.getAvailableRobot = none := by
  rw [getAvailableRobot_none, NoRobotWaits]
  refine forall_congr' fun name => forall_congr' fun r => imp_congr_right fun _ => ?_
  rw [Game.getIsAvailable, Game.getHasPlayer, Bool.and_eq_false_iff, Bool.not_eq_false']
  cases (game.robot r).hasRealRobot <;> simp

theorem noRobotWaits_congr (h : SameLinks game game') :
    NoRobotWaits game' ↔ NoRobotWaits game := by
  simp only [NoRobotWaits, h.robots, h.robot, h.getPlayerOfRobot]

theorem setAddressOf_gameDuration (h : setAddressOf hello game = .ok game') :
    game'.gameDuration = game.gameDuration := by
  unfold setAddressOf at h
  split at h
  · cases h
    rfl
  · obtain ⟨p, -, h⟩ := Lib.bind_eq_ok.mp h
    cases h
    rfl

theorem executeWith_refused
    (hrobot : (game.addPlayer hello.name).2.getRobotForPlayer hello.name = none)
    (start start' : Game → Game) :
    executeWith start env channel clientId hello game =
      executeWith start' env channel clientId hello game := by
  unfold executeWith
  simp only [(addPlayer_stored game hello.name).1, hrobot, ↓reduceIte]

section
variable (hp : (game.addPlayer hello.name).2.players[hello.name]? = some p)
include hp

theorem executeWith_stopped
    (hrobot : (game.addPlayer hello.name).2.getRobotForPlayer hello.name = some r)
    (hvideo : videoOf env ((game.addPlayer hello.name).2.robot r) = none)
    (start start' : Game → Game) :
    executeWith start env channel clientId hello game =
      executeWith start' env channel clientId hello game := by
  unfold executeWith
  simp only [(addPlayer_stored game hello.name).1, hrobot, Game.accessPlayer_ok.mpr hp,
    videoOf_link, hvideo, ↓reduceIte]

theorem executeWith_welcomed {video : Str × UInt16}
    (hrobot : (game.addPlayer hello.name).2.getRobotForPlayer hello.name = some r)
    (hvideo : videoOf env ((game.addPlayer hello.name).2.robot r) = some video)
    {start : Game → Game}
    (haddress : setAddressOf hello
      (startIfReadyWith start hello ((game.addPlayer hello.name).2.link p r)) = .ok game') :
    (executeWith start env channel clientId hello game).game = game' := by
  unfold executeWith
  simp only [(addPlayer_stored game hello.name).1, hrobot, Game.accessPlayer_ok.mpr hp,
    videoOf_link, hvideo, haddress, ↓reduceIte]

/-- With no robot waiting the call of a ready player makes a difference: a
start that sets another duration leaves that duration. -/
theorem callsStart_of_ready {video : Str × UInt16}
    (hrobot : (game.addPlayer hello.name).2.getRobotForPlayer hello.name = some r)
    (hvideo : videoOf env ((game.addPlayer hello.name).2.robot r) = some video)
    (hready : hello.ready = some true)
    (hnone : ((game.addPlayer hello.name).2.link p r).getAvailableRobot = none) :
    CallsStart env channel clientId hello game := by
  have hwith : ∀ start, startIfReadyWith start hello ((game.addPlayer hello.name).2.link p r) =
      start ((game.addPlayer hello.name).2.link p r) := by
    intro start
    simp only [startIfReadyWith, hready, hnone, ↓reduceIte]
  have hduration : ∀ duration,
      (executeWith (·.setDuration duration) env channel clientId hello game).game.gameDuration =
        duration := by
    intro duration
    obtain ⟨game', haddress, -⟩ := @setAddressOf_ok
      (((game.addPlayer hello.name).2.link p r).setDuration duration) hello p hp
    have hset : setAddressOf hello (startIfReadyWith (·.setDuration duration) hello
        ((game.addPlayer hello.name).2.link p r)) = .ok game' := by rw [hwith, haddress]
    rw [executeWith_welcomed hp hrobot hvideo hset, setAddressOf_gameDuration haddress]
    rfl
  refine ⟨(·.setDuration 0), (·.setDuration 1), fun heq => ?_⟩
  have hzero := hduration 0
  rw [heq, hduration 1] at hzero
  exact absurd hzero (by decide)

theorem not_callsStart_of_waiting
    (hwait : ¬(hello.ready = some true ∧
      ((game.addPlayer hello.name).2.link p r).getAvailableRobot = none))
    (hrobot : (game.addPlayer hello.name).2.getRobotForPlayer hello.name = some r) :
    ¬CallsStart env channel clientId hello game := by
  have hwith : ∀ start, startIfReadyWith start hello ((game.addPlayer hello.name).2.link p r) =
      (game.addPlayer hello.name).2.link p r := by
    intro start
    unfold startIfReadyWith
    split
    · next hready =>
      split
      · next hnone => exact absurd ⟨hready, hnone⟩ hwait
      · rfl
    · rfl
  rintro ⟨start, start', hne⟩
  refine hne ?_
  unfold executeWith
  simp only [(addPlayer_stored game hello.name).1, hrobot, Game.accessPlayer_ok.mpr hp, hwith,
    ↓reduceIte]

end

-- ---------------------------------------------------------------------------
-- The condition
-- ---------------------------------------------------------------------------

/-- A hello calls start just when it is welcomed, its player is ready and after
the link no robot waits for a player; one that is sent goodbye never does. -/
theorem callsStart_iff (env : Externals) (channel : Channel) (clientId : Str) (hello : Hello)
    (localTime : Ptime) (game : Game) :
    (CallsStart env channel clientId hello game ↔
      (∃ welcome, (execute env channel clientId hello localTime game).sent =
        [reply channel clientId (.welcome welcome)]) ∧
      hello.ready = some true ∧
      NoRobotWaits (execute env channel clientId hello localTime game).game) ∧
    (reply channel clientId .goodbye ∈
        (execute env channel clientId hello localTime game).sent →
      ¬CallsStart env channel clientId hello game) := by
  obtain ⟨p, hp, hcase⟩ := execute_cases env channel clientId hello localTime game
  cases hcase with
  | refused hrobot hescaped hsent hlinks =>
    have hnot : ¬CallsStart env channel clientId hello game := fun ⟨start, start', hne⟩ =>
      hne (executeWith_refused hrobot start start')
    refine ⟨⟨fun h => absurd h hnot, ?_⟩, fun _ => hnot⟩
    rintro ⟨⟨welcome, hwelcome⟩, -⟩
    rw [hsent] at hwelcome
    simp [reply] at hwelcome
  | stopped r hrobot hvideo houtcome =>
    have hnot : ¬CallsStart env channel clientId hello game := fun ⟨start, start', hne⟩ =>
      hne (executeWith_stopped hp hrobot hvideo start start')
    refine ⟨⟨fun h => absurd h hnot, ?_⟩, fun _ => hnot⟩
    rintro ⟨⟨welcome, hwelcome⟩, -⟩
    simp [houtcome] at hwelcome
  | welcomed r video hrobot hvideo hescaped hsent hlinks =>
    have hwaits : NoRobotWaits (execute env channel clientId hello localTime game).game ↔
        ((game.addPlayer hello.name).2.link p r).getAvailableRobot = none := by
      rw [noRobotWaits_congr hlinks, noRobotWaits_iff]
    constructor
    · rw [hwaits]
      constructor
      · intro hcalls
        by_contra hnot
        refine not_callsStart_of_waiting hp (fun h => hnot ⟨⟨_, hsent⟩, h⟩) hrobot hcalls
      · rintro ⟨-, hready, hnone⟩
        exact callsStart_of_ready hp hrobot hvideo hready hnone
    · intro hgoodbye
      rw [hsent] at hgoodbye
      simp [reply] at hgoodbye

end ProcessHello

end ServerGame
