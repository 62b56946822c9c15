import ServerGame.Winner

/-!
# Robots and their teams

A robot keeps a reference into the map of teams. `removeTeam` does not look
whether robots are still in the team; here: exactly when every robot stays on a
team that is listed, so that what it captures counts.
-/

namespace ServerGame

variable {game game' : Game}

-- ---------------------------------------------------------------------------
-- What is promised
-- ---------------------------------------------------------------------------

/-- A capture by the team scores for a name of the next broadcast, and wins
under it. -/
def CaptureCounts (game : Game) (t : TeamRef) (item : ItemRef) : Prop :=
  ∃ capture game' state, game.captureItem t item = .ok (capture, game') ∧
    (ProcessTimer.execute game').sent = [publish "all_clients".toList (.gameState state)] ∧
    (capture.teamName, (game'.team t).score) ∈ state.teams ∧
    (game'.HasScoreToWin t → capture.teamName ∈ game'.winningTeams)

/-- The team of each robot is the one `getTeam` returns for its name. -/
structure RobotsListed (game : Game) : Prop where
  listed : ∀ (name : Str) r, game.robots[name]? = some r →
    game.teams[(game.team (game.robot r).team).name]? = some (game.robot r).team
  counts : ∀ (name : Str) r, game.robots[name]? = some r →
    ∀ item < game.items.allItems.length, CaptureCounts game (game.robot r).team item

def KeepsTeams (game : Game) (call : GameCall) : Prop :=
  ∀ teamName, call = .removeTeam teamName → ∀ (name : Str) r, game.robots[name]? = some r →
    game.teams[teamName]? ≠ some (game.robot r).team

-- ---------------------------------------------------------------------------
-- Captures by listed teams
-- ---------------------------------------------------------------------------

theorem CaptureCounts.of_listed {t : TeamRef} {item : ItemRef}
    (ht : game.teams[(game.team t).name]? = some t) (hitem : item < game.items.allItems.length) :
    CaptureCounts game t item := by
  have halive : game.teamIsAlive t = true := Game.teamIsAlive_iff.mpr ⟨_, ht⟩
  obtain ⟨it, hit⟩ : ∃ it, game.items.allItems[item]? = some it :=
    ⟨_, List.getElem?_eq_getElem hitem⟩
  refine ⟨_, _, _, Game.captureItem_ok.mpr ⟨it, halive, hit, rfl, rfl⟩, rfl, ?_, fun hwins => ?_⟩
  · exact List.mem_map.mpr ⟨_, Std.ExtTreeMap.mem_toList_iff_getElem?_eq_some.mpr ht, rfl⟩
  · refine mem_winningTeams.mpr ⟨_, t, ht, hwins, ?_⟩
    simp [Game.afterCapture, Game.modifyTeam_team]

-- ---------------------------------------------------------------------------
-- The calls
-- ---------------------------------------------------------------------------

/-- The invariant: the first half of the promise, on which the other rests. -/
structure Members (game : Game) : Prop where
  wellFormed : WellFormed game
  listed : ∀ (name : Str) r, game.robots[name]? = some r →
    game.teams[(game.team (game.robot r).team).name]? = some (game.robot r).team

theorem Members.robotsListed (h : Members game) : RobotsListed game where
  listed := h.listed
  counts name r hr _ hitem := .of_listed (h.listed name r hr) hitem

theorem Members.create (gameDuration : Int) (ruleset : Ruleset) :
    Members (Game.create gameDuration ruleset) where
  wellFormed := .create gameDuration ruleset
  listed name r hr := by simp [Game.create] at hr

theorem Members.same (h : Members game) (hw : WellFormed game')
    (hrobots : game'.robots = game.robots) (hheap : game'.robotHeap = game.robotHeap)
    (hteams : game'.teams = game.teams) (hname : ∀ t, (game'.team t).name = (game.team t).name) :
    Members game' where
  wellFormed := hw
  listed name r hr := by
    have hrobot : game'.robot r = game.robot r := by simp only [Game.robot, hheap]
    rw [hrobot, hname, hteams]
    exact h.listed name r (hrobots ▸ hr)

theorem Members.sameRoster (h : Members game) (hsame : SameRoster game game') : Members game' :=
  h.same (h.wellFormed.shrinks hsame.shrinks) hsame.robots hsame.robotHeap hsame.teams
    hsame.teamName

theorem Members.addTeam (h : Members game) (teamName : Str) :
    Members (game.addTeam teamName).2 where
  wellFormed := h.wellFormed.addTeam teamName
  listed name r hr := by
    have hadded := h.wellFormed.addTeam teamName
    unfold Game.addTeam at hr hadded ⊢
    split at hr
    · next hmem => simpa only [hmem, ↓reduceIte] using h.listed name r hr
    · next hnew =>
      simp only [hnew, ↓reduceIte] at hadded ⊢
      have hold := h.listed name r hr
      have hstays : ({ game with
          teamHeap := game.teamHeap.alloc (Team.ofName teamName)
          teams := game.teams.insert teamName game.teamHeap.fresh } : Game).teams[
            (game.team (game.robot r).team).name]? = some (game.robot r).team := by
        refine Std.ExtTreeMap.getElem?_insert_eq_some.mpr (.inr ⟨?_, hold⟩)
        rintro rfl
        exact hnew (Std.ExtTreeMap.mem_iff_isSome_getElem?.mpr (by rw [hold]; rfl))
      rw [← hadded.teamName hstays] at hstays
      exact hstays

theorem Members.removeTeam (h : Members game) {teamName : Str}
    (hkeep : KeepsTeams game (.removeTeam teamName)) : Members (game.removeTeam teamName).2 where
  wellFormed := h.wellFormed.shrinks (.removeTeam teamName)
  listed name r hr := by
    unfold Game.removeTeam at hr ⊢
    split at hr
    · next hmem =>
      simp only [hmem, ↓reduceIte]
      have hold := h.listed name r hr
      refine Std.ExtTreeMap.getElem?_erase_eq_some.mpr ⟨?_, hold⟩
      intro hsame
      exact hkeep teamName rfl name r hr (hsame ▸ hold)
    · next hmem => simpa only [hmem, ↓reduceIte] using h.listed name r hr

theorem Members.insertRobot (h : Members game) {name teamName : Str} {t : TeamRef}
    (ht : game.teams[teamName]? = some t) (port commandPort : UInt16) (robotId : Str) :
    Members (game.insertRobot name t port commandPort robotId) where
  wellFormed := h.wellFormed.insertRobot name t port commandPort robotId
  listed key r hr := by
    rw [Game.insertRobot_team Team.addRobot_name]
    rcases Std.ExtTreeMap.getElem?_insertIfNew_eq_some.mp hr with ⟨-, -, rfl⟩ | hold
    · rw [Game.insertRobot_robot_fresh]
      exact (congrArg (game.teams[·]?) (h.wellFormed.teamName ht)).trans ht
    · rw [Game.insertRobot_robot_of_ne (h.wellFormed.robotAllocated hold).ne_fresh]
      exact h.listed key r hold

theorem Members.removeRobot (h : Members game) (robotName : Str) :
    Members (game.removeRobot robotName).2 where
  wellFormed := h.wellFormed.shrinks (.removeRobot robotName)
  listed name r hr := by
    unfold Game.removeRobot at hr ⊢
    split at hr
    · next hmem =>
      simp only [hmem, ↓reduceIte]
      exact h.listed name r (Std.ExtTreeMap.getElem?_erase_eq_some.mp hr).2
    · next hmem => simpa only [hmem, ↓reduceIte] using h.listed name r hr

theorem Members.apply (h : Members game) {call : GameCall} {output : Output}
    (hkeep : KeepsTeams game call) (happly : call.apply game = .ok (game', output)) :
    Members game' := by
  have hw := h.wellFormed.edits (Edits.call happly)
  cases call with
  | addTeam name => cases happly; exact h.addTeam name
  | removeTeam name => cases happly; exact h.removeTeam hkeep
  | addRobot name teamName port commandPort robotId =>
    obtain ⟨_, hadd, -⟩ := GameCall.apply_addRobot.mp happly
    rcases Game.addRobot_ok hadd with ⟨-, rfl⟩ | ⟨id, t, -, -, -, ht, rfl⟩
    · exact h
    · exact h.insertRobot ht port commandPort id
  | removeRobot name => cases happly; exact h.removeRobot name
  | addPlayer name =>
    cases happly
    unfold Game.addPlayer at hw ⊢
    split
    · exact h
    · next hnew => exact h.same (by simpa only [hnew, ↓reduceIte] using hw) rfl rfl rfl fun _ => rfl
  | removePlayer name =>
    cases happly
    unfold Game.removePlayer at hw ⊢
    split
    · next hmem => exact h.same (by simpa only [hmem, ↓reduceIte] using hw) rfl rfl rfl fun _ => rfl
    · exact h
  | createItem | setTime | setDuration =>
    cases happly
    exact h.same hw rfl rfl rfl fun _ => rfl
  | start forceStop forced localTime =>
    cases happly
    exact h.sameRoster (.start forceStop forced (.at localTime))
  | stop => cases happly; exact h.sameRoster .stop
  | contact call =>
    obtain ⟨hcall, -⟩ := GameCall.apply_contact.mp happly
    exact h.sameRoster (.handleContactCall hcall)
  | step =>
    obtain ⟨_, hstep, -⟩ := GameCall.apply_step.mp happly
    exact h.sameRoster (.step hstep)

-- ---------------------------------------------------------------------------
-- Every run
-- ---------------------------------------------------------------------------

theorem RobotsListed.keepsTeams {teamName : Str} (hw : WellFormed game)
    (hlisted : RobotsListed (game.removeTeam teamName).2) :
    KeepsTeams game (.removeTeam teamName) := by
  rintro _ ⟨rfl⟩ name r hr hteam
  have hmem : teamName ∈ game.teams :=
    Std.ExtTreeMap.mem_iff_isSome_getElem?.mpr (by rw [hteam]; rfl)
  have hafter := hlisted.listed name r
  simp only [Game.removeTeam, hmem, ↓reduceIte] at hafter
  have hstill := (Std.ExtTreeMap.getElem?_erase_eq_some.mp (hafter hr)).1
  exact hstill (hw.teamName hteam).symm

/-- In a run of calls of the game, every robot stays on a listed team in every
state exactly when no call removes the team of a robot. -/
theorem robots_listed_iff (gameDuration : Int) (ruleset : Ruleset) (calls : List GameCall) :
    Lib.AllStates GameCall.apply (Game.create gameDuration ruleset) calls RobotsListed ↔
      Lib.AllSteps GameCall.apply (Game.create gameDuration ruleset) calls KeepsTeams := by
  constructor
  · rintro hlisted pre call post game outputs heq hrun teamName rfl
    have hw : WellFormed game :=
      Lib.run_invariant WellFormed (fun _ _ _ _ _ h happly => h.edits (Edits.call happly))
        (.create gameDuration ruleset) hrun
    have hafter : RobotsListed (game.removeTeam teamName).2 :=
      hlisted (pre ++ [.removeTeam teamName]) post _ _ (by simp [heq])
        (Lib.run_snoc.mpr ⟨game, outputs, {}, hrun, rfl, rfl⟩)
    exact hafter.keepsTeams hw teamName rfl
  · intro hkeep pre post game outputs heq hrun
    have hmembers := hkeep.invariant (P := Members)
      (fun _ _ _ _ _ h hk happly => h.apply hk happly) (.create gameDuration ruleset)
    exact (hmembers pre post game outputs heq hrun).robotsListed

/-- The team is removed and added again: the robot still refers to the one that
is gone, and what it captures is no team's. -/
theorem robot_unlisted :
    ∃ game outputs,
      Lib.run GameCall.apply (Game.create 0 oneTeam)
        [.addTeam "A".toList, .addRobot "r1".toList "A".toList 0 0 "robot_0".toList,
          .removeTeam "A".toList, .addTeam "A".toList] = .ok (game, outputs) ∧
      game.robots["r1".toList]? = some ⟨0⟩ ∧ game.teams["A".toList]? = some ⟨1⟩ ∧
      (game.robot ⟨0⟩).team = ⟨0⟩ ∧
      game.captureItem (game.robot ⟨0⟩).team 0 = .error .danglingTeam ∧ ¬RobotsListed game := by
  refine ⟨_, _, rfl, rfl, rfl, rfl, rfl, fun h => ?_⟩
  cases h.listed "r1".toList ⟨0⟩ rfl

end ServerGame
