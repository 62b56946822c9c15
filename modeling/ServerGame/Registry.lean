import ServerGame.Server
import ServerGame.Game.Laws

/-!
# The three indexes of robots

`m_robots` has the names, `m_robotsById` and `m_flagDetectorsByRobot` the ids.
`addRobot` writes all three and `removeRobot` only the first, so the indexes
agree until a robot is removed.
-/

namespace ServerGame

open Lib (bind_eq_ok pure_eq_ok)

variable {game game' : Game}

-- ---------------------------------------------------------------------------
-- Agreement
-- ---------------------------------------------------------------------------

structure IndexesAgree (game : Game) : Prop where
  name : ∀ (key : Str) r, game.robots[key]? = some r → (game.robot r).name = key
  id : ∀ (key : Str) r, game.robotsById[key]? = some r → (game.robot r).robotId = key
  detectorId : ∀ (key : Str) d, game.flagDetectorsByRobot[key]? = some d →
    (game.robot d.robot).robotId = key
  byId : ∀ r, game.robots[(game.robot r).name]? = some r ↔
    game.robotsById[(game.robot r).robotId]? = some r
  detector : ∀ r, game.robotsById[(game.robot r).robotId]? = some r ↔
    ∃ d, game.flagDetectorsByRobot[(game.robot r).robotId]? = some d ∧ d.robot = r

/-- A contact under the id of a robot is a contact of that robot, and what it
captures goes to the team of that robot. -/
def ContactsCredited (game : Game) : Prop :=
  ∀ (name : Str) r item game', game.robots[name]? = some r →
    game.robotIsInContactWith (game.robot r).robotId item = .ok game' →
    ∃ c, game'.contacts[(game.robot r).robotId]? = some c ∧ c.robot = r ∧
      ∀ now s c' game'' capture,
        (game'.setTime now).stepContact (game.robot r).robotId c = .ok (s, c', game'') →
        s.capture = some capture → capture.team = (game.robot r).team

def IdsAccepted (game : Game) : Prop :=
  ∀ id, game.getHasRobotById id = true →
    ∃ (name : Str) (r : RobotRef), game.robots[name]? = some r ∧ (game.robot r).robotId = id

structure RegistryAgrees (game : Game) : Prop where
  indexes : IndexesAgree game
  contacts : ContactsCredited game
  ids : IdsAccepted game

theorem IndexesAgree.contacts (h : IndexesAgree game) : ContactsCredited game := by
  intro name r item game' hr hcontact
  have hname := h.name name r hr
  have hid := (h.byId r).mp (hname.symm ▸ hr)
  obtain ⟨r', hr', -, -, rfl⟩ := Game.robotIsInContactWith_ok.mp hcontact
  cases hid.symm.trans hr'
  refine ⟨game.contactOf r item, ?_, rfl, ?_⟩
  · rw [Game.recordContact_contacts, Std.ExtTreeMap.getElem?_insert_self]
  · intro now s c' game'' capture hstep hcapture
    obtain ⟨-, ⟨-, rfl, -, -⟩ | ⟨-, c, hc, rfl, -⟩⟩ := Game.stepContact_ok.mp hstep
    · cases hcapture
    · cases hcapture
      obtain ⟨_, _, _, rfl, -⟩ := Game.captureItem_ok.mp hc
      show ((game.recordContact (game.robot r).robotId r item).robot r).team = _
      rw [Game.recordContact_frame]
      rfl

theorem IndexesAgree.ids (h : IndexesAgree game) : IdsAccepted game := by
  intro id hid
  unfold Game.getHasRobotById at hid
  obtain ⟨r, hr⟩ := Option.isSome_iff_exists.mp
    (Std.ExtTreeMap.isSome_getElem?_iff_mem.mpr (Std.ExtTreeMap.contains_iff_mem.mp hid))
  have hrid := h.id id r hr
  exact ⟨_, r, (h.byId r).mpr (hrid.symm ▸ hr), hrid⟩

-- ---------------------------------------------------------------------------
-- A new robot
-- ---------------------------------------------------------------------------

structure Indexed (game : Game) : Prop where
  agree : IndexesAgree game
  allocated : ∀ {key : Str} {r}, game.robots[key]? = some r → game.robotHeap.Allocated r

theorem Indexed.create (gameDuration : Int) (ruleset : Ruleset) :
    Indexed (Game.create gameDuration ruleset) where
  agree :=
    { name := fun key r h => by simp [Game.create] at h
      id := fun key r h => by simp [Game.create] at h
      detectorId := fun key d h => by simp [Game.create] at h
      byId := fun r => by simp [Game.create]
      detector := fun r => by simp [Game.create] }
  allocated h := by simp [Game.create] at h

theorem Indexed.byId_allocated (hi : Indexed game) {id : Str} {r : RobotRef}
    (hr : game.robotsById[id]? = some r) : game.robotHeap.Allocated r := by
  have hid := hi.agree.id id r hr
  exact hi.allocated ((hi.agree.byId r).mpr (hid.symm ▸ hr))

theorem Indexed.detector_byId (hi : Indexed game) {id : Str} {d : FlagDetector}
    (hd : game.flagDetectorsByRobot[id]? = some d) : game.robotsById[id]? = some d.robot := by
  have hid := hi.agree.detectorId id d hd
  have := (hi.agree.detector d.robot).mpr ⟨d, hid.symm ▸ hd, rfl⟩
  rwa [hid] at this

section
variable (name robotId : Str) (team : TeamRef) (port commandPort : UInt16)

theorem insertRobot_robots {name : Str} (hname : name ∉ game.robots) {key : Str} {r : RobotRef} :
    (game.insertRobot name team port commandPort robotId).robots[key]? = some r ↔
      (name = key ∧ game.robotHeap.fresh = r) ∨ game.robots[key]? = some r := by
  simp [Game.insertRobot, Std.ExtTreeMap.getElem?_insertIfNew_eq_some, hname]

theorem insertRobot_robotsById {robotId : Str} (hid : robotId ∉ game.robotsById) {key : Str}
    {r : RobotRef} :
    (game.insertRobot name team port commandPort robotId).robotsById[key]? = some r ↔
      (robotId = key ∧ game.robotHeap.fresh = r) ∨ game.robotsById[key]? = some r := by
  simp [Game.insertRobot, Std.ExtTreeMap.getElem?_insertIfNew_eq_some, hid]

theorem insertRobot_flagDetectors {robotId : Str} (hid : robotId ∉ game.flagDetectorsByRobot)
    {key : Str} {d : FlagDetector} :
    (game.insertRobot name team port commandPort robotId).flagDetectorsByRobot[key]? = some d ↔
      (robotId = key ∧ FlagDetector.ofRobot game.robotHeap.fresh = d) ∨
        game.flagDetectorsByRobot[key]? = some d := by
  simp [Game.insertRobot, Std.ExtTreeMap.getElem?_insertIfNew_eq_some, hid]

end

theorem Indexed.insertRobot (hi : Indexed game) {name robotId : Str} (hname : name ∉ game.robots)
    (hid : robotId ∉ game.robotsById) (team : TeamRef) (port commandPort : UInt16) :
    Indexed (game.insertRobot name team port commandPort robotId) := by
  have hid' : robotId ∉ game.flagDetectorsByRobot := by
    intro hmem
    have := hi.detector_byId (Std.ExtTreeMap.getElem?_eq_some_getElem hmem)
    exact hid (Std.ExtTreeMap.mem_iff_isSome_getElem?.mpr (by simp [this]))
  have hold : ∀ {r}, game.robotHeap.Allocated r →
      (game.insertRobot name team port commandPort robotId).robot r = game.robot r :=
    fun hr => Game.insertRobot_robot_of_ne hr.ne_fresh
  refine ⟨⟨?_, ?_, ?_, ?_, ?_⟩, ?_⟩
  · intro key r hr
    rcases (insertRobot_robots robotId team port commandPort hname).mp hr with ⟨rfl, rfl⟩ | hr
    · rw [Game.insertRobot_robot_fresh]
    · rw [hold (hi.allocated hr)]
      exact hi.agree.name key r hr
  · intro key r hr
    rcases (insertRobot_robotsById name team port commandPort hid).mp hr with ⟨rfl, rfl⟩ | hr
    · rw [Game.insertRobot_robot_fresh]
    · rw [hold (hi.byId_allocated hr)]
      exact hi.agree.id key r hr
  · intro key d hd
    rcases (insertRobot_flagDetectors name team port commandPort hid').mp hd with ⟨rfl, rfl⟩ | hd
    · exact congrArg Robot.robotId (Game.insertRobot_robot_fresh)
    · rw [hold (hi.byId_allocated (hi.detector_byId hd))]
      exact hi.agree.detectorId key d hd
  · intro r
    rw [insertRobot_robots robotId team port commandPort hname,
      insertRobot_robotsById name team port commandPort hid]
    by_cases hr : r = game.robotHeap.fresh
    · subst hr
      simp [Game.insertRobot_robot_fresh]
    · simp only [Game.insertRobot_robot_of_ne hr, Ne.symm hr,
        and_false, false_or]
      exact hi.agree.byId r
  · intro r
    rw [insertRobot_robotsById name team port commandPort hid]
    by_cases hr : r = game.robotHeap.fresh
    · subst hr
      simp only [Game.insertRobot_robot_fresh, and_self, true_or, true_iff]
      exact ⟨_, (insertRobot_flagDetectors name team port commandPort hid').mpr
        (.inl ⟨rfl, rfl⟩), rfl⟩
    · simp only [Game.insertRobot_robot_of_ne hr, Ne.symm hr,
        and_false, false_or, hi.agree.detector r]
      refine exists_congr fun d => and_congr_left fun hd => ?_
      rw [insertRobot_flagDetectors name team port commandPort hid']
      -- the new detector is not the one of an older robot
      refine ⟨.inr, ?_⟩
      rintro (⟨-, rfl⟩ | h)
      · exact absurd hd.symm hr
      · exact h
  · intro key r hr
    rcases (insertRobot_robots robotId team port commandPort hname).mp hr with ⟨-, rfl⟩ | hr
    · exact Lib.Heap.allocated_fresh _ _
    · exact (hi.allocated hr).alloc _

-- ---------------------------------------------------------------------------
-- The runs
-- ---------------------------------------------------------------------------

def GameCall.Enrols : GameCall → Prop
  | .addTeam _ | .removeTeam _ | .addRobot .. | .removeRobot _ => True
  | _ => False

def GameCall.passedId : GameCall → Option Str
  | .addRobot _ _ _ _ robotId => some robotId
  | _ => none

/-- Explicit ids are pairwise distinct, and after a robot added without an id
there are no more of them. -/
def EnrolledInOrder (calls : List GameCall) : Prop :=
  calls.Pairwise fun earlier later => ∀ id id', earlier.passedId = some id →
    later.passedId = some id' → id' ≠ [] → id ≠ [] ∧ id ≠ id'

def KeepsRobots (game : Game) (call : GameCall) : Prop :=
  ∀ name, call = .removeRobot name → name ∉ game.robots

/-- Where the ids of the index come from: passed to a call, or made after some
call passed none. -/
def IdsPassed (calls : List GameCall) (game : Game) : Prop :=
  ∀ id ∈ game.robotsById, (∃ call ∈ calls, call.passedId = some id) ∨
    ∃ call ∈ calls, call.passedId = some []

theorem IdsPassed.mono {calls : List GameCall} (h : IdsPassed calls game) (call : GameCall)
    (hsame : game'.robotsById = game.robotsById) : IdsPassed (calls ++ [call]) game' := by
  intro id hid
  rw [hsame] at hid
  rcases h id hid with ⟨c, hc, he⟩ | ⟨c, hc, he⟩
  · exact .inl ⟨c, by simp [hc], he⟩
  · exact .inr ⟨c, by simp [hc], he⟩

theorem Indexed.chooseRobotId_fresh (hi : Indexed game) {calls post : List GameCall}
    {name teamName robotId id : Str} {port commandPort : UInt16}
    (horder : EnrolledInOrder
      (calls ++ .addRobot name teamName port commandPort robotId :: post))
    (hpassed : IdsPassed calls game) (h : game.chooseRobotId robotId = .ok id) :
    id ∉ game.robotsById := by
  intro hmem
  rcases Game.chooseRobotId_ok.mp h with ⟨-, hnew⟩ | ⟨hne, rfl⟩
  · have hr := Std.ExtTreeMap.getElem?_eq_some_getElem hmem
    have hid := hi.agree.id id _ hr
    exact Game.getNewRobotId_fresh hnew ((hi.agree.byId _).mpr (hid.symm ▸ hr)) hid
  · have hpair := (List.pairwise_append.mp horder).2.2
    rcases hpassed id hmem with ⟨c, hc, he⟩ | ⟨c, hc, he⟩
    · exact (hpair c hc _ List.mem_cons_self id id he rfl hne).2 rfl
    · exact (hpair c hc _ List.mem_cons_self [] id he rfl hne).1 rfl

theorem IndexesAgree.sameRobots (h : IndexesAgree game) (hrobots : game'.robots = game.robots)
    (hbyId : game'.robotsById = game.robotsById)
    (hdetectors : game'.flagDetectorsByRobot = game.flagDetectorsByRobot)
    (hheap : game'.robotHeap = game.robotHeap) : IndexesAgree game' := by
  have hrobot : ∀ r, game'.robot r = game.robot r := by
    intro r
    simp only [Game.robot, hheap]
  constructor
  · intro key r hr
    rw [hrobot, h.name key r (hrobots ▸ hr)]
  · intro key r hr
    rw [hrobot, h.id key r (hbyId ▸ hr)]
  · intro key d hd
    rw [hrobot, h.detectorId key d (hdetectors ▸ hd)]
  · intro r
    rw [hrobot, hrobots, hbyId]
    exact h.byId r
  · intro r
    rw [hrobot, hbyId, hdetectors]
    exact h.detector r

theorem Indexed.apply (hi : Indexed game) {calls post : List GameCall} {call : GameCall}
    {output : Output} (henrols : call.Enrols) (horder : EnrolledInOrder (calls ++ call :: post))
    (hpassed : IdsPassed calls game) (hkeep : KeepsRobots game call)
    (h : call.apply game = .ok (game', output)) :
    Indexed game' ∧ IdsPassed (calls ++ [call]) game' := by
  cases call with
  | addTeam name =>
    cases h
    unfold Game.addTeam
    split
    · exact ⟨hi, hpassed.mono _ rfl⟩
    · exact ⟨⟨hi.agree.sameRobots rfl rfl rfl rfl, hi.allocated⟩, hpassed.mono _ rfl⟩
  | removeTeam name =>
    cases h
    unfold Game.removeTeam
    split
    · exact ⟨⟨hi.agree.sameRobots rfl rfl rfl rfl, hi.allocated⟩, hpassed.mono _ rfl⟩
    · exact ⟨hi, hpassed.mono _ rfl⟩
  | addRobot name teamName port commandPort robotId =>
    obtain ⟨_, hadd, -⟩ := GameCall.apply_addRobot.mp h
    rcases Game.addRobot_ok hadd with ⟨-, rfl⟩ | ⟨id, t, -, hname, hid, -, rfl⟩
    · exact ⟨hi, hpassed.mono _ rfl⟩
    · have hfresh := hi.chooseRobotId_fresh horder hpassed hid
      refine ⟨hi.insertRobot hname hfresh t port commandPort, fun id' hid' => ?_⟩
      rcases Std.ExtTreeMap.mem_insertIfNew.mp hid' with heq | hold
      · obtain rfl := Std.LawfulEqCmp.compare_eq_iff_eq.mp heq
        rcases Game.chooseRobotId_ok.mp hid with ⟨rfl, -⟩ | ⟨-, rfl⟩
        · exact .inr ⟨_, List.mem_append_right _ (List.mem_singleton_self _), rfl⟩
        · exact .inl ⟨_, List.mem_append_right _ (List.mem_singleton_self _), rfl⟩
      · exact hpassed.mono _ rfl id' hold
  | removeRobot name =>
    cases h
    have hnot := hkeep name rfl
    simp only [Game.removeRobot, hnot, ↓reduceIte]
    exact ⟨hi, hpassed.mono _ rfl⟩
  | _ => exact henrols.elim

theorem RegistryAgrees.keeps {call : GameCall} {output : Output} (hagree : RegistryAgrees game)
    (hagree' : RegistryAgrees game') (h : call.apply game = .ok (game', output)) :
    KeepsRobots game call := by
  rintro name rfl hmem
  cases h
  obtain ⟨r, hr⟩ : ∃ r, game.robots[name]? = some r :=
    ⟨_, Std.ExtTreeMap.getElem?_eq_some_getElem hmem⟩
  have hname := hagree.indexes.name name r hr
  have hbyId := (hagree.indexes.byId r).mp (by rw [hname]; exact hr)
  have hback := (hagree'.indexes.byId r).mpr
  simp only [Game.removeRobot, hmem, ↓reduceIte] at hback
  have hstill := hback hbyId
  rw [show ({ game with robots := game.robots.erase name } : Game).robot r = game.robot r from rfl,
    hname, Std.ExtTreeMap.getElem?_erase_eq_some] at hstill
  exact hstill.1 rfl

/-- In a run that enrols teams and robots, the indexes agree in every state
exactly when no robot is removed. -/
theorem registry_agrees_iff (gameDuration : Int) (ruleset : Ruleset) (calls : List GameCall)
    (game : Game) (outputs : List Output) (henrols : ∀ call ∈ calls, call.Enrols)
    (horder : EnrolledInOrder calls)
    (hrun : Lib.run GameCall.apply (Game.create gameDuration ruleset) calls =
      .ok (game, outputs)) :
    Lib.AllStates GameCall.apply (Game.create gameDuration ruleset) calls RegistryAgrees ↔
      Lib.AllSteps GameCall.apply (Game.create gameDuration ruleset) calls KeepsRobots := by
  constructor
  · intro hagree pre call post game₁ outputs₁ heq hpre
    subst heq
    obtain ⟨game₂, output, hstep, hagree₁, hagree₂⟩ := hagree.both hrun hpre
    exact hagree₁.keeps hagree₂ hstep
  · intro hkeep pre post game₁ outputs₁ heq hpre
    have hindexed := hkeep.history (P := fun calls game => Indexed game ∧ IdsPassed calls game)
      (fun pre call post _ _ _ heq hP hk hstep => hP.1.apply (henrols call (by simp [heq]))
        (heq ▸ horder) hP.2 hk hstep)
      ⟨Indexed.create gameDuration ruleset, fun id hid => by simp [Game.create] at hid⟩ heq hpre
    exact ⟨hindexed.1.agree, hindexed.1.agree.contacts, hindexed.1.agree.ids⟩

def twoTeams : Ruleset := { scoreToWin := 2, pointsOnCapture := 1, timeToCapture := 0 }

def twoRobots : List GameCall :=
  [.addTeam "A".toList, .addTeam "B".toList,
    .addRobot "r1".toList "A".toList 0 0 "robot_0".toList,
    .addRobot "r2".toList "B".toList 0 0 []]

theorem registry_agrees_iff_twoRobots :
    Lib.AllStates GameCall.apply (Game.create 0 twoTeams) twoRobots RegistryAgrees := by
  refine (registry_agrees_iff 0 twoTeams twoRobots _ _ ?_ ?_ rfl).mpr ?_
  · simp [twoRobots, GameCall.Enrols]
  · simp [EnrolledInOrder, twoRobots, GameCall.passedId]
  · intro pre call post game outputs heq _ name hcall
    have hmem : call ∈ twoRobots := by simp [heq]
    simp [hcall, twoRobots] at hmem

/-- A robot is removed and added again, now on team B: its new id is the old
one, which still leads to the robot on team A. -/
theorem registry_disagrees :
    ∃ game outputs,
      Lib.run GameCall.apply (Game.create 0 twoTeams)
        [.addTeam "A".toList, .addTeam "B".toList,
          .addRobot "r1".toList "A".toList 0 0 "robot_0".toList,
          .removeRobot "r1".toList, .addRobot "r1".toList "B".toList 0 0 []] =
        .ok (game, outputs) ∧
      game.robots["r1".toList]? = some ⟨1⟩ ∧ (game.robot ⟨1⟩).robotId = "robot_0".toList ∧
      game.robotsById["robot_0".toList]? = some ⟨0⟩ ∧ ¬RegistryAgrees game := by
  refine ⟨_, _, rfl, rfl, rfl, rfl, fun h => ?_⟩
  cases (h.indexes.byId ⟨1⟩).mp rfl

end ServerGame
