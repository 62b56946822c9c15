import ServerGame.Server
import ServerGame.Game.Contacts

/-!
# When a contact captures

The map of contacts holds, for each robot, the last contact recorded for it
unless it was dropped or has captured. This module reads that off the history
of calls: a tick captures for a robot exactly when the last call about it was
a contact, the time to capture has passed since, and no earlier tick found so.
-/

namespace ServerGame

open Lib (bind_eq_ok pure_eq_ok)

variable {game game₀ game' : Game}

-- ---------------------------------------------------------------------------
-- Histories of calls
-- ---------------------------------------------------------------------------

def GameCall.Concerns (id : Str) : GameCall → Prop
  | .contact (.isInContactWith id' _) | .contact (.dropsContactWith id' _) => id' = id
  | _ => False

def clockAfter (time : Ptime) (calls : List GameCall) : Ptime :=
  calls.foldl (fun time call => match call with | .setTime time' => time' | _ => time) time

/-- Recorded after `before` and followed by `since`, a contact is still the
last call about its robot, and no tick in `since` has found its time up. -/
structure Waiting (game : Game) (before since : List GameCall) (id : Str) (item : ItemRef) :
    Prop where
  last : ∀ call ∈ since, ¬call.Concerns id
  noTick : ∀ earlier later, since = earlier ++ .step :: later →
    (clockAfter game.time (before ++ .contact (.isInContactWith id item) :: earlier)).isAfter
      ((clockAfter game.time before).plus (milliseconds game.ruleset.timeToCapture)) = false

def TimeIsUp (game : Game) (before since : List GameCall) (id : Str) (item : ItemRef) : Prop :=
  (clockAfter game.time (before ++ .contact (.isInContactWith id item) :: since)).isAfter
    ((clockAfter game.time before).plus (milliseconds game.ruleset.timeToCapture)) = true

def recordedAfter (game : Game) (calls : List GameCall) (r : RobotRef) (item : ItemRef) :
    Contact where
  robot := r
  item := item
  stopTime := (clockAfter game.time calls).plus (milliseconds game.ruleset.timeToCapture)

/-- The contact the history leaves pending for a robot. -/
def Pending (game : Game) (calls : List GameCall) (id : Str) (c : Contact) : Prop :=
  ∃ before since r, calls = before ++ .contact (.isInContactWith id c.item) :: since ∧
    Waiting game before since id c.item ∧ game.robotsById[id]? = some r ∧
    c = recordedAfter game before r c.item

theorem clockAfter_append (time : Ptime) (calls calls' : List GameCall) :
    clockAfter time (calls ++ calls') = clockAfter (clockAfter time calls) calls' :=
  List.foldl_append

theorem pending_concat {calls : List GameCall} {call : GameCall} {id : Str} {c : Contact} :
    Pending game (calls ++ [call]) id c ↔
      (∃ r, call = .contact (.isInContactWith id c.item) ∧ game.robotsById[id]? = some r ∧
        c = recordedAfter game calls r c.item) ∨
      (Pending game calls id c ∧ ¬call.Concerns id ∧
        (call = .step → (clockAfter game.time calls).isAfter c.stopTime = false)) := by
  constructor
  · rintro ⟨before, since, r, heq, hwait, hr, hc⟩
    rcases List.eq_nil_or_concat since with rfl | ⟨since, call', rfl⟩
    · obtain ⟨rfl, hcall⟩ := List.append_inj' heq rfl
      cases hcall
      exact .inl ⟨r, rfl, hr, hc⟩
    · have heq' : calls ++ [call] =
          (before ++ .contact (.isInContactWith id c.item) :: since) ++ [call'] := by
        rw [heq]; simp
      obtain ⟨rfl, hcall⟩ := List.append_inj' heq' rfl
      cases hcall
      refine .inr ⟨⟨before, since, r, rfl, ⟨?_, ?_⟩, hr, hc⟩, ?_, ?_⟩
      · exact fun call hmem => hwait.last call (by simp [hmem])
      · rintro earlier later rfl
        exact hwait.noTick earlier (later ++ [call]) (by simp)
      · exact hwait.last call (by simp)
      · rintro rfl
        rw [hc]
        exact hwait.noTick since [] (by simp)
  · rintro (⟨r, rfl, hr, hc⟩ | ⟨⟨before, since, r, rfl, hwait, hr, hc⟩, hother, htick⟩)
    · exact ⟨calls, [], r, rfl, ⟨by simp, by simp⟩, hr, hc⟩
    · refine ⟨before, since ++ [call], r, by simp, ⟨?_, ?_⟩, hr, hc⟩
      · intro call' hmem
        rcases List.mem_append.mp hmem with hmem | hmem
        · exact hwait.last call' hmem
        · cases List.mem_singleton.mp hmem
          exact hother
      · intro earlier later heq
        rcases List.eq_nil_or_concat later with rfl | ⟨later, call', rfl⟩
        · obtain ⟨rfl, hcall⟩ := List.append_inj' heq rfl
          cases hcall
          rw [hc] at htick
          exact htick rfl
        · have heq' : since ++ [call] = (earlier ++ .step :: later) ++ [call'] := by
            rw [heq]; simp
          obtain ⟨rfl, -⟩ := List.append_inj' heq' rfl
          exact hwait.noTick earlier later rfl

-- ---------------------------------------------------------------------------
-- What the calls leave alone
-- ---------------------------------------------------------------------------

structure SameStage (game game' : Game) : Prop where
  robotsById : game'.robotsById = game.robotsById
  teams : game'.teams = game.teams
  robotHeap : game'.robotHeap = game.robotHeap
  ruleset : game'.ruleset = game.ruleset
  items : game'.items.allItems.length = game.items.allItems.length

theorem SameStage.refl (game : Game) : SameStage game game := ⟨rfl, rfl, rfl, rfl, rfl⟩

theorem SameStage.trans {g₁ g₂ g₃ : Game} (h : SameStage g₁ g₂) (h' : SameStage g₂ g₃) :
    SameStage g₁ g₃ where
  robotsById := h'.robotsById.trans h.robotsById
  teams := h'.teams.trans h.teams
  robotHeap := h'.robotHeap.trans h.robotHeap
  ruleset := h'.ruleset.trans h.ruleset
  items := h'.items.trans h.items

theorem SameStage.recordContact (robotId : Str) (r : RobotRef) (item : ItemRef) :
    SameStage game (game.recordContact robotId r item) := by
  have hitems : (game.recordContact robotId r item).items.allItems.length =
      game.items.allItems.length := by
    unfold Game.recordContact
    split <;> simp [Game.modifyItem]
  rw [Game.recordContact_frame]
  exact ⟨rfl, rfl, rfl, rfl, hitems⟩

theorem SameStage.drop (robotId : Str) (item : ItemRef) :
    SameStage game (game.robotDropsContactWith robotId item) := by
  have hitems : (game.robotDropsContactWith robotId item).items.allItems.length =
      game.items.allItems.length := by
    unfold Game.robotDropsContactWith
    split <;> simp
  rw [Game.robotDropsContactWith_frame]
  exact ⟨rfl, rfl, rfl, rfl, hitems⟩

theorem SameStage.captureItem {t : TeamRef} {item : ItemRef} {c : Game.Capture}
    (h : game.captureItem t item = .ok (c, game')) : SameStage game game' := by
  obtain ⟨it, _, _, -, rfl⟩ := Game.captureItem_ok.mp h
  exact ⟨rfl, rfl, rfl, rfl, by simp [Game.afterCapture, Game.modifyItem, Game.modifyTeam]⟩

theorem SameStage.stop : SameStage game game.stop := by
  unfold Game.stop
  split
  · exact ⟨rfl, rfl, rfl, rfl, by simp⟩
  · exact .refl game

theorem SameStage.step {steps : List Game.ContactStep} (h : game.step = .ok (steps, game')) :
    SameStage game game' :=
  Game.step_invariant (SameStage game) (fun _ _ _ _ _ hs hc => hs.trans (.captureItem hc))
    (fun _ _ hs => hs.trans ⟨rfl, rfl, rfl, rfl, rfl⟩) (fun _ hs => hs.trans .stop)
    (fun _ _ hs => hs.trans ⟨rfl, rfl, rfl, rfl, rfl⟩) h (.refl game)

theorem step_time {steps : List Game.ContactStep} (h : game.step = .ok (steps, game')) :
    game'.time = game.time := by
  refine Game.step_invariant (fun g => g.time = game.time) ?_ (fun _ _ hg => hg) ?_
    (fun _ _ hg => hg) h rfl
  · intro g t item c g' hg hc
    rw [Game.captureItem_frame hc]
    exact hg
  · intro g hg
    unfold Game.stop
    split <;> exact hg

-- ---------------------------------------------------------------------------
-- The state follows the history
-- ---------------------------------------------------------------------------

def Game.HasRobotOnTeam (game : Game) (id : Str) : Prop :=
  ∃ r, game.robotsById[id]? = some r ∧ game.teamIsAlive (game.robot r).team = true

/-- The calls of a run of contacts: of registered robots with items there are,
drops, times and ticks. -/
def GameCall.PlaysIn (game : Game) : GameCall → Prop
  | .contact (.isInContactWith id item) =>
    game.HasRobotOnTeam id ∧ item < game.items.allItems.length
  | .contact (.dropsContactWith ..) | .setTime _ | .step => True
  | _ => False

structure FollowsHistory (game₀ : Game) (calls : List GameCall) (game : Game) : Prop where
  stage : SameStage game₀ game
  time : game.time = clockAfter game₀.time calls
  contacts : ∀ id c, game.contacts[id]? = some c ↔ Pending game₀ calls id c

theorem FollowsHistory.idle {calls : List GameCall} {call : GameCall}
    (hf : FollowsHistory game₀ calls game) (hstage : SameStage game game')
    (htime : game'.time = clockAfter game₀.time (calls ++ [call]))
    (hcall : ∀ id item, call ≠ .contact (.isInContactWith id item)) (htick : call ≠ .step)
    (hcontacts : ∀ id c, game'.contacts[id]? = some c ↔
      game.contacts[id]? = some c ∧ ¬call.Concerns id) :
    FollowsHistory game₀ (calls ++ [call]) game' := by
  refine ⟨hf.stage.trans hstage, htime, fun id c => ?_⟩
  rw [hcontacts, hf.contacts, pending_concat]
  constructor
  · rintro ⟨hp, hother⟩
    exact .inr ⟨hp, hother, fun h => absurd h htick⟩
  · rintro (⟨r, h, -, -⟩ | ⟨hp, hother, -⟩)
    · exact absurd h (hcall id c.item)
    · exact ⟨hp, hother⟩

theorem FollowsHistory.contact {calls : List GameCall} (hf : FollowsHistory game₀ calls game)
    {id : Str} {item : ItemRef} {r : RobotRef} (hr : game₀.robotsById[id]? = some r) :
    FollowsHistory game₀ (calls ++ [.contact (.isInContactWith id item)])
      (game.recordContact id r item) := by
  have htime : (game.recordContact id r item).time = game.time := by
    rw [Game.recordContact_frame]
  refine ⟨hf.stage.trans (.recordContact id r item), ?_, fun id' c => ?_⟩
  · rw [htime, hf.time, clockAfter_append]
    rfl
  · have hof : game.contactOf r item = recordedAfter game₀ calls r item := by
      rw [Game.contactOf, recordedAfter, hf.time, hf.stage.ruleset]
    rw [Game.recordContact_contacts, Std.ExtTreeMap.getElem?_insert_eq_some, hf.contacts,
      pending_concat, hof]
    constructor
    · rintro (⟨rfl, rfl⟩ | ⟨hne, hp⟩)
      · exact .inl ⟨r, rfl, hr, rfl⟩
      · exact .inr ⟨hp, hne, fun h => by cases h⟩
    · rintro (⟨r', hcall, hr', hc⟩ | ⟨hp, hother, -⟩)
      · cases hcall
        cases hr.symm.trans hr'
        exact .inl ⟨rfl, hc.symm⟩
      · exact .inr ⟨hother, hp⟩

theorem FollowsHistory.tick {calls : List GameCall} (hf : FollowsHistory game₀ calls game)
    {steps : List Game.ContactStep} (h : game.step = .ok (steps, game')) :
    FollowsHistory game₀ (calls ++ [.step]) game' := by
  refine ⟨hf.stage.trans (.step h), ?_, fun id c => ?_⟩
  · rw [step_time h, hf.time, clockAfter_append]
    rfl
  · rw [Game.step_contacts_iff h, hf.contacts, pending_concat, Game.isDue, hf.time]
    constructor
    · rintro ⟨hp, hdue⟩
      exact .inr ⟨hp, fun h => h, fun _ => hdue⟩
    · rintro (⟨r, hcall, -, -⟩ | ⟨hp, -, hdue⟩)
      · cases hcall
      · exact ⟨hp, hdue rfl⟩

theorem FollowsHistory.pending_ok {calls : List GameCall} (hf : FollowsHistory game₀ calls game)
    (hcalls : ∀ call ∈ calls, call.PlaysIn game₀) {id : Str} {c : Contact}
    (hc : game.contacts[id]? = some c) :
    c.finished = false ∧ c.item < game.items.allItems.length ∧
      game.teamIsAlive (game.robot c.robot).team = true := by
  obtain ⟨before, since, r, rfl, -, hr, hcontact⟩ := (hf.contacts id c).mp hc
  obtain ⟨⟨r', hr', halive⟩, hitem⟩ := hcalls _ (List.mem_append_right _ List.mem_cons_self)
  cases hr.symm.trans hr'
  rw [hcontact, hf.stage.items]
  refine ⟨rfl, hitem, ?_⟩
  simpa only [recordedAfter, Game.teamIsAlive, Game.robot, hf.stage.teams, hf.stage.robotHeap]
    using halive

theorem FollowsHistory.apply {calls : List GameCall} {call : GameCall}
    (hf : FollowsHistory game₀ calls game) (hcalls : ∀ call ∈ calls, call.PlaysIn game₀)
    (hcall : call.PlaysIn game₀) :
    ∃ game' output, call.apply game = .ok (game', output) ∧
      FollowsHistory game₀ (calls ++ [call]) game' := by
  cases call with
  | contact contactCall =>
    cases contactCall with
    | isInContactWith id item =>
      obtain ⟨⟨r, hr, halive⟩, hitem⟩ := hcall
      have hok : game.robotIsInContactWith id item = .ok (game.recordContact id r item) := by
        refine Game.robotIsInContactWith_ok.mpr ⟨r, ?_, ?_, ?_, rfl⟩
        · rw [hf.stage.robotsById]; exact hr
        · simpa only [Game.teamIsAlive, Game.robot, hf.stage.teams, hf.stage.robotHeap]
            using halive
        · rw [hf.stage.items]; exact hitem
      exact ⟨_, _, GameCall.apply_contact.mpr ⟨hok, rfl⟩, hf.contact hr⟩
    | dropsContactWith id item =>
      refine ⟨_, _, rfl, hf.idle (.drop id item) ?_ (by simp) (by simp) fun id' c => ?_⟩
      · rw [clockAfter_append, ← hf.time, Game.robotDropsContactWith_frame]
        rfl
      · rw [Game.robotDropsContactWith_contacts, Std.ExtTreeMap.getElem?_erase_eq_some, and_comm]
        rfl
  | setTime time =>
    refine ⟨_, _, rfl, hf.idle ⟨rfl, rfl, rfl, rfl, rfl⟩ ?_ (by simp) (by simp) fun id c => ?_⟩
    · rw [clockAfter_append]
      rfl
    · simp [Game.setTime, GameCall.Concerns]
  | step =>
    obtain ⟨steps, game', hstep⟩ := Game.step_total fun id c => hf.pending_ok hcalls
    exact ⟨game', _, GameCall.apply_step.mpr ⟨steps, hstep, rfl⟩, hf.tick hstep⟩
  | _ => exact hcall.elim

theorem FollowsHistory.run {calls : List GameCall} (hnone : ∀ id : Str, game.contacts[id]? = none)
    (hcalls : ∀ call ∈ calls, call.PlaysIn game) :
    ∃ game' outputs, Lib.run GameCall.apply game calls = .ok (game', outputs) ∧
      FollowsHistory game calls game' := by
  induction calls using List.reverseRecOn with
  | nil =>
    refine ⟨game, [], Lib.run_nil.mpr rfl, .refl game, rfl, fun id c => ?_⟩
    rw [hnone]
    constructor
    · intro h; cases h
    · rintro ⟨before, since, r, heq, -⟩
      simp at heq
  | append_singleton calls call ih =>
    have hbefore : ∀ call ∈ calls, call.PlaysIn game := fun c hc =>
      hcalls c (List.mem_append_left _ hc)
    obtain ⟨game₁, outputs, hrun, hf⟩ := ih hbefore
    obtain ⟨game₂, output, happly, hf'⟩ := hf.apply hbefore (hcalls call (by simp))
    exact ⟨game₂, outputs ++ [output], Lib.run_snoc.mpr ⟨_, _, _, hrun, happly, rfl⟩, hf'⟩

-- ---------------------------------------------------------------------------
-- Captures
-- ---------------------------------------------------------------------------

def CapturesFor (game : Game) (steps : List Game.ContactStep) (id : Str) (item : ItemRef) : Prop :=
  ∃ s ∈ steps, s.robotId = id ∧ ∃ capture, s.capture = some capture ∧ capture.item = item ∧
    ∃ r, game.robotsById[id]? = some r ∧ capture.team = (game.robot r).team

/-- The last call about the robot is a contact with the item, its time is up,
and no tick since then has found it up. -/
def DueAfter (game : Game) (calls : List GameCall) (id : Str) (item : ItemRef) : Prop :=
  ∃ before since, calls = before ++ .contact (.isInContactWith id item) :: since ∧
    Waiting game before since id item ∧ TimeIsUp game before since id item

theorem dueAfter_iff {calls : List GameCall} {id : Str} {item : ItemRef} :
    DueAfter game calls id item ∧ (∃ r, game.robotsById[id]? = some r) ↔
      ∃ c, Pending game calls id c ∧ c.item = item ∧
        (clockAfter game.time calls).isAfter c.stopTime = true := by
  constructor
  · rintro ⟨⟨before, since, rfl, hwait, hup⟩, r, hr⟩
    exact ⟨recordedAfter game before r item, ⟨before, since, r, rfl, hwait, hr, rfl⟩, rfl, hup⟩
  · rintro ⟨c, ⟨before, since, r, rfl, hwait, hr, hc⟩, rfl, hup⟩
    rw [hc] at hup
    exact ⟨⟨before, since, rfl, hwait, hup⟩, r, hr⟩

theorem TimeIsUp.once {before since later : List GameCall} {id : Str} {item : ItemRef}
    (hup : TimeIsUp game before since id item) :
    ¬Waiting game before (since ++ .step :: later) id item := by
  intro hwait
  have := hwait.noTick since later rfl
  rw [TimeIsUp] at hup
  rw [hup] at this
  cases this

theorem FollowsHistory.capturesFor_iff {calls : List GameCall}
    (hf : FollowsHistory game₀ calls game) (hcalls : ∀ call ∈ calls, call.PlaysIn game₀)
    {steps : List Game.ContactStep} (h : game.step = .ok (steps, game')) (id : Str)
    (item : ItemRef) : CapturesFor game₀ steps id item ↔ DueAfter game₀ calls id item := by
  have hrobot : game.robot = game₀.robot := by
    funext r
    simp only [Game.robot, hf.stage.robotHeap]
  constructor
  · rintro ⟨s, hs, hid, capture, hcap, hitem, -⟩
    obtain ⟨c, hc, hdue, hitem, -⟩ :=
      (Game.step_captures_iff h).mp ⟨s, hs, hid, capture, hcap, hitem, rfl⟩
    rw [Game.isDue, hf.time] at hdue
    exact (dueAfter_iff.mpr ⟨c, (hf.contacts id c).mp hc, hitem, hdue⟩).1
  · intro hdueAfter
    obtain ⟨before, since, rfl, hwait, hup⟩ := hdueAfter
    obtain ⟨⟨r, hr, -⟩, -⟩ := hcalls _ (List.mem_append_right _ List.mem_cons_self)
    have hpending := (hf.contacts id (recordedAfter game₀ before r item)).mpr
      ⟨before, since, r, rfl, hwait, hr, rfl⟩
    obtain ⟨s, hs, hid, capture, hcap, hitem, hteam⟩ :=
      (Game.step_captures_iff h).mpr ⟨_, hpending, by rw [Game.isDue, hf.time]; exact hup, rfl, rfl⟩
    exact ⟨s, hs, hid, capture, hcap, hitem, r, hr, by rw [hteam, hrobot]; rfl⟩

/-- In every run of contacts, drops, times and ticks, from a state without
contacts, no call stops with a fault, a tick steps each pending contact once,
and it captures for a robot exactly when the history before it says so. -/
theorem capture_iff (game : Game) (calls : List GameCall)
    (hnone : ∀ id : Str, game.contacts[id]? = none)
    (hcalls : ∀ call ∈ calls, call.PlaysIn game) :
    (∃ game' outputs, Lib.run GameCall.apply game calls = .ok (game', outputs)) ∧
    (∀ before after game₁ outputs₁ steps game₂, calls = before ++ .step :: after →
      Lib.run GameCall.apply game before = .ok (game₁, outputs₁) →
      game₁.step = .ok (steps, game₂) →
      (∀ id item, CapturesFor game steps id item ↔ DueAfter game before id item) ∧
      (∀ s ∈ steps, ∀ c, s.capture = some c → CapturesFor game steps s.robotId c.item) ∧
      steps.map (fun s => (s.robotId, s.contact)) = game₁.contacts.toList ∧
      (steps.map Game.ContactStep.robotId).Nodup) ∧
    ∀ before since later id item, TimeIsUp game before since id item →
      ¬Waiting game before (since ++ .step :: later) id item := by
  refine ⟨?_, ?_, fun _ _ _ _ _ hup => hup.once⟩
  · obtain ⟨game', outputs, hrun, -⟩ := FollowsHistory.run hnone hcalls
    exact ⟨game', outputs, hrun⟩
  · rintro before after game₁ outputs₁ steps game₂ rfl hrun hstep
    have hbefore : ∀ call ∈ before, call.PlaysIn game := fun c hc =>
      hcalls c (List.mem_append_left _ hc)
    obtain ⟨game₁', outputs₁', hrun', hf⟩ := FollowsHistory.run hnone hbefore
    cases hrun.symm.trans hrun'
    have hiff := hf.capturesFor_iff hbefore hstep
    refine ⟨hiff, fun s hs c hc => ?_, Game.step_steps hstep, ?_⟩
    · obtain ⟨contact, hcontact, hdue, hitem, -⟩ :=
        (Game.step_captures_iff hstep).mp ⟨s, hs, rfl, c, hc, rfl, rfl⟩
      rw [Game.isDue, hf.time] at hdue
      exact (hiff s.robotId c.item).mpr
        (dueAfter_iff.mpr ⟨contact, (hf.contacts _ _).mp hcontact, hitem, hdue⟩).1
    · have hkeys : steps.map Game.ContactStep.robotId = game₁.contacts.keys := by
        rw [← Std.ExtTreeMap.map_fst_toList_eq_keys, ← Game.step_steps hstep, List.map_map]
        rfl
      rw [hkeys]
      exact Std.ExtTreeMap.nodup_keys

def oneTouch : List GameCall :=
  [.setTime (.at 0), .contact (.isInContactWith "robot_0".toList 0), .setTime (.at 1)]

theorem capture_iff_oneTouch :
    ∃ game₁ outputs₁ steps game₂, Lib.run GameCall.apply oneFlag oneTouch = .ok (game₁, outputs₁) ∧
      game₁.step = .ok (steps, game₂) ∧ CapturesFor oneFlag steps "robot_0".toList 0 := by
  have hcalls : ∀ call ∈ oneTouch ++ [.step], call.PlaysIn oneFlag := by
    simp only [oneTouch, List.cons_append, List.nil_append, List.mem_cons, List.not_mem_nil,
      or_false]
    rintro call (rfl | rfl | rfl | rfl)
    · trivial
    · exact ⟨⟨⟨0⟩, rfl, rfl⟩, by decide⟩
    · trivial
    · trivial
  refine ⟨_, _, _, _, rfl, rfl, ?_⟩
  refine (((capture_iff oneFlag (oneTouch ++ [.step])
    (fun _ => Std.ExtTreeMap.getElem?_empty) hcalls).2.1 oneTouch [] _ _ _ _ rfl rfl rfl).1 _ _).mpr
    ⟨[.setTime (.at 0)], [.setTime (.at 1)], rfl, ⟨?_, ?_⟩, ?_⟩
  · simp [GameCall.Concerns]
  · intro earlier later heq
    have hmem : GameCall.step ∈ [GameCall.setTime (.at 1)] := by simp [heq]
    simp at hmem
  · unfold TimeIsUp
    decide

end ServerGame
