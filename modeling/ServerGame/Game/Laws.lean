import ServerGame.Game.Game

/-!
# What the calls of the game do

One law for each call: when it succeeds and what it leaves. Proofs about runs
use these and do not unfold the calls.
-/

namespace ServerGame.Game

open Lib (bind_eq_ok pure_eq_ok)

variable {game game' : Game}

-- ---------------------------------------------------------------------------
-- Scores and items
-- ---------------------------------------------------------------------------

theorem foldl_resetScore_get {entries : List (Str × TeamRef)}
    {heap : Lib.Heap ObjectKind.team Team} (t : TeamRef) :
    (entries.foldl (fun heap entry => heap.modify entry.2 Team.resetScore) heap).get t =
      if t ∈ entries.map Prod.snd then (heap.get t).resetScore else heap.get t := by
  induction entries generalizing heap with
  | nil => simp
  | cons entry entries ih =>
    rw [List.foldl_cons, ih]
    by_cases ht : t = entry.2
    · subst ht
      simp only [Lib.Heap.get_modify_self, List.map_cons, List.mem_cons, true_or, ↓reduceIte]
      split <;> rfl
    · simp only [Lib.Heap.get_modify_of_ne ht, List.map_cons, List.mem_cons, ht, false_or]

theorem foldl_resetScore_next {entries : List (Str × TeamRef)}
    {heap : Lib.Heap ObjectKind.team Team} :
    (entries.foldl (fun heap entry => heap.modify entry.2 Team.resetScore) heap).next =
      heap.next := by
  induction entries generalizing heap with
  | nil => rfl
  | cons entry entries ih => rw [List.foldl_cons, ih, Lib.Heap.next_modify]

theorem mem_values {m : Lib.Map Str TeamRef} {t : TeamRef} :
    t ∈ m.toList.map Prod.snd ↔ ∃ name : Str, m[name]? = some t := by
  simp only [List.mem_map, Prod.exists, Std.ExtTreeMap.mem_toList_iff_getElem?_eq_some]
  constructor
  · rintro ⟨name, _, h, rfl⟩; exact ⟨name, h⟩
  · rintro ⟨name, h⟩; exact ⟨name, t, h, rfl⟩

theorem resetScores_team_of_mem {name : Str} {t : TeamRef} (h : game.teams[name]? = some t) :
    game.resetScores.team t = (game.team t).resetScore := by
  unfold resetScores team
  rw [foldl_resetScore_get, if_pos (mem_values.mpr ⟨name, h⟩)]

theorem resetScores_team (game : Game) (t : TeamRef) :
    game.resetScores.team t = (game.team t).resetScore ∨
      game.resetScores.team t = game.team t := by
  unfold resetScores team
  rw [foldl_resetScore_get]
  split
  · exact .inl rfl
  · exact .inr rfl

@[simp] theorem stop_isRunning : game.stop.isRunning = false := by
  unfold stop
  split
  · rfl
  · next h => simpa using h

theorem start_true (forced : Option Ptime) (localTime : Ptime) :
    game.start true forced localTime =
      { { game with winner := none }.resetScores.stop with
        startTime := forced.getD localTime
        time := forced.getD localTime
        isRunning := true } := by
  unfold start
  simp only [↓reduceIte, stop_isRunning, Bool.false_eq_true]

theorem modifyTeam_team (t t' : TeamRef) (f : Team → Team) :
    (game.modifyTeam t f).team t' = if t' = t then f (game.team t) else game.team t' := rfl

theorem modifyPlayer_player (p p' : PlayerRef) (f : Player → Player) :
    (game.modifyPlayer p f).player p' = if p' = p then f (game.player p) else game.player p' := rfl

theorem teamIsAlive_iff {t : TeamRef} :
    game.teamIsAlive t = true ↔ ∃ name : Str, game.teams[name]? = some t :=
  Std.ExtTreeMap.holds_iff

theorem playerIsAlive_iff {p : PlayerRef} :
    game.playerIsAlive p = true ↔ ∃ name : Str, game.players[name]? = some p :=
  Std.ExtTreeMap.holds_iff

theorem robotIsAlive_of_mem {name : Str} {r : RobotRef} (h : game.robots[name]? = some r) :
    game.robotIsAlive r = true := by
  simp [robotIsAlive, Std.ExtTreeMap.holds_of_getElem? h]

theorem getPlayerOfRobot_some {r : RobotRef} {p : PlayerRef} :
    game.getPlayerOfRobot r = some p ↔
      (game.robot r).player = some p ∧ game.playerIsAlive p = true := by
  simp [getPlayerOfRobot, Option.filter_eq_some_iff]

theorem getRobotOfPlayer_some {r : RobotRef} {p : PlayerRef} :
    game.getRobotOfPlayer p = some r ↔
      (game.player p).robot = some r ∧ game.robotIsAlive r = true := by
  simp [getRobotOfPlayer, Option.filter_eq_some_iff]

theorem playerIsNamed_iff {name : Str} {r : RobotRef} :
    game.playerIsNamed name r = true ↔
      ∃ p, game.getPlayerOfRobot r = some p ∧ (game.player p).name = name := by
  unfold playerIsNamed
  split
  · next p hp => simp [hp]
  · next hp => simp [hp]

-- ---------------------------------------------------------------------------
-- Contacts
-- ---------------------------------------------------------------------------

def contactOf (game : Game) (r : RobotRef) (item : ItemRef) : Contact where
  robot := r
  item := item
  stopTime := game.time.plus (milliseconds game.ruleset.timeToCapture)

def recordContact (game : Game) (robotId : Str) (r : RobotRef) (item : ItemRef) : Game :=
  let recorded :=
    { game.modifyItem item (·.startCapture (game.team (game.robot r).team).name) with
      contacts := game.contacts.insert robotId (game.contactOf r item) }
  match game.contacts[robotId]? with
  | some old => recorded.destroyContact old
  | none => recorded

theorem robotIsInContactWith_ok {robotId : Str} {item : ItemRef} :
    game.robotIsInContactWith robotId item = .ok game' ↔
      ∃ r, game.robotsById[robotId]? = some r ∧
        game.teamIsAlive (game.robot r).team = true ∧ item < game.items.allItems.length ∧
        game' = game.recordContact robotId r item := by
  unfold robotIsInContactWith
  cases hr : game.robotsById[robotId]? with
  | none => simp
  | some r =>
    simp only [newContact]
    cases ha : game.teamIsAlive (game.robot r).team with
    | false => simp [ha]
    | true =>
      by_cases hi : item < game.items.allItems.length
      · simp only [Bool.not_true, Bool.false_eq_true, ↓reduceIte, hi, Lib.ok_bind, pure_eq_ok,
          Option.some.injEq, exists_eq_left', ha, true_and]
        exact eq_comm
      · simp [hi]

@[simp] theorem destroyContact_contacts (c : Contact) :
    (game.destroyContact c).contacts = game.contacts := by
  unfold destroyContact; split <;> rfl

@[simp] theorem destroyContact_items_length (c : Contact) :
    (game.destroyContact c).items.allItems.length = game.items.allItems.length := by
  unfold destroyContact; split <;> simp [modifyItem]

theorem recordContact_contacts {robotId : Str} {r : RobotRef} {item : ItemRef} :
    (game.recordContact robotId r item).contacts =
      game.contacts.insert robotId (game.contactOf r item) := by
  unfold recordContact
  split <;> simp

theorem robotDropsContactWith_contacts {robotId : Str} {item : ItemRef} :
    (game.robotDropsContactWith robotId item).contacts = game.contacts.erase robotId := by
  unfold robotDropsContactWith
  split
  · simp
  · next h =>
    refine Std.ExtTreeMap.ext_getElem? fun k => ?_
    rw [Std.ExtTreeMap.getElem?_erase]
    split
    · next hk => rw [← Std.LawfulEqCmp.compare_eq_iff_eq.mp hk, h]
    · rfl

-- ---------------------------------------------------------------------------
-- What contacts do to items
-- ---------------------------------------------------------------------------

def afterDestroying (destroyed : Option Contact) (k : ItemRef) (it : Item) : Item :=
  if destroyed.any fun c => !c.finished && c.item == k then it.abortCapture else it

theorem modifyItem_getElem? (item : ItemRef) (f : Item → Item) (k : ItemRef) :
    (game.modifyItem item f).items.allItems[k]? =
      game.items.allItems[k]?.map fun it => if item = k then f it else it := by
  rw [modifyItem, ItemRegistry.getElem?_modify]
  split <;> simp

theorem destroyContact_getElem? (c : Contact) (k : ItemRef) :
    (game.destroyContact c).items.allItems[k]? =
      game.items.allItems[k]?.map (afterDestroying (some c) k) := by
  unfold destroyContact afterDestroying
  cases hf : c.finished with
  | true => simp [hf]
  | false =>
    rw [if_neg (by simp), modifyItem_getElem?]
    simp [hf]

theorem recordContact_getElem? (robotId : Str) (r : RobotRef) (item k : ItemRef) :
    (game.recordContact robotId r item).items.allItems[k]? =
      game.items.allItems[k]?.map fun it =>
        afterDestroying game.contacts[robotId]? k
          (if item = k then it.startCapture (game.team (game.robot r).team).name else it) := by
  unfold recordContact
  cases game.contacts[robotId]? with
  | none => exact modifyItem_getElem? item _ k
  | some old =>
    refine (destroyContact_getElem? old k).trans ?_
    refine (congrArg (Option.map _) (modifyItem_getElem? item _ k)).trans ?_
    rw [Option.map_map]
    rfl

theorem robotDropsContactWith_getElem? (robotId : Str) (item k : ItemRef) :
    (game.robotDropsContactWith robotId item).items.allItems[k]? =
      game.items.allItems[k]?.map (afterDestroying game.contacts[robotId]? k) := by
  unfold robotDropsContactWith
  cases game.contacts[robotId]? with
  | none => exact Option.map_id'.symm
  | some old => exact destroyContact_getElem? old k

-- ---------------------------------------------------------------------------
-- Captures
-- ---------------------------------------------------------------------------

def afterCapture (game : Game) (t : TeamRef) (item : ItemRef) (it : Item) : Game :=
  (game.modifyItem item fun _ => (it.capture (game.team t)).1).modifyTeam t
    fun _ => (it.capture (game.team t)).2

theorem captureItem_ok {t : TeamRef} {item : ItemRef} {c : Capture} :
    game.captureItem t item = .ok (c, game') ↔
      ∃ it, game.teamIsAlive t = true ∧ game.items.allItems[item]? = some it ∧
        c = { item, team := t, teamName := (game.team t).name, previousOwner := it.owningTeam } ∧
        game' = game.afterCapture t item it := by
  unfold captureItem
  cases ha : game.teamIsAlive t with
  | false => simp
  | true =>
    cases hi : game.items.allItems[item]? with
    | none => simp
    | some it =>
      simp only [Bool.not_true, Bool.false_eq_true, ↓reduceIte, Except.ok.injEq, Prod.mk.injEq,
        Option.some.injEq, true_and, exists_eq_left']
      constructor
      · rintro ⟨rfl, rfl⟩; exact ⟨rfl, rfl⟩
      · rintro ⟨rfl, rfl⟩; exact ⟨rfl, rfl⟩

theorem stepContact_ok {robotId : Str} {contact contact' : Contact} {s : ContactStep} :
    game.stepContact robotId contact = .ok (s, contact', game') ↔
      contact.finished = false ∧
        ((game.time.isAfter contact.stopTime = false ∧
            s = { robotId, contact, signal := .stayingAlive } ∧ contact' = contact ∧
            game' = game) ∨
          game.time.isAfter contact.stopTime = true ∧
            ∃ c, game.captureItem (game.robot contact.robot).team contact.item = .ok (c, game') ∧
              s = { robotId, contact, signal := .silenceIKillU, capture := some c } ∧
              contact' = { contact with finished := true }) := by
  unfold stepContact
  cases hf : contact.finished with
  | true => simp
  | false =>
    cases hd : game.time.isAfter contact.stopTime with
    | false =>
      simp only [Bool.false_eq_true, ↓reduceIte, Except.ok.injEq, Prod.mk.injEq, true_and,
        false_and, or_false]
      constructor
      · rintro ⟨rfl, rfl, rfl⟩; exact ⟨rfl, rfl, rfl⟩
      · rintro ⟨rfl, rfl, rfl⟩; exact ⟨rfl, rfl, rfl⟩
    | true =>
      simp only [Bool.false_eq_true, ↓reduceIte, bind_eq_ok, pure_eq_ok, Prod.exists, Prod.mk.injEq,
        true_and, reduceCtorEq, false_and, false_or]
      constructor
      · rintro ⟨c, g, hc, rfl, rfl, rfl⟩; exact ⟨c, hc, rfl, rfl⟩
      · rintro ⟨c, hc, rfl, rfl⟩; exact ⟨c, game', hc, rfl, rfl, rfl⟩

theorem handleContactsLoop_cons {robotId : Str} {contact : Contact} {rest : List (Str × Contact)}
    {steps : List ContactStep} :
    game.handleContactsLoop ((robotId, contact) :: rest) = .ok (steps, game') ↔
      contact.finished = false ∧
        ((game.time.isAfter contact.stopTime = false ∧
            ∃ steps', game.handleContactsLoop rest = .ok (steps', game') ∧
              steps = { robotId, contact, signal := .stayingAlive } :: steps') ∨
          game.time.isAfter contact.stopTime = true ∧
            ∃ c game₁ steps',
              game.captureItem (game.robot contact.robot).team contact.item = .ok (c, game₁) ∧
              { game₁ with contacts := game₁.contacts.erase robotId }.handleContactsLoop rest =
                .ok (steps', game') ∧
              steps = { robotId, contact, signal := .silenceIKillU, capture := some c } ::
                steps') := by
  simp only [handleContactsLoop, bind_eq_ok, pure_eq_ok, Prod.exists, stepContact_ok, Prod.mk.injEq]
  constructor
  · rintro ⟨s, _, g, ⟨hf, ⟨hd, rfl, rfl, rfl⟩ | ⟨hd, c, hc, rfl, rfl⟩⟩, steps', g', hr, rfl, rfl⟩
    · exact ⟨hf, .inl ⟨hd, steps', hr, rfl⟩⟩
    · exact ⟨hf, .inr ⟨hd, c, g, steps', hc, hr, rfl⟩⟩
  · rintro ⟨hf, ⟨hd, steps', hr, rfl⟩ | ⟨hd, c, g, steps', hc, hr, rfl⟩⟩
    · exact ⟨_, contact, game, ⟨hf, .inl ⟨hd, rfl, rfl, rfl⟩⟩, steps', game', hr, rfl, rfl⟩
    · exact ⟨_, _, g, ⟨hf, .inr ⟨hd, c, hc, rfl, rfl⟩⟩, steps', game', hr, rfl, rfl⟩

theorem step_ok {steps : List ContactStep} :
    game.step = .ok (steps, game') ↔
      ∃ handled, game.handleContacts = .ok (steps, handled) ∧
        game' = handled.stopIfGameIsFinished := by
  simp only [step, bind_eq_ok, pure_eq_ok, Prod.exists, Prod.mk.injEq]
  constructor
  · rintro ⟨s, g, h, rfl, rfl⟩; exact ⟨g, h, rfl⟩
  · rintro ⟨g, h, rfl⟩; exact ⟨steps, g, h, rfl, rfl⟩

/-- A tick may record a winner and may stop the game, and does nothing else. -/
theorem stopIfGameIsFinished_cases (game : Game) :
    game.stopIfGameIsFinished = game ∨ game.stopIfGameIsFinished = game.stop ∨
      ∃ winner, game.winningTeams = [winner] ∧
        game.stopIfGameIsFinished = { game with winner := some winner }.stop := by
  unfold stopIfGameIsFinished
  split
  · exact .inr (.inl rfl)
  · split
    · exact .inl rfl
    · next winner h => exact .inr (.inr ⟨winner, h, rfl⟩)
    · exact .inr (.inl rfl)

section
variable (P : Game → Prop) {steps : List ContactStep}
  (hcapture : ∀ g t item c g', P g → g.captureItem t item = .ok (c, g') → P g')
  (hcontacts : ∀ g contacts, P g → P { g with contacts })
include hcapture hcontacts

/-- What captures and erased contacts keep, the loop of `handleContacts` keeps. -/
theorem handleContactsLoop_invariant {entries : List (Str × Contact)}
    (h : game.handleContactsLoop entries = .ok (steps, game')) (hP : P game) : P game' := by
  induction entries generalizing game steps with
  | nil => cases h; exact hP
  | cons entry entries ih =>
    obtain ⟨-, ⟨-, _, hr, -⟩ | ⟨-, c, game₁, _, hc, hr, -⟩⟩ := handleContactsLoop_cons.mp h
    · exact ih hr hP
    · exact ih hr (hcontacts _ _ (hcapture _ _ _ _ _ hP hc))

theorem step_invariant (hstop : ∀ g, P g → P g.stop)
    (hwinner : ∀ g winner, P g → P { g with winner })
    (h : game.step = .ok (steps, game')) (hP : P game) : P game' := by
  obtain ⟨handled, hh, rfl⟩ := step_ok.mp h
  have hhandled := handleContactsLoop_invariant P hcapture hcontacts hh hP
  rcases handled.stopIfGameIsFinished_cases with h | h | ⟨winner, -, h⟩ <;> rw [h]
  · exact hhandled
  · exact hstop _ hhandled
  · exact hstop _ (hwinner _ _ hhandled)

end

-- ---------------------------------------------------------------------------
-- Frames
-- ---------------------------------------------------------------------------

theorem destroyContact_frame (c : Contact) :
    game.destroyContact c = { game with items := (game.destroyContact c).items } := by
  unfold destroyContact; split <;> rfl

theorem recordContact_frame {robotId : Str} {r : RobotRef} {item : ItemRef} :
    game.recordContact robotId r item =
      { game with
        contacts := (game.recordContact robotId r item).contacts
        items := (game.recordContact robotId r item).items } := by
  unfold recordContact
  split
  · rw [destroyContact_frame]; rfl
  · rfl

theorem robotDropsContactWith_frame {robotId : Str} {item : ItemRef} :
    game.robotDropsContactWith robotId item =
      { game with
        contacts := (game.robotDropsContactWith robotId item).contacts
        items := (game.robotDropsContactWith robotId item).items } := by
  unfold robotDropsContactWith
  split
  · rw [destroyContact_frame]
  · rfl

theorem handleContactCall_frame {call : ContactCall} (h : game.handleContactCall call = .ok game') :
    game' = { game with contacts := game'.contacts, items := game'.items } := by
  cases call with
  | isInContactWith robotId item =>
    obtain ⟨r, _, _, _, rfl⟩ := robotIsInContactWith_ok.mp h
    exact recordContact_frame
  | dropsContactWith robotId item =>
    cases h
    exact robotDropsContactWith_frame

theorem handleContactsLoop_frame {entries : List (Str × Contact)} {steps : List ContactStep}
    (h : game.handleContactsLoop entries = .ok (steps, game')) :
    game' = { game with
      contacts := game'.contacts, items := game'.items, teamHeap := game'.teamHeap } := by
  induction entries generalizing game steps with
  | nil => cases h; rfl
  | cons entry entries ih =>
    obtain ⟨-, ⟨-, _, hr, -⟩ | ⟨-, c, game₁, _, hc, hr, -⟩⟩ := handleContactsLoop_cons.mp h
    · exact ih hr
    · obtain ⟨it, _, _, -, rfl⟩ := captureItem_ok.mp hc
      rw [ih hr]
      rfl

theorem handleContacts_frame {steps : List ContactStep}
    (h : game.handleContacts = .ok (steps, game')) :
    game' = { game with
      contacts := game'.contacts, items := game'.items, teamHeap := game'.teamHeap } :=
  handleContactsLoop_frame h

-- ---------------------------------------------------------------------------
-- Robots
-- ---------------------------------------------------------------------------

theorem getNewRobotIdLoop_unused {alreadyThere : Str → Bool} {fuel : Nat} {index : UInt32}
    {id : Str} (h : getNewRobotIdLoop alreadyThere fuel index = some id) :
    alreadyThere id = false ∧ id ≠ [] := by
  induction fuel generalizing index with
  | zero => simp [getNewRobotIdLoop] at h
  | succ fuel ih =>
    simp only [getNewRobotIdLoop] at h
    split at h
    · exact ih h
    · next hn =>
      cases h
      exact ⟨by simpa using hn, List.append_ne_nil_of_left_ne_nil (by decide) _⟩

theorem getNewRobotId_fresh {id name : Str} {r : RobotRef} (h : game.getNewRobotId = some id)
    (hr : game.robots[name]? = some r) : (game.robot r).robotId ≠ id := by
  intro hid
  have hmem := Std.ExtTreeMap.mem_toList_iff_getElem?_eq_some.mpr hr
  have := (getNewRobotIdLoop_unused h).1
  simp only [List.any_eq_false, beq_iff_eq] at this
  exact this (name, r) hmem hid

theorem chooseRobotId_ok {robotId id : Str} :
    game.chooseRobotId robotId = .ok id ↔
      (robotId = [] ∧ game.getNewRobotId = some id) ∨ (robotId ≠ [] ∧ id = robotId) := by
  unfold chooseRobotId
  cases robotId with
  | nil => cases game.getNewRobotId <;> simp
  | cons c cs => simp [eq_comm]

theorem addRobot_ok {name teamName : Str} {port commandPort : UInt16} {robotId : Str} {b : Bool}
    (h : game.addRobot name teamName port commandPort robotId = .ok (b, game')) :
    (b = false ∧ game' = game) ∨
      ∃ id t, b = true ∧ name ∉ game.robots ∧ game.chooseRobotId robotId = .ok id ∧
        game.teams[teamName]? = some t ∧ game' = game.insertRobot name t port commandPort id := by
  unfold addRobot at h
  split at h
  · simp only [pure_eq_ok, Prod.mk.injEq] at h
    exact .inl ⟨h.1.symm, h.2.symm⟩
  · next hn =>
    simp only [bind_eq_ok] at h
    obtain ⟨id, hid, h⟩ := h
    split at h
    · simp only [pure_eq_ok, Prod.mk.injEq] at h
      exact .inl ⟨h.1.symm, h.2.symm⟩
    · next t ht =>
      simp only [pure_eq_ok, Prod.mk.injEq] at h
      exact .inr ⟨id, t, h.1.symm, hn, hid, ht, h.2.symm⟩

section
variable {name robotId : Str} {team : TeamRef} {port commandPort : UInt16}

theorem insertRobot_robot_of_ne {r : RobotRef} (hr : r ≠ game.robotHeap.fresh) :
    (game.insertRobot name team port commandPort robotId).robot r = game.robot r :=
  Lib.Heap.get_alloc_of_ne hr

theorem insertRobot_robot_fresh :
    (game.insertRobot name team port commandPort robotId).robot game.robotHeap.fresh =
      { name, robotId, team, videoRetransmissionPort := port, serverCommandPort := commandPort } :=
  Lib.Heap.get_alloc_fresh _ _

end

theorem insertRobot_team {α : Type} {field : Team → α}
    (hfield : ∀ team r, field (team.addRobot r) = field team) (name : Str) (team : TeamRef)
    (port commandPort : UInt16) (robotId : Str) (t : TeamRef) :
    field ((game.insertRobot name team port commandPort robotId).team t) =
      field (game.team t) := by
  simp only [insertRobot, Game.team]
  exact Lib.Heap.get_modify_field fun team => hfield team _

theorem accessRobot_ok {name : Str} {r : RobotRef} :
    game.accessRobot name = .ok r ↔ game.robots[name]? = some r := by
  unfold accessRobot
  split <;> simp_all

theorem accessPlayer_ok {name : Str} {p : PlayerRef} :
    game.accessPlayer name = .ok p ↔ game.players[name]? = some p := by
  unfold accessPlayer
  split <;> simp_all

theorem getRobotWithoutRealRobot_ok {temporaryId : Str} {found : Option RobotRef}
    (h : game.getRobotWithoutRealRobot temporaryId = .ok (found, game')) :
    (∃ name r, game.registeredRobots[temporaryId]? = some name ∧ game.robots[name]? = some r ∧
      found = some r ∧ game' = game) ∨
    (∃ name r, game.registeredRobots[temporaryId]? = none ∧ game.robots[name]? = some r ∧
      (game.robot r).hasRealRobot = false ∧ found = some r ∧
      game' = { game with
        registeredRobots := game.registeredRobots.insert temporaryId name }) ∨
    (game.registeredRobots[temporaryId]? = none ∧
      (∀ (name : Str) r, game.robots[name]? = some r → (game.robot r).hasRealRobot = true) ∧
      found = none ∧ game' = game) := by
  unfold getRobotWithoutRealRobot at h
  split at h
  · next name hn =>
    simp only [bind_eq_ok, pure_eq_ok, accessRobot_ok, Prod.mk.injEq] at h
    obtain ⟨r, hr, rfl, rfl⟩ := h
    exact .inl ⟨name, r, hn, hr, rfl, rfl⟩
  · next hn =>
    split at h
    · next name r hf =>
      obtain ⟨hr, hreal⟩ := Std.ExtTreeMap.findFirst_some hf
      simp only [Except.ok.injEq, Prod.mk.injEq] at h
      obtain ⟨rfl, rfl⟩ := h
      exact .inr (.inl ⟨name, r, hn, hr, by simpa using hreal, rfl, rfl⟩)
    · next hf =>
      simp only [Except.ok.injEq, Prod.mk.injEq] at h
      obtain ⟨rfl, rfl⟩ := h
      refine .inr (.inr ⟨hn, fun name r hr => ?_, rfl, rfl⟩)
      simpa using Std.ExtTreeMap.findFirst_none.mp hf name r hr

theorem getAvailableRobot_some {r : RobotRef} (h : game.getAvailableRobot = some r) :
    ∃ name : Str, game.robots[name]? = some r ∧ game.getIsAvailable r = true := by
  simp only [getAvailableRobot, Option.map_eq_some_iff, Prod.exists, exists_eq_right] at h
  obtain ⟨name, h⟩ := h
  obtain ⟨hr, ha⟩ := Std.ExtTreeMap.findFirst_some h
  exact ⟨name, hr, ha⟩

theorem getRobotForPlayer_some {name : Str} {r : RobotRef}
    (h : game.getRobotForPlayer name = some r) :
    ∃ key : Str, game.robots[key]? = some r ∧
      (game.playerIsNamed name r = true ∨
        game.getIsAvailable r = true ∧
          ∀ (k : Str) r', game.robots[k]? = some r' → game.playerIsNamed name r' = false) := by
  unfold getRobotForPlayer at h
  split at h
  · next r' hl =>
    cases h
    obtain ⟨key, hr, hn⟩ := Std.ExtTreeMap.findLast_some hl
    exact ⟨key, hr, .inl hn⟩
  · next hl =>
    obtain ⟨key, hr, ha⟩ := getAvailableRobot_some h
    exact ⟨key, hr, .inr ⟨ha, Std.ExtTreeMap.findLast_none.mp hl⟩⟩

theorem getRobotForPlayer_none {name : Str} (h : game.getRobotForPlayer name = none)
    {key : Str} {r : RobotRef} (hr : game.robots[key]? = some r) :
    game.playerIsNamed name r = false := by
  unfold getRobotForPlayer at h
  split at h
  · cases h
  · next hl => exact Std.ExtTreeMap.findLast_none.mp hl key r hr

end ServerGame.Game
