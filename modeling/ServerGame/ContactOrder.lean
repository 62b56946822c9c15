import ServerGame.Lib.Reorder
import ServerGame.OwnItem

/-!
# The order of the contacts

`handleContacts` visits the contacts in the order of the robot ids. Two that are
due capture their items one after the other: unless they are of different teams
with the same item, the other order comes to the same.
-/

namespace ServerGame

open Lib (bind_eq_ok pure_eq_ok)

variable {game game' : Game} {t u : TeamRef} {item item' : ItemRef}

-- ---------------------------------------------------------------------------
-- What is promised
-- ---------------------------------------------------------------------------

/-- No two contacts that are due have the same item and different teams. -/
def NonContending (game : Game) : Prop :=
  ∀ (id id' : Str) c d, game.contacts[id]? = some c → game.contacts[id']? = some d →
    game.isDue c = true → game.isDue d = true → c.item = d.item →
    (game.robot c.robot).team = (game.robot d.robot).team

-- ---------------------------------------------------------------------------
-- Two captures
-- ---------------------------------------------------------------------------

theorem Item.capture_fst_congr {team team' : Team} (it : Item) (h : team.name = team'.name) :
    (it.capture team).1 = (it.capture team').1 := by
  unfold Item.capture
  rw [h]
  split <;> rfl

def Item.paid (it : Item) (teamName : Str) : UInt32 :=
  if teamName ≠ it.owningTeam then it.pointsOnCapture.toUInt16.toUInt32 else 0

theorem Item.capture_snd (it : Item) (team : Team) :
    (it.capture team).2 = { team with score := team.score + it.paid team.name } := by
  unfold Item.capture Item.paid
  split
  · rfl
  · rw [UInt32.add_zero]

theorem Item.capture_snd_comm (it it' : Item) (team : Team) :
    (it'.capture (it.capture team).2).2 = (it.capture (it'.capture team).2).2 := by
  simp only [Item.capture_snd, add_right_comm]

theorem ItemRegistry.modify_comm (items : ItemRegistry) {i j : ItemRef} (hij : i ≠ j)
    (f g : Item → Item) : (items.modify i f).modify j g = (items.modify j g).modify i f := by
  have hitems : (items.allItems.modify i f).modify j g =
      (items.allItems.modify j g).modify i f := by
    refine List.ext_getElem? fun k => ?_
    simp only [List.getElem?_modify]
    by_cases hi : i = k
    · have hj : j ≠ k := fun hj => hij (hi.trans hj.symm)
      simp [hi, hj]
    · simp [hi]
  simp only [ItemRegistry.modify, hitems]

/-- Two captures one after the other: the second reads only the name of its team. -/
theorem Game.afterCapture_twice (game : Game) (t u : TeamRef) (item item' : ItemRef)
    (it it' : Item) :
    (game.afterCapture t item it).afterCapture u item' it' =
      { game with
        items := (game.items.modify item fun _ => (it.capture (game.team t)).1).modify item'
          fun _ => (it'.capture (game.team u)).1
        teamHeap := (game.teamHeap.modify t fun team => (it.capture team).2).modify u
          fun team => (it'.capture team).2 } := by
  have hname : ((game.afterCapture t item it).team u).name = (game.team u).name := by
    simp only [afterCapture, modifyTeam_team]
    split
    · next hu => rw [hu, Item.capture_name]
    · rfl
  rw [← it'.capture_fst_congr hname]
  rfl

theorem Game.afterCapture_comm (game : Game) (t u : TeamRef) (hitems : item ≠ item')
    (it it' : Item) :
    (game.afterCapture t item it).afterCapture u item' it' =
      (game.afterCapture u item' it').afterCapture t item it := by
  rw [afterCapture_twice, afterCapture_twice, game.items.modify_comm hitems,
    game.teamHeap.modify_comm t u fun _ team => it.capture_snd_comm it' team]

theorem capture_getElem?_of_ne {it : Item} (hitems : item ≠ item') :
    (game.afterCapture t item it).items.allItems[item']? = game.items.allItems[item']? :=
  (game.items.getElem?_modify item item' _).trans (if_neg hitems)

theorem captureItem_swap {first second : Game.Capture} {game₁ game₂ : Game}
    (hfirst : game.captureItem t item = .ok (first, game₁))
    (hsecond : game₁.captureItem u item' = .ok (second, game₂)) (hteam : item = item' → t = u) :
    ∃ capture capture' other, game.captureItem u item' = .ok (capture, other) ∧
      other.captureItem t item = .ok (capture', game₂) := by
  by_cases hitems : item = item'
  · -- the two calls are the same
    cases hitems
    cases hteam rfl
    exact ⟨first, second, game₁, hfirst, hsecond⟩
  · obtain ⟨it, ht, hit, rfl, rfl⟩ := Game.captureItem_ok.mp hfirst
    obtain ⟨it', hu, hit', rfl, rfl⟩ := Game.captureItem_ok.mp hsecond
    have hold : game.items.allItems[item']? = some it' := by
      rw [← hit']
      exact (capture_getElem?_of_ne hitems).symm
    have hnew : (game.afterCapture u item' it').items.allItems[item]? = some it :=
      (capture_getElem?_of_ne (Ne.symm hitems)).trans hit
    rw [Game.afterCapture_comm game t u hitems]
    exact ⟨_, _, _, Game.captureItem_ok.mpr ⟨it', hu, hold, rfl, rfl⟩,
      Game.captureItem_ok.mpr ⟨it, ht, hnew, rfl, rfl⟩⟩

-- ---------------------------------------------------------------------------
-- One visit
-- ---------------------------------------------------------------------------

def Game.visit (game : Game) (entry : Str × Contact) : Except Fault (Game × Game.ContactStep) := do
  let (aStep, contact, game) ← game.stepContact entry.1 entry.2
  return (if aStep.signal = .silenceIKillU then
      { game with contacts := game.contacts.erase entry.1 }.destroyContact contact
    else game, aStep)

theorem Game.visit_ok {entry : Str × Contact} {s : Game.ContactStep} :
    game.visit entry = .ok (game', s) ↔
      entry.2.finished = false ∧
        ((game.isDue entry.2 = false ∧ game' = game ∧
            s = { robotId := entry.1, contact := entry.2, signal := .stayingAlive }) ∨
          game.isDue entry.2 = true ∧
            ∃ c game₁, game.captureItem (game.robot entry.2.robot).team entry.2.item =
                .ok (c, game₁) ∧
              game' = { game₁ with contacts := game₁.contacts.erase entry.1 } ∧
              s = { robotId := entry.1, contact := entry.2, signal := .silenceIKillU,
                    capture := some c }) := by
  simp only [visit, bind_eq_ok, pure_eq_ok, Prod.exists, stepContact_ok, Prod.mk.injEq, isDue]
  constructor
  · rintro ⟨_, _, _, ⟨hlive, ⟨hwaits, rfl, rfl, rfl⟩ | ⟨hdue, c, hc, rfl, rfl⟩⟩, rfl, rfl⟩
    · exact ⟨hlive, .inl ⟨hwaits, rfl, rfl⟩⟩
    · exact ⟨hlive, .inr ⟨hdue, c, _, hc, rfl, rfl⟩⟩
  · rintro ⟨hlive, ⟨hwaits, rfl, rfl⟩ | ⟨hdue, c, game₁, hc, rfl, rfl⟩⟩
    · exact ⟨_, _, _, ⟨hlive, .inl ⟨hwaits, rfl, rfl, rfl⟩⟩, rfl, rfl⟩
    · exact ⟨_, _, _, ⟨hlive, .inr ⟨hdue, c, hc, rfl, rfl⟩⟩, rfl, rfl⟩

theorem Game.handleContactsLoop_eq_run {entries : List (Str × Contact)}
    {steps : List Game.ContactStep} :
    game.handleContactsLoop entries = .ok (steps, game') ↔
      Lib.run Game.visit game entries = .ok (game', steps) := by
  induction entries generalizing game steps with
  | nil =>
    rw [Lib.run_nil, handleContactsLoop, Except.ok.injEq, Prod.mk.injEq, Prod.mk.injEq]
    exact ⟨fun h => ⟨h.2.symm, h.1.symm⟩, fun h => ⟨h.2.symm, h.1.symm⟩⟩
  | cons entry entries ih =>
    simp only [Lib.run_cons, ← ih, visit_ok]
    refine handleContactsLoop_cons.trans ?_
    constructor
    · rintro ⟨hlive, ⟨hwaits, steps', hrest, rfl⟩ | ⟨hdue, c, game₁, steps', hc, hrest, rfl⟩⟩
      · exact ⟨game, _, steps', ⟨hlive, .inl ⟨hwaits, rfl, rfl⟩⟩, hrest, rfl⟩
      · exact ⟨_, _, steps', ⟨hlive, .inr ⟨hdue, c, game₁, hc, rfl, rfl⟩⟩, hrest, rfl⟩
    · rintro ⟨_, _, steps', ⟨hlive, ⟨hwaits, rfl, rfl⟩ | ⟨hdue, c, game₁, hc, rfl, rfl⟩⟩, hrest,
        rfl⟩
      · exact ⟨hlive, .inl ⟨hwaits, steps', hrest, rfl⟩⟩
      · exact ⟨hlive, .inr ⟨hdue, c, game₁, steps', hc, hrest, rfl⟩⟩

-- ---------------------------------------------------------------------------
-- All visits
-- ---------------------------------------------------------------------------

/-- The clock and the robots do not change while the contacts are handled. -/
def SameHour (game game' : Game) : Prop :=
  game'.time = game.time ∧ game'.robotHeap = game.robotHeap

theorem SameHour.visit {entry : Str × Contact} {s : Game.ContactStep} {game₁ game₂ : Game}
    (h : SameHour game game₁) (hvisit : game₁.visit entry = .ok (game₂, s)) :
    SameHour game game₂ := by
  obtain ⟨-, ⟨-, rfl, -⟩ | ⟨-, c, g, hc, rfl, -⟩⟩ := Game.visit_ok.mp hvisit
  · exact h
  · rw [Game.captureItem_frame hc]
    exact h

theorem SameHour.isDue (h : SameHour game game') (c : Contact) : game'.isDue c = game.isDue c := by
  rw [Game.isDue, h.1]
  rfl

theorem SameHour.robot (h : SameHour game game') (r : RobotRef) :
    game'.robot r = game.robot r := by
  rw [Game.robot, h.2]
  rfl

theorem captureItem_contacts_eq {capture : Game.Capture}
    (h : game.captureItem t item = .ok (capture, game')) : game'.contacts = game.contacts := by
  rw [Game.captureItem_frame h]

/-- Captures of two due contacts, each of which then goes. -/
theorem captures_swap {first second : Game.Capture} {id id' : Str} {game₁ game₂ : Game}
    (hfirst : game.captureItem t item = .ok (first, game₁))
    (hsecond : { game₁ with contacts := game₁.contacts.erase id }.captureItem u item' =
      .ok (second, game₂)) (hteam : item = item' → t = u) :
    ∃ capture capture' other game₃, game.captureItem u item' = .ok (capture, other) ∧
      { other with contacts := other.contacts.erase id' }.captureItem t item =
        .ok (capture', game₃) ∧
      { game₃ with contacts := game₃.contacts.erase id } =
        { game₂ with contacts := game₂.contacts.erase id' } := by
  obtain ⟨capture, capture', other, hcapture, hother⟩ := captureItem_swap
    (captureItem_contacts hfirst (game₁.contacts.erase id)) hsecond hteam
  have hcapture' := captureItem_contacts hcapture game.contacts
  have hother' := captureItem_contacts hother (game.contacts.erase id')
  refine ⟨capture, capture', _, _, hcapture', hother', ?_⟩
  have hcontacts : game₂.contacts = game.contacts.erase id := by
    rw [captureItem_contacts_eq hsecond, captureItem_contacts_eq hfirst]
  rw [hcontacts, Std.ExtTreeMap.erase_comm]

theorem visit_swaps (h : NonContending game) :
    Lib.Swaps Game.visit (SameHour game) (· ∈ game.contacts.toList) where
  keeps hsame _ hvisit := hsame.visit hvisit
  swap := by
    intro g entry entry' g₁ g₂ s s' hsame hentry hentry' hfirst hsecond
    have hsame₁ := hsame.visit hfirst
    have hsame₂ := hsame₁.visit hsecond
    obtain ⟨hlive, ⟨hwaits, rfl, rfl⟩ | ⟨hdue, c, game₁, hc, rfl, rfl⟩⟩ := Game.visit_ok.mp hfirst
    · refine ⟨g₂, _, s', hsecond, Game.visit_ok.mpr ⟨hlive, .inl ⟨?_, rfl, rfl⟩⟩⟩
      rw [hsame₂.isDue, ← hsame.isDue, hwaits]
    · obtain ⟨hlive', ⟨hwaits', rfl, rfl⟩ | ⟨hdue', c', game₂, hc', rfl, rfl⟩⟩ :=
        Game.visit_ok.mp hsecond
      · refine ⟨g, _, _, Game.visit_ok.mpr ⟨hlive', .inl ⟨?_, rfl, rfl⟩⟩, hfirst⟩
        rw [hsame.isDue, ← hsame₁.isDue, hwaits']
      · rw [hsame.isDue] at hdue
        rw [hsame₁.isDue] at hdue'
        rw [hsame.robot] at hc
        rw [hsame₁.robot] at hc'
        obtain ⟨capture, capture', other, game₃, hother, hthird, hend⟩ := captures_swap hc hc'
          (h entry.1 entry'.1 entry.2 entry'.2
            (Std.ExtTreeMap.mem_toList_iff_getElem?_eq_some.mp hentry)
            (Std.ExtTreeMap.mem_toList_iff_getElem?_eq_some.mp hentry') hdue hdue')
        have hvisit : g.visit entry' = .ok (
            { other with contacts := other.contacts.erase entry'.1 },
            { robotId := entry'.1, contact := entry'.2, signal := .silenceIKillU,
              capture := some capture }) := by
          refine Game.visit_ok.mpr ⟨hlive', .inr ⟨(hsame.isDue _).trans hdue', _, _, ?_, rfl, rfl⟩⟩
          rw [hsame.robot]
          exact hother
        have hsame' := hsame.visit hvisit
        refine ⟨_, _, _, hvisit, Game.visit_ok.mpr
          ⟨hlive, .inr ⟨(hsame'.isDue _).trans hdue, capture', _, ?_, hend.symm, rfl⟩⟩⟩
        rw [hsame'.robot]
        exact hthird

/-- Every order of the contacts comes to the same game as the order of the robot
ids, unless two that are due contend for an item. -/
theorem handleContacts_order (game : Game) (entries : List (Str × Contact))
    (hperm : entries.Perm game.contacts.toList) (h : NonContending game) (game' : Game) :
    (∃ steps, game.handleContactsLoop entries = .ok (steps, game')) ↔
      ∃ steps, game.handleContacts = .ok (steps, game') := by
  unfold Game.handleContacts
  simp only [Game.handleContactsLoop_eq_run]
  exact (visit_swaps h).run_perm hperm (fun entry hentry => hperm.mem_iff.mp hentry) ⟨rfl, rfl⟩

def twoAtFlag : Game :=
  let game := (oneFlag.insertRobot "r2".toList ⟨0⟩ 0 0 "robot_1".toList).setTime (.at 0)
  ((game.recordContact "robot_0".toList ⟨0⟩ 0).recordContact "robot_1".toList ⟨1⟩ 0).setTime
    (.at 1)

/-- Two robots of one team with the same flag: it is captured once. -/
theorem handleContacts_order_twoAtFlag :
    ∃ game' : Game, (game'.team ⟨0⟩).score = 1 ∧
      ∃ steps, twoAtFlag.handleContacts = .ok (steps, game') := by
  have hteam : ∀ (id : Str) c, twoAtFlag.contacts[id]? = some c →
      (twoAtFlag.robot c.robot).team = ⟨0⟩ := by
    intro id c hc
    have hmem := Std.ExtTreeMap.mem_toList_iff_getElem?_eq_some.mpr hc
    rcases List.mem_pair.mp hmem with h | h <;> cases h <;> rfl
  refine ⟨_, ?_, (handleContacts_order twoAtFlag twoAtFlag.contacts.toList.reverse
    (List.reverse_perm _) (fun id id' c d hc hd _ _ _ => ?_) _).mp ⟨_, rfl⟩⟩
  · rfl
  · rw [hteam id c hc, hteam id' d hd]

end ServerGame
