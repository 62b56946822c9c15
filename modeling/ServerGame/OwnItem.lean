import ServerGame.CaptureStates

/-!
# A team and the item it owns

The constructor of a contact and the capture itself leave the item alone when
the team owns it. The destructor of a contact does not look at the owner. Here:
the contacts of one team with an item of its own, in any order and with ticks of
the contacts at any time.
-/

namespace ServerGame

open Lib (bind_eq_ok pure_eq_ok)

variable {game game' : Game} {steps : List Game.ContactStep} {item : ItemRef} {teamName : Str}

-- ---------------------------------------------------------------------------
-- What can happen
-- ---------------------------------------------------------------------------

inductive OwnCall
  | touch (robotId : Str)
  | drop (robotId : Str)
  | handleContacts (time : Ptime)

namespace OwnCall

def apply (item : ItemRef) (game : Game) : OwnCall → Except Fault (Game × List Game.ContactStep)
  | .touch robotId => do
    let game ← game.robotIsInContactWith robotId item
    return (game, [])
  | .drop robotId => .ok (game.robotDropsContactWith robotId item, [])
  | .handleContacts time => do
    let (steps, game) ← (game.setTime time).handleContacts
    return (game, steps)

def applyAside (item : ItemRef) (game : Game) :
    OwnCall → Except Fault (Game × List Game.ContactStep)
  | .touch _ | .drop _ => .ok (game, [])
  | .handleContacts time => do
    let (steps, game) ← (game.setTime time).handleContactsLoop
      (game.contacts.toList.filter fun entry => entry.2.item ≠ item)
    return (game, steps)

def By (game : Game) (teamName : Str) : OwnCall → Prop
  | .touch robotId | .drop robotId => ∃ r, game.robotsById[robotId]? = some r ∧
    game.teamIsAlive (game.robot r).team = true ∧ game.teamNameOf r = teamName
  | .handleContacts _ => True

/-- No contact with the item is dropped or replaced. -/
def Spares (item : ItemRef) (game : Game) : OwnCall → Prop
  | .touch robotId | .drop robotId => ∀ old, game.contacts[robotId]? = some old → old.item ≠ item
  | .handleContacts _ => True

/-- The scores after the call are those without the contacts with the item. -/
def LeavesScores (item : ItemRef) (game : Game) (call : OwnCall) : Prop :=
  ∀ game' steps, call.apply item game = .ok (game', steps) →
    ∃ aside steps', call.applyAside item game = .ok (aside, steps') ∧
      ∀ t, (game'.team t).score = (aside.team t).score

end OwnCall

def Secured (item : ItemRef) (teamName : Str) (game : Game) : Prop :=
  ∃ it, game.items.allItems[item]? = some it ∧ it.owningTeam = teamName ∧
    it.captureState = .succeeded

-- ---------------------------------------------------------------------------
-- A capture by the owner
-- ---------------------------------------------------------------------------

theorem captureItem_contacts {t : TeamRef} {capture : Game.Capture}
    (h : game.captureItem t item = .ok (capture, game')) (contacts : Lib.Map Str Contact) :
    { game with contacts }.captureItem t item = .ok (capture, { game' with contacts }) := by
  obtain ⟨it, halive, hit, rfl, rfl⟩ := Game.captureItem_ok.mp h
  exact Game.captureItem_ok.mpr ⟨it, halive, hit, rfl, rfl⟩

theorem captureItem_of_owner {t : TeamRef} {capture : Game.Capture} {it : Item}
    (h : game.captureItem t item = .ok (capture, game'))
    (hit : game.items.allItems[item]? = some it) (howner : (game.team t).name = it.owningTeam) :
    game' = game := by
  obtain ⟨it', -, hit', -, rfl⟩ := Game.captureItem_ok.mp h
  cases hit.symm.trans hit'
  have hcapture : it.capture (game.team t) = (it, game.team t) := by
    unfold Item.capture
    rw [if_neg (not_not.mpr howner)]
  have hitems : game.items.modify item (fun _ => it) = game.items := by
    have hsame : game.items.allItems.modify item (fun _ => it) = game.items.allItems := by
      refine List.ext_getElem? fun k => ?_
      rw [List.getElem?_modify]
      split
      · next hk => rw [← hk, hit]; rfl
      · exact Option.map_id'
    simp only [ItemRegistry.modify, hsame]
  have hteams : game.teamHeap.modify t (fun _ => game.team t) = game.teamHeap := by
    simp only [Lib.Heap.modify, Game.team]
    congr 1
    funext t'
    split
    · next ht => rw [ht]
    · rfl
  simp only [Game.afterCapture, Game.modifyItem, Game.modifyTeam, hcapture, hitems, hteams]

theorem handleContactsLoop_aside {entries : List (Str × Contact)} {it : Item}
    (h : game.handleContactsLoop entries = .ok (steps, game'))
    (hit : game.items.allItems[item]? = some it)
    (howned : ∀ entry ∈ entries, entry.2.item = item →
      game.teamNameOf entry.2.robot = it.owningTeam)
    (contacts : Lib.Map Str Contact) :
    ∃ steps' aside, { game with contacts }.handleContactsLoop
        (entries.filter fun entry => entry.2.item ≠ item) = .ok (steps', aside) ∧
      aside.teamHeap = game'.teamHeap := by
  induction entries generalizing game steps contacts with
  | nil =>
    cases h
    exact ⟨[], _, rfl, rfl⟩
  | cons entry entries ih =>
    obtain ⟨hfirst, hrest⟩ := List.forall_mem_cons.mp howned
    obtain ⟨hlive, ⟨hwaits, _, hr, -⟩ | ⟨hdue, capture, game₁, _, hc, hr, -⟩⟩ :=
      Game.handleContactsLoop_cons.mp h
    · obtain ⟨steps', aside, haside, hteams⟩ := ih hr hit hrest contacts
      by_cases hitem : entry.2.item = item
      · rw [List.filter_cons_of_neg (by simp [hitem])]
        exact ⟨steps', aside, haside, hteams⟩
      · rw [List.filter_cons_of_pos (by simp [hitem])]
        exact ⟨_, aside,
          Game.handleContactsLoop_cons.mpr ⟨hlive, .inl ⟨hwaits, steps', haside, rfl⟩⟩, hteams⟩
    · by_cases hitem : entry.2.item = item
      · rw [List.filter_cons_of_neg (by simp [hitem])]
        rw [hitem] at hc
        cases captureItem_of_owner hc hit (hfirst hitem)
        exact ih hr hit hrest contacts
      · rw [List.filter_cons_of_pos (by simp [hitem])]
        have hsame := SameTeams.captureItem hc (game₁.contacts.erase entry.1)
        have hit₁ := capture_getElem? hc hit
        rw [if_neg hitem] at hit₁
        obtain ⟨steps', aside, haside, hteams⟩ := ih hr hit₁
          (fun e he hk => (hsame.teamNameOf _).trans (hrest e he hk)) (contacts.erase entry.1)
        exact ⟨_, aside, Game.handleContactsLoop_cons.mpr ⟨hlive, .inr ⟨hdue, capture, _, steps',
          captureItem_contacts hc contacts, haside, rfl⟩⟩, hteams⟩

-- ---------------------------------------------------------------------------
-- The calls
-- ---------------------------------------------------------------------------

structure SameSides (game game' : Game) : Prop where
  robotsById : game'.robotsById = game.robotsById
  robotHeap : game'.robotHeap = game.robotHeap
  teams : game'.teams = game.teams
  teamName : ∀ t, (game'.team t).name = (game.team t).name

theorem SameSides.teamNameOf (h : SameSides game game') (r : RobotRef) :
    game'.teamNameOf r = game.teamNameOf r := by
  rw [Game.teamNameOf, h.teamName, Game.robot, h.robotHeap]
  rfl

theorem SameSides.by {call : OwnCall} (h : SameSides game game') (hby : call.By game teamName) :
    call.By game' teamName := by
  have halive : ∀ t, game'.teamIsAlive t = game.teamIsAlive t := by
    intro t
    simp only [Game.teamIsAlive, h.teams]
  have hrobot : ∀ r, game'.robot r = game.robot r := by
    intro r
    simp only [Game.robot, h.robotHeap]
  cases call with
  | touch robotId | drop robotId =>
    obtain ⟨r, hr, hteam, hname⟩ := hby
    refine ⟨r, ?_, ?_, ?_⟩
    · rw [h.robotsById, hr]
    · rw [halive, hrobot, hteam]
    · rw [h.teamNameOf, hname]
  | handleContacts time => trivial

theorem OwnCall.apply_touch {robotId : Str} :
    (touch robotId).apply item game = .ok (game', steps) ↔
      game.robotIsInContactWith robotId item = .ok game' ∧ steps = [] := by
  simp only [apply, bind_eq_ok, pure_eq_ok, Prod.mk.injEq]
  constructor
  · rintro ⟨_, h, rfl, rfl⟩; exact ⟨h, rfl⟩
  · rintro ⟨h, rfl⟩; exact ⟨_, h, rfl, rfl⟩

theorem OwnCall.apply_handleContacts {time : Ptime} :
    (handleContacts time).apply item game = .ok (game', steps) ↔
      (game.setTime time).handleContacts = .ok (steps, game') := by
  simp only [apply, bind_eq_ok, pure_eq_ok, Prod.exists, Prod.mk.injEq]
  constructor
  · rintro ⟨_, _, h, rfl, rfl⟩; exact h
  · intro h; exact ⟨_, _, h, rfl, rfl⟩

theorem OwnCall.apply_sameSides {call : OwnCall} (h : call.apply item game = .ok (game', steps)) :
    SameSides game game' := by
  cases call with
  | touch robotId =>
    obtain ⟨htouch, -⟩ := apply_touch.mp h
    rw [@Game.handleContactCall_frame _ _ (.isInContactWith robotId item) htouch]
    exact ⟨rfl, rfl, rfl, fun _ => rfl⟩
  | drop robotId =>
    cases h
    rw [Game.robotDropsContactWith_frame]
    exact ⟨rfl, rfl, rfl, fun _ => rfl⟩
  | handleContacts time =>
    have hh := apply_handleContacts.mp h
    have hroster := SameRoster.handleContactsLoop hh
    refine ⟨?_, hroster.robotHeap, hroster.teams, hroster.teamName⟩
    rw [Game.handleContacts_frame hh]
    rfl

structure OwnOnly (item : ItemRef) (teamName : Str) (game : Game) : Prop where
  unfinished : Unfinished game
  owned : ∃ it, game.items.allItems[item]? = some it ∧ it.owningTeam = teamName
  contacts : ∀ (id : Str) c, game.contacts[id]? = some c → c.item = item →
    game.teamNameOf c.robot = teamName

theorem OwnCall.By.touched {call : OwnCall} {robotId : Str} {it : Item}
    (hcall : call = .touch robotId ∨ call = .drop robotId) (hby : call.By game it.owningTeam)
    (hit : game.items.allItems[item]? = some it) (h : call.apply item game = .ok (game', steps)) :
    game'.items.allItems[item]? = some (Game.afterDestroying game.contacts[robotId]? item it) := by
  rcases hcall with rfl | rfl
  · obtain ⟨r, hr, -, hname⟩ := hby
    obtain ⟨htouch, -⟩ := apply_touch.mp h
    obtain ⟨r', hr', -, -, rfl⟩ := Game.robotIsInContactWith_ok.mp htouch
    cases hr.symm.trans hr'
    have hstart : it.startCapture (game.team (game.robot r).team).name = it :=
      if_neg (not_not.mpr hname.symm)
    rw [Game.recordContact_getElem?, hit, Option.map_some, if_pos rfl, hstart]
  · cases h
    rw [Game.robotDropsContactWith_getElem?, hit, Option.map_some]

theorem afterDestroying_succeeded {id : Str} {it : Item} (hu : Unfinished game)
    (hstate : it.captureState = .succeeded) :
    (Game.afterDestroying game.contacts[id]? item it).captureState = .succeeded ↔
      ∀ old, game.contacts[id]? = some old → old.item ≠ item := by
  unfold Game.afterDestroying
  cases hold : game.contacts[id]? with
  | none => simp [hstate]
  | some old =>
    by_cases hitem : old.item = item
    · simp [hu id old hold, hitem, Item.abortCapture]
    · simp [hitem, hstate]

theorem afterDestroying_owningTeam (destroyed : Option Contact) (it : Item) :
    (Game.afterDestroying destroyed item it).owningTeam = it.owningTeam := by
  unfold Game.afterDestroying
  split
  · exact it.abortCapture_owningTeam
  · rfl

theorem OwnOnly.handled {time : Ptime} {it : Item} (h : OwnOnly item it.owningTeam game)
    (hit : game.items.allItems[item]? = some it)
    (hh : (game.setTime time).handleContacts = .ok (steps, game')) :
    game'.items.allItems[item]? = some it :=
  handleContactsLoop_owned hh hit fun entry hentry hitem _ => h.contacts entry.1 entry.2
    (Std.ExtTreeMap.mem_toList_iff_getElem?_eq_some.mp hentry) hitem

theorem OwnOnly.apply {call : OwnCall} (h : OwnOnly item teamName game)
    (hby : call.By game teamName) (happly : call.apply item game = .ok (game', steps)) :
    OwnOnly item teamName game' := by
  have hsides := OwnCall.apply_sameSides happly
  obtain ⟨it, hit, rfl⟩ := h.owned
  cases call with
  | touch robotId =>
    have hafter := hby.touched (.inl rfl) hit happly
    obtain ⟨htouch, -⟩ := OwnCall.apply_touch.mp happly
    obtain ⟨r, hr, -, hname⟩ := hby
    obtain ⟨r', hr', -, -, rfl⟩ := Game.robotIsInContactWith_ok.mp htouch
    cases hr.symm.trans hr'
    refine ⟨fun id c hc => ?_, ⟨_, hafter, afterDestroying_owningTeam _ it⟩,
      fun id c hc hitem => ?_⟩
    · rw [Game.recordContact_contacts, Std.ExtTreeMap.getElem?_insert_eq_some] at hc
      rcases hc with ⟨-, rfl⟩ | ⟨-, hc⟩
      · rfl
      · exact h.unfinished id c hc
    · rw [hsides.teamNameOf]
      rw [Game.recordContact_contacts, Std.ExtTreeMap.getElem?_insert_eq_some] at hc
      rcases hc with ⟨-, rfl⟩ | ⟨-, hc⟩
      · exact hname
      · exact h.contacts id c hc hitem
  | drop robotId =>
    have hafter := hby.touched (.inr rfl) hit happly
    cases happly
    refine ⟨fun id c hc => ?_, ⟨_, hafter, afterDestroying_owningTeam _ it⟩,
      fun id c hc hitem => ?_⟩
    · rw [Game.robotDropsContactWith_contacts, Std.ExtTreeMap.getElem?_erase_eq_some] at hc
      exact h.unfinished id c hc.2
    · rw [hsides.teamNameOf]
      rw [Game.robotDropsContactWith_contacts, Std.ExtTreeMap.getElem?_erase_eq_some] at hc
      exact h.contacts id c hc.2 hitem
  | handleContacts time =>
    have hh := OwnCall.apply_handleContacts.mp happly
    have hpending : ∀ (id : Str) c, game'.contacts[id]? = some c → game.contacts[id]? = some c := by
      intro id c hc
      rcases Game.handleContactsLoop_contacts hh id with ⟨-, hsame⟩ | ⟨-, hgone⟩
      · exact hsame.symm.trans hc
      · rw [hgone] at hc
        cases hc
    refine ⟨fun id c hc => h.unfinished id c (hpending id c hc), ⟨it, h.handled hit hh, rfl⟩,
      fun id c hc hitem => ?_⟩
    rw [hsides.teamNameOf]
    exact h.contacts id c (hpending id c hc) hitem

theorem OwnOnly.leavesScores {call : OwnCall} (h : OwnOnly item teamName game) :
    call.LeavesScores item game := by
  intro game' steps happly
  cases call with
  | touch robotId =>
    obtain ⟨htouch, -⟩ := OwnCall.apply_touch.mp happly
    refine ⟨game, [], rfl, fun t => ?_⟩
    rw [@Game.handleContactCall_frame _ _ (.isInContactWith robotId item) htouch]
    rfl
  | drop robotId =>
    cases happly
    refine ⟨game, [], rfl, fun t => ?_⟩
    rw [Game.robotDropsContactWith_frame]
    rfl
  | handleContacts time =>
    obtain ⟨it, hit, rfl⟩ := h.owned
    have hh := OwnCall.apply_handleContacts.mp happly
    obtain ⟨steps', aside, haside, hteams⟩ := handleContactsLoop_aside hh hit
      (fun entry hentry => h.contacts entry.1 entry.2
        (Std.ExtTreeMap.mem_toList_iff_getElem?_eq_some.mp hentry)) game.contacts
    refine ⟨aside, steps', ?_, fun t => ?_⟩
    · simp only [OwnCall.applyAside, bind_eq_ok, pure_eq_ok, Prod.exists, Prod.mk.injEq]
      exact ⟨steps', aside, haside, rfl, rfl⟩
    · simp only [Game.team, hteams]

/-- The one way for the state of the item to change is a contact that ends
without a capture. -/
theorem OwnOnly.secured_iff {call : OwnCall} (h : OwnOnly item teamName game)
    (hsecured : Secured item teamName game) (hby : call.By game teamName)
    (happly : call.apply item game = .ok (game', steps)) :
    Secured item teamName game' ↔ call.Spares item game := by
  obtain ⟨it, hit, rfl, hstate⟩ := hsecured
  have hend : ∀ robotId, call = .touch robotId ∨ call = .drop robotId →
      (Secured item it.owningTeam game' ↔
        ∀ old, game.contacts[robotId]? = some old → old.item ≠ item) := by
    intro robotId hcall
    rw [← afterDestroying_succeeded h.unfinished hstate]
    have hafter := hby.touched hcall hit happly
    constructor
    · rintro ⟨it', hit', -, hstate'⟩
      cases hafter.symm.trans hit'
      exact hstate'
    · exact fun hstate' => ⟨_, hafter, afterDestroying_owningTeam _ it, hstate'⟩
  cases call with
  | touch robotId => exact hend robotId (.inl rfl)
  | drop robotId => exact hend robotId (.inr rfl)
  | handleContacts time =>
    have hh := OwnCall.apply_handleContacts.mp happly
    exact ⟨fun _ => trivial, fun _ => ⟨it, h.handled hit hh, rfl, hstate⟩⟩

theorem OwnCall.By.apply_ok {call : OwnCall} (hby : call.By game teamName)
    (hitem : item < game.items.allItems.length) (hends : ¬call.Spares item game) :
    ∃ game' steps, call.apply item game = .ok (game', steps) := by
  cases call with
  | touch robotId =>
    obtain ⟨r, hr, halive, -⟩ := hby
    exact ⟨_, _, apply_touch.mpr
      ⟨Game.robotIsInContactWith_ok.mpr ⟨r, hr, halive, hitem, rfl⟩, rfl⟩⟩
  | drop robotId => exact ⟨_, _, rfl⟩
  | handleContacts time => exact absurd trivial hends

-- ---------------------------------------------------------------------------
-- Every sequence
-- ---------------------------------------------------------------------------

/-- However the robots of the owner touch and drop its item, with the contacts
handled at any time: the item stays the team's and no score changes for it in
all states exactly when no contact with it is dropped or replaced. -/
theorem own_contacts_invisible_iff (game : Game) (item : ItemRef) (teamName : Str)
    (calls : List OwnCall) (hown : OwnOnly item teamName game)
    (hsecured : Secured item teamName game) (hby : ∀ call ∈ calls, call.By game teamName) :
    (Lib.AllStates (OwnCall.apply item) game calls (Secured item teamName) ∧
      Lib.AllSteps (OwnCall.apply item) game calls fun game call => call.LeavesScores item game) ↔
    Lib.AllSteps (OwnCall.apply item) game calls fun game call => call.Spares item game := by
  have hkeeps : ∀ game₁ call game₂ steps, call ∈ calls →
      (OwnOnly item teamName game₁ ∧ ∀ call ∈ calls, call.By game₁ teamName) →
      call.apply item game₁ = .ok (game₂, steps) →
      OwnOnly item teamName game₂ ∧ ∀ call ∈ calls, call.By game₂ teamName := by
    intro game₁ call game₂ steps hmem h happly
    exact ⟨h.1.apply (h.2 call hmem) happly,
      fun call' hcall' => (OwnCall.apply_sameSides happly).by (h.2 call' hcall')⟩
  have hrun : Lib.AllStates (OwnCall.apply item) game calls fun game₁ =>
      OwnOnly item teamName game₁ ∧ ∀ call ∈ calls, call.By game₁ teamName := by
    intro pre post game₁ outputs heq hpre
    exact Lib.run_invariant (fun game₁ =>
        OwnOnly item teamName game₁ ∧ ∀ call ∈ calls, call.By game₁ teamName)
      (fun game₁ call game₂ steps hmem => hkeeps game₁ call game₂ steps (by simp [heq, hmem]))
      ⟨hown, hby⟩ hpre
  constructor
  · rintro ⟨hstates, -⟩ pre call post game₁ outputs heq hpre
    obtain ⟨hown₁, hby₁⟩ := hrun pre (call :: post) game₁ outputs heq hpre
    have hcall := hby₁ call (by simp [heq])
    have hsecured₁ := hstates pre (call :: post) game₁ outputs heq hpre
    by_contra hends
    obtain ⟨it, hit, -⟩ := hown₁.owned
    obtain ⟨game₂, steps, happly⟩ := hcall.apply_ok (List.getElem?_eq_some_iff.mp hit).1 hends
    have hsecured₂ := hstates (pre ++ [call]) post game₂ _ (by simp [heq])
      (Lib.run_snoc.mpr ⟨game₁, outputs, steps, hpre, happly, rfl⟩)
    exact hends ((hown₁.secured_iff hsecured₁ hcall happly).mp hsecured₂)
  · intro hspares
    refine ⟨fun pre post game₁ outputs heq hpre => ?_, fun pre call post game₁ outputs heq hpre =>
      (hrun pre (call :: post) game₁ outputs heq hpre).1.leavesScores⟩
    refine (hspares.invariant (P := fun game₁ => Secured item teamName game₁ ∧
      OwnOnly item teamName game₁ ∧ ∀ call ∈ calls, call.By game₁ teamName)
      (fun game₁ call game₂ steps hmem h hc happly => ?_) ⟨hsecured, hown, hby⟩
      pre post game₁ outputs heq hpre).1
    exact ⟨(h.2.1.secured_iff h.1 (h.2.2 call hmem) happly).mpr hc,
      hkeeps game₁ call game₂ steps hmem h.2 happly⟩

def heldFlag : Game :=
  { oneFlag with
    items := oneFlag.items.modify 0 fun it =>
      { it with owningTeam := "A".toList, captureState := .succeeded } }

theorem own_contacts_invisible_iff_oneTouch :
    Lib.AllStates (OwnCall.apply 0) heldFlag [.touch "robot_0".toList, .handleContacts (.at 1)]
      (Secured 0 "A".toList) := by
  refine ((own_contacts_invisible_iff heldFlag 0 "A".toList _ ⟨?_, ⟨_, rfl, rfl⟩, ?_⟩
    ⟨_, rfl, rfl, rfl⟩ ?_).mpr ?_).1
  · exact fun id c hc => by cases Std.ExtTreeMap.getElem?_empty.symm.trans hc
  · exact fun id c hc => by cases Std.ExtTreeMap.getElem?_empty.symm.trans hc
  · simp only [List.forall_mem_cons]
    exact ⟨⟨_, rfl, rfl, rfl⟩, trivial, by simp⟩
  · refine Lib.allSteps_cons.mpr ⟨fun old hold => ?_, fun _ _ _ => ?_⟩
    · cases (hold : (∅ : Lib.Map Str Contact)["robot_0".toList]? = some old)
    · refine Lib.allSteps_cons.mpr ⟨trivial, fun _ _ _ pre call post _ _ heq => ?_⟩
      cases pre <;> cases heq

/-- The robot captures the flag, comes back to it and leaves. -/
theorem own_contact_fails :
    ∃ game outputs game' outputs',
      Lib.run (OwnCall.apply 0) (oneFlag.start true none (.at 0))
        [.touch "robot_0".toList, .handleContacts (.at 1)] = .ok (game, outputs) ∧
      OwnOnly 0 "A".toList game ∧ Secured 0 "A".toList game ∧
      Lib.run (OwnCall.apply 0) game [.touch "robot_0".toList, .drop "robot_0".toList] =
        .ok (game', outputs') ∧
      (∀ call ∈ [OwnCall.touch "robot_0".toList, .drop "robot_0".toList],
        call.By game "A".toList) ∧
      game'.items.allItems.map Item.captureState = [.failed] ∧ ¬Secured 0 "A".toList game' := by
  have hgone : ∀ contact, ∀ id : Str, (((∅ : Lib.Map Str Contact).insert "robot_0".toList
      contact).erase "robot_0".toList)[id]? = none := by
    intro contact id
    rw [Std.ExtTreeMap.getElem?_erase, Std.ExtTreeMap.getElem?_insert]
    split
    · rfl
    · exact Std.ExtTreeMap.getElem?_empty
  refine ⟨_, _, _, _, rfl, ⟨?_, ⟨_, rfl, rfl⟩, ?_⟩, ⟨_, rfl, rfl, rfl⟩, rfl, ?_, rfl, ?_⟩
  · exact fun id c hc => by cases (hgone _ id).symm.trans hc
  · exact fun id c hc => by cases (hgone _ id).symm.trans hc
  · simp only [List.forall_mem_cons]
    exact ⟨⟨_, rfl, rfl, rfl⟩, ⟨_, rfl, rfl, rfl⟩, by simp⟩
  · rintro ⟨it, hit, -, hstate⟩
    cases hit
    cases hstate

end ServerGame
