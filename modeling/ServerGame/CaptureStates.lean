import ServerGame.CaptureTiming
import ServerGame.Winner

/-!
# The capture state of an item and the contacts with it

An item shows a capture as started from the constructor of a contact on. The
destructor of a contact that did not capture shows it as failed, whatever other
contacts the item has, and a contact that replaces one is constructed first.
-/

namespace ServerGame

open Lib (bind_eq_ok pure_eq_ok)

variable {game game' : Game} {steps : List Game.ContactStep} {output : Output}

-- ---------------------------------------------------------------------------
-- What is promised
-- ---------------------------------------------------------------------------

def Game.teamNameOf (game : Game) (r : RobotRef) : Str := (game.team (game.robot r).team).name

def Game.AgreesWith (game : Game) (c : Contact) : Prop :=
  ∀ it, game.items.allItems[c.item]? = some it → game.teamNameOf c.robot ≠ it.owningTeam →
    it.captureState = .started

/-- An item touched by a robot whose team does not own it is being captured. -/
def CaptureStatesAgree (game : Game) : Prop :=
  ∀ (id : Str) c, game.contacts[id]? = some c → game.AgreesWith c

def GameCall.Touches : GameCall → Prop
  | .contact _ | .setTime _ | .step => True
  | _ => False

def NobodyElse (game : Game) (id : Str) (item : ItemRef) : Prop :=
  ∀ (id' : Str) c it, game.contacts[id']? = some c → id' ≠ id → c.item = item →
    game.items.allItems[item]? = some it → game.teamNameOf c.robot = it.owningTeam

def Game.lastDue (game : Game) (item : ItemRef) : Option Contact :=
  game.contacts.findLast fun c => c.item == item && game.isDue c

/-- The contact a call destroys was the only one to capture its item, and a tick
that captures an item leaves contacts with it to the new owner only. -/
def Unshared (game : Game) : GameCall → Prop
  | .contact (.isInContactWith id item) => ∀ old, game.contacts[id]? = some old →
    NobodyElse game id old.item ∧
      (old.item = item → ∀ r it, game.robotsById[id]? = some r →
        game.items.allItems[item]? = some it → game.teamNameOf r = it.owningTeam)
  | .contact (.dropsContactWith id _) => ∀ old, game.contacts[id]? = some old →
    NobodyElse game id old.item
  | .step => ∀ (id id' : Str) c d it last, game.contacts[id]? = some c → game.isDue c = false →
    game.contacts[id']? = some d → game.isDue d = true → d.item = c.item →
    game.items.allItems[c.item]? = some it → game.teamNameOf d.robot ≠ it.owningTeam →
    game.lastDue c.item = some last → game.teamNameOf last.robot = game.teamNameOf c.robot
  | _ => True

-- ---------------------------------------------------------------------------
-- Contacts
-- ---------------------------------------------------------------------------

def Unfinished (game : Game) : Prop :=
  ∀ (id : Str) c, game.contacts[id]? = some c → c.finished = false

section
variable {id : Str} {item k : ItemRef} {r : RobotRef}

/-- The item after the calls of `Contact::Contact` for one robot and of the
destructor for the contact it had. -/
def Game.replaced (game : Game) (id : Str) (touch : Item → Item) (k : ItemRef) (it : Item) : Item :=
  if game.contacts[id]?.map Contact.item = some k then (touch it).abortCapture else touch it

theorem Unfinished.replaced (hu : Unfinished game) (id : Str) (touch : Item → Item) (k : ItemRef) :
    (fun it => Game.afterDestroying game.contacts[id]? k (touch it)) =
      game.replaced id touch k := by
  funext it
  unfold Game.afterDestroying Game.replaced
  cases hold : game.contacts[id]? with
  | none => rfl
  | some old => simp [hu id old hold]

theorem replaced_owningTeam {touch : Item → Item}
    (htouch : ∀ it, (touch it).owningTeam = it.owningTeam) (it : Item) :
    (game.replaced id touch k it).owningTeam = it.owningTeam := by
  unfold Game.replaced
  split <;> simp [htouch]

theorem Item.startCapture_started {it : Item} (name : Str) (h : it.captureState = .started) :
    (it.startCapture name).captureState = .started := by
  unfold Item.startCapture
  split
  · rfl
  · exact h

theorem others_agree_iff (hagree : CaptureStatesAgree game) {touch : ItemRef → Item → Item}
    (hitems : ∀ k, game'.items.allItems[k]? =
      game.items.allItems[k]?.map (game.replaced id (touch k) k))
    (howner : ∀ k it, (touch k it).owningTeam = it.owningTeam)
    (hstarted : ∀ k it, it.captureState = .started → (touch k it).captureState = .started)
    (hname : ∀ r, game'.teamNameOf r = game.teamNameOf r) :
    (∀ (id' : Str) c, game.contacts[id']? = some c → id' ≠ id → game'.AgreesWith c) ↔
      ∀ old, game.contacts[id]? = some old → NobodyElse game id old.item := by
  constructor
  · intro h old hold id' c it hc hne hitem hit
    by_contra hforeign
    have hafter : game'.items.allItems[c.item]? =
        some (game.replaced id (touch old.item) old.item it) := by
      rw [hitems, hitem, hit, Option.map_some]
    have hstate := h id' c hc hne _ hafter
    rw [replaced_owningTeam (howner _), hname] at hstate
    have hfailed : (game.replaced id (touch old.item) old.item it).captureState = .failed := by
      simp [Game.replaced, hold, Item.abortCapture]
    rw [hfailed] at hstate
    cases hstate hforeign
  · intro h id' c hc hne it' hit' hforeign
    rw [hitems] at hit'
    obtain ⟨it, hit, rfl⟩ := Option.map_eq_some_iff.mp hit'
    rw [replaced_owningTeam (howner _), hname] at hforeign
    unfold Game.replaced
    split
    · next haborted =>
      obtain ⟨old, hold, hitem⟩ := Option.map_eq_some_iff.mp haborted
      exact absurd (h old hold id' c it hc hne hitem.symm (hitem ▸ hit)) hforeign
    · exact hstarted _ _ (hagree id' c hc it hit hforeign)

theorem recordContact_teamNameOf (game : Game) (id : Str) (r : RobotRef) (item : ItemRef)
    (r' : RobotRef) : (game.recordContact id r item).teamNameOf r' = game.teamNameOf r' := by
  rw [Game.recordContact_frame]
  rfl

/-- The new contact agrees with its item unless it replaces one that was about
to take the same item from another team. -/
theorem contactOf_agreesWith_iff (hu : Unfinished game)
    (hitem : item < game.items.allItems.length) :
    (game.recordContact id r item).AgreesWith (game.contactOf r item) ↔
      ∀ old, game.contacts[id]? = some old → old.item = item → ∀ it,
        game.items.allItems[item]? = some it → game.teamNameOf r = it.owningTeam := by
  have hafter : ∀ it, game.items.allItems[item]? = some it →
      (game.recordContact id r item).items.allItems[item]? =
        some (game.replaced id (·.startCapture (game.teamNameOf r)) item it) := by
    intro it hit
    rw [Game.recordContact_getElem?, hit, Option.map_some, ← hu.replaced]
    simp only [↓reduceIte]
    rfl
  have howner := fun it => @replaced_owningTeam game id item
    (·.startCapture (game.teamNameOf r)) (fun it => it.startCapture_owningTeam _) it
  constructor
  · intro h old hold hsame it hit
    by_contra hforeign
    have hstate := h _ (hafter it hit)
    rw [howner, recordContact_teamNameOf] at hstate
    simp [Game.replaced, hold, hsame, Item.abortCapture, Game.contactOf, hforeign] at hstate
  · intro h it' hit' hforeign
    have hit := List.getElem?_eq_getElem hitem
    cases (hafter _ hit).symm.trans hit'
    rw [howner, recordContact_teamNameOf] at hforeign
    unfold Game.replaced
    split
    · next haborted =>
      obtain ⟨old, hold, hsame⟩ := Option.map_eq_some_iff.mp haborted
      exact absurd (h old hold hsame _ hit) hforeign
    · have hother : game.items.allItems[item].owningTeam ≠ game.teamNameOf r :=
        Ne.symm hforeign
      simp [Item.startCapture, hother]

theorem contact_agrees_iff (hu : Unfinished game) (hagree : CaptureStatesAgree game)
    (hr : game.robotsById[id]? = some r) (hitem : item < game.items.allItems.length) :
    CaptureStatesAgree (game.recordContact id r item) ↔
      Unshared game (.contact (.isInContactWith id item)) := by
  have hothers := @others_agree_iff game (game.recordContact id r item) id hagree
    (fun k it => if item = k then it.startCapture (game.teamNameOf r) else it)
    (fun k => (Game.recordContact_getElem? id r item k).trans (by rw [← hu.replaced]; rfl))
    (fun k it => by split <;> simp)
    (fun k it h => by split; exacts [it.startCapture_started _ h, h])
    (recordContact_teamNameOf game id r item)
  have hnew := @contactOf_agreesWith_iff game id item r hu hitem
  unfold Unshared CaptureStatesAgree
  simp only [Game.recordContact_contacts, Std.ExtTreeMap.getElem?_insert_eq_some]
  constructor
  · intro h old hold
    refine ⟨hothers.mp (fun id' c hc hne => h id' c (.inr ⟨hne.symm, hc⟩)) old hold, ?_⟩
    intro hsame r' it hr' hit
    cases hr.symm.trans hr'
    exact hnew.mp (h id _ (.inl ⟨rfl, rfl⟩)) old hold hsame it hit
  · rintro h id' c (⟨rfl, rfl⟩ | ⟨hne, hc⟩)
    · exact hnew.mpr fun old hold hsame it hit => (h old hold).2 hsame r it hr hit
    · exact hothers.mpr (fun old hold => (h old hold).1) id' c hc hne.symm

theorem drop_agrees_iff (hu : Unfinished game) (hagree : CaptureStatesAgree game) :
    CaptureStatesAgree (game.robotDropsContactWith id item) ↔
      Unshared game (.contact (.dropsContactWith id item)) := by
  have hname : ∀ r', (game.robotDropsContactWith id item).teamNameOf r' = game.teamNameOf r' := by
    intro r'
    rw [Game.robotDropsContactWith_frame]
    rfl
  have hothers := @others_agree_iff game (game.robotDropsContactWith id item) id hagree
    (fun _ it => it)
    (fun k => (Game.robotDropsContactWith_getElem? id item k).trans (by rw [← hu.replaced]))
    (fun _ _ => rfl) (fun _ _ h => h) hname
  refine Iff.trans ?_ hothers
  unfold CaptureStatesAgree
  simp only [Game.robotDropsContactWith_contacts, Std.ExtTreeMap.getElem?_erase_eq_some]
  exact ⟨fun h id' c hc hne => h id' c ⟨hne.symm, hc⟩, fun h id' c hc => h id' c hc.2 hc.1.symm⟩

end

-- ---------------------------------------------------------------------------
-- Ticks
-- ---------------------------------------------------------------------------

structure SameTeams (game game' : Game) : Prop where
  teamNameOf : ∀ r, game'.teamNameOf r = game.teamNameOf r
  isDue : ∀ c, game'.isDue c = game.isDue c

theorem SameTeams.captureItem {t : TeamRef} {item : ItemRef} {c : Game.Capture}
    (h : game.captureItem t item = .ok (c, game')) (contacts : Lib.Map Str Contact) :
    SameTeams game { game' with contacts } where
  teamNameOf r := by
    have hroster := SameRoster.captureItem h
    have hrobot : { game' with contacts }.robot r = game.robot r := by
      simp only [Game.robot, hroster.robotHeap]
    rw [Game.teamNameOf, Game.teamNameOf, hrobot]
    exact hroster.teamName _
  isDue d := by rw [Game.captureItem_frame h]; rfl

theorem capture_getElem? {t : TeamRef} {item : ItemRef} {c : Game.Capture}
    (h : game.captureItem t item = .ok (c, game')) {k : ItemRef} {it : Item}
    (hit : game.items.allItems[k]? = some it) :
    game'.items.allItems[k]? = some (if item = k then (it.capture (game.team t)).1 else it) := by
  obtain ⟨it₀, -, hit₀, -, rfl⟩ := Game.captureItem_ok.mp h
  have hmodified := game.items.getElem?_modify item k fun _ => (it₀.capture (game.team t)).1
  rw [hit, Option.map_some] at hmodified
  refine hmodified.trans ?_
  split
  · next hk =>
    subst hk
    cases hit₀.symm.trans hit
    rfl
  · rfl

theorem Item.capture_of_owner {it : Item} {team : Team} (h : team.name = it.owningTeam) :
    (it.capture team).1 = it := by
  unfold Item.capture
  rw [if_neg (not_not.mpr h)]

theorem Item.capture_captureState {it : Item} {team : Team} (h : team.name ≠ it.owningTeam) :
    (it.capture team).1.captureState = .succeeded := by
  unfold Item.capture
  rw [if_pos h]

section
variable {entries : List (Str × Contact)} {k : ItemRef} {it : Item}

theorem handleContactsLoop_owned (h : game.handleContactsLoop entries = .ok (steps, game'))
    (hit : game.items.allItems[k]? = some it)
    (howned : ∀ entry ∈ entries, entry.2.item = k → game.isDue entry.2 = true →
      game.teamNameOf entry.2.robot = it.owningTeam) :
    game'.items.allItems[k]? = some it := by
  induction entries generalizing game steps with
  | nil => cases h; exact hit
  | cons entry entries ih =>
    obtain ⟨hfirst, hrest⟩ := List.forall_mem_cons.mp howned
    obtain ⟨-, ⟨-, _, hr, -⟩ | ⟨hdue, c, game₁, _, hc, hr, -⟩⟩ := Game.handleContactsLoop_cons.mp h
    · exact ih hr hit hrest
    · have hsame := SameTeams.captureItem hc (game₁.contacts.erase entry.1)
      refine ih hr ?_ fun e he hk hd => ?_
      · refine (capture_getElem? hc hit).trans ?_
        split
        · next hk => rw [Item.capture_of_owner (hfirst hk hdue)]
        · rfl
      · rw [hsame.teamNameOf]
        rw [hsame.isDue] at hd
        exact hrest e he hk hd

/-- The contact that takes an item and the ones behind it that are due are all
of one team: the last of them is, and the item stays as the first has left it. -/
theorem handleContactsLoop_settled {taker : Contact} {team : Str}
    (h : game.handleContactsLoop entries = .ok (steps, game'))
    (hit : game.items.allItems[k]? = some it) (howner : it.owningTeam = team)
    (htaker : game.teamNameOf taker.robot = team)
    (hlater : ∀ e ∈ entries, e.2.item = k → game.isDue e.2 = true →
      game.teamNameOf e.2.robot = team) :
    game'.items.allItems[k]? = some it ∧ ∃ last, (entries.foldl (fun found entry =>
        if entry.2.item == k && game.isDue entry.2 then some entry.2 else found) (some taker)) =
          some last ∧ game.teamNameOf last.robot = team := by
  refine ⟨handleContactsLoop_owned h hit fun e he hk hd => ?_, ?_⟩
  · rw [howner, hlater e he hk hd]
  · obtain ⟨last, hlast, hfrom⟩ := Std.ExtTreeMap.foldl_last_start
      (p := fun c => c.item == k && game.isDue c) entries taker
    refine ⟨last, hlast, ?_⟩
    rcases hfrom with rfl | ⟨e, he, rfl, hp⟩
    · exact htaker
    · simp only [Bool.and_eq_true, beq_iff_eq] at hp
      exact hlater e he hp.1 hp.2

theorem handleContactsLoop_taken (h : game.handleContactsLoop entries = .ok (steps, game'))
    (hit : game.items.allItems[k]? = some it) (init : Option Contact)
    (htaken : ∃ entry ∈ entries, entry.2.item = k ∧ game.isDue entry.2 = true ∧
      game.teamNameOf entry.2.robot ≠ it.owningTeam) :
    ∃ last it', (entries.foldl (fun found entry =>
        if entry.2.item == k && game.isDue entry.2 then some entry.2 else found) init) = some last ∧
      game'.items.allItems[k]? = some it' ∧ it'.owningTeam = game.teamNameOf last.robot ∧
      it'.captureState = .succeeded := by
  induction entries generalizing game steps it init with
  | nil => obtain ⟨_, hmem, -⟩ := htaken; cases hmem
  | cons entry entries ih =>
    rw [List.foldl_cons]
    obtain ⟨-, ⟨hdue, _, hr, -⟩ | ⟨hdue, c, game₁, steps', hc, hr, -⟩⟩ :=
      Game.handleContactsLoop_cons.mp h
    · have hnot : game.isDue entry.2 = false := hdue
      obtain ⟨e, hmem, hk, hd, hne⟩ := htaken
      rcases List.mem_cons.mp hmem with rfl | hmem
      · rw [hnot] at hd; cases hd
      · rw [if_neg (by simp [hnot])]
        exact ih hr hit init ⟨e, hmem, hk, hd, hne⟩
    · have hdue' : game.isDue entry.2 = true := hdue
      have hsame := SameTeams.captureItem hc (game₁.contacts.erase entry.1)
      have hit₁ := capture_getElem? hc hit
      have hih := @ih { game₁ with contacts := game₁.contacts.erase entry.1 } steps'
      simp only [hsame.isDue, hsame.teamNameOf] at hih
      by_cases hk : entry.2.item = k
      · rw [if_pos hk] at hit₁
        rw [if_pos (by simp [hk, hdue'])]
        have howner : (it.capture (game.team (game.robot entry.2.robot).team)).1.owningTeam =
            game.teamNameOf entry.2.robot := it.capture_owningTeam _
        by_cases hagain : ∃ e ∈ entries, e.2.item = k ∧ game.isDue e.2 = true ∧
            game.teamNameOf e.2.robot ≠ game.teamNameOf entry.2.robot
        · exact hih hr hit₁ (some entry.2) (howner ▸ hagain)
        · -- no later contact takes the item again
          have hlater : ∀ e ∈ entries, e.2.item = k → game.isDue e.2 = true →
              game.teamNameOf e.2.robot = game.teamNameOf entry.2.robot :=
            fun e he hk hd => by_contra fun hne => hagain ⟨e, he, hk, hd, hne⟩
          have hmoves : game.teamNameOf entry.2.robot ≠ it.owningTeam := by
            intro hsameOwner
            obtain ⟨e, hmem, hek, hd, hne⟩ := htaken
            rcases List.mem_cons.mp hmem with rfl | hmem
            · exact hne hsameOwner
            · exact hne ((hlater e hmem hek hd).trans hsameOwner)
          obtain ⟨hfinal, last, hlast, hteam⟩ := @handleContactsLoop_settled
            { game₁ with contacts := game₁.contacts.erase entry.1 } _ _ _ _ _ entry.2 _ hr hit₁
            howner (hsame.teamNameOf _) (by simpa only [hsame.isDue, hsame.teamNameOf] using hlater)
          simp only [hsame.isDue, hsame.teamNameOf] at hlast hteam
          exact ⟨last, _, hlast, hfinal, howner.trans hteam.symm, Item.capture_captureState hmoves⟩
      · rw [if_neg hk] at hit₁
        rw [if_neg (by simp [hk])]
        obtain ⟨e, hmem, hek, hd, hne⟩ := htaken
        rcases List.mem_cons.mp hmem with rfl | hmem
        · exact absurd hek hk
        · exact hih hr hit₁ init ⟨e, hmem, hek, hd, hne⟩

end

theorem step_agrees_iff (hagree : CaptureStatesAgree game)
    (h : game.step = .ok (steps, game')) (hrun : game'.isRunning = true) :
    CaptureStatesAgree game' ↔ Unshared game .step := by
  have hlength := (SameStage.step h).items
  have hname : ∀ r, game'.teamNameOf r = game.teamNameOf r := by
    have hroster := SameRoster.step h
    intro r
    rw [Game.teamNameOf, hroster.teamName, Game.robot, hroster.robotHeap]
    rfl
  have hpending : ∀ (id : Str) c, game'.contacts[id]? = some c ↔
      game.contacts[id]? = some c ∧ game.isDue c = false := fun id c => Game.step_contacts_iff h
  obtain ⟨handled, hh, hgame⟩ := Game.step_ok.mp h
  have hhandled : game' = handled := by
    rw [hgame]
    exact (stopIfGameIsFinished_goesOn (hgame ▸ hrun)).1
  rw [← hhandled] at hh
  have hmem : ∀ (id : Str) d, (id, d) ∈ game.contacts.toList ↔ game.contacts[id]? = some d :=
    fun id d => Std.ExtTreeMap.mem_toList_iff_getElem?_eq_some
  have htaken : ∀ (id : Str) d it, game.contacts[id]? = some d → game.isDue d = true →
      game.items.allItems[d.item]? = some it → game.teamNameOf d.robot ≠ it.owningTeam →
      ∃ last it', game.lastDue d.item = some last ∧ game'.items.allItems[d.item]? = some it' ∧
        it'.owningTeam = game.teamNameOf last.robot ∧ it'.captureState = .succeeded :=
    fun id d it hd hdue hit hne => handleContactsLoop_taken hh hit none
      ⟨(id, d), (hmem id d).mpr hd, rfl, hdue, hne⟩
  constructor
  · intro h id id' c d it last hc hwaits hd hdue hitem hit hne hlast
    rw [← hitem] at hit hlast
    obtain ⟨last', it', hlast', hit', howner, hstate⟩ := htaken id' d it hd hdue hit hne
    cases hlast.symm.trans hlast'
    by_contra hother
    have hstarted := h id c ((hpending id c).mpr ⟨hc, hwaits⟩) it' (hitem ▸ hit')
    rw [hname, howner, hstate] at hstarted
    cases hstarted fun heq => hother heq.symm
  · intro h id c hc it' hit' hforeign
    obtain ⟨hc, hwaits⟩ := (hpending id c).mp hc
    rw [hname] at hforeign
    have hbound : c.item < game.items.allItems.length :=
      hlength ▸ (List.getElem?_eq_some_iff.mp hit').1
    obtain ⟨it, hit⟩ : ∃ it, game.items.allItems[c.item]? = some it :=
      ⟨_, List.getElem?_eq_getElem hbound⟩
    by_cases howned : ∀ entry ∈ game.contacts.toList, entry.2.item = c.item →
        game.isDue entry.2 = true → game.teamNameOf entry.2.robot = it.owningTeam
    · cases (handleContactsLoop_owned hh hit howned).symm.trans hit'
      exact hagree id c hc _ hit hforeign
    · push Not at howned
      obtain ⟨⟨id', d⟩, hd, hitem, hdue, hne⟩ := howned
      have hpend := (hmem id' d).mp hd
      have hit₀ := hit
      rw [← hitem] at hit₀
      obtain ⟨last, it₁, hlast, hit₁, howner, -⟩ := htaken id' d _ hpend hdue hit₀ hne
      rw [hitem] at hlast hit₁
      cases hit₁.symm.trans hit'
      have hsame := h id id' c d _ last hc hwaits hpend hdue hitem hit hne hlast
      exact absurd (hsame.symm.trans howner.symm) hforeign

-- ---------------------------------------------------------------------------
-- Runs
-- ---------------------------------------------------------------------------

theorem Unfinished.apply {call : GameCall} (hu : Unfinished game) (htouches : call.Touches)
    (h : call.apply game = .ok (game', output)) : Unfinished game' := by
  intro id c hc
  cases call with
  | contact call =>
    obtain ⟨hcall, -⟩ := GameCall.apply_contact.mp h
    cases call with
    | isInContactWith robotId item =>
      obtain ⟨r, -, -, -, rfl⟩ := Game.robotIsInContactWith_ok.mp hcall
      rw [Game.recordContact_contacts, Std.ExtTreeMap.getElem?_insert_eq_some] at hc
      rcases hc with ⟨-, rfl⟩ | ⟨-, hc⟩
      · rfl
      · exact hu id c hc
    | dropsContactWith robotId item =>
      cases hcall
      rw [Game.robotDropsContactWith_contacts, Std.ExtTreeMap.getElem?_erase_eq_some] at hc
      exact hu id c hc.2
  | setTime time => cases h; exact hu id c hc
  | step =>
    obtain ⟨_, hstep, -⟩ := GameCall.apply_step.mp h
    exact hu id c ((Game.step_contacts_iff hstep).mp hc).1
  | _ => exact htouches.elim

theorem agrees_iff {call : GameCall} (hu : Unfinished game) (hagree : CaptureStatesAgree game)
    (htouches : call.Touches) (h : call.apply game = .ok (game', output))
    (hrun : game'.isRunning = true) : CaptureStatesAgree game' ↔ Unshared game call := by
  cases call with
  | contact call =>
    obtain ⟨hcall, -⟩ := GameCall.apply_contact.mp h
    cases call with
    | isInContactWith id item =>
      obtain ⟨r, hr, -, hitem, rfl⟩ := Game.robotIsInContactWith_ok.mp hcall
      exact contact_agrees_iff hu hagree hr hitem
    | dropsContactWith id item =>
      cases hcall
      exact drop_agrees_iff hu hagree
  | setTime time => cases h; exact ⟨fun _ => trivial, fun _ => hagree⟩
  | step =>
    obtain ⟨_, hstep, -⟩ := GameCall.apply_step.mp h
    exact step_agrees_iff hagree hstep hrun
  | _ => exact htouches.elim

theorem isRunning_before {call : GameCall} (htouches : call.Touches)
    (h : call.apply game = .ok (game', output)) (hrun : game'.isRunning = true) :
    game.isRunning = true := by
  cases call with
  | contact call =>
    obtain ⟨hcall, -⟩ := GameCall.apply_contact.mp h
    exact (SameVerdict.handleContactCall hcall).2 hrun
  | setTime time => cases h; exact hrun
  | step =>
    obtain ⟨_, hstep, -⟩ := GameCall.apply_step.mp h
    obtain ⟨handled, hh, rfl⟩ := Game.step_ok.mp hstep
    rw [(stopIfGameIsFinished_goesOn hrun).1, (handleContacts_verdict hh).2] at hrun
    exact hrun
  | _ => exact htouches.elim

theorem run_isRunning {calls : List GameCall} {outputs : List Output}
    (htouches : ∀ call ∈ calls, call.Touches)
    (h : Lib.run GameCall.apply game calls = .ok (game', outputs)) (hrun : game'.isRunning = true) :
    game.isRunning = true := by
  induction calls generalizing game outputs with
  | nil => cases Lib.run_nil.mp h; exact hrun
  | cons call calls ih =>
    obtain ⟨game₁, _, _, hcall, hrest, -⟩ := Lib.run_cons.mp h
    exact isRunning_before (htouches call (by simp)) hcall
      (ih (fun c hc => htouches c (by simp [hc])) hrest)

/-- In a run of contacts, drops, times and ticks from a start without contacts
that leaves the game running, every item shows its capture as started while it
has a contact of a team that does not own it, in all states of the run, exactly
when every contact that is destroyed was the only one to capture its item. -/
theorem capture_states_agree_iff (game : Game) (forceStop : Bool) (forced : Option Ptime)
    (localTime : Instant) (calls : List GameCall) (game' : Game) (outputs : List Output)
    (hnone : ∀ id : Str, game.contacts[id]? = none) (htouches : ∀ call ∈ calls, call.Touches)
    (h : Lib.run GameCall.apply (game.start forceStop forced (.at localTime)) calls =
      .ok (game', outputs))
    (hrun : game'.isRunning = true) :
    Lib.AllStates GameCall.apply (game.start forceStop forced (.at localTime)) calls
        CaptureStatesAgree ↔
      Lib.AllSteps GameCall.apply (game.start forceStop forced (.at localTime)) calls Unshared := by
  have hempty : ∀ id : Str, (game.start forceStop forced (.at localTime)).contacts[id]? = none := by
    intro id
    rw [Game.start_contacts, hnone]
  generalize game.start forceStop forced (.at localTime) = started at *
  have hu : Lib.AllStates GameCall.apply started calls Unfinished := by
    intro pre post game₁ outputs₁ heq hpre
    refine Lib.run_invariant Unfinished (fun _ call _ _ hmem hu hcall => ?_)
      (fun id c hc => by rw [hempty] at hc; cases hc) hpre
    exact hu.apply (htouches call (by simp [heq, hmem])) hcall
  have hrunning : ∀ pre call post game₁ outputs₁ game₂ output, calls = pre ++ call :: post →
      Lib.run GameCall.apply started pre = .ok (game₁, outputs₁) →
      call.apply game₁ = .ok (game₂, output) → game₂.isRunning = true := by
    rintro pre call post game₁ outputs₁ game₂ output rfl hpre hcall
    obtain ⟨game₁', outputs₁', _, hpre', hpost, -⟩ := Lib.run_append.mp h
    cases hpre.symm.trans hpre'
    obtain ⟨game₂', output', _, hcall', hrest, -⟩ := Lib.run_cons.mp hpost
    cases hcall.symm.trans hcall'
    exact run_isRunning (fun c hc => htouches c (by simp [hc])) hrest hrun
  constructor
  · intro hagree pre call post game₁ outputs₁ heq hpre
    subst heq
    obtain ⟨game₂, output, hcall, hagree₁, hagree₂⟩ := hagree.both h hpre
    have hrun₂ := hrunning pre call post game₁ outputs₁ game₂ output rfl hpre hcall
    exact (agrees_iff (hu pre _ game₁ outputs₁ rfl hpre) hagree₁ (htouches call (by simp)) hcall
      hrun₂).mp hagree₂
  · intro hunshared pre post game₁ outputs₁ heq hpre
    -- the run up to a state goes along, for what the states before it keep
    refine (hunshared.history (P := fun pre game =>
      CaptureStatesAgree game ∧ ∃ outputs, Lib.run GameCall.apply started pre = .ok (game, outputs))
      (fun pre call post game₁ game₂ output heq hP hc hcall => ?_)
      ⟨fun id c hc => (by rw [hempty] at hc; cases hc), [], Lib.run_nil.mpr rfl⟩ heq hpre).1
    obtain ⟨hagree, outputs₁, hpre⟩ := hP
    have hrun₂ := hrunning pre call post game₁ outputs₁ game₂ output heq hpre hcall
    refine ⟨(agrees_iff (hu pre _ game₁ outputs₁ heq hpre) hagree
      (htouches call (by simp [heq])) hcall hrun₂).mpr hc, outputs₁ ++ [output], ?_⟩
    exact Lib.run_snoc.mpr ⟨game₁, outputs₁, output, hpre, hcall, rfl⟩

theorem capture_states_agree_iff_oneTouch :
    Lib.AllStates GameCall.apply (oneFlag.start true none (.at 0)) oneTouch CaptureStatesAgree := by
  refine (capture_states_agree_iff oneFlag true none 0 oneTouch _ _
    (fun _ => Std.ExtTreeMap.getElem?_empty) ?_ rfl rfl).mpr ?_
  · simp [oneTouch, GameCall.Touches]
  · refine Lib.allSteps_cons.mpr ⟨trivial, fun _ _ h => ?_⟩
    cases h
    refine Lib.allSteps_cons.mpr ⟨fun old hold => ?_, fun _ _ h => ?_⟩
    · cases hold
    · cases h
      refine Lib.allSteps_cons.mpr ⟨trivial, fun _ _ _ pre call post _ _ heq => ?_⟩
      cases pre <;> cases heq

/-- The robot reports the same item again: the item shows a failed capture, and
the robot still has its contact. -/
theorem repeated_contact_fails :
    ∃ game outputs, Lib.run GameCall.apply (oneFlag.start true none (.at 0))
        [.contact (.isInContactWith "robot_0".toList 0),
          .contact (.isInContactWith "robot_0".toList 0)] = .ok (game, outputs) ∧
      game.isRunning = true ∧ (game.contacts["robot_0".toList]?.map Contact.item) = some 0 ∧
      game.items.allItems.map Item.captureState = [.failed] ∧ ¬CaptureStatesAgree game := by
  refine ⟨_, _, rfl, rfl, rfl, rfl, fun h => ?_⟩
  cases h "robot_0".toList _ rfl _ rfl (by decide)

end ServerGame
