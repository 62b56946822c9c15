import ServerGame.Game.Laws

/-!
# A tick and the pending contacts

The loop of `handleContacts` erases entries of the map it walks over. What
that comes to: every pending contact is stepped once, in key order, and those
that are due capture their item and are gone afterwards.
-/

namespace ServerGame.Game

variable {game game' : Game}

def isDue (game : Game) (contact : Contact) : Bool := game.time.isAfter contact.stopTime

/-- What a step of a contact says: a capture when it is due, of its item and
for the team of its robot. -/
structure StepSound (game : Game) (s : ContactStep) : Prop where
  isDue : s.capture.isSome = game.isDue s.contact
  item : ∀ c, s.capture = some c → c.item = s.contact.item
  team : ∀ c, s.capture = some c → c.team = (game.robot s.contact.robot).team

theorem captureItem_frame {t : TeamRef} {item : ItemRef} {c : Capture}
    (h : game.captureItem t item = .ok (c, game')) :
    game' = { game with items := game'.items, teamHeap := game'.teamHeap } := by
  obtain ⟨it, _, _, -, rfl⟩ := captureItem_ok.mp h
  rfl

theorem captureItem_team_of_ne {t t' : TeamRef} {item : ItemRef} {c : Capture}
    (h : game.captureItem t item = .ok (c, game')) (ht : c.team ≠ t') :
    game'.team t' = game.team t' := by
  obtain ⟨it, _, _, rfl, rfl⟩ := captureItem_ok.mp h
  rw [afterCapture, modifyTeam_team, if_neg (Ne.symm ht)]
  rfl

theorem handleContactsLoop_entries {entries : List (Str × Contact)} {steps : List ContactStep}
    (h : game.handleContactsLoop entries = .ok (steps, game')) :
    steps.map (fun s => (s.robotId, s.contact)) = entries := by
  induction entries generalizing game steps with
  | nil => cases h; rfl
  | cons entry entries ih =>
    obtain ⟨-, ⟨-, steps', hr, rfl⟩ | ⟨-, c, game₁, steps', -, hr, rfl⟩⟩ :=
      handleContactsLoop_cons.mp h <;> simp [ih hr]

theorem handleContactsLoop_sound {entries : List (Str × Contact)} {steps : List ContactStep}
    (h : game.handleContactsLoop entries = .ok (steps, game')) :
    ∀ s ∈ steps, game.StepSound s := by
  induction entries generalizing game steps with
  | nil => cases h; simp
  | cons entry entries ih =>
    obtain ⟨-, ⟨hdue, steps', hr, rfl⟩ | ⟨hdue, c, game₁, steps', hc, hr, rfl⟩⟩ :=
      handleContactsLoop_cons.mp h
    · intro s hs
      rcases List.mem_cons.mp hs with rfl | hs
      · exact ⟨by simp [isDue, hdue], by simp, by simp⟩
      · exact ih hr s hs
    · intro s hs
      rcases List.mem_cons.mp hs with rfl | hs
      · obtain ⟨it, _, _, rfl, -⟩ := captureItem_ok.mp hc
        exact ⟨by simp [isDue, hdue], by simp, by simp⟩
      · have hsound := ih hr s hs
        rw [captureItem_frame hc] at hsound
        exact ⟨hsound.isDue, hsound.item, hsound.team⟩

theorem handleContactsLoop_contacts {entries : List (Str × Contact)} {steps : List ContactStep}
    (h : game.handleContactsLoop entries = .ok (steps, game')) (id : Str) :
    (∀ s ∈ steps, s.robotId = id → s.capture = none) ∧
        game'.contacts[id]? = game.contacts[id]? ∨
      (∃ s ∈ steps, s.robotId = id ∧ s.capture.isSome) ∧ game'.contacts[id]? = none := by
  induction entries generalizing game steps with
  | nil => cases h; simp
  | cons entry entries ih =>
    obtain ⟨-, ⟨-, steps', hr, rfl⟩ | ⟨-, c, game₁, steps', hc, hr, rfl⟩⟩ :=
      handleContactsLoop_cons.mp h
    · rcases ih hr with ⟨hnone, hsame⟩ | ⟨⟨s, hs, hid, hcap⟩, hgone⟩
      · exact .inl ⟨by simpa using hnone, hsame⟩
      · exact .inr ⟨⟨s, List.mem_cons_of_mem _ hs, hid, hcap⟩, hgone⟩
    · have hcontacts : game₁.contacts = game.contacts := by rw [captureItem_frame hc]
      by_cases hid : entry.1 = id
      · refine .inr ⟨⟨_, List.mem_cons_self, hid, rfl⟩, ?_⟩
        rcases ih hr with ⟨-, hsame⟩ | ⟨-, hgone⟩
        · rw [hsame, hid, Std.ExtTreeMap.getElem?_erase_self]
        · exact hgone
      · rcases ih hr with ⟨hnone, hsame⟩ | ⟨⟨s, hs, hid', hcap⟩, hgone⟩
        · refine .inl ⟨?_, ?_⟩
          · intro s hs hs'
            rcases List.mem_cons.mp hs with rfl | hs
            · exact absurd hs' hid
            · exact hnone s hs hs'
          · rw [hsame, Std.ExtTreeMap.getElem?_erase, hcontacts]
            simp [hid]
        · exact .inr ⟨⟨s, List.mem_cons_of_mem _ hs, hid', hcap⟩, hgone⟩

theorem handleContactsLoop_score {entries : List (Str × Contact)} {steps : List ContactStep}
    (h : game.handleContactsLoop entries = .ok (steps, game')) (t : TeamRef) :
    (game'.team t).score = (game.team t).score ∨
      ∃ s ∈ steps, ∃ c, s.capture = some c ∧ c.team = t := by
  induction entries generalizing game steps with
  | nil => cases h; exact .inl rfl
  | cons entry entries ih =>
    obtain ⟨-, ⟨-, steps', hr, rfl⟩ | ⟨-, c, game₁, steps', hc, hr, rfl⟩⟩ :=
      handleContactsLoop_cons.mp h
    · rcases ih hr with hsame | ⟨s, hs, hcap⟩
      · exact .inl hsame
      · exact .inr ⟨s, List.mem_cons_of_mem _ hs, hcap⟩
    · by_cases ht : c.team = t
      · exact .inr ⟨_, List.mem_cons_self, c, rfl, ht⟩
      · rcases ih hr with hsame | ⟨s, hs, hcap⟩
        · have hteam : game₁.team t = game.team t := captureItem_team_of_ne hc ht
          exact .inl (hsame.trans (congrArg Team.score hteam))
        · exact .inr ⟨s, List.mem_cons_of_mem _ hs, hcap⟩

-- ---------------------------------------------------------------------------
-- The whole tick
-- ---------------------------------------------------------------------------

@[simp] theorem stop_contacts : game.stop.contacts = game.contacts := by
  unfold stop; split <;> rfl

@[simp] theorem stop_teamHeap : game.stop.teamHeap = game.teamHeap := by
  unfold stop; split <;> rfl

@[simp] theorem start_contacts (forceStop : Bool) (forced : Option Ptime) (localTime : Ptime) :
    (game.start forceStop forced localTime).contacts = game.contacts := by
  cases forceStop with
  | true =>
    rw [start_true]
    exact stop_contacts
  | false =>
    unfold start
    simp only [Bool.false_eq_true, ↓reduceIte]
    split <;> rfl

@[simp] theorem stopIfGameIsFinished_contacts :
    game.stopIfGameIsFinished.contacts = game.contacts := by
  rcases game.stopIfGameIsFinished_cases with h | h | ⟨_, -, h⟩ <;> simp [h]

@[simp] theorem stopIfGameIsFinished_teamHeap :
    game.stopIfGameIsFinished.teamHeap = game.teamHeap := by
  rcases game.stopIfGameIsFinished_cases with h | h | ⟨_, -, h⟩ <;> simp [h]

/-- A tick steps every pending contact once, in key order. -/
theorem step_steps {steps : List ContactStep} (h : game.step = .ok (steps, game')) :
    steps.map (fun s => (s.robotId, s.contact)) = game.contacts.toList := by
  obtain ⟨handled, hh, rfl⟩ := step_ok.mp h
  exact handleContactsLoop_entries hh

theorem step_sound {steps : List ContactStep} (h : game.step = .ok (steps, game')) :
    ∀ s ∈ steps, game.contacts[s.robotId]? = some s.contact ∧ game.StepSound s := by
  intro s hs
  constructor
  · have hmem : (s.robotId, s.contact) ∈ game.contacts.toList := by
      rw [← step_steps h]
      exact List.mem_map_of_mem hs
    exact Std.ExtTreeMap.mem_toList_iff_getElem?_eq_some.mp hmem
  · obtain ⟨handled, hh, rfl⟩ := step_ok.mp h
    exact handleContactsLoop_sound hh s hs

theorem step_of_pending {steps : List ContactStep} (h : game.step = .ok (steps, game')) {id : Str}
    {c : Contact} (hc : game.contacts[id]? = some c) :
    ∃ s ∈ steps, s.robotId = id ∧ s.contact = c := by
  have hmem := Std.ExtTreeMap.mem_toList_iff_getElem?_eq_some.mpr hc
  rw [← step_steps h] at hmem
  obtain ⟨s, hs, heq⟩ := List.mem_map.mp hmem
  simp only [Prod.mk.injEq] at heq
  exact ⟨s, hs, heq.1, heq.2⟩

theorem step_contacts_iff {steps : List ContactStep} (h : game.step = .ok (steps, game'))
    {id : Str} {c : Contact} :
    game'.contacts[id]? = some c ↔ game.contacts[id]? = some c ∧ game.isDue c = false := by
  have hsteps := step_sound h
  obtain ⟨handled, hh, hgame⟩ := step_ok.mp h
  have hcontacts : game'.contacts = handled.contacts := by
    rw [hgame, stopIfGameIsFinished_contacts]
  rw [hcontacts]
  constructor
  · intro hc
    rcases handleContactsLoop_contacts hh id with ⟨hnone, hsame⟩ | ⟨-, hgone⟩
    · rw [hsame] at hc
      obtain ⟨s, hs, hid, rfl⟩ := step_of_pending h hc
      have hdue := (hsteps s hs).2.isDue
      rw [hnone s hs hid] at hdue
      exact ⟨hc, hdue.symm⟩
    · rw [hgone] at hc; cases hc
  · rintro ⟨hc, hdue⟩
    rcases handleContactsLoop_contacts hh id with ⟨-, hsame⟩ | ⟨⟨s, hs, hid, hcap⟩, -⟩
    · exact hsame.trans hc
    · obtain ⟨hpending, hsound⟩ := hsteps s hs
      rw [hid, hc] at hpending
      cases hpending
      rw [hsound.isDue, hdue] at hcap
      cases hcap

theorem step_captures_iff {steps : List ContactStep} (h : game.step = .ok (steps, game'))
    {id : Str} {item : ItemRef} {t : TeamRef} :
    (∃ s ∈ steps, s.robotId = id ∧ ∃ capture, s.capture = some capture ∧
        capture.item = item ∧ capture.team = t) ↔
      ∃ c, game.contacts[id]? = some c ∧ game.isDue c = true ∧ c.item = item ∧
        (game.robot c.robot).team = t := by
  constructor
  · rintro ⟨s, hs, rfl, capture, hcap, rfl, rfl⟩
    obtain ⟨hpending, hsound⟩ := step_sound h s hs
    refine ⟨s.contact, hpending, ?_, (hsound.item _ hcap).symm, (hsound.team _ hcap).symm⟩
    rw [← hsound.isDue, hcap]
    rfl
  · rintro ⟨c, hc, hdue, rfl, rfl⟩
    obtain ⟨s, hs, hid, rfl⟩ := step_of_pending h hc
    have hsound := (step_sound h s hs).2
    obtain ⟨capture, hcap⟩ := Option.isSome_iff_exists.mp (hsound.isDue.trans hdue)
    exact ⟨s, hs, hid, capture, hcap, hsound.item _ hcap, hsound.team _ hcap⟩

/-- The loop runs through when every contact is unfinished, its item exists and
the team of its robot is alive. -/
theorem handleContactsLoop_total {entries : List (Str × Contact)}
    (hentries : ∀ entry ∈ entries, entry.2.finished = false ∧
      entry.2.item < game.items.allItems.length ∧
      game.teamIsAlive (game.robot entry.2.robot).team = true) :
    ∃ steps game', game.handleContactsLoop entries = .ok (steps, game') := by
  induction entries generalizing game with
  | nil => exact ⟨[], game, rfl⟩
  | cons entry entries ih =>
    obtain ⟨hfinished, hitem, halive⟩ := hentries entry List.mem_cons_self
    have hrest := fun e he => hentries e (List.mem_cons_of_mem _ he)
    cases hdue : game.time.isAfter entry.2.stopTime with
    | false =>
      obtain ⟨steps, game', hloop⟩ := ih hrest
      exact ⟨_, game', handleContactsLoop_cons.mpr
        ⟨hfinished, .inl ⟨hdue, steps, hloop, rfl⟩⟩⟩
    | true =>
      have hcapture := captureItem_ok.mpr
        ⟨game.items.allItems[entry.2.item], halive, List.getElem?_eq_getElem hitem, rfl, rfl⟩
      let captured := game.afterCapture (game.robot entry.2.robot).team entry.2.item
        game.items.allItems[entry.2.item]
      obtain ⟨steps, game', hloop⟩ :=
        @ih { captured with contacts := captured.contacts.erase entry.1 } fun e he => by
          obtain ⟨hf, hi, ha⟩ := hrest e he
          exact ⟨hf, by simpa [captured, afterCapture, modifyItem, modifyTeam] using hi, ha⟩
      exact ⟨_, game', handleContactsLoop_cons.mpr
        ⟨hfinished, .inr ⟨hdue, _, _, steps, hcapture, hloop, rfl⟩⟩⟩

theorem step_total
    (hpending : ∀ (id : Str) c, game.contacts[id]? = some c → c.finished = false ∧
      c.item < game.items.allItems.length ∧ game.teamIsAlive (game.robot c.robot).team = true) :
    ∃ steps game', game.step = .ok (steps, game') := by
  obtain ⟨steps, handled, hh⟩ :=
    @handleContactsLoop_total game game.contacts.toList fun entry hentry =>
      hpending entry.1 entry.2 (Std.ExtTreeMap.mem_toList_iff_getElem?_eq_some.mp hentry)
  exact ⟨steps, _, step_ok.mpr ⟨handled, hh, rfl⟩⟩

theorem step_score {steps : List ContactStep} (h : game.step = .ok (steps, game')) (t : TeamRef) :
    (game'.team t).score = (game.team t).score ∨
      ∃ s ∈ steps, ∃ c, s.capture = some c ∧ c.team = t := by
  obtain ⟨handled, hh, rfl⟩ := step_ok.mp h
  simp only [team, stopIfGameIsFinished_teamHeap]
  exact handleContactsLoop_score hh t

end ServerGame.Game
