import ServerGame.Restart
import ServerGame.Lib.Transfers

/-!
# Scores and owners

Points are booked where an item changes hands and nowhere else. `start`
resets the scores, `stop` the owners, and a game that does not run has no
owned item: the captures since the last `start(true)` account for both.
-/

namespace ServerGame

open Lib (Transfer)

variable {game game' game'' : Game} {steps : List Game.ContactStep} {points : UInt32}

-- ---------------------------------------------------------------------------
-- Owners
-- ---------------------------------------------------------------------------

def ItemRegistry.owner (items : ItemRegistry) (i : ItemRef) : Str :=
  (items.allItems[i]?.map Item.owningTeam).getD []

def ItemRegistry.Worth (items : ItemRegistry) (points : UInt32) : Prop :=
  ∀ it ∈ items.allItems, it.pointsOnCapture = points

def Game.Unowned (game : Game) : Prop := ∀ it ∈ game.items.allItems, it.owningTeam = []

theorem Game.unowned_iff : game.Unowned ↔ game.items.owner = fun _ => [] := by
  constructor
  · intro h
    funext i
    unfold ItemRegistry.owner
    cases hi : game.items.allItems[i]? with
    | none => rfl
    | some it => exact h it (List.mem_of_getElem? hi)
  · intro h it hit
    obtain ⟨i, hi⟩ := List.mem_iff_getElem?.mp hit
    have howner := congrFun h i
    simpa [ItemRegistry.owner, hi] using howner

structure SameHands (items items' : ItemRegistry) : Prop where
  owner : items'.owner = items.owner
  worth : ∀ {points}, items.Worth points → items'.Worth points

theorem SameHands.refl (items : ItemRegistry) : SameHands items items := ⟨rfl, fun h => h⟩

theorem SameHands.trans {i₁ i₂ i₃ : ItemRegistry} (h : SameHands i₁ i₂) (h' : SameHands i₂ i₃) :
    SameHands i₁ i₃ :=
  ⟨h'.owner.trans h.owner, fun hw => h'.worth (h.worth hw)⟩

theorem SameHands.modify (items : ItemRegistry) (item : ItemRef) {f : Item → Item}
    (howner : ∀ it, (f it).owningTeam = it.owningTeam)
    (hpoints : ∀ it, (f it).pointsOnCapture = it.pointsOnCapture) :
    SameHands items (items.modify item f) where
  owner := by
    funext i
    unfold ItemRegistry.owner
    rw [ItemRegistry.getElem?_modify]
    split
    · simp [Option.map_map, Function.comp_def, howner]
    · rfl
  worth := ItemRegistry.mem_modify fun it h => (hpoints it).trans h

theorem SameHands.destroyContact {items : ItemRegistry} (h : SameHands items game.items)
    (contact : Contact) : SameHands items (game.destroyContact contact).items := by
  unfold Game.destroyContact
  split
  · exact h
  · exact h.trans
      (.modify _ _ Item.abortCapture_owningTeam Item.abortCapture_pointsOnCapture)

theorem SameHands.handleContactCall {call : ContactCall}
    (h : game.handleContactCall call = .ok game') : SameHands game.items game'.items := by
  cases call with
  | isInContactWith robotId item =>
    obtain ⟨r, -, -, -, rfl⟩ := Game.robotIsInContactWith_ok.mp h
    have hstarted : SameHands game.items
        (game.modifyItem item (·.startCapture (game.team (game.robot r).team).name)).items :=
      .modify _ _ (fun it => it.startCapture_owningTeam _)
        fun it => it.startCapture_pointsOnCapture _
    unfold Game.recordContact
    dsimp only
    split
    · refine SameHands.destroyContact ?_ _
      exact hstarted
    · exact hstarted
  | dropsContactWith robotId item =>
    cases h
    unfold Game.robotDropsContactWith
    split
    · refine SameHands.destroyContact ?_ _
      exact .refl game.items
    · exact .refl _

theorem ItemRegistry.owner_resetAllItems (items : ItemRegistry) :
    items.resetAllItems.owner = fun _ => [] := by
  funext i
  simp only [ItemRegistry.owner, ItemRegistry.resetAllItems, List.getElem?_map, Option.map_map]
  cases items.allItems[i]? <;> rfl

theorem ItemRegistry.Worth.resetAllItems {items : ItemRegistry} (h : items.Worth points) :
    items.resetAllItems.Worth points := by
  intro it hit
  obtain ⟨it₀, h₀, rfl⟩ := ItemRegistry.mem_resetAllItems hit
  exact h it₀ h₀

structure SamePoints (game game' : Game) : Prop where
  ruleset : game'.ruleset = game.ruleset
  worth : ∀ {points}, game.items.Worth points → game'.items.Worth points

theorem SamePoints.refl (game : Game) : SamePoints game game := ⟨rfl, fun h => h⟩

theorem SamePoints.trans (h : SamePoints game game') (h' : SamePoints game' game'') :
    SamePoints game game'' :=
  ⟨h'.ruleset.trans h.ruleset, fun hw => h'.worth (h.worth hw)⟩

theorem SamePoints.handleContactCall {call : ContactCall}
    (h : game.handleContactCall call = .ok game') : SamePoints game game' where
  ruleset := by rw [Game.handleContactCall_frame h]
  worth := (SameHands.handleContactCall h).worth

theorem SamePoints.stop : SamePoints game game.stop := by
  unfold Game.stop
  split
  · exact ⟨rfl, ItemRegistry.Worth.resetAllItems⟩
  · exact .refl game

theorem SamePoints.start (forceStop : Bool) (forced : Option Ptime) (localTime : Ptime) :
    SamePoints game (game.start forceStop forced localTime) := by
  cases forceStop with
  | true =>
    have hreset : SamePoints game { game with winner := none }.resetScores := ⟨rfl, fun h => h⟩
    have hstop := hreset.trans .stop
    rw [Game.start_true]
    exact ⟨hstop.ruleset, hstop.worth⟩
  | false =>
    unfold Game.start
    simp only [Bool.false_eq_true, ↓reduceIte]
    split
    · exact .refl game
    · exact ⟨rfl, fun h => h⟩

theorem SamePoints.captureItem {t : TeamRef} {item : ItemRef} {c : Game.Capture}
    (h : game.captureItem t item = .ok (c, game')) : SamePoints game game' := by
  obtain ⟨it, -, hitem, -, rfl⟩ := Game.captureItem_ok.mp h
  refine ⟨rfl, fun hworth => ItemRegistry.mem_modify (fun _ _ => ?_) hworth⟩
  exact (it.capture_pointsOnCapture _).trans (hworth it (List.mem_of_getElem? hitem))

theorem SamePoints.contacts (contacts : Lib.Map Str Contact) :
    SamePoints game { game with contacts } := ⟨rfl, fun h => h⟩

theorem SamePoints.winner (winner : Option Str) : SamePoints game { game with winner } :=
  ⟨rfl, fun h => h⟩

theorem SamePoints.handleContactsLoop {entries : List (Str × Contact)}
    (h : game.handleContactsLoop entries = .ok (steps, game')) : SamePoints game game' :=
  Game.handleContactsLoop_invariant (SamePoints game)
    (fun _ _ _ _ _ hs hc => hs.trans (.captureItem hc))
    (fun _ contacts hs => hs.trans (.contacts contacts)) h (.refl game)

theorem SamePoints.step (h : game.step = .ok (steps, game')) : SamePoints game game' :=
  Game.step_invariant (SamePoints game) (fun _ _ _ _ _ hs hc => hs.trans (.captureItem hc))
    (fun _ contacts hs => hs.trans (.contacts contacts)) (fun _ hs => hs.trans .stop)
    (fun _ winner hs => hs.trans (.winner winner)) h (.refl game)

def Game.Priced (game : Game) : Prop := game.items.Worth game.ruleset.pointsOnCapture

theorem SamePoints.priced (h : SamePoints game game') (hpriced : game.Priced) : game'.Priced := by
  rw [Game.Priced, h.ruleset]
  exact h.worth hpriced

theorem Edit.priced {event : Event} {calls : List ContactCall}
    (h : Edit event game calls steps game') (hpriced : game.Priced) : game'.Priced := by
  cases h with
  | start forceStop forced localTime => exact (SamePoints.start ..).priced hpriced
  | stop => exact SamePoints.stop.priced hpriced
  | contact h => exact (SamePoints.handleContactCall h).priced hpriced
  | step h => exact (SamePoints.step h).priced hpriced
  | createItem type name rfids colourCode =>
    rcases game.items.createItem_allItems type name rfids colourCode game.ruleset with
      ⟨-, hsame⟩ | ⟨flag, -, happended, -, -, hflag⟩
    · unfold Game.Priced
      rw [hsame]
      exact hpriced
    · intro it hit
      rw [happended] at hit
      rcases List.mem_append.mp hit with hit | hit
      · exact hpriced it hit
      · rw [List.mem_singleton.mp hit]
        exact hflag
  | addTeam => unfold Game.addTeam; split <;> exact hpriced
  | removeTeam => unfold Game.removeTeam; split <;> exact hpriced
  | addRobot h =>
    rcases Game.addRobot_ok h with ⟨-, rfl⟩ | ⟨_, _, -, -, -, -, rfl⟩ <;> exact hpriced
  | removeRobot => unfold Game.removeRobot; split <;> exact hpriced
  | addPlayer => unfold Game.addPlayer; split <;> exact hpriced
  | removePlayer => unfold Game.removePlayer; split <;> exact hpriced
  | _ => exact hpriced

theorem Edits.priced {event : Event} {calls : List ContactCall}
    (h : Edits event game calls steps game') (hpriced : game.Priced) : game'.Priced := by
  induction h with
  | refl => exact hpriced
  | tail _ hlast ih => exact hlast.priced ih

theorem Server.Reachable.priced {env : Externals} {app : Application}
    (h : Server.Reachable env app) : app.game.Priced := by
  obtain ⟨ports, gameDuration, ruleset, events, outputs, hrun⟩ := h
  exact Lib.run_invariant (fun app => app.game.Priced)
    (fun _ _ _ _ _ hpriced hstep => (Server.step_edits hstep).priced hpriced)
    (by simp [Game.Priced, ItemRegistry.Worth, Server.create, Game.create]) hrun

def Game.TeamsNamed (game : Game) : Prop :=
  ∀ (name : Str) t, game.teams[name]? = some t → (game.team t).name = name

theorem Game.TeamsNamed.sameRoster (hnamed : game.TeamsNamed) (h : SameRoster game game') :
    game'.TeamsNamed :=
  fun name t ht => (h.teamName t).trans (hnamed name t (h.teams ▸ ht))

-- ---------------------------------------------------------------------------
-- One capture
-- ---------------------------------------------------------------------------

def Game.Capture.transfer (c : Game.Capture) : Transfer ItemRef Str where
  item := c.item
  source := c.previousOwner
  target := c.teamName

def transfersOf (steps : List Game.ContactStep) : List (Transfer ItemRef Str) :=
  steps.filterMap fun s => s.capture.map Game.Capture.transfer

structure Booked (points : UInt32) (game : Game) (captures : List (Transfer ItemRef Str))
    (game' : Game) : Prop where
  teams : game'.teams = game.teams
  history : Lib.History game.items.owner captures
  owner : game'.isRunning = true → game'.items.owner = Lib.ownersAfter game.items.owner captures
  score : ∀ (name : Str) t, game.teams[name]? = some t →
    (game'.team t).score = (game.team t).score + points * .ofNat (Lib.gains captures name)

theorem Booked.refl (points : UInt32) (game : Game) : Booked points game [] game :=
  ⟨rfl, trivial, fun _ => rfl, by simp [Lib.gains]⟩

theorem Booked.trans {captures captures' : List (Transfer ItemRef Str)}
    (h : Booked points game captures game') (h' : Booked points game' captures' game'')
    (hrun : game'.isRunning = true ∨ captures' = [] ∧ game''.isRunning = false) :
    Booked points game (captures ++ captures') game'' where
  teams := h'.teams.trans h.teams
  history := by
    refine Lib.history_append.mpr ⟨h.history, ?_⟩
    rcases hrun with hrun | ⟨rfl, -⟩
    · exact h.owner hrun ▸ h'.history
    · trivial
  owner hrun'' := by
    rcases hrun with hrun | ⟨-, hstopped⟩
    · rw [h'.owner hrun'', h.owner hrun, Lib.ownersAfter_append]
    · rw [hstopped] at hrun''; cases hrun''
  score name t ht := by
    rw [h'.score name t (h.teams ▸ ht), h.score name t ht, Lib.gains_append, UInt32.ofNat_add,
      UInt32.mul_add, UInt32.add_assoc]

theorem toUInt16_toUInt32 (hpoints : points.toNat < 2 ^ 16) :
    points.toUInt16.toUInt32 = points := by
  apply UInt32.toNat_inj.mp
  simp only [UInt16.toNat_toUInt32, UInt32.toNat_toUInt16]
  exact Nat.mod_eq_of_lt hpoints

theorem Item.capture_score (it : Item) (team : Team) :
    (it.capture team).2.score =
      if team.name ≠ it.owningTeam then team.score + it.pointsOnCapture.toUInt16.toUInt32
      else team.score := by
  unfold Item.capture
  split <;> rfl

theorem afterCapture_owner {t : TeamRef} {item : ItemRef} {it : Item}
    (hitem : game.items.allItems[item]? = some it) :
    (game.afterCapture t item it).items.owner =
      Function.update game.items.owner item (game.team t).name := by
  funext i
  change (game.items.modify item fun _ => (it.capture (game.team t)).1).owner i = _
  unfold ItemRegistry.owner
  rw [ItemRegistry.getElem?_modify]
  by_cases hi : i = item
  · subst hi
    simp [hitem]
  · rw [if_neg (Ne.symm hi), Function.update_of_ne hi]

theorem Booked.capture (hpoints : points.toNat < 2 ^ 16) (hworth : game.items.Worth points)
    (hnamed : game.TeamsNamed)
    {t : TeamRef} {item : ItemRef} {c : Game.Capture}
    (h : game.captureItem t item = .ok (c, game')) : Booked points game [c.transfer] game' := by
  obtain ⟨it, halive, hitem, rfl, rfl⟩ := Game.captureItem_ok.mp h
  obtain ⟨name₀, ht₀⟩ := Game.teamIsAlive_iff.mp halive
  have hsource : game.items.owner item = it.owningTeam := by simp [ItemRegistry.owner, hitem]
  have hit : it.pointsOnCapture = points := hworth it (List.mem_of_getElem? hitem)
  refine ⟨rfl, ⟨hsource.symm, trivial⟩, fun _ => afterCapture_owner hitem, fun name t' ht' => ?_⟩
  rw [Game.afterCapture, Game.modifyTeam_team, Lib.gains_singleton]
  change (if t' = t then (it.capture (game.team t)).2 else game.team t').score = _
  by_cases ht : t' = t
  · subst ht
    have hname : (game.team t').name = name := hnamed name t' ht'
    rw [if_pos rfl, Item.capture_score, hit, toUInt16_toUInt32 hpoints]
    simp only [Lib.Transfer.Moves, Game.Capture.transfer, hname, and_true, ne_eq, eq_comm]
    split <;> simp
  · have hname : (game.team t).name ≠ name := by
      intro hname
      rw [hnamed name₀ t ht₀] at hname
      subst hname
      exact ht (Option.some.inj (ht'.symm.trans ht₀))
    rw [if_neg ht, if_neg fun h => hname h.2]
    simp

-- ---------------------------------------------------------------------------
-- A tick
-- ---------------------------------------------------------------------------

/-- The teams have their names, the items give that many points, and a game
that does not run has no owned item. -/
structure Books (points : UInt32) (game : Game) : Prop where
  named : game.TeamsNamed
  worth : game.items.Worth points
  idle : game.isRunning = false → game.items.owner = fun _ => []

theorem handleContactsLoop_booked (hpoints : points.toNat < 2 ^ 16)
    (hworth : game.items.Worth points) (hnamed : game.TeamsNamed)
    (hrun : game.isRunning = true) {entries : List (Str × Contact)}
    (h : game.handleContactsLoop entries = .ok (steps, game')) :
    Booked points game (transfersOf steps) game' := by
  induction entries generalizing game steps with
  | nil => cases h; exact .refl points _
  | cons entry entries ih =>
    obtain ⟨-, ⟨-, steps', hr, rfl⟩ | ⟨-, c, game₁, steps', hc, hr, rfl⟩⟩ :=
      Game.handleContactsLoop_cons.mp h
    · have hrest := ih hworth hnamed hrun hr
      exact hrest
    · have hbooked := Booked.capture hpoints hworth hnamed hc
      have hnamed₁ : game₁.TeamsNamed := hnamed.sameRoster (.captureItem hc)
      have hrun₁ : game₁.isRunning = true := by rw [Game.captureItem_frame hc]; exact hrun
      have hrest := @ih { game₁ with contacts := game₁.contacts.erase entry.1 } steps'
        ((SamePoints.captureItem hc).worth hworth) hnamed₁ hrun₁ hr
      have herased : Booked points game₁ (transfersOf steps') game' :=
        ⟨hrest.teams, hrest.history, hrest.owner, hrest.score⟩
      exact hbooked.trans herased (.inl hrun₁)

theorem Booked.stop (points : UInt32) (game : Game) : Booked points game [] game.stop where
  teams := SameRoster.stop.teams
  history := trivial
  owner hrun := by rw [Game.stop_isRunning] at hrun; cases hrun
  score _ t _ := by simp [Game.team, Lib.gains]

theorem Booked.stopIfGameIsFinished (points : UInt32) (game : Game) :
    Booked points game [] game.stopIfGameIsFinished := by
  rcases game.stopIfGameIsFinished_cases with h | h | ⟨winner, -, h⟩ <;> rw [h]
  · exact .refl points game
  · exact .stop points game
  · have hstop := Booked.stop points { game with winner := some winner }
    exact ⟨hstop.teams, trivial, hstop.owner, hstop.score⟩

theorem step_booked (hpoints : points.toNat < 2 ^ 16) (hbooks : Books points game)
    (hrun : game.isRunning = true) (h : game.step = .ok (steps, game')) :
    Booked points game (transfersOf steps) game' := by
  obtain ⟨handled, hh, rfl⟩ := Game.step_ok.mp h
  have hhandled := handleContactsLoop_booked hpoints hbooks.worth hbooks.named hrun hh
  have hrunning : handled.isRunning = true := by rw [Game.handleContacts_frame hh]; exact hrun
  simpa using hhandled.trans (.stopIfGameIsFinished points handled) (.inl hrunning)

theorem Books.stop (h : Books points game) : Books points game.stop where
  named := h.named.sameRoster .stop
  worth := SamePoints.stop.worth h.worth
  idle _ := by
    unfold Game.stop
    split
    · exact game.items.owner_resetAllItems
    · next hrun => exact h.idle (by simpa using hrun)

theorem Books.step (hbooks : Books points game) (hrun : game.isRunning = true)
    (h : game.step = .ok (steps, game')) : Books points game' := by
  obtain ⟨handled, hh, rfl⟩ := Game.step_ok.mp h
  have hrunning : handled.isRunning = true := by rw [Game.handleContacts_frame hh]; exact hrun
  have hhandled : Books points handled :=
    { named := hbooks.named.sameRoster (.handleContactsLoop hh)
      worth := (SamePoints.handleContactsLoop hh).worth hbooks.worth
      idle := fun hidle => by rw [hrunning] at hidle; cases hidle }
  rcases handled.stopIfGameIsFinished_cases with h | h | ⟨winner, -, h⟩ <;> rw [h]
  · exact hhandled
  · exact hhandled.stop
  · have hwinner : Books points { handled with winner := some winner } :=
      ⟨hhandled.named, hhandled.worth, hhandled.idle⟩
    exact hwinner.stop

-- ---------------------------------------------------------------------------
-- Calls
-- ---------------------------------------------------------------------------

def GameCall.Plays : GameCall → Prop
  | .contact _ | .setTime _ | .stop | .start true .. | .step => True
  | _ => False

def StepsWhenRunning (game : Game) (call : GameCall) : Prop :=
  call = .step → game.isRunning = true

theorem Books.contact {call : ContactCall} (hbooks : Books points game)
    (h : game.handleContactCall call = .ok game') : Books points game' where
  named := hbooks.named.sameRoster (.handleContactCall h)
  worth := (SameHands.handleContactCall h).worth hbooks.worth
  idle hidle := by
    rw [(SameHands.handleContactCall h).owner]
    rw [Game.handleContactCall_frame h] at hidle
    exact hbooks.idle hidle

theorem Books.start (hbooks : Books points game) (forced : Option Ptime) (localTime : Ptime) :
    Books points (game.start true forced localTime) where
  named := hbooks.named.sameRoster (.start true forced localTime)
  worth := (SamePoints.start true forced localTime).worth hbooks.worth
  idle hidle := by rw [Game.start_true] at hidle; cases hidle

theorem Books.start_owner (hbooks : Books points game) (forced : Option Ptime)
    (localTime : Ptime) : (game.start true forced localTime).items.owner = fun _ => [] := by
  rw [start_true_items]
  split
  · exact game.items.owner_resetAllItems
  · next hrun => exact hbooks.idle (by simpa using hrun)

theorem Books.apply {call : GameCall} {output : Output} (hbooks : Books points game)
    (hplays : call.Plays) (hstep : StepsWhenRunning game call)
    (h : call.apply game = .ok (game', output)) : Books points game' := by
  cases call with
  | contact call =>
    obtain ⟨hcall, -⟩ := GameCall.apply_contact.mp h
    exact hbooks.contact hcall
  | setTime time => cases h; exact ⟨hbooks.named, hbooks.worth, hbooks.idle⟩
  | stop => cases h; exact hbooks.stop
  | start forceStop forced localTime =>
    cases forceStop with
    | true => cases h; exact hbooks.start forced (.at localTime)
    | false => exact hplays.elim
  | step =>
    obtain ⟨_, hstepped, -⟩ := GameCall.apply_step.mp h
    exact hbooks.step (hstep rfl) hstepped
  | _ => exact hplays.elim

/-- The calls since a start: what they capture is booked, and a game that was
stopped captures nothing and stays stopped. -/
structure Played (points : UInt32) (game : Game) (captures : List (Transfer ItemRef Str))
    (game' : Game) : Prop where
  booked : Booked points game captures game'
  stopped : game.isRunning = false → captures = [] ∧ game'.isRunning = false

theorem Played.trans {captures captures' : List (Transfer ItemRef Str)}
    (h : Played points game captures game') (h' : Played points game' captures' game'') :
    Played points game (captures ++ captures') game'' where
  booked := by
    refine h.booked.trans h'.booked ?_
    cases hrun : game'.isRunning with
    | true => exact .inl rfl
    | false => exact .inr (h'.stopped hrun)
  stopped hrun := by
    obtain ⟨rfl, hrun'⟩ := h.stopped hrun
    exact h'.stopped hrun'

theorem Played.apply (hpoints : points.toNat < 2 ^ 16) {call : GameCall} {output : Output}
    (hbooks : Books points game) (hplays : call.Plays) (hstep : StepsWhenRunning game call)
    (hstart : ∀ forced localTime, call ≠ .start true forced localTime)
    (h : call.apply game = .ok (game', output)) :
    Played points game (transfersOf output.steps) game' := by
  cases call with
  | contact call =>
    obtain ⟨hcall, rfl⟩ := GameCall.apply_contact.mp h
    have hsame := SameHands.handleContactCall hcall
    rw [Game.handleContactCall_frame hcall] at hsame ⊢
    exact ⟨⟨rfl, trivial, fun _ => hsame.owner, (Booked.refl points game).score⟩,
      fun hrun => ⟨rfl, hrun⟩⟩
  | setTime time =>
    cases h
    exact ⟨⟨rfl, trivial, fun _ => rfl, (Booked.refl points game).score⟩, fun hrun => ⟨rfl, hrun⟩⟩
  | stop => cases h; exact ⟨.stop points game, fun _ => ⟨rfl, Game.stop_isRunning⟩⟩
  | start forceStop forced localTime =>
    cases forceStop with
    | true => exact absurd rfl (hstart forced localTime)
    | false => exact hplays.elim
  | step =>
    obtain ⟨_, hstepped, rfl⟩ := GameCall.apply_step.mp h
    have hrun : game.isRunning = true := hstep rfl
    refine ⟨step_booked hpoints hbooks hrun hstepped, fun hidle => ?_⟩
    rw [hrun] at hidle
    cases hidle
  | _ => exact hplays.elim

def capturesOf (outputs : List Output) : List (Transfer ItemRef Str) :=
  outputs.flatMap fun output => transfersOf output.steps

theorem Played.run (hpoints : points.toNat < 2 ^ 16) {calls : List GameCall}
    {outputs : List Output} (hbooks : Books points game) (hplays : ∀ call ∈ calls, call.Plays)
    (hsteps : Lib.AllSteps GameCall.apply game calls StepsWhenRunning)
    (hstart : ∀ forced localTime, .start true forced localTime ∉ calls)
    (hrun : Lib.run GameCall.apply game calls = .ok (game', outputs)) :
    Played points game (capturesOf outputs) game' := by
  induction calls generalizing game outputs with
  | nil =>
    cases Lib.run_nil.mp hrun
    exact ⟨.refl points _, fun hidle => ⟨rfl, hidle⟩⟩
  | cons call calls ih =>
    obtain ⟨game₁, output, outputs', hcall, hrest, rfl⟩ := Lib.run_cons.mp hrun
    obtain ⟨hstep, hsteps'⟩ := Lib.allSteps_cons.mp hsteps
    have hplay : call.Plays := hplays call List.mem_cons_self
    have hbooks₁ := hbooks.apply hplay hstep hcall
    have hcalls := Played.apply hpoints hbooks hplay hstep
      (fun forced localTime h => hstart forced localTime (by simp [h])) hcall
    exact hcalls.trans (ih hbooks₁ (fun c hc => hplays c (List.mem_cons_of_mem _ hc))
      (hsteps' game₁ output hcall) (fun forced localTime h =>
        hstart forced localTime (List.mem_cons_of_mem _ h)) hrest)

-- ---------------------------------------------------------------------------
-- The accounts
-- ---------------------------------------------------------------------------

def GameCall.Stops (game' : Game) : GameCall → Prop
  | .stop | .start .. => True
  | .step => game'.isRunning = false
  | _ => False

/-- The owner of an item changes by a capture of a tick, to the capturing team,
or when a running game is stopped, to nobody. -/
def OwnerExplained (call : GameCall) (game game' : Game) (output : Output) (i : ItemRef) : Prop :=
  game'.items.owner i = game.items.owner i ∨
    (call = .step ∧ ∃ c ∈ transfersOf output.steps,
      c.item = i ∧ c.Moves ∧ c.target = game'.items.owner i) ∨
    (game.isRunning = true ∧ call.Stops game' ∧ game'.items.owner i = [])

theorem Books.ownerExplained {call : GameCall} {output : Output} (hpoints : points.toNat < 2 ^ 16)
    (hbooks : Books points game) (hplays : call.Plays) (hstep : StepsWhenRunning game call)
    (h : call.apply game = .ok (game', output)) (i : ItemRef) :
    OwnerExplained call game game' output i := by
  have hbooks' := hbooks.apply hplays hstep h
  cases call with
  | contact call =>
    obtain ⟨hcall, -⟩ := GameCall.apply_contact.mp h
    exact .inl (congrFun (SameHands.handleContactCall hcall).owner i)
  | setTime time => cases h; exact .inl rfl
  | stop =>
    cases h
    cases hrun : game.isRunning with
    | true => exact .inr (.inr ⟨hrun, trivial, congrFun (hbooks'.idle Game.stop_isRunning) i⟩)
    | false =>
      refine .inl ?_
      rw [hbooks.idle hrun, hbooks'.idle Game.stop_isRunning]
  | start forceStop forced localTime =>
    cases forceStop with
    | false => exact hplays.elim
    | true =>
      cases h
      have howner := hbooks.start_owner forced (.at localTime)
      cases hrun : game.isRunning with
      | true => exact .inr (.inr ⟨hrun, trivial, congrFun howner i⟩)
      | false => exact .inl (by rw [howner, hbooks.idle hrun])
  | step =>
    obtain ⟨_, hstepped, rfl⟩ := GameCall.apply_step.mp h
    have hbooked := step_booked hpoints hbooks (hstep rfl) hstepped
    cases hrun : game'.isRunning with
    | false => exact .inr (.inr ⟨hstep rfl, hrun, congrFun (hbooks'.idle hrun) i⟩)
    | true =>
      by_cases hsame : game'.items.owner i = game.items.owner i
      · exact .inl hsame
      · have howner := congrFun (hbooked.owner hrun) i
        rw [howner] at hsame
        obtain ⟨c, hc, hitem, hmoves, htarget⟩ := hbooked.history.arrived hsame
        exact .inr (.inl ⟨rfl, c, hc, hitem, hmoves, htarget.trans howner.symm⟩)
  | _ => exact hplays.elim

/-- The captures of a game so far account for it: each found the owner its item
had by then, the scores follow from those that moved an item, and an item moved
twice to a team was moved to another one in between. -/
structure Accounted (points : UInt32) (game : Game) (captures : List (Transfer ItemRef Str)) :
    Prop where
  history : Lib.History (fun _ => []) captures
  owner : game.isRunning = true → game.items.owner = Lib.ownersAfter (fun _ => []) captures
  score : ∀ (name : Str) t, game.teams[name]? = some t →
    (game.team t).score = points * .ofNat (Lib.gains captures name)
  between : ∀ earlier (c : Transfer ItemRef Str) between (c' : Transfer ItemRef Str) later,
    captures = earlier ++ c :: between ++ c' :: later →
    c'.item = c.item → c'.target = c.target → c.Moves → c'.Moves →
    ∃ d ∈ between, d.item = c.item ∧ d.Moves ∧ d.target ≠ c.target

/-- In every run of contacts, drops, times, ticks of the running game, stops and
forced starts, from a state the server reaches with no item owned: the scores
account for the captures since the last start, owners change by captures and
stops only, and no item of a stopped game is owned. -/
theorem score_accounting (env : Externals) (app : Application) (calls : List GameCall)
    (hreach : Server.Reachable env app)
    (hpoints : app.game.ruleset.pointsOnCapture.toNat < 2 ^ 16) (hunowned : app.game.Unowned)
    (hplays : ∀ call ∈ calls, call.Plays)
    (hsteps : Lib.AllSteps GameCall.apply app.game calls StepsWhenRunning) :
    (∀ before forced localTime since after started outputs₀ game outputs,
      calls = before ++ .start true forced localTime :: since ++ after →
      (∀ forced localTime, .start true forced localTime ∉ since) →
      Lib.run GameCall.apply app.game (before ++ [.start true forced localTime]) =
        .ok (started, outputs₀) →
      Lib.run GameCall.apply started since = .ok (game, outputs) →
      Accounted app.game.ruleset.pointsOnCapture game (capturesOf outputs)) ∧
    (∀ before call after game outputs game' output, calls = before ++ call :: after →
      Lib.run GameCall.apply app.game before = .ok (game, outputs) →
      call.apply game = .ok (game', output) → ∀ i, OwnerExplained call game game' output i) ∧
    Lib.AllStates GameCall.apply app.game calls fun game =>
      game.isRunning = false → game.Unowned := by
  have hfirst : Books app.game.ruleset.pointsOnCapture app.game :=
    ⟨fun _ _ => hreach.wellFormed.teamName, hreach.priced,
      fun _ => Game.unowned_iff.mp hunowned⟩
  have hbooks : Lib.AllStates GameCall.apply app.game calls
      (Books app.game.ruleset.pointsOnCapture) :=
    hsteps.invariant
      (fun _ call _ _ hcall hb hstep h => hb.apply (hplays call hcall) hstep h) hfirst
  refine ⟨?_, ?_, fun before after game outputs heq hrun hidle => ?_⟩
  · rintro before forced localTime since after started outputs₀ game outputs rfl hnone hrun₀ hrun
    obtain ⟨game₀, _, output, hrun₁, hstart, -⟩ := Lib.run_snoc.mp hrun₀
    cases hstart
    have hbooks₀ := hbooks before (.start true forced localTime :: since ++ after) game₀ _
      (by simp) hrun₁
    have hbooks₁ := hbooks₀.start forced (.at localTime)
    have hsince : Lib.AllSteps GameCall.apply (game₀.start true forced (.at localTime)) since
        StepsWhenRunning :=
      Lib.AllSteps.part (by simpa using hsteps) hrun₀
    have hplayed := Played.run hpoints hbooks₁ (fun call hc => hplays call (by simp [hc])) hsince
      hnone hrun
    have howner := hbooks₀.start_owner forced (.at localTime)
    have hhistory := hplayed.booked.history
    rw [howner] at hhistory
    refine ⟨hhistory, fun hrun => ?_, fun name t ht => ?_, ?_⟩
    · rw [hplayed.booked.owner hrun, howner]
    · rw [hplayed.booked.teams] at ht
      rw [hplayed.booked.score name t ht,
        start_true_score forced _ (start_true_teams forced (.at localTime) ▸ ht), UInt32.zero_add]
    · rintro earlier c between c' later heq hitem htarget - hmoves
      rw [heq] at hhistory
      exact hhistory.moved_between hitem htarget hmoves
  · rintro before call after game outputs game' output rfl hrun happly
    have hb := hbooks before (call :: after) game outputs rfl hrun
    exact hb.ownerExplained hpoints (hplays call (by simp))
      (hsteps before call after game outputs rfl hrun) happly
  · exact Game.unowned_iff.mpr ((hbooks before after game outputs heq hrun).idle hidle)

def flagPlaced : List Event :=
  oneRobot ++ [.call (.createItem "flag".toList "red".toList ∅ 2)]

def captureFlag : List GameCall :=
  [.contact (.isInContactWith "robot_0".toList 0), .setTime (.at 1), .step]

/-- The robot captures the flag, which gives its team the one point. -/
theorem score_accounting_oneFlag :
    ∃ app outputs₀ started outputs₁ game outputs t,
      Server.run .plain (Server.create [] 2000000 oneTeam) flagPlaced = .ok (app, outputs₀) ∧
      Lib.run GameCall.apply app.game [.start true none 0] = .ok (started, outputs₁) ∧
      Lib.run GameCall.apply started captureFlag = .ok (game, outputs) ∧
      game.teams["A".toList]? = some t ∧ Lib.gains (capturesOf outputs) "A".toList = 1 ∧
      (game.team t).score = 1 * .ofNat (Lib.gains (capturesOf outputs) "A".toList) := by
  refine ⟨_, _, _, _, _, _, ⟨0⟩, rfl, rfl, rfl, rfl, rfl, ?_⟩
  have haccounts := (score_accounting .plain _ (.start true none 0 :: captureFlag)
    ⟨[], 2000000, oneTeam, flagPlaced, _, rfl⟩ (by decide) ?_ ?_ ?_).1 [] none 0 captureFlag []
  · exact (haccounts _ _ _ _ rfl (by simp [captureFlag]) rfl rfl).score _ _ rfl
  · intro it hit
    cases List.mem_singleton.mp hit
    rfl
  · simp [captureFlag, GameCall.Plays]
  · refine Lib.allSteps_cons.mpr ⟨by simp [StepsWhenRunning], fun _ _ h => ?_⟩
    cases h
    refine Lib.allSteps_cons.mpr ⟨by simp [StepsWhenRunning], fun _ _ h => ?_⟩
    cases h
    refine Lib.allSteps_cons.mpr ⟨by simp [StepsWhenRunning], fun _ _ h => ?_⟩
    cases h
    refine Lib.allSteps_cons.mpr ⟨fun _ => rfl, fun _ _ _ pre i post _ _ heq => ?_⟩
    simp at heq

end ServerGame
