import ServerGame.CaptureTiming
import ServerGame.Frames
import ServerGame.ItemCodes

/-!
# The tables of the items in a run

Items are only ever added, and nothing but adding one touches the tables of
their codes.
-/

namespace ServerGame

variable {game game' : Game}

-- ---------------------------------------------------------------------------
-- The same tables
-- ---------------------------------------------------------------------------

/-- The codes lead to the same items, and there are as many of them. -/
structure SameTables (items items' : ItemRegistry) : Prop where
  codes : SameCodes items items'
  length : items'.allItems.length = items.allItems.length

theorem SameTables.refl (items : ItemRegistry) : SameTables items items := ⟨⟨rfl, rfl⟩, rfl⟩

theorem SameTables.trans {items₁ items₂ items₃ : ItemRegistry} (h : SameTables items₁ items₂)
    (h' : SameTables items₂ items₃) : SameTables items₁ items₃ :=
  ⟨⟨h'.codes.byRfid.trans h.codes.byRfid, h'.codes.byColour.trans h.codes.byColour⟩,
    h'.length.trans h.length⟩

theorem SameTables.sound {items items' : ItemRegistry} (h : SameTables items items')
    (hsound : items.Sound) : items'.Sound where
  byRfid rfid ref hfound := by
    rw [ItemRegistry.getItemByRfid, h.codes.byRfid] at hfound
    exact h.length ▸ hsound.byRfid rfid ref hfound
  byColour colour ref hfound := by
    rw [ItemRegistry.getItemByColour, h.codes.byColour] at hfound
    exact h.length ▸ hsound.byColour colour ref hfound

theorem SameTables.stop : SameTables game.items game.stop.items := by
  unfold Game.stop
  split
  · exact ⟨⟨rfl, rfl⟩, by simp⟩
  · exact .refl _

theorem SameTables.start (forceStop : Bool) (forced : Option Ptime) (localTime : Ptime) :
    SameTables game.items (game.start forceStop forced localTime).items := by
  cases forceStop with
  | true =>
    rw [Game.start_true]
    exact @SameTables.stop { game with winner := none }.resetScores
  | false =>
    unfold Game.start
    simp only [Bool.false_eq_true, ↓reduceIte]
    split <;> exact .refl _

theorem SameTables.contact {call : ContactCall} (h : game.handleContactCall call = .ok game') :
    SameTables game.items game'.items := by
  refine ⟨.handleContactCall h, ?_⟩
  cases call with
  | isInContactWith id item =>
    obtain ⟨r, -, -, -, rfl⟩ := Game.robotIsInContactWith_ok.mp h
    exact (SameStage.recordContact id r item).items
  | dropsContactWith id item =>
    cases h
    exact (SameStage.drop id item).items

theorem SameTables.step {steps : List Game.ContactStep} (h : game.step = .ok (steps, game')) :
    SameTables game.items game'.items := by
  refine Game.step_invariant (fun g => SameTables game.items g.items)
    (fun g t item c g' hg hc => ?_) (fun _ _ hg => hg) (fun _ hg => hg.trans .stop)
    (fun _ _ hg => hg) h (.refl _)
  obtain ⟨it, -, -, -, rfl⟩ := Game.captureItem_ok.mp hc
  exact hg.trans ⟨⟨rfl, rfl⟩, by simp [Game.afterCapture, Game.modifyItem, Game.modifyTeam]⟩

theorem Edit.tables {event : Event} {calls : List ContactCall} {steps : List Game.ContactStep}
    (hedit : Edit event game calls steps game') :
    (∃ item : Parameters.Item, game'.items = (game.items.createFrom item game.ruleset).2) ∨
      SameTables game.items game'.items := by
  cases hedit with
  | createItem type name rfids colourCode =>
    exact .inl ⟨{ name, type, rfids, colour := colourCode }, rfl⟩
  | start forceStop forced localTime => exact .inr (.start forceStop forced localTime)
  | stop => exact .inr .stop
  | contact hcall => exact .inr (.contact hcall)
  | step hstep => exact .inr (.step hstep)
  | addTeam name => unfold Game.addTeam; split <;> exact .inr (.refl _)
  | removeTeam name => unfold Game.removeTeam; split <;> exact .inr (.refl _)
  | addRobot hadd =>
    rcases Game.addRobot_ok hadd with ⟨-, rfl⟩ | ⟨id, t, -, -, -, -, rfl⟩ <;> exact .inr (.refl _)
  | removeRobot name => unfold Game.removeRobot; split <;> exact .inr (.refl _)
  | addPlayer name => unfold Game.addPlayer; split <;> exact .inr (.refl _)
  | removePlayer name => unfold Game.removePlayer; split <;> exact .inr (.refl _)
  | _ => exact .inr (.refl _)

-- ---------------------------------------------------------------------------
-- What holds in a run
-- ---------------------------------------------------------------------------

section
variable {event : Event} {calls : List ContactCall} {steps : List Game.ContactStep}

theorem ItemRegistry.Sound.edit (h : game.items.Sound)
    (hedit : Edit event game calls steps game') : game'.items.Sound := by
  rcases hedit.tables with ⟨item, hitems⟩ | hsame
  · exact hitems ▸ (created game.items item game.ruleset).sound h
  · exact hsame.sound h

theorem ItemRegistry.Sound.edits (h : game.items.Sound)
    (hedits : Edits event game calls steps game') : game'.items.Sound := by
  induction hedits with
  | refl => exact h
  | tail _ hlast ih => exact ih.edit hlast

/-- There are never fewer items, and as long as there are no more the tables are
the same. -/
structure Grows (items items' : ItemRegistry) : Prop where
  length : items.allItems.length ≤ items'.allItems.length
  tables : items'.allItems.length = items.allItems.length → SameTables items items'

theorem SameTables.grows {items items' : ItemRegistry} (h : SameTables items items') :
    Grows items items' := ⟨h.length.ge, fun _ => h⟩

theorem Grows.trans {items₁ items₂ items₃ : ItemRegistry} (h : Grows items₁ items₂)
    (h' : Grows items₂ items₃) : Grows items₁ items₃ where
  length := h.length.trans h'.length
  tables hlength := by
    have hle := h.length
    have hle' := h'.length
    exact (h.tables (by omega)).trans (h'.tables (by omega))

theorem Created.grows {items items' : ItemRegistry} {item : Parameters.Item}
    {found : Option ItemRef} (h : Created items item (found, items')) : Grows items items' := by
  cases h with
  | refused => exact (SameTables.refl items).grows
  | byColour _ _ hlist => exact ⟨by simp [hlist], by simp [hlist]⟩
  | byRfids _ _ _ hlist => exact ⟨by simp [hlist], by simp [hlist]⟩

theorem Edit.grows (hedit : Edit event game calls steps game') :
    Grows game.items game'.items := by
  rcases hedit.tables with ⟨item, hitems⟩ | hsame
  · exact hitems ▸ (created game.items item game.ruleset).grows
  · exact hsame.grows

theorem Edits.grows (hedits : Edits event game calls steps game') :
    Grows game.items game'.items := by
  induction hedits with
  | refl => exact (SameTables.refl _).grows
  | tail _ hlast ih => exact ih.trans hlast.grows

end

theorem Server.run_grows {env : Externals} {app app' : Application} {events : List Event}
    {outputs : List Output} (h : Server.run env app events = .ok (app', outputs)) :
    Grows app.game.items app'.game.items :=
  Lib.run_invariant (fun app' => Grows app.game.items app'.game.items)
    (fun _ _ _ _ _ hs hstep => hs.trans (Server.step_edits hstep).grows)
    (SameTables.refl _).grows h

theorem Server.Reachable.itemsSound {env : Externals} {app : Application}
    (h : Server.Reachable env app) :
    app.game.items.Sound := by
  obtain ⟨ports, gameDuration, ruleset, events, outputs, hrun⟩ := h
  exact Lib.run_invariant (fun app => app.game.items.Sound)
    (fun _ _ _ _ _ h hstep => h.edits (Server.step_edits hstep)) .empty hrun

end ServerGame
