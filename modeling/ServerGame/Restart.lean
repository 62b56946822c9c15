import ServerGame.Links

/-!
# A new game

`start(true)` resets the scores and the winner itself and leaves the items to
`stop`, which does nothing unless the game runs. Nothing resets the contacts.
-/

namespace ServerGame

variable {event : Event} {game game' : Game} {calls : List ContactCall}
  {steps : List Game.ContactStep}

-- ---------------------------------------------------------------------------
-- What is promised
-- ---------------------------------------------------------------------------

/-- No score, no winner, no item owned or being captured, no contact pending. -/
structure FreshStart (game : Game) : Prop where
  scores : ∀ (name : Str) t, game.teams[name]? = some t → (game.team t).score = 0
  winner : game.winner = none
  items : ∀ it ∈ game.items.allItems, it.owningTeam = [] ∧ it.captureState = .pending
  contacts : ∀ id : Str, game.contacts[id]? = none

/-- In every continuation a capture is one of a contact recorded in it, and a
score that is not written by an agent or set to 0 changes by a capture only. -/
def NewContactsOnly (env : Externals) (app : Application) : Prop :=
  ∀ events event app₁ app₂ outputs output, Server.run env app events = .ok (app₁, outputs) →
    Server.step env app₁ event = .ok (app₂, output) →
    (∀ s ∈ output.steps, ∀ c, s.capture = some c →
      ∃ o ∈ outputs, .isInContactWith s.robotId c.item ∈ o.calls) ∧
    ∀ t, (app₂.game.team t).score = (app₁.game.team t).score ∨ (app₂.game.team t).score = 0 ∨
      event.SetsScore ∨ ∃ s ∈ output.steps, ∃ c, s.capture = some c ∧ c.team = t

/-- No contact is pending, and either the game runs or nobody has touched an item. -/
def ReadyToRestart (game : Game) : Prop :=
  (∀ id : Str, game.contacts[id]? = none) ∧
    (game.isRunning = true ∨
      ∀ it ∈ game.items.allItems, it.owningTeam = [] ∧ it.captureState = .pending)

-- ---------------------------------------------------------------------------
-- The start
-- ---------------------------------------------------------------------------

section
variable (forced : Option Ptime) (localTime : Ptime)

theorem start_true_items : (game.start true forced localTime).items =
    if game.isRunning then game.items.resetAllItems else game.items := by
  rw [Game.start_true]
  unfold Game.stop
  rw [show (Game.resetScores { game with winner := none }).isRunning = game.isRunning from rfl]
  split <;> rfl

theorem start_true_winner : (game.start true forced localTime).winner = none := by
  rw [Game.start_true]
  unfold Game.stop
  split <;> rfl

theorem start_true_score {name : Str} {t : TeamRef} (ht : game.teams[name]? = some t) :
    ((game.start true forced localTime).team t).score = 0 := by
  have hteam : (game.start true forced localTime).teamHeap =
      { game with winner := none }.resetScores.teamHeap := by
    rw [Game.start_true]
    exact Game.stop_teamHeap
  rw [Game.team, hteam]
  exact congrArg Team.score (@Game.resetScores_team_of_mem { game with winner := none } name t ht)

theorem start_true_teams : (game.start true forced localTime).teams = game.teams :=
  (SameRoster.start true forced localTime).teams

theorem freshStart_iff : FreshStart (game.start true forced localTime) ↔ ReadyToRestart game := by
  constructor
  · intro h
    refine ⟨fun id => by simpa using h.contacts id, ?_⟩
    cases hrun : game.isRunning with
    | true => exact .inl rfl
    | false =>
      have hitems := h.items
      rw [start_true_items, hrun] at hitems
      exact .inr hitems
  · rintro ⟨hcontacts, hitems⟩
    constructor
    · intro name t ht
      exact start_true_score forced localTime (start_true_teams forced localTime ▸ ht)
    · exact start_true_winner forced localTime
    · rw [start_true_items]
      split
      · intro it hit
        obtain ⟨it₀, -, rfl⟩ := ItemRegistry.mem_resetAllItems hit
        exact ⟨rfl, rfl⟩
      · next hrun => exact hitems.resolve_left hrun
    · rw [Game.start_contacts]
      exact hcontacts

end

-- ---------------------------------------------------------------------------
-- The continuation
-- ---------------------------------------------------------------------------

theorem Edit.contacts (h : Edit event game calls steps game') {id : Str} {c : Contact}
    (hc : game'.contacts[id]? = some c) :
    game.contacts[id]? = some c ∨ .isInContactWith id c.item ∈ calls := by
  cases h with
  | contact h =>
    rename_i call
    cases call with
    | isInContactWith robotId item =>
      obtain ⟨r, -, -, -, rfl⟩ := Game.robotIsInContactWith_ok.mp h
      rw [Game.recordContact_contacts, Std.ExtTreeMap.getElem?_insert_eq_some] at hc
      rcases hc with ⟨rfl, rfl⟩ | ⟨-, hc⟩
      · exact .inr (by simp [Game.contactOf])
      · exact .inl hc
    | dropsContactWith robotId item =>
      cases h
      rw [Game.robotDropsContactWith_contacts, Std.ExtTreeMap.getElem?_erase_eq_some] at hc
      exact .inl hc.2
  | step h => exact .inl ((Game.step_contacts_iff h).mp hc).1
  | start => exact .inl (Game.start_contacts .. ▸ hc)
  | stop => exact .inl (Game.stop_contacts ▸ hc)
  | addTeam => unfold Game.addTeam at hc; split at hc <;> exact .inl hc
  | removeTeam => unfold Game.removeTeam at hc; split at hc <;> exact .inl hc
  | addRobot h =>
    rcases Game.addRobot_ok h with ⟨-, rfl⟩ | ⟨_, _, -, -, -, -, rfl⟩ <;> exact .inl hc
  | removeRobot => unfold Game.removeRobot at hc; split at hc <;> exact .inl hc
  | addPlayer => unfold Game.addPlayer at hc; split at hc <;> exact .inl hc
  | removePlayer => unfold Game.removePlayer at hc; split at hc <;> exact .inl hc
  | _ => exact .inl hc

theorem Edits.contacts (h : Edits event game calls steps game') {id : Str} {c : Contact}
    (hc : game'.contacts[id]? = some c) :
    game.contacts[id]? = some c ∨ .isInContactWith id c.item ∈ calls := by
  induction h with
  | refl => exact .inl hc
  | tail _ hlast ih =>
    rcases hlast.contacts hc with hc | hcall
    · exact (ih hc).imp_right (List.mem_append_left _)
    · exact .inr (List.mem_append_right _ hcall)

theorem Edit.captures (h : Edit event game calls steps game') :
    ∀ s ∈ steps, ∀ c, s.capture = some c →
      ∃ contact, game.contacts[s.robotId]? = some contact ∧ contact.item = c.item := by
  cases h with
  | step h =>
    intro s hs c hc
    obtain ⟨hpending, hsound⟩ := Game.step_sound h s hs
    exact ⟨s.contact, hpending, (hsound.item c hc).symm⟩
  | _ => simp

theorem Edits.captures (h : Edits event game calls steps game') :
    ∀ s ∈ steps, ∀ c, s.capture = some c →
      (∃ contact, game.contacts[s.robotId]? = some contact ∧ contact.item = c.item) ∨
        .isInContactWith s.robotId c.item ∈ calls := by
  induction h with
  | refl => simp
  | tail hbefore hlast ih =>
    intro s hs c hc
    rcases List.mem_append.mp hs with hs | hs
    · exact (ih s hs c hc).imp_right (List.mem_append_left _)
    · obtain ⟨contact, hpending, hitem⟩ := hlast.captures s hs c hc
      rcases hbefore.contacts hpending with hpending | hcall
      · exact .inl ⟨contact, hpending, hitem⟩
      · exact .inr (List.mem_append_left _ (hitem ▸ hcall))

def ScoreExplained (event : Event) (game game' : Game) (steps : List Game.ContactStep)
    (t : TeamRef) : Prop :=
  (game'.team t).score = (game.team t).score ∨ (game'.team t).score = 0 ∨
    event.SetsScore ∨ ∃ s ∈ steps, ∃ c, s.capture = some c ∧ c.team = t

theorem resetScores_score (game : Game) (t : TeamRef) :
    (game.resetScores.team t).score = (game.team t).score ∨
      (game.resetScores.team t).score = 0 := by
  rcases game.resetScores_team t with h | h <;> rw [h]
  · exact .inr rfl
  · exact .inl rfl

theorem start_score (forceStop : Bool) (forced : Option Ptime) (localTime : Ptime) (t : TeamRef) :
    ((game.start forceStop forced localTime).team t).score = (game.team t).score ∨
      ((game.start forceStop forced localTime).team t).score = 0 := by
  cases forceStop with
  | true =>
    rw [Game.start_true]
    have hteam : ({ game with winner := none }.resetScores.stop).team t =
        { game with winner := none }.resetScores.team t :=
      congrArg (·.get t) Game.stop_teamHeap
    change (({ game with winner := none }.resetScores.stop).team t).score = _ ∨
      (({ game with winner := none }.resetScores.stop).team t).score = 0
    rw [hteam]
    exact resetScores_score { game with winner := none } t
  | false =>
    unfold Game.start
    simp only [Bool.false_eq_true, ↓reduceIte]
    split <;> exact .inl rfl

theorem Edit.score (h : Edit event game calls steps game') (t : TeamRef) :
    ScoreExplained event game game' steps t := by
  cases h with
  | step h => exact (Game.step_score h t).imp_right fun h => .inr (.inr h)
  | start forceStop forced localTime =>
    exact (start_score forceStop forced localTime t).imp_right .inl
  | stop => exact .inl (by simp [Game.team])
  | setScore _ _ h => exact .inr (.inr (.inl h))
  | contact h => rw [Game.handleContactCall_frame h]; exact .inl rfl
  | addTeam =>
    unfold Game.addTeam
    split
    · exact .inl rfl
    · by_cases ht : t = game.teamHeap.fresh
      · exact .inr (.inl (by simp [ht, Game.team, Team.ofName]))
      · exact .inl (congrArg Team.score (Lib.Heap.get_alloc_of_ne ht))
  | removeTeam => unfold Game.removeTeam; split <;> exact .inl rfl
  | addRobot h =>
    rcases Game.addRobot_ok h with ⟨-, rfl⟩ | ⟨_, _, -, -, -, -, rfl⟩
    · exact .inl rfl
    · exact .inl (Game.insertRobot_team Team.addRobot_score ..)
  | removeRobot => unfold Game.removeRobot; split <;> exact .inl rfl
  | addPlayer => unfold Game.addPlayer; split <;> exact .inl rfl
  | removePlayer => unfold Game.removePlayer; split <;> exact .inl rfl
  | _ => exact .inl rfl

theorem ScoreExplained.trans {game'' : Game} {steps' : List Game.ContactStep} {t : TeamRef}
    (h : ScoreExplained event game game' steps t)
    (h' : ScoreExplained event game' game'' steps' t) :
    ScoreExplained event game game'' (steps ++ steps') t := by
  unfold ScoreExplained
  rcases h' with hsame | hzero | hset | ⟨s, hs, hc⟩
  · rw [hsame]
    rcases h with hsame' | hzero | hset | ⟨s, hs, hc⟩
    · exact .inl hsame'
    · exact .inr (.inl hzero)
    · exact .inr (.inr (.inl hset))
    · exact .inr (.inr (.inr ⟨s, List.mem_append_left _ hs, hc⟩))
  · exact .inr (.inl hzero)
  · exact .inr (.inr (.inl hset))
  · exact .inr (.inr (.inr ⟨s, List.mem_append_right _ hs, hc⟩))

theorem Edits.score (h : Edits event game calls steps game') (t : TeamRef) :
    ScoreExplained event game game' steps t := by
  induction h with
  | refl => exact .inl rfl
  | tail _ hlast ih => exact ih.trans (hlast.score t)

theorem Server.step_calls_or_steps {env : Externals} {app app' : Application} {output : Output}
    (h : Server.step env app event = .ok (app', output)) :
    output.calls = [] ∨ output.steps = [] := by
  cases event with
  | clock currentTic => cases h; exact .inl rfl
  | message message channel localTime =>
    obtain ⟨-, rfl⟩ := Server.ofOutcome_ok h
    exact .inr rfl
  | agent command localTime =>
    obtain ⟨-, rfl⟩ := Server.step_agent.mp h
    exact .inl rfl
  | tic =>
    obtain ⟨-, _, _, -, -, rfl⟩ | ⟨-, -, rfl⟩ := Server.step_tic h
    · exact .inl rfl
    · exact .inl rfl
  | call call =>
    obtain ⟨_, hcall, -⟩ := Server.step_call.mp h
    exact (GameCall.apply_output hcall).2

theorem run_recorded {env : Externals} {app app' : Application} {events : List Event}
    {outputs : List Output} (hnone : ∀ id : Str, app.game.contacts[id]? = none)
    (hrun : Server.run env app events = .ok (app', outputs)) :
    ∀ (id : Str) c, app'.game.contacts[id]? = some c →
      ∃ o ∈ outputs, .isInContactWith id c.item ∈ o.calls := by
  refine Lib.run_history (fun app' _ outputs => ∀ (id : Str) c,
    app'.game.contacts[id]? = some c → ∃ o ∈ outputs, .isInContactWith id c.item ∈ o.calls)
    ?_ ?_ hrun
  · intro id c hc
    rw [hnone] at hc
    cases hc
  · intro app₁ _ outputs event app₂ output _ ih hstep id c hc
    rcases (Server.step_edits hstep).contacts hc with hc | hcall
    · obtain ⟨o, ho, hcall⟩ := ih id c hc
      exact ⟨o, List.mem_append_left _ ho, hcall⟩
    · exact ⟨output, by simp, hcall⟩

theorem newContactsOnly (env : Externals) {app : Application}
    (hnone : ∀ id : Str, app.game.contacts[id]? = none) : NewContactsOnly env app := by
  intro events event app₁ app₂ outputs output hrun hstep
  have hedits := Server.step_edits hstep
  refine ⟨fun s hs c hc => ?_, fun t => hedits.score t⟩
  rcases hedits.captures s hs c hc with ⟨contact, hpending, hitem⟩ | hcall
  · obtain ⟨o, ho, hrecorded⟩ := run_recorded hnone hrun s.robotId contact hpending
    exact ⟨o, ho, hitem ▸ hrecorded⟩
  · rcases Server.step_calls_or_steps hstep with hnil | hnil
    · rw [hnil] at hcall; cases hcall
    · rw [hnil] at hs; cases hs

/-- After any history, a forced start begins a game of its own exactly when no
contact is pending and the items are in the hands of a running game or untouched. -/
theorem restart_isolated_iff (env : Externals) (app : Application) (forced : Option Ptime)
    (localTime : Ptime) :
    FreshStart (app.game.start true forced localTime) ∧
        NewContactsOnly env { app with game := app.game.start true forced localTime } ↔
      ReadyToRestart app.game := by
  rw [freshStart_iff]
  constructor
  · exact fun h => h.1
  · intro h
    refine ⟨h, newContactsOnly env fun id => ?_⟩
    rw [Game.start_contacts]
    exact h.1 id

def touchedBefore : List Event :=
  oneRobot ++
    [.call (.createItem "flag".toList "red".toList ∅ 2), .call (.start true none 0),
      .call (.contact (.isInContactWith "robot_0".toList 0))]

/-- The contact outlives the restart: a tick of the new game captures the flag
although no robot touched it since. -/
theorem restart_leaks :
    ∃ app outputs,
      Server.run .plain (Server.create [] 2000000 oneTeam) touchedBefore = .ok (app, outputs) ∧
      ¬FreshStart (app.game.start true none (.at 0)) ∧
      ¬NewContactsOnly .plain { app with game := app.game.start true none (.at 0) } := by
  refine ⟨_, _, rfl, fun h => ?_, fun h => ?_⟩
  · cases h.contacts "robot_0".toList
  · obtain ⟨o, ho, hcall⟩ :=
      (h [.clock 1] (.call .step) _ _ _ _ rfl rfl).1 _ List.mem_cons_self _ rfl
    cases List.mem_singleton.mp ho
    cases hcall

end ServerGame
