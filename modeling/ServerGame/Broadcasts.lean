import ServerGame.Answers
import ServerGame.Times

/-!
# Broadcasts

Each tic of a running game broadcasts its state, and nothing else does. So the
broadcasts of a round say that the game is played, and only the last of them
can say that it is over, with the winner. A game that is stopped by a command
ends without a word.
-/

namespace ServerGame

variable {env : Externals} {app app' : Application} {event : Event} {output : Output}
  {game : Game} {state : GameState} {sent : List Sent}

-- ---------------------------------------------------------------------------
-- What is broadcast
-- ---------------------------------------------------------------------------

def Sent.gameState (message : Sent) : Option GameState :=
  match message.body with
  | .gameState state => some state
  | _ => none

def Output.broadcasts (output : Output) : List GameState := output.sent.filterMap Sent.gameState

structure Tells (game : Game) (state : GameState) : Prop where
  playing : state.playing = game.isRunning
  seconds : state.seconds = game.getSecondsLeft
  totalSeconds : state.totalSeconds = totalSeconds game.gameDuration
  winner : state.winner = game.winner

theorem ProcessTimer.execute_tells (game : Game) :
    ∃ state, (execute game).sent.filterMap Sent.gameState = [state] ∧ Tells game state :=
  ⟨_, rfl, rfl, rfl, rfl, rfl⟩

def Untold (sent : List Sent) : Prop := sent.filterMap Sent.gameState = []

theorem Untold.nil : Untold [] := rfl

theorem Answers.untold {channel : Channel} {message : RawMessage}
    (h : Answers env channel message sent) : Untold sent := by
  cases h with
  | playerStates _ states =>
    refine List.filterMap_eq_nil_iff.mpr fun answer hmem => ?_
    obtain ⟨state, -, rfl⟩ := List.mem_map.mp hmem
    rfl
  | _ => rfl

theorem ProcessDecider.process_untold (env : Externals) (message : RawMessage) (channel : Channel)
    (localTime : Instant) (game : Game) :
    Untold (process env message channel localTime game).sent := by
  rcases process_says env message channel localTime game with ⟨-, hanswers⟩ | ⟨-, hnone⟩
  · exact hanswers.untold
  · rw [hnone]
    exact .nil

/-- What a step broadcasts: a tic of a running game the state it has come to,
all else nothing. -/
inductive StepTells (event : Event) (game game' : Game) : List GameState → Prop
  | tic {steps : List Game.ContactStep} {state : GameState} (hevent : event = .tic)
      (hrunning : game.isRunning = true) (hstep : game.step = .ok (steps, game'))
      (htells : Tells game' state) : StepTells event game game' [state]
  | nothing (hnot : event ≠ .tic ∨ game.isRunning = false) : StepTells event game game' []

theorem step_tells (h : Server.step env app event = .ok (app', output)) :
    StepTells event app.game app'.game output.broadcasts := by
  cases event with
  | clock currentTic => cases h; exact .nothing (.inl nofun)
  | message raw channel localTime =>
    obtain ⟨-, rfl⟩ := Server.ofOutcome_ok h
    have hnone := ProcessDecider.process_untold env raw channel localTime app.game
    rw [Output.broadcasts, show _ = [] from hnone]
    exact .nothing (.inl nofun)
  | agent command localTime =>
    obtain ⟨-, rfl⟩ := Server.step_agent.mp h
    exact .nothing (.inl nofun)
  | tic =>
    obtain ⟨hrunning, steps, game, hstep, rfl, rfl⟩ | ⟨hrest, -, rfl⟩ := Server.step_tic h
    · obtain ⟨state, hstate, htells⟩ := ProcessTimer.execute_tells game
      rw [Output.broadcasts, hstate]
      exact .tic rfl hrunning hstep htells
    · exact .nothing (.inr hrest)
  | call call =>
    obtain ⟨_, hcall, -⟩ := Server.step_call.mp h
    rw [Output.broadcasts, (GameCall.apply_output hcall).1]
    exact .nothing (.inl nofun)

-- ---------------------------------------------------------------------------
-- Rounds
-- ---------------------------------------------------------------------------

def broadcasts (outputs : List Output) : List GameState := outputs.flatMap Output.broadcasts

/-- What the loop does without a start of the game. -/
def Event.InRound (env : Externals) (app : Application) (event : Event) : Prop :=
  ¬event.StartsIn env app.game ∧ ∀ call, event ≠ .call call

def Event.Stops : Event → Prop
  | .agent command _ => command.Stops
  | _ => False

inductive RoundStep (event : Event) (game game' : Game) : List GameState → Prop
  | tic {steps : List Game.ContactStep} {state : GameState} (hrunning : game.isRunning = true)
      (hstep : game.step = .ok (steps, game')) (htells : Tells game' state) :
      RoundStep event game game' [state]
  | keeps (hverdict : SameVerdict game game')
      (hgoes : ¬event.Stops → game'.isRunning = game.isRunning) : RoundStep event game game' []

theorem step_isRunning (hw : WellFormed app.game) (hevent : event.InRound env app)
    (htic : event ≠ .tic) (hstops : ¬event.Stops)
    (h : Server.step env app event = .ok (app', output)) :
    app'.game.isRunning = app.game.isRunning := by
  cases event with
  | clock currentTic => cases h; rfl
  | message raw channel localTime =>
    obtain ⟨hgame, -⟩ := Server.ofOutcome_ok h
    rw [hgame]
    exact (SameTimes.message_of_not_startsIn hw hevent.1).isRunning
  | agent command localTime =>
    obtain ⟨happly, -⟩ := Server.step_agent.mp h
    have hstart : command ≠ .startGame := fun heq => by
      subst heq
      exact hevent.1 trivial
    by_cases hset : ∀ property value, command ≠ .setGame property value
    · exact (SameTimes.agent hstart hstops hset happly).isRunning
    · simp only [not_forall, not_not] at hset
      obtain ⟨property, value, rfl⟩ := hset
      cases happly
      unfold AgentProxy.setGame
      split <;> rfl
  | tic => exact absurd rfl htic
  | call call => exact absurd rfl (hevent.2 call)

theorem roundStep (hw : WellFormed app.game) (hevent : event.InRound env app)
    (h : Server.step env app event = .ok (app', output)) :
    RoundStep event app.game app'.game output.broadcasts := by
  have htells := step_tells h
  generalize output.broadcasts = states at htells
  have hforced : event.StartsForced := by
    cases event with
    | call call => exact absurd rfl (hevent.2 call)
    | _ => trivial
  cases htells with
  | tic _ hrunning hstep htells => exact .tic hrunning hstep htells
  | nothing hnot =>
    refine .keeps ?_ fun hstops => ?_
    · cases VerdictStep.step hw hforced h with
      | ticks hticks _ =>
        cases event with
        | tic =>
          obtain ⟨hrunning, -⟩ | ⟨-, rfl, -⟩ := Server.step_tic h
          · rcases hnot with hnot | hrest
            · exact absurd rfl hnot
            · cases hrest.symm.trans hrunning
          · exact .refl _
        | call call => exact absurd rfl (hevent.2 call)
        | _ => exact hticks.elim
      | rests _ hsame => exact hsame ▸ .refl _
      | starts hstarts _ => exact absurd hstarts hevent.1
      | keeps _ hverdict => exact hverdict
    · by_cases htic : event = .tic
      · subst htic
        obtain ⟨hrunning, -⟩ | ⟨-, rfl, -⟩ := Server.step_tic h
        · rcases hnot with hnot | hrest
          · exact absurd rfl hnot
          · cases hrest.symm.trans hrunning
        · rfl
      · exact step_isRunning hw hevent htic hstops h

/-- The broadcasts from one state to another: the game is played on, and at
most the last of them says that it is over. -/
structure Round (events : List Event) (game game' : Game)
    (states playing ending : List GameState) : Prop where
  split : states = playing ++ ending
  plays : ∀ state ∈ playing, state.playing = true ∧ state.winner = game.winner
  once : ending.length ≤ 1
  ends : ∀ state ∈ ending, state.playing = false ∧ state.winner = game'.winner ∧
    game'.isRunning = false
  /-- Nothing is broadcast of a game that is not running, and its winner stays. -/
  rests : game.isRunning = false →
    states = [] ∧ game'.isRunning = false ∧ game'.winner = game.winner
  /-- A game that has ended without such a command has been told to be over. -/
  told : (∀ event ∈ events, ¬event.Stops) → game.isRunning = true → game'.isRunning = false →
    ending ≠ []

theorem Round.refl (game : Game) : Round [] game game [] [] [] where
  split := rfl
  plays := nofun
  once := Nat.zero_le 1
  ends := nofun
  rests hrest := ⟨rfl, hrest, rfl⟩
  told _ hrunning hrest := by cases hrest.symm.trans hrunning

theorem Round.cons {events : List Event} {game₁ game' : Game}
    {states states' playing ending : List GameState} (hstep : RoundStep event game game₁ states)
    (h : Round events game₁ game' states' playing ending) :
    ∃ playing ending, Round (event :: events) game game' (states ++ states') playing ending := by
  cases hstep with
  | keeps hverdict hgoes =>
    refine ⟨playing, ending, h.split, fun state hstate => ?_, h.once, h.ends, fun hrest => ?_,
      fun hstops hrunning => ?_⟩
    · rw [← hverdict.1]
      exact h.plays state hstate
    · have hrest₁ : game₁.isRunning = false := by
        by_contra hrunning
        rw [hverdict.2 (by simpa using hrunning)] at hrest
        cases hrest
      rw [← hverdict.1]
      exact h.rests hrest₁
    · rw [List.forall_mem_cons] at hstops
      exact h.told hstops.2 ((hgoes hstops.1).trans hrunning)
  | @tic steps state hrunning hstep htells =>
    have hnot : game.isRunning = false → False := fun hrest => by
      cases hrest.symm.trans hrunning
    cases hgoes : game₁.isRunning with
    | true =>
      -- the tic has not decided anything
      obtain ⟨handled, hhandled, rfl⟩ := Game.step_ok.mp hstep
      have hwinner : handled.stopIfGameIsFinished.winner = game.winner := by
        rw [(stopIfGameIsFinished_goesOn hgoes).1, (handleContacts_verdict hhandled).1]
      refine ⟨state :: playing, ending, by rw [h.split]; rfl, ?_, h.once, h.ends,
        fun hrest => (hnot hrest).elim, fun hstops _ => ?_⟩
      · rw [List.forall_mem_cons, ← hwinner]
        exact ⟨⟨htells.playing.trans hgoes, htells.winner⟩, h.plays⟩
      · rw [List.forall_mem_cons] at hstops
        exact h.told hstops.2 hgoes
    | false =>
      obtain ⟨rfl, hrest, hwinner⟩ := h.rests hgoes
      refine ⟨[], [state], rfl, nofun, le_rfl, fun last hlast => ?_,
        fun hrest => (hnot hrest).elim, fun _ _ _ => List.cons_ne_nil _ _⟩
      cases List.mem_singleton.mp hlast
      exact ⟨htells.playing.trans hgoes, htells.winner.trans hwinner.symm, hrest⟩

/-- Between two starts the server broadcasts that the game is played, with the
winner of before, and then at most once that it is over, with the winner; after
that, and after a stop by a command, it broadcasts nothing. The end is told
unless a command has stopped the game. -/
theorem round_ends_once (env : Externals) (app : Application)
    (hreach : Server.Reachable env app) (events : List Event)
    (hevents : Lib.AllSteps (Server.step env) app events (Event.InRound env))
    (app' : Application) (outputs : List Output)
    (hrun : Server.run env app events = .ok (app', outputs)) :
    ∃ playing ending, Round events app.game app'.game (broadcasts outputs) playing ending := by
  have hw := hreach.wellFormed
  clear hreach
  induction events generalizing app outputs with
  | nil =>
    cases Lib.run_nil.mp hrun
    exact ⟨[], [], .refl _⟩
  | cons event events ih =>
    obtain ⟨app₁, output, outputs', hstep, hrest, rfl⟩ := Lib.run_cons.mp hrun
    obtain ⟨hround, hlater⟩ := Lib.allSteps_cons.mp hevents
    have hw₁ := hw.edits (Server.step_edits hstep)
    obtain ⟨playing, ending, hrest⟩ := ih app₁ (hlater app₁ output hstep) outputs' hrest hw₁
    exact hrest.cons (roundStep hw hround hstep)

def startsTwoSeconds : List Event := oneRobot ++ [.agent .startGame 0]

/-- A hello comes that is not ready, and the time goes by. -/
def ticsToTheEnd : List Event :=
  [.message (Socket.parts "c Hello ".toList) .reply 0, .clock 1000000, .tic, .clock 2000000, .tic,
    .tic]

theorem ticsToTheEnd_inRound : ∀ event ∈ ticsToTheEnd, ∀ app, event.InRound .plain app := by
  intro event hevent app
  simp only [ticsToTheEnd, List.mem_cons, List.not_mem_nil, or_false] at hevent
  rcases hevent with rfl | rfl | rfl | rfl | rfl | rfl
  · refine ⟨?_, by simp⟩
    rintro ⟨-, hready, -⟩
    cases hready
  all_goals exact ⟨id, by simp⟩

theorem round_ends_once_twoSeconds :
    ∃ app app' before outputs,
      Server.run .plain (Server.create [] 2000000 oneTeam) startsTwoSeconds = .ok (app, before) ∧
      Server.run .plain app ticsToTheEnd = .ok (app', outputs) ∧
      (broadcasts outputs).map (·.playing) = [true, false] ∧
      ∃ playing ending,
        Round ticsToTheEnd app.game app'.game (broadcasts outputs) playing ending :=
  ⟨_, _, _, _, rfl, rfl, rfl, round_ends_once .plain _
    ⟨[], 2000000, oneTeam, startsTwoSeconds, _, rfl⟩ ticsToTheEnd
    (.of_forall ticsToTheEnd_inRound) _ _ rfl⟩

end ServerGame
