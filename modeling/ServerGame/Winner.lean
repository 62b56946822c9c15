import ServerGame.ReadyHello

/-!
# The winner

A tick decides: it stops the game when somebody has the score to win, and
names the winner when that is one team only. A forced start forgets the
winner. Whatever else happens, contacts, scores set by an agent, teams that
come and go, leaves the verdict to the next tick.
-/

namespace ServerGame

variable {event : Event} {game game' : Game} {env : Externals} {app app' : Application}
  {output : Output}

-- ---------------------------------------------------------------------------
-- What is promised
-- ---------------------------------------------------------------------------

def Event.Ticks : Event → Prop
  | .tic | .call .step => True
  | _ => False

/-- What may call `Game::start`. -/
def Event.Starts : Event → Prop
  | .message raw _ _ => raw.type = "Hello".toList
  | .agent .startGame _ | .call (.start ..) => True
  | _ => False

/-- The server never starts a game without the force flag. -/
def Event.StartsForced : Event → Prop
  | .call (.start forceStop _ _) => forceStop = true
  | _ => True

def WinnerStopsGame (game : Game) : Prop := game.winner.isSome = true → game.isRunning = false

def Game.HasScoreToWin (game : Game) (t : TeamRef) : Prop :=
  game.ruleset.scoreToWin ≤ (game.team t).score

structure Verdict (event : Event) (game game' : Game) : Prop where
  goesOn : event.Ticks → game'.isRunning = true →
    ∀ (name : Str) t, game'.teams[name]? = some t → ¬game'.HasScoreToWin t
  records : event.Ticks → ∀ winner, game'.winner = some winner → game.winner ≠ some winner →
    ∃ t, game'.teams[winner]? = some t ∧ game'.HasScoreToWin t ∧
      ∀ (name : Str) t', game'.teams[name]? = some t' → game'.HasScoreToWin t' → name = winner
  keeps : ¬event.Ticks → ¬event.Starts → game'.winner = game.winner

-- ---------------------------------------------------------------------------
-- The tick
-- ---------------------------------------------------------------------------

theorem mem_winningTeams {winner : Str} :
    winner ∈ game.winningTeams ↔ ∃ (name : Str) (t : TeamRef), game.teams[name]? = some t ∧
      game.HasScoreToWin t ∧ (game.team t).name = winner := by
  simp only [Game.winningTeams, List.mem_filterMap, Prod.exists,
    Std.ExtTreeMap.mem_toList_iff_getElem?_eq_some, Option.ite_none_right_eq_some,
    Option.some.injEq, Game.HasScoreToWin]

theorem stop_sameTeams : game.stop.teams = game.teams ∧ game.stop.ruleset = game.ruleset ∧
    game.stop.winner = game.winner := by
  unfold Game.stop
  split <;> exact ⟨rfl, rfl, rfl⟩

theorem hasScoreToWin_stop {t : TeamRef} : game.stop.HasScoreToWin t ↔ game.HasScoreToWin t := by
  simp only [Game.HasScoreToWin, Game.team, stop_sameTeams.2.1, Game.stop_teamHeap]

theorem stopIfGameIsFinished_goesOn (hrun : game.stopIfGameIsFinished.isRunning = true) :
    game.stopIfGameIsFinished = game ∧ game.winningTeams = [] := by
  unfold Game.stopIfGameIsFinished at hrun ⊢
  split
  · next hleft =>
    rw [if_pos hleft, Game.stop_isRunning] at hrun
    cases hrun
  · next hleft =>
    rw [if_neg hleft] at hrun
    split
    · next hnone => exact ⟨rfl, hnone⟩
    · next hone => rw [hone] at hrun; simp at hrun
    · next hnone hone =>
      split at hrun
      · next h => exact absurd h hnone
      · simp at hrun
      · simp at hrun

theorem stopIfGameIsFinished_winner {winner : Str}
    (hwinner : game.stopIfGameIsFinished.winner = some winner) (hnew : game.winner ≠ some winner) :
    game.winningTeams = [winner] ∧
      game.stopIfGameIsFinished = { game with winner := some winner }.stop := by
  rcases game.stopIfGameIsFinished_cases with h | h | ⟨winner', hone, h⟩
  · rw [h] at hwinner
    exact absurd hwinner hnew
  · rw [h, stop_sameTeams.2.2] at hwinner
    exact absurd hwinner hnew
  · rw [h, stop_sameTeams.2.2] at hwinner
    cases hwinner
    exact ⟨hone, h⟩

theorem handleContacts_verdict {steps : List Game.ContactStep}
    (h : game.handleContacts = .ok (steps, game')) :
    game'.winner = game.winner ∧ game'.isRunning = game.isRunning := by
  rw [Game.handleContacts_frame h]
  exact ⟨rfl, rfl⟩

theorem WinnerStopsGame.step {steps : List Game.ContactStep} (hw : WinnerStopsGame game)
    (h : game.step = .ok (steps, game')) : WinnerStopsGame game' := by
  obtain ⟨handled, hh, rfl⟩ := Game.step_ok.mp h
  obtain ⟨hwinner, hrunning⟩ := handleContacts_verdict hh
  intro hsome
  by_contra hrun
  rw [Bool.not_eq_false] at hrun
  obtain ⟨hsame, -⟩ := stopIfGameIsFinished_goesOn hrun
  rw [hsame, hwinner] at hsome
  rw [hsame, hrunning, hw hsome] at hrun
  cases hrun

theorem step_goesOn {steps : List Game.ContactStep} (h : game.step = .ok (steps, game'))
    (hrun : game'.isRunning = true) {name : Str} {t : TeamRef}
    (ht : game'.teams[name]? = some t) : ¬game'.HasScoreToWin t := by
  obtain ⟨handled, -, rfl⟩ := Game.step_ok.mp h
  obtain ⟨hsame, hnone⟩ := stopIfGameIsFinished_goesOn hrun
  rw [hsame] at ht ⊢
  intro hscore
  have hmem := mem_winningTeams.mpr ⟨name, t, ht, hscore, rfl⟩
  rw [hnone] at hmem
  cases hmem

theorem step_records {steps : List Game.ContactStep} (hw : WellFormed game)
    (h : game.step = .ok (steps, game')) {winner : Str} (hwinner : game'.winner = some winner)
    (hnew : game.winner ≠ some winner) :
    ∃ t, game'.teams[winner]? = some t ∧ game'.HasScoreToWin t ∧
      ∀ (name : Str) t', game'.teams[name]? = some t' → game'.HasScoreToWin t' →
        name = winner := by
  have hw' := hw.shrinks (SameRoster.step h).shrinks
  obtain ⟨handled, hh, rfl⟩ := Game.step_ok.mp h
  rw [← (handleContacts_verdict hh).1] at hnew
  obtain ⟨hone, hstopped⟩ := stopIfGameIsFinished_winner hwinner hnew
  have hteams : handled.stopIfGameIsFinished.teams = handled.teams := by
    rw [hstopped]
    exact stop_sameTeams.1
  have hscore : ∀ t, handled.stopIfGameIsFinished.HasScoreToWin t ↔ handled.HasScoreToWin t := by
    intro t
    rw [hstopped]
    exact hasScoreToWin_stop
  have hname : ∀ {name : Str} {t}, handled.teams[name]? = some t →
      (handled.team t).name = name := by
    intro name t ht
    have hstored := hw'.teamName (hteams ▸ ht)
    rwa [Game.team, Game.stopIfGameIsFinished_teamHeap] at hstored
  have hmem : winner ∈ handled.winningTeams := by simp [hone]
  obtain ⟨name, t, ht, hwins, rfl⟩ := mem_winningTeams.mp hmem
  obtain rfl := hname ht
  refine ⟨t, hteams ▸ ht, (hscore t).mpr hwins, fun name' t' ht' hwins' => ?_⟩
  rw [hteams] at ht'
  have hmem' := mem_winningTeams.mpr ⟨name', t', ht', (hscore t').mp hwins', rfl⟩
  rw [hone, List.mem_singleton] at hmem'
  exact (hname ht').symm.trans hmem'

-- ---------------------------------------------------------------------------
-- Between ticks
-- ---------------------------------------------------------------------------

def SameVerdict (game game' : Game) : Prop :=
  game'.winner = game.winner ∧ (game'.isRunning = true → game.isRunning = true)

theorem SameVerdict.refl (game : Game) : SameVerdict game game := ⟨rfl, id⟩

theorem SameVerdict.stop : SameVerdict game game.stop := by
  refine ⟨stop_sameTeams.2.2, fun h => ?_⟩
  rw [Game.stop_isRunning] at h
  cases h

theorem SameVerdict.handleContactCall {call : ContactCall}
    (h : game.handleContactCall call = .ok game') : SameVerdict game game' := by
  rw [Game.handleContactCall_frame h]
  exact .refl game

theorem SameVerdict.addRobot {name teamName robotId : Str} {port commandPort : UInt16}
    {added : Bool} (h : game.addRobot name teamName port commandPort robotId = .ok (added, game')) :
    SameVerdict game game' := by
  rcases Game.addRobot_ok h with ⟨-, rfl⟩ | ⟨_, _, -, -, -, -, rfl⟩
  · exact .refl _
  · exact ⟨rfl, id⟩

theorem SamePlay.sameVerdict (h : SamePlay game game') : SameVerdict game game' :=
  ⟨h.winner, fun hrun => h.isRunning ▸ hrun⟩

theorem SameButContacts.sameVerdict (h : SameButContacts game game') : SameVerdict game game' := by
  unfold SameButContacts at h
  rw [h]
  exact .refl game

/-- The event starts the game it comes to. Of the messages it is a hello that
gets the last robot. -/
def Event.StartsIn (env : Externals) (game : Game) : Event → Prop
  | .message raw _ _ =>
    raw.type = "Hello".toList ∧ RestartsGame env game (env.parseHello raw.payload).2
  | .agent .startGame _ | .call (.start ..) => True
  | _ => False

theorem Event.StartsIn.starts (h : event.StartsIn env game) : event.Starts := by
  cases event with
  | message raw channel localTime => exact h.1
  | agent command localTime => cases command <;> exact h
  | call call => cases call <;> exact h
  | _ => exact h

theorem Event.Ticks.not_starts (h : event.Ticks) : ¬event.Starts := by
  cases event with
  | tic => exact id
  | call call => cases call with
    | step => exact id
    | _ => exact h.elim
  | _ => exact h.elim

/-- What a step does to the verdict: a tick decides, a start forgets the
winner, all else keeps it. -/
inductive VerdictStep (env : Externals) (event : Event) (game game' : Game) : Prop
  | ticks (hticks : event.Ticks) {steps} (h : game.step = .ok (steps, game'))
  | rests (hrest : game.isRunning = false) (h : game' = game)
  | starts (hstarts : event.StartsIn env game) (h : game'.winner = none)
  | keeps (hnot : ¬event.Ticks) (h : SameVerdict game game')

theorem VerdictStep.message (hw : WellFormed game) (env : Externals) (raw : RawMessage)
    (channel : Channel) (localTime : Instant) :
    VerdictStep env (.message raw channel localTime) game
      (ProcessDecider.process env raw channel localTime game).game := by
  unfold ProcessDecider.process
  split
  · next htype =>
    rcases @WellFormed.hello_play _ env (env.parseHello raw.payload).2 (.at localTime) hw channel
        raw.routingId with ⟨hrestarts, hplay⟩ | ⟨-, hplay⟩
    · exact .starts ⟨htype, hrestarts⟩ (hplay.winner.trans (start_true_winner none _))
    · exact .keeps id hplay.sameVerdict
  · split
    · unfold ProcessInput.execute
      split
      · split <;> exact .keeps id (.refl game)
      · exact .keeps id (.refl game)
    · split
      · exact .keeps id (ProcessRobotState.execute_frame env raw.routingId _ game).sameVerdict
      · split
        · exact .keeps id (.refl game)
        · split
          · exact .keeps id (.refl game)
          · split
            · refine .keeps id ?_
              rw [ProcessRegister.execute_frame]
              exact .refl game
            · exact .keeps id (.refl game)

theorem SameVerdict.modifyRobotNamed (name : Str) (f : Robot → Robot) :
    SameVerdict game (AgentProxy.modifyRobotNamed name f game) := by
  unfold AgentProxy.modifyRobotNamed
  split <;> exact ⟨rfl, id⟩

theorem SameVerdict.modifyPlayerNamed (name : Str) (f : Player → Player) :
    SameVerdict game (AgentProxy.modifyPlayerNamed name f game) := by
  unfold AgentProxy.modifyPlayerNamed
  split <;> exact ⟨rfl, id⟩

theorem SameVerdict.setTeam (teamName property value : Str) :
    SameVerdict game (AgentProxy.setTeam env teamName property value game) := by
  unfold AgentProxy.setTeam
  split
  · exact .refl game
  · split
    · exact .refl game
    · split
      · split <;> exact ⟨rfl, id⟩
      · exact .refl game

theorem VerdictStep.agent {command : Command} {localTime : Instant}
    (h : AgentProxy.apply env localTime app command = .ok app') :
    VerdictStep env (.agent command localTime) app.game app'.game := by
  cases command with
  | startGame => cases h; exact .starts trivial (start_true_winner none _)
  | stopGame => cases h; exact .keeps id .stop
  | stopApplication =>
    cases h
    unfold Application.stop
    split
    · exact .keeps id .stop
    · exact .keeps id (.refl _)
  | addTeam name => cases h; unfold Game.addTeam; split <;> exact .keeps id ⟨rfl, id⟩
  | removeTeam name => cases h; unfold Game.removeTeam; split <;> exact .keeps id ⟨rfl, id⟩
  | setTeam name property value => cases h; exact .keeps id (.setTeam name property value)
  | addRobot name teamName =>
    obtain ⟨_, _, _, hadd⟩ := AgentProxy.addRobot_game h
    exact .keeps id (.addRobot hadd)
  | removeRobot name => cases h; unfold Game.removeRobot; split <;> exact .keeps id ⟨rfl, id⟩
  | registerRobot name => cases h; exact .keeps id (.modifyRobotNamed name _)
  | unregisterRobot name => cases h; exact .keeps id (.modifyRobotNamed name _)
  | setRobot name property value =>
    cases h
    unfold AgentProxy.setRobot
    split
    · exact .keeps id (.modifyRobotNamed name _)
    · exact .keeps id (.refl _)
  | addPlayer name => cases h; exact .keeps id (SamePlay.addPlayer name).sameVerdict
  | removePlayer name => cases h; unfold Game.removePlayer; split <;> exact .keeps id ⟨rfl, id⟩
  | setPlayer name property value =>
    cases h
    unfold AgentProxy.setPlayer
    split
    · exact .keeps id (.modifyPlayerNamed name _)
    · exact .keeps id (.refl _)
  | setGame property value =>
    cases h
    unfold AgentProxy.setGame
    split <;> exact .keeps id ⟨rfl, id⟩

theorem VerdictStep.call {game game' : Game} {call : GameCall}
    (hforced : (Event.call call).StartsForced) (h : call.apply game = .ok (game', output)) :
    VerdictStep env (.call call) game game' := by
  cases call with
  | start forceStop forced localTime =>
    cases h
    have : forceStop = true := hforced
    subst this
    exact .starts trivial (start_true_winner forced _)
  | stop => cases h; exact .keeps id .stop
  | step =>
    obtain ⟨steps, hstep, -⟩ := GameCall.apply_step.mp h
    exact .ticks trivial hstep
  | contact call =>
    obtain ⟨hcall, -⟩ := GameCall.apply_contact.mp h
    exact .keeps id (.handleContactCall hcall)
  | addRobot name teamName port commandPort robotId =>
    obtain ⟨_, hadd, -⟩ := GameCall.apply_addRobot.mp h
    exact .keeps id (.addRobot hadd)
  | addTeam name => cases h; unfold Game.addTeam; split <;> exact .keeps id ⟨rfl, id⟩
  | removeTeam name => cases h; unfold Game.removeTeam; split <;> exact .keeps id ⟨rfl, id⟩
  | removeRobot name => cases h; unfold Game.removeRobot; split <;> exact .keeps id ⟨rfl, id⟩
  | addPlayer name => cases h; exact .keeps id (SamePlay.addPlayer name).sameVerdict
  | removePlayer name => cases h; unfold Game.removePlayer; split <;> exact .keeps id ⟨rfl, id⟩
  | createItem | setTime | setDuration => cases h; exact .keeps id ⟨rfl, id⟩

theorem VerdictStep.step (hw : WellFormed app.game) (hforced : event.StartsForced)
    (h : Server.step env app event = .ok (app', output)) :
    VerdictStep env event app.game app'.game := by
  cases event with
  | clock currentTic => cases h; exact .keeps id ⟨rfl, id⟩
  | message raw channel localTime =>
    obtain ⟨rfl, -⟩ := Server.ofOutcome_ok h
    exact .message hw env raw channel localTime
  | agent command localTime =>
    obtain ⟨hagent, -⟩ := Server.step_agent.mp h
    exact .agent hagent
  | tic =>
    obtain ⟨-, _, _, hstep, rfl, -⟩ | ⟨hrest, rfl, -⟩ := Server.step_tic h
    · exact .ticks trivial hstep
    · exact .rests hrest rfl
  | call call =>
    obtain ⟨_, hcall, rfl⟩ := Server.step_call.mp h
    exact .call hforced hcall

-- ---------------------------------------------------------------------------
-- Runs
-- ---------------------------------------------------------------------------

theorem VerdictStep.winnerStopsGame (h : VerdictStep env event game game')
    (hw : WinnerStopsGame game) :
    WinnerStopsGame game' := by
  cases h with
  | ticks _ h => exact hw.step h
  | rests _ h => exact h ▸ hw
  | starts _ h => intro hsome; rw [h] at hsome; cases hsome
  | keeps _ h =>
    intro hsome
    rw [h.1] at hsome
    have hstopped := hw hsome
    by_contra hrun
    rw [h.2 (by simpa using hrun)] at hstopped
    cases hstopped

theorem VerdictStep.verdict (h : VerdictStep env event game game') (hw : WellFormed game) :
    Verdict event game game' := by
  cases h with
  | ticks hticks h =>
    exact ⟨fun _ hrun _ _ ht => step_goesOn h hrun ht,
      fun _ _ hwinner hnew => step_records hw h hwinner hnew, fun hnot => absurd hticks hnot⟩
  | rests hrest h =>
    subst h
    refine ⟨fun _ hrun => ?_, fun _ _ hwinner hnew => absurd hwinner hnew, fun _ _ => rfl⟩
    rw [hrest] at hrun
    cases hrun
  | starts hstarts h =>
    exact ⟨fun hticks => absurd hstarts.starts hticks.not_starts,
      fun hticks => absurd hstarts.starts hticks.not_starts,
      fun _ hnot => absurd hstarts.starts hnot⟩
  | keeps hnot h =>
    exact ⟨fun hticks => absurd hticks hnot, fun hticks => absurd hticks hnot, fun _ _ => h.1⟩

/-- A winner means a stopped game, and every step of a run keeps to the verdict. -/
def VerdictsHold (env : Externals) (app : Application) (events : List Event) : Prop :=
  Lib.AllStates (Server.step env) app events (fun app => WinnerStopsGame app.game) ∧
    Lib.AllSteps (Server.step env) app events fun app event =>
      ∀ app' output, Server.step env app event = .ok (app', output) →
        Verdict event app.game app'.game

/-- For every run of the server and of the calls of its game, with any rules,
in which no game is started without the force flag. -/
theorem winner_decided (env : Externals) (ports : List UInt16) (gameDuration : Int)
    (ruleset : Ruleset) (events : List Event) (hforced : ∀ event ∈ events, event.StartsForced) :
    VerdictsHold env (Server.create ports gameDuration ruleset) events := by
  have hall : Lib.AllStates (Server.step env) (Server.create ports gameDuration ruleset) events
      (fun app => WellFormed app.game ∧ WinnerStopsGame app.game) := by
    intro pre post app outputs heq hrun
    refine Lib.run_invariant (fun app => WellFormed app.game ∧ WinnerStopsGame app.game)
      (fun app event app' output hmem h hstep => ?_)
      ⟨WellFormed.create gameDuration ruleset, fun hsome => by cases hsome⟩ hrun
    have hevent := hforced event (by simp [heq, hmem])
    exact ⟨h.1.edits (Server.step_edits hstep),
      (VerdictStep.step h.1 hevent hstep).winnerStopsGame h.2⟩
  constructor
  · exact fun pre post app outputs heq hrun => (hall pre post app outputs heq hrun).2
  · intro pre event post app outputs heq hrun app' output hstep
    have hw := (hall pre (event :: post) app outputs heq hrun).1
    exact (VerdictStep.step hw (hforced event (by simp [heq])) hstep).verdict hw

theorem winner_decided_captured :
    VerdictsHold .plain (Server.create [] 2000000 firstOfTwo) captured :=
  winner_decided .plain [] 2000000 firstOfTwo captured
    (by simp [captured, oneRobot, Event.StartsForced])

end ServerGame
