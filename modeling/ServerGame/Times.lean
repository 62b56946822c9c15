import ServerGame.Winner

/-!
# The times of a game

When it started, how long it is, what time it is and whether it is running.
Only a start, a stop, the clock and `set game` change any of it.
-/

namespace ServerGame

variable {env : Externals} {app app' : Application} {game game' game'' : Game}
  {localTime : Instant}

structure SameTimes (game game' : Game) : Prop where
  isRunning : game'.isRunning = game.isRunning
  startTime : game'.startTime = game.startTime
  time : game'.time = game.time
  gameDuration : game'.gameDuration = game.gameDuration

structure SameClock (game game' : Game) : Prop where
  isRunning : game'.isRunning = true → game.isRunning = true
  startTime : game'.startTime = game.startTime
  time : game'.time = game.time
  gameDuration : game'.gameDuration = game.gameDuration

/-- A game is started at the local time, or its times stay. -/
inductive ClockMove (localTime : Instant) (game game' : Game) : Prop
  | starts (hstart : game'.startTime = .at localTime) (htime : game'.time = .at localTime)
      (hduration : game'.gameDuration = game.gameDuration)
  | keeps (hsame : SameClock game game')

theorem SamePlay.sameTimes (h : SamePlay game game') : SameTimes game game' :=
  ⟨h.isRunning, h.startTime, h.time, h.gameDuration⟩

theorem SameTimes.refl (game : Game) : SameTimes game game := ⟨rfl, rfl, rfl, rfl⟩

theorem SameTimes.trans (h : SameTimes game game') (h' : SameTimes game' game'') :
    SameTimes game game'' where
  isRunning := h'.isRunning.trans h.isRunning
  startTime := h'.startTime.trans h.startTime
  time := h'.time.trans h.time
  gameDuration := h'.gameDuration.trans h.gameDuration

theorem SameTimes.sameClock (h : SameTimes game game') : SameClock game game' :=
  ⟨fun hrunning => h.isRunning ▸ hrunning, h.startTime, h.time, h.gameDuration⟩

theorem SameClock.refl (game : Game) : SameClock game game := (SameTimes.refl game).sameClock

theorem SameClock.trans (h : SameClock game game') (h' : SameClock game' game'') :
    SameClock game game'' where
  isRunning := h.isRunning ∘ h'.isRunning
  startTime := h'.startTime.trans h.startTime
  time := h'.time.trans h.time
  gameDuration := h'.gameDuration.trans h.gameDuration

theorem ClockMove.trans_same (h : ClockMove localTime game game') (h' : SameClock game' game'') :
    ClockMove localTime game game'' := by
  cases h with
  | starts hstart htime hduration =>
    exact .starts (h'.startTime.trans hstart) (h'.time.trans htime)
      (h'.gameDuration.trans hduration)
  | keeps hsame => exact .keeps (hsame.trans h')

theorem SameClock.trans_move (h : SameClock game game') (h' : ClockMove localTime game' game'') :
    ClockMove localTime game game'' := by
  cases h' with
  | starts hstart htime hduration => exact .starts hstart htime (hduration.trans h.gameDuration)
  | keeps hsame => exact .keeps (h.trans hsame)

-- ---------------------------------------------------------------------------
-- Start and stop
-- ---------------------------------------------------------------------------

theorem SameClock.stop : SameClock game game.stop := by
  unfold Game.stop
  split
  · exact ⟨nofun, rfl, rfl, rfl⟩
  · exact .refl game

theorem ClockMove.start : ClockMove localTime game (game.start true none (.at localTime)) := by
  rw [Game.start_true]
  have hstop : SameClock { game with winner := none }.resetScores
    { game with winner := none }.resetScores.stop := .stop
  exact .starts rfl rfl hstop.gameDuration

theorem SameClock.stopIfGameIsFinished : SameClock game game.stopIfGameIsFinished := by
  rcases game.stopIfGameIsFinished_cases with hsame | hsame | ⟨winner, -, hsame⟩ <;> rw [hsame]
  · exact .refl game
  · exact .stop
  · have hwinner : SameClock game { game with winner := some winner } := ⟨id, rfl, rfl, rfl⟩
    exact hwinner.trans .stop

theorem SameTimes.handleContacts {steps : List Game.ContactStep}
    (h : game.handleContacts = .ok (steps, game')) : SameTimes game game' := by
  rw [Game.handleContacts_frame h]
  exact ⟨rfl, rfl, rfl, rfl⟩

-- ---------------------------------------------------------------------------
-- Messages
-- ---------------------------------------------------------------------------

theorem SameTimes.addPlayer (name : Str) : SameTimes game (game.addPlayer name).2 := by
  unfold Game.addPlayer
  split
  · exact .refl game
  · exact ⟨rfl, rfl, rfl, rfl⟩

theorem SameTimes.setAddressOf {hello : Hello}
    (h : ProcessHello.setAddressOf hello game = .ok game') : SameTimes game game' := by
  unfold ProcessHello.setAddressOf at h
  split at h
  · cases h
    exact .refl game
  · obtain ⟨p, -, h⟩ := Lib.bind_eq_ok.mp h
    cases h
    exact ⟨rfl, rfl, rfl, rfl⟩

theorem ClockMove.startIfReady (hello : Hello) :
    ClockMove localTime game (ProcessHello.startIfReady hello (.at localTime) game) := by
  rw [ProcessHello.startIfReady_eq]
  split
  · split
    · exact .start
    · exact .keeps (.refl game)
  · exact .keeps (.refl game)

theorem ClockMove.hello (env : Externals) (channel : Channel) (clientId : Str) (hello : Hello)
    (localTime : Instant) (game : Game) : ClockMove localTime game
      (ProcessHello.execute env channel clientId hello (.at localTime) game).game := by
  have hadd : SameTimes game (game.addPlayer hello.name).2 := .addPlayer hello.name
  obtain ⟨hadded, p, hp⟩ := addPlayer_stored game hello.name
  unfold ProcessHello.execute ProcessHello.executeWith
  simp only [hadded, ↓reduceIte]
  split
  · next r _ =>
    simp only [Game.accessPlayer_ok.mpr hp]
    have hlink : SameTimes game ((game.addPlayer hello.name).2.link p r) :=
      hadd.trans ⟨rfl, rfl, rfl, rfl⟩
    split
    · exact .keeps hlink.sameClock
    · have hstart : ClockMove localTime game _ :=
        hlink.sameClock.trans_move (.startIfReady hello)
      split
      · exact hstart
      · next haddress =>
        have hsame : SameTimes _ _ := .setAddressOf haddress
        exact hstart.trans_same hsame.sameClock
  · split
    · exact .keeps hadd.sameClock
    · next haddress => exact .keeps (hadd.trans (.setAddressOf haddress)).sameClock

theorem SameTimes.message (env : Externals) {message : RawMessage}
    (htype : message.type ≠ "Hello".toList) (channel : Channel) (localTime : Instant)
    (game : Game) :
    SameTimes game (ProcessDecider.process env message channel localTime game).game := by
  unfold ProcessDecider.process
  rw [if_neg htype]
  split
  · unfold ProcessInput.execute
    split
    · split <;> exact .refl game
    · exact .refl game
  · split
    · rw [show _ = _ from ProcessRobotState.execute_frame env message.routingId _ game]
      exact ⟨rfl, rfl, rfl, rfl⟩
    · split
      · exact .refl game
      · split
        · exact .refl game
        · split
          · rw [ProcessRegister.execute_frame]
            exact ⟨rfl, rfl, rfl, rfl⟩
          · exact .refl game

theorem SameTimes.message_of_not_startsIn {message : RawMessage} {channel : Channel}
    (hw : WellFormed game) (hnot : ¬(Event.message message channel localTime).StartsIn env game) :
    SameTimes game (ProcessDecider.process env message channel localTime game).game := by
  by_cases htype : message.type = "Hello".toList
  · unfold ProcessDecider.process
    rw [if_pos htype]
    rcases @WellFormed.hello_play _ env (env.parseHello message.payload).2 (.at localTime) hw
        channel message.routingId with ⟨hrestarts, -⟩ | ⟨-, hplay⟩
    · exact absurd ⟨htype, hrestarts⟩ hnot
    · exact hplay.sameTimes
  · exact .message env htype channel localTime game

theorem ClockMove.message (env : Externals) (message : RawMessage) (channel : Channel)
    (localTime : Instant) (game : Game) : ClockMove localTime game
      (ProcessDecider.process env message channel localTime game).game := by
  by_cases htype : message.type = "Hello".toList
  · unfold ProcessDecider.process
    rw [if_pos htype]
    exact .hello ..
  · have hsame : SameTimes game _ := .message env htype channel localTime game
    exact .keeps hsame.sameClock

-- ---------------------------------------------------------------------------
-- Commands
-- ---------------------------------------------------------------------------

theorem SameTimes.modifyRobotNamed (name : Str) (f : Robot → Robot) :
    SameTimes game (AgentProxy.modifyRobotNamed name f game) := by
  unfold AgentProxy.modifyRobotNamed
  split <;> exact ⟨rfl, rfl, rfl, rfl⟩

theorem SameTimes.modifyPlayerNamed (name : Str) (f : Player → Player) :
    SameTimes game (AgentProxy.modifyPlayerNamed name f game) := by
  unfold AgentProxy.modifyPlayerNamed
  split <;> exact ⟨rfl, rfl, rfl, rfl⟩

theorem SameTimes.setTeam (teamName property value : Str) :
    SameTimes game (AgentProxy.setTeam env teamName property value game) := by
  unfold AgentProxy.setTeam
  split
  · exact .refl game
  · split
    · exact .refl game
    · split
      · split <;> exact ⟨rfl, rfl, rfl, rfl⟩
      · exact .refl game

def Command.Stops : Command → Prop
  | .stopGame | .stopApplication => True
  | _ => False

theorem SameTimes.agent {command : Command} (hstart : command ≠ .startGame)
    (hstop : ¬command.Stops) (hset : ∀ property value, command ≠ .setGame property value)
    (h : AgentProxy.apply env localTime app command = .ok app') :
    SameTimes app.game app'.game := by
  cases command with
  | startGame => exact absurd rfl hstart
  | stopGame | stopApplication => exact absurd trivial hstop
  | setGame property value => exact absurd rfl (hset property value)
  | addTeam name => cases h; unfold Game.addTeam; split <;> exact ⟨rfl, rfl, rfl, rfl⟩
  | removeTeam name => cases h; unfold Game.removeTeam; split <;> exact ⟨rfl, rfl, rfl, rfl⟩
  | setTeam name property value => cases h; exact .setTeam name property value
  | addRobot name teamName =>
    obtain ⟨_, _, _, hadd⟩ := AgentProxy.addRobot_game h
    rcases Game.addRobot_ok hadd with ⟨-, hsame⟩ | ⟨_, _, -, -, -, -, hsame⟩ <;> rw [hsame] <;>
      exact ⟨rfl, rfl, rfl, rfl⟩
  | removeRobot name => cases h; unfold Game.removeRobot; split <;> exact ⟨rfl, rfl, rfl, rfl⟩
  | registerRobot name => cases h; exact .modifyRobotNamed name _
  | unregisterRobot name => cases h; exact .modifyRobotNamed name _
  | setRobot name property value =>
    cases h
    unfold AgentProxy.setRobot
    split
    · exact .modifyRobotNamed name _
    · exact .refl _
  | addPlayer name => cases h; exact .addPlayer name
  | removePlayer name => cases h; unfold Game.removePlayer; split <;> exact ⟨rfl, rfl, rfl, rfl⟩
  | setPlayer name property value =>
    cases h
    unfold AgentProxy.setPlayer
    split
    · exact .modifyPlayerNamed name _
    · exact .refl _

theorem SameClock.agent {command : Command} (hstart : command ≠ .startGame)
    (hset : ∀ property value, command ≠ .setGame property value)
    (h : AgentProxy.apply env localTime app command = .ok app') :
    SameClock app.game app'.game := by
  by_cases hstop : command.Stops
  · cases command with
    | stopGame => cases h; exact .stop
    | stopApplication =>
      cases h
      unfold Application.stop
      split
      · exact .stop
      · exact .refl _
    | _ => exact hstop.elim
  · exact (SameTimes.agent hstart hstop hset h).sameClock

/-- Only `set game` changes the duration. -/
theorem ClockMove.agent {command : Command}
    (hset : ∀ property value, command ≠ .setGame property value)
    (h : AgentProxy.apply env localTime app command = .ok app') :
    ClockMove localTime app.game app'.game := by
  by_cases hstart : command = .startGame
  · subst hstart
    cases h
    exact .start
  · exact .keeps (.agent hstart hset h)

end ServerGame
