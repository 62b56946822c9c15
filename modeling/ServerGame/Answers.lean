import ServerGame.Com.Framing
import ServerGame.Replies

/-!
# Answers

What each handler sends, whatever the game is: where it is sent, in answer to
which message, and of which kind.
-/

namespace ServerGame

variable {env : Externals} {channel : Channel} {message : RawMessage} {outcome : Outcome}

inductive Answers (env : Externals) (channel : Channel) (message : RawMessage) :
    List Sent → Prop
  | welcome (htype : message.type = "Hello".toList) (welcome : Welcome) :
      Answers env channel message [reply channel message.routingId (.welcome welcome)]
  | goodbye (htype : message.type = "Hello".toList) :
      Answers env channel message [reply channel message.routingId .goodbye]
  | registered (htype : message.type = "Register".toList) (registered : Registered) :
      Answers env channel message [reply channel message.routingId (.registered registered)]
  | input (htype : message.type = "Input".toList) :
      Answers env channel message
        [publish message.routingId (.input (env.parseInput message.payload).2)]
  | ping (htype : message.type = "Ping".toList) (timing : Timing) :
      Answers env channel message
        [publish message.routingId
          (.ping { timing := (env.parsePing message.payload).2.timing ++ [timing] })]
  | pong (htype : message.type = "Pong".toList) (timings : Timings)
      (hloggers : timings.timing.map (·.logger) =
        (env.parsePong message.payload).2.timing.map (·.logger)) :
      Answers env channel message [publish message.routingId (.pong timings)]
  | playerStates (htype : message.type = "ServerRobotState".toList) (states : List PlayerState) :
      Answers env channel message
        (states.map fun state => publish message.routingId (.playerState state))
  /-- An input that is not relayed, or a message of no known type. -/
  | nothing (hunanswered : message.type = "Input".toList ∨
        message.type ∉ ProcessDecider.handledTypes) :
      Answers env channel message []

/-- A handler that returns has answered, and one that does not has sent nothing. -/
def Says (env : Externals) (channel : Channel) (message : RawMessage) (outcome : Outcome) : Prop :=
  (outcome.escaped = none ∧ Answers env channel message outcome.sent) ∨
    outcome.escaped ≠ none ∧ outcome.sent = []

-- ---------------------------------------------------------------------------
-- The handlers
-- ---------------------------------------------------------------------------

theorem ProcessHello.execute_says (env : Externals) (channel : Channel)
    (htype : message.type = "Hello".toList) (hello : Hello) (localTime : Ptime) (game : Game) :
    Says env channel message (execute env channel message.routingId hello localTime game) := by
  obtain ⟨p, -, hcase⟩ := execute_cases env channel message.routingId hello localTime game
  cases hcase with
  | refused _ hescaped hsent _ => exact .inl ⟨hescaped, hsent ▸ .goodbye htype⟩
  | stopped _ _ _ houtcome => exact .inr (by simp [houtcome])
  | welcomed _ _ _ _ hescaped hsent _ => exact .inl ⟨hescaped, hsent ▸ .welcome htype _⟩

theorem ProcessRegister.execute_says (env : Externals) (channel : Channel)
    (htype : message.type = "Register".toList) (register : Register) (game : Game) :
    Says env channel message (execute channel message.routingId register game) := by
  unfold execute
  split
  · exact .inr (by simp)
  · dsimp only
    split
    · exact .inl ⟨rfl, .registered htype _⟩
    · exact .inr (by simp)
  · exact .inl ⟨rfl, .registered htype _⟩

theorem ProcessInput.execute_says (env : Externals) (channel : Channel)
    (htype : message.type = "Input".toList) (game : Game) :
    Says env channel message
      (execute message.routingId (env.parseInput message.payload).2 game) := by
  unfold execute
  split
  · split
    · exact .inl ⟨rfl, .nothing (.inl htype)⟩
    · exact .inl ⟨rfl, .input htype⟩
  · exact .inl ⟨rfl, .nothing (.inl htype)⟩

theorem ProcessRobotState.execute_says (env : Externals) (channel : Channel)
    (htype : message.type = "ServerRobotState".toList) (state : ServerRobotState) (game : Game) :
    Says env channel message (execute env message.routingId state game) := by
  unfold execute
  split
  · exact .inl ⟨rfl, .playerStates htype []⟩
  · dsimp only
    split
    · exact .inr (by simp)
    · exact .inl ⟨rfl, .playerStates htype _⟩

theorem ProcessPong.setElapsed_loggers (timestamp : UInt64) (timings : List Timing) :
    (setElapsed timestamp timings).map (·.logger) = timings.map (·.logger) := by
  induction timings with
  | nil => rfl
  | cons timing rest ih =>
    unfold setElapsed
    split
    · split
      · rfl
      · rw [List.map_cons, List.map_cons, ih]
    · rw [List.map_cons, List.map_cons, ih]

theorem ProcessDecider.process_says (env : Externals) (message : RawMessage) (channel : Channel)
    (localTime : Instant) (game : Game) :
    Says env channel message (process env message channel localTime game) := by
  unfold process
  split
  · next htype => exact ProcessHello.execute_says env channel htype ..
  split
  · next htype => exact ProcessInput.execute_says env channel htype game
  split
  · next htype => exact ProcessRobotState.execute_says env channel htype ..
  split
  · next htype => exact .inl ⟨rfl, .ping htype _⟩
  split
  · next htype => exact .inl ⟨rfl, .pong htype _ (ProcessPong.setElapsed_loggers ..)⟩
  split
  · next htype => exact ProcessRegister.execute_says env channel htype ..
  · next hhello hinput hstate hping hpong hregister =>
    refine .inl ⟨rfl, .nothing (.inr ?_)⟩
    simp only [handledTypes, List.mem_cons, List.not_mem_nil, or_false, not_or]
    exact ⟨hhello, hinput, hstate, hping, hpong, hregister⟩

end ServerGame
