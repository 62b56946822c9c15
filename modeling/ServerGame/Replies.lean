import ServerGame.Links

/-!
# Requests and replies

A hello or a registration is answered on the channel it came with; everything
else the server sends goes to the publisher. So what is received on the
replier is answered there when it is one of the two, and only then.
-/

namespace ServerGame

variable {event : Event} {output : Output}

-- ---------------------------------------------------------------------------
-- The replier
-- ---------------------------------------------------------------------------

inductive ReplierOp
  | received (message : RawMessage)
  | sent (message : Sent)

def Output.onReplier (output : Output) : List Sent :=
  output.sent.filter fun message => message.socket = .replier

def replierOps : Event → Output → List ReplierOp
  | .message message .reply _, output => .received message :: output.onReplier.map .sent
  | _, output => output.onReplier.map .sent

def replierTrace (events : List Event) (outputs : List Output) : List ReplierOp :=
  (events.zip outputs).flatMap fun entry => replierOps entry.1 entry.2

/-- What the other side of the socket relies on: one message is sent for each
one received, before the next one is received. -/
inductive Answered : List ReplierOp → Prop
  | nil : Answered []
  | exchange {message answer ops} (h : Answered ops) :
      Answered (.received message :: .sent answer :: ops)

def RawMessage.AsksReply (message : RawMessage) : Prop :=
  message.type = "Hello".toList ∨ message.type = "Register".toList

/-- One step on the replier: a hello or a registration that was received there
and lets no exception out gets one answer, to its sender; nothing else sends. -/
def RepliesAsMeant (event : Event) (output : Output) : Prop :=
  match event with
  | .message message .reply _ =>
    (message.AsksReply → output.escaped = none →
      ∃ answer, output.onReplier = [answer] ∧ answer.routingId = message.routingId) ∧
    (¬message.AsksReply → output.onReplier = [])
  | _ => output.onReplier = []

/-- If it is received on the replier, it asks for a reply and lets no exception out. -/
def ProperRequest (event : Event) (output : Output) : Prop :=
  ∀ message localTime, event = .message message .reply localTime →
    message.AsksReply ∧ output.escaped = none

-- ---------------------------------------------------------------------------
-- The handlers
-- ---------------------------------------------------------------------------

def PublishesOnly (sent : List Sent) : Prop := ∀ message ∈ sent, message.socket = .publisher

theorem PublishesOnly.publish (routingId : Str) (body : Body) :
    PublishesOnly [publish routingId body] := by
  intro message h
  cases List.mem_singleton.mp h
  rfl

theorem PublishesOnly.onReplier (h : PublishesOnly output.sent) : output.onReplier = [] := by
  refine List.filter_eq_nil_iff.mpr fun message hmessage => ?_
  simp [h message hmessage]

theorem ProcessInput.execute_publishes (destination : Str) (input : Input) (game : Game) :
    PublishesOnly (ProcessInput.execute destination input game).sent := by
  unfold ProcessInput.execute
  split
  · split
    · simp [PublishesOnly]
    · exact .publish destination (.input input)
  · simp [PublishesOnly]

theorem ProcessRobotState.execute_publishes (env : Externals) (destination : Str)
    (message : ServerRobotState) (game : Game) :
    PublishesOnly (ProcessRobotState.execute env destination message game).sent := by
  unfold ProcessRobotState.execute
  split
  · simp [PublishesOnly]
  · dsimp only
    split
    · simp [PublishesOnly]
    · intro sent hsent
      obtain ⟨state, -, rfl⟩ := List.mem_map.mp hsent
      rfl

def AnswersOnce (channel : Channel) (routingId : Str) (outcome : Outcome) : Prop :=
  (outcome.escaped = none ∧ ∃ body, outcome.sent = [reply channel routingId body]) ∨
    outcome.escaped ≠ none ∧ outcome.sent = []

theorem ProcessHello.execute_answers (env : Externals) (channel : Channel) (clientId : Str)
    (hello : Hello) (localTime : Ptime) (game : Game) :
    AnswersOnce channel clientId
      (ProcessHello.execute env channel clientId hello localTime game) := by
  obtain ⟨p, -, hcase⟩ := execute_cases env channel clientId hello localTime game
  cases hcase with
  | refused _ hescaped hsent _ => exact .inl ⟨hescaped, _, hsent⟩
  | stopped r _ _ houtcome => exact .inr (by simp [houtcome])
  | welcomed r video _ _ hescaped hsent _ => exact .inl ⟨hescaped, _, hsent⟩

theorem ProcessRegister.execute_answers (channel : Channel) (clientId : Str) (register : Register)
    (game : Game) :
    AnswersOnce channel clientId (ProcessRegister.execute channel clientId register game) := by
  unfold ProcessRegister.execute
  split
  · exact .inr (by simp)
  · dsimp only
    split
    · exact .inl ⟨rfl, _, rfl⟩
    · exact .inr (by simp)
  · exact .inl ⟨rfl, _, rfl⟩

section
variable (game : Game) (env : Externals) (message : RawMessage) (channel : Channel)
  (localTime : Instant)

theorem ProcessDecider.process_answers (h : message.AsksReply) :
    AnswersOnce channel message.routingId
      (ProcessDecider.process env message channel localTime game) := by
  unfold ProcessDecider.process
  rcases h with h | h
  · rw [if_pos h]
    exact ProcessHello.execute_answers ..
  · simp only [h]
    exact ProcessRegister.execute_answers ..

theorem ProcessDecider.process_publishes (h : ¬message.AsksReply) :
    PublishesOnly (ProcessDecider.process env message channel localTime game).sent := by
  unfold ProcessDecider.process
  rw [if_neg fun hhello => h (.inl hhello)]
  split
  · exact ProcessInput.execute_publishes _ _ _
  · split
    · exact ProcessRobotState.execute_publishes _ _ _ _
    · split
      · exact .publish _ _
      · split
        · exact .publish _ _
        · rw [if_neg fun hregister => h (.inr hregister)]
          simp [PublishesOnly]

end

-- ---------------------------------------------------------------------------
-- The server
-- ---------------------------------------------------------------------------

theorem Server.step_replies {env : Externals} {app app' : Application}
    (h : Server.step env app event = .ok (app', output)) : RepliesAsMeant event output := by
  cases event with
  | clock currentTic => cases h; rfl
  | message message channel localTime =>
    obtain ⟨-, rfl⟩ := Server.ofOutcome_ok h
    have hanswers := ProcessDecider.process_answers app.game env message channel localTime
    have hpublishes :=
      ProcessDecider.process_publishes app.game env message channel localTime
    cases channel with
    | publish =>
      refine PublishesOnly.onReplier ?_
      by_cases hasks : message.AsksReply
      · rcases hanswers hasks with ⟨-, body, hsent⟩ | ⟨-, hsent⟩
        · rw [hsent]; exact .publish message.routingId body
        · rw [hsent]; simp [PublishesOnly]
      · exact hpublishes hasks
    | reply =>
      refine ⟨fun hasks hescaped => ?_, fun hother => PublishesOnly.onReplier (hpublishes hother)⟩
      rcases hanswers hasks with ⟨-, body, hsent⟩ | ⟨hfault, -⟩
      · exact ⟨reply .reply message.routingId body, by simp [Output.onReplier, hsent, reply], rfl⟩
      · exact absurd hescaped hfault
  | agent command localTime =>
    obtain ⟨-, rfl⟩ := Server.step_agent.mp h
    rfl
  | tic =>
    obtain ⟨-, _, game, -, -, rfl⟩ | ⟨-, -, rfl⟩ := Server.step_tic h
    · exact PublishesOnly.onReplier (.publish _ _)
    · rfl
  | call call =>
    obtain ⟨_, hcall, -⟩ := Server.step_call.mp h
    exact PublishesOnly.onReplier (by simp [(GameCall.apply_output hcall).1, PublishesOnly])

theorem replierOps_cases (hmeant : RepliesAsMeant event output)
    (hproper : ProperRequest event output) :
    replierOps event output = [] ∨
      ∃ message answer, replierOps event output = [.received message, .sent answer] := by
  cases event with
  | message message channel localTime =>
    cases channel with
    | publish => exact .inl (List.map_eq_nil_iff.mpr hmeant)
    | reply =>
      obtain ⟨hasks, hescaped⟩ := hproper message localTime rfl
      obtain ⟨answer, honReplier, -⟩ := hmeant.1 hasks hescaped
      exact .inr ⟨message, answer, by simp [replierOps, honReplier]⟩
  | _ => exact .inl (List.map_eq_nil_iff.mpr hmeant)

theorem answered_of_proper {entries : List (Event × Output)}
    (hmeant : ∀ entry ∈ entries, RepliesAsMeant entry.1 entry.2)
    (hproper : ∀ entry ∈ entries, ProperRequest entry.1 entry.2) :
    Answered (entries.flatMap fun entry => replierOps entry.1 entry.2) := by
  induction entries with
  | nil => exact .nil
  | cons entry entries ih =>
    have hrest := ih (fun e he => hmeant e (List.mem_cons_of_mem _ he))
      fun e he => hproper e (List.mem_cons_of_mem _ he)
    rw [List.flatMap_cons]
    rcases replierOps_cases (hmeant entry List.mem_cons_self) (hproper entry List.mem_cons_self)
      with hops | ⟨message, answer, hops⟩
    · rw [hops]
      exact hrest
    · rw [hops]
      exact hrest.exchange

/-- From any state and over any run: a hello or a registration received on the
replier that lets no exception out gets one answer there, other messages none,
nothing else sends there; so a run of proper requests answers each of them
before the next one is received. -/
theorem replies_as_meant (env : Externals) (app app' : Application) (events : List Event)
    (outputs : List Output) (hrun : Server.run env app events = .ok (app', outputs)) :
    (∀ entry ∈ events.zip outputs, RepliesAsMeant entry.1 entry.2) ∧
    ((∀ entry ∈ events.zip outputs, ProperRequest entry.1 entry.2) →
      Answered (replierTrace events outputs)) := by
  have hmeant : ∀ entry ∈ events.zip outputs, RepliesAsMeant entry.1 entry.2 := by
    intro entry hentry
    obtain ⟨_, _, hstep⟩ := Lib.run_zip hrun entry hentry
    exact Server.step_replies hstep
  exact ⟨hmeant, answered_of_proper hmeant⟩

def twoHellos : List Event :=
  [.message { routingId := "c".toList, type := "Hello".toList, payload := [] } .reply 0,
    .message { routingId := "r".toList, type := "Ping".toList, payload := [] } .publish 1,
    .message { routingId := "d".toList, type := "Hello".toList, payload := [] } .reply 2]

theorem replies_as_meant_twoHellos :
    ∃ app' outputs,
      Server.run .plain (Server.create [] 0 oneTeam) twoHellos = .ok (app', outputs) ∧
      Answered (replierTrace twoHellos outputs) := by
  refine ⟨_, _, rfl,
    (replies_as_meant .plain (Server.create [] 0 oneTeam) _ twoHellos _ rfl).2 ?_⟩
  intro entry hentry message localTime heq
  rcases List.mem_cons.mp hentry with rfl | hentry
  · cases heq; exact ⟨.inl rfl, rfl⟩
  · rcases List.mem_cons.mp hentry with rfl | hentry
    · cases heq
    · cases List.mem_singleton.mp hentry
      cases heq
      exact ⟨.inl rfl, rfl⟩

/-- A ping received on the replier is answered on the publisher: the request
stays open. -/
theorem ping_unanswered :
    ∃ app' outputs,
      Server.run .plain (Server.create [] 0 oneTeam)
        [.message { routingId := "c".toList, type := "Ping".toList, payload := [] } .reply 0] =
          .ok (app', outputs) ∧
      ¬Answered (replierTrace
        [.message { routingId := "c".toList, type := "Ping".toList, payload := [] } .reply 0]
        outputs) := by
  refine ⟨_, _, rfl, fun h => ?_⟩
  cases h

end ServerGame
