import ServerGame.Loop.Tics

/-!
# Stopping

A `stop application` of the agent is the last thing the loop does. A signal
stops it too, after one more message or command at most. But a signal that
comes before the loop has set its flag leaves a loop that does not end and
handles no message any more.
-/

namespace ServerGame

-- ---------------------------------------------------------------------------
-- The state of the application
-- ---------------------------------------------------------------------------

theorem AgentProxy.apply_state {env : Externals} {localTime : Instant} {app app' : Application}
    {command : Command} (h : apply env localTime app command = .ok app') :
    app'.state = app.state ∨
      app.state = .running ∧ app'.state = .stopped ∧ app'.game.isRunning = false := by
  cases command with
  | stopApplication =>
    cases h
    unfold Application.stop
    split
    · next hrunning => exact .inr ⟨hrunning, rfl, Game.stop_isRunning⟩
    · exact .inl rfl
  | addRobot name teamName =>
    simp only [apply, addRobot, Lib.bind_eq_ok, Lib.pure_eq_ok, Prod.exists] at h
    obtain ⟨_, _, -, rfl⟩ := h
    exact .inl (Application.popTwoPorts_state env.leftFirst app)
  | _ => cases h; exact .inl rfl

namespace Server

variable {zmq : Zmq} {env : AgentExternals} {server server' : Server zmq} {ops : List SocketOp}
  {event : Event} {localTime : Instant} {input : LoopInput}

def StateMove (server server' : Server zmq) : Prop :=
  server'.state = server.state ∨
    server.state = .running ∧ server'.state = .stopped ∧ server'.game.isRunning = false

theorem handle_state (h : server.handle env event = .ok (server', ops))
    (hevent : ∀ command time, event ≠ .agent command time) : server'.state = server.state := by
  obtain ⟨application, output, hhandled⟩ := handled_of_handle h
  rw [state, state, hhandled.agentProxy]
  have hstep := hhandled.steps
  cases event with
  | clock currentTic => cases hstep; rfl
  | message raw channel time => rw [(ofOutcome_ok hstep).1]
  | agent command time => exact absurd rfl (hevent command time)
  | tic => rcases step_tic hstep with ⟨-, _, _, -, rfl, -⟩ | ⟨-, rfl, -⟩ <;> rfl
  | call call =>
    obtain ⟨_, -, rfl⟩ := step_call.mp hstep
    rfl

theorem signal_state (h : server.handle env (.agent .stopApplication 0) = .ok (server', ops)) :
    StateMove server server' := by
  obtain ⟨application, output, hhandled⟩ := handled_of_handle h
  have hmove := AgentProxy.apply_state (step_agent.mp hhandled.steps).1
  rw [StateMove, state, state, game, hhandled.agentProxy]
  exact hmove

theorem agentFed_state (h : AgentFed env localTime server server' ops) :
    StateMove server server' := by
  cases h with
  | nothing _ => exact .inl rfl
  | @command message received inbox stepped _ _ _ hstep =>
    rw [StateMove, state, state, game, setProxy_agentProxy]
    rcases AgentProxy.step_application hstep with ⟨-, hsame⟩ | ⟨parsed, -, happly⟩
    · exact .inl (by rw [hsame])
    · exact AgentProxy.apply_state happly

theorem FlagsMove.of_stopped (h : FlagsMove server server') (hstopped : server.state = .stopped) :
    server'.mainLoopRunning = server.mainLoopRunning ∧
      server'.forcedStop = server.forcedStop := by
  cases h with
  | stops hrunning _ _ _ => cases hrunning.symm.trans hstopped
  | keeps _ hmain hforced => exact ⟨hmain, hforced⟩

theorem StateMove.of_stopped (h : StateMove server server') (hstopped : server.state = .stopped) :
    server'.state = .stopped := by
  rcases h with hsame | ⟨hrunning, -, -⟩
  · exact hsame.trans hstopped
  · cases hrunning.symm.trans hstopped

theorem stopped_advance (hstopped : server.state = .stopped)
    (h : server.advance env input = .ok (server', ops)) :
    server'.state = .stopped ∧ server'.forcedStop = server.forcedStop ∧
      (server.point ≠ .starting → server'.mainLoopRunning = server.mainLoopRunning) := by
  cases advances_of_advance h with
  | arrives | ends | breaks | misses | idles | rests => exact ⟨hstopped, rfl, fun _ => rfl⟩
  | starts _ hpoint => exact ⟨hstopped, rfl, fun hnot => absurd hpoint hnot⟩
  | signal hhandle =>
    obtain ⟨hmain, hforced⟩ := (flagsMove_handle hhandle).of_stopped hstopped
    exact ⟨(signal_state hhandle).of_stopped hstopped, hforced, fun _ => hmain⟩
  | polls _ _ hhandle _ | due _ _ hhandle _ =>
    obtain ⟨hmain, hforced⟩ := (flagsMove_handle hhandle).of_stopped hstopped
    have hstate := (handle_state hhandle nofun).trans hstopped
    exact ⟨hstate, hforced, fun _ => hmain⟩
  | takes _ hreceived hhandle =>
    obtain ⟨inbox, -, rfl⟩ := receiveString_eq_some.mp hreceived
    obtain ⟨hmain, hforced⟩ := (flagsMove_handle hhandle).of_stopped hstopped
    have hstate := (handle_state hhandle nofun).trans hstopped
    exact ⟨hstate, hforced, fun _ => hmain⟩
  | enters _ _ hfed =>
    obtain ⟨hmain, hforced⟩ := (flagsMove_agentFed hfed).of_stopped hstopped
    have hstate := (agentFed_state hfed).of_stopped hstopped
    exact ⟨hstate, hforced, fun _ => hmain⟩
  | tics _ hfed hhandle =>
    have hstate₁ := (agentFed_state hfed).of_stopped hstopped
    obtain ⟨hmain₁, hforced₁⟩ := (flagsMove_agentFed hfed).of_stopped hstopped
    obtain ⟨hmain, hforced⟩ := (flagsMove_handle hhandle).of_stopped hstate₁
    have hstate := (handle_state hhandle nofun).trans hstate₁
    exact ⟨hstate, hforced.trans hforced₁, fun _ => hmain.trans hmain₁⟩

-- ---------------------------------------------------------------------------
-- On the way to the end
-- ---------------------------------------------------------------------------

/-- What a stop leaves, unless it comes before the loop has set its flag. -/
structure Stopping (server : Server zmq) : Prop where
  stopped : server.state = .stopped
  forced : server.forcedStop = true
  ended : server.mainLoopRunning = false
  started : server.point ≠ .starting

theorem started_advance (hstarted : server.point ≠ .starting)
    (h : server.advance env input = .ok (server', ops)) : server'.point ≠ .starting := by
  cases advances_of_advance h with
  | arrives | rests => exact hstarted
  | signal hhandle =>
    rw [(handle_same hhandle).2.1]
    exact hstarted
  | _ => nofun

theorem stopping_advance (hstopping : Stopping server)
    (h : server.advance env input = .ok (server', ops)) : Stopping server' := by
  obtain ⟨hstopped, hforced, hmain⟩ := stopped_advance hstopping.stopped h
  exact ⟨hstopped, hforced.trans hstopping.forced,
    (hmain hstopping.started).trans hstopping.ended, started_advance hstopping.started h⟩

def turnsToEnd (server : Server zmq) : Nat :=
  match server.point with
  | .ended => 0
  | .starting | .entering => 1
  | .looping => 2
  | .ticking _ => 3
  | .polling left => left.length + 3

theorem ended_advance (hended : server.point = .ended)
    (h : server.advance env input = .ok (server', ops)) : server'.point = .ended := by
  cases advances_of_advance h with
  | arrives | rests => exact hended
  | signal hhandle => exact (handle_same hhandle).2.1.trans hended
  | ends => rfl
  | starts _ hpoint | enters hpoint _ _ | breaks _ hpoint _ | polls hpoint _ _ _ | due hpoint _ _ _
  | misses _ hpoint _ | takes hpoint _ _ | idles _ hpoint | tics hpoint _ _ =>
    cases hpoint.symm.trans hended

theorem turnsToEnd_advance (hstopping : Stopping server) (hgoing : server'.point ≠ .ended)
    (h : server.advance env input = .ok (server', ops)) :
    input.turns + turnsToEnd server' ≤ turnsToEnd server := by
  cases advances_of_advance h with
  | arrives => exact le_of_eq (Nat.zero_add _)
  | signal hhandle => simp [turnsToEnd, (handle_same hhandle).2.1]
  | starts _ hpoint => exact absurd hpoint hstopping.started
  | ends => exact absurd rfl hgoing
  | rests _ hpoint => exact absurd hpoint hgoing
  | enters _ hrunning _ => cases hstopping.ended.symm.trans hrunning
  | polls _ hforced _ _ | due _ hforced _ _ => cases hstopping.forced.symm.trans hforced
  | breaks _ hpoint _ | tics hpoint _ _ => simp [turnsToEnd, hpoint]
  | misses _ hpoint _ | takes hpoint _ _ | idles _ hpoint =>
    simp only [LoopInput.turns_turn, turnsToEnd, hpoint, List.length_cons, List.length_nil]
    omega

/-- How many more messages and commands are received: one, in a poll or a tic
that is under way. -/
def receptionsLeft (server : Server zmq) : Nat :=
  match server.point with
  | .polling _ | .ticking _ => 1
  | _ => 0

end Server

def SocketOp.isReception : SocketOp → Bool
  | .received _ _ => true
  | _ => false

namespace Server

variable {zmq : Zmq} {env : AgentExternals} {server server' : Server zmq} {ops : List SocketOp}
  {event : Event} {localTime : Instant} {input : LoopInput}

theorem sendAll_receptions (sent : List Sent) :
    (server.sendAll sent).1.countP SocketOp.isReception = 0 := by
  induction sent generalizing server with
  | nil => rfl
  | cons message rest ih =>
    have hop : (server.send message).1.isReception = false := by
      rcases server.send_op message with hop | hop <;> rw [hop] <;> rfl
    rw [sendAll_cons, List.countP_cons_of_neg (by simp [hop]), ih]

theorem handle_receptions (h : server.handle env event = .ok (server', ops)) :
    ops.countP SocketOp.isReception = 0 := by
  obtain ⟨_, _, -, -, hsent⟩ := handle_ok.mp h
  rw [← show _ = ops from congrArg Prod.fst hsent]
  exact sendAll_receptions _

theorem agentFed_receptions (h : AgentFed env localTime server server' ops) :
    ops.countP SocketOp.isReception ≤ 1 := by
  cases h with
  | nothing _ => exact Nat.zero_le 1
  | command _ _ _ _ => exact le_rfl

theorem receptionsLeft_advance (hstopping : Stopping server)
    (h : server.advance env input = .ok (server', ops)) :
    ops.countP SocketOp.isReception + receptionsLeft server' ≤ receptionsLeft server := by
  cases advances_of_advance h with
  | arrives => exact le_of_eq (Nat.zero_add _)
  | signal hhandle =>
    simp [handle_receptions hhandle, receptionsLeft, (handle_same hhandle).2.1]
  | starts _ hpoint => exact absurd hpoint hstopping.started
  | enters _ hrunning _ => cases hstopping.ended.symm.trans hrunning
  | polls _ hforced _ _ | due _ hforced _ _ => cases hstopping.forced.symm.trans hforced
  | ends _ hpoint _ | rests _ hpoint | breaks _ hpoint _ | misses _ hpoint _ | idles _ hpoint =>
    simp [receptionsLeft, hpoint]
  | takes hpoint _ hhandle =>
    rw [List.countP_cons_of_pos rfl, handle_receptions hhandle]
    simp [receptionsLeft, hpoint]
  | tics hpoint hfed hhandle =>
    have hone := agentFed_receptions hfed
    rw [List.countP_append, handle_receptions hhandle]
    simpa [receptionsLeft, hpoint] using hone

end Server

-- ---------------------------------------------------------------------------
-- Runs
-- ---------------------------------------------------------------------------

namespace Server

variable {zmq : Zmq} {env : AgentExternals} {server server' : Server zmq} {later : List LoopInput}
  {opss' : List (List SocketOp)}

theorem Stopping.receptions (hstopping : Stopping server)
    (hlater : Lib.run (advance env) server later = .ok (server', opss')) :
    opss'.flatten.countP SocketOp.isReception ≤ receptionsLeft server := by
  obtain ⟨-, hspent⟩ := Lib.spent_le Stopping (fun _ => True) receptionsLeft
    (fun _ ops => ops.countP SocketOp.isReception) (fun _ _ _ _ _ _ => trivial)
    (fun _ _ _ _ hstopping _ hstep =>
      ⟨stopping_advance hstopping hstep, receptionsLeft_advance hstopping hstep⟩)
    hstopping trivial hlater
  rw [Lib.spent_flatten rfl (fun _ _ => List.countP_append) (Lib.run_length hlater)] at hspent
  omega

theorem Stopping.ends (hstopping : Stopping server)
    (hlater : Lib.run (advance env) server later = .ok (server', opss'))
    (hturns : turnsToEnd server ≤ later.countP LoopInput.isTurn) : server'.point = .ended := by
  by_contra hgoing
  obtain ⟨-, hspent⟩ := Lib.spent_le Stopping (fun server => server.point ≠ .ended)
    (fun server => (turnsToEnd server : Int)) (fun input _ => (input.turns : Int))
    (fun _ _ _ _ hstep hgoing hended => hgoing (ended_advance hended hstep))
    (fun _ _ _ _ hstopping hgoing hstep => by
      have hcost := turnsToEnd_advance hstopping hgoing hstep
      exact ⟨stopping_advance hstopping hstep, by omega⟩)
    hstopping hgoing hlater
  rw [spent_turns (Lib.run_length hlater)] at hspent
  have hrank : 0 < turnsToEnd server' := by
    unfold turnsToEnd
    split
    · next hpoint => exact absurd hpoint hgoing
    all_goals omega
  omega

-- ---------------------------------------------------------------------------
-- A stop by the agent
-- ---------------------------------------------------------------------------

theorem agentFed_stops {ops : List SocketOp} {localTime : Instant}
    (hrunning : server.state = .running) (hstopped : server'.state = .stopped)
    (h : AgentFed env localTime server server' ops) :
    (∃ command reply, ops = [.received .agentSocket command, .answered reply]) ∧
      server'.mainLoopRunning = false ∧ server'.forcedStop = true ∧
        server'.game.isRunning = false := by
  have hgame : server'.game.isRunning = false := by
    rcases agentFed_state h with hsame | ⟨-, -, hgame⟩
    · cases (hsame.trans hrunning).symm.trans hstopped
    · exact hgame
  have hflags : server'.mainLoopRunning = false ∧ server'.forcedStop = true := by
    cases flagsMove_agentFed h with
    | stops _ _ hmain hforced => exact ⟨hmain, hforced⟩
    | keeps hnot _ _ => exact absurd ⟨hrunning, hstopped⟩ hnot
  refine ⟨?_, hflags.1, hflags.2, hgame⟩
  cases h with
  | nothing _ => cases hrunning.symm.trans hstopped
  | command _ _ _ _ => exact ⟨_, _, rfl⟩

theorem handle_nothing {event : Event} {ops : List SocketOp}
    (h : server.handle env event = .ok (server', ops)) (hevent : ¬event.IsRequest)
    (hnothing : ∀ application output, step env.toExternals server.agentProxy.application event =
      .ok (application, output) → output.sent = []) : ops = [] := by
  obtain ⟨application, output, hhandled⟩ := handled_of_handle h
  rw [hhandled.sends fun hrequest => absurd hrequest hevent, hnothing _ _ hhandled.steps]
  rfl

theorem signal_nothing {ops : List SocketOp}
    (h : server.handle env (.agent .stopApplication 0) = .ok (server', ops)) : ops = [] :=
  handle_nothing h (by rintro ⟨_, _, ⟨⟩⟩) fun _ _ hstep => by rw [(step_agent.mp hstep).2]

theorem tic_nothing {ops : List SocketOp} (hrest : server.game.isRunning = false)
    (h : server.handle env .tic = .ok (server', ops)) : ops = [] := by
  refine handle_nothing h (by rintro ⟨_, _, ⟨⟩⟩) fun _ _ hstep => ?_
  rcases step_tic hstep with ⟨hrunning, -⟩ | ⟨-, -, rfl⟩
  · cases hrunning.symm.trans hrest
  · rfl

structure Leaving (server : Server zmq) : Prop extends Stopping server where
  way : server.point = .looping ∨ server.point = .entering ∨ server.point = .ended

theorem leaving_advance {input : LoopInput} {ops : List SocketOp} (h : Leaving server)
    (hstep : server.advance env input = .ok (server', ops)) : Leaving server' ∧ ops = [] := by
  have hstopping := stopping_advance h.toStopping hstep
  have hnot {point : Point} (hpoint : server.point = point)
      (hother : point ≠ .looping ∧ point ≠ .entering ∧ point ≠ .ended) : False := by
    have hway := h.way
    rw [hpoint] at hway
    rcases hway with hway | hway | hway
    exacts [hother.1 hway, hother.2.1 hway, hother.2.2 hway]
  cases advances_of_advance hstep with
  | arrives | rests => exact ⟨⟨hstopping, h.way⟩, rfl⟩
  | signal hhandle =>
    exact ⟨⟨hstopping, (handle_same hhandle).2.1 ▸ h.way⟩, signal_nothing hhandle⟩
  | ends => exact ⟨⟨hstopping, .inr (.inr rfl)⟩, rfl⟩
  | breaks => exact ⟨⟨hstopping, .inr (.inl rfl)⟩, rfl⟩
  | enters _ hrunning _ => cases h.ended.symm.trans hrunning
  | polls _ hforced _ _ | due _ hforced _ _ => cases h.forced.symm.trans hforced
  | starts _ hpoint | misses _ hpoint _ | takes hpoint _ _ | idles _ hpoint | tics hpoint _ _ =>
    exact (hnot hpoint ⟨nofun, nofun, nofun⟩).elim

theorem leaving_run (h : Leaving server)
    (hlater : Lib.run (advance env) server later = .ok (server', opss')) : opss'.flatten = [] := by
  have hall := Lib.run_history (fun server _ opss => Leaving server ∧ opss.flatten = []) ⟨h, rfl⟩
    (fun _ _ _ _ _ ops _ ⟨hleaving, hnone⟩ hstep => by
      obtain ⟨hleaving', rfl⟩ := leaving_advance hleaving hstep
      exact ⟨hleaving', by simp [hnone]⟩) hlater
  exact hall.2

end Server

/-- A turn that stops the application is a command of the agent: it is
answered, and after it nothing is received and nothing sent, whatever comes,
and the loop ends in two turns. -/
theorem agent_stop_is_last (zmq : Zmq) (env : AgentExternals) (server : Server zmq)
    (localTime : Instant) (server' : Server zmq) (ops : List SocketOp)
    (hrunning : server.state = .running)
    (hstep : server.advance env (.turn localTime) = .ok (server', ops))
    (hstopped : server'.state = .stopped) (later : List LoopInput) (server'' : Server zmq)
    (opss' : List (List SocketOp))
    (hlater : Lib.run (Server.advance env) server' later = .ok (server'', opss')) :
    (∃ command reply, ops = [.received .agentSocket command, .answered reply]) ∧
      opss'.flatten = [] ∧
      (2 ≤ later.countP LoopInput.isTurn → server''.point = .ended) := by
  suffices h : (∃ command reply, ops = [.received .agentSocket command, .answered reply]) ∧
      Server.Stopping server' ∧ server'.point = .looping by
    obtain ⟨hops, hstopping, hpoint⟩ := h
    refine ⟨hops, Server.leaving_run ⟨hstopping, .inl hpoint⟩ hlater, fun hturns => ?_⟩
    exact hstopping.ends hlater (by simpa [Server.turnsToEnd, hpoint] using hturns)
  have hnot (hsame : server'.state = server.state) : False := by
    cases (hsame.trans hrunning).symm.trans hstopped
  cases Server.advances_of_advance hstep with
  | starts | ends | breaks | misses | idles | rests => exact (hnot rfl).elim
  | polls _ _ hhandle _ | due _ _ hhandle _ =>
    have hsame := Server.handle_state hhandle nofun
    exact (hnot hsame).elim
  | takes _ hreceived hhandle =>
    obtain ⟨inbox, -, rfl⟩ := Server.receiveString_eq_some.mp hreceived
    have hsame := Server.handle_state hhandle nofun
    exact (hnot hsame).elim
  | @enters _ server₁ _ _ _ hfed =>
    have hstopped₁ : server₁.state = .stopped := hstopped
    obtain ⟨hops, hmain, hforced, -⟩ := Server.agentFed_stops hrunning hstopped₁ hfed
    exact ⟨hops, ⟨hstopped, hforced, hmain, nofun⟩, rfl⟩
  | @tics _ _ server₁ server₂ fed more _ hfed hhandle =>
    have hstate := Server.handle_state hhandle nofun
    have hstopped₁ : server₁.state = .stopped := hstate.symm.trans hstopped
    obtain ⟨⟨command, reply, rfl⟩, hmain, hforced, hgame⟩ :=
      Server.agentFed_stops hrunning hstopped₁ hfed
    obtain rfl := Server.tic_nothing hgame hhandle
    obtain ⟨hmain', hforced'⟩ := (Server.flagsMove_handle hhandle).of_stopped hstopped₁
    exact ⟨⟨command, reply, rfl⟩,
      ⟨hstopped, hforced'.trans hforced, hmain'.trans hmain, nofun⟩, rfl⟩

def stopAndHello : Server .fifo :=
  { ((Server.launch .fifo (AgentProxy.launch [] 0 oneTeam) 1000 0).arrive .replier 0
      "c Hello ".toList).arrive .agentSocket 0 "stop application".toList with
    mainLoopRunning := true
    point := .entering }

theorem agent_stop_is_last_hello :
    ∃ server' ops server'' opss',
      stopAndHello.advance .plain (.turn 1) = .ok (server', ops) ∧
      Lib.run (Server.advance .plain) server' [.turn 2, .turn 3] = .ok (server'', opss') ∧
      opss'.flatten = [] ∧ server''.point = .ended := by
  obtain ⟨-, hnone, hended⟩ :=
    agent_stop_is_last .fifo .plain stopAndHello 1 _ _ rfl rfl rfl [.turn 2, .turn 3] _ _ rfl
  exact ⟨_, _, _, _, rfl, rfl, hnone, hended (by decide)⟩

-- ---------------------------------------------------------------------------
-- A stop by a signal
-- ---------------------------------------------------------------------------

theorem Server.signal_stops {zmq : Zmq} {env : AgentExternals} {server server' : Server zmq}
    {ops : List SocketOp} (hrunning : server.state = .running)
    (h : server.handle env (.agent .stopApplication 0) = .ok (server', ops)) :
    server'.state = .stopped ∧ server'.forcedStop = true ∧ server'.mainLoopRunning = false := by
  have hstopped : server'.state = .stopped := by
    obtain ⟨application, output, hhandled⟩ := handled_of_handle h
    have hstop := (step_agent.mp hhandled.steps).1
    cases hstop
    rw [state, hhandled.agentProxy]
    unfold Application.stop
    split
    · rfl
    · next hnot => exact absurd hrunning hnot
  cases flagsMove_handle h with
  | stops _ _ hmain hforced => exact ⟨hstopped, hforced, hmain⟩
  | keeps hnot _ _ => exact absurd ⟨hrunning, hstopped⟩ hnot

/-- A signal that comes once the loop has set its flag, while the application is
running, ends it: at most one message or command is received after it, and the
loop is at its end after five turns. -/
theorem signal_ends_loop (zmq : Zmq) (env : AgentExternals) (proxy : AgentProxy)
    (ticDuration : Int) (previousTic : Instant) (inputs : List LoopInput) (server : Server zmq)
    (opss : List (List SocketOp))
    (hrun : Lib.run (Server.advance env) (Server.launch zmq proxy ticDuration previousTic) inputs =
      .ok (server, opss)) (hrunning : server.state = .running)
    (hstarted : server.point ≠ .starting) (server' : Server zmq) (ops : List SocketOp)
    (hsignal : server.advance env .signal = .ok (server', ops)) (later : List LoopInput)
    (server'' : Server zmq) (opss' : List (List SocketOp))
    (hlater : Lib.run (Server.advance env) server' later = .ok (server'', opss')) :
    opss'.flatten.countP SocketOp.isReception ≤ 1 ∧
      (5 ≤ later.countP LoopInput.isTurn → server''.point = .ended) := by
  obtain ⟨hstopped, hforced, hmain⟩ := Server.signal_stops hrunning hsignal
  have hpoint : server'.point = server.point := (Server.handle_same hsignal).2.1
  have hstopping : Server.Stopping server' := ⟨hstopped, hforced, hmain, hpoint ▸ hstarted⟩
  constructor
  · have hone : Server.receptionsLeft server' ≤ 1 := by
      unfold Server.receptionsLeft
      split <;> decide
    exact (hstopping.receptions hlater).trans hone
  · intro hturns
    obtain ⟨first, hpolls⟩ := Server.polls_run hrun
    have hfive : Server.turnsToEnd server' ≤ 5 := by
      unfold Server.turnsToEnd
      cases hat : server'.point with
      | polling left =>
        rcases hpolls.left left (hpoint ▸ hat) with rfl | rfl | rfl <;> simp
      | _ => simp
    exact hstopping.ends hlater (hfive.trans hturns)

theorem signal_ends_loop_polling :
    ∃ server opss server' ops server'' opss',
      Lib.run (Server.advance .plain) (Server.launch .fifo (AgentProxy.launch [] 0 oneTeam) 1000 0)
        missedThenHellos = .ok (server, opss) ∧
      server.advance .plain .signal = .ok (server', ops) ∧
      Lib.run (Server.advance .plain) server' sevenTurns = .ok (server'', opss') ∧
      received .replier opss'.flatten = ["c Hello ".toList] ∧
      opss'.flatten.countP SocketOp.isReception ≤ 1 ∧ server''.point = .ended := by
  obtain ⟨hone, hended⟩ := signal_ends_loop .fifo .plain (AgentProxy.launch [] 0 oneTeam) 1000 0
    missedThenHellos _ _ rfl rfl nofun _ _ rfl sevenTurns _ _ rfl
  exact ⟨_, _, _, _, _, _, rfl, rfl, rfl, rfl, hone, hended (by decide)⟩

-- ---------------------------------------------------------------------------
-- A signal that comes too early
-- ---------------------------------------------------------------------------

namespace Server

structure Lost {zmq : Zmq} (server : Server zmq) : Prop where
  stopped : server.state = .stopped
  forced : server.forcedStop = true
  way : server.point = .starting ∨
    server.mainLoopRunning = true ∧ (server.point = .entering ∨ server.point = .looping)

theorem lost_advance {zmq : Zmq} {env : AgentExternals} {server server' : Server zmq}
    {input : LoopInput} {ops : List SocketOp} (h : Lost server)
    (hstep : server.advance env input = .ok (server', ops)) :
    Lost server' ∧ (∀ channel : Channel, received channel.socket ops = []) ∧ told ops = [] := by
  obtain ⟨hstopped, hforced, hmain⟩ := stopped_advance h.stopped hstep
  have hforced' := hforced.trans h.forced
  have hnot {point : Point} (hpoint : server.point = point)
      (hother : point ≠ .starting ∧ point ≠ .entering ∧ point ≠ .looping) : False := by
    have hway := h.way
    rw [hpoint] at hway
    rcases hway with hway | ⟨-, hway | hway⟩
    exacts [hother.1 hway, hother.2.1 hway, hother.2.2 hway]
  cases advances_of_advance hstep with
  | arrives => exact ⟨⟨hstopped, hforced', h.way⟩, fun _ => rfl, rfl⟩
  | signal hhandle =>
    have hpoint := (handle_same hhandle).2.1
    obtain rfl := signal_nothing hhandle
    refine ⟨⟨hstopped, hforced', ?_⟩, fun _ => rfl, rfl⟩
    rw [hpoint, ((flagsMove_handle hhandle).of_stopped h.stopped).1]
    exact h.way
  | starts => exact ⟨⟨hstopped, hforced', .inr ⟨rfl, .inl rfl⟩⟩, fun _ => rfl, rfl⟩
  | ends _ hpoint hrunning =>
    rcases h.way with hway | ⟨hway, -⟩
    · cases hpoint.symm.trans hway
    · cases hrunning.symm.trans hway
  | enters hpoint hrunning hfed =>
    have hrunning' := (hmain (by simp [hpoint])).trans hrunning
    exact ⟨⟨hstopped, hforced', .inr ⟨hrunning', .inr rfl⟩⟩, fun _ => received_agentFed _ hfed,
      agentFed_untold hfed⟩
  | breaks _ hpoint _ =>
    rcases h.way with hway | ⟨hrunning, -⟩
    · cases hpoint.symm.trans hway
    · exact ⟨⟨hstopped, hforced', .inr ⟨hrunning, .inl rfl⟩⟩, fun _ => rfl, rfl⟩
  | polls _ hfree _ _ | due _ hfree _ _ => cases h.forced.symm.trans hfree
  | misses _ hpoint _ | takes hpoint _ _ | idles _ hpoint | tics hpoint _ _ | rests _ hpoint =>
    exact (hnot hpoint ⟨nofun, nofun, nofun⟩).elim

end Server

/-- A signal that comes after `run` has noted that the application is running
and before the loop sets its flag is lost: the loop never ends, and it receives
no message and broadcasts nothing, whatever comes, another signal included. -/
theorem early_signal_lost (zmq : Zmq) (env : AgentExternals) (server : Server zmq)
    (hrunning : server.state = .running) (hstarting : server.point = .starting)
    (server' : Server zmq) (ops : List SocketOp)
    (hsignal : server.advance env .signal = .ok (server', ops)) (later : List LoopInput)
    (server'' : Server zmq) (opss' : List (List SocketOp))
    (hlater : Lib.run (Server.advance env) server' later = .ok (server'', opss')) :
    server''.point ≠ .ended ∧ (∀ channel : Channel, received channel.socket opss'.flatten = []) ∧
      told opss'.flatten = [] := by
  obtain ⟨hstopped, hforced, -⟩ := Server.signal_stops hrunning hsignal
  have hpoint : server'.point = server.point := (Server.handle_same hsignal).2.1
  have hlost : Server.Lost server' := ⟨hstopped, hforced, .inl (hpoint.trans hstarting)⟩
  obtain ⟨hlost', hnone, huntold⟩ := Lib.run_history (fun server _ opss => Server.Lost server ∧
      (∀ channel : Channel, received channel.socket opss.flatten = []) ∧ told opss.flatten = [])
    ⟨hlost, fun _ => rfl, rfl⟩
    (fun _ _ _ _ _ ops _ ⟨hlost, hnone, huntold⟩ hstep => by
      obtain ⟨hlost', hnone', huntold'⟩ := Server.lost_advance hlost hstep
      refine ⟨hlost', fun channel => ?_, ?_⟩
      · simp [received_append, hnone, hnone']
      · simp [told_append, huntold, huntold']) hlater
  refine ⟨fun hended => ?_, hnone, huntold⟩
  rcases hlost'.way with hway | ⟨-, hway | hway⟩ <;> cases hended.symm.trans hway

theorem early_signal_lost_hello :
    ∃ server' ops server'' opss',
      (Server.launch .fifo (AgentProxy.launch [] 0 oneTeam) 1000 0).advance .plain .signal =
        .ok (server', ops) ∧
      Lib.run (Server.advance .plain) server' agentThenHello = .ok (server'', opss') ∧
      server''.point ≠ .ended ∧ received Channel.reply.socket opss'.flatten = [] := by
  obtain ⟨hgoing, hnone, -⟩ := early_signal_lost .fifo .plain
    (Server.launch .fifo (AgentProxy.launch [] 0 oneTeam) 1000 0) rfl rfl _ _ rfl agentThenHello _ _
    rfl
  exact ⟨_, _, _, _, rfl, rfl, hgoing, hnone .reply⟩

end ServerGame
