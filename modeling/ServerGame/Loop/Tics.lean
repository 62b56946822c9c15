import ServerGame.Broadcasts
import ServerGame.Loop.Progress

/-!
# Tics

Broadcasts come with tics, and tics at their interval: `n` broadcasts take at
least `n` intervals. Commands of the agent come with tics and with messages, so
on a quiet server they take intervals too. No message keeps the loop from a tic
that is due. It looks for messages only while none is, so without an interval it
never does.
-/

namespace ServerGame

-- ---------------------------------------------------------------------------
-- What the loop broadcasts
-- ---------------------------------------------------------------------------

def SocketOp.gameState : SocketOp → Option GameState
  | .sent message => message.gameState
  | _ => none

def told (ops : List SocketOp) : List GameState := ops.filterMap SocketOp.gameState

@[simp] theorem told_nil : told [] = [] := rfl

theorem told_append (ops ops' : List SocketOp) : told (ops ++ ops') = told ops ++ told ops' :=
  List.filterMap_append

theorem told_sent (sent : List Sent) :
    told (sent.map SocketOp.sent) = sent.filterMap Sent.gameState := by
  rw [told, List.filterMap_map]
  rfl

namespace Server

variable {zmq : Zmq} {env : AgentExternals} {server server' : Server zmq} {ops : List SocketOp}
  {event : Event} {localTime now : Instant} {input : LoopInput} {channel : Channel}

theorem sendAll_told {sent : List Sent} (h : Untold sent) : told (server.sendAll sent).1 = [] := by
  rw [Untold, List.filterMap_eq_nil_iff] at h
  induction sent generalizing server with
  | nil => rfl
  | cons message rest ih =>
    rw [List.forall_mem_cons] at h
    have hop : (server.send message).1.gameState = none := by
      rcases server.send_op message with hop | hop <;> rw [hop]
      · exact h.1
      · rfl
    rw [sendAll_cons, told, List.filterMap_cons_none hop]
    exact ih h.2

theorem handle_tells (h : server.handle env event = .ok (server', ops)) :
    StepTells event server.game server'.game (told ops) := by
  obtain ⟨application, output, hhandled⟩ := handled_of_handle h
  have htells := step_tells hhandled.steps
  have hgame : server'.game = application.game := by rw [game, hhandled.agentProxy]
  rw [hgame]
  by_cases hrequest : event.IsRequest
  · obtain ⟨message, time, rfl⟩ := hrequest
    obtain ⟨_, output', hstep, -, hsent⟩ := handle_ok.mp h
    obtain ⟨-, rfl⟩ := ofOutcome_ok hstep
    rw [← show _ = ops from congrArg Prod.fst hsent,
      sendAll_told (ProcessDecider.process_untold ..)]
    exact .nothing (.inl nofun)
  · rw [hhandled.sends fun hrequest' => absurd hrequest' hrequest, told_sent]
    exact htells

theorem handle_untold (h : server.handle env event = .ok (server', ops)) (hevent : event ≠ .tic) :
    told ops = [] := by
  have htells := handle_tells h
  generalize told ops = states at htells ⊢
  cases htells with
  | tic htic => exact absurd htic hevent
  | nothing => rfl

theorem agentFed_untold (h : AgentFed env localTime server server' ops) : told ops = [] := by
  cases h <;> rfl

theorem told_advance (h : server.advance env input = .ok (server', ops)) :
    told ops = [] ∧ server'.previousTic = server.previousTic ∨
      ∃ currentTic, server.point = .ticking currentTic ∧ (told ops).length ≤ 1 ∧
        server'.previousTic = currentTic := by
  cases advances_of_advance h with
  | arrives | starts | ends | breaks | misses | idles | rests => exact .inl ⟨rfl, rfl⟩
  | signal hhandle | polls _ _ hhandle _ | due _ _ hhandle _ =>
    exact .inl ⟨handle_untold hhandle nofun, (handle_same hhandle).2.2.1⟩
  | enters _ _ hfed => exact .inl ⟨agentFed_untold hfed, (agentFed_same hfed).2.2.1⟩
  | takes _ hreceived hhandle =>
    obtain ⟨inbox, -, rfl⟩ := receiveString_eq_some.mp hreceived
    have hnone := handle_untold hhandle nofun
    exact .inl ⟨hnone, (handle_same hhandle).2.2.1⟩
  | @tics _ currentTic _ _ _ ops hpoint hfed hhandle =>
    refine .inr ⟨currentTic, hpoint, ?_, rfl⟩
    rw [told_append, agentFed_untold hfed, List.nil_append]
    have htells := handle_tells hhandle
    generalize told ops = states at htells ⊢
    cases htells <;> simp

-- ---------------------------------------------------------------------------
-- The rate of the tics
-- ---------------------------------------------------------------------------

structure Waited (ticDuration : Int) (server : Server zmq) : Prop where
  interval : server.ticDuration = ticDuration
  due : ∀ currentTic, server.point = .ticking currentTic →
    server.previousTic.val + ticDuration ≤ currentTic.val

theorem waited_of_point {ticDuration : Int} (hinterval : server'.ticDuration = ticDuration)
    (hpoint : ∀ currentTic, server'.point ≠ .ticking currentTic) : Waited ticDuration server' :=
  ⟨hinterval, fun currentTic htics => absurd htics (hpoint currentTic)⟩

theorem waited_advance {ticDuration : Int} (hwaited : Waited ticDuration server)
    (h : server.advance env input = .ok (server', ops)) : Waited ticDuration server' := by
  have hinterval := hwaited.interval
  cases advances_of_advance h with
  | arrives | rests => exact ⟨hinterval, hwaited.due⟩
  | signal hhandle =>
    obtain ⟨-, hpoint, hprevious, hduration⟩ := handle_same hhandle
    refine ⟨hduration.trans hinterval, fun currentTic htics => ?_⟩
    rw [hprevious]
    exact hwaited.due currentTic (hpoint ▸ htics)
  | starts | ends | breaks | misses | idles => exact waited_of_point hinterval nofun
  | enters _ _ hfed => exact waited_of_point ((agentFed_same hfed).2.2.2.trans hinterval) nofun
  | polls _ _ hhandle _ => exact waited_of_point ((handle_same hhandle).2.2.2.trans hinterval) nofun
  | takes _ hreceived hhandle =>
    obtain ⟨inbox, -, rfl⟩ := receiveString_eq_some.mp hreceived
    exact waited_of_point ((handle_same hhandle).2.2.2.trans hinterval) nofun
  | @due localTime server₁ _ _ _ hhandle hdue =>
    obtain ⟨-, -, hprevious, hduration⟩ := handle_same hhandle
    refine ⟨hduration.trans hinterval, fun currentTic htics => ?_⟩
    cases htics
    show (server₁.previousTic.val : Int) + ticDuration ≤ localTime.val
    rw [hprevious, ← hinterval]
    linarith
  | tics _ hfed hhandle =>
    have hduration := (handle_same hhandle).2.2.2.trans (agentFed_same hfed).2.2.2
    exact waited_of_point (hduration.trans hinterval) nofun

theorem told_interval {ticDuration : Int} (hinterval : 0 ≤ ticDuration)
    (hwaited : Waited ticDuration server) (h : server.advance env input = .ok (server', ops)) :
    (told ops).length * ticDuration + -(server'.previousTic.val : Int) ≤
      -(server.previousTic.val : Int) := by
  rcases told_advance h with ⟨hnone, hprevious⟩ | ⟨currentTic, hpoint, hone, hprevious⟩
  · rw [hnone, hprevious]
    simp
  · have hdue := hwaited.due currentTic hpoint
    have hcost : ((told ops).length : Int) * ticDuration ≤ 1 * ticDuration := by
      gcongr
      exact_mod_cast hone
    rw [hprevious]
    linarith

end Server

-- ---------------------------------------------------------------------------
-- Runs
-- ---------------------------------------------------------------------------

variable {zmq : Zmq} {env : AgentExternals} {server : Server zmq} {proxy : AgentProxy}
  {ticDuration : Int} {previousTic : Instant} {inputs : List LoopInput}
  {opss : List (List SocketOp)}

theorem Server.waited_run (hrun : Lib.run (Server.advance env)
      (Server.launch zmq proxy ticDuration previousTic) inputs = .ok (server, opss)) :
    Server.Waited ticDuration server :=
  Lib.run_invariant (Server.Waited ticDuration)
    (fun _ _ _ _ _ hwaited => Server.waited_advance hwaited)
    (Server.waited_of_point rfl fun _ htics => by cases htics) hrun

theorem spent_told {inputs : List LoopInput} {opss : List (List SocketOp)} (ticDuration : Int)
    (hlength : inputs.length = opss.length) :
    Lib.spent (fun _ ops => ((told ops).length : Int) * ticDuration) inputs opss =
      (told opss.flatten).length * ticDuration := by
  refine Lib.spent_flatten (by simp) (fun ops ops' => ?_) hlength
  rw [told_append, List.length_append]
  push_cast
  ring

/-- From any state of the loop on, `n` broadcasts take at least `n` intervals
by the times of the tics. -/
theorem broadcasts_take_intervals (zmq : Zmq) (env : AgentExternals) (proxy : AgentProxy)
    (ticDuration : Int) (hinterval : 0 ≤ ticDuration) (previousTic : Instant)
    (inputs : List LoopInput) (server : Server zmq) (opss : List (List SocketOp))
    (hrun : Lib.run (Server.advance env) (Server.launch zmq proxy ticDuration previousTic) inputs =
      .ok (server, opss)) (later : List LoopInput) (server' : Server zmq)
    (opss' : List (List SocketOp))
    (hlater : Lib.run (Server.advance env) server later = .ok (server', opss')) :
    (told opss'.flatten).length * ticDuration ≤
      (server'.previousTic.val : Int) - server.previousTic.val := by
  obtain ⟨-, hspent⟩ := Lib.spent_le (Server.Waited ticDuration) (fun _ => True)
    (fun server => -(server.previousTic.val : Int))
    (fun _ ops => ((told ops).length : Int) * ticDuration) (fun _ _ _ _ _ _ => trivial)
    (fun _ _ _ _ hwaited _ hstep =>
      ⟨Server.waited_advance hwaited hstep, Server.told_interval hinterval hwaited hstep⟩)
    (Server.waited_run hrun) trivial hlater
  rw [spent_told ticDuration (Lib.run_length hlater)] at hspent
  omega

def startThenTics : List LoopInput :=
  [.arrives .agentSocket 0 "start game".toList, .turn 0, .turn 0, .turn 1500, .turn 1500,
    .turn 3000, .turn 3000]

theorem broadcasts_take_intervals_two :
    ∃ server' opss',
      Lib.run (Server.advance .plain)
        (Server.launch .fifo (AgentProxy.launch [] 2000000 oneTeam) 1000 0) startThenTics =
          .ok (server', opss') ∧
      (told opss'.flatten).length = 2 ∧
      (told opss'.flatten).length * 1000 ≤ (server'.previousTic.val : Int) - (0 : Instant).val :=
  ⟨_, _, rfl, rfl, broadcasts_take_intervals .fifo .plain (AgentProxy.launch [] 2000000 oneTeam)
    1000 (by decide) 0 [] _ _ rfl startThenTics _ _ rfl⟩

-- ---------------------------------------------------------------------------
-- The rate of the commands
-- ---------------------------------------------------------------------------

def excess (ops : List SocketOp) : Int :=
  (received .agentSocket ops).length -
    ((received .puller ops).length + (received .replier ops).length)

theorem excess_nil : excess [] = 0 := rfl

theorem excess_append (ops ops' : List SocketOp) :
    excess (ops ++ ops') = excess ops + excess ops' := by
  simp only [excess, received_append, List.length_append]
  push_cast
  ring

namespace Server

variable {server' : Server zmq} {ops : List SocketOp} {event : Event} {input : LoopInput}
  {localTime : Instant}

/-- How many commands the loop looks for before the next message or tic. -/
def commandsAhead (server : Server zmq) : Nat :=
  match server.point with
  | .starting | .entering => 1
  | _ => 0

theorem handle_excess (h : server.handle env event = .ok (server', ops)) : excess ops = 0 := by
  simp [excess, received_handle _ h]

theorem agentFed_excess (h : AgentFed env localTime server server' ops) : excess ops ≤ 1 := by
  cases h with
  | nothing _ => decide
  | command _ _ _ _ => exact le_rfl

theorem takes_excess (channel : Channel) {messageData : Str}
    (h : server.handle env event = .ok (server', ops)) :
    excess (.received channel.socket messageData :: ops) = -1 := by
  have hone : excess [.received channel.socket messageData] = -1 := by cases channel <;> rfl
  rw [← List.singleton_append, excess_append, hone, handle_excess h, add_zero]

/-- A command that comes before a message is paid for by the message, one that
comes with a tic by the interval. -/
theorem excess_interval (hinterval : 0 ≤ ticDuration) (hwaited : Waited ticDuration server)
    (hforced : server'.forcedStop = false) (h : server.advance env input = .ok (server', ops)) :
    excess ops * ticDuration + (commandsAhead server' * ticDuration - server'.previousTic.val) ≤
      commandsAhead server * ticDuration - server.previousTic.val := by
  cases advances_of_advance h with
  | arrives => simp [excess_nil, commandsAhead, arrive, setInbox]
  | rests => simp [excess_nil]
  | signal hhandle =>
    obtain ⟨-, hpoint, hprevious, -⟩ := handle_same hhandle
    simp [handle_excess hhandle, commandsAhead, hpoint, hprevious]
  | starts _ hpoint | misses _ hpoint _ | idles _ hpoint =>
    simp [excess_nil, commandsAhead, hpoint]
  | ends _ hpoint _ => simp [excess_nil, commandsAhead, hpoint, hinterval]
  | breaks _ _ hstop => cases hstop.symm.trans hforced
  | enters hpoint _ hfed =>
    have hcost : excess ops * ticDuration ≤ 1 * ticDuration := by
      gcongr
      exact agentFed_excess hfed
    simp only [commandsAhead, hpoint, (agentFed_same hfed).2.2.1, Nat.cast_zero, Nat.cast_one]
    linarith
  | polls hpoint _ hhandle _ | due hpoint _ hhandle _ =>
    simp [handle_excess hhandle, commandsAhead, hpoint, (handle_same hhandle).2.2.1]
  | takes hpoint hreceived hhandle =>
    obtain ⟨inbox, -, rfl⟩ := receiveString_eq_some.mp hreceived
    have hprevious := (handle_same hhandle).2.2.1
    simp [takes_excess _ hhandle, commandsAhead, hpoint, hprevious]
  | @tics _ currentTic _ _ fed ops hpoint hfed hhandle =>
    have hdue := hwaited.due currentTic hpoint
    have hcost : excess fed * ticDuration ≤ 1 * ticDuration := by
      gcongr
      exact agentFed_excess hfed
    rw [excess_append, handle_excess hhandle, add_zero]
    simp only [commandsAhead, hpoint]
    linarith

end Server

/-- From any state of the loop on and until it is stopped, commands take
intervals: there is one more of them at most than messages on the channels and
intervals that have gone by, by the times of the tics. -/
theorem commands_take_intervals (zmq : Zmq) (env : AgentExternals) (proxy : AgentProxy)
    (ticDuration : Int) (hinterval : 0 ≤ ticDuration) (previousTic : Instant)
    (inputs : List LoopInput) (server : Server zmq) (opss : List (List SocketOp))
    (hrun : Lib.run (Server.advance env) (Server.launch zmq proxy ticDuration previousTic) inputs =
      .ok (server, opss)) (later : List LoopInput) (server' : Server zmq)
    (opss' : List (List SocketOp))
    (hlater : Lib.run (Server.advance env) server later = .ok (server', opss'))
    (hforced : server'.forcedStop = false) :
    (received .agentSocket opss'.flatten).length * ticDuration ≤
      ((received .puller opss'.flatten).length + (received .replier opss'.flatten).length + 1) *
          ticDuration +
        ((server'.previousTic.val : Int) - server.previousTic.val) := by
  obtain ⟨-, hspent⟩ := Lib.spent_le (Server.Waited ticDuration)
    (fun state => state.forcedStop = false)
    (fun state => Server.commandsAhead state * ticDuration - (state.previousTic.val : Int))
    (fun _ ops => excess ops * ticDuration)
    (fun _ _ _ _ hstep hfree => Server.forcedStop_advance hstep hfree)
    (fun _ _ _ _ hwaited hfree hstep =>
      ⟨Server.waited_advance hwaited hstep, Server.excess_interval hinterval hwaited hfree hstep⟩)
    (Server.waited_run hrun) hforced hlater
  rw [Lib.spent_flatten (by simp [excess_nil])
    (fun ops ops' => by rw [excess_append, add_mul]) (Lib.run_length hlater)] at hspent
  have hone : (Server.commandsAhead server : Int) * ticDuration ≤ 1 * ticDuration := by
    gcongr
    unfold Server.commandsAhead
    split <;> decide
  have hnonneg : 0 ≤ (Server.commandsAhead server' : Int) * ticDuration := by positivity
  unfold excess at hspent
  linarith

def threeCommands : List LoopInput :=
  List.replicate 3 (.arrives .agentSocket 0 "list team".toList) ++
    [.turn 0, .turn 0, .turn 1000, .turn 1000, .turn 2000, .turn 2000]

theorem commands_take_intervals_three :
    ∃ server' opss',
      Lib.run (Server.advance .plain) (Server.launch .fifo (AgentProxy.launch [] 0 oneTeam) 1000 0)
        threeCommands = .ok (server', opss') ∧
      (received .agentSocket opss'.flatten).length = 3 ∧
      (received .agentSocket opss'.flatten).length * 1000 ≤
        ((received .puller opss'.flatten).length + (received .replier opss'.flatten).length + 1) *
            1000 + ((server'.previousTic.val : Int) - (0 : Instant).val) :=
  ⟨_, _, rfl, rfl, commands_take_intervals .fifo .plain (AgentProxy.launch [] 0 oneTeam) 1000
    (by decide) 0 [] _ _ rfl threeCommands _ _ rfl rfl⟩

-- ---------------------------------------------------------------------------
-- The way to a tic
-- ---------------------------------------------------------------------------

namespace Server

variable {server' : Server zmq} {ops : List SocketOp} {input : LoopInput} {first : Channel}

def turnsToTic (server : Server zmq) : Nat :=
  match server.point with
  | .starting => 4
  | .entering => 3
  | .looping => 2
  | .polling left => left.length + 3
  | .ticking _ => 1
  | .ended => 0

/-- With a tic due, a turn takes it, a command first, or comes closer to it. -/
theorem turnsToTic_advance (hgoing : Going server) (hforced : server'.forcedStop = false)
    (hdue : ∀ time, input = .turn time →
      (server.previousTic.val : Int) + server.ticDuration ≤ time.val)
    (h : server.advance env input = .ok (server', ops)) :
    (∃ currentTic, server.point = .ticking currentTic ∧ server'.previousTic = currentTic) ∨
      server'.previousTic = server.previousTic ∧
        input.turns + turnsToTic server' ≤ turnsToTic server := by
  have hgoes := hgoing (forcedStop_advance h hforced)
  cases advances_of_advance h with
  | arrives => exact .inr ⟨rfl, le_of_eq (Nat.zero_add _)⟩
  | signal hhandle =>
    obtain ⟨-, hpoint, hprevious, -⟩ := handle_same hhandle
    exact .inr ⟨hprevious, by simp [turnsToTic, hpoint]⟩
  | starts _ hpoint => exact .inr ⟨rfl, by simp [turnsToTic, hpoint]⟩
  | ends _ hpoint hrunning => simp [hpoint, hrunning] at hgoes
  | rests _ hpoint => simp [hpoint] at hgoes
  | breaks _ _ hstop => cases hstop.symm.trans hforced
  | enters hpoint _ hfed =>
    exact .inr ⟨(agentFed_same hfed).2.2.1, by simp [turnsToTic, hpoint]⟩
  | @polls localTime _ _ _ _ _ hearly =>
    have hlate := hdue localTime rfl
    omega
  | due hpoint _ hhandle _ =>
    exact .inr ⟨(handle_same hhandle).2.2.1, by simp [turnsToTic, hpoint]⟩
  | misses _ hpoint _ =>
    refine .inr ⟨rfl, ?_⟩
    simp only [LoopInput.turns_turn, turnsToTic, hpoint, List.length_cons]
    omega
  | takes hpoint hreceived hhandle =>
    obtain ⟨inbox, -, rfl⟩ := receiveString_eq_some.mp hreceived
    have hprevious := (handle_same hhandle).2.2.1
    refine .inr ⟨hprevious, ?_⟩
    simp only [LoopInput.turns_turn, turnsToTic, hpoint, List.length_cons]
    omega
  | idles _ hpoint => exact .inr ⟨rfl, by simp [turnsToTic, hpoint]⟩
  | @tics _ currentTic _ _ _ _ hpoint _ _ => exact .inl ⟨currentTic, hpoint, rfl⟩

theorem previousTic_le_run (hinterval : 0 ≤ ticDuration) (hwaited : Waited ticDuration server)
    {later : List LoopInput} {opss' : List (List SocketOp)}
    (hlater : Lib.run (advance env) server later = .ok (server', opss')) :
    server.previousTic ≤ server'.previousTic := by
  have hall : Waited ticDuration server' ∧ server.previousTic ≤ server'.previousTic :=
    Lib.run_invariant
      (fun state => Waited ticDuration state ∧ server.previousTic ≤ state.previousTic)
      (fun state _ state' _ _ ⟨hwaited, hle⟩ hstep => by
        refine ⟨waited_advance hwaited hstep, ?_⟩
        rcases told_advance hstep with ⟨-, hprevious⟩ | ⟨currentTic, hpoint, -, hprevious⟩
        · exact hprevious ▸ hle
        · have hdue := hwaited.due currentTic hpoint
          have hgoes : state.previousTic ≤ currentTic := by
            show state.previousTic.val ≤ currentTic.val
            omega
          exact hprevious ▸ hle.trans hgoes)
      ⟨hwaited, le_rfl⟩ hlater
  exact hall.2

theorem forcedStop_run {later : List LoopInput} {opss' : List (List SocketOp)}
    (hlater : Lib.run (advance env) server later = .ok (server', opss'))
    (hforced : server'.forcedStop = false) : server.forcedStop = false := by
  induction later generalizing server opss' with
  | nil =>
    cases Lib.run_nil.mp hlater
    exact hforced
  | cons input later ih =>
    obtain ⟨server₁, ops, opss₁, hstep, hrest, -⟩ := Lib.run_cons.mp hlater
    exact forcedStop_advance hstep (ih hrest)

theorem Polls.turnsToTic_le (h : Polls first server) : turnsToTic server ≤ 5 := by
  unfold turnsToTic
  split
  case h_4 left hpoint => rcases h.left left hpoint with rfl | rfl | rfl <;> simp
  all_goals decide

theorem turnsToTic_pos (hgoing : Going server) (hforced : server.forcedStop = false) :
    0 < turnsToTic server := by
  have hgoes := hgoing hforced
  unfold turnsToTic
  split <;> simp_all

theorem tic_taken (hinterval : 0 ≤ ticDuration) (hwaited : Waited ticDuration server)
    (hgoing : Going server) {later : List LoopInput} {opss' : List (List SocketOp)}
    (hlater : Lib.run (advance env) server later = .ok (server', opss'))
    (hforced : server'.forcedStop = false)
    (hdue : ∀ time, .turn time ∈ later →
      (server.previousTic.val : Int) + ticDuration ≤ time.val)
    (hturns : turnsToTic server ≤ later.countP LoopInput.isTurn) :
    (server.previousTic.val : Int) + ticDuration ≤ server'.previousTic.val := by
  induction later generalizing server opss' with
  | nil =>
    cases Lib.run_nil.mp hlater
    rw [List.countP_nil] at hturns
    have hpos := turnsToTic_pos hgoing hforced
    omega
  | cons input later ih =>
    obtain ⟨server₁, ops, opss₁, hstep, hrest, -⟩ := Lib.run_cons.mp hlater
    have hforced₁ := forcedStop_run hrest hforced
    have hwaited₁ := waited_advance hwaited hstep
    have hgoing₁ := going_advance hgoing hstep
    rcases turnsToTic_advance hgoing hforced₁ (fun time htime => by
        rw [hwaited.interval]
        exact hdue time (htime ▸ List.mem_cons_self)) hstep with
      ⟨currentTic, hpoint, hprevious⟩ | ⟨hprevious, hcloser⟩
    · have htic := hwaited.due currentTic hpoint
      have hlast := previousTic_le_run hinterval hwaited₁ hrest
      have hlast' : server₁.previousTic.val ≤ server'.previousTic.val := hlast
      rw [hprevious] at hlast'
      omega
    · rw [← hprevious] at hdue ⊢
      refine ih hwaited₁ hgoing₁ hrest
        (fun time hmem => hdue time (List.mem_cons_of_mem _ hmem)) ?_
      rw [List.countP_cons] at hturns
      unfold LoopInput.turns at hcloser
      omega

-- ---------------------------------------------------------------------------
-- The way to a command
-- ---------------------------------------------------------------------------

def FindsTicDue (server : Server zmq) : LoopInput → Prop
  | .turn localTime => server.point = .looping →
      server.ticDuration ≤ (localTime.val : Int) - server.previousTic.val
  | .arrives .. | .signal => True

instance : Decidable (FindsTicDue server input) :=
  match input with
  | .turn _ => inferInstanceAs (Decidable (_ → _))
  | .arrives .. | .signal => inferInstanceAs (Decidable True)

def turnsToCommand (server : Server zmq) : Nat :=
  match server.point with
  | .starting | .looping => 1
  | .polling left => left.length + 2
  | .entering | .ticking _ | .ended => 0

theorem turnsToCommand_advance (hwaits : Waits .agentSocket server) (hgoing : Going server)
    (hforced : server'.forcedStop = false) (hdue : FindsTicDue server input)
    (h : server.advance env input = .ok (server', ops)) :
    input.turns + turnsToCommand server' ≤
      turnsToCommand server + 2 * (received .agentSocket ops).length := by
  have hgoes := hgoing (forcedStop_advance h hforced)
  have hidle (hle : input.turns + turnsToCommand server' ≤ turnsToCommand server) :
      input.turns + turnsToCommand server' ≤
        turnsToCommand server + 2 * (received .agentSocket ops).length := by
    omega
  cases advances_of_advance h with
  | arrives => exact le_of_eq (Nat.zero_add _)
  | signal hhandle =>
    exact hidle (by simp [turnsToCommand,
      (handle_same hhandle).2.1])
  | starts _ hpoint | due hpoint _ _ _ | idles _ hpoint | takes hpoint _ _ =>
    exact hidle (by simp [turnsToCommand, hpoint])
  | misses _ hpoint _ =>
    refine hidle ?_
    simp only [LoopInput.turns_turn, turnsToCommand, hpoint, List.length_cons]
    omega
  | ends _ hpoint hrunning => simp [hpoint, hrunning] at hgoes
  | rests _ hpoint => simp [hpoint] at hgoes
  | breaks _ _ hstop => cases hstop.symm.trans hforced
  | enters hpoint _ hfed =>
    rw [received_socket_agentFed hwaits hfed]
    simp [turnsToCommand, hpoint]
  | polls hpoint _ _ hearly =>
    have hlate := hdue hpoint
    omega
  | tics hpoint hfed hhandle =>
    rw [received_append, received_handle _ hhandle, List.append_nil,
      received_socket_agentFed hwaits hfed]
    simp [turnsToCommand, hpoint]

theorem Polls.turnsToCommand_le (h : Polls first server) : turnsToCommand server ≤ 4 := by
  unfold turnsToCommand
  split
  case h_3 left hpoint => rcases h.left left hpoint with rfl | rfl | rfl <;> simp
  all_goals decide

end Server

/-- Messages and commands do not keep the server from its tics: whatever comes,
when five turns of the loop all find the next tic due, it is taken, unless the
application is stopped. -/
theorem tic_within_five_turns (zmq : Zmq) (env : AgentExternals) (proxy : AgentProxy)
    (ticDuration : Int) (hinterval : 0 ≤ ticDuration) (previousTic : Instant)
    (inputs : List LoopInput) (server : Server zmq) (opss : List (List SocketOp))
    (hrun : Lib.run (Server.advance env) (Server.launch zmq proxy ticDuration previousTic) inputs =
      .ok (server, opss)) (later : List LoopInput) (server' : Server zmq)
    (opss' : List (List SocketOp))
    (hlater : Lib.run (Server.advance env) server later = .ok (server', opss'))
    (hforced : server'.forcedStop = false)
    (hdue : ∀ time, .turn time ∈ later →
      (server.previousTic.val : Int) + ticDuration ≤ time.val)
    (hturns : 5 ≤ later.countP LoopInput.isTurn) :
    (server.previousTic.val : Int) + ticDuration ≤ server'.previousTic.val := by
  obtain ⟨first, hpolls⟩ := Server.polls_run hrun
  exact Server.tic_taken hinterval (Server.waited_run hrun) (Server.going_run hrun) hlater hforced
    hdue (hpolls.turnsToTic_le.trans hturns)

def duringThePoll : List LoopInput := [.turn 0, .turn 1, .turn 2]

def hellosWhenDue : List LoopInput :=
  [.arrives .puller 0 "p Ping ".toList, .arrives .replier 0 "c Hello ".toList,
    .turn 1000, .turn 1000, .turn 1000, .turn 1001, .turn 1002]

theorem hellosWhenDue_late (time : Instant) (htime : .turn time ∈ hellosWhenDue) :
    ((0 : Instant).val : Int) + 1000 ≤ time.val := by
  simp only [hellosWhenDue, List.mem_cons, reduceCtorEq, LoopInput.turn.injEq,
    List.not_mem_nil, or_false, false_or] at htime
  rcases htime with rfl | rfl | rfl | rfl | rfl <;> decide

theorem tic_within_five_turns_hellos :
    ∃ server opss server' opss',
      Lib.run (Server.advance .plain) (Server.launch .fifo (AgentProxy.launch [] 0 oneTeam) 1000 0)
        duringThePoll = .ok (server, opss) ∧
      Lib.run (Server.advance .plain) server hellosWhenDue = .ok (server', opss') ∧
      server.point = .polling [.publish, .reply] ∧
      (server.previousTic.val : Int) + 1000 ≤ server'.previousTic.val :=
  ⟨_, _, _, _, rfl, rfl, rfl, tic_within_five_turns .fifo .plain (AgentProxy.launch [] 0 oneTeam)
    1000 (by decide) 0 duringThePoll _ _ rfl hellosWhenDue _ _ rfl rfl
    hellosWhenDue_late (by decide)⟩

/-- Messages do not keep the server from its agent either: whatever comes, of the
commands that wait the first one is received within five turns of the loop and
each further one within two more, as long as every look at the clock finds a tic
due and the application is not stopped. -/
theorem commands_within_turns (zmq : Zmq) (env : AgentExternals) (proxy : AgentProxy)
    (ticDuration : Int) (previousTic : Instant) (inputs : List LoopInput) (server : Server zmq)
    (opss : List (List SocketOp))
    (hrun : Lib.run (Server.advance env) (Server.launch zmq proxy ticDuration previousTic) inputs =
      .ok (server, opss)) (count : Nat) (hwaits : count ≤ (server.waiting .agentSocket).card)
    (later : List LoopInput) (server' : Server zmq) (opss' : List (List SocketOp))
    (hlater : Lib.run (Server.advance env) server later = .ok (server', opss'))
    (hdue : Lib.AllSteps (Server.advance env) server later Server.FindsTicDue)
    (hforced : server'.forcedStop = false)
    (hturns : 2 * count + 3 ≤ later.countP LoopInput.isTurn) :
    count ≤ (received .agentSocket opss'.flatten).length := by
  by_contra hfew
  obtain ⟨first, hpolls⟩ := Server.polls_run hrun
  have hleft : Lib.spent (fun _ ops => (received .agentSocket ops).length) later opss' <
      (server.waiting .agentSocket).card := by
    rw [spent_received (Lib.run_length hlater)]
    omega
  obtain ⟨-, hspent⟩ := Lib.spent_le_of_stock
    (fun server : Server zmq => server.Going ∧ server.owesReply .agentSocket = false)
    (fun server => server.forcedStop = false) Server.FindsTicDue
    (fun server => (server.waiting .agentSocket).card)
    (fun _ ops => (received .agentSocket ops).length)
    (fun server => (Server.turnsToCommand server : Int))
    (fun input ops => (input.turns : Int) + -(2 * (received .agentSocket ops).length))
    (fun _ _ _ _ hstep hfree => Server.forcedStop_advance hstep hfree)
    (fun _ _ _ _ hstep => Server.card_waiting_advance hstep)
    (fun _ _ _ _ ⟨hgoing, hfree⟩ hdue hleft hforced hstep => by
      have hcost :=
        Server.turnsToCommand_advance (.of_lt hfree hleft) hgoing hforced hdue hstep
      exact ⟨⟨Server.going_advance hgoing hstep, Server.agentFree_advance hstep hfree⟩, by omega⟩)
    ⟨Server.going_run hrun, Server.free_run hrun nofun⟩ hforced hdue hleft hlater
  rw [spent_turns_received _ _ (Lib.run_length hlater)] at hspent
  have hfour := hpolls.turnsToCommand_le
  omega

def commandsDuringThePoll : List LoopInput :=
  duringThePoll ++ [.arrives .agentSocket 0 "list team".toList,
    .arrives .agentSocket 0 "list team".toList]

def hellosWhenTicsAreDue : List LoopInput :=
  [.arrives .puller 0 "p Ping ".toList, .arrives .replier 0 "c Hello ".toList,
    .turn 1000, .turn 1000, .turn 1000, .turn 1001, .turn 2000, .turn 2001, .turn 3000]

theorem commands_within_turns_hellos :
    ∃ server opss server' opss',
      Lib.run (Server.advance .plain) (Server.launch .fifo (AgentProxy.launch [] 0 oneTeam) 1000 0)
        commandsDuringThePoll = .ok (server, opss) ∧
      Lib.run (Server.advance .plain) server hellosWhenTicsAreDue = .ok (server', opss') ∧
      server.point = .polling [.publish, .reply] ∧
      2 ≤ (received .agentSocket opss'.flatten).length :=
  ⟨_, _, _, _, rfl, rfl, rfl, commands_within_turns .fifo .plain (AgentProxy.launch [] 0 oneTeam)
    1000 0 commandsDuringThePoll _ _ rfl 2 (by decide) hellosWhenTicsAreDue _ _ rfl
    (Lib.allSteps_of_along rfl) rfl (by decide)⟩

-- ---------------------------------------------------------------------------
-- Readings of the clock
-- ---------------------------------------------------------------------------

def LoopInput.reading : LoopInput → Option Instant
  | .turn localTime => some localTime
  | _ => none

def readings (inputs : List LoopInput) : List Instant := inputs.filterMap LoopInput.reading

/-- The clock does not go back, from the first tic on. -/
def ClockGoesOn (previousTic : Instant) (inputs : List LoopInput) : Prop :=
  (previousTic :: readings inputs).Pairwise (· ≤ ·)

/-- What steps under a condition keep about the last reading, the state and
all that was done, holds after every run whose clock does not go back. -/
theorem run_clocked {P : Instant → Server zmq → List SocketOp → Prop}
    {C : Server zmq → LoopInput → Prop}
    (hstart : P previousTic (Server.launch zmq proxy ticDuration previousTic) [])
    (hstep : ∀ now server done input server' ops, P now server done → C server input →
      input ∈ inputs → (∀ time, input = .turn time → now ≤ time) →
      Server.advance env server input = .ok (server', ops) →
      P (input.reading.getD now) server' (done ++ ops))
    (hclock : ClockGoesOn previousTic inputs)
    (hsteps : Lib.AllSteps (Server.advance env) (Server.launch zmq proxy ticDuration previousTic)
      inputs C)
    (hrun : Lib.run (Server.advance env) (Server.launch zmq proxy ticDuration previousTic) inputs =
      .ok (server, opss)) :
    P ((readings inputs).getLastD previousTic) server opss.flatten := by
  induction inputs using List.reverseRecOn generalizing server opss with
  | nil =>
    cases Lib.run_nil.mp hrun
    exact hstart
  | append_singleton inputs input ih =>
    obtain ⟨server₁, opss₁, ops, hrun₁, hinput, rfl⟩ := Lib.run_snoc.mp hrun
    have hreadings : readings (inputs ++ [input]) = readings inputs ++ input.reading.toList := by
      rw [readings, List.filterMap_append]
      cases hreading : input.reading <;> simp [readings, hreading]
    rw [ClockGoesOn, hreadings, ← List.cons_append, List.pairwise_append] at hclock
    have hsteps₁ : Lib.AllSteps (Server.advance env)
        (Server.launch zmq proxy ticDuration previousTic) inputs C :=
      fun pre input' post s os heq => hsteps pre input' (post ++ [input]) s os (by simp [heq])
    have hbefore := ih (fun now server done input' server' ops hP hC hmem =>
        hstep now server done input' server' ops hP hC (List.mem_append_left _ hmem))
      hclock.1 hsteps₁ hrun₁
    have hnext := hstep _ _ _ input server ops hbefore
      (hsteps inputs input [] server₁ opss₁ rfl hrun₁) (by simp) ?_ hinput
    · rw [hreadings, List.flatten_append, List.flatten_singleton]
      cases hreading : input.reading with
      | none => simpa [hreading] using hnext
      | some time => simpa [hreading] using hnext
    · rintro time rfl
      exact hclock.2.2 _ List.getLastD_mem_cons time (by simp [LoopInput.reading])

-- ---------------------------------------------------------------------------
-- Without an interval
-- ---------------------------------------------------------------------------

namespace Server

structure OnlyTics (now : Instant) (server : Server zmq) : Prop where
  previous : server.previousTic ≤ now
  current : ∀ currentTic, server.point = .ticking currentTic → currentTic ≤ now
  noPoll : ∀ left, server.point ≠ .polling left
  interval : server.ticDuration ≤ 0

theorem onlyTics_of_point {now : Instant} {server : Server zmq}
    (hprevious : server.previousTic ≤ now) (hinterval : server.ticDuration ≤ 0)
    (hpoint : ∀ left, server.point ≠ .polling left)
    (htics : ∀ currentTic, server.point ≠ .ticking currentTic) : OnlyTics now server :=
  ⟨hprevious, fun currentTic h => absurd h (htics currentTic), hpoint, hinterval⟩

theorem onlyTics_advance {now : Instant} {server server' : Server zmq} {input : LoopInput}
    {ops : List SocketOp} (h : OnlyTics now server)
    (hclock : ∀ time, input = .turn time → now ≤ time)
    (hstep : server.advance env input = .ok (server', ops)) (channel : Channel) :
    OnlyTics (input.reading.getD now) server' ∧ received channel.socket ops = [] := by
  have hlate {time : Instant} (hinput : input = .turn time) : server.previousTic ≤ time :=
    h.previous.trans (hclock time hinput)
  cases advances_of_advance hstep with
  | arrives => exact ⟨⟨h.previous, h.current, h.noPoll, h.interval⟩, rfl⟩
  | signal hhandle =>
    obtain ⟨-, hpoint, hprevious, hduration⟩ := handle_same hhandle
    refine ⟨⟨hprevious ▸ h.previous, ?_, hpoint ▸ h.noPoll, hduration ▸ h.interval⟩,
      received_handle _ hhandle⟩
    exact hpoint ▸ h.current
  | starts | ends | breaks => exact ⟨onlyTics_of_point (hlate rfl) h.interval nofun nofun, rfl⟩
  | enters _ _ hfed =>
    obtain ⟨-, -, hprevious, hduration⟩ := agentFed_same hfed
    have hprevious' := hprevious ▸ hlate rfl
    exact ⟨onlyTics_of_point hprevious' (hduration ▸ h.interval) nofun nofun,
      received_agentFed _ hfed⟩
  | @polls localTime _ _ _ _ _ hearly =>
    -- without an interval a tic is always due
    have hbehind : server.previousTic.val ≤ localTime.val := hlate rfl
    have hnone := h.interval
    omega
  | due _ _ hhandle _ =>
    obtain ⟨-, -, hprevious, hduration⟩ := handle_same hhandle
    refine ⟨⟨hprevious ▸ hlate rfl, fun currentTic htics => ?_, nofun, hduration ▸ h.interval⟩,
      received_handle _ hhandle⟩
    cases htics
    exact le_rfl
  | misses _ hpoint _ | idles _ hpoint => exact absurd hpoint (h.noPoll _)
  | takes hpoint _ _ => exact absurd hpoint (h.noPoll _)
  | @tics localTime currentTic _ _ _ _ hpoint hfed hhandle =>
    have hduration := (handle_same hhandle).2.2.2.trans (agentFed_same hfed).2.2.2
    refine ⟨onlyTics_of_point ((h.current currentTic hpoint).trans (hclock localTime rfl))
      (hduration ▸ h.interval) nofun nofun, ?_⟩
    rw [received_append, received_agentFed _ hfed, received_handle _ hhandle]
    rfl
  | rests localTime hpoint =>
    exact ⟨onlyTics_of_point (hlate rfl) h.interval h.noPoll (by simp [hpoint]), rfl⟩

end Server

/-- With no interval between the tics, which `CheckParametersConsistency`
accepts, and a clock that does not go back, the server never receives a
message, whatever comes. -/
theorem deaf_without_interval (zmq : Zmq) (env : AgentExternals) (proxy : AgentProxy)
    (ticDuration : Int) (hinterval : ticDuration ≤ 0) (previousTic : Instant)
    (inputs : List LoopInput) (hclock : ClockGoesOn previousTic inputs) (server : Server zmq)
    (opss : List (List SocketOp))
    (hrun : Lib.run (Server.advance env) (Server.launch zmq proxy ticDuration previousTic) inputs =
      .ok (server, opss)) (channel : Channel) :
    received channel.socket opss.flatten = [] := by
  have hrun' := run_clocked
    (P := fun now server done => Server.OnlyTics now server ∧ received channel.socket done = [])
    (C := fun _ _ => True) ⟨Server.onlyTics_of_point le_rfl hinterval nofun nofun, rfl⟩
    (fun now server done input server' ops ⟨honly, hnone⟩ _ _ hnow hstep => by
      obtain ⟨honly', hnone'⟩ := Server.onlyTics_advance honly hnow hstep channel
      exact ⟨honly', by rw [received_append, hnone, hnone']; rfl⟩)
    hclock (fun _ _ _ _ _ _ _ => trivial) hrun
  exact hrun'.2

theorem deaf_without_interval_hello :
    ∃ server opss,
      Lib.run (Server.advance .plain) (Server.launch .fifo (AgentProxy.launch [] 0 oneTeam) 0 0)
        agentThenHello = .ok (server, opss) ∧
      received Channel.reply.socket opss.flatten = [] :=
  ⟨_, _, rfl, deaf_without_interval .fifo .plain (AgentProxy.launch [] 0 oneTeam) 0 le_rfl 0
    agentThenHello (by unfold ClockGoesOn; decide) _ _ rfl .reply⟩

end ServerGame
