import ServerGame.Loop.Fairness

/-!
# Progress

As long as no tic is due and nobody stops the application, the messages that
wait at a channel are received, each within six turns of the one before.
-/

namespace ServerGame

open Lib (nextPermutation nextPermutation_pair)

namespace Server

variable {zmq : Zmq} {env : AgentExternals} {server server' : Server zmq} {ops : List SocketOp}
  {event : Event} {localTime : Instant} {input : LoopInput} {channel first : Channel}

-- ---------------------------------------------------------------------------
-- The flags
-- ---------------------------------------------------------------------------

inductive FlagsMove (server server' : Server zmq) : Prop
  | stops (hrunning : server.state = .running) (hstopped : server'.state = .stopped)
      (hmain : server'.mainLoopRunning = false) (hforced : server'.forcedStop = true)
  | keeps (hstate : ¬(server.state = .running ∧ server'.state = .stopped))
      (hmain : server'.mainLoopRunning = server.mainLoopRunning)
      (hforced : server'.forcedStop = server.forcedStop)

theorem flagsMove_setProxy {proxy : AgentProxy} : FlagsMove server (server.setProxy proxy) := by
  have hstate : (server.setProxy proxy).state = proxy.application.state := by
    rw [state, setProxy_agentProxy]
  rcases setProxy_flags with ⟨hrunning, hstopped, hmain, hforced⟩ | ⟨hnot, hmain, hforced⟩
  · exact .stops hrunning (hstate.trans hstopped) hmain hforced
  · exact .keeps (by rwa [hstate]) hmain hforced

theorem flagsMove_handle (h : server.handle env event = .ok (server', ops)) :
    FlagsMove server server' := by
  obtain ⟨application, output, hhandled⟩ := handled_of_handle h
  have hmove : FlagsMove server (server.setProxy { server.agentProxy with application }) :=
    flagsMove_setProxy
  obtain ⟨inbox, rfl, -⟩ := hhandled.result
  cases hmove with
  | stops hrunning hstopped hmain hforced => exact .stops hrunning hstopped hmain hforced
  | keeps hstate hmain hforced => exact .keeps hstate hmain hforced

theorem flagsMove_agentFed (h : AgentFed env localTime server server' ops) :
    FlagsMove server server' := by
  cases h with
  | nothing _ => exact .keeps (by rintro ⟨hrunning, hstopped⟩; simp [hrunning] at hstopped) rfl rfl
  | @command message received inbox stepped _ _ _ _ =>
    have hmove : FlagsMove (server.setInbox .agentSocket inbox)
      ((server.setInbox .agentSocket inbox).setProxy stepped.proxy) := flagsMove_setProxy
    cases hmove with
    | stops hrunning hstopped hmain hforced => exact .stops hrunning hstopped hmain hforced
    | keeps hstate hmain hforced => exact .keeps hstate hmain hforced

theorem FlagsMove.forcedStop (h : FlagsMove server server') (hgoing : server'.forcedStop = false) :
    server.forcedStop = false := by
  cases h with
  | stops _ _ _ hforced => cases hforced.symm.trans hgoing
  | keeps _ _ hforced => exact hforced.symm.trans hgoing

/-- Without a stop the loop has not started yet or goes on. -/
def Going (server : Server zmq) : Prop :=
  server.forcedStop = false →
    server.point = .starting ∨ server.mainLoopRunning = true ∧ server.point ≠ .ended

theorem FlagsMove.mainLoopRunning (h : FlagsMove server server')
    (hgoing : server'.forcedStop = false) : server'.mainLoopRunning = server.mainLoopRunning := by
  cases h with
  | stops _ _ _ hforced => cases hforced.symm.trans hgoing
  | keeps _ hmain _ => exact hmain

theorem forcedStop_advance (h : server.advance env input = .ok (server', ops))
    (hgoing : server'.forcedStop = false) : server.forcedStop = false := by
  cases advances_of_advance h with
  | arrives | starts | ends | breaks | misses | idles | rests => exact hgoing
  | signal hhandle | polls _ _ hhandle _ | due _ _ hhandle _ =>
    have hforced := (flagsMove_handle hhandle).forcedStop hgoing
    exact hforced
  | takes _ hreceived hhandle =>
    obtain ⟨inbox, -, rfl⟩ := receiveString_eq_some.mp hreceived
    have hforced := (flagsMove_handle hhandle).forcedStop hgoing
    exact hforced
  | enters _ _ hfed =>
    have hforced := (flagsMove_agentFed hfed).forcedStop hgoing
    exact hforced
  | tics _ hfed hhandle =>
    have hforced := (flagsMove_handle hhandle).forcedStop hgoing
    exact (flagsMove_agentFed hfed).forcedStop hforced

theorem going_of_point (hgoing : Going server) (hforced : server'.forcedStop = server.forcedStop)
    (hmain : server'.mainLoopRunning = server.mainLoopRunning) (hpoint : server.point ≠ .starting)
    (hended : server'.point ≠ .ended) : Going server' := by
  intro hfree
  rw [hforced] at hfree
  rw [hmain]
  exact .inr ⟨((hgoing hfree).resolve_left hpoint).1, hended⟩

theorem FlagsMove.going (h : FlagsMove server server') (hgoing : Going server)
    (hpoint : server.point ≠ .starting) (hended : server'.point ≠ .ended) : Going server' := by
  intro hfree
  rw [h.mainLoopRunning hfree]
  exact .inr ⟨((hgoing (h.forcedStop hfree)).resolve_left hpoint).1, hended⟩

theorem going_advance (hgoing : Going server) (h : server.advance env input = .ok (server', ops)) :
    Going server' := by
  cases advances_of_advance h with
  | arrives | rests => exact hgoing
  | signal hhandle =>
    intro hfree
    have hmove := flagsMove_handle hhandle
    rw [(handle_same hhandle).2.1, hmove.mainLoopRunning hfree]
    exact hgoing (hmove.forcedStop hfree)
  | starts => exact fun _ => .inr ⟨rfl, nofun⟩
  | ends _ hpoint hrunning =>
    intro hfree
    rcases hgoing hfree with hstarting | hrunning'
    · rw [hpoint] at hstarting
      cases hstarting
    · cases hrunning.symm.trans hrunning'.1
  | breaks _ hpoint _ | misses _ hpoint _ | idles _ hpoint =>
    exact going_of_point hgoing rfl rfl (by simp [hpoint]) nofun
  | polls hpoint _ hhandle _ | due hpoint _ hhandle _ =>
    have hgoes := (flagsMove_handle hhandle).going hgoing (by simp [hpoint])
      (by simp [(handle_same hhandle).2.1, hpoint])
    exact going_of_point hgoes rfl rfl (by simp [(handle_same hhandle).2.1, hpoint]) nofun
  | takes hpoint hreceived hhandle =>
    obtain ⟨inbox, -, rfl⟩ := receiveString_eq_some.mp hreceived
    have hgoes := (flagsMove_handle hhandle).going hgoing (by simp [hpoint])
      (by simp [(handle_same hhandle).2.1, hpoint])
    exact going_of_point hgoes rfl rfl (by simp [(handle_same hhandle).2.1, hpoint]) nofun
  | enters hpoint _ hfed =>
    have hgoes := (flagsMove_agentFed hfed).going hgoing (by simp [hpoint])
      (by simp [(agentFed_same hfed).2.1, hpoint])
    exact going_of_point hgoes rfl rfl (by simp [(agentFed_same hfed).2.1, hpoint]) nofun
  | tics hpoint hfed hhandle =>
    have hfed' := (flagsMove_agentFed hfed).going hgoing (by simp [hpoint])
      (by simp [(agentFed_same hfed).2.1, hpoint])
    have hgoes := (flagsMove_handle hhandle).going hfed'
      (by simp [(agentFed_same hfed).2.1, hpoint])
      (by simp [(handle_same hhandle).2.1, (agentFed_same hfed).2.1, hpoint])
    exact going_of_point hgoes rfl rfl
      (by simp [(handle_same hhandle).2.1, (agentFed_same hfed).2.1, hpoint]) nofun

-- ---------------------------------------------------------------------------
-- The way to a reception
-- ---------------------------------------------------------------------------

def turnsLeft (channel : Channel) (server : Server zmq) : Nat :=
  let isFirst := server.channels.head? = some channel
  match server.point with
  | .starting => if isFirst then 3 else 6
  | .entering | .ticking _ => if isFirst then 2 else 5
  | .looping => if isFirst then 1 else 4
  | .polling (next :: left) =>
    if next = channel then 0
    else if left = [channel] then 3
    else 6
  | .polling [] => if isFirst then 5 else 2
  | .ended => 0

theorem turnsLeft_le : turnsLeft channel server ≤ 6 := by
  unfold turnsLeft
  dsimp only
  repeat' split
  all_goals decide

def FindsNoTic (server : Server zmq) : LoopInput → Prop
  | .turn localTime => server.point = .looping →
      (localTime.val : Int) - server.previousTic.val < server.ticDuration
  | .arrives .. | .signal => True

instance : Decidable (FindsNoTic server input) :=
  match input with
  | .turn _ => inferInstanceAs (Decidable (_ → _))
  | .arrives .. | .signal => inferInstanceAs (Decidable True)

end Server

def LoopInput.isTurn : LoopInput → Bool
  | .turn _ => true
  | _ => false

def LoopInput.turns (input : LoopInput) : Nat := if input.isTurn then 1 else 0

@[simp] theorem LoopInput.turns_turn (localTime : Instant) : (LoopInput.turn localTime).turns = 1 :=
  rfl

@[simp] theorem LoopInput.turns_signal : LoopInput.signal.turns = 0 := rfl

namespace Server

theorem turnsLeft_advance (hpolls : Polls first server) (hwaits : Waits channel.socket server)
    (hgoing : Going server) (hforced : server'.forcedStop = false)
    (hearly : FindsNoTic server input) (h : server.advance env input = .ok (server', ops)) :
    input.turns + turnsLeft channel server' ≤
      turnsLeft channel server + 6 * (received channel.socket ops).length := by
  have hhead : server.channels.head? = some first := by rw [hpolls.channels]; rfl
  have hgoes := hgoing (forcedStop_advance h hforced)
  have hidle (hle : input.turns + turnsLeft channel server' ≤ turnsLeft channel server) :
      input.turns + turnsLeft channel server' ≤
        turnsLeft channel server + 6 * (received channel.socket ops).length := by
    omega
  cases advances_of_advance h with
  | arrives => exact le_of_eq (Nat.zero_add _)
  | signal hhandle =>
    obtain ⟨hchannels, hpoint, -, -⟩ := handle_same hhandle
    exact hidle (by simp [turnsLeft, hchannels, hpoint])
  | starts _ hpoint =>
    by_cases hfirst : server.channels.head? = some channel <;>
      simp [turnsLeft, hpoint, hfirst]
  | ends _ hpoint hrunning =>
    simp [hpoint, hrunning] at hgoes
  | rests _ hpoint => simp [hpoint] at hgoes
  | breaks _ _ hstop => cases hstop.symm.trans hforced
  | enters hpoint _ hfed =>
    refine hidle ?_
    by_cases hfirst : server.channels.head? = some channel <;>
      simp [turnsLeft, hpoint, (agentFed_same hfed).1, hfirst]
  | polls hpoint _ hhandle _ =>
    refine hidle ?_
    simp only [LoopInput.turns_turn, turnsLeft, hpoint, (handle_same hhandle).1,
      hpolls.channels]
    rcases channel.eq_or_other first with rfl | rfl
    · simp
    · simp [channel.other_ne]
  | @due localTime _ _ hpoint _ _ hdue =>
    have hnotDue := hearly hpoint
    omega
  | @misses _ tried left hpoint hnone =>
    obtain ⟨rfl, ⟨rfl, rfl⟩ | ⟨rfl, rfl⟩⟩ :=
      hpolls.next_or_before hpoint (hwaits.ne_of_receiveString hnone)
    · simp [turnsLeft, hpoint, channel.other_ne]
    · simp [turnsLeft, hpoint, hhead, first.other_ne]
  | @takes localTime tried left messageData received server₂ ops hpoint hreceived hhandle =>
    obtain ⟨inbox, -, rfl⟩ := receiveString_eq_some.mp hreceived
    have hswapped := hpolls.next (handle_same hhandle).1
    rw [received_takes _ _ hhandle]
    by_cases htried : tried = channel
    · subst htried
      -- the next poll tries the channel last, if it has been the first one
      have hfive : turnsLeft tried { server₂ with
          channels := nextPermutation Channel.lt server₂.channels, point := .entering } ≤ 5 := by
        unfold turnsLeft
        dsimp only
        split <;> decide
      simp only [LoopInput.turns_turn, if_true]
      omega
    · obtain ⟨rfl, ⟨rfl, rfl⟩ | ⟨rfl, rfl⟩⟩ := hpolls.next_or_before hpoint htried
      · simp [turnsLeft, hpoint, hswapped, channel.other_ne]
      · simp [turnsLeft, hpoint, hswapped, Channel.other_ne]
  | idles _ hpoint =>
    refine hidle ?_
    simp only [LoopInput.turns_turn, turnsLeft, hpoint, hpolls.channels,
      nextPermutation_pair]
    rcases channel.eq_or_other first with rfl | rfl
    · simp [first.other_ne]
    · simp [channel.other_ne]
  | tics hpoint hfed hhandle =>
    have hchannels := (handle_same hhandle).1.trans (agentFed_same hfed).1
    refine hidle ?_
    by_cases hfirst : server.channels.head? = some channel <;>
      simp [turnsLeft, hpoint, hchannels, hfirst]

end Server

-- ---------------------------------------------------------------------------
-- Runs
-- ---------------------------------------------------------------------------

variable {zmq : Zmq} {env : AgentExternals} {server : Server zmq}

theorem spent_turns {inputs : List LoopInput} {opss : List (List SocketOp)}
    (hlength : inputs.length = opss.length) :
    Lib.spent (fun input (_ : List SocketOp) => (input.turns : Int)) inputs opss =
      inputs.countP LoopInput.isTurn := by
  induction inputs generalizing opss with
  | nil =>
    cases List.length_eq_zero_iff.mp hlength.symm
    rfl
  | cons input inputs ih =>
    cases opss with
    | nil => cases hlength
    | cons ops opss =>
      rw [Lib.spent_cons, ih (by simpa using hlength), List.countP_cons, add_comm,
        LoopInput.turns, Nat.cast_add]

theorem spent_turns_received {inputs : List LoopInput} {opss : List (List SocketOp)}
    (socket : InSocket) (turns : Int) (hlength : inputs.length = opss.length) :
    Lib.spent (fun input ops => (input.turns : Int) + -(turns * (received socket ops).length))
        inputs opss =
      inputs.countP LoopInput.isTurn + -(turns * (received socket opss.flatten).length) := by
  rw [Lib.spent_add, spent_turns hlength, Lib.spent_flatten (by simp) (fun ops ops' => ?_) hlength]
  rw [received_append, List.length_append]
  push_cast
  ring

theorem Server.going_run {proxy : AgentProxy} {ticDuration : Int} {previousTic : Instant}
    {inputs : List LoopInput} {opss : List (List SocketOp)}
    (hrun : Lib.run (Server.advance env) (Server.launch zmq proxy ticDuration previousTic) inputs =
      .ok (server, opss)) : server.Going :=
  Lib.run_invariant Server.Going (fun _ _ _ _ _ hgoing => Server.going_advance hgoing)
    (fun _ => .inl rfl) hrun

/-- Whatever else comes, of the messages that wait at a channel the first one is
received within seven turns of the loop and each further one within six more, as
long as no look at the clock finds a tic due, the application is not stopped and
no request is left unanswered on the replier. -/
theorem messages_within_turns (zmq : Zmq) (env : AgentExternals) (proxy : AgentProxy)
    (ticDuration : Int) (previousTic : Instant) (inputs : List LoopInput) (server : Server zmq)
    (opss : List (List SocketOp))
    (hrun : Lib.run (Server.advance env) (Server.launch zmq proxy ticDuration previousTic) inputs =
      .ok (server, opss)) (channel : Channel) (count : Nat)
    (hwaits : count ≤ (server.waiting channel.socket).card) (later : List LoopInput)
    (server' : Server zmq) (opss' : List (List SocketOp))
    (hlater : Lib.run (Server.advance env) server later = .ok (server', opss'))
    (hearly : Lib.AllSteps (Server.advance env) server later Server.FindsNoTic)
    (hforced : server'.forcedStop = false)
    (hfree : channel = .reply → server'.owesReply .replier = false)
    (hturns : 6 * count + 1 ≤ later.countP LoopInput.isTurn) :
    count ≤ (received channel.socket opss'.flatten).length := by
  by_contra hfew
  obtain ⟨first, hpolls⟩ := Server.polls_run hrun
  have hleft : Lib.spent (fun _ ops => (received channel.socket ops).length) later opss' <
      (server.waiting channel.socket).card := by
    rw [spent_received (Lib.run_length hlater)]
    omega
  obtain ⟨-, hspent⟩ := Lib.spent_le_of_stock
    (fun server : Server zmq => (∃ first, Server.Polls first server) ∧ server.Going)
    (fun server => server.forcedStop = false ∧ server.owesReply channel.socket = false)
    Server.FindsNoTic (fun server => (server.waiting channel.socket).card)
    (fun _ ops => (received channel.socket ops).length)
    (fun server => (Server.turnsLeft channel server : Int))
    (fun input ops => (input.turns : Int) + -(6 * (received channel.socket ops).length))
    (fun _ _ _ _ hstep hlast =>
      ⟨Server.forcedStop_advance hstep hlast.1, Server.free_before hstep hlast.2⟩)
    (fun _ _ _ _ hstep => Server.card_waiting_advance hstep)
    (fun _ _ _ _ ⟨⟨_, hpolls⟩, hgoing⟩ hearly hleft ⟨hforced, hfree⟩ hstep => by
      have hwaits := Server.Waits.of_lt (Server.free_before hstep hfree) hleft
      have hcost := Server.turnsLeft_advance hpolls hwaits hgoing hforced hearly hstep
      exact ⟨⟨Server.polls_advance hpolls hstep, Server.going_advance hgoing hstep⟩, by omega⟩)
    ⟨⟨first, hpolls⟩, Server.going_run hrun⟩
    ⟨hforced, Server.channel_free hrun hlater hfree⟩ hearly hleft hlater
  rw [spent_turns_received _ _ (Lib.run_length hlater)] at hspent
  have hsix := @Server.turnsLeft_le zmq server channel
  omega

def sevenTurns : List LoopInput :=
  [.turn 4, .turn 5, .turn 6, .turn 7, .turn 8, .turn 9, .turn 10]

theorem messages_within_turns_pings :
    ∃ server opss server' opss',
      Lib.run (Server.advance .plain) (Server.launch .fifo (AgentProxy.launch [] 0 oneTeam) 1000 0)
        missedThenHellos = .ok (server, opss) ∧
      Lib.run (Server.advance .plain) server
        (sevenTurns ++ [.turn 11, .turn 12, .turn 13, .turn 14, .turn 15, .turn 16]) =
          .ok (server', opss') ∧
      2 ≤ (received Channel.publish.socket opss'.flatten).length :=
  ⟨_, _, _, _, rfl, rfl, messages_within_turns .fifo .plain (AgentProxy.launch [] 0 oneTeam) 1000 0
    missedThenHellos _ _ rfl .publish 2 (by decide)
    (sevenTurns ++ [.turn 11, .turn 12, .turn 13, .turn 14, .turn 15, .turn 16]) _ _ rfl
    (Lib.allSteps_of_along rfl) rfl nofun (by decide)⟩

end ServerGame
