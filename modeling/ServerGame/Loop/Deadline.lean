import ServerGame.TimeOut
import ServerGame.Loop.Tics

/-!
# The deadline of a game

`getSecondsLeft` finds the end of a game only when the time is read within a
second of it. The loop does that when it comes back to its clock in time: then
no game is stepped past its deadline, and no broadcast has a wrapped count.
-/

namespace ServerGame

variable {env : Externals} {app app' : Application} {event : Event} {output : Output}
  {game game' game'' : Game} {localTime : Instant}

-- ---------------------------------------------------------------------------
-- Games in time
-- ---------------------------------------------------------------------------

/-- If the game is running, its last tic was before the deadline and its time
is less than a second behind it. -/
def InTime (gameDuration : UInt32) (lastTic now : Instant) (game : Game) : Prop :=
  game.gameDuration = seconds gameDuration ∧ (game.isRunning = true → ∃ start time : Instant,
    game.startTime = .at start ∧ game.time = .at time ∧ start ≤ time ∧ start ≤ now ∧
    (lastTic ≤ start ∨ (lastTic.val : Int) < start.val + seconds gameDuration) ∧
    (time.val : Int) < start.val + seconds gameDuration + 1000000)

variable {gameDuration : UInt32} {lastTic now : Instant}

theorem seconds_nonneg (value : UInt32) : 0 ≤ seconds value := by
  unfold seconds
  positivity

theorem InTime.setTime (h : InTime gameDuration lastTic now game) (hnow : now ≤ localTime)
    (hprompt : game.isRunning = true → (localTime.val : Int) < lastTic.val + 1000000) :
    InTime gameDuration lastTic localTime (game.setTime (.at localTime)) := by
  refine ⟨h.1, fun hrunning => ?_⟩
  obtain ⟨start, time, hstart, -, -, hpast, hbefore, -⟩ := h.2 hrunning
  refine ⟨start, localTime, hstart, rfl, hpast.trans hnow, hpast.trans hnow, hbefore, ?_⟩
  have hnonneg := seconds_nonneg gameDuration
  have hsoon := hprompt hrunning
  rcases hbefore with hlast | hlast
  · have hlast' : lastTic.val ≤ start.val := hlast
    omega
  · omega

theorem InTime.move (h : InTime gameDuration lastTic now game) (hnow : now ≤ localTime)
    (hlast : lastTic ≤ now) (hmove : ClockMove localTime game game') :
    InTime gameDuration lastTic localTime game' := by
  cases hmove with
  | starts hstart htime hduration =>
    refine ⟨hduration.trans h.1, fun _ => ⟨localTime, localTime, hstart, htime, le_rfl, le_rfl,
      .inl (hlast.trans hnow), ?_⟩⟩
    have hnonneg := seconds_nonneg gameDuration
    omega
  | keeps hsame =>
    refine ⟨hsame.gameDuration.trans h.1, fun hrunning => ?_⟩
    obtain ⟨start, time, hstart, htime, hle, hpast, hrest⟩ := h.2 (hsame.isRunning hrunning)
    exact ⟨start, time, hsame.startTime.trans hstart, hsame.time.trans htime, hle,
      hpast.trans hnow, hrest⟩

theorem InTime.step {steps : List Game.ContactStep} {currentTic : Instant}
    (h : InTime gameDuration lastTic now game) (hstep : game.step = .ok (steps, game'))
    (htic : game.isRunning = true → ∀ start time, game.startTime = .at start →
      game.time = .at time → currentTic ≤ start ∨ time = currentTic) :
    InTime gameDuration currentTic now game' := by
  obtain ⟨handled, hhandled, rfl⟩ := Game.step_ok.mp hstep
  have hcontacts := (SameTimes.handleContacts hhandled).sameClock
  have hsame : SameClock game handled.stopIfGameIsFinished := hcontacts.trans .stopIfGameIsFinished
  refine ⟨hsame.gameDuration.trans h.1, fun hrunning => ?_⟩
  have hplayed := hsame.isRunning hrunning
  obtain ⟨start, time, hstart, htime, hle, hpast, -, hlate⟩ := h.2 hplayed
  refine ⟨start, time, hsame.startTime.trans hstart, hsame.time.trans htime, hle, hpast, ?_, hlate⟩
  rcases htic hplayed start time hstart htime with hbefore | rfl
  · exact .inl hbefore
  · -- at or past the deadline the count would be 0
    refine .inr (not_le.mp fun hdeadline => ?_)
    have hdeadline' : seconds gameDuration ≤ (Ptime.at time).since (.at start) := by
      simp only [Ptime.since]
      omega
    have hlate' : (Ptime.at time).since (.at start) < seconds gameDuration + 1000000 := by
      simp only [Ptime.since]
      omega
    have hzero := Game.getSecondsLeft_eq_zero hplayed h.1 hstart htime hle hdeadline' hlate'
    rw [Game.step_isRunning_of_getSecondsLeft hstep hzero] at hrunning
    cases hrunning

theorem InTime.getSecondsLeft_le (h : InTime gameDuration lastTic now game) :
    (game.getSecondsLeft.toNat : Int) ≤ totalSeconds game.gameDuration := by
  cases hrunning : game.isRunning with
  | true =>
    obtain ⟨start, time, hstart, htime, hle, -, -, hlate⟩ := h.2 hrunning
    have hbound : seconds gameDuration < 2 ^ 63 := by
      have := gameDuration.toNat_lt
      unfold seconds
      omega
    refine (Game.getSecondsLeft_le_iff hrunning h.1 hbound hstart htime hle).mpr ?_
    simp only [Ptime.since]
    unfold seconds at hlate
    omega
  | false =>
    have hsmall := gameDuration.toNat_lt
    have htotal : totalSeconds game.gameDuration = gameDuration.toNat := by
      rw [h.1]
      exact Game.totalSeconds_mul _
    have hleft : game.getSecondsLeft = UInt64.ofInt gameDuration.toNat := by
      simp [Game.getSecondsLeft, hrunning, htotal]
    rw [hleft, htotal, UInt64.ofInt, UInt64.toNat_ofNat']
    omega

-- ---------------------------------------------------------------------------
-- The loop
-- ---------------------------------------------------------------------------

namespace Server

variable {zmq : Zmq} {env : AgentExternals} {server server' : Server zmq} {ops : List SocketOp}
  {input : LoopInput}

theorem handle_clock (h : server.handle env (.clock localTime) = .ok (server', ops)) :
    server'.game = server.game.setTime (.at localTime) := by
  obtain ⟨application, output, hhandled⟩ := handled_of_handle h
  have hstep := hhandled.steps
  cases hstep
  rw [game, hhandled.agentProxy]
  rfl

theorem handle_message {raw : RawMessage} {channel : Channel}
    (h : server.handle env (.message raw channel localTime) = .ok (server', ops)) :
    ClockMove localTime server.game server'.game := by
  obtain ⟨application, output, hhandled⟩ := handled_of_handle h
  rw [game, game, hhandled.agentProxy, (ofOutcome_ok hhandled.steps).1]
  exact .message ..

theorem handle_signal (h : server.handle env (.agent .stopApplication 0) = .ok (server', ops)) :
    SameClock server.game server'.game := by
  obtain ⟨application, output, hhandled⟩ := handled_of_handle h
  have hstop := (step_agent.mp hhandled.steps).1
  cases hstop
  rw [game, game, hhandled.agentProxy]
  unfold Application.stop
  split
  · exact .stop
  · exact .refl _

theorem handle_tic (h : server.handle env .tic = .ok (server', ops)) :
    (∃ steps, server.game.step = .ok (steps, server'.game)) ∨
      server.game.isRunning = false ∧ server'.game = server.game := by
  obtain ⟨application, output, hhandled⟩ := handled_of_handle h
  rw [game, game, hhandled.agentProxy]
  rcases step_tic hhandled.steps with ⟨-, steps, game, hstep, rfl, -⟩ | ⟨hrest, rfl, -⟩
  · exact .inl ⟨steps, hstep⟩
  · exact .inr ⟨hrest, rfl⟩

def KeepsDuration (env : AgentExternals) (text : Str) : Prop :=
  ∀ property value, AgentProxy.commandOf env text ≠ some (.setGame property value)

theorem agentFed_clock (hcommands : ∀ text ∈ server.waiting .agentSocket, KeepsDuration env text)
    (h : AgentFed env localTime server server' ops) :
    ClockMove localTime server.game server'.game := by
  cases h with
  | nothing _ => exact .keeps (.refl _)
  | @command message received inbox stepped _ hwaiting _ hstep =>
    have hkeeps := hcommands message (by simp [hwaiting])
    rw [game, game, setProxy_agentProxy]
    rcases AgentProxy.step_application hstep with ⟨-, hsame⟩ | ⟨parsed, hparsed, happly⟩
    · rw [hsame]
      exact .keeps (.refl _)
    · refine .agent (fun property value hset => ?_) happly
      exact hkeeps property value (hset ▸ AgentProxy.commandOf_of_carriesOut hparsed)

/-- The game behind a tic and the command before it: one that the command started
runs from now on, and any other has the time the tic was found due at. -/
theorem inTime_tic {server₁ : Server zmq} {currentTic : Instant}
    (h : InTime gameDuration lastTic now server.game) (hlast : lastTic ≤ now)
    (hnow : now ≤ localTime) (hpast : currentTic ≤ now)
    (htime : ∀ time, server.game.time = .at time → server.game.isRunning = true →
      time = currentTic)
    (hmove : ClockMove localTime server.game server₁.game)
    (hhandle : server₁.handle env .tic = .ok (server', ops)) :
    InTime gameDuration currentTic localTime server'.game := by
  have hgame₁ := h.move hnow hlast hmove
  rcases handle_tic hhandle with ⟨steps, hsteps⟩ | ⟨hstopped, hsame⟩
  · refine hgame₁.step hsteps fun hrunning start time hstart hat => ?_
    cases hmove with
    | starts hstarted _ _ =>
      rw [hstarted] at hstart
      cases hstart
      exact .inl (hpast.trans hnow)
    | keeps hsame =>
      exact .inr (htime time (hsame.time ▸ hat) (hsame.isRunning hrunning))
  · rw [hsame]
    refine ⟨hgame₁.1, fun hrunning => ?_⟩
    cases hstopped.symm.trans hrunning

theorem waiting_advance {socket : InSocket} (h : server.advance env input = .ok (server', ops))
    {text : Str} (htext : text ∈ server'.waiting socket) :
    text ∈ server.waiting socket ∨ ∃ peer, input = .arrives socket peer text := by
  have hmem : text ∈ server.waiting socket + input.arrival socket := by
    rw [delivers_advance h]
    exact Multiset.mem_add.mpr (.inr htext)
  refine (Multiset.mem_add.mp hmem).imp_right fun harrives => ?_
  cases input with
  | arrives other peer text' =>
    by_cases hother : other = socket
    · rw [LoopInput.arrival, if_pos hother, Multiset.mem_singleton] at harrives
      exact ⟨peer, by rw [hother, harrives]⟩
    · simp [LoopInput.arrival, hother] at harrives
  | _ => simp [LoopInput.arrival] at harrives

structure OnTime (env : AgentExternals) (gameDuration : UInt32) (now : Instant)
    (server : Server zmq) : Prop where
  previous : server.previousTic ≤ now
  current : ∀ currentTic, server.point = .ticking currentTic →
    currentTic ≤ now ∧ ∀ time, server.game.time = .at time → server.game.isRunning = true →
      time = currentTic
  inTime : InTime gameDuration server.previousTic now server.game
  commands : ∀ text ∈ server.waiting .agentSocket, KeepsDuration env text

/-- While a game runs the loop reads its clock within a second of the last tic. -/
def ReadsInTime (server : Server zmq) (input : LoopInput) : Prop :=
  server.point = .looping → server.game.isRunning = true → ∀ time, input = .turn time →
    (time.val : Int) < server.previousTic.val + 1000000

def ToldInTime (ops : List SocketOp) : Prop :=
  ∀ state ∈ told ops, (state.seconds.toNat : Int) ≤ state.totalSeconds

theorem toldInTime_nil (h : told ops = []) : ToldInTime ops := by
  intro state hstate
  rw [h] at hstate
  cases hstate

theorem handle_toldInTime (h : server.handle env event = .ok (server', ops))
    (hintime : InTime gameDuration lastTic now server'.game) : ToldInTime ops := by
  have htells := handle_tells h
  unfold ToldInTime
  generalize told ops = states at htells ⊢
  cases htells with
  | nothing => nofun
  | tic _ _ _ htells =>
    rw [List.forall_mem_singleton, htells.seconds, htells.totalSeconds]
    exact hintime.getSecondsLeft_le

theorem OnTime.turn (h : OnTime env gameDuration now server) (hnow : now ≤ localTime)
    (hprevious : server'.previousTic = server.previousTic)
    (hgame : InTime gameDuration server.previousTic localTime server'.game)
    (hpoint : ∀ currentTic, server'.point ≠ .ticking currentTic)
    (hcommands : ∀ text ∈ server'.waiting .agentSocket, KeepsDuration env text) :
    OnTime env gameDuration localTime server' :=
  ⟨hprevious ▸ h.previous.trans hnow, fun currentTic htics => absurd htics (hpoint currentTic),
    hprevious ▸ hgame, hcommands⟩

theorem OnTime.signal (h : OnTime env gameDuration now server)
    (hhandle : server.handle env (.agent .stopApplication 0) = .ok (server', ops))
    (hcommands : ∀ text ∈ server'.waiting .agentSocket, KeepsDuration env text) :
    OnTime env gameDuration now server' := by
  obtain ⟨-, hpoint, hprevious, -⟩ := handle_same hhandle
  have hsame := handle_signal hhandle
  refine ⟨hprevious ▸ h.previous, fun currentTic htics => ?_, ?_, hcommands⟩
  · obtain ⟨hpast, htime⟩ := h.current currentTic (hpoint ▸ htics)
    refine ⟨hpast, fun time hat hrunning => ?_⟩
    exact htime time (hsame.time ▸ hat) (hsame.isRunning hrunning)
  · rw [hprevious]
    exact h.inTime.move le_rfl h.previous (.keeps hsame)

theorem onTime_advance (h : OnTime env gameDuration now server) (hreads : ReadsInTime server input)
    (hcommands : ∀ peer text, input = .arrives .agentSocket peer text → KeepsDuration env text)
    (hclock : ∀ time, input = .turn time → now ≤ time)
    (hstep : server.advance env input = .ok (server', ops)) :
    OnTime env gameDuration (input.reading.getD now) server' ∧ ToldInTime ops := by
  have hwaiting : ∀ text ∈ server'.waiting .agentSocket, KeepsDuration env text := by
    intro text htext
    rcases waiting_advance hstep htext with hbefore | ⟨peer, harrives⟩
    · exact h.commands text hbefore
    · exact hcommands peer text harrives
  have hrest {time : Instant} (hnow : now ≤ time) :
      InTime gameDuration server.previousTic time server.game :=
    h.inTime.move hnow h.previous (.keeps (.refl _))
  cases advances_of_advance hstep with
  | arrives socket peer text =>
    exact ⟨⟨h.previous, h.current, h.inTime, hwaiting⟩, toldInTime_nil rfl⟩
  | signal hhandle =>
    exact ⟨h.signal hhandle hwaiting, toldInTime_nil (handle_untold hhandle nofun)⟩
  | starts localTime | ends localTime | breaks localTime | misses localTime | idles localTime =>
    have hnow := hclock localTime rfl
    exact ⟨h.turn hnow rfl (hrest hnow) nofun hwaiting, toldInTime_nil rfl⟩
  | rests localTime hpoint =>
    have hnow := hclock localTime rfl
    exact ⟨h.turn hnow rfl (hrest hnow) (by simp [hpoint]) hwaiting, toldInTime_nil rfl⟩
  | @enters localTime _ _ _ _ hfed =>
    have hnow := hclock localTime rfl
    have hgame := h.inTime.move hnow h.previous (agentFed_clock h.commands hfed)
    exact ⟨h.turn hnow (agentFed_same hfed).2.2.1 hgame nofun hwaiting,
      toldInTime_nil (agentFed_untold hfed)⟩
  | @polls localTime server₁ _ hpoint _ hhandle _ =>
    have hnow := hclock localTime rfl
    have hgame := h.inTime.setTime hnow fun hrunning => hreads hpoint hrunning localTime rfl
    rw [← handle_clock hhandle] at hgame
    exact ⟨h.turn hnow (handle_same hhandle).2.2.1 hgame nofun hwaiting,
      toldInTime_nil (handle_untold hhandle nofun)⟩
  | @due localTime server₁ _ hpoint _ hhandle _ =>
    have hnow := hclock localTime rfl
    have hprevious := (handle_same hhandle).2.2.1
    have hclocked := handle_clock hhandle
    refine ⟨⟨hprevious ▸ h.previous.trans hnow, fun currentTic htics => ?_, ?_, hwaiting⟩,
      toldInTime_nil (handle_untold hhandle nofun)⟩
    · cases htics
      refine ⟨le_rfl, fun time hat _ => ?_⟩
      have hat' : server₁.game.time = .at time := hat
      rw [hclocked] at hat'
      cases hat'
      rfl
    · show InTime gameDuration server₁.previousTic localTime server₁.game
      rw [hprevious, hclocked]
      exact h.inTime.setTime hnow fun hrunning => hreads hpoint hrunning localTime rfl
  | @takes localTime _ _ _ received server₁ _ _ hreceived hhandle =>
    obtain ⟨inbox, -, rfl⟩ := receiveString_eq_some.mp hreceived
    have hnow := hclock localTime rfl
    have hmove := handle_message hhandle
    have hnone := handle_untold hhandle nofun
    have hgame : InTime gameDuration server.previousTic localTime server₁.game :=
      h.inTime.move hnow h.previous hmove
    exact ⟨h.turn hnow (handle_same hhandle).2.2.1 hgame nofun hwaiting, toldInTime_nil hnone⟩
  | @tics localTime currentTic server₁ server₂ fed ops hpoint hfed hhandle =>
    have hnow := hclock localTime rfl
    obtain ⟨hpast, htime⟩ := h.current currentTic hpoint
    have hgame := inTime_tic h.inTime h.previous hnow hpast htime
      (agentFed_clock h.commands hfed) hhandle
    refine ⟨⟨hpast.trans hnow, nofun, hgame, hwaiting⟩, ?_⟩
    unfold ToldInTime
    rw [told_append, agentFed_untold hfed, List.nil_append]
    exact handle_toldInTime hhandle hgame

end Server

-- ---------------------------------------------------------------------------
-- Runs
-- ---------------------------------------------------------------------------

/-- In every run whose clock does not go back and, while a game runs, is read
within a second of the last tic, and whose agent does not change the duration of
the game: the last tic of a running game was before its deadline, so the first
one at it or behind it has stopped the game; and no broadcast tells more seconds
than the game has. -/
theorem deadline_met (zmq : Zmq) (env : AgentExternals) (proxy : AgentProxy) (gameDuration : UInt32)
    (hduration : proxy.application.game.gameDuration = seconds gameDuration)
    (hrest : proxy.application.game.isRunning = false) (ticDuration : Int) (previousTic : Instant)
    (inputs : List LoopInput) (hclock : ClockGoesOn previousTic inputs)
    (hreads : Lib.AllSteps (Server.advance env) (Server.launch zmq proxy ticDuration previousTic)
      inputs Server.ReadsInTime)
    (hcommands : ∀ peer text, .arrives .agentSocket peer text ∈ inputs →
      Server.KeepsDuration env text)
    (server : Server zmq) (opss : List (List SocketOp))
    (hrun : Lib.run (Server.advance env) (Server.launch zmq proxy ticDuration previousTic) inputs =
      .ok (server, opss)) :
    (server.game.isRunning = true → ∃ start : Instant, server.game.startTime = .at start ∧
      (server.previousTic ≤ start ∨
        (server.previousTic.val : Int) < start.val + seconds gameDuration)) ∧
    Server.ToldInTime opss.flatten := by
  obtain ⟨hontime, htold⟩ := run_clocked
    (P := fun now server done => Server.OnTime env gameDuration now server ∧ Server.ToldInTime done)
    ⟨⟨le_rfl, fun _ htics => (nomatch htics), ⟨hduration, fun hrunning => by
      cases hrest.symm.trans hrunning⟩, fun text htext => by
      rw [Server.launch_waiting] at htext
      cases Multiset.notMem_zero text htext⟩, Server.toldInTime_nil rfl⟩
    (fun now server done input server' ops ⟨hontime, htold⟩ hread hmem hnow hstep => by
      obtain ⟨hontime', htold'⟩ := Server.onTime_advance hontime hread
        (fun peer text harrives => hcommands peer text (harrives ▸ hmem)) hnow hstep
      refine ⟨hontime', fun state hstate => ?_⟩
      rw [told_append, List.mem_append] at hstate
      exact hstate.elim (htold state) (htold' state))
    hclock hreads hrun
  refine ⟨fun hrunning => ?_, htold⟩
  obtain ⟨start, -, hstart, -, -, -, hbefore, -⟩ := hontime.inTime.2 hrunning
  exact ⟨start, hstart, hbefore⟩

theorem deadline_met_twoSeconds :
    ∃ server opss,
      Lib.run (Server.advance .plain)
        (Server.launch .fifo (AgentProxy.launch [] (seconds 2) oneTeam) 1000 0) startThenTics =
          .ok (server, opss) ∧
      server.game.isRunning = true ∧ (∃ start : Instant, server.game.startTime = .at start ∧
        (server.previousTic ≤ start ∨
          (server.previousTic.val : Int) < start.val + seconds 2)) := by
  refine ⟨_, _, rfl, rfl, (deadline_met .fifo .plain (AgentProxy.launch [] (seconds 2) oneTeam) 2
    rfl rfl 1000 0 startThenTics (by unfold ClockGoesOn; decide) ?_ ?_ _ _ rfl).1 rfl⟩
  · rintro pre input post server os heq - - - time rfl
    have hmem : LoopInput.turn time ∈ startThenTics := by simp [heq]
    have hearly : time.val ≤ 3000 := by
      simp only [startThenTics, List.mem_cons, LoopInput.turn.injEq, reduceCtorEq,
        List.not_mem_nil, false_or, or_false] at hmem
      rcases hmem with rfl | rfl | rfl | rfl | rfl | rfl <;> decide
    omega
  · intro peer text hmem property value
    simp only [startThenTics, List.mem_cons, LoopInput.arrives.injEq, reduceCtorEq,
      List.not_mem_nil, or_false, true_and] at hmem
    obtain ⟨-, rfl⟩ := hmem
    have hparsed : AgentProxy.commandOf .plain "start game".toList = some .startGame := rfl
    rw [hparsed]
    intro hset
    cases hset

end ServerGame
