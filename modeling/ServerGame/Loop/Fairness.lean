import ServerGame.Lib.Rank
import ServerGame.Loop.Delivery

/-!
# Fairness

The channels are polled in turns: after each poll they change places. So the
messages of one channel are overtaken by two of the other at most, and the
commands of the agent by one message.
-/

namespace ServerGame

open Lib (nextPermutation nextPermutation_pair)

def Channel.other : Channel → Channel
  | .publish => .reply
  | .reply => .publish

theorem Channel.eq_or_other (c c' : Channel) : c' = c ∨ c' = c.other := by
  cases c <;> cases c' <;> simp [Channel.other]

theorem Channel.other_ne (c : Channel) : c.other ≠ c := by cases c <;> nofun

@[simp] theorem Channel.other_other (c : Channel) : c.other.other = c := by cases c <;> rfl

theorem Channel.socket_ne_agentSocket (c : Channel) : c.socket ≠ .agentSocket := by
  cases c <;> nofun

namespace Server

variable {zmq : Zmq} {env : AgentExternals} {server server' : Server zmq} {ops : List SocketOp}
  {event : Event} {localTime : Instant} {input : LoopInput} {socket : InSocket}
  {first channel : Channel}

-- ---------------------------------------------------------------------------
-- The order of the channels
-- ---------------------------------------------------------------------------

/-- The channels in their order; while they are polled, those that are left are
the last of them. -/
structure Polls (first : Channel) (server : Server zmq) : Prop where
  channels : server.channels = [first, first.other]
  left : ∀ left, server.point = .polling left →
    left = [first, first.other] ∨ left = [first.other] ∨ left = []

theorem Polls.of_point (h : Polls first server) (hchannels : server'.channels = server.channels)
    (hpoint : ∀ left, server'.point ≠ .polling left) : Polls first server' :=
  ⟨hchannels.trans h.channels, fun left hleft => absurd hleft (hpoint left)⟩

theorem Polls.of_same (h : Polls first server) (hchannels : server'.channels = server.channels)
    (hpoint : server'.point = server.point) : Polls first server' :=
  ⟨hchannels.trans h.channels, hpoint ▸ h.left⟩

theorem Polls.next (h : Polls first server) (hchannels : server'.channels = server.channels) :
    nextPermutation Channel.lt server'.channels = [first.other, first] := by
  rw [hchannels, h.channels, nextPermutation_pair]

theorem Polls.swap (h : Polls first server)
    (hchannels : server'.channels = nextPermutation Channel.lt server.channels)
    (hpoint : ∀ left, server'.point ≠ .polling left) : Polls first.other server' where
  channels := by rw [hchannels, h.next rfl, Channel.other_other]
  left left hleft := absurd hleft (hpoint left)

/-- Where one channel is tried, the other one is next or was before it. -/
theorem Polls.next_or_before (h : Polls first server) {tried : Channel} {left : List Channel}
    (hpoint : server.point = .polling (tried :: left)) (htried : tried ≠ channel) :
    tried = channel.other ∧
      (first = channel.other ∧ left = [channel] ∨ first = channel ∧ left = []) := by
  have hother := (channel.eq_or_other tried).resolve_left htried
  refine ⟨hother, ?_⟩
  rcases h.left _ hpoint with hall | hone | hnil
  · obtain ⟨rfl, rfl⟩ := List.cons.inj hall
    exact .inl ⟨hother, by rw [hother, Channel.other_other]⟩
  · obtain ⟨rfl, rfl⟩ := List.cons.inj hone
    exact .inr ⟨by rw [← first.other_other, hother, Channel.other_other], rfl⟩
  · cases hnil

theorem agentFed_same (h : AgentFed env localTime server server' ops) :
    server'.channels = server.channels ∧ server'.point = server.point ∧
      server'.previousTic = server.previousTic ∧ server'.ticDuration = server.ticDuration := by
  cases h <;> simp

theorem handle_same (h : server.handle env event = .ok (server', ops)) :
    server'.channels = server.channels ∧ server'.point = server.point ∧
      server'.previousTic = server.previousTic ∧ server'.ticDuration = server.ticDuration := by
  obtain ⟨_, _, hhandled⟩ := handled_of_handle h
  exact ⟨hhandled.channels, hhandled.point, hhandled.previousTic, hhandled.ticDuration⟩

theorem polls_advance (hpolls : Polls first server)
    (h : server.advance env input = .ok (server', ops)) : ∃ first', Polls first' server' := by
  cases advances_of_advance h with
  | arrives => exact ⟨first, hpolls.of_same rfl rfl⟩
  | signal hhandle =>
    obtain ⟨hchannels, hpoint, -, -⟩ := handle_same hhandle
    exact ⟨first, hpolls.of_same hchannels hpoint⟩
  | starts | ends | breaks => exact ⟨first, hpolls.of_point rfl nofun⟩
  | enters _ _ hfed => exact ⟨first, hpolls.of_point (agentFed_same hfed).1 nofun⟩
  | due _ _ hhandle _ => exact ⟨first, hpolls.of_point (handle_same hhandle).1 nofun⟩
  | tics _ hfed hhandle =>
    exact ⟨first, hpolls.of_point ((handle_same hhandle).1.trans (agentFed_same hfed).1) nofun⟩
  | polls _ _ hhandle _ =>
    have hchannels := (handle_same hhandle).1.trans hpolls.channels
    refine ⟨first, hchannels, fun left hleft => ?_⟩
    cases hleft
    exact .inl hchannels
  | misses _ hpoint _ =>
    refine ⟨first, hpolls.channels, fun left hleft => ?_⟩
    cases hleft
    rcases hpolls.left _ hpoint with hall | hone | hnone
    · exact .inr (.inl (List.cons.inj hall).2)
    · exact .inr (.inr (List.cons.inj hone).2)
    · cases hnone
  | takes _ hreceived hhandle =>
    obtain ⟨inbox, -, rfl⟩ := receiveString_eq_some.mp hreceived
    have hchannels := congrArg (nextPermutation Channel.lt) (handle_same hhandle).1
    exact ⟨first.other, hpolls.swap hchannels nofun⟩
  | idles => exact ⟨first.other, hpolls.swap rfl nofun⟩
  | rests => exact ⟨first, hpolls⟩

-- ---------------------------------------------------------------------------
-- What waits
-- ---------------------------------------------------------------------------

structure Waits (socket : InSocket) (server : Server zmq) : Prop where
  waiting : server.waiting socket ≠ 0
  free : server.owesReply socket = false

theorem Waits.of_lt (hfree : server.owesReply socket = false) {count : Nat}
    (h : count < (server.waiting socket).card) : Waits socket server := by
  refine ⟨fun hzero => ?_, hfree⟩
  rw [hzero, Multiset.card_zero] at h
  cases h

theorem Waits.receiveString_ne_none (h : Waits socket server) :
    server.receiveString socket ≠ none := by
  rw [Ne, receiveString_eq_none]
  rintro (hzero | howes)
  · exact h.waiting hzero
  · cases h.free.symm.trans howes

theorem Waits.ne_of_receiveString (h : Waits channel.socket server) {tried : Channel}
    (hnone : server.receiveString tried.socket = none) : tried ≠ channel := by
  rintro rfl
  exact h.receiveString_ne_none hnone

theorem received_agentFed (channel : Channel) (h : AgentFed env localTime server server' ops) :
    received channel.socket ops = [] := by
  cases h with
  | nothing _ => rfl
  | command _ _ _ _ =>
    rw [received_cons_of_ne channel.socket_ne_agentSocket.symm]
    rfl

theorem received_socket_agentFed (hwaits : Waits .agentSocket server)
    (h : AgentFed env localTime server server' ops) :
    (received .agentSocket ops).length = 1 := by
  cases h with
  | nothing hnone => exact absurd hnone hwaits.receiveString_ne_none
  | command _ _ _ _ => rfl

theorem card_waiting_advance (h : server.advance env input = .ok (server', ops)) :
    (server.waiting socket).card ≤
      (received socket ops).length + (server'.waiting socket).card := by
  have hcard := congrArg Multiset.card (@delivers_advance _ _ server server' ops input socket h)
  simp only [Multiset.card_add, Multiset.coe_card] at hcard
  omega

theorem handle_owes (h : server.handle env event = .ok (server', ops))
    (hevent : ¬event.IsRequest ∨ socket ≠ .replier) :
    server'.owesReply socket = server.owesReply socket := by
  obtain ⟨_, _, hhandled⟩ := handled_of_handle h
  by_cases hsocket : socket = .replier
  · subst hsocket
    exact (onReplier_handle h (hevent.resolve_right (not_not_intro rfl))).2
  · exact hhandled.owesReply hsocket

theorem agentFed_owes (h : AgentFed env localTime server server' ops) :
    server'.owesReply socket = server.owesReply socket := by
  cases h with
  | nothing _ => rfl
  | command hreceived _ hanswered _ =>
    by_cases hsocket : socket = .agentSocket
    · subst hsocket
      rw [setProxy_owesReply, setInbox_owesReply_self, hanswered, (receives hreceived).2.1]
    · simp [hsocket]

/-- Between two steps a request is open only on the replier, and for good. -/
theorem owes_advance (h : server.advance env input = .ok (server', ops)) :
    server'.owesReply socket = server.owesReply socket ∨
      socket = .replier ∧ server.owesReply socket = false := by
  cases advances_of_advance h with
  | arrives other peer text => exact .inl (owesReply_arrive other peer text)
  | starts | ends | breaks | misses | idles | rests => exact .inl rfl
  | signal hhandle | polls _ _ hhandle _ | due _ _ hhandle _ =>
    have howes := @handle_owes _ _ _ _ _ _ socket hhandle (.inl (Event.not_isRequest nofun))
    exact .inl howes
  | enters _ _ hfed =>
    have howes := @agentFed_owes _ _ _ _ _ _ socket hfed
    exact .inl howes
  | tics _ hfed hhandle =>
    have howes := @handle_owes _ _ _ _ _ _ socket hhandle (.inl (Event.not_isRequest nofun))
    exact .inl (howes.trans (agentFed_owes hfed))
  | @takes localTime taken _ _ received server₁ _ _ hreceived hhandle =>
    by_cases hsocket : socket = .replier
    · subst hsocket
      cases taken with
      | publish =>
        have howes := @handle_owes _ _ _ _ _ _ .replier hhandle
          (.inl (Event.publish_not_isRequest _ _))
        have hother : InSocket.replier ≠ .puller := by decide
        exact .inl (howes.trans (receives_other hreceived hother).2)
      | reply => exact .inr ⟨rfl, (receives hreceived).2.1⟩
    · have howes := handle_owes hhandle (.inr hsocket)
      refine .inl (howes.trans ?_)
      by_cases htaken : socket = taken.socket
      · subst htaken
        obtain ⟨-, hfree, hopen⟩ := receives hreceived
        cases taken with
        | publish => exact hopen.trans hfree.symm
        | reply => exact absurd rfl hsocket
      · exact (receives_other hreceived htaken).2

theorem free_before (h : server.advance env input = .ok (server', ops))
    (hfree : server'.owesReply socket = false) : server.owesReply socket = false := by
  rcases owes_advance h with hsame | ⟨-, hbefore⟩
  · exact hsame.symm.trans hfree
  · exact hbefore

theorem agentFree_advance (h : server.advance env input = .ok (server', ops))
    (hfree : server.owesReply .agentSocket = false) : server'.owesReply .agentSocket = false := by
  rcases @owes_advance _ _ _ _ _ _ .agentSocket h with hsame | ⟨hreplier, -⟩
  · exact hsame.trans hfree
  · cases hreplier

theorem free_run {proxy : AgentProxy} {ticDuration : Int} {previousTic : Instant}
    {inputs : List LoopInput} {opss : List (List SocketOp)}
    (hrun : Lib.run (advance env) (launch zmq proxy ticDuration previousTic) inputs =
      .ok (server, opss)) (hsocket : socket ≠ .replier) : server.owesReply socket = false := by
  refine Lib.run_invariant (fun server => server.owesReply socket = false)
    (fun _ _ _ _ _ hfree hstep => ?_) zmq.owesReply_bound hrun
  rcases owes_advance hstep with hsame | ⟨hreplier, -⟩
  · exact hsame.trans hfree
  · exact absurd hreplier hsocket

theorem channel_free {proxy : AgentProxy} {ticDuration : Int} {previousTic : Instant}
    {inputs later : List LoopInput} {opss opss' : List (List SocketOp)}
    (hrun : Lib.run (advance env) (launch zmq proxy ticDuration previousTic) inputs =
      .ok (server, opss)) (hlater : Lib.run (advance env) server later = .ok (server', opss'))
    (hfree : channel = .reply → server'.owesReply .replier = false) :
    server'.owesReply channel.socket = false := by
  cases channel with
  | publish => exact free_run (Lib.run_append.mpr ⟨_, _, _, hrun, hlater, rfl⟩) nofun
  | reply => exact hfree rfl

-- ---------------------------------------------------------------------------
-- How often a message is overtaken
-- ---------------------------------------------------------------------------

/-- How many messages of the other channel can come before the next one. -/
def overtakings (channel : Channel) (server : Server zmq) : Nat :=
  match server.point with
  | .polling (next :: left) =>
    if next = channel then 0
    else if left = [channel] then 1
    -- the channel has been tried, and the other one is first in the next poll too
    else 2
  | .polling [] => if server.channels.head? = some channel then 1 else 0
  | _ => if server.channels.head? = some channel then 0 else 1

theorem received_takes (taken : Channel) (channel : Channel) {messageData : Str}
    (h : server.handle env event = .ok (server', ops)) :
    (received channel.socket (.received taken.socket messageData :: ops)).length =
      if taken = channel then 1 else 0 := by
  rw [← List.singleton_append, received_append, received_handle _ h, List.append_nil]
  cases taken <;> cases channel <;> rfl

theorem overtakings_advance (hpolls : Polls first server) (hwaits : Waits channel.socket server)
    (h : server.advance env input = .ok (server', ops)) :
    (received channel.other.socket ops).length + overtakings channel server' ≤
      overtakings channel server + (received channel.socket ops).length := by
  have hhead : server.channels.head? = some first := by rw [hpolls.channels]; rfl
  have hidle (hnone : ∀ channel : Channel, received channel.socket ops = [])
      (hle : overtakings channel server' ≤ overtakings channel server) :
      (received channel.other.socket ops).length + overtakings channel server' ≤
        overtakings channel server + (received channel.socket ops).length := by
    rw [hnone, hnone]
    simpa using hle
  cases advances_of_advance h with
  | arrives => exact hidle (fun _ => rfl) le_rfl
  | signal hhandle =>
    obtain ⟨hchannels, hpoint, -, -⟩ := handle_same hhandle
    refine hidle (fun _ => received_handle _ hhandle) (le_of_eq ?_)
    unfold overtakings
    rw [hchannels, hpoint]
  | starts _ hpoint | ends _ hpoint _ | breaks _ hpoint _ =>
    exact hidle (fun _ => rfl) (by simp [overtakings, hpoint])
  | enters hpoint _ hfed =>
    refine hidle (fun channel => received_agentFed channel hfed) ?_
    simp [overtakings, hpoint, (agentFed_same hfed).1]
  | due hpoint _ hhandle _ =>
    refine hidle (fun _ => received_handle _ hhandle) ?_
    simp [overtakings, hpoint, (handle_same hhandle).1]
  | polls hpoint _ hhandle _ =>
    refine hidle (fun _ => received_handle _ hhandle) ?_
    simp only [overtakings, hpoint, (handle_same hhandle).1, hpolls.channels, List.head?_cons,
      Option.some.injEq]
    rcases channel.eq_or_other first with rfl | rfl
    · simp
    · simp [channel.other_ne]
  | @misses _ tried left hpoint hnone =>
    refine hidle (fun _ => rfl) ?_
    obtain ⟨rfl, ⟨rfl, rfl⟩ | ⟨rfl, rfl⟩⟩ :=
      hpolls.next_or_before hpoint (hwaits.ne_of_receiveString hnone)
    · simp [overtakings, hpoint, channel.other_ne]
    · simp [overtakings, hpoint, hhead, first.other_ne]
  | @takes localTime tried left messageData received server₂ ops hpoint hreceived hhandle =>
    obtain ⟨inbox, -, rfl⟩ := receiveString_eq_some.mp hreceived
    have hswapped := hpolls.next (handle_same hhandle).1
    rw [received_takes _ _ hhandle, received_takes _ _ hhandle]
    by_cases htried : tried = channel
    · subst htried
      have hone : overtakings tried { server₂ with
          channels := nextPermutation Channel.lt server₂.channels, point := .entering } ≤ 1 := by
        unfold overtakings
        dsimp only
        split <;> decide
      simpa [overtakings, hpoint, tried.other_ne.symm] using hone
    · obtain ⟨rfl, ⟨rfl, rfl⟩ | ⟨rfl, rfl⟩⟩ := hpolls.next_or_before hpoint htried
      · simp [overtakings, hpoint, hswapped, channel.other_ne]
      · simp [overtakings, hpoint, hswapped, Channel.other_ne]
  | idles _ hpoint =>
    refine hidle (fun _ => rfl) ?_
    rcases channel.eq_or_other first with rfl | rfl
    · simp [overtakings, hpoint, hpolls.channels, nextPermutation_pair, Channel.other_ne]
    · simp [overtakings, hpoint, hpolls.channels, nextPermutation_pair, Channel.other_ne]
  | tics hpoint hfed hhandle =>
    refine hidle (fun channel => ?_) ?_
    · rw [received_append, received_agentFed _ hfed, received_handle _ hhandle]
      rfl
    · simp [overtakings, hpoint, (handle_same hhandle).1, (agentFed_same hfed).1]
  | rests => exact hidle (fun _ => rfl) le_rfl

-- ---------------------------------------------------------------------------
-- How often a command is overtaken
-- ---------------------------------------------------------------------------

def commandOvertakings (server : Server zmq) : Nat :=
  match server.point with
  | .polling _ | .looping => 1
  | _ => 0

theorem commandOvertakings_advance (hwaits : Waits .agentSocket server)
    (h : server.advance env input = .ok (server', ops)) :
    ((received .puller ops).length + (received .replier ops).length) +
      commandOvertakings server' ≤
        commandOvertakings server + (received .agentSocket ops).length := by
  cases advances_of_advance h with
  | arrives => exact le_of_eq (Nat.zero_add _)
  | signal hhandle =>
    rw [received_handle _ hhandle, received_handle _ hhandle, received_handle _ hhandle]
    unfold commandOvertakings
    rw [(handle_same hhandle).2.1]
    simp
  | starts _ hpoint | ends _ hpoint _ | breaks _ hpoint _ | misses _ hpoint _ | idles _ hpoint
  | rests _ hpoint => simp [commandOvertakings, hpoint]
  | polls hpoint _ hhandle _ | due hpoint _ hhandle _ =>
    rw [received_handle _ hhandle, received_handle _ hhandle, received_handle _ hhandle]
    simp [commandOvertakings, hpoint]
  | enters hpoint _ hfed =>
    have hnone (channel : Channel) := received_agentFed channel hfed
    rw [received_socket_agentFed hwaits hfed, show received .puller ops = [] from hnone .publish,
      show received .replier ops = [] from hnone .reply]
    simp [commandOvertakings, hpoint]
  | @takes localTime taken _ messageData _ _ _ hpoint _ hhandle =>
    have hnone (socket : InSocket) := received_handle socket hhandle
    rw [← List.singleton_append, received_append, received_append, hnone, hnone]
    cases taken <;> simp [received, Channel.socket, commandOvertakings, hpoint]
  | @tics _ _ _ _ fed _ hpoint hfed hhandle =>
    have hnone (channel : Channel) := received_agentFed channel hfed
    simp only [received_append, received_handle _ hhandle, List.append_nil,
      received_socket_agentFed hwaits hfed, show received .puller fed = [] from hnone .publish,
      show received .replier fed = [] from hnone .reply]
    simp [commandOvertakings, hpoint]

theorem previousTic_advance (hwaits : Waits .agentSocket server)
    (h : server.advance env input = .ok (server', ops)) :
    server'.previousTic = server.previousTic ∨ (received .agentSocket ops).length = 1 := by
  cases advances_of_advance h with
  | arrives | starts | ends | breaks | misses | idles | rests => exact .inl rfl
  | signal hhandle | polls _ _ hhandle _ | due _ _ hhandle _ =>
    have hsame := (handle_same hhandle).2.2.1
    exact .inl hsame
  | enters _ _ hfed =>
    have hsame := (agentFed_same hfed).2.2.1
    exact .inl hsame
  | takes _ hreceived hhandle =>
    obtain ⟨inbox, -, rfl⟩ := receiveString_eq_some.mp hreceived
    have hsame := (handle_same hhandle).2.2.1
    exact .inl hsame
  | tics _ hfed hhandle =>
    refine .inr ?_
    rw [received_append, received_handle _ hhandle, List.append_nil]
    exact received_socket_agentFed hwaits hfed

end Server

-- ---------------------------------------------------------------------------
-- Runs
-- ---------------------------------------------------------------------------

variable {zmq : Zmq} {env : AgentExternals} {socket : InSocket}

theorem spent_received {inputs : List LoopInput} {opss : List (List SocketOp)}
    (hlength : inputs.length = opss.length) :
    Lib.spent (fun _ ops => (received socket ops).length) inputs opss =
      (received socket opss.flatten).length := by
  refine Lib.spent_flatten rfl (fun ops ops' => ?_) hlength
  rw [received_append, List.length_append]

theorem Server.polls_run {proxy : AgentProxy} {ticDuration : Int} {previousTic : Instant}
    {server : Server zmq} {inputs : List LoopInput} {opss : List (List SocketOp)}
    (hrun : Lib.run (Server.advance env) (Server.launch zmq proxy ticDuration previousTic) inputs =
      .ok (server, opss)) : ∃ first, Polls first server :=
  Lib.run_invariant (fun server => ∃ first, Polls first server)
    (fun _ _ _ _ _ ⟨_, hpolls⟩ => polls_advance hpolls)
    ⟨.publish, rfl, fun _ hleft => by cases hleft⟩ hrun

/-- As long as messages that wait at one channel have not all been received, at
most two more are received of the other channel than of that one, however many
come there. A request left unanswered on the replier ends that. -/
theorem overtaken_at_most_twice (zmq : Zmq) (env : AgentExternals) (proxy : AgentProxy)
    (ticDuration : Int) (previousTic : Instant) (inputs : List LoopInput) (server : Server zmq)
    (opss : List (List SocketOp))
    (hrun : Lib.run (Server.advance env) (Server.launch zmq proxy ticDuration previousTic) inputs =
      .ok (server, opss)) (channel : Channel) (later : List LoopInput) (server' : Server zmq)
    (opss' : List (List SocketOp))
    (hlater : Lib.run (Server.advance env) server later = .ok (server', opss'))
    (hfree : channel = .reply → server'.owesReply .replier = false)
    (hwaits : (received channel.socket opss'.flatten).length <
      (server.waiting channel.socket).card) :
    (received channel.other.socket opss'.flatten).length ≤
      (received channel.socket opss'.flatten).length + 2 := by
  obtain ⟨first, hpolls⟩ := Server.polls_run hrun
  rw [← spent_received (Lib.run_length hlater)] at hwaits
  obtain ⟨-, hspent⟩ := Lib.spent_le_of_stock
    (fun server : Server zmq => ∃ first, Server.Polls first server)
    (fun server => server.owesReply channel.socket = false) (fun _ _ => True)
    (fun server => (server.waiting channel.socket).card)
    (fun _ ops => (received channel.socket ops).length)
    (fun server => (Server.overtakings channel server : Int))
    (fun _ ops => (received channel.other.socket ops).length -
      (received channel.socket ops).length)
    (fun _ _ _ _ hstep hfree => Server.free_before hstep hfree)
    (fun _ _ _ _ hstep => Server.card_waiting_advance hstep)
    (fun _ _ _ _ ⟨_, hpolls⟩ _ hleft hfree hstep => by
      have hwaits := Server.Waits.of_lt (Server.free_before hstep hfree) hleft
      have hcost := Server.overtakings_advance hpolls hwaits hstep
      exact ⟨Server.polls_advance hpolls hstep, by omega⟩)
    ⟨first, hpolls⟩ (Server.channel_free hrun hlater hfree) (fun _ _ _ _ _ _ _ => trivial) hwaits
    hlater
  rw [Lib.spent_flatten (by simp) (fun ops ops' => by simp [received_append]; ring)
    (Lib.run_length hlater)] at hspent
  have htwo : Server.overtakings channel server ≤ 2 := by
    unfold Server.overtakings
    repeat' split
    all_goals decide
  omega

def missedThenHellos : List LoopInput :=
  [.turn 0, .turn 1, .turn 2, .turn 3, .arrives .puller 0 "c Ping ".toList,
    .arrives .puller 0 "d Ping ".toList, .arrives .replier 0 "c Hello ".toList,
    .arrives .replier 0 "d Hello ".toList, .arrives .replier 0 "e Hello ".toList]

theorem overtaken_at_most_twice_hellos :
    ∃ server opss server' opss',
      Lib.run (Server.advance .plain) (Server.launch .fifo (AgentProxy.launch [] 0 oneTeam) 1000 0)
        missedThenHellos = .ok (server, opss) ∧
      Lib.run (Server.advance .plain) server [.turn 4, .turn 5, .turn 6, .turn 7] =
        .ok (server', opss') ∧
      received .replier opss'.flatten = ["c Hello ".toList, "d Hello ".toList] ∧
      received .puller opss'.flatten = [] ∧
      (received Channel.publish.other.socket opss'.flatten).length ≤
        (received Channel.publish.socket opss'.flatten).length + 2 :=
  ⟨_, _, _, _, rfl, rfl, rfl, rfl, overtaken_at_most_twice .fifo .plain
    (AgentProxy.launch [] 0 oneTeam) 1000 0 missedThenHellos _ _ rfl .publish
    [.turn 4, .turn 5, .turn 6, .turn 7] _ _ rfl nofun (by decide)⟩

/-- As long as commands that wait have not all been received, at most one more
message is received than commands, on both channels together, and no tic is
taken before the next command. -/
theorem command_overtaken_once (zmq : Zmq) (env : AgentExternals) (server : Server zmq)
    (hfree : server.owesReply .agentSocket = false) (later : List LoopInput)
    (server' : Server zmq) (opss' : List (List SocketOp))
    (hlater : Lib.run (Server.advance env) server later = .ok (server', opss'))
    (hwaits : (received .agentSocket opss'.flatten).length <
      (server.waiting .agentSocket).card) :
    (received .puller opss'.flatten).length + (received .replier opss'.flatten).length ≤
        (received .agentSocket opss'.flatten).length + 1 ∧
      (received .agentSocket opss'.flatten = [] → server'.previousTic = server.previousTic) := by
  rw [← spent_received (Lib.run_length hlater)] at hwaits
  constructor
  · obtain ⟨-, hspent⟩ := Lib.spent_le_of_stock
      (fun server : Server zmq => server.owesReply .agentSocket = false) (fun _ => True)
      (fun _ _ => True) (fun server => (server.waiting .agentSocket).card)
      (fun _ ops => (received .agentSocket ops).length)
      (fun server => (Server.commandOvertakings server : Int))
      (fun _ ops => (received .puller ops).length + (received .replier ops).length -
        (received .agentSocket ops).length)
      (fun _ _ _ _ _ _ => trivial) (fun _ _ _ _ hstep => Server.card_waiting_advance hstep)
      (fun _ _ _ _ hfree _ hleft _ hstep => by
        have hcost := Server.commandOvertakings_advance (.of_lt hfree hleft) hstep
        exact ⟨Server.agentFree_advance hstep hfree, by omega⟩)
      hfree trivial (fun _ _ _ _ _ _ _ => trivial) hwaits hlater
    rw [Lib.spent_flatten (by simp) (fun ops ops' => by simp [received_append]; ring)
      (Lib.run_length hlater)] at hspent
    have hone : Server.commandOvertakings server ≤ 1 := by
      unfold Server.commandOvertakings
      split <;> decide
    omega
  · intro hnone
    -- a tic would cost a command
    obtain ⟨-, hspent⟩ := Lib.spent_le_of_stock
      (fun server : Server zmq => server.owesReply .agentSocket = false) (fun _ => True)
      (fun _ _ => True) (fun server => (server.waiting .agentSocket).card)
      (fun _ ops => (received .agentSocket ops).length)
      (fun last => if last.previousTic = server.previousTic then (0 : Int) else 1)
      (fun _ ops => -((received .agentSocket ops).length : Int))
      (fun _ _ _ _ _ _ => trivial) (fun _ _ _ _ hstep => Server.card_waiting_advance hstep)
      (fun _ _ _ _ hfree _ hleft _ hstep => by
        refine ⟨Server.agentFree_advance hstep hfree, ?_⟩
        rcases Server.previousTic_advance (.of_lt hfree hleft) hstep with hsame | hone
        · rw [hsame]
          omega
        · split_ifs <;> omega)
      hfree trivial (fun _ _ _ _ _ _ _ => trivial) hwaits hlater
    rw [Lib.spent_flatten (by simp) (fun ops ops' => by simp [received_append]; ring)
      (Lib.run_length hlater), hnone] at hspent
    by_contra hmoved
    simp [hmoved] at hspent

def helloAndCommand : Server .fifo :=
  { (((Server.launch .fifo (AgentProxy.launch [] 0 oneTeam) 1000 0).arrive .replier 0
      "c Hello ".toList).arrive .agentSocket 0 "ping".toList).arrive .agentSocket 0
      "ping".toList with point := .polling [.reply] }

theorem command_overtaken_once_hello :
    ∃ server' opss',
      Lib.run (Server.advance .plain) helloAndCommand [.turn 4] = .ok (server', opss') ∧
      received .replier opss'.flatten = ["c Hello ".toList] ∧
      (received .puller opss'.flatten).length + (received .replier opss'.flatten).length ≤
        (received .agentSocket opss'.flatten).length + 1 ∧
      (received .agentSocket opss'.flatten = [] →
        server'.previousTic = helloAndCommand.previousTic) :=
  ⟨_, _, rfl, rfl, command_overtaken_once .fifo .plain helloAndCommand rfl [.turn 4] _ _ rfl
    (by decide)⟩

end ServerGame
