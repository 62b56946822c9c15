import ServerGame.Loop.MainLoop
import ServerGame.Replies

/-!
# The moves of the loop

What each call and each turn does to the server, said once. A reply on the
replier only comes from the handling of a request, so none is ever refused.
-/

namespace ServerGame

open Lib (bind_eq_ok nextPermutation pure_eq_ok)

def Event.IsRequest (event : Event) : Prop :=
  ∃ message localTime, event = .message message .reply localTime

theorem Event.not_isRequest {event : Event}
    (h : ∀ raw localTime, event ≠ .message raw .reply localTime) : ¬event.IsRequest :=
  fun ⟨raw, localTime, hrequest⟩ => h raw localTime hrequest

theorem Event.publish_not_isRequest (raw : RawMessage) (localTime : Instant) :
    ¬(Event.message raw .publish localTime).IsRequest := by
  rintro ⟨_, _, ⟨⟩⟩

theorem publishesOnly_iff {output : Output} :
    PublishesOnly output.sent ↔ output.onReplier = [] := by
  refine ⟨PublishesOnly.onReplier, fun h message hmessage => ?_⟩
  have hnot := List.filter_eq_nil_iff.mp h message hmessage
  cases hsocket : message.socket with
  | publisher => rfl
  | replier => exact absurd hsocket (by simpa using hnot)

namespace Server

variable {zmq : Zmq} {env : AgentExternals} {server server' : Server zmq} {socket : InSocket}
  {inbox : zmq.Inbox} {proxy : AgentProxy} {ops : List SocketOp} {localTime : Instant}

-- ---------------------------------------------------------------------------
-- Members
-- ---------------------------------------------------------------------------

@[simp] theorem setInbox_inbox_self : (server.setInbox socket inbox).inbox socket = inbox := by
  simp [setInbox]

@[simp] theorem setInbox_inbox_of_ne {other : InSocket} (h : other ≠ socket) :
    (server.setInbox socket inbox).inbox other = server.inbox other := by
  simp [setInbox, h]

@[simp] theorem setInbox_waiting_self :
    (server.setInbox socket inbox).waiting socket = zmq.waiting inbox := by
  simp [waiting]

@[simp] theorem setInbox_waiting_of_ne {other : InSocket} (h : other ≠ socket) :
    (server.setInbox socket inbox).waiting other = server.waiting other := by
  simp [waiting, h]

@[simp] theorem setInbox_owesReply_self :
    (server.setInbox socket inbox).owesReply socket = zmq.owesReply inbox := by
  simp [owesReply]

@[simp] theorem setInbox_owesReply_of_ne {other : InSocket} (h : other ≠ socket) :
    (server.setInbox socket inbox).owesReply other = server.owesReply other := by
  simp [owesReply, h]

@[simp] theorem setInbox_agentProxy :
    (server.setInbox socket inbox).agentProxy = server.agentProxy := rfl

@[simp] theorem setInbox_ticDuration :
    (server.setInbox socket inbox).ticDuration = server.ticDuration := rfl

@[simp] theorem setInbox_previousTic :
    (server.setInbox socket inbox).previousTic = server.previousTic := rfl

@[simp] theorem setInbox_mainLoopRunning :
    (server.setInbox socket inbox).mainLoopRunning = server.mainLoopRunning := rfl

@[simp] theorem setInbox_forcedStop :
    (server.setInbox socket inbox).forcedStop = server.forcedStop := rfl

@[simp] theorem setInbox_channels :
    (server.setInbox socket inbox).channels = server.channels := rfl

@[simp] theorem setInbox_point : (server.setInbox socket inbox).point = server.point := rfl

theorem setInbox_eq_self : server.setInbox socket (server.inbox socket) = server := by
  simp [setInbox]

theorem setInbox_setInbox {inbox' : zmq.Inbox} :
    (server.setInbox socket inbox).setInbox socket inbox' = server.setInbox socket inbox' := by
  simp [setInbox]

@[simp] theorem setProxy_agentProxy : (server.setProxy proxy).agentProxy = proxy := by
  unfold setProxy
  split <;> rfl

@[simp] theorem setProxy_inbox : (server.setProxy proxy).inbox = server.inbox := by
  unfold setProxy
  split <;> rfl

@[simp] theorem setProxy_waiting :
    (server.setProxy proxy).waiting socket = server.waiting socket := by
  simp [waiting]

@[simp] theorem setProxy_owesReply :
    (server.setProxy proxy).owesReply socket = server.owesReply socket := by
  simp [owesReply]

@[simp] theorem setProxy_ticDuration :
    (server.setProxy proxy).ticDuration = server.ticDuration := by
  unfold setProxy
  split <;> rfl

@[simp] theorem setProxy_previousTic :
    (server.setProxy proxy).previousTic = server.previousTic := by
  unfold setProxy
  split <;> rfl

@[simp] theorem setProxy_channels : (server.setProxy proxy).channels = server.channels := by
  unfold setProxy
  split <;> rfl

@[simp] theorem setProxy_point : (server.setProxy proxy).point = server.point := by
  unfold setProxy
  split <;> rfl

theorem setProxy_flags :
    (server.state = .running ∧ proxy.application.state = .stopped ∧
      (server.setProxy proxy).mainLoopRunning = false ∧
      (server.setProxy proxy).forcedStop = true) ∨
    ¬(server.state = .running ∧ proxy.application.state = .stopped) ∧
      (server.setProxy proxy).mainLoopRunning = server.mainLoopRunning ∧
      (server.setProxy proxy).forcedStop = server.forcedStop := by
  unfold setProxy
  split
  · next h => exact .inl ⟨h.1, h.2, rfl, rfl⟩
  · next h => exact .inr ⟨h, rfl, rfl⟩

theorem setProxy_setInbox :
    (server.setInbox socket inbox).setProxy proxy =
      (server.setProxy proxy).setInbox socket inbox := by
  have hstate : (server.setInbox socket inbox).state = server.state := rfl
  unfold setProxy
  rw [hstate]
  split <;> rfl

theorem receiveString_eq_some {text : Str} :
    server.receiveString socket = some (text, server') ↔ ∃ inbox,
      zmq.recv socket.isRep (server.inbox socket) = some (text, inbox) ∧
        server' = server.setInbox socket inbox := by
  unfold receiveString
  split
  · next hnone => simp [hnone]
  · next hsome => simp [hsome, eq_comm]

theorem receiveString_eq_none :
    server.receiveString socket = none ↔
      server.waiting socket = 0 ∨ server.owesReply socket = true := by
  have hrecv := zmq.recv_eq_none socket.isRep (server.inbox socket)
  unfold receiveString waiting owesReply
  split
  · next hnone => simpa [hnone] using hrecv
  · next hsome => simpa [hsome] using hrecv

theorem receives {text : Str} (h : server.receiveString socket = some (text, server')) :
    server.waiting socket = text ::ₘ server'.waiting socket ∧ server.owesReply socket = false ∧
      server'.owesReply socket = socket.isRep := by
  obtain ⟨inbox, hrecv, rfl⟩ := receiveString_eq_some.mp h
  rw [setInbox_waiting_self, setInbox_owesReply_self]
  exact ⟨zmq.waiting_recv hrecv, Zmq.owesReply_of_recv hrecv, zmq.owesReply_recv hrecv⟩

theorem receives_other {other : InSocket} {text : Str}
    (h : server.receiveString other = some (text, server')) (hother : socket ≠ other) :
    server'.waiting socket = server.waiting socket ∧
      server'.owesReply socket = server.owesReply socket := by
  obtain ⟨inbox, -, rfl⟩ := receiveString_eq_some.mp h
  exact ⟨setInbox_waiting_of_ne hother, setInbox_owesReply_of_ne hother⟩

theorem launch_waiting {ticDuration : Int} {previousTic : Instant} :
    (launch zmq proxy ticDuration previousTic).waiting socket = 0 :=
  zmq.waiting_bound

theorem waiting_arrive (peer : Nat) (text : Str) :
    (server.arrive socket peer text).waiting socket = text ::ₘ server.waiting socket := by
  rw [arrive, setInbox_waiting_self]
  exact zmq.waiting_arrive peer text _

theorem owesReply_arrive (other : InSocket) (peer : Nat) (text : Str) :
    (server.arrive other peer text).owesReply socket = server.owesReply socket := by
  by_cases hother : socket = other
  · subst hother
    rw [arrive, setInbox_owesReply_self]
    exact zmq.owesReply_arrive peer text _
  · exact setInbox_owesReply_of_ne hother

-- ---------------------------------------------------------------------------
-- Sending
-- ---------------------------------------------------------------------------

def SendsTo (server : Server zmq) (onlyPublishes : Bool) (server' : Server zmq) : Prop :=
  ∃ inbox, server' = server.setInbox .replier inbox ∧
    zmq.waiting inbox = server.waiting .replier ∧
      zmq.owesReply inbox = (server.owesReply .replier && onlyPublishes)

theorem SendsTo.refl : SendsTo server true server :=
  ⟨server.inbox .replier, setInbox_eq_self.symm, rfl, (Bool.and_true _).symm⟩

theorem SendsTo.trans {server₁ : Server zmq} {publishes publishes' : Bool}
    (h : SendsTo server publishes server₁) (h' : SendsTo server₁ publishes' server') :
    SendsTo server (publishes && publishes') server' := by
  obtain ⟨inbox, rfl, hwaiting, howes⟩ := h
  obtain ⟨inbox', rfl, hwaiting', howes'⟩ := h'
  rw [setInbox_waiting_self, hwaiting] at hwaiting'
  rw [setInbox_owesReply_self, howes, Bool.and_assoc] at howes'
  exact ⟨inbox', setInbox_setInbox, hwaiting', howes'⟩

theorem sendsTo_send (message : Sent) :
    SendsTo server (message.socket = .publisher) (server.send message).2 := by
  unfold send
  cases message.socket with
  | publisher => exact .refl
  | replier =>
    dsimp only
    split
    · next inbox hsend =>
      refine ⟨inbox, rfl, zmq.waiting_send hsend, ?_⟩
      simpa using zmq.owesReply_send hsend
    · next hnone =>
      have howes := (zmq.send_eq_none _).mp hnone
      refine ⟨server.inbox .replier, setInbox_eq_self.symm, rfl, ?_⟩
      simpa [owesReply] using howes

theorem sendAll_cons (message : Sent) (rest : List Sent) :
    server.sendAll (message :: rest) = ((server.send message).1 ::
      ((server.send message).2.sendAll rest).1, ((server.send message).2.sendAll rest).2) := rfl

theorem sendsTo_sendAll (sent : List Sent) :
    SendsTo server (sent.all fun message => message.socket = .publisher)
      (server.sendAll sent).2 := by
  induction sent generalizing server with
  | nil => exact .refl
  | cons message rest ih =>
    rw [sendAll_cons, List.all_cons]
    exact (sendsTo_send message).trans ih

theorem send_replier {message : Sent} (hsocket : message.socket = .replier)
    (howes : server.owesReply .replier = true) :
    ∃ server', server.send message = (.sent message, server') := by
  unfold send
  rw [hsocket]
  dsimp only
  split
  · next inbox _ => exact ⟨server.setInbox .replier inbox, rfl⟩
  · next hnone => cases howes.symm.trans ((zmq.send_eq_none _).mp hnone)

/-- Every message is sent when at most one is for the replier, and that one has
a request. -/
theorem sendAll_ops {sent : List Sent}
    (h : PublishesOnly sent ∨ server.owesReply .replier = true ∧
      ∃ answer, sent.filter (fun message => message.socket = .replier) = [answer]) :
    (server.sendAll sent).1 = sent.map .sent := by
  induction sent generalizing server with
  | nil => rfl
  | cons message rest ih =>
    rw [sendAll_cons, List.map_cons]
    cases hsocket : message.socket with
    | publisher =>
      have hop : server.send message = (.sent message, server) := by simp [send, hsocket]
      rw [hop, ih]
      rcases h with h | ⟨howes, answer, honly⟩
      · exact .inl fun m hm => h m (List.mem_cons_of_mem _ hm)
      · refine .inr ⟨howes, answer, ?_⟩
        rwa [List.filter_cons_of_neg (by simp [hsocket])] at honly
    | replier =>
      rcases h with h | ⟨howes, answer, honly⟩
      · cases hsocket.symm.trans (h message List.mem_cons_self)
      · obtain ⟨server', hop⟩ := send_replier hsocket howes
        rw [List.filter_cons_of_pos (by simp [hsocket])] at honly
        have hrest := (List.cons.inj honly).2
        rw [hop, ih (.inl fun m hm => ?_)]
        have hnot := List.filter_eq_nil_iff.mp hrest m hm
        cases hm : m.socket with
        | publisher => rfl
        | replier => exact absurd hm (by simpa using hnot)

-- ---------------------------------------------------------------------------
-- Handling
-- ---------------------------------------------------------------------------

theorem handle_ok {event : Event} :
    server.handle env event = .ok (server', ops) ↔ ∃ application output,
      step env.toExternals server.agentProxy.application event = .ok (application, output) ∧
      output.escaped = none ∧ ((server.setProxy { server.agentProxy with application }).sendAll
        output.sent) = (ops, server') := by
  simp only [handle, bind_eq_ok, Prod.exists]
  constructor
  · rintro ⟨application, output, hstep, h⟩
    cases hescaped : output.escaped with
    | some fault =>
      rw [hescaped] at h
      cases h
    | none =>
      rw [hescaped] at h
      cases h
      exact ⟨application, output, hstep, hescaped, rfl⟩
  · rintro ⟨application, output, hstep, hescaped, hsent⟩
    refine ⟨application, output, hstep, ?_⟩
    rw [hescaped]
    simp only [hsent]
    rfl

/-- What handling an event does: the machine makes a step, and the messages of
the step are sent. One of them may close the open request of the replier. -/
structure Handled (env : AgentExternals) (server : Server zmq) (event : Event)
    (server' : Server zmq) (ops : List SocketOp) (application : Application) (output : Output) :
    Prop where
  steps : step env.toExternals server.agentProxy.application event = .ok (application, output)
  escaped : output.escaped = none
  result : SendsTo (server.setProxy { server.agentProxy with application })
    (output.sent.all fun message => message.socket = .publisher) server'
  sends : (event.IsRequest → server.owesReply .replier = true) →
    ops = output.sent.map .sent

theorem handled_of_handle {event : Event} (h : server.handle env event = .ok (server', ops)) :
    ∃ application output, Handled env server event server' ops application output := by
  obtain ⟨application, output, hstep, hescaped, hsent⟩ := handle_ok.mp h
  have hserver := @sendsTo_sendAll _ (server.setProxy { server.agentProxy with application })
    output.sent
  rw [hsent] at hserver
  refine ⟨application, output, hstep, hescaped, hserver, fun howes => ?_⟩
  have hops := congrArg Prod.fst hsent
  rw [← show _ = ops from hops]
  refine sendAll_ops ?_
  have hmeant := step_replies hstep
  by_cases hrequest : event.IsRequest
  · obtain ⟨message, time, rfl⟩ := hrequest
    by_cases hasks : message.AsksReply
    · obtain ⟨answer, honly, -⟩ := hmeant.1 hasks hescaped
      exact .inr ⟨by simpa using howes ⟨message, time, rfl⟩, answer, honly⟩
    · exact .inl (publishesOnly_iff.mpr (hmeant.2 hasks))
  · refine .inl (publishesOnly_iff.mpr ?_)
    cases event with
    | message message channel time =>
      cases channel with
      | publish => exact hmeant
      | reply => exact absurd ⟨message, time, rfl⟩ hrequest
    | _ => exact hmeant

section
variable {event : Event} {application : Application} {output : Output}

theorem Handled.agentProxy (h : Handled env server event server' ops application output) :
    server'.agentProxy = { server.agentProxy with application } := by
  obtain ⟨inbox, rfl, -⟩ := h.result
  simp

theorem Handled.point (h : Handled env server event server' ops application output) :
    server'.point = server.point := by
  obtain ⟨inbox, rfl, -⟩ := h.result
  simp

theorem Handled.channels (h : Handled env server event server' ops application output) :
    server'.channels = server.channels := by
  obtain ⟨inbox, rfl, -⟩ := h.result
  simp

theorem Handled.previousTic (h : Handled env server event server' ops application output) :
    server'.previousTic = server.previousTic := by
  obtain ⟨inbox, rfl, -⟩ := h.result
  simp

theorem Handled.ticDuration (h : Handled env server event server' ops application output) :
    server'.ticDuration = server.ticDuration := by
  obtain ⟨inbox, rfl, -⟩ := h.result
  simp

theorem Handled.waiting (h : Handled env server event server' ops application output)
    (socket : InSocket) : server'.waiting socket = server.waiting socket := by
  obtain ⟨inbox, rfl, hwaiting, -⟩ := h.result
  by_cases hsocket : socket = .replier
  · subst hsocket
    simpa using hwaiting
  · simp [hsocket]

theorem Handled.owesReply (h : Handled env server event server' ops application output)
    (hsocket : socket ≠ .replier) : server'.owesReply socket = server.owesReply socket := by
  obtain ⟨inbox, rfl, -⟩ := h.result
  simp [hsocket]

theorem Handled.replier_owesReply (h : Handled env server event server' ops application output) :
    server'.owesReply .replier = (server.owesReply .replier &&
      output.sent.all fun message => message.socket = .publisher) := by
  obtain ⟨inbox, rfl, -, howes⟩ := h.result
  simpa using howes

end

-- ---------------------------------------------------------------------------
-- Turns
-- ---------------------------------------------------------------------------

/-- What `feedAgentProxy` does: nothing, or one command, which is answered. -/
inductive AgentFed (env : AgentExternals) (localTime : Instant) (server : Server zmq) :
    Server zmq → List SocketOp → Prop
  | nothing (hnone : server.receiveString .agentSocket = none) :
      AgentFed env localTime server server []
  | command {message : Str} {received : Server zmq} {inbox : zmq.Inbox}
      {stepped : AgentProxy.Stepped}
      (hreceived : server.receiveString .agentSocket = some (message, received))
      (hwaiting : server.waiting .agentSocket = message ::ₘ zmq.waiting inbox)
      (hanswered : zmq.owesReply inbox = false)
      (hstep : AgentProxy.step env localTime server.agentProxy message = .ok stepped) :
      AgentFed env localTime server
        ((server.setInbox .agentSocket inbox).setProxy stepped.proxy)
        [.received .agentSocket message, .answered stepped.reply]

theorem agentFed_of_feed (h : server.feedAgentProxy env localTime = .ok (server', ops)) :
    AgentFed env localTime server server' ops := by
  unfold feedAgentProxy at h
  split at h
  · next hnone => cases h; exact .nothing hnone
  · next message received hreceived =>
    obtain ⟨inbox, hrecv, rfl⟩ := receiveString_eq_some.mp hreceived
    simp only [bind_eq_ok, setProxy_inbox, setInbox_inbox_self] at h
    obtain ⟨stepped, hstep, h⟩ := h
    -- the request is open, so the reply is sent
    have hopen : zmq.owesReply inbox = true := zmq.owesReply_recv hrecv
    split at h
    · next inbox' hsend =>
      cases h
      rw [setProxy_setInbox, setInbox_setInbox, ← setProxy_setInbox]
      refine .command hreceived ?_ (zmq.owesReply_send hsend) hstep
      rw [zmq.waiting_send hsend]
      exact zmq.waiting_recv hrecv
    · next hnone => cases hopen.symm.trans ((zmq.send_eq_none _).mp hnone)

/-- What one input does, for each point of the loop. -/
inductive Advances (env : AgentExternals) (server : Server zmq) :
    LoopInput → Server zmq → List SocketOp → Prop
  | arrives (socket : InSocket) (peer : Nat) (text : Str) :
      Advances env server (.arrives socket peer text) (server.arrive socket peer text) []
  | signal {server' : Server zmq} {ops : List SocketOp}
      (hhandle : server.handle env (.agent .stopApplication 0) = .ok (server', ops)) :
      Advances env server .signal server' ops
  | starts (localTime : Instant) (hpoint : server.point = .starting) :
      Advances env server (.turn localTime)
        { server with mainLoopRunning := true, point := .entering } []
  | ends (localTime : Instant) (hpoint : server.point = .entering)
      (hrunning : server.mainLoopRunning = false) :
      Advances env server (.turn localTime) { server with point := .ended } []
  | enters {localTime : Instant} {server' : Server zmq} {ops : List SocketOp}
      (hpoint : server.point = .entering) (hrunning : server.mainLoopRunning = true)
      (hfed : AgentFed env localTime server server' ops) :
      Advances env server (.turn localTime) { server' with point := .looping } ops
  | breaks (localTime : Instant) (hpoint : server.point = .looping)
      (hforced : server.forcedStop = true) :
      Advances env server (.turn localTime) { server with point := .entering } []
  | polls {localTime : Instant} {server' : Server zmq} {ops : List SocketOp}
      (hpoint : server.point = .looping) (hforced : server.forcedStop = false)
      (hhandle : server.handle env (.clock localTime) = .ok (server', ops))
      (hearly : (localTime.val : Int) - server.previousTic.val < server.ticDuration) :
      Advances env server (.turn localTime) { server' with point := .polling server'.channels } ops
  | due {localTime : Instant} {server' : Server zmq} {ops : List SocketOp}
      (hpoint : server.point = .looping) (hforced : server.forcedStop = false)
      (hhandle : server.handle env (.clock localTime) = .ok (server', ops))
      (hdue : server.ticDuration ≤ (localTime.val : Int) - server.previousTic.val) :
      Advances env server (.turn localTime) { server' with point := .ticking localTime } ops
  | misses (localTime : Instant) {channel : Channel} {left : List Channel}
      (hpoint : server.point = .polling (channel :: left))
      (hnone : server.receiveString channel.socket = none) :
      Advances env server (.turn localTime) { server with point := .polling left } []
  | takes {localTime : Instant} {channel : Channel} {left : List Channel} {messageData : Str}
      {received server' : Server zmq} {ops : List SocketOp}
      (hpoint : server.point = .polling (channel :: left))
      (hreceived : server.receiveString channel.socket = some (messageData, received))
      (hhandle : received.handle env (.message (Socket.parts messageData) channel localTime) =
        .ok (server', ops)) :
      Advances env server (.turn localTime)
        { server' with
          channels := nextPermutation Channel.lt server'.channels, point := .entering }
        (.received channel.socket messageData :: ops)
  | idles (localTime : Instant) (hpoint : server.point = .polling []) :
      Advances env server (.turn localTime)
        { server with
          channels := nextPermutation Channel.lt server.channels, point := .looping } []
  | tics {localTime currentTic : Instant} {server₁ server' : Server zmq} {fed ops : List SocketOp}
      (hpoint : server.point = .ticking currentTic)
      (hfed : AgentFed env localTime server server₁ fed)
      (hhandle : server₁.handle env .tic = .ok (server', ops)) :
      Advances env server (.turn localTime)
        { server' with previousTic := currentTic, point := .looping } (fed ++ ops)
  | rests (localTime : Instant) (hpoint : server.point = .ended) :
      Advances env server (.turn localTime) server []

theorem advances_of_advance {input : LoopInput}
    (h : server.advance env input = .ok (server', ops)) :
    Advances env server input server' ops := by
  cases input with
  | arrives socket peer text => cases h; exact .arrives socket peer text
  | signal => exact .signal h
  | turn localTime =>
    simp only [advance, turn] at h
    split at h
    · next hpoint => cases h; exact .starts localTime hpoint
    · next hpoint =>
      split at h
      · next hrunning =>
        simp only [bind_eq_ok, pure_eq_ok, Prod.exists, Prod.mk.injEq] at h
        obtain ⟨_, _, hfeed, rfl, rfl⟩ := h
        exact .enters hpoint hrunning (agentFed_of_feed hfeed)
      · next hrunning => cases h; exact .ends localTime hpoint (by simpa using hrunning)
    · next hpoint =>
      split at h
      · next hforced => cases h; exact .breaks localTime hpoint hforced
      · next hforced =>
        simp only [bind_eq_ok, Prod.exists] at h
        obtain ⟨server₁, ops₁, hhandle, h⟩ := h
        obtain ⟨_, _, hhandled⟩ := handled_of_handle hhandle
        split at h
        · next hearly =>
          cases h
          rw [hhandled.previousTic, hhandled.ticDuration] at hearly
          exact .polls hpoint (by simpa using hforced) hhandle hearly
        · next hdue =>
          cases h
          rw [hhandled.previousTic, hhandled.ticDuration] at hdue
          exact .due hpoint (by simpa using hforced) hhandle (not_lt.mp hdue)
    · next channel left hpoint =>
      split at h
      · next hnone => cases h; exact .misses localTime hpoint hnone
      · next messageData received hreceived =>
        simp only [bind_eq_ok, pure_eq_ok, Prod.exists, Prod.mk.injEq] at h
        obtain ⟨_, _, hhandle, rfl, rfl⟩ := h
        exact .takes hpoint hreceived hhandle
    · next hpoint => cases h; exact .idles localTime hpoint
    · next currentTic hpoint =>
      simp only [bind_eq_ok, pure_eq_ok, Prod.exists, Prod.mk.injEq] at h
      obtain ⟨_, _, hfeed, _, _, hhandle, rfl, rfl⟩ := h
      exact .tics hpoint (agentFed_of_feed hfeed) hhandle
    · next hpoint => cases h; exact .rests localTime hpoint

end Server

end ServerGame
