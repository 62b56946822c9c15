import ServerGame.Loop.Refinement

/-!
# Delivery

What waits at a socket is received once or goes on waiting. On the replier each
hello and each registration is answered before anything else is received; the
first request of another kind is never answered, and nothing is received there
after it.
-/

namespace ServerGame

variable {zmq : Zmq} {env : AgentExternals} {server server' : Server zmq} {ops : List SocketOp}
  {event : Event} {localTime : Instant} {input : LoopInput} {socket : InSocket}

-- ---------------------------------------------------------------------------
-- What is received
-- ---------------------------------------------------------------------------

def LoopInput.arrival (socket : InSocket) : LoopInput → Multiset Str
  | .arrives other _ text => if other = socket then {text} else 0
  | _ => 0

def received (socket : InSocket) (ops : List SocketOp) : List Str :=
  ops.filterMap fun
    | .received other text => if other = socket then some text else none
    | _ => none

@[simp] theorem received_nil : received socket [] = [] := rfl

theorem received_append (ops ops' : List SocketOp) :
    received socket (ops ++ ops') = received socket ops ++ received socket ops' :=
  List.filterMap_append

theorem received_cons_self {text : Str} :
    received socket (.received socket text :: ops) = text :: received socket ops := by
  simp [received]

theorem received_cons_of_ne {other : InSocket} {text : Str} (h : other ≠ socket) :
    received socket (.received other text :: ops) = received socket ops := by
  simp [received, h]

namespace Server

theorem sendAll_received (sent : List Sent) : received socket (server.sendAll sent).1 = [] := by
  induction sent generalizing server with
  | nil => rfl
  | cons message rest ih =>
    have hrest := @ih (server.send message).2
    rw [sendAll_cons]
    rcases server.send_op message with hop | hop <;> rw [hop] <;> exact hrest

theorem received_handle (socket : InSocket) (h : server.handle env event = .ok (server', ops)) :
    received socket ops = [] := by
  obtain ⟨_, _, -, -, hsent⟩ := handle_ok.mp h
  rw [← show _ = ops from congrArg Prod.fst hsent]
  exact sendAll_received _

def Delivers (socket : InSocket) (server server' : Server zmq) (ops : List SocketOp) : Prop :=
  server.waiting socket = received socket ops + server'.waiting socket

theorem Delivers.refl (h : server'.waiting socket = server.waiting socket) :
    Delivers socket server server' [] := by
  rw [Delivers, h]
  exact (zero_add _).symm

theorem Delivers.append {server₁ : Server zmq} {ops₁ : List SocketOp}
    (h : Delivers socket server server₁ ops₁) (h' : Delivers socket server₁ server' ops) :
    Delivers socket server server' (ops₁ ++ ops) := by
  rw [Delivers, h, h', received_append, ← Multiset.coe_add, add_assoc]

theorem delivers_handle (socket : InSocket) (h : server.handle env event = .ok (server', ops)) :
    Delivers socket server server' ops := by
  obtain ⟨application, output, hhandled⟩ := handled_of_handle h
  rw [Delivers, received_handle socket h, hhandled.waiting]
  exact (zero_add _).symm

theorem delivers_received (socket : InSocket) {messageData : Str} {other : InSocket}
    (h : server.receiveString other = some (messageData, server')) :
    Delivers socket server server' [.received other messageData] := by
  unfold Delivers
  by_cases hother : socket = other
  · subst hother
    rw [received_cons_self, (receives h).1]
    exact (Multiset.singleton_add _ _).symm
  · rw [received_cons_of_ne (Ne.symm hother), (receives_other h hother).1]
    exact (zero_add _).symm

theorem delivers_agentFed (socket : InSocket) (h : AgentFed env localTime server server' ops) :
    Delivers socket server server' ops := by
  cases h with
  | nothing _ => exact .refl rfl
  | @command message received inbox stepped _ hwaiting _ _ =>
    unfold Delivers
    rw [setProxy_waiting]
    by_cases hsocket : socket = .agentSocket
    · subst hsocket
      rw [received_cons_self, setInbox_waiting_self, hwaiting]
      exact (Multiset.singleton_add _ _).symm
    · rw [received_cons_of_ne (Ne.symm hsocket), setInbox_waiting_of_ne hsocket]
      exact (zero_add _).symm

theorem delivers_advance (h : server.advance env input = .ok (server', ops)) :
    server.waiting socket + input.arrival socket =
      received socket ops + server'.waiting socket := by
  have hturn : input.arrival socket = 0 → Delivers socket server server' ops →
      server.waiting socket + input.arrival socket =
        received socket ops + server'.waiting socket := by
    intro hnone hdelivers
    rw [hnone, add_zero, hdelivers]
  cases advances_of_advance h with
  | arrives other peer text =>
    by_cases hother : other = socket
    · subst hother
      rw [waiting_arrive, LoopInput.arrival, if_pos rfl, Multiset.add_comm]
      exact (Multiset.singleton_add _ _).trans (zero_add _).symm
    · rw [arrive, setInbox_waiting_of_ne (Ne.symm hother), LoopInput.arrival, if_neg hother]
      exact Multiset.add_comm _ _
  | starts | ends | breaks | misses | idles | rests =>
    exact hturn rfl (.refl rfl)
  | signal hhandle | polls _ _ hhandle _ | due _ _ hhandle _ =>
    have hdelivers := delivers_handle socket hhandle
    exact hturn rfl hdelivers
  | enters _ _ hfed =>
    have hdelivers := delivers_agentFed socket hfed
    exact hturn rfl hdelivers
  | takes _ hreceived hhandle =>
    have hdelivers := (delivers_received socket hreceived).append (delivers_handle socket hhandle)
    exact hturn rfl hdelivers
  | tics _ hfed hhandle =>
    have hdelivers := (delivers_agentFed socket hfed).append (delivers_handle socket hhandle)
    exact hturn rfl hdelivers

end Server

-- ---------------------------------------------------------------------------
-- The replier
-- ---------------------------------------------------------------------------

def SocketOp.isOnReplier : SocketOp → Bool
  | .received socket _ => decide (socket = .replier)
  | .sent message => decide (message.socket = .replier)
  | .refused _ => true
  | .answered _ => false

def exchange (entry : Str × Sent) : List SocketOp := [.received .replier entry.1, .sent entry.2]

def IsAnswered (entry : Str × Sent) : Prop :=
  (Socket.parts entry.1).AsksReply ∧ entry.2.routingId = (Socket.parts entry.1).routingId

/-- What a turn does on the replier, and whether a request is open there before
and behind it: nothing, an exchange, or a request that is not answered. -/
inductive OnReplier : Bool → Bool → List SocketOp → Prop
  | nothing (owes : Bool) : OnReplier owes owes []
  | exchange {entry : Str × Sent} (hanswered : IsAnswered entry) :
      OnReplier false false (exchange entry)
  | unanswered {text : Str} (hother : ¬(Socket.parts text).AsksReply) :
      OnReplier false true [.received .replier text]

namespace Server

theorem filter_sent (sent : List Sent) :
    (sent.map SocketOp.sent).filter SocketOp.isOnReplier =
      (sent.filter fun message => message.socket = .replier).map .sent := by
  rw [List.filter_map]
  rfl

theorem all_publisher_iff {sent : List Sent} :
    sent.all (fun message => message.socket = .publisher) = true ↔ PublishesOnly sent := by
  simp [PublishesOnly]

theorem onReplier_handle (h : server.handle env event = .ok (server', ops))
    (hevent : ¬event.IsRequest) : ops.filter SocketOp.isOnReplier = [] ∧
      server'.owesReply .replier = server.owesReply .replier := by
  obtain ⟨application, output, hhandled⟩ := handled_of_handle h
  have hnone : output.onReplier = [] := by
    have hmeant := step_replies hhandled.steps
    cases event with
    | message message channel time =>
      cases channel with
      | publish => exact hmeant
      | reply => exact absurd ⟨message, time, rfl⟩ hevent
    | _ => exact hmeant
  constructor
  · rw [hhandled.sends fun hrequest => absurd hrequest hevent, filter_sent]
    exact List.map_eq_nil_iff.mpr hnone
  · rw [hhandled.replier_owesReply, all_publisher_iff.mpr (publishesOnly_iff.mpr hnone),
      Bool.and_true]

theorem onReplier_agentFed (h : AgentFed env localTime server server' ops) :
    ops.filter SocketOp.isOnReplier = [] ∧
      server'.owesReply .replier = server.owesReply .replier := by
  cases h with
  | nothing _ => exact ⟨rfl, rfl⟩
  | command _ _ _ _ => exact ⟨rfl, by simp⟩

theorem onReplier_request {text : Str} (howes : server.owesReply .replier = true)
    (h : server.handle env (.message (Socket.parts text) .reply localTime) = .ok (server', ops)) :
    OnReplier false (server'.owesReply .replier)
      ((.received .replier text :: ops).filter SocketOp.isOnReplier) := by
  obtain ⟨application, output, hhandled⟩ := handled_of_handle h
  have hmeant := step_replies hhandled.steps
  rw [List.filter_cons_of_pos (by rfl), hhandled.sends fun _ => howes, filter_sent,
    hhandled.replier_owesReply, howes, Bool.true_and]
  by_cases hasks : (Socket.parts text).AsksReply
  · obtain ⟨answer, honly, hid⟩ := hmeant.1 hasks hhandled.escaped
    have hclosed : output.sent.all (fun message => message.socket = .publisher) = false := by
      refine Bool.eq_false_iff.mpr fun hall => ?_
      rw [publishesOnly_iff.mp (all_publisher_iff.mp hall)] at honly
      cases honly
    rw [hclosed, show output.sent.filter (fun message => message.socket = .replier) = [answer] from
      honly]
    have hanswered : IsAnswered (text, answer) := ⟨hasks, hid⟩
    exact .exchange hanswered
  · have hnone := hmeant.2 hasks
    rw [all_publisher_iff.mpr (publishesOnly_iff.mpr hnone),
      show output.sent.filter (fun message => message.socket = .replier) = [] from hnone]
    exact .unanswered hasks

theorem onReplier_advance (h : server.advance env input = .ok (server', ops)) :
    OnReplier (server.owesReply .replier) (server'.owesReply .replier)
      (ops.filter SocketOp.isOnReplier) := by
  have hidle : ops.filter SocketOp.isOnReplier = [] ∧
      server'.owesReply .replier = server.owesReply .replier →
      OnReplier (server.owesReply .replier) (server'.owesReply .replier)
        (ops.filter SocketOp.isOnReplier) := by
    rintro ⟨hnone, howes⟩
    rw [hnone, howes]
    exact .nothing _
  cases advances_of_advance h with
  | arrives socket peer text => exact hidle ⟨rfl, owesReply_arrive socket peer text⟩
  | starts | ends | breaks | misses | idles | rests => exact hidle ⟨rfl, rfl⟩
  | signal hhandle | polls _ _ hhandle _ | due _ _ hhandle _ =>
    have hnothing := onReplier_handle hhandle (Event.not_isRequest nofun)
    exact hidle hnothing
  | enters _ _ hfed =>
    have hnothing := onReplier_agentFed hfed
    exact hidle hnothing
  | @takes localTime channel _ messageData received _ ops _ hreceived hhandle =>
    cases channel with
    | publish =>
      have hpublish := onReplier_handle hhandle (Event.publish_not_isRequest _ _)
      have howes := (receives_other hreceived (show InSocket.replier ≠ .puller by nofun)).2
      refine hidle ⟨?_, hpublish.2.trans howes⟩
      rw [List.filter_cons_of_neg (by simp [SocketOp.isOnReplier, Channel.socket])]
      exact hpublish.1
    | reply =>
      obtain ⟨-, hfree, howes⟩ := receives hreceived
      have hrequest := onReplier_request howes hhandle
      rw [show server.owesReply .replier = false from hfree]
      exact hrequest
  | tics _ hfed hhandle =>
    obtain ⟨hnone, howes⟩ := onReplier_agentFed hfed
    obtain ⟨hnone', howes'⟩ := onReplier_handle hhandle (Event.not_isRequest nofun)
    refine hidle ⟨?_, howes'.trans howes⟩
    rw [List.filter_append, hnone, hnone', List.append_nil]

end Server

/-- In every run the replier is used like this: requests that ask for a reply,
hellos and registrations, and for each its answer, sent to its sender before
anything else happens there; and behind them at most one request of another
kind, after which nothing is received and nothing sent there any more. -/
theorem replier_discipline (zmq : Zmq) (env : AgentExternals) (proxy : AgentProxy)
    (ticDuration : Int) (previousTic : Instant) (inputs : List LoopInput) (server : Server zmq)
    (opss : List (List SocketOp))
    (hrun : Lib.run (Server.advance env) (Server.launch zmq proxy ticDuration previousTic) inputs =
      .ok (server, opss)) :
    ∃ (entries : List (Str × Sent)) (last : Option Str),
      opss.flatten.filter SocketOp.isOnReplier =
        entries.flatMap exchange ++ last.toList.map (.received .replier) ∧
      (∀ entry ∈ entries, IsAnswered entry) ∧
      (∀ text ∈ last, ¬(Socket.parts text).AsksReply) ∧
      server.owesReply .replier = last.isSome := by
  refine Lib.run_history (fun server _ opss => ∃ (entries : List (Str × Sent)) (last : Option Str),
    opss.flatten.filter SocketOp.isOnReplier =
      entries.flatMap exchange ++ last.toList.map (.received .replier) ∧
    (∀ entry ∈ entries, IsAnswered entry) ∧
    (∀ text ∈ last, ¬(Socket.parts text).AsksReply) ∧
    server.owesReply .replier = last.isSome)
    ⟨[], none, rfl, nofun, nofun, zmq.owesReply_bound⟩ ?_ hrun
  rintro server₁ _ opss input server₂ ops - ⟨entries, last, hops, hentries, hlast, howes⟩ hstep
  have hmore := Server.onReplier_advance hstep
  rw [List.flatten_append, List.flatten_singleton, List.filter_append, hops]
  generalize ops.filter SocketOp.isOnReplier = more at hmore
  rw [howes] at hmore
  generalize hopen : last.isSome = owes at hmore
  generalize server₂.owesReply .replier = owes' at hmore
  cases hmore with
  | nothing => exact ⟨entries, last, by simp, hentries, hlast, hopen.symm⟩
  | @exchange entry hanswered =>
    obtain rfl : last = none := Option.isNone_iff_eq_none.mp (Option.isSome_eq_false_iff.mp hopen)
    refine ⟨entries ++ [entry], none, by simp, fun other hother => ?_, nofun, rfl⟩
    rcases List.mem_append.mp hother with hother | hother
    · exact hentries other hother
    · exact List.mem_singleton.mp hother ▸ hanswered
  | @unanswered text hother =>
    obtain rfl : last = none := Option.isNone_iff_eq_none.mp (Option.isSome_eq_false_iff.mp hopen)
    refine ⟨entries, some text, by simp, hentries, ?_, rfl⟩
    rintro _ ⟨⟩
    exact hother

def helloPingHello : List LoopInput :=
  [.arrives .replier 0 "c Hello ".toList, .arrives .replier 0 "c Ping ".toList,
    .arrives .replier 0 "d Hello ".toList] ++ (List.range 12).map fun t => .turn (Fin.ofNat _ t)

theorem replier_discipline_ping :
    ∃ server opss,
      Lib.run (Server.advance .plain) (Server.launch .fifo (AgentProxy.launch [] 0 oneTeam) 1000 0)
        helloPingHello = .ok (server, opss) ∧
      ∃ (entries : List (Str × Sent)) (last : Option Str),
        opss.flatten.filter SocketOp.isOnReplier =
          entries.flatMap exchange ++ last.toList.map (.received .replier) ∧
        (∀ entry ∈ entries, IsAnswered entry) ∧
        (∀ text ∈ last, ¬(Socket.parts text).AsksReply) ∧
        server.owesReply .replier = last.isSome :=
  ⟨_, _, rfl, replier_discipline .fifo .plain (AgentProxy.launch [] 0 oneTeam) 1000 0
    helloPingHello _ _ rfl⟩

end ServerGame
