import ServerGame.Lib.Simulation
import ServerGame.Loop.Moves
import ServerGame.Proxy.JsonPrefix

/-!
# The loop runs the machine

Whatever comes and whenever, the main loop takes the game through a run of the
server machine that handles the messages the loop receives, in their order, and
sends what the loop sends; no exception was let out on the way. For the agent
it is a run of the proxy that answers each command it receives before the next.
-/

namespace ServerGame

open Lib (Simulates along bind_eq_ok pure_eq_ok trace)

-- ---------------------------------------------------------------------------
-- What a command does
-- ---------------------------------------------------------------------------

namespace AgentProxy

variable {env : AgentExternals} {localTime : Instant} {proxy : AgentProxy} {command : Str}
  {stepped : Stepped} {nested : AgentProxy → Str → Except Fault Stepped}

def carriesOut (env : AgentExternals) (proxy : AgentProxy) (text : Str) : Option Command :=
  match proxy.outputMode with
  | .text => commandOf env text
  | .json => none

theorem commandOf_of_carriesOut {parsed : Command}
    (h : carriesOut env proxy command = some parsed) :
    commandOf env command = some parsed := by
  unfold carriesOut at h
  split at h
  · exact h
  · cases h

theorem stepIn_application_json (hmode : proxy.outputMode = .json)
    (h : stepIn env localTime nested proxy command = .ok stepped) :
    stepped.proxy.application = proxy.application := by
  unfold stepIn at h
  dsimp only at h
  split at h
  · simp only [bind_eq_ok, pure_eq_ok] at h
    obtain ⟨_, -, rfl⟩ := h
    rfl
  · rw [hmode] at h
    have hrefuse : refuse env { result := false, reply := [], proxy } = .ok stepped := h
    rw [(refuse_ok hrefuse).2]

theorem step_application_prefix {app : Application}
    (hjson : firstToken command = "json".toList)
    (haction : actionNamed env .text app.game (firstToken command) = none)
    (h : step env localTime { application := app } command = .ok stepped) :
    stepped.proxy.application = app := by
  rw [step, stepIn_of_action haction, hjson, bind_eq_ok] at h
  obtain ⟨unrefused, htext, hrefuse⟩ := h
  rw [(refuse_ok hrefuse).2]
  unfold textStep at htext
  rw [if_neg (by decide), if_pos rfl] at htext
  split at htext
  · cases htext
  · simp only [bind_eq_ok, pure_eq_ok] at htext
    obtain ⟨direct, hdirect, rfl⟩ := htext
    have hsame : direct.proxy.application =
        ({ application := app, outputMode := .json } : AgentProxy).application :=
      stepIn_application_json rfl hdirect
    exact hsame

/-- A command that returns has been carried out as it was read, or has left the
application alone. -/
theorem step_application (h : step env localTime proxy command = .ok stepped) :
    carriesOut env proxy command = none ∧ stepped.proxy.application = proxy.application ∨
      ∃ parsed, carriesOut env proxy command = some parsed ∧ apply env.toExternals localTime
        proxy.application parsed = .ok stepped.proxy.application := by
  obtain ⟨app, _ | _⟩ := proxy
  · cases haction : actionNamed env .text app.game (firstToken command) with
    | some process =>
      have hnone := commandOf_eq_none_of app.game (.inl ⟨process, haction⟩)
      unfold firstToken at haction
      simp only [step, stepIn, haction, bind_eq_ok, pure_eq_ok] at h
      obtain ⟨_, -, rfl⟩ := h
      exact .inl ⟨hnone, rfl⟩
    | none =>
      by_cases hjson : firstToken command = "json".toList
      · refine .inl ⟨?_, step_application_prefix hjson haction h⟩
        simp only [carriesOut, commandOf, hjson]
        rfl
      · by_cases hping : firstToken command = "ping".toList
        · have hnone := @commandOf_eq_none_of env command app.game (.inr hping)
          unfold firstToken at hping
          simp only [step, stepIn, hping] at h
          cases h
          exact .inl ⟨hnone, rfl⟩
        · cases hcommand : commandOf env command with
          | none =>
            rw [step, stepIn_refused haction hping hjson hcommand] at h
            cases h
            exact .inl ⟨hcommand, rfl⟩
          | some parsed =>
            rw [step, stepIn_carriedOut haction hping hjson hcommand] at h
            simp only [bind_eq_ok, pure_eq_ok] at h
            obtain ⟨application, happly, rfl⟩ := h
            exact .inr ⟨parsed, hcommand, happly⟩
  · exact .inl ⟨rfl, stepIn_application_json rfl h⟩

end AgentProxy

-- ---------------------------------------------------------------------------
-- What is seen
-- ---------------------------------------------------------------------------

inductive Seen
  | handled (channel : Channel) (message : RawMessage)
  | sent (message : Sent)
  | escaped (fault : Fault)

def Event.seen (event : Event) (output : Output) : List Seen :=
  (match event with
    | .message raw channel _ => [.handled channel raw]
    | _ => []) ++ output.sent.map .sent ++ output.escaped.toList.map .escaped

def SocketOp.seen : SocketOp → Option Seen
  | .received .agentSocket _ => none
  | .received .puller text => some (.handled .publish (Socket.parts text))
  | .received .replier text => some (.handled .reply (Socket.parts text))
  | .sent message | .refused message => some (.sent message)
  | .answered _ => none

def SocketOp.isOfAgent : SocketOp → Bool
  | .received .agentSocket _ | .answered _ => true
  | _ => false

def Fed.seen : Fed → Option (Bool × Str) → List SocketOp
  | .text command _, some (_, reply) => [.received .agentSocket command, .answered reply]
  | _, _ => []

/-- What a machine without an agent is fed instead. -/
def Fed.events (env : AgentExternals) (proxy : AgentProxy) : Fed → List Event
  | .event input => [input]
  | .text command localTime =>
    (AgentProxy.carriesOut env proxy command).toList.map fun parsed => .agent parsed localTime

section
variable {zmq : Zmq} {server : Server zmq}

theorem SocketOp.seen_received (channel : Channel) (text : Str) :
    SocketOp.seen (.received channel.socket text) =
      some (.handled channel (Socket.parts text)) := by
  cases channel <;> rfl

theorem SocketOp.isOfAgent_received (channel : Channel) (text : Str) :
    SocketOp.isOfAgent (.received channel.socket text) = false := by
  cases channel <;> rfl

theorem Server.send_op (message : Sent) :
    (server.send message).1 = .sent message ∨ (server.send message).1 = .refused message := by
  unfold Server.send
  split
  · exact .inl rfl
  · split
    · exact .inl rfl
    · exact .inr rfl

theorem Server.sendAll_seen (sent : List Sent) :
    (server.sendAll sent).1.filterMap SocketOp.seen = sent.map .sent ∧
      (server.sendAll sent).1.filter SocketOp.isOfAgent = [] := by
  induction sent generalizing server with
  | nil => exact ⟨rfl, rfl⟩
  | cons message rest ih =>
    obtain ⟨hseen', hagent'⟩ := @ih (server.send message).2
    have hseen : (server.send message).1.seen = some (.sent message) ∧
        (server.send message).1.isOfAgent = false := by
      rcases server.send_op message with hop | hop <;> rw [hop] <;> exact ⟨rfl, rfl⟩
    rw [sendAll_cons]
    constructor
    · rw [List.filterMap_cons_some hseen.1, hseen', List.map_cons]
    · rw [List.filter_cons_of_neg (by simp [hseen.2]), hagent']

end

namespace Server

variable {zmq : Zmq} {env : AgentExternals} {server server' : Server zmq} {ops : List SocketOp}
  {event : Event} {localTime : Instant} {input : LoopInput}

theorem handle_seen (h : server.handle env event = .ok (server', ops)) :
    ∃ application output, step env.toExternals server.agentProxy.application event =
        .ok (application, output) ∧ server'.agentProxy = { server.agentProxy with application } ∧
      ops.filterMap SocketOp.seen = output.sent.map .sent ∧
      ops.filter SocketOp.isOfAgent = [] ∧ output.escaped = none := by
  obtain ⟨application, output, hhandled⟩ := handled_of_handle h
  obtain ⟨application', output', hstep, -, hsent⟩ := handle_ok.mp h
  obtain ⟨rfl, rfl⟩ := Prod.mk.inj (Except.ok.inj (hhandled.steps.symm.trans hstep))
  obtain ⟨hseen, hagent⟩ :=
    (server.setProxy { server.agentProxy with application }).sendAll_seen output.sent
  rw [hsent] at hseen hagent
  exact ⟨application, output, hhandled.steps, hhandled.agentProxy, hseen, hagent, hhandled.escaped⟩

-- ---------------------------------------------------------------------------
-- What the loop feeds
-- ---------------------------------------------------------------------------

def commandFed (server : Server zmq) (localTime : Instant) : List Fed :=
  match server.receiveString .agentSocket with
  | some (message, _) => [.text message localTime]
  | none => []

/-- What the input makes of the loop: the command that is received, the reading of
the clock, the message that is received, the tic, or the stop by a signal. -/
def fed (server : Server zmq) : LoopInput → List Fed
  | .arrives .. => []
  | .signal => [.event (.agent .stopApplication 0)]
  | .turn localTime =>
    match server.point with
    | .entering => if server.mainLoopRunning then server.commandFed localTime else []
    | .looping => if server.forcedStop then [] else [.event (.clock localTime)]
    | .polling (channel :: _) =>
      match server.receiveString channel.socket with
      | some (messageData, _) => [.event (.message (Socket.parts messageData) channel localTime)]
      | none => []
    | .ticking _ => server.commandFed localTime ++ [.event .tic]
    | .starting | .polling [] | .ended => []

def events (env : AgentExternals) (server : Server zmq) (input : LoopInput) : List Event :=
  (server.fed input).flatMap (Fed.events env server.agentProxy)

def Shows (env : AgentExternals) (server server' : Server zmq) (events : List Event)
    (ops : List SocketOp) : Prop :=
  ∃ outputs, run env.toExternals server.agentProxy.application events =
    .ok (server'.agentProxy.application, outputs) ∧
      trace Event.seen events outputs = ops.filterMap SocketOp.seen

theorem Shows.refl (h : server'.agentProxy.application = server.agentProxy.application) :
    Shows env server server' [] [] :=
  ⟨[], Lib.run_nil.mpr (by rw [h]), rfl⟩

theorem Shows.append {server₁ : Server zmq} {events events' : List Event}
    {ops₁ : List SocketOp} (h : Shows env server server₁ events ops₁)
    (h' : Shows env server₁ server' events' ops) :
    Shows env server server' (events ++ events') (ops₁ ++ ops) := by
  obtain ⟨outputs, hrun, hseen⟩ := h
  obtain ⟨outputs', hrun', hseen'⟩ := h'
  refine ⟨outputs ++ outputs', Lib.run_append.mpr ⟨_, _, _, hrun, hrun', rfl⟩, ?_⟩
  rw [Lib.trace_append hrun, hseen, hseen', List.filterMap_append]

theorem shows_handle (h : server.handle env event = .ok (server', ops))
    (hevent : ∀ message channel time, event ≠ .message message channel time) :
    Shows env server server' [event] ops := by
  obtain ⟨application, output, hstep, hproxy, hseen, -, hescaped⟩ := handle_seen h
  refine ⟨[output], Lib.run_singleton.mpr ⟨output, by rw [hproxy]; exact hstep, rfl⟩, ?_⟩
  rw [hseen, Lib.trace_cons, Lib.trace_nil, List.append_nil]
  cases event with
  | message message channel time => exact absurd rfl (hevent message channel time)
  | _ => simp [Event.seen, hescaped]

theorem shows_agentFed (h : AgentFed env localTime server server' ops) :
    Shows env server server'
      ((server.commandFed localTime).flatMap (Fed.events env server.agentProxy)) ops := by
  cases h with
  | nothing hnone =>
    rw [commandFed, hnone]
    exact .refl rfl
  | @command message received inbox stepped hreceived _ _ hstep =>
    rw [commandFed, hreceived, List.flatMap_singleton, Fed.events]
    rcases AgentProxy.step_application hstep with ⟨hnone, hsame⟩ | ⟨parsed, hparsed, happly⟩
    · rw [hnone]
      exact ⟨[], Lib.run_nil.mpr (by simp [hsame]), rfl⟩
    · rw [hparsed]
      refine ⟨[{}], Lib.run_singleton.mpr ⟨{}, ?_, rfl⟩, rfl⟩
      simpa using step_agent.mpr ⟨happly, rfl⟩

theorem shows_advance (h : server.advance env input = .ok (server', ops)) :
    Shows env server server' (server.events env input) ops := by
  cases advances_of_advance h with
  | arrives => exact .refl rfl
  | starts _ hpoint | idles _ hpoint | rests _ hpoint =>
    rw [events, fed, hpoint]
    exact .refl rfl
  | ends _ hpoint hrunning =>
    simp only [events, fed, hpoint, hrunning]
    exact .refl rfl
  | breaks _ hpoint hforced =>
    simp only [events, fed, hpoint, hforced]
    exact .refl rfl
  | misses _ hpoint hnone =>
    simp only [events, fed, hpoint, hnone]
    exact .refl rfl
  | signal hhandle => exact shows_handle hhandle nofun
  | enters hpoint hrunning hfed =>
    have hshows := shows_agentFed hfed
    simp only [events, fed, hpoint, hrunning]
    exact hshows
  | polls hpoint hforced hhandle _ | due hpoint hforced hhandle _ =>
    have hshows := shows_handle hhandle nofun
    simp only [events, fed, hpoint, hforced]
    exact hshows
  | tics hpoint hfed hhandle =>
    have hshows := (shows_agentFed hfed).append (shows_handle hhandle nofun)
    simp only [events, fed, hpoint, List.flatMap_append]
    exact hshows
  | @takes localTime channel _ messageData received _ ops hpoint hreceived hhandle =>
    obtain ⟨inbox, -, rfl⟩ := receiveString_eq_some.mp hreceived
    obtain ⟨application, output, hstep, hproxy, hseen, -, hescaped⟩ := handle_seen hhandle
    simp only [events, fed, hpoint, hreceived]
    refine ⟨[output], Lib.run_singleton.mpr ⟨output, ?_, rfl⟩, ?_⟩
    · simpa [hproxy] using hstep
    · rw [List.filterMap_cons_some (SocketOp.seen_received channel messageData), hseen]
      simp [Lib.trace, Fed.events, Event.seen, hescaped]

theorem simulates_machine (env : AgentExternals) :
    Simulates (advance env) (fun _ ops => ops.filterMap SocketOp.seen) (step env.toExternals)
      Event.seen (events env) fun (server : Server zmq) application =>
        server.agentProxy.application = application := by
  rintro server input server' ops _ rfl h
  obtain ⟨outputs, hrun, hseen⟩ := shows_advance h
  exact ⟨_, outputs, hrun, rfl, hseen⟩

-- ---------------------------------------------------------------------------
-- The agent
-- ---------------------------------------------------------------------------

def Feeds (env : AgentExternals) (server server' : Server zmq) (fed : List Fed)
    (ops : List SocketOp) : Prop :=
  ∃ answers, Lib.run (AgentProxy.feed env) server.agentProxy fed =
    .ok (server'.agentProxy, answers) ∧
      trace Fed.seen fed answers = ops.filter SocketOp.isOfAgent

theorem Feeds.refl (h : server'.agentProxy = server.agentProxy) : Feeds env server server' [] [] :=
  ⟨[], Lib.run_nil.mpr (by rw [h]), rfl⟩

theorem Feeds.append {server₁ : Server zmq} {fed fed' : List Fed} {ops₁ : List SocketOp}
    (h : Feeds env server server₁ fed ops₁) (h' : Feeds env server₁ server' fed' ops) :
    Feeds env server server' (fed ++ fed') (ops₁ ++ ops) := by
  obtain ⟨answers, hrun, hseen⟩ := h
  obtain ⟨answers', hrun', hseen'⟩ := h'
  refine ⟨answers ++ answers', Lib.run_append.mpr ⟨_, _, _, hrun, hrun', rfl⟩, ?_⟩
  rw [Lib.trace_append hrun, hseen, hseen', List.filter_append]

theorem feeds_handle (h : server.handle env event = .ok (server', ops)) :
    Feeds env server server' [.event event] ops := by
  obtain ⟨application, output, hstep, hproxy, -, hagent, -⟩ := handle_seen h
  refine ⟨[none], Lib.run_singleton.mpr ⟨none, ?_, rfl⟩, hagent.symm⟩
  simp only [AgentProxy.feed, bind_eq_ok, pure_eq_ok, Prod.exists, Prod.mk.injEq, and_true]
  exact ⟨application, output, hstep, hproxy.symm⟩

theorem feeds_agentFed (h : AgentFed env localTime server server' ops) :
    Feeds env server server' (server.commandFed localTime) ops := by
  cases h with
  | nothing hnone =>
    rw [commandFed, hnone]
    exact .refl rfl
  | @command message received inbox stepped hreceived _ _ hstep =>
    rw [commandFed, hreceived]
    refine ⟨[some (stepped.result, stepped.reply)], Lib.run_singleton.mpr ⟨_, ?_, rfl⟩, rfl⟩
    simp only [AgentProxy.feed, bind_eq_ok, pure_eq_ok, Prod.mk.injEq, setProxy_agentProxy]
    exact ⟨stepped, hstep, rfl, rfl⟩

theorem feeds_advance (h : server.advance env input = .ok (server', ops)) :
    Feeds env server server' (server.fed input) ops := by
  cases advances_of_advance h with
  | arrives => exact .refl rfl
  | starts _ hpoint | idles _ hpoint | rests _ hpoint =>
    rw [fed, hpoint]
    exact .refl rfl
  | ends _ hpoint hrunning =>
    simp only [fed, hpoint, hrunning]
    exact .refl rfl
  | breaks _ hpoint hforced =>
    simp only [fed, hpoint, hforced]
    exact .refl rfl
  | misses _ hpoint hnone =>
    simp only [fed, hpoint, hnone]
    exact .refl rfl
  | signal hhandle => exact feeds_handle hhandle
  | enters hpoint hrunning hfed =>
    have hfeeds := feeds_agentFed hfed
    simp only [fed, hpoint, hrunning]
    exact hfeeds
  | polls hpoint hforced hhandle _ | due hpoint hforced hhandle _ =>
    have hfeeds := feeds_handle hhandle
    simp only [fed, hpoint, hforced]
    exact hfeeds
  | @takes localTime channel _ messageData received _ ops hpoint hreceived hhandle =>
    obtain ⟨inbox, -, rfl⟩ := receiveString_eq_some.mp hreceived
    obtain ⟨answers, hrun, hseen⟩ := feeds_handle hhandle
    simp only [fed, hpoint, hreceived]
    refine ⟨answers, hrun, ?_⟩
    rw [List.filter_cons_of_neg (by simp [SocketOp.isOfAgent_received]), hseen]
  | tics hpoint hfed hhandle =>
    have hfeeds := (feeds_agentFed hfed).append (feeds_handle hhandle)
    simp only [fed, hpoint]
    exact hfeeds

/-- To the agent the loop is a proxy that is fed its commands. -/
theorem simulates_proxy (env : AgentExternals) :
    Simulates (advance env) (fun _ ops => ops.filter SocketOp.isOfAgent) (AgentProxy.feed env)
      Fed.seen fed fun (server : Server zmq) proxy => server.agentProxy = proxy := by
  rintro server input server' ops _ rfl h
  obtain ⟨answers, hrun, hseen⟩ := feeds_advance h
  exact ⟨_, answers, hrun, rfl, hseen⟩

-- ---------------------------------------------------------------------------
-- Runs
-- ---------------------------------------------------------------------------

theorem trace_ops (seen : List SocketOp → List γ) (hnil : seen [] = [])
    (happend : ∀ ops ops', seen (ops ++ ops') = seen ops ++ seen ops') {inputs : List LoopInput}
    {opss : List (List SocketOp)} (hlength : inputs.length = opss.length) :
    trace (fun _ ops => seen ops) inputs opss = seen opss.flatten := by
  induction inputs generalizing opss with
  | nil =>
    cases List.length_eq_zero_iff.mp hlength.symm
    exact hnil.symm
  | cons input inputs ih =>
    cases opss with
    | nil => cases hlength
    | cons ops opss =>
      rw [Lib.trace_cons, ih (by simpa using hlength), List.flatten_cons, happend]

/-- What a machine that simulates the loop shows is what is seen of all the
operations. -/
theorem run_simulated {σ ι ο ε γ : Type*} {seen : List SocketOp → List γ} (hnil : seen [] = [])
    (happend : ∀ ops ops', seen (ops ++ ops') = seen ops ++ seen ops')
    {step' : σ → ι → Except ε (σ × ο)} {seen' : ι → ο → List γ}
    {f : Server zmq → LoopInput → List ι} {R : Server zmq → σ → Prop}
    (hsim : Simulates (advance env) (fun _ ops => seen ops) step' seen' f R) {t : σ}
    (hR : R server t) {inputs : List LoopInput} {opss : List (List SocketOp)}
    (hrun : Lib.run (advance env) server inputs = .ok (server', opss)) :
    ∃ t' os, Lib.run step' t (along (advance env) f server inputs) = .ok (t', os) ∧ R server' t' ∧
      trace seen' (along (advance env) f server inputs) os = seen opss.flatten := by
  obtain ⟨t', os, hrun', hR', hseen⟩ := hsim.run hR hrun
  exact ⟨t', os, hrun', hR', hseen.trans (trace_ops seen hnil happend (Lib.run_length hrun))⟩

theorem run_events {inputs : List LoopInput} {opss : List (List SocketOp)}
    (hrun : Lib.run (advance env) server inputs = .ok (server', opss)) :
    ∃ outputs,
      run env.toExternals server.agentProxy.application
          (along (advance env) (events env) server inputs) =
        .ok (server'.agentProxy.application, outputs) ∧
      trace Event.seen (along (advance env) (events env) server inputs) outputs =
        opss.flatten.filterMap SocketOp.seen := by
  obtain ⟨_, outputs, hevents, rfl, hseen⟩ :=
    run_simulated rfl (fun _ _ => List.filterMap_append) (simulates_machine env) rfl hrun
  exact ⟨outputs, hevents, hseen⟩

/-- Whatever arrives at the sockets, whatever the clock says and whenever a
signal comes: the server machine, given what the loop receives, reads and does
event by event, comes to the application of the loop, handles the messages the
loop receives and sends the messages it sends, and lets no exception out. -/
theorem loop_refines_machine (zmq : Zmq) (env : AgentExternals) (proxy : AgentProxy)
    (ticDuration : Int) (previousTic : Instant) (inputs : List LoopInput) (server : Server zmq)
    (opss : List (List SocketOp))
    (hrun : Lib.run (advance env) (launch zmq proxy ticDuration previousTic) inputs =
      .ok (server, opss)) :
    ∃ outputs,
      run env.toExternals proxy.application
          (along (advance env) (events env) (launch zmq proxy ticDuration previousTic) inputs) =
        .ok (server.agentProxy.application, outputs) ∧
      trace Event.seen
          (along (advance env) (events env) (launch zmq proxy ticDuration previousTic) inputs)
          outputs =
        opss.flatten.filterMap SocketOp.seen :=
  run_events hrun

/-- The commands the loop receives from the agent are fed to its proxy one by
one, each in the state the loop has come to, and each is answered what the
proxy answers before the next is received. -/
theorem loop_refines_proxy (zmq : Zmq) (env : AgentExternals) (proxy : AgentProxy)
    (ticDuration : Int) (previousTic : Instant) (inputs : List LoopInput) (server : Server zmq)
    (opss : List (List SocketOp))
    (hrun : Lib.run (advance env) (launch zmq proxy ticDuration previousTic) inputs =
      .ok (server, opss)) :
    ∃ answers,
      Lib.run (AgentProxy.feed env) proxy
          (along (advance env) fed (launch zmq proxy ticDuration previousTic) inputs) =
        .ok (server.agentProxy, answers) ∧
      trace Fed.seen (along (advance env) fed (launch zmq proxy ticDuration previousTic) inputs)
          answers =
        opss.flatten.filter SocketOp.isOfAgent := by
  obtain ⟨_, answers, hfed, rfl, hseen⟩ :=
    run_simulated rfl (fun _ _ => List.filter_append ..) (simulates_proxy env) rfl hrun
  exact ⟨answers, hfed, hseen⟩

end Server

def agentThenHello : List LoopInput :=
  [.arrives .agentSocket 0 "ping".toList, .arrives .replier 0 "c Hello ".toList,
    .turn 0, .turn 1, .turn 2, .turn 3, .turn 4]

theorem loop_refines_machine_hello :
    ∃ server opss outputs,
      Lib.run (Server.advance .plain) (Server.launch .fifo (AgentProxy.launch [] 0 oneTeam) 1000 0)
        agentThenHello = .ok (server, opss) ∧
      Server.run .plain (Server.create [] 0 oneTeam)
          [.clock 2, .message (Socket.parts "c Hello ".toList) .reply 4] =
        .ok (server.agentProxy.application, outputs) ∧
      trace Event.seen [.clock 2, .message (Socket.parts "c Hello ".toList) .reply 4] outputs =
        [.handled .reply (Socket.parts "c Hello ".toList),
          .sent (reply .reply "c".toList .goodbye)] := by
  obtain ⟨outputs, hevents, hseen⟩ := Server.loop_refines_machine .fifo .plain
    (AgentProxy.launch [] 0 oneTeam) 1000 0 agentThenHello _ _ rfl
  exact ⟨_, _, outputs, rfl, hevents, hseen⟩

theorem loop_refines_proxy_ping :
    ∃ server opss answers,
      Lib.run (Server.advance .plain) (Server.launch .fifo (AgentProxy.launch [] 0 oneTeam) 1000 0)
        agentThenHello = .ok (server, opss) ∧
      Lib.run (AgentProxy.feed .plain) (AgentProxy.launch [] 0 oneTeam)
          [.text "ping".toList 1, .event (.clock 2),
            .event (.message (Socket.parts "c Hello ".toList) .reply 4)] =
        .ok (server.agentProxy, answers) ∧
      trace Fed.seen [.text "ping".toList 1, .event (.clock 2),
          .event (.message (Socket.parts "c Hello ".toList) .reply 4)] answers =
        [.received .agentSocket "ping".toList, .answered "pong".toList] := by
  obtain ⟨answers, hfed, hseen⟩ := Server.loop_refines_proxy .fifo .plain
    (AgentProxy.launch [] 0 oneTeam) 1000 0 agentThenHello _ _ rfl
  exact ⟨_, _, answers, rfl, hfed, hseen⟩

end ServerGame
