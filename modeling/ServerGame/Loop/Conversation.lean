import ServerGame.Broadcasts
import ServerGame.Loop.Refinement

/-!
# The conversation

What is seen of the loop from outside: messages it handles, each with its
answers right behind it, and between them the broadcasts. Nothing is sent
otherwise.
-/

namespace ServerGame

open Lib (trace)

variable {env : Externals} {app app' : Application} {event : Event} {output : Output}
  {seen seen' : List Seen}

/-- Blocks: a message that is handled and what is sent for it, or a broadcast. -/
inductive Conversation (env : Externals) : List Seen → Prop
  | nil : Conversation env []
  | handled (channel : Channel) (message : RawMessage) {sent : List Sent} {rest : List Seen}
      (hanswers : Answers env channel message sent) (hrest : Conversation env rest) :
      Conversation env (.handled channel message :: (sent.map .sent ++ rest))
  | broadcast (state : GameState) {rest : List Seen} (hrest : Conversation env rest) :
      Conversation env (.sent (publish "all_clients".toList (.gameState state)) :: rest)

theorem Conversation.append (h : Conversation env seen) (h' : Conversation env seen') :
    Conversation env (seen ++ seen') := by
  induction h with
  | nil => exact h'
  | handled channel message hanswers _ ih =>
    rw [List.cons_append, List.append_assoc]
    exact .handled channel message hanswers ih
  | broadcast state _ ih => exact .broadcast state ih

namespace Server

theorem step_converses (h : step env app event = .ok (app', output))
    (hescaped : output.escaped = none) : Conversation env (event.seen output) := by
  cases event with
  | clock currentTic => cases h; exact .nil
  | message raw channel localTime =>
    obtain ⟨-, rfl⟩ := ofOutcome_ok h
    rcases ProcessDecider.process_says env raw channel localTime app.game with
      ⟨-, hanswers⟩ | ⟨hnot, -⟩
    · have hblock := Conversation.handled channel raw hanswers .nil
      simpa [Event.seen, show Outcome.escaped _ = none from hescaped] using hblock
    · exact absurd hescaped hnot
  | agent command localTime =>
    obtain ⟨-, rfl⟩ := step_agent.mp h
    exact .nil
  | tic =>
    obtain ⟨-, steps, game, -, -, rfl⟩ | ⟨-, -, rfl⟩ := step_tic h
    · exact .broadcast _ .nil
    · exact .nil
  | call call =>
    obtain ⟨_, hcall, -⟩ := step_call.mp h
    obtain ⟨hsent, hnone⟩ := GameCall.apply_output hcall
    simpa [Event.seen, hsent, hescaped] using Conversation.nil

theorem run_converses {events : List Event} {outputs : List Output}
    (hrun : run env app events = .ok (app', outputs))
    (hescaped : ∀ fault, .escaped fault ∉ trace Event.seen events outputs) :
    Conversation env (trace Event.seen events outputs) := by
  induction events generalizing app outputs with
  | nil =>
    cases Lib.run_nil.mp hrun
    exact .nil
  | cons event events ih =>
    obtain ⟨app₁, output, outputs', hstep, hrest, rfl⟩ := Lib.run_cons.mp hrun
    rw [Lib.trace_cons] at hescaped ⊢
    have hnone : output.escaped = none := by
      by_contra hsome
      obtain ⟨fault, hfault⟩ := Option.ne_none_iff_exists'.mp hsome
      exact hescaped fault (List.mem_append_left _ (by simp [Event.seen, hfault]))
    have hfirst := step_converses hstep hnone
    exact hfirst.append (ih hrest fun fault hmem => hescaped fault (List.mem_append_right _ hmem))

theorem run_unescaped {zmq : Zmq} {env : AgentExternals} {server server' : Server zmq}
    {inputs : List LoopInput} {opss : List (List SocketOp)}
    (hrun : Lib.run (advance env) server inputs = .ok (server', opss)) :
    ∃ app app' events outputs, run env.toExternals app events = .ok (app', outputs) ∧
      trace Event.seen events outputs = opss.flatten.filterMap SocketOp.seen ∧
      ∀ fault, .escaped fault ∉ trace Event.seen events outputs := by
  obtain ⟨outputs, hevents, hseen⟩ := run_events hrun
  refine ⟨_, _, _, outputs, hevents, hseen, fun fault hmem => ?_⟩
  rw [hseen] at hmem
  obtain ⟨op, -, hop⟩ := List.mem_filterMap.mp hmem
  cases op with
  | received socket text => cases socket <;> cases hop
  | _ => cases hop

end Server

/-- What the loop receives on its channels and sends is such a conversation,
whatever comes: every message it sends, but for the broadcasts, is an answer to
the message it received last, sent to the client that message came from. -/
theorem loop_converses (zmq : Zmq) (env : AgentExternals) (server : Server zmq)
    (inputs : List LoopInput) (server' : Server zmq) (opss : List (List SocketOp))
    (hrun : Lib.run (Server.advance env) server inputs = .ok (server', opss)) :
    Conversation env.toExternals (opss.flatten.filterMap SocketOp.seen) := by
  obtain ⟨app, app', events, outputs, hevents, hseen, hescaped⟩ := Server.run_unescaped hrun
  rw [← hseen]
  exact Server.run_converses hevents hescaped

theorem loop_converses_hello :
    ∃ server opss,
      Lib.run (Server.advance .plain) (Server.launch .fifo (AgentProxy.launch [] 0 oneTeam) 1000 0)
        agentThenHello = .ok (server, opss) ∧
      opss.flatten.filterMap SocketOp.seen =
        [.handled .reply (Socket.parts "c Hello ".toList),
          .sent (reply .reply "c".toList .goodbye)] ∧
      Conversation AgentExternals.plain.toExternals (opss.flatten.filterMap SocketOp.seen) :=
  ⟨_, _, rfl, rfl, loop_converses .fifo .plain
    (Server.launch .fifo (AgentProxy.launch [] 0 oneTeam) 1000 0) agentThenHello _ _ rfl⟩

-- ---------------------------------------------------------------------------
-- What is handed on
-- ---------------------------------------------------------------------------

/-- What is handed on between a player and a robot, up to the timings. -/
inductive HandedOn
  | input (routingId : Str) (input : Input)
  | ping (routingId : Str)
  | pong (routingId : Str)

def HandedOn.isInput : HandedOn → Bool
  | .input .. => true
  | _ => false

def RawMessage.toHandOn (env : Externals) (message : RawMessage) : Option HandedOn :=
  if message.type = "Input".toList then
    some (.input message.routingId (env.parseInput message.payload).2)
  else if message.type = "Ping".toList then some (.ping message.routingId)
  else if message.type = "Pong".toList then some (.pong message.routingId)
  else none

def Sent.handedOn (message : Sent) : Option HandedOn :=
  match message.body with
  | .input input => some (.input message.routingId input)
  | .ping _ => some (.ping message.routingId)
  | .pong _ => some (.pong message.routingId)
  | _ => none

def Seen.toHandOn (env : Externals) : Seen → Option HandedOn
  | .handled _ message => message.toHandOn env
  | _ => none

def Seen.handedOn : Seen → Option HandedOn
  | .sent message => message.handedOn
  | _ => none

def handedOnIn (opss : List (List SocketOp)) : List HandedOn :=
  (opss.flatten.filterMap SocketOp.seen).filterMap Seen.handedOn

def toHandOnIn (env : Externals) (opss : List (List SocketOp)) : List HandedOn :=
  (opss.flatten.filterMap SocketOp.seen).filterMap (Seen.toHandOn env)

theorem Answers.handedOn {channel : Channel} {message : RawMessage} {sent : List Sent}
    (h : Answers env channel message sent) :
    sent.filterMap Sent.handedOn = (message.toHandOn env).toList ∨
      sent.filterMap Sent.handedOn = [] ∧ ∀ relay ∈ message.toHandOn env, relay.isInput = true := by
  cases h with
  | playerStates htype states =>
    refine .inl ?_
    have hnone : (states.map fun state =>
        publish message.routingId (.playerState state)).filterMap Sent.handedOn = [] := by
      refine List.filterMap_eq_nil_iff.mpr fun answer hmem => ?_
      obtain ⟨state, -, rfl⟩ := List.mem_map.mp hmem
      rfl
    rw [hnone, RawMessage.toHandOn, htype]
    rfl
  | nothing hunanswered =>
    rcases hunanswered with htype | hnot
    · refine .inr ⟨rfl, fun relay hrelay => ?_⟩
      rw [RawMessage.toHandOn, if_pos htype] at hrelay
      cases hrelay
      rfl
    · refine .inl ?_
      simp only [ProcessDecider.handledTypes, List.mem_cons, List.not_mem_nil, or_false,
        not_or] at hnot
      obtain ⟨-, hinput, -, hping, hpong, -⟩ := hnot
      rw [RawMessage.toHandOn, if_neg hinput, if_neg hping, if_neg hpong]
      rfl
  | welcome htype | goodbye htype | registered htype | input htype | ping htype | pong htype =>
    refine .inl ?_
    rw [RawMessage.toHandOn, htype]
    rfl

theorem Conversation.handsOn (h : Conversation env seen) :
    (seen.filterMap Seen.handedOn).Sublist (seen.filterMap (Seen.toHandOn env)) ∧
      (seen.filterMap Seen.handedOn).filter (!·.isInput) =
        (seen.filterMap (Seen.toHandOn env)).filter (!·.isInput) := by
  induction h with
  | nil => exact ⟨.slnil, rfl⟩
  | broadcast state _ ih => exact ih
  | @handled channel message sent rest hanswers _ ih =>
    have hsent : (sent.map Seen.sent).filterMap Seen.handedOn = sent.filterMap Sent.handedOn := by
      rw [List.filterMap_map]
      rfl
    have hnone : (sent.map Seen.sent).filterMap (Seen.toHandOn env) = [] := by
      refine List.filterMap_eq_nil_iff.mpr fun shown hmem => ?_
      obtain ⟨answer, -, rfl⟩ := List.mem_map.mp hmem
      rfl
    have hhanded :
        (Seen.handled channel message :: (sent.map Seen.sent ++ rest)).filterMap
            (Seen.toHandOn env) =
          (message.toHandOn env).toList ++ rest.filterMap (Seen.toHandOn env) := by
      rw [← List.singleton_append, List.filterMap_append, List.filterMap_append, hnone,
        List.nil_append]
      cases hrelay : message.toHandOn env <;> simp [Seen.toHandOn, hrelay]
    have hhandedOn : (Seen.handled channel message :: (sent.map Seen.sent ++ rest)).filterMap
        Seen.handedOn = sent.filterMap Sent.handedOn ++ rest.filterMap Seen.handedOn := by
      rw [List.filterMap_cons_none rfl, List.filterMap_append, hsent]
    rw [hhanded, hhandedOn, List.filter_append, List.filter_append, ih.2]
    rcases hanswers.handedOn with hsame | ⟨hnothing, hinput⟩
    · rw [hsame]
      exact ⟨ih.1.append_left _, rfl⟩
    · rw [hnothing]
      refine ⟨(List.nil_sublist _).append ih.1, ?_⟩
      cases hrelay : message.toHandOn env with
      | none => rfl
      | some relay => simp [hinput relay hrelay]

/-- In every run the inputs, pings and pongs the server hands on are among
those it receives, in the same order and each once, an input as it was sent;
and of the pings and pongs none is missing. -/
theorem handed_on_in_order (zmq : Zmq) (env : AgentExternals) (server : Server zmq)
    (inputs : List LoopInput) (server' : Server zmq) (opss : List (List SocketOp))
    (hrun : Lib.run (Server.advance env) server inputs = .ok (server', opss)) :
    (handedOnIn opss).Sublist (toHandOnIn env.toExternals opss) ∧
      (handedOnIn opss).filter (!·.isInput) =
        (toHandOnIn env.toExternals opss).filter (!·.isInput) := by
  obtain ⟨app, app', events, outputs, hevents, hseen, hescaped⟩ := Server.run_unescaped hrun
  rw [handedOnIn, toHandOnIn, ← hseen]
  exact (Server.run_converses hevents hescaped).handsOn

def inputThenPing : List LoopInput :=
  [.arrives .puller 0 "p Input ".toList, .arrives .puller 0 "p Ping ".toList,
    .turn 0, .turn 1, .turn 2, .turn 3, .turn 4, .turn 5, .turn 6, .turn 7, .turn 8]

theorem handed_on_in_order_ping :
    ∃ server opss,
      Lib.run (Server.advance .plain) (Server.launch .fifo (AgentProxy.launch [] 0 oneTeam) 1000 0)
        inputThenPing = .ok (server, opss) ∧
      handedOnIn opss = [.ping "p".toList] ∧
      (handedOnIn opss).Sublist (toHandOnIn AgentExternals.plain.toExternals opss) ∧
      (handedOnIn opss).filter (!·.isInput) =
        (toHandOnIn AgentExternals.plain.toExternals opss).filter (!·.isInput) :=
  ⟨_, _, rfl, rfl, handed_on_in_order .fifo .plain
    (Server.launch .fifo (AgentProxy.launch [] 0 oneTeam) 1000 0) inputThenPing _ _ rfl⟩

end ServerGame
