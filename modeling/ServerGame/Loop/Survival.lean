import ServerGame.Loop.Refinement
import ServerGame.Survival

/-!
# The loop goes on

When an agent command is survived; and with it, as long as what is next at
each socket is harmless, no turn of the loop throws.
-/

namespace ServerGame

open Lib (InStream bind_eq_ok pure_eq_ok)

-- ---------------------------------------------------------------------------
-- What JSON mode survives
-- ---------------------------------------------------------------------------

namespace Request

/-- What `dump` throws is let out for a document. -/
def Survivable : Request → Prop
  | .document json => ∃ value, json = .ok value ∧ value.IsUtf8
  | .value json => ∃ value, json = .ok value
  | .null | .message | .nothing => True

def Made : Request → Prop
  | .document json | .value json => ∃ value, json = .ok value
  | .null | .message | .nothing => True

theorem Made.survivable {request : Request} (h : request.Made)
    (hutf8 : ∀ json, request = .document (.ok json) → json.IsUtf8) : request.Survivable := by
  cases request with
  | document json =>
    obtain ⟨value, rfl⟩ := h
    exact ⟨value, rfl, hutf8 value rfl⟩
  | value json => exact h
  | null | message | nothing => trivial

theorem made_ofProperty (known : Str) (value : Json) (property : Str) :
    (ofProperty known value property).Made := by
  unfold ofProperty
  split
  · exact ⟨_, rfl⟩
  · trivial

theorem made_ofView (env : AgentExternals) (game : Game) (stream : InStream) :
    (ofView env game stream).Made := by
  unfold ofView
  dsimp only
  split
  · split
    · exact ⟨_, rfl⟩
    · trivial
  · trivial

theorem made_ofTeam (game : Game) (name : Str) (property : Option Str) :
    (ofTeam game name property).Made := by
  unfold ofTeam
  dsimp only
  split
  · trivial
  · cases property with
    | some property => exact made_ofProperty _ _ property
    | none => trivial

theorem made_ofPlayer (game : Game) (name : Str) (property : Option Str) :
    (ofPlayer game name property).Made := by
  unfold ofPlayer
  cases game.accessPlayer name with
  | error => trivial
  | ok p =>
    cases property with
    | some property => exact made_ofProperty _ _ property
    | none => exact ⟨_, rfl⟩

theorem Gives.survivable_iff {env : AgentExternals} {request : Request}
    {given : Except Fault (Bool × Str)} (hdoc : DumpDocumented env) (h : request.Gives env given) :
    request.Survivable ↔ ∃ result reply, given = .ok (result, reply) := by
  cases h with
  | document h => simp [Survivable, hdoc.utf8_iff h]
  | documentThrows h => simp [Survivable, hdoc.utf8_iff h]
  | _ => simp [Survivable]

end Request

section
variable {env : Externals} {game : Game}

theorem Steady.robotJson (hs : Steady env game) {name : Str} {r : RobotRef}
    (hr : game.robots[name]? = some r) : ∃ json, game.robotJson r = .ok json := by
  have halive := hs.teamIsAlive (hs.allocated hr)
  unfold Game.robotJson
  rw [if_pos halive]
  exact ⟨_, rfl⟩

theorem Steady.listing (hs : Steady env game) {object : Str} {listing : Listing}
    (h : listingOf game object = some listing) : ∃ json, listing.document = .ok json := by
  obtain ⟨views, hviews⟩ : ∃ views, (game.robots.toList.mapM fun entry =>
      game.robotJson entry.2) = .ok views :=
    Lib.mapM_total fun entry hentry =>
      hs.robotJson (Std.ExtTreeMap.mem_toList_iff_getElem?_eq_some.mp hentry)
  unfold listingOf at h
  split_ifs at h <;> cases h
  · exact ⟨_, rfl⟩
  · refine ⟨.object [("Robots".toList, .array views)], ?_⟩
    simp only [Listing.document, listRobot, hviews]
    rfl
  · exact ⟨_, rfl⟩
  · exact ⟨_, rfl⟩

theorem Steady.ofRobot (hs : Steady env game) (name : Str) (property : Option Str) :
    (Request.ofRobot game name property).Made := by
  unfold Request.ofRobot
  cases haccess : game.accessRobot name with
  | error => trivial
  | ok r =>
    cases property with
    | some property => exact Request.made_ofProperty _ _ property
    | none => exact hs.robotJson (Game.accessRobot_ok.mp haccess)

theorem Steady.ofGet (hs : Steady env game) (query : GetQuery) :
    (Request.ofGet game query).Made := by
  unfold Request.ofGet
  split
  · exact ⟨_, rfl⟩
  · split
    · exact hs.ofRobot query.name query.property
    · split
      · exact Request.made_ofTeam game query.name query.property
      · split
        · exact Request.made_ofPlayer game query.name query.property
        · trivial

theorem Steady.ofText (hs : Steady env game) (agentEnv : AgentExternals) (text : Str) :
    (Request.ofText agentEnv game text).Made := by
  unfold Request.ofText Request.ofAction
  split
  · unfold Request.ofList
    dsimp only
    split
    · split
      · next hlisting => exact hs.listing hlisting
      · trivial
    · trivial
  · split
    · exact Request.made_ofView agentEnv game _
    · split
      · exact hs.ofGet _
      · trivial

end

-- ---------------------------------------------------------------------------
-- One command
-- ---------------------------------------------------------------------------

namespace AgentProxy

variable {env : AgentExternals} {localTime : Instant} {app : Application} {text : Str}

/-- Behind `json` the five characters have to be there, and the document that is
asked for has to be UTF-8; else the command has to be harmless. -/
structure HarmlessText (env : AgentExternals) (game : Game) (text : Str) : Prop where
  length : firstToken text = "json".toList → 5 ≤ text.length
  utf8 : firstToken text = "json".toList → ∀ json,
    Request.ofText env game (text.drop 5) = .document (.ok json) → json.IsUtf8
  command : ∀ command, commandOf env text = some command → command.Harmless env.toExternals game

theorem survives_json_iff (hdoc : DumpDocumented env) (h : firstToken text = "json".toList) :
    (∃ stepped, step env localTime { application := app } text = .ok stepped) ↔
      5 ≤ text.length ∧ (Request.ofText env app.game (text.drop 5)).Survivable := by
  by_cases hlength : text.length < 5
  · rw [step_short h hlength]
    exact iff_of_false (by simp) fun hboth => absurd hboth.1 (by omega)
  · obtain ⟨given, hgives, -, hstep⟩ := step_json_prefix localTime app hdoc h hlength
    rw [hgives.survivable_iff hdoc, and_iff_right (not_lt.mp hlength)]
    constructor
    · rintro ⟨stepped, hstepped⟩
      obtain ⟨result, reply, hgiven, -⟩ := (hstep stepped).mp hstepped
      exact ⟨result, reply, hgiven⟩
    · rintro ⟨result, reply, hgiven⟩
      exact ⟨_, (hstep _).mpr ⟨result, reply, hgiven, rfl⟩⟩

theorem Feasible.of_harmless {externals : Externals} {game : Game} {command : Command}
    (h : command.Harmless externals game) : Feasible game command := by
  cases command with
  | addRobot name teamName => exact .inr (Game.getNewRobotId_isSome h)
  | _ => trivial

theorem safe_step (hdoc : DumpDocumented env) (localTime : Instant)
    (hs : Safe env.toExternals app.game)
    (htext : HarmlessText env app.game text) :
    ∃ stepped, step env localTime { application := app } text = .ok stepped ∧
      stepped.proxy.outputMode = .text ∧ Safe env.toExternals stepped.proxy.application.game := by
  have hsurvives : ∃ stepped, step env localTime { application := app } text = .ok stepped := by
    by_cases hjson : firstToken text = "json".toList
    · exact (survives_json_iff hdoc hjson).mpr ⟨htext.length hjson,
        (hs.steady.ofText env _).survivable (htext.utf8 hjson)⟩
    · obtain ⟨stepped, hstep, -⟩ := (@survives_iff env localTime app text hjson).mpr
        fun parsed hparsed => .of_harmless (htext.command parsed hparsed)
      exact ⟨stepped, hstep⟩
  obtain ⟨stepped, hstep⟩ := hsurvives
  refine ⟨stepped, hstep, step_mode hstep, ?_⟩
  rcases step_application hstep with ⟨-, hsame⟩ | ⟨parsed, hparsed, happly⟩
  · rw [hsame]
    exact hs
  · obtain ⟨app', output, hevent, hs', -⟩ :=
      hs.step (.agent parsed localTime) (htext.command parsed (commandOf_of_carriesOut hparsed))
    cases happly.symm.trans (Server.step_agent.mp hevent).1
    exact hs'

end AgentProxy

-- ---------------------------------------------------------------------------
-- One turn
-- ---------------------------------------------------------------------------

namespace Server

variable {zmq : Zmq} {env : AgentExternals} {server : Server zmq} {localTime : Instant}

structure NextHarmless (env : AgentExternals) (server : Server zmq) : Prop where
  agent : ∀ text server', server.receiveString .agentSocket = some (text, server') →
    AgentProxy.HarmlessText env server.game text
  channel : ∀ (channel : Channel) text server',
    server.receiveString channel.socket = some (text, server') →
      (Socket.parts text).Harmless env.toExternals

/-- Nothing is received but in a turn. -/
def ReceivesHarmless (env : AgentExternals) (server : Server zmq) : LoopInput → Prop
  | .turn _ => server.NextHarmless env
  | .arrives .. | .signal => True

structure Sound (env : AgentExternals) (server : Server zmq) : Prop where
  safe : Safe env.toExternals server.game
  outputMode : server.agentProxy.outputMode = .text

theorem Sound.same {server' : Server zmq} (hs : Sound env server)
    (h : server'.agentProxy = server.agentProxy) : Sound env server' where
  safe := by
    rw [game, h]
    exact hs.safe
  outputMode := by
    rw [h]
    exact hs.outputMode

theorem Sound.handle (hs : Sound env server) (event : Event)
    (hevent : event.Harmless env.toExternals server.game) :
    ∃ server' ops, server.handle env event = .ok (server', ops) ∧ Sound env server' := by
  obtain ⟨application, output, hstep, hsafe, hescaped⟩ := hs.safe.step event hevent
  have hhandle := (@handle_ok zmq env server _ _ event).mpr
    ⟨application, output, hstep, hescaped, rfl⟩
  obtain ⟨application', output', hhandled⟩ := handled_of_handle hhandle
  cases hstep.symm.trans hhandled.steps
  refine ⟨_, _, hhandle, ⟨?_, ?_⟩⟩
  · rw [game, hhandled.agentProxy]
    exact hsafe
  · rw [hhandled.agentProxy]
    exact hs.outputMode

theorem Sound.feedAgentProxy (hs : Sound env server) (hdoc : DumpDocumented env)
    (localTime : Instant)
    (hnext : ∀ text server', server.receiveString .agentSocket = some (text, server') →
      AgentProxy.HarmlessText env server.game text) :
    ∃ server' ops, server.feedAgentProxy env localTime = .ok (server', ops) ∧
      Sound env server' := by
  unfold Server.feedAgentProxy
  cases hreceived : server.receiveString .agentSocket with
  | none => exact ⟨server, [], rfl, hs⟩
  | some received =>
    obtain ⟨message, received⟩ := received
    have hharmless := hnext message received hreceived
    obtain ⟨inbox, -, rfl⟩ := receiveString_eq_some.mp hreceived
    have hproxy : server.agentProxy = { application := server.agentProxy.application } := by
      rw [← hs.outputMode]
    obtain ⟨stepped, hstep, hmode, hsafe⟩ :=
      AgentProxy.safe_step hdoc localTime hs.safe hharmless
    rw [← hproxy] at hstep
    have hs' : Sound env ((server.setInbox .agentSocket inbox).setProxy stepped.proxy) := by
      constructor
      · simpa [game] using hsafe
      · simpa using hmode
    dsimp only
    rw [setInbox_agentProxy, hstep, Lib.ok_bind]
    split
    · exact ⟨_, _, rfl, hs'.same rfl⟩
    · exact ⟨_, _, rfl, hs'⟩

theorem Sound.turn (hs : Sound env server) (hdoc : DumpDocumented env)
    (hnext : server.NextHarmless env) :
    ∃ server' ops, server.turn env localTime = .ok (server', ops) ∧ Sound env server' := by
  unfold Server.turn
  cases server.point with
  | starting => exact ⟨_, _, rfl, hs.same rfl⟩
  | entering =>
    dsimp only
    split
    · obtain ⟨server', ops, hfeed, hs'⟩ :=
        hs.feedAgentProxy hdoc localTime hnext.agent
      rw [hfeed]
      exact ⟨_, _, rfl, hs'.same rfl⟩
    · exact ⟨_, _, rfl, hs.same rfl⟩
  | looping =>
    dsimp only
    split
    · exact ⟨_, _, rfl, hs.same rfl⟩
    · obtain ⟨server', ops, hhandle, hs'⟩ := hs.handle (.clock localTime) trivial
      rw [hhandle, Lib.ok_bind]
      dsimp only
      split <;> exact ⟨_, _, rfl, hs'.same rfl⟩
  | polling left =>
    cases left with
    | nil => exact ⟨_, _, rfl, hs.same rfl⟩
    | cons channel left =>
      dsimp only
      cases hreceived : server.receiveString channel.socket with
      | none => exact ⟨_, _, rfl, hs.same rfl⟩
      | some received =>
        obtain ⟨messageData, received⟩ := received
        have hharmless := hnext.channel channel messageData received hreceived
        obtain ⟨inbox, -, rfl⟩ := receiveString_eq_some.mp hreceived
        have hs₁ : Sound env (server.setInbox channel.socket inbox) := hs.same rfl
        obtain ⟨server', ops, hhandle, hs'⟩ :=
          hs₁.handle (.message (Socket.parts messageData) channel localTime) hharmless
        dsimp only
        rw [hhandle]
        exact ⟨_, _, rfl, hs'.same rfl⟩
  | ticking currentTic =>
    obtain ⟨server₁, fed, hfeed, hs₁⟩ :=
      hs.feedAgentProxy hdoc localTime hnext.agent
    obtain ⟨server', ops, hhandle, hs'⟩ := hs₁.handle .tic trivial
    dsimp only
    rw [hfeed, Lib.ok_bind]
    dsimp only
    rw [hhandle]
    exact ⟨_, _, rfl, hs'.same rfl⟩
  | ended => exact ⟨_, _, rfl, hs⟩

theorem Sound.advance (hs : Sound env server) (hdoc : DumpDocumented env) {input : LoopInput}
    (hnext : server.ReceivesHarmless env input) :
    ∃ server' ops, server.advance env input = .ok (server', ops) ∧ Sound env server' := by
  cases input with
  | arrives socket peer text => exact ⟨_, _, rfl, hs.same rfl⟩
  | signal => exact hs.handle (.agent .stopApplication 0) trivial
  | turn localTime => exact hs.turn hdoc hnext

theorem Sound.run (hs : Sound env server) (hdoc : DumpDocumented env) {inputs : List LoopInput}
    (hharmless : Lib.AllSteps (Server.advance env) server inputs (ReceivesHarmless env)) :
    ∃ server' opss, Lib.run (Server.advance env) server inputs = .ok (server', opss) := by
  obtain ⟨server', opss, hrun, -⟩ : ∃ server' opss,
      Lib.run (Server.advance env) server inputs = .ok (server', opss) ∧ Sound env server' ∧
        ∀ ops ∈ opss, True :=
    Lib.run_total (P := fun _ server => Sound env server)
      (fun pre input post server₁ opss heq hpre hs₁ => by
        obtain ⟨server', ops, hadvance, hs'⟩ :=
          hs₁.advance hdoc (hharmless pre input post server₁ opss heq hpre)
        exact ⟨server', ops, hadvance, hs', trivial⟩)
      hs
  exact ⟨server', opss, hrun⟩

end Server

end ServerGame
