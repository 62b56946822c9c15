import ServerGame.Links

/-!
# Every hello is answered

The links are written before the port of an `nc:` video URL is read. A URL
whose tail is no port therefore leaves a player with a robot and no answer.
-/

namespace ServerGame

variable {game game' : Game}

def Sent.Welcomes (message : Sent) (robot : Robot) : Prop :=
  ∃ video, message.body = .welcome (ProcessHello.welcomeOf robot video)

/-- What a hello promises: no exception and one answer, a welcome for exactly
the robot the player is linked to afterwards, or else a goodbye with every
link as it was. -/
def HelloAnswered (game : Game) (hello : Hello) (outcome : Outcome) : Prop :=
  outcome.escaped = none ∧ ∃ message, outcome.sent = [message] ∧
    (∀ (key : Str) r, outcome.game.robots[key]? = some r →
      (message.Welcomes (outcome.game.robot r) ↔
        ∃ p, outcome.game.players[hello.name]? = some p ∧ outcome.game.Linked p r)) ∧
    ((∃ (key : Str) (r : RobotRef), outcome.game.robots[key]? = some r ∧
        message.Welcomes (outcome.game.robot r)) ∨
      message.body = .goodbye ∧
        ∀ r, outcome.game.getPlayerOfRobot r = game.getPlayerOfRobot r)

/-- The robot a hello gets, if any, has no `nc:` URL, or one whose tail casts
to a port. -/
def PortParses (env : Externals) (game : Game) (hello : Hello) : Prop :=
  ∀ r, game.getRobotForPlayer hello.name = some r →
    ProcessHello.isNcUrl (game.robot r).videoUrl = true →
    (env.lexicalCastUint16 (ProcessHello.splitVideoUrl (game.robot r).videoUrl).2).isSome

theorem videoOf_isSome {env : Externals} {robot : Robot} :
    (ProcessHello.videoOf env robot).isSome ↔
      (ProcessHello.isNcUrl robot.videoUrl = true →
        (env.lexicalCastUint16 (ProcessHello.splitVideoUrl robot.videoUrl).2).isSome) := by
  unfold ProcessHello.videoOf
  split
  · next h => simp [h]
  · next h => simp [h]

theorem portParses_iff {env : Externals} {hello : Hello} : PortParses env game hello ↔
    ∀ r, game.getRobotForPlayer hello.name = some r →
      (ProcessHello.videoOf env (game.robot r)).isSome := by
  simp only [PortParses, videoOf_isSome]

theorem Sent.Welcomes.name {message : Sent} {robot robot' : Robot} (h : message.Welcomes robot)
    (h' : message.Welcomes robot') : robot.name = robot'.name := by
  obtain ⟨video, hv⟩ := h
  obtain ⟨video', hv'⟩ := h'
  exact congrArg Welcome.robot (Body.welcome.inj (hv.symm.trans hv'))

theorem WellFormed.refused_answered (hw : WellFormed game) {channel : Channel} {clientId : Str}
    {hello : Hello} {outcome : Outcome}
    (hrobot : (game.addPlayer hello.name).2.getRobotForPlayer hello.name = none)
    (hescaped : outcome.escaped = none) (hsent : outcome.sent = [reply channel clientId .goodbye])
    (hlinks : SameLinks (game.addPlayer hello.name).2 outcome.game) :
    HelloAnswered game hello outcome := by
  have hw' := hw.addPlayer hello.name
  refine ⟨hescaped, _, hsent, fun key r hr => ⟨?_, ?_⟩, .inr ⟨rfl, fun r => ?_⟩⟩
  · rintro ⟨video, hv⟩
    cases hv
  · rintro ⟨p, hp, hl⟩
    rw [hlinks.players] at hp
    rw [hlinks.robots] at hr
    have hnamed := hw'.playerIsNamed_iff.mpr ⟨p, hp, (hlinks.linked.mp hl).2⟩
    rw [Game.getRobotForPlayer_none hrobot hr] at hnamed
    cases hnamed
  · rw [hlinks.getPlayerOfRobot, addPlayer_getPlayerOfRobot hw]

theorem WellFormed.welcomed_answered (hw : WellFormed game) {channel : Channel} {clientId : Str}
    {hello : Hello} {outcome : Outcome} {p : PlayerRef} {r : RobotRef} {video : Str × UInt16}
    (hp : (game.addPlayer hello.name).2.players[hello.name]? = some p)
    (hrobot : (game.addPlayer hello.name).2.getRobotForPlayer hello.name = some r)
    (hescaped : outcome.escaped = none)
    (hsent : outcome.sent = [reply channel clientId
      (.welcome (ProcessHello.welcomeOf ((game.addPlayer hello.name).2.robot r) video))])
    (hlinks : SameLinks ((game.addPlayer hello.name).2.link p r) outcome.game) :
    HelloAnswered game hello outcome := by
  have hw' := (hw.addPlayer hello.name).link hp hrobot
  obtain ⟨key, hkey, -⟩ := Game.getRobotForPlayer_some hrobot
  have hlinked : outcome.game.Linked p r :=
    hlinks.linked.mpr ⟨by simp [Game.link_player], by simp [Game.link_robot]⟩
  have hplayer : outcome.game.players[hello.name]? = some p := hlinks.players ▸ hp
  have hname : ∀ {key' : Str} {r'}, outcome.game.robots[key']? = some r' →
      (outcome.game.robot r').name = key' := by
    intro key' r' hr'
    rw [hlinks.robots] at hr'
    rw [← hw'.robotName hr', hlinks.robot]
  have hmem : outcome.game.robots[key]? = some r := hlinks.robots ▸ hkey
  have hwelcome : (reply channel clientId
      (.welcome (ProcessHello.welcomeOf ((game.addPlayer hello.name).2.robot r) video))).Welcomes
        (outcome.game.robot r) := by
    refine ⟨video, ?_⟩
    rw [hlinks.robot]
    exact congrArg Body.welcome (welcomeOf_link p r video).symm
  refine ⟨hescaped, _, hsent, fun key' r' hr' => ⟨fun h => ?_, ?_⟩, .inl ⟨key, r, hmem, hwelcome⟩⟩
  · -- a welcome for r' is one for r, and names are unique
    have hkeys : key' = key := by
      rw [← hname hr', ← hname hmem, h.name hwelcome]
    subst hkeys
    cases hmem.symm.trans hr'
    exact ⟨p, hplayer, hlinked⟩
  · rintro ⟨p', hp', hl'⟩
    cases hplayer.symm.trans hp'
    cases hlinked.1.symm.trans hl'.1
    exact hwelcome

/-- In every state the server reaches, a hello is answered as promised exactly
when no `nc:` URL of the robot it gets has a tail that is no port. -/
theorem hello_answered_iff (env : Externals) (app : Application) (h : Server.Reachable env app)
    (channel : Channel) (clientId : Str) (hello : Hello) (localTime : Ptime) :
    HelloAnswered app.game hello
        (ProcessHello.execute env channel clientId hello localTime app.game) ↔
      PortParses env app.game hello := by
  have hw := h.wellFormed
  rw [portParses_iff, ← addPlayer_getRobotForPlayer hw hello.name]
  obtain ⟨p, hp, hcase⟩ := execute_cases env channel clientId hello localTime app.game
  cases hcase with
  | refused hrobot hescaped hsent hlinks =>
    simp [hw.refused_answered hrobot hescaped hsent hlinks, hrobot]
  | stopped r hrobot hvideo houtcome =>
    rw [addPlayer_robot] at hvideo
    simp [HelloAnswered, houtcome, hrobot, hvideo]
  | welcomed r video hrobot hvideo hescaped hsent hlinks =>
    rw [addPlayer_robot] at hvideo
    simp [hw.welcomed_answered hp hrobot hescaped hsent hlinks, hrobot, hvideo]

theorem hello_answered_iff_ada :
    ∃ app outputs,
      Server.run .plain (Server.create [] 0 oneTeam)
        (oneRobot ++ [.agent (.setRobot "r1".toList "video_url".toList "nc:host:80".toList) 0]) =
          .ok (app, outputs) ∧
      HelloAnswered app.game { name := "Ada".toList }
        (ProcessHello.execute .plain .reply "c".toList { name := "Ada".toList } .notADateTime
          app.game) := by
  refine ⟨_, _, rfl, (hello_answered_iff .plain _ ⟨[], 0, oneTeam,
    oneRobot ++ [.agent (.setRobot "r1".toList "video_url".toList "nc:host:80".toList) 0], _, rfl⟩
    .reply "c".toList { name := "Ada".toList } .notADateTime).mpr ?_⟩
  intro r hr _
  cases hr
  rfl

/-- With the URL `nc:fake`, Ada's hello links Ada and the robot, ends in an
exception and sends nothing. -/
theorem hello_unanswered :
    ∃ app outputs,
      Server.run .plain (Server.create [] 0 oneTeam)
        (oneRobot ++ [.agent (.setRobot "r1".toList "video_url".toList "nc:fake".toList) 0]) =
          .ok (app, outputs) ∧
      (ProcessHello.execute .plain .reply "c".toList { name := "Ada".toList } .notADateTime
          app.game).escaped = some .badLexicalCast ∧
      (ProcessHello.execute .plain .reply "c".toList { name := "Ada".toList } .notADateTime
          app.game).sent = [] ∧
      (ProcessHello.execute .plain .reply "c".toList { name := "Ada".toList } .notADateTime
          app.game).game.Linked ⟨0⟩ ⟨0⟩ ∧
      ¬HelloAnswered app.game { name := "Ada".toList }
        (ProcessHello.execute .plain .reply "c".toList { name := "Ada".toList } .notADateTime
          app.game) := by
  refine ⟨_, _, rfl, rfl, rfl, ⟨rfl, rfl⟩, fun h => ?_⟩
  cases h.1

end ServerGame
