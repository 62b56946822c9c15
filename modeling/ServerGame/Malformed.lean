import ServerGame.OneRobot
import ServerGame.ReadyHello

/-!
# Payloads that are not what they should be

Whether a payload parses is only logged. A handler gets what was decoded, with
empty texts for what was not, and does what it always does; what it can change
is confined to what a message of its type is about.
-/

namespace ServerGame

open Lib (bind_eq_ok pure_eq_ok)

variable {game game' : Game} {env : Externals}

-- ---------------------------------------------------------------------------
-- What is promised
-- ---------------------------------------------------------------------------

def RawMessage.IsKnown (raw : RawMessage) : Prop :=
  raw.type ∈ ["Hello", "Input", "ServerRobotState", "Ping", "Pong", "Register"].map String.toList

/-- The payload is rejected, or lacks the name or the temporary robot id. -/
def RawMessage.Malformed (env : Externals) (raw : RawMessage) : Prop :=
  (raw.type = "Hello".toList ∧
    ((env.parseHello raw.payload).1 = false ∨ (env.parseHello raw.payload).2.name = [])) ∨
  (raw.type = "Input".toList ∧ (env.parseInput raw.payload).1 = false) ∨
  (raw.type = "ServerRobotState".toList ∧ (env.parseServerRobotState raw.payload).1 = false) ∨
  (raw.type = "Ping".toList ∧ (env.parsePing raw.payload).1 = false) ∨
  (raw.type = "Pong".toList ∧ (env.parsePong raw.payload).1 = false) ∨
  (raw.type = "Register".toList ∧ ((env.parseRegister raw.payload).1 = false ∨
    (env.parseRegister raw.payload).2.temporaryRobotId = []))

def Game.playerNamed (game : Game) (name : Str) : Player :=
  match game.players[name]? with
  | some p => game.player p
  | none => { name }

/-- A start at that time or none, in what the play consists of. -/
inductive AtMostStarts (ready : Bool) (localTime : Ptime) (game game' : Game) : Prop
  | unchanged (play : SamePlay game game')
  | started (hready : ready = true) (play : SamePlay (game.start true none localTime) game')

/-- What a hello does with its player `p`: it adds it if it is new, notes its
address if it has one, and links it with at most one robot. -/
structure GreetsPlayer (hello : Hello) (game game' : Game) (p : PlayerRef) : Prop where
  stored : (game.players[hello.name]? = some p ∧ game'.players = game.players) ∨
    (hello.name ∉ game.players ∧ p = game.playerHeap.fresh ∧
      game'.players = game.players.insertIfNew hello.name p)
  others : ∀ p', p' ≠ p → game'.player p' = game.player p'
  name : (game'.player p).name = (game.playerNamed hello.name).name
  address : (game'.player p).address =
    hello.address.getD (game.playerNamed hello.name).address ∨
    (game'.player p).address = (game.playerNamed hello.name).address
  links : (game'.robotHeap = game.robotHeap ∧
      (game'.player p).robot = (game.playerNamed hello.name).robot) ∨
    ∃ (name : Str) (r : RobotRef), game.robots[name]? = some r ∧
      game'.robotHeap = game.robotHeap.modify r ({ · with player := some p }) ∧
      (game'.player p).robot = some r

/-- A hello greets its player, and starts the game at most if it says ready;
all else stays. -/
structure OnlyGreets (hello : Hello) (localTime : Ptime) (game game' : Game) : Prop where
  frame : game' = { game with
    players := game'.players, playerHeap := game'.playerHeap, robotHeap := game'.robotHeap
    isRunning := game'.isRunning, time := game'.time, startTime := game'.startTime
    winner := game'.winner, teamHeap := game'.teamHeap, items := game'.items }
  player : ∃ p, GreetsPlayer hello game game' p
  play : AtMostStarts (hello.ready == some true) localTime game game'

/-- A registration is for its temporary id, and marks the robot it names. -/
structure OnlyRegisters (register : Register) (game game' : Game) : Prop where
  frame : game' = { game with
    registeredRobots := game'.registeredRobots, robotHeap := game'.robotHeap }
  others : ∀ temporaryId', temporaryId' ≠ register.temporaryRobotId →
    game'.registeredRobots[temporaryId']? = game.registeredRobots[temporaryId']?
  robot : ∀ r, game'.robot r = game.robot r ∨ ∃ name : Str,
    game'.registeredRobots[register.temporaryRobotId]? = some name ∧
      game.robots[name]? = some r ∧ game'.robot r = Robot.register register.videoUrl (game.robot r)
  nothing : game.registeredRobots[register.temporaryRobotId]? = none →
    (∀ (name : Str) r, game.robots[name]? = some r → (game.robot r).hasRealRobot = true) →
    game' = game

/-- What a message of each type can change, whatever its payload. -/
structure Confined (env : Externals) (raw : RawMessage) (localTime : Instant)
    (game game' : Game) : Prop where
  hello : raw.type = "Hello".toList →
    OnlyGreets (env.parseHello raw.payload).2 (.at localTime) game game'
  robotState : raw.type = "ServerRobotState".toList → SameButContacts game game' ∧
    (raw.routingId ∉ game.robotsById ∨
      ((env.parseServerRobotState raw.payload).2.rfid = [] ∧
        (env.parseServerRobotState raw.payload).2.colour = []) → game' = game)
  register : raw.type = "Register".toList →
    OnlyRegisters (env.parseRegister raw.payload).2 game game'
  others : raw.type = "Input".toList ∨ raw.type = "Ping".toList ∨ raw.type = "Pong".toList →
    game' = game

/-- The two parsers decode the same and may differ in what they reject. -/
structure SameDecoded (env env' : Externals) : Prop where
  hello : ∀ payload, (env'.parseHello payload).2 = (env.parseHello payload).2
  input : ∀ payload, (env'.parseInput payload).2 = (env.parseInput payload).2
  register : ∀ payload, (env'.parseRegister payload).2 = (env.parseRegister payload).2
  robotState : ∀ payload,
    (env'.parseServerRobotState payload).2 = (env.parseServerRobotState payload).2
  ping : ∀ payload, (env'.parsePing payload).2 = (env.parsePing payload).2
  pong : ∀ payload, (env'.parsePong payload).2 = (env.parsePong payload).2
  lexicalCastUint16 : env'.lexicalCastUint16 = env.lexicalCastUint16
  addressOfItem : env'.addressOfItem = env.addressOfItem

-- ---------------------------------------------------------------------------
-- Hello
-- ---------------------------------------------------------------------------

theorem addPlayer_cases {name : Str} {p : PlayerRef}
    (hp : (game.addPlayer name).2.players[name]? = some p) :
    (game.players[name]? = some p ∧ (game.addPlayer name).2 = game) ∨
      (name ∉ game.players ∧ p = game.playerHeap.fresh ∧
        (game.addPlayer name).2 = { game with
          playerHeap := game.playerHeap.alloc { name }
          players := game.players.insertIfNew name p }) := by
  unfold Game.addPlayer at hp ⊢
  split at hp
  · next h => exact .inl ⟨hp, by rw [if_pos h]⟩
  · next h =>
    rw [if_neg h]
    obtain ⟨-, -, rfl⟩ | hold := Std.ExtTreeMap.getElem?_insertIfNew_eq_some.mp hp
    · exact .inr ⟨h, rfl, rfl⟩
    · exact absurd (Std.ExtTreeMap.mem_iff_isSome_getElem?.mpr (Option.isSome_of_eq_some hold)) h

theorem GreetsPlayer.addPlayer {hello : Hello} {p : PlayerRef}
    (hp : (game.addPlayer hello.name).2.players[hello.name]? = some p) :
    GreetsPlayer hello game (game.addPlayer hello.name).2 p := by
  obtain ⟨hold, hadd⟩ | ⟨hnew, rfl, hadd⟩ := addPlayer_cases hp <;> rw [hadd]
  · have hnamed : game.player p = game.playerNamed hello.name := by rw [Game.playerNamed, hold]
    exact ⟨.inl ⟨hold, rfl⟩, fun _ _ => rfl, by rw [hnamed], .inr (by rw [hnamed]),
      .inl ⟨rfl, by rw [hnamed]⟩⟩
  · have hnamed : game.playerNamed hello.name = { name := hello.name } := by
      rw [Game.playerNamed, Std.ExtTreeMap.getElem?_eq_none hnew]
    have hfresh : (game.playerHeap.alloc { name := hello.name }).get game.playerHeap.fresh =
        game.playerNamed hello.name := by
      rw [hnamed, Lib.Heap.get_alloc_fresh]
    exact ⟨.inr ⟨hnew, rfl, rfl⟩, fun _ hne => Lib.Heap.get_alloc_of_ne hne,
      congrArg Player.name hfresh, .inr (congrArg Player.address hfresh),
      .inl ⟨rfl, congrArg Player.robot hfresh⟩⟩

section
variable {hello : Hello} {localTime : Ptime} {p : PlayerRef}

theorem GreetsPlayer.link {name : Str} {r : RobotRef} (h : GreetsPlayer hello game game' p)
    (hheap : game'.robotHeap = game.robotHeap) (hr : game.robots[name]? = some r) :
    GreetsPlayer hello game (game'.link p r) p where
  stored := h.stored
  others p' hne := by rw [Game.link_player, if_neg hne, h.others p' hne]
  name := by rw [Game.link_player, if_pos rfl]; exact h.name
  address := by rw [Game.link_player, if_pos rfl]; exact h.address
  links := by
    refine .inr ⟨name, r, hr, ?_, by rw [Game.link_player, if_pos rfl]⟩
    rw [← hheap]
    rfl

theorem GreetsPlayer.start (h : GreetsPlayer hello game game' p) :
    GreetsPlayer hello game (game'.start true none localTime) p := by
  rw [Game.start_true]
  unfold Game.stop
  split <;> exact ⟨h.stored, h.others, h.name, h.address, h.links⟩

theorem Game.setAddress_player (p p' : PlayerRef) (address : Str) :
    (game.setAddress p address).player p' =
      if p' = p then { game.player p with address } else game.player p' := rfl

theorem GreetsPlayer.setAddress {address : Str} (h : GreetsPlayer hello game game' p)
    (haddress : hello.address = some address) :
    GreetsPlayer hello game (game'.setAddress p address) p where
  stored := h.stored
  others p' hne := by rw [Game.setAddress_player, if_neg hne, h.others p' hne]
  name := by rw [Game.setAddress_player, if_pos rfl]; exact h.name
  address := by rw [Game.setAddress_player, if_pos rfl, haddress]; exact .inl rfl
  links := by rw [Game.setAddress_player, if_pos rfl]; exact h.links

inductive Linked (game : Game) (name : Str) (p : PlayerRef) : Game → Prop
  | added : Linked game name p (game.addPlayer name).2
  | linked (key : Str) (r : RobotRef) (hr : game.robots[key]? = some r) :
    Linked game name p ((game.addPlayer name).2.link p r)

theorem Linked.greets (hp : (game.addPlayer hello.name).2.players[hello.name]? = some p)
    (h : Linked game hello.name p game') : GreetsPlayer hello game game' p := by
  cases h with
  | added => exact .addPlayer hp
  | linked key r hr =>
    refine (GreetsPlayer.addPlayer hp).link ?_ hr
    unfold Game.addPlayer
    split <;> rfl

theorem Linked.frame {name : Str} (h : Linked game name p game') :
    game' = { game with
      players := game'.players, playerHeap := game'.playerHeap, robotHeap := game'.robotHeap } := by
  cases h <;> unfold Game.addPlayer <;> split <;> rfl

theorem Linked.play {name : Str} (h : Linked game name p game') : SamePlay game game' := by
  rw [h.frame]
  exact ⟨rfl, rfl, rfl, rfl, rfl, rfl, rfl, rfl⟩

theorem OnlyGreets.linked (hp : (game.addPlayer hello.name).2.players[hello.name]? = some p)
    (h : Linked game hello.name p game') : OnlyGreets hello localTime game game' where
  frame := by rw [h.frame]
  player := ⟨p, h.greets hp⟩
  play := .unchanged h.play

theorem OnlyGreets.started (hp : (game.addPlayer hello.name).2.players[hello.name]? = some p)
    (h : Linked game hello.name p game') {started : Game}
    (hstart : ProcessHello.startIfReady hello localTime game' = started) :
    GreetsPlayer hello game started p ∧ OnlyGreets hello localTime game started := by
  have hgreets := h.greets hp
  rw [ProcessHello.startIfReady_eq] at hstart
  split at hstart
  · next hready =>
    split at hstart
    · subst hstart
      refine ⟨hgreets.start, ?_, ⟨p, hgreets.start⟩,
        .started (by simp [hready]) (h.play.start localTime)⟩
      rw [Game.start_true, h.frame]
      unfold Game.stop
      split <;> rfl
    · exact hstart ▸ ⟨hgreets, .linked hp h⟩
  · exact hstart ▸ ⟨hgreets, .linked hp h⟩

theorem OnlyGreets.setAddressOf {started : Game} (hgreets : GreetsPlayer hello game started p)
    (h : OnlyGreets hello localTime game started) (hp : started.players[hello.name]? = some p)
    (haddress : ProcessHello.setAddressOf hello started = .ok game') :
    OnlyGreets hello localTime game game' := by
  have hplay := SamePlay.setAddressOf haddress
  unfold ProcessHello.setAddressOf at haddress
  split at haddress
  · cases haddress
    exact h
  · next address hsome =>
    simp only [bind_eq_ok, pure_eq_ok, Game.accessPlayer_ok] at haddress
    obtain ⟨p', hp', rfl⟩ := haddress
    cases hp.symm.trans hp'
    refine ⟨?_, ⟨p, hgreets.setAddress hsome⟩, ?_⟩
    · rw [h.frame]
      rfl
    · cases h.play with
      | unchanged play => exact .unchanged (play.trans hplay)
      | started hready play => exact .started hready (play.trans hplay)

theorem OnlyGreets.execute (env : Externals) (channel : Channel) (clientId : Str) (hello : Hello)
    (localTime : Ptime) (game : Game) :
    OnlyGreets hello localTime game
      (ProcessHello.execute env channel clientId hello localTime game).game := by
  obtain ⟨hadded, p, hp⟩ := addPlayer_stored game hello.name
  have haccess := Game.accessPlayer_ok.mpr hp
  unfold ProcessHello.execute ProcessHello.executeWith
  simp only [hadded, ↓reduceIte]
  cases hrobot : (game.addPlayer hello.name).2.getRobotForPlayer hello.name with
  | none =>
    obtain ⟨game', haddress, -⟩ := setAddressOf_ok hp
    simp only [haddress]
    exact .setAddressOf (.addPlayer hp) (.linked hp .added) hp haddress
  | some r =>
    obtain ⟨key, hr, -⟩ := Game.getRobotForPlayer_some hrobot
    rw [addPlayer_robots] at hr
    have hlinked : Linked game hello.name p ((game.addPlayer hello.name).2.link p r) :=
      .linked key r hr
    simp only [haccess, videoOf_link]
    cases ProcessHello.videoOf env ((game.addPlayer hello.name).2.robot r) with
    | none => exact .linked hp hlinked
    | some video =>
      obtain ⟨hgreets, hstarted⟩ :=
        @OnlyGreets.started game _ hello localTime p hp hlinked _ rfl
      have hstart : SameLinks ((game.addPlayer hello.name).2.link p r) _ :=
        .startIfReady hello localTime
      have hplayer := hstart.players ▸ hp
      obtain ⟨game', haddress, -⟩ := setAddressOf_ok hplayer
      simp only [ProcessHello.startIfReadyWith_start, haddress]
      exact .setAddressOf hgreets hstarted hplayer haddress

end

-- ---------------------------------------------------------------------------
-- Register
-- ---------------------------------------------------------------------------

theorem OnlyRegisters.refl (register : Register) (game : Game) :
    OnlyRegisters register game game :=
  ⟨rfl, fun _ _ => rfl, fun _ => .inl rfl, fun _ _ => rfl⟩

theorem OnlyRegisters.mark {register : Register} {name : Str} {r : RobotRef}
    {registered : Lib.Map Str Str} (hr : game.robots[name]? = some r)
    (hname : registered[register.temporaryRobotId]? = some name)
    (hothers : ∀ temporaryId', temporaryId' ≠ register.temporaryRobotId →
      registered[temporaryId']? = game.registeredRobots[temporaryId']?)
    (hnothing : game.registeredRobots[register.temporaryRobotId]? = none →
      (game.robot r).hasRealRobot = false) :
    OnlyRegisters register game ({ game with registeredRobots := registered }.modifyRobot r
      (Robot.register register.videoUrl)) where
  frame := rfl
  others := hothers
  robot r' := by
    by_cases heq : r' = r
    · subst heq
      exact .inr ⟨name, hname, hr, Lib.Heap.get_modify_self _ _ _⟩
    · exact .inl (Lib.Heap.get_modify_of_ne heq)
  nothing hnew hall := by
    have hreal := hall name r hr
    rw [hnothing hnew] at hreal
    cases hreal

theorem OnlyRegisters.execute (channel : Channel) (clientId : Str) (register : Register)
    (game : Game) :
    OnlyRegisters register game
      (ProcessRegister.execute channel clientId register game).game := by
  unfold ProcessRegister.execute
  split
  · exact .refl _ game
  · next r game₁ h =>
    have hmark : OnlyRegisters register game
        (game₁.modifyRobot r (Robot.register register.videoUrl)) := by
      rcases Game.getRobotWithoutRealRobot_ok h with
        ⟨name, _, hknown, hr, hfound, rfl⟩ | ⟨name, _, hnew, hr, hfree, hfound, rfl⟩ |
          ⟨-, -, hfound, -⟩ <;> cases hfound
      · refine .mark hr hknown (fun _ _ => rfl) fun hnew => ?_
        rw [hknown] at hnew
        cases hnew
      · refine .mark hr Std.ExtTreeMap.getElem?_insert_self (fun temporaryId' hne => ?_)
          fun _ => hfree
        rw [Std.ExtTreeMap.getElem?_insert, if_neg]
        exact fun heq => hne (Std.LawfulEqCmp.compare_eq_iff_eq.mp heq).symm
    dsimp only
    split <;> exact hmark
  · next game₁ h =>
    rcases Game.getRobotWithoutRealRobot_ok h with
      ⟨_, _, -, -, hfound, -⟩ | ⟨_, _, -, -, -, hfound, -⟩ | ⟨-, -, -, rfl⟩
    · cases hfound
    · cases hfound
    · exact .refl _ _

-- ---------------------------------------------------------------------------
-- ServerRobotState
-- ---------------------------------------------------------------------------

theorem robotState_nothing (env : Externals) (destination : Str) (message : ServerRobotState)
    (game : Game)
    (h : destination ∉ game.robotsById ∨ (message.rfid = [] ∧ message.colour = [])) :
    (ProcessRobotState.execute env destination message game).game = game := by
  unfold ProcessRobotState.execute
  rcases h with h | ⟨hrfid, hcolour⟩
  · have hunknown : game.getHasRobotById destination = false :=
      Bool.eq_false_iff.mpr fun hid => h (Std.ExtTreeMap.mem_iff_contains.mpr hid)
    rw [if_pos (Bool.eq_false_iff.mp hunknown)]
  · split
    · rfl
    · rw [hrfid, hcolour]
      rfl

-- ---------------------------------------------------------------------------
-- Any message
-- ---------------------------------------------------------------------------

theorem ProcessInput.execute_game (destination : Str) (input : Input) (game : Game) :
    (execute destination input game).game = game := by
  unfold execute
  split
  · split <;> rfl
  · rfl

theorem process_confined (env : Externals) (raw : RawMessage) (channel : Channel)
    (localTime : Instant) (game : Game) :
    Confined env raw localTime game
      (ProcessDecider.process env raw channel localTime game).game where
  hello htype := by
    simp only [ProcessDecider.process, htype]
    exact .execute env channel raw.routingId _ (.at localTime) game
  robotState htype := by
    simp only [ProcessDecider.process, htype]
    exact ⟨ProcessRobotState.execute_frame env raw.routingId _ game,
      robotState_nothing env raw.routingId _ game⟩
  register htype := by
    simp only [ProcessDecider.process, htype]
    exact .execute channel raw.routingId _ game
  others htype := by
    rcases htype with htype | htype | htype <;> simp only [ProcessDecider.process, htype]
    · exact ProcessInput.execute_game raw.routingId _ game
    · rfl
    · rfl

theorem process_sameDecoded {env env' : Externals} (h : SameDecoded env env') (raw : RawMessage)
    (channel : Channel) (localTime : Instant) (game : Game) :
    ProcessDecider.process env' raw channel localTime game =
      ProcessDecider.process env raw channel localTime game := by
  have hvideo : ProcessHello.videoOf env' = ProcessHello.videoOf env := by
    funext robot
    simp only [ProcessHello.videoOf, h.lexicalCastUint16]
  have horder : ProcessRobotState.inAddressOrder env' = ProcessRobotState.inAddressOrder env := by
    funext items
    simp only [ProcessRobotState.inAddressOrder, h.addressOfItem]
  simp only [ProcessDecider.process, ProcessHello.execute, ProcessHello.executeWith,
    ProcessRobotState.execute, hvideo,
    horder, h.hello, h.input, h.register, h.robotState, h.ping, h.pong]

/-- A message of any type and payload is handled as the message decoded from it,
whether or not it was rejected, and changes at most what its type is about. -/
theorem handled_as_decoded (env : Externals) (raw : RawMessage) (channel : Channel)
    (localTime : Instant) (game : Game) :
    (∀ env', SameDecoded env env' → ProcessDecider.process env' raw channel localTime game =
      ProcessDecider.process env raw channel localTime game) ∧
    Confined env raw localTime game (ProcessDecider.process env raw channel localTime game).game :=
  ⟨fun _ h => process_sameDecoded h raw channel localTime game,
    process_confined env raw channel localTime game⟩

def brokenHello : RawMessage where
  routingId := "c".toList
  type := "Hello".toList
  payload := [Char.ofNat 255]

/-- A hello whose payload is rejected adds a player with the empty name. -/
theorem malformed_hello_adds :
    ∃ app, Server.Reachable .plain app ∧ brokenHello.IsKnown ∧ brokenHello.Malformed .plain ∧
      (Externals.plain.parseHello brokenHello.payload).1 = false ∧
      app.game.players[([] : Str)]? = none ∧
      (ProcessDecider.process .plain brokenHello .reply 0 app.game).game.players[([] : Str)]? =
        some ⟨0⟩ ∧
      (ProcessDecider.process .plain brokenHello .reply 0 app.game).game ≠ app.game := by
  refine ⟨Server.create [] 0 oneTeam, ⟨[], 0, oneTeam, [], [], rfl⟩, ?_, ?_, rfl, rfl, rfl, ?_⟩
  · simp [RawMessage.IsKnown, brokenHello]
  · exact .inl ⟨rfl, .inl rfl⟩
  · intro hsame
    have hplayer := congrArg (fun game : Game => game.players[([] : Str)]?) hsame
    cases hplayer

end ServerGame
