import ServerGame.Edits

/-!
# What a message can write

One frame for each handler: the fields of the game it writes, all others being
as they were. What a handler leaves alone is read off its frame.
-/

namespace ServerGame

open Lib (bind_eq_ok pure_eq_ok)

variable {game game' : Game}

-- ---------------------------------------------------------------------------
-- Register
-- ---------------------------------------------------------------------------

theorem ProcessRegister.execute_frame (channel : Channel) (clientId : Str) (register : Register)
    (game : Game) :
    (execute channel clientId register game).game =
      { game with
        registeredRobots := (execute channel clientId register game).game.registeredRobots
        robotHeap := (execute channel clientId register game).game.robotHeap } := by
  unfold execute
  split
  · rfl
  · next found game' h =>
    have hframe : game' = { game with registeredRobots := game'.registeredRobots } := by
      rcases Game.getRobotWithoutRealRobot_ok h with
        ⟨_, _, -, -, -, rfl⟩ | ⟨_, _, -, -, -, -, rfl⟩ | ⟨-, -, -, rfl⟩ <;> rfl
    dsimp only
    split <;> (rw [hframe]; rfl)
  · next game' h =>
    rcases Game.getRobotWithoutRealRobot_ok h with
      ⟨_, _, -, -, -, rfl⟩ | ⟨_, _, -, -, -, -, rfl⟩ | ⟨-, -, -, rfl⟩ <;> rfl

-- ---------------------------------------------------------------------------
-- ServerRobotState
-- ---------------------------------------------------------------------------

/-- Contacts, items and flag detectors may differ, nothing else. -/
def SameButContacts (game game' : Game) : Prop :=
  game' = { game with
    contacts := game'.contacts
    items := game'.items
    flagDetectorsByRobot := game'.flagDetectorsByRobot }

theorem SameButContacts.refl (game : Game) : SameButContacts game game := rfl

theorem SameButContacts.trans {g₁ g₂ g₃ : Game} (h : SameButContacts g₁ g₂)
    (h' : SameButContacts g₂ g₃) : SameButContacts g₁ g₃ := by
  unfold SameButContacts at *
  rw [h', h]

theorem SameButContacts.handleContactCall {call : ContactCall}
    (h : game.handleContactCall call = .ok game') : SameButContacts game game' := by
  unfold SameButContacts
  rw [Game.handleContactCall_frame h]

/-- Contacts never change which item a code or a colour leads to. -/
structure SameCodes (items items' : ItemRegistry) : Prop where
  byRfid : items'.itemsByRfid = items.itemsByRfid
  byColour : items'.itemsByColour = items.itemsByColour

theorem SameCodes.destroyContact (c : Contact) :
    SameCodes game.items (game.destroyContact c).items := by
  unfold Game.destroyContact
  split <;> exact ⟨rfl, rfl⟩

theorem SameCodes.recordContact (id : Str) (r : RobotRef) (item : ItemRef) :
    SameCodes game.items (game.recordContact id r item).items := by
  unfold Game.recordContact
  split
  · next old _ =>
    have h := @SameCodes.destroyContact
      { game.modifyItem item (·.startCapture (game.team (game.robot r).team).name) with
        contacts := game.contacts.insert id (game.contactOf r item) } old
    exact ⟨h.byRfid, h.byColour⟩
  · exact ⟨rfl, rfl⟩

theorem SameCodes.drop (id : Str) (item : ItemRef) :
    SameCodes game.items (game.robotDropsContactWith id item).items := by
  unfold Game.robotDropsContactWith
  split
  · next old _ =>
    have h := @SameCodes.destroyContact { game with contacts := game.contacts.erase id } old
    exact ⟨h.byRfid, h.byColour⟩
  · exact ⟨rfl, rfl⟩

theorem SameCodes.handleContactCall {call : ContactCall}
    (h : game.handleContactCall call = .ok game') : SameCodes game.items game'.items := by
  cases call with
  | isInContactWith id item =>
    obtain ⟨r, -, -, -, rfl⟩ := Game.robotIsInContactWith_ok.mp h
    exact .recordContact id r item
  | dropsContactWith id item =>
    cases h
    exact .drop id item

namespace ProcessRobotState

variable {scan scan' : Scan} {destination : Str}

theorem SameButContacts.call {call : ContactCall} (h : scan.call call = .ok scan') :
    SameButContacts scan.game scan'.game := by
  simp only [Scan.call, bind_eq_ok, pure_eq_ok] at h
  obtain ⟨game₁, hcall, rfl⟩ := h
  exact .handleContactCall hcall

theorem SameButContacts.lookForRfid {rfid : Rfid}
    (h : lookForRfid destination scan rfid = .ok scan') :
    SameButContacts scan.game scan'.game := by
  unfold ProcessRobotState.lookForRfid at h
  split at h
  · cases h; exact .refl _
  · next item _ =>
    rw [← @visit_game scan item]
    split at h <;> exact SameButContacts.call h

theorem SameButContacts.lookForColour {colour : Colour}
    (h : lookForColour destination scan colour = .ok scan') :
    SameButContacts scan.game scan'.game := by
  unfold ProcessRobotState.lookForColour at h
  split at h
  · cases h; exact .refl _
  · next detector _ =>
    simp only [bind_eq_ok, pure_eq_ok] at h
    obtain ⟨scan₁, hcalls, rfl⟩ := h
    have hread : SameButContacts scan.game { scan.game with
        flagDetectorsByRobot := scan.game.flagDetectorsByRobot.insert destination
          (detector.setColour scan.game.items.getItemByColour
            (scan.game.robot detector.robot).robotId colour.colour).detector } := rfl
    have hcalls' : SameButContacts scan.game scan₁.game :=
      Lib.foldlM_invariant (fun s => SameButContacts scan.game s.game)
        (fun _ _ _ hs hcall => hs.trans (SameButContacts.call hcall)) hread hcalls
    split
    · rw [visit_game]; exact hcalls'
    · exact hcalls'

theorem execute_frame (env : Externals) (destination : Str) (message : ServerRobotState)
    (game : Game) : SameButContacts game (execute env destination message game).game := by
  unfold execute
  split
  · exact .refl game
  · dsimp only
    split
    · exact .refl game
    · next scan h =>
      simp only [bind_eq_ok] at h
      obtain ⟨scan₁, h₁, h₂⟩ := h
      have hrfid : SameButContacts game scan₁.game :=
        Lib.foldlM_invariant (fun s => SameButContacts game s.game)
          (fun _ _ _ hs hlook => hs.trans (SameButContacts.lookForRfid hlook)) (.refl game) h₁
      exact Lib.foldlM_invariant (fun s => SameButContacts game s.game)
        (fun _ _ _ hs hlook => hs.trans (SameButContacts.lookForColour hlook)) hrfid h₂

-- ---------------------------------------------------------------------------
-- The scan of a message
-- ---------------------------------------------------------------------------

def scanOf (destination : Str) (message : ServerRobotState) (game : Game) : Except Fault Scan := do
  let scan ← message.rfid.foldlM (ProcessRobotState.lookForRfid destination) { game }
  message.colour.foldlM (ProcessRobotState.lookForColour destination) scan

theorem handleContactCall_fault {game : Game} {call : ContactCall} {fault : Fault}
    (h : game.handleContactCall call = .error fault) : fault.isException = false := by
  cases call with
  | isInContactWith id item =>
    unfold Game.handleContactCall Game.robotIsInContactWith at h
    dsimp only at h
    split at h
    · cases h; rfl
    · next r _ =>
      rcases Lib.bind_eq_error.mp h with h | ⟨_, -, h⟩
      · unfold Game.newContact at h
        split at h
        · cases h; rfl
        · split at h
          · cases h
          · cases h; rfl
      · split at h <;> cases h
  | dropsContactWith id item => cases h

theorem call_fault {call : ContactCall} {fault : Fault} (h : scan.call call = .error fault) :
    fault.isException = false := by
  rcases Lib.bind_eq_error.mp h with h | ⟨_, -, h⟩
  · exact handleContactCall_fault h
  · cases h

theorem scanOf_fault {message : ServerRobotState} {fault : Fault}
    (h : scanOf destination message game = .error fault) : fault.isException = false := by
  rcases Lib.bind_eq_error.mp h with h | ⟨scan, -, h⟩
  · refine Lib.foldlM_error (fun fault => fault.isException = false) (fun s rfid e he => ?_) h
    unfold ProcessRobotState.lookForRfid at he
    split at he
    · cases he
    · split at he <;> exact call_fault he
  · refine Lib.foldlM_error (fun fault => fault.isException = false) (fun s colour e he => ?_) h
    unfold ProcessRobotState.lookForColour at he
    split at he
    · cases he
    · rcases Lib.bind_eq_error.mp he with he | ⟨_, -, he⟩
      · exact Lib.foldlM_error (fun fault => fault.isException = false)
          (fun _ _ _ hcall => call_fault hcall) he
      · split at he <;> cases he

def itemsOf (env : Externals) (scan : Scan) : List ItemMessage :=
  (inAddressOrder env scan.visitedItems).filterMap fun item =>
    scan.game.items.allItems[item]?.map Item.encode

theorem ofOutcome_ok {env : Externals} {app app' : Application} {message : ServerRobotState}
    {output : Output} (hid : destination ∈ app.game.robotsById) :
    Server.ofOutcome app (execute env destination message app.game) = .ok (app', output) ↔
      ∃ scan, scanOf destination message app.game = .ok scan ∧
        app' = { app with game := scan.game } ∧
        output = {
          sent := (playerStates message (itemsOf env scan)).map fun state =>
            publish destination (.playerState state)
          calls := scan.calls } := by
  have hregistered : app.game.getHasRobotById destination = true :=
    Std.ExtTreeMap.mem_iff_contains.mp hid
  unfold execute
  rw [if_neg (by simp [hregistered])]
  cases hscan : scanOf destination message app.game with
  | error fault =>
    unfold scanOf at hscan
    simp [hscan, Server.ofOutcome, scanOf_fault hscan]
  | ok scan =>
    unfold scanOf at hscan
    simp only [hscan, Server.ofOutcome, Except.ok.injEq, Prod.mk.injEq, exists_eq_left']
    exact and_congr eq_comm eq_comm

end ProcessRobotState

-- ---------------------------------------------------------------------------
-- Hello
-- ---------------------------------------------------------------------------

/-- The play: what a game in progress consists of. -/
structure SamePlay (game game' : Game) : Prop where
  gameDuration : game'.gameDuration = game.gameDuration
  startTime : game'.startTime = game.startTime
  time : game'.time = game.time
  winner : game'.winner = game.winner
  isRunning : game'.isRunning = game.isRunning
  teams : game'.teams = game.teams
  teamHeap : game'.teamHeap = game.teamHeap
  items : game'.items = game.items

theorem SamePlay.refl (game : Game) : SamePlay game game :=
  ⟨rfl, rfl, rfl, rfl, rfl, rfl, rfl, rfl⟩

theorem SamePlay.trans {g₁ g₂ g₃ : Game} (h : SamePlay g₁ g₂) (h' : SamePlay g₂ g₃) :
    SamePlay g₁ g₃ where
  gameDuration := h'.gameDuration.trans h.gameDuration
  startTime := h'.startTime.trans h.startTime
  time := h'.time.trans h.time
  winner := h'.winner.trans h.winner
  isRunning := h'.isRunning.trans h.isRunning
  teams := h'.teams.trans h.teams
  teamHeap := h'.teamHeap.trans h.teamHeap
  items := h'.items.trans h.items

theorem SamePlay.addPlayer (name : Str) : SamePlay game (game.addPlayer name).2 := by
  unfold Game.addPlayer
  split
  · exact .refl game
  · exact ⟨rfl, rfl, rfl, rfl, rfl, rfl, rfl, rfl⟩

theorem SamePlay.link (p : PlayerRef) (r : RobotRef) : SamePlay game (game.link p r) :=
  ⟨rfl, rfl, rfl, rfl, rfl, rfl, rfl, rfl⟩

theorem SamePlay.setAddressOf {hello : Hello}
    (h : ProcessHello.setAddressOf hello game = .ok game') : SamePlay game game' := by
  unfold ProcessHello.setAddressOf at h
  split at h
  · cases h; exact .refl game
  · simp only [bind_eq_ok, pure_eq_ok] at h
    obtain ⟨p, -, rfl⟩ := h
    exact ⟨rfl, rfl, rfl, rfl, rfl, rfl, rfl, rfl⟩

end ServerGame
