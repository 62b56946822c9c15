import ServerGame.Frames

/-!
# The contact a drop ends

A message names the item a robot has left, and the map of contacts is keyed by
the robot alone: whatever item is named, the one contact of the robot ends.
-/

namespace ServerGame

open Lib (bind_eq_ok pure_eq_ok)

variable {game game' : Game} {env : Externals} {id : Str} {calls : List GameCall}
  {outputs : List Output}

-- ---------------------------------------------------------------------------
-- What is promised
-- ---------------------------------------------------------------------------

/-- A message of this robot that reports RFIDs only, or a new time. -/
def Event.ReportsRfids (env : Externals) (id : Str) : Event → Prop
  | .message raw _ _ => raw.type = "ServerRobotState".toList ∧ raw.routingId = id ∧
      (env.parseServerRobotState raw.payload).2.colour = []
  | .clock _ => True
  | _ => False

def contactCallOf (items : ItemRegistry) (id : Str) (rfid : Rfid) : Option ContactCall :=
  (items.getItemByRfid rfid.rfid).map fun item =>
    match rfid.status with
    | .on => .isInContactWith id item
    | .off => .dropsContactWith id item

/-- What an event comes to for the game: the calls for the RFIDs of registered
items, in the order of the message. -/
def Event.contactCalls (env : Externals) (items : ItemRegistry) (id : Str) : Event → List GameCall
  | .message raw _ _ =>
    ((env.parseServerRobotState raw.payload).2.rfid.filterMap (contactCallOf items id)).map .contact
  | .clock currentTic => [.setTime (.at currentTic)]
  | _ => []

/-- The last contact is with the item, and the robot has not dropped it since. -/
def LastOnFor (id : Str) (calls : List GameCall) (item : ItemRef) : Prop :=
  ∃ before after, calls = before ++ .contact (.isInContactWith id item) :: after ∧
    ∀ call ∈ after, (∀ item', call ≠ .contact (.isInContactWith id item')) ∧
      call ≠ .contact (.dropsContactWith id item)

def Game.PendingWith (game : Game) (id : Str) (item : ItemRef) : Prop :=
  ∃ c, game.contacts[id]? = some c ∧ c.item = item

/-- A drop of another item leaves the contact, its deadline and the capture
state of its item alone. -/
def DropSparesOthers (game : Game) (id : Str) (calls : List GameCall) : Prop :=
  ∀ pre item post game₁ outputs c,
    calls = pre ++ .contact (.dropsContactWith id item) :: post →
    Lib.run GameCall.apply game pre = .ok (game₁, outputs) →
    game₁.contacts[id]? = some c → c.item ≠ item →
    (game₁.robotDropsContactWith id item).contacts[id]? = some c ∧
      (game₁.robotDropsContactWith id item).items.allItems[c.item]?.map Item.captureState =
        game₁.items.allItems[c.item]?.map Item.captureState

/-- No item is dropped while the robot is in contact with another one. -/
def DropsNameContact (id : Str) (calls : List GameCall) : Prop :=
  ∀ pre item post item', calls = pre ++ .contact (.dropsContactWith id item) :: post →
    LastOnFor id pre item' → item' = item

-- ---------------------------------------------------------------------------
-- The messages as calls
-- ---------------------------------------------------------------------------

theorem contactCallOf_congr {items items' : ItemRegistry} (h : SameCodes items items') :
    contactCallOf items' id = contactCallOf items id := by
  funext rfid
  rw [contactCallOf, ItemRegistry.getItemByRfid, h.byRfid]
  rfl

theorem visit_call_game {scan scan' : ProcessRobotState.Scan} {item : ItemRef}
    {call : ContactCall} (h : (scan.visit item).call call = .ok scan') :
    scan.game.handleContactCall call = .ok scan'.game := by
  simp only [ProcessRobotState.Scan.call, bind_eq_ok, pure_eq_ok,
    ProcessRobotState.visit_game] at h
  obtain ⟨_, hok, rfl⟩ := h
  exact hok

theorem foldlM_lookForRfid {rfids : List Rfid} {scan scan' : ProcessRobotState.Scan}
    (h : rfids.foldlM (ProcessRobotState.lookForRfid id) scan = .ok scan') :
    ∃ outputs, Lib.run GameCall.apply scan.game
      ((rfids.filterMap (contactCallOf scan.game.items id)).map .contact) =
        .ok (scan'.game, outputs) := by
  induction rfids generalizing scan with
  | nil =>
    simp only [List.foldlM_nil, pure_eq_ok] at h
    subst h
    exact ⟨[], Lib.run_nil.mpr rfl⟩
  | cons rfid rfids ih =>
    simp only [List.foldlM_cons, bind_eq_ok] at h
    obtain ⟨scan₁, hlook, hrest⟩ := h
    unfold ProcessRobotState.lookForRfid at hlook
    split at hlook
    · next hnone =>
      cases hlook
      rw [List.filterMap_cons_none (by rw [contactCallOf, hnone]; rfl)]
      exact ih hrest
    · next item hitem =>
      obtain ⟨call, hcall, hok⟩ : ∃ call, contactCallOf scan.game.items id rfid = some call ∧
          scan.game.handleContactCall call = .ok scan₁.game := by
        rw [contactCallOf, hitem, Option.map_some]
        cases hstatus : rfid.status <;> rw [hstatus] at hlook <;>
          exact ⟨_, rfl, visit_call_game hlook⟩
      obtain ⟨outputs, hrun⟩ := ih hrest
      rw [contactCallOf_congr (.handleContactCall hok)] at hrun
      rw [List.filterMap_cons_some hcall, List.map_cons]
      exact ⟨_, Lib.run_cons.mpr
        ⟨scan₁.game, _, outputs, GameCall.apply_contact.mpr ⟨hok, rfl⟩, hrun, rfl⟩⟩

theorem Server.step_contactCalls {app app' : Application} {event : Event} {output : Output}
    (hid : id ∈ app.game.robotsById) (hevent : event.ReportsRfids env id)
    (h : Server.step env app event = .ok (app', output)) :
    ∃ outputs, Lib.run GameCall.apply app.game (event.contactCalls env app.game.items id) =
      .ok (app'.game, outputs) := by
  cases event with
  | clock currentTic =>
    cases h
    exact ⟨_, Lib.run_singleton.mpr ⟨_, rfl, rfl⟩⟩
  | message raw channel localTime =>
    obtain ⟨htype, rfl, hcolour⟩ := hevent
    have hprocess : Server.ofOutcome app (ProcessRobotState.execute env raw.routingId
        (env.parseServerRobotState raw.payload).2 app.game) = .ok (app', output) := by
      simpa [Server.step, ProcessDecider.process, htype] using h
    obtain ⟨scan, hscan, rfl, -⟩ := (ProcessRobotState.ofOutcome_ok hid).mp hprocess
    simp only [ProcessRobotState.scanOf, hcolour, bind_eq_ok, List.foldlM_nil, pure_eq_ok] at hscan
    obtain ⟨_, hscan, rfl⟩ := hscan
    exact foldlM_lookForRfid hscan
  | _ => exact hevent.elim

def GameCall.Reports (id : Str) : GameCall → Prop
  | .contact (.isInContactWith id' _) | .contact (.dropsContactWith id' _) => id' = id
  | .setTime _ => True
  | _ => False

theorem contactCalls_reports (items : ItemRegistry) (event : Event) :
    ∀ call ∈ event.contactCalls env items id, call.Reports id := by
  intro call hcall
  cases event with
  | clock currentTic => cases List.mem_singleton.mp hcall; trivial
  | message raw channel localTime =>
    obtain ⟨contactCall, hmem, rfl⟩ := List.mem_map.mp hcall
    obtain ⟨rfid, -, hof⟩ := List.mem_filterMap.mp hmem
    obtain ⟨item, -, rfl⟩ := Option.map_eq_some_iff.mp hof
    cases rfid.status <;> rfl
  | _ => cases hcall

theorem Reports.stage {call : GameCall} {output : Output} (hreports : call.Reports id)
    (h : call.apply game = .ok (game', output)) :
    game'.robotsById = game.robotsById ∧ SameCodes game.items game'.items := by
  cases call with
  | contact call =>
    obtain ⟨hcall, -⟩ := GameCall.apply_contact.mp h
    refine ⟨?_, .handleContactCall hcall⟩
    rw [Game.handleContactCall_frame hcall]
  | setTime time => cases h; exact ⟨rfl, rfl, rfl⟩
  | _ => exact hreports.elim

theorem Server.run_contactCalls {app app' : Application} {events : List Event}
    (hid : id ∈ app.game.robotsById) (hevents : ∀ event ∈ events, event.ReportsRfids env id)
    (h : Server.run env app events = .ok (app', outputs)) :
    ∃ outputs', Lib.run GameCall.apply app.game
      (events.flatMap (Event.contactCalls env app.game.items id)) = .ok (app'.game, outputs') := by
  induction events generalizing app outputs with
  | nil => cases Lib.run_nil.mp h; exact ⟨[], Lib.run_nil.mpr rfl⟩
  | cons event events ih =>
    obtain ⟨app₁, output, _, hstep, hrest, -⟩ := Lib.run_cons.mp h
    obtain ⟨outputs₁, hfirst⟩ := Server.step_contactCalls hid (hevents event (by simp)) hstep
    obtain ⟨hbyId, hcodes⟩ := Lib.run_invariant
      (fun game => game.robotsById = app.game.robotsById ∧ SameCodes app.game.items game.items)
      (fun _ call _ _ hmem hs hcall => by
        obtain ⟨hbyId, hcodes⟩ := Reports.stage (contactCalls_reports _ event call hmem) hcall
        exact ⟨hbyId.trans hs.1, hcodes.byRfid.trans hs.2.byRfid,
          hcodes.byColour.trans hs.2.byColour⟩)
      ⟨rfl, rfl, rfl⟩ hfirst
    obtain ⟨outputs₂, hsecond⟩ := ih (hbyId ▸ hid) (fun e he => hevents e (by simp [he])) hrest
    have hsame : Event.contactCalls env app₁.game.items id =
        Event.contactCalls env app.game.items id := by
      funext e
      unfold Event.contactCalls
      rw [contactCallOf_congr hcodes]
    rw [hsame] at hsecond
    exact ⟨outputs₁ ++ outputs₂,
      Lib.run_append.mpr ⟨app₁.game, outputs₁, outputs₂, hfirst, hsecond, rfl⟩⟩

-- ---------------------------------------------------------------------------
-- The pending contact and the history
-- ---------------------------------------------------------------------------

theorem lastOnFor_concat {call : GameCall} {item : ItemRef} :
    LastOnFor id (calls ++ [call]) item ↔
      call = .contact (.isInContactWith id item) ∨
      (LastOnFor id calls item ∧ (∀ item', call ≠ .contact (.isInContactWith id item')) ∧
        call ≠ .contact (.dropsContactWith id item)) := by
  constructor
  · rintro ⟨before, after, heq, hafter⟩
    rcases List.eq_nil_or_concat after with rfl | ⟨after, last, rfl⟩
    · obtain ⟨-, hcall⟩ := List.append_inj' heq rfl
      exact .inl (List.singleton_inj.mp hcall)
    · have heq' : calls ++ [call] =
          (before ++ .contact (.isInContactWith id item) :: after) ++ [last] := by
        rw [heq]; simp
      obtain ⟨rfl, hcall⟩ := List.append_inj' heq' rfl
      cases hcall
      exact .inr ⟨⟨before, after, rfl, fun c hc => hafter c (by simp [hc])⟩,
        hafter call (by simp)⟩
  · rintro (rfl | ⟨⟨before, after, rfl, hafter⟩, hcall⟩)
    · exact ⟨calls, [], rfl, by simp⟩
    · refine ⟨before, after ++ [call], by simp, fun c hc => ?_⟩
      rcases List.mem_append.mp hc with hc | hc
      · exact hafter c hc
      · cases List.mem_singleton.mp hc
        exact hcall

theorem pendingWith_apply {call : GameCall} {output : Output} {item : ItemRef}
    (hreports : call.Reports id) (h : call.apply game = .ok (game', output)) :
    game'.PendingWith id item ↔
      call = .contact (.isInContactWith id item) ∨
      (game.PendingWith id item ∧ (∀ item', call ≠ .contact (.isInContactWith id item')) ∧
        ∀ item', call ≠ .contact (.dropsContactWith id item')) := by
  unfold Game.PendingWith
  cases call with
  | contact call =>
    obtain ⟨hcall, -⟩ := GameCall.apply_contact.mp h
    cases call with
    | isInContactWith id' item' =>
      obtain rfl : id' = id := hreports
      obtain ⟨r, -, -, -, rfl⟩ := Game.robotIsInContactWith_ok.mp hcall
      rw [Game.recordContact_contacts, Std.ExtTreeMap.getElem?_insert_self]
      simp [Game.contactOf]
    | dropsContactWith id' item' =>
      obtain rfl : id' = id := hreports
      cases hcall
      rw [Game.robotDropsContactWith_contacts, Std.ExtTreeMap.getElem?_erase_self]
      simp
  | setTime time => cases h; simp [Game.setTime]
  | _ => exact hreports.elim

/-- Where every drop names the item in contact, the state follows the history. -/
theorem pending_iff_lastOnFor (hnone : game.contacts[id]? = none)
    (hreports : ∀ call ∈ calls, call.Reports id)
    (hnamed : ∀ pre item post game₁ outputs,
      calls = pre ++ .contact (.dropsContactWith id item) :: post →
      Lib.run GameCall.apply game pre = .ok (game₁, outputs) →
      (∀ item', game₁.PendingWith id item' ↔ LastOnFor id pre item') →
      ∀ item', game₁.PendingWith id item' → item' = item)
    {pre post : List GameCall} {game₁ : Game} (heq : calls = pre ++ post)
    (hrun : Lib.run GameCall.apply game pre = .ok (game₁, outputs)) (item : ItemRef) :
    game₁.PendingWith id item ↔ LastOnFor id pre item := by
  refine Lib.run_history
    (fun game₁ pre _ => ∀ post, calls = pre ++ post → ∀ item,
      game₁.PendingWith id item ↔ LastOnFor id pre item)
    ?_ ?_ hrun post heq item
  · intro _ _ item
    refine ⟨fun ⟨c, hc, _⟩ => ?_, fun ⟨before, after, h, _⟩ => by simp at h⟩
    rw [hnone] at hc
    cases hc
  · intro game₁ pre outputs call game₂ output hpre ih happly post heq item
    have heq' : calls = pre ++ call :: post := by simpa using heq
    have ih := ih (call :: post) heq'
    have hcall := hreports call (by simp [heq'])
    rw [pendingWith_apply hcall happly, lastOnFor_concat, ih item]
    refine or_congr_right (and_congr_right fun hlast => and_congr_right fun hnot => ?_)
    refine ⟨fun h => h item, fun hother item' hdrop => ?_⟩
    subst hdrop
    have hsame := hnamed pre item' post game₁ outputs heq' hpre ih item ((ih item).mpr hlast)
    exact hother (hsame ▸ rfl)

theorem dropSparesOthers_iff : DropSparesOthers game id calls ↔
    ∀ pre item post game₁ outputs,
      calls = pre ++ .contact (.dropsContactWith id item) :: post →
      Lib.run GameCall.apply game pre = .ok (game₁, outputs) →
      ∀ item', game₁.PendingWith id item' → item' = item := by
  constructor
  · rintro h pre item post game₁ outputs heq hpre _ ⟨c, hc, rfl⟩
    by_contra hother
    have hkept := (h pre item post game₁ outputs c heq hpre hc hother).1
    rw [Game.robotDropsContactWith_contacts, Std.ExtTreeMap.getElem?_erase_self] at hkept
    cases hkept
  · intro h pre item post game₁ outputs c heq hpre hc hother
    exact absurd (h pre item post game₁ outputs heq hpre c.item ⟨c, hc, rfl⟩) hother

/-- For every sequence of RFID reports of a registered robot without a contact:
it ends in contact with the item of its last contact unless it has left that
one, and no drop of another item touches a contact, exactly when no item is
ever dropped during a contact with another one. -/
theorem drop_named_iff (env : Externals) (app : Application) (id : Str) (events : List Event)
    (app' : Application) (outputs : List Output) (hid : id ∈ app.game.robotsById)
    (hnone : app.game.contacts[id]? = none)
    (hevents : ∀ event ∈ events, event.ReportsRfids env id)
    (hrun : Server.run env app events = .ok (app', outputs)) :
    ((∀ item, app'.game.PendingWith id item ↔
        LastOnFor id (events.flatMap (Event.contactCalls env app.game.items id)) item) ∧
      DropSparesOthers app.game id (events.flatMap (Event.contactCalls env app.game.items id))) ↔
      DropsNameContact id (events.flatMap (Event.contactCalls env app.game.items id)) := by
  obtain ⟨outputs', hcalls⟩ := Server.run_contactCalls hid hevents hrun
  have hreports : ∀ call ∈ events.flatMap (Event.contactCalls env app.game.items id),
      call.Reports id := by
    intro call hmem
    obtain ⟨event, -, hmem⟩ := List.mem_flatMap.mp hmem
    exact contactCalls_reports app.game.items event call hmem
  generalize events.flatMap (Event.contactCalls env app.game.items id) = calls at *
  rw [dropSparesOthers_iff]
  constructor
  · rintro ⟨-, hspares⟩ pre item post item' heq hlast
    subst heq
    obtain ⟨game₁, outputs₁, _, hpre, -, -⟩ := Lib.run_append.mp hcalls
    refine hspares pre item post game₁ outputs₁ rfl hpre item' ?_
    exact (pending_iff_lastOnFor hnone hreports
      (fun pre item post game₁ outputs heq hpre _ => hspares pre item post game₁ outputs heq hpre)
      rfl hpre item').mpr hlast
  · intro hnames
    have hpending : ∀ {pre post : List GameCall} {game₁ : Game} {outputs : List Output},
        calls = pre ++ post → Lib.run GameCall.apply app.game pre = .ok (game₁, outputs) →
        ∀ item, game₁.PendingWith id item ↔ LastOnFor id pre item :=
      fun heq hpre => pending_iff_lastOnFor hnone hreports
        (fun pre item post _ _ heq _ ih item' hp =>
          hnames pre item post item' heq ((ih item').mp hp))
        heq hpre
    refine ⟨hpending (List.append_nil calls).symm hcalls, ?_⟩
    intro pre item post game₁ outputs₁ heq hpre item' hp
    exact hnames pre item post item' heq ((hpending heq hpre item').mp hp)

-- ---------------------------------------------------------------------------
-- Two flags
-- ---------------------------------------------------------------------------

/-- Reports of RFIDs with codes of one character: each is field 1 of the
message, with a time, a status and the code. -/
def rfidsOf : Str → List Rfid
  | _ :: _ :: _ :: timestamp :: _ :: status :: _ :: _ :: code :: rest =>
    { rfid := [code]
      status := if status.toNat = 0 then .on else .off
      timestamp := .ofNat timestamp.toNat } :: rfidsOf rest
  | _ => []

def rfidPayload (status : Nat) (code : Char) : Str :=
  [10, 7, 8, 0, 16, status, 26, 1].map Char.ofNat ++ [code]

def withRfids : Externals :=
  { Externals.plain with
    parseServerRobotState := fun payload => (true, { rfid := rfidsOf payload }) }

def rfidMessage (payload : Str) : RawMessage where
  routingId := "robot_0".toList
  type := "ServerRobotState".toList
  payload := payload

def twoFlags : List Event :=
  oneRobot ++ ["1".toList, "2".toList].map fun code =>
    .call (.createItem "flag".toList code ((∅ : Std.ExtTreeSet Str compare).insert code) (-1))

def onAndOff : List Event :=
  [.message (rfidMessage (rfidPayload 0 '1' ++ rfidPayload 1 '1')) .publish 0]

theorem drop_named_iff_onAndOff :
    ∃ app outputs₀ app' outputs, Server.run withRfids (Server.create [] 0 oneTeam) twoFlags =
        .ok (app, outputs₀) ∧
      Server.run withRfids app onAndOff = .ok (app', outputs) ∧
      DropSparesOthers app.game "robot_0".toList
        (onAndOff.flatMap (Event.contactCalls withRfids app.game.items "robot_0".toList)) := by
  refine ⟨_, _, _, _, rfl, rfl, ((drop_named_iff withRfids _ "robot_0".toList onAndOff _ _
    (Std.ExtTreeMap.mem_iff_contains.mpr rfl) rfl ?_ rfl).mpr ?_).2⟩
  · intro event hevent
    cases List.mem_singleton.mp hevent
    exact ⟨rfl, rfl, rfl⟩
  · rintro pre item post item' heq ⟨before, after, rfl, -⟩
    have hcalls : [.contact (.isInContactWith "robot_0".toList 0),
        .contact (.dropsContactWith "robot_0".toList 0)] =
          before ++ GameCall.contact (.isInContactWith "robot_0".toList item') :: after ++
            .contact (.dropsContactWith "robot_0".toList item) :: post := heq
    rcases before with _ | ⟨_, before⟩
    · cases after with
      | nil => cases hcalls; rfl
      | cons _ after => simp at hcalls
    · have hlength := congrArg List.length hcalls
      simp at hlength
      omega

/-- The robot enters the first tag and leaves the second: its contact with the
first item is gone. -/
theorem drop_ends_another :
    ∃ app outputs₀ app' outputs, Server.run withRfids (Server.create [] 0 oneTeam) twoFlags =
        .ok (app, outputs₀) ∧
      Server.run withRfids app
        [.message (rfidMessage (rfidPayload 0 '1' ++ rfidPayload 1 '2')) .publish 0] =
        .ok (app', outputs) ∧
      LastOnFor "robot_0".toList ([Event.message (rfidMessage (rfidPayload 0 '1' ++
        rfidPayload 1 '2')) .publish 0].flatMap
          (Event.contactCalls withRfids app.game.items "robot_0".toList)) 0 ∧
      ¬app'.game.PendingWith "robot_0".toList 0 := by
  refine ⟨_, _, _, _, rfl, rfl, ?_, ?_⟩
  · refine ⟨[], [.contact (.dropsContactWith "robot_0".toList 1)], rfl, ?_⟩
    simp
  · rintro ⟨c, hc, -⟩
    cases hc

end ServerGame
