import ServerGame.Lib.Footprint
import ServerGame.Drops
import ServerGame.Roster

/-!
# Robots that have nothing to do with each other

A message of a robot reads and writes its own contact, its own flag detector
and the items it is about. Two messages of two robots that are about different
items come to the same in either order.
-/

namespace ServerGame

open Lib (bind_eq_ok pure_eq_ok AgreeOn)

variable {game game' : Game} {id : Str} {items : Set ItemRef}

-- ---------------------------------------------------------------------------
-- The game as cells
-- ---------------------------------------------------------------------------

inductive Cell
  | fixed
  | contact (id : Str)
  | detector (id : Str)
  | item (i : ItemRef)

abbrev Cell.Value : Cell → Type
  | .fixed => Game
  | .contact _ => Option Contact
  | .detector _ => Option FlagDetector
  | .item _ => Option Item

/-- What no message of a robot about its state writes is one cell. -/
def Game.cell (game : Game) : (k : Cell) → k.Value
  | .fixed => { game with
      contacts := ∅, flagDetectorsByRobot := ∅, items := { game.items with allItems := [] } }
  | .contact id => game.contacts[id]?
  | .detector id => game.flagDetectorsByRobot[id]?
  | .item i => game.items.allItems[i]?

theorem cell_injective : Function.Injective Game.cell := by
  have hrestore : ∀ game : Game, game = { game.cell .fixed with
      contacts := game.contacts
      flagDetectorsByRobot := game.flagDetectorsByRobot
      items := { (game.cell .fixed).items with allItems := game.items.allItems } } := fun _ => rfl
  intro game game' h
  have hfixed : game.cell .fixed = game'.cell .fixed := congrFun h .fixed
  have hcontacts : game.contacts = game'.contacts :=
    Std.ExtTreeMap.ext_getElem? fun id => congrFun h (.contact id)
  have hdetectors : game.flagDetectorsByRobot = game'.flagDetectorsByRobot :=
    Std.ExtTreeMap.ext_getElem? fun id => congrFun h (.detector id)
  have hitems : game.items.allItems = game'.items.allItems :=
    List.ext_getElem? fun i => congrFun h (.item i)
  rw [hrestore game, hfixed, hcontacts, hdetectors, hitems]
  exact (hrestore game').symm

def Cell.Of (id : Str) (items : Set ItemRef) : Cell → Prop
  | .fixed => False
  | .contact id' | .detector id' => id' = id
  | .item i => i ∈ items

def writesOf (id : Str) (items : Set ItemRef) : Set Cell := { k | k.Of id items }

def readsOf (id : Str) (items : Set ItemRef) : Set Cell := insert .fixed (writesOf id items)

theorem writesOf_disjoint {id id' : Str} {items items' : Set ItemRef} (hne : id ≠ id')
    (hitems : Disjoint items items') : Disjoint (writesOf id items) (readsOf id' items') := by
  refine Set.disjoint_left.mpr fun k hk hk' => ?_
  rcases hk' with rfl | hk'
  · exact hk
  · cases k with
    | fixed => exact hk
    | contact id₁ => exact hne (hk.symm.trans hk')
    | detector id₁ => exact hne (hk.symm.trans hk')
    | item i => exact Set.disjoint_left.mp hitems hk hk'

-- ---------------------------------------------------------------------------
-- One call
-- ---------------------------------------------------------------------------

def ContactCall.Within (id : Str) (items : Set ItemRef) : ContactCall → Prop
  | .isInContactWith id' item => id' = id ∧ item ∈ items
  | .dropsContactWith id' _ => id' = id

def Game.PendingIn (game : Game) (id : Str) (items : Set ItemRef) : Prop :=
  ∀ c, game.contacts[id]? = some c → c.item ∈ items

theorem afterDestroying_of_notMem {k : ItemRef} (hpending : game.PendingIn id items)
    (hk : k ∉ items) : Game.afterDestroying game.contacts[id]? k = fun it => it := by
  funext it
  unfold Game.afterDestroying
  cases hold : game.contacts[id]? with
  | none => rfl
  | some old =>
    have hne : old.item ≠ k := fun h => hk (h ▸ hpending old hold)
    simp [hne]

theorem call_fixed {call : ContactCall} (h : game.handleContactCall call = .ok game') :
    game'.cell .fixed = game.cell .fixed := by
  have hcodes := SameCodes.handleContactCall h
  rw [Game.handleContactCall_frame h]
  simp only [Game.cell, hcodes.byRfid, hcodes.byColour]

theorem call_frame {call : ContactCall} (hpending : game.PendingIn id items)
    (hcall : call.Within id items) (h : game.handleContactCall call = .ok game') :
    ∀ k ∉ writesOf id items, game'.cell k = game.cell k := by
  intro k hk
  cases k with
  | fixed => exact call_fixed h
  | detector id' => rw [Game.handleContactCall_frame h]; rfl
  | contact id' =>
    have hne : id ≠ id' := fun heq => hk heq.symm
    cases call with
    | isInContactWith id₁ item =>
      obtain ⟨rfl, -⟩ := hcall
      obtain ⟨r, -, -, -, rfl⟩ := Game.robotIsInContactWith_ok.mp h
      simp [Game.cell, Game.recordContact_contacts, Std.ExtTreeMap.getElem?_insert, hne]
    | dropsContactWith id₁ item =>
      obtain rfl : id₁ = id := hcall
      cases h
      simp [Game.cell, Game.robotDropsContactWith_contacts, Std.ExtTreeMap.getElem?_erase, hne]
  | item i =>
    cases call with
    | isInContactWith id₁ item =>
      obtain ⟨rfl, hitem⟩ := hcall
      obtain ⟨r, -, -, -, rfl⟩ := Game.robotIsInContactWith_ok.mp h
      have hne : item ≠ i := fun heq => hk (heq ▸ hitem)
      refine (Game.recordContact_getElem? id₁ r item i).trans ?_
      rw [afterDestroying_of_notMem hpending hk]
      simp only [hne, ↓reduceIte]
      exact Option.map_id'
    | dropsContactWith id₁ item =>
      obtain rfl : id₁ = id := hcall
      cases h
      refine (Game.robotDropsContactWith_getElem? id₁ item i).trans ?_
      rw [afterDestroying_of_notMem hpending hk]
      exact Option.map_id'

theorem call_pending {call : ContactCall} (hpending : game.PendingIn id items)
    (hcall : call.Within id items) (h : game.handleContactCall call = .ok game') :
    game'.PendingIn id items := by
  intro c hc
  cases call with
  | isInContactWith id₁ item =>
    obtain ⟨rfl, hitem⟩ := hcall
    obtain ⟨r, -, -, -, rfl⟩ := Game.robotIsInContactWith_ok.mp h
    rw [Game.recordContact_contacts, Std.ExtTreeMap.getElem?_insert_self] at hc
    cases hc
    exact hitem
  | dropsContactWith id₁ item =>
    obtain rfl : id₁ = id := hcall
    cases h
    rw [Game.robotDropsContactWith_contacts, Std.ExtTreeMap.getElem?_erase_self] at hc
    cases hc

theorem call_congr {twin : Game} {call : ContactCall} (hcall : call.Within id items)
    (hagree : AgreeOn Game.cell (readsOf id items) game twin)
    (h : game.handleContactCall call = .ok game') :
    ∃ twin', twin.handleContactCall call = .ok twin' ∧
      AgreeOn Game.cell (readsOf id items) game' twin' := by
  have hfixed : game.cell .fixed = twin.cell .fixed := hagree .fixed (.inl rfl)
  have hcontact : game.contacts[id]? = twin.contacts[id]? := hagree (.contact id) (.inr rfl)
  have hitems : ∀ i ∈ items, game.items.allItems[i]? = twin.items.allItems[i]? :=
    fun i hi => hagree (.item i) (.inr hi)
  -- a call that succeeds on the twin leaves the fixed cell and the detector as they were
  suffices hsuccess : ∃ twin', twin.handleContactCall call = .ok twin' ∧
      game'.contacts[id]? = twin'.contacts[id]? ∧
      ∀ i ∈ items, game'.items.allItems[i]? = twin'.items.allItems[i]? by
    obtain ⟨twin', htwin, hcontact', hitems'⟩ := hsuccess
    refine ⟨twin', htwin, fun k hk => ?_⟩
    rcases hk with rfl | hk
    · rw [call_fixed h, call_fixed htwin, hfixed]
    · cases k with
      | fixed => exact hk.elim
      | contact id' => obtain rfl : id' = id := hk; exact hcontact'
      | detector id' =>
        have hdetector := hagree (.detector id') (.inr hk)
        rw [Game.handleContactCall_frame h, Game.handleContactCall_frame htwin]
        exact hdetector
      | item i => exact hitems' i hk
  cases call with
  | isInContactWith id₁ item =>
    obtain ⟨rfl, hitem⟩ := hcall
    obtain ⟨r, hr, halive, hlength, rfl⟩ := Game.robotIsInContactWith_ok.mp h
    have hrobot : (game.cell .fixed).robot = (twin.cell .fixed).robot :=
      congrArg Game.robot hfixed
    have hteam : (game.cell .fixed).team = (twin.cell .fixed).team := congrArg Game.team hfixed
    have hcontactOf : (game.cell .fixed).contactOf r item = (twin.cell .fixed).contactOf r item :=
      congrArg (fun g : Game => g.contactOf r item) hfixed
    change game.robot = twin.robot at hrobot
    change game.team = twin.team at hteam
    refine ⟨twin.recordContact id₁ r item, Game.robotIsInContactWith_ok.mpr ⟨r, ?_, ?_, ?_, rfl⟩,
      ?_, fun i hi => ?_⟩
    · exact (congrArg (fun g : Game => g.robotsById[id₁]?) hfixed).symm.trans hr
    · rw [← hrobot]
      exact (congrArg (fun g : Game => g.teamIsAlive (game.robot r).team) hfixed).symm.trans halive
    · have hthere := hitems item hitem
      rw [List.getElem?_eq_getElem hlength] at hthere
      exact (List.getElem?_eq_some_iff.mp hthere.symm).1
    · rw [Game.recordContact_contacts, Game.recordContact_contacts,
        Std.ExtTreeMap.getElem?_insert_self, Std.ExtTreeMap.getElem?_insert_self]
      exact congrArg some hcontactOf
    · rw [Game.recordContact_getElem?, Game.recordContact_getElem?, hcontact, hitems i hi, hrobot,
        hteam]
  | dropsContactWith id₁ item =>
    obtain rfl : id₁ = id := hcall
    cases h
    refine ⟨_, rfl, ?_, fun i hi => ?_⟩
    · simp only [Game.robotDropsContactWith_contacts, Std.ExtTreeMap.getElem?_erase_self]
    · rw [Game.robotDropsContactWith_getElem?, Game.robotDropsContactWith_getElem?, hcontact,
        hitems i hi]

-- ---------------------------------------------------------------------------
-- One message
-- ---------------------------------------------------------------------------

structure Game.Named (game : Game) (message : ServerRobotState) (items : Set ItemRef) :
    Prop where
  byRfid : ∀ rfid ∈ message.rfid, ∀ item, game.items.getItemByRfid rfid.rfid = some item →
    item ∈ items
  byColour : ∀ colour ∈ message.colour, ∀ item,
    game.items.getItemByColour colour.colour = some item → item ∈ items

/-- The robot a detector reports for is the one it is stored for. -/
def Game.DetectorNamed (game : Game) (id : Str) : Prop :=
  ∀ d, game.flagDetectorsByRobot[id]? = some d → (game.robot d.robot).robotId = id

/-- What the two loops keep in a game, for a message about these items. -/
structure Scanning (game : Game) (id : Str) (items : Set ItemRef) (scan : ProcessRobotState.Scan) :
    Prop where
  fixed : scan.game.cell .fixed = game.cell .fixed
  pending : scan.game.PendingIn id items
  detector : ∀ d, scan.game.flagDetectorsByRobot[id]? = some d → (game.robot d.robot).robotId = id
  visited : ∀ i ∈ scan.visitedItems, i ∈ items

def SameElsewhere (id : Str) (items : Set ItemRef) (scan scan' : ProcessRobotState.Scan) : Prop :=
  ∀ k ∉ writesOf id items, scan'.game.cell k = scan.game.cell k

structure TwinScans (id : Str) (items : Set ItemRef) (scan twin : ProcessRobotState.Scan) :
    Prop where
  agree : AgreeOn Game.cell (readsOf id items) scan.game twin.game
  visited : twin.visitedItems = scan.visitedItems
  calls : twin.calls = scan.calls

abbrev StaysWith (game : Game) (id : Str) (items : Set ItemRef)
    (f : ProcessRobotState.Scan → Except Fault ProcessRobotState.Scan) : Prop :=
  Lib.Tracked (Scanning game id items) (SameElsewhere id items) (TwinScans id items) f

theorem SameElsewhere.trans (s₁ s₂ s₃ : ProcessRobotState.Scan)
    (h : SameElsewhere id items s₁ s₂) (h' : SameElsewhere id items s₂ s₃) :
    SameElsewhere id items s₁ s₃ :=
  fun k hk => (h' k hk).trans (h k hk)

section
variable {item : ItemRef}

theorem StaysWith.skip : StaysWith game id items fun scan => .ok scan := by
  intro scan scan' hs h
  cases h
  exact ⟨hs, fun _ _ => rfl, fun twin ht => ⟨twin, rfl, ht⟩⟩

theorem StaysWith.call {call : ContactCall} (hcall : call.Within id items) :
    StaysWith game id items (·.call call) := by
  intro scan scan' hs h
  simp only [ProcessRobotState.Scan.call, bind_eq_ok, pure_eq_ok] at h
  obtain ⟨game', hok, rfl⟩ := h
  refine ⟨⟨(call_fixed hok).trans hs.fixed, call_pending hs.pending hcall hok, ?_, hs.visited⟩,
    call_frame hs.pending hcall hok, fun twin ht => ?_⟩
  · rw [Game.handleContactCall_frame hok]
    exact hs.detector
  · obtain ⟨twin', htwin, hagree⟩ := call_congr hcall ht.agree hok
    refine ⟨{ twin with game := twin', calls := twin.calls ++ [call] }, ?_,
      ⟨hagree, ht.visited, by rw [ht.calls]⟩⟩
    simp only [ProcessRobotState.Scan.call, htwin, Lib.ok_bind]
    rfl

theorem StaysWith.visit (hitem : item ∈ items) :
    StaysWith game id items fun scan => .ok (scan.visit item) := by
  intro scan scan' hs h
  cases h
  have hgame : (scan.visit item).game = scan.game := ProcessRobotState.visit_game item
  refine ⟨?_, fun k _ => by rw [hgame], fun twin ht => ⟨twin.visit item, rfl, ?_⟩⟩
  · refine ⟨hgame ▸ hs.fixed, hgame ▸ hs.pending, hgame ▸ hs.detector, fun i hi => ?_⟩
    unfold ProcessRobotState.Scan.visit at hi
    split at hi
    · exact hs.visited i hi
    · rcases List.mem_append.mp hi with hi | hi
      · exact hs.visited i hi
      · cases List.mem_singleton.mp hi
        exact hitem
  · refine ⟨?_, ?_, ?_⟩
    · rw [hgame, ProcessRobotState.visit_game]
      exact ht.agree
    · unfold ProcessRobotState.Scan.visit
      rw [ht.visited]
      split <;> simp [ht.visited]
    · rw [ProcessRobotState.visit_calls, ProcessRobotState.visit_calls, ht.calls]

def noteDetector (id : Str) (d : FlagDetector) (scan : ProcessRobotState.Scan) :
    ProcessRobotState.Scan :=
  { scan with game := { scan.game with
    flagDetectorsByRobot := scan.game.flagDetectorsByRobot.insert id d } }

theorem StaysWith.note {d : FlagDetector} (hd : (game.robot d.robot).robotId = id) :
    StaysWith game id items fun scan => .ok (noteDetector id d scan) := by
  intro scan scan' hs h
  cases h
  have hcell : ∀ (scan : ProcessRobotState.Scan) (k : Cell), k ≠ .detector id →
      (noteDetector id d scan).game.cell k = scan.game.cell k := by
    intro scan k hk
    cases k with
    | detector id' =>
      have hne : id ≠ id' := fun h => hk (h ▸ rfl)
      simp [Game.cell, noteDetector, Std.ExtTreeMap.getElem?_insert, hne]
    | _ => rfl
  have hself : ∀ scan : ProcessRobotState.Scan,
      (noteDetector id d scan).game.cell (.detector id) = some d :=
    fun scan => Std.ExtTreeMap.getElem?_insert_self
  refine ⟨⟨hs.fixed, hs.pending, fun d' hd' => ?_, hs.visited⟩, fun k hk => hcell scan k ?_,
    fun twin ht => ⟨noteDetector id d twin, rfl, fun k hk => ?_, ht.visited, ht.calls⟩⟩
  · cases (hself scan).symm.trans hd'
    exact hd
  · rintro rfl
    exact hk rfl
  · by_cases hdetector : k = .detector id
    · rw [hdetector, hself, hself]
    · rw [hcell scan k hdetector, hcell twin k hdetector]
      exact ht.agree k hk

-- ---------------------------------------------------------------------------
-- RFIDs and colours
-- ---------------------------------------------------------------------------

theorem TwinScans.fixed {scan twin : ProcessRobotState.Scan} (hs : Scanning game id items scan)
    (ht : TwinScans id items scan twin) : twin.game.cell .fixed = game.cell .fixed :=
  (ht.agree .fixed (.inl rfl)).symm.trans hs.fixed

theorem StaysWith.visitAndCall {call : ContactCall} (hitem : item ∈ items)
    (hcall : call.Within id items) :
    StaysWith game id items fun scan => (scan.visit item).call call :=
  Lib.Tracked.bind SameElsewhere.trans (StaysWith.visit hitem) (StaysWith.call hcall)

theorem StaysWith.lookForRfid {rfid : Rfid}
    (hnamed : ∀ item, game.items.getItemByRfid rfid.rfid = some item → item ∈ items) :
    StaysWith game id items (ProcessRobotState.lookForRfid id · rfid) := by
  have hcodes : ∀ {scan : ProcessRobotState.Scan}, scan.game.cell .fixed = game.cell .fixed →
      scan.game.items.getItemByRfid rfid.rfid = game.items.getItemByRfid rfid.rfid := by
    intro scan hfixed
    have hcodes := congrArg (fun g : Game => g.items.getItemByRfid rfid.rfid) hfixed
    exact hcodes
  cases hitem : game.items.getItemByRfid rfid.rfid with
  | none =>
    have hskip : ∀ {scan : ProcessRobotState.Scan}, scan.game.cell .fixed = game.cell .fixed →
        ProcessRobotState.lookForRfid id scan rfid = .ok scan := by
      intro scan hfixed
      simp only [ProcessRobotState.lookForRfid, hcodes hfixed, hitem]
    exact Lib.Tracked.of_eq (fun scan hs => hskip hs.fixed)
      (fun scan twin hs ht => hskip (ht.fixed hs)) StaysWith.skip
  | some item =>
    have hcall : ∃ call : ContactCall, call.Within id items ∧
        ∀ {scan : ProcessRobotState.Scan}, scan.game.cell .fixed = game.cell .fixed →
          ProcessRobotState.lookForRfid id scan rfid = (scan.visit item).call call := by
      cases hstatus : rfid.status with
      | on =>
        refine ⟨.isInContactWith id item, ⟨rfl, hnamed item hitem⟩, fun hfixed => ?_⟩
        simp only [ProcessRobotState.lookForRfid, hcodes hfixed, hitem, hstatus]
      | off =>
        refine ⟨.dropsContactWith id item, rfl, fun hfixed => ?_⟩
        simp only [ProcessRobotState.lookForRfid, hcodes hfixed, hitem, hstatus]
    obtain ⟨call, hwithin, hcall⟩ := hcall
    exact Lib.Tracked.of_eq (fun scan hs => hcall hs.fixed)
      (fun scan twin hs ht => hcall (ht.fixed hs))
      (StaysWith.visitAndCall (hnamed item hitem) hwithin)

theorem setColour_within {find : Int → Option ItemRef} {d : FlagDetector} {colour : Int}
    (hnamed : ∀ item, find colour = some item → item ∈ items) :
    (∀ call ∈ (FlagDetector.setColour find id d colour).calls, call.Within id items) ∧
      ∀ item, (FlagDetector.setColour find id d colour).newItem = some item → item ∈ items := by
  unfold FlagDetector.setColour
  split
  · split <;> simp
  · split
    · next item hitem => simp [ContactCall.Within, hnamed item hitem]
    · simp
  · split
    · next item hitem => split <;> simp [ContactCall.Within, hnamed item hitem]
    · simp
  · split
    · unfold FlagDetector.backToFrontier
      split <;> simp [ContactCall.Within]
    · split <;> simp
  · split
    · split <;> simp
    · split
      · unfold FlagDetector.backToFrontier
        split <;> simp [ContactCall.Within]
      · simp

theorem StaysWith.reading {reading : FlagDetector.Reading}
    (hd : (game.robot reading.detector.robot).robotId = id)
    (hcalls : ∀ call ∈ reading.calls, call.Within id items)
    (hnew : ∀ item, reading.newItem = some item → item ∈ items) :
    StaysWith game id items fun scan => do
      let scan ← reading.calls.foldlM ProcessRobotState.Scan.call
        (noteDetector id reading.detector scan)
      return reading.newItem.elim scan scan.visit := by
  have hcall : StaysWith game id items (reading.calls.foldlM ProcessRobotState.Scan.call) :=
    Lib.Tracked.foldlM (fun _ _ _ => rfl) SameElsewhere.trans fun call hmem =>
      StaysWith.call (hcalls call hmem)
  have hvisit : StaysWith game id items fun scan =>
      .ok (reading.newItem.elim scan scan.visit) := by
    cases hitem : reading.newItem with
    | none => exact StaysWith.skip
    | some item => exact StaysWith.visit (hnew item hitem)
  exact Lib.Tracked.bind SameElsewhere.trans
    (Lib.Tracked.bind SameElsewhere.trans (StaysWith.note hd) hcall) hvisit

theorem lookForColour_reading {scan : ProcessRobotState.Scan} {d : FlagDetector} {colour : Colour}
    (hfixed : scan.game.cell .fixed = game.cell .fixed)
    (hdetector : scan.game.flagDetectorsByRobot[id]? = some d)
    (hd : (game.robot d.robot).robotId = id) :
    ProcessRobotState.lookForColour id scan colour = (do
      let reading := d.setColour game.items.getItemByColour id colour.colour
      let scan ← reading.calls.foldlM ProcessRobotState.Scan.call
        (noteDetector id reading.detector scan)
      return reading.newItem.elim scan scan.visit) := by
  have hfind := congrArg (fun g : Game => g.items.getItemByColour) hfixed
  change scan.game.items.getItemByColour = game.items.getItemByColour at hfind
  have hrobot := congrArg (fun g : Game => (g.robot d.robot).robotId) hfixed
  change (scan.game.robot d.robot).robotId = (game.robot d.robot).robotId at hrobot
  simp only [ProcessRobotState.lookForColour, Game.getFlagDetector, hdetector, hfind, hrobot, hd,
    noteDetector]
  refine congrArg _ (funext fun scan => ?_)
  cases (d.setColour game.items.getItemByColour id colour.colour).newItem <;> rfl

theorem StaysWith.lookForColour {colour : Colour}
    (hnamed : ∀ item, game.items.getItemByColour colour.colour = some item → item ∈ items) :
    StaysWith game id items (ProcessRobotState.lookForColour id · colour) := by
  intro scan scan' hs h
  change ProcessRobotState.lookForColour id scan colour = .ok scan' at h
  cases hdetector : scan.game.flagDetectorsByRobot[id]? with
  | none =>
    have hskip : ∀ {scan : ProcessRobotState.Scan}, scan.game.flagDetectorsByRobot[id]? = none →
        ProcessRobotState.lookForColour id scan colour = .ok scan := by
      intro scan hnone
      rw [ProcessRobotState.lookForColour, Game.getFlagDetector, hnone]
    rw [hskip hdetector] at h
    cases h
    refine ⟨hs, fun _ _ => rfl, fun twin ht => ⟨twin, hskip ?_, ht⟩⟩
    rw [← hdetector]
    exact (ht.agree (.detector id) (.inr rfl)).symm
  | some d =>
    have hd : (game.robot d.robot).robotId = id := hs.detector d hdetector
    obtain ⟨hcalls, hnew⟩ := @setColour_within id items game.items.getItemByColour d
      colour.colour hnamed
    have hstays := @StaysWith.reading game id items
      (d.setColour game.items.getItemByColour id colour.colour)
      (by rw [FlagDetector.setColour_robot]; exact hd) hcalls hnew
    obtain ⟨hs', helsewhere, htwins⟩ := hstays scan scan' hs
      ((lookForColour_reading hs.fixed hdetector hd).symm.trans h)
    refine ⟨hs', helsewhere, fun twin ht => ?_⟩
    have hdetector' : twin.game.flagDetectorsByRobot[id]? = some d :=
      (ht.agree (.detector id) (.inr rfl)).symm.trans hdetector
    obtain ⟨twin', htwin, hsame⟩ := htwins twin ht
    exact ⟨twin', (lookForColour_reading (ht.fixed hs) hdetector' hd).trans htwin, hsame⟩

end

-- ---------------------------------------------------------------------------
-- The message as an action
-- ---------------------------------------------------------------------------

/-- What a message does, and what it shows, when it does not fault. -/
def scanAction (env : Externals) (id : Str) (message : ServerRobotState) (game : Game) :
    Except Fault (Game × Output) := do
  let scan ← ProcessRobotState.scanOf id message game
  return (scan.game,
    { sent := (ProcessRobotState.playerStates message (ProcessRobotState.itemsOf env scan)).map
        fun state => publish id (.playerState state)
      calls := scan.calls })

structure Ready (id : Str) (message : ServerRobotState) (items : Set ItemRef) (game : Game) :
    Prop where
  named : game.Named message items
  pending : game.PendingIn id items
  detector : game.DetectorNamed id

theorem Scanning.start {message : ServerRobotState} (h : Ready id message items game) :
    Scanning game id items { game } :=
  ⟨rfl, h.pending, h.detector, by simp⟩

theorem scanOf_staysWith {message : ServerRobotState} (hnamed : game.Named message items) :
    StaysWith game id items (fun scan => do
      let scan ← message.rfid.foldlM (ProcessRobotState.lookForRfid id) scan
      message.colour.foldlM (ProcessRobotState.lookForColour id) scan) :=
  Lib.Tracked.bind SameElsewhere.trans
    (Lib.Tracked.foldlM (fun _ _ _ => rfl) SameElsewhere.trans fun rfid hmem =>
      StaysWith.lookForRfid (hnamed.byRfid rfid hmem))
    (Lib.Tracked.foldlM (fun _ _ _ => rfl) SameElsewhere.trans fun colour hmem =>
      StaysWith.lookForColour (hnamed.byColour colour hmem))

theorem TwinScans.itemsOf {scan twin : ProcessRobotState.Scan} (env : Externals)
    (hs : Scanning game id items scan) (ht : TwinScans id items scan twin) :
    ProcessRobotState.itemsOf env twin = ProcessRobotState.itemsOf env scan := by
  unfold ProcessRobotState.itemsOf
  rw [ht.visited]
  refine List.filterMap_congr fun i hi => ?_
  have hvisited : i ∈ scan.visitedItems := (List.mergeSort_perm _ _).mem_iff.mp hi
  have hitem : scan.game.items.allItems[i]? = twin.game.items.allItems[i]? :=
    ht.agree (.item i) (.inr (hs.visited i hvisited))
  rw [hitem]

theorem scanAction_actsOn (env : Externals) (id : Str) (message : ServerRobotState)
    (items : Set ItemRef) :
    Lib.ActsOn Game.cell (Ready id message items) (readsOf id items) (writesOf id items)
      (scanAction env id message) where
  subset _ hk := .inr hk
  stable := by
    intro game twin hready hagree
    have hfixed : game.cell .fixed = twin.cell .fixed := hagree .fixed (.inl rfl)
    have hrobot := congrArg Game.robot hfixed
    have hcodes := congrArg Game.items hfixed
    have hcontact : game.contacts[id]? = twin.contacts[id]? := hagree (.contact id) (.inr rfl)
    have hdetector : game.flagDetectorsByRobot[id]? = twin.flagDetectorsByRobot[id]? :=
      hagree (.detector id) (.inr rfl)
    have hrfid := congrArg ItemRegistry.getItemByRfid hcodes
    have hcolour := congrArg ItemRegistry.getItemByColour hcodes
    change game.items.getItemByRfid = twin.items.getItemByRfid at hrfid
    change game.items.getItemByColour = twin.items.getItemByColour at hcolour
    change game.robot = twin.robot at hrobot
    refine ⟨⟨hrfid ▸ hready.named.byRfid, hcolour ▸ hready.named.byColour⟩, fun c hc => ?_,
      fun d hd => ?_⟩
    · exact hready.pending c (hcontact.trans hc)
    · rw [← hrobot]
      exact hready.detector d (hdetector.trans hd)
  frame := by
    intro game game' output hready h
    obtain ⟨scan, hscan, hresult⟩ := bind_eq_ok.mp h
    cases hresult
    obtain ⟨-, helsewhere, -⟩ :=
      scanOf_staysWith hready.named { game } scan (Scanning.start hready) hscan
    exact helsewhere
  congr := by
    intro game twin game' output hready hagree h
    obtain ⟨scan, hscan, hresult⟩ := bind_eq_ok.mp h
    cases hresult
    obtain ⟨hs, -, htwins⟩ :=
      scanOf_staysWith hready.named { game } scan (Scanning.start hready) hscan
    obtain ⟨scan', hscan', ht⟩ := htwins { game := twin } ⟨hagree, rfl, rfl⟩
    refine ⟨scan'.game, ?_, ht.agree⟩
    change ProcessRobotState.scanOf id message twin = .ok scan' at hscan'
    simp only [scanAction, hscan', Lib.ok_bind, pure_eq_ok, ht.itemsOf env hs, ht.calls]

-- ---------------------------------------------------------------------------
-- Detectors are stored for their robots
-- ---------------------------------------------------------------------------

/-- A detector is stored for an object that exists and has the id. -/
def DetectorsNamed (game : Game) : Prop :=
  ∀ (id : Str) d, game.flagDetectorsByRobot[id]? = some d →
    game.robotHeap.Allocated d.robot ∧ (game.robot d.robot).robotId = id

theorem DetectorsNamed.same (h : DetectorsNamed game) (hheap : game'.robotHeap = game.robotHeap)
    (hdetectors : game'.flagDetectorsByRobot = game.flagDetectorsByRobot) :
    DetectorsNamed game' := by
  intro id d hd
  unfold Game.robot
  rw [hheap]
  exact h id d (hdetectors ▸ hd)

theorem DetectorsNamed.stop (h : DetectorsNamed game) : DetectorsNamed game.stop := by
  unfold Game.stop
  split
  · exact h.same rfl rfl
  · exact h

theorem DetectorsNamed.start (h : DetectorsNamed game) (forceStop : Bool) (forced : Option Ptime)
    (localTime : Ptime) : DetectorsNamed (game.start forceStop forced localTime) := by
  cases forceStop with
  | true =>
    have hreset : DetectorsNamed { game with winner := none }.resetScores := h.same rfl rfl
    rw [Game.start_true]
    exact hreset.stop.same rfl rfl
  | false =>
    unfold Game.start
    simp only [Bool.false_eq_true, ↓reduceIte]
    split
    · exact h
    · exact h.same rfl rfl

theorem DetectorsNamed.step (h : DetectorsNamed game) {steps : List Game.ContactStep}
    (hstep : game.step = .ok (steps, game')) : DetectorsNamed game' := by
  refine Game.step_invariant DetectorsNamed (fun g g' _ _ _ hg hc => ?_)
    (fun _ _ hg => hg.same rfl rfl) (fun _ hg => hg.stop) (fun _ _ hg => hg.same rfl rfl) hstep h
  obtain ⟨_, _, _, -, rfl⟩ := Game.captureItem_ok.mp hc
  exact hg.same rfl rfl

theorem DetectorsNamed.modifyRobot (h : DetectorsNamed game) (r : RobotRef) {f : Robot → Robot}
    (hf : ∀ robot, (f robot).robotId = robot.robotId) : DetectorsNamed (game.modifyRobot r f) := by
  intro id d hd
  obtain ⟨hallocated, hid⟩ := h id d hd
  exact ⟨hallocated, (Lib.Heap.get_modify_field hf).trans hid⟩

theorem DetectorsNamed.insertRobot (h : DetectorsNamed game) (name : Str) (team : TeamRef)
    (port commandPort : UInt16) (robotId : Str) :
    DetectorsNamed (game.insertRobot name team port commandPort robotId) := by
  intro id d hd
  rcases Std.ExtTreeMap.getElem?_insertIfNew_eq_some.mp hd with ⟨rfl, -, rfl⟩ | hd
  · refine ⟨Lib.Heap.allocated_fresh _ _, ?_⟩
    simp [Game.robot, Game.insertRobot, FlagDetector.ofRobot]
  · obtain ⟨hallocated, hid⟩ := h id d hd
    refine ⟨hallocated.alloc _, ?_⟩
    rw [Game.insertRobot_robot_of_ne hallocated.ne_fresh, hid]

theorem DetectorsNamed.detector (h : DetectorsNamed game) {d reading : FlagDetector}
    (hd : game.flagDetectorsByRobot[id]? = some d) (hrobot : reading.robot = d.robot) :
    DetectorsNamed { game with
      flagDetectorsByRobot := game.flagDetectorsByRobot.insert id reading } := by
  intro id' d' hd'
  rcases Std.ExtTreeMap.getElem?_insert_eq_some.mp hd' with ⟨rfl, rfl⟩ | ⟨-, hd'⟩
  · rw [hrobot]
    exact h _ d hd
  · exact h id' d' hd'

theorem DetectorsNamed.edit {event : Event} {calls : List ContactCall}
    {steps : List Game.ContactStep} (h : DetectorsNamed game)
    (hedit : Edit event game calls steps game') : DetectorsNamed game' := by
  cases hedit with
  | setTime | setDuration | createItem | setScore | register => exact h.same rfl rfl
  | start forceStop forced localTime => exact h.start forceStop forced localTime
  | stop => exact h.stop
  | contact hcall =>
    rw [Game.handleContactCall_frame hcall]
    exact h.same rfl rfl
  | detector reading hd hrobot => exact h.detector hd hrobot
  | step hstep => exact h.step hstep
  | addTeam name => unfold Game.addTeam; split <;> exact h.same rfl rfl
  | removeTeam name => unfold Game.removeTeam; split <;> exact h.same rfl rfl
  | addRobot hadd =>
    rcases Game.addRobot_ok hadd with ⟨-, rfl⟩ | ⟨id, t, -, -, -, -, rfl⟩
    · exact h
    · exact h.insertRobot _ t _ _ id
  | removeRobot name => unfold Game.removeRobot; split <;> exact h.same rfl rfl
  | addPlayer name => unfold Game.addPlayer; split <;> exact h.same rfl rfl
  | removePlayer name => unfold Game.removePlayer; split <;> exact h.same rfl rfl
  | modifyRobot r hf => exact h.modifyRobot r hf.robotId
  | modifyPlayer p hf => exact h.same rfl rfl
  | link hp hr =>
    exact (h.modifyRobot _ (f := ({ · with player := some _ })) fun _ => rfl).same rfl rfl

theorem DetectorsNamed.edits {event : Event} {calls : List ContactCall}
    {steps : List Game.ContactStep} (h : DetectorsNamed game)
    (hedits : Edits event game calls steps game') : DetectorsNamed game' := by
  induction hedits with
  | refl => exact h
  | tail _ hlast ih => exact ih.edit hlast

theorem Server.Reachable.detectorsNamed {env : Externals} {app : Application}
    (h : Server.Reachable env app) : DetectorsNamed app.game := by
  obtain ⟨ports, gameDuration, ruleset, events, outputs, hrun⟩ := h
  refine Lib.run_invariant (fun app => DetectorsNamed app.game)
    (fun _ _ _ _ _ h hstep => h.edits (Server.step_edits hstep)) (fun id d hd => ?_) hrun
  simp [Server.create, Game.create] at hd

-- ---------------------------------------------------------------------------
-- Two messages
-- ---------------------------------------------------------------------------

def Game.concernedItems (game : Game) (id : Str) (message : ServerRobotState) : Set ItemRef :=
  { item | (∃ rfid ∈ message.rfid, game.items.getItemByRfid rfid.rfid = some item) ∨
    (∃ colour ∈ message.colour, game.items.getItemByColour colour.colour = some item) ∨
    game.PendingWith id item }

theorem ready_concernedItems {message : ServerRobotState} (h : DetectorsNamed game) :
    Ready id message (game.concernedItems id message) game where
  named := ⟨fun rfid hmem _ hitem => .inl ⟨rfid, hmem, hitem⟩,
    fun colour hmem _ hitem => .inr (.inl ⟨colour, hmem, hitem⟩)⟩
  pending c hc := .inr (.inr ⟨c, hc, rfl⟩)
  detector d hd := (h id d hd).2

theorem Server.step_robotState {env : Externals} {app app' : Application} {raw : RawMessage}
    {channel : Channel} {localTime : Instant} {output : Output}
    (htype : raw.type = "ServerRobotState".toList) (hid : raw.routingId ∈ app.game.robotsById) :
    Server.step env app (.message raw channel localTime) = .ok (app', output) ↔
      ∃ game, scanAction env raw.routingId (env.parseServerRobotState raw.payload).2 app.game =
        .ok (game, output) ∧ app' = { app with game } := by
  have hprocess : Server.step env app (.message raw channel localTime) = Server.ofOutcome app
      (ProcessRobotState.execute env raw.routingId (env.parseServerRobotState raw.payload).2
        app.game) := by
    simp [Server.step, ProcessDecider.process, htype]
  rw [hprocess, ProcessRobotState.ofOutcome_ok hid]
  simp only [scanAction, bind_eq_ok, pure_eq_ok, Prod.mk.injEq]
  constructor
  · rintro ⟨scan, hscan, rfl, rfl⟩
    exact ⟨scan.game, ⟨scan, hscan, rfl, rfl⟩, rfl⟩
  · rintro ⟨_, ⟨scan, hscan, rfl, rfl⟩, rfl⟩
    exact ⟨scan, hscan, rfl, rfl⟩

theorem scanAction_robotsById {env : Externals} {message : ServerRobotState} {output : Output}
    (hready : Ready id message items game)
    (h : scanAction env id message game = .ok (game', output)) :
    game'.robotsById = game.robotsById := by
  have hfixed := (scanAction_actsOn env id message items).frame hready h .fixed fun hk => hk
  have hrobotsById := congrArg Game.robotsById hfixed
  exact hrobotsById

theorem run_robotStates {env : Externals} {app app' : Application} {raw₁ raw₂ : RawMessage}
    {channel₁ channel₂ : Channel} {localTime₁ localTime₂ : Instant} {output₁ output₂ : Output}
    (htype₁ : raw₁.type = "ServerRobotState".toList)
    (htype₂ : raw₂.type = "ServerRobotState".toList)
    (hid₁ : raw₁.routingId ∈ app.game.robotsById) (hid₂ : raw₂.routingId ∈ app.game.robotsById)
    (hready : Ready raw₁.routingId (env.parseServerRobotState raw₁.payload).2 items app.game) :
    Server.run env app [.message raw₁ channel₁ localTime₁, .message raw₂ channel₂ localTime₂] =
        .ok (app', [output₁, output₂]) ↔
      ∃ game₁ game₂,
        scanAction env raw₁.routingId (env.parseServerRobotState raw₁.payload).2 app.game =
          .ok (game₁, output₁) ∧
        scanAction env raw₂.routingId (env.parseServerRobotState raw₂.payload).2 game₁ =
          .ok (game₂, output₂) ∧ app' = { app with game := game₂ } := by
  have hid : ∀ {game₁ output}, scanAction env raw₁.routingId
      (env.parseServerRobotState raw₁.payload).2 app.game = .ok (game₁, output) →
      raw₂.routingId ∈ game₁.robotsById := by
    intro game₁ output h
    rw [scanAction_robotsById hready h]
    exact hid₂
  unfold Server.run
  rw [Lib.run_cons]
  simp only [Lib.run_singleton, List.cons.injEq]
  constructor
  · rintro ⟨app₁, _, _, h₁, ⟨_, h₂, rfl⟩, rfl, rfl, -⟩
    obtain ⟨game₁, hscan₁, rfl⟩ := (Server.step_robotState htype₁ hid₁).mp h₁
    obtain ⟨game₂, hscan₂, rfl⟩ := (Server.step_robotState htype₂ (hid hscan₁)).mp h₂
    exact ⟨game₁, game₂, hscan₁, hscan₂, rfl⟩
  · rintro ⟨game₁, game₂, hscan₁, hscan₂, rfl⟩
    refine ⟨{ app with game := game₁ }, output₁, [output₂],
      (Server.step_robotState htype₁ hid₁).mpr ⟨game₁, hscan₁, rfl⟩, ⟨output₂, ?_, rfl⟩, rfl, rfl⟩
    exact (Server.step_robotState htype₂ (hid hscan₁)).mpr ⟨game₂, hscan₂, rfl⟩

/-- In every reachable state the messages of two registered robots that concern
different items leave the same state in either order, with the same messages
to each robot. -/
theorem robot_states_commute (env : Externals) (app : Application)
    (h : Server.Reachable env app) (raw₁ raw₂ : RawMessage) (channel₁ channel₂ : Channel)
    (localTime₁ localTime₂ : Instant) (htype₁ : raw₁.type = "ServerRobotState".toList)
    (htype₂ : raw₂.type = "ServerRobotState".toList)
    (hid₁ : raw₁.routingId ∈ app.game.robotsById) (hid₂ : raw₂.routingId ∈ app.game.robotsById)
    (hne : raw₁.routingId ≠ raw₂.routingId)
    (hitems : Disjoint
      (app.game.concernedItems raw₁.routingId (env.parseServerRobotState raw₁.payload).2)
      (app.game.concernedItems raw₂.routingId (env.parseServerRobotState raw₂.payload).2))
    (app' : Application) (output₁ output₂ : Output) :
    Server.run env app [.message raw₁ channel₁ localTime₁, .message raw₂ channel₂ localTime₂] =
        .ok (app', [output₁, output₂]) ↔
      Server.run env app [.message raw₂ channel₂ localTime₂, .message raw₁ channel₁ localTime₁] =
        .ok (app', [output₂, output₁]) := by
  have hnamed := h.detectorsNamed
  have hready₁ := @ready_concernedItems app.game raw₁.routingId
    (env.parseServerRobotState raw₁.payload).2 hnamed
  have hready₂ := @ready_concernedItems app.game raw₂.routingId
    (env.parseServerRobotState raw₂.payload).2 hnamed
  have hacts₁ := scanAction_actsOn env raw₁.routingId (env.parseServerRobotState raw₁.payload).2
    (app.game.concernedItems raw₁.routingId (env.parseServerRobotState raw₁.payload).2)
  have hacts₂ := scanAction_actsOn env raw₂.routingId (env.parseServerRobotState raw₂.payload).2
    (app.game.concernedItems raw₂.routingId (env.parseServerRobotState raw₂.payload).2)
  have hdisjoint := writesOf_disjoint hne hitems
  have hdisjoint' := writesOf_disjoint hne.symm hitems.symm
  rw [run_robotStates htype₁ htype₂ hid₁ hid₂ hready₁,
    run_robotStates htype₂ htype₁ hid₂ hid₁ hready₂]
  constructor
  · rintro ⟨game₁, game₂, h₁, h₂, rfl⟩
    obtain ⟨game₃, h₃, h₄⟩ :=
      hacts₁.commute cell_injective hacts₂ hdisjoint hdisjoint' hready₁ hready₂ h₁ h₂
    exact ⟨game₃, game₂, h₃, h₄, rfl⟩
  · rintro ⟨game₁, game₂, h₁, h₂, rfl⟩
    obtain ⟨game₃, h₃, h₄⟩ :=
      hacts₂.commute cell_injective hacts₁ hdisjoint' hdisjoint hready₂ hready₁ h₁ h₂
    exact ⟨game₃, game₂, h₃, h₄, rfl⟩

-- ---------------------------------------------------------------------------
-- Two robots on two tags
-- ---------------------------------------------------------------------------

def secondRobot : List Event :=
  [.call (.addRobot "r2".toList "A".toList 0 0 "robot_1".toList)]

def onTag (robotId : String) (code : Char) : RawMessage :=
  { rfidMessage (rfidPayload 0 code) with routingId := robotId.toList }

theorem robot_states_commute_twoTags :
    ∃ app outputs app' output₁ output₂,
      Server.run withRfids (Server.create [] 0 oneTeam) (twoFlags ++ secondRobot) =
        .ok (app, outputs) ∧
      Server.run withRfids app
        [.message (onTag "robot_1" '2') .publish 5, .message (onTag "robot_0" '1') .publish 4] =
          .ok (app', [output₂, output₁]) := by
  refine ⟨_, _, _, _, _, rfl, (robot_states_commute withRfids _
    ⟨[], 0, oneTeam, twoFlags ++ secondRobot, _, rfl⟩
    (onTag "robot_0" '1') (onTag "robot_1" '2') .publish .publish 4 5 rfl rfl
    (Std.ExtTreeMap.mem_iff_contains.mpr rfl) (Std.ExtTreeMap.mem_iff_contains.mpr rfl)
    (by decide) ?_ _ _ _).mp rfl⟩
  refine Set.disjoint_left.mpr ?_
  rintro item (⟨rfid, hrfid, hitem⟩ | ⟨colour, hcolour, -⟩ | ⟨c, hc, -⟩)
  · cases List.mem_singleton.mp hrfid
    cases hitem
    rintro (⟨rfid', hrfid', hitem'⟩ | ⟨colour, hcolour, -⟩ | ⟨c, hc, -⟩)
    · cases List.mem_singleton.mp hrfid'
      cases hitem'
    · cases hcolour
    · cases hc
  · cases hcolour
  · cases hc

end ServerGame
