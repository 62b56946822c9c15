import ServerGame.Detector
import ServerGame.Independent
import ServerGame.ItemTables

/-!
# What a robot's state comes to for its player

One message for each item the readings are about, or a single one without an
item, and the telemetry in the first of them. Starting a contact reads the team
of the robot, which a robot keeps when the team is removed.
-/

namespace ServerGame

open Lib (bind_eq_ok pure_eq_ok)

variable {game game' : Game} {env : Externals} {id : Str}

-- ---------------------------------------------------------------------------
-- What is promised
-- ---------------------------------------------------------------------------

def Game.entered (game : Game) (id : Str) (colours : List Int) : List ItemRef :=
  (game.getFlagDetector id).elim [] fun detector =>
    (FlagDetector.readings game.items.getItemByColour id detector colours).filterMap
      FlagDetector.Reading.newItem

def Game.reportedItems (game : Game) (id : Str) (message : ServerRobotState) : Finset ItemRef :=
  (message.rfid.filterMap (fun rfid => game.items.getItemByRfid rfid.rfid) ++
    game.entered id (message.colour.map Colour.colour)).toFinset

def Game.StartsContact (game : Game) (id : Str) (message : ServerRobotState) : Prop :=
  (∃ rfid ∈ message.rfid, rfid.status = .on ∧
    (game.items.getItemByRfid rfid.rfid).isSome = true) ∨
  game.entered id (message.colour.map Colour.colour) ≠ []

/-- The states sent for some items: each item is encoded in one of them, as the
registry has it, and the telemetry is in the first one alone. -/
structure Relays (message : ServerRobotState) (items : Finset ItemRef) (registry : ItemRegistry)
    (states : List PlayerState) : Prop where
  count : states.length = max 1 items.card
  encoded : ∃ order : List ItemRef, order.Nodup ∧ order.toFinset = items ∧
    order.map (fun item => registry.allItems[item]?.map Item.encode) =
      (states.filterMap PlayerState.item).map some
  telemetry : states.map (fun state => (state.battery, state.ultrasound)) =
    (message.battery, message.ultrasound) :: List.replicate (states.length - 1) (none, none)

/-- The message is handled to its end, and what is sent is published to the
robot and is about the reported items as they are afterwards. -/
def Relayed (id : Str) (message : ServerRobotState) (items : Finset ItemRef)
    (outcome : Outcome) : Prop :=
  outcome.escaped = none ∧ ∃ states,
    outcome.sent = states.map (fun state => publish id (.playerState state)) ∧
      Relays message items outcome.game.items states

-- ---------------------------------------------------------------------------
-- The parts of a scan
-- ---------------------------------------------------------------------------

namespace ProcessRobotState

structure Scanned (game : Game) (scan : Scan) : Prop where
  fixed : scan.game.cell .fixed = game.cell .fixed
  length : scan.game.items.allItems.length = game.items.allItems.length
  nodup : scan.visitedItems.Nodup
  listed : ∀ item ∈ scan.visitedItems, item < game.items.allItems.length

/-- A part of the scan of a message: whether it starts a contact, the items it
adds, and the flag detector before and after it. It faults exactly if it starts
a contact for a robot whose team is gone. -/
structure Part (game : Game) (id : Str) (starts : Prop) (named : List ItemRef)
    (detector detector' : Option FlagDetector) (f : Scan → Except Fault Scan) : Prop where
  runs : (starts → game.HasRobotOnTeam id) → ∀ scan, Scanned game scan →
    scan.game.getFlagDetector id = detector → ∃ scan', f scan = .ok scan' ∧ Scanned game scan' ∧
      scan'.game.getFlagDetector id = detector' ∧
      ∀ item, item ∈ scan'.visitedItems ↔ item ∈ scan.visitedItems ∨ item ∈ named
  faults : starts → ¬game.HasRobotOnTeam id → ∀ scan, Scanned game scan →
    scan.game.getFlagDetector id = detector → ∃ fault, f scan = .error fault

variable {starts starts' : Prop} {named named' : List ItemRef}
  {detector detector₁ detector' : Option FlagDetector} {f g : Scan → Except Fault Scan}

theorem Part.congr (h : Part game id starts named detector detector' f)
    (hstarts : starts' ↔ starts) (hnamed : named' = named)
    (hfg : ∀ scan, Scanned game scan → scan.game.getFlagDetector id = detector →
      g scan = f scan) :
    Part game id starts' named' detector detector' g := by
  subst hnamed
  refine ⟨fun hon scan hs hd => ?_, fun hstart hoff scan hs hd => ?_⟩
  · rw [hfg scan hs hd]
    exact h.runs (fun hstart => hon (hstarts.mpr hstart)) scan hs hd
  · rw [hfg scan hs hd]
    exact h.faults (hstarts.mp hstart) hoff scan hs hd

theorem Part.skip : Part game id False [] detector detector fun scan => .ok scan :=
  ⟨fun _ scan hs hd => ⟨scan, rfl, hs, hd, by simp⟩, fun h => h.elim⟩

theorem Part.bind (hf : Part game id starts named detector detector₁ f)
    (hg : Part game id starts' named' detector₁ detector' g) :
    Part game id (starts ∨ starts') (named ++ named') detector detector'
      fun scan => f scan >>= g := by
  constructor
  · intro hon scan hs hd
    obtain ⟨scan₁, h₁, hs₁, hd₁, hvisited₁⟩ := hf.runs (fun h => hon (.inl h)) scan hs hd
    obtain ⟨scan₂, h₂, hs₂, hd₂, hvisited₂⟩ := hg.runs (fun h => hon (.inr h)) scan₁ hs₁ hd₁
    refine ⟨scan₂, by rw [h₁, Lib.ok_bind, h₂], hs₂, hd₂, fun item => ?_⟩
    rw [hvisited₂, hvisited₁, List.mem_append, or_assoc]
  · intro hstart hoff scan hs hd
    by_cases hfirst : starts
    · obtain ⟨fault, h⟩ := hf.faults hfirst hoff scan hs hd
      exact ⟨fault, by rw [h]; rfl⟩
    · obtain ⟨scan₁, h₁, hs₁, hd₁, -⟩ := hf.runs (fun h => absurd h hfirst) scan hs hd
      obtain ⟨fault, h⟩ := hg.faults (hstart.resolve_left hfirst) hoff scan₁ hs₁ hd₁
      exact ⟨fault, by rw [h₁, Lib.ok_bind, h]⟩

theorem Part.visit {item : ItemRef} (hitem : item < game.items.allItems.length) :
    Part game id False [item] detector detector fun scan => .ok (scan.visit item) := by
  refine ⟨fun _ scan hs hd => ?_, fun h => h.elim⟩
  have hmem : ∀ i, i ∈ (scan.visit item).visitedItems ↔ i ∈ scan.visitedItems ∨ i ∈ [item] := by
    intro i
    unfold Scan.visit
    split
    · next hold =>
      rw [List.mem_singleton]
      exact ⟨.inl, fun h => h.elim (fun h => h) fun h => h ▸ hold⟩
    · exact List.mem_append
  have hnodup : (scan.visit item).visitedItems.Nodup := by
    unfold Scan.visit
    split
    · exact hs.nodup
    · next hnew => exact hs.nodup.append (List.nodup_singleton item) (by simpa using hnew)
  have hgame : (scan.visit item).game = scan.game := visit_game item
  refine ⟨scan.visit item, rfl, ⟨hgame ▸ hs.fixed, hgame ▸ hs.length, hnodup, fun i hi => ?_⟩,
    hgame ▸ hd, hmem⟩
  rcases (hmem i).mp hi with hi | hi
  · exact hs.listed i hi
  · exact List.mem_singleton.mp hi ▸ hitem

theorem Part.call {call : ContactCall}
    (hcall : call.Within id { i | i < game.items.allItems.length }) :
    Part game id (∃ item, call = .isInContactWith id item) [] detector detector (·.call call) := by
  have hruns : ∀ {scan : Scan} {game' : Game}, Scanned game scan →
      scan.game.getFlagDetector id = detector → scan.game.handleContactCall call = .ok game' →
      ∃ scan', scan.call call = .ok scan' ∧ Scanned game scan' ∧
        scan'.game.getFlagDetector id = detector ∧
        ∀ item, item ∈ scan'.visitedItems ↔ item ∈ scan.visitedItems ∨ item ∈ [] := by
    intro scan game' hs hd hok
    refine ⟨{ scan with game := game', calls := scan.calls ++ [call] }, ?_,
      ⟨(call_fixed hok).trans hs.fixed, (SameTables.contact hok).length.trans hs.length, hs.nodup,
        hs.listed⟩, ?_, by simp⟩
    · simp only [Scan.call, hok, Lib.ok_bind]
      rfl
    · rw [Game.handleContactCall_frame hok]
      exact hd
  cases call with
  | isInContactWith id' item =>
    obtain ⟨rfl, hitem⟩ := hcall
    have hteam : ∀ {scan : Scan}, Scanned game scan →
        (scan.game.HasRobotOnTeam id' ↔ game.HasRobotOnTeam id') := by
      intro scan hs
      have hcell := congrArg (fun g : Game => g.HasRobotOnTeam id') hs.fixed
      exact iff_of_eq hcell
    refine ⟨fun hon scan hs hd => ?_, fun _ hoff scan hs hd => ?_⟩
    · obtain ⟨r, hr, halive⟩ := (hteam hs).mpr (hon ⟨item, rfl⟩)
      exact hruns hs hd (Game.robotIsInContactWith_ok.mpr
        ⟨r, hr, halive, by rw [hs.length]; exact hitem, rfl⟩)
    · cases hok : scan.call (.isInContactWith id' item) with
      | error fault => exact ⟨fault, rfl⟩
      | ok scan' =>
        simp only [Scan.call, bind_eq_ok] at hok
        obtain ⟨game', hcontact, -⟩ := hok
        obtain ⟨r, hr, halive, -⟩ := Game.robotIsInContactWith_ok.mp hcontact
        exact absurd ((hteam hs).mp ⟨r, hr, halive⟩) hoff
  | dropsContactWith id' item =>
    refine ⟨fun _ scan hs hd => hruns hs hd rfl, ?_⟩
    rintro ⟨_, h⟩
    cases h

theorem Part.note {d d' : FlagDetector} :
    Part game id False [] (some d) (some d') fun scan => .ok (noteDetector id d' scan) := by
  refine ⟨fun _ scan hs hd => ⟨noteDetector id d' scan, rfl,
    ⟨hs.fixed, hs.length, hs.nodup, hs.listed⟩, ?_, by simp [noteDetector]⟩, fun h => h.elim⟩
  exact Std.ExtTreeMap.getElem?_insert_self

theorem Part.foldlM {α : Type} {f : Scan → α → Except Fault Scan} {startsAt : α → Prop}
    {namedAt : α → List ItemRef} {elements : List α}
    (h : ∀ a ∈ elements, Part game id (startsAt a) (namedAt a) detector detector (f · a)) :
    Part game id (∃ a ∈ elements, startsAt a) (elements.flatMap namedAt) detector detector
      (elements.foldlM f) := by
  induction elements with
  | nil => exact Part.skip.congr (by simp) rfl fun _ _ _ => rfl
  | cons a elements ih =>
    have hfirst := h a List.mem_cons_self
    have hrest := ih fun a ha => h a (List.mem_cons_of_mem _ ha)
    exact (hfirst.bind hrest).congr (by simp) rfl fun _ _ _ => List.foldlM_cons

-- ---------------------------------------------------------------------------
-- RFIDs and colours
-- ---------------------------------------------------------------------------

def startsAtRfid (game : Game) (rfid : Rfid) : Prop :=
  rfid.status = .on ∧ (game.items.getItemByRfid rfid.rfid).isSome = true

theorem Part.lookForRfid (hsound : game.items.Sound) (rfid : Rfid) :
    Part game id (startsAtRfid game rfid) (game.items.getItemByRfid rfid.rfid).toList
      detector detector (lookForRfid id · rfid) := by
  have hcodes : ∀ {scan : Scan}, Scanned game scan →
      scan.game.items.getItemByRfid rfid.rfid = game.items.getItemByRfid rfid.rfid := by
    intro scan hs
    have hcell := congrArg (fun g : Game => g.items.getItemByRfid rfid.rfid) hs.fixed
    exact hcell
  cases hitem : game.items.getItemByRfid rfid.rfid with
  | none =>
    refine Part.skip.congr (by simp [startsAtRfid, hitem]) rfl fun scan hs _ => ?_
    simp only [ProcessRobotState.lookForRfid, hcodes hs, hitem]
  | some item =>
    have hlength := hsound.byRfid rfid.rfid item hitem
    cases hstatus : rfid.status with
    | on =>
      have hcall := @Part.call game id detector (.isInContactWith id item) ⟨rfl, hlength⟩
      refine ((Part.visit hlength).bind hcall).congr (by simp [startsAtRfid, hitem, hstatus]) rfl
        fun scan hs _ => ?_
      simp only [ProcessRobotState.lookForRfid, hcodes hs, hitem, hstatus]
      rfl
    | off =>
      have hcall := @Part.call game id detector (.dropsContactWith id item) rfl
      refine ((Part.visit hlength).bind hcall).congr (by simp [startsAtRfid, hstatus]) rfl
        fun scan hs _ => ?_
      simp only [ProcessRobotState.lookForRfid, hcodes hs, hitem, hstatus]
      rfl

theorem setColour_starts_iff (find : Int → Option ItemRef) (robotId : Str) (d : FlagDetector)
    (colour : Int) :
    (∃ call ∈ (FlagDetector.setColour find robotId d colour).calls,
        ∃ item, call = .isInContactWith robotId item) ↔
      (FlagDetector.setColour find robotId d colour).newItem.toList ≠ [] := by
  unfold FlagDetector.setColour FlagDetector.backToFrontier
  cases d.state <;> dsimp only <;> repeat' split
  all_goals simp

theorem Part.lookForColour {d : FlagDetector} (hsound : game.items.Sound)
    (hd : (game.robot d.robot).robotId = id) (colour : Colour) :
    Part game id ((d.setColour game.items.getItemByColour id colour.colour).newItem.toList ≠ [])
      (d.setColour game.items.getItemByColour id colour.colour).newItem.toList (some d)
      (some (d.setColour game.items.getItemByColour id colour.colour).detector)
      (lookForColour id · colour) := by
  obtain ⟨hcalls, hnew⟩ := @setColour_within id { i | i < game.items.allItems.length }
    game.items.getItemByColour d colour.colour
    fun item hitem => hsound.byColour colour.colour item hitem
  have hstarts := setColour_starts_iff game.items.getItemByColour id d colour.colour
  have hread : ∀ scan : Scan, Scanned game scan → scan.game.getFlagDetector id = some d → _ :=
    fun scan hs hdetector => @lookForColour_reading _ _ scan d colour hs.fixed hdetector hd
  generalize d.setColour game.items.getItemByColour id colour.colour = reading at *
  have hcall : Part game id _ (reading.calls.flatMap fun _ => []) (some reading.detector)
      (some reading.detector) (reading.calls.foldlM Scan.call) :=
    Part.foldlM fun call hmem => Part.call (hcalls call hmem)
  have hvisit : Part game id False reading.newItem.toList (some reading.detector)
      (some reading.detector) fun scan => .ok (reading.newItem.elim scan scan.visit) := by
    cases hitem : reading.newItem with
    | none => exact Part.skip
    | some item => exact Part.visit (hnew item hitem)
  refine ((Part.note.bind hcall).bind hvisit).congr ?_ (by simp) fun scan hs hdetector => ?_
  · rw [false_or, or_false, ← hstarts]
  · rw [hread scan hs hdetector]
    rfl

theorem Part.colours {d : FlagDetector} (hsound : game.items.Sound)
    (hd : (game.robot d.robot).robotId = id) (colours : List Colour) :
    ∃ d', Part game id
      ((FlagDetector.readings game.items.getItemByColour id d
        (colours.map Colour.colour)).filterMap FlagDetector.Reading.newItem ≠ [])
      ((FlagDetector.readings game.items.getItemByColour id d
        (colours.map Colour.colour)).filterMap FlagDetector.Reading.newItem)
      (some d) (some d') (colours.foldlM (ProcessRobotState.lookForColour id)) := by
  induction colours generalizing d with
  | nil => exact ⟨d, Part.skip.congr (by simp [FlagDetector.readings]) rfl fun _ _ _ => rfl⟩
  | cons colour colours ih =>
    have hfirst := Part.lookForColour hsound hd colour
    obtain ⟨d', hrest⟩ := ih (d := (d.setColour game.items.getItemByColour id
      colour.colour).detector) (by rw [FlagDetector.setColour_robot]; exact hd)
    have hnamed : (FlagDetector.readings game.items.getItemByColour id d
        ((colour :: colours).map Colour.colour)).filterMap FlagDetector.Reading.newItem =
        (d.setColour game.items.getItemByColour id colour.colour).newItem.toList ++
          (FlagDetector.readings game.items.getItemByColour id
            (d.setColour game.items.getItemByColour id colour.colour).detector
            (colours.map Colour.colour)).filterMap FlagDetector.Reading.newItem := by
      simp only [List.map_cons, FlagDetector.readings, List.filterMap_cons]
      cases (d.setColour game.items.getItemByColour id colour.colour).newItem <;> rfl
    rw [hnamed]
    refine ⟨d', (hfirst.bind hrest).congr ?_ rfl fun _ _ _ => List.foldlM_cons⟩
    rw [ne_eq, List.append_eq_nil_iff, not_and_or]

-- ---------------------------------------------------------------------------
-- The whole message
-- ---------------------------------------------------------------------------

theorem Part.scan (hsound : game.items.Sound) (hnamed : DetectorsNamed game) (id : Str)
    (message : ServerRobotState) :
    ∃ detector', Part game id (game.StartsContact id message)
      (message.rfid.filterMap (fun rfid => game.items.getItemByRfid rfid.rfid) ++
        game.entered id (message.colour.map Colour.colour))
      (game.getFlagDetector id) detector' (fun scan => do
        let scan ← message.rfid.foldlM (ProcessRobotState.lookForRfid id) scan
        message.colour.foldlM (ProcessRobotState.lookForColour id) scan) := by
  have hrfids : Part game id _ _ (game.getFlagDetector id) (game.getFlagDetector id)
      (message.rfid.foldlM (ProcessRobotState.lookForRfid id)) :=
    Part.foldlM fun rfid _ => Part.lookForRfid hsound rfid
  have hrfidItems : message.rfid.filterMap (fun rfid => game.items.getItemByRfid rfid.rfid) =
      message.rfid.flatMap fun rfid => (game.items.getItemByRfid rfid.rfid).toList :=
    List.filterMap_eq_flatMap_toList ..
  cases hdetector : game.getFlagDetector id with
  | none =>
    rw [hdetector] at hrfids
    have hcolours : Part game id (∃ colour ∈ message.colour, False)
        (message.colour.flatMap fun _ => []) none none
        (message.colour.foldlM (ProcessRobotState.lookForColour id)) := by
      refine Part.foldlM fun colour _ => Part.skip.congr Iff.rfl rfl fun scan _ hnone => ?_
      simp only [ProcessRobotState.lookForColour, hnone]
    refine ⟨none, (hrfids.bind hcolours).congr ?_ ?_ fun _ _ _ => rfl⟩
    · simp [Game.StartsContact, Game.entered, hdetector, startsAtRfid]
    · simp [Game.entered, hdetector, hrfidItems]
  | some d =>
    rw [hdetector] at hrfids
    obtain ⟨d', hcolours⟩ := Part.colours hsound (hnamed id d hdetector).2 message.colour
    refine ⟨some d', (hrfids.bind hcolours).congr ?_ ?_ fun _ _ _ => rfl⟩
    · simp [Game.StartsContact, Game.entered, hdetector, startsAtRfid]
    · simp [Game.entered, hdetector, hrfidItems]

theorem scanned_start (game : Game) : Scanned game { game } := ⟨rfl, rfl, List.nodup_nil, by simp⟩

theorem map_some_filterMap {α β : Type} {g : α → Option β} {elements : List α}
    (h : ∀ a ∈ elements, (g a).isSome = true) :
    elements.map g = (elements.filterMap g).map some := by
  induction elements with
  | nil => rfl
  | cons a elements ih =>
    obtain ⟨b, hb⟩ := Option.isSome_iff_exists.mp (h a List.mem_cons_self)
    rw [List.map_cons, List.filterMap_cons_some hb, List.map_cons, hb,
      ih fun a ha => h a (List.mem_cons_of_mem _ ha)]

theorem playerStates_item (message : ServerRobotState) (items : List ItemMessage) :
    (playerStates message items).filterMap PlayerState.item = items := by
  cases items with
  | nil => rfl
  | cons first rest =>
    have hrest : (rest.map fun item : ItemMessage =>
        ({ item := some item } : PlayerState)).filterMap PlayerState.item = rest := by
      simp [List.filterMap_map]
    simp only [playerStates, List.filterMap_cons, hrest]

theorem playerStates_length (message : ServerRobotState) (items : List ItemMessage) :
    (playerStates message items).length = max 1 items.length := by
  cases items <;> simp [playerStates]

theorem playerStates_telemetry (message : ServerRobotState) (items : List ItemMessage) :
    (playerStates message items).map (fun state => (state.battery, state.ultrasound)) =
      (message.battery, message.ultrasound) ::
        List.replicate ((playerStates message items).length - 1) (none, none) := by
  cases items with
  | nil => rfl
  | cons first rest => simp [playerStates, Function.comp_def]

theorem Scanned.relays {scan : Scan} (h : Scanned game scan) (env : Externals)
    (message : ServerRobotState) :
    Relays message scan.visitedItems.toFinset scan.game.items
      (playerStates message (itemsOf env scan)) := by
  have hperm : (inAddressOrder env scan.visitedItems).Perm scan.visitedItems :=
    List.mergeSort_perm ..
  have hencoded := @map_some_filterMap _ _
    (fun item => scan.game.items.allItems[item]?.map Item.encode)
    (inAddressOrder env scan.visitedItems) fun item hitem => by
      have hlisted := h.listed item (hperm.mem_iff.mp hitem)
      simp [List.getElem?_eq_getElem (h.length ▸ hlisted)]
  have hlength : (itemsOf env scan).length = scan.visitedItems.length := by
    rw [← hperm.length_eq, itemsOf, ← List.length_map (f := some), ← hencoded, List.length_map]
  refine ⟨?_, ⟨_, hperm.nodup_iff.mpr h.nodup, List.toFinset_eq_of_perm _ _ hperm, ?_⟩,
    playerStates_telemetry message _⟩
  · rw [playerStates_length, hlength, List.toFinset_card_of_nodup h.nodup]
  · rw [playerStates_item]
    exact hencoded

section
variable {message : ServerRobotState} (hid : id ∈ game.robotsById)
include hid

theorem execute_of_ok {scan : Scan} (h : scanOf id message game = .ok scan) :
    execute env id message game =
      { game := scan.game
        sent := (playerStates message (itemsOf env scan)).map fun state =>
          publish id (.playerState state)
        calls := scan.calls } := by
  have hregistered : game.getHasRobotById id = true := Std.ExtTreeMap.mem_iff_contains.mp hid
  unfold scanOf at h
  unfold execute
  rw [if_neg (by simp [hregistered])]
  simp only [h]
  rfl

theorem execute_of_error {fault : Fault} (h : scanOf id message game = .error fault) :
    execute env id message game = { game, escaped := some fault } := by
  have hregistered : game.getHasRobotById id = true := Std.ExtTreeMap.mem_iff_contains.mp hid
  unfold scanOf at h
  unfold execute
  rw [if_neg (by simp [hregistered])]
  simp only [h]

end

/-- In every state the server reaches the state of a registered robot is
relayed item by item exactly when the team of the robot is still there or no
contact starts. -/
theorem execute_relayed_iff (env : Externals) (app : Application)
    (h : Server.Reachable env app) (id : Str) (hid : id ∈ app.game.robotsById)
    (message : ServerRobotState) :
    Relayed id message (app.game.reportedItems id message) (execute env id message app.game) ↔
      (app.game.StartsContact id message → app.game.HasRobotOnTeam id) := by
  obtain ⟨detector', hscan⟩ := Part.scan h.itemsSound h.detectorsNamed id message
  by_cases hon : app.game.StartsContact id message → app.game.HasRobotOnTeam id
  · obtain ⟨scan, hok, hs, -, hvisited⟩ := hscan.runs hon { game := app.game } (scanned_start _) rfl
    have hitems : scan.visitedItems.toFinset = app.game.reportedItems id message := by
      ext item
      rw [List.mem_toFinset, hvisited, Game.reportedItems, List.mem_toFinset]
      simp
    rw [execute_of_ok hid hok]
    exact iff_of_true ⟨rfl, _, rfl, hitems ▸ hs.relays env message⟩ hon
  · obtain ⟨hstarts, hoff⟩ := Classical.not_imp.mp hon
    obtain ⟨fault, herror⟩ := hscan.faults hstarts hoff { game := app.game } (scanned_start _) rfl
    rw [execute_of_error hid herror]
    refine iff_of_false (fun hrelayed => ?_) hon
    cases hrelayed.1

def withRedFlag : List Event :=
  oneRobot ++ [.call (.createItem "flag".toList "red".toList ∅ 2)]

def ontoRedFlag : ServerRobotState := { colour := [⟨1, 0⟩, ⟨2, 0⟩], battery := some [] }

theorem execute_relayed_iff_redFlag :
    ∃ app outputs, Server.run .plain (Server.create [] 0 oneTeam) withRedFlag =
        .ok (app, outputs) ∧
      Relayed "robot_0".toList ontoRedFlag
        (app.game.reportedItems "robot_0".toList ontoRedFlag)
        (execute .plain "robot_0".toList ontoRedFlag app.game) :=
  ⟨_, _, rfl, (execute_relayed_iff .plain _ ⟨[], 0, oneTeam, withRedFlag, _, rfl⟩
    "robot_0".toList (Std.ExtTreeMap.mem_iff_contains.mpr rfl) ontoRedFlag).mpr
      fun _ => ⟨⟨0⟩, rfl, rfl⟩⟩

/-- The same with the team removed: the contact reads a team that is gone and
nothing is sent. -/
theorem execute_not_relayed :
    ∃ app outputs, Server.run .plain (Server.create [] 0 oneTeam)
        (withRedFlag ++ [.call (.removeTeam "A".toList)]) = .ok (app, outputs) ∧
      "robot_0".toList ∈ app.game.robotsById ∧
      (execute .plain "robot_0".toList ontoRedFlag app.game).sent = [] ∧
      ¬Relayed "robot_0".toList ontoRedFlag
        (app.game.reportedItems "robot_0".toList ontoRedFlag)
        (execute .plain "robot_0".toList ontoRedFlag app.game) := by
  refine ⟨_, _, rfl, Std.ExtTreeMap.mem_iff_contains.mpr rfl, rfl, fun h => ?_⟩
  cases h.1

end ProcessRobotState

end ServerGame
