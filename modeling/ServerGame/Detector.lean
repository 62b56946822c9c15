import ServerGame.Game.FlagDetector

/-!
# What a flag detector tells the contact handler

The five states and the remembered item of a detector come down to one
question about the colours read so far: which registered item came first after
the last frontier? The calls to the handler keep its answer up to date.
-/

namespace ServerGame.FlagDetector

-- ---------------------------------------------------------------------------
-- The readings of a sequence of colours
-- ---------------------------------------------------------------------------

section
variable (find : Int → Option ItemRef) (robotId : Str)

def readings : FlagDetector → List Int → List Reading
  | _, [] => []
  | detector, colour :: colours =>
    let reading := setColour find robotId detector colour
    reading :: readings reading.detector colours

def after (detector : FlagDetector) (colours : List Int) : FlagDetector :=
  colours.foldl (fun detector colour => (setColour find robotId detector colour).detector) detector

theorem readings_append (detector : FlagDetector) (colours colours' : List Int) :
    readings find robotId detector (colours ++ colours') =
      readings find robotId detector colours ++
        readings find robotId (after find robotId detector colours) colours' := by
  induction colours generalizing detector with
  | nil => rfl
  | cons colour colours ih => simp only [List.cons_append, readings, ih, after, List.foldl_cons]

end

-- ---------------------------------------------------------------------------
-- The specification
-- ---------------------------------------------------------------------------

def sinceFrontier (colours : List Int) : List Int :=
  (colours.reverse.takeWhile (· ≠ kFrontierColourCode)).reverse

def openItem (find : Int → Option ItemRef) (colours : List Int) : Option ItemRef :=
  if kFrontierColourCode ∈ colours then (sinceFrontier colours).findSome? find else none

/-- Every contact is dropped before the next one, with the item it was made
with; the last one may still be open. -/
def Alternating (robotId : Str) (calls : List ContactCall) (isOpen : Option ItemRef) : Prop :=
  ∃ dropped : List ItemRef, calls =
    dropped.flatMap (fun item =>
      [.isInContactWith robotId item, .dropsContactWith robotId item]) ++
    isOpen.toList.map (.isInContactWith robotId)

variable {find : Int → Option ItemRef} {robotId : Str} {colours : List Int}

theorem sinceFrontier_frontier :
    sinceFrontier (colours ++ [kFrontierColourCode]) = [] := by
  simp [sinceFrontier]

theorem sinceFrontier_concat {colour : Int} (h : colour ≠ kFrontierColourCode) :
    sinceFrontier (colours ++ [colour]) = sinceFrontier colours ++ [colour] := by
  simp [sinceFrontier, h]

theorem openItem_frontier : openItem find (colours ++ [kFrontierColourCode]) = none := by
  simp [openItem, sinceFrontier_frontier]

theorem openItem_concat {colour : Int} (h : colour ≠ kFrontierColourCode) :
    openItem find (colours ++ [colour]) =
      (openItem find colours).or (if kFrontierColourCode ∈ colours then find colour else none) := by
  simp only [openItem, List.mem_append, List.mem_singleton, h.symm, or_false,
    sinceFrontier_concat h, List.findSome?_append]
  split
  · simp [List.findSome?]
    cases find colour <;> rfl
  · rfl

theorem Alternating.nil : Alternating robotId [] none := ⟨[], rfl⟩

theorem Alternating.contact {calls : List ContactCall} (h : Alternating robotId calls none)
    (item : ItemRef) :
    Alternating robotId (calls ++ [.isInContactWith robotId item]) (some item) := by
  obtain ⟨dropped, rfl⟩ := h
  exact ⟨dropped, by simp⟩

theorem Alternating.drop {calls : List ContactCall} {item : ItemRef}
    (h : Alternating robotId calls (some item)) :
    Alternating robotId (calls ++ [.dropsContactWith robotId item]) none := by
  obtain ⟨dropped, rfl⟩ := h
  exact ⟨dropped ++ [item], by simp⟩

-- ---------------------------------------------------------------------------
-- The detector keeps it
-- ---------------------------------------------------------------------------

/-- How the state of a detector answers the question for the colours it read. -/
structure Tracks (find : Int → Option ItemRef) (detector : FlagDetector) (colours : List Int) :
    Prop where
  outside : detector.state = .outside ↔ kFrontierColourCode ∉ colours
  lastItem : detector.lastItem = openItem find colours
  inItem : detector.lastItem.isSome ↔
    detector.state = .inside ∨ detector.state = .transitionFromInside
  colourCode : detector.lastItem.isSome → detector.colourCode ≠ kFrontierColourCode

theorem Tracks.ofRobot (robot : RobotRef) : Tracks find (ofRobot robot) [] where
  outside := by simp [FlagDetector.ofRobot]
  lastItem := by simp [FlagDetector.ofRobot, openItem]
  inItem := by simp [FlagDetector.ofRobot]
  colourCode := by simp [FlagDetector.ofRobot]

inductive Effect (robotId : Str) (reading : Reading) : Option ItemRef → Option ItemRef → Prop
  | quiet (isOpen) : reading.calls = [] → reading.newItem = none →
      Effect robotId reading isOpen isOpen
  | contact (item) : reading.calls = [.isInContactWith robotId item] →
      reading.newItem = some item → Effect robotId reading none (some item)
  | drop (item) : reading.calls = [.dropsContactWith robotId item] → reading.newItem = none →
      Effect robotId reading (some item) none

structure Follows (find : Int → Option ItemRef) (robotId : Str) (reading : Reading)
    (colours : List Int) (colour : Int) : Prop where
  tracks : Tracks find reading.detector (colours ++ [colour])
  effect : Effect robotId reading (openItem find colours) (openItem find (colours ++ [colour]))
  sameItem : reading.differentItem = false

variable {detector : FlagDetector}

theorem with_state_self {state : States} (h : detector.state = state) :
    { detector with state } = detector := by
  subst h; rfl

theorem follows_outside (hstate : detector.state = .outside) (h : Tracks find detector colours)
    (colour : Int) :
    Follows find robotId (setColour find robotId detector colour) colours colour := by
  have hno : kFrontierColourCode ∉ colours := h.outside.mp hstate
  have hnone : detector.lastItem = none := by
    have := h.inItem
    rw [hstate] at this
    simpa using this
  have hopen : openItem find colours = none := h.lastItem.symm.trans hnone
  simp only [setColour, hstate]
  split
  · next hc =>
    subst hc
    refine ⟨⟨by simp, ?_, by simp [hnone], by simp [hnone]⟩, ?_, rfl⟩
    · rw [openItem_frontier]; exact hnone
    · rw [openItem_frontier, hopen]; exact .quiet _ rfl rfl
  · next hc =>
    have hopen' : openItem find (colours ++ [colour]) = none := by
      rw [openItem_concat (Ne.symm hc), hopen, if_neg hno, Option.none_or]
    refine ⟨⟨by simp [hstate, hno, hc], ?_, by simp [hnone, hstate], by simp [hnone]⟩, ?_, rfl⟩
    · rw [hopen']; exact hnone
    · rw [hopen, hopen']; exact .quiet _ rfl rfl

/-- In both states between a frontier and an item, the first registered colour
opens a contact. -/
theorem follows_search (hfrontier : find kFrontierColourCode = none)
    (hstate : detector.state = .frontier ∨ detector.state = .unknownFromFrontier)
    (h : Tracks find detector colours) (colour : Int) :
    Follows find robotId (setColour find robotId detector colour) colours colour := by
  have hseen : kFrontierColourCode ∈ colours := by
    by_contra hno
    rw [h.outside.mpr hno] at hstate
    simp at hstate
  have hnone : detector.lastItem = none := by
    have := h.inItem
    rcases hstate with hstate | hstate <;> rw [hstate] at this <;> simpa using this
  have hopen : openItem find colours = none := h.lastItem.symm.trans hnone
  cases hfind : find colour with
  | some item =>
    have hne : colour ≠ kFrontierColourCode := by
      rintro rfl
      rw [hfrontier] at hfind
      cases hfind
    have hopen' : openItem find (colours ++ [colour]) = some item := by
      rw [openItem_concat hne, hopen, if_pos hseen, Option.none_or, hfind]
    have hreading : setColour find robotId detector colour =
        { detector := { detector with state := .inside, lastItem := some item,
                                      colourCode := colour }
          newItem := some item
          calls := [.isInContactWith robotId item] } := by
      rcases hstate with hstate | hstate <;> simp [setColour, hstate, hfind, hnone]
    rw [hreading]
    refine ⟨⟨by simp [hseen], hopen'.symm, by simp, fun _ => hne⟩, ?_, rfl⟩
    rw [hopen, hopen']
    exact .contact item rfl rfl
  | none =>
    have hopen' : openItem find (colours ++ [colour]) = none := by
      by_cases hc : colour = kFrontierColourCode
      · rw [hc, openItem_frontier]
      · rw [openItem_concat hc, hopen, if_pos hseen, Option.none_or, hfind]
    have hreading : setColour find robotId detector colour =
        { detector := { detector with state := .unknownFromFrontier } } := by
      rcases hstate with hstate | hstate
      · simp [setColour, hstate, hfind]
      · rw [with_state_self hstate]
        simp [setColour, hstate, hfind]
    rw [hreading]
    refine ⟨⟨by simp [hseen], ?_, by simp [hnone], by simp [hnone]⟩, ?_, rfl⟩
    · rw [hopen']; exact hnone
    · rw [hopen, hopen']; exact .quiet _ rfl rfl

theorem follows_inItem
    (hstate : detector.state = .inside ∨ detector.state = .transitionFromInside)
    (h : Tracks find detector colours) (colour : Int) :
    Follows find robotId (setColour find robotId detector colour) colours colour := by
  obtain ⟨item, hitem⟩ := Option.isSome_iff_exists.mp (h.inItem.mpr hstate)
  have hseen : kFrontierColourCode ∈ colours := by
    by_contra hno
    rw [h.outside.mpr hno] at hstate
    simp at hstate
  have hcode : detector.colourCode ≠ kFrontierColourCode := h.colourCode (by simp [hitem])
  have hopen : openItem find colours = some item := h.lastItem.symm.trans hitem
  by_cases hc : colour = kFrontierColourCode
  · subst hc
    have hreading : setColour find robotId detector kFrontierColourCode =
        detector.backToFrontier robotId := by
      rcases hstate with hstate | hstate
      · simp [setColour, hstate]
      · simp [setColour, hstate, hcode.symm]
    rw [hreading]
    refine ⟨⟨by simp [backToFrontier], ?_, by simp [backToFrontier], by simp [backToFrontier]⟩,
      ?_, rfl⟩
    · rw [openItem_frontier]; rfl
    · rw [hopen, openItem_frontier]
      exact .drop item (by simp [backToFrontier, hitem]) rfl
  · have hopen' : openItem find (colours ++ [colour]) = some item := by
      rw [openItem_concat hc, hopen, Option.some_or]
    -- only the state can change
    have hreading : ∃ state, (state = .inside ∨ state = .transitionFromInside) ∧
        setColour find robotId detector colour = { detector := { detector with state } } := by
      rcases hstate with hstate | hstate
      · by_cases he : colour = detector.colourCode
        · exact ⟨.inside, .inl rfl, by
            rw [with_state_self hstate]
            simp [setColour, hstate, he, hcode.symm]⟩
        · exact ⟨.transitionFromInside, .inr rfl, by simp [setColour, hstate, Ne.symm hc, he]⟩
      · by_cases he : colour = detector.colourCode
        · exact ⟨.inside, .inl rfl, by simp [setColour, hstate, he, hitem]⟩
        · exact ⟨.transitionFromInside, .inr rfl, by
            rw [with_state_self hstate]
            simp [setColour, hstate, Ne.symm hc, he]⟩
    obtain ⟨state, hstate', hreading⟩ := hreading
    rw [hreading]
    refine ⟨⟨?_, ?_, by simp [hitem, hstate'], fun _ => hcode⟩, ?_, rfl⟩
    · rcases hstate' with rfl | rfl <;> simp [hseen]
    · rw [hopen']; exact hitem
    · rw [hopen, hopen']; exact .quiet _ rfl rfl

theorem setColour_follows (robotId : Str) (hfrontier : find kFrontierColourCode = none)
    (h : Tracks find detector colours) (colour : Int) :
    Follows find robotId (setColour find robotId detector colour) colours colour := by
  cases hstate : detector.state with
  | outside => exact follows_outside hstate h colour
  | frontier => exact follows_search hfrontier (.inl hstate) h colour
  | unknownFromFrontier => exact follows_search hfrontier (.inr hstate) h colour
  | inside => exact follows_inItem (.inl hstate) h colour
  | transitionFromInside => exact follows_inItem (.inr hstate) h colour

-- ---------------------------------------------------------------------------
-- Whole sequences
-- ---------------------------------------------------------------------------

/-- What the specification says of one reading: an item is returned when and
only when a contact with it is opened, and it is never "a different item". -/
def Reading.Sound (robotId : Str) (reading : Reading) : Prop :=
  (∀ item, reading.newItem = some item ↔ .isInContactWith robotId item ∈ reading.calls) ∧
    reading.differentItem = false

theorem Effect.newItem_iff {reading : Reading} {isOpen isOpen' : Option ItemRef}
    (h : Effect robotId reading isOpen isOpen') (item : ItemRef) :
    reading.newItem = some item ↔ .isInContactWith robotId item ∈ reading.calls := by
  cases h with
  | quiet _ hcalls hnew => simp [hcalls, hnew]
  | contact item' hcalls hnew => simp [hcalls, hnew, eq_comm]
  | drop item' hcalls hnew => simp [hcalls, hnew]

theorem Follows.sound {reading : Reading} {colour : Int}
    (h : Follows find robotId reading colours colour) : reading.Sound robotId :=
  ⟨h.effect.newItem_iff, h.sameItem⟩

theorem Effect.alternating {reading : Reading} {calls : List ContactCall}
    {isOpen isOpen' : Option ItemRef} (h : Effect robotId reading isOpen isOpen')
    (ha : Alternating robotId calls isOpen) :
    Alternating robotId (calls ++ reading.calls) isOpen' := by
  cases h with
  | quiet _ hcalls _ => simpa [hcalls] using ha
  | contact item hcalls _ => rw [hcalls]; exact ha.contact item
  | drop item hcalls _ => rw [hcalls]; exact ha.drop

theorem after_tracks (hfrontier : find kFrontierColourCode = none) (robotId : Str)
    (robot : RobotRef) (colours : List Int) :
    Tracks find (after find robotId (ofRobot robot) colours) colours := by
  induction colours using List.reverseRecOn with
  | nil => exact Tracks.ofRobot robot
  | append_singleton colours colour ih =>
    rw [after, List.foldl_append]
    exact (setColour_follows _ hfrontier ih colour).tracks

/-- For every sequence of colours the calls to the handler alternate, the
contact left open is the one the specification names, and items are returned
just where contacts open. -/
theorem readings_refine (items : ItemRegistry) (robotId : Str) (robot : RobotRef)
    (hfrontier : items.getItemByColour kFrontierColourCode = none) (colours : List Int) :
    Alternating robotId
        ((readings items.getItemByColour robotId (ofRobot robot) colours).flatMap Reading.calls)
        (openItem items.getItemByColour colours) ∧
      ∀ reading ∈ readings items.getItemByColour robotId (ofRobot robot) colours,
        reading.Sound robotId := by
  induction colours using List.reverseRecOn with
  | nil => exact ⟨Alternating.nil, by simp [readings]⟩
  | append_singleton colours colour ih =>
    have hfollows := setColour_follows robotId hfrontier
      (after_tracks hfrontier robotId robot colours) colour
    simp only [readings_append, readings, List.flatMap_append, List.flatMap_singleton,
      List.mem_append, List.mem_singleton]
    refine ⟨hfollows.effect.alternating ih.1, ?_⟩
    rintro reading (hold | rfl)
    · exact ih.2 reading hold
    · exact hfollows.sound

/-- A red flag (colour 2): frontier, flag, frontier. -/
theorem readings_refine_redFlag :
    let items := (ItemRegistry.createItem {} "flag".toList "red".toList ∅ 2
      { scoreToWin := 1, pointsOnCapture := 1, timeToCapture := 0 }).2
    Alternating "robot_0".toList
        ((readings items.getItemByColour "robot_0".toList (ofRobot ⟨0⟩) [1, 2, 1]).flatMap
          Reading.calls)
        (openItem items.getItemByColour [1, 2, 1]) ∧
      ∀ reading ∈ readings items.getItemByColour "robot_0".toList (ofRobot ⟨0⟩) [1, 2, 1],
        reading.Sound "robot_0".toList :=
  readings_refine _ _ _ (by decide) _

end ServerGame.FlagDetector
