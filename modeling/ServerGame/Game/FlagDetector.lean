import ServerGame.Game.Item

/-!
# The flag detector

`item/FlagDectector.cpp`. A robot first sees the colour of a frontier, then
the colour of the item behind it. The calls to the contact handler are part of
the result: the detector never looks at what the handler does.
-/

namespace ServerGame

namespace FlagDetector

def kFrontierColourCode : Int := 1

def ofRobot (robot : RobotRef) : FlagDetector where
  colourCode := kFrontierColourCode
  state := .outside
  robot := robot
  lastItem := none

/-- What one call of `setColour` leaves: the detector, the item it returns and
the calls it made to the contact handler. -/
structure Reading where
  detector : FlagDetector
  newItem : Option ItemRef := none
  calls : List ContactCall := []
  /-- The branch that logs "Finding a different item from the frontier ?". -/
  differentItem : Bool := false

/-- The lines the two states in the item share for a frontier colour. -/
def backToFrontier (detector : FlagDetector) (robotId : Str) : Reading where
  detector :=
    { detector with state := .frontier, colourCode := kFrontierColourCode, lastItem := none }
  calls := match detector.lastItem with
    | some lastItem => [.dropsContactWith robotId lastItem]
    | none => []

def setColour (getItemByColour : Int → Option ItemRef) (robotId : Str) (detector : FlagDetector)
    (colourCode : Int) : Reading :=
  match detector.state with
  | .outside =>
    if kFrontierColourCode = colourCode then
      { detector := { detector with state := .frontier } }
    else { detector }
  | .frontier =>
    match getItemByColour colourCode with
    | some item =>
      { detector := { detector with state := .inside, lastItem := some item, colourCode }
        newItem := some item
        calls := [.isInContactWith robotId item] }
    | none => { detector := { detector with state := .unknownFromFrontier } }
  | .unknownFromFrontier =>
    match getItemByColour colourCode with
    | some item =>
      match detector.lastItem with
      | some lastItem =>
        { detector := { detector with state := .inside, colourCode }
          differentItem := decide (item ≠ lastItem) }
      | none =>
        { detector := { detector with state := .inside, lastItem := some item, colourCode }
          newItem := some item
          calls := [.isInContactWith robotId item] }
    | none => { detector }
  | .inside =>
    if kFrontierColourCode = colourCode then detector.backToFrontier robotId
    else if colourCode ≠ detector.colourCode then
      { detector := { detector with state := .transitionFromInside } }
    else { detector }
  | .transitionFromInside =>
    if colourCode = detector.colourCode then
      match detector.lastItem with
      | some _ => { detector := { detector with state := .inside } }
      | none => { detector }
    else if kFrontierColourCode = colourCode then detector.backToFrontier robotId
    else { detector }

theorem setColour_robot (find : Int → Option ItemRef) (robotId : Str) (detector : FlagDetector)
    (colourCode : Int) : (setColour find robotId detector colourCode).detector.robot =
      detector.robot := by
  unfold setColour
  split <;> (repeat' split) <;> rfl

end FlagDetector

end ServerGame
