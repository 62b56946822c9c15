import ServerGame.Lib.Map
import ServerGame.Lib.Heap

/-!
# The values the server keeps

Names follow the members of the classes, without their `m_`. Objects that the
code shares through pointers (teams, robots, players) have an address; a
contact and a flag detector belong to one map entry and are stored in it.
Texts that are only logged are left out.
-/

namespace ServerGame

open Lib (Map Ref Heap)

/-- `std::string`. One `Char` stands for one byte. -/
abbrev Str := List Char

-- ---------------------------------------------------------------------------
-- Time
-- ---------------------------------------------------------------------------

/-- A `boost::posix_time::time_duration` is a number of microseconds. -/
def seconds (n : UInt32) : Int := n.toNat * 1000000

def milliseconds (n : UInt32) : Int := n.toNat * 1000

/-- Integer division in C++ truncates towards zero. -/
def totalSeconds (duration : Int) : Int := Int.tdiv duration 1000000

def totalMilliseconds (duration : Int) : Int := Int.tdiv duration 1000

/-- Microseconds since the Julian day 0. The calendar of `ptime` ends with the
year 9999, well below this bound. -/
abbrev Instant := Fin (2 ^ 62)

instance Instant.neZero : NeZero (2 ^ 62) := ⟨(Nat.two_pow_pos 62).ne'⟩

/-- `boost::posix_time::ptime`; a default-constructed one is no date. -/
inductive Ptime
  | notADateTime
  | at (instant : Instant)
  deriving DecidableEq, Repr

/-- The tick count `time_duration` uses for `not_a_date_time`. -/
def notADateTimeTicks : Int := 2 ^ 63 - 2

def Ptime.since : Ptime → Ptime → Int
  | .at t, .at t₀ => (t.val : Int) - t₀.val
  | _, _ => notADateTimeTicks

def Ptime.plus : Ptime → Int → Option Int
  | .at t, d => some (t.val + d)
  | .notADateTime, _ => none

/-- `>`, which is false as soon as one side is `not_a_date_time`. -/
def Ptime.isAfter : Ptime → Option Int → Bool
  | .at t, some stop => decide (stop < t.val)
  | _, _ => false

-- ---------------------------------------------------------------------------
-- Rules, items
-- ---------------------------------------------------------------------------

structure Ruleset where
  gameName : Str := []
  scoreToWin : UInt32
  pointsOnCapture : UInt32
  timeToCapture : UInt32
  deriving DecidableEq, Repr

inductive CaptureState
  | pending
  | started
  | succeeded
  | failed
  deriving DecidableEq, Repr

inductive ItemKind
  | colour
  | rfids
  deriving DecidableEq, Repr

/-- `Item` with the one class derived from it, `item::Flag`. -/
structure Item where
  kind : ItemKind
  name : Str
  rfids : Std.ExtTreeSet Str compare := ∅
  colour : Int := -1
  owningTeam : Str := []
  capturingTeam : Str := []
  captureState : CaptureState := .pending
  timeToCapture : UInt32
  pointsOnCapture : UInt32

/-- A pointer to an item is its position in `s_allItems`: every item is made by
`CreateItem`, which appends it there, and none is ever taken out. -/
abbrev ItemRef := Nat

structure ItemRegistry where
  allItems : List Item := []
  itemsByRfid : Map Str ItemRef := ∅
  itemsByColour : Map Int ItemRef := ∅

-- ---------------------------------------------------------------------------
-- Teams, robots, players
-- ---------------------------------------------------------------------------

inductive ObjectKind
  | team
  | robot
  | player

abbrev TeamRef := Ref ObjectKind.team
abbrev RobotRef := Ref ObjectKind.robot
abbrev PlayerRef := Ref ObjectKind.player

structure Team where
  name : Str := []
  score : UInt32 := 0
  robots : List RobotRef := []
  isNeutralTeam : Bool := true
  deriving Inhabited

structure Robot where
  name : Str := []
  robotId : Str := []
  /-- A `Team &` into `m_teams`: it dangles once that entry is erased. -/
  team : TeamRef := ⟨0⟩
  videoUrl : Str := []
  videoRetransmissionPort : UInt16 := 0
  serverCommandPort : UInt16 := 0
  hasRealRobot : Bool := false
  /-- A `weak_ptr`. -/
  player : Option PlayerRef := none
  deriving Inhabited

structure Player where
  name : Str := []
  /-- A `weak_ptr`. -/
  robot : Option RobotRef := none
  address : Str := []
  deriving Inhabited

-- ---------------------------------------------------------------------------
-- Contacts, flag detectors
-- ---------------------------------------------------------------------------

structure Contact where
  robot : RobotRef
  item : ItemRef
  stopTime : Option Int
  finished : Bool := false
  deriving DecidableEq

inductive StepSignal
  | stayingAlive
  | silenceIKillU
  deriving DecidableEq, Repr

inductive FlagDetector.States
  | outside
  | frontier
  | unknownFromFrontier
  | inside
  | transitionFromInside
  deriving DecidableEq, Repr

structure FlagDetector where
  colourCode : Int
  state : FlagDetector.States
  robot : RobotRef
  /-- A `weak_ptr` that never expires, as items are never destroyed. -/
  lastItem : Option ItemRef
  deriving DecidableEq

inductive ContactCall
  | isInContactWith (robotId : Str) (item : ItemRef)
  | dropsContactWith (robotId : Str) (item : ItemRef)
  deriving DecidableEq, Repr

-- ---------------------------------------------------------------------------
-- What can go wrong
-- ---------------------------------------------------------------------------

/-- The exceptions the code can let out, and what has no defined behaviour at
all: a null pointer, an empty optional or a destroyed team read, a loop that
never ends. -/
inductive Fault
  | outOfRange
  | badLexicalCast
  | logicError
  | typeError
  | nullPointer
  | emptyOptional
  | danglingTeam
  | endlessLoop
  deriving DecidableEq, Repr

def Fault.isException : Fault → Bool
  | .outOfRange | .badLexicalCast | .logicError | .typeError => true
  | .nullPointer | .emptyOptional | .danglingTeam | .endlessLoop => false

end ServerGame
