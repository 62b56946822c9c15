import ServerGame.Game.Types

/-!
# Teams' scores, items and their registry

`Team.cpp`, `Item.cpp` and `item/Flag.cpp`.
-/

namespace ServerGame

open Lib (Map)

-- ---------------------------------------------------------------------------
-- Team
-- ---------------------------------------------------------------------------

def Team.ofName (name : Str) : Team := { name, isNeutralTeam := false }

/-- The amount is a `uint16_t`, the score a `uint32_t` that wraps. -/
def Team.increaseScore (team : Team) (amount : UInt16) : Team :=
  { team with score := team.score + amount.toUInt32 }

def Team.setScore (team : Team) (score : UInt32) : Team := { team with score }

def Team.resetScore (team : Team) : Team := { team with score := 0 }

def Team.addRobot (team : Team) (robot : RobotRef) : Team :=
  if robot ∈ team.robots then team else { team with robots := team.robots ++ [robot] }

@[simp] theorem Team.setScore_name (team : Team) (score : UInt32) :
    (team.setScore score).name = team.name := rfl

@[simp] theorem Team.resetScore_name (team : Team) : team.resetScore.name = team.name := rfl

@[simp] theorem Team.resetScore_robots (team : Team) : team.resetScore.robots = team.robots := rfl

@[simp] theorem Team.addRobot_name (team : Team) (robot : RobotRef) :
    (team.addRobot robot).name = team.name := by
  unfold Team.addRobot; split <;> rfl

@[simp] theorem Team.addRobot_score (team : Team) (robot : RobotRef) :
    (team.addRobot robot).score = team.score := by
  unfold Team.addRobot; split <;> rfl

-- ---------------------------------------------------------------------------
-- Item
-- ---------------------------------------------------------------------------

def Item.startCapture (item : Item) (capturingTeam : Str) : Item :=
  if item.owningTeam ≠ capturingTeam then
    { item with capturingTeam, captureState := .started }
  else item

def Item.abortCapture (item : Item) : Item := { item with captureState := .failed }

/-- `Flag::innerCapture`. The points are a `uint32_t`, what they are passed as
a `uint16_t`. -/
def Item.innerCapture (item : Item) (team : Team) : Team :=
  team.increaseScore item.pointsOnCapture.toUInt16

def Item.capture (item : Item) (team : Team) : Item × Team :=
  if team.name ≠ item.owningTeam then
    ({ item with owningTeam := team.name, captureState := .succeeded }, item.innerCapture team)
  else (item, team)

def Item.reset (item : Item) : Item :=
  { item with owningTeam := [], capturingTeam := [], captureState := .pending }

@[simp] theorem Item.startCapture_owningTeam (item : Item) (name : Str) :
    (item.startCapture name).owningTeam = item.owningTeam := by
  unfold Item.startCapture; split <;> rfl

@[simp] theorem Item.startCapture_pointsOnCapture (item : Item) (name : Str) :
    (item.startCapture name).pointsOnCapture = item.pointsOnCapture := by
  unfold Item.startCapture; split <;> rfl

@[simp] theorem Item.abortCapture_owningTeam (item : Item) :
    item.abortCapture.owningTeam = item.owningTeam := rfl

@[simp] theorem Item.abortCapture_pointsOnCapture (item : Item) :
    item.abortCapture.pointsOnCapture = item.pointsOnCapture := rfl

@[simp] theorem Item.capture_pointsOnCapture (item : Item) (team : Team) :
    (item.capture team).1.pointsOnCapture = item.pointsOnCapture := by
  unfold Item.capture; split <;> rfl

@[simp] theorem Item.capture_owningTeam (item : Item) (team : Team) :
    (item.capture team).1.owningTeam = team.name := by
  unfold Item.capture
  split
  · rfl
  · next h => exact (not_not.mp h).symm

@[simp] theorem Item.capture_name (item : Item) (team : Team) :
    (item.capture team).2.name = team.name := by
  unfold Item.capture; split <;> rfl

-- ---------------------------------------------------------------------------
-- The static registry
-- ---------------------------------------------------------------------------

def ItemRegistry.getItemByRfid (items : ItemRegistry) (rfid : Str) : Option ItemRef :=
  items.itemsByRfid[rfid]?

def ItemRegistry.getItemByColour (items : ItemRegistry) (colourCode : Int) : Option ItemRef :=
  items.itemsByColour[colourCode]?

def ItemRegistry.modify (items : ItemRegistry) (item : ItemRef) (f : Item → Item) : ItemRegistry :=
  { items with allItems := items.allItems.modify item f }

def ItemRegistry.createItem (items : ItemRegistry) (type name : Str)
    (rfids : Std.ExtTreeSet Str compare) (colourCode : Int) (ruleset : Ruleset) :
    Option ItemRef × ItemRegistry :=
  let newItem := items.allItems.length
  if type = "flag".toList then
    if rfids.isEmpty ∧ colourCode ≠ -1 then
      if colourCode ∈ items.itemsByColour then (none, items)
      else
        let newFlag : Item :=
          { kind := .colour, name, colour := colourCode,
            timeToCapture := ruleset.timeToCapture, pointsOnCapture := ruleset.pointsOnCapture }
        (some newItem,
          { items with
            itemsByColour := items.itemsByColour.insert colourCode newItem
            allItems := items.allItems ++ [newFlag] })
    else if ¬rfids.isEmpty ∧ colourCode = -1 then
      let newFlag : Item :=
        { kind := .rfids, name, rfids,
          timeToCapture := ruleset.timeToCapture, pointsOnCapture := ruleset.pointsOnCapture }
      -- a code that is taken is only logged, the other ones are still inserted
      let itemsByRfid := rfids.toList.foldl
        (fun byRfid rfid => if rfid ∈ byRfid then byRfid else byRfid.insert rfid newItem)
        items.itemsByRfid
      (some newItem, { items with itemsByRfid, allItems := items.allItems ++ [newFlag] })
    else (none, items)
  else (none, items)

def ItemRegistry.resetAllItems (items : ItemRegistry) : ItemRegistry :=
  { items with allItems := items.allItems.map Item.reset }

@[simp] theorem ItemRegistry.modify_length (items : ItemRegistry) (item : ItemRef)
    (f : Item → Item) : (items.modify item f).allItems.length = items.allItems.length := by
  simp [ItemRegistry.modify]

@[simp] theorem ItemRegistry.resetAllItems_length (items : ItemRegistry) :
    items.resetAllItems.allItems.length = items.allItems.length := by
  simp [ItemRegistry.resetAllItems]

theorem ItemRegistry.getElem?_modify (items : ItemRegistry) (item i : ItemRef) (f : Item → Item) :
    (items.modify item f).allItems[i]? =
      if item = i then items.allItems[i]?.map f else items.allItems[i]? := by
  simp only [ItemRegistry.modify, List.getElem?_modify]
  split <;> simp

theorem ItemRegistry.mem_modify {items : ItemRegistry} {item : ItemRef} {f : Item → Item}
    {P : Item → Prop} (hf : ∀ it, P it → P (f it)) (h : ∀ it ∈ items.allItems, P it) :
    ∀ it ∈ (items.modify item f).allItems, P it := by
  intro it hit
  obtain ⟨i, hi⟩ := List.mem_iff_getElem?.mp hit
  rw [ItemRegistry.getElem?_modify] at hi
  split at hi
  · obtain ⟨it', hit', rfl⟩ := Option.map_eq_some_iff.mp hi
    exact hf it' (h it' (List.mem_of_getElem? hit'))
  · exact h it (List.mem_of_getElem? hi)

theorem ItemRegistry.mem_resetAllItems {items : ItemRegistry} {it : Item}
    (h : it ∈ items.resetAllItems.allItems) : ∃ it₀ ∈ items.allItems, it = it₀.reset := by
  obtain ⟨it₀, h₀, rfl⟩ := List.mem_map.mp h
  exact ⟨it₀, h₀, rfl⟩

theorem ItemRegistry.createItem_allItems (items : ItemRegistry) (type name : Str)
    (rfids : Std.ExtTreeSet Str compare) (colourCode : Int) (ruleset : Ruleset) :
    ((items.createItem type name rfids colourCode ruleset).1 = none ∧
      (items.createItem type name rfids colourCode ruleset).2 = items) ∨
    ∃ flag : Item, (items.createItem type name rfids colourCode ruleset).1 =
        some items.allItems.length ∧
      (items.createItem type name rfids colourCode ruleset).2.allItems = items.allItems ++ [flag] ∧
      flag.owningTeam = [] ∧ flag.captureState = .pending ∧
      flag.pointsOnCapture = ruleset.pointsOnCapture := by
  unfold ItemRegistry.createItem
  split
  · split
    · split
      · exact .inl ⟨rfl, rfl⟩
      · exact .inr ⟨_, rfl, rfl, rfl, rfl, rfl⟩
    · split
      · exact .inr ⟨_, rfl, rfl, rfl, rfl, rfl⟩
      · exact .inl ⟨rfl, rfl⟩
  · exact .inl ⟨rfl, rfl⟩

end ServerGame
