import ServerGame.Score

/-!
# What a capture is worth

The points of a capture on their way from the text of a ruleset to the score of
a team: `Ruleset::parseConfig`, `Item::CreateItem`, `Flag::innerCapture` and
`Team::increaseScore`, whose parameter is narrower than all the rest.
-/

namespace ServerGame

-- ---------------------------------------------------------------------------
-- Ruleset
-- ---------------------------------------------------------------------------

/-- `boost::property_tree::ptree`, as far as `get` goes: the text at a path, and
the number it reads as. -/
structure Ptree where
  text : Str → Option Str
  number : Str → Option UInt32

/-- None where `get` throws: only the name has no default. -/
def Ruleset.parseConfig (rulesetName : Str) (ptree : Ptree) : Option Ruleset := do
  let gameName ← ptree.text (rulesetName ++ ".game_name".toList)
  return {
    gameName
    scoreToWin := (ptree.number (rulesetName ++ ".score_to_win".toList)).getD 0
    pointsOnCapture := (ptree.number (rulesetName ++ ".points_on_capture".toList)).getD 0
    timeToCapture := (ptree.number (rulesetName ++ ".time_to_capture".toList)).getD 0 }

theorem parseConfig_pointsOnCapture {rulesetName : Str} {ptree : Ptree} {ruleset : Ruleset}
    {points : UInt32} (h : Ruleset.parseConfig rulesetName ptree = some ruleset)
    (hpoints : ptree.number (rulesetName ++ ".points_on_capture".toList) = some points) :
    ruleset.pointsOnCapture = points := by
  obtain ⟨gameName, -, hruleset⟩ := Option.bind_eq_some_iff.mp h
  cases hruleset
  exact (congrArg (·.getD 0) hpoints).trans (Option.getD_some ..)

-- ---------------------------------------------------------------------------
-- The life of an item
-- ---------------------------------------------------------------------------

inductive ItemCall
  | startCapture (capturingTeam : Str)
  | abortCapture
  | capture (team : Team)
  | reset

def ItemCall.apply (item : Item) : ItemCall → Item
  | .startCapture capturingTeam => item.startCapture capturingTeam
  | .abortCapture => item.abortCapture
  | .capture team => (item.capture team).1
  | .reset => item.reset

@[simp] theorem ItemCall.apply_pointsOnCapture (item : Item) (call : ItemCall) :
    (call.apply item).pointsOnCapture = item.pointsOnCapture := by
  cases call <;> simp [ItemCall.apply, Item.reset]

theorem foldl_pointsOnCapture (calls : List ItemCall) (item : Item) :
    (calls.foldl ItemCall.apply item).pointsOnCapture = item.pointsOnCapture := by
  induction calls generalizing item with
  | nil => rfl
  | cons call calls ih => rw [List.foldl_cons, ih, ItemCall.apply_pointsOnCapture]

theorem createItem_pointsOnCapture {items items' : ItemRegistry} {type name : Str}
    {rfids : Std.ExtTreeSet Str compare} {colourCode : Int} {ruleset : Ruleset} {ref : ItemRef}
    {flag : Item}
    (h : items.createItem type name rfids colourCode ruleset = (some ref, items'))
    (hflag : items'.allItems[ref]? = some flag) :
    flag.pointsOnCapture = ruleset.pointsOnCapture := by
  rcases items.createItem_allItems type name rfids colourCode ruleset with
    ⟨hnone, -⟩ | ⟨new, href, happended, -, -, hpoints⟩
  · rw [h] at hnone
    cases hnone
  · rw [h] at href happended
    cases href
    rw [happended, List.getElem?_concat_length] at hflag
    cases hflag
    exact hpoints

-- ---------------------------------------------------------------------------
-- The width of the points
-- ---------------------------------------------------------------------------

theorem toUInt16_toUInt32_iff {points : UInt32} :
    points.toUInt16.toUInt32 = points ↔ points.toNat < 2 ^ 16 := by
  refine ⟨fun h => ?_, toUInt16_toUInt32⟩
  have hnat := congrArg UInt32.toNat h
  rw [UInt16.toNat_toUInt32, UInt32.toNat_toUInt16] at hnat
  rw [← hnat]
  exact Nat.mod_lt _ (Nat.two_pow_pos 16)

/-- Capturing the item gives the team that many points, modulo `2 ^ 32`. -/
def Item.Pays (item : Item) (team : Team) (points : UInt32) : Prop :=
  (item.capture team).2.score = team.score + points

theorem Item.pays_iff {item : Item} {team : Team} (h : team.name ≠ item.owningTeam) :
    item.Pays team item.pointsOnCapture ↔ item.pointsOnCapture.toNat < 2 ^ 16 := by
  unfold Item.Pays
  rw [Item.capture_score, if_pos h, UInt32.add_right_inj, toUInt16_toUInt32_iff]

/-- The points of a ruleset that was read, a flag made under it, whatever
happened to it since, and a team that does not own it: the capture is worth the
points exactly when they fit into 16 bits. -/
theorem capture_pays_iff (rulesetName : Str) (ptree : Ptree) (ruleset : Ruleset) (points : UInt32)
    (hparse : Ruleset.parseConfig rulesetName ptree = some ruleset)
    (hpoints : ptree.number (rulesetName ++ ".points_on_capture".toList) = some points)
    (items items' : ItemRegistry) (type name : Str) (rfids : Std.ExtTreeSet Str compare)
    (colourCode : Int) (ref : ItemRef) (flag : Item)
    (hcreate : items.createItem type name rfids colourCode ruleset = (some ref, items'))
    (hflag : items'.allItems[ref]? = some flag) (calls : List ItemCall) (team : Team)
    (hteam : team.name ≠ (calls.foldl ItemCall.apply flag).owningTeam) :
    (calls.foldl ItemCall.apply flag).Pays team points ↔ points.toNat < 2 ^ 16 := by
  have hworth : (calls.foldl ItemCall.apply flag).pointsOnCapture = points := by
    rw [foldl_pointsOnCapture, createItem_pointsOnCapture hcreate hflag,
      parseConfig_pointsOnCapture hparse hpoints]
  rw [← hworth]
  exact Item.pays_iff hteam

-- ---------------------------------------------------------------------------
-- Two rulesets
-- ---------------------------------------------------------------------------

def worth (points : UInt32) : Ptree where
  text _ := some "game".toList
  number path := if path = "rules.points_on_capture".toList then some points else some 0

theorem capture_pays_iff_full :
    ∃ ruleset items flag, Ruleset.parseConfig "rules".toList (worth 65535) = some ruleset ∧
      ItemRegistry.createItem {} "flag".toList "red".toList ∅ 2 ruleset = (some 0, items) ∧
      items.allItems[0]? = some flag ∧ flag.Pays (.ofName "A".toList) 65535 :=
  ⟨_, _, _, rfl, rfl, rfl, (capture_pays_iff "rules".toList (worth 65535) _ 65535 rfl rfl {} _
    "flag".toList "red".toList ∅ 2 0 _ rfl rfl [] (.ofName "A".toList) (by decide)).mpr (by decide)⟩

/-- The first number that does not fit is worth nothing. -/
theorem capture_pays_nothing :
    ∃ ruleset items flag, Ruleset.parseConfig "rules".toList (worth 65536) = some ruleset ∧
      ItemRegistry.createItem {} "flag".toList "red".toList ∅ 2 ruleset = (some 0, items) ∧
      items.allItems[0]? = some flag ∧ (flag.capture (.ofName "A".toList)).2.score = 0 ∧
      ¬flag.Pays (.ofName "A".toList) 65536 := by
  refine ⟨_, _, _, rfl, rfl, rfl, rfl, ?_⟩
  unfold Item.Pays
  decide

end ServerGame
