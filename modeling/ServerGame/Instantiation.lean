import ServerGame.Configuration
import ServerGame.Edits

/-!
# From accepted parameters to a game

The validator and the factory of items look at the type, the RFIDs and the
colour of an item each in its own way. Here: exactly which of the accepted
configurations can be made into a game.
-/

namespace ServerGame

open Lib (bind_eq_ok pure_eq_ok)

variable {items items' : ItemRegistry} {ruleset : Ruleset}

-- ---------------------------------------------------------------------------
-- What is promised
-- ---------------------------------------------------------------------------

structure ItemRegistry.Found (items : ItemRegistry) (ref : ItemRef) (item : Parameters.Item) :
    Prop where
  made : ∃ it, items.allItems[ref]? = some it ∧ it.name = item.name ∧ it.rfids = item.rfids ∧
    it.colour = item.colour
  byRfid : ∀ rfid ∈ item.rfids, items.getItemByRfid rfid = some ref
  byColour : item.rfids.isEmpty = true → items.getItemByColour item.colour = some ref

/-- The server can be made, and the n-th configured item is found as the n-th
item of the registry. -/
def Parameters.Instantiates (leftFirst : Bool) (param : Parameters) : Prop :=
  ∃ app, initServer leftFirst {} param = .ok app ∧
    ∀ (ref : Nat) item, (param.items.toList.map Prod.snd)[ref]? = some item →
      app.game.items.Found ref item

def Parameters.Item.SharesNoCode (item item' : Parameters.Item) : Prop :=
  (item.colour = item'.colour → item.colour = -1) ∧ ∀ rfid ∈ item.rfids, rfid ∉ item'.rfids

/-- What the validator does not look at. -/
structure Parameters.Buildable (param : Parameters) : Prop where
  tickInterval : param.commandLineParameters.tickInterval.isSome = true
  gameDuration : param.commandLineParameters.gameDuration.isSome = true
  flags : ∀ item ∈ param.items.toList.map Prod.snd, item.type = "flag".toList
  coded : ∀ item ∈ param.items.toList.map Prod.snd,
    item.rfids.isEmpty = true → item.colour ≠ -1
  distinct : (param.items.toList.map Prod.snd).Pairwise Parameters.Item.SharesNoCode

-- ---------------------------------------------------------------------------
-- One item
-- ---------------------------------------------------------------------------

section
variable {item : Parameters.Item}

theorem colour_of_isBadlyConfigured (h : item.isBadlyConfigured = false)
    (hrfids : item.rfids.isEmpty = false) : item.colour = -1 := by
  simpa [Parameters.Item.isBadlyConfigured, hrfids] using h

theorem create_colour (hflag : item.type = "flag".toList) (hempty : item.rfids.isEmpty = true)
    (hcolour : item.colour ≠ -1) (hfresh : item.colour ∉ items.itemsByColour) :
    item.create ruleset items = .ok { items with
      itemsByColour := items.itemsByColour.insert item.colour items.allItems.length
      allItems := items.allItems ++ [{
        kind := .colour, name := item.name, colour := item.colour
        timeToCapture := ruleset.timeToCapture
        pointsOnCapture := ruleset.pointsOnCapture }] } := by
  unfold Parameters.Item.create ItemRegistry.createItem
  rw [if_pos hflag, if_pos ⟨hempty, hcolour⟩, if_neg hfresh]

theorem create_rfids (hflag : item.type = "flag".toList) (hempty : item.rfids.isEmpty = false)
    (hcolour : item.colour = -1) :
    item.create ruleset items = .ok { items with
      itemsByRfid := item.rfids.toList.foldl
        (fun byRfid rfid => if rfid ∈ byRfid then byRfid
          else byRfid.insert rfid items.allItems.length) items.itemsByRfid
      allItems := items.allItems ++ [{
        kind := .rfids, name := item.name, rfids := item.rfids
        timeToCapture := ruleset.timeToCapture
        pointsOnCapture := ruleset.pointsOnCapture }] } := by
  unfold Parameters.Item.create ItemRegistry.createItem
  rw [if_pos hflag, if_neg (by simp [hcolour]), if_pos (by simp [hempty, hcolour])]

theorem create_ok (h : item.create ruleset items = .ok items') :
    item.type = "flag".toList ∧ (item.rfids.isEmpty = true → item.colour ≠ -1) := by
  unfold Parameters.Item.create ItemRegistry.createItem at h
  by_cases htype : item.type = "flag".toList
  · refine ⟨htype, fun hrfids hcolour => ?_⟩
    simp [htype, hrfids, hcolour] at h
  · rw [if_neg htype] at h
    cases h

structure Installed (entries : List Parameters.Item) (items : ItemRegistry) : Prop where
  length : items.allItems.length = entries.length
  found : ∀ (ref : Nat) item, entries[ref]? = some item → items.Found ref item
  colours : ∀ colour ∈ items.itemsByColour, ∃ item ∈ entries,
    item.colour = colour ∧ colour ≠ -1
  rfids : ∀ rfid ∈ items.itemsByRfid, ∃ item ∈ entries, rfid ∈ item.rfids

theorem Installed.empty : Installed [] {} where
  length := rfl
  found ref item h := by simp at h
  colours colour h := by simp at h
  rfids rfid h := by simp at h

variable {entries : List Parameters.Item}

theorem Installed.append {it : Item} (hi : Installed entries items)
    (hitems : items'.allItems = items.allItems ++ [it])
    (hrfids : ∀ rfid ref, items.getItemByRfid rfid = some ref →
      items'.getItemByRfid rfid = some ref)
    (hcolours : ∀ colour ref, items.getItemByColour colour = some ref →
      items'.getItemByColour colour = some ref)
    (hnew : items'.Found entries.length item)
    (hcolour : ∀ colour ∈ items'.itemsByColour, colour ∈ items.itemsByColour ∨
      item.colour = colour ∧ colour ≠ -1)
    (hrfid : ∀ rfid ∈ items'.itemsByRfid, rfid ∈ items.itemsByRfid ∨ rfid ∈ item.rfids) :
    Installed (entries ++ [item]) items' where
  length := by simp [hitems, hi.length]
  found ref item₁ h := by
    rcases Nat.lt_trichotomy ref entries.length with hlt | rfl | hgt
    · rw [List.getElem?_append_left hlt] at h
      have hf := hi.found ref item₁ h
      refine ⟨?_, fun rfid hr => hrfids _ _ (hf.byRfid rfid hr),
        fun hempty => hcolours _ _ (hf.byColour hempty)⟩
      obtain ⟨it₁, hit₁, hsame⟩ := hf.made
      refine ⟨it₁, ?_, hsame⟩
      rw [hitems, List.getElem?_append_left (hi.length ▸ hlt), hit₁]
    · simp only [List.getElem?_concat_length, Option.some.injEq] at h
      exact h ▸ hnew
    · rw [List.getElem?_eq_none (by simp; omega)] at h
      cases h
  colours colour h := by
    rcases hcolour colour h with h | h
    · obtain ⟨item₁, hmem, hitem₁⟩ := hi.colours colour h
      exact ⟨item₁, List.mem_append_left _ hmem, hitem₁⟩
    · exact ⟨item, by simp, h⟩
  rfids rfid h := by
    rcases hrfid rfid h with h | h
    · obtain ⟨item₁, hmem, hitem₁⟩ := hi.rfids rfid h
      exact ⟨item₁, List.mem_append_left _ hmem, hitem₁⟩
    · exact ⟨item, by simp, h⟩

theorem Installed.createColour (hi : Installed entries items)
    (hflag : item.type = "flag".toList) (hempty : item.rfids.isEmpty = true)
    (hcolour : item.colour ≠ -1) (hfresh : item.colour ∉ items.itemsByColour) :
    ∃ items', item.create ruleset items = .ok items' ∧ Installed (entries ++ [item]) items' := by
  refine ⟨_, create_colour hflag hempty hcolour hfresh, ?_⟩
  refine hi.append rfl (fun _ _ h => h) (fun colour ref h => ?_) ⟨?_, ?_, ?_⟩ ?_
    (fun _ h => .inl h)
  · refine Std.ExtTreeMap.getElem?_insert_eq_some.mpr (.inr ⟨?_, h⟩)
    rintro rfl
    exact hfresh (Std.ExtTreeMap.mem_iff_isSome_getElem?.mpr
      (Option.isSome_iff_exists.mpr ⟨ref, h⟩))
  · rw [← hi.length]
    refine ⟨_, List.getElem?_concat_length, rfl, ?_, rfl⟩
    exact (Std.ExtTreeSet.isEmpty_iff.mp hempty).symm
  · intro rfid hmem
    rw [Std.ExtTreeSet.isEmpty_iff.mp hempty] at hmem
    simp at hmem
  · intro _
    rw [← hi.length]
    exact Std.ExtTreeMap.getElem?_insert_self
  · intro colour h
    rcases Std.ExtTreeMap.mem_insert.mp h with h | h
    · have hsame : item.colour = colour := by simpa using h
      exact .inr ⟨hsame, hsame ▸ hcolour⟩
    · exact .inl h

theorem Installed.createRfids (hi : Installed entries items)
    (hflag : item.type = "flag".toList) (hempty : item.rfids.isEmpty = false)
    (hcolour : item.colour = -1) (hfresh : ∀ rfid ∈ item.rfids, rfid ∉ items.itemsByRfid) :
    ∃ items', item.create ruleset items = .ok items' ∧ Installed (entries ++ [item]) items' := by
  refine ⟨_, create_rfids hflag hempty hcolour, ?_⟩
  refine hi.append rfl (fun rfid ref h => ?_) (fun _ _ h => h) ⟨?_, fun rfid hmem => ?_, ?_⟩
    (fun _ h => .inl h) fun rfid h => ?_
  · exact Std.ExtTreeMap.getElem?_foldl_insertAbsent_eq_some.mpr (.inr h)
  · rw [← hi.length]
    exact ⟨_, List.getElem?_concat_length, rfl, rfl, hcolour.symm⟩
  · rw [← hi.length]
    exact Std.ExtTreeMap.getElem?_foldl_insertAbsent_eq_some.mpr
      (.inl ⟨Std.ExtTreeSet.mem_toList.mpr hmem, hfresh rfid hmem, rfl⟩)
  · simp [hempty]
  · obtain ⟨ref, hlook⟩ :=
      Option.isSome_iff_exists.mp (Std.ExtTreeMap.mem_iff_isSome_getElem?.mp h)
    rcases Std.ExtTreeMap.getElem?_foldl_insertAbsent_eq_some.mp hlook with ⟨hmem, -, -⟩ | hold
    · exact .inr (Std.ExtTreeSet.mem_toList.mp hmem)
    · exact .inl (Std.ExtTreeMap.mem_iff_isSome_getElem?.mpr
        (Option.isSome_iff_exists.mpr ⟨ref, hold⟩))

theorem Installed.create (hi : Installed entries items) (hflag : item.type = "flag".toList)
    (hcoded : item.rfids.isEmpty = true → item.colour ≠ -1)
    (hbad : item.isBadlyConfigured = false) (hnew : ∀ item₁ ∈ entries, item₁.SharesNoCode item) :
    ∃ items', item.create ruleset items = .ok items' ∧ Installed (entries ++ [item]) items' := by
  by_cases hempty : item.rfids.isEmpty = true
  · refine hi.createColour hflag hempty (hcoded hempty) fun htaken => ?_
    obtain ⟨item₁, hmem, hcolour, hne⟩ := hi.colours _ htaken
    exact hne (hcolour ▸ (hnew item₁ hmem).1 hcolour)
  · have hempty : item.rfids.isEmpty = false := by simpa using hempty
    refine hi.createRfids hflag hempty (colour_of_isBadlyConfigured hbad hempty) ?_
    intro rfid hmem htaken
    obtain ⟨item₁, hmem₁, hrfid⟩ := hi.rfids rfid htaken
    exact (hnew item₁ hmem₁).2 rfid hrfid hmem

theorem installed_of_buildable (hflags : ∀ item ∈ entries, item.type = "flag".toList)
    (hcoded : ∀ item ∈ entries, item.rfids.isEmpty = true → item.colour ≠ -1)
    (hbad : ∀ item ∈ entries, item.isBadlyConfigured = false)
    (hdistinct : entries.Pairwise Parameters.Item.SharesNoCode) :
    ∃ items, entries.foldlM (Parameters.Item.create ruleset) {} = .ok items ∧
      Installed entries items := by
  induction entries using List.reverseRecOn with
  | nil => exact ⟨{}, rfl, .empty⟩
  | append_singleton entries item ih =>
    obtain ⟨hpairwise, -, hnew⟩ := List.pairwise_append.mp hdistinct
    obtain ⟨items, hitems, hi⟩ := ih (fun i hi => hflags i (by simp [hi]))
      (fun i hi => hcoded i (by simp [hi])) (fun i hi => hbad i (by simp [hi])) hpairwise
    obtain ⟨items', hcreate, hi'⟩ := @Installed.create items ruleset item entries hi
      (hflags item (by simp)) (hcoded item (by simp)) (hbad item (by simp))
      fun item₁ hmem => hnew item₁ hmem item (by simp)
    refine ⟨items', ?_, hi'⟩
    rw [List.foldlM_append, hitems]
    simpa using hcreate

theorem distinct_of_found (hbad : ∀ item ∈ entries, item.isBadlyConfigured = false)
    (hfound : ∀ (ref : Nat) item, entries[ref]? = some item → items.Found ref item) :
    entries.Pairwise Parameters.Item.SharesNoCode := by
  refine List.pairwise_iff_getElem.mpr fun i j hi hj hlt => ?_
  have hfi := hfound i entries[i] (List.getElem?_eq_getElem hi)
  have hfj := hfound j entries[j] (List.getElem?_eq_getElem hj)
  have hempty : ∀ item ∈ entries, item.colour ≠ -1 → item.rfids.isEmpty = true := by
    intro item hmem hcolour
    by_contra hrfids
    exact hcolour (colour_of_isBadlyConfigured (hbad item hmem) (by simpa using hrfids))
  constructor
  · intro hsame
    by_contra hcolour
    have hli := hfi.byColour (hempty _ (List.getElem_mem hi) hcolour)
    have hlj := hfj.byColour (hempty _ (List.getElem_mem hj) (hsame ▸ hcolour))
    rw [hsame, hlj] at hli
    cases hli
    exact Nat.lt_irrefl _ hlt
  · intro rfid hmem hmem'
    have hli := hfi.byRfid rfid hmem
    rw [hfj.byRfid rfid hmem'] at hli
    cases hli
    exact Nat.lt_irrefl _ hlt

end

-- ---------------------------------------------------------------------------
-- Teams and robots
-- ---------------------------------------------------------------------------

section
variable {leftFirst : Bool} {app app' : Application}

theorem addTeams_frame (names : List Str) (game : Game) :
    (names.foldl (fun game name => (game.addTeam name).2) game).items = game.items ∧
      (names.foldl (fun game name => (game.addTeam name).2) game).robots = game.robots := by
  induction names generalizing game with
  | nil => exact ⟨rfl, rfl⟩
  | cons name names ih =>
    have hsame : (game.addTeam name).2.items = game.items ∧
        (game.addTeam name).2.robots = game.robots := by
      unfold Game.addTeam
      split <;> exact ⟨rfl, rfl⟩
    rw [List.foldl_cons, (ih _).1, (ih _).2]
    exact hsame

theorem getNewRobotId_of_empty {game : Game} (h : game.robots = ∅) :
    game.getNewRobotId = some "robot_0".toList := by
  unfold Game.getNewRobotId
  rw [h]
  rfl

theorem addConfiguredRobot_ok {entry : Str × Parameters.Robot}
    (hid : entry.1 ≠ [] ∨ app.game.robots = ∅) :
    ∃ app', app.addConfiguredRobot leftFirst entry = .ok app' ∧
      app'.game.items = app.game.items := by
  have hchoose : ∃ id, app.game.chooseRobotId entry.1 = .ok id := by
    rcases hid with hid | hempty
    · exact ⟨entry.1, Game.chooseRobotId_ok.mpr (.inr ⟨hid, rfl⟩)⟩
    · cases hentry : entry.1 with
      | nil => exact ⟨_, Game.chooseRobotId_ok.mpr (.inl ⟨rfl, getNewRobotId_of_empty hempty⟩)⟩
      | cons c cs => exact ⟨_, Game.chooseRobotId_ok.mpr (.inr ⟨by simp, rfl⟩)⟩
  obtain ⟨id, hid⟩ := hchoose
  unfold Application.addConfiguredRobot Game.addRobot
  simp only [Application.popTwoPorts_game, hid, Lib.ok_bind]
  split
  · exact ⟨_, rfl, rfl⟩
  · split <;> exact ⟨_, rfl, rfl⟩

theorem addConfiguredRobots_ok {entries : List (Str × Parameters.Robot)}
    (hids : ∀ entry ∈ entries, entry.1 ≠ []) :
    ∃ app', entries.foldlM (Application.addConfiguredRobot leftFirst) app = .ok app' ∧
      app'.game.items = app.game.items := by
  induction entries generalizing app with
  | nil => exact ⟨app, rfl, rfl⟩
  | cons entry entries ih =>
    obtain ⟨app₁, h₁, hitems₁⟩ := @addConfiguredRobot_ok leftFirst app entry
      (.inl (hids entry (by simp)))
    obtain ⟨app₂, h₂, hitems₂⟩ := @ih app₁ fun e he => hids e (by simp [he])
    refine ⟨app₂, ?_, hitems₂.trans hitems₁⟩
    rw [List.foldlM_cons, h₁]
    exact h₂

/-- The empty key comes first, when there is no robot yet. -/
theorem configuredRobots_ok (robots : Lib.Map Str Parameters.Robot) (h : app.game.robots = ∅) :
    ∃ app', robots.toList.foldlM (Application.addConfiguredRobot leftFirst) app = .ok app' ∧
      app'.game.items = app.game.items := by
  have hordered := @Std.ExtTreeMap.ordered_keys_toList _ _ _ robots _
  cases hlist : robots.toList with
  | nil => exact ⟨app, rfl, rfl⟩
  | cons entry entries =>
    rw [hlist, List.pairwise_cons] at hordered
    have hids : ∀ e ∈ entries, e.1 ≠ [] := by
      intro e he hempty
      have hlt := hordered.1 e he
      rw [hempty] at hlt
      cases hentry : entry.1 with
      | nil => rw [hentry] at hlt; cases hlt
      | cons c cs => rw [hentry] at hlt; cases hlt
    obtain ⟨app₁, h₁, hitems₁⟩ := @addConfiguredRobot_ok leftFirst app entry (.inr h)
    obtain ⟨app₂, h₂, hitems₂⟩ := @addConfiguredRobots_ok leftFirst app₁ entries hids
    refine ⟨app₂, ?_, hitems₂.trans hitems₁⟩
    rw [List.foldlM_cons, h₁]
    exact h₂

end

-- ---------------------------------------------------------------------------
-- initServer
-- ---------------------------------------------------------------------------

theorem valueOf_ok {parameter : Option α} {value : α} :
    valueOf parameter = .ok value ↔ parameter = some value := by
  cases parameter <;> simp [valueOf]

structure PortsGiven (param : Parameters) : Prop where
  publisher : ∃ port, param.commandLineParameters.publisherPort = some port
  puller : ∃ port, param.commandLineParameters.pullerPort = some port
  agent : ∃ port, param.commandLineParameters.agentPort = some port
  replier : ∃ port, param.commandLineParameters.replierPort = some port

theorem checkParametersConsistency_ok {param : Parameters}
    (h : checkParametersConsistency param = .ok true) :
    PortsGiven param ∧
      ∀ item ∈ param.items.toList.map Prod.snd, item.isBadlyConfigured = false := by
  unfold checkParametersConsistency at h
  simp only [bind_eq_ok, valueOf_ok] at h
  obtain ⟨publisher, hpublisher, puller, hpuller, agent, hagent, replier, hreplier, _, -, h⟩ := h
  refine ⟨⟨⟨_, hpublisher⟩, ⟨_, hpuller⟩, ⟨_, hagent⟩, ⟨_, hreplier⟩⟩, fun item hmem => ?_⟩
  split at h
  · cases h
  · split at h
    · cases h
    · split at h
      · cases h
      · obtain ⟨entry, hentry, rfl⟩ := List.mem_map.mp hmem
        simp only [pure_eq_ok, Bool.not_eq_true', List.any_eq_false, Bool.not_eq_true] at h
        exact h entry hentry

theorem initServer_ok {leftFirst : Bool} {param : Parameters} (hports : PortsGiven param)
    {made : ItemRegistry} :
    (∃ app, initServer leftFirst items param = .ok app ∧ app.game.items = made) ↔
      param.commandLineParameters.tickInterval.isSome = true ∧
      param.commandLineParameters.gameDuration.isSome = true ∧
      (param.items.toList.map Prod.snd).foldlM (Parameters.Item.create param.ruleset) items =
        .ok made := by
  obtain ⟨⟨publisher, hpublisher⟩, ⟨puller, hpuller⟩, ⟨agent, hagent⟩, ⟨replier, hreplier⟩⟩ :=
    hports
  unfold initServer
  simp only [bind_eq_ok, pure_eq_ok, valueOf_ok, hpublisher, hpuller, hagent, hreplier,
    Option.some.injEq, exists_eq_left']
  have hrobots : ∀ duration : Int32, ∃ app', param.robots.toList.foldlM
      (Application.addConfiguredRobot leftFirst)
      { game := param.teams.toList.foldl (fun game name => (game.addTeam name).2)
          { Game.create (seconds duration.toUInt32) param.ruleset with items }
        availablePorts := param.videoPorts, state := .created } = .ok app' ∧
      app'.game.items = items := by
    intro duration
    obtain ⟨hitems, hempty⟩ := addTeams_frame param.teams.toList
      { Game.create (seconds duration.toUInt32) param.ruleset with items }
    obtain ⟨app', hok, hsame⟩ := @configuredRobots_ok leftFirst
      { game := _, availablePorts := param.videoPorts, state := .created } param.robots hempty
    exact ⟨app', hok, hsame.trans hitems⟩
  constructor
  · rintro ⟨_, ⟨_, htick, duration, hduration, app', happ', items', hitems', rfl⟩, rfl⟩
    obtain ⟨app'', happ'', hsame⟩ := hrobots duration
    cases happ'.symm.trans happ''
    rw [hsame] at hitems'
    exact ⟨by simp [htick], by simp [hduration], hitems'⟩
  · rintro ⟨htick, hduration, hitems⟩
    obtain ⟨interval, htick⟩ := Option.isSome_iff_exists.mp htick
    obtain ⟨duration, hduration⟩ := Option.isSome_iff_exists.mp hduration
    obtain ⟨app', happ', hsame⟩ := hrobots duration
    refine ⟨_, ⟨interval, htick, duration, hduration, app', happ', made, ?_, rfl⟩, rfl⟩
    rw [hsame]
    exact hitems

/-- Accepted parameters can be made into a game, all items being found by
their codes, exactly when the tick interval and the duration are given, every
item is a flag with a colour or an RFID, and no two items share one. -/
theorem configuration_instantiates_iff (leftFirst : Bool) (param : Parameters)
    (h : checkParametersConsistency param = .ok true) :
    param.Instantiates leftFirst ↔ param.Buildable := by
  obtain ⟨hports, hbad⟩ := checkParametersConsistency_ok h
  constructor
  · rintro ⟨app, happ, hfound⟩
    obtain ⟨htick, hduration, hitems⟩ := (initServer_ok hports).mp ⟨app, happ, rfl⟩
    have hcreated : ∀ item ∈ param.items.toList.map Prod.snd, item.type = "flag".toList ∧
        (item.rfids.isEmpty = true → item.colour ≠ -1) := by
      intro item hmem
      obtain ⟨_, _, hcreate⟩ := Lib.foldlM_each hitems item hmem
      exact create_ok hcreate
    exact ⟨htick, hduration, fun item hmem => (hcreated item hmem).1,
      fun item hmem => (hcreated item hmem).2,
      distinct_of_found hbad hfound⟩
  · intro hbuild
    obtain ⟨made, hmade, hinstalled⟩ := @installed_of_buildable param.ruleset _
      hbuild.flags hbuild.coded hbad hbuild.distinct
    obtain ⟨app, happ, hitems⟩ := (initServer_ok hports).mpr
      ⟨hbuild.tickInterval, hbuild.gameDuration, hmade⟩
    exact ⟨app, happ, fun ref item hitem => hitems ▸ hinstalled.found ref item hitem⟩

-- ---------------------------------------------------------------------------
-- Two configurations
-- ---------------------------------------------------------------------------

def givenPorts : CommandLineParameters where
  pullerPort := some 9001
  publisherPort := some 9000
  agentPort := some 9003
  replierPort := some 9004
  tickInterval := some 500
  gameDuration := some 300
  dryRun := some false
  broadcast := some true
  broadcastPort := some 9080

def flagOfColour (name : String) (colour : Int) : Parameters.Item :=
  { name := name.toList, type := "flag".toList, rfids := ∅, colour }

def twoColours (colour colour' : Int) : Parameters where
  commandLineParameters := givenPorts
  items := ((∅ : Lib.Map Str Parameters.Item).insert "i1".toList (flagOfColour "red" colour)).insert
    "i2".toList (flagOfColour "blue" colour')
  ruleset := oneTeam

theorem configuration_instantiates_iff_twoColours :
    checkParametersConsistency (twoColours 2 3) = .ok true ∧
      (twoColours 2 3).Instantiates true := by
  refine ⟨rfl, (configuration_instantiates_iff true (twoColours 2 3) rfl).mpr ?_⟩
  have hitems : (twoColours 2 3).items.toList.map Prod.snd =
      [flagOfColour "red" 2, flagOfColour "blue" 3] := rfl
  refine ⟨rfl, rfl, ?_, ?_, ?_⟩ <;> rw [hitems]
  · simp [flagOfColour]
  · simp [flagOfColour]
  · simp [flagOfColour, Parameters.Item.SharesNoCode]

/-- Two flags of one colour are accepted; the second one is a null pointer,
which is read. -/
theorem accepted_not_instantiated :
    checkParametersConsistency (twoColours 2 2) = .ok true ∧
      initServer true {} (twoColours 2 2) = .error .nullPointer ∧
      ¬(twoColours 2 2).Instantiates true := by
  refine ⟨rfl, rfl, ?_⟩
  rintro ⟨app, happ, -⟩
  cases happ

end ServerGame
