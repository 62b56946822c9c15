import ServerGame.ConfigFile
import ServerGame.ItemTables
import ServerGame.Lib.Runs

/-!
# RFID lists

The list of an item is split at each blank, while `Tokenize` passes over several
of them. What stands between two neighbouring blanks is an RFID as well, the
empty one, and a robot can read it.
-/

namespace ServerGame

open Lib (Map Run SingleSpaced bind_eq_ok isSpace pure_eq_ok)

-- ---------------------------------------------------------------------------
-- What is promised
-- ---------------------------------------------------------------------------

/-- What may count as a space: the character a list is split at does, and all of
them are trimmed. -/
structure Spacing (space : Char → Bool) : Prop where
  blank : space ' ' = true
  trimmed : ∀ c, space c = true → isSpace c = true

/-- Without token compression: what stands between two separators is a token,
however near they are. -/
structure SplitsAtBlanks (split : Str → List Str) : Prop where
  ne_nil : ∀ text, split text ≠ []
  free : ∀ text, ∀ token ∈ split text, ' ' ∉ token
  joined : ∀ text, [' '].intercalate (split text) = text

theorem SplitsAtBlanks.eq_splitOn {split : Str → List Str} (h : SplitsAtBlanks split)
    (text : Str) : split text = text.splitOn ' ' := by
  have hsplit := List.splitOn_intercalate ' ' (h.free text) (h.ne_nil text)
  rw [h.joined] at hsplit
  exact hsplit.symm

def ServerRobotState.withoutEmptyRfids (message : ServerRobotState) : ServerRobotState :=
  { message with rfid := message.rfid.filter (·.rfid ≠ []) }

/-- The RFIDs of each item are the words of its text. No item is registered
under the empty one, and in a run without further items readings of it do not
count. -/
structure ReadsWords (space : Char → Bool) (file : IniFile) (param : Parameters) : Prop where
  words : ∀ key item text, param.items[key]? = some item →
    file.text (key ++ ".rfid".toList) = some text → ∀ rfid, rfid ∈ item.rfids ↔ Run space text rfid
  unregistered : ∀ leftFirst app, initServer leftFirst {} param = .ok app →
    app.game.items.getItemByRfid [] = none
  untouched : ∀ leftFirst app, initServer leftFirst {} param = .ok app →
    ∀ env events app' outputs, Server.run env app events = .ok (app', outputs) →
      app'.game.items.allItems.length = app.game.items.allItems.length →
      ∀ id message, ProcessRobotState.execute env id message app'.game =
        ProcessRobotState.execute env id message.withoutEmptyRfids app'.game

-- ---------------------------------------------------------------------------
-- One text
-- ---------------------------------------------------------------------------

section
variable {env : Externals} {text : Str}

theorem mem_splitRfids (hsplit : SplitsAtBlanks env.splitAtBlanks) {rfid : Str} :
    rfid ∈ splitRfids env text ↔ text ≠ [] ∧ rfid ∈ text.splitOn ' ' := by
  unfold splitRfids
  rw [hsplit.eq_splitOn]
  split
  · next h => simp [List.isEmpty_iff.mp h]
  · next h =>
    have hne : text ≠ [] := fun heq => h (List.isEmpty_iff.mpr heq)
    simp [hne, Std.ExtTreeSet.mem_ofList]

theorem splitRfids_iff (hsplit : SplitsAtBlanks env.splitAtBlanks) {space : Char → Bool}
    (hspace : Spacing space) (hhead : ∀ c ∈ text.head?, isSpace c = false)
    (hlast : ∀ c ∈ text.getLast?, isSpace c = false) :
    (∀ rfid, rfid ∈ splitRfids env text ↔ Run space text rfid) ↔
      SingleSpaced space ' ' text := by
  have hfree : ∀ c, isSpace c = false → space c = false := by
    intro c hc
    by_contra h
    simp [hspace.trimmed c (by simpa using h)] at hc
  by_cases hne : text = []
  · subst hne
    refine iff_of_true (fun rfid => ?_) .nil
    rw [mem_splitRfids hsplit]
    refine iff_of_false (fun h => h.1 rfl) fun hrun => ?_
    obtain ⟨before, after, hempty, -, -⟩ := hrun.bounded
    have hparts : before = [] ∧ rfid = [] ∧ after = [] := by simpa using hempty.symm
    exact hrun.ne_nil hparts.2.1
  · simp only [mem_splitRfids hsplit, hne, ne_eq, not_false_eq_true, true_and]
    exact Lib.splitOn_runs_iff hspace.blank (fun c hc => hfree c (hhead c hc))
      (fun c hc => hfree c (hlast c hc)) hne

end

-- ---------------------------------------------------------------------------
-- The items of a file
-- ---------------------------------------------------------------------------

section
variable {env : Externals} {file : IniFile} {param param' : Parameters} {key : Str}
  {item : Parameters.Item}

theorem Parameters.Item.parse_rfids (h : Parameters.Item.parse env file key = some item) :
    ∃ text, file.text (key ++ ".rfid".toList) = some text ∧
      item.rfids = splitRfids env text := by
  simp only [Parameters.Item.parse, Option.bind_eq_bind, Option.bind_eq_some_iff,
    Option.pure_def, Option.some.injEq] at h
  obtain ⟨name, -, type, -, rfid, hrfid, colour, -, rfl⟩ := h
  exact ⟨rfid, hrfid, rfl⟩

theorem parseItems_get {keys : List Str} {items items' : Map Str Parameters.Item}
    (h : keys.foldlM (parseItem env file) items = some items')
    (hitem : items'[key]? = some item) :
    items[key]? = some item ∨ Parameters.Item.parse env file key = some item := by
  induction keys generalizing items with
  | nil =>
    cases h
    exact .inl hitem
  | cons key' keys ih =>
    rw [List.foldlM_cons] at h
    obtain ⟨items₁, hfirst, hrest⟩ := Option.bind_eq_some_iff.mp h
    obtain ⟨item', hparse, hinsert⟩ := Option.bind_eq_some_iff.mp hfirst
    cases hinsert
    rcases ih hrest with hold | hnew
    · rcases Std.ExtTreeMap.getElem?_insert_eq_some.mp hold with ⟨rfl, rfl⟩ | ⟨-, hold⟩
      · exact .inr hparse
      · exact .inl hold
    · exact .inr hnew

theorem parseTeams_items {teams : List Str}
    (h : teams.foldlM (parseTeam file) param = some param') : param'.items = param.items := by
  rw [parseTeams_frame h]

theorem parseGameConfigFromFile_items (hnew : param.items = ∅)
    (h : parseGameConfigFromFile env (some file) param = some param')
    (hitem : param'.items[key]? = some item) : Parameters.Item.parse env file key = some item := by
  simp only [parseGameConfigFromFile, Option.bind_eq_bind, Option.bind_some,
    Option.bind_eq_some_iff, Option.pure_def, Option.some.injEq] at h
  obtain ⟨_, -, _, -, param₁, hteams, items, hitems, _, -, rfl⟩ := h
  rcases parseItems_get hitems hitem with hold | hparse
  · rw [parseTeams_items hteams, hnew] at hold
    simp at hold
  · exact hparse

end

-- ---------------------------------------------------------------------------
-- The registry
-- ---------------------------------------------------------------------------

section
variable {items items' : ItemRegistry} {param : Parameters}

theorem Created.rfids {item : Parameters.Item} {found : Option ItemRef} {rfid : Str}
    (h : Created items item (found, items')) (hmem : rfid ∈ items'.itemsByRfid) :
    rfid ∈ items.itemsByRfid ∨ rfid ∈ item.rfids := by
  cases h with
  | refused => exact .inl hmem
  | byColour _ _ _ _ hrfids => exact .inl (hrfids ▸ hmem)
  | byRfids _ _ _ _ _ hrfids =>
    obtain ⟨ref, hlook⟩ := mem_itemsByRfid.mp hmem
    rcases (hrfids rfid ref).mp hlook with ⟨hown, -, -⟩ | hold
    · exact .inr hown
    · exact .inl (mem_itemsByRfid.mpr ⟨ref, hold⟩)

theorem createItems_rfids {ruleset : Ruleset} {entries : List Parameters.Item} {rfid : Str}
    (h : entries.foldlM (Parameters.Item.create ruleset) items = .ok items')
    (hmem : rfid ∈ items'.itemsByRfid) :
    rfid ∈ items.itemsByRfid ∨ ∃ item ∈ entries, rfid ∈ item.rfids := by
  induction entries generalizing items with
  | nil =>
    cases h
    exact .inl hmem
  | cons item entries ih =>
    rw [List.foldlM_cons] at h
    obtain ⟨items₁, hfirst, hrest⟩ := bind_eq_ok.mp h
    rcases ih hrest with hold | ⟨item', hitem', hown⟩
    · have hcreated := created items item ruleset
      unfold Parameters.Item.create at hfirst
      unfold ItemRegistry.createFrom at hcreated
      generalize items.createItem item.type item.name item.rfids item.colour ruleset = made
        at hfirst hcreated
      obtain ⟨found, items₂⟩ := made
      cases found with
      | none => cases hfirst
      | some ref =>
        cases hfirst
        rcases hcreated.rfids hold with hold | hown
        · exact .inl hold
        · exact .inr ⟨item, by simp, hown⟩
    · exact .inr ⟨item', by simp [hitem'], hown⟩

theorem initServer_items {leftFirst : Bool} {app : Application}
    (h : initServer leftFirst items param = .ok app) :
    (param.items.toList.map Prod.snd).foldlM (Parameters.Item.create param.ruleset) items =
      .ok app.game.items := by
  have hports : PortsGiven param := by
    unfold initServer at h
    simp only [bind_eq_ok, valueOf_ok] at h
    obtain ⟨agent, hagent, publisher, hpublisher, puller, hpuller, replier, hreplier, -⟩ := h
    exact ⟨⟨_, hpublisher⟩, ⟨_, hpuller⟩, ⟨_, hagent⟩, ⟨_, hreplier⟩⟩
  exact ((initServer_ok hports).mp ⟨app, h, rfl⟩).2.2

theorem initServer_unregistered {leftFirst : Bool} {app : Application} {rfid : Str}
    (h : initServer leftFirst {} param = .ok app)
    (hnone : ∀ (key : Str) (item : Parameters.Item),
      param.items[key]? = some item → rfid ∉ item.rfids) :
    app.game.items.getItemByRfid rfid = none := by
  by_contra hfound
  obtain ⟨ref, hfound⟩ := Option.ne_none_iff_exists'.mp hfound
  rcases createItems_rfids (initServer_items h) (mem_itemsByRfid.mpr ⟨ref, hfound⟩) with
    hempty | ⟨item, hitem, hown⟩
  · simp at hempty
  · obtain ⟨⟨key, item⟩, hentry, rfl⟩ := List.mem_map.mp hitem
    exact hnone key item (Std.ExtTreeMap.mem_toList_iff_getElem?_eq_some.mp hentry) hown

end

-- ---------------------------------------------------------------------------
-- Readings
-- ---------------------------------------------------------------------------

namespace ProcessRobotState

variable {id : Str} {scan scan' : Scan} {rfid : Rfid}

theorem lookForRfid_unknown (h : scan.game.items.getItemByRfid rfid.rfid = none) :
    lookForRfid id scan rfid = .ok scan := by
  simp only [lookForRfid, h]

theorem lookForRfid_codes (h : lookForRfid id scan rfid = .ok scan') :
    SameCodes scan.game.items scan'.game.items := by
  unfold lookForRfid at h
  split at h
  · cases h
    exact ⟨rfl, rfl⟩
  · next item _ =>
    have hvisit : (scan.visit item).game = scan.game := by
      unfold Scan.visit
      split <;> rfl
    split at h <;>
      (simp only [Scan.call, bind_eq_ok, pure_eq_ok, hvisit] at h
       obtain ⟨game₁, hcall, rfl⟩ := h
       exact .handleContactCall hcall)

theorem foldlM_lookForRfid_filter {code : Str}
    (hnone : scan.game.items.getItemByRfid code = none) (rfids : List Rfid) :
    (rfids.filter (·.rfid ≠ code)).foldlM (lookForRfid id) scan =
      rfids.foldlM (lookForRfid id) scan := by
  induction rfids generalizing scan with
  | nil => rfl
  | cons rfid rfids ih =>
    by_cases hcode : rfid.rfid = code
    · rw [List.filter_cons_of_neg (by simp [hcode]), List.foldlM_cons,
        lookForRfid_unknown (hcode ▸ hnone), Lib.ok_bind, ih hnone]
    · rw [List.filter_cons_of_pos (by simp [hcode]), List.foldlM_cons, List.foldlM_cons]
      cases hlook : lookForRfid id scan rfid with
      | error fault => rfl
      | ok scan' =>
        refine ih ?_
        rw [ItemRegistry.getItemByRfid, (lookForRfid_codes hlook).byRfid]
        exact hnone

theorem execute_withoutEmptyRfids {game : Game} (hnone : game.items.getItemByRfid [] = none)
    (env : Externals) (message : ServerRobotState) :
    execute env id message game = execute env id message.withoutEmptyRfids game := by
  unfold execute ServerRobotState.withoutEmptyRfids
  rw [@foldlM_lookForRfid_filter id { game } [] hnone message.rfid]
  rfl

end ProcessRobotState

-- ---------------------------------------------------------------------------
-- The lists of a file
-- ---------------------------------------------------------------------------

theorem item_words_iff {env : Externals} (hsplit : SplitsAtBlanks env.splitAtBlanks)
    {space : Char → Bool} (hspace : Spacing space) {file : IniFile} (htrim : file.Trimmed)
    {param param' : Parameters} (hnew : param.items = ∅)
    (hparse : parseGameConfigFromFile env (some file) param = some param') {key text : Str}
    {item : Parameters.Item} (hitem : param'.items[key]? = some item)
    (htext : file.text (key ++ ".rfid".toList) = some text) :
    (∀ rfid, rfid ∈ item.rfids ↔ Run space text rfid) ↔ SingleSpaced space ' ' text := by
  obtain ⟨text', htext', hrfids⟩ := Parameters.Item.parse_rfids
    (parseGameConfigFromFile_items hnew hparse hitem)
  cases htext'.symm.trans htext
  obtain ⟨hhead, hlast⟩ := htrim _ _ htext
  rw [hrfids]
  exact splitRfids_iff hsplit hspace hhead hlast

/-- The lists are read as words, with all that follows from it, exactly when
they are written with one blank between any two words. -/
theorem rfids_words_iff (env : Externals) (hsplit : SplitsAtBlanks env.splitAtBlanks)
    (space : Char → Bool) (hspace : Spacing space) (file : IniFile) (htrim : file.Trimmed)
    (param param' : Parameters) (hnew : param.items = ∅)
    (hparse : parseGameConfigFromFile env (some file) param = some param') :
    ReadsWords space file param' ↔
      ∀ key ∈ param'.items, ∀ text, file.text (key ++ ".rfid".toList) = some text →
        SingleSpaced space ' ' text := by
  constructor
  · intro h key hkey text htext
    obtain ⟨item, hitem⟩ := Option.isSome_iff_exists.mp
      (Std.ExtTreeMap.mem_iff_isSome_getElem?.mp hkey)
    exact (item_words_iff hsplit hspace htrim hnew hparse hitem htext).mp
      (h.words key item text hitem htext)
  · intro h
    have hwords : ∀ key item text, param'.items[key]? = some item →
        file.text (key ++ ".rfid".toList) = some text →
        ∀ rfid, rfid ∈ item.rfids ↔ Run space text rfid := by
      intro key item text hitem htext
      have hkey : key ∈ param'.items := Std.ExtTreeMap.mem_iff_isSome_getElem?.mpr
        (Option.isSome_iff_exists.mpr ⟨item, hitem⟩)
      exact (item_words_iff hsplit hspace htrim hnew hparse hitem htext).mpr (h key hkey text htext)
    have hunregistered : ∀ leftFirst app, initServer leftFirst {} param' = .ok app →
        app.game.items.getItemByRfid [] = none := by
      intro leftFirst app happ
      refine initServer_unregistered happ fun key item hitem hmem => ?_
      obtain ⟨text, htext, -⟩ := Parameters.Item.parse_rfids
        (parseGameConfigFromFile_items hnew hparse hitem)
      exact ((hwords key item _ hitem htext []).mp hmem).ne_nil rfl
    refine ⟨hwords, hunregistered, ?_⟩
    intro leftFirst app happ env events app' outputs hrun hlength id message
    have hcodes := ((Server.run_grows hrun).tables hlength).codes
    refine ProcessRobotState.execute_withoutEmptyRfids ?_ env message
    rw [ItemRegistry.getItemByRfid, hcodes.byRfid]
    exact hunregistered leftFirst app happ

-- ---------------------------------------------------------------------------
-- Two words
-- ---------------------------------------------------------------------------

def oneItem (rfid : String) : IniFile :=
  .ofList [("game.ruleset".toList, "rules".toList), ("rules.game_name".toList, "game".toList),
    ("game.items".toList, "x".toList), ("x.name".toList, "flag".toList),
    ("x.type".toList, "flag".toList), ("x.rfid".toList, rfid.toList),
    ("x.colour".toList, "-1".toList)]

theorem oneItem_trimmed : (oneItem "A B").Trimmed := by
  refine IniFile.ofList_trimmed fun entry hentry => ?_
  simp only [List.mem_cons, List.not_mem_nil, or_false] at hentry
  rcases hentry with rfl | rfl | rfl | rfl | rfl | rfl | rfl <;>
    exact ⟨fun c hc => by cases hc; rfl, fun c hc => by cases hc; rfl⟩

theorem SplitsAtBlanks.plain : SplitsAtBlanks Externals.plain.splitAtBlanks where
  ne_nil text := List.splitOn_ne_nil ' ' text
  free _ token htoken hblank := by simpa using (Lib.mem_splitOn_iff.mp htoken).free _ hblank
  joined _ := List.intercalate_splitOn ' '

def defaultParameters : Parameters where
  commandLineParameters := CommandLineParameters.orDefaults {}
  ruleset := oneTeam

theorem rfids_words_iff_oneBlank :
    ∃ param', parseGameConfigFromFile .plain (some (oneItem "A B")) defaultParameters =
        some param' ∧ ReadsWords isSpace (oneItem "A B") param' := by
  refine ⟨_, rfl, (rfids_words_iff .plain .plain isSpace ⟨rfl, fun _ h => h⟩ (oneItem "A B")
    oneItem_trimmed defaultParameters _ rfl rfl).mpr fun key hkey text htext => ?_⟩
  rcases Std.ExtTreeMap.mem_insert.mp hkey with hkey | hkey
  · have hx : "x".toList = key := Std.LawfulEqCmp.eq_of_compare hkey
    subst hx
    have htext : some "A B".toList = some text := htext
    cases htext
    unfold SingleSpaced
    decide
  · simp [defaultParameters] at hkey

/-- With two blanks the empty RFID leads to the flag. -/
theorem rfids_twoBlanks :
    ∃ param' app, parseGameConfigFromFile .plain (some (oneItem "A  B")) defaultParameters =
        some param' ∧ initServer true {} param' = .ok app ∧
      app.game.items.getItemByRfid [] = some 0 ∧
      ¬ReadsWords isSpace (oneItem "A  B") param' := by
  refine ⟨_, _, rfl, rfl, rfl, fun h => ?_⟩
  exact Option.some_ne_none 0 (h.unregistered true _ rfl)

end ServerGame
