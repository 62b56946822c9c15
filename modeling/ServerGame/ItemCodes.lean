import ServerGame.Instantiation

/-!
# The codes of the items

`Item::CreateItem` file a new item under its codes. A colour that is taken is
refused; an RFID that is taken is passed over, and the item is listed without
it. The two tables and the list are static, so they are looked at here on their
own, call after call.
-/

namespace ServerGame

variable {items items' : ItemRegistry} {item : Parameters.Item} {ruleset : Ruleset}
  {ref : ItemRef}

-- ---------------------------------------------------------------------------
-- What is promised
-- ---------------------------------------------------------------------------

/-- Every pointer in the tables is older than the next item. -/
structure ItemRegistry.Sound (items : ItemRegistry) : Prop where
  byRfid : ∀ rfid ref, items.getItemByRfid rfid = some ref → ref < items.allItems.length
  byColour : ∀ colour ref, items.getItemByColour colour = some ref → ref < items.allItems.length

/-- The item is the last one listed, its codes lead to it, and all other lookups
are what they were. -/
structure Filed (items items' : ItemRegistry) (ref : ItemRef) (item : Parameters.Item) : Prop where
  appended : ∃ it, items'.allItems = items.allItems ++ [it]
  last : ref = items.allItems.length
  found : items'.Found ref item
  otherRfids : ∀ rfid, rfid ∉ item.rfids → items'.getItemByRfid rfid = items.getItemByRfid rfid
  otherColours : ∀ colour, (item.rfids.isEmpty = true → colour ≠ item.colour) →
    items'.getItemByColour colour = items.getItemByColour colour

def ItemRegistry.createFrom (items : ItemRegistry) (item : Parameters.Item) (ruleset : Ruleset) :
    Option ItemRef × ItemRegistry :=
  items.createItem item.type item.name item.rfids item.colour ruleset

def AllOrNothing (items : ItemRegistry) (item : Parameters.Item) (ruleset : Ruleset) : Prop :=
  items.createFrom item ruleset = (none, items) ∨
    ∃ ref items', items.createFrom item ruleset = (some ref, items') ∧
      Filed items items' ref item

def RfidsFree (items : ItemRegistry) (item : Parameters.Item) : Prop :=
  item.type = "flag".toList → item.colour = -1 → ∀ rfid ∈ item.rfids, rfid ∉ items.itemsByRfid

def ItemRegistry.Complete (items : ItemRegistry) : Prop :=
  ∀ (ref : Nat) it, items.allItems[ref]? = some it →
    (∀ rfid ∈ it.rfids, items.getItemByRfid rfid = some ref) ∧
      (it.rfids.isEmpty = true → items.getItemByColour it.colour = some ref)

-- ---------------------------------------------------------------------------
-- One call
-- ---------------------------------------------------------------------------

theorem mem_itemsByRfid {rfid : Str} :
    rfid ∈ items.itemsByRfid ↔ ∃ ref, items.getItemByRfid rfid = some ref := by
  rw [Std.ExtTreeMap.mem_iff_isSome_getElem?, Option.isSome_iff_exists]
  exact Iff.rfl

/-- The call refuses and changes nothing, or files the item by its colour, or by
those of its RFIDs that are free. -/
inductive Created (items : ItemRegistry) (item : Parameters.Item) :
    Option ItemRef × ItemRegistry → Prop
  | refused (hunfiled : item.type = "flag".toList → item.colour = -1 → item.rfids = ∅) :
      Created items item (none, items)
  | byColour {items' it} (hempty : item.rfids.isEmpty = true)
      (hfresh : item.colour ∉ items.itemsByColour)
      (hlist : items'.allItems = items.allItems ++ [it])
      (hit : it.name = item.name ∧ it.rfids = item.rfids ∧ it.colour = item.colour)
      (hrfids : items'.itemsByRfid = items.itemsByRfid)
      (hcolours : items'.itemsByColour =
        items.itemsByColour.insert item.colour items.allItems.length) :
      Created items item (some items.allItems.length, items')
  | byRfids {items' it} (hflag : item.type = "flag".toList) (hempty : item.rfids.isEmpty = false)
      (hcolour : item.colour = -1)
      (hlist : items'.allItems = items.allItems ++ [it])
      (hit : it.name = item.name ∧ it.rfids = item.rfids ∧ it.colour = item.colour)
      (hrfids : ∀ rfid ref, items'.getItemByRfid rfid = some ref ↔
        (rfid ∈ item.rfids ∧ rfid ∉ items.itemsByRfid ∧ items.allItems.length = ref) ∨
          items.getItemByRfid rfid = some ref)
      (hcolours : items'.itemsByColour = items.itemsByColour) :
      Created items item (some items.allItems.length, items')

theorem created (items : ItemRegistry) (item : Parameters.Item) (ruleset : Ruleset) :
    Created items item (items.createFrom item ruleset) := by
  unfold ItemRegistry.createFrom ItemRegistry.createItem
  split
  · next hflag =>
    split
    · next hcolour =>
      split
      · exact .refused fun _ _ => Std.ExtTreeSet.isEmpty_iff.mp hcolour.1
      · next hfresh =>
        have hnone : item.rfids = ∅ := Std.ExtTreeSet.isEmpty_iff.mp hcolour.1
        exact .byColour hcolour.1 hfresh rfl ⟨rfl, hnone.symm, rfl⟩ rfl rfl
    · split
      · next hrfids =>
        refine .byRfids hflag (by simpa using hrfids.1) hrfids.2 rfl ⟨rfl, rfl, hrfids.2.symm⟩
          (fun rfid ref => ?_) rfl
        refine Std.ExtTreeMap.getElem?_foldl_insertAbsent_eq_some.trans ?_
        rw [Std.ExtTreeSet.mem_toList]
        exact Iff.rfl
      · next hrfids =>
        refine .refused fun _ hcolour => Std.ExtTreeSet.isEmpty_iff.mp ?_
        simpa [hcolour] using hrfids
  · next hflag => exact .refused fun h => absurd h hflag

theorem Created.filed (h : Created items item (some ref, items'))
    (hfree : RfidsFree items item) : Filed items items' ref item := by
  cases h with
  | @byColour _ it hempty hfresh hlist hit hrfids hcolours =>
    have hnone : item.rfids = ∅ := Std.ExtTreeSet.isEmpty_iff.mp hempty
    refine ⟨⟨it, hlist⟩, rfl, ⟨⟨it, ?_, hit⟩, ?_, ?_⟩, ?_, ?_⟩
    · rw [hlist, List.getElem?_concat_length]
    · simp [hnone]
    · intro _
      rw [ItemRegistry.getItemByColour, hcolours, Std.ExtTreeMap.getElem?_insert_self]
    · intro rfid _
      rw [ItemRegistry.getItemByRfid, hrfids, ItemRegistry.getItemByRfid]
    · intro colour hother
      have hne : item.colour ≠ colour := (hother hempty).symm
      rw [ItemRegistry.getItemByColour, hcolours, Std.ExtTreeMap.getElem?_insert]
      simp [hne, ItemRegistry.getItemByColour]
  | @byRfids _ it hflag hempty hcolour hlist hit hrfids hcolours =>
    refine ⟨⟨it, hlist⟩, rfl, ⟨⟨it, ?_, hit⟩, ?_, ?_⟩, ?_, ?_⟩
    · rw [hlist, List.getElem?_concat_length]
    · intro rfid hmem
      exact (hrfids rfid _).mpr (.inl ⟨hmem, hfree hflag hcolour rfid hmem, rfl⟩)
    · simp [hempty]
    · intro rfid hother
      refine Option.ext fun ref => (hrfids rfid ref).trans ?_
      simp [hother]
    · intro colour _
      rw [ItemRegistry.getItemByColour, hcolours, ItemRegistry.getItemByColour]

theorem Created.rfidsFree (hsound : items.Sound) (h : Created items item (some ref, items'))
    (hfound : ∀ rfid ∈ item.rfids, items'.getItemByRfid rfid = some ref) :
    RfidsFree items item := by
  intro hflag hcolour rfid hmem htaken
  obtain ⟨old, hold⟩ := mem_itemsByRfid.mp htaken
  have hnew := hfound rfid hmem
  cases h with
  | byColour hempty =>
    rw [Std.ExtTreeSet.isEmpty_iff.mp hempty] at hmem
    simp at hmem
  | byRfids _ _ _ _ _ hrfids =>
    have hkept := (hrfids rfid old).mpr (.inr hold)
    cases hkept.symm.trans hnew
    exact Nat.lt_irrefl _ (hsound.byRfid rfid _ hold)

theorem Created.rfidsFree_of_none (h : Created items item (none, items')) :
    RfidsFree items item := by
  intro hflag hcolour rfid hmem
  cases h with
  | refused hunfiled =>
    rw [hunfiled hflag hcolour] at hmem
    simp at hmem

theorem allOrNothing_iff (hsound : items.Sound) :
    AllOrNothing items item ruleset ↔ RfidsFree items item := by
  have hcreated := created items item ruleset
  unfold AllOrNothing
  generalize items.createFrom item ruleset = result at hcreated
  obtain ⟨found, items'⟩ := result
  cases found with
  | none =>
    refine ⟨fun _ => hcreated.rfidsFree_of_none, fun _ => ?_⟩
    cases hcreated
    exact .inl rfl
  | some ref =>
    constructor
    · rintro (h | ⟨ref', items'', h, hfiled⟩)
      · cases h
      · cases h
        exact hcreated.rfidsFree hsound hfiled.found.byRfid
    · intro hfree
      exact .inr ⟨ref, items', rfl, hcreated.filed hfree⟩

-- ---------------------------------------------------------------------------
-- Call after call
-- ---------------------------------------------------------------------------

section
variable {found : Option ItemRef}

theorem Created.keepsRfid (h : Created items item (found, items')) {rfid : Str} {old : ItemRef}
    (hold : items.getItemByRfid rfid = some old) : items'.getItemByRfid rfid = some old := by
  cases h with
  | refused => exact hold
  | byColour _ _ _ _ hrfids => rw [ItemRegistry.getItemByRfid, hrfids]; exact hold
  | byRfids _ _ _ _ _ hrfids => exact (hrfids rfid old).mpr (.inr hold)

theorem Created.keepsColour (h : Created items item (found, items')) {colour : Int}
    {old : ItemRef} (hold : items.getItemByColour colour = some old) :
    items'.getItemByColour colour = some old := by
  cases h with
  | refused => exact hold
  | byColour _ hfresh _ _ _ hcolours =>
    rw [ItemRegistry.getItemByColour, hcolours]
    refine Std.ExtTreeMap.getElem?_insert_eq_some.mpr (.inr ⟨?_, hold⟩)
    rintro rfl
    exact hfresh (Std.ExtTreeMap.mem_iff_isSome_getElem?.mpr
      (Option.isSome_iff_exists.mpr ⟨old, hold⟩))
  | byRfids _ _ _ _ _ _ hcolours => rw [ItemRegistry.getItemByColour, hcolours]; exact hold

theorem Created.sound (h : Created items item (found, items')) (hsound : items.Sound) :
    items'.Sound := by
  cases h with
  | refused => exact hsound
  | byColour _ _ hlist _ hrfids hcolours =>
    refine ⟨fun rfid ref hlook => ?_, fun colour ref hlook => ?_⟩
    · rw [ItemRegistry.getItemByRfid, hrfids] at hlook
      simp only [hlist, List.length_append, List.length_singleton]
      exact Nat.lt_succ_of_lt (hsound.byRfid rfid ref hlook)
    · rw [ItemRegistry.getItemByColour, hcolours] at hlook
      simp only [hlist, List.length_append, List.length_singleton]
      rcases Std.ExtTreeMap.getElem?_insert_eq_some.mp hlook with ⟨-, rfl⟩ | ⟨-, hlook⟩
      · exact Nat.lt_succ_self _
      · exact Nat.lt_succ_of_lt (hsound.byColour colour ref hlook)
  | byRfids _ _ _ hlist _ hrfids hcolours =>
    refine ⟨fun rfid ref hlook => ?_, fun colour ref hlook => ?_⟩
    · simp only [hlist, List.length_append, List.length_singleton]
      rcases (hrfids rfid ref).mp hlook with ⟨-, -, rfl⟩ | hlook
      · exact Nat.lt_succ_self _
      · exact Nat.lt_succ_of_lt (hsound.byRfid rfid ref hlook)
    · rw [ItemRegistry.getItemByColour, hcolours] at hlook
      simp only [hlist, List.length_append, List.length_singleton]
      exact Nat.lt_succ_of_lt (hsound.byColour colour ref hlook)

theorem getElem?_concat_eq_some {xs : List Item} {it it' : Item} {ref : ItemRef}
    (h : (xs ++ [it])[ref]? = some it') : xs[ref]? = some it' ∨ ref = xs.length ∧ it = it' := by
  rcases Nat.lt_or_ge ref xs.length with hlt | hge
  · rw [List.getElem?_append_left hlt] at h
    exact .inl h
  · rw [List.getElem?_append_right hge] at h
    obtain ⟨hlt, hit⟩ := List.getElem?_eq_some_iff.mp h
    have hzero : ref - xs.length = 0 := Nat.lt_one_iff.mp hlt
    simp only [hzero, List.getElem_singleton] at hit
    exact .inr ⟨Nat.le_antisymm (Nat.sub_eq_zero_iff_le.mp hzero) hge, hit⟩

/-- The older items stay found by their codes; the new one is when none of its
RFIDs was taken. -/
theorem Created.complete_iff (hsound : items.Sound) (hcomplete : items.Complete)
    (h : Created items item (found, items')) : items'.Complete ↔ RfidsFree items item := by
  cases found with
  | none =>
    refine ⟨fun _ => h.rfidsFree_of_none, fun _ => ?_⟩
    cases h
    exact hcomplete
  | some new =>
    have hlist : ∃ it, items'.allItems = items.allItems ++ [it] ∧ it.rfids = item.rfids ∧
        it.colour = item.colour ∧ new = items.allItems.length := by
      cases h with
      | byColour _ _ hlist hit => exact ⟨_, hlist, hit.2.1, hit.2.2, rfl⟩
      | byRfids _ _ _ hlist hit => exact ⟨_, hlist, hit.2.1, hit.2.2, rfl⟩
    obtain ⟨it, hlist, hrfids, hcolour, rfl⟩ := hlist
    constructor
    · intro hcomplete'
      have hfound := (hcomplete' items.allItems.length it (by
        rw [hlist, List.getElem?_concat_length])).1
      exact h.rfidsFree hsound (hrfids ▸ hfound)
    · intro hfree ref it' hit'
      rw [hlist] at hit'
      rcases getElem?_concat_eq_some hit' with hold | ⟨rfl, rfl⟩
      · obtain ⟨hbyRfid, hbyColour⟩ := hcomplete ref it' hold
        exact ⟨fun rfid hmem => h.keepsRfid (hbyRfid rfid hmem),
          fun hempty => h.keepsColour (hbyColour hempty)⟩
      · rw [hrfids, hcolour]
        have hfiled := (h.filed hfree).found
        exact ⟨hfiled.byRfid, hfiled.byColour⟩

end

theorem ItemRegistry.Sound.empty : ItemRegistry.Sound {} where
  byRfid rfid ref h := by simp [ItemRegistry.getItemByRfid] at h
  byColour colour ref h := by simp [ItemRegistry.getItemByColour] at h

def ItemRegistry.step (items : ItemRegistry) (call : Parameters.Item × Ruleset) :
    Except Fault (ItemRegistry × Option ItemRef) :=
  .ok ((items.createFrom call.1 call.2).2, (items.createFrom call.1 call.2).1)

theorem ItemRegistry.step_created {call : Parameters.Item × Ruleset} {found : Option ItemRef}
    (h : items.step call = .ok (items', found)) : Created items call.1 (found, items') := by
  cases h
  exact created items call.1 call.2

/-- A call is all or nothing exactly when it does not file a flag by an RFID
that is taken. In a registry that calls have filled each listed item is found by
all of its codes, in all states, exactly when no call did. -/
theorem createItem_allOrNothing_iff (calls : List (Parameters.Item × Ruleset)) :
    (∀ (items : ItemRegistry) (item : Parameters.Item) (ruleset : Ruleset), items.Sound →
      (AllOrNothing items item ruleset ↔ RfidsFree items item)) ∧
    (Lib.AllStates ItemRegistry.step {} calls ItemRegistry.Complete ↔
      Lib.AllSteps ItemRegistry.step {} calls fun items call => RfidsFree items call.1) := by
  refine ⟨fun items item ruleset hsound => allOrNothing_iff hsound, ?_⟩
  have hsound : Lib.AllStates ItemRegistry.step {} calls ItemRegistry.Sound := by
    intro pre post items found _ hrun
    exact Lib.run_invariant ItemRegistry.Sound
      (fun _ _ _ _ _ hs hstep => (ItemRegistry.step_created hstep).sound hs) .empty hrun
  constructor
  · rintro hall pre call post items found rfl hrun
    have hcreated := created items call.1 call.2
    refine (hcreated.complete_iff (hsound _ _ _ _ rfl hrun) (hall _ _ _ _ rfl hrun)).mp ?_
    exact hall (pre ++ [call]) post _ _ (by simp) (Lib.run_snoc.mpr ⟨_, _, _, hrun, rfl, rfl⟩)
  · intro hfree pre post items found heq hrun
    refine (hfree.invariant (P := fun items => items.Sound ∧ items.Complete)
      (fun items call items' found _ hP hC hstep => ?_) ⟨.empty, ?_⟩ pre post items found heq
      hrun).2
    · have hcreated := ItemRegistry.step_created hstep
      exact ⟨hcreated.sound hP.1, (hcreated.complete_iff hP.1 hP.2).mpr hC⟩
    · intro ref it hit
      simp at hit

-- ---------------------------------------------------------------------------
-- Two flags
-- ---------------------------------------------------------------------------

def flagOfRfids (name : String) (rfids : List String) : Parameters.Item where
  name := name.toList
  type := "flag".toList
  rfids := .ofList (rfids.map String.toList)
  colour := -1

theorem createItem_allOrNothing_iff_twoRfids :
    AllOrNothing {} (flagOfRfids "red" ["1", "2"]) oneTeam :=
  ((createItem_allOrNothing_iff []).1 {} (flagOfRfids "red" ["1", "2"]) oneTeam .empty).mpr
    fun _ _ _ _ htaken => by simp at htaken

/-- The second flag is returned and listed, and one of its codes leads to the
first one. -/
theorem shared_rfid_leads_elsewhere :
    ∃ items found, Lib.run ItemRegistry.step {} [(flagOfRfids "red" ["1", "2"], oneTeam)] =
        .ok (items, [found]) ∧
      (items.createFrom (flagOfRfids "blue" ["2", "3"]) oneTeam).1 = some 1 ∧
      (items.createFrom (flagOfRfids "blue" ["2", "3"]) oneTeam).2.getItemByRfid "2".toList =
        some 0 ∧
      (items.createFrom (flagOfRfids "blue" ["2", "3"]) oneTeam).2.getItemByRfid "3".toList =
        some 1 ∧
      ¬AllOrNothing items (flagOfRfids "blue" ["2", "3"]) oneTeam := by
  refine ⟨_, _, rfl, rfl, rfl, rfl, ?_⟩
  rintro (h | ⟨ref, items', h, hfiled⟩)
  · cases h
  · cases h
    have hfound := hfiled.found.byRfid "2".toList (Std.ExtTreeSet.mem_iff_contains.mpr rfl)
    cases hfound

end ServerGame
