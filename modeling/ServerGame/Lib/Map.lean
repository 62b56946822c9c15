import ServerGame.Lib.Checked

/-!
# Ordered maps

`Map κ α` is what `std::map` is: entries in increasing key order, at most one
for a key. `insertIfNew` is `insert`, which keeps an older entry; `insert` is
the assignment through `operator[]`. Added here: which values a map holds, and
the scans for the first or the last entry that passes a test.
-/

namespace ServerGame.Lib

abbrev Map (κ : Type u) (α : Type v) [Ord κ] := Std.ExtTreeMap κ α compare

end ServerGame.Lib

namespace Std.ExtTreeMap

variable {κ : Type u} {α : Type v} {cmp : κ → κ → Ordering} [Std.TransCmp cmp]

def holds [BEq α] (m : Std.ExtTreeMap κ α cmp) (a : α) : Bool :=
  m.toList.any fun entry => entry.2 == a

def findFirst (m : Std.ExtTreeMap κ α cmp) (p : α → Bool) : Option (κ × α) :=
  m.toList.find? fun entry => p entry.2

/-- The value of the last entry, in key order, that passes the test: what a
loop without `break` is left with. -/
def findLast (m : Std.ExtTreeMap κ α cmp) (p : α → Bool) : Option α :=
  m.toList.foldl (fun found entry => if p entry.2 then some entry.2 else found) none

variable [Std.LawfulEqCmp cmp] {m : Std.ExtTreeMap κ α cmp}

theorem holds_iff [BEq α] [LawfulBEq α] {a : α} : m.holds a = true ↔ ∃ k : κ, m[k]? = some a := by
  simp only [holds, List.any_eq_true, beq_iff_eq, Prod.exists, mem_toList_iff_getElem?_eq_some]
  constructor
  · rintro ⟨k, _, hk, rfl⟩; exact ⟨k, hk⟩
  · rintro ⟨k, hk⟩; exact ⟨k, a, hk, rfl⟩

theorem holds_of_getElem? [BEq α] [LawfulBEq α] {k : κ} {a : α} (h : m[k]? = some a) :
    m.holds a = true := holds_iff.mpr ⟨k, h⟩

theorem findFirst_some {p : α → Bool} {entry : κ × α} (h : m.findFirst p = some entry) :
    m[entry.1]? = some entry.2 ∧ p entry.2 = true := by
  unfold findFirst at h
  have hp := List.find?_some h
  exact ⟨mem_toList_iff_getElem?_eq_some.mp (List.mem_of_find?_eq_some h), hp⟩

theorem findFirst_none {p : α → Bool} :
    m.findFirst p = none ↔ ∀ (k : κ) (a : α), m[k]? = some a → p a = false := by
  simp only [findFirst, List.find?_eq_none, Prod.forall, mem_toList_iff_getElem?_eq_some,
    Bool.not_eq_true]

theorem foldl_last_some {p : α → Bool} {xs : List (κ × α)} {init : Option α} {a : α}
    (h : xs.foldl (fun found entry => if p entry.2 then some entry.2 else found) init = some a) :
    init = some a ∨ ∃ entry ∈ xs, entry.2 = a ∧ p a = true := by
  induction xs generalizing init with
  | nil => exact .inl h
  | cons x xs ih =>
    rcases ih h with h | ⟨entry, hm, ha⟩
    · simp only at h
      split at h
      · next hp =>
        cases h
        exact .inr ⟨x, by simp, rfl, hp⟩
      · exact .inl h
    · exact .inr ⟨entry, List.mem_cons_of_mem _ hm, ha⟩

theorem foldl_last_none {p : α → Bool} {xs : List (κ × α)} {init : Option α} :
    xs.foldl (fun found entry => if p entry.2 then some entry.2 else found) init = none ↔
      init = none ∧ ∀ entry ∈ xs, p entry.2 = false := by
  induction xs generalizing init with
  | nil => simp
  | cons x xs ih =>
    rw [List.foldl_cons, ih]
    by_cases hx : p x.2 = true <;> simp [hx]

theorem foldl_last_start {p : α → Bool} (xs : List (κ × α)) (a : α) :
    ∃ last, xs.foldl (fun found entry => if p entry.2 then some entry.2 else found) (some a) =
        some last ∧
      (last = a ∨ ∃ entry ∈ xs, entry.2 = last ∧ p last = true) := by
  cases h : xs.foldl (fun found entry => if p entry.2 then some entry.2 else found) (some a) with
  | none => cases (foldl_last_none.mp h).1
  | some last =>
    refine ⟨last, rfl, ?_⟩
    rcases foldl_last_some h with h | h
    · exact .inl (Option.some.inj h).symm
    · exact .inr h

theorem findLast_some {p : α → Bool} {a : α} (h : m.findLast p = some a) :
    ∃ k : κ, m[k]? = some a ∧ p a = true := by
  rcases foldl_last_some h with h | ⟨entry, hm, rfl, hp⟩
  · cases h
  · exact ⟨entry.1, mem_toList_iff_getElem?_eq_some.mp hm, hp⟩

theorem findLast_none {p : α → Bool} :
    m.findLast p = none ↔ ∀ (k : κ) (a : α), m[k]? = some a → p a = false := by
  simp only [findLast, foldl_last_none, true_and, Prod.forall, mem_toList_iff_getElem?_eq_some]

theorem getElem?_insert_eq_some {k k' : κ} {v a : α} :
    (m.insert k v)[k']? = some a ↔ (k = k' ∧ v = a) ∨ (k ≠ k' ∧ m[k']? = some a) := by
  rw [getElem?_insert]
  by_cases h : k = k' <;> simp [h]

theorem getElem?_insertIfNew_eq_some {k k' : κ} {v a : α} :
    (m.insertIfNew k v)[k']? = some a ↔
      (k = k' ∧ k ∉ m ∧ v = a) ∨ m[k']? = some a := by
  rw [getElem?_insertIfNew]
  by_cases h : k = k'
  · subst h
    by_cases hm : k ∈ m
    · simp [hm]
    · simp [hm]
  · simp [h]

theorem getElem?_erase_eq_some {k k' : κ} {a : α} :
    (m.erase k)[k']? = some a ↔ k ≠ k' ∧ m[k']? = some a := by
  rw [getElem?_erase]
  by_cases h : k = k' <;> simp [h]

theorem erase_comm {k k' : κ} : (m.erase k).erase k' = (m.erase k').erase k := by
  refine ext_getElem? fun i => Option.ext fun a => ?_
  simp only [getElem?_erase_eq_some]
  exact and_left_comm

/-- Keys inserted one after the other, each only where there is none yet. -/
theorem getElem?_foldl_insertAbsent_eq_some {ks : List κ} {k : κ} {v a : α} :
    (ks.foldl (fun m k => if k ∈ m then m else m.insert k v) m)[k]? = some a ↔
      (k ∈ ks ∧ k ∉ m ∧ v = a) ∨ m[k]? = some a := by
  induction ks generalizing m with
  | nil => simp
  | cons k' ks ih =>
    have hsame : (if k' ∈ m then m else m.insert k' v) = m.insertIfNew k' v := by
      refine ext_getElem? fun k => ?_
      rw [getElem?_insertIfNew]
      by_cases hm : k' ∈ m
      · simp [hm]
      · simp only [hm, ↓reduceIte, getElem?_insert, not_false_eq_true, and_true]
    rw [List.foldl_cons, ih, hsame, getElem?_insertIfNew_eq_some, mem_insertIfNew]
    by_cases hk : k' = k
    · subst hk
      simp
    · simp [hk, Ne.symm hk]

end Std.ExtTreeMap
