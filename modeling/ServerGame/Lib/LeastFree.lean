import Mathlib

/-!
# The least free index

Among names that differ for different indexes, one of the first `n + 1` is not
in a list of `n` names. What a search from 0 upwards finds is the least one.
-/

namespace ServerGame.Lib

variable {α : Type*} {name : Nat → α} {used : List α}

/-- The index is the first one whose name is not used. -/
structure LeastFree (name : Nat → α) (used : List α) (n : Nat) : Prop where
  free : name n ∉ used
  taken : ∀ m < n, name m ∈ used

theorem exists_free (hname : Function.Injective name) (used : List α) :
    ∃ n ≤ used.length, name n ∉ used := by
  by_contra hnone
  push Not at hnone
  have hsub : (List.range (used.length + 1)).map name ⊆ used := by
    intro a ha
    obtain ⟨n, hn, rfl⟩ := List.mem_map.mp ha
    exact hnone n (Nat.le_of_lt_succ (List.mem_range.mp hn))
  have hnodup : ((List.range (used.length + 1)).map name).Nodup := List.nodup_range.map hname
  have hlength := (hnodup.subperm hsub).length_le
  simp at hlength

theorem exists_leastFree (hname : Function.Injective name) (used : List α) :
    ∃ n ≤ used.length, LeastFree name used n := by
  classical
  obtain ⟨m, hm, hfree⟩ := exists_free hname used
  have hex : ∃ n, name n ∉ used := ⟨m, hfree⟩
  refine ⟨Nat.find hex, (Nat.find_min' hex hfree).trans hm, Nat.find_spec hex, fun k hk => ?_⟩
  simpa using Nat.find_min hex hk

end ServerGame.Lib
