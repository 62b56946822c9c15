import ServerGame.Lib.Machine

/-!
# Ranks

A rank that each step pays for from what it had before bounds what a whole run
can spend.
-/

namespace ServerGame.Lib

variable {σ ι ο ε M : Type*} {step : σ → ι → Except ε (σ × ο)} {s s' : σ} {i : ι} {o : ο}
  {is : List ι} {os : List ο} [AddCommMonoid M]

def spent (cost : ι → ο → M) (is : List ι) (os : List ο) : M :=
  ((is.zip os).map fun entry => cost entry.1 entry.2).sum

@[simp] theorem spent_nil {cost : ι → ο → M} : spent cost [] [] = 0 := rfl

@[simp] theorem spent_cons {cost : ι → ο → M} :
    spent cost (i :: is) (o :: os) = cost i o + spent cost is os := rfl

theorem spent_add {cost cost' : ι → ο → M} :
    spent (fun i o => cost i o + cost' i o) is os = spent cost is os + spent cost' is os :=
  List.sum_map_add

theorem spent_flatten {α : Type*} {cost : List α → M} {outs : List (List α)} (hnil : cost [] = 0)
    (happend : ∀ out out', cost (out ++ out') = cost out + cost out')
    (hlength : is.length = outs.length) :
    spent (fun _ out => cost out) is outs = cost outs.flatten := by
  induction is generalizing outs with
  | nil =>
    cases List.length_eq_zero_iff.mp hlength.symm
    exact hnil.symm
  | cons i is ih =>
    cases outs with
    | nil => cases hlength
    | cons out outs =>
      rw [spent_cons, ih (Nat.succ.inj hlength), List.flatten_cons, happend]

/-- As long as some of the stock is left and the steps are quiet, an invariant
holds and the rank pays for the run. What is known of the last state is known of
all of them when steps keep it backwards. -/
theorem spent_le_of_stock [PartialOrder M] [IsOrderedAddMonoid M] (Inv Last : σ → Prop)
    (Quiet : σ → ι → Prop) (stock : σ → ℕ) (gain : ι → ο → ℕ) (rank : σ → M) (cost : ι → ο → M)
    (hlast : ∀ s i s' o, step s i = .ok (s', o) → Last s' → Last s)
    (hstock : ∀ s i s' o, step s i = .ok (s', o) → stock s ≤ gain i o + stock s')
    (hstep : ∀ s i s' o, Inv s → Quiet s i → gain i o < stock s → Last s' →
      step s i = .ok (s', o) → Inv s' ∧ cost i o + rank s' ≤ rank s)
    (hs : Inv s) (hs' : Last s') (hquiet : AllSteps step s is Quiet)
    (hgain : spent gain is os < stock s) (h : run step s is = .ok (s', os)) :
    Inv s' ∧ spent cost is os + rank s' ≤ rank s := by
  suffices hall : Last s ∧ (Inv s → Inv s' ∧ spent cost is os + rank s' ≤ rank s) from hall.2 hs
  clear hs
  induction is generalizing s os with
  | nil =>
    cases run_nil.mp h
    exact ⟨hs', fun hs => ⟨hs, by simp⟩⟩
  | cons i is ih =>
    obtain ⟨s₁, o, os', hi, hrest, rfl⟩ := run_cons.mp h
    obtain ⟨hquiet₁, hquiet⟩ := allSteps_cons.mp hquiet
    rw [spent_cons] at hgain
    have hleft := hstock s i s₁ o hi
    obtain ⟨hlast₁, htail⟩ := ih (hquiet s₁ o hi) (by omega) hrest
    refine ⟨hlast s i s₁ o hi hlast₁, fun hs => ?_⟩
    obtain ⟨hs₁, hcost⟩ := hstep s i s₁ o hs hquiet₁ (by omega) hlast₁ hi
    obtain ⟨hinv, hspent⟩ := htail hs₁
    refine ⟨hinv, ?_⟩
    calc spent cost (i :: is) (o :: os') + rank s'
        = cost i o + (spent cost is os' + rank s') := by rw [spent_cons, add_assoc]
      _ ≤ cost i o + rank s₁ := by gcongr
      _ ≤ rank s := hcost

theorem spent_le [PartialOrder M] [IsOrderedAddMonoid M] (Inv Last : σ → Prop) (rank : σ → M)
    (cost : ι → ο → M) (hlast : ∀ s i s' o, step s i = .ok (s', o) → Last s' → Last s)
    (hstep : ∀ s i s' o, Inv s → Last s' → step s i = .ok (s', o) →
      Inv s' ∧ cost i o + rank s' ≤ rank s)
    (hs : Inv s) (hs' : Last s') (h : run step s is = .ok (s', os)) :
    Inv s' ∧ spent cost is os + rank s' ≤ rank s := by
  have hfree : spent (fun _ _ => 0) is os < 1 := by simp [spent]
  exact spent_le_of_stock Inv Last (fun _ _ => True) (fun _ => 1) (fun _ _ => 0) rank cost hlast
    (fun _ _ _ _ _ => le_rfl) (fun s i s' o hs _ _ hs' hi => hstep s i s' o hs hs' hi) hs hs'
    (fun _ _ _ _ _ _ _ => trivial) hfree h

end ServerGame.Lib
