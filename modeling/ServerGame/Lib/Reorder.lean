import ServerGame.Lib.Machine

/-!
# Runs in another order

Inputs of which any two come to the same state in either order can be taken in
any order. The outputs may differ.
-/

namespace ServerGame.Lib

variable {σ : Type u} {ι : Type v} {ο : Type w} {ε : Type x}
  {step : σ → ι → Except ε (σ × ο)} {P : σ → Prop} {M : ι → Prop}

/-- From the states in `P`, which the inputs in `M` do not leave, two of these
inputs can be exchanged. -/
structure Swaps (step : σ → ι → Except ε (σ × ο)) (P : σ → Prop) (M : ι → Prop) : Prop where
  keeps : ∀ {s i s' o}, P s → M i → step s i = .ok (s', o) → P s'
  swap : ∀ {s i j s₁ s₂ o p}, P s → M i → M j → step s i = .ok (s₁, o) →
    step s₁ j = .ok (s₂, p) → ∃ t o' p', step s j = .ok (t, p') ∧ step t i = .ok (s₂, o')

theorem Swaps.run_of_perm (h : Swaps step P M) {is js : List ι} (hperm : is.Perm js)
    (hM : ∀ i ∈ is, M i) {s s' : σ} {os : List ο} (hs : P s) (hrun : run step s is = .ok (s', os)) :
    ∃ ps, run step s js = .ok (s', ps) := by
  induction hperm generalizing s os with
  | nil => exact ⟨os, hrun⟩
  | @cons i is js _ ih =>
    obtain ⟨hi, his⟩ := List.forall_mem_cons.mp hM
    obtain ⟨s₁, o, os', hfirst, hrest, -⟩ := run_cons.mp hrun
    obtain ⟨ps, hps⟩ := ih his (h.keeps hs hi hfirst) hrest
    exact ⟨o :: ps, run_cons.mpr ⟨s₁, o, ps, hfirst, hps, rfl⟩⟩
  | @swap i j is =>
    obtain ⟨s₁, o, os', hfirst, hrest, -⟩ := run_cons.mp hrun
    obtain ⟨s₂, p, os'', hsecond, htail, -⟩ := run_cons.mp hrest
    obtain ⟨t, p', o', hj, hi⟩ := h.swap hs (hM j (by simp)) (hM i (by simp)) hfirst hsecond
    exact ⟨_, run_cons.mpr ⟨t, o', _, hj, run_cons.mpr ⟨s₂, p', os'', hi, htail, rfl⟩, rfl⟩⟩
  | trans hfirst _ ih ih' =>
    obtain ⟨ps, hps⟩ := ih hM hs hrun
    exact ih' (fun i hi => hM i (hfirst.mem_iff.mpr hi)) hs hps

/-- Whether the run succeeds and where it ends does not depend on the order. -/
theorem Swaps.run_perm (h : Swaps step P M) {is js : List ι} (hperm : is.Perm js)
    (hM : ∀ i ∈ is, M i) {s s' : σ} (hs : P s) :
    (∃ os, run step s is = .ok (s', os)) ↔ ∃ ps, run step s js = .ok (s', ps) := by
  constructor
  · rintro ⟨os, hrun⟩
    exact h.run_of_perm hperm hM hs hrun
  · rintro ⟨ps, hrun⟩
    exact h.run_of_perm hperm.symm (fun j hj => hM j (hperm.mem_iff.mpr hj)) hs hrun

end ServerGame.Lib
