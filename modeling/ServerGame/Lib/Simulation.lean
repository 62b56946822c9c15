import ServerGame.Lib.Machine

/-!
# Simulation

What is seen of a machine is a list for each step. One machine simulates
another when each of its steps is a run of the other that shows the same, on
inputs which the state and the input of the step give. Then each of its runs is
such a run too.
-/

namespace ServerGame.Lib

variable {σ σ' ι ι' ο ο' ε ε' γ κ : Type*}

/-- What `f` gives for the steps of a run, one after the other. -/
def along (step : σ → ι → Except ε (σ × ο)) (f : σ → ι → List κ) : σ → List ι → List κ
  | _, [] => []
  | s, i :: is =>
    f s i ++ match step s i with
      | .ok (s', _) => along step f s' is
      | .error _ => []

def trace (seen : ι → ο → List γ) (is : List ι) (os : List ο) : List γ :=
  (is.zip os).flatMap fun entry => seen entry.1 entry.2

section
variable {step : σ → ι → Except ε (σ × ο)} {seen : ι → ο → List γ} {s s' : σ} {i : ι} {o : ο}
  {is js : List ι} {os ps : List ο}

@[simp] theorem along_nil {f : σ → ι → List κ} : along step f s [] = [] := rfl

theorem along_cons {f : σ → ι → List κ} (h : step s i = .ok (s', o)) :
    along step f s (i :: is) = f s i ++ along step f s' is := by
  rw [along, h]

@[simp] theorem trace_nil : trace seen [] [] = [] := rfl

@[simp] theorem trace_cons : trace seen (i :: is) (o :: os) = seen i o ++ trace seen is os := rfl

theorem run_length (h : run step s is = .ok (s', os)) : is.length = os.length := by
  induction is generalizing s os with
  | nil =>
    cases run_nil.mp h
    rfl
  | cons i is ih =>
    obtain ⟨s₁, o, os', -, hrest, rfl⟩ := run_cons.mp h
    simp [ih hrest]

theorem trace_append (h : run step s is = .ok (s', os)) :
    trace seen (is ++ js) (os ++ ps) = trace seen is os ++ trace seen js ps := by
  rw [trace, List.zip_append (run_length h), List.flatMap_append]
  rfl

end

theorem allSteps_of_along {step : σ → ι → Except ε (σ × ο)} {C : σ → ι → Prop}
    [∀ s i, Decidable (C s i)] {s : σ} {is : List ι}
    (h : (along step (fun s i => [decide (C s i)]) s is).all id = true) : AllSteps step s is C := by
  induction is generalizing s with
  | nil =>
    rintro pre i post s' os heq -
    cases pre <;> cases heq
  | cons i is ih =>
    rw [along, List.all_append, Bool.and_eq_true] at h
    refine allSteps_cons.mpr ⟨by simpa using h.1, fun s₁ o hi => ?_⟩
    rw [hi] at h
    exact ih h.2

/-- Each step of the first machine is a run of the second on the inputs `f` gives,
from any two states in the relation to two such states, and shows the same. -/
def Simulates (step : σ → ι → Except ε (σ × ο)) (seen : ι → ο → List γ)
    (step' : σ' → ι' → Except ε' (σ' × ο')) (seen' : ι' → ο' → List γ) (f : σ → ι → List ι')
    (R : σ → σ' → Prop) : Prop :=
  ∀ s i s₁ o t, R s t → step s i = .ok (s₁, o) →
    ∃ t₁ os, run step' t (f s i) = .ok (t₁, os) ∧ R s₁ t₁ ∧ trace seen' (f s i) os = seen i o

section
variable {step : σ → ι → Except ε (σ × ο)} {seen : ι → ο → List γ}
  {step' : σ' → ι' → Except ε' (σ' × ο')} {seen' : ι' → ο' → List γ} {f : σ → ι → List ι'}
  {R : σ → σ' → Prop} {s s₁ : σ} {t : σ'} {is : List ι} {os : List ο}

theorem Simulates.run (hsim : Simulates step seen step' seen' f R) (hR : R s t)
    (h : run step s is = .ok (s₁, os)) :
    ∃ t₁ ps, Lib.run step' t (along step f s is) = .ok (t₁, ps) ∧ R s₁ t₁ ∧
      trace seen' (along step f s is) ps = trace seen is os := by
  induction is generalizing s t os with
  | nil =>
    cases run_nil.mp h
    exact ⟨t, [], run_nil.mpr rfl, hR, rfl⟩
  | cons i is ih =>
    obtain ⟨s₂, o, os', hi, hrest, rfl⟩ := run_cons.mp h
    obtain ⟨t₂, ps, hps, hR₂, hseen⟩ := hsim s i s₂ o t hR hi
    obtain ⟨t₁, ps', hps', hR₁, hseen'⟩ := ih hR₂ hrest
    rw [along_cons hi]
    refine ⟨t₁, ps ++ ps', run_append.mpr ⟨t₂, ps, ps', hps, hps', rfl⟩, hR₁, ?_⟩
    rw [trace_append hps, trace_cons, hseen, hseen']

theorem run_lockstep {step' : σ' → ι → Except ε' (σ' × ο)}
    (hstep : ∀ s i s₁ o t, R s t → step s i = .ok (s₁, o) →
      ∃ t₁, step' t i = .ok (t₁, o) ∧ R s₁ t₁)
    (hR : R s t) (h : Lib.run step s is = .ok (s₁, os)) :
    ∃ t₁, Lib.run step' t is = .ok (t₁, os) ∧ R s₁ t₁ := by
  induction is generalizing s t os with
  | nil =>
    cases run_nil.mp h
    exact ⟨t, run_nil.mpr rfl, hR⟩
  | cons i is ih =>
    obtain ⟨s₂, o, os', hi, hrest, rfl⟩ := run_cons.mp h
    obtain ⟨t₂, hi', hR₂⟩ := hstep s i s₂ o t hR hi
    obtain ⟨t₁, hrest', hR₁⟩ := ih hR₂ hrest
    exact ⟨t₁, run_cons.mpr ⟨t₂, o, os', hi', hrest', rfl⟩, hR₁⟩

end

end ServerGame.Lib
