import ServerGame.Lib.Checked

/-!
# Runs of a step function

A step takes a state and an input to the next state and an output, or stops
with a fault. `run` feeds it a list of inputs and keeps the outputs, one for
each input. The invariant rules do the induction over runs once: over the
whole history of inputs and outputs, or over states alone.
-/

namespace ServerGame.Lib

variable {σ : Type u} {ι : Type v} {ο : Type w} {ε : Type x}

def run (step : σ → ι → Except ε (σ × ο)) : σ → List ι → Except ε (σ × List ο)
  | s, [] => .ok (s, [])
  | s, i :: is => do
    let (s₁, o) ← step s i
    let (s₂, os) ← run step s₁ is
    pure (s₂, o :: os)

variable {step : σ → ι → Except ε (σ × ο)}

theorem run_nil {s : σ} {r : σ × List ο} : run step s [] = .ok r ↔ r = (s, []) := by
  simp [run, eq_comm]

theorem run_cons {s s' : σ} {i : ι} {is : List ι} {os : List ο} :
    run step s (i :: is) = .ok (s', os) ↔
      ∃ s₁ o os', step s i = .ok (s₁, o) ∧ run step s₁ is = .ok (s', os') ∧ os = o :: os' := by
  simp only [run, bind_eq_ok, pure_eq_ok, Prod.exists, Prod.mk.injEq]
  constructor
  · rintro ⟨s₁, o, hs, s₂, os', hr, rfl, rfl⟩
    exact ⟨s₁, o, os', hs, hr, rfl⟩
  · rintro ⟨s₁, o, os', hs, hr, rfl⟩
    exact ⟨s₁, o, hs, s', os', hr, rfl, rfl⟩

theorem run_append {s s' : σ} {is js : List ι} {os : List ο} :
    run step s (is ++ js) = .ok (s', os) ↔
      ∃ s₁ os₁ os₂, run step s is = .ok (s₁, os₁) ∧ run step s₁ js = .ok (s', os₂) ∧
        os = os₁ ++ os₂ := by
  induction is generalizing s os with
  | nil => simp [run_nil]
  | cons i is ih =>
    simp only [List.cons_append, run_cons, ih]
    constructor
    · rintro ⟨s₁, o, _, hs, ⟨s₂, os₁, os₂, h₁, h₂, rfl⟩, rfl⟩
      exact ⟨s₂, o :: os₁, os₂, ⟨s₁, o, os₁, hs, h₁, rfl⟩, h₂, rfl⟩
    · rintro ⟨s₂, _, os₂, ⟨s₁, o, os₁, hs, h₁, rfl⟩, h₂, rfl⟩
      exact ⟨s₁, o, os₁ ++ os₂, hs, ⟨s₂, os₁, os₂, h₁, h₂, rfl⟩, rfl⟩

theorem run_singleton {s s' : σ} {i : ι} {os : List ο} :
    run step s [i] = .ok (s', os) ↔ ∃ o, step s i = .ok (s', o) ∧ os = [o] := by
  simp only [run_cons, run_nil, Prod.mk.injEq]
  constructor
  · rintro ⟨s₁, o, _, hs, ⟨rfl, rfl⟩, rfl⟩
    exact ⟨o, hs, rfl⟩
  · rintro ⟨o, hs, rfl⟩
    exact ⟨s', o, [], hs, ⟨rfl, rfl⟩, rfl⟩

theorem run_snoc {s s' : σ} {is : List ι} {i : ι} {os : List ο} :
    run step s (is ++ [i]) = .ok (s', os) ↔
      ∃ s₁ os₁ o, run step s is = .ok (s₁, os₁) ∧ step s₁ i = .ok (s', o) ∧ os = os₁ ++ [o] := by
  simp only [run_append, run_singleton]
  constructor
  · rintro ⟨s₁, os₁, _, h₁, ⟨o, hs, rfl⟩, rfl⟩
    exact ⟨s₁, os₁, o, h₁, hs, rfl⟩
  · rintro ⟨s₁, os₁, o, h₁, hs, rfl⟩
    exact ⟨s₁, os₁, [o], h₁, ⟨o, hs, rfl⟩, rfl⟩

theorem run_zip {s s' : σ} {is : List ι} {os : List ο} (h : run step s is = .ok (s', os)) :
    ∀ entry ∈ is.zip os, ∃ s₁ s₂, step s₁ entry.1 = .ok (s₂, entry.2) := by
  induction is generalizing s os with
  | nil => simp
  | cons i is ih =>
    obtain ⟨s₁, o, os', hi, hr, rfl⟩ := run_cons.mp h
    intro entry hentry
    rcases List.mem_cons.mp hentry with rfl | hentry
    · exact ⟨s, s₁, hi⟩
    · exact ih hr entry hentry

/-- What one more step keeps, about the state and the history behind it, holds
after every run. -/
theorem run_history {s s' : σ} {is : List ι} {os : List ο} (P : σ → List ι → List ο → Prop)
    (hnil : P s [] [])
    (hsnoc : ∀ s₁ is os i s₂ o, run step s is = .ok (s₁, os) → P s₁ is os →
      step s₁ i = .ok (s₂, o) → P s₂ (is ++ [i]) (os ++ [o]))
    (h : run step s is = .ok (s', os)) : P s' is os := by
  induction is using List.reverseRecOn generalizing s' os with
  | nil => cases run_nil.mp h; exact hnil
  | append_singleton is i ih =>
    obtain ⟨s₁, os₁, o, h₁, hs, rfl⟩ := run_snoc.mp h
    exact hsnoc s₁ is os₁ i s' o h₁ (ih h₁) hs

theorem run_invariant {s s' : σ} {is : List ι} {os : List ο} (P : σ → Prop)
    (hstep : ∀ s₁ i s₂ o, i ∈ is → P s₁ → step s₁ i = .ok (s₂, o) → P s₂)
    (hs : P s) (h : run step s is = .ok (s', os)) : P s' := by
  induction is generalizing s os with
  | nil => cases run_nil.mp h; exact hs
  | cons i is ih =>
    obtain ⟨s₁, o, os', hi, hr, rfl⟩ := run_cons.mp h
    exact ih (fun s₁ j s₂ o hj => hstep s₁ j s₂ o (List.mem_cons_of_mem _ hj))
      (hstep s i s₁ o (by simp) hs hi) hr

-- ---------------------------------------------------------------------------
-- Inputs that do nothing
-- ---------------------------------------------------------------------------

def busy (idle : ο → Bool) (is : List ι) (os : List ο) : List ι :=
  ((is.zip os).filter fun entry => !idle entry.2).map Prod.fst

/-- When an idle output means that the state is the same, the inputs behind
idle outputs can be left out. -/
theorem run_busy {idle : ο → Bool} {s s' : σ} {is : List ι} {os : List ο}
    (hidle : ∀ s i s' o, step s i = .ok (s', o) → idle o = true → s' = s)
    (h : run step s is = .ok (s', os)) :
    run step s (busy idle is os) = .ok (s', os.filter fun o => !idle o) := by
  induction is generalizing s os with
  | nil =>
    cases run_nil.mp h
    rfl
  | cons i is ih =>
    obtain ⟨s₁, o, os', hi, hrest, rfl⟩ := run_cons.mp h
    have htail := ih hrest
    cases ho : idle o with
    | true =>
      cases hidle s i s₁ o hi ho
      simpa [busy, ho] using htail
    | false =>
      have hbusy : busy idle (i :: is) (o :: os') = i :: busy idle is os' := by simp [busy, ho]
      rw [hbusy, List.filter_cons_of_pos (by simp [ho])]
      exact run_cons.mpr ⟨s₁, o, _, hi, htail, rfl⟩

-- ---------------------------------------------------------------------------
-- All states and all steps of a run
-- ---------------------------------------------------------------------------

def AllStates (step : σ → ι → Except ε (σ × ο)) (s : σ) (is : List ι) (P : σ → Prop) : Prop :=
  ∀ pre post s' os, is = pre ++ post → run step s pre = .ok (s', os) → P s'

def AllSteps (step : σ → ι → Except ε (σ × ο)) (s : σ) (is : List ι) (C : σ → ι → Prop) : Prop :=
  ∀ pre i post s' os, is = pre ++ i :: post → run step s pre = .ok (s', os) → C s' i

theorem allSteps_cons {s : σ} {i : ι} {is : List ι} {C : σ → ι → Prop} :
    AllSteps step s (i :: is) C ↔
      C s i ∧ ∀ s₁ o, step s i = .ok (s₁, o) → AllSteps step s₁ is C := by
  constructor
  · intro h
    refine ⟨h [] i is s [] rfl (run_nil.mpr rfl), fun s₁ o hi pre j post s' os heq hrun => ?_⟩
    exact h (i :: pre) j post s' (o :: os) (by simp [heq]) (run_cons.mpr ⟨s₁, o, os, hi, hrun, rfl⟩)
  · rintro ⟨hs, htail⟩ pre j post s' os heq hrun
    cases pre with
    | nil =>
      cases run_nil.mp hrun
      obtain ⟨rfl, -⟩ := List.cons.inj heq
      exact hs
    | cons i' pre =>
      obtain ⟨rfl, htl⟩ := List.cons.inj heq
      obtain ⟨s₁, o, os', hi, hr, -⟩ := run_cons.mp hrun
      exact htail s₁ o hi pre j post s' os' htl hr

theorem AllSteps.of_forall {s : σ} {is : List ι} {C : σ → ι → Prop} (h : ∀ i ∈ is, ∀ s, C s i) :
    AllSteps step s is C :=
  fun _ i _ s' _ heq _ => h i (by simp [heq]) s'

theorem AllSteps.part {s s₁ : σ} {pre part post : List ι} {os : List ο} {C : σ → ι → Prop}
    (hC : AllSteps step s (pre ++ part ++ post) C) (hrun : run step s pre = .ok (s₁, os)) :
    AllSteps step s₁ part C := by
  intro pre' i post' s' os' heq hrun'
  refine hC (pre ++ pre') i (post' ++ post) s' (os ++ os') (by simp [heq]) ?_
  exact run_append.mpr ⟨s₁, os, os', hrun, hrun', rfl⟩

/-- What steps that meet a condition keep, about the state and the inputs
before it, holds all along a run whose steps all meet it. -/
theorem AllSteps.history {s : σ} {is : List ι} {P : List ι → σ → Prop} {C : σ → ι → Prop}
    (hC : AllSteps step s is C)
    (hstep : ∀ pre i post s₁ s₂ o, is = pre ++ i :: post → P pre s₁ → C s₁ i →
      step s₁ i = .ok (s₂, o) → P (pre ++ [i]) s₂)
    (hs : P [] s) {pre post : List ι} {s' : σ} {os : List ο} (his : is = pre ++ post)
    (hrun : run step s pre = .ok (s', os)) : P pre s' := by
  induction pre using List.reverseRecOn generalizing post s' os with
  | nil =>
    cases run_nil.mp hrun
    exact hs
  | append_singleton pre i ih =>
    obtain ⟨s₁, os₁, o, h₁, hi, -⟩ := run_snoc.mp hrun
    have his' : is = pre ++ i :: post := by simpa using his
    exact hstep pre i post s₁ s' o his' (ih his' h₁) (hC pre i post s₁ os₁ his' h₁) hi

theorem AllSteps.invariant {s : σ} {is : List ι} {P : σ → Prop} {C : σ → ι → Prop}
    (hC : AllSteps step s is C)
    (hstep : ∀ s₁ i s₂ o, i ∈ is → P s₁ → C s₁ i → step s₁ i = .ok (s₂, o) → P s₂)
    (hs : P s) : AllStates step s is P := by
  intro pre post s' os his hrun
  refine hC.history (P := fun _ => P) (fun pre i post s₁ s₂ o heq hP hc hi => ?_) hs his hrun
  exact hstep s₁ i s₂ o (by simp [heq]) hP hc hi

/-- If from what holds so far each step goes on, keeping it, the run comes to
its end. -/
theorem run_total {s : σ} {is : List ι} {P : List ι → σ → Prop} {Q : ο → Prop}
    (hstep : ∀ pre i post s₁ os, is = pre ++ i :: post → run step s pre = .ok (s₁, os) →
      P pre s₁ → ∃ s₂ o, step s₁ i = .ok (s₂, o) ∧ P (pre ++ [i]) s₂ ∧ Q o)
    (hs : P [] s) : ∃ s' os, run step s is = .ok (s', os) ∧ P is s' ∧ ∀ o ∈ os, Q o := by
  suffices hpre : ∀ pre post, is = pre ++ post →
      ∃ s' os, run step s pre = .ok (s', os) ∧ P pre s' ∧ ∀ o ∈ os, Q o from
    hpre is [] (by simp)
  intro pre
  induction pre using List.reverseRecOn with
  | nil => exact fun _ _ => ⟨s, [], run_nil.mpr rfl, hs, by simp⟩
  | append_singleton pre i ih =>
    intro post heq
    have heq' : is = pre ++ i :: post := by simpa using heq
    obtain ⟨s₁, os, hrun, hP, hQ⟩ := ih (i :: post) heq'
    obtain ⟨s₂, o, hi, hP', ho⟩ := hstep pre i post s₁ os heq' hrun hP
    refine ⟨s₂, os ++ [o], run_snoc.mpr ⟨s₁, os, o, hrun, hi, rfl⟩, hP', fun o' ho' => ?_⟩
    rcases List.mem_append.mp ho' with ho' | ho'
    · exact hQ o' ho'
    · exact List.mem_singleton.mp ho' ▸ ho

theorem AllStates.both {s s₁ s' : σ} {pre post : List ι} {i : ι} {os os₁ : List ο} {P : σ → Prop}
    (hP : AllStates step s (pre ++ i :: post) P)
    (hrun : run step s (pre ++ i :: post) = .ok (s', os)) (hpre : run step s pre = .ok (s₁, os₁)) :
    ∃ s₂ o, step s₁ i = .ok (s₂, o) ∧ P s₁ ∧ P s₂ := by
  obtain ⟨s₁', os₁', _, hpre', hpost, -⟩ := run_append.mp hrun
  cases hpre.symm.trans hpre'
  obtain ⟨s₂, o, _, hi, -, -⟩ := run_cons.mp hpost
  exact ⟨s₂, o, hi, hP pre (i :: post) s₁ os₁ rfl hpre,
    hP (pre ++ [i]) post s₂ (os₁ ++ [o]) (by simp) (run_snoc.mpr ⟨s₁, os₁, o, hpre, hi, rfl⟩)⟩

end ServerGame.Lib
