import Mathlib

/-!
# Computations that can stop with a fault

Rules for `Except`: a success of a sequence is a success of each of its
parts, so a proof about a run peels one call at a time.
-/

namespace ServerGame.Lib

theorem bind_eq_ok {first : Except ε α} {next : α → Except ε β} {result : β} :
    first >>= next = .ok result ↔ ∃ a, first = .ok a ∧ next a = .ok result := by
  cases first with
  | ok a => simp [bind, Except.bind]
  | error e => simp [bind, Except.bind]

theorem pure_eq_ok {a result : α} : (pure a : Except ε α) = .ok result ↔ a = result := by
  simp [pure, Except.pure]

@[simp] theorem ok_bind (a : α) (f : α → Except ε β) : (.ok a >>= f) = f a := rfl

theorem foldlM_invariant {f : σ → α → Except ε σ} (P : σ → Prop)
    (hstep : ∀ s a s', P s → f s a = .ok s' → P s') {xs : List α} {s s' : σ}
    (hs : P s) (h : xs.foldlM f s = .ok s') : P s' := by
  induction xs generalizing s with
  | nil =>
    simp only [List.foldlM_nil, pure_eq_ok] at h
    exact h ▸ hs
  | cons x xs ih =>
    simp only [List.foldlM_cons, bind_eq_ok] at h
    obtain ⟨s₁, hx, hr⟩ := h
    exact ih (hstep s x s₁ hs hx) hr

theorem bind_eq_error {first : Except ε α} {next : α → Except ε β} {e : ε} :
    first >>= next = .error e ↔ first = .error e ∨ ∃ a, first = .ok a ∧ next a = .error e := by
  cases first with
  | ok a => simp [bind, Except.bind]
  | error e => simp [bind, Except.bind]

theorem foldlM_error {f : σ → α → Except ε σ} (P : ε → Prop)
    (hstep : ∀ s a e, f s a = .error e → P e) {xs : List α} {s : σ} {e : ε}
    (h : xs.foldlM f s = .error e) : P e := by
  induction xs generalizing s with
  | nil => cases h
  | cons x xs ih =>
    simp only [List.foldlM_cons, bind_eq_error] at h
    rcases h with h | ⟨s₁, -, h⟩
    · exact hstep s x e h
    · exact ih h

theorem foldlM_each {f : σ → α → Except ε σ} {xs : List α} {s s' : σ}
    (h : xs.foldlM f s = .ok s') : ∀ x ∈ xs, ∃ s₁ s₂, f s₁ x = .ok s₂ := by
  induction xs generalizing s with
  | nil => simp
  | cons x xs ih =>
    simp only [List.foldlM_cons, bind_eq_ok] at h
    obtain ⟨s₁, hx, hr⟩ := h
    intro y hy
    rcases List.mem_cons.mp hy with rfl | hy
    · exact ⟨s, s₁, hx⟩
    · exact ih hr y hy

theorem mapM_total {f : α → Except ε β} {xs : List α} (h : ∀ x ∈ xs, ∃ y, f x = .ok y) :
    ∃ ys, xs.mapM f = .ok ys := by
  induction xs with
  | nil => exact ⟨[], rfl⟩
  | cons x xs ih =>
    obtain ⟨⟨y, hy⟩, hxs⟩ := List.forall_mem_cons.mp h
    obtain ⟨ys, hys⟩ := ih hxs
    exact ⟨y :: ys, by rw [List.mapM_cons, hy, ok_bind, hys]; rfl⟩

/-- A loop that succeeds has collected what its steps add. -/
theorem foldlM_collects {f : σ → α → Option σ} (has : σ → γ → Prop) (adds : α → γ → Prop)
    (hstep : ∀ s a s', f s a = some s' → ∀ c, has s' c ↔ has s c ∨ adds a c) {xs : List α}
    {s s' : σ} (h : xs.foldlM f s = some s') (c : γ) :
    has s' c ↔ has s c ∨ ∃ x ∈ xs, adds x c := by
  induction xs generalizing s with
  | nil =>
    cases h
    simp
  | cons x xs ih =>
    rw [List.foldlM_cons] at h
    obtain ⟨s₁, hx, hr⟩ := Option.bind_eq_some_iff.mp h
    simp [ih hr, hstep s x s₁ hx, or_assoc]

end ServerGame.Lib
