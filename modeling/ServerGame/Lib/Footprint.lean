import ServerGame.Lib.Checked

/-!
# Independent actions

A state seen as cells. An action reads some cells, writes some of them, and
gives the same on every state that agrees on what it reads. Two actions neither
of which writes what the other one reads come to the same in either order.
-/

namespace ServerGame.Lib

-- ---------------------------------------------------------------------------
-- Actions on cells
-- ---------------------------------------------------------------------------

section
variable {σ : Type u} {κ : Type v} {V : κ → Type w} {ε : Type x} {ο ο' : Type y}
  (cell : σ → (k : κ) → V k)

def AgreeOn (keys : Set κ) (s t : σ) : Prop := ∀ k ∈ keys, cell s k = cell t k

/-- From the states in `P`, the action writes and reads those cells only. -/
structure ActsOn (P : σ → Prop) (reads writes : Set κ) (f : σ → Except ε (σ × ο)) : Prop where
  subset : writes ⊆ reads
  stable : ∀ {s t}, P s → AgreeOn cell reads s t → P t
  frame : ∀ {s s' o}, P s → f s = .ok (s', o) → ∀ k ∉ writes, cell s' k = cell s k
  congr : ∀ {s t s' o}, P s → AgreeOn cell reads s t → f s = .ok (s', o) →
    ∃ t', f t = .ok (t', o) ∧ AgreeOn cell reads s' t'

variable {cell} {P Q : σ → Prop} {reads reads' writes writes' : Set κ}
  {f : σ → Except ε (σ × ο)} {g : σ → Except ε (σ × ο')}

theorem ActsOn.agree (hf : ActsOn cell P reads writes f) (hdisjoint : Disjoint writes reads')
    {s s' : σ} {o : ο} (hP : P s) (h : f s = .ok (s', o)) : AgreeOn cell reads' s s' :=
  fun k hk => (hf.frame hP h k fun hw => Set.disjoint_left.mp hdisjoint hw hk).symm

theorem ActsOn.commute (hcell : Function.Injective cell) (hf : ActsOn cell P reads writes f)
    (hg : ActsOn cell Q reads' writes' g) (hfg : Disjoint writes reads')
    (hgf : Disjoint writes' reads) {s s₁ s₂ : σ} {o : ο} {o' : ο'} (hP : P s) (hQ : Q s)
    (h₁ : f s = .ok (s₁, o)) (h₂ : g s₁ = .ok (s₂, o')) :
    ∃ t, g s = .ok (t, o') ∧ f t = .ok (s₂, o) := by
  have hagree : AgreeOn cell reads' s s₁ := hf.agree hfg hP h₁
  have hQ₁ : Q s₁ := hg.stable hQ hagree
  obtain ⟨t, hgs, hst⟩ := hg.congr hQ₁ (fun k hk => (hagree k hk).symm) h₂
  obtain ⟨t₂, hft, hst₂⟩ := hf.congr hP (hg.agree hgf hQ hgs) h₁
  refine ⟨t, hgs, ?_⟩
  have hsame : t₂ = s₂ := by
    refine hcell (funext fun k => ?_)
    by_cases hk : k ∈ reads
    · -- what `f` reads is as `f` left it, in both orders
      have hw : k ∉ writes' := fun hw => Set.disjoint_left.mp hgf hw hk
      rw [← hst₂ k hk, hg.frame hQ₁ h₂ k hw]
    · have hw : k ∉ writes := fun hw => hk (hf.subset hw)
      have hP' : P t := hf.stable hP (hg.agree hgf hQ hgs)
      rw [hf.frame hP' hft k hw]
      by_cases hk' : k ∈ reads'
      · exact (hst k hk').symm
      · have hw' : k ∉ writes' := fun hw => hk' (hg.subset hw)
        rw [hg.frame hQ hgs k hw', hg.frame hQ₁ h₂ k hw', hf.frame hP h₁ k hw]
  rw [hft, hsame]

end

-- ---------------------------------------------------------------------------
-- Actions built from steps
-- ---------------------------------------------------------------------------

section
variable {τ : Type u} {α : Type v} {ε : Type w}

/-- A step keeps `Good`, relates the states before and after it by `Frame`, and
has a twin from every twin of its state. -/
def Tracked (Good : τ → Prop) (Frame Twin : τ → τ → Prop) (f : τ → Except ε τ) : Prop :=
  ∀ s s', Good s → f s = .ok s' →
    Good s' ∧ Frame s s' ∧ ∀ t, Twin s t → ∃ t', f t = .ok t' ∧ Twin s' t'

variable {Good : τ → Prop} {Frame Twin : τ → τ → Prop}

theorem Tracked.of_eq {f g : τ → Except ε τ} (h : ∀ s, Good s → f s = g s)
    (htwin : ∀ s t, Good s → Twin s t → f t = g t) (hg : Tracked Good Frame Twin g) :
    Tracked Good Frame Twin f := by
  intro s s' hs hfs
  rw [h s hs] at hfs
  obtain ⟨hs', hframe, htwins⟩ := hg s s' hs hfs
  refine ⟨hs', hframe, fun t ht => ?_⟩
  rw [htwin s t hs ht]
  exact htwins t ht

theorem Tracked.bind {f g : τ → Except ε τ}
    (htrans : ∀ s₁ s₂ s₃, Frame s₁ s₂ → Frame s₂ s₃ → Frame s₁ s₃)
    (hf : Tracked Good Frame Twin f) (hg : Tracked Good Frame Twin g) :
    Tracked Good Frame Twin fun s => f s >>= g := by
  intro s s' hs h
  obtain ⟨s₁, h₁, h₂⟩ := bind_eq_ok.mp h
  obtain ⟨hs₁, hframe₁, htwin₁⟩ := hf s s₁ hs h₁
  obtain ⟨hs', hframe₂, htwin₂⟩ := hg s₁ s' hs₁ h₂
  refine ⟨hs', htrans _ _ _ hframe₁ hframe₂, fun t ht => ?_⟩
  obtain ⟨t₁, h₁', ht₁⟩ := htwin₁ t ht
  obtain ⟨t', h₂', ht'⟩ := htwin₂ t₁ ht₁
  exact ⟨t', bind_eq_ok.mpr ⟨t₁, h₁', h₂'⟩, ht'⟩

theorem Tracked.foldlM {f : τ → α → Except ε τ} {xs : List α} (hrefl : ∀ s, Frame s s)
    (htrans : ∀ s₁ s₂ s₃, Frame s₁ s₂ → Frame s₂ s₃ → Frame s₁ s₃)
    (hf : ∀ x ∈ xs, Tracked Good Frame Twin (f · x)) :
    Tracked Good Frame Twin (xs.foldlM f) := by
  induction xs with
  | nil =>
    intro s s' hs h
    simp only [List.foldlM_nil, pure_eq_ok] at h
    subst h
    exact ⟨hs, hrefl s, fun t ht => ⟨t, rfl, ht⟩⟩
  | cons x xs ih =>
    have hrest := ih fun y hy => hf y (List.mem_cons_of_mem x hy)
    have hboth := Tracked.bind htrans (hf x List.mem_cons_self) hrest
    intro s s' hs h
    exact hboth s s' hs h

end

end ServerGame.Lib
