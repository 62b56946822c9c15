import Mathlib.Logic.Function.Basic
import Mathlib.Data.List.Induction

/-!
# Histories of ownership

Items change hands. A transfer says which owner it found and which one it
leaves, and a list of them is a history of some owners when each found the
owner its item had by then.
-/

namespace ServerGame.Lib

variable {ι : Type u} {κ : Type v}

structure Transfer (ι : Type u) (κ : Type v) where
  item : ι
  source : κ
  target : κ

def Transfer.Moves (t : Transfer ι κ) : Prop := t.source ≠ t.target

instance [DecidableEq κ] (t : Transfer ι κ) : Decidable t.Moves :=
  inferInstanceAs (Decidable (t.source ≠ t.target))

def gains [DecidableEq κ] (transfers : List (Transfer ι κ)) (owner : κ) : Nat :=
  transfers.countP fun t => decide (t.Moves ∧ t.target = owner)

theorem gains_append [DecidableEq κ] (transfers transfers' : List (Transfer ι κ)) (owner : κ) :
    gains (transfers ++ transfers') owner = gains transfers owner + gains transfers' owner :=
  List.countP_append

theorem gains_singleton [DecidableEq κ] (t : Transfer ι κ) (owner : κ) :
    gains [t] owner = if t.Moves ∧ t.target = owner then 1 else 0 := by
  simp [gains, List.countP_singleton]

variable [DecidableEq ι] {owners : ι → κ} {transfers transfers' : List (Transfer ι κ)}

def ownersAfter (owners : ι → κ) (transfers : List (Transfer ι κ)) : ι → κ :=
  transfers.foldl (fun owners t => Function.update owners t.item t.target) owners

def History (owners : ι → κ) : List (Transfer ι κ) → Prop
  | [] => True
  | t :: transfers =>
    t.source = owners t.item ∧ History (Function.update owners t.item t.target) transfers

theorem ownersAfter_append :
    ownersAfter owners (transfers ++ transfers') =
      ownersAfter (ownersAfter owners transfers) transfers' :=
  List.foldl_append

theorem history_append :
    History owners (transfers ++ transfers') ↔
      History owners transfers ∧ History (ownersAfter owners transfers) transfers' := by
  induction transfers generalizing owners with
  | nil => simp [History, ownersAfter]
  | cons t transfers ih =>
    simp only [List.cons_append, History, ih, ownersAfter, List.foldl_cons, and_assoc]

theorem History.left {i : ι} (h : History owners transfers)
    (hne : ownersAfter owners transfers i ≠ owners i) :
    ∃ t ∈ transfers, t.item = i ∧ t.Moves ∧ t.target ≠ owners i := by
  induction transfers generalizing owners with
  | nil => exact absurd rfl hne
  | cons t transfers ih =>
    obtain ⟨hsource, hrest⟩ := h
    by_cases hmoved : t.item = i ∧ t.target ≠ owners i
    · obtain ⟨rfl, htarget⟩ := hmoved
      have hmoves : t.Moves := by
        rw [Transfer.Moves, hsource]
        exact htarget.symm
      exact ⟨t, List.mem_cons_self, rfl, hmoves, htarget⟩
    · have hsame : Function.update owners t.item t.target i = owners i := by
        by_cases hi : i = t.item
        · subst hi
          rw [Function.update_self]
          exact not_not.mp fun htarget => hmoved ⟨rfl, htarget⟩
        · exact Function.update_of_ne hi _ _
      obtain ⟨d, hd, hitem, hmoves, htarget⟩ := ih hrest (by rw [hsame]; exact hne)
      exact ⟨d, List.mem_cons_of_mem _ hd, hitem, hmoves, hsame ▸ htarget⟩

theorem History.arrived {i : ι} (h : History owners transfers)
    (hne : ownersAfter owners transfers i ≠ owners i) :
    ∃ t ∈ transfers, t.item = i ∧ t.Moves ∧ t.target = ownersAfter owners transfers i := by
  induction transfers using List.reverseRecOn with
  | nil => exact absurd rfl hne
  | append_singleton transfers t ih =>
    obtain ⟨hbefore, hsource, -⟩ := history_append.mp h
    rw [ownersAfter_append] at hne ⊢
    change Function.update (ownersAfter owners transfers) t.item t.target i ≠ owners i at hne
    change ∃ d ∈ transfers ++ [t], d.item = i ∧ d.Moves ∧
      d.target = Function.update (ownersAfter owners transfers) t.item t.target i
    by_cases hmoved : t.item = i ∧ t.Moves
    · obtain ⟨rfl, hmoves⟩ := hmoved
      exact ⟨t, by simp, rfl, hmoves, by rw [Function.update_self]⟩
    · have hsame : Function.update (ownersAfter owners transfers) t.item t.target i =
          ownersAfter owners transfers i := by
        by_cases hi : i = t.item
        · subst hi
          have hstays : t.source = t.target := not_not.mp fun hmoves => hmoved ⟨rfl, hmoves⟩
          rw [Function.update_self, ← hstays, hsource]
        · exact Function.update_of_ne hi _ _
      rw [hsame] at hne ⊢
      obtain ⟨d, hd, hitem, hmoves, htarget⟩ := ih hbefore hne
      exact ⟨d, List.mem_append_left _ hd, hitem, hmoves, htarget⟩

/-- Between two moves of an item to one owner it was moved to another one. -/
theorem History.moved_between {earlier between later : List (Transfer ι κ)}
    {t t' : Transfer ι κ} (h : History owners (earlier ++ t :: between ++ t' :: later))
    (hitem : t'.item = t.item) (htarget : t'.target = t.target) (hmoves : t'.Moves) :
    ∃ d ∈ between, d.item = t.item ∧ d.Moves ∧ d.target ≠ t.target := by
  rw [List.append_assoc] at h
  obtain ⟨-, -, hbetween⟩ := history_append.mp h
  obtain ⟨hbetween, hsource, -⟩ := history_append.mp hbetween
  have hheld : Function.update (ownersAfter owners earlier) t.item t.target t.item = t.target :=
    Function.update_self ..
  have hlost : ownersAfter (Function.update (ownersAfter owners earlier) t.item t.target) between
      t.item ≠ Function.update (ownersAfter owners earlier) t.item t.target t.item := by
    rw [hitem] at hsource
    rw [hheld, ← hsource, ← htarget]
    exact hmoves
  have hleft := hbetween.left hlost
  rwa [hheld] at hleft

end ServerGame.Lib
