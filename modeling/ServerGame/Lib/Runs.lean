import Mathlib

/-!
# Runs of a list

The stretches of a list between its separators. `List.splitOnP` gives all of
them, those without elements too; the runs are the others. A list that is split
at one element gives its runs exactly when it is evenly spaced.
-/

namespace ServerGame.Lib

variable {α : Type*} {p q : α → Bool} {list piece first rest : List α} {a sep : α}

structure Piece (p : α → Bool) (list piece : List α) : Prop where
  free : ∀ a ∈ piece, p a = false
  bounded : ∃ before after, list = before ++ (piece ++ after) ∧
    (∀ a ∈ before.getLast?, p a = true) ∧ ∀ a ∈ after.head?, p a = true

/-- A maximal run of elements that are no separators. -/
structure Run (p : α → Bool) (list run : List α) : Prop extends Piece p list run where
  ne_nil : run ≠ []

-- ---------------------------------------------------------------------------
-- Pieces
-- ---------------------------------------------------------------------------

theorem cutInduction {motive : List α → Prop} (p : α → Bool)
    (free : ∀ list, (∀ a ∈ list, p a = false) → motive list)
    (cut : ∀ first sep rest, (∀ a ∈ first, p a = false) → p sep = true → motive rest →
      motive (first ++ sep :: rest)) (list : List α) : motive list := by
  induction hn : list.length using Nat.strong_induction_on generalizing list with
  | _ n ih =>
    subst hn
    have hfirst : ∀ a ∈ list.takeWhile (!p ·), p a = false := by
      intro a ha
      simpa using List.mem_takeWhile_imp ha
    cases hrest : list.dropWhile (!p ·) with
    | nil =>
      refine free list fun a ha => ?_
      simpa using List.dropWhile_eq_nil_iff.mp hrest a ha
    | cons sep rest =>
      have hsplit := List.takeWhile_append_dropWhile (p := (!p ·)) (l := list)
      rw [hrest] at hsplit
      have hsep : p sep = true := by
        have hhead := List.head?_dropWhile_not (!p ·) list
        simpa [hrest] using hhead
      rw [← hsplit]
      refine cut _ sep rest hfirst hsep (ih rest.length ?_ rest rfl)
      rw [← hsplit, List.length_append, List.length_cons]
      omega

theorem not_mem_getLast? (hfree : ∀ a ∈ list, p a = false)
    (h : ∀ a ∈ list.getLast?, p a = true) : list = [] := by
  by_contra hne
  have hlast := h (list.getLast hne) (List.getLast?_eq_some_getLast hne)
  simp [hfree _ (List.getLast_mem hne)] at hlast

theorem piece_of_free (hfree : ∀ a ∈ list, p a = false) : Piece p list piece ↔ piece = list := by
  constructor
  · rintro ⟨-, before, after, rfl, hbefore, hafter⟩
    have hnil : before = [] := not_mem_getLast? (fun a ha => hfree a (by simp [ha])) hbefore
    have hnil' : after = [] := by
      cases after with
      | nil => rfl
      | cons a after =>
        have ha := hafter a rfl
        simp [hfree a (by simp)] at ha
    simp [hnil, hnil']
  · rintro rfl
    exact ⟨hfree, [], [], by simp, by simp, by simp⟩

/-- What stands between the separators in front of a piece and behind it, seen
from the first separator of the list. -/
theorem piece_append_cons (hfirst : ∀ a ∈ first, p a = false) (hsep : p sep = true) :
    Piece p (first ++ sep :: rest) piece ↔ piece = first ∨ Piece p rest piece := by
  constructor
  · rintro ⟨hfree, before, after, hlist, hbefore, hafter⟩
    rcases List.append_eq_append_iff.mp hlist with ⟨front, rfl, hfront⟩ | ⟨front, rfl, hfront⟩
    · cases front with
      | nil =>
        have hnil : first = [] := not_mem_getLast? hfirst (by simpa using hbefore)
        cases piece with
        | nil => exact .inl hnil.symm
        | cons a piece =>
          obtain ⟨rfl, -⟩ := List.cons.inj hfront
          simp [hfree sep (by simp)] at hsep
      | cons a front =>
        obtain ⟨rfl, rfl⟩ := List.cons.inj hfront
        refine .inr ⟨hfree, front, after, rfl, fun a ha => hbefore a ?_, hafter⟩
        simp [List.getLast?_append, List.getLast?_cons, Option.mem_def.mp ha]
    · have hnil : before = [] := not_mem_getLast? (fun a ha => hfirst a (by simp [ha])) hbefore
      subst hnil
      rcases List.append_eq_append_iff.mp hfront with ⟨tail, rfl, rfl⟩ | ⟨tail, rfl, htail⟩
      · cases tail with
        | nil => exact .inl (by simp)
        | cons a tail =>
          have ha := hafter a rfl
          simp [hfirst a (by simp)] at ha
      · cases tail with
        | nil => exact .inl (by simp)
        | cons a tail =>
          obtain ⟨rfl, -⟩ := List.cons.inj htail
          simp [hfree sep (by simp)] at hsep
  · rintro (rfl | ⟨hfree, before, after, rfl, hbefore, hafter⟩)
    · exact ⟨hfirst, [], sep :: rest, rfl, by simp, by simpa using hsep⟩
    · refine ⟨hfree, first ++ sep :: before, after, by simp, ?_, hafter⟩
      intro a ha
      cases hlast : before.getLast? with
      | none => simp_all [List.getLast?_append, List.getLast?_cons]
      | some b => simp_all [List.getLast?_append, List.getLast?_cons]

theorem mem_splitOnP_iff : piece ∈ list.splitOnP p ↔ Piece p list piece := by
  induction list using cutInduction p with
  | free list hfree =>
    rw [List.splitOnP_eq_singleton hfree, List.mem_singleton, piece_of_free hfree]
  | cut first sep rest hfirst hsep ih =>
    rw [List.splitOnP_append_cons_of_forall_mem hfirst sep hsep, List.mem_cons, ih,
      piece_append_cons hfirst hsep]

theorem exists_piece (ha : a ∈ list) (hp : p a = false) :
    ∃ piece, Piece p list piece ∧ a ∈ piece := by
  induction list using cutInduction p with
  | free list hfree => exact ⟨list, (piece_of_free hfree).mpr rfl, ha⟩
  | cut first sep rest hfirst hsep ih =>
    simp only [piece_append_cons hfirst hsep]
    rcases List.mem_append.mp ha with hmem | hmem
    · exact ⟨first, .inl rfl, hmem⟩
    · rcases List.mem_cons.mp hmem with rfl | hmem
      · simp [hp] at hsep
      · obtain ⟨piece, hpiece, hmem⟩ := ih hmem
        exact ⟨piece, .inr hpiece, hmem⟩

theorem Piece.congr (h : ∀ a ∈ list, p a = q a) (hpiece : Piece p list piece) :
    Piece q list piece := by
  obtain ⟨hfree, before, after, rfl, hbefore, hafter⟩ := hpiece
  refine ⟨fun a ha => ?_, before, after, rfl, fun a ha => ?_, fun a ha => ?_⟩
  · rw [← h a (by simp [ha]), hfree a ha]
  · rw [← h a (by simp [List.mem_of_getLast? ha]), hbefore a ha]
  · rw [← h a (by simp [List.mem_of_head? ha]), hafter a ha]

-- ---------------------------------------------------------------------------
-- Even spacing
-- ---------------------------------------------------------------------------

section
variable {space : α → Bool}

/-- Behind a space there is none, and each is that element. -/
def SingleSpaced (space : α → Bool) (sep : α) (list : List α) : Prop :=
  list.IsChain fun a b => space a = true → a = sep ∧ space b = false

theorem SingleSpaced.eq_sep (h : SingleSpaced space sep list)
    (hlast : ∀ a ∈ list.getLast?, space a = false) (ha : a ∈ list) (hspace : space a = true) :
    a = sep := by
  obtain ⟨before, after, rfl⟩ := List.append_of_mem ha
  cases after with
  | nil =>
    simp [hlast a (by simp)] at hspace
  | cons b after =>
    exact (List.isChain_iff_forall_rel_of_append_cons_cons.mp h rfl hspace).1

variable [BEq α]

theorem mem_splitOn_iff : piece ∈ list.splitOn sep ↔ Piece (· == sep) list piece := by
  rw [List.splitOn_eq_splitOnP, mem_splitOnP_iff]

variable [LawfulBEq α]

theorem piece_nil (hsep : space sep = true) (hfirst : ∀ a ∈ list.head?, space a = false)
    (hlast : ∀ a ∈ list.getLast?, space a = false) (hne : list ≠ [])
    (h : Piece (· == sep) list []) :
    ∃ before after, list = before ++ sep :: sep :: after := by
  obtain ⟨-, before, after, rfl, hbefore, hafter⟩ := h
  rcases List.eq_nil_or_concat before with rfl | ⟨front, b, rfl⟩
  · cases after with
    | nil => exact absurd rfl hne
    | cons a after =>
      have ha : a = sep := by simpa using hafter a rfl
      simp [← ha, hfirst a rfl] at hsep
  · have hb : b = sep := by simpa using hbefore b (by simp)
    subst hb
    cases after with
    | nil =>
      simp [hlast b (by simp)] at hsep
    | cons a after =>
      have ha : a = b := by simpa using hafter a rfl
      exact ⟨front, after, by simp [ha]⟩

/-- Split at one element, a list gives its runs exactly when it is evenly
spaced. -/
theorem splitOn_runs_iff (hsep : space sep = true) (hfirst : ∀ a ∈ list.head?, space a = false)
    (hlast : ∀ a ∈ list.getLast?, space a = false) (hne : list ≠ []) :
    (∀ piece, piece ∈ list.splitOn sep ↔ Run space list piece) ↔ SingleSpaced space sep list := by
  simp only [mem_splitOn_iff]
  constructor
  · intro h
    have hspace : ∀ a ∈ list, space a = true → a = sep := by
      intro a ha htrue
      by_contra hother
      obtain ⟨piece, hpiece, hmem⟩ := exists_piece (p := (· == sep)) ha (by simpa using hother)
      simp [((h piece).mp hpiece).free a hmem] at htrue
    refine List.isChain_iff_forall_rel_of_append_cons_cons.mpr fun a b before after hlist ha => ?_
    have hasep : a = sep := hspace a (by simp [hlist]) ha
    refine ⟨hasep, Bool.eq_false_iff.mpr fun hb => ?_⟩
    have hbsep : b = sep := hspace b (by simp [hlist]) hb
    have hempty : Piece (· == sep) list [] :=
      ⟨by simp, before ++ [a], b :: after, by simp [hlist], by simp [hasep], by simp [hbsep]⟩
    exact ((h []).mp hempty).ne_nil rfl
  · intro h piece
    have hsame : ∀ a ∈ list, (a == sep) = space a := by
      intro a ha
      rw [Bool.eq_iff_iff, beq_iff_eq]
      exact ⟨fun heq => heq ▸ hsep, h.eq_sep hlast ha⟩
    constructor
    · intro hpiece
      refine ⟨hpiece.congr hsame, ?_⟩
      rintro rfl
      obtain ⟨before, after, hlist⟩ := piece_nil hsep hfirst hlast hne hpiece
      have hnext := List.isChain_iff_forall_rel_of_append_cons_cons.mp h hlist hsep
      rw [hsep] at hnext
      cases hnext.2
    · intro hrun
      exact hrun.toPiece.congr fun a ha => (hsame a ha).symm

end

end ServerGame.Lib
