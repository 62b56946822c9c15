import Mathlib

/-!
# Cutting a list at a separator

The part before the first occurrence of a separator and the part behind it.
Cutting undoes joining whenever the first part does not have the separator.
-/

namespace ServerGame.Lib

variable {α : Type*} [DecidableEq α] {separator : α} {before behind list : List α}

/-- What stands before and behind the first separator, `none` without one. -/
def cut (separator : α) : List α → Option (List α × List α)
  | [] => none
  | a :: rest =>
    if a = separator then some ([], rest)
    else (cut separator rest).map fun parts => (a :: parts.1, parts.2)

theorem cut_eq_none_iff : cut separator list = none ↔ separator ∉ list := by
  induction list with
  | nil => simp [cut]
  | cons a rest ih =>
    by_cases ha : a = separator
    · simp [cut, ha]
    · simp [cut, ha, ih, Ne.symm ha]

theorem cut_append (h : separator ∉ before) (behind : List α) :
    cut separator (before ++ separator :: behind) = some (before, behind) := by
  induction before with
  | nil => simp [cut]
  | cons a rest ih =>
    obtain ⟨ha, hrest⟩ := not_or.mp (mt List.mem_cons.mpr h)
    simp [cut, Ne.symm ha, ih hrest]

theorem eq_append_of_cut (h : cut separator list = some (before, behind)) :
    list = before ++ separator :: behind ∧ separator ∉ before := by
  induction list generalizing before with
  | nil => simp [cut] at h
  | cons a rest ih =>
    by_cases ha : a = separator
    · obtain ⟨rfl, rfl⟩ : [] = before ∧ rest = behind := by simpa [cut, ha] using h
      simp [ha]
    · obtain ⟨first, hcut, rfl⟩ : ∃ first, cut separator rest = some (first, behind) ∧
          a :: first = before := by simpa [cut, ha] using h
      obtain ⟨hrest, hfirst⟩ := ih hcut
      exact ⟨by rw [hrest, List.cons_append], by simp [Ne.symm ha, hfirst]⟩

theorem findIdx?_eq_cut (list : List α) :
    list.findIdx? (· == separator) = (cut separator list).map fun parts => parts.1.length := by
  induction list with
  | nil => rfl
  | cons a rest ih =>
    by_cases ha : a = separator
    · simp [cut, ha, List.findIdx?_cons]
    · simp [cut, ha, List.findIdx?_cons, ih, Function.comp_def]

theorem count_of_cut (h : cut separator list = some (before, behind)) :
    list.count separator = behind.count separator + 1 := by
  obtain ⟨rfl, hbefore⟩ := eq_append_of_cut h
  simp [List.count_append, List.count_eq_zero.mpr hbefore]

end ServerGame.Lib
