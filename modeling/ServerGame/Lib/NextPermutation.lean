import Mathlib

/-!
# The next permutation

`std::next_permutation`: the next arrangement of a list in lexicographic order,
and behind the last one the first again.
-/

namespace ServerGame.Lib

variable {α : Type*}

/-- The next arrangement, if the list is not in descending order. -/
def laterPermutation (lt : α → α → Bool) : List α → Option (List α)
  | [] => none
  | a :: rest =>
    match laterPermutation lt rest with
    | some next => some (a :: next)
    | none =>
      -- the rest is in descending order: the least element above `a` changes places with it
      match rest.reverse.span fun b => !lt a b with
      | (below, b :: above) => some (b :: (below ++ a :: above))
      | (_, []) => none

def nextPermutation (lt : α → α → Bool) (list : List α) : List α :=
  (laterPermutation lt list).getD list.reverse

theorem nextPermutation_pair (lt : α → α → Bool) (a b : α) :
    nextPermutation lt [a, b] = [b, a] := by
  cases h : lt a b <;> simp [nextPermutation, laterPermutation, List.span_eq_takeWhile_dropWhile, h]

end ServerGame.Lib
