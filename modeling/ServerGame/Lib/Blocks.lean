import Mathlib

/-!
# Blocks of tag, length and value

A sequence of blocks up to a zero tag can be read back as it was written when
no tag is zero and each length fits into its byte. Nothing in a value is taken
for a tag, as its length says where it ends.
-/

namespace ServerGame.Lib

variable {α : Type*} (toNat : α → Nat) (ofNat : Nat → α)

def block (tag : α) (value : List α) : List α := tag :: ofNat value.length :: value

def blocks (parts : List (α × List α)) : List α :=
  parts.flatMap fun part => block ofNat part.1 part.2

/-- The blocks before the zero tag and what stands behind it, `none` if a block
is cut off. -/
def readBlocks : List α → Option (List (α × List α) × List α)
  | [] => none
  | tag :: rest =>
    if toNat tag = 0 then some ([], rest)
    else
      match rest with
      | [] => none
      | length :: rest =>
        if rest.length < toNat length then none
        else
          (readBlocks (rest.drop (toNat length))).map fun found =>
            ((tag, rest.take (toNat length)) :: found.1, found.2)
  termination_by bytes => bytes.length

variable {toNat ofNat}

theorem readBlocks_end {tag : α} (htag : toNat tag = 0) (rest : List α) :
    readBlocks toNat (tag :: rest) = some ([], rest) := by
  rw [readBlocks.eq_def]
  exact if_pos htag

theorem readBlocks_block {tag : α} {value : List α} (htag : toNat tag ≠ 0)
    (hlength : toNat (ofNat value.length) = value.length) (rest : List α) :
    readBlocks toNat (block ofNat tag value ++ rest) =
      (readBlocks toNat rest).map fun found => ((tag, value) :: found.1, found.2) := by
  have henough : ¬(value ++ rest).length < value.length := by simp
  rw [block, List.cons_append, List.cons_append, readBlocks.eq_def]
  simp only [if_neg htag, hlength, if_neg henough, List.drop_left, List.take_left]

theorem readBlocks_blocks {parts : List (α × List α)} (htags : ∀ part ∈ parts, toNat part.1 ≠ 0)
    (hlengths : ∀ part ∈ parts, toNat (ofNat part.2.length) = part.2.length) {last : α}
    (hlast : toNat last = 0) (rest : List α) :
    readBlocks toNat (blocks ofNat parts ++ last :: rest) = some (parts, rest) := by
  induction parts with
  | nil => exact readBlocks_end hlast rest
  | cons part parts ih =>
    have hrest := ih (fun p hp => htags p (List.mem_cons_of_mem _ hp))
      fun p hp => hlengths p (List.mem_cons_of_mem _ hp)
    rw [blocks, List.flatMap_cons, List.append_assoc,
      readBlocks_block (htags part List.mem_cons_self) (hlengths part List.mem_cons_self)]
    exact congrArg (Option.map _) hrest

end ServerGame.Lib
