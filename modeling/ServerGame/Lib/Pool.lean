import Mathlib

/-!
# Pools

Elements that are handed out one at a time and never come back: the free ones,
taken from the end, and those already taken. Nothing is lost and, when the pool
was filled without repetition, nothing is handed out twice.
-/

namespace ServerGame.Lib

structure Pool (α : Type u) where
  free : List α
  taken : List α

namespace Pool

variable {α : Type u} {pool pool' : Pool α} {a : α} {all : List α}

def take (pool : Pool α) : Option (α × Pool α) :=
  pool.free.getLast?.map fun a => (a, { free := pool.free.dropLast, taken := pool.taken ++ [a] })

theorem take_eq_none : pool.take = none ↔ pool.free = [] := by
  simp [take]

theorem take_eq_some : pool.take = some (a, pool') ↔
    pool.free = pool'.free ++ [a] ∧ pool'.taken = pool.taken ++ [a] := by
  simp only [take, Option.map_eq_some_iff, Prod.mk.injEq]
  constructor
  · rintro ⟨a, ha, rfl, rfl⟩
    exact ⟨(List.dropLast_append_getLast? a ha).symm, rfl⟩
  · rintro ⟨hfree, htaken⟩
    refine ⟨a, by simp [hfree], rfl, ?_⟩
    simp [hfree, ← htaken]

/-- These are the elements of the pool, free or taken. -/
def Holds (pool : Pool α) (all : List α) : Prop := (pool.free ++ pool.taken).Perm all

theorem Holds.take (h : pool.Holds all) (htake : pool.take = some (a, pool')) :
    pool'.Holds all := by
  obtain ⟨hfree, htaken⟩ := take_eq_some.mp htake
  refine List.Perm.trans ?_ h
  rw [hfree, htaken, List.append_assoc]
  exact List.perm_append_comm.append_left _

theorem Holds.mem_of_taken (h : pool.Holds all) (ha : a ∈ pool.taken) : a ∈ all :=
  h.mem_iff.mp (List.mem_append_right _ ha)

theorem Holds.mem_of_take (h : pool.Holds all) (htake : pool.take = some (a, pool')) :
    a ∈ all := by
  have htaken := (take_eq_some.mp htake).2
  exact (h.take htake).mem_of_taken (by simp [htaken])

theorem Holds.nodup (h : pool.Holds all) (hall : all.Nodup) : (pool.free ++ pool.taken).Nodup :=
  h.nodup_iff.mpr hall

theorem Holds.nodup_taken (h : pool.Holds all) (hall : all.Nodup) : pool.taken.Nodup :=
  (List.nodup_append'.mp (h.nodup hall)).2.1

theorem Holds.notMem_taken (h : pool.Holds all) (hall : all.Nodup)
    (htake : pool.take = some (a, pool')) : a ∉ pool.taken := by
  have hdisjoint := (List.nodup_append'.mp (h.nodup hall)).2.2
  refine fun htaken => hdisjoint ?_ htaken
  rw [(take_eq_some.mp htake).1]
  simp

end Pool

end ServerGame.Lib
