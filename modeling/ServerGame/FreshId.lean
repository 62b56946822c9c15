import ServerGame.Lib.LeastFree
import ServerGame.Server

/-!
# Fresh robot ids

The loop of `getNewRobotId` goes through the indexes from 0 on. With fewer than
2^32 robots one of the ids it tries is free before the index is back at 0.
-/

namespace ServerGame

open Lib (LeastFree)

-- ---------------------------------------------------------------------------
-- The ids
-- ---------------------------------------------------------------------------

namespace Game

variable {game : Game}

def robotIdOf (index : Nat) : Str := robotIdPrefix ++ Nat.toDigits 10 index

theorem toDigits_injective : Function.Injective (Nat.toDigits 10) := by
  intro n m h
  rw [← @Nat.ofDigitChars_ten_toDigits n, h, Nat.ofDigitChars_ten_toDigits]

theorem robotIdOf_injective : Function.Injective robotIdOf := fun _ _ h =>
  toDigits_injective (List.append_cancel_left h)

def robotIds (game : Game) : List Str :=
  game.robots.toList.map fun entry => (game.robot entry.2).robotId

theorem mem_robotIds {id : Str} :
    id ∈ game.robotIds ↔ ∃ (name : Str) (r : RobotRef), game.robots[name]? = some r ∧
      (game.robot r).robotId = id := by
  simp [robotIds, Std.ExtTreeMap.mem_toList_iff_getElem?_eq_some]

theorem robotIds_length : game.robotIds.length = game.robots.size := by
  simp [robotIds]

-- ---------------------------------------------------------------------------
-- The loop
-- ---------------------------------------------------------------------------

theorem getNewRobotIdLoop_of_leastFree {alreadyThere : Str → Bool} {used : List Str}
    (hthere : ∀ id, alreadyThere id = true ↔ id ∈ used) {n : Nat}
    (hfree : LeastFree robotIdOf used n) (hn : n < 2 ^ 32) (k fuel : Nat) (index : UInt32)
    (hindex : index.toNat + k = n) (hfuel : k < fuel) :
    getNewRobotIdLoop alreadyThere fuel index = some (robotIdOf n) := by
  induction k generalizing fuel index with
  | zero =>
    obtain ⟨fuel, rfl⟩ := Nat.exists_eq_succ_of_ne_zero (Nat.ne_of_gt hfuel)
    have hlast : index.toNat = n := hindex
    have hstop : ¬alreadyThere (robotIdPrefix ++ Nat.toDigits 10 index.toNat) = true := by
      rw [hlast, hthere]
      exact hfree.free
    rw [getNewRobotIdLoop, if_neg hstop, hlast]
    rfl
  | succ k ih =>
    obtain ⟨fuel, rfl⟩ := Nat.exists_eq_succ_of_ne_zero (Nat.ne_zero_of_lt hfuel)
    have hgo : alreadyThere (robotIdPrefix ++ Nat.toDigits 10 index.toNat) = true :=
      (hthere _).mpr (hfree.taken index.toNat (by omega))
    have hnext : (index + 1).toNat = index.toNat + 1 := by
      rw [UInt32.toNat_add]
      exact Nat.mod_eq_of_lt (by change index.toNat + 1 < 2 ^ 32; omega)
    rw [getNewRobotIdLoop, if_pos hgo]
    exact ih fuel (index + 1) (by omega) (by omega)

theorem getNewRobotId_leastFree {game : Game} (h : game.robots.size < 2 ^ 32) :
    ∃ n ≤ game.robots.size, game.getNewRobotId = some (robotIdOf n) ∧
      LeastFree robotIdOf game.robotIds n := by
  obtain ⟨n, hn, hfree⟩ := Lib.exists_leastFree robotIdOf_injective game.robotIds
  rw [robotIds_length] at hn
  have hthere : ∀ id, (game.robots.toList.any fun entry => (game.robot entry.2).robotId == id) =
      true ↔ id ∈ game.robotIds := by
    intro id
    simp [robotIds]
  refine ⟨n, hn, ?_, hfree⟩
  exact getNewRobotIdLoop_of_leastFree hthere hfree (by omega) n (2 ^ 32) 0 (by simp) (by omega)

/-- With fewer than 2^32 robots the search ends, at the least index whose id no
robot has; there is one among the first as many indexes as there are robots and
one more. -/
theorem getNewRobotId_least (game : Game) (h : game.robots.size < 2 ^ 32) :
    ∃ index ≤ game.robots.size, game.getNewRobotId = some (robotIdOf index) ∧
      (∀ (name : Str) r, game.robots[name]? = some r →
        (game.robot r).robotId ≠ robotIdOf index) ∧
      ∀ smaller < index, ∃ (name : Str) (r : RobotRef), game.robots[name]? = some r ∧
        (game.robot r).robotId = robotIdOf smaller := by
  obtain ⟨n, hn, hid, hfree⟩ := getNewRobotId_leastFree h
  refine ⟨n, hn, hid, fun name r hr hused => ?_, fun m hm => mem_robotIds.mp (hfree.taken m hm)⟩
  exact hfree.free (mem_robotIds.mpr ⟨name, r, hr, hused⟩)

/-- Robots 0 and 2: the id between them is free. -/
theorem getNewRobotId_least_gap :
    ∃ index ≤ 2, ((((Game.create 0 oneTeam).insertRobot "r1".toList ⟨0⟩ 0 0
      "robot_0".toList).insertRobot "r2".toList ⟨0⟩ 0 0 "robot_2".toList).getNewRobotId =
        some (robotIdOf index)) := by
  obtain ⟨index, hle, hid, -⟩ := getNewRobotId_least
    (((Game.create 0 oneTeam).insertRobot "r1".toList ⟨0⟩ 0 0 "robot_0".toList).insertRobot
      "r2".toList ⟨0⟩ 0 0 "robot_2".toList) (by decide)
  exact ⟨index, hle, hid⟩

end Game

end ServerGame
