import ServerGame.Game.Laws

/-!
# Time-out

`getSecondsLeft` subtracts whole seconds and returns the signed difference as
a `uint64_t`; the game stops at exactly 0. A tick that comes a whole second
too late therefore finds a wrapped count and goes on.
-/

namespace ServerGame.Game

variable {game : Game}

/-- What the time-out promises in a state: the seconds left are at most the
duration, and a tick at or after the deadline stops the game. -/
def TimeOutLaw (game : Game) : Prop :=
  (game.getSecondsLeft.toNat : Int) ≤ totalSeconds game.gameDuration ∧
    ∀ steps game', game.step = .ok (steps, game') →
      game.gameDuration ≤ game.time.since game.startTime → game'.isRunning = false

theorem totalSeconds_mul (d : Int) : totalSeconds (d * 1000000) = d :=
  Int.mul_tdiv_cancel d (by decide)

theorem totalSeconds_of_nonneg {d : Int} (h : 0 ≤ d) : totalSeconds d = d / 1000000 :=
  Int.tdiv_eq_ediv_of_nonneg h

theorem getSecondsLeft_running (h : game.isRunning = true) :
    (game.getSecondsLeft.toNat : Int) =
      (totalSeconds game.gameDuration - totalSeconds (game.time.since game.startTime)) %
        2 ^ 64 := by
  simp only [getSecondsLeft, h, ↓reduceIte, UInt64.ofInt, UInt64.toNat_ofNat']
  omega

theorem since_nonneg {startTime now : Instant} (h : startTime ≤ now) :
    0 ≤ (Ptime.at now).since (.at startTime) := by
  have : startTime.val ≤ now.val := h
  simp only [Ptime.since]
  omega

/-- The count has not wrapped as long as the elapsed whole seconds are within
the duration. -/
theorem getSecondsLeft_le_iff {d : Int} {startTime now : Instant} (hrun : game.isRunning = true)
    (hdur : game.gameDuration = d * 1000000) (hrep : d * 1000000 < 2 ^ 63)
    (hstart : game.startTime = .at startTime) (hnow : game.time = .at now)
    (hle : startTime ≤ now) :
    (game.getSecondsLeft.toNat : Int) ≤ totalSeconds game.gameDuration ↔
      (Ptime.at now).since (.at startTime) < d * 1000000 + 1000000 := by
  have ht := now.isLt
  have he := since_nonneg hle
  rw [getSecondsLeft_running hrun, hdur, hnow, hstart, totalSeconds_mul, totalSeconds_of_nonneg he]
  simp only [Ptime.since] at he ⊢
  omega

theorem getSecondsLeft_eq_zero {d : Int} {startTime now : Instant}
    (hrun : game.isRunning = true) (hdur : game.gameDuration = d * 1000000)
    (hstart : game.startTime = .at startTime) (hnow : game.time = .at now)
    (hle : startTime ≤ now) (hdeadline : d * 1000000 ≤ (Ptime.at now).since (.at startTime))
    (hlt : (Ptime.at now).since (.at startTime) < d * 1000000 + 1000000) :
    game.getSecondsLeft = 0 := by
  have h := getSecondsLeft_running hrun
  have he := since_nonneg hle
  rw [hdur, hnow, hstart, totalSeconds_mul, totalSeconds_of_nonneg he] at h
  apply UInt64.toNat_inj.mp
  rw [UInt64.toNat_zero]
  omega

theorem handleContacts_getSecondsLeft {steps : List ContactStep} {handled : Game}
    (h : game.handleContacts = .ok (steps, handled)) :
    handled.getSecondsLeft = game.getSecondsLeft := by
  rw [handleContacts_frame h]
  rfl

theorem step_isRunning_of_getSecondsLeft {steps : List ContactStep} {game' : Game}
    (h : game.step = .ok (steps, game')) (hz : game.getSecondsLeft = 0) :
    game'.isRunning = false := by
  obtain ⟨handled, hh, rfl⟩ := step_ok.mp h
  have hz' := (handleContacts_getSecondsLeft hh).trans hz
  simp [stopIfGameIsFinished, hz']

/-- In a running game the time-out works exactly as long as less than a second
has passed since the deadline when the time is read. -/
theorem timeOut_iff (d : Int) (startTime now : Instant) (hrun : game.isRunning = true)
    (hdur : game.gameDuration = d * 1000000) (hrep : d * 1000000 < 2 ^ 63)
    (hstart : game.startTime = .at startTime) (hle : startTime ≤ now) :
    (game.setTime (.at now)).TimeOutLaw ↔
      (Ptime.at now).since (.at startTime) < d * 1000000 + 1000000 := by
  have hiff := @getSecondsLeft_le_iff (game.setTime (.at now)) d startTime now hrun hdur hrep
    hstart rfl hle
  constructor
  · intro h
    exact hiff.mp h.1
  · intro hlt
    refine ⟨hiff.mpr hlt, fun steps game' hstep hdeadline => ?_⟩
    have hpast : d * 1000000 ≤ (Ptime.at now).since (.at startTime) := by
      rw [← hdur, ← hstart]
      exact hdeadline
    exact step_isRunning_of_getSecondsLeft hstep
      (getSecondsLeft_eq_zero hrun hdur hstart rfl hle hpast hlt)

def twoSeconds : Game :=
  (create 2000000 { scoreToWin := 1, pointsOnCapture := 1, timeToCapture := 0 }).start
    true (some (.at 0)) (.at 0)

theorem timeOut_iff_twoSeconds : (twoSeconds.setTime (.at 2500000)).TimeOutLaw :=
  (timeOut_iff 2 0 2500000 rfl rfl (by decide) rfl (by decide)).mpr (by decide)

/-- A tick three seconds after the start: the count has wrapped and the game
goes on. -/
theorem timeOut_missed :
    (twoSeconds.setTime (.at 3000000)).isRunning = true ∧
      (twoSeconds.setTime (.at 3000000)).getSecondsLeft = 18446744073709551615 ∧
      ∃ game', (twoSeconds.setTime (.at 3000000)).step = .ok ([], game') ∧
        game'.isRunning = true ∧
        ¬(twoSeconds.setTime (.at 3000000)).TimeOutLaw := by
  refine ⟨rfl, rfl, _, rfl, rfl, fun h => ?_⟩
  exact absurd h.1 (by decide)

end ServerGame.Game
