import ServerGame.Game.Types

/-!
# The clock

`Clock.cpp`. A clock counts from its start to its duration. It looks at the
time only when it is ticked, and forgets the count when it stops.
-/

namespace ServerGame

-- ---------------------------------------------------------------------------
-- Clock
-- ---------------------------------------------------------------------------

/-- The times are ticks of a `ptime`, `none` for `not_a_date_time`. -/
structure Clock where
  duration : Int
  isRunning : Bool := false
  time : Option Int := none
  startTime : Option Int := none
  deriving DecidableEq, Repr

namespace Clock

def difference : Option Int → Option Int → Int
  | some t, some t₀ => t - t₀
  | _, _ => notADateTimeTicks

/-- A signed sum returned as a `uint64_t`. -/
def getSecondsLeft (clock : Clock) : UInt64 :=
  if clock.isRunning then
    .ofInt (totalSeconds clock.duration + totalSeconds (difference clock.startTime clock.time))
  else .ofInt (totalSeconds clock.duration)

def start (localTime : Instant) (clock : Clock) : Clock :=
  if clock.isRunning then clock
  else { clock with isRunning := true, time := some localTime.val, startTime := some localTime.val }

def stop (clock : Clock) : Clock :=
  if clock.isRunning then { clock with isRunning := false } else clock

def checkReachedDuration (clock : Clock) : Clock :=
  if clock.duration ≤ difference clock.time clock.startTime then { clock with isRunning := false }
  else clock

def tickInternal (newTime : Option Int) (clock : Clock) : Clock :=
  { clock with time := newTime }.checkReachedDuration

def tickDelta (tickDuration : Int) (clock : Clock) : Clock :=
  if clock.isRunning then clock.tickInternal (clock.time.map (· + tickDuration)) else clock

def tick (localTime : Instant) (clock : Clock) : Clock :=
  if clock.isRunning then clock.tickInternal (some localTime.val) else clock

inductive Call
  | start (localTime : Instant)
  | stop
  | tickDelta (tickDuration : Int)
  | tick (localTime : Instant)
  deriving DecidableEq

def apply (clock : Clock) : Call → Clock
  | .start localTime => clock.start localTime
  | .stop => clock.stop
  | .tickDelta tickDuration => clock.tickDelta tickDuration
  | .tick localTime => clock.tick localTime

-- ---------------------------------------------------------------------------
-- What an observer notes
-- ---------------------------------------------------------------------------

/-- The start since the last stop, whether the clock has been ticked since its
last effective start, and the time accumulated since. -/
structure Notes where
  started : Bool := false
  ticked : Bool := false
  accumulated : Int := 0

def Notes.count (notes : Notes) (clock : Clock) (amount : Int) : Notes :=
  if clock.isRunning then
    { notes with ticked := true, accumulated := notes.accumulated + amount }
  else notes

def Notes.after (notes : Notes) (clock : Clock) : Call → Notes
  | .start _ => if clock.isRunning then notes else { started := true }
  | .stop => { notes with started := false }
  | .tickDelta tickDuration => notes.count clock tickDuration
  | .tick localTime => notes.count clock (localTime.val - clock.time.getD 0)

/-- Time does not go backwards, and a `ptime` counts it in 64 bits. -/
def Allows (clock : Clock) : Call → Prop
  | .tickDelta tickDuration =>
    0 ≤ tickDuration ∧ ∀ t, clock.time = some t → t + tickDuration < 2 ^ 63
  | .tick localTime => ∀ t, clock.time = some t → t ≤ localTime.val
  | _ => True

inductive Reaches (duration : Int) : Clock → Notes → Prop
  | init : Reaches duration { duration } {}
  | call {clock notes} (call : Call) (h : Reaches duration clock notes)
      (hcall : clock.Allows call) : Reaches duration (clock.apply call) (notes.after clock call)

structure Lawful (duration : Int) (clock : Clock) (notes : Notes) : Prop where
  running : clock.isRunning = true ↔
    notes.started = true ∧ (notes.ticked = false ∨ notes.accumulated < duration)
  secondsStopped : clock.isRunning = false →
    (clock.getSecondsLeft.toNat : Int) = duration / 1000000
  secondsRunning : clock.isRunning = true → 0 ≤ notes.accumulated ∧
    (clock.getSecondsLeft.toNat : Int) = duration / 1000000 - notes.accumulated / 1000000
  atMost : (clock.getSecondsLeft.toNat : Int) ≤ duration / 1000000
  startRunning : clock.isRunning = true → ∀ localTime, clock.start localTime = clock
  stopped : clock.isRunning = false → clock.stop = clock ∧
    (∀ tickDuration, clock.tickDelta tickDuration = clock) ∧
    ∀ localTime, clock.tick localTime = clock

-- ---------------------------------------------------------------------------
-- What stays from call to call
-- ---------------------------------------------------------------------------

/-- While the clock runs its two times are apart by what has accumulated, and
that is less than the duration once it has been ticked. -/
structure Counts (duration : Int) (clock : Clock) (notes : Notes) : Prop where
  configured : clock.duration = duration
  running : clock.isRunning = true → notes.started = true ∧ 0 ≤ notes.accumulated ∧
    (notes.ticked = false ∧ notes.accumulated = 0 ∨ notes.accumulated < duration) ∧
    ∃ t₀, clock.startTime = some t₀ ∧ clock.time = some (t₀ + notes.accumulated)
  stopped : clock.isRunning = false →
    notes.started = false ∨ notes.ticked = true ∧ duration ≤ notes.accumulated

variable {duration : Int} {clock : Clock} {notes : Notes}

theorem Counts.init (duration : Int) : Counts duration { duration } {} where
  configured := rfl
  running hrun := by cases hrun
  stopped _ := .inl rfl

theorem Counts.start (h : Counts duration clock notes) (localTime : Instant) :
    Counts duration (clock.start localTime) (notes.after clock (.start localTime)) := by
  unfold Clock.start Notes.after
  cases hrun : clock.isRunning with
  | true => exact h
  | false =>
    refine ⟨h.configured, fun _ => ⟨rfl, le_rfl, .inl ⟨rfl, rfl⟩, localTime.val, rfl, ?_⟩, ?_⟩
    · exact congrArg some (Int.add_zero _).symm
    · intro hstopped
      cases hstopped

theorem Counts.stop (h : Counts duration clock notes) :
    Counts duration clock.stop (notes.after clock .stop) := by
  have hstopped : clock.stop.isRunning = false := by
    unfold Clock.stop
    split
    · rfl
    · next hnot => simpa using hnot
  have hconfigured : clock.stop.duration = duration := by
    unfold Clock.stop
    split <;> exact h.configured
  refine ⟨hconfigured, fun hrun => ?_, fun _ => .inl rfl⟩
  simp [hstopped] at hrun

theorem Counts.tick (h : Counts duration clock notes) {amount : Int} (hamount : 0 ≤ amount)
    (hrun : clock.isRunning = true) :
    Counts duration (clock.tickInternal (clock.time.map (· + amount)))
      (notes.count clock amount) := by
  obtain ⟨hstarted, hnonneg, -, t₀, hstart, htime⟩ := h.running hrun
  have hbetween : difference (some (t₀ + notes.accumulated + amount)) (some t₀) =
      notes.accumulated + amount := by
    simp only [difference]
    omega
  rw [Notes.count, if_pos hrun, tickInternal, checkReachedDuration, htime, Option.map_some, hstart,
    hbetween, h.configured]
  by_cases hover : duration ≤ notes.accumulated + amount
  · rw [if_pos hover]
    refine ⟨rfl, fun hrun => ?_, fun _ => .inr ⟨rfl, hover⟩⟩
    cases hrun
  · rw [if_neg hover]
    refine ⟨rfl, fun _ => ⟨hstarted, ?_, .inr ?_, t₀, rfl, ?_⟩, fun hstopped => ?_⟩
    · exact Int.add_nonneg hnonneg hamount
    · exact not_le.mp hover
    · exact congrArg some (Int.add_assoc ..)
    · simp [hrun] at hstopped

theorem Counts.apply (h : Counts duration clock notes) {call : Call} (hcall : clock.Allows call) :
    Counts duration (clock.apply call) (notes.after clock call) := by
  cases call with
  | start localTime => exact h.start localTime
  | stop => exact h.stop
  | tickDelta tickDuration =>
    change Counts duration (clock.tickDelta tickDuration) (notes.count clock tickDuration)
    by_cases hrun : clock.isRunning = true
    · rw [tickDelta, if_pos hrun]
      exact h.tick hcall.1 hrun
    · rw [tickDelta, if_neg hrun, Notes.count, if_neg hrun]
      exact h
  | tick localTime =>
    change Counts duration (clock.tick localTime)
      (notes.count clock (localTime.val - clock.time.getD 0))
    by_cases hrun : clock.isRunning = true
    · obtain ⟨-, -, -, t₀, -, htime⟩ := h.running hrun
      have hnow : some (localTime.val : Int) =
          clock.time.map (· + (localTime.val - clock.time.getD 0)) := by
        rw [htime, Option.map_some, Option.getD_some, add_sub_cancel]
      have hamount : 0 ≤ (localTime.val : Int) - clock.time.getD 0 := by
        rw [htime]
        exact Int.sub_nonneg_of_le (hcall _ htime)
      rw [Clock.tick, if_pos hrun, hnow]
      exact h.tick hamount hrun
    · rw [Clock.tick, if_neg hrun, Notes.count, if_neg hrun]
      exact h

theorem Reaches.counts (h : Reaches duration clock notes) : Counts duration clock notes := by
  induction h with
  | init => exact .init duration
  | call call _ hcall ih => exact ih.apply hcall

-- ---------------------------------------------------------------------------
-- What the clock shows
-- ---------------------------------------------------------------------------

theorem toNat_ofInt {n : Int} (hnonneg : 0 ≤ n) (hlt : n < 2 ^ 64) :
    ((UInt64.ofInt n).toNat : Int) = n := by
  rw [UInt64.ofInt, UInt64.toNat_ofNat']
  omega

theorem Counts.seconds_stopped (h : Counts duration clock notes) (hnonneg : 0 ≤ duration)
    (hlt : duration < 2 ^ 63) (hstopped : clock.isRunning = false) :
    (clock.getSecondsLeft.toNat : Int) = duration / 1000000 := by
  have hseconds : totalSeconds duration = duration / 1000000 := Int.tdiv_eq_ediv_of_nonneg hnonneg
  rw [getSecondsLeft, if_neg (by simp [hstopped]), h.configured, hseconds]
  exact toNat_ofInt (by omega) (by omega)

/-- The difference is negative, and truncating it rounds the elapsed seconds
down. -/
theorem Counts.seconds_running (h : Counts duration clock notes) (hnonneg : 0 ≤ duration)
    (hlt : duration < 2 ^ 63) (hrun : clock.isRunning = true) :
    (clock.getSecondsLeft.toNat : Int) =
      duration / 1000000 - notes.accumulated / 1000000 := by
  obtain ⟨-, haccumulated, hless, t₀, hstart, htime⟩ := h.running hrun
  have hseconds : totalSeconds duration = duration / 1000000 := Int.tdiv_eq_ediv_of_nonneg hnonneg
  have hbetween : difference clock.startTime clock.time = -notes.accumulated := by
    rw [hstart, htime, difference]
    omega
  have hgone : totalSeconds (-notes.accumulated) = -(notes.accumulated / 1000000) := by
    rw [totalSeconds, Int.neg_tdiv, Int.tdiv_eq_ediv_of_nonneg haccumulated]
  rw [getSecondsLeft, if_pos hrun, h.configured, hseconds, hbetween, hgone, ← Int.sub_eq_add_neg]
  exact toNat_ofInt (by omega) (by omega)

/-- After any calls in which time does not go backwards, the clock of a duration
does as promised. -/
theorem lawful (duration : Fin (2 ^ 63)) (clock : Clock) (notes : Notes)
    (h : Reaches duration.val clock notes) : Lawful duration.val clock notes := by
  have hcounts := h.counts
  have hnonneg : (0 : Int) ≤ duration.val := Int.natCast_nonneg _
  have hlt : (duration.val : Int) < 2 ^ 63 := by exact_mod_cast duration.isLt
  refine ⟨⟨fun hrun => ?_, fun ⟨hstarted, hnot⟩ => ?_⟩, hcounts.seconds_stopped hnonneg hlt,
    fun hrun => ⟨(hcounts.running hrun).2.1, hcounts.seconds_running hnonneg hlt hrun⟩, ?_,
    fun hrun localTime => if_pos hrun, fun hstopped => ?_⟩
  · obtain ⟨hstarted, -, hless, -⟩ := hcounts.running hrun
    exact ⟨hstarted, hless.imp And.left id⟩
  · by_contra hrun
    rcases hcounts.stopped (by simpa using hrun) with hoff | ⟨hticked, hover⟩
    · simp [hstarted] at hoff
    · rcases hnot with hnot | hless
      · simp [hticked] at hnot
      · omega
  · cases hrun : clock.isRunning with
    | true =>
      have haccumulated := (hcounts.running hrun).2.1
      rw [hcounts.seconds_running hnonneg hlt hrun]
      omega
    | false => exact (hcounts.seconds_stopped hnonneg hlt hrun).le
  · have hnot : ¬clock.isRunning = true := by simp [hstopped]
    exact ⟨if_neg hnot, fun _ => if_neg hnot, fun _ => if_neg hnot⟩

def tenSeconds : Clock :=
  (({ duration := 10000000 : Clock }.start 5).tickDelta 1500000).tick 2500005

theorem lawful_tenSeconds :
    tenSeconds.isRunning = true ∧ tenSeconds.getSecondsLeft = 8 ∧ Lawful 10000000 tenSeconds
      { started := true, ticked := true, accumulated := 2500000 } := by
  have hstart : Reaches 10000000 _ _ := (@Reaches.init 10000000).call (.start 5) trivial
  have hdelta := hstart.call (.tickDelta 1500000) ⟨by decide, fun t ht => by cases ht; decide⟩
  refine ⟨rfl, rfl, lawful 10000000 _ _ (hdelta.call (.tick 2500005) fun t ht => ?_)⟩
  cases ht
  decide

end Clock

end ServerGame
