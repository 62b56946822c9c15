import ServerGame.Server

/-!
# The timings of a pong

A `server_game` timing without a timestamp ends the loop, so the timings behind
it are sent back as they came, and the difference is taken without looking at
which time is the later one.
-/

namespace ServerGame

-- ---------------------------------------------------------------------------
-- One timing
-- ---------------------------------------------------------------------------

namespace Timing

/-- A timing of the server that is not later than now gets the time between;
any other one stays as it is. -/
def answered (now : UInt64) (timing : Timing) : Timing :=
  if timing.logger = serverGameLogger then
    timing.timestamp.elim timing fun sent =>
      if sent ≤ now then { timing with elapsed := some (now - sent) } else timing
  else timing

def subtracted (now : UInt64) (timing : Timing) : Timing :=
  if timing.logger = serverGameLogger then
    timing.timestamp.elim timing fun sent => { timing with elapsed := some (now - sent) }
  else timing

def goesOn (timing : Timing) : Bool :=
  timing.logger ≠ serverGameLogger || timing.timestamp.isSome

variable {now sent : UInt64} {timing : Timing}

theorem answered_of_other (h : timing.logger ≠ serverGameLogger) :
    timing.answered now = timing := if_neg h

theorem subtracted_of_other (h : timing.logger ≠ serverGameLogger) :
    timing.subtracted now = timing := if_neg h

theorem answered_of_none (h : timing.timestamp = none) : timing.answered now = timing := by
  simp [answered, h]

theorem subtracted_of_none (h : timing.timestamp = none) : timing.subtracted now = timing := by
  simp [subtracted, h]

theorem answered_of_some (hlogger : timing.logger = serverGameLogger)
    (hsent : timing.timestamp = some sent) :
    timing.answered now =
      if sent ≤ now then { timing with elapsed := some (now - sent) } else timing := by
  simp [answered, hlogger, hsent]

theorem subtracted_of_some (hlogger : timing.logger = serverGameLogger)
    (hsent : timing.timestamp = some sent) :
    timing.subtracted now = { timing with elapsed := some (now - sent) } := by
  simp [subtracted, hlogger, hsent]

theorem setElapsed_eq_self_iff :
    ({ timing with elapsed := some (now - sent) } : Timing) = timing ↔
      timing.elapsed = some (now - sent) := by
  cases timing
  simp [eq_comm]

theorem subtracted_eq_answered_iff :
    timing.subtracted now = timing.answered now ↔ (timing.logger = serverGameLogger →
      ∀ sent, timing.timestamp = some sent → sent ≤ now ∨ timing.elapsed = some (now - sent)) := by
  by_cases hlogger : timing.logger = serverGameLogger
  · cases hsent : timing.timestamp with
    | none => simp [subtracted_of_none hsent, answered_of_none hsent]
    | some sent =>
      rw [subtracted_of_some hlogger hsent, answered_of_some hlogger hsent]
      by_cases hle : sent ≤ now
      · simp [hle]
      · rw [if_neg hle, setElapsed_eq_self_iff]
        simp [hlogger, hle]
  · simp [subtracted_of_other hlogger, answered_of_other hlogger, hlogger]

theorem eq_answered_iff :
    timing = timing.answered now ↔ (timing.logger = serverGameLogger →
      ∀ sent, timing.timestamp = some sent → sent ≤ now → timing.elapsed = some (now - sent)) := by
  by_cases hlogger : timing.logger = serverGameLogger
  · cases hsent : timing.timestamp with
    | none => simp [answered_of_none hsent]
    | some sent =>
      rw [answered_of_some hlogger hsent]
      by_cases hle : sent ≤ now
      · rw [if_pos hle, eq_comm, setElapsed_eq_self_iff]
        simp [hlogger, hle]
      · simp [hle]
  · simp [answered_of_other hlogger, hlogger]

end Timing

-- ---------------------------------------------------------------------------
-- The loop
-- ---------------------------------------------------------------------------

namespace ProcessPong

theorem setElapsed_eq (now : UInt64) (timings : List Timing) :
    setElapsed now timings =
      (timings.takeWhile Timing.goesOn).map (Timing.subtracted now) ++
        timings.dropWhile Timing.goesOn := by
  induction timings with
  | nil => rfl
  | cons timing rest ih =>
    by_cases hlogger : timing.logger = serverGameLogger
    · cases hsent : timing.timestamp with
      | none =>
        have hstop : timing.goesOn = false := by simp [Timing.goesOn, hlogger, hsent]
        simp [setElapsed, hlogger, hsent, hstop]
      | some sent =>
        have hgo : timing.goesOn = true := by simp [Timing.goesOn, hsent]
        simp [setElapsed, hlogger, hsent, hgo, ih, Timing.subtracted_of_some hlogger hsent]
    · have hgo : timing.goesOn = true := by simp [Timing.goesOn, hlogger]
      simp [setElapsed, hlogger, hgo, ih, Timing.subtracted_of_other hlogger]

/-- Each timing the loop gets to is not later than now, each one behind its
end is, except for those that carry the difference already. -/
structure TimesFit (now : UInt64) (timings : List Timing) : Prop where
  reached : ∀ timing ∈ timings.takeWhile Timing.goesOn, timing.logger = serverGameLogger →
    ∀ sent, timing.timestamp = some sent → sent ≤ now ∨ timing.elapsed = some (now - sent)
  behind : ∀ timing ∈ timings.dropWhile Timing.goesOn, timing.logger = serverGameLogger →
    ∀ sent, timing.timestamp = some sent → sent ≤ now → timing.elapsed = some (now - sent)

theorem setElapsed_eq_answered_iff {now : UInt64} {timings : List Timing} :
    setElapsed now timings = timings.map (Timing.answered now) ↔ TimesFit now timings := by
  have hsplit : timings.map (Timing.answered now) =
      (timings.takeWhile Timing.goesOn).map (Timing.answered now) ++
        (timings.dropWhile Timing.goesOn).map (Timing.answered now) := by
    rw [← List.map_append, List.takeWhile_append_dropWhile]
  have hparts : setElapsed now timings = timings.map (Timing.answered now) ↔
      (timings.takeWhile Timing.goesOn).map (Timing.subtracted now) =
          (timings.takeWhile Timing.goesOn).map (Timing.answered now) ∧
        timings.dropWhile Timing.goesOn =
          (timings.dropWhile Timing.goesOn).map (Timing.answered now) := by
    rw [setElapsed_eq, hsplit]
    constructor
    · intro h
      exact List.append_inj h (by simp)
    · rintro ⟨hfirst, hlast⟩
      rw [← hfirst, ← hlast]
  rw [hparts, List.map_inj_left]
  constructor
  · rintro ⟨hreached, hbehind⟩
    refine ⟨fun timing hmem => Timing.subtracted_eq_answered_iff.mp (hreached timing hmem),
      fun timing hmem => Timing.eq_answered_iff.mp ?_⟩
    have hself : (timings.dropWhile Timing.goesOn).map id =
        (timings.dropWhile Timing.goesOn).map (Timing.answered now) := by
      rw [List.map_id, ← hbehind]
    exact List.map_inj_left.mp hself timing hmem
  · rintro ⟨hreached, hbehind⟩
    refine ⟨fun timing hmem => Timing.subtracted_eq_answered_iff.mpr (hreached timing hmem), ?_⟩
    symm
    exact (List.map_congr_left fun timing hmem =>
      (Timing.eq_answered_iff.mpr (hbehind timing hmem)).symm).trans (List.map_id _)

/-- The pong sent back has each timing answered on its own just when no other
timing gets in its way. -/
theorem execute_answers_iff (destination : Str) (pong : Timings) (localTime : Instant)
    (game : Game) :
    (execute destination pong localTime game).sent = [publish destination
        (.pong { timing := pong.timing.map (Timing.answered (timestampOf localTime)) })] ↔
      TimesFit (timestampOf localTime) pong.timing := by
  rw [← setElapsed_eq_answered_iff]
  simp [execute, publish]

/-- Two seconds after the epoch: the second timing is a second old, but the first one has no
timestamp. -/
theorem execute_stops_early :
    ¬∀ (destination : Str) (pong : Timings) (localTime : Instant) (game : Game),
      (execute destination pong localTime game).sent = [publish destination
        (.pong { timing := pong.timing.map (Timing.answered (timestampOf localTime)) })] := by
  intro h
  have hsent := h [] { timing := [{ logger := serverGameLogger },
    { logger := serverGameLogger, timestamp := some 1000 }] } 210866803202000000
    (Game.create 0 oneTeam)
  revert hsent
  decide

end ProcessPong

end ServerGame
