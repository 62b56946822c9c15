import ServerGame.Broadcasts
import ServerGame.TimeOut

/-!
# The countdown

What the broadcasts of a round tell of the time: the seconds between the start
and the last reading of the clock, taken from the duration. While the clock
goes on the count can only fall, until it wraps.
-/

namespace ServerGame

variable {env : Externals} {app app' : Application} {event : Event} {events : List Event}
  {output : Output} {outputs : List Output} {game game' : Game} {state : GameState}
  {duration : Int} {startTime now later : Instant}

def Event.reading : Event → Option Instant
  | .clock currentTic => some currentTic
  | _ => none

/-- The clock does not go back, from `now` on. -/
def TimeGoesOn (now : Instant) (events : List Event) : Prop :=
  (now :: events.filterMap Event.reading).Pairwise (· ≤ ·)

def Event.KeepsDuration (event : Event) : Prop :=
  ∀ property value localTime, event ≠ .agent (.setGame property value) localTime

theorem TimeGoesOn.next (h : TimeGoesOn now (event :: events)) :
    now ≤ event.reading.getD now ∧ TimeGoesOn (event.reading.getD now) events := by
  unfold TimeGoesOn at h
  cases hreading : event.reading with
  | none =>
    rw [List.filterMap_cons_none hreading] at h
    exact ⟨le_rfl, h⟩
  | some time =>
    rw [List.filterMap_cons_some hreading, List.pairwise_cons, List.forall_mem_cons] at h
    exact ⟨h.1.1, h.2⟩

-- ---------------------------------------------------------------------------
-- The count
-- ---------------------------------------------------------------------------

/-- What `getSecondsLeft` gives of a running game at a time. -/
def secondsAt (duration : Int) (startTime now : Instant) : UInt64 :=
  UInt64.ofInt (totalSeconds duration - totalSeconds ((Ptime.at now).since (.at startTime)))

theorem secondsAt_toNat :
    ((secondsAt duration startTime now).toNat : Int) =
      (totalSeconds duration - totalSeconds ((Ptime.at now).since (.at startTime))) % 2 ^ 64 := by
  simp only [secondsAt, UInt64.ofInt, UInt64.toNat_ofNat']
  omega

theorem totalSeconds_mono {d d' : Int} (h : d ≤ d') : totalSeconds d ≤ totalSeconds d' :=
  Int.tdiv_le_tdiv (by decide) h

/-- A later count that has not wrapped is no higher. The times are too near for
the earlier one to have come round. -/
theorem secondsAt_le (hrep : duration < 2 ^ 63) (hle : now ≤ later)
    (hfits : ((secondsAt duration startTime later).toNat : Int) ≤ totalSeconds duration) :
    secondsAt duration startTime later ≤ secondsAt duration startTime now := by
  have hgoes : totalSeconds ((Ptime.at now).since (.at startTime)) ≤
      totalSeconds ((Ptime.at later).since (.at startTime)) := totalSeconds_mono (by
    have : now.val ≤ later.val := hle
    simp only [Ptime.since]
    omega)
  have hlow : totalSeconds (-2 ^ 62) ≤ totalSeconds ((Ptime.at now).since (.at startTime)) :=
    totalSeconds_mono (by
      have := startTime.isLt
      simp only [Ptime.since]
      omega)
  have hhigh : totalSeconds ((Ptime.at later).since (.at startTime)) ≤ totalSeconds (2 ^ 62) :=
    totalSeconds_mono (by
      have := later.isLt
      simp only [Ptime.since]
      omega)
  have hduration : totalSeconds duration ≤ totalSeconds (2 ^ 63) := totalSeconds_mono hrep.le
  rw [secondsAt_toNat] at hfits
  refine UInt64.le_iff_toNat_le.mpr (Int.ofNat_le.mp ?_)
  rw [secondsAt_toNat, secondsAt_toNat]
  generalize totalSeconds ((Ptime.at now).since (.at startTime)) = elapsed at hgoes hlow ⊢
  generalize totalSeconds ((Ptime.at later).since (.at startTime)) = elapsed' at hgoes hhigh hfits ⊢
  generalize totalSeconds duration = total at hfits hduration ⊢
  have hlow' : totalSeconds (-2 ^ 62) = -4611686018427 := by decide
  have hhigh' : totalSeconds (2 ^ 62) = 4611686018427 := by decide
  have hduration' : totalSeconds (2 ^ 63) = 9223372036854 := by decide
  omega

def GameState.countdown (state : GameState) : UInt64 × Int := (state.seconds, state.totalSeconds)

structure Counts (duration : Int) (startTime now : Instant) (game : Game) : Prop where
  gameDuration : game.gameDuration = duration
  startTime : game.startTime = .at startTime
  time : game.time = .at now

theorem Counts.same (hc : Counts duration startTime now game) (h : SameClock game game') :
    Counts duration startTime now game' :=
  ⟨h.gameDuration.trans hc.gameDuration, h.startTime.trans hc.startTime, h.time.trans hc.time⟩

theorem Counts.tells (hc : Counts duration startTime now game) (h : Tells game state)
    (hplaying : state.playing = true) :
    state.countdown = (secondsAt duration startTime now, totalSeconds duration) := by
  have hrunning : game.isRunning = true := h.playing.symm.trans hplaying
  rw [GameState.countdown, h.seconds, h.totalSeconds, Game.getSecondsLeft, if_pos hrunning,
    hc.gameDuration, hc.time, hc.startTime]
  rfl

/-- Without a start and without `set game` only the clock changes the times. -/
theorem Counts.step (hw : WellFormed app.game) (hc : Counts duration startTime now app.game)
    (hround : event.InRound env app)
    (hkeeps : event.KeepsDuration) (h : Server.step env app event = .ok (app', output)) :
    Counts duration startTime (event.reading.getD now) app'.game := by
  cases event with
  | clock currentTic =>
    cases h
    exact ⟨hc.gameDuration, hc.startTime, rfl⟩
  | message raw channel localTime =>
    obtain ⟨hgame, -⟩ := Server.ofOutcome_ok h
    rw [hgame]
    have hsame : SameTimes app.game _ := .message_of_not_startsIn hw hround.1
    exact hc.same hsame.sameClock
  | agent command localTime =>
    have hstart : command ≠ .startGame := fun heq => by
      subst heq
      exact hround.1 trivial
    have hset : ∀ property value, command ≠ .setGame property value := fun property value heq =>
      hkeeps property value localTime (congrArg (Event.agent · localTime) heq)
    obtain ⟨happly, -⟩ := Server.step_agent.mp h
    exact hc.same (.agent hstart hset happly)
  | tic =>
    obtain ⟨-, steps, game, hstep, rfl, -⟩ | ⟨-, rfl, -⟩ := Server.step_tic h
    · obtain ⟨handled, hhandled, rfl⟩ := Game.step_ok.mp hstep
      exact hc.same ((SameTimes.handleContacts hhandled).sameClock.trans .stopIfGameIsFinished)
    · exact hc
  | call call => exact absurd rfl (hround.2 call)

-- ---------------------------------------------------------------------------
-- Rounds
-- ---------------------------------------------------------------------------

theorem told_counts (hw : WellFormed app.game) (hc : Counts duration startTime now app.game)
    (hevents : Lib.AllSteps (Server.step env) app events (Event.InRound env))
    (hkeeps : ∀ event ∈ events, event.KeepsDuration)
    (hclock : TimeGoesOn now events) (hrun : Server.run env app events = .ok (app', outputs)) :
    ∃ times : List Instant, (now :: times).Pairwise (· ≤ ·) ∧
      ((broadcasts outputs).filter (·.playing)).map GameState.countdown =
        times.map fun time => (secondsAt duration startTime time, totalSeconds duration) := by
  induction events generalizing app outputs now with
  | nil =>
    cases Lib.run_nil.mp hrun
    exact ⟨[], List.pairwise_singleton _ _, rfl⟩
  | cons event events ih =>
    obtain ⟨app₁, output, outputs', hstep, hrest, rfl⟩ := Lib.run_cons.mp hrun
    rw [List.forall_mem_cons] at hkeeps
    obtain ⟨hround, hevents'⟩ := Lib.allSteps_cons.mp hevents
    obtain ⟨hle, hclock'⟩ := hclock.next
    have hw₁ := hw.edits (Server.step_edits hstep)
    have hc₁ := hc.step hw hround hkeeps.1 hstep
    obtain ⟨times, htimes, htold⟩ :=
      ih hw₁ hc₁ (hevents' app₁ output hstep) hkeeps.2 hclock' hrest
    have hsplit : (broadcasts (output :: outputs')).filter (·.playing) =
        output.broadcasts.filter (·.playing) ++ (broadcasts outputs').filter (·.playing) :=
      List.filter_append ..
    have hlater : (now :: times).Pairwise (· ≤ ·) := by
      rw [List.pairwise_cons] at htimes ⊢
      exact ⟨fun time hmem => hle.trans (htimes.1 time hmem), htimes.2⟩
    have hsame (hnone : output.broadcasts.filter (·.playing) = []) :
        ((broadcasts (output :: outputs')).filter (·.playing)).map GameState.countdown =
          times.map fun time => (secondsAt duration startTime time, totalSeconds duration) := by
      rw [hsplit, hnone]
      exact htold
    have htells := step_tells hstep
    generalize output.broadcasts = states at htells hsplit hsame
    cases htells with
    | nothing _ => exact ⟨times, hlater, hsame rfl⟩
    | @tic steps state hevent _ _ htells =>
      subst hevent
      cases hplaying : state.playing with
      | false => exact ⟨times, hlater, hsame (by simp [hplaying])⟩
      | true =>
        have hstate := hc₁.tells htells hplaying
        refine ⟨now :: times, List.pairwise_cons.mpr ⟨fun time hmem => ?_, hlater⟩, ?_⟩
        · rcases List.mem_cons.mp hmem with rfl | hmem
          · exact le_rfl
          · exact (List.pairwise_cons.mp hlater).1 time hmem
        · rw [hsplit, List.filter_cons_of_pos hplaying, List.filter_nil, List.singleton_append,
            List.map_cons, List.map_cons, htold]
          exact congrArg (· :: _) hstate

/-- Between two starts, with a clock that does not go back and no `set game`,
all broadcasts of the played game tell the same duration, and none tells more
seconds than one before it, unless its count has wrapped. -/
theorem countdown_falls (env : Externals) (app : Application)
    (hreach : Server.Reachable env app) (hrep : app.game.gameDuration < 2 ^ 63)
    (startTime now : Instant) (hstart : app.game.startTime = .at startTime)
    (hnow : app.game.time = .at now) (events : List Event)
    (hevents : Lib.AllSteps (Server.step env) app events (Event.InRound env))
    (hkeeps : ∀ event ∈ events, event.KeepsDuration)
    (hclock : TimeGoesOn now events) (app' : Application) (outputs : List Output)
    (hrun : Server.run env app events = .ok (app', outputs)) :
    (∀ state ∈ broadcasts outputs, state.playing = true →
        state.totalSeconds = totalSeconds app.game.gameDuration) ∧
      ((broadcasts outputs).filter (·.playing)).Pairwise fun earlier later =>
        (later.seconds.toNat : Int) ≤ totalSeconds app.game.gameDuration →
          later.seconds ≤ earlier.seconds := by
  obtain ⟨times, htimes, htold⟩ := told_counts hreach.wellFormed ⟨rfl, hstart, hnow⟩ hevents hkeeps
    hclock hrun
  rw [List.pairwise_cons] at htimes
  have hpair : (((broadcasts outputs).filter (·.playing)).map GameState.countdown).Pairwise
      fun earlier later =>
        (later.1.toNat : Int) ≤ totalSeconds app.game.gameDuration → later.1 ≤ earlier.1 := by
    rw [htold, List.pairwise_map]
    exact htimes.2.imp fun hgoes hfits => secondsAt_le hrep hgoes hfits
  refine ⟨fun state hmem hplaying => ?_, List.pairwise_map.mp hpair⟩
  have htimed := List.mem_map_of_mem (f := GameState.countdown)
    (List.mem_filter.mpr ⟨hmem, hplaying⟩)
  rw [htold] at htimed
  obtain ⟨time, -, htime⟩ := List.mem_map.mp htimed
  exact (congrArg Prod.snd htime).symm

theorem countdown_falls_twoSeconds :
    ∃ app app' before outputs,
      Server.run .plain (Server.create [] 2000000 oneTeam) startsTwoSeconds = .ok (app, before) ∧
      Server.run .plain app ticsToTheEnd = .ok (app', outputs) ∧
      (broadcasts outputs).map (fun state => (state.playing, state.seconds)) =
        [(true, 1), (false, 2)] ∧
      (∀ state ∈ broadcasts outputs, state.playing = true → state.totalSeconds = 2) ∧
      ((broadcasts outputs).filter (·.playing)).Pairwise fun earlier later =>
        (later.seconds.toNat : Int) ≤ 2 → later.seconds ≤ earlier.seconds :=
  ⟨_, _, _, _, rfl, rfl, rfl, countdown_falls .plain _
    ⟨[], 2000000, oneTeam, startsTwoSeconds, _, rfl⟩ (by decide) 0 0 rfl rfl ticsToTheEnd
    (.of_forall ticsToTheEnd_inRound)
    (by simp [ticsToTheEnd, Event.KeepsDuration]) (by unfold TimeGoesOn; decide) _ _ rfl⟩

end ServerGame
