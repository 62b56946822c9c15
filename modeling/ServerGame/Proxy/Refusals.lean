import ServerGame.Proxy.JsonPrefix

/-!
# Refused commands

`step` carries a command out last, when it has read all of it: what it answers
with false has changed nothing.
-/

namespace ServerGame

open Lib (InStream bind_eq_ok pure_eq_ok)

namespace AgentProxy

variable {env : AgentExternals} {localTime : Instant} {proxy proxy' : AgentProxy}
  {command : Str} {stepped stepped' : Stepped}

/-- Whatever answers false has left the proxy as it was. -/
def Atomic (run : AgentProxy → Str → Except Fault Stepped) : Prop :=
  ∀ proxy command stepped, run proxy command = .ok stepped → stepped.result = false →
    stepped.proxy = proxy

theorem dispatch_refused {parsed : Command} {stream : InStream}
    (h : dispatch env localTime proxy parsed stream = .ok stepped)
    (hrefused : stepped.result = false) : stepped.proxy = proxy := by
  unfold dispatch at h
  split at h
  · -- the method was called, and the answer is OK
    simp only [bind_eq_ok, pure_eq_ok] at h
    obtain ⟨_, -, rfl⟩ := h
    cases hrefused
  · cases h
    rfl

theorem textStep_refused {nested : AgentProxy → Str → Except Fault Stepped} {action : Str}
    {stream : InStream} (hnested : Atomic nested)
    (h : textStep env localTime nested proxy command action stream = .ok stepped)
    (hrefused : stepped.result = false) : stepped.proxy = proxy := by
  unfold textStep at h
  split at h
  · cases h
    cases hrefused
  · split at h
    · split at h
      · cases h
      · simp only [bind_eq_ok, pure_eq_ok] at h
        obtain ⟨direct, hdirect, rfl⟩ := h
        rw [hnested _ _ direct hdirect hrefused]
    · dsimp only at h
      split at h
      · exact dispatch_refused h hrefused
      · cases h
        rfl

theorem stepIn_atomic {nested : AgentProxy → Str → Except Fault Stepped} (hnested : Atomic nested) :
    Atomic (stepIn env localTime nested) := by
  intro proxy command stepped h hrefused
  unfold stepIn at h
  dsimp only at h
  split at h
  · -- the actions of the map only read the game
    simp only [bind_eq_ok, pure_eq_ok] at h
    obtain ⟨_, -, rfl⟩ := h
    rfl
  · split at h
    · rw [bind_eq_ok] at h
      obtain ⟨unrefused, htext, hrefuse⟩ := h
      rw [(refuse_ok hrefuse).2]
      rw [(refuse_ok hrefuse).1] at hrefused
      exact textStep_refused hnested htext hrefused
    · have hrefuse : refuse env { result := false, reply := [], proxy } = .ok stepped := h
      rw [(refuse_ok hrefuse).2]

theorem step_atomic : Atomic (step env localTime) :=
  stepIn_atomic (stepIn_atomic fun _ _ _ h _ => nomatch h)

def isRefusal : Option (Bool × Str) → Bool
  | some (result, _) => !result
  | none => false

theorem feed_refused {input : Fed} {output : Option (Bool × Str)}
    (h : feed env proxy input = .ok (proxy', output)) (hrefused : isRefusal output = true) :
    proxy' = proxy := by
  cases input with
  | event event =>
    simp only [feed, bind_eq_ok, pure_eq_ok, Prod.mk.injEq] at h
    obtain ⟨_, -, -, rfl⟩ := h
    cases hrefused
  | text command localTime =>
    simp only [feed, bind_eq_ok, pure_eq_ok, Prod.mk.injEq] at h
    obtain ⟨stepped, hstep, rfl, rfl⟩ := h
    exact step_atomic proxy command stepped hstep (by simpa [isRefusal] using hrefused)

end AgentProxy

/-- In every state a server with an agent reaches, a command that is answered
false has changed nothing, and a run comes to the same without its refused
commands. -/
theorem refused_commands_change_nothing (env : AgentExternals) (ports : List UInt16)
    (gameDuration : Int) (ruleset : Ruleset) (inputs : List Fed) (proxy : AgentProxy)
    (outputs : List (Option (Bool × Str)))
    (hrun : Lib.run (AgentProxy.feed env) (AgentProxy.launch ports gameDuration ruleset) inputs =
      .ok (proxy, outputs)) :
    (∀ command localTime stepped, AgentProxy.step env localTime proxy command = .ok stepped →
      stepped.result = false → stepped.proxy = proxy) ∧
    Lib.run (AgentProxy.feed env) (AgentProxy.launch ports gameDuration ruleset)
        (Lib.busy AgentProxy.isRefusal inputs outputs) =
      .ok (proxy, outputs.filter fun output => !AgentProxy.isRefusal output) :=
  ⟨fun command _ stepped => AgentProxy.step_atomic proxy command stepped,
    Lib.run_busy (fun _ _ _ _ => AgentProxy.feed_refused) hrun⟩

/-- The score of a team is not set by a command that goes on behind it. -/
theorem refused_commands_change_nothing_score :
    ∃ proxy outputs stepped,
      Lib.run (AgentProxy.feed .plain) (AgentProxy.launch [] 0 oneTeam)
        [.text "add team A".toList 0] = .ok (proxy, outputs) ∧
      AgentProxy.step .plain 0 proxy "set team A score 5 more".toList = .ok stepped ∧
      stepped.proxy = proxy := by
  refine ⟨_, _, _, rfl, rfl, ?_⟩
  exact (refused_commands_change_nothing .plain [] 0 oneTeam [.text "add team A".toList 0] _ _
    rfl).1 "set team A score 5 more".toList 0 _ rfl rfl

end ServerGame
