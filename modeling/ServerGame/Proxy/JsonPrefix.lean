import ServerGame.Proxy.Requests

/-!
# The json prefix

`step` finds the prefix as a word, after any blanks, and takes it off as five
characters. When an agent command is survived and answered as in JSON mode, in
any state a server with an agent reaches.
-/

namespace ServerGame

open Lib (InStream isSpace firstWord afterWord skipSpaces bind_eq_ok pure_eq_ok AllSteps)

-- ---------------------------------------------------------------------------
-- A server with an agent
-- ---------------------------------------------------------------------------

inductive Fed
  | event (event : Event)
  | text (command : Str) (localTime : Instant)

namespace AgentProxy

def launch (ports : List UInt16) (gameDuration : Int) (ruleset : Ruleset) : AgentProxy :=
  { application := Server.create ports gameDuration ruleset }

def feed (env : AgentExternals) (proxy : AgentProxy) :
    Fed → Except Fault (AgentProxy × Option (Bool × Str))
  | .event event => do
    let (application, _) ← Server.step env.toExternals proxy.application event
    return ({ proxy with application }, none)
  | .text command localTime => do
    let stepped ← step env localTime proxy command
    return (stepped.proxy, some (stepped.result, stepped.reply))

def following (command : Str) : Str := (afterToken command).rest

def blanksBefore (command : Str) : Nat := (command.takeWhile isSpace).length

/-- A command is survived in text mode, and behind `json` a text is answered as
in JSON mode: what follows the token, whatever its blanks. -/
structure Transparent (env : AgentExternals) (localTime : Instant) (proxy : AgentProxy)
    (command : Str) : Prop where
  survives : ∃ stepped, step env localTime proxy command = .ok stepped ∧
    stepped.proxy.outputMode = .text
  json : firstToken command = "json".toList → ∃ text stepped direct,
    skipSpaces text = skipSpaces (following command) ∧
      step env localTime proxy command = .ok stepped ∧
      step env localTime { proxy with outputMode := .json } text = .ok direct ∧
      stepped.result = direct.result ∧ stepped.reply = direct.reply

/-- Behind `json`: there are five characters to take off, and they are the token
and one blank, and what is asked for can be answered; or a part of the token
stays, and what is asked for is answered null anyway. -/
def AnsweredAsJson (env : AgentExternals) (game : Game) (command : Str) : Prop :=
  match blanksBefore command with
  | 0 => following command ≠ [] ∧ (Request.ofText env game (following command)).Answerable
  | 1 => (Request.ofText env game (following command)).Answerable
  | _ + 2 => Request.ofText env game (following command) = .null

structure Harmless (env : AgentExternals) (game : Game) (command : Str) : Prop where
  json : firstToken command = "json".toList → AnsweredAsJson env game command
  other : firstToken command ≠ "json".toList →
    ∀ parsed, commandOf env command = some parsed → Feasible game parsed

-- ---------------------------------------------------------------------------
-- What is taken off
-- ---------------------------------------------------------------------------

section
variable {command : Str}

theorem firstToken_eq_firstWord : firstToken command = firstWord (skipSpaces command) := by
  rw [firstToken, InStream.readWord_ofText]

theorem following_eq_afterWord : following command = afterWord (skipSpaces command) := by
  rw [following, afterToken, InStream.readWord_ofText]

theorem command_eq (command : Str) :
    command = command.takeWhile isSpace ++ (firstToken command ++ following command) := by
  rw [firstToken_eq_firstWord, following_eq_afterWord, firstWord, afterWord,
    List.takeWhile_append_dropWhile, skipSpaces, List.takeWhile_append_dropWhile]

theorem following_eq_nil_or : following command = [] ∨
    ∃ c rest, following command = c :: rest ∧ isSpace c = true := by
  cases hfollowing : following command with
  | nil => exact .inl rfl
  | cons c rest =>
    rw [following_eq_afterWord] at hfollowing
    exact .inr ⟨c, rest, rfl, Lib.isSpace_of_afterWord hfollowing⟩

theorem firstToken_append {blanks word rest : Str} (hblanks : ∀ c ∈ blanks, isSpace c = true)
    (hne : word ≠ []) (hword : ∀ c ∈ word, isSpace c = false)
    (hrest : rest = [] ∨ ∃ c cs, rest = c :: cs ∧ isSpace c = true) :
    firstToken (blanks ++ (word ++ rest)) = word := by
  have hskip : skipSpaces (blanks ++ (word ++ rest)) = word ++ rest := by
    obtain ⟨c, cs, rfl⟩ := List.exists_cons_of_ne_nil hne
    rw [skipSpaces, List.dropWhile_append_of_pos hblanks]
    simp [hword c]
  have hnone : rest.takeWhile (!isSpace ·) = [] := by
    rcases hrest with rfl | ⟨c, cs, rfl, hc⟩
    · rfl
    · simp [hc]
  rw [firstToken_eq_firstWord, hskip, firstWord,
    List.takeWhile_append_of_pos fun c hc => by simp [hword c hc], hnone, List.append_nil]

/-- What `substr` leaves: it takes the blanks before the token for a part of
what it takes off. -/
theorem drop_json (h : firstToken command = "json".toList) :
    command.drop 5 = (command.takeWhile isSpace).drop 5 ++
      ("json".toList.drop (5 - blanksBefore command) ++
        (following command).drop (1 - blanksBefore command)) := by
  have hcommand := command_eq command
  rw [h] at hcommand
  have hlength : 5 - blanksBefore command - "json".toList.length = 1 - blanksBefore command := by
    have : "json".toList.length = 4 := rfl
    omega
  conv_lhs => rw [hcommand, List.drop_append, List.drop_append]
  unfold blanksBefore at hlength ⊢
  rw [hlength]

theorem length_lt_iff (h : firstToken command = "json".toList) :
    command.length < 5 ↔ blanksBefore command = 0 ∧ following command = [] := by
  have hlength := congrArg List.length (command_eq command)
  rw [h, List.length_append, List.length_append] at hlength
  have : "json".toList.length = 4 := rfl
  rw [← List.length_eq_zero_iff]
  unfold blanksBefore
  omega

theorem skipSpaces_drop (h : firstToken command = "json".toList) (hone : blanksBefore command ≤ 1) :
    skipSpaces (command.drop 5) = skipSpaces (following command) := by
  have hblanks : (command.takeWhile isSpace).drop 5 = [] :=
    List.drop_eq_nil_of_le (hone.trans (by decide))
  rw [drop_json h, hblanks, List.nil_append]
  rcases Nat.le_one_iff_eq_zero_or_eq_one.mp hone with hzero | hone
  · rw [hzero]
    rcases @following_eq_nil_or command with hnil | ⟨c, rest, hfollowing, hc⟩
    · rw [hnil]
      rfl
    · rw [hfollowing]
      simp [skipSpaces, hc]
  · rw [hone]
    rfl

/-- From two blanks on, a part of the token is left. -/
theorem firstToken_drop (h : firstToken command = "json".toList) (htwo : 2 ≤ blanksBefore command) :
    ∃ n ≤ 3, firstToken (command.drop 5) = "json".toList.drop n := by
  have hzero : 1 - blanksBefore command = 0 := by omega
  refine ⟨5 - blanksBefore command, by omega, ?_⟩
  rw [drop_json h, hzero, List.drop_zero]
  refine firstToken_append (fun c hc => ?_) ?_ (fun c hc => ?_) following_eq_nil_or
  · exact List.mem_takeWhile_imp (List.mem_of_mem_drop hc)
  · intro hnil
    have := List.drop_eq_nil_iff.mp hnil
    have : "json".toList.length = 4 := rfl
    omega
  · have hall : ∀ c ∈ "json".toList, isSpace c = false := by simp [isSpace]
    exact hall c (List.mem_of_mem_drop hc)

theorem request_drop {env : AgentExternals} {game : Game} (h : firstToken command = "json".toList)
    (htwo : 2 ≤ blanksBefore command) : Request.ofText env game (command.drop 5) = .null := by
  obtain ⟨n, hn, htoken⟩ := firstToken_drop h htwo
  have hnone : ∀ n ≤ 3, actionNamed env .json game ("json".toList.drop n) = none := by
    intro n hn
    interval_cases n <;> rfl
  rw [Request.ofText, htoken]
  exact Request.ofAction_of_none (hnone n hn)

end

-- ---------------------------------------------------------------------------
-- One command
-- ---------------------------------------------------------------------------

section
variable {env : AgentExternals} {localTime : Instant} {app : Application} {command : Str}

theorem stepIn_json_prefix {nested : AgentProxy → Str → Except Fault Stepped}
    (h : firstToken command = "json".toList) :
    stepIn env localTime nested { application := app } command =
      (if command.length < 5 then .error .outOfRange
        else do
          let stepped ← nested { application := app, outputMode := .json } (command.drop 5)
          return { stepped with proxy := { stepped.proxy with outputMode := .text } }) >>=
        refuse env := by
  unfold firstToken at h
  simp only [stepIn, h]
  rfl

theorem step_short (h : firstToken command = "json".toList) (hlength : command.length < 5) :
    step env localTime { application := app } command = .error .outOfRange := by
  rw [step, stepIn_json_prefix h, if_pos hlength]
  rfl

theorem refuse_text {result : Bool} {reply : Str} :
    refuse env { result, reply, proxy := { application := app } } =
      .ok { result, proxy := { application := app }
            reply := if result = false ∧ reply = [] then ko else reply } := by
  unfold refuse
  simp only [List.isEmpty_iff]
  split <;> rfl

theorem getRobot_text_ok {game : Game} {name : Str} {property : Option Str} :
    ∃ reply, getRobot env .text game name property = .ok reply := by
  unfold getRobot
  cases game.accessRobot name with
  | error => exact ⟨_, rfl⟩
  | ok r => cases property <;> exact ⟨_, rfl⟩

theorem process_text_ok {game : Game} {action : Str} {process : InStream → Except Fault Reply}
    (h : actionNamed env .text game action = some process) (stream : InStream) :
    ∃ reply, process stream = .ok reply := by
  rcases actionNamed_eq_some h with ⟨-, rfl⟩ | ⟨-, rfl⟩ | ⟨-, rfl⟩
  · unfold ListAction.process
    dsimp only
    split
    · cases listingOf game (stream.readWord []).1 <;> exact ⟨_, rfl⟩
    · exact ⟨_, rfl⟩
  · unfold ViewAction.process
    dsimp only
    split
    · split <;> exact ⟨_, rfl⟩
    · exact ⟨_, rfl⟩
  · unfold GetAction.process GetAction.answer
    simp only [reduceCtorEq, and_false, if_false]
    split
    · exact getRobot_text_ok
    · split_ifs <;> exact ⟨_, rfl⟩

theorem commandOf_eq_none_of (game : Game)
    (h : (∃ process, actionNamed env .text game (firstToken command) = some process) ∨
      firstToken command = "ping".toList) : commandOf env command = none := by
  have hbranch : branch env (firstToken command) (objectOf command) = none := by
    generalize firstToken command = action at h
    rcases h with ⟨process, h⟩ | rfl
    · rcases actionNamed_eq_some h with ⟨rfl, -⟩ | ⟨rfl, -⟩ | ⟨rfl, -⟩ <;> rfl
    · rfl
  rw [commandOf, hbranch]
  rfl

theorem survives_iff (h : firstToken command ≠ "json".toList) :
    (∃ stepped, step env localTime { application := app } command = .ok stepped ∧
        stepped.proxy.outputMode = .text) ↔
      ∀ parsed, commandOf env command = some parsed → Feasible app.game parsed := by
  cases haction : actionNamed env .text app.game (firstToken command) with
  | some process =>
    have hnone : commandOf env command = none :=
      commandOf_eq_none_of app.game (.inl ⟨process, haction⟩)
    obtain ⟨reply, hreply⟩ := process_text_ok haction (afterToken command)
    have hstep : step env localTime { application := app } command =
        .ok { result := reply.isSuccess, reply := reply.reply
              proxy := { application := app } } := by
      unfold firstToken at haction
      unfold afterToken at hreply
      simp only [step, stepIn, haction, hreply]
      rfl
    simp [hstep, hnone]
  | none =>
    by_cases hping : firstToken command = "ping".toList
    · have hstep : step env localTime { application := app } command =
          .ok { result := true, reply := "pong".toList, proxy := { application := app } } := by
        unfold firstToken at hping
        simp only [step, stepIn, hping]
        rfl
      have hnone : commandOf env command = none := commandOf_eq_none_of app.game (.inr hping)
      simp [hstep, hnone]
    · cases hcommand : commandOf env command with
      | none => simp [step, stepIn_refused haction hping h hcommand]
      | some parsed =>
        rw [step, stepIn_carriedOut haction hping h hcommand]
        simp only [Option.some.injEq, forall_eq', ← @apply_ok_iff env localTime,
          bind_eq_ok, pure_eq_ok]
        constructor
        · rintro ⟨stepped, ⟨application, happly, -⟩, -⟩
          exact ⟨application, happly⟩
        · rintro ⟨application, happly⟩
          exact ⟨_, ⟨application, happly, rfl⟩, rfl⟩

theorem step_json_mode (localTime : Instant) (app : Application) (hdoc : DumpDocumented env)
    (text : Str) :
    ∃ given, (Request.ofText env app.game text).Gives env given ∧
      ∀ direct, step env localTime { application := app, outputMode := .json } text = .ok direct ↔
        ∃ result reply, given = .ok (result, reply) ∧
          direct = { result, reply, proxy := { application := app, outputMode := .json } } := by
  obtain ⟨given, hgives, hgiven⟩ := stepIn_json localTime hdoc app text
  refine ⟨given, hgives, fun direct => ?_⟩
  rw [step, hgiven, bind_eq_ok]
  simp only [pure_eq_ok, Prod.exists, @eq_comm _ direct]

/-- The same for the text that is left of a command, and what the command is
answered: an empty failure becomes KO. -/
theorem step_json_prefix (localTime : Instant) (app : Application) (hdoc : DumpDocumented env)
    (h : firstToken command = "json".toList) (hlength : ¬command.length < 5) :
    ∃ given, (Request.ofText env app.game (command.drop 5)).Gives env given ∧
      (∀ direct, step env localTime { application := app, outputMode := .json } (command.drop 5) =
        .ok direct ↔ ∃ result reply, given = .ok (result, reply) ∧
          direct = { result, reply, proxy := { application := app, outputMode := .json } }) ∧
      ∀ stepped, step env localTime { application := app } command = .ok stepped ↔
        ∃ result reply, given = .ok (result, reply) ∧
          stepped = { result, proxy := { application := app }
                      reply := if result = false ∧ reply = [] then ko else reply } := by
  obtain ⟨given, hgives, hgiven⟩ := stepIn_json localTime hdoc app (command.drop 5)
  refine ⟨given, hgives, fun direct => ?_, fun stepped => ?_⟩
  · rw [step, hgiven, bind_eq_ok]
    simp only [pure_eq_ok, Prod.exists, @eq_comm _ direct]
  · rw [step, stepIn_json_prefix h, if_neg hlength, hgiven]
    cases given with
    | error fault => simp [bind, Except.bind]
    | ok answer =>
      obtain ⟨result, reply⟩ := answer
      change refuse env { result, reply, proxy := { application := app } } = .ok stepped ↔ _
      rw [refuse_text]
      simp [@eq_comm _ stepped]

theorem transparent_near_iff (hdoc : DumpDocumented env)
    (h : firstToken command = "json".toList) (hlength : ¬command.length < 5)
    (hone : blanksBefore command ≤ 1) :
    Transparent env localTime { application := app } command ↔
      (Request.ofText env app.game (following command)).Answerable := by
  obtain ⟨given, hgives, hdirect, hstep⟩ :=
    step_json_prefix localTime app hdoc h hlength
  have hskip := skipSpaces_drop h hone
  rw [Request.ofText_congr hskip] at hgives
  constructor
  · rintro ⟨-, hjson⟩
    obtain ⟨text, stepped, direct, htext, hstepped, hdirect', hresult, hreply⟩ := hjson h
    obtain ⟨result, reply, hgiven, rfl⟩ := (hstep stepped).mp hstepped
    refine (hgives.answerable_iff hdoc).mpr ⟨result, reply, hgiven, ?_⟩
    rintro ⟨rfl, rfl⟩
    -- the command is answered KO, and JSON mode would have to say so too
    obtain ⟨given', hgives', hdirect''⟩ := step_json_mode localTime app hdoc text
    obtain ⟨result', reply', hgiven', rfl⟩ := (hdirect'' direct).mp hdirect'
    rw [Request.ofText_congr htext] at hgives'
    have hanswerable : (Request.ofText env app.game (following command)).Answerable :=
      (hgives'.answerable_iff hdoc).mpr ⟨result', reply', hgiven', fun hempty => by
        cases hempty.2 ▸ hreply⟩
    obtain ⟨result'', reply'', hgiven'', hempty⟩ := (hgives.answerable_iff hdoc).mp hanswerable
    cases hgiven.symm.trans hgiven''
    exact hempty ⟨rfl, rfl⟩
  · intro hanswerable
    obtain ⟨result, reply, hgiven, hempty⟩ := (hgives.answerable_iff hdoc).mp hanswerable
    have hstepped := (hstep _).mpr ⟨result, reply, hgiven, rfl⟩
    refine ⟨⟨_, hstepped, rfl⟩, fun _ => ⟨command.drop 5, _, _, hskip, hstepped,
      (hdirect _).mpr ⟨result, reply, hgiven, rfl⟩, rfl, ?_⟩⟩
    exact if_neg hempty

/-- From two blanks on JSON mode gets a part of the token to read. -/
theorem transparent_far_iff (hdoc : DumpDocumented env)
    (h : firstToken command = "json".toList) (hlength : ¬command.length < 5)
    (htwo : 2 ≤ blanksBefore command) :
    Transparent env localTime { application := app } command ↔
      Request.ofText env app.game (following command) = .null := by
  obtain ⟨given, hgives, -, hstep⟩ :=
    step_json_prefix localTime app hdoc h hlength
  rw [request_drop h htwo] at hgives
  have hgiven := hgives.null_iff.mp rfl
  constructor
  · rintro ⟨-, hjson⟩
    obtain ⟨text, stepped, direct, htext, hstepped, hdirect, hresult, hreply⟩ := hjson h
    obtain ⟨given', hgives', hdirect'⟩ := step_json_mode localTime app hdoc text
    obtain ⟨result, reply, hok, rfl⟩ := (hstep stepped).mp hstepped
    cases hgiven.symm.trans hok
    obtain ⟨result', reply', hgiven', rfl⟩ := (hdirect' direct).mp hdirect
    rw [Request.ofText_congr htext] at hgives'
    refine hgives'.null_iff.mpr ?_
    cases hresult
    cases hreply
    exact hgiven'
  · intro hnull
    obtain ⟨given', hgives', hdirect'⟩ :=
      step_json_mode localTime app hdoc (following command)
    have hgiven' := hgives'.null_iff.mp hnull
    have hstepped := (hstep _).mpr ⟨false, nullText, hgiven, rfl⟩
    exact ⟨⟨_, hstepped, rfl⟩, fun _ => ⟨following command, _, _, rfl, hstepped,
      (hdirect' _).mpr ⟨false, nullText, hgiven', rfl⟩, rfl, rfl⟩⟩

theorem transparent_json_iff (hdoc : DumpDocumented env) (h : firstToken command = "json".toList) :
    Transparent env localTime { application := app } command ↔
      AnsweredAsJson env app.game command := by
  unfold AnsweredAsJson
  by_cases hlength : command.length < 5
  · obtain ⟨hzero, hnil⟩ := (length_lt_iff h).mp hlength
    rw [hzero]
    constructor
    · rintro ⟨⟨stepped, hstepped, -⟩, -⟩
      cases (step_short h hlength).symm.trans hstepped
    · rintro ⟨hne, -⟩
      exact absurd hnil hne
  · cases hblanks : blanksBefore command with
    | zero =>
      have hne : following command ≠ [] :=
        fun hnil => hlength ((length_lt_iff h).mpr ⟨hblanks, hnil⟩)
      rw [transparent_near_iff hdoc h hlength (by omega)]
      exact (and_iff_right hne).symm
    | succ n =>
      cases n with
      | zero => exact transparent_near_iff hdoc h hlength hblanks.le
      | succ n => exact transparent_far_iff hdoc h hlength (by omega)

theorem transparent_iff (hdoc : DumpDocumented env) :
    Transparent env localTime { application := app } command ↔ Harmless env app.game command := by
  by_cases h : firstToken command = "json".toList
  · rw [transparent_json_iff hdoc h]
    exact ⟨fun hanswered => ⟨fun _ => hanswered, fun hne => absurd h hne⟩, fun hh => hh.json h⟩
  · constructor
    · rintro ⟨hsurvives, -⟩
      exact ⟨fun hjson => absurd hjson h, fun _ => (survives_iff h).mp hsurvives⟩
    · intro hh
      exact ⟨(survives_iff h).mpr (hh.other h), fun hjson => absurd hjson h⟩

end

-- ---------------------------------------------------------------------------
-- Runs
-- ---------------------------------------------------------------------------

section
variable {env : AgentExternals} {localTime : Instant} {proxy proxy' : AgentProxy}
  {command : Str} {stepped stepped' : Stepped}

theorem refuse_ok (h : refuse env stepped = .ok stepped') :
    stepped'.result = stepped.result ∧ stepped'.proxy = stepped.proxy := by
  unfold refuse at h
  split at h
  · cases hmode : stepped.proxy.outputMode with
    | text =>
      rw [hmode] at h
      cases h
      exact ⟨rfl, rfl⟩
    | json =>
      simp only [hmode, bind_eq_ok, pure_eq_ok] at h
      obtain ⟨_, -, rfl⟩ := h
      exact ⟨rfl, rfl⟩
  · cases h
    exact ⟨rfl, rfl⟩

theorem dispatch_mode {parsed : Command} {stream : InStream}
    (h : dispatch env localTime proxy parsed stream = .ok stepped) :
    stepped.proxy.outputMode = proxy.outputMode := by
  unfold dispatch at h
  split at h
  · simp only [bind_eq_ok, pure_eq_ok] at h
    obtain ⟨_, -, rfl⟩ := h
    rfl
  · cases h
    rfl

theorem textStep_mode {nested : AgentProxy → Str → Except Fault Stepped} {action : Str}
    {stream : InStream}
    (h : textStep env localTime nested proxy command action stream = .ok stepped) :
    stepped.proxy.outputMode = proxy.outputMode := by
  unfold textStep at h
  split at h
  · cases h
    rfl
  · split at h
    · split at h
      · cases h
      · simp only [bind_eq_ok, pure_eq_ok] at h
        obtain ⟨_, -, rfl⟩ := h
        rfl
    · dsimp only at h
      split at h
      · exact dispatch_mode h
      · cases h
        rfl

theorem step_mode (h : step env localTime proxy command = .ok stepped) :
    stepped.proxy.outputMode = proxy.outputMode := by
  simp only [step, stepIn] at h
  split at h
  · simp only [bind_eq_ok, pure_eq_ok] at h
    obtain ⟨_, -, rfl⟩ := h
    rfl
  · split at h
    · rw [bind_eq_ok] at h
      obtain ⟨unrefused, htext, hrefuse⟩ := h
      rw [(refuse_ok hrefuse).2]
      exact textStep_mode htext
    · have hrefuse : refuse env { result := false, reply := [], proxy } = .ok stepped := h
      rw [(refuse_ok hrefuse).2]

theorem feed_mode {input : Fed} {output : Option (Bool × Str)}
    (h : feed env proxy input = .ok (proxy', output)) : proxy'.outputMode = proxy.outputMode := by
  cases input with
  | event event =>
    simp only [feed, bind_eq_ok, pure_eq_ok, Prod.mk.injEq] at h
    obtain ⟨_, -, rfl, -⟩ := h
    rfl
  | text command localTime =>
    simp only [feed, bind_eq_ok, pure_eq_ok, Prod.mk.injEq] at h
    obtain ⟨_, hstep, rfl, -⟩ := h
    exact step_mode hstep

end

end AgentProxy

def Fed.Transparent (env : AgentExternals) (proxy : AgentProxy) : Fed → Prop
  | .event _ => True
  | .text command localTime => AgentProxy.Transparent env localTime proxy command

def Fed.Harmless (env : AgentExternals) (proxy : AgentProxy) : Fed → Prop
  | .event _ => True
  | .text command _ => AgentProxy.Harmless env proxy.application.game command

theorem Fed.transparent_iff {env : AgentExternals} (hdoc : DumpDocumented env) {proxy : AgentProxy}
    (hmode : proxy.outputMode = .text) (input : Fed) :
    input.Transparent env proxy ↔ input.Harmless env proxy := by
  obtain ⟨app, mode⟩ := proxy
  cases hmode
  cases input with
  | event event => exact Iff.rfl
  | text command localTime => exact AgentProxy.transparent_iff hdoc

/-- In every run of a server with an agent, whatever else it handles: all the
commands of the agent are survived and answered as they should be exactly when
each is harmless in the state it meets. -/
theorem agent_commands_transparent_iff {env : AgentExternals} (hdoc : DumpDocumented env)
    (ports : List UInt16) (gameDuration : Int) (ruleset : Ruleset) (inputs : List Fed) :
    AllSteps (AgentProxy.feed env) (AgentProxy.launch ports gameDuration ruleset) inputs
        (fun proxy input => input.Transparent env proxy) ↔
      AllSteps (AgentProxy.feed env) (AgentProxy.launch ports gameDuration ruleset) inputs
        (fun proxy input => input.Harmless env proxy) := by
  refine forall_congr' fun pre => forall_congr' fun input => forall_congr' fun post =>
    forall_congr' fun proxy => forall_congr' fun outputs => forall_congr' fun _ =>
      forall_congr' fun hrun => Fed.transparent_iff hdoc ?_ input
  exact Lib.run_invariant (fun proxy => proxy.outputMode = .text)
    (fun _ _ _ _ _ hmode hfeed => (AgentProxy.feed_mode hfeed).trans hmode) rfl hrun

theorem agent_commands_transparent_iff_listTeam :
    AllSteps (AgentProxy.feed .plain) (AgentProxy.launch [] 0 oneTeam)
      [.text "add team A".toList 0, .text "json list team".toList 0]
      (fun proxy input => input.Transparent .plain proxy) := by
  refine (agent_commands_transparent_iff AgentExternals.plain_documented [] 0 oneTeam _).mpr ?_
  rw [Lib.allSteps_cons]
  constructor
  · exact ⟨fun h => absurd h (by decide), fun _ parsed hparsed => by cases hparsed; trivial⟩
  · intro proxy output hfeed
    cases hfeed
    rw [Lib.allSteps_cons]
    constructor
    · refine ⟨fun _ => ⟨by decide, _, rfl, ?_⟩, fun h => absurd rfl h⟩
      exact ⟨⟨"Teams".toList, rfl⟩, ⟨⟨"A".toList, rfl⟩, trivial⟩, trivial⟩
    · intro _ _ _ pre input post _ _ hnil
      cases pre <;> cases hnil

/-- The command json alone is shorter than what is taken off. -/
theorem json_alone_escapes :
    ¬AllSteps (AgentProxy.feed .plain) (AgentProxy.launch [] 0 oneTeam)
      [.text "json".toList 0] (fun proxy input => input.Transparent .plain proxy) := by
  intro h
  obtain ⟨⟨stepped, hstepped, -⟩, -⟩ := h [] _ [] _ [] rfl rfl
  cases hstepped

end ServerGame
