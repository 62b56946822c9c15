import ServerGame.ConfigFile

/-!
# Which number counts

Each setting is looked for in up to three sources, and each source has its own
type for it. Where that type is wider than the field the number is cut to it;
where it is narrower, a number that fits the field does not count.
-/

namespace ServerGame

open Lib (InStream bind_eq_ok pure_eq_ok)
open Lib.InStream (digitsValue)

-- ---------------------------------------------------------------------------
-- Settings
-- ---------------------------------------------------------------------------

inductive Source
  | commandLine
  | technical
  | game

inductive Setting
  | publisherPort
  | pullerPort
  | agentPort
  | replierPort
  | tickInterval
  | gameDuration
  | broadcastPort

namespace Setting

def bound : Setting → Nat
  | .tickInterval => 2 ^ 63
  | .gameDuration => 2 ^ 31
  | _ => 2 ^ 16

def fallback : Setting → Nat
  | .publisherPort => 9000
  | .pullerPort => 9001
  | .agentPort => 9003
  | .replierPort => 9004
  | .tickInterval => 500
  | .gameDuration => 300
  | .broadcastPort => 9080

def value (param : Parameters) : Setting → Option Int
  | .publisherPort => param.commandLineParameters.publisherPort.map (·.toNat)
  | .pullerPort => param.commandLineParameters.pullerPort.map (·.toNat)
  | .agentPort => param.commandLineParameters.agentPort.map (·.toNat)
  | .replierPort => param.commandLineParameters.replierPort.map (·.toNat)
  | .tickInterval => param.commandLineParameters.tickInterval.map (·.toInt)
  | .gameDuration => param.commandLineParameters.gameDuration.map (·.toInt)
  | .broadcastPort => param.commandLineParameters.broadcastPort.map (·.toNat)

def option (line : CommandLine) : Setting → Option Str
  | .publisherPort => line.publisherPort
  | .pullerPort => line.pullerPort
  | .agentPort => line.agentPort
  | .replierPort => line.replierPort
  | .tickInterval => line.tickInterval
  | .gameDuration => line.gameDuration
  | .broadcastPort => line.broadcastPort

def technicalPath : Setting → Option Str
  | .publisherPort => some "server.publisher-port".toList
  | .pullerPort => some "server.puller-port".toList
  | .agentPort => some "server.agent-port".toList
  | .replierPort => some "server.replier-port".toList
  | .tickInterval => some "server.tic-interval".toList
  | .gameDuration => none
  | .broadcastPort => some "server.broadcast-port".toList

def gamePath : Setting → Option Str
  | .gameDuration => some "game.duration".toList
  | .broadcastPort => some "server.broadcast-port".toList
  | _ => none

variable (files : Str → Option IniFile) (line : CommandLine)

def written (s : Setting) : Source → Option Str
  | .commandLine => s.option line
  | .technical => do (← files line.rcFilePath).text (← s.technicalPath)
  | .game => do (← files (← line.gameFilePath)).text (← s.gamePath)

def number (s : Setting) (source : Source) : Option Nat :=
  (s.written files line source).map digitsValue

/-- The number, where it fits the field. -/
def supplied (s : Setting) (source : Source) : Option Nat :=
  (s.number files line source).filter (· < s.bound)

def expected (s : Setting) : Nat :=
  (s.supplied files line .commandLine <|> s.supplied files line .technical <|>
    s.supplied files line .game).getD s.fallback

/-- A field that a stage fills has the number that is written. -/
def Takes (s : Setting) (source : Source) (before after : Parameters) : Prop :=
  s.value before = none → ∀ v, s.value after = some v →
    ∃ n, s.number files line source = some n ∧ v = n

end Setting

-- ---------------------------------------------------------------------------
-- What is promised
-- ---------------------------------------------------------------------------

/-- The parameters after each of the three functions. -/
structure Stages (env : Externals) (fuel : Nat) (files : Str → Option IniFile) (line : CommandLine)
    (param first second third : Parameters) : Prop where
  commandLine : parseParametersFromCommandLine env line param = some first
  technical : parseParametersFromConfigFile fuel (files line.rcFilePath) first = .ok (some second)
  game : line.parseGameFile env files second = some third

/-- Each setting is that of the first source with a number that fits, and no
stage makes another number of one. -/
structure FollowsPrecedence (env : Externals) (fuel : Nat) (files : Str → Option IniFile)
    (line : CommandLine) (param param' : Parameters) : Prop where
  precedence : ∀ s : Setting, s.value param' = some (s.expected files line : Int)
  taken : ∀ first second third, Stages env fuel files line param first second third →
    ∀ s : Setting, s.Takes files line .commandLine param first ∧
      s.Takes files line .technical first second ∧ s.Takes files line .game second third

/-- No number is looked at that is read with the wrong width. -/
structure Fits (files : Str → Option IniFile) (line : CommandLine) : Prop where
  lineDuration : ∀ n ∈ Setting.gameDuration.number files line .commandLine, n < 2 ^ 31
  gameDuration : line.gameDuration = none →
    ∀ n ∈ Setting.gameDuration.number files line .game, n < 2 ^ 31 ∨ 2 ^ 32 ≤ n
  tickInterval : line.tickInterval = none →
    ∀ n ∈ Setting.tickInterval.number files line .technical, n < 2 ^ 16 ∨ 2 ^ 63 ≤ n
  broadcastPort : line.broadcastPort = none →
    (∀ n ∈ Setting.broadcastPort.number files line .technical, 2 ^ 16 ≤ n) →
    ∀ n ∈ Setting.broadcastPort.number files line .game, n < 2 ^ 16 ∨ 2 ^ 32 ≤ n

/-- What `boost::lexical_cast` makes of digits. -/
structure CastsNumbers (env : Externals) : Prop where
  uint16 : ∀ text, IsDigits text → env.lexicalCastUint16 text =
    if digitsValue text < 2 ^ 16 then some (.ofNat (digitsValue text)) else none
  uint32 : ∀ text, IsDigits text → env.lexicalCastUint32 text =
    if digitsValue text < 2 ^ 32 then some (.ofNat (digitsValue text)) else none

-- ---------------------------------------------------------------------------
-- Widths
-- ---------------------------------------------------------------------------

theorem toInt_toInt32 (n : UInt32) : n.toInt32.toInt = (n.toNat : Int).bmod (2 ^ 32) := by
  rw [← Int32.toInt_toBitVec, UInt32.toBitVec_toInt32, BitVec.toInt_eq_toNat_bmod,
    UInt32.toNat_toBitVec]

theorem toInt_toInt64 {n : UInt64} (h : n.toNat < 2 ^ 63) : n.toInt64.toInt = n.toNat := by
  rw [← Int64.toInt_toBitVec, UInt64.toBitVec_toInt64, BitVec.toInt_eq_toNat_bmod,
    UInt64.toNat_toBitVec]
  exact Int.bmod_eq_of_le (by omega) (by omega)

theorem bmod_eq_iff {n : Nat} (h : n < 2 ^ 32) : (n : Int).bmod (2 ^ 32) = n ↔ n < 2 ^ 31 := by
  rw [Int.bmod_def]
  omega

def storedBelow (width : Nat) (store : Nat → Int) (n : Nat) : Option Int :=
  if n < width then some (store n) else none

def asInt32 (n : Nat) : Int := (n : Int).bmod (2 ^ 32)

def asUint16 (n : Nat) : Int := (n % 2 ^ 16 : Nat)

/-- What a source makes of a number: nothing where it does not read it. -/
def Setting.stored : Setting → Source → Nat → Option Int
  | .tickInterval, .commandLine => storedBelow (2 ^ 32) Nat.cast
  | .gameDuration, .commandLine => storedBelow (2 ^ 32) asInt32
  | _, .commandLine => storedBelow (2 ^ 16) Nat.cast
  | _, .technical => storedBelow (2 ^ 16) Nat.cast
  | .gameDuration, .game => storedBelow (2 ^ 32) asInt32
  | _, .game => storedBelow (2 ^ 32) asUint16

def Setting.read (files : Str → Option IniFile) (line : CommandLine) (s : Setting)
    (source : Source) : Option Int :=
  (s.number files line source).bind (s.stored source)

-- ---------------------------------------------------------------------------
-- One number
-- ---------------------------------------------------------------------------

section
variable {text : Str} {env : Externals} {width : Nat}

theorem IniFile.number_eq {file : IniFile} (hfile : file.ReadsNumbers) {path : Str}
    (h : ∀ t ∈ file.text path, IsDigits t) :
    file.number path width = (file.text path).bind fun t =>
      if digitsValue t < width then some (digitsValue t) else none := by
  cases htext : file.text path with
  | none => exact hfile.missing path width htext
  | some t => exact hfile.digits path t width htext (h t htext)

variable {α : Type}

theorem storeOption_value {cast : Str → Option α} {make : Nat → α} {toInt : α → Int}
    {store : Nat → Int} {option : Option Str} {value : Option α}
    (hcast : ∀ t, IsDigits t → cast t = if digitsValue t < width then some (make (digitsValue t))
      else none)
    (hstore : ∀ n < width, toInt (make n) = store n) (hnumber : ∀ t ∈ option, IsDigits t)
    (h : storeOption cast option = some value) :
    (value <|> none).map toInt = (option.map digitsValue).bind (storedBelow width store) ∧
      ∀ n ∈ option.map digitsValue, (storedBelow width store n).isSome = true := by
  cases option with
  | none =>
    cases h
    simp
  | some t =>
    rw [storeOption, hcast t (hnumber t rfl)] at h
    by_cases hfits : digitsValue t < width
    · rw [if_pos hfits] at h
      cases h
      simp [storedBelow, hfits, hstore _ hfits]
    · rw [if_neg hfits] at h
      cases h

theorem number_value {file : IniFile} (hfile : file.ReadsNumbers) {path : Str} {make : Nat → α}
    {toInt : α → Int} {store : Nat → Int} (hstore : ∀ n < width, toInt (make n) = store n)
    (hnumber : ∀ t ∈ file.text path, IsDigits t) (known : Option α) :
    (known <|> (file.number path width).map make).map toInt =
      (known.map toInt <|> ((file.text path).map digitsValue).bind (storedBelow width store)) := by
  cases known with
  | some value => rfl
  | none =>
    rw [IniFile.number_eq hfile hnumber]
    cases file.text path with
    | none => rfl
    | some t =>
      by_cases hfits : digitsValue t < width
      · simp [storedBelow, hfits, hstore _ hfits]
      · simp [storedBelow, hfits]

theorem narrowed_value {β : Type} {file : IniFile} (hfile : file.ReadsNumbers) {path : Str}
    {make : Nat → α} {narrow : α → β} {toInt : β → Int} {store : Nat → Int}
    (hstore : ∀ n < width, toInt (narrow (make n)) = store n)
    (hnumber : ∀ t ∈ file.text path, IsDigits t) (known : Option β) :
    (known <|> ((file.number path width).map make).map narrow).map toInt =
      (known.map toInt <|> ((file.text path).map digitsValue).bind (storedBelow width store)) := by
  rw [Option.map_map]
  exact @number_value width β file hfile path (narrow ∘ make) toInt store hstore hnumber known

theorem uint16_value {file : IniFile} (hfile : file.ReadsNumbers) {path : Str}
    (hnumber : ∀ t ∈ file.text path, IsDigits t) (known : Option UInt16) :
    (known <|> file.uint16 path).map (fun port => (port.toNat : Int)) =
      (known.map (fun port => (port.toNat : Int)) <|>
        ((file.text path).map digitsValue).bind (storedBelow (2 ^ 16) Nat.cast)) := by
  refine number_value hfile (fun n hn => ?_) hnumber known
  rw [UInt16.toNat_ofNat_of_lt' hn]

end

-- ---------------------------------------------------------------------------
-- The stages
-- ---------------------------------------------------------------------------

theorem toInt_ofNat_uint32 {n : Nat} (h : n < 2 ^ 32) :
    (UInt32.ofNat n).toUInt64.toInt64.toInt = n := by
  have hn : (UInt32.ofNat n).toUInt64.toNat = n := by
    rw [UInt32.toNat_toUInt64, UInt32.toNat_ofNat_of_lt' h]
  rw [toInt_toInt64 (by omega), hn]

theorem toInt_ofNat_uint16 {n : Nat} (h : n < 2 ^ 16) :
    (UInt16.ofNat n).toUInt64.toInt64.toInt = n := by
  have hn : (UInt16.ofNat n).toUInt64.toNat = n := by
    rw [UInt16.toNat_toUInt64, UInt16.toNat_ofNat_of_lt' h]
  rw [toInt_toInt64 (by omega), hn]

theorem toInt_ofNat_int32 {n : Nat} (h : n < 2 ^ 32) :
    (UInt32.ofNat n).toInt32.toInt = asInt32 n := by
  rw [toInt_toInt32, UInt32.toNat_ofNat_of_lt' h]
  rfl

theorem toNat_ofNat_uint16 {n : Nat} (h : n < 2 ^ 32) :
    ((UInt32.ofNat n).toUInt16.toNat : Int) = asUint16 n := by
  rw [UInt32.toNat_toUInt16, UInt32.toNat_ofNat_of_lt' h]
  rfl

section
variable {env : Externals} {fuel : Nat} {files : Str → Option IniFile} {line : CommandLine}
  {param first second third param' : Parameters}

theorem value_commandLine (henv : CastsNumbers env) (hnew : param.commandLineParameters = {})
    (hnumbers : ∀ s, ∀ t ∈ Setting.written files line s .commandLine, IsDigits t)
    (h : parseParametersFromCommandLine env line param = some first) (s : Setting) :
    s.value first = s.read files line .commandLine ∧
      ∀ n ∈ s.number files line .commandLine, (s.stored .commandLine n).isSome = true := by
  simp only [parseParametersFromCommandLine, Option.bind_eq_bind, Option.bind_eq_some_iff,
    Option.pure_def, hnew] at h
  obtain ⟨publisher, hpublisher, puller, hpuller, agent, hagent, replier, hreplier, tick, htick,
    duration, hduration, broadcast, hbroadcast, hfirst⟩ := h
  have hport : ∀ n < 2 ^ 16, ((UInt16.ofNat n).toNat : Int) = n := by
    intro n hn
    rw [UInt16.toNat_ofNat_of_lt' hn]
  split at hfirst
  · cases hfirst
  · cases hfirst
    cases s with
    | publisherPort =>
      exact storeOption_value henv.uint16 hport (hnumbers .publisherPort) hpublisher
    | pullerPort => exact storeOption_value henv.uint16 hport (hnumbers .pullerPort) hpuller
    | agentPort => exact storeOption_value henv.uint16 hport (hnumbers .agentPort) hagent
    | replierPort => exact storeOption_value henv.uint16 hport (hnumbers .replierPort) hreplier
    | tickInterval =>
      have h := @storeOption_value _ _ _ _ (·.toUInt64.toInt64.toInt) _ _ _ henv.uint32
        (fun n hn => toInt_ofNat_uint32 hn) (hnumbers .tickInterval) htick
      cases tick <;> exact h
    | gameDuration =>
      have h := @storeOption_value _ _ _ _ (·.toInt32.toInt) asInt32 _ _ henv.uint32
        (fun n hn => toInt_ofNat_int32 hn) (hnumbers .gameDuration) hduration
      cases duration <;> exact h
    | broadcastPort =>
      exact storeOption_value henv.uint16 hport (hnumbers .broadcastPort) hbroadcast

theorem value_technical (hfiles : ∀ path file, files path = some file → file.ReadsNumbers)
    (hnumbers : ∀ s, ∀ t ∈ Setting.written files line s .technical, IsDigits t)
    (h : parseParametersFromConfigFile fuel (files line.rcFilePath) first = .ok (some second))
    (s : Setting) : s.value second = (s.value first <|> s.read files line .technical) := by
  cases hfile : files line.rcFilePath with
  | none =>
    rw [hfile] at h
    cases h
  | some file =>
    have hwritten : ∀ s, Setting.written files line s .technical =
        s.technicalPath.bind file.text := by
      intro s
      simp [Setting.written, hfile]
    simp only [hwritten] at hnumbers
    have hreads := hfiles _ file hfile
    simp only [parseParametersFromConfigFile, hfile, bind_eq_ok] at h
    obtain ⟨videoPorts, -, h⟩ := h
    cases videoPorts with
    | none => cases h
    | some videoPorts =>
      cases h
      rw [Setting.read, Setting.number, hwritten]
      cases s with
      | publisherPort => exact uint16_value hreads (hnumbers .publisherPort) _
      | pullerPort => exact uint16_value hreads (hnumbers .pullerPort) _
      | agentPort => exact uint16_value hreads (hnumbers .agentPort) _
      | replierPort => exact uint16_value hreads (hnumbers .replierPort) _
      | tickInterval =>
        exact @narrowed_value _ _ _ file hreads _ UInt16.ofNat (·.toUInt64.toInt64) Int64.toInt _
          (fun n hn => toInt_ofNat_uint16 hn) (hnumbers .tickInterval) _
      | gameDuration => simp [Setting.value, Setting.technicalPath]
      | broadcastPort => exact uint16_value hreads (hnumbers .broadcastPort) _

theorem value_game (hfiles : ∀ path file, files path = some file → file.ReadsNumbers)
    (hnumbers : ∀ s, ∀ t ∈ Setting.written files line s .game, IsDigits t)
    (h : line.parseGameFile env files second = some third) (s : Setting) :
    s.value third = (s.value second <|> s.read files line .game) := by
  unfold CommandLine.parseGameFile at h
  split at h
  · next hpath =>
    cases h
    simp [Setting.read, Setting.number, Setting.written, hpath]
  · next path hpath =>
    simp only [parseGameConfigFromFile, Option.bind_eq_bind, Option.bind_eq_some_iff,
      Option.pure_def, Option.some.injEq] at h
    obtain ⟨file, hfile, _, -, _, -, param₁, hteams, _, -, _, -, rfl⟩ := h
    have hwritten : ∀ s, Setting.written files line s .game = s.gamePath.bind file.text := by
      intro s
      simp [Setting.written, hpath, hfile]
    simp only [hwritten] at hnumbers
    have hreads := hfiles path file hfile
    have hsame : param₁.commandLineParameters = second.commandLineParameters := by
      rw [parseTeams_frame hteams]
    rw [Setting.read, Setting.number, hwritten]
    cases s with
    | gameDuration =>
      exact narrowed_value hreads (fun n hn => toInt_ofNat_int32 hn) (hnumbers .gameDuration) _
    | broadcastPort =>
      simp only [Setting.value, hsame]
      exact @narrowed_value _ _ _ file hreads _ UInt32.ofNat UInt32.toUInt16 (·.toNat) _
        (fun n hn => toNat_ofNat_uint16 hn) (hnumbers .broadcastPort) _
    | _ => simp [Setting.value, Setting.gamePath, hsame]

theorem value_orDefaults (param : Parameters) (s : Setting) :
    s.value { param with commandLineParameters := param.commandLineParameters.orDefaults } =
      some ((s.value param).getD s.fallback) := by
  obtain ⟨known, _, _, _, _, _⟩ := param
  obtain ⟨puller, publisher, agent, replier, tick, duration, _, _, broadcast⟩ := known
  cases s with
  | publisherPort => cases publisher <;> rfl
  | pullerPort => cases puller <;> rfl
  | agentPort => cases agent <;> rfl
  | replierPort => cases replier <;> rfl
  | tickInterval => cases tick <;> rfl
  | gameDuration => cases duration <;> rfl
  | broadcastPort => cases broadcast <;> rfl

theorem readParameters_ok (h : readParameters env fuel files line param = .ok (some param')) :
    ∃ first second third, Stages env fuel files line param first second third ∧
      param' = { third with commandLineParameters := third.commandLineParameters.orDefaults } := by
  unfold readParameters at h
  cases hfirst : parseParametersFromCommandLine env line param with
  | none =>
    rw [hfirst] at h
    cases h
  | some first =>
    simp only [hfirst, bind_eq_ok] at h
    obtain ⟨second, hsecond, h⟩ := h
    cases second with
    | none => cases h
    | some second =>
      cases hthird : line.parseGameFile env files second with
      | none =>
        simp only [hthird] at h
        cases h
      | some third =>
        simp only [hthird, bind_eq_ok] at h
        obtain ⟨consistent, -, h⟩ := h
        cases consistent with
        | false => cases h
        | true =>
          cases h
          exact ⟨first, second, third, ⟨hfirst, hsecond, hthird⟩, rfl⟩

end

-- ---------------------------------------------------------------------------
-- Widths and fields
-- ---------------------------------------------------------------------------

/-- A number counts as it is where it fits the field, and not at all elsewhere. -/
def Setting.Exact (s : Setting) (source : Source) (n : Nat) : Prop :=
  s.stored source n = if n < s.bound then some (n : Int) else none

section
variable {s : Setting} {source : Source} {n : Nat} {v : Int}

theorem asInt32_lt (n : Nat) : asInt32 n < 2 ^ 31 := by
  unfold asInt32
  rw [Int.bmod_def]
  omega

theorem asUint16_lt (n : Nat) : asUint16 n < 2 ^ 16 := by
  unfold asUint16
  omega

theorem storedBelow_eq_some {width : Nat} {store : Nat → Int} :
    storedBelow width store n = some v ↔ n < width ∧ store n = v := by
  unfold storedBelow
  split <;> simp_all

theorem storedBelow_eq_none {width : Nat} {store : Nat → Int} :
    storedBelow width store n = none ↔ width ≤ n := by
  unfold storedBelow
  split <;> simp_all

theorem lt_of_storedBelow {width bound : Nat} {store : Nat → Int}
    (h : storedBelow width store n = some v) (hstore : ∀ n < width, store n < bound) :
    v < bound := by
  obtain ⟨hlt, rfl⟩ := storedBelow_eq_some.mp h
  exact hstore n hlt

theorem cast_lt {width bound : Nat} (hle : width ≤ bound) : ∀ n < width, (n : Int) < bound :=
  fun _ hn => Int.ofNat_lt.mpr (Nat.lt_of_lt_of_le hn hle)

theorem stored_lt (h : s.stored source n = some v) : v < s.bound := by
  cases source with
  | commandLine =>
    cases s with
    | tickInterval => exact lt_of_storedBelow h (cast_lt (by decide))
    | gameDuration => exact lt_of_storedBelow h fun n _ => asInt32_lt n
    | _ => exact lt_of_storedBelow h (cast_lt (by decide))
  | technical => cases s <;> exact lt_of_storedBelow h (cast_lt (by decide))
  | game =>
    cases s with
    | tickInterval =>
      exact lt_of_storedBelow h fun n _ => (asUint16_lt n).trans (by decide)
    | gameDuration => exact lt_of_storedBelow h fun n _ => asInt32_lt n
    | _ => exact lt_of_storedBelow h fun n _ => asUint16_lt n

theorem exact_of_stored (h : s.stored source n = some (n : Int)) : s.Exact source n := by
  rw [Setting.Exact, h, if_pos (by exact_mod_cast stored_lt h)]

theorem exact_of_not_stored (h : s.stored source n = none) (hn : s.bound ≤ n) :
    s.Exact source n := by
  rw [Setting.Exact, h, if_neg (by omega)]

theorem Setting.Exact.eq (h : s.Exact source n) (hv : s.stored source n = some v) : v = n := by
  rw [Setting.Exact, hv] at h
  split at h
  · exact Option.some.inj h
  · cases h

theorem exact_storedBelow {width bound : Nat} {store : Nat → Int}
    (hstore : ∀ n < width, store n = n ↔ n < bound) (hle : bound ≤ width) :
    storedBelow width store n = (if n < bound then some (n : Int) else none) ↔
      n < bound ∨ width ≤ n := by
  unfold storedBelow
  by_cases hwidth : n < width
  · have h := hstore n hwidth
    by_cases hbound : n < bound
    · simp [hwidth, hbound, h.mpr hbound]
    · simp [hwidth, hbound]
  · simp [hwidth, show ¬n < bound by omega]
    omega

theorem exact_gameDuration (hsource : source = .commandLine ∨ source = .game) :
    Setting.gameDuration.Exact source n ↔ n < 2 ^ 31 ∨ 2 ^ 32 ≤ n := by
  rcases hsource with rfl | rfl <;>
    exact exact_storedBelow (fun n hn => bmod_eq_iff hn) (by decide)

theorem exact_broadcastPort :
    Setting.broadcastPort.Exact .game n ↔ n < 2 ^ 16 ∨ 2 ^ 32 ≤ n := by
  refine @exact_storedBelow n (2 ^ 32) (2 ^ 16) asUint16 (fun n hn => ?_) (by decide)
  unfold asUint16
  omega

theorem exact_tickInterval :
    Setting.tickInterval.Exact .technical n ↔ n < 2 ^ 16 ∨ 2 ^ 63 ≤ n := by
  change storedBelow (2 ^ 16) Nat.cast n = (if n < 2 ^ 63 then some (n : Int) else none) ↔ _
  unfold storedBelow
  by_cases hwidth : n < 2 ^ 16
  · simp only [hwidth, if_true, true_or, iff_true]
    rw [if_pos (by omega)]
  · rw [if_neg hwidth, eq_comm, ite_eq_right_iff]
    constructor
    · intro h
      exact .inr (Nat.le_of_not_lt fun hlt => by cases h hlt)
    · intro h hlt
      omega

end

-- ---------------------------------------------------------------------------
-- The sources that are looked at
-- ---------------------------------------------------------------------------

structure Setting.ReadsExactly (files : Str → Option IniFile) (line : CommandLine) (s : Setting) :
    Prop where
  commandLine : ∀ n ∈ s.number files line .commandLine, s.Exact .commandLine n
  technical : s.read files line .commandLine = none →
    ∀ n ∈ s.number files line .technical, s.Exact .technical n
  game : s.read files line .commandLine = none → s.read files line .technical = none →
    ∀ n ∈ s.number files line .game, s.Exact .game n

section
variable {files : Str → Option IniFile} {line : CommandLine} {s : Setting} {source : Source}

theorem read_of_exact (h : ∀ n ∈ s.number files line source, s.Exact source n) :
    s.read files line source = (s.supplied files line source).map Nat.cast := by
  unfold Setting.read Setting.supplied
  cases hnumber : s.number files line source with
  | none => rfl
  | some n =>
    have hexact := h n hnumber
    unfold Setting.Exact at hexact
    by_cases hn : n < s.bound
    · simp [hexact, hn]
    · simp [hexact, hn, Nat.le_of_not_lt hn]

theorem read_of_stored {n : Nat} {v : Int} (hn : s.number files line source = some n)
    (hv : s.stored source n = some v) : s.read files line source = some v := by
  rw [Setting.read, hn]
  exact hv

theorem orElse_eq_none {α : Type} {first second : Option α} :
    (first <|> second) = none ↔ first = none ∧ second = none := by
  cases first <;> simp

theorem taken_of_exact (h : ∀ n ∈ s.number files line source, s.Exact source n) {v : Int}
    (hv : s.read files line source = some v) :
    ∃ n, s.number files line source = some n ∧ v = n := by
  obtain ⟨n, hn, hstored⟩ := Option.bind_eq_some_iff.mp hv
  exact ⟨n, hn, (h n hn).eq hstored⟩

theorem exact_of_taken {n : Nat} {v : Int} (hn : s.number files line source = some n)
    (hstored : s.stored source n = some v)
    (htaken : ∃ n, s.number files line source = some n ∧ v = n) : s.Exact source n := by
  obtain ⟨n', hn', rfl⟩ := htaken
  cases hn.symm.trans hn'
  exact exact_of_stored hstored

theorem expected_of_exact (h : s.ReadsExactly files line) :
    (s.read files line .commandLine <|> s.read files line .technical <|>
      s.read files line .game).getD s.fallback = s.expected files line := by
  unfold Setting.expected
  have hfirst := read_of_exact h.commandLine
  cases hline : s.supplied files line .commandLine with
  | some n => simp [hfirst, hline]
  | none =>
    rw [hline] at hfirst
    have hsecond := read_of_exact (h.technical hfirst)
    cases htechnical : s.supplied files line .technical with
    | some n => simp [hfirst, hsecond, htechnical]
    | none =>
      rw [htechnical] at hsecond
      have hthird := read_of_exact (h.game hfirst hsecond)
      cases hgame : s.supplied files line .game with
      | some n => simp [hfirst, hsecond, hthird, hgame]
      | none => simp [hfirst, hsecond, hthird, hgame]

theorem read_technical_eq_none : s.read files line .technical = none ↔
    ∀ n ∈ s.number files line .technical, 2 ^ 16 ≤ n := by
  have hstored : s.stored .technical = storedBelow (2 ^ 16) Nat.cast := by cases s <;> rfl
  unfold Setting.read
  rw [hstored]
  cases s.number files line .technical with
  | none => simp
  | some n => simp [storedBelow]

theorem read_commandLine_eq_none
    (haccepted : ∀ n ∈ s.number files line .commandLine, (s.stored .commandLine n).isSome = true) :
    s.read files line .commandLine = none ↔ s.option line = none := by
  cases hoption : s.option line with
  | none => simp [Setting.read, Setting.number, Setting.written, hoption]
  | some t =>
    have hnumber : s.number files line .commandLine = some (digitsValue t) := by
      simp [Setting.number, Setting.written, hoption]
    obtain ⟨v, hv⟩ := Option.isSome_iff_exists.mp (haccepted _ hnumber)
    simp [Setting.read, hnumber, hv]

theorem bound_le_of_game {n : Nat} (hn : s.number files line .game = some n)
    (hstored : s.stored .game n = none) : s.bound ≤ n := by
  cases s with
  | gameDuration =>
    exact Nat.le_trans (by decide) (storedBelow_eq_none.mp hstored)
  | broadcastPort =>
    exact Nat.le_trans (by decide) (storedBelow_eq_none.mp hstored)
  | _ => simp [Setting.number, Setting.written, Setting.gamePath] at hn

theorem bound_le_of_technical {n : Nat} (hoption : s.option line = none)
    (hn : s.number files line .technical = some n) (hstored : s.stored .technical n = none)
    (hexpected : (s.read files line .technical <|> s.read files line .game).getD s.fallback =
      (s.expected files line : Int)) : s.bound ≤ n := by
  cases s with
  | gameDuration => simp [Setting.number, Setting.written, Setting.technicalPath] at hn
  | tickInterval =>
    have hwidth : 2 ^ 16 ≤ n := storedBelow_eq_none.mp hstored
    by_contra hlt
    have hline : Setting.tickInterval.supplied files line .commandLine = none := by
      simp [Setting.supplied, Setting.number, Setting.written, hoption]
    have htechnical : Setting.tickInterval.supplied files line .technical = some n := by
      simp [Setting.supplied, hn, Nat.lt_of_not_le hlt]
    have hgame : Setting.tickInterval.read files line .game = none := by
      simp [Setting.read, Setting.number, Setting.written, Setting.gamePath]
    have hread : Setting.tickInterval.read files line .technical = none := by
      rw [Setting.read, hn]
      exact hstored
    have hfallback : ((500 : Nat) : Int) = n := by
      simpa [hread, hgame, Setting.expected, hline, htechnical, Setting.fallback] using hexpected
    omega
  | _ => exact storedBelow_eq_none.mp hstored

/-- Only the four widths that are not that of the field matter. -/
theorem readsExactly_iff (haccepted : ∀ s, ∀ n ∈ Setting.number files line s .commandLine,
      (s.stored .commandLine n).isSome = true) :
    (∀ s : Setting, s.ReadsExactly files line) ↔ Fits files line := by
  have hline : ∀ s : Setting, s.read files line .commandLine = none ↔ s.option line = none :=
    fun s => read_commandLine_eq_none (haccepted s)
  constructor
  · intro h
    refine ⟨fun n hn => ?_, fun hnone n hn => ?_, fun hnone n hn => ?_, fun hnone hlarge n hn => ?_⟩
    · obtain ⟨v, hv⟩ := Option.isSome_iff_exists.mp (haccepted .gameDuration n hn)
      have hlt := (storedBelow_eq_some.mp hv).1
      rcases (exact_gameDuration (.inl rfl)).mp ((h .gameDuration).commandLine n hn) with hn | hn
      · exact hn
      · omega
    · refine (exact_gameDuration (.inr rfl)).mp
        ((h .gameDuration).game ((hline _).mpr hnone) ?_ n hn)
      refine read_technical_eq_none.mpr fun n hn => ?_
      simp [Setting.number, Setting.written, Setting.technicalPath] at hn
    · exact exact_tickInterval.mp ((h .tickInterval).technical ((hline _).mpr hnone) n hn)
    · exact exact_broadcastPort.mp ((h .broadcastPort).game ((hline _).mpr hnone)
        (read_technical_eq_none.mpr hlarge) n hn)
  · intro h s
    have hnothing : ∀ s source, Setting.written files line s source = none →
        ∀ n ∈ s.number files line source, s.Exact source n := by
      intro s source hnone n hn
      simp [Setting.number, hnone] at hn
    cases s with
    | tickInterval =>
      refine ⟨fun n hn => ?_, fun hnone n hn => ?_, fun _ _ => hnothing _ _ (by
        simp [Setting.written, Setting.gamePath])⟩
      · obtain ⟨v, hv⟩ := Option.isSome_iff_exists.mp (haccepted .tickInterval n hn)
        obtain ⟨-, rfl⟩ := storedBelow_eq_some.mp hv
        exact exact_of_stored hv
      · exact exact_tickInterval.mpr (h.tickInterval ((hline _).mp hnone) n hn)
    | gameDuration =>
      refine ⟨fun n hn => ?_, fun _ => hnothing _ _ (by
        simp [Setting.written, Setting.technicalPath]), fun hnone _ n hn => ?_⟩
      · exact (exact_gameDuration (.inl rfl)).mpr (.inl (h.lineDuration n hn))
      · exact (exact_gameDuration (.inr rfl)).mpr (h.gameDuration ((hline _).mp hnone) n hn)
    | broadcastPort =>
      refine ⟨fun _ _ => rfl, fun _ _ _ => rfl, fun hnone hlarge n hn => ?_⟩
      exact exact_broadcastPort.mpr (h.broadcastPort ((hline _).mp hnone)
        (read_technical_eq_none.mp hlarge) n hn)
    | _ =>
      exact ⟨fun _ _ => rfl, fun _ _ _ => rfl, fun _ _ => hnothing _ _ (by
        simp [Setting.written, Setting.gamePath])⟩

end

-- ---------------------------------------------------------------------------
-- One setting through the stages
-- ---------------------------------------------------------------------------

section
variable {files : Str → Option IniFile} {line : CommandLine} {s : Setting}
  {param first second third : Parameters}
  (hfirst : s.value first = s.read files line .commandLine)
  (hsecond : s.value second = (s.value first <|> s.read files line .technical))
  (hthird : s.value third = (s.value second <|> s.read files line .game))
include hfirst hsecond hthird

theorem takes_of_readsExactly (h : s.ReadsExactly files line) :
    s.Takes files line .commandLine param first ∧
      s.Takes files line .technical first second ∧ s.Takes files line .game second third := by
  refine ⟨fun hnone v hv => ?_, fun hnone v hv => ?_, fun hnone v hv => ?_⟩
  · exact taken_of_exact h.commandLine (hfirst.symm.trans hv)
  · have hread := hfirst.symm.trans hnone
    rw [hsecond, hnone] at hv
    exact taken_of_exact (h.technical hread) hv
  · rw [hthird, hnone] at hv
    rw [hsecond, hfirst] at hnone
    obtain ⟨hread₁, hread₂⟩ := orElse_eq_none.mp hnone
    exact taken_of_exact (h.game hread₁ hread₂) hv

theorem readsExactly_of_takes (hunset : s.value param = none)
    (haccepted : ∀ n ∈ s.number files line .commandLine, (s.stored .commandLine n).isSome = true)
    (hcommandLine : s.Takes files line .commandLine param first)
    (htechnical : s.Takes files line .technical first second)
    (hgame : s.Takes files line .game second third)
    (hexpected : (s.read files line .commandLine <|> s.read files line .technical <|>
      s.read files line .game).getD s.fallback = (s.expected files line : Int)) :
    s.ReadsExactly files line := by
  refine ⟨fun n hn => ?_, fun hnone n hn => ?_, fun hnone hnone' n hn => ?_⟩
  · obtain ⟨v, hv⟩ := Option.isSome_iff_exists.mp (haccepted n hn)
    exact exact_of_taken hn hv (hcommandLine hunset v (hfirst.trans (read_of_stored hn hv)))
  · cases hstored : s.stored .technical n with
    | some v =>
      refine exact_of_taken hn hstored (htechnical (hfirst.trans hnone) v ?_)
      simp [hsecond, hfirst, hnone, read_of_stored hn hstored]
    | none =>
      have hoption := (read_commandLine_eq_none haccepted).mp hnone
      rw [hnone] at hexpected
      exact exact_of_not_stored hstored (bound_le_of_technical hoption hn hstored hexpected)
  · cases hstored : s.stored .game n with
    | some v =>
      refine exact_of_taken hn hstored (hgame ?_ v ?_)
      · simp [hsecond, hfirst, hnone, hnone']
      · simp [hthird, hsecond, hfirst, hnone, hnone', read_of_stored hn hstored]
    | none => exact exact_of_not_stored hstored (bound_le_of_game hn hstored)

end

-- ---------------------------------------------------------------------------
-- Precedence
-- ---------------------------------------------------------------------------

/-- With numbers for all that is written, the settings of a configuration that
is accepted are those of the first source with a number that fits, and none is
changed, exactly when the four numbers that are read with another width fit
both. -/
theorem precedence_iff (env : Externals) (henv : CastsNumbers env) (fuel : Nat)
    (files : Str → Option IniFile)
    (hfiles : ∀ path file, files path = some file → file.ReadsNumbers) (line : CommandLine)
    (param param' : Parameters) (hnew : param.commandLineParameters = {})
    (hnumbers : ∀ s source, ∀ t ∈ Setting.written files line s source, IsDigits t)
    (h : readParameters env fuel files line param = .ok (some param')) :
    FollowsPrecedence env fuel files line param param' ↔ Fits files line := by
  obtain ⟨first, second, third, hstages, hparam'⟩ := readParameters_ok h
  have hline := value_commandLine henv hnew (fun s => hnumbers s .commandLine) hstages.commandLine
  have hfirst := fun s => (hline s).1
  have hsecond := value_technical hfiles (fun s => hnumbers s .technical) hstages.technical
  have hthird := value_game hfiles (fun s => hnumbers s .game) hstages.game
  have hvalue : ∀ s : Setting, s.value param' = some ((s.read files line .commandLine <|>
      s.read files line .technical <|> s.read files line .game).getD s.fallback) := by
    intro s
    rw [hparam', value_orDefaults, hthird, hsecond, hfirst]
    cases s.read files line .commandLine <;> rfl
  rw [← readsExactly_iff fun s => (hline s).2]
  constructor
  · intro h s
    obtain ⟨hcommandLine, htechnical, hgame⟩ := h.taken first second third hstages s
    have hunset : s.value param = none := by cases s <;> simp [Setting.value, hnew]
    exact readsExactly_of_takes (hfirst s) (hsecond s) (hthird s) hunset (hline s).2 hcommandLine
      htechnical hgame (Option.some.inj ((hvalue s).symm.trans (h.precedence s)))
  · intro h
    refine ⟨fun s => ?_, fun first' second' third' hstages' s => ?_⟩
    · rw [hvalue, expected_of_exact (h s)]
    · cases hstages.commandLine.symm.trans hstages'.commandLine
      cases hstages.technical.symm.trans hstages'.technical
      cases hstages.game.symm.trans hstages'.game
      exact takes_of_readsExactly (hfirst s) (hsecond s) (hthird s) (h s)

-- ---------------------------------------------------------------------------
-- Three sources
-- ---------------------------------------------------------------------------

theorem castDecimal_of_isDigits {text : Str} (h : IsDigits text) (bound : Nat) :
    castDecimal bound text =
      if digitsValue text < bound then some (digitsValue text) else none := by
  rw [castDecimal, if_pos ⟨h.1, List.all_eq_true.mpr h.2⟩]
  simp only [Option.filter_some, decide_eq_true_eq]
  rfl

theorem CastsNumbers.plain : CastsNumbers .plain := by
  refine ⟨fun text h => ?_, fun text h => ?_⟩
  · simp only [Externals.plain, castDecimal_of_isDigits h]
    split <;> rfl
  · simp only [Externals.plain, castDecimal_of_isDigits h]
    split <;> rfl

theorem IniFile.ofList_readsNumbers (entries : List (Str × Str)) :
    (IniFile.ofList entries).ReadsNumbers where
  missing path bound h := by
    change (entries.lookup path).bind (castDecimal bound) = none
    rw [show entries.lookup path = none from h, Option.bind_none]
  digits path text bound h htext := by
    change (entries.lookup path).bind (castDecimal bound) = _
    rw [show entries.lookup path = some text from h, Option.bind_some,
      castDecimal_of_isDigits htext]

def twoFiles (tickInterval broadcastPort : String) (path : Str) : Option IniFile :=
  if path = "orwell-config.ini".toList then
    some (.ofList [("server.video-ports".toList, "9100:9103".toList),
      ("server.tic-interval".toList, tickInterval.toList)])
  else if path = "game.ini".toList then
    some (.ofList [("game.ruleset".toList, "rules".toList),
      ("rules.game_name".toList, "game".toList),
      ("server.broadcast-port".toList, broadcastPort.toList)])
  else none

theorem twoFiles_readsNumbers (tickInterval broadcastPort : String) (path : Str) (file : IniFile)
    (h : twoFiles tickInterval broadcastPort path = some file) : file.ReadsNumbers := by
  unfold twoFiles at h
  split at h
  · cases h
    exact IniFile.ofList_readsNumbers _
  · split at h <;> cases h
    exact IniFile.ofList_readsNumbers _

def withGameFile : CommandLine := { gamefile := some "game.ini".toList }

def newParameters : Parameters := { commandLineParameters := {}, ruleset := oneTeam }

theorem written_twoFiles (s : Setting) (source : Source) :
    s.written (twoFiles "250" "9090") withGameFile source = none ∨
      s.written (twoFiles "250" "9090") withGameFile source = some "250".toList ∨
      s.written (twoFiles "250" "9090") withGameFile source = some "9090".toList := by
  cases s <;> cases source <;>
    first | exact .inl rfl | exact .inr (.inl rfl) | exact .inr (.inr rfl)

theorem precedence_iff_threeSources :
    ∃ param', readParameters .plain 10 (twoFiles "250" "9090") withGameFile newParameters =
        .ok (some param') ∧
      FollowsPrecedence .plain 10 (twoFiles "250" "9090") withGameFile newParameters param' := by
  refine ⟨_, rfl, (precedence_iff .plain .plain 10 (twoFiles "250" "9090")
    (twoFiles_readsNumbers "250" "9090") withGameFile newParameters _ rfl ?_ rfl).mpr
    ⟨?_, ?_, ?_, ?_⟩⟩
  · intro s source t ht
    rcases written_twoFiles s source with hnone | htick | hport
    · rw [hnone] at ht
      cases ht
    · cases htick.symm.trans ht
      exact ⟨by decide, List.all_eq_true.mp rfl⟩
    · cases hport.symm.trans ht
      exact ⟨by decide, List.all_eq_true.mp rfl⟩
  · intro n hn
    cases hn
  · intro _ n hn
    cases hn
  · intro _ n hn
    have hn : some (digitsValue "250".toList) = some n := hn
    cases hn
    decide
  · intro _ _ n hn
    have hn : some (digitsValue "9090".toList) = some n := hn
    cases hn
    decide

theorem precedence_cut :
    ∃ param', readParameters .plain 10 (twoFiles "250" "65537") withGameFile newParameters =
        .ok (some param') ∧ param'.commandLineParameters.broadcastPort = some 1 ∧
      ¬FollowsPrecedence .plain 10 (twoFiles "250" "65537") withGameFile newParameters param' := by
  refine ⟨_, rfl, rfl, fun h => ?_⟩
  have hbroadcast := h.precedence .broadcastPort
  revert hbroadcast
  decide

end ServerGame
