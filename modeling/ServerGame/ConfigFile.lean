import ServerGame.Configuration
import ServerGame.Points
import ServerGame.PortRange

/-!
# Configuration files

`Application::ReadParameters`: the command line, the technical file and the game
file, one after the other, each for what is not there yet, and the defaults. A
file is the property tree that Boost makes of it; of the map limits there is
that they are read.
-/

namespace ServerGame

open Lib (InStream Map isSpace)

-- ---------------------------------------------------------------------------
-- read_ini
-- ---------------------------------------------------------------------------

/-- What `read_ini` makes of a file, at each path, a section and a key: the text,
and the numbers that `get` reads there, unsigned and below a bound or with a
sign. -/
structure IniFile where
  text : Str → Option Str
  number : Str → Nat → Option Nat
  int32 : Str → Option Int

namespace IniFile

variable (file : IniFile) (path : Str)

def uint16 : Option UInt16 := (file.number path (2 ^ 16)).map .ofNat

def uint32 : Option UInt32 := (file.number path (2 ^ 32)).map .ofNat

def ptree : Ptree where
  text := file.text
  number := file.uint32

/-- `read_ini` trims what stands behind the `=`. -/
def Trimmed : Prop :=
  ∀ path text, file.text path = some text →
    (∀ c ∈ text.head?, isSpace c = false) ∧ ∀ c ∈ text.getLast?, isSpace c = false

end IniFile

def IsDigits (text : Str) : Prop := text ≠ [] ∧ ∀ c ∈ text, c.isDigit = true

/-- What `get_optional` makes of digits, and of a path that is not there. -/
structure IniFile.ReadsNumbers (file : IniFile) : Prop where
  missing : ∀ path bound, file.text path = none → file.number path bound = none
  digits : ∀ path text bound, file.text path = some text → IsDigits text →
    file.number path bound =
      if InStream.digitsValue text < bound then some (InStream.digitsValue text) else none

def IniFile.ofList (entries : List (Str × Str)) : IniFile where
  text path := entries.lookup path
  number path bound := (entries.lookup path).bind (castDecimal bound)
  int32 path := (entries.lookup path).bind fun text =>
    if text.head? = some '-' then (castDecimal (2 ^ 31) text.tail).map (-·)
    else (castDecimal (2 ^ 31) text).map (↑)

theorem IniFile.ofList_trimmed {entries : List (Str × Str)}
    (h : ∀ entry ∈ entries, (∀ c ∈ entry.2.head?, isSpace c = false) ∧
      ∀ c ∈ entry.2.getLast?, isSpace c = false) : (ofList entries).Trimmed := by
  intro path text htext
  obtain ⟨before, after, rfl, -⟩ := List.lookup_eq_some_iff.mp htext
  exact h (path, text) (by simp)

-- ---------------------------------------------------------------------------
-- Lists of names
-- ---------------------------------------------------------------------------

/-- The token so far and the list: a token ends at a `|` or a blank. -/
def tokenizeChar : Str × List Str → Char → Str × List Str
  | (token, list), c =>
    if c ≠ '|' ∧ c ≠ ' ' then (token ++ [c], list)
    else if token.isEmpty then (token, list)
    else ([], list ++ [token])

def tokenize (text : Str) (list : List Str) : List Str :=
  let (token, list) := text.foldl tokenizeChar ([], list)
  if token.isEmpty then list else list ++ [token]

def IniFile.names (file : IniFile) (path : Str) : List Str :=
  match file.text path with
  | none => []
  | some text => tokenize text []

def splitRfids (env : Externals) (text : Str) : Std.ExtTreeSet Str compare :=
  if text.isEmpty then ∅ else .ofList (env.splitAtBlanks text)

-- ---------------------------------------------------------------------------
-- ParseParametersFromCommandLine
-- ---------------------------------------------------------------------------

structure CommandLine where
  help : Bool := false
  version : Bool := false
  orwellrc : Option Str := none
  gamefile : Option Str := none
  publisherPort : Option Str := none
  pullerPort : Option Str := none
  agentPort : Option Str := none
  replierPort : Option Str := none
  tickInterval : Option Str := none
  gameDuration : Option Str := none
  noBroadcast : Bool := false
  dryRun : Bool := false
  broadcastPort : Option Str := none

/-- `store`: an option that is there must have a value of its type. -/
def storeOption (cast : Str → Option α) : Option Str → Option (Option α)
  | none => some none
  | some text => (cast text).map some

/-- None where the function returns false. -/
def parseParametersFromCommandLine (env : Externals) (line : CommandLine) (param : Parameters) :
    Option Parameters := do
  let publisherPort ← storeOption env.lexicalCastUint16 line.publisherPort
  let pullerPort ← storeOption env.lexicalCastUint16 line.pullerPort
  let agentPort ← storeOption env.lexicalCastUint16 line.agentPort
  let replierPort ← storeOption env.lexicalCastUint16 line.replierPort
  let tickInterval ← storeOption env.lexicalCastUint32 line.tickInterval
  let gameDuration ← storeOption env.lexicalCastUint32 line.gameDuration
  let broadcastPort ← storeOption env.lexicalCastUint16 line.broadcastPort
  if line.help || line.version then none
  let known := param.commandLineParameters
  return { param with commandLineParameters := {
    publisherPort := publisherPort <|> known.publisherPort
    pullerPort := pullerPort <|> known.pullerPort
    agentPort := agentPort <|> known.agentPort
    replierPort := replierPort <|> known.replierPort
    tickInterval := tickInterval.map (·.toUInt64.toInt64) <|> known.tickInterval
    gameDuration := gameDuration.map (·.toInt32) <|> known.gameDuration
    dryRun := if line.dryRun then some true else known.dryRun
    broadcast := if line.noBroadcast then some false else known.broadcast
    broadcastPort := broadcastPort <|> known.broadcastPort } }

-- ---------------------------------------------------------------------------
-- ParseParametersFromConfigFile
-- ---------------------------------------------------------------------------

/-- None where the function returns false: the file cannot be read, or its video
ports. -/
def parseParametersFromConfigFile (fuel : Nat) (file : Option IniFile) (param : Parameters) :
    Except Fault (Option Parameters) := do
  let some file := file | return none
  let some videoPorts ←
    parseVideoPorts fuel param.videoPorts (file.text "server.video-ports".toList) | return none
  let known := param.commandLineParameters
  return some { param with
    videoPorts
    commandLineParameters := { known with
      publisherPort := known.publisherPort <|> file.uint16 "server.publisher-port".toList
      pullerPort := known.pullerPort <|> file.uint16 "server.puller-port".toList
      agentPort := known.agentPort <|> file.uint16 "server.agent-port".toList
      replierPort := known.replierPort <|> file.uint16 "server.replier-port".toList
      tickInterval := known.tickInterval <|>
        (file.uint16 "server.tic-interval".toList).map (·.toUInt64.toInt64)
      broadcastPort := known.broadcastPort <|> file.uint16 "server.broadcast-port".toList } }

-- ---------------------------------------------------------------------------
-- ParseGameConfigFromFile
-- ---------------------------------------------------------------------------

/-- None where `get` throws, here and below. -/
def parseRobot (file : IniFile) (teamName : Str) (robots : Map Str Parameters.Robot)
    (robot : Str) : Option (Map Str Parameters.Robot) := do
  let name ← file.text (robot ++ ".name".toList)
  return robots.insert robot { name, team := teamName }

def parseTeam (file : IniFile) (param : Parameters) (team : Str) : Option Parameters := do
  let teamName ← file.text (team ++ ".name".toList)
  let robots ← (file.names (team ++ ".robots".toList)).foldlM (parseRobot file teamName)
    param.robots
  return { param with teams := param.teams.insert teamName, robots }

theorem parseTeams_frame {file : IniFile} {teams : List Str} {param param' : Parameters}
    (h : teams.foldlM (parseTeam file) param = some param') :
    param' = { param with teams := param'.teams, robots := param'.robots } := by
  induction teams generalizing param with
  | nil =>
    cases h
    rfl
  | cons team teams ih =>
    rw [List.foldlM_cons] at h
    obtain ⟨param₁, hfirst, hrest⟩ := Option.bind_eq_some_iff.mp h
    simp only [parseTeam, Option.bind_eq_bind, Option.bind_eq_some_iff, Option.pure_def,
      Option.some.injEq] at hfirst
    obtain ⟨_, -, _, -, rfl⟩ := hfirst
    have hframe := ih hrest
    exact hframe

def Parameters.Item.parse (env : Externals) (file : IniFile) (item : Str) :
    Option Parameters.Item := do
  let name ← file.text (item ++ ".name".toList)
  let type ← file.text (item ++ ".type".toList)
  let rfid ← file.text (item ++ ".rfid".toList)
  let colour ← file.int32 (item ++ ".colour".toList)
  return { name, type, rfids := splitRfids env rfid, colour }

def parseItem (env : Externals) (file : IniFile) (items : Map Str Parameters.Item) (item : Str) :
    Option (Map Str Parameters.Item) := do
  return items.insert item (← Parameters.Item.parse env file item)

/-- `Landmark::ParseConfig`, whether its five numbers are there. -/
def parseLandmark (file : IniFile) (mapLimit : Str) : Option Unit := do
  let _ ← file.number (mapLimit ++ ".x".toList) (2 ^ 64)
  let _ ← file.number (mapLimit ++ ".y".toList) (2 ^ 64)
  let _ ← file.number (mapLimit ++ ".r".toList) (2 ^ 8)
  let _ ← file.number (mapLimit ++ ".g".toList) (2 ^ 8)
  let _ ← file.number (mapLimit ++ ".b".toList) (2 ^ 8)

def parseGameConfigFromFile (env : Externals) (file : Option IniFile) (param : Parameters) :
    Option Parameters := do
  let file ← file
  let gameDuration := param.commandLineParameters.gameDuration <|>
    (file.uint32 "game.duration".toList).map (·.toInt32)
  let ruleset ← Ruleset.parseConfig (← file.text "game.ruleset".toList) file.ptree
  let param ← (file.names "game.teams".toList).foldlM (parseTeam file) param
  let items ← (file.names "game.items".toList).foldlM (parseItem env file) param.items
  (file.names "game.map_limits".toList).forM (parseLandmark file)
  let known := param.commandLineParameters
  return { param with
    items, ruleset
    commandLineParameters := { known with
      gameDuration
      broadcastPort := known.broadcastPort <|>
        (file.uint32 "server.broadcast-port".toList).map (·.toUInt16) } }

-- ---------------------------------------------------------------------------
-- ReadParameters
-- ---------------------------------------------------------------------------

def CommandLineParameters.orDefaults (known : CommandLineParameters) : CommandLineParameters where
  publisherPort := known.publisherPort <|> some 9000
  pullerPort := known.pullerPort <|> some 9001
  agentPort := known.agentPort <|> some 9003
  replierPort := known.replierPort <|> some 9004
  tickInterval := known.tickInterval <|> some 500
  gameDuration := known.gameDuration <|> some 300
  dryRun := known.dryRun <|> some false
  broadcast := known.broadcast <|> some true
  broadcastPort := known.broadcastPort <|> some 9080

def CommandLine.rcFilePath (line : CommandLine) : Str :=
  line.orwellrc.getD "orwell-config.ini".toList

def CommandLine.gameFilePath (line : CommandLine) : Option Str :=
  line.gamefile.filter (!·.isEmpty)

def CommandLine.parseGameFile (env : Externals) (files : Str → Option IniFile)
    (line : CommandLine) (param : Parameters) : Option Parameters :=
  match line.gameFilePath with
  | none => some param
  | some path => parseGameConfigFromFile env (files path) param

/-- `files` is what `read_ini` finds at a path, none where it throws. The result
is none where the function returns false or lets an exception out. -/
def readParameters (env : Externals) (fuel : Nat) (files : Str → Option IniFile)
    (line : CommandLine) (param : Parameters) : Except Fault (Option Parameters) := do
  let some param := parseParametersFromCommandLine env line param | return none
  let some param ← parseParametersFromConfigFile fuel (files line.rcFilePath) param | return none
  let some param := line.parseGameFile env files param | return none
  let param := { param with commandLineParameters := param.commandLineParameters.orDefaults }
  return if ← checkParametersConsistency param then some param else none

end ServerGame
