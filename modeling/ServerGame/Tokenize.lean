import ServerGame.Lib.Tokens
import ServerGame.RfidLists

/-!
# The lists of names in a game file

`Tokenize` collects a token until a `|` or a blank ends it, or the text. What it
appends is the tokens of the text, so the lists of teams, robots, items and map
limits have no empty name.
-/

namespace ServerGame

open Lib (IsToken Map Run Written foldlM_collects tokens)

-- ---------------------------------------------------------------------------
-- The loop
-- ---------------------------------------------------------------------------

def isSeparator (c : Char) : Bool := c == '|' || c == ' '

def flushToken : Str × List Str → List Str
  | (token, list) => if token.isEmpty then list else list ++ [token]

section
variable {c : Char} {text token : Str} {list : List Str}

theorem isSeparator_eq_false : isSeparator c = false ↔ c ≠ '|' ∧ c ≠ ' ' := by
  simp [isSeparator]

theorem isSeparator_eq_true : isSeparator c = true ↔ c = '|' ∨ c = ' ' := by
  simp [isSeparator]

theorem tokenizeChar_of_letter (h : isSeparator c = false) :
    tokenizeChar (token, list) c = (token ++ [c], list) := by
  simp [tokenizeChar, isSeparator_eq_false.mp h]

theorem tokenizeChar_of_separator (h : isSeparator c = true) :
    tokenizeChar (token, list) c = ([], flushToken (token, list)) := by
  have hnot : ¬(c ≠ '|' ∧ c ≠ ' ') := by simp [← isSeparator_eq_false, h]
  rw [tokenizeChar, if_neg hnot, flushToken]
  cases token <;> rfl

/-- With a token begun the rest of the text is read as if it began there. -/
theorem foldl_tokenizeChar (htoken : ∀ c ∈ token, isSeparator c = false) :
    flushToken (text.foldl tokenizeChar (token, list)) =
      list ++ tokens isSeparator (token ++ text) := by
  induction text generalizing token list with
  | nil =>
    by_cases hne : token = []
    · simp [hne, flushToken]
    · simp [hne, flushToken, Lib.tokens_of_free hne htoken]
  | cons c text ih =>
    rw [List.foldl_cons]
    cases hc : isSeparator c with
    | false =>
      have hnext : ∀ d ∈ token ++ [c], isSeparator d = false := by
        simpa [or_imp, forall_and, hc] using htoken
      rw [tokenizeChar_of_letter hc, ih hnext, ← List.append_cons]
    | true =>
      rw [tokenizeChar_of_separator hc, ih (by simp)]
      by_cases hne : token = []
      · simp [hne, flushToken, Lib.tokens_cons hc]
      · simp [hne, flushToken, Lib.tokens_append_cons ⟨hne, htoken⟩ hc]

theorem tokenize_eq (text : Str) (list : List Str) :
    tokenize text list = list ++ tokens isSeparator text :=
  foldl_tokenizeChar (by simp)

end

-- ---------------------------------------------------------------------------
-- The lists of a game file
-- ---------------------------------------------------------------------------

section
variable {env : Externals} {file : IniFile} {path name key : Str} {param param' : Parameters}

theorem IniFile.mem_names :
    name ∈ file.names path ↔ ∃ text, file.text path = some text ∧ Run isSeparator text name := by
  unfold IniFile.names
  cases file.text path with
  | none => simp
  | some text => simp [tokenize_eq, Lib.mem_tokens_iff]

theorem IniFile.isToken_of_mem_names (h : name ∈ file.names path) : IsToken isSeparator name := by
  obtain ⟨text, -, hrun⟩ := mem_names.mp h
  exact ⟨hrun.ne_nil, hrun.free⟩

/-- What is registered is what the lists name, and nothing under the empty key. -/
structure ReadsLists (file : IniFile) (param : Parameters) : Prop where
  teams : ∀ name, name ∈ param.teams ↔
    ∃ team ∈ file.names "game.teams".toList, file.text (team ++ ".name".toList) = some name
  robots : ∀ key, key ∈ param.robots ↔
    ∃ team ∈ file.names "game.teams".toList, key ∈ file.names (team ++ ".robots".toList)
  items : ∀ key, key ∈ param.items ↔ key ∈ file.names "game.items".toList
  named : [] ∉ param.robots ∧ [] ∉ param.items

theorem mem_of_inserts {β : Type} {insertKey : Map Str β → Str → Option (Map Str β)}
    (hinsert : ∀ map key map', insertKey map key = some map' →
      ∃ value, map' = map.insert key value)
    {keys : List Str} {map map' : Map Str β} (h : keys.foldlM insertKey map = some map')
    (key : Str) : key ∈ map' ↔ key ∈ map ∨ key ∈ keys := by
  have hcollects := foldlM_collects (fun (map : Map Str β) key => key ∈ map)
    (fun inserted key => inserted = key) (fun map inserted map' h key => ?_) h key
  · simpa using hcollects
  · obtain ⟨value, rfl⟩ := hinsert map inserted map' h
    simp [or_comm]

theorem parseRobot_inserts {teamName robot : Str} {robots robots' : Map Str Parameters.Robot}
    (h : parseRobot file teamName robots robot = some robots') :
    ∃ value, robots' = robots.insert robot value := by
  obtain ⟨_, -, hinserted⟩ := Option.bind_eq_some_iff.mp h
  exact ⟨_, (Option.some.inj hinserted).symm⟩

theorem parseItem_inserts {item : Str} {items items' : Map Str Parameters.Item}
    (h : parseItem env file items item = some items') :
    ∃ value, items' = items.insert item value := by
  obtain ⟨_, -, hinserted⟩ := Option.bind_eq_some_iff.mp h
  exact ⟨_, (Option.some.inj hinserted).symm⟩

theorem parseTeam_adds {team : Str} (h : parseTeam file param team = some param') :
    (∀ name, name ∈ param'.teams ↔
      name ∈ param.teams ∨ file.text (team ++ ".name".toList) = some name) ∧
    ∀ key, key ∈ param'.robots ↔
      key ∈ param.robots ∨ key ∈ file.names (team ++ ".robots".toList) := by
  simp only [parseTeam, Option.bind_eq_bind, Option.bind_eq_some_iff, Option.pure_def,
    Option.some.injEq] at h
  obtain ⟨teamName, hname, robots, hrobots, rfl⟩ := h
  refine ⟨fun name => ?_, mem_of_inserts (fun _ _ _ => parseRobot_inserts) hrobots⟩
  rw [hname]
  simp [or_comm]

theorem parseGameConfigFromFile_lists (hteams : param.teams = ∅) (hrobots : param.robots = ∅)
    (hitems : param.items = ∅) (h : parseGameConfigFromFile env (some file) param = some param') :
    ReadsLists file param' := by
  simp only [parseGameConfigFromFile, Option.bind_eq_bind, Option.bind_some,
    Option.bind_eq_some_iff, Option.pure_def, Option.some.injEq] at h
  obtain ⟨_, -, _, -, param₁, hparse, items, hparseItems, _, -, rfl⟩ := h
  have hrobotKeys : ∀ key, key ∈ param₁.robots ↔
      ∃ team ∈ file.names "game.teams".toList, key ∈ file.names (team ++ ".robots".toList) := by
    intro key
    have hcollects := foldlM_collects (fun (param : Parameters) key => key ∈ param.robots)
      (fun team key => key ∈ file.names (team ++ ".robots".toList))
      (fun _ _ _ h => (parseTeam_adds h).2) hparse key
    simpa [hrobots] using hcollects
  have hitemKeys : ∀ key, key ∈ items ↔ key ∈ file.names "game.items".toList := by
    intro key
    simpa [parseTeams_items hparse, hitems] using
      mem_of_inserts (fun _ _ _ => parseItem_inserts) hparseItems key
  refine ⟨fun name => ?_, hrobotKeys, hitemKeys, fun hkey => ?_, fun hkey => ?_⟩
  · have hcollects := foldlM_collects (fun (param : Parameters) name => name ∈ param.teams)
      (fun team name => file.text (team ++ ".name".toList) = some name)
      (fun _ _ _ h => (parseTeam_adds h).1) hparse name
    simpa [hteams] using hcollects
  · obtain ⟨team, -, hname⟩ := (hrobotKeys []).mp hkey
    exact (IniFile.isToken_of_mem_names hname).ne_nil rfl
  · exact (IniFile.isToken_of_mem_names ((hitemKeys []).mp hkey)).ne_nil rfl

end

-- ---------------------------------------------------------------------------
-- Tokens
-- ---------------------------------------------------------------------------

/-- However tokens are written they are appended in order, and what is appended
for a text is its tokens: only the separators are lost. -/
theorem tokenize_written (list : List Str) :
    (∀ (pieces : List (Str × Str)) (after : Str),
      (∀ piece ∈ pieces, (∀ c ∈ piece.1, c = '|' ∨ c = ' ') ∧ piece.2 ≠ [] ∧
        ∀ c ∈ piece.2, c ≠ '|' ∧ c ≠ ' ') →
      (∀ piece ∈ pieces.tail, piece.1 ≠ []) → (∀ c ∈ after, c = '|' ∨ c = ' ') →
      tokenize (pieces.flatMap (fun piece => piece.1 ++ piece.2) ++ after) list =
        list ++ pieces.map Prod.snd) ∧
    ∀ text : Str, ∃ found : List Str, tokenize text list = list ++ found ∧
      (∀ token ∈ found, token ≠ [] ∧ ∀ c ∈ token, c ≠ '|' ∧ c ≠ ' ') ∧
      found.flatten = text.filter fun c => c ≠ '|' ∧ c ≠ ' ' := by
  constructor
  · intro pieces after hpieces hbetween hafter
    have hwritten : Written isSeparator (pieces.map Prod.snd)
        (pieces.flatMap (fun piece => piece.1 ++ piece.2) ++ after) := by
      refine Lib.written_of_pieces (fun piece h => ?_) hbetween fun c hc => ?_
      · obtain ⟨hbefore, hne, hfree⟩ := hpieces piece h
        exact ⟨fun c hc => isSeparator_eq_true.mpr (hbefore c hc), hne,
          fun c hc => isSeparator_eq_false.mpr (hfree c hc)⟩
      · exact isSeparator_eq_true.mpr (hafter c hc)
    rw [tokenize_eq, Lib.tokens_eq_iff.mpr hwritten]
  · intro text
    have hwritten := Lib.written_tokens isSeparator text
    refine ⟨tokens isSeparator text, tokenize_eq text list, fun token h => ?_, ?_⟩
    · obtain ⟨hne, hfree⟩ := hwritten.isToken token h
      exact ⟨hne, fun c hc => isSeparator_eq_false.mp (hfree c hc)⟩
    · have hsame : ∀ c, (!isSeparator c) = decide (c ≠ '|' ∧ c ≠ ' ') := by
        intro c
        rw [Bool.eq_iff_iff]
        simp [isSeparator]
      rw [hwritten.flatten]
      simp only [hsame]

theorem tokenize_written_teams :
    tokenize "| red|  blue ".toList ["old".toList] =
      ["old".toList, "red".toList, "blue".toList] :=
  (tokenize_written ["old".toList]).1 [("| ".toList, "red".toList), ("|  ".toList, "blue".toList)]
    " ".toList (by simp) (by simp) (by simp)

end ServerGame
