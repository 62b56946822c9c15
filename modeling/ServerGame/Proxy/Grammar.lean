import ServerGame.Proxy.Commands

/-!
# The grammar of the commands

The forms of the commands that change the game, and when `AgentProxy::step`
takes a command exactly if it has its form: the branches only ask for the end
of the text.
-/

namespace ServerGame

open Lib (InStream words endsInSpace bind_eq_ok pure_eq_ok)
open Lib.InStream (Shows isNumeral readSign digitsValue)

-- ---------------------------------------------------------------------------
-- Forms
-- ---------------------------------------------------------------------------

inductive Form
  | bare
  | name
  | nameAndTeam
  | nameAndProperty
  | propertyAndNumber
  deriving DecidableEq, Repr

def grammar : List ((Str × Str) × Form) :=
  [(("start".toList, "game".toList), .bare),
    (("stop".toList, "application".toList), .bare),
    (("stop".toList, "game".toList), .bare),
    (("add".toList, "team".toList), .name),
    (("add".toList, "robot".toList), .nameAndTeam),
    (("add".toList, "player".toList), .name),
    (("remove".toList, "team".toList), .name),
    (("remove".toList, "robot".toList), .name),
    (("remove".toList, "player".toList), .name),
    (("register".toList, "robot".toList), .name),
    (("unregister".toList, "robot".toList), .name),
    (("set".toList, "game".toList), .propertyAndNumber),
    (("set".toList, "player".toList), .nameAndProperty),
    (("set".toList, "robot".toList), .nameAndProperty),
    (("set".toList, "team".toList), .nameAndProperty)]

def formOf (action object : Str) : Option Form := grammar.lookup (action, object)

def changingActions : List Str :=
  ["start".toList, "stop".toList, "add".toList, "remove".toList, "register".toList,
    "unregister".toList, "set".toList]

/-- The words behind a name: a plain word, a word in quotes of its own, or
words up to the one that closes the quotes. There is a character in the
quotes. -/
def takeName : List Str → Option (List Str)
  | [] => none
  | w :: ws =>
    if opensQuote w then
      if closesQuote w ∧ 2 ≤ w.length then if 3 ≤ w.length then some ws else none
      else untilClosed ws
    else some ws

/-- Digits behind an optional sign, for a number of 32 bits. -/
def IsNumber (w : Str) : Prop :=
  isNumeral w = true ∧ (readSign w).2 ≠ [] ∧ digitsValue (readSign w).2 < 2 ^ 32

def Form.Takes : Form → List Str → Prop
  | .bare, args => args = []
  | .name, args => takeName args = some []
  | .nameAndTeam, args => (takeName args).bind takeName = some []
  | .nameAndProperty, args => ∃ property value, takeName args = some [property, value]
  | .propertyAndNumber, args => ∃ property number, args = [property, number] ∧ IsNumber number

/-- An action, an object of it, and its arguments, with blanks around. -/
def InGrammar (command : Str) : Prop :=
  ∃ action object args form, words command = action :: object :: args ∧
    formOf action object = some form ∧ form.Takes args

-- ---------------------------------------------------------------------------
-- What the branches leave
-- ---------------------------------------------------------------------------

def leftByNumber : List Str → Option (List Str)
  | [] => none
  | w :: ws => some (if isNumeral w then ws else w :: ws)

/-- The words left behind the arguments, none when they are read to the end of
the text. -/
def Form.left : Form → List Str → Option (List Str)
  | .bare, args => some args
  | .name, args => leftByName args
  | .nameAndTeam, args => (leftByName args).bind leftByName
  | .nameAndProperty, args => ((leftByName args).bind leftByWord).bind leftByWord
  | .propertyAndNumber, args => (leftByWord args).bind leftByNumber

def Form.ReadsOut (form : Form) (args : List Str) (trailing : Bool) : Prop :=
  form.left args = none ∨ (form.left args = some [] ∧ trailing = false)

variable {env : AgentExternals} {stream : InStream} {ws args : List Str} {trailing : Bool}
  {action object : Str} {form : Form}

structure ReadsForm (env : AgentExternals) (form : Form)
    (read : InStream → Command × InStream) : Prop where
  eof_iff : ∀ {stream ws trailing}, stream.Shows ws trailing →
    ((read stream).2.eof = true ↔ form.ReadsOut ws trailing)
  feasible_iff : ∀ (game : Game) (stream), AgentProxy.Feasible game (read stream).1 ↔
    (form = .nameAndTeam → (AgentProxy.readName env stream).1 ∈ game.robots ∨
      game.getNewRobotId.isSome = true)

theorem ReadsForm.bare {command : Command}
    (h : ∀ game, AgentProxy.Feasible game command) :
    ReadsForm env .bare fun stream => (command, stream) where
  eof_iff {_ ws _} hshows :=
    have hleft : ShowsLeft _ _ (some ws) := hshows
    hleft.eof_iff
  feasible_iff game _ := by simp [h game]

theorem ReadsForm.withName {command : Str → Command}
    (h : ∀ game name, AgentProxy.Feasible game (command name)) :
    ReadsForm env .name (AgentProxy.withName env command) where
  eof_iff hshows := (leaves_readName env.byteBefore hshows).eof_iff
  feasible_iff game _ := by simp [AgentProxy.withName, h game]

theorem ReadsForm.withNameAndTeam :
    ReadsForm env .nameAndTeam (AgentProxy.withNameAndTeam env) where
  eof_iff hshows :=
    have hname := leaves_readName env.byteBefore hshows
    ((leaves_readName env.byteBefore).after rfl hname).eof_iff
  feasible_iff game _ := by simp [AgentProxy.withNameAndTeam, AgentProxy.Feasible]

theorem ReadsForm.withProperty {command : Str → Str → Str → Command}
    (h : ∀ game name property value, AgentProxy.Feasible game (command name property value)) :
    ReadsForm env .nameAndProperty (AgentProxy.withProperty env command) where
  eof_iff hshows :=
    have hname := leaves_readName env.byteBefore hshows
    have hproperty := (leaves_readWord []).after rfl hname
    ((leaves_readWord []).after rfl hproperty).eof_iff
  feasible_iff game _ := by simp [AgentProxy.withProperty, h game]

theorem readUnsigned_eof_iff {bound old : Nat} {left : Option (List Str)}
    (h : ShowsLeft stream trailing left) : (stream.readUnsigned bound old).2.eof = true ↔
      left.bind leftByNumber = none ∨
        (left.bind leftByNumber = some [] ∧ trailing = false) := by
  cases left with
  | none => simpa using (InStream.Shows.readUnsigned_nil h bound old).2.eof_iff
  | some ws =>
    cases ws with
    | nil => simpa [leftByNumber] using (InStream.Shows.readUnsigned_nil h bound old).2.eof_iff
    | cons w ws =>
      rw [InStream.Shows.readUnsigned_cons_eof h bound old]
      by_cases hw : isNumeral w = true <;> simp [leftByNumber, hw]

theorem ReadsForm.withNumber :
    ReadsForm env .propertyAndNumber (AgentProxy.withNumber env) where
  eof_iff hshows := readUnsigned_eof_iff (leaves_readWord [] hshows)
  feasible_iff game _ := by simp [AgentProxy.withNumber, AgentProxy.Feasible]

theorem branch_grammar : ∀ entry ∈ grammar, ∃ read,
    AgentProxy.branch env entry.1.1 entry.1.2 = some read ∧ ReadsForm env entry.2 read := by
  simp only [grammar, List.forall_mem_cons, List.not_mem_nil, false_implies, implies_true,
    and_true]
  exact ⟨⟨_, rfl, .bare fun _ => trivial⟩, ⟨_, rfl, .bare fun _ => trivial⟩,
    ⟨_, rfl, .bare fun _ => trivial⟩, ⟨_, rfl, .withName fun _ _ => trivial⟩,
    ⟨_, rfl, .withNameAndTeam⟩, ⟨_, rfl, .withName fun _ _ => trivial⟩,
    ⟨_, rfl, .withName fun _ _ => trivial⟩, ⟨_, rfl, .withName fun _ _ => trivial⟩,
    ⟨_, rfl, .withName fun _ _ => trivial⟩, ⟨_, rfl, .withName fun _ _ => trivial⟩,
    ⟨_, rfl, .withName fun _ _ => trivial⟩, ⟨_, rfl, .withNumber⟩,
    ⟨_, rfl, .withProperty fun _ _ _ _ => trivial⟩,
    ⟨_, rfl, .withProperty fun _ _ _ _ => trivial⟩,
    ⟨_, rfl, .withProperty fun _ _ _ _ => trivial⟩⟩

theorem mem_grammar_of_formOf (h : formOf action object = some form) :
    ((action, object), form) ∈ grammar := by
  obtain ⟨before, after, hsplit, -⟩ := List.lookup_eq_some_iff.mp h
  simp [hsplit]

theorem branch_of_formOf (h : formOf action object = some form) :
    ∃ read, AgentProxy.branch env action object = some read ∧ ReadsForm env form read :=
  branch_grammar _ (mem_grammar_of_formOf h)

theorem ne_nil_of_formOf (h : formOf action object = some form) : action ≠ [] ∧ object ≠ [] := by
  have hkeys : ∀ entry ∈ grammar, entry.1.1 ≠ [] ∧ entry.1.2 ≠ [] := by simp [grammar]
  exact hkeys _ (mem_grammar_of_formOf h)

theorem ite_eq_some {α : Type} {c : Prop} [Decidable c] {yes no : Option α} {a : α}
    (h : (if c then yes else no) = some a) : (c ∧ yes = some a) ∨ no = some a := by
  by_cases hc : c
  · exact .inl ⟨hc, by rwa [if_pos hc] at h⟩
  · exact .inr (by rwa [if_neg hc] at h)

theorem ite_none_eq_some {α : Type} {c : Prop} [Decidable c] {yes : Option α} {a : α}
    (h : (if c then yes else none) = some a) : c ∧ yes = some a := by
  rcases ite_eq_some h with h | h
  · exact h
  · cases h

theorem key_of_branch {read : InStream → Command × InStream}
    (h : AgentProxy.branch env action object = some read) :
    (action, object) ∈ grammar.map Prod.fst := by
  unfold AgentProxy.branch at h
  have key {a o : Str} (ha : action = a) (ho : object = o)
      (hmem : (a, o) ∈ grammar.map Prod.fst) : (action, object) ∈ grammar.map Prod.fst := by
    rwa [ha, ho]
  rcases ite_eq_some h with ⟨ha, h⟩ | h
  · exact key ha (ite_none_eq_some h).1 (by simp [grammar])
  rcases ite_eq_some h with ⟨ha, h⟩ | h
  · rcases ite_eq_some h with ⟨ho, -⟩ | h
    · exact key ha ho (by simp [grammar])
    · exact key ha (ite_none_eq_some h).1 (by simp [grammar])
  iterate 2
    rcases ite_eq_some h with ⟨ha, h⟩ | h
    · rcases ite_eq_some h with ⟨ho, -⟩ | h
      · exact key ha ho (by simp [grammar])
      rcases ite_eq_some h with ⟨ho, -⟩ | h
      · exact key ha ho (by simp [grammar])
      · exact key ha (ite_none_eq_some h).1 (by simp [grammar])
  iterate 2
    rcases ite_eq_some h with ⟨ha, h⟩ | h
    · exact key ha (ite_none_eq_some h).1 (by simp [grammar])
  obtain ⟨ha, h⟩ := ite_none_eq_some h
  iterate 3
    rcases ite_eq_some h with ⟨ho, -⟩ | h
    · exact key ha ho (by simp [grammar])
  exact key ha (ite_none_eq_some h).1 (by simp [grammar])

theorem branch_of_formOf_eq_none (h : formOf action object = none) :
    AgentProxy.branch env action object = none := by
  by_contra hsome
  obtain ⟨read, hread⟩ := Option.ne_none_iff_exists'.mp hsome
  obtain ⟨entry, hmem, hkey⟩ := List.mem_map.mp (key_of_branch hread)
  have hne := List.lookup_eq_none_iff.mp h entry hmem
  simp [hkey] at hne

-- ---------------------------------------------------------------------------
-- The parts of a command
-- ---------------------------------------------------------------------------

namespace AgentProxy

variable {command : Str}

theorem ofText_shows {w : Str} (h : words command = w :: ws) :
    (InStream.ofText command).Shows (w :: ws) (endsInSpace command) := by
  have hne : command ≠ [] := by
    rintro rfl
    cases h
  exact h ▸ .ofText hne

theorem firstToken_eq {w : Str} (h : words command = w :: ws) :
    firstToken command = w ∧ (afterToken command).Shows ws (endsInSpace command) :=
  (ofText_shows h).readWord_cons []

theorem objectOf_eq (h : words command = action :: object :: ws) :
    objectOf command = object ∧ (argumentsOf command).Shows ws (endsInSpace command) :=
  (firstToken_eq h).2.readWord_cons []

theorem objectOf_eq_nil (h : words command = [action]) : objectOf command = [] :=
  ((firstToken_eq h).2.readWord_nil []).1

theorem firstToken_eq_nil (h : words command = []) : firstToken command = [] := by
  by_cases hne : command = []
  · rw [hne]
    rfl
  · exact ((h ▸ Shows.ofText hne : (InStream.ofText command).Shows [] _).readWord_nil []).1

theorem words_of_formOf (h : formOf (firstToken command) (objectOf command) = some form) :
    ∃ action object args, words command = action :: object :: args ∧
      formOf action object = some form := by
  cases hwords : words command with
  | nil =>
    exact absurd (firstToken_eq_nil hwords) (ne_nil_of_formOf h).1
  | cons action rest =>
    cases rest with
    | nil =>
      exact absurd (objectOf_eq_nil hwords) (ne_nil_of_formOf h).2
    | cons object args =>
      rw [(firstToken_eq hwords).1, (objectOf_eq hwords).1] at h
      exact ⟨action, object, args, rfl, h⟩

theorem commandOf_eq_none (h : formOf (firstToken command) (objectOf command) = none) :
    commandOf env command = none := by
  simp [commandOf, branch_of_formOf_eq_none h]

theorem commandOf_eq (env : AgentExternals) (hwords : words command = action :: object :: args)
    (hform : formOf action object = some form) :
    (form.ReadsOut args (endsInSpace command) ∧
      ∃ parsed, commandOf env command = some parsed ∧
        ∀ game, Feasible game parsed ↔ (form = .nameAndTeam →
          (readName env (argumentsOf command)).1 ∈ game.robots ∨
            game.getNewRobotId.isSome = true)) ∨
    (¬form.ReadsOut args (endsInSpace command) ∧ commandOf env command = none) := by
  obtain ⟨hobject, hargs⟩ := objectOf_eq hwords
  obtain ⟨read, hbranch, hread⟩ := @branch_of_formOf env _ _ _ hform
  have heof := hread.eof_iff hargs
  have hcommand : commandOf env command =
      if (read (argumentsOf command)).2.eof then some (read (argumentsOf command)).1 else none := by
    simp [commandOf, (firstToken_eq hwords).1, hobject, hbranch]
  by_cases hout : form.ReadsOut args (endsInSpace command)
  · refine .inl ⟨hout, _, ?_, fun game => hread.feasible_iff game (argumentsOf command)⟩
    rw [hcommand, if_pos (heof.mpr hout)]
  · exact .inr ⟨hout, by rw [hcommand, if_neg (mt heof.mp hout)]⟩

theorem inGrammar_iff (hwords : words command = action :: object :: args)
    (hform : formOf action object = some form) : InGrammar command ↔ form.Takes args := by
  constructor
  · rintro ⟨action', object', args', form', hwords', hform', htakes⟩
    cases hwords.symm.trans hwords'
    cases hform.symm.trans hform'
    exact htakes
  · exact fun htakes => ⟨action, object, args, form, hwords, hform, htakes⟩

end AgentProxy

-- ---------------------------------------------------------------------------
-- Commands that are taken as they are written
-- ---------------------------------------------------------------------------

def inQuotes (w : Str) : Bool := opensQuote w && (closesQuote w && decide (2 ≤ w.length))

def SomeLeft (ws : List Str) (trailing : Bool) : Prop := ws ≠ [] ∨ trailing = true

/-- A name is there, and quotes that a word opens are closed by a later one; then
`behind` holds of the words behind it. Of a word in quotes of its own and the
words behind it `own` holds: the reading goes on to the next closing quotes. -/
def BehindName (own : Str → List Str → Prop) (behind : List Str → Prop) : List Str → Prop
  | [] => False
  | w :: ws =>
    if inQuotes w then own w ws
    else if opensQuote w then ∃ rest, untilClosed ws = some rest ∧ behind rest
    else behind ws

/-- A name with no blank behind it, or with more words. A word in quotes of its
own has a character in them and is the last one, or closing quotes follow, and
then still more. -/
def NameFits (args : List Str) (trailing : Bool) : Prop :=
  BehindName
    (fun w ws => (ws = [] ∧ 3 ≤ w.length) ∨
      ∃ rest, untilClosed ws = some rest ∧ SomeLeft rest trailing)
    (fun ws => ws = [] → trailing = false) args

def NameLeaves : List Str → Bool → Prop
  | [], _ => False
  | w :: ws, trailing =>
    if opensQuote w then ∃ rest, untilClosed ws = some rest ∧ SomeLeft rest trailing
    else SomeLeft ws trailing

/-- The team behind a first name in quotes of its own. Where it is complete only
a lone quote before it matters, which ends the first name. Elsewhere some later
word closes the quotes, and there is still more behind a team from there on. -/
def TeamFits (trailing : Bool) (w : Str) (ws : List Str) : Prop :=
  if 3 ≤ w.length ∧ takeName ws = some [] then
    ws.head? = some [nameQuotes] → ¬NameLeaves ws.tail trailing
  else ∃ rest, untilClosed ws = some rest ∧ NameLeaves rest trailing

/-- A property, and a value with no blank behind it or with more words. -/
def PropertyFits (args : List Str) (trailing : Bool) : Prop :=
  BehindName
    (fun w ws => (ws.length = 2 ∧ 3 ≤ w.length) ∨
      ∃ rest, untilClosed ws = some rest ∧
        (2 < rest.length ∨ (rest.length = 2 ∧ trailing = true)))
    (fun ws => 2 ≤ ws.length ∧ (ws.length = 2 → trailing = false)) args

/-- A property, and a number with no blank behind it, or what only starts like a
number with a blank behind it, or what does not, or more words. -/
def NumberFits : List Str → Bool → Prop
  | [_, n], trailing => isNumeral n = true → (IsNumber n ↔ trailing = false)
  | args, _ => 2 < args.length

/-- A condition on the words behind the object and the blank behind these. -/
def Form.Fits : Form → List Str → Bool → Prop
  | .bare, args, trailing => args = [] → trailing = false
  | .name, args, trailing => NameFits args trailing
  | .nameAndTeam, args, trailing =>
    BehindName (TeamFits trailing) (fun ws => NameFits ws trailing) args
  | .nameAndProperty, args, trailing => PropertyFits args trailing
  | .propertyAndNumber, args, trailing => NumberFits args trailing

/-- The words of a name so far, the last of them, and those that follow: up to
closing quotes, and without these the last word counts twice before a blank. -/
def gathered (result last : Str) : List Str → Bool → Str
  | [], trailing => if trailing then result ++ ' ' :: last else result
  | w :: ws, trailing =>
    let result := result ++ ' ' :: w
    if closesQuote w then (result.drop 1).take (result.length - 2)
    else gathered result w ws trailing

def nameRead : List Str → Bool → Str
  | [], _ => []
  | w :: ws, trailing => if opensQuote w then gathered w [] ws trailing else w

/-- A robot to add is there already, or an id is free. -/
def RobotFits (game : Game) (args : List Str) (trailing : Bool) : Prop :=
  nameRead args trailing ∈ game.robots ∨ game.getNewRobotId.isSome = true

/-- Only a command with a known object has a condition to meet. -/
def FitsGrammar (game : Game) (command : Str) : Prop :=
  ∀ action object args form, words command = action :: object :: args →
    formOf action object = some form →
    form.Fits args (endsInSpace command) ∧
      (form = .nameAndTeam → form.Takes args → RobotFits game args (endsInSpace command))

/-- The command is taken exactly if it has its form, and otherwise answered KO
without an effect. -/
def FollowsGrammar (env : AgentExternals) (localTime : Instant) (app : Application)
    (command : Str) : Prop :=
  ∃ stepped, AgentProxy.step env localTime { application := app } command = .ok stepped ∧
    (stepped.result = true ↔ InGrammar command) ∧
    (¬InGrammar command → stepped.reply = ko ∧ stepped.proxy = { application := app })

variable {localTime : Instant} {app : Application} {command : Str}

section
variable {w : Str} {rest : List Str}

theorem opensQuote_of_inQuotes (h : inQuotes w = true) : opensQuote w = true :=
  (Bool.and_eq_true_iff.mp h).1

theorem takeName_inQuotes (h : inQuotes w = true) :
    takeName (w :: ws) = if 3 ≤ w.length then some ws else none := by
  have hown : closesQuote w = true ∧ 2 ≤ w.length := by simpa using (Bool.and_eq_true_iff.mp h).2
  rw [takeName, if_pos (opensQuote_of_inQuotes h), if_pos hown]

theorem leftByName_inQuotes (h : inQuotes w = true) : leftByName (w :: ws) = untilClosed ws := by
  rw [leftByName, if_pos (opensQuote_of_inQuotes h)]

theorem takeName_eq_leftByName (h : inQuotes w = false) :
    takeName (w :: ws) = leftByName (w :: ws) := by
  rw [takeName, leftByName]
  by_cases hopens : opensQuote w = true
  · have hown : ¬(closesQuote w = true ∧ 2 ≤ w.length) := by simpa [inQuotes, hopens] using h
    rw [if_pos hopens, if_pos hopens, if_neg hown]
  · rw [if_neg hopens, if_neg hopens]

theorem eq_nameQuotes_of_short (hopens : opensQuote w = true) (h : ¬2 ≤ w.length) :
    w = [nameQuotes] := by
  rcases w with _ | ⟨c, _ | ⟨d, w⟩⟩
  · cases hopens
  · simpa [opensQuote] using hopens
  · simp at h

theorem length_untilClosed (h : untilClosed ws = some rest) : rest.length < ws.length := by
  induction ws with
  | nil => cases h
  | cons w ws ih =>
    rw [untilClosed] at h
    split at h
    · cases h
      simp
    · exact (ih h).trans (by simp)

/-- What is meant and what is read agree on all that starts with a name, when
they agree on what is behind names that are read as they are meant, and on names
in quotes of their own. -/
theorem behindName_iff {own : Str → List Str → Prop} {behind meant readOut : List Str → Prop}
    (hbehind : ∀ ws, behind ws ↔ (meant ws ↔ readOut ws))
    (hown : ∀ w ws, inQuotes w = true →
      (own w ws ↔ ((∃ rest, takeName (w :: ws) = some rest ∧ meant rest) ↔
        ∀ rest, untilClosed ws = some rest → readOut rest))) :
    BehindName own behind args ↔ ((∃ rest, takeName args = some rest ∧ meant rest) ↔
      ∀ rest, leftByName args = some rest → readOut rest) := by
  cases args with
  | nil => simp [BehindName, takeName, leftByName]
  | cons w ws =>
    rw [BehindName]
    by_cases hin : inQuotes w = true
    · rw [if_pos hin, hown w ws hin, leftByName_inQuotes hin]
    · rw [if_neg hin, takeName_eq_leftByName (by simpa using hin), leftByName]
      split
      · cases untilClosed ws with
        | none => simp
        | some rest => simp [hbehind]
      · simp [hbehind]

end

-- ---------------------------------------------------------------------------
-- Reading the text to its end
-- ---------------------------------------------------------------------------

theorem readsOut_iff {left : Option (List Str)} :
    (left = none ∨ (left = some [] ∧ trailing = false)) ↔
      ∀ rest, left = some rest → rest = [] ∧ trailing = false := by
  cases left <;> simp

theorem not_someLeft_iff : ¬SomeLeft ws trailing ↔ ws = [] ∧ trailing = false := by
  simp [SomeLeft]

theorem name_own_iff {w : Str} (h : inQuotes w = true) :
    (((ws = [] ∧ 3 ≤ w.length) ∨ ∃ rest, untilClosed ws = some rest ∧ SomeLeft rest trailing) ↔
      ((∃ rest, takeName (w :: ws) = some rest ∧ rest = []) ↔
        ∀ rest, untilClosed ws = some rest → rest = [] ∧ trailing = false)) := by
  rw [takeName_inQuotes h]
  cases ws with
  | nil => by_cases hlength : 3 ≤ w.length <;> simp [hlength, untilClosed]
  | cons w' ws =>
    have hmeant : ¬∃ rest, (if 3 ≤ w.length then some (w' :: ws) else none) = some rest ∧
        rest = [] := by
      rintro ⟨rest, hrest, rfl⟩
      split at hrest <;> cases hrest
    simp only [hmeant, false_iff, reduceCtorEq, false_and, false_or]
    cases untilClosed (w' :: ws) with
    | none => simp
    | some rest => simp [← not_someLeft_iff]

theorem nameFits_iff : NameFits args trailing ↔
    (takeName args = some [] ↔ Form.name.ReadsOut args trailing) := by
  have h := @behindName_iff args _ _ (fun ws => ws = [])
    (fun ws => ws = [] ∧ trailing = false)
    (fun ws => by simp :
      ∀ ws, (ws = [] → trailing = false) ↔ (ws = [] ↔ ws = [] ∧ trailing = false))
    (fun w ws => name_own_iff)
  rw [NameFits, h, Form.ReadsOut, readsOut_iff, Form.left]
  simp

theorem nameLeaves_iff : NameLeaves args trailing ↔ ¬Form.name.ReadsOut args trailing := by
  rw [Form.ReadsOut, readsOut_iff, Form.left]
  cases args with
  | nil => simp [NameLeaves, leftByName]
  | cons w ws =>
    rw [NameLeaves, leftByName]
    split
    · cases untilClosed ws <;> simp [SomeLeft, imp_iff_not_or]
    · simp [SomeLeft, imp_iff_not_or]

/-- A complete team in the words behind a name in quotes of its own: only behind
a lone quote there are words that are read as the team. -/
theorem team_own_complete (h : takeName ws = some []) :
    (∀ rest, untilClosed ws = some rest → Form.name.ReadsOut rest trailing) ↔
      (ws.head? = some [nameQuotes] → ¬NameLeaves ws.tail trailing) := by
  cases ws with
  | nil => cases h
  | cons w ws =>
    simp only [List.head?_cons, Option.some.injEq, List.tail_cons, nameLeaves_iff, not_not]
    have hend : Form.name.ReadsOut [] trailing := .inl rfl
    by_cases hlone : w = [nameQuotes]
    · subst hlone
      have hcloses : untilClosed ([nameQuotes] :: ws) = some ws := rfl
      simp [hcloses]
    · simp only [hlone, false_imp_iff, iff_true]
      intro rest hrest
      suffices rest = [] by rw [this]; exact hend
      rw [untilClosed] at hrest
      rw [takeName] at h
      split at hrest
      · next hcloses =>
        cases hrest
        split at h
        · next hopens =>
          split at h
          · split at h <;> cases h
            rfl
          · next hown =>
            have hshort : ¬2 ≤ w.length := fun hlength => hown ⟨hcloses, hlength⟩
            exact absurd (eq_nameQuotes_of_short hopens hshort) hlone
        · cases h
          rfl
      · next hcloses =>
        split at h
        · rw [if_neg fun hown => hcloses hown.1] at h
          cases hrest.symm.trans h
          rfl
        · cases h
          cases hrest

theorem team_own_iff {w : Str} (h : inQuotes w = true) :
    TeamFits trailing w ws ↔
      ((∃ rest, takeName (w :: ws) = some rest ∧ takeName rest = some []) ↔
        ∀ rest, untilClosed ws = some rest → Form.name.ReadsOut rest trailing) := by
  have hmeant : (∃ rest, takeName (w :: ws) = some rest ∧ takeName rest = some []) ↔
      3 ≤ w.length ∧ takeName ws = some [] := by
    rw [takeName_inQuotes h]
    by_cases hlength : 3 ≤ w.length <;> simp [hlength]
  rw [hmeant, TeamFits]
  by_cases hcomplete : 3 ≤ w.length ∧ takeName ws = some []
  · rw [if_pos hcomplete, iff_true_left hcomplete, team_own_complete hcomplete.2]
  · rw [if_neg hcomplete, iff_false_left hcomplete]
    simp [nameLeaves_iff]

theorem property_own_iff {w : Str} (h : inQuotes w = true) :
    ((ws.length = 2 ∧ 3 ≤ w.length) ∨ ∃ rest, untilClosed ws = some rest ∧
      (2 < rest.length ∨ (rest.length = 2 ∧ trailing = true))) ↔
      ((∃ rest, takeName (w :: ws) = some rest ∧ rest.length = 2) ↔
        ∀ rest, untilClosed ws = some rest →
          rest.length < 2 ∨ (rest.length = 2 ∧ trailing = false)) := by
  have hmeant : (∃ rest, takeName (w :: ws) = some rest ∧ rest.length = 2) ↔
      ws.length = 2 ∧ 3 ≤ w.length := by
    rw [takeName_inQuotes h]
    by_cases hlength : 3 ≤ w.length <;> simp [hlength]
  rw [hmeant]
  cases huntil : untilClosed ws with
  | none => simp
  | some rest =>
    have hshorter := length_untilClosed huntil
    cases trailing <;> simp <;> omega

theorem propertyFits_iff : PropertyFits args trailing ↔
    (Form.nameAndProperty.Takes args ↔ Form.nameAndProperty.ReadsOut args trailing) := by
  have hbehind : ∀ ws : List Str, (2 ≤ ws.length ∧ (ws.length = 2 → trailing = false)) ↔
      (ws.length = 2 ↔ ws.length < 2 ∨ (ws.length = 2 ∧ trailing = false)) := by
    intro ws
    by_cases hshort : ws.length < 2
    · simp only [hshort, true_or, iff_true]
      omega
    · simp only [hshort, false_or]
      constructor
      · exact fun h => ⟨fun hlength => ⟨hlength, h.2 hlength⟩, And.left⟩
      · exact fun h => ⟨by omega, fun hlength => (h.mp hlength).2⟩
  have h := @behindName_iff args _ _ _ _ hbehind fun w ws => property_own_iff
  have hmeant : Form.nameAndProperty.Takes args ↔
      ∃ rest, takeName args = some rest ∧ rest.length = 2 := by
    simp only [Form.Takes, List.length_eq_two]
    exact ⟨fun ⟨property, value, htake⟩ => ⟨_, htake, property, value, rfl⟩,
      fun ⟨_, htake, property, value, hrest⟩ => ⟨property, value, hrest ▸ htake⟩⟩
  have hread : Form.nameAndProperty.ReadsOut args trailing ↔ ∀ rest, leftByName args = some rest →
      rest.length < 2 ∨ (rest.length = 2 ∧ trailing = false) := by
    rw [Form.ReadsOut, Form.left]
    cases leftByName args with
    | none => simp
    | some rest => rcases rest with _ | ⟨first, _ | ⟨second, rest⟩⟩ <;> simp [leftByWord]
  rw [PropertyFits, h, hmeant, hread]

theorem numberFits_iff : NumberFits args trailing ↔
    (Form.propertyAndNumber.Takes args ↔ Form.propertyAndNumber.ReadsOut args trailing) := by
  rcases args with _ | ⟨property, _ | ⟨number, _ | ⟨next, rest⟩⟩⟩
  · simp [NumberFits, Form.Takes, Form.ReadsOut, Form.left, leftByWord]
  · simp [NumberFits, Form.Takes, Form.ReadsOut, Form.left, leftByWord, leftByNumber]
  · have hnumeral : IsNumber number → isNumeral number = true := And.left
    by_cases h : isNumeral number = true
    · simp [NumberFits, Form.Takes, Form.ReadsOut, Form.left, leftByWord, leftByNumber, h]
    · simp [NumberFits, Form.Takes, Form.ReadsOut, Form.left, leftByWord, leftByNumber, h,
        mt hnumeral h]
  · by_cases h : isNumeral number = true <;>
      simp [NumberFits, Form.Takes, Form.ReadsOut, Form.left, leftByWord, leftByNumber, h]

/-- The words say whether the text is read to its end just when the command is
complete. -/
theorem Form.fits_iff : form.Fits args trailing ↔
    (form.Takes args ↔ form.ReadsOut args trailing) := by
  cases form with
  | bare => simp [Form.Fits, Form.Takes, Form.ReadsOut, Form.left]
  | name => exact nameFits_iff
  | nameAndTeam =>
    have h := @behindName_iff args _ _ (fun ws => takeName ws = some [])
      (fun ws => Form.name.ReadsOut ws trailing) (fun ws => nameFits_iff)
      (fun w ws => team_own_iff)
    rw [Form.Fits, h, Form.Takes, Option.bind_eq_some_iff, Form.ReadsOut, Form.left]
    cases leftByName args <;> simp [Form.ReadsOut, Form.left]
  | nameAndProperty => exact propertyFits_iff
  | propertyAndNumber => exact numberFits_iff

-- ---------------------------------------------------------------------------
-- The name of a robot
-- ---------------------------------------------------------------------------

theorem readNameLoop_gathered {byteBefore : Char} {fuel : Nat} {result fragment : Str}
    (h : stream.Shows ws trailing) (hfuel : ws.length < fuel)
    (hfragment : ws = [] → fragment ≠ [] ∧ closesQuote fragment = false) :
    (readNameLoop byteBefore fuel result fragment stream).1 =
      gathered result fragment ws trailing := by
  induction ws generalizing fuel stream result fragment with
  | nil =>
    obtain ⟨fuel, rfl⟩ := Nat.exists_eq_add_of_lt hfuel
    obtain ⟨hne, hcloses⟩ := hfragment rfl
    rw [List.length_nil, Nat.zero_add, readNameLoop, gathered]
    by_cases hend : trailing = false
    · have hgood : stream.good = false := by simp [InStream.good, h.eof_iff, hend]
      simp [hgood, hend]
    · have hgood : stream.good = true := by
        by_contra hgood
        have heof := (h.finished_of_not_good hgood).eof_iff.mpr ⟨rfl, rfl⟩
        exact hend (h.eof_iff.mp heof).2
      obtain ⟨hword, hfinished⟩ := h.readWord_nil fragment
      have hstopped : ((stream.readWord fragment).2).good = false := by
        simp [InStream.good, hfinished.eof_iff]
      rw [if_pos hgood]
      simp only [hword, back_eq_iff hne, hcloses, Bool.false_eq_true, if_false]
      cases fuel <;> simp [readNameLoop, hstopped, hend]
  | cons w ws ih =>
    obtain ⟨fuel, rfl⟩ := Nat.exists_eq_add_of_lt hfuel
    obtain ⟨hword, hrest⟩ := h.readWord_cons fragment
    have hne := h.ne_nil w (by simp)
    rw [readNameLoop, if_pos h.good_of_cons, gathered]
    simp only [hword, back_eq_iff hne]
    by_cases hcloses : closesQuote w = true
    · simp [hcloses]
    · rw [if_neg hcloses, if_neg hcloses]
      exact ih hrest (by simp at hfuel ⊢; omega) fun _ => ⟨hne, by simpa using hcloses⟩

theorem readName_eq_nameRead {w : Str} (byteBefore : Char) (h : stream.Shows (w :: ws) trailing)
    (hquoted : opensQuote w = true → ws ≠ []) :
    (readName byteBefore stream).1 = nameRead (w :: ws) trailing := by
  obtain ⟨hword, hrest⟩ := h.readWord_cons []
  unfold readName
  simp only [hword, front_eq_iff, nameRead]
  by_cases hopens : opensQuote w = true
  · rw [if_pos hopens, if_pos hopens]
    exact readNameLoop_gathered hrest (Nat.lt_succ_of_le hrest.length_le)
      fun hnil => absurd hnil (hquoted hopens)
  · rw [if_neg hopens, if_neg hopens]

theorem robotFits_iff {game : Game} (hwords : words command = action :: object :: args)
    (htakes : Form.nameAndTeam.Takes args) :
    RobotFits game args (endsInSpace command) ↔
      (AgentProxy.readName env (AgentProxy.argumentsOf command)).1 ∈ game.robots ∨
        game.getNewRobotId.isSome = true := by
  have hargs := (AgentProxy.objectOf_eq hwords).2
  cases args with
  | nil => cases htakes
  | cons w ws =>
    rw [AgentProxy.readName, readName_eq_nameRead env.byteBefore hargs, RobotFits]
    rintro hopens rfl
    rw [Form.Takes, takeName, if_pos hopens] at htakes
    split at htakes
    · split at htakes <;> cases htakes
    · cases htakes

theorem fitsGrammar_iff (hwords : words command = action :: object :: args)
    (hform : formOf action object = some form) {game : Game} :
    FitsGrammar game command ↔ form.Fits args (endsInSpace command) ∧
      (form = .nameAndTeam → form.Takes args → RobotFits game args (endsInSpace command)) := by
  constructor
  · exact fun h => h action object args form hwords hform
  · intro h action' object' args' form' hwords' hform'
    cases hwords.symm.trans hwords'
    cases hform.symm.trans hform'
    exact h

theorem changingActions_branch (env : AgentExternals) {action : Str}
    (h : action ∈ changingActions) (game : Game) :
    actionNamed env .text game action = none ∧ action ≠ "ping".toList ∧
      action ≠ "json".toList := by
  revert action
  simp [changingActions, actionNamed]

theorem followsGrammar_refused
    (hstep : AgentProxy.step env localTime { application := app } command =
      .ok { result := false, reply := ko, proxy := { application := app } }) :
    FollowsGrammar env localTime app command ↔ ¬InGrammar command := by
  constructor
  · rintro ⟨stepped, h, hresult, -⟩
    cases hstep.symm.trans h
    simpa using hresult
  · exact fun hnot => ⟨_, hstep, by simp [hnot], fun _ => ⟨rfl, rfl⟩⟩

theorem followsGrammar_carriedOut {parsed : Command}
    (hstep : AgentProxy.step env localTime { application := app } command = do
      let application ← AgentProxy.apply env.toExternals localTime app parsed
      return { result := true, reply := "OK".toList, proxy := { application } }) :
    FollowsGrammar env localTime app command ↔
      InGrammar command ∧ AgentProxy.Feasible app.game parsed := by
  rw [← @AgentProxy.apply_ok_iff env localTime]
  constructor
  · rintro ⟨stepped, h, hresult, -⟩
    rw [hstep, bind_eq_ok] at h
    obtain ⟨application, happly, h⟩ := h
    cases pure_eq_ok.mp h
    exact ⟨hresult.mp rfl, application, happly⟩
  · rintro ⟨hgrammar, application, happly⟩
    exact ⟨_, by rw [hstep, happly]; rfl, by simp [hgrammar], fun hnot => absurd hgrammar hnot⟩

theorem command_follows_grammar_iff
    (h : AgentProxy.firstToken command ∈ changingActions) :
    FollowsGrammar env localTime app command ↔ FitsGrammar app.game command := by
  obtain ⟨haction, hping, hjson⟩ := changingActions_branch env h app.game
  cases hform : formOf (AgentProxy.firstToken command) (AgentProxy.objectOf command) with
  | none =>
    rw [followsGrammar_refused
      (AgentProxy.stepIn_refused haction hping hjson (AgentProxy.commandOf_eq_none hform))]
    have hunknown {action object args form} (hwords : words command = action :: object :: args)
        (hform' : formOf action object = some form) : False := by
      rw [(AgentProxy.firstToken_eq hwords).1, (AgentProxy.objectOf_eq hwords).1] at hform
      cases hform.symm.trans hform'
    constructor
    · exact fun _ action object args form hwords hform' => (hunknown hwords hform').elim
    · rintro - ⟨action, object, args, form, hwords, hform', -⟩
      exact hunknown hwords hform'
  | some form =>
    obtain ⟨action, object, args, hwords, hform⟩ := AgentProxy.words_of_formOf hform
    rw [fitsGrammar_iff hwords hform, Form.fits_iff]
    rcases AgentProxy.commandOf_eq env hwords hform with
      ⟨hout, parsed, hparsed, hfeasible⟩ | ⟨hout, hparsed⟩
    · rw [followsGrammar_carriedOut
          (AgentProxy.stepIn_carriedOut haction hping hjson hparsed),
        AgentProxy.inGrammar_iff hwords hform, hfeasible]
      simp only [hout, iff_true]
      refine and_congr_right fun htakes => ?_
      constructor
      · rintro h rfl -
        exact (robotFits_iff hwords htakes).mpr (h rfl)
      · rintro h rfl
        exact (robotFits_iff hwords htakes).mp (h rfl htakes)
    · rw [followsGrammar_refused (AgentProxy.stepIn_refused haction hping hjson hparsed),
        AgentProxy.inGrammar_iff hwords hform]
      simp only [hout, iff_false]
      exact ⟨fun h => ⟨h, fun _ htakes => absurd htakes h⟩, And.left⟩

theorem command_follows_grammar_iff_addTeam :
    FollowsGrammar .plain 0 (Server.create [] 0 oneTeam) "add team A".toList := by
  have hform : formOf "add".toList "team".toList = some .name := rfl
  refine (command_follows_grammar_iff (by decide)).mpr ((fitsGrammar_iff rfl hform).mpr ?_)
  exact ⟨fun _ => rfl, nofun⟩

/-- A name is missing and the command is taken; a blank is behind a complete
command and it is refused. -/
theorem missing_argument_taken :
    ¬FollowsGrammar .plain 0 (Server.create [] 0 oneTeam) "add team".toList ∧
      ¬FollowsGrammar .plain 0 (Server.create [] 0 oneTeam) "start game ".toList := by
  have hteam : formOf "add".toList "team".toList = some .name := rfl
  have hgame : formOf "start".toList "game".toList = some .bare := rfl
  constructor
  · rw [followsGrammar_carriedOut
        (AgentProxy.stepIn_carriedOut rfl (by decide) (by decide) rfl),
      AgentProxy.inGrammar_iff rfl hteam]
    rintro ⟨htakes, -⟩
    cases htakes
  · rw [followsGrammar_refused (AgentProxy.stepIn_refused rfl (by decide) (by decide) rfl),
      AgentProxy.inGrammar_iff rfl hgame]
    exact fun h => h rfl

end ServerGame
