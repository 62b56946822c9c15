import ServerGame.Proxy.Grammar

/-!
# Names in quotes

`ReadName` puts the words of a name together until one of them ends in a quote.
The word it begins with is not asked whether it does, and the end of the text
ends a name as well.
-/

namespace ServerGame

open Lib (InStream afterWord firstWord isSpace words endsInSpace)

-- ---------------------------------------------------------------------------
-- What is promised
-- ---------------------------------------------------------------------------

structure IsNameWord (word : Str) : Prop where
  ne_nil : word ≠ []
  noSpace : ∀ c ∈ word, isSpace c = false
  noQuote : nameQuotes ∉ word

/-- A name as it stands in a command: the words in one pair of quotes, each but
the first with the blanks before it. -/
structure QuotedName where
  lead : Str
  first : Str
  others : List (Str × Str)
  trail : Str
  isName : ∀ word ∈ first :: others.map Prod.snd, IsNameWord word
  separated : ∀ other ∈ others, other.1 ≠ []
  blank : ∀ blanks ∈ lead :: trail :: others.map Prod.fst, ∀ c ∈ blanks, isSpace c = true

namespace QuotedName

variable (quoted : QuotedName)

def words : List Str := quoted.first :: quoted.others.map Prod.snd

def text : Str :=
  nameQuotes :: (quoted.lead ++ (quoted.first ++
    (quoted.others.flatMap (fun other => other.1 ++ other.2) ++ (quoted.trail ++ [nameQuotes]))))

def name : Str := List.intercalate [' '] quoted.words

end QuotedName

def ReadsName (byteBefore : Char) (stream : InStream) (name rest : Str) : Prop :=
  (readName byteBefore stream).1 = name ∧ (readName byteBefore stream).2.rest = rest ∧
    (readName byteBefore stream).2.fail = false ∧
    ((readName byteBefore stream).2.eof = true ↔ rest = [])

def EndsWord (after : Str) : Prop := ∀ c ∈ after.head?, isSpace c = true

/-- A quote, and no other one behind it. -/
def Unclosed : List Str → Prop
  | [] => False
  | word :: rest => opensQuote word = true ∧ nameQuotes ∉ word.tail ∧ ∀ w ∈ rest, nameQuotes ∉ w

/-- One of the names that a command of this form reads is not closed. -/
def Form.LeavesOpen : Form → List Str → Prop
  | .bare, _ => False
  | .name, args => Unclosed args
  | .nameAndTeam, args => Unclosed args ∨ ∃ ws, leftByName args = some ws ∧ Unclosed ws
  | .nameAndProperty, args => Unclosed args
  | .propertyAndNumber, _ => False

def CarriedOut (env : AgentExternals) (localTime : Instant) (app : Application) (command : Str) :
    Prop :=
  ∃ parsed, AgentProxy.commandOf env command = some parsed ∧
    AgentProxy.step env localTime { application := app } command = do
      let application ← AgentProxy.apply env.toExternals localTime app parsed
      return { result := true, reply := "OK".toList, proxy := { application } }

def lookUps (env : AgentExternals) (mode : OutputMode) (game : Game) :
    List ((Str × Str) × (Str → Except Fault Reply)) :=
  [(("view".toList, "team".toList), viewTeam env mode game),
    (("get".toList, "robot".toList), fun name => getRobot env mode game name none),
    (("get".toList, "team".toList), fun name => .ok (getTeamReply env mode game name none)),
    (("get".toList, "player".toList), fun name => .ok (getPlayer env mode game name none))]

def LookedUp (env : AgentExternals) (localTime : Instant) (proxy : AgentProxy) (command : Str)
    (lookUp : Str → Except Fault Reply) : Prop :=
  AgentProxy.step env localTime proxy command = do
    let reply ← lookUp (AgentProxy.readName env (AgentProxy.argumentsOf command)).1
    return { result := reply.isSuccess, reply := reply.reply, proxy }

-- ---------------------------------------------------------------------------
-- One word
-- ---------------------------------------------------------------------------

section
variable {stream : InStream} {blanks word after : Str}

theorem isSpace_nameQuotes : isSpace nameQuotes = false := rfl

theorem EndsWord.split (h : EndsWord after) : firstWord after = [] ∧ afterWord after = after := by
  cases after with
  | nil => exact ⟨rfl, rfl⟩
  | cons c rest =>
    have hc : isSpace c = true := h c rfl
    simp [firstWord, afterWord, hc]

theorem readWord_of_word (hgood : stream.good = true)
    (hrest : stream.rest = blanks ++ (word ++ after)) (hblanks : ∀ c ∈ blanks, isSpace c = true)
    (hne : word ≠ []) (hword : ∀ c ∈ word, isSpace c = false) (old : Str) :
    stream.readWord old = (word ++ firstWord after,
      { stream with rest := afterWord after, eof := (afterWord after).isEmpty }) := by
  obtain ⟨c, cs, rfl⟩ := List.exists_cons_of_ne_nil hne
  have hsentry : stream.sentry = (true, { stream with rest := c :: (cs ++ after) }) :=
    InStream.sentry_of_blanks hgood hrest hblanks (hword c (by simp))
  have hfirst : firstWord (c :: (cs ++ after)) = c :: cs ++ firstWord after := by
    rw [← List.cons_append, firstWord, List.takeWhile_append_of_pos (by simpa using hword)]
    rfl
  have hafter : afterWord (c :: (cs ++ after)) = afterWord after := by
    rw [← List.cons_append, afterWord, List.dropWhile_append_of_pos (by simpa using hword)]
    rfl
  unfold InStream.readWord
  rw [hsentry]
  simp only [hfirst, hafter]

theorem readWord_of_endsWord (hgood : stream.good = true)
    (hrest : stream.rest = blanks ++ (word ++ after)) (hblanks : ∀ c ∈ blanks, isSpace c = true)
    (hne : word ≠ []) (hword : ∀ c ∈ word, isSpace c = false) (hafter : EndsWord after)
    (hmore : after ≠ []) (old : Str) :
    stream.readWord old = (word, { stream with rest := after }) := by
  have heof : stream.eof = false := (InStream.good_iff.mp hgood).1
  rw [readWord_of_word hgood hrest hblanks hne hword, hafter.split.1, hafter.split.2,
    List.append_nil, List.isEmpty_eq_false_iff.mpr hmore, ← heof]

end

-- ---------------------------------------------------------------------------
-- The loop
-- ---------------------------------------------------------------------------

section
variable {byteBefore : Char} {fuel : Nat} {result fragment : Str} {stream : InStream}

theorem take_eq_dropLast (text : Str) :
    (text.drop 1).take (text.length - 2) = (text.drop 1).dropLast := by
  rw [List.dropLast_eq_take, List.length_drop]
  rfl

/-- What the loop has read stays, in its quotes or without the first and the
last character. -/
theorem readNameLoop_grows (byteBefore : Char) (fuel : Nat) (result fragment : Str)
    (stream : InStream) :
    ∃ more, (readNameLoop byteBefore fuel result fragment stream).1 = result ++ more ∨
      (readNameLoop byteBefore fuel result fragment stream).1 =
        ((result ++ ' ' :: more).drop 1).dropLast := by
  induction fuel generalizing result fragment stream with
  | zero => exact ⟨[], .inl (by simp [readNameLoop])⟩
  | succ fuel ih =>
    unfold readNameLoop
    split
    · generalize stream.readWord fragment = read
      obtain ⟨word, stream'⟩ := read
      dsimp only
      split
      · exact ⟨word, .inr (take_eq_dropLast _)⟩
      · obtain ⟨more, hmore⟩ := ih (result ++ ' ' :: word) word stream'
        rcases hmore with hmore | hmore
        · exact ⟨' ' :: word ++ more, .inl (by rw [hmore, List.append_assoc])⟩
        · refine ⟨word ++ ' ' :: more, .inr ?_⟩
          rw [hmore, List.append_assoc, List.cons_append]
    · exact ⟨[], .inl (by simp)⟩

theorem readNameLoop_next {word : Str} {stream' : InStream} (hgood : stream.good = true)
    (hread : stream.readWord fragment = (word, stream')) :
    ∃ more, (readNameLoop byteBefore (fuel + 1) result fragment stream).1 =
        result ++ ' ' :: (word ++ more) ∨
      (readNameLoop byteBefore (fuel + 1) result fragment stream).1 =
        ((result ++ ' ' :: (word ++ more)).drop 1).dropLast := by
  rw [readNameLoop, if_pos hgood]
  simp only [hread]
  split
  · exact ⟨[], .inr (by rw [take_eq_dropLast, List.append_nil])⟩
  · obtain ⟨more, hmore⟩ := readNameLoop_grows byteBefore fuel (result ++ ' ' :: word) word stream'
    rcases hmore with hmore | hmore
    · exact ⟨more, .inl (by rw [hmore]; simp)⟩
    · exact ⟨' ' :: more, .inr (by rw [hmore]; simp)⟩

theorem IsNameWord.not_closes {word : Str} (h : IsNameWord word) :
    ¬nameQuotes = back byteBefore word := by
  rw [back_eq_iff h.ne_nil, closesQuote, decide_eq_true_eq]
  intro hlast
  exact h.noQuote (List.mem_of_getLast? hlast)

theorem endsWord_others {others : List (Str × Str)} {tail : Str}
    (hothers : ∀ other ∈ others, other.1 ≠ [] ∧ ∀ c ∈ other.1, isSpace c = true)
    (htail : EndsWord tail) (hmore : tail ≠ []) :
    EndsWord (others.flatMap (fun other => other.1 ++ other.2) ++ tail) ∧
      others.flatMap (fun other => other.1 ++ other.2) ++ tail ≠ [] := by
  refine ⟨?_, by simp [hmore]⟩
  cases others with
  | nil => exact htail
  | cons other others =>
    obtain ⟨hne, hblank⟩ := hothers other (by simp)
    obtain ⟨c, cs, hc⟩ := List.exists_cons_of_ne_nil hne
    intro d hd
    simp only [List.flatMap_cons, hc, List.cons_append, List.head?_cons, Option.mem_def,
      Option.some.injEq] at hd
    exact hd ▸ hblank c (by simp [hc])

theorem readNameLoop_words {others : List (Str × Str)} {tail : Str}
    (hothers : ∀ other ∈ others, (other.1 ≠ [] ∧ ∀ c ∈ other.1, isSpace c = true) ∧
      IsNameWord other.2) (htail : EndsWord tail) (hmore : tail ≠ [])
    (hgood : stream.good = true)
    (hrest : stream.rest = others.flatMap (fun other => other.1 ++ other.2) ++ tail) :
    ∃ fragment', readNameLoop byteBefore (others.length + fuel) result fragment stream =
      readNameLoop byteBefore fuel (result ++ others.flatMap (fun other => ' ' :: other.2))
        fragment' { stream with rest := tail } := by
  induction others generalizing result fragment stream with
  | nil =>
    have hrest : stream.rest = tail := by simpa using hrest
    have hsame : { stream with rest := tail } = stream := by rw [← hrest]
    exact ⟨fragment, by simp [hsame]⟩
  | cons other others ih =>
    obtain ⟨⟨hne, hblank⟩, hword⟩ := hothers other (by simp)
    obtain ⟨hends, hnext⟩ := @endsWord_others others tail
      (fun o ho => (hothers o (by simp [ho])).1) htail hmore
    have hread := readWord_of_endsWord hgood
      (hrest.trans (by simp [List.append_assoc])) hblank hword.ne_nil hword.noSpace hends hnext
      fragment
    obtain ⟨fragment', hloop⟩ := @ih (result ++ ' ' :: other.2) other.2
      { stream with rest := others.flatMap (fun other => other.1 ++ other.2) ++ tail }
      (fun o ho => hothers o (by simp [ho])) hgood rfl
    refine ⟨fragment', ?_⟩
    rw [List.length_cons, Nat.add_right_comm, readNameLoop, if_pos hgood]
    simp only [hread, if_neg hword.not_closes]
    rw [hloop]
    simp

end

-- ---------------------------------------------------------------------------
-- The name
-- ---------------------------------------------------------------------------

namespace QuotedName

variable (quoted : QuotedName)

theorem intercalate_cons (word : Str) (words : List Str) :
    List.intercalate [' '] (word :: words) = word ++ words.flatMap (' ' :: ·) := by
  induction words generalizing word with
  | nil => simp
  | cons next words ih => rw [List.intercalate_cons_cons, ih]; simp

theorem name_eq : quoted.name =
    quoted.first ++ quoted.others.flatMap (fun other => ' ' :: other.2) := by
  rw [name, words, intercalate_cons, List.flatMap_map]

theorem name_eq_last {others : List (Str × Str)} {last : Str × Str}
    (hothers : quoted.others = others ++ [last]) : quoted.name =
      quoted.first ++ others.flatMap (fun other => ' ' :: other.2) ++ ' ' :: last.2 := by
  simp [name_eq, hothers]

theorem isName_first : IsNameWord quoted.first := quoted.isName _ (by simp)

theorem others_valid : ∀ other ∈ quoted.others,
    (other.1 ≠ [] ∧ ∀ c ∈ other.1, isSpace c = true) ∧ IsNameWord other.2 := by
  intro other h
  have hblank := List.mem_map_of_mem (f := Prod.fst) h
  have hname := List.mem_map_of_mem (f := Prod.snd) h
  exact ⟨⟨quoted.separated other h,
    quoted.blank _ (List.mem_cons_of_mem _ (List.mem_cons_of_mem _ hblank))⟩,
    quoted.isName _ (List.mem_cons_of_mem _ hname)⟩

theorem name_head : ∃ c rest, quoted.name = c :: rest ∧ c ≠ nameQuotes ∧ isSpace c = false := by
  obtain ⟨hne, hspace, hquote⟩ := quoted.isName_first
  obtain ⟨c, cs, hc⟩ := List.exists_cons_of_ne_nil hne
  refine ⟨c, cs ++ quoted.others.flatMap (fun other => ' ' :: other.2), ?_, ?_, ?_⟩
  · rw [name_eq, hc, List.cons_append]
  · rintro rfl
    exact hquote (by simp [hc])
  · exact hspace c (by simp [hc])

theorem name_ne_quote (more : Str) : nameQuotes :: more ≠ quoted.name := by
  obtain ⟨c, rest, hname, hc, -⟩ := quoted.name_head
  rw [hname]
  intro h
  exact hc (List.cons.inj h).1.symm

theorem name_ne_of_length {text : Str} (h : quoted.name.length + 2 ≤ text.length) :
    text.dropLast ≠ quoted.name := by
  intro heq
  have hlength := congrArg List.length heq
  rw [List.length_dropLast] at hlength
  omega

end QuotedName

section
variable {byteBefore : Char} {fuel : Nat} {fragment : Str} {stream : InStream}
  {quoted : QuotedName}

theorem loop_ne_name (extra : Str) :
    (readNameLoop byteBefore fuel (nameQuotes :: (quoted.name ++ nameQuotes :: extra)) fragment
      stream).1 ≠ quoted.name := by
  obtain ⟨more, hmore | hmore⟩ := readNameLoop_grows byteBefore fuel
    (nameQuotes :: (quoted.name ++ nameQuotes :: extra)) fragment stream
  · rw [hmore]
    exact quoted.name_ne_quote _
  · rw [hmore]
    refine quoted.name_ne_of_length ?_
    simp
    omega

theorem loop_ne_name_of_next {word before : Str} {stream' : InStream}
    (hgood : stream.good = true) (hread : stream.readWord fragment = (word, stream'))
    (hname : quoted.name.length + 2 ≤ before.length + (1 + word.length)) :
    (readNameLoop byteBefore (fuel + 1) (nameQuotes :: before) fragment stream).1 ≠
      quoted.name := by
  obtain ⟨more, hmore | hmore⟩ := @readNameLoop_next byteBefore fuel (nameQuotes :: before) fragment
    stream word stream' hgood hread
  · rw [hmore]
    exact quoted.name_ne_quote _
  · rw [hmore]
    refine quoted.name_ne_of_length ?_
    simp
    omega

theorem length_le_flatMap {others : List (Str × Str)} (h : ∀ other ∈ others, other.1 ≠ []) :
    others.length ≤ (others.flatMap fun other => other.1 ++ other.2).length := by
  induction others with
  | nil => simp
  | cons other others ih =>
    have hpos := List.length_pos_iff.mpr (h other (by simp))
    have hothers := ih fun o ho => h o (by simp [ho])
    simp only [List.length_cons, List.flatMap_cons, List.length_append]
    omega

theorem readName_words {first before tail : Str} {others : List (Str × Str)}
    (hfirst : IsNameWord first)
    (hothers : ∀ other ∈ others, (other.1 ≠ [] ∧ ∀ c ∈ other.1, isSpace c = true) ∧
      IsNameWord other.2) (htail : EndsWord tail) (hmore : tail ≠ []) (hgood : stream.good = true)
    (hbefore : ∀ c ∈ before, isSpace c = true)
    (hrest : stream.rest = before ++ (nameQuotes :: first ++
      (others.flatMap (fun other => other.1 ++ other.2) ++ tail))) :
    ∃ fuel fragment, readName byteBefore stream = readNameLoop byteBefore (fuel + 1)
      (nameQuotes :: (first ++ others.flatMap fun other => ' ' :: other.2)) fragment
      { stream with rest := tail } := by
  obtain ⟨hends, hnext⟩ := @endsWord_others others tail (fun o ho => (hothers o ho).1) htail hmore
  have hread := readWord_of_endsWord hgood hrest hbefore (List.cons_ne_nil _ _)
    (by simpa [isSpace_nameQuotes] using hfirst.noSpace) hends hnext []
  have hlength := length_le_flatMap fun o ho => (hothers o ho).1.1
  obtain ⟨fuel, hfuel⟩ : ∃ fuel,
      (others.flatMap (fun other => other.1 ++ other.2) ++ tail).length + 1 =
        others.length + (fuel + 1) := by
    refine ⟨(others.flatMap (fun other => other.1 ++ other.2) ++ tail).length - others.length, ?_⟩
    rw [List.length_append]
    omega
  obtain ⟨fragment, hloop⟩ := @readNameLoop_words byteBefore (fuel + 1) (nameQuotes :: first) []
    { stream with rest := others.flatMap (fun other => other.1 ++ other.2) ++ tail } others tail
    hothers htail hmore hgood rfl
  refine ⟨fuel, fragment, ?_⟩
  unfold readName
  simp only [hread]
  rw [if_pos (show nameQuotes = front (nameQuotes :: first) from rfl), hfuel, hloop]
  rfl

theorem endsWord_blanks {blanks after : Str} (hne : blanks ≠ [])
    (hblanks : ∀ c ∈ blanks, isSpace c = true) : EndsWord (blanks ++ after) := by
  obtain ⟨c, cs, rfl⟩ := List.exists_cons_of_ne_nil hne
  intro d hd
  simp only [List.cons_append, List.head?_cons, Option.mem_def, Option.some.injEq] at hd
  exact hd ▸ hblanks c (by simp)

end

-- ---------------------------------------------------------------------------
-- One name
-- ---------------------------------------------------------------------------

section
variable {quoted : QuotedName} {before rest : Str} {stream : InStream}
  {others : List (Str × Str)} {last : Str × Str} (byteBefore : Char)
  (hgood : stream.good = true) (hbefore : ∀ c ∈ before, isSpace c = true)
  (hrest : stream.rest = before ++ (quoted.text ++ rest))
include hgood hbefore hrest

theorem name_ne_of_lead (hlead : quoted.lead ≠ []) :
    (readName byteBefore stream).1 ≠ quoted.name := by
  have hends : ∀ after, EndsWord (quoted.lead ++ after) :=
    fun after => endsWord_blanks hlead (quoted.blank _ (by simp))
  have hread := @readWord_of_endsWord stream before [nameQuotes] _ hgood
    (by rw [hrest, QuotedName.text, List.cons_append, List.append_assoc]; rfl) hbefore (by simp)
    (by simp [isSpace_nameQuotes]) (hends _) (by simp [hlead]) []
  unfold readName
  simp only [hread]
  rw [if_pos (show nameQuotes = front [nameQuotes] from rfl)]
  obtain ⟨more, hmore | hmore⟩ := readNameLoop_grows byteBefore _ [nameQuotes] [] _
  · rw [hmore]
    exact quoted.name_ne_quote more
  · rw [hmore]
    obtain ⟨c, cs, hname, -, hc⟩ := quoted.name_head
    rw [hname]
    cases more with
    | nil => simp
    | cons d more =>
      intro heq
      obtain ⟨rfl, -⟩ := List.cons.inj heq
      cases hc

theorem name_ne_of_oneWord (hlead : quoted.lead = []) (hothers : quoted.others = [])
    (htrail : quoted.trail = []) : (readName byteBefore stream).1 ≠ quoted.name := by
  have hname : quoted.name = quoted.first := by simp [QuotedName.name_eq, hothers]
  have hread := @readWord_of_word stream before (nameQuotes :: quoted.first ++ [nameQuotes]) rest
    hgood (by simp [hrest, QuotedName.text, hlead, hothers, htrail]) hbefore (by simp)
    (by simpa [or_imp, forall_and, isSpace_nameQuotes] using quoted.isName_first.noSpace) []
  unfold readName
  simp only [hread]
  rw [if_pos (show nameQuotes = front _ from rfl)]
  have hloop := @loop_ne_name byteBefore ((afterWord rest).length + 1) [] { stream with
    rest := afterWord rest, eof := (afterWord rest).isEmpty } quoted (firstWord rest)
  simpa [hname] using hloop

theorem name_ne_of_trail (hlead : quoted.lead = []) (htrail : quoted.trail ≠ []) :
    (readName byteBefore stream).1 ≠ quoted.name := by
  have hblank : ∀ c ∈ quoted.trail, isSpace c = true := quoted.blank _ (by simp)
  obtain ⟨fuel, fragment, hloop⟩ := @readName_words byteBefore stream quoted.first before
    (quoted.trail ++ nameQuotes :: rest) quoted.others quoted.isName_first quoted.others_valid
    (endsWord_blanks htrail hblank) (by simp) hgood hbefore
    (by simp [hrest, QuotedName.text, hlead])
  rw [hloop, ← QuotedName.name_eq]
  have hread := @readWord_of_word { stream with rest := quoted.trail ++ nameQuotes :: rest }
    quoted.trail [nameQuotes] rest hgood rfl hblank (by simp) (by simp [isSpace_nameQuotes])
    fragment
  refine loop_ne_name_of_next hgood hread ?_
  simp
  omega

theorem readName_last (hlead : quoted.lead = []) (htrail : quoted.trail = [])
    (hothers : quoted.others = others ++ [last]) :
    ∃ fuel fragment stream', stream'.good = true ∧
      readName byteBefore stream = readNameLoop byteBefore (fuel + 1)
        (nameQuotes :: (quoted.first ++ others.flatMap fun other => ' ' :: other.2)) fragment
        stream' ∧
      stream'.readWord fragment = (last.2 ++ nameQuotes :: firstWord rest,
        { stream with rest := afterWord rest, eof := (afterWord rest).isEmpty }) := by
  have hvalid : ∀ other ∈ others ++ [last],
      (other.1 ≠ [] ∧ ∀ c ∈ other.1, isSpace c = true) ∧ IsNameWord other.2 :=
    hothers ▸ quoted.others_valid
  obtain ⟨⟨hne, hblank⟩, hword⟩ := hvalid last (by simp)
  obtain ⟨fuel, fragment, hloop⟩ := @readName_words byteBefore stream quoted.first before
    (last.1 ++ (last.2 ++ [nameQuotes] ++ rest)) others quoted.isName_first
    (fun o ho => hvalid o (by simp [ho])) (endsWord_blanks hne hblank) (by simp) hgood hbefore
    (by simp [hrest, QuotedName.text, hlead, htrail, hothers])
  have hread := @readWord_of_word { stream with rest := last.1 ++ (last.2 ++ [nameQuotes] ++ rest) }
    last.1 (last.2 ++ [nameQuotes]) rest hgood rfl hblank (by simp)
    (by simpa [or_imp, forall_and, isSpace_nameQuotes] using hword.noSpace) fragment
  refine ⟨fuel, fragment, { stream with rest := last.1 ++ (last.2 ++ [nameQuotes] ++ rest) }, hgood,
    hloop, ?_⟩
  rw [hread, List.append_assoc]
  rfl

theorem name_ne_of_rest (hlead : quoted.lead = []) (htrail : quoted.trail = [])
    (hothers : quoted.others = others ++ [last]) (hends : ¬EndsWord rest) :
    (readName byteBefore stream).1 ≠ quoted.name := by
  obtain ⟨fuel, fragment, stream', hgood', hloop, hread⟩ :=
    readName_last byteBefore hgood hbefore hrest hlead htrail hothers
  rw [hloop]
  refine loop_ne_name_of_next hgood' hread ?_
  have hfirst : 1 ≤ (firstWord rest).length := by
    cases rest with
    | nil => exact absurd (fun _ h => nomatch h) hends
    | cons c cs =>
      have hc : isSpace c = false := by simpa [EndsWord] using hends
      simp [firstWord, hc]
  rw [quoted.name_eq_last hothers]
  simp only [List.length_append, List.length_cons]
  omega

theorem readsName_of_last (hlead : quoted.lead = []) (htrail : quoted.trail = [])
    (hothers : quoted.others = others ++ [last]) (hends : EndsWord rest) :
    ReadsName byteBefore stream quoted.name rest := by
  obtain ⟨fuel, fragment, stream', hgood', hloop, hread⟩ :=
    readName_last byteBefore hgood hbefore hrest hlead htrail hothers
  rw [hends.split.1, hends.split.2] at hread
  have hback : nameQuotes = back byteBefore (last.2 ++ [nameQuotes]) := by simp [back]
  have hresult : readName byteBefore stream = (quoted.name,
      { stream with rest, eof := rest.isEmpty }) := by
    rw [hloop, readNameLoop, if_pos hgood']
    simp only [hread, if_pos hback]
    rw [take_eq_dropLast, quoted.name_eq_last hothers, List.cons_append, List.drop_one,
      List.tail_cons, ← List.cons_append, ← List.append_assoc, List.dropLast_concat]
  have hfail : stream.fail = false := (InStream.good_iff.mp hgood).2
  refine ⟨?_, ?_, ?_, ?_⟩ <;> simp [hresult, hfail]

/-- A name is read as it is promised exactly if it has more words than one, no
blank beside its quotes, and a blank or nothing behind them. -/
theorem readsName_iff :
    ReadsName byteBefore stream quoted.name rest ↔
      2 ≤ quoted.words.length ∧ quoted.lead = [] ∧ quoted.trail = [] ∧ EndsWord rest := by
  constructor
  · rintro ⟨hname, -⟩
    by_cases hlead : quoted.lead = []
    · by_cases htrail : quoted.trail = []
      · rcases List.eq_nil_or_concat' quoted.others with hothers | ⟨others, last, hothers⟩
        · exact absurd hname
            (name_ne_of_oneWord byteBefore hgood hbefore hrest hlead hothers htrail)
        · by_cases hends : EndsWord rest
          · exact ⟨by simp [QuotedName.words, hothers], hlead, htrail, hends⟩
          · exact absurd hname
              (name_ne_of_rest byteBefore hgood hbefore hrest hlead htrail hothers hends)
      · exact absurd hname (name_ne_of_trail byteBefore hgood hbefore hrest hlead htrail)
    · exact absurd hname (name_ne_of_lead byteBefore hgood hbefore hrest hlead)
  · rintro ⟨hlength, hlead, htrail, hends⟩
    rcases List.eq_nil_or_concat' quoted.others with hothers | ⟨others, last, hothers⟩
    · simp [QuotedName.words, hothers] at hlength
    · exact readsName_of_last byteBefore hgood hbefore hrest hlead htrail hothers hends

end

-- ---------------------------------------------------------------------------
-- Names that are not closed
-- ---------------------------------------------------------------------------

section
variable {args : List Str} {form : Form}

theorem untilClosed_eq_none {ws : List Str} (h : ∀ w ∈ ws, nameQuotes ∉ w) :
    untilClosed ws = none := by
  induction ws with
  | nil => rfl
  | cons w ws ih =>
    have hcloses : closesQuote w = false := by
      rw [closesQuote, decide_eq_false_iff_not]
      exact fun hlast => h w (by simp) (List.mem_of_getLast? hlast)
    rw [untilClosed, hcloses]
    exact ih fun w' hw' => h w' (by simp [hw'])

theorem Unclosed.left (h : Unclosed args) : leftByName args = none := by
  cases args with
  | nil => rfl
  | cons w ws =>
    obtain ⟨hopens, -, hothers⟩ := h
    rw [leftByName, if_pos hopens]
    exact untilClosed_eq_none hothers

theorem Form.LeavesOpen.left (h : form.LeavesOpen args) : form.left args = none := by
  cases form with
  | bare => exact h.elim
  | name => exact Unclosed.left h
  | nameAndTeam =>
    obtain h | ⟨ws, hname, h⟩ := h
    · simp [Form.left, h.left]
    · simp [Form.left, hname, h.left]
  | nameAndProperty => simp [Form.left, Unclosed.left h]
  | propertyAndNumber => exact h.elim

variable {command action object : Str}

theorem carriedOut_of_leavesOpen (env : AgentExternals) (localTime : Instant) (app : Application)
    (hwords : words command = action :: object :: args) (hform : formOf action object = some form)
    (hopen : form.LeavesOpen args) : CarriedOut env localTime app command := by
  have hkeys : ∀ entry ∈ grammar, entry.1.1 ∈ changingActions := by decide
  have haction : AgentProxy.firstToken command ∈ changingActions := by
    rw [(AgentProxy.firstToken_eq hwords).1]
    exact hkeys _ (mem_grammar_of_formOf hform)
  obtain ⟨haction, hping, hjson⟩ := changingActions_branch env haction app.game
  have hout : form.ReadsOut args (endsInSpace command) := .inl hopen.left
  rcases AgentProxy.commandOf_eq env hwords hform with ⟨-, parsed, hparsed, -⟩ | ⟨hnot, -⟩
  · exact ⟨parsed, hparsed, AgentProxy.stepIn_carriedOut haction hping hjson hparsed⟩
  · exact absurd hout hnot

theorem view_of_eof {env : AgentExternals} {mode : OutputMode} {game : Game}
    (hobject : AgentProxy.objectOf command = "team".toList)
    (heof : (AgentProxy.readName env (AgentProxy.argumentsOf command)).2.eof = true) :
    ViewAction.process env mode game (AgentProxy.afterToken command) =
      viewTeam env mode game (AgentProxy.readName env (AgentProxy.argumentsOf command)).1 := by
  unfold AgentProxy.objectOf at hobject
  unfold AgentProxy.readName AgentProxy.argumentsOf at heof ⊢
  simp only [ViewAction.process, hobject, if_true, heof]

theorem get_of_eof {env : AgentExternals} {mode : OutputMode} {game : Game}
    (hobject : AgentProxy.objectOf command = "robot".toList ∨
      AgentProxy.objectOf command = "team".toList ∨ AgentProxy.objectOf command = "player".toList)
    (heof : (AgentProxy.readName env (AgentProxy.argumentsOf command)).2.eof = true) :
    ∃ text, GetAction.process env mode game (AgentProxy.afterToken command) =
      GetAction.answer env mode game
        { object := AgentProxy.objectOf command
          name := (AgentProxy.readName env (AgentProxy.argumentsOf command)).1
          property := none
          text } := by
  refine ⟨(AgentProxy.readName env (AgentProxy.argumentsOf command)).2.text, ?_⟩
  unfold AgentProxy.objectOf at hobject
  unfold AgentProxy.readName AgentProxy.argumentsOf at heof
  simp only [GetAction.process, GetAction.read, if_pos hobject, heof, if_true]
  rfl

theorem lookedUp_of_process {env : AgentExternals} (localTime : Instant) {proxy : AgentProxy}
    {process : InStream → Except Fault Reply} {lookUp : Str → Except Fault Reply}
    (haction : actionNamed env proxy.outputMode proxy.application.game
      (AgentProxy.firstToken command) = some process)
    (h : process (AgentProxy.afterToken command) =
      lookUp (AgentProxy.readName env (AgentProxy.argumentsOf command)).1) :
    LookedUp env localTime proxy command lookUp := by
  unfold AgentProxy.firstToken at haction
  unfold LookedUp
  rw [← h]
  simp only [AgentProxy.step, AgentProxy.stepIn, haction]
  rfl

theorem lookedUp_of_unclosed {env : AgentExternals} (localTime : Instant) {proxy : AgentProxy}
    {lookUp : Str → Except Fault Reply} (hwords : words command = action :: object :: args)
    (hmem : ((action, object), lookUp) ∈ lookUps env proxy.outputMode proxy.application.game)
    (hopen : Unclosed args) : LookedUp env localTime proxy command lookUp := by
  have haction := (AgentProxy.firstToken_eq hwords).1
  obtain ⟨hobject, hargs⟩ := AgentProxy.objectOf_eq hwords
  have heof : (AgentProxy.readName env (AgentProxy.argumentsOf command)).2.eof = true :=
    (leaves_readName env.byteBefore hargs).eof_iff.mpr (.inl hopen.left)
  have hmap {known : Str} {process : InStream → Except Fault Reply} (h : action = known)
      (hprocess : actionNamed env proxy.outputMode proxy.application.game known = some process) :
      actionNamed env proxy.outputMode proxy.application.game
        (AgentProxy.firstToken command) = some process := by rw [haction, h, hprocess]
  have hget (h : object = "robot".toList ∨ object = "team".toList ∨ object = "player".toList) :=
    @get_of_eof command env proxy.outputMode proxy.application.game (hobject ▸ h) heof
  rw [hobject] at hget
  simp only [lookUps, List.mem_cons, List.not_mem_nil, or_false, Prod.mk.injEq] at hmem
  rcases hmem with ⟨⟨hkey, rfl⟩, rfl⟩ | ⟨⟨hkey, rfl⟩, rfl⟩ | ⟨⟨hkey, rfl⟩, rfl⟩ |
    ⟨⟨hkey, rfl⟩, rfl⟩
  · exact lookedUp_of_process localTime (hmap hkey rfl) (view_of_eof hobject heof)
  · obtain ⟨text, hprocess⟩ := hget (by decide)
    exact lookedUp_of_process localTime (hmap hkey rfl) hprocess
  · obtain ⟨text, hprocess⟩ := hget (by decide)
    exact lookedUp_of_process localTime (hmap hkey rfl) hprocess
  · obtain ⟨text, hprocess⟩ := hget (by decide)
    exact lookedUp_of_process localTime (hmap hkey rfl) hprocess

end

-- ---------------------------------------------------------------------------
-- Names in quotes
-- ---------------------------------------------------------------------------

theorem readName_iff (env : AgentExternals) :
    (∀ (quoted : QuotedName) (stream : InStream) (before rest : Str), stream.good = true →
      (∀ c ∈ before, isSpace c = true) → stream.rest = before ++ (quoted.text ++ rest) →
      (ReadsName env.byteBefore stream quoted.name rest ↔
        2 ≤ quoted.words.length ∧ quoted.lead = [] ∧ quoted.trail = [] ∧ EndsWord rest)) ∧
    (∀ (localTime : Instant) (app : Application) (command action object : Str) (args : List Str)
      (form : Form), words command = action :: object :: args → formOf action object = some form →
      form.LeavesOpen args → CarriedOut env localTime app command) ∧
    (∀ (localTime : Instant) (proxy : AgentProxy) (command action object : Str) (args : List Str)
      (lookUp : Str → Except Fault Reply), words command = action :: object :: args →
      ((action, object), lookUp) ∈ lookUps env proxy.outputMode proxy.application.game →
      Unclosed args → LookedUp env localTime proxy command lookUp) := by
  refine ⟨?_, ?_, ?_⟩
  · intro quoted stream before rest hgood hbefore hrest
    exact readsName_iff env.byteBefore hgood hbefore hrest
  · intro localTime app command action object args form hwords hform hopen
    exact carriedOut_of_leavesOpen env localTime app hwords hform hopen
  · intro localTime proxy command action object args lookUp hwords hmem hopen
    exact lookedUp_of_unclosed localTime hwords hmem hopen

theorem isNameWord_of_all {word : Str} (hne : word ≠ [])
    (h : word.all (fun c => !isSpace c && c != nameQuotes) = true) : IsNameWord word where
  ne_nil := hne
  noSpace c hc := by simpa using (Bool.and_eq_true_iff.mp (List.all_eq_true.mp h c hc)).1
  noQuote hmem := by simpa using List.all_eq_true.mp h _ hmem

def robotOne : QuotedName where
  lead := []
  first := "Robot".toList
  others := [(" ".toList, "One".toList)]
  trail := []
  isName := by
    simp only [List.map_cons, List.map_nil, List.forall_mem_cons, List.not_mem_nil,
      false_implies, implies_true, and_true]
    exact ⟨isNameWord_of_all (by decide) (by decide), isNameWord_of_all (by decide) (by decide)⟩
  separated := by decide
  blank := by simp [isSpace]

def red : QuotedName where
  lead := []
  first := "Red".toList
  others := []
  trail := []
  isName := by
    simp only [List.map_nil, List.forall_mem_singleton]
    exact isNameWord_of_all (by decide) (by decide)
  separated := by decide
  blank := by simp [isSpace]

def redUnclosed : Str := nameQuotes :: "Red".toList

theorem readName_iff_robotOne :
    ReadsName (Char.ofNat 0)
        (AgentProxy.argumentsOf ("add robot ".toList ++ (robotOne.text ++ " TEAM".toList)))
        "Robot One".toList " TEAM".toList ∧
      CarriedOut .plain 0 (Server.create [] 0 oneTeam) ("add team ".toList ++ redUnclosed) ∧
      LookedUp .plain 0 { application := Server.create [] 0 oneTeam }
        ("get team ".toList ++ redUnclosed)
        (fun name =>
          .ok (getTeamReply .plain .text (Server.create [] 0 oneTeam).game name none)) := by
  have hform : formOf "add".toList "team".toList = some .name := rfl
  refine ⟨((readName_iff .plain).1 robotOne _ " ".toList " TEAM".toList rfl
    (by simp [isSpace]) rfl).mpr ⟨by decide, rfl, rfl, by simp [EndsWord, isSpace]⟩, ?_, ?_⟩
  · exact (readName_iff .plain).2.1 0 _ _ _ _ [redUnclosed] _ rfl hform ⟨rfl, by decide, nofun⟩
  · exact (readName_iff .plain).2.2 0 _ _ _ _ [redUnclosed] _ rfl
      (.tail _ (.tail _ (.head _))) ⟨rfl, by decide, nofun⟩

/-- One word keeps its quotes, and without the closing one it is taken as well. -/
theorem readName_oneWord :
    ¬ReadsName (Char.ofNat 0) (AgentProxy.argumentsOf ("add team ".toList ++ red.text))
        red.name [] ∧
      CarriedOut .plain 0 (Server.create [] 0 oneTeam) ("add team ".toList ++ redUnclosed) := by
  constructor
  · rintro ⟨hname, -⟩
    revert hname
    decide
  · exact ⟨_, rfl, AgentProxy.stepIn_carriedOut rfl (by decide) (by decide) rfl⟩

end ServerGame
