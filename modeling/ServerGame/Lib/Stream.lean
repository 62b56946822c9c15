import Mathlib

/-!
# Reading words from a text

`std::istringstream` as far as `>>` goes: the flags, the extraction of a word
and of an unsigned number. What a reader sees of a text is its words and
whether a blank follows the last one; `Shows` says so of a stream, and each
extraction is one step on what is shown.
-/

namespace ServerGame.Lib

-- ---------------------------------------------------------------------------
-- Words of a text
-- ---------------------------------------------------------------------------

/-- `isspace` in the "C" locale. -/
def isSpace (c : Char) : Bool := c.toNat == 32 || (9 ≤ c.toNat && c.toNat ≤ 13)

def startsWord : List Char → Bool
  | [] => false
  | c :: _ => !isSpace c

/-- The maximal runs of characters that are not blank. -/
def words : List Char → List (List Char)
  | [] => []
  | c :: rest =>
    if isSpace c then words rest
    else if startsWord rest then
      match words rest with
      | [] => [[c]]
      | word :: others => (c :: word) :: others
    else [c] :: words rest

def endsInSpace (text : List Char) : Bool := (text.getLast?.map isSpace).getD false

def firstWord (text : List Char) : List Char := text.takeWhile (!isSpace ·)

def afterWord (text : List Char) : List Char := text.dropWhile (!isSpace ·)

def skipSpaces (text : List Char) : List Char := text.dropWhile isSpace

section
variable {c : Char} {text : List Char}

theorem words_skipSpaces (text : List Char) : words (skipSpaces text) = words text := by
  induction text with
  | nil => rfl
  | cons c rest ih =>
    unfold skipSpaces
    by_cases hc : isSpace c = true
    · rw [List.dropWhile_cons_of_pos hc]
      simp only [words, hc, ↓reduceIte]
      exact ih
    · rw [List.dropWhile_cons_of_neg hc]

theorem words_of_startsWord (h : startsWord text = true) :
    words text = firstWord text :: words (afterWord text) := by
  induction text with
  | nil => cases h
  | cons c rest ih =>
    have hc : isSpace c = false := by simpa [startsWord] using h
    by_cases hrest : startsWord rest = true
    · simp only [words, hc, hrest, ih hrest, firstWord, afterWord, Bool.false_eq_true, ↓reduceIte]
      simp [hc]
    · have hrest : startsWord rest = false := by simpa using hrest
      cases rest with
      | nil => simp [words, hc, startsWord, firstWord, afterWord]
      | cons d rest =>
        have hd : isSpace d = true := by simpa [startsWord] using hrest
        simp [words, hc, hd, startsWord, firstWord, afterWord]

theorem startsWord_skipSpaces : startsWord (skipSpaces text) = !(skipSpaces text).isEmpty := by
  unfold skipSpaces
  induction text with
  | nil => rfl
  | cons c rest ih =>
    by_cases hc : isSpace c = true
    · rw [List.dropWhile_cons_of_pos hc, ih]
    · rw [List.dropWhile_cons_of_neg hc]
      simpa [startsWord] using hc

theorem words_eq_nil_iff : words text = [] ↔ skipSpaces text = [] := by
  constructor
  · intro hwords
    by_contra hne
    have hstart := @startsWord_skipSpaces text
    rw [List.isEmpty_eq_false_iff.mpr hne, Bool.not_false] at hstart
    rw [← words_skipSpaces, words_of_startsWord hstart] at hwords
    cases hwords
  · intro hskip
    rw [← words_skipSpaces, hskip]
    rfl

theorem words_eq_cons {w : List Char} {ws : List (List Char)} (h : words text = w :: ws) :
    skipSpaces text ≠ [] ∧ firstWord (skipSpaces text) = w ∧
      words (afterWord (skipSpaces text)) = ws := by
  have hskip : skipSpaces text ≠ [] := by
    intro hnil
    rw [words_eq_nil_iff.mpr hnil] at h
    cases h
  have hstart : startsWord (skipSpaces text) = true := by
    rw [startsWord_skipSpaces, List.isEmpty_eq_false_iff.mpr hskip, Bool.not_false]
  rw [← words_skipSpaces, words_of_startsWord hstart] at h
  exact ⟨hskip, List.cons.inj h⟩

theorem ne_nil_of_mem_words {w : List Char} (h : w ∈ words text) : w ≠ [] := by
  induction text with
  | nil => cases h
  | cons c rest ih =>
    unfold words at h
    split at h
    · exact ih h
    · split at h
      · split at h
        · simp_all
        · next word others hrest =>
          rcases List.mem_cons.mp h with rfl | hmem
          · simp
          · exact ih (hrest ▸ List.mem_cons_of_mem _ hmem)
      · rcases List.mem_cons.mp h with rfl | hmem
        · simp
        · exact ih hmem

theorem length_words_le (text : List Char) : (words text).length ≤ text.length := by
  induction text with
  | nil => exact le_rfl
  | cons c rest ih =>
    unfold words
    split
    · exact ih.trans (by simp)
    · split
      · split
        · simp
        · next word others hrest =>
          rw [hrest, List.length_cons] at ih
          simpa using ih.trans (Nat.le_succ _)
      · simpa using ih

theorem endsInSpace_append {pre : List Char} (h : text ≠ []) :
    endsInSpace (pre ++ text) = endsInSpace text := by
  unfold endsInSpace
  rw [List.getLast?_append_of_ne_nil pre h]

theorem endsInSpace_skipSpaces (h : skipSpaces text ≠ []) :
    endsInSpace (skipSpaces text) = endsInSpace text := by
  conv_rhs => rw [← List.takeWhile_append_dropWhile (p := isSpace) (l := text)]
  exact (endsInSpace_append h).symm

theorem endsInSpace_afterWord (h : afterWord text ≠ []) :
    endsInSpace (afterWord text) = endsInSpace text := by
  conv_rhs => rw [← List.takeWhile_append_dropWhile (p := (!isSpace ·)) (l := text)]
  exact (endsInSpace_append h).symm

theorem endsInSpace_of_skipSpaces (hskip : skipSpaces text = []) (h : text ≠ []) :
    endsInSpace text = true := by
  have hall := List.dropWhile_eq_nil_iff.mp hskip
  obtain ⟨c, hc⟩ := List.getLast?_isSome.mpr h |> Option.isSome_iff_exists.mp
  simp [endsInSpace, hc, hall c (List.mem_of_getLast? hc)]

theorem endsInSpace_of_afterWord (hafter : afterWord text = []) :
    endsInSpace text = false := by
  have hall := List.dropWhile_eq_nil_iff.mp hafter
  unfold endsInSpace
  cases hc : text.getLast? with
  | none => rfl
  | some c => simpa using hall c (List.mem_of_getLast? hc)

theorem afterWord_eq_nil_iff :
    afterWord text = [] ↔ words (afterWord text) = [] ∧ endsInSpace text = false := by
  constructor
  · intro hafter
    exact ⟨by rw [hafter]; rfl, endsInSpace_of_afterWord hafter⟩
  · rintro ⟨hwords, hspace⟩
    by_contra hne
    rw [← endsInSpace_afterWord hne,
      endsInSpace_of_skipSpaces (words_eq_nil_iff.mp hwords) hne] at hspace
    cases hspace

theorem isSpace_of_afterWord {rest : List Char} (h : afterWord text = c :: rest) :
    isSpace c = true := by
  have hhead := List.head?_dropWhile_not (!isSpace ·) text
  unfold afterWord at h
  simpa [h] using hhead

theorem firstWord_ne_nil (h : startsWord text = true) : firstWord text ≠ [] := by
  cases text with
  | nil => cases h
  | cons c rest =>
    have hc : isSpace c = false := by simpa [startsWord] using h
    simp [firstWord, hc]

end

-- ---------------------------------------------------------------------------
-- Streams
-- ---------------------------------------------------------------------------

structure InStream where
  /-- `str()`. -/
  text : List Char
  rest : List Char
  eof : Bool := false
  fail : Bool := false

namespace InStream

def ofText (text : List Char) : InStream := { text, rest := text }

def good (s : InStream) : Bool := !s.eof && !s.fail

/-- Before a formatted extraction: blanks are skipped, and it goes on when
something is left. -/
def sentry (s : InStream) : Bool × InStream :=
  if s.good then
    let rest := skipSpaces s.rest
    if rest.isEmpty then (false, { s with rest, eof := true, fail := true })
    else (true, { s with rest })
  else (false, { s with fail := true })

/-- `>>` into a string, which keeps its old value when there is nothing left. -/
def readWord (old : List Char) (s : InStream) : List Char × InStream :=
  match s.sentry with
  | (false, s) => (old, s)
  | (true, s) =>
    (firstWord s.rest, { s with rest := afterWord s.rest, eof := (afterWord s.rest).isEmpty })

def readSign : List Char → Bool × List Char
  | '-' :: rest => (true, rest)
  | '+' :: rest => (false, rest)
  | rest => (false, rest)

def digitsValue (digits : List Char) : Nat :=
  digits.foldl (fun n c => 10 * n + (c.toNat - '0'.toNat)) 0

/-- `>>` into an unsigned number below the bound: 0 without a digit, the
greatest one on overflow, the negative modulo the bound after a minus. -/
def readUnsigned (bound old : Nat) (s : InStream) : Nat × InStream :=
  match s.sentry with
  | (false, s) => (old, s)
  | (true, s) =>
    let (negative, unsigned) := readSign s.rest
    let digits := unsigned.takeWhile Char.isDigit
    let rest := unsigned.dropWhile Char.isDigit
    let s := { s with rest, eof := rest.isEmpty }
    if digits.isEmpty then (0, { s with fail := true })
    else if bound ≤ digitsValue digits then (bound - 1, { s with fail := true })
    else (if negative then (bound - digitsValue digits) % bound else digitsValue digits, s)

/-- `>>` into a character: one that is not blank. -/
def readChar (old : Char) (s : InStream) : Char × InStream :=
  match s.sentry with
  | (false, s) => (old, s)
  | (true, s) => (s.rest.headD old, { s with rest := s.rest.tail })

def withText (s : InStream) (text : List Char) : InStream := { s with text }

section
variable (s : InStream) (text old : List Char)

@[simp] theorem withText_good : (s.withText text).good = s.good := rfl
@[simp] theorem withText_eof : (s.withText text).eof = s.eof := rfl
@[simp] theorem withText_rest : (s.withText text).rest = s.rest := rfl

theorem sentry_withText :
    (s.withText text).sentry = (s.sentry.1, s.sentry.2.withText text) := by
  unfold sentry
  rw [withText_good]
  split
  · dsimp only
    rw [withText_rest]
    split <;> rfl
  · rfl

@[simp] theorem readWord_withText :
    (s.withText text).readWord old =
      ((s.readWord old).1, (s.readWord old).2.withText text) := by
  unfold readWord
  rw [sentry_withText]
  cases s.sentry with
  | mk going s' => cases going <;> rfl

theorem readWord_ofText : (ofText text).readWord [] =
    (firstWord (skipSpaces text),
      { text, rest := afterWord (skipSpaces text)
        eof := (afterWord (skipSpaces text)).isEmpty, fail := (skipSpaces text).isEmpty }) := by
  unfold readWord sentry
  by_cases hempty : skipSpaces text = []
  · simp [ofText, good, hempty, firstWord, afterWord]
  · simp [ofText, good, hempty]

theorem readWord_ofText_skipSpaces : (ofText (skipSpaces text)).readWord [] =
    (((ofText text).readWord []).1, ((ofText text).readWord []).2.withText (skipSpaces text)) := by
  have hskip : skipSpaces (skipSpaces text) = skipSpaces text := List.dropWhile_idempotent _ _
  rw [readWord_ofText, readWord_ofText, hskip]
  rfl

end

-- ---------------------------------------------------------------------------
-- What a stream shows
-- ---------------------------------------------------------------------------

/-- These words are still to be read, and then a blank or not. -/
inductive Shows (s : InStream) : List (List Char) → Bool → Prop
  | finished (h : s.eof = true) (hrest : s.rest = []) : Shows s [] false
  | reading (h : s.good = true) (hrest : s.rest ≠ []) : Shows s (words s.rest) (endsInSpace s.rest)

variable {s : InStream} {ws : List (List Char)} {trailing : Bool}

theorem Shows.ofText {text : List Char} (h : text ≠ []) :
    Shows (ofText text) (words text) (endsInSpace text) := .reading rfl h

theorem good_iff : s.good = true ↔ s.eof = false ∧ s.fail = false := by
  simp [good]

theorem Shows.ne_nil (h : s.Shows ws trailing) : ∀ w ∈ ws, w ≠ [] := by
  cases h with
  | finished => simp
  | reading => exact fun _ => ne_nil_of_mem_words

theorem Shows.length_le (h : s.Shows ws trailing) : ws.length ≤ s.rest.length := by
  cases h with
  | finished => simp
  | reading => exact length_words_le s.rest

theorem Shows.eof_iff (h : s.Shows ws trailing) : s.eof = true ↔ ws = [] ∧ trailing = false := by
  cases h with
  | finished h => simp [h]
  | reading h hrest =>
    simp only [(good_iff.mp h).1, Bool.false_eq_true, false_iff, not_and]
    intro hwords hspace
    rw [endsInSpace_of_skipSpaces (words_eq_nil_iff.mp hwords) hrest] at hspace
    cases hspace

theorem Shows.good_of_cons {w : List Char} (h : s.Shows (w :: ws) trailing) : s.good = true := by
  generalize hshown : w :: ws = shown at h
  cases h with
  | finished => cases hshown
  | reading h => exact h

theorem Shows.finished_of_not_good (h : s.Shows ws trailing) (hgood : s.good ≠ true) :
    s.Shows [] false := by
  cases h with
  | finished heof hrest => exact .finished heof hrest
  | reading h => exact absurd h hgood

theorem Shows.sentry_cons {w : List Char} (h : s.Shows (w :: ws) trailing) :
    ∃ rest, s.sentry = (true, { s with rest }) ∧ firstWord rest = w ∧
      words (afterWord rest) = ws ∧ startsWord rest = true ∧ endsInSpace rest = trailing := by
  generalize hshown : w :: ws = shown at h
  cases h with
  | finished => cases hshown
  | reading h hrest =>
    obtain ⟨hskip, hword, hafter⟩ := words_eq_cons hshown.symm
    exact ⟨skipSpaces s.rest, by simp [sentry, h, hskip], hword, hafter,
      by simp [startsWord_skipSpaces, hskip], endsInSpace_skipSpaces hskip⟩

theorem Shows.afterWord {s' : InStream} {rest : List Char} (hrest : s'.rest = afterWord rest)
    (heof : s'.eof = (Lib.afterWord rest).isEmpty) (hfail : s'.fail = false) :
    s'.Shows (words (Lib.afterWord rest)) (endsInSpace rest) := by
  by_cases hafter : Lib.afterWord rest = []
  · rw [hafter, endsInSpace_of_afterWord hafter]
    exact .finished (by simp [heof, hafter]) (hrest.trans hafter)
  · rw [← endsInSpace_afterWord hafter, ← hrest]
    exact .reading (good_iff.mpr ⟨by simp [heof, hafter], hfail⟩) (hrest ▸ hafter)

theorem Shows.readWord_cons {w : List Char} (h : s.Shows (w :: ws) trailing) (old : List Char) :
    (s.readWord old).1 = w ∧ (s.readWord old).2.Shows ws trailing := by
  obtain ⟨rest, hsentry, rfl, rfl, -, rfl⟩ := h.sentry_cons
  unfold readWord
  rw [hsentry]
  exact ⟨rfl, .afterWord rfl rfl (good_iff.mp h.good_of_cons).2⟩

theorem Shows.sentry_nil (h : s.Shows [] trailing) :
    s.sentry.1 = false ∧ s.sentry.2.Shows [] false := by
  generalize hshown : ([] : List (List Char)) = shown at h
  cases h with
  | finished heof hrest =>
    have hgood : s.good = false := by simp [good, heof]
    rw [sentry, hgood]
    exact ⟨rfl, .finished heof hrest⟩
  | reading hgood hrest =>
    have hskip : skipSpaces s.rest = [] := words_eq_nil_iff.mp hshown.symm
    have hsentry : s.sentry = (false, { s with rest := [], eof := true, fail := true }) := by
      simp [sentry, hgood, hskip]
    rw [hsentry, ← hshown]
    exact ⟨rfl, .finished rfl rfl⟩

theorem Shows.readWord_nil (h : s.Shows [] trailing) (old : List Char) :
    (s.readWord old).1 = old ∧ (s.readWord old).2.Shows [] false := by
  obtain ⟨hstop, hs⟩ := h.sentry_nil
  unfold readWord
  split
  · next h₁ => rw [h₁] at hs; exact ⟨rfl, hs⟩
  · next h₁ => rw [h₁] at hstop; cases hstop

theorem Shows.readUnsigned_nil (h : s.Shows [] trailing) (bound old : Nat) :
    (s.readUnsigned bound old).1 = old ∧ (s.readUnsigned bound old).2.Shows [] false := by
  obtain ⟨hstop, hs⟩ := h.sentry_nil
  unfold readUnsigned
  split
  · next h₁ => rw [h₁] at hs; exact ⟨rfl, hs⟩
  · next h₁ => rw [h₁] at hstop; cases hstop

/-- An optional sign and then digits only, possibly none. -/
def isNumeral (w : List Char) : Bool := (readSign w).2.all Char.isDigit

theorem readSign_append {w : List Char} (h : w ≠ []) (rest : List Char) :
    readSign (w ++ rest) = ((readSign w).1, (readSign w).2 ++ rest) := by
  cases w with
  | nil => exact absurd rfl h
  | cons c w =>
    rw [List.cons_append]
    unfold readSign
    split
    · next heq => cases heq; rfl
    · next heq => cases heq; rfl
    · next hminus hplus =>
      split
      · next heq => cases heq; exact absurd rfl (hminus _)
      · next heq => cases heq; exact absurd rfl (hplus _)
      · rfl

theorem isDigit_of_isSpace {c : Char} (h : isSpace c = true) : c.isDigit = false := by
  simp only [isSpace, Bool.or_eq_true, beq_iff_eq, Bool.and_eq_true, decide_eq_true_eq] at h
  simp only [Char.isDigit, Bool.and_eq_false_imp, decide_eq_true_eq, decide_eq_false_iff_not]
  intro hge hle
  have hge : 48 ≤ c.toNat := hge
  omega

theorem Shows.readUnsigned_cons_eof {w : List Char} (h : s.Shows (w :: ws) trailing)
    (bound old : Nat) : (s.readUnsigned bound old).2.eof = true ↔
      isNumeral w = true ∧ ws = [] ∧ trailing = false := by
  obtain ⟨rest, hsentry, rfl, rfl, hstart, rfl⟩ := h.sentry_cons
  have heof : (s.readUnsigned bound old).2.eof =
      ((readSign rest).2.dropWhile Char.isDigit).isEmpty := by
    unfold readUnsigned
    rw [hsentry]
    dsimp only
    split
    · rfl
    · split <;> rfl
  have hsplit : (readSign rest).2 = (readSign (firstWord rest)).2 ++ Lib.afterWord rest := by
    have happend := readSign_append (firstWord_ne_nil hstart) (Lib.afterWord rest)
    rw [firstWord, Lib.afterWord, List.takeWhile_append_dropWhile] at happend
    exact congrArg Prod.snd happend
  have hafter : (Lib.afterWord rest).dropWhile Char.isDigit = Lib.afterWord rest := by
    cases hrest : Lib.afterWord rest with
    | nil => rfl
    | cons c cs => simp [isDigit_of_isSpace (isSpace_of_afterWord hrest)]
  rw [heof, hsplit, List.dropWhile_append, hafter, ← afterWord_eq_nil_iff, isNumeral,
    List.all_eq_true]
  split
  · next hdigits =>
    simp only [List.isEmpty_iff] at hdigits ⊢
    exact (and_iff_right (List.dropWhile_eq_nil_iff.mp hdigits)).symm
  · next hdigits =>
    simp only [List.isEmpty_iff] at hdigits ⊢
    simp only [List.append_eq_nil_iff, hdigits, false_and, false_iff, not_and]
    intro hall
    exact absurd (List.dropWhile_eq_nil_iff.mpr hall) hdigits

-- ---------------------------------------------------------------------------
-- Numbers between blanks
-- ---------------------------------------------------------------------------

section
variable {blanks rest digits : List Char}

theorem sentry_of_blanks {c : Char} (hgood : s.good = true) (hs : s.rest = blanks ++ c :: rest)
    (hblanks : ∀ c ∈ blanks, isSpace c = true) (hc : isSpace c = false) :
    s.sentry = (true, { s with rest := c :: rest }) := by
  have hskip : skipSpaces s.rest = c :: rest := by
    rw [hs, skipSpaces, List.dropWhile_append_of_pos hblanks,
      List.dropWhile_cons_of_neg (by simp [hc])]
  simp [sentry, hgood, hskip]

theorem readSign_of_isDigit {c : Char} (hc : c.isDigit = true) (rest : List Char) :
    readSign (c :: rest) = (false, c :: rest) := by
  unfold readSign
  split
  · next heq => cases heq; cases hc
  · next heq => cases heq; cases hc
  · rfl

theorem readUnsigned_of_digits (hgood : s.good = true) (hs : s.rest = blanks ++ (digits ++ rest))
    (hblanks : ∀ c ∈ blanks, isSpace c = true) (hne : digits ≠ [])
    (hdigits : ∀ c ∈ digits, c.isDigit = true) (hrest : rest.takeWhile Char.isDigit = [])
    (bound old : Nat) :
    s.readUnsigned bound old =
      if bound ≤ digitsValue digits then
        (bound - 1, { s with rest, eof := rest.isEmpty, fail := true })
      else (digitsValue digits, { s with rest, eof := rest.isEmpty }) := by
  obtain ⟨c, cs, rfl⟩ := List.exists_cons_of_ne_nil hne
  have hc : c.isDigit = true := hdigits c (by simp)
  have hspace : isSpace c = false := by
    by_contra hspace
    rw [isDigit_of_isSpace (by simpa using hspace)] at hc
    cases hc
  have hs' : s.rest = blanks ++ c :: (cs ++ rest) := hs
  have htake : (c :: (cs ++ rest)).takeWhile Char.isDigit = c :: cs := by
    rw [← List.cons_append, List.takeWhile_append_of_pos hdigits, hrest, List.append_nil]
  have hdrop : (c :: (cs ++ rest)).dropWhile Char.isDigit = rest := by
    have hsplit := @List.takeWhile_append_dropWhile _ Char.isDigit (c :: (cs ++ rest))
    rw [htake, List.cons_append] at hsplit
    exact List.append_cancel_left (List.cons.inj hsplit).2
  unfold readUnsigned
  rw [sentry_of_blanks hgood hs' hblanks hspace]
  dsimp only
  rw [readSign_of_isDigit hc]
  simp only [htake, hdrop, List.isEmpty_cons, Bool.false_eq_true, if_false]

theorem readUnsigned_of_not_good (hgood : s.good = false) (bound old : Nat) :
    (s.readUnsigned bound old).1 = old := by
  simp [readUnsigned, sentry, hgood]

theorem readChar_of_blanks {c : Char} (hgood : s.good = true) (hs : s.rest = blanks ++ c :: rest)
    (hblanks : ∀ c ∈ blanks, isSpace c = true) (hc : isSpace c = false) (old : Char) :
    s.readChar old = (c, { s with rest }) := by
  unfold readChar
  rw [sentry_of_blanks hgood hs hblanks hc]
  rfl

theorem readChar_of_nothing (hs : ∀ c ∈ s.rest, isSpace c = true) (old : Char) :
    (s.readChar old).2.good = false := by
  have hskip : skipSpaces s.rest = [] := List.dropWhile_eq_nil_iff.mpr hs
  unfold readChar sentry
  cases hgood : s.good with
  | true => simp [hskip, good]
  | false =>
    rw [if_neg (by simp)]
    simp [good]

theorem readChar_of_not_good (hgood : s.good = false) (old : Char) :
    (s.readChar old).2.good = false := by
  unfold readChar sentry
  rw [hgood, if_neg (by simp)]
  simp [good]

end

end InStream

end ServerGame.Lib
