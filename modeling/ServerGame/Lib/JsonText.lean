import Mathlib

/-!
# JSON texts

The grammar of JSON over the bytes of a text, each as a character: values,
between blanks, and nothing behind them. Below it, how texts and numbers are
written so that the grammar takes them.
-/

namespace ServerGame.Lib.JsonText

-- ---------------------------------------------------------------------------
-- Characters
-- ---------------------------------------------------------------------------

def quote : Char := Char.ofNat 34

def backslash : Char := Char.ofNat 92

def openBrace : Char := Char.ofNat 123

def closeBrace : Char := Char.ofNat 125

def isBlank (c : Char) : Bool := c.toNat == 32 || c.toNat == 9 || c.toNat == 10 || c.toNat == 13

def isHex (c : Char) : Bool := c.isDigit || ('a' ≤ c && c ≤ 'f') || ('A' ≤ c && c ≤ 'F')

def Blanks (text : List Char) : Prop := ∀ c ∈ text, isBlank c = true

def Digits (text : List Char) : Prop := text ≠ [] ∧ ∀ c ∈ text, c.isDigit = true

def utf8 (c : Char) : List Char :=
  (String.utf8EncodeChar c).map fun byte => Char.ofNat byte.toNat

-- ---------------------------------------------------------------------------
-- The grammar
-- ---------------------------------------------------------------------------

inductive Unsigned : List Char → Prop
  | zero : Unsigned ['0']
  | digits {d rest} (hd : d.isDigit = true) (hne : d ≠ '0') (hrest : ∀ c ∈ rest, c.isDigit = true) :
      Unsigned (d :: rest)

inductive Fraction : List Char → Prop
  | none : Fraction []
  | some {ds} (h : Digits ds) : Fraction ('.' :: ds)

inductive Exponent : List Char → Prop
  | none : Exponent []
  | some {e sign ds} (he : e = 'e' ∨ e = 'E') (hsign : sign = [] ∨ sign = ['+'] ∨ sign = ['-'])
      (h : Digits ds) : Exponent (e :: sign ++ ds)

inductive Number : List Char → Prop
  | mk {sign int frac exp} (hsign : sign = [] ∨ sign = ['-']) (hint : Unsigned int)
      (hfrac : Fraction frac) (hexp : Exponent exp) : Number (sign ++ int ++ frac ++ exp)

/-- What stands for one character between the quotes. -/
inductive Letter : List Char → Prop
  | plain {c} (hcontrol : 32 ≤ c.toNat) (hquote : c ≠ quote) (hbackslash : c ≠ backslash) :
      Letter (utf8 c)
  | escape {c} (h : c = quote ∨ c = backslash ∨ c ∈ "/bfnrt".toList) : Letter [backslash, c]
  | unicode {c₁ c₂ c₃ c₄} (h₁ : isHex c₁ = true) (h₂ : isHex c₂ = true) (h₃ : isHex c₃ = true)
      (h₄ : isHex c₄ = true) : Letter [backslash, 'u', c₁, c₂, c₃, c₄]

inductive Letters : List Char → Prop
  | nil : Letters []
  | cons {letter rest} (h : Letter letter) (hrest : Letters rest) : Letters (letter ++ rest)

mutual

inductive Value : List Char → Prop
  | null : Value "null".toList
  | isTrue : Value "true".toList
  | isFalse : Value "false".toList
  | number {text} (h : Number text) : Value text
  | string {text} (h : Letters text) : Value (quote :: text ++ [quote])
  | emptyArray {blanks} (h : Blanks blanks) : Value ('[' :: blanks ++ [']'])
  | array {text} (h : Elements text) : Value ('[' :: text ++ [']'])
  | emptyObject {blanks} (h : Blanks blanks) : Value (openBrace :: blanks ++ [closeBrace])
  | object {text} (h : Members text) : Value (openBrace :: text ++ [closeBrace])

inductive Element : List Char → Prop
  | mk {before value after} (hbefore : Blanks before) (h : Value value) (hafter : Blanks after) :
      Element (before ++ value ++ after)

inductive Elements : List Char → Prop
  | last {text} (h : Element text) : Elements text
  | cons {text rest} (h : Element text) (hrest : Elements rest) : Elements (text ++ ',' :: rest)

inductive Member : List Char → Prop
  | mk {before key after value} (hbefore : Blanks before) (hkey : Letters key)
      (hafter : Blanks after) (h : Element value) :
      Member (before ++ quote :: key ++ quote :: after ++ ':' :: value)

inductive Members : List Char → Prop
  | last {text} (h : Member text) : Members text
  | cons {text rest} (h : Member text) (hrest : Members rest) : Members (text ++ ',' :: rest)

end

/-- A whole text that is one value. -/
def Document (text : List Char) : Prop := Element text

-- ---------------------------------------------------------------------------
-- How a document starts
-- ---------------------------------------------------------------------------

def startsValue (c : Char) : Bool :=
  c.isDigit || c == '-' || c == quote || c == '[' || c == openBrace || c == 'n' || c == 't' ||
    c == 'f'

theorem Unsigned.starts {text : List Char} (h : Unsigned text) :
    ∃ c rest, text = c :: rest ∧ c.isDigit = true := by
  cases h with
  | zero => exact ⟨'0', [], rfl, rfl⟩
  | digits hd => exact ⟨_, _, rfl, hd⟩

theorem Number.starts {text : List Char} (h : Number text) :
    ∃ c rest, text = c :: rest ∧ startsValue c = true := by
  obtain ⟨hsign, hint, -, -⟩ := h
  obtain ⟨c, rest, rfl, hc⟩ := hint.starts
  rcases hsign with rfl | rfl
  · exact ⟨c, _, rfl, by simp [startsValue, hc]⟩
  · exact ⟨'-', _, rfl, rfl⟩

theorem Value.starts {text : List Char} (h : Value text) :
    ∃ c rest, text = c :: rest ∧ startsValue c = true := by
  cases h with
  | number h => exact h.starts
  | _ => exact ⟨_, _, rfl, rfl⟩

theorem Document.starts {text : List Char} (h : Document text) :
    ∃ c rest, text = c :: rest ∧ (isBlank c = true ∨ startsValue c = true) := by
  obtain ⟨hbefore, hvalue, -⟩ := h
  rename_i before value after
  cases before with
  | nil =>
    obtain ⟨c, rest, rfl, hc⟩ := hvalue.starts
    exact ⟨c, _, rfl, .inr hc⟩
  | cons c before => exact ⟨c, _, rfl, .inl (hbefore c (by simp))⟩

theorem Value.document {text : List Char} (h : Value text) : Document text := by
  have hdocument : Document ([] ++ text ++ []) :=
    .mk (fun _ h => nomatch h) h (fun _ h => nomatch h)
  simpa using hdocument

-- ---------------------------------------------------------------------------
-- Writing
-- ---------------------------------------------------------------------------

theorem toNat_ofNat_byte (byte : UInt8) : (Char.ofNat byte.toNat).toNat = byte.toNat := by
  have hlt := byte.toNat_lt
  rw [Char.toNat_ofNat, if_pos (by left; omega)]

theorem utf8_of_lt {c : Char} (h : c.toNat < 128) : utf8 c = [c] := by
  have hle : c.val.toNat ≤ 127 := Nat.le_of_lt_succ h
  have hbyte : (UInt8.ofNat c.val.toNat).toNat = c.toNat := by
    rw [UInt8.toNat_ofNat']
    exact Nat.mod_eq_of_lt (by change c.toNat < 256; omega)
  simp only [utf8, String.utf8EncodeChar, hle, ↓reduceIte, List.map_cons, List.map_nil, hbyte,
    Char.ofNat_toNat]

theorem le_of_mem_utf8 {c b : Char} (h : 128 ≤ c.toNat) (hb : b ∈ utf8 c) : 128 ≤ b.toNat := by
  obtain ⟨byte, hbyte, rfl⟩ := List.mem_map.mp hb
  rw [toNat_ofNat_byte]
  have hle : ¬c.val.toNat ≤ 127 := Nat.not_le_of_lt h
  unfold String.utf8EncodeChar at hbyte
  simp only [hle, ↓reduceIte] at hbyte
  split_ifs at hbyte <;> simp only [List.mem_cons, List.not_mem_nil, or_false] at hbyte <;>
    rcases hbyte with rfl | rfl | rfl | rfl <;> rw [UInt8.toNat_ofNat'] <;> omega

def escapeByte (b : Char) : List Char :=
  if b = quote ∨ b = backslash then [backslash, b]
  else if b.toNat < 32 then
    [backslash, 'u', '0', '0', Nat.digitChar (b.toNat / 16), Nat.digitChar (b.toNat % 16)]
  else [b]

theorem isHex_digitChar {n : Nat} (h : n < 16) : isHex n.digitChar = true := by
  interval_cases n <;> rfl

theorem letter_escapeByte {c : Char} (h : c.toNat < 128) : Letter (escapeByte c) := by
  unfold escapeByte
  split
  · next hspecial =>
    rcases hspecial with hc | hc
    · exact .escape (.inl hc)
    · exact .escape (.inr (.inl hc))
  · next hplain =>
    obtain ⟨hquote, hbackslash⟩ := not_or.mp hplain
    split
    · next hcontrol =>
      exact .unicode rfl rfl (isHex_digitChar (by omega)) (isHex_digitChar (by omega))
    · next hcontrol =>
      rw [← utf8_of_lt h]
      exact .plain (Nat.le_of_not_lt hcontrol) hquote hbackslash

theorem letter_escape (c : Char) : Letter ((utf8 c).flatMap escapeByte) := by
  by_cases h : c.toNat < 128
  · simpa [utf8_of_lt h] using letter_escapeByte h
  · have hle : 128 ≤ c.toNat := Nat.le_of_not_lt h
    have hne : ∀ b : Char, 128 ≤ b.toNat → b ≠ quote ∧ b ≠ backslash := by
      refine fun b hb => ⟨?_, ?_⟩ <;> rintro rfl <;> revert hb <;> decide
    have hsame : (utf8 c).flatMap escapeByte = (utf8 c).flatMap fun b => [b] := by
      refine List.flatMap_congr fun b hb => ?_
      have hb128 := le_of_mem_utf8 hle hb
      rw [escapeByte, if_neg (not_or.mpr (hne b hb128)), if_neg (by omega)]
    rw [hsame, List.flatMap_singleton']
    exact .plain (by omega) (hne c hle).1 (hne c hle).2

theorem letters_escape (text : List Char) : Letters ((text.flatMap utf8).flatMap escapeByte) := by
  induction text with
  | nil => exact .nil
  | cons c text ih =>
    rw [List.flatMap_cons, List.flatMap_append]
    exact .cons (letter_escape c) ih

theorem toDigits_of_pos {n : Nat} (h : 0 < n) :
    ∃ d rest, Nat.toDigits 10 n = d :: rest ∧ d.isDigit = true ∧ d ≠ '0' ∧
      ∀ c ∈ rest, c.isDigit = true := by
  induction n using Nat.strongRecOn with
  | ind n ih =>
    rw [Nat.toDigits_eq_if (by decide)]
    split
    · next hlt =>
      refine ⟨n.digitChar, [], rfl, by simpa using hlt, ?_, by simp⟩
      rw [ne_eq, Nat.digitChar_eq_zero]
      omega
    · next hge =>
      obtain ⟨d, rest, heq, hd, hne, hrest⟩ := ih (n / 10) (by omega) (by omega)
      refine ⟨d, rest ++ [(n % 10).digitChar], by rw [heq]; rfl, hd, hne, fun c hc => ?_⟩
      rcases List.mem_append.mp hc with hc | hc
      · exact hrest c hc
      · rw [List.mem_singleton.mp hc, Nat.isDigit_digitChar]
        exact decide_eq_true (Nat.mod_lt n (by decide))

theorem unsigned_toDigits (n : Nat) : Unsigned (Nat.toDigits 10 n) := by
  rcases Nat.eq_zero_or_pos n with rfl | hpos
  · exact .zero
  · obtain ⟨d, rest, heq, hd, hne, hrest⟩ := toDigits_of_pos hpos
    rw [heq]
    exact .digits hd hne hrest

theorem number_of_unsigned {sign text : List Char} (hsign : sign = [] ∨ sign = ['-'])
    (h : Unsigned text) : Number (sign ++ text) := by
  have hnumber := Number.mk hsign h .none .none
  simpa using hnumber

theorem elements_intercalate {texts : List (List Char)} (hne : texts ≠ [])
    (h : ∀ text ∈ texts, Element text) : Elements (List.intercalate [','] texts) := by
  induction texts with
  | nil => exact absurd rfl hne
  | cons text texts ih =>
    obtain ⟨hfirst, hrest⟩ := List.forall_mem_cons.mp h
    cases texts with
    | nil => simpa [List.intercalate] using Elements.last hfirst
    | cons text' texts => simpa [List.intercalate] using Elements.cons hfirst (ih (by simp) hrest)

theorem members_intercalate {texts : List (List Char)} (hne : texts ≠ [])
    (h : ∀ text ∈ texts, Member text) : Members (List.intercalate [','] texts) := by
  induction texts with
  | nil => exact absurd rfl hne
  | cons text texts ih =>
    obtain ⟨hfirst, hrest⟩ := List.forall_mem_cons.mp h
    cases texts with
    | nil => simpa [List.intercalate] using Members.last hfirst
    | cons text' texts => simpa [List.intercalate] using Members.cons hfirst (ih (by simp) hrest)

end ServerGame.Lib.JsonText
