import ServerGame.Lib.Stream
import ServerGame.Server

/-!
# The range of video ports

What `Application::ParseParametersFromConfigFile` makes of `server.video-ports`:
two numbers read from a text, and a loop over 16-bit numbers from the one to the
other. The loop is given fuel, one unit for each test of its condition.
-/

namespace ServerGame

open Lib (InStream isSpace)

-- ---------------------------------------------------------------------------
-- ParseParametersFromConfigFile
-- ---------------------------------------------------------------------------

/-- Both ends of the range. A second number that is not there, or 0, is taken to
be the first one. -/
def readVideoPortRange (text : Str) : UInt16 × UInt16 :=
  let (beginPortRange, stream) := (InStream.ofText text).readUnsigned (2 ^ 16) 0
  let (_, stream) := stream.readChar (Char.ofNat 0)
  let (endPortRange, _) := stream.readUnsigned (2 ^ 16) 0
  (.ofNat beginPortRange, .ofNat (if endPortRange = 0 then beginPortRange else endPortRange))

def insertVideoPorts : Nat → UInt16 → UInt16 → List UInt16 → Except Fault (List UInt16)
  | 0, _, _, _ => .error .endlessLoop
  | fuel + 1, i, endPortRange, videoPorts =>
    if i ≤ endPortRange then insertVideoPorts fuel (i + 1) endPortRange (i :: videoPorts)
    else .ok videoPorts

/-- None where the function returns false: the text is missing, or the range is
a bad one. Ports that are already there are kept. -/
def parseVideoPorts (fuel : Nat) (videoPorts : List UInt16) (text : Option Str) :
    Except Fault (Option (List UInt16)) :=
  if videoPorts.isEmpty then
    match text with
    | none => .ok none
    | some text =>
      let (beginPortRange, endPortRange) := readVideoPortRange text
      if beginPortRange > endPortRange then .ok none
      else some <$> insertVideoPorts fuel beginPortRange endPortRange videoPorts
  else .ok (some videoPorts)

-- ---------------------------------------------------------------------------
-- What is promised
-- ---------------------------------------------------------------------------

def portsFrom (beginPort endPort : UInt16) : List UInt16 :=
  (List.range' beginPort.toNat (endPort.toNat + 1 - beginPort.toNat)).map .ofNat

def Application.popPorts : Nat → Application → List UInt16
  | 0, _ => []
  | n + 1, app => app.popPort.1 :: Application.popPorts n app.popPort.2

structure Expands (text : Str) (ports : List UInt16) : Prop where
  filled : ∃ fuel, parseVideoPorts fuel [] (some text) = .ok (some ports.reverse)
  handedOut : ∀ app : Application, app.availablePorts = ports.reverse →
    app.popPorts ports.length = ports

/-- A number as it is written, with what is read of it: the greatest one for all
that do not fit. -/
structure Numeral (digits : Str) (port : UInt16) : Prop where
  ne_nil : digits ≠ []
  isDigit : ∀ c ∈ digits, c.isDigit = true
  value : port.toNat = min (InStream.digitsValue digits) (2 ^ 16 - 1)

def Blank (text : Str) : Prop := ∀ c ∈ text, isSpace c = true

/-- How a range is written: two numbers with a character between them, or one
number; of a first number that does not fit what follows is not read. -/
inductive Writes : Str → UInt16 → UInt16 → Prop
  | range {before beginDigits mid separator mid' endDigits rest beginPort endPort}
      (hbefore : Blank before) (hmid : Blank mid) (hmid' : Blank mid')
      (hseparator : isSpace separator = false ∧ separator.isDigit = false)
      (hrest : rest.takeWhile Char.isDigit = [])
      (hbegin : Numeral beginDigits beginPort) (hend : Numeral endDigits endPort)
      (hfits : InStream.digitsValue beginDigits < 2 ^ 16) :
      Writes (before ++ (beginDigits ++ (mid ++ separator :: (mid' ++ (endDigits ++ rest)))))
        beginPort endPort
  | single {before digits after port} (hbefore : Blank before) (hafter : Blank after)
      (hport : Numeral digits port) : Writes (before ++ (digits ++ after)) port port
  | overflow {before digits rest port} (hbefore : Blank before)
      (hrest : rest.takeWhile Char.isDigit = []) (hport : Numeral digits port)
      (hlarge : 2 ^ 16 ≤ InStream.digitsValue digits) :
      Writes (before ++ (digits ++ rest)) port port

-- ---------------------------------------------------------------------------
-- Reading
-- ---------------------------------------------------------------------------

section
variable {stream : InStream} {blanks digits rest : Str} {port : UInt16}

theorem takeWhile_blank (h : Blank rest) : rest.takeWhile Char.isDigit = [] := by
  cases rest with
  | nil => rfl
  | cons c cs => simp [InStream.isDigit_of_isSpace (h c (by simp))]

theorem Numeral.ofNat_eq (h : Numeral digits port) (hfits : InStream.digitsValue digits < 2 ^ 16) :
    UInt16.ofNat (InStream.digitsValue digits) = port := by
  have hvalue : InStream.digitsValue digits = port.toNat := by
    rw [h.value]
    omega
  rw [hvalue, UInt16.ofNat_toNat]

theorem Numeral.eq_max (h : Numeral digits port) (hlarge : 2 ^ 16 ≤ InStream.digitsValue digits) :
    UInt16.ofNat (2 ^ 16 - 1) = port := by
  have hvalue : 2 ^ 16 - 1 = port.toNat := by
    rw [h.value]
    omega
  rw [hvalue, UInt16.ofNat_toNat]

theorem readVideoPortRange_of_end {text : Str} {n : Nat} {stream : InStream}
    (hbegin : (InStream.ofText text).readUnsigned (2 ^ 16) 0 = (n, stream))
    (hend : (stream.readChar (Char.ofNat 0)).2.good = false) :
    readVideoPortRange text = (.ofNat n, .ofNat n) := by
  unfold readVideoPortRange
  rw [hbegin]
  dsimp only
  rw [InStream.readUnsigned_of_not_good hend, if_pos rfl]

end

theorem Writes.read {text : Str} {beginPort endPort : UInt16} (h : Writes text beginPort endPort)
    (hle : beginPort ≤ endPort) : readVideoPortRange text = (beginPort, endPort) := by
  cases h with
  | @range before beginDigits mid separator mid' endDigits rest _ _ hbefore hmid hmid' hseparator
      hrest hbegin hend hfits =>
    have hnext :
        (mid ++ separator :: (mid' ++ (endDigits ++ rest))).takeWhile Char.isDigit = [] := by
      cases mid with
      | nil => simp [hseparator.2]
      | cons c cs => simp [InStream.isDigit_of_isSpace (hmid c (by simp))]
    unfold readVideoPortRange
    rw [InStream.readUnsigned_of_digits rfl rfl hbefore hbegin.ne_nil hbegin.isDigit hnext,
      if_neg (Nat.not_le_of_lt hfits)]
    dsimp only
    rw [InStream.readChar_of_blanks (by simp [InStream.good, InStream.ofText]) rfl hmid
      hseparator.1]
    dsimp only
    rw [InStream.readUnsigned_of_digits (by simp [InStream.good, InStream.ofText]) rfl hmid'
      hend.ne_nil hend.isDigit hrest, hbegin.ofNat_eq hfits]
    split
    · next hlarge =>
      change (_, UInt16.ofNat (if 2 ^ 16 - 1 = 0 then _ else 2 ^ 16 - 1)) = _
      rw [if_neg (by decide), hend.eq_max hlarge]
    · next hsmall =>
      dsimp only
      have hendPort := hend.ofNat_eq (Nat.lt_of_not_le hsmall)
      split
      · next hzero =>
        rw [hzero] at hendPort
        rw [hbegin.ofNat_eq hfits]
        have hboth : beginPort = endPort := by
          rw [← hendPort] at hle ⊢
          exact UInt16.le_antisymm hle (UInt16.zero_le)
        rw [hboth]
      · rw [hendPort]
  | @single before digits after port hbefore hafter hport =>
    have hread := InStream.readUnsigned_of_digits (s := .ofText (before ++ (digits ++ after))) rfl
      rfl hbefore hport.ne_nil hport.isDigit (takeWhile_blank hafter) (2 ^ 16) 0
    split at hread
    · next hlarge =>
      refine (readVideoPortRange_of_end hread ?_).trans (by rw [hport.eq_max hlarge])
      exact InStream.readChar_of_nothing (by exact hafter) _
    · next hfits =>
      refine (readVideoPortRange_of_end hread ?_).trans
        (by rw [hport.ofNat_eq (Nat.lt_of_not_le hfits)])
      exact InStream.readChar_of_nothing (by exact hafter) _
  | @overflow before digits rest port hbefore hrest hport hlarge =>
    have hread := InStream.readUnsigned_of_digits (s := .ofText (before ++ (digits ++ rest))) rfl
      rfl hbefore hport.ne_nil hport.isDigit hrest (2 ^ 16) 0
    rw [if_pos hlarge] at hread
    refine (readVideoPortRange_of_end hread ?_).trans (by rw [hport.eq_max hlarge])
    exact InStream.readChar_of_not_good (by simp [InStream.good]) _

-- ---------------------------------------------------------------------------
-- The loop
-- ---------------------------------------------------------------------------

section
variable {endPort : UInt16}

/-- From a counter not above the bound, which is not the greatest number, the
loop ends after the ports that are left. -/
theorem insertVideoPorts_ok (hend : endPort.toNat < 2 ^ 16 - 1) (n : Nat) (i : UInt16)
    (videoPorts : List UInt16) (hn : i.toNat + n = endPort.toNat + 1) :
    insertVideoPorts (n + 1) i endPort videoPorts =
      .ok (((List.range' i.toNat n).map UInt16.ofNat).reverse ++ videoPorts) := by
  induction n generalizing i videoPorts with
  | zero =>
    have hstop : ¬i ≤ endPort := by
      rw [UInt16.le_iff_toNat_le]
      omega
    rw [insertVideoPorts, if_neg hstop]
    rfl
  | succ n ih =>
    have hgo : i ≤ endPort := by
      rw [UInt16.le_iff_toNat_le]
      omega
    have hnext : (i + 1).toNat = i.toNat + 1 := by
      rw [UInt16.toNat_add]
      have : UInt16.toNat 1 = 1 := rfl
      omega
    rw [insertVideoPorts, if_pos hgo, ih (i + 1) (i :: videoPorts) (by omega), hnext,
      List.range'_succ]
    simp

theorem insertVideoPorts_endless (hend : endPort.toNat = 2 ^ 16 - 1) (fuel : Nat) (i : UInt16)
    (videoPorts : List UInt16) :
    insertVideoPorts fuel i endPort videoPorts = .error .endlessLoop := by
  induction fuel generalizing i videoPorts with
  | zero => rfl
  | succ fuel ih =>
    have hgo : i ≤ endPort := by
      rw [UInt16.le_iff_toNat_le]
      have := i.toNat_lt
      omega
    rw [insertVideoPorts, if_pos hgo, ih]

theorem popPorts_eq (ports : List UInt16) (app : Application)
    (h : app.availablePorts = ports.reverse) : app.popPorts ports.length = ports := by
  induction ports generalizing app with
  | nil => rfl
  | cons port ports ih =>
    have hpop : app.popPort = (port, { app with
        availablePorts := ports.reverse, takenPorts := app.takenPorts ++ [port] }) := by
      unfold Application.popPort
      simp [h]
    rw [List.length_cons, Application.popPorts, hpop, ih _ rfl]

end

theorem Writes.parse {text : Str} {beginPort endPort : UInt16} (h : Writes text beginPort endPort)
    (hle : beginPort ≤ endPort) (fuel : Nat) :
    parseVideoPorts fuel [] (some text) =
      some <$> insertVideoPorts fuel beginPort endPort [] := by
  have hgood : ¬endPort < beginPort := by simpa using hle
  simp only [parseVideoPorts, h.read hle, List.isEmpty_nil, if_true, gt_iff_lt, hgood, if_false]

/-- However a range is written, the loop over it ends, with the ports of the
range in reverse, exactly when its end is not the greatest number. -/
theorem videoPorts_expand_iff (text : Str) (beginPort endPort : UInt16)
    (h : Writes text beginPort endPort) (hle : beginPort ≤ endPort) :
    Expands text (portsFrom beginPort endPort) ↔ endPort.toNat < 2 ^ 16 - 1 := by
  constructor
  · rintro ⟨⟨fuel, hfilled⟩, -⟩
    by_contra hend
    have hmax : endPort.toNat = 2 ^ 16 - 1 := by
      have := endPort.toNat_lt
      omega
    rw [h.parse hle, insertVideoPorts_endless hmax] at hfilled
    cases hfilled
  · intro hend
    have hle' := UInt16.le_iff_toNat_le.mp hle
    refine ⟨⟨endPort.toNat + 1 - beginPort.toNat + 1, ?_⟩, popPorts_eq _⟩
    rw [h.parse hle, insertVideoPorts_ok hend _ _ _ (by omega), List.append_nil]
    rfl

-- ---------------------------------------------------------------------------
-- Two ranges
-- ---------------------------------------------------------------------------

theorem writes_range {beginDigits endDigits : Str} {beginPort endPort : UInt16}
    (hbegin : Numeral beginDigits beginPort) (hend : Numeral endDigits endPort)
    (hfits : InStream.digitsValue beginDigits < 2 ^ 16) :
    Writes (beginDigits ++ ':' :: endDigits) beginPort endPort := by
  have hrange := @Writes.range [] beginDigits [] ':' [] endDigits [] _ _ (by simp [Blank])
    (by simp [Blank]) (by simp [Blank]) ⟨by simp [isSpace], by decide⟩ rfl hbegin hend hfits
  simpa using hrange

theorem videoPorts_expand_iff_four :
    Expands ("9001".toList ++ ':' :: "9004".toList) [9001, 9002, 9003, 9004] :=
  (videoPorts_expand_iff _ 9001 9004
    (writes_range ⟨by decide, List.all_eq_true.mp rfl, rfl⟩
      ⟨by decide, List.all_eq_true.mp rfl, rfl⟩ (by decide)) (by decide)).mpr (by decide)

/-- Up to the greatest number the loop never ends. -/
theorem videoPorts_endless :
    Writes ("65530".toList ++ ':' :: "65535".toList) 65530 65535 ∧
      (∀ fuel, parseVideoPorts fuel [] (some ("65530".toList ++ ':' :: "65535".toList)) =
        .error .endlessLoop) ∧
      ¬Expands ("65530".toList ++ ':' :: "65535".toList) (portsFrom 65530 65535) := by
  have hwrites : Writes ("65530".toList ++ ':' :: "65535".toList) 65530 65535 :=
    writes_range ⟨by decide, List.all_eq_true.mp rfl, rfl⟩
      ⟨by decide, List.all_eq_true.mp rfl, rfl⟩ (by decide)
  have hendless : ∀ fuel, parseVideoPorts fuel [] (some ("65530".toList ++ ':' :: "65535".toList)) =
      .error .endlessLoop := by
    intro fuel
    rw [hwrites.parse (by decide), insertVideoPorts_endless rfl]
    rfl
  refine ⟨hwrites, hendless, ?_⟩
  rintro ⟨⟨fuel, hfilled⟩, -⟩
  rw [hendless] at hfilled
  cases hfilled

end ServerGame
