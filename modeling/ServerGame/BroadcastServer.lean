import ServerGame.Game.Types
import ServerGame.Lib.Blocks
import ServerGame.Lib.Stream

/-!
# Discovery

The loop of `BroadcastServer::runBroadcastReceiver`. One buffer serves all
datagrams: each overwrites its first bytes, and just these are cleared again.
The answer holds the URLs of the version that was asked for.
-/

namespace ServerGame

open Lib (blocks readBlocks)

-- ---------------------------------------------------------------------------
-- C strings
-- ---------------------------------------------------------------------------

def nul : Char := Char.ofNat 0

def cString (bytes : Str) : Str := bytes.takeWhile (· ≠ nul)

/-- `strtol`: blanks, a sign and the digits after it, as near to the number as
a `long` comes. -/
def strtol (text : Str) : Int :=
  let (negative, digits) := Lib.InStream.readSign (Lib.skipSpaces text)
  let value : Int := Lib.InStream.digitsValue (digits.takeWhile Char.isDigit)
  max (-2 ^ 63) (min (2 ^ 63 - 1) (if negative then -value else value))

/-- The C library cuts the `long` to an `int`. -/
def atoi (text : Str) : Int32 := .ofInt (strtol text)

-- ---------------------------------------------------------------------------
-- BroadcastServer
-- ---------------------------------------------------------------------------

structure BroadcastServer where
  pullerUrl : Str
  publisherUrl : Str
  replierUrl : Str
  agentUrl : Str
  deriving DecidableEq, Repr

def udpMessageLimit : Nat := 512

def emptyBuffer : Str := List.replicate udpMessageLimit nul

namespace BroadcastServer

def pullerTag : Char := Char.ofNat 0xA0
def publisherTag : Char := Char.ofNat 0xA1
def replierTag : Char := Char.ofNat 0xA2
def agentTag : Char := Char.ofNat 0xA3

/-- A URL as it is written: the tag, the size as a `uint8_t`, the C string. -/
def writeUrl (tag : Char) (url : Str) : Str :=
  tag :: Char.ofNat (url.length % 256) :: cString url

def replyTo (server : BroadcastServer) (version : Int) : Str :=
  (if 0 ≤ version then
    writeUrl pullerTag server.pullerUrl ++ writeUrl publisherTag server.publisherUrl else []) ++
  (if 1 ≤ version then writeUrl replierTag server.replierUrl else []) ++
  (if 2 ≤ version then writeUrl agentTag server.agentUrl else []) ++ [nul]

/-- `recvfrom` writes the bytes it returns the number of, at most as many as fit
in. -/
def recvfrom (datagram buffer : Str) : Nat × Str :=
  let received := datagram.take udpMessageLimit
  (received.length, received ++ buffer.drop received.length)

/-- One turn of the loop, with a datagram or a time-out: the buffer after it
and what is sent. -/
def turn (server : BroadcastServer) (buffer : Str) : Option Str → Str × Option Str
  | none => (buffer, none)
  | some datagram =>
    let (readSize, buffer) := recvfrom datagram buffer
    if 0 < readSize then
      (List.replicate readSize nul ++ buffer.drop readSize,
        some (server.replyTo (atoi (cString buffer)).toInt))
    else (buffer, some (server.replyTo 0))

def bufferAfter (server : BroadcastServer) (receptions : List (Option Str)) : Str :=
  receptions.foldl (fun buffer reception => (server.turn buffer reception).1) emptyBuffer

def answers (server : BroadcastServer) : Str → List (Option Str) → List (Option Str)
  | _, [] => []
  | buffer, reception :: receptions =>
    (server.turn buffer reception).2 ::
      server.answers (server.turn buffer reception).1 receptions

def runBroadcastReceiver (server : BroadcastServer) (receptions : List (Option Str)) :
    List (Option Str) :=
  server.answers emptyBuffer receptions

-- ---------------------------------------------------------------------------
-- What is promised
-- ---------------------------------------------------------------------------

def versionOf (datagram : Str) : Int := (atoi (cString datagram)).toInt

def urlsOf (server : BroadcastServer) (version : Int) : List (Char × Str) :=
  if version < 0 then []
  else
    [(pullerTag, server.pullerUrl), (publisherTag, server.publisherUrl)] ++
      (if 1 ≤ version then [(replierTag, server.replierUrl)] else []) ++
      if 2 ≤ version then [(agentTag, server.agentUrl)] else []

/-- At most 255 bytes, none of them the end of a C string. -/
def Plain (url : Str) : Prop := url.length ≤ 255 ∧ nul ∉ url

structure PlainUrls (server : BroadcastServer) : Prop where
  puller : Plain server.pullerUrl
  publisher : Plain server.publisherUrl
  replier : Plain server.replierUrl
  agent : Plain server.agentUrl

variable {server : BroadcastServer}

-- ---------------------------------------------------------------------------
-- The buffer
-- ---------------------------------------------------------------------------

theorem cString_of_notMem {text : Str} (h : nul ∉ text) : cString text = text := by
  refine List.takeWhile_eq_self_iff.mpr fun c hc => ?_
  exact decide_eq_true (ne_of_mem_of_not_mem hc h)

theorem cString_append_nul (text : Str) (n : Nat) :
    cString (text ++ List.replicate (n + 1) nul) = cString text := by
  unfold cString
  rw [List.takeWhile_append]
  split
  · next hall =>
    rw [List.replicate_succ, List.takeWhile_cons_of_neg (by simp), List.append_nil]
    exact ((List.takeWhile_prefix _).eq_of_length hall).symm
  · rfl

theorem recvfrom_empty {datagram : Str} (h : datagram.length < udpMessageLimit) :
    recvfrom datagram emptyBuffer = (datagram.length,
      datagram ++ List.replicate (udpMessageLimit - datagram.length) nul) := by
  rw [recvfrom, List.take_of_length_le h.le, emptyBuffer, List.drop_replicate]

theorem turn_empty (server : BroadcastServer) {reception : Option Str}
    (h : ∀ datagram, reception = some datagram → datagram.length < udpMessageLimit) :
    server.turn emptyBuffer reception =
      (emptyBuffer, reception.map fun datagram => server.replyTo (versionOf datagram)) := by
  cases reception with
  | none => rfl
  | some datagram =>
    have hshort := h datagram rfl
    rw [turn, recvfrom_empty hshort]
    by_cases hempty : datagram = []
    · subst hempty
      rfl
    · have hpos : 0 < datagram.length := List.length_pos_iff.mpr hempty
      obtain ⟨n, hn⟩ : ∃ n, udpMessageLimit - datagram.length = n + 1 :=
        ⟨udpMessageLimit - datagram.length - 1, by omega⟩
      have hcleared : List.replicate datagram.length nul ++ List.replicate (n + 1) nul =
          emptyBuffer := by
        rw [← List.replicate_add, ← hn, Nat.add_sub_cancel' hshort.le, emptyBuffer]
      simp only [hpos, ↓reduceIte, hn, List.drop_left, cString_append_nul, hcleared]
      rfl

section
variable {receptions : List (Option Str)}
  (hshort : ∀ datagram, some datagram ∈ receptions → datagram.length < udpMessageLimit)
include hshort

theorem bufferAfter_empty (server : BroadcastServer) :
    server.bufferAfter receptions = emptyBuffer := by
  induction receptions with
  | nil => rfl
  | cons reception receptions ih =>
    have hfirst := @turn_empty server reception fun datagram h =>
      hshort datagram (h ▸ List.mem_cons_self)
    rw [bufferAfter, List.foldl_cons, hfirst]
    exact ih fun datagram h => hshort datagram (List.mem_cons_of_mem _ h)

theorem runBroadcastReceiver_eq (server : BroadcastServer) :
    server.runBroadcastReceiver receptions =
      receptions.map (Option.map fun datagram => server.replyTo (versionOf datagram)) := by
  induction receptions with
  | nil => rfl
  | cons reception receptions ih =>
    have hfirst := @turn_empty server reception fun datagram h =>
      hshort datagram (h ▸ List.mem_cons_self)
    have hrest := ih fun datagram h => hshort datagram (List.mem_cons_of_mem _ h)
    simp [runBroadcastReceiver, answers, hfirst, List.map_cons, ← hrest]

end

-- ---------------------------------------------------------------------------
-- The answer
-- ---------------------------------------------------------------------------

theorem toNat_ofNat {n : Nat} (h : n ≤ 255) : (Char.ofNat n).toNat = n := by
  have hvalid : n.isValidChar := .inl (by omega)
  simp [Char.ofNat, dif_pos hvalid]

theorem writeUrl_of_plain {url : Str} (h : Plain url) (tag : Char) :
    writeUrl tag url = Lib.block Char.ofNat tag url := by
  rw [writeUrl, Lib.block, cString_of_notMem h.2, Nat.mod_eq_of_lt (Nat.lt_succ_of_le h.1)]

theorem replyTo_of_plain (h : PlainUrls server) (version : Int) :
    server.replyTo version = blocks Char.ofNat (server.urlsOf version) ++ [nul] := by
  unfold replyTo urlsOf
  rw [writeUrl_of_plain h.puller, writeUrl_of_plain h.publisher, writeUrl_of_plain h.replier,
    writeUrl_of_plain h.agent]
  by_cases hsign : version < 0
  · rw [if_pos hsign, if_neg (by omega), if_neg (by omega), if_neg (by omega)]
    rfl
  · rw [if_neg hsign, if_pos (by omega)]
    split <;> split <;> simp [blocks]

theorem urlsOf_plain (h : PlainUrls server) (version : Int) :
    ∀ part ∈ server.urlsOf version, part.1.toNat ≠ 0 ∧ part.2.length ≤ 255 := by
  intro part hpart
  have hcases : part = (pullerTag, server.pullerUrl) ∨ part = (publisherTag, server.publisherUrl) ∨
      part = (replierTag, server.replierUrl) ∨ part = (agentTag, server.agentUrl) := by
    unfold urlsOf at hpart
    split at hpart
    · cases hpart
    · split at hpart <;> split at hpart <;> simp at hpart <;> tauto
  rcases hcases with rfl | rfl | rfl | rfl
  · exact ⟨show pullerTag.toNat ≠ 0 by decide, h.puller.1⟩
  · exact ⟨show publisherTag.toNat ≠ 0 by decide, h.publisher.1⟩
  · exact ⟨show replierTag.toNat ≠ 0 by decide, h.replier.1⟩
  · exact ⟨show agentTag.toNat ≠ 0 by decide, h.agent.1⟩

theorem readBlocks_replyTo (h : PlainUrls server) (version : Int) :
    readBlocks Char.toNat (server.replyTo version) = some (server.urlsOf version, []) := by
  rw [replyTo_of_plain h]
  exact Lib.readBlocks_blocks (fun part hpart => (urlsOf_plain h version part hpart).1)
    (fun part hpart => toNat_ofNat (urlsOf_plain h version part hpart).2) rfl []

/-- With short datagrams the buffer is empty before each turn, every answer is
to the version of the datagram it answers, and with plain URLs it can be read
back block by block. -/
theorem runBroadcastReceiver_answers (server : BroadcastServer) (receptions : List (Option Str))
    (hshort : ∀ datagram, some datagram ∈ receptions → datagram.length < udpMessageLimit) :
    (∀ before after, receptions = before ++ after → server.bufferAfter before = emptyBuffer) ∧
    server.runBroadcastReceiver receptions =
      receptions.map (Option.map fun datagram => server.replyTo (versionOf datagram)) ∧
    (PlainUrls server → ∀ version,
      readBlocks Char.toNat (server.replyTo version) = some (server.urlsOf version, [])) := by
  refine ⟨fun before after heq => ?_, runBroadcastReceiver_eq hshort server,
    fun hplain version => readBlocks_replyTo hplain version⟩
  subst heq
  exact bufferAfter_empty (fun datagram h => hshort datagram (List.mem_append_left _ h)) server

def fourUrls : BroadcastServer := ⟨"p".toList, "q".toList, "r".toList, "s".toList⟩

/-- A datagram for version 2, a time-out and an empty datagram. -/
theorem runBroadcastReceiver_answers_shorter :
    fourUrls.runBroadcastReceiver [some "2 and more".toList, none, some []] =
      [some (fourUrls.replyTo 2), none, some (fourUrls.replyTo 0)] := by
  have hversion : versionOf "2 and more".toList = 2 := rfl
  rw [(runBroadcastReceiver_answers fourUrls [some "2 and more".toList, none, some []] ?_).2.1]
  · rw [List.map_cons, Option.map_some, hversion]
    rfl
  · intro datagram h
    simp only [List.mem_cons, Option.some.injEq, reduceCtorEq, List.not_mem_nil, or_false,
      false_or] at h
    rcases h with rfl | rfl <;> decide

end BroadcastServer

end ServerGame
