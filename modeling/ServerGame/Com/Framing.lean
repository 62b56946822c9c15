import ServerGame.Lib.Cut
import ServerGame.Callbacks.Handlers

/-!
# Message framing

A message on the wire is the routing id, the type and the payload with one
space between them. The payload is never searched, so it can hold any bytes;
the two other parts must not have a space.
-/

namespace ServerGame

open Lib (cut)

-- ---------------------------------------------------------------------------
-- Socket
-- ---------------------------------------------------------------------------

namespace Socket

/-- The string that `Socket::send` hands to `sendString`. -/
def send (message : RawMessage) : Str :=
  message.routingId ++ " ".toList ++ message.type ++ " ".toList ++ message.payload

/-- The parts of a received string; what is not found stays empty. -/
def parts (messageData : Str) : RawMessage :=
  match messageData.find ' ' 0 with
  | none => { routingId := [], type := [], payload := [] }
  | some endDestFlag =>
    let dest := messageData.take endDestFlag
    match messageData.find ' ' (endDestFlag + 1) with
    | none => { routingId := dest, type := [], payload := [] }
    | some endTypeFlag =>
      { routingId := dest
        type := (messageData.drop (endDestFlag + 1)).take (endTypeFlag - endDestFlag - 1)
        payload := messageData.drop (endTypeFlag + 1) }

/-- `Socket::receive`; the message is left alone when nothing has come. -/
def receive (received : Option Str) (message : RawMessage) : Bool × RawMessage :=
  match received with
  | none => (false, message)
  | some messageData => (true, parts messageData)

-- ---------------------------------------------------------------------------
-- The parts of a string
-- ---------------------------------------------------------------------------

variable {messageData dest type payload behind : Str}

theorem find_zero (s : Str) (c : Char) : s.find c 0 = (cut c s).map fun p => p.1.length := by
  simp [Str.find, Lib.findIdx?_eq_cut, Function.comp_def]

theorem find_behind (before : Str) (c : Char) (behind : Str) :
    Str.find (before ++ c :: behind) c (before.length + 1) =
      (cut c behind).map fun p => p.1.length + (before.length + 1) := by
  have hdrop : (before ++ c :: behind).drop (before.length + 1) = behind := by
    rw [List.append_cons, List.drop_left' (by simp)]
  rw [Str.find, hdrop, Lib.findIdx?_eq_cut, Option.map_map]
  rfl

theorem parts_of_none (h : cut ' ' messageData = none) :
    parts messageData = { routingId := [], type := [], payload := [] } := by
  unfold parts
  rw [find_zero, h]
  rfl

theorem parts_of_one (h : cut ' ' messageData = some (dest, behind))
    (hbehind : cut ' ' behind = none) :
    parts messageData = { routingId := dest, type := [], payload := [] } := by
  obtain ⟨rfl, -⟩ := Lib.eq_append_of_cut h
  unfold parts
  rw [find_zero, h]
  simp only [Option.map_some, find_behind, hbehind, Option.map_none]
  rw [List.take_left]

theorem parts_of_two (h : cut ' ' messageData = some (dest, behind))
    (hbehind : cut ' ' behind = some (type, payload)) :
    parts messageData = { routingId := dest, type, payload } := by
  obtain ⟨rfl, -⟩ := Lib.eq_append_of_cut h
  have hdrop : (dest ++ ' ' :: behind).drop (dest.length + 1) = behind := by
    rw [List.append_cons, List.drop_left' (by simp)]
  unfold parts
  rw [find_zero, h]
  simp only [Option.map_some, find_behind, hbehind]
  obtain ⟨rfl, -⟩ := Lib.eq_append_of_cut hbehind
  have hpayload : (dest ++ ' ' :: (type ++ ' ' :: payload)).drop
      (type.length + (dest.length + 1) + 1) = payload := by
    rw [Nat.add_right_comm, Nat.add_comm _ (dest.length + 1), ← List.drop_drop, hdrop,
      List.append_cons, List.drop_left' (by simp)]
  rw [hdrop, hpayload, List.take_left,
    show type.length + (dest.length + 1) - dest.length - 1 = type.length by omega, List.take_left]

theorem parts_send (hdest : ' ' ∉ dest) (htype : ' ' ∉ type) (payload : Str) :
    parts (send { routingId := dest, type, payload }) = { routingId := dest, type, payload } := by
  have hsend : send { routingId := dest, type, payload } =
      dest ++ ' ' :: (type ++ ' ' :: payload) := by simp [send]
  rw [hsend]
  exact parts_of_two (Lib.cut_append hdest _) (Lib.cut_append htype payload)

theorem send_parts (h : 2 ≤ messageData.count ' ') : send (parts messageData) = messageData := by
  cases hcut : cut ' ' messageData with
  | none => simp [List.count_eq_zero.mpr (Lib.cut_eq_none_iff.mp hcut)] at h
  | some found =>
    obtain ⟨dest, behind⟩ := found
    have hcount := Lib.count_of_cut hcut
    cases hbehind : cut ' ' behind with
    | none =>
      have hnone := List.count_eq_zero.mpr (Lib.cut_eq_none_iff.mp hbehind)
      omega
    | some rest =>
      obtain ⟨type, payload⟩ := rest
      rw [parts_of_two hcut hbehind, (Lib.eq_append_of_cut hcut).1,
        (Lib.eq_append_of_cut hbehind).1]
      simp [send]

theorem parts_of_count_lt (h : messageData.count ' ' < 2) :
    (parts messageData).type = [] ∧ (parts messageData).payload = [] := by
  cases hcut : cut ' ' messageData with
  | none =>
    rw [parts_of_none hcut]
    exact ⟨rfl, rfl⟩
  | some found =>
    obtain ⟨dest, behind⟩ := found
    have hcount := Lib.count_of_cut hcut
    have hbehind : cut ' ' behind = none :=
      Lib.cut_eq_none_iff.mpr (List.count_eq_zero.mp (by omega))
    rw [parts_of_one hcut hbehind]
    exact ⟨rfl, rfl⟩

theorem routingId_parts (messageData : Str) : ' ' ∉ (parts messageData).routingId := by
  cases hcut : cut ' ' messageData with
  | none =>
    rw [parts_of_none hcut]
    exact List.not_mem_nil
  | some found =>
    obtain ⟨dest, behind⟩ := found
    have hdest := (Lib.eq_append_of_cut hcut).2
    cases hbehind : cut ' ' behind with
    | none => rwa [parts_of_one hcut hbehind]
    | some rest => rwa [parts_of_two hcut hbehind]

end Socket

-- ---------------------------------------------------------------------------
-- What the handlers send
-- ---------------------------------------------------------------------------

theorem Body.space_not_mem_type (body : Body) : ' ' ∉ body.type := by
  cases body <;> dsimp only [Body.type] <;> decide

variable {env : Externals} {channel : Channel} {id : Str} {game : Game} {sent : Sent}

theorem routingId_of_mem {answer : Sent} (hanswer : answer.routingId = id)
    (h : sent ∈ [answer]) : sent.routingId = id := by
  rwa [List.mem_singleton.mp h]

theorem ProcessHello.execute_routingId {hello : Hello} {localTime : Ptime}
    (h : sent ∈ (execute env channel id hello localTime game).sent) : sent.routingId = id := by
  unfold execute executeWith at h
  split at h
  next added game =>
  split at h
  · split at h
    · split at h
      · exact absurd h List.not_mem_nil
      · dsimp only at h
        split at h
        · exact absurd h List.not_mem_nil
        · split at h
          · exact routingId_of_mem rfl h
          · exact routingId_of_mem rfl h
    · split at h
      · exact absurd h List.not_mem_nil
      · exact routingId_of_mem rfl h
  · exact routingId_of_mem rfl h

theorem ProcessRegister.execute_routingId {register : Register}
    (h : sent ∈ (execute channel id register game).sent) : sent.routingId = id := by
  unfold execute at h
  split at h
  · exact absurd h List.not_mem_nil
  · dsimp only at h
    split at h
    · exact routingId_of_mem rfl h
    · exact absurd h List.not_mem_nil
  · exact routingId_of_mem rfl h

theorem ProcessInput.execute_routingId {input : Input}
    (h : sent ∈ (execute id input game).sent) : sent.routingId = id := by
  unfold execute at h
  split at h
  · split at h
    · exact absurd h List.not_mem_nil
    · exact routingId_of_mem rfl h
  · exact absurd h List.not_mem_nil

theorem ProcessRobotState.execute_routingId {message : ServerRobotState}
    (h : sent ∈ (execute env id message game).sent) : sent.routingId = id := by
  unfold execute at h
  split at h
  · exact absurd h List.not_mem_nil
  · dsimp only at h
    split at h
    · exact absurd h List.not_mem_nil
    · obtain ⟨state, -, rfl⟩ := List.mem_map.mp h
      rfl

namespace ProcessDecider

def handledTypes : List Str :=
  ["Hello".toList, "Input".toList, "ServerRobotState".toList, "Ping".toList, "Pong".toList,
    "Register".toList]

variable {message : RawMessage} {localTime : Instant}

theorem process_of_not_handled (h : message.type ∉ handledTypes) :
    process env message channel localTime game = { game } := by
  simp only [handledTypes, List.mem_cons, List.not_mem_nil, or_false, not_or] at h
  obtain ⟨hhello, hinput, hstate, hping, hpong, hregister⟩ := h
  simp only [process, hhello, hinput, hstate, hping, hpong, hregister, ↓reduceIte]

theorem process_routingId (h : sent ∈ (process env message channel localTime game).sent) :
    sent.routingId = message.routingId := by
  unfold process at h
  split at h
  · exact ProcessHello.execute_routingId h
  split at h
  · exact ProcessInput.execute_routingId h
  split at h
  · exact ProcessRobotState.execute_routingId h
  split at h
  · exact routingId_of_mem rfl h
  split at h
  · exact routingId_of_mem rfl h
  split at h
  · exact ProcessRegister.execute_routingId h
  · exact absurd h List.not_mem_nil

end ProcessDecider

-- ---------------------------------------------------------------------------
-- There and back
-- ---------------------------------------------------------------------------

/-- Sending and receiving undo each other, a string with fewer than two spaces
is a message nobody handles, and every answer to a received message can be sent
so that it is received as it was. -/
theorem Socket.receive_send (env : Externals) (message : RawMessage) :
    (∀ r t p : Str, ' ' ∉ r → ' ' ∉ t →
      receive (some (send ⟨r, t, p⟩)) message = (true, ⟨r, t, p⟩)) ∧
    (∀ s : Str, 2 ≤ s.count ' ' → send (receive (some s) message).2 = s) ∧
    (∀ s : Str, s.count ' ' < 2 →
      (receive (some s) message).2.type = [] ∧ (receive (some s) message).2.payload = [] ∧
      (receive (some s) message).2.type ∉ ProcessDecider.handledTypes ∧
      ∀ channel localTime game,
        ProcessDecider.process env (receive (some s) message).2 channel localTime game =
          { game }) ∧
    ∀ (s : Str) channel localTime game, ∀ sent ∈
      (ProcessDecider.process env (receive (some s) message).2 channel localTime game).sent,
      sent.routingId = (receive (some s) message).2.routingId ∧ ' ' ∉ sent.routingId ∧
        ' ' ∉ sent.body.type := by
  refine ⟨fun r t p hr ht => ?_, fun s hs => send_parts hs, fun s hs => ?_,
    fun s channel localTime game sent hsent => ?_⟩
  · rw [receive, parts_send hr ht]
  · obtain ⟨htype, hpayload⟩ := parts_of_count_lt hs
    have hnone : (receive (some s) message).2.type ∉ ProcessDecider.handledTypes := by
      change (parts s).type ∉ _
      rw [htype]
      decide
    exact ⟨htype, hpayload, hnone, fun channel localTime game =>
      ProcessDecider.process_of_not_handled hnone⟩
  · have hid := ProcessDecider.process_routingId hsent
    exact ⟨hid, hid ▸ routingId_parts s, sent.body.space_not_mem_type⟩

end ServerGame
