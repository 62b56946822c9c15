import Mathlib.Data.Multiset.ZeroCons
import ServerGame.Game.Types

/-!
# What is assumed of ZeroMQ

A socket the server reads holds the messages its peers have sent, each of one
part. In which order those of several peers are handed out is left open, but
none is lost or handed out twice. A REP socket is not read again before the
last request is answered.
-/

namespace ServerGame

structure Zmq where
  /-- The state of a socket. -/
  Inbox : Type
  bound : Inbox
  /-- A message of a peer comes. -/
  arrive (peer : Nat) (text : Str) (inbox : Inbox) : Inbox
  /-- `recv` with `ZMQ_NOBLOCK`, on a REP socket or a PULL socket. -/
  recv (isRep : Bool) (inbox : Inbox) : Option (Str × Inbox)
  /-- `send` on a REP socket. -/
  send (inbox : Inbox) : Option Inbox
  waiting (inbox : Inbox) : Multiset Str
  /-- A request has been received and not answered. -/
  owesReply (inbox : Inbox) : Bool
  waiting_bound : waiting bound = 0
  owesReply_bound : owesReply bound = false
  waiting_arrive (peer : Nat) (text : Str) (inbox : Inbox) :
    waiting (arrive peer text inbox) = text ::ₘ waiting inbox
  owesReply_arrive (peer : Nat) (text : Str) (inbox : Inbox) :
    owesReply (arrive peer text inbox) = owesReply inbox
  recv_eq_none (isRep : Bool) (inbox : Inbox) :
    recv isRep inbox = none ↔ waiting inbox = 0 ∨ owesReply inbox = true
  waiting_recv {isRep : Bool} {inbox inbox' : Inbox} {text : Str}
    (h : recv isRep inbox = some (text, inbox')) : waiting inbox = text ::ₘ waiting inbox'
  owesReply_recv {isRep : Bool} {inbox inbox' : Inbox} {text : Str}
    (h : recv isRep inbox = some (text, inbox')) : owesReply inbox' = isRep
  /-- Only a request can be answered. -/
  send_eq_none (inbox : Inbox) : send inbox = none ↔ owesReply inbox = false
  waiting_send {inbox inbox' : Inbox} (h : send inbox = some inbox') :
    waiting inbox' = waiting inbox
  owesReply_send {inbox inbox' : Inbox} (h : send inbox = some inbox') : owesReply inbox' = false

namespace Zmq

/-- With one peer the messages are handed out in their order. -/
def fifo : Zmq where
  Inbox := List Str × Bool
  bound := ([], false)
  arrive _ text inbox := (inbox.1 ++ [text], inbox.2)
  recv isRep inbox :=
    match inbox with
    | (text :: waiting, false) => some (text, waiting, isRep)
    | _ => none
  send inbox := if inbox.2 then some (inbox.1, false) else none
  waiting inbox := inbox.1
  owesReply inbox := inbox.2
  waiting_bound := rfl
  owesReply_bound := rfl
  waiting_arrive _ text inbox := by
    rw [← Multiset.coe_add, Multiset.add_comm]
    rfl
  owesReply_arrive _ _ _ := rfl
  recv_eq_none isRep inbox := by
    obtain ⟨_ | ⟨text, waiting⟩, _ | _⟩ := inbox <;> simp
  waiting_recv {isRep inbox inbox' text} h := by
    obtain ⟨_ | ⟨text, waiting⟩, _ | _⟩ := inbox <;> cases h
    rfl
  owesReply_recv {isRep inbox inbox' text} h := by
    obtain ⟨_ | ⟨text, waiting⟩, _ | _⟩ := inbox <;> cases h
    rfl
  send_eq_none inbox := by
    cases hopen : inbox.2 <;> simp
  waiting_send {inbox inbox'} h := by
    obtain ⟨waiting, _ | _⟩ := inbox <;> cases h
    rfl
  owesReply_send {inbox inbox'} h := by
    obtain ⟨waiting, _ | _⟩ := inbox <;> cases h
    rfl

variable {zmq : Zmq} {isRep : Bool} {inbox inbox' : zmq.Inbox} {text : Str}

theorem owesReply_of_recv (h : zmq.recv isRep inbox = some (text, inbox')) :
    zmq.owesReply inbox = false := by
  by_contra howes
  have hnone := (zmq.recv_eq_none isRep inbox).mpr (.inr (by simpa using howes))
  rw [hnone] at h
  cases h

end Zmq

end ServerGame
