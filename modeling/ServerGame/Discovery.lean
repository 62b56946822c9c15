import ServerGame.BroadcastServer
import ServerGame.FreshId
import ServerGame.Instantiation
import ServerGame.Proxy.Tokens

/-!
# From discovery to the server

`Application::run` forks: one process answers broadcasts, the other binds the
sockets of the server. Both build the addresses from the same parameters, so a
client that asks learns where the server is.
-/

namespace ServerGame

open Lib (bind_eq_ok pure_eq_ok readBlocks)

variable {param : Parameters}

-- ---------------------------------------------------------------------------
-- Addresses
-- ---------------------------------------------------------------------------

def tcpAddress (port : UInt16) : Str := "tcp://*:".toList ++ decimal port.toNat

inductive BoundSocket
  | agentSocket
  | puller
  | publisher
  | replier
  deriving DecidableEq, Repr

namespace BoundSocket

def port (parameters : CommandLineParameters) : BoundSocket → Option UInt16
  | .agentSocket => parameters.agentPort
  | .puller => parameters.pullerPort
  | .publisher => parameters.publisherPort
  | .replier => parameters.replierPort

/-- The address `initServer` hands to the server for the socket. -/
def address (param : Parameters) (socket : BoundSocket) : Except Fault Str := do
  let port ← valueOf (socket.port param.commandLineParameters)
  return tcpAddress port

def tag : BoundSocket → Char
  | .agentSocket => BroadcastServer.agentTag
  | .puller => BroadcastServer.pullerTag
  | .publisher => BroadcastServer.publisherTag
  | .replier => BroadcastServer.replierTag

def since : BoundSocket → Int
  | .puller | .publisher => 0
  | .replier => 1
  | .agentSocket => 2

end BoundSocket

/-- Without the broadcast option nothing is made. -/
def initBroadcastServer (param : Parameters) : Except Fault (Option BroadcastServer) := do
  if param.commandLineParameters.broadcast ≠ some true then return none
  let publisher ← valueOf param.commandLineParameters.publisherPort
  let puller ← valueOf param.commandLineParameters.pullerPort
  let replier ← valueOf param.commandLineParameters.replierPort
  let agent ← valueOf param.commandLineParameters.agentPort
  let _ ← valueOf param.commandLineParameters.broadcastPort
  return some { pullerUrl := tcpAddress puller, publisherUrl := tcpAddress publisher,
                replierUrl := tcpAddress replier, agentUrl := tcpAddress agent }

theorem tcpAddress_injective : Function.Injective tcpAddress := fun _ _ h =>
  UInt16.toNat_inj.mp (Game.toDigits_injective (List.append_cancel_left h))

theorem decimal_length (port : UInt16) : (decimal port.toNat).length ≤ 5 := by
  have hlt : port.toNat < 10 ^ 5 := port.toNat_lt.trans (by norm_num)
  unfold decimal
  exact (Nat.length_toDigits_le_iff (by norm_num) (by norm_num)).mpr hlt

theorem tcpAddress_length (port : UInt16) : (tcpAddress port).length ≤ 13 := by
  have hscheme : "tcp://*:".toList.length ≤ 8 := by decide
  calc (tcpAddress port).length
      = "tcp://*:".toList.length + (decimal port.toNat).length := List.length_append
    _ ≤ 8 + 5 := Nat.add_le_add hscheme (decimal_length port)

theorem nul_notMem_tcpAddress (port : UInt16) : nul ∉ tcpAddress port := by
  intro hmem
  rcases List.mem_append.mp hmem with hscheme | hdigits
  · exact absurd hscheme (by decide)
  · have hdigit : nul.isDigit = true :=
      Nat.isDigit_of_mem_toDigits (b := 10) (by norm_num) (by norm_num) hdigits
    exact absurd hdigit (by decide)

theorem tcpAddress_plain (port : UInt16) : BroadcastServer.Plain (tcpAddress port) :=
  ⟨(tcpAddress_length port).trans (by norm_num), nul_notMem_tcpAddress port⟩

-- ---------------------------------------------------------------------------
-- Ports
-- ---------------------------------------------------------------------------

theorem pairwise_lt_of_sorted {ports : List UInt16} (hsorted : ports.Pairwise (· ≤ ·))
    (h : hasIdenticalNeighbours ports = false) : ports.Pairwise (· < ·) := by
  induction ports with
  | nil => exact .nil
  | cons left rest ih =>
    rw [List.pairwise_cons] at hsorted
    cases rest with
    | nil => exact List.pairwise_singleton _ _
    | cons right rest =>
      simp only [hasIdenticalNeighbours, Bool.or_eq_false_iff, beq_eq_false_iff_ne] at h
      have hrest := ih hsorted.2 h.2
      have hfirst : left < right :=
        UInt16.lt_of_le_of_ne (hsorted.1 right List.mem_cons_self) h.1
      refine List.pairwise_cons.mpr ⟨fun later hlater => ?_, hrest⟩
      rcases List.mem_cons.mp hlater with rfl | hlater
      · exact hfirst
      · exact UInt16.lt_trans hfirst ((List.pairwise_cons.mp hrest).1 later hlater)

theorem ports_of_accepted (h : checkParametersConsistency param = .ok true) :
    ∃ ports : BoundSocket → UInt16,
      (∀ socket, socket.port param.commandLineParameters = some (ports socket)) ∧
      (∃ broadcast, param.commandLineParameters.broadcastPort = some broadcast) ∧
      (∀ socket, ports socket ≠ 0) ∧ Function.Injective ports := by
  unfold checkParametersConsistency at h
  simp only [bind_eq_ok, valueOf_ok] at h
  obtain ⟨publisher, hpublisher, puller, hpuller, agent, hagent, replier, hreplier, broadcast,
    hbroadcast, h⟩ := h
  split at h
  · cases h
  split at h
  · cases h
  next hneighbours hzero =>
  have hperm := List.perm_insertionSort (· ≤ ·) [publisher, puller, agent, replier, broadcast]
  have hsorted := pairwise_lt_of_sorted (List.pairwise_insertionSort (· ≤ ·) _)
    (Bool.not_eq_true _ ▸ hneighbours)
  have hnodup := hperm.nodup_iff.mp (hsorted.imp UInt16.ne_of_lt)
  rw [hperm.mem_iff] at hzero
  simp only [List.mem_cons, List.not_mem_nil, or_false, not_or] at hzero
  simp only [List.nodup_cons, List.mem_cons, List.not_mem_nil, or_false, not_or] at hnodup
  clear hneighbours h hperm hsorted
  refine ⟨fun socket => match socket with
      | .agentSocket => agent
      | .puller => puller
      | .publisher => publisher
      | .replier => replier, ?_, ⟨broadcast, hbroadcast⟩, ?_, ?_⟩
  · intro socket
    cases socket <;> assumption
  · obtain ⟨hpublisher, hpuller, hagent, hreplier, -⟩ := hzero
    intro socket
    cases socket with
    | agentSocket => exact Ne.symm hagent
    | puller => exact Ne.symm hpuller
    | publisher => exact Ne.symm hpublisher
    | replier => exact Ne.symm hreplier
  · intro socket socket' heq
    cases socket <;> cases socket' <;> simp_all

-- ---------------------------------------------------------------------------
-- What a client reads
-- ---------------------------------------------------------------------------

def announcer (ports : BoundSocket → UInt16) : BroadcastServer where
  pullerUrl := tcpAddress (ports .puller)
  publisherUrl := tcpAddress (ports .publisher)
  replierUrl := tcpAddress (ports .replier)
  agentUrl := tcpAddress (ports .agentSocket)

/-- What is announced to a version: the sockets with their addresses. -/
def announced (ports : BoundSocket → UInt16) (version : Int) : List (Char × Str) :=
  ([.puller, .publisher, .replier, .agentSocket].filter fun socket : BoundSocket =>
    decide (socket.since ≤ version)).map fun socket => (socket.tag, tcpAddress (ports socket))

theorem BoundSocket.tag_injective : Function.Injective BoundSocket.tag := by
  intro socket socket' h
  cases socket <;> cases socket' <;> first | rfl | exact absurd h (by decide)

theorem initBroadcastServer_ok {ports : BoundSocket → UInt16} {broadcast : UInt16}
    (hports : ∀ socket, BoundSocket.port param.commandLineParameters socket = some (ports socket))
    (hbroadcast : param.commandLineParameters.broadcastPort = some broadcast)
    (hoption : param.commandLineParameters.broadcast = some true) :
    initBroadcastServer param = .ok (some (announcer ports)) := by
  have hpuller := hports .puller
  have hpublisher := hports .publisher
  have hreplier := hports .replier
  have hagent := hports .agentSocket
  simp only [BoundSocket.port] at hpuller hpublisher hreplier hagent
  rw [initBroadcastServer, hpuller, hpublisher, hreplier, hagent, hbroadcast, hoption]
  rfl

theorem urlsOf_announcer (ports : BoundSocket → UInt16) (version : Int) :
    (announcer ports).urlsOf version = announced ports version := by
  unfold BroadcastServer.urlsOf announced announcer
  by_cases h0 : version < 0
  · have h1 : ¬(0 : Int) ≤ version := by omega
    have h2 : ¬(1 : Int) ≤ version := by omega
    have h3 : ¬(2 : Int) ≤ version := by omega
    simp [h0, BoundSocket.since, h1, h2, h3]
  · have h1 : (0 : Int) ≤ version := by omega
    by_cases h2 : (1 : Int) ≤ version <;> by_cases h3 : (2 : Int) ≤ version <;>
      simp [h0, BoundSocket.since, BoundSocket.tag, h1, h2, h3]

theorem mem_announced {ports : BoundSocket → UInt16} {version : Int} {socket : BoundSocket}
    {url : Str} : (socket.tag, url) ∈ announced ports version ↔
      socket.since ≤ version ∧ url = tcpAddress (ports socket) := by
  simp only [announced, List.mem_map, List.mem_filter, decide_eq_true_eq, Prod.mk.injEq]
  constructor
  · rintro ⟨found, ⟨-, hsince⟩, htag, rfl⟩
    cases BoundSocket.tag_injective htag
    exact ⟨hsince, rfl⟩
  · rintro ⟨hsince, rfl⟩
    refine ⟨socket, ⟨?_, hsince⟩, rfl, rfl⟩
    cases socket <;> simp

theorem announced_nodup {ports : BoundSocket → UInt16} (hports : Function.Injective ports)
    (version : Int) : ((announced ports version).map Prod.snd).Nodup := by
  rw [announced, List.map_map]
  refine List.Nodup.map (tcpAddress_injective.comp hports) (List.Nodup.filter _ ?_)
  decide

/-- Whatever accepted parameters the program runs with, if only with the
broadcast option, and whatever was received before, a client that sends a short
datagram reads from the answer exactly the sockets of its version, each with the
address the server binds it to; no two addresses are the same, and none leaves
the port open. -/
theorem discovery_leads_to_server (param : Parameters)
    (haccepted : checkParametersConsistency param = .ok true)
    (hoption : param.commandLineParameters.broadcast = some true) (receptions : List (Option Str))
    (hshort : ∀ datagram, some datagram ∈ receptions →
      datagram.length < udpMessageLimit) :
    ∃ broadcast, initBroadcastServer param = .ok (some broadcast) ∧
      ∀ (i : Nat) (datagram : Str), receptions[i]? = some (some datagram) →
        ∃ answer parts, (broadcast.runBroadcastReceiver receptions)[i]? = some (some answer) ∧
          readBlocks Char.toNat answer = some (parts, []) ∧
          (∀ (socket : BoundSocket) (url : Str), (socket.tag, url) ∈ parts ↔
            socket.since ≤ BroadcastServer.versionOf datagram ∧
              socket.address param = .ok url) ∧
          (parts.map Prod.snd).Nodup ∧ ∀ part ∈ parts, part.2 ≠ tcpAddress 0 := by
  obtain ⟨ports, hports, ⟨broadcastPort, hbroadcast⟩, hzero, hinjective⟩ :=
    ports_of_accepted haccepted
  refine ⟨_, initBroadcastServer_ok hports hbroadcast hoption, fun i datagram hdatagram => ?_⟩
  have hplain : (announcer ports).PlainUrls :=
    ⟨tcpAddress_plain _, tcpAddress_plain _, tcpAddress_plain _, tcpAddress_plain _⟩
  refine ⟨(announcer ports).replyTo (BroadcastServer.versionOf datagram),
    announced ports (BroadcastServer.versionOf datagram), ?_, ?_, fun socket url => ?_,
    announced_nodup hinjective _, fun part hpart heq => ?_⟩
  · rw [BroadcastServer.runBroadcastReceiver_eq hshort, List.getElem?_map, hdatagram]
    rfl
  · have hread := BroadcastServer.readBlocks_replyTo hplain (BroadcastServer.versionOf datagram)
    rw [urlsOf_announcer] at hread
    exact hread
  · rw [mem_announced, BoundSocket.address, hports socket]
    simp [valueOf, eq_comm]
  · obtain ⟨socket, -, rfl⟩ := List.mem_map.mp hpart
    exact hzero socket (tcpAddress_injective heq)

theorem discovery_leads_to_server_twoColours :
    ∃ broadcast answer parts, initBroadcastServer (twoColours 2 3) = .ok (some broadcast) ∧
      (broadcast.runBroadcastReceiver [none, some "1".toList])[1]? = some (some answer) ∧
      readBlocks Char.toNat answer = some (parts, []) ∧
      ∀ (socket : BoundSocket) (url : Str), (socket.tag, url) ∈ parts ↔
        socket.since ≤ BroadcastServer.versionOf "1".toList ∧
          socket.address (twoColours 2 3) = .ok url := by
  obtain ⟨broadcast, hbroadcast, hanswers⟩ := discovery_leads_to_server (twoColours 2 3) rfl
    rfl [none, some "1".toList] (by simp [udpMessageLimit])
  obtain ⟨answer, parts, hanswer, hparts, hsockets, -⟩ := hanswers 1 "1".toList rfl
  exact ⟨broadcast, answer, parts, hbroadcast, hanswer, hparts, hsockets⟩

end ServerGame
