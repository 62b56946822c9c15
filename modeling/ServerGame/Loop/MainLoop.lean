import ServerGame.Com.Framing
import ServerGame.Lib.NextPermutation
import ServerGame.Loop.Zmq
import ServerGame.Proxy.AgentProxy

/-!
# The main loop

`Server::loop` with what it calls: the poll of the channels, the agent socket,
the tic. One turn is the code from one look at the outside to the next, so
messages and signals can come between any two turns. An exception is not
caught anywhere above the loop and ends the run.
-/

namespace ServerGame

open Lib (bind_eq_ok nextPermutation pure_eq_ok)

-- ---------------------------------------------------------------------------
-- Sockets
-- ---------------------------------------------------------------------------

inductive InSocket
  | agentSocket
  | puller
  | replier
  deriving DecidableEq, Repr

/-- The puller is a PULL socket. A REP socket sends between two receptions. -/
def InSocket.isRep : InSocket → Bool
  | .puller => false
  | .agentSocket | .replier => true

/-- What the server does on its sockets. -/
inductive SocketOp
  | received (socket : InSocket) (text : Str)
  | sent (message : Sent)
  /-- A reply without a request: `send` throws, which is caught. -/
  | refused (message : Sent)
  | answered (reply : Str)

def Channel.socket : Channel → InSocket
  | .publish => .puller
  | .reply => .replier

def Channel.lt : Channel → Channel → Bool
  | .publish, .reply => true
  | _, _ => false

-- ---------------------------------------------------------------------------
-- Server
-- ---------------------------------------------------------------------------

inductive Point
  /-- `loop` has not set its flag yet. -/
  | starting
  /-- The condition of the loop, in front of `loopUntilOneMessageIsProcessed`. -/
  | entering
  /-- The condition of the inner loop, where the time is read. -/
  | looping
  /-- `processMessageIfAvailable`, with the channels it has not tried. -/
  | polling (left : List Channel)
  | ticking (currentTic : Instant)
  | ended
  deriving DecidableEq

/-- The game belongs to the server and is kept in the application. -/
structure Server (zmq : Zmq) where
  agentProxy : AgentProxy
  inbox : InSocket → zmq.Inbox := fun _ => zmq.bound
  ticDuration : Int
  previousTic : Instant
  mainLoopRunning : Bool := false
  forcedStop : Bool := false
  channels : List Channel := [.publish, .reply]
  point : Point := .starting

/-- What happens next: a message of a peer comes, a signal is handled, the loop
goes on, where it reads this time if it reads the time. -/
inductive LoopInput
  | arrives (socket : InSocket) (peer : Nat) (text : Str)
  | signal
  | turn (localTime : Instant)

namespace Server

def launch (zmq : Zmq) (agentProxy : AgentProxy) (ticDuration : Int) (previousTic : Instant) :
    Server zmq :=
  { agentProxy, ticDuration, previousTic }

variable {zmq : Zmq}

def game (server : Server zmq) : Game := server.agentProxy.application.game

def state (server : Server zmq) : State := server.agentProxy.application.state

def waiting (server : Server zmq) (socket : InSocket) : Multiset Str :=
  zmq.waiting (server.inbox socket)

def owesReply (server : Server zmq) (socket : InSocket) : Bool :=
  zmq.owesReply (server.inbox socket)

def setInbox (server : Server zmq) (socket : InSocket) (inbox : zmq.Inbox) : Server zmq :=
  { server with inbox := Function.update server.inbox socket inbox }

def arrive (server : Server zmq) (socket : InSocket) (peer : Nat) (text : Str) : Server zmq :=
  server.setInbox socket (zmq.arrive peer text (server.inbox socket))

/-- `Application::stop` calls `Server::stop` when it changes the state, and
nothing else calls it. -/
def setProxy (server : Server zmq) (agentProxy : AgentProxy) : Server zmq :=
  if server.state = .running ∧ agentProxy.application.state = .stopped then
    { server with agentProxy, mainLoopRunning := false, forcedStop := true }
  else { server with agentProxy }

/-- `receiveString` without blocking. With a request still open a REP socket
throws, which is caught. -/
def receiveString (server : Server zmq) (socket : InSocket) : Option (Str × Server zmq) :=
  match zmq.recv socket.isRep (server.inbox socket) with
  | none => none
  | some (text, inbox) => some (text, server.setInbox socket inbox)

def send (server : Server zmq) (message : Sent) : SocketOp × Server zmq :=
  match message.socket with
  | .publisher => (.sent message, server)
  | .replier =>
    match zmq.send (server.inbox .replier) with
    | some inbox => (.sent message, server.setInbox .replier inbox)
    | none => (.refused message, server)

def sendAll (server : Server zmq) : List Sent → List SocketOp × Server zmq
  | [] => ([], server)
  | message :: rest =>
    let (op, server) := server.send message
    let (ops, server) := server.sendAll rest
    (op :: ops, server)

section
variable (env : AgentExternals)

def handle (server : Server zmq) (event : Event) :
    Except Fault (Server zmq × List SocketOp) := do
  let (application, output) ← step env.toExternals server.agentProxy.application event
  match output.escaped with
  | some fault => .error fault
  | none =>
    let (ops, server) :=
      (server.setProxy { server.agentProxy with application }).sendAll output.sent
    return (server, ops)

def feedAgentProxy (localTime : Instant) (server : Server zmq) :
    Except Fault (Server zmq × List SocketOp) :=
  match server.receiveString .agentSocket with
  | none => .ok (server, [])
  | some (message, server) => do
    let stepped ← AgentProxy.step env localTime server.agentProxy message
    let server := server.setProxy stepped.proxy
    match zmq.send (server.inbox .agentSocket) with
    | some inbox => return (server.setInbox .agentSocket inbox,
        [.received .agentSocket message, .answered stepped.reply])
    | none => return (server, [.received .agentSocket message])

def turn (localTime : Instant) (server : Server zmq) :
    Except Fault (Server zmq × List SocketOp) :=
  match server.point with
  | .starting => .ok ({ server with mainLoopRunning := true, point := .entering }, [])
  | .entering =>
    if server.mainLoopRunning then do
      let (server, ops) ← server.feedAgentProxy env localTime
      return ({ server with point := .looping }, ops)
    else .ok ({ server with point := .ended }, [])
  | .looping =>
    if server.forcedStop then .ok ({ server with point := .entering }, [])
    else do
      let (server, ops) ← server.handle env (.clock localTime)
      if (localTime.val : Int) - server.previousTic.val < server.ticDuration then
        return ({ server with point := .polling server.channels }, ops)
      else return ({ server with point := .ticking localTime }, ops)
  | .polling (channel :: left) =>
    match server.receiveString channel.socket with
    | none => .ok ({ server with point := .polling left }, [])
    | some (messageData, server) => do
      let (server, ops) ←
        server.handle env (.message (Socket.parts messageData) channel localTime)
      return ({ server with
          channels := nextPermutation Channel.lt server.channels, point := .entering },
        .received channel.socket messageData :: ops)
  | .polling [] =>
    .ok ({ server with
      channels := nextPermutation Channel.lt server.channels, point := .looping }, [])
  | .ticking currentTic => do
    let (server, fed) ← server.feedAgentProxy env localTime
    let (server, ops) ← server.handle env .tic
    return ({ server with previousTic := currentTic, point := .looping }, fed ++ ops)
  | .ended => .ok (server, [])

def advance (server : Server zmq) : LoopInput → Except Fault (Server zmq × List SocketOp)
  | .arrives socket peer text => .ok (server.arrive socket peer text, [])
  | .signal => server.handle env (.agent .stopApplication 0)
  | .turn localTime => server.turn env localTime

end

end Server

end ServerGame
