import ServerGame.Proxy.Actions

/-!
# AgentProxy

`AgentProxy::step`: one command of an agent, in text mode or, after the prefix
`json`, in JSON mode. The methods that carry the commands out are those of the
server machine.
-/

namespace ServerGame

open Lib (InStream bind_eq_ok pure_eq_ok)

structure AgentProxy where
  application : Application
  outputMode : OutputMode := .text

structure AgentProxy.Stepped where
  result : Bool
  reply : Str
  proxy : AgentProxy

namespace AgentProxy

-- ---------------------------------------------------------------------------
-- Commands
-- ---------------------------------------------------------------------------

section
variable (env : AgentExternals)

def readName (stream : InStream) : Str × InStream := ServerGame.readName env.byteBefore stream

def withName (command : Str → Command) (stream : InStream) : Command × InStream :=
  let (name, stream) := readName env stream
  (command name, stream)

def withProperty (command : Str → Str → Str → Command) (stream : InStream) : Command × InStream :=
  let (name, stream) := readName env stream
  let (property, stream) := stream.readWord []
  let (value, stream) := stream.readWord []
  (command name property value, stream)

def withNameAndTeam (stream : InStream) : Command × InStream :=
  let (name, stream) := readName env stream
  let (team, stream) := readName env stream
  (.addRobot name team, stream)

def withNumber (stream : InStream) : Command × InStream :=
  let (property, stream) := stream.readWord []
  let (value, stream) := stream.readUnsigned (2 ^ 32) env.uninitialised.toNat
  (.setGame property (.ofNat value), stream)

/-- The branch for an action and an object: the method it would call and the
stream behind the arguments it reads. -/
def branch (action object : Str) : Option (InStream → Command × InStream) :=
  if action = "start".toList then
    if object = "game".toList then some fun stream => (.startGame, stream) else none
  else if action = "stop".toList then
    if object = "application".toList then some fun stream => (.stopApplication, stream)
    else if object = "game".toList then some fun stream => (.stopGame, stream)
    else none
  else if action = "add".toList then
    if object = "team".toList then some (withName env .addTeam)
    else if object = "robot".toList then some (withNameAndTeam env)
    else if object = "player".toList then some (withName env .addPlayer)
    else none
  else if action = "remove".toList then
    if object = "team".toList then some (withName env .removeTeam)
    else if object = "robot".toList then some (withName env .removeRobot)
    else if object = "player".toList then some (withName env .removePlayer)
    else none
  else if action = "register".toList then
    if object = "robot".toList then some (withName env .registerRobot) else none
  else if action = "unregister".toList then
    if object = "robot".toList then some (withName env .unregisterRobot) else none
  else if action = "set".toList then
    if object = "game".toList then some (withNumber env)
    else if object = "player".toList then some (withProperty env .setPlayer)
    else if object = "robot".toList then some (withProperty env .setRobot)
    else if object = "team".toList then some (withProperty env .setTeam)
    else none
  else none

variable (localTime : Instant)

/-- `Dispatch`: the method is called when the stream is at its end. -/
def dispatch (proxy : AgentProxy) (command : Command) (stream : InStream) :
    Except Fault Stepped :=
  if stream.eof then do
    let application ← apply env.toExternals localTime proxy.application command
    return { result := true, reply := "OK".toList, proxy := { proxy with application } }
  else .ok { result := false, reply := [], proxy }

-- ---------------------------------------------------------------------------
-- step
-- ---------------------------------------------------------------------------

def textStep (nested : AgentProxy → Str → Except Fault Stepped) (proxy : AgentProxy)
    (command action : Str) (stream : InStream) : Except Fault Stepped :=
  if action = "ping".toList then .ok { result := true, reply := "pong".toList, proxy }
  else if action = "json".toList then
    -- `substr` throws for a position behind the end
    if command.length < "json ".toList.length then .error .outOfRange
    else do
      let stepped ← nested { proxy with outputMode := .json }
        (command.drop "json ".toList.length)
      return { stepped with proxy := { stepped.proxy with outputMode := proxy.outputMode } }
  else
    let (object, stream) := stream.readWord []
    match branch env action object with
    | some read =>
      let (command, stream) := read stream
      dispatch env localTime proxy command stream
    | none => .ok { result := false, reply := [], proxy }

def refuse (stepped : Stepped) : Except Fault Stepped :=
  if stepped.result = false ∧ stepped.reply.isEmpty then
    match stepped.proxy.outputMode with
    | .text => .ok { stepped with reply := ko }
    | .json => do
      let text ← dumped env .null
      return { stepped with reply := text }
  else .ok stepped

/-- `step`, with the call it makes of itself as a parameter. -/
def stepIn (nested : AgentProxy → Str → Except Fault Stepped) (proxy : AgentProxy)
    (command : Str) : Except Fault Stepped := do
  let (action, stream) := (InStream.ofText command).readWord []
  match actionNamed env proxy.outputMode proxy.application.game action with
  | some process =>
    let reply ← process stream
    return { result := reply.isSuccess, reply := reply.reply, proxy }
  | none =>
    let stepped ← match proxy.outputMode with
      | .text => textStep env localTime nested proxy command action stream
      | .json => .ok { result := false, reply := [], proxy }
    refuse env stepped

/-- In JSON mode `step` does not call itself. -/
def step : AgentProxy → Str → Except Fault Stepped :=
  stepIn env localTime (stepIn env localTime fun _ _ => .error .endlessLoop)

end

end AgentProxy

-- ---------------------------------------------------------------------------
-- The externals of the examples
-- ---------------------------------------------------------------------------

mutual

/-- Compact, for texts without characters to escape. -/
def Json.render : Json → Str
  | .null => "null".toList
  | .bool value => if value then "true".toList else "false".toList
  | .number value => decimalInt value
  | .string text => nameQuotes :: text ++ [nameQuotes]
  | .array elements => '[' :: List.intercalate [','] (Json.renderAll elements) ++ [']']
  | .object members =>
    Char.ofNat 123 :: List.intercalate [','] (Json.renderMembers members) ++ [Char.ofNat 125]

def Json.renderAll : List Json → List Str
  | [] => []
  | element :: rest => element.render :: Json.renderAll rest

def Json.renderMembers : List (Str × Json) → List Str
  | [] => []
  | (key, value) :: rest =>
    (nameQuotes :: key ++ nameQuotes :: ':' :: value.render) :: Json.renderMembers rest

end

open Classical in
/-- `dump` of a value with only valid texts is what `render` gives. -/
noncomputable def AgentExternals.plain : AgentExternals :=
  { Externals.plain with
    dump := fun
      | .null => some "null".toList
      | json => if json.IsUtf8 then some json.render else none
    byteBefore := Char.ofNat 0
    uninitialised := 0 }

theorem AgentExternals.plain_documented : DumpDocumented AgentExternals.plain where
  null := rfl
  throws json := by
    have hdump (p : Prop) [Decidable p] (text : Str) :
        (if p then some text else none) = none ↔ ¬p := by simp
    cases json with
    | null => exact iff_of_false nofun (not_not_intro trivial)
    | _ => classical exact hdump _ _

end ServerGame
