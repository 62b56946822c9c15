import ServerGame.Proxy.Commands

/-!
# What JSON mode is asked for

The three actions of the map read as requests, without their messages: what a
request is does not depend on the blanks before it, and it says whether an
answer gets through.
-/

namespace ServerGame

open Lib (InStream skipSpaces)

-- ---------------------------------------------------------------------------
-- Requests
-- ---------------------------------------------------------------------------

inductive Request
  /-- A null value: not an action of the map, or an unknown property. -/
  | null
  /-- A failure with a message. -/
  | message
  /-- A document, and what `dump` throws is let out. -/
  | document (json : Except Fault Json)
  /-- A value, and what `dump` throws is caught. -/
  | value (json : Except Fault Json)
  /-- A failure without a reply. -/
  | nothing

namespace Request

def Answerable : Request → Prop
  | .null | .message => True
  | .document json | .value json => ∃ value, json = .ok value ∧ value.IsUtf8
  | .nothing => False

variable (env : AgentExternals) (game : Game)

def ofList (stream : InStream) : Request :=
  let (object, stream) := stream.readWord []
  if stream.eof then
    match listingOf game object with
    | some listing => .document listing.document
    | none => .message
  else .message

def ofView (stream : InStream) : Request :=
  let (object, stream) := stream.readWord []
  if object = "team".toList then
    let (name, stream) := readName env.byteBefore stream
    if stream.eof then .document (.ok (teamDocument game (game.getTeam name))) else .message
  else .message

/-- The only property of an object that JSON mode knows. -/
def ofProperty (known : Str) (value : Json) (property : Str) : Request :=
  if property = known then .value (.ok (.object [(property, value)])) else .null

def ofRobot (name : Str) (property : Option Str) : Request :=
  match game.accessRobot name with
  | .error _ => .nothing
  | .ok r =>
    match property with
    | some property => ofProperty "id".toList (.string (game.robot r).robotId) property
    | none => .value (game.robotJson r)

def ofTeam (name : Str) (property : Option Str) : Request :=
  let team := game.getTeam name
  if team.name.isEmpty then .nothing
  else
    match property with
    | some property => ofProperty "score".toList (.number team.score.toNat) property
    | none => .null

def ofPlayer (name : Str) (property : Option Str) : Request :=
  match game.accessPlayer name with
  | .error _ => .nothing
  | .ok p =>
    match property with
    | some property => ofProperty "address".toList (.string (game.player p).address) property
    | none => .value (.ok (game.playerJson p))

def ofGet (query : GetQuery) : Request :=
  if query.object = "game".toList then .document (.ok (gameDocument game))
  else if query.object = "robot".toList then ofRobot game query.name query.property
  else if query.object = "team".toList then ofTeam game query.name query.property
  else if query.object = "player".toList then ofPlayer game query.name query.property
  else .nothing

def ofAction (action : Str) (stream : InStream) : Request :=
  if action = "list".toList then ofList game stream
  else if action = "view".toList then ofView env game stream
  else if action = "get".toList then ofGet game (GetAction.read env stream)
  else .null

def ofText (text : Str) : Request :=
  ofAction env game (AgentProxy.firstToken text) (AgentProxy.afterToken text)

end Request

-- ---------------------------------------------------------------------------
-- Blanks
-- ---------------------------------------------------------------------------

section
variable {env : AgentExternals} {game : Game} {stream : InStream} {text text' : Str}

theorem readNameLoop_withText {byteBefore : Char} {fuel : Nat} {result fragment : Str} :
    readNameLoop byteBefore fuel result fragment (stream.withText text) =
      ((readNameLoop byteBefore fuel result fragment stream).1,
        (readNameLoop byteBefore fuel result fragment stream).2.withText text) := by
  induction fuel generalizing result fragment stream with
  | zero => rfl
  | succ fuel ih =>
    simp only [readNameLoop, InStream.withText_good, InStream.readWord_withText]
    split
    · split
      · rfl
      · exact ih
    · rfl

@[simp] theorem readName_withText {byteBefore : Char} :
    readName byteBefore (stream.withText text) =
      ((readName byteBefore stream).1, (readName byteBefore stream).2.withText text) := by
  simp only [readName, InStream.readWord_withText, InStream.withText_rest]
  split
  · exact readNameLoop_withText
  · rfl

theorem GetAction.read_withText :
    GetAction.read env (stream.withText text) =
      { GetAction.read env stream with
        text := (GetAction.read env (stream.withText text)).text } := by
  simp only [GetAction.read, InStream.readWord_withText]
  split <;> simp

theorem Request.ofAction_withText {action : Str} :
    Request.ofAction env game action (stream.withText text) =
      Request.ofAction env game action stream := by
  have hget : Request.ofGet game (GetAction.read env (stream.withText text)) =
      Request.ofGet game (GetAction.read env stream) := by
    rw [GetAction.read_withText]
    rfl
  simp only [Request.ofAction, Request.ofList, Request.ofView, InStream.readWord_withText,
    InStream.withText_eof, readName_withText, hget]

theorem Request.ofText_skipSpaces :
    Request.ofText env game (skipSpaces text) = Request.ofText env game text := by
  simp only [Request.ofText, AgentProxy.firstToken, AgentProxy.afterToken,
    InStream.readWord_ofText_skipSpaces, Request.ofAction_withText]

theorem Request.ofText_congr (h : skipSpaces text = skipSpaces text') :
    Request.ofText env game text = Request.ofText env game text' := by
  rw [← Request.ofText_skipSpaces, h, Request.ofText_skipSpaces]

end

-- ---------------------------------------------------------------------------
-- What JSON mode answers
-- ---------------------------------------------------------------------------

def nullText : Str := "null".toList

inductive Request.Gives (env : AgentExternals) : Request → Except Fault (Bool × Str) → Prop
  | null : Gives env .null (.ok (false, nullText))
  | message {text} (hne : text ≠ []) (hnull : text ≠ nullText) :
      Gives env .message (.ok (false, text))
  | document {json text} (h : env.dump json = some text) :
      Gives env (.document (.ok json)) (.ok (true, text))
  | documentThrows {json} (h : env.dump json = none) :
      Gives env (.document (.ok json)) (.error .typeError)
  | documentFaults {fault} : Gives env (.document (.error fault)) (.error fault)
  | value {json text} (h : env.dump json = some text) :
      Gives env (.value (.ok json)) (.ok (true, text))
  | valueThrows {json} (h : env.dump json = none) : Gives env (.value (.ok json)) (.ok (false, []))
  | valueFaults {fault} : Gives env (.value (.error fault)) (.error fault)
  | nothing : Gives env .nothing (.ok (false, []))

section
variable {env : AgentExternals} {request : Request} {given : Except Fault (Bool × Str)}

theorem DumpDocumented.utf8_iff (hdoc : DumpDocumented env) {json : Json} {given : Option Str}
    (h : env.dump json = given) : json.IsUtf8 ↔ given.isSome = true := by
  rw [← not_iff_not, ← hdoc.throws, h, Option.not_isSome_iff_eq_none]

theorem Request.Gives.answerable_iff (hdoc : DumpDocumented env) (h : request.Gives env given) :
    request.Answerable ↔
      ∃ result reply, given = .ok (result, reply) ∧ ¬(result = false ∧ reply = []) := by
  cases h with
  | null => simp [Answerable, nullText]
  | message hne => simp [Answerable, hne]
  | document h => simp [Answerable, hdoc.utf8_iff h]
  | documentThrows h => simp [Answerable, hdoc.utf8_iff h]
  | documentFaults => simp [Answerable]
  | value h => simp [Answerable, hdoc.utf8_iff h]
  | valueThrows h => simp [Answerable, hdoc.utf8_iff h]
  | valueFaults => simp [Answerable]
  | nothing => simp [Answerable]

theorem Request.Gives.null_iff (h : request.Gives env given) :
    request = .null ↔ given = .ok (false, nullText) := by
  cases h with
  | message _ hnull => simp [hnull]
  | _ => simp [nullText]

end

def answer (reply : Except Fault Reply) : Except Fault (Bool × Str) := do
  let reply ← reply
  return (reply.isSuccess, reply.reply)

namespace Request

variable {env : AgentExternals} {game : Game} {stream : InStream}

theorem gives_document (json : Except Fault Json) :
    Gives env (.document json) (answer do
      let json ← json
      let text ← dumped env json
      return Reply.assign {} text) := by
  cases json with
  | error fault => exact .documentFaults
  | ok json =>
    cases hdump : env.dump json with
    | none => simpa [answer, dumped, hdump] using .documentThrows hdump
    | some text => simpa [answer, dumped, hdump] using .document hdump

theorem gives_value (json : Except Fault Json) :
    Gives env (.value json) (answer do
      let json ← json
      return Reply.assignDump env {} json) := by
  cases json with
  | error fault => exact .valueFaults
  | ok json =>
    cases hdump : env.dump json with
    | none => simpa [answer, Reply.assignDump, hdump] using .valueThrows hdump
    | some text => simpa [answer, Reply.assignDump, hdump] using .value hdump

theorem gives_null (hdoc : DumpDocumented env) :
    Gives env .null (answer (.ok (Reply.assignDump env (Reply.fail {}) .null))) := by
  simp only [answer, Reply.assignDump, hdoc.null]
  exact .null

theorem gives_message {first : Char} {rest : Str} (h : first ≠ 'n') :
    Gives env .message (answer (.ok (.failWith (first :: rest)))) := by
  refine .message (List.cons_ne_nil _ _) fun hnull => ?_
  exact h (List.cons.inj hnull).1

theorem gives_list :
    Gives env (ofList game stream) (answer (ListAction.process env .json game stream)) := by
  unfold ofList ListAction.process
  dsimp only
  split
  · cases listingOf game (stream.readWord []).1 with
    | none => exact gives_message (by decide)
    | some listing => exact gives_document listing.document
  · exact gives_message (by decide)

theorem gives_view :
    Gives env (ofView env game stream) (answer (ViewAction.process env .json game stream)) := by
  unfold ofView ViewAction.process
  dsimp only
  split
  · split
    · exact gives_document (.ok _)
    · exact gives_message (by decide)
  · exact gives_message (by decide)

theorem gives_property (hdoc : DumpDocumented env) (known : Str) (value : Json) (property : Str) :
    Gives env (ofProperty known value property) (answer (.ok
      (if property = known then Reply.assignDump env {} (.object [(property, value)])
      else Reply.assignDump env (Reply.fail {}) .null))) := by
  unfold ofProperty
  split
  · exact gives_value (.ok _)
  · exact gives_null hdoc

theorem gives_robot (hdoc : DumpDocumented env) (name : Str) (property : Option Str) :
    Gives env (ofRobot game name property) (answer (getRobot env .json game name property)) := by
  unfold ofRobot getRobot
  cases game.accessRobot name with
  | error => exact .nothing
  | ok r =>
    cases property with
    | some property => exact gives_property hdoc _ _ property
    | none => exact gives_value (game.robotJson r)

theorem gives_team (hdoc : DumpDocumented env) (name : Str) (property : Option Str) :
    Gives env (ofTeam game name property)
      (answer (.ok (getTeamReply env .json game name property))) := by
  unfold ofTeam getTeamReply
  dsimp only
  split
  · exact .nothing
  · cases property with
    | some property => exact gives_property hdoc _ _ property
    | none => exact gives_null hdoc

theorem gives_player (hdoc : DumpDocumented env) (name : Str) (property : Option Str) :
    Gives env (ofPlayer game name property)
      (answer (.ok (getPlayer env .json game name property))) := by
  unfold ofPlayer getPlayer
  cases game.accessPlayer name with
  | error => exact .nothing
  | ok p =>
    cases property with
    | some property => exact gives_property hdoc _ _ property
    | none => exact gives_value (.ok _)

theorem gives_get (hdoc : DumpDocumented env) (query : GetQuery) :
    Gives env (ofGet game query) (answer (GetAction.answer env .json game query)) := by
  unfold ofGet GetAction.answer
  by_cases hgame : query.object = "game".toList
  · simp only [hgame, and_self, if_true]
    exact gives_document (.ok _)
  · simp only [hgame, false_and, if_false]
    split
    · exact gives_robot hdoc _ _
    · split
      · exact gives_team hdoc _ _
      · split
        · exact gives_player hdoc _ _
        · exact .nothing

end Request

theorem Request.gives_action {env : AgentExternals} {game : Game} {action : Str}
    {stream : InStream} {process : InStream → Except Fault Reply} (hdoc : DumpDocumented env)
    (h : actionNamed env .json game action = some process) :
    Gives env (ofAction env game action stream) (answer (process stream)) := by
  rcases actionNamed_eq_some h with ⟨rfl, rfl⟩ | ⟨rfl, rfl⟩ | ⟨rfl, rfl⟩
  · exact gives_list
  · exact gives_view
  · exact gives_get hdoc _

theorem Request.ofAction_of_none {env : AgentExternals} {mode : OutputMode} {game : Game}
    {action : Str} {stream : InStream} (h : actionNamed env mode game action = none) :
    ofAction env game action stream = .null := by
  obtain ⟨hlist, hview, hget⟩ := actionNamed_eq_none h
  rw [ofAction, if_neg hlist, if_neg hview, if_neg hget]

namespace AgentProxy

variable {env : AgentExternals}

/-- In JSON mode a text is answered as its request says, and nothing changes. -/
theorem stepIn_json (localTime : Instant) (hdoc : DumpDocumented env) (app : Application)
    (text : Str) :
    ∃ given, (Request.ofText env app.game text).Gives env given ∧
      ∀ nested, stepIn env localTime nested { application := app, outputMode := .json } text = do
        let (result, reply) ← given
        return { result, reply, proxy := { application := app, outputMode := .json } } := by
  cases haction : actionNamed env .json app.game (firstToken text) with
  | none =>
    refine ⟨.ok (false, nullText), ?_, fun nested => ?_⟩
    · rw [Request.ofText, Request.ofAction_of_none haction]
      exact .null
    · unfold firstToken at haction
      simp only [stepIn, haction, refuse, dumped, hdoc.null]
      rfl
  | some process =>
    refine ⟨answer (process (afterToken text)), Request.gives_action hdoc haction, fun nested => ?_⟩
    unfold firstToken at haction
    simp only [stepIn, haction, answer]
    unfold afterToken
    cases process ((InStream.ofText text).readWord []).2 <;> rfl

end AgentProxy

end ServerGame
