import ServerGame.Lib.JsonText
import ServerGame.Proxy.JsonPrefix

/-!
# Answers in JSON

What JSON mode answers is JSON when it comes from `dump`. The failures with a
message are plain text, and those without a reply are answered KO by the text
mode that is back by then.
-/

namespace ServerGame

open Lib (InStream bind_eq_ok pure_eq_ok AllSteps)
open Lib.JsonText (Document Value)

-- ---------------------------------------------------------------------------
-- What is promised
-- ---------------------------------------------------------------------------

/-- What `dump` writes is a JSON text. -/
def DumpWellFormed (env : AgentExternals) : Prop :=
  ∀ json text, env.dump json = some text → Document text

/-- Not an action or not a property JSON mode knows, which is answered null; or
something that is there, with texts that are all UTF-8. -/
def Request.InJson : Request → Prop
  | .null => True
  | .document json | .value json => ∃ value, json = .ok value ∧ value.IsUtf8
  | .message | .nothing => False

namespace AgentProxy

/-- The text behind the prefix is answered with a JSON document. -/
def AnswersInJson (env : AgentExternals) (localTime : Instant) (proxy : AgentProxy) (c : Str) :
    Prop :=
  ∃ stepped, step env localTime proxy ("json ".toList ++ c) = .ok stepped ∧ Document stepped.reply

end AgentProxy

-- ---------------------------------------------------------------------------
-- Plain text
-- ---------------------------------------------------------------------------

theorem not_document_of_cons {c : Char} {rest : Str} (hblank : Lib.JsonText.isBlank c = false)
    (hvalue : Lib.JsonText.startsValue c = false) : ¬Document (c :: rest) := by
  intro h
  obtain ⟨c', rest', heq, hstart⟩ := h.starts
  obtain ⟨rfl, -⟩ := List.cons.inj heq
  rw [hblank, hvalue] at hstart
  simp at hstart

theorem not_document_ko : ¬Document ko := not_document_of_cons rfl rfl

namespace Request

theorem Gives.inJson_iff {env : AgentExternals} {request : Request}
    {given : Except Fault (Bool × Str)} (h : request.Gives env given) (hdoc : DumpDocumented env)
    (hdump : DumpWellFormed env) (hmessage : request ≠ .message) :
    (∃ result reply, given = .ok (result, reply) ∧
      Document (if result = false ∧ reply = [] then ko else reply)) ↔ request.InJson := by
  cases h with
  | null => simpa [InJson, nullText] using Value.null.document
  | message => exact absurd rfl hmessage
  | document h => simp [InJson, hdoc.utf8_iff h, hdump _ _ h]
  | documentThrows h => simp [InJson, hdoc.utf8_iff h]
  | documentFaults => simp [InJson]
  | value h => simp [InJson, hdoc.utf8_iff h, hdump _ _ h]
  | valueThrows h => simp [InJson, hdoc.utf8_iff h, not_document_ko]
  | valueFaults => simp [InJson]
  | nothing => simp [InJson, not_document_ko]

variable {env : AgentExternals} {game : Game} {stream : InStream}

def Complains (reply : Except Fault Reply) : Prop :=
  ∃ first rest, reply = .ok (.failWith (first :: rest)) ∧ (first = 'I' ∨ first = 'U')

theorem complains_list (h : ofList game stream = .message) :
    Complains (ListAction.process env .json game stream) := by
  unfold ofList at h
  unfold ListAction.process
  dsimp only at h ⊢
  split
  · next heof =>
    rw [if_pos heof] at h
    cases hlisting : listingOf game (stream.readWord []).1 with
    | none => exact ⟨_, _, rfl, .inl rfl⟩
    | some listing =>
      rw [hlisting] at h
      cases h
  · exact ⟨_, _, rfl, .inr rfl⟩

theorem complains_view (h : ofView env game stream = .message) :
    Complains (ViewAction.process env .json game stream) := by
  unfold ofView at h
  unfold ViewAction.process
  dsimp only at h ⊢
  split
  · next hteam =>
    rw [if_pos hteam] at h
    split
    · next heof =>
      rw [if_pos heof] at h
      cases h
    · exact ⟨_, _, rfl, .inr rfl⟩
  · exact ⟨_, _, rfl, .inl rfl⟩

theorem ofProperty_ne_message (known : Str) (value : Json) (property : Str) :
    ofProperty known value property ≠ .message := by
  unfold ofProperty
  split <;> nofun

theorem ofGet_ne_message (query : GetQuery) : ofGet game query ≠ .message := by
  unfold ofGet
  split_ifs
  · nofun
  · unfold ofRobot
    cases game.accessRobot query.name with
    | error => nofun
    | ok r =>
      cases query.property with
      | none => nofun
      | some property => exact ofProperty_ne_message _ _ property
  · unfold ofTeam
    dsimp only
    split
    · nofun
    · cases query.property with
      | none => nofun
      | some property => exact ofProperty_ne_message _ _ property
  · unfold ofPlayer
    cases game.accessPlayer query.name with
    | error => nofun
    | ok p =>
      cases query.property with
      | none => nofun
      | some property => exact ofProperty_ne_message _ _ property
  · nofun

theorem complains_action {action : Str} {process : InStream → Except Fault Reply}
    (haction : actionNamed env .json game action = some process)
    (h : ofAction env game action stream = .message) : Complains (process stream) := by
  rcases actionNamed_eq_some haction with ⟨rfl, rfl⟩ | ⟨rfl, rfl⟩ | ⟨rfl, rfl⟩
  · exact complains_list h
  · exact complains_view h
  · exact absurd h (ofGet_ne_message _)

end Request

-- ---------------------------------------------------------------------------
-- Texts
-- ---------------------------------------------------------------------------

structure Game.TextsUtf8 (game : Game) : Prop where
  key : ∀ name, name ∈ game.teams → IsUtf8 name
  team : ∀ t, IsUtf8 (game.team t).name
  robot : ∀ r, IsUtf8 (game.robot r).name ∧ IsUtf8 (game.robot r).robotId ∧
    IsUtf8 (game.robot r).videoUrl
  player : ∀ p, IsUtf8 (game.player p).name ∧ IsUtf8 (game.player p).address
  item : ∀ item ∈ game.items.allItems, IsUtf8 item.name ∧ IsUtf8 item.owningTeam ∧
    ∀ rfid ∈ item.rfids.toList, IsUtf8 rfid

def Request.Found : Request → Prop
  | .null => True
  | .document json | .value json => ∃ value, json = .ok value
  | .message | .nothing => False

theorem isUtf8_ascii {text : Str} (h : text.all (fun c => c.toNat < 128) = true) :
    IsUtf8 text := by
  refine ⟨text, ?_⟩
  rw [List.map_flatMap]
  change text = text.flatMap Lib.JsonText.utf8
  have hbyte : ∀ c ∈ text, Lib.JsonText.utf8 c = [c] := fun c hc =>
    Lib.JsonText.utf8_of_lt (of_decide_eq_true (List.all_eq_true.mp h c hc))
  rw [List.flatMap_congr hbyte, List.flatMap_singleton']

theorem Json.allUtf8_iff {elements : List Json} :
    Json.AllUtf8 elements ↔ ∀ element ∈ elements, element.IsUtf8 := by
  induction elements with
  | nil => simp [Json.AllUtf8]
  | cons element elements ih => simp [Json.AllUtf8, ih]

theorem Json.isUtf8_strings {texts : List Str} (h : ∀ text ∈ texts, ServerGame.IsUtf8 text) :
    (Json.array (texts.map .string)).IsUtf8 := by
  refine Json.allUtf8_iff.mpr fun element helement => ?_
  obtain ⟨text, htext, rfl⟩ := List.mem_map.mp helement
  exact h text htext

namespace Game.TextsUtf8

variable {game : Game}

theorem playerJson (h : game.TextsUtf8) (p : PlayerRef) : (game.playerJson p).IsUtf8 := by
  refine ⟨isUtf8_ascii rfl, (h.player p).1, isUtf8_ascii rfl, (h.player p).2,
    isUtf8_ascii rfl, ?_, trivial⟩
  change IsUtf8 _
  split
  · exact (h.robot _).1
  · exact isUtf8_ascii rfl

theorem robotJson (h : game.TextsUtf8) {r : RobotRef} {json : Json}
    (hjson : game.robotJson r = .ok json) : json.IsUtf8 := by
  unfold Game.robotJson at hjson
  split at hjson
  · cases hjson
    refine ⟨isUtf8_ascii rfl, (h.robot r).2.1, isUtf8_ascii rfl, (h.robot r).1,
      isUtf8_ascii rfl, ?_, isUtf8_ascii rfl, trivial, isUtf8_ascii rfl, h.team _,
      isUtf8_ascii rfl, (h.robot r).2.2, trivial⟩
    change IsUtf8 _
    split
    · exact (h.player _).1
    · exact isUtf8_ascii rfl
  · cases hjson

theorem itemJson (h : game.TextsUtf8) {item : Item} (hitem : item ∈ game.items.allItems) :
    (Game.itemJson item).IsUtf8 :=
  ⟨isUtf8_ascii rfl, (h.item item hitem).1, isUtf8_ascii rfl,
    Json.isUtf8_strings (h.item item hitem).2.2, isUtf8_ascii rfl, trivial,
    isUtf8_ascii rfl, (h.item item hitem).2.1, trivial⟩

theorem getTeam (h : game.TextsUtf8) (name : Str) : IsUtf8 (game.getTeam name).name := by
  unfold Game.getTeam
  cases game.teams[name]? with
  | none => exact isUtf8_ascii rfl
  | some t => exact h.team t

theorem teamDocument (h : game.TextsUtf8) (name : Str) :
    (ServerGame.teamDocument game (game.getTeam name)).IsUtf8 := by
  refine ⟨isUtf8_ascii rfl, ?_, trivial⟩
  split
  · trivial
  · refine ⟨isUtf8_ascii rfl, h.getTeam name, isUtf8_ascii rfl, trivial,
      isUtf8_ascii rfl, Json.isUtf8_strings fun text htext => ?_, trivial⟩
    obtain ⟨r, -, rfl⟩ := List.mem_map.mp htext
    exact (h.robot r).1

theorem gameDocument : (ServerGame.gameDocument game).IsUtf8 :=
  ⟨isUtf8_ascii rfl, trivial, isUtf8_ascii rfl, trivial,
    isUtf8_ascii rfl, trivial, trivial⟩

theorem robotViews (h : game.TextsUtf8) {entries : List (Str × RobotRef)} {views : List Json}
    (hviews : (entries.mapM fun entry => game.robotJson entry.2) = .ok views) :
    Json.AllUtf8 views := by
  induction entries generalizing views with
  | nil =>
    cases hviews
    trivial
  | cons entry entries ih =>
    rw [List.mapM_cons] at hviews
    obtain ⟨json, hjson, hviews⟩ := bind_eq_ok.mp hviews
    obtain ⟨rest, hrest, hviews⟩ := bind_eq_ok.mp hviews
    cases hviews
    exact ⟨h.robotJson hjson, ih hrest⟩

theorem listing (h : game.TextsUtf8) {object : Str} {listing : Listing}
    (hlisting : listingOf game object = some listing) {json : Json}
    (hjson : listing.document = .ok json) : json.IsUtf8 := by
  obtain ⟨views, hviews, hjson⟩ := bind_eq_ok.mp hjson
  cases hjson
  unfold listingOf at hlisting
  split_ifs at hlisting <;> cases hlisting
  · cases hviews
    refine ⟨isUtf8_ascii rfl, Json.allUtf8_iff.mpr fun json hjson => ?_, trivial⟩
    obtain ⟨entry, -, rfl⟩ := List.mem_map.mp hjson
    exact h.playerJson entry.2
  · exact ⟨isUtf8_ascii rfl, h.robotViews hviews, trivial⟩
  · cases hviews
    refine ⟨isUtf8_ascii rfl, Json.allUtf8_iff.mpr fun json hjson => ?_, trivial⟩
    obtain ⟨entry, hentry, rfl⟩ := List.mem_map.mp hjson
    exact h.key entry.1 (Std.ExtTreeMap.mem_iff_isSome_getElem?.mpr <| by
      rw [Std.ExtTreeMap.mem_toList_iff_getElem?_eq_some.mp hentry]
      rfl)
  · cases hviews
    refine ⟨isUtf8_ascii rfl, Json.allUtf8_iff.mpr fun json hjson => ?_, trivial⟩
    obtain ⟨item, hitem, rfl⟩ := List.mem_map.mp hjson
    exact h.itemJson hitem

end Game.TextsUtf8

namespace Request

variable {env : AgentExternals} {game : Game} {value : Json} {stream : InStream}

def Shows (value : Json) : Request → Prop
  | .document json | .value json => json = .ok value
  | .null | .message | .nothing => False

theorem shows_list (h : game.TextsUtf8) (hshows : (ofList game stream).Shows value) :
    value.IsUtf8 := by
  unfold ofList at hshows
  dsimp only at hshows
  split at hshows
  · cases hlisting : listingOf game (stream.readWord []).1 with
    | none =>
      rw [hlisting] at hshows
      exact hshows.elim
    | some listing =>
      rw [hlisting] at hshows
      exact h.listing hlisting hshows
  · exact hshows.elim

theorem shows_view (h : game.TextsUtf8) (hshows : (ofView env game stream).Shows value) :
    value.IsUtf8 := by
  unfold ofView at hshows
  dsimp only at hshows
  split_ifs at hshows
  · cases hshows
    exact h.teamDocument _
  · exact hshows.elim
  · exact hshows.elim

theorem shows_property {known property : Str} {json : Json}
    (hshows : (ofProperty known json property).Shows value) (hknown : IsUtf8 known)
    (hjson : json.IsUtf8) : value.IsUtf8 := by
  unfold ofProperty at hshows
  split at hshows
  · next heq =>
    cases hshows
    exact ⟨heq ▸ hknown, hjson, trivial⟩
  · exact hshows.elim

theorem shows_robot (h : game.TextsUtf8) {name : Str} {property : Option Str}
    (hshows : (ofRobot game name property).Shows value) : value.IsUtf8 := by
  unfold ofRobot at hshows
  cases hrobot : game.accessRobot name with
  | error => simp [hrobot, Shows] at hshows
  | ok r =>
    rw [hrobot] at hshows
    cases property with
    | none => exact h.robotJson hshows
    | some property => exact shows_property hshows (isUtf8_ascii rfl) (h.robot r).2.1

theorem shows_team {name : Str} {property : Option Str}
    (hshows : (ofTeam game name property).Shows value) : value.IsUtf8 := by
  unfold ofTeam at hshows
  dsimp only at hshows
  split at hshows
  · exact hshows.elim
  · cases property with
    | none => exact hshows.elim
    | some property => exact shows_property hshows (isUtf8_ascii rfl) trivial

theorem shows_player (h : game.TextsUtf8) {name : Str} {property : Option Str}
    (hshows : (ofPlayer game name property).Shows value) : value.IsUtf8 := by
  unfold ofPlayer at hshows
  cases hplayer : game.accessPlayer name with
  | error => simp [hplayer, Shows] at hshows
  | ok p =>
    rw [hplayer] at hshows
    cases property with
    | none =>
      cases hshows
      exact h.playerJson p
    | some property => exact shows_property hshows (isUtf8_ascii rfl) (h.player p).2

theorem shows_get (h : game.TextsUtf8) {query : GetQuery}
    (hshows : (ofGet game query).Shows value) : value.IsUtf8 := by
  unfold ofGet at hshows
  split_ifs at hshows
  · cases hshows
    exact Game.TextsUtf8.gameDocument
  · exact shows_robot h hshows
  · exact shows_team hshows
  · exact shows_player h hshows
  · exact hshows.elim

theorem shows_text (h : game.TextsUtf8) {text : Str}
    (hshows : (ofText env game text).Shows value) : value.IsUtf8 := by
  unfold ofText ofAction at hshows
  split_ifs at hshows
  · exact shows_list h hshows
  · exact shows_view h hshows
  · exact shows_get h hshows
  · exact hshows.elim

/-- Where every text is UTF-8, being there is enough. -/
theorem inJson_iff_found (h : game.TextsUtf8) (text : Str) :
    (ofText env game text).InJson ↔ (ofText env game text).Found := by
  have hutf8 : ∀ value, (ofText env game text).Shows value → value.IsUtf8 := fun _ =>
    shows_text h
  revert hutf8
  cases ofText env game text with
  | document json | value json =>
    intro hutf8
    constructor
    · rintro ⟨shown, heq, -⟩
      exact ⟨shown, heq⟩
    · rintro ⟨shown, heq⟩
      exact ⟨shown, heq, hutf8 shown heq⟩
  | _ => exact fun _ => Iff.rfl

end Request

-- ---------------------------------------------------------------------------
-- Behind the prefix
-- ---------------------------------------------------------------------------

namespace AgentProxy

variable {env : AgentExternals} {localTime : Instant} {app : Application} {c : Str}

theorem firstToken_json (c : Str) : firstToken ("json ".toList ++ c) = "json".toList :=
  @firstToken_append [] "json".toList (' ' :: c) (by simp) (by decide) (by simp [Lib.isSpace])
    (.inr ⟨' ', c, rfl, rfl⟩)

theorem not_length_lt (c : Str) : ¬("json ".toList ++ c).length < 5 := by
  rw [List.length_append]
  have : "json ".toList.length = 5 := rfl
  omega

theorem step_message (h : Request.ofText env app.game c = .message) :
    ∃ first rest, (first = 'I' ∨ first = 'U') ∧
      step env localTime { application := app } ("json ".toList ++ c) =
        .ok { result := false, reply := first :: rest, proxy := { application := app } } := by
  have haction : actionNamed env .json app.game (firstToken c) ≠ none := by
    intro hnone
    rw [Request.ofText, Request.ofAction_of_none hnone] at h
    cases h
  obtain ⟨process, haction⟩ := Option.ne_none_iff_exists'.mp haction
  obtain ⟨first, rest, hprocess, hfirst⟩ := Request.complains_action haction h
  refine ⟨first, rest, hfirst, ?_⟩
  have hdirect : stepIn env localTime (fun _ _ => .error .endlessLoop)
      { application := app, outputMode := .json } c =
        .ok { result := false, reply := first :: rest
              proxy := { application := app, outputMode := .json } } := by
    unfold firstToken at haction
    unfold afterToken at hprocess
    simp only [stepIn, haction, hprocess]
    rfl
  rw [step, stepIn_json_prefix (firstToken_json c), if_neg (not_length_lt c)]
  have hdrop : ("json ".toList ++ c).drop 5 = c := rfl
  rw [hdrop, hdirect]
  rfl

theorem answersInJson_iff (hdoc : DumpDocumented env) (hdump : DumpWellFormed env) :
    AnswersInJson env localTime { application := app } c ↔
      (Request.ofText env app.game c).InJson := by
  by_cases hmessage : Request.ofText env app.game c = .message
  · obtain ⟨first, rest, hfirst, hstep⟩ := @step_message env localTime app c hmessage
    rw [hmessage]
    refine iff_of_false ?_ id
    rintro ⟨stepped, hstepped, hdocument⟩
    cases hstep.symm.trans hstepped
    rcases hfirst with rfl | rfl
    · exact not_document_of_cons rfl rfl hdocument
    · exact not_document_of_cons rfl rfl hdocument
  · obtain ⟨given, hgives, -, hstep⟩ :=
      step_json_prefix localTime app hdoc (firstToken_json c) (not_length_lt c)
    have hdrop : ("json ".toList ++ c).drop 5 = c := rfl
    rw [hdrop] at hgives
    rw [← hgives.inJson_iff hdoc hdump hmessage]
    constructor
    · rintro ⟨stepped, hstepped, hdocument⟩
      obtain ⟨result, reply, hgiven, rfl⟩ := (hstep stepped).mp hstepped
      exact ⟨result, reply, hgiven, hdocument⟩
    · rintro ⟨result, reply, hgiven, hdocument⟩
      exact ⟨_, (hstep _).mpr ⟨result, reply, hgiven, rfl⟩, hdocument⟩

end AgentProxy

-- ---------------------------------------------------------------------------
-- A dump
-- ---------------------------------------------------------------------------

section
open Lib.JsonText (quote openBrace closeBrace escapeByte)

mutual

def Json.write : Json → Str
  | .null => "null".toList
  | .bool value => if value then "true".toList else "false".toList
  | .number value => decimalInt value
  | .string text => quote :: text.flatMap escapeByte ++ [quote]
  | .array elements => '[' :: List.intercalate [','] (Json.writeAll elements) ++ [']']
  | .object members =>
    openBrace :: List.intercalate [','] (Json.writeMembers members) ++ [closeBrace]

def Json.writeAll : List Json → List Str
  | [] => []
  | element :: rest => element.write :: Json.writeAll rest

def Json.writeMembers : List (Str × Json) → List Str
  | [] => []
  | (key, value) :: rest =>
    (quote :: key.flatMap escapeByte ++ quote :: ':' :: value.write) :: Json.writeMembers rest

end

theorem IsUtf8.letters {text : Str} (h : IsUtf8 text) :
    Lib.JsonText.Letters (text.flatMap escapeByte) := by
  obtain ⟨chars, rfl⟩ := h
  rw [List.map_flatMap]
  exact Lib.JsonText.letters_escape chars

theorem noBlanks : Lib.JsonText.Blanks [] := fun _ h => nomatch h

theorem decimalInt_number (value : Int) : Lib.JsonText.Number (decimalInt value) := by
  cases value with
  | ofNat n =>
    exact @Lib.JsonText.number_of_unsigned [] _ (.inl rfl) (Lib.JsonText.unsigned_toDigits n)
  | negSucc n =>
    exact @Lib.JsonText.number_of_unsigned ['-'] _ (.inr rfl)
      (Lib.JsonText.unsigned_toDigits (n + 1))

mutual

theorem Json.IsUtf8.value : (json : Json) → json.IsUtf8 → Value json.write
  | .null, _ => .null
  | .bool true, _ => .isTrue
  | .bool false, _ => .isFalse
  | .number value, _ => .number (decimalInt_number value)
  | .string _, h => .string (ServerGame.IsUtf8.letters h)
  | .array [], _ => .emptyArray noBlanks
  | .array (element :: rest), h =>
    .array (Lib.JsonText.elements_intercalate (by simp [Json.writeAll])
      (Json.AllUtf8.elements (element :: rest) h))
  | .object [], _ => .emptyObject noBlanks
  | .object (member :: rest), h =>
    .object (Lib.JsonText.members_intercalate (by simp [Json.writeMembers])
      (Json.MembersUtf8.members (member :: rest) h))

theorem Json.AllUtf8.elements : (elements : List Json) → Json.AllUtf8 elements →
    ∀ text ∈ Json.writeAll elements, Lib.JsonText.Element text
  | [], _ => by simp [Json.writeAll]
  | element :: rest, h => by
    intro text htext
    rcases List.mem_cons.mp htext with rfl | htext
    · exact (Json.IsUtf8.value element h.1).document
    · exact Json.AllUtf8.elements rest h.2 text htext

theorem Json.MembersUtf8.members : (members : List (Str × Json)) → Json.MembersUtf8 members →
    ∀ text ∈ Json.writeMembers members, Lib.JsonText.Member text
  | [], _ => by simp [Json.writeMembers]
  | (key, value) :: rest, h => by
    intro text htext
    rcases List.mem_cons.mp htext with rfl | htext
    · have hmember := Lib.JsonText.Member.mk noBlanks (ServerGame.IsUtf8.letters h.1) noBlanks
        (Json.IsUtf8.value value h.2.1).document
      simpa using hmember
    · exact Json.MembersUtf8.members rest h.2.2 text htext

end

end

open Classical in
/-- `dump` of a value with only valid texts is what `write` gives. -/
noncomputable def AgentExternals.writing : AgentExternals :=
  { AgentExternals.plain with
    dump := fun json => if json.IsUtf8 then some json.write else none }

theorem AgentExternals.writing_documented : DumpDocumented AgentExternals.writing where
  null := by classical exact if_pos trivial
  throws json := by classical exact ite_eq_right_iff.trans (by simp)

theorem AgentExternals.writing_wellFormed : DumpWellFormed AgentExternals.writing := by
  intro json text hdump
  classical
  change (if json.IsUtf8 then some json.write else none) = some text at hdump
  split at hdump
  · next hutf8 =>
    cases hdump
    exact (Json.IsUtf8.value json hutf8).document
  · cases hdump

-- ---------------------------------------------------------------------------
-- Runs
-- ---------------------------------------------------------------------------

def Fed.AnsweredInJson (env : AgentExternals) (proxy : AgentProxy) : Fed → Prop
  | .event _ => True
  | .text command localTime => ∀ c, command = "json ".toList ++ c →
    AgentProxy.AnswersInJson env localTime proxy c

def Fed.AsksForJson (env : AgentExternals) (proxy : AgentProxy) : Fed → Prop
  | .event _ => True
  | .text command _ => ∀ c, command = "json ".toList ++ c →
    (Request.ofText env proxy.application.game c).InJson

/-- In every state a server with an agent reaches, a text behind `json` is
answered in JSON exactly when it is not a known request at all or asks for
something there is, with UTF-8 texts; where the state has no other texts, being
there is enough. And so for all the commands of a run. -/
theorem json_answers_iff {env : AgentExternals} (hdoc : DumpDocumented env)
    (hdump : DumpWellFormed env) (ports : List UInt16) (gameDuration : Int) (ruleset : Ruleset)
    (inputs : List Fed) :
    Lib.AllStates (AgentProxy.feed env) (AgentProxy.launch ports gameDuration ruleset) inputs
        (fun proxy => ∀ c localTime, AgentProxy.AnswersInJson env localTime proxy c ↔
          (Request.ofText env proxy.application.game c).InJson) ∧
      Lib.AllStates (AgentProxy.feed env) (AgentProxy.launch ports gameDuration ruleset) inputs
        (fun proxy => proxy.application.game.TextsUtf8 → ∀ c localTime,
          AgentProxy.AnswersInJson env localTime proxy c ↔
            (Request.ofText env proxy.application.game c).Found) ∧
      (AllSteps (AgentProxy.feed env) (AgentProxy.launch ports gameDuration ruleset) inputs
          (fun proxy input => input.AnsweredInJson env proxy) ↔
        AllSteps (AgentProxy.feed env) (AgentProxy.launch ports gameDuration ruleset) inputs
          (fun proxy input => input.AsksForJson env proxy)) := by
  have hstates : Lib.AllStates (AgentProxy.feed env)
      (AgentProxy.launch ports gameDuration ruleset) inputs
      (fun proxy => ∀ c localTime, AgentProxy.AnswersInJson env localTime proxy c ↔
        (Request.ofText env proxy.application.game c).InJson) := by
    intro pre post proxy outputs _ hrun c localTime
    have hmode : proxy.outputMode = .text :=
      Lib.run_invariant (fun proxy => proxy.outputMode = .text)
        (fun _ _ _ _ _ hmode hfeed => (AgentProxy.feed_mode hfeed).trans hmode) rfl hrun
    obtain ⟨app, mode⟩ := proxy
    cases hmode
    exact AgentProxy.answersInJson_iff hdoc hdump
  refine ⟨hstates, fun pre post proxy outputs heq hrun htexts c localTime => ?_, ?_⟩
  · exact (hstates pre post proxy outputs heq hrun c localTime).trans
      (Request.inJson_iff_found htexts c)
  refine forall_congr' fun pre => forall_congr' fun input => forall_congr' fun post =>
    forall_congr' fun proxy => forall_congr' fun outputs => forall_congr' fun heq =>
      forall_congr' fun hrun => ?_
  cases input with
  | event event => exact Iff.rfl
  | text command localTime =>
    exact forall_congr' fun c => forall_congr' fun _ =>
      hstates pre (.text command localTime :: post) proxy outputs heq hrun c localTime

/-- A team that is added is listed in JSON. -/
theorem json_answers_iff_oneTeam :
    AllSteps (AgentProxy.feed .writing) (AgentProxy.launch [] 0 oneTeam)
      [.text "add team A".toList 0, .text "json list team".toList 0]
      (fun proxy input => input.AnsweredInJson .writing proxy) := by
  refine (json_answers_iff AgentExternals.writing_documented AgentExternals.writing_wellFormed
    [] 0 oneTeam _).2.2.mpr ?_
  rw [Lib.allSteps_cons]
  constructor
  · intro c hc
    cases hc
  · intro proxy output hfeed
    cases hfeed
    rw [Lib.allSteps_cons]
    constructor
    · intro c hc
      cases hc
      exact ⟨_, rfl, ⟨⟨"Teams".toList, rfl⟩, ⟨⟨"A".toList, rfl⟩, trivial⟩, trivial⟩⟩
    · intro _ _ _ pre input post _ _ hnil
      cases pre <;> cases hnil

/-- An object that is not listed is answered by a message, a team that is not
there by KO. -/
theorem json_answers_in_text :
    DumpDocumented .writing ∧ DumpWellFormed .writing ∧
      (AgentProxy.launch [] 0 oneTeam).application.game.TextsUtf8 ∧
      ¬AgentProxy.AnswersInJson .writing 0 (AgentProxy.launch [] 0 oneTeam) "list x".toList ∧
      ¬AgentProxy.AnswersInJson .writing 0 (AgentProxy.launch [] 0 oneTeam)
        "get team B".toList := by
  refine ⟨AgentExternals.writing_documented, AgentExternals.writing_wellFormed, ?_, ?_, ?_⟩
  · refine ⟨fun name hname => ?_, fun t => ?_, fun r => ?_, fun p => ?_, nofun⟩
    · simp [AgentProxy.launch, Server.create, Game.create] at hname
    · exact isUtf8_ascii rfl
    · exact ⟨isUtf8_ascii rfl, isUtf8_ascii rfl, isUtf8_ascii rfl⟩
    · exact ⟨isUtf8_ascii rfl, isUtf8_ascii rfl⟩
  · rintro ⟨stepped, hstepped, hdocument⟩
    cases hstepped
    exact not_document_of_cons rfl rfl hdocument
  · rintro ⟨stepped, hstepped, hdocument⟩
    cases hstepped
    exact not_document_ko hdocument

end ServerGame
