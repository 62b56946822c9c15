import ServerGame.Proxy.AgentProxy
import ServerGame.Edits

/-!
# Commands word by word

What each branch of `AgentProxy::step` leaves of the words of a command. A
command is carried out when the reading has come to the end of the text.
-/

namespace ServerGame

open Lib (InStream words endsInSpace bind_eq_ok pure_eq_ok)
open Lib.InStream (Shows isNumeral)

variable {ws : List Str} {trailing : Bool} {stream : InStream}

-- ---------------------------------------------------------------------------
-- What is left
-- ---------------------------------------------------------------------------

def ShowsLeft (stream : InStream) (trailing : Bool) : Option (List Str) → Prop
  | some ws => stream.Shows ws trailing
  | none => stream.Shows [] false

theorem ShowsLeft.eof_iff {left : Option (List Str)} (h : ShowsLeft stream trailing left) :
    stream.eof = true ↔ left = none ∨ (left = some [] ∧ trailing = false) := by
  cases left with
  | none => simpa using InStream.Shows.eof_iff h
  | some ws => simpa using InStream.Shows.eof_iff h

def Leaves {β : Type} (read : InStream → β × InStream)
    (leftBy : List Str → Option (List Str)) : Prop :=
  ∀ ⦃stream ws trailing⦄, stream.Shows ws trailing →
    ShowsLeft (read stream).2 trailing (leftBy ws)

theorem Leaves.after {β : Type} {read : InStream → β × InStream}
    {leftBy : List Str → Option (List Str)} {left : Option (List Str)}
    (hread : Leaves read leftBy) (hnil : leftBy [] = none)
    (h : ShowsLeft stream trailing left) :
    ShowsLeft (read stream).2 trailing (left.bind leftBy) := by
  cases left with
  | none =>
    have hend := hread h
    rw [hnil] at hend
    exact hend
  | some ws => exact hread h

-- ---------------------------------------------------------------------------
-- Words and names
-- ---------------------------------------------------------------------------

def leftByWord : List Str → Option (List Str)
  | [] => none
  | _ :: ws => some ws

theorem leaves_readWord (old : Str) : Leaves (InStream.readWord old) leftByWord := by
  intro stream ws trailing h
  cases ws with
  | nil => exact (h.readWord_nil old).2
  | cons w ws => exact (h.readWord_cons old).2

def opensQuote (w : Str) : Bool := decide (w.head? = some nameQuotes)

def closesQuote (w : Str) : Bool := decide (w.getLast? = some nameQuotes)

/-- The words behind the first one that closes the quotes. -/
def untilClosed : List Str → Option (List Str)
  | [] => none
  | w :: ws => if closesQuote w then some ws else untilClosed ws

/-- The words `readName` leaves, or none when it reads to the end of the text:
a word that opens quotes is not looked at for the closing ones. -/
def leftByName : List Str → Option (List Str)
  | [] => none
  | w :: ws => if opensQuote w then untilClosed ws else some ws

theorem front_eq_iff {w : Str} : nameQuotes = front w ↔ opensQuote w = true := by
  cases w with
  | nil => decide
  | cons c cs => simp [front, opensQuote, eq_comm]

theorem back_eq_iff {byteBefore : Char} {w : Str} (h : w ≠ []) :
    nameQuotes = back byteBefore w ↔ closesQuote w = true := by
  obtain ⟨c, hc⟩ := Option.isSome_iff_exists.mp (List.getLast?_isSome.mpr h)
  simp [back, closesQuote, List.getLastD_eq_getLast?, hc, eq_comm]

theorem readNameLoop_finished {byteBefore : Char} {fuel : Nat} {result fragment : Str}
    (h : stream.Shows [] false) :
    (readNameLoop byteBefore fuel result fragment stream).2.Shows [] false := by
  have hgood : stream.good = false := by simp [InStream.good, h.eof_iff]
  cases fuel with
  | zero => exact h
  | succ fuel => simpa [readNameLoop, hgood] using h

theorem readNameLoop_shows {byteBefore : Char} {fuel : Nat} {result fragment : Str}
    (h : stream.Shows ws trailing) (hfuel : ws.length < fuel) :
    ShowsLeft (readNameLoop byteBefore fuel result fragment stream).2 trailing
      (untilClosed ws) := by
  induction ws generalizing fuel stream result fragment with
  | nil =>
    obtain ⟨fuel, rfl⟩ := Nat.exists_eq_add_of_lt hfuel
    by_cases hgood : stream.good = true
    · have hend := (h.readWord_nil fragment).2
      rw [List.length_nil, Nat.zero_add, readNameLoop, if_pos hgood]
      dsimp only
      split
      · exact hend
      · exact readNameLoop_finished hend
    · rw [List.length_nil, Nat.zero_add, readNameLoop, if_neg hgood]
      exact h.finished_of_not_good hgood
  | cons w ws ih =>
    obtain ⟨fuel, rfl⟩ := Nat.exists_eq_add_of_lt hfuel
    obtain ⟨hword, hrest⟩ := h.readWord_cons fragment
    rw [readNameLoop, if_pos h.good_of_cons]
    simp only [hword, back_eq_iff (h.ne_nil w (by simp)), untilClosed]
    split
    · exact hrest
    · exact ih hrest (by simp at hfuel ⊢; omega)

theorem leaves_readName (byteBefore : Char) : Leaves (readName byteBefore) leftByName := by
  intro stream ws trailing h
  cases ws with
  | nil =>
    obtain ⟨hword, hend⟩ := h.readWord_nil []
    unfold readName
    simp only [hword, front_eq_iff]
    exact hend
  | cons w ws =>
    obtain ⟨hword, hrest⟩ := h.readWord_cons []
    unfold readName
    simp only [hword, front_eq_iff, leftByName]
    split
    · exact readNameLoop_shows hrest (Nat.lt_succ_of_le hrest.length_le)
    · exact hrest

-- ---------------------------------------------------------------------------
-- The command of a text
-- ---------------------------------------------------------------------------

namespace AgentProxy

def firstToken (command : Str) : Str := ((InStream.ofText command).readWord []).1

def afterToken (command : Str) : InStream := ((InStream.ofText command).readWord []).2

def objectOf (command : Str) : Str := ((afterToken command).readWord []).1

def argumentsOf (command : Str) : InStream := ((afterToken command).readWord []).2

/-- What a text that is neither an action of the map nor `ping` nor `json` is
read as, when it is read to its end. -/
def commandOf (env : AgentExternals) (text : Str) : Option Command := do
  let read ← branch env (firstToken text) (objectOf text)
  let (command, stream) := read (argumentsOf text)
  if stream.eof then some command else none

def Feasible (game : Game) : Command → Prop
  | .addRobot name _ => name ∈ game.robots ∨ game.getNewRobotId.isSome = true
  | _ => True

variable {env : AgentExternals} {localTime : Instant} {app : Application} {text : Str}
  {nested : AgentProxy → Str → Except Fault Stepped}

theorem game_addRobot_ok_iff {game : Game} {name teamName : Str} {port commandPort : UInt16} :
    (∃ added, game.addRobot name teamName port commandPort [] = .ok added) ↔
      name ∈ game.robots ∨ game.getNewRobotId.isSome = true := by
  unfold Game.addRobot Game.chooseRobotId
  by_cases hname : name ∈ game.robots
  · simp [hname, pure, Except.pure]
  · cases game.getNewRobotId with
    | none => simp [hname, bind_eq_ok]
    | some id => cases game.teams[teamName]? <;> simp [hname, pure, Except.pure]

theorem addRobot_ok_iff {leftFirst : Bool} {name teamName : Str} :
    (∃ app', addRobot leftFirst name teamName app = .ok app') ↔
      name ∈ app.game.robots ∨ app.game.getNewRobotId.isSome = true := by
  rw [← @game_addRobot_ok_iff app.game name teamName (app.popTwoPorts leftFirst).1
    (app.popTwoPorts leftFirst).2.1]
  simp only [addRobot, bind_eq_ok, pure_eq_ok, Application.popTwoPorts_game]
  constructor
  · rintro ⟨_, added, h, -⟩
    exact ⟨added, h⟩
  · rintro ⟨added, h⟩
    exact ⟨_, added, h, rfl⟩

theorem apply_ok_iff {command : Command} :
    (∃ app', apply env.toExternals localTime app command = .ok app') ↔
      Feasible app.game command := by
  cases command with
  | addRobot name teamName => exact addRobot_ok_iff
  | _ => simp [apply, Feasible]

theorem stepIn_of_action (haction : actionNamed env .text app.game (firstToken text) = none) :
    stepIn env localTime nested { application := app } text =
      textStep env localTime nested { application := app } text (firstToken text)
        (afterToken text) >>= refuse env := by
  unfold firstToken at haction
  simp only [stepIn, haction]
  rfl

theorem textStep_of_branch {proxy : AgentProxy} {read : InStream → Command × InStream}
    (hping : firstToken text ≠ "ping".toList) (hjson : firstToken text ≠ "json".toList)
    (h : branch env (firstToken text) (objectOf text) = some read) :
    textStep env localTime nested proxy text (firstToken text) (afterToken text) =
      dispatch env localTime proxy (read (argumentsOf text)).1 (read (argumentsOf text)).2 := by
  unfold objectOf at h
  simp only [textStep, if_neg hping, if_neg hjson, h]
  rfl

theorem textStep_of_no_branch {proxy : AgentProxy}
    (hping : firstToken text ≠ "ping".toList) (hjson : firstToken text ≠ "json".toList)
    (h : branch env (firstToken text) (objectOf text) = none) :
    textStep env localTime nested proxy text (firstToken text) (afterToken text) =
      .ok { result := false, reply := [], proxy } := by
  unfold objectOf at h
  simp only [textStep, if_neg hping, if_neg hjson, h]

theorem stepIn_carriedOut {command : Command}
    (haction : actionNamed env .text app.game (firstToken text) = none)
    (hping : firstToken text ≠ "ping".toList) (hjson : firstToken text ≠ "json".toList)
    (h : commandOf env text = some command) :
    stepIn env localTime nested { application := app } text = do
      let application ← apply env.toExternals localTime app command
      return { result := true, reply := "OK".toList, proxy := { application } } := by
  obtain ⟨read, hbranch, hread⟩ := Option.bind_eq_some_iff.mp h
  have heof : (read (argumentsOf text)).2.eof = true := by
    by_contra heof
    simp [heof] at hread
  obtain rfl : (read (argumentsOf text)).1 = command := by simpa [heof] using hread
  rw [stepIn_of_action haction, textStep_of_branch hping hjson hbranch, dispatch, if_pos heof]
  cases apply env.toExternals localTime app (read (argumentsOf text)).1 <;> rfl

theorem stepIn_refused (haction : actionNamed env .text app.game (firstToken text) = none)
    (hping : firstToken text ≠ "ping".toList) (hjson : firstToken text ≠ "json".toList)
    (h : commandOf env text = none) :
    stepIn env localTime nested { application := app } text =
      .ok { result := false, reply := ko, proxy := { application := app } } := by
  rw [stepIn_of_action haction]
  cases hbranch : branch env (firstToken text) (objectOf text) with
  | none =>
    rw [textStep_of_no_branch hping hjson hbranch]
    rfl
  | some read =>
    have heof : ¬(read (argumentsOf text)).2.eof = true := by
      intro heof
      simp [commandOf, hbranch, heof] at h
    rw [textStep_of_branch hping hjson hbranch, dispatch, if_neg heof]
    rfl

end AgentProxy

end ServerGame
