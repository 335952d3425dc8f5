import Mathlib.Algebra.Ring.Int.Defs
import Mathlib.Algebra.Ring.Nat
import WebsocketClient.CApi
import WebsocketClient.ReceiveQueue
import WebsocketClient.TcpTransport

/-! `wscReceiveMessage`, with a buffer and without. A moved-from string holds nothing, like a vector. -/

namespace WebsocketClient.ReceiveMessages
open ByteString Messages CApis ReceiveQueues Library.Guarded

def WSC_ERR_NOT_AVAIL : Int := -3
def WSC_ERR_TOO_SMALL : Int := -4

/-- The return value, and the bytes that were written to the buffer. -/
abbrev Copied : Type := Int × Bytes

def copyAndReturn (content : Bytes) (buffer : Bool) (size : Int) : Copied :=
  let needed := TcpTransports.toInt content.length
  if buffer = false then (needed, [])
  else if size < needed then (WSC_ERR_TOO_SMALL, [])
  else (needed, content)

def copyAndReturnString (s : Bytes) (buffer : Bool) (size : Int) : Copied := copyAndReturn (s ++ [0]) buffer size

def copyAndReturnBinary (b : Bytes) (buffer : Bool) (size : Int) : Copied := copyAndReturn b buffer size

/-- `std::abs` on an `int` of 32 bits, where the least number has no counterpart. -/
def abs (size : Int32) : Int32 := if size < 0 then -size else size

/-- A call on a socket whose id is known: `buffer` is not `NULL`, and `size` points to a number. -/
structure Call where
  buffer : Bool
  size : Option Int32
  deriving DecidableEq, Repr

structure Answer where
  ret : Int
  size : Option Int
  written : Bytes
  deriving DecidableEq, Repr

/-- What both kinds have in common: `signed` is what `*size` is set to for a number of bytes. -/
def finish (ws : WebSocket) (buffer : Bool) (copied : Copied) (signed : Int → Int) (moved : Nat) : Answer × WebSocket :=
  if 0 ≤ copied.1 then
    (⟨WSC_ERR_SUCCESS, some (signed copied.1), copied.2⟩, if buffer then ws.receive.2 else ws)
  else (⟨copied.1, some (signed (TcpTransports.toInt moved)), copied.2⟩, ws)

def wscReceiveMessage (ws : WebSocket) (call : Call) : Answer × WebSocket :=
  match call.size with
  | none => (⟨WSC_ERR_INVALID, none, []⟩, ws)
  | some size =>
    let size : Int := (abs size).toInt
    match ws.peek with
    | (none, ws) => (⟨WSC_ERR_NOT_AVAIL, some size, []⟩, ws)
    | (some (.binary b), ws) => finish ws call.buffer (copyAndReturnBinary b call.buffer size) id 0
    | (some (.string s), ws) =>
      finish ws call.buffer (copyAndReturnString s call.buffer size) (fun ret => -ret) (0 + 1)

/-! ### The specification -/

/-- What a message needs in the buffer, and what `*size` says about it. -/
def content : MessageVariant → Bytes
  | .binary b => b
  | .string s => s ++ [0]

def sizeNeeded : MessageVariant → Int
  | .binary b => b.length
  | .string s => -(s.length + 1 : Nat)

def specify (waiting : List Message) (call : Call) : Answer × List Message :=
  match call.size with
  | none => (⟨WSC_ERR_INVALID, none, []⟩, waiting)
  | some size =>
    match waiting with
    | [] => (⟨WSC_ERR_NOT_AVAIL, some (abs size).toInt, []⟩, [])
    | message :: rest =>
      let head := toVariantCopy message
      if call.buffer = false then (⟨WSC_ERR_SUCCESS, some (sizeNeeded head), []⟩, message :: rest)
      else if size.toInt.natAbs < (content head).length then
        (⟨WSC_ERR_TOO_SMALL, some (sizeNeeded head), []⟩, message :: rest)
      else (⟨WSC_ERR_SUCCESS, some (sizeNeeded head), content head⟩, rest)

def Holds (ws : WebSocket) (waiting : List Message) : Prop := ws.contents = waiting

def Fits (call : Call) (length : Nat) : Prop :=
  call.buffer = true ∧ ∀ size, call.size = some size → length ≤ size.toInt.natAbs

/-- A Binary message with bytes is received at once, a text is not offered too small a buffer unless it is
empty, and the size needed and the absolute value of the size of a buffer are an `int`. -/
def Unmoved (waiting : List Message) (call : Call) : Prop :=
  ∀ message size, waiting.head? = some message → call.size = some size →
    (call.buffer = true → -2 ^ 31 < size.toInt) ∧ match toVariantCopy message with
    | .binary b => b.length < 2 ^ 31 ∧ (b = [] ∨ Fits call b.length)
    | .string s => s.length + 1 < 2 ^ 31 ∧ (s = [] ∨ call.buffer = false ∨ Fits call (s.length + 1))

/-! ### One call -/

/-- `*size` for a number of bytes. -/
def signed : MessageVariant → Int → Int
  | .binary _ => id
  | .string _ => fun ret => -ret

def moved : MessageVariant → Nat
  | .binary _ => 0
  | .string _ => 0 + 1

theorem abs_toInt {size : Int32} (proper : -2 ^ 31 < size.toInt) : (abs size).toInt = size.toInt.natAbs := by
  have upper := size.toInt_lt
  unfold abs
  split
  · rename_i negative
    have below : size.toInt < 0 := Int32.lt_iff_toInt_lt.mp negative
    rw [Int32.toInt_neg, Int.bmod_eq_of_le (by omega) (by omega)]
    omega
  · rename_i natural
    have above : ¬size.toInt < 0 := fun below => natural (Int32.lt_iff_toInt_lt.mpr below)
    omega

theorem abs_least {size : Int32} (least : ¬-2 ^ 31 < size.toInt) :
    (abs size).toInt = -2 ^ 31 ∧ size.toInt.natAbs = 2 ^ 31 := by
  have lower := size.le_toInt
  have value : size.toInt = -2 ^ 31 := by omega
  have same : size = Int32.minValue := Int32.toInt_inj.mp value
  subst same
  decide

theorem signed_injective (variant : MessageVariant) {a b : Int} : signed variant a = signed variant b ↔ a = b := by
  cases variant with
  | binary => rfl
  | string => exact Int.neg_inj

theorem sizeNeeded_eq (variant : MessageVariant) :
    sizeNeeded variant = signed variant (content variant).length := by
  cases variant with
  | binary b => rfl
  | string s => simp [sizeNeeded, signed, content]

theorem toInt_lt (size : Nat) : TcpTransports.toInt size < 2 ^ 31 := by
  have bound : TcpTransports.toInt size < (2 ^ 32 + 1) / 2 := Int.bmod_lt (by decide)
  omega

theorem le_toInt (size : Nat) : -2 ^ 31 ≤ TcpTransports.toInt size := by
  have bound : -((2 ^ 32 : Nat) / 2 : Int) ≤ TcpTransports.toInt size := Int.le_bmod (by decide)
  omega

theorem toInt_eq_iff (size : Nat) : TcpTransports.toInt size = size ↔ size < 2 ^ 31 := by
  constructor
  · intro same
    have bound := toInt_lt size
    omega
  · exact TcpTransports.toInt_eq size

section
variable {passes : Bool} {ws next : WebSocket} {waiting rest : List Message} {message : Message}

theorem receive_wellFormed (wellFormed : WellFormed passes ws) : WellFormed passes ws.receive.2 := by
  cases contents : ws.contents with
  | nil =>
    have none : ws.mRecvQueue.mQueue = [] := List.map_eq_nil_iff.mp contents
    rw [WebSocket.receive, Queues.Queue.pop, none]
    exact wellFormed
  | cons message rest =>
    obtain ⟨next, received, wellFormed', _⟩ := receive_contents wellFormed contents
    rw [received]
    exact wellFormed'

theorem finish_wellFormed (wellFormed : WellFormed passes ws) (buffer : Bool) (copied : Copied) (signed : Int → Int)
    (moved : Nat) : WellFormed passes (finish ws buffer copied signed moved).2 := by
  unfold finish
  split
  · cases buffer with
    | false => exact wellFormed
    | true => exact receive_wellFormed wellFormed
  · exact wellFormed

theorem wscReceiveMessage_some (call : Call) {size : Int32} {variant : MessageVariant} (given : call.size = some size)
    (peeked : ws.peek = (some variant, next)) : wscReceiveMessage ws call =
      finish next call.buffer (copyAndReturn (content variant) call.buffer (abs size).toInt) (signed variant)
        (moved variant) := by
  unfold wscReceiveMessage
  cases variant with
  | binary b => simp only [given, peeked, copyAndReturnBinary, content, signed, moved]
  | string s => simp only [given, peeked, copyAndReturnString, content, signed, moved]

/-- The cases in which a call on a message does what it should: the bytes fit, or the message is as it was
and the size that is reported is right. -/
structure Right (message : Message) (call : Call) (size : Int32) : Prop where
  proper : call.buffer = true → -2 ^ 31 < size.toInt
  int : (content (toVariantCopy message)).length < 2 ^ 31
  fits : call.buffer = true ∧ (content (toVariantCopy message)).length ≤ size.toInt.natAbs ∨
    (toVariant message).2 = message ∧
      (call.buffer = false ∨ moved (toVariantCopy message) = (content (toVariantCopy message)).length)

theorem moved_le_one (variant : MessageVariant) : moved variant ≤ 1 := by
  cases variant with
  | binary => exact Nat.zero_le 1
  | string => exact Nat.le_refl 1

theorem toInt_moved (variant : MessageVariant) : TcpTransports.toInt (moved variant) = moved variant := by
  have least := moved_le_one variant
  exact TcpTransports.toInt_eq _ (by omega)

/-- The least `int` is taken as a buffer that is too small for anything. -/
theorem finish_least {size : Int32} (least : ¬-2 ^ 31 < size.toInt) :
    (finish next true (copyAndReturn (content (toVariantCopy message)) true (abs size).toInt)
      (signed (toVariantCopy message)) (moved (toVariantCopy message))).1 ≠
        (specify (message :: rest) ⟨true, some size⟩).1 := by
  intro answered
  obtain ⟨magnitude, natural⟩ := abs_least least
  have lower := le_toInt (content (toVariantCopy message)).length
  have one := moved_le_one (toVariantCopy message)
  simp only [specify, copyAndReturn, magnitude, natural, sizeNeeded_eq, Bool.true_eq_false, if_false] at answered
  by_cases less : -2 ^ 31 < TcpTransports.toInt (content (toVariantCopy message)).length
  · rw [if_pos less, finish, if_neg (by decide)] at answered
    by_cases short : 2 ^ 31 < (content (toVariantCopy message)).length
    · rw [if_pos short] at answered
      have reported := congrArg Answer.size answered
      simp only [Option.some.injEq, signed_injective, toInt_moved] at reported
      omega
    · rw [if_neg short] at answered
      have returned : WSC_ERR_TOO_SMALL = WSC_ERR_SUCCESS := congrArg Answer.ret answered
      exact absurd returned (by decide)
  · rw [if_neg less, finish, if_neg (by simp only; omega)] at answered
    have returned := congrArg Answer.ret answered
    by_cases short : 2 ^ 31 < (content (toVariantCopy message)).length
    · rw [if_pos short] at returned
      simp only [WSC_ERR_TOO_SMALL] at returned
      omega
    · rw [if_neg short] at returned
      simp only [WSC_ERR_SUCCESS] at returned
      omega

theorem finish_exact (call : Call) {size : Int32} (given : call.size = some size) (wellFormed : WellFormed passes next)
    (contents : next.contents = (toVariant message).2 :: rest) :
    (finish next call.buffer (copyAndReturn (content (toVariantCopy message)) call.buffer (abs size).toInt)
          (signed (toVariantCopy message)) (moved (toVariantCopy message))).1 =
        (specify (message :: rest) call).1 ∧
      Holds (finish next call.buffer (copyAndReturn (content (toVariantCopy message)) call.buffer (abs size).toInt)
          (signed (toVariantCopy message)) (moved (toVariantCopy message))).2
        (specify (message :: rest) call).2 ↔ Right message call size := by
  obtain ⟨after, received, _, taken, _⟩ := receive_contents wellFormed contents
  rcases call with ⟨buffer, offered⟩
  simp only at given
  subst given
  by_cases proper : buffer = true → -2 ^ 31 < size.toInt
  case neg =>
    obtain ⟨rfl, least⟩ := Classical.not_imp.mp proper
    exact iff_of_false (fun both => finish_least least both.1) fun right => least (right.proper rfl)
  generalize variant : toVariantCopy message = head
  have bound := toInt_lt (content head).length
  have exactly := toInt_eq_iff (content head).length
  have right : Right message ⟨buffer, some size⟩ size ↔ (content head).length < 2 ^ 31 ∧
      (buffer = true ∧ (content head).length ≤ size.toInt.natAbs ∨
        (toVariant message).2 = message ∧ (buffer = false ∨ moved head = (content head).length)) := by
    rw [← variant]
    exact ⟨fun right => ⟨right.int, right.fits⟩, fun both => ⟨proper, both.1, both.2⟩⟩
  rw [right]
  simp only [specify, variant, sizeNeeded_eq]
  cases buffer with
  | false =>
    simp only [copyAndReturn, if_true]
    unfold finish
    split
    · simp [Holds, contents, signed_injective, exactly]
    · rename_i negative
      simp only [Answer.mk.injEq]
      constructor
      · rintro ⟨⟨success, _⟩, _⟩
        rw [success] at negative
        exact absurd (Int.le_refl 0) negative
      · intro both
        have same := exactly.mpr both.1
        omega
  | true =>
    have small : TcpTransports.toInt (content head).length ≤ (content head).length := by
      by_cases fits : (content head).length < 2 ^ 31
      · exact Int.le_of_eq (exactly.mpr fits)
      · omega
    simp only [copyAndReturn, Bool.true_eq_false, if_false, true_and, false_or]
    rw [abs_toInt (proper rfl)]
    by_cases less : (size.toInt.natAbs : Int) < TcpTransports.toInt (content head).length
    · rw [if_pos less, if_pos (by omega)]
      unfold finish
      rw [if_neg (by decide)]
      simp only [Holds, contents, Answer.mk.injEq, Option.some.injEq, signed_injective, toInt_moved, true_and,
        List.cons.injEq, and_true]
      have least := moved_le_one head
      constructor
      · rintro ⟨counted, unchanged⟩
        exact ⟨by omega, .inr ⟨unchanged, by omega⟩⟩
      · rintro ⟨_, fits | both⟩
        · omega
        · exact ⟨by omega, both.1⟩
    · rw [if_neg less]
      unfold finish
      by_cases natural : 0 ≤ TcpTransports.toInt (content head).length
      · rw [if_pos natural, if_pos rfl, received]
        by_cases short : size.toInt.natAbs < (content head).length
        · rw [if_pos short]
          constructor
          · rintro ⟨success, _⟩
            have returned : WSC_ERR_SUCCESS = WSC_ERR_TOO_SMALL := congrArg Answer.ret success
            exact absurd returned (by decide)
          · rintro ⟨fits, _⟩
            have same := exactly.mpr fits
            omega
        · rw [if_neg short]
          simp only [Holds, taken, Answer.mk.injEq, Option.some.injEq, signed_injective, exactly, true_and, and_true]
          exact ⟨fun fits => ⟨fits, .inl (by omega)⟩, fun both => both.1⟩
      · rw [if_neg natural]
        have large : ¬(content head).length < 2 ^ 31 := by
          intro fits
          have same := exactly.mpr fits
          omega
        have least := moved_le_one head
        constructor
        · rintro ⟨answered, _⟩
          by_cases short : size.toInt.natAbs < (content head).length
          · rw [if_pos short] at answered
            have reported := congrArg Answer.size answered
            simp only [Option.some.injEq, signed_injective, toInt_moved] at reported
            omega
          · rw [if_neg short] at answered
            have returned := congrArg Answer.ret answered
            simp only [WSC_ERR_SUCCESS] at returned
            omega
        · exact fun both => absurd both.1 large

theorem right_iff (call : Call) {size : Int32} (given : call.size = some size) :
    Right message call size ↔ Unmoved (message :: rest) call := by
  rcases call with ⟨buffer, offered⟩
  simp only at given
  subst given
  have unmoved : Unmoved (message :: rest) ⟨buffer, some size⟩ ↔
      (buffer = true → -2 ^ 31 < size.toInt) ∧ match toVariantCopy message with
      | .binary b => b.length < 2 ^ 31 ∧ (b = [] ∨ Fits ⟨buffer, some size⟩ b.length)
      | .string s => s.length + 1 < 2 ^ 31 ∧
          (s = [] ∨ buffer = false ∨ Fits ⟨buffer, some size⟩ (s.length + 1)) :=
    ⟨fun all => all message size rfl rfl, fun one other number same same' =>
      Option.some.inj same ▸ Option.some.inj same' ▸ one⟩
  have fits : ∀ length, Fits ⟨buffer, some size⟩ length ↔ buffer = true ∧ length ≤ size.toInt.natAbs :=
    fun length => ⟨fun both => ⟨both.1, both.2 size rfl⟩, fun both => ⟨both.1, fun other same =>
      Option.some.inj same ▸ both.2⟩⟩
  have split : Right message ⟨buffer, some size⟩ size ↔ (buffer = true → -2 ^ 31 < size.toInt) ∧
      (content (toVariantCopy message)).length < 2 ^ 31 ∧
      (buffer = true ∧ (content (toVariantCopy message)).length ≤ size.toInt.natAbs ∨
        (toVariant message).2 = message ∧
          (buffer = false ∨ moved (toVariantCopy message) = (content (toVariantCopy message)).length)) :=
    ⟨fun right => ⟨right.proper, right.int, right.fits⟩, fun all => ⟨all.1, all.2.1, all.2.2⟩⟩
  rw [split, unmoved, toVariant_snd_eq_iff]
  apply and_congr_right'
  simp only [fits]
  rcases message with ⟨data, type⟩
  cases type with
  | string =>
    simp only [toVariantCopy, content, moved, List.length_append, List.length_singleton, true_or, true_and]
    cases data with
    | nil => simp
    | cons b data =>
      simp only [List.length_cons, reduceCtorEq, false_or]
      constructor
      · rintro ⟨int, large | none | empty⟩
        · exact ⟨int, .inr large⟩
        · exact ⟨int, .inl none⟩
        · omega
      · rintro ⟨int, none | large⟩
        · exact ⟨int, .inr (.inl none)⟩
        · exact ⟨int, .inl large⟩
  | binary | control | reset =>
    simp only [toVariantCopy, content, moved, reduceCtorEq, false_or]
    cases data with
    | nil => simp
    | cons b data => simp

/-- One call does what is specified, unless it is a call with a message that `Unmoved` excludes. -/
theorem call_exact (call : Call) (wellFormed : WellFormed passes ws) (holds : Holds ws waiting) :
    WellFormed passes (wscReceiveMessage ws call).2 ∧
      ((wscReceiveMessage ws call).1 = (specify waiting call).1 ∧
          Holds (wscReceiveMessage ws call).2 (specify waiting call).2 ↔ Unmoved waiting call) := by
  cases given : call.size with
  | none =>
    simp only [wscReceiveMessage, specify, given]
    refine ⟨wellFormed, ⟨fun _ => ?_, fun _ => ⟨trivial, holds⟩⟩⟩
    intro message size _ number
    simp [given] at number
  | some size =>
    cases waiting with
    | nil =>
      simp only [wscReceiveMessage, specify, given, peek_empty holds]
      refine ⟨wellFormed, ⟨fun _ => ?_, fun _ => ⟨trivial, holds⟩⟩⟩
      intro message size found
      simp at found
    | cons message rest =>
      obtain ⟨next, peeked, wellFormed', contents, _⟩ := peek_cons wellFormed holds
      rw [wscReceiveMessage_some call given peeked, ← right_iff call given]
      exact ⟨finish_wellFormed wellFormed' _ _ _ _, finish_exact call given wellFormed' contents⟩

/-- The calls on a queue of messages do what is specified, exactly when none of them finds a message with a
buffer or a size that `Unmoved` excludes. -/
theorem received_as_specified_iff (calls : List Call) (wellFormed : WellFormed passes ws)
    (holds : ws.contents = waiting) :
    Faithful wscReceiveMessage specify Holds ws waiting calls ↔ Throughout specify Unmoved waiting calls := by
  have every : ∀ (calls : List Call) (waiting : List Message), Throughout specify (fun _ _ => True) waiting calls := by
    intro calls
    induction calls with
    | nil => exact fun _ => trivial
    | cons call calls ih => exact fun waiting => ⟨trivial, ih _⟩
  refine faithful_iff (WellFormed passes) ?_ ?_ calls ws waiting wellFormed holds (every calls waiting)
  · intro ws waiting call wellFormed holds _
    exact (call_exact call wellFormed holds).1
  · intro ws waiting call wellFormed holds _
    exact (call_exact call wellFormed holds).2

end

def holding (message : Message) : WebSocket := pushed (WebSocket.new true false) message

theorem holding_wellFormed (message : Message) : WellFormed false (holding message) :=
  pushed_wellFormed message (new_wellFormed true false)

/-- The size of the text "hi" is asked for, and then it is received. -/
def greeting : List Call := [⟨false, some 0⟩, ⟨true, some 3⟩, ⟨true, some 3⟩]

theorem received_greeting :
    Faithful wscReceiveMessage specify Holds (holding ⟨[104, 105], .string⟩) [⟨[104, 105], .string⟩] greeting := by
  apply (received_as_specified_iff greeting (holding_wellFormed _) rfl).mpr
  refine ⟨?_, ?_, ?_, trivial⟩
  · intro message size first given
    cases first
    exact ⟨fun isNull => absurd isNull (by decide), by decide, .inr (.inl rfl)⟩
  · intro message size first given
    cases first
    cases given
    exact ⟨fun _ => by decide, by decide, .inr (.inr ⟨rfl, fun _ same => Option.some.inj same ▸ by decide⟩)⟩
  · intro message size first given
    cases first

/-- After its size was asked for, a Binary message is received without its bytes. -/
theorem queried_not_as_specified :
    ¬∀ (passes : Bool) (ws : WebSocket) (waiting : List Message) (calls : List Call), WellFormed passes ws →
      ws.contents = waiting → waiting ≠ [] → Faithful wscReceiveMessage specify Holds ws waiting calls := by
  intro all
  have faithful := all false (holding ⟨[7], .binary⟩) _ [⟨false, some 0⟩, ⟨true, some 1⟩]
    (holding_wellFormed _) rfl (by decide)
  have written := congrArg Answer.written faithful.2.2.2.1
  exact absurd written (by decide)

end WebsocketClient.ReceiveMessages
