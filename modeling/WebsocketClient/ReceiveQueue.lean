import Mathlib.Data.List.Nodup
import WebsocketClient.Library.Guarded
import WebsocketClient.Message
import WebsocketClient.Queue

/-! The receive side of `WebSocket`. The queue holds pointers, and a message that is looked at
through one of them can be changed while it waits. -/

namespace WebsocketClient.ReceiveQueues
open ByteString Messages Queues Library.Guarded

def RECV_QUEUE_LIMIT : Nat := 1024

/-- A `message_ptr` is the place of its message among all messages made so far. -/
structure WebSocket where
  messages : List Message
  mRecvQueue : Queue Nat
  mOpenTriggered : Bool
  messageCallback : Bool
  deriving DecidableEq, Repr

namespace WebSocket
variable (ws : WebSocket)

def new (mOpenTriggered messageCallback : Bool) : WebSocket where
  messages := []
  mRecvQueue := Queue.new RECV_QUEUE_LIMIT
  mOpenTriggered := mOpenTriggered
  messageCallback := messageCallback

def deref (pointer : Nat) : Message := ws.messages.getD pointer ⟨[], .binary⟩

/-- `message_size_func`. -/
def messageSizeFunc (pointer : Nat) : Nat := messageSize (ws.deref pointer)

def receive : Option MessageVariant × WebSocket :=
  match ws.mRecvQueue.pop ws.messageSizeFunc with
  | (none, queue) => (none, { ws with mRecvQueue := queue })
  | (some next, queue) =>
      let (variant, moved) := toVariant (ws.deref next)
      (some variant, { ws with mRecvQueue := queue, messages := ws.messages.set next moved })

/-- The pointer is a copy, and the message it points to is moved from like in `receive`. -/
def peek : Option MessageVariant × WebSocket :=
  match ws.mRecvQueue.peek with
  | none => (none, ws)
  | some next =>
      let (variant, moved) := toVariant (ws.deref next)
      (some variant, { ws with messages := ws.messages.set next moved })

def availableAmount : UInt64 := ws.mRecvQueue.amount

/-- The loop of `flushPendingMessages`: what it passes to the message callback. -/
def flush : Nat → WebSocket → List MessageVariant × WebSocket
  | 0, ws => ([], ws)
  | rounds + 1, ws =>
      match ws.receive with
      | (none, ws) => ([], ws)
      | (some next, ws) =>
          let (later, ws) := flush rounds ws
          (next :: later, ws)

/-- Every round takes one message, so the size of the queue bounds their number. -/
def flushPendingMessages : List MessageVariant × WebSocket :=
  if ws.mOpenTriggered && ws.messageCallback then flush (ws.mRecvQueue.size + 1) ws else ([], ws)

/-- The message is a new one, made by the transport; `none` when the push has to wait. -/
def incoming (message : Message) : Option (List MessageVariant × WebSocket) :=
  if message.type = .string ∨ message.type = .binary then
    let ws := { ws with messages := ws.messages ++ [message] }
    match ws.mRecvQueue.push ws.messageSizeFunc (ws.messages.length - 1) with
    | none => none
    | some queue => some ({ ws with mRecvQueue := queue }).flushPendingMessages
  else some ([], ws)

end WebSocket

inductive Call where
  | incoming (message : Message)
  | peek
  | receive
  deriving DecidableEq, Repr

inductive Answer where
  | waiting
  | passed (messages : List MessageVariant)
  | next (message : Option MessageVariant)
  deriving DecidableEq, Repr

def call (ws : WebSocket) : Call → Answer × WebSocket
  | .incoming message =>
      match ws.incoming message with
      | none => (.waiting, ws)
      | some (messages, ws) => (.passed messages, ws)
  | .peek => let (message, ws) := ws.peek; (.next message, ws)
  | .receive => let (message, ws) := ws.receive; (.next message, ws)

/-! ### The specification: a list of messages -/

/-- `passes` tells whether a message callback takes every message at once. -/
def specify (passes : Bool) (waiting : List Message) : Call → Answer × List Message
  | .incoming message =>
      if passes then (.passed ((waiting ++ [message]).map toVariantCopy), [])
      else (.passed [], waiting ++ [message])
  | .peek => (.next (waiting.head?.map toVariantCopy), waiting)
  | .receive => (.next (waiting.head?.map toVariantCopy), waiting.tail)

def WebSocket.contents (ws : WebSocket) : List Message := ws.mRecvQueue.mQueue.map ws.deref

structure Represents (ws : WebSocket) (waiting : List Message) : Prop where
  contents : ws.contents = waiting
  amount : ws.availableAmount = Queue.total messageSize waiting

/-- `incoming` is called with a String or Binary message, below the limit. -/
def Admissible (waiting : List Message) : Call → Prop
  | .incoming message =>
      (message.type = .string ∨ message.type = .binary) ∧ waiting.length < RECV_QUEUE_LIMIT
  | _ => True

def PeeksUnchanged (waiting : List Message) : Call → Prop
  | .peek => ∀ message ∈ waiting.head?, message.type = .string ∨ message.data = []
  | _ => True

/-- No two pointers in the queue are the same. -/
structure WellFormed (passes : Bool) (ws : WebSocket) : Prop where
  limit : ws.mRecvQueue.mLimit = RECV_QUEUE_LIMIT
  running : ws.mRecvQueue.mStopping = false
  flags : (ws.mOpenTriggered && ws.messageCallback) = passes
  distinct : ws.mRecvQueue.mQueue.Nodup
  inside : ∀ pointer ∈ ws.mRecvQueue.mQueue, pointer < ws.messages.length

theorem deref_set_self (ws : WebSocket) (pointer : Nat) (message : Message)
    (inside : pointer < ws.messages.length) :
    ({ ws with messages := ws.messages.set pointer message }).deref pointer = message := by
  simp [WebSocket.deref, inside]

theorem deref_set_other (ws : WebSocket) (pointer other : Nat) (message : Message)
    (different : pointer ≠ other) :
    ({ ws with messages := ws.messages.set pointer message }).deref other = ws.deref other := by
  simp [WebSocket.deref, List.getD, List.getElem?_set_ne different]

theorem map_deref_set (ws : WebSocket) (pointers : List Nat) (pointer : Nat) (message : Message)
    (different : pointer ∉ pointers) :
    pointers.map ({ ws with messages := ws.messages.set pointer message }).deref =
      pointers.map ws.deref := by
  apply List.map_congr_left
  intro other member
  exact deref_set_other ws pointer other message (fun same => different (same ▸ member))

/-! ### One call -/

section
variable {passes : Bool} {ws : WebSocket} {waiting : List Message}

theorem receive_empty (represents : Represents ws []) : ws.receive = (none, ws) := by
  have none : ws.mRecvQueue.mQueue = [] := List.map_eq_nil_iff.mp represents.contents
  rw [WebSocket.receive, Queue.pop, none]

theorem front_cons {message : Message} {rest : List Message} (contents : ws.contents = message :: rest) :
    ∃ front pointers, ws.mRecvQueue.mQueue = front :: pointers ∧ ws.deref front = message ∧
      pointers.map ws.deref = rest := by
  unfold WebSocket.contents at contents
  cases queue : ws.mRecvQueue.mQueue with
  | nil => simp [queue] at contents
  | cons front pointers =>
    rw [queue, List.map_cons, List.cons.injEq] at contents
    exact ⟨front, pointers, rfl, contents.1, contents.2⟩

theorem receive_contents {message : Message} {rest : List Message} (wellFormed : WellFormed passes ws)
    (contents : ws.contents = message :: rest) :
    ∃ next, ws.receive = (some (toVariantCopy message), next) ∧ WellFormed passes next ∧ next.contents = rest ∧
      next.availableAmount = ws.availableAmount - UInt64.ofNat (messageSize message) := by
  obtain ⟨front, pointers, queue, value, others⟩ := front_cons contents
  have distinct := wellFormed.distinct
  have inside := wellFormed.inside
  rw [queue] at distinct inside
  let queue' : Queue Nat := { ws.mRecvQueue with
    mAmount := ws.mRecvQueue.mAmount - UInt64.ofNat (ws.messageSizeFunc front)
    mQueue := pointers }
  refine ⟨{ ws with mRecvQueue := queue', messages := ws.messages.set front (toVariant message).2 },
    ?_, ?_, ?_, ?_⟩
  · simp only [WebSocket.receive, Queue.pop, queue, value, toVariant_fst, queue']
  · refine ⟨wellFormed.limit, wellFormed.running, wellFormed.flags, (List.nodup_cons.mp distinct).2, ?_⟩
    intro pointer member
    simp only [List.length_set]
    exact inside pointer (List.mem_cons_of_mem front member)
  · rw [← others]
    exact map_deref_set ws pointers front _ (List.nodup_cons.mp distinct).1
  · rw [← value]
    rfl

theorem receive_cons {message : Message} {rest : List Message} (wellFormed : WellFormed passes ws)
    (represents : Represents ws (message :: rest)) :
    ∃ next, ws.receive = (some (toVariantCopy message), next) ∧ WellFormed passes next ∧
      Represents next rest := by
  obtain ⟨next, received, wellFormed', contents, amount⟩ := receive_contents wellFormed represents.contents
  refine ⟨next, received, wellFormed', contents, ?_⟩
  rw [amount, represents.amount]
  exact Queue.total_cons messageSize message rest

theorem peek_empty (contents : ws.contents = []) : ws.peek = (none, ws) := by
  have none : ws.mRecvQueue.mQueue = [] := List.map_eq_nil_iff.mp contents
  simp only [WebSocket.peek, Queue.peek, none, List.head?_nil]

theorem peek_cons {message : Message} {rest : List Message} (wellFormed : WellFormed passes ws)
    (contents : ws.contents = message :: rest) :
    ∃ next, ws.peek = (some (toVariantCopy message), next) ∧ WellFormed passes next ∧
      next.contents = (toVariant message).2 :: rest ∧ next.availableAmount = ws.availableAmount := by
  obtain ⟨front, pointers, queue, value, others⟩ := front_cons contents
  have distinct := wellFormed.distinct
  have inside := wellFormed.inside
  rw [queue] at distinct inside
  refine ⟨{ ws with messages := ws.messages.set front (toVariant message).2 }, ?_, ?_, ?_, rfl⟩
  · simp only [WebSocket.peek, Queue.peek, queue, List.head?_cons, value, toVariant_fst]
  · refine ⟨wellFormed.limit, wellFormed.running, wellFormed.flags, wellFormed.distinct, ?_⟩
    intro pointer member
    simp only [List.length_set]
    exact wellFormed.inside pointer member
  · rw [WebSocket.contents, queue, List.map_cons, ← others,
      map_deref_set ws pointers front _ (List.nodup_cons.mp distinct).1,
      deref_set_self ws front _ (inside front (List.mem_cons_self ..))]

theorem flush_all (rounds : Nat) (waiting : List Message) (enough : waiting.length < rounds) :
    ∀ ws, WellFormed passes ws → Represents ws waiting →
      ∃ next, WebSocket.flush rounds ws = (waiting.map toVariantCopy, next) ∧
        WellFormed passes next ∧ Represents next [] := by
  induction rounds generalizing waiting with
  | zero => omega
  | succ rounds ih =>
    intro ws wellFormed represents
    cases waiting with
    | nil =>
      refine ⟨ws, ?_, wellFormed, represents⟩
      rw [WebSocket.flush, receive_empty represents, List.map_nil]
    | cons message rest =>
      obtain ⟨next, received, wellFormed', represents'⟩ := receive_cons wellFormed represents
      obtain ⟨last, flushed, done⟩ := ih rest (Nat.lt_of_succ_lt_succ enough) next wellFormed' represents'
      refine ⟨last, ?_, done⟩
      rw [WebSocket.flush, received]
      simp only [flushed, List.map_cons]

theorem flushPendingMessages_spec (wellFormed : WellFormed passes ws)
    (represents : Represents ws waiting) :
    ∃ next, ws.flushPendingMessages = (if passes then waiting.map toVariantCopy else [], next) ∧
      WellFormed passes next ∧ Represents next (if passes then [] else waiting) := by
  unfold WebSocket.flushPendingMessages
  rw [wellFormed.flags]
  cases passes with
  | false => exact ⟨ws, rfl, wellFormed, represents⟩
  | true =>
    have size : waiting.length < ws.mRecvQueue.size + 1 := by
      rw [← represents.contents, WebSocket.contents, List.length_map, Queue.size]
      exact Nat.lt_succ_self _
    exact flush_all _ waiting size ws wellFormed represents

/-- The state after the push, with a new message behind the old ones. -/
def pushed (ws : WebSocket) (message : Message) : WebSocket :=
  { ws with
    messages := ws.messages ++ [message]
    mRecvQueue := { ws.mRecvQueue with
      mAmount := ws.mRecvQueue.mAmount + UInt64.ofNat (messageSize message)
      mQueue := ws.mRecvQueue.mQueue ++ [ws.messages.length] } }

theorem pushed_deref_new (ws : WebSocket) (message : Message) :
    (pushed ws message).deref ws.messages.length = message := by
  simp [WebSocket.deref, pushed]

theorem pushed_deref_old (ws : WebSocket) (message : Message) (pointer : Nat)
    (inside : pointer < ws.messages.length) : (pushed ws message).deref pointer = ws.deref pointer := by
  simp [WebSocket.deref, pushed, List.getElem?_append_left inside]

theorem pushed_wellFormed (message : Message) (wellFormed : WellFormed passes ws) :
    WellFormed passes (pushed ws message) := by
  refine ⟨wellFormed.limit, wellFormed.running, wellFormed.flags, ?_, ?_⟩
  · have fresh : ws.messages.length ∉ ws.mRecvQueue.mQueue :=
      fun member => Nat.lt_irrefl _ (wellFormed.inside _ member)
    exact wellFormed.distinct.append (List.nodup_singleton _)
      (List.disjoint_singleton.mpr fresh)
  · intro pointer member
    simp only [pushed, List.length_append, List.length_singleton]
    rcases List.mem_append.mp member with old | new
    · exact Nat.lt_succ_of_lt (wellFormed.inside pointer old)
    · rw [List.mem_singleton.mp new]
      exact Nat.lt_succ_self _

theorem pushed_represents (message : Message) (wellFormed : WellFormed passes ws)
    (represents : Represents ws waiting) : Represents (pushed ws message) (waiting ++ [message]) := by
  constructor
  · have old : ws.mRecvQueue.mQueue.map (pushed ws message).deref = waiting := by
      rw [← represents.contents]
      apply List.map_congr_left
      intro pointer member
      exact pushed_deref_old ws message pointer (wellFormed.inside pointer member)
    change (ws.mRecvQueue.mQueue ++ [ws.messages.length]).map _ = _
    rw [List.map_append, old, List.map_singleton, pushed_deref_new]
  · rw [Queue.total_append, ← represents.amount]
    rfl

theorem incoming_spec {message : Message} (wellFormed : WellFormed passes ws)
    (represents : Represents ws waiting) (admitted : Admissible waiting (.incoming message)) :
    ∃ next, ws.incoming message = some (if passes then (waiting ++ [message]).map toVariantCopy else [], next) ∧
      WellFormed passes next ∧ Represents next (if passes then [] else waiting ++ [message]) := by
  have size : ws.mRecvQueue.mQueue.length = waiting.length := by
    rw [← represents.contents, WebSocket.contents, List.length_map]
  have room : ws.mRecvQueue.hasRoom := by
    right
    left
    rw [wellFormed.limit, size]
    exact admitted.2
  have queued : ws.incoming message = some (pushed ws message).flushPendingMessages := by
    rw [WebSocket.incoming, if_pos admitted.1]
    simp only [Queue.push_running _ _ _ wellFormed.running room, List.length_append, List.length_singleton,
      Nat.add_sub_cancel]
    have new : messageSize message = ({ ws with messages := ws.messages ++ [message] }).messageSizeFunc
        ws.messages.length := by
      rw [WebSocket.messageSizeFunc]
      exact congrArg messageSize (pushed_deref_new ws message).symm
    rw [← new]
    rfl
  obtain ⟨next, flushed, done⟩ := flushPendingMessages_spec
    (pushed_wellFormed message wellFormed) (pushed_represents message wellFormed represents)
  exact ⟨next, by rw [queued, flushed], done⟩

/-! ### Every call -/

/-- One call answers as specified and leaves the specified messages, unless it is a `peek` that
takes the bytes out of the oldest message. -/
theorem call_exact (one : Call) (wellFormed : WellFormed passes ws) (represents : Represents ws waiting)
    (admitted : Admissible waiting one) :
    WellFormed passes (call ws one).2 ∧
      ((call ws one).1 = (specify passes waiting one).1 ∧
          Represents (call ws one).2 (specify passes waiting one).2 ↔
        PeeksUnchanged waiting one) := by
  cases one with
  | incoming message =>
    obtain ⟨next, queued, wellFormed', represents'⟩ := incoming_spec wellFormed represents admitted
    simp only [call, queued, specify, PeeksUnchanged, iff_true]
    cases passes <;> exact ⟨wellFormed', rfl, represents'⟩
  | peek =>
    cases waiting with
    | nil =>
      simp only [call, peek_empty represents.contents, specify, PeeksUnchanged]
      exact ⟨wellFormed, by simp [represents]⟩
    | cons message rest =>
      obtain ⟨next, peeked, wellFormed', contents, amount⟩ := peek_cons wellFormed represents.contents
      simp only [call, peeked, specify, PeeksUnchanged]
      refine ⟨wellFormed', ?_⟩
      simp only [List.head?_cons, Option.map_some, true_and, Option.mem_def, Option.some.injEq,
        forall_eq', ← toVariant_snd_eq_iff]
      constructor
      · intro represents'
        have same := contents.symm.trans represents'.contents
        exact (List.cons.inj same).1
      · intro unchanged
        rw [unchanged] at contents
        exact ⟨contents, amount.trans represents.amount⟩
  | receive =>
    cases waiting with
    | nil =>
      simp only [call, receive_empty represents, specify, PeeksUnchanged]
      exact ⟨wellFormed, by simp [represents]⟩
    | cons message rest =>
      obtain ⟨next, received, wellFormed', represents'⟩ := receive_cons wellFormed represents
      simp only [call, received, specify, PeeksUnchanged]
      exact ⟨wellFormed', by simp [represents']⟩

end

/-! ### Every sequence of calls -/

theorem new_wellFormed (mOpenTriggered messageCallback : Bool) :
    WellFormed (mOpenTriggered && messageCallback) (WebSocket.new mOpenTriggered messageCallback) :=
  ⟨rfl, rfl, rfl, List.nodup_nil, fun _ member => absurd member List.not_mem_nil⟩

theorem new_represents (mOpenTriggered messageCallback : Bool) :
    Represents (WebSocket.new mOpenTriggered messageCallback) [] := ⟨rfl, rfl⟩

theorem run_faithful_iff {passes : Bool} (calls : List Call) :
    ∀ ws waiting, WellFormed passes ws → Represents ws waiting →
      Throughout (specify passes) Admissible waiting calls →
      (Faithful call (specify passes) Represents ws waiting calls ↔
        Throughout (specify passes) PeeksUnchanged waiting calls) := by
  refine faithful_iff (WellFormed passes) ?_ ?_ calls
  · intro ws waiting one wellFormed represents admitted
    exact (call_exact one wellFormed represents admitted).1
  · intro ws waiting one wellFormed represents admitted
    exact (call_exact one wellFormed represents admitted).2

/-- From an empty queue on, the calls behave like those of a list of messages exactly when no
`peek` meets a Binary message with bytes at the front. -/
theorem calls_faithful_iff (mOpenTriggered messageCallback : Bool) (calls : List Call)
    (admitted : Throughout (specify (mOpenTriggered && messageCallback)) Admissible [] calls) :
    Faithful call (specify (mOpenTriggered && messageCallback)) Represents
        (WebSocket.new mOpenTriggered messageCallback) [] calls ↔
      Throughout (specify (mOpenTriggered && messageCallback)) PeeksUnchanged [] calls :=
  run_faithful_iff calls _ _ (new_wellFormed _ _) (new_represents _ _) admitted

def peekedString : List Call := [.incoming ⟨[104, 105], .string⟩, .peek, .peek, .receive]

theorem calls_faithful_peekedString :
    Faithful call (specify false) Represents (WebSocket.new true false) [] peekedString ↔
      Throughout (specify false) PeeksUnchanged [] peekedString :=
  calls_faithful_iff true false peekedString ⟨⟨Or.inl rfl, by decide⟩, trivial, trivial, trivial, trivial⟩

/-- A Binary message that is looked at before it is received arrives empty. -/
theorem peekedBinary_unfaithful :
    ¬∀ (mOpenTriggered messageCallback : Bool) (calls : List Call),
      Throughout (specify (mOpenTriggered && messageCallback)) Admissible [] calls →
      Faithful call (specify (mOpenTriggered && messageCallback)) Represents
        (WebSocket.new mOpenTriggered messageCallback) [] calls := by
  intro all
  have faithful := all true false [.incoming ⟨[7], .binary⟩, .peek, .receive]
    ⟨⟨Or.inr rfl, by decide⟩, trivial, trivial, trivial⟩
  have received := faithful.2.2.2.2.2.1
  exact absurd received (by decide)

/-- What a call hands over for good. -/
def taken : Call → Answer → List MessageVariant
  | .incoming _, .passed messages => messages
  | .receive, .next (some message) => [message]
  | _, _ => []

def takenAlong {S : Type} (step : S → Call → Answer × S) : S → List Call → List MessageVariant
  | _, [] => []
  | s, one :: calls => taken one (step s one).1 ++ takenAlong step (step s one).2 calls

def pushedAlong : List Call → List Message
  | [] => []
  | .incoming message :: calls => message :: pushedAlong calls
  | _ :: calls => pushedAlong calls

theorem specify_order (passes : Bool) (calls : List Call) (waiting : List Message) :
    ∃ left : List Message, takenAlong (specify passes) waiting calls ++ left.map toVariantCopy =
      (waiting ++ pushedAlong calls).map toVariantCopy := by
  induction calls generalizing waiting with
  | nil => exact ⟨waiting, by simp [takenAlong, pushedAlong]⟩
  | cons one calls ih =>
    obtain ⟨left, order⟩ := ih (specify passes waiting one).2
    refine ⟨left, ?_⟩
    rw [takenAlong, List.append_assoc, order]
    cases one with
    | incoming message => cases passes <;> simp [specify, taken, pushedAlong]
    | peek => simp [specify, taken, pushedAlong]
    | receive => cases waiting <;> simp [specify, taken, pushedAlong]

theorem taken_eq_of_faithful {S X : Type} {step : S → Call → Answer × S} {spec : X → Call → Answer × X}
    {related : S → X → Prop} {s : S} {x : X} {calls : List Call}
    (faithful : Faithful step spec related s x calls) :
    takenAlong step s calls = takenAlong spec x calls := by
  induction calls generalizing s x with
  | nil => rfl
  | cons one calls ih => rw [takenAlong, takenAlong, faithful.2.1, ih faithful.2.2]

theorem received_in_order (mOpenTriggered messageCallback : Bool) (calls : List Call)
    (admitted : Throughout (specify (mOpenTriggered && messageCallback)) Admissible [] calls)
    (unchanged : Throughout (specify (mOpenTriggered && messageCallback)) PeeksUnchanged [] calls) :
    ∃ left : List Message, takenAlong call (WebSocket.new mOpenTriggered messageCallback) calls ++
      left.map toVariantCopy = (pushedAlong calls).map toVariantCopy := by
  have faithful := (run_faithful_iff calls _ _ (new_wellFormed mOpenTriggered messageCallback)
    (new_represents _ _) admitted).mpr unchanged
  obtain ⟨left, order⟩ := specify_order (mOpenTriggered && messageCallback) calls []
  exact ⟨left, by rw [taken_eq_of_faithful faithful, order, List.nil_append]⟩

end WebsocketClient.ReceiveQueues
