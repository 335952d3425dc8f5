import WebsocketClient.Library.Runs
import WebsocketClient.TlsSend
import WebsocketClient.ReceiveQueue

/-! `TlsTransport::ReadCallback`, through which the library reads the messages that `incoming` has
pushed. A zero-sized message is passed on as a sign that the connection is idle. -/

namespace WebsocketClient.TlsReads
open ByteString Queues ReceiveQueues TlsTransports Library.Runs

def MBEDTLS_ERR_SSL_CONN_EOF : Int := -0x7280

structure Answer where
  ret : Int
  /-- The number of the session's last error was set to `EAGAIN`. -/
  again : Bool
  deriving DecidableEq, Repr

/-- The number of bytes that were copied, as an `ssize_t` or as an `int`. -/
def copied : Build → Nat → Answer
  | .gnutls, length => ⟨length, false⟩
  | .mbedtls, length => ⟨TcpTransports.toInt length, false⟩

def wouldBlock : Build → Answer
  | .gnutls => ⟨-1, true⟩
  | .mbedtls => ⟨MBEDTLS_ERR_SSL_WANT_READ, false⟩

def closed : Build → Answer
  | .gnutls => ⟨0, false⟩
  | .mbedtls => ⟨MBEDTLS_ERR_SSL_CONN_EOF, false⟩

structure TlsTransport where
  mIncomingQueue : Queue Bytes
  mIncomingMessage : Option Bytes
  mIncomingMessagePosition : Nat
  /-- The messages pushed, the zero-sized ones passed to `recv`, and the bytes the library got. -/
  pushed : List Bytes
  received : List Bytes
  returned : Bytes
  /-- The answer of the last step, if that was a `ReadCallback`. -/
  answer : Option Answer
  deriving DecidableEq, Repr

namespace TlsTransport

/-- The loop over the queue. -/
def drain : Nat → TlsTransport → TlsTransport
  | 0, t => t
  | rounds + 1, t =>
    match t.mIncomingQueue.pop List.length with
    | (none, queue) => { t with mIncomingQueue := queue }
    | (some next, queue) =>
      let t := { t with mIncomingQueue := queue, mIncomingMessage := some next }
      if 0 < next.length then t else drain rounds { t with received := t.received ++ [next] }

/-- A message that has been read to its end is let go of. -/
def reset (t : TlsTransport) : TlsTransport :=
  match t.mIncomingMessage with
  | some message => if message.length ≤ t.mIncomingMessagePosition then { t with mIncomingMessage := none } else t
  | none => t

/-- The next message is taken. Every round takes one, so the size of the queue bounds their number. -/
def advance (t : TlsTransport) : TlsTransport :=
  match t.mIncomingMessage with
  | some _ => t
  | none => drain (t.mIncomingQueue.size + 1) { t with mIncomingMessagePosition := 0 }

def copy (build : Build) (maxlen : Nat) (t : TlsTransport) : TlsTransport :=
  match t.mIncomingMessage with
  | some message =>
    let available := message.length - t.mIncomingMessagePosition
    let len := min maxlen available
    let answer := copied build len
    { t with
      mIncomingMessagePosition := t.mIncomingMessagePosition + len
      returned := t.returned ++
        ((message.drop t.mIncomingMessagePosition).take len).take answer.ret.toNat
      answer := some answer }
  | none =>
    { t with answer := some (if t.mIncomingQueue.running then wouldBlock build else closed build) }

def readCallback (build : Build) (maxlen : Nat) (t : TlsTransport) : TlsTransport :=
  t.reset.advance.copy build maxlen

end TlsTransport

inductive Label where
  | push (message : Bytes)
  | stop
  | readCallback (maxlen : Nat)
  deriving DecidableEq, Repr

/-- Messages come until the queue is stopped. -/
inductive Step (build : Build) : TlsTransport → Label → TlsTransport → Prop where
  | push (t : TlsTransport) (message : Bytes) (queue : Queue Bytes) : t.mIncomingQueue.mStopping = false →
      t.mIncomingQueue.push List.length message = some queue →
      Step build t (.push message) { t with
        mIncomingQueue := queue, pushed := t.pushed ++ [message], answer := none }
  | stop (t : TlsTransport) :
      Step build t .stop { t with mIncomingQueue := t.mIncomingQueue.stop, answer := none }
  | readCallback (t : TlsTransport) (maxlen : Nat) : 0 < maxlen →
      Step build t (.readCallback maxlen) (t.readCallback build maxlen)

def TlsTransport.initial : TlsTransport where
  mIncomingQueue := Queue.new RECV_QUEUE_LIMIT
  mIncomingMessage := none
  mIncomingMessagePosition := 0
  pushed := []
  received := []
  returned := []
  answer := none

namespace TlsTransport

/-- What is left of the current message. -/
def current (t : TlsTransport) : Bytes :=
  match t.mIncomingMessage with
  | some message => message.drop t.mIncomingMessagePosition
  | none => []

def waiting (t : TlsTransport) : Bytes := t.current ++ t.mIncomingQueue.mQueue.flatten

end TlsTransport

/-- A return value of zero, or `MBEDTLS_ERR_SSL_CONN_EOF`. -/
def EndOfStream (build : Build) (answer : Answer) : Prop :=
  answer.ret = 0 ∨ (build = .mbedtls ∧ answer.ret = MBEDTLS_ERR_SSL_CONN_EOF)

structure InOrder (t : TlsTransport) : Prop where
  /-- The bytes that were read, followed by those that were not. -/
  bytes : t.returned ++ t.waiting = t.pushed.flatten
  /-- Zero-sized messages are passed on once, when they leave the queue. -/
  idle : t.received ++ t.mIncomingQueue.mQueue.filter List.isEmpty = t.pushed.filter List.isEmpty

structure Faithful (build : Build) (t : TlsTransport) : Prop extends InOrder t where
  ends : ∀ answer, t.answer = some answer → EndOfStream build answer →
    t.mIncomingQueue.mStopping = true ∧ t.returned = t.pushed.flatten
  blocks : ∀ answer, t.answer = some answer →
    0 < answer.ret ∨ EndOfStream build answer ∨ (answer = wouldBlock build ∧ t.waiting = [])

/-- The message that the next bytes are read from; without one that has any it is empty. -/
def TlsTransport.source (t : TlsTransport) : Bytes :=
  if t.current = [] then (t.mIncomingQueue.mQueue.find? fun message => !message.isEmpty).getD [] else t.current

def TlsTransport.Idle (t : TlsTransport) : Prop :=
  t.current = [] ∧ t.mIncomingQueue.mQueue ≠ [] ∧ t.mIncomingQueue.mQueue.flatten = [] ∧
    t.mIncomingQueue.mStopping = false

def Fits (build : Build) (t : TlsTransport) : Label → Prop
  | .readCallback maxlen => build = .mbedtls → min maxlen t.source.length < 2 ^ 31
  | _ => True

def Readable (build : Build) (t : TlsTransport) : Label → Prop
  | .readCallback maxlen => ¬t.Idle ∧ Fits build t (.readCallback maxlen)
  | _ => True

/-- What the loop over the queue leaves alone. -/
structure Kept (t next : TlsTransport) : Prop where
  position : next.mIncomingMessagePosition = t.mIncomingMessagePosition
  pushed : next.pushed = t.pushed
  returned : next.returned = t.returned
  stopping : next.mIncomingQueue.mStopping = t.mIncomingQueue.mStopping

/-- The loop ends with the first message that has bytes, or with the last one. -/
structure Drained (t next : TlsTransport) (empty : List Bytes) : Prop extends Kept t next where
  empty_eq : ∀ message ∈ empty, message = []
  received : next.received = t.received ++ empty
  ends : (∃ message, message ≠ [] ∧ next.mIncomingMessage = some message ∧
      t.mIncomingQueue.mQueue = empty ++ message :: next.mIncomingQueue.mQueue) ∨
    (t.mIncomingQueue.mQueue = empty ∧ next.mIncomingQueue.mQueue = [] ∧
      next.mIncomingMessage = if empty = [] then t.mIncomingMessage else some [])

theorem drain_drained (rounds : Nat) (t : TlsTransport) (enough : t.mIncomingQueue.mQueue.length < rounds) :
    ∃ empty, Drained t (t.drain rounds) empty := by
  induction rounds generalizing t with
  | zero => exact absurd enough (Nat.not_lt_zero _)
  | succ rounds ih =>
    unfold TlsTransport.drain
    split
    · rename_i queue popped
      obtain ⟨none, rfl⟩ := Queue.pop_eq_none popped
      exact ⟨[], ⟨rfl, rfl, rfl, rfl⟩, nofun, (List.append_nil _).symm, .inr ⟨none, none, rfl⟩⟩
    · rename_i next queue popped
      obtain ⟨shape, stopping⟩ := Queue.pop_eq_some popped
      by_cases full : 0 < next.length
      · simp only [if_pos full]
        refine ⟨[], ⟨rfl, rfl, rfl, stopping⟩, nofun, by simp, .inl ⟨next, ?_, rfl, shape⟩⟩
        exact List.ne_nil_of_length_pos full
      · simp only [if_neg full]
        have zero : next = [] := List.length_eq_zero_iff.mp (by omega)
        rw [shape, List.length_cons] at enough
        obtain ⟨empty, drained⟩ := ih { t with
          mIncomingQueue := queue, mIncomingMessage := some next, received := t.received ++ [next] }
              (by simp only; omega)
        refine ⟨next :: empty, ⟨drained.position, drained.pushed, drained.returned, drained.stopping.trans stopping⟩,
          ?_, ?_, ?_⟩
        · intro message member
          rcases List.mem_cons.mp member with rfl | later
          · exact zero
          · exact drained.empty_eq message later
        · rw [drained.received, List.append_assoc]
          rfl
        · rcases drained.ends with ⟨message, hasBytes, taken, rest⟩ | ⟨all, none, last⟩
          · refine .inl ⟨message, hasBytes, taken, ?_⟩
            rw [shape, show queue.mQueue = _ from rest]
            rfl
          · refine .inr ⟨?_, none, ?_⟩
            · rw [shape, show queue.mQueue = _ from all]
            · rw [last, zero]
              simp

namespace TlsTransport

theorem reset_exhausted {t : TlsTransport} (exhausted : t.current = []) :
    t.reset = { t with mIncomingMessage := none } := by
  unfold reset
  unfold current at exhausted
  split
  · rename_i message taken
    rw [taken] at exhausted
    rw [if_pos (List.drop_eq_nil_iff.mp exhausted)]
  · rename_i none
    rw [← none]

theorem advance_reset_of_current {t : TlsTransport} (more : t.current ≠ []) : t.reset.advance = t := by
  unfold current at more
  split at more
  · rename_i message taken
    have before : ¬message.length ≤ t.mIncomingMessagePosition := fun past => more (List.drop_eq_nil_of_le past)
    have kept : t.reset = t := by
      rw [reset, taken]
      exact if_neg before
    rw [kept, advance, taken]
  · exact absurd rfl more

end TlsTransport

theorem flatten_empty {empty : List Bytes} (zero : ∀ message ∈ empty, message = []) : empty.flatten = [] :=
  List.flatten_eq_nil_iff.mpr zero

theorem filter_empty {empty : List Bytes} (zero : ∀ message ∈ empty, message = []) :
    empty.filter List.isEmpty = empty :=
  List.filter_eq_self.mpr fun message member => by rw [zero message member]; rfl

/-- A transport that is about to copy. -/
structure Ready (t next : TlsTransport) : Prop where
  pushed : next.pushed = t.pushed
  returned : next.returned = t.returned
  stopping : next.mIncomingQueue.mStopping = t.mIncomingQueue.mStopping
  waiting : next.waiting = t.waiting
  idle : next.received ++ next.mIncomingQueue.mQueue.filter List.isEmpty =
    t.received ++ t.mIncomingQueue.mQueue.filter List.isEmpty
  ends : (t.source ≠ [] ∧ next.current = t.source) ∨
    (t.waiting = [] ∧ next.mIncomingQueue.mQueue = [] ∧
      ((t.mIncomingQueue.mQueue ≠ [] ∧ next.mIncomingMessage = some []) ∨
        (t.mIncomingQueue.mQueue = [] ∧ next.mIncomingMessage = none)))

section
variable {t next : TlsTransport} {empty : List Bytes}

theorem Drained.ready_message (exhausted : t.current = [])
    (drained : Drained { t with mIncomingMessage := none, mIncomingMessagePosition := 0 } next empty)
    {message : Bytes} (hasBytes : message ≠ []) (taken : next.mIncomingMessage = some message)
    (queue : t.mIncomingQueue.mQueue = empty ++ message :: next.mIncomingQueue.mQueue) : Ready t next := by
  have received : next.received = t.received ++ empty := drained.received
  have position : next.mIncomingMessagePosition = 0 := drained.position
  have full : message.isEmpty = false := by simpa using hasBytes
  have current : next.current = message := by
    rw [TlsTransport.current, taken, position]
    rfl
  have source : t.source = message := by
    rw [TlsTransport.source, if_pos exhausted, queue, List.find?_append, List.find?_eq_none.mpr,
      List.find?_cons_of_pos]
    · rfl
    · simp [full]
    · intro other member
      simp [drained.empty_eq other member]
  refine ⟨drained.pushed, drained.returned, drained.stopping, ?_, ?_, .inl ⟨source ▸ hasBytes, ?_⟩⟩
  · rw [TlsTransport.waiting, TlsTransport.waiting, current, exhausted, queue, List.flatten_append,
      flatten_empty drained.empty_eq]
    rfl
  · rw [received, queue, List.filter_append, filter_empty drained.empty_eq,
      List.filter_cons_of_neg (by simp [full]), List.append_assoc]
  · rw [current, source]

theorem Drained.ready_dry (exhausted : t.current = [])
    (drained : Drained { t with mIncomingMessage := none, mIncomingMessagePosition := 0 } next empty)
    (all : t.mIncomingQueue.mQueue = empty) (dry : next.mIncomingQueue.mQueue = [])
    (last : next.mIncomingMessage = if empty = [] then none else some []) : Ready t next := by
  have received : next.received = t.received ++ empty := drained.received
  have current : next.current = [] := by
    rw [TlsTransport.current, last]
    split_ifs <;> simp
  have waiting : t.waiting = [] := by
    rw [TlsTransport.waiting, exhausted, all, flatten_empty drained.empty_eq]
    rfl
  refine ⟨drained.pushed, drained.returned, drained.stopping, ?_, ?_, .inr ⟨waiting, dry, ?_⟩⟩
  · rw [waiting, TlsTransport.waiting, current, dry]
    rfl
  · rw [received, dry, all, filter_empty drained.empty_eq]
    exact List.append_nil _
  · rw [last, all]
    by_cases nothing : empty = []
    · exact .inr ⟨nothing, if_pos nothing⟩
    · exact .inl ⟨nothing, if_neg nothing⟩

end

theorem ready_advance_reset (t : TlsTransport) : Ready t t.reset.advance := by
  by_cases more : t.current = []
  · have start : t.reset.advance = TlsTransport.drain (t.mIncomingQueue.size + 1)
        { t with mIncomingMessage := none, mIncomingMessagePosition := 0 } := by
      rw [TlsTransport.reset_exhausted more]
      rfl
    obtain ⟨empty, drained⟩ := drain_drained (t.mIncomingQueue.size + 1)
      { t with mIncomingMessage := none, mIncomingMessagePosition := 0 } (Nat.lt_succ_self _)
    rw [← start] at drained
    rcases drained.ends with ⟨message, hasBytes, taken, queue⟩ | ⟨all, dry, last⟩
    · exact drained.ready_message more hasBytes taken queue
    · exact drained.ready_dry more all dry last
  · rw [TlsTransport.advance_reset_of_current more]
    exact ⟨rfl, rfl, rfl, rfl, rfl, .inl ⟨by rwa [TlsTransport.source, if_neg more], by
      rw [TlsTransport.source, if_neg more]⟩⟩

section
variable {build : Build} {maxlen : Nat} {t next : TlsTransport}

theorem copied_exact {length : Nat} (fits : build = .mbedtls → length < 2 ^ 31) :
    (copied build length).ret = length := by
  cases build with
  | gnutls => rfl
  | mbedtls =>
    simp only [copied]
    exact TcpTransports.toInt_eq length (fits rfl)

theorem copied_short {length : Nat} (large : ¬(build = .mbedtls → length < 2 ^ 31)) :
    (copied build length).ret.toNat < length := by
  simp only [Classical.not_imp, Nat.not_lt] at large
  obtain ⟨rfl, large⟩ := large
  have bound : TcpTransports.toInt length < _ := Int.bmod_lt (Nat.two_pow_pos 32)
  simp only [copied]
  omega

structure Copied (build : Build) (length : Nat) (t final : TlsTransport) : Prop where
  queue : final.mIncomingQueue = t.mIncomingQueue
  pushed : final.pushed = t.pushed
  received : final.received = t.received
  returned : final.returned = t.returned ++ (t.current.take length).take (copied build length).ret.toNat
  current : final.current = t.current.drop length
  answer : final.answer = some (copied build length)

theorem copy_message {message : Bytes} (taken : next.mIncomingMessage = some message) :
    Copied build (min maxlen next.current.length) next (next.copy build maxlen) := by
  have current : next.current = message.drop next.mIncomingMessagePosition := by
    rw [TlsTransport.current, taken]
  rw [current, List.length_drop]
  unfold TlsTransport.copy
  rw [taken]
  refine ⟨rfl, rfl, rfl, ?_, ?_, rfl⟩
  · rw [current]
  · rw [current, List.drop_drop]
    simp only [TlsTransport.current]

theorem copy_none (build : Build) (maxlen : Nat) (none : next.mIncomingMessage = none) :
    next.copy build maxlen =
      { next with answer := some (if next.mIncomingQueue.running then wouldBlock build else closed build) } := by
  rw [TlsTransport.copy, none]

theorem Copied.waiting {length : Nat} {final : TlsTransport} (copied' : Copied build length t final) :
    final.waiting = t.current.drop length ++ t.mIncomingQueue.mQueue.flatten := by
  rw [TlsTransport.waiting, copied'.current, copied'.queue]

theorem Copied.keeps_inOrder_iff {length : Nat} {final : TlsTransport} (copied' : Copied build length t final)
    (within : length ≤ t.current.length) (inOrder : InOrder t) :
    InOrder final ↔ (build = .mbedtls → length < 2 ^ 31) := by
  constructor
  · intro after
    by_contra large
    have short := copied_short large
    have lengths := congrArg List.length after.bytes
    rw [copied'.pushed, ← inOrder.bytes, copied'.returned, copied'.waiting, TlsTransport.waiting] at lengths
    simp only [List.length_append, List.length_take, List.length_drop] at lengths
    omega
  · intro fits
    refine ⟨?_, by rw [copied'.received, copied'.queue, copied'.pushed, inOrder.idle]⟩
    rw [copied'.pushed, ← inOrder.bytes, copied'.returned, copied'.waiting, TlsTransport.waiting, copied_exact fits,
      Int.toNat_natCast, List.take_take, Nat.min_self, List.append_assoc,
      ← List.append_assoc (t.current.take length), List.take_append_drop]

theorem InOrder.ready (inOrder : InOrder t) (ready : Ready t next) : InOrder next where
  bytes := by rw [ready.returned, ready.waiting, ready.pushed, inOrder.bytes]
  idle := by rw [ready.pushed, ready.idle, inOrder.idle]

theorem not_endOfStream {answer : Answer} (count : 0 < answer.ret) : ¬EndOfStream build answer := by
  rintro (zero | ⟨_, eof⟩)
  · omega
  · rw [eof] at count
    exact absurd count (by decide)

theorem wouldBlock_not_endOfStream : ¬EndOfStream build (wouldBlock build) := by
  cases build <;> simp [EndOfStream, wouldBlock, MBEDTLS_ERR_SSL_WANT_READ, MBEDTLS_ERR_SSL_CONN_EOF]

theorem closed_endOfStream : EndOfStream build (closed build) := by
  cases build
  · exact .inl rfl
  · exact .inr ⟨rfl, rfl⟩

theorem TlsTransport.source_of_waiting (nothing : t.waiting = []) : t.source = [] := by
  obtain ⟨current, queue⟩ := List.append_eq_nil_iff.mp nothing
  rw [source, if_pos current, List.find?_eq_none.mpr]
  · rfl
  · intro message member
    simp [List.flatten_eq_nil_iff.mp queue message member]

theorem TlsTransport.Idle.waiting (idle : t.Idle) : t.waiting = [] :=
  List.append_eq_nil_iff.mpr ⟨idle.1, idle.2.2.1⟩

theorem faithful_copy_current (inOrder : InOrder next) (positive : 0 < maxlen) (more : next.current ≠ []) :
    Faithful build (next.copy build maxlen) ↔ (build = .mbedtls → min maxlen next.current.length < 2 ^ 31) := by
  obtain ⟨message, taken⟩ : ∃ message, next.mIncomingMessage = some message := by
    cases taken : next.mIncomingMessage with
    | none => exact absurd (by rw [TlsTransport.current, taken]) more
    | some message => exact ⟨message, rfl⟩
  have copied' : Copied build (min maxlen next.current.length) next (next.copy build maxlen) := copy_message taken
  generalize next.copy build maxlen = final at copied'
  have length := List.length_pos_iff.mpr more
  have exact' := copied'.keeps_inOrder_iff (Nat.min_le_right _ _) inOrder
  constructor
  · intro faithful
    exact exact'.mp faithful.toInOrder
  · intro fits
    have count : 0 < (copied build (min maxlen next.current.length)).ret := by
      rw [copied_exact fits]
      omega
    refine ⟨exact'.mpr fits, ?_, ?_⟩
    · intro answer given ends
      rw [← Option.some.inj (copied'.answer.symm.trans given)] at ends
      exact absurd ends (not_endOfStream count)
    · intro answer given
      rw [← Option.some.inj (copied'.answer.symm.trans given)]
      exact .inl count

theorem faithful_copy_empty (inOrder : InOrder next) (nothing : next.waiting = [])
    (taken : next.mIncomingMessage = some []) :
    Faithful build (next.copy build maxlen) ↔ next.mIncomingQueue.mStopping = true := by
  have current : next.current = [] := (List.append_eq_nil_iff.mp nothing).1
  have copied' : Copied build (min maxlen next.current.length) next (next.copy build maxlen) := copy_message taken
  generalize next.copy build maxlen = final at copied'
  rw [current, List.length_nil, Nat.min_zero] at copied'
  have ends : EndOfStream build (copied build 0) := by
    cases build <;> exact .inl rfl
  constructor
  · intro faithful
    have stopped := (faithful.ends _ copied'.answer ends).1
    rwa [copied'.queue] at stopped
  · intro stopped
    have after := (copied'.keeps_inOrder_iff (Nat.zero_le _) inOrder).mpr fun _ => Nat.two_pow_pos 31
    have waiting : final.waiting = [] := by
      rw [copied'.waiting, List.drop_zero]
      exact nothing
    refine ⟨after, ?_, ?_⟩
    · intro answer given _
      have bytes := after.bytes
      rw [waiting, List.append_nil] at bytes
      rw [copied'.queue]
      exact ⟨stopped, bytes⟩
    · intro answer given
      rw [← Option.some.inj (copied'.answer.symm.trans given)]
      exact .inr (.inl ends)

theorem faithful_copy_none (build : Build) (maxlen : Nat)
    (inOrder : InOrder next) (nothing : next.waiting = []) (emptied : next.mIncomingQueue.mQueue = [])
    (none : next.mIncomingMessage = none) : Faithful build (next.copy build maxlen) := by
  have final : next.copy build maxlen = { next with
      answer := some (if next.mIncomingQueue.mStopping then closed build else wouldBlock build) } := by
    rw [copy_none build maxlen none, Queue.running, emptied]
    cases next.mIncomingQueue.mStopping <;> rfl
  rw [final]
  refine ⟨⟨inOrder.bytes, inOrder.idle⟩, ?_, ?_⟩
  · intro answer given ends
    rw [← Option.some.inj given] at ends
    split at ends
    · rename_i stopped
      have bytes := inOrder.bytes
      rw [nothing, List.append_nil] at bytes
      exact ⟨stopped, bytes⟩
    · exact absurd ends wouldBlock_not_endOfStream
  · intro answer given
    rw [← Option.some.inj given]
    split
    · exact .inr (.inl closed_endOfStream)
    · exact .inr (.inr ⟨rfl, nothing⟩)

theorem faithful_readCallback (faithful : Faithful build t) (positive : 0 < maxlen) :
    Faithful build (t.readCallback build maxlen) ↔ Readable build t (.readCallback maxlen) := by
  have ready := ready_advance_reset t
  unfold TlsTransport.readCallback
  generalize t.reset.advance = next at ready
  have inOrder := faithful.toInOrder.ready ready
  rcases ready.ends with ⟨more, current⟩ | ⟨nothing, emptied, missing⟩
  · have notIdle : ¬t.Idle := by
      intro idle
      exact more (TlsTransport.source_of_waiting idle.waiting)
    rw [faithful_copy_current inOrder positive (current ▸ more), current]
    exact ⟨fun fits => ⟨notIdle, fits⟩, And.right⟩
  · have fits : min maxlen t.source.length < 2 ^ 31 := by
      rw [TlsTransport.source_of_waiting nothing, List.length_nil, Nat.min_zero]
      exact Nat.two_pow_pos 31
    have after := ready.waiting.trans nothing
    rcases missing with ⟨queued, taken⟩ | ⟨none, untaken⟩
    · obtain ⟨current, queue⟩ := List.append_eq_nil_iff.mp nothing
      rw [faithful_copy_empty inOrder after taken, ready.stopping]
      constructor
      · intro stopped
        exact ⟨fun idle => absurd (stopped.symm.trans idle.2.2.2) (by decide), fun _ => fits⟩
      · intro readable
        by_contra running
        exact readable.1 ⟨current, queued, queue, by simpa using running⟩
    · have final := faithful_copy_none build maxlen inOrder after emptied untaken
      exact ⟨fun _ => ⟨fun idle => idle.2.1 none, fun _ => fits⟩, fun _ => final⟩

end

theorem inOrder_push {t : TlsTransport} (inOrder : InOrder t) {message : Bytes} {amount : UInt64} :
    InOrder { t with
      mIncomingQueue := { t.mIncomingQueue with mAmount := amount, mQueue := t.mIncomingQueue.mQueue ++ [message] }
      pushed := t.pushed ++ [message]
      answer := none } where
  bytes := by
    have bytes := inOrder.bytes
    simp only [TlsTransport.waiting, TlsTransport.current] at bytes ⊢
    rw [List.flatten_append, List.flatten_append, ← bytes]
    simp only [List.append_assoc]
  idle := by
    simp only
    rw [List.filter_append, List.filter_append, ← inOrder.idle, List.append_assoc]

theorem inOrder_step {build : Build} {t next : TlsTransport} {label : Label} (inOrder : InOrder t)
    (step : Step build t label next) (fits : Fits build t label) : InOrder next := by
  cases step with
  | push message queue running pushed =>
    obtain rfl := Queue.push_eq_some running pushed
    exact inOrder_push inOrder
  | stop => exact ⟨inOrder.bytes, inOrder.idle⟩
  | readCallback maxlen positive =>
    have ready := ready_advance_reset t
    unfold TlsTransport.readCallback
    generalize t.reset.advance = next at ready
    have before := inOrder.ready ready
    cases taken : next.mIncomingMessage with
    | none =>
      rw [copy_none build maxlen taken]
      exact ⟨before.bytes, before.idle⟩
    | some message =>
      apply ((copy_message taken).keeps_inOrder_iff (Nat.min_le_right _ _) before).mpr
      intro mbedtls
      rcases ready.ends with ⟨_, current⟩ | ⟨nothing, _⟩
      · rw [current]
        exact fits mbedtls
      · rw [(List.append_eq_nil_iff.mp (ready.waiting.trans nothing)).1, List.length_nil, Nat.min_zero]
        exact Nat.two_pow_pos 31

/-- In a run the bytes are read in order and zero-sized messages are passed on once, whatever the reads come to. -/
theorem inOrder_of_fits (build : Build) (trace : List (Label × TlsTransport)) (run : Run (Step build) .initial trace)
    (fits : Guarded (Fits build) .initial trace) : Always InOrder .initial trace :=
  always_of_guarded (fun _ _ _ inOrder step => inOrder_step inOrder step) trace _ ⟨rfl, rfl⟩ run fits

theorem faithful_step {build : Build} {t next : TlsTransport} {label : Label} (faithful : Faithful build t)
    (step : Step build t label next) : Faithful build next ↔ Readable build t label := by
  cases step with
  | push message queue running pushed =>
    obtain rfl := Queue.push_eq_some running pushed
    refine ⟨fun _ => trivial, fun _ => ⟨inOrder_push faithful.toInOrder, nofun, nofun⟩⟩
  | stop => exact ⟨fun _ => trivial, fun _ => ⟨⟨faithful.bytes, faithful.idle⟩, nofun, nofun⟩⟩
  | readCallback maxlen positive => exact faithful_readCallback faithful positive

theorem faithful_initial (build : Build) : Faithful build .initial := ⟨⟨rfl, rfl⟩, nofun, nofun⟩

/-- In a run the library reads the bytes that were pushed, hears of each zero-sized message once and comes to the
end of the stream with the last byte of a stopped queue, exactly when no read comes to zero-sized messages alone
and Mbed TLS never gets 2^31 bytes at once. -/
theorem read_faithful_iff (build : Build) (trace : List (Label × TlsTransport))
    (run : Run (Step build) .initial trace) :
    Always (Faithful build) .initial trace ↔ Guarded (Readable build) .initial trace := by
  refine always_iff (fun _ faithful => faithful) ?_ ?_ trace _ (faithful_initial build) run
  · intro t label next faithful step
    exact (faithful_step faithful step).mpr
  · intro t label next faithful step
    exact mt (faithful_step faithful step).mp

/-- Three bytes arrive, and are read. -/
def three : List (Label × TlsTransport) :=
  let pushed : TlsTransport := { TlsTransport.initial with
    mIncomingQueue := { TlsTransport.initial.mIncomingQueue with mAmount := 0 + UInt64.ofNat 3, mQueue := [[1, 2, 3]] }
    pushed := [[1, 2, 3]] }
  [(.push [1, 2, 3], pushed), (.readCallback 2, pushed.readCallback .gnutls 2)]

theorem faithful_three :
    Always (Faithful .gnutls) .initial three ↔ Guarded (Readable .gnutls) .initial three :=
  read_faithful_iff .gnutls three ⟨.push _ _ _ rfl rfl, .readCallback _ _ (by decide), trivial⟩

/-- The connection is idle. -/
def tick : List (Label × TlsTransport) :=
  let pushed : TlsTransport := { TlsTransport.initial with
    mIncomingQueue := { TlsTransport.initial.mIncomingQueue with mAmount := 0 + UInt64.ofNat 0, mQueue := [[]] }
    pushed := [[]] }
  [(.push [], pushed), (.readCallback 5, pushed.readCallback .gnutls 5)]

/-- On an idle connection the library is told that the stream has ended. -/
theorem tick_not_faithful : ¬∀ trace, Run (Step .gnutls) .initial trace →
    Always (Faithful .gnutls) .initial trace := by
  intro all
  have faithful := (all tick ⟨.push _ _ _ rfl rfl, .readCallback _ _ (by decide), trivial⟩).last
  have stopped := (faithful.ends ⟨0, false⟩ rfl (.inl rfl)).1
  exact absurd stopped (by decide)

end WebsocketClient.TlsReads
