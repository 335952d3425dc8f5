import WebsocketClient.Queue
import WebsocketClient.Transport

/-! The sending half of `impl/tcptransport.cpp`. A message is its bytes; sizes of objects in
memory stay below 2^63, so that `ptrdiff_t` is `Int`. What the kernel accepts is kept in
`wire`, and every change of the buffered amount in `updates`. -/

namespace WebsocketClient.TcpTransports
open ByteString Queues Transports

inductive Direction where
  | «in»
  | out
  | both
  deriving DecidableEq, Repr

/-- An answer to `::send`. -/
inductive Answer where
  | accepted (length : Nat)
  | wouldBlock
  | error
  deriving DecidableEq, Repr

/-- The kernel answers the n-th call for a number of bytes offered. It accepts at least one
byte and no more than it is offered. -/
structure Kernel where
  send : Nat → Int → Answer
  bounded : ∀ n offered length, send n offered = .accepted length → 0 < length ∧ (length : Int) ≤ offered

structure TcpTransport where
  state : State
  mSendQueue : Queue Bytes
  mBufferedAmount : Nat
  /-- The direction of the socket's registration in the poll service. -/
  poll : Option Direction
  wire : Bytes
  sendCalls : Nat
  updates : List (Nat × Int)
  deriving DecidableEq, Repr

/-- `int(size)`. -/
def toInt (size : Nat) : Int := (size : Int).bmod (2 ^ 32)

namespace TcpTransport
variable (kernel : Kernel) (t : TcpTransport)

/-- The amount is not allowed below zero. -/
def updateBufferedAmount (delta : Int) : TcpTransport :=
  if delta = 0 then t
  else { t with
    mBufferedAmount := (max ((t.mBufferedAmount : Int) + delta) 0).toNat
    updates := t.updates ++ [(t.mBufferedAmount, delta)] }

def setPoll (direction : Direction) : TcpTransport := { t with poll := some direction }

/-- The loop of `trySendMessage`: nothing, or what is left of the message when the kernel would
block. It is `none` when the rounds do not suffice to end the loop. -/
def trySendFrom : Nat → Bytes → TcpTransport → Option (Except Exception (Option Bytes) × TcpTransport)
  | _, [], t => some (.ok none, t)
  | 0, _ :: _, _ => none
  | rounds + 1, b :: rest, t =>
      let data := b :: rest
      let answer := kernel.send t.sendCalls (toInt data.length)
      let t := { t with sendCalls := t.sendCalls + 1 }
      match answer with
      | .accepted length =>
          trySendFrom rounds (data.drop length) { t with wire := t.wire ++ data.take length }
      | .wouldBlock => some (.ok (some data), t)
      | .error => some (.error (.runtimeError (text "Connection closed")), t)

def trySendMessage (message : Bytes) : Option (Except Exception (Option Bytes) × TcpTransport) :=
  trySendFrom kernel message.length message t

def count (_ : Bytes) : Nat := 1

/-- The loop of `trySendQueue`. -/
def trySendQueueFrom : Nat → TcpTransport → Option (Except Exception Bool × TcpTransport)
  | 0, _ => none
  | rounds + 1, t =>
      match t.mSendQueue.peek with
      | none => some (.ok true, t)
      | some message =>
          match t.trySendMessage kernel message with
          | none => none
          | some (.error e, t) => some (.error e, t)
          | some (.ok (some rest), t) =>
              let t := { t with mSendQueue := (t.mSendQueue.exchange rest).2 }
              some (.ok false, t.updateBufferedAmount (-message.length + rest.length))
          | some (.ok none, t) =>
              let t := { t with mSendQueue := (t.mSendQueue.pop count).2 }
              trySendQueueFrom rounds (t.updateBufferedAmount (-message.length))

def trySendQueue : Option (Except Exception Bool × TcpTransport) :=
  trySendQueueFrom kernel (t.mSendQueue.size + 1) t

def enqueue (message : Bytes) : Option (Except Exception Bool × TcpTransport) :=
  match t.mSendQueue.push count message with
  | none => none
  | some queue =>
      let t := { t with mSendQueue := queue }
      some (.ok false, (t.updateBufferedAmount message.length).setPoll .both)

def outgoing (message : Bytes) : Option (Except Exception Bool × TcpTransport) :=
  match t.trySendQueue kernel with
  | none => none
  | some (.error e, t) => some (.error e, t)
  | some (.ok false, t) => t.enqueue message
  | some (.ok true, t) =>
      match t.trySendMessage kernel message with
      | none => none
      | some (.error e, t) => some (.error e, t)
      | some (.ok none, t) => some (.ok true, t)
      | some (.ok (some rest), t) => t.enqueue rest

def send (message : Option Bytes) : Option (Except Exception Bool × TcpTransport) :=
  if t.state ≠ .connected then
    some (.error (.runtimeError (text "Connection is not open")), t)
  else
    match message with
    | none => t.trySendQueue kernel
    | some message =>
        if message = [] then t.trySendQueue kernel else t.outgoing kernel message

/-- The end of `process`, reached after an exception and when the connection is lost. -/
def disconnect : TcpTransport := { t with poll := none, state := .disconnected }

/-- `process(Event::Out)`. -/
def processOut : Option TcpTransport :=
  match t.trySendQueue kernel with
  | none => none
  | some (.error _, t) => some t.disconnect
  | some (.ok true, t) => some (t.setPoll .in)
  | some (.ok false, t) => some t

end TcpTransport

/-! ### Sending a message -/

section
variable {kernel : Kernel}

/-- The kernel only accepts or would block. -/
def Kernel.Patient (kernel : Kernel) : Prop := ∀ n offered, kernel.send n offered ≠ .error

theorem toInt_eq (size : Nat) (small : size < 2 ^ 31) : toInt size = size := by
  unfold toInt
  rw [Int.bmod_eq_of_le] <;> omega

theorem toInt_cases (n : Nat) :
    (n % 2 ^ 32 < 2 ^ 31 ∧ toInt n = (n % 2 ^ 32 : Nat)) ∨
      (2 ^ 31 ≤ n % 2 ^ 32 ∧ toInt n = (n % 2 ^ 32 : Nat) - 4294967296) := by
  unfold toInt
  rw [Int.bmod_def]
  by_cases low : n % 2 ^ 32 < 2 ^ 31
  · refine .inl ⟨low, ?_⟩
    rw [if_pos (by omega)]
    omega
  · refine .inr ⟨by omega, ?_⟩
    rw [if_neg (by omega)]
    omega

theorem trySendFrom_spec (patient : kernel.Patient) (rounds : Nat) :
    ∀ (data : Bytes) (t : TcpTransport), data.length ≤ rounds → data.length < 2 ^ 31 →
      ∃ rest taken calls, TcpTransport.trySendFrom kernel rounds data t =
          some (.ok rest, { t with wire := t.wire ++ taken, sendCalls := calls }) ∧
        taken ++ rest.getD [] = data := by
  induction rounds with
  | zero =>
    intro data t enough small
    rw [List.length_eq_zero_iff.mp (Nat.le_zero.mp enough)]
    exact ⟨none, [], t.sendCalls, by simp [TcpTransport.trySendFrom], rfl⟩
  | succ rounds ih =>
    intro data t enough small
    cases data with
    | nil => exact ⟨none, [], t.sendCalls, by simp [TcpTransport.trySendFrom], rfl⟩
    | cons b rest =>
      rw [TcpTransport.trySendFrom]
      cases answer : kernel.send t.sendCalls (toInt (b :: rest).length) with
      | error => exact absurd answer (patient _ _)
      | wouldBlock => exact ⟨some (b :: rest), [], t.sendCalls + 1, by simp, rfl⟩
      | accepted length =>
        have bounds := kernel.bounded _ _ _ answer
        rw [toInt_eq _ small] at bounds
        have left : ((b :: rest).drop length).length ≤ rounds := by
          rw [List.length_drop]
          omega
        obtain ⟨later, taken, calls, sent, joined⟩ := ih ((b :: rest).drop length)
          { t with sendCalls := t.sendCalls + 1, wire := t.wire ++ (b :: rest).take length } left
          (by rw [List.length_drop]; omega)
        refine ⟨later, (b :: rest).take length ++ taken, calls, ?_, ?_⟩
        · simp only [sent, List.append_assoc]
        · rw [List.append_assoc, joined, List.take_append_drop]

theorem trySendMessage_spec (patient : kernel.Patient) (message : Bytes) (t : TcpTransport)
    (small : message.length < 2 ^ 31) :
    ∃ rest taken calls, t.trySendMessage kernel message =
        some (.ok rest, { t with wire := t.wire ++ taken, sendCalls := calls }) ∧
      taken ++ rest.getD [] = message :=
  trySendFrom_spec patient message.length message t (Nat.le_refl _) small

/-! ### The send queue -/

/-- Nothing is lost between the messages sent and the bytes the kernel accepted. -/
structure Ordered (sent : Bytes) (t : TcpTransport) : Prop where
  stream : t.wire ++ t.mSendQueue.mQueue.flatten = sent
  unclamped : ∀ update ∈ t.updates, 0 ≤ (update.1 : Int) + update.2
  small : ∀ message ∈ t.mSendQueue.mQueue, message.length < 2 ^ 31
  unlimited : t.mSendQueue.mLimit = 0
  running : t.mSendQueue.mStopping = false
  connected : t.state = .connected

structure Consistent (sent : Bytes) (t : TcpTransport) : Prop extends Ordered sent t where
  buffered : t.mBufferedAmount = t.mSendQueue.mQueue.flatten.length

theorem consistent_update {sent : Bytes} {t : TcpTransport} (delta : Int) (ordered : Ordered sent t)
    (sum : (t.mBufferedAmount : Int) + delta = t.mSendQueue.mQueue.flatten.length) :
    Consistent sent (t.updateBufferedAmount delta) := by
  unfold TcpTransport.updateBufferedAmount
  split_ifs with zero
  · exact ⟨ordered, by omega⟩
  · refine ⟨⟨ordered.stream, ?_, ordered.small, ordered.unlimited, ordered.running, ordered.connected⟩, ?_⟩
    · intro update member
      rcases List.mem_append.mp member with old | new
      · exact ordered.unclamped update old
      · rw [List.mem_singleton.mp new, sum]
        exact Int.natCast_nonneg _
    · simp only [sum]
      omega

theorem updateBufferedAmount_queue (t : TcpTransport) (delta : Int) :
    (t.updateBufferedAmount delta).mSendQueue = t.mSendQueue := by
  unfold TcpTransport.updateBufferedAmount
  split_ifs <;> rfl

theorem exchanged_consistent {sent message taken rest : Bytes} {later : List Bytes} {t : TcpTransport}
    (calls : Nat) (consistent : Consistent sent t) (queue : t.mSendQueue.mQueue = message :: later)
    (joined : taken ++ rest = message) :
    Consistent sent (TcpTransport.updateBufferedAmount
      { t with
        wire := t.wire ++ taken
        sendCalls := calls
        mSendQueue := { t.mSendQueue with mQueue := rest :: later } }
      (-message.length + rest.length)) := by
  have buffered := consistent.buffered
  have stream := consistent.stream
  have small := consistent.small
  rw [queue] at buffered stream small
  rw [List.flatten_cons, ← joined] at stream buffered
  rw [List.length_append, List.length_append] at buffered
  have sizes := congrArg List.length joined
  rw [List.length_append] at sizes
  apply consistent_update
  · refine ⟨?_, consistent.unclamped, ?_, consistent.unlimited, consistent.running, consistent.connected⟩
    · simp only [List.flatten_cons, List.append_assoc] at stream ⊢
      exact stream
    · intro other member
      rcases List.mem_cons.mp member with rfl | member
      · have whole := small message (List.mem_cons_self ..)
        omega
      · exact small other (List.mem_cons_of_mem _ member)
  · simp only [List.flatten_cons, List.length_append, buffered]
    omega

theorem popped_consistent {sent message : Bytes} {later : List Bytes} {t : TcpTransport}
    (calls : Nat) (amount : UInt64) (consistent : Consistent sent t)
    (queue : t.mSendQueue.mQueue = message :: later) :
    Consistent sent (TcpTransport.updateBufferedAmount
      { t with
        wire := t.wire ++ message
        sendCalls := calls
        mSendQueue := { t.mSendQueue with mAmount := amount, mQueue := later } }
      (-message.length)) := by
  have buffered := consistent.buffered
  have stream := consistent.stream
  have small := consistent.small
  rw [queue] at buffered stream small
  rw [List.flatten_cons] at stream buffered
  rw [List.length_append] at buffered
  apply consistent_update
  · refine ⟨?_, consistent.unclamped, ?_, consistent.unlimited, consistent.running, consistent.connected⟩
    · rw [← stream, List.append_assoc]
    · intro other member
      exact small other (List.mem_cons_of_mem _ member)
  · simp only [buffered]
    omega

theorem trySendQueueFrom_spec (patient : kernel.Patient) (rounds : Nat) :
    ∀ (sent : Bytes) (t : TcpTransport), t.mSendQueue.mQueue.length < rounds → Consistent sent t →
      ∃ next, TcpTransport.trySendQueueFrom kernel rounds t =
          some (.ok next.mSendQueue.mQueue.isEmpty, next) ∧ Consistent sent next := by
  induction rounds with
  | zero =>
    intro sent t enough
    omega
  | succ rounds ih =>
    intro sent t enough consistent
    rw [TcpTransport.trySendQueueFrom]
    cases queue : t.mSendQueue.mQueue with
    | nil =>
      simp only [Queue.peek, queue, List.head?_nil]
      exact ⟨t, by rw [queue]; rfl, consistent⟩
    | cons message later =>
      have small : message.length < 2 ^ 31 := consistent.small message (by simp [queue])
      obtain ⟨rest, taken, calls, tried, joined⟩ := trySendMessage_spec patient message t small
      simp only [Queue.peek, queue, List.head?_cons, tried]
      cases rest with
      | some rest =>
        have exchanged := exchanged_consistent calls consistent queue joined
        simp only [Queue.exchange, queue]
        refine ⟨_, ?_, exchanged⟩
        rw [updateBufferedAmount_queue]
        rfl
      | none =>
        rw [Option.getD_none, List.append_nil] at joined
        subst joined
        have popped := popped_consistent calls
          (t.mSendQueue.mAmount - UInt64.ofNat (TcpTransport.count taken)) consistent queue
        simp only [Queue.pop, queue]
        apply ih sent _ _ popped
        rw [queue] at enough
        rw [updateBufferedAmount_queue]
        exact Nat.lt_of_succ_lt_succ enough

theorem trySendQueue_spec (patient : kernel.Patient) {sent : Bytes} {t : TcpTransport}
    (consistent : Consistent sent t) :
    ∃ next, t.trySendQueue kernel = some (.ok next.mSendQueue.mQueue.isEmpty, next) ∧
      Consistent sent next :=
  trySendQueueFrom_spec patient _ sent t (Nat.lt_succ_self _) consistent

theorem setPoll_consistent {sent : Bytes} {t : TcpTransport} (direction : Direction)
    (consistent : Consistent sent t) : Consistent sent (t.setPoll direction) :=
  ⟨⟨consistent.stream, consistent.unclamped, consistent.small, consistent.unlimited,
    consistent.running, consistent.connected⟩, consistent.buffered⟩

theorem enqueue_spec {sent message : Bytes} {t : TcpTransport} (consistent : Consistent sent t)
    (small : message.length < 2 ^ 31) :
    ∃ next, t.enqueue message = some (.ok false, next) ∧ next.mSendQueue.mQueue ≠ [] ∧
      Consistent (sent ++ message) next := by
  have room : t.mSendQueue.hasRoom := Or.inl consistent.unlimited
  have queued : Ordered (sent ++ message) { t with mSendQueue := { t.mSendQueue with
      mAmount := t.mSendQueue.mAmount + UInt64.ofNat (TcpTransport.count message)
      mQueue := t.mSendQueue.mQueue ++ [message] } } := by
    refine ⟨?_, consistent.unclamped, ?_, consistent.unlimited, consistent.running, consistent.connected⟩
    · rw [← consistent.stream]
      simp [List.append_assoc]
    · intro other member
      rcases List.mem_append.mp member with old | new
      · exact consistent.small other old
      · rw [List.mem_singleton.mp new]
        exact small
  have updated := consistent_update message.length queued (by simp [consistent.buffered])
  rw [TcpTransport.enqueue, Queue.push_running _ _ _ consistent.running room]
  refine ⟨_, rfl, ?_, setPoll_consistent .both updated⟩
  simp [TcpTransport.setPoll, updateBufferedAmount_queue]

theorem outgoing_spec (patient : kernel.Patient) {sent message : Bytes} {t : TcpTransport}
    (consistent : Consistent sent t) (small : message.length < 2 ^ 31) :
    ∃ next, t.outgoing kernel message = some (.ok next.mSendQueue.mQueue.isEmpty, next) ∧
      Consistent (sent ++ message) next := by
  obtain ⟨flushed, queue, consistent'⟩ := trySendQueue_spec patient consistent
  rw [TcpTransport.outgoing, queue]
  cases empty : flushed.mSendQueue.mQueue.isEmpty with
  | false =>
    obtain ⟨next, queued, full, done⟩ := enqueue_spec consistent' small
    exact ⟨next, by simp only [queued, List.isEmpty_eq_false_iff.mpr full], done⟩
  | true =>
    obtain ⟨rest, taken, calls, tried, joined⟩ := trySendMessage_spec patient message flushed small
    have none := List.isEmpty_iff.mp empty
    have stream := consistent'.stream
    rw [none, List.flatten_nil, List.append_nil] at stream
    simp only [tried]
    have direct : Consistent (sent ++ taken) { flushed with wire := flushed.wire ++ taken, sendCalls := calls } :=
      ⟨⟨by simp [none, stream], consistent'.unclamped, consistent'.small, consistent'.unlimited,
        consistent'.running, consistent'.connected⟩, consistent'.buffered⟩
    cases rest with
    | none =>
      rw [Option.getD_none, List.append_nil] at joined
      rw [← joined]
      exact ⟨_, by simp only [empty], direct⟩
    | some rest =>
      rw [Option.getD_some] at joined
      have sizes := congrArg List.length joined
      rw [List.length_append] at sizes
      have short : rest.length < 2 ^ 31 := by omega
      obtain ⟨next, queued, full, done⟩ := enqueue_spec direct short
      rw [List.append_assoc, joined] at done
      exact ⟨next, by simp only [queued, List.isEmpty_eq_false_iff.mpr full], done⟩

theorem send_spec (patient : kernel.Patient) {sent : Bytes} {t : TcpTransport} (message : Option Bytes)
    (consistent : Consistent sent t) (small : ∀ m ∈ message, m.length < 2 ^ 31) :
    ∃ next, t.send kernel message = some (.ok next.mSendQueue.mQueue.isEmpty, next) ∧
      Consistent (sent ++ message.getD []) next := by
  unfold TcpTransport.send
  rw [if_neg (fun closed => closed consistent.connected)]
  cases message with
  | none =>
    rw [Option.getD_none, List.append_nil]
    exact trySendQueue_spec patient consistent
  | some message =>
    rw [Option.getD_some]
    by_cases empty : message = []
    · simp only [empty, List.append_nil]
      exact trySendQueue_spec patient consistent
    · simp only [if_neg empty]
      exact outgoing_spec patient consistent (small message rfl)

theorem processOut_spec (patient : kernel.Patient) {sent : Bytes} {t : TcpTransport}
    (consistent : Consistent sent t) :
    ∃ next, t.processOut kernel = some next ∧ Consistent sent next := by
  obtain ⟨flushed, queue, consistent'⟩ := trySendQueue_spec patient consistent
  rw [TcpTransport.processOut, queue]
  cases flushed.mSendQueue.mQueue.isEmpty with
  | false => exact ⟨flushed, rfl, consistent'⟩
  | true => exact ⟨_, rfl, setPoll_consistent .in consistent'⟩

end

/-! ### Every sequence of calls -/

inductive Call where
  | send (message : Option Bytes)
  | out
  deriving DecidableEq, Repr

/-- Every call of a run returns; the bytes accepted and the bytes queued are the bytes sent, the
buffered amount is that of the queue, and `send` tells whether the queue is empty. -/
def Delivers (kernel : Kernel) : Bytes → TcpTransport → List Call → Prop
  | _, _, [] => True
  | sent, t, .send message :: calls =>
      ∃ flushed next, t.send kernel message = some (.ok flushed, next) ∧
        (flushed = true ↔ next.mSendQueue.mQueue = []) ∧
        Consistent (sent ++ message.getD []) next ∧
        Delivers kernel (sent ++ message.getD []) next calls
  | sent, t, .out :: calls =>
      ∃ next, t.processOut kernel = some next ∧ Consistent sent next ∧ Delivers kernel sent next calls

theorem delivers_of_consistent {kernel : Kernel} (patient : kernel.Patient) (calls : List Call)
    (small : ∀ message, .send (some message) ∈ calls → message.length < 2 ^ 31) :
    ∀ sent t, Consistent sent t → Delivers kernel sent t calls := by
  induction calls with
  | nil => exact fun _ _ _ => trivial
  | cons call calls ih =>
    intro sent t consistent
    have later := ih (fun message member => small message (List.mem_cons_of_mem _ member))
    cases call with
    | send message =>
      obtain ⟨next, returned, consistent'⟩ := send_spec patient message consistent
        (fun m member => small m (by rw [Option.mem_def.mp member]; exact List.mem_cons_self ..))
      exact ⟨_, next, returned, List.isEmpty_iff, consistent', later _ next consistent'⟩
    | out =>
      obtain ⟨next, returned, consistent'⟩ := processOut_spec patient consistent
      exact ⟨next, returned, consistent', later _ next consistent'⟩

/-- A transport that has just been connected. -/
def TcpTransport.connected (poll : Option Direction) : TcpTransport where
  state := .connected
  mSendQueue := Queue.new 0
  mBufferedAmount := 0
  poll := poll
  wire := []
  sendCalls := 0
  updates := []

theorem connected_consistent (poll : Option Direction) : Consistent [] (TcpTransport.connected poll) :=
  ⟨⟨rfl, fun _ member => absurd member List.not_mem_nil, fun _ member => absurd member List.not_mem_nil,
    rfl, rfl, rfl⟩, rfl⟩

/-- Sends and writable events on a connected transport, for every kernel that accepts some of
what it is offered or would block. -/
theorem calls_deliver (kernel : Kernel) (patient : kernel.Patient) (poll : Option Direction)
    (calls : List Call)
    (small : ∀ message, .send (some message) ∈ calls → message.length < 2 ^ 31) :
    Delivers kernel [] (TcpTransport.connected poll) calls :=
  delivers_of_consistent patient calls small [] _ (connected_consistent poll)

/-- A kernel that takes one byte at every other call. -/
def Kernel.slow : Kernel where
  send n offered := if 0 < offered ∧ n % 2 = 0 then .accepted 1 else .wouldBlock
  bounded n offered length answer := by
    split_ifs at answer with room
    cases answer
    exact ⟨Nat.one_pos, room.1⟩

theorem calls_deliver_slow :
    Delivers Kernel.slow [] (TcpTransport.connected (some .in))
      [.send (some [1, 2, 3]), .send (some [4]), .out, .send none] :=
  calls_deliver Kernel.slow
    (fun n offered => by simp only [Kernel.slow]; split_ifs <;> exact fun same => by cases same)
    (some .in) _ (fun message member => by
      simp only [List.mem_cons, List.not_mem_nil, Call.send.injEq, Option.some.injEq, reduceCtorEq, or_false]
        at member
      rcases member with rfl | rfl <;> decide)

example : (do
    let (_, t) ← (TcpTransport.connected (some .in)).send Kernel.slow (some [1, 2, 3])
    let t ← t.processOut Kernel.slow
    return (t.wire, t.mSendQueue.mQueue, t.mBufferedAmount)) = some ([1, 2], [[3]], 1) := by
  decide

end WebsocketClient.TcpTransports
