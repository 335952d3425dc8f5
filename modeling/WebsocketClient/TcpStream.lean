import WebsocketClient.TcpPoll

/-! What the calls of a `TcpTransport` do to its bytes: they go from the messages to the send queue and from there
to the kernel, and none comes back. -/

namespace WebsocketClient.TcpStreams
open ByteString Queues Transports TcpTransports TcpPolls

def queued (t : TcpTransport) : Bytes := t.mSendQueue.mQueue.flatten

def Grows (t next : TcpTransport) : Prop := ∃ taken, next.wire = t.wire ++ taken

section
variable {kernel : Kernel} {t next : TcpTransport}

theorem Grows.of_eq (same : next.wire = t.wire) : Grows t next := ⟨[], by rw [same, List.append_nil]⟩

theorem Grows.trans {middle : TcpTransport} (first : Grows t middle) (second : Grows middle next) : Grows t next := by
  obtain ⟨one, taken⟩ := first
  obtain ⟨two, later⟩ := second
  exact ⟨one ++ two, by rw [later, taken, List.append_assoc]⟩

theorem updateBufferedAmount_wire (t : TcpTransport) (delta : Int) : (t.updateBufferedAmount delta).wire = t.wire := by
  unfold TcpTransport.updateBufferedAmount
  split_ifs <;> rfl

theorem trySendFrom_grows (rounds : Nat) :
    ∀ (data : Bytes) (t next : TcpTransport) (result : Except Exception (Option Bytes)),
      TcpTransport.trySendFrom kernel rounds data t = some (result, next) → Grows t next := by
  induction rounds with
  | zero =>
    intro data t next result returned
    cases data with
    | nil =>
      simp only [TcpTransport.trySendFrom, Option.some.injEq, Prod.mk.injEq] at returned
      exact .of_eq (by rw [← returned.2])
    | cons b rest => simp [TcpTransport.trySendFrom] at returned
  | succ rounds ih =>
    intro data t next result returned
    cases data with
    | nil =>
      simp only [TcpTransport.trySendFrom, Option.some.injEq, Prod.mk.injEq] at returned
      exact .of_eq (by rw [← returned.2])
    | cons b rest =>
      rw [TcpTransport.trySendFrom] at returned
      cases answer : kernel.send t.sendCalls (toInt (b :: rest).length) with
      | accepted length =>
        simp only [answer] at returned
        have first : Grows t { t with sendCalls := t.sendCalls + 1, wire := t.wire ++ (b :: rest).take length } :=
          ⟨_, rfl⟩
        exact first.trans (ih _ _ _ _ returned)
      | wouldBlock =>
        simp only [answer, Option.some.injEq, Prod.mk.injEq] at returned
        exact .of_eq (by rw [← returned.2])
      | error =>
        simp only [answer, Option.some.injEq, Prod.mk.injEq] at returned
        exact .of_eq (by rw [← returned.2])

theorem trySendQueueFrom_grows (rounds : Nat) :
    ∀ (t next : TcpTransport) (result : Except Exception Bool),
      TcpTransport.trySendQueueFrom kernel rounds t = some (result, next) → Grows t next := by
  induction rounds with
  | zero =>
    intro t next result returned
    simp [TcpTransport.trySendQueueFrom] at returned
  | succ rounds ih =>
    intro t next result returned
    rw [TcpTransport.trySendQueueFrom] at returned
    cases queue : t.mSendQueue.mQueue with
    | nil =>
      simp only [Queue.peek, queue, List.head?_nil, Option.some.injEq, Prod.mk.injEq] at returned
      exact .of_eq (by rw [← returned.2])
    | cons message later =>
      simp only [Queue.peek, queue, List.head?_cons] at returned
      cases tried : t.trySendMessage kernel message with
      | none => simp [tried] at returned
      | some attempt =>
        rcases attempt with ⟨answer, after⟩
        have first : Grows t after := trySendFrom_grows _ _ _ _ _ tried
        rcases answer with e | (- | rest)
        · simp only [tried, Option.some.injEq, Prod.mk.injEq] at returned
          rw [← returned.2]
          exact first
        · simp only [tried] at returned
          have popped : Grows after (TcpTransport.updateBufferedAmount
              { after with mSendQueue := (after.mSendQueue.pop TcpTransport.count).2 } (-message.length)) :=
            .of_eq (updateBufferedAmount_wire _ _)
          exact first.trans (popped.trans (ih _ _ _ returned))
        · simp only [tried, Option.some.injEq, Prod.mk.injEq] at returned
          rw [← returned.2]
          exact first.trans (.of_eq (updateBufferedAmount_wire _ _))

theorem enqueue_grows {message : Bytes} {result : Except Exception Bool}
    (returned : t.enqueue message = some (result, next)) : Grows t next := by
  unfold TcpTransport.enqueue at returned
  cases pushed : t.mSendQueue.push TcpTransport.count message with
  | none => simp [pushed] at returned
  | some queue =>
    simp only [pushed, Option.some.injEq, Prod.mk.injEq] at returned
    rw [← returned.2]
    exact .of_eq (updateBufferedAmount_wire _ _)

theorem outgoing_grows {message : Bytes} {result : Except Exception Bool}
    (returned : t.outgoing kernel message = some (result, next)) : Grows t next := by
  unfold TcpTransport.outgoing at returned
  cases flushed : t.trySendQueue kernel with
  | none => simp [flushed] at returned
  | some attempt =>
    rcases attempt with ⟨answer, middle⟩
    have first : Grows t middle := trySendQueueFrom_grows _ _ _ _ flushed
    rcases answer with e | (- | -)
    · simp only [flushed, Option.some.injEq, Prod.mk.injEq] at returned
      rw [← returned.2]
      exact first
    · simp only [flushed] at returned
      exact first.trans (enqueue_grows returned)
    · simp only [flushed] at returned
      cases tried : middle.trySendMessage kernel message with
      | none => simp [tried] at returned
      | some attempt =>
        rcases attempt with ⟨answer, after⟩
        have direct : Grows t after := first.trans (trySendFrom_grows _ _ _ _ _ tried)
        rcases answer with e | (- | rest)
        · simp only [tried, Option.some.injEq, Prod.mk.injEq] at returned
          rw [← returned.2]
          exact direct
        · simp only [tried, Option.some.injEq, Prod.mk.injEq] at returned
          rw [← returned.2]
          exact direct
        · simp only [tried] at returned
          exact direct.trans (enqueue_grows returned)

theorem send_grows {message : Option Bytes} {result : Except Exception Bool}
    (returned : t.send kernel message = some (result, next)) : Grows t next := by
  unfold TcpTransport.send at returned
  split_ifs at returned with closed
  · simp only [Option.some.injEq, Prod.mk.injEq] at returned
    exact .of_eq (by rw [← returned.2])
  · cases message with
    | none => exact trySendQueueFrom_grows _ _ _ _ returned
    | some message =>
      simp only at returned
      split_ifs at returned with empty
      · exact trySendQueueFrom_grows _ _ _ _ returned
      · exact outgoing_grows returned

theorem processOut_grows (returned : t.processOut kernel = some next) : Grows t next := by
  unfold TcpTransport.processOut at returned
  cases flushed : t.trySendQueue kernel with
  | none => simp [flushed] at returned
  | some attempt =>
    rcases attempt with ⟨answer, middle⟩
    have first : Grows t middle := trySendQueueFrom_grows _ _ _ _ flushed
    rcases answer with e | (- | -) <;> simp only [flushed, Option.some.injEq] at returned <;> rw [← returned] <;>
        exact first

theorem Grows.moves {sent message : Bytes} (grows : Grows t next) (before : Consistent sent t)
    (after : Consistent (sent ++ message) next) :
    next.wire.drop t.wire.length ++ queued next = queued t ++ message := by
  obtain ⟨taken, same⟩ := grows
  have stream := after.stream
  rw [← before.stream, same, List.append_assoc, List.append_assoc] at stream
  rw [same, List.drop_left]
  exact List.append_cancel_left stream

/-! ### A kernel with room -/

/-- A kernel that takes all it is offered. -/
def Kernel.roomy : Kernel where
  send _ offered := if 0 < offered then .accepted offered.toNat else .wouldBlock
  bounded _ offered length answer := by
    split_ifs at answer with room
    cases answer
    omega

theorem roomy_patient : Kernel.roomy.Patient := by
  intro n offered
  simp only [Kernel.roomy]
  split_ifs <;> exact fun same => by cases same

theorem trySendFrom_roomy (rounds : Nat) (data : Bytes) (t : TcpTransport) (enough : data.length ≤ rounds)
    (small : data.length < 2 ^ 31) :
    ∃ calls, TcpTransport.trySendFrom Kernel.roomy rounds data t =
      some (.ok none, { t with wire := t.wire ++ data, sendCalls := calls }) := by
  cases data with
  | nil => exact ⟨t.sendCalls, by cases rounds <;> simp [TcpTransport.trySendFrom]⟩
  | cons b rest =>
    cases rounds with
    | zero => simp at enough
    | succ rounds =>
      have offered : toInt (b :: rest).length = ((b :: rest).length : Int) := toInt_eq _ small
      have some : (0 : Int) < ((b :: rest).length : Int) := Int.natCast_pos.mpr (Nat.succ_pos _)
      have answer : Kernel.roomy.send t.sendCalls (toInt (b :: rest).length) = .accepted (b :: rest).length := by
        rw [offered, Kernel.roomy]
        simp only [if_pos some, Int.toNat_natCast]
      refine ⟨t.sendCalls + 1, ?_⟩
      rw [TcpTransport.trySendFrom]
      simp only [answer, List.drop_length, List.take_length]
      cases rounds <;> rfl

theorem trySendQueueFrom_roomy (rounds : Nat) :
    ∀ (sent : Bytes) (t : TcpTransport), t.mSendQueue.mQueue.length < rounds → Consistent sent t →
      ∃ next, TcpTransport.trySendQueueFrom Kernel.roomy rounds t = some (.ok true, next) ∧ Consistent sent next ∧
        next.mSendQueue.mQueue = [] := by
  induction rounds with
  | zero =>
    intro sent t enough
    omega
  | succ rounds ih =>
    intro sent t enough consistent
    rw [TcpTransport.trySendQueueFrom]
    cases queue : t.mSendQueue.mQueue with
    | nil =>
      simp only [Queue.peek, queue, List.head?_nil]
      exact ⟨t, rfl, consistent, queue⟩
    | cons message later =>
      have small : message.length < 2 ^ 31 := consistent.small message (by simp [queue])
      obtain ⟨calls, tried⟩ := trySendFrom_roomy message.length message t (Nat.le_refl _) small
      have sentAll : t.trySendMessage Kernel.roomy message =
          some (.ok none, { t with wire := t.wire ++ message, sendCalls := calls }) := tried
      simp only [Queue.peek, queue, List.head?_cons, sentAll]
      have popped := popped_consistent calls
        (t.mSendQueue.mAmount - UInt64.ofNat (TcpTransport.count message)) consistent queue
      simp only [Queue.pop, queue]
      apply ih sent _ _ popped
      rw [queue] at enough
      rw [updateBufferedAmount_queue]
      exact Nat.lt_of_succ_lt_succ enough

theorem processOut_roomy {sent : Bytes} (consistent : Consistent sent t) :
    ∃ next, t.processOut Kernel.roomy = some next ∧ Consistent sent next ∧ queued next = [] := by
  obtain ⟨flushed, queue, after, none⟩ := trySendQueueFrom_roomy _ sent t (Nat.lt_succ_self _) consistent
  refine ⟨flushed.setPoll .in, ?_, setPoll_consistent .in after, ?_⟩
  · have flush : t.trySendQueue Kernel.roomy = some (.ok true, flushed) := queue
    rw [TcpTransport.processOut, flush]
  · show flushed.mSendQueue.mQueue.flatten = []
    rw [none]
    rfl

end

end WebsocketClient.TcpStreams
