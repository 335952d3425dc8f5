import WebsocketClient.Library.Runs
import WebsocketClient.TcpTransport

/-! When the socket is registered for writing. The operations of a `TcpTransport` come one at a
time, but some of them call the upper layers before they are over, and these may send. -/

namespace WebsocketClient.TcpPolls
open ByteString Queues Transports TcpTransports Library.Runs

inductive Phase where
  | idle
  /-- The state callback of `start` or of a connection that succeeds. -/
  | connecting
  /-- The receive callback of an idle connection. -/
  | timeout
  /-- The receive callback of an event `In`. -/
  | receiving
  deriving DecidableEq, Repr

structure Operation where
  transport : TcpTransport
  phase : Phase
  deriving DecidableEq, Repr

inductive Label where
  | start
  | connectSuccess
  | send (message : Option Bytes)
  | timeout
  | out
  | receive
  | error
  /-- The callback is over, and `setPoll(In)` ends the operation. -/
  | finish
  /-- The receive loop is over, because nothing is left or because the connection is lost. -/
  | drained
  | lost
  deriving DecidableEq, Repr

/-- The steps of the operations, for the answers of a kernel. -/
inductive Step (kernel : Kernel) : Operation → Label → Operation → Prop where
  | start (t : TcpTransport) :
      Step kernel ⟨t, .idle⟩ .start ⟨{ t with state := .connected }, .connecting⟩
  | connectSuccess (t : TcpTransport) :
      Step kernel ⟨t, .idle⟩ .connectSuccess ⟨{ t with state := .connected }, .connecting⟩
  | send (t next : TcpTransport) (phase : Phase) (message : Option Bytes)
      (result : Except Exception Bool) : t.send kernel message = some (result, next) →
      Step kernel ⟨t, phase⟩ (.send message) ⟨next, phase⟩
  /-- The poll service drops the registration before it tells of a timeout. -/
  | timeout (t : TcpTransport) :
      Step kernel ⟨t, .idle⟩ .timeout ⟨{ t with poll := none }, .timeout⟩
  | out (t next : TcpTransport) : t.processOut kernel = some next →
      Step kernel ⟨t, .idle⟩ .out ⟨next, .idle⟩
  | receive (t : TcpTransport) : Step kernel ⟨t, .idle⟩ .receive ⟨t, .receiving⟩
  | error (t : TcpTransport) : Step kernel ⟨t, .idle⟩ .error ⟨t.disconnect, .idle⟩
  | finish (t : TcpTransport) (phase : Phase) : phase = .connecting ∨ phase = .timeout →
      Step kernel ⟨t, phase⟩ .finish ⟨t.setPoll .in, .idle⟩
  | drained (t : TcpTransport) : Step kernel ⟨t, .receiving⟩ .drained ⟨t, .idle⟩
  | lost (t : TcpTransport) : Step kernel ⟨t, .receiving⟩ .lost ⟨t.disconnect, .idle⟩

/-- Queued bytes of a connected transport wait for the socket to become writable. -/
def Polled (t : TcpTransport) : Prop :=
  t.state = .connected → t.mSendQueue.mQueue ≠ [] → t.poll = some .both

def PolledBetween (s : Operation) : Prop := s.phase = .idle → Polled s.transport

/-- `setPoll(In)` at the end of `start`, of a connection that succeeds and of an idle connection
finds the send queue of a connected transport empty. -/
def FinishesEmpty (s : Operation) : Label → Prop
  | .finish => s.transport.state = .connected → s.transport.mSendQueue.mQueue = []
  | _ => True

def Invariant (s : Operation) : Prop :=
  s.phase = .idle ∨ s.phase = .receiving → Polled s.transport

/-! ### What sending does to the registration -/

section
variable {kernel : Kernel}

theorem trySendFrom_frame (rounds : Nat) :
    ∀ (data : Bytes) (t next : TcpTransport) (result : Except Exception (Option Bytes)),
      TcpTransport.trySendFrom kernel rounds data t = some (result, next) →
      ∃ wire calls, next = { t with wire := wire, sendCalls := calls } := by
  induction rounds with
  | zero =>
    intro data t next result returned
    cases data with
    | nil =>
      simp only [TcpTransport.trySendFrom, Option.some.injEq, Prod.mk.injEq] at returned
      exact ⟨t.wire, t.sendCalls, returned.2.symm⟩
    | cons b rest => simp [TcpTransport.trySendFrom] at returned
  | succ rounds ih =>
    intro data t next result returned
    cases data with
    | nil =>
      simp only [TcpTransport.trySendFrom, Option.some.injEq, Prod.mk.injEq] at returned
      exact ⟨t.wire, t.sendCalls, returned.2.symm⟩
    | cons b rest =>
      rw [TcpTransport.trySendFrom] at returned
      cases answer : kernel.send t.sendCalls (toInt (b :: rest).length) with
      | accepted length =>
        simp only [answer] at returned
        obtain ⟨wire, calls, same⟩ := ih _ _ _ _ returned
        exact ⟨wire, calls, same⟩
      | wouldBlock =>
        simp only [answer, Option.some.injEq, Prod.mk.injEq] at returned
        exact ⟨t.wire, t.sendCalls + 1, returned.2.symm⟩
      | error =>
        simp only [answer, Option.some.injEq, Prod.mk.injEq] at returned
        exact ⟨t.wire, t.sendCalls + 1, returned.2.symm⟩

/-- What `trySendQueue` leaves as it was. -/
structure Flushes (t next : TcpTransport) (result : Except Exception Bool) : Prop where
  state : next.state = t.state
  poll : next.poll = t.poll
  queue : next.mSendQueue.mQueue ≠ [] → t.mSendQueue.mQueue ≠ []
  empty : result = .ok true → next.mSendQueue.mQueue = []

theorem updateBufferedAmount_poll (t : TcpTransport) (delta : Int) :
    (t.updateBufferedAmount delta).poll = t.poll ∧ (t.updateBufferedAmount delta).state = t.state := by
  unfold TcpTransport.updateBufferedAmount
  split_ifs <;> exact ⟨rfl, rfl⟩

theorem trySendQueueFrom_flushes (rounds : Nat) :
    ∀ (t next : TcpTransport) (result : Except Exception Bool),
      TcpTransport.trySendQueueFrom kernel rounds t = some (result, next) → Flushes t next result := by
  induction rounds with
  | zero =>
    intro t next result returned
    simp [TcpTransport.trySendQueueFrom] at returned
  | succ rounds ih =>
    intro t next result returned
    rw [TcpTransport.trySendQueueFrom] at returned
    cases queue : t.mSendQueue.mQueue with
    | nil =>
      simp only [Queue.peek, queue, List.head?_nil, Option.some.injEq, Prod.mk.injEq] at returned
      rw [← returned.2]
      exact ⟨rfl, rfl, id, fun _ => queue⟩
    | cons message later =>
      have full : t.mSendQueue.mQueue ≠ [] := by simp [queue]
      simp only [Queue.peek, queue, List.head?_cons] at returned
      cases tried : t.trySendMessage kernel message with
      | none => simp [tried] at returned
      | some attempt =>
        rcases attempt with ⟨answer, after⟩
        obtain ⟨wire, calls, same⟩ := trySendFrom_frame _ _ _ _ _ tried
        subst same
        rcases answer with e | (- | rest)
        · simp only [tried, Option.some.injEq, Prod.mk.injEq] at returned
          rw [← returned.1, ← returned.2]
          exact ⟨rfl, rfl, fun _ => full, fun ok => by cases ok⟩
        · simp only [tried] at returned
          have flushes := ih _ _ _ returned
          have kept := updateBufferedAmount_poll { t with
            wire := wire
            sendCalls := calls
            mSendQueue := (t.mSendQueue.pop TcpTransport.count).2 } (-message.length)
          exact ⟨flushes.state.trans kept.2, flushes.poll.trans kept.1, fun _ => full, flushes.empty⟩
        · simp only [tried, Option.some.injEq, Prod.mk.injEq] at returned
          have kept := updateBufferedAmount_poll { t with
            wire := wire
            sendCalls := calls
            mSendQueue := (t.mSendQueue.exchange rest).2 } (-message.length + rest.length)
          rw [← returned.1, ← returned.2]
          exact ⟨kept.2, kept.1, fun _ => full, fun ok => by cases ok⟩

theorem trySendQueue_flushes {t next : TcpTransport} {result : Except Exception Bool}
    (returned : t.trySendQueue kernel = some (result, next)) : Flushes t next result :=
  trySendQueueFrom_flushes _ t next result returned

/-- A call that sends registers for writing, or queues nothing. -/
structure Sends (t next : TcpTransport) : Prop where
  state : next.state = t.state
  polled : next.poll = some .both ∨
    next.poll = t.poll ∧ (next.mSendQueue.mQueue ≠ [] → t.mSendQueue.mQueue ≠ [])

theorem Flushes.sends {t next : TcpTransport} {result : Except Exception Bool}
    (flushes : Flushes t next result) : Sends t next :=
  ⟨flushes.state, Or.inr ⟨flushes.poll, flushes.queue⟩⟩

theorem enqueue_sends {t next : TcpTransport} {message : Bytes} {result : Except Exception Bool}
    (returned : t.enqueue message = some (result, next)) : Sends t next := by
  unfold TcpTransport.enqueue at returned
  cases pushed : t.mSendQueue.push TcpTransport.count message with
  | none => simp [pushed] at returned
  | some queue =>
    simp only [pushed, Option.some.injEq, Prod.mk.injEq] at returned
    have kept := updateBufferedAmount_poll { t with mSendQueue := queue } message.length
    rw [← returned.2]
    exact ⟨kept.2, Or.inl rfl⟩

theorem Sends.trans {t middle next : TcpTransport} (first : Sends t middle) (second : Sends middle next) :
    Sends t next := by
  refine ⟨second.state.trans first.state, ?_⟩
  rcases second.polled with both | ⟨same, before⟩
  · exact Or.inl both
  · rcases first.polled with both | ⟨same', before'⟩
    · exact Or.inl (same.trans both)
    · exact Or.inr ⟨same.trans same', before' ∘ before⟩

theorem outgoing_sends {t next : TcpTransport} {message : Bytes} {result : Except Exception Bool}
    (returned : t.outgoing kernel message = some (result, next)) : Sends t next := by
  unfold TcpTransport.outgoing at returned
  cases flushed : t.trySendQueue kernel with
  | none => simp [flushed] at returned
  | some attempt =>
    rcases attempt with ⟨answer, middle⟩
    have sends := (trySendQueue_flushes flushed).sends
    rcases answer with e | (- | -)
    · simp only [flushed, Option.some.injEq, Prod.mk.injEq] at returned
      rw [← returned.2]
      exact sends
    · simp only [flushed] at returned
      exact sends.trans (enqueue_sends returned)
    · simp only [flushed] at returned
      cases tried : middle.trySendMessage kernel message with
      | none => simp [tried] at returned
      | some attempt =>
        rcases attempt with ⟨answer, after⟩
        obtain ⟨wire, calls, same⟩ := trySendFrom_frame _ _ _ _ _ tried
        subst same
        have direct : Sends t { middle with wire := wire, sendCalls := calls } :=
          ⟨sends.state, sends.polled⟩
        rcases answer with e | (- | rest)
        · simp only [tried, Option.some.injEq, Prod.mk.injEq] at returned
          rw [← returned.2]
          exact direct
        · simp only [tried, Option.some.injEq, Prod.mk.injEq] at returned
          rw [← returned.2]
          exact direct
        · simp only [tried] at returned
          exact direct.trans (enqueue_sends returned)

theorem send_sends {t next : TcpTransport} {message : Option Bytes} {result : Except Exception Bool}
    (returned : t.send kernel message = some (result, next)) : Sends t next := by
  unfold TcpTransport.send at returned
  split_ifs at returned with closed
  · simp only [Option.some.injEq, Prod.mk.injEq] at returned
    rw [← returned.2]
    exact ⟨rfl, Or.inr ⟨rfl, id⟩⟩
  · cases message with
    | none => exact (trySendQueue_flushes returned).sends
    | some message =>
      simp only at returned
      split_ifs at returned with empty
      · exact (trySendQueue_flushes returned).sends
      · exact outgoing_sends returned

theorem Sends.keep {t next : TcpTransport} (sends : Sends t next) (polled : Polled t) :
    Polled next := by
  intro connected full
  rcases sends.polled with both | ⟨same, before⟩
  · exact both
  · rw [same]
    exact polled (sends.state.symm.trans connected) (before full)

theorem disconnect_polled (t : TcpTransport) : Polled t.disconnect := by
  intro connected
  exact absurd connected (by simp [TcpTransport.disconnect])

theorem processOut_keep {t next : TcpTransport} (returned : t.processOut kernel = some next)
    (polled : Polled t) : Polled next := by
  unfold TcpTransport.processOut at returned
  cases flushed : t.trySendQueue kernel with
  | none => simp [flushed] at returned
  | some attempt =>
    rcases attempt with ⟨answer, middle⟩
    have flushes := trySendQueue_flushes flushed
    rcases answer with e | (- | -) <;> simp only [flushed, Option.some.injEq] at returned <;>
      subst returned
    · exact disconnect_polled middle
    · exact flushes.sends.keep polled
    · intro _ full
      exact absurd (flushes.empty rfl) full

/-! ### Every run of operations -/

theorem step_keeps (s : Operation) (label : Label) (next : Operation) (inv : Invariant s)
    (step : Step kernel s label next) (guarded : FinishesEmpty s label) : Invariant next := by
  cases step with
  | start t => exact fun phase => by simp at phase
  | connectSuccess t => exact fun phase => by simp at phase
  | send t next phase message result returned =>
    exact fun phase => (send_sends returned).keep (inv phase)
  | timeout t => exact fun phase => by simp at phase
  | out t next returned => exact fun _ => processOut_keep returned (inv (Or.inl rfl))
  | receive t => exact fun _ => inv (Or.inl rfl)
  | error t => exact fun _ => disconnect_polled t
  | finish t phase ending =>
    intro _ connected full
    exact absurd (guarded connected) full
  | drained t => exact fun _ => inv (Or.inr rfl)
  | lost t => exact fun _ => disconnect_polled t

/-- Only `setPoll(In)` over a queue with messages breaks the registration. -/
theorem step_breaks (s : Operation) (label : Label) (next : Operation) (inv : Invariant s)
    (step : Step kernel s label next) (against : ¬FinishesEmpty s label) : ¬PolledBetween next := by
  cases step with
  | finish t phase ending =>
    intro polled
    simp only [FinishesEmpty, Classical.not_imp] at against
    have both := polled rfl against.1 against.2
    simp [TcpTransport.setPoll] at both
  | _ => exact absurd trivial against

def Operation.initial : Operation := ⟨{ TcpTransport.connected none with state := .disconnected }, .idle⟩

/-- Between two operations, queued bytes of a connected transport are registered for writing in
every state of a run, exactly when each `setPoll(In)` behind a callback finds the queue empty. -/
theorem polled_between_iff (kernel : Kernel) (trace : List (Label × Operation))
    (run : Run (Step kernel) Operation.initial trace) :
    Always PolledBetween Operation.initial trace ↔ Guarded FinishesEmpty Operation.initial trace := by
  refine always_iff ?_ step_keeps step_breaks trace _ ?_ run
  · exact fun s inv phase => inv (Or.inl phase)
  · intro _ connected
    exact absurd connected (by decide)

end

/-- A kernel that takes one byte at every other call leaves the rest of a message of three in the queue. -/
def leaving (rest : Bytes) (wire : Bytes) (sendCalls : Nat) (updates : List (Nat × Int)) : TcpTransport where
  state := .connected
  mSendQueue := ⟨0, 1, [rest], false⟩
  mBufferedAmount := rest.length
  poll := some .both
  wire := wire
  sendCalls := sendCalls
  updates := updates

def emptied : TcpTransport :=
  { TcpTransport.connected (some .in) with
    wire := [71, 72, 73], sendCalls := 5, updates := [(0, 2), (2, -1), (1, -1)] }

/-- A message is sent after the start, leaves the queue in two events `Out` with a read before them, and then the
connection is idle. -/
def trickled : List (Label × Operation) :=
  let first := leaving [72, 73] [71] 2 [(0, 2)]
  let second := leaving [73] [71, 72] 4 [(0, 2), (2, -1)]
  [(.start, ⟨TcpTransport.connected none, .connecting⟩), (.finish, ⟨TcpTransport.connected (some .in), .idle⟩),
    (.send (some [71, 72, 73]), ⟨first, .idle⟩), (.receive, ⟨first, .receiving⟩), (.drained, ⟨first, .idle⟩),
    (.out, ⟨second, .idle⟩), (.out, ⟨emptied, .idle⟩), (.timeout, ⟨{ emptied with poll := none }, .timeout⟩),
    (.finish, ⟨emptied, .idle⟩)]

theorem trickled_run : Run (Step Kernel.slow) Operation.initial trickled :=
  ⟨.start _, .finish _ _ (.inl rfl), .send _ _ _ _ (.ok false) (by decide), .receive _, .drained _,
      .out _ _ (by decide),
    .out _ _ (by decide), .timeout _, .finish _ _ (.inr rfl), trivial⟩

theorem polled_between_trickled : Always PolledBetween Operation.initial trickled :=
  (polled_between_iff Kernel.slow trickled trickled_run).mpr
    ⟨trivial, fun _ => rfl, trivial, trivial, trivial, trivial, trivial, trivial, fun _ => rfl, trivial⟩

def blocked : Kernel where
  send _ _ := .wouldBlock
  bounded _ _ _ answer := by cases answer

/-- A connected transport with one message that the kernel did not take. -/
def pending (poll : Direction) : TcpTransport := { leaving [71] [] 1 [(0, 1)] with poll := some poll }

/-- A message sent in the state callback of `start` is queued, and then `setPoll(In)` takes the
registration for writing back. -/
theorem start_unpolled :
    ¬∀ (kernel : Kernel) (trace : List (Label × Operation)), Run (Step kernel) Operation.initial trace →
      Always PolledBetween Operation.initial trace := by
  intro all
  have run : Run (Step blocked) Operation.initial
      [(.start, ⟨TcpTransport.connected none, .connecting⟩),
        (.send (some [71]), ⟨pending .both, .connecting⟩), (.finish, ⟨pending .in, .idle⟩)] :=
    ⟨.start _, .send _ _ _ _ (.ok false) rfl, .finish (pending .both) _ (Or.inl rfl), trivial⟩
  have polled := (all _ _ run).2.2.2
  exact absurd (polled rfl rfl (by decide)) (by decide)

end WebsocketClient.TcpPolls
