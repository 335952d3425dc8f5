import Mathlib.Data.List.Range
import WebsocketClient.Library.Threads
import WebsocketClient.Queue
import WebsocketClient.ReceiveQueue

/-! The message callback of a `Channel` whose open callback has been triggered. The network thread
pushes messages and flushes the receive queue, and so does every thread that calls `onMessage`. -/

namespace WebsocketClient.Channels
open Queues ReceiveQueues Library.Threads Library.Runs

variable {T : Type} [DecidableEq T]

/-- Messages are numbered in the order they are pushed. -/
structure Shared (T : Type) where
  mRecvQueue : Queue Nat
  /-- How many messages have been pushed, and how many popped. -/
  pushed : Nat
  popped : Nat
  /-- Whether `messageCallback` is non-null, and who holds its recursive mutex. -/
  messageCallback : Bool
  owner : Option T
  /-- The messages passed to a callback, the last one at the end, and those passed to none. -/
  passed : List Nat
  dropped : List Nat

inductive Pc where
  /-- The code of the application, or of the transport below. -/
  | outside
  /-- Before `triggerAvailable(mRecvQueue.size())`. -/
  | size
  /-- Before the test, the `receive` and the call in the loop of `flushPendingMessages`. -/
  | test
  | receive
  | call (message : Nat)
  deriving DecidableEq, Repr

/-- A callback on the stack of a thread. -/
inductive Return where
  | availableCallback
  | messageCallback
  deriving DecidableEq, Repr

structure Place where
  pc : Pc
  stack : List Return
  deriving DecidableEq, Repr

inductive Action where
  | incoming
  | onMessage (callback : Bool)
  | step
  deriving DecidableEq, Repr

def Shared.Free (s : Shared T) (t : T) : Prop := s.owner = none ∨ s.owner = some t

/-- The steps of a thread. Every lock of the queue or of the callback is one step, except that the
mutex of the callback is held until the callback returns. -/
inductive ThreadStep (messageSize : Nat → Nat) (network t : T) :
    Shared T → Place → Action → Shared T → Place → Prop where
  | incoming (s : Shared T) (queue : Queue Nat) : t = network →
      s.mRecvQueue.push messageSize s.pushed = some queue →
      ThreadStep messageSize network t s ⟨.outside, []⟩ .incoming
        { s with mRecvQueue := queue, pushed := s.pushed + 1 } ⟨.size, []⟩
  | triggerAvailable (s : Shared T) (stack : List Return) : s.mRecvQueue.size = 1 →
      ThreadStep messageSize network t s ⟨.size, stack⟩ .step s ⟨.outside, .availableCallback :: stack⟩
  | unavailable (s : Shared T) (stack : List Return) : s.mRecvQueue.size ≠ 1 →
      ThreadStep messageSize network t s ⟨.size, stack⟩ .step s ⟨.test, stack⟩
  | available (s : Shared T) (stack : List Return) :
      ThreadStep messageSize network t s ⟨.outside, .availableCallback :: stack⟩ .step s ⟨.test, stack⟩
  | onMessage (s : Shared T) (stack : List Return) (callback : Bool) : s.Free t →
      ThreadStep messageSize network t s ⟨.outside, stack⟩ (.onMessage callback)
        { s with messageCallback := callback } ⟨.test, stack⟩
  | test (s : Shared T) (stack : List Return) : s.Free t → s.messageCallback = true →
      ThreadStep messageSize network t s ⟨.test, stack⟩ .step s ⟨.receive, stack⟩
  | untested (s : Shared T) (stack : List Return) : s.Free t → s.messageCallback = false →
      ThreadStep messageSize network t s ⟨.test, stack⟩ .step s ⟨.outside, stack⟩
  | receive (s : Shared T) (stack : List Return) (message : Nat) (queue : Queue Nat) :
      s.mRecvQueue.pop messageSize = (some message, queue) →
      ThreadStep messageSize network t s ⟨.receive, stack⟩ .step
        { s with mRecvQueue := queue, popped := s.popped + 1 } ⟨.call message, stack⟩
  | received (s : Shared T) (stack : List Return) (queue : Queue Nat) :
      s.mRecvQueue.pop messageSize = (none, queue) →
      ThreadStep messageSize network t s ⟨.receive, stack⟩ .step { s with mRecvQueue := queue } ⟨.outside, stack⟩
  | call (s : Shared T) (stack : List Return) (message : Nat) : s.Free t → s.messageCallback = true →
      ThreadStep messageSize network t s ⟨.call message, stack⟩ .step
        { s with passed := s.passed ++ [message], owner := some t } ⟨.outside, .messageCallback :: stack⟩
  | drop (s : Shared T) (stack : List Return) (message : Nat) : s.Free t → s.messageCallback = false →
      ThreadStep messageSize network t s ⟨.call message, stack⟩ .step
        { s with dropped := s.dropped ++ [message] } ⟨.test, stack⟩
  | leave (s : Shared T) (stack : List Return) :
      ThreadStep messageSize network t s ⟨.outside, .messageCallback :: stack⟩ .step
        { s with owner := if .messageCallback ∈ stack then some t else none } ⟨.test, stack⟩

def initial (callback : Bool) : System T (Shared T) Place where
  shared :=
    { mRecvQueue := Queue.new RECV_QUEUE_LIMIT
      pushed := 0
      popped := 0
      messageCallback := callback
      owner := none
      passed := []
      dropped := [] }
  place := fun _ => ⟨.outside, []⟩

/-- The messages passed so far are the first ones that were pushed, in order, and none was dropped. -/
def InOrder (s : System T (Shared T) Place) : Prop :=
  s.shared.passed = List.range s.shared.passed.length ∧ s.shared.dropped = []

def Holds (s : System T (Shared T) Place) (t : T) (message : Nat) : Prop := (s.place t).pc = .call message

/-- A thread comes to its call with the callback still set, and while no other one holds an older message. -/
def Oldest (s : System T (Shared T) Place) (label : T × Action) : Prop :=
  ∀ message, Holds s label.1 message →
    s.shared.messageCallback = true ∧ ∀ u older, Holds s u older → message ≤ older

structure Invariant (s : System T (Shared T) Place) : Prop where
  inOrder : InOrder s
  queue : s.shared.mRecvQueue.mQueue = List.range' s.shared.popped s.shared.mRecvQueue.mQueue.length
  running : s.shared.mRecvQueue.mStopping = false
  pushed : s.shared.pushed = s.shared.popped + s.shared.mRecvQueue.mQueue.length
  passed : s.shared.passed.length ≤ s.shared.popped
  /-- What was popped and not passed is held by exactly one thread. -/
  held : ∀ message, s.shared.passed.length ≤ message → message < s.shared.popped → ∃ t, Holds s t message
  holds : ∀ t message, Holds s t message → s.shared.passed.length ≤ message ∧ message < s.shared.popped
  unique : ∀ t u message, Holds s t message → Holds s u message → t = u

section
variable {s : System T (Shared T) Place} {t : T} {shared : Shared T} {place : Place}

theorem holds_self {message : Nat} : Holds (s.move t shared place) t message ↔ place.pc = .call message := by
  rw [Holds, System.move_place_self]

theorem holds_other {u : T} (other : u ≠ t) {message : Nat} :
    Holds (s.move t shared place) u message ↔ Holds s u message := by
  rw [Holds, System.move_place_other _ _ _ other, Holds]

theorem holds_cases {u : T} {message : Nat} (holds : Holds (s.move t shared place) u message) :
    (u = t ∧ place.pc = .call message) ∨ (u ≠ t ∧ Holds s u message) := by
  by_cases same : u = t
  · subst same
    exact .inl ⟨rfl, holds_self.mp holds⟩
  · exact .inr ⟨same, (holds_other same).mp holds⟩

theorem holds_quiet (before : ∀ message, ¬Holds s t message) (after : ∀ message, place.pc ≠ .call message)
    (u : T) (message : Nat) : Holds (s.move t shared place) u message ↔ Holds s u message := by
  by_cases same : u = t
  · subst same
    rw [holds_self]
    exact ⟨fun held => absurd held (after message), fun held => absurd held (before message)⟩
  · exact holds_other same

theorem Invariant.quiet (inv : Invariant s) (before : ∀ message, ¬Holds s t message)
    (after : ∀ message, place.pc ≠ .call message)
    (queue : shared.mRecvQueue.mQueue = List.range' s.shared.popped shared.mRecvQueue.mQueue.length)
    (running : shared.mRecvQueue.mStopping = false)
    (pushed : shared.pushed = s.shared.popped + shared.mRecvQueue.mQueue.length)
    (popped : shared.popped = s.shared.popped) (passed : shared.passed = s.shared.passed)
    (dropped : shared.dropped = s.shared.dropped) : Invariant (s.move t shared place) := by
  have same : ∀ u message, Holds (s.move t shared place) u message ↔ Holds s u message := holds_quiet before after
  refine ⟨?_, ?_, running, ?_, ?_, ?_, ?_, ?_⟩
  · simpa [InOrder, System.move, passed, dropped] using inv.inOrder
  · simpa [System.move, popped] using queue
  · simpa [System.move, popped] using pushed
  · simpa [System.move, popped, passed] using inv.passed
  · intro message low high
    simp only [System.move, popped, passed] at low high
    obtain ⟨u, holds⟩ := inv.held message low high
    exact ⟨u, (same u message).mpr holds⟩
  · intro u message holds
    simp only [System.move, popped, passed]
    exact inv.holds u message ((same u message).mp holds)
  · intro u v message first second
    exact inv.unique u v message ((same u message).mp first) ((same v message).mp second)

theorem Invariant.still (inv : Invariant s) (before : ∀ message, ¬Holds s t message)
    (after : ∀ message, place.pc ≠ .call message) (callback : Bool) (owner : Option T) :
    Invariant (s.move t { s.shared with messageCallback := callback, owner := owner } place) :=
  inv.quiet before after inv.queue inv.running inv.pushed rfl rfl rfl

theorem Invariant.receive (inv : Invariant s) {messageSize : Nat → Nat} {message : Nat} {queue : Queue Nat}
    (before : ∀ message, ¬Holds s t message) (popped : s.shared.mRecvQueue.pop messageSize = (some message, queue))
    (after : place.pc = .call message) :
    Invariant (s.move t { s.shared with mRecvQueue := queue, popped := s.shared.popped + 1 } place) := by
  obtain ⟨shape, stopping⟩ := Queue.pop_eq_some popped
  have numbers := inv.queue
  rw [shape, List.length_cons, List.range'_succ] at numbers
  obtain ⟨first, rest⟩ := List.cons.inj numbers
  have pushed := inv.pushed
  rw [shape, List.length_cons] at pushed
  have bound := inv.passed
  refine ⟨inv.inOrder, rest, stopping.trans inv.running, ?_, Nat.le_succ_of_le bound, ?_, ?_, ?_⟩
  · simp only [System.move]
    omega
  · intro other low high
    simp only [System.move] at low high
    by_cases new : other = s.shared.popped
    · refine ⟨t, holds_self.mpr ?_⟩
      rw [after, first, new]
    · obtain ⟨u, holds⟩ := inv.held other low (by omega)
      have different : u ≠ t := fun same => before other (same ▸ holds)
      exact ⟨u, (holds_other different).mpr holds⟩
  · intro u other holds
    simp only [System.move]
    rcases holds_cases holds with ⟨_, new⟩ | ⟨_, earlier⟩
    · have same := Pc.call.inj (after.symm.trans new)
      omega
    · have range := inv.holds u other earlier
      omega
  · intro u v other holds holds'
    -- the new message is one above all that are held
    have fresh : ∀ {w}, Holds s w other → place.pc ≠ .call other := by
      intro w earlier new
      have range := inv.holds w other earlier
      have same := Pc.call.inj (after.symm.trans new)
      omega
    rcases holds_cases holds with ⟨rfl, new⟩ | ⟨_, earlier⟩
    · rcases holds_cases holds' with ⟨rfl, _⟩ | ⟨_, earlier'⟩
      · rfl
      · exact absurd new (fresh earlier')
    · rcases holds_cases holds' with ⟨_, new'⟩ | ⟨_, earlier'⟩
      · exact absurd new' (fresh earlier)
      · exact inv.unique u v other earlier earlier'

omit [DecidableEq T] in
theorem Invariant.next_of_oldest (inv : Invariant s) {message : Nat} (holds : Holds s t message)
    (oldest : ∀ u older, Holds s u older → message ≤ older) : message = s.shared.passed.length := by
  have range := inv.holds t message holds
  obtain ⟨u, first⟩ := inv.held s.shared.passed.length (Nat.le_refl _) (by omega)
  have least := oldest u _ first
  omega

theorem Invariant.call (inv : Invariant s) {message : Nat} (holds : Holds s t message)
    (oldest : ∀ u older, Holds s u older → message ≤ older) (after : ∀ message, place.pc ≠ .call message)
    (owner : Option T) :
    Invariant (s.move t { s.shared with passed := s.shared.passed ++ [message], owner := owner } place) := by
  have next := inv.next_of_oldest holds oldest
  have range := inv.holds t message holds
  have others : ∀ {shared u other}, Holds (s.move t shared place) u other → u ≠ t ∧ Holds s u other :=
    fun holds' => (holds_cases holds').resolve_left fun new => after _ new.2
  refine ⟨⟨?_, inv.inOrder.2⟩, inv.queue, inv.running, inv.pushed, ?_, ?_, ?_, ?_⟩
  · simp only [System.move, List.length_append, List.length_singleton]
    rw [List.range_succ, ← inv.inOrder.1, ← next]
  · simp only [System.move, List.length_append, List.length_singleton]
    omega
  · intro other low high
    simp only [System.move, List.length_append, List.length_singleton] at low high
    obtain ⟨u, held⟩ := inv.held other (by omega) high
    have different : u ≠ t := by
      rintro rfl
      have same := Pc.call.inj (held.symm.trans holds)
      omega
    exact ⟨u, (holds_other different).mpr held⟩
  · intro u other holds'
    obtain ⟨different, held⟩ := others holds'
    have bounds := inv.holds u other held
    have apart : other ≠ message := by
      rintro rfl
      exact different (inv.unique u t other held holds)
    simp only [System.move, List.length_append, List.length_singleton]
    omega
  · intro u v other first second
    exact inv.unique u v other (others first).2 (others second).2

theorem Invariant.step (inv : Invariant s) {messageSize : Nat → Nat} {network : T} {here : Place} {action : Action}
    (place_eq : s.place t = here) (step : ThreadStep messageSize network t s.shared here action shared place)
    (oldest : Oldest s (t, action)) : Invariant (s.move t shared place) := by
  have before : (∀ message, here.pc ≠ .call message) → ∀ message, ¬Holds s t message := by
    intro quiet message holds
    exact quiet message (place_eq ▸ holds)
  cases step with
  | incoming queue is_network push =>
    obtain rfl := Queue.push_eq_some inv.running push
    refine inv.quiet (before (by simp)) (by simp) ?_ inv.running ?_ rfl rfl rfl
    · simp only [List.length_append, List.length_singleton]
      rw [List.range'_1_concat, ← inv.queue, ← inv.pushed]
    · simp only [List.length_append, List.length_singleton]
      have pushed := inv.pushed
      omega
  | triggerAvailable | unavailable | available => exact inv.still (before (by simp)) (by simp) _ _
  | onMessage stack callback free => exact inv.still (before (by simp)) (by simp) callback _
  | test | untested => exact inv.still (before (by simp)) (by simp) _ _
  | receive stack message queue popped => exact inv.receive (before (by simp)) popped rfl
  | received stack queue none =>
    rw [(Queue.pop_eq_none none).2]
    exact inv.still (before (by simp)) (by simp) _ _
  | call stack message free set =>
    have holds : Holds s t message := by rw [Holds, place_eq]
    exact inv.call holds (oldest message holds).2 (by simp) _
  | drop stack message free unset =>
    have holds : Holds s t message := by rw [Holds, place_eq]
    exact absurd ((oldest message holds).1.symm.trans unset) (by decide)
  | leave => exact inv.still (before (by simp)) (by simp) _ _

end

/-- Only a call with the callback cleared, or past an older message, breaks the order. -/
theorem breaks_inOrder {messageSize : Nat → Nat} {network : T} (s : System T (Shared T) Place) (label : T × Action)
    (next : System T (Shared T) Place) (inv : Invariant s) (step : Step (ThreadStep messageSize network) s label next)
    (against : ¬Oldest s label) : ¬InOrder next := by
  intro inOrder
  apply against
  intro message holds
  obtain ⟨t, action, shared, place, step⟩ := step
  rw [show s.place t = ⟨.call message, (s.place t).stack⟩ by rw [← holds]] at step
  cases step with
  | call stack message free set =>
    refine ⟨set, ?_⟩
    intro u older held
    have bounds := inv.holds u older held
    have order : (s.shared.passed ++ [message])[s.shared.passed.length]? =
        (List.range (s.shared.passed ++ [message]).length)[s.shared.passed.length]? :=
      congrArg (fun passed => passed[s.shared.passed.length]?) inOrder.1
    simp at order
    omega
  | drop stack message free unset =>
    have dropped : s.shared.dropped ++ [message] = [] := inOrder.2
    exact absurd dropped (by simp)

theorem keeps_invariant {messageSize : Nat → Nat} {network : T} (s : System T (Shared T) Place) (label : T × Action)
    (next : System T (Shared T) Place) (inv : Invariant s) (step : Step (ThreadStep messageSize network) s label next)
    (oldest : Oldest s label) : Invariant next := by
  obtain ⟨t, action, shared, place, step⟩ := step
  exact inv.step rfl step oldest

omit [DecidableEq T] in
theorem initial_invariant (callback : Bool) : Invariant (initial callback : System T (Shared T) Place) where
  inOrder := ⟨rfl, rfl⟩
  queue := rfl
  running := rfl
  pushed := rfl
  passed := Nat.le_refl _
  held _ _ high := absurd high (Nat.not_lt_zero _)
  holds _ _ held := nomatch held
  unique _ _ _ held := nomatch held

/-- In a run the messages are passed on in the order they came and none is dropped, exactly when every
thread comes to its call with the callback still set and with the oldest message that is held. -/
theorem passed_inOrder_iff (messageSize : Nat → Nat) (network : T) (callback : Bool)
    (trace : List ((T × Action) × System T (Shared T) Place))
    (run : Run (Step (ThreadStep messageSize network)) (initial callback) trace) :
    Always InOrder (initial callback) trace ↔ Guarded Oldest (initial callback) trace :=
  always_iff (fun _ inv => inv.inOrder) keeps_invariant breaks_inOrder trace _ (initial_invariant callback) run

/-- One message arrives. -/
def oneArrives : Shared Bool :=
  let shared := (initial true : System Bool (Shared Bool) Place).shared
  { shared with
    mRecvQueue := { shared.mRecvQueue with mAmount := 0 + UInt64.ofNat 1, mQueue := [0] }
    pushed := 1 }

/-- It is taken by the network thread. -/
def oneTaken : Shared Bool :=
  { oneArrives with
    mRecvQueue := { oneArrives.mRecvQueue with mAmount := oneArrives.mRecvQueue.mAmount - UInt64.ofNat 1, mQueue := [] }
    popped := 1 }

/-- The steps of the network thread up to its call. -/
def taking : List (Bool × Action × Shared Bool × Place) :=
  [(false, .incoming, oneArrives, ⟨.size, []⟩), (false, .step, oneArrives, ⟨.outside, [.availableCallback]⟩),
    (false, .step, oneArrives, ⟨.test, []⟩), (false, .step, oneArrives, ⟨.receive, []⟩),
    (false, .step, oneTaken, ⟨.call 0, []⟩)]

def passing : List ((Bool × Action) × System Bool (Shared Bool) Place) :=
  (initial true).walk (taking ++
    [(false, .step, { oneTaken with passed := [0], owner := some false }, ⟨.outside, [.messageCallback]⟩)])

theorem inOrder_passing : Always InOrder (initial true) passing ↔ Guarded Oldest (initial true) passing :=
  passed_inOrder_iff (fun _ => 1) false true passing
    ⟨.mk _ _ _ _ _ (.incoming _ _ rfl rfl), .mk _ _ _ _ _ (.triggerAvailable _ _ rfl), .mk _ _ _ _ _ (.available _ _),
      .mk _ _ _ _ _ (.test _ _ (.inl rfl) rfl), .mk _ _ _ _ _ (.receive _ _ _ _ rfl),
      .mk _ _ _ _ _ (.call _ _ _ (.inl rfl) rfl), trivial⟩

/-- The other thread clears the callback between the test and the call. -/
def clearing : List ((Bool × Action) × System Bool (Shared Bool) Place) :=
  (initial true).walk (taking ++
    [(true, .onMessage false, { oneTaken with messageCallback := false }, ⟨.test, []⟩),
      (false, .step, { oneTaken with messageCallback := false, dropped := [0] }, ⟨.test, []⟩)])

theorem clearing_not_inOrder : ¬∀ trace, Run (Step (ThreadStep (fun _ => 1) false)) (initial true) trace →
    Always InOrder (initial true : System Bool (Shared Bool) Place) trace := by
  intro all
  have run : Run (Step (ThreadStep (fun _ => 1) false)) (initial true) clearing :=
    ⟨.mk _ _ _ _ _ (.incoming _ _ rfl rfl), .mk _ _ _ _ _ (.triggerAvailable _ _ rfl), .mk _ _ _ _ _ (.available _ _),
      .mk _ _ _ _ _ (.test _ _ (.inl rfl) rfl), .mk _ _ _ _ _ (.receive _ _ _ _ rfl),
      .mk _ _ _ _ _ (.onMessage _ _ _ (.inl rfl)), .mk _ _ _ _ _ (.drop _ _ _ (.inl rfl) rfl), trivial⟩
  have dropped : [0] = [] := (all clearing run).last.2
  exact absurd dropped (by decide)

/-- Only the network thread moves, which finds the callback as it tested it. -/
structure Alone (network : T) (s : System T (Shared T) Place) : Prop where
  others : ∀ t message, Holds s t message → t = network
  tested : (s.place network).pc = .receive ∨ (∃ message, Holds s network message) → s.shared.messageCallback = true

theorem keeps_alone {messageSize : Nat → Nat} {network : T} (s : System T (Shared T) Place) (label : T × Action)
    (next : System T (Shared T) Place) (inv : Invariant s ∧ Alone network s)
    (step : Step (ThreadStep messageSize network) s label next) (alone : label.1 = network) :
    Invariant next ∧ Alone network next := by
  obtain ⟨inv, flush⟩ := inv
  have oldest : Oldest s label := by
    intro message holds
    refine ⟨flush.tested (.inr ⟨message, alone ▸ holds⟩), ?_⟩
    intro u older held
    rw [flush.others u older held, ← alone] at held
    exact (Pc.call.inj (holds.symm.trans held)).le
  refine ⟨keeps_invariant s label next inv step oldest, ?_⟩
  obtain ⟨t, action, shared, place, step⟩ := step
  obtain rfl : t = network := alone
  refine ⟨?_, ?_⟩
  · intro u message holds
    rcases holds_cases holds with ⟨rfl, _⟩ | ⟨_, earlier⟩
    · rfl
    · exact flush.others u message earlier
  · intro waiting
    simp only [Holds, System.move_place_self] at waiting
    have tested := flush.tested
    simp only [Holds] at tested
    generalize s.place t = here at step tested
    cases step with
    | test stack free set => exact set
    | receive stack message queue popped => exact tested (.inl rfl)
    | _ => simp at waiting

/-- Where the network thread alone sets the callback, the messages are passed on in order and none is
dropped. -/
theorem inOrder_of_alone (messageSize : Nat → Nat) (network : T) (callback : Bool)
    (trace : List ((T × Action) × System T (Shared T) Place))
    (run : Run (Step (ThreadStep messageSize network)) (initial callback) trace)
    (alone : ∀ taken ∈ trace, taken.1.1 = network) : Always InOrder (initial callback) trace := by
  have start : Alone network (initial callback : System T (Shared T) Place) := by
    refine ⟨nofun, ?_⟩
    rintro (waiting | ⟨message, held⟩)
    · exact nomatch waiting
    · exact nomatch held
  have kept := always_of_guarded keeps_alone trace _ ⟨initial_invariant callback, start⟩ run
    (guarded_of_labels trace alone _)
  exact always_mono (fun _ inv => inv.1.inOrder) trace _ kept

end WebsocketClient.Channels
