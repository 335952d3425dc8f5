import WebsocketClient.Library.Runs
import WebsocketClient.ReceiveQueue
import WebsocketClient.WebSocketState

/-! The poll thread delivers messages into the bounded receive queue, and an application thread
sends, receives and closes. The poll thread holds the mutex of the poll service and that of the
receive callback of the `WsTransport` while it waits for room. -/

namespace WebsocketClient.Deliveries
open Messages Queues ReceiveQueues WebSocketStates Library.Runs

inductive Thread where
  | poll
  | app
  deriving DecidableEq, Repr

inductive PollPc where
  | idle
  /-- `PollService::process` locks the mutex of the poll service. -/
  | enter
  | dispatch
  /-- `WsTransport::recv` locks the mutex of the receive callback. -/
  | recv (message : Message)
  /-- In `Queue::push`, called by the callback. -/
  | push (message : Message)
  | pushed
  deriving DecidableEq, Repr

/-- `closing` tells whether the frame on its way is the CLOSE of a `forceClose`. -/
inductive AppPc where
  | idle
  | sending (closing : Bool)
  /-- `setPoll(Both)`: `PollService::add` locks the mutex of the poll service. -/
  | register (closing : Bool)
  | registered (closing : Bool)
  | closeTransports
  /-- `onRecv(nullptr)` locks the mutex of the receive callback. -/
  | onRecv
  deriving DecidableEq, Repr

structure System where
  state : State
  mRecvQueue : Queue Message
  /-- Whether the receive callback of the `WsTransport` is set. -/
  recvCallback : Bool
  pollMutex : Option Thread
  recvMutex : Option Thread
  poll : PollPc
  app : AppPc
  /-- The application has destroyed the `WebSocket`, and makes no more calls. -/
  destroyed : Bool
  deriving DecidableEq, Repr

inductive Label where
  | wake
  | enter
  | message (message : Message)
  | recv
  | push
  | pushed
  | leave
  | send
  | sent
  | wouldBlock
  | register
  | registered
  | receive
  | forceClose
  | destroy
  | closeTransports
  | onRecv
  deriving DecidableEq, Repr

/-- Where `close` leads to, for the state at its start. -/
def AppPc.afterClose : State → AppPc
  | .connecting | .open => .sending true
  | .closing => .closeTransports
  | .closed => .idle

def closeState : State → State
  | .connecting | .open => .closing
  | state => state

def AppPc.afterFrame (closing : Bool) : AppPc := if closing then .closeTransports else .idle

inductive Step : System → Label → System → Prop where
  | wake (s : System) : s.poll = .idle → Step s .wake { s with poll := .enter }
  | enter (s : System) : s.poll = .enter → s.pollMutex = none →
      Step s .enter { s with poll := .dispatch, pollMutex := some .poll }
  | message (s : System) (message : Message) : s.poll = .dispatch →
      message.type = .string ∨ message.type = .binary →
      Step s (.message message) { s with poll := .recv message }
  | recv (s : System) (message : Message) : s.poll = .recv message → s.recvMutex = none →
      s.recvCallback = true →
      Step s .recv { s with poll := .push message, recvMutex := some .poll }
  /-- Without a callback the message is dropped. -/
  | drop (s : System) (message : Message) : s.poll = .recv message → s.recvMutex = none →
      s.recvCallback = false →
      Step s .recv { s with poll := .dispatch }
  | push (s : System) (message : Message) (queue : Queue Message) : s.poll = .push message →
      s.mRecvQueue.push messageSize message = some queue →
      Step s .push { s with poll := .pushed, mRecvQueue := queue }
  | pushed (s : System) : s.poll = .pushed → Step s .pushed { s with poll := .dispatch, recvMutex := none }
  | leave (s : System) : s.poll = .dispatch →
      Step s .leave { s with poll := .idle, pollMutex := none }
  | send (s : System) : s.app = .idle → s.destroyed = false → s.state = .open →
      Step s .send { s with app := .sending false }
  | sent (s : System) (closing : Bool) : s.app = .sending closing →
      Step s .sent { s with app := .afterFrame closing }
  | wouldBlock (s : System) (closing : Bool) : s.app = .sending closing →
      Step s .wouldBlock { s with app := .register closing }
  | register (s : System) (closing : Bool) : s.app = .register closing → s.pollMutex = none →
      Step s .register { s with app := .registered closing, pollMutex := some .app }
  | registered (s : System) (closing : Bool) : s.app = .registered closing →
      Step s .registered { s with app := .afterFrame closing, pollMutex := none }
  | receive (s : System) : s.app = .idle → s.destroyed = false →
      Step s .receive { s with mRecvQueue := (s.mRecvQueue.pop messageSize).2 }
  | forceClose (s : System) : s.app = .idle → s.destroyed = false →
      Step s .forceClose { s with app := .afterClose s.state, state := closeState s.state }
  | destroy (s : System) : s.app = .idle → s.destroyed = false →
      Step s .destroy
        { s with app := .afterClose s.state, state := closeState s.state, destroyed := true }
  | closeTransports (s : System) : s.app = .closeTransports → s.state ≠ .closed →
      Step s .closeTransports { s with app := .onRecv, state := .closed }
  | onRecv (s : System) : s.app = .onRecv → s.recvMutex = none →
      Step s .onRecv { s with app := .idle, recvCallback := false }

/-- An open connection with nothing received yet. -/
def System.initial : System where
  state := .open
  mRecvQueue := Queue.new RECV_QUEUE_LIMIT
  recvCallback := true
  pollMutex := none
  recvMutex := none
  poll := .idle
  app := .idle
  destroyed := false

def WaitsForRoom (s : System) : Prop := (∃ message, s.poll = .push message) ∧ ¬s.mRecvQueue.hasRoom

/-- The application thread waits for a mutex that the poll thread holds. -/
def WaitsForPoll (s : System) : Prop :=
  ((∃ closing, s.app = .register closing) ∧ s.pollMutex = some .poll) ∨
    (s.app = .onRecv ∧ s.recvMutex = some .poll)

def Label.polls : Label → Prop
  | .wake | .enter | .message _ | .recv | .push | .pushed | .leave => True
  | _ => False

/-- The poll thread gives the mutex of the receive callback back without any help. -/
def GetsPast (s : System) : Prop :=
  s.app = .onRecv → ∃ trace, Run Step s trace ∧ (∀ taken ∈ trace, taken.1.polls) ∧
    (last s trace).recvMutex = none ∧ (last s trace).app = .onRecv

structure Safe (s : System) : Prop where
  wait : ¬(WaitsForRoom s ∧ WaitsForPoll s)
  past : GetsPast s

def AppPc.Locks (app : AppPc) : Prop := (∃ closing, app = .register closing) ∨ app = .onRecv

/-- The step brings no thread to its wait while the other one is in its own. -/
def Apart (s : System) : Label → Prop
  | .wouldBlock | .closeTransports => ¬WaitsForRoom s
  | .recv => s.recvCallback = false ∨ s.mRecvQueue.hasRoom ∨ ¬s.app.Locks
  | _ => True

/-! ### The mutexes of the poll thread -/

/-- Inside `PollService::process`. -/
def PollPc.dispatches : PollPc → Bool
  | .idle | .enter => false
  | .dispatch | .recv _ | .push _ | .pushed => true

def PollPc.calls : PollPc → Bool
  | .push _ | .pushed => true
  | .idle | .enter | .dispatch | .recv _ => false

/-- Inside `PollService::add`. -/
def AppPc.adds : AppPc → Bool
  | .registered _ => true
  | .idle | .sending _ | .register _ | .closeTransports | .onRecv => false

structure Invariant (s : System) : Prop where
  pollMutex : s.pollMutex = some .poll ↔ s.poll.dispatches = true
  appMutex : s.app.adds = true → s.pollMutex = some .app
  recvMutex : s.recvMutex = if s.poll.calls then some .poll else none
  apart : ¬(WaitsForRoom s ∧ WaitsForPoll s)

theorem WaitsForPoll.locks {s : System} (waits : WaitsForPoll s) : s.app.Locks := by
  rcases waits with ⟨place, _⟩ | ⟨place, _⟩
  · exact .inl place
  · exact .inr place

theorem waitsForPoll_iff {s : System} (inv : Invariant s) (calls : s.poll.calls = true) :
    WaitsForPoll s ↔ s.app.Locks := by
  have dispatches : s.poll.dispatches = true := by
    cases place : s.poll <;> simp only [place, PollPc.calls, Bool.false_eq_true] at calls <;> rfl
  have recvMutex : s.recvMutex = some .poll := by rw [inv.recvMutex, if_pos calls]
  unfold WaitsForPoll AppPc.Locks
  rw [inv.pollMutex.mpr dispatches, recvMutex]
  simp

theorem not_locks_afterClose (state : State) : ¬(AppPc.afterClose state).Locks := by
  cases state <;> simp [AppPc.afterClose, AppPc.Locks]

theorem not_locks_afterFrame (closing : Bool) : ¬(AppPc.afterFrame closing).Locks := by
  cases closing <;> simp [AppPc.afterFrame, AppPc.Locks]

theorem apart_of_notPush {s : System} (place : ∀ message, s.poll ≠ .push message) :
    ¬(WaitsForRoom s ∧ WaitsForPoll s) := by
  rintro ⟨⟨⟨message, push⟩, _⟩, _⟩
  exact place message push

theorem apart_of_notLocks {s : System} (place : ¬s.app.Locks) :
    ¬(WaitsForRoom s ∧ WaitsForPoll s) :=
  fun both => place both.2.locks

@[simp] theorem adds_afterClose (state : State) : (AppPc.afterClose state).adds = false := by
  cases state <;> rfl

@[simp] theorem adds_afterFrame (closing : Bool) : (AppPc.afterFrame closing).adds = false := by
  cases closing <;> rfl

theorem keeps_invariant (s : System) (label : Label) (next : System) (inv : Invariant s)
    (step : Step s label next) (guard : Apart s label) : Invariant next := by
  obtain ⟨pollMutex, appMutex, recvMutex, apart⟩ := inv
  cases step with
  | wake place | message message place isData | drop message place free callback
  | push message queue place pushed =>
    rw [place] at pollMutex recvMutex
    exact ⟨pollMutex, appMutex, recvMutex, apart_of_notPush (by simp)⟩
  | enter place free =>
    rw [place] at recvMutex
    refine ⟨by simp [PollPc.dispatches], ?_, recvMutex, apart_of_notPush (by simp)⟩
    intro adds
    simp [free] at appMutex
    simp [appMutex] at adds
  | recv message place free callback =>
    rw [place] at pollMutex
    refine ⟨pollMutex, appMutex, rfl, ?_⟩
    rcases guard with none | room | outside
    · simp [none] at callback
    · exact fun both => both.1.2 room
    · exact apart_of_notLocks outside
  | pushed place =>
    rw [place] at pollMutex
    exact ⟨pollMutex, appMutex, rfl, apart_of_notPush (by simp)⟩
  | leave place =>
    rw [place] at pollMutex recvMutex
    refine ⟨by simp [PollPc.dispatches], ?_, recvMutex, apart_of_notPush (by simp)⟩
    intro adds
    have other := appMutex adds
    rw [pollMutex.mpr rfl] at other
    cases other
  | send place alive isOpen =>
    exact ⟨pollMutex, by simp [AppPc.adds], recvMutex, apart_of_notLocks (by simp [AppPc.Locks])⟩
  | sent closing place =>
    exact ⟨pollMutex, by simp, recvMutex, apart_of_notLocks (not_locks_afterFrame closing)⟩
  | wouldBlock closing place =>
    exact ⟨pollMutex, by simp [AppPc.adds], recvMutex, fun both => guard both.1⟩
  | register closing place free =>
    rw [free] at pollMutex
    exact ⟨by simpa using pollMutex, fun _ => rfl, recvMutex, apart_of_notLocks (by simp [AppPc.Locks])⟩
  | registered closing place =>
    rw [appMutex (by rw [place]; rfl)] at pollMutex
    exact ⟨by simpa using pollMutex, by simp, recvMutex, apart_of_notLocks (not_locks_afterFrame closing)⟩
  | receive place alive =>
    exact ⟨pollMutex, appMutex, recvMutex, apart_of_notLocks (by simp [place, AppPc.Locks])⟩
  | forceClose place alive | destroy place alive =>
    exact ⟨pollMutex, by simp, recvMutex, apart_of_notLocks (not_locks_afterClose s.state)⟩
  | closeTransports place state =>
    exact ⟨pollMutex, by simp [AppPc.adds], recvMutex, fun both => guard both.1⟩
  | onRecv place free =>
    exact ⟨pollMutex, by simp [AppPc.adds], recvMutex, apart_of_notLocks (by simp [AppPc.Locks])⟩

/-! ### The wait of `onRecv(nullptr)` -/

theorem push_isSome {s : System} (room : s.mRecvQueue.hasRoom) (message : Message) :
    ∃ queue, s.mRecvQueue.push messageSize message = some queue := by
  rw [Queue.push, if_pos room]
  split
  · exact ⟨_, rfl⟩
  · exact ⟨_, rfl⟩

theorem getsPast_of_invariant {s : System} (inv : Invariant s) : GetsPast s := by
  intro place
  by_cases calls : s.poll.calls = true
  · have waits : WaitsForPoll s := (waitsForPoll_iff inv calls).mpr (.inr place)
    cases poll : s.poll with
    | idle | enter | dispatch | recv message => simp [poll, PollPc.calls] at calls
    | push message =>
      have room : s.mRecvQueue.hasRoom := by
        by_contra full
        exact inv.apart ⟨⟨⟨message, poll⟩, full⟩, waits⟩
      obtain ⟨queue, pushed⟩ := push_isSome room message
      refine ⟨[(.push, { s with poll := .pushed, mRecvQueue := queue }),
          (.pushed, { s with poll := .dispatch, mRecvQueue := queue, recvMutex := none })], ?_, ?_, rfl, place⟩
      · exact ⟨.push s message queue poll pushed, .pushed _ rfl, trivial⟩
      · simp [Label.polls]
    | pushed =>
      refine ⟨[(.pushed, { s with poll := .dispatch, recvMutex := none })], ?_, ?_, rfl, place⟩
      · exact ⟨.pushed s poll, trivial⟩
      · simp [Label.polls]
  · have free := inv.recvMutex
    rw [if_neg calls] at free
    exact ⟨[], trivial, by simp, free, place⟩

theorem safe_of_invariant (s : System) (inv : Invariant s) : Safe s where
  wait := inv.apart
  past := getsPast_of_invariant inv

theorem breaks_safe (s : System) (label : Label) (next : System) (inv : Invariant s)
    (step : Step s label next) (against : ¬Apart s label) : ¬Safe next := by
  intro safe
  apply safe.wait
  cases step with
  | recv message place free callback =>
    simp only [Apart, not_or, not_not] at against
    obtain ⟨_, full, locks⟩ := against
    refine ⟨⟨⟨message, rfl⟩, full⟩, ?_⟩
    rcases locks with registers | resets
    · exact .inl ⟨registers, inv.pollMutex.mpr (by rw [place]; rfl)⟩
    · exact .inr ⟨resets, rfl⟩
  | wouldBlock closing place =>
    obtain ⟨⟨message, push⟩, full⟩ := not_not.mp against
    exact ⟨⟨⟨message, push⟩, full⟩, .inl ⟨⟨closing, rfl⟩, inv.pollMutex.mpr (by rw [push]; rfl)⟩⟩
  | closeTransports place state =>
    obtain ⟨⟨message, push⟩, full⟩ := not_not.mp against
    refine ⟨⟨⟨message, push⟩, full⟩, .inr ⟨rfl, ?_⟩⟩
    show s.recvMutex = some .poll
    rw [inv.recvMutex, push]
    rfl
  | wake | enter | message | push | pushed | leave | send | sent | register | registered | receive
  | forceClose | destroy | onRecv => exact (against trivial).elim
  | drop message place free callback => exact absurd (.inl callback) against

theorem initial_invariant : Invariant .initial where
  pollMutex := by simp [System.initial, PollPc.dispatches]
  appMutex := by simp [System.initial, AppPc.adds]
  recvMutex := rfl
  apart := apart_of_notPush (by simp [System.initial])

/-- In a run the poll thread never waits for room while the application thread waits for a mutex of
it, and a reset of the receive callback goes through, exactly when no step brings one thread to its
wait while the other one is in its own. -/
theorem safe_iff (trace : List (Label × System)) (run : Run Step .initial trace) :
    Always Safe .initial trace ↔ Guarded Apart .initial trace :=
  always_iff safe_of_invariant keeps_invariant breaks_safe trace _ initial_invariant run

def oneUnread : Queue Message :=
  { (Queue.new RECV_QUEUE_LIMIT : Queue Message) with mQueue := [⟨[7], .binary⟩], mAmount := 1 }

theorem push_oneUnread :
    (Queue.new RECV_QUEUE_LIMIT : Queue Message).push messageSize ⟨[7], .binary⟩ = some oneUnread := rfl

/-- A message arrives while a send has to wait to register, and is received; a second one arrives while the application
closes, whose reset of the callback waits for it, and a third one after that is dropped. -/
def received : List (Label × System) :=
  let message : Message := ⟨[7], .binary⟩
  let dispatching := { System.initial with poll := .dispatch, pollMutex := some .poll }
  let pushing := { dispatching with poll := .push message, recvMutex := some .poll, app := .register false }
  let passed := { dispatching with mRecvQueue := oneUnread, app := .register false }
  let read := { System.initial with mRecvQueue := (oneUnread.pop messageSize).2 }
  let closing := { read with
    poll := .push message, pollMutex := some .poll, recvMutex := some .poll, state := .closed, app := .onRecv }
  let delivered := { closing with
    poll := .dispatch, recvMutex := none, mRecvQueue := oneUnread }
  let deaf := { delivered with app := .idle, recvCallback := false }
  [(.wake, { System.initial with poll := .enter }), (.enter, dispatching),
    (.message message, { dispatching with poll := .recv message }),
    (.send, { dispatching with poll := .recv message, app := .sending false }),
    (.wouldBlock, { dispatching with poll := .recv message, app := .register false }),
    (.recv, pushing), (.push, { pushing with poll := .pushed, mRecvQueue := oneUnread }), (.pushed, passed),
    (.leave, { passed with poll := .idle, pollMutex := none }),
    (.register, { passed with poll := .idle, pollMutex := some .app, app := .registered false }),
    (.registered, { System.initial with mRecvQueue := oneUnread }), (.receive, read),
    (.wake, { read with poll := .enter }), (.enter, { read with poll := .dispatch, pollMutex := some .poll }),
    (.message message, { read with poll := .recv message, pollMutex := some .poll }),
    (.forceClose, { read with
      poll := .recv message, pollMutex := some .poll, state := .closing, app := .sending true }),
    (.sent, { read with
      poll := .recv message, pollMutex := some .poll, state := .closing, app := .closeTransports }),
    (.recv, { closing with state := .closing, app := .closeTransports }),
    (.closeTransports, closing), (.push, { delivered with poll := .pushed, recvMutex := some .poll }),
    (.pushed, delivered), (.onRecv, deaf), (.message message, { deaf with poll := .recv message }), (.recv, deaf),
    (.leave, { deaf with poll := .idle, pollMutex := none })]

theorem received_run : Run Step .initial received :=
  ⟨.wake _ rfl, .enter _ rfl rfl, .message _ _ rfl (.inr rfl), .send _ rfl rfl rfl, .wouldBlock _ _ rfl,
    .recv _ _ rfl rfl rfl, .push _ _ _ rfl push_oneUnread, .pushed _ rfl, .leave _ rfl, .register _ _ rfl rfl,
    .registered _ false rfl, .receive _ rfl rfl, .wake _ rfl, .enter _ rfl rfl, .message _ _ rfl (.inr rfl),
    .forceClose _ rfl rfl, .sent _ true rfl, .recv _ _ rfl rfl rfl, .closeTransports _ rfl (by decide),
    .push _ _ _ rfl push_oneUnread, .pushed _ rfl, .onRecv _ rfl rfl, .message _ _ rfl (.inr rfl),
    .drop _ _ rfl rfl rfl, .leave _ rfl, trivial⟩

theorem received_apart : Guarded Apart .initial received :=
  have room : (Queue.new RECV_QUEUE_LIMIT : Queue Message).hasRoom := .inr (.inl (by decide))
  have roomLater : (oneUnread.pop messageSize).2.hasRoom := .inr (.inl (by decide))
  ⟨trivial, trivial, trivial, trivial, fun waits => waits.2 room, .inr (.inl room), trivial, trivial, trivial, trivial,
    trivial, trivial, trivial, trivial, trivial, trivial, trivial, .inr (.inl roomLater),
    fun waits => waits.2 roomLater,
    trivial, trivial, trivial, trivial, .inl rfl, trivial, trivial⟩

theorem safe_received : Always Safe .initial received :=
  (safe_iff received received_run).mpr received_apart

/-! ### A full queue -/

theorem stuck_of_waits {s : System} (room : WaitsForRoom s) (mutex : WaitsForPoll s) (label : Label)
    (next : System) : ¬Step s label next := by
  obtain ⟨⟨message, push⟩, full⟩ := room
  intro step
  have locks := mutex.locks
  cases step with
  | wake place | enter place | recv _ place | drop _ place | message _ place | pushed place
  | leave place => rw [push] at place; cases place
  | push message' queue place pushed =>
    rw [Queue.push, if_neg full] at pushed
    cases pushed
  | register closing place free =>
    rcases mutex with ⟨_, held⟩ | ⟨resets, _⟩
    · rw [free] at held
      cases held
    · rw [place] at resets
      cases resets
  | onRecv place free =>
    rcases mutex with ⟨⟨closing, registers⟩, _⟩ | ⟨_, held⟩
    · rw [place] at registers
      cases registers
    · rw [free] at held
      cases held
  | send place | sent _ place | wouldBlock _ place | registered _ place | receive place
  | forceClose place | destroy place | closeTransports place =>
    simp [AppPc.Locks, place] at locks

/-- The poll thread between two messages, with some of them unread. -/
def unread (queue : Queue Message) : System :=
  { System.initial with poll := .dispatch, pollMutex := some .poll, mRecvQueue := queue }

theorem run_deliver (queue next : Queue Message) (message : Message) (data : message.type = .binary)
    (pushed : queue.push messageSize message = some next) :
    ∃ trace, Run Step (unread queue) trace ∧ last (unread queue) trace = unread next := by
  refine ⟨[(.message message, { unread queue with poll := .recv message }),
    (.recv, { unread queue with poll := .push message, recvMutex := some .poll }),
    (.push, { unread next with poll := .pushed, recvMutex := some .poll }),
    (.pushed, unread next)], ?_, rfl⟩
  exact ⟨.message _ message rfl (.inr data), .recv _ message rfl rfl rfl, .push _ message next rfl pushed,
    .pushed _ rfl, trivial⟩

theorem push_grows {queue : Queue Message} (room : queue.hasRoom) (running : queue.mStopping = false)
    (message : Message) :
    ∃ next, queue.push messageSize message = some next ∧
      next.mQueue.length = queue.mQueue.length + 1 ∧ next.mLimit = queue.mLimit ∧ next.mStopping = false := by
  refine ⟨_, Queue.push_running messageSize queue message running room, ?_, rfl, running⟩
  simp

theorem exists_unread (count : Nat) (within : count ≤ RECV_QUEUE_LIMIT) :
    ∃ trace queue, Run Step .initial trace ∧ last .initial trace = unread queue ∧
      queue.mLimit = RECV_QUEUE_LIMIT ∧ queue.mStopping = false ∧ queue.mQueue.length = count := by
  induction count with
  | zero =>
    exact ⟨[(.wake, { System.initial with poll := .enter }), (.enter, unread (Queue.new RECV_QUEUE_LIMIT))],
      _, ⟨.wake _ rfl, .enter _ rfl rfl, trivial⟩, rfl, rfl, rfl, rfl⟩
  | succ count ih =>
    obtain ⟨trace, queue, run, ends, limit, running, length⟩ := ih (by omega)
    have room : queue.hasRoom := .inr (.inl (by omega))
    obtain ⟨next, pushed, grown, nextLimit, nextRunning⟩ := push_grows room running ⟨[7], .binary⟩
    obtain ⟨more, later, lastLater⟩ := run_deliver queue next _ rfl pushed
    refine ⟨trace ++ more, next, run.append (ends ▸ later), ?_, nextLimit.trans limit, nextRunning, by omega⟩
    rw [last_append, ends, lastLater]

/-- One message more than the queue holds arrives, and the application closes. -/
theorem closing_unsafe : ¬∀ trace, Run Step .initial trace → Always Safe .initial trace := by
  intro all
  obtain ⟨trace, queue, run, ends, limit, running, length⟩ := exists_unread RECV_QUEUE_LIMIT (Nat.le_refl _)
  let message : Message := ⟨[7], .binary⟩
  let waiting : System := { unread queue with poll := .push message, recvMutex := some .poll }
  let more : List (Label × System) :=
    [(.message message, { unread queue with poll := .recv message }), (.recv, waiting),
      (.forceClose, { waiting with state := .closing, app := .sending true }),
      (.sent, { waiting with state := .closing, app := .closeTransports }),
      (.closeTransports, { waiting with state := .closed, app := .onRecv })]
  have later : Run Step (unread queue) more :=
    ⟨.message _ message rfl (.inr rfl), .recv _ message rfl rfl rfl, .forceClose _ rfl rfl, .sent _ true rfl,
      .closeTransports _ rfl (by simp), trivial⟩
  have always := (all _ (run.append (ends ▸ later))).last
  rw [last_append, ends] at always
  apply always.wait
  refine ⟨⟨⟨message, rfl⟩, ?_⟩, .inr ⟨rfl, rfl⟩⟩
  show ¬queue.hasRoom
  simp [Queue.hasRoom, limit, running, length, RECV_QUEUE_LIMIT]

end WebsocketClient.Deliveries
