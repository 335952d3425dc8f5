import WebsocketClient.Library.Runs
import WebsocketClient.ReceiveQueue

/-! The available callback of a `WebSocket` without a message callback: `incoming` on the network
thread, and `receive` by the application at any time, from within the callback too. -/

namespace WebsocketClient.Availables
open Messages Queues ReceiveQueues Library.Runs

inductive Event where
  | pushed (message : Message)
  | received (message : Option MessageVariant)
  | available
  deriving DecidableEq, Repr

inductive Place where
  | outside
  | incoming (message : Option Message)
  /-- Before `mRecvQueue.size()`. -/
  | size
  | triggerAvailable (count : Nat)
  | availableCallback
  | flushPendingMessages
  deriving DecidableEq, Repr

structure WebSocket where
  mRecvQueue : Queue Message
  network : Place
  /-- All events, the last one first. -/
  log : List Event
  deriving DecidableEq, Repr

namespace WebSocket
variable (ws : WebSocket)

def new : WebSocket where
  mRecvQueue := Queue.new RECV_QUEUE_LIMIT
  network := .outside
  log := []

/-- A message without a queue to go to: the end of the connection, or another type. -/
def Ignored (message : Option Message) : Prop :=
  ∀ held, message = some held → held.type ≠ .string ∧ held.type ≠ .binary

/-- The pop is one step; the message that it gives is not shared. -/
def receive : Option MessageVariant × WebSocket :=
  let (next, queue) := ws.mRecvQueue.pop messageSize
  let variant := next.map fun message => (toVariant message).1
  (variant, { ws with mRecvQueue := queue, log := .received variant :: ws.log })

end WebSocket

inductive Label where
  | incoming (message : Option Message)
  | network
  | receive
  deriving DecidableEq, Repr

/-- One step for every lock of the queue or of the callback. -/
inductive Step : WebSocket → Label → WebSocket → Prop where
  | incoming (ws : WebSocket) (message : Option Message) : ws.network = .outside →
      Step ws (.incoming message) { ws with network := .incoming message }
  | ignore (ws : WebSocket) (message : Option Message) : ws.network = .incoming message →
      WebSocket.Ignored message → Step ws .network { ws with network := .outside }
  | push (ws : WebSocket) (message : Message) (queue : Queue Message) : ws.network = .incoming (some message) →
      message.type = .string ∨ message.type = .binary →
      ws.mRecvQueue.push messageSize message = some queue →
      Step ws .network { ws with mRecvQueue := queue, network := .size, log := .pushed message :: ws.log }
  | size (ws : WebSocket) : ws.network = .size →
      Step ws .network { ws with network := .triggerAvailable ws.mRecvQueue.size }
  | available (ws : WebSocket) : ws.network = .triggerAvailable 1 →
      Step ws .network { ws with network := .availableCallback, log := .available :: ws.log }
  | unavailable (ws : WebSocket) (count : Nat) : ws.network = .triggerAvailable count → count ≠ 1 →
      Step ws .network { ws with network := .flushPendingMessages }
  | called (ws : WebSocket) : ws.network = .availableCallback →
      Step ws .network { ws with network := .flushPendingMessages }
  -- there is no message callback to pass anything to
  | flushPendingMessages (ws : WebSocket) : ws.network = .flushPendingMessages →
      Step ws .network { ws with network := .outside }
  | receive (ws : WebSocket) : Step ws .receive ws.receive.2

/-! ### What the application has seen -/

def Event.result : Event → Option (Option MessageVariant)
  | .received message => some message
  | _ => none

/-- The result of the latest `receive`, if there was one. -/
def latest (log : List Event) : Option (Option MessageVariant) := log.findSome? Event.result

/-- The events since the latest `receive`, or since the start. -/
def since (log : List Event) : List Event := log.takeWhile fun event => event.result.isNone

/-- The latest `receive` gave nothing, or there was none. -/
def Drained (log : List Event) : Prop := latest log = none ∨ latest log = some none

def Event.receivedMessage : Event → Option MessageVariant
  | .received message => message
  | _ => none

def Event.pushedMessage : Event → Option MessageVariant
  | .pushed message => some (toVariantCopy message)
  | _ => none

/-- The messages handed to the application, in order, and those that came in. -/
def receivedOf (log : List Event) : List MessageVariant := (log.filterMap Event.receivedMessage).reverse
def pushedOf (log : List Event) : List MessageVariant := (log.filterMap Event.pushedMessage).reverse

/-- An application that has drained the queue is notified of what came in after. -/
def Notified (ws : WebSocket) : Prop :=
  ws.network = .outside → ws.mRecvQueue.mQueue ≠ [] → Drained ws.log → Event.available ∈ since ws.log

/-- An application that has drained the queue on each notification. -/
def AtRest (ws : WebSocket) : Prop := Drained ws.log ∧ Event.available ∉ since ws.log

def NothingMissed (ws : WebSocket) : Prop :=
  ws.network = .outside → AtRest ws → receivedOf ws.log = pushedOf ws.log

/-- While the application rests, a message in the queue is one that it is about to be notified of. -/
structure Invariant (ws : WebSocket) : Prop where
  running : ws.mRecvQueue.mStopping = false
  ordered : receivedOf ws.log ++ ws.mRecvQueue.mQueue.map toVariantCopy = pushedOf ws.log
  announced : AtRest ws → ws.mRecvQueue.mQueue = [] ∨
    (ws.network = .size ∧ ws.mRecvQueue.size = 1) ∨ ws.network = .triggerAvailable 1

variable {ws : WebSocket}

theorem Invariant.notified (inv : Invariant ws) : Notified ws := by
  intro outside nonempty drained
  by_contra silent
  rcases inv.announced ⟨drained, silent⟩ with empty | ⟨size, _⟩ | triggering
  · exact nonempty empty
  · rw [outside] at size
    exact absurd size (by decide)
  · rw [outside] at triggering
    exact absurd triggering (by simp)

theorem Invariant.nothingMissed (inv : Invariant ws) : NothingMissed ws := by
  intro outside rest
  have empty : ws.mRecvQueue.mQueue = [] := by
    by_contra nonempty
    exact rest.2 (inv.notified outside nonempty rest.1)
  have ordered := inv.ordered
  rw [empty, List.map_nil, List.append_nil] at ordered
  exact ordered

/-! ### Steps -/

theorem reverse_filterMap_cons (of : Event → Option MessageVariant) (event : Event) (log : List Event) :
    ((event :: log).filterMap of).reverse = (log.filterMap of).reverse ++ (of event).toList := by
  cases shape : of event with
  | none => rw [List.filterMap_cons_none shape, Option.toList_none, List.append_nil]
  | some message => rw [List.filterMap_cons_some shape, List.reverse_cons, Option.toList_some]

theorem receivedOf_cons (event : Event) (log : List Event) :
    receivedOf (event :: log) = receivedOf log ++ event.receivedMessage.toList :=
  reverse_filterMap_cons Event.receivedMessage event log

theorem pushedOf_cons (event : Event) (log : List Event) :
    pushedOf (event :: log) = pushedOf log ++ event.pushedMessage.toList :=
  reverse_filterMap_cons Event.pushedMessage event log

@[simp]
theorem latest_pushed (message : Message) (log : List Event) : latest (.pushed message :: log) = latest log := rfl

@[simp]
theorem latest_received (message : Option MessageVariant) (log : List Event) :
    latest (.received message :: log) = some message := rfl

theorem since_pushed (message : Message) (log : List Event) :
    since (.pushed message :: log) = .pushed message :: since log := rfl

theorem since_available (log : List Event) : since (.available :: log) = .available :: since log := rfl

theorem atRest_pushed {message : Message} {queue : Queue Message} {place : Place} :
    AtRest { ws with mRecvQueue := queue, network := place, log := .pushed message :: ws.log } ↔ AtRest ws := by
  unfold AtRest Drained
  simp only [latest_pushed, since_pushed, List.mem_cons, reduceCtorEq, false_or]

theorem not_atRest_available {queue : Queue Message} {place : Place} {log : List Event} :
    ¬AtRest ⟨queue, place, .available :: log⟩ := by
  intro rest
  have silent := rest.2
  rw [since_available] at silent
  exact silent (List.mem_cons_self ..)

theorem not_atRest_received {queue : Queue Message} {place : Place} {log : List Event} {message : MessageVariant} :
    ¬AtRest ⟨queue, place, .received (some message) :: log⟩ := by
  intro rest
  have drained := rest.1
  simp [Drained] at drained

theorem Invariant.move (inv : Invariant ws) (size : ws.network ≠ .size) (trigger : ws.network ≠ .triggerAvailable 1)
    (place : Place) : Invariant { ws with network := place } := by
  refine ⟨inv.running, inv.ordered, ?_⟩
  intro rest
  rcases inv.announced rest with empty | ⟨sizing, _⟩ | triggering
  · exact .inl empty
  · exact absurd sizing size
  · exact absurd triggering trigger

theorem Invariant.push (inv : Invariant ws) {message : Message} {queue : Queue Message}
    (here : ws.network = .incoming (some message)) (pushed : ws.mRecvQueue.push messageSize message = some queue) :
    Invariant { ws with mRecvQueue := queue, network := .size, log := .pushed message :: ws.log } := by
  obtain rfl := Queue.push_eq_some inv.running pushed
  refine ⟨inv.running, ?_, ?_⟩
  · rw [receivedOf_cons, pushedOf_cons, ← inv.ordered, List.map_append, List.map_singleton]
    simp only [Event.receivedMessage, Event.pushedMessage, Option.toList_none, Option.toList_some,
      List.append_nil, List.append_assoc]
  · intro rest
    rcases inv.announced (atRest_pushed.mp rest) with empty | ⟨size, _⟩ | triggering
    · refine .inr (.inl ⟨rfl, ?_⟩)
      rw [Queue.size, empty]
      rfl
    · exact absurd (here.symm.trans size) (by simp)
    · exact absurd (here.symm.trans triggering) (by simp)

theorem Invariant.size (inv : Invariant ws) (here : ws.network = .size) :
    Invariant { ws with network := .triggerAvailable ws.mRecvQueue.size } := by
  refine ⟨inv.running, inv.ordered, ?_⟩
  intro rest
  rcases inv.announced rest with empty | ⟨_, one⟩ | triggering
  · exact .inl empty
  · rw [one]
    exact .inr (.inr rfl)
  · exact absurd (here.symm.trans triggering) (by simp)

theorem Invariant.available (inv : Invariant ws) :
    Invariant { ws with network := .availableCallback, log := .available :: ws.log } := by
  refine ⟨inv.running, ?_, ?_⟩
  · rw [receivedOf_cons, pushedOf_cons, ← inv.ordered]
    simp only [Event.receivedMessage, Event.pushedMessage, Option.toList_none, List.append_nil]
  · intro rest
    exact absurd rest not_atRest_available

theorem Invariant.receive (inv : Invariant ws) : Invariant ws.receive.2 := by
  have ordered := inv.ordered
  unfold WebSocket.receive
  rcases popped : ws.mRecvQueue.pop messageSize with ⟨- | message, queue⟩
  · obtain ⟨empty, rfl⟩ := Queue.pop_eq_none popped
    refine ⟨inv.running, ?_, fun _ => .inl empty⟩
    rw [receivedOf_cons, pushedOf_cons, ← ordered]
    simp only [Event.receivedMessage, Event.pushedMessage, Option.map_none, Option.toList_none, List.append_nil]
  · obtain ⟨shape, stopping⟩ := Queue.pop_eq_some popped
    rw [shape, List.map_cons] at ordered
    refine ⟨stopping.trans inv.running, ?_, ?_⟩
    · rw [receivedOf_cons, pushedOf_cons, ← ordered]
      simp only [Event.receivedMessage, Event.pushedMessage, Option.map_some, Option.toList_some,
        Option.toList_none, toVariant_fst, List.append_assoc, List.append_nil, List.singleton_append]
    · intro rest
      exact absurd rest not_atRest_received

theorem invariant_step (ws : WebSocket) (label : Label) (next : WebSocket) (inv : Invariant ws)
    (step : Step ws label next) : Invariant next := by
  cases step with
  | incoming message here => exact inv.move (by simp [here]) (by simp [here]) _
  | ignore message here ignored => exact inv.move (by simp [here]) (by simp [here]) _
  | push message queue here type pushed => exact inv.push here pushed
  | size here => exact inv.size here
  | available here => exact inv.available
  | unavailable count here other =>
    refine inv.move (by simp [here]) ?_ _
    rw [here]
    exact fun same => other (Place.triggerAvailable.inj same)
  | called here => exact inv.move (by simp [here]) (by simp [here]) _
  | flushPendingMessages here => exact inv.move (by simp [here]) (by simp [here]) _
  | receive => exact inv.receive

theorem invariant_new : Invariant WebSocket.new := ⟨rfl, rfl, fun _ => .inl rfl⟩

/-- Whatever the application receives between the push and the notification, it is notified of a queue that
fills again after it was drained, and misses no message. -/
theorem always_notified (trace : List (Label × WebSocket)) (run : Run Step WebSocket.new trace) :
    Always (fun ws => Notified ws ∧ NothingMissed ws) WebSocket.new trace := by
  have always : Always Invariant WebSocket.new trace := always_of_step invariant_step trace _ invariant_new run
  exact always_mono (fun ws inv => ⟨inv.notified, inv.nothingMissed⟩) trace _ always

/-! ### A pop that slips in -/

def text : Message := ⟨[104, 105], .string⟩

def socket (messages : List Message) (amount : UInt64) (network : Place) (log : List Event) : WebSocket :=
  ⟨⟨RECV_QUEUE_LIMIT, amount, messages, false⟩, network, log⟩

def slipped : List Event := [.received (some (.string [104, 105])), .pushed text]
def again : List Event := .pushed text :: .received none :: slipped

/-- The first message is popped before the look at the size; the second one is announced. -/
def slip : List (Label × WebSocket) :=
  [(.incoming text, socket [] 0 (.incoming text) []),
    (.network, socket [text] 2 .size [.pushed text]),
    (.receive, socket [] 0 .size slipped),
    (.network, socket [] 0 (.triggerAvailable 0) slipped),
    (.network, socket [] 0 .flushPendingMessages slipped),
    (.network, socket [] 0 .outside slipped),
    (.receive, socket [] 0 .outside (.received none :: slipped)),
    (.incoming text, socket [] 0 (.incoming text) (.received none :: slipped)),
    (.network, socket [text] 2 .size again),
    (.network, socket [text] 2 (.triggerAvailable 1) again),
    (.network, socket [text] 2 .availableCallback (.available :: again)),
    (.network, socket [text] 2 .flushPendingMessages (.available :: again)),
    (.network, socket [text] 2 .outside (.available :: again))]

theorem notified_slip : Always (fun ws => Notified ws ∧ NothingMissed ws) WebSocket.new slip := by
  apply always_notified
  refine ⟨.incoming _ _ rfl, .push _ text _ rfl (.inl rfl) rfl, .receive _, .size _ rfl, ?_⟩
  refine ⟨.unavailable _ 0 rfl (by decide), .flushPendingMessages _ rfl, .receive _, ?_⟩
  refine ⟨.incoming _ _ rfl, .push _ text _ rfl (.inl rfl) rfl, .size _ rfl, .available _ rfl, ?_⟩
  exact ⟨.called _ rfl, .flushPendingMessages _ rfl, trivial⟩

end WebsocketClient.Availables
