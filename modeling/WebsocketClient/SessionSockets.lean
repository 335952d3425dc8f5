import WebsocketClient.ReceiveQueue
import WebsocketClient.SessionEnd
import WebsocketClient.WsLog

/-! The applications above a session. What a `WsTransport` passes up goes through the receive queue of its `WebSocket`,
to a message callback or to calls of `receive`, and the thread that has read it waits in `incoming` while the
queue is full. A piece that was read is handled as a whole before its messages are given to the queue, and the
calls of `receive` and of callbacks come one at a time. No application calls `peek`. -/

namespace WebsocketClient.SessionSockets
open ByteString Messages Frames Handshake HandshakeRoundTrip Queues Transports WsTransports WsMessages WsChunks WsLogs
  Sessions ReceiveQueues Library.Runs

/-- A session, the sockets of its ends, how many messages each of them was given and whether it is still called, and
what its application has taken. -/
structure Sockets where
  session : Session
  socket : End → WebSocket
  pushed : End → Nat
  deaf : End → Bool
  taken : End → List MessageVariant

inductive Label where
  | session (label : Sessions.Label)
  | incoming (e : End)
  | triggerOpen (e : End)
  | onMessage (e : End) (callback : Bool)
  | resetCallbacks (e : End)
  | receive (e : End)
  /-- `closeTransports` takes the receive callback away. -/
  | closeTransports (e : End)
  deriving DecidableEq, Repr

def polls : Sessions.Label → Bool
  | .idle _ | .lost _ | .deliver _ _ => true
  | .send _ _ | .close _ | .closeTimeout _ => false

namespace Sockets
variable (env : End → Environment) (s : Sockets) (e : End)

/-- What the transport has passed up and the socket was not given yet. -/
def pending : List Message := (delivered (s.session.ends e).log).drop (s.pushed e)

def put (messages : List MessageVariant) (ws : WebSocket) : Sockets :=
  { s with
    socket := Function.update s.socket e ws
    taken := Function.update s.taken e (s.taken e ++ messages) }

/-- The flags change, and then messages that wait may go to the callback. -/
def flush (mOpenTriggered messageCallback : Bool) : Sockets :=
  let flushed := WebSocket.flushPendingMessages
    { s.socket e with mOpenTriggered := mOpenTriggered, messageCallback := messageCallback }
  s.put e flushed.1 flushed.2

/-- `none` while the queue is full. -/
def incoming : Option Sockets :=
  match s.pending e with
  | [] => none
  | message :: _ =>
      ((s.socket e).incoming message).map fun passed =>
        { s.put e passed.1 passed.2 with pushed := Function.update s.pushed e (s.pushed e + 1) }

def next : Label → Option Sockets
  | .session label => some { s with session := s.session.next env label }
  | .incoming e => s.incoming e
  | .triggerOpen e => some (s.flush e true (s.socket e).messageCallback)
  | .onMessage e callback => some (s.flush e (s.socket e).mOpenTriggered callback)
  | .resetCallbacks e => some (s.put e [] { s.socket e with mOpenTriggered := false, messageCallback := false })
  | .receive e => some (s.put e (s.socket e).receive.1.toList (s.socket e).receive.2)
  | .closeTransports e => some { s with deaf := Function.update s.deaf e true }

/-- The poll service goes on when what it has read was given to the socket. The transports are closed in its thread,
with nothing left to give, or in the thread of a timer. -/
def Enabled : Label → Prop
  | .session label => s.session.Enabled label ∧ (polls label = true → s.pending label.own = [])
  | .incoming e => s.deaf e = false
  | .triggerOpen e => (s.session.ends e).state ≠ .connecting
  | .closeTransports e =>
      ((s.session.ends e).state = .disconnected ∨ (s.session.ends e).state = .failed) ∧
        (s.pending e = [] ∨ s.session.broken e = true)
  | .onMessage _ _ | .resetCallbacks _ | .receive _ => True

instance (label : Label) : Decidable (s.Enabled label) :=
  match label with
  | .session label =>
      inferInstanceAs (Decidable (s.session.Enabled label ∧ (polls label = true → s.pending label.own = [])))
  | .incoming e => inferInstanceAs (Decidable (s.deaf e = false))
  | .triggerOpen e => inferInstanceAs (Decidable ((s.session.ends e).state ≠ .connecting))
  | .closeTransports e =>
      inferInstanceAs (Decidable (((s.session.ends e).state = .disconnected ∨ (s.session.ends e).state = .failed) ∧
        (s.pending e = [] ∨ s.session.broken e = true)))
  | .onMessage _ _ => inferInstanceAs (Decidable True)
  | .resetCallbacks _ => inferInstanceAs (Decidable True)
  | .receive _ => inferInstanceAs (Decidable True)

/-- The run of a list of labels, as far as its steps are possible. -/
def walk : Sockets → List Label → Option (List (Label × Sockets))
  | _, [] => some []
  | s, label :: rest =>
      if s.Enabled label then do
        let next ← s.next env label
        let later ← walk next rest
        return (label, next) :: later
      else none

end Sockets

def Step (env : End → Environment) (s : Sockets) (label : Label) (next : Sockets) : Prop :=
  s.Enabled label ∧ s.next env label = some next

theorem Sockets.walk_run (env : End → Environment) (labels : List Label) :
    ∀ (s : Sockets) (trace : List (Label × Sockets)),
    s.walk env labels = some trace → Run (SessionSockets.Step env) s trace := by
  induction labels with
  | nil =>
    intro s trace walked
    rw [Sockets.walk, Option.some.injEq] at walked
    rw [← walked]
    trivial
  | cons label rest ih =>
    intro s trace walked
    rw [Sockets.walk] at walked
    split_ifs at walked with enabled
    simp only [bind, Option.bind_eq_some_iff, pure, Option.some.injEq] at walked
    obtain ⟨next, taken, later, following, rfl⟩ := walked
    exact ⟨⟨enabled, taken⟩, ih next later following⟩

def opening (env : End → Environment) (setup : Setup) : Sockets where
  session := setup.opening env
  socket _ := .new false false
  pushed _ := 0
  deaf _ := false
  taken _ := []

/-! ### One socket -/

/-- What was given to a socket is what was taken from it and what waits in its queue. -/
def Passed (ws : WebSocket) (given : List Message) (taken : List MessageVariant) : Prop :=
  ∃ waiting, WellFormed (ws.mOpenTriggered && ws.messageCallback) ws ∧ Represents ws waiting ∧
    taken ++ waiting.map toVariantCopy = given.map toVariantCopy

section
variable {ws : WebSocket} {given : List Message} {taken : List MessageVariant}

theorem Passed.flush (passed : Passed ws given taken) (mOpenTriggered messageCallback : Bool) :
    let flushed := WebSocket.flushPendingMessages
      { ws with mOpenTriggered := mOpenTriggered, messageCallback := messageCallback }
    Passed flushed.2 given (taken ++ flushed.1) := by
  obtain ⟨waiting, wellFormed, represents, order⟩ := passed
  let flagged : WebSocket := { ws with mOpenTriggered := mOpenTriggered, messageCallback := messageCallback }
  have same : WellFormed (mOpenTriggered && messageCallback) flagged :=
    ⟨wellFormed.limit, wellFormed.running, rfl, wellFormed.distinct, wellFormed.inside⟩
  have waits : Represents flagged waiting := ⟨represents.contents, represents.amount⟩
  obtain ⟨next, flushed, kept, left⟩ := flushPendingMessages_spec same waits
  show Passed flagged.flushPendingMessages.2 given (taken ++ flagged.flushPendingMessages.1)
  rw [flushed]
  have flags := kept.flags
  refine ⟨_, by rw [flags]; exact kept, left, ?_⟩
  rw [← order, List.append_assoc]
  cases mOpenTriggered && messageCallback <;> simp

theorem Passed.receive (passed : Passed ws given taken) : Passed ws.receive.2 given (taken ++ ws.receive.1.toList) := by
  obtain ⟨waiting, wellFormed, represents, order⟩ := passed
  cases waiting with
  | nil =>
    rw [receive_empty represents]
    refine ⟨[], wellFormed, represents, ?_⟩
    rw [← order]
    simp
  | cons message rest =>
    obtain ⟨next, received, kept, left⟩ := receive_cons wellFormed represents
    rw [received]
    have flags := kept.flags
    refine ⟨rest, by rw [flags]; exact kept, left, ?_⟩
    rw [← order]
    simp

/-- A message is only accepted when there is room for it. -/
theorem incoming_room {passes : Bool} {waiting : List Message} {message : Message} (wellFormed : WellFormed passes ws)
    (represents : Represents ws waiting) (data : message.type = .string ∨ message.type = .binary)
    (accepted : ws.incoming message ≠ none) : waiting.length < RECV_QUEUE_LIMIT := by
  have size : ws.mRecvQueue.mQueue.length = waiting.length := by
    rw [← represents.contents, WebSocket.contents, List.length_map]
  apply Classical.byContradiction
  intro full
  apply accepted
  have blocked : ¬ws.mRecvQueue.hasRoom := by
    rw [Queue.hasRoom, wellFormed.limit, wellFormed.running, size]
    simp [RECV_QUEUE_LIMIT] at full ⊢
    omega
  rw [WebSocket.incoming, if_pos data]
  simp only [Queue.push, if_neg blocked]

theorem Passed.incoming {message : Message} {messages : List MessageVariant} {next : WebSocket}
    (passed : Passed ws given taken)
    (data : message.type = .string ∨ message.type = .binary) (accepted : ws.incoming message = some (messages, next)) :
    Passed next (given ++ [message]) (taken ++ messages) ∧
      next.mRecvQueue.mQueue.length ≤ ws.mRecvQueue.mQueue.length + 1 := by
  obtain ⟨waiting, wellFormed, represents, order⟩ := passed
  have room := incoming_room wellFormed represents data (by rw [accepted]; simp)
  obtain ⟨after, returned, kept, left⟩ := incoming_spec wellFormed represents ⟨data, room⟩
  rw [accepted, Option.some.injEq, Prod.mk.injEq] at returned
  obtain ⟨rfl, rfl⟩ := returned
  have flags := kept.flags
  have size (other : WebSocket) : other.mRecvQueue.mQueue.length = other.contents.length := by
    rw [WebSocket.contents, List.length_map]
  constructor
  · refine ⟨_, by rw [flags]; exact kept, left, ?_⟩
    have all : (given ++ [message]).map toVariantCopy = taken ++
        (waiting.map toVariantCopy ++ [toVariantCopy message]) := by
      rw [List.map_append, ← order, List.append_assoc]
      rfl
    rw [all]
    cases ws.mOpenTriggered && ws.messageCallback <;> simp
  · rw [size, size, left.contents, represents.contents]
    cases ws.mOpenTriggered && ws.messageCallback <;> simp

end

/-! ### Both ends -/

def given (s : Sockets) (e : End) : List Message := (delivered (s.session.ends e).log).take (s.pushed e)

structure Inv (env : End → Environment) (setup : Setup) (s : Sockets) : Prop where
  session : Sessions.Inv env setup s.session
  pushed : ∀ e, s.pushed e ≤ (delivered (s.session.ends e).log).length
  passed : ∀ e, Passed (s.socket e) (given s e) (s.taken e)

section
variable {env : End → Environment} {setup : Setup} {s next : Sockets}

theorem delivered_grows (quiet : ∀ e, Quiet (env e)) {s next : Session} (inv : Sessions.Inv env setup s)
    {label : Sessions.Label} (step : Sessions.Step env s label next) (e : End) :
    delivered (s.ends e).log <+: delivered (next.ends e).log := by
  rcases inv.step_cases quiet step with ⟨x, count, rfl, _, _, rfl⟩ | ⟨more, new, goes, _⟩
  · rcases x.cases e with rfl | rfl
    · have here : (s.receive env e count).ends e = (s.ends e).incoming (env e) (some ((s.flight e).take count)) :=
        Function.update_self ..
      have goes (opened : (s.ends e).state ≠ .connecting) :
          delivered (s.ends e).log <+: delivered ((s.receive env e count).ends e).log := by
        have went : GoesOn (s.ends e) ((s.ends e).incoming (env e) (some ((s.flight e).take count))) :=
          incoming_goesOn opened _
        obtain ⟨more, log, _⟩ := went
        rw [here, log, delivered_append]
        exact List.prefix_append _ _
      cases inv.reads e with
      | handshake _ _ _ none =>
        rw [none.delivered]
        exact List.nil_prefix
      | opened _ _ _ connected => exact goes (by rw [connected]; decide)
      | ended _ _ gone => exact goes (by rcases gone with gone | gone <;> rw [gone] <;> decide)
    · have there : (s.receive env x count).ends x.other = s.ends x.other := Function.update_of_ne x.other_ne ..
      exact there ▸ List.prefix_rfl
  · rcases label.own.cases e with rfl | rfl
    · exact goes.acts.delivered ▸ List.prefix_rfl
    · have there : next.ends label.own.other = s.ends label.own.other := by
        rw [goes.ends, Function.update_of_ne label.own.other_ne]
      exact there ▸ List.prefix_rfl

theorem delivered_data {s : Session} (inv : Sessions.Inv env setup s) (e : End) :
    ∀ message ∈ delivered (s.ends e).log, message.type = .string ∨ message.type = .binary := by
  intro message member
  obtain ⟨original, _, rfl⟩ := List.mem_map.mp ((inv.in_order e).mem member)
  unfold arrived
  by_cases string : original.type = .string
  · exact .inl (if_pos string)
  · exact .inr (if_neg string)

theorem Inv.put (inv : Inv env setup s) {e : End} {messages : List MessageVariant} {ws : WebSocket}
    (passed : Passed ws (given s e) (s.taken e ++ messages)) : Inv env setup (s.put e messages ws) where
  session := inv.session
  pushed := inv.pushed
  passed := by
    intro x
    show Passed (Function.update s.socket e ws x) (given s x) (Function.update s.taken e (s.taken e ++ messages) x)
    rcases e.cases x with rfl | rfl
    · rw [Function.update_self, Function.update_self]
      exact passed
    · rw [Function.update_of_ne e.other_ne, Function.update_of_ne e.other_ne]
      exact inv.passed e.other

theorem Inv.incoming (inv : Inv env setup s) {e : End} (taken : s.incoming e = some next) :
    Inv env setup next ∧ next.session = s.session ∧ next.deaf = s.deaf ∧
      s.pushed e < (delivered (s.session.ends e).log).length ∧
      next.pushed = Function.update s.pushed e (s.pushed e + 1) ∧ (next.socket e.other) = s.socket e.other ∧
      (next.socket e).mRecvQueue.mQueue.length ≤ (s.socket e).mRecvQueue.mQueue.length + 1 := by
  unfold Sockets.incoming at taken
  cases waits : s.pending e with
  | nil => simp [waits] at taken
  | cons message later =>
    simp only [waits, Option.map_eq_some_iff] at taken
    obtain ⟨⟨messages, ws⟩, accepted, rfl⟩ := taken
    have split : (delivered (s.session.ends e).log).drop (s.pushed e) = message :: later := waits
    have inside : s.pushed e < (delivered (s.session.ends e).log).length := by
      have longer := congrArg List.length split
      rw [List.length_drop, List.length_cons] at longer
      omega
    have member : message ∈ delivered (s.session.ends e).log := by
      apply List.mem_of_mem_drop
      rw [split]
      exact List.mem_cons_self ..
    obtain ⟨passed, room⟩ := (inv.passed e).incoming (delivered_data inv.session e message member) accepted
    have more : (delivered (s.session.ends e).log).take (s.pushed e + 1) = given s e ++ [message] := by
      have first : (delivered (s.session.ends e).log)[s.pushed e]? = some message := by
        rw [← List.head?_drop, split]
        rfl
      rw [List.take_add_one, first]
      rfl
    have here : Function.update s.socket e ws e = ws := Function.update_self ..
    have there : Function.update s.socket e ws e.other = s.socket e.other := Function.update_of_ne e.other_ne ..
    refine ⟨⟨inv.session, ?_, ?_⟩, rfl, rfl, inside, rfl, there, ?_⟩
    · intro x
      show Function.update s.pushed e (s.pushed e + 1) x ≤ (delivered (s.session.ends x).log).length
      rcases e.cases x with rfl | rfl
      · rw [Function.update_self]
        exact inside
      · rw [Function.update_of_ne e.other_ne]
        exact inv.pushed e.other
    · intro x
      show Passed (Function.update s.socket e ws x)
        ((delivered (s.session.ends x).log).take (Function.update s.pushed e (s.pushed e + 1) x))
        (Function.update s.taken e (s.taken e ++ messages) x)
      rcases e.cases x with rfl | rfl
      · rw [Function.update_self, Function.update_self, Function.update_self, more]
        exact passed
      · rw [Function.update_of_ne e.other_ne, Function.update_of_ne e.other_ne, Function.update_of_ne e.other_ne]
        exact inv.passed e.other
    · show (Function.update s.socket e ws e).mRecvQueue.mQueue.length ≤ _
      rw [here]
      exact room

variable (quiet : ∀ e, Quiet (env e)) (sameHash : (env .client).sha1 = (env .server).sha1)
  (wellFormed : HandshakeRoundTrip.WellFormed setup.host setup.path setup.protocols)
include quiet sameHash wellFormed

theorem Inv.goes (inv : Inv env setup s) {label : Sessions.Label} (enabled : s.session.Enabled label) :
    Inv env setup { s with session := s.session.next env label } := by
  have step : Sessions.Step env s.session label (s.session.next env label) := ⟨enabled, rfl⟩
  have grows := delivered_grows quiet inv.session step
  refine ⟨inv.session.step quiet sameHash wellFormed step, ?_, ?_⟩
  · intro e
    exact Nat.le_trans (inv.pushed e) (grows e).length_le
  · intro e
    obtain ⟨more, grown⟩ := grows e
    have same : (delivered ((s.session.next env label).ends e).log).take (s.pushed e) = given s e := by
      rw [← grown, List.take_append_of_le_length (inv.pushed e)]
      rfl
    show Passed (s.socket e) ((delivered ((s.session.next env label).ends e).log).take (s.pushed e)) (s.taken e)
    rw [same]
    exact inv.passed e

theorem Inv.step (inv : Inv env setup s) {label : Label} (step : Step env s label next) : Inv env setup next := by
  obtain ⟨enabled, taken⟩ := step
  cases label with
  | session label =>
    rw [← Option.some.inj taken]
    exact inv.goes quiet sameHash wellFormed enabled.1
  | incoming e => exact (inv.incoming taken).1
  | triggerOpen e =>
    rw [← Option.some.inj taken]
    exact inv.put ((inv.passed e).flush true _)
  | onMessage e callback =>
    rw [← Option.some.inj taken]
    exact inv.put ((inv.passed e).flush _ callback)
  | resetCallbacks e =>
    rw [← Option.some.inj taken]
    exact inv.put ((inv.passed e).flush false false)
  | receive e =>
    rw [← Option.some.inj taken]
    exact inv.put (inv.passed e).receive
  | closeTransports e =>
    rw [← Option.some.inj taken]
    exact ⟨inv.session, inv.pushed, inv.passed⟩

omit sameHash wellFormed in
theorem Inv.opening : Inv env setup (opening env setup) where
  session := .opening quiet
  pushed e := Nat.zero_le _
  passed e := by
    refine ⟨[], new_wellFormed false false, new_represents false false, ?_⟩
    rw [given, show (SessionSockets.opening env setup).pushed e = 0 from rfl, List.take_zero]
    rfl

/-! ### What the applications take -/

def variant (limit : Nat) (message : Message) : MessageVariant := toVariantCopy (arrived limit message)

omit quiet sameHash wellFormed in
theorem Inv.in_order (inv : Inv env setup s) (e : End) :
    s.taken e <+: (s.session.sent e.other).map (variant (setup.maxMessageSize e)) := by
  obtain ⟨waiting, _, _, order⟩ := inv.passed e
  have passed : given s e <+: (s.session.sent e.other).map (arrived (setup.maxMessageSize e)) :=
    (List.take_prefix _ _).trans (inv.session.in_order e)
  have mapped := passed.map toVariantCopy
  rw [← order, List.map_map] at mapped
  exact (List.prefix_append _ _).trans mapped

def Takes (env : End → Environment) (s : Sockets) (label : Label) (next : Sockets) : Prop :=
  Step env s label next ∧ ((∃ e count, label = .session (.deliver e count)) ∨ (∃ e, label = .incoming e) ∨
    ∃ e, label = .receive e ∧ (s.socket e).mRecvQueue.mQueue ≠ [])

/-- The messages that were sent to an end and not given to its socket count twice, those in its queue once. -/
def backlog (s : Sockets) (e : End) : Nat :=
  2 * ((s.session.sent e.other).length - s.pushed e) + (s.socket e).mRecvQueue.mQueue.length

def remaining (env : End → Environment) (setup : Setup) (s : Sockets) : Nat :=
  totalWork env setup s.session + (backlog s .client + backlog s .server)

omit quiet sameHash wellFormed in
theorem remaining_eq (e : End) :
    remaining env setup s = totalWork env setup s.session + (backlog s e + backlog s e.other) := by
  cases e with
  | client => rfl
  | server => exact congrArg (totalWork env setup s.session + ·) (Nat.add_comm _ _)

theorem Takes.step {label : Label} (inv : Inv env setup s) (takes : Takes env s label next) :
    next.deaf = s.deaf ∧ next.session.sent = s.session.sent ∧ remaining env setup next < remaining env setup s := by
  obtain ⟨⟨enabled, taken⟩, ⟨e, count, rfl⟩ | ⟨e, rfl⟩ | ⟨e, rfl, some⟩⟩ := takes
  · rw [← Option.some.inj taken]
    have less := inv.session.work_decreases quiet sameHash wellFormed enabled.1.1 enabled.1.2
    have positive := enabled.1.1
    refine ⟨rfl, rfl, ?_⟩
    show totalWork env setup (s.session.receive env e count) + (backlog s .client + backlog s .server) <
      remaining env setup s
    unfold remaining
    omega
  · obtain ⟨after, session, deaf, inside, pushed, there, size⟩ := inv.incoming taken
    refine ⟨deaf, by rw [session], ?_⟩
    have sent : (delivered (s.session.ends e).log).length ≤ (s.session.sent e.other).length := by
      have shorter := (inv.session.in_order e).length_le
      rw [List.length_map] at shorter
      exact shorter
    rw [remaining_eq e, remaining_eq e, session]
    have mine : backlog next e + 1 ≤ backlog s e := by
      unfold backlog
      rw [session, pushed, Function.update_self]
      omega
    have theirs : backlog next e.other = backlog s e.other := by
      unfold backlog
      rw [session, pushed, there, Function.update_of_ne e.other_ne]
    omega
  · rw [← Option.some.inj taken]
    refine ⟨rfl, rfl, ?_⟩
    have here : (s.put e (s.socket e).receive.1.toList (s.socket e).receive.2).socket e = (s.socket e).receive.2 :=
      Function.update_self ..
    have there : (s.put e (s.socket e).receive.1.toList (s.socket e).receive.2).socket e.other = s.socket e.other :=
      Function.update_of_ne e.other_ne ..
    have shorter : (s.socket e).receive.2.mRecvQueue.mQueue.length + 1 = (s.socket e).mRecvQueue.mQueue.length := by
      cases queue : (s.socket e).mRecvQueue.mQueue with
      | nil => exact absurd queue some
      | cons front rest => simp [WebSocket.receive, Queue.pop, queue]
    rw [remaining_eq e, remaining_eq e]
    unfold backlog
    rw [here, there]
    show totalWork env setup s.session + (2 * ((s.session.sent e.other).length - s.pushed e) + _ +
      (2 * ((s.session.sent e.other.other).length - s.pushed e.other) + _)) < _
    omega

omit quiet sameHash wellFormed in
theorem Inv.stuck (inv : Inv env setup s) (hears : ∀ e, s.deaf e = false)
    (stuck : ∀ label next, ¬Takes env s label next) (e : End) :
    s.session.flight e = [] ∧ s.pending e = [] ∧ (s.socket e).mRecvQueue.mQueue = [] := by
  have empty : (s.socket e).mRecvQueue.mQueue = [] := by
    apply Classical.byContradiction
    intro some
    exact stuck (.receive e) _ ⟨⟨trivial, rfl⟩, .inr (.inr ⟨e, rfl, some⟩)⟩
  have given : s.pending e = [] := by
    apply Classical.byContradiction
    intro some
    obtain ⟨message, later, waits⟩ := List.exists_cons_of_ne_nil some
    obtain ⟨waiting, wellFormed, represents, _⟩ := inv.passed e
    have none : waiting = [] := by
      rw [← represents.contents, WebSocket.contents, empty]
      rfl
    subst none
    have member : message ∈ delivered (s.session.ends e).log := by
      apply List.mem_of_mem_drop
      show message ∈ s.pending e
      rw [waits]
      exact List.mem_cons_self ..
    obtain ⟨ws, accepted, _⟩ := incoming_spec wellFormed represents
      ⟨delivered_data inv.session e message member, by decide⟩
    have accepts : ∃ next, s.incoming e = Option.some next := by
      unfold Sockets.incoming
      simp only [waits, accepted, Option.map_some]
      exact ⟨_, rfl⟩
    obtain ⟨next, taken⟩ := accepts
    exact stuck (.incoming e) next ⟨⟨hears e, taken⟩, .inr (.inl ⟨e, rfl⟩)⟩
  refine ⟨?_, given, empty⟩
  apply Classical.byContradiction
  intro some
  have one := List.length_pos_iff.mpr some
  exact stuck (.session (.deliver e 1)) _ ⟨⟨⟨⟨Nat.one_pos, one⟩, fun _ => given⟩, rfl⟩, .inl ⟨e, 1, rfl⟩⟩

/-- Every message that was sent is taken, unless the connection was cut. -/
theorem Inv.consumes (inv : Inv env setup s) (hears : ∀ e, s.deaf e = false) :
    Inevitable (Takes env) (fun last => ∀ e,
      (last.session.ends e).state = .connected ∨
        (last.session.ends e).state = .disconnected ∧ last.session.broken e = false →
        last.taken e = (s.session.sent e.other).map (variant (setup.maxMessageSize e))) s := by
  let kept : Sockets → Prop := fun now => Inv env setup now ∧ (∀ e, now.deaf e = false) ∧
      now.session.sent = s.session.sent
  have keeps : ∀ before label after, kept before → Takes env before label after → kept after := by
    intro before label after holds takes
    obtain ⟨deaf, sent, _⟩ := Takes.step quiet sameHash wellFormed holds.1 takes
    refine ⟨holds.1.step quiet sameHash wellFormed takes.1, ?_, sent.trans holds.2.2⟩
    rw [deaf]
    exact holds.2.1
  apply inevitable_of_measure (remaining env setup) keeps
  · exact fun before label after holds takes => (Takes.step quiet sameHash wellFormed holds.1 takes).2.2
  · rintro last ⟨inv, hears, sent⟩ stuck e whole
    obtain ⟨nothing, all, empty⟩ := inv.stuck hears stuck e
    have complete : delivered (last.session.ends e).log =
        (last.session.sent e.other).map (arrived (setup.maxMessageSize e)) := by
      apply inv.session.complete e
      rcases whole with opened | closed
      · exact .inl ⟨opened, nothing⟩
      · exact .inr closed
    obtain ⟨waiting, _, represents, order⟩ := inv.passed e
    have none : waiting = [] := by
      rw [← represents.contents, WebSocket.contents, empty]
      rfl
    have whole : given last e = delivered (last.session.ends e).log :=
      List.take_of_length_le (List.drop_eq_nil_iff.mp all)
    rw [none, whole, complete, List.map_nil, List.append_nil, List.map_map] at order
    rw [order, ← sent]
    rfl
  · exact ⟨inv, hears, rfl⟩

end

section
variable (env : End → Environment) (setup : Setup) (quiet : ∀ e, Quiet (env e))
  (sameHash : (env .client).sha1 = (env .server).sha1)
  (wellFormed : HandshakeRoundTrip.WellFormed setup.host setup.path setup.protocols) (trace : List (Label × Sockets))
  (run : Run (SessionSockets.Step env) (opening env setup) trace)
include quiet sameHash wellFormed run

theorem always_inv : Always (Inv env setup) (opening env setup) trace :=
  always_of_step (fun _ _ _ inv step => inv.step quiet sameHash wellFormed step) trace _ (.opening quiet) run

/-- Whatever the applications do with their callbacks and with `receive`, and whenever the queues fill up, each
takes the first messages that the other one sent, in order and once. -/
theorem always_taken_in_order :
    Always (fun s => ∀ e, s.taken e <+: (s.session.sent e.other).map (variant (setup.maxMessageSize e)))
      (opening env setup) trace :=
  always_mono (fun _ inv => inv.in_order) trace _ (always_inv env setup quiet sameHash wellFormed trace run)

/-- The bounded queues do not block the connection for good: from every state with open transports, reading, giving
messages to the sockets and taking them comes to an end, and then an end that is open, or was closed in order, has
taken every message that the other one had sent. -/
theorem always_consumes :
    Always (fun s => (∀ e, s.deaf e = false) → Inevitable (Takes env) (fun last => ∀ e,
      (last.session.ends e).state = .connected ∨
        (last.session.ends e).state = .disconnected ∧ last.session.broken e = false →
        last.taken e = (s.session.sent e.other).map (variant (setup.maxMessageSize e))) s) (opening env setup) trace :=
  always_mono (fun _ inv hears => inv.consumes quiet sameHash wellFormed hears) trace _
    (always_inv env setup quiet sameHash wellFormed trace run)

end

/-! ### Two applications -/

/-- The client calls `receive`, and the server has a message callback. -/
def exampleLabels : List Label :=
  [.onMessage .server true, .session (.deliver .server 140), .triggerOpen .server,
    .session (.send .server ⟨[1, 2, 3, 4], .binary⟩), .session (.send .server ⟨text "on", .string⟩),
    .session (.deliver .client 153), .triggerOpen .client, .session (.deliver .client 10), .incoming .client,
    .receive .client, .incoming .client, .session (.send .client ⟨text "hi", .string⟩), .session (.close .client),
    .session (.deliver .server 14), .incoming .server, .closeTransports .server, .receive .client]

@[irreducible] def exampleTrace : List (Label × Sockets) :=
  ((opening accepts exampleSetup).walk accepts exampleLabels).get (by decide +kernel)

theorem exampleTrace_run : Run (SessionSockets.Step accepts) (opening accepts exampleSetup) exampleTrace := by
  have walked : (opening accepts exampleSetup).walk accepts exampleLabels = some exampleTrace := by
    unfold exampleTrace
    exact (Option.some_get _).symm
  exact Sockets.walk_run accepts exampleLabels _ _ walked

theorem example_taken_in_order :
    Always (fun s => ∀ e, s.taken e <+: (s.session.sent e.other).map (variant (exampleSetup.maxMessageSize e)))
      (opening accepts exampleSetup) exampleTrace :=
  always_taken_in_order accepts exampleSetup accepts_quiet rfl exampleSetup_wellFormed exampleTrace exampleTrace_run

theorem example_consumes :
    Always (fun s => (∀ e, s.deaf e = false) → Inevitable (Takes accepts) (fun last => ∀ e,
      (last.session.ends e).state = .connected ∨
        (last.session.ends e).state = .disconnected ∧ last.session.broken e = false →
        last.taken e = (s.session.sent e.other).map (variant (exampleSetup.maxMessageSize e))) s)
      (opening accepts exampleSetup) exampleTrace :=
  always_consumes accepts exampleSetup accepts_quiet rfl exampleSetup_wellFormed exampleTrace exampleTrace_run

end WebsocketClient.SessionSockets
