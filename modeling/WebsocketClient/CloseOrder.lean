import WebsocketClient.AfterClose
import WebsocketClient.Library.Runs
import WebsocketClient.WebSocketState
import WebsocketClient.WsLog
import WebsocketClient.WsMessages

/-! The `WebSocket` over its `WsTransport`: which frames are sent when calls of the application, chunks
and timers follow each other in any order. -/

namespace WebsocketClient.CloseOrders
open ByteString Messages Frames Transports WsTransports WsMessages WsChunks WsStreams WsLogs AfterCloses Library.Runs

structure WebSocket where
  state : WebSocketStates.State
  maxMessageSize : Nat
  /-- The pointer of the same name is set. -/
  mWsTransport : Bool
  transport : WsTransport

namespace WebSocket
variable (env : Environment) (s : WebSocket)

def closeTransports : WebSocket :=
  if s.state = .closed then s else { s with state := .closed, mWsTransport := false }

/-- `mWsTransport->stop()`. When the CLOSE cannot be sent, the transport reports `Disconnected` from within,
and `remoteClose` finds `Closing` and goes on with the transports. -/
def stop : WebSocket :=
  let t := s.transport.close env
  let next := { s with transport := t }
  if t.state = s.transport.state then next else next.closeTransports

/-- Without a transport `remoteClose` is called, which finds `Closing` as well. -/
def close : WebSocket :=
  if s.state = .connecting ∨ s.state = .open then
    let s := { s with state := .closing }
    if s.mWsTransport then s.stop env else s.closeTransports
  else s

def remoteClose : WebSocket :=
  let s := s.close env
  if s.state ≠ .closed then s.closeTransports else s

def outgoing (message : Message) : Except Exception Bool × WebSocket :=
  if s.state ≠ .open ∨ s.mWsTransport = false then (.error (.runtimeError (text "WebSocket is not open")), s)
  else if s.maxMessageSize < message.data.length then
    (.error (.runtimeError (text "Message size exceeds limit")), s)
  else
    let (result, t) := s.transport.send env (some message)
    (result, { s with transport := t })

/-- The callbacks of the transport. `closeTransports` takes them away with the pointer. -/
def notified (effect : Effect) : WebSocket :=
  if s.mWsTransport = false then s
  else
    match effect with
    | .stateChange .connected => if s.state = .connecting then { s with state := .open } else s
    | .stateChange .failed | .stateChange .disconnected | .recv none => s.remoteClose env
    | _ => s

/-- A chunk, and what the `WebSocket` is told of it. -/
def incoming (message : Option Bytes) : WebSocket :=
  let t := s.transport.incoming env message
  (t.log.drop s.transport.log.length).foldl (notified env) { s with transport := t }

/-- The task that `WsTransport::close` schedules. -/
def closeTimeout : WebSocket :=
  let t := s.transport.changeState .disconnected
  (t.log.drop s.transport.log.length).foldl (notified env) { s with transport := t }

def connectionTimeout : WebSocket := if s.state = .connecting then s.remoteClose env else s

end WebSocket

inductive Label where
  | send (message : Message)
  | close
  | forceClose
  | incoming (message : Option Bytes)
  | closeTimeout
  | connectionTimeout
  /-- The task of `closeTransports` stops the transport. -/
  | tearDown
  deriving DecidableEq, Repr

/-- One event. The two tasks run only after they were scheduled. -/
inductive Step (env : Environment) (s : WebSocket) : Label → WebSocket → Prop where
  | send (message : Message) : Step env s (.send message) (s.outgoing env message).2
  | close : Step env s .close (s.close env)
  | forceClose : Step env s .forceClose (s.remoteClose env)
  | incoming (message : Option Bytes) : Step env s (.incoming message) (s.incoming env message)
  | closeTimeout : .scheduleClose ∈ s.transport.log → Step env s .closeTimeout (s.closeTimeout env)
  | connectionTimeout : Step env s .connectionTimeout (s.connectionTimeout env)
  | tearDown : s.state = .closed → Step env s .tearDown { s with transport := s.transport.close env }

structure Orderly (log : List Effect) : Prop where
  close : log.countP closeFrame ≤ 1
  data : log.Pairwise fun earlier later => closeFrame earlier = true → dataFrame later = false

/-- A `WebSocket` whose transport is connected and has not sent its CLOSE. -/
structure Connected (s : WebSocket) : Prop where
  state : s.transport.state = .connected
  unsent : s.transport.mCloseSent = false
  log : ∀ effect ∈ s.transport.log, closeFrame effect = false

structure Passes (env : Environment) (s : WebSocket) (message : Message) : Prop where
  state : s.state = .open
  attached : s.mWsTransport = true
  size : message.data.length ≤ s.maxMessageSize
  connected : s.transport.state = .connected
  lower : ∃ result, env.lower s.transport.sends = .ok result

/-- A message that nothing holds back although a CLOSE was sent. -/
structure Overdue (env : Environment) (s : WebSocket) (message : Message) : Prop extends Passes env s message where
  sent : s.transport.mCloseSent = true

def Guard (env : Environment) (s : WebSocket) (label : Label) : Prop :=
  ∀ message, label = .send message → ¬Overdue env s message

/-- While the transport is connected, `mCloseSent` tells whether its CLOSE was sent. -/
structure Counted (t : WsTransport) : Prop where
  closes : t.log.countP closeFrame ≤ t.mCloseSent.toNat
  sent : t.state = .connected → t.log.countP closeFrame = t.mCloseSent.toNat
  past : t.state ≠ .connecting

structure Inv (t : WsTransport) : Prop extends Counted t where
  data : t.log.Pairwise fun earlier later => closeFrame earlier = true → dataFrame later = false

section
variable {env : Environment} {s : WebSocket} {t next : WsTransport}

theorem Counted.one (counted : Counted t) : t.log.countP closeFrame ≤ 1 :=
  Nat.le_trans counted.closes (Bool.toNat_le t.mCloseSent)

theorem Counted.none (counted : Counted t) (unsent : t.mCloseSent = false) : t.log.countP closeFrame = 0 := by
  have closes := counted.closes
  rw [unsent] at closes
  exact Nat.le_zero.mp closes

theorem Inv.orderly (inv : Inv t) : Orderly t.log := ⟨inv.one, inv.data⟩

theorem Counted.goesOn (counted : Counted t) (goesOn : GoesOn t next) : Counted next := by
  have ⟨effects, steady⟩ := goesOn
  refine ⟨?_, ?_, goesOn.past counted.past⟩
  · have before := counted.closes
    have step := steady.closes
    rw [steady.log, List.countP_append]
    omega
  · intro connected
    have before := counted.sent (steady.connected connected)
    have step := steady.sent connected
    rw [steady.log, List.countP_append]
    omega

theorem Inv.goesOn (inv : Inv t) (goesOn : GoesOn t next) : Inv next := by
  refine ⟨inv.toCounted.goesOn goesOn, ?_⟩
  obtain ⟨effects, steady⟩ := goesOn
  rw [steady.log, List.pairwise_append]
  refine ⟨inv.data, ?_, fun earlier _ later member _ => steady.data later member⟩
  exact List.pairwise_of_forall_mem_list fun earlier _ later member _ => steady.data later member

theorem Connected.inv (connected : Connected s) : Inv s.transport := by
  have none : s.transport.log.countP closeFrame = 0 := by
    rw [List.countP_eq_zero]
    intro effect member
    simp [connected.log effect member]
  refine ⟨⟨?_, fun _ => ?_, ?_⟩, ?_⟩
  · rw [none]
    exact Nat.zero_le _
  · rw [none, connected.unsent]
    rfl
  · rw [connected.state]
    decide
  · apply List.pairwise_of_forall_mem_list
    intro earlier before later _ sent
    rw [connected.log earlier before] at sent
    exact absurd sent (by decide)

/-! ### Everything but `send` -/

theorem closeTransports_transport (s : WebSocket) : s.closeTransports.transport = s.transport := by
  unfold WebSocket.closeTransports
  split <;> rfl

theorem stop_goesOn : GoesOn s.transport (s.stop env).transport := by
  unfold WebSocket.stop
  simp only
  split
  · exact close_goesOn
  · rw [closeTransports_transport]
    exact close_goesOn

theorem close_transport_goesOn : GoesOn s.transport (s.close env).transport := by
  unfold WebSocket.close
  simp only
  split
  · split
    · exact stop_goesOn (s := { s with state := .closing })
    · rw [closeTransports_transport]
      exact .refl _
  · exact .refl _

theorem remoteClose_goesOn : GoesOn s.transport (s.remoteClose env).transport := by
  unfold WebSocket.remoteClose
  simp only
  split
  · rw [closeTransports_transport]
    exact close_transport_goesOn
  · exact close_transport_goesOn

theorem notified_goesOn (effect : Effect) : GoesOn s.transport (s.notified env effect).transport := by
  unfold WebSocket.notified
  split
  · exact .refl _
  · split
    · split <;> exact .refl _
    · exact remoteClose_goesOn
    · exact remoteClose_goesOn
    · exact remoteClose_goesOn
    · exact .refl _

theorem foldl_notified_goesOn (effects : List Effect) (s : WebSocket) :
    GoesOn s.transport (effects.foldl (WebSocket.notified env) s).transport := by
  induction effects generalizing s with
  | nil => exact .refl _
  | cons effect effects ih => exact (notified_goesOn effect).trans (ih _)

theorem Step.goesOn {label : Label} {next : WebSocket} (step : Step env s label next)
    (past : s.transport.state ≠ .connecting) (other : ∀ message, label ≠ .send message) :
    GoesOn s.transport next.transport := by
  cases step with
  | send message => exact absurd rfl (other message)
  | close => exact close_transport_goesOn
  | forceClose => exact remoteClose_goesOn
  | incoming message =>
    have next : GoesOn s.transport (s.transport.incoming env message) := incoming_goesOn past message
    exact next.trans (foldl_notified_goesOn _ { s with transport := s.transport.incoming env message })
  | closeTimeout _ =>
    have next : GoesOn s.transport (s.transport.changeState .disconnected) := changeState_goesOn (by simp)
    exact next.trans (foldl_notified_goesOn _ { s with transport := s.transport.changeState .disconnected })
  | connectionTimeout =>
    unfold WebSocket.connectionTimeout
    split
    · exact remoteClose_goesOn
    · exact .refl _
  | tearDown _ => exact close_goesOn

/-! ### `send` -/

theorem outgoing_passes {message : Message} (passes : Passes env s message) :
    ∃ effect, dataFrame effect = true ∧ closeFrame effect = false ∧
      (s.outgoing env message).2.transport =
        { s.transport with sends := s.transport.sends + 1, log := s.transport.log ++ [effect] } := by
  obtain ⟨result, answer⟩ := passes.lower
  have size : ¬s.maxMessageSize < message.data.length := Nat.not_lt.mpr passes.size
  refine ⟨.outgoing (.frame {
    opcode := if message.type = .string then .textFrame else .binaryFrame
    payload := message.data
    mask := s.transport.mIsClient } (env.maskingKey s.transport.sends)), ?_, ?_, ?_⟩
  · simp only [dataFrame]
    split <;> rfl
  · simp only [closeFrame]
    split <;> rfl
  · simp [WebSocket.outgoing, passes.state, passes.attached, size, WsTransport.send, passes.connected,
      WsTransport.sendFrame, WsTransport.outgoing, answer]

theorem outgoing_not_passes {message : Message} (stays : ¬Passes env s message) :
    GoesOn s.transport (s.outgoing env message).2.transport := by
  unfold WebSocket.outgoing
  split
  · exact .refl _
  · rename_i ready
    obtain ⟨opened, attached⟩ := not_or.mp ready
    split
    · exact .refl _
    · rename_i size
      by_cases connected : s.transport.state = .connected
      · cases answer : env.lower s.transport.sends with
        | error e =>
          have next : (s.transport.send env (some message)).2 =
              { s.transport with sends := s.transport.sends + 1 } := by
            simp [WsTransport.send, connected, WsTransport.sendFrame, WsTransport.outgoing, answer]
          simp only [next]
          exact .of_eq rfl rfl rfl
        | ok result =>
          exact absurd ⟨not_not.mp opened, by simpa using attached, Nat.not_lt.mp size, connected, result, answer⟩
            stays
      · have next : (s.transport.send env (some message)).2 = s.transport := by
          rw [WsTransport.send, if_pos connected]
        simp only [next]
        exact .refl _

theorem Counted.append (counted : Counted t) {effect : Effect} (plain : closeFrame effect = false) (sends : Nat) :
    Counted { t with sends := sends, log := t.log ++ [effect] } := by
  have same : (t.log ++ [effect]).countP closeFrame = t.log.countP closeFrame := by
    rw [List.countP_append]
    simp [plain]
  refine ⟨?_, fun connected => ?_, counted.past⟩
  · rw [same]
    exact counted.closes
  · rw [same]
    exact counted.sent connected

theorem Inv.append (inv : Inv t) (unsent : t.mCloseSent = false) {effect : Effect} (plain : closeFrame effect = false)
    (sends : Nat) : Inv { t with sends := sends, log := t.log ++ [effect] } := by
  refine ⟨inv.toCounted.append plain sends, ?_⟩
  rw [List.pairwise_append]
  refine ⟨inv.data, List.pairwise_singleton _ _, ?_⟩
  intro earlier member _ _ sent
  exact absurd sent (List.countP_eq_zero.mp (inv.none unsent) earlier member)

theorem Step.cases {label : Label} {next : WebSocket} (step : Step env s label next)
    (past : s.transport.state ≠ .connecting) :
    GoesOn s.transport next.transport ∨
      ∃ message effect, label = .send message ∧ Passes env s message ∧ closeFrame effect = false ∧
        next.transport =
          { s.transport with sends := s.transport.sends + 1, log := s.transport.log ++ [effect] } := by
  by_cases other : ∀ message, label ≠ .send message
  · exact .inl (step.goesOn past other)
  · obtain ⟨message, same⟩ := not_forall.mp other
    have sends := not_not.mp same
    subst sends
    cases step with
    | send =>
      by_cases passes : Passes env s message
      · obtain ⟨effect, _, plain, transport⟩ := outgoing_passes passes
        exact .inr ⟨message, effect, rfl, passes, plain, transport⟩
      · exact .inl (outgoing_not_passes passes)

theorem Counted.step {label : Label} {next : WebSocket} (counted : Counted s.transport)
    (step : Step env s label next) : Counted next.transport := by
  rcases step.cases counted.past with goesOn | ⟨message, effect, _, _, plain, transport⟩
  · exact counted.goesOn goesOn
  · rw [transport]
    exact counted.append plain _

theorem Inv.step {label : Label} {next : WebSocket} (inv : Inv s.transport) (step : Step env s label next)
    (guard : Guard env s label) : Inv next.transport := by
  rcases step.cases inv.past with goesOn | ⟨message, effect, sends, passes, plain, transport⟩
  · exact inv.goesOn goesOn
  · have unsent : s.transport.mCloseSent = false := by
      cases sent : s.transport.mCloseSent with
      | false => rfl
      | true => exact absurd ⟨passes, sent⟩ (guard message sends)
    rw [transport]
    exact inv.append unsent plain _

theorem Inv.overdue {next : WebSocket} {message : Message} (inv : Inv s.transport)
    (step : Step env s (.send message) next) (overdue : Overdue env s message) : ¬Orderly next.transport.log := by
  intro orderly
  cases step with
  | send =>
    obtain ⟨effect, data, plain, transport⟩ := outgoing_passes overdue.toPasses
    have sent := inv.sent overdue.connected
    rw [overdue.sent] at sent
    have positive : 0 < s.transport.log.countP closeFrame := by
      rw [sent]
      decide
    obtain ⟨close, member, sent⟩ := List.countP_pos_iff.mp positive
    have order := orderly.data
    rw [transport, List.pairwise_append] at order
    have silent := order.2.2 close member effect (List.mem_singleton_self effect) sent
    rw [data] at silent
    exact absurd silent (by decide)

/-- For every run: at most one CLOSE is sent and no data frame behind it, in every state of the run, when no message
is given to `send` that is overdue, and not otherwise. -/
theorem close_orderly_iff (env : Environment) (s : WebSocket) (connected : Connected s)
    (trace : List (Label × WebSocket))
    (run : Run (Step env) s trace) :
    Always (fun s => Orderly s.transport.log) s trace ↔ Guarded (Guard env) s trace := by
  have implies : ∀ s : WebSocket, Inv s.transport → Orderly s.transport.log := fun s inv => inv.orderly
  have keeps : ∀ (s : WebSocket) label next, Inv s.transport → Step env s label next → Guard env s label →
      Inv next.transport := fun s label next inv step guard => inv.step step guard
  have breaks : ∀ (s : WebSocket) label next, Inv s.transport → Step env s label next → ¬Guard env s label →
      ¬Orderly next.transport.log := by
    intro s label next inv step against
    obtain ⟨message, both⟩ := not_forall.mp against
    obtain ⟨sends, overdue⟩ := Classical.not_imp.mp both
    subst sends
    exact inv.overdue step (not_not.mp overdue)
  exact always_iff implies keeps breaks trace s connected.inv run

/-- Even then no second CLOSE is sent. -/
theorem one_close (env : Environment) (s : WebSocket) (connected : Connected s) (trace : List (Label × WebSocket))
    (run : Run (Step env) s trace) : Always (fun s => s.transport.log.countP closeFrame ≤ 1) s trace := by
  have keeps : ∀ (s : WebSocket) label next, Counted s.transport → Step env s label next → Counted next.transport :=
    fun s label next counted step => counted.step step
  have always : Always (fun s => Counted s.transport) s trace :=
    always_of_step keeps trace s connected.inv.toCounted run
  exact always_mono (fun s counted => counted.one) trace s always

end

/-! ### A frame with a reserved opcode -/

def openSocket : WebSocket where
  state := .open
  maxMessageSize := 3
  mWsTransport := true
  transport := openClient

theorem openSocket_connected : Connected openSocket := ⟨rfl, rfl, nofun⟩

def letter : Message := ⟨[65], .string⟩

/-- A message before `close` and another one behind it. -/
theorem orderly_close :
    let sent := (openSocket.outgoing (accepting sampleKey) letter).2
    let closing := sent.close (accepting sampleKey)
    let refused := (closing.outgoing (accepting sampleKey) letter).2
    let trace := [(.send letter, sent), (.close, closing), (.send letter, refused)]
    Run (Step (accepting sampleKey)) openSocket trace ∧
      Always (fun s => Orderly s.transport.log) openSocket trace := by
  intro sent closing refused trace
  have run : Run (Step (accepting sampleKey)) openSocket trace := ⟨.send _, .close, .send _, trivial⟩
  refine ⟨run, (close_orderly_iff _ openSocket openSocket_connected trace run).mpr ⟨?_, ?_, ?_, trivial⟩⟩
  · intro message _ overdue
    exact absurd overdue.sent (by decide)
  · intro message sends
    exact absurd sends (by simp)
  · intro message _ overdue
    exact absurd overdue.state (by decide +kernel)

/-- The frame that is not known is answered with a CLOSE, and the message is sent all the same. -/
theorem reserved_not_orderly :
    let closed := openSocket.incoming (accepting sampleKey) (some [0x83, 0])
    let sent := (closed.outgoing (accepting sampleKey) letter).2
    let trace := [(.incoming (some [0x83, 0]), closed), (.send letter, sent)]
    Connected openSocket ∧ Run (Step (accepting sampleKey)) openSocket trace ∧
      ¬Always (fun s => Orderly s.transport.log) openSocket trace := by
  intro closed sent trace
  refine ⟨openSocket_connected, ⟨.incoming _, .send _, trivial⟩, ?_⟩
  intro always
  have order := always.2.2.data
  exact absurd order (by decide +kernel)

/-! ### Where an overdue message comes from -/

def Reserved (env : Environment) (t : WsTransport) : Option Bytes → Prop
  | none => False
  | some chunk => ∃ frame code, Reads env frame (push t chunk).skipIgnored ∧ frame.opcode = .other code

def Known (env : Environment) (s : WebSocket) (label : Label) : Prop :=
  ∀ message, label = .incoming message → ¬Reserved env s.transport message

/-- No CLOSE was sent on the way, unless the connection is closed. -/
def Unsent (t next : WsTransport) : Prop :=
  next.state = .connected → t.state = .connected ∧ next.mCloseSent = t.mCloseSent

section
variable {env : Environment} {s : WebSocket} {t next later : WsTransport}

theorem Unsent.of_eq (state : next.state = t.state) (sent : next.mCloseSent = t.mCloseSent) : Unsent t next :=
  fun connected => ⟨state.symm.trans connected, sent⟩

theorem Unsent.of_closed (closed : next.state ≠ .connected) : Unsent t next :=
  fun connected => absurd connected closed

theorem Unsent.trans (first : Unsent t next) (second : Unsent next later) : Unsent t later := by
  intro connected
  obtain ⟨open', sent'⟩ := second connected
  obtain ⟨opened, sent⟩ := first open'
  exact ⟨opened, sent'.trans sent⟩

theorem sendFrame_unsent (frame : Frame) : Unsent t (t.sendFrame env frame).2 := by
  unfold WsTransport.sendFrame WsTransport.outgoing
  split <;> exact .of_eq rfl rfl

theorem recvData_unsent (frame : Frame) : Unsent t (t.recvData frame) := by
  unfold WsTransport.recvData
  simp only
  split <;> split <;> exact .of_eq rfl rfl

theorem recvFrame_unsent (t : WsTransport) (frame : Frame) (known : ∀ code, frame.opcode ≠ .other code) :
    Unsent t (t.recvFrame env frame).2 := by
  unfold WsTransport.recvFrame
  split
  · exact recvData_unsent frame
  · exact recvData_unsent frame
  · unfold WsTransport.recvContinuation
    simp only
    split <;> exact .of_eq rfl rfl
  · exact sendFrame_unsent _
  · exact .of_eq rfl rfl
  · apply Unsent.of_closed
    rw [changeState_state]
    decide
  · rename_i code other
    exact absurd other (known code)

theorem sendPing_unsent : Unsent t (t.sendPing env).2 := by
  have pinged : Unsent t (t.sendFrame env { opcode := .ping, payload := [0, 0, 0, 0], mask := t.mIsClient }).2 :=
    sendFrame_unsent _
  unfold WsTransport.sendPing
  split
  · rename_i e failed result
    rw [result] at pinged
    exact pinged
  · rename_i answer sent result
    rw [result] at pinged
    apply pinged.trans
    unfold WsTransport.addOutstandingPing
    simp only
    split
    · apply Unsent.of_closed
      rw [changeState_state]
      decide
    · exact .of_eq rfl rfl

theorem disconnect_closed : t.disconnect.state ≠ .connected := by
  unfold WsTransport.disconnect
  split
  · have closed : (t.changeState .disconnected).state ≠ .connected := by
      rw [changeState_state]
      decide
    exact closed
  · rw [changeState_state]
    decide

theorem process_unsent (past : t.state ≠ .connecting) (chunk : Bytes) (known : ¬Reserved env t (some chunk)) :
    Unsent t (t.process env chunk).2 := by
  have pushed : Unsent t (push t chunk) := .of_eq rfl rfl
  have frames : Unsent (push t chunk) ((push t chunk).processFrames env).2 :=
    processFrames_relates (R := Unsent) (fun _ => .of_eq rfl rfl) (fun first second => first.trans second)
      (fun _ _ _ => .of_eq rfl rfl) recvFrame_unsent _
      (fun frame reads code other => known ⟨frame, code, reads, other⟩)
  unfold WsTransport.process
  simp only [if_neg past]
  split
  · split
    · exact pushed.trans sendPing_unsent
    · exact pushed.trans frames
  · exact pushed

theorem incoming_unsent (past : t.state ≠ .connecting) (message : Option Bytes) (known : ¬Reserved env t message) :
    Unsent t (t.incoming env message) := by
  unfold WsTransport.incoming
  split
  · exact .of_eq rfl rfl
  · split
    · exact .of_closed disconnect_closed
    · rename_i chunk
      have processed : Unsent t (t.process env chunk).2 := process_unsent past chunk known
      split
      · rename_i done result
        rw [result] at processed
        exact processed
      · exact .of_closed disconnect_closed

/-- While messages may still be sent, no CLOSE was. -/
def Fresh (s : WebSocket) : Prop :=
  s.state = .connecting ∨ s.state = .open → s.transport.state = .connected → s.transport.mCloseSent = false

theorem Fresh.of_closed (closed : s.state = .closing ∨ s.state = .closed) : Fresh s := by
  intro opened
  rcases closed with state | state <;> rw [state] at opened <;> simp at opened

theorem closeTransports_state (s : WebSocket) : s.closeTransports.state = .closed := by
  unfold WebSocket.closeTransports
  split
  · rename_i closed
    exact closed
  · rfl

theorem close_fresh (fresh : Fresh s) : Fresh (s.close env) := by
  unfold WebSocket.close
  simp only
  split
  · split
    · unfold WebSocket.stop
      simp only
      split
      · exact .of_closed (.inl rfl)
      · exact .of_closed (.inr (closeTransports_state _))
    · exact .of_closed (.inr (closeTransports_state _))
  · exact fresh

theorem remoteClose_fresh : Fresh (s.remoteClose env) := by
  unfold WebSocket.remoteClose
  simp only
  split
  · exact .of_closed (.inr (closeTransports_state _))
  · rename_i closed
    exact .of_closed (.inr (not_not.mp closed))

theorem notified_fresh (fresh : Fresh s) (effect : Effect) : Fresh (s.notified env effect) := by
  unfold WebSocket.notified
  split
  · exact fresh
  · split
    · split
      · rename_i connecting
        exact fun _ => fresh (.inl connecting)
      · exact fresh
    · exact remoteClose_fresh
    · exact remoteClose_fresh
    · exact remoteClose_fresh
    · exact fresh

theorem foldl_notified_fresh (effects : List Effect) (s : WebSocket) (fresh : Fresh s) :
    Fresh (effects.foldl (WebSocket.notified env) s) := by
  induction effects generalizing s with
  | nil => exact fresh
  | cons effect effects ih => exact ih _ (notified_fresh fresh effect)

theorem Fresh.unsent (fresh : Fresh s) (unsent : Unsent s.transport next) : Fresh { s with transport := next } := by
  intro opened connected
  obtain ⟨before, same⟩ := unsent connected
  exact same.trans (fresh opened before)

theorem outgoing_fresh (fresh : Fresh s) (message : Message) : Fresh (s.outgoing env message).2 := by
  unfold WebSocket.outgoing
  split
  · exact fresh
  · split
    · exact fresh
    · apply fresh.unsent
      unfold WsTransport.send
      split
      · exact .of_eq rfl rfl
      · exact sendFrame_unsent _

theorem Fresh.step {label : Label} {next : WebSocket} (fresh : Fresh s) (past : s.transport.state ≠ .connecting)
    (step : Step env s label next) (known : Known env s label) : Fresh next := by
  cases step with
  | send message => exact outgoing_fresh fresh message
  | close => exact close_fresh fresh
  | forceClose => exact remoteClose_fresh
  | incoming message =>
    have unsent := incoming_unsent past message (known message rfl)
    exact foldl_notified_fresh _ _ (fresh.unsent unsent)
  | closeTimeout _ =>
    have closed : (s.transport.changeState .disconnected).state ≠ .connected := by
      rw [changeState_state]
      decide
    exact foldl_notified_fresh _ _ (fresh.unsent (.of_closed closed))
  | connectionTimeout =>
    unfold WebSocket.connectionTimeout
    split
    · exact remoteClose_fresh
    · exact fresh
  | tearDown closed => exact .of_closed (.inr closed)

theorem orderly_of_known (env : Environment) (s : WebSocket) (connected : Connected s)
    (trace : List (Label × WebSocket)) (run : Run (Step env) s trace) (known : Guarded (Known env) s trace) :
    Always (fun s => Orderly s.transport.log) s trace := by
  have keeps : ∀ (s : WebSocket) label next, Inv s.transport ∧ Fresh s → Step env s label next → Known env s label →
      Inv next.transport ∧ Fresh next := by
    rintro s label next ⟨inv, fresh⟩ step known
    refine ⟨inv.step step ?_, fresh.step inv.past step known⟩
    intro message _ overdue
    have unsent := fresh (.inr overdue.state) overdue.connected
    exact absurd (unsent.symm.trans overdue.sent) (by decide)
  have start : Inv s.transport ∧ Fresh s := ⟨connected.inv, fun _ _ => connected.unsent⟩
  exact always_mono (fun s both => both.1.orderly) trace s (always_of_guarded keeps trace s start run known)

end

end WebsocketClient.CloseOrders
