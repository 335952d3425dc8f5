import WebsocketClient.WsTransport

/-! What a `WsTransport` behind its handshake adds to its log when it is not asked to send: no data
frame, and a CLOSE only together with `mCloseSent`. The frame loop is gone through once, for every
relation that the single frames keep. -/

namespace WebsocketClient.WsLogs
open ByteString Frames Transports WsTransports WsTransport

/-! ### The frame loop -/

/-- A round of `frameLoop` with another one behind it. -/
inductive Round (env : Environment) (t : WsTransport) : WsTransport → Prop where
  | goOn {parsed : Parsed} {handled : WsTransport} : parseFrame t.mMaxMessageSize t.mBuffer = some parsed →
      parsed.consumed ≠ 0 → { t with mBuffer := parsed.buffer }.recvFrame env parsed.frame = (.ok (), handled) →
      parsed.consumed ≤ (handled.maskPong parsed.frame (env.maskingKey t.sends) parsed.position).mBuffer.length →
      Round env t { handled.maskPong parsed.frame (env.maskingKey t.sends) parsed.position with
        mBuffer := (handled.maskPong parsed.frame (env.maskingKey t.sends) parsed.position).mBuffer.drop
          parsed.consumed }

/-- The loop hands a frame to `recvFrame`. -/
inductive Reads (env : Environment) (frame : Frame) : WsTransport → Prop where
  | now {t : WsTransport} {parsed : Parsed} : parseFrame t.mMaxMessageSize t.mBuffer = some parsed →
      parsed.consumed ≠ 0 → parsed.frame = frame → Reads env frame t
  | later {t next : WsTransport} : Round env t next → Reads env frame next → Reads env frame t

section
variable {env : Environment} {R : WsTransport → WsTransport → Prop} {P : Frame → Prop}

/-- What every frame that is read keeps and the buffer does not touch, the loop keeps, by induction on
the rounds. -/
theorem frameLoop_relates (refl : ∀ t, R t t) (trans : ∀ {t next later}, R t next → R next later → R t later)
    (buffer : ∀ (t : WsTransport) bytes length, R t { t with mBuffer := bytes, mIgnoreLength := length })
    (handles : ∀ (t : WsTransport) frame, P frame → R t (t.recvFrame env frame).2) (rounds : Nat) (t : WsTransport)
    (all : ∀ frame, Reads env frame t → P frame) : R t (frameLoop env rounds t).2 := by
  induction rounds generalizing t with
  | zero => exact refl t
  | succ rounds ih =>
    unfold frameLoop
    split
    · exact refl t
    · rename_i parsed found
      simp only
      split
      · exact buffer t parsed.buffer t.mIgnoreLength
      · rename_i moves
        have decoded : R t { t with mBuffer := parsed.buffer } := buffer t parsed.buffer t.mIgnoreLength
        have handled : R t ({ t with mBuffer := parsed.buffer }.recvFrame env parsed.frame).2 :=
          trans decoded (handles _ _ (all _ (.now found moves rfl)))
        have masks : ∀ next : WsTransport,
            R next (next.maskPong parsed.frame (env.maskingKey t.sends) parsed.position) := by
          intro next
          unfold maskPong
          split
          · exact buffer next _ next.mIgnoreLength
          · exact refl next
        split
        · rename_i e failed result
          rw [result] at handled
          exact trans handled (masks _)
        · rename_i done result
          rw [result] at handled
          have masked := trans handled (masks _)
          split
          · exact trans masked (buffer _ _ _)
          · rename_i enough
            refine trans (trans masked (buffer _ _ _)) (ih _ ?_)
            intro frame reads
            exact all frame (.later (.goOn found moves result (Nat.not_lt.mp enough)) reads)

theorem processFrames_relates (refl : ∀ t, R t t) (trans : ∀ {t next later}, R t next → R next later → R t later)
    (buffer : ∀ (t : WsTransport) bytes length, R t { t with mBuffer := bytes, mIgnoreLength := length })
    (handles : ∀ (t : WsTransport) frame, P frame → R t (t.recvFrame env frame).2) (t : WsTransport)
    (all : ∀ frame, Reads env frame t.skipIgnored → P frame) : R t (t.processFrames env).2 := by
  have skipped : R t t.skipIgnored := buffer t _ _
  unfold processFrames
  simp only
  split
  · exact trans skipped (frameLoop_relates refl trans buffer handles _ _ all)
  · exact skipped

end

/-! ### The log -/

def dataFrame : Effect → Bool
  | .outgoing (.frame frame _) => frame.opcode == .textFrame || frame.opcode == .binaryFrame
  | _ => false

def closeFrame : Effect → Bool
  | .outgoing (.frame frame _) => frame.opcode == .close
  | _ => false

/-- The transport went on by these effects. It does not open again, and while it is open, `mCloseSent`
tells whether a CLOSE was accepted. -/
structure Steady (t next : WsTransport) (effects : List Effect) : Prop where
  log : next.log = t.log ++ effects
  data : ∀ effect ∈ effects, dataFrame effect = false
  state : next.state = t.state ∨ next.state = .disconnected ∨ next.state = .failed
  closes : effects.countP closeFrame + t.mCloseSent.toNat ≤ next.mCloseSent.toNat
  sent : next.state = .connected → effects.countP closeFrame + t.mCloseSent.toNat = next.mCloseSent.toNat

def GoesOn (t next : WsTransport) : Prop := ∃ effects, Steady t next effects

section
variable {env : Environment} {t next later : WsTransport}

theorem Steady.connected {effects : List Effect} (steady : Steady t next effects)
    (connected : next.state = .connected) : t.state = .connected := by
  rcases steady.state with same | disconnected | failed
  · exact same.symm.trans connected
  · exact absurd (disconnected.symm.trans connected) (by decide)
  · exact absurd (failed.symm.trans connected) (by decide)

theorem GoesOn.trans (first : GoesOn t next) (second : GoesOn next later) : GoesOn t later := by
  obtain ⟨effects, steady⟩ := first
  obtain ⟨others, steady'⟩ := second
  refine ⟨effects ++ others, ?_, ?_, ?_, ?_, ?_⟩
  · rw [steady'.log, steady.log, List.append_assoc]
  · intro effect member
    exact (List.mem_append.mp member).elim (steady.data effect) (steady'.data effect)
  · rcases steady'.state with same | closed
    · rw [same]
      exact steady.state
    · exact .inr closed
  · have one := steady.closes
    have two := steady'.closes
    rw [List.countP_append]
    omega
  · intro connected
    have one := steady.sent (steady'.connected connected)
    have two := steady'.sent connected
    rw [List.countP_append]
    omega

theorem GoesOn.of_effect (effect : Effect) (log : next.log = t.log ++ [effect]) (data : dataFrame effect = false)
    (close : closeFrame effect = false) (state : next.state = t.state)
    (closeSent : next.mCloseSent = t.mCloseSent) : GoesOn t next := by
  refine ⟨[effect], log, ?_, .inl state, ?_, fun _ => ?_⟩
  · intro other member
    rw [List.mem_singleton.mp member]
    exact data
  · simp [close, closeSent]
  · simp [close, closeSent]

theorem GoesOn.of_eq (log : next.log = t.log) (state : next.state = t.state)
    (closeSent : next.mCloseSent = t.mCloseSent) : GoesOn t next :=
  ⟨[], by simp [log], nofun, .inl state, by simp [closeSent], fun _ => by simp [closeSent]⟩

theorem GoesOn.refl (t : WsTransport) : GoesOn t t := .of_eq rfl rfl rfl

theorem recv_goesOn (message : Option Messages.Message) : GoesOn t (t.recv message) :=
  .of_effect (.recv message) rfl rfl rfl rfl rfl

theorem changeState_goesOn {s : State} (closed : s = .disconnected ∨ s = .failed) : GoesOn t (t.changeState s) := by
  have other : s ≠ .connected := by rcases closed with rfl | rfl <;> decide
  unfold changeState
  split
  · exact .refl t
  · refine ⟨[.stateChange s], rfl, ?_, .inr closed, by simp [closeFrame], fun connected => absurd connected other⟩
    intro effect member
    rw [List.mem_singleton.mp member]
    rfl

theorem outgoing_goesOn (sent : Sent) (data : dataFrame (.outgoing sent) = false)
    (close : closeFrame (.outgoing sent) = false) : GoesOn t (t.outgoing env sent).2 := by
  unfold outgoing
  split
  · exact .of_eq rfl rfl rfl
  · exact .of_effect (.outgoing sent) rfl data close rfl rfl

theorem close_sent (opened : t.state = .connected) (fresh : t.mCloseSent = false) {result : Bool}
    (answer : env.lower t.sends = .ok result) : GoesOn t (t.close env) := by
  let sent : Effect :=
    .outgoing (.frame { opcode := .close, payload := [], mask := t.mIsClient } (env.maskingKey t.sends))
  have one : [sent, .scheduleClose].countP closeFrame = 1 := rfl
  have next : t.close env =
      { t with mCloseSent := true, sends := t.sends + 1, log := t.log ++ [sent, .scheduleClose] } := by
    simp [close, sendFrame, outgoing, note, opened, fresh, answer, sent]
  rw [next]
  refine ⟨[sent, .scheduleClose], rfl, ?_, .inl rfl, by simp [one, fresh], fun _ => by simp [one, fresh]⟩
  intro effect member
  rcases List.mem_cons.mp member with rfl | last
  · rfl
  · rw [List.mem_singleton.mp last]
    rfl

theorem close_failed (opened : t.state = .connected) (fresh : t.mCloseSent = false) {e : Exception}
    (answer : env.lower t.sends = .error e) : GoesOn t (t.close env) := by
  have next : t.close env =
      { t with
        mCloseSent := true
        sends := t.sends + 1
        state := .disconnected
        log := t.log ++ [.stateChange .disconnected] } := by
    simp [close, sendFrame, outgoing, changeState, opened, fresh, answer]
  rw [next]
  refine ⟨[.stateChange .disconnected], rfl, ?_, .inr (.inl rfl), by simp [fresh, closeFrame], nofun⟩
  intro effect member
  rw [List.mem_singleton.mp member]
  rfl

theorem close_goesOn : GoesOn t (t.close env) := by
  by_cases opened : t.state = .connected
  · cases fresh : t.mCloseSent with
    | false =>
      cases answer : env.lower t.sends with
      | error e => exact close_failed opened fresh answer
      | ok result => exact close_sent opened fresh answer
    | true =>
      have same : t.close env = t := by simp [close, fresh]
      rw [same]
      exact .refl t
  · have same : t.close env = t := if_pos opened
    rw [same]
    exact .refl t

/-! ### The functions of `incoming` -/

theorem recvData_goesOn (frame : Frame) : GoesOn t (t.recvData frame) := by
  unfold recvData
  simp only
  have flushed : GoesOn t (if t.mPartial = [] then t
      else { t.recv (some ⟨t.mPartial, messageType t.mPartialOpcode⟩) with mPartial := [] }) := by
    split
    · exact .refl t
    · exact (recv_goesOn _).trans (.of_eq rfl rfl rfl)
  generalize (if t.mPartial = [] then t
    else { t.recv (some ⟨t.mPartial, messageType t.mPartialOpcode⟩) with mPartial := [] }) = kept at flushed ⊢
  split
  · exact flushed.trans (.of_effect _ rfl rfl rfl rfl rfl)
  · exact flushed.trans (.of_eq rfl rfl rfl)

theorem recvContinuation_goesOn (frame : Frame) : GoesOn t (t.recvContinuation frame) := by
  unfold recvContinuation
  simp only
  split
  · exact .of_effect (.recv _) rfl rfl rfl rfl rfl
  · exact .of_eq rfl rfl rfl

theorem recvFrame_goesOn (frame : Frame) : GoesOn t (t.recvFrame env frame).2 := by
  unfold recvFrame
  split
  · exact recvData_goesOn frame
  · exact recvData_goesOn frame
  · exact recvContinuation_goesOn frame
  · exact outgoing_goesOn _ rfl rfl
  · exact .of_eq rfl rfl rfl
  · exact close_goesOn.trans (changeState_goesOn (by simp))
  · exact close_goesOn

theorem frameLoop_goesOn (rounds : Nat) (t : WsTransport) : GoesOn t (frameLoop env rounds t).2 :=
  frameLoop_relates (R := GoesOn) .refl (fun first second => first.trans second) (fun _ _ _ => .of_eq rfl rfl rfl)
    (fun _ frame _ => recvFrame_goesOn frame) rounds t fun _ _ => trivial

theorem processFrames_goesOn : GoesOn t (t.processFrames env).2 :=
  processFrames_relates (R := GoesOn) .refl (fun first second => first.trans second) (fun _ _ _ => .of_eq rfl rfl rfl)
    (fun _ frame _ => recvFrame_goesOn frame) t fun _ _ => trivial

theorem sendPing_goesOn : GoesOn t (t.sendPing env).2 := by
  have pinged : GoesOn t (t.sendFrame env { opcode := .ping, payload := [0, 0, 0, 0], mask := t.mIsClient }).2 :=
    outgoing_goesOn _ rfl rfl
  unfold sendPing
  split
  · rename_i e failed result
    rw [result] at pinged
    exact pinged
  · rename_i answer sent result
    rw [result] at pinged
    apply pinged.trans
    unfold addOutstandingPing
    simp only
    split
    · have counted : GoesOn sent { sent with mOutstandingPings := sent.mOutstandingPings + 1 } := .of_eq rfl rfl rfl
      exact counted.trans (changeState_goesOn (by simp))
    · exact .of_eq rfl rfl rfl

theorem process_goesOn (opened : t.state ≠ .connecting) (message : Bytes) : GoesOn t (t.process env message).2 := by
  have pushed : GoesOn t { t with mBuffer := t.mBuffer ++ message } := .of_eq rfl rfl rfl
  unfold process
  simp only [if_neg opened]
  split
  · split
    · exact pushed.trans sendPing_goesOn
    · exact pushed.trans processFrames_goesOn
  · exact pushed

theorem handleError_goesOn (e : Exception) : GoesOn t (t.handleError env e) := by
  unfold handleError
  split
  · exact outgoing_goesOn _ rfl rfl
  · exact .refl t

theorem disconnect_goesOn : GoesOn t t.disconnect := by
  unfold disconnect
  split
  · exact (changeState_goesOn (by simp)).trans (recv_goesOn none)
  · exact changeState_goesOn (by simp)

theorem incoming_goesOn (opened : t.state ≠ .connecting) (message : Option Bytes) :
    GoesOn t (t.incoming env message) := by
  unfold incoming
  split
  · exact .refl t
  · split
    · exact disconnect_goesOn
    · rename_i message
      have processed : GoesOn t (t.process env message).2 := process_goesOn opened message
      split
      · rename_i done result
        rw [result] at processed
        exact processed
      · rename_i e failed result
        rw [result] at processed
        exact (processed.trans (handleError_goesOn e)).trans disconnect_goesOn

theorem GoesOn.past (goesOn : GoesOn t next) (opened : t.state ≠ .connecting) : next.state ≠ .connecting := by
  obtain ⟨effects, steady⟩ := goesOn
  rcases steady.state with same | closed | closed
  · rw [same]
    exact opened
  · rw [closed]
    decide
  · rw [closed]
    decide

theorem GoesOn.closed (goesOn : GoesOn t next) (closed : t.state = .disconnected ∨ t.state = .failed) :
    next.state = .disconnected ∨ next.state = .failed := by
  obtain ⟨effects, steady⟩ := goesOn
  rcases steady.state with same | other
  · rw [same]
    exact closed
  · exact other

theorem GoesOn.length_le (goesOn : GoesOn t next) : t.log.length ≤ next.log.length := by
  obtain ⟨effects, steady⟩ := goesOn
  rw [steady.log, List.length_append]
  exact Nat.le_add_right _ _

/-- Whatever comes in, the log only grows. -/
theorem GoesOn.mem_log (goesOn : GoesOn t next) {effect : Effect} (member : effect ∈ t.log) : effect ∈ next.log := by
  obtain ⟨effects, steady⟩ := goesOn
  rw [steady.log]
  exact List.mem_append_left _ member

end

end WebsocketClient.WsLogs
