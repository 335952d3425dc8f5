import WebsocketClient.AfterClose
import WebsocketClient.Library.Histories

/-! The states that the callback of a `WsTransport` is notified of, and the terminal ones among them. -/

namespace WebsocketClient.WsTerminals
open ByteString Messages Frames Handshake Transports WsTransports WsTransport WsChunks WsLogs AfterCloses
open Library.Histories

/-! ### Notifications -/

/-- The states that were notified. -/
def changes (log : List Effect) : List State :=
  log.filterMap fun effect =>
    match effect with
    | .stateChange s => some s
    | _ => none

def Terminal (s : State) : Prop := s = .disconnected ∨ s = .failed

instance : DecidablePred Terminal := fun _ => inferInstanceAs (Decidable (_ ∨ _))

def Started (log : List Effect) : Prop := .connecting ∈ changes log

/-- A terminal state that was reached after `start` does not change any more, and is the only one. -/
structure Settled (log : List Effect) : Prop where
  final : Final .connecting Terminal (changes log)
  once : (since .connecting (changes log)).countP (fun s => Terminal s) ≤ 1

structure Recorded (state : State) (log : List Effect) : Prop where
  state : state = current .disconnected (changes log)
  final : Final .connecting Terminal (changes log)

section
variable {state : State} {log : List Effect}

theorem changes_append (log more : List Effect) : changes (log ++ more) = changes log ++ changes more :=
  List.filterMap_append

theorem Recorded.settled (recorded : Recorded state log) : Settled log where
  final := recorded.final
  once := recorded.final.countP_le_one

theorem Recorded.of_changes {more : List Effect} (recorded : Recorded state log) (same : changes more = changes log) :
    Recorded state more where
  state := by rw [same]; exact recorded.state
  final := by rw [same]; exact recorded.final

theorem Recorded.change_iff (recorded : Recorded state log) (s : State) :
    Final .connecting Terminal (changes (log ++ [.stateChange s])) ↔ (Started log → ¬Terminal state) := by
  have step := final_append_iff .disconnected recorded.final s
  unfold Ended at step
  rw [← recorded.state, not_and] at step
  rw [changes_append]
  exact step

theorem Recorded.change (recorded : Recorded state log) (s : State) (goesOn : Started log → ¬Terminal state) :
    Recorded s (log ++ [.stateChange s]) where
  state := by
    rw [changes_append]
    exact (current_append _ s).symm
  final := (recorded.change_iff s).mpr goesOn

theorem Recorded.not_final (recorded : Recorded state log) (started : Started log) (terminal : Terminal state)
    (s : State) : ¬Final .connecting Terminal (changes (log ++ [.stateChange s])) := by
  rw [recorded.change_iff s]
  exact fun goesOn => goesOn started terminal

theorem Terminal.ne_connecting (terminal : Terminal state) : state ≠ .connecting := by
  rcases terminal with same | same <;> rw [same] <;> decide

end

/-! ### `WsTransport` -/

/-- The frame loop reads a PING, behind a frame that has ended the connection, and its PONG is refused. -/
inductive PongRefused (env : Environment) : WsTransport → Prop where
  | now {t : WsTransport} {parsed : Parsed} {e : Exception} : t.state ≠ .connected →
      parseFrame t.mMaxMessageSize t.mBuffer = some parsed → parsed.consumed ≠ 0 → parsed.frame.opcode = .ping →
      env.lower t.sends = .error e → PongRefused env t
  | later {t next : WsTransport} : Round env t next → PongRefused env next → PongRefused env t

/-- The first lines of the `try` block. -/
def received (env : Environment) (t : WsTransport) (chunk : Bytes) : Except Exception Unit × WsTransport :=
  if t.state = .connecting then (push t chunk).processHandshake env else (.ok (), push t chunk)

/-- The frame loop is reached, and ends with the PONG that is refused. -/
structure Overtaken (env : Environment) (t : WsTransport) (chunk : Bytes) (opened : WsTransport) : Prop where
  reached : received env t chunk = (.ok (), opened)
  connected : opened.state = .connected
  full : chunk ≠ []
  start : opened.skipIgnored.mIgnoreLength = 0
  refused : PongRefused env opened.skipIgnored

/-- What leaves the state alone. -/
structure Unnoticed (t next : WsTransport) : Prop where
  state : next.state = t.state
  notified : changes next.log = changes t.log

/-- A transport in the frame loop. -/
structure Reading (t : WsTransport) : Prop where
  recorded : Recorded t.state t.log
  state : t.state = .connected ∨ t.state = .disconnected

/-- A step in the frame loop. -/
structure Reads (t next : WsTransport) : Prop where
  reading : Reading t → Reading next
  started : Started next.log ↔ Started t.log

section
variable {env : Environment} {t next later : WsTransport}

theorem Unnoticed.refl (t : WsTransport) : Unnoticed t t := ⟨rfl, rfl⟩

theorem Unnoticed.trans (first : Unnoticed t next) (second : Unnoticed next later) : Unnoticed t later :=
  ⟨second.state.trans first.state, second.notified.trans first.notified⟩

theorem Unnoticed.of_log (state : next.state = t.state) (log : next.log = t.log) : Unnoticed t next :=
  ⟨state, by rw [log]⟩

theorem Unnoticed.recorded (unnoticed : Unnoticed t next) (recorded : Recorded t.state t.log) :
    Recorded next.state next.log := by
  rw [unnoticed.state]
  exact recorded.of_changes unnoticed.notified

theorem Unnoticed.started (unnoticed : Unnoticed t next) : Started next.log ↔ Started t.log := by
  unfold Started
  rw [unnoticed.notified]

theorem Unnoticed.reads (unnoticed : Unnoticed t next) : Reads t next where
  reading before := ⟨unnoticed.recorded before.recorded, by rw [unnoticed.state]; exact before.state⟩
  started := unnoticed.started

theorem Reads.refl (t : WsTransport) : Reads t t := ⟨id, Iff.rfl⟩

theorem Reads.of_log (state : next.state = t.state) (log : next.log = t.log) : Reads t next :=
  (Unnoticed.of_log state log).reads

theorem Reads.trans (first : Reads t next) (second : Reads next later) : Reads t later where
  reading before := second.reading (first.reading before)
  started := second.started.trans first.started

theorem Unnoticed.of_effect (effect : Effect) (none : changes [effect] = []) (state : next.state = t.state)
    (log : next.log = t.log ++ [effect]) : Unnoticed t next := by
  refine ⟨state, ?_⟩
  rw [log, changes_append, none]
  exact List.append_nil _

theorem recv_unnoticed (message : Option Message) : Unnoticed t (t.recv message) :=
  .of_effect (.recv message) rfl rfl rfl

theorem outgoing_unnoticed (sent : Sent) : Unnoticed t (t.outgoing env sent).2 := by
  unfold WsTransport.outgoing
  split
  · exact .of_log rfl rfl
  · exact .of_effect (.outgoing sent) rfl rfl rfl

theorem handleError_unnoticed (e : Exception) : Unnoticed t (t.handleError env e) := by
  unfold handleError
  split
  · exact outgoing_unnoticed _
  · exact .refl t

theorem recvData_unnoticed (frame : Frame) : Unnoticed t (t.recvData frame) := by
  unfold recvData
  simp only
  have flushed : Unnoticed t (if t.mPartial = [] then t
      else { t.recv (some ⟨t.mPartial, messageType t.mPartialOpcode⟩) with mPartial := [] }) := by
    split
    · exact .refl t
    · exact .of_effect (.recv _) rfl rfl rfl
  generalize (if t.mPartial = [] then t
    else { t.recv (some ⟨t.mPartial, messageType t.mPartialOpcode⟩) with mPartial := [] }) = kept at flushed ⊢
  split
  · exact flushed.trans (.of_effect (.recv _) rfl rfl rfl)
  · exact flushed.trans (.of_log rfl rfl)

theorem recvContinuation_unnoticed (frame : Frame) : Unnoticed t (t.recvContinuation frame) := by
  unfold recvContinuation
  simp only
  split
  · exact .of_effect (.recv _) rfl rfl rfl
  · exact .of_log rfl rfl

theorem changeState_recorded (recorded : Recorded t.state t.log) (s : State)
    (goesOn : t.state ≠ s → Started t.log → ¬Terminal t.state) :
    Recorded (t.changeState s).state (t.changeState s).log := by
  unfold WsTransport.changeState
  split
  · exact recorded
  · rename_i other
    exact recorded.change s (goesOn other)

theorem changeState_not_final (recorded : Recorded t.state t.log) (started : Started t.log)
    (terminal : Terminal t.state) {s : State} (other : t.state ≠ s) :
    ¬Final .connecting Terminal (changes (t.changeState s).log) := by
  rw [WsTransport.changeState, if_neg other]
  exact recorded.not_final started terminal s

theorem changeState_started {s : State} (other : s ≠ .connecting) :
    Started (t.changeState s).log ↔ Started t.log := by
  unfold WsTransport.changeState Started
  split
  · rfl
  · rw [changes_append, List.mem_append]
    simp [changes, Ne.symm other]

theorem not_terminal_of_connected {s : State} (connected : s = .connected) : ¬Terminal s := by
  rw [connected]
  decide

theorem close_reads : Reads t (t.close env) := by
  unfold WsTransport.close
  split
  · exact .refl t
  · rename_i opened
    have connected : t.state = .connected := not_not.mp opened
    split
    · exact .refl t
    · have sent : Unnoticed t (sendFrame env { t with mCloseSent := true }
          { opcode := .close, payload := [], mask := t.mIsClient }).2 :=
        have marked : Unnoticed t { t with mCloseSent := true } := .of_log rfl rfl
        marked.trans (outgoing_unnoticed _)
      split
      · rename_i e failed result
        rw [result] at sent
        constructor
        · intro before
          refine ⟨changeState_recorded (sent.recorded before.recorded) _ ?_, .inr (changeState_state _)⟩
          intro _ _
          exact not_terminal_of_connected (sent.state.trans connected)
        · exact (changeState_started (by decide)).trans sent.started
      · rename_i answer next result
        have scheduled : Unnoticed next (next.note .scheduleClose) := .of_effect .scheduleClose rfl rfl rfl
        rw [result] at sent
        exact (sent.trans scheduled).reads

theorem close_recorded (recorded : Recorded t.state t.log) :
    Recorded (t.close env).state (t.close env).log := by
  by_cases connected : t.state = .connected
  · have after : Reading (t.close env) := close_reads.reading ⟨recorded, .inl connected⟩
    exact after.recorded
  · rw [WsTransport.close, if_pos connected]
    exact recorded

theorem recvFrame_reads (frame : Frame) : Reads t (t.recvFrame env frame).2 := by
  unfold recvFrame
  split
  · exact (recvData_unnoticed frame).reads
  · exact (recvData_unnoticed frame).reads
  · exact (recvContinuation_unnoticed frame).reads
  · exact (outgoing_unnoticed _).reads
  · exact .of_log rfl rfl
  · refine close_reads.trans ⟨fun before => ⟨?_, .inr (changeState_state _)⟩, changeState_started (by decide)⟩
    apply changeState_recorded before.recorded
    intro other _
    exact not_terminal_of_connected (before.state.resolve_right other)
  · exact close_reads

theorem frameLoop_reads (rounds : Nat) (t : WsTransport) : Reads t (frameLoop env rounds t).2 :=
  frameLoop_relates (R := Reads) .refl (fun first second => first.trans second)
    (fun _ _ _ => .of_log rfl rfl) (fun _ frame _ => recvFrame_reads frame) rounds t fun _ _ => trivial

/-- Only a PONG that is refused throws. -/
theorem recvFrame_error {frame : Frame} {e : Exception} (failed : t.recvFrame env frame = (.error e, next)) :
    frame.opcode = .ping ∧ env.lower t.sends = .error e ∧ next.state = t.state := by
  unfold recvFrame at failed
  split at failed
  · simp at failed
  · simp at failed
  · simp at failed
  · rename_i ping
    cases answer : env.lower t.sends with
    | ok result => simp [sendFrame, WsTransport.outgoing, answer, Except.map] at failed
    | error other =>
      simp only [sendFrame, WsTransport.outgoing, answer, Except.map, Prod.mk.injEq, Except.error.injEq] at failed
      obtain ⟨rfl, rfl⟩ := failed
      exact ⟨ping, rfl, rfl⟩
  · simp at failed
  · simp at failed
  · simp at failed

theorem recvFrame_ping {frame : Frame} {e : Exception} (ping : frame.opcode = .ping)
    (answer : env.lower t.sends = .error e) :
    t.recvFrame env frame = (.error e, { t with sends := t.sends + 1 }) := by
  simp [recvFrame, ping, sendFrame, WsTransport.outgoing, answer, Except.map]

theorem pongRefused_of_error (rounds : Nat) (t : WsTransport) {e : Exception}
    (failed : frameLoop env rounds t = (.error e, next)) (closed : next.state ≠ .connected) : PongRefused env t := by
  induction rounds generalizing t with
  | zero => simp [frameLoop] at failed
  | succ rounds ih =>
    unfold frameLoop at failed
    split at failed
    · simp at failed
    · rename_i parsed found
      simp only at failed
      split at failed
      · simp at failed
      · rename_i moves
        split at failed
        · rename_i other refused result
          obtain ⟨_, rfl⟩ := Prod.mk.inj failed
          obtain ⟨ping, answer, state⟩ := recvFrame_error result
          rw [maskPong_state, state] at closed
          exact .now closed found moves ping answer
        · rename_i handled result
          split at failed
          · simp at failed
          · rename_i enough
            exact .later (.goOn found moves result (Nat.not_lt.mp enough)) (ih _ failed)

theorem error_of_pongRefused (refused : PongRefused env t) (rounds : Nat) (enough : t.mBuffer.length < rounds) :
    ∃ e next, frameLoop env rounds t = (.error e, next) ∧ next.state ≠ .connected := by
  induction refused generalizing rounds with
  | @now t parsed e closed found moves ping answer =>
    obtain ⟨rounds, rfl⟩ : ∃ left, rounds = left + 1 := ⟨rounds - 1, by omega⟩
    have result := recvFrame_ping (t := { t with mBuffer := parsed.buffer }) ping answer
    rw [frameLoop, found]
    simp only [if_neg moves, result]
    refine ⟨e, _, rfl, ?_⟩
    rw [maskPong_state]
    exact closed
  | later round _ ih =>
    obtain ⟨rounds, rfl⟩ : ∃ left, rounds = left + 1 := ⟨rounds - 1, by omega⟩
    obtain ⟨same, shorter⟩ := round_frameLoop round rounds
    rw [same]
    apply ih
    omega

/-! ### `incoming` -/

theorem push_unnoticed (chunk : Bytes) : Unnoticed t (push t chunk) := .of_log rfl rfl

/-- The handshake ends with the connection or goes on. -/
structure Shaken (t : WsTransport) (result : Except Exception Unit) (next : WsTransport) : Prop where
  recorded : Recorded t.state t.log → Recorded next.state next.log
  started : Started next.log ↔ Started t.log
  state : next.state = .connecting ∨ next.state = .connected ∧ result = .ok ()

theorem Shaken.of_unnoticed (connecting : t.state = .connecting) (unnoticed : Unnoticed t next)
    (result : Except Exception Unit) : Shaken t result next :=
  ⟨unnoticed.recorded, unnoticed.started, .inl (unnoticed.state.trans connecting)⟩

theorem Shaken.of_connected (connecting : t.state = .connecting) (unnoticed : Unnoticed t next) (bytes : Bytes) :
    Shaken t (.ok ()) { next.changeState .connected with mBuffer := bytes } := by
  refine ⟨fun recorded => ?_, (changeState_started (by decide)).trans unnoticed.started,
    .inr ⟨changeState_state _, rfl⟩⟩
  refine changeState_recorded (unnoticed.recorded recorded) .connected fun _ _ => ?_
  rw [unnoticed.state, connecting]
  decide

theorem processHandshake_shaken (connecting : t.state = .connecting) :
    Shaken t (t.processHandshake env).1 (t.processHandshake env).2 := by
  unfold processHandshake
  split
  · split
    · exact .of_unnoticed connecting (.refl t) _
    · simp only
      split
      · exact .of_unnoticed connecting (.refl t) _
      · exact .of_connected connecting (.refl t) _
  · rcases t.mHandshake.parseHttpRequest t.mBuffer with ⟨handshake, result⟩
    have parsed : Unnoticed t { t with mHandshake := handshake } := .of_log rfl rfl
    cases result with
    | error e => exact .of_unnoticed connecting parsed _
    | ok length =>
      simp only
      split
      · exact .of_unnoticed connecting parsed _
      · have sent : Unnoticed { t with mHandshake := handshake }
            (sendHttpResponse env { t with mHandshake := handshake }).2 := outgoing_unnoticed _
        split
        · rename_i e failed result
          rw [result] at sent
          exact .of_unnoticed connecting (parsed.trans sent) _
        · rename_i answer next result
          rw [result] at sent
          exact .of_connected connecting (parsed.trans sent) _

def Live (t : WsTransport) : Prop := t.state = .connecting ∨ t.state = .connected

theorem Live.not_terminal (live : Live t) : ¬Terminal t.state := by
  rcases live with state | state <;> rw [state] <;> decide

theorem received_shaken (live : Live t) (chunk : Bytes) :
    Shaken t (received env t chunk).1 (received env t chunk).2 := by
  have pushed : Unnoticed t (push t chunk) := push_unnoticed chunk
  unfold received
  split
  · rename_i connecting
    have shaken : Shaken (push t chunk) ((push t chunk).processHandshake env).1
      ((push t chunk).processHandshake env).2 := processHandshake_shaken connecting
    exact ⟨fun before => shaken.recorded (pushed.recorded before), shaken.started.trans pushed.started,
      shaken.state⟩
  · rename_i dead
    exact ⟨pushed.recorded, pushed.started, .inr ⟨live.resolve_left dead, rfl⟩⟩

theorem process_eq (chunk : Bytes) :
    t.process env chunk =
      match received env t chunk with
      | (.error e, next) => (.error e, next)
      | (.ok (), next) =>
        if next.state = .connected then if chunk = [] then next.sendPing env else next.processFrames env
        else (.ok (), next) := by
  have first : (if (push t chunk).state = .connecting then (push t chunk).processHandshake env
      else (.ok (), push t chunk)) = received env t chunk := rfl
  unfold push at first
  unfold process
  simp only [first]
  rcases received env t chunk with ⟨(e | ⟨⟨⟩⟩), opened⟩ <;> rfl

structure Processed (env : Environment) (t : WsTransport) (chunk : Bytes) (result : Except Exception Unit)
    (next : WsTransport) : Prop where
  recorded : Recorded t.state t.log → Recorded next.state next.log
  started : Started next.log ↔ Started t.log
  state : ∀ e, result = .error e →
    Live next ∨ next.state = .disconnected ∧ ∃ opened, Overtaken env t chunk opened

/-- What the PING of an idle connection leaves. -/
structure Pinged (t : WsTransport) (result : Except Exception Unit) (next : WsTransport) : Prop where
  recorded : Recorded t.state t.log → Recorded next.state next.log
  started : Started next.log ↔ Started t.log
  state : ∀ e, result = .error e → next.state = .connected

theorem sendPing_pinged (connected : t.state = .connected) :
    Pinged t (t.sendPing env).1 (t.sendPing env).2 := by
  have sent : Unnoticed t (t.sendFrame env { opcode := .ping, payload := [0, 0, 0, 0], mask := t.mIsClient }).2 :=
    outgoing_unnoticed _
  unfold sendPing
  split
  · rename_i e failed result
    rw [result] at sent
    exact ⟨sent.recorded, sent.started, fun _ _ => sent.state.trans connected⟩
  · rename_i answer pinged result
    rw [result] at sent
    have counted : Unnoticed t { pinged with mOutstandingPings := pinged.mOutstandingPings + 1 } :=
      sent.trans (.of_log rfl rfl)
    unfold addOutstandingPing
    simp only
    split
    · refine ⟨fun recorded => ?_, (changeState_started (by decide)).trans counted.started, nofun⟩
      apply changeState_recorded (counted.recorded recorded)
      exact fun _ _ => not_terminal_of_connected (counted.state.trans connected)
    · exact ⟨counted.recorded, counted.started, nofun⟩

theorem processFrames_reads : Reads t (t.processFrames env).2 := by
  have skipped : Reads t t.skipIgnored := .of_log rfl rfl
  unfold processFrames
  simp only
  split
  · exact skipped.trans (frameLoop_reads _ _)
  · exact skipped

/-- The frames of a connected transport end with an exception behind the end of the connection exactly when
a PONG is refused there. -/
theorem processFrames_error_iff :
    (∃ e next, t.processFrames env = (.error e, next) ∧ next.state ≠ .connected) ↔
      t.skipIgnored.mIgnoreLength = 0 ∧ PongRefused env t.skipIgnored := by
  unfold processFrames
  simp only
  split
  · rename_i start
    constructor
    · rintro ⟨e, next, failed, closed⟩
      exact ⟨start, pongRefused_of_error _ _ failed closed⟩
    · rintro ⟨_, refused⟩
      exact error_of_pongRefused refused _ (Nat.lt_succ_self _)
  · rename_i ignoring
    constructor
    · rintro ⟨e, next, failed, _⟩
      simp at failed
    · exact fun both => absurd both.1 ignoring

theorem process_processed (live : Live t) (recorded : Recorded t.state t.log) (chunk : Bytes) :
    Processed env t chunk (t.process env chunk).1 (t.process env chunk).2 := by
  have shaken : Shaken t (received env t chunk).1 (received env t chunk).2 := received_shaken live chunk
  rw [process_eq]
  rcases result : received env t chunk with ⟨(e | ⟨⟨⟩⟩), opened⟩
  · rw [result] at shaken
    refine ⟨shaken.recorded, shaken.started, fun _ _ => .inl ?_⟩
    exact shaken.state.imp id fun ended => absurd ended.2 (by simp)
  · rw [result] at shaken
    have before := shaken.recorded recorded
    simp only
    split
    · rename_i connected
      split
      · have pinged : Pinged opened (opened.sendPing env).1 (opened.sendPing env).2 := sendPing_pinged connected
        exact ⟨fun _ => pinged.recorded before, pinged.started.trans shaken.started,
          fun e failed => .inl (.inr (pinged.state e failed))⟩
      · rename_i full
        have reads : Reads opened (opened.processFrames env).2 := processFrames_reads
        have after := reads.reading ⟨before, .inl connected⟩
        refine ⟨fun _ => after.recorded, reads.started.trans shaken.started, fun e failed => ?_⟩
        refine after.state.imp .inr fun closed => ⟨closed, opened, ?_⟩
        obtain ⟨start, refused⟩ := processFrames_error_iff.mp
          ⟨e, _, Prod.ext failed rfl, by rw [closed]; decide⟩
        exact ⟨result, connected, full, start, refused⟩
    · exact ⟨shaken.recorded, shaken.started, nofun⟩

theorem Overtaken.live {chunk : Bytes} {opened : WsTransport} (overtaken : Overtaken env t chunk opened) : Live t := by
  have result := overtaken.reached
  unfold received at result
  split at result
  · rename_i connecting
    exact .inl connecting
  · obtain ⟨_, rfl⟩ := Prod.mk.inj result
    exact .inr overtaken.connected

theorem Overtaken.process {chunk : Bytes} {opened : WsTransport} (overtaken : Overtaken env t chunk opened)
    (recorded : Recorded t.state t.log) :
    ∃ e next, t.process env chunk = (.error e, next) ∧ next.state = .disconnected := by
  have shaken : Shaken t (received env t chunk).1 (received env t chunk).2 :=
    received_shaken overtaken.live chunk
  rw [overtaken.reached] at shaken
  obtain ⟨e, next, failed, closed⟩ := processFrames_error_iff.mpr ⟨overtaken.start, overtaken.refused⟩
  have reads : Reads opened (opened.processFrames env).2 := processFrames_reads
  rw [failed] at reads
  have after := reads.reading ⟨shaken.recorded recorded, .inl overtaken.connected⟩
  refine ⟨e, next, ?_, after.state.resolve_left closed⟩
  rw [process_eq, overtaken.reached]
  simp only [if_pos overtaken.connected, if_neg overtaken.full, failed]

theorem disconnect_recorded (recorded : Recorded t.state t.log)
    (goesOn : t.state ≠ .failed → Started t.log → ¬Terminal t.state) :
    Recorded t.disconnect.state t.disconnect.log := by
  unfold disconnect
  split
  · rename_i connected
    have closed : Unnoticed (t.changeState .disconnected) ((t.changeState .disconnected).recv none) :=
      recv_unnoticed none
    apply closed.recorded
    exact changeState_recorded recorded _ fun _ _ => not_terminal_of_connected connected
  · exact changeState_recorded recorded _ goesOn

theorem incoming_recorded (recorded : Recorded t.state t.log) (message : Option Bytes)
    (inTime : Started t.log → ∀ chunk opened, message = some chunk → ¬Overtaken env t chunk opened) :
    Recorded (t.incoming env message).state (t.incoming env message).log := by
  unfold WsTransport.incoming
  split
  · exact recorded
  · rename_i dropped
    have live : Live t := by
      unfold Live
      tauto
    cases message with
    | none => exact disconnect_recorded recorded fun _ _ => live.not_terminal
    | some chunk =>
      have processed : Processed env t chunk (t.process env chunk).1 (t.process env chunk).2 :=
        process_processed live recorded chunk
      simp only
      split
      · rename_i next result
        rw [result] at processed
        exact processed.recorded recorded
      · rename_i e next result
        rw [result] at processed
        have answered : Unnoticed next (next.handleError env e) := handleError_unnoticed e
        apply disconnect_recorded (answered.recorded (processed.recorded recorded))
        intro _ started
        rw [answered.state]
        rcases processed.state e rfl with alive | ⟨closed, opened, overtaken⟩
        · exact alive.not_terminal
        · have begun := processed.started.mp (answered.started.mp started)
          exact absurd overtaken (inTime begun chunk opened rfl)

theorem incoming_overtaken (recorded : Recorded t.state t.log) (started : Started t.log) {chunk : Bytes}
    {opened : WsTransport} (overtaken : Overtaken env t chunk opened) :
    ¬Final .connecting Terminal (changes (t.incoming env (some chunk)).log) := by
  have live := overtaken.live
  obtain ⟨e, next, result, closed⟩ := overtaken.process recorded
  have processed : Processed env t chunk (t.process env chunk).1 (t.process env chunk).2 :=
    process_processed live recorded chunk
  rw [result] at processed
  have answered : Unnoticed next (next.handleError env e) := handleError_unnoticed e
  have ended : (next.handleError env e).state = .disconnected := answered.state.trans closed
  have told : t.incoming env (some chunk) = (next.handleError env e).changeState .failed := by
    have entered : ¬(t.state ≠ .connecting ∧ t.state ≠ .connected) := by
      rcases live with state | state <;> simp [state]
    rw [WsTransport.incoming, if_neg entered, result]
    simp only [disconnect, ended, reduceCtorEq, ↓reduceIte]
  rw [told]
  apply changeState_not_final (answered.recorded (processed.recorded recorded))
  · exact answered.started.mpr (processed.started.mpr started)
  · exact .inl ended
  · rw [ended]
    decide

end

/-! ### Runs of a `WsTransport` -/

inductive WsLabel where
  | start (random : Key)
  | send (message : Option Message)
  | close
  | incoming (message : Option Bytes)
  | closeTimeout
  deriving DecidableEq, Repr

/-- One call, or the task that `close` has scheduled. -/
inductive WsStep (env : Environment) (t : WsTransport) : WsLabel → WsTransport → Prop where
  | start (random : Key) : WsStep env t (.start random) (t.start env random).2
  | send (message : Option Message) : WsStep env t (.send message) (t.send env message).2
  | close : WsStep env t .close (t.close env)
  | incoming (message : Option Bytes) : WsStep env t (.incoming message) (t.incoming env message)
  | closeTimeout : .scheduleClose ∈ t.log → WsStep env t .closeTimeout (t.changeState .disconnected)

/-- After `start` it is not started again in a terminal state, no PONG is refused behind the end of the
connection, and the timer does not find `Failed`. -/
def WsGuard (env : Environment) (t : WsTransport) (label : WsLabel) : Prop :=
  Started t.log →
    match label with
    | .start _ => ¬Terminal t.state
    | .incoming message => ∀ chunk opened, message = some chunk → ¬Overtaken env t chunk opened
    | .closeTimeout => t.state ≠ .failed
    | .send _ | .close => True

section
variable {env : Environment} {t next : WsTransport} {label : WsLabel}

theorem start_unnoticed (random : Key) : Unnoticed (t.changeState .connecting) (t.start env random).2 := by
  unfold WsTransport.start
  simp only
  split
  · have generated : ∀ handshake, Unnoticed (t.changeState .connecting)
        { t.changeState .connecting with mHandshake := handshake } := fun _ => .of_log rfl rfl
    exact (generated _).trans (outgoing_unnoticed _)
  · exact .refl _

theorem send_unnoticed (message : Option Message) : Unnoticed t (t.send env message).2 := by
  unfold WsTransport.send
  split
  · exact .refl t
  · split
    · exact .refl t
    · exact outgoing_unnoticed _

theorem ws_keeps (recorded : Recorded t.state t.log) (step : WsStep env t label next) (guard : WsGuard env t label) :
    Recorded next.state next.log := by
  cases step with
  | start random =>
    exact (start_unnoticed random).recorded (changeState_recorded recorded _ fun _ started => guard started)
  | send message => exact (send_unnoticed message).recorded recorded
  | close => exact close_recorded recorded
  | incoming message => exact incoming_recorded recorded message guard
  | closeTimeout _ =>
    apply changeState_recorded recorded
    intro other started
    exact fun terminal => terminal.elim other (guard started)

theorem ws_breaks (recorded : Recorded t.state t.log) (step : WsStep env t label next)
    (against : ¬WsGuard env t label) : ¬Final .connecting Terminal (changes next.log) := by
  unfold WsGuard at against
  obtain ⟨started, against⟩ := Classical.not_imp.mp against
  cases step with
  | start random =>
    have terminal : Terminal t.state := not_not.mp against
    rw [(start_unnoticed random).notified]
    exact changeState_not_final recorded started terminal terminal.ne_connecting
  | send message => exact absurd trivial against
  | close => exact absurd trivial against
  | incoming message =>
    push Not at against
    obtain ⟨chunk, opened, rfl, overtaken⟩ := against
    exact incoming_overtaken recorded started overtaken
  | closeTimeout _ =>
    have failed : t.state = .failed := not_not.mp against
    have other : t.state ≠ .disconnected := by
      rw [failed]
      decide
    exact changeState_not_final recorded started (.inr failed) other

end

end WebsocketClient.WsTerminals
