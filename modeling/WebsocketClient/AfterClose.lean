import WebsocketClient.WsStreams
import WebsocketClient.WsLog
import WebsocketClient.WsMessages

/-! What follows a CLOSE frame. The state is looked at once for each chunk, so that the frames behind a
CLOSE are read when they came in its chunk, and dropped when they come later. -/

namespace WebsocketClient.AfterCloses
open ByteString Frames Transports WsTransports WsTransport WsMessages WsChunks WsStreams WsLogs

/-! ### Frames that do nothing -/

/-- Nothing is passed up, sent or changed for the frame, once the state is `Disconnected`. -/
def Harmless (pending : Bytes) (frame : Frame) : Prop :=
  match frame.opcode with
  | .textFrame | .binaryFrame => pending = [] ∧ frame.fin = false
  | .continuation => frame.fin = false
  | .ping => False
  | .pong | .close | .other _ => True

/-- What is kept of a message after an unfinished frame. -/
def collected (limit : Nat) (pending : Bytes) (frame : Frame) : Bytes :=
  match frame.opcode with
  | .textFrame | .binaryFrame => pending ++ frame.payload.take limit
  | .continuation => (pending ++ frame.payload).take limit
  | _ => pending

/-- The buffer has only frames that do nothing before the loop ends. -/
inductive Silent (limit : Nat) : Bytes → Bytes → Prop where
  | incomplete {pending buffer : Bytes} : parseFrame limit buffer = none → Silent limit pending buffer
  | stuck {pending buffer : Bytes} {parsed : Parsed} : parseFrame limit buffer = some parsed → parsed.consumed = 0 →
      Silent limit pending buffer
  | frame {pending buffer : Bytes} {parsed : Parsed} : parseFrame limit buffer = some parsed → parsed.consumed ≠ 0 →
      Harmless pending parsed.frame →
      Silent limit (collected limit pending parsed.frame) (parsed.buffer.drop parsed.consumed) →
      Silent limit pending buffer

/-! ### The CLOSE frame in the loop -/

/-- The loop gives a CLOSE frame to `recvFrame`. The last transport is the one at its return, with what is
behind the frame in its buffer. -/
inductive HandlesClose (env : Environment) : WsTransport → WsTransport → Prop where
  | now {t : WsTransport} {parsed : Parsed} : parseFrame t.mMaxMessageSize t.mBuffer = some parsed →
      parsed.consumed ≠ 0 → parsed.frame.opcode = .close →
      HandlesClose env t { ({ t with mBuffer := parsed.buffer }.recvFrame env parsed.frame).2 with
        mBuffer := parsed.buffer.drop parsed.consumed }
  | later {t next closed : WsTransport} : Round env t next → HandlesClose env next closed → HandlesClose env t closed

/-- One of the chunks that a transport is fed has a CLOSE frame that `recvFrame` handles. -/
inductive Closes (env : Environment) : WsTransport → List Bytes → WsTransport → Prop where
  | now {t closed : WsTransport} {chunk : Bytes} {chunks : List Bytes} : t.state = .connected → chunk ≠ [] →
      (push t chunk).skipIgnored.mIgnoreLength = 0 → HandlesClose env (push t chunk).skipIgnored closed →
      Closes env t (chunk :: chunks) closed
  | later {t closed : WsTransport} {chunk : Bytes} {chunks : List Bytes} :
      Closes env (feed env t chunk) chunks closed → Closes env t (chunk :: chunks) closed

/-- The end of `incoming`: an exception ends in `disconnect`. -/
def finish (env : Environment) : Except Exception Unit × WsTransport → WsTransport
  | (.ok (), t) => t
  | (.error e, t) => (t.handleError env e).disconnect

section
variable {env : Environment} {t next : WsTransport}

theorem silent_frame_iff {limit : Nat} {pending buffer : Bytes} {parsed : Parsed}
    (found : parseFrame limit buffer = some parsed) (moves : parsed.consumed ≠ 0) :
    Silent limit pending buffer ↔ Harmless pending parsed.frame ∧
      Silent limit (collected limit pending parsed.frame) (parsed.buffer.drop parsed.consumed) := by
  constructor
  · intro silent
    cases silent with
    | incomplete none => exact absurd (none.symm.trans found) (by simp)
    | stuck again zero =>
      rw [Option.some.inj (again.symm.trans found)] at zero
      exact absurd zero moves
    | frame again _ harmless rest =>
      rw [Option.some.inj (again.symm.trans found)] at harmless rest
      exact ⟨harmless, rest⟩
  · intro ⟨harmless, rest⟩
    exact .frame found moves harmless rest

theorem handleError_state (e : Exception) : (t.handleError env e).state = t.state := by
  unfold handleError sendHttpError outgoing
  split
  · split <;> rfl
  · rfl

theorem maskPong_state (frame : Frame) (key : Bytes) (position : Nat) :
    (t.maskPong frame key position).state = t.state := by
  unfold maskPong
  split <;> rfl

theorem maskPong_log (frame : Frame) (key : Bytes) (position : Nat) :
    (t.maskPong frame key position).log = t.log := by
  unfold maskPong
  split <;> rfl

theorem finish_goesOn (result : Except Exception Unit × WsTransport) : GoesOn result.2 (finish env result) := by
  rcases result with ⟨(e | ⟨⟨⟩⟩), t⟩
  · exact (handleError_goesOn e).trans disconnect_goesOn
  · exact .refl t

theorem finish_error (env : Environment) (closed : t.state = .disconnected) (e : Exception) :
    t.log.length < (finish env (.error e, t)).log.length := by
  have answered : GoesOn t (t.handleError env e) := handleError_goesOn e
  have state : (t.handleError env e).state = .disconnected := (handleError_state e).trans closed
  have told : (finish env (.error e, t)).log = (t.handleError env e).log ++ [.stateChange .failed] := by
    rw [finish, disconnect, state, if_neg (by decide), changeState, state, if_neg (by decide)]
  have grown := answered.length_le
  rw [told, List.length_append, List.length_singleton]
  omega

/-! ### `recvFrame` behind the CLOSE -/

structure Unheard (t : WsTransport) (frame : Frame) (next : WsTransport) : Prop where
  log : next.log = t.log
  state : next.state = t.state
  limit : next.mMaxMessageSize = t.mMaxMessageSize
  buffer : next.mBuffer = t.mBuffer
  pending : next.mPartial = collected t.mMaxMessageSize t.mPartial frame

theorem close_closed (closed : t.state = .disconnected) : t.close env = t := by
  rw [close, if_pos]
  rw [closed]
  decide

theorem recvFrame_harmless (env : Environment) (closed : t.state = .disconnected) {frame : Frame}
    (harmless : Harmless t.mPartial frame) :
    ∃ next, t.recvFrame env frame = (.ok (), next) ∧ Unheard t frame next := by
  unfold recvFrame Harmless at *
  cases opcode : frame.opcode with
  | textFrame =>
    simp only [opcode] at harmless
    refine ⟨_, rfl, ?_⟩
    constructor <;> simp [recvData, harmless, collected, opcode]
  | binaryFrame =>
    simp only [opcode] at harmless
    refine ⟨_, rfl, ?_⟩
    constructor <;> simp [recvData, harmless, collected, opcode]
  | continuation =>
    simp only [opcode] at harmless
    refine ⟨_, rfl, ?_⟩
    constructor <;> simp [recvContinuation, harmless, collected, opcode]
  | ping => simp only [opcode] at harmless
  | pong =>
    refine ⟨_, rfl, ?_⟩
    constructor <;> simp [collected, opcode]
  | close =>
    have same : (t.close env).changeState .disconnected = t := by
      rw [close_closed closed, changeState, if_pos closed]
    refine ⟨t, ?_, ?_⟩
    · simp only [same]
    · constructor <;> simp [collected, opcode]
  | other code =>
    refine ⟨t, ?_, ?_⟩
    · simp only [close_closed closed]
    · constructor <;> simp [collected, opcode]

theorem recvData_harmful {frame : Frame} (harmful : ¬(t.mPartial = [] ∧ frame.fin = false)) :
    t.log.length < (t.recvData frame).log.length := by
  unfold recvData
  by_cases pending : t.mPartial = []
  · have fin : frame.fin = true := by simpa [pending] using harmful
    simp [pending, fin, recv, note]
  · cases fin : frame.fin <;> simp [pending, recv, note]

theorem recvFrame_harmful (env : Environment) (closed : t.state = .disconnected) {frame : Frame}
    (harmful : ¬Harmless t.mPartial frame) :
    (∃ next, t.recvFrame env frame = (.ok (), next) ∧ t.log.length < next.log.length) ∨
      ∃ e next, t.recvFrame env frame = (.error e, next) ∧ next.state = .disconnected ∧
        t.log.length ≤ next.log.length := by
  unfold recvFrame
  unfold Harmless at harmful
  cases opcode : frame.opcode with
  | textFrame =>
    simp only [opcode] at harmful
    exact .inl ⟨_, rfl, recvData_harmful harmful⟩
  | binaryFrame =>
    simp only [opcode] at harmful
    exact .inl ⟨_, rfl, recvData_harmful harmful⟩
  | continuation =>
    simp only [opcode] at harmful
    refine .inl ⟨_, rfl, ?_⟩
    simp [recvContinuation, harmful, recv, note]
  | ping =>
    simp only [sendFrame, outgoing]
    cases env.lower t.sends with
    | error e => exact .inr ⟨e, _, rfl, closed, Nat.le_refl _⟩
    | ok result => exact .inl ⟨_, rfl, by simp⟩
  | pong => simp only [opcode, not_true_eq_false] at harmful
  | close => simp only [opcode, not_true_eq_false] at harmful
  | other code => simp only [opcode, not_true_eq_false] at harmful

/-! ### The loop behind the CLOSE -/

theorem frameLoop_length_le (env : Environment) (rounds : Nat) (t : WsTransport) :
    t.log.length ≤ (finish env (frameLoop env rounds t)).log.length := by
  have goesOn : GoesOn t (finish env (frameLoop env rounds t)) := (frameLoop_goesOn rounds t).trans (finish_goesOn _)
  exact goesOn.length_le

theorem round_harmful (env : Environment) (rounds : Nat) {parsed : Parsed} (closed : t.state = .disconnected)
    (harmful : ¬Harmless t.mPartial parsed.frame) (found : parseFrame t.mMaxMessageSize t.mBuffer = some parsed)
    (moves : parsed.consumed ≠ 0) : t.log.length < (finish env (frameLoop env (rounds + 1) t)).log.length := by
  rw [frameLoop, found]
  simp only [if_neg moves]
  rcases recvFrame_harmful env (t := { t with mBuffer := parsed.buffer }) closed harmful with
    ⟨next, result, grown⟩ | ⟨e, next, result, state, grown⟩
  · let masked := next.maskPong parsed.frame (env.maskingKey t.sends) parsed.position
    have same : masked.log = next.log := maskPong_log _ _ _
    have later := frameLoop_length_le env rounds { masked with mBuffer := masked.mBuffer.drop parsed.consumed }
    rw [← same] at grown
    simp only [result]
    split
    · exact grown
    · exact Nat.lt_of_lt_of_le grown later
  · let masked := next.maskPong parsed.frame (env.maskingKey t.sends) parsed.position
    have same : masked.log = next.log := maskPong_log _ _ _
    have told := finish_error env (t := masked) ((maskPong_state _ _ _).trans state) e
    rw [same] at told
    simp only [result]
    exact Nat.lt_of_le_of_lt grown told

theorem round_harmless (env : Environment) (rounds : Nat) {parsed : Parsed} (closed : t.state = .disconnected)
    (harmless : Harmless t.mPartial parsed.frame) (found : parseFrame t.mMaxMessageSize t.mBuffer = some parsed)
    (moves : parsed.consumed ≠ 0) :
    ∃ handled, Unheard { t with mBuffer := parsed.buffer } parsed.frame handled ∧
      frameLoop env (rounds + 1) t =
        if parsed.buffer.length < parsed.consumed then
          (.ok (), { handled with mIgnoreLength := parsed.consumed - parsed.buffer.length, mBuffer := [] })
        else frameLoop env rounds { handled with mBuffer := parsed.buffer.drop parsed.consumed } := by
  obtain ⟨handled, result, unheard⟩ :=
    recvFrame_harmless env (t := { t with mBuffer := parsed.buffer }) closed harmless
  have noPing : parsed.frame.opcode ≠ .ping := by
    intro ping
    simp [Harmless, ping] at harmless
  have unmasked : handled.maskPong parsed.frame (env.maskingKey t.sends) parsed.position = handled :=
    if_neg fun both => noPing both.1
  have buffer : handled.mBuffer = parsed.buffer := unheard.buffer
  refine ⟨handled, unheard, ?_⟩
  rw [frameLoop, found]
  simp only [if_neg moves, result, unmasked, buffer]

theorem frameLoop_log_iff (rounds : Nat) (t : WsTransport) (enough : t.mBuffer.length < rounds)
    (closed : t.state = .disconnected) :
    (finish env (frameLoop env rounds t)).log = t.log ↔ Silent t.mMaxMessageSize t.mPartial t.mBuffer := by
  induction rounds generalizing t with
  | zero => exact absurd enough (Nat.not_lt_zero _)
  | succ rounds ih =>
    cases found : parseFrame t.mMaxMessageSize t.mBuffer with
    | none =>
      rw [frameLoop, found]
      exact ⟨fun _ => .incomplete found, fun _ => rfl⟩
    | some parsed =>
      by_cases zero : parsed.consumed = 0
      · rw [frameLoop, found]
        simp only [if_pos zero]
        exact ⟨fun _ => .stuck found zero, fun _ => rfl⟩
      · rw [silent_frame_iff found zero]
        have size := (parseFrame_inside found).2
        by_cases harmless : Harmless t.mPartial parsed.frame
        · obtain ⟨handled, unheard, same⟩ := round_harmless env rounds closed harmless found zero
          rw [same]
          by_cases short : parsed.buffer.length < parsed.consumed
          · have ended : Silent t.mMaxMessageSize (collected t.mMaxMessageSize t.mPartial parsed.frame)
                (parsed.buffer.drop parsed.consumed) := by
              rw [List.drop_of_length_le (Nat.le_of_lt short)]
              exact .incomplete rfl
            simp only [if_pos short]
            exact ⟨fun _ => ⟨harmless, ended⟩, fun _ => unheard.log⟩
          · have rest := ih { handled with mBuffer := parsed.buffer.drop parsed.consumed }
              (by rw [List.length_drop]; omega) (unheard.state.trans closed)
            have log : handled.log = t.log := unheard.log
            have limit : handled.mMaxMessageSize = t.mMaxMessageSize := unheard.limit
            have pending : handled.mPartial = collected t.mMaxMessageSize t.mPartial parsed.frame := unheard.pending
            simp only [if_neg short]
            rw [← log, ← pending, ← limit, rest]
            exact ⟨fun silent => ⟨harmless, silent⟩, And.right⟩
        · have grown := round_harmful env rounds closed harmless found zero
          constructor
          · intro same
            rw [same] at grown
            exact absurd grown (Nat.lt_irrefl _)
          · intro silent
            exact absurd silent.1 harmless

/-! ### From the CLOSE to the end of the stream -/

theorem changeState_state (s : State) : (t.changeState s).state = s := by
  unfold changeState
  split
  · rename_i same
    exact same
  · rfl

theorem changeState_buffer (s : State) : (t.changeState s).mBuffer = t.mBuffer := by
  unfold changeState
  split <;> rfl

theorem sendFrame_buffer (frame : Frame) : (t.sendFrame env frame).2.mBuffer = t.mBuffer := by
  unfold sendFrame outgoing
  split <;> rfl

theorem close_buffer : (t.close env).mBuffer = t.mBuffer := by
  have sent : (sendFrame env { t with mCloseSent := true }
      { opcode := .close, payload := [], mask := t.mIsClient }).2.mBuffer = t.mBuffer := sendFrame_buffer _
  unfold close
  split
  · rfl
  · split
    · rfl
    · split
      · rename_i e next result
        rw [changeState_buffer, ← sent, result]
      · rename_i answer next result
        rw [← sent, result]
        rfl

theorem recvFrame_buffer (frame : Frame) : (t.recvFrame env frame).2.mBuffer = t.mBuffer := by
  unfold recvFrame
  split
  · exact (recvData_kept t frame).buffer
  · exact (recvData_kept t frame).buffer
  · exact (recvContinuation_kept t frame).buffer
  · exact sendFrame_buffer _
  · rfl
  · exact (changeState_buffer _).trans close_buffer
  · exact close_buffer

theorem maskPong_length {frame : Frame} {position : Nat} (key : Bytes)
    (inside : position + frame.payload.length ≤ t.mBuffer.length) :
    (t.maskPong frame key position).mBuffer.length = t.mBuffer.length := by
  unfold maskPong
  split
  · exact overwrite_length (by rw [applyMask_length]; exact inside)
  · rfl

theorem round_frameLoop (round : Round env t next) (rounds : Nat) :
    frameLoop env (rounds + 1) t = frameLoop env rounds next ∧ next.mBuffer.length < t.mBuffer.length := by
  cases round with
  | @goOn parsed handled found moves result enough =>
    refine ⟨?_, ?_⟩
    · rw [frameLoop, found]
      simp only [if_neg moves, result, if_neg (Nat.not_lt.mpr enough)]
    · have kept : handled.mBuffer = parsed.buffer := by
        have buffer : ({ t with mBuffer := parsed.buffer }.recvFrame env parsed.frame).2.mBuffer = parsed.buffer :=
          recvFrame_buffer parsed.frame
        rw [result] at buffer
        exact buffer
      obtain ⟨inside, size⟩ := parseFrame_inside found
      have masked : (handled.maskPong parsed.frame (env.maskingKey t.sends) parsed.position).mBuffer.length =
          t.mBuffer.length := by
        rw [maskPong_length _ (by rw [kept, size]; exact inside), kept, size]
      rw [List.length_drop]
      omega

/-- Where the loop stands when the CLOSE was handled: it goes on from there, or ends in the payload of the frame. -/
theorem HandlesClose.frameLoop_eq {closed : WsTransport} (handles : HandlesClose env t closed) (rounds : Nat)
    (enough : t.mBuffer.length < rounds) :
    closed.state = .disconnected ∧
      ((∃ left, closed.mBuffer.length < left ∧ frameLoop env rounds t = frameLoop env left closed) ∨
        closed.mBuffer = [] ∧ ∃ length,
            frameLoop env rounds t = (.ok (), { closed with mIgnoreLength := length })) := by
  induction handles generalizing rounds with
  | @now t parsed found moves close =>
    obtain ⟨rounds, rfl⟩ : ∃ left, rounds = left + 1 := ⟨rounds - 1, by omega⟩
    let told := ({ t with mBuffer := parsed.buffer }.close env).changeState .disconnected
    have result : { t with mBuffer := parsed.buffer }.recvFrame env parsed.frame = (.ok (), told) := by
      simp only [recvFrame, close, told]
    have buffer : told.mBuffer = parsed.buffer := (changeState_buffer _).trans close_buffer
    have unmasked : told.maskPong parsed.frame (env.maskingKey t.sends) parsed.position = told :=
      if_neg fun both => absurd (close.symm.trans both.1) (by decide)
    have size := (parseFrame_inside found).2
    rw [result]
    refine ⟨changeState_state _, ?_⟩
    rw [frameLoop, found]
    simp only [if_neg moves, result, unmasked, buffer]
    by_cases short : parsed.buffer.length < parsed.consumed
    · have none : parsed.buffer.drop parsed.consumed = [] := List.drop_of_length_le (Nat.le_of_lt short)
      simp only [if_pos short, none]
      exact .inr ⟨trivial, _, rfl⟩
    · simp only [if_neg short]
      exact .inl ⟨rounds, by rw [List.length_drop]; omega, rfl⟩
  | later round _ ih =>
    obtain ⟨rounds, rfl⟩ : ∃ left, rounds = left + 1 := ⟨rounds - 1, by omega⟩
    obtain ⟨same, shorter⟩ := round_frameLoop round rounds
    rw [same]
    exact ih rounds (by omega)

theorem foldl_feed_closed (chunks : List Bytes) (closed : t.state = .disconnected ∨ t.state = .failed) :
    chunks.foldl (feed env) t = t := by
  have dropped : ∀ chunk, feed env t chunk = t := by
    intro chunk
    rw [feed, incoming, if_pos]
    rcases closed with state | state <;> simp [state]
  induction chunks with
  | nil => rfl
  | cons chunk chunks ih =>
    rw [List.foldl_cons, dropped chunk]
    exact ih

theorem feed_eq_finish {chunk : Bytes} (connected : t.state = .connected) (full : chunk ≠ [])
    (start : (push t chunk).skipIgnored.mIgnoreLength = 0) :
    feed env t chunk = finish env
      (frameLoop env ((push t chunk).skipIgnored.mBuffer.length + 1) (push t chunk).skipIgnored) := by
  have frames : (push t chunk).processFrames env =
      frameLoop env ((push t chunk).skipIgnored.mBuffer.length + 1) (push t chunk).skipIgnored := if_pos start
  rw [feed, incoming_open t chunk full connected, frames]
  rcases frameLoop env _ _ with ⟨(e | ⟨⟨⟩⟩), next⟩ <;> rfl

/-- Once a CLOSE frame was handled, the rest of the stream leaves the log as it is, so that nothing is passed up, sent
or changed for it, exactly when the frames behind the CLOSE in its chunk do nothing. -/
theorem afterClose_iff {closed : WsTransport} {chunks : List Bytes} (closes : Closes env t chunks closed) :
    (chunks.foldl (feed env) t).log = closed.log ↔
      Silent closed.mMaxMessageSize closed.mPartial closed.mBuffer := by
  induction closes with
  | @now t closed chunk chunks connected full start handles =>
    obtain ⟨state, ends⟩ := handles.frameLoop_eq _ (Nat.lt_succ_self _)
    have fed : feed env t chunk = finish env _ := feed_eq_finish connected full start
    rw [List.foldl_cons]
    rcases ends with ⟨left, enough, same⟩ | ⟨none, length, same⟩
    · rw [same] at fed
      have goesOn : GoesOn closed (feed env t chunk) := by
        rw [fed]
        exact (frameLoop_goesOn left closed).trans (finish_goesOn _)
      rw [foldl_feed_closed chunks (goesOn.closed (.inl state)), fed]
      exact frameLoop_log_iff left closed enough state
    · rw [same] at fed
      have shut : (feed env t chunk).state = .disconnected := by
        rw [fed]
        exact state
      rw [foldl_feed_closed chunks (.inl shut), fed, none]
      exact ⟨fun _ => .incomplete rfl, fun _ => rfl⟩
  | later _ ih => exact ih

end

/-! ### Frames in the chunk of the CLOSE -/

/-- A CLOSE with a PONG behind it, and a text in a chunk of its own. -/
def closePong : List Bytes := [[0x88, 0, 0x8A, 0], [0x81, 1, 65]]

def closeText : List Bytes := [[0x88, 0, 0x81, 1, 65]]

/-- Neither the PONG nor the text is heard. -/
theorem afterClose_pong :
    ∃ closed, Closes (accepting sampleKey) openClient closePong closed ∧
      (closePong.foldl (feed (accepting sampleKey)) openClient).log = closed.log := by
  have closes : Closes (accepting sampleKey) openClient closePong _ :=
    .now rfl (by decide) rfl (.now rfl (by decide) rfl)
  exact ⟨_, closes, (afterClose_iff closes).mpr (.frame rfl (by decide) trivial (.incomplete rfl))⟩

/-- The text is passed up. -/
theorem afterClose_text :
    ∃ closed, Closes (accepting sampleKey) openClient closeText closed ∧
      (closeText.foldl (feed (accepting sampleKey)) openClient).log =
        closed.log ++ [.recv (some ⟨[65], .string⟩)] ∧
      (closeText.foldl (feed (accepting sampleKey)) openClient).log ≠ closed.log := by
  have closes : Closes (accepting sampleKey) openClient closeText _ :=
    .now rfl (by decide) rfl (.now rfl (by decide) rfl)
  exact ⟨_, closes, by decide +kernel, by decide +kernel⟩

end WebsocketClient.AfterCloses
