import WebsocketClient.WsMessages
import WebsocketClient.Library.Chunks

/-! The way the received stream is cut into chunks does not matter. `settle` is what a chunk
does after its bytes were appended to `mBuffer`; consuming a frame is the same as ignoring
its bytes, and this makes one equation of the two ends of the frame loop. -/

namespace WebsocketClient.WsChunks
open ByteString Messages Frames Handshake Transports WsTransports WsTransport WsMessages

def Quiet (env : Environment) : Prop := ∀ n, ∃ result, env.lower n = .ok result

section
variable {env : Environment}

theorem close_eq (quiet : Quiet env) (t : WsTransport) :
    t.close env = if t.state ≠ .connected ∨ t.mCloseSent then t
      else { t with
        mCloseSent := true
        sends := t.sends + 1
        log := t.log ++ [.outgoing (.frame { opcode := .close, payload := [], mask := t.mIsClient }
          (env.maskingKey t.sends)), .scheduleClose] } := by
  obtain ⟨result, answer⟩ := quiet t.sends
  unfold close
  by_cases opened : t.state = .connected
  · by_cases sent : t.mCloseSent = true
    · simp only [opened, sent, ne_eq, not_true_eq_false, ↓reduceIte, or_true]
    · simp only [opened, sent, ne_eq, not_true_eq_false, ↓reduceIte, or_self, sendFrame, outgoing,
        answer, note, List.append_assoc, List.cons_append, List.nil_append, Bool.false_eq_true]
  · simp only [opened, ne_eq, not_false_eq_true, ↓reduceIte, true_or]

/-- The state after `recvFrame`. -/
def handled (env : Environment) (t : WsTransport) (frame : Frame) : WsTransport :=
  (t.recvFrame env frame).2

theorem recvFrame_ok (quiet : Quiet env) (t : WsTransport) (frame : Frame) :
    t.recvFrame env frame = (.ok (), handled env t frame) := by
  have result : (t.recvFrame env frame).1 = .ok () := by
    unfold recvFrame
    cases frame.opcode with
    | ping =>
      obtain ⟨result, answer⟩ := quiet t.sends
      simp only [sendFrame, outgoing, answer, Except.map]
    | _ => rfl
  rw [handled, ← result]

/-- What `recvFrame` leaves alone. -/
structure Kept (t next : WsTransport) : Prop where
  buffer : next.mBuffer = t.mBuffer
  ignore : next.mIgnoreLength = t.mIgnoreLength
  limit : next.mMaxMessageSize = t.mMaxMessageSize
  client : next.mIsClient = t.mIsClient
  state : next.state = t.state

theorem recvData_kept (t : WsTransport) (frame : Frame) : Kept t (t.recvData frame) := by
  unfold recvData recv note
  by_cases pending : t.mPartial = [] <;> cases frame.fin <;> simp only [pending, ↓reduceIte] <;>
    constructor <;> rfl

theorem recvContinuation_kept (t : WsTransport) (frame : Frame) :
    Kept t (t.recvContinuation frame) := by
  unfold recvContinuation recv note
  cases frame.fin <;> constructor <;> rfl

theorem close_kept (quiet : Quiet env) (t : WsTransport) : Kept t (t.close env) := by
  rw [close_eq quiet]
  split_ifs <;> constructor <;> rfl

theorem handled_kept (quiet : Quiet env) (t : WsTransport) (frame : Frame)
    (noClose : frame.opcode ≠ .close) : Kept t (handled env t frame) := by
  unfold handled recvFrame
  cases opcode : frame.opcode with
  | textFrame => exact recvData_kept t frame
  | binaryFrame => exact recvData_kept t frame
  | continuation => exact recvContinuation_kept t frame
  | ping =>
    obtain ⟨result, answer⟩ := quiet t.sends
    simp only [sendFrame, outgoing, answer]
    constructor <;> rfl
  | pong => constructor <;> rfl
  | close => exact absurd opcode noClose
  | other code => exact close_kept quiet t

theorem handled_rebuffer (quiet : Quiet env) (t : WsTransport) (frame : Frame) (buffer : Bytes)
    (ignore : Nat) :
    handled env { t with mBuffer := buffer, mIgnoreLength := ignore } frame =
      { handled env t frame with mBuffer := buffer, mIgnoreLength := ignore } := by
  unfold handled recvFrame
  cases frame.opcode with
  | textFrame =>
    simp only [recvData, recv, note]
    split_ifs <;> rfl
  | binaryFrame =>
    simp only [recvData, recv, note]
    split_ifs <;> rfl
  | continuation =>
    simp only [recvContinuation, recv, note]
    split_ifs <;> rfl
  | ping =>
    obtain ⟨result, answer⟩ := quiet t.sends
    simp only [sendFrame, outgoing, answer]
  | pong => rfl
  | close =>
    simp only [close_eq quiet, changeState]
    split_ifs <;> rfl
  | other code =>
    simp only [close_eq quiet]
    split_ifs <;> rfl

theorem handled_buffer (quiet : Quiet env) (t : WsTransport) (frame : Frame) (buffer : Bytes) :
    handled env { t with mBuffer := buffer } frame =
      { handled env t frame with mBuffer := buffer } := by
  have same := handled_rebuffer quiet t frame t.mBuffer t.mIgnoreLength
  have ignore := congrArg mIgnoreLength same
  change (handled env t frame).mIgnoreLength = t.mIgnoreLength at ignore
  apply (handled_rebuffer quiet t frame buffer t.mIgnoreLength).trans
  rw [← ignore]

/-! ### One round of the frame loop -/

/-- A stream of frames without a CLOSE, where every length has its top bit clear. It may end
inside a frame. -/
inductive CloseFree (limit : Nat) : Bytes → Prop where
  | partialFrame {stream : Bytes} : (∀ h, ¬Complete limit stream h) → CloseFree limit stream
  | frame {stream : Bytes} {h : Header} : Complete limit stream h → h.opcode ≠ .close →
      h.length < 2 ^ 63 → CloseFree limit (stream.drop (h.size + h.length)) → CloseFree limit stream

theorem CloseFree.next {limit : Nat} {stream : Bytes} {h : Header} (free : CloseFree limit stream)
    (complete : Complete limit stream h) :
    h.opcode ≠ .close ∧ h.length < 2 ^ 63 ∧ CloseFree limit (stream.drop (h.size + h.length)) := by
  cases free with
  | partialFrame none => exact absurd complete (none h)
  | frame whole noClose small rest =>
    rw [complete.unique whole]
    exact ⟨noClose, small, rest⟩

theorem CloseFree.initial {limit : Nat} {stream : Bytes} (free : CloseFree limit stream) :
    ∀ first later, stream = first ++ later → CloseFree limit first := by
  induction free with
  | partialFrame none =>
    intro first later same
    refine .partialFrame (fun h complete => none h ?_)
    rw [same]
    exact complete.append later
  | @frame stream h complete noClose small _ ih =>
    intro first later same
    by_cases found : ∃ other, Complete limit first other
    · obtain ⟨other, whole⟩ := found
      have header : other = h := (whole.append later).unique (same ▸ complete)
      subst header
      refine .frame whole noClose small (ih _ (later.drop (other.size + other.length - first.length)) ?_)
      rw [same, List.drop_append]
    · exact .partialFrame (fun other whole => found ⟨other, whole⟩)

/-- The round that a complete frame makes. Masking a PONG in place leaves no trace, because
the bytes written are the ones that are erased next. -/
theorem frameLoop_round (quiet : Quiet env) (t : WsTransport) (h : Header) (rounds : Nat)
    (complete : Complete t.mMaxMessageSize t.mBuffer h) (small : h.length < 2 ^ 63) :
    frameLoop env (rounds + 1) t =
      let next := handled env t (h.frame t.mMaxMessageSize t.mBuffer)
      let consumed := h.size + h.length
      if t.mBuffer.length < consumed then
        (.ok (), { next with mBuffer := [], mIgnoreLength := consumed - t.mBuffer.length })
      else frameLoop env rounds { next with mBuffer := t.mBuffer.drop consumed } := by
  have sizes := parseHeader_size complete.1
  have payload := complete.payload_length
  have shorter : min h.length (maxFrameLength t.mMaxMessageSize) ≤ h.length := Nat.min_le_left _ _
  have inside : h.size + (h.payload t.mMaxMessageSize t.mBuffer).length ≤ t.mBuffer.length := by
    have enough := complete.2
    omega
  have positive : h.size + h.length ≠ 0 := by omega
  generalize frameDef : h.frame t.mMaxMessageSize t.mBuffer = frame
  have keep : frame.payload = h.payload t.mMaxMessageSize t.mBuffer := by rw [← frameDef, Header.frame]
  generalize overwritten : overwrite t.mBuffer h.size (h.payload t.mMaxMessageSize t.mBuffer) = unmasked
  have length : unmasked.length = t.mBuffer.length := by rw [← overwritten, overwrite_length inside]
  have behind : unmasked.drop (h.size + h.length) = t.mBuffer.drop (h.size + h.length) := by
    rw [← overwritten]
    exact overwrite_drop inside (by omega)
  obtain ⟨masked, maskEq, maskLength, maskBehind⟩ :
      ∃ masked : Bytes, (handled env { t with mBuffer := unmasked } frame).maskPong frame
          (env.maskingKey t.sends) h.size = { handled env t frame with mBuffer := masked } ∧
        masked.length = t.mBuffer.length ∧
        masked.drop (h.size + h.length) = t.mBuffer.drop (h.size + h.length) := by
    rw [handled_buffer quiet, maskPong]
    split_ifs
    · have room : h.size + (applyMask (env.maskingKey t.sends).val frame.payload).length ≤
          unmasked.length := by
        rw [applyMask_length, keep]
        omega
      refine ⟨_, rfl, ?_, ?_⟩
      · rw [overwrite_length room, length]
      · rw [overwrite_drop room (by rw [applyMask_length, keep]; omega), behind]
    · exact ⟨unmasked, rfl, length, behind⟩
  rw [frameLoop, complete.parseFrame_eq small]
  simp only [frameDef, overwritten, if_neg positive, recvFrame_ok quiet, maskEq, maskLength, maskBehind]

theorem frameLoop_stop (t : WsTransport) (rounds : Nat)
    (waiting : ∀ h, ¬Complete t.mMaxMessageSize t.mBuffer h) :
    frameLoop env rounds t = (.ok (), t) := by
  cases rounds with
  | zero => rfl
  | succ rounds =>
    rw [frameLoop, (parseFrame_none_iff t.mMaxMessageSize t.mBuffer).mpr waiting]

theorem frameLoop_rounds (quiet : Quiet env) (rounds : Nat) :
    ∀ (more : Nat) (t : WsTransport), CloseFree t.mMaxMessageSize t.mBuffer →
      t.mBuffer.length < rounds → t.mBuffer.length < more →
      frameLoop env rounds t = frameLoop env more t ∧ (frameLoop env rounds t).1 = .ok () := by
  induction rounds with
  | zero =>
    intro more t free enough
    omega
  | succ rounds ih =>
    intro more t free enough enough'
    cases free with
    | partialFrame waiting =>
      rw [frameLoop_stop t _ waiting, frameLoop_stop t _ waiting]
      exact ⟨rfl, rfl⟩
    | @frame _ h complete noClose small rest =>
      have sizes := parseHeader_size complete.1
      obtain ⟨more, rfl⟩ : ∃ fewer, more = fewer + 1 := ⟨more - 1, by omega⟩
      rw [frameLoop_round quiet t h rounds complete small, frameLoop_round quiet t h more complete small]
      by_cases oversized : t.mBuffer.length < h.size + h.length
      · simp only [if_pos oversized, and_self]
      · simp only [if_neg oversized]
        have kept := handled_kept quiet t (h.frame t.mMaxMessageSize t.mBuffer) noClose
        refine ih more _ ?_ ?_ ?_
        · rw [← kept.limit] at rest
          exact rest
        · simp only [List.length_drop]
          omega
        · simp only [List.length_drop]
          omega

/-! ### What a chunk does behind the bytes in the buffer -/

def settle (env : Environment) (t : WsTransport) : WsTransport := (t.processFrames env).2

def push (t : WsTransport) (bytes : Bytes) : WsTransport := { t with mBuffer := t.mBuffer ++ bytes }

theorem skipIgnored_eq (t : WsTransport) :
    t.skipIgnored = { t with
      mBuffer := t.mBuffer.drop t.mIgnoreLength
      mIgnoreLength := t.mIgnoreLength - t.mBuffer.length } := by
  have dropped : t.mBuffer.drop (min t.mIgnoreLength t.mBuffer.length) =
      t.mBuffer.drop t.mIgnoreLength := by
    rcases Nat.le_total t.mIgnoreLength t.mBuffer.length with le | ge
    · rw [Nat.min_eq_left le]
    · rw [Nat.min_eq_right ge, List.drop_length, List.drop_of_length_le ge]
  have left : t.mIgnoreLength - min t.mIgnoreLength t.mBuffer.length =
      t.mIgnoreLength - t.mBuffer.length := by omega
  rw [skipIgnored]
  simp only [dropped, left]

theorem drop_drop_append (buffer bytes : Bytes) (count : Nat) :
    (buffer.drop count ++ bytes).drop (count - buffer.length) = (buffer ++ bytes).drop count := by
  rw [List.drop_append, List.drop_append, List.drop_drop, List.length_drop]
  congr 1
  · rcases Nat.le_total count buffer.length with le | ge
    · rw [Nat.sub_eq_zero_of_le le, Nat.add_zero]
    · rw [List.drop_of_length_le ge, List.drop_of_length_le (by omega)]
  · congr 1
    omega

theorem skipIgnored_push (t : WsTransport) (bytes : Bytes) :
    (push t.skipIgnored bytes).skipIgnored = (push t bytes).skipIgnored := by
  have left : t.mIgnoreLength - t.mBuffer.length - (t.mBuffer.length - t.mIgnoreLength + bytes.length) =
      t.mIgnoreLength - (t.mBuffer.length + bytes.length) := by omega
  simp only [skipIgnored_eq, push, List.length_append, List.length_drop, drop_drop_append, left]

theorem skipIgnored_idempotent (t : WsTransport) : t.skipIgnored.skipIgnored = t.skipIgnored := by
  have again := skipIgnored_push t []
  simp only [push, List.append_nil] at again
  exact again

theorem settle_skipIgnored (t : WsTransport) : settle env t.skipIgnored = settle env t := by
  unfold settle processFrames
  rw [skipIgnored_idempotent]

theorem settle_push_skipIgnored (t : WsTransport) (bytes : Bytes) :
    settle env (push t.skipIgnored bytes) = settle env (push t bytes) := by
  rw [← settle_skipIgnored, skipIgnored_push, settle_skipIgnored]

theorem settle_ignoring (t : WsTransport) (ignoring : t.skipIgnored.mIgnoreLength ≠ 0) :
    settle env t = t.skipIgnored := by
  unfold settle processFrames
  simp only [if_neg ignoring]

theorem settle_waiting (t : WsTransport) (start : t.mIgnoreLength = 0)
    (waiting : ∀ h, ¬Complete t.mMaxMessageSize t.mBuffer h) : settle env t = t := by
  have skipped : t.skipIgnored = t := by
    rw [skipIgnored_eq, start, List.drop_zero, Nat.zero_sub, ← start]
  unfold settle processFrames
  simp only [skipped, if_pos start, frameLoop_stop t _ waiting]

/-- A frame is handled, and its bytes are ignored. -/
def consume (env : Environment) (t : WsTransport) (h : Header) : WsTransport :=
  { handled env t (h.frame t.mMaxMessageSize t.mBuffer) with
    mBuffer := t.mBuffer
    mIgnoreLength := h.size + h.length }

theorem settle_frame (quiet : Quiet env) (t : WsTransport) (h : Header)
    (start : t.mIgnoreLength = 0) (complete : Complete t.mMaxMessageSize t.mBuffer h)
    (noClose : h.opcode ≠ .close) (small : h.length < 2 ^ 63)
    (rest : CloseFree t.mMaxMessageSize (t.mBuffer.drop (h.size + h.length))) :
    settle env t = settle env (consume env t h) := by
  have sizes := parseHeader_size complete.1
  have kept := handled_kept quiet t (h.frame t.mMaxMessageSize t.mBuffer) noClose
  have skipped : t.skipIgnored = t := by
    rw [skipIgnored_eq, start, List.drop_zero, Nat.zero_sub, ← start]
  unfold settle processFrames
  simp only [skipped, if_pos start, frameLoop_round quiet t h _ complete small, skipIgnored_eq, consume]
  by_cases oversized : t.mBuffer.length < h.size + h.length
  · have left : h.size + h.length - t.mBuffer.length ≠ 0 := by omega
    simp only [if_pos oversized, if_neg left, List.drop_of_length_le (Nat.le_of_lt oversized)]
  · have left : h.size + h.length - t.mBuffer.length = 0 := by omega
    have ignore := kept.ignore
    rw [start] at ignore
    simp only [if_neg oversized, left, ↓reduceIte]
    generalize handled env t (h.frame t.mMaxMessageSize t.mBuffer) = next at kept ignore ⊢
    rw [← kept.limit] at rest
    have same : { next with mBuffer := t.mBuffer.drop (h.size + h.length), mIgnoreLength := 0 } =
        { next with mBuffer := t.mBuffer.drop (h.size + h.length) } := by rw [← ignore]
    rw [same, (frameLoop_rounds quiet t.mBuffer.length ((t.mBuffer.drop (h.size + h.length)).length + 1)
      { next with mBuffer := t.mBuffer.drop (h.size + h.length) } rest ?_ ?_).1]
    · simp only [List.length_drop]
      omega
    · exact Nat.lt_succ_self _

theorem consume_push (quiet : Quiet env) (t : WsTransport) (h : Header) (bytes : Bytes)
    (complete : Complete t.mMaxMessageSize t.mBuffer h) :
    consume env (push t bytes) h = push (consume env t h) bytes := by
  simp only [consume, push, Header.frame, complete.payload_append]
  rw [handled_buffer quiet]

/-- The induction that `settle` runs through: every frame turns its bytes into bytes to
ignore, so that fewer bytes are left to be read. -/
theorem settle_induction (env : Environment) {motive : WsTransport → Prop}
    (skip : ∀ t, motive t.skipIgnored → motive t)
    (ignoring : ∀ t, t.skipIgnored = t → t.mIgnoreLength ≠ 0 → motive t)
    (waiting : ∀ t, t.mIgnoreLength = 0 → (∀ h, ¬Complete t.mMaxMessageSize t.mBuffer h) → motive t)
    (frame : ∀ t h, t.mIgnoreLength = 0 → Complete t.mMaxMessageSize t.mBuffer h →
      motive (consume env t h) → motive t) :
    ∀ t, motive t := by
  have below : ∀ (measure : Nat) (t : WsTransport),
      t.mBuffer.length - t.mIgnoreLength < measure → motive t := by
    intro measure
    induction measure with
    | zero =>
      intro t impossible
      omega
    | succ measure ih =>
      intro t bound
      apply skip
      have size : t.skipIgnored.mBuffer.length = t.mBuffer.length - t.mIgnoreLength := by
        simp only [skipIgnored_eq, List.length_drop]
      rw [← size] at bound
      by_cases start : t.skipIgnored.mIgnoreLength = 0
      · by_cases found : ∃ h, Complete t.skipIgnored.mMaxMessageSize t.skipIgnored.mBuffer h
        · obtain ⟨h, complete⟩ := found
          have sizes := parseHeader_size complete.1
          refine frame _ h start complete (ih _ ?_)
          simp only [consume]
          omega
        · exact waiting _ start (fun h complete => found ⟨h, complete⟩)
      · exact ignoring _ (skipIgnored_idempotent t) start
  intro t
  exact below _ t (Nat.lt_succ_self _)

/-- A settled transport goes on like one that has waited for all bytes. -/
structure Resumes (env : Environment) (t settled : WsTransport) (bytes : Bytes) : Prop where
  same : settle env (push settled bytes) = settle env (push t bytes)
  state : settled.state = t.state
  free : CloseFree settled.mMaxMessageSize ((settled.mBuffer ++ bytes).drop settled.mIgnoreLength)

theorem settle_resumes (quiet : Quiet env) (bytes : Bytes) (t : WsTransport) :
    CloseFree t.mMaxMessageSize ((t.mBuffer ++ bytes).drop t.mIgnoreLength) →
      Resumes env t (settle env t) bytes := by
  induction t using settle_induction env with
  | skip t ih =>
    intro free
    have stream : (t.skipIgnored.mBuffer ++ bytes).drop t.skipIgnored.mIgnoreLength =
        (t.mBuffer ++ bytes).drop t.mIgnoreLength := by
      simp only [skipIgnored_eq, drop_drop_append]
    rw [← stream] at free
    have later := ih free
    rw [settle_skipIgnored] at later
    exact ⟨later.same.trans (settle_push_skipIgnored t bytes), later.state, later.free⟩
  | ignoring t skipped start =>
    intro free
    rw [settle_ignoring t (by rw [skipped]; exact start), skipped]
    exact ⟨rfl, rfl, free⟩
  | waiting t start waiting =>
    intro free
    rw [settle_waiting t start waiting]
    exact ⟨rfl, rfl, free⟩
  | frame t h start complete ih =>
    intro free
    rw [start, List.drop_zero] at free
    obtain ⟨noClose, small, rest⟩ := free.next (complete.append bytes)
    have kept := handled_kept quiet t (h.frame t.mMaxMessageSize t.mBuffer) noClose
    have before : CloseFree t.mMaxMessageSize (t.mBuffer.drop (h.size + h.length)) := by
      apply rest.initial _ (bytes.drop (h.size + h.length - t.mBuffer.length))
      rw [List.drop_append]
    have together := settle_frame quiet (push t bytes) h start (complete.append bytes) noClose small rest
    rw [consume_push quiet t h bytes complete] at together
    rw [← kept.limit] at rest
    have later := ih rest
    rw [settle_frame quiet t h start complete noClose small before]
    exact ⟨later.same.trans together.symm, later.state.trans kept.state, later.free⟩

end

end WebsocketClient.WsChunks
