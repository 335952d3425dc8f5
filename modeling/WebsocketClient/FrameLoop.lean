import WebsocketClient.AfterClose
import WebsocketClient.FrameRoundTrip
import WebsocketClient.WsTerminal

/-! How many bytes the frame loop of `incoming` takes. The declared length of a frame is not cut, and
`parseFrame` returns it with the header as a pointer difference. -/

namespace WebsocketClient.FrameLoops
open ByteString Frames Transports WsTransports WsTransport WsMessages WsChunks WsStreams WsLogs AfterCloses
open FrameRoundTrips

variable {env : Environment} {t next : WsTransport}

/-! ### From a chunk to the loop -/

/-- A non-empty chunk is processed in state `Connected`: the transport as the frames are looked at. -/
inductive Processes (env : Environment) (t : WsTransport) (chunk : Bytes) : WsTransport → Prop where
  | opened : chunk ≠ [] → t.state = .connected → Processes env t chunk (push t chunk)
  | handshake {opened : WsTransport} : chunk ≠ [] → t.state = .connecting →
      (push t chunk).processHandshake env = (.ok (), opened) → opened.state = .connected →
      Processes env t chunk opened

theorem incoming_processes {chunk : Bytes} (processes : Processes env t chunk next) :
    t.incoming env (some chunk) = finish env (next.processFrames env) := by
  cases processes with
  | opened full connected =>
    rw [incoming_open t chunk full connected]
    rcases (push t chunk).processFrames env with ⟨(e | ⟨⟨⟩⟩), last⟩ <;> rfl
  | handshake full connecting accepted connected =>
    rw [incoming_connecting t chunk connecting, process_connecting t chunk full connecting, accepted]
    simp only [if_pos connected]
    rcases next.processFrames env with ⟨(e | ⟨⟨⟩⟩), last⟩ <;> rfl

/-! ### What is left alone -/

/-- Only the state, the counters, `mCloseSent` and the log are other than before. -/
def Aside (t : WsTransport) (effects : List Effect) (next : WsTransport) : Prop :=
  ∃ state sends closeSent pings, next = { t with
    state := state
    sends := sends
    mCloseSent := closeSent
    mOutstandingPings := pings
    log := t.log ++ effects }

def Mute (effects : List Effect) : Prop :=
  delivered effects = [] ∧ ∀ sent ∈ sentFrames effects, sent.opcode ≠ .pong

theorem Aside.refl (t : WsTransport) : Aside t [] t := ⟨_, _, _, _, by rw [List.append_nil]⟩

theorem Aside.trans {effects more : List Effect} {later : WsTransport} (first : Aside t effects next)
    (second : Aside next more later) : Aside t (effects ++ more) later := by
  obtain ⟨_, _, _, _, rfl⟩ := first
  obtain ⟨state, sends, closeSent, pings, rfl⟩ := second
  exact ⟨state, sends, closeSent, pings, by simp only [List.append_assoc]⟩

theorem Mute.append {effects more : List Effect} (first : Mute effects) (second : Mute more) :
    Mute (effects ++ more) := by
  refine ⟨by rw [delivered_append, first.1, second.1, List.append_nil], ?_⟩
  intro sent member
  rw [sentFrames_append, List.mem_append] at member
  exact member.elim (first.2 sent) (second.2 sent)

theorem mute_nil : Mute [] := ⟨rfl, fun _ member => absurd member List.not_mem_nil⟩

theorem changeState_aside (t : WsTransport) (s : State) :
    ∃ effects, Aside t effects (t.changeState s) ∧ Mute effects := by
  unfold changeState
  split
  · exact ⟨[], .refl t, mute_nil⟩
  · exact ⟨[.stateChange s], ⟨_, _, _, _, rfl⟩, rfl, by simp [sentFrames]⟩

theorem sendFrame_aside (env : Environment) (t : WsTransport) (frame : Frame) :
    ∃ effects, Aside t effects (t.sendFrame env frame).2 ∧
    delivered effects = [] ∧ ∀ sent ∈ sentFrames effects, sent = frame := by
  unfold sendFrame outgoing
  split
  · exact ⟨[], ⟨_, _, _, _, by rw [List.append_nil]⟩, rfl, by simp [sentFrames]⟩
  · exact ⟨_, ⟨_, _, _, _, rfl⟩, rfl, by simp [sentFrames]⟩

theorem close_aside (env : Environment) (t : WsTransport) :
    ∃ effects, Aside t effects (t.close env) ∧ Mute effects := by
  let sent : Frame := { opcode := .close, payload := [], mask := t.mIsClient }
  have marked : Aside t [] { t with mCloseSent := true } := ⟨_, _, _, _, by rw [List.append_nil]⟩
  obtain ⟨effects, aside, quiet, only⟩ := sendFrame_aside env { t with mCloseSent := true } sent
  have muted : Mute effects := ⟨quiet, fun frame member => by rw [only frame member]; simp [sent]⟩
  unfold close
  split
  · exact ⟨[], .refl t, mute_nil⟩
  · split
    · exact ⟨[], .refl t, mute_nil⟩
    · split
      · rename_i e after result
        rw [result] at aside
        obtain ⟨told, changed, silent⟩ := changeState_aside after .disconnected
        exact ⟨_, (marked.trans aside).trans changed, muted.append silent⟩
      · rename_i answer after result
        rw [result] at aside
        have noted : Aside after [.scheduleClose] (after.note .scheduleClose) := ⟨_, _, _, _, rfl⟩
        exact ⟨_, (marked.trans aside).trans noted, muted.append ⟨rfl, by simp [sentFrames]⟩⟩

/-- Every frame but a data frame. -/
theorem recvFrame_aside (env : Environment) (t : WsTransport) (frame : Frame)
    (control : frame.opcode ≠ .textFrame ∧ frame.opcode ≠ .binaryFrame ∧
    frame.opcode ≠ .continuation) : ∃ effects, Aside t effects (t.recvFrame env frame).2 ∧
    delivered effects = [] ∧ ∀ sent ∈ sentFrames effects, sent.opcode = .pong → sent.payload = frame.payload := by
  have mute {effects : List Effect} (muted : Mute effects) :
      delivered effects = [] ∧ ∀ sent ∈ sentFrames effects, sent.opcode = .pong → sent.payload = frame.payload :=
    ⟨muted.1, fun sent member kind => absurd kind (muted.2 sent member)⟩
  unfold recvFrame
  split
  · rename_i opcode
    exact absurd opcode control.1
  · rename_i opcode
    exact absurd opcode control.2.1
  · rename_i opcode
    exact absurd opcode control.2.2
  · obtain ⟨effects, aside, quiet, only⟩ := sendFrame_aside env t
      { opcode := .pong, payload := frame.payload, mask := t.mIsClient }
    exact ⟨effects, aside, quiet, fun sent member _ => by rw [only sent member]⟩
  · exact ⟨[], ⟨_, _, _, _, by rw [List.append_nil]⟩, mute mute_nil⟩
  · obtain ⟨effects, closed, muted⟩ := close_aside env t
    obtain ⟨told, changed, silent⟩ := changeState_aside (t.close env) .disconnected
    exact ⟨_, closed.trans changed, mute (muted.append silent)⟩
  · obtain ⟨effects, closed, muted⟩ := close_aside env t
    exact ⟨effects, closed, mute muted⟩

theorem recvFrame_data_frame (env : Environment) (t : WsTransport) (frame : Frame)
    (data : ¬(frame.opcode ≠ .textFrame ∧ frame.opcode ≠ .binaryFrame ∧ frame.opcode ≠ .continuation)) :
    (t.recvFrame env frame).2 = t.recvData frame ∨ (t.recvFrame env frame).2 = t.recvContinuation frame := by
  unfold recvFrame
  cases opcode : frame.opcode with
  | textFrame => exact .inl rfl
  | binaryFrame => exact .inl rfl
  | continuation => exact .inr rfl
  | ping | pong | close | other => exact absurd (by simp [opcode]) data

/-- The settings of the transport, and the number of bytes to ignore. -/
def settings (t : WsTransport) : Nat × Bool × Nat := (t.mMaxMessageSize, t.mIsClient, t.mIgnoreLength)

theorem Aside.settings {effects : List Effect} (aside : Aside t effects next) :
    FrameLoops.settings next = FrameLoops.settings t := by
  obtain ⟨_, _, _, _, rfl⟩ := aside
  rfl

theorem recvFrame_settings (frame : Frame) : settings (t.recvFrame env frame).2 = settings t := by
  by_cases control : frame.opcode ≠ .textFrame ∧ frame.opcode ≠ .binaryFrame ∧ frame.opcode ≠ .continuation
  · obtain ⟨effects, aside, _⟩ := recvFrame_aside env t frame control
    exact aside.settings
  · rcases recvFrame_data_frame env t frame control with data | continuation
    · rw [data]
      unfold recvData
      simp only
      split_ifs <;> rfl
    · rw [continuation]
      unfold recvContinuation
      simp only
      split_ifs <;> rfl

theorem maskPong_settings (frame : Frame) (key : Bytes) (position : Nat) :
    settings (t.maskPong frame key position) = settings t := by
  unfold maskPong
  split <;> rfl

theorem handled_buffer {parsed : Parsed} {handled : WsTransport} {result : Except Exception Unit}
    (found : parseFrame t.mMaxMessageSize t.mBuffer = some parsed)
    (call : { t with mBuffer := parsed.buffer }.recvFrame env parsed.frame = (result, handled)) (key : Bytes) :
    (handled.maskPong parsed.frame key parsed.position).mBuffer.length = t.mBuffer.length ∧
      settings (handled.maskPong parsed.frame key parsed.position) = settings t := by
  obtain ⟨inside, size⟩ := parseFrame_inside found
  have kept : handled.mBuffer = parsed.buffer := by
    have buffer : ({ t with mBuffer := parsed.buffer }.recvFrame env parsed.frame).2.mBuffer = parsed.buffer :=
      recvFrame_buffer parsed.frame
    rw [call] at buffer
    exact buffer
  have same : settings handled = settings t := by
    have settings' : settings ({ t with mBuffer := parsed.buffer }.recvFrame env parsed.frame).2 = settings t :=
      recvFrame_settings parsed.frame
    rw [call] at settings'
    exact settings'
  exact ⟨by rw [maskPong_length _ (by rw [kept, size]; exact inside), kept, size],
    (maskPong_settings _ _ _).trans same⟩

theorem round_settings (round : Round env t next) : settings next = settings t := by
  cases round with
  | goOn found moves result enough => exact (handled_buffer found result _).2

/-! ### What `parseFrame` returns -/

/-- The length that `parseFrame` has to return: that of the whole frame on the wire. -/
def wholeLength (h : Header) : Nat := h.size + h.length

theorem returned_complete {limit : Nat} {buffer : Bytes} {h : Header} (complete : Complete limit buffer h) :
    returned limit buffer = wholeLength h % 2 ^ 64 := by
  have enough : ¬buffer.length - h.size < min h.length (maxFrameLength limit) := Nat.not_lt.mpr complete.2
  simp only [returned, parseFrame, complete.1, if_neg enough, wholeLength]

theorem returned_whole_iff {limit : Nat} {buffer : Bytes} {h : Header} (complete : Complete limit buffer h) :
    (returned limit buffer = wholeLength h ∧ returned limit buffer ≠ 0 ∧
      h.size + (h.frame limit buffer).payload.length ≤ returned limit buffer) ↔ wholeLength h < 2 ^ 64 := by
  have reported : (h.frame limit buffer).payload.length = min h.length (maxFrameLength limit) :=
    complete.payload_length
  have size := (parseHeader_size complete.1).1
  rw [returned_complete complete, reported]
  constructor
  · intro ⟨whole, _, _⟩
    rw [← whole]
    exact Nat.mod_lt _ (by decide)
  · intro fits
    rw [Nat.mod_eq_of_lt fits]
    have least : min h.length (maxFrameLength limit) ≤ h.length := Nat.min_le_left _ _
    unfold wholeLength
    omega

theorem parseHeader_of_long {buffer : Bytes} (long : 14 ≤ buffer.length) : ∃ h, parseHeader buffer = some h := by
  rcases buffer with - | ⟨b1, - | ⟨b2, rest⟩⟩
  · simp at long
  · simp at long
  · have room : 12 ≤ rest.length := by simpa using long
    have read : ∃ found, parseLength (b2 &&& 0x7F).toNat rest = some found := by
      unfold parseLength
      split_ifs with two few eight few'
      · omega
      · exact ⟨_, rfl⟩
      · omega
      · exact ⟨_, rfl⟩
      · exact ⟨_, rfl⟩
    obtain ⟨⟨length, extended⟩, read⟩ := read
    have inside := (parseLength_extended read).1
    have key : ¬(rest.drop extended).length < 4 := by
      rw [List.length_drop]
      omega
    rw [parseHeader, read]
    simp only [if_neg key]
    split_ifs
    · exact ⟨_, rfl⟩
    · exact ⟨_, rfl⟩

theorem parseFrame_none_length {limit : Nat} {buffer : Bytes} (waits : parseFrame limit buffer = none) :
    buffer.length < 14 + max 125 limit := by
  rw [parseFrame_none_iff] at waits
  by_cases long : 14 ≤ buffer.length
  · obtain ⟨h, parsed⟩ := parseHeader_of_long long
    have size := (parseHeader_size parsed).2.1
    have few : buffer.length - h.size < min h.length (maxFrameLength limit) :=
      Nat.not_le.mp fun enough => waits h ⟨parsed, enough⟩
    have wide : maxFrameLength limit = max 125 limit := rfl
    omega
  · omega

/-! ### What the loop takes -/

/-- A pass of the loop that handled a frame: the next one begins, or the rest of the frame is to come. -/
inductive Iteration (env : Environment) (t : WsTransport) : WsTransport → Prop where
  | goOn {next : WsTransport} : Round env t next → Iteration env t next
  | ahead {parsed : Parsed} {handled : WsTransport} : parseFrame t.mMaxMessageSize t.mBuffer = some parsed →
      parsed.consumed ≠ 0 → { t with mBuffer := parsed.buffer }.recvFrame env parsed.frame = (.ok (), handled) →
      (handled.maskPong parsed.frame (env.maskingKey t.sends) parsed.position).mBuffer.length < parsed.consumed →
      Iteration env t { handled.maskPong parsed.frame (env.maskingKey t.sends) parsed.position with
        mIgnoreLength := parsed.consumed -
          (handled.maskPong parsed.frame (env.maskingKey t.sends) parsed.position).mBuffer.length
        mBuffer := [] }

theorem Iteration.taken (iteration : Iteration env t next) (start : t.mIgnoreLength = 0) :
    t.mBuffer.length + next.mIgnoreLength = next.mBuffer.length + returned t.mMaxMessageSize t.mBuffer := by
  cases iteration with
  | goOn round =>
    have kept : next.mIgnoreLength = 0 := (congrArg (fun s => s.2.2) (round_settings round)).trans start
    cases round with
    | @goOn parsed handled found moves result enough =>
      have size := (handled_buffer found result (env.maskingKey t.sends)).1
      rw [returned, found, kept]
      simp only [List.length_drop]
      omega
  | @ahead parsed handled found moves result beyond =>
    have size := (handled_buffer found result (env.maskingKey t.sends)).1
    rw [returned, found]
    simp only [List.length_nil]
    omega

/-- The loop comes to a state. -/
inductive Comes (env : Environment) (reached : WsTransport) : WsTransport → Prop where
  | now : Comes env reached reached
  | later {t next : WsTransport} : Round env t next → Comes env reached next → Comes env reached t

/-- The loop does not get past the next frame: its length wraps to zero, or it is a PING and the lower transport
refuses the PONG. -/
def Halts (env : Environment) (t : WsTransport) : Prop :=
  ∃ h, Complete t.mMaxMessageSize t.mBuffer h ∧
    (wholeLength h % 2 ^ 64 = 0 ∨ h.opcode = .ping ∧ ∃ e, env.lower t.sends = .error e)

theorem halts_iff {parsed : Parsed} (found : parseFrame t.mMaxMessageSize t.mBuffer = some parsed) :
    Halts env t ↔ parsed.consumed = 0 ∨ parsed.frame.opcode = .ping ∧ ∃ e, env.lower t.sends = .error e := by
  obtain ⟨h, complete, rfl⟩ := parseFrame_complete found
  constructor
  · rintro ⟨other, complete', halts⟩
    obtain rfl := Option.some.inj (complete.1.symm.trans complete'.1)
    exact halts
  · exact fun halts => ⟨h, complete, halts⟩

theorem not_halts {parsed : Parsed} {handled : WsTransport}
    (found : parseFrame t.mMaxMessageSize t.mBuffer = some parsed) (moves : parsed.consumed ≠ 0)
    (call : { t with mBuffer := parsed.buffer }.recvFrame env parsed.frame = (.ok (), handled)) : ¬Halts env t := by
  rw [halts_iff found]
  rintro (stays | ⟨ping, e, refused⟩)
  · exact moves stays
  · have thrown := WsTerminals.recvFrame_ping (t := { t with mBuffer := parsed.buffer }) ping refused
    rw [call] at thrown
    cases thrown

/-- Where no other round follows, the loop comes to no other state. -/
theorem Comes.eq {reached : WsTransport} (comes : Comes env reached t) (ends : ∀ next, ¬Round env t next) :
    reached = t := by
  cases comes with
  | now => rfl
  | later round _ => exact absurd round (ends _)

theorem Comes.length_le {reached : WsTransport} (comes : Comes env reached t) :
    reached.mBuffer.length ≤ t.mBuffer.length := by
  induction comes with
  | now => exact Nat.le_refl _
  | later round _ ih => exact ih.trans (Nat.le_of_lt (round_frameLoop round 0).2)

theorem round_unique {other : WsTransport} (round : Round env t next) (again : Round env t other) : other = next := by
  cases round with
  | goOn found moves result enough =>
    cases again with
    | goOn found' moves' result' enough' =>
      obtain rfl := Option.some.inj (found.symm.trans found')
      obtain ⟨_, rfl⟩ := Prod.mk.inj (result.symm.trans result')
      rfl

theorem short_iff_of_last {bound last : Nat} (ends : ∀ next, ¬Round env t next)
    (long : bound ≤ t.mBuffer.length → (bound ≤ last ↔ Halts env t))
    (short : t.mBuffer.length < bound → last < bound) :
    last < bound ↔ ∀ s, Comes env s t → bound ≤ s.mBuffer.length → ¬Halts env s := by
  constructor
  · intro few s comes wide halts
    obtain rfl := comes.eq ends
    exact absurd ((long wide).mpr halts) (Nat.not_le.mpr few)
  · intro none
    by_cases wide : bound ≤ t.mBuffer.length
    · exact Nat.not_le.mp fun many => none t .now wide ((long wide).mp many)
    · exact short (Nat.not_le.mp wide)

/-- The loop ends with a short buffer exactly when no frame holds it up before, by induction on the rounds. -/
theorem frameLoop_short_iff (rounds : Nat) (t : WsTransport) (enough : t.mBuffer.length < rounds) :
    (frameLoop env rounds t).2.mBuffer.length < 14 + max 125 t.mMaxMessageSize ↔
      ∀ s, Comes env s t → 14 + max 125 t.mMaxMessageSize ≤ s.mBuffer.length → ¬Halts env s := by
  induction rounds generalizing t with
  | zero => omega
  | succ rounds ih =>
    cases found : parseFrame t.mMaxMessageSize t.mBuffer with
    | none =>
      have few := parseFrame_none_length found
      rw [frameLoop, found]
      refine short_iff_of_last ?_ (fun wide => absurd few (Nat.not_lt.mpr wide)) id
      intro next round
      cases round with
      | goOn found' => exact absurd (found.symm.trans found') (by simp)
    | some parsed =>
      have size := (parseFrame_inside found).2
      by_cases moves : parsed.consumed = 0
      · rw [frameLoop, found]
        simp only [if_pos moves]
        refine short_iff_of_last ?_ (fun wide => ?_) (by rw [size]; exact id)
        · intro next round
          cases round with
          | goOn found' moves' =>
            obtain rfl := Option.some.inj (found.symm.trans found')
            exact moves' moves
        · exact iff_of_true (by rw [size]; exact wide) ((halts_iff found).mpr (.inl moves))
      · have kept (result : Except Exception Unit) (handled : WsTransport)
            (call : { t with mBuffer := parsed.buffer }.recvFrame env parsed.frame = (result, handled)) :=
          (handled_buffer found call (env.maskingKey t.sends)).1
        rcases call : { t with mBuffer := parsed.buffer }.recvFrame env parsed.frame with ⟨(e | ⟨⟨⟩⟩), handled⟩
        · obtain ⟨ping, refused, _⟩ := WsTerminals.recvFrame_error call
          have same := kept _ _ call
          rw [frameLoop, found]
          simp only [if_neg moves, call]
          refine short_iff_of_last ?_ (fun wide => ?_) (by rw [same]; exact id)
          · intro next round
            cases round with
            | goOn found' moves' result' =>
              obtain rfl := Option.some.inj (found.symm.trans found')
              exact absurd (call.symm.trans result') (by simp)
          · exact iff_of_true (by rw [same]; exact wide) ((halts_iff found).mpr (.inr ⟨ping, e, refused⟩))
        · have passes := not_halts found moves call
          by_cases beyond : (handled.maskPong parsed.frame (env.maskingKey t.sends) parsed.position).mBuffer.length <
              parsed.consumed
          · rw [frameLoop, found]
            simp only [if_neg moves, call, if_pos beyond]
            refine short_iff_of_last ?_ (fun wide => iff_of_false ?_ passes) fun few => ?_
            · intro next round
              cases round with
              | goOn found' moves' result' enough' =>
                obtain rfl := Option.some.inj (found.symm.trans found')
                obtain ⟨_, rfl⟩ := Prod.mk.inj (call.symm.trans result')
                exact absurd beyond (Nat.not_lt.mpr enough')
            · simp only [List.length_nil]
              omega
            · simp only [List.length_nil]
              omega
          · obtain ⟨next, round⟩ : ∃ next, Round env t next := ⟨_, .goOn found moves call (Nat.not_lt.mp beyond)⟩
            obtain ⟨goesOn, shorter⟩ := round_frameLoop round rounds
            have limit : next.mMaxMessageSize = t.mMaxMessageSize := congrArg (fun s => s.1) (round_settings round)
            have rest := ih next (by omega)
            rw [limit] at rest
            rw [goesOn, rest]
            constructor
            · intro none s comes
              cases comes with
              | now => exact fun _ => passes
              | later first comes => exact none s (round_unique round first ▸ comes)
            · exact fun none s comes => none s (.later round comes)

theorem frameLoop_refused {reached : WsTransport} (comes : Comes env reached t) {parsed : Parsed} {e : Exception}
    (found : parseFrame reached.mMaxMessageSize reached.mBuffer = some parsed) (moves : parsed.consumed ≠ 0)
    (ping : parsed.frame.opcode = .ping) (refused : env.lower reached.sends = .error e) (rounds : Nat)
    (enough : t.mBuffer.length < rounds) : ∃ e, (frameLoop env rounds t).1 = .error e := by
  induction comes generalizing rounds with
  | now =>
    obtain ⟨rounds, rfl⟩ : ∃ left, rounds = left + 1 := ⟨rounds - 1, by omega⟩
    have thrown := WsTerminals.recvFrame_ping (t := { reached with mBuffer := parsed.buffer }) ping refused
    rw [frameLoop, found]
    simp only [if_neg moves, thrown]
    exact ⟨e, rfl⟩
  | later round _ ih =>
    obtain ⟨rounds, rfl⟩ : ∃ left, rounds = left + 1 := ⟨rounds - 1, by omega⟩
    obtain ⟨goesOn, shorter⟩ := round_frameLoop round rounds
    rw [goesOn]
    exact ih rounds (by omega)

/-! ### The end of a chunk -/

theorem frameLoop_error (rounds : Nat) (t : WsTransport) {e : Exception}
    (failed : (frameLoop env rounds t).1 = .error e) : ∃ n, env.lower n = .error e := by
  induction rounds generalizing t with
  | zero => exact absurd failed (by simp [frameLoop])
  | succ rounds ih =>
    unfold frameLoop at failed
    split at failed
    · exact absurd failed (by simp)
    · simp only at failed
      split at failed
      · exact absurd failed (by simp)
      · split at failed
        · rename_i e' handled call
          rw [← Except.error.inj failed]
          exact ⟨_, (WsTerminals.recvFrame_error call).2.1⟩
        · split at failed
          · exact absurd failed (by simp)
          · exact ih _ failed

theorem disconnect_state : t.disconnect.state ≠ .connected := by
  unfold disconnect
  split
  · have told : ((t.changeState .disconnected).recv none).state = .disconnected := changeState_state _
    rw [told]
    decide
  · rw [changeState_state]
    decide

theorem processHandshake_limit {result : Except Exception Unit} {opened : WsTransport}
    (call : t.processHandshake env = (result, opened)) : opened.mMaxMessageSize = t.mMaxMessageSize := by
  have after : (t.processHandshake env).2.mMaxMessageSize = t.mMaxMessageSize := by
    unfold processHandshake sendHttpResponse outgoing
    split
    · split
      · rfl
      · split
        · rfl
        · obtain ⟨_, changed, _⟩ := changeState_aside t .connected
          exact congrArg Prod.fst changed.settings
    · simp only
      split
      · rfl
      · split
        · rfl
        · cases env.lower t.sends with
          | error e => rfl
          | ok accepted =>
            obtain ⟨_, changed, _⟩ := changeState_aside { t with
              mHandshake := (t.mHandshake.parseHttpRequest t.mBuffer).1
              sends := t.sends + 1
              log := t.log ++ [.outgoing (.http ((t.mHandshake.parseHttpRequest t.mBuffer).1.generateHttpResponse
                env.sha1))] } .connected
            exact congrArg Prod.fst changed.settings
  rw [call] at after
  exact after

theorem Processes.limit {chunk : Bytes} (processes : Processes env t chunk next) :
    next.mMaxMessageSize = t.mMaxMessageSize := by
  cases processes with
  | opened full connected => rfl
  | handshake full connecting accepted connected =>
    have same := processHandshake_limit accepted
    exact same

theorem skipIgnored_empty (ready : ¬t.skipIgnored.mIgnoreLength = 0) : t.skipIgnored.mBuffer = [] := by
  rw [skipIgnored_eq] at ready ⊢
  simp only at ready ⊢
  exact List.drop_eq_nil_of_le (by omega)

theorem no_round_of_empty (empty : t.mBuffer = []) (next : WsTransport) : ¬Round env t next := by
  intro round
  have waits : parseFrame t.mMaxMessageSize t.mBuffer = none := by
    rw [empty]
    rfl
  cases round with
  | goOn found => exact absurd (waits.symm.trans found) (by simp)

theorem processFrames_short_iff (t : WsTransport) :
    (t.processFrames env).2.mBuffer.length < 14 + max 125 t.mMaxMessageSize ↔
      ∀ s, Comes env s t.skipIgnored → 14 + max 125 t.mMaxMessageSize ≤ s.mBuffer.length → ¬Halts env s := by
  unfold processFrames
  by_cases ready : t.skipIgnored.mIgnoreLength = 0
  · simp only [if_pos ready]
    exact frameLoop_short_iff _ _ (Nat.lt_succ_self _)
  · simp only [if_neg ready]
    have empty := skipIgnored_empty ready
    refine short_iff_of_last (no_round_of_empty empty) (fun wide => ?_) id
    rw [empty, List.length_nil] at wide
    omega

theorem processFrames_error {e : Exception} (failed : (t.processFrames env).1 = .error e) :
    ∃ n, env.lower n = .error e := by
  unfold processFrames at failed
  simp only at failed
  split at failed
  · exact frameLoop_error _ _ failed
  · exact absurd failed (by simp)

theorem processFrames_refused {reached : WsTransport} (comes : Comes env reached t.skipIgnored)
    (wide : reached.mBuffer ≠ []) (halts : Halts env reached)
    (fits : ∀ h, Complete reached.mMaxMessageSize reached.mBuffer h → wholeLength h < 2 ^ 64) :
    ∃ e, (t.processFrames env).1 = .error e := by
  have running : t.skipIgnored.mIgnoreLength = 0 := by
    by_contra ready
    have empty := skipIgnored_empty ready
    have same : reached = t.skipIgnored := comes.eq (no_round_of_empty empty)
    exact wide (by rw [same, empty])
  unfold processFrames
  simp only [if_pos running]
  cases found : parseFrame reached.mMaxMessageSize reached.mBuffer with
  | none =>
    obtain ⟨h, complete, _⟩ := halts
    exact absurd complete ((parseFrame_none_iff _ _).mp found h)
  | some parsed =>
    obtain ⟨h, complete, same⟩ := parseFrame_complete found
    have value : parsed.consumed = wholeLength h % 2 ^ 64 := congrArg Parsed.consumed same
    have size := (parseHeader_size complete.1).1
    have moves : parsed.consumed ≠ 0 := by
      rw [value, Nat.mod_eq_of_lt (fits h complete)]
      unfold wholeLength
      omega
    obtain ⟨ping, e, refused⟩ := ((halts_iff found).mp halts).resolve_left moves
    exact frameLoop_refused comes found moves ping refused _ (Nat.lt_succ_self _)

theorem disconnect_buffer : t.disconnect.mBuffer = t.mBuffer := by
  unfold disconnect
  split
  · obtain ⟨_, ⟨_, _, _, _, changed⟩, _⟩ := changeState_aside t .disconnected
    rw [changed]
    rfl
  · obtain ⟨_, ⟨_, _, _, _, changed⟩, _⟩ := changeState_aside t .failed
    rw [changed]

theorem sendHttpError_buffer (code : Nat) : (t.sendHttpError env code).2.mBuffer = t.mBuffer := by
  unfold sendHttpError outgoing
  split <;> rfl

theorem finish_buffer (outcome : Except Exception Unit × WsTransport) :
    (AfterCloses.finish env outcome).mBuffer = outcome.2.mBuffer := by
  rcases outcome with ⟨(e | ⟨⟨⟩⟩), last⟩
  · simp only [AfterCloses.finish, disconnect_buffer]
    cases e with
    | requestError text code => exact sendHttpError_buffer code
    | _ => rfl
  · rfl

/-- `parseFrame` returns the length of the whole frame, and a pass of the loop takes it, exactly when that
number has 64 bits. After a chunk the buffer is short exactly when the loop, with a long buffer, comes neither
to a length that wraps to zero nor to a PING whose PONG is refused; the latter ends the connection. -/
theorem whole_frames_iff (env : Environment) :
    (∀ limit buffer h, Complete limit buffer h →
      ((returned limit buffer = wholeLength h ∧ returned limit buffer ≠ 0 ∧
        h.size + (h.frame limit buffer).payload.length ≤ returned limit buffer) ↔ wholeLength h < 2 ^ 64)) ∧
    (∀ t next h, t.mIgnoreLength = 0 → Iteration env t next → Complete t.mMaxMessageSize t.mBuffer h →
      (t.mBuffer.length + next.mIgnoreLength = next.mBuffer.length + wholeLength h ↔ wholeLength h < 2 ^ 64)) ∧
    ∀ t chunk ready, Processes env t chunk ready →
      ((t.incoming env (some chunk)).mBuffer.length < 14 + max 125 t.mMaxMessageSize ↔
        ∀ s, Comes env s ready.skipIgnored → 14 + max 125 t.mMaxMessageSize ≤ s.mBuffer.length → ¬Halts env s) ∧
      ((∀ s h, Comes env s ready.skipIgnored → Complete s.mMaxMessageSize s.mBuffer h → wholeLength h < 2 ^ 64) →
        (t.incoming env (some chunk)).state = .connected →
        (t.incoming env (some chunk)).mBuffer.length < 14 + max 125 t.mMaxMessageSize) := by
  refine ⟨fun limit buffer h complete => returned_whole_iff complete, ?_, ?_⟩
  · intro t next h start iteration complete
    have taken := iteration.taken start
    have value := returned_complete complete
    constructor
    · intro whole
      have same : wholeLength h = wholeLength h % 2 ^ 64 := by omega
      rw [same]
      exact Nat.mod_lt _ (by decide)
    · intro fits
      rw [Nat.mod_eq_of_lt fits] at value
      omega
  · intro t chunk ready processes
    have exactly : (ready.processFrames env).2.mBuffer.length < 14 + max 125 ready.mMaxMessageSize ↔
        ∀ s, Comes env s ready.skipIgnored → 14 + max 125 ready.mMaxMessageSize ≤ s.mBuffer.length → ¬Halts env s :=
      processFrames_short_iff ready
    rw [incoming_processes processes, finish_buffer, ← processes.limit]
    refine ⟨exactly, ?_⟩
    intro fits connected
    refine exactly.mpr fun s comes wide halts => ?_
    have some : s.mBuffer ≠ [] := fun empty => by
      rw [empty, List.length_nil] at wide
      omega
    obtain ⟨e, failed⟩ := processFrames_refused comes some halts (fun h => fits s h comes)
    rcases call : ready.processFrames env with ⟨result, last⟩
    rw [call] at failed connected
    obtain rfl : result = .error e := failed
    exact disconnect_state connected

/-- A masked frame that declares 2^64 - 14 bytes, with 125 of them. -/
def wrappingFrame : Bytes :=
  [0x82, 0xFF, 0xFF, 0xFF, 0xFF, 0xFF, 0xFF, 0xFF, 0xFF, 0xF2, 0, 0, 0, 0] ++ List.replicate 125 0

/-- `parseFrame` returns zero for it, and the loop does not get past it. -/
theorem wrappingFrame_returned :
    ¬∀ limit buffer h, Complete limit buffer h → returned limit buffer = wholeLength h := by
  intro whole
  let h : Header := ⟨.binaryFrame, true, some [0, 0, 0, 0], 2 ^ 64 - 14, 14⟩
  have complete : Complete 3 wrappingFrame h := ⟨by decide +kernel, by decide +kernel⟩
  have value := whole 3 wrappingFrame h complete
  rw [returned_complete complete] at value
  exact absurd value (by decide)

/-- A Binary frame of 150 bytes, of which three are passed up, and a header behind it. -/
def longChunk : Bytes := [0x82, 126, 0, 150] ++ List.replicate 150 7 ++ [0x81, 1]

/-- A text frame of one byte, alone and in the loop, and a chunk that is longer than the bound. -/
theorem whole_frames_text :
    returned 3 [0x81, 1, 65] = wholeLength ⟨.textFrame, true, none, 1, 2⟩ ∧
    3 + 0 = 0 + wholeLength ⟨.textFrame, true, none, 1, 2⟩ ∧
    (openClient.incoming (accepting sampleKey) (some longChunk)).mBuffer.length < 14 + max 125 3 := by
  obtain ⟨returns, takes, ends⟩ := whole_frames_iff (accepting sampleKey)
  have fits : wholeLength ⟨.textFrame, true, none, 1, 2⟩ < 2 ^ 64 := by decide
  refine ⟨((returns 3 [0x81, 1, 65] ⟨.textFrame, true, none, 1, 2⟩ ⟨rfl, by decide⟩).mpr fits).1, ?_, ?_⟩
  · have iteration : Iteration (accepting sampleKey) { openClient with mBuffer := [0x81, 1, 65] } _ :=
      .goOn (.goOn rfl (by decide) rfl (by decide))
    exact (takes _ _ ⟨.textFrame, true, none, 1, 2⟩ rfl iteration ⟨rfl, by decide⟩).mpr fits
  · have header : parseHeader longChunk = some ⟨.binaryFrame, true, none, 150, 4⟩ := by decide +kernel
    have size : longChunk.length = 156 := by decide +kernel
    have full : longChunk ≠ [] := by simp [longChunk]
    generalize longChunk = chunk at header size full ⊢
    have buffer : (push openClient chunk).skipIgnored.mBuffer = chunk := by simp [push, skipIgnored, openClient]
    refine (ends openClient chunk _ (.opened full rfl)).1.mpr ?_
    intro s comes wide
    cases comes with
    | now =>
      rintro ⟨h, complete, halts⟩
      have parsed := complete.1
      rw [buffer, header] at parsed
      obtain rfl := Option.some.inj parsed
      rcases halts with wraps | ⟨ping, _⟩
      · exact absurd wraps (by decide)
      · cases ping
    | @later _ next round comes =>
      have shorter := comes.length_le
      have kept : next.mIgnoreLength = 0 := congrArg (fun s => s.2.2) (round_settings round)
      have taken := (Iteration.goOn round).taken rfl
      have value : returned 3 chunk = 154 := returned_complete ⟨header, by rw [size]; decide⟩
      have limit : (push openClient chunk).skipIgnored.mMaxMessageSize = 3 := rfl
      rw [buffer, limit, value, size, kept] at taken
      simp only [openClient] at wide
      omega

end WebsocketClient.FrameLoops
