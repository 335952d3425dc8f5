import WebsocketClient.FrameRoundTrip
import WebsocketClient.WsStreams

/-! The frames that a `WsTransport` writes are all final, so the frame loop of the other end passes
each message up by itself. A frame over the limit of the receiver is cut, and the rest of it is
ignored before the next frame is read. -/

namespace WebsocketClient.Sessions
open ByteString Messages Frames Transports WsTransports WsTransport WsMessages WsChunks FrameRoundTrips

def sentOf : Effect → Option Sent
  | .outgoing sent => some sent
  | _ => none

def sents (log : List Effect) : List Sent := log.filterMap sentOf

def wires (sent : List Sent) : Bytes := sent.flatMap Sent.wire

@[simp] theorem sents_append (log more : List Effect) : sents (log ++ more) = sents log ++ sents more :=
  List.filterMap_append

@[simp] theorem wires_append (sent more : List Sent) : wires (sent ++ more) = wires sent ++ wires more :=
  List.flatMap_append

@[simp] theorem wires_cons (sent : Sent) (more : List Sent) : wires (sent :: more) = sent.wire ++ wires more :=
  List.flatMap_cons

@[simp] theorem wires_nil : wires [] = [] := rfl

/-- The frames of this program. -/
structure Genuine (frame : Frame) : Prop where
  known : frame.opcode ∈ [Opcode.textFrame, .binaryFrame, .close, .ping, .pong]
  fin : frame.fin = true
  fits : frame.payload.length < 2 ^ 63
  ping : frame.opcode = .ping → frame.payload.length = 4
  short : frame.opcode ≠ .textFrame → frame.opcode ≠ .binaryFrame → frame.payload.length ≤ 125

def IsFrame : Sent → Prop
  | .http _ => False
  | .frame frame _ => Genuine frame

/-- The message in a frame. -/
def carried : Sent → Option Message
  | .http _ => none
  | .frame frame _ =>
      if frame.opcode = .textFrame ∨ frame.opcode = .binaryFrame then
        some ⟨frame.payload, messageType frame.opcode⟩
      else none

def hasOpcode (opcode : Opcode) : Sent → Bool
  | .http _ => false
  | .frame frame _ => frame.opcode = opcode

abbrev isClose : Sent → Bool := hasOpcode .close
abbrev isPing : Sent → Bool := hasOpcode .ping
abbrev isPong : Sent → Bool := hasOpcode .pong

/-- A message as the other end passes it up: what is not text is binary, and it is cut. -/
def arrived (limit : Nat) (message : Message) : Message :=
  ⟨message.data.take limit, if message.type = .string then .string else .binary⟩

def arrivals (limit : Nat) (sent : List Sent) : List Message := (sent.filterMap carried).map (arrived limit)

@[simp] theorem arrivals_append (limit : Nat) (sent more : List Sent) :
    arrivals limit (sent ++ more) = arrivals limit sent ++ arrivals limit more := by
  simp only [arrivals, List.filterMap_append, List.map_append]

/-- What a transport writes while it handles frames: a PONG for each PING, and its own CLOSE once. -/
structure Answers (t next : WsTransport) (frames more : List Sent) : Prop where
  control : ∀ sent ∈ more, IsFrame sent ∧ carried sent = none ∧ isPing sent = false
  pongs : more.countP isPong = frames.countP isPing
  closes : more.countP isClose + t.mCloseSent.toNat = next.mCloseSent.toNat
  size : (wires more).length ≤ 10 * frames.countP isPing + 6 * more.countP isClose

/-- What handling frames of the other end does to a transport between two messages. -/
structure Took (t next : WsTransport) (frames : List Sent) : Prop where
  delivered : delivered next.log = delivered t.log ++ arrivals t.mMaxMessageSize frames
  answers : ∃ more, sents next.log = sents t.log ++ more ∧ Answers t next frames more
  limit : next.mMaxMessageSize = t.mMaxMessageSize
  maximum : next.mMaxOutstandingPings = t.mMaxOutstandingPings
  client : next.mIsClient = t.mIsClient
  handshake : next.mHandshake = t.mHandshake
  idle : next.mPartial = []
  outstanding : next.mOutstandingPings = if frames.any isPong then 0 else t.mOutstandingPings
  state : t.state = .connected ∨ t.state = .disconnected →
    next.state = if frames.any isClose then .disconnected else t.state
  /-- The CLOSE is answered, unless that was done before. -/
  closing : t.state = .connected ∨ t.mCloseSent = true → frames.any isClose = true → next.mCloseSent = true

theorem Answers.none {t next : WsTransport} {frames : List Sent} (noPing : frames.countP isPing = 0)
    (flag : next.mCloseSent = t.mCloseSent) : Answers t next frames [] where
  control := by simp
  pongs := noPing.symm
  closes := by rw [flag, List.countP_nil, Nat.zero_add]
  size := by simp

theorem Took.refl {t : WsTransport} (idle : t.mPartial = []) : Took t t [] where
  delivered := by simp [arrivals]
  answers := ⟨[], by simp, .none rfl rfl⟩
  limit := rfl
  maximum := rfl
  client := rfl
  handshake := rfl
  idle := idle
  outstanding := rfl
  state := fun _ => rfl
  closing := fun _ none => absurd none (by decide)

theorem Answers.flag {t next : WsTransport} {frames more : List Sent} (answers : Answers t next frames more)
    (sent : t.mCloseSent = true) : next.mCloseSent = true := by
  have closes := answers.closes
  rw [sent] at closes
  cases flag : next.mCloseSent with
  | true => rfl
  | false =>
    rw [flag] at closes
    simp at closes

theorem Answers.trans {t next last : WsTransport} {frames more one two : List Sent} (first : Answers t next frames one)
    (second : Answers next last more two) : Answers t last (frames ++ more) (one ++ two) where
  control := by
    intro sent member
    exact (List.mem_append.mp member).elim (first.control sent) (second.control sent)
  pongs := by
    rw [List.countP_append, List.countP_append, first.pongs, second.pongs]
  closes := by
    have before := first.closes
    have after := second.closes
    rw [List.countP_append]
    omega
  size := by
    have before := first.size
    have after := second.size
    rw [wires_append, List.length_append, List.countP_append, List.countP_append]
    omega

theorem Took.trans {t next last : WsTransport} {frames more : List Sent} (first : Took t next frames)
    (second : Took next last more) : Took t last (frames ++ more) where
  delivered := by
    rw [second.delivered, first.delivered, first.limit, arrivals_append, List.append_assoc]
  answers := by
    obtain ⟨one, sentOne, answersOne⟩ := first.answers
    obtain ⟨two, sentTwo, answersTwo⟩ := second.answers
    exact ⟨one ++ two, by rw [sentTwo, sentOne, List.append_assoc], answersOne.trans answersTwo⟩
  limit := second.limit.trans first.limit
  maximum := second.maximum.trans first.maximum
  client := second.client.trans first.client
  handshake := second.handshake.trans first.handshake
  idle := second.idle
  outstanding := by
    rw [second.outstanding, first.outstanding, List.any_append]
    cases frames.any isPong <;> cases more.any isPong <;> rfl
  state := by
    intro opened
    have middle := first.state opened
    have rest : next.state = .connected ∨ next.state = .disconnected := by
      rw [middle]
      split
      · exact .inr rfl
      · exact opened
    rw [second.state rest, middle, List.any_append]
    cases frames.any isClose <;> cases more.any isClose <;> rfl
  closing := by
    intro alive closes
    obtain ⟨_, _, answers⟩ := second.answers
    cases early : frames.any isClose with
    | true => exact answers.flag (first.closing alive early)
    | false =>
      rw [List.any_append, early, Bool.false_or] at closes
      apply second.closing _ closes
      rcases alive with opened | sent
      · have still := first.state (.inl opened)
        rw [early] at still
        exact .inl (still.trans opened)
      · obtain ⟨_, _, before⟩ := first.answers
        exact .inr (before.flag sent)

theorem Took.rebuffer {t next : WsTransport} {frames : List Sent} (took : Took t next frames) (buffer : Bytes)
    (ignore : Nat) : Took t { next with mBuffer := buffer, mIgnoreLength := ignore } frames := by
  obtain ⟨more, grown, answers⟩ := took.answers
  exact ⟨took.delivered, ⟨more, grown, ⟨answers.control, answers.pongs, answers.closes, answers.size⟩⟩, took.limit,
    took.maximum, took.client, took.handshake, took.idle, took.outstanding, took.state, took.closing⟩

theorem Took.of_rebuffer {t next : WsTransport} {frames : List Sent} {buffer : Bytes} {ignore : Nat}
    (took : Took { t with mBuffer := buffer, mIgnoreLength := ignore } next frames) : Took t next frames := by
  obtain ⟨more, grown, answers⟩ := took.answers
  exact ⟨took.delivered, ⟨more, grown, ⟨answers.control, answers.pongs, answers.closes, answers.size⟩⟩, took.limit,
    took.maximum, took.client, took.handshake, took.idle, took.outstanding, took.state, took.closing⟩

theorem wire_length (frame : Frame) (key : MaskingKey) (short : frame.payload.length ≤ 125) :
    (Sent.frame frame key).wire.length ≤ 6 + frame.payload.length := by
  have keyLength : (keyField key frame).length ≤ 4 := by
    unfold keyField
    split
    · exact Nat.le_of_eq key.property
    · exact Nat.zero_le 4
  have plain : lengthField frame.payload.length = (UInt8.ofNat frame.payload.length &&& 0x7F, []) :=
    if_pos (by omega)
  have length : (Sent.frame frame key).wire.length = (header key frame).size + frame.payload.length :=
    encodeFrame_length key frame
  rw [length]
  simp only [header, plain, List.length_nil]
  omega

/-- What a change of the state leaves alone. -/
structure Unsent (t next : WsTransport) : Prop where
  delivered : delivered next.log = delivered t.log
  sents : sents next.log = sents t.log
  flag : next.mCloseSent = t.mCloseSent
  limit : next.mMaxMessageSize = t.mMaxMessageSize
  maximum : next.mMaxOutstandingPings = t.mMaxOutstandingPings
  client : next.mIsClient = t.mIsClient
  handshake : next.mHandshake = t.mHandshake
  idle : next.mPartial = t.mPartial
  outstanding : next.mOutstandingPings = t.mOutstandingPings

theorem changeState_unsent (t : WsTransport) (state : State) : Unsent t (t.changeState state) := by
  unfold changeState
  split
  · constructor <;> rfl
  · constructor
    · rw [delivered_append]
      exact List.append_nil _
    · rw [sents_append]
      exact List.append_nil _
    all_goals rfl

theorem changeState_state (t : WsTransport) (state : State) : (t.changeState state).state = state := by
  unfold changeState
  split
  · assumption
  · rfl

section
variable {env : Environment}

/-- The CLOSE that a transport sends, once and while it is open. -/
theorem close_took (quiet : Quiet env) (t : WsTransport) (idle : t.mPartial = []) : Took t (t.close env) [] := by
  rw [close_eq quiet]
  split
  · exact .refl idle
  · rename_i fresh
    obtain ⟨opened, unsent⟩ := not_or.mp fresh
    let frame : Frame := { opcode := .close, payload := [], mask := t.mIsClient }
    have short : (Sent.frame frame (env.maskingKey t.sends)).wire.length ≤ 6 := wire_length frame _ (Nat.zero_le 125)
    constructor
    · simp [WsMessages.delivered, arrivals]
    · refine ⟨[.frame frame (env.maskingKey t.sends)], by rw [sents_append]; rfl, ?_⟩
      constructor
      · intro sent member
        rw [List.mem_singleton] at member
        subst member
        exact ⟨⟨by simp [frame], rfl, by simp [frame], by simp [frame], by simp [frame]⟩, rfl, rfl⟩
      · rfl
      · simp [unsent, hasOpcode, frame]
      · simpa [hasOpcode, frame] using short
    · rfl
    · rfl
    · rfl
    · rfl
    · exact idle
    · rfl
    · exact fun _ => rfl
    · exact fun _ _ => rfl

theorem close_flag (quiet : Quiet env) (t : WsTransport) (alive : t.state = .connected ∨ t.mCloseSent = true) :
    (t.close env).mCloseSent = true := by
  rw [close_eq quiet]
  split
  · rename_i stays
    rcases stays with closed | sent
    · exact alive.resolve_left closed
    · exact sent
  · rfl

theorem recvData_took (t : WsTransport) (frame : Frame) (key : MaskingKey) (genuine : Genuine frame)
    (idle : t.mPartial = []) (kind : frame.opcode = .textFrame ∨ frame.opcode = .binaryFrame) :
    Took t (t.recvData (truncate t.mMaxMessageSize frame)) [.frame frame key] := by
  have step := recvData_handled t frame idle
  have noClose : isClose (.frame frame key) = false := by
    rcases kind with kind | kind <;> simp [hasOpcode, kind]
  have noPing : isPing (.frame frame key) = false := by
    rcases kind with kind | kind <;> simp [hasOpcode, kind]
  have noPong : isPong (.frame frame key) = false := by
    rcases kind with kind | kind <;> simp [hasOpcode, kind]
  have arrival : arrivals t.mMaxMessageSize [.frame frame key] =
      [⟨frame.payload.take t.mMaxMessageSize, messageType frame.opcode⟩] := by
    rcases kind with kind | kind <;> simp [arrivals, carried, kind, arrived, messageType]
  have plain : t.recvData (truncate t.mMaxMessageSize frame) =
      { t with
        mPartialOpcode := frame.opcode
        log := t.log ++ [.recv (some ⟨(truncate t.mMaxMessageSize frame).payload.take t.mMaxMessageSize,
          messageType frame.opcode⟩)] } := by
    simp [recvData, idle, genuine.fin, truncate, recv, note]
  constructor
  · rw [step.delivered, if_pos genuine.fin, arrival]
  · refine ⟨[], by rw [plain, sents_append]; rfl, ?_⟩
    apply Answers.none
    · rw [List.countP_singleton, noPing]
      rfl
    · rw [plain]
  · exact step.limit
  · rw [plain]
  · exact step.client
  · rw [plain]
  · rw [plain]
    exact idle
  · rw [plain, List.any_cons, noPong]
    rfl
  · intro _
    rw [plain, List.any_cons, noClose]
    rfl
  · intro _ closes
    rw [List.any_cons, noClose] at closes
    exact absurd closes (by decide)

theorem Took.closed {t next : WsTransport} (took : Took t next []) (frame : Frame) (key : MaskingKey)
    (opcode : frame.opcode = .close) (flag : t.state = .connected ∨ t.mCloseSent = true → next.mCloseSent = true) :
    Took t (next.changeState .disconnected) [.frame frame key] := by
  obtain ⟨more, grown, answers⟩ := took.answers
  have changed := changeState_unsent next .disconnected
  constructor
  · rw [changed.delivered, took.delivered]
    simp [arrivals, carried, opcode]
  · refine ⟨more, changed.sents.trans grown, answers.control, ?_, ?_, ?_⟩
    · rw [answers.pongs]
      simp [hasOpcode, opcode]
    · rw [answers.closes, changed.flag]
    · have size := answers.size
      simpa [hasOpcode, opcode] using size
  · exact changed.limit.trans took.limit
  · exact changed.maximum.trans took.maximum
  · exact changed.client.trans took.client
  · exact changed.handshake.trans took.handshake
  · exact changed.idle.trans took.idle
  · rw [changed.outstanding, took.outstanding]
    simp [hasOpcode, opcode]
  · intro _
    rw [changeState_state]
    simp [hasOpcode, opcode]
  · intro alive _
    rw [changed.flag]
    exact flag alive

def pongTo (t : WsTransport) (ping : Frame) : Frame :=
  { opcode := .pong, payload := ping.payload, mask := t.mIsClient }

theorem ping_took (quiet : Quiet env) (t : WsTransport) (frame : Frame) (key : MaskingKey) (genuine : Genuine frame)
    (idle : t.mPartial = []) (opcode : frame.opcode = .ping) :
    Took t (t.sendFrame env (pongTo t (truncate t.mMaxMessageSize frame))).2 [.frame frame key] := by
  obtain ⟨result, answer⟩ := quiet t.sends
  have four := genuine.ping opcode
  rw [truncate_control _ _ (by rw [four]; decide)]
  have short : (Sent.frame (pongTo t frame) (env.maskingKey t.sends)).wire.length ≤ 6 + frame.payload.length :=
    wire_length (pongTo t frame) _ (by show frame.payload.length ≤ 125; omega)
  simp only [sendFrame, outgoing, answer]
  constructor
  · simp [WsMessages.delivered, arrivals, carried, opcode]
  · refine ⟨[.frame (pongTo t frame) (env.maskingKey t.sends)], by rw [sents_append]; rfl, ?_⟩
    constructor
    · intro sent member
      rw [List.mem_singleton] at member
      subst member
      have few : (pongTo t frame).payload.length ≤ 125 := by
        show frame.payload.length ≤ 125
        omega
      exact ⟨⟨by simp [pongTo], rfl, genuine.fits, by simp [pongTo], fun _ _ => few⟩, rfl, rfl⟩
    · simp [hasOpcode, opcode, pongTo]
    · simp [hasOpcode, pongTo]
    · rw [four] at short
      simpa [hasOpcode, opcode, pongTo] using short
  · rfl
  · rfl
  · rfl
  · rfl
  · exact idle
  · simp [hasOpcode, opcode]
  · intro _
    simp [hasOpcode, opcode]
  · simp [hasOpcode, opcode]

/-- A PONG is only counted. -/
theorem pong_took (t : WsTransport) (frame : Frame) (key : MaskingKey) (idle : t.mPartial = [])
    (opcode : frame.opcode = .pong) : Took t { t with mOutstandingPings := 0 } [.frame frame key] := by
  constructor
  · simp [arrivals, carried, opcode]
  · exact ⟨[], by simp, .none (by simp [hasOpcode, opcode]) rfl⟩
  · rfl
  · rfl
  · rfl
  · rfl
  · exact idle
  · simp [hasOpcode, opcode]
  · intro _
    simp [hasOpcode, opcode]
  · simp [hasOpcode, opcode]

theorem handled_took (quiet : Quiet env) (t : WsTransport) (frame : Frame) (key : MaskingKey) (genuine : Genuine frame)
    (idle : t.mPartial = []) :
    Took t (handled env t (truncate t.mMaxMessageSize frame)) [.frame frame key] := by
  have known := genuine.known
  unfold handled
  simp only [List.mem_cons, List.not_mem_nil, or_false] at known
  rcases known with opcode | opcode | opcode | opcode | opcode
  · rw [recvFrame_data env t (.inl opcode)]
    exact recvData_took t frame key genuine idle (.inl opcode)
  · rw [recvFrame_data env t (.inr opcode)]
    exact recvData_took t frame key genuine idle (.inr opcode)
  · have branch : t.recvFrame env (truncate t.mMaxMessageSize frame) =
        (.ok (), (t.close env).changeState .disconnected) := by
      simp only [recvFrame, truncate, opcode]
    rw [branch]
    exact (close_took quiet t idle).closed frame key opcode (close_flag quiet t)
  · have branch : (t.recvFrame env (truncate t.mMaxMessageSize frame)).2 =
        (t.sendFrame env (pongTo t (truncate t.mMaxMessageSize frame))).2 := by
      simp only [recvFrame, truncate, opcode, pongTo]
    rw [branch]
    exact ping_took quiet t frame key genuine idle opcode
  · have branch : t.recvFrame env (truncate t.mMaxMessageSize frame) = (.ok (), { t with mOutstandingPings := 0 }) := by
      simp only [recvFrame, truncate, opcode]
    rw [branch]
    exact pong_took t frame key idle opcode

/-! ### The frame loop -/

/-- A transport that has handled what it could: behind the bytes to ignore, its buffer and the bytes
that come next are the frames left, and the buffer holds none of them. -/
structure Awaits (t : WsTransport) (later : Bytes) (rest : List Sent) : Prop where
  stream : (t.mBuffer ++ later).drop t.mIgnoreLength = wires rest
  reach : t.mIgnoreLength ≤ t.mBuffer.length + later.length
  ignoring : t.mIgnoreLength = 0 ∨ t.mBuffer = []
  waiting : ∀ h, ¬Complete t.mMaxMessageSize t.mBuffer h

theorem not_complete_nil (limit : Nat) (h : Header) : ¬Complete limit [] h := by
  intro complete
  have size := (parseHeader_size complete.1).2.2
  have small := (parseHeader_size complete.1).1
  rw [List.length_nil] at size
  omega

theorem written_complete {frame : Frame} (genuine : Genuine frame) (key : MaskingKey) (limit : Nat) (behind : Bytes) :
    Complete limit ((Sent.frame frame key).wire ++ behind) (header key frame) := by
  have known := genuine.known
  simp only [List.mem_cons, List.not_mem_nil, or_false] at known
  have fits : frame.payload.length < 2 ^ 64 := Nat.lt_trans genuine.fits (by decide)
  apply encodeFrame_complete key frame limit fits
  · rcases known with opcode | opcode | opcode | opcode | opcode <;> rw [opcode] <;> decide
  · rcases known with opcode | opcode | opcode | opcode | opcode <;> rw [opcode] <;> decide

theorem sent_complete {limit : Nat} {frame : Frame} {key : MaskingKey} (genuine : Genuine frame)
    (buffer later behind : Bytes) (stream : buffer ++ later = (Sent.frame frame key).wire ++ behind) (h : Header)
        (complete : Complete limit buffer h) :
    h.frame limit buffer = truncate limit frame ∧ h.size + h.length = (Sent.frame frame key).wire.length ∧
      h.length < 2 ^ 63 := by
  have whole := written_complete genuine key limit behind
  have encoded : (Sent.frame frame key).wire = encodeFrame key frame := rfl
  rw [← stream] at whole
  obtain rfl : h = header key frame := (complete.append later).unique whole
  have length := encodeFrame_length key frame
  have read := payload_encodeFrame key frame limit behind
  rw [← encoded, ← stream, complete.payload_append later] at read
  refine ⟨?_, ?_, genuine.fits⟩
  · rw [Header.frame, read]
    unfold truncate header
    cases frame.mask <;> rfl
  · rw [encoded, length]
    rfl

theorem handled_ignore (quiet : Quiet env) (t : WsTransport) (frame : Frame) :
    (handled env t frame).mIgnoreLength = t.mIgnoreLength := by
  have same := congrArg mIgnoreLength (handled_rebuffer quiet t frame t.mBuffer t.mIgnoreLength)
  exact same

theorem frameLoop_sent (quiet : Quiet env) (pending : List Sent) :
    ∀ (rounds : Nat) (t : WsTransport) (later : Bytes), (∀ sent ∈ pending, IsFrame sent) → t.mPartial = [] →
      t.mIgnoreLength = 0 → t.mBuffer ++ later = wires pending → t.mBuffer.length < rounds →
      ∃ done rest next, pending = done ++ rest ∧ frameLoop env rounds t = (.ok (), next) ∧ Took t next done ∧
        Awaits next later rest := by
  induction pending with
  | nil =>
    intro rounds t later _ idle start stream _
    have empty : t.mBuffer = [] := (List.append_eq_nil_iff.mp stream).1
    have waiting : ∀ h, ¬Complete t.mMaxMessageSize t.mBuffer h := by
      intro h
      rw [empty]
      exact not_complete_nil _ h
    refine ⟨[], [], t, rfl, frameLoop_stop t rounds waiting, .refl idle, ?_, by omega, .inl start, waiting⟩
    rw [start, stream]
    rfl
  | cons sent pending ih =>
    intro rounds t later genuine idle start stream enough
    obtain ⟨rounds, rfl⟩ : ∃ fewer, rounds = fewer + 1 := ⟨rounds - 1, by omega⟩
    by_cases found : ∃ h, Complete t.mMaxMessageSize t.mBuffer h
    · obtain ⟨h, complete⟩ := found
      have first := genuine sent (List.mem_cons_self ..)
      cases sent with
      | http text => exact absurd first id
      | frame frame key =>
        rw [wires_cons] at stream
        obtain ⟨read, consumed, small⟩ := sent_complete first t.mBuffer later (wires pending) stream h complete
        have took := handled_took quiet t frame key first idle
        have behind : (t.mBuffer ++ later).drop (h.size + h.length) = wires pending := by
          rw [stream, consumed, List.drop_left]
        have length : t.mBuffer.length + later.length = h.size + h.length + (wires pending).length := by
          rw [consumed, ← List.length_append, stream, List.length_append]
        rw [frameLoop_round quiet t h rounds complete small, read]
        by_cases oversized : t.mBuffer.length < h.size + h.length
        · simp only [if_pos oversized]
          refine ⟨[.frame frame key], pending, _, rfl, rfl, took.rebuffer _ _, ?_, ?_, .inr rfl, not_complete_nil _⟩
          · rw [List.drop_append, List.drop_of_length_le (Nat.le_of_lt oversized)] at behind
            exact behind
          · show h.size + h.length - t.mBuffer.length ≤ 0 + later.length
            omega
        · simp only [if_neg oversized]
          have sizes := parseHeader_size complete.1
          have ignore := handled_ignore quiet t (truncate t.mMaxMessageSize frame)
          have emptied := took.rebuffer (t.mBuffer.drop (h.size + h.length)) t.mIgnoreLength
          rw [← ignore] at emptied
          have shorter : (t.mBuffer.drop (h.size + h.length)).length < rounds := by
            rw [List.length_drop]
            omega
          have left : t.mBuffer.drop (h.size + h.length) ++ later = wires pending := by
            rw [← behind, List.drop_append_of_le_length (Nat.not_lt.mp oversized)]
          obtain ⟨done, rest, next, split, looped, more, awaits⟩ :=
            ih rounds _ later (fun sent member => genuine sent (List.mem_cons_of_mem _ member)) emptied.idle
              (ignore.trans start) left shorter
          exact ⟨.frame frame key :: done, rest, next, by rw [split, List.cons_append], looped, emptied.trans more,
            awaits⟩
    · have waiting : ∀ h, ¬Complete t.mMaxMessageSize t.mBuffer h := fun h complete => found ⟨h, complete⟩
      refine ⟨[], sent :: pending, t, rfl, frameLoop_stop t _ waiting, .refl idle, ?_, by omega, .inl start, waiting⟩
      rw [start, stream]
      rfl

theorem processFrames_sent (quiet : Quiet env) (t : WsTransport) (later : Bytes) (pending : List Sent)
    (genuine : ∀ sent ∈ pending, IsFrame sent) (idle : t.mPartial = [])
    (stream : (t.mBuffer ++ later).drop t.mIgnoreLength = wires pending)
    (reach : t.mIgnoreLength ≤ t.mBuffer.length + later.length) :
    ∃ done rest next, pending = done ++ rest ∧ t.processFrames env = (.ok (), next) ∧ Took t next done ∧
      Awaits next later rest := by
  have skipped : Took t t.skipIgnored [] := by
    rw [skipIgnored_eq]
    exact (Took.refl idle).rebuffer _ _
  have same : (t.skipIgnored.mBuffer ++ later).drop t.skipIgnored.mIgnoreLength = wires pending := by
    rw [skipIgnored_eq, ← stream]
    exact drop_drop_append _ _ _
  unfold processFrames
  by_cases start : t.skipIgnored.mIgnoreLength = 0
  · simp only [if_pos start]
    rw [start, List.drop_zero] at same
    obtain ⟨done, rest, next, split, looped, took, awaits⟩ :=
      frameLoop_sent quiet pending
          (t.skipIgnored.mBuffer.length + 1) t.skipIgnored later genuine skipped.idle start same
        (Nat.lt_succ_self _)
    exact ⟨done, rest, next, split, looped, skipped.trans took, awaits⟩
  · simp only [if_neg start]
    have gone : t.skipIgnored.mBuffer = [] := by
      rw [skipIgnored_eq] at start ⊢
      exact List.drop_of_length_le (by simp only at start; omega)
    refine ⟨[], pending, t.skipIgnored, rfl, rfl, skipped, same, ?_, .inr gone, ?_⟩
    · rw [skipIgnored_eq]
      simp only [List.length_drop]
      omega
    · rw [gone]
      exact not_complete_nil _

theorem Awaits.none_left {t : WsTransport} {rest : List Sent} (awaits : Awaits t [] rest)
    (genuine : ∀ sent ∈ rest, IsFrame sent) : rest = [] := by
  cases rest with
  | nil => rfl
  | cons sent rest =>
    have first := genuine sent (List.mem_cons_self ..)
    cases sent with
    | http text => exact absurd first id
    | frame frame key =>
      have dropped : t.mBuffer.drop t.mIgnoreLength = t.mBuffer := by
        rcases awaits.ignoring with start | empty
        · rw [start, List.drop_zero]
        · rw [empty, List.drop_nil]
      have stream := awaits.stream
      rw [List.append_nil, dropped, wires_cons] at stream
      apply absurd (written_complete first key t.mMaxMessageSize (wires rest))
      rw [← stream]
      exact awaits.waiting _

end

end WebsocketClient.Sessions
