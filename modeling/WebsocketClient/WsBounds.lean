import WebsocketClient.FrameLoop
import WebsocketClient.FramePointers

/-! The sizes that a stream can reach: of the message that is collected, of the messages passed up and of
the PONGs. A frame is cut by `parseFrame`, and a message where it begins and where it grows. -/

namespace WebsocketClient.WsBounds
open ByteString Messages Frames Transports WsTransports WsTransport WsMessages WsChunks WsStreams WsLogs AfterCloses
open FrameLoops FramePointers

structure Bounded (limit : Nat) (t : WsTransport) : Prop where
  configured : t.mMaxMessageSize = limit
  pending : t.mPartial.length ≤ limit
  messages : ∀ message ∈ delivered t.log, message.data.length ≤ limit
  pongs : ∀ sent ∈ sentFrames t.log, sent.opcode = .pong → sent.payload.length ≤ max 125 limit

/-- The loop gives a frame to `recvFrame`, which returns with the second transport. -/
inductive Receives (env : Environment) : WsTransport → WsTransport → Prop where
  | now {t : WsTransport} {parsed : Parsed} : parseFrame t.mMaxMessageSize t.mBuffer = some parsed →
      parsed.consumed ≠ 0 → Receives env t ({ t with mBuffer := parsed.buffer }.recvFrame env parsed.frame).2
  | later {t next after : WsTransport} : Round env t next → Receives env next after → Receives env t after

section
variable {env : Environment} {t next : WsTransport} {limit : Nat}

/-! ### What is bounded -/

def sizes (t : WsTransport) : Nat × Bytes × List Message × List Frame :=
  (t.mMaxMessageSize, t.mPartial, delivered t.log, (sentFrames t.log).filter (fun sent => sent.opcode = .pong))

theorem bounded_iff : Bounded limit t ↔ (sizes t).1 = limit ∧ (sizes t).2.1.length ≤ limit ∧
    (∀ message ∈ (sizes t).2.2.1, message.data.length ≤ limit) ∧
    ∀ pong ∈ (sizes t).2.2.2, pong.payload.length ≤ max 125 limit := by
  constructor
  · intro bounded
    refine ⟨bounded.configured, bounded.pending, bounded.messages, ?_⟩
    intro pong member
    obtain ⟨sent, kind⟩ := List.mem_filter.mp member
    exact bounded.pongs pong sent (of_decide_eq_true kind)
  · intro ⟨limit, pending, messages, pongs⟩
    refine ⟨limit, pending, messages, ?_⟩
    intro sent member kind
    exact pongs sent (List.mem_filter.mpr ⟨member, decide_eq_true kind⟩)

theorem Bounded.of_sizes (bounded : Bounded limit t) (same : sizes next = sizes t) : Bounded limit next := by
  rw [bounded_iff] at bounded ⊢
  rw [same]
  exact bounded

theorem Bounded.rebuffer (bounded : Bounded limit t) (buffer : Bytes) : Bounded limit { t with mBuffer := buffer } :=
  ⟨bounded.configured, bounded.pending, bounded.messages, bounded.pongs⟩

theorem Aside.sizes {effects : List Effect} (aside : Aside t effects next) (mute : Mute effects) :
    WsBounds.sizes next = WsBounds.sizes t := by
  obtain ⟨_, _, _, _, rfl⟩ := aside
  have none : (sentFrames effects).filter (fun sent => sent.opcode = .pong) = [] := by
    rw [List.filter_eq_nil_iff]
    intro sent member
    simp only [decide_eq_true_eq]
    exact mute.2 sent member
  simp only [WsBounds.sizes, delivered_append, sentFrames_append, List.filter_append, mute.1, none, List.append_nil]

theorem changeState_sizes (t : WsTransport) (s : State) : sizes (t.changeState s) = sizes t := by
  obtain ⟨effects, aside, mute⟩ := changeState_aside t s
  exact Aside.sizes aside mute

theorem http_sizes (text : Bytes) : sizes (t.outgoing env (.http text)).2 = sizes t := by
  unfold outgoing
  split
  · rfl
  · simp [sizes, delivered, sentFrames]

/-! ### Frames -/

theorem recv_bounded (bounded : Bounded limit t) (message : Message) (short : message.data.length ≤ limit) :
    Bounded limit (t.recv (some message)) := by
  refine ⟨bounded.configured, bounded.pending, ?_, ?_⟩
  · intro other member
    simp only [recv, note, delivered_append, List.mem_append] at member
    rcases member with before | now
    · exact bounded.messages other before
    · have same : other = message := by simpa [delivered] using now
      rw [same]
      exact short
  · intro sent member
    simp only [recv, note, sentFrames_append, List.mem_append] at member
    rcases member with before | now
    · exact bounded.pongs sent before
    · exact absurd now (by simp [sentFrames])

theorem Bounded.setPartial (bounded : Bounded limit t) (bytes : Bytes) (opcode : Opcode)
    (short : bytes.length ≤ limit) :
    Bounded limit { t with mPartial := bytes, mPartialOpcode := opcode } :=
  ⟨bounded.configured, short, bounded.messages, bounded.pongs⟩

theorem recvData_bounded (bounded : Bounded limit t) (frame : Frame) : Bounded limit (t.recvData frame) := by
  have short : (frame.payload.take t.mMaxMessageSize).length ≤ limit := bounded.configured ▸ List.length_take_le _ _
  have flushed := recv_bounded bounded ⟨t.mPartial, messageType t.mPartialOpcode⟩ bounded.pending
  have started := flushed.setPartial [] frame.opcode (Nat.zero_le _)
  unfold recvData
  simp only
  split_ifs with last empty empty
  · exact recv_bounded (bounded.setPartial t.mPartial frame.opcode bounded.pending) ⟨_, _⟩ short
  · exact recv_bounded started ⟨_, _⟩ short
  · refine bounded.setPartial _ frame.opcode ?_
    rw [empty, List.nil_append]
    exact short
  · exact flushed.setPartial _ frame.opcode short

theorem recvContinuation_bounded (bounded : Bounded limit t) (frame : Frame) :
    Bounded limit (t.recvContinuation frame) := by
  have short : ((t.mPartial ++ frame.payload).take t.mMaxMessageSize).length ≤ limit :=
    bounded.configured ▸ List.length_take_le _ _
  have grown := bounded.setPartial _ t.mPartialOpcode short
  unfold recvContinuation
  simp only
  split_ifs
  · have finished := recv_bounded grown ⟨_, messageType t.mPartialOpcode⟩ short
    exact finished.setPartial [] t.mPartialOpcode (Nat.zero_le _)
  · exact grown

theorem aside_bounded {effects : List Effect} {payload : Bytes} (aside : Aside t effects next)
    (bounded : Bounded limit t) (quiet : delivered effects = [])
    (pongs : ∀ sent ∈ sentFrames effects, sent.opcode = .pong → sent.payload = payload)
    (short : payload.length ≤ max 125 limit) : Bounded limit next := by
  obtain ⟨_, _, _, _, rfl⟩ := aside
  refine ⟨bounded.configured, bounded.pending, ?_, ?_⟩
  · intro message member
    rw [delivered_append, quiet, List.append_nil] at member
    exact bounded.messages message member
  · intro sent member kind
    rw [sentFrames_append, List.mem_append] at member
    rcases member with before | now
    · exact bounded.pongs sent before kind
    · rw [pongs sent now kind]
      exact short

theorem recvFrame_bounded (bounded : Bounded limit t) (frame : Frame)
    (short : frame.payload.length ≤ max 125 limit) : Bounded limit (t.recvFrame env frame).2 := by
  by_cases control : frame.opcode ≠ .textFrame ∧ frame.opcode ≠ .binaryFrame ∧ frame.opcode ≠ .continuation
  · obtain ⟨effects, aside, quiet, pongs⟩ := recvFrame_aside env t frame control
    exact aside_bounded aside bounded quiet pongs short
  · rcases recvFrame_data_frame env t frame control with data | continuation
    · rw [data]
      exact recvData_bounded bounded frame
    · rw [continuation]
      exact recvContinuation_bounded bounded frame

theorem parsed_short {limit : Nat} {buffer : Bytes} {parsed : Parsed} (found : parseFrame limit buffer = some parsed) :
    parsed.frame.payload.length ≤ max 125 limit := by
  obtain ⟨h, complete, rfl⟩ := parseFrame_complete found
  have length := complete.payload_length
  simp only [Header.frame, length]
  exact Nat.min_le_right _ _

/-! ### Chunks -/

theorem round_limit (round : Round env t next) : next.mMaxMessageSize = t.mMaxMessageSize :=
  congrArg Prod.fst (round_settings round)

theorem reads_short {frame : Frame} (reads : Reads env frame t) :
    frame.payload.length ≤ max 125 t.mMaxMessageSize := by
  induction reads with
  | now found moves same =>
    rw [← same]
    exact parsed_short found
  | later round _ ih =>
    rw [← round_limit round]
    exact ih

theorem processFrames_bounded (bounded : Bounded limit t) : Bounded limit (t.processFrames env).2 := by
  refine processFrames_relates (R := fun t next => Bounded limit t → Bounded limit next)
    (P := fun frame => frame.payload.length ≤ max 125 limit) (fun _ kept => kept) ?_ ?_ ?_ t ?_ bounded
  · exact fun first second kept => second (first kept)
  · intro s bytes length kept
    exact ⟨kept.configured, kept.pending, kept.messages, kept.pongs⟩
  · intro s frame short kept
    exact recvFrame_bounded kept frame short
  · intro frame reads
    have short := reads_short reads
    rw [← bounded.configured]
    exact short

theorem processHandshake_sizes : sizes (t.processHandshake env).2 = sizes t := by
  unfold processHandshake sendHttpResponse
  split
  · split
    · rfl
    · split
      · rfl
      · exact changeState_sizes t .connected
  · simp only
    split
    · rfl
    · split
      · rfl
      · have sent : sizes (outgoing env { t with mHandshake := (t.mHandshake.parseHttpRequest t.mBuffer).1 }
            (.http ((t.mHandshake.parseHttpRequest t.mBuffer).1.generateHttpResponse env.sha1))).2 = sizes t :=
          http_sizes _
        split
        · rename_i e next result
          rw [result] at sent
          exact sent
        · rename_i accepted next result
          rw [result] at sent
          exact (changeState_sizes next .connected).trans sent

theorem sendPing_sizes : sizes (t.sendPing env).2 = sizes t := by
  have sent : sizes (t.sendFrame env { opcode := .ping, payload := [0, 0, 0, 0], mask := t.mIsClient }).2 =
      sizes t := by
    obtain ⟨effects, aside, quiet, only⟩ := sendFrame_aside env t
      { opcode := .ping, payload := [0, 0, 0, 0], mask := t.mIsClient }
    exact Aside.sizes aside ⟨quiet, fun sent member => by rw [only sent member]; simp⟩
  unfold sendPing
  split
  · rename_i e next result
    rw [← sent, result]
  · rename_i accepted next result
    rw [result] at sent
    refine Eq.trans ?_ sent
    unfold addOutstandingPing
    simp only
    split
    · exact changeState_sizes { next with mOutstandingPings := next.mOutstandingPings + 1 } .failed
    · rfl

theorem process_bounded (bounded : Bounded limit t) (message : Bytes) : Bounded limit (t.process env message).2 := by
  have pushed : Bounded limit { t with mBuffer := t.mBuffer ++ message } :=
    ⟨bounded.configured, bounded.pending, bounded.messages, bounded.pongs⟩
  have opened : Bounded limit (processHandshake env { t with mBuffer := t.mBuffer ++ message }).2 :=
    pushed.of_sizes processHandshake_sizes
  have rest (s : WsTransport) (kept : Bounded limit s) :
      Bounded limit (if s.state = .connected then if message = [] then s.sendPing env else s.processFrames env
        else (.ok (), s)).2 := by
    split_ifs
    · exact kept.of_sizes sendPing_sizes
    · exact processFrames_bounded kept
    · exact kept
  unfold process
  by_cases connecting : t.state = .connecting
  · simp only [if_pos connecting]
    rcases call : processHandshake env { t with mBuffer := t.mBuffer ++ message } with ⟨(e | ⟨⟨⟩⟩), s⟩
    · rw [call] at opened
      exact opened
    · rw [call] at opened
      exact rest s opened
  · simp only [if_neg connecting]
    exact rest _ pushed

theorem handleError_sizes (e : Exception) : sizes (t.handleError env e) = sizes t := by
  unfold handleError
  split
  · exact http_sizes _
  · rfl

theorem disconnect_sizes : sizes t.disconnect = sizes t := by
  unfold disconnect
  split
  · have told : sizes ((t.changeState .disconnected).recv none) = sizes (t.changeState .disconnected) := by
      simp [sizes, recv, note, delivered, sentFrames]
    exact told.trans (changeState_sizes _ _)
  · exact changeState_sizes _ _

theorem incoming_bounded (bounded : Bounded limit t) (message : Option Bytes) :
    Bounded limit (t.incoming env message) := by
  unfold incoming
  split
  · exact bounded
  · split
    · exact bounded.of_sizes disconnect_sizes
    · rename_i message
      have processed : Bounded limit (t.process env message).2 := process_bounded bounded message
      split
      · rename_i done result
        rw [result] at processed
        exact processed
      · rename_i e failed result
        rw [result] at processed
        exact processed.of_sizes (disconnect_sizes.trans (handleError_sizes e))

theorem foldl_bounded (messages : List (Option Bytes)) (bounded : Bounded limit t) :
    Bounded limit (messages.foldl (fun t message => t.incoming env message) t) := by
  induction messages generalizing t with
  | nil => exact bounded
  | cons message messages ih => exact ih (incoming_bounded bounded message)

theorem processes_bounded {chunk : Bytes} (processes : Processes env t chunk next) (bounded : Bounded limit t) :
    Bounded limit next := by
  have pushed : Bounded limit (push t chunk) := ⟨bounded.configured, bounded.pending, bounded.messages, bounded.pongs⟩
  cases processes with
  | opened full connected => exact pushed
  | handshake full connecting accepted connected =>
    have opened : Bounded limit ((push t chunk).processHandshake env).2 := pushed.of_sizes processHandshake_sizes
    rw [accepted] at opened
    exact opened

theorem round_bounded (round : Round env t next) (bounded : Bounded limit t) : Bounded limit next := by
  cases round with
  | @goOn parsed handled found moves result enough =>
    rw [bounded.configured] at found
    have kept : Bounded limit ({ t with mBuffer := parsed.buffer }.recvFrame env parsed.frame).2 :=
      recvFrame_bounded (bounded.rebuffer parsed.buffer) parsed.frame (parsed_short found)
    rw [result] at kept
    refine kept.of_sizes ?_
    unfold maskPong
    split <;> rfl

theorem Receives.bounded {after : WsTransport} (receives : Receives env t after) (bounded : Bounded limit t) :
    Bounded limit after := by
  induction receives with
  | now found moves =>
    rw [bounded.configured] at found
    exact recvFrame_bounded (bounded.rebuffer _) _ (parsed_short found)
  | later round _ ih => exact ih (round_bounded round bounded)

/-- In every run of `incoming` on any messages, whatever their frames say, the bounds hold after every call of
`recvFrame`, and `parseFrame` stays inside its buffer. -/
theorem always_bounded (env : Environment) (t : WsTransport) (pending : t.mPartial = [])
    (silent : delivered t.log = [] ∧ sentFrames t.log = []) (messages : List (Option Bytes)) :
    let reached := messages.foldl (fun t message => t.incoming env message) t
    Bounded t.mMaxMessageSize reached ∧
    (∀ chunk ready after, Processes env reached chunk ready → Receives env ready.skipIgnored after →
      Bounded t.mMaxMessageSize after) ∧
    ∀ buffer, parseFrameAt t.mMaxMessageSize buffer = .ok (parseFrame t.mMaxMessageSize buffer) ∧
      ∀ parsed, parseFrame t.mMaxMessageSize buffer = some parsed →
        parsed.position + parsed.frame.payload.length ≤ buffer.length ∧ parsed.buffer.length = buffer.length := by
  have fresh : Bounded t.mMaxMessageSize t := by
    refine ⟨rfl, by rw [pending]; exact Nat.zero_le _, ?_, ?_⟩
    · intro message member
      exact absurd (silent.1 ▸ member) List.not_mem_nil
    · intro sent member
      exact absurd (silent.2 ▸ member) List.not_mem_nil
  have run : Bounded t.mMaxMessageSize (messages.foldl (fun t message => t.incoming env message) t) :=
    foldl_bounded messages fresh
  refine ⟨run, ?_, ?_⟩
  · intro chunk ready after processes receives
    have start := processes_bounded processes run
    exact receives.bounded ⟨start.configured, start.pending, start.messages, start.pongs⟩
  · intro buffer
    exact ⟨parseFrameAt_eq _ buffer, fun parsed found => parseFrame_inside found⟩

end

/-- A client with a limit of three bytes reads a text of five. -/
theorem bounded_text :
    let reached := [some [0x81, 5, 65, 66, 67, 68, 69]].foldl
      (fun t message => t.incoming (accepting sampleKey) message) openClient
    Bounded 3 reached ∧
    (∀ chunk ready after, Processes (accepting sampleKey) reached chunk ready →
      Receives (accepting sampleKey) ready.skipIgnored after → Bounded 3 after) ∧
    ∀ buffer, parseFrameAt 3 buffer = .ok (parseFrame 3 buffer) ∧
      ∀ parsed, parseFrame 3 buffer = some parsed →
        parsed.position + parsed.frame.payload.length ≤ buffer.length ∧ parsed.buffer.length = buffer.length :=
  always_bounded (accepting sampleKey) openClient rfl ⟨rfl, rfl⟩ [some [0x81, 5, 65, 66, 67, 68, 69]]

end WebsocketClient.WsBounds
