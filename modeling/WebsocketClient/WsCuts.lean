import WebsocketClient.WsStreams

/-! Two runs on one stream, cut differently. Their masking keys differ, and so does what they
write over a PING in the buffer, but nothing else. -/

namespace WebsocketClient.WsCuts
open ByteString Messages Http Frames Handshake Transports WsTransports WsTransport WsMessages WsChunks
open WsStreams

/-- The HTTP texts and the frames given to the lower transport, the frames before masking. -/
def outgoings (log : List Effect) : List (Bytes ⊕ Frame) :=
  log.filterMap (fun effect => match effect with
    | .outgoing (.http text) => some (.inl text)
    | .outgoing (.frame sent _) => some (.inr sent)
    | _ => none)

def Effect.withoutKey : Effect → Effect
  | .outgoing (.frame sent _) => .outgoing (.frame sent ⟨[0, 0, 0, 0], rfl⟩)
  | effect => effect

def withoutKeys (t : WsTransport) : WsTransport := { t with log := t.log.map Effect.withoutKey }

@[simp] theorem withoutKey_twice (effect : Effect) :
    Effect.withoutKey (Effect.withoutKey effect) = Effect.withoutKey effect := by
  rcases effect with _ | _ | (_ | _) | _ <;> rfl

@[simp] theorem map_withoutKey_twice (log : List Effect) :
    (log.map Effect.withoutKey).map Effect.withoutKey = log.map Effect.withoutKey := by
  rw [List.map_map]
  congr 1
  funext effect
  exact withoutKey_twice effect

theorem delivered_withoutKeys (log : List Effect) :
    delivered (log.map Effect.withoutKey) = delivered log := by
  unfold delivered
  rw [List.filterMap_map]
  congr 1
  funext effect
  rcases effect with _ | _ | (_ | _) | _ <;> rfl

theorem outgoings_withoutKeys (log : List Effect) :
    outgoings (log.map Effect.withoutKey) = outgoings log := by
  unfold outgoings
  rw [List.filterMap_map]
  congr 1
  funext effect
  rcases effect with _ | _ | (_ | _) | _ <;> rfl

section
variable {env env' : Environment}

theorem handled_withoutKeys (quiet : Quiet env) (quiet' : Quiet env') (t : WsTransport) (frame : Frame) :
    withoutKeys (handled env t frame) = withoutKeys (handled env' (withoutKeys t) frame) := by
  unfold handled recvFrame
  have close : withoutKeys (t.close env) = withoutKeys ((withoutKeys t).close env') := by
    simp only [close_eq quiet, close_eq quiet', withoutKeys]
    split_ifs
    · simp only [map_withoutKey_twice]
    · simp only [List.map_append, map_withoutKey_twice]
      rfl
  have data : withoutKeys (t.recvData frame) = withoutKeys ((withoutKeys t).recvData frame) := by
    unfold recvData recv note withoutKeys
    by_cases pending : t.mPartial = [] <;> cases frame.fin <;>
      simp only [pending, ↓reduceIte, List.map_append, map_withoutKey_twice, Bool.false_eq_true]
  cases frame.opcode with
  | textFrame => exact data
  | binaryFrame => exact data
  | continuation =>
    simp only [recvContinuation, recv, note, withoutKeys]
    split_ifs <;> simp only [List.map_append, map_withoutKey_twice]
  | ping =>
    obtain ⟨result, answer⟩ := quiet t.sends
    obtain ⟨result', answer'⟩ := quiet' t.sends
    simp only [sendFrame, outgoing, answer, answer', withoutKeys, List.map_append, map_withoutKey_twice]
    rfl
  | pong => simp only [withoutKeys, map_withoutKey_twice]
  | close =>
    simp only [close_eq quiet, close_eq quiet', withoutKeys, changeState]
    split_ifs <;> simp only [List.map_append, map_withoutKey_twice] <;> rfl
  | other code => exact close

/-- Equal but for the masking keys in the logs. -/
def Alike (s t : WsTransport) : Prop := withoutKeys s = withoutKeys t

theorem Alike.handled (quiet : Quiet env) (quiet' : Quiet env') (s t : WsTransport) (frame : Frame)
    (alike : Alike s t) : Alike (handled env s frame) (handled env' t frame) := by
  unfold Alike at *
  rw [handled_withoutKeys quiet quiet' s frame, alike, ← handled_withoutKeys quiet' quiet' t frame]

theorem Alike.buffer {s t : WsTransport} (alike : Alike s t) : s.mBuffer = t.mBuffer := by
  have field := congrArg mBuffer alike
  exact field

theorem Alike.ignore {s t : WsTransport} (alike : Alike s t) : s.mIgnoreLength = t.mIgnoreLength := by
  have field := congrArg mIgnoreLength alike
  exact field

theorem Alike.limit {s t : WsTransport} (alike : Alike s t) :
    s.mMaxMessageSize = t.mMaxMessageSize := by
  have field := congrArg mMaxMessageSize alike
  exact field

theorem Alike.setBuffer {s t : WsTransport} (alike : Alike s t) (buffer : Bytes) (ignore : Nat) :
    Alike { s with mBuffer := buffer, mIgnoreLength := ignore }
      { t with mBuffer := buffer, mIgnoreLength := ignore } := by
  have both := congrArg
    (fun u : WsTransport => { u with mBuffer := buffer, mIgnoreLength := ignore }) alike
  exact both

theorem alike_outcome {s t : WsTransport} (alike : Alike s t) : Alike (outcome s) (outcome t) := by
  have states := congrArg state alike
  change s.state = t.state at states
  by_cases failed : t.state = .failed
  · have both := congrArg (fun u : WsTransport => { u with mBuffer := [], mHandshake := {} }) alike
    rw [outcome, outcome, if_pos failed, if_pos (states.trans failed)]
    exact both
  · rw [outcome, outcome, if_neg failed, if_neg (fun bad => failed (states ▸ bad))]
    exact alike

theorem Alike.skipIgnored {s t : WsTransport} (alike : Alike s t) :
    Alike s.skipIgnored t.skipIgnored := by
  rw [skipIgnored_eq, skipIgnored_eq, alike.buffer, alike.ignore]
  exact alike.setBuffer _ _

theorem Alike.consume (quiet : Quiet env) (quiet' : Quiet env') {s t : WsTransport}
    (alike : Alike s t) (h : Header) : Alike (consume env s h) (consume env' t h) := by
  unfold WsChunks.consume
  rw [alike.buffer, alike.limit]
  exact (Alike.handled quiet quiet' s t _ alike).setBuffer _ _

theorem Alike.settle (quiet : Quiet env) (quiet' : Quiet env') (t : WsTransport) :
    ∀ s, Alike s t → CloseFree t.mMaxMessageSize (t.mBuffer.drop t.mIgnoreLength) →
      Alike (settle env' s) (settle env t) := by
  induction t using settle_induction env with
  | skip t ih =>
    intro s alike free
    rw [← settle_skipIgnored s, ← settle_skipIgnored t]
    apply ih s.skipIgnored alike.skipIgnored
    have stream := drop_drop_append t.mBuffer [] t.mIgnoreLength
    simp only [List.append_nil] at stream
    rw [skipIgnored_eq]
    simp only [stream]
    exact free
  | ignoring t skipped start =>
    intro s alike free
    have start' : s.skipIgnored.mIgnoreLength ≠ 0 := by
      rw [alike.skipIgnored.ignore, skipped]
      exact start
    rw [settle_ignoring t (by rw [skipped]; exact start), settle_ignoring s start']
    exact alike.skipIgnored
  | waiting t start waiting =>
    intro s alike free
    rw [settle_waiting t start waiting, settle_waiting s (alike.ignore.trans start)]
    · exact alike
    · rw [alike.limit, alike.buffer]
      exact waiting
  | frame t h start complete ih =>
    intro s alike free
    rw [start, List.drop_zero] at free
    obtain ⟨noClose, small, rest⟩ := free.next complete
    have kept := handled_kept quiet t (h.frame t.mMaxMessageSize t.mBuffer) noClose
    have one := settle_frame quiet t h start complete noClose small rest
    rw [← alike.limit, ← alike.buffer] at complete rest
    have other := settle_frame quiet' s h (alike.ignore.trans start) complete noClose small rest
    rw [one, other]
    apply ih _ (alike.consume quiet' quiet h)
    rw [alike.limit, alike.buffer, ← kept.limit] at rest
    exact rest

theorem accept_hash (quiet : Quiet env) (quiet' : Quiet env') (hash : env.sha1 = env'.sha1)
    (t : WsTransport) (lines : List Bytes) : accept env t lines = accept env' t lines := by
  obtain ⟨result, answer⟩ := quiet t.sends
  obtain ⟨result', answer'⟩ := quiet' t.sends
  simp only [accept, hash, sendHttpResponse, outgoing, answer, answer']

theorem feed_alike (quiet : Quiet env) (quiet' : Quiet env') (hash : env.sha1 = env'.sha1)
    (t : WsTransport) (chunk : Bytes) (full : chunk ≠ []) (connecting : t.state = .connecting)
    (accepted : Acceptable t chunk) :
    Alike (outcome (feed env t chunk)) (outcome (feed env' t chunk)) := by
  simp only [Acceptable, connecting] at accepted
  by_cases refused : Refused t (t.mBuffer ++ chunk)
  · rw [feed, feed, incoming_refused quiet t chunk full connecting refused,
      incoming_refused quiet' t chunk full connecting refused]
    rfl
  · by_cases found : ∃ lines after, Head (t.mBuffer ++ chunk) lines after
    · obtain ⟨lines, after, head⟩ := found
      cases answer : accept env t lines with
      | error e =>
        have answer' := answer
        rw [accept_hash quiet quiet' hash] at answer'
        rw [feed, feed, incoming_head_error quiet t chunk full connecting lines after e refused head answer,
          incoming_head_error quiet' t chunk full connecting lines after e refused head answer']
        rfl
      | ok opened =>
        have answer' := answer
        rw [accept_hash quiet quiet' hash] at answer'
        have free := accepted lines after head
        have kept := accept_opened quiet t opened lines connecting answer
        rw [feed, feed, incoming_head_ok quiet t opened chunk full connecting lines after refused head answer
          free, incoming_head_ok quiet' t opened chunk full connecting lines after refused head answer' free]
        rw [← kept.limit, ← kept.ignore] at free
        exact alike_outcome (Alike.settle quiet' quiet { opened with mBuffer := after } _ rfl free)
    · have incomplete : ∀ lines after, ¬Head (t.mBuffer ++ chunk) lines after :=
        fun lines after head => found ⟨lines, after, head⟩
      rw [feed, feed, incoming_partial t chunk full connecting refused incomplete,
        incoming_partial t chunk full connecting refused incomplete]
      rfl

end

/-- What two runs on one stream have in common. -/
structure SameRun (one other : WsTransport) : Prop where
  delivered : delivered one.log = delivered other.log
  outgoings : outgoings one.log = outgoings other.log
  state : one.state = other.state
  unfinished : one.state ≠ .failed → one.mPartial = other.mPartial
  buffer : one.state ≠ .failed → one.mBuffer = other.mBuffer
  ignore : one.state ≠ .failed → one.mIgnoreLength = other.mIgnoreLength

theorem outcome_log (t : WsTransport) : (outcome t).log = t.log := by
  unfold outcome
  split_ifs <;> rfl

theorem Alike.sameRun {one other : WsTransport} (alike : Alike (outcome one) (outcome other)) :
    SameRun one other := by
  have logs := congrArg log alike
  have states := congrArg WsTransport.state alike
  change (outcome one).state = (outcome other).state at states
  change (outcome one).log.map _ = (outcome other).log.map _ at logs
  rw [outcome_state, outcome_state] at states
  rw [outcome_log, outcome_log] at logs
  have fields : one.state ≠ .failed → Alike one other := by
    intro alive
    rw [outcome, outcome, if_neg alive, if_neg (states ▸ alive)] at alike
    exact alike
  refine ⟨?_, ?_, states, ?_, ?_, ?_⟩
  · rw [← delivered_withoutKeys, logs, delivered_withoutKeys]
  · rw [← outgoings_withoutKeys, logs, outgoings_withoutKeys]
  · intro alive
    have field := congrArg mPartial (fields alive)
    exact field
  · intro alive
    exact (fields alive).buffer
  · intro alive
    exact (fields alive).ignore

/-- Two runs of a connecting transport on one stream, cut into chunks in two ways and sent under
two sequences of masking keys. The stream has no CLOSE, and every length has its top bit clear. -/
theorem incoming_cut_independent (env env' : Environment) (quiet : Quiet env) (quiet' : Quiet env')
    (hash : env.sha1 = env'.sha1) (t : WsTransport) (connecting : t.state = .connecting)
    (chunks others : List Bytes) (full : ∀ c ∈ chunks, c ≠ []) (otherFull : ∀ c ∈ others, c ≠ [])
    (stream : chunks.flatten = others.flatten)
    (noClose : ∀ lines after, Head (t.mBuffer ++ chunks.flatten) lines after →
      CloseFree t.mMaxMessageSize (after.drop t.mIgnoreLength)) :
    SameRun (chunks.foldl (feed env) t) (others.foldl (feed env') t) := by
  have accepted : Acceptable t chunks.flatten := by
    simp only [Acceptable, connecting]
    exact noClose
  apply Alike.sameRun
  cases chunks with
  | nil =>
    rw [Library.Chunks.flatten_eq_nil otherFull stream.symm, List.foldl_nil, List.foldl_nil]
    rfl
  | cons chunk chunks =>
    cases others with
    | nil => exact absurd (Library.Chunks.flatten_eq_nil full stream) (by simp)
    | cons other others =>
      have some' : (chunk :: chunks).flatten ≠ [] := by
        intro empty
        exact absurd (Library.Chunks.flatten_eq_nil full empty) (by simp)
      have one := (incremental quiet).foldl_flatten t chunk chunks full accepted
      have two := (incremental quiet').foldl_flatten t other others otherFull (stream ▸ accepted)
      have whole := feed_alike quiet quiet' hash t _ some' connecting accepted
      rw [← one, stream, ← two] at whole
      exact whole

def connectingServer : WsTransport := { openClient with mIsClient := false, state := .connecting }

def requestAndText : Bytes :=
  text "GET / HTTP/1.1\r\nHost: a\r\nUpgrade: websocket\r\nSec-WebSocket-Key: k\r\n\r\n" ++
    [0x81, 1, 65]

theorem requestAndText_closeFree (lines : List Bytes) (after : Bytes)
    (head : Head requestAndText lines after) : CloseFree 3 after := by
  have size : (parseHttpLines requestAndText).1 = 69 := by decide
  rw [parseHttpLines_head head] at size
  have rest := head.drop
  simp only at size
  rw [size] at rest
  rw [← rest]
  refine .frame (h := ⟨.textFrame, true, none, 1, 2⟩) ?_ (by decide) (by decide) ?_
  · exact ⟨by decide, by decide⟩
  · exact .partialFrame ((parseFrame_none_iff 3 _).mp (by decide))

theorem accepting_sha1 (key other : MaskingKey) : (accepting key).sha1 = (accepting other).sha1 := rfl

theorem accepting_quiet (key : MaskingKey) : Quiet (accepting key) := fun _ => ⟨true, rfl⟩

/-- A cut inside the request, and one inside the payload of the frame. -/
def requestAndTextCut : List Bytes := [requestAndText.take 9, (requestAndText.drop 9).take 62, [65]]

theorem requestAndTextCut_flatten : [requestAndText].flatten = requestAndTextCut.flatten := by decide

theorem incoming_cut_inside :
    SameRun
      ([requestAndText].foldl (feed (accepting ⟨[0, 0, 0, 0], rfl⟩)) connectingServer)
      (requestAndTextCut.foldl (feed (accepting ⟨[1, 2, 3, 4], rfl⟩)) connectingServer) := by
  refine incoming_cut_independent _ _ (accepting_quiet _) (accepting_quiet _) (accepting_sha1 _ _)
    connectingServer rfl _ _ (by decide) (by decide) requestAndTextCut_flatten ?_
  intro lines after head
  exact requestAndText_closeFree lines after (by simpa [connectingServer, openClient] using head)

end WebsocketClient.WsCuts
