import WebsocketClient.WsChunks

/-! The stream from the first byte of the handshake on: a run of `incoming` depends on the
bytes received, and not on how they were cut into chunks. -/

namespace WebsocketClient.WsStreams
open ByteString Http Frames Handshake Transports WsTransports WsTransport WsMessages WsChunks

section
variable {env : Environment}

theorem processFrames_ok (quiet : Quiet env) (t : WsTransport)
    (free : CloseFree t.mMaxMessageSize (t.mBuffer.drop t.mIgnoreLength)) :
    t.processFrames env = (.ok (), settle env t) := by
  have result : (t.processFrames env).1 = .ok () := by
    unfold processFrames
    by_cases start : t.skipIgnored.mIgnoreLength = 0
    · simp only [if_pos start]
      refine (frameLoop_rounds quiet _ (t.skipIgnored.mBuffer.length + 1) t.skipIgnored ?_ ?_ ?_).2
      · rw [skipIgnored_eq]
        exact free
      · omega
      · omega
    · simp only [if_neg start]
  rw [settle, ← result]

/-! ### One chunk -/

theorem incoming_open (t : WsTransport) (chunk : Bytes) (full : chunk ≠ []) (connected : t.state = .connected) :
    t.incoming env (some chunk) =
      match (push t chunk).processFrames env with
      | (.ok (), t) => t
      | (.error e, t) => (t.handleError env e).disconnect := by
  have processed : t.process env chunk = (push t chunk).processFrames env := by
    unfold process
    simp only [connected, reduceCtorEq, ↓reduceIte, if_neg full]
    rw [← connected]
    rfl
  rw [incoming, if_neg (fun closed => closed.2 connected)]
  rcases frames : (push t chunk).processFrames env with ⟨(e | ⟨⟨⟩⟩), next⟩ <;> simp only [processed, frames]

theorem incoming_connected (quiet : Quiet env) (t : WsTransport) (chunk : Bytes) (full : chunk ≠ [])
    (connected : t.state = .connected)
    (free : CloseFree t.mMaxMessageSize ((t.mBuffer ++ chunk).drop t.mIgnoreLength)) :
    t.incoming env (some chunk) = settle env (push t chunk) := by
  rw [incoming_open t chunk full connected, processFrames_ok quiet (push t chunk) free]

/-- The `try` block while the handshake is under way. -/
theorem process_connecting (t : WsTransport) (chunk : Bytes) (full : chunk ≠ [])
    (connecting : t.state = .connecting) :
    t.process env chunk =
      match (push t chunk).processHandshake env with
      | (.error e, t) => (.error e, t)
      | (.ok (), t) => if t.state = .connected then t.processFrames env else (.ok (), t) := by
  unfold process push
  simp only [if_pos connecting, if_neg full]
  generalize processHandshake env _ = handshake
  rcases handshake with ⟨(e | ⟨⟨⟩⟩), next⟩ <;> rfl

theorem incoming_connecting (t : WsTransport) (chunk : Bytes) (connecting : t.state = .connecting) :
    t.incoming env (some chunk) =
      match t.process env chunk with
      | (.ok (), t) => t
      | (.error e, t) => (t.handleError env e).disconnect := by
  unfold incoming
  exact if_neg (fun closed => closed.1 connecting)

theorem incoming_append (t : WsTransport) (chunk next : Bytes) (full : next ≠ [])
    (connecting : t.state = .connecting) :
    (push t chunk).incoming env (some next) = t.incoming env (some (chunk ++ next)) := by
  have joined : chunk ++ next ≠ [] := by simp [full]
  have pushed : push (push t chunk) next = push t (chunk ++ next) := by
    simp only [push, List.append_assoc]
  rw [incoming_connecting _ _ connecting, incoming_connecting (push t chunk) _ connecting,
    process_connecting _ _ joined connecting, process_connecting (push t chunk) _ full connecting, pushed]

def Refused (t : WsTransport) (buffer : Bytes) : Prop :=
  t.mIsClient = false ∧ isHttpRequest buffer = false

/-- While the head is incomplete, the chunk is kept. -/
theorem incoming_partial (t : WsTransport) (chunk : Bytes) (full : chunk ≠ [])
    (connecting : t.state = .connecting) (valid : ¬Refused t (t.mBuffer ++ chunk))
    (incomplete : ∀ lines after, ¬Head (t.mBuffer ++ chunk) lines after) :
    t.incoming env (some chunk) = push t chunk := by
  have handshake : (push t chunk).processHandshake env = (.ok (), push t chunk) := by
    have none : (parseHttpLines (push t chunk).mBuffer).1 = 0 :=
      (parseHttpLines_zero_iff _).mpr incomplete
    unfold processHandshake
    cases client : (push t chunk).mIsClient with
    | true => simp only [↓reduceIte, WsHandshake.parseHttpResponse, none]
    | false =>
      have started : isHttpRequest (push t chunk).mBuffer ≠ false := fun bad => valid ⟨client, bad⟩
      simp only [Bool.false_eq_true, ↓reduceIte, WsHandshake.parseHttpRequest, if_neg started, none]
      rw [← client]
  have waiting : (push t chunk).state ≠ .connected := by
    change t.state ≠ .connected
    rw [connecting]
    decide
  rw [incoming_connecting _ _ connecting, process_connecting _ _ full connecting, handshake]
  simp only [if_neg waiting]

def answers : Exception → List Effect
  | .requestError _ code => [.outgoing (.http (generateHttpError code))]
  | _ => []

theorem failed_eq (quiet : Quiet env) (t : WsTransport) (e : Exception)
    (connecting : t.state = .connecting) :
    (t.handleError env e).disconnect = { t with
      state := .failed
      sends := t.sends + (answers e).length
      log := t.log ++ answers e ++ [.stateChange .failed] } := by
  obtain ⟨result, answer⟩ := quiet t.sends
  cases e <;> simp [handleError, sendHttpError, outgoing, answer, disconnect, changeState, connecting, answers]

/-- What can be told of a transport from outside: a failed one has no use for its buffer. -/
def outcome (t : WsTransport) : WsTransport :=
  if t.state = .failed then { t with mBuffer := [], mHandshake := {} } else t

/-- What a complete head leads to, an exception or an open connection. -/
def accept (env : Environment) (t : WsTransport) (lines : List Bytes) : Except Exception WsTransport :=
  if t.mIsClient then
    (t.mHandshake.readResponse env.sha1 lines).map (fun _ => t.changeState .connected)
  else
    let (handshake, result) := t.mHandshake.readRequest lines
    let t := { t with mHandshake := handshake }
    result.map (fun _ => (t.sendHttpResponse env).2.changeState .connected)

theorem processHandshake_head (quiet : Quiet env) (t : WsTransport) (lines : List Bytes) (after : Bytes)
    (valid : ¬Refused t t.mBuffer) (head : Head t.mBuffer lines after) :
    ∃ handshake, t.processHandshake env =
      match accept env t lines with
      | .error e => (.error e, { t with mHandshake := handshake })
      | .ok opened => (.ok (), { opened with mBuffer := after }) := by
  have size := head.length_lt
  have nonzero : t.mBuffer.length - after.length ≠ 0 := by omega
  unfold processHandshake accept
  cases client : t.mIsClient with
  | true =>
    refine ⟨t.mHandshake, ?_⟩
    simp only [↓reduceIte, WsHandshake.parseHttpResponse, parseHttpLines_head head, if_neg nonzero]
    cases t.mHandshake.readResponse env.sha1 lines with
    | error e =>
      simp only [Except.map]
      rw [← client]
    | ok _ =>
      simp only [Except.map, if_neg nonzero, changeState]
      split_ifs <;> simp only [head.drop]
  | false =>
    obtain ⟨result, answer⟩ := quiet t.sends
    have started : isHttpRequest t.mBuffer ≠ false := fun bad => valid ⟨client, bad⟩
    refine ⟨(t.mHandshake.readRequest lines).1, ?_⟩
    simp only [Bool.false_eq_true, ↓reduceIte, WsHandshake.parseHttpRequest, if_neg started,
      parseHttpLines_head head, if_neg nonzero]
    rcases t.mHandshake.readRequest lines with ⟨handshake, (e | ⟨⟨⟩⟩)⟩
    · simp only [Except.map]
    · simp only [Except.map, if_neg nonzero, sendHttpResponse, outgoing, answer, changeState]
      split_ifs <;> simp only [head.drop]

theorem accept_push (t : WsTransport) (bytes : Bytes) (lines : List Bytes) (quiet : Quiet env) :
    accept env (push t bytes) lines = (accept env t lines).map (push · bytes) := by
  obtain ⟨result, answer⟩ := quiet t.sends
  unfold accept push
  by_cases client : t.mIsClient = true
  · simp only [if_pos client]
    cases t.mHandshake.readResponse env.sha1 lines with
    | error e => rfl
    | ok _ =>
      simp only [Except.map, changeState]
      split_ifs <;> rfl
  · simp only [if_neg client]
    rcases t.mHandshake.readRequest lines with ⟨handshake, (e | ⟨⟨⟩⟩)⟩
    · rfl
    · simp only [Except.map, sendHttpResponse, outgoing, answer, changeState]
      split_ifs <;> rfl

structure Opened (t opened : WsTransport) : Prop where
  state : opened.state = .connected
  limit : opened.mMaxMessageSize = t.mMaxMessageSize
  ignore : opened.mIgnoreLength = t.mIgnoreLength

theorem accept_opened (quiet : Quiet env) (t opened : WsTransport) (lines : List Bytes)
    (connecting : t.state = .connecting) (accepted : accept env t lines = .ok opened) :
    Opened t opened := by
  obtain ⟨result, answer⟩ := quiet t.sends
  unfold accept at accepted
  cases client : t.mIsClient with
  | true =>
    rw [client] at accepted
    cases read : t.mHandshake.readResponse env.sha1 lines with
    | error e => simp [read, Except.map] at accepted
    | ok _ =>
      simp only [read, ↓reduceIte, Except.map, changeState, connecting, reduceCtorEq,
        Except.ok.injEq] at accepted
      rw [← accepted]
      constructor <;> rfl
  | false =>
    rw [client] at accepted
    rcases read : t.mHandshake.readRequest lines with ⟨handshake, (e | ⟨⟨⟩⟩)⟩
    · simp [read, Except.map] at accepted
    · simp only [Bool.false_eq_true, ↓reduceIte, read, Except.map, sendHttpResponse, outgoing, answer,
        changeState, connecting, reduceCtorEq, Except.ok.injEq] at accepted
      rw [← accepted]
      constructor <;> rfl

/-- What remains of a transport whose handshake failed. -/
def refusal (t : WsTransport) (e : Exception) : WsTransport :=
  { t with
    mHandshake := {}
    mBuffer := []
    state := .failed
    sends := t.sends + (answers e).length
    log := t.log ++ answers e ++ [.stateChange .failed] }

theorem incoming_refused (quiet : Quiet env) (t : WsTransport) (chunk : Bytes) (full : chunk ≠ [])
    (connecting : t.state = .connecting) (refused : Refused t (t.mBuffer ++ chunk)) :
    outcome (t.incoming env (some chunk)) =
      refusal t (.requestError (text "Invalid HTTP request for WebSocket") 400) := by
  have handshake : (push t chunk).processHandshake env =
      (.error (.requestError (text "Invalid HTTP request for WebSocket") 400), push t chunk) := by
    have client : (push t chunk).mIsClient = false := refused.1
    have invalid : isHttpRequest (push t chunk).mBuffer = false := refused.2
    unfold processHandshake
    simp only [client, Bool.false_eq_true, ↓reduceIte, WsHandshake.parseHttpRequest, if_pos invalid]
    rw [← client]
  rw [incoming_connecting _ _ connecting, process_connecting _ _ full connecting, handshake]
  simp only
  rw [failed_eq quiet (push t chunk) _ connecting, outcome, if_pos rfl]
  rfl

theorem incoming_head_error (quiet : Quiet env) (t : WsTransport) (chunk : Bytes) (full : chunk ≠ [])
    (connecting : t.state = .connecting) (lines : List Bytes) (after : Bytes) (e : Exception)
    (valid : ¬Refused t (t.mBuffer ++ chunk)) (head : Head (t.mBuffer ++ chunk) lines after)
    (rejected : accept env t lines = .error e) :
    outcome (t.incoming env (some chunk)) = refusal t e := by
  obtain ⟨handshake, processed⟩ := processHandshake_head quiet (push t chunk) lines after valid head
  rw [accept_push t chunk lines quiet, rejected] at processed
  rw [incoming_connecting _ _ connecting, process_connecting _ _ full connecting, processed]
  have failed := failed_eq quiet { push t chunk with mHandshake := handshake } e connecting
  simp only [Except.map]
  rw [failed, outcome, if_pos rfl]
  rfl

theorem incoming_head_ok (quiet : Quiet env) (t opened : WsTransport) (chunk : Bytes) (full : chunk ≠ [])
    (connecting : t.state = .connecting) (lines : List Bytes) (after : Bytes)
    (valid : ¬Refused t (t.mBuffer ++ chunk)) (head : Head (t.mBuffer ++ chunk) lines after)
    (accepted : accept env t lines = .ok opened)
    (free : CloseFree t.mMaxMessageSize (after.drop t.mIgnoreLength)) :
    t.incoming env (some chunk) = settle env { opened with mBuffer := after } := by
  have kept := accept_opened quiet t opened lines connecting accepted
  obtain ⟨handshake, processed⟩ := processHandshake_head quiet (push t chunk) lines after valid head
  rw [accept_push t chunk lines quiet, accepted] at processed
  rw [← kept.limit, ← kept.ignore] at free
  have frames := processFrames_ok quiet { opened with mBuffer := after } free
  rw [incoming_connecting _ _ connecting, process_connecting _ _ full connecting, processed]
  simp only [Except.map, push, kept.state, ↓reduceIte]
  rw [← kept.state, frames]

/-! ### Chunks -/

/-- No CLOSE comes, and every frame length has its top bit clear. -/
def Acceptable (t : WsTransport) (stream : Bytes) : Prop :=
  match t.state with
  | .connecting => ∀ lines after, Head (t.mBuffer ++ stream) lines after →
      CloseFree t.mMaxMessageSize (after.drop t.mIgnoreLength)
  | .connected => CloseFree t.mMaxMessageSize ((t.mBuffer ++ stream).drop t.mIgnoreLength)
  | _ => True

def feed (env : Environment) (t : WsTransport) (chunk : Bytes) : WsTransport :=
  t.incoming env (some chunk)

theorem outcome_state (t : WsTransport) : (outcome t).state = t.state := by
  unfold outcome
  split_ifs <;> rfl

theorem feed_failed (t : WsTransport) (chunk : Bytes) (failed : t.state = .failed) :
    feed env t chunk = t := by
  rw [feed, incoming, if_pos (by rw [failed]; decide)]

theorem feed_congruence (s t : WsTransport) (chunk : Bytes) (same : outcome s = outcome t) :
    outcome (feed env s chunk) = outcome (feed env t chunk) := by
  have states : s.state = t.state := by rw [← outcome_state s, same, outcome_state]
  by_cases failed : t.state = .failed
  · rw [feed_failed s chunk (states.trans failed), feed_failed t chunk failed, same]
  · rw [outcome, outcome, if_neg failed, if_neg (fun bad => failed (states ▸ bad))] at same
    rw [same]

theorem Acceptable.initial (t : WsTransport) (first second : Bytes)
    (accepted : Acceptable t (first ++ second)) : Acceptable t first := by
  unfold Acceptable at *
  cases state : t.state with
  | connecting =>
    simp only [state, ← List.append_assoc] at accepted ⊢
    intro lines after head
    have whole := accepted lines (after ++ second) (head.append second)
    rw [List.drop_append] at whole
    exact whole.initial _ _ rfl
  | connected =>
    simp only [state, ← List.append_assoc] at accepted ⊢
    rw [List.drop_append] at accepted
    exact accepted.initial _ _ rfl
  | _ => simp only

theorem settle_feed (quiet : Quiet env) (t : WsTransport) (bytes : Bytes) (full : bytes ≠ [])
    (connected : t.state = .connected)
    (free : CloseFree t.mMaxMessageSize ((t.mBuffer ++ bytes).drop t.mIgnoreLength)) :
    feed env (settle env t) bytes = settle env (push t bytes) := by
  have resumes := settle_resumes quiet bytes t free
  rw [feed, incoming_connected quiet _ bytes full (resumes.state.trans connected) resumes.free,
    resumes.same]

theorem feed_merge_refusal (t : WsTransport) (first second : Bytes) (e : Exception)
    (one : outcome (feed env t first) = refusal t e)
    (both : outcome (feed env t (first ++ second)) = refusal t e) :
    outcome (feed env (feed env t first) second) = outcome (feed env t (first ++ second)) := by
  have failed : (feed env t first).state = .failed := by
    rw [← outcome_state, one]
    rfl
  rw [feed_failed _ second failed, one, both]

theorem feed_merge_head (quiet : Quiet env) (t : WsTransport) (first second : Bytes) (full : first ≠ [])
    (full' : second ≠ []) (accepted : Acceptable t (first ++ second)) (connecting : t.state = .connecting)
    (lines : List Bytes) (after : Bytes) (started : ¬Refused t (t.mBuffer ++ first))
    (head : Head (t.mBuffer ++ first) lines after) :
    outcome (feed env (feed env t first) second) = outcome (feed env t (first ++ second)) := by
  have joined : first ++ second ≠ [] := by simp [full]
  have before := accepted.initial
  simp only [Acceptable, connecting] at accepted before
  have shape : t.mBuffer ++ (first ++ second) = t.mBuffer ++ first ++ second :=
    (List.append_assoc _ _ _).symm
  have whole : Head (t.mBuffer ++ (first ++ second)) lines (after ++ second) := by
    rw [shape]
    exact head.append second
  have valid : ¬Refused t (t.mBuffer ++ (first ++ second)) := by
    rw [shape]
    intro bad
    exact started ⟨bad.1, (isHttpRequest_append_head head second).symm.trans bad.2⟩
  cases answer : accept env t lines with
  | error e =>
    exact feed_merge_refusal t first second e
      (incoming_head_error quiet t first full connecting lines after e started head answer)
      (incoming_head_error quiet t _ joined connecting lines _ e valid whole answer)
  | ok opened =>
    have kept := accept_opened quiet t opened lines connecting answer
    have rest := accepted lines _ whole
    have one : feed env t first = settle env { opened with mBuffer := after } :=
      incoming_head_ok quiet t opened first full connecting lines after started head answer
        (before lines after head)
    have both : feed env t (first ++ second) = settle env { opened with mBuffer := after ++ second } :=
      incoming_head_ok quiet t opened _ joined connecting lines _ valid whole answer rest
    rw [← kept.limit, ← kept.ignore] at rest
    rw [one, both, settle_feed quiet { opened with mBuffer := after } second full' kept.state rest]
    rfl

theorem feed_merge_connecting (quiet : Quiet env) (t : WsTransport) (first second : Bytes) (full : first ≠ [])
    (full' : second ≠ []) (accepted : Acceptable t (first ++ second)) (connecting : t.state = .connecting) :
    outcome (feed env (feed env t first) second) = outcome (feed env t (first ++ second)) := by
  by_cases refused : Refused t (t.mBuffer ++ first)
  · have joined : first ++ second ≠ [] := by simp [full]
    have later : Refused t (t.mBuffer ++ (first ++ second)) := by
      rw [← List.append_assoc]
      exact ⟨refused.1, isHttpRequest_append_false _ second refused.2⟩
    exact feed_merge_refusal t first second _ (incoming_refused quiet t first full connecting refused)
      (incoming_refused quiet t _ joined connecting later)
  · by_cases found : ∃ lines after, Head (t.mBuffer ++ first) lines after
    · obtain ⟨lines, after, head⟩ := found
      exact feed_merge_head quiet t first second full full' accepted connecting lines after refused head
    · have waiting : feed env t first = push t first :=
        incoming_partial t first full connecting refused
          (fun lines after head => found ⟨lines, after, head⟩)
      rw [waiting, feed, incoming_append t first second full' connecting, feed]

theorem feed_merge_connected (quiet : Quiet env) (t : WsTransport) (first second : Bytes) (full : first ≠ [])
    (full' : second ≠ []) (accepted : Acceptable t (first ++ second)) (connected : t.state = .connected) :
    outcome (feed env (feed env t first) second) = outcome (feed env t (first ++ second)) := by
  have joined : first ++ second ≠ [] := by simp [full]
  have before := accepted.initial
  simp only [Acceptable, connected] at accepted before
  have one : feed env t first = settle env (push t first) :=
    incoming_connected quiet t first full connected before
  have both : feed env t (first ++ second) = settle env (push t (first ++ second)) :=
    incoming_connected quiet t _ joined connected accepted
  rw [← List.append_assoc] at accepted
  rw [one, both, settle_feed quiet (push t first) second full' connected accepted]
  simp only [push, List.append_assoc]

theorem feed_merge (quiet : Quiet env) (t : WsTransport) (first second : Bytes) (full : first ≠ [])
    (full' : second ≠ []) (accepted : Acceptable t (first ++ second)) :
    outcome (feed env (feed env t first) second) = outcome (feed env t (first ++ second)) := by
  by_cases connecting : t.state = .connecting
  · exact feed_merge_connecting quiet t first second full full' accepted connecting
  · by_cases connected : t.state = .connected
    · exact feed_merge_connected quiet t first second full full' accepted connected
    · have closed : ∀ chunk, feed env t chunk = t := by
        intro chunk
        rw [feed, incoming, if_pos ⟨connecting, connected⟩]
      rw [closed, closed, closed]

theorem incremental (quiet : Quiet env) :
    Library.Chunks.Incremental (feed env) (fun s t => outcome s = outcome t) Acceptable where
  equivalence := ⟨fun _ => rfl, Eq.symm, Eq.trans⟩
  congruence := feed_congruence
  initial := Acceptable.initial
  merge := feed_merge quiet

end

end WebsocketClient.WsStreams
