import WebsocketClient.WsCuts
import WebsocketClient.WsUpgrade

/-! The server's half of the upgrade: what the transport makes of the stream of a client, and what it answers. -/

namespace WebsocketClient.WsServers
open ByteString Utils Http Handshake Transports WsTransports WsTransport WsChunks WsStreams WsCuts WsLogs WsUpgrades

/-! ### The lines of a request -/

/-- `requestLine >> method >> path`. -/
def method (line : Bytes) : Bytes := (extractWord line).1

def path (line : Bytes) : Bytes := (extractWord (extractWord line).2).1

def Missing (name : Bytes) (lines : List Bytes) : Prop := ∀ value, ¬FirstHeader asItStands name value lines

/-- The subprotocols of a request. One that names none leaves those of the server. -/
inductive Offers (own lines : List Bytes) : List Bytes → Prop where
  | named {value : Bytes} : FirstHeader asItStands (text "sec-websocket-protocol") value lines →
      Offers own lines (explode value comma)
  | unnamed : Missing (text "sec-websocket-protocol") lines → Offers own lines own

/-- The lines of a request for an upgrade, and the handshake that they leave to the server. -/
inductive Asks (own : List Bytes) : List Bytes → WsHandshake → Prop where
  | upgrade {line host value key : Bytes} {lines protocols : List Bytes} : method line = text "GET" →
      FirstHeader asItStands (text "host") host lines →
      FirstHeader asItStands (text "upgrade") value lines → value.map toLower = text "websocket" →
      FirstHeader asItStands (text "sec-websocket-key") key lines → Offers own lines protocols →
      Asks own (line :: lines) { mHost := host, mPath := path line, mProtocols := protocols, mKey := key }

/-- The lines of another request, and the code of the answer to it. -/
inductive Refuses : List Bytes → Nat → Prop where
  | empty : Refuses [] 400
  | method {line : Bytes} {lines : List Bytes} : method line ≠ text "GET" → Refuses (line :: lines) 405
  | host {line : Bytes} {lines : List Bytes} : method line = text "GET" → Missing (text "host") lines →
      Refuses (line :: lines) 400
  | upgrade {line host : Bytes} {lines : List Bytes} : method line = text "GET" →
      FirstHeader asItStands (text "host") host lines →
      (∀ value, FirstHeader asItStands (text "upgrade") value lines → value.map toLower ≠ text "websocket") →
      Refuses (line :: lines) 426
  | key {line host value : Bytes} {lines : List Bytes} : method line = text "GET" →
      FirstHeader asItStands (text "host") host lines →
      FirstHeader asItStands (text "upgrade") value lines → value.map toLower = text "websocket" →
      Missing (text "sec-websocket-key") lines → Refuses (line :: lines) 400

theorem find_eq_none_iff (lines : List Bytes) (name : Bytes) :
    find (parseHttpHeaders lines) name = none ↔ Missing name lines := by
  unfold Missing
  rw [Option.eq_none_iff_forall_ne_some]
  exact forall_congr' fun value => not_congr (find_eq_some_iff lines name value)

theorem readRequest_asks {h asked : WsHandshake} {lines : List Bytes} (asks : Asks h.mProtocols lines asked) :
    h.readRequest lines = (asked, .ok ()) := by
  cases asks with
  | upgrade get host upgrade websocket key offers =>
    rw [method] at get
    cases offers with
    | named protocol =>
      simp only [WsHandshake.readRequest, get, (find_eq_some_iff _ _ _).mpr host, (find_eq_some_iff _ _ _).mpr upgrade,
        websocket, (find_eq_some_iff _ _ _).mpr key, (find_eq_some_iff _ _ _).mpr protocol, ne_eq, not_true_eq_false,
        ↓reduceIte, path]
    | unnamed missing =>
      simp only [WsHandshake.readRequest, get, (find_eq_some_iff _ _ _).mpr host, (find_eq_some_iff _ _ _).mpr upgrade,
        websocket, (find_eq_some_iff _ _ _).mpr key, (find_eq_none_iff _ _).mpr missing, ne_eq, not_true_eq_false,
        ↓reduceIte, path]

theorem readRequest_refuses (h : WsHandshake) {lines : List Bytes} {code : Nat} (refuses : Refuses lines code) :
    ∃ left what, h.readRequest lines = (left, .error (.requestError what code)) := by
  cases refuses with
  | empty => exact ⟨_, _, rfl⟩
  | method other =>
    rw [method] at other
    simp only [WsHandshake.readRequest, if_pos other]
    exact ⟨_, _, rfl⟩
  | host get missing =>
    rw [method] at get
    simp only [WsHandshake.readRequest, get, (find_eq_none_iff _ _).mpr missing, ne_eq, not_true_eq_false, ↓reduceIte]
    exact ⟨_, _, rfl⟩
  | upgrade get host other =>
    rw [method] at get
    simp only [WsHandshake.readRequest, get, (find_eq_some_iff _ _ _).mpr host, ne_eq, not_true_eq_false, ↓reduceIte]
    split
    · exact ⟨_, _, rfl⟩
    · rename_i value found
      rw [if_pos (other value ((find_eq_some_iff _ _ _).mp found))]
      exact ⟨_, _, rfl⟩
  | key get host upgrade websocket missing =>
    rw [method] at get
    simp only [WsHandshake.readRequest, get, (find_eq_some_iff _ _ _).mpr host, (find_eq_some_iff _ _ _).mpr upgrade,
      websocket, (find_eq_none_iff _ _).mpr missing, ne_eq, not_true_eq_false, ↓reduceIte]
    exact ⟨_, _, rfl⟩

theorem asks_or_refuses (own lines : List Bytes) : (∃ asked, Asks own lines asked) ∨ ∃ code, Refuses lines code := by
  have found (name : Bytes) (lines : List Bytes) :
      (∃ value, FirstHeader asItStands name value lines) ∨ Missing name lines := by
    by_cases first : ∃ value, FirstHeader asItStands name value lines
    · exact .inl first
    · exact .inr fun value header => first ⟨value, header⟩
  cases lines with
  | nil => exact .inr ⟨400, .empty⟩
  | cons line lines =>
    by_cases get : method line = text "GET"
    · rcases found (text "host") lines with ⟨host, named⟩ | missing
      · by_cases websocket :
            ∃ value, FirstHeader asItStands (text "upgrade") value lines ∧ value.map toLower = text "websocket"
        · obtain ⟨value, upgrade, websocket⟩ := websocket
          rcases found (text "sec-websocket-key") lines with ⟨key, given⟩ | missing
          · rcases found (text "sec-websocket-protocol") lines with ⟨protocols, offered⟩ | missing
            · exact .inl ⟨_, .upgrade get named upgrade websocket given (.named offered)⟩
            · exact .inl ⟨_, .upgrade get named upgrade websocket given (.unnamed missing)⟩
          · exact .inr ⟨400, .key get named upgrade websocket missing⟩
        · exact .inr ⟨426, .upgrade get named fun value upgrade same => websocket ⟨value, upgrade, same⟩⟩
      · exact .inr ⟨400, .host get missing⟩
    · exact .inr ⟨405, .method get⟩

/-! ### Chunks -/

/-- The first bytes are no HTTP method, or the head is complete and is refused; the code says why. -/
def Rejected (stream : Bytes) (code : Nat) : Prop :=
  (isHttpRequest stream = false ∧ code = 400) ∨
    (isHttpRequest stream = true ∧ ∃ lines after, Head stream lines after ∧ Refuses lines code)

/-- A server that has answered a request and has opened. -/
def served (env : Environment) (t : WsTransport) (asked : WsHandshake) : WsTransport :=
  { t with
    mHandshake := asked
    mBuffer := []
    sends := t.sends + 1
    state := .connected
    log := t.log ++ [.outgoing (.http (asked.generateHttpResponse env.sha1))] ++ [.stateChange .connected] }

/-- The answer to a request that is refused is the last thing that a server does. -/
structure Failed (t : WsTransport) (code : Nat) (s : WsTransport) : Prop where
  state : s.state = .failed
  log : s.log = t.log ++ [.outgoing (.http (generateHttpError code))] ++ [.stateChange .failed]

/-- What a server makes of a stream. -/
inductive Outcome (env : Environment) (t : WsTransport) (stream : Bytes) : WsTransport → Prop where
  | waiting : isHttpRequest stream = true → (∀ lines after, ¬Head stream lines after) →
      Outcome env t stream { t with mBuffer := stream }
  | «open» {lines : List Bytes} {after : Bytes} {asked : WsHandshake} (rest : List Bytes) :
      isHttpRequest stream = true → Head stream lines after → Asks t.mHandshake.mProtocols lines asked →
      (∀ chunk ∈ rest, chunk ≠ []) → rest.flatten = after →
      Outcome env t stream (rest.foldl (feed env) (served env t asked))
  | failed {code : Nat} {s : WsTransport} : Rejected stream code → Failed t code s → Outcome env t stream s

section
variable {env : Environment} {t : WsTransport}

theorem Rejected.append {stream : Bytes} {code : Nat} (rejected : Rejected stream code) (chunk : Bytes) :
    Rejected (stream ++ chunk) code := by
  rcases rejected with ⟨invalid, same⟩ | ⟨valid, lines, after, head, refuses⟩
  · exact .inl ⟨isHttpRequest_append_false stream chunk invalid, same⟩
  · exact .inr ⟨(isHttpRequest_append_head head chunk).trans valid, lines, after ++ chunk, head.append chunk, refuses⟩

theorem accept_asks (quiet : Quiet env) (server : t.mIsClient = false) (connecting : t.state = .connecting)
    {lines : List Bytes} {asked : WsHandshake} (asks : Asks t.mHandshake.mProtocols lines asked) :
    accept env t lines = .ok (push (served env t asked) t.mBuffer) := by
  obtain ⟨result, answer⟩ := quiet t.sends
  have changes : t.state ≠ .connected := by
    rw [connecting]
    decide
  have other : t.mIsClient ≠ true := by
    rw [server]
    decide
  simp only [accept, if_neg other, readRequest_asks asks, Except.map, sendHttpResponse, outgoing, answer, changeState,
    if_neg changes]
  rfl

theorem accept_refuses (env : Environment) (server : t.mIsClient = false) {lines : List Bytes} {code : Nat}
    (refuses : Refuses lines code) :
    ∃ what, accept env t lines = .error (.requestError what code) := by
  obtain ⟨left, what, read⟩ := readRequest_refuses t.mHandshake refuses
  refine ⟨what, ?_⟩
  unfold accept
  rw [server]
  simp only [Bool.false_eq_true, ↓reduceIte, read, Except.map]

theorem incoming_asks (quiet : Quiet env) (server : t.mIsClient = false) (connecting : t.state = .connecting)
    {chunk after : Bytes} {lines : List Bytes} {asked : WsHandshake} (full : chunk ≠ [])
    (valid : isHttpRequest (t.mBuffer ++ chunk) = true) (head : Head (t.mBuffer ++ chunk) lines after)
    (asks : Asks t.mHandshake.mProtocols lines asked) :
    t.incoming env (some chunk) = if after = [] then served env t asked else feed env (served env t asked) after := by
  have started : ¬Refused (push t chunk) (push t chunk).mBuffer := by
    rintro ⟨_, invalid⟩
    exact absurd (valid.symm.trans invalid) (by decide)
  obtain ⟨handshake, processed⟩ := processHandshake_head quiet (push t chunk) lines after started head
  rw [accept_asks (t := push t chunk) quiet server connecting asks] at processed
  have opens : (push t chunk).processHandshake env = (.ok (), push (served env t asked) after) := processed
  have connected : (push (served env t asked) after).state = .connected := rfl
  rw [incoming_connecting _ _ connecting, process_connecting _ _ full connecting, opens]
  simp only [if_pos connected]
  by_cases none : after = []
  · have same : push (served env t asked) after = served env t asked := by
      rw [none]
      rfl
    rw [if_pos none, same, processFrames_empty rfl]
  · rw [if_neg none, feed, incoming_open (served env t asked) after none rfl]

theorem failed_of_refusal {s : WsTransport} {what : Bytes} {code : Nat}
    (refused : outcome s = refusal t (.requestError what code)) : Failed t code s where
  state := by
    rw [← outcome_state, refused]
    rfl
  log := by
    rw [← outcome_log, refused]
    rfl

theorem incoming_waiting (quiet : Quiet env) (server : t.mIsClient = false) (connecting : t.state = .connecting)
    (stream : Bytes) {chunk : Bytes} (full : chunk ≠ []) :
    Outcome env t (stream ++ chunk) (feed env { t with mBuffer := stream } chunk) := by
  rw [feed]
  by_cases valid : isHttpRequest (stream ++ chunk) = true
  · have started : ¬Refused { t with mBuffer := stream } (stream ++ chunk) := by
      rintro ⟨_, invalid⟩
      exact absurd (valid.symm.trans invalid) (by decide)
    by_cases complete : ∃ lines after, Head (stream ++ chunk) lines after
    · obtain ⟨lines, after, head⟩ := complete
      rcases asks_or_refuses t.mHandshake.mProtocols lines with ⟨asked, asks⟩ | ⟨code, refuses⟩
      · rw [incoming_asks (t := { t with mBuffer := stream }) quiet server connecting full valid head asks]
        by_cases none : after = []
        · rw [if_pos none]
          exact .open [] valid head asks (by simp) none.symm
        · rw [if_neg none]
          exact .open [after] valid head asks (by simpa using none) (by simp)
      · obtain ⟨what, rejected⟩ := accept_refuses (t := { t with mBuffer := stream }) env server refuses
        have refused := incoming_head_error quiet { t with mBuffer :=
          stream } chunk full connecting lines after _ started
          head rejected
        exact .failed (.inr ⟨valid, lines, after, head, refuses⟩) (failed_of_refusal (t := t) refused)
    · have incomplete : ∀ lines after, ¬Head (stream ++ chunk) lines after :=
        fun lines after head => complete ⟨lines, after, head⟩
      have kept : { t with mBuffer := stream }.incoming env (some chunk) = { t with mBuffer := stream ++ chunk } :=
        incoming_partial _ chunk full connecting started incomplete
      rw [kept]
      exact .waiting valid incomplete
  · have invalid : isHttpRequest (stream ++ chunk) = false := Bool.eq_false_iff.mpr valid
    have refused := incoming_refused quiet { t with mBuffer := stream } chunk full connecting ⟨server, invalid⟩
    exact .failed (.inl ⟨invalid, rfl⟩) (failed_of_refusal refused)

theorem Outcome.next {s : WsTransport} {stream chunk : Bytes} (quiet : Quiet env) (outcome : Outcome env t stream s)
    (server : t.mIsClient = false) (connecting : t.state = .connecting) (full : chunk ≠ []) :
    Outcome env t (stream ++ chunk) (feed env s chunk) := by
  cases outcome with
  | waiting valid incomplete => exact incoming_waiting quiet server connecting stream full
  | «open» rest valid head asks whole same =>
    have fed (start : WsTransport) : feed env (rest.foldl (feed env) start) chunk =
        (rest ++ [chunk]).foldl (feed env) start := by
      rw [List.foldl_append]
      rfl
    rw [fed]
    have still : isHttpRequest (stream ++ chunk) = true := (isHttpRequest_append_head head chunk).trans valid
    apply Outcome.open (rest ++ [chunk]) still (head.append chunk) asks
    · intro other member
      rcases List.mem_append.mp member with before | last
      · exact whole other before
      · rw [List.mem_singleton.mp last]
        exact full
    · simp [same]
  | failed rejected failed =>
    rw [feed_failed s chunk failed.state]
    exact .failed (rejected.append chunk) failed

theorem outcome_foldl (quiet : Quiet env) (server : t.mIsClient = false) (connecting : t.state = .connecting)
    (empty : t.mBuffer = []) (chunks : List Bytes) (full : ∀ chunk ∈ chunks, chunk ≠ []) :
    Outcome env t chunks.flatten (chunks.foldl (feed env) t) := by
  induction chunks using List.reverseRecOn with
  | nil =>
    have same : { t with mBuffer := [] } = t := by rw [← empty]
    have waiting : Outcome env t [] { t with mBuffer := [] } := .waiting rfl Head.not_nil
    rw [same] at waiting
    exact waiting
  | append_singleton chunks chunk ih =>
    have before := ih fun other member => full other (List.mem_append_left _ member)
    rw [List.flatten_append, List.flatten_singleton, List.foldl_append]
    exact before.next quiet server connecting (full chunk (by simp))

end

/-- A server that has been started. -/
def listening (env : Environment) (handshake : WsHandshake) (maxMessageSize : Nat) (maxOutstandingPings : Int)
    (partialOpcode : Frames.Opcode) (random : Key) : WsTransport :=
  (start env {
    mHandshake := handshake
    mIsClient := false
    mMaxMessageSize := maxMessageSize
    mMaxOutstandingPings := maxOutstandingPings
    mBuffer := []
    mPartial := []
    mPartialOpcode := partialOpcode
    mIgnoreLength := 0
    mOutstandingPings := 0
    mCloseSent := false
    state := .disconnected
    sends := 0
    log := [] } random).2

/-- The request of the stream is complete, and asks for an upgrade. -/
def Requests (own : List Bytes) (stream after : Bytes) (asked : WsHandshake) : Prop :=
  isHttpRequest stream = true ∧ ∃ lines, Head stream lines after ∧ Asks own lines asked

section
variable {env : Environment} {t s : WsTransport} {stream : Bytes}

theorem Asks.unique {own lines : List Bytes} {asked other : WsHandshake} (asks : Asks own lines asked)
    (asks' : Asks own lines other) : asked = other := by
  have one : WsHandshake.readRequest { mProtocols := own } lines = (asked, .ok ()) := readRequest_asks asks
  rw [readRequest_asks (h := { mProtocols := own }) asks'] at one
  exact (Prod.mk.inj one).1.symm

theorem Asks.not_refuses {own lines : List Bytes} {asked : WsHandshake} {code : Nat} (asks : Asks own lines asked) :
    ¬Refuses lines code := by
  intro refuses
  have one : WsHandshake.readRequest { mProtocols := own } lines = (asked, .ok ()) := readRequest_asks asks
  obtain ⟨left, what, other⟩ := readRequest_refuses { mProtocols := own } refuses
  rw [other] at one
  exact absurd (Prod.mk.inj one).2 (by simp)

theorem Refuses.unique {lines : List Bytes} {code other : Nat} (refuses : Refuses lines code)
    (refuses' : Refuses lines other) : code = other := by
  obtain ⟨left, what, one⟩ := readRequest_refuses {} refuses
  obtain ⟨left', what', two⟩ := readRequest_refuses {} refuses'
  rw [one] at two
  have same := Except.error.inj (Prod.mk.inj two).2
  exact (Exception.requestError.inj same).2

theorem Rejected.unique {code other : Nat} (rejected : Rejected stream code) (rejected' : Rejected stream other) :
    code = other := by
  rcases rejected with ⟨invalid, same⟩ | ⟨valid, lines, after, head, refuses⟩
  · rcases rejected' with ⟨_, same'⟩ | ⟨valid, _⟩
    · rw [same, same']
    · exact absurd (valid.symm.trans invalid) (by decide)
  · rcases rejected' with ⟨invalid, _⟩ | ⟨_, lines', after', head', refuses'⟩
    · exact absurd (valid.symm.trans invalid) (by decide)
    · rw [← (head.unique head').1] at refuses'
      exact refuses.unique refuses'

theorem Rejected.not_requests {own : List Bytes} {after : Bytes} {code : Nat} {asked : WsHandshake}
    (rejected : Rejected stream code) : ¬Requests own stream after asked := by
  rintro ⟨valid, lines, head, asks⟩
  rcases rejected with ⟨invalid, _⟩ | ⟨_, lines', after', head', refuses⟩
  · exact absurd (valid.symm.trans invalid) (by decide)
  · rw [← (head.unique head').1] at refuses
    exact asks.not_refuses refuses

theorem Outcome.of_requests (outcome : Outcome env t stream s) {after : Bytes} {asked : WsHandshake}
    (requests : Requests t.mHandshake.mProtocols stream after asked) :
    ∃ rest : List Bytes, rest.flatten = after ∧ s = rest.foldl (feed env) (served env t asked) := by
  cases outcome with
  | waiting valid incomplete =>
    obtain ⟨_, lines, head, _⟩ := requests
    exact absurd head (incomplete _ _)
  | «open» rest valid head asks whole same =>
    obtain ⟨_, lines, head', asks'⟩ := requests
    rw [(head.unique head').1] at asks
    obtain rfl := asks.unique asks'
    exact ⟨rest, same.trans (head.unique head').2, rfl⟩
  | failed rejected failed => exact absurd requests rejected.not_requests

theorem Outcome.of_rejected (outcome : Outcome env t stream s) {code : Nat} (rejected : Rejected stream code) :
    Failed t code s := by
  cases outcome with
  | waiting valid incomplete =>
    rcases rejected with ⟨invalid, _⟩ | ⟨_, lines, after, head, _⟩
    · exact absurd (valid.symm.trans invalid) (by decide)
    · exact absurd head (incomplete _ _)
  | «open» rest valid head asks whole same => exact absurd ⟨valid, _, head, asks⟩ rejected.not_requests
  | failed rejected' failed =>
    rw [rejected.unique rejected']
    exact failed

theorem Outcome.of_incomplete (outcome : Outcome env t stream s) (valid : isHttpRequest stream = true)
    (incomplete : ∀ lines after, ¬Head stream lines after) : s = { t with mBuffer := stream } := by
  cases outcome with
  | waiting _ _ => rfl
  | «open» rest _ head _ _ _ => exact absurd head (incomplete _ _)
  | failed rejected _ =>
    rcases rejected with ⟨invalid, _⟩ | ⟨_, lines, after, head, _⟩
    · exact absurd (valid.symm.trans invalid) (by decide)
    · exact absurd head (incomplete _ _)

end

/-- For every cutting of a stream into chunks that are not empty: a server that gets a request for an upgrade sends
the response to it, opens, and is fed what is behind the request and nothing else. It sends the one answer to a request
that it refuses, as soon as the first bytes are no HTTP method or the head is complete, and fails for good. Until then
it waits. -/
theorem serve_exact (env : Environment) (quiet : Quiet env) (handshake : WsHandshake) (maxMessageSize : Nat)
    (maxOutstandingPings : Int) (partialOpcode : Frames.Opcode) (random : Key) (chunks : List Bytes)
    (full : ∀ chunk ∈ chunks, chunk ≠ []) :
    let t := listening env handshake maxMessageSize maxOutstandingPings partialOpcode random
    let final := chunks.foldl (feed env) t
    let stream := chunks.flatten
    (∀ after asked, Requests handshake.mProtocols stream after asked →
        ∃ rest : List Bytes, rest.flatten = after ∧ final = rest.foldl (feed env) (served env t asked)) ∧
      (∀ code, Rejected stream code → Failed t code final ∧ ∀ chunk, feed env final chunk = final) ∧
      ((∀ after asked, ¬Requests handshake.mProtocols stream after asked) → (∀ code, ¬Rejected stream code) →
        final = { t with mBuffer := stream }) := by
  intro t final stream
  have outcome : Outcome env t stream final := outcome_foldl quiet rfl rfl rfl chunks full
  refine ⟨fun after asked requests => outcome.of_requests requests, ?_, ?_⟩
  · intro code rejected
    have failed := outcome.of_rejected rejected
    exact ⟨failed, fun chunk => feed_failed final chunk failed.state⟩
  · intro other accepted
    have valid : isHttpRequest stream = true := by
      apply Classical.byContradiction
      intro invalid
      exact accepted 400 (.inl ⟨Bool.eq_false_iff.mpr invalid, rfl⟩)
    apply outcome.of_incomplete valid
    intro lines after head
    rcases asks_or_refuses handshake.mProtocols lines with ⟨asked, asks⟩ | ⟨code, refuses⟩
    · exact other after asked ⟨valid, lines, head, asks⟩
    · exact accepted code (.inr ⟨valid, lines, after, head, refuses⟩)

section
open HandshakeRoundTrip WsMessages

def waitingServer : WsTransport :=
  listening (accepting sampleKey) {} 65536 0 .continuation zeroKey

def post : List Bytes := [text "POS", text "T / HTTP/1.1" ++ crlf, crlf]

theorem post_rejected : Rejected post.flatten 405 := by
  have head : Head (headText [text "POST / HTTP/1.1"] ++ []) [text "POST / HTTP/1.1"] [] := by
    apply head_headText
    · decide
    · decide
  have same : post.flatten = headText [text "POST / HTTP/1.1"] ++ [] := by decide +kernel
  rw [same]
  exact .inr ⟨by decide, _, _, head, .method (by decide)⟩

/-- A request for an upgrade, cut in its head, and a frame behind it, cut in its payload. -/
def chatLines : List Bytes :=
  [text "GET /chat?x=1 HTTP/1.1", text "Host: h:8080", text "Upgrade: WebSocket", text "Sec-WebSocket-Key: k",
    text "Sec-WebSocket-Protocol: a, b"]

def chatFrame : Bytes := [0x81, 0x82, 1, 2, 3, 4, 64, 65]

def chat : List Bytes :=
  [(headText chatLines).take 20, (headText chatLines).drop 20 ++ chatFrame.take 7, chatFrame.drop 7]

def chatAsked : WsHandshake :=
  { mHost := text "h:8080", mPath := text "/chat?x=1", mProtocols := [text "a", text " b"], mKey := text "k" }

theorem chat_requests : Requests [] chat.flatten chatFrame chatAsked := by
  have head : Head (headText chatLines ++ chatFrame) chatLines chatFrame := by
    apply head_headText
    · decide
    · decide
  have same : chat.flatten = headText chatLines ++ chatFrame := by decide +kernel
  have found (name value : Bytes) (first : find (parseHttpHeaders chatLines.tail) name = some value) :
      FirstHeader asItStands name value chatLines.tail := (find_eq_some_iff _ _ _).mp first
  have target : path (text "GET /chat?x=1 HTTP/1.1") = text "/chat?x=1" := by decide +kernel
  have offered : explode (text "a, b") comma = [text "a", text " b"] := by decide +kernel
  have asks : Asks [] chatLines chatAsked := by
    rw [chatAsked, ← target, ← offered]
    exact .upgrade (by decide +kernel) (found _ _ (by decide +kernel)) (found _ (text "WebSocket") (by decide +kernel))
      (by decide +kernel) (found _ _ (by decide +kernel)) (.named (found _ _ (by decide +kernel)))
  rw [same]
  exact ⟨by decide +kernel, chatLines, head, asks⟩

/-- One request is refused, and the other one is served and the frame behind it read. -/
theorem serve_postAndChat :
    Failed waitingServer 405 (post.foldl (feed (accepting sampleKey)) waitingServer) ∧
      ∃ rest : List Bytes, rest.flatten = chatFrame ∧ chat.foldl (feed (accepting sampleKey)) waitingServer =
        rest.foldl (feed (accepting sampleKey)) (served (accepting sampleKey) waitingServer chatAsked) := by
  have quiet : Quiet (accepting sampleKey) := accepting_quiet _
  have fullPost : ∀ chunk ∈ post, chunk ≠ [] := by decide
  have fullChat : ∀ chunk ∈ chat, chunk ≠ [] := by decide +kernel
  constructor
  · exact ((serve_exact _ quiet {} 65536 0 .continuation zeroKey post fullPost).2.1 405 post_rejected).1
  · exact (serve_exact _ quiet {} 65536 0 .continuation zeroKey chat fullChat).1 _ _ chat_requests

end

end WebsocketClient.WsServers
