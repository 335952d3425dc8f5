import Mathlib.Data.List.Induction
import WebsocketClient.HandshakeRoundTrip
import WebsocketClient.WsStreams
import WebsocketClient.WsLog
import WebsocketClient.WsMessages

/-! The client's half of the upgrade: what the transport makes of the stream of a server, from the time
the request was sent. -/

namespace WebsocketClient.WsUpgrades
open ByteString Http Handshake Transports WsTransports WsTransport WsChunks WsStreams WsLogs

/-! ### The lines of a response -/

/-- How the line of a header names it and what value it gives. `bare` relates a line without a colon to
the name it goes by, with an empty value. -/
inductive Header (bare : Bytes → Bytes → Prop) : Bytes → Bytes → Bytes → Prop where
  | field {key value : Bytes} (blanks : Nat) : colon ∉ key → value.head? ≠ some space →
      Header bare (key ++ colon :: (List.replicate blanks space ++ value)) (key.map toLower) value
  | bare {line name : Bytes} : colon ∉ line → bare line name → Header bare line name []

/-- A line without a colon goes by its whole text, and case matters there. -/
def asItStands (line name : Bytes) : Prop := name = line

/-- Only a line with a colon is a header. -/
def never (_ _ : Bytes) : Prop := False

def anyCase (line name : Bytes) : Prop := name = line.map toLower

inductive FirstHeader (bare : Bytes → Bytes → Prop) (name value : Bytes) : List Bytes → Prop where
  | here {line : Bytes} {lines : List Bytes} : Header bare line name value →
      FirstHeader bare name value (line :: lines)
  | later {line : Bytes} {lines : List Bytes} : (∀ other, ¬Header bare line name other) →
      FirstHeader bare name value lines → FirstHeader bare name value (line :: lines)

/-- `status >> protocol >> code`. -/
def responseCode (status : Bytes) : Nat := extractUnsigned (extractWord status).2

/-- The lines of a response that accepts the upgrade asked for with the key. -/
inductive Accepts (bare : Bytes → Bytes → Prop) (sha1 : Bytes → Digest) (key : Bytes) : List Bytes → Prop where
  | upgrade {status value : Bytes} {lines : List Bytes} : responseCode status = 101 →
      FirstHeader bare (text "upgrade") value lines → value.map toLower = text "websocket" →
      FirstHeader bare (text "sec-websocket-accept") (computeAcceptKey sha1 key) lines →
      Accepts bare sha1 key (status :: lines)

theorem dropWhile_space (rest : Bytes) :
    ∃ blanks, rest = List.replicate blanks space ++ rest.dropWhile (fun c => c == space) ∧
      (rest.dropWhile (fun c => c == space)).head? ≠ some space := by
  induction rest with
  | nil => exact ⟨0, rfl, by simp⟩
  | cons c rest ih =>
    by_cases blank : c = space
    · obtain ⟨blanks, same, visible⟩ := ih
      refine ⟨blanks + 1, ?_, ?_⟩
      · rw [blank, List.dropWhile_cons_of_pos (by simp), List.replicate_succ, List.cons_append, ← same]
      · rw [blank, List.dropWhile_cons_of_pos (by simp)]
        exact visible
    · have kept : (c :: rest).dropWhile (fun c => c == space) = c :: rest :=
        List.dropWhile_cons_of_neg (by simpa using blank)
      rw [kept]
      exact ⟨0, rfl, by simpa using blank⟩

theorem header_parseHttpHeader (line : Bytes) :
    Header asItStands line (parseHttpHeader line).1 (parseHttpHeader line).2 := by
  by_cases member : colon ∈ line
  · obtain ⟨key, rest, rfl, plain⟩ := List.eq_append_cons_of_mem member
    obtain ⟨blanks, spaces, visible⟩ := dropWhile_space rest
    have field : Header asItStands _ _ _ := .field blanks plain visible
    rw [← spaces] at field
    rw [parseHttpHeader_field key rest plain]
    exact field
  · rw [parseHttpHeader, if_neg member]
    exact .bare member rfl

theorem dropWhile_blanks (blanks : Nat) {value : Bytes} (visible : value.head? ≠ some space) :
    (List.replicate blanks space ++ value).dropWhile (fun c => c == space) = value := by
  induction blanks with
  | zero =>
    cases value with
    | nil => rfl
    | cons c value =>
      have other : c ≠ space := fun same => visible (by simp [same])
      exact List.dropWhile_cons_of_neg (by simpa using other)
  | succ blanks ih =>
    rw [List.replicate_succ, List.cons_append, List.dropWhile_cons_of_pos (by simp)]
    exact ih

theorem Header.parsed {bare : Bytes → Bytes → Prop} {line name value : Bytes} (header : Header bare line name value)
    (member : colon ∈ line) : parseHttpHeader line = (name, value) := by
  cases header with
  | field blanks plain visible => rw [parseHttpHeader_field _ _ plain, dropWhile_blanks blanks visible]
  | bare plain _ => exact absurd member plain

theorem Header.unsplit {bare : Bytes → Bytes → Prop} {line name value : Bytes}
    (header : Header bare line name value) (plain : colon ∉ line) : bare line name ∧ value = [] := by
  cases header with
  | field _ _ _ => exact absurd (by simp) plain
  | bare _ named => exact ⟨named, rfl⟩

theorem parseHttpHeader_eq_iff (line name value : Bytes) :
    parseHttpHeader line = (name, value) ↔ Header asItStands line name value := by
  constructor
  · intro parsed
    have header := header_parseHttpHeader line
    rw [parsed] at header
    exact header
  · intro header
    by_cases member : colon ∈ line
    · exact header.parsed member
    · obtain ⟨named, empty⟩ := header.unsplit member
      rw [parseHttpHeader, if_neg member, named, empty]

theorem find_eq_some_iff (lines : List Bytes) (name value : Bytes) :
    find (parseHttpHeaders lines) name = some value ↔ FirstHeader asItStands name value lines := by
  induction lines with
  | nil => exact ⟨nofun, nofun⟩
  | cons line lines ih =>
    rcases parsed : parseHttpHeader line with ⟨key, found⟩
    have header := (parseHttpHeader_eq_iff line key found).mp parsed
    have step : find (parseHttpHeaders (line :: lines)) name =
        if key = name then some found else find (parseHttpHeaders lines) name := by
      rw [parseHttpHeaders, List.map_cons, parsed, HandshakeRoundTrip.find_cons]
      rfl
    rw [step]
    by_cases same : key = name
    · subst same
      rw [if_pos rfl]
      constructor
      · intro equal
        rw [← Option.some.inj equal]
        exact .here header
      · intro first
        cases first with
        | here other =>
          have both := parsed.symm.trans ((parseHttpHeader_eq_iff line key value).mpr other)
          rw [(Prod.mk.inj both).2]
        | later missing _ => exact absurd header (missing found)
    · have missing : ∀ other, ¬Header asItStands line name other := by
        intro other header
        have both := parsed.symm.trans ((parseHttpHeader_eq_iff line name other).mpr header)
        exact same (Prod.mk.inj both).1
      rw [if_neg same, ih]
      constructor
      · exact .later missing
      · intro first
        cases first with
        | here header => exact absurd header (missing value)
        | later _ first => exact first

theorem readResponse_ok {sha1 : Bytes → Digest} {h : WsHandshake} {lines : List Bytes}
    (accepts : Accepts asItStands sha1 h.mKey lines) : h.readResponse sha1 lines = .ok () := by
  cases accepts with
  | upgrade code upgrade websocket accept =>
    rw [responseCode] at code
    simp only [WsHandshake.readResponse, code, (find_eq_some_iff _ _ _).mpr upgrade, websocket,
      (find_eq_some_iff _ _ _).mpr accept, ne_eq, not_true_eq_false, ↓reduceIte]

theorem readResponse_error {sha1 : Bytes → Digest} {h : WsHandshake} {lines : List Bytes}
    (refuses : ¬Accepts asItStands sha1 h.mKey lines) :
    ∃ e, h.readResponse sha1 lines = .error e ∧ ∀ what code, e ≠ .requestError what code := by
  cases lines with
  | nil => exact ⟨_, rfl, nofun⟩
  | cons status lines =>
    unfold WsHandshake.readResponse
    by_cases code : responseCode status = 101
    · rw [responseCode] at code
      simp only [code, ne_eq, not_true_eq_false, ↓reduceIte]
      split
      · exact ⟨_, rfl, nofun⟩
      · rename_i value upgrade
        split_ifs with websocket
        · split
          · exact ⟨_, rfl, nofun⟩
          · rename_i accept found
            split_ifs with same
            · rw [same] at found
              exact absurd (Accepts.upgrade code ((find_eq_some_iff _ _ _).mp upgrade) websocket
                ((find_eq_some_iff _ _ _).mp found)) refuses
            · exact ⟨_, rfl, nofun⟩
        · exact ⟨_, rfl, nofun⟩
    · rw [responseCode] at code
      simp only [code, ne_eq, not_false_eq_true, ↓reduceIte]
      exact ⟨_, rfl, nofun⟩

/-! ### Chunks -/

def opened (t : WsTransport) : WsTransport :=
  { t with mBuffer := [], state := .connected, log := t.log ++ [.stateChange .connected] }

/-- What a client makes of a stream. Behind the head it is an open transport that was fed the rest. -/
inductive Outcome (env : Environment) (t : WsTransport) (stream : Bytes) : WsTransport → Prop where
  | waiting : (∀ lines after, ¬Head stream lines after) → Outcome env t stream { t with mBuffer := stream }
  | «open» {lines : List Bytes} {after : Bytes} (rest : List Bytes) : Head stream lines after →
      Accepts asItStands env.sha1 t.mHandshake.mKey lines → (∀ chunk ∈ rest, chunk ≠ []) →
      rest.flatten = after →
      Outcome env t stream (rest.foldl (feed env) (opened t))
  | failed {lines : List Bytes} {after : Bytes} (buffer : Bytes) : Head stream lines after →
      ¬Accepts asItStands env.sha1 t.mHandshake.mKey lines →
      Outcome env t stream { t with mBuffer := buffer, state := .failed, log := t.log ++ [.stateChange .failed] }

section
variable {env : Environment} {t : WsTransport}

theorem processHandshake_accepts {lines : List Bytes} {after : Bytes} (client : t.mIsClient = true)
    (connecting : t.state = .connecting) (head : Head t.mBuffer lines after)
    (accepts : Accepts asItStands env.sha1 t.mHandshake.mKey lines) :
    t.processHandshake env = (.ok (), { opened t with mBuffer := after }) := by
  have size := head.length_lt
  have positive : t.mBuffer.length - after.length ≠ 0 := by omega
  have changes : t.state ≠ .connected := by
    rw [connecting]
    decide
  unfold processHandshake
  rw [if_pos client, WsHandshake.parseHttpResponse, parseHttpLines_head head]
  simp only [if_neg positive, readResponse_ok accepts, Except.map, changeState, if_neg changes, head.drop, opened]

theorem processHandshake_refuses {lines : List Bytes} {after : Bytes} (client : t.mIsClient = true)
    (head : Head t.mBuffer lines after) (refuses : ¬Accepts asItStands env.sha1 t.mHandshake.mKey lines) :
    ∃ e, t.processHandshake env = (.error e, t) ∧ ∀ what code, e ≠ .requestError what code := by
  have size := head.length_lt
  have positive : t.mBuffer.length - after.length ≠ 0 := by omega
  obtain ⟨e, error, silent⟩ := readResponse_error refuses
  refine ⟨e, ?_, silent⟩
  unfold processHandshake
  rw [if_pos client, WsHandshake.parseHttpResponse, parseHttpLines_head head]
  simp only [if_neg positive, error, Except.map]

theorem processFrames_empty (empty : t.mBuffer = []) : t.processFrames env = (.ok (), t) := by
  have skipped : t.skipIgnored = t := by
    rw [skipIgnored_eq, empty, List.drop_nil, List.length_nil, Nat.sub_zero, ← empty]
  unfold processFrames
  simp only [skipped]
  split
  · simp only [empty, List.length_nil, frameLoop]
    rfl
  · rfl

theorem incoming_accepts {lines : List Bytes} {after chunk : Bytes} (client : t.mIsClient = true)
    (connecting : t.state = .connecting) (full : chunk ≠ []) (head : Head (t.mBuffer ++ chunk) lines after)
    (accepts : Accepts asItStands env.sha1 t.mHandshake.mKey lines) :
    t.incoming env (some chunk) = if after = [] then opened t else feed env (opened t) after := by
  have handshake : (push t chunk).processHandshake env = (.ok (), push (opened t) after) :=
    processHandshake_accepts (t := push t chunk) client connecting head accepts
  have connected : (push (opened t) after).state = .connected := rfl
  rw [incoming_connecting _ _ connecting, process_connecting _ _ full connecting, handshake]
  simp only [if_pos connected]
  by_cases none : after = []
  · have same : push (opened t) after = opened t := by
      rw [none]
      rfl
    rw [if_pos none, same, processFrames_empty rfl]
  · rw [if_neg none, feed, incoming_open (opened t) after none rfl]

theorem incoming_refuses {lines : List Bytes} {after chunk : Bytes} (client : t.mIsClient = true)
    (connecting : t.state = .connecting) (full : chunk ≠ []) (head : Head (t.mBuffer ++ chunk) lines after)
    (refuses : ¬Accepts asItStands env.sha1 t.mHandshake.mKey lines) :
    t.incoming env (some chunk) =
      { t with mBuffer := t.mBuffer ++ chunk, state := .failed, log := t.log ++ [.stateChange .failed] } := by
  obtain ⟨e, handshake, silent⟩ := processHandshake_refuses (t := push t chunk) client head refuses
  have quiet : (push t chunk).handleError env e = push t chunk := by
    cases e with
    | requestError what code => exact absurd rfl (silent what code)
    | _ => rfl
  rw [incoming_connecting _ _ connecting, process_connecting _ _ full connecting, handshake]
  simp only [quiet]
  have waiting : (push t chunk).state = .connecting := connecting
  rw [disconnect, waiting, if_neg (by decide), changeState, waiting, if_neg (by decide)]
  rfl

theorem incoming_waiting (client : t.mIsClient = true) (connecting : t.state = .connecting) (stream : Bytes)
    {chunk : Bytes} (full : chunk ≠ []) :
    Outcome env t (stream ++ chunk) (feed env { t with mBuffer := stream } chunk) := by
  rw [feed]
  by_cases complete : ∃ lines after, Head (stream ++ chunk) lines after
  · obtain ⟨lines, after, head⟩ := complete
    by_cases accepts : Accepts asItStands env.sha1 t.mHandshake.mKey lines
    · rw [incoming_accepts (t := { t with mBuffer := stream }) client connecting full head accepts]
      by_cases none : after = []
      · rw [if_pos none]
        exact .open [] head accepts (by simp) none.symm
      · rw [if_neg none]
        exact .open [after] head accepts (by simpa using none) (by simp)
    · rw [incoming_refuses (t := { t with mBuffer := stream }) client connecting full head accepts]
      exact .failed _ head accepts
  · have incomplete : ∀ lines after, ¬Head (stream ++ chunk) lines after :=
      fun lines after head => complete ⟨lines, after, head⟩
    have valid : ¬Refused { t with mBuffer := stream } (stream ++ chunk) := by
      intro refused
      exact absurd (client.symm.trans refused.1) (by decide)
    have kept : { t with mBuffer := stream }.incoming env (some chunk) = { t with mBuffer := stream ++ chunk } :=
      incoming_partial _ chunk full connecting valid incomplete
    rw [kept]
    exact .waiting incomplete

theorem Outcome.next {s : WsTransport} {stream chunk : Bytes} (outcome : Outcome env t stream s)
    (client : t.mIsClient = true) (connecting : t.state = .connecting) (full : chunk ≠ []) :
    Outcome env t (stream ++ chunk) (feed env s chunk) := by
  cases outcome with
  | waiting incomplete => exact incoming_waiting client connecting stream full
  | «open» rest head accepts whole same =>
    have fed : feed env (rest.foldl (feed env) (opened t)) chunk =
        (rest ++ [chunk]).foldl (feed env) (opened t) := by
      rw [List.foldl_append]
      rfl
    rw [fed]
    refine .open (rest ++ [chunk]) (head.append chunk) accepts ?_ (by simp [same])
    intro other member
    rcases List.mem_append.mp member with before | last
    · exact whole other before
    · rw [List.mem_singleton.mp last]
      exact full
  | failed buffer head refuses =>
    rw [feed_failed _ chunk rfl]
    exact .failed buffer (head.append chunk) refuses

theorem outcome_foldl (client : t.mIsClient = true) (connecting : t.state = .connecting) (empty : t.mBuffer = [])
    (chunks : List Bytes) (full : ∀ chunk ∈ chunks, chunk ≠ []) :
    Outcome env t chunks.flatten (chunks.foldl (feed env) t) := by
  induction chunks using List.reverseRecOn with
  | nil =>
    have same : { t with mBuffer := [] } = t := by rw [← empty]
    have waiting : Outcome env t [] { t with mBuffer := [] } := .waiting Head.not_nil
    rw [same] at waiting
    exact waiting
  | append_singleton chunks chunk ih =>
    have before := ih fun other member => full other (List.mem_append_left _ member)
    rw [List.flatten_append, List.flatten_singleton, List.foldl_append]
    exact before.next client connecting (full chunk (by simp))

/-- Behind the handshake the log only grows. -/
theorem mem_log_foldl (rest : List Bytes) (past : t.state ≠ .connecting) {effect : Effect}
    (member : effect ∈ t.log) : effect ∈ (rest.foldl (feed env) t).log := by
  induction rest generalizing t with
  | nil => exact member
  | cons chunk rest ih =>
    have goesOn : GoesOn t (feed env t chunk) := incoming_goesOn past (some chunk)
    exact ih (goesOn.past past) (goesOn.mem_log member)

end

/-- A client whose request was sent. The constructor leaves `mPartialOpcode` as memory has it. -/
def requested (env : Environment) (handshake : WsHandshake) (maxMessageSize : Nat) (maxOutstandingPings : Int)
    (partialOpcode : Frames.Opcode) (random : Key) : WsTransport :=
  (start env {
    mHandshake := handshake
    mIsClient := true
    mMaxMessageSize := maxMessageSize
    mMaxOutstandingPings := maxOutstandingPings
    mBuffer := []
    mPartial := []
    mPartialOpcode := partialOpcode
    mIgnoreLength := 0
    mOutstandingPings := 0
    mCloseSent := false
    state := .disconnected
    sends := 0
    log := [] } random).2

/-- A client that waits for the response to the key. -/
structure Waits (key : Bytes) (t : WsTransport) : Prop where
  client : t.mIsClient = true
  connecting : t.state = .connecting
  empty : t.mBuffer = []
  key : t.mHandshake.mKey = key
  closed : Effect.stateChange .connected ∉ t.log

theorem requested_waits (env : Environment) (handshake : WsHandshake) (maxMessageSize : Nat)
    (maxOutstandingPings : Int) (partialOpcode : Frames.Opcode) (random : Key) :
    Waits (generateKey random)
      (requested env handshake maxMessageSize maxOutstandingPings partialOpcode random) := by
  unfold requested start sendHttpRequest outgoing changeState
  simp only [reduceCtorEq, ↓reduceIte]
  cases env.lower 0 with
  | error e => exact ⟨rfl, rfl, rfl, rfl, by simp⟩
  | ok result => exact ⟨rfl, rfl, rfl, rfl, by simp⟩

section
variable {env : Environment} {t s : WsTransport} {key stream : Bytes}

theorem Outcome.of_incomplete (outcome : Outcome env t stream s) (waits : Waits key t)
    (incomplete : ∀ lines after, ¬Head stream lines after) : s.state = .connecting ∧ s.log = t.log := by
  cases outcome with
  | waiting _ => exact ⟨waits.connecting, rfl⟩
  | «open» rest head _ _ _ => exact absurd head (incomplete _ _)
  | failed buffer head _ => exact absurd head (incomplete _ _)

theorem Outcome.of_refused (outcome : Outcome env t stream s) (waits : Waits key t) {lines : List Bytes}
    {after : Bytes} (head : Head stream lines after) (refuses : ¬Accepts asItStands env.sha1 key lines) :
    s.state = .failed ∧ s.log = t.log ++ [.stateChange .failed] := by
  cases outcome with
  | waiting incomplete => exact absurd head (incomplete _ _)
  | «open» rest head' accepts _ _ =>
    rw [waits.key, (head'.unique head).1] at accepts
    exact absurd accepts refuses
  | failed buffer _ _ => exact ⟨rfl, rfl⟩

theorem Outcome.of_accepted (outcome : Outcome env t stream s) (waits : Waits key t) {lines : List Bytes}
    {after : Bytes} (head : Head stream lines after) (accepts : Accepts asItStands env.sha1 key lines) :
    ∃ rest : List Bytes, rest.flatten = after ∧ s = rest.foldl (feed env) (opened t) := by
  cases outcome with
  | waiting incomplete => exact absurd head (incomplete _ _)
  | «open» rest head' _ _ same => exact ⟨rest, same.trans (head'.unique head).2, rfl⟩
  | failed buffer head' refuses =>
    rw [waits.key, (head'.unique head).1] at refuses
    exact absurd accepts refuses

theorem Outcome.connected_iff (outcome : Outcome env t stream s) (waits : Waits key t) :
    .stateChange .connected ∈ s.log ↔
      ∃ lines after, Head stream lines after ∧ Accepts asItStands env.sha1 key lines := by
  constructor
  · intro told
    by_cases complete : ∃ lines after, Head stream lines after
    · obtain ⟨lines, after, head⟩ := complete
      by_cases accepts : Accepts asItStands env.sha1 key lines
      · exact ⟨lines, after, head, accepts⟩
      · rw [(outcome.of_refused waits head accepts).2] at told
        rcases List.mem_append.mp told with before | last
        · exact absurd before waits.closed
        · exact absurd (List.mem_singleton.mp last) (by decide)
    · have incomplete : ∀ lines after, ¬Head stream lines after :=
        fun lines after head => complete ⟨lines, after, head⟩
      rw [(outcome.of_incomplete waits incomplete).2] at told
      exact absurd told waits.closed
  · rintro ⟨lines, after, head, accepts⟩
    obtain ⟨rest, _, same⟩ := outcome.of_accepted waits head accepts
    have past : (opened t).state ≠ .connecting := by simp [opened]
    have told : Effect.stateChange .connected ∈ (opened t).log := by simp [opened]
    rw [same]
    exact mem_log_foldl rest past told

end

/-- For every cutting of a stream into chunks that are not empty: the client is told that it is connected when the
stream has a head that accepts its upgrade, fails for good when the head is another one, waits while there is none,
and as an open transport is fed what is behind the head and nothing else. -/
theorem upgrade_iff (env : Environment) (handshake : WsHandshake) (maxMessageSize : Nat) (maxOutstandingPings : Int)
    (partialOpcode : Frames.Opcode) (random : Key) (chunks : List Bytes) (full : ∀ chunk ∈ chunks, chunk ≠ []) :
    let t := requested env handshake maxMessageSize maxOutstandingPings partialOpcode random
    let final := chunks.foldl (feed env) t
    let accepts := Accepts asItStands env.sha1 (generateKey random)
    (.stateChange .connected ∈ final.log ↔ ∃ lines after, Head chunks.flatten lines after ∧ accepts lines) ∧
      (∀ lines after, Head chunks.flatten lines after → ¬accepts lines →
        final.state = .failed ∧ final.log = t.log ++ [.stateChange .failed] ∧
          ∀ chunk, feed env final chunk = final) ∧
      ((∀ lines after, ¬Head chunks.flatten lines after) → final.state = .connecting ∧ final.log = t.log) ∧
      (∀ lines after, Head chunks.flatten lines after → accepts lines →
        ∃ rest : List Bytes, rest.flatten = after ∧ final = rest.foldl (feed env) (opened t)) := by
  intro t final accepts
  have waits : Waits (generateKey random) t :=
    requested_waits env handshake maxMessageSize maxOutstandingPings partialOpcode random
  have outcome : Outcome env t chunks.flatten final :=
    outcome_foldl waits.client waits.connecting waits.empty chunks full
  refine ⟨outcome.connected_iff waits, ?_, outcome.of_incomplete waits, ?_⟩
  · intro lines after head refuses
    obtain ⟨failed, log⟩ := outcome.of_refused waits head refuses
    exact ⟨failed, log, fun chunk => feed_failed final chunk failed⟩
  · intro lines after head accepted
    exact outcome.of_accepted waits head accepted

/-! ### A line without a colon -/

section
open HandshakeRoundTrip

def zeroKey : Key := ⟨List.replicate 16 0, rfl⟩

/-- The hash gives what SHA-1 gives for that key. -/
def peer : Environment where
  sha1 := fun _ => ⟨[32, 37, 254, 98, 171, 250, 234, 76, 96, 51, 65, 92, 89, 162, 214, 148, 82, 240, 76, 2], rfl⟩
  maskingKey := fun _ => WsMessages.sampleKey
  lower := fun _ => .ok true

def waitingClient : WsTransport :=
  requested peer { mHost := text "a", mPath := text "/" } 65536 0 .continuation zeroKey

/-- A response that has a line of its own before the headers asked for. -/
def responseWith (line : Bytes) : List Bytes :=
  [text "HTTP/1.1 101 Switching Protocols", line, headerLine (text "Upgrade") (text "websocket"),
    headerLine (text "Sec-WebSocket-Accept") (text "ICX+Yqv66kxgM0FcWaLWlFLwTAI=")]

theorem header_headerLine {bare : Bytes → Bytes → Prop} {name value : Bytes} (plain : colon ∉ name)
    (visible : value.head? ≠ some space) : Header bare (headerLine name value) (name.map toLower) value :=
  .field 1 plain visible

theorem accepts_responseWith {bare : Bytes → Bytes → Prop} {line : Bytes}
    (upgrade : ∀ other, ¬Header bare line (text "upgrade") other)
    (accept : ∀ other, ¬Header bare line (text "sec-websocket-accept") other) :
    Accepts bare peer.sha1 (generateKey zeroKey) (responseWith line) := by
  have key : computeAcceptKey peer.sha1 (generateKey zeroKey) = text "ICX+Yqv66kxgM0FcWaLWlFLwTAI=" := by decide
  have first : Header bare (headerLine (text "Upgrade") (text "websocket")) (text "upgrade") (text "websocket") :=
    header_headerLine (by decide) (by decide)
  have other : ∀ value, ¬Header bare (headerLine (text "Upgrade") (text "websocket")) (text "sec-websocket-accept")
      value := by
    intro value header
    have both := (header.parsed (by decide)).symm.trans (first.parsed (by decide))
    exact absurd (Prod.mk.inj both).1 (by decide)
  have second : Header bare (headerLine (text "Sec-WebSocket-Accept") (text "ICX+Yqv66kxgM0FcWaLWlFLwTAI="))
      (text "sec-websocket-accept") (text "ICX+Yqv66kxgM0FcWaLWlFLwTAI=") :=
    header_headerLine (by decide) (by decide)
  refine .upgrade (by decide) (.later upgrade (.here first)) (by decide) ?_
  rw [key]
  exact .later accept (.later other (.here second))

theorem head_responseWith (line : Bytes) (full : line ≠ []) (plain : lf ∉ line) :
    Head (headText (responseWith line)) (responseWith line) [] := by
  have head := head_headText (responseWith line) []
  rw [List.append_nil] at head
  apply head
  · simp only [responseWith, List.forall_mem_cons, List.not_mem_nil, false_implies, implies_true, and_true]
    exact ⟨by decide, full, by decide, by decide⟩
  · simp only [responseWith, List.forall_mem_cons, List.not_mem_nil, false_implies, implies_true, and_true]
    exact ⟨by decide, plain, by decide, by decide⟩

/-- The response comes in two chunks, with a server that names itself. -/
theorem upgrade_server :
    let chunks := [[72], (headText (responseWith (text "Server: a"))).tail]
    (∀ chunk ∈ chunks, chunk ≠ []) ∧
      Effect.stateChange .connected ∈ (chunks.foldl (feed peer) waitingClient).log := by
  intro chunks
  have full : ∀ chunk ∈ chunks, chunk ≠ [] := by decide +kernel
  have whole : chunks.flatten = headText (responseWith (text "Server: a")) := by decide +kernel
  have server : ∀ name other, name ≠ text "server" → ¬Header asItStands (text "Server: a") name other := by
    intro name other different header
    have both := (header.parsed (by decide)).symm.trans (by decide : _ = (text "server", text "a"))
    exact different (Prod.mk.inj both).1
  have head := head_responseWith (text "Server: a") (by decide) (by decide)
  have accepts : Accepts asItStands peer.sha1 (generateKey zeroKey) (responseWith (text "Server: a")) :=
    accepts_responseWith (fun other => server _ other (by decide)) (fun other => server _ other (by decide))
  rw [← whole] at head
  exact ⟨full, (upgrade_iff peer _ 65536 0 .continuation zeroKey chunks full).1.mpr ⟨_, _, head, accepts⟩⟩

/-- A line that reads `upgrade` is no header when headers have a colon, and yet counts as one. A line that reads
`UPGRADE` is one when names have no case, and yet counts as none. -/
theorem bare_line_counts :
    (Effect.stateChange .connected ∉ (feed peer waitingClient (headText (responseWith (text "upgrade")))).log ∧
      ∃ lines after, Head (headText (responseWith (text "upgrade"))) lines after ∧
        Accepts never peer.sha1 (generateKey zeroKey) lines) ∧
    (Effect.stateChange .connected ∈ (feed peer waitingClient (headText (responseWith (text "UPGRADE")))).log ∧
      ¬∃ lines after, Head (headText (responseWith (text "UPGRADE"))) lines after ∧
        Accepts anyCase peer.sha1 (generateKey zeroKey) lines) := by
  have head := head_responseWith (text "upgrade") (by decide) (by decide)
  have head' := head_responseWith (text "UPGRADE") (by decide) (by decide)
  have missing : ∀ name other, ¬Header never (text "upgrade") name other :=
    fun name other header => (header.unsplit (by decide)).1
  refine ⟨⟨by decide +kernel, _, _, head, accepts_responseWith (missing _) (missing _)⟩, by decide +kernel, ?_⟩
  rintro ⟨lines, after, found, accepts⟩
  rw [(found.unique head').1] at accepts
  cases accepts with
  | upgrade code first websocket accept =>
    cases first with
    | here header =>
      rw [(header.unsplit (by decide)).2] at websocket
      exact absurd websocket (by decide)
    | later missing _ =>
      have lower : text "upgrade" = (text "UPGRADE").map toLower := by decide
      exact missing [] (.bare (by decide) lower)

end

end WebsocketClient.WsUpgrades
