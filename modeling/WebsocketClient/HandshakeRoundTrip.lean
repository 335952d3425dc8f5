import WebsocketClient.Handshake

/-! What a client writes, a server reads back, and the other way round. Both texts are
a list of lines closed by an empty one; `headText` is their common shape. -/

namespace WebsocketClient.HandshakeRoundTrip
open ByteString Http Utils Handshake

def headText (lines : List Bytes) : Bytes := lines.flatMap (fun line => line ++ crlf) ++ crlf

theorem chomp_cr (line : Bytes) : chomp (line ++ [cr]) = line := by
  simp [chomp]

theorem head_headText (lines : List Bytes) (rest : Bytes)
    (full : ∀ line ∈ lines, line ≠ []) (plain : ∀ line ∈ lines, lf ∉ line) :
    Head (headText lines ++ rest) lines rest := by
  induction lines with
  | nil =>
    have shape : headText [] ++ rest = [cr] ++ lf :: rest := rfl
    rw [shape]
    exact .stop (by decide) (chomp_cr [])
  | cons line lines ih =>
    have shape : headText (line :: lines) ++ rest =
        (line ++ [cr]) ++ lf :: (headText lines ++ rest) := by
      simp [headText, crlf]
    have noFeed : lf ∉ line ++ [cr] := by
      have := plain line (by simp)
      simpa [lf, cr] using this
    have more := Head.more noFeed (by rw [chomp_cr]; exact full line (by simp))
      (ih (fun other member => full other (by simp [member]))
        (fun other member => plain other (by simp [member])))
    rw [shape]
    simpa only [chomp_cr] using more

theorem parseHttpLines_headText (lines : List Bytes) (rest : Bytes)
    (full : ∀ line ∈ lines, line ≠ []) (plain : ∀ line ∈ lines, lf ∉ line) :
    parseHttpLines (headText lines ++ rest) = ((headText lines).length, lines) := by
  rw [parseHttpLines_head (head_headText lines rest full plain), List.length_append,
    Nat.add_sub_cancel]

theorem headText_pos (lines : List Bytes) : (headText lines).length ≠ 0 := by
  simp [headText, crlf]

/-- The parser takes a text apart into the lines it was made of, unless there is a line feed in one. -/
theorem parseHttpLines_headText_iff (lines : List Bytes) (full : ∀ line ∈ lines, line ≠ []) :
    parseHttpLines (headText lines) = ((headText lines).length, lines) ↔ ∀ line ∈ lines, lf ∉ line := by
  constructor
  · intro found
    have pos : (parseHttpLines (headText lines)).1 ≠ 0 := by
      rw [found]
      exact headText_pos lines
    have plain := parseHttpLines_plain pos
    rwa [found] at plain
  · intro plain
    have found := parseHttpLines_headText lines [] full plain
    rwa [List.append_nil] at found

/-! ### Header lines -/

def headerLine (name value : Bytes) : Bytes := name ++ colon :: space :: value

theorem parseHttpHeader_headerLine (name value : Bytes) (noColon : colon ∉ name)
    (visible : value.head? ≠ some space) :
    parseHttpHeader (headerLine name value) = (name.map toLower, value) := by
  have trimmed : (space :: value).dropWhile (fun c => c == space) = value := by
    cases value with
    | nil => simp
    | cons c value =>
      have other : c ≠ space := fun same => visible (by simp [same])
      simp [other]
  rw [headerLine, parseHttpHeader_field name _ noColon, trimmed]

theorem find_cons (key value name : Bytes) (headers : Headers) :
    find ((key, value) :: headers) name = if key = name then some value else find headers name := by
  by_cases same : key = name
  · simp [find, same]
  · simp [find, same]

/-! ### The generated texts -/

def protocolLines (protocols : List Bytes) : List Bytes :=
  if protocols = [] then []
  else [headerLine (text "Sec-WebSocket-Protocol") (implode protocols comma)]

def requestLines (host path : Bytes) (protocols : List Bytes) (key : Bytes) : List Bytes :=
  [text "GET" ++ space :: (path ++ space :: text "HTTP/1.1"),
    headerLine (text "Host") host,
    headerLine (text "Connection") (text "Upgrade"),
    headerLine (text "Upgrade") (text "websocket"),
    headerLine (text "Sec-WebSocket-Version") (text "13"),
    headerLine (text "Sec-WebSocket-Key") key] ++ protocolLines protocols

def responseLines (accept : Bytes) (protocols : List Bytes) : List Bytes :=
  [text "HTTP/1.1" ++ space :: (text "101" ++ space :: text "Switching Protocols"),
    headerLine (text "Server") (text "libdatachannel"),
    headerLine (text "Connection") (text "Upgrade"),
    headerLine (text "Upgrade") (text "websocket"),
    headerLine (text "Sec-WebSocket-Accept") accept] ++ protocolLines protocols

theorem protocolHeader_eq (protocols : List Bytes) :
    protocolHeader protocols = (protocolLines protocols).flatMap (fun line => line ++ crlf) := by
  unfold protocolHeader protocolLines
  split_ifs
  · rfl
  · have name : text "Sec-WebSocket-Protocol: " =
        text "Sec-WebSocket-Protocol" ++ [colon, space] := by decide
    simp [headerLine, name]

theorem generateHttpRequest_eq (h : WsHandshake) (random : Key) :
    (h.generateHttpRequest random).2 =
      headText (requestLines h.mHost h.mPath h.mProtocols (generateKey random)) := by
  have method : text "GET " = text "GET" ++ [space] := by decide
  have version : text " HTTP/1.1" = space :: text "HTTP/1.1" := by decide
  have host : text "Host: " = text "Host" ++ [colon, space] := by decide
  have connection : text "Connection: Upgrade" =
      headerLine (text "Connection") (text "Upgrade") := by decide
  have upgrade : text "Upgrade: websocket" =
      headerLine (text "Upgrade") (text "websocket") := by decide
  have draft : text "Sec-WebSocket-Version: 13" =
      headerLine (text "Sec-WebSocket-Version") (text "13") := by decide
  have key : text "Sec-WebSocket-Key: " = text "Sec-WebSocket-Key" ++ [colon, space] := by decide
  simp only [WsHandshake.generateHttpRequest, requestLines, headText, protocolHeader_eq, method,
    version, host, connection, upgrade, draft, key]
  simp [headerLine]

theorem generateHttpResponse_eq (sha1 : Bytes → Digest) (h : WsHandshake) :
    h.generateHttpResponse sha1 =
      headText (responseLines (computeAcceptKey sha1 h.mKey) h.mProtocols) := by
  have status : text "HTTP/1.1 101 Switching Protocols" =
      text "HTTP/1.1" ++ space :: (text "101" ++ space :: text "Switching Protocols") := by decide
  have server : text "Server: libdatachannel" =
      headerLine (text "Server") (text "libdatachannel") := by decide
  have connection : text "Connection: Upgrade" =
      headerLine (text "Connection") (text "Upgrade") := by decide
  have upgrade : text "Upgrade: websocket" =
      headerLine (text "Upgrade") (text "websocket") := by decide
  have accept : text "Sec-WebSocket-Accept: " =
      text "Sec-WebSocket-Accept" ++ [colon, space] := by decide
  simp only [WsHandshake.generateHttpResponse, responseLines, headText, protocolHeader_eq, status,
    server, connection, upgrade, accept]
  simp [headerLine]

theorem requestLines_full (host path : Bytes) (protocols : List Bytes) (key : Bytes) :
    ∀ line ∈ requestLines host path protocols key, line ≠ [] := by
  intro line member
  rcases List.mem_append.mp member with fixed | protocol
  · simp only [List.mem_cons, List.not_mem_nil, or_false] at fixed
    rcases fixed with rfl | rfl | rfl | rfl | rfl | rfl <;> simp [headerLine]
  · unfold protocolLines at protocol
    split at protocol
    · cases protocol
    · rw [List.mem_singleton.mp protocol]
      simp [headerLine]

/-! ### What the parsers recover -/

/-- The values a handshake may be built from: a printable host, a path and protocol tokens
without white space and control characters, and no comma inside a token. -/
structure WellFormed (host path : Bytes) (protocols : List Bytes) : Prop where
  hostFull : host ≠ []
  hostPrintable : ∀ c ∈ host, 33 ≤ c ∧ c ≤ 126
  pathFull : path ≠ []
  pathSolid : ∀ c ∈ path, isSpace c = false ∧ isControl c = false
  tokenFull : ∀ token ∈ protocols, token ≠ []
  tokenSolid : ∀ token ∈ protocols, ∀ c ∈ token, isSpace c = false ∧ isControl c = false ∧ c ≠ comma

theorem base64Encode_plain (data : Bytes) : ∀ c ∈ base64Encode data, c ≠ lf ∧ c ≠ space :=
  base64Encode_all (fun c => c ≠ lf ∧ c ≠ space) (by decide +kernel) (by decide) (by decide) data

theorem head_ne_space (value : Bytes) (plain : ∀ c ∈ value, c ≠ space) :
    value.head? ≠ some space := by
  intro first
  exact plain space (List.mem_of_mem_head? first) rfl

theorem mem_headerLine (name value : Bytes) (c : UInt8) :
    c ∈ headerLine name value ↔ c ∈ name ∨ c = colon ∨ c = space ∨ c ∈ value := by
  simp [headerLine]

/-! ### Lines without a line feed -/

theorem headerLine_plain (name value : Bytes) (noFeed : lf ∉ name) (plain : lf ∉ value) :
    headerLine name value ≠ [] ∧ lf ∉ headerLine name value := by
  refine ⟨by simp [headerLine], ?_⟩
  rw [mem_headerLine]
  rintro (inName | mark | mark | inValue)
  · exact noFeed inName
  · exact absurd mark (by decide)
  · exact absurd mark (by decide)
  · exact plain inValue

theorem protocolLines_plain (protocols : List Bytes) (plain : lf ∉ implode protocols comma) :
    ∀ line ∈ protocolLines protocols, line ≠ [] ∧ lf ∉ line := by
  intro line member
  unfold protocolLines at member
  split_ifs at member with none
  · simp at member
  · rw [List.mem_singleton] at member
    subst member
    exact headerLine_plain _ _ (by decide) plain

theorem requestLines_plain {host path : Bytes} {protocols : List Bytes} (hostPlain : lf ∉ host) (pathPlain : lf ∉ path)
    (protocolsPlain : lf ∉ implode protocols comma) (random : Key) :
    ∀ line ∈ requestLines host path protocols (generateKey random), line ≠ [] ∧ lf ∉ line := by
  have requestLine : lf ∉ text "GET" ++ space :: (path ++ space :: text "HTTP/1.1") := by
    simp only [List.mem_append, List.mem_cons, not_or]
    exact ⟨by decide, by decide, pathPlain, by decide, by decide⟩
  have keyPlain : lf ∉ generateKey random := fun member => (base64Encode_plain random lf member).1 rfl
  intro line member
  rcases List.mem_append.mp member with fixed | protocol
  · simp only [List.mem_cons, List.not_mem_nil, or_false] at fixed
    rcases fixed with rfl | rfl | rfl | rfl | rfl | rfl
    · exact ⟨by simp, requestLine⟩
    · exact headerLine_plain _ _ (by decide) hostPlain
    · decide
    · decide
    · decide
    · exact headerLine_plain _ _ (by decide) keyPlain
  · exact protocolLines_plain protocols protocolsPlain line protocol

theorem responseLines_plain (sha1 : Bytes → Digest) (key : Bytes) {protocols : List Bytes}
    (protocolsPlain : lf ∉ implode protocols comma) :
    ∀ line ∈ responseLines (computeAcceptKey sha1 key) protocols, line ≠ [] ∧ lf ∉ line := by
  have acceptPlain : lf ∉ computeAcceptKey sha1 key := fun member => (base64Encode_plain _ lf member).1 rfl
  intro line member
  rcases List.mem_append.mp member with fixed | protocol
  · simp only [List.mem_cons, List.not_mem_nil, or_false] at fixed
    rcases fixed with rfl | rfl | rfl | rfl | rfl
    · decide
    · decide
    · decide
    · decide
    · exact headerLine_plain _ _ (by decide) acceptPlain
  · exact protocolLines_plain protocols protocolsPlain line protocol

section
variable {host path : Bytes} {protocols : List Bytes} (wellFormed : WellFormed host path protocols)
include wellFormed

theorem host_plain : ∀ c ∈ host, c ≠ lf ∧ c ≠ space := by
  intro c member
  have printable := wellFormed.hostPrintable c member
  constructor <;> rintro rfl <;> exact absurd printable (by decide)

theorem path_plain : lf ∉ path := by
  intro member
  exact absurd (wellFormed.pathSolid lf member) (by decide)

theorem implode_plain : ∀ c ∈ implode protocols comma, c ≠ lf ∧ c ≠ space := by
  intro c member
  rcases mem_implode comma protocols c member with rfl | ⟨token, listed, inside⟩
  · decide
  · have solid := wellFormed.tokenSolid token listed c inside
    constructor <;> rintro rfl <;> exact absurd solid (by decide)

theorem parse_protocolLines : parseHttpHeaders (protocolLines protocols) =
    if protocols = [] then []
    else [(text "sec-websocket-protocol", implode protocols comma)] := by
  unfold protocolLines
  split_ifs with none
  · rfl
  · have visible := head_ne_space _ (fun c member => (implode_plain wellFormed c member).2)
    have lowered : (text "Sec-WebSocket-Protocol").map toLower = text "sec-websocket-protocol" := by
      decide
    simp only [parseHttpHeaders, List.map_cons, List.map_nil]
    rw [parseHttpHeader_headerLine _ _ (by decide) visible, lowered]

theorem parse_request_headers (random : Key) :
    parseHttpHeaders (requestLines host path protocols (generateKey random)).tail =
      [(text "host", host), (text "connection", text "Upgrade"), (text "upgrade", text "websocket"),
        (text "sec-websocket-version", text "13"), (text "sec-websocket-key", generateKey random)] ++
      parseHttpHeaders (protocolLines protocols) := by
  have hostVisible := head_ne_space _ (fun c member => (host_plain wellFormed c member).2)
  have keyVisible := head_ne_space (generateKey random)
    (fun c member => (base64Encode_plain random c member).2)
  simp only [requestLines, List.cons_append, List.nil_append, List.tail_cons, parseHttpHeaders,
    List.map_cons]
  rw [parseHttpHeader_headerLine (text "Host") host (by decide) hostVisible,
    parseHttpHeader_headerLine (text "Sec-WebSocket-Key") _ (by decide) keyVisible]
  rfl

theorem readRequest_requestLines (random : Key) :
    WsHandshake.readRequest {} (requestLines host path protocols (generateKey random)) =
      ({ mHost := host, mPath := path, mProtocols := protocols, mKey := generateKey random },
        .ok ()) := by
  have method : extractWord (text "GET" ++ space :: (path ++ space :: text "HTTP/1.1")) =
      (text "GET", space :: (path ++ space :: text "HTTP/1.1")) :=
    extractWord_append _ _ (by decide) (by decide +kernel) (by simp [space, isSpace])
  have target : extractWord (space :: (path ++ space :: text "HTTP/1.1")) =
      (path, space :: text "HTTP/1.1") := by
    rw [extractWord_skip _ _ (by decide)]
    exact extractWord_append _ _ wellFormed.pathFull
      (fun c member => (wellFormed.pathSolid c member).1) (by simp [space, isSpace])
  have headers := parse_request_headers wellFormed random
  have protocolHeaders := parse_protocolLines wellFormed
  have recovered : explode (implode protocols comma) comma = protocols :=
    explode_implode comma protocols wellFormed.tokenFull
      (fun token listed member => (wellFormed.tokenSolid token listed comma member).2.2 rfl)
  rw [protocolHeaders] at headers
  simp only [requestLines, List.cons_append, List.nil_append, List.tail_cons] at headers
  simp only [requestLines, List.cons_append, List.nil_append, WsHandshake.readRequest, method,
    target, headers, ne_eq, not_true_eq_false, ↓reduceIte]
  by_cases none : protocols = []
  · subst none
    rfl
  · rw [if_neg none]
    simp +decide only [find_cons, ↓reduceIte, recovered]

omit wellFormed in
theorem readResponse_responseLines (sha1 : Bytes → Digest) (client : WsHandshake) :
    client.readResponse sha1 (responseLines (computeAcceptKey sha1 client.mKey) protocols) =
      .ok () := by
  have status : extractWord
      (text "HTTP/1.1" ++ space :: (text "101" ++ space :: text "Switching Protocols")) =
      (text "HTTP/1.1", space :: (text "101" ++ space :: text "Switching Protocols")) := by decide
  have code : extractUnsigned (space :: (text "101" ++ space :: text "Switching Protocols")) = 101 := by
    decide
  have visible := head_ne_space (computeAcceptKey sha1 client.mKey)
    (fun c member => (base64Encode_plain _ c member).2)
  have headers : parseHttpHeaders
      ([headerLine (text "Server") (text "libdatachannel"),
        headerLine (text "Connection") (text "Upgrade"),
        headerLine (text "Upgrade") (text "websocket"),
        headerLine (text "Sec-WebSocket-Accept") (computeAcceptKey sha1 client.mKey)] ++
        protocolLines protocols) =
      [(text "server", text "libdatachannel"), (text "connection", text "Upgrade"),
        (text "upgrade", text "websocket"),
        (text "sec-websocket-accept", computeAcceptKey sha1 client.mKey)] ++
        parseHttpHeaders (protocolLines protocols) := by
    simp only [parseHttpHeaders, List.map_append, List.map_cons, List.map_nil]
    rw [parseHttpHeader_headerLine (text "Sec-WebSocket-Accept") _ (by decide) visible]
    rfl
  simp only [List.cons_append, List.nil_append] at headers
  simp only [responseLines, List.cons_append, List.nil_append, WsHandshake.readResponse, status,
    code, headers, ne_eq, not_true_eq_false, ↓reduceIte]
  simp +decide only [find_cons, ↓reduceIte]

end

theorem isHttpRequest_requestLines (host path : Bytes) (protocols : List Bytes) (key rest : Bytes) :
    isHttpRequest (headText (requestLines host path protocols key) ++ rest) = true := rfl

theorem parseHttpRequest_generated (client : WsHandshake) (random : Key) (behind : Bytes)
    (wellFormed : WellFormed client.mHost client.mPath client.mProtocols) :
    WsHandshake.parseHttpRequest {} ((client.generateHttpRequest random).2 ++ behind) =
      ((client.generateHttpRequest random).1, .ok (client.generateHttpRequest random).2.length) := by
  have plain := requestLines_plain (fun member => (host_plain wellFormed lf member).1 rfl)
    (path_plain wellFormed) (fun member => (implode_plain wellFormed lf member).1 rfl) random
  have lines := parseHttpLines_headText _ behind (fun line member => (plain line member).1)
    (fun line member => (plain line member).2)
  rw [generateHttpRequest_eq, WsHandshake.parseHttpRequest, isHttpRequest_requestLines, lines]
  simp only [Bool.true_eq_false, ↓reduceIte, if_neg (headText_pos _),
    readRequest_requestLines wellFormed random, Except.map]
  rfl

theorem parseHttpResponse_generated (sha1 : Bytes → Digest) (client server : WsHandshake)
    (behind : Bytes) (sameKey : server.mKey = client.mKey)
    (wellFormed : WellFormed server.mHost server.mPath server.mProtocols) :
    client.parseHttpResponse sha1 (server.generateHttpResponse sha1 ++ behind) =
      .ok (server.generateHttpResponse sha1).length := by
  have plain := responseLines_plain sha1 server.mKey
    (fun member => (implode_plain wellFormed lf member).1 rfl)
  have lines := parseHttpLines_headText _ behind (fun line member => (plain line member).1)
    (fun line member => (plain line member).2)
  rw [generateHttpResponse_eq, WsHandshake.parseHttpResponse, lines]
  simp only [if_neg (headText_pos _), sameKey, readResponse_responseLines, Except.map]

/-- The request of any well-formed client is read back by a fresh server, and the answer of
that server is accepted by the client, whatever bytes follow the two texts. -/
theorem handshake_round_trip (sha1 : Bytes → Digest) (host path : Bytes) (protocols : List Bytes)
    (wellFormed : WellFormed host path protocols) (random : Key)
    (behindRequest behindResponse : Bytes) :
    ∃ fresh client server request,
      WsHandshake.new host path protocols = .ok fresh ∧
      fresh.generateHttpRequest random = (client, request) ∧
      WsHandshake.parseHttpRequest {} (request ++ behindRequest) = (server, .ok request.length) ∧
      server.mHost = host ∧ server.mPath = path ∧ server.mProtocols = protocols ∧
      server.mKey = client.mKey ∧
      client.parseHttpResponse sha1 (server.generateHttpResponse sha1 ++ behindResponse) =
        .ok (server.generateHttpResponse sha1).length := by
  let fresh : WsHandshake := { mHost := host, mPath := path, mProtocols := protocols }
  have accepted : WsHandshake.new host path protocols = .ok fresh := by
    simp only [WsHandshake.new, if_neg wellFormed.hostFull, if_neg wellFormed.pathFull, fresh]
  -- the server ends with the very state of the client
  refine ⟨fresh, (fresh.generateHttpRequest random).1, (fresh.generateHttpRequest random).1,
    (fresh.generateHttpRequest random).2, accepted, rfl, ?_, rfl, rfl, rfl, rfl, ?_⟩
  · exact parseHttpRequest_generated fresh random behindRequest wellFormed
  · exact parseHttpResponse_generated sha1 _ _ behindResponse rfl wellFormed

/-- Two protocols, a port in the host, a query in the path, and frames behind both heads. -/
theorem handshake_round_trip_chat :
    ∃ fresh client server request,
      WsHandshake.new (text "example.com:8080") (text "/chat?room=1") [text "mqtt", text "wamp"] =
        .ok fresh ∧
      fresh.generateHttpRequest ⟨List.replicate 16 7, rfl⟩ = (client, request) ∧
      WsHandshake.parseHttpRequest {} (request ++ [0x81, 0x00]) = (server, .ok request.length) ∧
      server.mHost = text "example.com:8080" ∧ server.mPath = text "/chat?room=1" ∧
      server.mProtocols = [text "mqtt", text "wamp"] ∧ server.mKey = client.mKey ∧
      client.parseHttpResponse (fun _ => ⟨List.replicate 20 1, rfl⟩)
          (server.generateHttpResponse (fun _ => ⟨List.replicate 20 1, rfl⟩) ++ [0x89, 0x00]) =
        .ok (server.generateHttpResponse (fun _ => ⟨List.replicate 20 1, rfl⟩)).length :=
  handshake_round_trip _ _ _ _
    ⟨by decide +kernel, by decide +kernel, by decide +kernel, by decide +kernel, by decide +kernel,
        by decide +kernel⟩ _ _ _

end WebsocketClient.HandshakeRoundTrip
