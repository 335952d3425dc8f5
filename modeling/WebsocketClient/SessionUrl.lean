import WebsocketClient.OpenUrl
import WebsocketClient.SessionMessages

/-! A session that begins with `open`. Both ends get to know what the URL says. -/

namespace WebsocketClient.SessionUrls
open ByteString Handshake HandshakeRoundTrip UrlRegexes OpenUrls Transports WsTransports WsChunks WsStreams Sessions
  Library.Runs

/-! ### From the URL to the handshake -/

def Tokens (protocols : List Bytes) : Prop :=
  ∀ token ∈ protocols, token ≠ [] ∧ ∀ c ∈ token, isSpace c = false ∧ isControl c = false ∧ c ≠ comma

def targetText (u : Components) : Bytes := (if u.path = [] then [slash] else u.path) ++ withMark question u.query

theorem urlChar_bits : ∀ n < 256, isQueryChar (UInt8.ofNat n) = true →
    33 ≤ UInt8.ofNat n ∧ UInt8.ofNat n ≤ 126 ∧ isSpace (UInt8.ofNat n) = false ∧ isControl (UInt8.ofNat n) = false := by
  decide +kernel

theorem urlChar_printable {c : UInt8} (allowed : isQueryChar c = true) :
    33 ≤ c ∧ c ≤ 126 ∧ isSpace c = false ∧ isControl c = false := by
  have bits := urlChar_bits c.toNat (UInt8.toNat_lt c)
  rw [UInt8.ofNat_toNat] at bits
  exact bits allowed

theorem queryChar_of_name {c : UInt8} (name : isNameChar c = true) : isQueryChar c = true := by
  simp [isQueryChar, isPathChar, name]

theorem queryChar_of_digit {c : UInt8} (digit : isDigit c = true) : isQueryChar c = true := by
  apply queryChar_of_name
  simp [isNameChar, isUnreserved, digit]

theorem queryChar_of_path {c : UInt8} (path : isPathChar c = true) : isQueryChar c = true := by
  simp [isQueryChar, path]

section
variable {u : Components} (wellFormed : u.WellFormed) (simple : u.Simple)
include wellFormed simple

theorem host_name : RegName u.host := by
  rcases wellFormed.host with name | ⟨address, literal, _⟩
  · exact name
  · exact absurd (by rw [literal]; rfl) simple.host.2

theorem authority_chars : ∀ c ∈ u.authority, isQueryChar c = true := by
  intro c member
  rcases List.mem_append.mp member with host | port
  · exact queryChar_of_name (host_name wellFormed simple c host)
  · cases given : u.port with
    | none =>
      rw [given] at port
      cases port
    | some digits =>
      rw [given] at port
      rcases List.mem_cons.mp port with rfl | digit
      · decide
      · exact queryChar_of_digit (wellFormed.port digits given c digit)

omit simple in
theorem target_chars : ∀ c ∈ targetText u, isQueryChar c = true := by
  intro c member
  rcases List.mem_append.mp member with path | query
  · split at path
    · rw [List.mem_singleton.mp path]
      decide
    · exact queryChar_of_path (wellFormed.path c path)
  · cases given : u.query with
    | none =>
      rw [given] at query
      cases query
    | some value =>
      rw [given] at query
      rcases List.mem_cons.mp query with rfl | inside
      · decide
      · exact wellFormed.query value given c inside

theorem open_handshake {ws : OpenUrls.WebSocket} (closed : ws.state = .closed) : (ws.open u.url).1.mWsHandshake =
    some { mHost := u.authority, mPath := targetText u, mProtocols := ws.protocols } := by
  have name := host_name wellFormed simple
  have valid := (u.valid_iff wellFormed name simple.target).mpr simple.host.1
  have kept := (u.kept_name_iff wellFormed name simple.target).mpr ⟨simple.port, simple.query⟩
  rw [WebSocket.open_valid closed valid, kept.host, kept.path]
  rfl

theorem wellFormed_handshake {protocols : List Bytes} (tokens : Tokens protocols) :
    HandshakeRoundTrip.WellFormed u.authority (targetText u) protocols where
  hostFull := List.append_ne_nil_of_left_ne_nil simple.host.1 _
  hostPrintable c member := by
    obtain ⟨low, high, _⟩ := urlChar_printable (authority_chars wellFormed simple c member)
    exact ⟨low, high⟩
  pathFull := by
    apply List.append_ne_nil_of_left_ne_nil
    split
    · exact List.cons_ne_nil _ _
    · assumption
  pathSolid c member := (urlChar_printable (target_chars wellFormed c member)).2.2
  tokenFull token member := (tokens token member).1
  tokenSolid token member := (tokens token member).2

end

/-! ### From the handshake to the server -/

section
variable {env : End → Environment} {setup : Setup} {s : Session}

theorem answered_of_connected (inv : Inv env setup s) {e : End} (connected : (s.ends e).state = .connected) :
    sents (s.ends .server).log ≠ [] := by
  intro silent
  cases e with
  | server => exact ((inv.ends .server).silent silent).2.1 connected
  | client =>
    cases inv.reads .client with
    | handshake connecting => exact absurd (connecting.symm.trans connected) (by decide)
    | opened head done rest _ all =>
      exact absurd (silent.symm.trans all) (List.cons_ne_nil _ _).symm
    | ended _ _ gone => rcases gone with gone | gone <;> exact absurd (gone.symm.trans connected) (by decide)

theorem agreed_of_connected (inv : Inv env setup s) {e : End} (connected : (s.ends e).state = .connected) :
    (s.ends .server).mHandshake = setup.handshake ∧ (s.ends .client).mHandshake = setup.handshake :=
  ⟨(inv.ends .server).agreed (.inr (answered_of_connected inv connected)), (inv.ends .client).agreed (.inl rfl)⟩

end

/-- The transports of a WebSocket that was opened for a URL. -/
structure Opens (ws : OpenUrls.WebSocket) (u : Components) (setup : Setup) : Prop where
  closed : ws.state = .closed
  tokens : Tokens ws.protocols
  handshake : (ws.open u.url).1.mWsHandshake =
    some { mHost := setup.host, mPath := setup.path, mProtocols := setup.protocols }

/-- Whatever is sent, lost and delivered, an end that is connected knows that the server has read the authority and the
target of the URL, each of the subprotocols, and the key of the client. -/
theorem always_agreed (env : End → Environment) (setup : Setup) (quiet : ∀ e, Quiet (env e))
    (sameHash : (env .client).sha1 = (env .server).sha1) (ws : OpenUrls.WebSocket) (u : Components)
    (wellFormed : u.WellFormed) (simple : u.Simple) (opens : Opens ws u setup) (trace : List (Label × Session))
    (run : Run (Sessions.Step env) (setup.opening env) trace) :
    Always (fun s => ∀ e, (s.ends e).state = .connected →
        (s.ends .server).mHandshake.mHost = u.authority ∧ (s.ends .server).mHandshake.mPath = targetText u ∧
        (s.ends .server).mHandshake.mProtocols = ws.protocols ∧
        (s.ends .server).mHandshake.mKey = (s.ends .client).mHandshake.mKey)
      (setup.opening env) trace := by
  have made : { mHost := setup.host, mPath := setup.path, mProtocols := setup.protocols } =
      ({ mHost := u.authority, mPath := targetText u, mProtocols := ws.protocols } : WsHandshake) :=
    Option.some.inj (opens.handshake.symm.trans (open_handshake wellFormed simple opens.closed))
  obtain ⟨host, path, protocols, _⟩ := WsHandshake.mk.inj made
  have solid : HandshakeRoundTrip.WellFormed setup.host setup.path setup.protocols := by
    rw [host, path, protocols]
    exact wellFormed_handshake wellFormed simple opens.tokens
  apply always_mono _ trace _ (always_inv quiet sameHash solid run)
  intro s inv e connected
  obtain ⟨server, client⟩ := agreed_of_connected inv connected
  rw [server, client]
  exact ⟨host, path, protocols, rfl⟩

/-! ### A URL with all its parts -/

def exampleUrl : Components := ⟨text "wss", text "a.b", some (text "8443"), text "/chat", some (text "x=1")⟩

def exampleSocket : OpenUrls.WebSocket := { OpenUrls.idle with protocols := [text "p", text "q"] }

def urlSetup : Setup := { exampleSetup with
  host := text "a.b:8443"
  path := text "/chat?x=1"
  protocols := [text "p", text "q"] }

/-- The request arrives in two pieces, and the response with a message behind it. -/
def urlLabels : List Label :=
  [.deliver .server 100, .deliver .server 84, .send .server ⟨[7], .binary⟩, .deliver .client 185, .close .client,
    .deliver .server 6]

theorem urlLabels_run :
    Run (Sessions.Step accepts) (urlSetup.opening accepts) ((urlSetup.opening accepts).walk accepts urlLabels) :=
  Session.walk_run accepts urlLabels _ (by decide +kernel)

theorem exampleUrl_wellFormed : exampleUrl.WellFormed where
  scheme := .inr rfl
  host := .inl (by decide +kernel)
  port := by
    rintro port ⟨⟩
    decide +kernel
  start := .inr rfl
  path := by decide +kernel
  query := by
    rintro query ⟨⟩
    decide +kernel

theorem exampleUrl_simple : exampleUrl.Simple :=
  ⟨by decide +kernel, by decide +kernel, by decide +kernel, by decide +kernel⟩

theorem example_opens : Opens exampleSocket exampleUrl urlSetup where
  closed := rfl
  tokens := by
    unfold Tokens
    decide +kernel
  handshake := by
    rw [open_handshake exampleUrl_wellFormed exampleUrl_simple rfl]
    decide +kernel

theorem example_agreed :
    Always (fun s => ∀ e, (s.ends e).state = .connected →
        (s.ends .server).mHandshake.mHost = exampleUrl.authority ∧
        (s.ends .server).mHandshake.mPath = targetText exampleUrl ∧
        (s.ends .server).mHandshake.mProtocols = exampleSocket.protocols ∧
        (s.ends .server).mHandshake.mKey = (s.ends .client).mHandshake.mKey)
      (urlSetup.opening accepts) ((urlSetup.opening accepts).walk accepts urlLabels) :=
  always_agreed accepts urlSetup accepts_quiet rfl exampleSocket exampleUrl exampleUrl_wellFormed exampleUrl_simple
    example_opens _ urlLabels_run

end WebsocketClient.SessionUrls
