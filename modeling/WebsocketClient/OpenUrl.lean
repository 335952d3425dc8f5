import WebsocketClient.Configuration
import WebsocketClient.Handshake
import WebsocketClient.WebSocketState

/-! `WebSocket::open` in `websocketimpl.cpp`, from the URL to the handshake and to the address of the TCP
transport. What the transports do then is the subject of `TransportStack`. -/

namespace WebsocketClient.OpenUrls
open ByteString Utils Library.Regexes UrlRegexes Configurations Handshake WebSocketStates

structure WebSocket where
  state : State
  /-- `config.protocols` and `config.proxyServer`. -/
  protocols : List Bytes
  proxyServer : Option ProxyServer
  mIsSecure : Bool
  mHostname : Option Bytes
  mService : Option Bytes
  mWsHandshake : Option WsHandshake
  /-- The hostname and the service of the TCP transport. -/
  mTcpTransport : Option (Bytes × Bytes)
  deriving DecidableEq, Repr

inductive Thrown where
  | logicError (what : Bytes)
  | other (exception : Transports.Exception)
  deriving DecidableEq, Repr

def schemeOr (m : Parts) : Bytes := if m.scheme = [] then text "ws" else m.scheme

def isSecure (m : Parts) : Bool := decide (schemeOr m ≠ text "ws")

def serviceOr (m : Parts) : Bytes :=
  if m.service = [] then if isSecure m then text "443" else text "80" else m.service

/-- What stands behind `Host: `. -/
def hostText (m : Parts) : Bytes := if m.service = [] then m.hostname else m.hostname ++ colon :: m.service

def hostnameOf (m : Parts) : Bytes :=
  if m.hostname.head? = some openBracket ∧ m.hostname.getLast? = some closeBracket then m.hostname.tail.dropLast
  else urlDecode m.hostname

def pathText (m : Parts) : Bytes :=
  (if m.path = [] then [slash] else m.path) ++ (if m.query = [] then [] else question :: m.query)

namespace WebSocket
variable (s : WebSocket)

/-- Where the TCP transport connects to. -/
def address (m : Parts) : Bytes × Bytes :=
  match s.proxyServer with
  | some proxy => (proxy.hostname, text (toString proxy.port.toNat))
  | none => (hostnameOf m, serviceOr m)

/-- Fields set before an exception keep their new values. -/
def «open» (url : Bytes) : WebSocket × Except Thrown Unit :=
  if s.state ≠ .closed then (s, .error (.logicError (text "WebSocket must be closed before opening")))
  else
    match (fullMatch urlRegex url).map partsIn with
    | none => (s, .error (.other (.invalidArgument (text "Invalid WebSocket URL: " ++ url))))
    | some m =>
      if m.hostname.length = 0 then (s, .error (.other (.invalidArgument (text "Invalid WebSocket URL: " ++ url))))
      else if schemeOr m ≠ text "ws" ∧ schemeOr m ≠ text "wss" then
        (s, .error (.other (.invalidArgument (text "Invalid WebSocket scheme: " ++ schemeOr m))))
      else
        let s := { s with
          mIsSecure := isSecure m
          mHostname := some (hostnameOf m)
          mService := some (serviceOr m) }
        match WsHandshake.new (hostText m) (pathText m) s.protocols with
        | .error exception => (s, .error (.other exception))
        | .ok handshake =>
          ({ s with mWsHandshake := some handshake, state := .connecting, mTcpTransport := some (s.address m) }, .ok ())

end WebSocket

/-! ### What is opened -/

structure Valid (url : Bytes) : Prop where
  closes : Closes (fromHost url)
  host : (partsOf url).hostname ≠ []
  scheme : schemeOr (partsOf url) = text "ws" ∨ schemeOr (partsOf url) = text "wss"

theorem hostText_ne_nil {m : Parts} (full : m.hostname ≠ []) : hostText m ≠ [] := by
  unfold hostText
  split
  · exact full
  · simp

theorem pathText_ne_nil (m : Parts) : pathText m ≠ [] := by
  unfold pathText
  split
  · simp
  · rename_i full
    exact List.append_ne_nil_of_left_ne_nil full _

namespace WebSocket
variable {s : WebSocket} {url : Bytes}

theorem open_valid (closed : s.state = .closed) (valid : Valid url) :
    s.open url = ({ s with
      state := .connecting
      mIsSecure := isSecure (partsOf url)
      mHostname := some (hostnameOf (partsOf url))
      mService := some (serviceOr (partsOf url))
      mWsHandshake := some
        { mHost := hostText (partsOf url), mPath := pathText (partsOf url), mProtocols := s.protocols }
      mTcpTransport := some (s.address (partsOf url)) }, .ok ()) := by
  have parts := fullMatch_urlRegex url
  rw [if_pos valid.closes] at parts
  have found : (partsOf url).hostname.length ≠ 0 := fun empty => valid.host (List.length_eq_zero_iff.mp empty)
  have known : ¬(schemeOr (partsOf url) ≠ text "ws" ∧ schemeOr (partsOf url) ≠ text "wss") := fun unknown =>
    valid.scheme.elim unknown.1 unknown.2
  have handshake : WsHandshake.new (hostText (partsOf url)) (pathText (partsOf url)) s.protocols =
      .ok { mHost := hostText (partsOf url), mPath := pathText (partsOf url), mProtocols := s.protocols } := by
    rw [WsHandshake.new, if_neg (hostText_ne_nil valid.host), if_neg (pathText_ne_nil _)]
  rw [WebSocket.open, if_neg (not_not_intro closed), parts]
  simp only [if_neg found, if_neg known, handshake]
  rfl

theorem valid_of_open (done : (s.open url).2 = .ok ()) : s.state = .closed ∧ Valid url := by
  rw [WebSocket.open, fullMatch_urlRegex url] at done
  by_cases closed : s.state = .closed
  · rw [if_neg (not_not_intro closed)] at done
    by_cases closes : Closes (fromHost url)
    · simp only [if_pos closes] at done
      by_cases empty : (partsOf url).hostname.length = 0
      · rw [if_pos empty] at done
        cases done
      · rw [if_neg empty] at done
        by_cases unknown : schemeOr (partsOf url) ≠ text "ws" ∧ schemeOr (partsOf url) ≠ text "wss"
        · rw [if_pos unknown] at done
          cases done
        · have host : (partsOf url).hostname ≠ [] := fun none => empty (List.length_eq_zero_iff.mpr none)
          refine ⟨closed, closes, host, ?_⟩
          by_cases plain : schemeOr (partsOf url) = text "ws"
          · exact .inl plain
          · exact .inr (by_contra fun other => unknown ⟨plain, other⟩)
    · simp only [if_neg closes] at done
      cases done
  · rw [if_pos closed] at done
    cases done

end WebSocket

/-! ### URLs by their components -/

def isUnreserved (c : UInt8) : Bool :=
  isDigit c || (65 ≤ c && c ≤ 90) || (97 ≤ c && c ≤ 122) || (text "-._~").contains c

def isSubDelim (c : UInt8) : Bool := (text "!$&'()*+,;=").contains c

def isNameChar (c : UInt8) : Bool := isUnreserved c || isSubDelim c

def RegName (host : Bytes) : Prop := ∀ c ∈ host, isNameChar c = true

instance (host : Bytes) : Decidable (RegName host) := decidable_of_iff (host.all isNameChar = true) List.all_eq_true

def isAddressChar (c : UInt8) : Bool := isHexDigit c || (text ":.").contains c

/-- Every IPv6 address is made of these characters, and has a colon. -/
def AddressText (address : Bytes) : Prop := colon ∈ address ∧ ∀ c ∈ address, isAddressChar c = true

def isPathChar (c : UInt8) : Bool := isNameChar c || (text ":@/%").contains c

def isQueryChar (c : UInt8) : Bool := isPathChar c || c == question

structure Components where
  scheme : Bytes
  host : Bytes
  port : Option Bytes
  path : Bytes
  query : Option Bytes
  deriving DecidableEq, Repr

def nameOf (host : Bytes) : Bytes := if host.head? = some openBracket then host.tail.dropLast else host

def withMark (mark : UInt8) : Option Bytes → Bytes
  | none => []
  | some value => mark :: value

namespace Components
variable (u : Components)

def authority : Bytes := u.host ++ withMark colon u.port

def target : Bytes := u.path ++ withMark question u.query

def url : Bytes := u.scheme ++ colon :: slash :: slash :: (u.authority ++ u.target)

def defaultPort : Bytes := if u.scheme = text "wss" then text "443" else text "80"

structure WellFormed : Prop where
  scheme : u.scheme = text "ws" ∨ u.scheme = text "wss"
  host : RegName u.host ∨ ∃ address, u.host = openBracket :: (address ++ [closeBracket]) ∧ AddressText address
  port : ∀ port, u.port = some port → ∀ c ∈ port, isDigit c = true
  start : u.path = [] ∨ u.path.head? = some slash
  path : ∀ c ∈ u.path, isPathChar c = true
  query : ∀ query, u.query = some query → ∀ c ∈ query, isQueryChar c = true

/-- The URL is opened as what it says. -/
structure Opened (result : WebSocket × Except Thrown Unit) : Prop where
  done : result.2 = .ok ()
  hostname : result.1.mHostname = some (nameOf u.host)
  service : result.1.mService = some (u.port.getD u.defaultPort)
  handshake : ∃ handshake, result.1.mWsHandshake = some handshake ∧ handshake.mHost = u.authority ∧
    handshake.mPath = (if u.path = [] then [slash] else u.path) ++ withMark question u.query

/-- A host that is a name, no mark without a text behind it, and no `@`. -/
structure Simple : Prop where
  host : u.host ≠ [] ∧ u.host.head? ≠ some openBracket
  port : u.port ≠ some []
  query : u.query ≠ some []
  target : atSign ∉ u.target

end Components

/-! ### The cuts of such a URL -/

theorem avoids {p : UInt8 → Bool} {excluded : String} (clear : (text excluded).any p = false) {run : Bytes}
    (all : ∀ c ∈ run, p c = true) : ∀ c ∈ run, noneOf excluded c = true := by
  intro c member
  rw [noneOf_eq_true]
  intro listed
  exact List.any_eq_false.mp clear c listed (all c member)

theorem withMark_avoids {excluded : String} {mark : UInt8} (plain : noneOf excluded mark = true) (value : Option Bytes)
    (all : ∀ text, value = some text → ∀ c ∈ text, noneOf excluded c = true) :
    ∀ c ∈ withMark mark value, noneOf excluded c = true := by
  intro c member
  cases value with
  | none => cases member
  | some text =>
    rcases List.mem_cons.mp member with rfl | inside
    · exact plain
    · exact all text rfl c inside

theorem ne_of_not_mem {mark : UInt8} {value : Bytes} (plain : mark ∉ value) : ∀ c ∈ value, decide (c ≠ mark) = true :=
  fun _ member => decide_eq_true fun same => plain (same ▸ member)

theorem before_withMark {mark : UInt8} {value : Bytes} (plain : mark ∉ value) (rest : Option Bytes) :
    before mark (value ++ withMark mark rest) = value := by
  rw [before, List.takeWhile_append_of_pos (ne_of_not_mem plain)]
  cases rest with
  | none => simp [withMark]
  | some rest => simp [withMark]

theorem after_withMark {mark : UInt8} {value : Bytes} (plain : mark ∉ value) (rest : Option Bytes) :
    after mark (value ++ withMark mark rest) = rest.getD [] := by
  rw [after, List.dropWhile_append_of_pos (ne_of_not_mem plain)]
  cases rest with
  | none => rfl
  | some rest => simp [withMark]

theorem kept_mark_iff (mark : UInt8) (front : Bytes) (value : Option Bytes) :
    front ++ (if value.getD [] = [] then [] else mark :: value.getD []) = front ++ withMark mark value ↔
      value ≠ some [] := by
  cases value with
  | none => simp [withMark]
  | some text =>
    cases text with
    | nil => simp [withMark]
    | cons c text => simp [withMark]

theorem closes_plain {url : Bytes} (plain : ∀ c ∈ url, noneOf "#" c = true) : Closes url := by
  rw [Closes, List.dropWhile_eq_nil_iff.mpr plain]
  exact List.not_mem_nil

/-- The path text is no longer than what stands behind the user, but for the slash of an empty path. -/
theorem pathText_length (url : Bytes) : (pathText (partsOf url)).length ≤ (fromHost url).length + 1 := by
  have split := List.takeWhile_append_dropWhile (p := fun c => decide (c ≠ question)) (l := targetOf url)
  have cut : (before question (targetOf url)).length +
      ((targetOf url).dropWhile (fun c => decide (c ≠ question))).length = (targetOf url).length := by
    rw [before, ← List.length_append, split]
  have inside : (targetOf url).length ≤ (fromHost url).length :=
    Nat.le_trans (List.takeWhile_sublist _).length_le (List.dropWhile_sublist _).length_le
  have path : (if before question (targetOf url) = [] then [slash] else before question (targetOf url)).length ≤
      (before question (targetOf url)).length + 1 := by
    split
    · exact Nat.le_add_left ..
    · exact Nat.le_add_right ..
  have query : (if after question (targetOf url) = [] then [] else question :: after question (targetOf url)).length ≤
      ((targetOf url).dropWhile (fun c => decide (c ≠ question))).length := by
    rw [after]
    cases (targetOf url).dropWhile (fun c => decide (c ≠ question)) with
    | nil => exact Nat.le_refl _
    | cons c rest =>
      rw [List.tail_cons]
      split
      · exact Nat.zero_le _
      · exact Nat.le_refl _
  have total : (pathText (partsOf url)).length =
      (if before question (targetOf url) = [] then [slash] else before question (targetOf url)).length +
      (if after question (targetOf url) = [] then [] else question :: after question (targetOf url)).length :=
    List.length_append
  omega

theorem behindUser_append {front target : Bytes} (plain : atSign ∉ front) (marked : atSign ∈ target) :
    behindUser (front ++ target) = behindUser target := by
  have all : ∀ c ∈ front, noneOf "@" c = true := fun c member => noneOf_at.mpr fun same => plain (same ▸ member)
  rw [behindUser, if_pos (List.mem_append_right _ marked), List.dropWhile_append_of_pos all, behindUser,
    if_pos marked]

namespace Components
variable {u : Components} (wellFormed : u.WellFormed)
include wellFormed

theorem scheme_all {p : Bytes → Prop} (ws : p (text "ws")) (wss : p (text "wss")) : p u.scheme := by
  rcases wellFormed.scheme with plain | secure
  · rwa [plain]
  · rwa [secure]

theorem host_avoids : ∀ c ∈ u.host, noneOf "/?#@%" c = true := by
  rcases wellFormed.host with name | ⟨address, shape, -, all⟩
  · exact avoids (by decide) name
  · rw [shape]
    intro c member
    simp only [List.mem_cons, List.mem_append, List.not_mem_nil, or_false] at member
    rcases member with rfl | inside | rfl
    · decide
    · exact avoids (by decide) all c inside
    · decide

theorem authority_avoids : ∀ c ∈ u.authority, noneOf "/?#@" c = true := by
  intro c member
  rcases List.mem_append.mp member with host | port
  · exact noneOf_of_subset (by decide) (host_avoids wellFormed c host)
  · apply withMark_avoids (by decide) u.port _ c port
    exact fun digits given => avoids (by decide) (wellFormed.port digits given)

theorem target_avoids : ∀ c ∈ u.target, noneOf "#" c = true := by
  intro c member
  rcases List.mem_append.mp member with path | query
  · exact avoids (by decide) wellFormed.path c path
  · apply withMark_avoids (by decide) u.query _ c query
    exact fun value given => avoids (by decide) (wellFormed.query value given)

theorem target_start (c : UInt8) (first : u.target.head? = some c) : c = slash ∨ c = question := by
  rw [target] at first
  rcases wellFormed.start with empty | start
  · rw [empty, List.nil_append] at first
    cases shape : u.query with
    | none =>
      rw [shape] at first
      cases first
    | some value =>
      rw [shape, withMark, List.head?_cons] at first
      exact .inr (Option.some.inj first).symm
  · obtain ⟨rest, shape⟩ := List.head?_eq_some_iff.mp start
    rw [shape, List.cons_append, List.head?_cons] at first
    exact .inl (Option.some.inj first).symm

theorem scheme_cut : schemeOf u.url = u.scheme ∧ behindScheme u.url = slash :: slash :: (u.authority ++ u.target) := by
  have taken : u.url.takeWhile (noneOf ":.@/?#") = u.scheme ∧
      u.url.dropWhile (noneOf ":.@/?#") = colon :: slash :: slash :: (u.authority ++ u.target) := by
    have all : ∀ c ∈ u.scheme, noneOf ":.@/?#" c = true := by
      rw [← List.all_eq_true]
      exact scheme_all wellFormed (p := fun scheme => scheme.all (noneOf ":.@/?#") = true) (by decide) (by decide)
    rw [url, List.takeWhile_append_of_pos all, List.dropWhile_append_of_pos all,
      List.takeWhile_cons_of_neg (by decide), List.dropWhile_cons_of_neg (by decide), List.append_nil]
    exact ⟨rfl, rfl⟩
  have scheme : schemeOf u.url = u.scheme := by
    rw [schemeOf, taken.2, taken.1]
    exact if_pos rfl
  have full : u.scheme ≠ [] := scheme_all wellFormed (p := fun scheme => scheme ≠ []) (by decide) (by decide)
  refine ⟨scheme, ?_⟩
  rw [behindScheme, scheme, if_neg full, taken.2]
  rfl

theorem fromHost_url : fromHost u.url = behindUser (u.authority ++ u.target) := by
  rw [fromHost, (scheme_cut wellFormed).2]
  rfl

theorem authority_plain : atSign ∉ u.authority := fun member =>
  noneOf_eq_true.mp (authority_avoids wellFormed atSign member) (by decide)

/-- Without an `@` the URL is cut where its components end. -/
theorem cuts_plain (plain : atSign ∉ u.target) :
    fromHost u.url = u.authority ++ u.target ∧ authorityOf u.url = u.authority ∧ targetOf u.url = u.target := by
  have unmarked : atSign ∉ u.authority ++ u.target := by
    rw [List.mem_append, not_or]
    exact ⟨authority_plain wellFormed, plain⟩
  have start : fromHost u.url = u.authority ++ u.target := by
    rw [fromHost_url wellFormed, behindUser, if_neg unmarked]
  have all : ∀ c ∈ u.authority, noneOf "/?#" c = true := fun c member =>
    noneOf_of_subset (by decide) (authority_avoids wellFormed c member)
  have stops : u.target.takeWhile (noneOf "/?#") = [] ∧ u.target.dropWhile (noneOf "/?#") = u.target := by
    cases shape : u.target with
    | nil => exact ⟨rfl, rfl⟩
    | cons c rest =>
      have first := target_start wellFormed c (by rw [shape]; rfl)
      have against : ¬noneOf "/?#" c = true := by
        rcases first with rfl | rfl
        · decide
        · decide
      exact ⟨List.takeWhile_cons_of_neg against, List.dropWhile_cons_of_neg against⟩
  refine ⟨start, ?_, ?_⟩
  · rw [authorityOf, start, List.takeWhile_append_of_pos all, stops.1, List.append_nil]
  · rw [targetOf, start, List.dropWhile_append_of_pos all, stops.2]
    exact List.takeWhile_eq_self_iff.mpr (target_avoids wellFormed)

theorem path_plain : question ∉ u.path := fun member =>
  absurd (wellFormed.path question member) (by decide)

theorem target_parts (plain : atSign ∉ u.target) :
    (partsOf u.url).path = u.path ∧ (partsOf u.url).query = u.query.getD [] := by
  obtain ⟨-, -, cut⟩ := cuts_plain wellFormed plain
  have path : (partsOf u.url).path = before question u.target := congrArg (before question) cut
  have query : (partsOf u.url).query = after question u.target := congrArg (after question) cut
  rw [path, query, target, before_withMark (path_plain wellFormed), after_withMark (path_plain wellFormed)]
  exact ⟨rfl, rfl⟩

theorem name_parts (name : RegName u.host) (plain : atSign ∉ u.target) :
    (partsOf u.url).hostname = u.host ∧ (partsOf u.url).service = u.port.getD [] := by
  obtain ⟨-, cut, -⟩ := cuts_plain wellFormed plain
  have noColon : colon ∉ u.host := fun member => absurd (name colon member) (by decide)
  have host : (partsOf u.url).hostname = before colon u.authority := congrArg (before colon) cut
  have service : (partsOf u.url).service = after colon u.authority := congrArg (after colon) cut
  rw [host, service, authority, before_withMark noColon, after_withMark noColon]
  exact ⟨rfl, rfl⟩

theorem literal_hostname {address : Bytes} (shape : u.host = openBracket :: (address ++ [closeBracket]))
    (literal : AddressText address) (plain : atSign ∉ u.target) :
    (partsOf u.url).hostname = openBracket :: before colon address := by
  obtain ⟨-, cut, -⟩ := cuts_plain wellFormed plain
  have host : (partsOf u.url).hostname = before colon u.authority := congrArg (before colon) cut
  obtain ⟨start, rest, split, noColon⟩ := List.eq_append_cons_of_mem literal.1
  have all : ∀ c ∈ openBracket :: start, decide (c ≠ colon) = true := by
    apply ne_of_not_mem
    rw [List.mem_cons, not_or]
    exact ⟨by decide, noColon⟩
  have authorityShape :
      u.authority = (openBracket :: start) ++ colon :: (rest ++ [closeBracket] ++ withMark colon u.port) := by
    rw [authority, shape, split]
    simp
  have addressShape : before colon address = start := by
    rw [split, before, List.takeWhile_append_of_pos fun c member => all c (List.mem_cons_of_mem _ member),
      List.takeWhile_cons_of_neg (by simp), List.append_nil]
  rw [host, addressShape, authorityShape, before, List.takeWhile_append_of_pos all,
    List.takeWhile_cons_of_neg (by simp), List.append_nil]

theorem path_short (marked : atSign ∈ u.target) : (pathText (partsOf u.url)).length <
    ((if u.path = [] then [slash] else u.path) ++ withMark question u.query).length := by
  have behind : fromHost u.url = behindUser u.target := by
    rw [fromHost_url wellFormed, behindUser_append (authority_plain wellFormed) marked]
  have short := pathText_length u.url
  have lost : (behindUser u.target).length + 2 ≤ u.target.length := by
    have split := congrArg List.length (List.takeWhile_append_dropWhile (p := noneOf "@") (l := u.target))
    rw [dropWhile_at marked, List.length_append, List.length_cons] at split
    have front : u.target.takeWhile (noneOf "@") ≠ [] := by
      cases shape : u.target with
      | nil =>
        rw [shape] at marked
        cases marked
      | cons c rest =>
        have allowed : noneOf "@" c = true := by
          rcases target_start wellFormed c (by rw [shape]; rfl) with rfl | rfl
          · decide
          · decide
        rw [List.takeWhile_cons_of_pos allowed]
        exact List.cons_ne_nil _ _
    have := List.length_pos_iff.mpr front
    omega
  have whole : u.target.length ≤ ((if u.path = [] then [slash] else u.path) ++ withMark question u.query).length := by
    rw [target, List.length_append, List.length_append]
    split
    · rename_i empty
      rw [empty, List.length_nil]
      omega
    · exact Nat.le_refl _
  rw [behind] at short
  omega

end Components

/-! ### Which URLs are opened as what they say -/

structure Components.Kept (u : Components) (m : Parts) : Prop where
  hostname : hostnameOf m = nameOf u.host
  service : serviceOr m = u.port.getD u.defaultPort
  host : hostText m = u.authority
  path : pathText m = (if u.path = [] then [slash] else u.path) ++ withMark question u.query

theorem opened_iff_kept {s : WebSocket} (closed : s.state = .closed) (u : Components) :
    u.Opened (s.open u.url) ↔ Valid u.url ∧ u.Kept (partsOf u.url) := by
  constructor
  · intro opened
    obtain ⟨-, valid⟩ := WebSocket.valid_of_open opened.done
    rw [WebSocket.open_valid closed valid] at opened
    obtain ⟨handshake, stored, host, path⟩ := opened.handshake
    obtain rfl := Option.some.inj stored
    exact ⟨valid, Option.some.inj opened.hostname, Option.some.inj opened.service, host, path⟩
  · rintro ⟨valid, kept⟩
    rw [WebSocket.open_valid closed valid]
    exact ⟨rfl, congrArg some kept.hostname, congrArg some kept.service, _, rfl, kept.host, kept.path⟩

namespace Components
variable {u : Components} (wellFormed : u.WellFormed)
include wellFormed

theorem not_kept_literal {address : Bytes} (shape : u.host = openBracket :: (address ++ [closeBracket]))
    (literal : AddressText address) (plain : atSign ∉ u.target) : ¬u.Kept (partsOf u.url) := by
  intro kept
  have hostname := literal_hostname wellFormed shape literal plain
  have inside : ∀ c ∈ before colon address, isAddressChar c = true := fun c member =>
    literal.2 c ((List.takeWhile_sublist _).subset member)
  have unclosed : (openBracket :: before colon address).getLast? ≠ some closeBracket := by
    intro last
    rcases List.mem_cons.mp (List.mem_of_getLast? last) with same | member
    · exact absurd same (by decide)
    · exact absurd (inside closeBracket member) (by decide)
  have kept := kept.hostname
  rw [hostnameOf, hostname, if_neg fun literal => unclosed literal.2, urlDecode_cons (by decide), shape, nameOf,
    List.head?_cons, if_pos rfl, List.tail_cons, List.dropLast_concat] at kept
  have first : openBracket ∈ address := by
    rw [← kept]
    exact List.mem_cons_self ..
  exact absurd (literal.2 openBracket first) (by decide)

theorem service_kept (name : RegName u.host) (plain : atSign ∉ u.target) (full : u.port ≠ some []) :
    serviceOr (partsOf u.url) = u.port.getD u.defaultPort := by
  have service := (name_parts wellFormed name plain).2
  have scheme : (partsOf u.url).scheme = u.scheme := (scheme_cut wellFormed).1
  rw [serviceOr, service, isSecure, schemeOr, scheme]
  cases port : u.port with
  | none =>
    rw [Option.getD_none, Option.getD_none, if_pos rfl, defaultPort]
    rcases wellFormed.scheme with ws | wss
    · rw [ws]
      decide
    · rw [wss]
      decide
  | some digits =>
    have some : digits ≠ [] := fun empty => full (by rw [port, empty])
    rw [Option.getD_some, Option.getD_some, if_neg some]

theorem hostname_kept (name : RegName u.host) (plain : atSign ∉ u.target) :
    hostnameOf (partsOf u.url) = nameOf u.host := by
  have absent : ∀ c : UInt8, isNameChar c = false → c ∉ u.host := by
    intro c other member
    exact Bool.false_ne_true (other.symm.trans (name c member))
  have unbracketed : u.host.head? ≠ some openBracket := fun first =>
    absent openBracket (by decide) (List.mem_of_mem_head? first)
  rw [hostnameOf, (name_parts wellFormed name plain).1, if_neg fun literal => unbracketed literal.1,
    urlDecode_plain (absent percent (by decide)), nameOf, if_neg unbracketed]

theorem kept_name_iff (name : RegName u.host) (plain : atSign ∉ u.target) :
    u.Kept (partsOf u.url) ↔ u.port ≠ some [] ∧ u.query ≠ some [] := by
  obtain ⟨hostname, service⟩ := name_parts wellFormed name plain
  obtain ⟨path, query⟩ := target_parts wellFormed plain
  have host : hostText (partsOf u.url) = u.authority ↔ u.port ≠ some [] := by
    rw [← kept_mark_iff colon u.host, hostText, hostname, service, authority]
    split
    · rw [List.append_nil]
    · rfl
  have target : pathText (partsOf u.url) = (if u.path = [] then [slash] else u.path) ++ withMark question u.query ↔
      u.query ≠ some [] := by
    rw [pathText, path, query, kept_mark_iff]
  constructor
  · intro kept
    exact ⟨host.mp kept.host, target.mp kept.path⟩
  · rintro ⟨fullPort, fullQuery⟩
    exact ⟨hostname_kept wellFormed name plain, service_kept wellFormed name plain fullPort, host.mpr fullPort,
      target.mpr fullQuery⟩

theorem valid_iff (name : RegName u.host) (plain : atSign ∉ u.target) : Valid u.url ↔ u.host ≠ [] := by
  obtain ⟨hostname, -⟩ := name_parts wellFormed name plain
  obtain ⟨start, -, -⟩ := cuts_plain wellFormed plain
  have scheme : (partsOf u.url).scheme = u.scheme := (scheme_cut wellFormed).1
  constructor
  · intro valid
    rw [← hostname]
    exact valid.host
  · intro full
    refine ⟨?_, ?_, ?_⟩
    · rw [start]
      apply closes_plain
      intro c member
      rcases List.mem_append.mp member with authority | target
      · exact noneOf_of_subset (by decide) (authority_avoids wellFormed c authority)
      · exact target_avoids wellFormed c target
    · rwa [hostname]
    · rw [schemeOr, scheme]
      rcases wellFormed.scheme with ws | wss
      · exact .inl (by rw [ws]; rfl)
      · exact .inr (by rw [wss]; rfl)

end Components

/-- A URL is opened as what it says exactly when its host is a name, it has no empty port and no empty query, and
no `@` stands in its path or its query. -/
theorem opened_iff (s : WebSocket) (closed : s.state = .closed) (u : Components) (wellFormed : u.WellFormed) :
    u.Opened (s.open u.url) ↔ u.Simple := by
  rw [opened_iff_kept closed]
  by_cases plain : atSign ∈ u.target
  · constructor
    · rintro ⟨-, kept⟩
      exact absurd (congrArg List.length kept.path) (Nat.ne_of_lt (u.path_short wellFormed plain))
    · intro simple
      exact absurd plain simple.target
  · rcases wellFormed.host with name | ⟨address, shape, literal⟩
    · have unbracketed : u.host.head? ≠ some openBracket := fun first =>
        absurd (name openBracket (List.mem_of_mem_head? first)) (by decide)
      rw [u.valid_iff wellFormed name plain, u.kept_name_iff wellFormed name plain]
      exact ⟨fun ⟨full, port, query⟩ => ⟨⟨full, unbracketed⟩, port, query, plain⟩,
        fun simple => ⟨simple.host.1, simple.port, simple.query⟩⟩
    · constructor
      · rintro ⟨-, kept⟩
        exact absurd kept (u.not_kept_literal wellFormed shape literal plain)
      · intro simple
        exact absurd (by rw [shape]; rfl) simple.host.2

/-- A WebSocket that was not opened before. -/
def idle : WebSocket where
  state := .closed
  protocols := []
  proxyServer := none
  mIsSecure := false
  mHostname := none
  mService := none
  mWsHandshake := none
  mTcpTransport := none

def chat : Components :=
  ⟨text "wss", text "chat.example.com", some (text "8443"), text "/room:1", some (text "since=2:30")⟩

theorem opened_chat : chat.Opened (idle.open chat.url) :=
  (opened_iff idle rfl chat
    ⟨.inr rfl, .inl (by decide +kernel), fun port same => Option.some.inj same ▸ by decide +kernel, .inr (by decide),
      by decide +kernel, fun query same => Option.some.inj same ▸ by decide +kernel⟩).mpr
    ⟨by decide, by decide, by decide, by decide +kernel⟩

def profile : Components := ⟨text "ws", text "example.com", none, text "/@alice", none⟩

/-- The host and the slash of the path are taken for a user, and `alice` is connected to. -/
theorem profile_misread : profile.WellFormed ∧ (idle.open profile.url).1.mHostname = some (text "alice") ∧
    ¬profile.Opened (idle.open profile.url) := by
  have host : (idle.open profile.url).1.mHostname = some (text "alice") := by decide +kernel
  refine ⟨?_, host, ?_⟩
  · exact ⟨.inl rfl, .inl (by decide +kernel), fun _ none => absurd none.symm (Option.some_ne_none _), .inr (by decide),
      by decide +kernel, fun _ none => absurd none.symm (Option.some_ne_none _)⟩
  · intro opened
    have name := opened.hostname
    rw [host] at name
    exact absurd name (by decide +kernel)

end WebsocketClient.OpenUrls
