import Mathlib.Data.List.DropRight
import WebsocketClient.UrlRegex
import WebsocketClient.Transport

/-! `configuration.cpp`: the proxy server of a configuration, from its URL. -/

namespace WebsocketClient.Configurations
open ByteString Library.Regexes UrlRegexes Transports

def openBracket : UInt8 := 91
def closeBracket : UInt8 := 93

/-- A group without a text becomes `nullopt`. -/
def present (text : Bytes) : Option Bytes := if 0 < text.length then some text else none

def parseUrl (url : Bytes) : Option (List (Option Bytes)) :=
  match fullMatch urlRegex url with
  | none => none
  | some m =>
    if (str m 10).length = 0 then none
    else some ((List.range 18).map fun number => present (str m number))

/-- `std::stoul`, with no value for its exceptions. White space and a sign are skipped, a minus sign negates
modulo 2^64, and what stands behind the digits is left alone. -/
def stoul (str : Bytes) : Option Nat :=
  let start := str.dropWhile isSpace
  let negative := start.head? == some 45
  let unsigned := if negative || start.head? == some 43 then start.tail else start
  let digits := unsigned.takeWhile isDigit
  if digits = [] ∨ 2 ^ 64 ≤ digitsValue digits then none
  else if negative then some ((2 ^ 64 - digitsValue digits) % 2 ^ 64)
  else some (digitsValue digits)

namespace ProxyServer

inductive «Type» where
  | http
  | socks5
  deriving DecidableEq, Repr

end ProxyServer

structure ProxyServer where
  type : ProxyServer.Type
  hostname : Bytes
  port : UInt16
  username : Option Bytes
  password : Option Bytes
  deriving DecidableEq, Repr

namespace ProxyServer

def typeOf (scheme : Bytes) : Option ProxyServer.Type :=
  if scheme = text "http" ∨ scheme = text "HTTP" then some .http
  else if scheme = text "socks5" ∨ scheme = text "SOCKS5" then some .socks5
  else none

def defaultService : ProxyServer.Type → Bytes
  | .socks5 => text "1080"
  | .http => text "3128"

/-- The two loops over `hostname`. -/
def strip (hostname : Bytes) : Bytes :=
  (hostname.dropWhile (fun c => c == openBracket)).rdropWhile (fun c => c == closeBracket)

def new (url : Bytes) : Except Exception ProxyServer :=
  match parseUrl url with
  | none => .error (.invalidArgument (text "Invalid proxy server URL: " ++ url))
  | some opt =>
    let scheme := (opt.getD 2 none).getD (text "http")
    match typeOf scheme with
    | none => .error (.invalidArgument (text "Unknown proxy server protocol: " ++ scheme))
    | some type =>
      let service := (opt.getD 12 none).getD (defaultService type)
      match stoul service with
      | none => .error (.invalidArgument (text "Invalid proxy server port in URL: " ++ service))
      | some value => .ok
        { type
          hostname := strip ((opt.getD 10 none).getD [])
          port := UInt16.ofNat value
          username := opt.getD 6 none
          password := opt.getD 8 none }

end ProxyServer

/-! ### What is accepted -/

theorem present_getD (value other : Bytes) : (present value).getD other = if value = [] then other else value := by
  by_cases empty : value = []
  · simp [present, empty]
  · simp [present, empty, List.length_pos_iff.mpr empty]

theorem parseUrl_none {url : Bytes} (fails : ¬Closes (fromHost url) ∨ (partsOf url).hostname = []) :
    parseUrl url = none := by
  have parts := fullMatch_urlRegex url
  rw [parseUrl]
  cases matched : fullMatch urlRegex url with
  | none => rfl
  | some m =>
    rw [matched, Option.map_some] at parts
    by_cases closes : Closes (fromHost url)
    · rw [if_pos closes] at parts
      have host : str m 10 = (partsOf url).hostname := congrArg Parts.hostname (Option.some.inj parts)
      have empty := fails.resolve_left (not_not_intro closes)
      dsimp only
      rw [host, empty, if_pos List.length_nil]
    · rw [if_neg closes] at parts
      cases parts

def schemeText (url : Bytes) : Bytes := if (partsOf url).scheme = [] then text "http" else (partsOf url).scheme

def serviceText (url : Bytes) (type : ProxyServer.Type) : Bytes :=
  if (partsOf url).service = [] then ProxyServer.defaultService type else (partsOf url).service

theorem parseUrl_some {url : Bytes} (closes : Closes (fromHost url)) (full : (partsOf url).hostname ≠ []) :
    ∃ opt, parseUrl url = some opt ∧ (opt.getD 2 none).getD (text "http") = schemeText url ∧
      opt.getD 6 none = present (partsOf url).username ∧ opt.getD 8 none = present (partsOf url).password ∧
      (opt.getD 10 none).getD [] = (partsOf url).hostname ∧
      ∀ type, (opt.getD 12 none).getD (ProxyServer.defaultService type) = serviceText url type := by
  have parts := fullMatch_urlRegex url
  rw [if_pos closes] at parts
  obtain ⟨m, matched, same⟩ := Option.map_eq_some_iff.mp parts
  have host : str m 10 = (partsOf url).hostname := congrArg Parts.hostname same
  have found : (str m 10).length ≠ 0 := by
    rw [host, ne_eq, List.length_eq_zero_iff]
    exact full
  refine ⟨(List.range 18).map fun number => present (str m number), ?_, ?_⟩
  · rw [parseUrl, matched]
    exact if_neg found
  · have read : ∀ number, number < 18 →
        ((List.range 18).map fun number => present (str m number)).getD number none = present (str m number) := by
      intro number inside
      simp [List.getD, inside]
    rw [read 2 (by decide), read 6 (by decide), read 8 (by decide), read 10 (by decide), read 12 (by decide),
      schemeText, ← same, present_getD, present_getD]
    refine ⟨rfl, rfl, rfl, ?_, ?_⟩
    · rw [partsIn, ite_eq_right_iff]
      exact Eq.symm
    · intro type
      rw [serviceText, ← same, present_getD]
      rfl

/-- The URL has a host and a known scheme, and its service is a number for `std::stoul`. -/
structure Accepted (url : Bytes) (type : ProxyServer.Type) (value : Nat) : Prop where
  closes : Closes (fromHost url)
  host : (partsOf url).hostname ≠ []
  scheme : ProxyServer.typeOf (schemeText url) = some type
  service : stoul (serviceText url type) = some value

namespace ProxyServer

theorem new_accepted {url : Bytes} {type : ProxyServer.Type} {value : Nat} (accepted : Accepted url type value) :
    new url = .ok
      { type
        hostname := strip (partsOf url).hostname
        port := UInt16.ofNat value
        username := present (partsOf url).username
        password := present (partsOf url).password } := by
  obtain ⟨opt, found, scheme, username, password, hostname, service⟩ := parseUrl_some accepted.closes accepted.host
  simp only [new, found, scheme, accepted.scheme, service, accepted.service, hostname, username, password]

theorem new_refused {url : Bytes} (refused : ∀ type value, ¬Accepted url type value) :
    ∃ what, new url = .error (.invalidArgument what) := by
  by_cases fails : ¬Closes (fromHost url) ∨ (partsOf url).hostname = []
  · rw [new, parseUrl_none fails]
    exact ⟨_, rfl⟩
  · obtain ⟨closes, host⟩ := not_or.mp fails
    rw [not_not] at closes
    obtain ⟨opt, found, scheme, username, password, hostname, service⟩ := parseUrl_some closes host
    simp only [new, found, scheme, service]
    cases known : typeOf (schemeText url) with
    | none => exact ⟨_, rfl⟩
    | some type =>
      dsimp only
      cases converted : stoul (serviceText url type) with
      | none => exact ⟨_, rfl⟩
      | some value => exact absurd ⟨closes, host, known, converted⟩ (refused type value)

end ProxyServer

/-! ### The brackets around a host -/

/-- The name is not empty and has no bracket at either end. -/
structure Bare (name : Bytes) : Prop where
  full : name ≠ []
  first : name.head? ≠ some openBracket ∧ name.head? ≠ some closeBracket
  last : name.getLast? ≠ some openBracket ∧ name.getLast? ≠ some closeBracket

/-- A bare name with any number of opening brackets before it and closing ones behind it. -/
def Enclosed (host : Bytes) : Prop :=
  ∃ opening name closing, host = List.replicate opening openBracket ++ (name ++ List.replicate closing closeBracket) ∧
    Bare name

namespace ProxyServer

theorem strip_shape (host : Bytes) : ∃ opening closing,
    host = List.replicate opening openBracket ++ (strip host ++ List.replicate closing closeBracket) := by
  have opening : ∀ c ∈ host.takeWhile (fun c => c == openBracket), c = openBracket := by
    intro c member
    have allowed := List.mem_takeWhile_imp member
    exact eq_of_beq allowed
  have closing : ∀ c ∈ (host.dropWhile (fun c => c == openBracket)).rtakeWhile (fun c => c == closeBracket),
      c = closeBracket := by
    intro c member
    have allowed := List.mem_rtakeWhile_imp member
    exact eq_of_beq allowed
  have shape := calc host
      = host.takeWhile (fun c => c == openBracket) ++ host.dropWhile (fun c => c == openBracket) :=
        List.takeWhile_append_dropWhile.symm
    _ = host.takeWhile (fun c => c == openBracket) ++ (strip host ++
          (host.dropWhile (fun c => c == openBracket)).rtakeWhile (fun c => c == closeBracket)) := by
        rw [strip, List.rdropWhile_append_rtakeWhile]
    _ = List.replicate (host.takeWhile (fun c => c == openBracket)).length openBracket ++ (strip host ++
          List.replicate ((host.dropWhile (fun c => c == openBracket)).rtakeWhile
            (fun c => c == closeBracket)).length closeBracket) := by
        rw [← List.eq_replicate_of_mem opening, ← List.eq_replicate_of_mem closing]
  exact ⟨_, _, shape⟩

theorem strip_enclosed {name : Bytes} (bare : Bare name) (opening closing : Nat) :
    strip (List.replicate opening openBracket ++ (name ++ List.replicate closing closeBracket)) = name := by
  have allOpening : ∀ c ∈ List.replicate opening openBracket, (c == openBracket) = true := by simp
  have allClosing : ∀ c ∈ List.replicate closing closeBracket, (c == closeBracket) = true := by simp
  have front : (name ++ List.replicate closing closeBracket).dropWhile (fun c => c == openBracket) =
      name ++ List.replicate closing closeBracket := by
    cases name with
    | nil => exact absurd rfl bare.full
    | cons c rest =>
      have other : c ≠ openBracket := fun same => bare.first.1 (by rw [same]; rfl)
      exact List.dropWhile_cons_of_neg (by simpa using other)
  have back : name.reverse.dropWhile (fun c => c == closeBracket) = name.reverse := by
    cases reversed : name.reverse with
    | nil => rfl
    | cons c rest =>
      have last : name.getLast? = some c := by
        rw [← List.head?_reverse, reversed]
        rfl
      have other : c ≠ closeBracket := fun same => bare.last.2 (by rw [last, same])
      exact List.dropWhile_cons_of_neg (by simpa using other)
  rw [strip, List.dropWhile_append_of_pos allOpening, front, List.rdropWhile, List.reverse_append,
    List.reverse_replicate, List.dropWhile_append_of_pos allClosing, back, List.reverse_reverse]

theorem bare_strip_iff (host : Bytes) : Bare (strip host) ↔ Enclosed host := by
  constructor
  · intro bare
    obtain ⟨opening, closing, shape⟩ := strip_shape host
    exact ⟨opening, strip host, closing, shape, bare⟩
  · rintro ⟨opening, name, closing, rfl, bare⟩
    rwa [strip_enclosed bare]

end ProxyServer

/-! ### The port -/

/-- Decimal digits of a value that 16 bits hold. -/
structure Decimal (service : Bytes) : Prop where
  full : service ≠ []
  digits : ∀ c ∈ service, isDigit c = true
  fits : digitsValue service ≤ 65535

theorem digit_solid {c : UInt8} (digit : isDigit c = true) : isSpace c = false ∧ c ≠ 45 ∧ c ≠ 43 := by
  have bounds : 48 ≤ c.toNat ∧ c.toNat ≤ 57 := by simpa [isDigit, UInt8.le_iff_toNat_le] using digit
  refine ⟨?_, ?_, ?_⟩
  · simp only [isSpace, Bool.or_eq_false_iff, beq_eq_false_iff_ne, ne_eq, ← UInt8.toNat_inj, Bool.and_eq_false_iff,
      decide_eq_false_iff_not, UInt8.le_iff_toNat_le, UInt8.reduceToNat]
    omega
  · rintro rfl
    exact absurd bounds (by decide)
  · rintro rfl
    exact absurd bounds (by decide)

theorem stoul_decimal {service : Bytes} (decimal : Decimal service) : stoul service = some (digitsValue service) := by
  obtain ⟨c, rest, rfl⟩ := List.exists_cons_of_ne_nil decimal.full
  have digit := decimal.digits c (List.mem_cons_self ..)
  have fits := decimal.fits
  obtain ⟨visible, minus, plus⟩ := digit_solid digit
  have start : (c :: rest).dropWhile isSpace = c :: rest := List.dropWhile_cons_of_neg (by simp [visible])
  have all : (c :: rest).takeWhile isDigit = c :: rest := List.takeWhile_eq_self_iff.mpr decimal.digits
  have range : ¬(c :: rest = [] ∨ 2 ^ 64 ≤ digitsValue (c :: rest)) := by
    rintro (empty | large)
    · exact decimal.full empty
    · omega
  simp only [stoul, start, List.head?_cons, Option.some_beq_some, beq_eq_false_iff_ne.mpr minus,
    beq_eq_false_iff_ne.mpr plus, Bool.or_self, Bool.false_eq_true, if_false, all, if_neg range]

def defaultPort : ProxyServer.Type → Nat
  | .socks5 => 1080
  | .http => 3128

theorem stoul_defaultService (type : ProxyServer.Type) :
    stoul (ProxyServer.defaultService type) = some (defaultPort type) := by
  cases type <;> decide +kernel

/-- What a URL may give: an exception, or a bare host with the default port or the port it names. -/
def Exact (url : Bytes) : Except Exception ProxyServer → Prop
  | .error thrown => ∃ what, thrown = .invalidArgument what
  | .ok server =>
    (((partsOf url).service = [] ∧ server.port.toNat = defaultPort server.type) ∨
      (Decimal (partsOf url).service ∧ server.port.toNat = digitsValue (partsOf url).service)) ∧
    Bare server.hostname

/-- `ProxyServer(url)` keeps to this exactly when the service of each URL it takes is empty or decimal and fits,
and its host is a bare name between brackets. -/
theorem proxy_exact_iff (url : Bytes) :
    Exact url (ProxyServer.new url) ↔ ∀ type value, Accepted url type value →
      ((partsOf url).service = [] ∨ Decimal (partsOf url).service) ∧ Enclosed (partsOf url).hostname := by
  constructor
  · intro exact type value accepted
    rw [ProxyServer.new_accepted accepted] at exact
    obtain ⟨service, bare⟩ := exact
    exact ⟨service.imp And.left And.left, (ProxyServer.bare_strip_iff _).mp bare⟩
  · intro plain
    by_cases some : ∃ type value, Accepted url type value
    · obtain ⟨type, value, accepted⟩ := some
      obtain ⟨service, enclosed⟩ := plain type value accepted
      rw [ProxyServer.new_accepted accepted]
      refine ⟨?_, (ProxyServer.bare_strip_iff _).mpr enclosed⟩
      have converted := accepted.service
      rw [serviceText] at converted
      rcases service with empty | decimal
      · rw [if_pos empty, stoul_defaultService] at converted
        obtain rfl := Option.some.inj converted
        refine .inl ⟨empty, ?_⟩
        cases type <;> rfl
      · rw [if_neg decimal.full, stoul_decimal decimal] at converted
        obtain rfl := Option.some.inj converted
        refine .inr ⟨decimal, ?_⟩
        have fits := decimal.fits
        exact UInt16.toNat_ofNat_of_lt' (Nat.lt_succ_of_le fits)
    · have refused : ∀ type value, ¬Accepted url type value := fun type value accepted =>
        some ⟨type, value, accepted⟩
      obtain ⟨what, thrown⟩ := ProxyServer.new_refused refused
      rw [thrown]
      exact ⟨what, rfl⟩

/-- A port of 17 bits loses its highest one. -/
theorem wide_port_taken :
    ProxyServer.new (text "http://proxy:99999") =
        .ok { type := .http, hostname := text "proxy", port := 34463, username := none, password := none } ∧
      ¬Exact (text "http://proxy:99999") (ProxyServer.new (text "http://proxy:99999")) := by
  have accepted : Accepted (text "http://proxy:99999") .http 99999 := by
    constructor <;> decide +kernel
  have service : (partsOf (text "http://proxy:99999")).service = text "99999" := by decide +kernel
  have taken := ProxyServer.new_accepted accepted
  constructor
  · rw [taken]
    decide +kernel
  · rw [taken]
    rintro ⟨port, -⟩
    rw [service] at port
    rcases port with ⟨absent, -⟩ | ⟨decimal, -⟩
    · exact absurd absent (by decide)
    · exact absurd decimal.fits (by decide)

end WebsocketClient.Configurations
