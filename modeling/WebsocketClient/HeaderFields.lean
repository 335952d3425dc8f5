import Mathlib.Data.List.TakeWhile
import WebsocketClient.HandshakeRoundTrip

/-! Header fields as RFC 7230 has them, with optional white space around their values, and what
`parseHttpHeaders` and `parseHttpResponse` make of them. -/

namespace WebsocketClient.HeaderFields
open ByteString Http Utils Handshake HandshakeRoundTrip

/-! ### Fields -/

def tab : UInt8 := 9

/-- `tchar` -/
def isTokenChar (c : UInt8) : Bool :=
  isDigit c || (65 ≤ c && c ≤ 90) || (97 ≤ c && c ≤ 122) ||
    [33, 35, 36, 37, 38, 39, 42, 43, 45, 46, 94, 95, 96, 124, 126].contains c

def Blank (c : UInt8) : Prop := c = space ∨ c = tab

structure Field where
  name : Bytes
  before : Bytes
  value : Bytes
  after : Bytes
  deriving DecidableEq, Repr

namespace Field
variable (f : Field)

def line : Bytes := f.name ++ colon :: (f.before ++ (f.value ++ f.after))

def pair : Bytes × Bytes := (f.name.map toLower, f.value)

structure WellFormed : Prop where
  full : f.name ≠ []
  token : ∀ c ∈ f.name, isTokenChar c = true
  before : ∀ c ∈ f.before, Blank c
  after : ∀ c ∈ f.after, Blank c
  first : ∀ c, f.value.head? = some c → ¬Blank c
  last : ∀ c, f.value.getLast? = some c → ¬Blank c

/-- There are spaces only before the value, and nothing behind it. -/
def Plain : Prop := (∀ c ∈ f.before, c = space) ∧ (f.after = [] ∨ f.value = [] ∧ ∀ c ∈ f.after, c = space)

def parsed : Bytes := (f.before ++ (f.value ++ f.after)).dropWhile (fun c => c == space)

end Field

theorem isTokenChar_colon : isTokenChar colon = false := by decide

theorem isTokenChar_lf : isTokenChar lf = false := by decide

theorem dropWhile_space_eq_nil_iff (blanks : Bytes) :
    blanks.dropWhile (fun c => c == space) = [] ↔ ∀ c ∈ blanks, c = space := by
  rw [List.dropWhile_eq_nil_iff]
  simp only [beq_iff_eq]

section
variable {f : Field} (wellFormed : f.WellFormed)
include wellFormed

theorem parseHttpHeader_line : parseHttpHeader f.line = (f.name.map toLower, f.parsed) := by
  apply parseHttpHeader_field
  intro member
  exact absurd (wellFormed.token colon member) (by rw [isTokenChar_colon]; decide)

/-- A plain field is parsed as it should be, and the value of any other one is too long. -/
theorem parsed_cases : (f.Plain ∧ f.parsed = f.value) ∨ (¬f.Plain ∧ f.value.length < f.parsed.length) := by
  unfold Field.parsed Field.Plain
  rw [List.dropWhile_append]
  by_cases spaces : ∀ c ∈ f.before, c = space
  · rw [(dropWhile_space_eq_nil_iff _).mpr spaces]
    simp only [List.isEmpty_nil, if_true]
    cases value : f.value with
    | nil =>
      rw [List.nil_append, ← dropWhile_space_eq_nil_iff f.after, List.length_nil, List.length_pos_iff]
      by_cases blank : f.after.dropWhile (fun c => c == space) = []
      · exact .inl ⟨⟨spaces, .inr ⟨rfl, blank⟩⟩, blank⟩
      · refine .inr ⟨?_, blank⟩
        rintro ⟨_, none | both⟩
        · exact blank (by rw [none]; rfl)
        · exact blank both.2
    | cons c rest =>
      have solid : (c == space) = false := by
        rw [beq_eq_false_iff_ne]
        exact fun same => wellFormed.first c (by rw [value]; rfl) (.inl same)
      rw [List.cons_append, List.dropWhile_cons_of_neg (by simp [solid])]
      by_cases none : f.after = []
      · exact .inl ⟨⟨spaces, .inl none⟩, by rw [none, List.append_nil]⟩
      · have more := List.length_pos_iff.mpr none
        refine .inr ⟨?_, ?_⟩
        · rintro ⟨_, empty | both⟩
          · exact none empty
          · cases both.1
        · simp only [List.length_cons, List.length_append]
          omega
  · have left : f.before.dropWhile (fun c => c == space) ≠ [] := fun none =>
      spaces ((dropWhile_space_eq_nil_iff _).mp none)
    have more := List.length_pos_iff.mpr left
    rw [if_neg (by rwa [List.isEmpty_iff])]
    refine .inr ⟨fun plain => spaces plain.1, ?_⟩
    simp only [List.length_append]
    omega

theorem parsed_eq_iff : f.parsed = f.value ↔ f.Plain := by
  rcases parsed_cases wellFormed with ⟨plain, same⟩ | ⟨other, longer⟩
  · exact ⟨fun _ => plain, fun _ => same⟩
  · refine ⟨fun same => ?_, fun plain => absurd plain other⟩
    rw [same] at longer
    exact absurd longer (Nat.lt_irrefl _)

theorem line_plain (noFeed : lf ∉ f.value) : f.line ≠ [] ∧ lf ∉ f.line := by
  have blanks : ¬Blank lf := by
    rintro (same | same) <;> exact absurd same (by decide)
  refine ⟨by simp [Field.line], ?_⟩
  simp only [Field.line, List.mem_append, List.mem_cons, not_or]
  refine ⟨fun member => ?_, by decide, fun member => blanks (wellFormed.before lf member), noFeed,
    fun member => blanks (wellFormed.after lf member)⟩
  exact absurd (wellFormed.token lf member) (by rw [isTokenChar_lf]; decide)

end

/-! ### The multimap -/

/-- Two multimaps are the same if they hold the same values under every name. -/
def SameHeaders (headers others : Headers) : Prop :=
  ∀ name, headers.filter (fun header => header.1 == name) = others.filter (fun header => header.1 == name)

theorem eq_of_sameHeaders {headers others : Headers} (keys : headers.map Prod.fst = others.map Prod.fst)
    (same : SameHeaders headers others) : headers = others := by
  induction headers generalizing others with
  | nil => exact (List.map_eq_nil_iff.mp keys.symm).symm
  | cons header headers ih =>
    cases others with
    | nil => cases keys
    | cons other others =>
      obtain ⟨key, rest⟩ := List.cons.inj keys
      have here := same header.1
      rw [List.filter_cons_of_pos (by simp), List.filter_cons_of_pos (by simp [key])] at here
      obtain ⟨first, _⟩ := List.cons.inj here
      subst first
      rw [ih rest]
      intro name
      have named := same name
      rw [List.filter_cons, List.filter_cons] at named
      split_ifs at named with mine
      · exact (List.cons.inj named).2
      · exact named

section
variable {fields : List Field} (wellFormed : ∀ f ∈ fields, f.WellFormed)
include wellFormed

theorem parseHttpHeaders_lines :
    parseHttpHeaders (fields.map Field.line) = fields.map (fun f => (f.name.map toLower, f.parsed)) := by
  rw [parseHttpHeaders, List.map_map]
  apply List.map_congr_left
  exact fun f member => parseHttpHeader_line (wellFormed f member)

theorem sameHeaders_iff : SameHeaders (parseHttpHeaders (fields.map Field.line)) (fields.map Field.pair) ↔
    ∀ f ∈ fields, f.Plain := by
  rw [parseHttpHeaders_lines wellFormed]
  have keys : (fields.map (fun f => (f.name.map toLower, f.parsed))).map Prod.fst =
      (fields.map Field.pair).map Prod.fst := by
    rw [List.map_map, List.map_map]
    rfl
  constructor
  · intro same f member
    have equal := List.map_inj_left.mp (eq_of_sameHeaders keys same) f member
    exact (parsed_eq_iff (wellFormed f member)).mp (congrArg Prod.snd equal)
  · intro plain name
    have equal : fields.map (fun f => (f.name.map toLower, f.parsed)) = fields.map Field.pair := by
      apply List.map_congr_left
      intro f member
      rw [(parsed_eq_iff (wellFormed f member)).mpr (plain f member)]
      rfl
    rw [equal]

end

/-! ### Responses -/

def statusLine (version reason : Bytes) : Bytes := version ++ space :: (text "101" ++ space :: reason)

def First (fields : List Field) (name : Bytes) (f : Field) : Prop :=
  fields.find? (fun f => f.name.map toLower == name) = some f

/-- A response that switches protocols, with the two fields that the client looks at. -/
structure Valid (sha1 : Bytes → Digest) (client : WsHandshake) (version reason : Bytes) (fields : List Field)
    (upgrade accept : Field) : Prop where
  versionFull : version ≠ []
  versionSolid : ∀ c ∈ version, isSpace c = false
  reason : lf ∉ reason
  wellFormed : ∀ f ∈ fields, f.WellFormed
  values : ∀ f ∈ fields, lf ∉ f.value
  upgradeFirst : First fields (text "upgrade") upgrade
  upgrade : upgrade.value.map toLower = text "websocket"
  acceptFirst : First fields (text "sec-websocket-accept") accept
  accept : accept.value = computeAcceptKey sha1 client.mKey

def response (version reason : Bytes) (fields : List Field) : Bytes :=
  headText (statusLine version reason :: fields.map Field.line)

theorem find_fields {fields : List Field} {name : Bytes} {f : Field} (first : First fields name f) :
    find (fields.map (fun f => (f.name.map toLower, f.parsed))) name = some f.parsed := by
  rw [find, List.find?_map]
  have found : fields.find? ((fun header => header.1 == name) ∘ fun f => (f.name.map toLower, f.parsed)) = some f :=
    first
  rw [found]
  rfl

theorem extractUnsigned_status (reason : Bytes) : extractUnsigned (space :: (text "101" ++ space :: reason)) = 101 := by
  have digits : text "101" = [49, 48, 49] := by decide
  have skipped : (space :: ([49, 48, 49] ++ space :: reason)).dropWhile isSpace = [49, 48, 49] ++ space :: reason := by
    rw [List.dropWhile_cons_of_pos (by decide)]
    exact List.dropWhile_cons_of_neg (by decide)
  have taken : ([49, 48, 49] ++ space :: reason).takeWhile isDigit = [49, 48, 49] := by
    rw [List.takeWhile_append_of_pos (by decide +kernel), List.takeWhile_cons_of_neg (by decide), List.append_nil]
  have unsigned : (([49, 48, 49] ++ space :: reason).head? == some 45) = false ∧
      (([49, 48, 49] ++ space :: reason).head? == some 43) = false := ⟨rfl, rfl⟩
  rw [extractUnsigned, digits, skipped]
  simp only [unsigned, Bool.or_self, Bool.false_eq_true, if_false, taken]
  decide

section
variable {sha1 : Bytes → Digest} {client : WsHandshake} {version reason : Bytes} {fields : List Field}
  {upgrade accept : Field}

theorem readResponse_iff (valid : Valid sha1 client version reason fields upgrade accept) :
    client.readResponse sha1 (statusLine version reason :: fields.map Field.line) = .ok () ↔
      upgrade.Plain ∧ accept.Plain := by
  have status : extractWord (statusLine version reason) = (version, space :: (text "101" ++ space :: reason)) :=
    extractWord_append _ _ valid.versionFull valid.versionSolid (by simp [space, isSpace])
  have upgradeFields := valid.wellFormed upgrade (List.mem_of_find?_eq_some valid.upgradeFirst)
  have acceptFields := valid.wellFormed accept (List.mem_of_find?_eq_some valid.acceptFirst)
  simp only [WsHandshake.readResponse, status, extractUnsigned_status, parseHttpHeaders_lines valid.wellFormed,
    find_fields valid.upgradeFirst, find_fields valid.acceptFirst, ne_eq, not_true_eq_false, if_false]
  have length := congrArg List.length valid.upgrade
  rw [List.length_map] at length
  rcases parsed_cases upgradeFields with ⟨plain, same⟩ | ⟨other, longer⟩
  · rw [same, valid.upgrade]
    simp only [not_true_eq_false, if_false, plain, true_and, ← parsed_eq_iff acceptFields, valid.accept]
    by_cases key : accept.parsed = computeAcceptKey sha1 client.mKey
    · simp [key]
    · simp [key]
  · have mismatch : upgrade.parsed.map toLower ≠ text "websocket" := by
      intro same
      have size := congrArg List.length same
      rw [List.length_map] at size
      omega
    simp [mismatch, other]

theorem parseHttpResponse_iff (valid : Valid sha1 client version reason fields upgrade accept) (behind : Bytes) :
    client.parseHttpResponse sha1 (response version reason fields ++ behind) =
        .ok (response version reason fields).length ↔
      upgrade.Plain ∧ accept.Plain := by
  have lines : ∀ line ∈ statusLine version reason :: fields.map Field.line, line ≠ [] ∧ lf ∉ line := by
    intro line member
    rcases List.mem_cons.mp member with rfl | field
    · refine ⟨by simp [statusLine], ?_⟩
      simp only [statusLine, List.mem_append, List.mem_cons, not_or]
      exact ⟨fun member => absurd (valid.versionSolid lf member) (by decide), by decide, by decide, by decide,
        valid.reason⟩
    · obtain ⟨f, listed, rfl⟩ := List.mem_map.mp field
      exact line_plain (valid.wellFormed f listed) (valid.values f listed)
  have parsed := parseHttpLines_headText _ behind (fun line member => (lines line member).1)
    (fun line member => (lines line member).2)
  rw [← readResponse_iff valid, response, WsHandshake.parseHttpResponse, parsed]
  simp only [if_neg (headText_pos _)]
  cases client.readResponse sha1 (statusLine version reason :: fields.map Field.line) with
  | ok => exact ⟨fun _ => rfl, fun _ => rfl⟩
  | error e => simp [Except.map]

end

/-- The fields are found and the response is accepted, exactly when no tab stands before a value and nothing
behind it. -/
theorem fields_exact_iff (fields : List Field) (wellFormed : ∀ f ∈ fields, f.WellFormed) :
    (SameHeaders (parseHttpHeaders (fields.map Field.line)) (fields.map Field.pair) ↔ ∀ f ∈ fields, f.Plain) ∧
    ∀ sha1 client version reason upgrade accept behind, Valid sha1 client version reason fields upgrade accept →
      (client.parseHttpResponse sha1 (response version reason fields ++ behind) =
        .ok (response version reason fields).length ↔ upgrade.Plain ∧ accept.Plain) :=
  ⟨sameHeaders_iff wellFormed, fun _ _ _ _ _ _ behind valid => parseHttpResponse_iff valid behind⟩

def plainHash (_ : Bytes) : Digest := ⟨List.replicate 20 85, rfl⟩

def keyed : WsHandshake := { mHost := text "a", mPath := text "/", mProtocols := [], mKey := text "key" }

/-- Two spaces before one value, none before another one, and the answer to the key in a name of another spelling. -/
def spaced : List Field :=
  [⟨text "Upgrade", text "  ", text "WebSocket", []⟩, ⟨text "Server", [], text "a b", []⟩,
    ⟨text "sec-websocket-ACCEPT", text " ", computeAcceptKey plainHash keyed.mKey, []⟩]

theorem spaced_wellFormed : ∀ f ∈ spaced, f.WellFormed := by
  have full : ∀ f ∈ spaced, f.name ≠ [] ∧ (∀ c ∈ f.name, isTokenChar c = true) := by decide +kernel
  have blank : ∀ f ∈ spaced, (∀ c ∈ f.before, c = space ∨ c = tab) ∧ f.after = [] := by decide +kernel
  have ends : ∀ f ∈ spaced, (∀ c ∈ f.value.head?, ¬(c = space ∨ c = tab)) ∧
      ∀ c ∈ f.value.getLast?, ¬(c = space ∨ c = tab) := by decide +kernel
  intro f member
  refine ⟨(full f member).1, (full f member).2, (blank f member).1, ?_, (ends f member).1, (ends f member).2⟩
  rw [(blank f member).2]
  simp

theorem spaced_plain : ∀ f ∈ spaced, f.Plain := by
  have before : ∀ f ∈ spaced, (∀ c ∈ f.before, c = space) ∧ f.after = [] := by decide +kernel
  exact fun f member => ⟨(before f member).1, .inl (before f member).2⟩

theorem spaced_valid : Valid plainHash keyed (text "HTTP/1.1") (text "Switching") spaced
    ⟨text "Upgrade", text "  ", text "WebSocket", []⟩
    ⟨text "sec-websocket-ACCEPT", text " ", computeAcceptKey plainHash keyed.mKey, []⟩ where
  versionFull := by decide +kernel
  versionSolid := by decide +kernel
  reason := by decide +kernel
  wellFormed := spaced_wellFormed
  values := by decide +kernel
  upgradeFirst := by
    unfold First
    decide +kernel
  upgrade := by decide +kernel
  acceptFirst := by
    unfold First
    decide +kernel
  accept := rfl

theorem fields_exact_spaced :
    SameHeaders (parseHttpHeaders (spaced.map Field.line)) (spaced.map Field.pair) ∧
    keyed.parseHttpResponse plainHash (response (text "HTTP/1.1") (text "Switching") spaced ++ [0x89, 0x00]) =
      .ok (response (text "HTTP/1.1") (text "Switching") spaced).length :=
  have exactly := fields_exact_iff spaced spaced_wellFormed
  ⟨exactly.1.mpr spaced_plain,
    (exactly.2 _ _ _ _ _ _ _ spaced_valid).mpr ⟨spaced_plain _ (by decide +kernel), spaced_plain _ (by decide +kernel)⟩⟩

/-- A space behind the value of `Upgrade`. -/
def trailing : Field := ⟨text "Upgrade", text " ", text "websocket", text " "⟩

theorem trailing_not_exact : ¬∀ fields : List Field, (∀ f ∈ fields, f.WellFormed) →
    SameHeaders (parseHttpHeaders (fields.map Field.line)) (fields.map Field.pair) := by
  intro all
  have wellFormed : trailing.WellFormed :=
    ⟨by decide, by decide +kernel, by simp [trailing, text, Blank, space], by simp [trailing, text, Blank, space],
      by simp [trailing, text, Blank, space, tab], by simp [trailing, text, Blank, space, tab]⟩
  have same := all [trailing] (by simpa using wellFormed) (text "upgrade")
  exact absurd same (by decide)

end WebsocketClient.HeaderFields
