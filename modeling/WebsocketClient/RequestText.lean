import WebsocketClient.OpenUrl
import WebsocketClient.HandshakeRoundTrip

/-! The HTTP request for a URL that `open` accepts. The host and the path go into it as they stand in the URL. -/

namespace WebsocketClient.RequestTexts
open ByteString Utils Http Handshake HandshakeRoundTrip UrlRegexes OpenUrls

/-- The method, the path and the version are the words of a request line, unless there is a space in the path. -/
theorem explode_requestLine_iff (path : Bytes) :
    explode (text "GET" ++ space :: (path ++ space :: text "HTTP/1.1")) space =
      [text "GET", path, text "HTTP/1.1"] ↔ space ∉ path := by
  constructor
  · intro words
    have plain := explode_plain space (text "GET" ++ space :: (path ++ space :: text "HTTP/1.1"))
    rw [words] at plain
    exact plain path (List.mem_cons_of_mem _ (List.mem_cons_self ..))
  · intro plain
    rw [explode_token space _ _ (by decide), explode_token space path _ plain,
      explode_last space _ (by decide) (by decide)]

/-! ### The host and the path of a URL -/

theorem mem_cut {mark c : UInt8} (other : c ≠ mark) (value : Bytes) :
    c ∈ value ↔ c ∈ before mark value ∨ c ∈ after mark value := by
  induction value with
  | nil => simp [before, after]
  | cons d value ih =>
    by_cases first : d = mark
    · subst first
      have cut : before d (d :: value) = [] ∧ after d (d :: value) = value := by simp [before, after]
      rw [cut.1, cut.2, List.mem_cons]
      exact ⟨fun member => .inr (member.resolve_left other), fun member => .inr (member.resolve_left List.not_mem_nil)⟩
    · have cut : before mark (d :: value) = d :: before mark value ∧ after mark (d :: value) = after mark value := by
        simp [before, after, first]
      rw [cut.1, cut.2, List.mem_cons, List.mem_cons, ih, or_assoc]

theorem mem_hostText {c : UInt8} (other : c ≠ colon) (url : Bytes) :
    c ∈ hostText (partsOf url) ↔ c ∈ authorityOf url := by
  have host : (partsOf url).hostname = before colon (authorityOf url) := rfl
  have service : (partsOf url).service = after colon (authorityOf url) := rfl
  rw [mem_cut other (authorityOf url), ← host, ← service, hostText]
  split
  · rename_i empty
    rw [empty]
    simp
  · rw [List.mem_append, List.mem_cons]
    simp [other]

theorem mem_pathText {c : UInt8} (other : c ≠ question) (plain : c ≠ slash) (url : Bytes) :
    c ∈ pathText (partsOf url) ↔ c ∈ targetOf url := by
  have path : (partsOf url).path = before question (targetOf url) := rfl
  have query : (partsOf url).query = after question (targetOf url) := rfl
  rw [mem_cut other (targetOf url), ← path, ← query, pathText, List.mem_append]
  have first : c ∈ (if (partsOf url).path = [] then [slash] else (partsOf url).path) ↔ c ∈ (partsOf url).path := by
    split
    · rename_i empty
      rw [empty]
      simp [plain]
    · rfl
  have second : c ∈ (if (partsOf url).query = [] then [] else question :: (partsOf url).query) ↔
      c ∈ (partsOf url).query := by
    split
    · rename_i empty
      rw [empty]
    · simp [other]
  rw [first, second]

/-! ### The request of an opened WebSocket -/

/-- The request is one head of the lines that are meant, and the first line has three words. -/
def Single (s : WebSocket) (random : Key) : Prop :=
  ∃ handshake, s.mWsHandshake = some handshake ∧
    parseHttpLines (handshake.generateHttpRequest random).2 = ((handshake.generateHttpRequest random).2.length,
      requestLines handshake.mHost handshake.mPath s.protocols (generateKey random)) ∧
    explode (text "GET" ++ space :: (handshake.mPath ++ space :: text "HTTP/1.1")) space =
      [text "GET", handshake.mPath, text "HTTP/1.1"]

theorem requestLines_plain_iff {host path : Bytes} {protocols : List Bytes} (plain : ∀ token ∈ protocols, lf ∉ token)
    (random : Key) :
    (∀ line ∈ requestLines host path protocols (generateKey random), lf ∉ line) ↔ lf ∉ host ∧ lf ∉ path := by
  constructor
  · intro all
    have requestLine := all (text "GET" ++ space :: (path ++ space :: text "HTTP/1.1")) (List.mem_cons_self ..)
    have hostLine := all (headerLine (text "Host") host) (List.mem_cons_of_mem _ (List.mem_cons_self ..))
    constructor
    · intro member
      exact hostLine ((mem_headerLine _ _ _).mpr (.inr (.inr (.inr member))))
    · intro member
      apply requestLine
      exact List.mem_append_right _ (List.mem_cons_of_mem _ (List.mem_append_left _ member))
  · rintro ⟨host, path⟩
    have tokens : lf ∉ implode protocols comma := by
      intro member
      rcases mem_implode comma protocols lf member with mark | ⟨token, listed, inside⟩
      · exact absurd mark (by decide)
      · exact plain token listed inside
    exact fun line member => (requestLines_plain host path tokens random line member).2

/-- The URL decides: neither its authority nor its path and query may have a line feed, and the latter no space. -/
theorem request_single_iff (s : WebSocket) (url : Bytes) (random : Key) (accepted : (s.open url).2 = .ok ())
    (plain : ∀ token ∈ s.protocols, cr ∉ token ∧ lf ∉ token) :
    Single (s.open url).1 random ↔ lf ∉ authorityOf url ∧ lf ∉ targetOf url ∧ space ∉ targetOf url := by
  obtain ⟨closed, valid⟩ := WebSocket.valid_of_open accepted
  rw [WebSocket.open_valid closed valid, ← mem_hostText (by decide), ← mem_pathText (by decide) (by decide),
    ← mem_pathText (by decide) (by decide)]
  have lines := parseHttpLines_headText_iff
    (requestLines (hostText (partsOf url)) (pathText (partsOf url)) s.protocols (generateKey random))
    (requestLines_full _ _ _ _)
  rw [requestLines_plain_iff fun token listed => (plain token listed).2] at lines
  have words := explode_requestLine_iff (pathText (partsOf url))
  constructor
  · rintro ⟨handshake, stored, parsed, split⟩
    obtain rfl := Option.some.inj stored
    rw [generateHttpRequest_eq] at parsed
    obtain ⟨host, path⟩ := lines.mp parsed
    exact ⟨host, path, words.mp split⟩
  · rintro ⟨host, path, solid⟩
    refine ⟨_, rfl, ?_, words.mpr solid⟩
    rw [generateHttpRequest_eq]
    exact lines.mpr ⟨host, path⟩

def sampleKey : Key := ⟨List.replicate 16 7, rfl⟩

theorem single_room :
    Single ({ idle with protocols := [text "chat"] }.open (text "ws://example.com/room?from=1")).1 sampleKey := by
  have valid : Valid (text "ws://example.com/room?from=1") :=
    ⟨by decide +kernel, by decide +kernel, .inl (by decide +kernel)⟩
  apply (request_single_iff { idle with protocols := [text "chat"] } _ sampleKey
    (congrArg Prod.snd (WebSocket.open_valid rfl valid)) (by decide +kernel)).mpr
  decide +kernel

def injected : Bytes := text "ws://example.com/ HTTP/1.1\r\nCookie: a=b\r\nX:"

/-- A URL with line feeds in its path is taken, and brings a header of its own. -/
theorem injected_not_single :
    (idle.open injected).2 = .ok () ∧
      (idle.open injected).1.mWsHandshake.map
        (fun handshake => (parseHttpLines (handshake.generateHttpRequest sampleKey).2).2[1]?) =
        some (some (text "Cookie: a=b")) ∧
      ¬Single (idle.open injected).1 sampleKey := by
  have valid : Valid injected := ⟨by decide +kernel, by decide +kernel, .inl (by decide +kernel)⟩
  have opened := WebSocket.open_valid (s := idle) rfl valid
  refine ⟨congrArg Prod.snd opened, by decide +kernel, ?_⟩
  rw [opened]
  rintro ⟨handshake, stored, -, words⟩
  obtain rfl := Option.some.inj stored
  exact absurd ((explode_requestLine_iff _).mp words) (by decide +kernel)

end WebsocketClient.RequestTexts
