import Mathlib.Data.List.Induction
import Mathlib.Data.List.DropRight
import Mathlib.Data.List.TakeWhile
import Mathlib.Data.Nat.Digits.Defs
import WebsocketClient.Handshake

/-! `impl/httpproxytransport.cpp`. The bytes behind the answer of the proxy are passed on as they
come, whether they share a chunk with the end of the answer or not. -/

namespace WebsocketClient.HttpProxyTransports
open ByteString Http Handshake Transports

inductive Effect where
  | recv (message : Option Bytes)
  | stateChange (state : State)
  | outgoing (data : Bytes)
  deriving DecidableEq, Repr

structure HttpProxyTransport where
  mHostname : Bytes
  mService : Bytes
  mBuffer : Bytes
  state : State
  log : List Effect
  deriving DecidableEq, Repr

namespace HttpProxyTransport
variable (t : HttpProxyTransport)

def new (hostname service : Bytes) : HttpProxyTransport where
  mHostname := hostname
  mService := service
  mBuffer := []
  state := .disconnected
  log := []

def recv (message : Option Bytes) : HttpProxyTransport := { t with log := t.log ++ [.recv message] }

def changeState (s : State) : HttpProxyTransport :=
  if t.state = s then t else { t with state := s, log := t.log ++ [.stateChange s] }

def generateHttpRequest : Bytes :=
  text "CONNECT " ++ t.mHostname ++ text ":" ++ t.mService ++ text " HTTP/1.1" ++ crlf ++
  text "Host: " ++ t.mHostname ++ crlf ++ crlf

/-- The lower transport takes the request or throws. -/
def sendHttpRequest (lower : Except Exception Bool) : Except Exception Bool × HttpProxyTransport :=
  match lower with
  | .error e => (.error e, t)
  | .ok result => (.ok result, { t with log := t.log ++ [.outgoing t.generateHttpRequest] })

def start (lower : Except Exception Bool) : Except Exception Bool × HttpProxyTransport :=
  (t.changeState .connecting).sendHttpRequest lower

end HttpProxyTransport

/-- `status >> protocol >> code`. -/
def statusCode (status : Bytes) : Nat := extractUnsigned (extractWord status).2

/-- The part of `parseHttpResponse` behind the complete head. -/
def readResponse : List Bytes → Except Exception Unit
  | [] => .error (.runtimeError (text "Invalid response from HTTP proxy"))
  | status :: _ =>
    if statusCode status ≠ 200 then
      .error (.runtimeError
        (text "Unexpected response code " ++ text (toString (statusCode status)) ++ text " from HTTP proxy"))
    else .ok ()

/-- The length of the answer, zero while its head is incomplete. -/
def parseHttpResponse (buffer : Bytes) : Except Exception Nat :=
  let (length, lines) := parseHttpLines buffer
  if length = 0 then .ok 0 else (readResponse lines).map fun _ => length

namespace HttpProxyTransport
variable (t : HttpProxyTransport)

/-- The `try` block of `incoming`. -/
def process (message : Bytes) : Except Exception Unit × HttpProxyTransport :=
  if t.state = .connecting then
    let t := { t with mBuffer := t.mBuffer ++ message }
    match parseHttpResponse t.mBuffer with
    | .error e => (.error e, t)
    | .ok length =>
      if length = 0 then (.ok (), t)
      else
        let t := t.changeState .connected
        let t := { t with mBuffer := t.mBuffer.drop length }
        if t.mBuffer = [] then (.ok (), t) else (.ok (), { t.recv (some t.mBuffer) with mBuffer := [] })
  else if t.state = .connected then (.ok (), t.recv (some message))
  else (.ok (), t)

/-- The end of `incoming`, reached after an exception and on a null message. -/
def disconnect : HttpProxyTransport :=
  if t.state = .connected then (t.changeState .disconnected).recv none else t.changeState .failed

def incoming (message : Option Bytes) : HttpProxyTransport :=
  if t.state ≠ .connecting ∧ t.state ≠ .connected then t
  else
    match message with
    | none => t.disconnect
    | some message =>
      match t.process message with
      | (.ok (), t) => t
      | (.error _, t) => t.disconnect

/-- A run over chunks; empty ones come when the connection is idle. -/
def receive (chunks : List Bytes) : HttpProxyTransport :=
  chunks.foldl (fun t chunk => t.incoming (some chunk)) t

end HttpProxyTransport

/-- The messages passed upward. -/
def upward (log : List Effect) : List (Option Bytes) :=
  log.filterMap fun effect => match effect with
    | .recv message => some message
    | _ => none

/-! ### The status code of a line -/

/-- Decimal digits up to the first other byte, the most significant one first. -/
inductive Digits : Nat → Bytes → Prop where
  | mk {digits rest : Bytes} : digits ≠ [] → (∀ c ∈ digits, isDigit c = true) →
      (∀ c, rest.head? = some c → isDigit c = false) →
      Digits (Nat.ofDigits 10 (digits.map fun c => c.toNat - 48).reverse) (digits ++ rest)

/-- A number for an `unsigned int`: behind a minus sign stands what is missing to 2^32. -/
inductive Numeral (number : Nat) : Bytes → Prop where
  | plain {stream : Bytes} : Digits number stream → Numeral number stream
  | plus {stream : Bytes} : Digits number stream → Numeral number (43 :: stream)
  | minus {stream : Bytes} {missing : Nat} : Digits missing stream → missing + number = 2 ^ 32 →
      Numeral number (45 :: stream)

/-- The line is a word, white space and a number that is the code; white space may stand before the word. -/
inductive HasCode (code : Nat) : Bytes → Prop where
  | mk {lead protocol gap number : Bytes} : (∀ c ∈ lead, isSpace c = true) →
      protocol ≠ [] → (∀ c ∈ protocol, isSpace c = false) → gap ≠ [] → (∀ c ∈ gap, isSpace c = true) →
      Numeral code number → HasCode code (lead ++ (protocol ++ (gap ++ number)))

def Accepts : List Bytes → Prop
  | [] => False
  | status :: _ => HasCode 200 status

theorem digitsValue_eq (digits : Bytes) :
    digitsValue digits = Nat.ofDigits 10 (digits.map fun c => c.toNat - 48).reverse := by
  induction digits using List.reverseRecOn with
  | nil => rfl
  | append_singleton digits c ih =>
    rw [digitsValue, List.foldl_append, List.map_append, List.reverse_append]
    simp only [List.foldl_cons, List.foldl_nil, List.map_cons, List.map_nil, List.reverse_singleton,
      List.singleton_append, Nat.ofDigits_cons, ← ih]
    exact Nat.add_comm _ _

theorem takeWhile_append {p : UInt8 → Bool} {first rest : Bytes} (inside : ∀ c ∈ first, p c = true)
    (stops : ∀ c, rest.head? = some c → p c = false) : (first ++ rest).takeWhile p = first := by
  rw [List.takeWhile_append_of_pos inside]
  cases rest with
  | nil => simp
  | cons c rest => rw [List.takeWhile_cons_of_neg (by simp [stops c rfl]), List.append_nil]

theorem head_dropWhile {p : UInt8 → Bool} (stream : Bytes) (c : UInt8) (first : (stream.dropWhile p).head? = some c) :
    p c = false := by
  have stops := List.head?_dropWhile_not p stream
  rw [first] at stops
  exact stops

theorem takeWhile_ne_nil {p : UInt8 → Bool} {stream : Bytes} {c : UInt8} (first : stream.head? = some c)
    (inside : p c = true) : stream.takeWhile p ≠ [] := by
  cases stream with
  | nil => cases first
  | cons d stream =>
    cases first
    simp [List.takeWhile_cons_of_pos inside]

theorem digits_iff (value : Nat) (stream : Bytes) :
    Digits value stream ↔ stream.takeWhile isDigit ≠ [] ∧ digitsValue (stream.takeWhile isDigit) = value := by
  constructor
  · intro digits
    cases digits with
    | mk full inside stops =>
      rw [takeWhile_append inside stops, digitsValue_eq]
      exact ⟨full, rfl⟩
  · rintro ⟨full, rfl⟩
    have digits := Digits.mk full (fun c member => List.mem_takeWhile_imp member) (head_dropWhile stream)
    rw [digitsValue_eq]
    rwa [List.takeWhile_append_dropWhile] at digits

theorem Digits.head {value : Nat} {stream : Bytes} (digits : Digits value stream) :
    ∃ c, stream.head? = some c ∧ isDigit c = true := by
  cases digits with
  | @mk digits rest full inside stops =>
    cases digits with
    | nil => exact absurd rfl full
    | cons c digits => exact ⟨c, rfl, inside c (by simp)⟩

theorem digit_plain {c : UInt8} (digit : isDigit c = true) : isSpace c = false ∧ c ≠ 45 ∧ c ≠ 43 := by
  simp only [isDigit, Bool.and_eq_true, decide_eq_true_eq, UInt8.le_iff_toNat_le] at digit
  have bounds : 48 ≤ c.toNat ∧ c.toNat ≤ 57 := digit
  refine ⟨?_, ?_, ?_⟩
  · simp only [isSpace, Bool.or_eq_false_iff, beq_eq_false_iff_ne, ne_eq, ← UInt8.toNat_inj, Bool.and_eq_false_iff,
      decide_eq_false_iff_not, UInt8.le_iff_toNat_le]
    change c.toNat ≠ 32 ∧ (¬9 ≤ c.toNat ∨ ¬c.toNat ≤ 13)
    omega
  · rintro rfl
    exact absurd digit (by decide)
  · rintro rfl
    exact absurd digit (by decide)

/-- A number starts where no white space is. -/
theorem Numeral.head {number : Nat} {stream : Bytes} (numeral : Numeral number stream) :
    ∃ c, stream.head? = some c ∧ isSpace c = false := by
  cases numeral with
  | plain digits =>
    obtain ⟨c, first, digit⟩ := digits.head
    exact ⟨c, first, (digit_plain digit).1⟩
  | plus digits => exact ⟨43, rfl, by decide⟩
  | minus digits missing => exact ⟨45, rfl, by decide⟩

theorem extractUnsigned_visible {stream : Bytes} (visible : stream.dropWhile isSpace = stream) :
    extractUnsigned stream =
      (let negative := stream.head? == some 45
       let unsigned := if negative || stream.head? == some 43 then stream.tail else stream
       let value := digitsValue (unsigned.takeWhile isDigit)
       if 2 ^ 32 ≤ value then 2 ^ 32 - 1 else if negative then (2 ^ 32 - value) % 2 ^ 32 else value) := by
  rw [extractUnsigned, visible]

theorem nonempty_of_value {digits : Bytes} (value : digitsValue digits ≠ 0) : digits ≠ [] := by
  rintro rfl
  exact value rfl

theorem extractUnsigned_iff {number : Nat} (positive : 0 < number) (small : number < 2 ^ 32 - 1) {stream : Bytes}
    (visible : stream.dropWhile isSpace = stream) : extractUnsigned stream = number ↔ Numeral number stream := by
  rw [extractUnsigned_visible visible]
  constructor
  · intro read
    cases stream with
    | nil =>
      change 0 = number at read
      omega
    | cons c rest =>
      by_cases minus : c = 45
      · subst minus
        change (if 2 ^ 32 ≤ digitsValue (rest.takeWhile isDigit) then 2 ^ 32 - 1
          else (2 ^ 32 - digitsValue (rest.takeWhile isDigit)) % 2 ^ 32) = number at read
        split_ifs at read with large
        · omega
        · have value : digitsValue (rest.takeWhile isDigit) ≠ 0 := by
            intro zero
            rw [zero] at read
            omega
          exact .minus ((digits_iff _ _).mpr ⟨nonempty_of_value value, rfl⟩) (by omega)
      · by_cases plus : c = 43
        · subst plus
          change (if 2 ^ 32 ≤ digitsValue (rest.takeWhile isDigit) then 2 ^ 32 - 1
            else digitsValue (rest.takeWhile isDigit)) = number at read
          split_ifs at read with large
          · omega
          · exact .plus ((digits_iff _ _).mpr ⟨nonempty_of_value (by omega), read⟩)
        · simp only [List.head?_cons, Option.some_beq_some, beq_eq_false_iff_ne.mpr minus,
            beq_eq_false_iff_ne.mpr plus, Bool.or_self, Bool.false_eq_true, if_false] at read
          split_ifs at read with large
          · omega
          · exact .plain ((digits_iff _ _).mpr ⟨nonempty_of_value (by omega), read⟩)
  · intro numeral
    cases numeral with
    | plain digits =>
      obtain ⟨c, first, digit⟩ := digits.head
      obtain ⟨_, noMinus, noPlus⟩ := digit_plain digit
      have value := ((digits_iff _ _).mp digits).2
      simp only [first, Option.some_beq_some, beq_eq_false_iff_ne.mpr noMinus, beq_eq_false_iff_ne.mpr noPlus,
        Bool.or_self, Bool.false_eq_true, if_false, value]
      exact if_neg (by omega)
    | @plus stream digits =>
      have value := ((digits_iff _ _).mp digits).2
      change (if 2 ^ 32 ≤ digitsValue (stream.takeWhile isDigit) then 2 ^ 32 - 1
        else digitsValue (stream.takeWhile isDigit)) = number
      rw [value]
      exact if_neg (by omega)
    | @minus stream missing digits all =>
      have value := ((digits_iff _ _).mp digits).2
      change (if 2 ^ 32 ≤ digitsValue (stream.takeWhile isDigit) then 2 ^ 32 - 1
        else (2 ^ 32 - digitsValue (stream.takeWhile isDigit)) % 2 ^ 32) = number
      rw [value, if_neg (by omega)]
      omega

theorem extractUnsigned_skip {gap stream : Bytes} (blank : ∀ c ∈ gap, isSpace c = true) :
    extractUnsigned (gap ++ stream) = extractUnsigned stream := by
  simp only [extractUnsigned, List.dropWhile_append_of_pos blank]

theorem statusCode_iff {code : Nat} (positive : 0 < code) (small : code < 2 ^ 32 - 1) (status : Bytes) :
    statusCode status = code ↔ HasCode code status := by
  constructor
  · intro read
    let start := status.dropWhile isSpace
    let word := start.takeWhile fun c => !isSpace c
    let behind := start.dropWhile fun c => !isSpace c
    have parts : status.takeWhile isSpace ++ (word ++ (behind.takeWhile isSpace ++ behind.dropWhile isSpace)) =
        status := by
      rw [List.takeWhile_append_dropWhile, List.takeWhile_append_dropWhile, List.takeWhile_append_dropWhile]
    have gapped : extractUnsigned (behind.takeWhile isSpace ++ behind.dropWhile isSpace) = code := by
      rw [List.takeWhile_append_dropWhile]
      exact read
    have numeral : Numeral code (behind.dropWhile isSpace) := by
      rw [extractUnsigned_skip (fun c member => List.mem_takeWhile_imp member)] at gapped
      exact (extractUnsigned_iff positive small (List.dropWhile_idempotent _ behind)).mp gapped
    have wide : behind.takeWhile isSpace ≠ [] := by
      cases shape : behind with
      | nil =>
        rw [shape] at gapped
        change 0 = code at gapped
        omega
      | cons c rest =>
        have blank := head_dropWhile start c (by rw [show start.dropWhile _ = c :: rest from shape]; rfl)
        exact takeWhile_ne_nil rfl (by simpa using blank)
    have named : word ≠ [] := by
      cases shape : start with
      | nil =>
        have none : behind = [] := by simp [behind, shape]
        exact absurd (by rw [none]; rfl) wide
      | cons c rest =>
        have solid := head_dropWhile status c (by rw [show status.dropWhile _ = c :: rest from shape]; rfl)
        exact takeWhile_ne_nil (by rw [shape]; rfl) (by simp [solid])
    have leads : ∀ c ∈ status.takeWhile isSpace, isSpace c = true := fun c member => List.mem_takeWhile_imp member
    have has := HasCode.mk leads named (fun c member => by simpa using List.mem_takeWhile_imp member) wide
      (fun c member => List.mem_takeWhile_imp member) numeral
    rwa [parts] at has
  · intro has
    cases has with
    | @mk lead protocol gap number leads named solid wide blank numeral =>
      obtain ⟨c, first, visible⟩ := numeral.head
      have seen : number.dropWhile isSpace = number := by
        cases number with
        | nil => cases first
        | cons d number =>
          cases first
          exact List.dropWhile_cons_of_neg (by simp [visible])
      have stops : ∀ d, (gap ++ number).head? = some d → isSpace d = true := by
        intro d head
        cases gap with
        | nil => exact absurd rfl wide
        | cons e gap =>
          cases head
          exact blank d (by simp)
      have skipped :
          extractWord (lead ++ (protocol ++ (gap ++ number))) = extractWord (protocol ++ (gap ++ number)) := by
        simp only [extractWord, List.dropWhile_append_of_pos leads]
      rw [statusCode, skipped, extractWord_append protocol (gap ++ number) named solid stops,
          extractUnsigned_skip blank]
      exact (extractUnsigned_iff positive small seen).mpr numeral

theorem readResponse_ok {lines : List Bytes} (accepts : Accepts lines) : readResponse lines = .ok () := by
  cases lines with
  | nil => exact accepts.elim
  | cons status lines =>
    have code : statusCode status = 200 := (statusCode_iff (by decide) (by decide) status).mpr accepts
    exact if_neg (not_not.mpr code)

theorem readResponse_error {lines : List Bytes} (refuses : ¬Accepts lines) : ∃ e, readResponse lines = .error e := by
  cases lines with
  | nil => exact ⟨_, rfl⟩
  | cons status lines =>
    have other : statusCode status ≠ 200 :=
      fun code => refuses ((statusCode_iff (by decide) (by decide) status).mp code)
    exact ⟨_, if_pos other⟩

/-- What a transport makes of a stream, from the time its request was sent. -/
inductive Outcome (t : HttpProxyTransport) (stream : Bytes) : HttpProxyTransport → Prop where
  | waiting : (∀ lines after, ¬Head stream lines after) → Outcome t stream { t with mBuffer := stream }
  | «open» {lines : List Bytes} {after : Bytes} (passed : List Bytes) : Head stream lines after → Accepts lines →
      passed.flatten = after →
      Outcome t stream { t with
        mBuffer := []
        state := .connected
        log := t.log ++ [.stateChange .connected] ++ passed.map fun chunk => .recv (some chunk) }
  | failed {lines : List Bytes} {after : Bytes} (buffer : Bytes) : Head stream lines after → ¬Accepts lines →
      Outcome t stream { t with
        mBuffer := buffer, state := .failed, log := t.log ++ [.stateChange .failed] }

theorem parseHttpResponse_head {stream after : Bytes} {lines : List Bytes} (head : Head stream lines after) :
    parseHttpResponse stream = (readResponse lines).map fun _ => stream.length - after.length := by
  have size := head.length_lt
  rw [parseHttpResponse, parseHttpLines_head head]
  exact if_neg (by omega)

theorem parseHttpResponse_incomplete {stream : Bytes} (incomplete : ∀ lines after, ¬Head stream lines after) :
    parseHttpResponse stream = .ok 0 := by
  have none := (parseHttpLines_zero_iff stream).mpr incomplete
  rw [parseHttpResponse]
  exact if_pos none

theorem incoming_waiting {t : HttpProxyTransport} (connecting : t.state = .connecting) (stream chunk : Bytes) :
    Outcome t (stream ++ chunk) ({ t with mBuffer := stream }.incoming (some chunk)) := by
  rw [HttpProxyTransport.incoming, if_neg fun closed => closed.1 connecting]
  simp only [HttpProxyTransport.process, if_pos connecting]
  by_cases complete : ∃ lines after, Head (stream ++ chunk) lines after
  · obtain ⟨lines, after, head⟩ := complete
    have size := head.length_lt
    rw [parseHttpResponse_head head]
    by_cases accepts : Accepts lines
    · have positive : (stream ++ chunk).length - after.length ≠ 0 := by omega
      have changes : t.state ≠ .connected := by
        rw [connecting]
        decide
      rw [readResponse_ok accepts]
      simp only [Except.map, if_neg positive, HttpProxyTransport.changeState, if_neg changes, head.drop]
      by_cases none : after = []
      · simpa [none] using Outcome.open [] head accepts none.symm
      · simpa [none, HttpProxyTransport.recv] using Outcome.open [after] head accepts (by simp)
    · obtain ⟨e, refused⟩ := readResponse_error accepts
      rw [refused]
      simpa [Except.map, HttpProxyTransport.disconnect, HttpProxyTransport.changeState, connecting] using
        Outcome.failed (t := t) (stream ++ chunk) head accepts
  · have incomplete : ∀ lines after, ¬Head (stream ++ chunk) lines after :=
      fun lines after head => complete ⟨lines, after, head⟩
    rw [parseHttpResponse_incomplete incomplete]
    simpa using Outcome.waiting incomplete

theorem Outcome.incoming {t s : HttpProxyTransport} {stream : Bytes} (outcome : Outcome t stream s)
    (connecting : t.state = .connecting) (chunk : Bytes) :
    Outcome t (stream ++ chunk) (s.incoming (some chunk)) := by
  cases outcome with
  | waiting incomplete => exact incoming_waiting connecting stream chunk
  | «open» passed head accepts same =>
    have next := Outcome.open (t := t) (passed ++ [chunk]) (head.append chunk) accepts (by simp [same])
    rw [HttpProxyTransport.incoming, if_neg fun closed => closed.2 rfl]
    simpa [HttpProxyTransport.process, HttpProxyTransport.recv] using next
  | failed buffer head refuses =>
    rw [HttpProxyTransport.incoming, if_pos ⟨by simp, by simp⟩]
    exact .failed buffer (head.append chunk) refuses

theorem outcome_receive {t : HttpProxyTransport} (connecting : t.state = .connecting) (buffer : t.mBuffer = [])
    (chunks : List Bytes) : Outcome t chunks.flatten (t.receive chunks) := by
  induction chunks using List.reverseRecOn with
  | nil =>
    have same : { t with mBuffer := [] } = t := by rw [← buffer]
    have waiting := Outcome.waiting (t := t) Head.not_nil
    rw [same] at waiting
    exact waiting
  | append_singleton chunks chunk ih =>
    rw [List.flatten_append, List.flatten_singleton, HttpProxyTransport.receive, List.foldl_append]
    exact ih.incoming connecting chunk

def started (hostname service : Bytes) (lower : Except Exception Bool) : HttpProxyTransport :=
  ((HttpProxyTransport.new hostname service).start lower).2

theorem started_state (hostname service : Bytes) (lower : Except Exception Bool) :
    (started hostname service lower).state = .connecting := by
  cases lower <;> rfl

theorem started_buffer (hostname service : Bytes) (lower : Except Exception Bool) :
    (started hostname service lower).mBuffer = [] := by
  cases lower <;> rfl

theorem upward_append (log later : List Effect) : upward (log ++ later) = upward log ++ upward later :=
  List.filterMap_append

theorem upward_started (hostname service : Bytes) (lower : Except Exception Bool) :
    upward (started hostname service lower).log = [] := by
  cases lower <;> rfl

theorem upward_map (passed : List Bytes) :
    upward (passed.map fun chunk => .recv (some chunk)) = passed.map some := by
  induction passed with
  | nil => rfl
  | cons chunk passed ih =>
    rw [List.map_cons, List.map_cons, ← ih]
    rfl

/-- For every cutting of a stream: the transport is `Connected` when the stream has a head with the code 200,
`Failed` when it has another head, and passes up what is behind the head and nothing else. -/
theorem receive_connected_iff (hostname service : Bytes) (lower : Except Exception Bool) (chunks : List Bytes) :
    let final := (started hostname service lower).receive chunks
    (final.state = .connected ↔ ∃ lines after, Head chunks.flatten lines after ∧ Accepts lines) ∧
      (final.state = .failed ↔ ∃ lines after, Head chunks.flatten lines after ∧ ¬Accepts lines) ∧
      (final.state ≠ .connected → upward final.log = []) ∧
      (∀ lines after, Head chunks.flatten lines after → Accepts lines →
        ∃ passed : List Bytes, upward final.log = passed.map some ∧ passed.flatten = after) := by
  intro final
  have connecting := started_state hostname service lower
  have quiet := upward_started hostname service lower
  have outcome : Outcome _ chunks.flatten final :=
    outcome_receive connecting (started_buffer hostname service lower) chunks
  clear_value final
  generalize started hostname service lower = t at outcome connecting quiet
  cases outcome with
  | waiting incomplete =>
    refine ⟨?_, ?_, fun _ => quiet, fun lines after head => absurd head (incomplete lines after)⟩
    · exact ⟨fun connected => absurd (connecting.symm.trans connected) (by decide),
        fun ⟨lines, after, head, _⟩ => absurd head (incomplete lines after)⟩
    · exact ⟨fun failed => absurd (connecting.symm.trans failed) (by decide),
        fun ⟨lines, after, head, _⟩ => absurd head (incomplete lines after)⟩
  | @«open» lines after passed head accepts same =>
    refine ⟨⟨fun _ => ⟨lines, after, head, accepts⟩, fun _ => rfl⟩, ?_, fun other => absurd rfl other, ?_⟩
    · refine ⟨nofun, ?_⟩
      rintro ⟨lines', after', head', refuses⟩
      rw [(head'.unique head).1] at refuses
      exact absurd accepts refuses
    · intro lines' after' head' _
      refine ⟨passed, ?_, same.trans (head.unique head').2⟩
      rw [upward_append, upward_append, upward_map, quiet]
      rfl
  | @failed lines after buffer head refuses =>
    have refused : ∀ lines' after', Head chunks.flatten lines' after' → ¬Accepts lines' := by
      intro lines' after' head'
      rw [(head'.unique head).1]
      exact refuses
    refine ⟨?_, ⟨fun _ => ⟨lines, after, head, refuses⟩, fun _ => rfl⟩, ?_,
      fun lines' after' head' accepts => absurd accepts (refused lines' after' head')⟩
    · exact ⟨nofun, fun ⟨lines', after', head', accepts⟩ => absurd accepts (refused lines' after' head')⟩
    · intro _
      rw [upward_append, quiet]
      rfl

/-- The answer comes in three chunks with an idle one between them, and five bytes stand behind its head. -/
def answerChunks : List Bytes := [text "HTTP/1.1 2", [], text "00 OK\r\nVia: p\r\n\r\nabc", text "de"]

theorem connected_answerChunks :
    let final := (started (text "h") (text "80") (.ok true)).receive answerChunks
    final.state = .connected ∧
      ∃ passed : List Bytes, upward final.log = passed.map some ∧ passed.flatten = text "abcde" := by
  have stops : Head ([cr] ++ lf :: text "abcde") [] (text "abcde") := .stop (by decide) (by decide)
  have fields : Head (text "Via: p\r" ++ lf :: text "\r\nabcde") [text "Via: p"] (text "abcde") :=
    .more (by decide) (by decide) stops
  have whole : Head (text "HTTP/1.1 200 OK\r" ++ lf :: text "Via: p\r\n\r\nabcde")
      [text "HTTP/1.1 200 OK", text "Via: p"] (text "abcde") :=
    .more (by decide) (by decide) fields
  have head : Head answerChunks.flatten [text "HTTP/1.1 200 OK", text "Via: p"] (text "abcde") := whole
  have digits : Digits 200 (text "200" ++ text " OK") := (digits_iff _ _).mpr (by decide +kernel)
  have code : HasCode 200 ([] ++ (text "HTTP/1.1" ++ ([space] ++ (text "200" ++ text " OK")))) :=
    .mk (by decide +kernel) (by decide +kernel) (by decide +kernel) (by decide +kernel) (by decide +kernel)
        (.plain digits)
  have outcome := receive_connected_iff (text "h") (text "80") (.ok true) answerChunks
  exact ⟨outcome.1.mpr ⟨_, _, head, code⟩, outcome.2.2.2 _ _ head code⟩

end WebsocketClient.HttpProxyTransports
