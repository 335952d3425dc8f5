import Mathlib.Algebra.Ring.Int.Defs
import Mathlib.Data.List.Induction
import WebsocketClient.TcpTransport

/-! `TlsTransport::send`, in the build with GnuTLS and in the one with Mbed TLS. The library's write
primitive makes records of as many bytes as it likes, which are kept in `accepted`. -/

namespace WebsocketClient.TlsTransports
open ByteString Transports

inductive Build where
  | gnutls
  | mbedtls
  deriving DecidableEq, Repr

def GNUTLS_E_AGAIN : Int := -28
def GNUTLS_E_INTERRUPTED : Int := -52
def MBEDTLS_ERR_SSL_WANT_READ : Int := -0x6900
def MBEDTLS_ERR_SSL_WANT_WRITE : Int := -0x6880
def MBEDTLS_ERR_SSL_ASYNC_IN_PROGRESS : Int := -0x6500
def MBEDTLS_ERR_SSL_CRYPTO_IN_PROGRESS : Int := -0x7000
def MBEDTLS_ERR_SSL_PEER_CLOSE_NOTIFY : Int := -0x7880
def MBEDTLS_ERR_SSL_RECEIVED_NEW_SESSION_TICKET : Int := -0x7B00

/-- What the libraries tell about their error codes. -/
structure Errors where
  gnutls_error_is_fatal : Int → Bool
  gnutls_strerror : Int → Bytes
  mbedtls_strerror : Int → Bytes

/-- `gnutls::check` and `mbedtls::check`, false on a non-fatal error. -/
def Build.check (errors : Errors) : Build → Int → Except Exception Bool
  | .gnutls, ret =>
    if ret < 0 then
      if errors.gnutls_error_is_fatal ret then
        .error (.runtimeError (text "GnuTLS error: " ++ errors.gnutls_strerror ret))
      else .ok false
    else .ok true
  | .mbedtls, ret =>
    if ret < 0 then
      if ret = MBEDTLS_ERR_SSL_WANT_READ ∨ ret = MBEDTLS_ERR_SSL_WANT_WRITE ∨
          ret = MBEDTLS_ERR_SSL_ASYNC_IN_PROGRESS ∨ ret = MBEDTLS_ERR_SSL_CRYPTO_IN_PROGRESS ∨
          ret = MBEDTLS_ERR_SSL_PEER_CLOSE_NOTIFY ∨ ret = MBEDTLS_ERR_SSL_RECEIVED_NEW_SESSION_TICKET then
        .ok false
      else .error (.runtimeError (text "MbedTLS error: " ++ errors.mbedtls_strerror ret))
    else .ok true

def Build.again : Build → Int → Bool
  | .gnutls, ret => ret == GNUTLS_E_INTERRUPTED || ret == GNUTLS_E_AGAIN
  | .mbedtls, ret => ret == MBEDTLS_ERR_SSL_WANT_WRITE

/-- The size that is given to the write primitive. Mbed TLS gets a `size_t` made of an `int`. -/
def Build.offered : Build → Nat → Nat
  | .gnutls, size => size
  | .mbedtls, size => (TcpTransports.toInt size % 2 ^ 64).toNat

/-- The `int` that is checked. GnuTLS answers with an `ssize_t`. -/
def Build.checked : Build → Int → Int
  | .gnutls, ret => ret.bmod (2 ^ 32)
  | .mbedtls, ret => ret

/-- One call of `send`, with the answers of the write primitive in order. -/
structure Call where
  message : Bytes
  answers : List Int
  /-- What lies in memory behind the message. -/
  behind : Bytes
  /-- What `outgoing` answers to the message, or to the last record. -/
  outgoingResult : Bool
  deriving DecidableEq, Repr

structure TlsTransport where
  state : State
  mOutgoingResult : Bool
  accepted : Bytes
  /-- The messages that records have been made of, whether whole or not. -/
  sent : List Bytes
  deriving DecidableEq, Repr

/-- The loop of `send`: the answer that ends it, if one does. -/
def Build.write (build : Build) (answers : List Int) : Option Int := answers.find? fun ret => !build.again ret

/-- `TlsTransport::send`. It is `none` when the loop goes on for ever. -/
def Build.send (build : Build) (errors : Errors) (t : TlsTransport) (call : Call) :
    Option (Except Exception Bool × TlsTransport) :=
  if t.state ≠ .connected then some (.error (.runtimeError (text "TLS is not open")), t)
  else if call.message.length = 0 then
    some (.ok call.outgoingResult, { t with mOutgoingResult := call.outgoingResult })
  else match build.write call.answers with
    | none => none
    | some ret =>
      let t := { t with mOutgoingResult := call.outgoingResult }
      let t := if 0 < ret then { t with
          accepted := t.accepted ++ (call.message ++ call.behind).take ret.toNat
          sent := t.sent ++ [call.message] }
        else t
      match build.check errors (build.checked ret) with
      | .error e => some (.error e, t)
      | .ok false => some (.error (.runtimeError (text "TLS send failed")), t)
      | .ok true => some (.ok t.mOutgoingResult, t)

/-- The codes that ask for another call with the same bytes. -/
def Build.Retryable : Build → Int → Prop
  | .gnutls, ret => ret = GNUTLS_E_AGAIN ∨ ret = GNUTLS_E_INTERRUPTED
  | .mbedtls, ret => ret = MBEDTLS_ERR_SSL_WANT_READ ∨ ret = MBEDTLS_ERR_SSL_WANT_WRITE ∨
      ret = MBEDTLS_ERR_SSL_ASYNC_IN_PROGRESS ∨ ret = MBEDTLS_ERR_SSL_CRYPTO_IN_PROGRESS

def Build.maximum : Build → Int
  | .gnutls => 2 ^ 63 - 1
  | .mbedtls => 2 ^ 31 - 1

/-- The calls that are considered: the message is not empty, the loop ends, and each answer is a
retryable code or the number of bytes, out of those that were offered, which became records. -/
structure Admissible (build : Build) (call : Call) : Prop where
  full : call.message ≠ []
  ends : (build.write call.answers).isSome
  readable : build.offered call.message.length ≤ (call.message ++ call.behind).length
  answer : ∀ ret ∈ call.answers, build.Retryable ret ∨
    (1 ≤ ret ∧ ret ≤ build.offered call.message.length ∧ ret ≤ build.maximum)

def TlsTransport.connected : TlsTransport where
  state := .connected
  mOutgoingResult := false
  accepted := []
  sent := []

def Build.after (build : Build) (errors : Errors) (t : TlsTransport) (call : Call) : TlsTransport :=
  ((build.send errors t call).map Prod.snd).getD t

def Build.sends (build : Build) (errors : Errors) (calls : List Call) : TlsTransport :=
  calls.foldl (build.after errors) .connected

/-- `send` returns normally. -/
def Build.Returns (build : Build) (errors : Errors) (t : TlsTransport) (call : Call) : Prop :=
  ∃ result next, build.send errors t call = some (.ok result, next)

def Exact (t : TlsTransport) : Prop := t.accepted = t.sent.flatten

/-- The library took the message in one piece, if it took it at all. -/
def Build.Whole (build : Build) (call : Call) : Prop :=
  ∀ ret, build.write call.answers = some ret → 0 < ret → ret = call.message.length

section
variable {build : Build} {errors : Errors} {t : TlsTransport} {call : Call} {ret : Int}

theorem Build.sends_concat (calls : List Call) :
    build.sends errors (calls ++ [call]) = build.after errors (build.sends errors calls) call := by
  rw [Build.sends, List.foldl_append]
  rfl

theorem Build.send_eq (connected : t.state = .connected) (full : call.message ≠ [])
    (written : build.write call.answers = some ret) :
    build.send errors t call =
      let next := if 0 < ret then { t with
          mOutgoingResult := call.outgoingResult
          accepted := t.accepted ++ (call.message ++ call.behind).take ret.toNat
          sent := t.sent ++ [call.message] }
        else { t with mOutgoingResult := call.outgoingResult }
      match build.check errors (build.checked ret) with
      | .error e => some (.error e, next)
      | .ok false => some (.error (.runtimeError (text "TLS send failed")), next)
      | .ok true => some (.ok next.mOutgoingResult, next) := by
  rw [Build.send, if_neg (not_not.mpr connected), if_neg (by simpa using full), written]

theorem Build.after_eq (connected : t.state = .connected) (full : call.message ≠ [])
    (written : build.write call.answers = some ret) :
    build.after errors t call =
      if 0 < ret then { t with
          mOutgoingResult := call.outgoingResult
          accepted := t.accepted ++ (call.message ++ call.behind).take ret.toNat
          sent := t.sent ++ [call.message] }
        else { t with mOutgoingResult := call.outgoingResult } := by
  rw [Build.after, Build.send_eq connected full written]
  simp only
  split <;> rfl

theorem Admissible.exists_answer (admissible : Admissible build call) :
    ∃ ret, build.write call.answers = some ret ∧ build.again ret = false ∧
      (build.Retryable ret ∨ (1 ≤ ret ∧ ret ≤ build.offered call.message.length ∧ ret ≤ build.maximum)) := by
  obtain ⟨ret, written⟩ := Option.isSome_iff_exists.mp admissible.ends
  have ends := List.find?_some written
  exact ⟨ret, written, by simpa using ends, admissible.answer ret (List.mem_of_find?_eq_some written)⟩

theorem Build.check_retryable (errors : Errors) (ends : build.again ret = false) (retryable : build.Retryable ret) :
    ret < 0 ∧ build.check errors (build.checked ret) = .ok false := by
  cases build with
  | gnutls =>
    rcases retryable with rfl | rfl <;> exact absurd ends (by decide)
  | mbedtls =>
    have negative : ret < 0 := by
      rcases retryable with rfl | rfl | rfl | rfl <;> decide
    refine ⟨negative, ?_⟩
    rw [Build.checked, Build.check, if_pos negative, if_pos]
    rcases retryable with rfl | rfl | rfl | rfl <;> simp

theorem Build.returns_mbedtls (connected : t.state = .connected) (full : call.message ≠ [])
    (written : Build.mbedtls.write call.answers = some ret) (count : 0 < ret) :
    Build.mbedtls.Returns errors t call := by
  have checked : Build.mbedtls.check errors (Build.mbedtls.checked ret) = .ok true := by
    rw [Build.checked, Build.check, if_neg (by omega)]
  rw [Build.Returns, Build.send_eq connected full written, checked]
  exact ⟨_, _, rfl⟩

theorem Build.after_connected (admissible : Admissible build call) (connected : t.state = .connected) :
    (build.after errors t call).state = .connected := by
  obtain ⟨ret, written, _⟩ := admissible.exists_answer
  rw [Build.after_eq connected admissible.full written]
  split <;> exact connected

/-- One call keeps the bytes exact if and only if the library takes the message whole. -/
theorem Build.exact_after_iff (errors : Errors) (admissible : Admissible build call) (connected : t.state = .connected)
    (exact' : Exact t) : Exact (build.after errors t call) ↔ build.Whole call := by
  obtain ⟨ret, written, ends, answer⟩ := admissible.exists_answer
  have readable := admissible.readable
  rw [Build.after_eq connected admissible.full written]
  have whole : build.Whole call ↔ (0 < ret → ret = call.message.length) := by
    constructor
    · exact fun whole => whole ret written
    · intro equal other found
      obtain rfl := Option.some.inj (written.symm.trans found)
      exact equal
  rw [whole]
  by_cases count : 0 < ret
  · rw [if_pos count]
    have bounds : ret ≤ build.offered call.message.length := by
      rcases answer with retryable | bounds
      · have negative := (Build.check_retryable errors ends retryable).1
        omega
      · exact bounds.2.1
    have taken : Exact { t with
        mOutgoingResult := call.outgoingResult
        accepted := t.accepted ++ (call.message ++ call.behind).take ret.toNat
        sent := t.sent ++ [call.message] } ↔ (call.message ++ call.behind).take ret.toNat = call.message := by
      unfold Exact at exact' ⊢
      simp [exact']
    rw [taken]
    constructor
    · intro same _
      have length := congrArg List.length same
      rw [List.length_take] at length
      omega
    · intro same
      have length : ret.toNat = call.message.length := by
        have equal := same count
        omega
      rw [length, List.take_left]
  · rw [if_neg count]
    exact ⟨fun _ positive => absurd positive count, fun _ => exact'⟩

def Lagging (t : TlsTransport) : Prop := t.accepted.length < t.sent.flatten.length

theorem Lagging.not_exact (lagging : Lagging t) : ¬Exact t := by
  intro same
  have length := congrArg List.length same
  unfold Lagging at lagging
  omega

theorem Build.count_le_gnutls (admissible : Admissible .gnutls call)
    (written : Build.gnutls.write call.answers = some ret) : 0 < ret ∧ ret ≤ call.message.length := by
  obtain ⟨other, found, ends, answer⟩ := admissible.exists_answer
  obtain rfl := Option.some.inj (written.symm.trans found)
  rcases answer with retryable | ⟨low, high, _⟩
  · rcases retryable with rfl | rfl <;> exact absurd ends (by decide)
  · exact ⟨by omega, high⟩

theorem Lagging.after (lagging : Lagging t) (admissible : Admissible .gnutls call)
    (connected : t.state = .connected) : Lagging (Build.gnutls.after errors t call) := by
  obtain ⟨ret, written, _⟩ := admissible.exists_answer
  obtain ⟨count, bound⟩ := Build.count_le_gnutls admissible written
  rw [Build.after_eq connected admissible.full written, if_pos count]
  unfold Lagging at lagging ⊢
  simp only [List.length_append, List.length_take, List.flatten_append, List.flatten_singleton]
  omega

theorem Build.sends_connected (errors : Errors) (calls : List Call)
    (admissible : ∀ call ∈ calls, Admissible build call) : (build.sends errors calls).state = .connected := by
  induction calls using List.reverseRecOn with
  | nil => rfl
  | append_singleton calls call ih =>
    rw [Build.sends_concat]
    apply Build.after_connected (admissible call (by simp))
    exact ih fun earlier member => admissible earlier (by simp [member])

theorem Build.exact_sends (errors : Errors) (calls : List Call) (admissible : ∀ call ∈ calls, Admissible build call)
    (whole : ∀ call ∈ calls, build.Whole call) : Exact (build.sends errors calls) := by
  induction calls using List.reverseRecOn with
  | nil => rfl
  | append_singleton calls call ih =>
    have earlier : ∀ other ∈ calls, Admissible build other :=
      fun other member => admissible other (by simp [member])
    have connected := Build.sends_connected errors calls earlier
    have before := ih earlier fun other member => whole other (by simp [member])
    rw [Build.sends_concat, Build.exact_after_iff errors (admissible call (by simp)) connected before]
    exact whole call (by simp)

/-- Where every normal return is exact, what was not taken whole made GnuTLS's `send` throw. -/
theorem Build.whole_or_lagging (errors : Errors) (calls : List Call)
    (admissible : ∀ call ∈ calls, Admissible build call)
    (exact' : ∀ first call rest, calls = first ++ call :: rest →
      build.Returns errors (build.sends errors first) call → Exact (build.sends errors (first ++ [call]))) :
    (∀ call ∈ calls, build.Whole call) ∨ (build = .gnutls ∧ Lagging (build.sends errors calls)) := by
  induction calls using List.reverseRecOn with
  | nil => exact .inl fun _ member => absurd member List.not_mem_nil
  | append_singleton calls call ih =>
    have earlier : ∀ other ∈ calls, Admissible build other :=
      fun other member => admissible other (by simp [member])
    have last : Admissible build call := admissible call (by simp)
    have connected := Build.sends_connected errors calls earlier
    rw [Build.sends_concat]
    rcases ih earlier (fun first other rest shape => exact' first other (rest ++ [call]) (by simp [shape])) with
      whole | ⟨rfl, lagging⟩
    · have before := Build.exact_sends errors calls earlier whole
      have after := Build.exact_after_iff errors last connected before
      by_cases taken : build.Whole call
      · left
        intro other member
        rcases List.mem_append.mp member with early | late
        · exact whole other early
        · rw [List.mem_singleton.mp late]
          exact taken
      · right
        have throws : ¬build.Returns errors (build.sends errors calls) call := by
          intro returns
          have same := exact' calls call [] rfl returns
          rw [Build.sends_concat] at same
          exact taken (after.mp same)
        obtain ⟨ret, written, _⟩ := last.exists_answer
        have short : 0 < ret ∧ ret ≠ call.message.length := by
          simp only [Build.Whole, not_forall] at taken
          obtain ⟨other, found, count, differs⟩ := taken
          obtain rfl := Option.some.inj (written.symm.trans found)
          exact ⟨count, differs⟩
        cases build with
        | mbedtls => exact absurd (Build.returns_mbedtls connected last.full written short.1) throws
        | gnutls =>
          refine ⟨rfl, ?_⟩
          have bound := (Build.count_le_gnutls last written).2
          rw [Build.after_eq connected last.full written, if_pos short.1]
          unfold Lagging
          simp only [List.length_append, List.length_take, List.flatten_append, List.flatten_singleton, before.symm]
          omega
    · exact .inr ⟨rfl, lagging.after last connected⟩

end

/-- At every normal return of `send` the library has accepted exactly the messages sent so far, if and only if
it took each of them whole in one answer. -/
theorem exact_iff (build : Build) (errors : Errors) (calls : List Call)
    (admissible : ∀ call ∈ calls, Admissible build call) :
    (∀ first call rest, calls = first ++ call :: rest → build.Returns errors (build.sends errors first) call →
      Exact (build.sends errors (first ++ [call]))) ↔
    (∀ first call rest, calls = first ++ call :: rest → build.Returns errors (build.sends errors first) call →
      ∀ earlier ∈ first ++ [call], build.Whole earlier) := by
  have among : ∀ first call rest, calls = first ++ call :: rest →
      ∀ other ∈ first ++ [call], Admissible build other := by
    intro first call rest shape other member
    apply admissible
    rw [shape]
    exact List.mem_append.mpr ((List.mem_append.mp member).imp_right fun last => by simp_all)
  constructor
  · intro exact' first call rest shape returns
    have settled := Build.whole_or_lagging errors (first ++ [call]) (among first call rest shape) (by
      intro before other after inside
      apply exact' before other (after ++ rest)
      calc calls = (first ++ [call]) ++ rest := by simp [shape]
        _ = before ++ other :: (after ++ rest) := by simp [inside])
    rcases settled with whole | ⟨_, lagging⟩
    · exact whole
    · exact absurd (exact' first call rest shape returns) lagging.not_exact
  · intro whole first call rest shape returns
    exact Build.exact_sends errors _ (among first call rest shape) (whole first call rest shape returns)

def noErrors : Errors := ⟨fun _ => true, fun _ => [], fun _ => []⟩

def small : Call := ⟨[1, 2, 3], [GNUTLS_E_AGAIN, 3], [], true⟩

theorem exact_small :
    (∀ first call rest, [small] = first ++ call :: rest →
      Build.gnutls.Returns noErrors (Build.gnutls.sends noErrors first) call →
      Exact (Build.gnutls.sends noErrors (first ++ [call]))) ↔
    (∀ first call rest, [small] = first ++ call :: rest →
      Build.gnutls.Returns noErrors (Build.gnutls.sends noErrors first) call →
      ∀ earlier ∈ first ++ [call], Build.gnutls.Whole earlier) := by
  apply exact_iff .gnutls noErrors [small]
  intro call member
  rw [List.mem_singleton.mp member]
  refine ⟨by decide, rfl, by decide, ?_⟩
  intro ret answered
  rcases List.mem_cons.mp answered with rfl | last
  · exact .inl (.inl rfl)
  · rw [List.mem_singleton.mp last]
    exact .inr (by decide)

def large : Call := ⟨List.replicate 16385 7, [16384], [], true⟩

theorem large_length : large.message.length = 16385 := List.length_replicate

theorem large_answers : large.answers = [16384] := rfl

theorem large_admissible : Admissible .gnutls large := by
  refine ⟨List.ne_nil_of_length_pos (by rw [large_length]; decide), rfl, ?_, ?_⟩
  · rw [List.length_append, Build.offered]
    exact Nat.le_add_right _ _
  · intro ret answered
    rw [large_answers] at answered
    have count : ret = 16384 := List.mem_singleton.mp answered
    right
    simp only [Build.offered, Build.maximum, large_length]
    omega

/-- The last byte of the message is lost. -/
theorem large_not_exact : ¬∀ build errors calls, (∀ call ∈ calls, Admissible build call) →
    ∀ first call rest, calls = first ++ call :: rest → build.Returns errors (build.sends errors first) call →
      Exact (build.sends errors (first ++ [call])) := by
  intro all
  have written : Build.gnutls.write large.answers = some 16384 := rfl
  have returns : Build.gnutls.Returns noErrors .connected large := by
    rw [Build.Returns, Build.send_eq rfl large_admissible.full written]
    exact ⟨true, _, rfl⟩
  have admissible : ∀ call ∈ [large], Admissible .gnutls call := by
    intro call member
    rw [List.mem_singleton.mp member]
    exact large_admissible
  have same := all .gnutls noErrors [large] admissible [] large [] rfl returns
  rw [Build.sends_concat] at same
  have start : Exact .connected := rfl
  have whole := (Build.exact_after_iff noErrors large_admissible rfl start).mp same 16384 written (by omega)
  rw [large_length] at whole
  omega

end WebsocketClient.TlsTransports
