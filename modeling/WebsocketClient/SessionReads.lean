import WebsocketClient.Session

/-! How far an end of a session has read what the other one wrote. It waits for the head of the
handshake, reads frames, or is over; `Reads` says what each of these means for the stream. -/

namespace WebsocketClient.Sessions
open ByteString Messages Frames Http Handshake Transports WsTransports WsTransport WsMessages WsChunks WsStreams

/-- The messages of these frames were passed up, and every PING among them was answered. -/
structure Got (t : WsTransport) (done : List Sent) : Prop where
  delivered : delivered t.log = arrivals t.mMaxMessageSize done
  pongs : (sents t.log).countP isPong = done.countP isPing
  /-- The PINGs of the end that were not answered. -/
  unanswered : 0 < t.mOutstandingPings → done.countP isPong < (sents t.log).countP isPing

/-- The part `done` of what the other end wrote has been handled. -/
inductive Reads (all : List Sent) (t : WsTransport) (flight : Bytes) (broken : Bool) : Prop where
  | handshake : t.state = .connecting → t.mIgnoreLength = 0 → t.mPartial = [] → Got t [] →
      t.mBuffer ++ flight = wires all → (∀ lines after, ¬Head t.mBuffer lines after) → Reads all t flight broken
  | opened (head : Bytes) (done rest : List Sent) : t.state = .connected → all = .http head :: (done ++ rest) →
      t.mPartial = [] → Got t done → done.any isClose = false → Awaits t flight rest → Reads all t flight broken
  | ended (done rest : List Sent) : t.state = .disconnected ∨ t.state = .failed → all = done ++ rest → Got t done →
      done.any isClose = true ∨ broken = true ∨ t.state = .failed → Reads all t flight broken

theorem Got.acts {t next : WsTransport} {done more : List Sent} {cutting : Bool} (got : Got t done)
    (acts : Acts t next more cutting) (bound : done.countP isPong ≤ (sents t.log).countP isPing) : Got next done where
  delivered := by rw [acts.delivered, got.delivered, acts.limit]
  pongs := by rw [acts.sents, List.countP_append, acts.pongs, got.pongs, Nat.add_zero]
  unanswered := by
    intro some
    have count := acts.outstanding
    have before := got.unanswered
    rw [acts.sents, List.countP_append]
    omega

theorem Got.took {t next : WsTransport} {done taken : List Sent} (got : Got t done) (took : Took t next taken) :
    Got next (done ++ taken) where
  delivered := by rw [took.delivered, got.delivered, took.limit, arrivals_append]
  pongs := by
    obtain ⟨more, grown, answers⟩ := took.answers
    rw [grown, List.countP_append, List.countP_append, got.pongs, answers.pongs]
  unanswered := by
    intro some
    obtain ⟨more, grown, answers⟩ := took.answers
    rw [took.outstanding] at some
    cases any : taken.any isPong with
    | true =>
      rw [any, if_pos rfl] at some
      exact absurd some (by decide)
    | false =>
      rw [any] at some
      have none : taken.countP isPong = 0 := by
        rw [List.countP_eq_zero]
        exact List.any_eq_false.mp any
      have before := got.unanswered some
      rw [grown, List.countP_append, List.countP_append, none]
      omega

theorem Got.http {t : WsTransport} {done : List Sent} (got : Got t done) (head : Bytes) : Got t (.http head :: done) :=
  ⟨got.delivered, got.pongs, got.unanswered⟩

theorem arrivals_http (limit : Nat) (head : Bytes) (sent : List Sent) :
    arrivals limit (.http head :: sent) = arrivals limit sent := rfl

theorem Reads.more {all : List Sent} {t : WsTransport} {flight : Bytes} {broken : Bool}
    (reads : Reads all t flight broken)
    (more : List Sent) : Reads (all ++ more) t (flight ++ wires more) broken := by
  cases reads with
  | handshake connecting start idle none stream incomplete =>
    refine .handshake connecting start idle none ?_ incomplete
    rw [← List.append_assoc, stream, wires_append]
  | opened head done rest connected split idle got noClose awaits =>
    refine .opened head done (rest ++ more) connected (by rw [split]; simp) idle got noClose ?_
    refine ⟨?_, ?_, awaits.ignoring, awaits.waiting⟩
    · rw [← List.append_assoc, List.drop_append_of_le_length (by rw [List.length_append]; exact awaits.reach),
        awaits.stream, wires_append]
    · have reach := awaits.reach
      rw [List.length_append]
      omega
  | ended done rest gone split got why =>
    exact .ended done (rest ++ more) gone (by rw [split, List.append_assoc]) got why

theorem Reads.acts {all : List Sent} {t next : WsTransport} {flight : Bytes} {broken : Bool} {mine : List Sent}
    {cutting : Bool} (reads : Reads all t flight broken) (acts : Acts t next mine cutting)
    (bound : all.countP isPong ≤ (sents t.log).countP isPing) : Reads all next flight (broken || cutting) := by
  have ended (done rest : List Sent) (split : all = done ++ rest) (got : Got t done)
      (final : (t.state = .connected ∧ next.state = .failed ∧ Overdue next) ∨
        (cutting = true ∧ (next.state = .disconnected ∨ next.state = .failed))) :
      Reads all next flight (broken || cutting) := by
    have few : done.countP isPong ≤ (sents t.log).countP isPing := by
      rw [split, List.countP_append] at bound
      omega
    refine .ended done rest ?_ split (got.acts acts few) ?_
    · rcases final with ⟨_, failed, _⟩ | ⟨_, gone⟩
      · exact .inr failed
      · exact gone
    · rcases final with ⟨_, failed, _⟩ | ⟨cut, _⟩
      · exact .inr (.inr failed)
      · rw [cut, Bool.or_true]
        exact .inr (.inl rfl)
  cases reads with
  | handshake connecting start idle none stream incomplete =>
    rcases acts.state with same | final
    · refine .handshake (same.trans connecting) (acts.ignore.trans start) (acts.idle.trans idle)
        (none.acts acts (Nat.zero_le _)) ?_ ?_
      · rw [acts.buffer]
        exact stream
      · rw [acts.buffer]
        exact incomplete
    · exact ended [] all rfl none final
  | opened head done rest connected split idle got noClose awaits =>
    rcases acts.state with same | final
    · have few : done.countP isPong ≤ (sents t.log).countP isPing := by
        rw [split, List.countP_cons, List.countP_append] at bound
        omega
      refine .opened head done rest (same.trans connected) split (acts.idle.trans idle) (got.acts acts few) noClose ?_
      refine ⟨?_, ?_, ?_, ?_⟩
      · rw [acts.buffer, acts.ignore]
        exact awaits.stream
      · rw [acts.buffer, acts.ignore]
        exact awaits.reach
      · rw [acts.buffer, acts.ignore]
        exact awaits.ignoring
      · rw [acts.buffer, acts.limit]
        exact awaits.waiting
    · exact ended (.http head :: done) rest split (got.http head) final
  | ended done rest finished split got why =>
    rcases acts.state with same | final
    · have few : done.countP isPong ≤ (sents t.log).countP isPing := by
        rw [split, List.countP_append] at bound
        omega
      refine .ended done rest (by rw [same]; exact finished) split (got.acts acts few) ?_
      rcases why with closed | cut | failed
      · exact .inl closed
      · rw [cut, Bool.true_or]
        exact .inr (.inl rfl)
      · exact .inr (.inr (same.trans failed))
    · exact ended done rest split got final

section
variable {env : Environment}

/-! ### A piece of the stream -/

theorem incoming_over (t : WsTransport) (message : Option Bytes) (gone : t.state = .disconnected ∨ t.state = .failed) :
    t.incoming env message = t := by
  unfold incoming
  apply if_pos
  rcases gone with state | state <;> rw [state] <;> decide

theorem Reads.receive_open (quiet : Quiet env) {all : List Sent} {t : WsTransport} {chunk later : Bytes} {broken : Bool}
    {head : Bytes} {done rest : List Sent} (full : chunk ≠ []) (connected : t.state = .connected)
    (split : all = .http head :: (done ++ rest)) (genuine : ∀ sent ∈ rest, IsFrame sent) (idle : t.mPartial = [])
    (got : Got t done) (noClose : done.any isClose = false)
    (awaits : Awaits t (chunk ++ later) rest) :
    ∃ taken, Took t (t.incoming env (some chunk)) taken ∧ Reads all (t.incoming env (some chunk)) later broken := by
  have stream : ((push t chunk).mBuffer ++ later).drop (push t chunk).mIgnoreLength = wires rest := by
    have same := awaits.stream
    rw [← List.append_assoc] at same
    exact same
  have reach : (push t chunk).mIgnoreLength ≤ (push t chunk).mBuffer.length + later.length := by
    have far := awaits.reach
    rw [List.length_append] at far
    show t.mIgnoreLength ≤ (t.mBuffer ++ chunk).length + later.length
    rw [List.length_append]
    omega
  obtain ⟨taken, left, next, parts, processed, took, waits⟩ :=
    processFrames_sent quiet (push t chunk) later rest genuine idle stream reach
  have arrives : t.incoming env (some chunk) = next := by
    rw [incoming_open t chunk full connected, processed]
  have tookAll : Took t next taken := took.of_rebuffer
  rw [arrives]
  refine ⟨taken, tookAll, ?_⟩
  have shape : all = .http head :: ((done ++ taken) ++ left) := by rw [split, parts, List.append_assoc]
  have receipts := got.took tookAll
  have state := tookAll.state (.inl connected)
  cases closing : taken.any isClose with
  | false =>
    rw [closing] at state
    exact .opened head (done ++ taken) left (state.trans connected) shape tookAll.idle receipts
      (by rw [List.any_append, noClose, closing]; rfl) waits
  | true =>
    rw [closing] at state
    refine .ended (.http head :: (done ++ taken)) left (.inl state) shape (receipts.http head) (.inl ?_)
    rw [List.any_cons, List.any_append, closing, Bool.or_true, Bool.or_true]

/-- While the head is incomplete, the handshake goes on. -/
theorem processHandshake_partial (env : Environment) (t : WsTransport) (valid : ¬Refused t t.mBuffer)
    (incomplete : ∀ lines after, ¬Head t.mBuffer lines after) : t.processHandshake env = (.ok (), t) := by
  have none : (parseHttpLines t.mBuffer).1 = 0 := (parseHttpLines_zero_iff _).mpr incomplete
  unfold processHandshake
  cases client : t.mIsClient with
  | true => simp only [↓reduceIte, WsHandshake.parseHttpResponse, none]
  | false =>
    have started : isHttpRequest t.mBuffer ≠ false := fun bad => valid ⟨client, bad⟩
    simp only [Bool.false_eq_true, ↓reduceIte, WsHandshake.parseHttpRequest, if_neg started, none]
    rw [← client]

/-- A head that the end accepts, and the transport that is open behind it. -/
structure Accepted (env : Environment) (t opened : WsTransport) (head : Bytes) (lines : List Bytes) : Prop where
  head : ∀ rest, Head (head ++ rest) lines rest
  accepts : accept env t lines = .ok opened
  idle : opened.mPartial = t.mPartial
  got : Got t [] → Got opened []

theorem Reads.receive_head (quiet : Quiet env) {t opened : WsTransport} {chunk later head : Bytes} {frames : List Sent}
    {lines lines' : List Bytes} {after : Bytes} {broken : Bool} (full : chunk ≠ []) (connecting : t.state = .connecting)
    (start : t.mIgnoreLength = 0) (idle : t.mPartial = []) (none : Got t [])
    (stream : t.mBuffer ++ (chunk ++ later) = wires (.http head :: frames)) (genuine : ∀ sent ∈ frames, IsFrame sent)
    (valid : ¬Refused t (t.mBuffer ++ chunk)) (complete : Head (t.mBuffer ++ chunk) lines' after)
    (accepted : Accepted env t opened head lines) :
    ∃ taken, Took opened (t.incoming env (some chunk)) taken ∧
      Reads (.http head :: frames) (t.incoming env (some chunk)) later broken := by
  have whole : Head (head ++ wires frames) lines' (after ++ later) := by
    have grown := complete.append later
    rw [List.append_assoc, stream] at grown
    exact grown
  obtain ⟨rfl, rest⟩ := (accepted.head (wires frames)).unique whole
  have kept := accept_opened quiet t opened lines connecting accepted.accepts
  obtain ⟨handshake, processed⟩ := processHandshake_head quiet (push t chunk) lines after valid complete
  rw [accept_push t chunk lines quiet, accepted.accepts] at processed
  have behindStart : opened.mIgnoreLength = 0 := kept.ignore.trans start
  obtain ⟨taken, left, next, parts, framed, took, waits⟩ :=
    processFrames_sent quiet { opened with mBuffer := after } later frames genuine (accepted.idle.trans idle)
      (by rw [behindStart, List.drop_zero]; exact rest.symm) (by rw [behindStart]; exact Nat.zero_le _)
  have arrives : t.incoming env (some chunk) = next := by
    rw [incoming_connecting _ _ connecting, process_connecting _ _ full connecting, processed]
    simp only [Except.map, push, kept.state, ↓reduceIte]
    rw [← kept.state, framed]
  have tookAll : Took opened next taken := took.of_rebuffer
  rw [arrives]
  refine ⟨taken, tookAll, ?_⟩
  have shape : Sent.http head :: frames = .http head :: (taken ++ left) := by rw [parts]
  have receipts := (accepted.got none).took tookAll
  have state := tookAll.state (.inl kept.state)
  cases closing : taken.any isClose with
  | false =>
    rw [closing] at state
    exact .opened head taken left (state.trans kept.state) shape tookAll.idle receipts closing waits
  | true =>
    rw [closing] at state
    exact .ended (.http head :: taken) left (.inl state) shape (receipts.http head)
      (.inl (by rw [List.any_cons, closing, Bool.or_true]))

end

end WebsocketClient.Sessions
