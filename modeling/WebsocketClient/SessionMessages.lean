import Mathlib.Data.List.TakeWhile
import WebsocketClient.SessionReads

/-! What holds of both ends in every state of a session, and what follows for the messages: they arrive
in order, and all of them unless the connection breaks. -/

namespace WebsocketClient.Sessions
open ByteString Messages Frames Http Handshake HandshakeRoundTrip Transports WsTransports WsTransport WsMessages
  WsChunks WsStreams Library.Runs

def pings (t : WsTransport) : Nat := (sents t.log).countP isPing

def pongs (t : WsTransport) : Nat := (sents t.log).countP isPong

def fromClose (sent : List Sent) : List Sent := sent.dropWhile (fun sent => !isClose sent)

section
variable (env : End → Environment) (setup : Setup)

def Setup.lines : End → List Bytes
  | .client => requestLines setup.host setup.path setup.protocols (generateKey setup.random)
  | .server => responseLines (computeAcceptKey (env .server).sha1 (generateKey setup.random)) setup.protocols

def Setup.head (e : End) : Bytes := headText (setup.lines env e)

/-- What holds of an end by itself. -/
structure Local (e : End) (t : WsTransport) (sent : List Message) (broken : Bool) : Prop where
  client : t.mIsClient = decide (e = .client)
  /-- The server has the handshake of the client when it answers. -/
  agreed : e = .client ∨ sents t.log ≠ [] → t.mHandshake = setup.handshake
  fresh : e = .server → t.state = .connecting → t.mHandshake = {} ∧ sents t.log = []
  wrote : sents t.log = [] ∨ ∃ frames, sents t.log = .http (setup.head env e) :: frames ∧ ∀ sent ∈ frames, IsFrame sent
  silent : sents t.log = [] → e = .server ∧ t.state ≠ .connected ∧ (t.state = .connecting ∨ broken = true)
  limit : t.mMaxMessageSize = setup.maxMessageSize e
  messages : (sents t.log).filterMap carried = sent.map typed
  last : (fromClose (sents t.log)).filterMap carried = []
  closes : (sents t.log).countP isClose = t.mCloseSent.toNat

end

theorem fromClose_append_none {sent more : List Sent} (none : more.filterMap carried = [])
    (last : (fromClose sent).filterMap carried = []) : (fromClose (sent ++ more)).filterMap carried = [] := by
  unfold fromClose at *
  rw [List.dropWhile_append]
  split
  · have suffix := List.dropWhile_suffix (fun sent => !isClose sent) (l := more)
    have sub := (suffix.sublist.filterMap carried)
    rw [none] at sub
    exact List.sublist_nil.mp sub
  · rw [List.filterMap_append, last, none, List.append_nil]

theorem fromClose_append_open {sent more : List Sent} (opened : sent.countP isClose = 0)
    (other : more.countP isClose = 0) :
    (fromClose (sent ++ more)).filterMap carried = [] := by
  have gone : fromClose (sent ++ more) = [] := by
    unfold fromClose
    rw [List.dropWhile_eq_nil_iff]
    intro one member
    have none : (sent ++ more).countP isClose = 0 := by rw [List.countP_append, opened, other]
    rw [List.countP_eq_zero] at none
    rw [Bool.not_eq_true', Bool.eq_false_iff]
    exact none one member
  rw [gone]
  rfl

section
variable {env : End → Environment} {setup : Setup} {e : End} {t next : WsTransport} {sent : List Message}
    {broken : Bool}

theorem Local.grows (holds : Local env setup e t sent broken) {more : List Sent} (new : List Message) (cutting : Bool)
    (grown : sents next.log = sents t.log ++ more) (frames : ∀ sent ∈ more, IsFrame sent)
    (client : next.mIsClient = t.mIsClient) (handshake : next.mHandshake = t.mHandshake)
    (limit : next.mMaxMessageSize = t.mMaxMessageSize)
    (closes : more.countP isClose + t.mCloseSent.toNat = next.mCloseSent.toNat)
    (messages : more.filterMap carried = new.map typed)
    (early : new = [] ∨ (t.mCloseSent = false ∧ more.countP isClose = 0))
    (shut : t.state ≠ .connected → more = [])
    (state : next.state = t.state ∨ (t.state = .connected ∧ next.state ≠ .connecting) ∨
      (cutting = true ∧ next.state ≠ .connecting ∧ next.state ≠ .connected)) :
    Local env setup e next (sent ++ new) (broken || cutting) where
  client := client.trans holds.client
  agreed := by
    intro begun
    rw [handshake]
    apply holds.agreed
    apply begun.imp_right
    intro some none
    apply some
    rw [grown, none, shut (holds.silent none).2.1]
    rfl
  fresh := by
    intro server connecting
    have before : t.state = .connecting := by
      rcases state with same | ⟨_, moved⟩ | ⟨_, moved, _⟩
      · exact same ▸ connecting
      · exact absurd connecting moved
      · exact absurd connecting moved
    obtain ⟨new, none⟩ := holds.fresh server before
    rw [handshake, grown, none, shut (by rw [before]; decide)]
    exact ⟨new, rfl⟩
  wrote := by
    rcases holds.wrote with none | ⟨before, wrote, genuine⟩
    · have closed := (holds.silent none).2.1
      rw [grown, none, shut closed]
      exact .inl rfl
    · refine .inr ⟨before ++ more, by rw [grown, wrote, List.cons_append], ?_⟩
      intro one member
      exact (List.mem_append.mp member).elim (genuine one) (frames one)
  silent := by
    intro none
    rw [grown] at none
    obtain ⟨server, closed, why⟩ := holds.silent (List.append_eq_nil_iff.mp none).1
    refine ⟨server, ?_, ?_⟩
    · rcases state with same | ⟨opened, _⟩ | ⟨_, _, moved⟩
      · rw [same]
        exact closed
      · exact absurd opened closed
      · exact moved
    · rcases state with same | ⟨opened, _⟩ | ⟨cut, _⟩
      · rw [same]
        exact why.imp id (fun already => by rw [already, Bool.true_or])
      · exact absurd opened closed
      · rw [cut, Bool.or_true]
        exact .inr rfl
  limit := limit.trans holds.limit
  messages := by rw [grown, List.filterMap_append, holds.messages, messages, List.map_append]
  last := by
    rw [grown]
    rcases early with none | ⟨unsent, other⟩
    · rw [none] at messages
      exact fromClose_append_none messages holds.last
    · apply fromClose_append_open _ other
      rw [holds.closes, unsent]
      rfl
  closes := by rw [grown, List.countP_append, holds.closes, Nat.add_comm, closes]

theorem Local.acts (holds : Local env setup e t sent broken) {more : List Sent} {cutting : Bool} (new : List Message)
    (acts : Acts t next more cutting) (messages : more.filterMap carried = new.map typed)
    (early : new = [] ∨ (t.mCloseSent = false ∧ more.countP isClose = 0)) :
    Local env setup e next (sent ++ new) (broken || cutting) := by
  apply holds.grows new cutting acts.sents acts.frames acts.client acts.handshake acts.limit acts.closes messages early
    acts.shut
  rcases acts.state with same | ⟨opened, failed, _⟩ | ⟨cut, gone⟩
  · exact .inl same
  · exact .inr (.inl ⟨opened, by rw [failed]; decide⟩)
  · refine .inr (.inr ⟨cut, ?_⟩)
    rcases gone with gone | gone <;> rw [gone] <;> decide

theorem Local.took (holds : Local env setup e t sent broken) {taken : List Sent} (connected : t.state = .connected)
    (took : Took t next taken) : Local env setup e next sent broken := by
  obtain ⟨more, grown, answers⟩ := took.answers
  have none : more.filterMap carried = [] := by
    rw [List.filterMap_eq_nil_iff]
    exact fun one member => (answers.control one member).2.1
  have kept : Local env setup e next (sent ++ []) (broken || false) := holds.grows [] false grown
    (fun one member => (answers.control one member).1) took.client took.handshake took.limit answers.closes none
        (.inl rfl)
    (fun closed => absurd connected closed)
    (.inr (.inl ⟨connected, by
      rw [took.state (.inl connected), connected]
      split <;> decide⟩))
  rwa [List.append_nil, Bool.or_false] at kept

theorem Local.genuine (holds : Local env setup e t sent broken) {head : Bytes} {done rest : List Sent}
    (split : sents t.log = .http head :: (done ++ rest)) : ∀ sent ∈ rest, IsFrame sent := by
  intro one member
  rcases holds.wrote with nothing | ⟨frames, wrote, genuine⟩
  · rw [nothing] at split
    exact absurd split (by simp)
  · rw [wrote] at split
    apply genuine
    rw [(List.cons.inj split).2]
    exact List.mem_append_right _ member

theorem Local.push (holds : Local env setup e t sent broken) (chunk : Bytes) :
    Local env setup e (push t chunk) sent broken :=
  ⟨holds.client, holds.agreed, holds.fresh, holds.wrote, holds.silent, holds.limit, holds.messages, holds.last,
      holds.closes⟩

/-! ### The life of an end -/

/-- An end that was not cut off fails only for want of PONGs, and is closed only with a CLOSE of its own. -/
structure Alive (setup : Setup) (e : End) (t : WsTransport) (broken : Bool) : Prop where
  maximum : t.mMaxOutstandingPings = setup.maxOutstandingPings e
  timely : t.state = .connecting ∨ t.state = .connected → ¬Overdue t
  failed : t.state = .failed → broken = true ∨ Overdue t
  closing : t.state = .disconnected → broken = true ∨ t.mCloseSent = true

theorem Alive.acts (alive : Alive setup e t broken) {more : List Sent} {cutting : Bool}
    (acts : Acts t next more cutting) :
    Alive setup e next (broken || cutting) where
  maximum := acts.maximum.trans alive.maximum
  timely := by
    intro opened
    rcases acts.state with same | ⟨_, failed, _⟩ | ⟨_, gone⟩
    · rw [same] at opened
      apply acts.timely _ (alive.timely opened)
      rw [same]
      rcases opened with state | state <;> rw [state] <;> decide
    · rw [failed] at opened
      exact absurd opened (by decide)
    · rcases gone with gone | gone <;> rw [gone] at opened <;> exact absurd opened (by decide)
  failed := by
    intro failed
    rcases acts.state with same | ⟨_, _, overdue⟩ | ⟨cut, _⟩
    · rcases alive.failed (same.symm.trans failed) with cut | overdue
      · rw [cut, Bool.true_or]
        exact .inl rfl
      · refine .inr ⟨by rw [acts.maximum]; exact overdue.1, ?_⟩
        have late := overdue.2
        rw [acts.maximum, acts.outstanding]
        omega
    · exact .inr overdue
    · rw [cut, Bool.or_true]
      exact .inl rfl
  closing := by
    intro closed
    rcases acts.state with same | ⟨_, failed, _⟩ | ⟨cut, _⟩
    · rcases alive.closing (same.symm.trans closed) with cut | sent
      · rw [cut, Bool.true_or]
        exact .inl rfl
      · have closes := acts.closes
        rw [sent] at closes
        cases flag : next.mCloseSent with
        | true => exact .inr rfl
        | false =>
          rw [flag] at closes
          simp at closes
    · exact absurd (failed.symm.trans closed) (by decide)
    · rw [cut, Bool.or_true]
      exact .inl rfl

theorem Took.spared {taken : List Sent} (took : Took t next taken) (timely : ¬Overdue t) : ¬Overdue next := by
  rw [Overdue, took.maximum, took.outstanding]
  split
  · omega
  · exact timely

theorem Alive.took (alive : Alive setup e t broken) {taken : List Sent} (connected : t.state = .connected)
    (took : Took t next taken) : Alive setup e next broken where
  maximum := took.maximum.trans alive.maximum
  timely := fun _ => took.spared (alive.timely (.inr connected))
  failed := by
    intro failed
    rw [took.state (.inl connected), connected] at failed
    split at failed <;> exact absurd failed (by decide)
  closing := by
    intro closed
    rw [took.state (.inl connected), connected] at closed
    split at closed
    · rename_i any
      exact .inr (took.closing (.inl connected) any)
    · exact absurd closed (by decide)

theorem Alive.opened (alive : Alive setup e t broken) (connecting : t.state = .connecting)
    (connected : next.state = .connected) (maximum : next.mMaxOutstandingPings = t.mMaxOutstandingPings)
    (outstanding : next.mOutstandingPings = t.mOutstandingPings) : Alive setup e next broken where
  maximum := maximum.trans alive.maximum
  timely := by
    intro _
    rw [Overdue, maximum, outstanding]
    exact alive.timely (.inl connecting)
  failed := fun failed => absurd (connected.symm.trans failed) (by decide)
  closing := fun closed => absurd (connected.symm.trans closed) (by decide)

/-! ### The handshake -/

theorem Setup.head_complete (wellFormed : WellFormed setup.host setup.path setup.protocols) (e : End) (rest : Bytes) :
    Head (setup.head env e ++ rest) (setup.lines env e) rest := by
  have plain : ∀ line ∈ setup.lines env e, line ≠ [] ∧ lf ∉ line := by
    cases e with
    | client =>
      exact requestLines_plain (fun member => (host_plain wellFormed lf member).1 rfl) (path_plain wellFormed)
        (fun member => (implode_plain wellFormed lf member).1 rfl) setup.random
    | server =>
      exact responseLines_plain (env .server).sha1 (generateKey setup.random)
        (fun member => (implode_plain wellFormed lf member).1 rfl)
  exact head_headText _ rest (fun line member => (plain line member).1) (fun line member => (plain line member).2)

theorem accepted_client (sameHash : (env .client).sha1 = (env .server).sha1)
    (wellFormed : WellFormed setup.host setup.path setup.protocols) (holds : Local env setup .client t sent broken) :
    Accepted (env .client) t (t.changeState .connected) (setup.head env .server) (setup.lines env .server) := by
  have key : t.mHandshake.mKey = generateKey setup.random := congrArg WsHandshake.mKey (holds.agreed (.inl rfl))
  constructor
  · exact Setup.head_complete wellFormed .server
  · have read : t.mHandshake.readResponse (env .client).sha1
        (responseLines (computeAcceptKey (env .client).sha1 t.mHandshake.mKey) setup.protocols) = .ok () :=
      readResponse_responseLines (env .client).sha1 t.mHandshake
    rw [key, sameHash] at read
    unfold accept
    rw [if_pos (by rw [holds.client]; rfl), sameHash, Setup.lines, read]
    rfl
  · exact (changeState_unsent t .connected).idle
  · intro got
    have same := changeState_unsent t .connected
    exact ⟨by rw [same.delivered, same.limit]; exact got.delivered, by rw [same.sents]; exact got.pongs,
      by rw [same.sents, same.outstanding]; exact got.unanswered⟩

theorem Local.opened_client (holds : Local env setup .client t sent broken) :
    Local env setup .client (t.changeState .connected) sent broken := by
  have same := changeState_unsent t .connected
  constructor
  · exact same.client.trans holds.client
  · intro _
    rw [same.handshake]
    exact holds.agreed (.inl rfl)
  · exact fun server => absurd server (by decide)
  · rw [same.sents]
    exact holds.wrote
  · rw [same.sents]
    exact fun none => absurd (holds.silent none).1 (by decide)
  · exact same.limit.trans holds.limit
  · rw [same.sents]
    exact holds.messages
  · rw [same.sents]
    exact holds.last
  · rw [same.sents, same.flag]
    exact holds.closes

def answered (env : Environment) (setup : Setup) (t : WsTransport) : WsTransport :=
  (({ t with mHandshake := setup.handshake } : WsTransport).sendHttpResponse env).2.changeState .connected

theorem answered_eq (quiet : Quiet (env .server)) (connecting : t.state = .connecting) :
    answered (env .server) setup t = { t with
      mHandshake := setup.handshake
      sends := t.sends + 1
      state := .connected
      log := t.log ++ [.outgoing (.http (setup.head env .server))] ++ [.stateChange .connected] } := by
  obtain ⟨result, answer⟩ := quiet t.sends
  have response : setup.handshake.generateHttpResponse (env .server).sha1 = setup.head env .server :=
    generateHttpResponse_eq _ _
  have other : t.state ≠ .connected := by
    rw [connecting]
    decide
  simp only [answered, sendHttpResponse, outgoing, answer, response, changeState, if_neg other]

theorem accepted_server (quiet : Quiet (env .server)) (wellFormed : WellFormed setup.host setup.path setup.protocols)
    (holds : Local env setup .server t sent broken) (connecting : t.state = .connecting) :
    Accepted (env .server) t (answered (env .server) setup t) (setup.head env .client) (setup.lines env .client) := by
  constructor
  · exact Setup.head_complete wellFormed .client
  · have read := readRequest_requestLines wellFormed setup.random
    unfold accept
    rw [if_neg (by rw [holds.client]; decide), (holds.fresh rfl connecting).1, Setup.lines, read]
    rfl
  · rw [answered_eq quiet connecting]
  · intro got
    rw [answered_eq quiet connecting]
    constructor
    · rw [delivered_append, delivered_append, got.delivered]
      rfl
    · rw [sents_append, sents_append, List.countP_append, List.countP_append, got.pongs]
      rfl
    · rw [sents_append, sents_append, List.countP_append, List.countP_append]
      exact got.unanswered

theorem Local.opened_server (quiet : Quiet (env .server)) (holds : Local env setup .server t sent broken)
    (connecting : t.state = .connecting) : Local env setup .server (answered (env .server) setup t) sent broken := by
  have none := (holds.fresh rfl connecting).2
  have one : sents (answered (env .server) setup t).log = [.http (setup.head env .server)] := by
    rw [answered_eq quiet connecting, sents_append, sents_append, none]
    rfl
  have messages := holds.messages
  have closes := holds.closes
  rw [none] at messages closes
  constructor
  · rw [answered_eq quiet connecting]
    exact holds.client
  · intro _
    rw [answered_eq quiet connecting]
  · intro _ still
    rw [answered_eq quiet connecting] at still
    have impossible : State.connected = .connecting := still
    exact absurd impossible (by decide)
  · exact .inr ⟨[], one, by simp⟩
  · intro silent
    rw [one] at silent
    exact absurd silent (by simp)
  · rw [answered_eq quiet connecting]
    exact holds.limit
  · rw [one]
    exact messages
  · rw [one]
    rfl
  · rw [one, answered_eq quiet connecting]
    exact closes

end

/-! ### Both ends -/

structure Inv (env : End → Environment) (setup : Setup) (s : Session) : Prop where
  ends : ∀ e, Local env setup e (s.ends e) (s.sent e) (s.broken e)
  alive : ∀ e, Alive setup e (s.ends e) (s.broken e)
  reads : ∀ e, Reads (sents (s.ends e.other).log) (s.ends e) (s.flight e) (s.broken e)

section
variable {env : End → Environment} {setup : Setup} {s next : Session} {e : End}

theorem Inv.act (inv : Inv env setup s) {t : WsTransport} {more : List Sent}
    (ends : next.ends = Function.update s.ends e t)
    (grown : sents t.log = sents (s.ends e).log ++ more)
    (flight : next.flight e.other = s.flight e.other ++ wires more) (sent : next.sent e.other = s.sent e.other)
    (broken : next.broken e.other = s.broken e.other) (mine : Local env setup e t (next.sent e) (next.broken e))
    (alive : Alive setup e t (next.broken e))
    (reads : Reads (sents (s.ends e.other).log) t (next.flight e) (next.broken e)) : Inv env setup next := by
  have here : next.ends e = t := by rw [ends, Function.update_self]
  have there : next.ends e.other = s.ends e.other := by rw [ends, Function.update_of_ne e.other_ne]
  constructor
  · intro x
    rcases e.cases x with rfl | rfl
    · rw [here]
      exact mine
    · rw [there, sent, broken]
      exact inv.ends e.other
  · intro x
    rcases e.cases x with rfl | rfl
    · rw [here]
      exact alive
    · rw [there, broken]
      exact inv.alive e.other
  · intro x
    rcases e.cases x with rfl | rfl
    · rw [here, there]
      exact reads
    · rw [e.other_other, here, there, grown, flight, broken]
      have before := inv.reads e.other
      rw [e.other_other] at before
      exact before.more more

theorem written_eq {t u : WsTransport} {more : List Sent} (grown : sents u.log = sents t.log ++ more) :
    written t u = more := by
  rw [written, grown, List.drop_left]

theorem Inv.pongs_le (inv : Inv env setup s) (e : End) : pongs (s.ends e) ≤ pings (s.ends e.other) := by
  unfold pongs pings
  cases inv.reads e with
  | handshake _ _ _ got =>
    rw [got.pongs]
    exact Nat.zero_le _
  | opened head done rest _ split _ got =>
    rw [got.pongs, split, List.countP_cons, List.countP_append]
    omega
  | ended done rest _ split got =>
    rw [got.pongs, split, List.countP_append]
    omega

/-- An end acts by itself: it writes `more`, with the messages `new` among it. -/
structure Goes (s next : Session) (e : End) (more : List Sent) (new : List Message) (cutting : Bool) : Prop where
  ends : next.ends = Function.update s.ends e (next.ends e)
  flight : next.flight = (s.act e (next.ends e)).flight
  sent : next.sent = Function.update s.sent e (s.sent e ++ new)
  broken : next.broken = Function.update s.broken e (s.broken e || cutting)
  acts : Acts (s.ends e) (next.ends e) more cutting
  messages : more.filterMap carried = new.map typed
  early : new = [] ∨ ((s.ends e).mCloseSent = false ∧ more.countP isClose = 0)

theorem Goes.inv {more : List Sent} {new : List Message} {cutting : Bool} (goes : Goes s next e more new cutting)
    (inv : Inv env setup s) : Inv env setup next := by
  have wrote := written_eq goes.acts.sents
  have bound := inv.pongs_le e.other
  rw [e.other_other] at bound
  refine inv.act goes.ends goes.acts.sents ?_ ?_ ?_ ?_ ?_ ?_
  · rw [goes.flight, s.act_there, wrote]
  · rw [goes.sent, Function.update_of_ne e.other_ne]
  · rw [goes.broken, Function.update_of_ne e.other_ne]
  · rw [goes.sent, goes.broken, Function.update_self, Function.update_self]
    exact (inv.ends e).acts new goes.acts goes.messages goes.early
  · rw [goes.broken, Function.update_self]
    exact (inv.alive e).acts goes.acts
  · rw [goes.flight, goes.broken, s.act_here, Function.update_self]
    exact (inv.reads e).acts goes.acts bound

theorem Session.act_goes {t : WsTransport} {more : List Sent} (acts : Acts (s.ends e) t more false)
    (none : more.filterMap carried = []) : Goes s (s.act e t) e more [] false := by
  have here : (s.act e t).ends e = t := Function.update_self ..
  constructor
  · rw [here]
    rfl
  · rw [here]
  · simp
  · simp
  · rw [here]
    exact acts
  · exact none
  · exact .inl rfl

theorem Session.cutOff_goes {t : WsTransport} {more : List Sent} (acts : Acts (s.ends e) t more true)
    (none : more.filterMap carried = []) : Goes s ((s.act e t).cutOff e) e more [] true := by
  have here : ((s.act e t).cutOff e).ends e = t := Function.update_self ..
  constructor
  · rw [here]
    rfl
  · rw [here]
    rfl
  · simp [Session.cutOff]
  · simp [Session.cutOff]
  · rw [here]
    exact acts
  · exact none
  · exact .inl rfl

theorem Inv.not_refused (inv : Inv env setup s) {chunk later : Bytes}
    (stream : (s.ends e).mBuffer ++ (chunk ++ later) = wires (sents (s.ends e.other).log)) :
    ¬Refused (s.ends e) ((s.ends e).mBuffer ++ chunk) := by
  rintro ⟨server, invalid⟩
  have mine := (inv.ends e).client
  rw [server] at mine
  cases e with
  | client => exact absurd mine (by decide)
  | server =>
    rcases (inv.ends .client).wrote with none | ⟨frames, wrote, _⟩
    · exact absurd ((inv.ends .client).silent none).1 (by decide)
    · have whole := isHttpRequest_append_false _ later invalid
      have request : sents (s.ends End.server.other).log = .http (setup.head env .client) :: frames := wrote
      rw [List.append_assoc, stream, request, wires_cons] at whole
      have valid :=
        isHttpRequest_requestLines setup.host setup.path setup.protocols (generateKey setup.random) (wires frames)
      exact absurd (valid.symm.trans whole) (by decide)

def Setup.budget (env : End → Environment) (setup : Setup) (e : End) (t : WsTransport) : Nat :=
  if sents t.log = [] then (setup.head env e).length else 0

/-- What a piece of the stream leads to: the end has written PONGs, its CLOSE and the response, and no more. -/
structure Received (env : End → Environment) (setup : Setup) (s : Session) (e : End) (next : WsTransport)
    (later : Bytes)
    (more : List Sent) : Prop where
  grown : sents next.log = sents (s.ends e).log ++ more
  wrote : ∀ sent ∈ more, sent = .http (setup.head env e) ∨ (IsFrame sent ∧ carried sent = none)
  mine : Local env setup e next (s.sent e) (s.broken e)
  alive : Alive setup e next (s.broken e)
  spared : ¬Overdue (s.ends e) → ¬Overdue next
  reads : Reads (sents (s.ends e.other).log) next later (s.broken e)
  pings : more.countP isPing = 0
  size : (wires more).length + setup.budget env e next ≤
    10 * more.countP isPong + 6 * more.countP isClose + setup.budget env e (s.ends e)

theorem Answers.received {t next : WsTransport} {frames more : List Sent} (answers : Answers t next frames more) :
    more.countP isPing = 0 ∧ (wires more).length ≤ 10 * more.countP isPong + 6 * more.countP isClose := by
  constructor
  · rw [List.countP_eq_zero]
    intro sent member
    rw [(answers.control sent member).2.2]
    decide
  · rw [answers.pongs]
    exact answers.size

theorem Setup.budget_le (setup : Setup) (env : End → Environment) (e : End) {t next : WsTransport} {more : List Sent}
    (grown : sents next.log = sents t.log ++ more) :
    setup.budget env e next ≤ setup.budget env e t := by
  unfold Setup.budget
  rw [grown]
  split
  · rename_i none
    rw [if_pos (List.append_eq_nil_iff.mp none).1]
  · exact Nat.zero_le _

theorem Inv.receive_handshake (quiet : ∀ e, Quiet (env e)) (sameHash : (env .client).sha1 = (env .server).sha1)
    (wellFormed : WellFormed setup.host setup.path setup.protocols) (inv : Inv env setup s) {chunk later : Bytes}
    (full : chunk ≠ []) (connecting : (s.ends e).state = .connecting) (start : (s.ends e).mIgnoreLength = 0)
    (idle : (s.ends e).mPartial = []) (none : Got (s.ends e) [])
    (stream : (s.ends e).mBuffer ++ (chunk ++ later) = wires (sents (s.ends e.other).log)) :
    ∃ more, Received env setup s e ((s.ends e).incoming (env e) (some chunk)) later more := by
  have holds := inv.ends e
  have valid := inv.not_refused stream
  by_cases found : ∃ lines after, Head ((s.ends e).mBuffer ++ chunk) lines after
  · obtain ⟨lines', after, complete⟩ := found
    rcases (inv.ends e.other).wrote with nothing | ⟨frames, wrote, genuine⟩
    · rw [nothing, wires_nil] at stream
      exact absurd (List.append_eq_nil_iff.mp (List.append_eq_nil_iff.mp stream).2).1 full
    · have accepted : ∃ opened lines more, Accepted (env e) (s.ends e) opened (setup.head env e.other) lines ∧
          sents opened.log = sents (s.ends e).log ++ more ∧ opened.state = .connected ∧
          Local env setup e opened (s.sent e) (s.broken e) ∧
          opened.mMaxOutstandingPings = (s.ends e).mMaxOutstandingPings ∧
          opened.mOutstandingPings = (s.ends e).mOutstandingPings ∧ (∀ sent ∈ more, sent = .http (setup.head env e)) ∧
          more.countP isPing = 0 ∧
          (wires more).length + setup.budget env e opened = setup.budget env e (s.ends e) := by
        cases e with
        | client =>
          have same := changeState_unsent (s.ends .client) .connected
          refine ⟨_, _, [], accepted_client sameHash wellFormed holds, ?_, changeState_state _ _, holds.opened_client,
            same.maximum, same.outstanding, by simp, rfl, ?_⟩
          · rw [same.sents, List.append_nil]
          · rw [Setup.budget, same.sents, wires_nil, List.length_nil, Nat.zero_add]
            rfl
        | server =>
          have grown : sents (answered (env .server) setup (s.ends .server)).log =
              sents (s.ends .server).log ++ [.http (setup.head env .server)] := by
            rw [answered_eq (quiet .server) connecting, sents_append, sents_append]
            exact List.append_nil _
          have same : answered (env .server) setup (s.ends .server) = _ := answered_eq (quiet .server) connecting
          refine ⟨_, _, [.http (setup.head env .server)], accepted_server (quiet .server) wellFormed holds connecting,
              grown,
            by rw [same], holds.opened_server (quiet .server) connecting, by rw [same], by rw [same], by simp, rfl, ?_⟩
          · rw [Setup.budget, Setup.budget, grown, (holds.fresh rfl connecting).2, if_neg (by simp), if_pos rfl]
            simp [wires, Sent.wire]
      obtain ⟨opened, lines, more, accepted, grown, connected, mine, maximum, outstanding, response, noPing, written⟩ :=
        accepted
      have alive := (inv.alive e).opened connecting connected maximum outstanding
      have spared : ¬Overdue (s.ends e) → ¬Overdue opened := by
        rw [Overdue, Overdue, maximum, outstanding]
        exact id
      rw [wrote] at stream
      obtain ⟨taken, took, reads⟩ := Reads.receive_head (quiet e) full connecting start idle none
        stream genuine valid complete accepted
      obtain ⟨answers, grew, control⟩ := took.answers
      obtain ⟨pings, size⟩ := control.received
      have spent := setup.budget_le env e grew
      have wroteThese : ∀ sent ∈ more ++ answers,
          sent = .http (setup.head env e) ∨ (IsFrame sent ∧ carried sent = Option.none) := by
        intro sent member
        rcases List.mem_append.mp member with first | later
        · exact .inl (response sent first)
        · exact .inr ⟨(control.control sent later).1, (control.control sent later).2.1⟩
      refine ⟨more ++ answers, by rw [grew, grown, List.append_assoc], wroteThese, mine.took connected took,
        alive.took connected took,
        took.spared ∘ spared, ?_, ?_, ?_⟩
      · rw [wrote]
        exact reads
      · rw [List.countP_append, noPing, pings]
      · rw [wires_append, List.length_append, List.countP_append, List.countP_append]
        omega
  · have incomplete : ∀ lines after, ¬Head ((s.ends e).mBuffer ++ chunk) lines after :=
      fun lines after head => found ⟨lines, after, head⟩
    have waits : (s.ends e).incoming (env e) (some chunk) = push (s.ends e) chunk :=
      incoming_partial (s.ends e) chunk full connecting valid incomplete
    rw [waits]
    have alive := inv.alive e
    refine ⟨[], (List.append_nil _).symm, by simp, holds.push chunk,
      ⟨alive.maximum, alive.timely, alive.failed, alive.closing⟩, id, ?_,
      rfl, Nat.le_of_eq rfl⟩
    have kept : Got (push (s.ends e) chunk) [] := ⟨none.delivered, none.pongs, none.unanswered⟩
    have whole : (s.ends e).mBuffer ++ chunk ++ later = wires (sents (s.ends e.other).log) := by
      rw [List.append_assoc, stream]
    exact .handshake connecting start idle kept whole incomplete

theorem Inv.receive_piece (quiet : ∀ e, Quiet (env e)) (sameHash : (env .client).sha1 = (env .server).sha1)
    (wellFormed : WellFormed setup.host setup.path setup.protocols) (inv : Inv env setup s) {chunk later : Bytes}
    (full : chunk ≠ []) (flight : s.flight e = chunk ++ later) :
    ∃ more, Received env setup s e ((s.ends e).incoming (env e) (some chunk)) later more := by
  have holds := inv.ends e
  have reads := inv.reads e
  rw [flight] at reads
  cases reads with
  | handshake connecting start idle none stream incomplete =>
    exact inv.receive_handshake quiet sameHash wellFormed full connecting start idle none stream
  | opened head done rest connected split idle got noClose awaits =>
    have genuine := (inv.ends e.other).genuine split
    obtain ⟨taken, took, reads⟩ := Reads.receive_open (quiet e) full connected split genuine idle got noClose awaits
    obtain ⟨answers, grown, control⟩ := took.answers
    obtain ⟨pings, size⟩ := control.received
    exact ⟨answers, grown, fun sent member => .inr ⟨(control.control sent member).1, (control.control sent member).2.1⟩,
      holds.took connected took, (inv.alive e).took connected took, took.spared, reads, pings,
      Nat.add_le_add size (setup.budget_le env e grown)⟩
  | ended done rest gone split got why =>
    rw [incoming_over _ _ gone]
    exact ⟨[], (List.append_nil _).symm, by simp, holds, inv.alive e, id, .ended done rest gone split got why, rfl,
      Nat.le_of_eq rfl⟩

theorem Inv.receive (quiet : ∀ e, Quiet (env e)) (sameHash : (env .client).sha1 = (env .server).sha1)
    (wellFormed : WellFormed setup.host setup.path setup.protocols) (inv : Inv env setup s) {count : Nat}
    (some : 0 < count) (enough : count ≤ (s.flight e).length) : Inv env setup (s.receive env e count) := by
  have full : (s.flight e).take count ≠ [] := by
    rw [← List.length_pos_iff, List.length_take]
    omega
  obtain ⟨more, grown, _, mine, alive, _, reads, _⟩ := inv.receive_piece quiet sameHash wellFormed full
    (List.take_append_drop count (s.flight e)).symm
  have wrote := written_eq grown
  refine inv.act rfl grown ?_ rfl rfl mine alive ?_
  · rw [s.receive_there, wrote]
  · rw [s.receive_here]
    exact reads

theorem Inv.idle (inv : Inv env setup s) (e : End) (quiet : ∀ e, Quiet (env e)) :
    ∃ more, Acts (s.ends e) ((s.ends e).incoming (env e) (some [])) more false ∧ more.filterMap carried = [] ∧
      more.countP isPing = if (s.ends e).state = .connected then 1 else 0 := by
  by_cases connecting : (s.ends e).state = .connecting
  · have reads := inv.reads e
    have same : (s.ends e).incoming (env e) (some []) = s.ends e := by
      cases reads with
      | handshake _ start idle none stream incomplete =>
        have valid : ¬Refused (s.ends e) ((s.ends e).mBuffer ++ []) := inv.not_refused stream
        rw [List.append_nil] at valid
        have unchanged := processHandshake_partial (env e) (s.ends e) valid incomplete
        rw [incoming_connecting _ _ connecting, process]
        simp only [List.append_nil, if_pos connecting, unchanged]
        rw [if_neg (by rw [connecting]; decide)]
      | opened head done rest connected => exact absurd (connecting.symm.trans connected) (by decide)
      | ended done rest gone =>
        rcases gone with gone | gone <;> exact absurd (connecting.symm.trans gone) (by decide)
    rw [same, connecting]
    exact ⟨[], .refl _ _, rfl, rfl⟩
  · by_cases connected : (s.ends e).state = .connected
    · obtain ⟨ping, sent, acts, none, isPing⟩ := sendPing_acts (quiet e) (s.ends e) connected
      have pings : (s.ends e).incoming (env e) (some []) = ((s.ends e).sendPing (env e)).2 := by
        have process : (s.ends e).process (env e) [] = (s.ends e).sendPing (env e) := by
          rw [process]
          simp only [List.append_nil, if_neg connecting, if_pos connected, ↓reduceIte]
        rw [incoming, if_neg (fun closed => closed.2 connected)]
        simp only [process]
        rcases split : (s.ends e).sendPing (env e) with ⟨result, next⟩
        rw [split] at sent
        simp only at sent
        rw [sent]
      rw [pings, if_pos connected]
      refine ⟨[ping], acts, ?_, ?_⟩
      · rw [List.filterMap_cons, none]
        rfl
      · rw [List.countP_singleton, if_pos isPing]
    · have closed : (s.ends e).incoming (env e) (some []) = s.ends e := if_pos ⟨connecting, connected⟩
      rw [closed, if_neg connected]
      exact ⟨[], .refl _ _, rfl, rfl⟩

theorem Inv.step_cases (quiet : ∀ e, Quiet (env e)) (inv : Inv env setup s) {label : Label}
    (step : Step env s label next) :
    (∃ e count, label = .deliver e count ∧ 0 < count ∧ count ≤ (s.flight e).length ∧ next = s.receive env e count) ∨
      ∃ more new, Goes s next label.own more new label.cuts ∧ (∀ message ∈ new, label = .send label.own message) ∧
        more.countP isPing = if label = .idle label.own ∧ (s.ends label.own).state = .connected then 1 else 0 := by
  obtain ⟨enabled, rfl⟩ := step
  cases label with
  | send e message =>
    obtain ⟨fits, unsent⟩ := enabled
    refine .inr ?_
    show ∃ more new, Goes s (s.send env e message) e more new false ∧ _ ∧ _
    rcases send_acts (quiet e) (s.ends e) message fits with
      ⟨_, ⟨x, error⟩, same⟩ | ⟨_, ⟨result, ok⟩, sent, acts, carries, noClose, noPing⟩
    · have split : (s.ends e).send (env e) (some message) = (.error x, s.ends e) := Prod.ext error same
      rw [Session.send, split]
      exact ⟨[], [], s.act_goes (.refl _ _) rfl, by simp, by simp⟩
    · have split : (s.ends e).send (env e) (some message) = (.ok result, ((s.ends e).send (env e) (some message)).2) :=
        Prod.ext ok rfl
      generalize ((s.ends e).send (env e) (some message)).2 = t at acts split
      rw [Session.send, split]
      have here : (s.act e t).ends e = t := Function.update_self ..
      refine ⟨[sent], [message], ⟨?_, ?_, rfl, by simp, ?_, ?_, .inr ⟨unsent, ?_⟩⟩, by simp [Label.own],
          by simp [noPing]⟩
      · simp only [here]
        rfl
      · simp only [here]
      · simp only [here]
        exact acts
      · rw [List.filterMap_cons, carries]
        rfl
      · rw [List.countP_singleton, noClose]
        rfl
  | close e =>
    obtain ⟨more, acts, none, noPing⟩ := close_acts (quiet e) (s.ends e) false
    exact .inr ⟨more, [], s.act_goes acts none, by simp, by simpa using noPing⟩
  | idle e =>
    obtain ⟨more, acts, none, pings⟩ := inv.idle e quiet
    exact .inr ⟨more, [], s.act_goes acts none, by simp, by simpa [Label.own] using pings⟩
  | lost e => exact .inr ⟨[], [], s.cutOff_goes (lost_acts (s.ends e)) rfl, by simp, by simp⟩
  | closeTimeout e =>
    have acts := changeState_acts (s.ends e) .disconnected (.inl rfl)
    exact .inr ⟨[], [], s.cutOff_goes acts rfl, by simp, by simp⟩
  | deliver e count => exact .inl ⟨e, count, rfl, enabled.1, enabled.2, rfl⟩

theorem Inv.step (quiet : ∀ e, Quiet (env e)) (sameHash : (env .client).sha1 = (env .server).sha1)
    (wellFormed : WellFormed setup.host setup.path setup.protocols) {label : Label} (inv : Inv env setup s)
    (step : Step env s label next) : Inv env setup next := by
  rcases inv.step_cases quiet step with ⟨e, count, rfl, some, enough, rfl⟩ | ⟨more, new, goes, _⟩
  · exact inv.receive quiet sameHash wellFormed some enough
  · exact goes.inv inv

/-! ### The opening -/

theorem started_client (quiet : Quiet (env .client)) :
    setup.started env .client = { setup.made .client setup.handshake with
    state := .connecting
    sends := 1
    log := [.stateChange .connecting, .outgoing (.http (setup.head env .client))] } := by
  obtain ⟨result, answer⟩ := quiet 0
  have request : WsHandshake.generateHttpRequest
      { mHost := setup.host, mPath := setup.path, mProtocols := setup.protocols } setup.random =
        (setup.handshake, setup.head env .client) :=
    Prod.ext rfl (generateHttpRequest_eq _ _)
  simp only [Setup.started, start, Setup.made, changeState, reduceCtorEq, ↓reduceIte, decide_true, sendHttpRequest,
      request,
    outgoing, answer, List.nil_append, List.cons_append]

theorem started_server : setup.started env .server = { setup.made .server {} with
    state := .connecting
    log := [.stateChange .connecting] } := rfl

theorem Inv.opening (quiet : ∀ e, Quiet (env e)) : Inv env setup (setup.opening env) := by
  have client : setup.started env .client = _ := started_client (quiet .client)
  have server : setup.started env .server = _ := started_server
  have request : sents (setup.started env .client).log = [.http (setup.head env .client)] := by
    rw [client]
    rfl
  have silent : sents (setup.started env .server).log = [] := rfl
  constructor
  · intro e
    cases e with
    | client =>
      show Local env setup .client (setup.started env .client) [] false
      constructor
      · rw [client]
        rfl
      · rw [client]
        exact fun _ => rfl
      · exact fun other => absurd other (by decide)
      · exact .inr ⟨[], request, by simp⟩
      · rw [request]
        exact fun none => absurd none (by simp)
      · rw [client]
        rfl
      · rw [request]
        rfl
      · rw [request]
        rfl
      · rw [request, client]
        rfl
    | server =>
      show Local env setup .server (setup.started env .server) [] false
      have early : End.server = .client ∨ sents (setup.started env .server).log ≠ [] →
          (setup.started env .server).mHandshake = setup.handshake := by
        rintro (other | some)
        · exact absurd other (by decide)
        · exact absurd silent some
      refine ⟨rfl, early, fun _ _ => ⟨rfl, rfl⟩, .inl silent, fun _ => ⟨rfl, ?_, .inl rfl⟩, rfl, rfl, rfl, rfl⟩
      rw [server]
      simp
  · intro e
    have fresh : ∀ (t : WsTransport), t.mMaxOutstandingPings = setup.maxOutstandingPings e → t.mOutstandingPings = 0 →
        t.state = .connecting → Alive setup e t false := by
      intro t maximum zero connecting
      refine ⟨maximum, fun _ overdue => ?_, ?_, ?_⟩
      · obtain ⟨positive, late⟩ := overdue
        omega
      · exact fun failed => absurd (connecting.symm.trans failed) (by decide)
      · exact fun closed => absurd (connecting.symm.trans closed) (by decide)
    cases e with
    | client =>
      apply fresh (setup.started env .client) <;> rw [client] <;> rfl
    | server =>
      apply fresh (setup.started env .server) <;> rw [server] <;> rfl
  · intro e
    cases e with
    | client =>
      show Reads (sents (setup.started env .server).log) (setup.started env .client) _ false
      rw [client]
      exact .handshake rfl rfl rfl ⟨rfl, rfl, fun some => absurd some (Int.lt_irrefl 0)⟩ rfl Head.not_nil
    | server =>
      show Reads (sents (setup.started env .client).log) (setup.started env .server) _ false
      exact .handshake rfl rfl rfl ⟨rfl, rfl, fun some => absurd some (Int.lt_irrefl 0)⟩ rfl Head.not_nil

theorem always_inv (quiet : ∀ e, Quiet (env e)) (sameHash : (env .client).sha1 = (env .server).sha1)
    (wellFormed : WellFormed setup.host setup.path setup.protocols) {trace : List (Label × Session)}
    (run : Run (Sessions.Step env) (setup.opening env) trace) : Always (Inv env setup) (setup.opening env) trace :=
  always_of_step (fun _ _ _ inv step => inv.step quiet sameHash wellFormed step) trace _ (.opening quiet) run

/-! ### The messages -/

theorem arrived_typed (limit : Nat) (message : Message) : arrived limit (typed message) = arrived limit message := by
  unfold arrived typed
  split <;> simp_all

theorem arrivals_eq {all : List Sent} {sent : List Message}
    (messages : all.filterMap carried = sent.map typed) (limit : Nat) :
    arrivals limit all = sent.map (arrived limit) := by
  rw [arrivals, messages, List.map_map]
  exact List.map_congr_left fun message _ => arrived_typed limit message

theorem Inv.in_order (inv : Inv env setup s) (e : End) :
    delivered (s.ends e).log <+: (s.sent e.other).map (arrived (setup.maxMessageSize e)) := by
  have sent := arrivals_eq (inv.ends e.other).messages (setup.maxMessageSize e)
  have limit := (inv.ends e).limit
  rw [← sent]
  cases inv.reads e with
  | handshake _ _ _ none _ _ =>
    rw [none.delivered]
    exact List.nil_prefix
  | opened head done rest _ split _ got =>
    rw [split, arrivals_http, arrivals_append, got.delivered, limit]
    exact List.prefix_append _ _
  | ended done rest _ split got _ =>
    rw [split, arrivals_append, got.delivered, limit]
    exact List.prefix_append _ _

theorem arrivals_of_close {done rest : List Sent} (closing : done.any isClose = true)
    (last : (fromClose (done ++ rest)).filterMap carried = []) (limit : Nat) : arrivals limit rest = [] := by
  obtain ⟨close, member, isClosing⟩ := List.any_eq_true.mp closing
  have some : ¬(done.dropWhile (fun sent => !isClose sent)).isEmpty = true := by
    rw [List.isEmpty_iff, List.dropWhile_eq_nil_iff]
    intro none
    have against := none close member
    rw [isClosing] at against
    exact absurd against (by decide)
  rw [fromClose, List.dropWhile_append, if_neg some, List.filterMap_append] at last
  rw [arrivals, (List.append_eq_nil_iff.mp last).2]
  rfl

/-- Nothing is missing at an open end when nothing is on its way, and at an end that was closed in order. -/
theorem Inv.complete (inv : Inv env setup s) (e : End)
    (settled : ((s.ends e).state = .connected ∧ s.flight e = []) ∨
      ((s.ends e).state = .disconnected ∧ s.broken e = false)) :
    delivered (s.ends e).log = (s.sent e.other).map (arrived (setup.maxMessageSize e)) := by
  have sent := arrivals_eq (inv.ends e.other).messages (setup.maxMessageSize e)
  have limit := (inv.ends e).limit
  have wrote := (inv.ends e.other).wrote
  rw [← sent]
  cases inv.reads e with
  | handshake connecting =>
    rw [connecting] at settled
    exact absurd settled (by simp)
  | opened head done rest connected split _ got _ awaits =>
    have empty : s.flight e = [] := by
      rcases settled with ⟨_, empty⟩ | ⟨gone, _⟩
      · exact empty
      · exact absurd (connected.symm.trans gone) (by decide)
    have genuine := (inv.ends e.other).genuine split
    rw [empty] at awaits
    rw [split, awaits.none_left genuine, List.append_nil, arrivals_http, got.delivered, limit]
  | ended done rest ended split got why =>
    have closing : done.any isClose = true := by
      rcases settled with ⟨connected, _⟩ | ⟨gone, whole⟩
      · rcases ended with state | state <;> exact absurd (state.symm.trans connected) (by decide)
      · rcases why with closed | cut | failed
        · exact closed
        · exact absurd (whole.symm.trans cut) (by decide)
        · exact absurd (gone.symm.trans failed) (by decide)
    have last := (inv.ends e.other).last
    rw [split] at last ⊢
    rw [arrivals_append, arrivals_of_close closing last, got.delivered, limit, List.append_nil]

/-- With nothing on its way the handshake is over, unless the server was cut off. -/
theorem Inv.shaken (inv : Inv env setup s) (wellFormed : WellFormed setup.host setup.path setup.protocols)
    (nothing : ∀ e, s.flight e = []) (whole : s.broken .server = false) : ∀ e, (s.ends e).state ≠ .connecting := by
  have settled (e : End) (connecting : (s.ends e).state = .connecting) : sents (s.ends e.other).log = [] := by
    cases inv.reads e with
    | handshake _ _ _ _ stream incomplete =>
      rcases (inv.ends e.other).wrote with none | ⟨frames, wrote, _⟩
      · exact none
      · rw [nothing, List.append_nil, wrote, wires_cons] at stream
        rw [stream] at incomplete
        exact absurd (Setup.head_complete wellFormed e.other (wires frames)) (incomplete _ _)
    | opened _ _ _ connected => exact absurd (connecting.symm.trans connected) (by decide)
    | ended _ _ gone => rcases gone with gone | gone <;> exact absurd (connecting.symm.trans gone) (by decide)
  have server : (s.ends .server).state ≠ .connecting := by
    intro connecting
    exact absurd ((inv.ends .client).silent (settled .server connecting)).1 (by decide)
  intro e
  cases e with
  | server => exact server
  | client =>
    intro connecting
    obtain ⟨_, _, why⟩ := (inv.ends .server).silent (settled .client connecting)
    rcases why with still | cut
    · exact server still
    · exact absurd (whole.symm.trans cut) (by decide)

end

section
variable (env : End → Environment) (setup : Setup) (quiet : ∀ e, Quiet (env e))
  (sameHash : (env .client).sha1 = (env .server).sha1) (wellFormed : WellFormed setup.host setup.path setup.protocols)
  (trace : List (Label × Session)) (run : Run (Sessions.Step env) (setup.opening env) trace)
include quiet sameHash wellFormed run

/-- In every state of a session, the messages that an end has passed up are the first ones that the
other end has sent, each in one piece, in order and of its type, up to the size that the end takes. -/
theorem always_in_order :
    Always (fun s => ∀ e, delivered (s.ends e).log <+: (s.sent e.other).map (arrived (setup.maxMessageSize e)))
      (setup.opening env) trace :=
  always_mono (fun _ inv => inv.in_order) trace _ (always_inv quiet sameHash wellFormed run)

/-- No message is missing at an open end once nothing is on its way to it, nor at an end whose
connection was closed by a CLOSE of the other one, whatever else happens. -/
theorem always_complete :
    Always (fun s => ∀ e,
        ((s.ends e).state = .connected ∧ s.flight e = []) ∨ ((s.ends e).state = .disconnected ∧ s.broken e = false) →
        delivered (s.ends e).log = (s.sent e.other).map (arrived (setup.maxMessageSize e)))
      (setup.opening env) trace :=
  always_mono (fun _ inv => inv.complete) trace _ (always_inv quiet sameHash wellFormed run)

/-- The two handshakes do not wait for each other: when nothing is on its way and the server was not
cut off, both are over. -/
theorem always_shaken :
    Always (fun s => (∀ e, s.flight e = []) → s.broken .server = false → ∀ e, (s.ends e).state ≠ .connecting)
      (setup.opening env) trace :=
  always_mono (fun _ inv nothing whole => inv.shaken wellFormed nothing whole) trace _
    (always_inv quiet sameHash wellFormed run)

end

/-! ### A session -/

def exampleSetup : Setup where
  host := text "a"
  path := text "/"
  protocols := []
  random := ⟨List.replicate 16 9, rfl⟩
  maxMessageSize _ := 3
  maxOutstandingPings _ := 0
  partialOpcode _ := .continuation

def accepts (_ : End) : Environment := accepting sampleKey

theorem accepts_quiet (e : End) : Quiet (accepts e) := fun _ => ⟨true, rfl⟩

theorem exampleSetup_wellFormed : WellFormed exampleSetup.host exampleSetup.path exampleSetup.protocols :=
  ⟨by decide +kernel, by decide +kernel, by decide +kernel, by decide +kernel, by decide +kernel, by decide +kernel⟩

/-- The handshake in pieces, a message over the limit and a PING from the server, and a text and a CLOSE
from the client. -/
def exampleLabels : List Label :=
  [.deliver .server 9, .deliver .server 131, .send .server ⟨[1, 2, 3, 4], .binary⟩, .idle .server, .deliver .client 155,
    .deliver .client 10, .send .client ⟨text "hi", .string⟩, .close .client, .deliver .server 24]

theorem exampleLabels_run :
    Run (Sessions.Step accepts) (exampleSetup.opening accepts)
        ((exampleSetup.opening accepts).walk accepts exampleLabels) :=
  Session.walk_run accepts exampleLabels _ (by decide +kernel)

theorem example_in_order :
    Always (fun s => ∀ e, delivered (s.ends e).log <+: (s.sent e.other).map (arrived (exampleSetup.maxMessageSize e)))
      (exampleSetup.opening accepts) ((exampleSetup.opening accepts).walk accepts exampleLabels) :=
  always_in_order accepts exampleSetup accepts_quiet rfl exampleSetup_wellFormed _ exampleLabels_run

theorem example_complete :
    Always (fun s => ∀ e,
        ((s.ends e).state = .connected ∧ s.flight e = []) ∨ ((s.ends e).state = .disconnected ∧ s.broken e = false) →
        delivered (s.ends e).log = (s.sent e.other).map (arrived (exampleSetup.maxMessageSize e)))
      (exampleSetup.opening accepts) ((exampleSetup.opening accepts).walk accepts exampleLabels) :=
  always_complete accepts exampleSetup accepts_quiet rfl exampleSetup_wellFormed _ exampleLabels_run

theorem example_shaken :
    Always (fun s => (∀ e, s.flight e = []) → s.broken .server = false → ∀ e, (s.ends e).state ≠ .connecting)
      (exampleSetup.opening accepts) ((exampleSetup.opening accepts).walk accepts exampleLabels) :=
  always_shaken accepts exampleSetup accepts_quiet rfl exampleSetup_wellFormed _ exampleLabels_run

end WebsocketClient.Sessions
