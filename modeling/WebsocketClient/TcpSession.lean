import WebsocketClient.Library.Refinement
import WebsocketClient.SessionEnd
import WebsocketClient.TcpStream
import WebsocketClient.WsAnswers

/-! Two `WsTransport`s over two `TcpTransport`s, without a proxy and without TLS. What an end writes goes to its send
queue or to the kernel, in the pieces that the kernel takes; the sockets carry what the kernel has taken. The
kernel never refuses a send: a connection that is lost is noticed while receiving. -/

namespace WebsocketClient.TcpSessions
open ByteString Messages Frames Handshake HandshakeRoundTrip Transports WsTransports WsTransport WsMessages WsChunks
  WsAnswers FrameRoundTrips Sessions TcpTransports TcpPolls TcpStreams Library.Runs Library.Refinement

/-- How the kernel behaves in a step, and what the sends of this step return. -/
structure Choice where
  kernel : Kernel
  answers : List Bool

def Choice.environment (choice : Choice) (env : Environment) (t : WsTransport) : Environment :=
  { env with lower := fun n => .ok (choice.answers.getD (n - t.sends) true) }

/-- TCP is given what was written, and answers as it was chosen. -/
def pass (kernel : Kernel) : List Sent → List Bool → TcpTransport → Option TcpTransport
  | [], [], t => some t
  | sent :: later, answer :: answers, t =>
      match t.send kernel (some sent.wire) with
      | some (.ok result, next) => if result = answer then pass kernel later answers next else none
      | _ => none
  | _, _, _ => none

/-- The transports of the two ends, how much an end has read of what the other one's kernel has taken,
and the history of a `Session`. -/
structure Stack where
  ws : End → WsTransport
  tcp : End → TcpTransport
  read : End → Nat
  sent : End → List Message
  broken : End → Bool

def Over (t : WsTransport) : Prop := t.state ≠ .connecting ∧ t.state ≠ .connected

inductive Label where
  /-- The application, the poll service or the timer of `close` calls. -/
  | upper (label : Sessions.Label)
  /-- The socket can be written to. -/
  | out (e : End)
  /-- The transports are closed. -/
  | stop (e : End)
  deriving DecidableEq, Repr

namespace Stack
variable (env : End → Environment) (choice : Choice) (s : Stack) (e : End)

def waiting : Bytes := (s.tcp e.other).wire.drop (s.read e)

def below (lower : TcpTransport) : Stack := { s with tcp := Function.update s.tcp e lower }

def act (t : WsTransport) : Option Stack :=
  (pass choice.kernel (Sessions.written (s.ws e) t) choice.answers (s.tcp e)).map fun lower =>
    { s.below e lower with ws := Function.update s.ws e t }

def cutOff : Stack := { s with broken := Function.update s.broken e true }

/-- `Transport::recv`. -/
def incoming (message : Option Bytes) : Option Stack :=
  s.act choice e ((s.ws e).incoming (choice.environment (env e) (s.ws e)) message)

def send (message : Message) : Option Stack :=
  match (s.ws e).send (choice.environment (env e) (s.ws e)) (some message) with
  | (.error _, t) => s.act choice e t
  | (.ok _, t) =>
      (s.act choice e t).map fun next => { next with sent := Function.update s.sent e (s.sent e ++ [message]) }

def timeout : Option Stack :=
  ((s.below e { s.tcp e with poll := none }).incoming env choice e (some [])).map fun next =>
    next.below e ((next.tcp e).setPoll .in)

def receive (count : Nat) : Option Stack :=
  ({ s with read := Function.update s.read e (s.read e + count) } : Stack).incoming env choice e
    (some ((s.waiting e).take count))

def lost : Option Stack :=
  ((s.below e (s.tcp e).disconnect).incoming env choice e none).map (cutOff · e)

def next : Label → Option Stack
  | .upper (.send e message) => s.send env choice e message
  | .upper (.close e) => s.act choice e ((s.ws e).close (choice.environment (env e) (s.ws e)))
  | .upper (.idle e) => s.timeout env choice e
  | .upper (.lost e) => s.lost env choice e
  | .upper (.closeTimeout e) => (s.act choice e ((s.ws e).changeState .disconnected)).map (cutOff · e)
  | .upper (.deliver e count) => s.receive env choice e count
  | .out e => ((s.tcp e).processOut choice.kernel).map (s.below e)
  | .stop e => some (s.below e (s.tcp e).disconnect)

/-- A socket is only polled while it is connected: for a timeout when it is registered for reading alone, and
for writing when it is registered for both. At most 4096 bytes are read at once. A message and its header are
smaller than 2^31 bytes. -/
def Enabled : Label → Prop
  | .upper (.send e message) => message.data.length + 14 < 2 ^ 31 ∧ (s.ws e).mCloseSent = false
  | .upper (.close _) => True
  | .upper (.idle e) => (s.tcp e).state = .connected ∧ (s.tcp e).poll = some .in
  | .upper (.lost e) => (s.tcp e).state = .connected
  | .upper (.closeTimeout e) => .scheduleClose ∈ (s.ws e).log
  | .upper (.deliver e count) =>
      (s.tcp e).state = .connected ∧ 0 < count ∧ count ≤ 4096 ∧ count ≤ (s.waiting e).length
  | .out e => (s.tcp e).state = .connected ∧ (s.tcp e).poll = some .both
  | .stop e => Over (s.ws e)

instance (label : Label) : Decidable (s.Enabled label) :=
  match label with
  | .upper (.send e message) =>
      inferInstanceAs (Decidable (message.data.length + 14 < 2 ^ 31 ∧ (s.ws e).mCloseSent = false))
  | .upper (.close _) => inferInstanceAs (Decidable True)
  | .upper (.idle e) => inferInstanceAs (Decidable ((s.tcp e).state = .connected ∧ (s.tcp e).poll = some .in))
  | .upper (.lost e) => inferInstanceAs (Decidable ((s.tcp e).state = .connected))
  | .upper (.closeTimeout e) => inferInstanceAs (Decidable (.scheduleClose ∈ (s.ws e).log))
  | .upper (.deliver e count) =>
      inferInstanceAs (Decidable
        ((s.tcp e).state = .connected ∧ 0 < count ∧ count ≤ 4096 ∧ count ≤ (s.waiting e).length))
  | .out e => inferInstanceAs (Decidable ((s.tcp e).state = .connected ∧ (s.tcp e).poll = some .both))
  | .stop e => inferInstanceAs (Decidable ((s.ws e).state ≠ .connecting ∧ (s.ws e).state ≠ .connected))

/-- The session above TCP: what is queued is on its way like what the kernel has taken. -/
def session : Session where
  ends := s.ws
  flight e := s.waiting e ++ queued (s.tcp e.other)
  sent := s.sent
  broken := s.broken

/-- The run of a list of choices, as far as its steps are possible. -/
def walk : Stack → List (Choice × Label) → Option (List (Label × Stack))
  | _, [] => some []
  | s, (choice, label) :: rest =>
      if s.Enabled label then do
        let next ← s.next env choice label
        let later ← walk next rest
        return (label, next) :: later
      else none

end Stack

def Step (env : End → Environment) (s : Stack) (label : Label) (next : Stack) : Prop :=
  ∃ choice : Choice, choice.kernel.Patient ∧ s.Enabled label ∧ s.next env choice label = some next

theorem Stack.walk_run (env : End → Environment) (choices : List (Choice × Label)) :
    ∀ (s : Stack) (trace : List (Label × Stack)), s.walk env choices = some trace →
        (∀ pair ∈ choices, pair.1.kernel.Patient) → Run (TcpSessions.Step env) s trace := by
  induction choices with
  | nil =>
    intro s trace walked _
    rw [Stack.walk, Option.some.injEq] at walked
    rw [← walked]
    trivial
  | cons pair rest ih =>
    intro s trace walked patient
    rcases pair with ⟨choice, label⟩
    rw [Stack.walk] at walked
    split_ifs at walked with enabled
    simp only [bind, Option.bind_eq_some_iff, pure, Option.some.injEq] at walked
    obtain ⟨next, taken, later, following, rfl⟩ := walked
    exact ⟨⟨choice, patient (choice, label) (List.mem_cons_self ..), enabled, taken⟩,
      ih next later following fun other member => patient other (List.mem_cons_of_mem _ member)⟩

/-- Both sockets are connected. The request is sent in the state callback of the client's TCP, before `setPoll`. -/
def opening (env : End → Environment) (setup : Setup) (choice : Choice) : Option Stack :=
  let started := setup.started (fun e => { env e with lower := fun n => .ok (choice.answers.getD n true) })
  (pass choice.kernel (sents (started .client).log) choice.answers (.connected none)).map fun lower =>
    { ws := started
      tcp := fun e => match e with
        | .client => lower.setPoll .in
        | .server => .connected (some .in)
      read := fun _ => 0
      sent := fun _ => []
      broken := fun _ => false }

/-! ### What TCP is given -/

theorem wire_bound (frame : Frame) (key : MaskingKey) :
    (Sent.frame frame key).wire.length ≤ 14 + frame.payload.length := by
  have keyLength : (keyField key frame).length ≤ 4 := by
    unfold keyField
    split
    · exact Nat.le_of_eq key.property
    · exact Nat.zero_le 4
  have field : (lengthField frame.payload.length).2.length ≤ 8 := by
    unfold lengthField
    split_ifs
    · exact Nat.zero_le 8
    · rw [bigEndianBytes_length]
      decide
    · exact Nat.le_of_eq (bigEndianBytes_length ..)
  have length : (Sent.frame frame key).wire.length = (header key frame).size + frame.payload.length :=
    encodeFrame_length key frame
  rw [length]
  simp only [header]
  omega

/-- What passing `more` on does to the transport below. -/
structure Passes (sent : Bytes) (t lower : TcpTransport) (more : List Sent) : Prop where
  stream : lower.wire ++ queued lower = sent ++ wires more
  grows : Grows t lower
  state : lower.state = t.state
  consistent : lower.state = .connected → Consistent (sent ++ wires more) lower
  polled : Polled t → Polled lower

section
variable {kernel : Kernel} (patient : kernel.Patient)

theorem Passes.refl {sent : Bytes} {t : TcpTransport} (stream : t.wire ++ queued t = sent)
    (consistent : t.state = .connected → Consistent sent t) : Passes sent t t [] where
  stream := by rw [stream, wires_nil, List.append_nil]
  grows := .of_eq rfl
  state := rfl
  consistent := by
    rw [wires_nil, List.append_nil]
    exact consistent
  polled := id

include patient

theorem pass_passes (more : List Sent) : ∀ (answers : List Bool) (sent : Bytes) (t lower : TcpTransport),
    pass kernel more answers t = some lower → (∀ one ∈ more, one.wire.length < 2 ^ 31) → t.wire ++ queued t = sent →
    (t.state = .connected → Consistent sent t) → (t.state ≠ .connected → more = []) → Passes sent t lower more := by
  induction more with
  | nil =>
    intro answers sent t lower passed small stream consistent shut
    cases answers with
    | nil =>
      rw [pass, Option.some.injEq] at passed
      rw [← passed]
      exact .refl stream consistent
    | cons answer answers => simp [pass] at passed
  | cons one later ih =>
    intro answers sent t lower passed small stream consistent shut
    have connected : t.state = .connected := Classical.byContradiction fun closed => by simpa using shut closed
    cases answers with
    | nil => simp [pass] at passed
    | cons answer answers =>
      obtain ⟨middle, sends, after⟩ := send_spec patient (some one.wire) (consistent connected)
        (fun message member => by
          rw [← Option.mem_some.mp member]
          exact small one (List.mem_cons_self ..))
      rw [Option.getD_some] at after
      simp only [pass, sends] at passed
      split at passed
      · have rest := ih answers (sent ++ one.wire) middle lower passed
          (fun other member => small other (List.mem_cons_of_mem _ member)) after.stream (fun _ => after)
          (fun closed => absurd after.connected closed)
        have kept := send_sends sends
        constructor
        · rw [rest.stream, wires_cons, List.append_assoc]
        · exact (send_grows sends).trans rest.grows
        · exact rest.state.trans kept.state
        · rw [wires_cons, ← List.append_assoc]
          exact rest.consistent
        · exact fun polled => rest.polled (kept.keep polled)
      · exact absurd passed (by simp)

theorem exists_pass (more : List Sent) : ∀ (sent : Bytes) (t : TcpTransport),
    (∀ one ∈ more, one.wire.length < 2 ^ 31) → Consistent sent t →
      ∃ answers lower, pass kernel more answers t = some lower := by
  induction more with
  | nil => exact fun _ t _ _ => ⟨[], t, rfl⟩
  | cons one later ih =>
    intro sent t small consistent
    obtain ⟨middle, sends, after⟩ := send_spec patient (some one.wire) consistent
      (fun message member => by
        rw [← Option.mem_some.mp member]
        exact small one (List.mem_cons_self ..))
    obtain ⟨answers, lower, passed⟩ :=
      ih _ middle (fun other member => small other (List.mem_cons_of_mem _ member)) after
    refine ⟨middle.mSendQueue.mQueue.isEmpty :: answers, lower, ?_⟩
    simp only [pass, sends, ↓reduceIte, passed]

end

/-! ### The stack keeps the stream -/

/-- What an end has written is with the kernel or queued, and no end has read more than the kernels took. -/
structure Wired (s : Stack) : Prop where
  stream : ∀ e, (s.tcp e).wire ++ queued (s.tcp e) = wires (sents (s.ws e).log)
  consistent : ∀ e, (s.tcp e).state = .connected → Consistent (wires (sents (s.ws e).log)) (s.tcp e)
  read : ∀ e, s.read e ≤ (s.tcp e.other).wire.length

def Ended (s : Stack) : Prop := ∀ e, (s.tcp e).state ≠ .connected → Over (s.ws e)

section
variable {env : End → Environment} {choice : Choice} {s next : Stack} {e : End}

theorem Stack.session_eq {u : Session} (ends : s.ws = u.ends) (flight : ∀ e, s.session.flight e = u.flight e)
    (sent : s.sent = u.sent) (broken : s.broken = u.broken) : s.session = u := by
  have same : s.session.flight = u.flight := funext flight
  cases u
  simp only [Stack.session, Session.mk.injEq] at *
  exact ⟨ends, same, sent, broken⟩

theorem Wired.below (wired : Wired s) {lower : TcpTransport} (grows : Grows (s.tcp e) lower)
    (stream : lower.wire ++ queued lower = wires (sents (s.ws e).log))
    (consistent : lower.state = .connected → Consistent (wires (sents (s.ws e).log)) lower) :
    Wired (s.below e lower) ∧ (s.below e lower).session = s.session := by
  have here : (s.below e lower).tcp e = lower := Function.update_self ..
  have there : (s.below e lower).tcp e.other = s.tcp e.other := Function.update_of_ne e.other_ne ..
  obtain ⟨taken, longer⟩ := grows
  have reads := wired.read e.other
  rw [e.other_other] at reads
  constructor
  · constructor
    · intro x
      rcases e.cases x with rfl | rfl
      · rw [here]
        exact stream
      · rw [there]
        exact wired.stream e.other
    · intro x
      rcases e.cases x with rfl | rfl
      · rw [here]
        exact consistent
      · rw [there]
        exact wired.consistent e.other
    · intro x
      rcases e.cases x with rfl | rfl
      · rw [there]
        exact wired.read x
      · rw [e.other_other, here, longer, List.length_append]
        exact Nat.le_trans reads (Nat.le_add_right _ _)
  · apply Stack.session_eq rfl _ rfl rfl
    intro x
    show ((s.below e lower).tcp x.other).wire.drop (s.read x) ++ queued ((s.below e lower).tcp x.other) =
      (s.tcp x.other).wire.drop (s.read x) ++ queued (s.tcp x.other)
    rcases e.cases x with rfl | rfl
    · rw [there]
    · rw [← wired.stream e, longer, List.append_assoc] at stream
      rw [e.other_other, here, longer, List.drop_append_of_le_length reads, List.append_assoc,
        List.append_cancel_left stream]

theorem Wired.poll (wired : Wired s) (poll : Option Direction) :
    Wired (s.below e { s.tcp e with poll := poll }) ∧
        (s.below e { s.tcp e with poll := poll }).session = s.session := by
  have kept (connected : (s.tcp e).state = .connected) :
      Consistent (wires (sents (s.ws e).log)) { s.tcp e with poll := poll } := by
    have before := wired.consistent e connected
    exact ⟨⟨before.stream, before.unclamped, before.small, before.unlimited, before.running, before.connected⟩,
      before.buffered⟩
  exact wired.below (.of_eq rfl) (wired.stream e) kept

theorem Wired.reading (wired : Wired s) {count : Nat} (enough : count ≤ (s.waiting e).length) :
    let reading : Stack := { s with read := Function.update s.read e (s.read e + count) }
    Wired reading ∧ reading.session =
      { s.session with flight := Function.update s.session.flight e ((s.session.flight e).drop count) } := by
  intro reading
  have here : reading.read e = s.read e + count := Function.update_self ..
  have there : reading.read e.other = s.read e.other := Function.update_of_ne e.other_ne ..
  constructor
  · refine ⟨wired.stream, wired.consistent, ?_⟩
    intro x
    show reading.read x ≤ (s.tcp x.other).wire.length
    have before := wired.read x
    rcases e.cases x with rfl | rfl
    · rw [here]
      rw [Stack.waiting, List.length_drop] at enough
      omega
    · rw [there]
      exact before
  · refine Stack.session_eq rfl ?_ rfl rfl
    intro x
    show (s.tcp x.other).wire.drop (reading.read x) ++ queued (s.tcp x.other) =
      Function.update s.session.flight e ((s.session.flight e).drop count) x
    rcases e.cases x with rfl | rfl
    · rw [here, Function.update_self]
      show _ = (s.waiting x ++ queued (s.tcp x.other)).drop count
      rw [List.drop_append_of_le_length enough, Stack.waiting, List.drop_drop]
    · rw [there, Function.update_of_ne e.other_ne]
      rfl

theorem Wired.act (patient : choice.kernel.Patient) (wired : Wired s) {t : WsTransport} {more : List Sent}
    (grown : sents t.log = sents (s.ws e).log ++ more) (small : ∀ one ∈ more, one.wire.length < 2 ^ 31)
    (shut : (s.tcp e).state ≠ .connected → more = []) (acted : s.act choice e t = some next) :
    Wired next ∧ next.session = s.session.act e t ∧ next.ws = Function.update s.ws e t ∧ next.read = s.read ∧
      ∃ lower, next.tcp = Function.update s.tcp e lower ∧ Passes (wires (sents (s.ws e).log)) (s.tcp e) lower more := by
  have wrote : written (s.ws e) t = more := written_eq grown
  unfold Stack.act at acted
  rw [wrote, Option.map_eq_some_iff] at acted
  obtain ⟨lower, passed, rfl⟩ := acted
  have passes := pass_passes patient more _ _ _ _ passed small (wired.stream e) (wired.consistent e) shut
  obtain ⟨taken, longer⟩ := passes.grows
  have reads := wired.read e.other
  rw [e.other_other] at reads
  have here : Function.update s.tcp e lower e = lower := Function.update_self ..
  have there : Function.update s.tcp e lower e.other = s.tcp e.other := Function.update_of_ne e.other_ne ..
  have above : Function.update s.ws e t e = t := Function.update_self ..
  have aside : Function.update s.ws e t e.other = s.ws e.other := Function.update_of_ne e.other_ne ..
  have all : wires (sents t.log) = wires (sents (s.ws e).log) ++ wires more := by rw [grown, wires_append]
  refine ⟨⟨?_, ?_, ?_⟩, ?_, rfl, rfl, lower, rfl, passes⟩
  · intro x
    show (Function.update s.tcp e lower x).wire ++ queued (Function.update s.tcp e lower x) =
      wires (sents (Function.update s.ws e t x).log)
    rcases e.cases x with rfl | rfl
    · rw [here, above, all]
      exact passes.stream
    · rw [there, aside]
      exact wired.stream e.other
  · intro x
    show (Function.update s.tcp e lower x).state = .connected →
      Consistent (wires (sents (Function.update s.ws e t x).log)) (Function.update s.tcp e lower x)
    rcases e.cases x with rfl | rfl
    · rw [here, above, all]
      exact passes.consistent
    · rw [there, aside]
      exact wired.consistent e.other
  · intro x
    show s.read x ≤ (Function.update s.tcp e lower x.other).wire.length
    rcases e.cases x with rfl | rfl
    · rw [there]
      exact wired.read x
    · rw [e.other_other, here, longer, List.length_append]
      omega
  · refine Stack.session_eq rfl ?_ rfl rfl
    intro x
    show (Function.update s.tcp e lower x.other).wire.drop (s.read x) ++
        queued (Function.update s.tcp e lower x.other) =
      (s.session.act e t).flight x
    rcases e.cases x with rfl | rfl
    · rw [there, Session.act_here]
      rfl
    · have wrote : written (s.session.ends e) t = more := wrote
      rw [e.other_other, here, Session.act_there, wrote]
      show _ = ((s.tcp e.other.other).wire.drop (s.read e.other) ++ queued (s.tcp e.other.other)) ++ wires more
      have stream := passes.stream
      rw [← wired.stream e, longer, List.append_assoc, List.append_assoc] at stream
      rw [e.other_other, longer, List.drop_append_of_le_length reads, List.append_assoc, List.append_assoc,
        List.append_cancel_left stream]

/-! ### What the ends write is small -/

theorem control_small {frame : Frame} {key : MaskingKey} (genuine : Genuine frame)
    (control : carried (.frame frame key) = none) : (Sent.frame frame key).wire.length < 2 ^ 31 := by
  have bound := wire_bound frame key
  by_cases data : frame.opcode = .textFrame ∨ frame.opcode = .binaryFrame
  · rw [carried, if_pos data] at control
    exact absurd control (by simp)
  · obtain ⟨other, another⟩ := not_or.mp data
    have short := genuine.short other another
    omega

theorem goes_small {s next : Session} {more : List Sent} {new : List Message} {cutting : Bool}
    (goes : Goes s next e more new cutting) (fits : ∀ message ∈ new, message.data.length + 14 < 2 ^ 31) :
    ∀ one ∈ more, one.wire.length < 2 ^ 31 := by
  intro one member
  have genuine := goes.acts.frames one member
  cases one with
  | http text => exact genuine.elim
  | frame frame key =>
    cases carries : carried (.frame frame key) with
    | none => exact control_small genuine carries
    | some message =>
      have carrying : message ∈ more.filterMap carried := List.mem_filterMap.mpr ⟨_, member, carries⟩
      rw [goes.messages] at carrying
      obtain ⟨original, isNew, rfl⟩ := List.mem_map.mp carrying
      have size := fits original isNew
      have payload : frame.payload = original.data := by
        simp only [carried] at carries
        split at carries
        · exact congrArg Message.data (Option.some.inj carries)
        · exact absurd carries (by simp)
      have bound := wire_bound frame key
      rw [payload] at bound
      omega

theorem acts_over {t u : WsTransport} {more : List Sent} {cutting : Bool} (acts : Acts t u more cutting)
    (past : Over t) : more = [] ∧ Over u := by
  refine ⟨acts.shut past.2, ?_⟩
  unfold Over
  rcases acts.state with same | ⟨opened, _⟩ | ⟨_, gone⟩
  · rw [same]
    exact past
  · exact absurd opened past.2
  · rcases gone with gone | gone <;> rw [gone] <;> decide

theorem lost_over (env : Environment) (t : WsTransport) : Over (t.incoming env none) := by
  by_cases closed : t.state ≠ .connecting ∧ t.state ≠ .connected
  · rw [incoming, if_pos closed]
    exact closed
  · rw [incoming, if_neg closed]
    show Over t.disconnect
    unfold disconnect
    split
    · have state : ((t.changeState .disconnected).recv none).state = .disconnected := changeState_state _ _
      rw [Over, state]
      decide
    · rw [Over, changeState_state]
      decide

/-! ### A step of the stack is a step of the session -/

theorem Choice.agrees (choice : Choice) {env : Environment} (quiet : Quiet env) (t : WsTransport) :
    Agrees (choice.environment env t) env :=
  ⟨rfl, rfl, fun _ => ⟨_, rfl⟩, quiet⟩

theorem Ended.act (ended : Ended s) {t : WsTransport} {lower : TcpTransport} (ws : next.ws = Function.update s.ws e t)
    (tcp : next.tcp = Function.update s.tcp e lower) (past : lower.state ≠ .connected → Over t) : Ended next := by
  intro x
  rcases e.cases x with rfl | rfl
  · rw [ws, tcp, Function.update_self, Function.update_self]
    exact past
  · rw [ws, tcp, Function.update_of_ne e.other_ne, Function.update_of_ne e.other_ne]
    exact ended e.other

theorem Ended.below (ended : Ended s) {lower : TcpTransport} (past : lower.state ≠ .connected → Over (s.ws e)) :
    Ended (s.below e lower) :=
  ended.act (Function.update_eq_self e s.ws).symm rfl past

theorem Wired.goes (patient : choice.kernel.Patient) (wired : Wired s) (ended : Ended s) {u : Session}
    {more : List Sent}
    {new : List Message} {cutting : Bool} (goes : Goes s.session u e more new cutting)
    (fits : ∀ message ∈ new, message.data.length + 14 < 2 ^ 31) (acted : s.act choice e (u.ends e) = some next) :
    Wired next ∧ Ended next ∧ next.session = s.session.act e (u.ends e) := by
  have past (closed : (s.tcp e).state ≠ .connected) := acts_over goes.acts (ended e closed)
  obtain ⟨wired', session, ws, _, lower, tcp, passes⟩ :=
    wired.act patient goes.acts.sents (goes_small goes fits) (fun closed => (past closed).1) acted
  refine ⟨wired', ended.act ws tcp ?_, session⟩
  intro closed
  rw [passes.state] at closed
  exact (past closed).2

theorem enabled_session {label : Sessions.Label} (enabled : s.Enabled (.upper label)) : s.session.Enabled label := by
  cases label with
  | send e message =>
    refine ⟨?_, enabled.2⟩
    have small := enabled.1
    omega
  | close e => trivial
  | idle e => trivial
  | lost e => trivial
  | closeTimeout e => exact enabled
  | deliver e count =>
    obtain ⟨_, some, _, enough⟩ := enabled
    refine ⟨some, ?_⟩
    show count ≤ (s.waiting e ++ queued (s.tcp e.other)).length
    rw [List.length_append]
    omega

variable {setup : Setup} (quiet : ∀ e, Quiet (env e)) (patient : choice.kernel.Patient) (wired : Wired s)
    (ended : Ended s)
include patient wired ended

theorem follows_closeTimeout
    (closed : (s.act choice e ((s.ws e).changeState .disconnected)).map (Stack.cutOff · e) = some next) :
    Wired next ∧ Ended next ∧
        next.session = (s.session.act e ((s.session.ends e).changeState .disconnected)).cutOff e := by
  rw [Option.map_eq_some_iff] at closed
  obtain ⟨middle, closed, rfl⟩ := closed
  have goes := s.session.cutOff_goes (changeState_acts (s.session.ends e) .disconnected (.inl rfl)) rfl
  have here : ((s.session.act e ((s.session.ends e).changeState .disconnected)).cutOff e).ends e =
      (s.session.ends e).changeState .disconnected := Function.update_self ..
  obtain ⟨wired', ended', session⟩ := wired.goes patient ended goes (by simp) (by rw [here]; exact closed)
  rw [here] at session
  refine ⟨⟨wired'.stream, wired'.consistent, wired'.read⟩, ended', ?_⟩
  show middle.session.cutOff e = _
  rw [session]

include quiet

theorem follows_close (closed : s.act choice e ((s.ws e).close (choice.environment (env e) (s.ws e))) = some next) :
    Wired next ∧ Ended next ∧ next.session = s.session.act e ((s.session.ends e).close (env e)) := by
  obtain ⟨more, acts, none, _⟩ := close_acts (quiet e) (s.session.ends e) false
  have goes := s.session.act_goes acts none
  have here : (s.session.act e ((s.session.ends e).close (env e))).ends e = (s.session.ends e).close (env e) :=
    Function.update_self ..
  rw [close_same (choice.agrees (quiet e) (s.ws e))] at closed
  have acted := wired.goes patient ended goes (by simp) (by rw [here]; exact closed)
  rwa [here] at acted

theorem follows_lost (told : s.lost env choice e = some next) :
    Wired next ∧ Ended next ∧ next.session = (s.session.act e ((s.session.ends e).incoming (env e) none)).cutOff e := by
  unfold Stack.lost Stack.incoming at told
  rw [Option.map_eq_some_iff] at told
  obtain ⟨middle, told, rfl⟩ := told
  have above : (s.below e (s.tcp e).disconnect).ws e = s.ws e := rfl
  have closed : (s.tcp e).disconnect.state ≠ .connected := by simp [TcpTransport.disconnect]
  rw [above, incoming_same (choice.agrees (quiet e) (s.ws e))] at told
  have nothing : (s.tcp e).disconnect.state = .connected →
      Consistent (wires (sents (s.ws e).log)) (s.tcp e).disconnect := fun connected => absurd connected closed
  obtain ⟨cut, same⟩ : Wired (s.below e (s.tcp e).disconnect) ∧ (s.below e (s.tcp e).disconnect).session = s.session :=
    wired.below (.of_eq rfl) (wired.stream e) nothing
  have acts : Acts (s.ws e) ((s.ws e).incoming (env e) none) [] true := lost_acts (s.ws e)
  obtain ⟨wired', session, ws, _, lower, tcp, _⟩ := cut.act patient acts.sents (by simp) (fun _ => rfl) told
  have past := lost_over (env e) (s.ws e)
  have others : Ended middle := by
    intro x
    rcases e.cases x with rfl | rfl
    · rw [ws, Function.update_self]
      exact fun _ => past
    · rw [ws, tcp, Function.update_of_ne e.other_ne, Function.update_of_ne e.other_ne]
      show (Function.update s.tcp e (s.tcp e).disconnect e.other).state ≠ .connected → Over (s.ws e.other)
      rw [Function.update_of_ne e.other_ne]
      exact ended e.other
  refine ⟨⟨wired'.stream, wired'.consistent, wired'.read⟩, others, ?_⟩
  show middle.session.cutOff e = _
  rw [session, same]
  rfl

variable (inv : Inv env setup s.session)
include inv

theorem follows_send {message : Message} (enabled : s.Enabled (.upper (.send e message)))
    (sent : s.send env choice e message = some next) :
    Wired next ∧ Ended next ∧ next.session = s.session.send env e message := by
  rcases inv.step_cases quiet ⟨enabled_session enabled, rfl⟩ with ⟨_, _, impossible, _⟩ | ⟨more, new, goes, source, _⟩
  · exact absurd impossible (by simp)
  have fits : ∀ other ∈ new, other.data.length + 14 < 2 ^ 31 := by
    intro other member
    have same := source other member
    simp only [Label.own, Sessions.Label.send.injEq, true_and] at same
    rw [← same]
    exact enabled.1
  change Goes s.session (s.session.send env e message) e more new _ at goes
  unfold Stack.send at sent
  unfold Session.send at goes ⊢
  rcases send_same (choice.agrees (quiet e) (s.ws e)) (s.ws e) message with
    ⟨x, mine, theirs⟩ | ⟨one, other, t, mine, theirs⟩
  · have alone : (s.session.ends e).send (env e) (some message) = (.error x, s.ws e) := theirs
    rw [alone] at goes ⊢
    rw [mine] at sent
    have here : (s.session.act e (s.ws e)).ends e = s.ws e := Function.update_self ..
    have acted := wired.goes patient ended goes fits (by rw [here]; exact sent)
    rwa [here] at acted
  · have alone : (s.session.ends e).send (env e) (some message) = (.ok other, t) := theirs
    rw [alone] at goes ⊢
    simp only [mine, Option.map_eq_some_iff] at sent
    obtain ⟨middle, sent, rfl⟩ := sent
    have here : (s.session.act e t).ends e = t := Function.update_self ..
    obtain ⟨wired', ended', session⟩ := wired.goes patient ended goes fits (by rw [here]; exact sent)
    rw [here] at session
    refine ⟨⟨wired'.stream, wired'.consistent, wired'.read⟩, ended', ?_⟩
    show { middle.session with sent := Function.update s.sent e (s.sent e ++ [message]) } = _
    rw [session]
    rfl

theorem follows_timeout (told : s.timeout env choice e = some next) :
    Wired next ∧ Ended next ∧ next.session = s.session.act e ((s.session.ends e).incoming (env e) (some [])) := by
  obtain ⟨more, acts, silent, _⟩ := inv.idle e quiet
  have goes := s.session.act_goes acts silent
  have here : (s.session.act e ((s.session.ends e).incoming (env e) (some []))).ends e =
      (s.session.ends e).incoming (env e) (some []) := Function.update_self ..
  unfold Stack.timeout Stack.incoming at told
  rw [Option.map_eq_some_iff] at told
  obtain ⟨middle, told, rfl⟩ := told
  obtain ⟨dropped, same⟩ := wired.poll (e := e) none
  have kept : Ended (s.below e { s.tcp e with poll := none }) := ended.below (ended e)
  have above : (s.below e { s.tcp e with poll := none }).ws e = s.ws e := rfl
  rw [above, incoming_same (choice.agrees (quiet e) (s.ws e))] at told
  rw [← same] at goes here
  obtain ⟨wired', ended', session⟩ := dropped.goes patient kept goes (by simp) (by rw [here]; exact told)
  obtain ⟨registered, unchanged⟩ := wired'.poll (e := e) (some .in)
  refine ⟨registered, ended'.below (ended' e), ?_⟩
  show (middle.below e { middle.tcp e with poll := some .in }).session = _
  rw [unchanged, session, here, same]

omit patient wired ended in
theorem received_small (sameHash : (env .client).sha1 = (env .server).sha1)
    (wellFormed : WellFormed setup.host setup.path setup.protocols) (heads : ∀ e, (setup.head env e).length < 2 ^ 31)
    {count : Nat} (some : 0 < count) (enough : count ≤ (s.waiting e).length) :
    ∃ more, sents ((s.ws e).incoming (env e) (.some ((s.waiting e).take count))).log = sents (s.ws e).log ++ more ∧
      ∀ one ∈ more, one.wire.length < 2 ^ 31 := by
  have chunk : (s.session.flight e).take count = (s.waiting e).take count := by
    show (s.waiting e ++ queued (s.tcp e.other)).take count = _
    exact List.take_append_of_le_length enough
  have full : (s.session.flight e).take count ≠ [] := by
    rw [chunk, ← List.length_pos_iff, List.length_take]
    omega
  obtain ⟨more, received⟩ := inv.receive_piece quiet sameHash wellFormed full (List.take_append_drop count _).symm
  have grown := received.grown
  rw [chunk] at grown
  refine ⟨more, grown, ?_⟩
  intro one member
  rcases received.wrote one member with rfl | ⟨genuine, control⟩
  · exact heads e
  · cases one with
    | http text => exact genuine.elim
    | frame frame key => exact control_small genuine control

theorem follows_receive (sameHash : (env .client).sha1 = (env .server).sha1)
    (wellFormed : WellFormed setup.host setup.path setup.protocols) (heads : ∀ e, (setup.head env e).length < 2 ^ 31)
    {count : Nat} (connected : (s.tcp e).state = .connected) (some : 0 < count) (enough : count ≤ (s.waiting e).length)
    (got : s.receive env choice e count = .some next) :
    (Wired next ∧ Ended next ∧ next.session = s.session.receive env e count) ∧
      next.read = Function.update s.read e (s.read e + count) ∧
      ∃ lower more, next.tcp = Function.update s.tcp e lower ∧
        Passes (wires (sents (s.ws e).log)) (s.tcp e) lower more := by
  obtain ⟨more, grown, small⟩ := received_small quiet inv sameHash wellFormed heads some enough
  obtain ⟨reading, session⟩ := wired.reading enough
  unfold Stack.receive Stack.incoming at got
  rw [incoming_same (choice.agrees (quiet e) _)] at got
  obtain ⟨wired', acted, ws, read, lower, tcp, passes⟩ :=
    reading.act patient grown small (fun closed => absurd connected closed) got
  refine ⟨⟨wired', ?_, ?_⟩, read, lower, more, tcp, passes⟩
  · apply ended.act ws tcp
    intro closed
    rw [passes.state] at closed
    exact absurd connected closed
  · have chunk : (s.session.flight e).take count = (s.waiting e).take count := by
      show (s.waiting e ++ queued (s.tcp e.other)).take count = _
      exact List.take_append_of_le_length enough
    rw [acted, session, Session.receive, chunk]
    rfl

omit quiet inv in
theorem follows_out (connected : (s.tcp e).state = .connected)
    (out : ((s.tcp e).processOut choice.kernel).map (s.below e) = some next) :
    (Wired next ∧ Ended next ∧ next.session = s.session) ∧
      ∃ lower, next = s.below e lower ∧ (s.tcp e).processOut choice.kernel = some lower ∧ Grows (s.tcp e) lower ∧
        Consistent (wires (sents (s.ws e).log)) lower := by
  rw [Option.map_eq_some_iff] at out
  obtain ⟨lower, out, rfl⟩ := out
  obtain ⟨same, returned, consistent⟩ := processOut_spec patient (wired.consistent e connected)
  rw [out, Option.some.injEq] at returned
  subst returned
  have grows := processOut_grows out
  obtain ⟨wired', session⟩ := wired.below grows consistent.stream (fun _ => consistent)
  exact ⟨⟨wired', ended.below (fun closed => absurd consistent.connected closed), session⟩, lower, rfl, out, grows,
    consistent⟩

end

section
variable {env : End → Environment} {setup : Setup} (quiet : ∀ e, Quiet (env e))
  (sameHash : (env .client).sha1 = (env .server).sha1) (wellFormed : WellFormed setup.host setup.path setup.protocols)
  (heads : ∀ e, (setup.head env e).length < 2 ^ 31)
include quiet sameHash wellFormed heads

theorem Wired.step {s next : Stack} {label : Label} (inv : Inv env setup s.session) (wired : Wired s) (ended : Ended s)
    (step : TcpSessions.Step env s label next) :
    (Wired next ∧ Ended next) ∧ Refines (Sessions.Step env) Stack.session s next := by
  obtain ⟨choice, patient, enabled, taken⟩ := step
  cases label with
  | upper label =>
    suffices follows : Wired next ∧ Ended next ∧ next.session = s.session.next env label from
      ⟨⟨follows.1, follows.2.1⟩, .inr ⟨label, enabled_session enabled, follows.2.2⟩⟩
    cases label with
    | send e message => exact follows_send quiet patient wired ended inv enabled taken
    | close e => exact follows_close quiet patient wired ended taken
    | idle e => exact follows_timeout quiet patient wired ended inv taken
    | lost e => exact follows_lost quiet patient wired ended taken
    | closeTimeout e => exact follows_closeTimeout patient wired ended taken
    | deliver e count =>
      obtain ⟨connected, some, _, enough⟩ := enabled
      exact (follows_receive quiet patient wired ended inv sameHash wellFormed heads connected some enough taken).1
  | out e =>
    obtain ⟨⟨wired', ended', session⟩, _⟩ := follows_out patient wired ended enabled.1 taken
    exact ⟨⟨wired', ended'⟩, .inl session⟩
  | stop e =>
    have closed : (s.tcp e).disconnect.state ≠ .connected := by simp [TcpTransport.disconnect]
    have nothing : (s.tcp e).disconnect.state = .connected →
        Consistent (wires (sents (s.ws e).log)) (s.tcp e).disconnect := fun connected => absurd connected closed
    obtain ⟨wired', session⟩ : Wired (s.below e (s.tcp e).disconnect) ∧
        (s.below e (s.tcp e).disconnect).session = s.session := wired.below (.of_eq rfl) (wired.stream e) nothing
    have same : s.below e (s.tcp e).disconnect = next := Option.some.inj taken
    rw [← same]
    exact ⟨⟨wired', ended.below (fun _ => enabled)⟩, .inl session⟩

omit sameHash wellFormed in
theorem opening_wired {choice : Choice} (patient : choice.kernel.Patient) {s : Stack}
    (opens : opening env setup choice = some s) : Wired s ∧ Ended s ∧ s.session = setup.opening env := by
  have started : setup.started (fun e => { env e with lower := fun n => .ok (choice.answers.getD n true) }) =
      setup.started env := by
    funext e
    have agrees : Agrees { env e with lower := fun n => .ok (choice.answers.getD n true) } (env e) :=
      ⟨rfl, rfl, fun _ => ⟨_, rfl⟩, quiet e⟩
    cases e <;> exact start_same agrees _ _
  have request : sents (setup.started env .client).log = [.http (setup.head env .client)] := by
    rw [started_client (quiet .client)]
    rfl
  have silent : sents (setup.started env .server).log = [] := rfl
  simp only [opening, started, request, Option.map_eq_some_iff] at opens
  obtain ⟨lower, passed, rfl⟩ := opens
  have small : ∀ one ∈ [Sent.http (setup.head env .client)], one.wire.length < 2 ^ 31 := by
    intro one member
    rw [List.mem_singleton.mp member]
    exact heads .client
  have connected : (TcpTransport.connected none).state = .connected := rfl
  have passes := pass_passes patient _ _ _ _ _ passed small (connected_consistent none).stream
    (fun _ => connected_consistent none) (fun closed => absurd connected closed)
  have stream := passes.stream
  have consistent := passes.consistent (passes.state.trans connected)
  rw [List.nil_append] at stream consistent
  refine ⟨⟨?_, ?_, fun e => Nat.zero_le _⟩, ?_, ?_⟩
  · intro e
    cases e with
    | client =>
      rw [request]
      exact stream
    | server => rfl
  · intro e _
    cases e with
    | client =>
      rw [request]
      exact setPoll_consistent .in consistent
    | server =>
      rw [silent]
      exact connected_consistent (some .in)
  · intro e closed
    cases e with
    | client => exact absurd consistent.connected closed
    | server => exact absurd rfl closed
  · apply Stack.session_eq rfl _ rfl rfl
    intro e
    cases e with
    | client => rfl
    | server =>
      show lower.wire ++ queued lower = wires (sents (setup.started env .client).log)
      rw [request]
      exact stream

theorem always_wired {choice : Choice} (patient : choice.kernel.Patient) {s : Stack}
    (opens : opening env setup choice = some s) {trace : List (Label × Stack)}
        (run : Run (TcpSessions.Step env) s trace) :
    Always (fun s => (Wired s ∧ Ended s) ∧ Reaches (Sessions.Step env) (setup.opening env) s.session) s trace := by
  obtain ⟨wired, ended, session⟩ := opening_wired quiet heads patient opens
  have begun : Reaches (Sessions.Step env) (setup.opening env) s.session := by
    rw [session]
    exact .refl _
  apply always_reaches _ trace s ⟨wired, ended⟩ begun run
  intro before label after holds reaches taken
  have inv := reaches.holds fun trace run => always_inv quiet sameHash wellFormed run
  exact Wired.step quiet sameHash wellFormed heads inv holds.1 holds.2 taken

end

end WebsocketClient.TcpSessions
