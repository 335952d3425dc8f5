import Mathlib.Logic.Function.Basic
import WebsocketClient.HandshakeRoundTrip
import WebsocketClient.Library.Runs
import WebsocketClient.SessionFrames

/-! Two `WsTransport`s over one connection. The lower transports carry the bytes of each end to the other
in order, in pieces of any size; calls of the application, the idle timer of TCP, the loss of the
connection and the timer of `close` come at any time in between. -/

namespace WebsocketClient.Sessions
open ByteString Messages Frames Handshake Transports WsTransports WsTransport WsMessages WsChunks WsStreams Library.Runs

inductive End where
  | client
  | server
  deriving DecidableEq, Repr

def End.other : End → End
  | .client => .server
  | .server => .client

theorem End.other_ne (e : End) : e.other ≠ e := by cases e <;> decide

theorem End.other_other (e : End) : e.other.other = e := by cases e <;> rfl

theorem End.cases (e x : End) : x = e ∨ x = e.other := by cases e <;> cases x <;> decide

/-- The transports of the two ends, what is on its way to an end, what its application has sent, and
whether the end was cut off. -/
structure Session where
  ends : End → WsTransport
  flight : End → Bytes
  sent : End → List Message
  broken : End → Bool

def typed (message : Message) : Message := ⟨message.data, if message.type = .string then .string else .binary⟩

def written (t next : WsTransport) : List Sent := (sents next.log).drop (sents t.log).length

namespace Session
variable (env : End → Environment) (s : Session) (e : End)

/-- An end goes on, and what it writes is on its way to the other one. -/
def act (next : WsTransport) : Session :=
  { s with
    ends := Function.update s.ends e next
    flight := Function.update s.flight e.other (s.flight e.other ++ wires (written (s.ends e) next)) }

theorem act_there (next : WsTransport) :
    (s.act e next).flight e.other = s.flight e.other ++ wires (written (s.ends e) next) :=
  Function.update_self ..

theorem act_here (next : WsTransport) : (s.act e next).flight e = s.flight e :=
  Function.update_of_ne e.other_ne.symm ..

@[simp] theorem act_sent (next : WsTransport) : (s.act e next).sent = s.sent := rfl

@[simp] theorem act_broken (next : WsTransport) : (s.act e next).broken = s.broken := rfl

def cutOff : Session := { s with broken := Function.update s.broken e true }

/-- A message is sent when `send` does not throw. -/
def send (message : Message) : Session :=
  match (s.ends e).send (env e) (some message) with
  | (.error _, next) => s.act e next
  | (.ok _, next) => { s.act e next with sent := Function.update s.sent e (s.sent e ++ [message]) }

def receive (count : Nat) : Session :=
  { s with flight := Function.update s.flight e ((s.flight e).drop count) }.act e
    ((s.ends e).incoming (env e) (some ((s.flight e).take count)))

theorem receive_here (count : Nat) : (s.receive env e count).flight e = (s.flight e).drop count := by
  rw [receive, act_here]
  exact Function.update_self ..

theorem receive_there (count : Nat) : (s.receive env e count).flight e.other = s.flight e.other ++
    wires (written (s.ends e) ((s.ends e).incoming (env e) (some ((s.flight e).take count)))) := by
  rw [receive, act_there]
  simp only [Function.update_of_ne e.other_ne]

end Session

inductive Label where
  | send (e : End) (message : Message)
  | close (e : End)
  | idle (e : End)
  | lost (e : End)
  | closeTimeout (e : End)
  | deliver (e : End) (count : Nat)
  deriving DecidableEq, Repr

namespace Label

def own : Label → End
  | .send e _ | .close e | .idle e | .lost e | .closeTimeout e | .deliver e _ => e

def cuts : Label → Bool
  | .lost _ | .closeTimeout _ => true
  | _ => false

end Label

namespace Session
variable (env : End → Environment) (s : Session)

def next : Label → Session
  | .send e message => s.send env e message
  | .close e => s.act e ((s.ends e).close (env e))
  | .idle e => s.act e ((s.ends e).incoming (env e) (some []))
  | .lost e => (s.act e ((s.ends e).incoming (env e) none)).cutOff e
  | .closeTimeout e => (s.act e ((s.ends e).changeState .disconnected)).cutOff e
  | .deliver e count => s.receive env e count

/-- `WebSocket::outgoing` refuses messages once `close` was called. The timer runs when `close` has started it. -/
def Enabled : Label → Prop
  | .send e message => message.data.length < 2 ^ 63 ∧ (s.ends e).mCloseSent = false
  | .closeTimeout e => .scheduleClose ∈ (s.ends e).log
  | .deliver e count => 0 < count ∧ count ≤ (s.flight e).length
  | .close _ | .idle _ | .lost _ => True

instance (label : Label) : Decidable (s.Enabled label) := by
  cases label <;> unfold Enabled <;> infer_instance

def walk : Session → List Label → List (Label × Session)
  | _, [] => []
  | s, label :: rest => (label, s.next env label) :: walk (s.next env label) rest

end Session

def Step (env : End → Environment) (s : Session) (label : Label) (next : Session) : Prop :=
  s.Enabled label ∧ next = s.next env label

def Session.follows (env : End → Environment) : Session → List Label → Bool
  | _, [] => true
  | s, label :: rest => decide (s.Enabled label) && (s.next env label).follows env rest

theorem Session.walk_run (env : End → Environment) (labels : List Label) :
    ∀ s : Session, s.follows env labels = true → Run (Step env) s (s.walk env labels) := by
  induction labels with
  | nil => exact fun _ _ => trivial
  | cons label rest ih =>
    intro s follows
    obtain ⟨enabled, later⟩ := Bool.and_eq_true_iff.mp follows
    exact ⟨⟨of_decide_eq_true enabled, rfl⟩, ih _ later⟩

/-- What the two ends are made with. `mPartialOpcode` is as memory has it. -/
structure Setup where
  host : Bytes
  path : Bytes
  protocols : List Bytes
  random : Key
  maxMessageSize : End → Nat
  maxOutstandingPings : End → Int
  partialOpcode : End → Opcode

namespace Setup
variable (env : End → Environment) (setup : Setup)

def made (e : End) (handshake : WsHandshake) : WsTransport where
  mHandshake := handshake
  mIsClient := e = .client
  mMaxMessageSize := setup.maxMessageSize e
  mMaxOutstandingPings := setup.maxOutstandingPings e
  mBuffer := []
  mPartial := []
  mPartialOpcode := setup.partialOpcode e
  mIgnoreLength := 0
  mOutstandingPings := 0
  mCloseSent := false
  state := .disconnected
  sends := 0
  log := []

/-- Each end after its `start`. -/
def started : End → WsTransport
  | .client => (start (env .client)
      (setup.made .client { mHost := setup.host, mPath := setup.path, mProtocols := setup.protocols }) setup.random).2
  | .server => (start (env .server) (setup.made .server {}) setup.random).2

/-- The session begins with the request on its way. -/
def opening : Session where
  ends := setup.started env
  flight e := wires (sents (setup.started env e.other).log)
  sent _ := []
  broken _ := false

def handshake : WsHandshake :=
  { mHost := setup.host, mPath := setup.path, mProtocols := setup.protocols, mKey := generateKey setup.random }

end Setup

/-! ### What an end does by itself -/

def Overdue (t : WsTransport) : Prop := 0 < t.mMaxOutstandingPings ∧ t.mMaxOutstandingPings < t.mOutstandingPings

/-- What does not touch the received bytes. -/
structure Acts (t next : WsTransport) (more : List Sent) (cutting : Bool) : Prop where
  sents : sents next.log = sents t.log ++ more
  frames : ∀ sent ∈ more, IsFrame sent
  delivered : delivered next.log = delivered t.log
  buffer : next.mBuffer = t.mBuffer
  ignore : next.mIgnoreLength = t.mIgnoreLength
  idle : next.mPartial = t.mPartial
  limit : next.mMaxMessageSize = t.mMaxMessageSize
  maximum : next.mMaxOutstandingPings = t.mMaxOutstandingPings
  client : next.mIsClient = t.mIsClient
  handshake : next.mHandshake = t.mHandshake
  closes : more.countP isClose + t.mCloseSent.toNat = next.mCloseSent.toNat
  pongs : more.countP isPong = 0
  outstanding : next.mOutstandingPings = t.mOutstandingPings + more.countP isPing
  shut : t.state ≠ .connected → more = []
  state : next.state = t.state ∨ (t.state = .connected ∧ next.state = .failed ∧ Overdue next) ∨
    (cutting = true ∧ (next.state = .disconnected ∨ next.state = .failed))
  timely : next.state ≠ .failed → ¬Overdue t → ¬Overdue next

theorem Acts.refl (t : WsTransport) (cutting : Bool) : Acts t t [] cutting where
  sents := (List.append_nil _).symm
  frames := by simp
  delivered := rfl
  buffer := rfl
  ignore := rfl
  idle := rfl
  limit := rfl
  maximum := rfl
  client := rfl
  handshake := rfl
  closes := by simp
  pongs := rfl
  outstanding := (Int.add_zero _).symm
  shut := fun _ => rfl
  state := .inl rfl
  timely := fun _ => id

section
variable {env : Environment}

theorem changeState_acts (t : WsTransport) (state : State) (final : state = .disconnected ∨ state = .failed) :
    Acts t (t.changeState state) [] true := by
  have unsent := changeState_unsent t state
  constructor
  · rw [unsent.sents, List.append_nil]
  · simp
  · exact unsent.delivered
  · unfold changeState
    split <;> rfl
  · unfold changeState
    split <;> rfl
  · exact unsent.idle
  · exact unsent.limit
  · exact unsent.maximum
  · exact unsent.client
  · exact unsent.handshake
  · rw [unsent.flag, List.countP_nil, Nat.zero_add]
  · rfl
  · rw [unsent.outstanding]
    exact (Int.add_zero _).symm
  · exact fun _ => rfl
  · rw [changeState_state]
    exact .inr (.inr ⟨rfl, final⟩)
  · intro _ timely
    rw [Overdue, unsent.maximum, unsent.outstanding]
    exact timely

/-- The transport behind a frame that it has sent, in a state that it has told of. -/
def sentFrame (t : WsTransport) (sent : Sent) (state : State) (effects : List Effect) : WsTransport :=
  { t with
    mOutstandingPings := t.mOutstandingPings + [sent].countP isPing
    state := state
    sends := t.sends + 1
    log := t.log ++ [.outgoing sent] ++ effects }

/-- A frame goes out while the transport is open. A PING that is too many ends the connection. -/
theorem sentFrame_acts (t : WsTransport) {frame : Frame} (key : MaskingKey) (genuine : Genuine frame)
    (opened : t.state = .connected) (other : frame.opcode ≠ .close ∧ frame.opcode ≠ .pong) {state : State}
    {effects : List Effect} (unsent : sents effects = []) (undelivered : delivered effects = [])
    (final : (state = .connected ∧ (¬Overdue t → ¬Overdue (sentFrame t (.frame frame key) state effects))) ∨
      (state = .failed ∧ Overdue (sentFrame t (.frame frame key) state effects))) :
    Acts t (sentFrame t (.frame frame key) state effects) [.frame frame key] false := by
  constructor
  · rw [sentFrame, sents_append, sents_append, unsent, List.append_nil]
    rfl
  · intro sent member
    rw [List.mem_singleton.mp member]
    exact genuine
  · rw [sentFrame, delivered_append, delivered_append, undelivered, List.append_nil]
    exact List.append_nil _
  · rfl
  · rfl
  · rfl
  · rfl
  · rfl
  · rfl
  · rfl
  · simp [hasOpcode, other.1, sentFrame]
  · simp [hasOpcode, other.2]
  · rfl
  · exact fun closed => absurd opened closed
  · rcases final with ⟨still, _⟩ | ⟨failed, overdue⟩
    · exact .inl (still.trans opened.symm)
    · exact .inr (.inl ⟨opened, failed, overdue⟩)
  · intro other
    rcases final with ⟨_, timely⟩ | ⟨failed, _⟩
    · exact timely
    · exact absurd failed other

theorem send_acts (quiet : Quiet env) (t : WsTransport) (message : Message) (fits : message.data.length < 2 ^ 63) :
    (t.state ≠ .connected ∧ (∃ e, (t.send env (some message)).1 = .error e) ∧ (t.send env (some message)).2 = t) ∨
    (t.state = .connected ∧ (∃ result, (t.send env (some message)).1 = .ok result) ∧
      ∃ sent, Acts t (t.send env (some message)).2 [sent] false ∧ carried sent = some (typed message) ∧
        isClose sent = false ∧ isPing sent = false) := by
  unfold WsTransport.send
  by_cases opened : t.state = .connected
  · rw [if_neg (not_not.mpr opened)]
    obtain ⟨result, answer⟩ := quiet t.sends
    let frame : Frame := {
      opcode := if message.type = .string then .textFrame else .binaryFrame
      payload := message.data
      mask := t.mIsClient }
    have kind : frame.opcode = .textFrame ∨ frame.opcode = .binaryFrame := by
      by_cases string : message.type = .string
      · exact .inl (if_pos string)
      · exact .inr (if_neg string)
    have known : Genuine frame := by
      rcases kind with kind | kind <;> exact ⟨by simp [kind], rfl, fits, by simp [kind], by simp [kind]⟩
    have notPing : isPing (.frame frame (env.maskingKey t.sends)) = false := by
      rcases kind with kind | kind <;> simp [hasOpcode, kind]
    have same : (t.sendFrame env frame).2 = sentFrame t (.frame frame (env.maskingKey t.sends)) .connected [] := by
      simp [sendFrame, outgoing, answer, sentFrame, notPing, ← opened]
    have other : frame.opcode ≠ .close ∧ frame.opcode ≠ .pong := by
      rcases kind with kind | kind <;> simp [kind]
    have timely : ¬Overdue t → ¬Overdue (sentFrame t (.frame frame (env.maskingKey t.sends)) .connected []) := by
      simp [Overdue, sentFrame, notPing]
    have acts := sentFrame_acts t (env.maskingKey t.sends) known opened other rfl rfl (.inl ⟨rfl, timely⟩)
    refine .inr ⟨opened, ⟨result, by simp only [sendFrame, outgoing, answer]⟩, _, ?_, ?_, ?_, notPing⟩
    · show Acts t (t.sendFrame env frame).2 _ _
      rw [same]
      exact acts
    · by_cases string : message.type = .string <;> simp [carried, typed, frame, string, messageType]
    · rcases kind with kind | kind <;> simp [hasOpcode, kind]
  · rw [if_pos opened]
    exact .inl ⟨opened, ⟨_, rfl⟩, rfl⟩

theorem sendPing_acts (quiet : Quiet env) (t : WsTransport) (opened : t.state = .connected) :
    ∃ sent, (t.sendPing env).1 = .ok () ∧ Acts t (t.sendPing env).2 [sent] false ∧ carried sent = none ∧
      isPing sent = true := by
  obtain ⟨result, answer⟩ := quiet t.sends
  let ping : Frame := { opcode := .ping, payload := [0, 0, 0, 0], mask := t.mIsClient }
  let sent : Sent := .frame ping (env.maskingKey t.sends)
  have genuine : Genuine ping := ⟨by simp [ping], rfl, by simp [ping], fun _ => rfl, by simp [ping]⟩
  have other : ping.opcode ≠ .close ∧ ping.opcode ≠ .pong := by simp [ping]
  have split : t.sendPing env =
      (.ok (), addOutstandingPing { t with sends := t.sends + 1, log := t.log ++ [.outgoing sent] }) := by
    simp only [sendPing, sendFrame, outgoing, answer, ping, sent]
  refine ⟨sent, by rw [split], ?_, rfl, rfl⟩
  rw [split]
  by_cases overdue : Overdue (sentFrame t sent .failed [.stateChange .failed])
  · have same : addOutstandingPing { t with sends := t.sends + 1, log := t.log ++ [.outgoing sent] } =
        sentFrame t sent .failed [.stateChange .failed] := by
      have late : 0 < t.mMaxOutstandingPings ∧ t.mMaxOutstandingPings < t.mOutstandingPings + 1 := overdue
      simp only [addOutstandingPing, if_pos late, changeState, opened, reduceCtorEq, ↓reduceIte]
      rfl
    rw [same]
    exact sentFrame_acts t _ genuine opened other rfl rfl (.inr ⟨rfl, overdue⟩)
  · have same : addOutstandingPing { t with sends := t.sends + 1, log := t.log ++ [.outgoing sent] } =
        sentFrame t sent .connected [] := by
      have timely : ¬(0 < t.mMaxOutstandingPings ∧ t.mMaxOutstandingPings < t.mOutstandingPings + 1) := overdue
      simp only [addOutstandingPing, if_neg timely, sentFrame, List.append_nil, ← opened]
      rfl
    rw [same]
    exact sentFrame_acts t _ genuine opened other rfl rfl (.inl ⟨rfl, fun _ => overdue⟩)

theorem recv_none_acts (t : WsTransport) : Acts t (t.recv none) [] true where
  sents := by
    rw [recv, note, sents_append]
    rfl
  frames := by simp
  delivered := by
    rw [recv, note, delivered_append]
    exact List.append_nil _
  buffer := rfl
  ignore := rfl
  idle := rfl
  limit := rfl
  maximum := rfl
  client := rfl
  handshake := rfl
  closes := Nat.zero_add _
  pongs := rfl
  outstanding := (Int.add_zero _).symm
  shut := fun _ => rfl
  state := .inl rfl
  timely := fun _ => id

theorem lost_acts (t : WsTransport) : Acts t (t.incoming env none) [] true := by
  by_cases closed : t.state ≠ .connecting ∧ t.state ≠ .connected
  · rw [incoming, if_pos closed]
    exact .refl t true
  · rw [incoming, if_neg closed]
    show Acts t t.disconnect [] true
    unfold disconnect
    split
    · have gone := changeState_acts t .disconnected (.inl rfl)
      have noted := recv_none_acts (t.changeState .disconnected)
      have state : ((t.changeState .disconnected).recv none).state = .disconnected := changeState_state _ _
      refine ⟨?_, gone.frames, noted.delivered.trans gone.delivered, gone.buffer, gone.ignore, gone.idle, gone.limit,
        gone.maximum, gone.client, gone.handshake, gone.closes, gone.pongs, gone.outstanding, gone.shut, ?_, ?_⟩
      · rw [noted.sents, gone.sents, List.append_nil, List.append_nil]
      · exact .inr (.inr ⟨rfl, .inl state⟩)
      · exact fun _ => gone.timely (by rw [changeState_state]; decide)
    · exact changeState_acts t .failed (.inr rfl)

theorem close_acts (quiet : Quiet env) (t : WsTransport) (cutting : Bool) :
    ∃ more, Acts t (t.close env) more cutting ∧ more.filterMap carried = [] ∧ more.countP isPing = 0 := by
  rw [close_eq quiet]
  split
  · exact ⟨[], .refl t cutting, rfl, rfl⟩
  · rename_i fresh
    obtain ⟨opened, unsent⟩ := not_or.mp fresh
    have opened : t.state = .connected := not_not.mp opened
    refine ⟨[.frame { opcode := .close, payload := [], mask := t.mIsClient } (env.maskingKey t.sends)], ?_, rfl, rfl⟩
    constructor
    · rw [sents_append]
      rfl
    · intro sent member
      rw [List.mem_singleton.mp member]
      exact ⟨by simp, rfl, by simp, by simp, by simp⟩
    · rw [delivered_append]
      exact List.append_nil _
    · rfl
    · rfl
    · rfl
    · rfl
    · rfl
    · rfl
    · rfl
    · simp [hasOpcode, unsent]
    · rfl
    · exact (Int.add_zero _).symm
    · exact fun closed => absurd opened closed
    · exact .inl rfl
    · exact fun _ => id

end

end WebsocketClient.Sessions
