import Mathlib.Data.List.Induction
import WebsocketClient.FrameLoop
import WebsocketClient.Library.Runs

/-! The messages that any sequence of frames makes, well formed or not. A message belongs to the data frame
that starts it, and ends with a final frame or where the next data frame interrupts it. -/

namespace WebsocketClient.MessageAssemblies
open ByteString Messages Frames Transports WsTransports WsTransport WsMessages FrameLoops Library.Runs

/-! ### What the frames say -/

def starts (frame : Frame) : Bool := frame.opcode = .textFrame ∨ frame.opcode = .binaryFrame

def cut (limit : Nat) (type : MessageType) (bytes : Bytes) : Message := ⟨bytes.take limit, type⟩

/-- A message in progress: the number of frames in front of its first one, its type and its bytes. -/
structure Current where
  start : Nat
  type : MessageType
  bytes : Bytes
  deriving DecidableEq, Repr

/-- The frames handled so far, the message in progress, and the messages that have ended. -/
structure Assembly where
  count : Nat
  current : Option Current
  ended : List (Nat × Message)
  deriving DecidableEq, Repr

def Current.message (limit : Nat) (c : Current) : Nat × Message := (c.start, cut limit c.type c.bytes)

def Current.extend (c : Current) (payload : Bytes) : Current := { c with bytes := c.bytes ++ payload }

namespace Assembly
variable (limit : Nat) (a : Assembly) (frame : Frame)

def first : Current := ⟨a.count, messageType frame.opcode, frame.payload⟩

/-- The messages that a frame brings to an end. A data frame ends the one in progress. -/
def ends : List (Nat × Message) :=
  if starts frame then
    (a.current.map (Current.message limit)).toList ++ (if frame.fin then [(a.first frame).message limit] else [])
  else if frame.opcode = .continuation ∧ frame.fin then
    (a.current.map (fun c => (c.extend frame.payload).message limit)).toList
  else []

def next : Option Current :=
  if starts frame then if frame.fin then none else some (a.first frame)
  else if frame.opcode = .continuation then
    if frame.fin then none else a.current.map (fun c => c.extend frame.payload)
  else a.current

def handle : Assembly where
  count := a.count + 1
  current := a.next frame
  ended := a.ended ++ a.ends limit frame

end Assembly

def assembled (limit : Nat) (frames : List Frame) : Assembly :=
  frames.foldl (Assembly.handle limit) ⟨0, none, []⟩

def continuations (frames : List Frame) : Bytes :=
  (frames.filter (fun frame => frame.opcode = .continuation)).flatMap Frame.payload

/-- The message of the data frame at a position and of the continuations behind it, up to some frame in front of
the next data frame. -/
def Formed (limit : Nat) (frames : List Frame) (start : Nat) (message : Message) : Prop :=
  ∃ before first between after, frames = before ++ first :: (between ++ after) ∧ before.length = start ∧
    starts first = true ∧ (∀ frame ∈ between, starts frame = false) ∧
    message = cut limit (messageType first.opcode) (first.payload ++ continuations between)

/-! ### The code -/

/-- The source reads `mPartialOpcode`: for a message that it interrupts, and for one that a continuation ends. -/
def readsOpcode (t : WsTransport) (frame : Frame) : Bool :=
  if starts frame then t.mPartial ≠ [] else frame.opcode = .continuation ∧ frame.fin

/-- A transport with the frames it has handled, the messages passed up for a continuation outside of any message,
and whether `mPartialOpcode` was read before it was set. -/
structure Handling where
  transport : WsTransport
  frames : List Frame
  stray : List Message
  unset : Bool

variable (env : Environment)

def Handling.current (s : Handling) : Option Current :=
  (assembled s.transport.mMaxMessageSize s.frames).current

def Handling.handle (s : Handling) (frame : Frame) : Handling :=
  let next := (s.transport.recvFrame env frame).2
  { transport := next
    frames := s.frames ++ [frame]
    stray :=
      if frame.opcode = .continuation ∧ s.current = none then
        s.stray ++ (delivered next.log).drop (delivered s.transport.log).length
      else s.stray
    unset := s.unset || (readsOpcode s.transport frame && !s.frames.any starts) }

/-- The run of `recvFrame` over a sequence of frames. -/
def Handling.walk (s : Handling) : List Frame → List (Frame × Handling)
  | [] => []
  | frame :: rest => (frame, s.handle env frame) :: (s.handle env frame).walk rest

def begin (t : WsTransport) : Handling := ⟨t, [], [], false⟩

/-- Every message that was passed up is one of those that have ended, each passed up once and in their order. -/
structure Attributed (s : Handling) : Prop where
  once : List.Sublist (delivered s.transport.log)
    ((assembled s.transport.mMaxMessageSize s.frames).ended.map Prod.snd)
  formed : ∃ messages : List (Nat × Message), delivered s.transport.log = messages.map Prod.snd ∧
    messages.Pairwise (fun one other => one.1 < other.1) ∧
    ∀ message ∈ messages, Formed s.transport.mMaxMessageSize s.frames message.1 message.2
  stray : s.stray = []
  unset : s.unset = false

/-- No continuation ends a message that was not started, and what stray continuations left in `mPartial` is not
there when a data frame comes. -/
def InMessage (s : Handling) (frame : Frame) : Prop :=
  s.current = none → (starts frame = true → s.transport.mPartial = []) ∧
    ¬(frame.opcode = .continuation ∧ frame.fin = true)

/-! ### The frames of a message -/

section
variable {limit : Nat} {frames : List Frame} {c : Current}

/-- What a message in progress is made of. -/
def InProgress (frames : List Frame) (c : Current) : Prop :=
  ∃ before first between, frames = before ++ first :: between ∧ before.length = c.start ∧ starts first = true ∧
    (∀ frame ∈ between, starts frame = false) ∧ c.type = messageType first.opcode ∧
    c.bytes = first.payload ++ continuations between

theorem InProgress.formed (progress : InProgress frames c) (limit : Nat) (after : List Frame) :
    Formed limit (frames ++ after) c.start (c.message limit).2 := by
  obtain ⟨before, first, between, rfl, start, starting, none, type, bytes⟩ := progress
  refine ⟨before, first, between, after, ?_, start, starting, none, ?_⟩
  · rw [List.append_assoc, List.cons_append]
  · rw [Current.message, type, bytes]

theorem Formed.append {start : Nat} {message : Message} (formed : Formed limit frames start message)
    (more : List Frame) : Formed limit (frames ++ more) start message := by
  obtain ⟨before, first, between, after, rfl, rest⟩ := formed
  refine ⟨before, first, between, after ++ more, ?_, rest⟩
  simp only [List.append_assoc, List.cons_append]

theorem InProgress.snoc (progress : InProgress frames c) {frame : Frame} (other : starts frame = false) :
    InProgress (frames ++ [frame]) (c.extend (continuations [frame])) := by
  obtain ⟨before, first, between, rfl, start, starting, none, type, bytes⟩ := progress
  refine ⟨before, first, between ++ [frame], ?_, start, starting, ?_, type, ?_⟩
  · rw [List.append_assoc, List.cons_append]
  · intro member inside
    rcases List.mem_append.mp inside with earlier | last
    · exact none member earlier
    · rw [List.mem_singleton.mp last]
      exact other
  · simp only [Current.extend, bytes, continuations, List.filter_append, List.flatMap_append, List.append_assoc]

theorem inProgress_first {frame : Frame} (starting : starts frame = true) :
    InProgress (frames ++ [frame]) ⟨frames.length, messageType frame.opcode, frame.payload⟩ :=
  ⟨frames, frame, [], rfl, rfl, starting, fun _ member => absurd member List.not_mem_nil, rfl,
    (List.append_nil _).symm⟩

theorem assembled_snoc (limit : Nat) (frames : List Frame) (frame : Frame) :
    assembled limit (frames ++ [frame]) = (assembled limit frames).handle limit frame := by
  rw [assembled, List.foldl_append]
  rfl

/-- The messages that have ended are made of different data frames, in their order. -/
structure Grouped (limit : Nat) (frames : List Frame) (a : Assembly) : Prop where
  count : a.count = frames.length
  current : ∀ c, a.current = some c → InProgress frames c ∧ ∀ message ∈ a.ended, message.1 < c.start
  ended : ∀ message ∈ a.ended, Formed limit frames message.1 message.2 ∧ message.1 < frames.length
  increasing : a.ended.Pairwise (fun one other => one.1 < other.1)

theorem InProgress.start_lt (progress : InProgress frames c) : c.start < frames.length := by
  obtain ⟨before, first, between, rfl, start, _⟩ := progress
  rw [List.length_append, List.length_cons]
  omega

theorem Grouped.close {a : Assembly} (grouped : Grouped limit frames a) (frame : Frame)
    (more : List (Nat × Message))
    (formed : ∀ message ∈ more, Formed limit (frames ++ [frame]) message.1 message.2 ∧
      message.1 < (frames ++ [frame]).length)
    (increasing : more.Pairwise (fun one other => one.1 < other.1))
    (behind : ∀ one ∈ a.ended, ∀ other ∈ more, one.1 < other.1) :
    (∀ message ∈ a.ended ++ more, Formed limit (frames ++ [frame]) message.1 message.2 ∧
      message.1 < (frames ++ [frame]).length) ∧
    (a.ended ++ more).Pairwise (fun one other => one.1 < other.1) := by
  refine ⟨?_, List.pairwise_append.mpr ⟨grouped.increasing, increasing, behind⟩⟩
  intro message member
  rcases List.mem_append.mp member with earlier | now
  · obtain ⟨before, inside⟩ := grouped.ended message earlier
    refine ⟨before.append [frame], ?_⟩
    rw [List.length_append]
    omega
  · exact formed message now

theorem extend_other (c : Current) {frame : Frame} (other : frame.opcode ≠ .continuation) :
    c.extend (continuations [frame]) = c := by
  simp [Current.extend, continuations, other]

theorem continuations_one {frame : Frame} (kind : frame.opcode = .continuation) :
    continuations [frame] = frame.payload := by
  simp [continuations, kind]

theorem Grouped.start {a : Assembly} (grouped : Grouped limit frames a) {frame : Frame}
    (starting : starts frame = true) : Grouped limit (frames ++ [frame]) (a.handle limit frame) := by
  have first : a.first frame = ⟨frames.length, messageType frame.opcode, frame.payload⟩ := by
    rw [Assembly.first, grouped.count]
  have begun : InProgress (frames ++ [frame]) (a.first frame) := first ▸ inProgress_first starting
  have position : ((a.first frame).message limit).1 = frames.length := by rw [first, Current.message]
  have longer : (frames ++ [frame]).length = frames.length + 1 := List.length_append
  -- the ended messages are those of the old frames, then the interrupted one
  have interrupted : ∀ message ∈ (a.current.map (Current.message limit)).toList,
      ∃ c, a.current = some c ∧ message = c.message limit := by
    intro message member
    obtain ⟨c, found, same⟩ := Option.map_eq_some_iff.mp (Option.mem_toList.mp member)
    exact ⟨c, found, same.symm⟩
  have finished : ∀ message ∈ (if frame.fin then [(a.first frame).message limit] else []),
      message = (a.first frame).message limit := by
    intro message member
    split_ifs at member
    · exact List.mem_singleton.mp member
    · exact absurd member List.not_mem_nil
  have closes := grouped.close frame (a.ends limit frame) (by
    intro message member
    rw [Assembly.ends, if_pos starting, List.mem_append] at member
    rcases member with old | new
    · obtain ⟨c, found, rfl⟩ := interrupted message old
      have progress := (grouped.current c found).1
      have inside : c.start < frames.length := progress.start_lt
      exact ⟨progress.formed limit [frame], by rw [longer]; exact Nat.lt_succ_of_lt inside⟩
    · rw [finished message new]
      have formed := begun.formed limit []
      rw [List.append_nil] at formed
      exact ⟨formed, begun.start_lt⟩) (by
    rw [Assembly.ends, if_pos starting, List.pairwise_append]
    refine ⟨?_, ?_, ?_⟩
    · cases a.current <;> simp
    · split_ifs <;> simp
    · intro one old other new
      obtain ⟨c, found, rfl⟩ := interrupted one old
      rw [finished other new, position]
      exact (grouped.current c found).1.start_lt) (by
    intro one ended other member
    rw [Assembly.ends, if_pos starting, List.mem_append] at member
    rcases member with old | new
    · obtain ⟨c, found, rfl⟩ := interrupted other old
      exact (grouped.current c found).2 one ended
    · rw [finished other new, position]
      exact (grouped.ended one ended).2)
  refine ⟨by rw [longer, ← grouped.count]; rfl, ?_, closes.1, closes.2⟩
  intro c found
  rw [Assembly.handle, Assembly.next, if_pos starting] at found
  split_ifs at found with fin
  have same : a.first frame = c := Option.some.inj found
  rw [← same]
  refine ⟨begun, ?_⟩
  intro message member
  have here : (a.first frame).start = frames.length := position
  rw [here]
  rcases List.mem_append.mp member with earlier | now
  · exact (grouped.ended message earlier).2
  · rw [Assembly.ends, if_pos starting, if_neg fin, List.append_nil] at now
    obtain ⟨old, found, rfl⟩ := interrupted message now
    exact (grouped.current old found).1.start_lt

theorem Grouped.follow {a : Assembly} (grouped : Grouped limit frames a) {frame : Frame}
    (other : starts frame = false) : Grouped limit (frames ++ [frame]) (a.handle limit frame) := by
  have longer : (frames ++ [frame]).length = frames.length + 1 := List.length_append
  have extended (c : Current) (found : a.current = some c) :
      InProgress (frames ++ [frame]) (c.extend (continuations [frame])) := (grouped.current c found).1.snoc other
  have ends : ∀ message ∈ a.ends limit frame, ∃ c, a.current = some c ∧
      message = (c.extend (continuations [frame])).message limit := by
    intro message member
    rw [Assembly.ends, if_neg (by rw [other]; decide)] at member
    split_ifs at member with last
    · obtain ⟨c, found, same⟩ := Option.map_eq_some_iff.mp (Option.mem_toList.mp member)
      exact ⟨c, found, by rw [← same, continuations_one last.1]⟩
    · exact absurd member List.not_mem_nil
  have single : (a.ends limit frame).Pairwise (fun one other => one.1 < other.1) := by
    rw [Assembly.ends, if_neg (by rw [other]; decide)]
    split_ifs
    · cases a.current <;> simp
    · exact .nil
  have closes := grouped.close frame (a.ends limit frame) (by
    intro message member
    obtain ⟨c, found, rfl⟩ := ends message member
    have formed := (extended c found).formed limit []
    rw [List.append_nil] at formed
    exact ⟨formed, (extended c found).start_lt⟩) single (by
    intro one ended other member
    obtain ⟨c, found, rfl⟩ := ends other member
    exact (grouped.current c found).2 one ended)
  refine ⟨by rw [longer, ← grouped.count]; rfl, ?_, closes.1, closes.2⟩
  intro c found
  have before : ∃ old, a.current = some old ∧ c = old.extend (continuations [frame]) ∧
      a.ends limit frame = [] := by
    rw [Assembly.handle, Assembly.next, if_neg (by rw [other]; decide)] at found
    split_ifs at found with kind fin
    · obtain ⟨old, current, same⟩ := Option.map_eq_some_iff.mp found
      refine ⟨old, current, by rw [← same, continuations_one kind], ?_⟩
      rw [Assembly.ends, if_neg (by rw [other]; decide), if_neg (fun last => fin last.2)]
    · refine ⟨c, found, (extend_other c kind).symm, ?_⟩
      rw [Assembly.ends, if_neg (by rw [other]; decide), if_neg (fun last => kind last.1)]
  obtain ⟨old, current, rfl, none⟩ := before
  refine ⟨extended old current, ?_⟩
  intro message member
  rw [Assembly.handle, none, List.append_nil] at member
  exact (grouped.current old current).2 message member

theorem assembled_grouped (limit : Nat) (frames : List Frame) : Grouped limit frames (assembled limit frames) := by
  induction frames using List.reverseRecOn with
  | nil =>
    exact ⟨rfl, fun _ found => absurd found (by simp [assembled]), fun _ member => absurd member List.not_mem_nil, .nil⟩
  | append_singleton frames frame ih =>
    rw [assembled_snoc]
    cases starting : starts frame with
    | true => exact ih.start starting
    | false => exact ih.follow starting

theorem formed_of_once {messages : List Message}
    (once : List.Sublist messages ((assembled limit frames).ended.map Prod.snd)) :
    ∃ chosen : List (Nat × Message), messages = chosen.map Prod.snd ∧
      chosen.Pairwise (fun one other => one.1 < other.1) ∧
      ∀ message ∈ chosen, Formed limit frames message.1 message.2 := by
  obtain ⟨chosen, inside, same⟩ := List.sublist_map_iff.mp once
  have grouped := assembled_grouped limit frames
  exact ⟨chosen, same, grouped.increasing.sublist inside,
    fun message member => (grouped.ended message (inside.subset member)).1⟩

end

/-! ### What `recvFrame` passes up -/

section
variable {env : Environment} {t : WsTransport} {frame : Frame}

/-- The messages that a frame makes `recvFrame` pass up. -/
def passed (t : WsTransport) (frame : Frame) : List Message :=
  if starts frame then
    (if t.mPartial = [] then [] else [⟨t.mPartial, messageType t.mPartialOpcode⟩]) ++
      (if frame.fin then [cut t.mMaxMessageSize (messageType frame.opcode) frame.payload] else [])
  else if frame.opcode = .continuation ∧ frame.fin then
    [cut t.mMaxMessageSize (messageType t.mPartialOpcode) (t.mPartial ++ frame.payload)]
  else []

/-- What it leaves in `mPartial`. -/
def kept (t : WsTransport) (frame : Frame) : Bytes :=
  if starts frame then if frame.fin then [] else frame.payload.take t.mMaxMessageSize
  else if frame.opcode = .continuation then
    if frame.fin then [] else (t.mPartial ++ frame.payload).take t.mMaxMessageSize
  else t.mPartial

/-- What a call of `recvFrame` does to the message that is collected. -/
structure Collects (t : WsTransport) (frame : Frame) (next : WsTransport) : Prop where
  delivered : WsMessages.delivered next.log = WsMessages.delivered t.log ++ passed t frame
  pending : next.mPartial = kept t frame
  opcode : next.mPartialOpcode = if starts frame then frame.opcode else t.mPartialOpcode
  limit : next.mMaxMessageSize = t.mMaxMessageSize

theorem starts_iff : starts frame = true ↔ frame.opcode = .textFrame ∨ frame.opcode = .binaryFrame := by
  simp [starts]

theorem recvData_collects (starting : starts frame = true) : Collects t frame (t.recvData frame) := by
  by_cases empty : t.mPartial = []
  · cases last : frame.fin <;> constructor <;>
      simp [recvData, passed, kept, starting, empty, last, recv, note, WsMessages.delivered, cut]
  · cases last : frame.fin <;> constructor <;>
      simp [recvData, passed, kept, starting, empty, last, recv, note, WsMessages.delivered, cut]

theorem recvContinuation_collects (kind : frame.opcode = .continuation) :
    Collects t frame (t.recvContinuation frame) := by
  have other : starts frame = false := by simp [starts, kind]
  cases last : frame.fin <;> constructor <;>
    simp [recvContinuation, passed, kept, other, kind, last, recv, note, WsMessages.delivered, cut]

theorem recvFrame_collects (env : Environment) (t : WsTransport) (frame : Frame) :
    Collects t frame (t.recvFrame env frame).2 := by
  cases starting : starts frame with
  | true =>
    have called : (t.recvFrame env frame).2 = t.recvData frame := by
      rcases starts_iff.mp starting with kind | kind <;> simp only [recvFrame, kind]
    rw [called]
    exact recvData_collects starting
  | false =>
    by_cases kind : frame.opcode = .continuation
    · have called : (t.recvFrame env frame).2 = t.recvContinuation frame := by simp only [recvFrame, kind]
      rw [called]
      exact recvContinuation_collects kind
    · have data : frame.opcode ≠ .textFrame ∧ frame.opcode ≠ .binaryFrame := by
        rw [← not_or, ← starts_iff, starting]
        decide
      obtain ⟨effects, aside, quiet, _⟩ := recvFrame_aside env t frame ⟨data.1, data.2, kind⟩
      obtain ⟨_, _, _, _, same⟩ := aside
      rw [same]
      constructor <;> simp [passed, kept, starting, kind, quiet]

end

/-! ### Runs -/

section
variable {env : Environment} {s : Handling} {frame : Frame}

def nonempty (message : Message) : Bool := message.data ≠ []

/-- What holds as long as no continuation was read outside of a message and then mattered. -/
structure Inv (s : Handling) : Prop where
  once : List.Sublist (delivered s.transport.log)
    ((assembled s.transport.mMaxMessageSize s.frames).ended.map Prod.snd)
  /-- Only empty messages are left out. -/
  full : (delivered s.transport.log).filter nonempty =
    ((assembled s.transport.mMaxMessageSize s.frames).ended.map Prod.snd).filter nonempty
  collected : ∀ c, s.current = some c → s.transport.mPartial = c.bytes.take s.transport.mMaxMessageSize ∧
    messageType s.transport.mPartialOpcode = c.type
  started : s.current ≠ none → s.frames.any starts = true
  stray : s.stray = []
  unset : s.unset = false

theorem Inv.attributed (inv : Inv s) : Attributed s :=
  ⟨inv.once, formed_of_once inv.once, inv.stray, inv.unset⟩

def Handling.ends (s : Handling) (frame : Frame) : List Message :=
  ((assembled s.transport.mMaxMessageSize s.frames).ends s.transport.mMaxMessageSize frame).map Prod.snd

theorem handle_delivered : delivered (s.handle env frame).transport.log =
    delivered s.transport.log ++ passed s.transport frame :=
  (recvFrame_collects env s.transport frame).delivered

theorem handle_assembled : assembled (s.handle env frame).transport.mMaxMessageSize (s.handle env frame).frames =
    (assembled s.transport.mMaxMessageSize s.frames).handle s.transport.mMaxMessageSize frame := by
  have limit : (s.handle env frame).transport.mMaxMessageSize = s.transport.mMaxMessageSize :=
    (recvFrame_collects env s.transport frame).limit
  rw [limit]
  exact assembled_snoc _ _ _

theorem handle_ended :
    (assembled (s.handle env frame).transport.mMaxMessageSize (s.handle env frame).frames).ended.map Prod.snd =
      (assembled s.transport.mMaxMessageSize s.frames).ended.map Prod.snd ++ s.ends frame := by
  rw [handle_assembled]
  exact List.map_append

theorem handle_current : (s.handle env frame).current =
    (assembled s.transport.mMaxMessageSize s.frames).next frame := by
  unfold Handling.current
  rw [handle_assembled]
  rfl

theorem ends_start (starting : starts frame = true) : s.ends frame =
    (s.current.map (fun c => cut s.transport.mMaxMessageSize c.type c.bytes)).toList ++
      (if frame.fin then [cut s.transport.mMaxMessageSize (messageType frame.opcode) frame.payload] else []) := by
  rw [Handling.ends, Assembly.ends, if_pos starting, List.map_append]
  unfold Handling.current
  cases (assembled s.transport.mMaxMessageSize s.frames).current <;> cases frame.fin <;> rfl

theorem ends_last (other : starts frame = false) (last : frame.opcode = .continuation ∧ frame.fin = true) :
    s.ends frame =
      (s.current.map (fun c => cut s.transport.mMaxMessageSize c.type (c.bytes ++ frame.payload))).toList := by
  rw [Handling.ends, Assembly.ends, if_neg (by rw [other]; decide), if_pos last]
  unfold Handling.current
  cases (assembled s.transport.mMaxMessageSize s.frames).current <;> rfl

theorem ends_other (other : starts frame = false) (goesOn : ¬(frame.opcode = .continuation ∧ frame.fin = true)) :
    s.ends frame = [] ∧ passed s.transport frame = [] := by
  have none : ¬starts frame = true := by rw [other]; decide
  constructor
  · rw [Handling.ends, Assembly.ends, if_neg none, if_neg goesOn]
    rfl
  · rw [passed, if_neg none, if_neg goesOn]

theorem starts_not_continuation (kind : frame.opcode = .continuation) : starts frame = false := by
  simp [starts, kind]

theorem cut_take (limit : Nat) (type : MessageType) (bytes payload : Bytes) :
    cut limit type (bytes.take limit ++ payload) = cut limit type (bytes ++ payload) := by
  have wide := take_append_take bytes payload limit (limit + payload.length) (Nat.le_add_right _ _)
  rw [List.take_of_length_le (Nat.le_add_left _ _)] at wide
  rw [cut, cut, wide]

/-- The code passes up what ends, but for an interrupted message without a byte. -/
theorem passed_ends (inv : Inv s) (inMessage : InMessage s frame) :
    List.Sublist (passed s.transport frame) (s.ends frame) ∧
      (passed s.transport frame).filter nonempty = (s.ends frame).filter nonempty := by
  cases starting : starts frame with
  | true =>
    rw [ends_start starting, passed, if_pos starting]
    cases current : s.current with
    | none =>
      have empty := (inMessage current).1 starting
      rw [if_pos empty]
      exact ⟨List.Sublist.refl _, rfl⟩
    | some c =>
      obtain ⟨bytes, type⟩ := inv.collected c current
      by_cases empty : s.transport.mPartial = []
      · have lost : nonempty (cut s.transport.mMaxMessageSize c.type c.bytes) = false := by
          simp [nonempty, cut, ← bytes, empty]
        rw [if_pos empty, List.nil_append]
        refine ⟨List.sublist_append_right _ _, ?_⟩
        simp [lost]
      · rw [if_neg empty, type, bytes]
        exact ⟨List.Sublist.refl _, rfl⟩
  | false =>
    by_cases last : frame.opcode = .continuation ∧ frame.fin = true
    · rw [ends_last starting last, passed, if_neg (by rw [starting]; decide), if_pos last]
      cases current : s.current with
      | none => exact absurd last (inMessage current).2
      | some c =>
        obtain ⟨bytes, type⟩ := inv.collected c current
        rw [bytes, type, cut_take]
        exact ⟨List.Sublist.refl _, rfl⟩
    · obtain ⟨none, silent⟩ := ends_other (s := s) starting last
      rw [none, silent]
      exact ⟨List.Sublist.refl _, rfl⟩

theorem reads_started (inv : Inv s) (inMessage : InMessage s frame)
    (reads : readsOpcode s.transport frame = true) : s.frames.any starts = true := by
  apply inv.started
  intro current
  obtain ⟨empty, goesOn⟩ := inMessage current
  unfold readsOpcode at reads
  split_ifs at reads with starting
  · exact absurd (empty starting) (of_decide_eq_true reads)
  · exact goesOn (of_decide_eq_true reads)

theorem handle_collected (inv : Inv s) (c : Current)
    (found : (assembled s.transport.mMaxMessageSize s.frames).next frame = some c) :
    kept s.transport frame = c.bytes.take s.transport.mMaxMessageSize ∧
      messageType (if starts frame then frame.opcode else s.transport.mPartialOpcode) = c.type := by
  rw [Assembly.next] at found
  unfold kept
  split_ifs at found ⊢ with starting last kind fin
  · rw [← Option.some.inj found]
    exact ⟨rfl, rfl⟩
  · obtain ⟨old, current, same⟩ := Option.map_eq_some_iff.mp found
    obtain ⟨bytes, type⟩ := inv.collected old current
    have joined := cut_take s.transport.mMaxMessageSize old.type old.bytes frame.payload
    rw [← same, bytes]
    exact ⟨congrArg Message.data joined, type⟩
  · exact inv.collected c found

theorem handle_started (inv : Inv s)
    (progress : (assembled s.transport.mMaxMessageSize s.frames).next frame ≠ none) :
    (s.frames ++ [frame]).any starts = true := by
  rw [List.any_append]
  cases starting : starts frame with
  | true => simp [starting]
  | false =>
    have before : s.current ≠ none := by
      intro none
      apply progress
      rw [Assembly.next, if_neg (by rw [starting]; decide)]
      unfold Handling.current at none
      rw [none]
      split_ifs <;> rfl
    rw [inv.started before]
    rfl

theorem handle_inv (inv : Inv s) (inMessage : InMessage s frame) : Inv (s.handle env frame) := by
  obtain ⟨inside, same⟩ := passed_ends inv inMessage
  have collects := recvFrame_collects env s.transport frame
  refine ⟨?_, ?_, ?_, ?_, ?_, ?_⟩
  · rw [handle_delivered, handle_ended]
    exact inv.once.append inside
  · rw [handle_delivered, handle_ended, List.filter_append, List.filter_append, inv.full, same]
  · intro c found
    rw [handle_current] at found
    obtain ⟨bytes, type⟩ := handle_collected inv c found
    have pending : (s.handle env frame).transport.mPartial = kept s.transport frame := collects.pending
    have opcode : (s.handle env frame).transport.mPartialOpcode =
        if starts frame then frame.opcode else s.transport.mPartialOpcode := collects.opcode
    have limit : (s.handle env frame).transport.mMaxMessageSize = s.transport.mMaxMessageSize := collects.limit
    rw [pending, opcode, limit]
    exact ⟨bytes, type⟩
  · intro progress
    rw [handle_current] at progress
    exact handle_started inv progress
  · unfold Handling.handle
    simp only
    split_ifs with outside
    · have goesOn := (inMessage outside.2).2
      have silent := (ends_other (s := s) (starts_not_continuation outside.1) goesOn).2
      rw [collects.delivered, silent, List.append_nil, List.drop_length, List.append_nil]
      exact inv.stray
    · exact inv.stray
  · unfold Handling.handle
    simp only [inv.unset, Bool.false_or]
    cases reads : readsOpcode s.transport frame with
    | false => rfl
    | true => rw [reads_started inv inMessage reads]; rfl

theorem handle_breaks (inv : Inv s) (against : ¬InMessage s frame) : ¬Attributed (s.handle env frame) := by
  intro attributed
  unfold InMessage at against
  push Not at against
  obtain ⟨current, against⟩ := against
  have collects := recvFrame_collects env s.transport frame
  by_cases left : starts frame = true → s.transport.mPartial = []
  · -- a final continuation outside of a message
    obtain ⟨kind, last⟩ := against left
    have other := starts_not_continuation kind
    have told := attributed.stray
    unfold Handling.handle at told
    simp only [if_pos (And.intro kind current), collects.delivered, List.drop_left, inv.stray, List.nil_append] at told
    rw [passed, if_neg (by rw [other]; decide), if_pos ⟨kind, last⟩] at told
    exact absurd told (List.cons_ne_nil _ _)
  · -- a data frame passes up what stray continuations left
    push Not at left
    obtain ⟨starting, bytes⟩ := left
    have once := (attributed.once.filter nonempty).length_le
    have solid : nonempty ⟨s.transport.mPartial, messageType s.transport.mPartialOpcode⟩ = true :=
      decide_eq_true bytes
    rw [handle_delivered, handle_ended, ends_start starting, current, passed, if_pos starting, if_neg bytes] at once
    simp only [List.filter_append, List.length_append, inv.full, Option.map_none, Option.toList_none,
      List.filter_nil, List.filter_cons, solid, if_true, List.length_cons, List.length_nil] at once
    omega

theorem begin_inv (t : WsTransport) (silent : delivered t.log = []) : Inv (begin t) :=
  ⟨by rw [begin, silent]; exact List.nil_sublist _, by rw [begin, silent]; rfl,
    fun _ found => absurd found (by simp [begin, Handling.current, assembled]), fun none => absurd rfl none, rfl, rfl⟩

end

/-- One call of `recvFrame`. -/
def Step (env : Environment) (s : Handling) (frame : Frame) (next : Handling) : Prop := next = s.handle env frame

theorem walk_run (env : Environment) (frames : List Frame) (s : Handling) : Run (Step env) s (s.walk env frames) := by
  induction frames generalizing s with
  | nil => trivial
  | cons frame frames ih => exact ⟨rfl, ih _⟩

/-- Every message is made of one data frame and of continuations behind it, none of them twice, exactly when no
continuation outside of a message is final or leaves bytes for the next data frame. -/
theorem attributed_iff (env : Environment) (t : WsTransport) (silent : delivered t.log = []) (frames : List Frame) :
    Always Attributed (begin t) ((begin t).walk env frames) ↔
      Guarded InMessage (begin t) ((begin t).walk env frames) := by
  refine always_iff (fun s inv => Inv.attributed inv) ?_ ?_ _ _ (begin_inv t silent) (walk_run env frames _)
  · rintro s frame next inv rfl inMessage
    exact handle_inv inv inMessage
  · rintro s frame next inv rfl against
    exact handle_breaks inv against

/-- A text in two frames, cut to the three bytes of the limit. -/
theorem attributed_fragments :
    Always Attributed (begin openClient) ((begin openClient).walk (accepting sampleKey) emptyFirstFragment) ↔
      Guarded InMessage (begin openClient) ((begin openClient).walk (accepting sampleKey) emptyFirstFragment) :=
  attributed_iff (accepting sampleKey) openClient rfl emptyFirstFragment

/-- A final continuation with no message before it is passed up, of whatever type. -/
theorem lone_continuation : ¬∀ frames : List Frame,
    Always Attributed (begin openClient) ((begin openClient).walk (accepting sampleKey) frames) := by
  intro all
  have stray := (all [⟨.continuation, [65], true, false⟩]).last.stray
  exact absurd stray (by decide)

end WebsocketClient.MessageAssemblies
