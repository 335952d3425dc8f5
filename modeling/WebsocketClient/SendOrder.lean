import WebsocketClient.Library.LockOrder
import WebsocketClient.Library.Runs
import WebsocketClient.SendPath

/-! The order in which the mutexes of the send path are taken. An application thread that has to
queue its message goes up to the poll service with both send mutexes held; the poll thread comes
down from there with every frame it sends: a PONG, a CLOSE or a PING. -/

namespace WebsocketClient.SendOrders
open ByteString SendPaths Library.Runs Library.LockOrder

variable {App : Type}

def holds (s : System App) (x : Thread App) (mutex : Mutex) : Prop := s.shared.owner mutex = some x

instance [DecidableEq App] (s : System App) (x : Thread App) (mutex : Mutex) : Decidable (holds s x mutex) :=
  inferInstanceAs (Decidable (_ = _))

def wants (s : System App) (x : Thread App) (mutex : Mutex) : Prop := (s.pc x).wants = some mutex

def Queues (label : Thread App × Action) : Prop := ∃ a, label = (.app a, .push)

/-- The poll thread answers a PING, sends its CLOSE for a CLOSE or a reserved opcode, or sends a
PING because the connection is idle. -/
def SendsFrame (label : Thread App × Action) : Prop :=
  label.1 = .poll ∧ ∃ bytes, label.2 = .ping bytes ∨ label.2 = .close bytes ∨ label.2 = .timeout bytes

/-- A call of `TcpTransport::send` that does not come from `WebSocket::send`. -/
def SendsDirectly (label : Thread App × Action) : Prop := ∃ bytes, label.2 = .send bytes

/-- One order of the mutexes for the whole run, and no circular wait at any time. -/
structure InOrder (s : System App) (trace : List ((Thread App × Action) × System App)) : Prop where
  order : ∃ rank, Always (fun s => Ordered rank (holds s) (wants s)) s trace
  wait : Always (fun s => ¬CircularWait (holds s) (wants s)) s trace

/-- The poll service first, as in `PollService::process`. -/
def downwards : Mutex → Nat
  | .poll => 0
  | .ws => 1
  | .tcp => 2

/-- The poll service last, as in `setPoll`. -/
def upwards : Mutex → Nat
  | .ws => 0
  | .tcp => 1
  | .poll => 2

/-- The four places where a thread waits for a mutex. -/
inductive WaitsAt (s : System App) (x : Thread App) : Mutex → Prop where
  | enter : s.pc x = .enter → WaitsAt s x .poll
  | lockWs (entry : Entry) : s.pc x = .lockWs entry → WaitsAt s x .ws
  | lockTcp (entry : Entry) : s.pc x = .lockTcp entry → WaitsAt s x .tcp
  | register (entry : Entry) (a : App) : s.pc x = .register entry → x = .app a → WaitsAt s x .poll

theorem waitsAt {s : System App} (owned : Owned s) {x : Thread App} {mutex : Mutex}
    (waits : Waits (holds s) (wants s) x mutex) : WaitsAt s x mutex := by
  have free : (s.pc x).holds mutex = false :=
    Bool.eq_false_iff.mpr (fun held => waits.2 ((owned.owner x mutex).mpr held))
  have wanted := waits.1
  have fits := owned.fits x
  unfold wants at wanted
  cases place : s.pc x <;> rw [place] at free wanted fits <;>
    simp only [Pc.wants, reduceCtorEq, Option.some.injEq] at wanted <;> subst wanted
  case enter => exact .enter place
  case lockWs entry => exact .lockWs entry place
  case lockTcp entry => exact .lockTcp entry place
  case rearm => exact absurd free (by simp [Pc.holds])
  case register entry =>
    have outside : entry.kind.polls = false := free
    cases x with
    | poll => exact absurd (fits.1.mpr rfl) (by simp [outside])
    | app a => exact .register entry a place rfl

theorem ordered_downwards {s : System App} (owned : Owned s)
    (direct : ∀ a entry, s.pc (.app a) ≠ .register entry) :
    Ordered downwards (holds s) (wants s) := by
  intro x held mutex holding waits
  have mine := (owned.owner x held).mp holding
  have fits := owned.fits x
  cases waitsAt owned waits with
  | enter place => simp [place, Pc.holds] at mine
  | lockWs entry place =>
    rw [place] at mine
    cases held <;> first | decide | simp [Pc.holds, Entry.holds] at mine
  | lockTcp entry place =>
    rw [place] at mine
    cases held <;> first | decide | simp [Pc.holds, Entry.holds] at mine
  | register entry a place isApp => exact absurd (isApp ▸ place) (direct a entry)

theorem ordered_upwards {s : System App} (owned : Owned s)
    (flushes : ∀ entry ∈ (s.pc .poll).entry, entry.kind = .flush) :
    Ordered upwards (holds s) (wants s) := by
  intro x held mutex holding waits
  have mine := (owned.owner x held).mp holding
  have fits := owned.fits x
  -- on its way to the send mutexes, a thread is not the poll thread
  have outside : ∀ entry, Own x entry → entry ∈ (s.pc x).entry → entry.kind ≠ .flush →
      entry.kind.polls = false := by
    intro entry own member noFlush
    refine Bool.eq_false_iff.mpr (fun polls => noFlush ?_)
    have isPoll := own.mp polls
    subst isPoll
    exact flushes entry member
  cases waitsAt owned waits with
  | enter place => simp [place, Pc.holds] at mine
  | lockWs entry place =>
    rw [place] at mine fits
    have free := outside entry fits.1 (by simp [place, Pc.entry])
      (fun flush => absurd fits.2 (by rw [flush]; decide))
    cases held <;> simp [Pc.holds, Entry.holds, free] at mine
  | lockTcp entry place =>
    rw [place] at mine fits
    have free := outside entry fits.1 (by simp [place, Pc.entry])
      (fun flush => absurd fits.2 (by rw [flush]; decide))
    cases held <;> first | decide | simp [Pc.holds, Entry.holds, free] at mine
  | register entry a place isApp =>
    rw [place] at mine fits
    have free := outside entry fits.1 (by simp [place, Pc.entry])
      (fun flush => absurd fits.2 (by rw [flush]; decide))
    cases held <;> first | decide | simp [Pc.holds, Entry.holds, free] at mine

/-! ### What the steps keep -/

theorem own_of_fits {x : Thread App} {pc : Pc} {entry : Entry} (fits : Fits x pc)
    (member : entry ∈ pc.entry) : Own x entry := by
  cases pc <;> simp only [Pc.entry, Option.mem_def, Option.some.injEq, reduceCtorEq] at member <;>
    subst member <;> first | exact fits | exact fits.1

/-- The walk that an action begins. -/
def begins : Action → Option Kind
  | .send _ => some .send
  | .frame _ => some .frame
  | .ping _ => some .pong
  | .close _ => some .close
  | .timeout _ => some .ping
  | .writable => some .flush
  | _ => none

theorem afterQueue_entry {entry walk : Entry} {flushed : Bool}
    (member : walk ∈ (entry.afterQueue flushed).entry) : walk = entry := by
  unfold Entry.afterQueue at member
  split_ifs at member <;> simp [Pc.entry] at member <;> exact member.symm

theorem afterFailure_entry {entry walk : Entry} (member : walk ∈ entry.afterFailure.entry) : walk = entry := by
  unfold Entry.afterFailure at member
  split_ifs at member <;> simp [Pc.entry] at member
  exact member.symm

theorem next_entry (kind : Kind) : kind.next.entry = none := by cases kind <;> rfl

theorem step_entry {x : Thread App} {s next : Shared App} {pc pc' : Pc} {action : Action}
    (step : ThreadStep x s pc action next pc') (walk : Entry) (member : walk ∈ pc'.entry) :
    walk ∈ pc.entry ∨ begins action = some walk.kind := by
  cases step with
  | send a message isApp => exact Or.inr (by cases member; rfl)
  | frame a message isApp long => exact Or.inr (by cases member; rfl)
  | ping message long => exact Or.inr (by cases member; rfl)
  | close message first long => exact Or.inr (by cases member; rfl)
  | timeout message long => exact Or.inr (by cases member; rfl)
  | writable => exact Or.inr (by cases member; rfl)
  | peekNone entry none => exact Or.inl (by rw [afterQueue_entry member]; rfl)
  | exchange entry head rest => exact Or.inl (by rw [afterQueue_entry member]; rfl)
  | tryFailed entry head rest => exact Or.inl (by rw [afterFailure_entry member]; rfl)
  | unlockTcp entry =>
    split_ifs at member
    · exact Or.inl member
    · simp [next_entry] at member
  | unlockWs entry => simp [next_entry] at member
  | _ => exact Or.inl member

/-- Only a push leads to `setPoll(Both)`. -/
theorem step_register {x : Thread App} {s next : Shared App} {pc : Pc} {action : Action} {entry : Entry}
    (step : ThreadStep x s pc action next (.register entry)) : action = .push := by
  generalize target : Pc.register entry = pc' at step
  cases step with
  | peekNone entry none =>
    unfold Entry.afterQueue at target
    split_ifs at target
  | exchange entry head rest =>
    unfold Entry.afterQueue at target
    split_ifs at target
  | tryFailed entry head rest =>
    unfold Entry.afterFailure at target
    split_ifs at target
  | unlockTcp entry =>
    split_ifs at target
    rcases entry with ⟨kind, message⟩
    cases kind <;> cases target
  | unlockWs entry =>
    rcases entry with ⟨kind, message⟩
    cases kind <;> cases target
  | push entry rest => rfl
  | _ => cases target

theorem push_registers {x : Thread App} {s next : Shared App} {pc pc' : Pc}
    (step : ThreadStep x s pc .push next pc') : ∃ entry, pc' = .register entry := by
  cases step
  exact ⟨_, rfl⟩

theorem event_locks {x : Thread App} {s next : Shared App} {pc pc' : Pc} {action : Action} {bytes : Bytes}
    (step : ThreadStep x s pc action next pc')
    (event : action = .ping bytes ∨ action = .close bytes ∨ action = .timeout bytes) :
    ∃ entry, pc' = .lockWs entry := by
  rcases event with rfl | rfl | rfl
  · cases step
    exact ⟨_, rfl⟩
  · cases step
    exact ⟨_, rfl⟩
  · cases step
    exact ⟨_, rfl⟩

theorem rank_register {rank : Mutex → Nat} {s : System App} {a : App} {entry : Entry} (owned : Owned s)
    (ordered : Ordered rank (holds s) (wants s)) (place : s.pc (.app a) = .register entry)
    (frame : entry.kind = .frame) : rank .ws < rank .poll := by
  refine ordered (.app a) .ws .poll ((owned.owner _ _).mpr ?_) ⟨?_, fun holding => ?_⟩
  · simp [place, Pc.holds, Entry.holds, frame, Kind.framed]
  · simp [wants, place, Pc.wants]
  · have held := (owned.owner _ _).mp holding
    simp [place, Pc.holds, Entry.holds, frame, Kind.polls] at held

theorem rank_lockWs {rank : Mutex → Nat} {s : System App} {entry : Entry} (owned : Owned s)
    (ordered : Ordered rank (holds s) (wants s)) (place : s.pc .poll = .lockWs entry) :
    rank .poll < rank .ws := by
  have fits := owned.fits .poll
  rw [place] at fits
  refine ordered .poll .poll .ws ((owned.owner _ _).mpr ?_) ⟨?_, fun holding => ?_⟩
  · rw [place]
    exact fits.1.mpr rfl
  · simp [wants, place, Pc.wants]
  · have held := (owned.owner _ _).mp holding
    simp [place, Pc.holds, Entry.holds] at held

theorem inOrder_of_ordered {rank : Mutex → Nat} {s : System App}
    {trace : List ((Thread App × Action) × System App)}
    (always : Always (fun s => Ordered rank (holds s) (wants s)) s trace) : InOrder s trace :=
  ⟨⟨rank, always⟩, always_mono (fun _ ordered => ordered.no_circular_wait) trace s always⟩

section
variable [DecidableEq App]

structure NoneRegisters (s : System App) : Prop where
  owned : Owned s
  direct : ∀ a entry, s.pc (.app a) ≠ .register entry

theorem keeps_noneRegisters (s : System App) (label : Thread App × Action) (next : System App)
    (inv : NoneRegisters s) (step : Step s label next) (allowed : ¬Queues label) : NoneRegisters next := by
  refine ⟨step.owned inv.owned, ?_⟩
  cases step with
  | mk x action shared pc step =>
    intro a entry place
    by_cases same : .app a = x
    · subst same
      rw [move_pc_self] at place
      subst place
      rw [step_register step] at allowed
      exact allowed ⟨a, rfl⟩
    · rw [move_pc_other s x _ shared pc same] at place
      exact inv.direct a entry place

/-- The walks of the threads are of some kinds only. -/
structure Walks (allowed : Thread App → Kind → Prop) (s : System App) : Prop where
  owned : Owned s
  kinds : ∀ x, ∀ entry ∈ (s.pc x).entry, allowed x entry.kind

theorem keeps_walks {allowed : Thread App → Kind → Prop} (s : System App) (label : Thread App × Action)
    (next : System App) (inv : Walks allowed s) (step : Step s label next)
    (begun : ∀ kind, begins label.2 = some kind → (kind.polls = true ↔ label.1 = .poll) →
      allowed label.1 kind) : Walks allowed next := by
  have owned := step.owned inv.owned
  refine ⟨owned, ?_⟩
  cases step with
  | mk x action shared pc step =>
    intro y entry member
    by_cases same : y = x
    · subst same
      have fits := owned.fits y
      rw [move_pc_self] at member fits
      rcases step_entry step entry member with before | new
      · exact inv.kinds y entry before
      · exact begun entry.kind new (own_of_fits fits member)
    · rw [move_pc_other s x y shared pc same] at member
      exact inv.kinds y entry member

/-! ### Every run -/

theorem inOrder_of_noneQueues (trace : List ((Thread App × Action) × System App))
    (run : Run Step System.initial trace) (none : ∀ taken ∈ trace, ¬Queues taken.1) :
    InOrder System.initial trace := by
  have start : NoneRegisters (System.initial : System App) :=
    ⟨initial_owned, fun a entry place => by cases place⟩
  have always := always_of_guarded keeps_noneRegisters trace _ start run (guarded_of_labels trace none _)
  exact inOrder_of_ordered (always_mono (fun s inv => ordered_downwards inv.owned inv.direct) trace _ always)

/-- The poll thread only flushes the queue. -/
def PollFlushes (x : Thread App) (kind : Kind) : Prop := x = .poll → kind = .flush

theorem inOrder_of_noneSendsFrame (trace : List ((Thread App × Action) × System App))
    (run : Run Step System.initial trace) (none : ∀ taken ∈ trace, ¬SendsFrame taken.1) :
    InOrder System.initial trace := by
  have start : Walks PollFlushes (System.initial : System App) :=
    ⟨initial_owned, fun x entry member => by cases member⟩
  have keeps : ∀ s label (next : System App), Walks PollFlushes s → Step s label next → ¬SendsFrame label →
      Walks PollFlushes next := by
    intro s label next inv step allowed
    apply keeps_walks s label next inv step
    intro kind begun polls isPoll
    rcases label with ⟨x, action⟩
    have own : kind.polls = true := polls.mpr isPoll
    cases action <;> simp only [begins, Option.some.injEq, reduceCtorEq] at begun <;> subst begun
    case send | frame => cases own
    case ping bytes => exact absurd ⟨isPoll, bytes, Or.inl rfl⟩ allowed
    case close bytes => exact absurd ⟨isPoll, bytes, Or.inr (Or.inl rfl)⟩ allowed
    case timeout bytes => exact absurd ⟨isPoll, bytes, Or.inr (Or.inr rfl)⟩ allowed
    case writable => rfl
  have always := always_of_guarded keeps trace _ start run (guarded_of_labels trace none _)
  exact inOrder_of_ordered (always_mono
    (fun s inv => ordered_upwards inv.owned (fun entry member => inv.kinds .poll entry member rfl)) trace _ always)

/-- Application threads only send frames. -/
def AppFrames (x : Thread App) (kind : Kind) : Prop := x ≠ .poll → kind = .frame

theorem keeps_appFrames (s : System App) (label : Thread App × Action) (next : System App)
    (inv : Walks AppFrames s) (step : Step s label next) (allowed : ¬SendsDirectly label) :
    Walks AppFrames next := by
  apply keeps_walks s label next inv step
  intro kind begun polls isApp
  rcases label with ⟨x, action⟩
  have outside : ¬kind.polls = true := fun own => isApp (polls.mp own)
  cases action <;> simp only [begins, Option.some.injEq, reduceCtorEq] at begun <;> subst begun
  case send bytes => exact absurd ⟨bytes, rfl⟩ allowed
  case frame => rfl
  case ping | close | timeout | writable => exact absurd rfl outside

theorem push_place {s next : System App} {label : Thread App × Action} {a : App}
    (step : Step s label next) (isPush : label = (.app a, .push)) :
    ∃ entry, next.pc (.app a) = .register entry := by
  cases step with
  | mk x action shared pc step =>
    cases isPush
    obtain ⟨entry, place⟩ := push_registers step
    exact ⟨entry, by rw [move_pc_self, place]⟩

theorem event_place {s next : System App} {label : Thread App × Action} {bytes : Bytes}
    (step : Step s label next) (isPoll : label.1 = .poll)
    (event : label.2 = .ping bytes ∨ label.2 = .close bytes ∨ label.2 = .timeout bytes) :
    ∃ entry, next.pc .poll = .lockWs entry := by
  cases step with
  | mk x action shared pc step =>
    obtain ⟨entry, place⟩ := event_locks step event
    change x = .poll at isPoll
    subst isPoll
    exact ⟨entry, by rw [move_pc_self, place]⟩

/-- The mutexes are taken in one order in a run of `WebSocket::send` and events, and no circular
wait comes up, exactly when no message has to be queued by an application thread or no frame is
sent by the poll thread. -/
theorem inOrder_iff (trace : List ((Thread App × Action) × System App))
    (run : Run Step System.initial trace) (frames : ∀ taken ∈ trace, ¬SendsDirectly taken.1) :
    InOrder System.initial trace ↔
      (∀ taken ∈ trace, ¬Queues taken.1) ∨ ∀ taken ∈ trace, ¬SendsFrame taken.1 := by
  constructor
  · intro inOrder
    obtain ⟨rank, always⟩ := inOrder.order
    by_contra both
    simp only [not_or, not_forall, not_not] at both
    obtain ⟨⟨up, upMember, a, upLabel⟩, down, downMember, isPoll, bytes, event⟩ := both
    have start : Walks AppFrames (System.initial : System App) :=
      ⟨initial_owned, fun x entry member => by cases member⟩
    have guarded : Guarded (fun _ label => ¬SendsDirectly label) System.initial trace :=
      guarded_of_labels trace frames _
    have walks := always_of_guarded keeps_appFrames trace _ start run guarded
    obtain ⟨_, _, upStep⟩ := exists_before keeps_appFrames trace up upMember _ start run guarded
    obtain ⟨_, _, downStep⟩ := exists_before keeps_appFrames trace down downMember _ start run guarded
    have upWalks := walks.of_mem up upMember
    have downWalks := walks.of_mem down downMember
    obtain ⟨upEntry, upPlace⟩ := push_place upStep upLabel
    obtain ⟨downEntry, downPlace⟩ := event_place downStep isPoll event
    have frame := upWalks.kinds (.app a) upEntry (by simp [upPlace, Pc.entry]) (by simp)
    have below := rank_register upWalks.owned (always.of_mem up upMember) upPlace frame
    have above := rank_lockWs downWalks.owned (always.of_mem down downMember) downPlace
    omega
  · intro either
    rcases either with none | none
    · exact inOrder_of_noneQueues trace run none
    · exact inOrder_of_noneSendsFrame trace run none

end

/-- The kernel takes a part of a frame; an event `Out` sends the rest of it. -/
def queuedFrame : List ((Thread Unit × Action) × System Unit) :=
  System.initial.walk [
    ((.app (), .frame [130, 1, 7]), id, .lockWs ⟨.frame, [130, 1, 7]⟩),
    ((.app (), .lock), fun s => s.setOwner .ws (some (.app ())), .lockTcp ⟨.frame, [130, 1, 7]⟩),
    ((.app (), .lock), fun s => s.setOwner .tcp (some (.app ())), .peek ⟨.frame, [130, 1, 7]⟩),
    ((.app (), .peek), id, .direct ⟨.frame, [130, 1, 7]⟩ [130, 1, 7]),
    ((.app (), .accepted 1), fun s => { s with wire := s.wire ++ [130] }, .direct ⟨.frame, [130, 1, 7]⟩ [1, 7]),
    ((.app (), .wouldBlock), id, .push ⟨.frame, [130, 1, 7]⟩ [1, 7]),
    ((.app (), .push), fun s => { s with queue := s.queue ++ [⟨s.nextId, [1, 7]⟩], nextId := s.nextId + 1 },
      .register ⟨.frame, [130, 1, 7]⟩),
    ((.app (), .lock), fun s => s.setOwner .poll (some (.app ())), .registered ⟨.frame, [130, 1, 7]⟩ false),
    ((.poll, .wake), id, .enter),
    ((.app (), .unlock), fun s => s.setOwner .poll none, .unlockTcp ⟨.frame, [130, 1, 7]⟩),
    ((.poll, .lock), fun s => s.setOwner .poll (some .poll), .dispatch),
    ((.app (), .unlock), fun s => s.setOwner .tcp none, .unlockWs ⟨.frame, [130, 1, 7]⟩),
    ((.poll, .writable), id, .peek ⟨.flush, []⟩),
    ((.poll, .peek), id, .trying ⟨.flush, []⟩ ⟨0, [1, 7]⟩ [1, 7]),
    ((.poll, .accepted 2), fun s => { s with wire := s.wire ++ [1, 7] }, .trying ⟨.flush, []⟩ ⟨0, [1, 7]⟩ []),
    ((.app (), .unlock), fun s => s.setOwner .ws none, .idle),
    ((.poll, .sent), id, .pop ⟨.flush, []⟩ ⟨0, [1, 7]⟩),
    ((.poll, .pop), fun s => { s with
      queue := s.queue.tail
      removed := s.removed ++ [(⟨0, [1, 7]⟩, s.queue.head?)] }, .peek ⟨.flush, []⟩),
    ((.poll, .peek), id, .rearm),
    ((.poll, .lock), id, .dispatch),
    ((.poll, .leave), fun s => s.setOwner .poll none, .idle)]

theorem queuedFrame_run : Run Step System.initial queuedFrame :=
  ⟨.mk _ _ _ _ _ (.frame _ () _ rfl (by decide)), .mk _ _ _ _ _ (.lockWs _ _ rfl),
    .mk _ _ _ _ _ (.lockTcp _ _ rfl), .mk _ _ _ _ _ (.peekNone _ _ rfl),
    .mk _ _ _ _ _ (.directAccepted _ _ _ 1 (by decide) (by decide)),
    .mk _ _ _ _ _ (.directBlocked _ _ _ (by decide)), .mk _ _ _ _ _ (.push _ _ _),
    .mk _ _ _ _ _ (.register _ _ rfl), .mk _ _ _ _ _ (.wake _ rfl), .mk _ _ _ _ _ (.registered _ _),
    .mk _ _ _ _ _ (.enter _ rfl), .mk _ _ _ _ _ (.unlockTcp _ _), .mk _ _ _ _ _ (.writable _),
    .mk _ _ _ _ _ (.peekSome _ _ _ rfl), .mk _ _ _ _ _ (.tryAccepted _ _ _ _ 2 (by decide) (by decide)),
    .mk _ _ _ _ _ (.unlockWs _ _), .mk _ _ _ _ _ (.trySent _ _ _), .mk _ _ _ _ _ (.pop _ _ _),
    .mk _ _ _ _ _ (.peekNone _ _ rfl), .mk _ _ _ _ _ (.rearm _ rfl), .mk _ _ _ _ _ (.leave _), trivial⟩

theorem inOrder_queuedFrame : InOrder System.initial queuedFrame :=
  (inOrder_iff queuedFrame queuedFrame_run (by simp [queuedFrame, System.walk, SendsDirectly])).mpr
    (Or.inr (by simp [queuedFrame, System.walk, SendsFrame]))

/-- The kernel would block on a frame of the application while a PING is answered. -/
def crossing : List ((Thread Unit × Action) × System Unit) :=
  System.initial.walk [
    ((.app (), .frame [130, 0]), id, .lockWs ⟨.frame, [130, 0]⟩),
    ((.app (), .lock), fun s => s.setOwner .ws (some (.app ())), .lockTcp ⟨.frame, [130, 0]⟩),
    ((.app (), .lock), fun s => s.setOwner .tcp (some (.app ())), .peek ⟨.frame, [130, 0]⟩),
    ((.app (), .peek), id, .direct ⟨.frame, [130, 0]⟩ [130, 0]),
    ((.app (), .wouldBlock), id, .push ⟨.frame, [130, 0]⟩ [130, 0]),
    ((.app (), .push), fun s => { s with queue := s.queue ++ [⟨s.nextId, [130, 0]⟩], nextId := s.nextId + 1 },
      .register ⟨.frame, [130, 0]⟩),
    ((.poll, .wake), id, .enter),
    ((.poll, .lock), fun s => s.setOwner .poll (some .poll), .dispatch),
    ((.poll, .ping [138, 0]), id, .lockWs ⟨.pong, [138, 0]⟩)]

theorem crossing_run : Run Step System.initial crossing :=
  ⟨.mk _ _ _ _ _ (.frame _ () _ rfl (by decide)), .mk _ _ _ _ _ (.lockWs _ _ rfl), .mk _ _ _ _ _ (.lockTcp _ _ rfl),
    .mk _ _ _ _ _ (.peekNone _ _ rfl), .mk _ _ _ _ _ (.directBlocked _ _ _ (by decide)),
    .mk _ _ _ _ _ (.push _ _ _), .mk _ _ _ _ _ (.wake _ rfl), .mk _ _ _ _ _ (.enter _ rfl),
    .mk _ _ _ _ _ (.ping _ _ (by decide)), trivial⟩

/-- The application thread holds the send mutexes and waits for the poll service, and the poll
thread the other way round. -/
theorem crossing_not_inOrder :
    ¬∀ trace : List ((Thread Unit × Action) × System Unit), Run Step System.initial trace →
      (∀ taken ∈ trace, ¬SendsDirectly taken.1) → InOrder System.initial trace := by
  intro all
  have frames : ∀ taken ∈ crossing, ¬SendsDirectly taken.1 := by
    intro taken member direct
    obtain ⟨bytes, label⟩ := direct
    simp only [crossing, System.walk, List.mem_cons, List.not_mem_nil, or_false] at member
    rcases member with rfl | rfl | rfl | rfl | rfl | rfl | rfl | rfl | rfl <;> cases label
  have inOrder := all crossing crossing_run frames
  have last := inOrder.wait.2.2.2.2.2.2.2.2.2
  apply last
  exact ⟨.app (), .poll, .ws, .poll, rfl, ⟨rfl, by decide⟩, rfl, ⟨rfl, by decide⟩⟩

end WebsocketClient.SendOrders
