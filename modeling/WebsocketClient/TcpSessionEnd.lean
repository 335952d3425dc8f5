import WebsocketClient.TcpSession

/-! What two ends have sent leaves their send queues and arrives, as long as their sockets are registered for what
they wait for. -/

namespace WebsocketClient.TcpSessions
open ByteString Messages Handshake HandshakeRoundTrip Transports WsTransports WsMessages WsChunks WsAnswers Sessions
  TcpTransports TcpPolls TcpStreams Library.Runs Library.Refinement

/-- The application is quiet and the connection holds: an end reads, or a socket that can be written to takes
some of its queue. -/
def Carries (env : End → Environment) (s : Stack) (label : Label) (next : Stack) : Prop :=
  TcpSessions.Step env s label next ∧ ((∃ e count, label = .upper (.deliver e count)) ∨
    ∃ e, label = .out e ∧ (s.tcp e).wire.length < (next.tcp e).wire.length)

/-- Both sockets are connected, and registered for writing when something is queued. -/
def Ready (s : Stack) : Prop := ∀ e, (s.tcp e).state = .connected ∧ Polled (s.tcp e)

def held (s : Stack) : Nat := (s.waiting .client).length + (s.waiting .server).length

theorem held_eq (s : Stack) (e : End) : held s = (s.waiting e).length + (s.waiting e.other).length := by
  cases e with
  | client => rfl
  | server => exact Nat.add_comm _ _

/-- What is with a kernel counts once, and what is still queued twice. -/
def load (env : End → Environment) (setup : Setup) (s : Stack) : Nat := 2 * totalWork env setup s.session - held s

theorem held_le (env : End → Environment) (setup : Setup) (s : Stack) : held s ≤ totalWork env setup s.session := by
  have flight (e : End) : (s.waiting e).length ≤ work env setup s.session e := by
    have split : (s.session.flight e).length = (s.waiting e).length + (queued (s.tcp e.other)).length :=
      List.length_append
    unfold work
    omega
  have client := flight .client
  have server := flight .server
  unfold held totalWork
  omega

theorem Ready.update {s next : Stack} {e : End} {lower : TcpTransport} (ready : Ready s)
    (tcp : next.tcp = Function.update s.tcp e lower) (connected : lower.state = .connected) (polled : Polled lower) :
    Ready next := by
  intro x
  rw [tcp]
  rcases e.cases x with rfl | rfl
  · rw [Function.update_self]
    exact ⟨connected, polled⟩
  · rw [Function.update_of_ne e.other_ne]
    exact ready e.other

section
variable {env : End → Environment} {setup : Setup} (quiet : ∀ e, Quiet (env e))
  (sameHash : (env .client).sha1 = (env .server).sha1) (wellFormed : WellFormed setup.host setup.path setup.protocols)
  (heads : ∀ e, (setup.head env e).length < 2 ^ 31) {s next : Stack}
include quiet sameHash wellFormed heads

theorem Carries.step {label : Label} (inv : Inv env setup s.session) (wired : Wired s) (ended : Ended s)
    (ready : Ready s)
    (carries : Carries env s label next) :
    Ready next ∧ next.sent = s.sent ∧ load env setup next < load env setup s := by
  obtain ⟨⟨choice, patient, enabled, taken⟩, ⟨e, count, rfl⟩ | ⟨e, rfl, progress⟩⟩ := carries
  · have flying : s.session.Enabled (.deliver e count) := enabled_session enabled
    obtain ⟨connected, some, _, enough⟩ := enabled
    obtain ⟨⟨_, _, session⟩, read, lower, more, tcp, passes⟩ :=
      follows_receive quiet patient wired ended inv sameHash wellFormed heads connected some enough taken
    refine ⟨ready.update tcp (passes.state.trans connected) (passes.polled (ready e).2), ?_, ?_⟩
    · have sent : next.session.sent = s.session.sent := by rw [session]; rfl
      exact sent
    · have less : totalWork env setup next.session + count ≤ totalWork env setup s.session := by
        rw [session]
        exact inv.work_decreases quiet sameHash wellFormed flying.1 flying.2
      have mine : (next.waiting e).length = (s.waiting e).length - count := by
        rw [Stack.waiting, Stack.waiting, tcp, read, Function.update_self, Function.update_of_ne e.other_ne,
          List.length_drop, List.length_drop]
        omega
      have theirs : (s.waiting e.other).length ≤ (next.waiting e.other).length := by
        obtain ⟨taken, longer⟩ := passes.grows
        rw [Stack.waiting, Stack.waiting, tcp, read, Function.update_of_ne e.other_ne, e.other_other,
            Function.update_self,
          longer, List.length_drop, List.length_drop, List.length_append]
        omega
      have before := held_eq s e
      have after := held_eq next e
      have bound := held_le env setup next
      unfold load
      omega
  · obtain ⟨⟨_, _, session⟩, lower, rfl, out, _, consistent⟩ := follows_out patient wired ended enabled.1 taken
    have here : (s.below e lower).tcp e = lower := Function.update_self ..
    rw [here] at progress
    refine ⟨ready.update rfl consistent.connected (processOut_keep out (ready e).2), rfl, ?_⟩
    have mine : ((s.below e lower).waiting e).length = (s.waiting e).length := by
      show (((s.below e lower).tcp e.other).wire.drop (s.read e)).length = _
      have there : (s.below e lower).tcp e.other = s.tcp e.other := Function.update_of_ne e.other_ne ..
      rw [there]
      rfl
    have theirs : (s.waiting e.other).length < ((s.below e lower).waiting e.other).length := by
      show ((s.tcp e.other.other).wire.drop (s.read e.other)).length <
        (((s.below e lower).tcp e.other.other).wire.drop (s.read e.other)).length
      have reads := wired.read e.other
      rw [e.other_other] at reads ⊢
      rw [here, List.length_drop, List.length_drop]
      omega
    have before := held_eq s e
    have after := held_eq (s.below e lower) e
    have bound := held_le env setup (s.below e lower)
    unfold load
    rw [session] at bound ⊢
    omega

theorem can_read (inv : Inv env setup s.session) (wired : Wired s) (ready : Ready s) {e : End}
    (some : s.waiting e ≠ []) : ∃ label next, Carries env s label next := by
  have one : 1 ≤ (s.waiting e).length := List.length_pos_iff.mpr some
  obtain ⟨more, grown, small⟩ := received_small quiet inv sameHash wellFormed heads Nat.one_pos one
  have connected := (ready e).1
  have wrote := written_eq grown
  obtain ⟨answers, lower, passed⟩ := exists_pass roomy_patient more _ _ small (wired.consistent e connected)
  let choice : Choice := ⟨Kernel.roomy, answers⟩
  have enabled : s.Enabled (.upper (.deliver e 1)) := ⟨connected, Nat.one_pos, by decide, one⟩
  have taken : ∃ next, s.receive env choice e 1 = .some next := by
    unfold Stack.receive Stack.incoming Stack.act
    rw [incoming_same (choice.agrees (quiet e) _), wrote, passed]
    exact ⟨_, rfl⟩
  obtain ⟨next, taken⟩ := taken
  exact ⟨_, next, ⟨choice, roomy_patient, enabled, taken⟩, .inl ⟨e, 1, rfl⟩⟩

omit quiet sameHash wellFormed heads in
theorem can_write (wired : Wired s) (ready : Ready s) {e : End} (some : queued (s.tcp e) ≠ []) :
    ∃ label next, Carries env s label next := by
  obtain ⟨connected, polled⟩ := ready e
  have consistent := wired.consistent e connected
  obtain ⟨lower, out, after, empty⟩ := processOut_roomy consistent
  have full : (s.tcp e).mSendQueue.mQueue ≠ [] := by
    intro none
    apply some
    rw [queued, none]
    rfl
  have stream := after.stream
  rw [← consistent.stream] at stream
  have longer := congrArg List.length stream
  have flushed : lower.mSendQueue.mQueue.flatten = [] := empty
  rw [flushed, List.append_nil, List.length_append] at longer
  have positive : 0 < (s.tcp e).mSendQueue.mQueue.flatten.length := List.length_pos_iff.mpr some
  have here : (s.below e lower).tcp e = lower := Function.update_self ..
  refine ⟨.out e, s.below e lower, ⟨⟨Kernel.roomy, []⟩, roomy_patient, ⟨connected, polled connected full⟩, ?_⟩,
    .inr ⟨e, rfl, ?_⟩⟩
  · show ((s.tcp e).processOut Kernel.roomy).map (s.below e) = _
    rw [out]
    rfl
  · rw [here]
    omega

theorem Wired.drains (inv : Inv env setup s.session) (wired : Wired s) (ended : Ended s) (ready : Ready s) :
    Inevitable (Carries env) (fun last => (∀ e, last.session.flight e = [] ∧ (last.tcp e).mBufferedAmount = 0) ∧
      ∀ e, (last.ws e).state = .connected →
        delivered (last.ws e).log = (s.sent e.other).map (arrived (setup.maxMessageSize e))) s := by
  let kept : Stack → Prop := fun now => (Wired now ∧ Ended now) ∧ Inv env setup now.session ∧ Ready now ∧
      now.sent = s.sent
  have keeps : ∀ before label after, kept before → Carries env before label after → kept after := by
    intro before label after holds carries
    obtain ⟨⟨wired, ended⟩, inv, ready, sent⟩ := holds
    obtain ⟨ready', sent', _⟩ := Carries.step quiet sameHash wellFormed heads inv wired ended ready carries
    obtain ⟨both, same | ⟨other, taken⟩⟩ := Wired.step quiet sameHash wellFormed heads inv wired ended carries.1
    · refine ⟨both, ?_, ready', sent'.trans sent⟩
      rw [same]
      exact inv
    · exact ⟨both, inv.step quiet sameHash wellFormed taken, ready', sent'.trans sent⟩
  apply inevitable_of_measure (load env setup) keeps
  · intro before label after holds carries
    obtain ⟨⟨wired, ended⟩, inv, ready, _⟩ := holds
    exact (Carries.step quiet sameHash wellFormed heads inv wired ended ready carries).2.2
  · intro last holds stuck
    obtain ⟨⟨wired, _⟩, inv, ready, sent⟩ := holds
    have read (e : End) : last.waiting e = [] := by
      apply Classical.byContradiction
      intro some
      obtain ⟨label, next, carries⟩ := can_read quiet sameHash wellFormed heads inv wired ready some
      exact stuck label next carries
    have taken (e : End) : queued (last.tcp e) = [] := by
      apply Classical.byContradiction
      intro some
      obtain ⟨label, next, carries⟩ := can_write wired ready some
      exact stuck label next carries
    have nothing (e : End) : last.session.flight e = [] := by
      show last.waiting e ++ queued (last.tcp e.other) = []
      rw [read, taken]
      rfl
    refine ⟨fun e => ⟨nothing e, ?_⟩, fun e connected => ?_⟩
    · have amount := (wired.consistent e (ready e).1).buffered
      have empty : (last.tcp e).mSendQueue.mQueue.flatten = [] := taken e
      rw [amount, empty]
      rfl
    · rw [← sent]
      exact inv.complete e (.inl ⟨connected, nothing e⟩)
  · exact ⟨⟨wired, ended⟩, inv, ready, rfl⟩

end

section
variable (env : End → Environment) (setup : Setup) (choice : Choice) (quiet : ∀ e, Quiet (env e))
  (sameHash : (env .client).sha1 = (env .server).sha1) (wellFormed : WellFormed setup.host setup.path setup.protocols)
  (heads : ∀ e, (setup.head env e).length < 2 ^ 31) (patient : choice.kernel.Patient) (s : Stack)
  (opens : opening env setup choice = some s) (trace : List (Label × Stack)) (run : Run (TcpSessions.Step env) s trace)
include quiet sameHash wellFormed heads patient opens run

/-- Over TCP, whatever the kernels take and when, two ends go through the states of a session: what one
has written and the other has not read is on its way. -/
theorem always_refines :
    Always (fun s => Reaches (Sessions.Step env) (setup.opening env) s.session) s trace :=
  always_mono (fun _ both => both.2) trace s (always_wired quiet sameHash wellFormed heads patient opens run)

/-- From every state in which the sockets are connected and registered for writing when something is queued,
reading and writing come to an end. Then no byte is queued or on its way, the buffered amounts are zero, and
an end that is open has received all that the other one had sent. -/
theorem always_drains :
    Always (fun s => Ready s → Inevitable (Carries env) (fun last =>
      (∀ e, last.session.flight e = [] ∧ (last.tcp e).mBufferedAmount = 0) ∧ ∀ e, (last.ws e).state = .connected →
        delivered (last.ws e).log = (s.sent e.other).map (arrived (setup.maxMessageSize e))) s) s trace := by
  apply always_mono _ trace s (always_wired quiet sameHash wellFormed heads patient opens run)
  rintro now ⟨⟨wired, ended⟩, reaches⟩ ready
  have inv := reaches.holds fun trace run => always_inv quiet sameHash wellFormed run
  exact Wired.drains quiet sameHash wellFormed heads inv wired ended ready

end

/-! ### A run with a send queue -/

/-- The server's message waits in its send queue, and leaves it in two pieces. Then the client closes. -/
def exampleChoices : List (Choice × Label) :=
  [(⟨Kernel.roomy, [true]⟩, .upper (.deliver .server 140)),
    (⟨Kernel.slow, [false]⟩, .upper (.send .server ⟨[1, 2, 3, 4], .binary⟩)),
    (⟨Kernel.roomy, []⟩, .upper (.deliver .client 153)), (⟨Kernel.slow, []⟩, .out .server),
    (⟨Kernel.roomy, []⟩, .upper (.deliver .client 1)), (⟨Kernel.roomy, []⟩, .out .server),
    (⟨Kernel.roomy, []⟩, .upper (.deliver .client 5)), (⟨Kernel.roomy, [true]⟩, .upper (.close .client)),
    (⟨Kernel.roomy, [true]⟩, .upper (.deliver .server 6)), (⟨Kernel.roomy, []⟩, .stop .server),
    (⟨Kernel.roomy, []⟩, .upper (.deliver .client 2))]

@[irreducible] def exampleStack : Stack :=
  (opening accepts exampleSetup ⟨Kernel.roomy, [true]⟩).get (by decide +kernel)

@[irreducible] def exampleTrace : List (Label × Stack) :=
  (exampleStack.walk accepts exampleChoices).get (by decide +kernel)

theorem slow_patient : Kernel.slow.Patient := by
  intro n offered
  simp only [Kernel.slow]
  split_ifs <;> exact fun same => by cases same

theorem exampleStack_opens : opening accepts exampleSetup ⟨Kernel.roomy, [true]⟩ = some exampleStack := by
  unfold exampleStack
  exact (Option.some_get _).symm

theorem exampleTrace_run : Run (TcpSessions.Step accepts) exampleStack exampleTrace := by
  have walked : exampleStack.walk accepts exampleChoices = some exampleTrace := by
    rw [exampleTrace, Option.some_get]
  apply Stack.walk_run accepts exampleChoices exampleStack exampleTrace walked
  intro pair member
  simp only [exampleChoices, List.mem_cons, List.not_mem_nil, or_false] at member
  rcases member with rfl | rfl | rfl | rfl | rfl | rfl | rfl | rfl | rfl | rfl | rfl
  all_goals first | exact roomy_patient | exact slow_patient

theorem exampleSetup_heads : ∀ e, (exampleSetup.head accepts e).length < 2 ^ 31 := by
  intro e
  cases e <;> decide +kernel

theorem example_refines :
    Always (fun s => Reaches (Sessions.Step accepts) (exampleSetup.opening accepts) s.session)
      exampleStack exampleTrace :=
  always_refines accepts exampleSetup ⟨Kernel.roomy, [true]⟩ accepts_quiet rfl exampleSetup_wellFormed
    exampleSetup_heads
    roomy_patient exampleStack exampleStack_opens exampleTrace exampleTrace_run

theorem example_drains :
    Always (fun s => Ready s → Inevitable (Carries accepts) (fun last =>
      (∀ e, last.session.flight e = [] ∧ (last.tcp e).mBufferedAmount = 0) ∧ ∀ e, (last.ws e).state = .connected →
        delivered (last.ws e).log = (s.sent e.other).map (arrived (exampleSetup.maxMessageSize e))) s)
      exampleStack exampleTrace :=
  always_drains accepts exampleSetup ⟨Kernel.roomy, [true]⟩ accepts_quiet rfl exampleSetup_wellFormed exampleSetup_heads
    roomy_patient exampleStack exampleStack_opens exampleTrace exampleTrace_run

end WebsocketClient.TcpSessions
