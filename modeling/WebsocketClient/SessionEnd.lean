import WebsocketClient.SessionMessages

/-! What is on its way arrives. PINGs and CLOSEs are answered on arrival, so more bytes may be on their
way than before; the answers still to be given bound how often this happens. -/

namespace WebsocketClient.Sessions
open ByteString Messages Frames Handshake HandshakeRoundTrip Transports WsTransports WsMessages WsChunks Library.Runs

def Delivers (env : End → Environment) (s : Session) (label : Label) (next : Session) : Prop :=
  Step env s label next ∧ ∃ e count, label = .deliver e count

/-- The bytes on their way to an end, and those that it may answer. -/
def work (env : End → Environment) (setup : Setup) (s : Session) (e : End) : Nat :=
  (s.flight e).length + 10 * (pings (s.ends e.other) - pongs (s.ends e)) + 6 * (1 - (s.ends e).mCloseSent.toNat) +
    setup.budget env e (s.ends e)

def totalWork (env : End → Environment) (setup : Setup) (s : Session) : Nat :=
  work env setup s .client + work env setup s .server

theorem totalWork_eq (env : End → Environment) (setup : Setup) (s : Session) (e : End) :
    totalWork env setup s = work env setup s e + work env setup s e.other := by
  cases e with
  | client => rfl
  | server => exact Nat.add_comm _ _

section
variable {env : End → Environment} {setup : Setup} {s next : Session}

theorem Inv.work_decreases (quiet : ∀ e, Quiet (env e)) (sameHash : (env .client).sha1 = (env .server).sha1)
    (wellFormed : WellFormed setup.host setup.path setup.protocols) (inv : Inv env setup s) {e : End} {count : Nat}
    (some : 0 < count) (enough : count ≤ (s.flight e).length) :
    totalWork env setup (s.receive env e count) + count ≤ totalWork env setup s := by
  have after := inv.receive quiet sameHash wellFormed some enough
  have full : (s.flight e).take count ≠ [] := by
    rw [← List.length_pos_iff, List.length_take]
    omega
  obtain ⟨more, received⟩ := inv.receive_piece quiet sameHash wellFormed full
    (List.take_append_drop count (s.flight e)).symm
  have wrote := written_eq received.grown
  have here : (s.receive env e count).ends e = (s.ends e).incoming (env e) (Option.some ((s.flight e).take count)) :=
    Function.update_self ..
  have there : (s.receive env e count).ends e.other = s.ends e.other := Function.update_of_ne e.other_ne ..
  have answered : pongs ((s.receive env e count).ends e) = pongs (s.ends e) + more.countP isPong := by
    rw [here, pongs, received.grown, List.countP_append, pongs]
  have asked : pings ((s.receive env e count).ends e) = pings (s.ends e) := by
    rw [here, pings, received.grown, List.countP_append, received.pings, pings, Nat.add_zero]
  have closed : ((s.receive env e count).ends e).mCloseSent.toNat =
      (s.ends e).mCloseSent.toNat + more.countP isClose := by
    have before := (inv.ends e).closes
    have later := received.mine.closes
    rw [received.grown, List.countP_append, before] at later
    rw [here, later]
  have bound := after.pongs_le e
  have size := received.size
  have flags := Bool.toNat_le ((s.receive env e count).ends e).mCloseSent
  change pongs ((s.receive env e count).ends e) ≤ pings ((s.receive env e count).ends e.other) at bound
  rw [there, answered] at bound
  rw [closed] at flags
  rw [totalWork_eq env setup _ e, totalWork_eq env setup s e]
  unfold work
  rw [e.other_other, s.receive_here, s.receive_there, wrote, there, answered, asked, closed, here, List.length_append,
    List.length_drop]
  omega

theorem Delivers.sent {label : Label} (step : Delivers env s label next) : next.sent = s.sent := by
  obtain ⟨⟨_, rfl⟩, e, count, rfl⟩ := step
  rfl

theorem Inv.delivers (quiet : ∀ e, Quiet (env e)) (sameHash : (env .client).sha1 = (env .server).sha1)
    (wellFormed : WellFormed setup.host setup.path setup.protocols) {kept goal : Session → Prop}
    (keeps : ∀ before label after, Inv env setup before → kept before → Delivers env before label after → kept after)
    (ends : ∀ last, Inv env setup last → kept last → (∀ e, last.flight e = []) → goal last)
    (inv : Inv env setup s) (holds : kept s) : Inevitable (Delivers env) goal s := by
  let held : Session → Prop := fun now => Inv env setup now ∧ kept now
  have keepsHeld : ∀ before label after, held before → Delivers env before label after → held after :=
    fun before label after both step =>
      ⟨both.1.step quiet sameHash wellFormed step.1, keeps before label after both.1 both.2 step⟩
  apply inevitable_of_measure (totalWork env setup) keepsHeld
  · rintro before label after both ⟨⟨enabled, rfl⟩, e, count, rfl⟩
    have less := both.1.work_decreases quiet sameHash wellFormed enabled.1 enabled.2
    show totalWork env setup (before.receive env e count) < totalWork env setup before
    have some := enabled.1
    omega
  · intro last both stuck
    apply ends last both.1 both.2
    intro e
    apply Classical.byContradiction
    intro full
    have some := List.length_pos_iff.mpr full
    exact stuck (.deliver e 1) _ ⟨⟨⟨Nat.one_pos, some⟩, rfl⟩, e, 1, rfl⟩
  · exact ⟨inv, holds⟩

theorem Inv.settles (quiet : ∀ e, Quiet (env e)) (sameHash : (env .client).sha1 = (env .server).sha1)
    (wellFormed : WellFormed setup.host setup.path setup.protocols) (inv : Inv env setup s) :
    Inevitable (Delivers env) (fun last => (∀ e, last.flight e = []) ∧ ∀ e, (last.ends e).state = .connected →
      delivered (last.ends e).log = (s.sent e.other).map (arrived (setup.maxMessageSize e))) s := by
  let kept : Session → Prop := fun now => now.sent = s.sent
  have holds : kept s := rfl
  apply inv.delivers quiet sameHash wellFormed _ _ holds
  · exact fun before label after _ same step => step.sent.trans same
  · intro last inv same nothing
    refine ⟨nothing, fun e connected => ?_⟩
    rw [← same]
    exact inv.complete e (.inl ⟨connected, nothing e⟩)

/-! ### The closing handshake -/

def Whole (s : Session) : Prop := ∀ e, s.broken e = false ∧ (s.ends e).state ≠ .failed

theorem Inv.delivery (quiet : ∀ e, Quiet (env e)) (sameHash : (env .client).sha1 = (env .server).sha1)
    (wellFormed : WellFormed setup.host setup.path setup.protocols) (inv : Inv env setup s) {label : Label}
    (step : Delivers env s label next) :
    next.broken = s.broken ∧ ∃ e chunk more,
      next.ends e = (s.ends e).incoming (env e) (some chunk) ∧ next.ends e.other = s.ends e.other ∧
        Received env setup s e (next.ends e) (next.flight e) more := by
  obtain ⟨⟨enabled, rfl⟩, e, count, rfl⟩ := step
  obtain ⟨some, enough⟩ := enabled
  have full : (s.flight e).take count ≠ [] := by
    rw [← List.length_pos_iff, List.length_take]
    omega
  obtain ⟨more, received⟩ := inv.receive_piece quiet sameHash wellFormed full
    (List.take_append_drop count (s.flight e)).symm
  have here : (s.receive env e count).ends e = (s.ends e).incoming (env e) (Option.some ((s.flight e).take count)) :=
    Function.update_self ..
  have there : (s.receive env e count).ends e.other = s.ends e.other := Function.update_of_ne e.other_ne ..
  refine ⟨rfl, e, (s.flight e).take count, more, here, there, ?_⟩
  show Received env setup s e ((s.receive env e count).ends e) ((s.receive env e count).flight e) more
  rw [here, s.receive_here]
  exact received

theorem Inv.whole (quiet : ∀ e, Quiet (env e)) (sameHash : (env .client).sha1 = (env .server).sha1)
    (wellFormed : WellFormed setup.host setup.path setup.protocols) (inv : Inv env setup s) (whole : Whole s)
    {label : Label} (step : Delivers env s label next) : Whole next := by
  obtain ⟨broken, e, chunk, more, here, there, received⟩ := inv.delivery quiet sameHash wellFormed step
  intro x
  rw [broken]
  refine ⟨(whole x).1, ?_⟩
  rcases e.cases x with rfl | rfl
  · intro failed
    have late : Overdue (next.ends x) := by
      rcases received.alive.failed failed with cut | late
      · exact absurd (cut.symm.trans (whole x).1) (by decide)
      · exact late
    have timely := (inv.alive x).timely
    cases inv.reads x with
    | handshake connecting => exact received.spared (timely (.inl connecting)) late
    | opened _ _ _ connected => exact received.spared (timely (.inr connected)) late
    | ended _ _ gone =>
      rw [here, incoming_over _ _ gone] at failed
      exact (whole x).2 failed
  · rw [there]
    exact (whole e.other).2

theorem Inv.closing (quiet : ∀ e, Quiet (env e)) (sameHash : (env .client).sha1 = (env .server).sha1)
    (wellFormed : WellFormed setup.host setup.path setup.protocols) (inv : Inv env setup s) {label : Label}
    (step : Delivers env s label next) {x : End} (closing : (s.ends x).mCloseSent = true) :
    (next.ends x).mCloseSent = true := by
  obtain ⟨_, e, chunk, more, _, there, received⟩ := inv.delivery quiet sameHash wellFormed step
  rcases e.cases x with rfl | rfl
  · have before := (inv.ends x).closes
    have later := received.mine.closes
    rw [received.grown, List.countP_append, before, closing] at later
    cases flag : (next.ends x).mCloseSent with
    | true => rfl
    | false =>
      rw [flag] at later
      simp at later
  · rw [there]
    exact closing

theorem Inv.disconnected (wellFormed : WellFormed setup.host setup.path setup.protocols) (inv : Inv env setup s)
    (whole : Whole s) (nothing : ∀ e, s.flight e = []) {e : End} (closing : (s.ends e.other).mCloseSent = true) :
    (s.ends e).state = .disconnected := by
  have shaken := inv.shaken wellFormed nothing (whole .server).1 e
  have wrote : (sents (s.ends e.other).log).any isClose = true := by
    have closes := (inv.ends e.other).closes
    rw [closing] at closes
    rw [List.any_eq_true]
    exact List.countP_pos_iff.mp (by rw [closes]; decide)
  cases inv.reads e with
  | handshake connecting => exact absurd connecting shaken
  | opened head done rest _ split _ _ noClose awaits =>
    have genuine := (inv.ends e.other).genuine split
    rw [nothing e] at awaits
    rw [split, awaits.none_left genuine, List.append_nil] at wrote
    have closed : done.any isClose = true := wrote
    exact absurd (closed.symm.trans noClose) (by decide)
  | ended _ _ gone =>
    rcases gone with gone | failed
    · exact gone
    · exact absurd failed (whole e).2

theorem Inv.closes (quiet : ∀ e, Quiet (env e)) (sameHash : (env .client).sha1 = (env .server).sha1)
    (wellFormed : WellFormed setup.host setup.path setup.protocols) (inv : Inv env setup s) (whole : Whole s)
    {closer : End} (closing : (s.ends closer).mCloseSent = true) :
    Inevitable (Delivers env) (fun last => ∀ e, (last.ends e).state = .disconnected ∧
      delivered (last.ends e).log = (s.sent e.other).map (arrived (setup.maxMessageSize e))) s := by
  let kept : Session → Prop := fun now => Whole now ∧ (now.ends closer).mCloseSent = true ∧ now.sent = s.sent
  have holds : kept s := ⟨whole, closing, rfl⟩
  apply inv.delivers quiet sameHash wellFormed _ _ holds
  · exact fun before label after inv both step =>
      ⟨inv.whole quiet sameHash wellFormed both.1 step, inv.closing quiet sameHash wellFormed step both.2.1,
        step.sent.trans both.2.2⟩
  · rintro last inv ⟨whole, closing, sent⟩ nothing
    have other : (last.ends closer.other).state = .disconnected := by
      apply inv.disconnected wellFormed whole nothing
      rw [closer.other_other]
      exact closing
    -- The other end has answered before it disconnected.
    have answer : (last.ends closer.other).mCloseSent = true := by
      rcases (inv.alive closer.other).closing other with cut | answered
      · exact absurd (cut.symm.trans (whole closer.other).1) (by decide)
      · exact answered
    intro e
    have gone : (last.ends e).state = .disconnected := by
      rcases closer.cases e with rfl | rfl
      · exact inv.disconnected wellFormed whole nothing answer
      · exact other
    refine ⟨gone, ?_⟩
    rw [← sent]
    exact inv.complete e (.inr ⟨gone, (whole e).1⟩)

end

/-- From every state of a session, deliveries come to an end, whatever their order and sizes, and
then an end that is open has received all that the other one had sent. -/
theorem always_settles (env : End → Environment) (setup : Setup) (quiet : ∀ e, Quiet (env e))
    (sameHash : (env .client).sha1 = (env .server).sha1)
    (wellFormed : WellFormed setup.host setup.path setup.protocols) (trace : List (Label × Session))
    (run : Run (Sessions.Step env) (setup.opening env) trace) :
    Always (fun s => Inevitable (Delivers env) (fun last => (∀ e, last.flight e = []) ∧
        ∀ e, (last.ends e).state = .connected →
          delivered (last.ends e).log = (s.sent e.other).map (arrived (setup.maxMessageSize e))) s)
      (setup.opening env) trace :=
  always_mono (fun _ inv => inv.settles quiet sameHash wellFormed) trace _ (always_inv quiet sameHash wellFormed run)

theorem example_settles :
    Always (fun s => Inevitable (Delivers accepts) (fun last => (∀ e, last.flight e = []) ∧
        ∀ e, (last.ends e).state = .connected →
          delivered (last.ends e).log = (s.sent e.other).map (arrived (exampleSetup.maxMessageSize e))) s)
      (exampleSetup.opening accepts) ((exampleSetup.opening accepts).walk accepts exampleLabels) :=
  always_settles accepts exampleSetup accepts_quiet rfl exampleSetup_wellFormed _ exampleLabels_run

/-- The closing handshake loses no message: from every state of a session in which an end has sent its CLOSE, none
was cut off and none has failed, deliveries come to an end with both ends closed, and each of them has received
all that the other one had sent. -/
theorem always_closes (env : End → Environment) (setup : Setup) (quiet : ∀ e, Quiet (env e))
    (sameHash : (env .client).sha1 = (env .server).sha1)
    (wellFormed : WellFormed setup.host setup.path setup.protocols) (trace : List (Label × Session))
    (run : Run (Sessions.Step env) (setup.opening env) trace) :
    Always (fun s => Whole s → ∀ closer, (s.ends closer).mCloseSent = true →
        Inevitable (Delivers env) (fun last => ∀ e, (last.ends e).state = .disconnected ∧
          delivered (last.ends e).log = (s.sent e.other).map (arrived (setup.maxMessageSize e))) s)
      (setup.opening env) trace :=
  always_mono (fun _ inv whole _ closing => inv.closes quiet sameHash wellFormed whole closing) trace _
    (always_inv quiet sameHash wellFormed run)

theorem example_closes :
    Always (fun s => Whole s → ∀ closer, (s.ends closer).mCloseSent = true →
        Inevitable (Delivers accepts) (fun last => ∀ e, (last.ends e).state = .disconnected ∧
          delivered (last.ends e).log = (s.sent e.other).map (arrived (exampleSetup.maxMessageSize e))) s)
      (exampleSetup.opening accepts) ((exampleSetup.opening accepts).walk accepts exampleLabels) :=
  always_closes accepts exampleSetup accepts_quiet rfl exampleSetup_wellFormed _ exampleLabels_run

end WebsocketClient.Sessions
