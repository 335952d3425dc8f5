import WebsocketClient.SessionMessages

/-! The PINGs of an idle connection. An end that hears nothing gives up at the tick that it is told to,
and an end whose PINGs are answered before the next tick goes on. -/

namespace WebsocketClient.Sessions
open Messages Frames HandshakeRoundTrip Transports WsTransports WsTransport WsMessages WsChunks Library.Runs

def Silent (e : End) (label : Label) : Prop :=
  label.own = e → label.cuts = false ∧ ∀ count, label ≠ .deliver e count

def ticks (e : End) (trace : List (Label × Session)) : Nat := trace.countP fun taken => taken.1 = .idle e

/-- Nobody is cut off, and no end is idle while something is on its way. -/
def Session.inTime (s : Session) : Label → Bool
  | .lost _ | .closeTimeout _ => false
  | .idle _ => (s.flight .client).isEmpty && (s.flight .server).isEmpty
  | .send _ _ | .close _ | .deliver _ _ => true

def InTime (s : Session) (label : Label) : Prop := s.inTime label = true

section
variable {env : End → Environment} {setup : Setup} {s next : Session} {e : End} {label : Label}

/-! ### An end that hears nothing -/

theorem Goes.there {more : List Sent} {new : List Message} {cutting : Bool}
    (goes : Goes s next e.other more new cutting) :
    next.ends e = s.ends e := by
  rw [goes.ends, Function.update_of_ne e.other_ne.symm]

theorem Inv.silent_cases (quiet : ∀ e, Quiet (env e)) (inv : Inv env setup s) (step : Step env s label next)
    (silent : Silent e label) :
    (label ≠ .idle e ∧ next.ends e = s.ends e) ∨
      ∃ more, Acts (s.ends e) (next.ends e) more false ∧
        more.countP isPing = if label = .idle e ∧ (s.ends e).state = .connected then 1 else 0 := by
  rcases inv.step_cases quiet step with ⟨x, count, rfl, _, _, rfl⟩ | ⟨more, new, goes, _, pings⟩
  · rcases e.cases x with rfl | rfl
    · exact absurd rfl ((silent rfl).2 count)
    · exact .inl ⟨by simp, Function.update_of_ne e.other_ne.symm ..⟩
  · rcases e.cases label.own with own | own
    · rw [own] at goes pings
      rw [(silent own).1] at goes
      exact .inr ⟨more, goes.acts, pings⟩
    · rw [own] at goes
      refine .inl ⟨?_, goes.there⟩
      rintro rfl
      exact e.other_ne own.symm

/-- A silent end that is open counts its ticks, and fails when they are too many. -/
theorem Inv.silent_step (quiet : ∀ e, Quiet (env e)) (inv : Inv env setup s) (step : Step env s label next)
    (silent : Silent e label) (connected : (s.ends e).state = .connected) :
    (next.ends e).mOutstandingPings = (s.ends e).mOutstandingPings + (if label = .idle e then 1 else 0 : Nat) ∧
      ((next.ends e).state = .connected ∨ ((next.ends e).state = .failed ∧ Overdue (next.ends e))) := by
  rcases inv.silent_cases quiet step silent with ⟨other, same⟩ | ⟨more, acts, pings⟩
  · rw [same, if_neg other]
    exact ⟨(Int.add_zero _).symm, .inl connected⟩
  · rw [acts.outstanding, pings]
    refine ⟨by simp [connected], ?_⟩
    rcases acts.state with same | ⟨_, failed, overdue⟩ | ⟨cut, _⟩
    · exact .inl (same.trans connected)
    · exact .inr ⟨failed, overdue⟩
    · exact absurd cut (by decide)

theorem Inv.silent_failed (quiet : ∀ e, Quiet (env e)) (inv : Inv env setup s) (step : Step env s label next)
    (silent : Silent e label) (failed : (s.ends e).state = .failed) : (next.ends e).state = .failed := by
  rcases inv.silent_cases quiet step silent with ⟨_, same⟩ | ⟨more, acts, _⟩
  · rw [same, failed]
  · rcases acts.state with same | ⟨connected, _⟩ | ⟨cut, _⟩
    · exact same.trans failed
    · exact absurd (failed.symm.trans connected) (by decide)
    · exact absurd cut (by decide)

end

section
variable {env : End → Environment} {setup : Setup} {e : End} (quiet : ∀ e, Quiet (env e))
  (sameHash : (env .client).sha1 = (env .server).sha1) (wellFormed : WellFormed setup.host setup.path setup.protocols)
include quiet sameHash wellFormed

theorem failed_silent (later : List (Label × Session)) :
    ∀ s, Inv env setup s → Run (Sessions.Step env) s later → (∀ taken ∈ later, Silent e taken.1) →
      (s.ends e).state = .failed → ((last s later).ends e).state = .failed := by
  induction later with
  | nil => exact fun _ _ _ _ failed => failed
  | cons first rest ih =>
    intro s inv run silent failed
    have here := silent first (List.mem_cons_self ..)
    have there : ∀ taken ∈ rest, Silent e taken.1 := fun taken member => silent taken (List.mem_cons_of_mem _ member)
    exact ih first.2 (inv.step quiet sameHash wellFormed run.1) run.2 there (inv.silent_failed quiet run.1 here failed)

theorem silent_run (later : List (Label × Session)) :
    ∀ s, Inv env setup s → Run (Sessions.Step env) s later → (∀ taken ∈ later, Silent e taken.1) →
      (s.ends e).state = .connected →
      ((last s later).ends e).state =
        if 0 < setup.maxOutstandingPings e ∧
          setup.maxOutstandingPings e < (s.ends e).mOutstandingPings + ticks e later then .failed else .connected := by
  induction later with
  | nil =>
    intro s inv run silent connected
    have timely := (inv.alive e).timely (.inr connected)
    rw [Overdue, (inv.alive e).maximum] at timely
    have none : (s.ends e).mOutstandingPings + ticks e [] = (s.ends e).mOutstandingPings := Int.add_zero _
    rw [none, if_neg timely]
    exact connected
  | cons first rest ih =>
    intro s inv run silent connected
    have here := silent first (List.mem_cons_self ..)
    have there : ∀ taken ∈ rest, Silent e taken.1 := fun taken member => silent taken (List.mem_cons_of_mem _ member)
    have after := inv.step quiet sameHash wellFormed run.1
    obtain ⟨count, state⟩ := inv.silent_step quiet run.1 here connected
    have ticked : ticks e (first :: rest) = (if first.1 = .idle e then 1 else 0) + ticks e rest := by
      simp only [ticks, List.countP_cons, decide_eq_true_eq]
      omega
    have total : (s.ends e).mOutstandingPings + ticks e (first :: rest) =
        (first.2.ends e).mOutstandingPings + ticks e rest := by
      rw [count, ticked]
      omega
    rw [total]
    rcases state with still | ⟨failed, overdue⟩
    · exact ih first.2 after run.2 there still
    · have maximum := (after.alive e).maximum
      obtain ⟨positive, late⟩ := overdue
      rw [maximum] at positive late
      rw [if_pos ⟨positive, by omega⟩]
      exact failed_silent quiet sameHash wellFormed rest first.2 after run.2 there failed

end

/-! ### An end that is answered -/

section
variable {env : End → Environment} {setup : Setup} {s next : Session} {e : End} {label : Label}

theorem Inv.read_all (inv : Inv env setup s) (connected : (s.ends e).state = .connected) (nothing : s.flight e = []) :
    ∃ head done, sents (s.ends e.other).log = .http head :: done ∧ Got (s.ends e) done ∧ done.any isClose = false := by
  cases inv.reads e with
  | handshake connecting => exact absurd (connected.symm.trans connecting) (by decide)
  | opened head done rest _ split _ got noClose awaits =>
    have genuine := (inv.ends e.other).genuine split
    rw [nothing] at awaits
    rw [awaits.none_left genuine, List.append_nil] at split
    exact ⟨head, done, split, got, noClose⟩
  | ended done rest gone =>
    rcases gone with gone | gone <;> exact absurd (connected.symm.trans gone) (by decide)

theorem Inv.both_open (inv : Inv env setup s) (wellFormed : WellFormed setup.host setup.path setup.protocols)
    (nothing : ∀ e, s.flight e = []) (whole : ∀ e, s.broken e = false) (timely : ∀ e, ¬Overdue (s.ends e))
    (connected : (s.ends e).state = .connected) : (s.ends e.other).state = .connected := by
  cases inv.reads e.other with
  | handshake connecting => exact absurd connecting (inv.shaken wellFormed nothing (whole .server) e.other)
  | opened _ _ _ still => exact still
  | ended _ _ gone =>
    rcases gone with closed | failed
    · rcases (inv.alive e.other).closing closed with cut | sent
      · exact absurd ((whole e.other).symm.trans cut) (by decide)
      · obtain ⟨head, done, wrote, _, noClose⟩ := inv.read_all connected (nothing e)
        have closes := (inv.ends e.other).closes
        have none : done.countP isClose = 0 := by
          rw [List.countP_eq_zero]
          exact List.any_eq_false.mp noClose
        rw [wrote, sent, List.countP_cons, none] at closes
        exact absurd closes (by simp [hasOpcode])
    · rcases (inv.alive e.other).failed failed with cut | overdue
      · exact absurd ((whole e.other).symm.trans cut) (by decide)
      · exact absurd overdue (timely e.other)

theorem Inv.answered (inv : Inv env setup s) (wellFormed : WellFormed setup.host setup.path setup.protocols)
    (nothing : ∀ e, s.flight e = []) (whole : ∀ e, s.broken e = false) (timely : ∀ e, ¬Overdue (s.ends e))
    (connected : (s.ends e).state = .connected) : (s.ends e).mOutstandingPings ≤ 0 := by
  obtain ⟨head, done, wrote, got, _⟩ := inv.read_all connected (nothing e)
  have there := inv.both_open wellFormed nothing whole timely connected
  obtain ⟨head', done', wrote', got', _⟩ := inv.read_all there (nothing e.other)
  have pongs : (sents (s.ends e.other).log).countP isPong = done.countP isPong := by
    rw [wrote, List.countP_cons]
    rfl
  have pings : (sents (s.ends e).log).countP isPing = done'.countP isPing := by
    rw [e.other_other] at wrote'
    rw [wrote', List.countP_cons]
    rfl
  have unanswered := got.unanswered
  have same := got'.pongs
  omega

theorem InTime.uncut (inTime : InTime s label) : label.cuts = false := by
  cases label with
  | lost | closeTimeout => exact absurd inTime Bool.false_ne_true
  | _ => rfl

theorem InTime.nothing (inTime : InTime s label) (idle : label = .idle e) : ∀ x, s.flight x = [] := by
  subst idle
  obtain ⟨client, server⟩ := Bool.and_eq_true_iff.mp inTime
  intro x
  cases x with
  | client => exact List.isEmpty_iff.mp client
  | server => exact List.isEmpty_iff.mp server

/-- What holds in a run in which everything is in time. -/
structure Kept (env : End → Environment) (setup : Setup) (s : Session) : Prop where
  inv : Inv env setup s
  whole : ∀ e, s.broken e = false
  timely : ∀ e, ¬Overdue (s.ends e)

theorem Kept.not_failed (kept : Kept env setup s) (e : End) : (s.ends e).state ≠ .failed := by
  intro failed
  rcases (kept.inv.alive e).failed failed with cut | overdue
  · exact absurd ((kept.whole e).symm.trans cut) (by decide)
  · exact kept.timely e overdue

theorem Kept.step (quiet : ∀ e, Quiet (env e)) (sameHash : (env .client).sha1 = (env .server).sha1)
    (wellFormed : WellFormed setup.host setup.path setup.protocols) (kept : Kept env setup s)
    (step : Step env s label next) (inTime : InTime s label) : Kept env setup next := by
  have after := kept.inv.step quiet sameHash wellFormed step
  rcases kept.inv.step_cases quiet step with ⟨e, count, rfl, some, enough, rfl⟩ | ⟨more, new, goes, _, pings⟩
  · have full : (s.flight e).take count ≠ [] := by
      rw [← List.length_pos_iff, List.length_take]
      omega
    obtain ⟨_, received⟩ := kept.inv.receive_piece quiet sameHash wellFormed full
      (List.take_append_drop count (s.flight e)).symm
    refine ⟨after, kept.whole, fun x => ?_⟩
    rcases e.cases x with rfl | rfl
    · have here : (s.receive env x count).ends x = _ := Function.update_self ..
      rw [here]
      exact received.spared (kept.timely x)
    · have there : (s.receive env e count).ends e.other = s.ends e.other := Function.update_of_ne e.other_ne ..
      rw [there]
      exact kept.timely e.other
  · rw [inTime.uncut] at goes
    generalize own : label.own = e at goes pings
    constructor
    · exact after
    · intro x
      rw [goes.broken]
      rcases e.cases x with rfl | rfl
      · rw [Function.update_self, kept.whole, Bool.or_false]
      · rw [Function.update_of_ne e.other_ne]
        exact kept.whole _
    · intro x
      rcases e.cases x with rfl | rfl
      · intro overdue
        obtain ⟨positive, late⟩ := overdue
        rw [goes.acts.maximum] at positive late
        rw [goes.acts.outstanding, pings] at late
        split at late
        · rename_i ticks
          have zero := kept.inv.answered wellFormed (inTime.nothing ticks.1) kept.whole kept.timely ticks.2
          omega
        · exact kept.timely x ⟨positive, by omega⟩
      · rw [goes.ends, Function.update_of_ne e.other_ne]
        exact kept.timely _

end

section
variable (env : End → Environment) (setup : Setup) (quiet : ∀ e, Quiet (env e))
  (sameHash : (env .client).sha1 = (env .server).sha1) (wellFormed : WellFormed setup.host setup.path setup.protocols)
  (trace : List (Label × Session)) (run : Run (Sessions.Step env) (setup.opening env) trace)
include quiet sameHash wellFormed run

/-- From every state of a session on, an open end that hears nothing and is not cut off stays open until its ticks,
with the PINGs that are outstanding already, are more than its maximum, and has failed from then on. -/
theorem always_detects :
    Always (fun s => ∀ e later, (s.ends e).state = .connected → Run (Sessions.Step env) s later →
        (∀ taken ∈ later, Silent e taken.1) →
        ((last s later).ends e).state =
          if 0 < setup.maxOutstandingPings e ∧
            setup.maxOutstandingPings e < (s.ends e).mOutstandingPings + ticks e later then .failed else .connected)
      (setup.opening env) trace :=
  always_mono (fun s inv _ later connected silentRun silent =>
      silent_run quiet sameHash wellFormed later s inv silentRun silent connected)
    trace _ (always_inv quiet sameHash wellFormed run)

/-- When nobody is cut off and no end is idle while something is on its way, no end ever fails, whatever its maximum. -/
theorem always_kept (inTime : Guarded InTime (setup.opening env) trace) :
    Always (fun s => ∀ e, (s.ends e).state ≠ .failed) (setup.opening env) trace := by
  have opening : Inv env setup (setup.opening env) := .opening quiet
  have state (e : End) : ((setup.opening env).ends e).state = .connecting := by
    cases e with
    | client =>
      show (setup.started env .client).state = .connecting
      rw [started_client (quiet .client)]
    | server => rfl
  have kept : Kept env setup (setup.opening env) :=
    ⟨opening, fun _ => rfl, fun e => (opening.alive e).timely (.inl (state e))⟩
  have all := always_of_guarded
      (fun _ _ _ kept step inTime => kept.step quiet sameHash wellFormed step inTime) trace _ kept
    run inTime
  exact always_mono (fun _ kept => kept.not_failed) trace _ all

end

def Session.keepsTime (env : End → Environment) : Session → List Label → Bool
  | _, [] => true
  | s, label :: rest => s.inTime label && (s.next env label).keepsTime env rest

theorem Session.walk_inTime (env : End → Environment) (labels : List Label) :
    ∀ s : Session, s.keepsTime env labels = true → Guarded InTime s (s.walk env labels) := by
  induction labels with
  | nil => exact fun _ _ => trivial
  | cons label rest ih =>
    intro s keeps
    obtain ⟨inTime, later⟩ := Bool.and_eq_true_iff.mp keeps
    exact ⟨inTime, ih _ later⟩

def impatient : Setup := { exampleSetup with maxOutstandingPings := fun _ => 1 }

def shaken : List Label := [.deliver .server 140, .deliver .client 153]

theorem shaken_run :
    Run (Sessions.Step accepts) (impatient.opening accepts) ((impatient.opening accepts).walk accepts shaken) :=
  Session.walk_run accepts shaken _ (by decide +kernel)

/-- The server hears nothing for two ticks. -/
theorem impatient_fails :
    let s := last (impatient.opening accepts) ((impatient.opening accepts).walk accepts shaken)
    ((last s (s.walk accepts [.idle .server, .idle .server])).ends .server).state = .failed := by
  intro s
  have all := always_detects accepts impatient accepts_quiet rfl exampleSetup_wellFormed _ shaken_run
  have connected : (s.ends .server).state = .connected := by decide +kernel
  have run : Run (Sessions.Step accepts) s (s.walk accepts [.idle .server, .idle .server]) :=
    Session.walk_run accepts _ s (by decide +kernel)
  have silent : ∀ taken ∈ s.walk accepts [.idle .server, .idle .server], Silent .server taken.1 := by
    simp [Session.walk, Silent, Label.own, Label.cuts]
  have detected := all.last .server _ connected run silent
  rw [detected]
  decide +kernel

/-- The PINGs of the server are answered, and then those of the client. -/
def punctual : List Label :=
  [.deliver .server 140, .deliver .client 153, .idle .server, .deliver .client 6, .deliver .server 10, .idle .server,
    .deliver .client 6, .deliver .server 10, .idle .client, .deliver .server 10, .deliver .client 6]

theorem punctual_kept :
    Always (fun s => ∀ e, (s.ends e).state ≠ .failed) (impatient.opening accepts)
      ((impatient.opening accepts).walk accepts punctual) :=
  always_kept accepts impatient accepts_quiet rfl exampleSetup_wellFormed _
    (Session.walk_run accepts punctual _ (by decide +kernel))
        (Session.walk_inTime accepts punctual _ (by decide +kernel))

end WebsocketClient.Sessions
