import WebsocketClient.PollService

/-! `impl/pollinterrupter.cpp` and the loop around `::poll`. A byte in a pipe ends the wait of the poll thread
when the sockets change or the service is stopped. The pipe may be full, and `process` empties it while
`PollService::join` writes to it without the mutex. -/

namespace WebsocketClient.PollInterrupters
open PollServices (PollService Params Pollfd Revents noRevents)
open Library.Runs

inductive Thread where
  /-- At the head of the loop, and behind the test of `mStopped`. -/
  | checking
  | preparing
  /-- In `::poll`. -/
  | waiting
  /-- Behind it; `pollin` is the event of the pipe. -/
  | returned (pollin : Bool) (revents : Nat → Revents)
  /-- In `PollInterrupter::process`, with the mutex. -/
  | draining (revents : Nat → Revents)
  /-- In the rest of `process`. -/
  | working
  | stopped

inductive Join where
  | outside
  /-- It has set `mStopped` and left the mutex. -/
  | interrupting
  | joining
  | joined
  deriving DecidableEq, Repr

structure PollLoop where
  service : PollService
  thread : Thread
  /-- The bytes in the pipe. -/
  pipe : Nat
  mStopped : Bool
  join : Join

/-- `start`. -/
def PollLoop.initial : PollLoop where
  service := ⟨⟨[], List.nodup_nil⟩, .idle, []⟩
  thread := .checking
  pipe := 0
  mStopped := false
  join := .outside

/-- `::write` of one byte; a full pipe is left as it is. -/
def interrupt (capacity pipe : Nat) : Nat := if pipe < capacity then pipe + 1 else pipe

inductive Label where
  | add (sock : Nat) (params : Params) (now : Nat)
  | remove (sock : Nat)
  | check
  | prepare
  | poll (revents : Nat → Revents)
  | lock
  | read
  | work (label : PollServices.Label)
  | join
  | interrupt
  | joined

def Thread.open : Thread → Bool
  | .draining _ => false
  | _ => true

def Thread.free : Thread → Bool
  | .draining _ | .working => false
  | _ => true

/-- The steps of `process` behind the interrupter. -/
def inside : PollServices.Label → Bool
  | .process _ | .returns | .throws => true
  | _ => false

/-- `::poll` returns when there is something to report, or when a deadline is over. -/
def Returns (pipe : Nat) (pfds : List Pollfd) (next : Option Nat) (revents : Nat → Revents) : Prop :=
  0 < pipe ∨ (∃ pfd ∈ pfds, revents pfd.fd ≠ noRevents) ∨ next.isSome

inductive Step (capacity : Nat) (s : PollLoop) : Label → PollLoop → Prop where
  | add (sock : Nat) (params : Params) (now : Nat) : s.thread.open = true → s.service.phase.open = true →
      s.join ≠ .joined → Step capacity s (.add sock params now)
        { s with service := s.service.add sock params now, pipe := interrupt capacity s.pipe }
  | remove (sock : Nat) : s.thread.open = true → s.service.phase.open = true → s.join ≠ .joined →
      Step capacity s (.remove sock) { s with service := s.service.remove sock, pipe := interrupt capacity s.pipe }
  | check : s.thread = .checking →
      Step capacity s .check { s with thread := if s.mStopped then .stopped else .preparing }
  | prepare : s.thread = .preparing →
      Step capacity s .prepare { s with service := s.service.prepare, thread := .waiting }
  | poll (pfds : List Pollfd) (next : Option Nat) (revents : Nat → Revents) : s.thread = .waiting →
      s.service.phase = .polling pfds next → Returns s.pipe pfds next revents →
      Step capacity s (.poll revents) { s with thread := .returned (decide (0 < s.pipe)) revents }
  | lock (revents : Nat → Revents) : s.thread = .returned true revents →
      Step capacity s .lock { s with thread := .draining revents }
  | lockQuiet (revents : Nat → Revents) (service : PollService) : s.thread = .returned false revents →
      PollServices.Step s.service (.poll revents) service →
      Step capacity s .lock { s with service := service, thread := .working }
  | read (revents : Nat → Revents) : s.thread = .draining revents → 0 < s.pipe →
      Step capacity s .read { s with pipe := s.pipe - 1 }
  | drained (revents : Nat → Revents) (service : PollService) : s.thread = .draining revents → s.pipe = 0 →
      PollServices.Step s.service (.poll revents) service →
      Step capacity s .read { s with service := service, thread := .working }
  | work (label : PollServices.Label) (service : PollService) : s.thread = .working → inside label = true →
      PollServices.Step s.service label service → Step capacity s (.work label) { s with service := service }
  | finish (service : PollService) : s.thread = .working → PollServices.Step s.service .finish service →
      Step capacity s (.work .finish) { s with service := service, thread := .checking }
  -- `std::exchange(mStopped, true)`
  | join : s.join = .outside → s.thread.free = true →
      Step capacity s .join { s with mStopped := true, join := .interrupting }
  | interrupt : s.join = .interrupting →
      Step capacity s .interrupt { s with pipe := interrupt capacity s.pipe, join := .joining }
  | joined : s.join = .joining → s.thread = .stopped → Step capacity s .joined { s with join := .joined }

/-- The batch is the one that `prepare` would build now. -/
def UpToDate (s : PollLoop) : Prop := s.service.phase = s.service.prepare.phase

/-- The thread is in `::poll`, and nothing in the pipe wakes it. -/
def Blocked (s : PollLoop) : Prop := s.thread = .waiting ∧ s.pipe = 0

/-- Where the service is, for each place of the thread. -/
def Fits : Thread → PollServices.Phase → Prop
  | .checking, phase | .preparing, phase | .stopped, phase => phase = .idle
  | .waiting, phase | .returned _ _, phase | .draining _, phase => ∃ pfds next, phase = .polling pfds next
  | .working, phase => (∃ pfds, phase = .processing pfds) ∨ ∃ sock callback out pfds,
      phase = .calling sock callback out pfds

structure Invariant (s : PollLoop) : Prop where
  fits : Fits s.thread s.service.phase
  fresh : s.thread = .waiting → UpToDate s ∨ 0 < s.pipe
  stopping : s.mStopped = true → s.thread = .preparing ∨ s.thread = .waiting → s.join = .interrupting ∨ 0 < s.pipe
  join : s.mStopped = true ↔ s.join ≠ .outside

section
variable {capacity : Nat} {s next : PollLoop} {label : Label}

theorem interrupt_pos (some : 0 < capacity) (pipe : Nat) : 0 < interrupt capacity pipe := by
  unfold interrupt
  split <;> omega

theorem interrupt_le (capacity pipe : Nat) : interrupt capacity pipe ≤ pipe + 1 := by
  unfold interrupt
  split <;> omega

theorem Invariant.changed (inv : Invariant s) (some : 0 < capacity) (service : PollService)
    (phase : service.phase = s.service.phase) :
    Invariant { s with service := service, pipe := interrupt capacity s.pipe } where
  fits := by
    rw [phase]
    exact inv.fits
  fresh := fun _ => .inr (interrupt_pos some s.pipe)
  stopping := fun _ _ => .inr (interrupt_pos some s.pipe)
  join := inv.join

theorem inside_fits {before after : PollService} {inner : PollServices.Label} (within : inside inner = true)
    (step : PollServices.Step before inner after) : Fits .working after.phase := by
  cases step with
  | add | remove | prepare | poll | finish => exact absurd within (by simp [inside])
  | process pfd pfds now processing =>
    rcases PollServices.processOne_cases before pfd pfds now with ⟨_, same⟩ | ⟨entry, _, _, mSocks, event, out, same, _⟩
    · rw [same]
      exact .inl ⟨pfds, rfl⟩
    · rw [same]
      exact .inr ⟨_, _, _, _, rfl⟩
  | returnsIn sock callback pfds calling => exact .inr ⟨_, _, _, _, rfl⟩
  | returns sock callback pfds calling => exact .inl ⟨pfds, rfl⟩
  | throws sock callback out pfds calling => exact .inl ⟨pfds, rfl⟩

theorem Invariant.step (some : 0 < capacity) (inv : Invariant s) (step : Step capacity s label next) :
    Invariant next := by
  cases step with
  | add sock params now free _ there => exact inv.changed some _ rfl
  | remove sock free _ there => exact inv.changed some _ rfl
  | check here =>
    have idle : s.service.phase = .idle := by
      have fits := inv.fits
      rwa [here] at fits
    cases stopped : s.mStopped with
    | true =>
      refine ⟨idle, ?_, ?_, ?_⟩
      · exact fun waiting => absurd waiting (by simp)
      · exact fun _ place => absurd place (by simp)
      · rw [← inv.join, stopped]
    | false =>
      refine ⟨idle, ?_, ?_, ?_⟩
      · exact fun waiting => absurd waiting (by simp)
      · intro on
        have never : false = true := on
        exact absurd never (by decide)
      · rw [← inv.join, stopped]
  | prepare here =>
    refine ⟨⟨_, _, rfl⟩, fun _ => .inl rfl, fun stopped _ => ?_, inv.join⟩
    exact inv.stopping stopped (.inl here)
  | poll pfds later revents here phase returns =>
    refine ⟨⟨pfds, later, phase⟩, ?_, ?_, inv.join⟩
    · exact fun waiting => absurd waiting (by simp)
    · exact fun _ place => absurd place (by simp)
  | lock revents here =>
    have polling := inv.fits
    rw [here] at polling
    refine ⟨polling, ?_, ?_, inv.join⟩
    · exact fun waiting => absurd waiting (by simp)
    · exact fun _ place => absurd place (by simp)
  | lockQuiet revents service here processing =>
    cases processing
    refine ⟨.inl ⟨_, rfl⟩, ?_, ?_, inv.join⟩
    · exact fun waiting => absurd waiting (by simp)
    · exact fun _ place => absurd place (by simp)
  | read revents here full =>
    refine ⟨inv.fits, ?_, ?_, inv.join⟩
    · exact fun waiting => absurd (here.symm.trans waiting) (by simp)
    · intro _ place
      rcases place with place | place <;> exact absurd (here.symm.trans place) (by simp)
  | drained revents service here empty processing =>
    cases processing
    refine ⟨.inl ⟨_, rfl⟩, ?_, ?_, inv.join⟩
    · exact fun waiting => absurd waiting (by simp)
    · exact fun _ place => absurd place (by simp)
  | work label service here within inner =>
    refine ⟨?_, ?_, ?_, inv.join⟩
    · rw [here]
      exact inside_fits within inner
    · exact fun waiting => absurd (here.symm.trans waiting) (by simp)
    · intro _ place
      rcases place with place | place <;> exact absurd (here.symm.trans place) (by simp)
  | finish service here inner =>
    cases inner
    refine ⟨rfl, ?_, ?_, inv.join⟩
    · exact fun waiting => absurd waiting (by simp)
    · exact fun _ place => absurd place (by simp)
  | join outside free =>
    refine ⟨inv.fits, inv.fresh, fun _ _ => .inl rfl, ?_⟩
    simp
  | interrupt here =>
    refine ⟨inv.fits, fun _ => .inr (interrupt_pos some s.pipe), fun _ _ => .inr (interrupt_pos some s.pipe), ?_⟩
    rw [inv.join, here]
    simp
  | joined here stopped =>
    refine ⟨inv.fits, inv.fresh, ?_, ?_⟩
    · intro _ place
      rcases place with place | place <;> exact absurd (stopped.symm.trans place) (by simp)
    · rw [inv.join, here]
      simp

theorem Invariant.initial : Invariant .initial where
  fits := rfl
  fresh := fun waiting => absurd waiting (by simp [PollLoop.initial])
  stopping := fun stopped => absurd stopped (by simp [PollLoop.initial])
  join := by simp [PollLoop.initial]

theorem always_invariant (some : 0 < capacity) {trace : List (Label × PollLoop)}
    (run : Run (Step capacity) .initial trace) : Always Invariant .initial trace :=
  always_of_step (fun _ _ _ inv step => inv.step some step) trace _ .initial run

/-- A poll thread that nothing wakes waits for the sockets that are registered, with the deadlines that they
have, and nobody has stopped the service and told it so. -/
def Attentive (s : PollLoop) : Prop := Blocked s → UpToDate s ∧ (s.mStopped = true → s.join = .interrupting)

theorem Invariant.attentive (inv : Invariant s) : Attentive s := by
  intro blocked
  obtain ⟨waiting, empty⟩ := blocked
  constructor
  · rcases inv.fresh waiting with current | full
    · exact current
    · omega
  · intro stopped
    rcases inv.stopping stopped (.inr waiting) with interrupts | full
    · exact interrupts
    · omega

/-! ### The end of the service -/

/-- What the poll thread and the caller of `join` do. -/
def Own (capacity : Nat) (s : PollLoop) (label : Label) (next : PollLoop) : Prop :=
  Step capacity s label next ∧ (∀ sock params now, label ≠ .add sock params now) ∧ (∀ sock, label ≠ .remove sock)

/-- What is left of a batch. -/
def phaseWork : PollServices.Phase → Nat
  | .idle => 0
  | .polling pfds _ => 4 * pfds.length + 1
  | .processing pfds => 4 * pfds.length + 1
  | .calling _ _ out pfds => 4 * pfds.length + 2 + out.toNat

def threadWork (s : PollLoop) : Nat :=
  match s.thread with
  | .stopped => 0
  | .checking => 1
  | .working => 2 + phaseWork s.service.phase
  | .draining _ => 3 + phaseWork s.service.phase + s.pipe
  | .returned _ _ => 4 + phaseWork s.service.phase + s.pipe
  | .waiting => 5 + phaseWork s.service.phase + s.pipe
  | .preparing => 6 + phaseWork s.service.prepare.phase + s.pipe

def joinWork : Join → Nat
  | .outside => 0
  | .interrupting => 3
  | .joining => 1
  | .joined => 0

theorem inside_decreases {before after : PollService} {inner : PollServices.Label} (within : inside inner = true)
    (step : PollServices.Step before inner after) : phaseWork after.phase < phaseWork before.phase := by
  cases step with
  | add | remove | prepare | poll | finish => exact absurd within (by simp [inside])
  | process pfd pfds now processing =>
    rw [processing]
    rcases PollServices.processOne_cases before pfd pfds now with ⟨_, same⟩ | ⟨entry, _, _, mSocks, event, out, same, _⟩
    · rw [same]
      simp only [phaseWork, List.length_cons]
      omega
    · have once := Bool.toNat_le out
      rw [same]
      simp only [phaseWork, PollService.call, List.length_cons]
      omega
  | returnsIn sock callback pfds calling =>
    rw [calling]
    simp [phaseWork, PollService.call]
  | returns sock callback pfds calling =>
    rw [calling]
    simp only [phaseWork]
    omega
  | throws sock callback out pfds calling =>
    rw [calling]
    simp only [phaseWork]
    omega

theorem Invariant.decreases (inv : Invariant s) (stopped : s.mStopped = true) (own : Own capacity s label next) :
    threadWork next + joinWork next.join < threadWork s + joinWork s.join := by
  obtain ⟨step, noAdd, noRemove⟩ := own
  cases step with
  | add sock params now => exact absurd rfl (noAdd sock params now)
  | remove sock => exact absurd rfl (noRemove sock)
  | check here => simp [threadWork, here, stopped]
  | prepare here => simp [threadWork, here]
  | poll pfds later revents here phase returns => simp [threadWork, here]
  | lock revents here => simp [threadWork, here]
  | lockQuiet revents service here processing =>
    cases processing
    rename_i polling
    simp only [threadWork, here, polling, phaseWork, List.length_map]
    omega
  | read revents here full =>
    simp only [threadWork, here]
    omega
  | drained revents service here empty processing =>
    cases processing
    rename_i polling
    simp only [threadWork, here, polling, phaseWork, List.length_map]
    omega
  | work label service here within inner =>
    have less := inside_decreases within inner
    simp only [threadWork, here]
    omega
  | finish service here inner =>
    cases inner
    simp only [threadWork, here]
    omega
  | join outside free => exact absurd outside (inv.join.mp stopped)
  | interrupt here =>
    have more := interrupt_le capacity s.pipe
    rw [here]
    unfold threadWork joinWork
    cases s.thread <;> simp only <;> omega
  | joined here ended =>
    simp [threadWork, ended, here, joinWork]

theorem Invariant.moves (inv : Invariant s) (stopped : s.mStopped = true) (running : s.thread ≠ .stopped)
    (told : s.join ≠ .interrupting) : ∃ label next, Own capacity s label next := by
  have own : ∀ {label next}, Step capacity s label next → (∀ sock params now, label ≠ .add sock params now) →
      (∀ sock, label ≠ .remove sock) → ∃ label next, Own capacity s label next :=
    fun step noAdd noRemove => ⟨_, _, step, noAdd, noRemove⟩
  have fits := inv.fits
  cases here : s.thread with
  | checking => exact own (.check here) nofun nofun
  | preparing => exact own (.prepare here) nofun nofun
  | waiting =>
    rw [here] at fits
    obtain ⟨pfds, later, phase⟩ := fits
    have full : 0 < s.pipe := (inv.stopping stopped (.inr here)).resolve_left told
    exact own (.poll pfds later (fun _ => noRevents) here phase (.inl full)) nofun nofun
  | returned pollin revents =>
    rw [here] at fits
    obtain ⟨pfds, later, phase⟩ := fits
    cases pollin with
    | true => exact own (.lock revents here) nofun nofun
    | false => exact own (.lockQuiet revents _ here (.poll pfds later revents phase)) nofun nofun
  | draining revents =>
    rw [here] at fits
    obtain ⟨pfds, later, phase⟩ := fits
    rcases Nat.eq_zero_or_pos s.pipe with empty | full
    · exact own (.drained revents _ here empty (.poll pfds later revents phase)) nofun nofun
    · exact own (.read revents here full) nofun nofun
  | working =>
    rw [here] at fits
    rcases fits with ⟨pfds, phase⟩ | ⟨sock, callback, out, pfds, phase⟩
    · cases pfds with
      | nil => exact own (.finish _ here (.finish phase)) nofun nofun
      | cons pfd pfds => exact own (.work (.process 0) _ here rfl (.process pfd pfds 0 phase)) nofun nofun
    · cases out with
      | true => exact own (.work .returns _ here rfl (.returnsIn sock callback pfds phase)) nofun nofun
      | false => exact own (.work .returns _ here rfl (.returns sock callback pfds phase)) nofun nofun
  | stopped => exact absurd here running

theorem Own.stopped (own : Own capacity s label next) (stopped : s.mStopped = true) : next.mStopped = true := by
  obtain ⟨step, _, _⟩ := own
  cases step with
  | join outside free => rfl
  | _ => exact stopped

theorem Invariant.comes_to_join (some : 0 < capacity) (inv : Invariant s) (stopped : s.mStopped = true) :
    Inevitable (Own capacity) (fun last => last.thread = .stopped ∧ last.join = .joined) s := by
  let held : PollLoop → Prop := fun s => Invariant s ∧ s.mStopped = true
  have keeps : ∀ s label next, held s → Own capacity s label next → held next := fun _ _ _ holds own =>
    ⟨holds.1.step some own.1, own.stopped holds.2⟩
  have decreases : ∀ s label next, held s → Own capacity s label next →
      threadWork next + joinWork next.join < threadWork s + joinWork s.join :=
    fun _ _ _ holds own => holds.1.decreases holds.2 own
  apply inevitable_of_measure (fun s => threadWork s + joinWork s.join) keeps decreases ?_ s ⟨inv, stopped⟩
  intro last holds stuck
  have told : last.join ≠ .interrupting := fun here => stuck _ _ ⟨.interrupt here, nofun, nofun⟩
  have ended : last.thread = .stopped := by
    apply Classical.byContradiction
    intro running
    have moves : ∃ label next, Own capacity last label next := holds.1.moves holds.2 running told
    obtain ⟨label, next, own⟩ := moves
    exact stuck label next own
  refine ⟨ended, ?_⟩
  have inside := holds.1.join.mp holds.2
  cases place : last.join with
  | outside => exact absurd place inside
  | interrupting => exact absurd place told
  | joining => exact absurd ⟨.joined place ended, nofun, nofun⟩ (stuck .joined _)
  | joined => rfl

end

/-- In every run, a poll thread that nothing wakes waits for the sockets that are registered now, up to the
first of their deadlines, and a caller of `join` is yet to wake it. -/
theorem always_attentive (capacity : Nat) (some : 0 < capacity) (trace : List (Label × PollLoop))
    (run : Run (Step capacity) .initial trace) : Always Attentive .initial trace :=
  always_mono (fun _ inv => inv.attentive) trace _ (always_invariant some run)

/-- Once the service is stopped, whatever the order of the steps, the poll thread ends and `join` returns,
unless sockets are added and removed without end. -/
theorem always_joined (capacity : Nat) (some : 0 < capacity) (trace : List (Label × PollLoop))
    (run : Run (Step capacity) .initial trace) :
    Always (fun s => s.mStopped = true →
      Inevitable (Own capacity) (fun last => last.thread = .stopped ∧ last.join = .joined) s) .initial trace :=
  always_mono (fun _ inv stopped => inv.comes_to_join some stopped) trace _ (always_invariant some run)

/-- A socket is added and the service is stopped while the thread is in `::poll`. The pipe is full then, and is
emptied before `join` writes to it. -/
def lateInterrupt : List (Label × PollLoop) :=
  let waiting : PollLoop := { PollLoop.initial with service := PollLoop.initial.service.prepare, thread := .waiting }
  let added : PollLoop := { waiting with service := waiting.service.add 4 PollServices.params 0, pipe := 1 }
  let stopped : PollLoop := { added with mStopped := true, join := .interrupting }
  let drained : PollLoop := { stopped with thread := .draining fun _ => noRevents, pipe := 0 }
  let working : PollLoop := { drained with
    service := { drained.service with phase := .processing [] }, thread := .working }
  [(.check, { PollLoop.initial with thread := .preparing }),
    (.prepare, waiting),
    (.add 4 PollServices.params 0, added),
    (.join, stopped),
    (.poll fun _ => noRevents, { stopped with thread := .returned true fun _ => noRevents }),
    (.lock, { stopped with thread := .draining fun _ => noRevents }),
    (.read, drained),
    (.read, working),
    (.interrupt, { working with pipe := 1, join := .joining })]

theorem lateInterrupt_run : Run (Step 1) .initial lateInterrupt :=
  ⟨.check rfl, .prepare rfl, .add 4 _ 0 rfl rfl (by decide), .join rfl rfl, .poll [] none _ rfl rfl (.inl Nat.one_pos),
    .lock _ rfl, .read _ rfl Nat.one_pos, .drained _ _ rfl rfl (.poll [] none _ rfl), .interrupt rfl, trivial⟩

theorem lateInterrupt_attentive : Always Attentive .initial lateInterrupt :=
  always_attentive 1 Nat.one_pos lateInterrupt lateInterrupt_run

theorem lateInterrupt_joined :
    Always (fun s => s.mStopped = true →
      Inevitable (Own 1) (fun last => last.thread = .stopped ∧ last.join = .joined) s) .initial lateInterrupt :=
  always_joined 1 Nat.one_pos lateInterrupt lateInterrupt_run

end WebsocketClient.PollInterrupters
