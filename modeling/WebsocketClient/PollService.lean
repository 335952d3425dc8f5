import Mathlib.Algebra.Ring.Nat
import Mathlib.Data.List.Nodup
import WebsocketClient.Library.Runs
import WebsocketClient.TcpTransport

/-! `impl/pollservice.cpp`. The poll thread builds a batch of sockets, waits for it in `::poll`, and calls
back for what is reported. Other threads add and remove sockets before `process` takes the mutex, and the
callbacks do so from within. -/

namespace WebsocketClient.PollServices
open TcpTransports Library.Runs

inductive Event where
  | error
  | timeout
  | «in»
  | out
  deriving DecidableEq, Repr

/-- A callback is known by a number. -/
structure Params where
  direction : Direction
  timeout : Option Nat
  callback : Nat
  deriving DecidableEq, Repr

structure SocketEntry where
  params : Params
  «until» : Option Nat
  deriving DecidableEq, Repr

/-- `std::unordered_map<socket_t, SocketEntry>`, in the order in which it is gone through. -/
structure SocketMap where
  entries : List (Nat × SocketEntry)
  nodup : (entries.map Prod.fst).Nodup

namespace SocketMap

def find (map : SocketMap) (sock : Nat) : Option SocketEntry := map.entries.lookup sock

def erase (map : SocketMap) (sock : Nat) : SocketMap where
  entries := map.entries.filter fun entry => entry.1 != sock
  nodup := map.nodup.sublist (List.filter_sublist.map Prod.fst)

def insertOrAssign (map : SocketMap) (sock : Nat) (entry : SocketEntry) : SocketMap where
  entries := (sock, entry) :: (map.erase sock).entries
  nodup := by
    rw [List.map_cons, List.nodup_cons]
    refine ⟨?_, (map.erase sock).nodup⟩
    simp [erase]

theorem lookup_filter (entries : List (Nat × SocketEntry)) {sock other : Nat} :
    (entries.filter fun entry => entry.1 != sock).lookup other =
      if other = sock then none else entries.lookup other := by
  induction entries with
  | nil => simp
  | cons entry entries ih =>
    rcases entry with ⟨key, value⟩
    by_cases same : key = sock
    · subst same
      rw [List.filter_cons_of_neg (by simp), ih]
      by_cases here : other = key
      · rw [if_pos here, if_pos here]
      · rw [if_neg here, if_neg here, List.lookup_cons, beq_false_of_ne here]
    · rw [List.filter_cons_of_pos (by simpa using same), List.lookup_cons, List.lookup_cons]
      by_cases here : other = key
      · subst here
        simp [same]
      · rw [beq_false_of_ne here]
        exact ih

theorem find_erase (map : SocketMap) (sock other : Nat) :
    (map.erase sock).find other = if other = sock then none else map.find other :=
  lookup_filter map.entries

theorem find_insertOrAssign (map : SocketMap) (sock other : Nat) (entry : SocketEntry) :
    (map.insertOrAssign sock entry).find other = if other = sock then some entry else map.find other := by
  have erased := find_erase map sock other
  unfold find insertOrAssign
  rw [List.lookup_cons]
  by_cases same : other = sock
  · simp [same]
  · rw [if_neg same] at erased ⊢
    rw [beq_false_of_ne same]
    exact erased

end SocketMap

/-- `POLLIN` and `POLLOUT` in `events`. -/
structure Events where
  pollin : Bool
  pollout : Bool
  deriving DecidableEq, Repr

structure Revents where
  pollin : Bool
  pollout : Bool
  pollerr : Bool
  pollhup : Bool
  pollnval : Bool
  deriving DecidableEq, Repr

structure Pollfd where
  fd : Nat
  events : Events
  revents : Revents
  deriving DecidableEq, Repr

def directionEvents : Direction → Events
  | .in => ⟨true, false⟩
  | .out => ⟨false, true⟩
  | .both => ⟨true, true⟩

def noRevents : Revents := ⟨false, false, false, false, false⟩

inductive Phase where
  /-- Behind a batch, or before the first one. -/
  | idle
  /-- In `::poll`, without the mutex. -/
  | polling (pfds : List Pollfd) (next : Option Nat)
  /-- In `process`, with the mutex, before the first of these entries. -/
  | processing (pfds : List Pollfd)
  /-- In the callback of a socket; when `out` is set it is called for `Out` next. -/
  | calling (sock : Nat) (callback : Nat) (out : Bool) (pfds : List Pollfd)
  deriving DecidableEq, Repr

/-- What happens to a socket after `prepare`. -/
inductive Entry where
  | removed (sock : Nat)
  | called (sock : Nat) (callback : Nat) (event : Event)
  deriving DecidableEq, Repr

structure PollService where
  mSocks : SocketMap
  phase : Phase
  log : List Entry

/-- What `process` finds in an entry. -/
inductive Report where
  | error
  | ready (callIn callOut : Bool)
  | timeout
  | nothing
  deriving DecidableEq, Repr

def report (pfd : Pollfd) (entry : SocketEntry) (now : Nat) : Report :=
  if pfd.revents.pollnval || pfd.revents.pollerr || (pfd.revents.pollhup && !pfd.events.pollin) then .error
  else if pfd.revents.pollin || pfd.revents.pollout || pfd.revents.pollhup then
    .ready (pfd.revents.pollin || pfd.revents.pollhup) pfd.revents.pollout
  else if entry.until.any (· ≤ now) then .timeout
  else .nothing

namespace PollService
variable (s : PollService)

def add (sock : Nat) (params : Params) (now : Nat) : PollService :=
  { s with mSocks := s.mSocks.insertOrAssign sock ⟨params, params.timeout.map (now + ·)⟩ }

def remove (sock : Nat) : PollService :=
  { s with mSocks := s.mSocks.erase sock, log := s.log ++ [.removed sock] }

/-- The entry of the interrupter, which comes first, is left out. -/
def prepare : PollService :=
  let pfds := s.mSocks.entries.map fun (sock, entry) => ⟨sock, directionEvents entry.params.direction, noRevents⟩
  let next := s.mSocks.entries.foldl (fun next (_, entry) =>
    match entry.until with
    | none => next
    | some time => some (next.elim time (min time))) none
  { s with phase := .polling pfds next, log := [] }

def call (sock callback : Nat) (event : Event) (out : Bool) (pfds : List Pollfd) : PollService :=
  { s with phase := .calling sock callback out pfds, log := s.log ++ [.called sock callback event] }

/-- One round of the loop of `process`, up to its first callback. -/
def processOne (pfd : Pollfd) (pfds : List Pollfd) (now : Nat) : PollService :=
  let sock := pfd.fd
  match s.mSocks.find sock with
  | none => { s with phase := .processing pfds }
  | some entry =>
    let callback := entry.params.callback
    match report pfd entry now with
    | .error => call { s with mSocks := s.mSocks.erase sock } sock callback .error false pfds
    | .ready callIn callOut =>
      let s := { s with mSocks :=
        s.mSocks.insertOrAssign sock { entry with «until» := entry.params.timeout.map (now + ·) } }
      if callIn then s.call sock callback .in callOut pfds else s.call sock callback .out false pfds
    | .timeout => call { s with mSocks := s.mSocks.erase sock } sock callback .timeout false pfds
    | .nothing => { s with phase := .processing pfds }

end PollService

inductive Label where
  | add (sock : Nat) (params : Params) (now : Nat)
  | remove (sock : Nat)
  | prepare
  | poll (revents : Nat → Revents)
  | process (now : Nat)
  /-- The callback returns or throws. -/
  | returns
  | throws
  | finish

/-- The mutex is free, or held by the thread itself, which is in a callback. -/
def Phase.open : Phase → Bool
  | .processing _ => false
  | .idle | .polling _ _ | .calling _ _ _ _ => true

inductive Step (s : PollService) : Label → PollService → Prop where
  | add (sock : Nat) (params : Params) (now : Nat) : s.phase.open = true →
      Step s (.add sock params now) (s.add sock params now)
  | remove (sock : Nat) : s.phase.open = true → Step s (.remove sock) (s.remove sock)
  | prepare : s.phase = .idle → Step s .prepare s.prepare
  | poll (pfds : List Pollfd) (next : Option Nat) (revents : Nat → Revents) : s.phase = .polling pfds next →
      Step s (.poll revents)
        { s with phase := .processing (pfds.map fun pfd => { pfd with revents := revents pfd.fd }) }
  | process (pfd : Pollfd) (pfds : List Pollfd) (now : Nat) : s.phase = .processing (pfd :: pfds) →
      Step s (.process now) (s.processOne pfd pfds now)
  | returnsIn (sock callback : Nat) (pfds : List Pollfd) : s.phase = .calling sock callback true pfds →
      Step s .returns (s.call sock callback .out false pfds)
  | returns (sock callback : Nat) (pfds : List Pollfd) : s.phase = .calling sock callback false pfds →
      Step s .returns { s with phase := .processing pfds }
  | throws (sock callback : Nat) (out : Bool) (pfds : List Pollfd) : s.phase = .calling sock callback out pfds →
      Step s .throws { s with mSocks := s.mSocks.erase sock, phase := .processing pfds }
  | finish : s.phase = .processing [] → Step s .finish { s with phase := .idle }

/-- No callback is made for a socket out of a batch that was prepared before it was removed. -/
def Quiet (s : PollService) : Prop :=
  s.log.Pairwise fun earlier later => ∀ sock callback event, earlier = .removed sock →
      later ≠ .called sock callback event

/-- The socket was removed since the batch was prepared. -/
def Removed (s : PollService) (sock : Nat) : Prop := .removed sock ∈ s.log

/-- The number of a socket that was removed is registered again, and its entry has something to report. -/
def Reused (s : PollService) (now : Nat) : Prop :=
  ∃ pfd pfds entry, s.phase = .processing (pfd :: pfds) ∧ Removed s pfd.fd ∧ s.mSocks.find pfd.fd = some entry ∧
    report pfd entry now ≠ .nothing

/-- The callback for `In` has removed its socket, and `Out` is set as well. -/
def Gone (s : PollService) : Prop :=
  ∃ sock callback pfds, s.phase = .calling sock callback true pfds ∧ Removed s sock

def Current (s : PollService) : Label → Prop
  | .process now => ¬Reused s now
  | .returns => ¬Gone s
  | _ => True

section
variable {s next : PollService}

theorem Quiet.same (quiet : Quiet s) (log : next.log = s.log) : Quiet next := by
  unfold Quiet
  rw [log]
  exact quiet

theorem Quiet.remove (quiet : Quiet s) (sock : Nat) : Quiet (s.remove sock) := by
  refine List.pairwise_append.mpr ⟨quiet, List.pairwise_singleton .., ?_⟩
  intro _ _ later member _ _ _ _
  rw [List.mem_singleton.mp member]
  exact Entry.noConfusion

theorem quiet_call_iff (quiet : Quiet s) (sock callback : Nat) (event : Event) (out : Bool) (pfds : List Pollfd) :
    Quiet (s.call sock callback event out pfds) ↔ ¬Removed s sock := by
  constructor
  · intro after removed
    exact (List.pairwise_append.mp after).2.2 _ removed _ (List.mem_singleton_self _) sock callback event rfl rfl
  · intro current
    refine List.pairwise_append.mpr ⟨quiet, List.pairwise_singleton .., ?_⟩
    intro earlier before later member other _ _ same called
    rw [List.mem_singleton.mp member] at called
    rw [same, ← (Entry.called.inj called).1] at before
    exact current before

theorem processOne_cases (s : PollService) (pfd : Pollfd) (pfds : List Pollfd) (now : Nat) :
    ((∀ entry, s.mSocks.find pfd.fd = some entry → report pfd entry now = .nothing) ∧
        s.processOne pfd pfds now = { s with phase := .processing pfds }) ∨
      ∃ entry, s.mSocks.find pfd.fd = some entry ∧ report pfd entry now ≠ .nothing ∧
        ∃ mSocks event out, s.processOne pfd pfds now =
            PollService.call { s with mSocks := mSocks } pfd.fd entry.params.callback event out pfds ∧
          ∀ other, other ≠ pfd.fd → mSocks.find other = s.mSocks.find other := by
  have erased : ∀ other, other ≠ pfd.fd → (s.mSocks.erase pfd.fd).find other = s.mSocks.find other := by
    intro other different
    rw [SocketMap.find_erase, if_neg different]
  unfold PollService.processOne
  simp only
  cases found : s.mSocks.find pfd.fd with
  | none => exact .inl ⟨fun entry same => (Option.some_ne_none entry same.symm).elim, rfl⟩
  | some entry =>
    cases reported : report pfd entry now with
    | nothing =>
      refine .inl ⟨?_, by simp only [reported]⟩
      intro other same
      rw [← Option.some.inj same]
      exact reported
    | error => exact .inr ⟨entry, rfl, by simp [reported], s.mSocks.erase pfd.fd, .error, false,
        by simp only [reported], erased⟩
    | timeout => exact .inr ⟨entry, rfl, by simp [reported], s.mSocks.erase pfd.fd, .timeout, false,
        by simp only [reported], erased⟩
    | ready callIn callOut =>
      refine .inr ⟨entry, rfl, by simp [reported], s.mSocks.insertOrAssign pfd.fd
        { entry with «until» := entry.params.timeout.map (now + ·) }, ?_⟩
      have others : ∀ other, other ≠ pfd.fd → (s.mSocks.insertOrAssign pfd.fd
          { entry with «until» := entry.params.timeout.map (now + ·) }).find other = s.mSocks.find other := by
        intro other different
        rw [SocketMap.find_insertOrAssign, if_neg different]
      simp only [reported]
      cases callIn with
      | true => exact ⟨.in, callOut, rfl, others⟩
      | false => exact ⟨.out, false, rfl, others⟩

end

theorem keeps_quiet (s : PollService) (label : Label) (next : PollService) (quiet : Quiet s)
    (step : Step s label next) (current : Current s label) : Quiet next := by
  cases step with
  | add sock params now free => exact quiet.same rfl
  | remove sock free => exact quiet.remove sock
  | prepare idle => exact .nil
  | poll pfds next revents polling => exact quiet.same rfl
  | process pfd pfds now processing =>
    rcases processOne_cases s pfd pfds now with ⟨_, same⟩ | ⟨entry, found, reported, mSocks, event, out, same, _⟩
    · rw [same]
      exact quiet.same rfl
    · rw [same, quiet_call_iff (s := { s with mSocks := mSocks }) quiet]
      exact fun removed => current ⟨pfd, pfds, entry, processing, removed, found, reported⟩
  | returnsIn sock callback pfds calling =>
    rw [quiet_call_iff quiet]
    exact fun removed => current ⟨sock, callback, pfds, calling, removed⟩
  | returns sock callback pfds calling => exact quiet.same rfl
  | throws sock callback out pfds calling => exact quiet.same rfl
  | finish processing => exact quiet.same rfl

theorem breaks_quiet (s : PollService) (label : Label) (next : PollService) (quiet : Quiet s)
    (step : Step s label next) (against : ¬Current s label) : ¬Quiet next := by
  cases step with
  | process pfd pfds now processing =>
    obtain ⟨other, rest, entry, processing', removed, found, reported⟩ := not_not.mp against
    obtain ⟨rfl, rfl⟩ := List.cons.inj (Phase.processing.inj (processing.symm.trans processing'))
    rcases processOne_cases s pfd pfds now with ⟨nothing, _⟩ | ⟨entry', _, _, mSocks, event, out, same, _⟩
    · exact absurd (nothing entry found) reported
    · rw [same, quiet_call_iff (s := { s with mSocks := mSocks }) quiet]
      exact fun current => current removed
  | returnsIn sock callback pfds calling =>
    obtain ⟨other, callback', rest, calling', removed⟩ := not_not.mp against
    have same := (Phase.calling.inj (calling.symm.trans calling')).1
    rw [quiet_call_iff quiet, same]
    exact fun current => current removed
  | returns sock callback pfds calling =>
    obtain ⟨other, callback', rest, calling', removed⟩ := not_not.mp against
    exact absurd (Phase.calling.inj (calling.symm.trans calling')).2.2.1 Bool.false_ne_true
  | add | remove | prepare | poll | throws | finish => exact absurd trivial against

/-- In a run no stale callback is made, exactly when no number in use again is reported on, and no callback
for `In` removes a socket that `Out` is set for. -/
theorem quiet_iff (s : PollService) (start : s.log = []) (trace : List (Label × PollService))
    (run : Run Step s trace) : Always Quiet s trace ↔ Guarded Current s trace := by
  have quiet : Quiet s := by
    unfold Quiet
    rw [start]
    exact .nil
  exact always_iff (fun _ quiet => quiet) keeps_quiet breaks_quiet trace s quiet run

def params : Params := ⟨.both, none, 0⟩

/-- Two sockets, with nothing prepared. -/
def registered : PollService where
  mSocks := (SocketMap.mk [(5, ⟨params, none⟩)] (List.nodup_singleton 5)).insertOrAssign 4 ⟨params, none⟩
  phase := .idle
  log := []

def batch : List Pollfd := [⟨4, ⟨true, true⟩, noRevents⟩, ⟨5, ⟨true, true⟩, noRevents⟩]

def readable (sock : Nat) : Nat → Revents := fun fd => { noRevents with pollin := fd == sock }

/-- A socket is removed while the thread is in `::poll`, and only the other one is called back. -/
def removedInTime : List (Label × PollService) :=
  let one := registered.prepare
  let two := one.remove 4
  let three := { two with phase := .processing [⟨4, ⟨true, true⟩, readable 5 4⟩, ⟨5, ⟨true, true⟩, readable 5 5⟩] }
  let four := three.processOne ⟨4, ⟨true, true⟩, readable 5 4⟩ [⟨5, ⟨true, true⟩, readable 5 5⟩] 0
  let five := four.processOne ⟨5, ⟨true, true⟩, readable 5 5⟩ [] 0
  [(.prepare, one), (.remove 4, two), (.poll (readable 5), three), (.process 0, four), (.process 0, five),
    (.returns, { five with phase := .processing [] })]

theorem quiet_removedInTime :
    Always Quiet registered removedInTime ↔ Guarded Current registered removedInTime :=
  quiet_iff registered rfl removedInTime
    ⟨.prepare rfl, .remove 4 rfl, .poll batch none (readable 5) rfl, .process _ _ 0 rfl, .process _ _ 0 rfl,
      .returns 5 0 [] rfl, trivial⟩

/-- While the thread is in `::poll`, socket 4 is removed and its number is given to a new connection, which
then is told what was reported for the old one. -/
def reusedNumber : List (Label × PollService) :=
  let one := registered.prepare
  let two := one.remove 4
  let three := two.add 4 ⟨.out, none, 1⟩ 0
  let four := { three with phase := .processing [⟨4, ⟨true, true⟩, readable 4 4⟩, ⟨5, ⟨true, true⟩, readable 4 5⟩] }
  let five := four.processOne ⟨4, ⟨true, true⟩, readable 4 4⟩ [⟨5, ⟨true, true⟩, readable 4 5⟩] 0
  [(.prepare, one), (.remove 4, two), (.add 4 ⟨.out, none, 1⟩ 0, three), (.poll (readable 4), four), (.process 0, five)]

theorem reusedNumber_not_quiet : ¬∀ (s : PollService) (trace : List (Label × PollService)), s.log = [] →
    Run Step s trace → Always Quiet s trace := by
  intro all
  have run : Run Step registered reusedNumber :=
    ⟨.prepare rfl, .remove 4 rfl, .add 4 _ 0 rfl, .poll batch none (readable 4) rfl, .process _ _ 0 rfl, trivial⟩
  have quiet := (all registered reusedNumber rfl run).last
  exact absurd rfl (List.rel_of_pairwise_cons quiet (List.mem_singleton_self _) 4 1 .in rfl)

/-- The sockets that were removed are not registered, and the one whose callback runs for `In` is none of them. -/
structure Unused (s : PollService) : Prop where
  quiet : Quiet s
  removed : ∀ sock, Removed s sock → s.mSocks.find sock = none
  calling : ∀ sock callback pfds, s.phase = .calling sock callback true pfds → ¬Removed s sock

/-- No number is registered again in a batch, and no callback for `In` removes its own socket. -/
def Fresh (s : PollService) : Label → Prop
  | .add sock _ _ => ¬Removed s sock
  | .remove sock => ∀ callback pfds, s.phase ≠ .calling sock callback true pfds
  | _ => True

theorem Unused.same {s next : PollService} (unused : Unused s) (log : next.log = s.log)
    (mSocks : ∀ sock, s.mSocks.find sock = none → next.mSocks.find sock = none)
    (idle : ∀ sock callback pfds, next.phase ≠ .calling sock callback true pfds) : Unused next where
  quiet := unused.quiet.same log
  removed sock removed := by
    rw [Removed, log] at removed
    exact mSocks sock (unused.removed sock removed)
  calling sock callback pfds phase := absurd phase (idle sock callback pfds)

theorem Unused.call {s : PollService} (unused : Unused s) {sock : Nat} (present : ¬Removed s sock) (mSocks : SocketMap)
    (others : ∀ other, other ≠ sock → mSocks.find other = s.mSocks.find other) (callback : Nat) (event : Event)
    (out : Bool) (pfds : List Pollfd) :
    Unused (PollService.call { s with mSocks := mSocks } sock callback event out pfds) := by
  have before : ∀ other, Removed (PollService.call { s with mSocks := mSocks } sock callback event out pfds) other →
      Removed s other := by
    intro other removed
    simpa [Removed, PollService.call] using removed
  refine ⟨(quiet_call_iff (s := { s with mSocks := mSocks }) unused.quiet ..).mpr present, ?_, ?_⟩
  · intro other removed
    have different : other ≠ sock := fun same => present (same ▸ before other removed)
    exact (others other different).trans (unused.removed other (before other removed))
  · intro other callback' pfds' phase removed
    exact present ((Phase.calling.inj phase).1 ▸ before other removed)

theorem keeps_unused (s : PollService) (label : Label) (next : PollService) (unused : Unused s)
    (step : Step s label next) (fresh : Fresh s label) : Unused next := by
  cases step with
  | add sock params now free =>
    refine ⟨unused.quiet.same rfl, ?_, unused.calling⟩
    intro other removed
    have different : other ≠ sock := fun same => fresh (same ▸ removed)
    rw [PollService.add, SocketMap.find_insertOrAssign, if_neg different]
    exact unused.removed other removed
  | remove sock free =>
    refine ⟨unused.quiet.remove sock, ?_, ?_⟩
    · intro other removed
      rw [PollService.remove, SocketMap.find_erase]
      split
      · rfl
      · rename_i different
        exact unused.removed other (by simpa [Removed, PollService.remove, different] using removed)
    · intro other callback pfds calling removed
      have different : other ≠ sock := fun same => fresh callback pfds (same ▸ calling)
      exact unused.calling other callback pfds calling (by simpa [Removed, PollService.remove, different] using removed)
  | prepare idle =>
    exact ⟨.nil, fun _ removed => absurd removed List.not_mem_nil,
        fun _ _ _ _ removed => absurd removed List.not_mem_nil⟩
  | poll pfds next revents polling => exact unused.same rfl (fun _ vacant => vacant) (fun _ _ _ => Phase.noConfusion)
  | process pfd pfds now processing =>
    rcases processOne_cases s pfd pfds now with ⟨_, same⟩ | ⟨entry, found, _, mSocks, event, out, same, others⟩
    · rw [same]
      exact unused.same rfl (fun _ vacant => vacant) (fun _ _ _ => Phase.noConfusion)
    · rw [same]
      have present : ¬Removed s pfd.fd := by
        intro removed
        rw [unused.removed _ removed] at found
        cases found
      exact unused.call present mSocks others _ _ _ _
  | returnsIn sock callback pfds calling =>
    exact unused.call (unused.calling sock callback pfds calling) s.mSocks (fun _ _ => rfl) _ _ _ _
  | returns sock callback pfds calling =>
    exact unused.same rfl (fun _ vacant => vacant) (fun _ _ _ => Phase.noConfusion)
  | throws sock callback out pfds calling =>
    refine unused.same rfl ?_ (fun _ _ _ => Phase.noConfusion)
    intro other vacant
    rw [SocketMap.find_erase, vacant, ite_self]
  | finish processing => exact unused.same rfl (fun _ vacant => vacant) (fun _ _ _ => Phase.noConfusion)

/-- Nothing goes wrong as long as no number is registered again in the batch in which it was removed, and
callbacks for `In` leave their socket registered. -/
theorem quiet_of_fresh (s : PollService) (idle : s.phase = .idle) (start : s.log = [])
    (trace : List (Label × PollService)) (run : Run Step s trace) (fresh : Guarded Fresh s trace) :
    Always Quiet s trace := by
  have unused : Unused s := by
    refine ⟨?_, ?_, ?_⟩
    · unfold Quiet
      rw [start]
      exact .nil
    · intro sock removed
      rw [Removed, start] at removed
      exact absurd removed List.not_mem_nil
    · intro sock callback pfds calling
      exact absurd (idle.symm.trans calling) Phase.noConfusion
  exact always_mono (fun _ unused => unused.quiet) trace s (always_of_guarded keeps_unused trace s unused run fresh)

end WebsocketClient.PollServices
