import Mathlib.Algebra.Ring.Nat
import Mathlib.Data.List.Basic
import WebsocketClient.Library.Runs

/-! The tokens that keep the thread pool and the poll service alive. A `TokenPayload` is destroyed
with the last pointer to it, and starts a thread that runs `doCleanup` at any later time. -/

namespace WebsocketClient.Inits
open Library.Runs

/-- `Init`, with the tokens it has handed out and the threads it has started. -/
structure Init where
  /-- Payloads are numbered as they are created. -/
  created : Nat
  mGlobal : Option Nat
  mWeak : Option Nat
  mInitialized : Bool
  /-- The thread pool and the poll service have been started, and not joined since. -/
  services : Bool
  /-- The tokens held by someone, each with its payload. -/
  tokens : List Nat
  /-- Detached threads that have not run `doCleanup` yet. -/
  cleanups : Nat
  deriving DecidableEq, Repr

namespace Init

def Alive (s : Init) (payload : Nat) : Prop := s.mGlobal = some payload ∨ payload ∈ s.tokens

instance (s : Init) (payload : Nat) : Decidable (s.Alive payload) :=
  inferInstanceAs (Decidable (_ ∨ _))

/-- `mWeak.lock()`. -/
def lock (s : Init) : Option Nat := s.mWeak.filter fun payload => decide (s.Alive payload)

/-- A pointer to a payload is gone. The last one runs `~TokenPayload`. -/
def released (s : Init) (payload : Nat) : Init :=
  if s.Alive payload then s else { s with cleanups := s.cleanups + 1 }

def doInit (s : Init) : Init :=
  if s.mInitialized then s else { s with mInitialized := true, services := true }

def doCleanup (s : Init) : Init :=
  if s.mGlobal.isSome then s
  else if s.mInitialized then { s with mInitialized := false, services := false } else s

/-- `mGlobal` is assigned, and the payload it had loses a pointer. -/
def setGlobal (s : Init) (payload : Option Nat) : Init :=
  match s.mGlobal with
  | none => { s with mGlobal := payload }
  | some old => released { s with mGlobal := payload } old

/-- A new `TokenPayload` for `mGlobal` and `mWeak`. -/
def create (s : Init) : Init :=
  { { s.doInit with created := s.created + 1 }.setGlobal (some s.created) with mWeak := some s.created }

def token (s : Init) : Init :=
  match s.lock with
  | some payload => { s with tokens := payload :: s.tokens }
  | none => { s.create with tokens := s.created :: s.create.tokens }

def preload (s : Init) : Init := if s.mGlobal.isSome then s else s.create

def cleanup (s : Init) : Init := s.setGlobal none

def release (s : Init) (payload : Nat) : Init :=
  released { s with tokens := s.tokens.erase payload } payload

end Init

inductive Label where
  | token
  | preload
  | cleanup
  | copy (payload : Nat)
  | release (payload : Nat)
  | doCleanup
  deriving DecidableEq, Repr

/-- Calls hold `mMutex` to their end, and a pointer count changes at once. -/
inductive Step : Init → Label → Init → Prop where
  | token (s : Init) : Step s .token s.token
  | preload (s : Init) : Step s .preload s.preload
  | cleanup (s : Init) : Step s .cleanup s.cleanup
  | copy (s : Init) (payload : Nat) : payload ∈ s.tokens →
      Step s (.copy payload) { s with tokens := payload :: s.tokens }
  | release (s : Init) (payload : Nat) : payload ∈ s.tokens → Step s (.release payload) (s.release payload)
  | doCleanup (s : Init) : 0 < s.cleanups →
      Step s .doCleanup { s.doCleanup with cleanups := s.cleanups - 1 }

def Init.initial : Init where
  created := 0
  mGlobal := none
  mWeak := none
  mInitialized := false
  services := false
  tokens := []
  cleanups := 0

def Served (s : Init) : Prop := s.tokens ≠ [] → s.mInitialized = true ∧ s.services = true

/-- A cleanup thread comes to `doCleanup` with `mGlobal` set or without a token left. -/
def Unheld (s : Init) : Label → Prop
  | .doCleanup => s.mGlobal.isSome ∨ s.tokens = []
  | _ => True

structure Invariant (s : Init) : Prop where
  services : s.services = s.mInitialized
  inUse : s.mGlobal.isSome ∨ s.tokens ≠ [] → s.mInitialized = true

/-- What the steps other than `doCleanup` leave of the flags. -/
structure SameFlags (s next : Init) : Prop where
  mInitialized : next.mInitialized = s.mInitialized
  services : next.services = s.services

theorem Invariant.of_sameFlags {s next : Init} (inv : Invariant s) (same : SameFlags s next)
    (inUse : next.mGlobal.isSome ∨ next.tokens ≠ [] → s.mGlobal.isSome ∨ s.tokens ≠ []) : Invariant next where
  services := by rw [same.services, same.mInitialized, inv.services]
  inUse uses := by
    rw [same.mInitialized]
    exact inv.inUse (inUse uses)

theorem Invariant.served {s : Init} (inv : Invariant s) : Served s := by
  intro held
  have initialized := inv.inUse (.inr held)
  exact ⟨initialized, inv.services.trans initialized⟩

namespace Init

@[simp] theorem released_mGlobal (s : Init) (payload : Nat) : (s.released payload).mGlobal = s.mGlobal := by
  unfold released
  split <;> rfl

@[simp] theorem released_tokens (s : Init) (payload : Nat) : (s.released payload).tokens = s.tokens := by
  unfold released
  split <;> rfl

theorem released_sameFlags (s : Init) (payload : Nat) : SameFlags s (s.released payload) := by
  unfold released
  split <;> exact ⟨rfl, rfl⟩

@[simp] theorem setGlobal_mGlobal (s : Init) (payload : Option Nat) :
    (s.setGlobal payload).mGlobal = payload := by
  unfold setGlobal
  split
  · rfl
  · simp

@[simp] theorem setGlobal_tokens (s : Init) (payload : Option Nat) : (s.setGlobal payload).tokens = s.tokens := by
  unfold setGlobal
  split
  · rfl
  · simp

theorem setGlobal_sameFlags (s : Init) (payload : Option Nat) : SameFlags s (s.setGlobal payload) := by
  unfold setGlobal
  split
  · exact ⟨rfl, rfl⟩
  · have same := released_sameFlags { s with mGlobal := payload } ‹_›
    exact ⟨same.mInitialized, same.services⟩

theorem create_invariant {s : Init} (inv : Invariant s) : Invariant s.create := by
  have initialized : s.doInit.mInitialized = true ∧ s.doInit.services = true := by
    unfold doInit
    split
    · rename_i already
      exact ⟨already, inv.services.trans already⟩
    · exact ⟨rfl, rfl⟩
  have same := setGlobal_sameFlags { s.doInit with created := s.created + 1 } (some s.created)
  have flag : s.create.mInitialized = true := same.mInitialized.trans initialized.1
  exact ⟨(same.services.trans initialized.2).trans flag.symm, fun _ => flag⟩

theorem create_mGlobal (s : Init) : s.create.mGlobal = some s.created :=
  setGlobal_mGlobal ..

theorem inUse_of_lock {s : Init} {payload : Nat} (locked : s.lock = some payload) :
    s.mGlobal.isSome ∨ s.tokens ≠ [] := by
  have alive : s.Alive payload := by simpa using (Option.filter_eq_some_iff.mp locked).2
  rcases alive with global | token
  · exact .inl (by simp [global])
  · exact .inr (List.ne_nil_of_mem token)

end Init

theorem keeps_invariant (s : Init) (label : Label) (next : Init) (inv : Invariant s)
    (step : Step s label next) (unheld : Unheld s label) : Invariant next := by
  cases step with
  | token =>
    unfold Init.token
    split
    · rename_i payload locked
      exact inv.of_sameFlags ⟨rfl, rfl⟩ fun _ => Init.inUse_of_lock locked
    · have created := Init.create_invariant inv
      exact created.of_sameFlags ⟨rfl, rfl⟩ fun _ => .inl (by rw [Init.create_mGlobal]; rfl)
  | preload =>
    unfold Init.preload
    split
    · exact inv
    · exact Init.create_invariant inv
  | cleanup =>
    apply inv.of_sameFlags (Init.setGlobal_sameFlags s none)
    intro uses
    rw [Init.setGlobal_mGlobal, Init.setGlobal_tokens] at uses
    exact .inr (uses.resolve_left Bool.false_ne_true)
  | copy payload held =>
    exact inv.of_sameFlags ⟨rfl, rfl⟩ fun _ => .inr (List.ne_nil_of_mem held)
  | release payload held =>
    have same := Init.released_sameFlags { s with tokens := s.tokens.erase payload } payload
    exact inv.of_sameFlags ⟨same.mInitialized, same.services⟩ fun _ => .inr (List.ne_nil_of_mem held)
  | doCleanup pending =>
    unfold Init.doCleanup
    split
    · exact inv.of_sameFlags ⟨rfl, rfl⟩ id
    · rename_i released
      have none : s.tokens = [] := unheld.resolve_left released
      split
      · exact ⟨rfl, fun uses => (uses.elim released fun held => held none).elim⟩
      · exact inv.of_sameFlags ⟨rfl, rfl⟩ id

theorem breaks_served (s : Init) (label : Label) (next : Init) (step : Step s label next)
    (against : ¬Unheld s label) : ¬Served next := by
  cases step with
  | doCleanup pending =>
    obtain ⟨noGlobal, held⟩ := not_or.mp against
    intro served
    unfold Init.doCleanup at served
    rw [if_neg noGlobal] at served
    split at served
    · exact Bool.false_ne_true (served held).1
    · rename_i down
      exact down (served held).1
  | token | preload | cleanup | copy | release => exact absurd trivial against

theorem initial_invariant : Invariant .initial := ⟨rfl, fun uses => absurd uses (by decide)⟩

/-- In a run the services are up while a token is held, exactly when each cleanup thread finds `mGlobal`
set or no token held. -/
theorem served_iff (trace : List (Label × Init)) (run : Run Step .initial trace) :
    Always Served .initial trace ↔ Guarded Unheld .initial trace :=
  always_iff (fun _ inv => inv.served) keeps_invariant (fun s label next _ => breaks_served s label next)
    trace _ initial_invariant run

/-- Tokens outlive `cleanup`. When the last one is given back a thread is started, which finds the payload of the next
token, and after that one is gone another thread joins the services. A new token starts them again. -/
def borrowed : List (Label × Init) :=
  let held := Init.initial.token
  let copied := { held with tokens := [0, 0] }
  let freed := (copied.cleanup.release 0).release 0
  let again := freed.token
  let kept := { again.doCleanup with cleanups := again.cleanups - 1 }
  let idle := kept.cleanup.release 1
  let joined := { idle.doCleanup with cleanups := idle.cleanups - 1 }
  [(.token, held), (.copy 0, copied), (.cleanup, copied.cleanup), (.release 0, copied.cleanup.release 0),
    (.release 0, freed), (.token, again), (.doCleanup, kept), (.cleanup, kept.cleanup), (.release 1, idle),
    (.doCleanup, joined), (.token, joined.token)]

theorem borrowed_run : Run Step .initial borrowed :=
  ⟨.token _, .copy _ 0 (by decide), .cleanup _, .release _ 0 (by decide), .release _ 0 (by decide), .token _,
    .doCleanup _ (by decide), .cleanup _, .release _ 1 (by decide), .doCleanup _ (by decide), .token _, trivial⟩

theorem borrowed_unheld : Guarded Unheld .initial borrowed :=
  ⟨trivial, trivial, trivial, trivial, trivial, trivial, .inl rfl, trivial, trivial, .inr rfl, trivial, trivial⟩

theorem served_borrowed : Always Served .initial borrowed := (served_iff borrowed borrowed_run).mpr borrowed_unheld

/-- `preload` creates a second payload while the first one is alive, and `cleanup` destroys it. -/
def preloaded : List (Label × Init) :=
  let two := Init.initial.token.cleanup.preload
  [(.token, Init.initial.token), (.cleanup, Init.initial.token.cleanup), (.preload, two), (.cleanup, two.cleanup),
    (.doCleanup, { two.cleanup.doCleanup with cleanups := 0 })]

theorem preloaded_not_served : ¬∀ trace, Run Step .initial trace → Always Served .initial trace := by
  intro all
  have run : Run Step .initial preloaded :=
    ⟨.token _, .cleanup _, .preload _, .cleanup _, .doCleanup _ (by decide), trivial⟩
  have served := (all preloaded run).last
  exact absurd (served (by decide)).1 (by decide)

/-- The payload of a token is the one of `mGlobal`. -/
def Global (s : Init) : Prop := s.tokens ≠ [] → s.mGlobal.isSome

theorem keeps_global (s : Init) (label : Label) (next : Init) (inv : Invariant s ∧ Global s)
    (step : Step s label next) (keeps : label ≠ .cleanup) : Invariant next ∧ Global next := by
  obtain ⟨inv, global⟩ := inv
  have unheld : Unheld s label := by
    cases step with
    | doCleanup pending =>
      by_cases held : s.tokens = []
      · exact .inr held
      · exact .inl (global held)
    | token | preload | cleanup | copy | release => trivial
  refine ⟨keeps_invariant s label next inv step unheld, ?_⟩
  cases step with
  | token =>
    intro _
    unfold Init.token
    split
    · rename_i payload locked
      exact (Init.inUse_of_lock locked).elim id global
    · simp [Init.create_mGlobal]
  | preload =>
    intro _
    unfold Init.preload
    split
    · assumption
    · simp [Init.create_mGlobal]
  | cleanup => exact absurd rfl keeps
  | copy payload held => exact fun _ => global (List.ne_nil_of_mem held)
  | release payload held =>
    intro _
    simpa [Init.release] using global (List.ne_nil_of_mem held)
  | doCleanup pending =>
    unfold Init.doCleanup
    split
    · exact global
    · split <;> exact global

theorem served_without_cleanup (trace : List (Label × Init)) (run : Run Step .initial trace)
    (never : ∀ taken ∈ trace, taken.1 ≠ .cleanup) : Always Served .initial trace := by
  have kept := always_of_guarded keeps_global trace _ ⟨initial_invariant, fun held => absurd rfl held⟩ run
    (guarded_of_labels trace never _)
  exact always_mono (fun _ inv => inv.1.served) trace _ kept

end WebsocketClient.Inits
