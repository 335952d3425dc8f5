import Mathlib.Logic.Function.Basic
import WebsocketClient.Library.Runs

/-! Threads over a shared state, each at a place of its program, with an assertion at every place.
A step has to establish the assertion of its own thread and to leave those of the others true. -/

namespace WebsocketClient.Library.Threads
open Library.Runs

variable {T S P A : Type} [DecidableEq T]

structure System (T S P : Type) where
  shared : S
  place : T → P

/-- A thread moves on. -/
def System.move (s : System T S P) (t : T) (shared : S) (place : P) : System T S P where
  shared := shared
  place := Function.update s.place t place

@[simp] theorem System.move_place_self (s : System T S P) (t : T) (shared : S) (place : P) :
    (s.move t shared place).place t = place :=
  Function.update_self ..

theorem System.move_place_other (s : System T S P) {t u : T} (shared : S) (place : P) (other : u ≠ t) :
    (s.move t shared place).place u = s.place u :=
  Function.update_of_ne other ..

/-- One step of one thread. -/
inductive Step (threadStep : T → S → P → A → S → P → Prop) : System T S P → T × A → System T S P → Prop where
  | mk (s : System T S P) (t : T) (action : A) (shared : S) (place : P) :
      threadStep t s.shared (s.place t) action shared place →
      Step threadStep s (t, action) (s.move t shared place)

/-- The shared state is good, and the assertion of each thread holds at its place. -/
structure Annotated (good : S → Prop) (own : S → T → P → Prop) (s : System T S P) : Prop where
  good : good s.shared
  own : ∀ t, own s.shared t (s.place t)

variable {threadStep : T → S → P → A → S → P → Prop} {good : S → Prop} {own : S → T → P → Prop}

theorem Annotated.step {guard : S → P → Prop}
    (keepsOwn : ∀ t shared place action shared' place', good shared → own shared t place → guard shared place →
      threadStep t shared place action shared' place' → good shared' ∧ own shared' t place')
    (leaves : ∀ t u shared place action shared' place', u ≠ t → good shared → own shared t place →
      guard shared place → threadStep t shared place action shared' place' →
      ∀ other, own shared u other → own shared' u other)
    {s next : System T S P} {label : T × A} (annotated : Annotated good own s)
    (step : Step threadStep s label next) (guarded : guard s.shared (s.place label.1)) :
    Annotated good own next := by
  cases step with
  | mk t action shared place step =>
    have kept := keepsOwn t _ _ action shared place annotated.good (annotated.own t) guarded step
    refine ⟨kept.1, ?_⟩
    intro u
    by_cases same : u = t
    · subst same
      rw [System.move_place_self]
      exact kept.2
    · rw [System.move_place_other _ _ _ same]
      exact leaves t u _ _ action shared place same annotated.good (annotated.own t) guarded step _
        (annotated.own u)

/-- One thread goes on while the others rest. -/
inductive Alone (threadStep : T → S → P → A → S → P → Prop) (t : T) : S → P → S → P → Prop where
  | rest (shared : S) (place : P) : Alone threadStep t shared place shared place
  | step {shared middle last : S} {place between ending : P} {action : A} :
      threadStep t shared place action middle between → Alone threadStep t middle between last ending →
      Alone threadStep t shared place last ending

omit [DecidableEq T] in
theorem Alone.trans {t : T} {shared middle last : S} {place between ending : P}
    (first : Alone threadStep t shared place middle between) (second : Alone threadStep t middle between last ending) :
    Alone threadStep t shared place last ending := by
  induction first with
  | rest => exact second
  | step taken _ ih => exact .step taken (ih second)

theorem Alone.run {t : T} {shared last : S} {place ending : P} (alone : Alone threadStep t shared place last ending) :
    ∀ s : System T S P, s.shared = shared → s.place t = place →
      ∃ trace, Run (Step threadStep) s trace ∧ (∀ taken ∈ trace, taken.1.1 = t) ∧
        (Runs.last s trace).shared = last ∧ (Runs.last s trace).place t = ending := by
  induction alone with
  | rest shared place =>
    intro s here at_place
    exact ⟨[], trivial, fun _ member => absurd member List.not_mem_nil, here, at_place⟩
  | @step shared middle last place between ending action taken _ ih =>
    intro s here at_place
    obtain ⟨trace, run, mine, reached⟩ := ih (s.move t middle between) rfl (s.move_place_self t middle between)
    have first : Step threadStep s (t, action) (s.move t middle between) := by
      apply Step.mk
      rw [here, at_place]
      exact taken
    refine ⟨((t, action), s.move t middle between) :: trace, ⟨first, run⟩, ?_, reached⟩
    intro taken member
    rcases List.mem_cons.mp member with rfl | later
    · rfl
    · exact mine taken later

/-- A run written as its steps, each with the next shared state and place. -/
def System.walk (s : System T S P) : List (T × A × S × P) → List ((T × A) × System T S P)
  | [] => []
  | (t, action, shared, place) :: rest =>
      ((t, action), s.move t shared place) :: (s.move t shared place).walk rest

end WebsocketClient.Library.Threads
