/-! A machine compared with the machine that specifies it, call by call. When one call agrees
exactly under a guard on the specified state, a whole run agrees exactly if the guard holds at
each of its calls. -/

namespace WebsocketClient.Library.Guarded

variable {S X C A : Type}

/-- The states are related and the answers equal at every call of a run. -/
def Faithful (step : S → C → A × S) (spec : X → C → A × X) (related : S → X → Prop) :
    S → X → List C → Prop
  | s, x, [] => related s x
  | s, x, call :: calls =>
      related s x ∧ (step s call).1 = (spec x call).1 ∧
        Faithful step spec related (step s call).2 (spec x call).2 calls

/-- A condition on the calls of a run, each at the state that the specification is in. -/
def Throughout (spec : X → C → A × X) (condition : X → C → Prop) : X → List C → Prop
  | _, [] => True
  | x, call :: calls => condition x call ∧ Throughout spec condition (spec x call).2 calls

variable {step : S → C → A × S} {spec : X → C → A × X} {related : S → X → Prop}
variable {admissible guard : X → C → Prop}

theorem Faithful.start {s : S} {x : X} {calls : List C}
    (faithful : Faithful step spec related s x calls) : related s x := by
  cases calls with
  | nil => exact faithful
  | cons call calls => exact faithful.1

theorem faithful_iff (inv : S → Prop)
    (keeps : ∀ s x call, inv s → related s x → admissible x call → inv (step s call).2)
    (exact' : ∀ s x call, inv s → related s x → admissible x call →
      ((step s call).1 = (spec x call).1 ∧ related (step s call).2 (spec x call).2 ↔ guard x call))
    (calls : List C) :
    ∀ s x, inv s → related s x → Throughout spec admissible x calls →
      (Faithful step spec related s x calls ↔ Throughout spec guard x calls) := by
  induction calls with
  | nil =>
    intro s x kept start admitted
    exact ⟨fun _ => trivial, fun _ => start⟩
  | cons call calls ih =>
    intro s x kept start admitted
    have one := exact' s x call kept start admitted.1
    have next := keeps s x call kept start admitted.1
    constructor
    · intro faithful
      have after := faithful.2.2.start
      exact ⟨one.mp ⟨faithful.2.1, after⟩,
        (ih _ _ next after admitted.2).mp faithful.2.2⟩
    · intro guarded
      obtain ⟨answer, after⟩ := one.mpr guarded.1
      exact ⟨start, answer, (ih _ _ next after admitted.2).mpr guarded.2⟩

end WebsocketClient.Library.Guarded
