/-! Runs of a labelled transition system. When a guard on the steps keeps an invariant, and a
step against the guard breaks the property at once, then the property holds in every state of
a run exactly when the guard holds at every step. -/

namespace WebsocketClient.Library.Runs

variable {S L : Type}

/-- The steps of a run, each with the state it leads to. -/
def Run (step : S → L → S → Prop) : S → List (L × S) → Prop
  | _, [] => True
  | s, (label, next) :: rest => step s label next ∧ Run step next rest

/-- A property of every state of a run, the first one included. -/
def Always (property : S → Prop) : S → List (L × S) → Prop
  | s, [] => property s
  | s, (_, next) :: rest => property s ∧ Always property next rest

/-- A condition on every step of a run, at the state before it. -/
def Guarded (guard : S → L → Prop) : S → List (L × S) → Prop
  | _, [] => True
  | s, (label, next) :: rest => guard s label ∧ Guarded guard next rest

/-- The state that a run ends in. -/
def last : S → List (L × S) → S
  | s, [] => s
  | _, (_, next) :: rest => last next rest

variable {step : S → L → S → Prop} {inv property : S → Prop} {guard : S → L → Prop}

theorem Always.start {s : S} {trace : List (L × S)} (always : Always property s trace) : property s := by
  cases trace with
  | nil => exact always
  | cons first rest => exact always.1

theorem Always.last {s : S} {trace : List (L × S)} (always : Always property s trace) :
    property (last s trace) := by
  induction trace generalizing s with
  | nil => exact always
  | cons first rest ih => exact ih always.2

theorem Run.append {s : S} {trace more : List (L × S)} (run : Run step s trace)
    (later : Run step (Runs.last s trace) more) : Run step s (trace ++ more) := by
  induction trace generalizing s with
  | nil => exact later
  | cons first rest ih => exact ⟨run.1, ih run.2 later⟩

theorem Run.split {s : S} {trace more : List (L × S)} (run : Run step s (trace ++ more)) :
    Run step s trace ∧ Run step (Runs.last s trace) more := by
  induction trace generalizing s with
  | nil => exact ⟨trivial, run⟩
  | cons first rest ih =>
    obtain ⟨before, behind⟩ := ih run.2
    exact ⟨⟨run.1, before⟩, behind⟩

theorem Guarded.append {s : S} {trace more : List (L × S)} (guarded : Guarded guard s trace)
    (later : Guarded guard (Runs.last s trace) more) : Guarded guard s (trace ++ more) := by
  induction trace generalizing s with
  | nil => exact later
  | cons first rest ih => exact ⟨guarded.1, ih guarded.2 later⟩

theorem Guarded.before {s : S} {trace more : List (L × S)} (guarded : Guarded guard s (trace ++ more)) :
    Guarded guard s trace := by
  induction trace generalizing s with
  | nil => trivial
  | cons first rest ih => exact ⟨guarded.1, ih guarded.2⟩

theorem guarded_of_cuts (trace : List (L × S)) : ∀ s,
    (∀ before taken after, trace = before ++ taken :: after → guard (last s before) taken.1) →
        Guarded guard s trace := by
  induction trace with
  | nil => exact fun _ _ => trivial
  | cons first rest ih =>
    intro s cuts
    refine ⟨cuts [] first rest rfl, ih _ ?_⟩
    intro before taken after same
    exact cuts (first :: before) taken after (by rw [same]; rfl)

theorem last_append (s : S) (trace more : List (L × S)) :
    last s (trace ++ more) = last (last s trace) more := by
  induction trace generalizing s with
  | nil => rfl
  | cons first rest ih => exact ih first.2

theorem always_mono {other : S → Prop} (implies : ∀ s, property s → other s) (trace : List (L × S)) :
    ∀ s, Always property s trace → Always other s trace := by
  induction trace with
  | nil => exact fun s always => implies s always
  | cons first rest ih => exact fun s always => ⟨implies s always.1, ih _ always.2⟩

theorem always_of_guarded
    (keeps : ∀ s label next, inv s → step s label next → guard s label → inv next)
    (trace : List (L × S)) :
    ∀ s, inv s → Run step s trace → Guarded guard s trace → Always inv s trace := by
  induction trace with
  | nil => exact fun s holds _ _ => holds
  | cons first rest ih =>
    intro s holds run guarded
    exact ⟨holds, ih _ (keeps _ _ _ holds run.1 guarded.1) run.2 guarded.2⟩

theorem Always.of_mem {s : S} {trace : List (L × S)} (always : Always property s trace)
    (taken : L × S) (member : taken ∈ trace) : property taken.2 := by
  induction trace generalizing s with
  | nil => exact absurd member List.not_mem_nil
  | cons first rest ih =>
    rcases List.mem_cons.mp member with rfl | later
    · exact always.2.start
    · exact ih always.2 later

theorem exists_before
    (keeps : ∀ s label next, inv s → step s label next → guard s label → inv next)
    (trace : List (L × S)) (taken : L × S) (member : taken ∈ trace) :
    ∀ s, inv s → Run step s trace → Guarded guard s trace →
      ∃ before, inv before ∧ step before taken.1 taken.2 := by
  induction trace with
  | nil => exact absurd member List.not_mem_nil
  | cons first rest ih =>
    intro s holds run guarded
    rcases List.mem_cons.mp member with rfl | later
    · exact ⟨s, holds, run.1⟩
    · exact ih later _ (keeps _ _ _ holds run.1 guarded.1) run.2 guarded.2

theorem guarded_of_labels {allowed : L → Prop} (trace : List (L × S))
    (labels : ∀ taken ∈ trace, allowed taken.1) :
    ∀ s, Guarded (fun _ label => allowed label) s trace := by
  induction trace with
  | nil => exact fun _ => trivial
  | cons first rest ih =>
    intro s
    exact ⟨labels first (List.mem_cons_self ..),
        ih (fun taken member => labels taken (List.mem_cons_of_mem _ member)) _⟩

theorem always_of_step (keeps : ∀ s label next, inv s → step s label next → inv next) (trace : List (L × S)) :
    ∀ s, inv s → Run step s trace → Always inv s trace := by
  intro s holds run
  have free : Guarded (fun (_ : S) (_ : L) => True) s trace := guarded_of_labels trace (fun _ _ => trivial) s
  exact always_of_guarded (fun s label next holds step _ => keeps s label next holds step) trace s holds run free

theorem always_iff (implies : ∀ s, inv s → property s)
    (keeps : ∀ s label next, inv s → step s label next → guard s label → inv next)
    (breaks : ∀ s label next, inv s → step s label next → ¬guard s label → ¬property next)
    (trace : List (L × S)) :
    ∀ s, inv s → Run step s trace → (Always property s trace ↔ Guarded guard s trace) := by
  intro s holds run
  constructor
  · induction trace generalizing s with
    | nil => exact fun _ => trivial
    | cons first rest ih =>
      intro always
      have guarded : guard s first.1 := Classical.byContradiction fun against =>
        breaks _ _ _ holds run.1 against always.2.start
      exact ⟨guarded, ih _ (keeps _ _ _ holds run.1 guarded) run.2 always.2⟩
  · intro guarded
    exact always_mono implies trace s (always_of_guarded keeps trace s holds run guarded)

/-- Every run comes to an end, and the goal holds there. -/
inductive Inevitable (step : S → L → S → Prop) (goal : S → Prop) : S → Prop where
  | intro (s : S) : ((∀ label next, ¬step s label next) → goal s) →
      (∀ label next, step s label next → Inevitable step goal next) → Inevitable step goal s

theorem inevitable_of_measure {goal : S → Prop} (measure : S → Nat)
    (keeps : ∀ s label next, inv s → step s label next → inv next)
    (decreases : ∀ s label next, inv s → step s label next → measure next < measure s)
    (ends : ∀ s, inv s → (∀ label next, ¬step s label next) → goal s) :
    ∀ s, inv s → Inevitable step goal s := by
  intro s
  induction bound : measure s using Nat.strongRecOn generalizing s with
  | ind work ih =>
    intro holds
    refine .intro s (ends s holds) fun label next taken => ?_
    have less := decreases s label next holds taken
    exact ih (measure next) (bound ▸ less) next rfl (keeps s label next holds taken)

theorem not_inevitable {goal : S → Prop} (keeps : ∀ s label next, inv s → step s label next → inv next)
    (never : ∀ s, inv s → ¬goal s) (s : S) (holds : inv s) : ¬Inevitable step goal s := by
  intro inevitable
  induction inevitable with
  | intro s ends _ ih =>
    apply never s holds
    apply ends
    exact fun label next taken => ih label next taken (keeps s label next holds taken)

end WebsocketClient.Library.Runs
