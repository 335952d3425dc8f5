import WebsocketClient.Library.Runs

/-! A system that is refined by another one. A step of the finer one is a step of the coarser one, or changes
nothing there. -/

namespace WebsocketClient.Library.Refinement
open Library.Runs

section
variable {S A L M : Type} {step : S → L → S → Prop} {coarse : A → M → A → Prop}

/-- A run leads from one state to the other. -/
def Reaches (coarse : A → M → A → Prop) (a b : A) : Prop := ∃ trace, Run coarse a trace ∧ last a trace = b

theorem Reaches.refl (a : A) : Reaches coarse a a := ⟨[], trivial, rfl⟩

theorem Reaches.next {a b c : A} {label : M} (reaches : Reaches coarse a b) (taken : coarse b label c) :
    Reaches coarse a c := by
  obtain ⟨trace, run, rfl⟩ := reaches
  have one : Run coarse (last a trace) [(label, c)] := ⟨taken, trivial⟩
  exact ⟨trace ++ [(label, c)], run.append one, last_append a trace [(label, c)]⟩

/-- What holds all along the runs of the coarser system holds where they lead. -/
theorem Reaches.holds {a b : A} {property : A → Prop} (reaches : Reaches coarse a b)
    (all : ∀ trace, Run coarse a trace → Always property a trace) : property b := by
  obtain ⟨trace, run, rfl⟩ := reaches
  exact (all trace run).last

/-- What a step of the finer system is. -/
def Refines (coarse : A → M → A → Prop) (abstract : S → A) (s next : S) : Prop :=
  abstract next = abstract s ∨ ∃ label, coarse (abstract s) label (abstract next)

/-- In a run of the finer system, every state is related to one that the coarser system reaches, when each step is
matched by one there or by none. -/
theorem always_related {inv : S → Prop} {related : S → A → Prop} {a : A}
    (keeps : ∀ s label next b, inv s → related s b → step s label next →
      inv next ∧ (related next b ∨ ∃ other c, coarse b other c ∧ related next c))
    (trace : List (L × S)) (s : S) (holds : inv s) (start : related s a) (run : Run step s trace) :
    Always (fun s => inv s ∧ ∃ b, Reaches coarse a b ∧ related s b) s trace := by
  apply always_of_step _ trace s ⟨holds, a, .refl a, start⟩ run
  rintro before label after ⟨held, b, reaches, before_related⟩ taken
  obtain ⟨kept, stays | ⟨other, c, coarser, after_related⟩⟩ := keeps before label after b held before_related taken
  · exact ⟨kept, b, reaches, stays⟩
  · exact ⟨kept, c, reaches.next coarser, after_related⟩

theorem always_reaches {inv : S → Prop} {abstract : S → A} {a : A}
    (keeps : ∀ s label next, inv s → Reaches coarse a (abstract s) → step s label next →
      inv next ∧ Refines coarse abstract s next)
    (trace : List (L × S)) (s : S) (holds : inv s) (reaches : Reaches coarse a (abstract s)) (run : Run step s trace) :
    Always (fun s => inv s ∧ Reaches coarse a (abstract s)) s trace := by
  apply always_of_step _ trace s ⟨holds, reaches⟩ run
  intro before label after both taken
  obtain ⟨kept, same | ⟨other, coarser⟩⟩ := keeps before label after both.1 both.2 taken
  · rw [same]
    exact ⟨kept, both.2⟩
  · exact ⟨kept, both.2.next coarser⟩

end

end WebsocketClient.Library.Refinement
