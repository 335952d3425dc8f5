import Mathlib.Data.List.Forall2

/-! Workers that are listed by their places. One of them goes on to another place. -/

namespace WebsocketClient.Library.Places

variable {P : Type} {places : List P} {worker : Nat} {old new : P}

theorem getElem?_moved (here : places[worker]? = some old) : (places.set worker new)[worker]? = some new :=
  List.getElem?_set_self (List.getElem?_eq_some_iff.mp here).1

theorem mem_set {place : P} (member : place ∈ places) (here : places[worker]? = some old) (other : place ≠ old) :
    place ∈ places.set worker new := by
  obtain ⟨index, found⟩ := List.mem_iff_getElem?.mp member
  have different : worker ≠ index := by
    rintro rfl
    exact other (Option.some.inj (found.symm.trans here))
  exact List.mem_iff_getElem?.mpr ⟨index, (List.getElem?_set_ne different).trans found⟩

theorem mem_of_mem_set {place : P} (member : place ∈ places.set worker new) (other : place ≠ new) : place ∈ places :=
  (List.mem_or_eq_of_mem_set member).resolve_right other

theorem moved_cases (here : places[worker]? = some old) {index : Nat} {place : P}
    (found : (places.set worker new)[index]? = some place) :
    (index = worker ∧ place = new) ∨ (index ≠ worker ∧ places[index]? = some place) := by
  by_cases same : worker = index
  · subst same
    rw [getElem?_moved here] at found
    exact .inl ⟨rfl, (Option.some.inj found).symm⟩
  · rw [List.getElem?_set_ne same] at found
    exact .inr ⟨Ne.symm same, found⟩

theorem joined_cases {index : Nat} {place : P} (found : (places ++ [new])[index]? = some place) :
    (index < places.length ∧ places[index]? = some place) ∨ (index = places.length ∧ place = new) := by
  rw [List.getElem?_append] at found
  split at found
  · rename_i bound
    exact .inl ⟨bound, found⟩
  · rename_i bound
    obtain ⟨last, same⟩ := List.getElem?_eq_some_iff.mp found
    rw [List.length_singleton] at last
    refine .inr ⟨by omega, ?_⟩
    simpa using same.symm

theorem countP_moved (counts : P → Bool) (here : places[worker]? = some old) :
    (places.set worker new).countP counts + (counts old).toNat = places.countP counts + (counts new).toNat := by
  obtain ⟨bound, same⟩ := List.getElem?_eq_some_iff.mp here
  have positive : counts old = true → 0 < places.countP counts := by
    intro counted
    exact List.countP_pos_iff.mpr ⟨old, same ▸ List.getElem_mem bound, counted⟩
  rw [List.countP_set bound, same]
  cases before : counts old <;> cases after : counts new <;> simp_all

theorem countP_modify (counts : P → Bool) {change : P → P} (same : ∀ place, counts (change place) = counts place)
    (places : List P) (worker : Nat) : (places.modify worker change).countP counts = places.countP counts := by
  induction places generalizing worker with
  | nil => simp
  | cons place rest ih =>
    cases worker with
    | zero => simp [List.countP_cons, same]
    | succ worker => simp [List.countP_cons, ih]

/-! ### The places of the same workers in two models -/

section
variable {Q : Type} {same : P → Q → Prop} {others : List Q}

theorem alike_there (alike : List.Forall₂ same places others) (here : places[worker]? = some old) :
    ∃ other, others[worker]? = some other ∧ same old other := by
  induction alike generalizing worker with
  | nil => simp at here
  | cons first _ ih =>
    cases worker with
    | zero =>
      obtain rfl := Option.some.inj here
      exact ⟨_, rfl, first⟩
    | succ worker => exact ih here

theorem alike_set (alike : List.Forall₂ same places others) {other : Q} (now : same new other) :
    List.Forall₂ same (places.set worker new) (others.set worker other) := by
  induction alike generalizing worker with
  | nil => exact .nil
  | cons first rest ih =>
    cases worker with
    | zero => exact .cons now rest
    | succ worker => exact .cons first ih

theorem alike_stays (alike : List.Forall₂ same places others) {other : Q} (there : others[worker]? = some other)
    (now : same new other) : List.Forall₂ same (places.set worker new) others := by
  obtain ⟨bound, found⟩ := List.getElem?_eq_some_iff.mp there
  have unchanged : others.set worker other = others := by
    rw [← found]
    exact List.set_getElem_self bound
  rw [← unchanged]
  exact alike_set alike now

theorem alike_modify (alike : List.Forall₂ same places others) {change : Q → Q}
    (keeps : ∀ place other, same place other → same place (change other)) (worker : Nat) :
    List.Forall₂ same places (others.modify worker change) := by
  induction alike generalizing worker with
  | nil => simp
  | cons first rest ih =>
    cases worker with
    | zero => simpa using ⟨keeps _ _ first, rest⟩
    | succ worker => simpa using ⟨first, ih worker⟩

theorem alike_mem (alike : List.Forall₂ same places others) {other : Q} (member : other ∈ others) :
    ∃ place ∈ places, same place other := by
  induction alike with
  | nil => exact absurd member List.not_mem_nil
  | cons first _ ih =>
    rcases List.mem_cons.mp member with rfl | later
    · exact ⟨_, List.mem_cons_self .., first⟩
    · obtain ⟨place, there, related⟩ := ih later
      exact ⟨place, List.mem_cons_of_mem _ there, related⟩

end

end WebsocketClient.Library.Places
