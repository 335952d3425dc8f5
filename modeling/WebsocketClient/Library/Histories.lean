import Mathlib.Data.List.TakeWhile

/-! The history of a value that is changed from time to time. From when a first value was set, some
values should be the last ones. -/

namespace WebsocketClient.Library.Histories

variable {S : Type} [DecidableEq S] {first initial : S} {ends : S → Prop} {history : List S}

/-- The values from the first one on. -/
def since (first : S) (history : List S) : List S := history.dropWhile fun s => s ≠ first

/-- The value as it is now. -/
def current (initial : S) (history : List S) : S := history.getLastD initial

/-- A last value is behind the first one. -/
def Ended (first initial : S) (ends : S → Prop) (history : List S) : Prop :=
  first ∈ history ∧ ends (current initial history)

/-- Behind a last value there is no other one. -/
def Final (first : S) (ends : S → Prop) (history : List S) : Prop :=
  (since first history).Pairwise fun earlier _ => ¬ends earlier

omit [DecidableEq S] in
theorem current_append (history : List S) (next : S) : current initial (history ++ [next]) = next :=
  List.getLastD_concat

theorem since_of_not_mem (missing : first ∉ history) : since first history = [] := by
  rw [since, List.dropWhile_eq_nil_iff]
  intro s member
  apply decide_eq_true
  rintro rfl
  exact missing member

theorem since_append_of_not_mem (missing : first ∉ history) (later : List S) :
    since first (history ++ later) = since first later := by
  have none : history.dropWhile (fun s => s ≠ first) = [] := since_of_not_mem missing
  rw [since, List.dropWhile_append, none]
  rfl

/-- The history since the first value ends with the current one. -/
theorem since_of_mem (initial : S) (member : first ∈ history) :
    ∃ before, since first history = before ++ [current initial history] := by
  have full : history ≠ [] := List.ne_nil_of_mem member
  have last : current initial history = history.getLast full := by
    rw [current, List.getLastD_eq_getLast?, List.getLast?_eq_some_getLast full]
    rfl
  have more : since first history ≠ [] := by
    intro none
    have passed := List.dropWhile_eq_nil_iff.mp none first member
    simp at passed
  refine ⟨(since first history).dropLast, ?_⟩
  have suffix : since first history <:+ history := List.dropWhile_suffix _
  rw [last, ← suffix.getLast more]
  exact (List.dropLast_concat_getLast more).symm

theorem since_append (member : first ∈ history) (later : List S) :
    since first (history ++ later) = since first history ++ later := by
  obtain ⟨before, ends⟩ := since_of_mem first member
  have full : (history.dropWhile fun s => s ≠ first).isEmpty = false := by
    rw [show history.dropWhile (fun s => s ≠ first) = before ++ [current first history] from ends]
    simp
  rw [since, List.dropWhile_append, full]
  rfl

theorem final_append_iff (initial : S) (final : Final first ends history) (next : S) :
    Final first ends (history ++ [next]) ↔ ¬Ended first initial ends history := by
  unfold Final at final ⊢
  by_cases member : first ∈ history
  · obtain ⟨before, last⟩ := since_of_mem initial member
    rw [since_append member, List.pairwise_append]
    constructor
    · rintro ⟨_, _, behind⟩ ended
      have among : current initial history ∈ since first history := by
        rw [last]
        exact List.mem_append_right _ (List.mem_singleton_self _)
      exact behind _ among next (List.mem_singleton_self next) ended.2
    · intro goesOn
      refine ⟨final, List.pairwise_singleton _ _, ?_⟩
      intro earlier among _ _
      rw [last, List.pairwise_append] at final
      rw [last] at among
      rcases List.mem_append.mp among with past | now
      · exact final.2.2 earlier past _ (List.mem_singleton_self _)
      · rw [List.mem_singleton.mp now]
        exact fun ended => goesOn ⟨member, ended⟩
  · refine ⟨fun _ ended => member ended.1, fun _ => ?_⟩
    rw [since_append_of_not_mem member, since]
    exact (List.pairwise_singleton _ next).sublist (List.dropWhile_sublist _)

theorem Final.countP_le_one [DecidablePred ends] (final : Final first ends history) :
    (since first history).countP (fun s => ends s) ≤ 1 := by
  by_cases member : first ∈ history
  · obtain ⟨before, last⟩ := since_of_mem first member
    rw [Final, last, List.pairwise_append] at final
    have none : before.countP (fun s => ends s) = 0 := by
      rw [List.countP_eq_zero]
      intro earlier among ended
      exact final.2.2 earlier among _ (List.mem_singleton_self _) (of_decide_eq_true ended)
    rw [last, List.countP_append, none, Nat.zero_add]
    exact List.countP_le_length
  · rw [since_of_not_mem member]
    exact Nat.zero_le 1

end WebsocketClient.Library.Histories
