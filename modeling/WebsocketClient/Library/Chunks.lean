import Mathlib.Data.List.Basic

/-! Consumers of a stream that arrives in chunks. If feeding two chunks one after the other
amounts to feeding their concatenation, up to an equivalence that feeding respects, then
the way the stream is cut does not matter. -/

namespace WebsocketClient.Library.Chunks

variable {S B : Type}

/-- `acceptable s stream` restricts the streams that the law is claimed for. -/
structure Incremental (feed : S → List B → S) (same : S → S → Prop)
    (acceptable : S → List B → Prop) : Prop where
  equivalence : Equivalence same
  congruence : ∀ s t chunk, same s t → same (feed s chunk) (feed t chunk)
  initial : ∀ s first second, acceptable s (first ++ second) → acceptable s first
  merge : ∀ s first second, first ≠ [] → second ≠ [] → acceptable s (first ++ second) →
    same (feed (feed s first) second) (feed s (first ++ second))

variable {feed : S → List B → S} {same : S → S → Prop} {acceptable : S → List B → Prop}

theorem Incremental.foldl_congruence (law : Incremental feed same acceptable)
    (chunks : List (List B)) (s t : S) (start : same s t) :
    same (chunks.foldl feed s) (chunks.foldl feed t) := by
  induction chunks generalizing s t with
  | nil => exact start
  | cons chunk chunks ih => exact ih _ _ (law.congruence s t chunk start)

theorem Incremental.foldl_flatten (law : Incremental feed same acceptable) (s : S)
    (chunk : List B) (chunks : List (List B)) (full : ∀ c ∈ chunk :: chunks, c ≠ [])
    (accepted : acceptable s (chunk :: chunks).flatten) :
    same ((chunk :: chunks).foldl feed s) (feed s (chunk :: chunks).flatten) := by
  induction chunks generalizing chunk with
  | nil =>
    simp only [List.foldl_cons, List.foldl_nil, List.flatten_cons, List.flatten_nil, List.append_nil]
    exact law.equivalence.refl _
  | cons next chunks ih =>
    have first := full chunk (by simp)
    have second := full next (by simp)
    have shape : (chunk :: next :: chunks).flatten = ((chunk ++ next) :: chunks).flatten := by
      simp
    rw [shape] at accepted ⊢
    have merged : same (feed (feed s chunk) next) (feed s (chunk ++ next)) :=
      law.merge s chunk next first second (law.initial _ _ _ accepted)
    have rest : same (((chunk ++ next) :: chunks).foldl feed s)
        (feed s ((chunk ++ next) :: chunks).flatten) := by
      refine ih (chunk ++ next) ?_ accepted
      intro c member
      rcases List.mem_cons.mp member with rfl | later
      · simp [first]
      · exact full c (by simp [later])
    exact law.equivalence.trans (law.foldl_congruence chunks _ _ merged) rest

theorem flatten_eq_nil {chunks : List (List B)} (full : ∀ c ∈ chunks, c ≠ [])
    (empty : chunks.flatten = []) : chunks = [] := by
  cases chunks with
  | nil => rfl
  | cons chunk chunks =>
    rw [List.flatten_cons, List.append_eq_nil_iff] at empty
    exact absurd empty.1 (full chunk (by simp))

end WebsocketClient.Library.Chunks
