import WebsocketClient.Library.Runs
import WebsocketClient.SendPath

/-! Who works on the first element of the send queue. From `peek` on until the `pop` or the
`exchange` that belongs to it, a thread relies on the element staying the first one. -/

namespace WebsocketClient.SendRegions
open ByteString SendPaths Library.Runs

variable {App : Type}

def region : Pc → Option Element
  | .trying _ head _ | .pop _ head | .exchange _ head _ => some head
  | _ => none

/-- At most one thread is between `peek` and `pop` or `exchange`, and every element that was
removed is the one that was peeked. -/
structure Exclusive (s : System App) : Prop where
  single : ∀ x y, region (s.pc x) ≠ none → region (s.pc y) ≠ none → x = y
  peeked : ∀ removal ∈ s.shared.removed, removal.2 = some removal.1

/-- The poll thread is in an event `Out`, without the mutex. -/
def Flushing (pc : Pc) : Prop := ∃ entry ∈ pc.entry, entry.kind = .flush

/-- No `peek` of an event `Out` finds an element while a call of `send` works on one, and the
other way round. -/
def PeeksAlone (s : System App) (label : Thread App × Action) : Prop :=
  label.2 = .peek → s.shared.queue ≠ [] → ∀ y, y ≠ label.1 →
    Flushing (s.pc label.1) ∨ Flushing (s.pc y) → region (s.pc y) = none

/-- What one step does to the queue and to the region of its thread. -/
inductive RegionStep (s : Shared App) (pc : Pc) (action : Action) (next : Shared App) (pc' : Pc) : Prop where
  | quiet : next.queue = s.queue → next.removed = s.removed →
      region pc' = region pc ∨ region pc' = none → RegionStep s pc action next pc'
  | push (element : Element) : next.queue = s.queue ++ [element] → next.removed = s.removed →
      region pc' = none → RegionStep s pc action next pc'
  | peek (entry : Entry) (head : Element) : action = .peek → pc = .peek entry → next = s → s.queue.head? = some head →
      region pc' = some head → RegionStep s pc action next pc'
  | remove (head : Element) : region pc = some head → region pc' = none →
      next.removed = s.removed ++ [(head, s.queue.head?)] → RegionStep s pc action next pc'

theorem afterQueue_region (entry : Entry) (flushed : Bool) : region (entry.afterQueue flushed) = none := by
  unfold Entry.afterQueue
  split_ifs <;> rfl

theorem afterFailure_region (entry : Entry) : region entry.afterFailure = none := by
  unfold Entry.afterFailure
  split_ifs <;> rfl

theorem next_region (kind : Kind) : region kind.next = none := by cases kind <;> rfl

theorem regionStep {x : Thread App} {s next : Shared App} {pc pc' : Pc} {action : Action}
    (step : ThreadStep x s pc action next pc') : RegionStep s pc action next pc' := by
  cases step with
  | peekNone entry none => exact .quiet rfl rfl (Or.inr (afterQueue_region entry true))
  | peekSome entry head found => exact .peek entry head rfl rfl rfl found rfl
  | pop entry head => exact .remove head rfl rfl rfl
  | exchange entry head rest => exact .remove head rfl (afterQueue_region entry false) rfl
  | push entry rest => exact .push _ rfl rfl rfl
  | tryFailed entry head rest => exact .quiet rfl rfl (Or.inr (afterFailure_region entry))
  | unlockTcp entry =>
    refine .quiet rfl rfl (Or.inr ?_)
    split_ifs
    · rfl
    · exact next_region entry.kind
  | unlockWs entry => exact .quiet rfl rfl (Or.inr (next_region entry.kind))
  | _ => exact .quiet rfl rfl (Or.inl rfl)

/-- The element peeked is the first one for as long as a thread works on it. -/
structure Inv (s : System App) : Prop extends Exclusive s where
  owned : Owned s
  first : ∀ x head, region (s.pc x) = some head → s.shared.queue.head? = some head

theorem alone_of_peeksAlone {s : System App} (owned : Owned s) {x y : Thread App} {entry : Entry}
    (place : s.pc x = .peek entry) (other : y ≠ x)
    (alone : Flushing (s.pc x) ∨ Flushing (s.pc y) → region (s.pc y) = none) :
    region (s.pc y) = none := by
  by_cases flushing : Flushing (s.pc x) ∨ Flushing (s.pc y)
  · exact alone flushing
  · simp only [not_or] at flushing
    cases occupied : region (s.pc y) with
    | none => rfl
    | some head =>
      have locked : ∀ kind : Kind, kind ≠ .flush → kind.locked = true := by
        intro kind noFlush
        cases kind <;> first | rfl | exact absurd rfl noFlush
      have mine : (s.pc x).holds .tcp = true := by
        rw [place]
        exact locked entry.kind (fun flush => flushing.1 ⟨entry, by rw [place]; rfl, flush⟩)
      have yours : (s.pc y).holds .tcp = true := by
        cases at' : s.pc y <;> rw [at'] at occupied flushing <;> simp only [region, reduceCtorEq] at occupied <;>
          exact locked _ (fun flush => flushing.2 ⟨_, rfl, flush⟩)
      exact absurd (owned.unique yours mine) other

theorem peek_occupies {x : Thread App} {s next : Shared App} {pc pc' : Pc}
    (step : ThreadStep x s pc .peek next pc') (full : s.queue ≠ []) : region pc' ≠ none := by
  cases step with
  | peekNone entry none => exact absurd none full
  | peekSome entry head found => simp [region]

section
variable [DecidableEq App]

theorem inv_shrinks {s : System App} {x : Thread App} {shared : Shared App} {pc : Pc} (inv : Inv s)
    (owned : Owned (s.move x shared pc)) (within : region pc = region (s.pc x) ∨ region pc = none)
    (peeked : ∀ removal ∈ shared.removed, removal.2 = some removal.1)
    (first : ∀ y head, region (s.pc y) = some head → (y = x → region pc = some head) →
      shared.queue.head? = some head) :
    Inv (s.move x shared pc) := by
  have before : ∀ y head, region ((s.move x shared pc).pc y) = some head →
      region (s.pc y) = some head ∧ (y = x → region pc = some head) := by
    intro y head occupied
    by_cases same : y = x
    · rw [same, move_pc_self] at occupied
      rcases within with stays | leaves
      · exact ⟨by rw [same, ← stays, occupied], fun _ => occupied⟩
      · simp [leaves] at occupied
    · rw [move_pc_other s x y shared pc same] at occupied
      exact ⟨occupied, fun equal => absurd equal same⟩
  refine ⟨⟨?_, peeked⟩, owned, ?_⟩
  · intro y z one other
    obtain ⟨head, here⟩ := Option.ne_none_iff_exists'.mp one
    obtain ⟨head', there⟩ := Option.ne_none_iff_exists'.mp other
    exact inv.single y z (by rw [(before y head here).1]; simp) (by rw [(before z head' there).1]; simp)
  · intro y head occupied
    exact first y head (before y head occupied).1 (before y head occupied).2

/-- The invariant when the thread that moved is the only one in a region. -/
theorem inv_inside {s : System App} {x : Thread App} {pc : Pc} (inv : Inv s)
    (owned : Owned (s.move x s.shared pc)) (alone : ∀ y, y ≠ x → region (s.pc y) = none)
    (first : ∀ head, region pc = some head → s.shared.queue.head? = some head) :
    Inv (s.move x s.shared pc) := by
  have only : ∀ y, region ((s.move x s.shared pc).pc y) ≠ none → y = x := by
    intro y occupied
    by_contra different
    rw [move_pc_other s x y s.shared pc different] at occupied
    exact occupied (alone y different)
  refine ⟨⟨?_, inv.peeked⟩, owned, ?_⟩
  · intro y z one other
    rw [only y one, only z other]
  · intro y head occupied
    have same := only y (by rw [occupied]; simp)
    rw [same, move_pc_self] at occupied
    exact first head occupied

theorem keeps_inv (s : System App) (label : Thread App × Action) (next : System App) (inv : Inv s)
    (step : Step s label next) (alone : PeeksAlone s label) : Inv next := by
  have owned := step.owned inv.owned
  cases step with
  | mk x action shared pc step =>
    cases regionStep step with
    | quiet queue removed within =>
      apply inv_shrinks inv owned within (removed ▸ inv.peeked)
      intro y head occupied _
      rw [queue]
      exact inv.first y head occupied
    | push element queue removed outside =>
      apply inv_shrinks inv owned (Or.inr outside) (removed ▸ inv.peeked)
      intro y head occupied _
      have before := inv.first y head occupied
      rw [queue]
      cases list : s.shared.queue with
      | nil => simp [list] at before
      | cons a rest =>
        rw [list] at before
        exact before
    | peek entry head isPeek place same found occupied =>
      subst same
      have nonempty : s.shared.queue ≠ [] := by
        intro empty
        simp [empty] at found
      refine inv_inside inv owned ?_ ?_
      · intro y other
        exact alone_of_peeksAlone inv.owned place other (alone isPeek nonempty y other)
      · intro other same
        rw [occupied] at same
        rw [found, same]
    | remove head occupied outside removed =>
      have front := inv.first x head occupied
      refine inv_shrinks inv owned (Or.inr outside) ?_ ?_
      · intro removal member
        rw [removed] at member
        rcases List.mem_append.mp member with old | new
        · exact inv.peeked removal old
        · rw [List.mem_singleton.mp new, front]
      · intro y other there stays
        have same := inv.single y x (by rw [there]; simp) (by rw [occupied]; simp)
        rw [outside] at stays
        cases stays same

theorem breaks_exclusive (s : System App) (label : Thread App × Action) (next : System App)
    (step : Step s label next) (against : ¬PeeksAlone s label) : ¬Exclusive next := by
  cases step with
  | mk x action shared pc step =>
    intro exclusive
    simp only [PeeksAlone, Classical.not_imp, not_forall] at against
    obtain ⟨isPeek, full, y, other, _, occupied⟩ := against
    subst isPeek
    have here : region ((s.move x shared pc).pc x) ≠ none := by
      rw [move_pc_self]
      exact peek_occupies step full
    have there : region ((s.move x shared pc).pc y) ≠ none := by
      rw [move_pc_other s x y shared pc other]
      exact occupied
    exact other (exclusive.single y x there here)

/-- In every state of a run at most one thread works on the first element, and what was removed
is what was peeked, exactly when `process(Out)` and the calls of `send` peek apart. -/
theorem exclusive_iff (trace : List ((Thread App × Action) × System App))
    (run : Run Step System.initial trace) :
    Always Exclusive System.initial trace ↔ Guarded PeeksAlone System.initial trace := by
  refine always_iff (fun s inv => inv.toExclusive) keeps_inv
    (fun s label next _ step against => breaks_exclusive s label next step against) trace _ ?_ run
  refine ⟨⟨?_, ?_⟩, initial_owned, ?_⟩
  · intro x y one
    exact absurd rfl one
  · intro removal member
    exact absurd member List.not_mem_nil
  · intro x head occupied
    cases occupied

end

/-- A message is queued and sent by an event `Out`, and a send after it finds the queue empty. -/
def handedOver : List ((Thread Unit × Action) × System Unit) :=
  System.initial.walk [
    ((.app (), .send [71]), id, .lockTcp ⟨.send, [71]⟩),
    ((.app (), .lock), fun s => s.setOwner .tcp (some (.app ())), .peek ⟨.send, [71]⟩),
    ((.app (), .peek), id, .direct ⟨.send, [71]⟩ [71]),
    ((.app (), .wouldBlock), id, .push ⟨.send, [71]⟩ [71]),
    ((.app (), .push), fun s => { s with queue := s.queue ++ [⟨s.nextId, [71]⟩], nextId := s.nextId + 1 },
      .register ⟨.send, [71]⟩),
    ((.app (), .lock), fun s => s.setOwner .poll (some (.app ())), .registered ⟨.send, [71]⟩ false),
    ((.app (), .unlock), fun s => s.setOwner .poll none, .unlockTcp ⟨.send, [71]⟩),
    ((.poll, .wake), id, .enter),
    ((.poll, .lock), fun s => s.setOwner .poll (some .poll), .dispatch),
    ((.poll, .writable), id, .peek ⟨.flush, []⟩),
    ((.poll, .peek), id, .trying ⟨.flush, []⟩ ⟨0, [71]⟩ [71]),
    ((.app (), .unlock), fun s => s.setOwner .tcp none, .idle),
    ((.poll, .accepted 1), fun s => { s with wire := s.wire ++ [71] }, .trying ⟨.flush, []⟩ ⟨0, [71]⟩ []),
    ((.poll, .sent), id, .pop ⟨.flush, []⟩ ⟨0, [71]⟩),
    ((.poll, .pop), fun s => { s with
      queue := s.queue.tail
      removed := s.removed ++ [(⟨0, [71]⟩, s.queue.head?)] }, .peek ⟨.flush, []⟩),
    ((.app (), .send [72]), id, .lockTcp ⟨.send, [72]⟩),
    ((.app (), .lock), fun s => s.setOwner .tcp (some (.app ())), .peek ⟨.send, [72]⟩),
    ((.app (), .peek), id, .direct ⟨.send, [72]⟩ [72]),
    ((.poll, .peek), id, .rearm)]

theorem handedOver_run : Run Step System.initial handedOver :=
  ⟨.mk _ _ _ _ _ (.send _ () _ rfl), .mk _ _ _ _ _ (.lockTcp _ _ rfl), .mk _ _ _ _ _ (.peekNone _ _ rfl),
    .mk _ _ _ _ _ (.directBlocked _ _ _ (by decide)), .mk _ _ _ _ _ (.push _ _ _),
    .mk _ _ _ _ _ (.register _ _ rfl), .mk _ _ _ _ _ (.registered _ _), .mk _ _ _ _ _ (.wake _ rfl),
    .mk _ _ _ _ _ (.enter _ rfl), .mk _ _ _ _ _ (.writable _), .mk _ _ _ _ _ (.peekSome _ _ _ rfl),
    .mk _ _ _ _ _ (.unlockTcp _ _), .mk _ _ _ _ _ (.tryAccepted _ _ _ _ 1 (by decide) (by decide)),
    .mk _ _ _ _ _ (.trySent _ _ _), .mk _ _ _ _ _ (.pop _ _ _), .mk _ _ _ _ _ (.send _ () _ rfl),
    .mk _ _ _ _ _ (.lockTcp _ _ rfl), .mk _ _ _ _ _ (.peekNone _ _ rfl), .mk _ _ _ _ _ (.peekNone _ _ rfl), trivial⟩

/-- No two of its peeks overlap: when the event finds the element, the send has left it. -/
theorem exclusive_handedOver : Always Exclusive System.initial handedOver := by
  apply (exclusive_iff handedOver handedOver_run).mpr
  have quiet : ∀ s : System Unit, ∀ label : Thread Unit × Action, label.2 ≠ .peek → PeeksAlone s label :=
    fun s label other isPeek => absurd isPeek other
  have empty : ∀ s : System Unit, ∀ label : Thread Unit × Action, s.shared.queue = [] → PeeksAlone s label :=
    fun s label none _ some => absurd none some
  refine ⟨quiet _ _ (by decide), quiet _ _ (by decide), empty _ _ rfl, quiet _ _ (by decide), quiet _ _ (by decide),
    quiet _ _ (by decide), quiet _ _ (by decide), quiet _ _ (by decide), quiet _ _ (by decide),
    quiet _ _ (by decide), ?_, quiet _ _ (by decide), quiet _ _ (by decide), quiet _ _ (by decide),
    quiet _ _ (by decide), quiet _ _ (by decide), quiet _ _ (by decide), empty _ _ rfl, empty _ _ rfl, trivial⟩
  intro _ _ y other _
  cases y with
  | poll => exact absurd rfl other
  | app a => rfl

/-- A message is queued; then a send and an event `Out` both work on it. -/
def overlapping : List ((Thread Unit × Action) × System Unit) :=
  System.initial.walk [
    ((.app (), .send [71]), id, .lockTcp ⟨.send, [71]⟩),
    ((.app (), .lock), fun s => s.setOwner .tcp (some (.app ())), .peek ⟨.send, [71]⟩),
    ((.app (), .peek), id, .direct ⟨.send, [71]⟩ [71]),
    ((.app (), .wouldBlock), id, .push ⟨.send, [71]⟩ [71]),
    ((.app (), .push), fun s => { s with queue := s.queue ++ [⟨s.nextId, [71]⟩], nextId := s.nextId + 1 },
      .register ⟨.send, [71]⟩),
    ((.app (), .lock), fun s => s.setOwner .poll (some (.app ())), .registered ⟨.send, [71]⟩ false),
    ((.app (), .unlock), fun s => s.setOwner .poll none, .unlockTcp ⟨.send, [71]⟩),
    ((.app (), .unlock), fun s => s.setOwner .tcp none, .idle),
    ((.app (), .send [72]), id, .lockTcp ⟨.send, [72]⟩),
    ((.app (), .lock), fun s => s.setOwner .tcp (some (.app ())), .peek ⟨.send, [72]⟩),
    ((.app (), .peek), id, .trying ⟨.send, [72]⟩ ⟨0, [71]⟩ [71]),
    ((.poll, .wake), id, .enter),
    ((.poll, .lock), fun s => s.setOwner .poll (some .poll), .dispatch),
    ((.poll, .writable), id, .peek ⟨.flush, []⟩),
    ((.poll, .peek), id, .trying ⟨.flush, []⟩ ⟨0, [71]⟩ [71])]

theorem overlapping_run : Run Step System.initial overlapping :=
  ⟨.mk _ _ _ _ _ (.send _ () _ rfl), .mk _ _ _ _ _ (.lockTcp _ _ rfl), .mk _ _ _ _ _ (.peekNone _ _ rfl),
    .mk _ _ _ _ _ (.directBlocked _ _ _ (by decide)), .mk _ _ _ _ _ (.push _ _ _),
    .mk _ _ _ _ _ (.register _ _ rfl), .mk _ _ _ _ _ (.registered _ _), .mk _ _ _ _ _ (.unlockTcp _ _),
    .mk _ _ _ _ _ (.send _ () _ rfl), .mk _ _ _ _ _ (.lockTcp _ _ rfl), .mk _ _ _ _ _ (.peekSome _ _ _ rfl),
    .mk _ _ _ _ _ (.wake _ rfl), .mk _ _ _ _ _ (.enter _ rfl), .mk _ _ _ _ _ (.writable _),
    .mk _ _ _ _ _ (.peekSome _ _ _ rfl), trivial⟩

theorem overlapping_not_exclusive :
    ¬∀ trace : List ((Thread Unit × Action) × System Unit), Run Step System.initial trace →
      Always Exclusive System.initial trace := by
  intro all
  have exclusive := (all overlapping overlapping_run).of_mem _ (List.getLast_mem (by simp [overlapping, System.walk]))
  exact absurd (exclusive.single .poll (.app ()) (by decide) (by decide)) (by decide)

end WebsocketClient.SendRegions
