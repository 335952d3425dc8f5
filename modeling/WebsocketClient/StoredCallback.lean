import Mathlib.Data.List.Nodup
import WebsocketClient.Library.Runs

/-! `synchronized_stored_callback` of `utils.hpp`. Its mutex is recursive and held while a callback runs, so that
all calls form one sequence, in which what a callback does stands between its invocation and its end. -/

namespace WebsocketClient.StoredCallbacks
open Library.Runs

variable {A C : Type}

/-- The arguments of a trigger, whose numbers count up from zero. They are gone once a callback took them. -/
structure Stored (A : Type) where
  trigger : Nat
  args : A
  moved : Bool
  deriving DecidableEq, Repr

/-- A callback that runs, and who invoked it: `operator()`, or `set` for a stored trigger. -/
inductive Running where
  | call
  | replay
  deriving DecidableEq, Repr

/-- A callback invoked for a trigger. `none` stands for arguments that were moved out before. -/
structure Invocation (A C : Type) where
  trigger : Nat
  args : Option A
  callback : C
  deriving DecidableEq, Repr

structure StoredCallback (A C : Type) where
  callback : Option C
  stored : Option (Stored A)
  stack : List Running
  triggers : List A
  invocations : List (Invocation A C)
  deriving DecidableEq, Repr

inductive Label (A C : Type) where
  | call (args : A)
  | set (func : Option C)
  /-- The callback invoked last returns, or throws. The code that called or assigned may catch it. -/
  | returns
  | throws
  deriving DecidableEq, Repr

namespace StoredCallback
variable (s : StoredCallback A C)

def new : StoredCallback A C := ⟨none, none, [], [], []⟩

def invoke (running : Running) (trigger : Nat) (args : Option A) (func : C) : StoredCallback A C :=
  { s with stack := running :: s.stack, invocations := s.invocations ++ [⟨trigger, args, func⟩] }

def call (args : A) : StoredCallback A C :=
  let trigger := s.triggers.length
  let s := { s with triggers := s.triggers ++ [args] }
  match s.callback with
  | some func => s.invoke .call trigger (some args) func
  | none => { s with stored := some ⟨trigger, args, false⟩ }

/-- `std::apply(func, std::move(*stored))`. -/
def replay (func : C) : StoredCallback A C :=
  match s.stored with
  | some stored =>
      { s with stored := some { stored with moved := true } }.invoke .replay stored.trigger
        (if stored.moved then none else some stored.args) func
  | none => s

def set : Option C → StoredCallback A C
  | some func => { s with callback := some func }.replay func
  | none => { s with callback := none }

/-- `stored.reset()` follows the callback of a stored trigger. -/
def returns : StoredCallback A C :=
  match s.stack with
  | [] => s
  | .call :: stack => { s with stack := stack }
  | .replay :: stack => { s with stack := stack, stored := none }

def throws : StoredCallback A C := { s with stack := s.stack.tail }

def handle : Label A C → StoredCallback A C
  | .call args => s.call args
  | .set func => s.set func
  | .returns => s.returns
  | .throws => s.throws

/-- The stored trigger, as long as no callback took it. -/
def fresh : Option (Nat × A) :=
  match s.stored with
  | some stored => if stored.moved then none else some (stored.trigger, stored.args)
  | none => none

end StoredCallback

/-! ### What is to be delivered -/

/-- The callback, the number of triggers, the last trigger that found none and is still to be delivered, and the
deliveries. -/
structure Delivery (A C : Type) where
  callback : Option C
  count : Nat
  missed : Option (Nat × A)
  delivered : List (Invocation A C)
  deriving DecidableEq, Repr

namespace Delivery
variable (d : Delivery A C)

def new : Delivery A C := ⟨none, 0, none, []⟩

/-- A trigger goes to the callback at once, or is kept in the place of an earlier one. -/
def call (args : A) : Delivery A C :=
  match d.callback with
  | some func => { d with count := d.count + 1, delivered := d.delivered ++ [⟨d.count, some args, func⟩] }
  | none => { d with count := d.count + 1, missed := some (d.count, args) }

/-- The first callback that is assigned afterwards gets it. -/
def set (func : Option C) : Delivery A C :=
  match func, d.missed with
  | some func, some (trigger, args) => { d with
      callback := some func
      missed := none
      delivered := d.delivered ++ [⟨trigger, some args, func⟩] }
  | func, _ => { d with callback := func }

def handle : Label A C → Delivery A C
  | .call args => d.call args
  | .set func => d.set func
  | .returns => d
  | .throws => d

end Delivery

structure State (A C : Type) where
  code : StoredCallback A C
  spec : Delivery A C
  deriving DecidableEq, Repr

def initial : State A C := ⟨.new, .new⟩

inductive Step (s : State A C) : Label A C → State A C → Prop where
  | handle (label : Label A C) : Step s label ⟨s.code.handle label, s.spec.handle label⟩

/-- Each trigger is delivered as specified, to one callback and with its own arguments, and a missed one is kept. -/
structure Faithful (s : State A C) : Prop where
  invocations : s.code.invocations = s.spec.delivered
  missed : s.code.fresh = s.spec.missed
  once : (s.code.invocations.map Invocation.trigger).Nodup
  intact : ∀ invocation ∈ s.code.invocations, s.code.triggers[invocation.trigger]? = invocation.args

/-- No callback is assigned while the trigger that is stored has been delivered, and none is stored anew when the
callback of a stored one returns. -/
def Settled (s : State A C) : Label A C → Prop
  | .set (some _) => ∀ stored ∈ s.code.stored, stored.moved = false
  | .returns => s.code.stack.head? = some .replay → s.code.fresh = none
  | _ => True

/-! ### The specification -/

/-- The deliveries are of different triggers, with their arguments, and a missed trigger is not among them. -/
structure Delivery.Sound (triggers : List A) (d : Delivery A C) : Prop where
  count : d.count = triggers.length
  once : (d.delivered.map Invocation.trigger).Nodup
  intact : ∀ invocation ∈ d.delivered, triggers[invocation.trigger]? = invocation.args
  known : ∀ invocation ∈ d.delivered, invocation.trigger < d.count
  missed : ∀ trigger args, d.missed = some (trigger, args) → triggers[trigger]? = some args ∧
    ∀ invocation ∈ d.delivered, invocation.trigger ≠ trigger

section
variable {triggers : List A} {d : Delivery A C}

theorem Delivery.Sound.deliver (sound : d.Sound triggers) {trigger : Nat} {args : A} (func : C)
    (fresh : ∀ invocation ∈ d.delivered, invocation.trigger ≠ trigger) (mine : triggers[trigger]? = some args) :
    let delivered := d.delivered ++ [⟨trigger, some args, func⟩]
    (delivered.map Invocation.trigger).Nodup ∧
    (∀ invocation ∈ delivered, triggers[invocation.trigger]? = invocation.args ∧
      invocation.trigger < triggers.length) := by
  intro delivered
  constructor
  · rw [List.map_append, List.nodup_append]
    refine ⟨sound.once, List.nodup_singleton _, ?_⟩
    intro one member other last
    obtain ⟨invocation, inside, rfl⟩ := List.mem_map.mp member
    rw [List.mem_singleton.mp last]
    exact fresh invocation inside
  · intro invocation member
    rcases List.mem_append.mp member with earlier | last
    · exact ⟨sound.intact invocation earlier, sound.count ▸ sound.known invocation earlier⟩
    · rw [List.mem_singleton.mp last]
      exact ⟨mine, (List.getElem?_eq_some_iff.mp mine).1⟩

theorem Delivery.Sound.extend (sound : d.Sound triggers) (args : A) :
    Delivery.Sound (triggers ++ [args]) { d with count := d.count + 1 } := by
  have kept {trigger : Nat} {found : Option A} (inside : trigger < triggers.length)
      (here : triggers[trigger]? = found) : (triggers ++ [args])[trigger]? = found := by
    rw [List.getElem?_append_left inside, here]
  refine ⟨by simp [sound.count], sound.once, ?_, ?_, ?_⟩
  · intro invocation member
    exact kept (sound.count ▸ sound.known invocation member) (sound.intact invocation member)
  · intro invocation member
    exact Nat.lt_succ_of_lt (sound.known invocation member)
  · intro trigger missed found
    obtain ⟨here, other⟩ := sound.missed trigger missed found
    exact ⟨kept (List.getElem?_eq_some_iff.mp here).1 here, other⟩

theorem Delivery.Sound.call (sound : d.Sound triggers) (args : A) : (d.call args).Sound (triggers ++ [args]) := by
  have last : (triggers ++ [args])[d.count]? = some args := by rw [sound.count, List.getElem?_concat_length]
  have longer := sound.extend args
  have new : ∀ invocation ∈ d.delivered, invocation.trigger ≠ d.count :=
    fun invocation member => Nat.ne_of_lt (sound.known invocation member)
  cases callback : d.callback with
  | some func =>
    obtain ⟨once, intact⟩ := longer.deliver func new last
    simp only [Delivery.call, callback]
    refine ⟨longer.count, once, fun invocation member => (intact invocation member).1, ?_, ?_⟩
    · intro invocation member
      exact longer.count ▸ (intact invocation member).2
    · intro trigger missed found
      obtain ⟨here, other⟩ := longer.missed trigger missed found
      refine ⟨here, ?_⟩
      intro invocation member
      rcases List.mem_append.mp member with earlier | now
      · exact other invocation earlier
      · have before := (List.getElem?_eq_some_iff.mp (sound.missed trigger missed found).1).1
        rw [List.mem_singleton.mp now, sound.count]
        exact Nat.ne_of_gt before
  | none =>
    simp only [Delivery.call, callback]
    refine ⟨longer.count, longer.once, longer.intact, longer.known, ?_⟩
    rintro trigger missed ⟨⟩
    exact ⟨last, new⟩

theorem Delivery.Sound.set (sound : d.Sound triggers) (func : Option C) : (d.set func).Sound triggers := by
  cases func with
  | none => exact ⟨sound.count, sound.once, sound.intact, sound.known, sound.missed⟩
  | some func =>
    cases found : d.missed with
    | none =>
      simp only [Delivery.set, found]
      exact ⟨sound.count, sound.once, sound.intact, sound.known,
          fun _ _ same => absurd same.symm (Option.some_ne_none _)⟩
    | some pair =>
      obtain ⟨trigger, args⟩ := pair
      obtain ⟨here, other⟩ := sound.missed trigger args found
      obtain ⟨once, intact⟩ := sound.deliver func other here
      simp only [Delivery.set, found]
      refine ⟨sound.count, once, fun invocation member => (intact invocation member).1, ?_, ?_⟩
      · intro invocation member
        exact sound.count ▸ (intact invocation member).2
      · exact fun _ _ same => absurd same.symm (Option.some_ne_none _)

end

/-! ### The code -/

structure Inv (s : State A C) : Prop where
  callback : s.code.callback = s.spec.callback
  sound : s.spec.Sound s.code.triggers
  invocations : s.code.invocations = s.spec.delivered
  missed : s.code.fresh = s.spec.missed

theorem Inv.faithful {s : State A C} (inv : Inv s) : Faithful s := by
  refine ⟨inv.invocations, inv.missed, ?_, ?_⟩
  · rw [inv.invocations]
    exact inv.sound.once
  · rw [inv.invocations]
    exact inv.sound.intact

theorem call_inv {s : State A C} (inv : Inv s) (args : A) : Inv ⟨s.code.call args, s.spec.call args⟩ := by
  have sound := inv.sound.call args
  have number := inv.sound.count
  have same := inv.callback
  cases callback : s.code.callback with
  | some func =>
    rw [callback] at same
    have called : s.code.call args = { s.code with triggers := s.code.triggers ++ [args] }.invoke .call
        s.code.triggers.length (some args) func := by
      simp only [StoredCallback.call, callback]
    have delivered : s.spec.call args = { s.spec with
        count := s.spec.count + 1
        delivered := s.spec.delivered ++ [⟨s.spec.count, some args, func⟩] } := by
      simp only [Delivery.call, ← same]
    rw [delivered] at sound ⊢
    rw [called]
    refine ⟨inv.callback, sound, ?_, inv.missed⟩
    simp only [StoredCallback.invoke, inv.invocations, number]
  | none =>
    rw [callback] at same
    have called : s.code.call args = { s.code with
        triggers := s.code.triggers ++ [args]
        stored := some ⟨s.code.triggers.length, args, false⟩ } := by
      simp only [StoredCallback.call, callback]
    have delivered : s.spec.call args = { s.spec with
        count := s.spec.count + 1
        missed := some (s.spec.count, args) } := by
      simp only [Delivery.call, ← same]
    rw [delivered] at sound ⊢
    rw [called]
    refine ⟨inv.callback, sound, inv.invocations, ?_⟩
    simp only [StoredCallback.fresh, number]
    rfl

/-- A callback that is assigned gets the stored trigger, unless another one had it. -/
theorem set_inv {s : State A C} (inv : Inv s) (func : Option C) (settled : Settled s (.set func)) :
    Inv ⟨s.code.set func, s.spec.set func⟩ := by
  have sound := inv.sound.set func
  have missed := inv.missed
  cases func with
  | none => exact ⟨rfl, sound, inv.invocations, missed⟩
  | some func =>
    cases stored : s.code.stored with
    | none =>
      have none' : s.spec.missed = none := by
        rw [← missed]
        simp only [StoredCallback.fresh, stored]
      have assigned : s.code.set (some func) = { s.code with callback := some func } := by
        simp only [StoredCallback.set, StoredCallback.replay, stored]
      have specified : s.spec.set (some func) = { s.spec with callback := some func } := by
        simp only [Delivery.set, none']
      rw [specified] at sound ⊢
      rw [assigned]
      exact ⟨rfl, sound, inv.invocations, missed⟩
    | some held =>
      have unmoved : held.moved = false := settled held stored
      have some' : s.spec.missed = some (held.trigger, held.args) := by
        rw [← missed]
        simp only [StoredCallback.fresh, stored, unmoved]
        rfl
      have assigned : s.code.set (some func) = { s.code with
          callback := some func
          stored := some { held with moved := true } }.invoke .replay held.trigger (some held.args) func := by
        simp only [StoredCallback.set, StoredCallback.replay, stored, unmoved]
        rfl
      have specified : s.spec.set (some func) = { s.spec with
          callback := some func
          missed := none
          delivered := s.spec.delivered ++ [⟨held.trigger, some held.args, func⟩] } := by
        simp only [Delivery.set, some']
      rw [specified] at sound ⊢
      rw [assigned]
      refine ⟨rfl, sound, ?_, rfl⟩
      simp only [StoredCallback.invoke, inv.invocations]

theorem returns_inv {s : State A C} (inv : Inv s) (settled : Settled s .returns) : Inv ⟨s.code.returns, s.spec⟩ := by
  unfold StoredCallback.returns
  split
  · exact inv
  · exact ⟨inv.callback, inv.sound, inv.invocations, inv.missed⟩
  · rename_i stack running
    have none' : s.code.fresh = none := settled (by rw [running]; rfl)
    exact ⟨inv.callback, inv.sound, inv.invocations, none'.symm.trans inv.missed⟩

theorem keeps_inv (s : State A C) (label : Label A C) (next : State A C) (inv : Inv s) (step : Step s label next)
    (settled : Settled s label) : Inv next := by
  cases step with
  | handle =>
    cases label with
    | call args => exact call_inv inv args
    | set func => exact set_inv inv func settled
    | returns => exact returns_inv inv settled
    | throws => exact ⟨inv.callback, inv.sound, inv.invocations, inv.missed⟩

theorem initial_inv : Inv (initial : State A C) :=
  ⟨rfl, ⟨rfl, List.nodup_nil, fun _ member => absurd member List.not_mem_nil,
    fun _ member => absurd member List.not_mem_nil, fun _ _ found => absurd found (by simp [initial, Delivery.new])⟩,
    rfl, rfl⟩

def walk (s : State Nat Char) : List (Label Nat Char) → List (Label Nat Char × State Nat Char)
  | [] => []
  | label :: rest =>
      (label, ⟨s.code.handle label, s.spec.handle label⟩) :: walk ⟨s.code.handle label, s.spec.handle label⟩ rest

theorem walk_run (labels : List (Label Nat Char)) (s : State Nat Char) : Run Step s (walk s labels) := by
  induction labels generalizing s with
  | nil => trivial
  | cons label labels ih => exact ⟨.handle label, ih _⟩

end WebsocketClient.StoredCallbacks
