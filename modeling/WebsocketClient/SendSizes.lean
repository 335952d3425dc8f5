import Mathlib.Algebra.Ring.Int.Defs
import WebsocketClient.TcpTransport

/-! `TcpTransport::trySendMessage` with the types of its sizes. What remains is a `size_t`, which is narrowed
to `int` at each call and widened by `::send` again. -/

namespace WebsocketClient.SendSizes
open TcpTransports

/-- A kernel that accepts at least one byte and at most those offered, and none when none is offered. -/
structure Kernel where
  send : Nat → UInt64 → UInt64
  positive : ∀ n offered, 0 < offered → 0 < send n offered
  bounded : ∀ n offered, send n offered ≤ offered

/-- `int(size)` as a `size_t`. -/
def offered (size : UInt64) : UInt64 := UInt64.ofInt (toInt size.toNat)

structure Call where
  offered : UInt64
  remaining : UInt64
  deriving DecidableEq, Repr

inductive Ending where
  | sent
  /-- `len` is negative, and the error code decides. -/
  | left
  /-- The rounds do not suffice to end the loop. -/
  | running
  deriving DecidableEq, Repr

/-- The loop of `trySendMessage`, from its n-th call on. -/
def trySendMessage (kernel : Kernel) : (rounds n : Nat) → (size : UInt64) → List Call × Ending
  | 0, _, size => ([], if size = 0 then .sent else .running)
  | rounds + 1, n, size =>
      if size = 0 then ([], .sent)
      else
        let len := toInt (kernel.send n (offered size)).toNat
        if len < 0 then ([⟨offered size, size⟩], .left)
        else
          let (calls, ending) := trySendMessage kernel rounds (n + 1) (size - UInt64.ofInt len)
          (⟨offered size, size⟩ :: calls, ending)

def Call.Within (call : Call) : Prop := 0 < call.offered ∧ call.offered ≤ call.remaining

/-- Every call is right, and there are no more calls than bytes. -/
structure Progresses (kernel : Kernel) (size : UInt64) : Prop where
  within : ∀ rounds, ∀ call ∈ (trySendMessage kernel rounds 0 size).1, call.Within
  ends : (trySendMessage kernel size.toNat 0 size).2 ≠ .running

/-! ### Conversions -/

theorem toNat_ofInt (x : Int) : (UInt64.ofInt x).toNat = (x % 2 ^ 64).toNat := by
  rw [UInt64.ofInt, UInt64.toNat_ofNat', Nat.mod_eq_of_lt]
  omega

theorem toNat_toInt {n : Nat} (small : n < 2 ^ 31) : (UInt64.ofInt (toInt n)).toNat = n := by
  rw [toNat_ofInt, toInt_eq _ small]
  omega

/-- A call is right only if the lower half of the size is a positive `int`. -/
theorem offered_within {size : UInt64} (fits : size.toNat < 2 ^ 63) (within : Call.Within ⟨offered size, size⟩) :
    (offered size).toNat = size.toNat % 2 ^ 32 ∧ 0 < size.toNat % 2 ^ 32 ∧ size.toNat % 2 ^ 32 < 2 ^ 31 := by
  obtain ⟨positive, most⟩ := within
  rw [UInt64.lt_iff_toNat_lt, UInt64.toNat_zero] at positive
  rw [UInt64.le_iff_toNat_le] at most
  simp only [offered, toNat_ofInt] at positive most ⊢
  rcases toInt_cases size.toNat with ⟨low, same⟩ | ⟨high, same⟩
  · rw [same] at positive most ⊢
    omega
  · rw [same] at positive most ⊢
    omega

theorem offered_small {size : UInt64} (small : size.toNat < 2 ^ 31) : offered size = size :=
  UInt64.toNat_inj.mp (toNat_toInt small)

/-! ### One round -/

section
variable (kernel : Kernel) (n : Nat) {size : UInt64}

theorem first_mem (rounds : Nat) (more : size ≠ 0) :
    ⟨offered size, size⟩ ∈ (trySendMessage kernel (rounds + 1) n size).1 := by
  rw [trySendMessage, if_neg more]
  simp only
  split
  · exact List.mem_singleton_self _
  · exact List.mem_cons_self ..

theorem next_bounds (fits : size.toNat < 2 ^ 63) (within : Call.Within ⟨offered size, size⟩) :
    (size - kernel.send n (offered size)).toNat = size.toNat - (kernel.send n (offered size)).toNat ∧
    (size - kernel.send n (offered size)).toNat < size.toNat ∧
    size.toNat - size.toNat % 2 ^ 32 ≤ (size - kernel.send n (offered size)).toNat := by
  have half := offered_within fits within
  have positive : 0 < kernel.send n (offered size) := kernel.positive n _ within.1
  have bounded := kernel.bounded n (offered size)
  rw [UInt64.lt_iff_toNat_lt, UInt64.toNat_zero] at positive
  rw [UInt64.le_iff_toNat_le, half.1] at bounded
  have less : kernel.send n (offered size) ≤ size := by
    rw [UInt64.le_iff_toNat_le]
    omega
  rw [UInt64.toNat_sub_of_le _ _ less]
  omega

theorem trySendMessage_within (fits : size.toNat < 2 ^ 63) (within : Call.Within ⟨offered size, size⟩) (rounds : Nat) :
    trySendMessage kernel (rounds + 1) n size =
      (⟨offered size, size⟩ :: (trySendMessage kernel rounds (n + 1) (size - kernel.send n (offered size))).1,
        (trySendMessage kernel rounds (n + 1) (size - kernel.send n (offered size))).2) := by
  have half := offered_within fits within
  have bounded := kernel.bounded n (offered size)
  rw [UInt64.le_iff_toNat_le, half.1] at bounded
  have small : (kernel.send n (offered size)).toNat < 2 ^ 31 := by omega
  have len : toInt (kernel.send n (offered size)).toNat = (kernel.send n (offered size)).toNat := toInt_eq _ small
  have more : size ≠ 0 := by
    rintro rfl
    exact absurd half.2.1 (by decide)
  have taken : UInt64.ofInt (kernel.send n (offered size)).toNat = kernel.send n (offered size) := by
    rw [← len]
    exact UInt64.toNat_inj.mp (toNat_toInt small)
  rw [trySendMessage, if_neg more]
  simp only [len, taken, if_neg (Int.not_lt.mpr (Int.natCast_nonneg _))]

theorem within_small (small : size.toNat < 2 ^ 31) (more : size ≠ 0) : Call.Within ⟨offered size, size⟩ := by
  rw [offered_small small]
  exact ⟨UInt64.pos_iff_ne_zero.mpr more, UInt64.le_refl size⟩

end

/-! ### Whole loops -/

theorem trySendMessage_small (kernel : Kernel) (rounds n : Nat) (size : UInt64) (small : size.toNat < 2 ^ 31) :
    (∀ call ∈ (trySendMessage kernel rounds n size).1, call.Within) ∧
      (size.toNat ≤ rounds → (trySendMessage kernel rounds n size).2 = .sent) := by
  induction rounds generalizing n size with
  | zero =>
    refine ⟨fun call none => absurd none List.not_mem_nil, fun enough => ?_⟩
    have zero : size = 0 := UInt64.toNat_inj.mp (Nat.le_zero.mp enough)
    rw [trySendMessage, if_pos zero]
  | succ rounds ih =>
    by_cases more : size = 0
    · rw [trySendMessage, if_pos more]
      exact ⟨fun call none => absurd none List.not_mem_nil, fun _ => rfl⟩
    · have fits : size.toNat < 2 ^ 63 := by omega
      have within := within_small small more
      obtain ⟨_, fewer, _⟩ := next_bounds kernel n fits within
      obtain ⟨right, ends⟩ := ih (n + 1) (size - kernel.send n (offered size)) (by omega)
      rw [trySendMessage_within kernel _ fits within]
      refine ⟨?_, fun enough => ends (by omega)⟩
      simp only [List.mem_cons, forall_eq_or_imp]
      exact ⟨within, right⟩

theorem trySendMessage_large (kernel : Kernel) (n : Nat) (size : UInt64) (large : 2 ^ 31 ≤ size.toNat)
    (fits : size.toNat < 2 ^ 63) :
    ∃ rounds, ∃ call ∈ (trySendMessage kernel rounds n size).1, ¬call.Within := by
  induction left : size.toNat using Nat.strongRecOn generalizing n size with
  | ind left' ih =>
    subst left
    have more : size ≠ 0 := by
      rintro rfl
      exact absurd large (by decide)
    by_cases within : Call.Within ⟨offered size, size⟩
    · have half := offered_within fits within
      obtain ⟨_, fewer, upper⟩ := next_bounds kernel n fits within
      obtain ⟨rounds, call, member, wrong⟩ := ih _ fewer (n + 1) (size - kernel.send n (offered size)) (by omega)
        (by omega) rfl
      refine ⟨rounds + 1, call, ?_, wrong⟩
      rw [trySendMessage_within kernel _ fits within]
      exact List.mem_cons_of_mem _ member
    · exact ⟨1, _, first_mem kernel n 0 more, within⟩

/-! ### The loop of the transport -/

/-- The same kernel, with the answers that the transport reads. -/
def Kernel.answers (kernel : Kernel) : TcpTransports.Kernel where
  send n offered :=
    if 0 < offered ∧ offered < 9223372036854775808 then .accepted (kernel.send n (UInt64.ofInt offered)).toNat
    else .wouldBlock
  bounded n offered length answer := by
    split_ifs at answer with inside
    obtain rfl := Answer.accepted.inj answer
    have same : (UInt64.ofInt offered).toNat = offered.toNat := by
      rw [toNat_ofInt]
      omega
    have some : 0 < UInt64.ofInt offered := by
      rw [UInt64.lt_iff_toNat_lt, same, UInt64.toNat_zero]
      omega
    have positive := kernel.positive n _ some
    have bounded := kernel.bounded n (UInt64.ofInt offered)
    rw [UInt64.le_iff_toNat_le, same] at bounded
    rw [UInt64.lt_iff_toNat_lt, UInt64.toNat_zero] at positive
    omega

theorem answers_send (kernel : Kernel) (n : Nat) {size : UInt64} (small : size.toNat < 2 ^ 31) (more : 0 < size.toNat) :
    kernel.answers.send n (toInt size.toNat) = .accepted (kernel.send n (offered size)).toNat := by
  have int : toInt size.toNat = size.toNat := toInt_eq _ small
  have inside : 0 < (size.toNat : Int) ∧ (size.toNat : Int) < 9223372036854775808 := by omega
  rw [offered, int]
  exact if_pos inside

theorem trySendFrom_eq (kernel : Kernel) (rounds : Nat) (data : ByteString.Bytes) (size : UInt64) (t : TcpTransport)
    (length : data.length = size.toNat) (small : size.toNat < 2 ^ 31) (enough : size.toNat ≤ rounds) :
    TcpTransport.trySendFrom kernel.answers rounds data t =
      some (.ok none, { t with
        wire := t.wire ++ data
        sendCalls := t.sendCalls + (trySendMessage kernel rounds t.sendCalls size).1.length }) := by
  induction rounds generalizing data size t with
  | zero =>
    obtain rfl : data = [] := List.length_eq_zero_iff.mp (by omega)
    simp [TcpTransport.trySendFrom, trySendMessage]
  | succ rounds ih =>
    cases data with
    | nil =>
      have zero : size = 0 := UInt64.toNat_inj.mp length.symm
      simp [TcpTransport.trySendFrom, trySendMessage, zero]
    | cons b rest =>
      have full : 0 < size.toNat := by simp [← length]
      have more : size ≠ 0 := by
        rintro rfl
        exact absurd full (Nat.lt_irrefl 0)
      have fits : size.toNat < 2 ^ 63 := by omega
      have within := within_small small more
      obtain ⟨left, fewer, _⟩ := next_bounds kernel t.sendCalls fits within
      rw [TcpTransport.trySendFrom, length, answers_send kernel _ small full,
          trySendMessage_within kernel _ fits within]
      simp only
      rw [ih _ (size - kernel.send t.sendCalls (offered size)) _ (by rw [left, List.length_drop, length]) (by omega)
        (by omega), List.append_assoc, List.take_append_drop, List.length_cons, Nat.add_assoc, Nat.add_comm 1]

/-- What `size()` of a message may be: `std::vector` holds no more bytes than `ptrdiff_t` counts. -/
abbrev Size := { size : UInt64 // size.toNat < 2 ^ 63 }

/-- The calls of `::send` are right and end, exactly when the size of the message is an `int`. -/
theorem progresses_iff (kernel : Kernel) (size : Size) : Progresses kernel size.1 ↔ size.1.toNat < 2 ^ 31 := by
  constructor
  · intro progresses
    by_contra large
    obtain ⟨rounds, call, member, wrong⟩ := trySendMessage_large kernel 0 size.1 (Nat.le_of_not_lt large) size.2
    exact wrong (progresses.within rounds call member)
  · intro small
    refine ⟨fun rounds => (trySendMessage_small kernel rounds 0 size.1 small).1, ?_⟩
    rw [(trySendMessage_small kernel size.1.toNat 0 size.1 small).2 (Nat.le_refl _)]
    decide

/-- A kernel that takes all it is offered. -/
def Kernel.greedy : Kernel where
  send _ offered := offered
  positive _ _ := id
  bounded _ offered := UInt64.le_refl offered

def wide : Size := ⟨4294967296, by decide +kernel⟩

/-- Nothing is offered of it, and nothing is accepted, for ever. -/
theorem wide_not_progresses : ¬∀ (kernel : Kernel) (size : Size), Progresses kernel size.1 := by
  intro all
  have first : ⟨offered wide.1, wide.1⟩ ∈ (trySendMessage Kernel.greedy 1 0 wide.1).1 :=
    first_mem _ _ 0 (by decide +kernel)
  have positive := ((all Kernel.greedy wide).within 1 _ first).1
  exact absurd positive (by decide +kernel)

end WebsocketClient.SendSizes
