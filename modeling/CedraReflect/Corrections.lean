/-
What a lazy implementation stores of a dividend ledger.

Instead of visiting every holder on every receipt it keeps one index and, for
each holder, a correction: what the holder's accumulator has beyond its shares
at the index. A receipt moves the index and no correction at all; shares that
come or go at an index move the correction against it. The same holds of the
corrections' sum, which is what an implementation keeps as its aggregate.

Nothing is divided here. The corrections are signed, and what they can reach is
bounded by the two numbers a lazy implementation multiplies anyway: the shares
at the index, and what was ever received ([`Valid.correction_group`]).
-/
import CedraReflect.Dividend

set_option autoImplicit false

namespace CedraReflect.Dividend

variable {ι : Type}

namespace Ledger

/-- What a holder's accumulator has beyond its shares at the index. -/
def correction (L : Ledger ι) (i : ι) : ℤ := L.accrued i - L.shares i * L.index

/-- What all accumulators together have beyond the total at the index. -/
def aggregate (L : Ledger ι) : ℤ := L.accruedSum - L.total * L.index

theorem accrued_eq (L : Ledger ι) (i : ι) :
    (L.shares i : ℤ) * L.index + L.correction i = L.accrued i := by
  unfold correction
  ring

theorem accruedSum_eq (L : Ledger ι) :
    (L.total : ℤ) * L.index + L.aggregate = L.accruedSum := by
  unfold aggregate
  ring

/-- **The aggregate is the sum of the corrections.** -/
theorem sum_correction (L : Ledger ι) : ∑ i ∈ L.holders, L.correction i = L.aggregate := by
  unfold correction aggregate accruedSum total
  rw [Finset.sum_sub_distrib, ← Finset.sum_mul, Nat.cast_sum]

end Ledger

/-! ## One event -/

namespace Act

variable [DecidableEq ι]

/-- What an event adds to a holder's correction. -/
def shift (L : Ledger ι) (i : ι) : Act ι → ℤ
  | give j n => if i = j then -(n * L.index) else 0
  | take j n => if i = j then n * L.index else 0
  | retire j r => if i = j then -r else 0
  | _ => 0

/-- What an event adds to the aggregate. -/
def shiftSum (L : Ledger ι) : Act ι → ℤ
  | give _ n => -(n * L.index)
  | take _ n => n * L.index
  | retire _ r => -r
  | _ => 0

variable {M : ℕ} {L : Ledger ι} {a : Act ι}

/-- **A receipt corrects nobody**, and shares that move do so at the index. -/
theorem Enabled.correction_apply (ha : a.Enabled M L) (i : ι) :
    (a.apply M L).correction i = L.correction i + a.shift L i := by
  unfold Ledger.correction
  rw [accrued_apply]
  cases a with
  | give j n =>
      by_cases hij : i = j
      · subst hij
        simp only [apply, gain, shift, Function.update_self, if_true]
        push_cast
        ring
      · simp [apply, gain, shift, hij]
  | take j n =>
      by_cases hij : i = j
      · subst hij
        have hn := ha.2
        simp only [apply, gain, shift, Function.update_self, if_true]
        push_cast [hn]
        ring
      · simp [apply, gain, shift, hij]
  | receive n =>
      simp only [apply, gain, shift]
      split
      · simp
      · push_cast
        ring
  | retire j r =>
      simp only [apply, gain, shift]
      split
      · ring
      · ring
  | _ => simp [apply, gain, shift]

theorem Enabled.aggregate_apply (ha : a.Enabled M L) (h : Valid M L) :
    (a.apply M L).aggregate = L.aggregate + a.shiftSum L := by
  unfold Ledger.aggregate
  rw [ha.accruedSum_apply h, ha.total_apply h]
  cases a with
  | receive n =>
      by_cases ht : L.total = 0
      · simp [apply, handed, weight, shiftSum, ht]
      · simp only [apply, handed, weight, shiftSum, if_neg ht]
        push_cast
        ring
  | _ =>
      simp only [apply, handed, weight, shiftSum]
      ring

end Act

/-! ## Shares that move -/

/-- `L'` is `L` with `delta` shares more for `i`, which may be fewer. -/
structure Weighs (L L' : Ledger ι) (i : ι) (delta : ℤ) : Prop where
  holders : L'.holders = L.holders
  claimed : L'.claimed = L.claimed
  index : L'.index = L.index
  remainder : L'.remainder = L.remainder
  unallocated : L'.unallocated = L.unallocated
  retired : L'.retired = L.retired
  received : L'.received = L.received
  shares : (L'.shares i : ℤ) = L.shares i + delta
  correction : L'.correction i = L.correction i - delta * L.index
  other : ∀ j, j ≠ i → L'.shares j = L.shares j ∧ L'.correction j = L.correction j
  total : (L'.total : ℤ) = L.total + delta
  aggregate : L'.aggregate = L.aggregate - delta * L.index

namespace Weighs

variable {M : ℕ} {L L' : Ledger ι} {i : ι} {n : ℕ} {delta : ℤ}

theorem claimedSum (h : Weighs L L' i delta) : L'.claimedSum = L.claimedSum := by
  rw [Ledger.claimedSum, h.holders, h.claimed, Ledger.claimedSum]

variable [DecidableEq ι]

theorem give (hv : Valid M L) (ha : (Act.give i n).Enabled M L) :
    Weighs L ((Act.give i n).apply M L) i n where
  holders := rfl
  claimed := rfl
  index := rfl
  remainder := rfl
  unallocated := rfl
  retired := rfl
  received := rfl
  shares := by simp [Act.apply]
  correction := by simp [ha.correction_apply, Act.shift, sub_eq_add_neg]
  other j hj := by
    rw [ha.correction_apply]
    simp [Act.apply, Act.shift, hj]
  total := ha.total_apply hv
  aggregate := by simp [ha.aggregate_apply hv, Act.shiftSum, sub_eq_add_neg]

theorem take (hv : Valid M L) (ha : (Act.take i n).Enabled M L) :
    Weighs L ((Act.take i n).apply M L) i (-n) where
  holders := rfl
  claimed := rfl
  index := rfl
  remainder := rfl
  unallocated := rfl
  retired := rfl
  received := rfl
  shares := by
    have hn := ha.2
    simp only [Act.apply, Function.update_self]
    omega
  correction := by simp [ha.correction_apply, Act.shift]
  other j hj := by
    rw [ha.correction_apply]
    simp [Act.apply, Act.shift, hj]
  total := ha.total_apply hv
  aggregate := by simp [ha.aggregate_apply hv, Act.shiftSum]

end Weighs

/-! ## Bounds -/

namespace Valid

variable {M : ℕ} {L : Ledger ι}

/-- The corrections of a group are no less than what its shares are worth at the
index, with the sign turned, and no more than what was received. -/
theorem correction_group [DecidableEq ι] (h : Valid M L) (S : Finset ι) :
    -((L.total : ℤ) * L.index) ≤ ∑ i ∈ S, L.correction i
      ∧ ∑ i ∈ S, L.correction i ≤ M * L.received := by
  have hshares : ∑ i ∈ S, L.shares i ≤ L.total :=
    Finset.sum_le_sum_of_ne_zero fun i _ hi => by_contra fun hout => hi (h.outside i hout).1
  have haccrued : ∑ i ∈ S, L.accrued i ≤ L.accruedSum := by
    have hsubset : S ∩ L.holders ⊆ S := Finset.inter_subset_left
    rw [Ledger.accruedSum, ← Finset.sum_subset hsubset]
    · exact Finset.sum_le_sum_of_subset_of_nonneg Finset.inter_subset_right
        fun i _ _ => h.accrued_nonneg i
    · intro i hi hout
      exact (h.outside i fun hin => hout (Finset.mem_inter.mpr ⟨hi, hin⟩)).2.1
  have hsum : ∑ i ∈ S, L.correction i
      = ∑ i ∈ S, L.accrued i - ((∑ i ∈ S, L.shares i : ℕ) : ℤ) * L.index := by
    unfold Ledger.correction
    rw [Finset.sum_sub_distrib, ← Finset.sum_mul, Nat.cast_sum]
  have hnonneg : 0 ≤ ∑ i ∈ S, L.accrued i := Finset.sum_nonneg fun i _ => h.accrued_nonneg i
  have hworth : ((∑ i ∈ S, L.shares i : ℕ) : ℤ) * L.index ≤ (L.total : ℤ) * L.index := by
    exact_mod_cast Nat.mul_le_mul_right _ hshares
  have hworth0 : (0 : ℤ) ≤ ((∑ i ∈ S, L.shares i : ℕ) : ℤ) * L.index := by positivity
  have hreceived := h.accruedSum_le
  rw [hsum]
  constructor
  · linarith
  · linarith

/-- A group was paid no more than everybody. -/
theorem claimed_group (h : Valid M L) (S : Finset ι) : ∑ i ∈ S, L.claimed i ≤ L.claimedSum :=
  Finset.sum_le_sum_of_ne_zero fun i _ hi => by_contra fun hout => hi (h.outside i hout).2.2

theorem correction_bounds [DecidableEq ι] (h : Valid M L) (i : ι) :
    -((L.total : ℤ) * L.index) ≤ L.correction i ∧ L.correction i ≤ M * L.received := by
  have hgroup := h.correction_group {i}
  rwa [Finset.sum_singleton] at hgroup

theorem aggregate_bounds [DecidableEq ι] (h : Valid M L) :
    -((L.total : ℤ) * L.index) ≤ L.aggregate ∧ L.aggregate ≤ M * L.received := by
  have hgroup := h.correction_group L.holders
  rwa [L.sum_correction] at hgroup

theorem correction_outside (h : Valid M L) {i : ι} (hi : i ∉ L.holders) : L.correction i = 0 := by
  unfold Ledger.correction
  rw [(h.outside i hi).1, (h.outside i hi).2.1]
  simp

end Valid

end CedraReflect.Dividend
