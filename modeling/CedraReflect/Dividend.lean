/-
Magnified dividends, with one accumulator per holder.

A pot of indivisible units is handed out to holders in proportion to integer
shares. Each receipt of `n` units raises a per-share index by
`(M * n + remainder) / total`, carries the division's remainder to the next
receipt, and adds `shares * increment` to every holder's accumulator; a holder
may be paid the whole units `accumulator / M` it has not been paid yet.

This is the naive reading of the scheme: it visits every holder on every
receipt. Nothing here is efficient and nothing needs to be, because it is what
an implementation that keeps one number per holder and one index is compared
with. What the layer proves is the arithmetic such an implementation leans on:
magnified units are conserved exactly ([`Valid.balance`] through
[`Act.Enabled.valid`]), the sum of the floors never exceeds the floor of the
sum ([`sum_pending_le_liability`]), and what lies between them is less than one
unit per holder ([`unnamed_le_card`]).
-/
import Mathlib.Algebra.BigOperators.Group.Finset.Piecewise
import Mathlib.Algebra.BigOperators.Ring.Finset
import Mathlib.Algebra.Order.BigOperators.Group.Finset
import Mathlib.Tactic.Abel
import Mathlib.Tactic.Linarith
import Mathlib.Tactic.Ring

set_option autoImplicit false

namespace CedraReflect.Dividend

/-- The naive ledger. `holders` is where the sums range; outside it every
function is zero ([`Valid.outside`]). -/
@[ext] structure Ledger (ι : Type) where
  holders : Finset ι
  shares : ι → ℕ
  accrued : ι → ℤ
  claimed : ι → ℕ
  index : ℕ
  remainder : ℕ
  unallocated : ℕ
  retired : ℕ
  received : ℕ

namespace Ledger

variable {ι : Type}

/-- The divisor of a receipt. -/
def total (L : Ledger ι) : ℕ := ∑ i ∈ L.holders, L.shares i

def accruedSum (L : Ledger ι) : ℤ := ∑ i ∈ L.holders, L.accrued i

def claimedSum (L : Ledger ι) : ℕ := ∑ i ∈ L.holders, L.claimed i

/-- How far a receipt of `n` units moves the index. -/
def increment (M : ℕ) (L : Ledger ι) (n : ℕ) : ℕ := (M * n + L.remainder) / L.total

/-- The whole units a holder has earned and not been paid. -/
def pending (M : ℕ) (L : Ledger ι) (i : ι) : ℕ := (L.accrued i / M).toNat - L.claimed i

/-- The whole units owed to everybody together, read off the aggregate. -/
def liability (M : ℕ) (L : Ledger ι) : ℤ := L.accruedSum / M - L.claimedSum

/-- The whole units that carried fractions keep out of the liability. -/
def reserve (M : ℕ) (L : Ledger ι) : ℕ := (L.remainder + L.retired + (M - 1)) / M

end Ledger

/-! ## What can happen to a ledger -/

/-- The events of a ledger's life. `give` and `take` change a weight and no
accumulator; `receive` is the only act that adds to accumulators, `retire` the
only one that takes from one. -/
inductive Act (ι : Type) where
  | enroll (i : ι)
  | give (i : ι) (n : ℕ)
  | take (i : ι) (n : ℕ)
  | pay (i : ι) (n : ℕ)
  | receive (n : ℕ)
  | retire (i : ι) (r : ℕ)
deriving DecidableEq

namespace Act

variable {ι : Type} [DecidableEq ι]

/-- One event. A receipt that finds no share at all is set aside for good. -/
def apply (M : ℕ) (L : Ledger ι) : Act ι → Ledger ι
  | enroll i => { L with holders := insert i L.holders }
  | give i n => { L with shares := Function.update L.shares i (L.shares i + n) }
  | take i n => { L with shares := Function.update L.shares i (L.shares i - n) }
  | pay i n => { L with claimed := Function.update L.claimed i (L.claimed i + n) }
  | receive n =>
      if L.total = 0 then
        { L with received := L.received + n, unallocated := L.unallocated + n }
      else
        { L with
          received := L.received + n
          index := L.index + L.increment M n
          remainder := (M * n + L.remainder) % L.total
          accrued := fun i => L.accrued i + L.shares i * L.increment M n }
  | retire i r =>
      { L with
        accrued := Function.update L.accrued i (L.accrued i - r)
        retired := L.retired + r }

/-- When an event is legitimate: weights and payments stay covered, and only a
holder without shares gives up a fraction, and less than one unit of it. -/
def Enabled (M : ℕ) (L : Ledger ι) : Act ι → Prop
  | enroll _ => True
  | give i _ => i ∈ L.holders
  | take i n => i ∈ L.holders ∧ n ≤ L.shares i
  | pay i n => i ∈ L.holders ∧ ((L.claimed i + n : ℕ) : ℤ) * M ≤ L.accrued i
  | receive _ => True
  | retire i r =>
      i ∈ L.holders ∧ L.shares i = 0 ∧ r < M ∧ (L.claimed i : ℤ) * M + r ≤ L.accrued i

/-- What one event adds to a holder's accumulator. -/
def gain (M : ℕ) (L : Ledger ι) (i : ι) : Act ι → ℤ
  | receive n => if L.total = 0 then 0 else L.shares i * L.increment M n
  | retire j r => if i = j then -(r : ℤ) else 0
  | _ => 0

/-- What `i` is paid. -/
def paidTo (i : ι) : Act ι → ℕ
  | pay j n => if i = j then n else 0
  | _ => 0

/-- What is retired of the accumulator of `i`. -/
def retiredOf (i : ι) : Act ι → ℕ
  | retire j r => if i = j then r else 0
  | _ => 0

/-- What is retired. -/
def retired : Act ι → ℕ
  | retire _ r => r
  | _ => 0

/-- **Accumulators move only by receipts and retirements**, and by exactly the
holder's shares at that instant times the index increment. -/
theorem accrued_apply (M : ℕ) (L : Ledger ι) (a : Act ι) (i : ι) :
    (a.apply M L).accrued i = L.accrued i + a.gain M L i := by
  cases a with
  | receive n =>
      simp only [apply, gain]
      split <;> simp
  | retire j r =>
      simp only [apply, gain, Function.update_apply]
      split
      · next h => subst h; ring
      · ring
  | _ => simp [apply, gain]

end Act

/-! ## Conservation -/

/-- The invariant. Nobody has been paid more than the whole units it earned,
and magnified units are conserved: what accumulators, the carried remainder,
retired fractions and the set-aside units hold together is what was received. -/
structure Valid {ι : Type} (M : ℕ) (L : Ledger ι) : Prop where
  outside : ∀ i, i ∉ L.holders → L.shares i = 0 ∧ L.accrued i = 0 ∧ L.claimed i = 0
  covered : ∀ i, (L.claimed i : ℤ) * M ≤ L.accrued i
  balance : L.accruedSum + L.remainder + L.retired + M * L.unallocated = M * L.received

section Sums

variable {ι : Type} [DecidableEq ι] {L : Ledger ι}

/-- Replacing one entry of a sum changes it by the difference. -/
theorem sum_update {α : Type} [AddCommMonoid α] (s : Finset ι) (f : ι → α) (i : ι) (b : α)
    (hi : i ∈ s) : ∑ j ∈ s, Function.update f i b j + f i = ∑ j ∈ s, f j + b := by
  rw [Finset.sum_update_of_mem hi, ← Finset.add_sum_erase s f hi, Finset.sdiff_singleton_eq_erase]
  abel

omit [DecidableEq ι] in
theorem shares_le_total {i : ι} (hi : i ∈ L.holders) : L.shares i ≤ L.total :=
  Finset.single_le_sum (fun _ _ => Nat.zero_le _) hi

/-- Enrolling a holder whose entry is zero leaves a sum alone. -/
theorem sum_enroll {α : Type} [AddCommMonoid α] (s : Finset ι) (f : ι → α) (i : ι)
    (hz : i ∉ s → f i = 0) : ∑ j ∈ insert i s, f j = ∑ j ∈ s, f j :=
  Finset.sum_insert_of_eq_zero_if_notMem hz

/-- A receipt hands out `total * increment` magnified units in all. -/
theorem accruedSum_receive (M : ℕ) (n : ℕ) (ht : L.total ≠ 0) :
    ((Act.receive n).apply M L).accruedSum = L.accruedSum + L.total * L.increment M n := by
  simp only [Act.apply, if_neg ht, Ledger.accruedSum, Finset.sum_add_distrib,
    ← Finset.sum_mul]
  rw [Ledger.total]
  push_cast
  ring

omit [DecidableEq ι] in
/-- What a receipt hands out and what it carries add up to what came in. -/
theorem increment_total (M : ℕ) (L : Ledger ι) (n : ℕ) :
    L.total * L.increment M n + (M * n + L.remainder) % L.total = M * n + L.remainder :=
  Nat.div_add_mod _ _

namespace Act

/-- What an event adds to the total of the shares. -/
def weight : Act ι → ℤ
  | give _ n => n
  | take _ n => -n
  | _ => 0

/-- What an event adds to the sum of the accumulators. -/
def handed (M : ℕ) (L : Ledger ι) : Act ι → ℤ
  | receive n => if L.total = 0 then 0 else L.total * L.increment M n
  | retire _ r => -r
  | _ => 0

/-- What an event pays out. -/
def paid : Act ι → ℕ
  | pay _ n => n
  | _ => 0

/-- What an event brings in. -/
def collected : Act ι → ℕ
  | receive n => n
  | _ => 0

theorem Enabled.total_apply {M : ℕ} {a : Act ι} (ha : a.Enabled M L) (h : Valid M L) :
    ((a.apply M L).total : ℤ) = L.total + a.weight := by
  cases a with
  | enroll i =>
      have hs := sum_enroll L.holders L.shares i (fun hi => (h.outside i hi).1)
      simp only [apply, weight, Ledger.total, hs, add_zero]
  | give i n =>
      have hs := sum_update L.holders L.shares i (L.shares i + n) ha
      simp only [apply, weight, Ledger.total]
      omega
  | take i n =>
      have hs := sum_update L.holders L.shares i (L.shares i - n) ha.1
      have hn := ha.2
      simp only [apply, weight, Ledger.total]
      omega
  | pay i n => simp [apply, weight, Ledger.total]
  | receive n =>
      simp only [apply, weight]
      split <;> simp [Ledger.total]
  | retire i r => simp [apply, weight, Ledger.total]

theorem Enabled.accruedSum_apply {M : ℕ} {a : Act ι} (ha : a.Enabled M L) (h : Valid M L) :
    (a.apply M L).accruedSum = L.accruedSum + a.handed M L := by
  cases a with
  | enroll i =>
      have hs := sum_enroll L.holders L.accrued i (fun hi => (h.outside i hi).2.1)
      simp only [apply, handed, Ledger.accruedSum, hs, add_zero]
  | receive n =>
      by_cases ht : L.total = 0
      · simp [apply, handed, ht, Ledger.accruedSum]
      · rw [accruedSum_receive M n ht]
        simp [handed, ht]
  | retire i r =>
      have hs := sum_update L.holders L.accrued i (L.accrued i - r) ha.1
      simp only [apply, handed, Ledger.accruedSum]
      linarith
  | _ => simp [apply, handed, Ledger.accruedSum]

theorem Enabled.claimedSum_apply {M : ℕ} {a : Act ι} (ha : a.Enabled M L) (h : Valid M L) :
    (a.apply M L).claimedSum = L.claimedSum + a.paid := by
  cases a with
  | enroll i =>
      have hs := sum_enroll L.holders L.claimed i (fun hi => (h.outside i hi).2.2)
      simp only [apply, paid, Ledger.claimedSum, hs, add_zero]
  | pay i n =>
      have hs := sum_update L.holders L.claimed i (L.claimed i + n) ha.1
      simp only [apply, paid, Ledger.claimedSum]
      omega
  | receive n =>
      simp only [apply, paid]
      split <;> simp [Ledger.claimedSum]
  | _ => simp [apply, paid, Ledger.claimedSum]

theorem received_apply (M : ℕ) (a : Act ι) :
    (a.apply M L).received = L.received + a.collected := by
  cases a with
  | receive n =>
      simp only [apply, collected]
      split <;> rfl
  | _ => simp [apply, collected]

end Act

end Sums

/-- **The step lemma.** A legitimate event keeps the invariant. -/
theorem Act.Enabled.valid {ι : Type} [DecidableEq ι] {M : ℕ} {L : Ledger ι} {a : Act ι}
    (ha : a.Enabled M L) (h : Valid M L) : Valid M (a.apply M L) := by
  have hsum := ha.accruedSum_apply h
  have hb := h.balance
  cases a with
  | enroll i =>
      refine ⟨fun j hj => h.outside j (fun hm => hj (Finset.mem_insert_of_mem hm)), h.covered, ?_⟩
      rw [hsum]
      simpa [Act.apply, Act.handed] using hb
  | give i n =>
      refine ⟨fun j hj => ?_, h.covered, h.balance⟩
      have hne : j ≠ i := fun hji => hj (hji ▸ ha)
      simpa [Act.apply, Function.update_of_ne hne] using h.outside j hj
  | take i n =>
      refine ⟨fun j hj => ?_, h.covered, h.balance⟩
      have hne : j ≠ i := fun hji => hj (hji ▸ ha.1)
      simpa [Act.apply, Function.update_of_ne hne] using h.outside j hj
  | pay i n =>
      refine ⟨fun j hj => ?_, fun j => ?_, h.balance⟩
      · have hne : j ≠ i := fun hji => hj (hji ▸ ha.1)
        simpa [Act.apply, Function.update_of_ne hne] using h.outside j hj
      · by_cases hji : j = i
        · subst hji
          simpa [Act.apply] using ha.2
        · simpa [Act.apply, Function.update_of_ne hji] using h.covered j
  | receive n =>
      -- Over nobody nothing is divided, and what is received is set aside.
      by_cases ht : L.total = 0
      · simp only [Act.apply, if_pos ht]
        refine ⟨h.outside, h.covered, ?_⟩
        simp only [Ledger.accruedSum] at hb ⊢
        push_cast
        linarith
      · refine ⟨fun j hj => ?_, fun j => ?_, ?_⟩
        · simp only [Act.apply, if_neg ht] at hj ⊢
          have hout := h.outside j hj
          simp [hout.1, hout.2.1, hout.2.2]
        · have hc := h.covered j
          have hp : (0 : ℤ) ≤ L.shares j * L.increment M n := by positivity
          simp only [Act.apply, if_neg ht]
          linarith
        · rw [accruedSum_receive M n ht]
          have hi : ((L.total * L.increment M n + (M * n + L.remainder) % L.total : ℕ) : ℤ)
              = (M * n + L.remainder : ℕ) := by rw [increment_total]
          simp only [Act.apply, if_neg ht]
          push_cast at hi hb ⊢
          linarith
  | retire i r =>
      obtain ⟨him, hsz, hrM, hcov⟩ := ha
      refine ⟨fun j hj => ?_, fun j => ?_, ?_⟩
      · have hne : j ≠ i := fun hji => hj (hji ▸ him)
        simpa [Act.apply, Function.update_of_ne hne] using h.outside j hj
      · by_cases hji : j = i
        · subst hji
          simp only [Act.apply, Function.update_self]
          linarith
        · simpa [Act.apply, Function.update_of_ne hji] using h.covered j
      · rw [hsum]
        simp only [Act.apply, Act.handed]
        push_cast
        linarith

/-! ## Runs -/

/-- What one event brings to a group of holders and to what is carried for
everybody is at most what it receives. -/
theorem Act.Enabled.accrued_group_le {ι : Type} [DecidableEq ι] {M : ℕ} {L : Ledger ι} {a : Act ι}
    (ha : a.Enabled M L) (h : Valid M L) (S : Finset ι) :
    ∑ i ∈ S, (a.apply M L).accrued i + (a.apply M L).remainder + M * L.received
      ≤ ∑ i ∈ S, L.accrued i + L.remainder + M * (a.apply M L).received := by
  cases a with
  | receive n =>
      by_cases ht : L.total = 0
      · simp only [Act.apply, if_pos ht]
        have hn : (0 : ℤ) ≤ M * n := by positivity
        push_cast
        linarith
      · -- The group holds no more than the total, and the total divides the receipt.
        have hgroup : ∑ i ∈ S, L.shares i ≤ L.total :=
          Finset.sum_le_sum_of_ne_zero fun i _ hi =>
            by_contra fun hout => hi (h.outside i hout).1
        have hinc := increment_total M L n
        simp only [Act.apply, if_neg ht]
        have hsum : ∑ i ∈ S, (L.accrued i + (L.shares i : ℤ) * (L.increment M n : ℤ))
            = ∑ i ∈ S, L.accrued i + ((∑ i ∈ S, L.shares i : ℕ) : ℤ) * L.increment M n := by
          rw [Finset.sum_add_distrib, Nat.cast_sum, Finset.sum_mul]
        have hle : ((∑ i ∈ S, L.shares i : ℕ) : ℤ) * L.increment M n
            ≤ (L.total : ℤ) * L.increment M n := by
          exact_mod_cast Nat.mul_le_mul_right _ hgroup
        have hinc' : (L.total : ℤ) * L.increment M n + ((M * n + L.remainder) % L.total : ℕ)
            = M * n + L.remainder := by
          exact_mod_cast hinc
        rw [hsum]
        push_cast at hle hinc' ⊢
        linarith
  | retire j r =>
      have hle : ∑ i ∈ S, (Act.apply M L (.retire j r)).accrued i ≤ ∑ i ∈ S, L.accrued i := by
        refine Finset.sum_le_sum fun i _ => ?_
        rw [Act.accrued_apply, Act.gain]
        split <;> omega
      show _ + (L.remainder : ℤ) + M * L.received ≤ _ + L.remainder + M * L.received
      linarith
  | _ => exact le_rfl

/-- `Run M L as L'`: the events `as`, each legitimate when it happens, lead
from `L` to `L'`. -/
inductive Run {ι : Type} [DecidableEq ι] (M : ℕ) : Ledger ι → List (Act ι) → Ledger ι → Prop where
  | nil (L : Ledger ι) : Run M L [] L
  | cons {L L' : Ledger ι} {a : Act ι} {as : List (Act ι)} (ha : a.Enabled M L)
      (h : Run M (a.apply M L) as L') : Run M L (a :: as) L'

namespace Run

variable {ι : Type} [DecidableEq ι] {M : ℕ} {L L₁ L₂ : Ledger ι}

theorem single {a : Act ι} (ha : a.Enabled M L) : Run M L [a] (a.apply M L) :=
  .cons ha (.nil _)

theorem append {as bs : List (Act ι)} (h₁ : Run M L as L₁) (h₂ : Run M L₁ bs L₂) :
    Run M L (as ++ bs) L₂ := by
  induction h₁ with
  | nil => exact h₂
  | cons ha _ ih => exact .cons ha (ih h₂)

/-- **The run lemma.** -/
theorem valid {as : List (Act ι)} (h : Run M L as L₁) (hv : Valid M L) : Valid M L₁ := by
  induction h with
  | nil => exact hv
  | cons ha _ ih => exact ih (ha.valid hv)

/-- An accumulator that sees neither a receipt nor its own retirement stands
still. -/
theorem accrued_eq {as : List (Act ι)} (h : Run M L as L₁) (i : ι)
    (has : ∀ a ∈ as, (∀ n, a ≠ .receive n) ∧ ∀ r, a ≠ .retire i r) :
    L₁.accrued i = L.accrued i := by
  induction h with
  | nil => rfl
  | @cons L L' a as ha _ ih =>
      rw [ih (fun b hb => has b (List.mem_cons_of_mem _ hb)), Act.accrued_apply]
      obtain ⟨hr, ht⟩ := has a List.mem_cons_self
      cases a with
      | receive n => exact absurd rfl (hr n)
      | retire j r =>
          have hij : i ≠ j := fun hij => ht r (by rw [hij])
          simp [Act.gain, hij]
      | _ => simp [Act.gain]

theorem claimed_eq {as : List (Act ι)} (h : Run M L as L₁) (i : ι)
    (has : ∀ a ∈ as, ∀ n, a ≠ .pay i n) : L₁.claimed i = L.claimed i := by
  induction h with
  | nil => rfl
  | @cons L L' a as ha _ ih =>
      rw [ih (fun b hb => has b (List.mem_cons_of_mem _ hb))]
      have hp := has a List.mem_cons_self
      cases a with
      | pay j n =>
          have hij : i ≠ j := fun hij => hp n (by rw [hij])
          simp [Act.apply, hij]
      | receive n =>
          simp only [Act.apply]
          split <;> rfl
      | _ => rfl

/-- What a holder is owed stands still with its accumulator and its payments. -/
theorem pending_eq {as : List (Act ι)} (h : Run M L as L₁) (i : ι)
    (hr : ∀ a ∈ as, (∀ n, a ≠ .receive n) ∧ ∀ r, a ≠ .retire i r)
    (hp : ∀ a ∈ as, ∀ n, a ≠ .pay i n) : L₁.pending M i = L.pending M i := by
  rw [Ledger.pending, h.accrued_eq i hr, h.claimed_eq i hp, Ledger.pending]

/-- Only a receipt moves the index and what is carried or set aside with it. -/
theorem scalars_eq {as : List (Act ι)} (h : Run M L as L₁) (hr : ∀ a ∈ as, ∀ n, a ≠ .receive n) :
    L₁.index = L.index ∧ L₁.remainder = L.remainder ∧ L₁.unallocated = L.unallocated
      ∧ L₁.received = L.received := by
  induction h with
  | nil => exact ⟨rfl, rfl, rfl, rfl⟩
  | @cons L L' a as ha _ ih =>
      obtain ⟨h1, h2, h3, h4⟩ := ih (fun b hb => hr b (List.mem_cons_of_mem _ hb))
      rw [h1, h2, h3, h4]
      have hn := hr a List.mem_cons_self
      cases a with
      | receive n => exact absurd rfl (hn n)
      | _ => exact ⟨rfl, rfl, rfl, rfl⟩

/-- **No group of holders accrues more than what is received**: what is carried
for everybody, together with what has accrued to the group, grows by no more than
the receipts. -/
theorem accrued_group_le {as : List (Act ι)} (h : Run M L as L₁) (hv : Valid M L) (S : Finset ι) :
    ∑ i ∈ S, L₁.accrued i + L₁.remainder + M * L.received
      ≤ ∑ i ∈ S, L.accrued i + L.remainder + M * L₁.received := by
  induction h with
  | nil => exact le_rfl
  | cons ha _ ih =>
      have hstep := ha.accrued_group_le hv S
      have hrest := ih (ha.valid hv)
      linarith

/-- A receipt, and nothing after it that moves an accumulator. -/
theorem receive_still {n : ℕ} {as : List (Act ι)} (h : Run M L (.receive n :: as) L₁)
    (ht : L.total ≠ 0) (has : ∀ a ∈ as, (∀ n, a ≠ .receive n) ∧ ∀ i r, a ≠ .retire i r) :
    L₁.index = L.index + L.increment M n ∧ L₁.remainder = (M * n + L.remainder) % L.total
      ∧ ∀ i, L₁.accrued i = L.accrued i + L.shares i * L.increment M n := by
  cases h with
  | cons ha h =>
      obtain ⟨hi, hr, -, -⟩ := h.scalars_eq fun a ha => (has a ha).1
      refine ⟨?_, ?_, fun i => ?_⟩
      · rw [hi]
        simp [Act.apply, ht]
      · rw [hr]
        simp [Act.apply, ht]
      · rw [h.accrued_eq i fun a ha => ⟨(has a ha).1, (has a ha).2 i⟩]
        simp [Act.apply, ht]

/-- Payments accumulate. -/
theorem claimed_sum {as : List (Act ι)} (h : Run M L as L₁) (i : ι) :
    L₁.claimed i = L.claimed i + (as.map (Act.paidTo i)).sum := by
  induction h with
  | nil => rfl
  | @cons L L' a as ha _ ih =>
      rw [ih, List.map_cons, List.sum_cons, ← Nat.add_assoc]
      congr 1
      cases a with
      | pay j n =>
          by_cases hij : i = j
          · simp [Act.apply, Act.paidTo, hij]
          · simp [Act.apply, Act.paidTo, hij]
      | receive n =>
          simp only [Act.apply]
          split <;> rfl
      | _ => rfl

/-- Without a receipt an accumulator only loses what is retired of it. -/
theorem accrued_sum {as : List (Act ι)} (h : Run M L as L₁) (i : ι)
    (has : ∀ a ∈ as, ∀ n, a ≠ .receive n) :
    L₁.accrued i = L.accrued i - (as.map (Act.retiredOf i)).sum := by
  induction h with
  | nil => simp
  | @cons L L' a as ha _ ih =>
      rw [ih fun b hb => has b (List.mem_cons_of_mem _ hb), Act.accrued_apply, List.map_cons,
        List.sum_cons]
      cases a with
      | receive n => exact absurd rfl (has _ List.mem_cons_self n)
      | retire j r =>
          by_cases hij : i = j
          · simp [Act.gain, Act.retiredOf, hij]
            ring
          · simp [Act.gain, Act.retiredOf, hij]
      | _ => simp [Act.gain, Act.retiredOf]

/-- What is retired accumulates, a fraction of a unit at a time. -/
theorem retired_sum {as : List (Act ι)} (h : Run M L as L₁) :
    L₁.retired = L.retired + (as.map Act.retired).sum
      ∧ ∀ i r, Act.retire i r ∈ as → r < M := by
  induction h with
  | nil => simp
  | @cons L L' a as ha _ ih =>
      obtain ⟨hs, hlt⟩ := ih
      refine ⟨?_, fun i r hm => ?_⟩
      · rw [hs, List.map_cons, List.sum_cons, ← Nat.add_assoc]
        congr 1
        cases a with
        | receive n =>
            simp only [Act.apply]
            split <;> rfl
        | _ => rfl
      · rcases List.mem_cons.mp hm with rfl | hm
        · exact ha.2.2.1
        · exact hlt i r hm

end Run

/-! ## What the invariant bounds -/

/-- A payment takes from what is pending for its receiver, and from nobody else. -/
theorem pending_pay {ι : Type} [DecidableEq ι] (M : ℕ) (L : Ledger ι) (i j : ι) (n : ℕ) :
    ((Act.pay i n).apply M L).pending M j
      = if j = i then L.pending M i - n else L.pending M j := by
  by_cases hj : j = i
  · subst hj
    rw [if_pos rfl]
    simp only [Ledger.pending, Act.apply, Function.update_self]
    omega
  · rw [if_neg hj]
    simp only [Ledger.pending, Act.apply, Function.update_of_ne hj]

namespace Valid

variable {ι : Type} {M : ℕ} {L : Ledger ι}

theorem accrued_nonneg (h : Valid M L) (i : ι) : 0 ≤ L.accrued i :=
  le_trans (by positivity) (h.covered i)

theorem accruedSum_nonneg (h : Valid M L) : 0 ≤ L.accruedSum :=
  Finset.sum_nonneg (fun i _ => h.accrued_nonneg i)

/-- All that was earned was received. -/
theorem accruedSum_le (h : Valid M L) : L.accruedSum ≤ M * L.received := by
  have hb := h.balance
  have hu : (0 : ℤ) ≤ M * L.unallocated := by positivity
  omega

theorem accrued_le (h : Valid M L) (i : ι) : L.accrued i ≤ M * L.received := by
  by_cases hi : i ∈ L.holders
  · exact (Finset.single_le_sum (fun j _ => h.accrued_nonneg j) hi).trans h.accruedSum_le
  · rw [(h.outside i hi).2.1]
    positivity

theorem claimed_le (hM : 0 < M) (h : Valid M L) (i : ι) : (L.claimed i : ℤ) ≤ L.accrued i / M :=
  Int.le_ediv_of_mul_le (by exact_mod_cast hM) (h.covered i)

/-- The subtraction in `pending` never truncates. -/
theorem pending_eq (hM : 0 < M) (h : Valid M L) (i : ι) :
    (L.pending M i : ℤ) = L.accrued i / M - L.claimed i := by
  have hc := h.claimed_le hM i
  have hn : 0 ≤ L.accrued i / M := le_trans (by positivity) hc
  unfold Ledger.pending
  omega

/-- What is owed of an accumulator is all of it but a fraction of a unit. -/
theorem owed (hM : 0 < M) (h : Valid M L) (i : ι) :
    (M : ℤ) * L.pending M i ≤ L.accrued i - M * L.claimed i
      ∧ L.accrued i - M * L.claimed i < M * L.pending M i + M := by
  have hM' : (0 : ℤ) < M := by exact_mod_cast hM
  have hdiv := Int.emod_add_mul_ediv (L.accrued i) M
  have hlo := Int.emod_nonneg (L.accrued i) hM'.ne'
  have hhi := Int.emod_lt_of_pos (L.accrued i) hM'
  rw [h.pending_eq hM i, mul_sub]
  constructor <;> linarith

/-- What is pending can be paid. -/
theorem pay_enabled [DecidableEq ι] (hM : 0 < M) (h : Valid M L) {i : ι} {n : ℕ}
    (hi : i ∈ L.holders) (hn : n ≤ L.pending M i) : (Act.pay i n).Enabled M L := by
  have hp := h.pending_eq hM i
  refine ⟨hi, ?_⟩
  rw [← Int.le_ediv_iff_mul_le (by exact_mod_cast hM)]
  push_cast
  omega

theorem pending_outside (h : Valid M L) {i : ι} (hi : i ∉ L.holders) : L.pending M i = 0 := by
  simp [Ledger.pending, (h.outside i hi).2.1]

/-- **The sum of the floors is at most the floor of the sum.** -/
theorem sum_pending_le_liability (hM : 0 < M) (h : Valid M L) :
    ((∑ i ∈ L.holders, L.pending M i : ℕ) : ℤ) ≤ L.liability M := by
  have hM' : (0 : ℤ) < M := by exact_mod_cast hM
  have hsum : ((∑ i ∈ L.holders, L.pending M i : ℕ) : ℤ)
      = ∑ i ∈ L.holders, L.accrued i / M - L.claimedSum := by
    rw [Ledger.claimedSum]
    push_cast
    rw [← Finset.sum_sub_distrib]
    exact Finset.sum_congr rfl (fun i _ => h.pending_eq hM i)
  have hfloor : ∑ i ∈ L.holders, L.accrued i / M ≤ L.accruedSum / M := by
    refine Int.le_ediv_of_mul_le hM' ?_
    rw [Finset.sum_mul]
    exact Finset.sum_le_sum (fun i _ => Int.ediv_mul_le _ (ne_of_gt hM'))
  unfold Ledger.liability
  linarith

theorem liability_nonneg (hM : 0 < M) (h : Valid M L) : 0 ≤ L.liability M :=
  le_trans (by positivity) (h.sum_pending_le_liability hM)

theorem pending_le_liability (hM : 0 < M) (h : Valid M L) (i : ι) :
    (L.pending M i : ℤ) ≤ L.liability M := by
  by_cases hi : i ∈ L.holders
  · have hle : L.pending M i ≤ ∑ j ∈ L.holders, L.pending M j :=
      Finset.single_le_sum (fun _ _ => Nat.zero_le _) hi
    exact le_trans (by exact_mod_cast hle) (h.sum_pending_le_liability hM)
  · rw [h.pending_outside hi]
    exact_mod_cast h.liability_nonneg hM

/-- **The partition.** What was received and not paid is the liability, the
units set aside, and a reserve that only the carried fractions determine. -/
theorem partition (hM : 0 < M) (h : Valid M L) :
    L.liability M + L.unallocated + L.reserve M + L.claimedSum = L.received := by
  have hM' : (0 : ℤ) < M := by exact_mod_cast hM
  have hb := h.balance
  set c : ℕ := L.remainder + L.retired with hc
  have hr : L.accruedSum = M * ((L.received : ℤ) - L.unallocated) - c := by
    push_cast [hc]
    linarith
  have hfloor : L.accruedSum / M = (L.received : ℤ) - L.unallocated - L.reserve M := by
    have hdm := Nat.div_add_mod (c + (M - 1)) M
    have hlt := Nat.mod_lt (c + (M - 1)) hM
    have hq : (M : ℤ) * (L.reserve M : ℕ) = c + (M - 1) - ((c + (M - 1)) % M : ℕ) := by
      have hcast : ((M * ((c + (M - 1)) / M) + (c + (M - 1)) % M : ℕ) : ℤ)
          = (c + (M - 1) : ℕ) := by rw [hdm]
      simp only [Ledger.reserve, ← hc]
      push_cast [Nat.cast_sub (Nat.succ_le_of_lt hM)] at hcast ⊢
      linarith
    have hm : (((c + (M - 1)) % M : ℕ) : ℤ) < M := by exact_mod_cast hlt
    rw [Int.ediv_eq_iff_of_pos hM']
    constructor <;> nlinarith
  unfold Ledger.liability
  linarith

/-- **What nobody can name yet.** If accumulators are zero outside `T`, the
units that were received, not paid and not pending to anybody are at most one
per member of `T`. -/
theorem unnamed_le_card (hM : 0 < M) (h : Valid M L) (hc : L.remainder + L.retired < M)
    {T : Finset ι} (hT : T ⊆ L.holders) (hz : ∀ i, i ∉ T → L.accrued i = 0) :
    (L.received : ℤ) - L.claimedSum - L.unallocated - (∑ i ∈ L.holders, L.pending M i : ℕ)
      ≤ T.card := by
  have hM' : (0 : ℤ) < M := by exact_mod_cast hM
  have hsum : ((∑ i ∈ L.holders, L.pending M i : ℕ) : ℤ) + L.claimedSum
      = ∑ i ∈ L.holders, L.accrued i / M := by
    rw [Ledger.claimedSum]
    push_cast
    rw [← Finset.sum_add_distrib]
    exact Finset.sum_congr rfl (fun i _ => by rw [h.pending_eq hM i]; ring)
  have hsplit : L.accruedSum
      = M * ∑ i ∈ L.holders, L.accrued i / M + ∑ i ∈ L.holders, L.accrued i % M := by
    rw [Ledger.accruedSum, Finset.mul_sum, ← Finset.sum_add_distrib]
    exact Finset.sum_congr rfl (fun i _ => (Int.mul_ediv_add_emod _ _).symm)
  have hres : ∑ i ∈ L.holders, L.accrued i % M ≤ T.card * (M - 1) := by
    have hsub : ∑ i ∈ L.holders, L.accrued i % M = ∑ i ∈ T, L.accrued i % M :=
      (Finset.sum_subset hT (fun i _ hi => by rw [hz i hi]; rfl)).symm
    rw [hsub, ← nsmul_eq_mul]
    exact Finset.sum_le_card_nsmul T _ _
      (fun i _ => by have := Int.emod_lt_of_pos (L.accrued i) hM'; omega)
  have hb := h.balance
  have hcz : (L.remainder : ℤ) + L.retired ≤ M - 1 := by
    have : ((L.remainder + L.retired : ℕ) : ℤ) < M := by exact_mod_cast hc
    push_cast at this
    linarith
  -- `M` times the difference is at most `(|T| + 1) * (M - 1)`, hence below `M * (|T| + 1)`.
  have hlt : (M : ℤ) * (L.received - L.claimedSum - L.unallocated
      - (∑ i ∈ L.holders, L.pending M i : ℕ)) < M * (T.card + 1) := by
    have hcard : (0 : ℤ) ≤ T.card := by positivity
    nlinarith
  have := lt_of_mul_lt_mul_left hlt hM'.le
  omega

end Valid

end CedraReflect.Dividend
