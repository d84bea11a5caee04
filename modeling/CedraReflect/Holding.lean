/-
Holdings under one index.

A holder of `shares` owns `shares * index + correction` magnified units, and has
been paid `claimed` whole ones. A change of shares is corrected by the index, so
that it hands nothing out; only a rise of the index does. Here every number is
an integer, as in an implementation without fixed widths, and what is asked of a
holding is that it is covered ([`Holding.Covered`]): it has no negative shares
and was never paid more than it owned. Whoever audits such books from outside
has the sums of shares, corrections and claims only, and [`sum_pending_le`] says
what these sums are good for.
-/
import Mathlib.Algebra.BigOperators.Ring.List
import Mathlib.Algebra.Order.BigOperators.Group.List
import Mathlib.Tactic.Linarith
import Mathlib.Tactic.Ring

set_option autoImplicit false

namespace CedraReflect

/-- What the books know of one holder. -/
@[ext] structure Holding where
  shares : ℤ
  correction : ℤ
  claimed : ℤ

namespace Holding

/-- The magnified units a holder owns, paid or not. -/
def entitlement (holding : Holding) (index : ℤ) : ℤ := holding.shares * index + holding.correction

/-- The whole units that a holder has earned and not been paid. -/
def pending (M : ℤ) (holding : Holding) (index : ℤ) : ℤ :=
  holding.entitlement index / M - holding.claimed

/-! ## What happens to a holding -/

/-- The holding of nobody. -/
def none : Holding := ⟨0, 0, 0⟩

/-- `delta` shares more, corrected by the index. -/
def weighed (holding : Holding) (delta index : ℤ) : Holding :=
  { holding with
    shares := holding.shares + delta, correction := holding.correction - delta * index }

/-- Whole units paid out. -/
def paid (holding : Holding) (amount : ℤ) : Holding :=
  { holding with claimed := holding.claimed + amount }

/-- Magnified units given up. -/
def forfeited (holding : Holding) (residue : ℤ) : Holding :=
  { holding with correction := holding.correction - residue }

/-- **A change of shares hands nothing out.** -/
@[simp] theorem entitlement_weighed (holding : Holding) (delta index : ℤ) :
    (holding.weighed delta index).entitlement index = holding.entitlement index := by
  unfold weighed entitlement
  ring

@[simp] theorem entitlement_paid (holding : Holding) (amount index : ℤ) :
    (holding.paid amount).entitlement index = holding.entitlement index := rfl

theorem entitlement_forfeited (holding : Holding) (residue index : ℤ) :
    (holding.forfeited residue).entitlement index = holding.entitlement index - residue := by
  unfold forfeited entitlement
  ring

/-! ## Covered holdings -/

/-- No negative shares, and never paid more than what was owned. -/
structure Covered (M index : ℤ) (holding : Holding) : Prop where
  shares : 0 ≤ holding.shares
  claimed : 0 ≤ holding.claimed
  claims : holding.claimed * M ≤ holding.entitlement index

section Covered

variable {M index : ℤ} {holding : Holding}

theorem covered_none : none.Covered M index := by
  constructor <;> simp [none, entitlement]

namespace Covered

theorem weighed (h : holding.Covered M index) {delta : ℤ} (hshares : 0 ≤ holding.shares + delta) :
    (holding.weighed delta index).Covered M index := by
  refine ⟨hshares, h.claimed, ?_⟩
  rw [entitlement_weighed]
  exact h.claims

theorem paid (h : holding.Covered M index) (hM : 0 < M) {amount : ℤ} (hamount : 0 ≤ amount)
    (hpending : amount ≤ holding.pending M index) : (holding.paid amount).Covered M index := by
  have hclaimed := h.claimed
  refine ⟨h.shares, ?_, ?_⟩
  · show 0 ≤ holding.claimed + amount
    omega
  · rw [entitlement_paid]
    show (holding.claimed + amount) * M ≤ _
    rw [← Int.le_ediv_iff_mul_le hM]
    unfold pending at hpending
    omega

theorem forfeited (h : holding.Covered M index) {residue : ℤ}
    (hresidue : holding.claimed * M + residue ≤ holding.entitlement index) :
    (holding.forfeited residue).Covered M index := by
  refine ⟨h.shares, h.claimed, ?_⟩
  rw [entitlement_forfeited]
  show holding.claimed * M ≤ _
  linarith

/-- A rise of the index takes from nobody. -/
theorem advanced (h : holding.Covered M index) {newIndex : ℤ} (hle : index ≤ newIndex) :
    holding.Covered M newIndex := by
  have hmore : holding.shares * index ≤ holding.shares * newIndex :=
    mul_le_mul_of_nonneg_left hle h.shares
  have hclaims := h.claims
  refine ⟨h.shares, h.claimed, ?_⟩
  unfold entitlement at hclaims ⊢
  linarith

theorem entitlement_nonneg (h : holding.Covered M index) (hM : 0 < M) :
    0 ≤ holding.entitlement index :=
  le_trans (mul_nonneg h.claimed hM.le) h.claims

theorem pending_nonneg (h : holding.Covered M index) (hM : 0 < M) :
    0 ≤ holding.pending M index := by
  have hle : holding.claimed ≤ holding.entitlement index / M :=
    Int.le_ediv_of_mul_le hM h.claims
  unfold pending
  omega

end Covered

end Covered

/-! ## Sums -/

section Sums

variable {M index : ℤ} {holdings : List Holding}

/-- The holding that the sums of the books describe. -/
def total (holdings : List Holding) : Holding :=
  ⟨(holdings.map shares).sum, (holdings.map correction).sum, (holdings.map claimed).sum⟩

theorem entitlement_total (index : ℤ) (holdings : List Holding) :
    (total holdings).entitlement index
      = (holdings.map fun holding => holding.entitlement index).sum := by
  induction holdings with
  | nil => simp [total, entitlement]
  | cons holding holdings ih =>
      rw [List.map_cons, List.sum_cons, ← ih]
      unfold total entitlement
      simp only [List.map_cons, List.sum_cons]
      ring

/-- A member of a sum without negative members is at most the sum. -/
theorem le_sum_of_nonneg {f : Holding → ℤ} (hf : ∀ holding ∈ holdings, 0 ≤ f holding)
    {holding : Holding} (hmem : holding ∈ holdings) : f holding ≤ (holdings.map f).sum := by
  refine List.single_le_sum ?_ _ (List.mem_map_of_mem hmem)
  intro x hx
  obtain ⟨other, hother, rfl⟩ := List.mem_map.mp hx
  exact hf other hother

/-- **The sum of the floors is at most the floor of the sum.** -/
theorem sum_pending_le (hM : 0 < M) :
    (holdings.map fun holding => holding.pending M index).sum
      ≤ (total holdings).pending M index := by
  have hfloors : (holdings.map fun holding => holding.pending M index).sum
      = (holdings.map fun holding => holding.entitlement index / M).sum
        - (holdings.map claimed).sum := by
    induction holdings with
    | nil => simp
    | cons holding holdings ih =>
        rw [List.map_cons, List.sum_cons, ih, List.map_cons, List.map_cons, List.sum_cons,
          List.sum_cons, pending]
        ring
  have hfloor : (holdings.map fun holding => holding.entitlement index / M).sum
      ≤ (total holdings).entitlement index / M := by
    refine Int.le_ediv_of_mul_le hM ?_
    rw [entitlement_total, ← List.sum_map_mul_right]
    exact List.sum_le_sum fun holding _ => Int.ediv_mul_le _ (ne_of_gt hM)
  rw [hfloors]
  show _ ≤ (total holdings).entitlement index / M - (holdings.map claimed).sum
  omega

end Sums

end Holding

end CedraReflect
