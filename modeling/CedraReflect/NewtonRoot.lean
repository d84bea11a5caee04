/-
Newton's iteration for the integer square root.

From a candidate `c` for the root of `v` the iteration goes on to the mean of `c`
and `v / c`, as long as that is smaller. Starting above the root it never falls
below it, since a mean is at least what the two numbers are the sides of. So it
stops, and where it stops the candidate is the root: there `c ≤ v / c`.

The bounds on the candidate and on the sum that is halved are what a program of
fixed width needs.
-/
import Mathlib.Data.Nat.Sqrt
import Mathlib.Tactic.Linarith
import Mathlib.Tactic.Ring

set_option autoImplicit false

namespace CedraReflect.NewtonRoot

/-- The mean of a candidate and its counterpart. -/
def next (v c : ℕ) : ℕ := (c + v / c) / 2

/-- A candidate from the first one down to the root. -/
structure Candidate (v c : ℕ) : Prop where
  pos : 0 < c
  root : v < (c + 1) ^ 2
  first : c ≤ v / 2 + 1

/-- **The mean never falls below the root.** -/
theorem lt_next_sq (v : ℕ) {c : ℕ} (hc : 0 < c) : v < (next v c + 1) ^ 2 := by
  unfold next
  obtain ⟨q, hq⟩ : ∃ q, q = v / c := ⟨_, rfl⟩
  rw [← hq]
  have hv : v < c * (q + 1) := by
    rw [hq, mul_comm]
    exact Nat.lt_mul_of_div_lt (Nat.lt_succ_self _) hc
  obtain ⟨x, hx⟩ : ∃ x, x = (c + q) / 2 + 1 := ⟨_, rfl⟩
  rw [← hx]
  have hmean : c + (q + 1) ≤ 2 * x := by omega
  have hsq : (c + (q + 1)) ^ 2 ≤ (2 * x) ^ 2 := Nat.pow_le_pow_left hmean 2
  -- The square of the sum is at least four times the product.
  have hamgm : 4 * (c * (q + 1)) ≤ (c + (q + 1)) ^ 2 := by
    have := four_mul_le_sq_add c (q + 1)
    linarith
  have hexp : (2 * x) ^ 2 = 4 * x ^ 2 := by ring
  omega

namespace Candidate

variable {v c : ℕ}

/-- The iteration starts above the root. -/
theorem start (v : ℕ) : Candidate v (v / 2 + 1) := by
  refine ⟨Nat.succ_pos _, ?_, le_refl _⟩
  nlinarith [Nat.div_add_mod v 2, Nat.mod_lt v (by omega : 0 < 2)]

/-- **What a turn keeps.** -/
theorem step (hv : 2 ≤ v) (h : Candidate v c) (hlt : next v c < c) : Candidate v (next v c) := by
  have hfirst := h.first
  refine ⟨?_, lt_next_sq v h.pos, by omega⟩
  by_cases hone : c = 1
  · -- From one the mean is at least one and the iteration has stopped.
    rw [hone]
    unfold next
    rw [Nat.div_one]
    omega
  · have hpos := h.pos
    have htwo : 2 ≤ c + v / c := le_trans (by omega : 2 ≤ c) (Nat.le_add_right _ _)
    exact Nat.div_pos htwo (by decide)

/-- **Where the iteration stops it has found the root.** -/
theorem stop (h : Candidate v c) (hge : ¬ next v c < c) : c = Nat.sqrt v := by
  apply Nat.eq_sqrt.mpr
  unfold next at hge
  have hle : c ≤ v / c := by omega
  refine ⟨(Nat.le_div_iff_mul_le h.pos).mp hle, ?_⟩
  rw [← pow_two]
  exact h.root

/-- The sum that is halved: past the least values no turn needs more room than `v`. -/
theorem sum_le (h : Candidate v c) : c + v / c ≤ max 4 (2 * (v / 2) + 1) := by
  have hfirst := h.first
  by_cases hone : c = 1
  · have hroot := h.root
    rw [hone] at hroot ⊢
    rw [Nat.div_one]
    omega
  · have hpos := h.pos
    have hquotient : v / c ≤ v / 2 := Nat.div_le_div_left (by omega) (by omega)
    omega

end Candidate

end CedraReflect.NewtonRoot
