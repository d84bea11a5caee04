/-
What the settlement arithmetic computes, and which way it rounds.

The functions of `reflection_settlement` abort or return a closed form; the
closed forms are named here, and each is shown to round in the pool's favour.
The comparison of LP share values is a comparison of `R * U` per `T ^ 2`, for
reserves `R` and `U` and a share total `T`, and it composes.
-/
import CedraReflect.NewtonRoot
import CedraReflect.ReflectionSettlement
import Mathlib.Tactic.Linarith
import Mathlib.Tactic.Positivity
import Mathlib.Tactic.Ring

set_option autoImplicit false

namespace CedraReflect.reflection_settlement

/-! ## The closed forms -/

/-- What of an input the constant product sees. -/
def invariant_input (n fee_bps : ℕ) : ℕ := n * (BPS_DENOMINATOR - fee_bps) / BPS_DENOMINATOR

/-- What a swap of `n` units pays. -/
def swap_output (reserve_in reserve_out n fee_bps : ℕ) : ℕ :=
  reserve_out * invariant_input n fee_bps / (reserve_in + invariant_input n fee_bps)

/-- `⌈a / b⌉`. -/
def ceil_div (a b : ℕ) : ℕ := if a = 0 then 0 else (a - 1) / b + 1

/-- The shares two maximum inputs buy. -/
def minted_shares (max_rfl max_usd R U T : ℕ) : ℕ := min (max_rfl * T / R) (max_usd * T / U)

theorem invariant_input_le (n fee_bps : ℕ) : invariant_input n fee_bps ≤ n := by
  unfold invariant_input
  refine Nat.div_le_of_le_mul ?_
  rw [mul_comm BPS_DENOMINATOR]
  exact Nat.mul_le_mul_left n (Nat.sub_le _ _)

theorem swap_output_le (reserve_in reserve_out n fee_bps : ℕ) :
    swap_output reserve_in reserve_out n fee_bps ≤ reserve_out := by
  unfold swap_output
  refine Nat.div_le_of_le_mul ?_
  rw [mul_comm]
  exact Nat.mul_le_mul_right reserve_out (by omega)

theorem le_ceil_div_mul (a : ℕ) {b : ℕ} (hb : 0 < b) : a ≤ ceil_div a b * b := by
  unfold ceil_div
  split
  · omega
  · have := Nat.lt_mul_div_succ (a - 1) hb
    rw [mul_comm] at this
    omega

end reflection_settlement

namespace Tx

open reflection_settlement

variable {σ : Type} {s s' : σ} {n bps R U T : ℕ}

theorem commits_fee (x : ℕ) :
    Commits (fee n bps) .ideal s x s' ↔
      bps ≤ reflection_settlement.BPS_DENOMINATOR ∧ invariant_input n bps ≤ MAX_U64
        ∧ x = n - invariant_input n bps ∧ s' = s := by
  have hle := invariant_input_le n bps
  unfold invariant_input at hle ⊢
  simp only [fee, commits_bind, commits_require, commits_checked, commits_sub, hle, and_assoc,
    exists_and_left, exists_eq_left, exists_const, true_and]

/-- The output, and the trading fee that stays in the input reserve. -/
theorem commits_constant_product_output (p : ℕ × ℕ) :
    Commits (constant_product_output R U n bps) .ideal s p s' ↔
      0 < R ∧ bps ≤ reflection_settlement.BPS_DENOMINATOR ∧ invariant_input n bps ≤ MAX_U64
        ∧ swap_output R U n bps ≤ MAX_U64
        ∧ p = (swap_output R U n bps, n - invariant_input n bps) ∧ s' = s := by
  have hle := invariant_input_le n bps
  have hsub : n - (n - invariant_input n bps) = invariant_input n bps := by omega
  simp only [constant_product_output, commits_bind, commits_require, commits_fee, commits_sub,
    commits_checked, commits_div, commits_pure, and_assoc, exists_and_left, exists_eq_left,
    exists_const, hsub, Nat.sub_le, true_and]
  refine and_congr_right fun hR => and_congr_right fun _ => and_congr_right fun _ => ?_
  rw [and_iff_right (by omega)]
  rfl

theorem commits_ceil_div (hb : 0 < T) (x : ℕ) :
    Commits (ceil_div_u256 n T) .ideal s x s' ↔ x = ceil_div n T ∧ s' = s := by
  unfold ceil_div_u256 ceil_div
  by_cases hn : n = 0
  · simp [hn]
  · simp [hn, hb, and_comm]

/-- The shares, and of each asset what they cost. -/
theorem commits_liquidity_mint {max_rfl max_usd : ℕ} (p : ℕ × ℕ × ℕ) :
    Commits (liquidity_mint max_rfl max_usd R U T) .ideal s p s' ↔
      (0 < R ∧ 0 < U ∧ 0 < T) ∧ minted_shares max_rfl max_usd R U T ≤ MAX_U128
        ∧ ceil_div (minted_shares max_rfl max_usd R U T * R) T ≤ MAX_U64
        ∧ ceil_div (minted_shares max_rfl max_usd R U T * U) T ≤ MAX_U64
        ∧ p = (minted_shares max_rfl max_usd R U T,
            ceil_div (minted_shares max_rfl max_usd R U T * R) T,
            ceil_div (minted_shares max_rfl max_usd R U T * U) T) ∧ s' = s := by
  have hmin : ∀ a b : ℕ, (if a < b then a else b) = min a b := by
    intro a b
    split <;> omega
  rw [liquidity_mint, commits_bind]
  simp only [commits_require, and_assoc, exists_and_left, exists_eq_left, exists_const]
  refine and_congr_right fun hR => and_congr_right fun hU => and_congr_right fun hT => ?_
  simp only [commits_bind, commits_checked, commits_div, commits_require, commits_pure,
    commits_ceil_div hT, hR, hU, hmin, and_assoc, exists_and_left, exists_eq_left, exists_const,
    true_and]
  rfl

theorem commits_liquidity_withdrawal (hn0 : 0 < n) (hn : n < T) (p : ℕ × ℕ) :
    Commits (liquidity_withdrawal n T R U) .ideal s p s' ↔
      n * R / T ≤ MAX_U64 ∧ n * U / T ≤ MAX_U64 ∧ p = (n * R / T, n * U / T) ∧ s' = s := by
  have hT : 0 < T := hn0.trans hn
  simp only [liquidity_withdrawal, commits_bind, commits_require, commits_ite, commits_pure,
    commits_checked, commits_div, hn0, hT, hn.le, hn.ne, and_assoc, exists_and_left,
    exists_eq_left, exists_const, true_and, false_and, false_or, not_false_eq_true]

/-! ### The square root -/

/-- The loop stops at the root: each turn lowers the candidate, and where it
stops lowering it the candidate is the root of `v`. -/
theorem commits_integer_sqrt_loop {v : ℕ} (hv : 2 ≤ v) {budget c : ℕ}
    (h : NewtonRoot.Candidate v c) (hb : c < budget) (x : ℕ) :
    Commits (integer_sqrt_loop v budget c (NewtonRoot.next v c)) .ideal s x s' ↔
      x = Nat.sqrt v ∧ s' = s := by
  induction budget generalizing c with
  | zero => omega
  | succ budget ih =>
      rw [integer_sqrt_loop]
      by_cases hnext : NewtonRoot.next v c < c
      · have hkept := h.step hv hnext
        simp only [if_pos hnext, newton_step, commits_bind, commits_div, commits_checked,
          commits_pure, hkept.pos, true_and, and_assoc, exists_and_left, exists_eq_left]
        exact ih hkept (by omega)
      · rw [if_neg hnext, commits_pure, ← h.stop hnext]

theorem commits_integer_sqrt (v x : ℕ) :
    Commits (integer_sqrt v) .ideal s x s' ↔ x = Nat.sqrt v ∧ s' = s := by
  unfold integer_sqrt
  split
  · next hv =>
      have hroot : v = Nat.sqrt v := by
        rcases v with _ | _ | v
        · simp
        · simp
        · omega
      rw [commits_pure, ← hroot]
  · next hv =>
      simp only [newton_step, commits_bind, commits_checked, commits_div, commits_pure,
        Nat.succ_pos, true_and, and_assoc, exists_and_left, exists_eq_left]
      exact commits_integer_sqrt_loop (by omega) (.start v) (Nat.lt_succ_self _) x

theorem commits_initial_lp_shares (n m x : ℕ) :
    Commits (initial_lp_shares n m) .ideal s x s' ↔ x = Nat.sqrt (n * m) ∧ s' = s := by
  simp only [initial_lp_shares, commits_bind, commits_checked, and_assoc, exists_and_left,
    exists_eq_left]
  exact commits_integer_sqrt _ _

end Tx

/-! ## Rounding -/

/-- `Worth R U T R' U' T'`: a share of the total `T'` is worth no less against
the reserves `R'`, `U'` than one of `T` was against `R`, `U`. -/
def Worth (R U T R' U' T' : ℕ) : Prop := R * U * T' ^ 2 ≤ R' * U' * T ^ 2

namespace Worth

open reflection_settlement

variable {R U T R' U' T' n : ℕ}

theorem refl (R U T : ℕ) : Worth R U T R U T := le_refl _

/-- **The comparison composes.** -/
theorem trans {R'' U'' T'' : ℕ} (hT : 0 < T') (h : Worth R U T R' U' T')
    (h' : Worth R' U' T' R'' U'' T'') : Worth R U T R'' U'' T'' := by
  unfold Worth at h h' ⊢
  have hsq : 0 < T' ^ 2 := by positivity
  refine le_of_mul_le_mul_right ?_ hsq
  calc R * U * T'' ^ 2 * T' ^ 2 = R * U * T' ^ 2 * T'' ^ 2 := by ring
    _ ≤ R' * U' * T ^ 2 * T'' ^ 2 := Nat.mul_le_mul_right _ h
    _ = R' * U' * T'' ^ 2 * T ^ 2 := by ring
    _ ≤ R'' * U'' * T' ^ 2 * T ^ 2 := Nat.mul_le_mul_right _ h'
    _ = R'' * U'' * T ^ 2 * T' ^ 2 := by ring

/-- If both reserves keep up with the shares, so does their product. -/
theorem of_both (hR : R * T' ≤ R' * T) (hU : U * T' ≤ U' * T) : Worth R U T R' U' T' := by
  unfold Worth
  calc R * U * T' ^ 2 = (R * T') * (U * T') := by ring
    _ ≤ (R' * T) * (U' * T) := Nat.mul_le_mul hR hU
    _ = R' * U' * T ^ 2 := by ring

/-- Shares that are worth at least one unit of each reserve stay so. -/
theorem backed (hT : 0 < T) (h : Worth R U T R' U' T') (hb : T ^ 2 ≤ R * U) :
    T' ^ 2 ≤ R' * U' := by
  unfold Worth at h
  refine le_of_mul_le_mul_right ?_ (by positivity : 0 < T ^ 2)
  calc T' ^ 2 * T ^ 2 = T ^ 2 * T' ^ 2 := by ring
    _ ≤ R * U * T' ^ 2 := Nat.mul_le_mul_right _ hb
    _ ≤ R' * U' * T ^ 2 := h

/-- **A swap.** The floor of the output and the fee kept back both favour the
pool. -/
theorem swap (bps T : ℕ) : Worth R U T (R + n) (U - swap_output R U n bps) T := by
  refine Nat.mul_le_mul_right _ ?_
  have hle := invariant_input_le n bps
  have hoU := swap_output_le R U n bps
  unfold swap_output at hoU ⊢
  generalize invariant_input n bps = i at hle hoU ⊢
  rcases Nat.eq_zero_or_pos (R + i) with hz | hpos
  · have : R = 0 := by omega
    simp [this]
  · have hdiv : U * i / (R + i) * (R + i) ≤ U * i := Nat.div_mul_le_self _ _
    obtain ⟨d, hd⟩ := Nat.exists_eq_add_of_le hoU
    have hsub : U - U * i / (R + i) = d := by omega
    rw [hsub]
    generalize U * i / (R + i) = o at hdiv hd hsub
    subst hd
    refine le_trans ?_ (Nat.mul_le_mul_right d (Nat.add_le_add_left hle R))
    nlinarith

/-- **A deposit.** Either reserve is charged the ceiling. -/
theorem deposit (R n : ℕ) (hT : 0 < T) : R * (T + n) ≤ (R + ceil_div (n * R) T) * T := by
  have := le_ceil_div_mul (n * R) hT
  nlinarith

/-- **A withdrawal.** Either reserve pays the floor. -/
theorem withdrawal (R n T : ℕ) : R * (T - n) ≤ (R - n * R / T) * T := by
  have hdiv : n * R / T * T ≤ n * R := Nat.div_mul_le_self _ _
  have h₁ : R * (T - n) = R * T - n * R := by
    rw [Nat.mul_sub, mul_comm n R]
  have h₂ : (R - n * R / T) * T = R * T - n * R / T * T := Nat.sub_mul _ _ _
  omega

end Worth

end CedraReflect
