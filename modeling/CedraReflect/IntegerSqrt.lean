/-
The two integer square roots, of `reflection_settlement.move` and of
`reducer.ts`.

Both run Newton's iteration from half the value and one. In Move no turn divides
by zero or leaves a `u128`, at the top of the width either, so under both
arithmetics the function is `pure` of the root. The reducer runs the same turns
on unbounded integers; its loop is followed here once more without a budget, to
say that it ends.
-/
import CedraReflect.Reducer
import CedraReflect.SettlementExact

set_option autoImplicit false

namespace CedraReflect

open NewtonRoot (next Candidate)

/-! ## In Move -/

namespace reflection_settlement

variable {σ : Type} {v c : ℕ}

/-- A turn within the width: the sum that it halves fits. -/
theorem newton_step_eq (hfits : v < 2 ^ 128) (h : Candidate v c) :
    (newton_step v c : Tx Arithmetic σ Abort ℕ) = pure (next v c) := by
  have hsum := h.sum_le
  have htotal : c + v / c < 2 ^ 128 := by
    refine lt_of_le_of_lt hsum ?_
    rw [max_lt_iff]
    omega
  rw [newton_step, div_of_pos _ _ h.pos, pure_bind, u128_of_lt htotal, pure_bind]
  rfl

/-- The loop within the width. Each turn lowers the candidate, so a budget above it is
never used up. -/
theorem integer_sqrt_loop_eq (hv : 2 ≤ v) (hfits : v < 2 ^ 128) {budget : ℕ} (h : Candidate v c)
    (hbudget : c < budget) :
    (integer_sqrt_loop v budget c (next v c) : Tx Arithmetic σ Abort ℕ) = pure (Nat.sqrt v) := by
  induction budget generalizing c with
  | zero => omega
  | succ budget ih =>
      rw [integer_sqrt_loop]
      by_cases hlt : next v c < c
      · have hkept := h.step hv hlt
        rw [if_pos hlt, newton_step_eq hfits hkept, pure_bind]
        exact ih hkept (by omega)
      · rw [if_neg hlt, ← h.stop hlt]

theorem sqrt_of_lt_two (hv : v < 2) : Nat.sqrt v = v := by
  have hall : ∀ n < 2, Nat.sqrt n = n := by decide
  exact hall v hv

theorem integer_sqrt_eq (hfits : v < 2 ^ 128) :
    (integer_sqrt v : Tx Arithmetic σ Abort ℕ) = pure (Nat.sqrt v) := by
  rw [integer_sqrt]
  by_cases hv : v < 2
  · rw [if_pos hv, sqrt_of_lt_two hv]
  · have hfirst : v / 2 + 1 < 2 ^ 128 := by omega
    rw [if_neg hv, u128_of_lt hfirst, pure_bind, newton_step_eq hfits (.start v), pure_bind]
    exact integer_sqrt_loop_eq (by omega) hfits (.start v) (Nat.lt_succ_self _)

end reflection_settlement

/-! ## In the reducer -/

namespace indexer

variable {v c : ℕ}

theorem divide_natCast (n : ℕ) {d : ℕ} (hd : 0 < d) : divide n d = .ok ((n / d : ℕ) : ℤ) := by
  have hne : ¬ (d : ℤ) = 0 := by omega
  rw [divide, throwIf, if_neg hne]
  rfl

/-- A turn of the reducer's loop. -/
theorem newtonStep_eq (hc : 0 < c) : newtonStep v c = .ok ((next v c : ℕ) : ℤ) := by
  have hhalf := divide_natCast (c + v / c) (d := 2) (by decide)
  rw [Nat.cast_add] at hhalf
  rw [newtonStep, divide_natCast v hc, ok_bind]
  exact hhalf

theorem integerSqrtLoop_eq (hv : 2 ≤ v) {budget : ℕ} (h : Candidate v c) (hbudget : c < budget) :
    integerSqrtLoop v budget c (next v c : ℕ) = .ok (Nat.sqrt v : ℤ) := by
  induction budget generalizing c with
  | zero => omega
  | succ budget ih =>
      rw [integerSqrtLoop]
      by_cases hlt : next v c < c
      · have hkept := h.step hv hlt
        rw [if_pos (by exact_mod_cast hlt), newtonStep_eq hkept.pos, ok_bind]
        exact ih hkept (by omega)
      · rw [if_neg (by exact_mod_cast hlt), ← h.stop hlt]
        rfl

theorem integerSqrt_eq (v : ℕ) : integerSqrt v = .ok (Nat.sqrt v : ℤ) := by
  have hnonneg : ¬ (v : ℤ) < 0 := by omega
  rw [integerSqrt, throwIf, if_neg hnonneg, ok_bind]
  by_cases hv : v < 2
  · rw [if_pos (by exact_mod_cast hv), reflection_settlement.sqrt_of_lt_two hv]
    rfl
  · have hhalf := divide_natCast v (d := 2) (by decide)
    have hstep := newtonStep_eq (v := v) (Candidate.start v).pos
    have hloop := integerSqrtLoop_eq (by omega) (.start v) (Nat.lt_succ_self (v / 2 + 1))
    rw [Nat.cast_add, Nat.cast_one] at hstep hloop
    rw [if_neg (by exact_mod_cast hv)]
    change (divide v (2 : ℕ) >>= _) = _
    rw [hhalf, ok_bind]
    dsimp only
    rw [hstep, ok_bind]
    exact hloop

/-- `while (next < current) …; return current`, without a budget: from `current` and `next`
the loop ends and returns `root`. -/
inductive integerSqrt.Ends (value : ℤ) : ℤ → ℤ → ℤ → Prop where
  | stop {current next : ℤ} (h : ¬ next < current) : Ends value current next current
  | turn {current next following root : ℤ} (h : next < current)
      (hstep : newtonStep value next = .ok following) (hends : Ends value next following root) :
      Ends value current next root

/-- **The loop ends at the root.** The candidate is what falls with each turn. -/
theorem integerSqrt.ends (hv : 2 ≤ v) (h : Candidate v c) :
    Ends v c (next v c : ℕ) (Nat.sqrt v : ℕ) := by
  induction c using Nat.strong_induction_on with
  | _ c ih =>
      by_cases hlt : next v c < c
      · have hkept := h.step hv hlt
        exact .turn (by exact_mod_cast hlt) (newtonStep_eq hkept.pos) (ih _ hlt hkept)
      · rw [← h.stop hlt]
        exact .stop (by exact_mod_cast hlt)

end indexer

open indexer reflection_settlement

/-- **The square root of either program.** A `u128` has its root taken in Move without an
abort, under either arithmetic, and any natural number has it taken by the reducer, whose
loop ends. It is one root, the floor. -/
theorem integer_sqrt_exact {σ : Type} (v : ℕ) :
    ∃ root : ℕ, root * root ≤ v ∧ v < (root + 1) * (root + 1)
      ∧ (v < 2 ^ 128 → ∀ (r : Arithmetic) (s : σ), integer_sqrt v r s = .ok (root, s))
      ∧ integerSqrt v = .ok (root : ℤ)
      ∧ (2 ≤ v → ∃ first : ℤ, newtonStep v (v / 2 + 1) = .ok first
        ∧ integerSqrt.Ends v (v / 2 + 1) first root) := by
  refine ⟨Nat.sqrt v, Nat.sqrt_le v, Nat.lt_succ_sqrt v, ?_, integerSqrt_eq v, ?_⟩
  · intro hfits r s
    rw [integer_sqrt_eq hfits]
    rfl
  · intro hv
    have hstep := newtonStep_eq (v := v) (Candidate.start v).pos
    have hends := integerSqrt.ends hv (.start v)
    rw [Nat.cast_add, Nat.cast_one] at hstep hends
    exact ⟨_, hstep, hends⟩

end CedraReflect
