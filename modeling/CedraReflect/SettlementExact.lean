/-
The settlement arithmetic is exact on all of its machine domain.

Within the widths of the arguments no intermediate result overflows, so that
under either arithmetic the functions return their closed forms. What those are
is said without the floors they are computed with: an output is the largest
that keeps a product of reserves, a mint is the largest that its maximum inputs
pay for, and neither swapping in parts nor burning in parts ever gains a unit.
-/
import CedraReflect.SettlementSpec
import CedraReflect.Soundness
import Mathlib.Algebra.Order.Floor.Div
import Mathlib.GroupTheory.GroupAction.Ring
import Mathlib.Order.Bounds.Basic

set_option autoImplicit false

namespace CedraReflect

/-! ## The constant product, of any input -/

namespace ConstantProduct

variable {R U x y : ℕ}

/-- What `x` units of one reserve are worth of the other. -/
def output (R U x : ℕ) : ℕ := U * x / (R + x)

theorem output_lt (hR : 0 < R) (hU : 0 < U) : output R U x < U := by
  unfold output
  rw [Nat.div_lt_iff_lt_mul (by omega), Nat.mul_add]
  have hpositive : 0 < U * R := Nat.mul_pos hU hR
  omega

/-- An output keeps the product if and only if it is at most the quotient. -/
theorem keeps_iff (hR : 0 < R) {o : ℕ} (ho : o ≤ U) :
    R * U ≤ (R + x) * (U - o) ↔ o ≤ output R U x := by
  unfold output
  rw [Nat.le_div_iff_mul_le (by omega), Nat.mul_sub]
  have hsplit : (R + x) * U = R * U + U * x := by ring
  have hle : (R + x) * o ≤ (R + x) * U := Nat.mul_le_mul_left _ ho
  rw [mul_comm o (R + x)]
  omega

/-- **The output is the largest that keeps the product.** -/
theorem isGreatest_output (hR : 0 < R) (hU : 0 < U) :
    IsGreatest {o | o ≤ U ∧ R * U ≤ (R + x) * (U - o)} (output R U x) := by
  have hle : output R U x ≤ U := (output_lt hR hU).le
  refine ⟨⟨hle, (keeps_iff hR hle).mpr (le_refl _)⟩, ?_⟩
  intro o ho
  exact (keeps_iff hR ho.1).mp ho.2

theorem keeps (hR : 0 < R) (hU : 0 < U) : R * U ≤ (R + x) * (U - output R U x) :=
  (isGreatest_output hR hU).1.2

/-- **A larger input pays no less.** -/
theorem output_mono (hR : 0 < R) (hU : 0 < U) (h : x ≤ y) : output R U x ≤ output R U y := by
  have hle : output R U x ≤ U := (output_lt hR hU).le
  rw [← keeps_iff hR hle]
  exact le_trans (keeps hR hU) (Nat.mul_le_mul_right _ (by omega))

/-- **Two inputs pay no more than one.** The first leaves at least itself in its
reserve, and together they count for no more than `z`. -/
theorem output_split_le (hR : 0 < R) (hU : 0 < U) {a z : ℕ} (hx : x ≤ a) (hz : x + y ≤ z) :
    output R U x + output (R + a) (U - output R U x) y ≤ output R U z := by
  have hfirst := output_lt (x := x) hR hU
  have hleft : 0 < U - output R U x := by omega
  have hsecond := output_lt (x := y) (R := R + a) (by omega) hleft
  rw [← keeps_iff hR (by omega)]
  have hkeeps := keeps (x := x) hR hU
  have hkeeps' := keeps (x := y) (R := R + a) (by omega) hleft
  obtain ⟨V, hV⟩ : ∃ V, V = U - output R U x := ⟨_, rfl⟩
  rw [← hV] at hkeeps hkeeps' hsecond ⊢
  obtain ⟨W, hW⟩ : ∃ W, W = V - output (R + a) V y := ⟨_, rfl⟩
  rw [← hW] at hkeeps'
  have hrest : U - (output R U x + output (R + a) V y) = W := by omega
  rw [hrest]
  -- The first fee stays in the reserve, and that is what the second input loses by.
  have hreserves : (R + x) * (R + a + y) ≤ (R + a) * (R + z) := by
    have hmore : (R + a) * (R + (x + y)) ≤ (R + a) * (R + z) :=
      Nat.mul_le_mul_left _ (by omega)
    have hfee : x * y ≤ a * y := Nat.mul_le_mul_right _ hx
    refine le_trans ?_ hmore
    calc (R + x) * (R + a + y) = (R + a) * (R + x) + R * y + x * y := by ring
      _ ≤ (R + a) * (R + x) + R * y + a * y := by omega
      _ = (R + a) * (R + (x + y)) := by ring
  refine Nat.le_of_mul_le_mul_left ?_ (by omega : 0 < R + a)
  calc (R + a) * (R * U) ≤ (R + a) * ((R + x) * V) := Nat.mul_le_mul_left _ hkeeps
    _ = (R + x) * ((R + a) * V) := by ring
    _ ≤ (R + x) * ((R + a + y) * W) := Nat.mul_le_mul_left _ hkeeps'
    _ = (R + x) * (R + a + y) * W := by ring
    _ ≤ (R + a) * (R + z) * W := Nat.mul_le_mul_right _ hreserves
    _ = (R + a) * ((R + z) * W) := by ring

end ConstantProduct

/-! ## Within the widths nothing overflows

A step whose guard holds is `pure`, under either arithmetic, so that a block of
such steps is its closed form by rewriting. -/

section Within

variable {σ : Type}

theorem Tx.require_of {ρ ε : Type} {p : Prop} [Decidable p] (e : ε) (h : p) :
    (Tx.require p e : Tx ρ σ ε Unit) = pure () := if_pos h

theorem checked_of_lt (m : Module) {bits n : ℕ} (h : n < 2 ^ bits) :
    (checked m bits n : Tx Arithmetic σ Abort ℕ) = pure n := by
  funext r s
  have hfits : r.fits bits n = true := by
    cases r with
    | ideal => rfl
    | machine => simpa [Arithmetic.fits] using h
  simp only [checked, Tx.asks, Tx.require, hfits, bind, ReaderT.bind, StateT.bind, Except.bind]
  rfl

theorem sub_of_le (m : Module) {x y : ℕ} (h : y ≤ x) :
    (sub m x y : Tx Arithmetic σ Abort ℕ) = pure (x - y) := by
  rw [sub, Tx.require_of _ h, pure_bind]

theorem div_of_pos (m : Module) (x : ℕ) {y : ℕ} (h : 0 < y) :
    (div m x y : Tx Arithmetic σ Abort ℕ) = pure (x / y) := by
  rw [div, Tx.require_of _ h, pure_bind]

end Within

namespace reflection_settlement

variable {σ : Type} {R U T n bps : ℕ}

theorem u128_of_lt (h : n < 2 ^ 128) : (u128 n : Tx Arithmetic σ Abort ℕ) = pure n :=
  checked_of_lt _ h

theorem u256_of_lt (h : n < 2 ^ 256) : (u256 n : Tx Arithmetic σ Abort ℕ) = pure n :=
  checked_of_lt _ h

theorem mul_lt_u128 {a b : ℕ} (ha : a ≤ MAX_U64) (hb : b ≤ MAX_U64) : a * b < 2 ^ 128 := by
  refine lt_of_le_of_lt (Nat.mul_le_mul ha hb) ?_
  decide

theorem fee_eq (hn : n ≤ MAX_U64) (hbps : bps ≤ BPS_DENOMINATOR) :
    (fee n bps : Tx Arithmetic σ Abort ℕ) = pure (n - invariant_input n bps) := by
  have hle := invariant_input_le n bps
  have hproduct : n * (BPS_DENOMINATOR - bps) < 2 ^ 128 := by
    refine mul_lt_u128 hn (le_trans (Nat.sub_le _ _) ?_)
    decide
  unfold invariant_input at hle ⊢
  rw [fee, Tx.require_of _ hbps, pure_bind, u128_of_lt hproduct, pure_bind]
  dsimp only
  rw [Tx.require_of _ (hle.trans hn), pure_bind, sub_of_le _ hle]

/-- **The constant product never fails on its domain.** The reserve that is paid
into may already be past a `u64`, as it is between the halves of an input. -/
theorem constant_product_output_eq (hR : 0 < R) (hR' : R ≤ 2 * MAX_U64) (hU : U ≤ MAX_U64)
    (hn : n ≤ MAX_U64) (hbps : bps ≤ BPS_DENOMINATOR) :
    (constant_product_output R U n bps : Tx Arithmetic σ Abort (ℕ × ℕ)) =
      pure (ConstantProduct.output R U (invariant_input n bps), n - invariant_input n bps) := by
  have hle := invariant_input_le n bps
  have hback : n - (n - invariant_input n bps) = invariant_input n bps := by omega
  have hproduct : U * invariant_input n bps < 2 ^ 128 := mul_lt_u128 hU (hle.trans hn)
  have hdenominator : R + invariant_input n bps < 2 ^ 128 := by
    have hwidth : 3 * MAX_U64 < 2 ^ 128 := by decide
    omega
  have houtput : U * invariant_input n bps / (R + invariant_input n bps) ≤ MAX_U64 :=
    le_trans (swap_output_le R U n bps) hU
  rw [constant_product_output, Tx.require_of _ hR, pure_bind, fee_eq hn hbps, pure_bind,
    sub_of_le _ (Nat.sub_le _ _), pure_bind, hback, u128_of_lt hproduct, pure_bind,
    u128_of_lt hdenominator, pure_bind, div_of_pos _ _ (by omega), pure_bind,
    Tx.require_of _ houtput, pure_bind]
  rfl

theorem invariant_input_mono {m : ℕ} (h : n ≤ m) :
    invariant_input n bps ≤ invariant_input m bps :=
  Nat.div_le_div_right (Nat.mul_le_mul_right _ h)

/-- Of an input in parts no more is seen than of the whole. -/
theorem invariant_input_add_le (a b : ℕ) :
    invariant_input a bps + invariant_input b bps ≤ invariant_input (a + b) bps := by
  unfold invariant_input
  rw [Nat.add_mul]
  exact Nat.div_add_div_le_add_div

/-! ## A swap -/

/-- **What the constant product pays.** For reserves and an input of any `u64`s
it pays, and keeps the fee of, the largest output that the input less the fee
covers, where the fee is what the fee function returns: the part of the input
above its floored fraction. A larger input pays no less, and an input made in
two parts, the second from the reserves the first left, pays no more than the
whole. -/
theorem constant_product_output_exact (r : Arithmetic) (s : σ) (hR : 0 < R) (hR' : R ≤ MAX_U64)
    (hU : 0 < U) (hU' : U ≤ MAX_U64) (hn : n ≤ MAX_U64) (hbps : bps ≤ BPS_DENOMINATOR) :
    ∃ output amm_fee,
      Tx.Commits (constant_product_output R U n bps) r s (output, amm_fee) s
        ∧ Tx.Commits (fee n bps) r s amm_fee s
        ∧ amm_fee = n - n * (BPS_DENOMINATOR - bps) / BPS_DENOMINATOR
        ∧ amm_fee ≤ n ∧ output < U ∧ R * U ≤ (R + n) * (U - output)
        ∧ IsGreatest {o | o ≤ U ∧ R * U ≤ (R + (n - amm_fee)) * (U - o)} output
        ∧ (∀ m, n ≤ m → m ≤ MAX_U64 → ∃ more amm_fee',
            Tx.Commits (constant_product_output R U m bps) r s (more, amm_fee') s
              ∧ Tx.Commits (fee m bps) r s amm_fee' s ∧ output ≤ more)
        ∧ ∀ b, n + b ≤ MAX_U64 → ∃ second amm_fee₂ whole amm_fee₁₂,
            Tx.Commits (constant_product_output (R + n) (U - output) b bps) r s
                (second, amm_fee₂) s
              ∧ Tx.Commits (fee b bps) r s amm_fee₂ s
              ∧ Tx.Commits (constant_product_output R U (n + b) bps) r s (whole, amm_fee₁₂) s
              ∧ Tx.Commits (fee (n + b) bps) r s amm_fee₁₂ s
              ∧ output + second ≤ whole := by
  have hle := invariant_input_le n bps
  have hR'' : R ≤ 2 * MAX_U64 := by omega
  have hback : n - (n - invariant_input n bps) = invariant_input n bps := by omega
  have hlt := ConstantProduct.output_lt (x := invariant_input n bps) hR hU
  -- The fee that a swap keeps is the one that the fee function returns.
  have hfee : ∀ m, m ≤ MAX_U64 → Tx.Commits (fee m bps) r s (m - invariant_input m bps) s := by
    intro m hm
    rw [fee_eq hm hbps, Tx.commits_pure]
    exact ⟨rfl, rfl⟩
  refine ⟨ConstantProduct.output R U (invariant_input n bps), n - invariant_input n bps,
    ?_, hfee n hn, rfl, Nat.sub_le _ _, hlt, ?_, ?_, ?_, ?_⟩
  · rw [constant_product_output_eq hR hR'' hU' hn hbps, Tx.commits_pure]
    exact ⟨rfl, rfl⟩
  · -- The whole input counts for at least what the fee left of it.
    exact le_trans (ConstantProduct.keeps hR hU) (Nat.mul_le_mul_right _ (by omega))
  · rw [hback]
    exact ConstantProduct.isGreatest_output hR hU
  · intro m hnm hm
    refine ⟨_, m - invariant_input m bps, ?_, hfee m hm,
      ConstantProduct.output_mono hR hU (invariant_input_mono hnm)⟩
    rw [constant_product_output_eq hR hR'' hU' hm hbps, Tx.commits_pure]
    exact ⟨rfl, rfl⟩
  · intro b hb
    have hsplit : invariant_input n bps + invariant_input b bps ≤ invariant_input (n + b) bps :=
      invariant_input_add_le n b
    refine ⟨_, b - invariant_input b bps, _, n + b - invariant_input (n + b) bps, ?_,
      hfee b (by omega), ?_, hfee (n + b) hb, ConstantProduct.output_split_le hR hU hle hsplit⟩
    · rw [constant_product_output_eq (by omega) (by omega) (by omega) (by omega) hbps,
        Tx.commits_pure]
      exact ⟨rfl, rfl⟩
    · rw [constant_product_output_eq hR hR'' hU' hb hbps, Tx.commits_pure]
      exact ⟨rfl, rfl⟩

/-- The swap of the source's own rounding test: of 1801 units at 30 basis points
the fee is 6, not the 5 of a floored fee. -/
theorem constant_product_output_exact_1801 :
    ∃ output,
      Tx.Commits (constant_product_output 1_000_000 1_000_000 1_801 30) .machine () (output, 6) ()
        ∧ Tx.Commits (fee 1_801 30) .machine () 6 ()
        ∧ output < 1_000_000
        ∧ IsGreatest {o | o ≤ 1_000_000 ∧ 1_000_000 * 1_000_000
            ≤ (1_000_000 + 1_795) * (1_000_000 - o)} output := by
  obtain ⟨output, amm_fee, hcommits, hfee, rfl, -, hlt, -, hgreatest, -⟩ :=
    @constant_product_output_exact Unit 1_000_000 1_000_000 1_801 30 .machine ()
      (by decide) (by decide) (by decide) (by decide) (by decide) (by decide)
  exact ⟨output, hcommits, hfee, hlt, hgreatest⟩

/-! ## A mint -/

variable {a b : ℕ}

theorem ceil_div_eq_ceilDiv (a : ℕ) (hb : 0 < b) : ceil_div a b = a ⌈/⌉ b := by
  unfold ceil_div
  rw [Nat.ceilDiv_eq_add_pred_div]
  split
  · next ha =>
      subst ha
      rw [Nat.div_eq_of_lt (by omega)]
  · next ha =>
      have hshift : a + b - 1 = a - 1 + b := by omega
      rw [hshift, Nat.add_div_right _ hb]

theorem ceil_div_le_iff {c : ℕ} (hb : 0 < b) : ceil_div a b ≤ c ↔ a ≤ c * b := by
  rw [ceil_div_eq_ceilDiv a hb, ceilDiv_le_iff_le_mul hb, mul_comm]

/-- The shares that a maximum input pays for. -/
theorem ceil_div_le_iff_le_div {n : ℕ} (hR : 0 < R) (hT : 0 < T) :
    ceil_div (n * R) T ≤ a ↔ n ≤ a * T / R := by
  rw [ceil_div_le_iff hT, Nat.le_div_iff_mul_le hR]

/-- **The shares are the most that both inputs pay for.** -/
theorem isGreatest_minted_shares (hR : 0 < R) (hU : 0 < U) (hT : 0 < T) :
    IsGreatest {n | n * R ⌈/⌉ T ≤ a ∧ n * U ⌈/⌉ T ≤ b} (minted_shares a b R U T) := by
  constructor
  · show _ ∧ _
    rw [← ceil_div_eq_ceilDiv _ hT, ← ceil_div_eq_ceilDiv _ hT,
      ceil_div_le_iff_le_div hR hT, ceil_div_le_iff_le_div hU hT]
    exact ⟨min_le_left _ _, min_le_right _ _⟩
  · intro n hn
    obtain ⟨hrfl, husd⟩ := hn
    rw [← ceil_div_eq_ceilDiv _ hT, ceil_div_le_iff_le_div hR hT] at hrfl
    rw [← ceil_div_eq_ceilDiv _ hT, ceil_div_le_iff_le_div hU hT] at husd
    exact le_min hrfl husd

theorem ceil_div_u256_eq (hb : 0 < b) (ha : a < 2 ^ 256) :
    (ceil_div_u256 a b : Tx Arithmetic σ Abort ℕ) = pure (ceil_div a b) := by
  unfold ceil_div_u256 ceil_div
  split
  · rfl
  · have hle : (a - 1) / b ≤ a - 1 := Nat.div_le_self _ _
    rw [div_of_pos _ _ hb, pure_bind, u256_of_lt (by omega)]

/-- **A mint fails for one reason.** No product leaves a `u256`, and no amount
consumed exceeds its maximum, so that only the shares can be too many. -/
theorem liquidity_mint_eq (ha : a ≤ MAX_U64) (hb : b ≤ MAX_U64) (hR : 0 < R) (hR' : R ≤ MAX_U64)
    (hU : 0 < U) (hU' : U ≤ MAX_U64) (hT : 0 < T) (hT' : T ≤ MAX_U128) :
    (liquidity_mint a b R U T : Tx Arithmetic σ Abort (ℕ × ℕ × ℕ)) =
      if minted_shares a b R U T ≤ MAX_U128 then
        pure (minted_shares a b R U T, ceil_div (minted_shares a b R U T * R) T,
          ceil_div (minted_shares a b R U T * U) T)
      else Tx.abort E_NARROWING_OVERFLOW := by
  have hwidth : MAX_U64 * MAX_U128 < 2 ^ 256 := by decide
  have hwidth' : MAX_U128 * MAX_U64 < 2 ^ 256 := by decide
  have hproduct_rfl : a * T < 2 ^ 256 := lt_of_le_of_lt (Nat.mul_le_mul ha hT') hwidth
  have hproduct_usd : b * T < 2 ^ 256 := lt_of_le_of_lt (Nat.mul_le_mul hb hT') hwidth
  -- The program takes the smaller quotient with a comparison.
  have hmin : (if a * T / R < b * T / U then a * T / R else b * T / U) =
      minted_shares a b R U T := by
    unfold minted_shares
    split <;> omega
  rw [liquidity_mint, Tx.require_of _ ⟨hR, hU, hT⟩, pure_bind, u256_of_lt hproduct_rfl, pure_bind,
    div_of_pos _ _ hR, pure_bind, u256_of_lt hproduct_usd, pure_bind, div_of_pos _ _ hU, pure_bind]
  dsimp only
  rw [hmin]
  split
  · next hs =>
      -- What shares within the quotient cost is at most what was offered.
      have hrfl : ceil_div (minted_shares a b R U T * R) T ≤ a :=
        (ceil_div_le_iff_le_div hR hT).mpr (min_le_left _ _)
      have husd : ceil_div (minted_shares a b R U T * U) T ≤ b :=
        (ceil_div_le_iff_le_div hU hT).mpr (min_le_right _ _)
      have hshares_rfl : minted_shares a b R U T * R < 2 ^ 256 :=
        lt_of_le_of_lt (Nat.mul_le_mul hs hR') hwidth'
      have hshares_usd : minted_shares a b R U T * U < 2 ^ 256 :=
        lt_of_le_of_lt (Nat.mul_le_mul hs hU') hwidth'
      rw [Tx.require_of _ hs, pure_bind, u256_of_lt hshares_rfl, pure_bind,
        ceil_div_u256_eq hT hshares_rfl, pure_bind, u256_of_lt hshares_usd, pure_bind,
        ceil_div_u256_eq hT hshares_usd, pure_bind, Tx.require_of _ (hrfl.trans ha), pure_bind,
        Tx.require_of _ (husd.trans hb), pure_bind]
  · next hs =>
      rw [Tx.require, if_neg hs]
      rfl

/-! ## Burns -/

/-- Burns one after the other, each from what the last one left; the totals
paid. -/
def withdrawals : List ℕ → ℕ → ℕ → ℕ → Tx Arithmetic σ Abort (ℕ × ℕ)
  | [], _, _, _ => pure (0, 0)
  | shares :: burns, total_shares, reserve_rfl, reserve_usd => do
      let (rfl_out, usd_out) ←
        liquidity_withdrawal shares total_shares reserve_rfl reserve_usd
      let (rfl_left, usd_left) ←
        withdrawals burns (total_shares - shares) (reserve_rfl - rfl_out) (reserve_usd - usd_out)
      pure (rfl_out + rfl_left, usd_out + usd_left)

instance (r : Arithmetic) (n T R U : ℕ) : Sound (σ := σ) r (liquidity_withdrawal n T R U) := by
  unfold liquidity_withdrawal
  infer_instance

instance sound_withdrawals (r : Arithmetic) (burns : List ℕ) (T R U : ℕ) :
    Sound (σ := σ) r (withdrawals burns T R U) := by
  induction burns generalizing T R U with
  | nil =>
      unfold withdrawals
      infer_instance
  | cons shares burns ih =>
      have hrest : ∀ T R U, Sound (σ := σ) r (withdrawals burns T R U) := ih
      unfold withdrawals
      infer_instance

/-- What is left of a reserve is worth no less a share. The comparison composes,
so that a run of burns is a burn. -/
theorem kept_trans {P P' P'' Q Q' Q'' : ℕ} (hQ : 0 < Q') (h : P * Q' ≤ P' * Q)
    (h' : P' * Q'' ≤ P'' * Q') : P * Q'' ≤ P'' * Q := by
  refine Nat.le_of_mul_le_mul_right ?_ hQ
  calc P * Q'' * Q' = P * Q' * Q'' := by ring
    _ ≤ P' * Q * Q'' := Nat.mul_le_mul_right _ h
    _ = P' * Q'' * Q := by ring
    _ ≤ P'' * Q' * Q := Nat.mul_le_mul_right _ h'
    _ = P'' * Q * Q' := by ring

/-- A burn of less than everything pays no more than there is. -/
theorem withdrawal_le (hn : n ≤ T) : n * R / T ≤ R :=
  Nat.div_le_of_le_mul (Nat.mul_le_mul_right R hn)

/-- **A run of burns.** It pays no more than there is, and what it leaves is
worth no less a share. -/
theorem withdrawals_kept {burns : List ℕ} (hpos : ∀ n ∈ burns, 0 < n) (hsum : burns.sum < T)
    {s s' : σ} {p : ℕ × ℕ} (h : Tx.Commits (withdrawals burns T R U) .ideal s p s') :
    p.1 ≤ R ∧ R * (T - burns.sum) ≤ (R - p.1) * T
      ∧ p.2 ≤ U ∧ U * (T - burns.sum) ≤ (U - p.2) * T := by
  -- One burn keeps the worth of what is left; the burns that follow keep it from there on.
  induction burns generalizing T R U s s' p with
  | nil =>
      rw [withdrawals, Tx.commits_pure] at h
      rw [h.1]
      simp
  | cons shares burns ih =>
      rw [List.sum_cons] at hsum ⊢
      have hshares : 0 < shares := hpos shares (List.mem_cons_self ..)
      have hlt : shares < T := by omega
      rw [withdrawals, Tx.commits_bind] at h
      obtain ⟨q, s₁, hfirst, h⟩ := h
      rw [Tx.commits_liquidity_withdrawal hshares hlt] at hfirst
      obtain ⟨-, -, hq, -⟩ := hfirst
      rw [Tx.commits_bind] at h
      obtain ⟨q', s₂, hrest, h⟩ := h
      rw [Tx.commits_pure] at h
      have hrfl : q.1 ≤ R := by
        rw [hq]
        exact withdrawal_le hlt.le
      have husd : q.2 ≤ U := by
        rw [hq]
        exact withdrawal_le hlt.le
      have hkept_rfl : R * (T - shares) ≤ (R - q.1) * T := by
        rw [hq]
        exact Worth.withdrawal R shares T
      have hkept_usd : U * (T - shares) ≤ (U - q.2) * T := by
        rw [hq]
        exact Worth.withdrawal U shares T
      have htail : burns.sum < T - shares := by omega
      obtain ⟨h₁, h₂, h₃, h₄⟩ :=
        ih (fun n hn => hpos n (List.mem_cons_of_mem _ hn)) htail hrest
      have hleft : T - (shares + burns.sum) = T - shares - burns.sum := by omega
      have hrest_rfl : R - (q.1 + q'.1) = R - q.1 - q'.1 := by omega
      have hrest_usd : U - (q.2 + q'.2) = U - q.2 - q'.2 := by omega
      rw [h.1, hleft]
      refine ⟨by omega, ?_, by omega, ?_⟩
      · rw [hrest_rfl]
        exact kept_trans (by omega) hkept_rfl h₂
      · rw [hrest_usd]
        exact kept_trans (by omega) hkept_usd h₄

/-- A burn of less than everything passes every check of its settlement. -/
theorem liquidity_withdrawal_eq (hn : 0 < n) (hlt : n < T) (hR : R ≤ MAX_U64) (hU : U ≤ MAX_U64)
    (hT : T ≤ MAX_U128) :
    (liquidity_withdrawal n T R U : Tx Arithmetic σ Abort (ℕ × ℕ)) =
      pure (n * R / T, n * U / T) := by
  have hwidth : MAX_U128 * MAX_U64 < 2 ^ 256 := by decide
  have hrfl : n * R / T ≤ R := withdrawal_le hlt.le
  have husd : n * U / T ≤ U := withdrawal_le hlt.le
  have hproduct_rfl : n * R < 2 ^ 256 :=
    lt_of_le_of_lt (Nat.mul_le_mul (by omega) hR) hwidth
  have hproduct_usd : n * U < 2 ^ 256 :=
    lt_of_le_of_lt (Nat.mul_le_mul (by omega) hU) hwidth
  rw [liquidity_withdrawal, Tx.require_of _ ⟨hn, by omega, hlt.le⟩, pure_bind,
    if_neg (by omega), u256_of_lt hproduct_rfl, pure_bind, div_of_pos _ _ (by omega),
    pure_bind, u256_of_lt hproduct_usd, pure_bind, div_of_pos _ _ (by omega), pure_bind,
    Tx.require_of _ (hrfl.trans hR), pure_bind, Tx.require_of _ (husd.trans hU), pure_bind]

/-- Burns of less than everything are paid. -/
theorem withdrawals_commits {burns : List ℕ} (hpos : ∀ n ∈ burns, 0 < n) (hsum : burns.sum < T)
    (hR : R ≤ MAX_U64) (hU : U ≤ MAX_U64) (hT : T ≤ MAX_U128) (r : Arithmetic) (s : σ) :
    ∃ p, Tx.Commits (withdrawals burns T R U) r s p s := by
  induction burns generalizing T R U with
  | nil => exact ⟨(0, 0), (Tx.commits_pure _ _ _ _ _).mpr ⟨rfl, rfl⟩⟩
  | cons shares burns ih =>
      rw [List.sum_cons] at hsum
      have hshares : 0 < shares := hpos shares (List.mem_cons_self ..)
      have hlt : shares < T := by omega
      obtain ⟨p, hp⟩ := ih (fun n hn => hpos n (List.mem_cons_of_mem _ hn))
        (T := T - shares) (R := R - shares * R / T) (U := U - shares * U / T)
        (by omega) ((Nat.sub_le _ _).trans hR) ((Nat.sub_le _ _).trans hU) (by omega)
      refine ⟨(shares * R / T + p.1, shares * U / T + p.2), ?_⟩
      rw [withdrawals, liquidity_withdrawal_eq hshares hlt hR hU hT, pure_bind, Tx.commits_bind]
      refine ⟨p, s, hp, ?_⟩
      rw [Tx.commits_pure]
      exact ⟨rfl, rfl⟩

/-- A share of what is left costs no less than the mint paid for it. -/
theorem paid_le {w S r P Q s : ℕ} (hQ : 0 < Q) (hw : w ≤ P) (hS : S ≤ Q)
    (hkept : P * (Q - S) ≤ (P - w) * Q) (hcost : P * s ≤ r * Q) : w * s ≤ S * r := by
  have hout : w * Q ≤ S * P := by
    rw [Nat.mul_sub, Nat.sub_mul, mul_comm P S] at hkept
    have h₁ : w * Q ≤ P * Q := Nat.mul_le_mul_right _ hw
    have h₂ : S * P ≤ P * Q := by
      rw [mul_comm P Q]
      exact Nat.mul_le_mul_right _ hS
    omega
  refine Nat.le_of_mul_le_mul_right ?_ hQ
  calc w * s * Q = w * Q * s := by ring
    _ ≤ S * P * s := Nat.mul_le_mul_right _ hout
    _ = S * (P * s) := by ring
    _ ≤ S * (r * Q) := Nat.mul_le_mul_left _ hcost
    _ = S * r * Q := by ring

/-- **A round trip never gains.** Of shares just minted, burns of up to as many
return of each asset at most their part of what the mint consumed. -/
theorem withdrawals_le_paid {shares : ℕ} {burns : List ℕ} (hT : 0 < T)
    (hpos : ∀ n ∈ burns, 0 < n) (hsum : burns.sum ≤ shares) {r : Arithmetic} {s s' : σ}
    {p : ℕ × ℕ}
    (h : Tx.Commits (withdrawals burns (T + shares) (R + ceil_div (shares * R) T)
      (U + ceil_div (shares * U) T)) r s p s') :
    p.1 * shares ≤ burns.sum * ceil_div (shares * R) T
      ∧ p.2 * shares ≤ burns.sum * ceil_div (shares * U) T := by
  have hcost : ∀ V, (V + ceil_div (shares * V) T) * shares
      ≤ ceil_div (shares * V) T * (T + shares) := by
    intro V
    have hceil := le_ceil_div_mul (shares * V) hT
    have hleft : (V + ceil_div (shares * V) T) * shares =
        shares * V + ceil_div (shares * V) T * shares := by ring
    rw [hleft, Nat.mul_add]
    omega
  have hkept := withdrawals_kept hpos (by omega) ((sound_withdrawals r burns _ _ _).commits h)
  obtain ⟨hw, hleft, hw', hleft'⟩ := hkept
  exact ⟨paid_le (by omega) hw (by omega) hleft (hcost R),
    paid_le (by omega) hw' (by omega) hleft' (hcost U)⟩

/-- **What a mint gives and takes.** It aborts when even the smaller of the two
shares is past a `u128`, and only then; else it mints the most that both maximum
inputs pay for, at the least they cost, and burning any of it, in one piece or
many, returns of each asset at most that part of its cost. -/
theorem liquidity_mint_exact (r : Arithmetic) (s : σ) {max_rfl max_usd : ℕ}
    (hrfl : max_rfl ≤ MAX_U64) (husd : max_usd ≤ MAX_U64) (hR : 0 < R) (hR' : R ≤ MAX_U64)
    (hU : 0 < U) (hU' : U ≤ MAX_U64) (hT : 0 < T) (hT' : T ≤ MAX_U128) :
    (liquidity_mint max_rfl max_usd R U T r s = .error E_NARROWING_OVERFLOW
        ↔ MAX_U128 < min (max_rfl * T / R) (max_usd * T / U))
      ∧ (min (max_rfl * T / R) (max_usd * T / U) ≤ MAX_U128 → ∃ shares rfl_used usd_used,
        Tx.Commits (liquidity_mint max_rfl max_usd R U T) r s
            (shares, rfl_used, usd_used) s
          ∧ rfl_used ≤ max_rfl ∧ usd_used ≤ max_usd
          ∧ IsGreatest {n | n * R ⌈/⌉ T ≤ max_rfl ∧ n * U ⌈/⌉ T ≤ max_usd} shares
          ∧ rfl_used = shares * R ⌈/⌉ T ∧ usd_used = shares * U ⌈/⌉ T
          ∧ ∀ burns : List ℕ, (∀ n ∈ burns, 0 < n) → burns.sum ≤ shares →
              (∀ w v s', Tx.Commits
                  (withdrawals burns (T + shares) (R + rfl_used) (U + usd_used)) r s (w, v) s' →
                    w * shares ≤ burns.sum * rfl_used ∧ v * shares ≤ burns.sum * usd_used)
                ∧ (R + rfl_used ≤ MAX_U64 → U + usd_used ≤ MAX_U64 → T + shares ≤ MAX_U128 →
                  ∃ p, Tx.Commits
                    (withdrawals burns (T + shares) (R + rfl_used) (U + usd_used)) r s p s)) := by
  -- The one failure is read off the closed form.
  have hmint := liquidity_mint_eq (σ := σ) hrfl husd hR hR' hU hU' hT hT'
  change (_ ↔ MAX_U128 < minted_shares max_rfl max_usd R U T)
    ∧ (minted_shares max_rfl max_usd R U T ≤ MAX_U128 → _)
  constructor
  · rw [hmint]
    split
    · next hs =>
        have hfalse : ¬ MAX_U128 < minted_shares max_rfl max_usd R U T := by omega
        simp only [hfalse, iff_false]
        rintro ⟨⟩
    · next hs =>
        have htrue : MAX_U128 < minted_shares max_rfl max_usd R U T := by omega
        simp [htrue, Tx.abort]
  · intro hs
    rw [hmint, if_pos hs]
    refine ⟨_, _, _, (Tx.commits_pure _ _ _ _ _).mpr ⟨rfl, rfl⟩,
      (ceil_div_le_iff_le_div hR hT).mpr (min_le_left _ _),
      (ceil_div_le_iff_le_div hU hT).mpr (min_le_right _ _),
      isGreatest_minted_shares hR hU hT, ceil_div_eq_ceilDiv _ hT, ceil_div_eq_ceilDiv _ hT, ?_⟩
    intro burns hpos hsum
    constructor
    · intro w v s' hcommits
      exact withdrawals_le_paid hT hpos hsum hcommits
    · intro hfits_rfl hfits_usd hfits
      exact withdrawals_commits hpos (by omega) hfits_rfl hfits_usd hfits r s

/-- Two unequal inputs, the limiting one in full. -/
theorem liquidity_mint_exact_unequal :
    ∃ shares rfl_used usd_used,
      Tx.Commits (liquidity_mint 100 250 1_000 2_000 1_500) .machine ()
          (shares, rfl_used, usd_used) ()
        ∧ rfl_used ≤ 100 ∧ usd_used ≤ 250
        ∧ IsGreatest {n | n * 1_000 ⌈/⌉ 1_500 ≤ 100 ∧ n * 2_000 ⌈/⌉ 1_500 ≤ 250} shares := by
  obtain ⟨shares, rfl_used, usd_used, hcommits, hrfl, husd, hgreatest, -⟩ :=
    (@liquidity_mint_exact Unit 1_000 2_000 1_500 .machine () 100 250 (by decide) (by decide)
      (by decide) (by decide) (by decide) (by decide) (by decide) (by decide)).2 (by decide)
  exact ⟨shares, rfl_used, usd_used, hcommits, hrfl, husd, hgreatest⟩

end reflection_settlement

end CedraReflect
