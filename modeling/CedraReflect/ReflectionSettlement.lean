/-
`reflection_settlement.move`: the AMM's settlement arithmetic.

None of these functions touches the state, so they are stated over any. The
Newton loop of `integer_sqrt` is a structural recursion on a budget; `current`
strictly decreases, so that its first value is budget enough.
-/
import CedraReflect.Basic

set_option autoImplicit false

namespace CedraReflect.reflection_settlement

variable {σ : Type}

def E_FEE_TOO_HIGH : Abort := .code .reflection_settlement 1
def E_ZERO_DENOMINATOR : Abort := .code .reflection_settlement 2
def E_NARROWING_OVERFLOW : Abort := .code .reflection_settlement 3
def E_INVALID_LP_BURN : Abort := .code .reflection_settlement 4

def BPS_DENOMINATOR : ℕ := 10_000
def MAX_U64 : ℕ := 18_446_744_073_709_551_615
def MAX_U128 : ℕ := 340_282_366_920_938_463_463_374_607_431_768_211_455

abbrev u128 (n : ℕ) : Tx Arithmetic σ Abort ℕ := checked .reflection_settlement 128 n
abbrev u256 (n : ℕ) : Tx Arithmetic σ Abort ℕ := checked .reflection_settlement 256 n

def fee (amount fee_bps : ℕ) : Tx Arithmetic σ Abort ℕ := do
  Tx.require (fee_bps ≤ BPS_DENOMINATOR) E_FEE_TOO_HIGH
  let product ← u128 (amount * (BPS_DENOMINATOR - fee_bps))
  let invariant_input := product / BPS_DENOMINATOR
  Tx.require (invariant_input ≤ MAX_U64) E_NARROWING_OVERFLOW
  sub .reflection_settlement amount invariant_input

/-- Constant-product output with the trading fee retained in the input reserve.
Returns the output and the fee. -/
def constant_product_output (reserve_in reserve_out gross_input amm_fee_bps : ℕ) :
    Tx Arithmetic σ Abort (ℕ × ℕ) := do
  Tx.require (0 < reserve_in) E_ZERO_DENOMINATOR
  let amm_fee ← fee gross_input amm_fee_bps
  let invariant_input ← sub .reflection_settlement gross_input amm_fee
  let product ← u128 (reserve_out * invariant_input)
  let denominator ← u128 (reserve_in + invariant_input)
  let output ← div .reflection_settlement product denominator
  Tx.require (output ≤ MAX_U64) E_NARROWING_OVERFLOW
  pure (output, amm_fee)

def ceil_div_u256 (numerator denominator : ℕ) : Tx Arithmetic σ Abort ℕ :=
  if numerator = 0 then pure 0
  else do
    let quotient ← div .reflection_settlement (numerator - 1) denominator
    u256 (quotient + 1)

/-- Shares from maximum inputs, and the proportional amounts consumed. -/
def liquidity_mint (max_rfl max_usd reserve_rfl reserve_usd total_shares : ℕ) :
    Tx Arithmetic σ Abort (ℕ × ℕ × ℕ) := do
  Tx.require (0 < reserve_rfl ∧ 0 < reserve_usd ∧ 0 < total_shares) E_ZERO_DENOMINATOR
  let product_rfl ← u256 (max_rfl * total_shares)
  let shares_from_rfl ← div .reflection_settlement product_rfl reserve_rfl
  let product_usd ← u256 (max_usd * total_shares)
  let shares_from_usd ← div .reflection_settlement product_usd reserve_usd
  let shares := if shares_from_rfl < shares_from_usd then shares_from_rfl else shares_from_usd
  Tx.require (shares ≤ MAX_U128) E_NARROWING_OVERFLOW
  let numerator_rfl ← u256 (shares * reserve_rfl)
  let rfl_used ← ceil_div_u256 numerator_rfl total_shares
  let numerator_usd ← u256 (shares * reserve_usd)
  let usd_used ← ceil_div_u256 numerator_usd total_shares
  Tx.require (rfl_used ≤ MAX_U64) E_NARROWING_OVERFLOW
  Tx.require (usd_used ≤ MAX_U64) E_NARROWING_OVERFLOW
  pure (shares, rfl_used, usd_used)

def liquidity_withdrawal (shares total_shares reserve_rfl reserve_usd : ℕ) :
    Tx Arithmetic σ Abort (ℕ × ℕ) := do
  Tx.require (0 < shares ∧ 0 < total_shares ∧ shares ≤ total_shares) E_INVALID_LP_BURN
  if shares = total_shares then pure (reserve_rfl, reserve_usd)
  else do
    let product_rfl ← u256 (shares * reserve_rfl)
    let rfl_out ← div .reflection_settlement product_rfl total_shares
    let product_usd ← u256 (shares * reserve_usd)
    let usd_out ← div .reflection_settlement product_usd total_shares
    Tx.require (rfl_out ≤ MAX_U64) E_NARROWING_OVERFLOW
    Tx.require (usd_out ≤ MAX_U64) E_NARROWING_OVERFLOW
    pure (rfl_out, usd_out)

/-- `(current + value / current) / 2`. -/
def newton_step (value current : ℕ) : Tx Arithmetic σ Abort ℕ := do
  let quotient ← div .reflection_settlement value current
  let total ← u128 (current + quotient)
  pure (total / 2)

/-- `while (next < current) { current = next; next = … }; current`. -/
def integer_sqrt_loop (value : ℕ) : ℕ → ℕ → ℕ → Tx Arithmetic σ Abort ℕ
  | 0, _, _ => Tx.abort (.undefined .reflection_settlement)
  | budget + 1, current, next =>
      if next < current then do
        let following ← newton_step value next
        integer_sqrt_loop value budget next following
      else pure current

def integer_sqrt (value : ℕ) : Tx Arithmetic σ Abort ℕ :=
  if value < 2 then pure value
  else do
    let current ← u128 (value / 2 + 1)
    let next ← newton_step value current
    integer_sqrt_loop value (current + 1) current next

def initial_lp_shares (rfl_amount usd_amount : ℕ) : Tx Arithmetic σ Abort ℕ := do
  let product ← u128 (rfl_amount * usd_amount)
  integer_sqrt product

end CedraReflect.reflection_settlement
