/-
`pool.move` and the capability-forwarding calls of `custody_settlement.move`:
the immutable tRFL/tUSD constant-product pool.

Every entry is translated statement by statement, the checkpoints and the
defensive assertions included: whether they can fail is what is proved about
them. `custody_settlement` only renames core functions, so its calls appear
under the core's names; the facades `swap`, `liquidity` and `lp_shares` only
rename the entries below.
-/
import CedraReflect.Assets
import CedraReflect.LpRewards
import CedraReflect.ReflectionSettlement

set_option autoImplicit false
set_option linter.constructorNameAsVariable false

namespace CedraReflect.pool

open NamedAddresses

/-- The abort codes of the module, under the source's numbers. -/
def E_ALREADY_INITIALIZED : Abort := .code .pool 1
def E_WRONG_AMM_ADDRESS : Abort := .code .pool 2
def E_WRONG_ASSETS_ADDRESS : Abort := .code .pool 3
def E_WRONG_BOOTSTRAP_LP : Abort := .code .pool 4
def E_ZERO_AMOUNT : Abort := .code .pool 5
def E_DEADLINE : Abort := .code .pool 6
def E_MIN_OUTPUT : Abort := .code .pool 7
def E_MAX_SWAP : Abort := .code .pool 8
def E_MAX_RESERVE_PERCENT : Abort := .code .pool 9
def E_INSUFFICIENT_LIQUIDITY : Abort := .code .pool 10
def E_WRONG_LIFECYCLE : Abort := .code .pool 11
def E_NOT_PROPORTIONAL : Abort := .code .pool 12
def E_RESERVE_CUSTODY_MISMATCH : Abort := .code .pool 13
def E_INVALID_LP_OWNER : Abort := .code .pool 14
def E_INVALID_RECIPIENT : Abort := .code .pool 15
def E_MAX_LIQUIDITY_CONTRIBUTION : Abort := .code .pool 16
def E_NOT_SEALABLE : Abort := .code .pool 17

/-- The parameters of the pool, which are constants: no call changes one. -/
def BPS_DENOMINATOR : ℕ := 10_000
def FIXED_AMM_FEE_BPS : ℕ := 30
def FIXED_MAX_RESERVE_BPS : ℕ := 2_000
def FIXED_MAX_GROSS_SWAP : ℕ := 100_000_000_000
def FIXED_MAX_LIQUIDITY_RFL : ℕ := 100_000_000_000
def FIXED_MAX_LIQUIDITY_USD : ℕ := 100_000_000_000
def FIXED_MAX_WITHDRAWAL_SHARE_BPS : ℕ := BPS_DENOMINATOR
def INITIAL_TRFL_LIQUIDITY : ℕ := 500_000_000
def INITIAL_TUSD_LIQUIDITY : ℕ := 500_000_000

/-- A product of amounts, in 128 bits. -/
abbrev u128 (n : ℕ) : Move ℕ := checked .pool 128 n

/-- `borrow_global<PoolState>(@test_amm)`. -/
def borrow_state : Move PoolState := do
  let state ← Tx.gets (fun w : World => w.pool)
  Tx.expect state (.missing .pool)

/-! ### Guards -/

/-- The pool's two reserves, tRFL first. -/
def reserves (state : PoolState) : Move (ℕ × ℕ) := do
  let rfl ← fungible_asset.balance state.rfl_reserve
  let usd ← fungible_asset.balance state.usd_reserve
  pure (rfl, usd)

/-- The tRFL reserve is what the core counts as custody, and the core is backed. -/
def assert_reserve_custody (state : PoolState) : Move Unit := do
  let reserve ← reserves state
  let custody ← reflection_token.borrow_custody
  Tx.require (reserve.1 = custody.custody_shares) E_RESERVE_CUSTODY_MISMATCH
  reflection_token.assert_accounting_backing

/-- The gate of every call that trades, adds or removes: the pool's own lifecycle, the
core's, and the epoch's health. -/
def assert_pool_live (state : PoolState) : Move Unit := do
  let is_sealed ← reflection_token.is_sealed
  let is_closed ← reflection_token.is_closed
  Tx.require (state.lifecycle = .LIVE ∧ is_sealed = true ∧ is_closed = false) E_WRONG_LIFECYCLE
  lp_rewards.assert_active_epoch_healthy state.lp_cap

/-- Neither the zero address nor a publisher may own shares, nor who may not hold tRFL. -/
def assert_valid_lp_owner [NamedAddresses] (owner : Address) : Move Unit := do
  let excluded ← reflection_token.primary_store_is_excluded owner
  Tx.require
    (owner ≠ .zero
      ∧ owner ≠ reflection_core
      ∧ owner ≠ test_assets
      ∧ owner ≠ test_amm
      ∧ excluded = false)
    E_INVALID_LP_OWNER

/-- A deadline counts as met in its own second. -/
def assert_deadline (deadline : ℕ) : Move Unit := do
  let now ← Tx.gets (fun w : World => w.now_seconds)
  Tx.require (now ≤ deadline) E_DEADLINE

/-- An input is bounded twice: in units, and as a part of the reserve it comes to. -/
def assert_swap_bounds (amount : ℕ) (is_sell : Bool) (state : PoolState) : Move Unit := do
  Tx.require (0 < amount) E_ZERO_AMOUNT
  Tx.require (amount ≤ FIXED_MAX_GROSS_SWAP) E_MAX_SWAP
  let before ← reserves state
  let reserve := if is_sell = true then before.1 else before.2
  Tx.require (0 < reserve) E_MAX_RESERVE_PERCENT
  let scaled_amount ← u128 (amount * BPS_DENOMINATOR)
  let scaled_reserve ← u128 (reserve * FIXED_MAX_RESERVE_BPS)
  Tx.require (scaled_amount ≤ scaled_reserve) E_MAX_RESERVE_PERCENT

/-- A swap takes no more than a fifth of the reserve it draws on. -/
def assert_reserve_output_cap (output reserve_out : ℕ) : Move Unit := do
  let scaled_output ← u128 (output * BPS_DENOMINATOR)
  let scaled_reserve ← u128 (reserve_out * FIXED_MAX_RESERVE_BPS)
  Tx.require (scaled_output ≤ scaled_reserve) E_MAX_RESERVE_PERCENT

/-! ### Checkpoints -/

/-- The reward that the reserve has earned in the core goes to the epoch, before and
after whatever changes the reserve. -/
def checkpoint_active (state : PoolState) : Move Unit := do
  lp_rewards.assert_active_epoch_healthy state.lp_cap
  let vault ← lp_rewards.active_reward_vault
  let amount ← reflection_token.route_custody_rewards state.custody_cap state.rfl_reserve 1 vault
  if 0 < amount then lp_rewards.receive_routed_reward state.lp_cap amount else pure ()
  lp_rewards.assert_epoch_backing state.lp_cap 1
  reflection_token.assert_accounting_backing

/-- Materializes every whole LP reward to the owner's exact primary store. -/
def materialize_lp_rewards [NamedAddresses] (state : PoolState) (owner : Address) :
    Move Unit := do
  let pending ← lp_rewards.pending_rewards 1 owner
  if pending = 0 then pure ()
  else do
    let claimed ← lp_rewards.prepare_claim state.lp_cap 1 owner pending
    let vault ← lp_rewards.reward_vault 1
    reflection_token.payout_lp_reward_to state.custody_cap owner 1 vault claimed
    lp_rewards.assert_epoch_backing state.lp_cap 1
    reflection_token.assert_accounting_backing

/-! ### Launch -/

/-- Source-bound one-shot launch: all capability handoffs, both reserve seeds,
initial LP ownership and the core launch seal. -/
def launch [NamedAddresses]
    (core_publisher assets_publisher amm_publisher bootstrap : Address) : Move Unit := do
  let existing ← Tx.gets (fun w : World => w.pool)
  Tx.require (existing.isNone = true) E_ALREADY_INITIALIZED
  Tx.require (amm_publisher = test_amm) E_WRONG_AMM_ADDRESS
  Tx.require (assets_publisher = test_assets) E_WRONG_ASSETS_ADDRESS
  Tx.require (bootstrap = bootstrap_lp) E_WRONG_BOOTSTRAP_LP
  let rfl_reserve := .rfl_reserve
  let usd_reserve := .usd_reserve
  let lp_reward_vault := .lp_reward_vault
  let settlement_cap ←
    reflection_token.issue_settlement_capability core_publisher amm_publisher
  let custody_cap ← reflection_token.register_canonical_custody core_publisher amm_publisher
    rfl_reserve lp_reward_vault
  let lp_cap ← lp_rewards.initialize_epochs amm_publisher lp_reward_vault
  let usd_pool_cap ← mock_usd.issue_pool_settlement_capability assets_publisher amm_publisher
    usd_reserve
  test_faucet.initialize_faucet core_publisher assets_publisher
  reflection_token.bind_protocol_exclusions core_publisher
  assert_valid_lp_owner bootstrap_lp
  Tx.require
    (reflection_token.INITIAL_POOL_RFL = INITIAL_TRFL_LIQUIDITY
      ∧ mock_usd.FIXED_POOL_BOOTSTRAP = INITIAL_TUSD_LIQUIDITY)
    E_NOT_SEALABLE
  reflection_token.seed_pool_from_distribution custody_cap core_publisher rfl_reserve
    INITIAL_TRFL_LIQUIDITY
  let usd_seeded ← mock_usd.bootstrap_pool_reserve usd_pool_cap usd_reserve
  Tx.require (usd_seeded = INITIAL_TUSD_LIQUIDITY) E_NOT_SEALABLE
  let shares ← reflection_settlement.initial_lp_shares INITIAL_TRFL_LIQUIDITY
    INITIAL_TUSD_LIQUIDITY
  Tx.require (0 < shares) E_NOT_SEALABLE
  lp_rewards.mint_active lp_cap bootstrap_lp shares
  let state : PoolState :=
    { settlement_cap, custody_cap, lp_cap, usd_pool_cap, rfl_reserve, usd_reserve,
      lifecycle := .CONFIGURING }
  Tx.update fun w => { w with pool := some state }
  assert_reserve_custody state
  lp_rewards.assert_active_epoch_healthy state.lp_cap
  lp_rewards.assert_epoch_backing state.lp_cap 1
  let reserve ← reserves state
  Tx.require (reserve.1 = INITIAL_TRFL_LIQUIDITY ∧ reserve.2 = INITIAL_TUSD_LIQUIDITY)
    E_NOT_SEALABLE
  reflection_token.seal_launch core_publisher assets_publisher amm_publisher
  Tx.update fun w => { w with pool := some { state with lifecycle := .LIVE } }
  let reflection_fee_bps ← reflection_token.reflection_fee_bps
  emit (.LaunchSealed reflection_fee_bps FIXED_AMM_FEE_BPS FIXED_MAX_RESERVE_BPS
    FIXED_MAX_GROSS_SWAP FIXED_MAX_LIQUIDITY_RFL FIXED_MAX_LIQUIDITY_USD
    FIXED_MAX_WITHDRAWAL_SHARE_BPS test_faucet.FIXED_TRFL_GRANT test_faucet.FIXED_TUSD_GRANT
    test_faucet.FIXED_COOLDOWN_SECONDS bootstrap_lp rfl_reserve usd_reserve lp_reward_vault
    INITIAL_TRFL_LIQUIDITY INITIAL_TUSD_LIQUIDITY shares)
  emit (.PoolLifecycleChanged .CONFIGURING .LIVE)
  emit (.LiquiditySeeded 1 bootstrap_lp INITIAL_TRFL_LIQUIDITY INITIAL_TUSD_LIQUIDITY shares
    reserve.1 reserve.2)

/-! ### Liquidity -/

/-- Shares are minted for the largest amounts that fit both maxima in the reserves'
proportion; the rewards due are paid at the old weight first. -/
def add_liquidity [NamedAddresses] (provider : Address)
    (max_rfl max_usd min_lp_shares deadline_seconds : ℕ) : Move Unit := do
  assert_deadline deadline_seconds
  Tx.require (0 < max_rfl ∧ 0 < max_usd) E_ZERO_AMOUNT
  let state ← borrow_state
  assert_pool_live state
  assert_valid_lp_owner provider
  checkpoint_active state
  materialize_lp_rewards state provider
  let reserve ← reserves state
  let total_shares ← lp_rewards.total_active_shares
  Tx.require (0 < reserve.1 ∧ 0 < reserve.2 ∧ 0 < total_shares) E_INSUFFICIENT_LIQUIDITY
  let minted ← reflection_settlement.liquidity_mint max_rfl max_usd reserve.1 reserve.2
    total_shares
  let shares := minted.1
  let rfl_used := minted.2.1
  let usd_used := minted.2.2
  Tx.require (rfl_used ≤ FIXED_MAX_LIQUIDITY_RFL ∧ usd_used ≤ FIXED_MAX_LIQUIDITY_USD)
    E_MAX_LIQUIDITY_CONTRIBUTION
  Tx.require (0 < shares ∧ min_lp_shares ≤ shares ∧ 0 < rfl_used ∧ 0 < usd_used) E_MIN_OUTPUT
  Tx.require (rfl_used ≤ max_rfl ∧ usd_used ≤ max_usd) E_NOT_PROPORTIONAL
  reflection_token.move_wallet_to_custody state.custody_cap provider state.rfl_reserve rfl_used
  let usd ← primary_fungible_store.withdraw provider .tusd usd_used
  mock_usd.deposit_to_pool state.usd_pool_cap state.usd_reserve usd
  lp_rewards.mint_active state.lp_cap provider shares
  lp_rewards.assert_epoch_backing state.lp_cap 1
  assert_reserve_custody state
  let after ← reserves state
  emit (.LiquidityAdded 1 provider rfl_used usd_used shares after.1 after.2)

/-- Shares are burned for their part of both reserves. The last of them take all that is
left, and close the pool for good. -/
def remove_liquidity [NamedAddresses] (provider : Address)
    (shares min_rfl_output min_usd_output deadline_seconds : ℕ) : Move Unit := do
  assert_deadline deadline_seconds
  Tx.require (0 < shares) E_ZERO_AMOUNT
  let state ← borrow_state
  assert_pool_live state
  checkpoint_active state
  let owned ← lp_rewards.position_shares 1 provider
  Tx.require (shares ≤ owned) E_INSUFFICIENT_LIQUIDITY
  materialize_lp_rewards state provider
  let total_shares ← lp_rewards.total_active_shares
  let reserve ← reserves state
  let out ←
    if shares = total_shares then pure reserve
    else reflection_settlement.liquidity_withdrawal shares total_shares reserve.1 reserve.2
  let rfl_out := out.1
  let usd_out := out.2
  Tx.require (0 < rfl_out ∧ 0 < usd_out) E_ZERO_AMOUNT
  Tx.require (min_rfl_output ≤ rfl_out ∧ min_usd_output ≤ usd_out) E_MIN_OUTPUT
  lp_rewards.burn_active state.lp_cap provider shares
  reflection_token.move_custody_to_wallet state.custody_cap state.rfl_reserve provider rfl_out
  let usd ← mock_usd.withdraw_from_pool state.usd_pool_cap state.usd_reserve usd_out
  primary_fungible_store.deposit provider usd
  assert_reserve_custody state
  let after ← reserves state
  lp_rewards.assert_epoch_backing state.lp_cap 1
  if shares = total_shares then do
    let pending ← reflection_token.pool_pending_rewards
    Tx.require (after.1 = 0 ∧ after.2 = 0 ∧ pending = 0) E_RESERVE_CUSTODY_MISMATCH
    lp_rewards.mark_active_claim_only state.lp_cap
    reflection_token.close_pool state.custody_cap
    Tx.update fun w => { w with pool := some { state with lifecycle := .CLOSED } }
    emit (.PoolLifecycleChanged .LIVE .CLOSED)
    emit (.PoolClosed provider 1 shares rfl_out usd_out after.1 after.2)
  else pure ()
  emit (.LiquidityRemoved 1 provider rfl_out usd_out shares (decide (shares = total_shares))
    after.1 after.2)

/-- Account-bound transfer: both endpoints receive every whole LP reward at the
old weights before those weights change. -/
def transfer_lp_shares [NamedAddresses] (sender recipient : Address) (shares : ℕ) :
    Move Unit := do
  Tx.require (0 < shares ∧ recipient ≠ sender) E_INVALID_RECIPIENT
  let state ← borrow_state
  assert_pool_live state
  assert_valid_lp_owner recipient
  checkpoint_active state
  materialize_lp_rewards state sender
  materialize_lp_rewards state recipient
  lp_rewards.transfer_active state.lp_cap sender recipient shares
  lp_rewards.assert_epoch_backing state.lp_cap 1
  reflection_token.assert_accounting_backing

/-- `amount = 0` claims every whole reward currently pending. -/
def claim_lp_rewards [NamedAddresses] (owner : Address) (epoch amount : ℕ) : Move Unit := do
  let state ← borrow_state
  if state.lifecycle = .LIVE ∧ epoch = 1 then checkpoint_active state else pure ()
  let claimed ← lp_rewards.prepare_claim state.lp_cap epoch owner amount
  let vault ← lp_rewards.reward_vault epoch
  reflection_token.payout_lp_reward_to state.custody_cap owner epoch vault claimed
  lp_rewards.assert_epoch_backing state.lp_cap epoch
  reflection_token.assert_accounting_backing

/-- Permissionless accounting checkpoint; the caller plays no part. -/
def checkpoint_lp_rewards : Move Unit := do
  let state ← borrow_state
  assert_pool_live state
  checkpoint_active state

/-! ### Swaps -/

/-- The fee is taken of the input, by the core, which settles the seller's side; the pool
pays tUSD for the rest. -/
def sell_trfl [NamedAddresses] (seller : Address)
    (gross_trfl_input min_tusd_output deadline_seconds : ℕ) : Move Unit := do
  assert_deadline deadline_seconds
  let state ← borrow_state
  assert_pool_live state
  checkpoint_active state
  assert_swap_bounds gross_trfl_input true state
  let before ← reserves state
  let reflection_fee ← reflection_token.fee_for gross_trfl_input
  let net_input ← sub .pool gross_trfl_input reflection_fee
  let quote ← reflection_settlement.constant_product_output before.1 before.2 net_input
    FIXED_AMM_FEE_BPS
  let gross_output := quote.1
  let amm_fee := quote.2
  assert_reserve_output_cap gross_output before.2
  Tx.require (0 < gross_output ∧ min_tusd_output ≤ gross_output) E_MIN_OUTPUT
  let settled ← reflection_token.settle_sell state.settlement_cap seller state.rfl_reserve
    gross_trfl_input
  Tx.require (settled.1 = net_input ∧ settled.2 = reflection_fee) E_INSUFFICIENT_LIQUIDITY
  checkpoint_active state
  let pending ← reflection_token.pool_pending_rewards
  Tx.require (pending = 0) E_RESERVE_CUSTODY_MISMATCH
  let usd ← mock_usd.withdraw_from_pool state.usd_pool_cap state.usd_reserve gross_output
  primary_fungible_store.deposit seller usd
  assert_reserve_custody state
  let reserve ← reserves state
  emit (.SwapExecuted seller true gross_trfl_input reflection_fee amm_fee gross_output
    gross_output reserve.1 reserve.2)

/-- The fee is taken of the output, by the core, which settles the buyer's side; the pool
is paid in tUSD first. -/
def buy_trfl [NamedAddresses] (buyer : Address)
    (tusd_input min_net_trfl_output deadline_seconds : ℕ) : Move Unit := do
  assert_deadline deadline_seconds
  let state ← borrow_state
  assert_pool_live state
  checkpoint_active state
  assert_swap_bounds tusd_input false state
  let before ← reserves state
  let quote ← reflection_settlement.constant_product_output before.2 before.1 tusd_input
    FIXED_AMM_FEE_BPS
  let gross_output := quote.1
  let amm_fee := quote.2
  assert_reserve_output_cap gross_output before.1
  let reflection_fee ← reflection_token.fee_for gross_output
  let net_output ← sub .pool gross_output reflection_fee
  Tx.require (0 < net_output ∧ min_net_trfl_output ≤ net_output) E_MIN_OUTPUT
  let usd ← primary_fungible_store.withdraw buyer .tusd tusd_input
  mock_usd.deposit_to_pool state.usd_pool_cap state.usd_reserve usd
  let settled ← reflection_token.settle_buy state.settlement_cap buyer state.rfl_reserve
    gross_output
  Tx.require (settled.1 = net_output ∧ settled.2 = reflection_fee) E_INSUFFICIENT_LIQUIDITY
  checkpoint_active state
  let pending ← reflection_token.pool_pending_rewards
  Tx.require (pending = 0) E_RESERVE_CUSTODY_MISMATCH
  assert_reserve_custody state
  let reserve ← reserves state
  emit (.SwapExecuted buyer false tusd_input reflection_fee amm_fee gross_output net_output
    reserve.1 reserve.2)

end CedraReflect.pool
