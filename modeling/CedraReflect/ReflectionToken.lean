/-
`reflection_token.move` and `custody_registry.move`: fixed-supply tRFL and
vault-backed O(1) reflection accounting.

Every function keeps its name, the order of its assertions and the order of its
writes. A `&ReflectionState`, `&mut ReflectionState` or `CustodyAccounting`
argument is the resource in the state, so it is not passed; a `&signer` is its
address. `reflection_registry.move` only stores constants that no function
reads, and is left out.
-/
import CedraReflect.FungibleAsset

set_option autoImplicit false
set_option linter.constructorNameAsVariable false

namespace CedraReflect

open NamedAddresses

/-! ## `custody_registry` -/

namespace custody_registry

def E_ALREADY_REGISTERED : Abort := .code .custody_registry 1
def E_NOT_CORE_ADMIN : Abort := .code .custody_registry 2
def E_INVALID_CAPABILITY : Abort := .code .custody_registry 3
def E_INVALID_RESERVE : Abort := .code .custody_registry 4
def E_INVALID_ACTIVE_VAULT : Abort := .code .custody_registry 5
def E_UNAPPROVED_VAULT : Abort := .code .custody_registry 6

/-- `borrow_global<CustodyRegistry>(@reflection_core)`. -/
def borrow_registry : Move CustodyRegistry := do
  let registry ← Tx.gets (fun w : World => w.custody_registry)
  Tx.expect registry (.missing .custody_registry)

def register [NamedAddresses] (admin reserve lp_vault : Address) :
    Move CustodySettlementCapability := do
  Tx.require (admin = reflection_core) E_NOT_CORE_ADMIN
  let registry ← Tx.gets (fun w : World => w.custody_registry)
  Tx.require (registry.isNone = true) E_ALREADY_REGISTERED
  let registry : CustodyRegistry :=
    { adapter_id := 1
      reserve_store := reserve
      active_epoch := 1
      active_lp_vault := lp_vault
      approved_lp_vaults := (∅ : Table Address ℕ).insert lp_vault 1 }
  Tx.update fun w => { w with custody_registry := some registry }
  pure ⟨1, reserve, 1⟩

def assert_capability (cap : CustodySettlementCapability) : Move Unit := do
  let registry ← borrow_registry
  Tx.require
    (cap.nonce = 1
      ∧ cap.adapter_id = registry.adapter_id
      ∧ cap.reserve_store = registry.reserve_store)
    E_INVALID_CAPABILITY

def assert_active_route (cap : CustodySettlementCapability) (reserve : Address) (epoch : ℕ)
    (lp_vault : Address) : Move Unit := do
  assert_capability cap
  let registry ← borrow_registry
  Tx.require (reserve = registry.reserve_store) E_INVALID_RESERVE
  Tx.require (epoch = registry.active_epoch) E_INVALID_ACTIVE_VAULT
  Tx.require (lp_vault = registry.active_lp_vault) E_INVALID_ACTIVE_VAULT

def assert_claim_vault (cap : CustodySettlementCapability) (epoch : ℕ) (lp_vault : Address) :
    Move Unit := do
  assert_capability cap
  let registry ← borrow_registry
  Tx.require (lp_vault ∈ registry.approved_lp_vaults) E_UNAPPROVED_VAULT
  let approved ← Tx.expect (registry.approved_lp_vaults.lookup lp_vault)
    (.missing .custody_registry)
  Tx.require (approved = epoch) E_UNAPPROVED_VAULT

def assert_reserve (cap : CustodySettlementCapability) (reserve : Address) : Move Unit := do
  assert_capability cap
  let registry ← borrow_registry
  Tx.require (reserve = registry.reserve_store) E_INVALID_RESERVE

end custody_registry

namespace reflection_token

open reflection_math (MAGNITUDE add_unsigned subtract_unsigned apply checked_subtract)
open fungible_asset (withdraw_with_ref deposit_with_ref transfer_with_ref extract
  set_frozen_flag)

def E_ALREADY_INITIALIZED : Abort := .code .reflection_token 1
def E_NOT_ADMIN : Abort := .code .reflection_token 2
def E_NOT_CANONICAL_POOL : Abort := .code .reflection_token 3
def E_CAPABILITY_ALREADY_ISSUED : Abort := .code .reflection_token 4
def E_FEE_TOO_HIGH : Abort := .code .reflection_token 7
def E_DIRECT_EXCLUDED_STORE_DEPOSIT : Abort := .code .reflection_token 8
def E_INSUFFICIENT_EFFECTIVE_BALANCE : Abort := .code .reflection_token 9
def E_ZERO_AMOUNT : Abort := .code .reflection_token 10
def E_POOL_ALREADY_REGISTERED : Abort := .code .reflection_token 11
def E_NO_POOL : Abort := .code .reflection_token 12
def E_INVALID_CAP : Abort := .code .reflection_token 13
def E_CLAIM_EXCEEDS_PENDING : Abort := .code .reflection_token 14
def E_EXCLUDED_RECIPIENT : Abort := .code .reflection_token 15
def E_CUSTODY_ALREADY_REGISTERED : Abort := .code .reflection_token 21
def E_STORE_NOT_EMPTY : Abort := .code .reflection_token 22
def E_CUSTODY_SHARE_MISMATCH : Abort := .code .reflection_token 23
def E_UNREGISTERED_WALLET : Abort := .code .reflection_token 25
def E_UNSUPPORTED_STORE : Abort := .code .reflection_token 26
def E_STORE_ALREADY_CLASSIFIED : Abort := .code .reflection_token 30
def E_NOT_CUSTODY_STORE_OWNER : Abort := .code .reflection_token 31
def E_PROTOCOL_EXCLUSIONS_CLOSED : Abort := .code .reflection_token 33
def E_NOT_CONFIGURING : Abort := .code .reflection_token 34
def E_NOT_LIVE : Abort := .code .reflection_token 35
def E_NOT_SEALABLE : Abort := .code .reflection_token 36
def E_POOL_NOT_EMPTY : Abort := .code .reflection_token 38
def E_INVALID_SEED : Abort := .code .reflection_token 39

def MAX_FEE_BPS : ℕ := 500
def BPS_DENOMINATOR : ℕ := 10_000
def SCHEMA_VERSION : ℕ := 2
def RELEASE_MAJOR : ℕ := 0
def RELEASE_MINOR : ℕ := 2
def RELEASE_PATCH : ℕ := 0
def TOTAL_SUPPLY : ℕ := 1_000_000_000_000_000
def INITIAL_POOL_RFL : ℕ := 500_000_000
def TOKEN_DECIMALS : ℕ := 6
def DEPLOYMENT_ID : String := "reflection-pilot-002"
def NETWORK_LABEL : String := "cedra-testnet"

abbrev u64 (n : ℕ) : Move ℕ := checked .reflection_token 64 n
abbrev u128 (n : ℕ) : Move ℕ := checked .reflection_token 128 n
abbrev u256 (n : ℕ) : Move ℕ := checked .reflection_token 256 n

/-- Writes to `ReflectionState`. -/
def modify_state (f : ReflectionState → ReflectionState) : Move Unit :=
  Tx.update fun w => { w with reflection := f w.reflection }

/-- Writes to `CustodyAccounting`. -/
def modify_custody (f : CustodyAccounting → CustodyAccounting) : Move Unit :=
  Tx.update fun w => { w with custody := f w.custody }

def borrow_state : Move ReflectionState := Tx.gets (fun w => w.reflection)

def borrow_custody : Move CustodyAccounting := Tx.gets (fun w => w.custody)

/-- `primary_store_address_inlined(account, state.metadata)`, also the store
that `ensure_primary_store_exists` returns. -/
abbrev primary_store (account : Address) : Address := .primary .trfl account

/-! ### Guards -/

def assert_core_publisher [NamedAddresses] (admin : Address) : Move Unit :=
  Tx.require (admin = reflection_core) E_NOT_ADMIN

def assert_configuring : Move Unit := do
  let state ← borrow_state
  Tx.require (state.lifecycle = .CONFIGURING) E_NOT_CONFIGURING

def assert_live : Move Unit := do
  let state ← borrow_state
  Tx.require (state.lifecycle = .LIVE) E_NOT_LIVE

def assert_token_transferable : Move Unit := do
  let state ← borrow_state
  Tx.require (state.lifecycle = .LIVE ∨ state.lifecycle = .CLOSED) E_NOT_LIVE

def assert_pool (pool_store : Address) : Move Unit := do
  let state ← borrow_state
  Tx.require (state.pool_registered = true) E_NO_POOL
  Tx.require (pool_store = state.pool_store) E_NOT_CANONICAL_POOL

def is_excluded_store (state : ReflectionState) (store : Address) : Bool :=
  (state.exclusions.lookup store).getD false

def is_registered_wallet (custody : CustodyAccounting) (account : Address) : Bool :=
  (custody.registered_wallets.lookup account).getD false

def is_eligible_wallet_store [NamedAddresses] (state : ReflectionState)
    (custody : CustodyAccounting) (store : Address) : Bool :=
  !is_excluded_store state store
    && is_registered_wallet custody store.owner
    && decide (store = primary_store store.owner)

def assert_registered_wallet (account : Address) : Move Unit := do
  let custody ← borrow_custody
  Tx.require (is_registered_wallet custody account = true) E_UNREGISTERED_WALLET

def assert_eligible_primary_store [NamedAddresses] (store : Address) : Move Unit := do
  let state ← borrow_state
  Tx.require (is_excluded_store state store = false) E_EXCLUDED_RECIPIENT
  assert_registered_wallet store.owner

/-! ### Registration -/

def ensure_registered_wallet (account primary_store : Address) : Move Unit := do
  let custody ← borrow_custody
  if account ∈ custody.registered_wallets then pure ()
  else do
    let count ← u64 (custody.registered_wallet_count + 1)
    modify_custody fun custody =>
      { custody with
        registered_wallets := custody.registered_wallets.insert account true
        registered_wallet_count := count }
    emit (.WalletRegistered account primary_store count)

/-- Registration never retroactively turns an already-funded store into reward
shares. -/
def ensure_registered_wallet_for_store (account store : Address) : Move Unit := do
  let custody ← borrow_custody
  if is_registered_wallet custody account = true then pure ()
  else do
    let raw ← fungible_asset.balance store
    Tx.require (raw = 0) E_UNREGISTERED_WALLET
    ensure_registered_wallet account store

def ensure_position (account : Address) : Move Unit := do
  let state ← borrow_state
  if account ∈ state.positions then pure ()
  else do
    modify_state fun state =>
      { state with positions := state.positions.insert account ⟨reflection_math.zero, 0⟩ }
    emit (.PositionCreated account)

/-- `table::borrow(&state.positions, account)`. -/
def borrow_position (account : Address) : Move Position := do
  let state ← borrow_state
  Tx.expect (state.positions.lookup account) (.missing .reflection_token)

/-! ### Share moves -/

def add_raw_shares (account : Address) (amount : ℕ) : Move Unit :=
  if amount = 0 then pure ()
  else do
    ensure_position account
    let state ← borrow_state
    let correction_delta ← u256 (amount * state.index)
    let position ← borrow_position account
    let correction ← subtract_unsigned position.correction correction_delta
    modify_state fun state =>
      { state with positions := state.positions.insert account { position with correction } }
    let aggregate_correction ← subtract_unsigned state.aggregate_correction correction_delta
    let total_shares ← u128 (state.total_shares + amount)
    modify_state fun state => { state with aggregate_correction, total_shares }

def remove_raw_shares (account : Address) (amount : ℕ) : Move Unit :=
  if amount = 0 then pure ()
  else do
    ensure_position account
    let state ← borrow_state
    let correction_delta ← u256 (amount * state.index)
    let position ← borrow_position account
    let correction ← add_unsigned position.correction correction_delta
    modify_state fun state =>
      { state with positions := state.positions.insert account { position with correction } }
    let aggregate_correction ← add_unsigned state.aggregate_correction correction_delta
    let total_shares ← sub .reflection_token state.total_shares amount
    modify_state fun state => { state with aggregate_correction, total_shares }

def add_custody_shares (amount : ℕ) : Move Unit :=
  if amount = 0 then pure ()
  else do
    let state ← borrow_state
    let custody ← borrow_custody
    let correction_delta ← u256 (amount * state.index)
    let correction ← subtract_unsigned custody.pool_position.correction correction_delta
    let aggregate_correction ← subtract_unsigned state.aggregate_correction correction_delta
    let custody_shares ← u128 (custody.custody_shares + amount)
    let total_shares ← u128 (state.total_shares + amount)
    modify_custody fun custody =>
      { custody with pool_position := { custody.pool_position with correction }, custody_shares }
    modify_state fun state => { state with aggregate_correction, total_shares }
    emit (.CustodySharesChanged true amount custody_shares total_shares)

def remove_custody_shares (amount : ℕ) : Move Unit :=
  if amount = 0 then pure ()
  else do
    let state ← borrow_state
    let custody ← borrow_custody
    Tx.require (amount ≤ custody.custody_shares) E_CUSTODY_SHARE_MISMATCH
    let correction_delta ← u256 (amount * state.index)
    let correction ← add_unsigned custody.pool_position.correction correction_delta
    let aggregate_correction ← add_unsigned state.aggregate_correction correction_delta
    let custody_shares ← sub .reflection_token custody.custody_shares amount
    let total_shares ← sub .reflection_token state.total_shares amount
    modify_custody fun custody =>
      { custody with pool_position := { custody.pool_position with correction }, custody_shares }
    modify_state fun state => { state with aggregate_correction, total_shares }
    emit (.CustodySharesChanged false amount custody_shares total_shares)

/-! ### Reading the accounting -/

def custody_pending_for_store (store : Address) : Move ℕ := do
  let state ← borrow_state
  let custody ← borrow_custody
  if custody.registered = false then pure 0
  else do
    let raw ← fungible_asset.balance store
    Tx.require (raw = custody.custody_shares) E_CUSTODY_SHARE_MISMATCH
    let base ← u256 (custody.custody_shares * state.index)
    let magnified ← apply base custody.pool_position.correction
    let entitled := magnified / MAGNITUDE
    let pending ← checked_subtract entitled custody.pool_position.claimed
    narrow .reflection_token 64 pending

def assert_custody_matches_raw (store : Address) : Move Unit := do
  let custody ← borrow_custody
  let raw ← fungible_asset.balance store
  Tx.require (raw = custody.custody_shares) E_CUSTODY_SHARE_MISMATCH

def aggregate_liability : Move ℕ := do
  let state ← borrow_state
  let custody ← borrow_custody
  let base ← u256 (state.total_shares * state.index)
  let magnified ← apply base state.aggregate_correction
  let gross_entitlement := magnified / MAGNITUDE
  let settled ← u256 (state.lifetime_materialized + custody.lifetime_custody_routed)
  checked_subtract gross_entitlement settled

def recompute_rounding_reserve : Move Unit := do
  let vault_balance ← fungible_asset.balance .reward_vault
  let liability ← aggregate_liability
  let state ← borrow_state
  let named ← u256 (liability + state.unallocated_fees)
  Tx.require (named ≤ vault_balance) E_CUSTODY_SHARE_MISMATCH
  let rounding_reserve ← narrow .reflection_token 128 (vault_balance - named)
  modify_custody fun custody => { custody with rounding_reserve }

def claimable_for_store (account store : Address) : Move ℕ := do
  let state ← borrow_state
  if account ∉ state.positions then pure 0
  else do
    let raw ← fungible_asset.balance store
    let position ← borrow_position account
    let base ← u256 (raw * state.index)
    let magnified ← apply base position.correction
    let entitled := magnified / MAGNITUDE
    let pending ← checked_subtract entitled position.claimed
    narrow .reflection_token 64 pending

/-- `core_vault_partition`'s two identities. -/
def assert_accounting_backing : Move Unit := do
  let state ← borrow_state
  let custody ← borrow_custody
  let vault ← fungible_asset.balance .reward_vault
  let liability ← aggregate_liability
  let named ← u256 (liability + state.unallocated_fees)
  let named ← u256 (named + custody.rounding_reserve)
  Tx.require (vault = named) E_CUSTODY_SHARE_MISMATCH
  let settled ← u256 (state.lifetime_materialized + custody.lifetime_custody_routed)
  Tx.require
    (settled ≤ state.lifetime_fees
      ∧ vault = state.lifetime_fees - state.lifetime_materialized
          - custody.lifetime_custody_routed)
    E_CUSTODY_SHARE_MISMATCH

/-! ### Materialization -/

/-- Materialises an exact positive portion of the pending reward: correction
and claimed first, then exactly that amount out of the reward vault. -/
def materialize_to_store (account store : Address) (amount : ℕ) (explicit_claim : Bool)
    (trigger : Trigger) : Move ℕ := do
  let pending ← claimable_for_store account store
  Tx.require (0 < amount ∧ amount ≤ pending) E_CLAIM_EXCEEDS_PENDING
  let state ← borrow_state
  let correction_delta ← u256 (amount * state.index)
  let position ← borrow_position account
  let claimed ← u256 (position.claimed + amount)
  let correction ← subtract_unsigned position.correction correction_delta
  modify_state fun state =>
    { state with positions := state.positions.insert account { correction, claimed } }
  let aggregate_correction ← subtract_unsigned state.aggregate_correction correction_delta
  let total_shares ← u128 (state.total_shares + amount)
  let lifetime_materialized ← u256 (state.lifetime_materialized + amount)
  modify_state fun state =>
    { state with aggregate_correction, total_shares, lifetime_materialized }
  let asset ← withdraw_with_ref .trfl .reward_vault amount
  deposit_with_ref .trfl store asset
  emit (.RewardsMaterialized account amount claimed trigger)
  if explicit_claim = true then emit (.RewardsClaimed account amount claimed) else pure ()
  pure amount

/-- Returns the materialised amount, all that is pending. -/
def materialize_all_to_store (account store : Address) (explicit_claim : Bool)
    (trigger : Trigger) : Move ℕ := do
  let state ← borrow_state
  if account ∉ state.positions then pure 0
  else do
    let pending ← claimable_for_store account store
    if pending = 0 then pure 0
    else materialize_to_store account store pending explicit_claim trigger

/-! ### Fees -/

def fee_for (gross : ℕ) : Move ℕ := do
  let state ← borrow_state
  let product ← u128 (gross * state.fee_bps)
  narrow .reflection_token 64 (product / BPS_DENOMINATOR)

/-- The physical fee must already be in the reward vault. A carried numerator
remainder ensures no global division dust disappears. -/
def advance_index (account : Address) (gross fee kind : ℕ) : Move Unit := do
  let state ← borrow_state
  let lifetime_fees ← u256 (state.lifetime_fees + fee)
  modify_state fun state => { state with lifetime_fees }
  emit (.ReflectionFeeCollected account gross fee state.fee_bps kind)
  if state.total_shares = 0 then do
    let unallocated_fees ← u128 (state.unallocated_fees + fee)
    modify_state fun state => { state with unallocated_fees }
    recompute_rounding_reserve
  else do
    let scaled ← u256 (fee * MAGNITUDE)
    let numerator ← u256 (scaled + state.index_remainder)
    let shares := state.total_shares
    let quotient ← div .reflection_token numerator shares
    let index ← u256 (state.index + quotient)
    let index_remainder ← mod .reflection_token numerator shares
    modify_state fun state => { state with index, index_remainder }
    recompute_rounding_reserve
    emit (.ReflectionIndexAdvanced state.index index index_remainder fee shares)

/-! ### Hooks and wallet entries -/

def withdraw_hook_impl [NamedAddresses] (store : Address) (amount : ℕ) :
    Move FungibleAsset := do
  assert_token_transferable
  let state ← borrow_state
  let custody ← borrow_custody
  if is_eligible_wallet_store state custody store = true then do
    let account := store.owner
    let _ ← materialize_all_to_store account store false .TRANSFER_SEND
    let raw ← fungible_asset.balance store
    Tx.require (amount ≤ raw) E_INSUFFICIENT_EFFECTIVE_BALANCE
    remove_raw_shares account amount
    emit (.EligibleBalanceDebited account amount)
    withdraw_with_ref .trfl store amount
  else do
    Tx.require (is_excluded_store state store = true) E_UNSUPPORTED_STORE
    withdraw_with_ref .trfl store amount

def deposit_hook_impl [NamedAddresses] (store : Address) (asset : FungibleAsset) :
    Move Unit := do
  assert_token_transferable
  let state ← borrow_state
  Tx.require (is_excluded_store state store = false) E_DIRECT_EXCLUDED_STORE_DEPOSIT
  let account := store.owner
  ensure_registered_wallet_for_store account store
  let custody ← borrow_custody
  Tx.require (is_eligible_wallet_store state custody store = true) E_UNSUPPORTED_STORE
  let amount := asset.amount
  let _ ← materialize_all_to_store account store false .TRANSFER_RECEIVE
  deposit_with_ref .trfl store asset
  add_raw_shares account amount
  emit (.EligibleBalanceCredited account amount)

def derived_balance_hook_impl [NamedAddresses] (store : Address) : Move ℕ := do
  let state ← borrow_state
  let custody ← borrow_custody
  let raw ← fungible_asset.balance store
  if is_eligible_wallet_store state custody store = false then pure raw
  else do
    let pending ← claimable_for_store store.owner store
    u64 (raw + pending)

def register_wallet (owner : Address) : Move Unit := do
  assert_token_transferable
  let state ← borrow_state
  let store := primary_store owner
  Tx.require (is_excluded_store state store = false) E_EXCLUDED_RECIPIENT
  ensure_registered_wallet_for_store owner store

def claim (owner : Address) (amount : ℕ) : Move Unit := do
  Tx.require (0 < amount) E_ZERO_AMOUNT
  assert_token_transferable
  assert_registered_wallet owner
  let _ ← materialize_to_store owner (primary_store owner) amount true .MANUAL
  pure ()

def claim_all (owner : Address) : Move Unit := do
  assert_token_transferable
  assert_registered_wallet owner
  let amount ← materialize_all_to_store owner (primary_store owner) true .MANUAL
  Tx.require (0 < amount) E_ZERO_AMOUNT

/-! ### Initialization and launch -/

/-- `table::add(&mut state.exclusions, store, true)`. -/
def add_exclusion (store : Address) : Move Unit := do
  let state ← borrow_state
  Tx.require (store ∉ state.exclusions) (.missing .reflection_token)
  modify_state fun state => { state with exclusions := state.exclusions.insert store true }

/-- `initialize` (a keyword here): the one-time initialization. The whole supply is minted into the excluded
distribution vault. -/
def initialize_token [NamedAddresses] (admin : Address) (reflection_fee_bps : ℕ) : Move Unit := do
  Tx.require (admin = reflection_core) E_NOT_ADMIN
  let published ← Tx.gets (fun w : World => w.published)
  Tx.require (published = false) E_ALREADY_INITIALIZED
  Tx.require (reflection_fee_bps ≤ MAX_FEE_BPS) E_FEE_TOO_HIGH
  set_frozen_flag .trfl .reward_vault
  set_frozen_flag .trfl .distribution_vault
  let supply ← fungible_asset.mint .trfl TOTAL_SUPPLY
  deposit_with_ref .trfl .distribution_vault supply
  let exclusions := (((∅ : Table Address Bool).insert .reward_vault true).insert
    .distribution_vault true).insert (primary_store admin) true
  let state : ReflectionState :=
    { index := 0
      index_remainder := 0
      total_shares := 0
      aggregate_correction := reflection_math.zero
      unallocated_fees := 0
      lifetime_fees := 0
      lifetime_materialized := 0
      fee_bps := reflection_fee_bps
      lifecycle := .CONFIGURING
      positions := ∅
      exclusions
      protocol_exclusions_bound := false
      pool_store := .zero
      pool_registered := false
      settlement_capability_issued := false
      faucet_capability_issued := false }
  let custody : CustodyAccounting :=
    { pool_position := ⟨reflection_math.zero, 0⟩
      custody_shares := 0
      lifetime_custody_routed := 0
      rounding_reserve := 0
      registered_wallets := ∅
      registered_wallet_count := 0
      registered := false }
  Tx.update fun w => { w with published := true, reflection := state, custody }
  emit (.TokenCreated SCHEMA_VERSION RELEASE_MAJOR RELEASE_MINOR RELEASE_PATCH DEPLOYMENT_ID
    NETWORK_LABEL (.metadata .trfl) .reward_vault .distribution_vault reflection_fee_bps
    TOTAL_SUPPLY TOKEN_DECIMALS)

def issue_settlement_capability [NamedAddresses] (admin amm_publisher : Address) :
    Move SettlementCapability := do
  assert_core_publisher admin
  Tx.require (amm_publisher = test_amm) E_NOT_CANONICAL_POOL
  assert_configuring
  let state ← borrow_state
  Tx.require (state.settlement_capability_issued = false) E_CAPABILITY_ALREADY_ISSUED
  modify_state fun state => { state with settlement_capability_issued := true }
  pure ⟨1⟩

def issue_faucet_capability [NamedAddresses] (admin assets_publisher : Address) :
    Move FaucetCapability := do
  assert_core_publisher admin
  Tx.require (assets_publisher = test_assets) E_NOT_CANONICAL_POOL
  assert_configuring
  let state ← borrow_state
  Tx.require (state.faucet_capability_issued = false) E_CAPABILITY_ALREADY_ISSUED
  modify_state fun state => { state with faucet_capability_issued := true }
  pure ⟨1⟩

/-- The custodian co-signs and must own two distinct, empty, previously
unclassified stores. -/
def register_canonical_custody [NamedAddresses]
    (admin custodian pool_store lp_reward_vault : Address) : Move CustodySettlementCapability := do
  assert_core_publisher admin
  assert_configuring
  Tx.require (custodian = test_amm) E_NOT_CANONICAL_POOL
  let state ← borrow_state
  Tx.require (state.pool_registered = false) E_POOL_ALREADY_REGISTERED
  Tx.require (pool_store.store_metadata = some .trfl) E_NOT_CANONICAL_POOL
  Tx.require (lp_reward_vault.store_metadata = some .trfl) E_NOT_CANONICAL_POOL
  Tx.require (pool_store.owner = custodian ∧ lp_reward_vault.owner = custodian)
    E_NOT_CUSTODY_STORE_OWNER
  Tx.require (pool_store ≠ lp_reward_vault) E_STORE_ALREADY_CLASSIFIED
  let pool_raw ← fungible_asset.balance pool_store
  Tx.require (pool_raw = 0) E_STORE_NOT_EMPTY
  let vault_raw ← fungible_asset.balance lp_reward_vault
  Tx.require (vault_raw = 0) E_STORE_NOT_EMPTY
  let custody ← borrow_custody
  Tx.require (custody.registered = false) E_CUSTODY_ALREADY_REGISTERED
  Tx.require
    (is_excluded_store state pool_store = false
      ∧ is_excluded_store state lp_reward_vault = false
      ∧ is_eligible_wallet_store state custody pool_store = false
      ∧ is_eligible_wallet_store state custody lp_reward_vault = false)
    E_STORE_ALREADY_CLASSIFIED
  modify_state fun state => { state with pool_store, pool_registered := true }
  add_exclusion pool_store
  add_exclusion lp_reward_vault
  set_frozen_flag .trfl pool_store
  set_frozen_flag .trfl lp_reward_vault
  modify_custody fun custody => { custody with registered := true }
  emit (reflection_events.custody_adapter_registered pool_store lp_reward_vault)
  custody_registry.register admin pool_store lp_reward_vault

def bind_protocol_exclusion (account : Address) : Move Unit := do
  let custody ← borrow_custody
  Tx.require (is_registered_wallet custody account = false) E_UNREGISTERED_WALLET
  let store := primary_store account
  let state ← borrow_state
  Tx.require (store ∉ state.exclusions) E_STORE_ALREADY_CLASSIFIED
  let raw ← fungible_asset.balance store
  Tx.require (raw = 0) E_STORE_NOT_EMPTY
  add_exclusion store
  emit (.ProtocolPrimaryStoreExcluded account store)

/-- Binds exactly the two source-named companion publishers. -/
def bind_protocol_exclusions [NamedAddresses] (admin : Address) : Move Unit := do
  assert_core_publisher admin
  assert_configuring
  let state ← borrow_state
  Tx.require (state.protocol_exclusions_bound = false) E_PROTOCOL_EXCLUSIONS_CLOSED
  bind_protocol_exclusion test_assets
  bind_protocol_exclusion test_amm
  modify_state fun state => { state with protocol_exclusions_bound := true }

/-- Permanently ends privileged setup. -/
def seal_launch [NamedAddresses] (admin assets_publisher amm_publisher : Address) :
    Move Unit := do
  assert_core_publisher admin
  Tx.require (assets_publisher = test_assets ∧ amm_publisher = test_amm) E_NOT_SEALABLE
  assert_configuring
  let state ← borrow_state
  let custody ← borrow_custody
  Tx.require
    (state.settlement_capability_issued = true
      ∧ state.faucet_capability_issued = true
      ∧ state.pool_registered = true
      ∧ state.protocol_exclusions_bound = true
      ∧ custody.registered = true
      ∧ 0 < custody.custody_shares)
    E_NOT_SEALABLE
  modify_state fun state => { state with lifecycle := .LIVE }
  emit (.CoreLaunchSealed state.fee_bps (.metadata .trfl) .reward_vault .distribution_vault
    state.pool_store)

/-- Bootstrap movement from the pre-minted excluded reserve. -/
def seed_pool_from_distribution [NamedAddresses] (cap : CustodySettlementCapability)
    (admin pool_store : Address) (amount : ℕ) : Move Unit := do
  assert_core_publisher admin
  assert_configuring
  assert_pool pool_store
  custody_registry.assert_reserve cap pool_store
  Tx.require (amount = INITIAL_POOL_RFL) E_INVALID_SEED
  transfer_with_ref .trfl .distribution_vault pool_store amount
  add_custody_shares amount
  assert_custody_matches_raw pool_store

/-- Called by the canonical AMM after the final LP exit. -/
def close_pool (cap : CustodySettlementCapability) : Move Unit := do
  assert_live
  let state ← borrow_state
  custody_registry.assert_reserve cap state.pool_store
  let custody ← borrow_custody
  let raw ← fungible_asset.balance state.pool_store
  Tx.require (custody.custody_shares = 0) E_POOL_NOT_EMPTY
  Tx.require (raw = 0) E_POOL_NOT_EMPTY
  let pending ← custody_pending_for_store state.pool_store
  Tx.require (pending = 0) E_POOL_NOT_EMPTY
  modify_state fun state => { state with lifecycle := .CLOSED }
  emit (.CorePoolClosed state.pool_store)

/-! ### Settlement -/

/-- Faucet-only movement from the distribution reserve to an eligible primary
store. -/
def faucet_grant [NamedAddresses] (cap : FaucetCapability) (recipient : Address) (amount : ℕ)
    (operator : Address) : Move Unit := do
  Tx.require (cap.nonce = 1) E_INVALID_CAP
  Tx.require (0 < amount) E_ZERO_AMOUNT
  assert_live
  let recipient_store := primary_store recipient
  ensure_registered_wallet_for_store recipient recipient_store
  assert_eligible_primary_store recipient_store
  let _ ← materialize_all_to_store recipient recipient_store false .FAUCET
  transfer_with_ref .trfl .distribution_vault recipient_store amount
  add_raw_shares recipient amount
  emit (.FaucetGrant recipient amount operator)

/-- The `if (fee > 0)` block of both settlements: `fee` is split off `asset` into
the reward vault and indexed. Returns what is left of `asset`. -/
def take_fee (asset : FungibleAsset) (account : Address) (gross fee kind : ℕ) :
    Move FungibleAsset :=
  if 0 < fee then do
    let parts ← extract asset fee
    deposit_with_ref .trfl .reward_vault parts.2
    advance_index account gross fee kind
    pure parts.1
  else pure asset

/-- Gross leaves the seller, the fee reaches the reward vault, and only the net
amount reaches the pool reserve. -/
def settle_sell [NamedAddresses] (cap : SettlementCapability) (seller pool_store : Address)
    (gross_input : ℕ) : Move (ℕ × ℕ) := do
  Tx.require (cap.nonce = 1) E_INVALID_CAP
  Tx.require (0 < gross_input) E_ZERO_AMOUNT
  assert_live
  assert_pool pool_store
  let seller_store := primary_store seller
  assert_eligible_primary_store seller_store
  let _ ← materialize_all_to_store seller seller_store false .SELL_PRE
  let raw_after_materialisation ← fungible_asset.balance seller_store
  Tx.require (gross_input ≤ raw_after_materialisation) E_INSUFFICIENT_EFFECTIVE_BALANCE
  let input_asset ← withdraw_with_ref .trfl seller_store gross_input
  remove_raw_shares seller gross_input
  let fee ← fee_for gross_input
  let net_input ← sub .reflection_token gross_input fee
  let input_asset ← take_fee input_asset seller gross_input fee 1
  let _ ← materialize_all_to_store seller seller_store false .SELL_POST
  deposit_with_ref .trfl pool_store input_asset
  add_custody_shares net_input
  assert_custody_matches_raw pool_store
  pure (net_input, fee)

/-- The index advances before net tRFL reaches the buyer, so newly purchased
tRFL cannot receive its own fee. -/
def settle_buy [NamedAddresses] (cap : SettlementCapability) (buyer pool_store : Address)
    (gross_output : ℕ) : Move (ℕ × ℕ) := do
  Tx.require (cap.nonce = 1) E_INVALID_CAP
  Tx.require (0 < gross_output) E_ZERO_AMOUNT
  assert_live
  assert_pool pool_store
  let buyer_store := primary_store buyer
  ensure_registered_wallet_for_store buyer buyer_store
  assert_eligible_primary_store buyer_store
  let _ ← materialize_all_to_store buyer buyer_store false .BUY_PRE
  remove_custody_shares gross_output
  let output_asset ← withdraw_with_ref .trfl pool_store gross_output
  let fee ← fee_for gross_output
  let net_output ← sub .reflection_token gross_output fee
  Tx.require (0 < net_output) E_ZERO_AMOUNT
  let output_asset ← take_fee output_asset buyer gross_output fee 2
  let _ ← materialize_all_to_store buyer buyer_store false .BUY_POST
  deposit_with_ref .trfl buyer_store output_asset
  add_raw_shares buyer net_output
  assert_custody_matches_raw pool_store
  pure (net_output, fee)

/-- Untaxed proportional liquidity input. -/
def move_wallet_to_custody (cap : CustodySettlementCapability) (provider pool_store : Address)
    (amount : ℕ) : Move Unit := do
  Tx.require (0 < amount) E_ZERO_AMOUNT
  assert_live
  assert_pool pool_store
  custody_registry.assert_reserve cap pool_store
  assert_registered_wallet provider
  let provider_store := primary_store provider
  let _ ← materialize_all_to_store provider provider_store false .LIQUIDITY_IN
  let raw ← fungible_asset.balance provider_store
  Tx.require (amount ≤ raw) E_INSUFFICIENT_EFFECTIVE_BALANCE
  let asset ← withdraw_with_ref .trfl provider_store amount
  remove_raw_shares provider amount
  deposit_with_ref .trfl pool_store asset
  add_custody_shares amount
  assert_custody_matches_raw pool_store

/-- Untaxed proportional liquidity output. -/
def move_custody_to_wallet [NamedAddresses] (cap : CustodySettlementCapability)
    (pool_store recipient : Address) (amount : ℕ) : Move Unit := do
  Tx.require (0 < amount) E_ZERO_AMOUNT
  assert_live
  assert_pool pool_store
  custody_registry.assert_reserve cap pool_store
  let recipient_store := primary_store recipient
  ensure_registered_wallet_for_store recipient recipient_store
  assert_eligible_primary_store recipient_store
  let _ ← materialize_all_to_store recipient recipient_store false .LIQUIDITY_OUT
  remove_custody_shares amount
  let asset ← withdraw_with_ref .trfl pool_store amount
  deposit_with_ref .trfl recipient_store asset
  add_raw_shares recipient amount
  assert_custody_matches_raw pool_store

/-- Moves the custody position's whole pending reward into the active LP epoch
vault. It settles one liability and creates another. -/
def route_custody_rewards (cap : CustodySettlementCapability) (pool_store : Address) (epoch : ℕ)
    (lp_reward_vault : Address) : Move ℕ := do
  assert_live
  assert_pool pool_store
  custody_registry.assert_active_route cap pool_store epoch lp_reward_vault
  assert_custody_matches_raw pool_store
  let amount ← custody_pending_for_store pool_store
  if amount = 0 then pure 0
  else do
    let custody ← borrow_custody
    let claimed ← u256 (custody.pool_position.claimed + amount)
    let lifetime_custody_routed ← u256 (custody.lifetime_custody_routed + amount)
    modify_custody fun custody =>
      { custody with
        pool_position := { custody.pool_position with claimed }, lifetime_custody_routed }
    transfer_with_ref .trfl .reward_vault lp_reward_vault amount
    emit (.CustodyRewardsRouted pool_store lp_reward_vault epoch amount claimed)
    pure amount

/-- Payout seam for an LP epoch: the core verifies the vault binding and moves
the exact amount. `payout_lp_reward` is this function at a signer's address. -/
def payout_lp_reward_to [NamedAddresses] (cap : CustodySettlementCapability)
    (claimant_address : Address) (epoch : ℕ) (lp_reward_vault : Address) (amount : ℕ) :
    Move Unit := do
  Tx.require (0 < amount) E_ZERO_AMOUNT
  assert_token_transferable
  custody_registry.assert_claim_vault cap epoch lp_reward_vault
  let claimant_store := primary_store claimant_address
  ensure_registered_wallet_for_store claimant_address claimant_store
  assert_eligible_primary_store claimant_store
  let _ ← materialize_all_to_store claimant_address claimant_store false .LP_PAYOUT
  let asset ← withdraw_with_ref .trfl lp_reward_vault amount
  deposit_with_ref .trfl claimant_store asset
  add_raw_shares claimant_address amount

/-! ### Views -/

def launch_state : Move Lifecycle := do
  let state ← borrow_state
  pure state.lifecycle

def is_sealed : Move Bool := do
  let state ← borrow_state
  pure (decide (state.lifecycle ≠ .CONFIGURING))

def is_closed : Move Bool := do
  let state ← borrow_state
  pure (decide (state.lifecycle = .CLOSED))

def reflection_fee_bps : Move ℕ := do
  let state ← borrow_state
  pure state.fee_bps

def primary_store_is_excluded (account : Address) : Move Bool := do
  let state ← borrow_state
  pure (is_excluded_store state (primary_store account))

def pending_rewards (account : Address) : Move ℕ :=
  claimable_for_store account (primary_store account)

def effective_balance (account : Address) : Move ℕ := do
  let raw ← fungible_asset.balance (primary_store account)
  let pending ← claimable_for_store account (primary_store account)
  u64 (raw + pending)

def pool_pending_rewards : Move ℕ := do
  let state ← borrow_state
  if state.pool_registered = false then pure 0
  else custody_pending_for_store state.pool_store

end reflection_token

end CedraReflect
