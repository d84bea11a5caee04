/-
`lp_rewards.move`: checkpointed LP-share and downstream reflection accounting.

An `&mut LpEpoch` borrowed from the registry is a value here: it is read once,
passed from write to write, and put back before the function returns. Only the
vault balance that `recompute_rounding` reads comes from the state in between,
and no function of this module moves it.
-/
import CedraReflect.ReflectionToken

set_option autoImplicit false
set_option linter.constructorNameAsVariable false

namespace CedraReflect.lp_rewards

open NamedAddresses
open reflection_math (MAGNITUDE add_unsigned subtract_unsigned apply checked_subtract)

def E_ALREADY_INITIALIZED : Abort := .code .lp_rewards 1
def E_WRONG_AMM_ADDRESS : Abort := .code .lp_rewards 2
def E_INVALID_CAPABILITY : Abort := .code .lp_rewards 3
def E_NO_ACTIVE_EPOCH : Abort := .code .lp_rewards 4
def E_EPOCH_NOT_ACTIVE : Abort := .code .lp_rewards 5
def E_EPOCH_NOT_CLAIMABLE : Abort := .code .lp_rewards 6
def E_ZERO_AMOUNT : Abort := .code .lp_rewards 7
def E_INSUFFICIENT_SHARES : Abort := .code .lp_rewards 8
def E_CLAIM_EXCEEDS_PENDING : Abort := .code .lp_rewards 9
def E_ZERO_DENOMINATOR_QUARANTINE : Abort := .code .lp_rewards 10
def E_EPOCH_NOT_EMPTY : Abort := .code .lp_rewards 11
def E_VAULT_ACCOUNTING : Abort := .code .lp_rewards 12
def E_PENDING_AT_POSITION_EXIT : Abort := .code .lp_rewards 14
def E_INVALID_POSITION_RESIDUE : Abort := .code .lp_rewards 15
def E_EPOCH_TERMINAL_ACCOUNTING : Abort := .code .lp_rewards 16

abbrev u128 (n : ℕ) : Move ℕ := checked .lp_rewards 128 n
abbrev u256 (n : ℕ) : Move ℕ := checked .lp_rewards 256 n

/-! ### Borrowing -/

/-- `borrow_global<LpEpochRegistry>(@test_amm)`. -/
def borrow_registry : Move LpEpochRegistry := do
  let registry ← Tx.gets (fun w : World => w.lp_registry)
  Tx.expect registry (.missing .lp_rewards)

/-- `table::borrow(&registry.epochs, epoch_id)`. -/
def borrow_epoch (epoch_id : ℕ) : Move LpEpoch := do
  let registry ← borrow_registry
  Tx.expect (registry.epochs.lookup epoch_id) (.missing .lp_rewards)

/-- `table::borrow(&epoch.positions, owner)`. -/
def borrow_position (epoch : LpEpoch) (owner : Address) : Move LpPosition :=
  Tx.expect (epoch.positions.lookup owner) (.missing .lp_rewards)

/-- The writes made through `table::borrow_mut(&mut registry.epochs, epoch_id)`. -/
def write_epoch (epoch_id : ℕ) (epoch : LpEpoch) : Move Unit := do
  let registry ← borrow_registry
  let registry := { registry with epochs := registry.epochs.insert epoch_id epoch }
  Tx.update fun w => { w with lp_registry := some registry }

/-! ### Guards and reads -/

def assert_cap (cap : LpAccountingCapability) : Move Unit :=
  Tx.require (cap.nonce = 1) E_INVALID_CAPABILITY

def assert_active_mutation (epoch : LpEpoch) : Move Unit := do
  Tx.require (epoch.status = .ACTIVE) E_EPOCH_NOT_ACTIVE
  Tx.require (epoch.quarantined = false) E_ZERO_DENOMINATOR_QUARANTINE

def assert_active_epoch_healthy_internal (epoch : LpEpoch) : Move Unit := do
  Tx.require (epoch.status = .ACTIVE) E_EPOCH_NOT_ACTIVE
  Tx.require (0 < epoch.total_shares) E_ZERO_DENOMINATOR_QUARANTINE
  Tx.require (epoch.quarantined = false) E_ZERO_DENOMINATOR_QUARANTINE

/-- Liveness guard for every active-epoch operation that can move custody
rewards or mutate LP weights. -/
def assert_active_epoch_healthy (cap : LpAccountingCapability) : Move Unit := do
  assert_cap cap
  let registry ← borrow_registry
  Tx.require (0 < registry.active_epoch) E_NO_ACTIVE_EPOCH
  let epoch ← borrow_epoch registry.active_epoch
  assert_active_epoch_healthy_internal epoch

def new_epoch (epoch_id : ℕ) (state_id reward_vault : Address) : LpEpoch where
  epoch_id := epoch_id
  state_id := state_id
  status := .ACTIVE
  reward_vault := reward_vault
  index := 0
  index_remainder := 0
  total_shares := 0
  aggregate_correction := reflection_math.zero
  unallocated_rewards := 0
  rounding_reserve := 0
  terminal_rounding_reserve := 0
  retired_residue_magnified := 0
  lifetime_received := 0
  lifetime_claimed := 0
  quarantined := false
  positions := ∅

def ensure_position (epoch : LpEpoch) (owner : Address) : LpEpoch :=
  if owner ∈ epoch.positions then epoch
  else { epoch with positions := epoch.positions.insert owner ⟨0, reflection_math.zero, 0⟩ }

def pending_for (epoch : LpEpoch) (owner : Address) : Move ℕ :=
  if owner ∉ epoch.positions then pure 0
  else do
    let position ← borrow_position epoch owner
    let base ← u256 (position.shares * epoch.index)
    let magnified ← apply base position.correction
    let entitled := magnified / MAGNITUDE
    let pending ← checked_subtract entitled position.claimed
    narrow .lp_rewards 64 pending

def aggregate_liability (epoch : LpEpoch) : Move ℕ := do
  let base ← u256 (epoch.total_shares * epoch.index)
  let magnified ← apply base epoch.aggregate_correction
  let entitled := magnified / MAGNITUDE
  checked_subtract entitled epoch.lifetime_claimed

def recompute_rounding (epoch : LpEpoch) : Move LpEpoch := do
  let vault_balance ← fungible_asset.balance epoch.reward_vault
  let liability ← aggregate_liability epoch
  let named ← u256 (liability + epoch.unallocated_rewards)
  Tx.require (named ≤ vault_balance) E_VAULT_ACCOUNTING
  let rounding_reserve ← narrow .lp_rewards 128 (vault_balance - named)
  pure { epoch with rounding_reserve }

/-- A zero-share position may retain only the fraction below one base unit after
all whole pending rewards have been paid. It is normalized to `claimed * M` in
both the owner and the aggregate corrections. -/
def normalize_zero_position (epoch : LpEpoch) (owner : Address) : Move LpEpoch := do
  let pending ← pending_for epoch owner
  Tx.require (pending = 0) E_PENDING_AT_POSITION_EXIT
  let position ← borrow_position epoch owner
  let normalized_magnitude ← u256 (position.claimed * MAGNITUDE)
  Tx.require
    (position.correction.negative = false
      ∧ normalized_magnitude ≤ position.correction.magnitude)
    E_INVALID_POSITION_RESIDUE
  let ceiling ← u256 (normalized_magnitude + MAGNITUDE)
  Tx.require (position.correction.magnitude < ceiling) E_INVALID_POSITION_RESIDUE
  let residue_magnified ← sub .lp_rewards position.correction.magnitude normalized_magnitude
  if 0 < residue_magnified then do
    let correction ← subtract_unsigned position.correction residue_magnified
    let aggregate_correction ← subtract_unsigned epoch.aggregate_correction residue_magnified
    let retired_residue_magnified ← u256 (epoch.retired_residue_magnified + residue_magnified)
    let epoch ← recompute_rounding
      { epoch with
        positions := epoch.positions.insert owner { position with correction }
        aggregate_correction, retired_residue_magnified }
    emit (.LpFractionalResidueRetired epoch.epoch_id owner residue_magnified
      epoch.retired_residue_magnified epoch.rounding_reserve)
    pure epoch
  else pure epoch

/-! ### Package entries -/

/-- `initialize` (a keyword here). -/
def initialize_epochs [NamedAddresses] (amm_admin first_reward_vault : Address) :
    Move LpAccountingCapability := do
  Tx.require (amm_admin = test_amm) E_WRONG_AMM_ADDRESS
  let existing ← Tx.gets (fun w : World => w.lp_registry)
  Tx.require (existing.isNone = true) E_ALREADY_INITIALIZED
  let registry : LpEpochRegistry :=
    { active_epoch := 1
      epochs := (∅ : Table ℕ LpEpoch).insert 1 (new_epoch 1 .lp_epoch_state first_reward_vault) }
  Tx.update fun w => { w with lp_registry := some registry }
  emit (.LpEpochOpened 1 .lp_epoch_state first_reward_vault)
  pure ⟨1⟩

/-- The epoch every mutation of active shares or index addresses. -/
def active_epoch_id : Move ℕ := do
  let registry ← borrow_registry
  Tx.require (0 < registry.active_epoch) E_NO_ACTIVE_EPOCH
  pure registry.active_epoch

/-- Accounts for tRFL already moved into the active epoch's frozen vault. -/
def receive_routed_reward (cap : LpAccountingCapability) (amount : ℕ) : Move Unit := do
  assert_cap cap
  Tx.require (0 < amount) E_ZERO_AMOUNT
  let epoch_id ← active_epoch_id
  let epoch ← borrow_epoch epoch_id
  assert_active_mutation epoch
  let lifetime_received ← u256 (epoch.lifetime_received + amount)
  if epoch.total_shares = 0 then do
    let unallocated_rewards ← u128 (epoch.unallocated_rewards + amount)
    let epoch ← recompute_rounding
      { epoch with lifetime_received, unallocated_rewards, quarantined := true }
    write_epoch epoch_id epoch
    emit (.LpRewardQuarantined epoch_id amount epoch.unallocated_rewards epoch.reward_vault)
  else do
    let old_index := epoch.index
    let scaled ← u256 (amount * MAGNITUDE)
    let numerator ← u256 (scaled + epoch.index_remainder)
    let shares := epoch.total_shares
    let quotient ← div .lp_rewards numerator shares
    let index ← u256 (epoch.index + quotient)
    let index_remainder ← mod .lp_rewards numerator shares
    let epoch ← recompute_rounding { epoch with lifetime_received, index, index_remainder }
    write_epoch epoch_id epoch
    emit (.LpRewardIndexAdvanced epoch_id old_index epoch.index epoch.index_remainder amount
      epoch.total_shares epoch.rounding_reserve)

def mint_active (cap : LpAccountingCapability) (owner : Address) (amount : ℕ) : Move Unit := do
  assert_cap cap
  Tx.require (0 < amount) E_ZERO_AMOUNT
  let epoch_id ← active_epoch_id
  let epoch ← borrow_epoch epoch_id
  assert_active_mutation epoch
  if 0 < epoch.total_shares then assert_active_epoch_healthy_internal epoch else pure ()
  let epoch := ensure_position epoch owner
  let delta ← u256 (amount * epoch.index)
  let position ← borrow_position epoch owner
  let shares ← u128 (position.shares + amount)
  let correction ← subtract_unsigned position.correction delta
  let aggregate_correction ← subtract_unsigned epoch.aggregate_correction delta
  let total_shares ← u128 (epoch.total_shares + amount)
  write_epoch epoch_id
    { epoch with
      positions := epoch.positions.insert owner { position with shares, correction }
      aggregate_correction, total_shares }
  emit (.LpSharesChanged epoch_id owner true amount shares total_shares)

def burn_active (cap : LpAccountingCapability) (owner : Address) (amount : ℕ) : Move Unit := do
  assert_cap cap
  Tx.require (0 < amount) E_ZERO_AMOUNT
  let epoch_id ← active_epoch_id
  let epoch ← borrow_epoch epoch_id
  assert_active_epoch_healthy_internal epoch
  let epoch := ensure_position epoch owner
  let delta ← u256 (amount * epoch.index)
  let position ← borrow_position epoch owner
  Tx.require (amount ≤ position.shares) E_INSUFFICIENT_SHARES
  let shares ← sub .lp_rewards position.shares amount
  let correction ← add_unsigned position.correction delta
  let aggregate_correction ← add_unsigned epoch.aggregate_correction delta
  let total_shares ← sub .lp_rewards epoch.total_shares amount
  let epoch : LpEpoch :=
    { epoch with
      positions := epoch.positions.insert owner { position with shares, correction }
      aggregate_correction, total_shares }
  let epoch ← if shares = 0 then normalize_zero_position epoch owner else pure epoch
  write_epoch epoch_id epoch
  emit (.LpSharesChanged epoch_id owner false amount shares epoch.total_shares)

def transfer_active (cap : LpAccountingCapability) (sender recipient : Address) (amount : ℕ) :
    Move Unit := do
  assert_cap cap
  Tx.require (0 < amount) E_ZERO_AMOUNT
  let epoch_id ← active_epoch_id
  let epoch ← borrow_epoch epoch_id
  assert_active_epoch_healthy_internal epoch
  let epoch := ensure_position (ensure_position epoch sender) recipient
  let delta ← u256 (amount * epoch.index)
  let sender_position ← borrow_position epoch sender
  Tx.require (amount ≤ sender_position.shares) E_INSUFFICIENT_SHARES
  let shares ← sub .lp_rewards sender_position.shares amount
  let correction ← add_unsigned sender_position.correction delta
  let epoch : LpEpoch :=
    { epoch with
      positions := epoch.positions.insert sender { sender_position with shares, correction } }
  let recipient_position ← borrow_position epoch recipient
  let shares ← u128 (recipient_position.shares + amount)
  let correction ← subtract_unsigned recipient_position.correction delta
  let epoch : LpEpoch :=
    { epoch with
      positions :=
        epoch.positions.insert recipient { recipient_position with shares, correction } }
  let sender_position ← borrow_position epoch sender
  let epoch ←
    if sender_position.shares = 0 then normalize_zero_position epoch sender else pure epoch
  write_epoch epoch_id epoch
  emit (.LpSharesTransferred epoch_id sender recipient amount)

/-- Mutates only LP accounting; the caller completes the payout. -/
def prepare_claim (cap : LpAccountingCapability) (epoch_id : ℕ) (owner : Address)
    (requested : ℕ) : Move ℕ := do
  assert_cap cap
  let epoch ← borrow_epoch epoch_id
  Tx.require (epoch.status = .ACTIVE ∨ epoch.status = .CLAIM_ONLY) E_EPOCH_NOT_CLAIMABLE
  if epoch.status = .ACTIVE ∧ epoch.quarantined = false then
    assert_active_epoch_healthy_internal epoch
  else pure ()
  let pending ← pending_for epoch owner
  let amount := if requested = 0 then pending else requested
  Tx.require (0 < amount ∧ amount ≤ pending) E_CLAIM_EXCEEDS_PENDING
  let position ← borrow_position epoch owner
  let claimed ← u256 (position.claimed + amount)
  let lifetime_claimed ← u256 (epoch.lifetime_claimed + amount)
  write_epoch epoch_id
    { epoch with
      positions := epoch.positions.insert owner { position with claimed }
      lifetime_claimed }
  emit (.LpRewardsClaimed epoch_id owner amount claimed)
  pure amount

def mark_active_claim_only (cap : LpAccountingCapability) : Move Unit := do
  assert_cap cap
  let epoch_id ← active_epoch_id
  let epoch ← borrow_epoch epoch_id
  Tx.require (epoch.status = .ACTIVE ∧ epoch.total_shares = 0) E_EPOCH_NOT_EMPTY
  let epoch ← recompute_rounding epoch
  let liability ← aggregate_liability epoch
  let vault_balance ← fungible_asset.balance epoch.reward_vault
  Tx.require
    (epoch.quarantined = false
      ∧ liability = 0
      ∧ epoch.unallocated_rewards = 0
      ∧ vault_balance = epoch.rounding_reserve
      ∧ epoch.lifetime_claimed ≤ epoch.lifetime_received
      ∧ vault_balance = epoch.lifetime_received - epoch.lifetime_claimed)
    E_EPOCH_TERMINAL_ACCOUNTING
  let old_status := epoch.status
  let epoch : LpEpoch :=
    { epoch with terminal_rounding_reserve := epoch.rounding_reserve, status := .CLAIM_ONLY }
  write_epoch epoch_id epoch
  let registry ← borrow_registry
  let registry := { registry with active_epoch := 0 }
  Tx.update fun w => { w with lp_registry := some registry }
  emit (.LpEpochStatusChanged epoch_id old_status .CLAIM_ONLY)
  emit (.LpEpochTerminalDustClassified epoch_id epoch.reward_vault
    epoch.terminal_rounding_reserve epoch.retired_residue_magnified epoch.lifetime_received
    epoch.lifetime_claimed)

/-- Transaction-boundary invariant used by the pool after every LP state or
vault mutation. -/
def assert_epoch_backing (cap : LpAccountingCapability) (epoch_id : ℕ) : Move Unit := do
  assert_cap cap
  let epoch ← borrow_epoch epoch_id
  let vault_balance ← fungible_asset.balance epoch.reward_vault
  let liability ← aggregate_liability epoch
  let named ← u256 (liability + epoch.unallocated_rewards)
  let named ← u256 (named + epoch.rounding_reserve)
  Tx.require (vault_balance = named) E_VAULT_ACCOUNTING
  Tx.require
    (epoch.lifetime_claimed ≤ epoch.lifetime_received
      ∧ vault_balance = epoch.lifetime_received - epoch.lifetime_claimed)
    E_VAULT_ACCOUNTING
  if epoch.status = .CLAIM_ONLY then do
    let liability ← aggregate_liability epoch
    Tx.require
      (liability = 0
        ∧ epoch.unallocated_rewards = 0
        ∧ epoch.terminal_rounding_reserve = epoch.rounding_reserve
        ∧ vault_balance = epoch.terminal_rounding_reserve)
      E_EPOCH_TERMINAL_ACCOUNTING
  else pure ()

/-! ### Views -/

def active_reward_vault : Move Address := do
  let epoch_id ← active_epoch_id
  let epoch ← borrow_epoch epoch_id
  pure epoch.reward_vault

def reward_vault (epoch_id : ℕ) : Move Address := do
  let epoch ← borrow_epoch epoch_id
  pure epoch.reward_vault

def total_active_shares : Move ℕ := do
  let registry ← borrow_registry
  if registry.active_epoch = 0 then pure 0
  else do
    let epoch ← borrow_epoch registry.active_epoch
    pure epoch.total_shares

def position_shares (epoch_id : ℕ) (owner : Address) : Move ℕ := do
  let epoch ← borrow_epoch epoch_id
  if owner ∉ epoch.positions then pure 0
  else do
    let position ← borrow_position epoch owner
    pure position.shares

def pending_rewards (epoch_id : ℕ) (owner : Address) : Move ℕ := do
  let epoch ← borrow_epoch epoch_id
  pending_for epoch owner

end CedraReflect.lp_rewards
