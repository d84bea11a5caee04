/-
The events of the four packages' modules, one constructor an event struct,
with every field and in the order of declaration.

`reflection_events.move` wraps each of its structs in a package-only emitter of
the same fields, so that an emitter call is an append of its struct; the one
emitter that fills fields in itself is the definition at the end. What the
asset framework emits on its own is not recorded.
-/
import CedraReflect.Basic

set_option autoImplicit false
set_option linter.constructorNameAsVariable false

namespace CedraReflect

/-- `ReflectionState.lifecycle` and `PoolState.lifecycle`. -/
inductive Lifecycle where
  | CONFIGURING
  | LIVE
  | CLOSED
deriving DecidableEq, Repr

/-- `LpEpoch.status`. -/
inductive Status where
  | ACTIVE
  | CLAIM_ONLY
deriving DecidableEq, Repr

/-- The `TRIGGER_*` constants. -/
inductive Trigger where
  | MANUAL
  | TRANSFER_SEND
  | TRANSFER_RECEIVE
  | BUY_PRE
  | BUY_POST
  | SELL_PRE
  | SELL_POST
  | LIQUIDITY_IN
  | LIQUIDITY_OUT
  | LP_PAYOUT
  | FAUCET
deriving DecidableEq, Repr

inductive Event where
  -- reflection_events.move
  | TokenCreated (version release_major release_minor release_patch : ℕ)
      (deployment_id network_label : String)
      (metadata reward_vault distribution_vault : Address)
      (reflection_fee_bps total_supply decimals : ℕ)
  | CoreLaunchSealed (reflection_fee_bps : ℕ)
      (metadata reward_vault distribution_vault pool_store : Address)
  | CorePoolClosed (pool_store : Address)
  | FaucetGrant (recipient : Address) (amount : ℕ) (operator : Address)
  | WalletTransfer (sender recipient : Address) (amount : ℕ)
  | EligibleBalanceDebited (account : Address) (amount : ℕ)
  | EligibleBalanceCredited (account : Address) (amount : ℕ)
  | ReflectionFeeCollected (account : Address) (gross_amount fee_amount fee_bps kind : ℕ)
  | ReflectionIndexAdvanced (old_index new_index remainder fee_amount eligible_supply : ℕ)
  | RewardsMaterialized (account : Address) (amount total_claimed : ℕ) (trigger : Trigger)
  | RewardsClaimed (account : Address) (amount total_claimed : ℕ)
  | PositionCreated (account : Address)
  | WalletRegistered (account primary_store : Address) (registered_wallet_count : ℕ)
  | CustodyAdapterRegistered (adapter_id : ℕ) (reserve_store : Address) (first_epoch : ℕ)
      (lp_reward_vault : Address)
  | CustodySharesChanged (added : Bool) (amount custody_shares global_shares : ℕ)
  | CustodyRewardsRouted (reserve_store lp_reward_vault : Address)
      (epoch amount total_routed : ℕ)
  | ProtocolPrimaryStoreExcluded (account store : Address)
  -- mock_usd.move
  | MockUsdMinted (recipient : Address) (amount : ℕ) (operator : Address)
  | PoolReserveBound (reserve_store custodian : Address)
  -- lp_rewards.move
  | LpEpochOpened (epoch : ℕ) (state_id reward_vault : Address)
  | LpEpochStatusChanged (epoch : ℕ) (old_status new_status : Status)
  | LpSharesChanged (epoch : ℕ) (owner : Address) (added : Bool)
      (amount owner_shares total_shares : ℕ)
  | LpSharesTransferred (epoch : ℕ) (sender recipient : Address) (amount : ℕ)
  | LpRewardIndexAdvanced
      (epoch old_index new_index remainder received total_shares rounding_reserve : ℕ)
  | LpRewardsClaimed (epoch : ℕ) (owner : Address) (amount total_claimed : ℕ)
  | LpRewardQuarantined (epoch amount unallocated_rewards : ℕ) (reward_vault : Address)
  | LpFractionalResidueRetired (epoch : ℕ) (owner : Address)
      (residue_magnified cumulative_retired_residue_magnified rounding_reserve_base_units : ℕ)
  | LpEpochTerminalDustClassified (epoch : ℕ) (reward_vault : Address)
      (terminal_rounding_base_units retired_residue_magnified
        lifetime_received_base_units lifetime_claimed_base_units : ℕ)
  -- pool.move
  | PoolLifecycleChanged (old_lifecycle new_lifecycle : Lifecycle)
  | LaunchSealed
      (reflection_fee_bps amm_fee_bps max_reserve_bps max_gross_swap max_liquidity_rfl
        max_liquidity_usd max_withdrawal_share_bps faucet_trfl_grant faucet_tusd_grant
        faucet_cooldown_seconds : ℕ)
      (bootstrap rfl_reserve usd_reserve lp_reward_vault : Address)
      (seed_rfl seed_usd initial_lp_shares : ℕ)
  | LiquiditySeeded (epoch : ℕ) (provider : Address)
      (rfl_amount usd_amount lp_shares reserve_rfl reserve_usd : ℕ)
  | LiquidityAdded (epoch : ℕ) (provider : Address)
      (rfl_amount usd_amount lp_shares reserve_rfl reserve_usd : ℕ)
  | LiquidityRemoved (epoch : ℕ) (provider : Address) (rfl_amount usd_amount lp_shares : ℕ)
      (final_exit : Bool) (reserve_rfl reserve_usd : ℕ)
  | PoolClosed (provider : Address)
      (epoch lp_shares rfl_output usd_output reserve_rfl reserve_usd : ℕ)
  | SwapExecuted (trader : Address) (is_sell : Bool)
      (gross_input reflection_fee amm_fee gross_output net_output reserve_rfl reserve_usd : ℕ)
deriving DecidableEq, Repr

namespace reflection_events

def custody_adapter_registered (reserve_store lp_reward_vault : Address) : Event :=
  .CustodyAdapterRegistered 1 reserve_store 1 lp_reward_vault

end reflection_events

end CedraReflect
