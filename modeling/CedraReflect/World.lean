/-
The state every transaction reads and writes: the Move resources of the four
packages under their own names and fields, the stores of the asset framework,
the clock and the event journal.

Fields that `initialize` fills with a named object or a reference to the asset
and nothing assigns again are the constructors of [`Address`] and [`Metadata`]
instead of fields: `metadata`, `transfer_ref`, `raw_balance_ref`,
`reward_vault` and `distribution_vault` of `ReflectionState`, and `metadata`,
`mint_ref` and `transfer_ref` of `MockUsdState`. A resource that
`reflection_token::initialize` or `mock_usd::init_module` creates is there in
every state considered; one that a later transaction creates is an `Option`.

A fungible store is an integer balance and a frozen flag. A `FungibleAsset` is
the hot potato between a withdrawal and a deposit, and `in_flight` is what all
of those are worth together, so that supply is conserved inside a call too.
-/
import CedraReflect.Events
import CedraReflect.ReflectionMath

set_option autoImplicit false

namespace CedraReflect

/-! ## Resources -/

/-- `reflection_token::Position`. -/
structure Position where
  correction : SignedU256
  claimed : ℕ
deriving DecidableEq

structure ReflectionState where
  index : ℕ
  index_remainder : ℕ
  total_shares : ℕ
  aggregate_correction : SignedU256
  unallocated_fees : ℕ
  lifetime_fees : ℕ
  lifetime_materialized : ℕ
  fee_bps : ℕ
  lifecycle : Lifecycle
  positions : Table Address Position
  exclusions : Table Address Bool
  protocol_exclusions_bound : Bool
  pool_store : Address
  pool_registered : Bool
  settlement_capability_issued : Bool
  faucet_capability_issued : Bool

structure CustodyAccounting where
  pool_position : Position
  custody_shares : ℕ
  lifetime_custody_routed : ℕ
  rounding_reserve : ℕ
  registered_wallets : Table Address Bool
  registered_wallet_count : ℕ
  registered : Bool

structure SettlementCapability where
  nonce : ℕ
deriving DecidableEq

structure FaucetCapability where
  nonce : ℕ
deriving DecidableEq

structure CustodySettlementCapability where
  adapter_id : ℕ
  reserve_store : Address
  nonce : ℕ
deriving DecidableEq

structure CustodyRegistry where
  adapter_id : ℕ
  reserve_store : Address
  active_epoch : ℕ
  active_lp_vault : Address
  approved_lp_vaults : Table Address ℕ

structure LpAccountingCapability where
  nonce : ℕ
deriving DecidableEq

structure LpPosition where
  shares : ℕ
  correction : SignedU256
  claimed : ℕ
deriving DecidableEq

structure LpEpoch where
  epoch_id : ℕ
  state_id : Address
  status : Status
  reward_vault : Address
  index : ℕ
  index_remainder : ℕ
  total_shares : ℕ
  aggregate_correction : SignedU256
  unallocated_rewards : ℕ
  rounding_reserve : ℕ
  terminal_rounding_reserve : ℕ
  retired_residue_magnified : ℕ
  lifetime_received : ℕ
  lifetime_claimed : ℕ
  quarantined : Bool
  positions : Table Address LpPosition

structure LpEpochRegistry where
  active_epoch : ℕ
  epochs : Table ℕ LpEpoch

structure FaucetMintCapability where
  nonce : ℕ
deriving DecidableEq

structure PoolSettlementCapability where
  reserve_store : Address
  nonce : ℕ
deriving DecidableEq

structure MockUsdState where
  faucet_capability_issued : Bool
  pool_capability_issued : Bool
  pool_bootstrap_complete : Bool
  pool_reserve : Address

structure FaucetState where
  rfl_cap : FaucetCapability
  usd_cap : FaucetMintCapability
  last_trfl_claim : Table Address ℕ
  last_tusd_claim : Table Address ℕ

structure PoolState where
  settlement_cap : SettlementCapability
  custody_cap : CustodySettlementCapability
  lp_cap : LpAccountingCapability
  usd_pool_cap : PoolSettlementCapability
  rfl_reserve : Address
  usd_reserve : Address
  lifecycle : Lifecycle

/-- `published` is `exists<ReflectionState>(@reflection_core)`. -/
structure World where
  published : Bool
  reflection : ReflectionState
  custody : CustodyAccounting
  custody_registry : Option CustodyRegistry
  lp_registry : Option LpEpochRegistry
  pool : Option PoolState
  mock_usd : MockUsdState
  faucet : Option FaucetState
  balance : Address → ℕ
  frozen : Address → Bool
  in_flight : Metadata → ℕ
  now_seconds : ℕ
  events : List Event

/-- A function of the packages. -/
abbrev Move (α : Type) : Type := Tx Arithmetic World Abort α

/-- `event::emit`. -/
def emit (e : Event) : Move Unit := Tx.update fun w => { w with events := w.events ++ [e] }

end CedraReflect
