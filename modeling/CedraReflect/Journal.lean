/-
From the journal of a transaction to the group of events the indexer replays.

A node returns an event of a Move module as an envelope: the type tag of its
struct, a leaf for each field under the field's name, and the place of the event
in its transaction. This module spells those out and says what the normalizer
makes of them. The events it does not know are `CoreLaunchSealed`,
`CorePoolClosed` and `PoolLifecycleChanged`; the one it cannot read is
`ProtocolPrimaryStoreExcluded`, which lacks a field that it requires.
-/
import CedraReflect.Normalizer
import CedraReflect.World

set_option autoImplicit false
set_option linter.constructorNameAsVariable false

namespace CedraReflect

open indexer

/-! ## Events as a node returns them -/

/-- The `u8` of a trigger. -/
def Trigger.code : Trigger → ℕ
  | MANUAL => 0
  | TRANSFER_SEND => 1
  | TRANSFER_RECEIVE => 2
  | BUY_PRE => 3
  | BUY_POST => 4
  | SELL_PRE => 5
  | SELL_POST => 6
  | LIQUIDITY_IN => 7
  | LIQUIDITY_OUT => 8
  | LP_PAYOUT => 9
  | FAUCET => 10

/-- The `u8` of a status. -/
def Status.code : Status → ℕ
  | ACTIVE => 1
  | CLAIM_ONLY => 2

/-- The `u8` of a lifecycle. -/
def Lifecycle.code : Lifecycle → ℕ
  | CONFIGURING => 0
  | LIVE => 1
  | CLOSED => 2

namespace Event

/-- Package, module and name of the struct. -/
def typeTag [NamedAddresses] (event : Event) : TypeTag :=
  let core := fun name => (⟨NamedAddresses.reflection_core, ["reflection_events", name]⟩ : TypeTag)
  let assets := fun name => (⟨NamedAddresses.test_assets, ["mock_usd", name]⟩ : TypeTag)
  let lp := fun name => (⟨NamedAddresses.test_amm, ["lp_rewards", name]⟩ : TypeTag)
  let pool := fun name => (⟨NamedAddresses.test_amm, ["pool", name]⟩ : TypeTag)
  match event with
  | TokenCreated .. => core "TokenCreated"
  | CoreLaunchSealed .. => core "CoreLaunchSealed"
  | CorePoolClosed _ => core "CorePoolClosed"
  | FaucetGrant .. => core "FaucetGrant"
  | WalletTransfer .. => core "WalletTransfer"
  | EligibleBalanceDebited .. => core "EligibleBalanceDebited"
  | EligibleBalanceCredited .. => core "EligibleBalanceCredited"
  | ReflectionFeeCollected .. => core "ReflectionFeeCollected"
  | ReflectionIndexAdvanced .. => core "ReflectionIndexAdvanced"
  | RewardsMaterialized .. => core "RewardsMaterialized"
  | RewardsClaimed .. => core "RewardsClaimed"
  | PositionCreated _ => core "PositionCreated"
  | WalletRegistered .. => core "WalletRegistered"
  | CustodyAdapterRegistered .. => core "CustodyAdapterRegistered"
  | CustodySharesChanged .. => core "CustodySharesChanged"
  | CustodyRewardsRouted .. => core "CustodyRewardsRouted"
  | ProtocolPrimaryStoreExcluded .. => core "ProtocolPrimaryStoreExcluded"
  | MockUsdMinted .. => assets "MockUsdMinted"
  | PoolReserveBound .. => assets "PoolReserveBound"
  | LpEpochOpened .. => lp "LpEpochOpened"
  | LpEpochStatusChanged .. => lp "LpEpochStatusChanged"
  | LpSharesChanged .. => lp "LpSharesChanged"
  | LpSharesTransferred .. => lp "LpSharesTransferred"
  | LpRewardIndexAdvanced .. => lp "LpRewardIndexAdvanced"
  | LpRewardsClaimed .. => lp "LpRewardsClaimed"
  | LpRewardQuarantined .. => lp "LpRewardQuarantined"
  | LpFractionalResidueRetired .. => lp "LpFractionalResidueRetired"
  | LpEpochTerminalDustClassified .. => lp "LpEpochTerminalDustClassified"
  | PoolLifecycleChanged .. => pool "PoolLifecycleChanged"
  | LaunchSealed .. => pool "LaunchSealed"
  | LiquiditySeeded .. => pool "LiquiditySeeded"
  | LiquidityAdded .. => pool "LiquidityAdded"
  | LiquidityRemoved .. => pool "LiquidityRemoved"
  | PoolClosed .. => pool "PoolClosed"
  | SwapExecuted .. => pool "SwapExecuted"

/-- The fields of the struct, in the order of declaration. -/
def data (event : Event) : DataRecord :=
  let int := fun (n : ℕ) => Value.integer n
  let bytes := fun (s : String) => Value.bytes s.toUTF8
  match event with
  | TokenCreated version release_major release_minor release_patch deployment_id network_label
      metadata reward_vault distribution_vault reflection_fee_bps total_supply decimals =>
      [("version", int version), ("release_major", int release_major),
        ("release_minor", int release_minor), ("release_patch", int release_patch),
        ("deployment_id", bytes deployment_id), ("network_label", bytes network_label),
        ("metadata", .address metadata), ("reward_vault", .address reward_vault),
        ("distribution_vault", .address distribution_vault),
        ("reflection_fee_bps", int reflection_fee_bps), ("total_supply", int total_supply),
        ("decimals", int decimals)]
  | CoreLaunchSealed reflection_fee_bps metadata reward_vault distribution_vault pool_store =>
      [("reflection_fee_bps", int reflection_fee_bps), ("metadata", .address metadata),
        ("reward_vault", .address reward_vault),
        ("distribution_vault", .address distribution_vault), ("pool_store", .address pool_store)]
  | CorePoolClosed pool_store => [("pool_store", .address pool_store)]
  | FaucetGrant recipient amount operator | MockUsdMinted recipient amount operator =>
      [("recipient", .address recipient), ("amount", int amount), ("operator", .address operator)]
  | WalletTransfer sender recipient amount =>
      [("from", .address sender), ("to", .address recipient), ("amount", int amount)]
  | EligibleBalanceDebited account amount | EligibleBalanceCredited account amount =>
      [("account", .address account), ("amount", int amount)]
  | ReflectionFeeCollected account gross_amount fee_amount fee_bps kind =>
      [("account", .address account), ("gross_amount", int gross_amount),
        ("fee_amount", int fee_amount), ("fee_bps", int fee_bps), ("kind", int kind)]
  | ReflectionIndexAdvanced old_index new_index remainder fee_amount eligible_supply =>
      [("old_index", int old_index), ("new_index", int new_index), ("remainder", int remainder),
        ("fee_amount", int fee_amount), ("eligible_supply", int eligible_supply)]
  | RewardsMaterialized account amount total_claimed trigger =>
      [("account", .address account), ("amount", int amount),
        ("total_claimed", int total_claimed), ("trigger", int trigger.code)]
  | RewardsClaimed account amount total_claimed =>
      [("account", .address account), ("amount", int amount),
        ("total_claimed", int total_claimed)]
  | PositionCreated account => [("account", .address account)]
  | WalletRegistered account primary_store registered_wallet_count =>
      [("account", .address account), ("primary_store", .address primary_store),
        ("registered_wallet_count", int registered_wallet_count)]
  | CustodyAdapterRegistered adapter_id reserve_store first_epoch lp_reward_vault =>
      [("adapter_id", int adapter_id), ("reserve_store", .address reserve_store),
        ("first_epoch", int first_epoch), ("lp_reward_vault", .address lp_reward_vault)]
  | CustodySharesChanged added amount custody_shares global_shares =>
      [("added", .boolean added), ("amount", int amount), ("custody_shares", int custody_shares),
        ("global_shares", int global_shares)]
  | CustodyRewardsRouted reserve_store lp_reward_vault epoch amount total_routed =>
      [("reserve_store", .address reserve_store), ("lp_reward_vault", .address lp_reward_vault),
        ("epoch", int epoch), ("amount", int amount), ("total_routed", int total_routed)]
  | ProtocolPrimaryStoreExcluded account store =>
      [("account", .address account), ("store", .address store)]
  | PoolReserveBound reserve_store custodian =>
      [("reserve_store", .address reserve_store), ("custodian", .address custodian)]
  | LpEpochOpened epoch state_id reward_vault =>
      [("epoch", int epoch), ("state_id", .address state_id),
        ("reward_vault", .address reward_vault)]
  | LpEpochStatusChanged epoch old_status new_status =>
      [("epoch", int epoch), ("old_status", int old_status.code),
        ("new_status", int new_status.code)]
  | LpSharesChanged epoch owner added amount owner_shares total_shares =>
      [("epoch", int epoch), ("owner", .address owner), ("added", .boolean added),
        ("amount", int amount), ("owner_shares", int owner_shares),
        ("total_shares", int total_shares)]
  | LpSharesTransferred epoch sender recipient amount =>
      [("epoch", int epoch), ("sender", .address sender), ("recipient", .address recipient),
        ("amount", int amount)]
  | LpRewardIndexAdvanced epoch old_index new_index remainder received total_shares
      rounding_reserve =>
      [("epoch", int epoch), ("old_index", int old_index), ("new_index", int new_index),
        ("remainder", int remainder), ("received", int received),
        ("total_shares", int total_shares), ("rounding_reserve", int rounding_reserve)]
  | LpRewardsClaimed epoch owner amount total_claimed =>
      [("epoch", int epoch), ("owner", .address owner), ("amount", int amount),
        ("total_claimed", int total_claimed)]
  | LpRewardQuarantined epoch amount unallocated_rewards reward_vault =>
      [("epoch", int epoch), ("amount", int amount),
        ("unallocated_rewards", int unallocated_rewards),
        ("reward_vault", .address reward_vault)]
  | LpFractionalResidueRetired epoch owner residue_magnified
      cumulative_retired_residue_magnified rounding_reserve_base_units =>
      [("epoch", int epoch), ("owner", .address owner),
        ("residue_magnified", int residue_magnified),
        ("cumulative_retired_residue_magnified", int cumulative_retired_residue_magnified),
        ("rounding_reserve_base_units", int rounding_reserve_base_units)]
  | LpEpochTerminalDustClassified epoch reward_vault terminal_rounding_base_units
      retired_residue_magnified lifetime_received_base_units lifetime_claimed_base_units =>
      [("epoch", int epoch), ("reward_vault", .address reward_vault),
        ("terminal_rounding_base_units", int terminal_rounding_base_units),
        ("retired_residue_magnified", int retired_residue_magnified),
        ("lifetime_received_base_units", int lifetime_received_base_units),
        ("lifetime_claimed_base_units", int lifetime_claimed_base_units)]
  | PoolLifecycleChanged old_lifecycle new_lifecycle =>
      [("old_lifecycle", int old_lifecycle.code), ("new_lifecycle", int new_lifecycle.code)]
  | LaunchSealed reflection_fee_bps amm_fee_bps max_reserve_bps max_gross_swap max_liquidity_rfl
      max_liquidity_usd max_withdrawal_share_bps faucet_trfl_grant faucet_tusd_grant
      faucet_cooldown_seconds bootstrap rfl_reserve usd_reserve lp_reward_vault seed_rfl seed_usd
      initial_lp_shares =>
      [("reflection_fee_bps", int reflection_fee_bps), ("amm_fee_bps", int amm_fee_bps),
        ("max_reserve_bps", int max_reserve_bps), ("max_gross_swap", int max_gross_swap),
        ("max_liquidity_rfl", int max_liquidity_rfl),
        ("max_liquidity_usd", int max_liquidity_usd),
        ("max_withdrawal_share_bps", int max_withdrawal_share_bps),
        ("faucet_trfl_grant", int faucet_trfl_grant),
        ("faucet_tusd_grant", int faucet_tusd_grant),
        ("faucet_cooldown_seconds", int faucet_cooldown_seconds),
        ("bootstrap", .address bootstrap), ("rfl_reserve", .address rfl_reserve),
        ("usd_reserve", .address usd_reserve), ("lp_reward_vault", .address lp_reward_vault),
        ("seed_rfl", int seed_rfl), ("seed_usd", int seed_usd),
        ("initial_lp_shares", int initial_lp_shares)]
  | LiquiditySeeded epoch provider rfl_amount usd_amount lp_shares reserve_rfl reserve_usd
  | LiquidityAdded epoch provider rfl_amount usd_amount lp_shares reserve_rfl reserve_usd =>
      [("epoch", int epoch), ("provider", .address provider), ("rfl_amount", int rfl_amount),
        ("usd_amount", int usd_amount), ("lp_shares", int lp_shares),
        ("reserve_rfl", int reserve_rfl), ("reserve_usd", int reserve_usd)]
  | LiquidityRemoved epoch provider rfl_amount usd_amount lp_shares final_exit reserve_rfl
      reserve_usd =>
      [("epoch", int epoch), ("provider", .address provider), ("rfl_amount", int rfl_amount),
        ("usd_amount", int usd_amount), ("lp_shares", int lp_shares),
        ("final_exit", .boolean final_exit), ("reserve_rfl", int reserve_rfl),
        ("reserve_usd", int reserve_usd)]
  | PoolClosed provider epoch lp_shares rfl_output usd_output reserve_rfl reserve_usd =>
      [("provider", .address provider), ("epoch", int epoch), ("lp_shares", int lp_shares),
        ("rfl_output", int rfl_output), ("usd_output", int usd_output),
        ("reserve_rfl", int reserve_rfl), ("reserve_usd", int reserve_usd)]
  | SwapExecuted trader is_sell gross_input reflection_fee amm_fee gross_output net_output
      reserve_rfl reserve_usd =>
      [("trader", .address trader), ("is_sell", .boolean is_sell),
        ("gross_input", int gross_input), ("reflection_fee", int reflection_fee),
        ("amm_fee", int amm_fee), ("gross_output", int gross_output),
        ("net_output", int net_output), ("reserve_rfl", int reserve_rfl),
        ("reserve_usd", int reserve_usd)]

end Event

/-! ## What the normalizer reads -/

namespace indexer

def Status.indexed : Status → LpEpochStatus
  | .ACTIVE => .active
  | .CLAIM_ONLY => .claimOnly

/-- The event that the normalizer makes of an event of a launched system, `none`
for the three types it does not know. The events of the genesis and of the launch
that it reads otherwise or not at all are left out of the range of
[`body_eq_normalized`]. -/
def normalized (txHash : String) : Event → Option EventBody
  | .FaucetGrant recipient amount _ => some (.FaucetGrant recipient .trfl amount)
  | .MockUsdMinted recipient amount _ => some (.FaucetGrant recipient .tusd amount)
  | .WalletTransfer sender recipient amount =>
      some (.WalletTransfer sender recipient .trfl amount)
  | .EligibleBalanceDebited account amount => some (.EligibleBalanceDebited account amount)
  | .EligibleBalanceCredited account amount => some (.EligibleBalanceCredited account amount)
  | .ReflectionFeeCollected _ gross_amount fee_amount fee_bps _ =>
      some (.ReflectionFeeCollected ⟨txHash, gross_amount, fee_amount, fee_bps⟩)
  | .ReflectionIndexAdvanced old_index new_index remainder fee_amount eligible_supply =>
      some (.ReflectionIndexAdvanced
        ⟨old_index, new_index, remainder, fee_amount, eligible_supply⟩)
  | .RewardsMaterialized account amount total_claimed trigger =>
      some (.RewardsMaterialized ⟨account, amount, total_claimed, some trigger.code⟩)
  | .RewardsClaimed account amount total_claimed =>
      some (.RewardsClaimed ⟨account, amount, total_claimed⟩)
  | .PositionCreated account => some (.PositionCreated account)
  | .WalletRegistered account primary_store registered_wallet_count =>
      some (.WalletRegistered ⟨account, primary_store, registered_wallet_count⟩)
  | .CustodyAdapterRegistered adapter_id reserve_store first_epoch lp_reward_vault =>
      some (.CustodyAdapterRegistered ⟨adapter_id, reserve_store, first_epoch, lp_reward_vault⟩)
  | .CustodySharesChanged added amount custody_shares global_shares =>
      some (.CustodySharesChanged ⟨added, amount, custody_shares, global_shares⟩)
  | .CustodyRewardsRouted reserve_store lp_reward_vault epoch amount total_routed =>
      some (.CustodyRewardsRouted ⟨reserve_store, lp_reward_vault, epoch, amount, total_routed⟩)
  | .PoolReserveBound reserve_store custodian => some (.PoolReserveBound reserve_store custodian)
  | .LpEpochOpened epoch state_id reward_vault =>
      some (.LpEpochOpened ⟨epoch, state_id, reward_vault⟩)
  | .LpEpochStatusChanged epoch old_status new_status =>
      some (.LpEpochStatusChanged ⟨epoch, Status.indexed old_status, Status.indexed new_status⟩)
  | .LpSharesChanged epoch owner added amount owner_shares total_shares =>
      some (.LpSharesChanged ⟨epoch, owner, added, amount, owner_shares, total_shares⟩)
  | .LpSharesTransferred epoch sender recipient amount =>
      some (.LpSharesTransferred ⟨epoch, sender, recipient, amount⟩)
  | .LpRewardIndexAdvanced epoch old_index new_index remainder received total_shares
      rounding_reserve =>
      some (.LpRewardIndexAdvanced
        ⟨epoch, old_index, new_index, remainder, received, total_shares, rounding_reserve⟩)
  | .LpRewardsClaimed epoch owner amount total_claimed =>
      some (.LpRewardsClaimed ⟨epoch, owner, amount, total_claimed⟩)
  | .LpRewardQuarantined epoch amount unallocated_rewards reward_vault =>
      some (.LpRewardQuarantined ⟨epoch, amount, unallocated_rewards, reward_vault⟩)
  | .LpFractionalResidueRetired epoch owner residue_magnified
      cumulative_retired_residue_magnified rounding_reserve_base_units =>
      some (.LpFractionalResidueRetired ⟨epoch, owner, residue_magnified,
        cumulative_retired_residue_magnified, rounding_reserve_base_units⟩)
  | .LpEpochTerminalDustClassified epoch reward_vault terminal_rounding_base_units
      retired_residue_magnified lifetime_received_base_units lifetime_claimed_base_units =>
      some (.LpEpochTerminalDustClassified ⟨epoch, reward_vault, terminal_rounding_base_units,
        retired_residue_magnified, lifetime_received_base_units, lifetime_claimed_base_units⟩)
  | .LaunchSealed reflection_fee_bps amm_fee_bps max_reserve_bps max_gross_swap max_liquidity_rfl
      max_liquidity_usd max_withdrawal_share_bps faucet_trfl_grant faucet_tusd_grant
      faucet_cooldown_seconds bootstrap rfl_reserve usd_reserve lp_reward_vault seed_rfl seed_usd
      initial_lp_shares =>
      some (.LaunchSealed ⟨"v0.2", reflection_fee_bps, amm_fee_bps, max_reserve_bps,
        max_gross_swap, max_liquidity_rfl, max_liquidity_usd, max_withdrawal_share_bps,
        faucet_trfl_grant, faucet_tusd_grant, faucet_cooldown_seconds, bootstrap, rfl_reserve,
        usd_reserve, lp_reward_vault, seed_rfl, seed_usd, initial_lp_shares⟩)
  | .LiquiditySeeded epoch provider rfl_amount usd_amount lp_shares reserve_rfl reserve_usd =>
      some (.LiquiditySeeded
        ⟨epoch, provider, rfl_amount, usd_amount, lp_shares, reserve_rfl, reserve_usd⟩)
  | .LiquidityAdded epoch provider rfl_amount usd_amount lp_shares reserve_rfl reserve_usd =>
      some (.LiquidityAdded
        ⟨epoch, provider, rfl_amount, usd_amount, lp_shares, reserve_rfl, reserve_usd⟩)
  | .LiquidityRemoved epoch provider rfl_amount usd_amount lp_shares final_exit reserve_rfl
      reserve_usd =>
      some (.LiquidityRemoved
        ⟨epoch, provider, rfl_amount, usd_amount, lp_shares, reserve_rfl, reserve_usd⟩ final_exit)
  | .PoolClosed provider epoch lp_shares rfl_output usd_output reserve_rfl reserve_usd =>
      some (.PoolClosed
        ⟨"v0.2", provider, epoch, lp_shares, rfl_output, usd_output, reserve_rfl, reserve_usd⟩)
  | .SwapExecuted trader is_sell gross_input reflection_fee amm_fee gross_output net_output
      reserve_rfl reserve_usd =>
      some (.SwapExecuted
        ⟨trader, if is_sell = true then .sell else .buy, gross_input, reflection_fee, amm_fee,
          if is_sell = true then gross_input - reflection_fee else gross_input, gross_output,
          net_output, reserve_rfl, reserve_usd⟩)
  | _ => none

/-- `TokenCreated` belongs to the genesis, and a `ProtocolPrimaryStoreExcluded`
is not readable. -/
def Readable : Event → Prop
  | .TokenCreated .. | .ProtocolPrimaryStoreExcluded .. => False
  | _ => True

/-- The normalizer of the deployed packages. -/
structure Configured [NamedAddresses] (normalizer : CedraEventNormalizer) : Prop where
  reflectionCore : normalizer.reflectionCore = NamedAddresses.reflection_core
  testAssets : normalizer.testAssets = NamedAddresses.test_assets
  testAmm : normalizer.testAmm = NamedAddresses.test_amm

theorem requiredBigint_eq_ok {data : DataRecord} {key : String} {z : ℤ} :
    requiredBigint data key = .ok z ↔
      data.lookup key = some (.integer z) ∧ isMoveUnsigned z 256 := by
  unfold requiredBigint isMoveUnsigned
  cases data.lookup key with
  | none => simp
  | some value =>
      cases value with
      | integer n =>
          simp only [bind_unit_eq_ok, throwIf_eq_ok, pure_eq_ok, not_or, not_lt, Option.some.injEq,
            Value.integer.injEq]
          constructor
          · rintro ⟨hdomain, rfl⟩
            exact ⟨rfl, hdomain⟩
          · rintro ⟨rfl, hdomain⟩
            exact ⟨hdomain, rfl⟩
      | _ => simp

/-- **A field is read if its leaf is an integer of its width.** -/
theorem requiredUnsigned_eq_ok {data : DataRecord} {key : String} {bits : ℕ} {z : ℤ}
    (hbits : bits ≤ 256) :
    requiredUnsigned data key bits = .ok z ↔
      data.lookup key = some (.integer z) ∧ isMoveUnsigned z bits := by
  have hpow : (2 : ℤ) ^ bits ≤ 2 ^ 256 := pow_le_pow_right₀ (by norm_num) hbits
  unfold requiredUnsigned
  simp only [bind_eq_ok, requiredBigint_eq_ok, throwIf_eq_ok, pure_eq_ok, not_lt, exists_const]
  unfold isMoveUnsigned
  constructor
  · rintro ⟨n, ⟨hn, h₁, h₂⟩, h₃, rfl⟩
    exact ⟨hn, h₁, h₃⟩
  · rintro ⟨hn, h₁, h₃⟩
    exact ⟨z, ⟨hn, h₁, by omega⟩, h₃, rfl⟩

theorem requiredAddress_eq_ok {data : DataRecord} {key : String} {a : Address} :
    requiredAddress data key = .ok a ↔ data.lookup key = some (.address a) := by
  unfold requiredAddress
  rcases data.lookup key with _ | value
  · simp
  · cases value <;> simp

theorem requiredBoolean_eq_ok {data : DataRecord} {key : String} {b : Bool} :
    requiredBoolean data key = .ok b ↔ data.lookup key = some (.boolean b) := by
  unfold requiredBoolean
  rcases data.lookup key with _ | value
  · simp
  · cases value <;> simp

theorem mapped_eq_ok {α β : Type} {f : α → β} {x : Except String α} {b : β} :
    f <$> x = .ok b ↔ ∃ a, x = .ok a ∧ f a = b := by
  cases x <;> simp

theorem lpStatus_code (status : Status) (key : String) :
    lpStatus status.code key = .ok (Status.indexed status) := by
  cases status <;> rfl

/-- **The normalizer reads what the contracts wrote.** Whatever it makes of the
fields of an event of a launched system is the event that [`normalized`] names. -/
theorem body_eq_normalized [NamedAddresses] {normalizer : CedraEventNormalizer}
    (hn : Configured normalizer) {event : Event} (hr : Readable event) {txHash : String}
    {result : Option EventBody}
    (h : normalizer.body event.typeTag event.data txHash = .ok result) :
    result = normalized txHash event := by
  cases event with
  | TokenCreated => exact hr.elim
  | ProtocolPrimaryStoreExcluded => exact hr.elim
  | _ =>
      -- Of the types that the normalizer tries one by one only the event's own is its type.
      simp [CedraEventNormalizer.body, Event.typeTag, Event.data, isType, hn.reflectionCore,
        hn.testAssets, hn.testAmm, bind_eq_ok, mapped_eq_ok, pure_eq_ok, requiredUnsigned_eq_ok,
        requiredAddress_eq_ok, requiredBoolean_eq_ok, materializationTrigger, lpStatus_code,
        liquidityReceipt, List.lookup_cons] at h
      simp only [normalized]
      simp_all

end indexer

end CedraReflect
