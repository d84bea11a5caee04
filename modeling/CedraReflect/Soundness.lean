/-
The two arithmetics agree on every function up to overflow.

Only `checked` tells the arithmetics apart, and it does so by aborting. Hence,
function by function, a machine run either does what the ideal run does or
stops on an overflow; [`Call.sound`] says it of the public operations. Every
statement about ideal runs transfers along it.
-/
import CedraReflect.System

set_option autoImplicit false
set_option linter.constructorNameAsVariable false
-- The count doubles with every statement of a block; the instances found are small.
set_option synthInstance.maxSize 1000000000000

namespace CedraReflect

variable {arithmetic : Arithmetic} [NamedAddresses]

/-! ## `custody_registry` -/

namespace custody_registry

instance : Sound arithmetic borrow_registry := by
  unfold borrow_registry; infer_instance

instance (admin reserve lp_vault : Address) :
    Sound arithmetic (register admin reserve lp_vault) := by
  unfold register; infer_instance

instance (cap : CustodySettlementCapability) : Sound arithmetic (assert_capability cap) := by
  unfold assert_capability; infer_instance

instance (cap : CustodySettlementCapability) (reserve : Address) (epoch : ℕ) (lp_vault : Address) :
    Sound arithmetic (assert_active_route cap reserve epoch lp_vault) := by
  unfold assert_active_route; infer_instance

instance (cap : CustodySettlementCapability) (epoch : ℕ) (lp_vault : Address) :
    Sound arithmetic (assert_claim_vault cap epoch lp_vault) := by
  unfold assert_claim_vault; infer_instance

instance (cap : CustodySettlementCapability) (reserve : Address) :
    Sound arithmetic (assert_reserve cap reserve) := by
  unfold assert_reserve; infer_instance

end custody_registry

/-! ## `reflection_token` -/

namespace reflection_token

instance (f : ReflectionState → ReflectionState) : Sound arithmetic (modify_state f) := by
  unfold modify_state; infer_instance

instance (f : CustodyAccounting → CustodyAccounting) : Sound arithmetic (modify_custody f) := by
  unfold modify_custody; infer_instance

instance : Sound arithmetic borrow_state := by
  unfold borrow_state; infer_instance

instance : Sound arithmetic borrow_custody := by
  unfold borrow_custody; infer_instance

instance (admin : Address) : Sound arithmetic (assert_core_publisher admin) := by
  unfold assert_core_publisher; infer_instance

instance : Sound arithmetic assert_configuring := by
  unfold assert_configuring; infer_instance

instance : Sound arithmetic assert_live := by
  unfold assert_live; infer_instance

instance : Sound arithmetic assert_token_transferable := by
  unfold assert_token_transferable; infer_instance

instance (pool_store : Address) : Sound arithmetic (assert_pool pool_store) := by
  unfold assert_pool; infer_instance

instance (account : Address) : Sound arithmetic (assert_registered_wallet account) := by
  unfold assert_registered_wallet; infer_instance

instance (store : Address) : Sound arithmetic (assert_eligible_primary_store store) := by
  unfold assert_eligible_primary_store; infer_instance

instance (account primary_store : Address) :
    Sound arithmetic (ensure_registered_wallet account primary_store) := by
  unfold ensure_registered_wallet; infer_instance

instance (account store : Address) :
    Sound arithmetic (ensure_registered_wallet_for_store account store) := by
  unfold ensure_registered_wallet_for_store; infer_instance

instance (account : Address) : Sound arithmetic (ensure_position account) := by
  unfold ensure_position; infer_instance

instance (account : Address) : Sound arithmetic (borrow_position account) := by
  unfold borrow_position; infer_instance

instance (account : Address) (amount : ℕ) : Sound arithmetic (add_raw_shares account amount) := by
  unfold add_raw_shares; infer_instance

instance (account : Address) (amount : ℕ) :
    Sound arithmetic (remove_raw_shares account amount) := by
  unfold remove_raw_shares; infer_instance

instance (amount : ℕ) : Sound arithmetic (add_custody_shares amount) := by
  unfold add_custody_shares; infer_instance

instance (amount : ℕ) : Sound arithmetic (remove_custody_shares amount) := by
  unfold remove_custody_shares; infer_instance

instance (store : Address) : Sound arithmetic (custody_pending_for_store store) := by
  unfold custody_pending_for_store; infer_instance

instance (store : Address) : Sound arithmetic (assert_custody_matches_raw store) := by
  unfold assert_custody_matches_raw; infer_instance

instance : Sound arithmetic aggregate_liability := by
  unfold aggregate_liability; infer_instance

instance : Sound arithmetic recompute_rounding_reserve := by
  unfold recompute_rounding_reserve; infer_instance

instance (account store : Address) : Sound arithmetic (claimable_for_store account store) := by
  unfold claimable_for_store; infer_instance

instance : Sound arithmetic assert_accounting_backing := by
  unfold assert_accounting_backing; infer_instance

instance (account store : Address) (amount : ℕ) (explicit_claim : Bool) (trigger : Trigger) :
    Sound arithmetic (materialize_to_store account store amount explicit_claim trigger) := by
  unfold materialize_to_store; infer_instance

instance (account store : Address) (explicit_claim : Bool) (trigger : Trigger) :
    Sound arithmetic (materialize_all_to_store account store explicit_claim trigger) := by
  unfold materialize_all_to_store; infer_instance

instance (gross : ℕ) : Sound arithmetic (fee_for gross) := by
  unfold fee_for; infer_instance

instance (account : Address) (gross fee kind : ℕ) :
    Sound arithmetic (advance_index account gross fee kind) := by
  unfold advance_index; infer_instance

instance (store : Address) (amount : ℕ) : Sound arithmetic (withdraw_hook_impl store amount) := by
  unfold withdraw_hook_impl; infer_instance

instance (store : Address) (asset : FungibleAsset) :
    Sound arithmetic (deposit_hook_impl store asset) := by
  unfold deposit_hook_impl; infer_instance

instance (store : Address) : Sound arithmetic (derived_balance_hook_impl store) := by
  unfold derived_balance_hook_impl; infer_instance

instance (owner : Address) : Sound arithmetic (register_wallet owner) := by
  unfold register_wallet; infer_instance

instance (owner : Address) (amount : ℕ) : Sound arithmetic (claim owner amount) := by
  unfold claim; infer_instance

instance (owner : Address) : Sound arithmetic (claim_all owner) := by
  unfold claim_all; infer_instance

instance (store : Address) : Sound arithmetic (add_exclusion store) := by
  unfold add_exclusion; infer_instance

instance (admin : Address) (reflection_fee_bps : ℕ) :
    Sound arithmetic (initialize_token admin reflection_fee_bps) := by
  unfold initialize_token; infer_instance

instance (admin amm_publisher : Address) :
    Sound arithmetic (issue_settlement_capability admin amm_publisher) := by
  unfold issue_settlement_capability; infer_instance

instance (admin assets_publisher : Address) :
    Sound arithmetic (issue_faucet_capability admin assets_publisher) := by
  unfold issue_faucet_capability; infer_instance

instance (admin custodian pool_store lp_reward_vault : Address) :
    Sound arithmetic (register_canonical_custody admin custodian pool_store lp_reward_vault) := by
  unfold register_canonical_custody; infer_instance

instance (account : Address) : Sound arithmetic (bind_protocol_exclusion account) := by
  unfold bind_protocol_exclusion; infer_instance

instance (admin : Address) : Sound arithmetic (bind_protocol_exclusions admin) := by
  unfold bind_protocol_exclusions; infer_instance

instance (admin assets_publisher amm_publisher : Address) :
    Sound arithmetic (seal_launch admin assets_publisher amm_publisher) := by
  unfold seal_launch; infer_instance

instance (cap : CustodySettlementCapability) (admin pool_store : Address) (amount : ℕ) :
    Sound arithmetic (seed_pool_from_distribution cap admin pool_store amount) := by
  unfold seed_pool_from_distribution; infer_instance

instance (cap : CustodySettlementCapability) : Sound arithmetic (close_pool cap) := by
  unfold close_pool; infer_instance

instance (cap : FaucetCapability) (recipient : Address) (amount : ℕ) (operator : Address) :
    Sound arithmetic (faucet_grant cap recipient amount operator) := by
  unfold faucet_grant; infer_instance

instance (asset : FungibleAsset) (account : Address) (gross fee kind : ℕ) :
    Sound arithmetic (take_fee asset account gross fee kind) := by
  unfold take_fee; infer_instance

instance (cap : SettlementCapability) (seller pool_store : Address) (gross_input : ℕ) :
    Sound arithmetic (settle_sell cap seller pool_store gross_input) := by
  unfold settle_sell; infer_instance

instance (cap : SettlementCapability) (buyer pool_store : Address) (gross_output : ℕ) :
    Sound arithmetic (settle_buy cap buyer pool_store gross_output) := by
  unfold settle_buy; infer_instance

instance (cap : CustodySettlementCapability) (provider pool_store : Address) (amount : ℕ) :
    Sound arithmetic (move_wallet_to_custody cap provider pool_store amount) := by
  unfold move_wallet_to_custody; infer_instance

instance (cap : CustodySettlementCapability) (pool_store recipient : Address) (amount : ℕ) :
    Sound arithmetic (move_custody_to_wallet cap pool_store recipient amount) := by
  unfold move_custody_to_wallet; infer_instance

instance (cap : CustodySettlementCapability) (pool_store : Address) (epoch : ℕ)
    (lp_reward_vault : Address) :
    Sound arithmetic (route_custody_rewards cap pool_store epoch lp_reward_vault) := by
  unfold route_custody_rewards; infer_instance

instance (cap : CustodySettlementCapability) (claimant_address : Address) (epoch : ℕ)
    (lp_reward_vault : Address) (amount : ℕ) :
    Sound arithmetic (payout_lp_reward_to cap claimant_address epoch lp_reward_vault amount) := by
  unfold payout_lp_reward_to; infer_instance

instance : Sound arithmetic launch_state := by
  unfold launch_state; infer_instance

instance : Sound arithmetic is_sealed := by
  unfold is_sealed; infer_instance

instance : Sound arithmetic is_closed := by
  unfold is_closed; infer_instance

instance : Sound arithmetic reflection_fee_bps := by
  unfold reflection_fee_bps; infer_instance

instance (account : Address) : Sound arithmetic (primary_store_is_excluded account) := by
  unfold primary_store_is_excluded; infer_instance

instance : Sound arithmetic pool_pending_rewards := by
  unfold pool_pending_rewards; infer_instance

end reflection_token

/-! ## `reflection_settlement` -/

namespace reflection_settlement

instance {σ : Type} (amount fee_bps : ℕ) : Sound (σ := σ) arithmetic (fee amount fee_bps) := by
  unfold fee; infer_instance

instance {σ : Type} (reserve_in reserve_out gross_input amm_fee_bps : ℕ) :
    Sound (σ := σ) arithmetic (constant_product_output reserve_in reserve_out gross_input
      amm_fee_bps) := by
  unfold constant_product_output; infer_instance

instance {σ : Type} (numerator denominator : ℕ) :
    Sound (σ := σ) arithmetic (ceil_div_u256 numerator denominator) := by
  unfold ceil_div_u256; infer_instance

instance {σ : Type} (max_rfl max_usd reserve_rfl reserve_usd total_shares : ℕ) :
    Sound (σ := σ) arithmetic (liquidity_mint max_rfl max_usd reserve_rfl reserve_usd total_shares)
      := by
  unfold liquidity_mint; infer_instance

instance {σ : Type} (shares total_shares reserve_rfl reserve_usd : ℕ) :
    Sound (σ := σ) arithmetic (liquidity_withdrawal shares total_shares reserve_rfl reserve_usd) :=
      by
  unfold liquidity_withdrawal; infer_instance

instance {σ : Type} (value current : ℕ) :
    Sound (σ := σ) arithmetic (newton_step value current) := by
  unfold newton_step; infer_instance

instance {σ : Type} (value budget current next : ℕ) :
    Sound (σ := σ) arithmetic (integer_sqrt_loop value budget current next) := by
  induction budget generalizing current next with
  | zero => unfold integer_sqrt_loop; infer_instance
  | succ budget ih => unfold integer_sqrt_loop; infer_instance

instance {σ : Type} (value : ℕ) : Sound (σ := σ) arithmetic (integer_sqrt value) := by
  unfold integer_sqrt; infer_instance

instance {σ : Type} (rfl_amount usd_amount : ℕ) :
    Sound (σ := σ) arithmetic (initial_lp_shares rfl_amount usd_amount) := by
  unfold initial_lp_shares; infer_instance

end reflection_settlement

/-! ## `lp_rewards` -/

namespace lp_rewards

instance : Sound arithmetic borrow_registry := by
  unfold borrow_registry; infer_instance

instance (epoch_id : ℕ) : Sound arithmetic (borrow_epoch epoch_id) := by
  unfold borrow_epoch; infer_instance

instance (epoch : LpEpoch) (owner : Address) : Sound arithmetic (borrow_position epoch owner) := by
  unfold borrow_position; infer_instance

instance (epoch_id : ℕ) (epoch : LpEpoch) : Sound arithmetic (write_epoch epoch_id epoch) := by
  unfold write_epoch; infer_instance

instance (cap : LpAccountingCapability) : Sound arithmetic (assert_cap cap) := by
  unfold assert_cap; infer_instance

instance (epoch : LpEpoch) : Sound arithmetic (assert_active_mutation epoch) := by
  unfold assert_active_mutation; infer_instance

instance (epoch : LpEpoch) : Sound arithmetic (assert_active_epoch_healthy_internal epoch) := by
  unfold assert_active_epoch_healthy_internal; infer_instance

instance (cap : LpAccountingCapability) : Sound arithmetic (assert_active_epoch_healthy cap) := by
  unfold assert_active_epoch_healthy; infer_instance

instance (epoch : LpEpoch) (owner : Address) : Sound arithmetic (pending_for epoch owner) := by
  unfold pending_for; infer_instance

instance (epoch : LpEpoch) : Sound arithmetic (aggregate_liability epoch) := by
  unfold aggregate_liability; infer_instance

instance (epoch : LpEpoch) : Sound arithmetic (recompute_rounding epoch) := by
  unfold recompute_rounding; infer_instance

instance (epoch : LpEpoch) (owner : Address) :
    Sound arithmetic (normalize_zero_position epoch owner) := by
  unfold normalize_zero_position; infer_instance

instance (amm_admin first_reward_vault : Address) :
    Sound arithmetic (initialize_epochs amm_admin first_reward_vault) := by
  unfold initialize_epochs; infer_instance

instance : Sound arithmetic active_epoch_id := by
  unfold active_epoch_id; infer_instance

instance (cap : LpAccountingCapability) (amount : ℕ) :
    Sound arithmetic (receive_routed_reward cap amount) := by
  unfold receive_routed_reward; infer_instance

instance (cap : LpAccountingCapability) (owner : Address) (amount : ℕ) :
    Sound arithmetic (mint_active cap owner amount) := by
  unfold mint_active; infer_instance

instance (cap : LpAccountingCapability) (owner : Address) (amount : ℕ) :
    Sound arithmetic (burn_active cap owner amount) := by
  unfold burn_active; infer_instance

instance (cap : LpAccountingCapability) (sender recipient : Address) (amount : ℕ) :
    Sound arithmetic (transfer_active cap sender recipient amount) := by
  unfold transfer_active; infer_instance

instance (cap : LpAccountingCapability) (epoch_id : ℕ) (owner : Address) (requested : ℕ) :
    Sound arithmetic (prepare_claim cap epoch_id owner requested) := by
  unfold prepare_claim; infer_instance

instance (cap : LpAccountingCapability) : Sound arithmetic (mark_active_claim_only cap) := by
  unfold mark_active_claim_only; infer_instance

instance (cap : LpAccountingCapability) (epoch_id : ℕ) :
    Sound arithmetic (assert_epoch_backing cap epoch_id) := by
  unfold assert_epoch_backing; infer_instance

instance : Sound arithmetic active_reward_vault := by
  unfold active_reward_vault; infer_instance

instance (epoch_id : ℕ) : Sound arithmetic (reward_vault epoch_id) := by
  unfold reward_vault; infer_instance

instance : Sound arithmetic total_active_shares := by
  unfold total_active_shares; infer_instance

instance (epoch_id : ℕ) (owner : Address) : Sound arithmetic (position_shares epoch_id owner) := by
  unfold position_shares; infer_instance

instance (epoch_id : ℕ) (owner : Address) : Sound arithmetic (pending_rewards epoch_id owner) := by
  unfold pending_rewards; infer_instance

end lp_rewards

/-! ## The dispatcher -/

namespace dispatchable_fungible_asset

instance (owner store : Address) (amount : ℕ) : Sound arithmetic (withdraw owner store amount) := by
  unfold withdraw; infer_instance

instance (store : Address) (asset : FungibleAsset) : Sound arithmetic (deposit store asset) := by
  unfold deposit; infer_instance

end dispatchable_fungible_asset

namespace primary_fungible_store

instance (owner : Address) (metadata : Metadata) (amount : ℕ) :
    Sound arithmetic (withdraw owner metadata amount) := by
  unfold withdraw; infer_instance

instance (owner : Address) (asset : FungibleAsset) : Sound arithmetic (deposit owner asset) := by
  unfold deposit; infer_instance

instance (sender : Address) (metadata : Metadata) (recipient : Address) (amount : ℕ) :
    Sound arithmetic (transfer sender metadata recipient amount) := by
  unfold transfer; infer_instance

instance (mint_ref : Metadata) (recipient : Address) (amount : ℕ) :
    Sound arithmetic (mint mint_ref recipient amount) := by
  unfold mint; infer_instance

end primary_fungible_store

namespace reflection_router

instance (sender recipient : Address) (amount : ℕ) :
    Sound arithmetic (transfer sender recipient amount) := by
  unfold transfer; infer_instance

end reflection_router

/-! ## `mock_usd` -/

namespace mock_usd

instance : Sound arithmetic borrow_state := by
  unfold borrow_state; infer_instance

instance (f : MockUsdState → MockUsdState) : Sound arithmetic (modify_state f) := by
  unfold modify_state; infer_instance

instance (admin : Address) : Sound arithmetic (issue_faucet_capability admin) := by
  unfold issue_faucet_capability; infer_instance

instance (cap : FaucetMintCapability) (recipient : Address) (amount : ℕ) (operator : Address) :
    Sound arithmetic (mint_from_faucet cap recipient amount operator) := by
  unfold mint_from_faucet; infer_instance

instance (admin custodian store : Address) :
    Sound arithmetic (issue_pool_settlement_capability admin custodian store) := by
  unfold issue_pool_settlement_capability; infer_instance

instance (cap : PoolSettlementCapability) (store : Address) :
    Sound arithmetic (assert_pool_cap cap store) := by
  unfold assert_pool_cap; infer_instance

instance (cap : PoolSettlementCapability) (store : Address) (asset : FungibleAsset) :
    Sound arithmetic (deposit_to_pool cap store asset) := by
  unfold deposit_to_pool; infer_instance

instance (cap : PoolSettlementCapability) (store : Address) :
    Sound arithmetic (bootstrap_pool_reserve cap store) := by
  unfold bootstrap_pool_reserve; infer_instance

instance (cap : PoolSettlementCapability) (store : Address) (amount : ℕ) :
    Sound arithmetic (withdraw_from_pool cap store amount) := by
  unfold withdraw_from_pool; infer_instance

end mock_usd

/-! ## `test_faucet` -/

namespace test_faucet

instance : Sound arithmetic borrow_faucet := by
  unfold borrow_faucet; infer_instance

instance (faucet : FaucetState) : Sound arithmetic (write_faucet faucet) := by
  unfold write_faucet; infer_instance

instance (core_admin faucet_admin : Address) :
    Sound arithmetic (initialize_faucet core_admin faucet_admin) := by
  unfold initialize_faucet; infer_instance

instance (last_claims : Table Address ℕ) (account : Address) :
    Sound arithmetic (assert_available last_claims account) := by
  unfold assert_available; infer_instance

instance : Sound arithmetic assert_open := by
  unfold assert_open; infer_instance

instance (claimant : Address) : Sound arithmetic (claim_trfl claimant) := by
  unfold claim_trfl; infer_instance

instance (claimant : Address) : Sound arithmetic (claim_tusd claimant) := by
  unfold claim_tusd; infer_instance

end test_faucet

/-! ## `pool` -/

namespace pool

instance : Sound arithmetic borrow_state := by
  unfold borrow_state; infer_instance

instance (state : PoolState) : Sound arithmetic (reserves state) := by
  unfold reserves; infer_instance

instance (state : PoolState) : Sound arithmetic (assert_reserve_custody state) := by
  unfold assert_reserve_custody; infer_instance

instance (state : PoolState) : Sound arithmetic (assert_pool_live state) := by
  unfold assert_pool_live; infer_instance

instance (owner : Address) : Sound arithmetic (assert_valid_lp_owner owner) := by
  unfold assert_valid_lp_owner; infer_instance

instance (deadline : ℕ) : Sound arithmetic (assert_deadline deadline) := by
  unfold assert_deadline; infer_instance

instance (amount : ℕ) (is_sell : Bool) (state : PoolState) :
    Sound arithmetic (assert_swap_bounds amount is_sell state) := by
  unfold assert_swap_bounds; infer_instance

instance (output reserve_out : ℕ) :
    Sound arithmetic (assert_reserve_output_cap output reserve_out) := by
  unfold assert_reserve_output_cap; infer_instance

instance (state : PoolState) : Sound arithmetic (checkpoint_active state) := by
  unfold checkpoint_active; infer_instance

instance (state : PoolState) (owner : Address) :
    Sound arithmetic (materialize_lp_rewards state owner) := by
  unfold materialize_lp_rewards; infer_instance

instance (core_publisher assets_publisher amm_publisher bootstrap : Address) :
    Sound arithmetic (launch core_publisher assets_publisher amm_publisher bootstrap) := by
  unfold launch; infer_instance

instance (provider : Address) (max_rfl max_usd min_lp_shares deadline_seconds : ℕ) :
    Sound arithmetic (add_liquidity provider max_rfl max_usd min_lp_shares deadline_seconds) := by
  unfold add_liquidity; infer_instance

instance (provider : Address) (shares min_rfl_output min_usd_output deadline_seconds : ℕ) :
    Sound arithmetic (remove_liquidity provider shares min_rfl_output min_usd_output
      deadline_seconds) := by
  unfold remove_liquidity; infer_instance

instance (sender recipient : Address) (shares : ℕ) :
    Sound arithmetic (transfer_lp_shares sender recipient shares) := by
  unfold transfer_lp_shares; infer_instance

instance (owner : Address) (epoch amount : ℕ) :
    Sound arithmetic (claim_lp_rewards owner epoch amount) := by
  unfold claim_lp_rewards; infer_instance

instance : Sound arithmetic checkpoint_lp_rewards := by
  unfold checkpoint_lp_rewards; infer_instance

instance (seller : Address) (gross_trfl_input min_tusd_output deadline_seconds : ℕ) :
    Sound arithmetic (sell_trfl seller gross_trfl_input min_tusd_output deadline_seconds) := by
  unfold sell_trfl; infer_instance

instance (buyer : Address) (tusd_input min_net_trfl_output deadline_seconds : ℕ) :
    Sound arithmetic (buy_trfl buyer tusd_input min_net_trfl_output deadline_seconds) := by
  unfold buy_trfl; infer_instance

end pool

/-! ## The operations -/

/-- **Arithmetics agree on every public operation.** -/
theorem Call.sound (c : Call) : Sound arithmetic c.run := by
  cases c <;> unfold Call.run <;> infer_instance

/-- A committed call is one of the ideal arithmetic. -/
theorem Call.Commits.ideal {c : Call} {w w' : World} (h : c.Commits arithmetic w w') :
    c.Commits .ideal w w' :=
  c.sound.commits h

/-- Every reachable state is one of the ideal arithmetic. -/
theorem Reachable.ideal {fee_bps : ℕ} {w : World} (h : Reachable arithmetic fee_bps w) :
    Reachable .ideal fee_bps w := by
  induction h with
  | @genesis admin w hg =>
      have hs : Sound arithmetic (reflection_token.initialize_token admin fee_bps) := inferInstance
      exact .genesis (hs.commits hg)
  | call _ hc ih => exact ih.call hc.ideal

theorem Calls.ideal {w w' : World} {cs : List Call} (h : Calls arithmetic w cs w') :
    Calls .ideal w cs w' := by
  induction h with
  | nil w => exact .nil w
  | cons hc _ ih => exact .cons hc.ideal ih

/-! ## Executions -/

/-- `m` does not refuse in `w`: it commits, and on the machine it does the same
unless a width is exceeded first. -/
structure Tx.Executes {α : Type} (m : Move α) (w : World) (x : α) (w' : World) : Prop where
  ideal : Tx.Commits m .ideal w x w'
  machine : Tx.Commits m .machine w x w' ∨ ∃ module, m .machine w = .error (.overflow module)

omit [NamedAddresses] in
theorem Tx.Commits.executes {α : Type} {m : Move α} {w w' : World} {x : α}
    (hc : Tx.Commits m .ideal w x w') (hm : Sound .machine m) : Tx.Executes m w x w' := by
  refine ⟨hc, (hm.commits_or hc).imp id ?_⟩
  rintro ⟨e, he, h⟩
  cases e with
  | overflow module => exact ⟨module, h⟩
  | code | undefined | missing | framework => exact he.elim

end CedraReflect
