/-
The deployed system: its public operations, its transactions and the states
they can reach.

A [`Call`] is one public operation, by any account with any arguments. A
transaction is a sequence of calls that commits as a whole; between two calls
of a script a withdrawn asset may be in flight, so that the states reached
after each single call, which is what [`Reachable`] collects, include the
states at transaction boundaries: those with nothing in flight. A call that
aborts leaves no state behind and therefore does not appear in a run.
-/
import CedraReflect.Pool

set_option autoImplicit false
set_option linter.constructorNameAsVariable false

namespace CedraReflect

open NamedAddresses

/-- The packages are published and nothing has happened yet. -/
def World.unpublished : World where
  published := false
  reflection :=
    { index := 0
      index_remainder := 0
      total_shares := 0
      aggregate_correction := reflection_math.zero
      unallocated_fees := 0
      lifetime_fees := 0
      lifetime_materialized := 0
      fee_bps := 0
      lifecycle := .CONFIGURING
      positions := ∅
      exclusions := ∅
      protocol_exclusions_bound := false
      pool_store := .zero
      pool_registered := false
      settlement_capability_issued := false
      faucet_capability_issued := false }
  custody :=
    { pool_position := ⟨reflection_math.zero, 0⟩
      custody_shares := 0
      lifetime_custody_routed := 0
      rounding_reserve := 0
      registered_wallets := ∅
      registered_wallet_count := 0
      registered := false }
  custody_registry := none
  lp_registry := none
  pool := none
  mock_usd := mock_usd.published
  faucet := none
  balance := fun _ => 0
  frozen := fun _ => false
  in_flight := fun _ => 0
  now_seconds := 0
  events := []

/-- The public operations. `withdraw` and `deposit` are an owner's calls of the
dispatcher, for stores of either asset; `tick` is the clock moving. -/
inductive Call where
  | initialize_token (admin : Address) (reflection_fee_bps : ℕ)
  | initialize_faucet (core_admin faucet_admin : Address)
  | bind_protocol_exclusions (admin : Address)
  | seal_launch (admin assets_publisher amm_publisher : Address)
  | launch (core_publisher assets_publisher amm_publisher bootstrap : Address)
  | register_wallet (owner : Address)
  | withdraw (owner store : Address) (amount : ℕ)
  | deposit (store : Address) (asset : FungibleAsset)
  | transfer (sender recipient : Address) (amount : ℕ)
  | claim (owner : Address) (amount : ℕ)
  | claim_all (owner : Address)
  | claim_trfl (claimant : Address)
  | claim_tusd (claimant : Address)
  | sell_trfl (seller : Address) (gross_trfl_input min_tusd_output deadline_seconds : ℕ)
  | buy_trfl (buyer : Address) (tusd_input min_net_trfl_output deadline_seconds : ℕ)
  | add_liquidity (provider : Address) (max_rfl max_usd min_lp_shares deadline_seconds : ℕ)
  | remove_liquidity (provider : Address)
      (shares min_rfl_output min_usd_output deadline_seconds : ℕ)
  | transfer_lp_shares (sender recipient : Address) (shares : ℕ)
  | claim_lp_rewards (owner : Address) (epoch amount : ℕ)
  | checkpoint_lp_rewards
  | tick (seconds : ℕ)
deriving DecidableEq

namespace Call

/-- What a call executes. -/
def run [NamedAddresses] : Call → Move Unit
  | initialize_token admin fee_bps => reflection_token.initialize_token admin fee_bps
  | initialize_faucet core_admin faucet_admin =>
      test_faucet.initialize_faucet core_admin faucet_admin
  | bind_protocol_exclusions admin => reflection_token.bind_protocol_exclusions admin
  | seal_launch admin assets_publisher amm_publisher =>
      reflection_token.seal_launch admin assets_publisher amm_publisher
  | launch core_publisher assets_publisher amm_publisher bootstrap =>
      pool.launch core_publisher assets_publisher amm_publisher bootstrap
  | register_wallet owner => reflection_token.register_wallet owner
  | withdraw owner store amount => do
      let _ ← dispatchable_fungible_asset.withdraw owner store amount
      pure ()
  | deposit store asset => dispatchable_fungible_asset.deposit store asset
  | transfer sender recipient amount => reflection_router.transfer sender recipient amount
  | claim owner amount => reflection_token.claim owner amount
  | claim_all owner => reflection_token.claim_all owner
  | claim_trfl claimant => test_faucet.claim_trfl claimant
  | claim_tusd claimant => test_faucet.claim_tusd claimant
  | sell_trfl seller gross min_output deadline => pool.sell_trfl seller gross min_output deadline
  | buy_trfl buyer input min_output deadline => pool.buy_trfl buyer input min_output deadline
  | add_liquidity provider max_rfl max_usd min_shares deadline =>
      pool.add_liquidity provider max_rfl max_usd min_shares deadline
  | remove_liquidity provider shares min_rfl min_usd deadline =>
      pool.remove_liquidity provider shares min_rfl min_usd deadline
  | transfer_lp_shares sender recipient shares =>
      pool.transfer_lp_shares sender recipient shares
  | claim_lp_rewards owner epoch amount => pool.claim_lp_rewards owner epoch amount
  | checkpoint_lp_rewards => pool.checkpoint_lp_rewards
  | tick seconds => Tx.update fun w => { w with now_seconds := w.now_seconds + seconds }

/-- `c` commits from `w` and leaves `w'`. -/
abbrev Commits [NamedAddresses] (c : Call) (arithmetic : Arithmetic) (w w' : World) : Prop :=
  Tx.Commits c.run arithmetic w () w'

/-- `c` attempted as a transaction of its own: an abort changes nothing. -/
def attempt [NamedAddresses] (arithmetic : Arithmetic) (w : World) (c : Call) : World :=
  match c.run arithmetic w with
  | .ok (_, w') => w'
  | .error _ => w

end Call

/-- The states of the system deployed with the reflection fee `fee_bps`. -/
inductive Reachable [NamedAddresses] (arithmetic : Arithmetic) (fee_bps : ℕ) : World → Prop where
  | genesis {admin : Address} {w : World}
      (h : Tx.Commits (reflection_token.initialize_token admin fee_bps) arithmetic .unpublished
        () w) : Reachable arithmetic fee_bps w
  | call {c : Call} {w w' : World} (hw : Reachable arithmetic fee_bps w)
      (h : c.Commits arithmetic w w') : Reachable arithmetic fee_bps w'

/-- `Calls arithmetic w cs w'`: the calls `cs` commit one after the other. -/
inductive Calls [NamedAddresses] (arithmetic : Arithmetic) :
    World → List Call → World → Prop where
  | nil (w : World) : Calls arithmetic w [] w
  | cons {c : Call} {cs : List Call} {w w' w'' : World} (h : c.Commits arithmetic w w')
      (hs : Calls arithmetic w' cs w'') : Calls arithmetic w (c :: cs) w''

theorem Calls.append [NamedAddresses] {arithmetic : Arithmetic} {w w' w'' : World}
    {cs cs' : List Call} (h : Calls arithmetic w cs w') (h' : Calls arithmetic w' cs' w'') :
    Calls arithmetic w (cs ++ cs') w'' := by
  induction h with
  | nil => exact h'
  | cons hc _ ih => exact .cons hc (ih h')

theorem Reachable.calls [NamedAddresses] {arithmetic : Arithmetic} {fee_bps : ℕ} {w w' : World}
    {cs : List Call} (hw : Reachable arithmetic fee_bps w) (h : Calls arithmetic w cs w') :
    Reachable arithmetic fee_bps w' := by
  induction h with
  | nil => exact hw
  | cons hc _ ih => exact ih (hw.call hc)

end CedraReflect
