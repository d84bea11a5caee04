/-
The widths outside of the accounting.

What is left to exceed on the machine are the widths of stores and those of the
pool's own arithmetic. A tRFL store is bounded by the supply, which every
function of the core and of the epoch only moves around: that is the invariant
[`World.Funded`], and a function that keeps it and exceeds no width meanwhile is
[`Sheltered`]. tUSD is minted without end, so that only the entries that pay it
out have anything to ask, and they ask it of the one store they pay into.

With [`Fits`] for the accounting, a computation that executes commits on the
machine (`Tx.Executes.commits`).
-/
import CedraReflect.ReserveWidth
import CedraReflect.Fits

set_option autoImplicit false
set_option linter.constructorNameAsVariable false
set_option synthInstance.maxSize 1000000000000

namespace CedraReflect

open reflection_token (TOTAL_SUPPLY)

/-- A width outside of the accounting was exceeded. -/
def Abort.outer : Abort → Prop
  | overflow m => m.accounts = false
  | _ => False

section

variable {σ α : Type}

/-- From `s`, no width outside of the accounting is exceeded on the machine. -/
abbrev Spacious (m : Tx Arithmetic σ Abort α) (s : σ) : Prop :=
  Tx.Avoids Abort.outer m .machine s

instance (m : Module) (n : ℕ) : Tx.Spared Abort.outer (.code m n) := ⟨id⟩
instance (m : Module) : Tx.Spared Abort.outer (.missing m) := ⟨id⟩
instance (m : Module) : Tx.Spared Abort.outer (.undefined m) := ⟨id⟩
instance (reason : FrameworkError) : Tx.Spared Abort.outer (.framework reason) := ⟨id⟩
instance : Tx.Spared Abort.outer (.overflow .reflection_math) := ⟨Bool.noConfusion⟩
instance : Tx.Spared Abort.outer (.overflow .reflection_token) := ⟨Bool.noConfusion⟩
instance : Tx.Spared Abort.outer (.overflow .lp_rewards) := ⟨Bool.noConfusion⟩

end

/-- **Nothing overflows.** A computation that executes, and that neither the
accounting nor any other width stops, commits on the machine. -/
theorem Tx.Executes.commits {α : Type} {m : Move α} {w w' : World} {x : α}
    (h : Tx.Executes m w x w') (hin : Fits m w) (hout : Spacious m w) :
    Tx.Commits m .machine w x w' := by
  rcases h.machine with h | ⟨module, h⟩
  · exact h
  · cases haccounts : module.accounts with
    | true => exact absurd haccounts (hin _ h)
    | false => exact absurd haccounts (hout _ h)

/-! ## What the stores hold -/

/-- All tRFL together is within the supply, and the tUSD stores hold what `cash`
says. -/
structure World.Funded (cash : Address → ℕ) (w : World) : Prop where
  trfl : ∀ stores : Finset Address, (∀ s ∈ stores, s.store_metadata = some .trfl) →
    ∑ s ∈ stores, w.balance s + w.in_flight .trfl ≤ TOTAL_SUPPLY
  tusd : ∀ s : Address, s.store_metadata = some .tusd → w.balance s = cash s

/-- Nowhere is more than the supply. -/
theorem Core.funded {w : World} (h : Core w) : w.Funded w.balance := by
  refine ⟨fun stores hstores => ?_, fun _ _ => rfl⟩
  have hle : ∑ s ∈ stores, w.balance s ≤ ∑ s ∈ w.stores, w.balance s := by
    calc ∑ s ∈ stores, w.balance s
        ≤ ∑ s ∈ stores ∪ w.stores, w.balance s :=
          Finset.sum_le_sum_of_subset Finset.subset_union_left
      _ = ∑ s ∈ w.stores, w.balance s := by
          refine (Finset.sum_subset Finset.subset_union_right fun s hs hne => ?_).symm
          have hmem : s ∈ stores := (Finset.mem_union.mp hs).resolve_right hne
          exact h.supply.elsewhere s (hstores s hmem) hne
  have := h.supply.supply
  omega

namespace World.Funded

variable {cash : Address → ℕ} {w w' : World} {s : Address} {n : ℕ}

/-- Only the stores matter. -/
theorem congr (h : w.Funded cash) (hb : w'.balance = w.balance)
    (hf : w'.in_flight .trfl = w.in_flight .trfl) : w'.Funded cash := by
  refine ⟨fun stores hstores => ?_, fun s hs => ?_⟩
  · rw [hb, hf]
    exact h.trfl stores hstores
  · rw [hb]
    exact h.tusd s hs

/-- A tRFL store has room for all that is on its way. -/
theorem room (h : w.Funded cash) (hs : s.store_metadata = some .trfl)
    (hn : n ≤ w.in_flight .trfl) : w.balance s + n < 2 ^ 64 := by
  have hle := h.trfl {s} (by simpa using hs)
  rw [Finset.sum_singleton] at hle
  unfold TOTAL_SUPPLY at hle
  omega

/-- One store changes, and what is on its way with it. -/
theorem update (h : w.Funded cash) (hs : s.store_metadata = some .trfl) {held : ℕ}
    (hb : w'.balance = Function.update w.balance s held)
    (hsum : held + w'.in_flight .trfl = w.balance s + w.in_flight .trfl) : w'.Funded cash := by
  refine ⟨fun stores hstores => ?_, fun b hne => ?_⟩
  · -- The store may be counted in.
    have hmem : s ∈ insert s stores := Finset.mem_insert_self s stores
    have hle := h.trfl (insert s stores) (by simpa [hs] using hstores)
    have hold : ∑ b ∈ insert s stores, w.balance b
        = w.balance s + ∑ b ∈ insert s stores \ {s}, w.balance b := by
      rw [← Finset.sum_update_of_mem hmem, Function.update_eq_self]
    have hnew : ∑ b ∈ insert s stores, w'.balance b
        = held + ∑ b ∈ insert s stores \ {s}, w.balance b := by
      rw [hb, Finset.sum_update_of_mem hmem]
    have hsub : ∑ b ∈ stores, w'.balance b ≤ ∑ b ∈ insert s stores, w'.balance b :=
      Finset.sum_le_sum_of_subset (Finset.subset_insert s stores)
    omega
  · have hbs : b ≠ s := by
      rintro rfl
      rw [hs] at hne
      cases hne
    rw [hb, Function.update_of_ne hbs]
    exact h.tusd b hne

/-- A withdrawal of what a store holds. -/
theorem debit (h : w.Funded cash) (hs : s.store_metadata = some .trfl) (hn : n ≤ w.balance s) :
    (w.debit .trfl s n).Funded cash := by
  refine h.update hs rfl ?_
  rw [World.debit_in_flight, Function.update_self]
  omega

/-- A deposit of what was on its way. -/
theorem credit (h : w.Funded cash) (hs : s.store_metadata = some .trfl)
    (hn : n ≤ w.in_flight .trfl) : (w.credit .trfl s n).Funded cash := by
  refine h.update hs rfl ?_
  rw [World.credit_in_flight, Function.update_self]
  omega

/-- A payment in tUSD is no matter of the supply. -/
theorem paid (h : w.Funded cash) {b b' : Address} (hb : b.store_metadata = some .tusd)
    (hb' : b'.store_metadata = some .tusd)
    (hw : w' = (w.debit .tusd b n).credit .tusd b' n) : w'.Funded w'.balance := by
  refine ⟨fun stores hstores => ?_, fun _ _ => rfl⟩
  have hkept : ∀ s ∈ stores, w'.balance s = w.balance s := by
    intro s hs
    have hne : ∀ {c : Address}, c.store_metadata = some .tusd → s ≠ c := by
      rintro c hc rfl
      rw [hstores s hs] at hc
      cases hc
    rw [hw, World.credit_balance, Function.update_of_ne (hne hb'), World.debit_balance,
      Function.update_of_ne (hne hb)]
  have hflight : w'.in_flight .trfl = w.in_flight .trfl := by
    rw [hw]
    simp
  rw [Finset.sum_congr rfl hkept, hflight]
  exact h.trfl stores hstores

end World.Funded

/-- Funds are kept, and no width outside of the accounting is exceeded meanwhile. -/
abbrev Sheltered {α : Type} (cash : Address → ℕ) (m : Move α) : Prop :=
  Tx.Shelters (World.Funded cash) Abort.outer .machine m

/-! ## Arithmetic and stores -/

section

open reflection_math fungible_asset

variable (cash : Address → ℕ) (m : Module) (bits x y : ℕ) (v : SignedU256) (store : Address)

instance [Tx.Spared Abort.outer (.overflow m)] : Sheltered cash (checked m bits x) := by
  unfold checked
  infer_instance

instance : Sheltered cash (sub m x y) := by
  unfold sub
  infer_instance

instance : Sheltered cash (div m x y) := by
  unfold div
  infer_instance

instance : Sheltered cash (mod m x y) := by
  unfold mod
  infer_instance

instance : Sheltered cash (narrow m bits x) := by
  unfold narrow
  infer_instance

instance : Sheltered cash (add_unsigned v x) := by
  unfold add_unsigned
  infer_instance

instance : Sheltered cash (subtract_unsigned v x) := by
  unfold subtract_unsigned
  infer_instance

instance : Sheltered cash (apply x v) := by
  unfold apply E_NEGATIVE_RESULT
  infer_instance

instance : Sheltered cash (checked_subtract x y) := by
  unfold checked_subtract E_UNDERFLOW
  infer_instance

instance (event : Event) : Sheltered cash (emit event) :=
  Tx.shelters_update fun _ hw => hw.congr rfl rfl

instance : Sheltered cash (fungible_asset.balance store) := by
  unfold fungible_asset.balance
  infer_instance

instance (ref : Metadata) : Sheltered cash (assert_ref ref store) := by
  unfold assert_ref
  infer_instance

instance (asset : FungibleAsset) : Sheltered cash (extract asset x) := by
  unfold extract
  infer_instance

/-- What is withdrawn is on its way. -/
instance : Sheltered cash (withdraw_with_ref .trfl store x) := by
  constructor
  · intro w hw
    unfold withdraw_with_ref
    exact .shelter hw fun _ _ hw _ => .shelter hw fun _ _ hw _ => .shelter hw fun _ _ _ _ =>
      .write Tx.spares
  · intro w asset w' hw hc
    obtain ⟨⟨hs, hn⟩, -, rfl⟩ := Tx.commits_withdraw_with_ref.mp hc
    exact hw.debit hs hn

/-- A deposit is stopped by the width of its store only. -/
theorem spacious_deposit_with_ref {ref : Metadata} {asset : FungibleAsset} {w : World}
    (h : store.store_metadata = some ref → asset.amount ≤ w.in_flight ref →
      w.balance store + asset.amount < 2 ^ 64) :
    Spacious (deposit_with_ref ref store asset) w := by
  unfold deposit_with_ref assert_ref
  exact .guard fun hs => .guard fun _ => .read (.guard fun hn => .read
    (.checked (h hs hn) Tx.spares))

/-- A tRFL store has room, since what it is handed was on its way. -/
instance (asset : FungibleAsset) : Sheltered cash (deposit_with_ref .trfl store asset) := by
  constructor
  · intro w hw
    exact spacious_deposit_with_ref store hw.room
  · intro w u w' hw hc
    have hsound : Sound .machine (deposit_with_ref .trfl store asset) := inferInstance
    obtain ⟨⟨hs, -, hn⟩, rfl⟩ := (Tx.commits_deposit_with_ref u).mp (hsound.commits hc)
    exact hw.credit hs hn

instance (recipient : Address) : Sheltered cash (transfer_with_ref .trfl store recipient x) := by
  unfold transfer_with_ref
  infer_instance

end

/-! ## The core -/

section

open custody_registry reflection_token

variable (cash : Address → ℕ) (a b : Address) (n epoch : ℕ) (cap : CustodySettlementCapability)

instance : Sheltered cash borrow_registry := by
  unfold borrow_registry
  infer_instance

instance : Sheltered cash (assert_capability cap) := by
  unfold assert_capability E_INVALID_CAPABILITY
  infer_instance

instance : Sheltered cash (assert_active_route cap a epoch b) := by
  unfold assert_active_route E_INVALID_RESERVE E_INVALID_ACTIVE_VAULT
  infer_instance

instance : Sheltered cash (assert_claim_vault cap epoch a) := by
  unfold assert_claim_vault E_UNAPPROVED_VAULT
  infer_instance

instance : Sheltered cash (assert_reserve cap a) := by
  unfold assert_reserve E_INVALID_RESERVE
  infer_instance

instance (f : ReflectionState → ReflectionState) : Sheltered cash (modify_state f) :=
  Tx.shelters_update fun _ hw => hw.congr rfl rfl

instance (f : CustodyAccounting → CustodyAccounting) : Sheltered cash (modify_custody f) :=
  Tx.shelters_update fun _ hw => hw.congr rfl rfl

instance : Sheltered cash borrow_state := by
  unfold borrow_state
  infer_instance

instance : Sheltered cash borrow_custody := by
  unfold borrow_custody
  infer_instance

instance : Sheltered cash assert_live := by
  unfold assert_live E_NOT_LIVE
  infer_instance

instance : Sheltered cash assert_token_transferable := by
  unfold assert_token_transferable E_NOT_LIVE
  infer_instance

instance : Sheltered cash (assert_pool a) := by
  unfold assert_pool E_NO_POOL E_NOT_CANONICAL_POOL
  infer_instance

instance : Sheltered cash (assert_registered_wallet a) := by
  unfold assert_registered_wallet E_UNREGISTERED_WALLET
  infer_instance

instance [NamedAddresses] : Sheltered cash (assert_eligible_primary_store a) := by
  unfold assert_eligible_primary_store E_EXCLUDED_RECIPIENT
  infer_instance

instance : Sheltered cash (ensure_registered_wallet a b) := by
  unfold ensure_registered_wallet
  infer_instance

instance : Sheltered cash (ensure_registered_wallet_for_store a b) := by
  unfold ensure_registered_wallet_for_store E_UNREGISTERED_WALLET
  infer_instance

instance : Sheltered cash (ensure_position a) := by
  unfold ensure_position
  infer_instance

instance : Sheltered cash (reflection_token.borrow_position a) := by
  unfold reflection_token.borrow_position
  infer_instance

instance : Sheltered cash (add_raw_shares a n) := by
  unfold add_raw_shares
  infer_instance

instance : Sheltered cash (remove_raw_shares a n) := by
  unfold remove_raw_shares
  infer_instance

instance : Sheltered cash (add_custody_shares n) := by
  unfold add_custody_shares
  infer_instance

instance : Sheltered cash (remove_custody_shares n) := by
  unfold remove_custody_shares E_CUSTODY_SHARE_MISMATCH
  infer_instance

instance : Sheltered cash (custody_pending_for_store a) := by
  unfold custody_pending_for_store E_CUSTODY_SHARE_MISMATCH
  infer_instance

instance : Sheltered cash (assert_custody_matches_raw a) := by
  unfold assert_custody_matches_raw E_CUSTODY_SHARE_MISMATCH
  infer_instance

instance : Sheltered cash reflection_token.aggregate_liability := by
  unfold reflection_token.aggregate_liability
  infer_instance

instance : Sheltered cash recompute_rounding_reserve := by
  unfold recompute_rounding_reserve E_CUSTODY_SHARE_MISMATCH
  infer_instance

instance : Sheltered cash (claimable_for_store a b) := by
  unfold claimable_for_store
  infer_instance

instance : Sheltered cash assert_accounting_backing := by
  unfold assert_accounting_backing E_CUSTODY_SHARE_MISMATCH
  infer_instance

instance (x : Bool) (t : Trigger) : Sheltered cash (materialize_to_store a b n x t) := by
  unfold materialize_to_store E_CLAIM_EXCEEDS_PENDING
  infer_instance

instance (x : Bool) (t : Trigger) : Sheltered cash (materialize_all_to_store a b x t) := by
  unfold materialize_all_to_store
  infer_instance

instance : Sheltered cash (fee_for n) := by
  unfold fee_for
  infer_instance

instance (gross fee kind : ℕ) : Sheltered cash (advance_index a gross fee kind) := by
  unfold advance_index
  infer_instance

instance (asset : FungibleAsset) (gross fee kind : ℕ) :
    Sheltered cash (take_fee asset a gross fee kind) := by
  unfold take_fee
  infer_instance

instance [NamedAddresses] : Sheltered cash (withdraw_hook_impl a n) := by
  unfold withdraw_hook_impl E_INSUFFICIENT_EFFECTIVE_BALANCE E_UNSUPPORTED_STORE
  infer_instance

instance [NamedAddresses] (asset : FungibleAsset) : Sheltered cash (deposit_hook_impl a asset) := by
  unfold deposit_hook_impl E_DIRECT_EXCLUDED_STORE_DEPOSIT E_UNSUPPORTED_STORE
  infer_instance

instance [NamedAddresses] : Sheltered cash (hook_transfer a b n) := by
  unfold hook_transfer
  infer_instance

instance [NamedAddresses] : Sheltered cash (derived_balance_hook_impl a) := by
  unfold derived_balance_hook_impl
  infer_instance

instance : Sheltered cash (register_wallet a) := by
  unfold register_wallet E_EXCLUDED_RECIPIENT
  infer_instance

instance : Sheltered cash (claim a n) := by
  unfold claim E_ZERO_AMOUNT
  infer_instance

instance : Sheltered cash (claim_all a) := by
  unfold claim_all E_ZERO_AMOUNT
  infer_instance

instance : Sheltered cash (close_pool cap) := by
  unfold close_pool E_POOL_NOT_EMPTY
  infer_instance

instance [NamedAddresses] (cap : FaucetCapability) : Sheltered cash (faucet_grant cap a n b) := by
  unfold faucet_grant E_INVALID_CAP E_ZERO_AMOUNT
  infer_instance

instance [NamedAddresses] (cap : SettlementCapability) :
    Sheltered cash (settle_sell cap a b n) := by
  unfold settle_sell E_INVALID_CAP E_ZERO_AMOUNT E_INSUFFICIENT_EFFECTIVE_BALANCE
  infer_instance

instance [NamedAddresses] (cap : SettlementCapability) : Sheltered cash (settle_buy cap a b n) := by
  unfold settle_buy E_INVALID_CAP E_ZERO_AMOUNT
  infer_instance

instance [NamedAddresses] : Sheltered cash (move_custody_to_wallet cap a b n) := by
  unfold move_custody_to_wallet E_ZERO_AMOUNT
  infer_instance

instance : Sheltered cash (route_custody_rewards cap a epoch b) := by
  unfold route_custody_rewards
  infer_instance

instance [NamedAddresses] : Sheltered cash (payout_lp_reward_to cap a epoch b n) := by
  unfold payout_lp_reward_to E_ZERO_AMOUNT
  infer_instance

instance : Sheltered cash is_sealed := by
  unfold is_sealed
  infer_instance

instance : Sheltered cash is_closed := by
  unfold is_closed
  infer_instance

instance : Sheltered cash pool_pending_rewards := by
  unfold pool_pending_rewards
  infer_instance

end

/-! ## The epoch -/

section

open lp_rewards

variable (cash : Address → ℕ) (e : LpEpoch) (a : Address) (k n : ℕ)
  (cap : LpAccountingCapability)

instance : Sheltered cash lp_rewards.borrow_registry := by
  unfold lp_rewards.borrow_registry
  infer_instance

instance : Sheltered cash (borrow_epoch k) := by
  unfold borrow_epoch
  infer_instance

instance : Sheltered cash (lp_rewards.borrow_position e a) := by
  unfold lp_rewards.borrow_position
  infer_instance

/-- The registry is no store. -/
theorem sheltered_write_registry (registry : LpEpochRegistry) :
    Sheltered cash (Tx.update fun w => { w with lp_registry := some registry }) :=
  Tx.shelters_update fun _ hw => hw.congr rfl rfl

instance : Sheltered cash (write_epoch k e) := by
  have hwrite := sheltered_write_registry cash
  unfold write_epoch
  infer_instance

instance : Sheltered cash (assert_cap cap) := by
  unfold assert_cap E_INVALID_CAPABILITY
  infer_instance

instance : Sheltered cash (assert_active_mutation e) := by
  unfold assert_active_mutation E_EPOCH_NOT_ACTIVE E_ZERO_DENOMINATOR_QUARANTINE
  infer_instance

instance : Sheltered cash (assert_active_epoch_healthy_internal e) := by
  unfold assert_active_epoch_healthy_internal E_EPOCH_NOT_ACTIVE E_ZERO_DENOMINATOR_QUARANTINE
  infer_instance

instance : Sheltered cash (assert_active_epoch_healthy cap) := by
  unfold assert_active_epoch_healthy E_NO_ACTIVE_EPOCH
  infer_instance

instance : Sheltered cash (pending_for e a) := by
  unfold pending_for
  infer_instance

instance : Sheltered cash (lp_rewards.aggregate_liability e) := by
  unfold lp_rewards.aggregate_liability
  infer_instance

instance : Sheltered cash (recompute_rounding e) := by
  unfold recompute_rounding E_VAULT_ACCOUNTING
  infer_instance

instance : Sheltered cash (normalize_zero_position e a) := by
  unfold normalize_zero_position E_PENDING_AT_POSITION_EXIT E_INVALID_POSITION_RESIDUE
  infer_instance

instance : Sheltered cash active_epoch_id := by
  unfold active_epoch_id E_NO_ACTIVE_EPOCH
  infer_instance

instance : Sheltered cash (receive_routed_reward cap n) := by
  unfold receive_routed_reward E_ZERO_AMOUNT
  infer_instance

instance : Sheltered cash (burn_active cap a n) := by
  unfold burn_active E_ZERO_AMOUNT E_INSUFFICIENT_SHARES
  infer_instance

instance : Sheltered cash (prepare_claim cap k a n) := by
  unfold prepare_claim E_EPOCH_NOT_CLAIMABLE E_CLAIM_EXCEEDS_PENDING
  infer_instance

instance : Sheltered cash (mark_active_claim_only cap) := by
  have hwrite := sheltered_write_registry cash
  unfold mark_active_claim_only E_EPOCH_NOT_EMPTY E_EPOCH_TERMINAL_ACCOUNTING
  infer_instance

instance : Sheltered cash (assert_epoch_backing cap k) := by
  unfold assert_epoch_backing E_VAULT_ACCOUNTING E_EPOCH_TERMINAL_ACCOUNTING
  infer_instance

instance : Sheltered cash active_reward_vault := by
  unfold active_reward_vault
  infer_instance

instance : Sheltered cash (reward_vault k) := by
  unfold reward_vault
  infer_instance

instance : Sheltered cash total_active_shares := by
  unfold total_active_shares
  infer_instance

instance : Sheltered cash (position_shares k a) := by
  unfold position_shares
  infer_instance

instance : Sheltered cash (lp_rewards.pending_rewards k a) := by
  unfold lp_rewards.pending_rewards
  infer_instance

end

/-! ## The faucet and the pool -/

section

open test_faucet pool

variable (cash : Address → ℕ) (a : Address) (n : ℕ) (state : PoolState)

instance : Sheltered cash borrow_faucet := by
  unfold borrow_faucet
  infer_instance

instance (claims : Table Address ℕ) : Sheltered cash (assert_available claims a) := by
  unfold assert_available E_COOLDOWN
  infer_instance

instance : Sheltered cash assert_open := by
  unfold assert_open E_NOT_LIVE
  infer_instance

instance (faucet : FaucetState) : Sheltered cash (write_faucet faucet) :=
  Tx.shelters_update fun _ hw => hw.congr rfl rfl

instance [NamedAddresses] : Sheltered cash (claim_trfl a) := by
  unfold claim_trfl
  infer_instance

instance : Sheltered cash pool.borrow_state := by
  unfold pool.borrow_state
  infer_instance

instance : Sheltered cash (reserves state) := by
  unfold reserves
  infer_instance

instance : Sheltered cash (assert_reserve_custody state) := by
  unfold assert_reserve_custody E_RESERVE_CUSTODY_MISMATCH
  infer_instance

instance : Sheltered cash (assert_pool_live state) := by
  unfold assert_pool_live E_WRONG_LIFECYCLE
  infer_instance

instance : Sheltered cash (assert_deadline n) := by
  unfold assert_deadline E_DEADLINE
  infer_instance

instance : Sheltered cash (checkpoint_active state) := by
  unfold checkpoint_active
  infer_instance

instance [NamedAddresses] : Sheltered cash (materialize_lp_rewards state a) := by
  unfold materialize_lp_rewards
  infer_instance

end

/-! ## The pool's own arithmetic -/

namespace Tx

open pool
open reflection_settlement (MAX_U64 constant_product_output_eq liquidity_withdrawal_eq)

variable {cash : Address → ℕ} {w : World} {e : LpEpoch} {a : Address} {n : ℕ}

/-- The cap on a single swap keeps the products within their widths. -/
theorem spacious_assert_swap_bounds (h : Supply w) (hw : w.Funded cash) (hu : w.usd ≤ MAX_U64)
    (is_sell : Bool) {lifecycle : Lifecycle} :
    Spacious (assert_swap_bounds n is_sell (pool.deployed lifecycle)) w := by
  have hR := h.balance_le .rfl_reserve rfl
  rw [← h.custody] at hR
  unfold TOTAL_SUPPLY at hR
  unfold MAX_U64 at hu
  unfold assert_swap_bounds E_ZERO_AMOUNT E_MAX_SWAP E_MAX_RESERVE_PERCENT BPS_DENOMINATOR
    FIXED_MAX_GROSS_SWAP FIXED_MAX_RESERVE_BPS
  refine .guard fun _ => .guard fun hmax => ?_
  refine .step (sheltered hw) (fun p _ => (commits_reserves h p).mp) (.guard fun _ => ?_)
  refine .checked (by omega) (.checked ?_ spares)
  split <;> omega

/-- So does the width of the reserve for the cap on an output. -/
theorem spacious_assert_reserve_output_cap {reserve : ℕ} (hn : n ≤ MAX_U64)
    (hr : reserve ≤ MAX_U64) : Spacious (assert_reserve_output_cap n reserve) w := by
  unfold MAX_U64 at hn hr
  unfold assert_reserve_output_cap E_MAX_RESERVE_PERCENT BPS_DENOMINATOR FIXED_MAX_RESERVE_BPS
  exact .checked (by omega) (.checked (by omega) spares)

/-! ## Payments in tUSD -/

instance (cap : PoolSettlementCapability) (store : Address) (n : ℕ) :
    Spares Abort.outer .machine (mock_usd.withdraw_from_pool cap store n) := by
  unfold mock_usd.withdraw_from_pool mock_usd.assert_pool_cap mock_usd.borrow_state
    mock_usd.E_INVALID_CAP fungible_asset.withdraw_with_ref fungible_asset.assert_ref
    fungible_asset.balance
  infer_instance

variable [NamedAddresses]

instance (a : Address) (n : ℕ) :
    Spares Abort.outer .machine (primary_fungible_store.withdraw a .tusd n) := by
  unfold primary_fungible_store.withdraw dispatchable_fungible_asset.withdraw
    fungible_asset.withdraw_sanity_check fungible_asset.withdraw_with_ref
    fungible_asset.assert_ref fungible_asset.balance
  rw [if_neg (by simp [Address.store_metadata])]
  infer_instance

omit [NamedAddresses] in
theorem spacious_deposit_to_pool (cap : PoolSettlementCapability) (h : w.usd + n < 2 ^ 64) :
    Spacious (mock_usd.deposit_to_pool cap .usd_reserve ⟨.tusd, n⟩) w := by
  unfold mock_usd.deposit_to_pool mock_usd.assert_pool_cap mock_usd.borrow_state
    mock_usd.E_INVALID_CAP
  refine .guard fun _ => .call spares fun u v hc => ?_
  simp only [commits_bind, commits_gets, commits_require, and_assoc, exists_and_left,
    exists_eq_left] at hc
  obtain ⟨-, -, -, rfl⟩ := hc
  exact spacious_deposit_with_ref _ fun _ _ => h

/-- A deposit of tUSD that the account's store has room for. -/
theorem spacious_deposit_tusd (h : w.balance (.primary .tusd a) + n < 2 ^ 64) :
    Spacious (primary_fungible_store.deposit a ⟨.tusd, n⟩) w := by
  unfold primary_fungible_store.deposit dispatchable_fungible_asset.deposit
  rw [if_neg (by simp [Address.store_metadata])]
  refine .check ?_ (fun u _ => (commits_deposit_sanity_check u).mp) fun _ => ?_
  · unfold fungible_asset.deposit_sanity_check
    exact spares
  · exact spacious_deposit_with_ref _ fun _ _ => h

/-- A payment out of the reserve, for which the account's store has room. -/
theorem spacious_usdOut {β : Type} (hw : w.Funded cash)
    (h : cash (.primary .tusd a) + n < 2 ^ 64) (cap : PoolSettlementCapability)
    {k : Unit → Move β} (hk : ∀ v : World, v.Funded v.balance → Spacious (k ()) v) :
    Spacious (mock_usd.withdraw_from_pool cap .usd_reserve n
      >>= fun usd => primary_fungible_store.deposit a usd >>= k) w := by
  refine .call spares fun usd w₁ h₁ => ?_
  simp only [mock_usd.withdraw_from_pool, mock_usd.assert_pool_cap, mock_usd.borrow_state,
    commits_bind, commits_gets, commits_require, commits_withdraw_with_ref, and_assoc,
    exists_and_left, exists_eq_left, exists_const] at h₁
  obtain ⟨-, -, -, -, -, rfl, rfl⟩ := h₁
  have hheld : (w.debit .tusd .usd_reserve n).balance (.primary .tusd a)
      = cash (.primary .tusd a) := by
    rw [World.debit_balance, Function.update_of_ne (by simp), hw.tusd _ rfl]
  refine .call (spacious_deposit_tusd (by rwa [hheld])) fun u w₂ h₂ => ?_
  simp only [primary_fungible_store.deposit, dispatchable_fungible_asset.deposit, commits_bind,
    commits_deposit_sanity_check, Address.store_metadata, commits_deposit_with_ref,
    Option.some.injEq, reduceCtorEq, if_false, and_assoc, exists_and_left, exists_eq_left,
    exists_const] at h₂
  obtain ⟨-, -, -, -, hleft⟩ := h₂
  exact hk w₂ (hw.paid rfl rfl hleft)

/-- A payment into the reserve, which has room for it. -/
theorem spacious_usdIn {β : Type} (hw : w.Funded cash) (h : cash .usd_reserve + n < 2 ^ 64)
    (cap : PoolSettlementCapability) {k : Unit → Move β}
    (hk : ∀ v : World, v.Funded v.balance → Spacious (k ()) v) :
    Spacious (primary_fungible_store.withdraw a .tusd n
      >>= fun usd => mock_usd.deposit_to_pool cap .usd_reserve usd >>= k) w := by
  refine .call spares fun usd w₁ h₁ => ?_
  simp only [primary_fungible_store.withdraw, dispatchable_fungible_asset.withdraw, commits_bind,
    commits_withdraw_sanity_check, Address.store_metadata, commits_withdraw_with_ref,
    Option.some.injEq, reduceCtorEq, if_false, and_assoc, exists_and_left, exists_eq_left,
    exists_const] at h₁
  obtain ⟨-, -, -, -, rfl, rfl⟩ := h₁
  have hheld : (w.debit .tusd (.primary .tusd a) n).usd = cash .usd_reserve := by
    rw [World.usd_debit _ _ _ (by simp), World.usd, hw.tusd _ rfl]
  refine .call (spacious_deposit_to_pool cap (by rwa [hheld])) fun u w₂ h₂ => ?_
  simp only [mock_usd.deposit_to_pool, mock_usd.assert_pool_cap, mock_usd.borrow_state,
    commits_bind, commits_gets, commits_require, commits_deposit_with_ref, and_assoc,
    exists_and_left, exists_eq_left, exists_const] at h₂
  obtain ⟨-, -, -, -, -, -, -, hleft⟩ := h₂
  exact hk w₂ (hw.paid rfl rfl hleft)

/-! ## The entries that pay tUSD -/

/-- A sell exceeds no width if what it pays fits into the seller's store. -/
theorem spacious_sell_trfl {limit deadline : ℕ} (h : Launched e w) (hu : w.usd ≤ MAX_U64)
    (hroom : w.balance (.primary .tusd a) + w.sellOutput n < 2 ^ 64) :
    Spacious (sell_trfl a n limit deadline) w := by
  have hd := h.deployed
  have hw := hd.core.funded
  have hf := hd.feeOn_le n
  have hlt := hd.custody_lt
  unfold sell_trfl E_MIN_OUTPUT E_INSUFFICIENT_LIQUIDITY E_RESERVE_CUSTODY_MISMATCH
  refine .check (sheltered hw) (fun u _ => (commits_assert_deadline u).mp) fun _ => ?_
  refine .step (sheltered hw) (fun x _ => (commits_pool_borrow_state hd x).mp) ?_
  refine .check (sheltered hw) (fun u _ => (commits_assert_pool_live h u).mp) fun hl => ?_
  refine .effect (sheltered hw) (fun u _ => (commits_checkpoint_settled h hl u).mp) ?_
  refine .call (spacious_assert_swap_bounds hd.core.supply hw hu true) fun u w₁ h₁ => ?_
  obtain ⟨-, hmax, -, -, rfl⟩ := (commits_assert_swap_bounds hd.core.supply true u).mp h₁
  have hn : n ≤ MAX_U64 := by
    unfold FIXED_MAX_GROSS_SWAP at hmax
    unfold MAX_U64
    omega
  have hn64 : n ≤ 2 ^ 64 := by
    unfold MAX_U64 at hn
    omega
  refine .step (sheltered hw) (fun p _ => (commits_reserves hd.core.supply p).mp) ?_
  refine .step (sheltered hw) (fun x _ => (commits_fee_on hd hn64 x).mp) ?_
  refine .step (sheltered hw) (fun x _ h₂ => ((commits_sub _ _ _).mp h₂).2) ?_
  -- The quote is a part of the reserve, and that is what is paid.
  have hquote : Spacious (reflection_settlement.constant_product_output w₁.custody.custody_shares
      w₁.usd (n - w₁.feeOn n) FIXED_AMM_FEE_BPS) w₁ := by
    rw [constant_product_output_eq hl.rfl_pos (by unfold MAX_U64; omega) hu (by omega) (by decide)]
    exact spares
  refine .call hquote fun quote w₂ h₂ => ?_
  obtain ⟨-, -, -, hout, rfl, rfl⟩ := (commits_constant_product_output quote).mp h₂
  refine .check (spacious_assert_reserve_output_cap hout hu)
    (fun u _ => (commits_assert_reserve_output_cap u).mp) fun _ => .guard fun _ => ?_
  refine .shelter hw fun p v hv _ => .guard fun _ => .shelter hv fun u v hv _ => ?_
  refine .shelter hv fun x v hv _ => .guard fun _ => spacious_usdOut hv hroom _ fun v hv => ?_
  exact .shelter hv fun u v hv _ => .shelter hv fun p v hv _ => sheltered hv

/-- A buy exceeds no width if what it is paid with fits into the reserve. -/
theorem spacious_buy_trfl {limit deadline : ℕ} (h : Launched e w) (hroom : w.usd + n < 2 ^ 64) :
    Spacious (buy_trfl a n limit deadline) w := by
  have hd := h.deployed
  have hw := hd.core.funded
  have hlt := hd.custody_lt
  have hn : n ≤ MAX_U64 := by
    unfold MAX_U64
    omega
  have hu : w.usd ≤ MAX_U64 := by
    unfold MAX_U64
    omega
  unfold buy_trfl E_MIN_OUTPUT E_INSUFFICIENT_LIQUIDITY E_RESERVE_CUSTODY_MISMATCH
  refine .check (sheltered hw) (fun u _ => (commits_assert_deadline u).mp) fun _ => ?_
  refine .step (sheltered hw) (fun x _ => (commits_pool_borrow_state hd x).mp) ?_
  refine .check (sheltered hw) (fun u _ => (commits_assert_pool_live h u).mp) fun hl => ?_
  refine .effect (sheltered hw) (fun u _ => (commits_checkpoint_settled h hl u).mp) ?_
  refine .call (spacious_assert_swap_bounds hd.core.supply hw hu false) fun u w₁ h₁ => ?_
  obtain ⟨-, -, -, -, rfl⟩ := (commits_assert_swap_bounds hd.core.supply false u).mp h₁
  refine .step (sheltered hw) (fun p _ => (commits_reserves hd.core.supply p).mp) ?_
  have hR : w₁.custody.custody_shares ≤ MAX_U64 := by
    unfold MAX_U64
    omega
  have hquote : Spacious (reflection_settlement.constant_product_output w₁.usd
      w₁.custody.custody_shares n FIXED_AMM_FEE_BPS) w₁ := by
    rw [constant_product_output_eq hl.usd_pos (by omega) hR hn (by decide)]
    exact spares
  refine .call hquote fun quote w₂ h₂ => ?_
  obtain ⟨-, -, -, hout, rfl, rfl⟩ := (commits_constant_product_output quote).mp h₂
  refine .check (spacious_assert_reserve_output_cap hout hR)
    (fun u _ => (commits_assert_reserve_output_cap u).mp) fun _ => ?_
  refine .call (sheltered hw) fun fee w₃ h₃ => ?_
  obtain ⟨-, -, rfl⟩ := (commits_fee_for fee).mp h₃
  refine .step (sheltered hw) (fun x _ h₄ => ((commits_sub _ _ _).mp h₄).2) (.guard fun _ => ?_)
  refine spacious_usdIn hw hroom _ fun v hv => ?_
  refine .shelter hv fun p v hv _ => .guard fun _ => .shelter hv fun u v hv _ => ?_
  refine .shelter hv fun x v hv _ => .guard fun _ => .shelter hv fun u v hv _ => ?_
  exact .shelter hv fun p v hv _ => sheltered hv

/-- Shares burned and both reserves paid out, whatever comes after. -/
theorem spacious_paid_out {β : Type} {lifecycle : Lifecycle} {rfl_out usd_out : ℕ}
    (hw : w.Funded cash) (hroom : cash (.primary .tusd a) + usd_out < 2 ^ 64)
    {k : ℕ × ℕ → Move β}
    (hk : ∀ after cash' (v : World), v.Funded cash' → Spacious (k after) v) :
    Spacious (do
      lp_rewards.burn_active (pool.deployed lifecycle).lp_cap a n
      reflection_token.move_custody_to_wallet (pool.deployed lifecycle).custody_cap
        (pool.deployed lifecycle).rfl_reserve a rfl_out
      let usd ← mock_usd.withdraw_from_pool (pool.deployed lifecycle).usd_pool_cap
        (pool.deployed lifecycle).usd_reserve usd_out
      primary_fungible_store.deposit a usd
      assert_reserve_custody (pool.deployed lifecycle)
      let after ← reserves (pool.deployed lifecycle)
      lp_rewards.assert_epoch_backing (pool.deployed lifecycle).lp_cap 1
      k after) w := by
  refine .shelter hw fun u v hv _ => .shelter hv fun u v hv _ => ?_
  refine spacious_usdOut hv hroom _ fun v hv => .shelter hv fun u v hv _ => ?_
  exact .shelter hv fun after v hv _ => .shelter hv fun u v hv _ => hk after _ v hv

/-- A withdrawal exceeds no width if the account's store has room for the reserve. -/
theorem spacious_remove_liquidity {min_rfl min_usd deadline : ℕ} (h : Launched e w)
    (ht : e.total_shares ≤ reflection_settlement.MAX_U128)
    (hroom : w.balance (.primary .tusd a) + w.usd < 2 ^ 64) :
    Spacious (remove_liquidity a n min_rfl min_usd deadline) w := by
  have hd := h.deployed
  have hw := hd.core.funded
  have hlt := hd.custody_lt
  have hR : w.custody.custody_shares ≤ MAX_U64 := by
    unfold MAX_U64
    omega
  have hU : w.usd ≤ MAX_U64 := by
    unfold MAX_U64
    omega
  unfold remove_liquidity E_ZERO_AMOUNT E_INSUFFICIENT_LIQUIDITY E_MIN_OUTPUT
    E_RESERVE_CUSTODY_MISMATCH
  refine .check (sheltered hw) (fun u _ => (commits_assert_deadline u).mp) fun _ => ?_
  refine .guard fun hn0 => .step (sheltered hw) (fun x _ => (commits_pool_borrow_state hd x).mp) ?_
  refine .check (sheltered hw) (fun u _ => (commits_assert_pool_live h u).mp) fun hl => ?_
  refine .effect (sheltered hw) (fun u _ => (commits_checkpoint_settled h hl u).mp) ?_
  refine .step (sheltered hw) (fun x _ => (commits_position_shares hl.epoch x).mp)
    (.guard fun hown => ?_)
  have hnc : w.reflection.lifecycle ≠ .CONFIGURING := by simp [hl.lifecycle]
  have hle := hown.trans (hd.books.accounting.shares_le a)
  obtain ⟨_, -, h₁⟩ := hd.rewarded hl.epoch a
  refine .shelter hw fun u v hv hc => ?_
  obtain rfl := (commits_materialize_lp_rewards hd hnc hl.epoch hl.status hl.shares_pos u).mp
    ((inferInstance : Sound .machine (materialize_lp_rewards _ a)).commits hc)
  refine .step (sheltered hv)
    (fun x _ => (commits_total_active_shares (h₁.epoch 1 hl.epoch) x).mp) ?_
  refine .step (sheltered hv) (fun p _ => (commits_reserves h₁.deployed.core.supply p).mp) ?_
  simp only [World.custody_shares_rewarded, World.usd_rewarded, LpEpoch.total_shares_rewarded]
  have hroom' : ∀ m ≤ w.usd, w.balance (.primary .tusd a) + m < 2 ^ 64 := fun m hm => by omega
  -- The last shares take all there is, others a part of it.
  by_cases hall : n = e.total_shares
  · simp only [if_pos hall]
    rw [pure_bind]
    refine .guard fun _ => .guard fun _ => ?_
    refine spacious_paid_out hv (hroom' w.usd (le_refl _)) fun after _ v hv => ?_
    refine .shelter hv fun pending v hv _ => .guard fun _ => .shelter hv fun u v hv _ => ?_
    exact .shelter hv fun u v hv _ => .write (sheltered (hv.congr rfl rfl))
  · have hlt : n < e.total_shares := lt_of_le_of_ne hle hall
    simp only [if_neg hall]
    rw [liquidity_withdrawal_eq hn0 hlt hR hU ht, pure_bind]
    refine .guard fun _ => .guard fun _ => ?_
    refine spacious_paid_out hv (hroom' _ (reflection_settlement.withdrawal_le hle))
      fun after _ v hv => sheltered hv

/-! ## The faucet's tUSD -/

omit [NamedAddresses] in
/-- A store that what is minted fits into. -/
theorem spacious_mint (h : w.balance (.primary .tusd a) + n < 2 ^ 64) :
    Spacious (primary_fungible_store.mint .tusd a n) w := by
  unfold primary_fungible_store.mint fungible_asset.mint
  refine .check ?_ (fun u _ => (commits_deposit_sanity_check u).mp) fun _ => ?_
  · unfold fungible_asset.deposit_sanity_check
    exact spares
  · rw [bind_assoc]
    refine .write ?_
    rw [pure_bind]
    exact spacious_deposit_with_ref _ fun _ _ => h

/-- A grant of tUSD exceeds no width if the claimant's store has room for it. -/
theorem spacious_claim_tusd (h : Core w)
    (hroom : w.balance (.primary .tusd a) + test_faucet.FIXED_TUSD_GRANT < 2 ^ 64) :
    Spacious (test_faucet.claim_tusd a) w := by
  have hw := h.funded
  unfold test_faucet.claim_tusd mock_usd.mint_from_faucet mock_usd.E_INVALID_CAP
    mock_usd.E_ZERO_AMOUNT
  refine .shelter hw fun u v hv _ => .shelter hv fun f v hv _ => .shelter hv fun t v hv _ => ?_
  refine .shelter hv fun u v hv _ => .guard fun _ => .guard fun _ => ?_
  refine .bind (spacious_mint ?_) fun u v hc => ?_
  · rwa [hv.tusd _ rfl]
  · unfold emit
    exact spares

end Tx

end CedraReflect
