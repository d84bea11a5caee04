/-
The accounting arithmetic and the aborts that count against it.

Four modules account: `reflection_math`, `reflection_token`, `custody_registry`
and `lp_rewards`. An abort is [`Abort.arithmetic`] if one of them stopped
because a result did not fit, a difference was below zero, a divisor was zero or
a narrowing cast would have lost bits. [`Fits`] says that a computation on the
machine does not end so, and [`Plain`] that it cannot from any state, which is
what there is to say about guards, stores and everything outside those modules.
-/
import CedraReflect.Assets
import CedraReflect.Avoids
import CedraReflect.LpRewards
import CedraReflect.ReflectionSettlement

set_option autoImplicit false
set_option linter.constructorNameAsVariable false
set_option synthInstance.maxSize 1000000000000

namespace CedraReflect

/-- The modules that account. -/
def Module.accounts : Module → Bool
  | reflection_math | reflection_token | custody_registry | lp_rewards => true
  | _ => false

/-- The accounting could not be computed. -/
def Abort.arithmetic : Abort → Prop
  | overflow m | undefined m => m.accounts = true
  | _ => False

section

variable {σ α β : Type}

/-- From `s`, no accounting of the computation goes wrong on the machine. -/
abbrev Fits (m : Tx Arithmetic σ Abort α) (s : σ) : Prop :=
  Tx.Avoids Abort.arithmetic m .machine s

/-- From no state does any accounting go wrong. -/
abbrev Plain (m : Tx Arithmetic σ Abort α) : Prop := Tx.Spares Abort.arithmetic .machine m

instance (m : Module) (n : ℕ) : Tx.Spared Abort.arithmetic (.code m n) := ⟨id⟩
instance (m : Module) : Tx.Spared Abort.arithmetic (.missing m) := ⟨id⟩
instance (reason : FrameworkError) : Tx.Spared Abort.arithmetic (.framework reason) := ⟨id⟩
instance : Tx.Spared Abort.arithmetic (.overflow .fungible_asset) := ⟨Bool.false_ne_true⟩
instance : Tx.Spared Abort.arithmetic (.overflow .reflection_settlement) := ⟨Bool.false_ne_true⟩
instance : Tx.Spared Abort.arithmetic (.undefined .reflection_settlement) := ⟨Bool.false_ne_true⟩
instance : Tx.Spared Abort.arithmetic (.overflow .pool) := ⟨Bool.false_ne_true⟩
instance : Tx.Spared Abort.arithmetic (.undefined .pool) := ⟨Bool.false_ne_true⟩

/-! ## Integers

A result that has its width is one for any reason to abort. -/

variable {bad : Abort → Prop} {m : Module} {bits x y : ℕ} {s : σ}

/-- A width that is kept. -/
theorem fits_checked (h : x < 2 ^ bits) : Tx.Avoids bad (checked m bits x) .machine s := by
  refine Tx.spares.bind fun fits s' hc => ?_
  obtain ⟨rfl, rfl⟩ := (Tx.commits_asks _ _ _ _ _).mp hc
  refine (Tx.avoids_require ?_).bind fun _ _ _ => Tx.spares
  exact decide_eq_true h

theorem fits_sub (h : y ≤ x) : Tx.Avoids bad (sub m x y) .machine s :=
  (Tx.avoids_require h).bind fun _ _ _ => Tx.spares

theorem fits_div (h : 0 < y) : Tx.Avoids bad (div m x y) .machine s :=
  (Tx.avoids_require h).bind fun _ _ _ => Tx.spares

theorem fits_mod (h : 0 < y) : Tx.Avoids bad (mod m x y) .machine s :=
  (Tx.avoids_require h).bind fun _ _ _ => Tx.spares

theorem fits_narrow (h : x < 2 ^ bits) : Tx.Avoids bad (narrow m bits x) .machine s :=
  (Tx.avoids_require h).bind fun _ _ _ => Tx.spares

instance [Tx.Spared Abort.arithmetic (.overflow m)] : Plain (σ := σ) (checked m bits x) := by
  unfold checked
  infer_instance

instance [Tx.Spared Abort.arithmetic (.undefined m)] : Plain (σ := σ) (sub m x y) := by
  unfold sub
  infer_instance

instance [Tx.Spared Abort.arithmetic (.undefined m)] : Plain (σ := σ) (div m x y) := by
  unfold div
  infer_instance

/-! ## Sequences -/

namespace Tx.Avoids

/-- The rest of a block may use what its first step does in the ideal arithmetic. -/
theorem call {f : Tx Arithmetic σ Abort α} {k : α → Tx Arithmetic σ Abort β} [Sound .machine f]
    (hf : Avoids bad f .machine s)
    (hk : ∀ a s', Tx.Commits f .ideal s a s' → Avoids bad (k a) .machine s') :
    Avoids bad (f >>= k) .machine s :=
  hf.bind fun a s' hc => hk a s' ((inferInstance : Sound .machine f).commits hc)

/-- A first step whose result and final state are known. -/
theorem step {f : Tx Arithmetic σ Abort α} {k : α → Tx Arithmetic σ Abort β} [Sound .machine f]
    {a₀ : α} {s₀ : σ} (hf : Avoids bad f .machine s)
    (hc : ∀ a s', Tx.Commits f .ideal s a s' → a = a₀ ∧ s' = s₀)
    (hk : Avoids bad (k a₀) .machine s₀) : Avoids bad (f >>= k) .machine s := by
  refine hf.call fun a s' h => ?_
  obtain ⟨rfl, rfl⟩ := hc a s' h
  exact hk

theorem effect {f : Tx Arithmetic σ Abort Unit} {k : Unit → Tx Arithmetic σ Abort β}
    [Sound .machine f] {s₀ : σ} (hf : Avoids bad f .machine s)
    (hc : ∀ u s', Tx.Commits f .ideal s u s' → s' = s₀) (hk : Avoids bad (k ()) .machine s₀) :
    Avoids bad (f >>= k) .machine s :=
  hf.step (fun u s' h => ⟨rfl, hc u s' h⟩) hk

/-- A first step that is a guard. -/
theorem check {f : Tx Arithmetic σ Abort Unit} {k : Unit → Tx Arithmetic σ Abort β}
    [Sound .machine f] {p : Prop} (hf : Avoids bad f .machine s)
    (hc : ∀ u s', Tx.Commits f .ideal s u s' → p ∧ s' = s)
    (hk : p → Avoids bad (k ()) .machine s) : Avoids bad (f >>= k) .machine s := by
  refine hf.call fun u s' h => ?_
  obtain ⟨hp, rfl⟩ := hc u s' h
  exact hk hp

variable {k : ℕ → Tx Arithmetic σ Abort α}

theorem checked (h : x < 2 ^ bits) (hk : Avoids bad (k x) .machine s) :
    Avoids bad (checked m bits x >>= k) .machine s := by
  refine (fits_checked h).call fun a s' hc => ?_
  obtain ⟨rfl, rfl⟩ := (Tx.commits_checked _ _ _).mp hc
  exact hk

theorem sub (h : y ≤ x) (hk : Avoids bad (k (x - y)) .machine s) :
    Avoids bad (sub m x y >>= k) .machine s := by
  refine (fits_sub h).call fun a s' hc => ?_
  obtain ⟨-, rfl, rfl⟩ := (Tx.commits_sub _ _ _).mp hc
  exact hk

theorem div (h : 0 < y) (hk : Avoids bad (k (x / y)) .machine s) :
    Avoids bad (div m x y >>= k) .machine s := by
  refine (fits_div h).call fun a s' hc => ?_
  obtain ⟨-, rfl, rfl⟩ := (Tx.commits_div _ _ _).mp hc
  exact hk

theorem mod (h : 0 < y) (hk : Avoids bad (k (x % y)) .machine s) :
    Avoids bad (mod m x y >>= k) .machine s := by
  refine (fits_mod h).call fun a s' hc => ?_
  obtain ⟨-, rfl, rfl⟩ := (Tx.commits_mod _ _ _).mp hc
  exact hk

theorem narrow (h : x < 2 ^ bits) (hk : Avoids bad (k x) .machine s) :
    Avoids bad (narrow m bits x >>= k) .machine s := by
  refine (fits_narrow h).call fun a s' hc => ?_
  obtain ⟨-, rfl, rfl⟩ := (Tx.commits_narrow _ _ _).mp hc
  exact hk

end Tx.Avoids

/-! ## Signed corrections -/

/-- The magnitude of a correction is a `u256`. -/
def Small (z : ℤ) : Prop := z.natAbs < 2 ^ 256

/-- A value is as small as the correction that is made of it. -/
theorem small_ofInt {z : ℤ} (h : Small (SignedU256.ofInt z).toInt) : Small z := by
  rwa [SignedU256.toInt_ofInt] at h

open reflection_math

variable {v : SignedU256} {n : ℕ}

/-- The only width that is checked is that of the result. -/
theorem fits_add_unsigned (h : Small (v.toInt + n)) : Fits (add_unsigned v n) s := by
  obtain ⟨neg, magnitude, hcanonical⟩ := v
  unfold add_unsigned
  refine Tx.avoids_ite (fun _ => Tx.spares) fun _ => Tx.avoids_ite (fun _ => ?_) fun hneg => ?_
  · exact Tx.spares
  · refine .checked ?_ Tx.spares
    unfold Small SignedU256.toInt at h
    rw [if_neg hneg] at h
    change ((magnitude : ℤ) + n).natAbs < 2 ^ 256 at h
    show magnitude + n < 2 ^ 256
    omega

theorem fits_subtract_unsigned (h : Small (v.toInt - n)) : Fits (subtract_unsigned v n) s := by
  obtain ⟨neg, magnitude, hcanonical⟩ := v
  unfold subtract_unsigned
  refine Tx.avoids_dite (fun _ => Tx.spares) fun _ => Tx.avoids_ite (fun hneg => ?_) fun _ => ?_
  · refine .checked ?_ Tx.spares
    unfold Small SignedU256.toInt at h
    rw [if_pos hneg] at h
    change (-(magnitude : ℤ) - n).natAbs < 2 ^ 256 at h
    show magnitude + n < 2 ^ 256
    omega
  · exact Tx.spares

theorem fits_apply {base : ℕ} (h : (base : ℤ) + v.toInt < 2 ^ 256) : Fits (apply base v) s := by
  obtain ⟨neg, magnitude, hcanonical⟩ := v
  unfold apply
  refine Tx.avoids_ite (fun _ => ?_) fun hneg => ?_
  · unfold E_NEGATIVE_RESULT
    exact .guard fun hle => fits_sub hle
  · refine fits_checked ?_
    unfold SignedU256.toInt at h
    rw [if_neg hneg] at h
    change (base : ℤ) + (magnitude : ℤ) < 2 ^ 256 at h
    show base + magnitude < 2 ^ 256
    omega

instance (left right : ℕ) : Plain (σ := σ) (checked_subtract left right) := by
  constructor
  intro s
  unfold checked_subtract E_UNDERFLOW
  exact .guard fun hle => fits_sub hle

end

/-! ## Stores -/

section

open fungible_asset

variable (ref : Metadata) (store : Address) (n : ℕ) (asset : FungibleAsset)

instance (event : Event) : Plain (emit event) := by
  unfold emit
  infer_instance

instance : Plain (balance store) := by
  unfold balance
  infer_instance

instance : Plain (assert_ref ref store) := by
  unfold assert_ref
  infer_instance

instance : Plain (withdraw_with_ref ref store n) := by
  unfold withdraw_with_ref
  infer_instance

instance : Plain (deposit_with_ref ref store asset) := by
  unfold deposit_with_ref
  infer_instance

instance (recipient : Address) : Plain (transfer_with_ref ref store recipient n) := by
  unfold transfer_with_ref
  infer_instance

instance : Plain (extract asset n) := by
  unfold extract
  infer_instance

instance : Plain (mint ref n) := by
  unfold mint
  infer_instance

instance : Plain (set_frozen_flag ref store) := by
  unfold set_frozen_flag
  infer_instance

instance [NamedAddresses] (owner : Address) : Plain (withdraw_sanity_check owner store) := by
  unfold withdraw_sanity_check
  infer_instance

instance : Plain (deposit_sanity_check store) := by
  unfold deposit_sanity_check
  infer_instance

end

/-! ## Settlement quotes -/

section

open reflection_settlement

variable {σ : Type} (a b c d e : ℕ)

instance : Plain (σ := σ) (fee a b) := by
  unfold fee E_FEE_TOO_HIGH E_NARROWING_OVERFLOW
  infer_instance

instance : Plain (σ := σ) (constant_product_output a b c d) := by
  unfold constant_product_output E_ZERO_DENOMINATOR E_NARROWING_OVERFLOW
  infer_instance

instance : Plain (σ := σ) (ceil_div_u256 a b) := by
  unfold ceil_div_u256
  infer_instance

instance : Plain (σ := σ) (liquidity_mint a b c d e) := by
  unfold liquidity_mint E_ZERO_DENOMINATOR E_NARROWING_OVERFLOW
  infer_instance

instance : Plain (σ := σ) (liquidity_withdrawal a b c d) := by
  unfold liquidity_withdrawal E_INVALID_LP_BURN E_NARROWING_OVERFLOW
  infer_instance

instance : Plain (σ := σ) (newton_step a b) := by
  unfold newton_step
  infer_instance

theorem plain_integer_sqrt_loop (budget : ℕ) :
    ∀ current next, Plain (σ := σ) (integer_sqrt_loop a budget current next) := by
  induction budget with
  | zero =>
      intro current next
      unfold integer_sqrt_loop
      infer_instance
  | succ budget ih =>
      intro current next
      unfold integer_sqrt_loop
      infer_instance

instance : Plain (σ := σ) (initial_lp_shares a b) := by
  have hloop := plain_integer_sqrt_loop (σ := σ)
  unfold initial_lp_shares integer_sqrt
  infer_instance

end

/-! ## `mock_usd` -/

section

open mock_usd

variable (cap : PoolSettlementCapability) (store : Address) (n : ℕ) (asset : FungibleAsset)

instance : Plain mock_usd.borrow_state := by
  unfold mock_usd.borrow_state
  infer_instance

instance (f : MockUsdState → MockUsdState) : Plain (mock_usd.modify_state f) := by
  unfold mock_usd.modify_state
  infer_instance

instance : Plain (assert_pool_cap cap store) := by
  unfold assert_pool_cap mock_usd.E_INVALID_CAP
  infer_instance

instance : Plain (deposit_to_pool cap store asset) := by
  unfold deposit_to_pool mock_usd.E_INVALID_CAP
  infer_instance

instance : Plain (withdraw_from_pool cap store n) := by
  unfold withdraw_from_pool
  infer_instance

instance (recipient : Address) : Plain (primary_fungible_store.mint .tusd recipient n) := by
  unfold primary_fungible_store.mint
  infer_instance

instance (cap : FaucetMintCapability) (recipient operator : Address) :
    Plain (mint_from_faucet cap recipient n operator) := by
  unfold mint_from_faucet mock_usd.E_INVALID_CAP mock_usd.E_ZERO_AMOUNT
  infer_instance

end

/-! ## `custody_registry` -/

section

open custody_registry

variable (cap : CustodySettlementCapability) (reserve vault : Address) (epoch : ℕ)

instance : Plain (custody_registry.borrow_registry) := by
  unfold custody_registry.borrow_registry
  infer_instance

instance [NamedAddresses] (admin : Address) : Plain (register admin reserve vault) := by
  unfold register E_NOT_CORE_ADMIN custody_registry.E_ALREADY_REGISTERED
  infer_instance

instance : Plain (assert_capability cap) := by
  unfold assert_capability E_INVALID_CAPABILITY
  infer_instance

instance : Plain (assert_active_route cap reserve epoch vault) := by
  unfold assert_active_route E_INVALID_RESERVE E_INVALID_ACTIVE_VAULT
  infer_instance

instance : Plain (assert_claim_vault cap epoch vault) := by
  unfold assert_claim_vault E_UNAPPROVED_VAULT
  infer_instance

instance : Plain (assert_reserve cap reserve) := by
  unfold assert_reserve E_INVALID_RESERVE
  infer_instance

end

/-! ## Guards of the core -/

section

open reflection_token

variable (a b : Address)

instance : Plain (borrow_state) := by
  unfold borrow_state
  infer_instance

instance : Plain (borrow_custody) := by
  unfold borrow_custody
  infer_instance

instance (f : ReflectionState → ReflectionState) : Plain (modify_state f) := by
  unfold modify_state
  infer_instance

instance (f : CustodyAccounting → CustodyAccounting) : Plain (modify_custody f) := by
  unfold modify_custody
  infer_instance

instance [NamedAddresses] : Plain (assert_core_publisher a) := by
  unfold assert_core_publisher E_NOT_ADMIN
  infer_instance

instance : Plain (assert_configuring) := by
  unfold assert_configuring E_NOT_CONFIGURING
  infer_instance

instance : Plain (assert_live) := by
  unfold assert_live E_NOT_LIVE
  infer_instance

instance : Plain (assert_token_transferable) := by
  unfold assert_token_transferable E_NOT_LIVE
  infer_instance

instance : Plain (assert_pool a) := by
  unfold assert_pool E_NO_POOL E_NOT_CANONICAL_POOL
  infer_instance

instance : Plain (assert_registered_wallet a) := by
  unfold assert_registered_wallet E_UNREGISTERED_WALLET
  infer_instance

instance [NamedAddresses] : Plain (assert_eligible_primary_store a) := by
  unfold assert_eligible_primary_store E_EXCLUDED_RECIPIENT
  infer_instance

instance : Plain (assert_custody_matches_raw a) := by
  unfold assert_custody_matches_raw E_CUSTODY_SHARE_MISMATCH
  infer_instance

instance : Plain (ensure_position a) := by
  unfold ensure_position
  infer_instance

instance : Plain (borrow_position a) := by
  unfold borrow_position
  infer_instance

instance : Plain (launch_state) := by
  unfold launch_state
  infer_instance

instance : Plain (is_sealed) := by
  unfold is_sealed
  infer_instance

instance : Plain (is_closed) := by
  unfold is_closed
  infer_instance

instance : Plain (reflection_fee_bps) := by
  unfold reflection_fee_bps
  infer_instance

instance : Plain (primary_store_is_excluded a) := by
  unfold primary_store_is_excluded
  infer_instance

instance : Plain (add_exclusion a) := by
  unfold add_exclusion
  infer_instance

instance [NamedAddresses] (n : ℕ) : Plain (initialize_token a n) := by
  unfold initialize_token reflection_token.E_NOT_ADMIN
    reflection_token.E_ALREADY_INITIALIZED reflection_token.E_FEE_TOO_HIGH
  infer_instance

instance [NamedAddresses] : Plain (issue_settlement_capability a b) := by
  unfold issue_settlement_capability E_NOT_CANONICAL_POOL
    reflection_token.E_CAPABILITY_ALREADY_ISSUED
  infer_instance

instance [NamedAddresses] : Plain (reflection_token.issue_faucet_capability a b) := by
  unfold reflection_token.issue_faucet_capability E_NOT_CANONICAL_POOL
    reflection_token.E_CAPABILITY_ALREADY_ISSUED
  infer_instance

instance [NamedAddresses] (store vault : Address) :
    Plain (register_canonical_custody a b store vault) := by
  unfold register_canonical_custody E_NOT_CANONICAL_POOL E_POOL_ALREADY_REGISTERED
    E_NOT_CUSTODY_STORE_OWNER E_STORE_ALREADY_CLASSIFIED E_STORE_NOT_EMPTY
    E_CUSTODY_ALREADY_REGISTERED
  infer_instance

instance : Plain (bind_protocol_exclusion a) := by
  unfold bind_protocol_exclusion E_UNREGISTERED_WALLET E_STORE_ALREADY_CLASSIFIED
    E_STORE_NOT_EMPTY
  infer_instance

instance [NamedAddresses] : Plain (bind_protocol_exclusions a) := by
  unfold bind_protocol_exclusions E_PROTOCOL_EXCLUSIONS_CLOSED
  infer_instance

instance [NamedAddresses] (c : Address) : Plain (seal_launch a b c) := by
  unfold seal_launch reflection_token.E_NOT_SEALABLE
  infer_instance

end

/-! ## Guards of the LP epoch -/

section

open lp_rewards

variable (cap : LpAccountingCapability) (epoch : LpEpoch) (a b : Address) (k : ℕ)

instance : Plain (lp_rewards.borrow_registry) := by
  unfold lp_rewards.borrow_registry
  infer_instance

instance : Plain (borrow_epoch k) := by
  unfold borrow_epoch
  infer_instance

instance : Plain (lp_rewards.borrow_position epoch a) := by
  unfold lp_rewards.borrow_position
  infer_instance

instance : Plain (write_epoch k epoch) := by
  unfold write_epoch
  infer_instance

instance : Plain (assert_cap cap) := by
  unfold assert_cap lp_rewards.E_INVALID_CAPABILITY
  infer_instance

instance : Plain (assert_active_mutation epoch) := by
  unfold assert_active_mutation E_EPOCH_NOT_ACTIVE
    E_ZERO_DENOMINATOR_QUARANTINE
  infer_instance

instance : Plain (assert_active_epoch_healthy_internal epoch) := by
  unfold assert_active_epoch_healthy_internal E_EPOCH_NOT_ACTIVE
    E_ZERO_DENOMINATOR_QUARANTINE
  infer_instance

instance : Plain (assert_active_epoch_healthy cap) := by
  unfold assert_active_epoch_healthy E_NO_ACTIVE_EPOCH
  infer_instance

instance [NamedAddresses] : Plain (initialize_epochs a b) := by
  unfold initialize_epochs E_WRONG_AMM_ADDRESS lp_rewards.E_ALREADY_INITIALIZED
  infer_instance

instance : Plain (active_epoch_id) := by
  unfold active_epoch_id E_NO_ACTIVE_EPOCH
  infer_instance

instance : Plain (active_reward_vault) := by
  unfold active_reward_vault
  infer_instance

instance : Plain (reward_vault k) := by
  unfold reward_vault
  infer_instance

instance : Plain (total_active_shares) := by
  unfold total_active_shares
  infer_instance

instance : Plain (position_shares k a) := by
  unfold position_shares
  infer_instance

end

/-! ## The faucet and the dispatcher -/

section

open test_faucet

variable (a b : Address) (n : ℕ)

instance [NamedAddresses] : Plain (mock_usd.issue_faucet_capability a) := by
  unfold mock_usd.issue_faucet_capability mock_usd.E_NOT_PUBLISHER
    mock_usd.E_CAPABILITY_ALREADY_ISSUED
  infer_instance

instance [NamedAddresses] (store : Address) :
    Plain (mock_usd.issue_pool_settlement_capability a b store) := by
  unfold mock_usd.issue_pool_settlement_capability mock_usd.E_NOT_PUBLISHER
    mock_usd.E_CAPABILITY_ALREADY_ISSUED mock_usd.E_INVALID_CAP
  infer_instance

instance [NamedAddresses] (cap : PoolSettlementCapability) :
    Plain (mock_usd.bootstrap_pool_reserve cap a) := by
  unfold mock_usd.bootstrap_pool_reserve mock_usd.E_NOT_CONFIGURING
    mock_usd.E_BOOTSTRAP_COMPLETE
  infer_instance

instance : Plain (borrow_faucet) := by
  unfold borrow_faucet
  infer_instance

instance (faucet : FaucetState) : Plain (write_faucet faucet) := by
  unfold write_faucet
  infer_instance

instance [NamedAddresses] : Plain (initialize_faucet a b) := by
  unfold initialize_faucet test_faucet.E_ALREADY_INITIALIZED E_WRONG_FAUCET_ADDRESS
  infer_instance

instance (claims : Table Address ℕ) : Plain (assert_available claims a) := by
  unfold assert_available E_COOLDOWN
  infer_instance

instance : Plain (assert_open) := by
  unfold assert_open test_faucet.E_NOT_LIVE
  infer_instance

instance [NamedAddresses] : Plain (claim_tusd a) := by
  unfold claim_tusd
  infer_instance

end

end CedraReflect
