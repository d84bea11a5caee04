/-
From genesis to the launch.

Before the launch the system is in one of the states of [`World.configuring`]:
nothing circulates, and all that the publishers can do one by one is to hand
out the faucet's capabilities and to bind the exclusions. The launch itself is
one transaction and its result is the closed form [`World.launched`].
-/
import CedraReflect.Transition

set_option autoImplicit false
set_option linter.constructorNameAsVariable false

namespace CedraReflect

open NamedAddresses
open reflection_token (TOTAL_SUPPLY MAX_FEE_BPS is_excluded_store)
open reflection_math (MAGNITUDE MAGNITUDE_pos)
open pool (INITIAL_TRFL_LIQUIDITY INITIAL_TUSD_LIQUIDITY)

@[simp] theorem Table.notMem_empty {κ ν : Type} (k : κ) : k ∉ (∅ : Table κ ν) :=
  Finmap.notMem_empty

/-! ## The states -/

/-- The exclusions of genesis. -/
def genesisExclusions [NamedAddresses] : Table Address Bool :=
  (((∅ : Table Address Bool).insert .reward_vault true).insert .distribution_vault true).insert
    (.primary .trfl reflection_core) true

/-- The primary stores of the two companion publishers. -/
def boundExclusions [NamedAddresses] (exclusions : Table Address Bool) : Table Address Bool :=
  (exclusions.insert (.primary .trfl test_assets) true).insert (.primary .trfl test_amm) true

/-- All exclusions of a launched system. -/
def launchedExclusions [NamedAddresses] : Table Address Bool :=
  boundExclusions ((genesisExclusions.insert .rfl_reserve true).insert .lp_reward_vault true)

/-- The token's event. -/
def tokenCreated (fee_bps : ℕ) : Event :=
  .TokenCreated 2 0 2 0 "reflection-pilot-002" "cedra-testnet" (.metadata .trfl) .reward_vault
    .distribution_vault fee_bps TOTAL_SUPPLY 6

namespace World

/-- Before the launch: `faucet` and `bound` tell whether the publishers have
handed out the faucet's capabilities and bound the exclusions already. -/
def configuring [NamedAddresses] (fee_bps : ℕ) (faucet bound : Bool) (now : ℕ)
    (events : List Event) : World where
  published := true
  reflection :=
    { index := 0
      index_remainder := 0
      total_shares := 0
      aggregate_correction := reflection_math.zero
      unallocated_fees := 0
      lifetime_fees := 0
      lifetime_materialized := 0
      fee_bps := fee_bps
      lifecycle := .CONFIGURING
      positions := ∅
      exclusions := if bound = true then boundExclusions genesisExclusions else genesisExclusions
      protocol_exclusions_bound := bound
      pool_store := .zero
      pool_registered := false
      settlement_capability_issued := false
      faucet_capability_issued := faucet }
  custody :=
    { pool_position := ⟨reflection_math.zero, 0⟩
      custody_shares := 0
      lifetime_custody_routed := 0
      rounding_reserve := 0
      registered_wallets := ∅
      registered_wallet_count := 0
      registered := false }
  custody_registry := none
  lp_registry := none
  pool := none
  mock_usd := { mock_usd.published with faucet_capability_issued := faucet }
  faucet := if faucet = true then some ⟨⟨1⟩, ⟨1⟩, ∅, ∅⟩ else none
  balance := Function.update (fun _ => 0) .distribution_vault TOTAL_SUPPLY
  frozen := Function.update (Function.update (fun _ => false) .reward_vault true)
    .distribution_vault true
  in_flight := fun _ => 0
  now_seconds := now
  events := events

/-- The bootstrap owner's epoch. -/
def launchEpoch [NamedAddresses] : LpEpoch :=
  { lp_rewards.new_epoch 1 .lp_epoch_state .lp_reward_vault with
    total_shares := 500_000_000
    positions := (∅ : Table Address LpPosition).insert bootstrap_lp
      ⟨500_000_000, reflection_math.zero, 0⟩ }

/-- The events of the launch up to the seed, in the order of their emission. -/
def seedEvents [NamedAddresses] : List Event :=
  [.CustodyAdapterRegistered 1 .rfl_reserve 1 .lp_reward_vault,
    .LpEpochOpened 1 .lp_epoch_state .lp_reward_vault,
    .PoolReserveBound .usd_reserve test_amm,
    .ProtocolPrimaryStoreExcluded test_assets (.primary .trfl test_assets),
    .ProtocolPrimaryStoreExcluded test_amm (.primary .trfl test_amm),
    .CustodySharesChanged true 500_000_000 500_000_000 500_000_000,
    .MockUsdMinted .usd_reserve 500_000_000 test_amm,
    .LpSharesChanged 1 bootstrap_lp true 500_000_000 500_000_000 500_000_000]

/-- The events of the seal. -/
def sealEvents [NamedAddresses] (fee_bps : ℕ) : List Event :=
  [.CoreLaunchSealed fee_bps (.metadata .trfl) .reward_vault .distribution_vault .rfl_reserve,
    .LaunchSealed fee_bps 30 2_000 100_000_000_000 100_000_000_000 100_000_000_000 10_000
      1_000_000_000 1_000_000_000 3_600 bootstrap_lp .rfl_reserve .usd_reserve .lp_reward_vault
      500_000_000 500_000_000 500_000_000,
    .PoolLifecycleChanged .CONFIGURING .LIVE,
    .LiquiditySeeded 1 bootstrap_lp 500_000_000 500_000_000 500_000_000 500_000_000 500_000_000]

/-- Custody, epoch and faucet in place and both reserves seeded. -/
def seeded [NamedAddresses] (fee_bps now : ℕ) (lifecycle : Lifecycle) (pool : Option PoolState)
    (events : List Event) : World where
  published := true
  reflection :=
    { index := 0
      index_remainder := 0
      total_shares := 500_000_000
      aggregate_correction := reflection_math.zero
      unallocated_fees := 0
      lifetime_fees := 0
      lifetime_materialized := 0
      fee_bps := fee_bps
      lifecycle := lifecycle
      positions := ∅
      exclusions := launchedExclusions
      protocol_exclusions_bound := true
      pool_store := .rfl_reserve
      pool_registered := true
      settlement_capability_issued := true
      faucet_capability_issued := true }
  custody :=
    { pool_position := ⟨reflection_math.zero, 0⟩
      custody_shares := 500_000_000
      lifetime_custody_routed := 0
      rounding_reserve := 0
      registered_wallets := ∅
      registered_wallet_count := 0
      registered := true }
  custody_registry := some custody_registry.deployed
  lp_registry := some ⟨1, Finmap.singleton 1 launchEpoch⟩
  pool := pool
  mock_usd := ⟨true, true, true, .usd_reserve⟩
  faucet := some ⟨⟨1⟩, ⟨1⟩, ∅, ∅⟩
  balance := fun
    | .distribution_vault => 999_999_500_000_000
    | .rfl_reserve => 500_000_000
    | .usd_reserve => 500_000_000
    | _ => 0
  frozen := fun s => decide (s ∈ frozenStores)
  in_flight := fun _ => 0
  now_seconds := now
  events := events

/-- After the launch. -/
def launched [NamedAddresses] (fee_bps now : ℕ) (events : List Event) : World :=
  seeded fee_bps now .LIVE (some (pool.deployed .LIVE))
    (events ++ seedEvents ++ sealEvents fee_bps)

/-! ### The steps of the launch -/

variable (w : World)

/-- `issue_settlement_capability`. -/
def settlementIssued : World :=
  { w with reflection := { w.reflection with settlement_capability_issued := true } }

/-- `register_canonical_custody` of the pool's reserve and the epoch's vault. -/
def custodyRegistered : World :=
  { w with
    reflection :=
      { w.reflection with
        pool_store := .rfl_reserve
        pool_registered := true
        exclusions := (w.reflection.exclusions.insert .rfl_reserve true).insert .lp_reward_vault
          true }
    custody := { w.custody with registered := true }
    custody_registry := some custody_registry.deployed
    frozen := Function.update (Function.update w.frozen .rfl_reserve true) .lp_reward_vault true
    events := w.events ++ [.CustodyAdapterRegistered 1 .rfl_reserve 1 .lp_reward_vault] }

/-- `initialize_epochs`. -/
def epochsOpened : World :=
  { w with
    lp_registry := some ⟨1, (∅ : Table ℕ LpEpoch).insert 1
      (lp_rewards.new_epoch 1 .lp_epoch_state .lp_reward_vault)⟩
    events := w.events ++ [.LpEpochOpened 1 .lp_epoch_state .lp_reward_vault] }

/-- `mock_usd::issue_pool_settlement_capability` for the pool's reserve. -/
def usdReserveBound [NamedAddresses] : World :=
  { w with
    mock_usd := { w.mock_usd with pool_capability_issued := true, pool_reserve := .usd_reserve }
    frozen := Function.update w.frozen .usd_reserve true
    events := w.events ++ [.PoolReserveBound .usd_reserve test_amm] }

/-- `test_faucet::initialize`. -/
def faucetInitialized : World :=
  { w with
    reflection := { w.reflection with faucet_capability_issued := true }
    mock_usd := { w.mock_usd with faucet_capability_issued := true }
    faucet := some ⟨⟨1⟩, ⟨1⟩, ∅, ∅⟩ }

/-- `bind_protocol_exclusions`. -/
def exclusionsBound [NamedAddresses] : World :=
  { w with
    reflection :=
      { w.reflection with
        exclusions := boundExclusions w.reflection.exclusions
        protocol_exclusions_bound := true }
    events := w.events ++ [.ProtocolPrimaryStoreExcluded test_assets (.primary .trfl test_assets),
      .ProtocolPrimaryStoreExcluded test_amm (.primary .trfl test_amm)] }

/-- All capabilities handed over. -/
def handedOff [NamedAddresses] (fee_bps now : ℕ) (events : List Event) : World :=
  let w := configuring fee_bps false false now events
  w.settlementIssued.custodyRegistered.epochsOpened.usdReserveBound.faucetInitialized.exclusionsBound

/-- `bootstrap_pool_reserve`. -/
def usdSeeded [NamedAddresses] : World :=
  ((({ w with mock_usd := { w.mock_usd with pool_bootstrap_complete := true } } : World).minted .tusd
    500_000_000).credit .tusd .usd_reserve 500_000_000).logged
      (.MockUsdMinted .usd_reserve 500_000_000 test_amm)

/-- `seed_pool_from_distribution`. -/
def trflSeeded : World :=
  (w.moved .distribution_vault 500_000_000 .rfl_reserve).addCustody 500_000_000

end World

/-! ## The specifications of the steps -/

namespace Tx

open reflection_token (issue_settlement_capability register_canonical_custody
  bind_protocol_exclusions assert_core_publisher)

variable [NamedAddresses] {w w' : World} {r : Arithmetic} {a b c : Address}

@[simp] theorem commits_assert_core_publisher (u : Unit) :
    Commits (assert_core_publisher a) r w u w' ↔ a = reflection_core ∧ w' = w := by
  simp [assert_core_publisher]

theorem commits_issue_settlement_capability (cap : SettlementCapability) :
    Commits (issue_settlement_capability a b) r w cap w' ↔
      a = reflection_core ∧ b = test_amm ∧ w.reflection.lifecycle = .CONFIGURING
        ∧ w.reflection.settlement_capability_issued = false ∧ cap = ⟨1⟩
        ∧ w' = w.settlementIssued := by
  simp only [issue_settlement_capability, commits_bind, commits_assert_core_publisher,
    commits_require, commits_assert_configuring, commits_borrow_state, commits_modify_state,
    commits_pure, and_assoc, exists_and_left, exists_eq_left, exists_const]
  rfl

omit [NamedAddresses] in
theorem commits_add_exclusion (store : Address) (u : Unit) :
    Commits (reflection_token.add_exclusion store) r w u w' ↔
      store ∉ w.reflection.exclusions
        ∧ w' = { w with reflection := { w.reflection with
            exclusions := w.reflection.exclusions.insert store true } } := by
  simp only [reflection_token.add_exclusion, commits_bind, commits_borrow_state, commits_require,
    commits_modify_state, and_assoc, exists_and_left, exists_eq_left, exists_const]

theorem commits_initialize_epochs (cap : LpAccountingCapability) :
    Commits (lp_rewards.initialize_epochs a .lp_reward_vault) r w cap w' ↔
      a = test_amm ∧ w.lp_registry = none ∧ cap = ⟨1⟩ ∧ w' = w.epochsOpened := by
  simp only [lp_rewards.initialize_epochs, commits_bind, commits_require, commits_gets,
    commits_update, commits_emit, commits_pure, and_assoc, exists_and_left, exists_eq_left,
    exists_const, Option.isNone_iff_eq_none]
  rfl

theorem commits_issue_pool_settlement_capability (cap : PoolSettlementCapability) :
    Commits (mock_usd.issue_pool_settlement_capability a b .usd_reserve) r w cap w' ↔
      a = test_assets ∧ w.mock_usd.pool_capability_issued = false ∧ test_amm = b
        ∧ w.balance .usd_reserve = 0 ∧ cap = ⟨.usd_reserve, 1⟩
        ∧ w' = { w.usdReserveBound with
            events := w.events ++ [.PoolReserveBound .usd_reserve b] } := by
  simp only [mock_usd.issue_pool_settlement_capability, mock_usd.borrow_state,
    mock_usd.modify_state, commits_bind, commits_require, commits_gets, commits_balance,
    commits_update, commits_set_frozen_flag, commits_emit, commits_pure, and_assoc,
    exists_and_left, exists_eq_left, exists_const]
  simp only [Address.store_metadata, Address.owner, true_and]
  rfl

theorem commits_initialize_faucet (u : Unit) :
    Commits (test_faucet.initialize_faucet a b) r w u w' ↔
      w.faucet = none ∧ b = test_assets ∧ a = reflection_core
        ∧ w.reflection.lifecycle = .CONFIGURING
        ∧ w.reflection.faucet_capability_issued = false
        ∧ w.mock_usd.faucet_capability_issued = false ∧ w' = w.faucetInitialized := by
  simp only [test_faucet.initialize_faucet, reflection_token.issue_faucet_capability,
    mock_usd.issue_faucet_capability, mock_usd.borrow_state, mock_usd.modify_state,
    test_faucet.write_faucet, commits_bind, commits_require, commits_gets,
    commits_assert_core_publisher, commits_assert_configuring, commits_borrow_state,
    commits_modify_state, commits_update, commits_pure, and_assoc, exists_and_left,
    exists_eq_left, exists_const, Option.isNone_iff_eq_none]
  constructor
  · rintro ⟨hf, hb, ha, -, hl, hi, -, hm, hw⟩
    exact ⟨hf, hb, ha, hl, hi, hm, hw⟩
  · rintro ⟨hf, hb, ha, hl, hi, hm, hw⟩
    exact ⟨hf, hb, ha, hb, hl, hi, hb, hm, hw⟩

theorem commits_register_canonical_custody (cap : CustodySettlementCapability) :
    Commits (register_canonical_custody a b .rfl_reserve .lp_reward_vault) r w cap w' ↔
      a = reflection_core ∧ w.reflection.lifecycle = .CONFIGURING ∧ b = test_amm
        ∧ w.reflection.pool_registered = false ∧ w.balance .rfl_reserve = 0
        ∧ w.balance .lp_reward_vault = 0 ∧ w.custody.registered = false
        ∧ .rfl_reserve ∉ w.reflection.exclusions ∧ .lp_reward_vault ∉ w.reflection.exclusions
        ∧ w.custody_registry = none ∧ cap = custody_registry.deployed_cap
        ∧ w' = w.custodyRegistered := by
  simp only [register_canonical_custody, custody_registry.register, commits_bind,
    commits_assert_core_publisher, commits_assert_configuring, commits_require,
    commits_borrow_state, commits_borrow_custody, commits_balance, commits_modify_state,
    commits_modify_custody, commits_add_exclusion, commits_set_frozen_flag, commits_gets,
    commits_update, commits_emit, commits_pure, and_assoc, exists_and_left, exists_eq_left,
    exists_const]
  simp only [Address.store_metadata, Address.owner, true_and, is_excluded_store,
    reflection_token.is_eligible_wallet_store]
  have hx : ∀ s, s ∉ w.reflection.exclusions → w.reflection.exclusions.lookup s = none :=
    fun s hs => Finmap.lookup_eq_none.mpr hs
  -- The two stores that the custody excludes were not excluded before, nor is one the other.
  constructor
  · rintro ⟨ha, hl, hb, hp, -, -, -, hR, hV, hc, -, -, -, -, hxR, hxV, -, hreg, hcap, hw⟩
    exact ⟨ha, hl, hb, hp, hR, hV, hc, hxR, fun hm => hxV (Finmap.mem_insert.mpr (.inr hm)),
      Option.isNone_iff_eq_none.mp hreg, hcap, hw⟩
  · rintro ⟨ha, hl, hb, hp, hR, hV, hc, hxR, hxV, hreg, hcap, hw⟩
    refine ⟨ha, hl, hb, hp, hb.symm, hb.symm, by decide, hR, hV, hc, ?_, ?_, by simp, by simp, hxR,
      ?_, ha, Option.isNone_iff_eq_none.mpr hreg, hcap, hw⟩
    · rw [hx _ hxR]
      rfl
    · rw [hx _ hxV]
      rfl
    · simpa [Finmap.mem_insert] using hxV

omit [NamedAddresses] in
theorem commits_bind_protocol_exclusion (u : Unit) :
    Commits (reflection_token.bind_protocol_exclusion a) r w u w' ↔
      reflection_token.is_registered_wallet w.custody a = false
        ∧ .primary .trfl a ∉ w.reflection.exclusions ∧ w.raw a = 0
        ∧ w' = { w with
            reflection := { w.reflection with
              exclusions := w.reflection.exclusions.insert (.primary .trfl a) true }
            events := w.events ++ [.ProtocolPrimaryStoreExcluded a (.primary .trfl a)] } := by
  simp only [reflection_token.bind_protocol_exclusion, commits_bind, commits_borrow_custody,
    commits_require, commits_borrow_state, commits_balance, commits_add_exclusion, commits_emit,
    and_assoc, exists_and_left, exists_eq_left, exists_const]
  constructor
  · rintro ⟨hr, hx, hb, -, hw⟩
    exact ⟨hr, hx, hb, hw⟩
  · rintro ⟨hr, hx, hb, hw⟩
    exact ⟨hr, hx, hb, hx, hw⟩

theorem commits_bind_protocol_exclusions (u : Unit) :
    Commits (bind_protocol_exclusions a) r w u w' ↔
      a = reflection_core ∧ w.reflection.lifecycle = .CONFIGURING
        ∧ w.reflection.protocol_exclusions_bound = false
        ∧ (∀ b, b = test_assets ∨ b = test_amm →
          reflection_token.is_registered_wallet w.custody b = false ∧ w.raw b = 0
            ∧ .primary .trfl b ∉ w.reflection.exclusions)
        ∧ test_amm ≠ test_assets ∧ w' = w.exclusionsBound := by
  simp only [bind_protocol_exclusions, commits_bind, commits_assert_core_publisher,
    commits_assert_configuring, commits_borrow_state, commits_require,
    commits_bind_protocol_exclusion, commits_modify_state, and_assoc, exists_and_left,
    exists_eq_left, exists_const, forall_eq_or_imp, forall_eq, Finmap.mem_insert,
    Address.primary.injEq, true_and, not_or]
  constructor
  · rintro ⟨ha, hl, hb, h1, h2, h3, h4, h5, h6, h7, hw⟩
    refine ⟨ha, hl, hb, h1, h3, h2, h4, h7, h6, h5, ?_⟩
    rw [hw]
    simp [World.exclusionsBound, boundExclusions]
  · rintro ⟨ha, hl, hb, h1, h3, h2, h4, h7, h6, h5, hw⟩
    refine ⟨ha, hl, hb, h1, h2, h3, h4, h5, h6, h7, ?_⟩
    rw [hw]
    simp [World.exclusionsBound, boundExclusions]

end Tx

/-! ## The invariant at the launch -/

/-- A state in which no wallet has been registered and no fee been paid. -/
theorem core_fresh {w : World} (hpositions : w.reflection.positions = ∅)
    (hindex : w.reflection.index = 0) (hremainder : w.reflection.index_remainder = 0)
    (hunallocated : w.reflection.unallocated_fees = 0) (hfees : w.reflection.lifetime_fees = 0)
    (hmaterialized : w.reflection.lifetime_materialized = 0)
    (haggregate : w.reflection.aggregate_correction = reflection_math.zero)
    (hcustody : w.custody.pool_position = ⟨reflection_math.zero, 0⟩
      ∧ w.custody.lifetime_custody_routed = 0 ∧ w.custody.rounding_reserve = 0
      ∧ w.custody.registered_wallets = ∅ ∧ w.custody.registered_wallet_count = 0)
    (htotal : w.reflection.total_shares = w.custody.custody_shares)
    (hreserve : w.custody.custody_shares = w.balance .rfl_reserve)
    (hvault : w.balance .reward_vault = 0)
    (hsupply : w.balance .rfl_reserve + w.balance .reward_vault + w.balance .distribution_vault
      + w.balance .lp_reward_vault + w.in_flight .trfl = TOTAL_SUPPLY)
    (helsewhere : ∀ s : Address, s.store_metadata = some .trfl → s ≠ .distribution_vault →
      s ≠ .rfl_reserve → w.balance s = 0) : Core w := by
  obtain ⟨hpool, hrouted, hrounding, hwallets, hcount⟩ := hcustody
  have hwal : w.wallets = ∅ := by rw [World.wallets, hwallets, Finmap.keys_empty]
  have hraw : ∀ a, w.raw a = 0 := fun a =>
    helsewhere _ rfl Address.noConfusion Address.noConfusion
  have hpos : ∀ a, w.position a = ⟨reflection_math.zero, 0⟩ := fun a => by
    simp [World.position, hpositions]
  have hacc : ∀ i, w.coreLedger.accrued i = 0 := by
    rintro (_ | a)
    · simp [hindex, hpool]
    · simp [hindex, hpos]
  have hcl : ∀ i, w.coreLedger.claimed i = 0 := by
    rintro (_ | a)
    · simp [hpool]
    · simp [hpos]
  have hsum : w.coreLedger.accruedSum = 0 := Finset.sum_eq_zero fun i _ => hacc i
  have hcsum : w.coreLedger.claimedSum = 0 := Finset.sum_eq_zero fun i _ => hcl i
  refine ⟨⟨⟨?_, ?_, ?_⟩, ?_, ?_, ?_, ?_, ?_, ?_⟩, ⟨?_, ?_, ?_, ?_, ?_⟩, ⟨?_, ?_, hreserve⟩, ?_⟩
  · rintro (_ | a) ha
    · exact absurd w.none_mem_holders ha
    · exact ⟨hraw a, hacc _, hcl _⟩
  · intro i
    rw [hacc, hcl]
    simp
  · simp [hsum, hremainder, hunallocated, hfees]
  · rw [w.total_eq, hwal, Finset.sum_empty, Nat.add_zero, htotal]
  · simp [hsum, hindex, haggregate]
  · rw [hcsum, hmaterialized, hrouted]
  · rw [hrouted, hpool]
  · rw [hcsum, hvault, hfees]
  · rw [hremainder]
    exact MAGNITUDE_pos
  · intro a ha
    rw [hpositions] at ha
    exact absurd ha Finmap.notMem_empty
  · exact fun a ha => absurd (hraw a) ha
  · intro a ha
    rw [hwal] at ha
    simp at ha
  · rw [hwal, hcount, Finset.card_empty]
  · intro a ha
    rw [hwal] at ha
    simp at ha
  · rw [w.sum_stores, hwal, Finset.sum_empty]
    omega
  · intro s hm hs
    refine helsewhere s hm ?_ ?_
    · rintro rfl
      exact hs w.distribution_vault_mem
    · rintro rfl
      exact hs w.rfl_reserve_mem
  · rw [hrounding, Dividend.Ledger.reserve, w.coreLedger_remainder, w.coreLedger_retired, hremainder]
    exact (Nat.div_eq_of_lt (by have := MAGNITUDE_pos; omega)).symm

section Seeded

variable [NamedAddresses] (fee_bps now : ℕ) (lifecycle : Lifecycle) (record : Option PoolState)
  (events : List Event)

/-- Nobody but the pool has a share yet, and nothing has been earned. -/
theorem core_seeded : Core (World.seeded fee_bps now lifecycle record events) := by
  refine core_fresh rfl rfl rfl rfl rfl rfl rfl ⟨rfl, rfl, rfl, rfl, rfl⟩ rfl rfl rfl
    (by simp [World.seeded, TOTAL_SUPPLY]) fun s hm hd hr => ?_
  rcases s with _ | _ | _ | _ | _ | _ | _ | _ | ⟨m, a⟩ | ⟨m, a, x⟩
  all_goals first | rfl | cases hm
  · exact absurd rfl hd
  · exact absurd rfl hr

theorem position_launchEpoch (a : Address) :
    World.launchEpoch.position a
      = if a = bootstrap_lp then ⟨500_000_000, reflection_math.zero, 0⟩
        else ⟨0, reflection_math.zero, 0⟩ := by
  rw [LpEpoch.position, World.launchEpoch, Table.lookup_insert_ite]
  split
  · rfl
  · simp

/-- The bootstrap owner has every share, and nothing has been earned. -/
theorem books_launchEpoch : Books World.launchEpoch := by
  obtain ⟨e, he⟩ : ∃ e, e = World.launchEpoch := ⟨_, rfl⟩
  -- The one owner has all of the shares; corrections, claims and the index are zero.
  have hpos : ∀ a, e.position a = if a = bootstrap_lp then ⟨500_000_000, reflection_math.zero, 0⟩
      else ⟨0, reflection_math.zero, 0⟩ := fun a => by rw [he, position_launchEpoch]
  have hcor : ∀ a, (e.position a).correction = reflection_math.zero := fun a => by
    rw [hpos]
    split <;> rfl
  have hcl : ∀ a, e.ledger.claimed a = 0 := fun a => by
    rw [LpEpoch.ledger_claimed, hpos]
    split <;> rfl
  have hidx : e.index = 0 := by rw [he]; rfl
  have hacc : ∀ a, e.ledger.accrued a = 0 := fun a => by
    rw [LpEpoch.ledger_accrued, hcor, hidx]
    simp
  have hkeys : e.ledger.holders = {bootstrap_lp} := by
    simp [he, LpEpoch.ledger, World.launchEpoch]
  have hsum : e.ledger.accruedSum = 0 := Finset.sum_eq_zero fun i _ => hacc i
  have hcsum : e.ledger.claimedSum = 0 := Finset.sum_eq_zero fun i _ => hcl i
  rw [← he]
  refine ⟨⟨⟨fun a ha => ⟨?_, hacc a, hcl a⟩, fun a => ?_, ?_⟩, ?_, ?_, ?_⟩, ?_, fun a _ => ?_, ?_,
    ?_, ?_⟩
  · rw [hkeys, Finset.mem_singleton] at ha
    rw [LpEpoch.ledger_shares, hpos, if_neg ha]
  · rw [hacc, hcl]
    simp
  · rw [hsum, he]
    rfl
  · rw [Dividend.Ledger.total, hkeys, Finset.sum_singleton, LpEpoch.ledger_shares, hpos, if_pos rfl,
      he]
    rfl
  · rw [hsum, hidx, he]
    rfl
  · rw [hcsum, he]
    rfl
  · rw [he]
    simp [Dividend.Ledger.reserve, LpEpoch.ledger, World.launchEpoch, lp_rewards.new_epoch,
      Nat.div_eq_of_lt, MAGNITUDE_pos]
  · rw [hcor, ← LpEpoch.ledger_claimed, hcl]
    simp
  · rw [he]
    rfl
  · rw [he]
    rfl
  · rw [he]
    rfl

/-- What the launch asks of the bootstrap owner. -/
structure ValidBootstrap : Prop where
  owner_zero : bootstrap_lp ≠ .zero
  owner_core : bootstrap_lp ≠ reflection_core
  owner_assets : bootstrap_lp ≠ test_assets
  owner_amm : bootstrap_lp ≠ test_amm

theorem eligible_bootstrap (h : ValidBootstrap) :
    is_excluded_store (World.seeded fee_bps now lifecycle record events).reflection
      (.primary .trfl bootstrap_lp) = false := by
  simp [is_excluded_store, World.seeded, launchedExclusions, boundExclusions, genesisExclusions,
    h.owner_core, h.owner_assets, h.owner_amm]

theorem deployed_seeded (h : ValidBootstrap) (hfee : fee_bps ≤ MAX_FEE_BPS) :
    Deployed World.launchEpoch
      (World.seeded fee_bps now lifecycle (some (pool.deployed lifecycle)) events) := by
  refine ⟨core_seeded .., ⟨rfl, rfl, rfl, rfl⟩, books_launchEpoch, rfl, fun a ha => ?_, rfl, rfl,
    rfl, fun _ => rfl, hfee, rfl, rfl⟩
  have : a = bootstrap_lp := by
    rw [World.launchEpoch, Finmap.mem_insert] at ha
    exact ha.resolve_right Finmap.notMem_empty
  rw [this]
  exact eligible_bootstrap _ _ _ _ _ h

/-- **The launched system is launched.** -/
theorem launched_launched (h : ValidBootstrap) (hfee : fee_bps ≤ MAX_FEE_BPS) :
    Launched World.launchEpoch (World.launched fee_bps now events) := by
  refine ⟨deployed_seeded _ _ _ _ h hfee, ?_, .inl ⟨rfl, rfl, rfl, ?_, ?_, ?_, ?_⟩⟩
  · simp [World.pending, Dividend.Ledger.pending, World.launched, World.seeded]
  · show 0 < 500_000_000
    decide
  · show 0 < 500_000_000
    decide
  · show 0 < 500_000_000
    decide
  · show 500_000_000 ^ 2 ≤ 500_000_000 * 500_000_000
    decide

end Seeded

/-! ## The launch -/

/-- The publishers are three. -/
structure DistinctPublishers [NamedAddresses] : Prop where
  core_assets : test_assets ≠ reflection_core
  core_amm : test_amm ≠ reflection_core
  assets_amm : test_amm ≠ test_assets

namespace Tx

variable [NamedAddresses] {w w' : World} {a b c d : Address} {fee_bps now : ℕ}
  {faucet bound : Bool} {events : List Event}

/-- All capability handoffs of the launch. -/
theorem commits_handoff {β : Type} (f : SettlementCapability → CustodySettlementCapability →
      LpAccountingCapability → PoolSettlementCapability → Move β) (x : β) :
    Commits (do
        let settlement_cap ← reflection_token.issue_settlement_capability a b
        let custody_cap ← reflection_token.register_canonical_custody a b .rfl_reserve
          .lp_reward_vault
        let lp_cap ← lp_rewards.initialize_epochs b .lp_reward_vault
        let usd_pool_cap ← mock_usd.issue_pool_settlement_capability c b .usd_reserve
        test_faucet.initialize_faucet a c
        reflection_token.bind_protocol_exclusions a
        f settlement_cap custody_cap lp_cap usd_pool_cap) .ideal
        (World.configuring fee_bps faucet bound now events) x w' ↔
      faucet = false ∧ bound = false ∧ a = reflection_core ∧ b = test_amm ∧ c = test_assets
        ∧ DistinctPublishers
        ∧ Commits (f ⟨1⟩ custody_registry.deployed_cap lp_rewards.deployed_cap ⟨.usd_reserve, 1⟩)
          .ideal
          (World.handedOff fee_bps now events) x w' := by
  simp only [commits_bind, commits_issue_settlement_capability,
    commits_register_canonical_custody, commits_initialize_epochs,
    commits_issue_pool_settlement_capability, commits_initialize_faucet,
    commits_bind_protocol_exclusions, and_assoc, exists_and_left, exists_eq_left, exists_const]
  -- Of the primary stores only that of the core publisher is excluded so far.
  have hmem : ∀ x : Address,
      .primary .trfl x ∈ (genesisExclusions.insert .rfl_reserve true).insert .lp_reward_vault true ↔
        x = reflection_core := by
    intro x
    simp [genesisExclusions, Finmap.mem_insert]
  constructor
  · rintro ⟨rfl, rfl, -, -, -, -, -, -, -, -, -, -, -, -, -, -, rfl, -, -, -, hf, -, -, -, -, -, -, -,
      hb, hx, hne, hc⟩
    have hfaucet : faucet = false := by
      cases faucet
      · rfl
      · cases hf
    have hbound : bound = false := hb
    subst hfaucet hbound
    have hca := (hx test_assets (.inl rfl)).2.2
    have hcm := (hx test_amm (.inr rfl)).2.2
    exact ⟨rfl, rfl, rfl, rfl, rfl, ⟨fun h => hca ((hmem _).mpr h), fun h => hcm ((hmem _).mpr h),
      hne⟩, hc⟩
  · rintro ⟨rfl, rfl, rfl, rfl, rfl, hd, hc⟩
    refine ⟨rfl, rfl, rfl, rfl, rfl, rfl, rfl, rfl, rfl, rfl, rfl, ?_, ?_, rfl, rfl, rfl, rfl, rfl, rfl,
      rfl, rfl, rfl, rfl, rfl, rfl, rfl, rfl, rfl, rfl, ?_, hd.assets_amm, hc⟩
    · simp [World.settlementIssued, World.configuring, genesisExclusions, Finmap.mem_insert]
    · simp [World.settlementIssued, World.configuring, genesisExclusions, Finmap.mem_insert]
    · rintro x (rfl | rfl)
      · exact ⟨rfl, rfl, fun h => hd.core_assets ((hmem _).mp h)⟩
      · exact ⟨rfl, rfl, fun h => hd.core_amm ((hmem _).mp h)⟩

theorem commits_seed_pool (u : Unit) :
    Commits (reflection_token.seed_pool_from_distribution custody_registry.deployed_cap
        reflection_core .rfl_reserve INITIAL_TRFL_LIQUIDITY) .ideal
        (World.handedOff fee_bps now events) u w' ↔
      w' = (World.handedOff fee_bps now events).trflSeeded := by
  have hb : Bound (World.handedOff fee_bps now events) := ⟨rfl, rfl, rfl, rfl⟩
  simp only [reflection_token.seed_pool_from_distribution, commits_bind,
    commits_assert_core_publisher, commits_assert_configuring, commits_assert_pool,
    commits_assert_reserve hb, commits_require, commits_transfer_with_ref,
    commits_add_custody_shares, reflection_token.assert_custody_matches_raw,
    commits_borrow_custody, commits_balance, and_assoc, exists_and_left, exists_eq_left,
    exists_const]
  constructor
  · rintro ⟨-, -, -, -, -, -, -, -, -, hw⟩
    exact hw
  · intro hw
    refine ⟨trivial, rfl, rfl, rfl, rfl, rfl, rfl, ?_, ?_, hw⟩
    · show 500_000_000 ≤ TOTAL_SUPPLY
      decide
    · simp [World.handedOff, World.addCustody, World.moved, World.configuring,
        World.exclusionsBound, World.faucetInitialized, World.usdReserveBound,
        World.epochsOpened, World.custodyRegistered, World.settlementIssued]

theorem commits_seed_usd (x : ℕ) :
    Commits (mock_usd.bootstrap_pool_reserve ⟨.usd_reserve, 1⟩ .usd_reserve) .ideal
        (World.handedOff fee_bps now events).trflSeeded x w' ↔
      x = INITIAL_TUSD_LIQUIDITY ∧ w' = (World.handedOff fee_bps now events).trflSeeded.usdSeeded := by
  simp only [mock_usd.bootstrap_pool_reserve, mock_usd.assert_pool_cap, mock_usd.borrow_state,
    mock_usd.modify_state, reflection_token.launch_state, commits_bind, commits_borrow_state,
    commits_gets, commits_update, commits_require, commits_mint, commits_deposit_with_ref,
    commits_emit, commits_pure, and_assoc, exists_and_left, exists_eq_left, exists_const]
  constructor
  · rintro ⟨-, -, -, -, -, -, -, -, hx, hw⟩
    exact ⟨hx, hw⟩
  · rintro ⟨hx, hw⟩
    exact ⟨rfl, trivial, trivial, rfl, rfl, rfl, trivial, by simp [World.minted], hx, hw⟩

omit [NamedAddresses] in
theorem ofInt_zero : SignedU256.ofInt 0 = reflection_math.zero := rfl

theorem minted_launchEpoch :
    (lp_rewards.ensure_position (lp_rewards.new_epoch 1 .lp_epoch_state .lp_reward_vault)
      bootstrap_lp).minted bootstrap_lp 500_000_000 = World.launchEpoch := by
  simp [LpEpoch.minted, lp_rewards.ensure_position, lp_rewards.new_epoch, World.launchEpoch,
    LpEpoch.position, ofInt_zero]

omit [NamedAddresses] in
/-- The first custody shares. -/
theorem addCustody_first {n : ℕ} (hn : n ≠ 0) (hi : w.reflection.index = 0)
    (ht : w.reflection.total_shares = 0)
    (ha : w.reflection.aggregate_correction = reflection_math.zero)
    (hp : w.custody.pool_position = ⟨reflection_math.zero, 0⟩)
    (hc : w.custody.custody_shares = 0) :
    w.addCustody n = { w with
      reflection := { w.reflection with total_shares := n }
      custody := { w.custody with custody_shares := n }
      events := w.events ++ [.CustodySharesChanged true n n n] } := by
  simp only [World.addCustody, hi, ht, ha, hp, hc, hn, if_false, Nat.zero_add,
    Nat.cast_zero, mul_zero, sub_zero, SignedU256.ofInt_toInt]

/-- Both reserves seeded and the first shares minted. -/
theorem seeded_eq :
    ((World.handedOff fee_bps now events).trflSeeded.usdSeeded).lpMinted
        (lp_rewards.new_epoch 1 .lp_epoch_state .lp_reward_vault) bootstrap_lp 500_000_000
      = World.seeded fee_bps now .CONFIGURING none (events ++ World.seedEvents) := by
  have hpos : ((lp_rewards.new_epoch 1 .lp_epoch_state .lp_reward_vault).position
      bootstrap_lp).shares = 0 := by simp [LpEpoch.position, lp_rewards.new_epoch]
  have htot : (lp_rewards.new_epoch 1 .lp_epoch_state .lp_reward_vault).total_shares = 0 := rfl
  have hb : (World.handedOff fee_bps now events).balance
      = Function.update (fun _ => 0) .distribution_vault TOTAL_SUPPLY := rfl
  have hf : ∀ m, (World.handedOff fee_bps now events).in_flight m = 0 := fun _ => rfl
  unfold World.lpMinted World.withEpoch World.logged World.usdSeeded World.trflSeeded
  -- The first custody deposit sets the index that all later ones build on.
  rw [addCustody_first (by decide) rfl rfl rfl rfl rfl, hpos, htot, Nat.zero_add]
  simp only [World.seeded, World.mk.injEq]
  refine ⟨rfl, rfl, rfl, rfl, ?_, rfl, rfl, rfl, ?_, ?_, ?_, rfl, ?_⟩
  · rw [minted_launchEpoch]
  · funext s
    cases s <;> simp [hb, TOTAL_SUPPLY]
  · funext s
    cases s <;> rfl
  · funext m
    cases m <;> simp [hf]
  · show (((((((events ++ _) ++ _) ++ _) ++ _) ++ _) ++ _) ++ _) = events ++ World.seedEvents
    simp only [List.append_assoc]
    rfl

omit [NamedAddresses] in
theorem books_new_epoch : Books (lp_rewards.new_epoch 1 .lp_epoch_state .lp_reward_vault) := by
  have hpos : ∀ a, (lp_rewards.new_epoch 1 .lp_epoch_state .lp_reward_vault).position a
      = ⟨0, reflection_math.zero, 0⟩ := fun a => by
    simp [LpEpoch.position, lp_rewards.new_epoch]
  have hvalid : Dividend.Valid MAGNITUDE
      (lp_rewards.new_epoch 1 .lp_epoch_state .lp_reward_vault).ledger := by
    refine ⟨fun a _ => ?_, fun a => ?_, rfl⟩
    · simp [hpos]
    · simp [hpos]
  refine ⟨⟨hvalid, rfl, rfl, rfl⟩, ?_, fun a _ => ?_, rfl, rfl, rfl⟩
  · simp [Dividend.Ledger.reserve, LpEpoch.ledger, lp_rewards.new_epoch, Nat.div_eq_of_lt,
      MAGNITUDE_pos]
  · simp [hpos]

theorem commits_seal_launch (u : Unit) :
    Commits (reflection_token.seal_launch reflection_core test_assets test_amm) .ideal
        (World.seeded fee_bps now .CONFIGURING (some (pool.deployed .CONFIGURING)) events) u w' ↔
      w' = World.seeded fee_bps now .LIVE (some (pool.deployed .CONFIGURING)) (events
        ++ [.CoreLaunchSealed fee_bps (.metadata .trfl) .reward_vault .distribution_vault
          .rfl_reserve]) := by
  simp only [reflection_token.seal_launch, commits_bind, commits_assert_core_publisher,
    commits_require, commits_assert_configuring, commits_borrow_state, commits_borrow_custody,
    commits_modify_state, commits_emit, and_assoc, exists_and_left, exists_eq_left, exists_const]
  constructor
  · rintro ⟨-, -, -, -, -, -, -, -, -, -, hw⟩
    exact hw
  · intro hw
    refine ⟨trivial, trivial, trivial, rfl, rfl, rfl, rfl, rfl, rfl, ?_, hw⟩
    show 0 < 500_000_000
    decide

/-- **`launch`.** It needs the faucet and the exclusions still untouched, the
three publishers' signatures and a bootstrap owner that is none of them. -/
theorem commits_launch (hfee : fee_bps ≤ MAX_FEE_BPS) (u : Unit) :
    Commits (pool.launch a c b d) .ideal (World.configuring fee_bps faucet bound now events) u w' ↔
      b = test_amm ∧ c = test_assets ∧ d = bootstrap_lp ∧ faucet = false ∧ bound = false
        ∧ a = reflection_core ∧ DistinctPublishers ∧ ValidBootstrap
        ∧ w' = World.launched fee_bps now events := by
  have hnone : (World.configuring fee_bps faucet bound now events).pool.isNone = true := rfl
  unfold pool.launch
  rw [commits_bind]
  simp only [commits_gets, and_assoc, exists_and_left, exists_eq_left, commits_require_bind, hnone,
    true_and]
  refine and_congr_right fun hb => and_congr_right fun hc => and_congr_right fun hd => ?_
  refine (commits_handoff _ u).trans ?_
  simp only [hb, hc, true_and]
  refine and_congr_right fun hf => and_congr_right fun hbd => and_congr_right fun ha =>
    and_congr_right fun hpub => ?_
  -- The first shares are the square root of the product of the two seeds.
  have hw : Epoch 1 (lp_rewards.new_epoch 1 .lp_epoch_state .lp_reward_vault)
      (World.handedOff fee_bps now events).trflSeeded.usdSeeded := rfl
  have hs : Nat.sqrt (INITIAL_TRFL_LIQUIDITY * INITIAL_TUSD_LIQUIDITY) = 500_000_000 :=
    Nat.sqrt_eq 500_000_000
  rw [ha]
  simp only [commits_bind, commits_assert_valid_lp_owner, commits_require, commits_seed_pool,
    commits_seed_usd, commits_initial_lp_shares, hs, and_assoc, exists_and_left, exists_eq_left,
    exists_const]
  simp only [commits_mint_active books_new_epoch hw rfl, seeded_eq, commits_update, and_assoc,
    exists_and_left, exists_eq_left, exists_const]
  have hrecord : (⟨⟨1⟩, custody_registry.deployed_cap, lp_rewards.deployed_cap, ⟨.usd_reserve, 1⟩,
      .rfl_reserve, .usd_reserve, .CONFIGURING⟩ : PoolState) = pool.deployed .CONFIGURING := rfl
  have hworld : ({ World.seeded fee_bps now .CONFIGURING none (events ++ World.seedEvents) with
      pool := some (pool.deployed .CONFIGURING) } : World)
    = World.seeded fee_bps now .CONFIGURING (some (pool.deployed .CONFIGURING))
      (events ++ World.seedEvents) := rfl
  have hvalid : ValidBootstrap ↔ bootstrap_lp ≠ .zero ∧ bootstrap_lp ≠ reflection_core
      ∧ bootstrap_lp ≠ test_assets ∧ bootstrap_lp ≠ test_amm :=
    ⟨fun h => ⟨h.1, h.2, h.3, h.4⟩, fun h => ⟨h.1, h.2.1, h.2.2.1, h.2.2.2⟩⟩
  rw [hvalid, and_assoc, and_assoc, and_assoc]
  refine and_congr_right fun h₁ => and_congr_right fun h₂ => and_congr_right fun h₃ =>
    and_congr_right fun h₄ => ?_
  have hbl : ValidBootstrap := ⟨h₁, h₂, h₃, h₄⟩
  have hel : is_excluded_store (World.handedOff fee_bps now events).reflection
      (.primary .trfl bootstrap_lp) = false := eligible_bootstrap fee_bps now .LIVE none events hbl
  have hde := deployed_seeded fee_bps now .CONFIGURING (events ++ World.seedEvents) hbl hfee
  have hep : Epoch 1 World.launchEpoch (World.seeded fee_bps now .CONFIGURING
    (some (pool.deployed .CONFIGURING)) (events ++ World.seedEvents)) := rfl
  have hcs : (World.seeded fee_bps now .CONFIGURING (some (pool.deployed .CONFIGURING))
    (events ++ World.seedEvents)).custody.custody_shares = 500_000_000 := rfl
  have husd : (World.seeded fee_bps now .CONFIGURING (some (pool.deployed .CONFIGURING))
    (events ++ World.seedEvents)).usd = 500_000_000 := rfl
  rw [hrecord, hworld]
  simp only [hel, commits_assert_reserve_custody hde.core,
    commits_assert_active_epoch_healthy hep, commits_assert_epoch_backing hde.books hep hde.backed rfl,
    commits_reserves hde.core.supply, hcs, husd, and_assoc, exists_and_left, exists_eq_left,
    exists_const, commits_seal_launch, reflection_token.reflection_fee_bps,
    commits_bind, commits_borrow_state, commits_pure, commits_emit]
  constructor
  · rintro ⟨-, -, -, -, -, -, -, -, -, -, -, -, hw⟩
    rw [hw]
    simp only [World.launched, World.seeded, World.sealEvents, List.append_assoc, List.cons_append,
      List.nil_append]
    rfl
  · intro hw
    have hpos : 0 < World.launchEpoch.total_shares := by
      show 0 < 500_000_000
      decide
    refine ⟨trivial, rfl, rfl, trivial, by decide, by decide, trivial, rfl, hpos, rfl, rfl, rfl, ?_⟩
    rw [hw]
    simp only [World.launched, World.seeded, World.sealEvents, List.append_assoc, List.cons_append,
      List.nil_append]
    rfl

/-- **`initialize`.** -/
theorem commits_initialize_token (u : Unit) :
    Commits (reflection_token.initialize_token a fee_bps) .ideal .unpublished u w' ↔
      a = reflection_core ∧ fee_bps ≤ MAX_FEE_BPS
        ∧ w' = World.configuring fee_bps false false 0 [tokenCreated fee_bps] := by
  simp only [reflection_token.initialize_token, commits_bind, commits_require, commits_gets,
    commits_set_frozen_flag, commits_mint, commits_deposit_with_ref, commits_update, commits_emit,
    and_assoc, exists_and_left, exists_eq_left, exists_const]
  obtain ⟨v, hv⟩ : ∃ v, v = (((World.unpublished.freeze .reward_vault).freeze
      .distribution_vault).minted .trfl TOTAL_SUPPLY).credit .trfl .distribution_vault
        TOTAL_SUPPLY := ⟨_, rfl⟩
  have hb : v.balance = Function.update (fun _ => 0) .distribution_vault TOTAL_SUPPLY := by
    rw [hv]
    rfl
  have hf : v.in_flight = fun _ => 0 := by
    funext m
    cases m <;> simp [hv, World.unpublished]
  have hends : ∀ b c, b = Function.update (fun _ => 0) .distribution_vault TOTAL_SUPPLY →
      c = (fun _ => 0) → ({ World.configuring fee_bps false false 0 [tokenCreated fee_bps] with
        balance := b, in_flight := c } : World)
          = World.configuring fee_bps false false 0 [tokenCreated fee_bps] := by
    rintro _ _ rfl rfl
    rfl
  rw [← hends _ _ hb hf]
  constructor
  · rintro ⟨rfl, -, hfee, -, -, -, -, -, hw⟩
    exact ⟨rfl, hfee, by rw [hw, hv]; rfl⟩
  · rintro ⟨rfl, hfee, hw⟩
    refine ⟨rfl, rfl, hfee, rfl, rfl, rfl, trivial, ?_, by rw [hw, hv]; rfl⟩
    simp [World.unpublished]

end Tx

/-! ## Before the launch -/

/-- The states before the launch of a system deployed with the fee `fee_bps`. -/
def Configuring [NamedAddresses] (fee_bps : ℕ) (w : World) : Prop :=
  ∃ faucet bound now, w = World.configuring fee_bps faucet bound now
    (tokenCreated fee_bps :: if bound = true then
      [.ProtocolPrimaryStoreExcluded test_assets (.primary .trfl test_assets),
        .ProtocolPrimaryStoreExcluded test_amm (.primary .trfl test_amm)] else [])

/-- All of the supply is in the distribution vault. -/
theorem Configuring.core [NamedAddresses] {fee_bps : ℕ} {w : World} (h : Configuring fee_bps w) :
    Core w := by
  obtain ⟨faucet, bound, now, rfl⟩ := h
  refine core_fresh rfl rfl rfl rfl rfl rfl rfl ⟨rfl, rfl, rfl, rfl, rfl⟩ rfl rfl rfl
    (by simp [World.configuring]) fun s hm hd hr => ?_
  simp [World.configuring, Function.update_of_ne hd]

section Idle

variable [NamedAddresses] {fee_bps : ℕ} {w w' : World}

theorem Configuring.lifecycle (h : Configuring fee_bps w) :
    w.reflection.lifecycle = .CONFIGURING := by
  obtain ⟨faucet, bound, now, rfl⟩ := h
  rfl

/-- There is no pool to enter. -/
theorem Configuring.not_borrow (h : Configuring fee_bps w) (f : PoolState → Move Unit) :
    ¬ Tx.Commits (pool.borrow_state >>= f) .ideal w () w' := by
  obtain ⟨faucet, bound, now, rfl⟩ := h
  simp [pool.borrow_state, World.configuring]

/-- Nor is there after the check of a deadline. -/
theorem Configuring.not_borrow_by (h : Configuring fee_bps w) (deadline : ℕ)
    (f : PoolState → Move Unit) :
    ¬ Tx.Commits (pool.assert_deadline deadline >>= fun _ => pool.borrow_state >>= f) .ideal w ()
      w' := by
  intro hc
  obtain ⟨_, _, hdl, hborrow⟩ := (Tx.commits_bind _ _ _ _ _ _).mp hc
  obtain ⟨-, rfl⟩ := (Tx.commits_assert_deadline ()).mp hdl
  exact h.not_borrow f hborrow

/-- The hook lets no tRFL out. -/
theorem Configuring.not_withdraw_hook (h : Configuring fee_bps w) (store : Address) (n : ℕ)
    (asset : FungibleAsset) :
    ¬ Tx.Commits (reflection_token.withdraw_hook_impl store n) .ideal w asset w' := by
  simp [reflection_token.withdraw_hook_impl, h.lifecycle]

theorem Configuring.balance_eq_zero (h : Configuring fee_bps w) {store : Address}
    (hstore : store ≠ .distribution_vault) : w.balance store = 0 := by
  obtain ⟨faucet, bound, now, rfl⟩ := h
  simp [World.configuring, Function.update_of_ne hstore]

/-- Only nothing is withdrawn. -/
theorem Configuring.withdraw (h : Configuring fee_bps w) {owner store : Address} {n : ℕ}
    (hc : (Call.withdraw owner store n).Commits .ideal w w') : w' = w := by
  simp only [Call.Commits, Call.run, dispatchable_fungible_asset.withdraw, Tx.commits_bind,
    Tx.commits_withdraw_sanity_check, Tx.commits_pure, and_assoc, exists_and_left,
    exists_eq_left, exists_const] at hc
  obtain ⟨-, -, asset, w₁, hc, -, rfl⟩ := hc
  by_cases hm : store.store_metadata = some .trfl
  · rw [if_pos hm] at hc
    exact absurd hc (h.not_withdraw_hook _ _ _)
  · -- A store of tUSD is empty: the one supply there is lies in the distribution vault.
    rw [if_neg hm, Tx.commits_withdraw_with_ref] at hc
    obtain ⟨⟨hu, hn⟩, -, rfl⟩ := hc
    have hne : store ≠ .distribution_vault := by
      rintro rfl
      exact hm rfl
    rw [h.balance_eq_zero hne, Nat.le_zero] at hn
    rw [hn, World.debit_zero]

/-- Only nothing is deposited. -/
theorem Configuring.deposit (h : Configuring fee_bps w) {store : Address} {asset : FungibleAsset}
    (hc : (Call.deposit store asset).Commits .ideal w w') : w' = w := by
  simp only [Call.Commits, Call.run, dispatchable_fungible_asset.deposit, Tx.commits_bind,
    Tx.commits_deposit_sanity_check, and_assoc, exists_and_left, exists_eq_left,
    exists_const] at hc
  obtain ⟨-, hc⟩ := hc
  by_cases hm : store.store_metadata = some .trfl
  · rw [if_pos hm] at hc
    simp [reflection_token.deposit_hook_impl, h.lifecycle] at hc
  · rw [if_neg hm, Tx.commits_deposit_with_ref] at hc
    obtain ⟨⟨hu, -, hn⟩, rfl⟩ := hc
    have hzero : asset.amount = 0 := by
      obtain ⟨faucet, bound, now, rfl⟩ := h
      exact Nat.le_zero.mp hn
    rw [hzero]
    simp [World.credit]

end Idle

/-- **Nothing circulates before the launch**: a call configures the system
further, or is without effect, or is the launch. -/
theorem Configuring.call [NamedAddresses] {fee_bps : ℕ} {w w' : World} {c : Call}
    (hfee : fee_bps ≤ MAX_FEE_BPS) (h : Configuring fee_bps w) (hc : c.Commits .ideal w w') :
    Configuring fee_bps w'
      ∨ (DistinctPublishers ∧ ValidBootstrap
        ∧ c = .launch reflection_core test_assets test_amm bootstrap_lp
        ∧ ∃ now, w' = World.launched fee_bps now [tokenCreated fee_bps]) := by
  obtain ⟨faucet, bound, now, rfl⟩ := h
  obtain ⟨events, hev⟩ : ∃ events, events = tokenCreated fee_bps :: if bound = true then
      [Event.ProtocolPrimaryStoreExcluded test_assets (.primary .trfl test_assets),
        .ProtocolPrimaryStoreExcluded test_amm (.primary .trfl test_amm)] else [] := ⟨_, rfl⟩
  rw [← hev] at hc
  have hbefore : Configuring fee_bps (World.configuring fee_bps faucet bound now events) :=
    ⟨faucet, bound, now, by rw [hev]⟩
  have hconf := hbefore.lifecycle
  -- A call of the deployment configures further, or is the launch; one of an owner finds the system
  -- closed.
  cases c with
  | initialize_token admin bps =>
      exfalso
      simp [Call.Commits, Call.run, reflection_token.initialize_token, World.configuring] at hc
  | initialize_faucet a b =>
      obtain ⟨hf, -, -, -, -, -, rfl⟩ := (Tx.commits_initialize_faucet ()).mp hc
      exact .inl ⟨true, bound, now, by rw [← hev]; rfl⟩
  | bind_protocol_exclusions a =>
      obtain ⟨-, -, hb, -, -, rfl⟩ := (Tx.commits_bind_protocol_exclusions ()).mp hc
      have hbound : bound = false := hb
      subst hbound
      exact .inl ⟨faucet, true, now, by rw [hev]; rfl⟩
  | seal_launch a b c =>
      exfalso
      simp [Call.Commits, Call.run, reflection_token.seal_launch, World.configuring] at hc
  | launch a b c d =>
      obtain ⟨rfl, rfl, rfl, rfl, rfl, rfl, hpub, hboot, rfl⟩ := (Tx.commits_launch hfee ()).mp hc
      refine .inr ⟨hpub, hboot, rfl, now, ?_⟩
      rw [hev]
      rfl
  | register_wallet a =>
      exfalso
      simp [Call.Commits, Call.run, reflection_token.register_wallet, hconf] at hc
  | withdraw owner store n =>
      obtain rfl := hbefore.withdraw hc
      exact .inl hbefore
  | deposit store asset =>
      obtain rfl := hbefore.deposit hc
      exact .inl hbefore
  | transfer a b n =>
      simp only [Call.Commits, Call.run, reflection_router.transfer,
        primary_fungible_store.transfer, primary_fungible_store.withdraw,
        dispatchable_fungible_asset.withdraw, Tx.commits_bind, Tx.commits_withdraw_sanity_check,
        Address.store_metadata, if_true, and_assoc, exists_and_left, exists_eq_left,
        exists_const] at hc
      obtain ⟨-, -, _, _, ⟨_, _, hw, -⟩, -⟩ := hc
      exact absurd hw (hbefore.not_withdraw_hook _ _ _)
  | claim a n =>
      exfalso
      simp [Call.Commits, Call.run, reflection_token.claim, hconf] at hc
  | claim_all a =>
      exfalso
      simp [Call.Commits, Call.run, reflection_token.claim_all, hconf] at hc
  | claim_trfl a =>
      exfalso
      simp [Call.Commits, Call.run, test_faucet.claim_trfl, Tx.commits_assert_open, hconf] at hc
  | claim_tusd a =>
      exfalso
      simp [Call.Commits, Call.run, test_faucet.claim_tusd, Tx.commits_assert_open, hconf] at hc
  | sell_trfl a n limit deadline => exact absurd hc (hbefore.not_borrow_by _ _)
  | buy_trfl a n limit deadline => exact absurd hc (hbefore.not_borrow_by _ _)
  | add_liquidity a max_rfl max_usd limit deadline =>
      obtain ⟨_, _, hdl, hc⟩ := (Tx.commits_bind _ _ _ _ _ _).mp hc
      obtain ⟨-, rfl⟩ := (Tx.commits_assert_deadline ()).mp hdl
      exact absurd ((Tx.commits_require_bind _ _ _ _).mp hc).2 (hbefore.not_borrow _)
  | remove_liquidity a n min_rfl min_usd deadline =>
      obtain ⟨_, _, hdl, hc⟩ := (Tx.commits_bind _ _ _ _ _ _).mp hc
      obtain ⟨-, rfl⟩ := (Tx.commits_assert_deadline ()).mp hdl
      exact absurd ((Tx.commits_require_bind _ _ _ _).mp hc).2 (hbefore.not_borrow _)
  | transfer_lp_shares a b n =>
      exact absurd ((Tx.commits_require_bind _ _ _ _).mp hc).2 (hbefore.not_borrow _)
  | claim_lp_rewards a epoch amount => exact absurd hc (hbefore.not_borrow _)
  | checkpoint_lp_rewards => exact absurd hc (hbefore.not_borrow _)
  | tick seconds =>
      obtain rfl := (Tx.commits_update _ _ _ _ ()).mp hc
      exact .inl ⟨faucet, bound, now + seconds, by rw [← hev]; rfl⟩

end CedraReflect
