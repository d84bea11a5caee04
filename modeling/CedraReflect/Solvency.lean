/-
The reward vault is what the books say, and it covers every holder.

The vault is partitioned into the liability, the unallocated fees and the
rounding reserve; the stored sums are the sums over the positions; the pending
amounts of all positions together are covered by the liability, so that they
can be claimed in any order.
-/
import CedraReflect.ShortRuns

set_option autoImplicit false
set_option linter.constructorNameAsVariable false

namespace CedraReflect

open Dividend (Ledger Act Valid Run)
open reflection_math (MAGNITUDE MAGNITUDE_pos)
open reflection_token

section Partition

variable {w : World}

/-- What has been handed out and what has been carried over is what has been collected. -/
theorem Core.magnified (h : Core w) :
    (w.reflection.total_shares : ℤ) * w.reflection.index
        + w.reflection.aggregate_correction.toInt + w.reflection.index_remainder
        + MAGNITUDE * w.reflection.unallocated_fees
      = MAGNITUDE * w.reflection.lifetime_fees := by
  have hb := h.accounting.valid.balance
  simp only [World.coreLedger_remainder, World.coreLedger_retired, World.coreLedger_unallocated,
    World.coreLedger_received] at hb
  have hagg := h.accounting.aggregate
  omega

theorem Core.liability (h : Core w) : ∃ liability : ℕ,
    Tx.Commits aggregate_liability .ideal w liability w
      ∧ w.balance .reward_vault
        = liability + w.reflection.unallocated_fees + w.custody.rounding_reserve := by
  obtain ⟨liability, hl⟩ := Int.eq_ofNat_of_zero_le h.accounting.liability_nonneg
  refine ⟨liability, (Tx.commits_aggregate_liability h.accounting liability).mpr ⟨hl.symm, rfl⟩, ?_⟩
  have hp := h.accounting.partition
  rw [hl, ← h.rounding] at hp
  exact_mod_cast hp

end Partition

section

variable [NamedAddresses] {arithmetic : Arithmetic} {fee_bps : ℕ} {w : World}

/-- **The vault is partitioned.** In every reachable state the vault is the
liability, the unallocated fees and the rounding reserve, and it is what was
collected and not paid. The magnified books balance, so that the reserve is one
unit exactly while a remainder is carried; and the accounting check passes, on
the machine after any short run. -/
theorem vault_partition (h : Reachable arithmetic fee_bps w) :
    (∃ liability : ℕ, Tx.Commits aggregate_liability .ideal w liability w
        ∧ w.balance .reward_vault
          = liability + w.reflection.unallocated_fees + w.custody.rounding_reserve)
      ∧ (w.balance .reward_vault : ℤ) = w.reflection.lifetime_fees
        - w.reflection.lifetime_materialized - w.custody.lifetime_custody_routed
      ∧ (w.reflection.total_shares : ℤ) * w.reflection.index
          + w.reflection.aggregate_correction.toInt + w.reflection.index_remainder
          + MAGNITUDE * w.reflection.unallocated_fees
        = MAGNITUDE * w.reflection.lifetime_fees
      ∧ w.custody.rounding_reserve = (if 0 < w.reflection.index_remainder then 1 else 0)
      ∧ Tx.Performs (ShortRun fee_bps w) assert_accounting_backing w () w := by
  have hc := h.core
  have hv := hc.accounting.vault
  have hs := hc.accounting.settled
  have hx : Tx.Executes assert_accounting_backing w () w :=
    Tx.Commits.executes ((Tx.commits_assert_accounting_backing hc ()).mpr rfl) inferInstance
  refine ⟨hc.liability, by omega, hc.magnified, ?_,
    hc.performs hx fun hs => Tx.fits_assert_accounting_backing hc hs.narrow⟩
  rw [hc.rounding, hc.accounting.reserve_eq]
  by_cases hz : w.reflection.index_remainder = 0
  · rw [if_pos hz, if_neg (by omega)]
  · rw [if_neg hz, if_pos (by omega)]

end

open Sample in
theorem vault_partition_traded : ∃ w, traded = some w
    ∧ (∃ liability : ℕ, Tx.Commits aggregate_liability .ideal w liability w
      ∧ w.balance .reward_vault
        = liability + w.reflection.unallocated_fees + w.custody.rounding_reserve)
    ∧ Tx.Commits assert_accounting_backing .machine w () w := by
  obtain ⟨w, hw⟩ := exists_traded
  obtain ⟨hliability, -, -, -, hbacking⟩ := vault_partition (reachable_traded hw)
  exact ⟨w, hw, hliability, hbacking.commits (shortRun_traded hw)⟩

/-! ## The stored sums -/

section Sums

variable {w : World}

/-- Wallets without a position have neither a correction nor claims. -/
theorem Core.sum_positions {α : Type} [AddCommMonoid α] (h : Core w) (f : Position → α)
    (hf : f ⟨reflection_math.zero, 0⟩ = 0) :
    ∑ a ∈ w.reflection.positions.keys, f (w.position a) = ∑ a ∈ w.wallets, f (w.position a) := by
  refine Finset.sum_subset (fun a ha => ?_) fun a _ ha => ?_
  · exact h.membership.position_wallet a (Finmap.mem_keys.mp ha)
  · rw [Membership.position_of_notMem (fun hm => ha (Finmap.mem_keys.mpr hm)), hf]

/-- The stored correction is the sum of all corrections. -/
theorem Core.aggregate_correction (h : Core w) :
    w.reflection.aggregate_correction.toInt
      = (∑ a ∈ w.reflection.positions.keys, (w.position a).correction.toInt)
        + w.custody.pool_position.correction.toInt := by
  have hagg := h.accounting.aggregate
  have htot : (w.reflection.total_shares : ℤ)
      = w.custody.custody_shares + ∑ a ∈ w.wallets, (w.raw a : ℤ) := by
    rw [h.accounting.total, w.total_eq]
    push_cast
    rfl
  rw [w.accruedSum_eq, w.coreLedger_accrued_none,
    Finset.sum_congr rfl (fun a _ => w.coreLedger_accrued_some a), Finset.sum_add_distrib,
    ← Finset.sum_mul, htot, add_mul] at hagg
  rw [h.sum_positions (fun p => p.correction.toInt) rfl]
  linarith

theorem Core.claimed (h : Core w) :
    (∑ a ∈ w.reflection.positions.keys, (w.position a).claimed) = w.reflection.lifetime_materialized
      ∧ w.custody.pool_position.claimed = w.custody.lifetime_custody_routed := by
  have hs := h.accounting.settled
  rw [w.claimedSum_eq] at hs
  have hr := h.accounting.routed
  rw [h.sum_positions (fun p => p.claimed) rfl]
  omega

end Sums

section

variable [NamedAddresses] {arithmetic : Arithmetic} {fee_bps : ℕ} {w : World}

/-- **The stored sums are sums.** Shares are raw balances of registered wallets
and of the pool, the aggregate correction and the claimed totals are the sums
over the positions, and all of the supply is in the stores listed or on its way
between two of them. -/
theorem stored_sums (h : Reachable arithmetic fee_bps w) :
    (w.reflection.total_shares = (∑ a ∈ w.wallets, w.raw a) + w.custody.custody_shares
        ∧ (w.custody.registered = true →
          w.custody.custody_shares = w.balance w.reflection.pool_store))
      ∧ w.reflection.aggregate_correction.toInt
        = (∑ a ∈ w.reflection.positions.keys, (w.position a).correction.toInt)
          + w.custody.pool_position.correction.toInt
      ∧ ((∑ a ∈ w.reflection.positions.keys, (w.position a).claimed)
          = w.reflection.lifetime_materialized
        ∧ w.custody.pool_position.claimed = w.custody.lifetime_custody_routed)
      ∧ ((∑ a ∈ w.wallets, w.raw a) + w.balance .rfl_reserve + w.balance .reward_vault
            + w.balance .distribution_vault + w.balance .lp_reward_vault + w.in_flight .trfl
          = TOTAL_SUPPLY
        ∧ ∀ s : Address, s.store_metadata = some .trfl → s ≠ .rfl_reserve → s ≠ .reward_vault →
          s ≠ .distribution_vault → s ≠ .lp_reward_vault → (∀ a ∈ w.wallets, s ≠ .primary .trfl a) →
          w.balance s = 0)
      ∧ w.custody.registered_wallet_count = w.wallets.card
      ∧ (∀ a, is_registered_wallet w.custody a = true ↔ a ∈ w.wallets)
      ∧ ∀ a ∈ w.wallets, is_excluded_store w.reflection (.primary .trfl a) = false := by
  have hc := h.core
  -- Every part is read off the invariant; only the pool's store needs the phase of the run.
  refine ⟨⟨?_, fun hr => ?_⟩, hc.aggregate_correction, hc.claimed,
    ⟨?_, fun s hm h₁ h₂ h₃ h₄ hw => ?_⟩,
    hc.membership.count, hc.membership.is_registered_iff, hc.membership.eligible⟩
  · rw [hc.accounting.total, w.total_eq, Nat.add_comm]
  · obtain ⟨-, hconf | ⟨hl, -⟩⟩ := h.phase
    · obtain ⟨faucet, bound, now, rfl⟩ := hconf
      cases hr
    · rw [hl.deployed.bound.pool_store, hc.supply.custody]
  · have hs := hc.supply.supply
    rw [w.sum_stores] at hs
    have hraw : ∑ a ∈ w.wallets, w.raw a = ∑ a ∈ w.wallets, w.balance (.primary .trfl a) := rfl
    omega
  · refine hc.supply.elsewhere s hm fun hmem => ?_
    rw [World.stores, Finset.mem_union, Finset.mem_map] at hmem
    rcases hmem with hmem | ⟨a, ha, rfl⟩
    · simp [h₁, h₂, h₃, h₄] at hmem
    · exact hw a ha rfl

end

open Sample in
theorem stored_sums_traded : ∃ w, traded = some w
    ∧ w.reflection.aggregate_correction.toInt
      = (∑ a ∈ w.reflection.positions.keys, (w.position a).correction.toInt)
        + w.custody.pool_position.correction.toInt := by
  obtain ⟨w, hw⟩ := exists_traded
  exact ⟨w, hw, (stored_sums (reachable_traded hw)).2.1⟩

/-! ## Solvency -/

section Cover

variable {w : World} {a : Address}

theorem World.sum_pending (w : World) :
    ∑ i ∈ w.coreLedger.holders, w.pending i
      = w.pending none + ∑ a ∈ w.wallets, w.pending (some a) :=
  Finset.sum_insertNone (fun i => w.pending i) w.wallets

/-- All pending amounts together are covered by the liability, and the vault
names all but a unit a position of what it holds. -/
theorem Core.cover (h : Core w) :
    ((∑ a ∈ w.wallets, w.pending (some a)) + w.pending none : ℤ)
        ≤ w.coreLedger.liability MAGNITUDE
      ∧ (w.balance .reward_vault : ℤ)
          ≤ w.reflection.unallocated_fees + (∑ a ∈ w.wallets, w.pending (some a)) + w.pending none
            + (w.reflection.positions.keys.card + 1) := by
  have hsum := w.sum_pending
  have hle := h.accounting.valid.sum_pending_le_liability MAGNITUDE_pos
  have hv := h.accounting.vault
  -- Each position can keep back less than one unit, and so can the pool.
  have hcard := h.accounting.valid.unnamed_le_card MAGNITUDE_pos
    (by simpa using h.accounting.remainder) (T := w.reflection.positions.keys.insertNone) ?_ ?_
  · change ((∑ i ∈ w.coreLedger.holders, w.pending i : ℕ) : ℤ) ≤ _ at hle
    change _ - _ - _ - ((∑ i ∈ w.coreLedger.holders, w.pending i : ℕ) : ℤ) ≤ _ at hcard
    rw [hsum] at hle hcard
    rw [Finset.card_insertNone, w.coreLedger_received, w.coreLedger_unallocated] at hcard
    push_cast at hle hcard ⊢
    omega
  · intro i hi
    rcases i with _ | a
    · exact w.none_mem_holders
    · rw [Finset.some_mem_insertNone, Finmap.mem_keys] at hi
      exact (w.some_mem_holders a).mpr (h.membership.position_wallet a hi)
  · intro i hi
    rcases i with _ | a
    · exact absurd Finset.none_mem_insertNone hi
    · have hna : a ∉ w.reflection.positions := fun hm =>
        hi (Finset.some_mem_insertNone.mpr (Finmap.mem_keys.mpr hm))
      rw [w.coreLedger_accrued_some, h.membership.raw_of_notMem hna,
        Membership.position_of_notMem hna]
      simp

theorem Core.effective_lt (h : Core w) (ha : a ∈ w.wallets) : w.effective a < 2 ^ 64 := by
  have hp := h.accounting.pending_le_vault (some a)
  have hs := h.supply.supply
  rw [w.sum_stores] at hs
  have hr : w.raw a ≤ ∑ b ∈ w.wallets, w.balance (.primary .trfl b) :=
    Finset.single_le_sum (f := fun b => w.balance (.primary .trfl b)) (fun _ _ => Nat.zero_le _) ha
  rw [TOTAL_SUPPLY] at hs
  unfold World.effective
  omega

end Cover

section

variable [NamedAddresses] {arithmetic : Arithmetic} {fee_bps : ℕ} {w : World} {a : Address}

/-- After claims by others, a holder has what it had. -/
theorem Reachable.after_claims (h : Reachable arithmetic fee_bps w) {others : List Address}
    (ha : a ∉ others) :
    ∃ v, v = Call.attempts arithmetic w (others.map .claim_all) ∧ Core v
      ∧ v.reflection.lifecycle = w.reflection.lifecycle ∧ v.wallets = w.wallets
      ∧ v.raw a = w.raw a ∧ v.pending (some a) = w.pending (some a) ∧ (w.Narrow → v.Narrow) := by
  refine ⟨_, rfl, Call.attempts_induction (P := fun v => Core v
      ∧ v.reflection.lifecycle = w.reflection.lifecycle ∧ v.wallets = w.wallets
      ∧ v.raw a = w.raw a ∧ v.pending (some a) = w.pending (some a) ∧ (w.Narrow → v.Narrow))
    ⟨h.core, rfl, rfl, rfl, rfl, id⟩ fun v v' hv c hc hcommits => ?_⟩
  obtain ⟨hcore, hlife, hwal, hraw, hpend, hnarrow⟩ := hv
  -- A claim of another moves the claimant's balance and entitlement only.
  obtain ⟨b, hb, rfl⟩ := List.mem_map.mp hc
  have hab : a ≠ b := by
    rintro rfl
    exact ha hb
  obtain ⟨-, -, hpos, rfl⟩ := (Tx.commits_claim_all hcore ()).mp (Call.Commits.ideal hcommits)
  have hmem : b ∈ v.reflection.positions := by
    by_contra hna
    rw [hcore.membership.pending_of_notMem hna] at hpos
    omega
  have hm := hcore.moved_materialized hmem le_rfl true .MANUAL
  refine ⟨hm.core, hm.frame.lifecycle.trans hlife, ?_, ?_, ?_, fun hn => (hnarrow hn).moved hm⟩
  · rw [World.wallets, World.custody_materialized]
    exact hwal
  · rw [World.raw_materialized, if_neg hab, hraw]
  · rw [World.pending_materialized, if_neg (by simpa using hab), hpend]

/-- What the pool is owed is defined, before the launch too. -/
theorem Reachable.commits_pool_pending_rewards (h : Reachable arithmetic fee_bps w) :
    Tx.Commits pool_pending_rewards .ideal w (w.pending none) w := by
  simp only [pool_pending_rewards, Tx.commits_bind, Tx.commits_borrow_state, and_assoc,
    exists_and_left, exists_eq_left]
  obtain ⟨-, hconf | ⟨hl, -⟩⟩ := h.phase
  · obtain ⟨faucet, bound, now, hw⟩ := hconf
    have hreg : w.reflection.pool_registered = false := by rw [hw]; rfl
    have hshares : w.custody.custody_shares = 0 := by rw [hw]; rfl
    have hposition : w.custody.pool_position = ⟨reflection_math.zero, 0⟩ := by rw [hw]; rfl
    have hz : w.pending none = 0 := by
      simp [World.pending, Ledger.pending, hshares, hposition]
    rw [if_pos hreg, Tx.commits_pure, hz]
    exact ⟨rfl, rfl⟩
  · rw [hl.deployed.bound.pool_registered, hl.deployed.bound.pool_store, if_neg (by simp),
      Tx.commits_custody_pending_for_store hl.deployed.core hl.deployed.bound.registered]
    exact ⟨rfl, rfl⟩

theorem Reachable.performs_pool_pending_rewards (h : Reachable arithmetic fee_bps w) :
    Tx.Performs (ShortRun fee_bps w) pool_pending_rewards w (w.pending none) w := by
  have hx := Tx.Commits.executes h.commits_pool_pending_rewards inferInstance
  refine h.core.performs hx fun hs => ?_
  obtain ⟨-, hconf | ⟨hl, -⟩⟩ := h.phase
  · -- There is no pool to be owed anything.
    obtain ⟨faucet, bound, now, rfl⟩ := hconf
    unfold pool_pending_rewards
    exact .read (Tx.avoids_ite (fun _ => Tx.spares) fun hne => absurd rfl hne)
  · exact Tx.fits_pool_pending_rewards hl.deployed.core hl.deployed.bound hs.narrow

theorem Core.performs_claimable_for_store (h : Core w) (a : Address) :
    Tx.Performs (ShortRun fee_bps w) (claimable_for_store a (.primary .trfl a)) w
      (w.pending (some a)) w :=
  h.performs (Tx.Commits.executes ((Tx.commits_claimable_for_store h _).mpr ⟨rfl, rfl⟩)
    inferInstance) fun hs => Tx.fits_claimable_for_store h hs.narrow

/-- **Solvency for all holders at once.** Every pending amount and every
effective balance is defined and fits. All pending amounts together are covered
by the liability and the liability by the vault, which holds beyond them and
the unallocated fees at most a unit a position. Hence holders can claim in any
order, and each is paid what it was owed before the first claim. After a short
run of the machine no width stops any of it. -/
theorem solvency (h : Reachable arithmetic fee_bps w) :
    (∀ a ∈ w.wallets,
        Tx.Performs (ShortRun fee_bps w) (claimable_for_store a (.primary .trfl a)) w
            (w.pending (some a)) w
          ∧ Tx.Performs (ShortRun fee_bps w) (derived_balance_hook_impl (.primary .trfl a)) w
            (w.raw a + w.pending (some a)) w
          ∧ w.raw a + w.pending (some a) < 2 ^ 64)
      ∧ Tx.Performs (ShortRun fee_bps w) pool_pending_rewards w (w.pending none) w
      ∧ (∃ liability : ℕ, Tx.Commits aggregate_liability .ideal w liability w
        ∧ (∑ a ∈ w.wallets, w.pending (some a)) + w.pending none ≤ liability
        ∧ liability ≤ w.balance .reward_vault)
      ∧ w.balance .reward_vault
        ≤ w.reflection.unallocated_fees
          + ((∑ a ∈ w.wallets, w.pending (some a)) + w.pending none)
          + (w.reflection.positions.keys.card + 1)
      ∧ (w.reflection.lifecycle ≠ .CONFIGURING → ∀ order : List Address, order.Nodup →
        (∀ a ∈ order, a ∈ w.wallets) → ∀ earlier a later, order = earlier ++ a :: later →
        0 < w.pending (some a) →
        ∃ v v', v = Call.attempts arithmetic w (earlier.map .claim_all)
          ∧ Tx.Performs (ShortRun fee_bps w) (Call.claim_all a).run v () v'
          ∧ v'.raw a = v.raw a + w.pending (some a) ∧ v'.pending (some a) = 0
          ∧ v'.balance .reward_vault + w.pending (some a) = v.balance .reward_vault) := by
  have hc := h.core
  obtain ⟨hcover, hnamed⟩ := hc.cover
  obtain ⟨liability, hl, hpart⟩ := hc.liability
  have hlz := ((Tx.commits_aggregate_liability hc.accounting liability).mp hl).1
  refine ⟨fun a ha => ⟨hc.performs_claimable_for_store a, ?_, hc.effective_lt ha⟩,
    h.performs_pool_pending_rewards, ⟨liability, hl, ?_, by omega⟩, ?_,
    fun hlife order hnd hreg earlier a later hord hpos => ?_⟩
  · exact hc.performs (Tx.Commits.executes
      ((Tx.commits_derived_balance_hook_impl hc _).mpr ⟨rfl, rfl⟩) inferInstance)
      fun hs => Tx.fits_derived_balance_hook_impl hc hs.narrow
  · rw [← hlz] at hcover
    exact_mod_cast hcover
  · omega
  · subst hord
    have hnot : a ∉ earlier := by
      intro hmem
      exact List.disjoint_of_nodup_append hnd hmem List.mem_cons_self
    obtain ⟨v, hv, hcv, hlv, hwv, hrv, hpv, hnv⟩ := h.after_claims hnot
    have ha := hreg a (by simp)
    have hx := (Tx.commits_claim_all hcv ()).mpr
      ⟨by rw [hlv]; exact hlife, by rw [hwv]; exact ha, by rw [hpv]; exact hpos, rfl⟩
    refine ⟨v, _, hv, hcv.performs (m := reflection_token.claim_all a)
      (hx.executes (Call.claim_all a).sound)
      fun hs => Tx.fits_claim_all hcv (hnv hs.narrow), ?_, ?_, ?_⟩
    · rw [World.raw_materialized, if_pos rfl, hpv]
    · rw [World.pending_materialized, if_pos rfl, Nat.sub_self]
    · rw [World.vault_materialized, hpv]
      have := hcv.accounting.pending_le_vault (some a)
      omega

end

open Sample in
/-- Two accounts that are owed a part of one fee, and claim it one after the other. -/
theorem solvency_owing : ∃ w v v', owing = some w
    ∧ w.balance .reward_vault
      ≤ w.reflection.unallocated_fees + ((∑ a ∈ w.wallets, w.pending (some a)) + w.pending none)
        + (w.reflection.positions.keys.card + 1)
    ∧ Tx.Commits (claimable_for_store (.account 8) (.primary .trfl (.account 8))) .machine w
      (w.pending (some (.account 8))) w
    ∧ v = Call.attempts .machine w [.claim_all (.account 7)]
    ∧ Tx.Commits (Call.claim_all (.account 8)).run .machine v () v'
    ∧ v'.raw (.account 8) = v.raw (.account 8) + w.pending (some (.account 8)) := by
  obtain ⟨w, hw, hlive, h₇, h₈⟩ := exists_owing
  have hshort := shortRun_owing hw
  have hc := hshort.reachable.core
  have hw₇ := hc.wallet_of_pending (by omega : 0 < w.pending (some (.account 7)))
  have hw₈ := hc.wallet_of_pending (by omega : 0 < w.pending (some (.account 8)))
  obtain ⟨hdefined, -, -, hnamed, hclaims⟩ := solvency hshort.reachable
  obtain ⟨v, v', hv, hx, hpaid, -⟩ := hclaims (by simp [hlive]) [.account 7, .account 8]
    (by decide) (by simp [hw₇, hw₈]) [.account 7] (.account 8) [] rfl (by omega)
  exact ⟨w, v, v', hw, hnamed, (hdefined _ hw₈).1.commits hshort, hv, hx.commits hshort, hpaid⟩

end CedraReflect
