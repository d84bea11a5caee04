/-
What the functions of `reflection_token` do, in the ideal arithmetic.

One equivalence a function: on the left the `do` block, on the right what it
demands and the effect of `CoreEffects` it has. Where a function recomputes
something from the aggregates, [`Core`] is what makes the right-hand side short:
none of the defensive assertions survives in it. Everything downstream uses
these equivalences and never unfolds a function of the core again.
-/
import CedraReflect.CoreStep

set_option autoImplicit false
set_option linter.constructorNameAsVariable false

namespace CedraReflect

open Dividend (Ledger Act Valid)
open reflection_math (MAGNITUDE MAGNITUDE_pos)
open reflection_token

namespace Tx

variable {w w' : World} {r : Arithmetic} {a account store : Address} {n : ℕ}

/-! ## Guards and reads -/

@[simp] theorem commits_borrow_state (s : ReflectionState) :
    Commits borrow_state r w s w' ↔ s = w.reflection ∧ w' = w := by
  simp [borrow_state]

@[simp] theorem commits_borrow_custody (c : CustodyAccounting) :
    Commits borrow_custody r w c w' ↔ c = w.custody ∧ w' = w := by
  simp [borrow_custody]

@[simp] theorem commits_modify_state (f : ReflectionState → ReflectionState) (u : Unit) :
    Commits (modify_state f) r w u w' ↔ w' = { w with reflection := f w.reflection } := by
  simp [modify_state]

@[simp] theorem commits_modify_custody (f : CustodyAccounting → CustodyAccounting) (u : Unit) :
    Commits (modify_custody f) r w u w' ↔ w' = { w with custody := f w.custody } := by
  simp [modify_custody]

@[simp] theorem commits_assert_live (u : Unit) :
    Commits assert_live r w u w' ↔ w.reflection.lifecycle = .LIVE ∧ w' = w := by
  simp [assert_live, and_comm]

@[simp] theorem commits_assert_configuring (u : Unit) :
    Commits assert_configuring r w u w' ↔ w.reflection.lifecycle = .CONFIGURING ∧ w' = w := by
  simp [assert_configuring, and_comm]

/-- `CONFIGURING` is the only lifecycle in which tokens do not move. -/
@[simp] theorem commits_assert_token_transferable (u : Unit) :
    Commits assert_token_transferable r w u w' ↔
      w.reflection.lifecycle ≠ .CONFIGURING ∧ w' = w := by
  simp only [assert_token_transferable, commits_bind, commits_borrow_state, commits_require]
  cases hl : w.reflection.lifecycle <;> simp [hl]

@[simp] theorem commits_assert_pool (u : Unit) :
    Commits (assert_pool store) r w u w' ↔
      (w.reflection.pool_registered = true ∧ store = w.reflection.pool_store) ∧ w' = w := by
  simp [assert_pool, and_assoc]

@[simp] theorem commits_assert_registered_wallet (u : Unit) :
    Commits (assert_registered_wallet a) r w u w' ↔
      is_registered_wallet w.custody a = true ∧ w' = w := by
  simp [assert_registered_wallet, and_comm]

@[simp] theorem commits_assert_eligible_primary_store [NamedAddresses] (u : Unit) :
    Commits (assert_eligible_primary_store (.primary .trfl a)) r w u w' ↔
      (is_excluded_store w.reflection (.primary .trfl a) = false
        ∧ is_registered_wallet w.custody a = true) ∧ w' = w := by
  simp [assert_eligible_primary_store, and_assoc, Address.owner]

@[simp] theorem commits_fee_for (f : ℕ) :
    Commits (fee_for n) .ideal w f w' ↔
      n * w.reflection.fee_bps / BPS_DENOMINATOR < 2 ^ 64
        ∧ f = n * w.reflection.fee_bps / BPS_DENOMINATOR ∧ w' = w := by
  simp [fee_for]

/-! ## Share moves -/

theorem commits_borrow_position (p : Position) :
    Commits (borrow_position a) r w p w' ↔
      w.reflection.positions.lookup a = some p ∧ w' = w := by
  simp [borrow_position, and_comm]

@[simp] theorem commits_ensure_position (u : Unit) :
    Commits (ensure_position a) r w u w' ↔
      w' = if a ∈ w.reflection.positions then w
        else ({ w with reflection :=
          { w.reflection with
            positions := w.reflection.positions.insert a ⟨reflection_math.zero, 0⟩ } } :
              World).logged (.PositionCreated a) := by
  simp only [ensure_position, commits_bind, commits_borrow_state, commits_ite, commits_pure,
    commits_modify_state, commits_emit, World.logged]
  split <;> simp_all

theorem commits_add_raw_shares (u : Unit) :
    Commits (add_raw_shares a n) .ideal w u w' ↔ w' = w.addRaw a n := by
  unfold add_raw_shares
  by_cases hn : n = 0
  · simp [hn, World.addRaw]
  · simp only [hn, if_false, commits_bind, commits_ensure_position, commits_borrow_state,
      commits_checked, commits_borrow_position, commits_subtract_unsigned, commits_modify_state]
    by_cases ha : a ∈ w.reflection.positions
    · obtain ⟨p, hp⟩ := Finmap.mem_iff.mp ha
      simp [ha, hp, hn, World.addRaw, World.position]
    · simp [ha, hn, World.addRaw, World.position, World.logged, Finmap.lookup_eq_none.mpr ha]

theorem commits_remove_raw_shares (u : Unit) :
    Commits (remove_raw_shares a n) .ideal w u w' ↔
      n ≤ w.reflection.total_shares ∧ w' = w.removeRaw a n := by
  unfold remove_raw_shares
  by_cases hn : n = 0
  · simp [hn, World.removeRaw]
  · simp only [hn, if_false, commits_bind, commits_ensure_position, commits_borrow_state,
      commits_checked, commits_borrow_position, commits_add_unsigned, commits_modify_state,
      commits_sub]
    by_cases ha : a ∈ w.reflection.positions
    · obtain ⟨p, hp⟩ := Finmap.mem_iff.mp ha
      simp [ha, hp, hn, World.removeRaw, World.position]
    · simp [ha, hn, World.removeRaw, World.position, World.logged, Finmap.lookup_eq_none.mpr ha]

theorem commits_add_custody_shares (u : Unit) :
    Commits (add_custody_shares n) .ideal w u w' ↔ w' = w.addCustody n := by
  unfold add_custody_shares
  by_cases hn : n = 0
  · simp [hn, World.addCustody]
  · simp [hn, World.addCustody]

theorem commits_remove_custody_shares (u : Unit) :
    Commits (remove_custody_shares n) .ideal w u w' ↔
      (n ≤ w.custody.custody_shares ∧ n ≤ w.reflection.total_shares)
        ∧ w' = w.removeCustody n := by
  unfold remove_custody_shares
  by_cases hn : n = 0
  · simp [hn, World.removeCustody]
  · simp [hn, World.removeCustody, and_assoc]

/-! ## Reading the accounting -/

theorem commits_aggregate_liability (h : Accounting w) (x : ℕ) :
    Commits aggregate_liability .ideal w x w' ↔
      (x : ℤ) = w.coreLedger.liability MAGNITUDE ∧ w' = w := by
  have hnn := h.liability_nonneg
  simp only [aggregate_liability, commits_bind, commits_borrow_state, commits_borrow_custody,
    commits_checked, commits_apply, commits_checked_subtract]
  have hacc := h.valid.accruedSum_nonneg
  unfold Ledger.liability at hnn ⊢
  rw [← h.settled] at hnn ⊢
  constructor
  · rintro ⟨_, _, ⟨rfl, rfl⟩, _, _, ⟨rfl, rfl⟩, _, _, ⟨rfl, rfl⟩, m, _, ⟨hm, rfl⟩, _, _,
      ⟨rfl, rfl⟩, hle, rfl, rfl⟩
    push_cast at hm
    rw [h.aggregate] at hm
    refine ⟨?_, rfl⟩
    push_cast [Nat.cast_sub hle]
    rw [hm]
  · rintro ⟨hx, rfl⟩
    -- The sum of the accumulators is a natural number, so that the division is one of naturals.
    obtain ⟨m, hm⟩ := Int.eq_ofNat_of_zero_le hacc
    have hq : ((m / MAGNITUDE : ℕ) : ℤ) = w'.coreLedger.accruedSum / MAGNITUDE := by
      rw [hm]
      exact Int.natCast_ediv _ _
    rw [← hq] at hnn hx
    refine ⟨_, _, ⟨rfl, rfl⟩, _, _, ⟨rfl, rfl⟩, _, _, ⟨rfl, rfl⟩, m, _, ⟨?_, rfl⟩, _, _,
      ⟨rfl, rfl⟩, ?_, ?_, rfl⟩
    · push_cast
      rw [h.aggregate, hm]
    · omega
    · omega

/-- Every wallet's pending reward is defined and is the ledger's. -/
theorem commits_claimable_for_store (h : Core w) (x : ℕ) :
    Commits (claimable_for_store a (.primary .trfl a)) .ideal w x w' ↔
      x = w.pending (some a) ∧ w' = w := by
  simp only [claimable_for_store, commits_bind, commits_borrow_state, commits_ite, commits_pure,
    commits_balance, commits_borrow_position, commits_checked, commits_apply,
    commits_checked_subtract, commits_narrow]
  -- Without a position nothing is pending, in the code as in the ledger.
  by_cases ha : a ∈ w.reflection.positions
  · have hnn := h.accounting.valid.accrued_nonneg (some a)
    have hcl := h.accounting.valid.claimed_le MAGNITUDE_pos (some a)
    have hpe := h.accounting.valid.pending_eq MAGNITUDE_pos (some a)
    have hlt : w.pending (some a) < 2 ^ 64 := h.pending_lt (some a)
    obtain ⟨m, hm⟩ := Int.eq_ofNat_of_zero_le hnn
    have hq : ((m / MAGNITUDE : ℕ) : ℤ) = w.coreLedger.accrued (some a) / MAGNITUDE := by
      rw [hm]
      exact Int.natCast_ediv _ _
    rw [← hq] at hcl hpe
    rw [World.coreLedger_claimed_some] at hcl hpe
    change (w.pending (some a) : ℤ) = _ at hpe
    obtain ⟨p, hp⟩ := Finmap.mem_iff.mp ha
    have hpos : w.position a = p := by simp [World.position, hp]
    rw [World.coreLedger_accrued_some, World.raw, hpos] at hm
    rw [hpos] at hcl hpe
    constructor
    · rintro ⟨_, _, ⟨rfl, rfl⟩, ⟨hna, -⟩ | ⟨-, _, _, ⟨rfl, rfl⟩, _, _, ⟨hlook, rfl⟩, _, _,
        ⟨rfl, rfl⟩, m', _, ⟨hm', rfl⟩, _, _, ⟨hle, rfl, rfl⟩, -, rfl, rfl⟩⟩
      · exact absurd ha hna
      · rw [hp] at hlook
        cases hlook
        push_cast at hm'
        have : m' = m := by omega
        subst this
        refine ⟨?_, rfl⟩
        omega
    · rintro ⟨rfl, rfl⟩
      refine ⟨_, _, ⟨rfl, rfl⟩, .inr ⟨not_not.mpr ha, _, _, ⟨rfl, rfl⟩, p, _, ⟨hp, rfl⟩, _, _,
        ⟨rfl, rfl⟩, m, _, ⟨?_, rfl⟩, _, _, ⟨?_, rfl, rfl⟩, ?_, ?_, rfl⟩⟩
      · push_cast
        exact hm.symm
      · omega
      · omega
      · omega
  · rw [h.membership.pending_of_notMem ha]
    constructor
    · rintro ⟨_, _, ⟨rfl, rfl⟩, ⟨-, hx⟩ | ⟨hna, -⟩⟩
      · exact hx
      · exact absurd ha hna
    · rintro ⟨rfl, rfl⟩
      exact ⟨_, _, ⟨rfl, rfl⟩, .inl ⟨ha, rfl, rfl⟩⟩

/-- So is the pool's, once custody is registered. -/
theorem commits_custody_pending_for_store (h : Core w) (hr : w.custody.registered = true)
    (x : ℕ) :
    Commits (custody_pending_for_store .rfl_reserve) .ideal w x w' ↔
      x = w.pending none ∧ w' = w := by
  have hnn := h.accounting.valid.accrued_nonneg none
  have hcl := h.accounting.valid.claimed_le MAGNITUDE_pos none
  have hpe := h.accounting.valid.pending_eq MAGNITUDE_pos none
  have hlt : w.pending none < 2 ^ 64 := h.pending_lt none
  obtain ⟨m, hm⟩ := Int.eq_ofNat_of_zero_le hnn
  have hq : ((m / MAGNITUDE : ℕ) : ℤ) = w.coreLedger.accrued none / MAGNITUDE := by
    rw [hm]
    exact Int.natCast_ediv _ _
  rw [← hq] at hcl hpe
  rw [World.coreLedger_claimed_none] at hcl hpe
  rw [World.coreLedger_accrued_none] at hm
  change (w.pending none : ℤ) = _ at hpe
  -- What the code computes is the magnified entitlement, a natural number.
  simp only [custody_pending_for_store, commits_bind, commits_borrow_state,
    commits_borrow_custody, commits_ite, commits_pure, commits_balance, commits_require,
    commits_checked, commits_apply, commits_checked_subtract, commits_narrow]
  constructor
  · rintro ⟨_, _, ⟨rfl, rfl⟩, _, _, ⟨rfl, rfl⟩, ⟨hf, -⟩ | ⟨-, _, _, ⟨rfl, rfl⟩, _, _, ⟨-, rfl⟩,
      _, _, ⟨rfl, rfl⟩, m', _, ⟨hm', rfl⟩, _, _, ⟨hle, rfl, rfl⟩, -, rfl, rfl⟩⟩
    · simp [hr] at hf
    · push_cast at hm'
      have : m' = m := by omega
      subst this
      refine ⟨?_, rfl⟩
      omega
  · rintro ⟨rfl, rfl⟩
    refine ⟨_, _, ⟨rfl, rfl⟩, _, _, ⟨rfl, rfl⟩, .inr ⟨by simp [hr], _, _, ⟨rfl, rfl⟩, (), _,
      ⟨h.supply.custody.symm, rfl⟩, _, _, ⟨rfl, rfl⟩, m, _, ⟨?_, rfl⟩, _, _, ⟨?_, rfl, rfl⟩,
      ?_, ?_, rfl⟩⟩
    · push_cast
      exact hm.symm
    · omega
    · omega
    · omega

theorem commits_assert_custody_matches_raw (h : Supply w) (u : Unit) :
    Commits (assert_custody_matches_raw .rfl_reserve) r w u w' ↔ w' = w := by
  simp only [assert_custody_matches_raw, commits_bind, commits_borrow_custody, commits_balance,
    commits_require, and_assoc, exists_and_left, exists_eq_left, h.custody, true_and]

/-- The reserve that is recomputed is the ledger's. -/
theorem commits_recompute_rounding_reserve (h : Accounting w) (u : Unit) :
    Commits recompute_rounding_reserve .ideal w u w' ↔
      w' = { w with custody :=
        { w.custody with rounding_reserve := w.coreLedger.reserve MAGNITUDE } } := by
  have hp := h.partition
  have hr := h.reserve_eq
  obtain ⟨l, hl⟩ := Int.eq_ofNat_of_zero_le h.liability_nonneg
  rw [hl] at hp
  have hsub : w.balance .reward_vault - (l + w.reflection.unallocated_fees)
      = w.coreLedger.reserve MAGNITUDE := by omega
  have hlt : w.coreLedger.reserve MAGNITUDE < 2 ^ 128 := by
    rw [hr]
    split <;> norm_num
  simp only [recompute_rounding_reserve, commits_bind, commits_balance,
    commits_aggregate_liability h, hl, Int.ofNat_inj, commits_borrow_state, commits_checked,
    commits_require, commits_narrow, commits_modify_custody, and_assoc, exists_and_left,
    exists_eq_left, exists_const, hsub]
  constructor
  · rintro ⟨-, -, hw⟩
    exact hw
  · intro hw
    exact ⟨by omega, hlt, hw⟩

/-- **The backing assertion never aborts.** -/
theorem commits_assert_accounting_backing (h : Core w) (u : Unit) :
    Commits assert_accounting_backing .ideal w u w' ↔ w' = w := by
  have hp := h.accounting.partition
  have hv := h.accounting.vault
  have hs := h.accounting.settled
  have hr := h.rounding
  obtain ⟨l, hl⟩ := Int.eq_ofNat_of_zero_le h.accounting.liability_nonneg
  rw [hl, ← hr] at hp
  simp only [assert_accounting_backing, commits_bind, commits_borrow_state,
    commits_borrow_custody, commits_balance, commits_aggregate_liability h.accounting, hl,
    Int.ofNat_inj, commits_checked, commits_require, and_assoc, exists_and_left, exists_eq_left,
    exists_const]
  constructor
  · rintro ⟨-, -, -, hw⟩
    exact hw
  · intro hw
    exact ⟨by omega, by omega, by omega, hw⟩

/-! ## Materialization -/

theorem commits_materialize_to_store (h : Core w) (explicit_claim : Bool) (trigger : Trigger)
    (x : ℕ) :
    Commits (materialize_to_store a (.primary .trfl a) n explicit_claim trigger) .ideal w x w' ↔
      (0 < n ∧ n ≤ w.pending (some a))
        ∧ x = n ∧ w' = w.materialized a n explicit_claim trigger := by
  simp only [materialize_to_store, commits_bind, commits_claimable_for_store h, commits_require,
    commits_borrow_state, commits_checked, commits_subtract_unsigned, commits_borrow_position,
    commits_modify_state, commits_withdraw_with_ref, commits_deposit_with_ref, and_assoc,
    exists_and_left, exists_eq_left, exists_const]
  refine and_congr_right fun hn0 => and_congr_right fun hn => ?_
  have ha : a ∈ w.reflection.positions := by
    by_contra hne
    rw [h.membership.pending_of_notMem hne] at hn
    omega
  have hv : n ≤ w.balance .reward_vault := hn.trans (h.accounting.pending_le_vault _)
  obtain ⟨p, hp⟩ := Finmap.mem_iff.mp ha
  cases explicit_claim <;>
    simp [hp, hv, hn0.ne', Address.store_metadata, World.position, World.materialized,
      World.walletCredited, World.addRaw, World.logged, World.walletPaid, World.debit,
      World.credit]
  exact and_comm

/-- The whole of the pending reward is materialized, if there is any. -/
theorem commits_materialize_all_to_store (h : Core w) (explicit_claim : Bool) (trigger : Trigger)
    (x : ℕ) :
    Commits (materialize_all_to_store a (.primary .trfl a) explicit_claim trigger) .ideal w x w' ↔
      x = w.pending (some a) ∧ w' = w.materializedAll a explicit_claim trigger := by
  simp only [materialize_all_to_store, commits_bind, commits_borrow_state, commits_ite,
    commits_pure, commits_claimable_for_store h, commits_materialize_to_store h, and_assoc,
    exists_and_left, exists_eq_left, World.materializedAll]
  by_cases hz : w.pending (some a) = 0
  · simp [hz]
    tauto
  · have ha : a ∈ w.reflection.positions := by
      by_contra hne
      exact hz (h.membership.pending_of_notMem hne)
    simp [hz, ha, Nat.pos_of_ne_zero hz]

/-! ## Fees -/

/-- What `advance_index` does with a fee already in the vault. -/
theorem commits_advance_index (h : Core w) (hn : n ≤ w.in_flight .trfl) {gross kind : ℕ}
    (u : Unit) :
    Commits (advance_index a gross n kind) .ideal (w.credit .trfl .reward_vault n) u w' ↔
      w' = w.collected a n gross kind := by
  suffices hc : Commits (advance_index a gross n kind) .ideal (w.credit .trfl .reward_vault n) ()
      (w.collected a n gross kind) by simpa using hc.iff u w'
  simp only [advance_index, commits_bind, commits_borrow_state, commits_checked,
    commits_modify_state, commits_emit, commits_div, commits_mod, and_assoc, exists_and_left,
    exists_eq_left, exists_const, commits_ite, World.credit_reflection]
  by_cases ht : w.reflection.total_shares = 0
  · refine .inl ⟨ht, ?_⟩
    change Commits recompute_rounding_reserve .ideal
      ((w.setAside n).logged (.ReflectionFeeCollected a gross n w.reflection.fee_bps kind)) () _
    have hs := (h.setAside ht hn).logged
      (.ReflectionFeeCollected a gross n w.reflection.fee_bps kind)
    rw [commits_recompute_rounding_reserve hs.accounting, ← hs.rounding, World.collected,
      if_pos ht]
  · have hpos : 0 < w.reflection.total_shares := Nat.pos_of_ne_zero ht
    -- The new index is kept as a variable: only the equation below looks inside it.
    obtain ⟨i, hi⟩ : ∃ i, i = w.nextIndex n := ⟨_, rfl⟩
    obtain ⟨r, hr⟩ : ∃ r, r = w.nextRemainder n := ⟨_, rfl⟩
    have hi' : w.reflection.index
        + (n * MAGNITUDE + w.reflection.index_remainder) / w.reflection.total_shares = i := by
      rw [hi, World.nextIndex, mul_comm]
    have hr' : (n * MAGNITUDE + w.reflection.index_remainder) % w.reflection.total_shares = r := by
      rw [hr, World.nextRemainder, mul_comm]
    have hacc := h.accounting_indexed ht hi hr w.custody.rounding_reserve
    have hlog := hacc.logged (.ReflectionFeeCollected a gross n w.reflection.fee_bps kind)
    rw [hi', hr', World.collected, if_neg ht, ← hi, ← hr]
    refine .inr ⟨ht, hpos, hpos, (), _, (commits_recompute_rounding_reserve hlog ()).mpr rfl, ?_⟩
    rw [hlog.reserve_eq]
    rfl

theorem commits_take_fee (h : Core w) {asset : FungibleAsset} {amount : ℕ} (gross fee kind : ℕ)
    (hn : amount ≤ w.in_flight .trfl) (hf : fee ≤ amount) :
    Commits (take_fee ⟨.trfl, amount⟩ a gross fee kind) .ideal w asset w' ↔
      asset = ⟨.trfl, amount - fee⟩ ∧ w' = w.feeTaken a gross fee kind := by
  unfold take_fee
  by_cases hz : fee = 0
  · simp [hz, World.feeTaken]
  · have hle : fee ≤ w.in_flight .trfl := hf.trans hn
    simp [Nat.pos_of_ne_zero hz, hz, hf, hle, Address.store_metadata, World.feeTaken,
      commits_advance_index h hle, and_comm]

/-! ## Registration -/

/-- An unregistered wallet's store is empty, so that registering never refuses. -/
theorem commits_ensure_registered_wallet_for_store (h : Core w) (u : Unit) :
    Commits (ensure_registered_wallet_for_store a (.primary .trfl a)) .ideal w u w' ↔
      w' = w.ensured a := by
  simp only [ensure_registered_wallet_for_store, ensure_registered_wallet, commits_bind,
    commits_borrow_custody, commits_ite, commits_pure, commits_balance, commits_require,
    commits_checked, commits_modify_custody, commits_emit, and_assoc, exists_and_left,
    exists_eq_left, exists_const, h.membership.is_registered_iff]
  by_cases ha : a ∈ w.wallets
  · simp [ha, World.ensured]
  · have hr : w.balance (.primary .trfl a) = 0 := h.supply.raw_of_notMem ha
    have ht : a ∉ w.custody.registered_wallets := by
      rwa [World.wallets, Finmap.mem_keys] at ha
    simp [ha, ht, hr, World.ensured, World.enrolled]

theorem is_registered_ensured (h : Core w) :
    is_registered_wallet (w.ensured a).custody a = true := by
  unfold World.ensured
  split
  · next ha => exact (h.membership.is_registered_iff a).mpr ha
  · simp [is_registered_wallet, World.enrolled]

theorem commits_assert_eligible_ensured [NamedAddresses] (h : Core w) (u : Unit) :
    Commits (assert_eligible_primary_store (.primary .trfl a)) r (w.ensured a) u w' ↔
      is_excluded_store w.reflection (.primary .trfl a) = false ∧ w' = w.ensured a := by
  have hx : (w.ensured a).reflection = w.reflection := by
    unfold World.ensured
    split <;> rfl
  simp [hx, is_registered_ensured h]

/-! ## Settlement -/

theorem commits_settle_sell [NamedAddresses] (h : Core w) (hb : Bound w)
    {cap : SettlementCapability} {p : ℕ × ℕ} :
    Commits (settle_sell cap a .rfl_reserve n) .ideal w p w' ↔
      cap.nonce = 1 ∧ 0 < n ∧ w.reflection.lifecycle = .LIVE
        ∧ is_excluded_store w.reflection (.primary .trfl a) = false ∧ a ∈ w.wallets
        ∧ n ≤ (w.materializedAll a false .SELL_PRE).raw a
        ∧ n * w.reflection.fee_bps / BPS_DENOMINATOR < 2 ^ 64
        ∧ n * w.reflection.fee_bps / BPS_DENOMINATOR ≤ n
        ∧ p = (n - n * w.reflection.fee_bps / BPS_DENOMINATOR,
            n * w.reflection.fee_bps / BPS_DENOMINATOR)
        ∧ w' = w.sold a n (n * w.reflection.fee_bps / BPS_DENOMINATOR) := by
  simp only [settle_sell, commits_bind, commits_require, commits_assert_live, commits_assert_pool,
    commits_assert_eligible_primary_store, commits_materialize_all_to_store h, commits_balance,
    commits_withdraw_with_ref, commits_remove_raw_shares, commits_fee_for, commits_sub, and_assoc,
    exists_and_left, exists_eq_left, exists_const, hb.pool_registered, hb.pool_store,
    h.membership.is_registered_iff, true_and]
  refine and_congr_right fun _ => and_congr_right fun _ => and_congr_right fun _ =>
    and_congr_right fun _ => and_congr_right fun ha => and_congr_right fun hn => ?_
  -- The invariant after each step of the sell, which is what lets the next step be executed.
  have h₁ := h.moved_materializedAll (a := a) false .SELL_PRE
  have h₂ := h₁.core.step_walletDebited (n := n) (by simpa using ha) hn
  have hfee : (((w.materializedAll a false .SELL_PRE).debit .trfl (primary_store a) n).removeRaw a
      n).reflection.fee_bps = w.reflection.fee_bps := (h₁.frame.trans h₂.frame).fee_bps
  have hts : n ≤ ((w.materializedAll a false .SELL_PRE).debit .trfl (primary_store a)
      n).reflection.total_shares := hn.trans (h₁.core.raw_le_total (by simpa using ha))
  rw [hfee]
  obtain ⟨fee, hf⟩ : ∃ fee, fee = n * w.reflection.fee_bps / BPS_DENOMINATOR := ⟨_, rfl⟩
  rw [← hf]
  have hn' : n ≤ (w.materializedAll a false .SELL_PRE).balance (.primary .trfl a) := hn
  simp only [primary_store, Address.store_metadata, hts, hn', true_and]
  refine and_congr_right fun _ => and_congr_right fun hle => ?_
  -- The fee is taken, the pool is paid, and the seller is settled once more.
  have h₃ := h₂.core.step_feeTaken (a := a) n fee 1 (by simp; omega)
  have h₄ := h₃.core.moved_materializedAll (a := a) false .SELL_POST
  have h₅ : Core (w.sold a n fee) :=
    (h₄.core.step_poolCredited (n := n - fee) (by simp; omega)).core
  change (∃ x s, Commits _ _ ((w.materializedAll a false .SELL_PRE).walletDebited a n) x s ∧ _) ↔ _
  simp only [commits_take_fee h₂.core n fee 1 (by simp) hle,
    commits_materialize_all_to_store h₃.core, commits_deposit_with_ref,
    Address.store_metadata, commits_add_custody_shares, and_assoc, exists_and_left,
    exists_eq_left, exists_const, true_and]
  change (_ ∧ ∃ x s, Commits _ _ (w.sold a n fee) x s ∧ _) ↔ _
  have hflight : n - fee ≤ ((((w.materializedAll a false .SELL_PRE).walletDebited a n).feeTaken a
      n fee 1).materializedAll a false .SELL_POST).in_flight .trfl := by simp; omega
  simp only [hflight, commits_assert_custody_matches_raw h₅.supply, commits_pure, true_and,
    exists_eq_left, exists_const]

theorem commits_settle_buy [NamedAddresses] (h : Core w) (hb : Bound w)
    {cap : SettlementCapability} {p : ℕ × ℕ} :
    Commits (settle_buy cap a .rfl_reserve n) .ideal w p w' ↔
      cap.nonce = 1 ∧ 0 < n ∧ w.reflection.lifecycle = .LIVE
        ∧ is_excluded_store w.reflection (.primary .trfl a) = false
        ∧ n ≤ w.custody.custody_shares
        ∧ n * w.reflection.fee_bps / BPS_DENOMINATOR < 2 ^ 64
        ∧ n * w.reflection.fee_bps / BPS_DENOMINATOR ≤ n
        ∧ 0 < n - n * w.reflection.fee_bps / BPS_DENOMINATOR
        ∧ p = (n - n * w.reflection.fee_bps / BPS_DENOMINATOR,
            n * w.reflection.fee_bps / BPS_DENOMINATOR)
        ∧ w' = w.bought a n (n * w.reflection.fee_bps / BPS_DENOMINATOR) := by
  simp only [settle_buy, commits_bind, commits_require, commits_assert_live, commits_assert_pool,
    commits_ensure_registered_wallet_for_store h, commits_assert_eligible_ensured h, and_assoc,
    exists_and_left, exists_eq_left, exists_const, hb.pool_registered, hb.pool_store, true_and]
  refine and_congr_right fun _ => and_congr_right fun _ => and_congr_right fun _ =>
    and_congr_right fun hx => ?_
  -- A buyer without a wallet gets one before anything else.
  have h₀ := h.moved_ensured hx
  have h₁ := h₀.trans (h₀.core.moved_materializedAll (a := a) false .BUY_PRE)
  simp only [commits_materialize_all_to_store h₀.core, commits_remove_custody_shares,
    commits_withdraw_with_ref, commits_fee_for, commits_sub, and_assoc, exists_and_left,
    exists_eq_left, exists_const, World.custody_materializedAll, World.custody_shares_ensured]
  refine and_congr_right fun hn => ?_
  have h₂ := h₁.core.step_poolDebited (n := n) (by simpa using hn)
  have hfee : ((((w.ensured a).materializedAll a false .BUY_PRE).removeCustody n).debit .trfl
      .rfl_reserve n).reflection.fee_bps = w.reflection.fee_bps := (h₁.frame.trans h₂.frame).fee_bps
  have hts : n ≤ ((w.ensured a).materializedAll a false .BUY_PRE).reflection.total_shares :=
    (by simpa using hn : n ≤ _).trans h₁.core.custody_le_total
  -- The reserve holds what custody has shares of.
  have hres : n ≤ (((w.ensured a).materializedAll a false .BUY_PRE).removeCustody n).balance
      .rfl_reserve := by
    have := h₁.core.supply.custody
    simp only [World.custody_materializedAll, World.custody_shares_ensured] at this
    show n ≤ ((w.ensured a).materializedAll a false .BUY_PRE).balance .rfl_reserve
    omega
  rw [hfee]
  obtain ⟨fee, hf⟩ : ∃ fee, fee = n * w.reflection.fee_bps / BPS_DENOMINATOR := ⟨_, rfl⟩
  rw [← hf]
  simp only [Address.store_metadata, hts, hres, true_and]
  refine and_congr_right fun _ => and_congr_right fun hle => and_congr_right fun _ => ?_
  have hw : a ∈ (((((w.ensured a).materializedAll a false .BUY_PRE).poolDebited n).feeTaken a n fee
      2).materializedAll a false .BUY_POST).wallets := by
    rw [World.wallets_materializedAll, World.wallets_feeTaken]
    show a ∈ ((w.ensured a).materializedAll a false .BUY_PRE).wallets
    simpa using w.mem_wallets_ensured a
  have h₃ := h₂.core.step_feeTaken (a := a) n fee 2 (by simp; omega)
  have h₄ := h₃.core.moved_materializedAll (a := a) false .BUY_POST
  have h₅ : Core (w.bought a n fee) :=
    (h₄.core.step_walletCredited (n := n - fee) hw (by simp; omega)).core
  change (∃ x s, Commits _ _ (((w.ensured a).materializedAll a false .BUY_PRE).poolDebited n) x s
    ∧ _) ↔ _
  simp only [commits_take_fee h₂.core n fee 2 (by simp) hle,
    commits_materialize_all_to_store h₃.core, commits_deposit_with_ref, primary_store,
    Address.store_metadata, commits_add_raw_shares, and_assoc, exists_and_left,
    exists_eq_left, exists_const, true_and]
  change (_ ∧ ∃ x s, Commits _ _ (w.bought a n fee) x s ∧ _) ↔ _
  have hflight : n - fee ≤ (((((w.ensured a).materializedAll a false .BUY_PRE).poolDebited
      n).feeTaken a n fee 2).materializedAll a false .BUY_POST).in_flight .trfl := by simp; omega
  simp only [hflight, commits_assert_custody_matches_raw h₅.supply, commits_pure, true_and,
    exists_eq_left, exists_const]

/-! ## The custody registry -/

theorem commits_borrow_registry (hb : Bound w) (registry : CustodyRegistry) :
    Commits custody_registry.borrow_registry r w registry w' ↔
      registry = custody_registry.deployed ∧ w' = w := by
  simp [custody_registry.borrow_registry, hb.custody_registry, eq_comm]

theorem commits_assert_capability (hb : Bound w) (u : Unit) :
    Commits (custody_registry.assert_capability custody_registry.deployed_cap) r w u w' ↔
      w' = w := by
  simp only [custody_registry.assert_capability, commits_bind, commits_borrow_registry hb,
    commits_require, and_assoc, exists_and_left, exists_eq_left]
  simp [custody_registry.deployed, custody_registry.deployed_cap]

theorem commits_assert_reserve (hb : Bound w) (u : Unit) :
    Commits (custody_registry.assert_reserve custody_registry.deployed_cap .rfl_reserve) r w u w' ↔
      w' = w := by
  simp only [custody_registry.assert_reserve, commits_bind, commits_assert_capability hb,
    commits_borrow_registry hb, commits_require, and_assoc, exists_and_left, exists_eq_left,
    exists_const]
  simp [custody_registry.deployed]

theorem commits_assert_active_route (hb : Bound w) (u : Unit) :
    Commits (custody_registry.assert_active_route custody_registry.deployed_cap .rfl_reserve 1
        .lp_reward_vault) r w u w' ↔ w' = w := by
  simp only [custody_registry.assert_active_route, commits_bind, commits_assert_capability hb,
    commits_borrow_registry hb, commits_require, and_assoc, exists_and_left, exists_eq_left,
    exists_const]
  simp [custody_registry.deployed]

/-- Only the first epoch was ever approved. -/
theorem commits_assert_claim_vault (hb : Bound w) {epoch : ℕ} (u : Unit) :
    Commits (custody_registry.assert_claim_vault custody_registry.deployed_cap epoch
        .lp_reward_vault) r w u w' ↔ epoch = 1 ∧ w' = w := by
  simp only [custody_registry.assert_claim_vault, commits_bind, commits_assert_capability hb,
    commits_borrow_registry hb, commits_require, commits_expect, and_assoc, exists_and_left,
    exists_eq_left, exists_const]
  simp [custody_registry.deployed, eq_comm]

/-! ## Custody -/

theorem commits_move_wallet_to_custody (h : Core w) (hb : Bound w) (u : Unit) :
    Commits (move_wallet_to_custody custody_registry.deployed_cap a .rfl_reserve n) .ideal w u w' ↔
      0 < n ∧ w.reflection.lifecycle = .LIVE ∧ a ∈ w.wallets
        ∧ n ≤ (w.materializedAll a false .LIQUIDITY_IN).raw a ∧ w' = w.provided a n := by
  simp only [move_wallet_to_custody, commits_bind, commits_require, commits_assert_live,
    commits_assert_pool, commits_assert_reserve hb, commits_assert_registered_wallet,
    commits_materialize_all_to_store h, commits_balance, commits_withdraw_with_ref,
    commits_remove_raw_shares, commits_deposit_with_ref, commits_add_custody_shares, and_assoc,
    exists_and_left, exists_eq_left, exists_const, hb.pool_registered, hb.pool_store,
    h.membership.is_registered_iff, true_and]
  refine and_congr_right fun _ => and_congr_right fun _ => and_congr_right fun ha =>
    and_congr_right fun hn => ?_
  -- Custody matches the reserve again only at the end, after both sides have moved.
  have h₁ := h.moved_materializedAll (a := a) false .LIQUIDITY_IN
  have h₂ := h₁.core.step_walletDebited (n := n) (by simpa using ha) hn
  have h₃ : Core (w.provided a n) := (h.moved_provided ha hn).core
  have hts : n ≤ ((w.materializedAll a false .LIQUIDITY_IN).debit .trfl (primary_store a)
      n).reflection.total_shares := hn.trans (h₁.core.raw_le_total (by simpa using ha))
  have hflight : n ≤ (((w.materializedAll a false .LIQUIDITY_IN).debit .trfl (primary_store a)
      n).removeRaw a n).in_flight .trfl := by
    change n ≤ ((w.materializedAll a false .LIQUIDITY_IN).walletDebited a n).in_flight .trfl
    simp
  have hn' : n ≤ (w.materializedAll a false .LIQUIDITY_IN).balance (primary_store a) := hn
  simp only [hn', hts, hflight, Address.store_metadata, true_and]
  change Commits _ _ (w.provided a n) u w' ↔ _
  simp only [commits_assert_custody_matches_raw h₃.supply]

theorem commits_move_custody_to_wallet [NamedAddresses] (h : Core w) (hb : Bound w) (u : Unit) :
    Commits (move_custody_to_wallet custody_registry.deployed_cap .rfl_reserve a n) .ideal w u w' ↔
      0 < n ∧ w.reflection.lifecycle = .LIVE
        ∧ is_excluded_store w.reflection (.primary .trfl a) = false
        ∧ n ≤ w.custody.custody_shares ∧ w' = w.released a n := by
  simp only [move_custody_to_wallet, commits_bind, commits_require, commits_assert_live,
    commits_assert_pool, commits_assert_reserve hb,
    commits_ensure_registered_wallet_for_store h, commits_assert_eligible_ensured h, and_assoc,
    exists_and_left, exists_eq_left, exists_const, hb.pool_registered, hb.pool_store, true_and]
  refine and_congr_right fun _ => and_congr_right fun _ => and_congr_right fun hx => ?_
  have h₀ := h.moved_ensured hx
  have h₁ := h₀.trans (h₀.core.moved_materializedAll (a := a) false .LIQUIDITY_OUT)
  simp only [commits_materialize_all_to_store h₀.core, commits_remove_custody_shares,
    commits_withdraw_with_ref, commits_deposit_with_ref, commits_add_raw_shares, and_assoc,
    exists_and_left, exists_eq_left, exists_const, World.custody_materializedAll,
    World.custody_shares_ensured]
  refine and_congr_right fun hn => ?_
  have hts : n ≤ ((w.ensured a).materializedAll a false .LIQUIDITY_OUT).reflection.total_shares :=
    (by simpa using hn : n ≤ _).trans h₁.core.custody_le_total
  have hres : n ≤ (((w.ensured a).materializedAll a false .LIQUIDITY_OUT).removeCustody n).balance
      .rfl_reserve := by
    have := h₁.core.supply.custody
    simp only [World.custody_materializedAll, World.custody_shares_ensured] at this
    show n ≤ ((w.ensured a).materializedAll a false .LIQUIDITY_OUT).balance .rfl_reserve
    omega
  have hflight : n ≤ ((((w.ensured a).materializedAll a false .LIQUIDITY_OUT).removeCustody
      n).debit .trfl .rfl_reserve n).in_flight .trfl := by simp
  have h₃ : Core (w.released a n) := (h.moved_released hx hn).core
  simp only [hts, hres, hflight, primary_store, Address.store_metadata, true_and]
  change Commits _ _ (w.released a n) u w' ↔ _
  simp only [commits_assert_custody_matches_raw h₃.supply]

/-- The pool's whole pending reward is routed, if there is any. -/
theorem commits_route_custody_rewards (h : Core w) (hb : Bound w) (x : ℕ) :
    Commits (route_custody_rewards custody_registry.deployed_cap .rfl_reserve 1 .lp_reward_vault)
        .ideal w x w' ↔
      w.reflection.lifecycle = .LIVE ∧ x = w.pending none
        ∧ w' = if w.pending none = 0 then w else w.routed (w.pending none) 1 := by
  simp only [route_custody_rewards, commits_bind, commits_assert_live, commits_assert_pool,
    commits_assert_active_route hb, commits_assert_custody_matches_raw h.supply,
    commits_custody_pending_for_store h hb.registered, commits_ite, commits_pure,
    commits_borrow_custody, commits_checked, commits_modify_custody, commits_transfer_with_ref,
    commits_emit, and_assoc, exists_and_left, exists_eq_left, exists_const, hb.pool_registered,
    hb.pool_store, true_and]
  have hv := h.accounting.pending_le_vault none
  by_cases hz : w.pending none = 0
  · simp [hz]
  · simp [hz, hv, Address.store_metadata, World.routed, World.logged, World.poolPaid,
      World.debit, World.credit, World.moved, and_comm]

theorem commits_payout_lp_reward_to [NamedAddresses] (h : Core w) (hb : Bound w) {epoch : ℕ}
    (u : Unit) :
    Commits (payout_lp_reward_to custody_registry.deployed_cap a epoch .lp_reward_vault n) .ideal w
        u w' ↔
      0 < n ∧ w.reflection.lifecycle ≠ .CONFIGURING ∧ epoch = 1
        ∧ is_excluded_store w.reflection (.primary .trfl a) = false
        ∧ n ≤ w.balance .lp_reward_vault ∧ w' = w.paidOut a n := by
  simp only [payout_lp_reward_to, commits_bind, commits_require, commits_assert_token_transferable,
    commits_assert_claim_vault hb, commits_ensure_registered_wallet_for_store h,
    commits_assert_eligible_ensured h, and_assoc, exists_and_left, exists_eq_left, exists_const]
  refine and_congr_right fun _ => and_congr_right fun _ => and_congr_right fun _ =>
    and_congr_right fun hx => ?_
  have h₀ := h.moved_ensured hx
  have hb : ((w.ensured a).materializedAll a false .LP_PAYOUT).balance .lp_reward_vault
      = w.balance .lp_reward_vault := by
    rw [World.balance_materializedAll _ _ _ _ (by simp) (by simp), World.balance_ensured]
  simp only [commits_materialize_all_to_store h₀.core, commits_withdraw_with_ref,
    commits_deposit_with_ref, commits_add_raw_shares, primary_store, Address.store_metadata, hb,
    and_assoc, exists_and_left, exists_eq_left, exists_const, true_and, World.debit_in_flight,
    Function.update_self, le_add_iff_nonneg_left, zero_le]
  rfl

theorem commits_close_pool (h : Core w) (hb : Bound w) (u : Unit) :
    Commits (close_pool custody_registry.deployed_cap) .ideal w u w' ↔
      w.reflection.lifecycle = .LIVE ∧ w.custody.custody_shares = 0 ∧ w.pending none = 0
        ∧ w' = ({ w with reflection := { w.reflection with lifecycle := .CLOSED } } :
            World).logged (.CorePoolClosed .rfl_reserve) := by
  simp only [close_pool, commits_bind, commits_assert_live, commits_borrow_state, hb.pool_store,
    commits_assert_reserve hb, commits_borrow_custody, commits_balance, commits_require,
    commits_custody_pending_for_store h hb.registered, commits_modify_state, commits_emit,
    and_assoc, exists_and_left, exists_eq_left, exists_const, ← h.supply.custody, World.logged]
  tauto

/-! ## Wallets -/

theorem commits_faucet_grant [NamedAddresses] (h : Core w) {cap : FaucetCapability}
    {operator : Address} (u : Unit) :
    Commits (faucet_grant cap a n operator) .ideal w u w' ↔
      cap.nonce = 1 ∧ 0 < n ∧ w.reflection.lifecycle = .LIVE
        ∧ is_excluded_store w.reflection (.primary .trfl a) = false
        ∧ n ≤ w.balance .distribution_vault ∧ w' = w.granted a n operator := by
  simp only [faucet_grant, commits_bind, commits_require, commits_assert_live,
    commits_ensure_registered_wallet_for_store h, commits_assert_eligible_ensured h, and_assoc,
    exists_and_left, exists_eq_left, exists_const]
  refine and_congr_right fun _ => and_congr_right fun _ => and_congr_right fun _ =>
    and_congr_right fun hx => ?_
  have h₀ := h.moved_ensured hx
  have hb : ((w.ensured a).materializedAll a false .FAUCET).balance .distribution_vault
      = w.balance .distribution_vault := by
    rw [World.balance_materializedAll _ _ _ _ (by simp) (by simp), World.balance_ensured]
  simp only [commits_materialize_all_to_store h₀.core, commits_transfer_with_ref,
    commits_add_raw_shares, commits_emit, primary_store, Address.store_metadata, hb, and_assoc,
    exists_and_left, exists_eq_left, exists_const, true_and,
    ← World.credit_debit _ .trfl]
  rfl

/-- An eligible store is the primary store of a registered wallet. -/
theorem is_eligible_iff [NamedAddresses] (h : Core w) (s : Address) :
    is_eligible_wallet_store w.reflection w.custody s = true ↔
      ∃ a ∈ w.wallets, s = .primary .trfl a := by
  simp only [is_eligible_wallet_store, Bool.and_eq_true, decide_eq_true_eq,
    h.membership.is_registered_iff, Bool.not_eq_true']
  constructor
  · rintro ⟨⟨-, hw⟩, hs⟩
    exact ⟨s.owner, hw, hs⟩
  · rintro ⟨a, ha, rfl⟩
    exact ⟨⟨h.membership.eligible a ha, ha⟩, rfl⟩

/-- A wallet sends out of its raw units after materialization. -/
theorem commits_withdraw_hook_wallet [NamedAddresses] (h : Core w) (ha : a ∈ w.wallets)
    (asset : FungibleAsset) :
    Commits (withdraw_hook_impl (.primary .trfl a) n) .ideal w asset w' ↔
      w.reflection.lifecycle ≠ .CONFIGURING
        ∧ n ≤ (w.materializedAll a false .TRANSFER_SEND).raw a
        ∧ asset = ⟨.trfl, n⟩ ∧ w' = w.sent a n := by
  have hel := (is_eligible_iff h (.primary .trfl a)).mpr ⟨a, ha, rfl⟩
  simp only [withdraw_hook_impl, commits_bind, commits_assert_token_transferable,
    commits_borrow_state, commits_borrow_custody, commits_ite, hel, Address.owner,
    commits_materialize_all_to_store h, commits_balance, commits_require,
    commits_remove_raw_shares, commits_emit, commits_withdraw_with_ref, and_assoc,
    exists_and_left, exists_eq_left, exists_const, true_and, not_true_eq_false, false_and,
    or_false]
  refine and_congr_right fun _ => and_congr_right fun hn => ?_
  have h₁ := h.moved_materializedAll (a := a) false .TRANSFER_SEND
  have hts : n ≤ (w.materializedAll a false .TRANSFER_SEND).reflection.total_shares :=
    hn.trans (h₁.core.raw_le_total (by simpa using ha))
  have hb : n ≤ ((w.materializedAll a false .TRANSFER_SEND).removeRaw a n).balance
      (.primary .trfl a) := hn
  simp only [hts, hb, Address.store_metadata, true_and]
  rfl

/-- Any other store that can be withdrawn from is an excluded one. -/
theorem commits_withdraw_hook_other [NamedAddresses] (h : Core w) {s : Address}
    (hs : ∀ a ∈ w.wallets, s ≠ .primary .trfl a) (asset : FungibleAsset) :
    Commits (withdraw_hook_impl s n) .ideal w asset w' ↔
      w.reflection.lifecycle ≠ .CONFIGURING ∧ is_excluded_store w.reflection s = true
        ∧ s.store_metadata = some .trfl ∧ n ≤ w.balance s
        ∧ asset = ⟨.trfl, n⟩ ∧ w' = w.debit .trfl s n := by
  have hel : ¬ is_eligible_wallet_store w.reflection w.custody s = true := by
    rw [is_eligible_iff h]
    rintro ⟨a, ha, hsa⟩
    exact hs a ha hsa
  simp only [withdraw_hook_impl, commits_bind, commits_assert_token_transferable,
    commits_borrow_state, commits_borrow_custody, commits_ite, hel, commits_require,
    commits_withdraw_with_ref, and_assoc, exists_and_left, exists_eq_left, exists_const,
    Bool.false_eq_true, false_and, not_false_eq_true, true_and, false_or]

/-- Only primary stores take deposits. -/
theorem commits_deposit_hook_impl [NamedAddresses] (h : Core w) {s : Address}
    {asset : FungibleAsset} (u : Unit) :
    Commits (deposit_hook_impl s asset) .ideal w u w' ↔
      w.reflection.lifecycle ≠ .CONFIGURING ∧ asset.metadata = .trfl
        ∧ asset.amount ≤ w.in_flight .trfl
        ∧ ∃ a, s = .primary .trfl a ∧ is_excluded_store w.reflection (.primary .trfl a) = false
          ∧ w' = w.arrived a asset.amount := by
  by_cases hs : ∃ a, s = .primary .trfl a
  · obtain ⟨a, rfl⟩ := hs
    have hinj : ∀ P : Address → Prop,
        (∃ b, Address.primary .trfl a = .primary .trfl b ∧ P b) ↔ P a := by simp
    rw [hinj]
    simp only [deposit_hook_impl, commits_bind, commits_assert_token_transferable,
      commits_borrow_state, commits_require, Address.owner,
      commits_ensure_registered_wallet_for_store h, commits_borrow_custody, and_assoc,
      exists_and_left, exists_eq_left, exists_const]
    by_cases hx : is_excluded_store w.reflection (.primary .trfl a) = false
    · have h₀ := h.moved_ensured hx
      have hel : is_eligible_wallet_store w.reflection (w.ensured a).custody (.primary .trfl a)
          = true := by
        simp [is_eligible_wallet_store, Address.owner, hx, is_registered_ensured h]
      simp only [hx, hel, commits_materialize_all_to_store h₀.core, commits_deposit_with_ref,
        commits_add_raw_shares, commits_emit, Address.store_metadata,
        World.in_flight_materializedAll, World.in_flight_ensured, and_assoc, exists_and_left,
        exists_eq_left, exists_const, true_and]
      rfl
    · simp [hx]
  · constructor
    · simp only [deposit_hook_impl, commits_bind, commits_assert_token_transferable,
        commits_borrow_state, commits_require, commits_borrow_custody, and_assoc, exists_and_left,
        exists_eq_left, exists_const]
      rintro ⟨-, -, _, _, -, hel, -⟩
      simp only [is_eligible_wallet_store, Bool.and_eq_true, decide_eq_true_eq] at hel
      exact absurd ⟨s.owner, hel.2⟩ hs
    · rintro ⟨-, -, -, a, ha, -⟩
      exact absurd ⟨a, ha⟩ hs

theorem commits_register_wallet [NamedAddresses] (h : Core w) (u : Unit) :
    Commits (register_wallet a) .ideal w u w' ↔
      w.reflection.lifecycle ≠ .CONFIGURING
        ∧ is_excluded_store w.reflection (.primary .trfl a) = false ∧ w' = w.ensured a := by
  simp only [register_wallet, commits_bind, commits_assert_token_transferable,
    commits_borrow_state, commits_require, primary_store,
    commits_ensure_registered_wallet_for_store h, and_assoc, exists_and_left, exists_eq_left,
    exists_const]

theorem commits_claim (h : Core w) (u : Unit) :
    Commits (claim a n) .ideal w u w' ↔
      w.reflection.lifecycle ≠ .CONFIGURING ∧ a ∈ w.wallets ∧ 0 < n ∧ n ≤ w.pending (some a)
        ∧ w' = w.materialized a n true .MANUAL := by
  simp only [claim, commits_bind, commits_require, commits_assert_token_transferable,
    commits_assert_registered_wallet, h.membership.is_registered_iff, primary_store,
    commits_materialize_to_store h, commits_pure, and_assoc, exists_and_left, exists_eq_left,
    exists_const]
  tauto

theorem commits_claim_all (h : Core w) (u : Unit) :
    Commits (claim_all a) .ideal w u w' ↔
      w.reflection.lifecycle ≠ .CONFIGURING ∧ a ∈ w.wallets ∧ 0 < w.pending (some a)
        ∧ w' = w.materialized a (w.pending (some a)) true .MANUAL := by
  simp only [claim_all, commits_bind, commits_require, commits_assert_token_transferable,
    commits_assert_registered_wallet, h.membership.is_registered_iff, primary_store,
    commits_materialize_all_to_store h, World.materializedAll, and_assoc, exists_and_left,
    exists_eq_left, exists_const]
  refine and_congr_right fun _ => and_congr_right fun _ => and_congr_right fun hp => ?_
  rw [if_neg hp.ne']

end Tx

end CedraReflect
