/-
Widths of the core's numbers, and the functions of the core that stay in them.

While the index and the fees collected are [`World.Narrow`], every magnified
product of the core is far below `2 ^ 256`: shares are units of a supply that is
fixed, what a holder has accrued is at most the fees collected, and a correction
is the difference of the two. A function that moves shares checks the corrections
it leaves, so that the invariant of the state after it is what makes it fit.
-/
import CedraReflect.Fits
import CedraReflect.Soundness
import CedraReflect.TokenSpec

set_option autoImplicit false
set_option linter.constructorNameAsVariable false
set_option synthInstance.maxSize 1000000000000

namespace CedraReflect

open reflection_math (MAGNITUDE MAGNITUDE_pos)
open reflection_token (TOTAL_SUPPLY is_excluded_store)

/-! ## Widths -/

/-- The index, the fees and the remainder are far from the widths they have. -/
structure World.Narrow (w : World) : Prop where
  index : w.reflection.index ≤ 2 ^ 138
  fees : w.reflection.lifetime_fees ≤ 2 ^ 114
  remainder : w.reflection.index_remainder ≤ TOTAL_SUPPLY

theorem MAGNITUDE_le : MAGNITUDE ≤ 2 ^ 80 := by
  unfold MAGNITUDE
  norm_num

theorem TOTAL_SUPPLY_lt : TOTAL_SUPPLY < 2 ^ 50 := by
  unfold TOTAL_SUPPLY
  norm_num

/-- What moves no index and collects no fee keeps the widths. -/
theorem World.Narrow.moved {w w' : World} (h : w.Narrow) (hm : Moved w w') : w'.Narrow := by
  obtain ⟨hi, hr, -, hf⟩ := hm.scalars
  exact ⟨hi ▸ h.index, hf ▸ h.fees, hr ▸ h.remainder⟩

namespace Core

variable {w : World} {a : Address} {n : ℕ}

/-- The eligible supply is a part of the supply. -/
theorem total_le (h : Core w) : w.reflection.total_shares ≤ TOTAL_SUPPLY := by
  have hs := h.supply.supply
  have hc := h.supply.custody
  rw [h.accounting.total, World.total_eq]
  rw [World.sum_stores] at hs
  unfold World.raw
  omega

theorem raw_le (h : Core w) (a : Address) : w.raw a ≤ TOTAL_SUPPLY :=
  h.supply.balance_le _ rfl

theorem vault_le (h : Core w) : w.balance .reward_vault ≤ TOTAL_SUPPLY :=
  h.supply.balance_le _ rfl

/-- Shares times the index. -/
theorem product_le (hw : w.Narrow) (hn : n ≤ TOTAL_SUPPLY) :
    n * w.reflection.index ≤ 2 ^ 188 := by
  have hs := TOTAL_SUPPLY_lt
  calc n * w.reflection.index ≤ 2 ^ 50 * 2 ^ 138 := Nat.mul_le_mul (by omega) hw.index
    _ = 2 ^ 188 := by norm_num

/-- The fees collected, magnified. -/
theorem received_le (hw : w.Narrow) :
    (MAGNITUDE : ℤ) * w.coreLedger.received ≤ 2 ^ 194 := by
  have h : MAGNITUDE * w.reflection.lifetime_fees ≤ 2 ^ 80 * 2 ^ 114 :=
    Nat.mul_le_mul MAGNITUDE_le hw.fees
  exact_mod_cast h

/-- What a holder earned, magnified, is a part of all that was received. -/
theorem accrued_le (h : Core w) (hw : w.Narrow) (i : Option Address) :
    w.coreLedger.accrued i ≤ 2 ^ 194 :=
  (h.accounting.valid.accrued_le i).trans (received_le hw)

theorem accruedSum_le (h : Core w) (hw : w.Narrow) : w.coreLedger.accruedSum ≤ 2 ^ 194 :=
  h.accounting.valid.accruedSum_le.trans (received_le hw)

/-- And so is what it was paid. -/
theorem claimed_le (h : Core w) (hw : w.Narrow) (i : Option Address) :
    w.coreLedger.claimed i ≤ 2 ^ 194 := by
  have hc := h.accounting.valid.claimed_le MAGNITUDE_pos i
  have ha := h.accrued_le hw i
  have hd := Int.ediv_le_self (MAGNITUDE : ℤ) (h.accounting.valid.accrued_nonneg i)
  omega

/-- Nothing is paid that was not collected. -/
theorem claimedSum_le (h : Core w) : w.coreLedger.claimedSum ≤ w.reflection.lifetime_fees := by
  have hv := h.accounting.vault
  omega

/-- A wallet's correction lies between its shares at the index and what it earned. -/
theorem small_position (h : Core w) (hw : w.Narrow) (a : Address) :
    Small (w.position a).correction.toInt := by
  have hp := product_le hw (h.raw_le a)
  have hle := h.accrued_le hw (some a)
  have hnn := h.accounting.valid.accrued_nonneg (some a)
  rw [World.coreLedger_accrued_some] at hle hnn
  unfold Small
  push_cast at hp hle hnn
  omega

/-- The custody's correction, for the same reason. -/
theorem small_custody (h : Core w) (hw : w.Narrow) :
    Small w.custody.pool_position.correction.toInt := by
  have hp := product_le hw (h.custody_le_total.trans h.total_le)
  have hle := h.accrued_le hw none
  have hnn := h.accounting.valid.accrued_nonneg none
  rw [World.coreLedger_accrued_none] at hle hnn
  unfold Small
  push_cast at hp hle hnn
  omega

/-- And their sum's, of all shares. -/
theorem small_aggregate (h : Core w) (hw : w.Narrow) :
    Small w.reflection.aggregate_correction.toInt := by
  have hp := product_le hw h.total_le
  have hle := h.accruedSum_le hw
  have hnn := h.accounting.valid.accruedSum_nonneg
  rw [← h.accounting.aggregate] at hle hnn
  unfold Small
  push_cast at hp hle hnn
  omega

end Core

/-! ## Moving shares -/

namespace Tx

open reflection_token

variable {w w' : World} {a : Address} {n : ℕ}

/-- A position that is there after `ensure_position` is the one there was. -/
theorem position_ensured {r : Arithmetic} {u : Unit} (hc : Commits (ensure_position a) r w u w') :
    (∀ p, w'.reflection.positions.lookup a = some p → p = w.position a)
      ∧ w'.reflection.index = w.reflection.index
      ∧ w'.reflection.aggregate_correction = w.reflection.aggregate_correction
      ∧ w'.reflection.total_shares = w.reflection.total_shares := by
  obtain rfl := (commits_ensure_position _).mp hc
  split
  · refine ⟨fun p hp => ?_, rfl, rfl, rfl⟩
    simp [World.position, hp]
  · next ha =>
      refine ⟨fun p hp => ?_, rfl, rfl, rfl⟩
      simp only [World.logged, Finmap.lookup_insert, Option.some.injEq] at hp
      simp [World.position, Finmap.lookup_eq_none.mpr ha, ← hp]

/-- Shares are added within the widths if the corrections they leave are small. -/
theorem fits_add_raw_shares (hd : n * w.reflection.index < 2 ^ 256)
    (hp : Small ((w.position a).correction.toInt - n * w.reflection.index))
    (ha : Small (w.reflection.aggregate_correction.toInt - n * w.reflection.index))
    (ht : w.reflection.total_shares + n < 2 ^ 128) : Fits (add_raw_shares a n) w := by
  unfold add_raw_shares
  refine avoids_ite (fun _ => spares) fun _ => ?_
  refine .call spares fun _ w₁ h₁ => ?_
  obtain ⟨hlook, hi, hagg, htot⟩ := position_ensured h₁
  rw [← hi] at hd hp ha
  rw [← hagg] at ha
  rw [← htot] at ht
  rw [← Nat.cast_mul] at hp ha
  refine .read (.checked hd (.call spares fun p _ h₂ => ?_))
  obtain ⟨hp', rfl⟩ := (commits_borrow_position p).mp h₂
  rw [← hlook p hp'] at hp
  refine .call (fits_subtract_unsigned hp) fun _ _ h₃ => ?_
  obtain ⟨-, rfl⟩ := (commits_subtract_unsigned _).mp h₃
  refine .write (.call (fits_subtract_unsigned ha) fun _ _ h₄ => ?_)
  obtain ⟨-, rfl⟩ := (commits_subtract_unsigned _).mp h₄
  exact .checked ht spares

theorem fits_remove_raw_shares (hd : n * w.reflection.index < 2 ^ 256)
    (hp : Small ((w.position a).correction.toInt + n * w.reflection.index))
    (ha : Small (w.reflection.aggregate_correction.toInt + n * w.reflection.index))
    (ht : n ≤ w.reflection.total_shares) : Fits (remove_raw_shares a n) w := by
  unfold remove_raw_shares
  refine avoids_ite (fun _ => spares) fun _ => ?_
  refine .call spares fun _ w₁ h₁ => ?_
  obtain ⟨hlook, hi, hagg, htot⟩ := position_ensured h₁
  rw [← hi] at hd hp ha
  rw [← hagg] at ha
  rw [← htot] at ht
  rw [← Nat.cast_mul] at hp ha
  refine .read (.checked hd (.call spares fun p _ h₂ => ?_))
  obtain ⟨hp', rfl⟩ := (commits_borrow_position p).mp h₂
  rw [← hlook p hp'] at hp
  refine .call (fits_add_unsigned hp) fun _ _ h₃ => ?_
  obtain ⟨-, rfl⟩ := (commits_add_unsigned _).mp h₃
  refine .write (.call (fits_add_unsigned ha) fun _ _ h₄ => ?_)
  obtain ⟨-, rfl⟩ := (commits_add_unsigned _).mp h₄
  exact .sub ht spares

/-- The same four conditions for the custody's shares, added and removed. -/
theorem fits_add_custody_shares (hd : n * w.reflection.index < 2 ^ 256)
    (hp : Small (w.custody.pool_position.correction.toInt - n * w.reflection.index))
    (ha : Small (w.reflection.aggregate_correction.toInt - n * w.reflection.index))
    (hc : w.custody.custody_shares + n < 2 ^ 128)
    (ht : w.reflection.total_shares + n < 2 ^ 128) : Fits (add_custody_shares n) w := by
  rw [← Nat.cast_mul] at hp ha
  unfold add_custody_shares
  refine avoids_ite (fun _ => spares) fun _ => .read (.read (.checked hd ?_))
  refine .call (fits_subtract_unsigned hp) fun _ _ h₁ => ?_
  obtain ⟨-, rfl⟩ := (commits_subtract_unsigned _).mp h₁
  refine .call (fits_subtract_unsigned ha) fun _ _ h₂ => ?_
  obtain ⟨-, rfl⟩ := (commits_subtract_unsigned _).mp h₂
  exact .checked hc (.checked ht spares)

theorem fits_remove_custody_shares (hd : n * w.reflection.index < 2 ^ 256)
    (hp : Small (w.custody.pool_position.correction.toInt + n * w.reflection.index))
    (ha : Small (w.reflection.aggregate_correction.toInt + n * w.reflection.index))
    (ht : n ≤ w.reflection.total_shares) : Fits (remove_custody_shares n) w := by
  rw [← Nat.cast_mul] at hp ha
  unfold remove_custody_shares E_CUSTODY_SHARE_MISMATCH
  refine avoids_ite (fun _ => spares) fun _ => .read (.read (.guard fun hn => .checked hd ?_))
  refine .call (fits_add_unsigned hp) fun _ _ h₁ => ?_
  obtain ⟨-, rfl⟩ := (commits_add_unsigned _).mp h₁
  refine .call (fits_add_unsigned ha) fun _ _ h₂ => ?_
  obtain ⟨-, rfl⟩ := (commits_add_unsigned _).mp h₂
  exact .sub hn (.sub ht spares)

/-! The invariant of the state that a move leaves is what makes it fit. -/

/-- A credit is within the widths where the ledger after it is a ledger again. -/
theorem fits_walletCredited (h : Core (w.walletCredited a n)) (hw : w.Narrow) :
    Fits (add_raw_shares a n) (w.credit .trfl (.primary .trfl a) n) := by
  have hw' : (w.walletCredited a n).Narrow := ⟨hw.index, hw.fees, hw.remainder⟩
  have hs := TOTAL_SUPPLY_lt
  have ht : w.reflection.total_shares + n ≤ TOTAL_SUPPLY := h.total_le
  have hp := h.small_position hw' a
  have ha := h.small_aggregate hw'
  rw [World.position_walletCredited, if_pos rfl, SignedU256.toInt_ofInt] at hp
  refine fits_add_raw_shares ?_ hp ?_ ?_
  · exact (Core.product_le hw ((Nat.le_add_left n _).trans ht)).trans_lt (by norm_num)
  · exact small_ofInt ha
  · show w.reflection.total_shares + n < 2 ^ 128
    omega

/-- A debit, by the ledger before it and the one after it. -/
theorem fits_walletDebited {v : World} (h₀ : Core w) (h : Core (w.walletDebited a n))
    (hw : w.Narrow) (hn : n ≤ w.reflection.total_shares) (hv : v.reflection = w.reflection) :
    Fits (remove_raw_shares a n) v := by
  have hw' : (w.walletDebited a n).Narrow := ⟨hw.index, hw.fees, hw.remainder⟩
  have hp := h.small_position hw' a
  have ha := h.small_aggregate hw'
  rw [World.position_walletDebited, if_pos rfl, SignedU256.toInt_ofInt, World.position, ← hv] at hp
  refine fits_remove_raw_shares ?_ hp ?_ ?_
  · rw [hv]
    exact (Core.product_le hw (hn.trans h₀.total_le)).trans_lt (by norm_num)
  · rw [hv]
    exact small_ofInt ha
  · rwa [hv]

/-- The pool's reserve, credited. -/
theorem fits_poolCredited (h : Core (w.poolCredited n)) (hw : w.Narrow) :
    Fits (add_custody_shares n) (w.credit .trfl .rfl_reserve n) := by
  have hw' : (w.poolCredited n).Narrow := ⟨hw.index, hw.fees, hw.remainder⟩
  have hs := TOTAL_SUPPLY_lt
  have ht : w.reflection.total_shares + n ≤ TOTAL_SUPPLY := h.total_le
  have hc : w.custody.custody_shares + n ≤ w.reflection.total_shares + n := h.custody_le_total
  have hp := h.small_custody hw'
  have ha := h.small_aggregate hw'
  refine fits_add_custody_shares ?_ ?_ ?_ ?_ ?_
  · exact (Core.product_le hw ((Nat.le_add_left n _).trans ht)).trans_lt (by norm_num)
  · exact small_ofInt hp
  · exact small_ofInt ha
  · show w.custody.custody_shares + n < 2 ^ 128
    omega
  · show w.reflection.total_shares + n < 2 ^ 128
    omega

/-- The pool's reserve, debited. -/
theorem fits_poolDebited (h₀ : Core w) (h : Core (w.poolDebited n)) (hw : w.Narrow)
    (hn : n ≤ w.custody.custody_shares) : Fits (remove_custody_shares n) w := by
  have hw' : (w.poolDebited n).Narrow := ⟨hw.index, hw.fees, hw.remainder⟩
  have ht := hn.trans h₀.custody_le_total
  have hp := h.small_custody hw'
  have ha := h.small_aggregate hw'
  refine fits_remove_custody_shares ?_ ?_ ?_ ht
  · exact (Core.product_le hw (ht.trans h₀.total_le)).trans_lt (by norm_num)
  · exact small_ofInt hp
  · exact small_ofInt ha

/-- What comes out of a vault is credited to a wallet. -/
theorem fits_vaultCredited {s : Address} (hs : s = .distribution_vault ∨ s = .lp_reward_vault)
    (h : Core w) (hw : w.Narrow) (ha : a ∈ w.wallets) (hn : n ≤ w.balance s) :
    Fits (add_raw_shares a n)
      ((w.debit .trfl s n).credit .trfl (.primary .trfl a) n) := by
  have hdebited := h.debit hs hn
  refine fits_walletCredited (hdebited.walletCredited ha ?_) ⟨hw.index, hw.fees, hw.remainder⟩
  simp

/-! ## Reading the accounting -/

/-- What a wallet can claim is computed in 256 bits and narrowed to what the vault holds. -/
theorem fits_claimable_for_store (h : Core w) (hw : w.Narrow) :
    Fits (claimable_for_store a (.primary .trfl a)) w := by
  have hle := h.accrued_le hw (some a)
  have hlt := h.pending_lt (some a)
  unfold claimable_for_store
  refine .read (avoids_ite (fun _ => spares) fun _ => .read (.call spares fun p w h₁ => ?_))
  obtain ⟨hp, rfl⟩ := (commits_borrow_position p).mp h₁
  have hpos : w.position a = p := by simp [World.position, hp]
  rw [World.coreLedger_accrued_some, hpos] at hle
  refine .checked ((Core.product_le hw (h.raw_le a)).trans_lt (by norm_num)) ?_
  refine .call (fits_apply (by push_cast; exact hle.trans_lt (by norm_num))) fun m w h₂ => ?_
  obtain ⟨hm, rfl⟩ := (commits_apply _).mp h₂
  refine .call spares fun x w h₃ => ?_
  obtain ⟨-, rfl, rfl⟩ := (commits_checked_subtract _ _).mp h₃
  -- What is narrowed is the pending reward of the ledger.
  have hacc : w.coreLedger.accrued (some a) = m := by
    rw [World.coreLedger_accrued_some, hpos, hm]
    push_cast
    rfl
  have hpend : w.pending (some a) = m / MAGNITUDE - p.claimed := by
    rw [World.pending, Dividend.Ledger.pending, hacc, World.coreLedger_claimed_some, hpos,
      ← Int.natCast_ediv, Int.toNat_natCast]
  rw [← hpend]
  exact fits_narrow hlt

/-- What the reserve has earned, in the same widths. -/
theorem fits_custody_pending_for_store (h : Core w) (hw : w.Narrow) :
    Fits (custody_pending_for_store .rfl_reserve) w := by
  have hle := h.accrued_le hw none
  have hlt := h.pending_lt none
  rw [World.coreLedger_accrued_none] at hle
  unfold custody_pending_for_store E_CUSTODY_SHARE_MISMATCH
  refine .read (.read (avoids_ite (fun _ => spares) fun _ => .read (.guard fun _ => ?_)))
  refine .checked ((Core.product_le hw (h.custody_le_total.trans h.total_le)).trans_lt
    (by norm_num)) ?_
  refine .call (fits_apply (by push_cast; exact hle.trans_lt (by norm_num))) fun m w h₂ => ?_
  obtain ⟨hm, rfl⟩ := (commits_apply _).mp h₂
  refine .call spares fun x w h₃ => ?_
  obtain ⟨-, rfl, rfl⟩ := (commits_checked_subtract _ _).mp h₃
  have hacc : w.coreLedger.accrued none = m := by
    rw [World.coreLedger_accrued_none, hm]
    push_cast
    rfl
  have hpend : w.pending none = m / MAGNITUDE - w.custody.pool_position.claimed := by
    rw [World.pending, Dividend.Ledger.pending, hacc, World.coreLedger_claimed_none,
      ← Int.natCast_ediv, Int.toNat_natCast]
  rw [← hpend]
  exact fits_narrow hlt

/-- The sums of the ledger are all that the liability is computed from. -/
theorem fits_aggregate_liability (h : Accounting w) (hw : w.Narrow)
    (ht : w.reflection.total_shares ≤ TOTAL_SUPPLY) : Fits aggregate_liability w := by
  have hle := h.valid.accruedSum_le.trans (Core.received_le hw)
  have hs := h.settled
  have hv := h.vault
  have hf := hw.fees
  rw [← h.aggregate] at hle
  unfold aggregate_liability
  refine .read (.read (.checked ((Core.product_le hw ht).trans_lt (by norm_num)) ?_))
  refine .call (fits_apply (by push_cast; exact hle.trans_lt (by norm_num))) fun m w h₁ => ?_
  obtain ⟨-, rfl⟩ := (commits_apply _).mp h₁
  exact .checked (by omega) spares

/-- The rounding reserve is what the vault holds beyond the liabilities. -/
theorem fits_recompute_rounding_reserve (h : Accounting w) (hw : w.Narrow)
    (ht : w.reflection.total_shares ≤ TOTAL_SUPPLY)
    (hv : w.balance .reward_vault ≤ TOTAL_SUPPLY) : Fits recompute_rounding_reserve w := by
  have hp := h.partition
  have hs := TOTAL_SUPPLY_lt
  unfold recompute_rounding_reserve E_CUSTODY_SHARE_MISMATCH
  refine .read (.call (fits_aggregate_liability h hw ht) fun l w h₁ => ?_)
  obtain ⟨hl, rfl⟩ := (commits_aggregate_liability h l).mp h₁
  rw [← hl] at hp
  exact .read (.checked (by omega) (.guard fun _ => .narrow (by omega) spares))

/-- The check of the vault sums what it has to hold. -/
theorem fits_assert_accounting_backing (h : Core w) (hw : w.Narrow) :
    Fits assert_accounting_backing w := by
  have hp := h.accounting.partition
  have hv := h.vault_le
  have hs := TOTAL_SUPPLY_lt
  have hc := h.claimedSum_le
  have hf := hw.fees
  have hse := h.accounting.settled
  have hr := h.rounding
  unfold assert_accounting_backing E_CUSTODY_SHARE_MISMATCH
  refine .read (.read (.read ?_))
  refine .call (fits_aggregate_liability h.accounting hw h.total_le) fun l w h₁ => ?_
  obtain ⟨hl, rfl⟩ := (commits_aggregate_liability h.accounting l).mp h₁
  rw [← hl] at hp
  refine .checked (by omega) (.checked (by omega) (.guard fun _ => .checked (by omega) ?_))
  exact spares

/-! ## Materialization -/

/-- A payment of a reward: the entitlement, the counters and the weight it adds. -/
theorem fits_materialize_to_store (h : Core w) (hw : w.Narrow) (explicit_claim : Bool)
    (trigger : Trigger) :
    Fits (materialize_to_store a (.primary .trfl a) n explicit_claim trigger) w := by
  unfold materialize_to_store E_CLAIM_EXCEEDS_PENDING
  refine .call (fits_claimable_for_store h hw) fun x w h₁ => ?_
  obtain ⟨rfl, rfl⟩ := (commits_claimable_for_store h x).mp h₁
  refine .guard fun hn => ?_
  have ha : a ∈ w.reflection.positions := by
    by_contra hne
    rw [h.membership.pending_of_notMem hne] at hn
    omega
  -- The state that paying and crediting the wallet leaves bounds all that is computed.
  have hpaid := h.walletPaid ha hn.2
  have hcredited := hpaid.walletCredited (a := a) (n := n) (h.membership.position_wallet a ha)
    (by simp [World.walletPaid])
  have hw₁ : (w.walletPaid a n).Narrow := ⟨hw.index, hw.fees, hw.remainder⟩
  have hw₂ : ((w.walletPaid a n).walletCredited a n).Narrow := ⟨hw.index, hw.fees, hw.remainder⟩
  have hs := TOTAL_SUPPLY_lt
  have ht : w.reflection.total_shares + n ≤ TOTAL_SUPPLY := hcredited.total_le
  have hp := hcredited.small_position hw₂ a
  have hagg := hcredited.small_aggregate hw₂
  have hclaimed := hpaid.claimed_le hw₁ (some a)
  have hlifetime := hpaid.claimedSum_le
  have hsettled := hpaid.accounting.settled
  rw [World.position_walletCredited, if_pos rfl, World.position_walletPaid, if_pos rfl,
    SignedU256.toInt_ofInt] at hp
  rw [World.coreLedger_claimed_some, World.position_walletPaid, if_pos rfl] at hclaimed
  change w.reflection.lifetime_materialized + n + w.custody.lifetime_custody_routed = _ at hsettled
  change _ ≤ w.reflection.lifetime_fees at hlifetime
  have hf := hw.fees
  have hd : n * w.reflection.index < 2 ^ 256 :=
    (Core.product_le hw ((Nat.le_add_left n _).trans ht)).trans_lt (by norm_num)
  refine .read (.checked hd (.call spares fun p w h₂ => ?_))
  obtain ⟨hlook, rfl⟩ := (commits_borrow_position p).mp h₂
  have hpos : w.position a = p := by simp [World.position, hlook]
  rw [hpos] at hp hclaimed
  refine .checked (hclaimed.trans_lt (by norm_num)) ?_
  refine .call (fits_subtract_unsigned ?_) fun _ w h₃ => ?_
  · push_cast
    exact hp
  obtain ⟨-, rfl⟩ := (commits_subtract_unsigned _).mp h₃
  refine .write (.call (fits_subtract_unsigned ?_) fun _ w' h₄ => ?_)
  · push_cast
    exact small_ofInt hagg
  obtain ⟨-, rfl⟩ := (commits_subtract_unsigned _).mp h₄
  exact .checked (by omega) (.checked (by omega) (.write spares))

/-- All that is pending is as good as any part of it. -/
theorem fits_materialize_all_to_store (h : Core w) (hw : w.Narrow) (explicit_claim : Bool)
    (trigger : Trigger) :
    Fits (materialize_all_to_store a (.primary .trfl a) explicit_claim trigger) w := by
  unfold materialize_all_to_store
  refine .read (avoids_ite (fun _ => spares) fun _ => ?_)
  refine .call (fits_claimable_for_store h hw) fun x w h₁ => ?_
  obtain ⟨-, rfl⟩ := (commits_claimable_for_store h x).mp h₁
  exact avoids_ite (fun _ => spares) fun _ => fits_materialize_to_store h hw explicit_claim trigger

/-! ## Fees -/

/-- A fee is a part of what it is taken from. -/
theorem fee_le (n : ℕ) {bps : ℕ} (h : bps ≤ MAX_FEE_BPS) : n * bps / BPS_DENOMINATOR ≤ n := by
  refine Nat.div_le_of_le_mul ?_
  rw [mul_comm BPS_DENOMINATOR]
  exact Nat.mul_le_mul_left n (h.trans (by decide))

/-- A fee is computed of a product in 128 bits. -/
theorem fits_fee_for (hn : n < 2 ^ 64) (hf : w.reflection.fee_bps ≤ MAX_FEE_BPS) :
    Fits (fee_for n) w := by
  have hle : n * w.reflection.fee_bps ≤ n * MAX_FEE_BPS := Nat.mul_le_mul_left n hf
  have hdiv := fee_le n hf
  unfold MAX_FEE_BPS at hle
  unfold fee_for
  exact .read (.checked (by omega) (fits_narrow (by omega)))

/-- A fee that is collected is counted, whether the index moves or not. -/
theorem lifetime_fees_collected (gross kind : ℕ) :
    (w.collected a n gross kind).reflection.lifetime_fees = w.reflection.lifetime_fees + n := by
  unfold World.collected
  split <;> rfl

/-- A fee is indexed within the widths if the index it leads to is narrow. -/
theorem fits_advance_index (h : Core w) (hn : n ≤ w.in_flight .trfl) (hw : w.Narrow)
    {gross kind : ℕ} (hw' : (w.collected a n gross kind).Narrow) :
    Fits (advance_index a gross n kind) (w.credit .trfl .reward_vault n) := by
  have hcore := (h.step_collected (a := a) hn gross kind).core
  have hf := hw'.fees
  have hi := hw'.index
  rw [lifetime_fees_collected] at hf
  have hs := TOTAL_SUPPLY_lt
  have hM := MAGNITUDE_le
  have hr := hw.remainder
  have hflight : n ≤ TOTAL_SUPPLY := by
    have := h.supply.supply
    omega
  have hscaled : n * MAGNITUDE ≤ 2 ^ 50 * 2 ^ 80 := Nat.mul_le_mul (by omega) hM
  unfold advance_index
  refine .read (.checked ?_ (.write (.call spares fun _ w₁ h₁ => ?_)))
  · show w.reflection.lifetime_fees + n < 2 ^ 256
    omega
  obtain rfl := (commits_emit _ _).mp h₁
  refine avoids_ite (fun ht => ?_) fun ht => ?_
  · have ht' : w.reflection.total_shares = 0 := ht
    have hset := (h.setAside ht' hn).logged
      (.ReflectionFeeCollected a gross n w.reflection.fee_bps kind)
    have hp := hset.accounting.partition
    have hl := hset.accounting.liability_nonneg
    have hvault := hset.vault_le
    change (_ : ℤ) = _ + ((w.reflection.unallocated_fees + n : ℕ) : ℤ) + _ at hp
    refine .checked ?_ (.write ?_)
    · show w.reflection.unallocated_fees + n < 2 ^ 128
      omega
    refine fits_recompute_rounding_reserve hset.accounting ⟨hw.index, hf, hw.remainder⟩ ?_ hvault
    exact hset.total_le
  · have ht' : w.reflection.total_shares ≠ 0 := ht
    obtain ⟨i, hi₀⟩ : ∃ i, i = w.nextIndex n := ⟨_, rfl⟩
    obtain ⟨r, hr₀⟩ : ∃ r, r = w.nextRemainder n := ⟨_, rfl⟩
    have hi' : w.reflection.index
        + (n * MAGNITUDE + w.reflection.index_remainder) / w.reflection.total_shares = i := by
      rw [hi₀, World.nextIndex, mul_comm]
    have hr' : (n * MAGNITUDE + w.reflection.index_remainder) % w.reflection.total_shares
        = r := by
      rw [hr₀, World.nextRemainder, mul_comm]
    have hlog := (h.accounting_indexed ht' hi₀ hr₀ w.custody.rounding_reserve).logged
      (.ReflectionFeeCollected a gross n w.reflection.fee_bps kind)
    have hvault := hcore.vault_le
    have hrem := hw'.remainder
    rw [World.collected, if_neg ht', ← hi₀, ← hr₀] at hi hvault hrem
    refine .checked ?_ (.checked ?_ (.div (Nat.pos_of_ne_zero ht) (.checked ?_
      (.mod (Nat.pos_of_ne_zero ht) (.write ?_)))))
    · show n * MAGNITUDE < 2 ^ 256
      omega
    · show n * MAGNITUDE + w.reflection.index_remainder < 2 ^ 256
      omega
    · change w.reflection.index
        + (n * MAGNITUDE + w.reflection.index_remainder) / w.reflection.total_shares < 2 ^ 256
      rw [hi']
      exact hi.trans_lt (by norm_num)
    · change Fits _ (({ w.credit .trfl .reward_vault n with
        reflection := { w.reflection with
          lifetime_fees := w.reflection.lifetime_fees + n
          index := w.reflection.index
            + (n * MAGNITUDE + w.reflection.index_remainder) / w.reflection.total_shares
          index_remainder :=
            (n * MAGNITUDE + w.reflection.index_remainder) % w.reflection.total_shares } } :
              World).logged (.ReflectionFeeCollected a gross n w.reflection.fee_bps kind))
      rw [hi', hr']
      refine (fits_recompute_rounding_reserve hlog ⟨hi, hf, hrem⟩ h.total_le hvault).bind
        fun _ _ _ => spares

/-- A fee fits where the index after it does. -/
theorem fits_take_fee (h : Core w) (hw : w.Narrow) {amount gross fee kind : ℕ}
    (hn : amount ≤ w.in_flight .trfl) (hw' : (w.feeTaken a gross fee kind).Narrow) :
    Fits (take_fee ⟨.trfl, amount⟩ a gross fee kind) w := by
  unfold take_fee
  refine avoids_ite (fun hpos => ?_) fun _ => spares
  rw [World.feeTaken, if_neg hpos.ne'] at hw'
  refine .call spares fun parts w h₁ => ?_
  obtain ⟨hle, rfl, rfl⟩ := (commits_extract _).mp h₁
  refine .call spares fun _ w₁ h₂ => ?_
  obtain ⟨-, rfl⟩ := (commits_deposit_with_ref _).mp h₂
  exact (fits_advance_index h (hle.trans hn) hw hw').bind fun _ _ _ => spares

/-! ## Registration -/

/-- The count of the wallets is a `u64`. -/
theorem fits_ensure_registered_wallet_for_store (h : Core w) {store : Address}
    (hc : (insert a w.wallets).card < 2 ^ 64) :
    Fits (ensure_registered_wallet_for_store a store) w := by
  unfold ensure_registered_wallet_for_store E_UNREGISTERED_WALLET
  refine .read (avoids_ite (fun _ => spares) fun _ => .read (.guard fun _ => ?_))
  unfold ensure_registered_wallet
  refine .read (avoids_ite (fun _ => spares) fun ha => .checked ?_ spares)
  have ha' : a ∉ w.wallets := by rwa [World.wallets, Finmap.mem_keys]
  rw [Finset.card_insert_of_notMem ha', ← h.membership.count] at hc
  exact hc

/-! ## Settlement -/

/-- The seller's side of a swap: its reward, its debit, the fee and the reserve's credit. -/
theorem fits_settle_sell [NamedAddresses] (h : Core w) (hw : w.Narrow)
    (hbps : w.reflection.fee_bps ≤ MAX_FEE_BPS) {cap : SettlementCapability}
    (hw' : Core (w.sellInstant a n) →
      (w.sold a n (n * w.reflection.fee_bps / BPS_DENOMINATOR)).Narrow) :
    Fits (settle_sell cap a .rfl_reserve n) w := by
  unfold settle_sell E_INVALID_CAP reflection_token.E_ZERO_AMOUNT E_INSUFFICIENT_EFFECTIVE_BALANCE
  refine .guard fun _ => .guard fun _ => ?_
  refine .check spares (fun u _ => (commits_assert_live u).mp) fun _ => ?_
  refine .check spares (fun u _ => (commits_assert_pool u).mp) fun _ => ?_
  refine .check spares (fun u _ => (commits_assert_eligible_primary_store u).mp) fun hel => ?_
  have ha : a ∈ w.wallets := (h.membership.is_registered_iff a).mp hel.2
  refine .step (fits_materialize_all_to_store h hw _ _)
    (fun x _ => (commits_materialize_all_to_store h _ _ x).mp) (.read (.guard fun hn => ?_))
  -- The invariant after each step of the sell.
  have h₁ := h.moved_materializedAll (a := a) false .SELL_PRE
  have h₂ := h₁.core.step_walletDebited (n := n) (by simpa using ha) hn
  have hw₁ := hw.moved h₁
  have hw₂ := hw₁.moved (h₂.moved (by simp [Quiet]))
  have hts := hn.trans (h₁.core.raw_le_total (by simpa using ha))
  have hbps' : ((w.materializedAll a false .SELL_PRE).walletDebited a n).reflection.fee_bps
      = w.reflection.fee_bps := (h₁.frame.trans h₂.frame).fee_bps
  have hlt : n < 2 ^ 64 := by
    have := h₁.core.raw_le a
    have := TOTAL_SUPPLY_lt
    have hn' : n ≤ (w.materializedAll a false .SELL_PRE).raw a := hn
    omega
  refine .call spares fun asset w₁ hc₁ => ?_
  obtain ⟨-, rfl, rfl⟩ := commits_withdraw_with_ref.mp hc₁
  refine .call (fits_walletDebited h₁.core h₂.core hw₁ hts rfl) fun _ w₂ hc₂ => ?_
  obtain ⟨-, rfl⟩ := (commits_remove_raw_shares _).mp hc₂
  change Fits _ ((w.materializedAll a false .SELL_PRE).walletDebited a n)
  refine .call (fits_fee_for hlt (hbps'.trans_le hbps)) fun fee w₃ hc₃ => ?_
  obtain ⟨-, hfee, rfl⟩ := (commits_fee_for fee).mp hc₃
  rw [hbps'] at hfee
  have hle : fee ≤ n := hfee.trans_le (fee_le n hbps)
  replace hw' := hw' h₂.core
  rw [← hfee] at hw'
  have h₃ := h₂.core.step_feeTaken (a := a) n fee 1 (by simp; omega)
  have h₄ := h₃.core.moved_materializedAll (a := a) false .SELL_POST
  have h₅ := h₄.core.step_poolCredited (n := n - fee) (by simp; omega)
  have hw₃ : (((w.materializedAll a false .SELL_PRE).walletDebited a n).feeTaken a n fee
      1).Narrow := by
    obtain ⟨hi, hr, -, hf⟩ := (h₄.trans (h₅.moved (by simp [Quiet]))).scalars
    exact ⟨hi ▸ hw'.index, hf ▸ hw'.fees, hr ▸ hw'.remainder⟩
  refine .sub hle ?_
  refine .step (fits_take_fee h₂.core hw₂ (by simp) hw₃)
    (fun x _ => (commits_take_fee h₂.core n fee 1 (by simp) hle).mp) ?_
  refine .step (fits_materialize_all_to_store h₃.core hw₃ _ _)
    (fun x _ => (commits_materialize_all_to_store h₃.core _ _ x).mp) ?_
  refine .call spares fun _ w₄ hc₄ => ?_
  obtain ⟨-, rfl⟩ := (commits_deposit_with_ref _).mp hc₄
  exact (fits_poolCredited h₅.core (hw₃.moved h₄)).bind fun _ _ _ => spares

/-- The buyer's side of a swap, who may have to be registered first. -/
theorem fits_settle_buy [NamedAddresses] (h : Core w) (hw : w.Narrow)
    (hbps : w.reflection.fee_bps ≤ MAX_FEE_BPS) (hcard : (insert a w.wallets).card < 2 ^ 64)
    {cap : SettlementCapability}
    (hw' : Core (w.buyInstant a n) →
      (w.bought a n (n * w.reflection.fee_bps / BPS_DENOMINATOR)).Narrow) :
    Fits (settle_buy cap a .rfl_reserve n) w := by
  unfold settle_buy E_INVALID_CAP reflection_token.E_ZERO_AMOUNT
  refine .guard fun _ => .guard fun _ => ?_
  refine .check spares (fun u _ => (commits_assert_live u).mp) fun _ => ?_
  refine .check spares (fun u _ => (commits_assert_pool u).mp) fun _ => ?_
  refine .effect (fits_ensure_registered_wallet_for_store h hcard)
    (fun u _ => (commits_ensure_registered_wallet_for_store h u).mp) ?_
  refine .call spares fun u w₀ hc₀ => ?_
  obtain ⟨hx, rfl⟩ := (commits_assert_eligible_ensured h u).mp hc₀
  -- A buyer without a wallet has one by now.
  have h₀ := h.moved_ensured hx
  have h₁ := h₀.core.moved_materializedAll (a := a) false .BUY_PRE
  have hw₀ := hw.moved h₀
  have hw₁ := hw₀.moved h₁
  refine .step (fits_materialize_all_to_store h₀.core hw₀ _ _)
    (fun x _ => (commits_materialize_all_to_store h₀.core _ _ x).mp) ?_
  have hremove :
      Fits (remove_custody_shares n) ((w.ensured a).materializedAll a false .BUY_PRE) := by
    by_cases hn : n ≤ ((w.ensured a).materializedAll a false .BUY_PRE).custody.custody_shares
    · exact fits_poolDebited h₁.core (h₁.core.poolDebited hn) hw₁ hn
    · unfold remove_custody_shares E_CUSTODY_SHARE_MISMATCH
      exact avoids_ite (fun _ => spares) fun _ => .read (.read (.guard fun hle => absurd hle hn))
  refine .call hremove fun u w₂ hc₂ => ?_
  obtain ⟨⟨hn, -⟩, rfl⟩ := (commits_remove_custody_shares u).mp hc₂
  have h₂ := h₁.core.step_poolDebited (n := n) hn
  have hw₂ := hw₁.moved (h₂.moved (by simp [Quiet]))
  have hbps' : (((w.ensured a).materializedAll a false .BUY_PRE).poolDebited
      n).reflection.fee_bps = w.reflection.fee_bps :=
    ((h₀.frame.trans h₁.frame).trans h₂.frame).fee_bps
  have hlt : n < 2 ^ 64 := by
    have := hn.trans (h₁.core.custody_le_total.trans h₁.core.total_le)
    have := TOTAL_SUPPLY_lt
    omega
  refine .call spares fun asset w₃ hc₃ => ?_
  obtain ⟨-, rfl, rfl⟩ := commits_withdraw_with_ref.mp hc₃
  change Fits _ (((w.ensured a).materializedAll a false .BUY_PRE).poolDebited n)
  refine .call (fits_fee_for hlt (hbps'.trans_le hbps)) fun fee w₄ hc₄ => ?_
  obtain ⟨-, hfee, rfl⟩ := (commits_fee_for fee).mp hc₄
  rw [hbps'] at hfee
  have hle : fee ≤ n := hfee.trans_le (fee_le n hbps)
  replace hw' := hw' h₂.core
  rw [← hfee] at hw'
  have hwallet : a ∈ ((((w.ensured a).materializedAll a false .BUY_PRE).poolDebited n).feeTaken a n
      fee 2).wallets := by
    rw [World.wallets_feeTaken]
    show a ∈ ((w.ensured a).materializedAll a false .BUY_PRE).wallets
    simpa using w.mem_wallets_ensured a
  have h₃ := h₂.core.step_feeTaken (a := a) n fee 2 (by simp; omega)
  have h₄ := h₃.core.moved_materializedAll (a := a) false .BUY_POST
  have h₅ := h₄.core.step_walletCredited (a := a) (n := n - fee) (by simpa using hwallet)
    (by simp; omega)
  have hw₃ : ((((w.ensured a).materializedAll a false .BUY_PRE).poolDebited n).feeTaken a n fee
      2).Narrow := by
    obtain ⟨hi, hr, -, hf⟩ := (h₄.trans (h₅.moved (by simp [Quiet]))).scalars
    exact ⟨hi ▸ hw'.index, hf ▸ hw'.fees, hr ▸ hw'.remainder⟩
  refine .sub hle (.guard fun _ => ?_)
  refine .step (fits_take_fee h₂.core hw₂ (by simp) hw₃)
    (fun x _ => (commits_take_fee h₂.core n fee 2 (by simp) hle).mp) ?_
  refine .step (fits_materialize_all_to_store h₃.core hw₃ _ _)
    (fun x _ => (commits_materialize_all_to_store h₃.core _ _ x).mp) ?_
  refine .call spares fun _ w₅ hc₅ => ?_
  obtain ⟨-, rfl⟩ := (commits_deposit_with_ref _).mp hc₅
  exact (fits_walletCredited h₅.core (hw₃.moved h₄)).bind fun _ _ _ => spares

/-! ## Custody -/

/-- Liquidity that comes in. -/
theorem fits_move_wallet_to_custody (h : Core w) (hb : Bound w) (hw : w.Narrow) :
    Fits (move_wallet_to_custody custody_registry.deployed_cap a .rfl_reserve n) w := by
  unfold move_wallet_to_custody reflection_token.E_ZERO_AMOUNT E_INSUFFICIENT_EFFECTIVE_BALANCE
  refine .guard fun _ => .check spares (fun u _ => (commits_assert_live u).mp) fun _ => ?_
  refine .check spares (fun u _ => (commits_assert_pool u).mp) fun _ => ?_
  refine .effect spares (fun u _ => (commits_assert_reserve hb u).mp) ?_
  refine .check spares (fun u _ => (commits_assert_registered_wallet u).mp) fun hreg => ?_
  have ha : a ∈ w.wallets := (h.membership.is_registered_iff a).mp hreg
  refine .step (fits_materialize_all_to_store h hw _ _)
    (fun x _ => (commits_materialize_all_to_store h _ _ x).mp) (.read (.guard fun hn => ?_))
  have h₁ := h.moved_materializedAll (a := a) false .LIQUIDITY_IN
  have h₂ := h₁.core.step_walletDebited (n := n) (by simpa using ha) hn
  have h₃ := h₂.core.step_poolCredited (n := n) (by simp)
  have hw₁ := hw.moved h₁
  have hts := hn.trans (h₁.core.raw_le_total (by simpa using ha))
  refine .call spares fun asset w₁ hc₁ => ?_
  obtain ⟨-, rfl, rfl⟩ := commits_withdraw_with_ref.mp hc₁
  refine .call (fits_walletDebited h₁.core h₂.core hw₁ hts rfl) fun _ w₂ hc₂ => ?_
  obtain ⟨-, rfl⟩ := (commits_remove_raw_shares _).mp hc₂
  refine .call spares fun _ w₃ hc₃ => ?_
  obtain ⟨-, rfl⟩ := (commits_deposit_with_ref _).mp hc₃
  exact (fits_poolCredited h₃.core (hw₁.moved (h₂.moved (by simp [Quiet])))).bind
    fun _ _ _ => spares

/-- Liquidity that goes out, to a wallet that may have to be registered. -/
theorem fits_move_custody_to_wallet [NamedAddresses] (h : Core w) (hb : Bound w) (hw : w.Narrow)
    (hcard : (insert a w.wallets).card < 2 ^ 64) (hn : n ≤ w.custody.custody_shares) :
    Fits (move_custody_to_wallet custody_registry.deployed_cap .rfl_reserve a n) w := by
  unfold move_custody_to_wallet reflection_token.E_ZERO_AMOUNT
  refine .guard fun _ => .check spares (fun u _ => (commits_assert_live u).mp) fun _ => ?_
  refine .check spares (fun u _ => (commits_assert_pool u).mp) fun _ => ?_
  refine .effect spares (fun u _ => (commits_assert_reserve hb u).mp) ?_
  refine .effect (fits_ensure_registered_wallet_for_store h hcard)
    (fun u _ => (commits_ensure_registered_wallet_for_store h u).mp) ?_
  refine .call spares fun u w₀ hc₀ => ?_
  obtain ⟨hx, rfl⟩ := (commits_assert_eligible_ensured h u).mp hc₀
  have h₀ := h.moved_ensured hx
  have h₁ := h₀.core.moved_materializedAll (a := a) false .LIQUIDITY_OUT
  have h₂ := h₁.core.step_poolDebited (n := n) (by simpa using hn)
  have hwallet : a ∈ (((w.ensured a).materializedAll a false .LIQUIDITY_OUT).poolDebited
      n).wallets := by
    show a ∈ ((w.ensured a).materializedAll a false .LIQUIDITY_OUT).wallets
    simpa using w.mem_wallets_ensured a
  have h₃ := h₂.core.step_walletCredited (a := a) (n := n) hwallet (by simp)
  have hw₁ := (hw.moved h₀).moved h₁
  refine .step (fits_materialize_all_to_store h₀.core (hw.moved h₀) _ _)
    (fun x _ => (commits_materialize_all_to_store h₀.core _ _ x).mp) ?_
  refine .call (fits_poolDebited h₁.core h₂.core hw₁ (by simpa using hn)) fun u w₁ hc₁ => ?_
  obtain ⟨-, rfl⟩ := (commits_remove_custody_shares u).mp hc₁
  refine .call spares fun asset w₂ hc₂ => ?_
  obtain ⟨-, rfl, rfl⟩ := commits_withdraw_with_ref.mp hc₂
  refine .call spares fun _ w₃ hc₃ => ?_
  obtain ⟨-, rfl⟩ := (commits_deposit_with_ref _).mp hc₃
  exact (fits_walletCredited h₃.core (hw₁.moved (h₂.moved (by simp [Quiet])))).bind
    fun _ _ _ => spares

/-- The reserve's reward on its way to the epoch. -/
theorem fits_route_custody_rewards (h : Core w) (hb : Bound w) (hw : w.Narrow) :
    Fits (route_custody_rewards custody_registry.deployed_cap .rfl_reserve 1 .lp_reward_vault)
      w := by
  have hclaimed := h.claimedSum_le
  have hrouted := h.accounting.routed
  have hsettled := h.accounting.settled
  have hlt := h.pending_lt none
  have hf := hw.fees
  unfold route_custody_rewards
  refine .check spares (fun u _ => (commits_assert_live u).mp) fun _ => ?_
  refine .check spares (fun u _ => (commits_assert_pool u).mp) fun _ => ?_
  refine .effect spares (fun u _ => (commits_assert_active_route hb u).mp) ?_
  refine .effect spares (fun u _ => (commits_assert_custody_matches_raw h.supply u).mp) ?_
  refine .step (fits_custody_pending_for_store h hw)
    (fun x _ => (commits_custody_pending_for_store h hb.registered x).mp) ?_
  refine avoids_ite (fun _ => spares) fun _ => .read (.checked ?_ (.checked ?_ spares))
  · rw [← hrouted]
    omega
  · omega

/-- An epoch's reward on its way to its owner. -/
theorem fits_payout_lp_reward_to [NamedAddresses] (h : Core w) (hb : Bound w) (hw : w.Narrow)
    (hcard : (insert a w.wallets).card < 2 ^ 64) {epoch : ℕ} :
    Fits (payout_lp_reward_to custody_registry.deployed_cap a epoch .lp_reward_vault n) w := by
  unfold payout_lp_reward_to reflection_token.E_ZERO_AMOUNT
  refine .guard fun _ => ?_
  refine .check spares (fun u _ => (commits_assert_token_transferable u).mp) fun _ => ?_
  refine .check spares (fun u _ => (commits_assert_claim_vault hb u).mp) fun _ => ?_
  refine .effect (fits_ensure_registered_wallet_for_store h hcard)
    (fun u _ => (commits_ensure_registered_wallet_for_store h u).mp) ?_
  refine .call spares fun u w₀ hc₀ => ?_
  obtain ⟨hx, rfl⟩ := (commits_assert_eligible_ensured h u).mp hc₀
  have h₀ := h.moved_ensured hx
  have h₁ := h₀.core.moved_materializedAll (a := a) false .LP_PAYOUT
  have hw₁ := (hw.moved h₀).moved h₁
  refine .step (fits_materialize_all_to_store h₀.core (hw.moved h₀) _ _)
    (fun x _ => (commits_materialize_all_to_store h₀.core _ _ x).mp) ?_
  refine .call spares fun asset w₂ hc₂ => ?_
  obtain ⟨⟨-, hn⟩, rfl, rfl⟩ := commits_withdraw_with_ref.mp hc₂
  refine .call spares fun _ w₃ hc₃ => ?_
  obtain ⟨-, rfl⟩ := (commits_deposit_with_ref _).mp hc₃
  exact fits_vaultCredited (.inr rfl) h₁.core hw₁ (by simpa using w.mem_wallets_ensured a) hn

/-- The last check before the pool is closed. -/
theorem fits_close_pool (h : Core w) (hb : Bound w) (hw : w.Narrow) :
    Fits (close_pool custody_registry.deployed_cap) w := by
  unfold close_pool reflection_token.E_POOL_NOT_EMPTY
  refine .check spares (fun u _ => (commits_assert_live u).mp) fun _ => .read ?_
  rw [hb.pool_store]
  refine .effect spares (fun u _ => (commits_assert_reserve hb u).mp) ?_
  refine .read (.read (.guard fun _ => .guard fun _ => ?_))
  exact (fits_custody_pending_for_store h hw).bind fun _ _ _ => spares

/-! ## Wallets -/

/-- A grant of the faucet. -/
theorem fits_faucet_grant [NamedAddresses] (h : Core w) (hw : w.Narrow)
    (hcard : (insert a w.wallets).card < 2 ^ 64) {cap : FaucetCapability} {operator : Address} :
    Fits (faucet_grant cap a n operator) w := by
  unfold faucet_grant E_INVALID_CAP reflection_token.E_ZERO_AMOUNT
  refine .guard fun _ => .guard fun _ => ?_
  refine .check spares (fun u _ => (commits_assert_live u).mp) fun _ => ?_
  refine .effect (fits_ensure_registered_wallet_for_store h hcard)
    (fun u _ => (commits_ensure_registered_wallet_for_store h u).mp) ?_
  refine .call spares fun u w₀ hc₀ => ?_
  obtain ⟨hx, rfl⟩ := (commits_assert_eligible_ensured h u).mp hc₀
  have h₀ := h.moved_ensured hx
  have h₁ := h₀.core.moved_materializedAll (a := a) false .FAUCET
  have hw₁ := (hw.moved h₀).moved h₁
  refine .step (fits_materialize_all_to_store h₀.core (hw.moved h₀) _ _)
    (fun x _ => (commits_materialize_all_to_store h₀.core _ _ x).mp) ?_
  refine .call spares fun _ w₂ hc₂ => ?_
  obtain ⟨⟨-, -, hn⟩, rfl⟩ := (commits_transfer_with_ref _).mp hc₂
  rw [← World.credit_debit _ .trfl]
  exact (fits_vaultCredited (.inl rfl) h₁.core hw₁ (by simpa using w.mem_wallets_ensured a)
    hn).bind fun _ _ _ => spares

/-- The hook of a withdrawal: the reward first, then the debit. -/
theorem fits_withdraw_hook_impl [NamedAddresses] (h : Core w) (hw : w.Narrow) {store : Address} :
    Fits (withdraw_hook_impl store n) w := by
  unfold withdraw_hook_impl E_INSUFFICIENT_EFFECTIVE_BALANCE E_UNSUPPORTED_STORE
  refine .check spares (fun u _ => (commits_assert_token_transferable u).mp) fun _ => ?_
  refine .read (.read (avoids_ite (fun hel => ?_) fun _ => spares))
  obtain ⟨a, ha, rfl⟩ := (is_eligible_iff h store).mp hel
  refine .step (fits_materialize_all_to_store h hw _ _)
    (fun x _ => (commits_materialize_all_to_store h _ _ x).mp) (.read (.guard fun hn => ?_))
  have h₁ := h.moved_materializedAll (a := a) false .TRANSFER_SEND
  have h₂ := h₁.core.step_walletDebited (n := n) (by simpa using ha) hn
  have hts := hn.trans (h₁.core.raw_le_total (by simpa using ha))
  exact (fits_walletDebited h₁.core h₂.core (hw.moved h₁) hts rfl).bind fun _ _ _ => spares

/-- The hook of a deposit, if one more wallet can be counted. -/
theorem fits_deposit_hook_impl [NamedAddresses] (h : Core w) (hw : w.Narrow) {store : Address}
    {asset : FungibleAsset} (hcard : (insert store.owner w.wallets).card < 2 ^ 64) :
    Fits (deposit_hook_impl store asset) w := by
  unfold deposit_hook_impl E_DIRECT_EXCLUDED_STORE_DEPOSIT E_UNSUPPORTED_STORE
  refine .check spares (fun u _ => (commits_assert_token_transferable u).mp) fun _ => ?_
  refine .read (.guard fun hx => ?_)
  refine .call (fits_ensure_registered_wallet_for_store h hcard) fun u w₀ hc₀ => ?_
  refine .read (.guard fun hel => ?_)
  -- Only a primary store goes on.
  obtain ⟨a, rfl⟩ : ∃ a, store = .primary .trfl a := by
    simp only [is_eligible_wallet_store, Bool.and_eq_true, decide_eq_true_eq] at hel
    exact ⟨_, hel.2⟩
  obtain rfl := (commits_ensure_registered_wallet_for_store h u).mp hc₀
  have h₀ := h.moved_ensured hx
  have h₁ := h₀.core.moved_materializedAll (a := a) false .TRANSFER_RECEIVE
  have hw₁ := (hw.moved h₀).moved h₁
  refine .step (fits_materialize_all_to_store h₀.core (hw.moved h₀) _ _)
    (fun x _ => (commits_materialize_all_to_store h₀.core _ _ x).mp) ?_
  refine .call spares fun _ w₂ hc₂ => ?_
  obtain ⟨⟨-, -, hn⟩, rfl⟩ := (commits_deposit_with_ref _).mp hc₂
  have h₂ := h₁.core.step_walletCredited (a := a) (n := asset.amount)
    (by simpa using w.mem_wallets_ensured a) hn
  exact (fits_walletCredited h₂.core hw₁).bind fun _ _ _ => spares

/-- The entries of a wallet: its registration, and the claims. -/
theorem fits_register_wallet (h : Core w) (hcard : (insert a w.wallets).card < 2 ^ 64) :
    Fits (register_wallet a) w := by
  unfold register_wallet E_EXCLUDED_RECIPIENT
  refine .check spares (fun u _ => (commits_assert_token_transferable u).mp) fun _ => ?_
  exact .read (.guard fun _ => fits_ensure_registered_wallet_for_store h hcard)

theorem fits_claim (h : Core w) (hw : w.Narrow) : Fits (claim a n) w := by
  unfold claim reflection_token.E_ZERO_AMOUNT
  refine .guard fun _ => ?_
  refine .check spares (fun u _ => (commits_assert_token_transferable u).mp) fun _ => ?_
  refine .check spares (fun u _ => (commits_assert_registered_wallet u).mp) fun _ => ?_
  exact (fits_materialize_to_store h hw _ _).bind fun _ _ _ => spares

theorem fits_claim_all (h : Core w) (hw : w.Narrow) : Fits (claim_all a) w := by
  unfold claim_all reflection_token.E_ZERO_AMOUNT
  refine .check spares (fun u _ => (commits_assert_token_transferable u).mp) fun _ => ?_
  refine .check spares (fun u _ => (commits_assert_registered_wallet u).mp) fun _ => ?_
  exact (fits_materialize_all_to_store h hw _ _).bind fun _ _ _ => spares

/-! ## Views -/

/-- The view of what the reserve has earned. -/
theorem fits_pool_pending_rewards (h : Core w) (hb : Bound w) (hw : w.Narrow) :
    Fits pool_pending_rewards w := by
  unfold pool_pending_rewards
  refine .read (avoids_ite (fun _ => spares) fun _ => ?_)
  rw [hb.pool_store]
  exact fits_custody_pending_for_store h hw

/-- What a wallet can spend is a part of the supply. -/
theorem fits_derived_balance_hook_impl [NamedAddresses] (h : Core w) (hw : w.Narrow)
    {store : Address} : Fits (derived_balance_hook_impl store) w := by
  unfold derived_balance_hook_impl
  refine .read (.read (.read (avoids_ite (fun _ => spares) fun hel => ?_)))
  obtain ⟨a, -, rfl⟩ := (is_eligible_iff h store).mp (Bool.eq_true_of_not_eq_false hel)
  refine .step (fits_claimable_for_store h hw)
    (fun x _ => (commits_claimable_for_store h x).mp) (fits_checked ?_)
  have hraw := h.raw_le a
  have hpend := (h.accounting.pending_le_vault (some a)).trans h.vault_le
  have hs := TOTAL_SUPPLY_lt
  change w.raw a + w.pending (some a) < 2 ^ 64
  omega

end Tx

end CedraReflect
