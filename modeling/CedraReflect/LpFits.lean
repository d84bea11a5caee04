/-
Widths of the LP epoch's numbers, and the functions of `lp_rewards` that stay in
them.

The denominator of the index may be a single share, so that the index itself is
bounded by what was received and not by a rate. Shares are below `2 ^ 57`, an
index below `2 ^ 195`: their product is what decides that the widths suffice.
-/
import CedraReflect.CoreFits
import CedraReflect.LpSpec

set_option autoImplicit false
set_option linter.constructorNameAsVariable false
set_option synthInstance.maxSize 1000000000000

namespace CedraReflect

open Dividend (Act)
open reflection_math (MAGNITUDE MAGNITUDE_pos)
open reflection_token (TOTAL_SUPPLY)
open lp_rewards (ensure_position)

/-! ## Widths -/

/-- The numbers of the epoch are far from the widths they have. -/
structure LpEpoch.Narrow (e : LpEpoch) : Prop where
  total : e.total_shares ≤ 2 ^ 57
  index : e.index ≤ 2 ^ 195
  remainder : e.index_remainder ≤ 2 ^ 57
  received : e.lifetime_received ≤ 2 ^ 114

namespace LpAccounting

variable {e : LpEpoch} {n : ℕ}

/-- An owner's shares times the index. -/
theorem product_le (hw : e.Narrow) (hn : n ≤ 2 ^ 57) : n * e.index ≤ 2 ^ 252 := by
  calc n * e.index ≤ 2 ^ 57 * 2 ^ 195 := Nat.mul_le_mul hn hw.index
    _ = 2 ^ 252 := by norm_num

/-- All that the epoch received, magnified. -/
theorem received_le (hw : e.Narrow) : (MAGNITUDE : ℤ) * e.ledger.received ≤ 2 ^ 194 := by
  have h : MAGNITUDE * e.lifetime_received ≤ 2 ^ 80 * 2 ^ 114 :=
    Nat.mul_le_mul MAGNITUDE_le hw.received
  exact_mod_cast h

/-- What an owner earned is a part of it, and so is what all earned together. -/
theorem accrued_le (h : LpAccounting e) (hw : e.Narrow) (a : Address) :
    e.ledger.accrued a ≤ 2 ^ 194 :=
  (h.valid.accrued_le a).trans (received_le hw)

theorem accruedSum_le (h : LpAccounting e) (hw : e.Narrow) : e.ledger.accruedSum ≤ 2 ^ 194 :=
  h.valid.accruedSum_le.trans (received_le hw)

/-- What an owner claimed, magnified. -/
theorem claimed_le (h : LpAccounting e) (hw : e.Narrow) (a : Address) :
    ((e.position a).claimed : ℤ) * MAGNITUDE ≤ 2 ^ 194 :=
  (h.valid.covered a).trans (h.accrued_le hw a)

/-- Nothing is paid that was not received. -/
theorem lifetime_claimed_le (h : LpAccounting e) : e.lifetime_claimed ≤ e.lifetime_received := by
  have hp := h.partition
  have hl := h.liability_nonneg
  omega

/-- An owner's correction lies between its shares at the index and what it earned. -/
theorem small_position (h : LpAccounting e) (hw : e.Narrow) (a : Address) :
    Small (e.position a).correction.toInt := by
  have hp := product_le hw ((h.shares_le a).trans hw.total)
  have hle := h.accrued_le hw a
  have hnn := h.valid.accrued_nonneg a
  rw [LpEpoch.ledger_accrued] at hle hnn
  unfold Small
  push_cast at hp hle hnn
  omega

/-- The sum of the corrections, for all shares. -/
theorem small_aggregate (h : LpAccounting e) (hw : e.Narrow) :
    Small e.aggregate_correction.toInt := by
  have hp := product_le hw hw.total
  have hle := h.accruedSum_le hw
  have hnn := h.valid.accruedSum_nonneg
  rw [← h.aggregate] at hle hnn
  unfold Small
  push_cast at hp hle hnn
  omega

end LpAccounting

namespace LpEpoch

variable {e : LpEpoch} {a : Address} {n : ℕ}

theorem Narrow.ensure_position (h : e.Narrow) (a : Address) : (ensure_position e a).Narrow := by
  rw [e.ensure_position_eq a]
  exact ⟨h.total, h.index, h.remainder, h.received⟩

theorem Narrow.burned (h : e.Narrow) : (e.burned a n).Narrow :=
  ⟨(Nat.sub_le _ _).trans h.total, h.index, h.remainder, h.received⟩

end LpEpoch

/-- The LP vault holds the liability, what is not allocated and the reserve. -/
theorem Backed.named {e : LpEpoch} {w : World} {l : ℕ} (h : Books e) (hb : Backed e w)
    (hl : e.ledger.liability MAGNITUDE = l) :
    l + e.unallocated_rewards + e.rounding_reserve = w.balance .lp_reward_vault
      ∧ w.balance .lp_reward_vault < 2 ^ 64 := by
  have hpart := hb.liability_le h.accounting
  have hbound := hb.bound
  have hs := TOTAL_SUPPLY_lt
  have hround := h.rounding
  rw [hl] at hpart
  omega

namespace Tx

open lp_rewards

variable {w w' : World} {r : Arithmetic} {a b : Address} {n active : ℕ} {e : LpEpoch}

/-! ## Reading the accounting -/

/-- What an owner can claim, if its reward is one that a vault can hold. -/
theorem fits_pending_for (h : LpAccounting e) (hw : e.Narrow) (hlt : e.pending a < 2 ^ 64) :
    Fits (pending_for e a) w := by
  have hle := h.accrued_le hw a
  unfold pending_for
  refine avoids_ite (fun _ => spares) fun _ => .call spares fun p w h₁ => ?_
  obtain ⟨hp, rfl⟩ := (commits_lp_borrow_position p).mp h₁
  obtain rfl := position_of_lookup hp
  rw [LpEpoch.ledger_accrued] at hle
  refine .checked ((LpAccounting.product_le hw ((h.shares_le a).trans hw.total)).trans_lt
    (by norm_num)) ?_
  refine .call (fits_apply (by push_cast; exact hle.trans_lt (by norm_num))) fun m w h₂ => ?_
  obtain ⟨hm, rfl⟩ := (commits_apply _).mp h₂
  refine .call spares fun x w h₃ => ?_
  obtain ⟨-, rfl, rfl⟩ := (commits_checked_subtract _ _).mp h₃
  have hacc : e.ledger.accrued a = m := by
    rw [LpEpoch.ledger_accrued, hm]
    push_cast
    rfl
  have hpend : e.pending a = m / MAGNITUDE - (e.position a).claimed := by
    rw [LpEpoch.pending, Dividend.Ledger.pending, hacc, LpEpoch.ledger_claimed,
      ← Int.natCast_ediv, Int.toNat_natCast]
  rw [← hpend]
  exact fits_narrow hlt

/-- What the epoch owes, from the aggregates alone. -/
theorem fits_lp_aggregate_liability (h : LpAccounting e) (hw : e.Narrow) :
    Fits (lp_rewards.aggregate_liability e) w := by
  have hle := h.accruedSum_le hw
  rw [← h.aggregate] at hle
  unfold lp_rewards.aggregate_liability
  refine .checked ((LpAccounting.product_le hw hw.total).trans_lt (by norm_num)) ?_
  exact (fits_apply (by push_cast; exact hle.trans_lt (by norm_num))).bind fun _ _ _ => spares

/-- The rounding reserve is what the vault holds beyond that. -/
theorem fits_recompute_rounding (h : LpAccounting e) (hw : e.Narrow) (hb : Backed e w)
    (hv : e.reward_vault = .lp_reward_vault) : Fits (recompute_rounding e) w := by
  have hp := h.partition
  have hs := TOTAL_SUPPLY_lt
  have hbound := hb.bound
  have hr := hw.received
  unfold recompute_rounding E_VAULT_ACCOUNTING
  refine .read (.call (fits_lp_aggregate_liability h hw) fun l w₁ h₁ => ?_)
  obtain ⟨hl, rfl⟩ := (commits_lp_aggregate_liability h l).mp h₁
  rw [← hl] at hp
  refine .checked (by omega) (.guard fun _ => .narrow ?_ spares)
  rw [hv]
  omega

/-- The fraction of an owner without shares is retired within the widths. -/
theorem fits_normalize_zero_position (h : LpAccounting e) (hw : e.Narrow) (hb : Backed e w)
    (hv : e.reward_vault = .lp_reward_vault) (ha : a ∈ e.positions)
    (hs : (e.position a).shares = 0) : Fits (normalize_zero_position e a) w := by
  have hcl := h.claimed_le hw a
  have hM := MAGNITUDE_le
  unfold normalize_zero_position E_PENDING_AT_POSITION_EXIT E_INVALID_POSITION_RESIDUE
  refine .step (fits_pending_for h hw (hb.pending_lt h a))
    (fun x _ => (commits_pending_for h (hb.pending_lt h a) x).mp) (.guard fun hp => ?_)
  refine .call spares fun p w₁ h₁ => ?_
  obtain ⟨hlook, rfl⟩ := (commits_lp_borrow_position p).mp h₁
  obtain rfl := position_of_lookup hlook
  have hn : (e.position a).claimed * MAGNITUDE ≤ 2 ^ 194 := by exact_mod_cast hcl
  refine .checked (hn.trans_lt (by norm_num)) (.guard fun hle => .checked (by omega) ?_)
  refine .guard fun hub => .sub hle.2 (avoids_ite (fun hpos => ?_) fun _ => spares)
  -- The residue is that of the ledger, which may be retired.
  have hcorr : ((e.position a).correction.magnitude : ℤ) = (e.position a).correction.toInt := by
    unfold SignedU256.toInt
    rw [hle.1]
    rfl
  have hres : (e.position a).correction.magnitude - (e.position a).claimed * MAGNITUDE
      = e.residue a := by
    unfold LpEpoch.residue
    omega
  rw [hres] at hpos ⊢
  have hen : (Act.retire a (e.residue a)).Enabled MAGNITUDE e.ledger := by
    refine ⟨(e.mem_holders a).mpr ha, hs, by omega, ?_⟩
    simp only [LpEpoch.ledger_accrued, LpEpoch.ledger_claimed, hs]
    omega
  have hacc := h.normalized hen e.rounding_reserve
  have hw' : (e.normalized a (e.residue a) e.rounding_reserve).Narrow :=
    ⟨hw.total, hw.index, hw.remainder, hw.received⟩
  have hpos' := hacc.small_position hw' a
  have hagg := hacc.small_aggregate hw'
  have hret : e.retired_residue_magnified + e.residue a ≤ 2 ^ 194 := by
    have hbal := hacc.valid.balance
    have hsum := hacc.valid.accruedSum_nonneg
    have hrec := LpAccounting.received_le hw'
    have hun : (0 : ℤ) ≤ MAGNITUDE
        * (e.normalized a (e.residue a) e.rounding_reserve).ledger.unallocated := by positivity
    have hr : (e.normalized a (e.residue a) e.rounding_reserve).ledger.retired
        = e.retired_residue_magnified + e.residue a := rfl
    rw [hr] at hbal
    omega
  rw [LpEpoch.position_normalized, if_pos rfl, SignedU256.toInt_ofInt] at hpos'
  refine .call (fits_subtract_unsigned hpos') fun _ w₂ h₂ => ?_
  obtain ⟨rfl, rfl⟩ := (commits_subtract_unsigned _).mp h₂
  refine .call (fits_subtract_unsigned (small_ofInt hagg)) fun _ w₃ h₃ => ?_
  obtain ⟨rfl, rfl⟩ := (commits_subtract_unsigned _).mp h₃
  refine .checked (hret.trans_lt (by norm_num)) ?_
  exact (fits_recompute_rounding hacc hw' ⟨hb.vault, hb.bound⟩ hv).bind fun _ _ _ => spares

/-! ## The active epoch -/

/-- A reward fits where the index after it does. -/
theorem fits_receive_routed_reward (h : Books e) (hep : Epoch 1 e w) (ht : e.total_shares ≠ 0)
    (hw : e.Narrow) (hw' : (e.received n).Narrow)
    (hv : w.balance .lp_reward_vault + e.lifetime_claimed = e.lifetime_received + n)
    (hbd : w.balance .lp_reward_vault ≤ TOTAL_SUPPLY) :
    Fits (receive_routed_reward deployed_cap n) w := by
  have hi : e.index + (n * MAGNITUDE + e.index_remainder) / e.total_shares = e.nextIndex n := by
    rw [LpEpoch.nextIndex, mul_comm]
  have hr : (n * MAGNITUDE + e.index_remainder) % e.total_shares = e.nextRemainder n := by
    rw [LpEpoch.nextRemainder, mul_comm]
  have hacc := h.accounting.indexed ht (n := n) rfl rfl e.rounding_reserve
  have hrec : e.lifetime_received + n ≤ 2 ^ 114 := hw'.received
  have hidx : e.nextIndex n ≤ 2 ^ 195 := hw'.index
  have hnext : e.nextRemainder n ≤ 2 ^ 57 := hw'.remainder
  have hrem := hw.remainder
  have hnarrow : (e.indexed n (e.nextIndex n) (e.nextRemainder n) e.rounding_reserve).Narrow :=
    ⟨hw.total, hidx, hnext, hrec⟩
  have hscaled : n * MAGNITUDE ≤ 2 ^ 114 * 2 ^ 80 := Nat.mul_le_mul (by omega) MAGNITUDE_le
  unfold receive_routed_reward lp_rewards.E_ZERO_AMOUNT
  refine .check spares (fun u _ => (commits_assert_cap _ u).mp) fun _ => .guard fun _ => ?_
  refine .call spares fun k w₁ h₁ => ?_
  obtain ⟨-, rfl, rfl⟩ := (commits_active_epoch_id hep k).mp h₁
  refine .call spares fun e' w₂ h₂ => ?_
  obtain ⟨-, rfl, rfl⟩ := (commits_borrow_epoch hep 1 e').mp h₂
  refine .call spares fun u w₃ h₃ => ?_
  obtain ⟨-, -, rfl⟩ := (commits_assert_active_mutation u).mp h₃
  refine .checked (by omega) (avoids_ite (fun hz => absurd hz ht) fun _ => ?_)
  refine .checked (by omega) (.checked (by omega) (.div (Nat.pos_of_ne_zero ht) (.checked ?_ ?_)))
  · rw [hi]
    omega
  refine .mod (Nat.pos_of_ne_zero ht) ?_
  rw [hi, hr]
  exact (fits_recompute_rounding hacc hnarrow ⟨hv, hbd⟩ h.vault).bind fun _ _ _ => spares

/-- Shares are minted up to the bound on their number. -/
theorem fits_mint_active (h : Books e) (hep : Epoch 1 e w) (hw : e.Narrow)
    (ht : e.total_shares + n ≤ 2 ^ 57) : Fits (mint_active deployed_cap a n) w := by
  -- The epoch that the shares are minted in has a position for their owner.
  have hpos := lookup_of_mem (e.mem_ensure_position a)
  have hacc := ((h.accounting.ensure_position a).minted (n := n) (e.mem_ensure_position a))
  have htot : (ensure_position e a).total_shares = e.total_shares := by rw [e.ensure_position_eq a]
  have hwe := hw.ensure_position a
  rw [← htot] at ht
  have hw' : ((ensure_position e a).minted a n).Narrow :=
    ⟨ht, hwe.index, hwe.remainder, hwe.received⟩
  have hp := hacc.small_position hw' a
  have hagg := hacc.small_aggregate hw'
  have hsh : ((ensure_position e a).position a).shares + n
      ≤ (ensure_position e a).total_shares + n := by
    have hle := hacc.shares_le a
    rwa [LpEpoch.position_minted, if_pos rfl] at hle
  rw [LpEpoch.position_minted, if_pos rfl, SignedU256.toInt_ofInt] at hp
  have hd := LpAccounting.product_le hwe ((Nat.le_add_left n _).trans ht)
  unfold mint_active lp_rewards.E_ZERO_AMOUNT
  refine .check spares (fun u _ => (commits_assert_cap _ u).mp) fun _ => .guard fun _ => ?_
  refine .call spares fun k w₁ h₁ => ?_
  obtain ⟨-, rfl, rfl⟩ := (commits_active_epoch_id hep k).mp h₁
  refine .call spares fun e' w₂ h₂ => ?_
  obtain ⟨-, rfl, rfl⟩ := (commits_borrow_epoch hep 1 e').mp h₂
  refine .call spares fun u w₃ h₃ => ?_
  obtain ⟨-, -, rfl⟩ := (commits_assert_active_mutation u).mp h₃
  have hrest : Fits (do
      let delta ← lp_rewards.u256 (n * (ensure_position e' a).index)
      let position ← lp_rewards.borrow_position (ensure_position e' a) a
      let shares ← lp_rewards.u128 (position.shares + n)
      let correction ← reflection_math.subtract_unsigned position.correction delta
      let aggregate_correction ←
        reflection_math.subtract_unsigned (ensure_position e' a).aggregate_correction delta
      let total_shares ← lp_rewards.u128 ((ensure_position e' a).total_shares + n)
      write_epoch 1
        { ensure_position e' a with
          positions := (ensure_position e' a).positions.insert a
            { position with shares, correction }
          aggregate_correction, total_shares }
      emit (.LpSharesChanged 1 a true n shares total_shares)) w₃ := by
    rw [← Nat.cast_mul] at hp
    refine .checked (hd.trans_lt (by norm_num)) (.call spares fun p w₄ h₄ => ?_)
    obtain ⟨hlook, rfl⟩ := (commits_lp_borrow_position p).mp h₄
    rw [hpos, Option.some.injEq] at hlook
    subst hlook
    refine .checked (by omega) (.call (fits_subtract_unsigned hp) fun _ w₅ h₅ => ?_)
    obtain ⟨-, rfl⟩ := (commits_subtract_unsigned _).mp h₅
    refine .call (fits_subtract_unsigned ?_) fun _ w₆ h₆ => ?_
    · rw [Nat.cast_mul]
      exact small_ofInt hagg
    obtain ⟨-, rfl⟩ := (commits_subtract_unsigned _).mp h₆
    exact .checked (by omega) spares
  exact avoids_ite (fun _ => .call spares fun u w₄ h₄ => by
    obtain ⟨-, -, -, rfl⟩ := (commits_assert_active_epoch_healthy_internal u).mp h₄
    exact hrest) fun _ => hrest

/-- An exit, as `burn_active` and `transfer_active` make it before they go on. -/
theorem fits_exit {β : Type} (h : OpenFor a e) (hw : e.Narrow) (hb : Backed e w)
    (ha : a ∈ e.positions) {p : Prop} [Decidable p] (hp : p → (e.position a).shares = 0)
    (f : LpEpoch → Move β) (hf : ∀ e' w, Fits (f e') w) :
    Fits (if p then normalize_zero_position e a >>= f else pure e >>= f) w :=
  avoids_ite
    (fun hz => (fits_normalize_zero_position h.accounting hw hb h.vault ha (hp hz)).bind
      fun e' w' _ => hf e' w')
    fun _ => .call spares fun e' w' _ => hf e' w'

/-- Shares are burned, and an owner's last ones leave a fraction to retire. -/
theorem fits_burn_active (h : Books e) (hep : Epoch 1 e w) (hb : Backed e w) (hw : e.Narrow)
    (hn : n ≤ 2 ^ 57) : Fits (burn_active deployed_cap a n) w := by
  have hpos := lookup_of_mem (e.mem_ensure_position a)
  have hwe := hw.ensure_position a
  have hbooks := (h.step_ensure_position a).books
  have hvault : (ensure_position e a).lifetime_claimed = e.lifetime_claimed
      ∧ (ensure_position e a).lifetime_received = e.lifetime_received := by
    rw [e.ensure_position_eq a]
    exact ⟨rfl, rfl⟩
  unfold burn_active lp_rewards.E_ZERO_AMOUNT E_INSUFFICIENT_SHARES
  refine .check spares (fun u _ => (commits_assert_cap _ u).mp) fun _ => .guard fun _ => ?_
  refine .call spares fun k w₁ h₁ => ?_
  obtain ⟨-, rfl, rfl⟩ := (commits_active_epoch_id hep k).mp h₁
  refine .call spares fun e' w₂ h₂ => ?_
  obtain ⟨-, rfl, rfl⟩ := (commits_borrow_epoch hep 1 e').mp h₂
  refine .check spares
    (fun u _ h₃ => ⟨trivial, ((commits_assert_active_epoch_healthy_internal u).mp h₃).2.2.2⟩)
    fun _ => ?_
  -- The product comes before the guard, so that it has to fit for any amount asked for.
  refine .checked ((LpAccounting.product_le hwe hn).trans_lt (by norm_num)) ?_
  refine .call spares fun p w₄ h₄ => ?_
  obtain ⟨hlook, rfl⟩ := (commits_lp_borrow_position p).mp h₄
  rw [hpos, Option.some.injEq] at hlook
  subst hlook
  refine .guard fun hle => .sub hle ?_
  have ho := hbooks.burned (e'.mem_ensure_position a) hle
  have hw' := hwe.burned (a := a) (n := n)
  have hp := ho.accounting.small_position hw' a
  have hagg := ho.accounting.small_aggregate hw'
  rw [LpEpoch.position_burned, if_pos rfl, SignedU256.toInt_ofInt, ← Nat.cast_mul] at hp
  refine .step (fits_add_unsigned hp) (fun _ _ => (commits_add_unsigned _).mp) ?_
  refine .step (fits_add_unsigned ?_) (fun _ _ => (commits_add_unsigned _).mp) ?_
  · rw [Nat.cast_mul]
    exact small_ofInt hagg
  refine .sub (hle.trans (hbooks.accounting.shares_le a)) ?_
  have hshare : (((ensure_position e' a).burned a n).position a).shares
      = ((ensure_position e' a).position a).shares - n := by
    rw [LpEpoch.position_burned, if_pos rfl]
  have hbk : Backed ((ensure_position e' a).burned a n) w₄ := by
    refine ⟨?_, hb.bound⟩
    show w₄.balance .lp_reward_vault + (ensure_position e' a).lifetime_claimed
      = (ensure_position e' a).lifetime_received
    rw [hvault.1, hvault.2]
    exact hb.vault
  rw [Nat.cast_mul]
  exact fits_exit ho hw' hbk (Finmap.mem_insert.mpr (.inl rfl)) (fun hz => hshare.trans hz)
    (fun epoch => do
      write_epoch 1 epoch
      emit (.LpSharesChanged 1 a false n (((ensure_position e' a).position a).shares - n)
        epoch.total_shares)) fun _ _ => spares

/-- A transfer is a burn and a mint, in one epoch. -/
theorem fits_transfer_active (h : Books e) (hep : Epoch 1 e w) (hb : Backed e w) (hw : e.Narrow)
    (hab : b ≠ a) (hn : n ≤ 2 ^ 57) : Fits (transfer_active deployed_cap a b n) w := by
  have hma := Books.mem_ensure_positions e a b
  have hmb := (ensure_position e a).mem_ensure_position b
  have hbooks := ((h.step_ensure_position a).trans
    ((h.step_ensure_position a).books.step_ensure_position b)).books
  have hwe := (hw.ensure_position a).ensure_position b
  have hvault : (ensure_position (ensure_position e a) b).lifetime_claimed = e.lifetime_claimed
      ∧ (ensure_position (ensure_position e a) b).lifetime_received = e.lifetime_received := by
    rw [(ensure_position e a).ensure_position_eq b, e.ensure_position_eq a]
    exact ⟨rfl, rfl⟩
  unfold transfer_active lp_rewards.E_ZERO_AMOUNT E_INSUFFICIENT_SHARES
  refine .check spares (fun u _ => (commits_assert_cap _ u).mp) fun _ => .guard fun hn0 => ?_
  refine .call spares fun k w₁ h₁ => ?_
  obtain ⟨-, rfl, rfl⟩ := (commits_active_epoch_id hep k).mp h₁
  refine .call spares fun e' w₂ h₂ => ?_
  obtain ⟨-, rfl, rfl⟩ := (commits_borrow_epoch hep 1 e').mp h₂
  refine .check spares
    (fun u _ h₃ => ⟨trivial, ((commits_assert_active_epoch_healthy_internal u).mp h₃).2.2.2⟩)
    fun _ => ?_
  have hv := hb.vault
  rw [← hvault.1, ← hvault.2] at hv
  -- From here on the epoch with both positions is all that matters.
  generalize ensure_position (ensure_position e' a) b = f at *
  have hla := lookup_of_mem hma
  have hlb := lookup_of_mem hmb
  refine .checked ((LpAccounting.product_le hwe hn).trans_lt (by norm_num)) ?_
  refine .call spares fun p w₃ h₃ => ?_
  obtain ⟨hlook, rfl⟩ := (commits_lp_borrow_position p).mp h₃
  rw [hla, Option.some.injEq] at hlook
  subst hlook
  refine .guard fun hle => .sub hle ?_
  -- The same total before and after: the shares are burned and minted again.
  have htot : n ≤ f.total_shares := hle.trans (hbooks.accounting.shares_le a)
  have hmb' : b ∈ (f.burned a n).positions := Finmap.mem_insert.mpr (.inr hmb)
  have hma' : a ∈ ((f.burned a n).minted b n).positions :=
    Finmap.mem_insert.mpr (.inr (Finmap.mem_insert.mpr (.inl rfl)))
  have hburned := hbooks.burned hma hle
  have ho := hburned.minted hmb' hn0
  have hw' : ((f.burned a n).minted b n).Narrow := by
    refine ⟨?_, hwe.index, hwe.remainder, hwe.received⟩
    show f.total_shares - n + n ≤ 2 ^ 57
    rw [Nat.sub_add_cancel htot]
    exact hwe.total
  have hpa := hburned.accounting.small_position hwe.burned a
  have hpb := ho.accounting.small_position hw' b
  have hshare : (((f.burned a n).minted b n).position a).shares = (f.position a).shares - n := by
    rw [LpEpoch.position_minted, if_neg hab.symm, LpEpoch.position_burned, if_pos rfl]
  have hsum : (f.position b).shares + n ≤ 2 ^ 57 := by
    have hsb := (ho.accounting.shares_le b).trans hw'.total
    rwa [LpEpoch.position_minted, if_pos rfl, LpEpoch.position_burned, if_neg hab] at hsb
  have hbk : Backed ((f.burned a n).minted b n) w₃ := ⟨hv, hb.bound⟩
  rw [LpEpoch.position_burned, if_pos rfl, SignedU256.toInt_ofInt, ← Nat.cast_mul] at hpa
  rw [LpEpoch.position_minted, if_pos rfl, LpEpoch.position_burned, if_neg hab,
    SignedU256.toInt_ofInt] at hpb
  have hidx : (f.burned a n).index = f.index := rfl
  rw [hidx, ← Nat.cast_mul] at hpb
  refine .step (fits_add_unsigned hpa) (fun _ _ => (commits_add_unsigned _).mp) ?_
  refine .call spares fun p w₄ h₄ => ?_
  obtain ⟨hlook, rfl⟩ := (commits_lp_borrow_position p).mp h₄
  rw [Finmap.lookup_insert_of_ne _ hab, hlb, Option.some.injEq] at hlook
  subst hlook
  refine .checked (hsum.trans_lt (by norm_num)) ?_
  refine .step (fits_subtract_unsigned hpb) (fun _ _ => (commits_subtract_unsigned _).mp) ?_
  refine .call spares fun p w₅ h₅ => ?_
  obtain ⟨hlook, rfl⟩ := (commits_lp_borrow_position p).mp h₅
  rw [Finmap.lookup_insert_of_ne _ hab.symm, Finmap.lookup_insert, Option.some.injEq] at hlook
  subst hlook
  have heq := LpEpoch.burned_minted (e := f) hab htot
  have hexit := fits_exit (e := (f.burned a n).minted b n) ho hw' hbk hma'
    (p := (f.position a).shares - n = 0) (fun hz => hshare.trans hz)
    (fun epoch => do
      write_epoch 1 epoch
      emit (.LpSharesTransferred 1 a b n)) fun _ _ => spares
  rw [heq] at hexit
  exact hexit

/-! ## Claims, closure and the backing assertion -/

/-- A claim of a part or of all that is pending. -/
theorem fits_prepare_claim {k requested : ℕ} (h : Books e) (hep : Epoch active e w)
    (hb : Backed e w) (hw : e.Narrow) : Fits (prepare_claim deployed_cap k a requested) w := by
  have hlt := hb.pending_lt h.accounting a
  have hcl := h.accounting.claimed_le hw a
  have hlc := h.accounting.lifetime_claimed_le
  have hrec := hw.received
  have hM := MAGNITUDE_pos
  have hn : (e.position a).claimed * MAGNITUDE ≤ 2 ^ 194 := by exact_mod_cast hcl
  have hc : (e.position a).claimed ≤ 2 ^ 194 := (Nat.le_mul_of_pos_right _ hM).trans hn
  unfold prepare_claim E_EPOCH_NOT_CLAIMABLE E_CLAIM_EXCEEDS_PENDING
  refine .check spares (fun u _ => (commits_assert_cap _ u).mp) fun _ => ?_
  refine .call spares fun e' w₁ h₁ => ?_
  obtain ⟨-, rfl, rfl⟩ := (commits_borrow_epoch hep k e').mp h₁
  have hrest : Fits (do
      let pending ← pending_for e' a
      let amount := if requested = 0 then pending else requested
      Tx.require (0 < amount ∧ amount ≤ pending) (.code .lp_rewards 9)
      let position ← lp_rewards.borrow_position e' a
      let claimed ← lp_rewards.u256 (position.claimed + amount)
      let lifetime_claimed ← lp_rewards.u256 (e'.lifetime_claimed + amount)
      write_epoch k
        { e' with
          positions := e'.positions.insert a { position with claimed }
          lifetime_claimed }
      emit (.LpRewardsClaimed k a amount claimed)
      pure amount) w₁ := by
    refine .step (fits_pending_for h.accounting hw hlt)
      (fun x _ => (commits_pending_for h.accounting hlt x).mp) (.guard fun hx => ?_)
    refine .call spares fun p w₂ h₂ => ?_
    obtain ⟨hlook, rfl⟩ := (commits_lp_borrow_position p).mp h₂
    obtain rfl := position_of_lookup hlook
    have hx2 := hx.2
    generalize (if requested = 0 then e'.pending a else requested) = x at hx2 ⊢
    exact .checked (by omega) (.checked (by omega) spares)
  refine .guard fun _ => avoids_ite (fun _ => .check spares
    (fun u _ h₃ => ⟨trivial, ((commits_assert_active_epoch_healthy_internal u).mp h₃).2.2.2⟩)
    fun _ => hrest) fun _ => hrest

/-- The epoch's end. -/
theorem fits_mark_active_claim_only (h : Books e) (hep : Epoch active e w) (hb : Backed e w)
    (hw : e.Narrow) : Fits (mark_active_claim_only deployed_cap) w := by
  have hround := fits_recompute_rounding h.accounting hw hb h.vault
  unfold mark_active_claim_only E_EPOCH_NOT_EMPTY E_EPOCH_TERMINAL_ACCOUNTING
  refine .check spares (fun u _ => (commits_assert_cap _ u).mp) fun _ => ?_
  refine .call spares fun k w₁ h₁ => ?_
  obtain ⟨-, rfl, rfl⟩ := (commits_active_epoch_id hep k).mp h₁
  refine .call spares fun e' w₂ h₂ => ?_
  obtain ⟨-, rfl, rfl⟩ := (commits_borrow_epoch hep k e').mp h₂
  refine .guard fun _ => .call hround fun x w₃ h₃ => ?_
  rw [commits_recompute_rounding h.accounting hb h.vault, ← h.rounding] at h₃
  obtain ⟨rfl, rfl⟩ := h₃
  exact (fits_lp_aggregate_liability h.accounting hw).bind fun _ _ _ => spares

/-- The check of the epoch's vault. -/
theorem fits_assert_epoch_backing {k : ℕ} (h : Books e) (hep : Epoch active e w) (hb : Backed e w)
    (hw : e.Narrow) : Fits (assert_epoch_backing deployed_cap k) w := by
  unfold assert_epoch_backing E_VAULT_ACCOUNTING E_EPOCH_TERMINAL_ACCOUNTING
  refine .check spares (fun u _ => (commits_assert_cap _ u).mp) fun _ => ?_
  refine .call spares fun e' w₁ h₁ => ?_
  obtain ⟨-, rfl, rfl⟩ := (commits_borrow_epoch hep k e').mp h₁
  refine .read (.call (fits_lp_aggregate_liability h.accounting hw) fun l w₂ h₂ => ?_)
  obtain ⟨hl, rfl⟩ := (commits_lp_aggregate_liability h.accounting l).mp h₂
  have hv := hb.named h hl.symm
  refine .checked (by omega) (.checked (by omega) (.guard fun _ => .guard fun _ => ?_))
  exact avoids_ite
    (fun _ => (fits_lp_aggregate_liability h.accounting hw).bind fun _ _ _ => spares)
    fun _ => spares

/-- The view of an owner's reward. -/
theorem fits_lp_pending_rewards {k : ℕ} (h : Books e) (hep : Epoch active e w) (hb : Backed e w)
    (hw : e.Narrow) : Fits (lp_rewards.pending_rewards k a) w := by
  unfold lp_rewards.pending_rewards
  refine .call spares fun e' w₁ h₁ => ?_
  obtain ⟨-, rfl, rfl⟩ := (commits_borrow_epoch hep k e').mp h₁
  exact fits_pending_for h.accounting hw (hb.pending_lt h.accounting a)

end Tx

end CedraReflect
