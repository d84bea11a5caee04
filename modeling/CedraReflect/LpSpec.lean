/-
What the functions of `lp_rewards` do, in the ideal arithmetic.

The registry holds one epoch for ever, [`Epoch`] says which. On the right of
each equivalence stand the guards and the effects of `LpStep`; the vault is read
by `recompute_rounding` and the two backing assertions only, which is where
[`Backed`] comes in.
-/
import CedraReflect.CoreStep
import CedraReflect.LpStep

set_option autoImplicit false
set_option linter.constructorNameAsVariable false

namespace CedraReflect

open Dividend (Ledger Act Valid Run)
open reflection_math (MAGNITUDE MAGNITUDE_pos)
open reflection_token (TOTAL_SUPPLY)
open lp_rewards (ensure_position)

/-! ## The registry -/

namespace World

/-- The registry of the one epoch `e`. -/
def withEpoch (w : World) (active : ℕ) (e : LpEpoch) : World :=
  { w with lp_registry := some ⟨active, Finmap.singleton 1 e⟩ }

end World

namespace World

variable (w : World) (e : LpEpoch) (a b : Address) (n : ℕ)

/-- The residue of an exit is announced, if there is any. -/
def exitLogged : World :=
  if (e.position a).shares = 0 ∧ e.residue a ≠ 0 then
    w.logged (.LpFractionalResidueRetired e.epoch_id a (e.residue a)
      (e.retired_residue_magnified + e.residue a) (e.retiredReserve (e.residue a)))
  else w

/-- `receive_routed_reward`. -/
def lpReceived : World :=
  (w.withEpoch 1 (e.received n)).logged
    (.LpRewardIndexAdvanced 1 e.index (e.received n).index (e.received n).index_remainder n
      e.total_shares (e.received n).rounding_reserve)

/-- `mint_active`. -/
def lpMinted : World :=
  (w.withEpoch 1 ((ensure_position e a).minted a n)).logged
    (.LpSharesChanged 1 a true n ((e.position a).shares + n) (e.total_shares + n))

/-- `burn_active`. -/
def lpWithdrawn : World :=
  ((w.exitLogged ((ensure_position e a).burned a n) a).withEpoch 1 (e.withdrawn a n)).logged
    (.LpSharesChanged 1 a false n ((e.position a).shares - n) (e.total_shares - n))

/-- `transfer_active`. -/
def lpTransferred : World :=
  ((w.exitLogged (((ensure_position (ensure_position e a) b).burned a n).minted b n) a).withEpoch 1
    (e.transferred a b n)).logged (.LpSharesTransferred 1 a b n)

/-- `prepare_claim`. -/
def lpPaid (active : ℕ) : World :=
  (w.withEpoch active (e.paid a n)).logged (.LpRewardsClaimed 1 a n ((e.position a).claimed + n))

/-- `mark_active_claim_only`. -/
def lpClosed : World :=
  ((w.withEpoch 0 e.closed).logged (.LpEpochStatusChanged 1 .ACTIVE .CLAIM_ONLY)).logged
    (.LpEpochTerminalDustClassified 1 e.reward_vault e.rounding_reserve
      e.retired_residue_magnified e.lifetime_received e.lifetime_claimed)

end World

/-- `e` is the epoch, and it is open under the number `active`. -/
def Epoch (active : ℕ) (e : LpEpoch) (w : World) : Prop :=
  w.lp_registry = some ⟨active, Finmap.singleton 1 e⟩

/-- The epoch's vault holds what was received and not claimed. -/
structure Backed (e : LpEpoch) (w : World) : Prop where
  vault : w.balance .lp_reward_vault + e.lifetime_claimed = e.lifetime_received
  bound : w.balance .lp_reward_vault ≤ TOTAL_SUPPLY

/-- The capability of the pool. -/
def lp_rewards.deployed_cap : LpAccountingCapability := ⟨1⟩

theorem Epoch.frame {active : ℕ} {e : LpEpoch} {w w' : World} (h : Epoch active e w)
    (hf : Frame w w') : Epoch active e w' := hf.lp_registry.trans h

theorem Epoch.exitLogged {active : ℕ} {e f : LpEpoch} {w : World} {a : Address}
    (h : Epoch active e w) : Epoch active e (w.exitLogged f a) := by
  unfold World.exitLogged
  split
  · exact h
  · exact h

namespace Backed

variable {e : LpEpoch} {w : World}

theorem liability_le (hb : Backed e w) (h : LpAccounting e) :
    e.ledger.liability MAGNITUDE + e.unallocated_rewards + e.ledger.reserve MAGNITUDE
      = w.balance .lp_reward_vault := by
  have hp := h.partition
  have hv := hb.vault
  omega

/-- No pending reward is too wide for a balance. -/
theorem pending_le (hb : Backed e w) (h : LpAccounting e) (a : Address) :
    e.pending a ≤ w.balance .lp_reward_vault := by
  have hl := hb.liability_le h
  have hp := h.valid.pending_le_liability MAGNITUDE_pos a
  unfold LpEpoch.pending
  omega

theorem pending_lt (hb : Backed e w) (h : LpAccounting e) (a : Address) :
    e.pending a < 2 ^ 64 := by
  have hp := hb.pending_le h a
  have := hb.bound
  unfold TOTAL_SUPPLY at this
  omega

end Backed

namespace Tx

open lp_rewards

variable {w w' : World} {r : Arithmetic} {a b : Address} {n active : ℕ} {e : LpEpoch}

theorem commits_lp_borrow_registry (hw : Epoch active e w) (registry : LpEpochRegistry) :
    Commits lp_rewards.borrow_registry r w registry w' ↔
      registry = ⟨active, Finmap.singleton 1 e⟩ ∧ w' = w := by
  have hw' : w.lp_registry = some ⟨active, Finmap.singleton 1 e⟩ := hw
  simp [lp_rewards.borrow_registry, hw', eq_comm]

/-- There is the one epoch. -/
theorem commits_borrow_epoch (hw : Epoch active e w) (k : ℕ) (e' : LpEpoch) :
    Commits (borrow_epoch k) r w e' w' ↔ k = 1 ∧ e' = e ∧ w' = w := by
  simp only [borrow_epoch, commits_bind, commits_lp_borrow_registry hw, commits_expect, and_assoc,
    exists_and_left, exists_eq_left]
  by_cases hk : k = 1
  · subst hk
    simp [Finmap.lookup_singleton_eq, eq_comm]
  · have : (Finmap.singleton 1 e : Table ℕ LpEpoch).lookup k = none := by
      rw [Finmap.lookup_eq_none, Finmap.mem_singleton]
      exact hk
    simp [hk, this]

theorem commits_write_epoch (hw : Epoch active e w) (e' : LpEpoch) (u : Unit) :
    Commits (write_epoch 1 e') r w u w' ↔ w' = w.withEpoch active e' := by
  simp [write_epoch, commits_lp_borrow_registry hw, World.withEpoch]

theorem commits_active_epoch_id (hw : Epoch active e w) (k : ℕ) :
    Commits active_epoch_id r w k w' ↔ 0 < active ∧ k = active ∧ w' = w := by
  simp only [active_epoch_id, commits_bind, commits_lp_borrow_registry hw, commits_require,
    commits_pure, and_assoc, exists_and_left, exists_eq_left, exists_const]

@[simp] theorem commits_assert_cap (cap : LpAccountingCapability) (u : Unit) :
    Commits (assert_cap cap) r w u w' ↔ cap.nonce = 1 ∧ w' = w := by
  simp [assert_cap]

@[simp] theorem commits_assert_active_mutation (u : Unit) :
    Commits (assert_active_mutation e) r w u w' ↔
      e.status = .ACTIVE ∧ e.quarantined = false ∧ w' = w := by
  simp [assert_active_mutation, and_assoc]

@[simp] theorem commits_assert_active_epoch_healthy_internal (u : Unit) :
    Commits (assert_active_epoch_healthy_internal e) r w u w' ↔
      e.status = .ACTIVE ∧ 0 < e.total_shares ∧ e.quarantined = false ∧ w' = w := by
  simp [assert_active_epoch_healthy_internal, and_assoc]

theorem commits_assert_active_epoch_healthy (hw : Epoch active e w) (u : Unit) :
    Commits (assert_active_epoch_healthy deployed_cap) r w u w' ↔
      active = 1 ∧ e.status = .ACTIVE ∧ 0 < e.total_shares ∧ e.quarantined = false ∧ w' = w := by
  simp only [assert_active_epoch_healthy, commits_bind, commits_assert_cap,
    commits_lp_borrow_registry hw, commits_require, commits_borrow_epoch hw,
    commits_assert_active_epoch_healthy_internal, and_assoc, exists_and_left, exists_eq_left,
    exists_const, deployed_cap, true_and]
  constructor
  · rintro ⟨-, h⟩
    exact h
  · intro h
    exact ⟨by omega, h⟩

@[simp] theorem commits_lp_borrow_position (p : LpPosition) :
    Commits (lp_rewards.borrow_position e a) r w p w' ↔ e.positions.lookup a = some p ∧ w' = w := by
  simp [lp_rewards.borrow_position]

theorem position_of_lookup {p : LpPosition} (h : e.positions.lookup a = some p) :
    e.position a = p := by
  simp [LpEpoch.position, h]

theorem lookup_of_mem (ha : a ∈ e.positions) : e.positions.lookup a = some (e.position a) := by
  obtain ⟨p, hp⟩ := Finmap.mem_iff.mp ha
  rw [hp, position_of_lookup hp]

/-! ## Reading the accounting -/

/-- Every owner's pending reward is defined and is the ledger's. -/
theorem commits_pending_for (h : LpAccounting e) (hlt : e.pending a < 2 ^ 64) (x : ℕ) :
    Commits (pending_for e a) .ideal w x w' ↔ x = e.pending a ∧ w' = w := by
  -- Nothing is pending without a position; with one, the code divides a natural number.
  by_cases ha : a ∈ e.positions
  · have hnn := h.valid.accrued_nonneg a
    have hcl := h.valid.claimed_le MAGNITUDE_pos a
    have hpe := h.valid.pending_eq MAGNITUDE_pos a
    obtain ⟨m, hm⟩ := Int.eq_ofNat_of_zero_le hnn
    have hq : ((m / MAGNITUDE : ℕ) : ℤ) = e.ledger.accrued a / MAGNITUDE := by
      rw [hm]
      exact Int.natCast_ediv _ _
    rw [← hq, LpEpoch.ledger_claimed] at hcl hpe
    rw [LpEpoch.ledger_accrued] at hm
    change (e.pending a : ℤ) = _ at hpe
    suffices hc : Commits (pending_for e a) .ideal w (e.pending a) w from hc.iff x w'
    simp only [pending_for, commits_ite, commits_bind, commits_lp_borrow_position,
      lookup_of_mem ha, Option.some.injEq, commits_checked, commits_apply,
      commits_checked_subtract, commits_narrow, and_assoc, exists_and_left, exists_eq_left,
      exists_eq_left', commits_pure]
    refine .inr ⟨not_not.mpr ha, m, ?_, ?_, ?_, ?_⟩
    · push_cast
      exact hm.symm
    · omega
    · omega
    · exact ⟨by omega, trivial⟩
  · simp [pending_for, ha, h.pending_of_notMem ha]

theorem commits_lp_aggregate_liability (h : LpAccounting e) (x : ℕ) :
    Commits (lp_rewards.aggregate_liability e) .ideal w x w' ↔
      (x : ℤ) = e.ledger.liability MAGNITUDE ∧ w' = w := by
  have hnn := h.liability_nonneg
  have hacc := h.valid.accruedSum_nonneg
  unfold Ledger.liability at hnn ⊢
  rw [← h.settled] at hnn ⊢
  obtain ⟨m, hm⟩ := Int.eq_ofNat_of_zero_le hacc
  have hq : ((m / MAGNITUDE : ℕ) : ℤ) = e.ledger.accruedSum / MAGNITUDE := by
    rw [hm]
    exact Int.natCast_ediv _ _
  rw [← hq] at hnn ⊢
  suffices hc : Commits (lp_rewards.aggregate_liability e) .ideal w
      (m / MAGNITUDE - e.lifetime_claimed) w by
    rw [hc.iff x w']
    refine and_congr_left fun _ => ?_
    omega
  simp only [lp_rewards.aggregate_liability, commits_bind, commits_checked, commits_apply,
    commits_checked_subtract, and_assoc, exists_and_left, exists_eq_left]
  refine ⟨m, ?_, ?_, rfl, trivial⟩
  · push_cast
    rw [h.aggregate, hm]
  · omega

/-- The reserve that is recomputed is the ledger's. -/
theorem commits_recompute_rounding (h : LpAccounting e) (hb : Backed e w)
    (hv : e.reward_vault = .lp_reward_vault) (e' : LpEpoch) :
    Commits (recompute_rounding e) .ideal w e' w' ↔
      e' = { e with rounding_reserve := e.ledger.reserve MAGNITUDE } ∧ w' = w := by
  have hp := hb.liability_le h
  obtain ⟨l, hl⟩ := Int.eq_ofNat_of_zero_le h.liability_nonneg
  rw [hl] at hp
  have hsub : w.balance .lp_reward_vault - (l + e.unallocated_rewards)
      = e.ledger.reserve MAGNITUDE := by omega
  have hlt : e.ledger.reserve MAGNITUDE < 2 ^ 128 := by
    have := hb.bound
    unfold TOTAL_SUPPLY at this
    omega
  simp only [recompute_rounding, hv, commits_bind, commits_balance,
    commits_lp_aggregate_liability h, hl, Int.ofNat_inj, commits_checked, commits_require,
    commits_narrow, commits_pure, and_assoc, exists_and_left, exists_eq_left, exists_const, hsub]
  constructor
  · rintro ⟨-, -, hw⟩
    exact hw
  · intro hw
    exact ⟨by omega, hlt, hw⟩

/-! ## Exits -/

/-- Both checks of `normalize_zero_position` hold of a position that is owed
less than one unit. -/
theorem commits_normalize_zero_position (h : LpAccounting e) (hb : Backed e w)
    (hv : e.reward_vault = .lp_reward_vault) (ha : a ∈ e.positions)
    (hs : (e.position a).shares = 0) (e' : LpEpoch) :
    Commits (normalize_zero_position e a) .ideal w e' w' ↔
      e.pending a = 0 ∧ e' = e.settled a
        ∧ w' = if e.residue a = 0 then w
          else w.logged (.LpFractionalResidueRetired e.epoch_id a (e.residue a)
            (e.retired_residue_magnified + e.residue a) (e.retiredReserve (e.residue a))) := by
  simp only [normalize_zero_position, commits_bind, commits_pending_for h (hb.pending_lt h a),
    commits_require, commits_lp_borrow_position, lookup_of_mem ha, Option.some.injEq, and_assoc,
    exists_and_left, exists_eq_left, exists_eq_left', exists_const]
  refine and_congr_right fun hp => ?_
  -- With no shares the entitlement is the correction, and it exceeds what was claimed by less than
  -- a unit.
  have hcov := h.valid.covered a
  have hpe := h.valid.pending_eq MAGNITUDE_pos a
  have hz : e.ledger.pending MAGNITUDE a = 0 := hp
  rw [hz] at hpe
  simp only [LpEpoch.ledger_accrued, LpEpoch.ledger_claimed, hs, Nat.cast_zero, zero_mul,
    zero_add] at hcov hpe
  have hdm := Int.mul_ediv_add_emod (e.position a).correction.toInt MAGNITUDE
  have hlt := Int.emod_lt_of_pos (e.position a).correction.toInt
    (by exact_mod_cast MAGNITUDE_pos : (0 : ℤ) < MAGNITUDE)
  have hnn : 0 ≤ (e.position a).correction.toInt := le_trans (by positivity) hcov
  obtain ⟨hneg, hmag⟩ := SignedU256.of_nonneg hnn
  have hres : (e.position a).correction.magnitude - (e.position a).claimed * MAGNITUDE
      = e.residue a := by
    unfold LpEpoch.residue
    omega
  have hle : (e.position a).claimed * MAGNITUDE ≤ (e.position a).correction.magnitude := by
    zify
    omega
  have hub : (e.position a).correction.magnitude
      < (e.position a).claimed * MAGNITUDE + MAGNITUDE := by
    zify
    nlinarith
  simp only [hneg, hle, hub, hres, commits_checked, commits_sub, commits_ite, commits_bind,
    commits_subtract_unsigned, commits_pure, commits_emit, and_assoc, exists_and_left,
    exists_eq_left, exists_const, true_and]
  unfold LpEpoch.settled
  -- A residue is retired, an event and all; where there is none, nothing happens.
  by_cases hr : e.residue a = 0
  · simp [hr]
  · have hen : (Act.retire a (e.residue a)).Enabled MAGNITUDE e.ledger := by
      refine ⟨(e.mem_holders a).mpr ha, hs, by omega, ?_⟩
      simp only [LpEpoch.ledger_accrued, LpEpoch.ledger_claimed, hs]
      omega
    have hacc := h.normalized hen e.rounding_reserve
    have hb' : Backed (e.normalized a (e.residue a) e.rounding_reserve) w := ⟨hb.vault, hb.bound⟩
    simp only [hr, Nat.pos_of_ne_zero hr, if_false, true_and, not_true_eq_false, false_and,
      or_false]
    change (∃ x s, Commits (recompute_rounding (e.normalized a (e.residue a) e.rounding_reserve))
      .ideal w x s ∧ _) ↔ _
    simp only [commits_recompute_rounding hacc hb' hv, and_assoc, exists_and_left, exists_eq_left]
    rfl

/-! ## The active epoch -/

theorem commits_receive_routed_reward (h : Books e) (hw : Epoch 1 e w) (hs : e.status = .ACTIVE)
    (ht : e.total_shares ≠ 0)
    (hv : w.balance .lp_reward_vault + e.lifetime_claimed = e.lifetime_received + n)
    (hbd : w.balance .lp_reward_vault ≤ TOTAL_SUPPLY) (u : Unit) :
    Commits (receive_routed_reward deployed_cap n) .ideal w u w' ↔
      0 < n ∧ w' = w.lpReceived e n := by
  have hpos : 0 < e.total_shares := Nat.pos_of_ne_zero ht
  have hi : e.index + (n * MAGNITUDE + e.index_remainder) / e.total_shares = e.nextIndex n := by
    rw [LpEpoch.nextIndex, mul_comm]
  have hr : (n * MAGNITUDE + e.index_remainder) % e.total_shares = e.nextRemainder n := by
    rw [LpEpoch.nextRemainder, mul_comm]
  have hacc := h.accounting.indexed ht (n := n) rfl rfl e.rounding_reserve
  have hb : Backed (e.indexed n (e.nextIndex n) (e.nextRemainder n) e.rounding_reserve) w :=
    ⟨hv, hbd⟩
  simp only [receive_routed_reward, deployed_cap, commits_bind, commits_assert_cap,
    commits_require, commits_active_epoch_id hw, commits_borrow_epoch hw,
    commits_assert_active_mutation, commits_checked, commits_ite, commits_div, commits_mod,
    and_assoc, exists_and_left, exists_eq_left, exists_const, and_iff_right hs,
    and_iff_right h.healthy, ht, hpos, hi, hr, true_and, zero_lt_one, false_and, false_or,
    not_false_eq_true]
  refine and_congr_right fun _ => ?_
  change (∃ x s, Commits (recompute_rounding (e.indexed n (e.nextIndex n) (e.nextRemainder n)
    e.rounding_reserve)) .ideal w x s ∧ _) ↔ _
  simp only [commits_recompute_rounding hacc hb h.vault, and_assoc, exists_and_left,
    exists_eq_left, commits_write_epoch hw, commits_emit, exists_const]
  rfl

theorem commits_mint_active (h : Books e) (hw : Epoch 1 e w) (hs : e.status = .ACTIVE) (u : Unit) :
    Commits (mint_active deployed_cap a n) .ideal w u w' ↔ 0 < n ∧ w' = w.lpMinted e a n := by
  have hpos := lookup_of_mem (e.mem_ensure_position a)
  rw [LpEpoch.position_ensure_position] at hpos
  have heq := e.ensure_position_eq a
  have hidx : (ensure_position e a).index = e.index := by rw [heq]
  have hagg : (ensure_position e a).aggregate_correction = e.aggregate_correction := by rw [heq]
  have htot : (ensure_position e a).total_shares = e.total_shares := by rw [heq]
  simp only [mint_active, deployed_cap, commits_bind, commits_assert_cap, commits_require,
    commits_active_epoch_id hw, commits_borrow_epoch hw, commits_assert_active_mutation,
    commits_ite, commits_assert_active_epoch_healthy_internal, and_assoc, exists_and_left,
    exists_eq_left, exists_const, and_iff_right hs, and_iff_right h.healthy, true_and,
    zero_lt_one]
  refine and_congr_right fun _ => ?_
  have hif : ∀ P : Prop, (0 < e.total_shares ∧ 0 < e.total_shares ∧ P
      ∨ ¬ 0 < e.total_shares ∧ P) ↔ P := by tauto
  rw [hif]
  simp only [commits_checked, commits_lp_borrow_position, hpos, Option.some.injEq,
    commits_subtract_unsigned, commits_write_epoch hw, commits_emit, and_assoc, exists_and_left,
    exists_eq_left, exists_eq_left', exists_const, hidx, hagg, htot, World.lpMinted,
    LpEpoch.minted, LpEpoch.position_ensure_position, World.logged]
  push_cast
  rfl

/-- An exit, as `burn_active` and `transfer_active` make it before they go on. -/
theorem commits_exit {β : Type} (h : OpenFor a e) (hb : Backed e w) (ha : a ∈ e.positions)
    {p : Prop} [Decidable p] (hp : p ↔ (e.position a).shares = 0) (f : LpEpoch → Move β) (x : β) :
    Commits (if p then normalize_zero_position e a >>= f else pure e >>= f) .ideal w x w' ↔
      ((e.position a).shares = 0 → e.pending a = 0)
        ∧ Commits (f (e.exited a)) .ideal (w.exitLogged e a) x w' := by
  unfold LpEpoch.exited World.exitLogged
  by_cases hs : (e.position a).shares = 0
  · simp only [hs, hp.mpr hs, if_true, commits_bind,
      commits_normalize_zero_position h.accounting hb h.vault ha hs, and_assoc, exists_and_left,
      exists_eq_left, forall_const, true_and]
    by_cases hr : e.residue a = 0 <;> simp [hr]
  · simp [hs, hp]

theorem commits_burn_active (h : Books e) (hw : Epoch 1 e w) (hb : Backed e w)
    (hs : e.status = .ACTIVE) (u : Unit) :
    Commits (burn_active deployed_cap a n) .ideal w u w' ↔
      0 < n ∧ 0 < e.total_shares ∧ n ≤ (e.position a).shares
        ∧ (n = (e.position a).shares → e.pending a = 0) ∧ w' = w.lpWithdrawn e a n := by
  -- A position is made for an owner without one, which owns no shares.
  have hpos := lookup_of_mem (e.mem_ensure_position a)
  have heq := e.ensure_position_eq a
  simp only [burn_active, deployed_cap, commits_bind, commits_assert_cap, commits_require,
    commits_active_epoch_id hw, commits_borrow_epoch hw,
    commits_assert_active_epoch_healthy_internal, commits_checked, commits_lp_borrow_position,
    hpos, Option.some.injEq, commits_sub, commits_add_unsigned, and_assoc, exists_and_left,
    exists_eq_left, exists_eq_left', exists_const, and_iff_right hs, and_iff_right h.healthy,
    true_and, zero_lt_one, Nat.cast_mul]
  have hps := e.position_ensure_position a a
  rw [← hps]
  refine and_congr_right fun _ => and_congr_right fun _ => and_congr_right fun hn => ?_
  have hle : n ≤ (ensure_position e a).total_shares :=
    hn.trans ((h.step_ensure_position a).books.accounting.shares_le a)
  have ho := (h.step_ensure_position a).books.burned (e.mem_ensure_position a) hn
  have hpend : ((ensure_position e a).burned a n).pending a = e.pending a := by
    rw [Books.pending_burned (e.mem_ensure_position a) hn, Books.pending_ensure_position]
  have hbk : Backed ((ensure_position e a).burned a n) w := by
    refine ⟨?_, hb.bound⟩
    rw [LpEpoch.burned, heq]
    exact hb.vault
  have hshare : (((ensure_position e a).burned a n).position a).shares
      = ((ensure_position e a).position a).shares - n := by
    rw [LpEpoch.position_burned, if_pos rfl]
  rw [and_iff_right hn, and_iff_right hle]
  refine (commits_exit ho hbk (Finmap.mem_insert.mpr (.inl rfl)) (by rw [hshare]) _ u).trans ?_
  rw [hpend, hshare]
  refine and_congr (imp_congr_left ⟨fun _ => by omega, fun _ => by omega⟩) ?_
  simp only [commits_bind, commits_write_epoch hw.exitLogged, commits_emit, exists_eq_left,
    exists_const]
  have htot : (((ensure_position e a).burned a n).exited a).total_shares = e.total_shares - n := by
    unfold LpEpoch.exited LpEpoch.settled
    have : ((ensure_position e a).burned a n).total_shares = e.total_shares - n := by
      rw [LpEpoch.burned, heq]
    split
    · split
      · exact this
      · exact this
    · exact this
  rw [htot, hps]
  rfl

theorem commits_transfer_active (h : Books e) (hw : Epoch 1 e w) (hb : Backed e w)
    (hs : e.status = .ACTIVE) (hab : b ≠ a) (u : Unit) :
    Commits (transfer_active deployed_cap a b n) .ideal w u w' ↔
      0 < n ∧ 0 < e.total_shares ∧ n ≤ (e.position a).shares
        ∧ (n = (e.position a).shares → e.pending a = 0) ∧ w' = w.lpTransferred e a b n := by
  have hma := Books.mem_ensure_positions e a b
  have hmb := (ensure_position e a).mem_ensure_position b
  have heq : ensure_position (ensure_position e a) b
      = { e with positions := (ensure_position (ensure_position e a) b).positions } := by
    rw [(ensure_position e a).ensure_position_eq b, e.ensure_position_eq a]
  have hf := ((h.step_ensure_position a).trans
    ((h.step_ensure_position a).books.step_ensure_position b)).books
  have hpa : (ensure_position (ensure_position e a) b).position a = e.position a := by simp
  have hpe : (ensure_position (ensure_position e a) b).pending a = e.pending a := by
    rw [Books.pending_ensure_position, Books.pending_ensure_position]
  have hbk : Backed (ensure_position (ensure_position e a) b) w := by
    refine ⟨?_, hb.bound⟩
    rw [heq]
    exact hb.vault
  rw [← hpa, ← hpe]
  unfold World.lpTransferred LpEpoch.transferred
  simp only [transfer_active, deployed_cap, commits_bind, commits_assert_cap, commits_require,
    commits_active_epoch_id hw, commits_borrow_epoch hw,
    commits_assert_active_epoch_healthy_internal, and_assoc, exists_and_left, exists_eq_left,
    exists_const, and_iff_right hs, and_iff_right h.healthy, true_and, zero_lt_one]
  refine and_congr_right fun hn0 => and_congr_right fun _ => ?_
  -- From here on the epoch with both positions is all that matters.
  generalize ensure_position (ensure_position e a) b = f at *
  have hla := lookup_of_mem hma
  have hlb := lookup_of_mem hmb
  simp only [commits_checked, commits_lp_borrow_position, hla, Option.some.injEq, commits_sub,
    commits_add_unsigned, commits_subtract_unsigned, and_assoc, exists_and_left, exists_eq_left,
    exists_eq_left', Nat.cast_mul, Finmap.lookup_insert_of_ne _ hab,
    Finmap.lookup_insert_of_ne _ hab.symm, Finmap.lookup_insert, hlb]
  refine and_congr_right fun hn => ?_
  rw [and_iff_right hn]
  have hle : n ≤ f.total_shares := hn.trans (hf.accounting.shares_le a)
  rw [← LpEpoch.burned_minted hab hle]
  have hmb' : b ∈ (f.burned a n).positions := Finmap.mem_insert.mpr (.inr hmb)
  have hma' : a ∈ ((f.burned a n).minted b n).positions :=
    Finmap.mem_insert.mpr (.inr (Finmap.mem_insert.mpr (.inl rfl)))
  have ho := (hf.burned hma hn).minted hmb' hn0
  have hpend : ((f.burned a n).minted b n).pending a = f.pending a := by
    rw [Books.pending_minted hmb', Books.pending_burned hma hn]
  have hshare : (((f.burned a n).minted b n).position a).shares = (f.position a).shares - n := by
    rw [LpEpoch.position_minted, if_neg hab.symm, LpEpoch.position_burned, if_pos rfl]
  have hbk' : Backed ((f.burned a n).minted b n) w := ⟨hbk.vault, hbk.bound⟩
  refine (commits_exit ho hbk' hma' (by rw [hshare]) _ u).trans ?_
  rw [hpend, hshare]
  refine and_congr (imp_congr_left ⟨fun _ => by omega, fun _ => by omega⟩) ?_
  simp only [commits_bind, commits_write_epoch hw.exitLogged, commits_emit, exists_eq_left,
    exists_const]
  rfl

/-! ## Claims and closure -/

/-- A request of zero is for everything. -/
theorem commits_prepare_claim (h : Books e) (hw : Epoch active e w) (hb : Backed e w)
    {k requested x : ℕ} :
    Commits (prepare_claim deployed_cap k a requested) .ideal w x w' ↔
      k = 1 ∧ (e.status = .ACTIVE ∨ e.status = .CLAIM_ONLY)
        ∧ (e.status = .ACTIVE → 0 < e.total_shares)
        ∧ x = (if requested = 0 then e.pending a else requested)
        ∧ 0 < x ∧ x ≤ e.pending a ∧ w' = w.lpPaid e a x active := by
  simp only [prepare_claim, deployed_cap, commits_bind, commits_assert_cap,
    commits_borrow_epoch hw, commits_require, commits_ite,
    commits_assert_active_epoch_healthy_internal,
    commits_pending_for h.accounting (hb.pending_lt h.accounting a), and_assoc, exists_and_left,
    exists_eq_left, exists_const, and_iff_right h.healthy, true_and]
  refine and_congr_right fun hk => and_congr_right fun hst => ?_
  subst hk
  have hif : ∀ P : Prop, (e.status = .ACTIVE ∧ e.status = .ACTIVE ∧ 0 < e.total_shares ∧ P
      ∨ ¬ (e.status = .ACTIVE ∧ e.quarantined = false) ∧ P)
      ↔ (e.status = .ACTIVE → 0 < e.total_shares) ∧ P := by
    intro P
    have := h.healthy
    tauto
  rw [hif]
  refine and_congr_right fun _ => ?_
  obtain ⟨y, hy⟩ : ∃ y, y = if requested = 0 then e.pending a else requested := ⟨_, rfl⟩
  rw [← hy]
  -- An owner without a position has nothing pending, so that no amount is accepted.
  by_cases ha : a ∈ e.positions
  · simp only [commits_lp_borrow_position, lookup_of_mem ha, Option.some.injEq, commits_checked,
      commits_write_epoch hw, commits_emit, commits_pure, and_assoc, exists_and_left,
      exists_eq_left, exists_eq_left', exists_const]
    constructor
    · rintro ⟨h0, hle, rfl, hw'⟩
      exact ⟨rfl, h0, hle, hw'⟩
    · rintro ⟨rfl, h0, hle, hw'⟩
      exact ⟨h0, hle, rfl, hw'⟩
  · have hz := h.accounting.pending_of_notMem ha
    constructor
    · rintro ⟨h0, hle, -⟩
      omega
    · rintro ⟨rfl, h0, hle, -⟩
      omega

theorem commits_mark_active_claim_only (h : Books e) (hw : Epoch 1 e w) (hb : Backed e w)
    (u : Unit) :
    Commits (mark_active_claim_only deployed_cap) .ideal w u w' ↔
      e.status = .ACTIVE ∧ e.total_shares = 0 ∧ w' = w.lpClosed e := by
  simp only [mark_active_claim_only, deployed_cap, commits_bind, commits_assert_cap,
    commits_require, commits_active_epoch_id hw, commits_borrow_epoch hw, and_assoc,
    exists_and_left, exists_eq_left, exists_const, true_and, zero_lt_one]
  refine and_congr_right fun hs => and_congr_right fun ht => ?_
  -- Without shares nobody is owed a unit, and the vault holds the rounding reserve alone.
  have hl := h.liability_eq_zero ht
  have hpart := hb.liability_le h.accounting
  have hv := hb.vault
  have hun := h.unallocated
  have hround (e' : LpEpoch) (w' : World) :
      Commits (recompute_rounding e) .ideal w e' w' ↔ e' = e ∧ w' = w := by
    rw [commits_recompute_rounding h.accounting hb h.vault, ← h.rounding]
  rw [hl, ← h.rounding] at hpart
  have hliab : ∀ x : ℕ, (x : ℤ) = 0 ↔ x = 0 := by simp
  have hvault : w.balance e.reward_vault = e.rounding_reserve := by
    rw [h.vault]
    omega
  have hguard : e.lifetime_claimed ≤ e.lifetime_received
      ∧ w.balance e.reward_vault = e.lifetime_received - e.lifetime_claimed := by
    rw [h.vault]
    omega
  simp only [hround, commits_lp_aggregate_liability h.accounting, hl, hliab, commits_balance,
    and_assoc, exists_and_left, exists_eq_left]
  rw [and_iff_right h.healthy, and_iff_right hun, and_iff_right hvault,
    and_iff_right hguard.1, and_iff_right hguard.2]
  have hw' : Epoch 1 e.closed (w.withEpoch 1 e.closed) := rfl
  change (True ∧ ∃ x s, Commits (write_epoch 1 e.closed) .ideal w x s ∧ _) ↔ _
  simp only [commits_write_epoch hw, commits_lp_borrow_registry hw', commits_update, commits_emit,
    and_assoc, exists_and_left, exists_eq_left, exists_const, true_and, hs]
  rfl

/-- **The epoch's backing assertion never aborts** while it is active. -/
theorem commits_assert_epoch_backing (h : Books e) (hw : Epoch active e w) (hb : Backed e w)
    (hs : e.status = .ACTIVE) (u : Unit) :
    Commits (assert_epoch_backing deployed_cap 1) .ideal w u w' ↔ w' = w := by
  have hpart := hb.liability_le h.accounting
  have hv := hb.vault
  obtain ⟨l, hl⟩ := Int.eq_ofNat_of_zero_le h.accounting.liability_nonneg
  rw [hl, ← h.rounding] at hpart
  simp only [assert_epoch_backing, deployed_cap, commits_bind, commits_assert_cap,
    commits_borrow_epoch hw, commits_balance, commits_lp_aggregate_liability h.accounting, hl,
    Int.ofNat_inj, commits_checked, commits_require, commits_ite, hs, h.vault, commits_pure,
    and_assoc, exists_and_left, exists_eq_left, exists_const, true_and]
  constructor
  · rintro ⟨-, -, -, ⟨hne, -⟩ | ⟨-, hw'⟩⟩
    · cases hne
    · exact hw'
  · intro hw'
    exact ⟨by omega, by omega, by omega, .inr ⟨by simp, hw'⟩⟩

end Tx

end CedraReflect
