/-
What the pool's guards, its checkpoint and its payout of LP rewards do, in the
ideal arithmetic.

The two passages between the ledgers live here. A checkpoint takes what the
pool is owed out of the core and receives it in the epoch; a payout takes what
an owner is owed out of the epoch and gives it to a wallet of the core. Each
keeps the epoch's vault what was received and not claimed, so that each is a
stage, and each is a no-op where nothing is owed.
-/
import CedraReflect.Deployed

set_option autoImplicit false
set_option linter.constructorNameAsVariable false

namespace CedraReflect

open Dividend (Ledger Act Valid Run)
open reflection_math (MAGNITUDE MAGNITUDE_pos)
open reflection_token (TOTAL_SUPPLY is_excluded_store)

/-! ## The two passages -/

namespace LpEpoch

/-- What a checkpoint of `n` units leaves. -/
def checkpointed (e : LpEpoch) (n : ℕ) : LpEpoch := if n = 0 then e else e.received n

/-- What `materialize_lp_rewards` leaves. -/
def rewarded (e : LpEpoch) (a : Address) : LpEpoch :=
  if e.pending a = 0 then e else e.paid a (e.pending a)

end LpEpoch

namespace World

variable (w : World) (e : LpEpoch) (a : Address) (n : ℕ)

/-- `checkpoint_active`. -/
def checkpointed : World :=
  if w.pending none = 0 then w else (w.routed (w.pending none) 1).lpReceived e (w.pending none)

/-- `prepare_claim` and the payout that completes it. -/
def lpClaimed : World := (w.lpPaid e a n 1).paidOut a n

/-- `materialize_lp_rewards`. -/
def rewarded : World := if e.pending a = 0 then w else w.lpClaimed e a (e.pending a)

/-- The events of a checkpoint in the core. -/
def routing (n : ℕ) : List (Act (Option Address)) := if n = 0 then [] else [.pay none n]

end World

namespace LpEpoch

/-- The events of a checkpoint in the epoch. -/
def routing (n : ℕ) : List (Act Address) := if n = 0 then [] else [.receive n]

/-- The events of a payout in the epoch. -/
def payment (e : LpEpoch) (a : Address) : List (Act Address) :=
  if e.pending a = 0 then [] else [.pay a (e.pending a)]

end LpEpoch

/-! ## What the passages leave alone -/

namespace World

variable (w : World) (e : LpEpoch) (a : Address) (n : ℕ)

theorem balance_paidOut_vault :
    (w.paidOut a n).balance .lp_reward_vault = w.balance .lp_reward_vault - n := by
  have hb := balance_materializedAll (w.ensured a) a false .LP_PAYOUT
    (s := .lp_reward_vault) (by simp) (by simp)
  simp [paidOut, walletCredited, addRaw, hb]

@[simp] theorem custody_shares_paidOut :
    (w.paidOut a n).custody.custody_shares = w.custody.custody_shares := by
  simp [paidOut]

@[simp] theorem custody_shares_lpClaimed :
    (w.lpClaimed e a n).custody.custody_shares = w.custody.custody_shares := by
  simp [lpClaimed, lpPaid, withEpoch]

@[simp] theorem custody_shares_rewarded :
    (w.rewarded e a).custody.custody_shares = w.custody.custody_shares := by
  unfold rewarded
  split
  · rfl
  · simp

@[simp] theorem custody_shares_checkpointed :
    (w.checkpointed e).custody.custody_shares = w.custody.custody_shares := by
  unfold checkpointed
  split <;> rfl

/-- A checkpoint leaves the pool with nothing pending. -/
theorem pending_checkpointed : (w.checkpointed e).pending none = 0 := by
  unfold checkpointed
  split
  · assumption
  · have hl : ((w.routed (w.pending none) 1).lpReceived e (w.pending none)).coreLedger
        = (w.poolPaid (w.pending none)).coreLedger :=
      coreLedger_credit (w.poolPaid (w.pending none)) (w.pending none)
    rw [pending, hl, coreLedger_poolPaid]
    simp only [Ledger.pending, Act.apply, Function.update_self, pending]
    omega

end World

theorem Frame.withEpoch {w w' : World} (h : Frame w w') (active : ℕ) (e : LpEpoch) :
    Frame (w.withEpoch active e) (w'.withEpoch active e) :=
  ⟨h.published, h.custody_registry, rfl, h.pool, h.mock_usd, h.faucet, h.frozen, h.now_seconds,
    h.fee_bps, h.lifecycle, h.exclusions, h.pool_store, h.pool_registered, h.registered, h.tusd,
    h.tusd_in_flight, h.wallets⟩

/-! ## The passages as stages -/

namespace Deployed

variable {e : LpEpoch} {w : World} {a : Address} {n : ℕ}

/-- **The checkpoint.** What the pool is owed becomes the owners'. -/
theorem checkpointed (h : Deployed e w) (hw : Epoch 1 e w) (ht : e.total_shares ≠ 0) :
    Stage (World.routing (w.pending none)) (LpEpoch.routing (w.pending none)) e w
      (e.checkpointed (w.pending none)) (w.checkpointed e) := by
  unfold World.routing LpEpoch.routing LpEpoch.checkpointed World.checkpointed
  split
  · exact .refl h
  · have hs := h.core.step_routed (n := w.pending none) le_rfl 1
    have hl := h.books.step_received (n := w.pending none) ht
    have hf := (hs.frame.withEpoch 1 (e.received (w.pending none))).trans (.logged
      (.LpRewardIndexAdvanced 1 e.index (e.received (w.pending none)).index
        (e.received (w.pending none)).index_remainder (w.pending none) e.total_shares
        (e.received (w.pending none)).rounding_reserve))
    have hc : Core ((w.routed (w.pending none) 1).withEpoch 1 (e.received (w.pending none))) :=
      hs.core.congr rfl rfl rfl rfl rfl rfl rfl (fun _ _ => rfl) rfl
    refine h.joint hw (hc.logged _) hf hs.run hl ?_ rfl h.owners h.unallocated
    have hv := h.vault
    simp only [World.lpReceived, World.withEpoch, World.logged, World.routed, World.credit_balance,
      World.poolPaid, World.debit_balance, Function.update_self, LpEpoch.received, LpEpoch.indexed,
      Function.update_of_ne (show Address.lp_reward_vault ≠ .reward_vault by simp)]
    omega

/-- **The payout.** What an owner is owed becomes its wallet's. -/
theorem lpClaimed (h : Deployed e w) (hw : Epoch 1 e w) (hn0 : 0 < n) (hn : n ≤ e.pending a) :
    ∃ as, (∀ x ∈ as, Quiet x) ∧ Stage as [.pay a n] e w (e.paid a n) (w.lpClaimed e a n) := by
  have ha : a ∈ e.positions := by
    by_contra hne
    rw [h.books.accounting.pending_of_notMem hne] at hn
    omega
  have hv : n ≤ w.balance .lp_reward_vault := hn.trans (h.backed.pending_le h.books.accounting a)
  have hc₀ : Core (w.withEpoch 1 (e.paid a n)) :=
    h.core.congr rfl rfl rfl rfl rfl rfl rfl (fun _ _ => rfl) rfl
  have hc : Core (w.lpPaid e a n 1) := hc₀.logged _
  have hm : Moved (w.lpPaid e a n 1) (w.lpClaimed e a n) := hc.moved_paidOut (h.owners a ha) hv
  obtain ⟨as, hq, hs⟩ := id hm
  refine ⟨as, hq, h.joint hw hs.core ((Frame.logged _).trans hs.frame) hs.run
    (h.books.step_paid hn0 hn) ?_ rfl (fun b hb => ?_) ?_⟩
  · have hvault := h.vault
    rw [World.lpClaimed, World.balance_paidOut_vault]
    simp only [World.lpPaid, World.withEpoch, World.logged, LpEpoch.paid]
    omega
  · rcases Finmap.mem_insert.mp hb with rfl | hb
    · exact h.owners b ha
    · exact h.owners b hb
  · rw [hm.scalars.2.2.1]
    exact h.unallocated

theorem rewarded (h : Deployed e w) (hw : Epoch 1 e w) (a : Address) :
    ∃ as, (∀ x ∈ as, Quiet x) ∧ Stage as (e.payment a) e w (e.rewarded a) (w.rewarded e a) := by
  unfold LpEpoch.payment LpEpoch.rewarded World.rewarded
  split
  · exact ⟨[], by simp, .refl h⟩
  · next hp => exact h.lpClaimed hw (Nat.pos_of_ne_zero hp) le_rfl

end Deployed

/-! ## Guards and reads -/

namespace Tx

open pool

variable {w w' : World} {r : Arithmetic} {a : Address} {n active : ℕ} {e : LpEpoch}
  {lifecycle : Lifecycle}

theorem commits_pool_borrow_state (h : Deployed e w) (state : PoolState) :
    Commits pool.borrow_state r w state w' ↔
      state = pool.deployed w.reflection.lifecycle ∧ w' = w := by
  simp [pool.borrow_state, h.pool, eq_comm]

theorem commits_reserves (h : Supply w) (p : ℕ × ℕ) :
    Commits (reserves (pool.deployed lifecycle)) r w p w' ↔
      p = (w.custody.custody_shares, w.usd) ∧ w' = w := by
  simp [reserves, pool.deployed, h.custody, World.usd, and_comm]

/-- **The reserve assertion never aborts.** -/
theorem commits_assert_reserve_custody (h : Core w) (u : Unit) :
    Commits (assert_reserve_custody (pool.deployed lifecycle)) .ideal w u w' ↔ w' = w := by
  simp only [assert_reserve_custody, commits_bind, commits_reserves h.supply,
    commits_borrow_custody, commits_require, commits_assert_accounting_backing h, and_assoc,
    exists_and_left, exists_eq_left, exists_const, true_and]

/-- The two lifecycles and the epoch agree on when the pool is open. -/
theorem commits_assert_pool_live (h : Launched e w) (u : Unit) :
    Commits (assert_pool_live (pool.deployed w.reflection.lifecycle)) r w u w' ↔
      Live e w ∧ w' = w := by
  simp only [assert_pool_live, reflection_token.is_sealed, reflection_token.is_closed,
    commits_bind, commits_borrow_state, commits_pure, commits_require, and_assoc, exists_and_left,
    exists_eq_left, exists_const]
  rcases h.phase with hl | hc
  · simp [pool.deployed, hl.lifecycle, commits_assert_active_epoch_healthy hl.epoch, hl.status,
      hl.shares_pos, h.deployed.books.healthy, hl]
  · have hnl : ¬ Live e w := fun hl => by
      have := hl.lifecycle
      rw [hc.lifecycle] at this
      cases this
    simp [pool.deployed, hc.lifecycle, hnl]

theorem commits_assert_valid_lp_owner [NamedAddresses] (u : Unit) :
    Commits (assert_valid_lp_owner a) r w u w' ↔
      (a ≠ .zero ∧ a ≠ NamedAddresses.reflection_core ∧ a ≠ NamedAddresses.test_assets
        ∧ a ≠ NamedAddresses.test_amm
        ∧ is_excluded_store w.reflection (.primary .trfl a) = false) ∧ w' = w := by
  simp only [assert_valid_lp_owner, reflection_token.primary_store_is_excluded, commits_bind,
    commits_borrow_state, commits_pure, commits_require, and_assoc, exists_and_left,
    exists_eq_left, reflection_token.primary_store]

@[simp] theorem commits_assert_deadline (u : Unit) :
    Commits (assert_deadline n) r w u w' ↔ w.now_seconds ≤ n ∧ w' = w := by
  simp [assert_deadline, and_comm]

theorem commits_assert_swap_bounds (h : Supply w) (is_sell : Bool) (u : Unit) :
    Commits (assert_swap_bounds n is_sell (pool.deployed lifecycle)) .ideal w u w' ↔
      0 < n ∧ n ≤ FIXED_MAX_GROSS_SWAP
        ∧ 0 < (if is_sell = true then w.custody.custody_shares else w.usd)
        ∧ n * BPS_DENOMINATOR
            ≤ (if is_sell = true then w.custody.custody_shares else w.usd) * FIXED_MAX_RESERVE_BPS
        ∧ w' = w := by
  simp only [assert_swap_bounds, commits_bind, commits_require, commits_reserves h,
    commits_checked, and_assoc, exists_and_left, exists_eq_left, exists_const]

theorem commits_assert_reserve_output_cap {reserve : ℕ} (u : Unit) :
    Commits (assert_reserve_output_cap n reserve) .ideal w u w' ↔
      n * BPS_DENOMINATOR ≤ reserve * FIXED_MAX_RESERVE_BPS ∧ w' = w := by
  simp only [assert_reserve_output_cap, commits_bind, commits_checked, commits_require,
    and_assoc, exists_and_left, exists_eq_left]

theorem commits_pool_pending_rewards (h : Deployed e w) (x : ℕ) :
    Commits reflection_token.pool_pending_rewards .ideal w x w' ↔
      x = w.pending none ∧ w' = w := by
  simp only [reflection_token.pool_pending_rewards, commits_bind, commits_borrow_state,
    commits_ite, commits_pure, h.bound.pool_registered, h.bound.pool_store,
    commits_custody_pending_for_store h.core h.bound.registered, and_assoc, exists_and_left,
    exists_eq_left, Bool.true_eq_false, false_and, not_false_eq_true, true_and, false_or]

/-! ### The epoch's views -/

theorem commits_active_reward_vault (h : Books e) (hw : Epoch 1 e w) (v : Address) :
    Commits lp_rewards.active_reward_vault r w v w' ↔ v = .lp_reward_vault ∧ w' = w := by
  simp only [lp_rewards.active_reward_vault, commits_bind, commits_active_epoch_id hw,
    commits_borrow_epoch hw, commits_pure, h.vault, and_assoc, exists_and_left, exists_eq_left,
    zero_lt_one, true_and]

theorem commits_reward_vault (h : Books e) (hw : Epoch active e w) (k : ℕ) (v : Address) :
    Commits (lp_rewards.reward_vault k) r w v w' ↔ k = 1 ∧ v = .lp_reward_vault ∧ w' = w := by
  simp only [lp_rewards.reward_vault, commits_bind, commits_borrow_epoch hw, commits_pure, h.vault,
    and_assoc, exists_and_left, exists_eq_left]

theorem commits_total_active_shares (hw : Epoch 1 e w) (x : ℕ) :
    Commits lp_rewards.total_active_shares r w x w' ↔ x = e.total_shares ∧ w' = w := by
  simp only [lp_rewards.total_active_shares, commits_bind, commits_lp_borrow_registry hw,
    commits_ite, commits_pure, commits_borrow_epoch hw, and_assoc, exists_and_left,
    exists_eq_left, one_ne_zero, false_and, not_false_eq_true, true_and, false_or]

theorem commits_position_shares (hw : Epoch active e w) (x : ℕ) :
    Commits (lp_rewards.position_shares 1 a) r w x w' ↔
      x = (e.position a).shares ∧ w' = w := by
  simp only [lp_rewards.position_shares, commits_bind, commits_borrow_epoch hw, commits_ite,
    commits_pure, commits_lp_borrow_position, and_assoc, exists_and_left, exists_eq_left, true_and]
  by_cases ha : a ∈ e.positions
  · simp [ha, lookup_of_mem ha]
  · simp [ha, LpEpoch.position_of_notMem ha]

theorem commits_lp_pending_rewards (h : Deployed e w) (hw : Epoch active e w) (x : ℕ) :
    Commits (lp_rewards.pending_rewards 1 a) .ideal w x w' ↔ x = e.pending a ∧ w' = w := by
  simp only [lp_rewards.pending_rewards, commits_bind, commits_borrow_epoch hw,
    commits_pending_for h.books.accounting (h.backed.pending_lt h.books.accounting a), and_assoc,
    exists_and_left, exists_eq_left, true_and]

/-! ### tUSD -/

theorem commits_deposit_to_pool (h : Deployed e w) (u : Unit) :
    Commits (mock_usd.deposit_to_pool ⟨.usd_reserve, 1⟩ .usd_reserve ⟨.tusd, n⟩) .ideal w u w' ↔
      n ≤ w.in_flight .tusd ∧ w' = w.credit .tusd .usd_reserve n := by
  simp [mock_usd.deposit_to_pool, mock_usd.assert_pool_cap, mock_usd.borrow_state,
    h.usd_reserve, Address.store_metadata]

theorem commits_withdraw_from_pool (h : Deployed e w) (asset : FungibleAsset) :
    Commits (mock_usd.withdraw_from_pool ⟨.usd_reserve, 1⟩ .usd_reserve n) .ideal w asset w' ↔
      n ≤ w.usd ∧ asset = ⟨.tusd, n⟩ ∧ w' = w.debit .tusd .usd_reserve n := by
  simp [mock_usd.withdraw_from_pool, mock_usd.assert_pool_cap, mock_usd.borrow_state,
    h.usd_reserve, Address.store_metadata, World.usd, and_comm]

theorem primary_not_frozen (h : Deployed e w) (ref : Metadata) (a : Address) :
    w.frozen (.primary ref a) = false := by
  rw [h.frozen]
  simp [frozenStores]

theorem commits_withdraw_tusd [NamedAddresses] (h : Deployed e w) (asset : FungibleAsset) :
    Commits (primary_fungible_store.withdraw a .tusd n) .ideal w asset w' ↔
      n ≤ w.balance (.primary .tusd a) ∧ asset = ⟨.tusd, n⟩
        ∧ w' = w.debit .tusd (.primary .tusd a) n := by
  simp [primary_fungible_store.withdraw, dispatchable_fungible_asset.withdraw, Address.owner,
    primary_not_frozen h, Address.store_metadata]

theorem commits_deposit_tusd [NamedAddresses] (h : Deployed e w) (u : Unit) :
    Commits (primary_fungible_store.deposit a ⟨.tusd, n⟩) .ideal w u w' ↔
      n ≤ w.in_flight .tusd ∧ w' = w.credit .tusd (.primary .tusd a) n := by
  simp [primary_fungible_store.deposit, dispatchable_fungible_asset.deposit,
    primary_not_frozen h, Address.store_metadata]

/-! ## The passages -/

theorem commits_checkpoint_active (h : Deployed e w) (hl : w.reflection.lifecycle = .LIVE)
    (hw : Epoch 1 e w) (hs : e.status = .ACTIVE) (ht : 0 < e.total_shares) (u : Unit) :
    Commits (checkpoint_active (pool.deployed lifecycle)) .ideal w u w' ↔
      w' = w.checkpointed e := by
  have hst := h.checkpointed hw ht.ne'
  have hd := hst.deployed
  have hw' := hst.epoch 1 hw
  have hs' : (e.checkpointed (w.pending none)).status = .ACTIVE := hst.status.trans hs
  simp only [checkpoint_active, pool.deployed, commits_bind,
    commits_assert_active_epoch_healthy hw, commits_active_reward_vault h.books hw,
    commits_route_custody_rewards h.core h.bound, hl, hs, ht, h.books.healthy, and_assoc,
    exists_and_left, exists_eq_left, exists_const, true_and]
  have hback : ∀ s : World, Commits
      (do lp_rewards.assert_epoch_backing lp_rewards.deployed_cap 1
          reflection_token.assert_accounting_backing) .ideal (w.checkpointed e) u s ↔
        s = w.checkpointed e := by
    intro s
    simp only [commits_bind, commits_assert_epoch_backing hd.books hw' hd.backed hs',
      commits_assert_accounting_backing hd.core, exists_eq_left, exists_const]
  -- With nothing pending only the checks run; else the rewards are routed to the epoch.
  by_cases hp : w.pending none = 0
  · have hw₀ : w.checkpointed e = w := by rw [World.checkpointed, if_pos hp]
    rw [hw₀] at hback ⊢
    simp [hp, hback]
  · have hpos : 0 < w.pending none := Nat.pos_of_ne_zero hp
    have hsr := h.core.step_routed (n := w.pending none) le_rfl 1
    have hv : (w.routed (w.pending none) 1).balance .lp_reward_vault + e.lifetime_claimed
        = e.lifetime_received + w.pending none := by
      have hvault := h.vault
      simp only [World.routed, World.logged, World.credit_balance, World.poolPaid,
        World.debit_balance, Function.update_self,
        Function.update_of_ne (show Address.lp_reward_vault ≠ .reward_vault by simp)]
      omega
    have hw₁ : w.checkpointed e = (w.routed (w.pending none) 1).lpReceived e (w.pending none) := by
      rw [World.checkpointed, if_neg hp]
    rw [hw₁] at hback ⊢
    simp only [hp, hpos, if_false, if_true]
    rw [commits_bind]
    simp only [commits_receive_routed_reward h.books (hw.frame hsr.frame) hs ht.ne' hv
      (hsr.core.supply.balance_le _ rfl), hpos, true_and, exists_eq_left, exists_const]
    exact hback w'

theorem commits_lp_payout [NamedAddresses] (w' : World) (h : Deployed e w)
    (hl : w.reflection.lifecycle ≠ .CONFIGURING) (hw : Epoch 1 e w) (hs : e.status = .ACTIVE)
    (hn0 : 0 < n) (hn : n ≤ e.pending a) (u : Unit) :
    Commits (do
        reflection_token.payout_lp_reward_to custody_registry.deployed_cap a 1 .lp_reward_vault n
        lp_rewards.assert_epoch_backing lp_rewards.deployed_cap 1
        reflection_token.assert_accounting_backing) .ideal (w.lpPaid e a n 1) u w' ↔
      w' = w.lpClaimed e a n := by
  obtain ⟨as, -, hst⟩ := h.lpClaimed hw hn0 hn
  have hd := hst.deployed
  have ha : a ∈ e.positions := by
    by_contra hne
    rw [h.books.accounting.pending_of_notMem hne] at hn
    omega
  -- The vault backs what is pending of every owner.
  have hv : n ≤ (w.lpPaid e a n 1).balance .lp_reward_vault :=
    hn.trans (h.backed.pending_le h.books.accounting a)
  have hc₀ : Core (w.withEpoch 1 (e.paid a n)) :=
    h.core.congr rfl rfl rfl rfl rfl rfl rfl (fun _ _ => rfl) rfl
  have hc : Core (w.lpPaid e a n 1) := hc₀.logged _
  have hb : Bound (w.lpPaid e a n 1) :=
    ⟨h.bound.custody_registry, h.bound.pool_store, h.bound.pool_registered, h.bound.registered⟩
  have hl' : (w.lpPaid e a n 1).reflection.lifecycle ≠ .CONFIGURING := hl
  have hx : is_excluded_store (w.lpPaid e a n 1).reflection (.primary .trfl a) = false :=
    h.owners a ha
  simp only [commits_bind, commits_payout_lp_reward_to hc hb, hn0, hl', hx, hv, exists_eq_left,
    exists_const, true_and, ne_eq, not_false_eq_true]
  have hw' : Epoch 1 (e.paid a n) (w.lpClaimed e a n) := hst.epoch 1 hw
  change (∃ x s, Commits _ _ (w.lpClaimed e a n) x s ∧ _) ↔ _
  simp only [commits_assert_epoch_backing hd.books hw' hd.backed (hst.status.trans hs),
    commits_assert_accounting_backing hd.core, exists_eq_left, exists_const]

theorem commits_materialize_lp_rewards [NamedAddresses] (h : Deployed e w)
    (hl : w.reflection.lifecycle ≠ .CONFIGURING) (hw : Epoch 1 e w) (hs : e.status = .ACTIVE)
    (ht : 0 < e.total_shares) (u : Unit) :
    Commits (materialize_lp_rewards (pool.deployed lifecycle) a) .ideal w u w' ↔
      w' = w.rewarded e a := by
  simp only [materialize_lp_rewards, commits_bind, commits_lp_pending_rewards h hw, commits_ite,
    commits_pure, pool.deployed, and_assoc, exists_and_left, exists_eq_left, World.rewarded]
  by_cases hp : e.pending a = 0
  · simp [hp]
  · have hpos : 0 < e.pending a := Nat.pos_of_ne_zero hp
    have hw' : Epoch 1 (e.paid a (e.pending a)) (w.lpPaid e a (e.pending a) 1) := rfl
    have hbk := h.books.step_paid hpos le_rfl
    have hpay := commits_lp_payout w' h hl hw hs hpos le_rfl u
    simp only [commits_bind] at hpay
    simp only [hp, hpos, ht, hs, if_false, commits_prepare_claim h.books hw h.backed,
      commits_reward_vault hbk.books hw', and_assoc, exists_and_left, exists_eq_left, true_or,
      forall_const, le_refl, true_and, not_false_eq_true, false_and, false_or, hpay]

end Tx

end CedraReflect
