/-
The entries of the pool on the machine.

An entry is a sequence of functions of the core and of the epoch, each of which
fits at the state that the one before it leaves. The states are those of the
stages; what is carried along is [`Roomy`], that both ledgers are narrow and
that the accounts of the call can still be counted.
-/
import CedraReflect.SwapWidths

set_option autoImplicit false
set_option linter.constructorNameAsVariable false
set_option synthInstance.maxSize 1000000000000

namespace CedraReflect

open Dividend (Act)
open reflection_math (MAGNITUDE)
open reflection_token (TOTAL_SUPPLY)
open lp_rewards (ensure_position)
open reflection_settlement (minted_shares ceil_div)

/-! ## Guards -/

section

open pool

variable (state : PoolState) (a : Address) (n m : ℕ) (is_sell : Bool)

instance : Plain pool.borrow_state := by
  unfold pool.borrow_state
  infer_instance

instance : Plain (reserves state) := by
  unfold reserves
  infer_instance

instance : Plain (assert_pool_live state) := by
  unfold assert_pool_live E_WRONG_LIFECYCLE
  infer_instance

instance [NamedAddresses] : Plain (assert_valid_lp_owner a) := by
  unfold assert_valid_lp_owner E_INVALID_LP_OWNER
  infer_instance

instance : Plain (assert_deadline n) := by
  unfold assert_deadline E_DEADLINE
  infer_instance

instance : Plain (assert_swap_bounds n is_sell state) := by
  unfold assert_swap_bounds pool.E_ZERO_AMOUNT E_MAX_SWAP E_MAX_RESERVE_PERCENT
  infer_instance

instance : Plain (assert_reserve_output_cap n m) := by
  unfold assert_reserve_output_cap E_MAX_RESERVE_PERCENT
  infer_instance

end

/-- tUSD has no hook. -/
instance [NamedAddresses] (a : Address) (n : ℕ) :
    Plain (primary_fungible_store.withdraw a .tusd n) := by
  unfold primary_fungible_store.withdraw dispatchable_fungible_asset.withdraw
  rw [if_neg (by simp [Address.store_metadata])]
  infer_instance

instance [NamedAddresses] (a : Address) (n : ℕ) :
    Plain (primary_fungible_store.deposit a ⟨.tusd, n⟩) := by
  unfold primary_fungible_store.deposit dispatchable_fungible_asset.deposit
  rw [if_neg (by simp [Address.store_metadata])]
  infer_instance

/-! ## Room -/

/-- Both ledgers are narrow, and the accounts `s` can be counted. -/
structure Roomy (s : Finset Address) (e : LpEpoch) (w : World) : Prop where
  core : w.Narrow
  epoch : e.Narrow
  wallets : (w.wallets ∪ s).card < 2 ^ 64

namespace World

variable (w : World) (e : LpEpoch) (a : Address) (n : ℕ)

@[simp] theorem wallets_ensured : (w.ensured a).wallets = insert a w.wallets := by
  unfold ensured
  split
  · next h => exact (Finset.insert_eq_self.mpr h).symm
  · exact wallets_enrolled _

theorem wallets_paidOut : (w.paidOut a n).wallets = insert a w.wallets := by
  show ((w.ensured a).materializedAll a false .LP_PAYOUT).wallets = _
  rw [wallets_materializedAll, wallets_ensured]

end World

namespace Roomy

variable {s : Finset Address} {e e' : LpEpoch} {w w' : World} {a : Address} {n : ℕ}

theorem card (h : Roomy s e w) (ha : a ∈ s) : (insert a w.wallets).card < 2 ^ 64 := by
  refine (Finset.card_le_card ?_).trans_lt h.wallets
  exact Finset.insert_subset (Finset.mem_union_right _ ha) Finset.subset_union_left

/-- The accounts of the call may be registered by it. -/
theorem moved (h : Roomy s e w) (hm : w'.Narrow) (he : e'.Narrow)
    (hw : w'.wallets ⊆ w.wallets ∪ s) : Roomy s e' w' :=
  ⟨hm, he, (Finset.card_le_card
    (Finset.union_subset hw Finset.subset_union_right)).trans_lt h.wallets⟩

/-- A payout to an owner. -/
theorem lpClaimed (h : Roomy s e w) (hd : Deployed e w) (hn0 : 0 < n) (hn : n ≤ e.pending a)
    (ha : a ∈ s) : Roomy s (e.paid a n) (w.lpClaimed e a n) := by
  have hm : a ∈ e.positions := by
    by_contra hne
    rw [hd.books.accounting.pending_of_notMem hne] at hn
    omega
  have hc₀ : Core (w.withEpoch 1 (e.paid a n)) :=
    hd.core.congr rfl rfl rfl rfl rfl rfl rfl (fun _ _ => rfl) rfl
  have hc : Core (w.lpPaid e a n 1) := hc₀.logged _
  have hn₁ : (w.lpPaid e a n 1).Narrow := ⟨h.core.index, h.core.fees, h.core.remainder⟩
  refine h.moved ?_ ⟨h.epoch.total, h.epoch.index, h.epoch.remainder, h.epoch.received⟩ ?_
  · exact hn₁.moved (hc.moved_paidOut (hd.owners a hm)
      (hn.trans (hd.backed.pending_le hd.books.accounting a)))
  · rw [World.lpClaimed, World.wallets_paidOut]
    exact Finset.insert_subset (Finset.mem_union_right _ ha) Finset.subset_union_left

theorem rewarded (h : Roomy s e w) (hd : Deployed e w) (ha : a ∈ s) :
    Roomy s (e.rewarded a) (w.rewarded e a) := by
  unfold LpEpoch.rewarded World.rewarded
  split
  · exact h
  · next hp => exact h.lpClaimed hd (Nat.pos_of_ne_zero hp) le_rfl ha

end Roomy

/-! ## Exits -/

namespace World

variable (w : World) (e : LpEpoch) (a b : Address) (n : ℕ)

theorem core_lpWithdrawn :
    (w.lpWithdrawn e a n).reflection = w.reflection ∧ (w.lpWithdrawn e a n).custody = w.custody := by
  unfold lpWithdrawn exitLogged
  split <;> exact ⟨rfl, rfl⟩

theorem core_lpTransferred :
    (w.lpTransferred e a b n).reflection = w.reflection
      ∧ (w.lpTransferred e a b n).custody = w.custody := by
  unfold lpTransferred exitLogged
  split <;> exact ⟨rfl, rfl⟩

end World

namespace LpEpoch.Narrow

variable {e : LpEpoch} {a b : Address} {n : ℕ}

theorem withdrawn (h : e.Narrow) : (e.withdrawn a n).Narrow := by
  obtain ⟨ps, ag, ret, c, heq, -⟩ := e.withdrawn_eq a n
  rw [heq]
  exact ⟨(Nat.sub_le _ _).trans h.total, h.index, h.remainder, h.received⟩

theorem transferred (h : e.Narrow) (hn : n ≤ e.total_shares) : (e.transferred a b n).Narrow := by
  obtain ⟨ps, ag, ret, c, heq, -⟩ := e.transferred_eq a b n hn
  rw [heq]
  exact ⟨h.total, h.index, h.remainder, h.received⟩

end LpEpoch.Narrow

/-- The core of a state that agrees with a narrow one. -/
theorem World.Narrow.congr {w w' : World} (h : w.Narrow) (hr : w'.reflection = w.reflection) :
    w'.Narrow :=
  ⟨hr ▸ h.index, hr ▸ h.fees, hr ▸ h.remainder⟩

/-! ## The passages -/

namespace Tx

open pool

variable {w w' : World} {s : Finset Address} {a b : Address} {n active : ℕ} {e : LpEpoch}
  {lifecycle : Lifecycle}

theorem fits_assert_reserve_custody (h : Core w) (hw : w.Narrow) :
    Fits (assert_reserve_custody (pool.deployed lifecycle)) w := by
  unfold assert_reserve_custody E_RESERVE_CUSTODY_MISMATCH
  refine .call spares fun p w₁ h₁ => ?_
  obtain ⟨-, rfl⟩ := (commits_reserves h.supply p).mp h₁
  refine .call spares fun c w₂ h₂ => ?_
  obtain ⟨-, rfl⟩ := (commits_borrow_custody c).mp h₂
  exact .guard fun _ => fits_assert_accounting_backing h hw

/-- The two assertions at the end of every passage. -/
theorem fits_backing (h : Deployed e w) (hw : Epoch active e w) (hs : e.status = .ACTIVE)
    (hn : w.Narrow) (he : e.Narrow) : Fits (do
      lp_rewards.assert_epoch_backing lp_rewards.deployed_cap 1
      reflection_token.assert_accounting_backing) w :=
  .effect (fits_assert_epoch_backing h.books hw h.backed he)
    (fun u _ => (commits_assert_epoch_backing h.books hw h.backed hs u).mp)
    (fits_assert_accounting_backing h.core hn)

theorem fits_checkpoint_active (h : Deployed e w) (hw : Epoch 1 e w) (hs : e.status = .ACTIVE)
    (ht : 0 < e.total_shares) (hn : w.Narrow) (he : e.Narrow)
    (he' : (e.checkpointed (w.pending none)).Narrow) :
    Fits (checkpoint_active (pool.deployed lifecycle)) w := by
  have hst := h.checkpointed hw ht.ne'
  have hback := fits_backing hst.deployed (hst.epoch 1 hw) (hst.status.trans hs)
  unfold checkpoint_active
  refine .check spares (fun u _ h₁ =>
    ⟨trivial, ((commits_assert_active_epoch_healthy hw u).mp h₁).2.2.2.2⟩) fun _ => ?_
  refine .call spares fun v w₁ h₁ => ?_
  obtain ⟨rfl, rfl⟩ := (commits_active_reward_vault h.books hw v).mp h₁
  refine .call (fits_route_custody_rewards h.core h.bound hn) fun x w₂ h₂ => ?_
  obtain ⟨-, rfl, rfl⟩ := (commits_route_custody_rewards h.core h.bound x).mp h₂
  -- With nothing pending only the checks run; else the rewards are routed to the epoch.
  unfold World.checkpointed LpEpoch.checkpointed at hback
  unfold LpEpoch.checkpointed at he'
  split at hback
  · next hp =>
      rw [hp, if_pos rfl]
      exact hback hn he
  · next hp =>
      rw [if_neg hp] at he' ⊢
      have hpos : 0 < w₁.pending none := Nat.pos_of_ne_zero hp
      have hsr := h.core.step_routed (n := w₁.pending none) le_rfl 1
      have hv : (w₁.routed (w₁.pending none) 1).balance .lp_reward_vault + e.lifetime_claimed
          = e.lifetime_received + w₁.pending none := by
        have hvault := h.vault
        simp only [World.routed, World.logged, World.credit_balance, World.poolPaid,
          World.debit_balance, Function.update_self,
          Function.update_of_ne (show Address.lp_reward_vault ≠ .reward_vault by simp)]
        omega
      have hn' : ((w₁.routed (w₁.pending none) 1).lpReceived e (w₁.pending none)).Narrow :=
        ⟨hn.index, hn.fees, hn.remainder⟩
      rw [if_pos hpos]
      refine .effect (fits_receive_routed_reward h.books (hw.frame hsr.frame) ht.ne' he he' hv
        (hsr.core.supply.balance_le _ rfl)) (fun u _ h₃ => ?_) (hback hn' he')
      exact ((commits_receive_routed_reward h.books (hw.frame hsr.frame) hs ht.ne' hv
        (hsr.core.supply.balance_le _ rfl) u).mp h₃).2

/-- A payout that the epoch has booked. -/
theorem fits_lp_payout [NamedAddresses] (h : Deployed e w)
    (_hl : w.reflection.lifecycle ≠ .CONFIGURING) (hw : Epoch 1 e w) (hs : e.status = .ACTIVE)
    (hn0 : 0 < n) (hn : n ≤ e.pending a) (hr : Roomy s e w) (ha : a ∈ s) : Fits (do
      reflection_token.payout_lp_reward_to custody_registry.deployed_cap a 1 .lp_reward_vault n
      lp_rewards.assert_epoch_backing lp_rewards.deployed_cap 1
      reflection_token.assert_accounting_backing) (w.lpPaid e a n 1) := by
  obtain ⟨as, -, hst⟩ := h.lpClaimed hw hn0 hn
  have hc₀ : Core (w.withEpoch 1 (e.paid a n)) :=
    h.core.congr rfl rfl rfl rfl rfl rfl rfl (fun _ _ => rfl) rfl
  have hc : Core (w.lpPaid e a n 1) := hc₀.logged _
  have hb : Bound (w.lpPaid e a n 1) :=
    ⟨h.bound.custody_registry, h.bound.pool_store, h.bound.pool_registered, h.bound.registered⟩
  have hn₁ : (w.lpPaid e a n 1).Narrow := ⟨hr.core.index, hr.core.fees, hr.core.remainder⟩
  have he : (e.paid a n).Narrow :=
    ⟨hr.epoch.total, hr.epoch.index, hr.epoch.remainder, hr.epoch.received⟩
  refine .call (fits_payout_lp_reward_to hc hb hn₁ (hr.card ha)) fun u w₁ h₁ => ?_
  obtain ⟨-, -, -, hx, hv, rfl⟩ := (commits_payout_lp_reward_to hc hb u).mp h₁
  exact fits_backing hst.deployed (hst.epoch 1 hw) (hst.status.trans hs)
    (hn₁.moved (hc.moved_paidOut hx hv)) he

theorem fits_materialize_lp_rewards [NamedAddresses] (h : Deployed e w)
    (hl : w.reflection.lifecycle ≠ .CONFIGURING) (hw : Epoch 1 e w) (hs : e.status = .ACTIVE)
    (hr : Roomy s e w) (ha : a ∈ s) :
    Fits (materialize_lp_rewards (pool.deployed lifecycle) a) w := by
  unfold materialize_lp_rewards
  refine .step (fits_lp_pending_rewards h.books hw h.backed hr.epoch)
    (fun x _ => (commits_lp_pending_rewards h hw x).mp) (avoids_ite (fun _ => spares) fun hp => ?_)
  have hpos : 0 < e.pending a := Nat.pos_of_ne_zero hp
  refine .call (fits_prepare_claim h.books hw h.backed hr.epoch) fun x w₁ h₁ => ?_
  obtain ⟨-, -, -, rfl, -, -, rfl⟩ := (commits_prepare_claim h.books hw h.backed).mp h₁
  rw [if_neg hp]
  have hw' : Epoch 1 (e.paid a (e.pending a)) (w.lpPaid e a (e.pending a) 1) := rfl
  refine .call spares fun v w₂ h₂ => ?_
  obtain ⟨-, rfl, rfl⟩ := (commits_reward_vault (h.books.step_paid hpos le_rfl).books hw' 1 v).mp h₂
  exact fits_lp_payout h hl hw hs hpos le_rfl hr ha

/-- The checkpoint at the beginning of an entry finds nothing to check in. -/
theorem fits_checkpoint_settled (h : Launched e w) (hl : Live e w) (hr : Roomy s e w) :
    Fits (checkpoint_active (pool.deployed w.reflection.lifecycle)) w := by
  refine fits_checkpoint_active h.deployed hl.epoch hl.status hl.shares_pos hr.core hr.epoch ?_
  rw [h.settled, LpEpoch.checkpointed, if_pos rfl]
  exact hr.epoch

/-! ## Swaps -/

theorem fits_sell_trfl [NamedAddresses] {k limit deadline : ℕ} (h : Launched e w)
    (hr : Roomy s e w) (hk : k < 2 ^ 64) (hw : w.Within k) (he : e.Within k) :
    Fits (sell_trfl a n limit deadline) w := by
  have hd := h.deployed
  have hf := hd.feeOn_le n
  unfold sell_trfl pool.E_MIN_OUTPUT pool.E_INSUFFICIENT_LIQUIDITY E_RESERVE_CUSTODY_MISMATCH
  refine .check spares (fun u _ => (commits_assert_deadline u).mp) fun _ => ?_
  refine .step spares (fun x _ => (commits_pool_borrow_state hd x).mp) ?_
  refine .check spares (fun u _ => (commits_assert_pool_live h u).mp) fun hl => ?_
  refine .effect (fits_checkpoint_settled h hl hr)
    (fun u _ => (commits_checkpoint_settled h hl u).mp) ?_
  refine .call spares fun u w₁ h₁ => ?_
  obtain ⟨-, hmax, -, hcap, rfl⟩ := (commits_assert_swap_bounds hd.core.supply true u).mp h₁
  rw [if_pos rfl] at hcap
  have hn : n < 2 ^ 64 := by
    unfold FIXED_MAX_GROSS_SWAP at hmax
    omega
  refine .step spares (fun p _ => (commits_reserves hd.core.supply p).mp) ?_
  refine .step (fits_fee_for hn hd.fee) (fun x _ => (commits_fee_on hd hn.le x).mp) ?_
  refine .step spares (fun x _ h₂ => ((commits_sub _ _ _).mp h₂).2) ?_
  refine .call spares fun quote w₂ h₂ => ?_
  obtain ⟨-, -, -, -, rfl, rfl⟩ := (commits_constant_product_output quote).mp h₂
  refine .check spares (fun u _ => (commits_assert_reserve_output_cap u).mp) fun hocap => ?_
  refine .guard fun _ => .call (fits_settle_sell hd.core hr.core hd.fee fun hc =>
    (hw.sold hc (fifth_of_cap hcap) (hd.feeOn_mul_le n)).narrow hk) fun p w₃ h₃ => ?_
  obtain ⟨-, hel, hwal, hfunds, rfl, rfl⟩ :=
    (commits_settle_sell_on hd hl.lifecycle hn.le p).mp h₃
  -- The settlement is over, and the pool's part of the fee is routed.
  obtain ⟨_, _, -, -, h₁⟩ := hd.sold hl.rfl_pos hwal hfunds hf
  have hw₁ := h₁.epoch 1 hl.epoch
  have hn₁ := hw.sold (hd.core.sellInstant hwal hfunds) (fifth_of_cap hcap) (hd.feeOn_mul_le n)
  have he₁ := he.checkpointed ((h₁.deployed.core.accounting.pending_le_vault none).trans
    h₁.deployed.core.vault_le) hl.shares_pos hr.epoch.total
  have h₂ := h₁.deployed.checkpointed hw₁ hl.shares_pos.ne'
  have hn₂ := (hn₁.same (SameFees.checkpointed (e := e))).narrow hk
  refine .guard fun _ => ?_
  refine .effect (fits_checkpoint_active h₁.deployed hw₁ hl.status hl.shares_pos (hn₁.narrow hk)
    hr.epoch (he₁.narrow hk (by simpa using hr.epoch.total)))
    (fun u _ => (commits_checkpoint_active h₁.deployed (h₁.lifecycle.trans hl.lifecycle) hw₁
      hl.status hl.shares_pos u).mp) ?_
  refine .step (fits_pool_pending_rewards h₂.deployed.core h₂.deployed.bound hn₂)
    (fun x _ => (commits_pool_pending_rewards h₂.deployed x).mp) ?_
  refine .guard fun _ => .call spares fun usd w₄ h₄ => ?_
  obtain ⟨-, rfl, rfl⟩ := (commits_withdraw_from_pool h₂.deployed usd).mp h₄
  have hdeb := h₂.deployed.outside (.debit (n := w₂.sellOutput n) (s := .usd_reserve) rfl)
  refine .call spares fun u w₅ h₅ => ?_
  obtain ⟨-, rfl⟩ := (commits_deposit_tusd hdeb.deployed u).mp h₅
  have h₄ := h₂.deployed.outside (World.outside_usdOut _ a (w₂.sellOutput n))
  exact (fits_assert_reserve_custody h₄.deployed.core
    ⟨hn₂.index, hn₂.fees, hn₂.remainder⟩).bind fun _ _ _ => spares

theorem fits_buy_trfl [NamedAddresses] {k limit deadline : ℕ} (h : Launched e w)
    (hr : Roomy s e w) (ha : a ∈ s) (hk : k < 2 ^ 64) (hw : w.Within k) (he : e.Within k) :
    Fits (buy_trfl a n limit deadline) w := by
  have hd := h.deployed
  unfold buy_trfl pool.E_MIN_OUTPUT pool.E_INSUFFICIENT_LIQUIDITY E_RESERVE_CUSTODY_MISMATCH
  refine .check spares (fun u _ => (commits_assert_deadline u).mp) fun _ => ?_
  refine .step spares (fun x _ => (commits_pool_borrow_state hd x).mp) ?_
  refine .check spares (fun u _ => (commits_assert_pool_live h u).mp) fun hl => ?_
  refine .effect (fits_checkpoint_settled h hl hr)
    (fun u _ => (commits_checkpoint_settled h hl u).mp) ?_
  refine .call spares fun u w₁ h₁ => ?_
  obtain ⟨-, -, -, hcap, rfl⟩ := (commits_assert_swap_bounds hd.core.supply false u).mp h₁
  rw [if_neg Bool.false_ne_true] at hcap
  refine .step spares (fun p _ => (commits_reserves hd.core.supply p).mp) ?_
  refine .call spares fun quote w₂ h₂ => ?_
  obtain ⟨-, -, -, -, rfl, rfl⟩ := (commits_constant_product_output quote).mp h₂
  have hsixth := swap_output_le_sixth (R := w₂.custody.custody_shares) FIXED_AMM_FEE_BPS
    (fifth_of_cap hcap)
  have hout : reflection_settlement.swap_output w₂.usd w₂.custody.custody_shares n
      FIXED_AMM_FEE_BPS = w₂.buyOutput n := rfl
  rw [hout] at hsixth ⊢
  have hn : w₂.buyOutput n < 2 ^ 64 := by
    have := hd.custody_lt
    omega
  have hf := hd.feeOn_le (w₂.buyOutput n)
  refine .check spares (fun u _ => (commits_assert_reserve_output_cap u).mp) fun hocap => ?_
  refine .step (fits_fee_for hn hd.fee) (fun x _ => (commits_fee_on hd hn.le x).mp) ?_
  refine .step spares (fun x _ h₂ => ((commits_sub _ _ _).mp h₂).2) (.guard fun _ => ?_)
  refine .call spares fun usd w₃ h₃ => ?_
  obtain ⟨-, rfl, rfl⟩ := (commits_withdraw_tusd hd usd).mp h₃
  have hdeb := hd.outside (.debit (n := n) (s := .primary .tusd a) rfl)
  refine .call spares fun u w₄ h₄ => ?_
  obtain ⟨-, rfl⟩ := (commits_deposit_to_pool hdeb.deployed u).mp h₄
  change Fits _ (w₂.usdIn a n)
  have h₀ := hd.outside (w₂.outside_usdIn a n)
  have hw₀ : (w₂.usdIn a n).Within k := ⟨hw.index, hw.fees, hw.remainder⟩
  have hn₀ : (w₂.usdIn a n).Narrow := ⟨hr.core.index, hr.core.fees, hr.core.remainder⟩
  refine .call (fits_settle_buy h₀.deployed.core hn₀ hd.fee (hr.card ha) fun hc =>
    (hw₀.bought hc hsixth (hd.feeOn_mul_le _)).narrow hk) fun p w₄ h₅ => ?_
  obtain ⟨-, hel, hle, -, rfl, rfl⟩ := (commits_settle_buy_on w₄ h₀.deployed hl.lifecycle p).mp h₅
  have hfee : (w₂.usdIn a n).feeOn (w₂.buyOutput n) = w₂.feeOn (w₂.buyOutput n) := rfl
  rw [hfee]
  -- The settlement is over, and the pool's part of the fee is routed.
  have hR : w₂.buyOutput n < (w₂.usdIn a n).custody.custody_shares := by
    have hpos : 0 < (w₂.usdIn a n).custody.custody_shares := hl.rfl_pos
    have hsix : w₂.buyOutput n * 6 ≤ (w₂.usdIn a n).custody.custody_shares := hsixth
    omega
  obtain ⟨_, _, -, -, h₁⟩ := h₀.deployed.bought (a := a) hR hel hf
  have hw₁ := h₁.epoch 1 (h₀.epoch 1 hl.epoch)
  have hn₁ := hw₀.bought (h₀.deployed.core.buyInstant hel hle) hsixth
    (hd.feeOn_mul_le (w₂.buyOutput n))
  have he₁ := he.checkpointed ((h₁.deployed.core.accounting.pending_le_vault none).trans
    h₁.deployed.core.vault_le) hl.shares_pos hr.epoch.total
  have h₂ := h₁.deployed.checkpointed hw₁ hl.shares_pos.ne'
  have hn₂ := (hn₁.same (SameFees.checkpointed (e := e))).narrow hk
  refine .guard fun _ => ?_
  refine .effect (fits_checkpoint_active h₁.deployed hw₁ hl.status hl.shares_pos (hn₁.narrow hk)
    hr.epoch (he₁.narrow hk (by simpa using hr.epoch.total)))
    (fun u _ => (commits_checkpoint_active h₁.deployed (h₁.lifecycle.trans hl.lifecycle) hw₁
      hl.status hl.shares_pos u).mp) ?_
  refine .step (fits_pool_pending_rewards h₂.deployed.core h₂.deployed.bound hn₂)
    (fun x _ => (commits_pool_pending_rewards h₂.deployed x).mp) ?_
  exact .guard fun _ => (fits_assert_reserve_custody h₂.deployed.core hn₂).bind fun _ _ _ => spares

/-! ## Liquidity -/

theorem fits_add_liquidity [NamedAddresses] {max_rfl max_usd limit deadline : ℕ}
    (h : Launched e w) (hr : Roomy s e w) (ha : a ∈ s) :
    Fits (add_liquidity a max_rfl max_usd limit deadline) w := by
  have hd := h.deployed
  unfold add_liquidity pool.E_ZERO_AMOUNT pool.E_INSUFFICIENT_LIQUIDITY
    E_MAX_LIQUIDITY_CONTRIBUTION pool.E_MIN_OUTPUT E_NOT_PROPORTIONAL
  refine .check spares (fun u _ => (commits_assert_deadline u).mp) fun _ => .guard fun _ => ?_
  refine .step spares (fun x _ => (commits_pool_borrow_state hd x).mp) ?_
  refine .check spares (fun u _ => (commits_assert_pool_live h u).mp) fun hl => ?_
  refine .check spares (fun u _ => (commits_assert_valid_lp_owner u).mp) fun hown => ?_
  refine .effect (fits_checkpoint_settled h hl hr)
    (fun u _ => (commits_checkpoint_settled h hl u).mp) ?_
  have hnc : w.reflection.lifecycle ≠ .CONFIGURING := by simp [hl.lifecycle]
  obtain ⟨_, -, h₁⟩ := hd.rewarded hl.epoch a
  have hr₁ := hr.rewarded hd ha
  have hw₁ := h₁.epoch 1 hl.epoch
  have hl₁ := h₁.lifecycle.trans hl.lifecycle
  refine .effect (fits_materialize_lp_rewards hd hnc hl.epoch hl.status hr ha)
    (fun u _ => (commits_materialize_lp_rewards hd hnc hl.epoch hl.status hl.shares_pos u).mp) ?_
  refine .step spares (fun p _ => (commits_reserves h₁.deployed.core.supply p).mp) ?_
  refine .step spares (fun x _ => (commits_total_active_shares hw₁ x).mp) (.guard fun _ => ?_)
  refine .call spares fun p w₁ hc => ?_
  obtain ⟨-, -, -, -, rfl, rfl⟩ := (commits_liquidity_mint p).mp hc
  simp only [World.custody_shares_rewarded, World.usd_rewarded, LpEpoch.total_shares_rewarded]
  obtain ⟨x, hx⟩ : ∃ x, x = w.mintShares e max_rfl max_usd := ⟨_, rfl⟩
  have hsh : minted_shares max_rfl max_usd w.custody.custody_shares w.usd e.total_shares = x :=
    hx.symm
  have hru : ceil_div (x * w.custody.custody_shares) e.total_shares = w.rflUsed e x := rfl
  have huu : ceil_div (x * w.usd) e.total_shares = w.usdUsed e x := rfl
  rw [hsh, hru, huu]
  refine .guard fun _ => .guard fun hpos => .guard fun _ => ?_
  refine .call (fits_move_wallet_to_custody h₁.deployed.core h₁.deployed.bound hr₁.core)
    fun u w₁ hc => ?_
  obtain ⟨-, -, hwal, hfunds, rfl⟩ :=
    (commits_move_wallet_to_custody h₁.deployed.core h₁.deployed.bound u).mp hc
  -- Each payment is executed in the state that the one before it left.
  have hm := h₁.deployed.core.moved_provided hwal hfunds
  obtain ⟨_, -, h₂⟩ := h₁.deployed.moved hm (by simp)
  have hn₂ := hr₁.core.moved hm
  have hdeb := h₂.deployed.outside (.debit (n := w.usdUsed e x) (s := .primary .tusd a) rfl)
  have h₃ := h₂.deployed.outside (World.outside_usdIn _ a (w.usdUsed e x))
  have h₁₃ := (h₁.trans h₂).trans h₃
  have hw₃ := h₁₃.epoch 1 hl.epoch
  have hs₃ := h₁₃.status.trans hl.status
  refine .call spares fun usd w₁ hc => ?_
  obtain ⟨-, rfl, rfl⟩ := (commits_withdraw_tusd h₂.deployed usd).mp hc
  -- The deposit into the reserve has checked the width of what it leaves there.
  refine spares.bind fun u w₁ hc => ?_
  have hwidth := usd_of_deposit hc
  replace hc := (inferInstance : Sound .machine (mock_usd.deposit_to_pool _ _ _)).commits hc
  obtain ⟨-, rfl⟩ := (commits_deposit_to_pool hdeb.deployed u).mp hc
  change Fits _ (((w.rewarded e a).provided a (w.rflUsed e x)).usdIn a (w.usdUsed e x))
  have hn₃ : (((w.rewarded e a).provided a (w.rflUsed e x)).usdIn a (w.usdUsed e x)).Narrow :=
    ⟨hn₂.index, hn₂.fees, hn₂.remainder⟩
  have htotal : (e.rewarded a).total_shares + x ≤ 2 ^ 57 := by
    have hR := h₂.deployed.core.supply.balance_le .rfl_reserve rfl
    rw [← h₂.deployed.core.supply.custody, World.custody_shares_provided,
      World.custody_shares_rewarded] at hR
    have hU : ((w.rewarded e a).provided a (w.rflUsed e x)).usd = w.usd := by
      rw [hm.frame.usd, World.usd_rewarded]
    rw [World.usd_debit _ _ _ (by simp), hU] at hwidth
    rw [LpEpoch.total_shares_rewarded]
    have hworth := Worth.of_both (Worth.deposit w.custody.custody_shares x hl.shares_pos)
      (Worth.deposit w.usd x hl.shares_pos)
    exact shares_le_of_backed (hworth.backed hl.shares_pos hl.backed) hR hwidth
  refine .effect (fits_mint_active h₃.deployed.books hw₃ hr₁.epoch htotal)
    (fun u _ hc => ((commits_mint_active h₃.deployed.books hw₃ hs₃ u).mp hc).2) ?_
  have hx₃ : reflection_token.is_excluded_store
      (((w.rewarded e a).provided a (w.rflUsed e x)).usdIn a (w.usdUsed e x)).reflection
      (.primary .trfl a) = false := by
    rw [reflection_token.is_excluded_store, h₁₃.exclusions]
    exact hown.2.2.2.2
  have hx0 : 0 < x := by simpa [← hsh] using hpos.1
  have h₄ := h₃.deployed.lpMinted hw₃ hx0 hx₃
  have he₄ : ((ensure_position (e.rewarded a) a).minted a x).Narrow := by
    have hens := hr₁.epoch.ensure_position a
    have htot : (ensure_position (e.rewarded a) a).total_shares = (e.rewarded a).total_shares := by
      rw [(e.rewarded a).ensure_position_eq a]
    rw [← htot] at htotal
    exact ⟨htotal, hens.index, hens.remainder, hens.received⟩
  have hn₄ : ((((w.rewarded e a).provided a (w.rflUsed e x)).usdIn a (w.usdUsed e x)).lpMinted
      (e.rewarded a) a x).Narrow := ⟨hn₂.index, hn₂.fees, hn₂.remainder⟩
  refine .effect (fits_assert_epoch_backing h₄.deployed.books (h₄.epoch 1 hw₃) h₄.deployed.backed
    he₄) (fun u _ => (commits_assert_epoch_backing h₄.deployed.books (h₄.epoch 1 hw₃)
      h₄.deployed.backed (h₄.status.trans hs₃) u).mp) ?_
  exact (fits_assert_reserve_custody h₄.deployed.core hn₄).bind fun _ _ _ => spares

/-- The shares burned and both reserves paid out, whatever comes after. -/
theorem fits_paid_out [NamedAddresses] {β : Type} (h : Launched e w) (hl : Live e w)
    (hr : Roomy s e w) (ha : a ∈ s) (hn0 : 0 < n) (hown : n ≤ (e.position a).shares)
    (_hrp : 0 < w.rflShare e n) (f : ℕ × ℕ → Move β)
    (hf : Fits (f ((w.liquidityRemoved e a n).custody.custody_shares,
      (w.liquidityRemoved e a n).usd)) (w.liquidityRemoved e a n)) :
    Fits (do
      lp_rewards.burn_active (pool.deployed w.reflection.lifecycle).lp_cap a n
      reflection_token.move_custody_to_wallet (pool.deployed w.reflection.lifecycle).custody_cap
        (pool.deployed w.reflection.lifecycle).rfl_reserve a (w.rflShare e n)
      let usd ← mock_usd.withdraw_from_pool (pool.deployed w.reflection.lifecycle).usd_pool_cap
        (pool.deployed w.reflection.lifecycle).usd_reserve (w.usdShare e n)
      primary_fungible_store.deposit a usd
      assert_reserve_custody (pool.deployed w.reflection.lifecycle)
      let after ← reserves (pool.deployed w.reflection.lifecycle)
      lp_rewards.assert_epoch_backing (pool.deployed w.reflection.lifecycle).lp_cap 1
      f after) (w.rewarded e a) := by
  have hd := h.deployed
  have hle := hown.trans (hd.books.accounting.shares_le a)
  obtain ⟨hRle, hUle⟩ := Launched.share_le w e hle
  obtain ⟨_, -, h₁⟩ := hd.rewarded hl.epoch a
  have hr₁ := hr.rewarded hd ha
  have hw₁ := h₁.epoch 1 hl.epoch
  obtain ⟨_, -, h₂⟩ := h.stage_withdrawn hl hn0 hown
  have hm := h.moved_withdrawn hl hn0 hown
  obtain ⟨_, -, h₃⟩ := h₂.deployed.moved hm (by simp)
  have hdeb := h₃.deployed.outside (.debit (n := w.usdShare e n) (s := .usd_reserve) rfl)
  have h₄ : Stage [] [] _ _ _ (w.liquidityRemoved e a n) :=
    h₃.deployed.outside (World.outside_usdOut _ a (w.usdShare e n))
  have h₂₄ := (h₂.trans h₃).trans h₄
  refine .call (fits_burn_active h₁.deployed.books hw₁ h₁.deployed.backed hr₁.epoch
    (hle.trans hr.epoch.total)) fun u w₁ hc => ?_
  obtain ⟨-, -, -, -, rfl⟩ := (commits_burn_active h₁.deployed.books hw₁ h₁.deployed.backed
    (h₁.status.trans hl.status) u).mp hc
  have hcore := (w.rewarded e a).core_lpWithdrawn (e.rewarded a) a n
  have hn₂ := hr₁.core.congr hcore.1
  have hcard : (insert a ((w.rewarded e a).lpWithdrawn (e.rewarded a) a n).wallets).card
      < 2 ^ 64 := by
    rw [World.wallets, hcore.2]
    exact hr₁.card ha
  have hcs : ((w.rewarded e a).lpWithdrawn (e.rewarded a) a n).custody.custody_shares
      = w.custody.custody_shares := by
    rw [hcore.2, World.custody_shares_rewarded]
  refine .call (fits_move_custody_to_wallet h₂.deployed.core h₂.deployed.bound hn₂ hcard
    (hcs ▸ hRle)) fun u w₁ hc => ?_
  obtain ⟨-, -, -, -, rfl⟩ :=
    (commits_move_custody_to_wallet h₂.deployed.core h₂.deployed.bound u).mp hc
  have hn₃ := hn₂.moved hm
  refine .call spares fun usd w₁ hc => ?_
  obtain ⟨-, rfl, rfl⟩ := (commits_withdraw_from_pool h₃.deployed usd).mp hc
  refine .call spares fun u w₁ hc => ?_
  obtain ⟨-, rfl⟩ := (commits_deposit_tusd hdeb.deployed u).mp hc
  change Fits _ (w.liquidityRemoved e a n)
  refine .effect (fits_assert_reserve_custody h₄.deployed.core ⟨hn₃.index, hn₃.fees, hn₃.remainder⟩)
    (fun u _ => (commits_assert_reserve_custody h₄.deployed.core u).mp) ?_
  refine .step spares (fun p _ => (commits_reserves h₄.deployed.core.supply p).mp) ?_
  exact .effect (fits_assert_epoch_backing h₄.deployed.books (h₂₄.epoch 1 hl.epoch)
    h₄.deployed.backed hr₁.epoch.withdrawn) (fun u _ => (commits_assert_epoch_backing
      h₄.deployed.books (h₂₄.epoch 1 hl.epoch) h₄.deployed.backed
      (h₂₄.status.trans hl.status) u).mp) hf

theorem fits_shut_down {β : Type} {as : List (Act (Option Address))} {bs : List (Act Address)}
    {e' : LpEpoch} {w₁ : World} (hl : Live e w) (hst : Stage as bs e w e' w₁) (hn : w₁.Narrow)
    (he : e'.Narrow) (f : Unit → Move β) (hf : ∀ v, Fits (f ()) v) : Fits (do
      let pending ← reflection_token.pool_pending_rewards
      Tx.require (w₁.custody.custody_shares = 0 ∧ w₁.usd = 0 ∧ pending = 0)
        (.code .pool 13)
      lp_rewards.mark_active_claim_only (pool.deployed w.reflection.lifecycle).lp_cap
      reflection_token.close_pool (pool.deployed w.reflection.lifecycle).custody_cap
      let state : PoolState := { pool.deployed w.reflection.lifecycle with lifecycle := .CLOSED }
      Tx.update fun w₂ => { w₂ with pool := some state }
      f ()) w₁ := by
  have hd := hst.deployed
  have hw₁ := hst.epoch 1 hl.epoch
  have hc : Core (w₁.lpClosed e') := hd.core.congr rfl rfl rfl rfl rfl rfl rfl (fun _ _ => rfl) rfl
  have hb : Bound (w₁.lpClosed e') :=
    ⟨hd.bound.custody_registry, hd.bound.pool_store, hd.bound.pool_registered,
      hd.bound.registered⟩
  refine .step (fits_pool_pending_rewards hd.core hd.bound hn)
    (fun x _ => (commits_pool_pending_rewards hd x).mp) (.guard fun _ => ?_)
  refine .call (fits_mark_active_claim_only hd.books hw₁ hd.backed he) fun u w₂ h₂ => ?_
  obtain ⟨-, -, rfl⟩ := (commits_mark_active_claim_only hd.books hw₁ hd.backed u).mp h₂
  have hn₁ : (w₁.lpClosed e').Narrow := ⟨hn.index, hn.fees, hn.remainder⟩
  exact (fits_close_pool hc hb hn₁).bind fun _ w₃ _ => .write (hf _)

theorem fits_remove_liquidity [NamedAddresses] {min_rfl min_usd deadline : ℕ} (h : Launched e w)
    (hr : Roomy s e w) (ha : a ∈ s) : Fits (remove_liquidity a n min_rfl min_usd deadline) w := by
  have hd := h.deployed
  unfold remove_liquidity pool.E_ZERO_AMOUNT pool.E_INSUFFICIENT_LIQUIDITY pool.E_MIN_OUTPUT
    E_RESERVE_CUSTODY_MISMATCH
  refine .check spares (fun u _ => (commits_assert_deadline u).mp) fun _ => .guard fun hn0 => ?_
  refine .step spares (fun x _ => (commits_pool_borrow_state hd x).mp) ?_
  refine .check spares (fun u _ => (commits_assert_pool_live h u).mp) fun hl => ?_
  refine .effect (fits_checkpoint_settled h hl hr)
    (fun u _ => (commits_checkpoint_settled h hl u).mp) ?_
  refine .step spares (fun x _ => (commits_position_shares hl.epoch x).mp) (.guard fun hown => ?_)
  have hnc : w.reflection.lifecycle ≠ .CONFIGURING := by simp [hl.lifecycle]
  obtain ⟨_, -, h₁⟩ := hd.rewarded hl.epoch a
  have hr₁ := hr.rewarded hd ha
  have hw₁ := h₁.epoch 1 hl.epoch
  refine .effect (fits_materialize_lp_rewards hd hnc hl.epoch hl.status hr ha)
    (fun u _ => (commits_materialize_lp_rewards hd hnc hl.epoch hl.status hl.shares_pos u).mp) ?_
  refine .step spares (fun x _ => (commits_total_active_shares hw₁ x).mp) ?_
  refine .step spares (fun p _ => (commits_reserves h₁.deployed.core.supply p).mp) ?_
  simp only [World.custody_shares_rewarded, World.usd_rewarded, LpEpoch.total_shares_rewarded]
  obtain ⟨_, -, hst⟩ := h.stage_remove hl hn0 hown
  have hn₂ : (w.liquidityRemoved e a n).Narrow := by
    obtain ⟨_, -, h₂⟩ := h.stage_withdrawn hl hn0 hown
    have hn₁ := hr₁.core.congr ((w.rewarded e a).core_lpWithdrawn (e.rewarded a) a n).1
    have hn₂ := hn₁.moved (h.moved_withdrawn hl hn0 hown)
    exact ⟨hn₂.index, hn₂.fees, hn₂.remainder⟩
  -- The last shares take the whole of both reserves, and the pool is closed behind them.
  by_cases hall : n = e.total_shares
  · have hR : w.custody.custody_shares = w.rflShare e n := (if_pos hall).symm
    have hU : w.usd = w.usdShare e n := (if_pos hall).symm
    simp only [if_pos hall]
    rw [hR, hU]
    refine .step spares (fun p v => (commits_pure _ p _ _ v).mp) ?_
    refine .guard fun hpos => .guard fun _ => ?_
    refine fits_paid_out h hl hr ha hn0 hown hpos.1 (fun after => do
      let pending ← reflection_token.pool_pending_rewards
      Tx.require (after.1 = 0 ∧ after.2 = 0 ∧ pending = 0) (.code .pool 13)
      lp_rewards.mark_active_claim_only (pool.deployed w.reflection.lifecycle).lp_cap
      reflection_token.close_pool (pool.deployed w.reflection.lifecycle).custody_cap
      let state : PoolState := { pool.deployed w.reflection.lifecycle with lifecycle := .CLOSED }
      Tx.update fun w₂ => { w₂ with pool := some state }
      emit (.PoolLifecycleChanged .LIVE .CLOSED)
      let r ← emit (.PoolClosed a 1 n (w.rflShare e n) (w.usdShare e n) after.1 after.2)
      emit (.LiquidityRemoved 1 a (w.rflShare e n) (w.usdShare e n) n
        (decide (n = e.total_shares)) after.1 after.2)) ?_
    generalize w.liquidityRemoved e a n = v at hst hn₂ ⊢
    exact fits_shut_down hl hst hn₂ hr₁.epoch.withdrawn (fun _ => do
      emit (.PoolLifecycleChanged .LIVE .CLOSED)
      let r ← emit (.PoolClosed a 1 n (w.rflShare e n) (w.usdShare e n) v.custody.custody_shares
        v.usd)
      emit (.LiquidityRemoved 1 a (w.rflShare e n) (w.usdShare e n) n
        (decide (n = e.total_shares)) v.custody.custody_shares v.usd)) fun _ => spares
  · have hlt : n < e.total_shares :=
      lt_of_le_of_ne (hown.trans (hd.books.accounting.shares_le a)) hall
    have hR : n * w.custody.custody_shares / e.total_shares = w.rflShare e n := (if_neg hall).symm
    have hU : n * w.usd / e.total_shares = w.usdShare e n := (if_neg hall).symm
    simp only [if_neg hall]
    refine .call spares fun p w₁ hc => ?_
    obtain ⟨-, -, rfl, rfl⟩ := (commits_liquidity_withdrawal hn0 hlt p).mp hc
    rw [hR, hU]
    refine .guard fun hpos => .guard fun _ => ?_
    exact fits_paid_out h hl hr ha hn0 hown hpos.1 (fun after =>
      emit (.LiquidityRemoved 1 a (w.rflShare e n) (w.usdShare e n) n
        (decide (n = e.total_shares)) after.1 after.2)) spares

/-! ## LP ownership -/

theorem fits_transfer_lp_shares [NamedAddresses] (h : Launched e w) (hr : Roomy s e w)
    (ha : a ∈ s) (hb : b ∈ s) (hn : n ≤ 2 ^ 57) : Fits (transfer_lp_shares a b n) w := by
  have hd := h.deployed
  unfold transfer_lp_shares E_INVALID_RECIPIENT
  refine .guard fun hab => ?_
  refine .step spares (fun x _ => (commits_pool_borrow_state hd x).mp) ?_
  refine .check spares (fun u _ => (commits_assert_pool_live h u).mp) fun hl => ?_
  refine .check spares (fun u _ => (commits_assert_valid_lp_owner u).mp) fun hown => ?_
  refine .effect (fits_checkpoint_settled h hl hr)
    (fun u _ => (commits_checkpoint_settled h hl u).mp) ?_
  have hnc : w.reflection.lifecycle ≠ .CONFIGURING := by simp [hl.lifecycle]
  obtain ⟨_, -, h₁⟩ := hd.rewarded hl.epoch a
  have hr₁ := hr.rewarded hd ha
  have hw₁ := h₁.epoch 1 hl.epoch
  have hs₁ := h₁.status.trans hl.status
  have hnc₁ : (w.rewarded e a).reflection.lifecycle ≠ .CONFIGURING := by
    rw [h₁.lifecycle]
    exact hnc
  have hT₁ : 0 < (e.rewarded a).total_shares := by simpa using hl.shares_pos
  obtain ⟨_, -, h₂⟩ := h₁.deployed.rewarded hw₁ b
  have hr₂ := hr₁.rewarded h₁.deployed hb
  have hw₂ := h₂.epoch 1 hw₁
  have hs₂ := h₂.status.trans hs₁
  refine .effect (fits_materialize_lp_rewards hd hnc hl.epoch hl.status hr ha)
    (fun u _ => (commits_materialize_lp_rewards hd hnc hl.epoch hl.status hl.shares_pos u).mp) ?_
  refine .effect (fits_materialize_lp_rewards h₁.deployed hnc₁ hw₁ hs₁ hr₁ hb)
    (fun u _ => (commits_materialize_lp_rewards h₁.deployed hnc₁ hw₁ hs₁ hT₁ u).mp) ?_
  refine .call (fits_transfer_active h₂.deployed.books hw₂ h₂.deployed.backed hr₂.epoch hab.2 hn)
    fun u w₁ hc => ?_
  obtain ⟨hn0, -, hsh, -, rfl⟩ :=
    (commits_transfer_active h₂.deployed.books hw₂ h₂.deployed.backed hs₂ hab.2 u).mp hc
  have hp : ((e.rewarded a).rewarded b).pending a = 0 := by
    rw [LpEpoch.pending_rewarded h₁.deployed.books.accounting, if_neg hab.2.symm,
      LpEpoch.pending_rewarded hd.books.accounting, if_pos rfl]
  have hx : reflection_token.is_excluded_store
      ((w.rewarded e a).rewarded (e.rewarded a) b).reflection (.primary .trfl b) = false := by
    rw [reflection_token.is_excluded_store, (h₁.trans h₂).exclusions]
    exact hown.2.2.2.2
  have h₃ : Stage _ _ _ _ _ (w.sharesTransferred e a b n) :=
    h₂.deployed.lpTransferred hw₂ hab.2 hn0 hsh hp hx
  exact fits_backing h₃.deployed (h₃.epoch 1 hw₂) (h₃.status.trans hs₂)
    (hr₂.core.congr (World.core_lpTransferred _ _ a b n).1)
    (hr₂.epoch.transferred (hsh.trans (h₂.deployed.books.accounting.shares_le a)))

theorem fits_checkpoint_lp_rewards (h : Launched e w) (hr : Roomy s e w) :
    Fits checkpoint_lp_rewards w := by
  unfold checkpoint_lp_rewards
  refine .step spares (fun x _ => (commits_pool_borrow_state h.deployed x).mp) ?_
  exact .check spares (fun u _ => (commits_assert_pool_live h u).mp) fun hl =>
    fits_checkpoint_settled h hl hr

/-- The claim itself. In a closed pool nothing is pending, so that it stops there. -/
theorem fits_lp_claim [NamedAddresses] {epoch : ℕ} (h : Launched e w) (hr : Roomy s e w)
    (ha : a ∈ s) : Fits (do
      let claimed ← lp_rewards.prepare_claim lp_rewards.deployed_cap epoch a n
      let vault ← lp_rewards.reward_vault epoch
      reflection_token.payout_lp_reward_to custody_registry.deployed_cap a epoch vault claimed
      lp_rewards.assert_epoch_backing lp_rewards.deployed_cap epoch
      reflection_token.assert_accounting_backing) w := by
  have hd := h.deployed
  rcases h.phase with hl | hc
  · refine .call (fits_prepare_claim hd.books hl.epoch hd.backed hr.epoch) fun x w₁ h₁ => ?_
    obtain ⟨rfl, -, -, -, hx0, hxp, rfl⟩ :=
      (commits_prepare_claim hd.books hl.epoch hd.backed).mp h₁
    have hw₁ : Epoch 1 (e.paid a x) (w.lpPaid e a x 1) := rfl
    refine .call spares fun v w₂ h₂ => ?_
    obtain ⟨-, rfl, rfl⟩ := (commits_reward_vault (hd.books.step_paid hx0 hxp).books hw₁ 1 v).mp h₂
    exact fits_lp_payout hd (by simp [hl.lifecycle]) hl.epoch hl.status hx0 hxp hr ha
  · have hp : e.pending a = 0 := by
      have hsh := hd.books.accounting.shares_le a
      rw [hc.shares_zero] at hsh
      exact LpEpoch.pending_idle hd.books (Nat.le_zero.mp hsh)
    refine .call (fits_prepare_claim hd.books hc.epoch hd.backed hr.epoch) fun x w₁ h₁ => ?_
    obtain ⟨-, -, -, -, hx0, hxp, -⟩ :=
      (commits_prepare_claim hd.books hc.epoch hd.backed).mp h₁
    omega

theorem fits_claim_lp_rewards [NamedAddresses] {epoch : ℕ} (h : Launched e w) (hr : Roomy s e w)
    (ha : a ∈ s) : Fits (claim_lp_rewards a epoch n) w := by
  unfold claim_lp_rewards
  refine .step spares (fun x _ => (commits_pool_borrow_state h.deployed x).mp) ?_
  refine avoids_ite (fun hlive => ?_) fun _ => fits_lp_claim h hr ha
  have hl : Live e w := by
    rcases h.phase with hl | hc
    · exact hl
    · have hclosed := hlive.1
      rw [pool.deployed_lifecycle, hc.lifecycle] at hclosed
      cases hclosed
  exact .effect (fits_checkpoint_settled h hl hr)
    (fun u _ => (commits_checkpoint_settled h hl u).mp) (fits_lp_claim h hr ha)

/-! ## The dispatcher and the faucet -/

theorem fits_withdraw [NamedAddresses] {owner store : Address} (h : Core w) (hn : w.Narrow) :
    Fits (dispatchable_fungible_asset.withdraw owner store n) w := by
  unfold dispatchable_fungible_asset.withdraw
  refine .check spares (fun u _ => (commits_withdraw_sanity_check u).mp) fun _ => ?_
  exact avoids_ite (fun _ => fits_withdraw_hook_impl h hn) fun _ => spares

theorem fits_deposit [NamedAddresses] {store : Address} {asset : FungibleAsset} (h : Core w)
    (hn : w.Narrow) (hcard : (insert store.owner w.wallets).card < 2 ^ 64) :
    Fits (dispatchable_fungible_asset.deposit store asset) w := by
  unfold dispatchable_fungible_asset.deposit
  refine .check spares (fun u _ => (commits_deposit_sanity_check u).mp) fun _ => ?_
  exact avoids_ite (fun _ => fits_deposit_hook_impl h hn hcard) fun _ => spares

theorem fits_transfer [NamedAddresses] (h : Launched e w) (hr : Roomy s e w) (hb : b ∈ s) :
    Fits (reflection_router.transfer a b n) w := by
  have hd := h.deployed
  have hcard := hr.card hb
  have hdeposit : ∀ {v : World} (asset : FungibleAsset), Core v → v.Narrow →
      v.wallets = w.wallets → Fits (primary_fungible_store.deposit b asset) v := by
    intro v asset hc hn hv
    refine fits_deposit hc hn ?_
    rw [hv]
    exact hcard
  unfold reflection_router.transfer primary_fungible_store.transfer
    primary_fungible_store.withdraw
  refine .bind (.call (fits_withdraw hd.core hr.core) fun asset w₁ hw => ?_) fun _ _ _ => spares
  obtain ⟨-, ⟨c, hc, -, hf, rfl⟩ | rfl | ⟨hu, -, -⟩⟩ := commits_withdraw h asset hw
  · have hm := hd.core.moved_sent hc hf
    refine hdeposit asset hm.core (hr.core.moved hm) ?_
    show (w.materializedAll c false .TRANSFER_SEND).wallets = w.wallets
    exact World.wallets_materializedAll w c false _
  · exact hdeposit asset hd.core hr.core rfl
  · cases hu

theorem fits_claim_trfl [NamedAddresses] (h : Core w) (hn : w.Narrow)
    (hcard : (insert a w.wallets).card < 2 ^ 64) : Fits (test_faucet.claim_trfl a) w := by
  unfold test_faucet.claim_trfl test_faucet.write_faucet
  refine .check spares (fun u _ => (commits_assert_open u).mp) fun _ => ?_
  refine .call spares fun f w₁ h₁ => ?_
  simp only [test_faucet.borrow_faucet, commits_bind, commits_gets, commits_expect, and_assoc,
    exists_and_left, exists_eq_left] at h₁
  obtain ⟨-, rfl⟩ := h₁
  refine .call spares fun claims w₂ h₂ => ?_
  obtain ⟨-, -, rfl⟩ := (commits_assert_available _ claims).mp h₂
  have hc : Core { w₂ with faucet := some { f with last_trfl_claim := claims } } :=
    h.congr rfl rfl rfl rfl rfl rfl rfl (fun _ _ => rfl) rfl
  exact .write (fits_faucet_grant hc ⟨hn.index, hn.fees, hn.remainder⟩ hcard)

end Tx

end CedraReflect
