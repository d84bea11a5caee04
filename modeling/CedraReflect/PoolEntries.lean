/-
The liquidity entries of the pool, as equivalences.

Like the swaps: on the left the entry, on the right what it asks for and what
it leaves. The checkpoints, the reserve and backing assertions and the terminal
checks of the last withdrawal are consequences of the invariant.
-/
import CedraReflect.PoolLiquidity

set_option autoImplicit false
set_option linter.constructorNameAsVariable false

namespace CedraReflect.Tx

open reflection_math (MAGNITUDE)
open reflection_token (TOTAL_SUPPLY is_excluded_store)
open reflection_settlement (minted_shares ceil_div MAX_U64 MAX_U128)
open lp_rewards (ensure_position)
open pool

variable {w w' : World} {a b : Address} {n min_rfl min_usd limit deadline : ℕ} {e : LpEpoch}

/-- No asset is charged more than its maximum. -/
theorem used_le (max_rfl max_usd R U : ℕ) {T : ℕ} (hT : 0 < T) :
    ceil_div (minted_shares max_rfl max_usd R U T * R) T ≤ max_rfl
      ∧ ceil_div (minted_shares max_rfl max_usd R U T * U) T ≤ max_usd := by
  have hceil : ∀ a m : ℕ, a ≤ m * T → ceil_div a T ≤ m := by
    intro a m ha
    unfold ceil_div
    split
    · exact Nat.zero_le m
    · have : (a - 1) / T < m := by
        rw [Nat.div_lt_iff_lt_mul hT]
        omega
      omega
  unfold minted_shares
  constructor
  · refine hceil _ _ ((Nat.mul_le_mul_right R (min_le_left _ _)).trans ?_)
    exact Nat.div_mul_le_self _ _
  · refine hceil _ _ ((Nat.mul_le_mul_right U (min_le_right _ _)).trans ?_)
    exact Nat.div_mul_le_self _ _

theorem ceil_div_pos {x T : ℕ} (hx : 0 < x) : 0 < ceil_div x T := by
  unfold ceil_div
  rw [if_neg hx.ne']
  exact Nat.succ_pos _

/-- **`add_liquidity`.** -/
theorem commits_add_liquidity [NamedAddresses] {max_rfl max_usd : ℕ} (h : Launched e w)
    (u : Unit) :
    Commits (add_liquidity a max_rfl max_usd limit deadline) .ideal w u w' ↔
      Adds e w a max_rfl max_usd limit deadline
        ∧ w' = w.liquidityAdded e a (w.mintShares e max_rfl max_usd) := by
  have hd := h.deployed
  simp only [add_liquidity, commits_bind, commits_assert_deadline, commits_require,
    commits_pool_borrow_state hd, commits_assert_pool_live h, commits_assert_valid_lp_owner,
    adds_iff, and_assoc, exists_and_left, exists_eq_left, exists_const]
  refine and_congr_right fun hdl => and_congr_right fun hmr => and_congr_right fun hmu =>
    and_congr_right fun hl => and_congr_right fun hz => and_congr_right fun hoc =>
    and_congr_right fun hoa => and_congr_right fun hom => and_congr_right fun hel => ?_
  have hnc : w.reflection.lifecycle ≠ .CONFIGURING := by simp [hl.lifecycle]
  obtain ⟨_, -, h₁⟩ := hd.rewarded hl.epoch a
  have hw₁ := h₁.epoch 1 hl.epoch
  have hl₁ := h₁.lifecycle.trans hl.lifecycle
  -- What the shares cost is at most what was offered of either token.
  obtain ⟨huR, huU⟩ := used_le max_rfl max_usd w.custody.custody_shares w.usd hl.shares_pos
  obtain ⟨s, hs⟩ : ∃ s, s = w.mintShares e max_rfl max_usd := ⟨_, rfl⟩
  have hsh : minted_shares max_rfl max_usd w.custody.custody_shares w.usd e.total_shares = s :=
    hs.symm
  have hru : ceil_div (s * w.custody.custody_shares) e.total_shares = w.rflUsed e s := rfl
  have huu : ceil_div (s * w.usd) e.total_shares = w.usdUsed e s := rfl
  rw [hsh, hru] at huR
  rw [hsh, huu] at huU
  rw [← hs]
  simp only [commits_checkpoint_settled h hl,
    commits_materialize_lp_rewards hd hnc hl.epoch hl.status hl.shares_pos,
    commits_reserves h₁.deployed.core.supply, commits_total_active_shares hw₁,
    World.custody_shares_rewarded, World.usd_rewarded, LpEpoch.total_shares_rewarded,
    commits_liquidity_mint, hl.rfl_pos, hl.usd_pos, hl.shares_pos, hsh, hru, huu, huR, huU,
    and_assoc, exists_and_left, exists_eq_left, exists_const, true_and]
  refine and_congr_right fun hwid => ?_
  refine Iff.trans ⟨fun hh => hh.2.2, fun hh => ⟨hh.1.trans (by decide), hh.2.1.trans (by decide),
    hh⟩⟩ ?_
  refine and_congr_right fun hcR => and_congr_right fun hcU => and_congr_right fun hsp =>
    and_congr_right fun hmin => ?_
  have hrp : 0 < w.rflUsed e s := ceil_div_pos (Nat.mul_pos hsp hl.rfl_pos)
  have hup : 0 < w.usdUsed e s := ceil_div_pos (Nat.mul_pos hsp hl.usd_pos)
  rw [and_iff_right hrp, and_iff_right hup]
  simp only [pool.deployed_custody_cap, pool.deployed_rfl_reserve,
    commits_move_wallet_to_custody h₁.deployed.core h₁.deployed.bound, hl₁, and_assoc,
    exists_and_left, exists_eq_left, exists_const, true_and]
  rw [and_iff_right hrp]
  refine and_congr_right fun hwal => and_congr_right fun hfunds => ?_
  -- Each payment is executed in the state that the one before it left.
  have hm := h₁.deployed.core.moved_provided hwal hfunds
  obtain ⟨_, -, h₂⟩ := h₁.deployed.moved hm (by simp)
  have hdeb := h₂.deployed.outside (.debit (n := w.usdUsed e s) (s := .primary .tusd a) rfl)
  have h₃ := h₂.deployed.outside (World.outside_usdIn _ a (w.usdUsed e s))
  have h₁₃ := (h₁.trans h₂).trans h₃
  have hw₃ := h₁₃.epoch 1 hl.epoch
  have hs₃ := h₁₃.status.trans hl.status
  have h₄ := h₃.deployed.lpMinted hw₃ hsp
    (by rw [is_excluded_store, h₁₃.exclusions]; exact hel)
  have hbal : ((w.rewarded e a).provided a (w.rflUsed e s)).balance (.primary .tusd a)
      = w.balance (.primary .tusd a) := by
    rw [hm.frame.tusd _ (by simp [Address.store_metadata]),
      w.tusd_rewarded e a (by simp [Address.store_metadata])]
  simp only [commits_withdraw_tusd h₂.deployed, hbal, pool.deployed_usd_pool_cap,
    pool.deployed_usd_reserve, commits_deposit_to_pool hdeb.deployed, World.debit_in_flight,
    Function.update_self, le_add_iff_nonneg_left, zero_le, pool.deployed_lp_cap, and_assoc,
    exists_and_left, exists_eq_left, exists_const, true_and]
  refine and_congr_right fun hufunds => ?_
  change (∃ x y, Commits (lp_rewards.mint_active lp_rewards.deployed_cap a s) .ideal
    (((w.rewarded e a).provided a (w.rflUsed e s)).usdIn a (w.usdUsed e s)) x y ∧ _) ↔ _
  simp only [commits_mint_active h₃.deployed.books hw₃ hs₃, hsp,
    commits_assert_epoch_backing h₄.deployed.books (h₄.epoch 1 hw₃) h₄.deployed.backed
      (h₄.status.trans hs₃), commits_assert_reserve_custody h₄.deployed.core,
    commits_reserves h₄.deployed.core.supply, commits_emit, and_assoc, exists_and_left,
    exists_eq_left, exists_const, true_and]
  rfl

/-! ### Withdrawals -/

theorem commits_require_bind {β : Type} (p : Prop) [Decidable p] (c : Abort) (f : Unit → Move β)
    (x : β) : Commits (Tx.require p c >>= f) .ideal w x w' ↔ p ∧ Commits (f ()) .ideal w x w' := by
  simp only [commits_bind, commits_require, and_assoc, exists_and_left, exists_eq_left]
  refine and_congr_right fun _ => ?_
  constructor
  · rintro ⟨_, hf⟩
    exact hf
  · exact fun hf => ⟨(), hf⟩

/-- The shares burned and both reserves paid out, whatever comes after. -/
theorem commits_paid_out [NamedAddresses] {β : Type} (w' : World) (h : Launched e w) (hl : Live e w)
    (hn0 : 0 < n) (hown : n ≤ (e.position a).shares) (hrp : 0 < w.rflShare e n)
    (f : ℕ × ℕ → Move β) (x : β) :
    Commits (do
        lp_rewards.burn_active (pool.deployed w.reflection.lifecycle).lp_cap a n
        reflection_token.move_custody_to_wallet (pool.deployed w.reflection.lifecycle).custody_cap
          (pool.deployed w.reflection.lifecycle).rfl_reserve a (w.rflShare e n)
        let usd ← mock_usd.withdraw_from_pool (pool.deployed w.reflection.lifecycle).usd_pool_cap
          (pool.deployed w.reflection.lifecycle).usd_reserve (w.usdShare e n)
        primary_fungible_store.deposit a usd
        assert_reserve_custody (pool.deployed w.reflection.lifecycle)
        let after ← reserves (pool.deployed w.reflection.lifecycle)
        lp_rewards.assert_epoch_backing (pool.deployed w.reflection.lifecycle).lp_cap 1
        f after) .ideal (w.rewarded e a) x w' ↔
      Commits (f ((w.liquidityRemoved e a n).custody.custody_shares,
        (w.liquidityRemoved e a n).usd)) .ideal (w.liquidityRemoved e a n) x w' := by
  have hd := h.deployed
  have hle := hown.trans (hd.books.accounting.shares_le a)
  obtain ⟨hRle, hUle⟩ := Launched.share_le w e hle
  obtain ⟨_, -, h₁⟩ := hd.rewarded hl.epoch a
  have hw₁ := h₁.epoch 1 hl.epoch
  have hp₁ : (e.rewarded a).pending a = 0 := by
    rw [LpEpoch.pending_rewarded hd.books.accounting, if_pos rfl]
  -- The shares are burned first, and then tRFL and tUSD are paid out.
  obtain ⟨_, -, h₂⟩ := h.stage_withdrawn hl hn0 hown
  have hw₂ := h₂.epoch 1 hl.epoch
  have hx₂ : is_excluded_store ((w.rewarded e a).lpWithdrawn (e.rewarded a) a n).reflection
      (.primary .trfl a) = false := by
    rw [is_excluded_store, h₂.exclusions]
    exact hd.owners a (Launched.mem_of_owned hn0 hown)
  have hm := h.moved_withdrawn hl hn0 hown
  obtain ⟨_, -, h₃⟩ := h₂.deployed.moved hm (by simp)
  have hdeb := h₃.deployed.outside (.debit (n := w.usdShare e n) (s := .usd_reserve) rfl)
  have h₄ : Stage [] [] _ _ _ (w.liquidityRemoved e a n) :=
    h₃.deployed.outside (World.outside_usdOut _ a (w.usdShare e n))
  have h₂₄ := (h₂.trans h₃).trans h₄
  have husd : w.usdShare e n
      ≤ (((w.rewarded e a).lpWithdrawn (e.rewarded a) a n).released a (w.rflShare e n)).usd := by
    rw [hm.frame.usd]
    simpa using hUle
  simp only [commits_bind, pool.deployed_lp_cap, pool.deployed_custody_cap,
    pool.deployed_rfl_reserve, pool.deployed_usd_pool_cap, pool.deployed_usd_reserve,
    commits_burn_active h₁.deployed.books hw₁ h₁.deployed.backed (h₁.status.trans hl.status),
    LpEpoch.shares_rewarded, LpEpoch.total_shares_rewarded, hl.shares_pos, hn0, hown, hp₁,
    implies_true, and_assoc, exists_and_left, exists_eq_left, exists_const, true_and,
    commits_move_custody_to_wallet h₂.deployed.core h₂.deployed.bound, hrp, hx₂,
    h₂.lifecycle.trans hl.lifecycle, World.custody_shares_lpWithdrawn,
    World.custody_shares_rewarded, hRle, commits_withdraw_from_pool h₃.deployed, husd,
    commits_deposit_tusd hdeb.deployed, World.debit_in_flight, Function.update_self,
    le_add_iff_nonneg_left, zero_le]
  change (∃ y s, Commits _ _ (w.liquidityRemoved e a n) y s ∧ _) ↔ _
  simp only [commits_assert_reserve_custody h₄.deployed.core,
    commits_reserves h₄.deployed.core.supply,
    commits_assert_epoch_backing h₄.deployed.books (h₂₄.epoch 1 hl.epoch) h₄.deployed.backed
      (h₂₄.status.trans hl.status), and_assoc, exists_and_left, exists_eq_left, exists_const]

/-- **The closing of the pool.** All its terminal checks hold of an empty pool
that is owed nothing. -/
theorem commits_shut_down {β : Type} {as : List (Dividend.Act (Option Address))}
    {bs : List (Dividend.Act Address)} {e' : LpEpoch} {w₁ : World} (hl : Live e w)
    (hst : Stage as bs e w e' w₁) (hR : w₁.custody.custody_shares = 0) (hU : w₁.usd = 0)
    (hT : e'.total_shares = 0) (hp : w₁.pending none = 0) (f : Unit → Move β) (x : β) :
    Commits (do
        let pending ← reflection_token.pool_pending_rewards
        Tx.require (w₁.custody.custody_shares = 0 ∧ w₁.usd = 0 ∧ pending = 0)
          E_RESERVE_CUSTODY_MISMATCH
        lp_rewards.mark_active_claim_only (pool.deployed w.reflection.lifecycle).lp_cap
        reflection_token.close_pool (pool.deployed w.reflection.lifecycle).custody_cap
        let state : PoolState := { pool.deployed w.reflection.lifecycle with lifecycle := .CLOSED }
        Tx.update fun w₂ => { w₂ with pool := some state }
        f ()) .ideal w₁ x w' ↔
      Commits (f ()) .ideal (w₁.shutDown e') x w' := by
  have hd := hst.deployed
  have hw₁ := hst.epoch 1 hl.epoch
  have hc : Core (w₁.lpClosed e') := hd.core.congr rfl rfl rfl rfl rfl rfl rfl (fun _ _ => rfl) rfl
  have hb : Bound (w₁.lpClosed e') :=
    ⟨hd.bound.custody_registry, hd.bound.pool_store, hd.bound.pool_registered,
      hd.bound.registered⟩
  have hl₁ : (w₁.lpClosed e').reflection.lifecycle = .LIVE := hst.lifecycle.trans hl.lifecycle
  -- Marking the epoch changes nothing that the core reads.
  have hR₁ : (w₁.lpClosed e').custody.custody_shares = 0 := hR
  have hp₁ : (w₁.lpClosed e').pending none = 0 := hp
  simp only [commits_bind, commits_pool_pending_rewards hd, hR, hU, hp, commits_require,
    pool.deployed_lp_cap, pool.deployed_custody_cap,
    commits_mark_active_claim_only hd.books hw₁ hd.backed, hst.status.trans hl.status, hT,
    commits_close_pool hc hb, hl₁, hR₁, hp₁, commits_update, and_assoc, exists_and_left,
    exists_eq_left, exists_const, true_and]
  rfl

/-- **`remove_liquidity`**, of some shares or of all. -/
theorem commits_remove_liquidity [NamedAddresses] (h : Launched e w) (u : Unit) :
    Commits (remove_liquidity a n min_rfl min_usd deadline) .ideal w u w' ↔
      Removes e w a n min_rfl min_usd deadline
        ∧ w' = if n = e.total_shares then w.removedAll e a n else w.removedPart e a n := by
  have hd := h.deployed
  simp only [remove_liquidity, commits_bind, commits_assert_deadline, commits_require,
    commits_pool_borrow_state hd, commits_assert_pool_live h, removes_iff, and_assoc,
    exists_and_left, exists_eq_left, exists_const]
  refine and_congr_right fun hdl => and_congr_right fun hn0 => and_congr_right fun hl => ?_
  have hnc : w.reflection.lifecycle ≠ .CONFIGURING := by simp [hl.lifecycle]
  obtain ⟨_, -, h₁⟩ := hd.rewarded hl.epoch a
  have hw₁ := h₁.epoch 1 hl.epoch
  simp only [commits_checkpoint_settled h hl, commits_position_shares hl.epoch,
    commits_materialize_lp_rewards hd hnc hl.epoch hl.status hl.shares_pos,
    commits_reserves h₁.deployed.core.supply, commits_total_active_shares hw₁,
    World.custody_shares_rewarded, World.usd_rewarded, LpEpoch.total_shares_rewarded,
    and_assoc, exists_and_left, exists_eq_left, exists_const]
  refine and_congr_right fun hown => ?_
  have hpaid := fun hrp (f : ℕ × ℕ → Move Unit) x =>
    commits_paid_out w' h hl hn0 hown hrp f x
  obtain ⟨_, -, hst⟩ := h.stage_remove hl hn0 hown
  -- The last shares take the whole of both reserves, and the pool is closed behind them.
  by_cases hall : n = e.total_shares
  · have hR : w.custody.custody_shares = w.rflShare e n := (if_pos hall).symm
    have hU : w.usd = w.usdShare e n := (if_pos hall).symm
    have hem := h.emptied hl (hall ▸ hown)
    rw [← hall] at hem
    simp only [if_pos hall, pure_bind, commits_require_bind, hR, hU, and_assoc]
    rw [and_iff_right (fun hne => absurd hall hne)]
    refine and_congr_right fun hrp => and_congr_right fun hup => and_congr_right fun hmr =>
      and_congr_right fun hmu => ?_
    refine (hpaid hrp _ u).trans ?_
    have hend : w.removedAll e a n = ((((w.liquidityRemoved e a n).shutDown
          ((e.rewarded a).withdrawn a n)).logged (.PoolLifecycleChanged .LIVE .CLOSED)).logged
        (.PoolClosed a 1 n (w.rflShare e n) (w.usdShare e n)
          (w.liquidityRemoved e a n).custody.custody_shares (w.liquidityRemoved e a n).usd)).logged
      (.LiquidityRemoved 1 a (w.rflShare e n) (w.usdShare e n) n true
        (w.liquidityRemoved e a n).custody.custody_shares (w.liquidityRemoved e a n).usd) := rfl
    rw [hend]
    obtain ⟨v, hv⟩ : ∃ v, v = w.liquidityRemoved e a n := ⟨_, rfl⟩
    rw [← hv] at hst hem ⊢
    refine (commits_shut_down hl hst hem.1 hem.2.1 hem.2.2.1 hem.2.2.2 (fun _ => do
      emit (.PoolLifecycleChanged .LIVE .CLOSED)
      emit (.PoolClosed a 1 n (w.rflShare e n) (w.usdShare e n) v.custody.custody_shares v.usd)
      emit (.LiquidityRemoved 1 a (w.rflShare e n) (w.usdShare e n) n
        (decide (n = e.total_shares)) v.custody.custody_shares v.usd)) u).trans ?_
    simp only [commits_bind, commits_emit, exists_eq_left, exists_const, hall, decide_true]
    rfl
  · have hlt : n < e.total_shares :=
      lt_of_le_of_ne (hown.trans (hd.books.accounting.shares_le a)) hall
    have hR : n * w.custody.custody_shares / e.total_shares = w.rflShare e n := (if_neg hall).symm
    have hU : n * w.usd / e.total_shares = w.usdShare e n := (if_neg hall).symm
    have hwR : w.rflShare e n ≤ MAX_U64 := by
      have h₁ := (Launched.share_le w e hlt.le).1
      have h₂ := hd.custody_lt
      unfold MAX_U64
      omega
    rw [if_neg hall]
    rw [commits_bind]
    simp only [commits_liquidity_withdrawal hn0 hlt, hR, hU, hwR, hall, if_false, and_assoc,
      exists_and_left, exists_eq_left, commits_require_bind, true_and, ne_eq,
      not_false_eq_true, forall_const]
    refine and_congr_right fun hwid => and_congr_right fun hrp => and_congr_right fun hup =>
      and_congr_right fun hmr => and_congr_right fun hmu => ?_
    refine (hpaid hrp _ u).trans ?_
    simp only [commits_emit, decide_false]
    rfl

/-! ### LP ownership -/

/-- **`transfer_lp_shares`.** -/
theorem commits_transfer_lp_shares [NamedAddresses] (h : Launched e w) (u : Unit) :
    Commits (transfer_lp_shares a b n) .ideal w u w' ↔
      TransfersShares e w a b n ∧ w' = w.sharesTransferred e a b n := by
  have hd := h.deployed
  simp only [transfer_lp_shares, commits_bind, commits_require, commits_pool_borrow_state hd,
    commits_assert_pool_live h, commits_assert_valid_lp_owner, transfersShares_iff, and_assoc,
    exists_and_left, exists_eq_left, exists_const]
  refine and_congr_right fun hn0 => and_congr_right fun hab => and_congr_right fun hl =>
    and_congr_right fun hz => and_congr_right fun hoc => and_congr_right fun hoa =>
    and_congr_right fun hom => and_congr_right fun hel => ?_
  have hnc : w.reflection.lifecycle ≠ .CONFIGURING := by simp [hl.lifecycle]
  obtain ⟨_, -, h₁⟩ := hd.rewarded hl.epoch a
  have hw₁ := h₁.epoch 1 hl.epoch
  have hs₁ := h₁.status.trans hl.status
  have hnc₁ : (w.rewarded e a).reflection.lifecycle ≠ .CONFIGURING := by
    rw [h₁.lifecycle]
    exact hnc
  obtain ⟨_, -, h₂⟩ := h₁.deployed.rewarded hw₁ b
  have hw₂ := h₂.epoch 1 hw₁
  have hs₂ := h₂.status.trans hs₁
  have hp : ((e.rewarded a).rewarded b).pending a = 0 := by
    rw [LpEpoch.pending_rewarded h₁.deployed.books.accounting, if_neg hab.symm,
      LpEpoch.pending_rewarded hd.books.accounting, if_pos rfl]
  have hT₁ : 0 < (e.rewarded a).total_shares := by simpa using hl.shares_pos
  simp only [commits_checkpoint_settled h hl,
    commits_materialize_lp_rewards hd hnc hl.epoch hl.status hl.shares_pos,
    commits_materialize_lp_rewards h₁.deployed hnc₁ hw₁ hs₁ hT₁, pool.deployed_lp_cap,
    commits_transfer_active h₂.deployed.books hw₂ h₂.deployed.backed hs₂ hab,
    LpEpoch.total_shares_rewarded, LpEpoch.shares_rewarded, hn0, hl.shares_pos, hp, implies_true,
    and_assoc, exists_and_left, exists_eq_left, exists_const, true_and]
  refine and_congr_right fun hown => ?_
  have hst := (h.transferShares ⟨hn0, hab, hl, hz, hoc, hoa, hom, hel, hown⟩)
  obtain ⟨_, -, hp₃⟩ := hst
  have hd₃ := hp₃.launched.deployed
  have hown₂ : n ≤ (((e.rewarded a).rewarded b).position a).shares := by simpa using hown
  have hx : is_excluded_store ((w.rewarded e a).rewarded (e.rewarded a) b).reflection
      (.primary .trfl b) = false := by
    rw [is_excluded_store, (h₁.trans h₂).exclusions]
    exact hel
  have h₃ : Stage _ _ _ _ _ (w.sharesTransferred e a b n) :=
    h₂.deployed.lpTransferred hw₂ hab hn0 hown₂ hp hx
  change (∃ x y, Commits _ _ (w.sharesTransferred e a b n) x y ∧ _) ↔ _
  simp only [commits_assert_epoch_backing hd₃.books (h₃.epoch 1 hw₂) hd₃.backed
    (h₃.status.trans hs₂), commits_assert_accounting_backing hd₃.core, exists_eq_left,
    exists_const]

/-- **`checkpoint_lp_rewards`.** There is nothing to route between two calls. -/
theorem commits_checkpoint_lp_rewards (h : Launched e w) (u : Unit) :
    Commits checkpoint_lp_rewards .ideal w u w' ↔ Live e w ∧ w' = w := by
  simp only [checkpoint_lp_rewards, commits_bind, commits_pool_borrow_state h.deployed,
    commits_assert_pool_live h, and_assoc, exists_and_left, exists_eq_left, exists_const]
  exact and_congr_right fun hl => commits_checkpoint_settled h hl u

/-- The claim itself, in an active epoch. -/
theorem commits_lp_claim [NamedAddresses] {epoch : ℕ} (hd : Deployed e w) (hl : Live e w)
    (u : Unit) :
    Commits (do
        let claimed ← lp_rewards.prepare_claim lp_rewards.deployed_cap epoch a n
        let vault ← lp_rewards.reward_vault epoch
        reflection_token.payout_lp_reward_to custody_registry.deployed_cap a epoch vault claimed
        lp_rewards.assert_epoch_backing lp_rewards.deployed_cap epoch
        reflection_token.assert_accounting_backing) .ideal w u w' ↔
      epoch = 1 ∧ 0 < (if n = 0 then e.pending a else n)
        ∧ (if n = 0 then e.pending a else n) ≤ e.pending a
        ∧ w' = w.lpClaimed e a (if n = 0 then e.pending a else n) := by
  have hnc : w.reflection.lifecycle ≠ .CONFIGURING := by simp [hl.lifecycle]
  obtain ⟨x, hx⟩ : ∃ x, x = if n = 0 then e.pending a else n := ⟨_, rfl⟩
  rw [commits_bind]
  simp only [commits_prepare_claim hd.books hl.epoch hd.backed, hl.status, ← hx, true_or,
    forall_const, hl.shares_pos, true_and, and_assoc, exists_and_left, exists_eq_left]
  refine and_congr_right fun hk => and_congr_right fun hx0 => and_congr_right fun hxp => ?_
  have hw₁ : Epoch 1 (e.paid a x) (w.lpPaid e a x 1) := rfl
  rw [commits_bind]
  simp only [hk, commits_reward_vault (hd.books.step_paid hx0 hxp).books hw₁, true_and, and_assoc,
    exists_and_left, exists_eq_left]
  exact commits_lp_payout w' hd hnc hl.epoch hl.status hx0 hxp u

/-- **`claim_lp_rewards`**, of some rewards or (for `n = 0`) of all. A closed
pool owes no whole reward: everybody was paid on the way out. -/
theorem commits_claim_lp_rewards [NamedAddresses] {epoch : ℕ} (h : Launched e w) (u : Unit) :
    Commits (claim_lp_rewards a epoch n) .ideal w u w' ↔
      epoch = 1 ∧ Live e w ∧ 0 < (if n = 0 then e.pending a else n)
        ∧ (if n = 0 then e.pending a else n) ≤ e.pending a
        ∧ w' = w.lpClaimed e a (if n = 0 then e.pending a else n) := by
  have hd := h.deployed
  simp only [claim_lp_rewards, commits_bind, commits_pool_borrow_state hd, and_assoc,
    exists_and_left, exists_eq_left, pool.deployed_lifecycle, pool.deployed_lp_cap,
    pool.deployed_custody_cap]
  rcases h.phase with hl | hc
  · rw [and_iff_right hl]
    by_cases hk : epoch = 1
    · rw [if_pos ⟨hl.lifecycle, hk⟩, commits_bind]
      simp only [commits_checkpoint_settled h hl, exists_eq_left, exists_const]
      exact commits_lp_claim hd hl u
    · rw [if_neg fun hh => hk hh.2]
      exact commits_lp_claim hd hl u
  · have hp : e.pending a = 0 := by
      have := hd.books.accounting.shares_le a
      rw [hc.shares_zero] at this
      exact LpEpoch.pending_idle hd.books (Nat.le_zero.mp this)
    rw [if_neg fun hh => by simp [hc.lifecycle] at hh, commits_bind]
    simp only [commits_prepare_claim hd.books hc.epoch hd.backed, hp, and_assoc, exists_and_left]
    constructor
    · rintro ⟨-, -, -, x, -, hx0, hx1, -⟩
      omega
    · rintro ⟨-, -, hx0, hx1, -⟩
      omega

end CedraReflect.Tx
