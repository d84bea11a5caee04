/-
The width of the tUSD reserve on the machine.

Fresh tUSD has no end, so that nothing but the width of a store bounds the
reserve. It grows with a buy and with an addition of liquidity, and in both the
deposit into the reserve has checked what it leaves there.
-/
import CedraReflect.Quotes

set_option autoImplicit false
set_option linter.constructorNameAsVariable false
set_option synthInstance.maxSize 1000000000000

namespace CedraReflect

open reflection_settlement (MAX_U64)

namespace Tx

open pool

variable {w w' : World} {e : LpEpoch} {a : Address} {n limit deadline : ℕ}

/-- A deposit into the reserve checks what it leaves. -/
theorem usd_of_deposit {cap : PoolSettlementCapability}
    (hc : Commits (mock_usd.deposit_to_pool cap .usd_reserve ⟨.tusd, n⟩) .machine w () w') :
    w.usd + n ≤ MAX_U64 := by
  simp only [mock_usd.deposit_to_pool, mock_usd.assert_pool_cap, mock_usd.borrow_state,
    fungible_asset.deposit_with_ref, fungible_asset.assert_ref, checked, commits_bind,
    commits_require, commits_gets, commits_balance, commits_asks, and_assoc, exists_and_left,
    exists_eq_left, exists_const] at hc
  obtain ⟨-, -, -, -, -, -, -, hfits, -⟩ := hc
  have hlt := of_decide_eq_true hfits
  unfold World.usd MAX_U64
  omega

/-- A buy that the machine commits has deposited its tUSD in the reserve. -/
theorem usd_of_buy [NamedAddresses] (h : Launched e w)
    (hc : Commits (buy_trfl a n limit deadline) .machine w () w') : w.usd + n ≤ MAX_U64 := by
  have hsupply := h.deployed.core.supply
  simp only [buy_trfl, commits_bind, commits_assert_deadline,
    commits_pool_borrow_state h.deployed, commits_assert_pool_live h, and_assoc, exists_and_left,
    exists_eq_left, exists_const] at hc
  obtain ⟨-, hl, _, w₁, hcheckpoint, _, w₂, hbounds, hc⟩ := hc
  -- The checks before the payment leave the state as it is.
  have hw₁ : w₁ = w :=
    hcheckpoint.idle fun _ _ hi => (commits_checkpoint_settled h hl _).mp hi
  subst hw₁
  have hw₂ : w₂ = w₁ :=
    hbounds.idle fun _ _ hi => ((commits_assert_swap_bounds hsupply false _).mp hi).2.2.2.2
  subst hw₂
  simp only [commits_reserves hsupply, and_assoc, exists_and_left, exists_eq_left] at hc
  obtain ⟨out, w₃, hout, _, w₄, hcap, fee, w₅, hfee, net, w₆, hnet, hc⟩ := hc
  have hw₃ : w₃ = w₂ :=
    hout.idle fun _ _ hi => ((commits_constant_product_output _).mp hi).2.2.2.2.2
  subst hw₃
  have hw₄ : w₄ = w₃ := hcap.idle fun _ _ hi => ((commits_assert_reserve_output_cap _).mp hi).2
  subst hw₄
  have hw₅ : w₅ = w₄ := hfee.idle fun _ _ hi => ((commits_fee_for _).mp hi).2.2
  subst hw₅
  have hw₆ := ((commits_sub _ _ _).mp hnet).2.2
  subst hw₆
  simp only [commits_require, and_assoc, exists_and_left, exists_eq_left, exists_const] at hc
  obtain ⟨-, -, usd, w₇, husd, _, w₈, hdeposit, -⟩ := hc
  obtain ⟨-, rfl, rfl⟩ := (commits_withdraw_tusd h.deployed usd).mp
    ((inferInstance : Sound .machine (primary_fungible_store.withdraw a .tusd n)).commits husd)
  have hkept : (w₆.debit .tusd (.primary .tusd a) n).usd = w₆.usd := by
    simp [World.usd]
  rw [← hkept]
  exact usd_of_deposit hdeposit

/-- Liquidity that the machine commits has deposited its tUSD there too. -/
theorem usd_of_add [NamedAddresses] {max_rfl max_usd : ℕ} (h : Launched e w)
    (hc : Commits (add_liquidity a max_rfl max_usd limit deadline) .machine w () w') :
    w.usd + w.usdUsed e (w.mintShares e max_rfl max_usd) ≤ MAX_U64 := by
  have hd := h.deployed
  simp only [add_liquidity, commits_bind, commits_assert_deadline, commits_require,
    commits_pool_borrow_state hd, commits_assert_pool_live h, commits_assert_valid_lp_owner,
    and_assoc, exists_and_left, exists_eq_left, exists_const] at hc
  obtain ⟨-, -, -, hl, -, -, -, -, -, _, w₁, hcheckpoint, _, w₂, hrewards, hc⟩ := hc
  have hw₁ : w₁ = w :=
    hcheckpoint.idle fun _ _ hi => (commits_checkpoint_settled h hl _).mp hi
  subst hw₁
  have hnc : w₁.reflection.lifecycle ≠ .CONFIGURING := by simp [hl.lifecycle]
  obtain ⟨_, -, hst⟩ := hd.rewarded hl.epoch a
  have hw₂ : w₂ = w₁.rewarded e a :=
    (commits_materialize_lp_rewards hd hnc hl.epoch hl.status hl.shares_pos _).mp
      ((inferInstance : Sound .machine (materialize_lp_rewards (pool.deployed _) a)).commits
        hrewards)
  subst hw₂
  simp only [commits_reserves hst.deployed.core.supply, World.custody_shares_rewarded,
    World.usd_rewarded, commits_total_active_shares (hst.epoch 1 hl.epoch),
    LpEpoch.total_shares_rewarded, and_assoc, exists_and_left, exists_eq_left] at hc
  obtain ⟨-, -, -, p, w₃, hmint, -, -, -, -, -, -, -, -, _, w₄, hmove, usd, w₅, husd, _, w₆,
    hdeposit, -⟩ := hc
  obtain ⟨-, -, -, -, hp, hw₃⟩ := (commits_liquidity_mint p).mp
    ((inferInstance : Sound .machine
      (reflection_settlement.liquidity_mint max_rfl max_usd _ _ _)).commits hmint)
  subst hw₃
  -- tRFL moves first; the deposit of tUSD is what checks the width of the reserve.
  obtain ⟨hused, -, hwallet, hfunds, hw₄⟩ :=
    (commits_move_wallet_to_custody hst.deployed.core hst.deployed.bound _).mp
      ((inferInstance : Sound .machine (reflection_token.move_wallet_to_custody
        custody_registry.deployed_cap a .rfl_reserve p.2.1)).commits hmove)
  have hmoved := hst.deployed.core.moved_provided hwallet hfunds
  obtain ⟨_, -, hst'⟩ := hst.deployed.moved hmoved (by simp)
  subst hw₄
  obtain ⟨-, rfl, rfl⟩ := (commits_withdraw_tusd hst'.deployed usd).mp
    ((inferInstance : Sound .machine (primary_fungible_store.withdraw a .tusd p.2.2)).commits husd)
  have hkept : ∀ v : World, (v.debit .tusd (.primary .tusd a) p.2.2).usd = v.usd := by
    intro v
    simp [World.usd]
  have hfits := usd_of_deposit hdeposit
  rw [hkept, hmoved.frame.usd, World.usd_rewarded, hp] at hfits
  exact hfits

end Tx

/-! ## Along a run -/

namespace World

variable (w : World) (e : LpEpoch) (a b : Address) (n : ℕ)

/-- Only the reserve's own store counts. -/
theorem usd_debit (ref : Metadata) {s : Address} (hs : s ≠ .usd_reserve) :
    (w.debit ref s n).usd = w.usd := by
  rw [usd, debit_balance, Function.update_of_ne hs.symm, usd]

theorem usd_credit (ref : Metadata) {s : Address} (hs : s ≠ .usd_reserve) :
    (w.credit ref s n).usd = w.usd := by
  rw [usd, credit_balance, Function.update_of_ne hs.symm, usd]

/-! What the core and the epoch do leaves the reserve, effect by effect. -/

@[simp] theorem usd_shutDown : (w.shutDown e).usd = w.usd := rfl

@[simp] theorem usd_ensured : (w.ensured a).usd = w.usd := by
  unfold ensured
  split <;> rfl

@[simp] theorem usd_materialized (claim : Bool) (trigger : Trigger) :
    (w.materialized a n claim trigger).usd = w.usd := (Frame.materialized claim trigger).usd

@[simp] theorem usd_materializedAll (claim : Bool) (trigger : Trigger) :
    (w.materializedAll a claim trigger).usd = w.usd := (Frame.materializedAll claim trigger).usd

@[simp] theorem usd_walletDebited : (w.walletDebited a n).usd = w.usd := Frame.walletDebited.usd

@[simp] theorem usd_walletCredited : (w.walletCredited a n).usd = w.usd := Frame.walletCredited.usd

@[simp] theorem usd_sent : (w.sent a n).usd = w.usd := by simp [sent]

@[simp] theorem usd_arrived : (w.arrived a n).usd = w.usd := by simp [arrived]

@[simp] theorem usd_sentFrom : (w.sentFrom a n).usd = w.usd := by
  unfold sentFrom
  split <;> simp

@[simp] theorem usd_paidOut : (w.paidOut a n).usd = w.usd := by
  rw [paidOut, usd_walletCredited, usd_debit _ _ _ (by simp), usd_materializedAll, usd_ensured]

@[simp] theorem usd_lpClaimed : (w.lpClaimed e a n).usd = w.usd := by
  rw [lpClaimed, usd_paidOut]
  rfl

end World

section Run

variable [NamedAddresses] {fee_bps : ℕ} {w w' : World} {c : Call} {e e' : LpEpoch}

/-- **The step lemma of the reserve.** A call that adds to it has checked what it
leaves, and any other leaves no more than there was. -/
theorem Launched.usd_call (h : Launched e w) (hw : w.usd ≤ MAX_U64)
    (hc : c.Commits .machine w w') : w'.usd ≤ MAX_U64 := by
  obtain ⟨e', ht⟩ := h.transition hc.ideal
  cases ht with
  | buy hs =>
      rw [(h.reserves_buy hs).2]
      exact Tx.usd_of_buy h hc
  | add hs =>
      rw [(h.reserves_add hs.live hs.wallet hs.rfl_funds).2]
      exact Tx.usd_of_add h hc
  | sell hs =>
      rw [(h.reserves_sell hs).2]
      omega
  | remove hs hne =>
      rw [(h.reserves_removePart hs hne).2.1]
      exact (Nat.sub_le _ _).trans hw
  | remove_all hs hall =>
      subst hall
      simp only [World.removedAll, World.usd_logged, World.usd_shutDown,
        (h.emptied hs.live hs.owned).2.1]
      exact Nat.zero_le _
  | withdraw_tusd _ hfr _ =>
      rwa [World.usd_debit _ _ _ (h.deployed.unfrozen_ne hfr)]
  | deposit_tusd _ hfr _ =>
      rwa [World.usd_credit _ _ _ (h.deployed.unfrozen_ne hfr)]
  | claim_trfl _ _ _ _ =>
      rw [World.granted, World.usd_logged, World.usd_walletCredited,
        World.usd_debit _ _ _ (by simp), World.usd_materializedAll, World.usd_ensured]
      exact hw
  | claim_tusd _ _ =>
      rw [World.usdMinted, World.usd_logged, World.usd_credit _ _ _ (by simp)]
      exact hw
  | transfer_shares _ => simpa [World.sharesTransferred] using hw
  | transfer _ _ => simpa [World.walletTransferred, World.transferred] using hw
  | checkpoint _ => exact hw
  | withdraw_nothing => exact hw
  | tick => exact hw
  | _ => simpa using hw

/-- Before the launch the reserve is empty. -/
theorem Configuring.usd (h : Configuring fee_bps w) : w.usd = 0 := by
  obtain ⟨faucet, bound, now, rfl⟩ := h
  simp [World.usd, World.configuring]

/-- **The reserve of tUSD is a `u64`** in every reachable state of the machine. -/
theorem Reachable.usd_le (h : Reachable .machine fee_bps w) : w.usd ≤ MAX_U64 := by
  induction h with
  | @genesis admin w hg =>
      have hs : Sound .machine (reflection_token.initialize_token admin fee_bps) := inferInstance
      obtain ⟨-, -, rfl⟩ := (Tx.commits_initialize_token ()).mp (hs.commits hg)
      have hzero := Configuring.usd (show Configuring fee_bps _ from ⟨false, false, 0, rfl⟩)
      exact hzero.trans_le (Nat.zero_le _)
  | @call c w w' hw hc ih =>
      obtain ⟨hfee, hconf | ⟨hl, -⟩⟩ := hw.phase
      · obtain hconf' | ⟨-, -, -, now, rfl⟩ := hconf.call hfee hc.ideal
        · exact hconf'.usd.trans_le (Nat.zero_le _)
        · show 500_000_000 ≤ MAX_U64
          decide
      · exact hl.usd_call ih hc

end Run

end CedraReflect
