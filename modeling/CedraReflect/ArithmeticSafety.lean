/-
The accounting never overflows.

Every public call of a launched system fits as long as both ledgers are within
what fewer than `2 ^ 64` swaps can have moved them by, and before the launch
nothing has been moved at all. A swap is the only call that moves the bounds, so
that the number of swaps of a run decides. Two things are asked of the call
itself: that the accounts it may register can still be counted in a `u64`, and
that a transfer of LP shares is not of more than can exist, since the amount is
multiplied by the index before it is compared with what the sender owns.
-/
import CedraReflect.PoolFits

set_option autoImplicit false
set_option linter.constructorNameAsVariable false
set_option synthInstance.maxSize 1000000000000

namespace CedraReflect

open Dividend (Run Act)
open reflection_math (MAGNITUDE)
open reflection_token (TOTAL_SUPPLY MAX_FEE_BPS)
open reflection_settlement (MAX_U64)
open NamedAddresses

/-! ## Calls -/

namespace Call

/-- The accounts that a call may register. -/
def accounts [NamedAddresses] : Call → Finset Address
  | register_wallet owner => {owner}
  | deposit store _ => {store.owner}
  | transfer _ recipient _ => {recipient}
  | claim_trfl claimant => {claimant}
  | buy_trfl buyer _ _ _ => {buyer}
  | add_liquidity provider _ _ _ _ => {provider}
  | remove_liquidity provider _ _ _ _ => {provider}
  | transfer_lp_shares sender recipient _ => {sender, recipient}
  | claim_lp_rewards owner _ _ => {owner}
  | _ => ∅

/-- The LP shares that a call asks to transfer. -/
def lp_amount : Call → ℕ
  | transfer_lp_shares _ _ shares => shares
  | _ => 0

end Call

namespace Tx

variable [NamedAddresses] {w : World} {e : LpEpoch} {c : Call} {k : ℕ}

/-- **Every call of a launched system fits.** -/
theorem fits_call (h : Launched e w) (hr : Roomy c.accounts e w) (hk : k < 2 ^ 64)
    (hw : w.Within k) (he : e.Within k) (hamount : c.lp_amount ≤ 2 ^ 57) : Fits c.run w := by
  have hc := h.deployed.core
  cases c with
  | initialize_token admin bps => exact spares (m := reflection_token.initialize_token admin bps)
  | initialize_faucet a b => exact spares (m := test_faucet.initialize_faucet a b)
  | bind_protocol_exclusions a => exact spares (m := reflection_token.bind_protocol_exclusions a)
  | seal_launch a b c => exact spares (m := reflection_token.seal_launch a b c)
  | launch a b c d =>
      -- There is a pool already.
      show Fits (pool.launch a b c d) w
      unfold pool.launch pool.E_ALREADY_INITIALIZED
      refine .read (.guard fun hnone => ?_)
      rw [h.deployed.pool] at hnone
      cases hnone
  | register_wallet a => exact fits_register_wallet hc (hr.card (Finset.mem_singleton_self a))
  | withdraw owner store n => exact (fits_withdraw hc hr.core).bind fun _ _ _ => spares
  | deposit store asset => exact fits_deposit hc hr.core (hr.card (Finset.mem_singleton_self _))
  | transfer a b n => exact fits_transfer h hr (Finset.mem_singleton_self b)
  | claim a n => exact fits_claim hc hr.core
  | claim_all a => exact fits_claim_all hc hr.core
  | claim_trfl a => exact fits_claim_trfl hc hr.core (hr.card (Finset.mem_singleton_self a))
  | claim_tusd a => exact spares (m := test_faucet.claim_tusd a)
  | sell_trfl a n limit deadline => exact fits_sell_trfl h hr hk hw he
  | buy_trfl a n limit deadline =>
      exact fits_buy_trfl h hr (Finset.mem_singleton_self a) hk hw he
  | add_liquidity a max_rfl max_usd limit deadline =>
      exact fits_add_liquidity h hr (Finset.mem_singleton_self a)
  | remove_liquidity a n min_rfl min_usd deadline =>
      exact fits_remove_liquidity h hr (Finset.mem_singleton_self a)
  | transfer_lp_shares a b n =>
      exact fits_transfer_lp_shares h hr (Finset.mem_insert_self a {b})
        (Finset.mem_insert_of_mem (Finset.mem_singleton_self b)) hamount
  | claim_lp_rewards a epoch n => exact fits_claim_lp_rewards h hr (Finset.mem_singleton_self a)
  | checkpoint_lp_rewards => exact fits_checkpoint_lp_rewards h hr
  | tick seconds =>
      exact spares (m := Tx.update fun w : World => { w with now_seconds := w.now_seconds + seconds })

/-! ### Before the launch -/

variable {a b d : Address} {fee_bps now : ℕ} {faucet bound : Bool} {events : List Event}

omit [NamedAddresses] in
/-- The numbers of a ledger that has seen no fee. -/
theorem narrow_of_zero (hi : w.reflection.index = 0) (hf : w.reflection.lifetime_fees = 0)
    (hr : w.reflection.index_remainder = 0) : w.Narrow :=
  ⟨by simp [hi], by simp [hf], by simp [hr]⟩

theorem narrow_configuring : (World.configuring fee_bps faucet bound now events).Narrow :=
  narrow_of_zero rfl rfl rfl

theorem narrow_launchEpoch : World.launchEpoch.Narrow := by
  refine ⟨?_, Nat.zero_le _, Nat.zero_le _, Nat.zero_le _⟩
  show 500_000_000 ≤ 2 ^ 57
  norm_num

/-- All capability handoffs of the launch, whatever comes after. -/
theorem fits_handoff {β : Type} {c : Address} (f : SettlementCapability →
      CustodySettlementCapability → LpAccountingCapability → PoolSettlementCapability → Move β)
    (hf : faucet = false → bound = false → a = reflection_core →
      Fits (f ⟨1⟩ custody_registry.deployed_cap lp_rewards.deployed_cap ⟨.usd_reserve, 1⟩)
        (World.handedOff fee_bps now events)) :
    Fits (do
      let settlement_cap ← reflection_token.issue_settlement_capability a b
      let custody_cap ← reflection_token.register_canonical_custody a b .rfl_reserve
        .lp_reward_vault
      let lp_cap ← lp_rewards.initialize_epochs b .lp_reward_vault
      let usd_pool_cap ← mock_usd.issue_pool_settlement_capability c b .usd_reserve
      test_faucet.initialize_faucet a c
      reflection_token.bind_protocol_exclusions a
      f settlement_cap custody_cap lp_cap usd_pool_cap)
      (World.configuring fee_bps faucet bound now events) := by
  refine .call spares fun c₁ w₁ h₁ => .call spares fun c₂ w₂ h₂ => .call spares fun c₃ w₃ h₃ =>
    .call spares fun c₄ w₄ h₄ => .call spares fun u w₅ h₅ => .call spares fun v w₆ h₆ => ?_
  -- The six commits together are the handoff.
  have hall := (@commits_handoff _ w₆ a b c fee_bps now faucet bound events _
    (fun s c l u => pure (s, c, l, u)) (c₁, c₂, c₃, c₄)).mp (by
      simp only [commits_bind]
      exact ⟨c₁, w₁, h₁, c₂, w₂, h₂, c₃, w₃, h₃, c₄, w₄, h₄, u, w₅, h₅, v, w₆, h₆,
        (commits_pure _ _ _ _ _).mpr ⟨rfl, rfl⟩⟩)
  obtain ⟨hfa, hbo, ha, -, -, -, hpure⟩ := hall
  obtain ⟨hcaps, rfl⟩ := (commits_pure _ _ _ _ _).mp hpure
  cases hcaps
  exact hf hfa hbo ha

omit [NamedAddresses] in
/-- The first custody shares are not corrected, since the index has not moved. -/
theorem fits_add_custody_first {n : ℕ} (hn : n < 2 ^ 64) (hi : w.reflection.index = 0)
    (ht : w.reflection.total_shares = 0)
    (ha : w.reflection.aggregate_correction = reflection_math.zero)
    (hp : w.custody.pool_position = ⟨reflection_math.zero, 0⟩)
    (hc : w.custody.custody_shares = 0) : Fits (reflection_token.add_custody_shares n) w := by
  have hzero : reflection_math.zero.toInt = 0 := by simp
  refine fits_add_custody_shares ?_ ?_ ?_ ?_ ?_
  · rw [hi]
    norm_num
  · rw [hi, hp, hzero]
    norm_num [Small]
  · rw [hi, ha, hzero]
    norm_num [Small]
  · omega
  · omega

theorem fits_seed_pool : Fits (reflection_token.seed_pool_from_distribution
    custody_registry.deployed_cap a .rfl_reserve pool.INITIAL_TRFL_LIQUIDITY)
    (World.handedOff fee_bps now events) := by
  have hb : Bound (World.handedOff fee_bps now events) := ⟨rfl, rfl, rfl, rfl⟩
  unfold reflection_token.seed_pool_from_distribution reflection_token.E_INVALID_SEED
  refine .check spares (fun u _ => (commits_assert_core_publisher u).mp) fun _ => ?_
  refine .check spares (fun u _ => (commits_assert_configuring u).mp) fun _ => ?_
  refine .check spares (fun u _ => (commits_assert_pool u).mp) fun _ => ?_
  refine .effect spares (fun u _ => (commits_assert_reserve hb u).mp) (.guard fun _ => ?_)
  refine .effect spares (fun u _ h => ((commits_transfer_with_ref u).mp h).2) ?_
  exact (fits_add_custody_first (by decide) rfl rfl rfl rfl rfl).bind fun _ _ _ => spares

theorem fits_launch {c : Address} (hfee : fee_bps ≤ MAX_FEE_BPS) : Fits (pool.launch a c b d)
    (World.configuring fee_bps faucet bound now events) := by
  unfold pool.launch pool.E_ALREADY_INITIALIZED pool.E_WRONG_AMM_ADDRESS
    pool.E_WRONG_ASSETS_ADDRESS pool.E_WRONG_BOOTSTRAP_LP pool.E_NOT_SEALABLE
  refine .read (.guard fun _ => .guard fun _ => .guard fun _ => .guard fun _ => ?_)
  refine fits_handoff _ fun _ _ ha => ?_
  subst ha
  refine .check spares (fun u _ => (commits_assert_valid_lp_owner u).mp) fun hown =>
    .guard fun _ => ?_
  refine .effect fits_seed_pool (fun u _ => (commits_seed_pool u).mp) ?_
  refine .step spares (fun x _ => (commits_seed_usd x).mp) (.guard fun _ => ?_)
  have hw : Epoch 1 (lp_rewards.new_epoch 1 .lp_epoch_state .lp_reward_vault)
      (World.handedOff fee_bps now events).trflSeeded.usdSeeded := rfl
  have hs : Nat.sqrt (pool.INITIAL_TRFL_LIQUIDITY * pool.INITIAL_TUSD_LIQUIDITY) = 500_000_000 :=
    Nat.sqrt_eq 500_000_000
  refine .step spares (fun x _ => (commits_initial_lp_shares _ _ x).mp) (.guard fun _ => ?_)
  rw [hs]
  have hne : (lp_rewards.new_epoch 1 .lp_epoch_state .lp_reward_vault).Narrow :=
    ⟨Nat.zero_le _, Nat.zero_le _, Nat.zero_le _, Nat.zero_le _⟩
  refine .effect (fits_mint_active books_new_epoch hw hne (by decide))
    (fun u _ hc => ((commits_mint_active books_new_epoch hw rfl u).mp hc).2) ?_
  rw [seeded_eq]
  -- The seeded state is a deployed one, and what follows only reads it.
  have hbl : ValidBootstrap := ⟨hown.1, hown.2.1, hown.2.2.1, hown.2.2.2.1⟩
  have hde := deployed_seeded fee_bps now .CONFIGURING (events ++ World.seedEvents) hbl hfee
  have hep : Epoch 1 World.launchEpoch (World.seeded fee_bps now .CONFIGURING
    (some (pool.deployed .CONFIGURING)) (events ++ World.seedEvents)) := rfl
  have hnw : (World.seeded fee_bps now .CONFIGURING (some (pool.deployed .CONFIGURING))
      (events ++ World.seedEvents)).Narrow := narrow_of_zero rfl rfl rfl
  have hnl : World.launchEpoch.Narrow := narrow_launchEpoch
  refine .write ?_
  change Fits _ (World.seeded fee_bps now .CONFIGURING (some (pool.deployed .CONFIGURING))
    (events ++ World.seedEvents))
  refine .effect (fits_assert_reserve_custody hde.core hnw)
    (fun u _ => (commits_assert_reserve_custody hde.core u).mp) ?_
  refine .effect spares (fun u _ hc => ((commits_assert_active_epoch_healthy hep u).mp hc).2.2.2.2) ?_
  exact (fits_assert_epoch_backing hde.books hep hde.backed hnl).bind fun _ _ _ => spares

omit [NamedAddresses] in
/-- An entry of the pool stops where there is none. -/
theorem fits_no_pool (h : w.pool = none) (f : PoolState → Move Unit) :
    Fits (pool.borrow_state >>= f) w := by
  refine .call spares fun state w₁ h₁ => ?_
  simp [pool.borrow_state, h] at h₁

/-- **Every call before the launch fits**, the launch included. -/
theorem fits_call_configuring (hfee : fee_bps ≤ MAX_FEE_BPS) (h : Configuring fee_bps w)
    (hcard : (w.wallets ∪ c.accounts).card < 2 ^ 64) : Fits c.run w := by
  have hc := h.core
  have hn : w.Narrow := by
    obtain ⟨faucet, bound, now, rfl⟩ := h
    exact narrow_configuring
  have hp : w.pool = none := by
    obtain ⟨faucet, bound, now, rfl⟩ := h
    rfl
  have hins : ∀ x ∈ c.accounts, (insert x w.wallets).card < 2 ^ 64 := fun x hx =>
    (Finset.card_le_card (Finset.insert_subset (Finset.mem_union_right _ hx)
      Finset.subset_union_left)).trans_lt hcard
  have hdl : ∀ deadline (f : PoolState → Move Unit),
      Fits (pool.assert_deadline deadline >>= fun _ => pool.borrow_state >>= f) w :=
    fun deadline f => .check spares (fun u _ => (commits_assert_deadline u).mp) fun _ =>
      fits_no_pool hp f
  cases c with
  | initialize_token admin bps => exact spares (m := reflection_token.initialize_token admin bps)
  | initialize_faucet a b => exact spares (m := test_faucet.initialize_faucet a b)
  | bind_protocol_exclusions a => exact spares (m := reflection_token.bind_protocol_exclusions a)
  | seal_launch a b c => exact spares (m := reflection_token.seal_launch a b c)
  | launch a b c d =>
      obtain ⟨faucet, bound, now, rfl⟩ := h
      exact fits_launch hfee
  | register_wallet a => exact fits_register_wallet hc (hins a (Finset.mem_singleton_self a))
  | withdraw owner store n => exact (fits_withdraw hc hn).bind fun _ _ _ => spares
  | deposit store asset => exact fits_deposit hc hn (hins _ (Finset.mem_singleton_self _))
  | transfer a b n =>
      -- Nothing is withdrawn before the launch.
      show Fits (reflection_router.transfer a b n) w
      unfold reflection_router.transfer primary_fungible_store.transfer
        primary_fungible_store.withdraw
      refine .bind (.call (fits_withdraw hc hn) fun asset w₁ hw => ?_) fun _ _ _ => spares
      have hcall : (Call.withdraw a (.primary .trfl a) n).Commits .ideal w w₁ :=
        (commits_bind _ _ _ _ _ _).mpr ⟨asset, w₁, hw, (commits_pure _ _ _ _ _).mpr ⟨rfl, rfl⟩⟩
      obtain rfl := h.withdraw hcall
      exact fits_deposit hc hn (hins b (Finset.mem_singleton_self b))
  | claim a n => exact fits_claim hc hn
  | claim_all a => exact fits_claim_all hc hn
  | claim_trfl a => exact fits_claim_trfl hc hn (hins a (Finset.mem_singleton_self a))
  | claim_tusd a => exact spares (m := test_faucet.claim_tusd a)
  | sell_trfl a n limit deadline => exact hdl deadline _
  | buy_trfl a n limit deadline => exact hdl deadline _
  | add_liquidity a max_rfl max_usd limit deadline =>
      show Fits (pool.add_liquidity a max_rfl max_usd limit deadline) w
      unfold pool.add_liquidity pool.E_ZERO_AMOUNT
      exact .check spares (fun u _ => (commits_assert_deadline u).mp) fun _ =>
        .guard fun _ => fits_no_pool hp _
  | remove_liquidity a n min_rfl min_usd deadline =>
      show Fits (pool.remove_liquidity a n min_rfl min_usd deadline) w
      unfold pool.remove_liquidity pool.E_ZERO_AMOUNT
      exact .check spares (fun u _ => (commits_assert_deadline u).mp) fun _ =>
        .guard fun _ => fits_no_pool hp _
  | transfer_lp_shares a b n =>
      show Fits (pool.transfer_lp_shares a b n) w
      unfold pool.transfer_lp_shares pool.E_INVALID_RECIPIENT
      exact .guard fun _ => fits_no_pool hp _
  | claim_lp_rewards a epoch n => exact fits_no_pool hp _
  | checkpoint_lp_rewards => exact fits_no_pool hp _
  | tick seconds =>
      exact spares (m := Tx.update fun w : World => { w with now_seconds := w.now_seconds + seconds })

end Tx

/-! ## Along a run -/

section Run

variable [NamedAddresses] {fee_bps : ℕ} {w w' : World} {c : Call} {e e' : LpEpoch} {k : ℕ}

/-- The swaps of one call. -/
def Call.swaps (c : Call) : ℕ := if c.swap = true then 1 else 0

omit [NamedAddresses] in
/-- Only a swap brings a fee to the core. -/
theorem CoreActs.no_receive {as : List (Act (Option Address))} (h : CoreActs w c as)
    (hc : c.swap = false) : ∀ x ∈ as, ∀ n, x ≠ .receive n := by
  cases h with
  | sell _ => cases hc
  | buy _ => cases hc
  | quiet _ hq =>
      rintro x hx n rfl
      exact hq _ hx

omit [NamedAddresses] in
theorem LpEpoch.payment_no_receive (e : LpEpoch) (a : Address) :
    ∀ x ∈ e.payment a, ∀ n, x ≠ Act.receive n := by
  rintro x hx n rfl
  unfold LpEpoch.payment at hx
  split at hx <;> simp at hx

omit [NamedAddresses] in
theorem LpEpoch.exit_no_receive (e : LpEpoch) (a : Address) :
    ∀ x ∈ e.exit a, ∀ n, x ≠ Act.receive n := by
  rintro x hx n rfl
  unfold LpEpoch.exit LpEpoch.retirement at hx
  split at hx
  · split at hx <;> simp at hx
  · simp at hx

omit [NamedAddresses] in
/-- Only a swap brings a reward to the epoch. -/
theorem LpActs.no_receive {bs : List (Act Address)} (h : LpActs e w c bs) (hc : c.swap = false) :
    ∀ x ∈ bs, ∀ n, x ≠ .receive n := by
  rintro x hx n rfl
  cases h with
  | sell => cases hc
  | buy => cases hc
  | add =>
      rcases List.mem_append.mp hx with hx | hx
      · exact e.payment_no_receive _ _ hx n rfl
      · simp at hx
  | remove =>
      rcases List.mem_append.mp hx with hx | hx
      · exact e.payment_no_receive _ _ hx n rfl
      · rcases List.mem_append.mp hx with hx | hx
        · simp at hx
        · exact LpEpoch.exit_no_receive _ _ _ hx n rfl
  | transfer =>
      rcases List.mem_append.mp hx with hx | hx
      · rcases List.mem_append.mp hx with hx | hx
        · exact e.payment_no_receive _ _ hx n rfl
        · exact LpEpoch.payment_no_receive _ _ _ hx n rfl
      · rcases List.mem_append.mp hx with hx | hx
        · simp at hx
        · exact LpEpoch.exit_no_receive _ _ _ hx n rfl
  | claim => simp at hx
  | none _ => simp at hx

/-- A call that is no swap leaves the bounds alone. -/
theorem Launched.within_quiet (h : Launched e w) (ht : Transition e w c e' w')
    (hc : c.swap = false) (hw : w.Within k) (he : e.Within k) : w'.Within k ∧ e'.Within k := by
  obtain ⟨as, bs, has, hbs, hp⟩ := h.passage ht
  obtain ⟨hi, hr, -, hf⟩ := hp.core_run.scalars_eq (has.no_receive hc)
  obtain ⟨hli, hlr, -, hlf⟩ := hp.lp_run.scalars_eq (hbs.no_receive hc)
  exact ⟨hw.same ⟨hi, hf, hr⟩, ⟨hli.trans_le he.index, hlr.trans_le he.remainder,
    hlf.trans_le he.received⟩⟩

/-- **The step lemma.** A swap moves both ledgers by one, and nothing else moves
them. -/
theorem Launched.within_call (h : Launched e w) (ht : Transition e w c e' w')
    (htot : e.total_shares ≤ 2 ^ 57) (hw : w.Within k) (he : e.Within k) :
    w'.Within (k + c.swaps) ∧ e'.Within (k + c.swaps) := by
  have hd := h.deployed
  have hquiet : c.swap = false → w'.Within (k + c.swaps) ∧ e'.Within (k + c.swaps) := by
    intro hc
    rw [Call.swaps, if_neg (by simp [hc]), Nat.add_zero]
    exact h.within_quiet ht hc hw he
  cases ht with
  | @sell a n limit deadline hs =>
      obtain ⟨_, _, -, -, h₁⟩ := hd.sold hs.live.rfl_pos hs.wallet hs.funds (hd.feeOn_le n)
      have hcap := fifth_of_cap hs.input_cap
      have hsold := hw.sold (hd.core.sellInstant hs.wallet hs.funds) hcap (hd.feeOn_mul_le n)
      refine ⟨(hsold.same SameFees.checkpointed).same (.outside (w.outside_sellSwapped e a n)), ?_⟩
      exact he.checkpointed ((h₁.deployed.core.accounting.pending_le_vault none).trans
        h₁.deployed.core.vault_le) hs.live.shares_pos htot
  | @buy a n limit deadline hs =>
      have h₀ := hd.outside (w.outside_usdIn a n)
      have hw₀ : (w.usdIn a n).Within k := ⟨hw.index, hw.fees, hw.remainder⟩
      obtain ⟨_, _, -, -, h₁⟩ := h₀.deployed.bought (a := a) hs.output_lt hs.eligible
        (hd.feeOn_le (w.buyOutput n))
      have hcap := swap_output_le_sixth (R := w.custody.custody_shares) pool.FIXED_AMM_FEE_BPS
        (fifth_of_cap hs.input_cap)
      have hbought := hw₀.bought (h₀.deployed.core.buyInstant hs.eligible hs.output_lt.le) hcap
        (hd.feeOn_mul_le (w.buyOutput n))
      refine ⟨(hbought.same SameFees.checkpointed).same (.outside (w.outside_buySwapped e a n)), ?_⟩
      exact he.checkpointed ((h₁.deployed.core.accounting.pending_le_vault none).trans
        h₁.deployed.core.vault_le) hs.live.shares_pos htot
  | _ => exact hquiet rfl

omit [NamedAddresses] in
/-- The epoch of a launched state of the machine has no more shares than its two
reserves can back. -/
theorem Launched.shares_le (h : Launched e w) (hu : w.usd ≤ MAX_U64) :
    e.total_shares ≤ 2 ^ 57 := by
  rcases h.phase with hl | hc
  · have hR := h.deployed.core.supply.balance_le .rfl_reserve rfl
    rw [← h.deployed.core.supply.custody] at hR
    exact shares_le_of_backed hl.backed hR hu
  · rw [hc.shares_zero]
    exact Nat.zero_le _

/-- What a run with `k` swaps has reached. -/
inductive Reached (fee_bps k : ℕ) (w : World) : Prop where
  | configuring (h : Configuring fee_bps w)
  | launched {e : LpEpoch} (h : Launched e w) (core : w.Within k) (epoch : e.Within k)

theorem Reached.genesis {admin : Address}
    (h : Tx.Commits (reflection_token.initialize_token admin fee_bps) .machine .unpublished () w) :
    Reached fee_bps 0 w := by
  have hsound : Sound .machine (reflection_token.initialize_token admin fee_bps) := inferInstance
  obtain ⟨-, -, rfl⟩ := (Tx.commits_initialize_token ()).mp (hsound.commits h)
  exact .configuring ⟨false, false, 0, rfl⟩

theorem Reached.call (hr : Reachable .machine fee_bps w) (h : Reached fee_bps k w)
    (hc : c.Commits .machine w w') : Reached fee_bps (k + c.swaps) w' := by
  cases h with
  | configuring h =>
      obtain hconf | ⟨-, hboot, -, now, rfl⟩ := h.call hr.phase.1 hc.ideal
      · exact .configuring hconf
      · refine .launched (launched_launched _ _ _ hboot hr.phase.1) ⟨?_, ?_, ?_⟩ ⟨?_, ?_, ?_⟩
        all_goals exact Nat.zero_le _
  | launched h hw he =>
      obtain ⟨e', ht⟩ := h.transition hc.ideal
      obtain ⟨_, _, -, -, hp⟩ := h.passage ht
      obtain ⟨hw', he'⟩ := h.within_call ht (h.shares_le hr.usd_le) hw he
      exact .launched hp.launched hw' he'

/-- **The run lemma.** -/
theorem Reached.calls {cs : List Call} (hr : Reachable .machine fee_bps w)
    (h : Reached fee_bps k w) (hrun : Calls .machine w cs w') :
    Reached fee_bps (k + cs.countP Call.swap) w' := by
  induction hrun generalizing k with
  | nil => exact h
  | @cons c cs w w₁ w₂ hc _ ih =>
      have hstep := ih (hr.call hc) (h.call hr hc)
      rw [List.countP_cons]
      have heq : k + c.swaps + cs.countP Call.swap
          = k + (cs.countP Call.swap + if c.swap = true then 1 else 0) := by
        rw [Call.swaps, Nat.add_assoc, Nat.add_comm (cs.countP Call.swap)]
      rwa [heq] at hstep

/-- After fewer than `2 ^ 64` swaps no call stops for want of width. -/
theorem Reached.fits_call (hr : Reachable .machine fee_bps w) (h : Reached fee_bps k w)
    (hk : k < 2 ^ 64) (hcard : (w.wallets ∪ c.accounts).card < 2 ^ 64)
    (hamount : c.lp_amount ≤ 2 ^ 57) : Fits c.run w := by
  cases h with
  | configuring h => exact Tx.fits_call_configuring hr.phase.1 h hcard
  | launched h hw he =>
      have hroom : Roomy c.accounts _ w :=
        ⟨hw.narrow hk.le, he.narrow hk.le (h.shares_le hr.usd_le), hcard⟩
      exact Tx.fits_call h hroom hk hw he hamount

/-! ## Corrections -/

omit [NamedAddresses] in
/-- What is added to a product to get an amount below a bound is below one of them. -/
theorem natAbs_le_max {p m : ℕ} {c : ℤ} (h0 : 0 ≤ (p : ℤ) + c) (hle : (p : ℤ) + c ≤ m) :
    c.natAbs ≤ max p m := by
  omega

omit [NamedAddresses] in
/-- No correction exceeds what it corrects and what was ever collected. -/
theorem Core.correction_le (h : Core w) :
    (∀ a, (w.position a).correction.toInt.natAbs
        ≤ max (w.raw a * w.reflection.index) (MAGNITUDE * w.reflection.lifetime_fees))
      ∧ w.custody.pool_position.correction.toInt.natAbs
        ≤ max (w.custody.custody_shares * w.reflection.index)
          (MAGNITUDE * w.reflection.lifetime_fees)
      ∧ w.reflection.aggregate_correction.toInt.natAbs
        ≤ max (w.reflection.total_shares * w.reflection.index)
          (MAGNITUDE * w.reflection.lifetime_fees) := by
  have hv := h.accounting.valid
  refine ⟨fun a => natAbs_le_max ?_ ?_, natAbs_le_max ?_ ?_, natAbs_le_max ?_ ?_⟩
  · simpa using hv.accrued_nonneg (some a)
  · simpa using hv.accrued_le (some a)
  · simpa using hv.accrued_nonneg none
  · simpa using hv.accrued_le none
  · have hnn := hv.accruedSum_nonneg
    rw [← h.accounting.aggregate] at hnn
    simpa using hnn
  · have hle := hv.accruedSum_le
    rw [← h.accounting.aggregate] at hle
    simpa using hle

omit [NamedAddresses] in
theorem LpAccounting.correction_le (h : LpAccounting e) :
    (∀ a, (e.position a).correction.toInt.natAbs
        ≤ max ((e.position a).shares * e.index) (MAGNITUDE * e.lifetime_received))
      ∧ e.aggregate_correction.toInt.natAbs
        ≤ max (e.total_shares * e.index) (MAGNITUDE * e.lifetime_received) := by
  have hv := h.valid
  refine ⟨fun a => natAbs_le_max ?_ ?_, natAbs_le_max ?_ ?_⟩
  · simpa using hv.accrued_nonneg a
  · simpa using hv.accrued_le a
  · have hnn := hv.accruedSum_nonneg
    rw [← h.aggregate] at hnn
    simpa using hnn
  · have hle := hv.accruedSum_le
    rw [← h.aggregate] at hle
    simpa using hle

/-! ## The theorem -/

/-- **The accounting never overflows.** After any run of the machine with fewer
than `2 ^ 64` swaps, and whatever else, the index is below an eightieth of the
magnitude a swap, every correction is bounded by what it corrects or by what was
collected, and no call stops because the accounting could not be computed. -/
theorem accounting_never_overflows {admin : Address} {w₀ : World} {cs : List Call}
    (hgenesis : Tx.Commits (reflection_token.initialize_token admin fee_bps) .machine .unpublished
      () w₀)
    (hrun : Calls .machine w₀ cs w) (hswaps : cs.countP Call.swap < 2 ^ 64) :
    w.reflection.index ≤ cs.countP Call.swap * (MAGNITUDE / 80)
      ∧ ((∀ a, (w.position a).correction.toInt.natAbs
          ≤ max (w.raw a * w.reflection.index) (MAGNITUDE * w.reflection.lifetime_fees))
        ∧ w.custody.pool_position.correction.toInt.natAbs
          ≤ max (w.custody.custody_shares * w.reflection.index)
            (MAGNITUDE * w.reflection.lifetime_fees)
        ∧ w.reflection.aggregate_correction.toInt.natAbs
          ≤ max (w.reflection.total_shares * w.reflection.index)
            (MAGNITUDE * w.reflection.lifetime_fees))
      ∧ (∀ k e, w.lp_epoch k = some e →
        (∀ a, (e.position a).correction.toInt.natAbs
          ≤ max ((e.position a).shares * e.index) (MAGNITUDE * e.lifetime_received))
        ∧ e.aggregate_correction.toInt.natAbs
          ≤ max (e.total_shares * e.index) (MAGNITUDE * e.lifetime_received))
      ∧ ∀ c : Call, (w.wallets ∪ c.accounts).card < 2 ^ 64 → c.lp_amount ≤ 2 ^ 57 →
        ∀ reason, c.run .machine w = .error reason → ¬ reason.arithmetic := by
  have hr₀ : Reachable .machine fee_bps w₀ := .genesis hgenesis
  have hr := hr₀.calls hrun
  have hreached := (Reached.genesis hgenesis).calls hr₀ hrun
  rw [Nat.zero_add] at hreached
  refine ⟨?_, hr.core.correction_le, fun k e he => ?_, fun c hcard hamount =>
    hreached.fits_call hr hswaps hcard hamount⟩
  · cases hreached with
    | configuring h =>
        obtain ⟨faucet, bound, now, rfl⟩ := h
        exact Nat.zero_le _
    | launched _ hw _ => exact hw.index
  · obtain ⟨-, hl⟩ := hr.of_lp_epoch he
    exact hl.deployed.books.accounting.correction_le

end Run

namespace Sample

theorem wallets_traded {w : World} (hw : traded = some w) : w.wallets.card < 2 ^ 64 := by
  have hcount : (traded.map fun w => decide (w.custody.registered_wallet_count < 2 ^ 64))
      = some true := by decide +kernel
  rw [hw] at hcount
  rw [← (reachable_traded hw).core.membership.count]
  exact of_decide_eq_true (Option.some.inj hcount)

/-- After two swaps, a further sell of any amount. -/
theorem sell_never_overflows :
    ∃ w, traded = some w ∧ w.reflection.index ≤ 2 * (MAGNITUDE / 80)
      ∧ ∀ reason, (Call.sell_trfl (.account 9) 1_000_000 0 0).run .machine w = .error reason →
        ¬ reason.arithmetic := by
  obtain ⟨w, hw⟩ := exists_traded
  have hscript := hw
  unfold traded at hscript
  cases calls_of_script hscript with
  | cons hc hs =>
      obtain ⟨hindex, -, -, hsafe⟩ := accounting_never_overflows hc hs (by decide)
      refine ⟨w, hw, hindex, hsafe _ ?_ (Nat.zero_le _)⟩
      show (w.wallets ∪ ∅).card < 2 ^ 64
      rw [Finset.union_empty]
      exact wallets_traded hw

end Sample

end CedraReflect
