/-
What a run leaves room for.

While a `u64` can count the swaps of a run, no call exceeds a width of the
accounting ([`arithmetic_fits`]): a swap moves the index by an eightieth of the
magnitude at most ([`Launched.index_call`]), and nothing else moves it. The count
of the wallets is a `u64` too, which no number of swaps fills. Registrations alone
do ([`Launched.registrations`]), and where it is full the next one aborts
([`Launched.register_overflows`]).
-/
import CedraReflect.ShortRuns
import Mathlib.Data.Finset.Preimage

set_option autoImplicit false
set_option linter.constructorNameAsVariable false

namespace CedraReflect

open reflection_math (MAGNITUDE)
open reflection_token (TOTAL_SUPPLY is_excluded_store)

section

variable [NamedAddresses] {fee_bps k : ℕ} {w w' : World} {e e' : LpEpoch} {a : Address} {c : Call}

/-! ## The index -/

/-- **The step lemma.** A swap adds at most an eightieth of the magnitude to the
index, and no other call adds anything. -/
theorem Launched.index_call (h : Launched e w) (ht : Transition e w c e' w') (hw : w.Within k) :
    w'.reflection.index ≤ w.reflection.index + c.swaps * (MAGNITUDE / 80) := by
  have hd := h.deployed
  have hquiet : c.swap = false →
      w'.reflection.index ≤ w.reflection.index + c.swaps * (MAGNITUDE / 80) := by
    intro hc
    obtain ⟨_, _, has, -, hp⟩ := h.passage ht
    obtain ⟨hindex, -⟩ := hp.core_run.scalars_eq (has.no_receive hc)
    exact hindex.le.trans (Nat.le_add_right _ _)
  cases ht with
  | @sell a n limit deadline hs =>
      change _ ≤ w.reflection.index + 1 * (MAGNITUDE / 80)
      rw [Nat.one_mul]
      have hcap := fifth_of_cap hs.input_cap
      have hsold := hw.index_sold_le (hd.core.sellInstant hs.wallet hs.funds) hcap
        (hd.feeOn_mul_le n)
      rw [(SameFees.outside (w.outside_sellSwapped e a n)).index, SameFees.checkpointed.index]
      exact hsold
  | @buy a n limit deadline hs =>
      change _ ≤ w.reflection.index + 1 * (MAGNITUDE / 80)
      rw [Nat.one_mul]
      have h₀ := hd.outside (w.outside_usdIn a n)
      have hw₀ : (w.usdIn a n).Within k := ⟨hw.index, hw.fees, hw.remainder⟩
      have hcap := swap_output_le_sixth (R := w.custody.custody_shares) pool.FIXED_AMM_FEE_BPS
        (fifth_of_cap hs.input_cap)
      have hbought := hw₀.index_bought_le
        (h₀.deployed.core.buyInstant hs.eligible hs.output_lt.le) hcap
        (hd.feeOn_mul_le (w.buyOutput n))
      rw [(SameFees.outside (w.outside_buySwapped e a n)).index, SameFees.checkpointed.index]
      exact hbought
  | _ => exact hquiet rfl

theorem Reached.index_call (hr : Reachable .machine fee_bps w) (h : Reached fee_bps k w)
    (hc : c.Commits .machine w w') :
    w'.reflection.index ≤ w.reflection.index + c.swaps * (MAGNITUDE / 80) := by
  cases h with
  | configuring h =>
      -- Before the launch, and right after it, the index is zero.
      obtain hconf | ⟨-, -, -, now, rfl⟩ := h.call hr.phase.1 hc.ideal
      · obtain ⟨faucet, bound, now, rfl⟩ := hconf
        exact Nat.zero_le _
      · exact Nat.zero_le _
  | launched h hw _ =>
      obtain ⟨e', ht⟩ := h.transition hc.ideal
      exact h.index_call ht hw

/-- No more LP shares are transferred than there can be. -/
theorem Reached.lp_amount_le (hr : Reachable .machine fee_bps w) (h : Reached fee_bps k w)
    (hc : c.Commits .machine w w') : c.lp_amount ≤ 2 ^ 57 := by
  cases c with
  | transfer_lp_shares a b n =>
      cases h with
      | configuring h =>
          -- There is no pool yet.
          exact absurd ((Tx.commits_require_bind _ _ _ _).mp hc.ideal).2 (h.not_borrow _)
      | launched h _ _ =>
          obtain ⟨e', ht⟩ := h.transition hc.ideal
          cases ht with
          | transfer_shares hs =>
              have htotal := h.deployed.books.accounting.shares_le a
              exact (hs.owned.trans htotal).trans (h.shares_le hr.usd_le)
  | _ => exact Nat.zero_le _

/-! ## The count of wallets -/

omit [NamedAddresses] in
/-- There is always one account more. -/
theorem World.exists_fresh (w : World) :
    ∃ a, a ∉ w.wallets ∧ is_excluded_store w.reflection (.primary .trfl a) = false := by
  have haccount : Function.Injective Address.account := fun m n h => Address.account.inj h
  have hstore : Function.Injective fun n => Address.primary .trfl (.account n) :=
    fun m n h => haccount (Address.primary.inj h).2
  obtain ⟨n, hn⟩ := Infinite.exists_notMem_finset (w.wallets.preimage _ haccount.injOn
    ∪ w.reflection.exclusions.keys.preimage _ hstore.injOn)
  rw [Finset.mem_union, not_or, Finset.mem_preimage, Finset.mem_preimage, Finmap.mem_keys] at hn
  refine ⟨.account n, hn.1, ?_⟩
  rw [is_excluded_store, Finmap.lookup_eq_none.mpr hn.2]
  rfl

/-- A registration commits while the count has room. -/
theorem Launched.commits_register (h : Launched e w)
    (hx : is_excluded_store w.reflection (.primary .trfl a) = false)
    (hcard : (insert a w.wallets).card < 2 ^ 64) :
    (Call.register_wallet a).Commits .machine w (w.ensured a) := by
  have hc := h.deployed.core
  have hexecutes := ((Tx.commits_register_wallet hc ()).mpr ⟨h.not_configuring, hx, rfl⟩).executes
    (Call.register_wallet a).sound
  exact hexecutes.commits (Tx.fits_register_wallet hc hcard)
    (Tx.sheltered (m := reflection_token.register_wallet a) hc.funded)

/-- **The run lemma of registrations.** However many wallets the count has room
for can be registered. -/
theorem Launched.registrations (h : Launched e w) (n : ℕ) (hn : w.wallets.card + n < 2 ^ 64) :
    ∃ cs w', Calls .machine w cs w' ∧ (∀ c ∈ cs, c.swap = false) ∧ Launched e w'
      ∧ w'.wallets.card = w.wallets.card + n := by
  induction n generalizing w with
  | zero => exact ⟨[], w, .nil w, nofun, h, rfl⟩
  | succ n ih =>
      obtain ⟨a, ha, hx⟩ := w.exists_fresh
      have hcard : (insert a w.wallets).card = w.wallets.card + 1 :=
        Finset.card_insert_of_notMem ha
      obtain ⟨_, -, hp⟩ := h.registerWallet hx
      have hensured : (w.ensured a).wallets.card = w.wallets.card + 1 := by
        rw [World.wallets_ensured, hcard]
      obtain ⟨cs, w', hrun, hcs, hlaunched, hcount⟩ := ih hp.launched (by omega)
      refine ⟨.register_wallet a :: cs, w', .cons (h.commits_register hx (by omega)) hrun, ?_,
        hlaunched, by omega⟩
      exact List.forall_mem_cons.mpr ⟨rfl, hcs⟩

omit [NamedAddresses] in
/-- A registration that the machine commits is counted. -/
theorem Tx.count_of_register_wallet (ha : a ∉ w.wallets)
    (hc : Commits (reflection_token.register_wallet a) .machine w () w') :
    w.custody.registered_wallet_count + 1 < 2 ^ 64 := by
  have hnone : w.custody.registered_wallets.lookup a = none :=
    Finmap.lookup_eq_none.mpr fun hmem => ha (Finmap.mem_keys.mpr hmem)
  have hnotMem : a ∉ w.custody.registered_wallets := fun hmem => ha (Finmap.mem_keys.mpr hmem)
  simp only [reflection_token.register_wallet, reflection_token.assert_token_transferable,
    reflection_token.borrow_state, reflection_token.borrow_custody,
    reflection_token.ensure_registered_wallet_for_store, reflection_token.ensure_registered_wallet,
    reflection_token.is_registered_wallet, reflection_token.u64, checked, commits_bind,
    commits_pure, commits_gets, commits_require, commits_asks, commits_balance, hnone, hnotMem,
    Option.getD_none, Bool.false_eq_true, if_false, and_assoc, exists_and_left, exists_eq_left,
    exists_const] at hc
  obtain ⟨-, -, -, hfits, -⟩ := hc
  simpa [Arithmetic.fits] using hfits

/-- Where the count is full, a registration is stopped by it. -/
theorem Launched.register_overflows (h : Launched e w) (ha : a ∉ w.wallets)
    (hx : is_excluded_store w.reflection (.primary .trfl a) = false)
    (hfull : w.wallets.card + 1 = 2 ^ 64) :
    ∃ reason, (Call.register_wallet a).run .machine w = .error reason ∧ reason.arithmetic := by
  have hc := h.deployed.core
  have hexecutes := ((Tx.commits_register_wallet hc ()).mpr ⟨h.not_configuring, hx, rfl⟩).executes
    (Call.register_wallet a).sound
  rcases hexecutes.machine with hcommits | ⟨module, hoverflow⟩
  · have hcount := Tx.count_of_register_wallet ha hcommits
    rw [hc.membership.count] at hcount
    omega
  · -- The stores have room, so that it is a width of the accounting.
    have hspacious : Spacious (reflection_token.register_wallet a) w := Tx.sheltered hc.funded
    refine ⟨.overflow module, hoverflow, ?_⟩
    cases haccounts : module.accounts with
    | true => exact haccounts
    | false => exact absurd haccounts (hspacious _ hoverflow)

/-! ## The theorem -/

/-- **What a short run leaves room for.** The next call adds at most an eightieth
of the magnitude to the index, and that only if it is a swap. Every correction is
within what it corrects or what was collected, and every amount that is cast is
within the type it is cast to. No arithmetic of the accounting stops the call, if
the accounts it registers can be counted and it asks for no more LP shares than a
transfer that goes through can move. -/
theorem arithmetic_fits (h : ShortRun fee_bps w) :
    (∀ (c : Call) w', c.Commits .machine w w' →
        w'.reflection.index ≤ w.reflection.index + c.swaps * (MAGNITUDE / 80)
          ∧ c.lp_amount ≤ 2 ^ 57)
      ∧ ((∀ a, (w.position a).correction.toInt.natAbs
            ≤ max (w.raw a * w.reflection.index) (MAGNITUDE * w.reflection.lifetime_fees))
        ∧ w.custody.pool_position.correction.toInt.natAbs
          ≤ max (w.custody.custody_shares * w.reflection.index)
            (MAGNITUDE * w.reflection.lifetime_fees)
        ∧ w.reflection.aggregate_correction.toInt.natAbs
          ≤ max (w.reflection.total_shares * w.reflection.index)
            (MAGNITUDE * w.reflection.lifetime_fees))
      ∧ ((∀ i, w.pending i < 2 ^ 64) ∧ w.custody.rounding_reserve < 2 ^ 128)
      ∧ (∀ k e, w.lp_epoch k = some e →
        ((∀ a, (e.position a).correction.toInt.natAbs
            ≤ max ((e.position a).shares * e.index) (MAGNITUDE * e.lifetime_received))
          ∧ e.aggregate_correction.toInt.natAbs
            ≤ max (e.total_shares * e.index) (MAGNITUDE * e.lifetime_received))
        ∧ (∀ a, e.pending a < 2 ^ 64) ∧ e.rounding_reserve < 2 ^ 128)
      ∧ ∀ c : Call, (w.wallets ∪ c.accounts).card < 2 ^ 64 → c.lp_amount ≤ 2 ^ 57 →
        ∀ reason, c.run .machine w = .error reason → ¬ reason.arithmetic := by
  have hr := h.reachable
  have hc := hr.core
  obtain ⟨k, hk, hreached⟩ := h.reached
  refine ⟨fun c w' hcall => ⟨hreached.index_call hr hcall, hreached.lp_amount_le hr hcall⟩,
    hc.correction_le, ⟨hc.pending_lt, ?_⟩, fun k e he => ?_,
    fun c hcard hamount => hreached.fits_call hr hk hcard hamount⟩
  · -- The reserve of rounding is part of the vault.
    have hround := hc.rounding
    rw [hc.accounting.reserve_eq] at hround
    rw [hround]
    split <;> norm_num
  · obtain ⟨-, hl⟩ := hr.of_lp_epoch he
    have hbooks := hl.deployed.books
    have hacc := hbooks.accounting
    obtain ⟨liability, hliability⟩ := Int.eq_ofNat_of_zero_le hacc.liability_nonneg
    obtain ⟨hnamed, hvault⟩ := hl.deployed.backed.named hbooks hliability
    exact ⟨hacc.correction_le, hl.deployed.backed.pending_lt hacc, by omega⟩

end

namespace Sample

/-- After two swaps, a further sell. -/
theorem arithmetic_fits_traded : ∃ w, traded = some w
    ∧ (∀ w', (Call.sell_trfl (.account 9) 1_000_000 0 0).Commits .machine w w' →
      w'.reflection.index ≤ w.reflection.index + 1 * (MAGNITUDE / 80))
    ∧ ∀ reason, (Call.sell_trfl (.account 9) 1_000_000 0 0).run .machine w = .error reason →
      ¬ reason.arithmetic := by
  obtain ⟨w, hw⟩ := exists_traded
  obtain ⟨hindex, -, -, -, hsafe⟩ := arithmetic_fits (shortRun_traded hw)
  refine ⟨w, hw, fun w' hc => (hindex _ w' hc).1, hsafe _ ?_ (Nat.zero_le _)⟩
  show (w.wallets ∪ ∅).card < 2 ^ 64
  rw [Finset.union_empty]
  exact wallets_traded hw

/-- After two swaps and as many registrations as can be counted, one more. -/
theorem arithmetic_overflows : ∃ (w : World) (a : Address) (reason : Abort), ShortRun 50 w
    ∧ (Call.register_wallet a).run .machine w = .error reason ∧ reason.arithmetic := by
  obtain ⟨w, hw⟩ := exists_traded
  have hshort := shortRun_traded hw
  obtain ⟨e, hl⟩ := hshort.reachable.launched (by rw [live_traded hw]; simp)
  have hcount := wallets_traded hw
  obtain ⟨cs, w', hrun, hcs, hl', hfull⟩ := hl.registrations (2 ^ 64 - 1 - w.wallets.card)
    (by omega)
  obtain ⟨a, ha, hx⟩ := w'.exists_fresh
  obtain ⟨reason, hreason, harithmetic⟩ := hl'.register_overflows ha hx (by omega)
  exact ⟨w', _, reason, hshort.calls hrun hcs, hreason, harithmetic⟩

end Sample

end CedraReflect
