/-
The wallet entries of a launched system: registration, transfers, claims and
the two faucets.

Nothing they do is seen by the pool. Each leaves behind one of the effects of
`CoreStep`, possibly with a change of tUSD or of the faucet's clock beside it,
and every one of them is a passage without fee receipts.
-/
import CedraReflect.PoolEntries

set_option autoImplicit false
set_option linter.constructorNameAsVariable false

namespace CedraReflect

open Dividend (Ledger Act Valid Run)
open reflection_math (MAGNITUDE)
open reflection_token (TOTAL_SUPPLY is_excluded_store)
open test_faucet (FIXED_TRFL_GRANT FIXED_TUSD_GRANT FIXED_COOLDOWN_SECONDS)

/-! ## The effects -/

namespace World

variable (w : World) (a b : Address) (n : ℕ) (f : FaucetState)

/-- A withdrawal from a primary store. Where it is not a wallet's it is empty,
and nothing happens. -/
def sentFrom : World := if a ∈ w.wallets then w.sent a n else w

/-- `primary_fungible_store::transfer` of tRFL. -/
def transferred : World := (w.sentFrom a n).arrived b n

/-- `reflection_router::transfer`. -/
def walletTransferred : World := (w.transferred a b n).logged (.WalletTransfer a b n)

/-- Whether `n` units can be withdrawn from the primary store of `a`: a wallet's
is first topped up with what is pending, any other gives away nothing. -/
def Sends : Prop :=
  if a ∈ w.wallets then n ≤ (w.materializedAll a false .TRANSFER_SEND).raw a
  else is_excluded_store w.reflection (.primary .trfl a) = true ∧ n = 0

/-- The clock of the tRFL faucet set for `a`. -/
def trflClaimed : World :=
  { w with faucet := some { f with last_trfl_claim := f.last_trfl_claim.insert a w.now_seconds } }

/-- The clock of the tUSD faucet set for `a`. -/
def tusdClaimed : World :=
  { w with faucet := some { f with last_tusd_claim := f.last_tusd_claim.insert a w.now_seconds } }

/-- Fresh tUSD in a wallet. -/
def usdMinted (operator : Address) : World :=
  ((w.minted .tusd n).credit .tusd (.primary .tusd a) n).logged (.MockUsdMinted a n operator)

/-- The clock moves. -/
def ticked : World := { w with now_seconds := w.now_seconds + n }

/-- Whether the faucet's clock lets `a` claim. -/
def Available (last_claims : Table Address ℕ) : Prop :=
  ∀ previous, last_claims.lookup a = some previous →
    previous ≤ w.now_seconds ∧ FIXED_COOLDOWN_SECONDS ≤ w.now_seconds - previous

end World

/-- A tRFL store that is neither frozen nor a wallet's is empty. -/
theorem Deployed.empty_store {e : LpEpoch} {w : World} (h : Deployed e w) {s : Address}
    (hm : s.store_metadata = some .trfl) (hf : w.frozen s = false)
    (hw : ∀ a ∈ w.wallets, s ≠ .primary .trfl a) : w.balance s = 0 := by
  refine h.core.supply.elsewhere s hm fun hs => ?_
  rw [h.frozen, decide_eq_false_iff_not] at hf
  simp only [World.stores, Finset.mem_union, Finset.mem_insert, Finset.mem_singleton,
    Finset.mem_map, World.primaryStore_apply] at hs
  rcases hs with (rfl | rfl | rfl | rfl) | ⟨a, ha, rfl⟩
  · exact hf (by decide)
  · exact hf (by decide)
  · exact hf (by decide)
  · exact hf (by decide)
  · exact hw a ha rfl

@[simp] theorem World.balance_logged (w : World) (event : Event) :
    (w.logged event).balance = w.balance := rfl

/-- Nothing out of nowhere changes nothing. -/
theorem World.debit_zero (w : World) (ref : Metadata) (s : Address) : w.debit ref s 0 = w := by
  simp [World.debit]

theorem Launched.not_configuring {e : LpEpoch} {w : World} (h : Launched e w) :
    w.reflection.lifecycle ≠ .CONFIGURING := by
  rcases h.phase with hl | hc
  · simp [hl.lifecycle]
  · simp [hc.lifecycle]

/-! ## The specifications -/

namespace Tx

variable {w w' : World} {r : Arithmetic} {a b store : Address} {n : ℕ} {e : LpEpoch}

theorem commits_assert_available (last_claims t : Table Address ℕ) :
    Commits (test_faucet.assert_available last_claims a) r w t w' ↔
      w.Available a last_claims ∧ t = last_claims.insert a w.now_seconds ∧ w' = w := by
  unfold test_faucet.assert_available World.Available
  simp only [commits_bind, commits_gets, and_assoc, exists_and_left, exists_eq_left]
  by_cases ha : a ∈ last_claims
  · obtain ⟨previous, hp⟩ := Finmap.mem_iff.mp ha
    simp only [ha, if_true, commits_bind, hp, commits_expect, commits_require, commits_pure,
      Option.some.injEq, forall_eq', and_assoc, exists_and_left, exists_eq_left, exists_eq_left']
    grind
  · have hn : last_claims.lookup a = none := Finmap.lookup_eq_none.mpr ha
    simp only [ha, if_false, hn, commits_pure, reduceCtorEq, false_implies, implies_true, true_and]

theorem commits_assert_open (u : Unit) :
    Commits test_faucet.assert_open r w u w' ↔ w.reflection.lifecycle = .LIVE ∧ w' = w := by
  simp only [test_faucet.assert_open, reflection_token.is_sealed, reflection_token.is_closed,
    commits_bind, commits_borrow_state, commits_pure, commits_require, and_assoc, exists_and_left,
    exists_eq_left]
  cases hl : w.reflection.lifecycle <;> simp

/-- **`withdraw` of an owner**: out of a wallet, out of a store that has
nothing, or out of a store of tUSD. -/
theorem commits_withdraw [NamedAddresses] (h : Launched e w) {owner : Address}
    (asset : FungibleAsset)
    (hc : Commits (dispatchable_fungible_asset.withdraw owner store n) .ideal w asset w') :
    w.frozen store = false ∧
      ((∃ a ∈ w.wallets, store = .primary .trfl a
          ∧ n ≤ (w.materializedAll a false .TRANSFER_SEND).raw a ∧ w' = w.sent a n)
        ∨ w' = w
        ∨ (store.store_metadata = some .tusd ∧ n ≤ w.balance store
          ∧ w' = w.debit .tusd store n)) := by
  have hd := h.deployed
  simp only [dispatchable_fungible_asset.withdraw, commits_bind, commits_withdraw_sanity_check,
    and_assoc, exists_and_left, exists_eq_left, exists_const] at hc
  obtain ⟨-, hfr, hc⟩ := hc
  refine ⟨hfr, ?_⟩
  -- Only tRFL goes through the hook, which knows the wallets.
  by_cases hm : store.store_metadata = some .trfl
  · rw [if_pos hm] at hc
    by_cases hw : ∃ a ∈ w.wallets, store = .primary .trfl a
    · obtain ⟨a, ha, rfl⟩ := hw
      obtain ⟨-, hn, -, hw'⟩ := (commits_withdraw_hook_wallet hd.core ha asset).mp hc
      exact .inl ⟨a, ha, rfl, hn, hw'⟩
    · have hne : ∀ a ∈ w.wallets, store ≠ .primary .trfl a := fun a ha he => hw ⟨a, ha, he⟩
      obtain ⟨-, -, -, hn, -, rfl⟩ := (commits_withdraw_hook_other hd.core hne asset).mp hc
      rw [hd.empty_store hm hfr hne, Nat.le_zero] at hn
      rw [hn, World.debit_zero]
      exact .inr (.inl rfl)
  · rw [if_neg hm, commits_withdraw_with_ref] at hc
    obtain ⟨⟨hu, hn⟩, -, hw'⟩ := hc
    exact .inr (.inr ⟨hu, hn, hw'⟩)

theorem commits_withdraw_primary [NamedAddresses] (h : Launched e w) (asset : FungibleAsset) :
    Commits (primary_fungible_store.withdraw a .trfl n) .ideal w asset w' ↔
      w.Sends a n ∧ asset = ⟨.trfl, n⟩ ∧ w' = w.sentFrom a n := by
  have hd := h.deployed
  have hnc := h.not_configuring
  simp only [primary_fungible_store.withdraw, dispatchable_fungible_asset.withdraw, commits_bind,
    commits_withdraw_sanity_check, Address.owner, primary_not_frozen hd, Address.store_metadata,
    if_true, true_and, exists_eq_left, exists_const]
  unfold World.Sends World.sentFrom
  split
  · next ha =>
      rw [commits_withdraw_hook_wallet hd.core ha, and_iff_right hnc]
  · next ha =>
      have hne : ∀ b ∈ w.wallets, Address.primary .trfl a ≠ .primary .trfl b := by
        rintro b hb he
        injection he with _ he
        exact ha (he ▸ hb)
      have h0 := hd.empty_store rfl (primary_not_frozen hd .trfl a) hne
      rw [commits_withdraw_hook_other hd.core hne, and_iff_right hnc, h0, Nat.le_zero]
      constructor
      · rintro ⟨hx, -, rfl, rfl, rfl⟩
        exact ⟨⟨hx, rfl⟩, rfl, World.debit_zero _ _ _⟩
      · rintro ⟨⟨hx, rfl⟩, rfl, rfl⟩
        exact ⟨hx, rfl, rfl, rfl, (World.debit_zero _ _ _).symm⟩

theorem commits_deposit [NamedAddresses] (h : Launched e w) {asset : FungibleAsset} (u : Unit) :
    Commits (dispatchable_fungible_asset.deposit store asset) .ideal w u w' ↔
      w.frozen store = false
        ∧ ((∃ a, store = .primary .trfl a
              ∧ is_excluded_store w.reflection (.primary .trfl a) = false
              ∧ asset.metadata = .trfl ∧ asset.amount ≤ w.in_flight .trfl
              ∧ w' = w.arrived a asset.amount)
          ∨ (store.store_metadata = some .tusd ∧ asset.metadata = .tusd
            ∧ asset.amount ≤ w.in_flight .tusd ∧ w' = w.credit .tusd store asset.amount)) := by
  have hnc := h.not_configuring
  simp only [dispatchable_fungible_asset.deposit, commits_bind, commits_deposit_sanity_check,
    and_assoc, exists_and_left, exists_eq_left, exists_const]
  refine and_congr_right fun hfr => ?_
  -- The hook registers the wallet, and only tRFL has one.
  by_cases hm : store.store_metadata = some .trfl
  · rw [if_pos hm, commits_deposit_hook_impl h.deployed.core, and_iff_right hnc]
    constructor
    · rintro ⟨hma, hn, a, rfl, hx, hw⟩
      exact .inl ⟨a, rfl, hx, hma, hn, hw⟩
    · rintro (⟨a, rfl, hx, hma, hn, hw⟩ | ⟨hu, -⟩)
      · exact ⟨hma, hn, a, rfl, hx, hw⟩
      · rw [hm] at hu
        cases hu
  · rw [if_neg hm, commits_deposit_with_ref, and_assoc, and_assoc]
    constructor
    · rintro ⟨hu, hma, hn, hw⟩
      exact .inr ⟨hu, hma, hn, hw⟩
    · rintro (⟨a, rfl, -⟩ | hh)
      · exact absurd rfl hm
      · exact hh

end Tx

namespace World

variable (w : World) (a b : Address) (n : ℕ)

@[simp] theorem custody_shares_sent :
    (w.sent a n).custody.custody_shares = w.custody.custody_shares := by
  simp [sent]

@[simp] theorem custody_shares_sentFrom :
    (w.sentFrom a n).custody.custody_shares = w.custody.custody_shares := by
  unfold sentFrom
  split <;> simp

@[simp] theorem custody_shares_arrived :
    (w.arrived a n).custody.custody_shares = w.custody.custody_shares := by
  simp [arrived]

@[simp] theorem custody_shares_granted (operator : Address) :
    (w.granted a n operator).custody.custody_shares = w.custody.custody_shares := by
  simp [granted]

/-- What a withdrawal leaves in flight is there to be deposited. -/
theorem Sends.in_flight {w : World} {a : Address} {n : ℕ} (h : w.Sends a n) :
    n ≤ (w.sentFrom a n).in_flight .trfl := by
  unfold Sends at h
  unfold sentFrom
  split at h
  · next ha =>
      rw [if_pos ha]
      simp [sent]
  · omega

end World

namespace Launched

variable {e e' : LpEpoch} {w w' : World} {a b : Address} {n : ℕ}

/-- **A passage that the pool does not see.** -/
theorem quiet (h : Launched e w) {as : List (Act (Option Address))} (hq : ∀ x ∈ as, Quiet x)
    (hst : Stage as [] e w e w') (hR : w'.custody.custody_shares = w.custody.custody_shares)
    (hU : w'.usd = w.usd) : Passage as [] e w e w' := by
  have hp : w'.pending none = 0 := by rw [hst.pending_none hq, h.settled]
  rcases h.phase with hl | hc
  · refine of_stage hl hst hp ?_ ?_ hl.shares_pos ?_
    · rw [hR]
      exact hl.rfl_pos
    · rw [hU]
      exact hl.usd_pos
    · rw [hR, hU]
      exact .refl _ _ _
  · have hlife := hst.lifecycle.trans hc.lifecycle
    refine ⟨⟨hst.deployed, hp, .inr ⟨hlife, hst.epoch 0 hc.epoch, hc.status, ?_, ?_,
      hc.shares_zero, hc.terminal⟩⟩, hst.core_run, hst.lp_run, hst.fee_bps, fun hl => ?_⟩
    · rw [hR, hc.rfl_zero]
    · rw [hU, hc.usd_zero]
    · rw [hl.lifecycle] at hlife
      cases hlife

/-- A passage of the wallets alone. -/
theorem moved (h : Launched e w) (hm : Moved w w')
    (hv : w'.balance .lp_reward_vault = w.balance .lp_reward_vault)
    (hR : w'.custody.custody_shares = w.custody.custody_shares) :
    ∃ as, (∀ x ∈ as, Quiet x) ∧ Passage as [] e w e w' := by
  obtain ⟨as, hq, hst⟩ := h.deployed.moved hm hv
  exact ⟨as, hq, h.quiet hq hst hR hm.frame.usd⟩

/-- A passage outside of both ledgers. -/
theorem outside (h : Launched e w) (ho : Outside w w') (hU : w'.usd = w.usd) :
    Passage [] [] e w e w' :=
  h.quiet (by simp) (h.deployed.outside ho) (by rw [ho.custody]) hU

theorem registerWallet (h : Launched e w)
    (hx : is_excluded_store w.reflection (.primary .trfl a) = false) :
    ∃ as, (∀ x ∈ as, Quiet x) ∧ Passage as [] e w e (w.ensured a) :=
  h.moved (h.deployed.core.moved_ensured hx) (by simp) (by simp)

theorem sentFrom (h : Launched e w) (hs : w.Sends a n) :
    ∃ as, (∀ x ∈ as, Quiet x) ∧ Passage as [] e w e (w.sentFrom a n) := by
  unfold World.Sends at hs
  unfold World.sentFrom
  split at hs
  · next ha =>
      rw [if_pos ha]
      exact h.moved (h.deployed.core.moved_sent ha hs) (by simp [World.sent]) (by simp)
  · next ha =>
      rw [if_neg ha]
      exact ⟨[], by simp, h.outside (.refl w) rfl⟩

theorem arrived (h : Launched e w)
    (hx : is_excluded_store w.reflection (.primary .trfl a) = false)
    (hn : n ≤ w.in_flight .trfl) :
    ∃ as, (∀ x ∈ as, Quiet x) ∧ Passage as [] e w e (w.arrived a n) :=
  h.moved (h.deployed.core.moved_arrived hx hn) (by simp [World.arrived]) (by simp)

/-- **A claim**, as a passage. -/
theorem claim (h : Launched e w) (hn0 : 0 < n) (hn : n ≤ w.pending (some a)) :
    ∃ as, (∀ x ∈ as, Quiet x) ∧ Passage as [] e w e (w.materialized a n true .MANUAL) := by
  have ha : a ∈ w.reflection.positions := by
    by_contra hne
    rw [h.deployed.core.membership.pending_of_notMem hne] at hn
    omega
  refine h.moved (h.deployed.core.moved_materialized ha hn true .MANUAL) ?_ (by simp)
  simp [World.materialized, World.walletPaid, World.walletCredited, World.addRaw]

end Launched

/-- Passages compose. -/
theorem Passage.trans {as as' : List (Act (Option Address))} {bs bs' : List (Act Address)}
    {e e' e'' : LpEpoch} {w w' w'' : World} (h : Passage as bs e w e' w')
    (h' : Passage as' bs' e' w' e'' w'') : Passage (as ++ as') (bs ++ bs') e w e'' w'' := by
  refine ⟨h'.launched, h.core_run.append h'.core_run, h.lp_run.append h'.lp_run,
    h'.fee_bps.trans h.fee_bps, fun hl'' => ?_⟩
  obtain ⟨hl', hw'⟩ := h'.worth hl''
  obtain ⟨hl, hw⟩ := h.worth hl'
  exact ⟨hl, hw.trans hl'.shares_pos hw'⟩

/-- Two passages that the pool does not see are one. -/
theorem Passage.quiet_trans {e : LpEpoch} {w w' w'' : World}
    (h : ∃ as, (∀ x ∈ as, Quiet x) ∧ Passage as [] e w e w')
    (h' : ∃ as, (∀ x ∈ as, Quiet x) ∧ Passage as [] e w' e w'') :
    ∃ as, (∀ x ∈ as, Quiet x) ∧ Passage as [] e w e w'' := by
  obtain ⟨as, hq, hp⟩ := h
  obtain ⟨as', hq', hp'⟩ := h'
  exact ⟨as ++ as', fun x hx => (List.mem_append.mp hx).elim (hq x) (hq' x), hp.trans hp'⟩

theorem World.exclusions_sentFrom (w : World) (a : Address) (n : ℕ) :
    (w.sentFrom a n).reflection.exclusions = w.reflection.exclusions := by
  unfold World.sentFrom World.sent World.materializedAll
  split
  · split <;> rfl
  · rfl

namespace Launched

variable {e e' : LpEpoch} {w w' : World} {a b : Address} {n : ℕ}

/-- **A transfer**, as a passage. -/
theorem transferred (h : Launched e w) (hs : w.Sends a n)
    (hx : is_excluded_store w.reflection (.primary .trfl b) = false) :
    ∃ as, (∀ x ∈ as, Quiet x) ∧ Passage as [] e w e (w.transferred a b n) := by
  have h₁ := h.sentFrom hs
  obtain ⟨_, -, hp₁⟩ := id h₁
  refine Passage.quiet_trans h₁ (hp₁.launched.arrived ?_ hs.in_flight)
  rw [is_excluded_store, w.exclusions_sentFrom]
  exact hx

theorem walletTransferred (h : Launched e w) (hs : w.Sends a n)
    (hx : is_excluded_store w.reflection (.primary .trfl b) = false) :
    ∃ as, (∀ x ∈ as, Quiet x) ∧ Passage as [] e w e (w.walletTransferred a b n) := by
  have h₁ := h.transferred hs hx
  obtain ⟨_, -, hp₁⟩ := id h₁
  have h₂ := hp₁.launched.outside (.logged _ (.WalletTransfer a b n)) (World.usd_logged _ _)
  exact Passage.quiet_trans h₁ ⟨[], by simp, h₂⟩

theorem granted (h : Launched e w)
    (hx : is_excluded_store w.reflection (.primary .trfl a) = false)
    (hn : n ≤ w.balance .distribution_vault) (operator : Address) :
    ∃ as, (∀ x ∈ as, Quiet x) ∧ Passage as [] e w e (w.granted a n operator) :=
  h.moved (h.deployed.core.moved_granted hx hn operator) (by simp [World.granted]) (by simp)

/-- The faucet's clock is set; the faucet itself stays. -/
theorem trflClaimed (h : Launched e w) (f : FaucetState) :
    Passage [] [] e w e (w.trflClaimed a f) :=
  h.outside ⟨rfl, rfl, rfl, rfl, rfl, rfl, by rw [h.deployed.faucet]; rfl, rfl, fun _ _ => rfl,
    rfl, rfl⟩ rfl

theorem tusdClaimed (h : Launched e w) (f : FaucetState) :
    Passage [] [] e w e (w.tusdClaimed a f) :=
  h.outside ⟨rfl, rfl, rfl, rfl, rfl, rfl, by rw [h.deployed.faucet]; rfl, rfl, fun _ _ => rfl,
    rfl, rfl⟩ rfl

theorem usdMinted (h : Launched e w) (operator : Address) :
    Passage [] [] e w e (w.usdMinted a n operator) :=
  h.outside ((Outside.minted.trans (.credit rfl)).trans (.logged _ _)) rfl

theorem ticked (h : Launched e w) : Passage [] [] e w e (w.ticked n) :=
  h.outside ⟨rfl, rfl, rfl, rfl, rfl, rfl, rfl, rfl, fun _ _ => rfl, rfl, rfl⟩ rfl

end Launched

/-! ## The specifications of the composed entries -/

namespace Tx

variable {w w' : World} {a b : Address} {n : ℕ} {e : LpEpoch}

/-- **`primary_fungible_store::transfer`** of tRFL. -/
theorem commits_transfer_primary [NamedAddresses] (h : Launched e w) (u : Unit) :
    Commits (primary_fungible_store.transfer a .trfl b n) .ideal w u w' ↔
      w.Sends a n ∧ is_excluded_store w.reflection (.primary .trfl b) = false
        ∧ w' = w.transferred a b n := by
  simp only [primary_fungible_store.transfer, primary_fungible_store.deposit, commits_bind,
    commits_withdraw_primary h, and_assoc, exists_and_left, exists_eq_left]
  refine and_congr_right fun hs => ?_
  obtain ⟨_, -, hp₁⟩ := h.sentFrom hs
  have hd₁ := hp₁.launched.deployed
  have hx : is_excluded_store (w.sentFrom a n).reflection (.primary .trfl b)
      = is_excluded_store w.reflection (.primary .trfl b) := by
    rw [is_excluded_store, w.exclusions_sentFrom, is_excluded_store]
  rw [commits_deposit hp₁.launched, and_iff_right (primary_not_frozen hd₁ .trfl b)]
  constructor
  · rintro (⟨c, hc, hxc, -, -, hw⟩ | ⟨hu, -⟩)
    · injection hc with _ hc
      subst hc
      exact ⟨hx ▸ hxc, hw⟩
    · cases hu
  · rintro ⟨hxb, hw⟩
    exact .inl ⟨b, rfl, hx.trans hxb, rfl, hs.in_flight, hw⟩

/-- **`reflection_router::transfer`.** -/
theorem commits_transfer [NamedAddresses] (h : Launched e w) (u : Unit) :
    Commits (reflection_router.transfer a b n) .ideal w u w' ↔
      w.Sends a n ∧ is_excluded_store w.reflection (.primary .trfl b) = false
        ∧ w' = w.walletTransferred a b n := by
  simp only [reflection_router.transfer, commits_bind, commits_transfer_primary h, commits_emit,
    and_assoc, exists_and_left, exists_eq_left, exists_const, World.walletTransferred, World.logged]

/-- **`test_faucet::claim_trfl`.** -/
theorem commits_claim_trfl [NamedAddresses] (h : Launched e w) (u : Unit) :
    Commits (test_faucet.claim_trfl a) .ideal w u w' ↔
      w.reflection.lifecycle = .LIVE ∧ ∃ f, w.faucet = some f ∧ w.Available a f.last_trfl_claim
        ∧ f.rfl_cap.nonce = 1 ∧ is_excluded_store w.reflection (.primary .trfl a) = false
        ∧ FIXED_TRFL_GRANT ≤ w.balance .distribution_vault
        ∧ w' = (w.trflClaimed a f).granted a FIXED_TRFL_GRANT NamedAddresses.test_assets := by
  simp only [test_faucet.claim_trfl, test_faucet.borrow_faucet, test_faucet.write_faucet,
    commits_bind, commits_assert_open, commits_gets, commits_expect, commits_assert_available,
    commits_update, and_assoc, exists_and_left, exists_eq_left, exists_const]
  refine and_congr_right fun hl => exists_congr fun f => and_congr_right fun hf =>
    and_congr_right fun hav => ?_
  have hc := (h.trflClaimed (a := a) f).launched.deployed.core
  refine (commits_faucet_grant hc u).trans ?_
  have hpos : 0 < FIXED_TRFL_GRANT := by decide
  have hl' : (w.trflClaimed a f).reflection.lifecycle = .LIVE := hl
  rw [and_iff_right hpos, and_iff_right hl']
  rfl

/-- **`test_faucet::claim_tusd`.** -/
theorem commits_claim_tusd [NamedAddresses] (h : Launched e w) (u : Unit) :
    Commits (test_faucet.claim_tusd a) .ideal w u w' ↔
      w.reflection.lifecycle = .LIVE ∧ ∃ f, w.faucet = some f ∧ w.Available a f.last_tusd_claim
        ∧ f.usd_cap.nonce = 1
        ∧ w' = (w.tusdClaimed a f).usdMinted a FIXED_TUSD_GRANT NamedAddresses.test_assets := by
  simp only [test_faucet.claim_tusd, test_faucet.borrow_faucet, test_faucet.write_faucet,
    mock_usd.mint_from_faucet, primary_fungible_store.mint,
    commits_bind, commits_assert_open, commits_gets, commits_expect, commits_assert_available,
    commits_update, commits_require, commits_deposit_sanity_check, commits_mint,
    commits_deposit_with_ref, commits_emit, and_assoc, exists_and_left, exists_eq_left,
    exists_const]
  refine and_congr_right fun hl => exists_congr fun f => and_congr_right fun hf =>
    and_congr_right fun hav => and_congr_right fun hcap => ?_
  have hpos : 0 < FIXED_TUSD_GRANT := by decide
  have hfr := primary_not_frozen h.deployed .tusd a
  simp only [hpos, hfr, Address.store_metadata, World.minted, Function.update_self,
    le_add_iff_nonneg_left, zero_le, true_and]
  rfl

end Tx

end CedraReflect
