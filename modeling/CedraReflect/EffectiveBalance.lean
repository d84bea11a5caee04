/-
Effective balances.

What a wallet can spend is its raw balance and what it has earned and not yet
been paid, [`World.effective`]. A payment moves units from the second part to
the first, a transfer moves units of the sum: the lemmas say what each effect
does to the two parts of every account, and the sums follow.
-/
import CedraReflect.Reach

set_option autoImplicit false
set_option linter.constructorNameAsVariable false

namespace CedraReflect

open Dividend (Ledger Act Valid Run)
open reflection_math (MAGNITUDE MAGNITUDE_pos)
open reflection_token (TOTAL_SUPPLY is_excluded_store)

namespace World

/-- What `a` can spend. -/
def effective (w : World) (a : Address) : ℕ := w.raw a + w.pending (some a)

variable {w : World} {a b : Address} {n : ℕ} {i : Option Address}

/-! ## Pending amounts -/

theorem pending_walletDebited (hn : n ≤ w.raw a) : (w.walletDebited a n).pending i = w.pending i := by
  rw [pending, coreLedger_walletDebited w hn]
  rfl

theorem pending_walletCredited : (w.walletCredited a n).pending i = w.pending i := by
  rw [pending, coreLedger_walletCredited]
  rfl

theorem pending_enrolled (store : Address) : (w.enrolled a store).pending i = w.pending i := by
  rw [pending, coreLedger_enrolled]
  rfl

@[simp] theorem pending_ensured : (w.ensured a).pending i = w.pending i := by
  unfold ensured
  split
  · rfl
  · exact pending_enrolled _

@[simp] theorem raw_logged (event : Event) : (w.logged event).raw b = w.raw b := rfl

@[simp] theorem pending_logged (event : Event) : (w.logged event).pending i = w.pending i := rfl

theorem pending_walletPaid :
    (w.walletPaid a n).pending i
      = if i = some a then w.pending (some a) - n else w.pending i := by
  rw [pending, coreLedger_walletPaid, Dividend.pending_pay]
  rfl

/-! ## A payment -/

variable (explicit_claim : Bool) (trigger : Trigger)

theorem pending_materialized :
    (w.materialized a n explicit_claim trigger).pending i
      = if i = some a then w.pending (some a) - n else w.pending i := by
  have h : (w.materialized a n explicit_claim trigger).pending i
      = ((w.walletPaid a n).walletCredited a n).pending i := by
    unfold materialized
    cases explicit_claim <;> rfl
  rw [h, pending_walletCredited, pending_walletPaid]

theorem raw_materialized :
    (w.materialized a n explicit_claim trigger).raw b = if b = a then w.raw a + n else w.raw b := by
  have h : (w.materialized a n explicit_claim trigger).raw b
      = ((w.walletPaid a n).walletCredited a n).raw b := by
    unfold materialized
    cases explicit_claim <;> rfl
  rw [h, raw_walletCredited, raw_walletPaid, raw_walletPaid]

theorem vault_materialized :
    (w.materialized a n explicit_claim trigger).balance .reward_vault
      = w.balance .reward_vault - n := by
  have h : (w.materialized a n explicit_claim trigger).balance .reward_vault
      = ((w.walletPaid a n).walletCredited a n).balance .reward_vault := by
    unfold materialized
    cases explicit_claim <;> rfl
  rw [h]
  simp [walletCredited, addRaw, walletPaid]

theorem pending_materializedAll :
    (w.materializedAll a explicit_claim trigger).pending i
      = if i = some a then 0 else w.pending i := by
  unfold materializedAll
  by_cases hz : w.pending (some a) = 0
  · rw [if_pos hz]
    by_cases hi : i = some a
    · rw [if_pos hi, hi, hz]
    · rw [if_neg hi]
  · rw [if_neg hz, pending_materialized, Nat.sub_self]

theorem raw_materializedAll :
    (w.materializedAll a explicit_claim trigger).raw b
      = if b = a then w.effective a else w.raw b := by
  unfold materializedAll effective
  by_cases hz : w.pending (some a) = 0
  · rw [if_pos hz, hz, Nat.add_zero]
    by_cases hb : b = a
    · rw [if_pos hb, hb]
    · rw [if_neg hb]
  · rw [if_neg hz, raw_materialized]

/-- **A payment leaves every effective balance as it was.** -/
theorem effective_materialized (hn : n ≤ w.pending (some a)) :
    (w.materialized a n explicit_claim trigger).effective b = w.effective b := by
  unfold effective
  rw [raw_materialized, pending_materialized]
  by_cases hb : b = a
  · subst hb
    rw [if_pos rfl, if_pos rfl]
    omega
  · rw [if_neg hb, if_neg (by simpa using hb)]

theorem effective_materializedAll :
    (w.materializedAll a explicit_claim trigger).effective b = w.effective b := by
  unfold materializedAll
  split
  · rfl
  · exact effective_materialized _ _ le_rfl

/-! ## A transfer -/

/-- What leaves a registered wallet, after all it has earned has been paid. -/
theorem parts_sent (hn : n ≤ w.effective a) :
    (w.sent a n).raw b = (if b = a then w.effective a - n else w.raw b)
      ∧ (w.sent a n).pending i = if i = some a then 0 else w.pending i := by
  have hraw : n ≤ (w.materializedAll a false .TRANSFER_SEND).raw a := by
    rwa [raw_materializedAll, if_pos rfl]
  constructor
  · rw [sent, raw_logged, raw_walletDebited, raw_materializedAll, raw_materializedAll, if_pos rfl]
    by_cases hb : b = a
    · rw [if_pos hb, if_pos hb]
    · rw [if_neg hb, if_neg hb, if_neg hb]
  · rw [sent, pending_logged, pending_walletDebited hraw, pending_materializedAll]

/-- What reaches a wallet, after it has been registered and paid. -/
theorem parts_arrived :
    (w.arrived a n).raw b = (if b = a then w.effective a + n else w.raw b)
      ∧ (w.arrived a n).pending i = if i = some a then 0 else w.pending i := by
  have heff : (w.ensured a).effective a = w.effective a := by
    rw [effective, pending_ensured, raw, balance_ensured]
    rfl
  have hraw : (w.ensured a).raw b = w.raw b := by rw [raw, balance_ensured, raw]
  constructor
  · rw [arrived, raw_logged, raw_walletCredited, raw_materializedAll, raw_materializedAll,
      if_pos rfl, heff, hraw]
    by_cases hb : b = a
    · rw [if_pos hb, if_pos hb]
    · rw [if_neg hb, if_neg hb, if_neg hb]
  · rw [arrived, pending_logged, pending_walletCredited, pending_materializedAll, pending_ensured]

end World

/-! ## Payouts -/

namespace World

variable {w : World} {a b : Address} {n : ℕ}

/-- A wallet that is registered, paid what it earned, and then handed `n` units
by whoever moves no other wallet's parts. -/
theorem effective_handed {u : World} (x : Bool) (t : Trigger)
    (hraw : ∀ b, u.raw b = ((w.ensured a).materializedAll a x t).raw b)
    (hpending : ∀ b, u.pending (some b) = ((w.ensured a).materializedAll a x t).pending (some b)) :
    (u.walletCredited a n).effective b = if b = a then w.effective a + n else w.effective b := by
  have heff : ∀ c, (w.ensured a).effective c = w.effective c := fun c => by
    rw [effective, pending_ensured, raw, balance_ensured]
    rfl
  have hparts : ∀ c, u.raw c + u.pending (some c) = w.effective c := fun c => by
    rw [hraw, hpending, ← heff c]
    exact effective_materializedAll x t
  unfold effective at hparts ⊢
  rw [raw_walletCredited, pending_walletCredited]
  by_cases hb : b = a
  · rw [if_pos hb, if_pos hb, hb, ← hparts a]
    omega
  · rw [if_neg hb, if_neg hb, ← hparts b]

theorem effective_paidOut :
    (w.paidOut a n).effective b = if b = a then w.effective a + n else w.effective b := by
  refine effective_handed false .LP_PAYOUT (fun c => ?_) fun c => ?_
  · rw [raw, debit_balance, Function.update_of_ne Address.noConfusion, raw]
  · rw [pending, coreLedger_debit _ _ (.inr rfl), pending]

theorem effective_released (hn : n ≤ w.custody.custody_shares) :
    (w.released a n).effective b = if b = a then w.effective a + n else w.effective b := by
  refine effective_handed false .LIQUIDITY_OUT (fun c => raw_poolDebited _ _ _) fun c => ?_
  rw [pending, coreLedger_poolDebited _ (by simpa using hn)]
  rfl

theorem effective_rewarded (e : LpEpoch) :
    (w.rewarded e a).effective b
      = if b = a then w.effective a + e.pending a else w.effective b := by
  unfold rewarded
  split
  · next hz =>
      by_cases hb : b = a
      · rw [if_pos hb, hz, hb, Nat.add_zero]
      · rw [if_neg hb]
  · exact effective_paidOut

end World

/-! ## Two payments are one -/

namespace World

/-- A state without its journal. -/
def unlogged (w : World) : World := { w with events := [] }

/-- What a payment of `n` units leaves, whatever is said of it. -/
def settledWallet (w : World) (a : Address) (n : ℕ) : World :=
  { w with
    reflection :=
      { w.reflection with
        positions := w.reflection.positions.insert a
          ⟨.ofInt ((w.position a).correction.toInt - n * w.reflection.index),
            (w.position a).claimed + n⟩
        aggregate_correction :=
          .ofInt (w.reflection.aggregate_correction.toInt - n * w.reflection.index)
        total_shares := w.reflection.total_shares + n
        lifetime_materialized := w.reflection.lifetime_materialized + n }
    balance := Function.update
      (Function.update w.balance .reward_vault (w.balance .reward_vault - n)) (.primary .trfl a)
      (w.raw a + n)
    events := [] }

theorem unlogged_materialized (w : World) (a : Address) {n : ℕ} (hn : n ≠ 0)
    (explicit_claim : Bool) (trigger : Trigger) :
    (w.materialized a n explicit_claim trigger).unlogged = w.settledWallet a n := by
  have h : (w.materialized a n explicit_claim trigger).unlogged
      = ((w.walletPaid a n).walletCredited a n).unlogged := by
    unfold materialized
    cases explicit_claim <;> rfl
  have hf : Function.update (Function.update w.in_flight .trfl (w.in_flight .trfl + n)) .trfl
      (w.in_flight .trfl + n - n) = w.in_flight := by
    rw [Function.update_idem, Nat.add_sub_cancel, Function.update_eq_self]
  rw [h]
  simp only [unlogged, walletCredited, addRaw, walletPaid, debit, credit, settledWallet, raw,
    if_neg hn, position, Finmap.lookup_insert, Option.getD_some, Finmap.insert_insert,
    Function.update_self, hf, ne_eq, reduceCtorEq, not_false_eq_true, Function.update_of_ne]

/-- **Two payments leave what one payment of their sum leaves.** -/
theorem settledWallet_add (w : World) (a : Address) (m n : ℕ) :
    (w.settledWallet a m).settledWallet a n = w.settledWallet a (m + n) := by
  simp only [settledWallet, raw, position, Finmap.lookup_insert, Option.getD_some,
    Finmap.insert_insert, Function.update_self, ne_eq, reduceCtorEq, not_false_eq_true,
    Function.update_of_ne, SignedU256.toInt_ofInt]
  have hc : ∀ z : ℤ, z - m * w.reflection.index - n * w.reflection.index
      = z - (m + n : ℕ) * w.reflection.index := fun z => by push_cast; ring
  have hb : ∀ x y x' y' : ℕ,
      Function.update (Function.update (Function.update (Function.update w.balance .reward_vault x)
          (.primary .trfl a) y) .reward_vault x') (.primary .trfl a) y'
        = Function.update (Function.update w.balance .reward_vault x') (.primary .trfl a) y' := by
    intro x y x' y'
    funext s
    simp only [Function.update_apply]
    split_ifs <;> rfl
  rw [hb]
  simp only [hc, Nat.add_assoc, Nat.sub_sub]

end World

/-! ## The hooks and the claims -/

/-- A primary-store transfer: what the framework does between the two hooks is
to carry the asset. -/
def reflection_token.hook_transfer [NamedAddresses] (sender recipient : Address) (amount : ℕ) :
    Move Unit := do
  let asset ← withdraw_hook_impl (.primary .trfl sender) amount
  deposit_hook_impl (.primary .trfl recipient) asset

instance [NamedAddresses] {arithmetic : Arithmetic} (a b : Address) (n : ℕ) :
    Sound arithmetic (reflection_token.hook_transfer a b n) := by
  unfold reflection_token.hook_transfer; infer_instance

namespace Tx

open reflection_token

variable [NamedAddresses] {w w' : World} {a b : Address} {n : ℕ}

theorem commits_derived_balance_hook_impl (h : Core w) (x : ℕ) :
    Commits (derived_balance_hook_impl (.primary .trfl a)) .ideal w x w' ↔
      x = w.effective a ∧ w' = w := by
  have helig := is_eligible_iff h (.primary .trfl a)
  simp only [derived_balance_hook_impl, commits_bind, commits_borrow_state,
    commits_borrow_custody, commits_balance, and_assoc, exists_and_left, exists_eq_left]
  by_cases ha : a ∈ w.wallets
  · have ht := helig.mpr ⟨a, ha, rfl⟩
    simp only [ht, Bool.true_eq_false, if_false, Address.owner, commits_bind,
      commits_claimable_for_store h, commits_checked, World.effective]
    simp [World.raw]
  · have hz : w.pending (some a) = 0 :=
      h.membership.pending_of_notMem fun hp => ha (h.membership.position_wallet a hp)
    have hf : is_eligible_wallet_store w.reflection w.custody (.primary .trfl a) = false := by
      by_contra hne
      obtain ⟨b, hb, heq⟩ := helig.mp (Bool.eq_true_of_not_eq_false hne)
      injection heq with _ hab
      exact ha (hab ▸ hb)
    simp only [hf, if_true, commits_pure, World.effective, hz, Nat.add_zero, World.raw]

theorem commits_hook_transfer (h : Core w) (hl : w.reflection.lifecycle ≠ .CONFIGURING)
    (ha : a ∈ w.wallets) (hb : is_excluded_store w.reflection (.primary .trfl b) = false) (u : Unit) :
    Commits (hook_transfer a b n) .ideal w u w' ↔
      n ≤ w.effective a ∧ w' = (w.sent a n).arrived b n := by
  have hraw : (w.materializedAll a false .TRANSFER_SEND).raw a = w.effective a := by
    rw [World.raw_materializedAll, if_pos rfl]
  simp only [hook_transfer, commits_bind, commits_withdraw_hook_wallet h ha, hraw]
  constructor
  · rintro ⟨asset, v, ⟨-, hn, rfl, rfl⟩, hd⟩
    have hs := h.moved_sent (n := n) ha (by rwa [hraw])
    obtain ⟨-, -, -, c, hc, -, rfl⟩ := (commits_deposit_hook_impl hs.core u).mp hd
    injection hc with _ hbc
    exact ⟨hn, by rw [hbc]⟩
  · rintro ⟨hn, rfl⟩
    have hs := h.moved_sent (n := n) ha (by rwa [hraw])
    refine ⟨⟨.trfl, n⟩, w.sent a n, ⟨hl, hn, rfl, rfl⟩, ?_⟩
    refine (commits_deposit_hook_impl hs.core u).mpr ⟨?_, rfl, ?_, b, rfl, ?_, rfl⟩
    · rw [hs.frame.lifecycle]
      exact hl
    · show n ≤ ((w.materializedAll a false .TRANSFER_SEND).walletDebited a n).in_flight .trfl
      rw [World.in_flight_walletDebited]
      omega
    · rw [is_excluded_store, hs.frame.exclusions]
      exact hb

end Tx

namespace World

variable {w : World} {a b c : Address} {n : ℕ}

theorem effective_sent (hn : n ≤ w.effective a) :
    (w.sent a n).effective c = if c = a then w.effective a - n else w.effective c := by
  unfold effective
  rw [(parts_sent (b := c) (i := none) hn).1, (parts_sent (b := c) (i := some c) hn).2]
  by_cases hc : c = a
  · rw [if_pos hc, if_pos (by rw [hc]), if_pos hc]
    rfl
  · rw [if_neg hc, if_neg (by simpa using hc), if_neg hc]

theorem effective_arrived :
    (w.arrived b n).effective c = if c = b then w.effective b + n else w.effective c := by
  unfold effective
  rw [(parts_arrived (b := c) (i := none)).1, (parts_arrived (b := c) (i := some c)).2]
  by_cases hc : c = b
  · rw [if_pos hc, if_pos (by rw [hc]), if_pos hc]
    rfl
  · rw [if_neg hc, if_neg (by simpa using hc), if_neg hc]

/-- Whoever neither sends nor receives keeps both parts. -/
theorem parts_bystander (hn : n ≤ w.effective a) (ha : c ≠ a) (hb : c ≠ b) :
    ((w.sent a n).arrived b n).raw c = w.raw c
      ∧ ((w.sent a n).arrived b n).pending (some c) = w.pending (some c) := by
  have ha' : some c ≠ some a := by simpa using ha
  have hb' : some c ≠ some b := by simpa using hb
  constructor
  · rw [(parts_arrived (i := none)).1, if_neg hb, (parts_sent (i := none) hn).1, if_neg ha]
  · rw [(parts_arrived (b := c)).2, if_neg hb', (parts_sent (b := c) hn).2, if_neg ha']

end World

section Claims

variable [NamedAddresses] {arithmetic : Arithmetic} {fee_bps : ℕ} {w w' : World} {a b : Address}
  {n : ℕ}

/-- A wallet has been registered, so the system has been launched. -/
theorem Reachable.of_wallet (h : Reachable arithmetic fee_bps w) (ha : a ∈ w.wallets) :
    w.reflection.lifecycle ≠ .CONFIGURING := by
  obtain ⟨-, hc | ⟨hl, -⟩⟩ := h.phase
  · obtain ⟨faucet, bound, now, rfl⟩ := hc
    simp [World.wallets, World.configuring] at ha
  · exact hl.not_configuring

omit [NamedAddresses] in
/-- Who is owed something is registered. -/
theorem Core.wallet_of_pending (h : Core w) (hp : 0 < w.pending (some a)) : a ∈ w.wallets := by
  refine h.membership.position_wallet a ?_
  by_contra hna
  rw [h.membership.pending_of_notMem hna] at hp
  omega

/-- No claim moves an effective balance. -/
theorem Core.effective_claimed (h : Core w) {w' : World}
    (hcl : (Call.claim a n).Commits arithmetic w w' ∨ (Call.claim_all a).Commits arithmetic w w')
    (c : Address) : w'.effective c = w.effective c := by
  rcases hcl with hcl | hcl
  · obtain ⟨-, -, -, hn, rfl⟩ := (Tx.commits_claim h ()).mp (Call.Commits.ideal hcl)
    exact World.effective_materialized _ _ hn
  · obtain ⟨-, -, -, rfl⟩ := (Tx.commits_claim_all h ()).mp (Call.Commits.ideal hcl)
    exact World.effective_materialized _ _ le_rfl

/-- What a claim pays goes from the vault to the claimant's balance. -/
theorem Core.claim_pays (h : Core w) (hc : (Call.claim a n).Commits arithmetic w w') :
    w'.raw a = w.raw a + n ∧ w'.balance .reward_vault + n = w.balance .reward_vault := by
  obtain ⟨-, -, -, hn, rfl⟩ := (Tx.commits_claim h ()).mp (Call.Commits.ideal hc)
  have hle := hn.trans (h.accounting.pending_le_vault (some a))
  rw [World.raw_materialized, if_pos rfl, World.vault_materialized]
  omega

/-- Claiming all pays all that is pending. -/
theorem Core.claim_all_pays (h : Core w) (hc : (Call.claim_all a).Commits arithmetic w w') :
    w'.raw a = w.raw a + w.pending (some a) ∧ w'.pending (some a) = 0
      ∧ w'.balance .reward_vault + w.pending (some a) = w.balance .reward_vault := by
  obtain ⟨-, -, -, rfl⟩ := (Tx.commits_claim_all h ()).mp (Call.Commits.ideal hc)
  have hle := h.accounting.pending_le_vault (some a)
  rw [World.raw_materialized, if_pos rfl, World.pending_materialized, if_pos rfl,
    World.vault_materialized]
  omega

end Claims

end CedraReflect
