/-
The launched system as a transition system.

[`Transition`] has one constructor for each thing a call can do to a launched
system, with what the call asks for and what it leaves. Every commit is such a
transition (`Launched.transition`), and every transition is a passage
(`Launched.passage`) whose events are those of [`CoreActs`] and [`LpActs`]: a
call is either quiet, or one of the two swaps. Whatever holds along runs is proved by
cases on transitions and no longer mentions the entries.
-/
import CedraReflect.Wallets
import CedraReflect.System

set_option autoImplicit false
set_option linter.constructorNameAsVariable false

namespace CedraReflect

open Dividend (Ledger Act Valid Run)
open reflection_math (MAGNITUDE)
open reflection_token (TOTAL_SUPPLY is_excluded_store)
open test_faucet (FIXED_TRFL_GRANT FIXED_TUSD_GRANT)
open NamedAddresses (test_assets)

/-- What the calls do to a launched system. -/
inductive Transition [NamedAddresses] (e : LpEpoch) (w : World) :
    Call → LpEpoch → World → Prop where
  | register_wallet {a : Address}
      (eligible : is_excluded_store w.reflection (.primary .trfl a) = false) :
      Transition e w (.register_wallet a) e (w.ensured a)
  | withdraw_wallet {owner a : Address} {n : ℕ} (wallet : a ∈ w.wallets)
      (funds : n ≤ (w.materializedAll a false .TRANSFER_SEND).raw a) :
      Transition e w (.withdraw owner (.primary .trfl a) n) e (w.sent a n)
  | withdraw_nothing {owner store : Address} {n : ℕ} :
      Transition e w (.withdraw owner store n) e w
  | withdraw_tusd {owner store : Address} {n : ℕ} (tusd : store.store_metadata = some .tusd)
      (unfrozen : w.frozen store = false) (funds : n ≤ w.balance store) :
      Transition e w (.withdraw owner store n) e (w.debit .tusd store n)
  | deposit_wallet {a : Address} {n : ℕ}
      (eligible : is_excluded_store w.reflection (.primary .trfl a) = false)
      (carried : n ≤ w.in_flight .trfl) :
      Transition e w (.deposit (.primary .trfl a) ⟨.trfl, n⟩) e (w.arrived a n)
  | deposit_tusd {store : Address} {n : ℕ} (tusd : store.store_metadata = some .tusd)
      (unfrozen : w.frozen store = false) (carried : n ≤ w.in_flight .tusd) :
      Transition e w (.deposit store ⟨.tusd, n⟩) e (w.credit .tusd store n)
  | transfer {a b : Address} {n : ℕ} (sends : w.Sends a n)
      (eligible : is_excluded_store w.reflection (.primary .trfl b) = false) :
      Transition e w (.transfer a b n) e (w.walletTransferred a b n)
  | claim {a : Address} {n : ℕ} (wallet : a ∈ w.wallets) (pos : 0 < n)
      (pending : n ≤ w.pending (some a)) :
      Transition e w (.claim a n) e (w.materialized a n true .MANUAL)
  | claim_all {a : Address} (wallet : a ∈ w.wallets) (pos : 0 < w.pending (some a)) :
      Transition e w (.claim_all a) e (w.materialized a (w.pending (some a)) true .MANUAL)
  | claim_trfl {a : Address} {f : FaucetState} (faucet : w.faucet = some f)
      (live : w.reflection.lifecycle = .LIVE)
      (eligible : is_excluded_store w.reflection (.primary .trfl a) = false)
      (funds : FIXED_TRFL_GRANT ≤ w.balance .distribution_vault) :
      Transition e w (.claim_trfl a) e
        ((w.trflClaimed a f).granted a FIXED_TRFL_GRANT test_assets)
  | claim_tusd {a : Address} {f : FaucetState} (faucet : w.faucet = some f)
      (live : w.reflection.lifecycle = .LIVE) :
      Transition e w (.claim_tusd a) e
        ((w.tusdClaimed a f).usdMinted a FIXED_TUSD_GRANT test_assets)
  | sell {a : Address} {n limit deadline : ℕ} (sells : Sells e w a n limit deadline) :
      Transition e w (.sell_trfl a n limit deadline) (e.checkpointed (w.sellRouted a n))
        (w.sellSwapped e a n)
  | buy {a : Address} {n limit deadline : ℕ} (buys : Buys e w a n limit deadline) :
      Transition e w (.buy_trfl a n limit deadline) (e.checkpointed (w.buyRouted a n))
        (w.buySwapped e a n)
  | add {a : Address} {max_rfl max_usd limit deadline : ℕ}
      (adds : Adds e w a max_rfl max_usd limit deadline) :
      Transition e w (.add_liquidity a max_rfl max_usd limit deadline)
        ((lp_rewards.ensure_position (e.rewarded a) a).minted a (w.mintShares e max_rfl max_usd))
        (w.liquidityAdded e a (w.mintShares e max_rfl max_usd))
  | remove {a : Address} {n min_rfl min_usd deadline : ℕ}
      (removes : Removes e w a n min_rfl min_usd deadline) (part : n ≠ e.total_shares) :
      Transition e w (.remove_liquidity a n min_rfl min_usd deadline)
        ((e.rewarded a).withdrawn a n) (w.removedPart e a n)
  | remove_all {a : Address} {n min_rfl min_usd deadline : ℕ}
      (removes : Removes e w a n min_rfl min_usd deadline) (all : n = e.total_shares) :
      Transition e w (.remove_liquidity a n min_rfl min_usd deadline)
        ((e.rewarded a).withdrawn a n).closed (w.removedAll e a n)
  | transfer_shares {a b : Address} {n : ℕ} (transfers : TransfersShares e w a b n) :
      Transition e w (.transfer_lp_shares a b n) (((e.rewarded a).rewarded b).transferred a b n)
        (w.sharesTransferred e a b n)
  | claim_shares {a : Address} {amount n : ℕ} (live : Live e w) (pos : 0 < n)
      (pending : n ≤ e.pending a) (amount_eq : n = if amount = 0 then e.pending a else amount) :
      Transition e w (.claim_lp_rewards a 1 amount) (e.paid a n) (w.lpClaimed e a n)
  | checkpoint (live : Live e w) : Transition e w .checkpoint_lp_rewards e w
  | tick {seconds : ℕ} : Transition e w (.tick seconds) e (w.ticked seconds)

/-! ## Every commit is a transition -/

namespace Tx

variable {w w' : World} {r : Arithmetic}

/-- The launch is over: nothing that configures the system commits again. -/
theorem not_commits_configuring [NamedAddresses] (w' : World) {e : LpEpoch} (h : Launched e w)
    (u : Unit) :
    (∀ admin bps, ¬ Commits (reflection_token.initialize_token admin bps) r w u w')
      ∧ (∀ a b, ¬ Commits (test_faucet.initialize_faucet a b) r w u w')
      ∧ (∀ a, ¬ Commits (reflection_token.bind_protocol_exclusions a) r w u w')
      ∧ (∀ a b c, ¬ Commits (reflection_token.seal_launch a b c) r w u w')
      ∧ (∀ a b c d, ¬ Commits (pool.launch a b c d) r w u w') := by
  have hnc := h.not_configuring
  refine ⟨fun admin bps => ?_, fun a b => ?_, fun a => ?_, fun a b c => ?_, fun a b c d => ?_⟩
  · simp [reflection_token.initialize_token, h.deployed.published]
  · obtain ⟨f, hf⟩ := Option.isSome_iff_exists.mp h.deployed.faucet
    simp [test_faucet.initialize_faucet, hf]
  · simp [reflection_token.bind_protocol_exclusions, reflection_token.assert_core_publisher, hnc]
  · simp [reflection_token.seal_launch, reflection_token.assert_core_publisher, hnc]
  · simp [pool.launch, h.deployed.pool]

end Tx

/-- **Every commit of a launched system is a transition.** -/
theorem Launched.transition [NamedAddresses] {e : LpEpoch} {w w' : World} {c : Call}
    (h : Launched e w) (hc : c.Commits .ideal w w') : ∃ e', Transition e w c e' w' := by
  obtain ⟨h₁, h₂, h₃, h₄, h₅⟩ := Tx.not_commits_configuring w' (r := .ideal) h ()
  -- By the call, through the specification of each entry function.
  cases c with
  | initialize_token admin bps => exact absurd hc (h₁ _ _)
  | initialize_faucet a b => exact absurd hc (h₂ _ _)
  | bind_protocol_exclusions a => exact absurd hc (h₃ _)
  | seal_launch a b c => exact absurd hc (h₄ _ _ _)
  | launch a b c d => exact absurd hc (h₅ _ _ _ _)
  | register_wallet a =>
      obtain ⟨-, hx, rfl⟩ := (Tx.commits_register_wallet h.deployed.core ()).mp hc
      exact ⟨e, .register_wallet hx⟩
  | withdraw owner store n =>
      simp only [Call.Commits, Call.run, Tx.commits_bind, Tx.commits_pure] at hc
      obtain ⟨asset, w₁, hc, -, rfl⟩ := hc
      obtain ⟨hfr, ⟨a, ha, rfl, hn, rfl⟩ | rfl | ⟨hu, hn, rfl⟩⟩ := Tx.commits_withdraw h asset hc
      · exact ⟨e, .withdraw_wallet ha hn⟩
      · exact ⟨e, .withdraw_nothing⟩
      · exact ⟨e, .withdraw_tusd hu hfr hn⟩
  | deposit store asset =>
      obtain ⟨metadata, n⟩ := asset
      obtain ⟨hfr, ⟨a, rfl, hx, rfl, hn, rfl⟩ | ⟨hu, rfl, hn, rfl⟩⟩ :=
        (Tx.commits_deposit h ()).mp hc
      · exact ⟨e, .deposit_wallet hx hn⟩
      · exact ⟨e, .deposit_tusd hu hfr hn⟩
  | transfer a b n =>
      obtain ⟨hs, hx, rfl⟩ := (Tx.commits_transfer h ()).mp hc
      exact ⟨e, .transfer hs hx⟩
  | claim a n =>
      obtain ⟨-, ha, hn0, hn, rfl⟩ := (Tx.commits_claim h.deployed.core ()).mp hc
      exact ⟨e, .claim ha hn0 hn⟩
  | claim_all a =>
      obtain ⟨-, ha, hn0, rfl⟩ := (Tx.commits_claim_all h.deployed.core ()).mp hc
      exact ⟨e, .claim_all ha hn0⟩
  | claim_trfl a =>
      obtain ⟨hlive, f, hf, -, -, hx, hn, rfl⟩ := (Tx.commits_claim_trfl h ()).mp hc
      exact ⟨e, .claim_trfl hf hlive hx hn⟩
  | claim_tusd a =>
      obtain ⟨hlive, f, hf, -, -, rfl⟩ := (Tx.commits_claim_tusd h ()).mp hc
      exact ⟨e, .claim_tusd hf hlive⟩
  | sell_trfl a n limit deadline =>
      obtain ⟨hs, rfl⟩ := (Tx.commits_sell_trfl h ()).mp hc
      exact ⟨_, .sell hs⟩
  | buy_trfl a n limit deadline =>
      obtain ⟨hs, rfl⟩ := (Tx.commits_buy_trfl h ()).mp hc
      exact ⟨_, .buy hs⟩
  | add_liquidity a max_rfl max_usd limit deadline =>
      obtain ⟨hs, rfl⟩ := (Tx.commits_add_liquidity h ()).mp hc
      exact ⟨_, .add hs⟩
  | remove_liquidity a n min_rfl min_usd deadline =>
      obtain ⟨hs, rfl⟩ := (Tx.commits_remove_liquidity h ()).mp hc
      by_cases hall : n = e.total_shares
      · rw [if_pos hall]
        exact ⟨_, .remove_all hs hall⟩
      · rw [if_neg hall]
        exact ⟨_, .remove hs hall⟩
  | transfer_lp_shares a b n =>
      obtain ⟨hs, rfl⟩ := (Tx.commits_transfer_lp_shares h ()).mp hc
      exact ⟨_, .transfer_shares hs⟩
  | claim_lp_rewards a epoch amount =>
      obtain ⟨rfl, hl, hpos, hle, rfl⟩ := (Tx.commits_claim_lp_rewards h ()).mp hc
      exact ⟨_, .claim_shares hl hpos hle rfl⟩
  | checkpoint_lp_rewards =>
      obtain ⟨hl, rfl⟩ := (Tx.commits_checkpoint_lp_rewards h ()).mp hc
      exact ⟨e, .checkpoint hl⟩
  | tick seconds =>
      obtain rfl := (Tx.commits_update _ _ _ _ ()).mp hc
      exact ⟨e, .tick⟩

/-! ## Every transition is a passage -/

namespace Call

/-- The two calls that collect a fee. -/
def swap : Call → Bool
  | sell_trfl .. | buy_trfl .. => true
  | _ => false

/-- The calls that move the epoch. -/
def of_epoch : Call → Bool
  | sell_trfl .. | buy_trfl .. | add_liquidity .. | remove_liquidity .. | transfer_lp_shares ..
  | claim_lp_rewards .. => true
  | _ => false

end Call

/-- The events of the core's ledger that a call makes from `w`. -/
inductive CoreActs (w : World) : Call → List (Act (Option Address)) → Prop where
  | sell {a : Address} {n limit deadline : ℕ} {as : List (Act (Option Address))}
      (h : SwapActs (some a) none n (w.feeOn n) (w.sellRouted a n) as) :
      CoreActs w (.sell_trfl a n limit deadline) as
  | buy {a : Address} {n limit deadline : ℕ} {as : List (Act (Option Address))}
      (h : SwapActs none (some a) (w.buyOutput n) (w.feeOn (w.buyOutput n)) (w.buyRouted a n) as) :
      CoreActs w (.buy_trfl a n limit deadline) as
  | quiet {c : Call} {as : List (Act (Option Address))} (hc : c.swap = false)
      (hq : ∀ x ∈ as, Quiet x) : CoreActs w c as

/-- The events of the epoch's ledger that a call makes from `e` and `w`. -/
inductive LpActs (e : LpEpoch) (w : World) : Call → List (Act Address) → Prop where
  | sell {a : Address} {n limit deadline : ℕ} :
      LpActs e w (.sell_trfl a n limit deadline) (LpEpoch.routing (w.sellRouted a n))
  | buy {a : Address} {n limit deadline : ℕ} :
      LpActs e w (.buy_trfl a n limit deadline) (LpEpoch.routing (w.buyRouted a n))
  | add {a : Address} {max_rfl max_usd limit deadline n : ℕ} :
      LpActs e w (.add_liquidity a max_rfl max_usd limit deadline)
        (e.payment a ++ [.enroll a, .give a n])
  | remove {a : Address} {n min_rfl min_usd deadline : ℕ} :
      LpActs e w (.remove_liquidity a n min_rfl min_usd deadline)
        (e.payment a ++ ([.enroll a, .take a n]
          ++ ((lp_rewards.ensure_position (e.rewarded a) a).burned a n).exit a))
  | transfer {a b : Address} {n : ℕ} :
      LpActs e w (.transfer_lp_shares a b n)
        ((e.payment a ++ (e.rewarded a).payment b) ++ ([.enroll a, .enroll b, .take a n, .give b n]
          ++ (((lp_rewards.ensure_position (lp_rewards.ensure_position ((e.rewarded a).rewarded b)
            a) b).burned a n).minted b n).exit a))
  | claim {a : Address} {epoch amount n : ℕ} :
      LpActs e w (.claim_lp_rewards a epoch amount) [.pay a n]
  | none {c : Call} (hc : c.of_epoch = false) : LpActs e w c []

/-- A store that is not frozen is not the tUSD reserve. -/
theorem Deployed.unfrozen_ne {e : LpEpoch} {w : World} (h : Deployed e w) {store : Address}
    (hfr : w.frozen store = false) : store ≠ .usd_reserve := by
  rintro rfl
  simp [h.frozen, frozenStores] at hfr

/-- **Every transition is a passage.** -/
theorem Launched.passage [NamedAddresses] {e e' : LpEpoch} {w w' : World} {c : Call}
    (h : Launched e w) (ht : Transition e w c e' w') :
    ∃ as bs, CoreActs w c as ∧ LpActs e w c bs ∧ Passage as bs e w e' w' := by
  have quiet : ∀ {bs}, c.swap = false → LpActs e w c bs →
      (∃ as, (∀ x ∈ as, Quiet x) ∧ Passage as bs e w e' w') →
      ∃ as bs, CoreActs w c as ∧ LpActs e w c bs ∧ Passage as bs e w e' w' :=
    fun hc hb ⟨as, hq, hp⟩ => ⟨as, _, .quiet hc hq, hb, hp⟩
  have still : Passage [] [] e w e' w' → ∃ as, (∀ x ∈ as, Quiet x) ∧ Passage as [] e w e' w' :=
    fun hp => ⟨[], by simp, hp⟩
  -- Only a swap collects a fee; every other transition is quiet in the core.
  cases ht with
  | register_wallet hx => exact quiet rfl (.none rfl) (h.registerWallet hx)
  | @withdraw_wallet owner a n ha hn =>
      refine quiet rfl (.none rfl) ?_
      have hs : w.Sends a n := by
        unfold World.Sends
        rw [if_pos ha]
        exact hn
      have hp := h.sentFrom hs
      rwa [World.sentFrom, if_pos ha] at hp
  | withdraw_nothing => exact quiet rfl (.none rfl) (still (h.outside (.refl w) rfl))
  | withdraw_tusd hu hfr hn =>
      exact quiet rfl (.none rfl) (still (h.outside (.debit hu)
        (Function.update_of_ne (h.deployed.unfrozen_ne hfr).symm _ _)))
  | deposit_wallet hx hn => exact quiet rfl (.none rfl) (h.arrived hx hn)
  | deposit_tusd hu hfr hn =>
      exact quiet rfl (.none rfl) (still (h.outside (.credit hu)
        (Function.update_of_ne (h.deployed.unfrozen_ne hfr).symm _ _)))
  | transfer hs hx => exact quiet rfl (.none rfl) (h.walletTransferred hs hx)
  | claim ha hn0 hn => exact quiet rfl (.none rfl) (h.claim hn0 hn)
  | claim_all ha hn0 => exact quiet rfl (.none rfl) (h.claim hn0 le_rfl)
  | @claim_trfl a f hf _ hx hn =>
      refine quiet rfl (.none rfl) ?_
      have h₁ : Passage [] [] e w e (w.trflClaimed a f) := h.trflClaimed f
      exact Passage.quiet_trans ⟨[], by simp, h₁⟩ (h₁.launched.granted hx hn _)
  | @claim_tusd a f hf _ =>
      refine quiet rfl (.none rfl) (still ?_)
      have h₁ : Passage [] [] e w e (w.tusdClaimed a f) := h.tusdClaimed f
      exact h₁.trans (h₁.launched.usdMinted _)
  | sell hs =>
      obtain ⟨as, has, hp⟩ := h.sell hs
      exact ⟨as, _, .sell has, .sell, hp⟩
  | buy hs =>
      obtain ⟨as, has, hp⟩ := h.buy hs
      exact ⟨as, _, .buy has, .buy, hp⟩
  | add hs => exact quiet rfl .add (h.add hs)
  | remove hs hne => exact quiet rfl .remove (h.removePart hs hne)
  | remove_all hs hall =>
      subst hall
      exact quiet rfl .remove (h.removeAll hs.live hs.owned)
  | transfer_shares hs => exact quiet rfl .transfer (h.transferShares hs)
  | claim_shares hl hn0 hn _ => exact quiet rfl .claim (h.claimShares hl hn0 hn)
  | checkpoint hl => exact quiet rfl (.none rfl) (still (h.outside (.refl w) rfl))
  | tick => exact quiet rfl (.none rfl) (still h.ticked)

end CedraReflect
