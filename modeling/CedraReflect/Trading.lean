/-
Trading against the pool makes no profit.

A coalition of accounts trades, claims, and moves tRFL and LP shares as it
likes; nobody outside gives it anything. What its accounts have in tRFL is what
they hold beyond the rewards they were paid, together with everything that has
accrued to them, in the core and in the epoch. Added to the reserve of the pool
it never grows by more than what the two ledgers carry over, while tUSD only
moves between the coalition and the pool, and the product of the reserves does
not fall. A coalition that has its tUSD back is no richer in tRFL.
-/
import CedraReflect.ArithmeticSafety
import CedraReflect.EffectiveBalance
import CedraReflect.Quotes
import CedraReflect.ShareValue

set_option autoImplicit false
set_option linter.constructorNameAsVariable false

namespace CedraReflect

open Dividend (Ledger Act Valid Run)
open reflection_math (MAGNITUDE MAGNITUDE_pos)
open reflection_token (TOTAL_SUPPLY is_excluded_store)

/-! ## Calls -/

/-- The calls with which the coalition `A` is not given anything: its own trades,
claims by anybody, and transfers that do not come from outside. -/
def Call.Inside (A : Finset Address) : Call → Prop
  | .sell_trfl seller .. => seller ∈ A
  | .buy_trfl buyer .. => buyer ∈ A
  | .transfer sender recipient _ => recipient ∈ A → sender ∈ A
  | .register_wallet _ | .claim .. | .claim_all _ | .transfer_lp_shares .. | .claim_lp_rewards ..
  | .checkpoint_lp_rewards | .tick _ => True
  | _ => False

instance (A : Finset Address) (c : Call) : Decidable (c.Inside A) := by
  unfold Call.Inside
  split <;> infer_instance

/-! ## What an account holds beyond its rewards -/

namespace World

variable {w : World} {e : LpEpoch} {a b c : Address} {n fee : ℕ}

theorem beyond_debited (hn : n ≤ w.raw a) :
    (w.walletDebited a n).beyond b = w.beyond b - if b = a then (n : ℤ) else 0 := by
  rw [beyond, raw_walletDebited, position_walletDebited, beyond]
  split
  · next h =>
      subst h
      rw [Nat.cast_sub hn]
      ring
  · ring

theorem beyond_credited :
    (w.walletCredited a n).beyond b = w.beyond b + if b = a then (n : ℤ) else 0 := by
  rw [beyond, raw_walletCredited, position_walletCredited, beyond]
  split
  · next h =>
      subst h
      push_cast
      ring
  · ring

theorem beyond_walletPaid :
    (w.walletPaid a n).beyond b = w.beyond b - if b = a then (n : ℤ) else 0 := by
  rw [beyond, raw_walletPaid, position_walletPaid, beyond]
  split
  · next h =>
      subst h
      push_cast
      ring
  · ring

/-- A reward that is paid is held and was paid. -/
theorem beyond_materialized (explicit_claim : Bool) (trigger : Trigger) :
    (w.materialized a n explicit_claim trigger).beyond b = w.beyond b := by
  have hbeyond : (w.materialized a n explicit_claim trigger).beyond b
      = ((w.walletPaid a n).walletCredited a n).beyond b := by
    unfold materialized
    cases explicit_claim <;> rfl
  rw [hbeyond, beyond_credited, beyond_walletPaid]
  ring

theorem beyond_settled (explicit_claim : Bool) (trigger : Trigger) :
    (w.materializedAll a explicit_claim trigger).beyond b = w.beyond b := by
  unfold materializedAll
  split
  · rfl
  · exact beyond_materialized explicit_claim trigger

theorem beyond_sold_all (hn : n ≤ (w.materializedAll a false .SELL_PRE).raw a) :
    (w.sold a n fee).beyond b = w.beyond b - if b = a then (n : ℤ) else 0 := by
  rw [sold, beyond_poolCredited, beyond_settled, beyond_feeTaken, beyond_debited hn,
    beyond_settled]

theorem beyond_bought_all :
    (w.bought a n fee).beyond b
      = w.beyond b + if b = a then ((n - fee : ℕ) : ℤ) else 0 := by
  rw [bought, beyond_credited, beyond_settled, beyond_feeTaken, beyond_poolDebited,
    beyond_settled, beyond_ensured]

theorem beyond_sent (hn : n ≤ (w.materializedAll a false .TRANSFER_SEND).raw a) :
    (w.sent a n).beyond b = w.beyond b - if b = a then (n : ℤ) else 0 := by
  show ((w.materializedAll a false .TRANSFER_SEND).walletDebited a n).beyond b = _
  rw [beyond_debited hn, beyond_settled]

theorem beyond_arrived :
    (w.arrived a n).beyond b = w.beyond b + if b = a then (n : ℤ) else 0 := by
  show (((w.ensured a).materializedAll a false .TRANSFER_RECEIVE).walletCredited a n).beyond b = _
  rw [beyond_credited, beyond_settled, beyond_ensured]

theorem beyond_paidOut :
    (w.paidOut a n).beyond b = w.beyond b + if b = a then (n : ℤ) else 0 := by
  have hdebit : ∀ u : World, (u.debit .trfl .lp_reward_vault n).beyond b = u.beyond b := by
    intro u
    simp [beyond, raw, position]
  rw [paidOut, beyond_credited, hdebit, beyond_settled, beyond_ensured]

/-- A transfer takes from one side what it brings to the other. -/
theorem beyond_walletTransferred (hs : w.Sends a n) :
    (w.walletTransferred a b n).beyond c
      = w.beyond c - (if c = a then (n : ℤ) else 0) + if c = b then (n : ℤ) else 0 := by
  have hfrom : (w.sentFrom a n).beyond c = w.beyond c - if c = a then (n : ℤ) else 0 := by
    unfold Sends at hs
    unfold sentFrom
    split at hs
    · next ha => rw [if_pos ha, beyond_sent hs]
    · next ha => simp [if_neg ha, hs.2]
  rw [walletTransferred, beyond_outside (.logged _ _), transferred, beyond_arrived, hfrom]

/-- What an account holds beyond the rewards it was paid in both ledgers. -/
def stake (w : World) (e : LpEpoch) (a : Address) : ℤ := w.beyond a - (e.position a).claimed

/-- An LP reward that is paid is held and was paid. -/
theorem stake_lpClaimed : (w.lpClaimed e a n).stake (e.paid a n) b = w.stake e b := by
  have hpaid : (w.lpPaid e a n 1).beyond b = w.beyond b := rfl
  rw [stake, lpClaimed, beyond_paidOut, hpaid, LpEpoch.position_paid, stake]
  split
  · next h =>
      subst h
      push_cast
      ring
  · ring

theorem stake_rewarded : (w.rewarded e a).stake (e.rewarded a) b = w.stake e b := by
  unfold rewarded LpEpoch.rewarded
  split
  · rfl
  · exact stake_lpClaimed

end World

theorem LpEpoch.position_checkpointed (e : LpEpoch) (n : ℕ) (a : Address) :
    (e.checkpointed n).position a = e.position a := by
  unfold LpEpoch.checkpointed
  split <;> rfl

/-! ## What leaves the pool aside -/

namespace Frame

variable {w : World} {a b : Address} {n : ℕ}

theorem ensured : Frame w (w.ensured a) := by
  unfold World.ensured
  split
  · exact .refl w
  · exact .enrolled _

theorem sentFrom : Frame w (w.sentFrom a n) := by
  unfold World.sentFrom
  split
  · exact ((Frame.materializedAll false .TRANSFER_SEND).trans .walletDebited).trans (.logged _)
  · exact .refl w

theorem walletTransferred : Frame w (w.walletTransferred a b n) :=
  ((((Frame.sentFrom.trans .ensured).trans (.materializedAll false .TRANSFER_RECEIVE)).trans
    .walletCredited).trans (.logged _)).trans (.logged _)

theorem paidOut : Frame w (w.paidOut a n) :=
  ((Frame.ensured.trans (.materializedAll false .LP_PAYOUT)).trans (.debit rfl)).trans
    .walletCredited

end Frame

/-- A call that leaves both reserves, the LP shares and all tUSD alone, and
brings nothing to the coalition `A`. -/
structure Aside (A : Finset Address) (e : LpEpoch) (w : World) (e' : LpEpoch) (w' : World) :
    Prop where
  lifecycle : w'.reflection.lifecycle = w.reflection.lifecycle
  custody_shares : w'.custody.custody_shares = w.custody.custody_shares
  total_shares : e'.total_shares = e.total_shares
  tusd : ∀ s : Address, s.store_metadata ≠ some .trfl → w'.balance s = w.balance s
  stakes : ∑ a ∈ A, w'.stake e' a ≤ ∑ a ∈ A, w.stake e a

namespace Aside

variable {A : Finset Address} {e e' : LpEpoch} {w w' : World}

theorem of_frame (hf : Frame w w') (hR : w'.custody.custody_shares = w.custody.custody_shares)
    (hs : ∑ a ∈ A, w'.stake e a ≤ ∑ a ∈ A, w.stake e a) : Aside A e w e w' :=
  ⟨hf.lifecycle, hR, rfl, hf.tusd, hs⟩

theorem of_stake (hs : ∀ a, w'.stake e' a = w.stake e a) :
    ∑ a ∈ A, w'.stake e' a ≤ ∑ a ∈ A, w.stake e a :=
  (Finset.sum_congr rfl fun a _ => hs a).le

end Aside

/-- A transfer that does not come from outside brings nothing to the coalition. -/
theorem World.stakes_walletTransferred {A : Finset Address} {e : LpEpoch} {w : World}
    {a b : Address} {n : ℕ} (hs : w.Sends a n) (hin : b ∈ A → a ∈ A) :
    ∑ c ∈ A, (w.walletTransferred a b n).stake e c ≤ ∑ c ∈ A, w.stake e c := by
  have hstake : ∀ c, (w.walletTransferred a b n).stake e c
      = w.stake e c - (if c = a then (n : ℤ) else 0) + if c = b then (n : ℤ) else 0 := by
    intro c
    rw [World.stake, World.beyond_walletTransferred hs, World.stake]
    ring
  rw [Finset.sum_congr rfl fun c _ => hstake c, Finset.sum_add_distrib, Finset.sum_sub_distrib,
    Finset.sum_ite_eq', Finset.sum_ite_eq']
  split <;> split <;> first | omega | skip
  exact absurd (hin ‹b ∈ A›) ‹a ∉ A›

theorem LpEpoch.exit_no_pay (e : LpEpoch) (a : Address) :
    ∀ x ∈ e.exit a, ∀ b n, x ≠ Act.pay b n := by
  rintro x hx b n rfl
  unfold LpEpoch.exit LpEpoch.retirement at hx
  split at hx
  · split at hx <;> simp at hx
  · simp at hx

namespace World

variable (w : World) (e : LpEpoch) (a b c : Address) (n : ℕ)

theorem balance_lpTransferred : (w.lpTransferred e a b n).balance = w.balance := by
  unfold lpTransferred exitLogged
  split <;> rfl

theorem beyond_lpTransferred : (w.lpTransferred e a b n).beyond c = w.beyond c := by
  unfold lpTransferred exitLogged
  split <;> rfl

theorem custody_shares_walletTransferred :
    (w.walletTransferred a b n).custody.custody_shares = w.custody.custody_shares := by
  unfold walletTransferred transferred sentFrom
  split <;> simp [sent, arrived]

end World

section Steps

variable [NamedAddresses] {A : Finset Address} {e e' : LpEpoch} {w w' : World} {c : Call}

theorem Launched.aside_transferShares {a b : Address} {n : ℕ} (h : Launched e w)
    (hs : TransfersShares e w a b n) :
    Aside A e w (((e.rewarded a).rewarded b).transferred a b n) (w.sharesTransferred e a b n) := by
  obtain ⟨_, -, h₁⟩ := h.deployed.rewarded hs.live.epoch a
  obtain ⟨_, -, h₂⟩ := h₁.deployed.rewarded (h₁.epoch 1 hs.live.epoch) b
  have h₁₂ := h₁.trans h₂
  have hn : n ≤ (((e.rewarded a).rewarded b).position a).shares := by simpa using hs.owned
  have hp : ((e.rewarded a).rewarded b).pending a = 0 := by
    rw [LpEpoch.pending_rewarded h₁.deployed.books.accounting, if_neg hs.distinct.symm,
      LpEpoch.pending_rewarded h.deployed.books.accounting, if_pos rfl]
  have hx : is_excluded_store ((w.rewarded e a).rewarded (e.rewarded a) b).reflection
      (.primary .trfl b) = false := by
    rw [is_excluded_store, h₁₂.exclusions]
    exact hs.eligible
  have h₃ := h₂.deployed.lpTransferred (h₁₂.epoch 1 hs.live.epoch) hs.distinct hs.pos hn hp hx
  refine ⟨(h₁₂.trans h₃).lifecycle, ?_, ?_, fun s hm => ?_, Aside.of_stake fun d => ?_⟩
  · simp [World.sharesTransferred]
  · have hle : n ≤ ((e.rewarded a).rewarded b).total_shares :=
      hn.trans (h₂.deployed.books.accounting.shares_le a)
    obtain ⟨ps, ag, ret, c, heq, -⟩ := ((e.rewarded a).rewarded b).transferred_eq a b n hle
    rw [heq]
    simp
  · rw [World.sharesTransferred, World.balance_lpTransferred, World.tusd_rewarded _ _ _ hm,
      World.tusd_rewarded _ _ _ hm]
  · -- The shares change hands, and nothing is paid for them.
    have hclaimed : ((((e.rewarded a).rewarded b).transferred a b n).position d).claimed
        = (((e.rewarded a).rewarded b).position d).claimed := by
      refine h₃.lp_run.claimed_eq d fun x hx m hxm => ?_
      subst hxm
      rcases List.mem_append.mp hx with hx | hx
      · simp at hx
      · exact LpEpoch.exit_no_pay _ _ _ hx d m rfl
    have hbeyond : (w.sharesTransferred e a b n).beyond d
        = ((w.rewarded e a).rewarded (e.rewarded a) b).beyond d := by
      rw [World.sharesTransferred, World.beyond_lpTransferred]
    rw [World.stake, hbeyond, hclaimed]
    exact World.stake_rewarded.trans World.stake_rewarded

/-- A call inside a coalition is one of its swaps or leaves the pool aside. -/
theorem Launched.aside (h : Launched e w) (ht : Transition e w c e' w') (hin : c.Inside A)
    (hc : c.swap = false) : Aside A e w e' w' := by
  have hd := h.deployed
  cases ht with
  | @register_wallet a hx =>
      exact .of_frame .ensured (by simp) (Aside.of_stake fun b => by
        rw [World.stake, World.beyond_ensured, World.stake])
  | @transfer a b n hs hx =>
      exact .of_frame .walletTransferred (w.custody_shares_walletTransferred a b n)
        (World.stakes_walletTransferred hs hin)
  | @claim a n ha hn0 hn =>
      exact .of_frame (.materialized true .MANUAL) (by simp) (Aside.of_stake fun b => by
        rw [World.stake, World.beyond_materialized, World.stake])
  | @claim_all a ha hn0 =>
      exact .of_frame (.materialized true .MANUAL) (by simp) (Aside.of_stake fun b => by
        rw [World.stake, World.beyond_materialized, World.stake])
  | transfer_shares hs => exact h.aside_transferShares hs
  | @claim_shares a amount n hl hn0 hn _ =>
      refine ⟨?_, ?_, rfl, ?_, Aside.of_stake fun b => World.stake_lpClaimed⟩
      · exact (Frame.paidOut (w := w.lpPaid e a n 1)).lifecycle
      · simp
      · exact (Frame.paidOut (w := w.lpPaid e a n 1)).tusd
  | checkpoint hl => exact .of_frame (.refl w) rfl le_rfl
  | tick => exact ⟨rfl, rfl, rfl, fun _ _ => rfl, le_rfl⟩
  | sell _ => cases hc
  | buy _ => cases hc
  | _ => exact hin.elim

end Steps

/-! ## What a coalition and the pool have together -/

namespace World

variable (w : World) (e : LpEpoch) (A : Finset Address)

/-- What a coalition has in tRFL, in magnified units: what it holds beyond its
rewards, and all that has accrued to it. -/
def wealth : ℤ :=
  MAGNITUDE * ∑ a ∈ A, w.stake e a
    + ∑ a ∈ A, (w.coreLedger.accrued (some a) + e.ledger.accrued a)

/-- The tUSD of a coalition. -/
def tusd : ℕ := ∑ a ∈ A, w.balance (.primary .tusd a)

/-- What the two ledgers carry over: the part of the pool that is not routed yet,
and the two remainders. -/
def carried : ℤ :=
  w.coreLedger.accrued none - MAGNITUDE * w.custody.pool_position.claimed
    + w.reflection.index_remainder + e.index_remainder

/-- What a coalition, the reserve and the ledgers have together. -/
def estate : ℤ := w.wealth e A + MAGNITUDE * w.custody.custody_shares + w.carried e

end World

/-- What a coalition can bring about: nothing comes to it but from the pool, and
the product of the reserves does not fall. -/
structure Traded (A : Finset Address) (e : LpEpoch) (w : World) (e' : LpEpoch) (w' : World) :
    Prop where
  estate : w'.estate e' A ≤ w.estate e A
  tusd : w'.tusd A + w'.usd = w.tusd A + w.usd
  product : w.custody.custody_shares * w.usd ≤ w'.custody.custody_shares * w'.usd

namespace Traded

variable {A : Finset Address} {e e' e'' : LpEpoch} {w w' w'' : World}

theorem refl : Traded A e w e w := ⟨le_rfl, rfl, le_rfl⟩

theorem trans (h : Traded A e w e' w') (h' : Traded A e' w' e'' w'') : Traded A e w e'' w'' :=
  ⟨h'.estate.trans h.estate, h'.tusd.trans h.tusd, h.product.trans h'.product⟩

end Traded

/-- **Units decide.** If no units come from outside, then nothing comes from
outside: what the two ledgers hand out is what they receive. -/
theorem Passage.estate_le {A : Finset Address} {as : List (Act (Option Address))}
    {bs : List (Act Address)} {e e' : LpEpoch} {w w' : World} (hp : Passage as bs e w e' w')
    (h : Launched e w)
    (hunits : ∑ a ∈ A, w'.stake e' a + w'.custody.custody_shares
        - w'.custody.pool_position.claimed + w'.reflection.lifetime_fees + e'.lifetime_received
      ≤ ∑ a ∈ A, w.stake e a + w.custody.custody_shares - w.custody.pool_position.claimed
        + w.reflection.lifetime_fees + e.lifetime_received) :
    w'.estate e' A ≤ w.estate e A := by
  have hcore := hp.core_run.accrued_group_le h.deployed.core.accounting.valid
    (Finset.insertNone A)
  have hlp := hp.lp_run.accrued_group_le h.deployed.books.accounting.valid A
  rw [Finset.sum_insertNone, Finset.sum_insertNone] at hcore
  have hM : (0 : ℤ) ≤ MAGNITUDE := Int.natCast_nonneg _
  have hmul := mul_le_mul_of_nonneg_left hunits hM
  simp only [World.coreLedger_remainder, World.coreLedger_received, LpEpoch.ledger_remainder,
    LpEpoch.ledger_received] at hcore hlp
  unfold World.estate World.wealth World.carried
  rw [Finset.sum_add_distrib, Finset.sum_add_distrib]
  linarith


theorem Aside.traded {A : Finset Address} {as : List (Act (Option Address))}
    {bs : List (Act Address)}
    {e e' : LpEpoch} {w w' : World} {c : Call} (ha : Aside A e w e' w')
    (hp : Passage as bs e w e' w') (h : Launched e w) (has : CoreActs w c as)
    (hbs : LpActs e w c bs) (hc : c.swap = false) : Traded A e w e' w' := by
  have hclaimed : w'.custody.pool_position.claimed = w.custody.pool_position.claimed := by
    refine hp.core_run.claimed_eq none fun x hx n hxn => ?_
    subst hxn
    cases has with
    | sell _ => cases hc
    | buy _ => cases hc
    | quiet _ hq => exact hq _ hx
  have hfees : w'.reflection.lifetime_fees = w.reflection.lifetime_fees :=
    (hp.core_run.scalars_eq (has.no_receive hc)).2.2.2
  have hrewards : e'.lifetime_received = e.lifetime_received :=
    (hp.lp_run.scalars_eq (hbs.no_receive hc)).2.2.2
  have husd : w'.usd = w.usd := ha.tusd .usd_reserve (by simp [Address.store_metadata])
  refine ⟨hp.estate_le h ?_, ?_, ?_⟩
  · rw [ha.custody_shares, hclaimed, hfees, hrewards]
    linarith [ha.stakes]
  · rw [husd, World.tusd, World.tusd]
    congr 1
    exact Finset.sum_congr rfl fun a _ => ha.tusd _ (by simp [Address.store_metadata])
  · rw [ha.custody_shares, husd]

namespace World

variable {w : World} {e : LpEpoch} {a b : Address} {n : ℕ}

theorem stake_sellSwapped (hn : n ≤ (w.materializedAll a false .SELL_PRE).raw a) (m : ℕ) :
    (w.sellSwapped e a n).stake (e.checkpointed m) b
      = w.stake e b - if b = a then (n : ℤ) else 0 := by
  rw [stake, beyond_outside (w.outside_sellSwapped e a n), beyond_checkpointed,
    beyond_sold_all hn, LpEpoch.position_checkpointed, stake]
  ring

theorem stake_buySwapped (m : ℕ) :
    (w.buySwapped e a n).stake (e.checkpointed m) b
      = w.stake e b + if b = a then ((w.buyOutput n - w.feeOn (w.buyOutput n) : ℕ) : ℤ) else 0 := by
  rw [stake, beyond_outside (w.outside_buySwapped e a n), beyond_checkpointed,
    beyond_bought_all, beyond_outside (w.outside_usdIn a n), LpEpoch.position_checkpointed, stake]
  ring

end World

section Swaps

variable [NamedAddresses] {A : Finset Address} {e : LpEpoch} {w : World} {a : Address}
  {n limit deadline : ℕ}

/-- **A sell by the coalition.** -/
theorem Launched.traded_sell (h : Launched e w) (hs : Sells e w a n limit deadline) (ha : a ∈ A) :
    Traded A e w (e.checkpointed (w.sellRouted a n)) (w.sellSwapped e a n) := by
  obtain ⟨as, -, hp⟩ := h.sell hs
  obtain ⟨hR, hU⟩ := h.reserves_sell hs
  obtain ⟨-, hlp, hrouted, -⟩ := h.swap_routed (.sell hs) rfl
  have hfees := (h.sellPaid hs).collected
  have hfee := h.deployed.feeOn_le n
  have hout : w.sellOutput n ≤ w.usd := by
    have hcap := hs.output_cap
    unfold pool.BPS_DENOMINATOR pool.FIXED_MAX_RESERVE_BPS at hcap
    omega
  refine ⟨hp.estate_le h ?_, ?_, ?_⟩
  · rw [Finset.sum_congr rfl fun b _ => World.stake_sellSwapped hs.funds _,
      Finset.sum_sub_distrib, Finset.sum_ite_eq', if_pos ha, hR, hfees, hlp, hrouted]
    push_cast
    rw [Nat.cast_sub hfee]
    linarith
  · rw [World.tusd, Finset.sum_congr rfl fun b _ => h.balance_sellSwapped hs b,
      Finset.sum_add_distrib, Finset.sum_ite_eq', if_pos ha, hU, World.tusd]
    omega
  · have hworth := h.worth_sell hs
    exact Nat.le_of_mul_le_mul_right hworth (pow_pos hs.live.shares_pos 2)

/-- **A buy by the coalition.** -/
theorem Launched.traded_buy (h : Launched e w) (hs : Buys e w a n limit deadline) (ha : a ∈ A) :
    Traded A e w (e.checkpointed (w.buyRouted a n)) (w.buySwapped e a n) := by
  obtain ⟨as, -, hp⟩ := h.buy hs
  obtain ⟨hR, hU⟩ := h.reserves_buy hs
  obtain ⟨-, hlp, hrouted, -⟩ := h.swap_routed (.buy hs) rfl
  have hfees := (h.buyPaid hs).collected
  have hfee := h.deployed.feeOn_le (w.buyOutput n)
  have hlt := hs.output_lt
  refine ⟨hp.estate_le h ?_, ?_, ?_⟩
  · rw [Finset.sum_congr rfl fun b _ => World.stake_buySwapped _,
      Finset.sum_add_distrib, Finset.sum_ite_eq', if_pos ha, hR, hfees, hlp, hrouted]
    push_cast
    rw [Nat.cast_sub hfee, Nat.cast_sub hlt.le]
    linarith
  · have hbal : w.tusd A = (w.buySwapped e a n).tusd A + n := by
      rw [World.tusd, ← Finset.sum_congr rfl fun b _ => h.balance_buySwapped hs b,
        Finset.sum_add_distrib, Finset.sum_ite_eq', if_pos ha, World.tusd]
    rw [hbal, hU]
    omega
  · have hworth := h.worth_buy hs
    exact Nat.le_of_mul_le_mul_right hworth (pow_pos hs.live.shares_pos 2)

end Swaps

/-! ## Along a run -/

section Run

variable [NamedAddresses] {arithmetic : Arithmetic} {fee_bps : ℕ} {A : Finset Address}
  {e e' : LpEpoch} {w w' : World} {c : Call} {cs : List Call}

/-- **The step lemma.** -/
theorem Launched.traded_call (h : Launched e w) (ht : Transition e w c e' w')
    (hin : c.Inside A) : Traded A e w e' w' := by
  by_cases hc : c.swap = true
  · cases ht with
    | sell hs => exact h.traded_sell hs hin
    | buy hs => exact h.traded_buy hs hin
    | _ => cases hc
  · rw [Bool.not_eq_true] at hc
    obtain ⟨as, bs, has, hbs, hp⟩ := h.passage ht
    exact (h.aside ht hin hc).traded hp h has hbs hc

/-- **The run lemma.** -/
theorem Launched.traded_calls (h : Launched e w) (hs : Calls arithmetic w cs w')
    (hin : ∀ c ∈ cs, c.Inside A) : ∃ e', Launched e' w' ∧ Traded A e w e' w' := by
  induction hs generalizing e with
  | nil w => exact ⟨e, h, .refl⟩
  | cons hc _ ih =>
      obtain ⟨e₁, ht⟩ := h.transition (Call.Commits.ideal hc)
      obtain ⟨_, _, -, -, hp⟩ := h.passage ht
      obtain ⟨e', hl, hrest⟩ := ih hp.launched fun d hd => hin d (List.mem_cons_of_mem _ hd)
      exact ⟨e', hl, (h.traded_call ht (hin _ List.mem_cons_self)).trans hrest⟩

/-! ### In whole units -/

/-- What a coalition holds and could claim, in whole units. -/
def World.holdings (w : World) (e : LpEpoch) (A : Finset Address) : ℕ :=
  ∑ a ∈ A, (w.effective a + e.pending a)

omit [NamedAddresses] in
/-- The wealth of a coalition in whole units, but for two fractions of a unit for
each of its accounts. -/
theorem Deployed.wealth_holdings (h : Deployed e w) (A : Finset Address) :
    (MAGNITUDE : ℤ) * w.holdings e A ≤ w.wealth e A
      ∧ w.wealth e A ≤ MAGNITUDE * (w.holdings e A + 2 * A.card) := by
  have hsum : w.wealth e A = ∑ a ∈ A, (MAGNITUDE * (w.raw a : ℤ)
      + (w.coreLedger.accrued (some a) - MAGNITUDE * w.coreLedger.claimed (some a))
      + (e.ledger.accrued a - MAGNITUDE * e.ledger.claimed a)) := by
    unfold World.wealth World.stake World.beyond
    rw [Finset.mul_sum, ← Finset.sum_add_distrib]
    refine Finset.sum_congr rfl fun a _ => ?_
    simp only [World.coreLedger_claimed_some, LpEpoch.ledger_claimed]
    ring
  have hholdings : (w.holdings e A : ℤ)
      = ∑ a ∈ A, ((w.raw a : ℤ) + w.pending (some a) + e.pending a) := by
    unfold World.holdings World.effective
    push_cast
    rfl
  have hcard : (A.card : ℤ) = ∑ _a ∈ A, 1 := by simp
  have howed := fun a => h.core.accounting.valid.owed MAGNITUDE_pos (some a)
  have hlpowed := fun a => h.books.accounting.valid.owed MAGNITUDE_pos a
  rw [hsum, hholdings, hcard]
  refine ⟨?_, ?_⟩
  · rw [Finset.mul_sum]
    refine Finset.sum_le_sum fun a _ => ?_
    have h₁ := (howed a).1
    have h₂ := (hlpowed a).1
    unfold World.pending LpEpoch.pending
    linarith
  · rw [Finset.mul_sum, ← Finset.sum_add_distrib, Finset.mul_sum]
    refine Finset.sum_le_sum fun a _ => ?_
    have h₁ := (howed a).2
    have h₂ := (hlpowed a).2
    unfold World.pending LpEpoch.pending
    linarith

/-- Every state of the machine was reached by some number of swaps. -/
theorem Reachable.reached (h : Reachable .machine fee_bps w) : ∃ k, Reached fee_bps k w := by
  induction h with
  | @genesis admin w hg =>
      have hsound : Sound .machine (reflection_token.initialize_token admin fee_bps) :=
        inferInstance
      obtain ⟨-, -, rfl⟩ := (Tx.commits_initialize_token ()).mp (hsound.commits hg)
      exact ⟨0, .configuring ⟨false, false, 0, rfl⟩⟩
  | call hw hc ih =>
      obtain ⟨k, hk⟩ := ih
      exact ⟨_, hk.call hw hc⟩

/-- The two ledgers carry less than three units. -/
theorem Reachable.carried_lt (hr : Reachable .machine fee_bps w) (h : Launched e w) :
    0 ≤ w.carried e ∧ w.carried e < 3 * MAGNITUDE := by
  have howed := h.deployed.core.accounting.valid.owed MAGNITUDE_pos none
  have hsettled := h.settled
  unfold World.pending at hsettled
  rw [hsettled, World.coreLedger_claimed_none] at howed
  have hrem : (w.reflection.index_remainder : ℤ) < MAGNITUDE := by
    exact_mod_cast h.deployed.core.accounting.remainder
  have hlp : (e.index_remainder : ℤ) < MAGNITUDE := by
    obtain ⟨k, hk⟩ := hr.reached
    cases hk with
    | configuring hc =>
        obtain ⟨_, _, _, rfl⟩ := hc
        exact absurd rfl h.not_configuring
    | launched h' _ he =>
        obtain ⟨-, rfl⟩ := h'.lp_epoch_eq h.lp_epoch
        have hle := he.remainder
        have hM : 2 ^ 57 < MAGNITUDE := by
          rw [MAGNITUDE_eq]
          norm_num
        exact_mod_cast hle.trans_lt hM
  unfold World.carried
  constructor
  · have h₁ := howed.1
    push_cast at h₁
    linarith [Int.natCast_nonneg w.reflection.index_remainder, Int.natCast_nonneg e.index_remainder]
  · have h₂ := howed.2
    push_cast at h₂
    linarith

/-! ### The theorem -/

/-- **Trading makes no profit.** Whatever a coalition trades, claims and moves
among its accounts, as long as nobody else gives it anything: tUSD only moves
between it and the pool, the product of the reserves does not fall, and its
wealth in tRFL grows by what the reserve loses and less than three units. So
with no less tUSD than before it holds and could claim no more tRFL than before,
up to two units and two for each of its accounts; and with no less tRFL, it has
gained no more tUSD than such a number of units is worth. -/
theorem trading_makes_no_profit (h : Reachable .machine fee_bps w)
    (hl : w.reflection.lifecycle ≠ .CONFIGURING) (A : Finset Address)
    (hin : ∀ c ∈ cs, c.Inside A) (hs : Calls .machine w cs w') :
    ∃ e e', w.lp_epoch 1 = some e ∧ w'.lp_epoch 1 = some e'
      ∧ w'.tusd A + w'.balance .usd_reserve = w.tusd A + w.balance .usd_reserve
      ∧ w.balance .rfl_reserve * w.balance .usd_reserve
        ≤ w'.balance .rfl_reserve * w'.balance .usd_reserve
      ∧ w'.wealth e' A + MAGNITUDE * w'.balance .rfl_reserve
        < w.wealth e A + MAGNITUDE * w.balance .rfl_reserve + 3 * MAGNITUDE
      ∧ (w.tusd A ≤ w'.tusd A → w'.holdings e' A ≤ w.holdings e A + 2 * A.card + 2)
      ∧ (w.holdings e A ≤ w'.holdings e' A →
        w'.tusd A * w.balance .rfl_reserve
          ≤ w.tusd A * w.balance .rfl_reserve
            + (2 * A.card + 2) * w'.balance .usd_reserve) := by
  obtain ⟨e, he⟩ := h.launched hl
  obtain ⟨e', he', ht⟩ := he.traded_calls hs hin
  obtain ⟨-, hlt⟩ := h.carried_lt he
  obtain ⟨hnn, -⟩ := (h.calls hs).carried_lt he'
  obtain ⟨hlo, hhi⟩ := he.deployed.wealth_holdings A
  obtain ⟨hlo', hhi'⟩ := he'.deployed.wealth_holdings A
  have hM : (0 : ℤ) < MAGNITUDE := by exact_mod_cast MAGNITUDE_pos
  have htusd := ht.tusd
  have hproduct := ht.product
  have hestate := ht.estate
  rw [World.estate, World.estate] at hestate
  rw [he.deployed.core.supply.custody, he'.deployed.core.supply.custody] at hestate hproduct
  unfold World.usd at htusd hproduct
  refine ⟨e, e', he.lp_epoch, he'.lp_epoch, htusd, hproduct, by linarith, fun hback => ?_,
    fun hback => ?_⟩
  · -- The pool has no more tUSD than before, hence no less tRFL.
    have hreserve : (w.balance .rfl_reserve : ℤ) ≤ w'.balance .rfl_reserve := by
      rcases he.phase with hp | hp
      · have hle : w.balance .rfl_reserve * w.balance .usd_reserve
            ≤ w'.balance .rfl_reserve * w.balance .usd_reserve :=
          hproduct.trans (Nat.mul_le_mul_left _ (by omega))
        exact_mod_cast Nat.le_of_mul_le_mul_right hle hp.usd_pos
      · rw [← he.deployed.core.supply.custody, hp.rfl_zero]
        exact Int.natCast_nonneg _
    have hmul := mul_le_mul_of_nonneg_left hreserve hM.le
    have hlt' : (MAGNITUDE : ℤ) * w'.holdings e' A
        < MAGNITUDE * (w.holdings e A + 2 * A.card + 3) := by linarith
    have hunits := lt_of_mul_lt_mul_left hlt' hM.le
    omega
  · -- The reserve has grown by no more than what is lost in fractions.
    have hmul := mul_le_mul_of_nonneg_left (Int.ofNat_le.mpr hback) hM.le
    have hlt' : (MAGNITUDE : ℤ) * w'.balance .rfl_reserve
        < MAGNITUDE * (w.balance .rfl_reserve + 2 * A.card + 3) := by linarith
    have hreserve : w'.balance .rfl_reserve ≤ w.balance .rfl_reserve + (2 * A.card + 2) := by
      have hunits := lt_of_mul_lt_mul_left hlt' hM.le
      omega
    have hgain := hproduct.trans (Nat.mul_le_mul_right (w'.balance .usd_reserve) hreserve)
    have hsplit : w'.tusd A * w.balance .rfl_reserve
        + w'.balance .usd_reserve * w.balance .rfl_reserve
        = w.tusd A * w.balance .rfl_reserve
          + w.balance .usd_reserve * w.balance .rfl_reserve := by
      rw [← Nat.add_mul, htusd, Nat.add_mul]
    linarith

end Run

namespace Sample

/-- The system launched, and an account with both assets. -/
def funded : Option World :=
  script .machine .unpublished (.initialize_token (.account 1) 50 :: opening.take 3)

/-- An account that sells and buys back has not gained more than four units. -/
theorem trading_makes_no_profit_traded : ∃ (w w' : World) (e e' : LpEpoch),
    w.lp_epoch 1 = some e ∧ w'.lp_epoch 1 = some e'
    ∧ (w.tusd {.account 9} ≤ w'.tusd {.account 9} →
      w'.holdings e' {.account 9} ≤ w.holdings e {.account 9} + 4) := by
  have hfunded : (funded.map fun w => decide (w.reflection.lifecycle ≠ .CONFIGURING)) = some true := by
    decide +kernel
  have hswaps : (funded.bind fun w => script .machine w (opening.drop 3)).isSome = true := by
    decide +kernel
  obtain ⟨w, hw⟩ : ∃ w, funded = some w := by
    cases hf : funded with
    | none => simp [hf] at hfunded
    | some w => exact ⟨w, rfl⟩
  rw [hw] at hfunded hswaps
  obtain ⟨w', hw'⟩ := Option.isSome_iff_exists.mp hswaps
  obtain ⟨e, e', he, he', -, -, -, hprofit, -⟩ := trading_makes_no_profit
    (reachable_of_script hw) (of_decide_eq_true (Option.some.inj hfunded)) {.account 9}
    (by decide) (calls_of_script hw')
  exact ⟨w, w', e, e', he, he', hprofit⟩

end Sample

end CedraReflect
