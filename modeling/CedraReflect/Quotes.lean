/-
The quote views of the pool, and the trades they promise.

A quote is the arithmetic of a swap without its guards against time and the
trader and without its transfers. What a swap does before and between, the
checkpoints and the trader's own rewards, changes neither a reserve nor the
rate of the fee, so that a quote names what the next trade pays; and a trade
runs through every step of its quote.
-/
import CedraReflect.EffectiveBalance
import CedraReflect.SettlementExact

set_option autoImplicit false
set_option linter.constructorNameAsVariable false
set_option synthInstance.maxSize 1000000000000

namespace CedraReflect

open Dividend (Ledger Act)
open reflection_math (MAGNITUDE)
open reflection_token (is_excluded_store)
open reflection_settlement (swap_output invariant_input invariant_input_le MAX_U64)
open pool (FIXED_AMM_FEE_BPS FIXED_MAX_RESERVE_BPS FIXED_MAX_GROSS_SWAP)

/-! ## The views -/

namespace pool

/-- What a sell would pay in tUSD, and its two fees. -/
def quote_sell (gross_trfl_input : ℕ) : Move (ℕ × ℕ × ℕ) := do
  let state ← borrow_state
  assert_pool_live state
  assert_swap_bounds gross_trfl_input true state
  let reserve ← reserves state
  let reflection_fee ← reflection_token.fee_for gross_trfl_input
  let net_input ← sub .pool gross_trfl_input reflection_fee
  let quote ← reflection_settlement.constant_product_output reserve.1 reserve.2 net_input
    FIXED_AMM_FEE_BPS
  assert_reserve_output_cap quote.1 reserve.2
  Tx.require (0 < quote.1) E_MIN_OUTPUT
  pure (quote.1, reflection_fee, quote.2)

/-- What a buy would pay in tRFL, and its two fees. -/
def quote_buy (tusd_input : ℕ) : Move (ℕ × ℕ × ℕ) := do
  let state ← borrow_state
  assert_pool_live state
  assert_swap_bounds tusd_input false state
  let reserve ← reserves state
  let quote ← reflection_settlement.constant_product_output reserve.2 reserve.1 tusd_input
    FIXED_AMM_FEE_BPS
  assert_reserve_output_cap quote.1 reserve.1
  let reflection_fee ← reflection_token.fee_for quote.1
  let net_output ← sub .pool quote.1 reflection_fee
  Tx.require (0 < net_output) E_MIN_OUTPUT
  pure (net_output, reflection_fee, quote.2)

instance [NamedAddresses] {arithmetic : Arithmetic} (n : ℕ) : Sound arithmetic (quote_sell n) := by
  unfold quote_sell
  infer_instance

instance [NamedAddresses] {arithmetic : Arithmetic} (n : ℕ) : Sound arithmetic (quote_buy n) := by
  unfold quote_buy
  infer_instance

end pool

/-- What `quote_sell` asks for: all of a sell but its deadline, its minimum and
its trader. -/
@[mk_iff] structure SellQuoted (e : LpEpoch) (w : World) (gross_trfl_input : ℕ) : Prop where
  live : Live e w
  pos : 0 < gross_trfl_input
  max : gross_trfl_input ≤ FIXED_MAX_GROSS_SWAP
  input_cap : gross_trfl_input * pool.BPS_DENOMINATOR
    ≤ w.custody.custody_shares * FIXED_MAX_RESERVE_BPS
  width : w.sellOutput gross_trfl_input ≤ MAX_U64
  output_cap : w.sellOutput gross_trfl_input * pool.BPS_DENOMINATOR
    ≤ w.usd * FIXED_MAX_RESERVE_BPS
  output_pos : 0 < w.sellOutput gross_trfl_input

/-- What `quote_buy` asks for. -/
@[mk_iff] structure BuyQuoted (e : LpEpoch) (w : World) (tusd_input : ℕ) : Prop where
  live : Live e w
  pos : 0 < tusd_input
  max : tusd_input ≤ FIXED_MAX_GROSS_SWAP
  input_cap : tusd_input * pool.BPS_DENOMINATOR ≤ w.usd * FIXED_MAX_RESERVE_BPS
  output_cap : w.buyOutput tusd_input * pool.BPS_DENOMINATOR
    ≤ w.custody.custody_shares * FIXED_MAX_RESERVE_BPS
  output_pos : 0 < w.buyOutput tusd_input - w.feeOn (w.buyOutput tusd_input)

namespace World

/-- The answer of `quote_sell`. -/
def sellQuote (w : World) (n : ℕ) : ℕ × ℕ × ℕ :=
  (w.sellOutput n, w.feeOn n,
    n - w.feeOn n - invariant_input (n - w.feeOn n) FIXED_AMM_FEE_BPS)

/-- The answer of `quote_buy`. -/
def buyQuote (w : World) (n : ℕ) : ℕ × ℕ × ℕ :=
  (w.buyOutput n - w.feeOn (w.buyOutput n), w.feeOn (w.buyOutput n),
    n - invariant_input n FIXED_AMM_FEE_BPS)

end World

namespace Tx

open pool

variable {w w' : World} {e : LpEpoch} {n : ℕ} {q : ℕ × ℕ × ℕ}

/-- **`quote_sell`.** -/
theorem commits_quote_sell (h : Launched e w) :
    Commits (quote_sell n) .ideal w q w' ↔ SellQuoted e w n ∧ q = w.sellQuote n ∧ w' = w := by
  have hd := h.deployed
  simp only [quote_sell, commits_bind, commits_pool_borrow_state hd, commits_assert_pool_live h,
    sellQuoted_iff, and_assoc, exists_and_left, exists_eq_left, exists_const]
  refine and_congr_right fun hl => ?_
  simp only [commits_assert_swap_bounds hd.core.supply, commits_reserves hd.core.supply,
    hl.rfl_pos, and_assoc, exists_and_left, exists_eq_left, exists_const, if_true, true_and]
  refine and_congr_right fun hpos => and_congr_right fun hmax => and_congr_right fun hcap => ?_
  -- The cap on a single swap is what keeps the products within their widths.
  have hn : n ≤ 2 ^ 64 := by
    unfold FIXED_MAX_GROSS_SWAP at hmax
    omega
  have hnet : invariant_input (n - w.feeOn n) FIXED_AMM_FEE_BPS ≤ MAX_U64 := by
    have := invariant_input_le (n - w.feeOn n) FIXED_AMM_FEE_BPS
    unfold FIXED_MAX_GROSS_SWAP at hmax
    unfold MAX_U64
    omega
  have hbps : FIXED_AMM_FEE_BPS ≤ reflection_settlement.BPS_DENOMINATOR := by decide
  have hf := hd.feeOn_le n
  have hout : swap_output w.custody.custody_shares w.usd (n - w.feeOn n) FIXED_AMM_FEE_BPS
      = w.sellOutput n := rfl
  simp only [commits_fee_on hd hn, commits_sub, hf, hl.rfl_pos, hnet, hbps, hout,
    commits_constant_product_output, commits_assert_reserve_output_cap, commits_require,
    commits_pure, and_assoc, exists_and_left, exists_eq_left, exists_const, true_and]
  rfl

/-- **`quote_buy`.** -/
theorem commits_quote_buy (h : Launched e w) :
    Commits (quote_buy n) .ideal w q w' ↔ BuyQuoted e w n ∧ q = w.buyQuote n ∧ w' = w := by
  have hd := h.deployed
  simp only [quote_buy, commits_bind, commits_pool_borrow_state hd, commits_assert_pool_live h,
    buyQuoted_iff, and_assoc, exists_and_left, exists_eq_left, exists_const]
  refine and_congr_right fun hl => ?_
  simp only [commits_assert_swap_bounds hd.core.supply, commits_reserves hd.core.supply,
    hl.usd_pos, and_assoc, exists_and_left, exists_eq_left, exists_const, if_false, true_and,
    Bool.false_eq_true]
  refine and_congr_right fun hpos => and_congr_right fun hmax => and_congr_right fun hcap => ?_
  have hin : invariant_input n FIXED_AMM_FEE_BPS ≤ MAX_U64 := by
    have := invariant_input_le n FIXED_AMM_FEE_BPS
    unfold FIXED_MAX_GROSS_SWAP at hmax
    unfold MAX_U64
    omega
  have hbps : FIXED_AMM_FEE_BPS ≤ reflection_settlement.BPS_DENOMINATOR := by decide
  have hlt := hd.custody_lt
  -- The output of a buy is a part of the reserve, so that its fee fits as well.
  have hle : w.buyOutput n ≤ w.custody.custody_shares :=
    reflection_settlement.swap_output_le _ _ _ _
  have hwidth : w.buyOutput n ≤ MAX_U64 := by
    unfold MAX_U64
    omega
  have hn : w.buyOutput n ≤ 2 ^ 64 := by omega
  have hf := hd.feeOn_le (w.buyOutput n)
  have hout : swap_output w.usd w.custody.custody_shares n FIXED_AMM_FEE_BPS = w.buyOutput n := rfl
  simp only [hl.usd_pos, hin, hbps, hout, hwidth, commits_constant_product_output,
    commits_assert_reserve_output_cap, commits_fee_on hd hn, commits_sub, hf, commits_require,
    commits_pure, and_assoc, exists_and_left, exists_eq_left, exists_const, true_and]
  rfl

/-! ## A trade runs through its quote -/

variable [NamedAddresses] {r : Arithmetic} {a : Address} {limit deadline : ℕ}

omit [NamedAddresses] in
/-- A step that leaves the state alone under the ideal arithmetic does so under both. -/
theorem Commits.idle {α : Type} {m : Move α} {x : α} [hm : Sound r m]
    (hidle : ∀ y v, Commits m .ideal w y v → v = w) (hc : Commits m r w x w') : w' = w :=
  hidle x w' (hm.commits hc)

/-- **No sell without its quote**, under either arithmetic. -/
theorem quote_of_sell (h : Launched e w)
    (hc : Commits (sell_trfl a n limit deadline) r w () w') :
    ∃ q, Commits (quote_sell n) r w q w := by
  have hsupply := h.deployed.core.supply
  simp only [sell_trfl, commits_bind, commits_assert_deadline,
    commits_pool_borrow_state h.deployed, commits_assert_pool_live h, and_assoc, exists_and_left,
    exists_eq_left, exists_const] at hc
  obtain ⟨-, hl, _, w₁, hcheckpoint, _, w₂, hbounds, hc⟩ := hc
  -- The checks that precede the settlement leave the state, and they are those of the quote.
  have hw₁ : w₁ = w :=
    hcheckpoint.idle fun _ _ hi => (commits_checkpoint_settled h hl _).mp hi
  subst hw₁
  have hw₂ : w₂ = w₁ :=
    hbounds.idle fun _ _ hi => ((commits_assert_swap_bounds hsupply true _).mp hi).2.2.2.2
  subst hw₂
  simp only [commits_reserves hsupply, and_assoc, exists_and_left, exists_eq_left] at hc
  obtain ⟨fee, w₃, hfee, net, w₄, hnet, out, w₅, hout, _, w₆, hcap, _, w₇, hmin, -⟩ := hc
  have hw₃ : w₃ = w₂ := hfee.idle fun _ _ hi => ((commits_fee_for _).mp hi).2.2
  subst hw₃
  have hw₄ := ((commits_sub _ _ _).mp hnet).2.2
  subst hw₄
  have hw₅ : w₅ = w₄ :=
    hout.idle fun _ _ hi => ((commits_constant_product_output _).mp hi).2.2.2.2.2
  subst hw₅
  have hw₆ : w₆ = w₅ := hcap.idle fun _ _ hi => ((commits_assert_reserve_output_cap _).mp hi).2
  subst hw₆
  have hpos := ((commits_require _ _ _ _ _ _).mp hmin).1.1
  refine ⟨(out.1, fee, out.2), ?_⟩
  simp only [quote_sell, commits_bind, commits_pool_borrow_state h.deployed,
    commits_assert_pool_live h, and_assoc, exists_and_left, exists_eq_left, exists_const]
  refine ⟨hl, (), _, hbounds, ?_⟩
  simp only [commits_reserves hsupply, and_assoc, exists_and_left, exists_eq_left]
  refine ⟨fee, _, hfee, net, _, hnet, out, _, hout, (), _, hcap, ?_⟩
  simp only [commits_require, hpos, true_and, exists_eq_left, exists_const, commits_pure]

/-- **No buy without its quote**, under either arithmetic. -/
theorem quote_of_buy (h : Launched e w)
    (hc : Commits (buy_trfl a n limit deadline) r w () w') :
    ∃ q, Commits (quote_buy n) r w q w := by
  have hsupply := h.deployed.core.supply
  simp only [buy_trfl, commits_bind, commits_assert_deadline,
    commits_pool_borrow_state h.deployed, commits_assert_pool_live h, and_assoc, exists_and_left,
    exists_eq_left, exists_const] at hc
  obtain ⟨-, hl, _, w₁, hcheckpoint, _, w₂, hbounds, hc⟩ := hc
  -- As for a sell, but the output is computed before the fee on it.
  have hw₁ : w₁ = w :=
    hcheckpoint.idle fun _ _ hi => (commits_checkpoint_settled h hl _).mp hi
  subst hw₁
  have hw₂ : w₂ = w₁ :=
    hbounds.idle fun _ _ hi => ((commits_assert_swap_bounds hsupply false _).mp hi).2.2.2.2
  subst hw₂
  simp only [commits_reserves hsupply, and_assoc, exists_and_left, exists_eq_left] at hc
  obtain ⟨out, w₃, hout, _, w₄, hcap, fee, w₅, hfee, net, w₆, hnet, _, w₇, hmin, -⟩ := hc
  have hw₃ : w₃ = w₂ :=
    hout.idle fun _ _ hi => ((commits_constant_product_output _).mp hi).2.2.2.2.2
  subst hw₃
  have hw₄ : w₄ = w₃ := hcap.idle fun _ _ hi => ((commits_assert_reserve_output_cap _).mp hi).2
  subst hw₄
  have hw₅ : w₅ = w₄ := hfee.idle fun _ _ hi => ((commits_fee_for _).mp hi).2.2
  subst hw₅
  have hw₆ := ((commits_sub _ _ _).mp hnet).2.2
  subst hw₆
  have hpos := ((commits_require _ _ _ _ _ _).mp hmin).1.1
  refine ⟨(net, fee, out.2), ?_⟩
  simp only [quote_buy, commits_bind, commits_pool_borrow_state h.deployed,
    commits_assert_pool_live h, and_assoc, exists_and_left, exists_eq_left, exists_const]
  refine ⟨hl, (), _, hbounds, ?_⟩
  simp only [commits_reserves hsupply, and_assoc, exists_and_left, exists_eq_left]
  refine ⟨out, _, hout, (), _, hcap, fee, _, hfee, net, _, hnet, ?_⟩
  simp only [commits_require, hpos, true_and, exists_eq_left, exists_const, commits_pure]

end Tx

/-! ## What a trade pays -/

namespace World

/-- What an account holds beyond the rewards it was paid. -/
def beyond (w : World) (a : Address) : ℤ := w.raw a - (w.position a).claimed

variable {w : World} {a b : Address} {n fee : ℕ}

theorem beyond_eq (w : World) (a : Address) :
    w.beyond a = w.coreLedger.shares (some a) - w.coreLedger.claimed (some a) := rfl

theorem beyond_walletDebited (hn : n ≤ w.raw a) :
    (w.walletDebited a n).beyond a = w.beyond a - n := by
  rw [beyond_eq, beyond_eq, coreLedger_walletDebited w hn]
  simp only [Act.apply, Function.update_self, coreLedger_shares_some]
  omega

theorem beyond_walletCredited : (w.walletCredited a n).beyond a = w.beyond a + n := by
  rw [beyond_eq, beyond_eq, coreLedger_walletCredited]
  simp only [Act.apply, Function.update_self]
  omega

theorem beyond_poolDebited : (w.poolDebited n).beyond a = w.beyond a := by
  rw [beyond, raw_poolDebited]
  rfl

theorem beyond_poolCredited : (w.poolCredited n).beyond a = w.beyond a := by
  rw [beyond, raw_poolCredited]
  rfl

/-- A reward that is paid is held and was paid. -/
theorem beyond_materializedAll (explicit_claim : Bool) (trigger : Trigger) :
    (w.materializedAll a explicit_claim trigger).beyond a = w.beyond a := by
  unfold materializedAll
  split
  · rfl
  · have hledger : (w.materialized a (w.pending (some a)) explicit_claim trigger).coreLedger
        = ((w.walletPaid a (w.pending (some a))).walletCredited a
          (w.pending (some a))).coreLedger := by
      unfold materialized
      cases explicit_claim <;> rfl
    rw [beyond_eq, beyond_eq, hledger, coreLedger_walletCredited, coreLedger_walletPaid]
    simp only [Act.apply, Function.update_self]
    omega

theorem beyond_feeTaken (gross kind : ℕ) : (w.feeTaken a gross fee kind).beyond b = w.beyond b := by
  have hraw : (w.feeTaken a gross fee kind).raw b = w.raw b := by
    unfold feeTaken collected
    split
    · rfl
    · split
      · rw [raw_logged, raw_setAside]
      · rw [raw_logged, raw_logged, raw_indexed]
  have hposition : (w.feeTaken a gross fee kind).position b = w.position b := by
    unfold feeTaken collected
    split
    · rfl
    · split <;> rfl
  rw [beyond, hraw, hposition, beyond]

theorem beyond_ensured : (w.ensured a).beyond b = w.beyond b := by
  unfold ensured
  split <;> rfl

theorem beyond_outside {w' : World} (h : Outside w w') : w'.beyond b = w.beyond b := by
  rw [beyond, beyond, raw, raw, position, position, h.trfl _ rfl, h.reflection]

theorem beyond_checkpointed (e : LpEpoch) : (w.checkpointed e).beyond b = w.beyond b := by
  unfold checkpointed
  split
  · rfl
  · have hledger : ((w.routed (w.pending none) 1).lpReceived e (w.pending none)).coreLedger
        = (w.poolPaid (w.pending none)).coreLedger :=
      coreLedger_credit (w.poolPaid (w.pending none)) (w.pending none)
    rw [beyond_eq, beyond_eq, hledger, coreLedger_poolPaid]
    simp [Act.apply]

theorem beyond_sold (hn : n ≤ (w.materializedAll a false .SELL_PRE).raw a) :
    (w.sold a n fee).beyond a = w.beyond a - n := by
  rw [sold, beyond_poolCredited, beyond_materializedAll, beyond_feeTaken, beyond_walletDebited hn,
    beyond_materializedAll]

theorem beyond_bought : (w.bought a n fee).beyond a = w.beyond a + (n - fee : ℕ) := by
  rw [bought, beyond_walletCredited, beyond_materializedAll, beyond_feeTaken, beyond_poolDebited,
    beyond_materializedAll, beyond_ensured]

/-! ### The fee that is collected -/

theorem lifetime_fees_materializedAll (explicit_claim : Bool) (trigger : Trigger) :
    (w.materializedAll a explicit_claim trigger).reflection.lifetime_fees
      = w.reflection.lifetime_fees := by
  unfold materializedAll
  split
  · rfl
  · unfold materialized
    cases explicit_claim <;> rfl

theorem lifetime_fees_feeTaken (gross kind : ℕ) :
    (w.feeTaken a gross fee kind).reflection.lifetime_fees
      = w.reflection.lifetime_fees + fee := by
  unfold feeTaken collected
  split
  · next hz => rw [hz, Nat.add_zero]
  · split <;> rfl

theorem lifetime_fees_checkpointed (e : LpEpoch) :
    (w.checkpointed e).reflection.lifetime_fees = w.reflection.lifetime_fees := by
  unfold checkpointed
  split <;> rfl

theorem lifetime_fees_ensured :
    (w.ensured a).reflection.lifetime_fees = w.reflection.lifetime_fees := by
  unfold ensured
  split <;> rfl

theorem lifetime_fees_sold :
    (w.sold a n fee).reflection.lifetime_fees = w.reflection.lifetime_fees + fee := by
  show ((((w.materializedAll a false .SELL_PRE).walletDebited a n).feeTaken a n fee
    1).materializedAll a false .SELL_POST).reflection.lifetime_fees = _
  rw [lifetime_fees_materializedAll, lifetime_fees_feeTaken]
  show (w.materializedAll a false .SELL_PRE).reflection.lifetime_fees + fee = _
  rw [lifetime_fees_materializedAll]

theorem lifetime_fees_bought :
    (w.bought a n fee).reflection.lifetime_fees = w.reflection.lifetime_fees + fee := by
  show (((((w.ensured a).materializedAll a false .BUY_PRE).poolDebited n).feeTaken a n fee
    2).materializedAll a false .BUY_POST).reflection.lifetime_fees = _
  rw [lifetime_fees_materializedAll, lifetime_fees_feeTaken]
  show ((w.ensured a).materializedAll a false .BUY_PRE).reflection.lifetime_fees + fee = _
  rw [lifetime_fees_materializedAll, lifetime_fees_ensured]

theorem tusd_checkpointed (e : LpEpoch) {s : Address} (hs : s.store_metadata ≠ some .trfl) :
    (w.checkpointed e).balance s = w.balance s := by
  unfold checkpointed
  split
  · rfl
  · exact (Frame.routed (w := w) (n := w.pending none) 1).tusd s hs

end World

/-- What a sell of `n` units paid and charged: tUSD for tRFL, `fee` collected in
the core, and all of it in the event. -/
structure SellPaid (w w' : World) (a : Address) (n out fee amm_fee : ℕ) : Prop where
  tusd : w'.balance (.primary .tusd a) = w.balance (.primary .tusd a) + out
  trfl : w'.beyond a = w.beyond a - n
  collected : w'.reflection.lifetime_fees = w.reflection.lifetime_fees + fee
  event : w'.events.getLast? = some (.SwapExecuted a true n fee amm_fee out out
    w'.custody.custody_shares w'.usd)

/-- What a buy with `n` units paid and charged. -/
structure BuyPaid (w w' : World) (a : Address) (n out fee amm_fee : ℕ) : Prop where
  tusd : w'.balance (.primary .tusd a) + n = w.balance (.primary .tusd a)
  trfl : w'.beyond a = w.beyond a + out
  collected : w'.reflection.lifetime_fees = w.reflection.lifetime_fees + fee
  event : w'.events.getLast? = some (.SwapExecuted a false n fee amm_fee (out + fee) out
    w'.custody.custody_shares w'.usd)

section Paid

variable {w : World} {e : LpEpoch} {a : Address} {n limit deadline : ℕ}

/-- A sell moves tUSD to the seller's store only. -/
theorem Launched.balance_sellSwapped (h : Launched e w) (hs : Sells e w a n limit deadline)
    (b : Address) :
    (w.sellSwapped e a n).balance (.primary .tusd b)
      = w.balance (.primary .tusd b) + if b = a then w.sellOutput n else 0 := by
  obtain ⟨_, _, -, -, hst⟩ :=
    h.deployed.core.step_sold hs.wallet hs.funds (h.deployed.feeOn_le n)
  have hwallet : (.primary .tusd b : Address).store_metadata ≠ some .trfl := by
    simp [Address.store_metadata]
  have hkept : ((w.sold a n (w.feeOn n)).checkpointed e).balance (.primary .tusd b)
      = w.balance (.primary .tusd b) := by
    rw [World.tusd_checkpointed e hwallet, hst.frame.tusd _ hwallet]
  show (((w.sold a n (w.feeOn n)).checkpointed e).usdOut a (w.sellOutput n)).balance _ = _
  by_cases hb : b = a
  · subst hb
    simp [World.usdOut, hkept]
  · simp [World.usdOut, hkept, hb]

/-- A buy moves tUSD out of the buyer's store only. -/
theorem Launched.balance_buySwapped (h : Launched e w) (hs : Buys e w a n limit deadline)
    (b : Address) :
    (w.buySwapped e a n).balance (.primary .tusd b) + (if b = a then n else 0)
      = w.balance (.primary .tusd b) := by
  have hcap := hs.output_lt
  have hfee := h.deployed.feeOn_le (w.buyOutput n)
  obtain ⟨_, _, -, -, hst⟩ := ((w.outside_usdIn a n).core h.deployed.core).step_bought
    (a := a) (n := w.buyOutput n) hs.eligible
    (show w.buyOutput n ≤ w.custody.custody_shares by omega) hfee
  have hwallet : (.primary .tusd b : Address).store_metadata ≠ some .trfl := by
    simp [Address.store_metadata]
  have hfunds := hs.funds
  show (((w.usdIn a n).bought a (w.buyOutput n) (w.feeOn (w.buyOutput n))).checkpointed
      e).balance _ + _ = _
  rw [World.tusd_checkpointed e hwallet, hst.frame.tusd _ hwallet]
  by_cases hb : b = a
  · subst hb
    simp [World.usdIn]
    omega
  · simp [World.usdIn, hb]

theorem Launched.sellPaid (h : Launched e w) (hs : Sells e w a n limit deadline) :
    SellPaid w (w.sellSwapped e a n) a n (w.sellOutput n) (w.feeOn n) (w.sellQuote n).2.2 := by
  have hout := w.outside_sellSwapped e a n
  refine ⟨?_, ?_, ?_, ?_⟩
  · rw [h.balance_sellSwapped hs, if_pos rfl]
  · rw [World.beyond_outside hout, World.beyond_checkpointed, World.beyond_sold hs.funds]
  · rw [hout.reflection, World.lifetime_fees_checkpointed, World.lifetime_fees_sold]
  · simp [World.sellSwapped, World.sellQuote, World.logged, World.usd]

theorem Launched.buyPaid (h : Launched e w) (hs : Buys e w a n limit deadline) :
    BuyPaid w (w.buySwapped e a n) a n (w.buyOutput n - w.feeOn (w.buyOutput n))
      (w.feeOn (w.buyOutput n)) (w.buyQuote n).2.2 := by
  have hfee := h.deployed.feeOn_le (w.buyOutput n)
  have hout := w.outside_buySwapped e a n
  refine ⟨?_, ?_, ?_, ?_⟩
  · have htusd := h.balance_buySwapped hs a
    rwa [if_pos rfl] at htusd
  · rw [World.beyond_outside hout, World.beyond_checkpointed, World.beyond_bought,
      World.beyond_outside (w.outside_usdIn a n)]
  · rw [hout.reflection, World.lifetime_fees_checkpointed, World.lifetime_fees_bought]
    rfl
  · have hgross : w.buyOutput n - w.feeOn (w.buyOutput n) + w.feeOn (w.buyOutput n)
        = w.buyOutput n := by omega
    rw [hgross]
    simp [World.buySwapped, World.buyQuote, World.logged, World.usd]

end Paid

end CedraReflect
