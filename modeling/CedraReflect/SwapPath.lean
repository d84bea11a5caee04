/-
The swap path of the SDK, from a quote of the chain to a drafted trade.

The amounts that the client reproduces are those of the pool's views if the
context of a quote has the state's own reserves and rates, so that a quote
passes from the chain to the client and back. The one check of the chain that
the client does not repeat is the cap on the output: the cap on the input
implies it, since a constant product pays no greater share of one reserve than
it takes of the other.
-/
import CedraReflect.HonestQuotes
import CedraReflect.NodeViews
import CedraReflect.SafeClient

set_option autoImplicit false
set_option linter.constructorNameAsVariable false
set_option synthInstance.maxSize 1000000000000

namespace CedraReflect

/-! ## The amounts of a state -/

open NamedAddresses (reflection_core test_assets test_amm)
open reflection_settlement (invariant_input invariant_input_le swap_output_le)
open reflection_token (is_excluded_store)
open pool (FIXED_AMM_FEE_BPS FIXED_MAX_RESERVE_BPS FIXED_MAX_GROSS_SWAP)

/-- The context carries the reserves, the rates and the limits of `w`. -/
structure sdk.SwapQuoteContext.About (context : sdk.SwapQuoteContext)
    (direction : sdk.SwapDirection) (w : World) : Prop where
  inputReserve : context.inputReserve
    = if direction = .sell then (w.custody.custody_shares : ℤ) else w.usd
  outputReserve : context.outputReserve
    = if direction = .sell then (w.usd : ℤ) else w.custody.custody_shares
  reflectionFeeBps : context.reflectionFeeBps = w.reflection.fee_bps
  ammFeeBps : context.ammFeeBps = FIXED_AMM_FEE_BPS
  maximumGrossSwap : context.maximumGrossSwap = FIXED_MAX_GROSS_SWAP
  maximumReserveBps : context.maximumReserveBps = FIXED_MAX_RESERVE_BPS

namespace sdk.SwapQuoteContext.About

variable {context : sdk.SwapQuoteContext} {w : World} {e : LpEpoch}

/-- The amounts that the client reproduces for a sell are the pool's. -/
theorem sell (h : context.About .sell w) (hd : Deployed e w) (n : ℕ) :
    context.expectedReserveInput .sell n = ((n - w.feeOn n : ℕ) : ℤ)
      ∧ context.invariantInput .sell n
        = (invariant_input (n - w.feeOn n) FIXED_AMM_FEE_BPS : ℕ)
      ∧ context.expectedGrossOutput .sell n = (w.sellOutput n : ℕ)
      ∧ context.expectedReflectionFee .sell n = (w.feeOn n : ℕ)
      ∧ context.expectedReceipt .sell n = (w.sellOutput n : ℕ) := by
  have hfee : context.expectedSellReflection n = (w.feeOn n : ℕ) := by
    rw [expectedSellReflection, h.reflectionFeeBps]
    rfl
  have hreserve : context.expectedReserveInput .sell n = ((n - w.feeOn n : ℕ) : ℤ) := by
    rw [expectedReserveInput, if_pos rfl, hfee, Int.ofNat_sub (hd.feeOn_le n)]
  have hinvariant : context.invariantInput .sell n
      = (invariant_input (n - w.feeOn n) FIXED_AMM_FEE_BPS : ℕ) := by
    rw [invariantInput, hreserve, h.ammFeeBps]
    rfl
  have hgross : context.expectedGrossOutput .sell n = (w.sellOutput n : ℕ) := by
    rw [expectedGrossOutput, hinvariant, h.inputReserve, h.outputReserve]
    rfl
  refine ⟨hreserve, hinvariant, hgross, ?_, ?_⟩
  · rw [expectedReflectionFee, if_pos rfl, hfee]
  · rw [expectedReceipt, if_neg (by decide), hgross]

/-- The amounts that the client reproduces for a buy are the pool's. -/
theorem buy (h : context.About .buy w) (hd : Deployed e w) (n : ℕ) :
    context.expectedReserveInput .buy n = (n : ℤ)
      ∧ context.invariantInput .buy n = (invariant_input n FIXED_AMM_FEE_BPS : ℕ)
      ∧ context.expectedGrossOutput .buy n = (w.buyOutput n : ℕ)
      ∧ context.expectedReflectionFee .buy n = (w.feeOn (w.buyOutput n) : ℕ)
      ∧ context.expectedReceipt .buy n
        = ((w.buyOutput n - w.feeOn (w.buyOutput n) : ℕ) : ℤ) := by
  have hreserve : context.expectedReserveInput .buy n = (n : ℤ) := if_neg (by decide)
  have hinvariant : context.invariantInput .buy n
      = (invariant_input n FIXED_AMM_FEE_BPS : ℕ) := by
    rw [invariantInput, hreserve, h.ammFeeBps]
    rfl
  have hgross : context.expectedGrossOutput .buy n = (w.buyOutput n : ℕ) := by
    rw [expectedGrossOutput, hinvariant, h.inputReserve, h.outputReserve]
    rfl
  have hfee : context.expectedReflectionFee .buy n = (w.feeOn (w.buyOutput n) : ℕ) := by
    rw [expectedReflectionFee, if_neg (by decide), hgross, h.reflectionFeeBps]
    rfl
  refine ⟨hreserve, hinvariant, hgross, hfee, ?_⟩
  rw [expectedReceipt, if_pos rfl, hgross, hfee, Int.ofNat_sub (hd.feeOn_le _)]

end sdk.SwapQuoteContext.About

/-! ## From the chain to the client -/

/-- The view that quotes a direction. -/
def sdk.SwapDirection.quote : sdk.SwapDirection → ℕ → Move (ℕ × ℕ × ℕ)
  | .sell => pool.quote_sell
  | .buy => pool.quote_buy

/-- The context of a quote that is read in `w`. -/
def World.quoteContext (w : World) (identity : sdk.ValidatedIdentity)
    (direction : sdk.SwapDirection) : sdk.SwapQuoteContext where
  chainId := identity.chainId
  ledgerVersion := identity.version
  deploymentId := reflection_token.DEPLOYMENT_ID
  packageVersion := identity.packageVersion
  inputReserve := if direction = .sell then (w.custody.custody_shares : ℤ) else w.usd
  outputReserve := if direction = .sell then (w.usd : ℤ) else w.custody.custody_shares
  reflectionFeeBps := w.reflection.fee_bps
  ammFeeBps := FIXED_AMM_FEE_BPS
  maximumGrossSwap := FIXED_MAX_GROSS_SWAP
  maximumReserveBps := FIXED_MAX_RESERVE_BPS

theorem World.about_quoteContext (w : World) (identity : sdk.ValidatedIdentity)
    (direction : sdk.SwapDirection) : (w.quoteContext identity direction).About direction w :=
  ⟨rfl, rfl, rfl, rfl, rfl, rfl⟩

/-- The quote of an input in a context. -/
def sdk.SwapQuoteContext.expectedQuote (context : sdk.SwapQuoteContext) (input : sdk.SwapInput) :
    sdk.SwapQuote where
  direction := input.direction
  grossAmount := input.grossAmount
  slippageBps := input.slippageBps
  reflectionFee := context.expectedReflectionFee input.direction input.grossAmount
  ammFee := context.expectedAmmFee input.direction input.grossAmount
  netReserveInput := context.expectedReserveInput input.direction input.grossAmount
  grossPoolOutput := context.expectedGrossOutput input.direction input.grossAmount
  netUserReceipt := context.expectedReceipt input.direction input.grossAmount
  minimumNetUserReceipt :=
    context.expectedMinimum input.direction input.grossAmount input.slippageBps
  priceImpactBps := context.expectedImpact input.direction input.grossAmount
  deadlineUnixSeconds := input.deadlineUnixSeconds
  context

section Chain

variable {fee_bps : ℕ} {w w' : World} {e : LpEpoch} {n : ℕ} {q : ℕ × ℕ × ℕ}
  {direction : sdk.SwapDirection} {context : sdk.SwapQuoteContext}

/-- What a quote of the chain is, in the words of the client. -/
structure Quoted (context : sdk.SwapQuoteContext) (direction : sdk.SwapDirection) (n : ℕ)
    (q : ℕ × ℕ × ℕ) : Prop where
  pos : 0 < n
  max : (n : ℤ) ≤ context.maximumGrossSwap
  input_cap : (n : ℤ) * sdk.BPS_DENOMINATOR ≤ context.inputReserve * context.maximumReserveBps
  receipt : context.expectedReceipt direction n = q.1
  reflectionFee : context.expectedReflectionFee direction n = q.2.1
  ammFee : context.expectedAmmFee direction n = q.2.2
  receipt_pos : 0 < q.1
  reserveInput_pos : 0 < context.expectedReserveInput direction n
  reserveInput_le : context.expectedReserveInput direction n ≤ n
  invariant_nonneg : 0 ≤ context.invariantInput direction n
  gross_le : context.expectedGrossOutput direction n ≤ sdk.U64_MAX

namespace Quoted

variable (h : Quoted context direction n q)

include h

theorem reserveInput : (if direction = .sell then (n : ℤ) - q.2.1 else n)
    = context.expectedReserveInput direction n := by
  have hfee := h.reflectionFee
  rw [sdk.SwapQuoteContext.expectedReserveInput]
  cases direction with
  | sell =>
      rw [sdk.SwapQuoteContext.expectedReflectionFee, if_pos rfl] at hfee
      rw [if_pos rfl, if_pos rfl, hfee]
  | buy => rw [if_neg (by decide), if_neg (by decide)]

theorem grossOutput : (if direction = .buy then (q.1 : ℤ) + q.2.1 else q.1)
    = context.expectedGrossOutput direction n := by
  have hreceipt := h.receipt
  have hfee := h.reflectionFee
  rw [sdk.SwapQuoteContext.expectedReceipt] at hreceipt
  cases direction with
  | sell =>
      rw [if_neg (by decide)] at hreceipt
      rw [if_neg (by decide), hreceipt]
  | buy =>
      rw [if_pos rfl, hfee] at hreceipt
      rw [if_pos rfl]
      omega

theorem invariantInput : context.expectedReserveInput direction n - q.2.2
    = context.invariantInput direction n := by
  have hfee := h.ammFee
  rw [sdk.SwapQuoteContext.expectedAmmFee] at hfee
  omega

/-- The three numbers are `u64`s. -/
theorem fits (hn : (n : ℤ) ≤ sdk.U64_MAX) : q.1 < 2 ^ 64 ∧ q.2.1 < 2 ^ 64 ∧ q.2.2 < 2 ^ 64 := by
  have hreserve := h.reserveInput
  have hgross := h.grossOutput
  have hinvariant := h.invariantInput
  have hpos := h.reserveInput_pos
  have hle := h.reserveInput_le
  have hnonneg := h.invariant_nonneg
  have hmax := h.gross_le
  unfold sdk.U64_MAX at hmax hn
  cases direction with
  | sell =>
      rw [if_pos rfl] at hreserve
      rw [if_neg (by decide)] at hgross
      refine ⟨?_, ?_, ?_⟩ <;> omega
  | buy =>
      rw [if_neg (by decide)] at hreserve
      rw [if_pos rfl] at hgross
      refine ⟨?_, ?_, ?_⟩ <;> omega

/-- The pool's fee is a part of what reaches the reserve. -/
theorem fees_fit : ¬ (context.expectedReserveInput direction n < 0
    ∨ context.expectedReserveInput direction n < q.2.2) := by
  have := h.invariantInput
  have := h.invariant_nonneg
  have := h.reserveInput_pos
  omega

/-- The input keeps to both limits. -/
theorem within_limits : ¬ (context.maximumGrossSwap < n
    ∨ context.inputReserve * context.maximumReserveBps < n * sdk.BPS_DENOMINATOR) := by
  have := h.max
  have := h.input_cap
  omega

/-- The fees and the output are the ones that the adapter computes itself. -/
theorem recomputed : ¬ ((q.2.2 : ℤ) ≠ context.expectedReserveInput direction n
      - context.expectedReserveInput direction n * (sdk.BPS_DENOMINATOR - context.ammFeeBps)
        / sdk.BPS_DENOMINATOR
    ∨ ((q.2.1 : ℤ) ≠ if direction = .sell then
        n * context.reflectionFeeBps / sdk.BPS_DENOMINATOR
      else context.outputReserve * context.invariantInput direction n
        / (context.inputReserve + context.invariantInput direction n)
          * context.reflectionFeeBps / sdk.BPS_DENOMINATOR)
    ∨ context.expectedGrossOutput direction n
      ≠ context.outputReserve * context.invariantInput direction n
        / (context.inputReserve + context.invariantInput direction n)) := by
  rw [← h.ammFee, ← h.reflectionFee]
  simp only [sdk.SwapQuoteContext.expectedAmmFee, sdk.SwapQuoteContext.invariantInput,
    sdk.SwapQuoteContext.expectedReflectionFee, sdk.SwapQuoteContext.expectedSellReflection,
    sdk.SwapQuoteContext.expectedGrossOutput, ne_eq, not_true_eq_false, or_self, not_false_eq_true]

/-- The least receipt that a slippage allows is at most the receipt. -/
theorem minimum {slippage : ℤ} (hslippage : 0 ≤ slippage)
    (hslippage' : slippage ≤ sdk.BPS_DENOMINATOR) :
    0 ≤ context.expectedMinimum direction n slippage
      ∧ context.expectedMinimum direction n slippage ≤ q.1 := by
  have hq : (0 : ℤ) ≤ q.1 := Int.natCast_nonneg _
  rw [sdk.SwapQuoteContext.expectedMinimum, h.receipt]
  constructor
  · apply Int.ediv_nonneg (Int.mul_nonneg hq (by omega))
    decide
  · apply Int.ediv_le_of_le_mul (by decide)
    exact Int.mul_le_mul_of_nonneg_left (by omega) hq

/-- The impact is a share of the reserve after the trade. -/
theorem impact (hreserve : 0 < context.inputReserve) :
    0 ≤ context.expectedImpact direction n
      ∧ context.expectedImpact direction n ≤ sdk.BPS_DENOMINATOR := by
  have hinvariant := h.invariant_nonneg
  rw [sdk.SwapQuoteContext.expectedImpact]
  constructor
  · exact Int.ediv_nonneg (Int.mul_nonneg hinvariant (by decide)) (by omega)
  · apply Int.ediv_le_of_le_mul (by omega)
    rw [Int.mul_comm]
    exact Int.mul_le_mul_of_nonneg_left (by omega) (by decide)

end Quoted

namespace sdk.SwapQuoteContext.About

variable (habout : context.About direction w)

include habout

theorem unsigned_inputReserve (h : Launched e w) (husd : w.usd < 2 ^ 64) (id : FunctionId) :
    unsigned ([decimal w.custody.custody_shares, decimal w.usd].getD
      (if direction = .sell then 0 else 1) .other) 64 id = .ok context.inputReserve := by
  rw [habout.inputReserve]
  cases direction with
  | sell => exact unsigned_decimal h.deployed.custody_lt id
  | buy => exact unsigned_decimal husd id

theorem unsigned_outputReserve (h : Launched e w) (husd : w.usd < 2 ^ 64) (id : FunctionId) :
    unsigned ([decimal w.custody.custody_shares, decimal w.usd].getD
      (if direction = .sell then 1 else 0) .other) 64 id = .ok context.outputReserve := by
  rw [habout.outputReserve]
  cases direction with
  | sell => exact unsigned_decimal husd id
  | buy => exact unsigned_decimal h.deployed.custody_lt id

theorem unsigned_reflectionFeeBps (h : Launched e w) (id : FunctionId) :
    unsigned (decimal w.reflection.fee_bps) 64 id = .ok context.reflectionFeeBps := by
  have hbps : w.reflection.fee_bps < 2 ^ 64 := by
    have := h.deployed.fee
    unfold reflection_token.MAX_FEE_BPS at this
    omega
  rw [habout.reflectionFeeBps]
  exact unsigned_decimal hbps id

theorem unsigned_ammFeeBps (id : FunctionId) :
    unsigned (decimal FIXED_AMM_FEE_BPS) 64 id = .ok context.ammFeeBps := by
  rw [habout.ammFeeBps]
  exact unsigned_decimal (by decide) id

theorem unsigned_maximumReserveBps (id : FunctionId) :
    unsigned (decimal FIXED_MAX_RESERVE_BPS) 64 id = .ok context.maximumReserveBps := by
  rw [habout.maximumReserveBps]
  exact unsigned_decimal (by decide) id

theorem unsigned_maximumGrossSwap (id : FunctionId) :
    unsigned (decimal FIXED_MAX_GROSS_SWAP) 64 id = .ok context.maximumGrossSwap := by
  rw [habout.maximumGrossSwap]
  exact unsigned_decimal (by decide) id

/-- The deployed policy is within the bounds of the adapter. -/
theorem policy (h : Launched e w) : ¬ (500 < context.reflectionFeeBps ∨ 100 < context.ammFeeBps
    ∨ context.maximumReserveBps = 0 ∨ BPS_DENOMINATOR < context.maximumReserveBps
    ∨ context.maximumGrossSwap = 0) := by
  have hle := h.deployed.fee
  rw [habout.reflectionFeeBps, habout.ammFeeBps, habout.maximumReserveBps, habout.maximumGrossSwap]
  unfold reflection_token.MAX_FEE_BPS at hle
  unfold FIXED_AMM_FEE_BPS FIXED_MAX_RESERVE_BPS BPS_DENOMINATOR FIXED_MAX_GROSS_SWAP
  omega

/-- The reserves of a live pool are positive, and so is what is received. -/
theorem positive (hlive : Live e w) (hquoted : Quoted context direction n q) :
    ¬ (context.inputReserve = 0 ∨ context.outputReserve = 0 ∨ (q.1 : ℤ) = 0) := by
  have hR := hlive.rfl_pos
  have hU := hlive.usd_pos
  have := hquoted.receipt_pos
  rw [habout.inputReserve, habout.outputReserve]
  split <;> omega

/-- The reserves of a live pool are positive `u64`s. -/
theorem reserves (h : Launched e w) (hlive : Live e w) (husd : w.usd < 2 ^ 64) :
    (0 < context.inputReserve ∧ context.inputReserve ≤ U64_MAX)
      ∧ 0 < context.outputReserve ∧ context.outputReserve ≤ U64_MAX := by
  have hU64 : U64_MAX = 2 ^ 64 - 1 := rfl
  have hR := h.deployed.custody_lt
  have hR₀ := hlive.rfl_pos
  have hU₀ := hlive.usd_pos
  rw [habout.inputReserve, habout.outputReserve]
  constructor
  · split <;> omega
  · split <;> omega

end sdk.SwapQuoteContext.About

variable [NamedAddresses]

theorem Tx.quoted_of_view (h : Launched e w) (habout : context.About direction w)
    (hc : Tx.Commits (direction.quote n) .machine w q w') : Quoted context direction n q := by
  have hd := h.deployed
  have hbps : sdk.BPS_DENOMINATOR = (pool.BPS_DENOMINATOR : ℕ) := rfl
  have hmax : sdk.U64_MAX = (reflection_settlement.MAX_U64 : ℕ) := rfl
  cases direction with
  | sell =>
      have hs : Sound .machine (pool.quote_sell n) := inferInstance
      obtain ⟨hq, rfl, -⟩ := (Tx.commits_quote_sell h).mp (hs.commits hc)
      obtain ⟨hreserve, hinvariant, hgross, hfee, hreceipt⟩ := habout.sell hd n
      have hle := hd.feeOn_mul_le n
      have hpos := hq.pos
      have hinv := invariant_input_le (n - w.feeOn n) FIXED_AMM_FEE_BPS
      refine ⟨hq.pos, ?_, ?_, hreceipt, hfee, ?_, hq.output_pos, ?_, ?_, ?_, ?_⟩
      · rw [habout.maximumGrossSwap]
        exact_mod_cast hq.max
      · rw [habout.inputReserve, if_pos rfl, habout.maximumReserveBps, hbps]
        exact_mod_cast hq.input_cap
      · rw [sdk.SwapQuoteContext.expectedAmmFee, hreserve, hinvariant, World.sellQuote]
        dsimp only
        omega
      · rw [hreserve]
        omega
      · rw [hreserve]
        omega
      · rw [hinvariant]
        omega
      · rw [hgross, hmax]
        exact_mod_cast hq.width
  | buy =>
      have hs : Sound .machine (pool.quote_buy n) := inferInstance
      obtain ⟨hq, rfl, -⟩ := (Tx.commits_quote_buy h).mp (hs.commits hc)
      obtain ⟨hreserve, hinvariant, hgross, hfee, hreceipt⟩ := habout.buy hd n
      have hinv := invariant_input_le n FIXED_AMM_FEE_BPS
      have hpos := hq.pos
      refine ⟨hq.pos, ?_, ?_, hreceipt, hfee, ?_, hq.output_pos, ?_, ?_, ?_, ?_⟩
      · rw [habout.maximumGrossSwap]
        exact_mod_cast hq.max
      · rw [habout.inputReserve, if_neg (by decide), habout.maximumReserveBps, hbps]
        exact_mod_cast hq.input_cap
      · rw [sdk.SwapQuoteContext.expectedAmmFee, hreserve, hinvariant, World.buyQuote]
        dsimp only
        omega
      · rw [hreserve]
        omega
      · rw [hreserve]
      · rw [hinvariant]
        omega
      · have hout : w.buyOutput n ≤ w.custody.custody_shares := swap_output_le _ _ _ _
        have := hd.custody_lt
        rw [hgross]
        unfold sdk.U64_MAX
        omega

open sdk (FinalizedCedraReadAdapter ValidatedIdentity SwapInput)
open indexer (ok_bind throwIf)

variable {adapter : FinalizedCedraReadAdapter} {identity : ValidatedIdentity} {input : SwapInput}

namespace sdk.FinalizedCedraReadAdapter.Pins

/-- The read of a quote. -/
theorem tuple_quote (hp : adapter.Pins w identity) (hn : (n : ℤ) ≤ U64_MAX)
    (hc : Tx.Commits (direction.quote n) .machine w q w') :
    adapter.tuple identity.version test_amm "pool"
        (if direction = .sell then "quote_sell" else "quote_buy") [.integer n] 3
      = .ok [decimal q.1, decimal q.2.1, decimal q.2.2] := by
  have hargument : (0 : ℤ) ≤ n ∧ (n : ℤ) ≤ U64_MAX := ⟨Int.natCast_nonneg n, hn⟩
  rw [tuple_eq_ok, hp.views]
  cases direction with
  | sell =>
      rw [if_pos rfl, viewJson_eq_ok test_amm rfl rfl]
      refine ⟨⟨w', ?_⟩, rfl⟩
      simp only [withU64, Tx.commits_bind, Tx.commits_require, hargument, Int.toNat_natCast]
      exact ⟨(), w, ⟨⟨trivial, trivial⟩, rfl⟩, q, w', hc, rfl⟩
  | buy =>
      rw [if_neg (by decide), viewJson_eq_ok test_amm rfl rfl]
      refine ⟨⟨w', ?_⟩, rfl⟩
      simp only [withU64, Tx.commits_bind, Tx.commits_require, hargument, Int.toNat_natCast]
      exact ⟨(), w, ⟨⟨trivial, trivial⟩, rfl⟩, q, w', hc, rfl⟩

/-- The other reads of a quote. -/
theorem swap_reads (hp : adapter.Pins w identity) (h : Launched e w) :
    adapter.tuple identity.version test_amm "pool" "reserves_view" [] 2
        = .ok [decimal w.custody.custody_shares, decimal w.usd]
      ∧ adapter.tuple identity.version test_amm "pool" "limits" [] 3
        = .ok [decimal FIXED_AMM_FEE_BPS, decimal FIXED_MAX_RESERVE_BPS,
          decimal FIXED_MAX_GROSS_SWAP]
      ∧ adapter.scalar identity.version reflection_core "reflection_token" "reflection_fee_bps" []
        = .ok (decimal w.reflection.fee_bps) := by
  refine ⟨?_, ?_, ?_⟩
  · rw [tuple_eq_ok, hp.views, viewJson_eq_ok test_amm rfl rfl]
    refine ⟨⟨w, ?_⟩, rfl⟩
    simp [pool.reserves_view, Tx.commits_pool_borrow_state h.deployed,
      Tx.commits_reserves h.deployed.core.supply]
  · rw [tuple_eq_ok, hp.views, viewJson_eq_ok test_amm rfl rfl]
    exact ⟨⟨w, by simp [pool.limits]⟩, rfl⟩
  · rw [scalar_eq_ok, hp.views, viewJson_eq_ok reflection_core rfl rfl]
    exact ⟨w, by simp [reflection_token.reflection_fee_bps, reflection_token.borrow_state]⟩

/-- **The adapter accepts what the chain quotes**, and makes of it the quote that
the client will reproduce. -/
theorem quoteSwap (hp : adapter.Pins w identity) (h : Launched e w) (hlive : Live e w)
    (husd : w.usd ≤ reflection_settlement.MAX_U64) (hgross : input.grossAmount = n)
    (hn : (n : ℤ) ≤ U64_MAX) (hslippage : 0 ≤ input.slippageBps)
    (hslippage' : input.slippageBps ≤ BPS_DENOMINATOR)
    (hdeadline : input.deadlineUnixSeconds ≤ U64_MAX)
    (htime : identity.timestampUnixSeconds < input.deadlineUnixSeconds)
    (hc : Tx.Commits (input.direction.quote n) .machine w q w') :
    adapter.quoteSwap input
      = .ok ((w.quoteContext identity input.direction).expectedQuote input) := by
  have hid := hp.identified
  obtain ⟨hreserves, hlimits, hfee⟩ := hp.swap_reads h
  have hquote := hp.tuple_quote hn hc
  obtain ⟨context, hcontext⟩ : ∃ context, context = w.quoteContext identity input.direction :=
    ⟨_, rfl⟩
  have habout : context.About input.direction w := hcontext ▸ w.about_quoteContext identity _
  have hquoted := Tx.quoted_of_view h habout hc
  obtain ⟨hfirst, hreflection, hamm⟩ := hquoted.fits hn
  have hU : w.usd < 2 ^ 64 := by
    unfold reflection_settlement.MAX_U64 at husd
    omega
  have hread : ∀ {x : ℤ}, 0 ≤ x → x ≤ U64_MAX → ∀ id, unsigned (.integer x) 64 id = .ok x :=
    fun hx hx' _ => unsigned_eq_ok.mpr ⟨rfl, hx, hx'⟩
  have hzero : ¬ (n : ℤ) = 0 := by
    have := hquoted.pos
    omega
  have hslippage64 : input.slippageBps ≤ U64_MAX := hslippage'.trans (by decide)
  have hdeadline₀ : 0 ≤ input.deadlineUnixSeconds := hid.timestamp_nonneg.trans htime.le
  unfold FinalizedCedraReadAdapter.quoteSwap
  rw [← hcontext]
  -- What is read of the views is the context, and none of the refusals applies.
  simp only [hgross, ok_bind, hp.accepted, hid.amm, hid.core, hquote, hreserves, hlimits, hfee,
    entry, List.getD_cons_zero, List.getD_cons_succ, unsigned_decimal hfirst,
    unsigned_decimal hreflection, unsigned_decimal hamm, habout.unsigned_reflectionFeeBps h,
    habout.unsigned_ammFeeBps, habout.unsigned_maximumReserveBps, habout.unsigned_maximumGrossSwap,
    hquoted.reserveInput, hquoted.grossOutput, hquoted.invariantInput,
    habout.unsigned_inputReserve h hU, habout.unsigned_outputReserve h hU,
    hread (Int.natCast_nonneg n) hn, hread hslippage hslippage64, hread hdeadline₀ hdeadline,
    throwIf, if_neg hzero, if_neg (habout.policy h), if_neg hquoted.fees_fit,
    if_neg (habout.positive hlive hquoted), if_neg hquoted.within_limits,
    if_neg hquoted.recomputed, if_neg (not_lt.mpr hslippage'), if_neg (not_le.mpr htime),
    if_neg (not_lt.mpr hquoted.gross_le)]
  simp only [← hquoted.receipt, ← hquoted.reflectionFee, ← hquoted.ammFee, hid.deploymentId]
  subst hcontext
  rw [sdk.SwapQuoteContext.expectedQuote, hgross]
  rfl

end sdk.FinalizedCedraReadAdapter.Pins

open indexer (bind_eq_ok throwIf_eq_ok)

/-- The client knows the chain, the version, the deployment and the package that
a context names. -/
theorem sdk.FinalizedCedraReadAdapter.Identified.known (hid : adapter.Identified identity)
    (hcontext : context = w.quoteContext identity direction) :
    context.chainId = CEDRA_TESTNET_CHAIN_ID
      ∧ ¬ (context.ledgerVersion ≤ 0 ∨ U64_MAX < context.ledgerVersion)
      ∧ ¬ (context.deploymentId = "" ∨ 512 < indexer.utf16Length context.deploymentId
        ∨ isPackageVersion context.packageVersion = false) := by
  subst hcontext
  refine ⟨hid.chainId, ?_, ?_⟩
  · have := hid.version_pos
    have := hid.version_le
    change ¬ (identity.version ≤ 0 ∨ U64_MAX < identity.version)
    omega
  · have hnonempty : ¬ reflection_token.DEPLOYMENT_ID = "" := by decide
    have hlength : ¬ 512 < indexer.utf16Length reflection_token.DEPLOYMENT_ID := by decide
    have hversion : ¬ isPackageVersion identity.packageVersion = false := by
      rw [hid.packageVersion]
      decide
    exact not_or.mpr ⟨hnonempty, not_or.mpr ⟨hlength, hversion⟩⟩

/-- **The client accepts the quote of the adapter.** -/
theorem sdk.assertSwapQuote_expectedQuote (hid : adapter.Identified identity)
    (h : Launched e w) (hlive : Live e w) (husd : w.usd ≤ reflection_settlement.MAX_U64)
    (hgross : input.grossAmount = n) (hn : (n : ℤ) ≤ U64_MAX) (hslippage : 0 ≤ input.slippageBps)
    (hslippage' : input.slippageBps ≤ BPS_DENOMINATOR) (hdeadline₀ : 0 ≤ input.deadlineUnixSeconds)
    (hdeadline : input.deadlineUnixSeconds ≤ U64_MAX) {now : ℤ}
    (hnow : now < input.deadlineUnixSeconds)
    (hquoted : Quoted (w.quoteContext identity input.direction) input.direction n q) :
    assertSwapQuote ((w.quoteContext identity input.direction).expectedQuote input) now
      = .ok () := by
  have habout := w.about_quoteContext identity input.direction
  obtain ⟨context, hcontext⟩ : ∃ context, context = w.quoteContext identity input.direction :=
    ⟨_, rfl⟩
  obtain ⟨hchain, hversion, hidentity⟩ := hid.known hcontext
  rw [← hcontext] at hquoted habout ⊢
  have hpos := hquoted.pos
  obtain ⟨hfirst, hreflection, hamm⟩ := hquoted.fits hn
  have hreceipt_pos := hquoted.receipt_pos
  have hreserve_pos := hquoted.reserveInput_pos
  have hreserve_le := hquoted.reserveInput_le
  have hgross_le := hquoted.gross_le
  have hgross_eq := hquoted.grossOutput
  have hminimum := hquoted.minimum hslippage hslippage'
  have hU64 : U64_MAX = 2 ^ 64 - 1 := rfl
  have hbps : BPS_DENOMINATOR = 10000 := rfl
  have hmax : reflection_settlement.MAX_U64 = 2 ^ 64 - 1 := rfl
  obtain ⟨hinput, houtput⟩ := habout.reserves h hlive (by omega)
  have himpact := hquoted.impact hinput.1
  have hgross_pos : 0 < context.expectedGrossOutput input.direction n := by
    rw [← hgross_eq]
    split <;> omega
  have hcaps := hquoted.max
  have hinput_cap := hquoted.input_cap
  have hrates : context.reflectionFeeBps = w.reflection.fee_bps ∧ w.reflection.fee_bps ≤ 500 :=
    ⟨habout.reflectionFeeBps, h.deployed.fee⟩
  have hlimits : context.ammFeeBps = 30 ∧ context.maximumReserveBps = 2000
      ∧ 0 < context.maximumGrossSwap ∧ context.maximumGrossSwap ≤ U64_MAX := by
    rw [habout.ammFeeBps, habout.maximumReserveBps, habout.maximumGrossSwap]
    decide
  simp only [assertSwapQuote, bind_eq_ok, exists_const, assertPositive, assertUnsigned,
    assertFutureDeadline, throwIf_eq_ok, SwapQuoteContext.expectedQuote, hgross,
    hquoted.reflectionFee, hquoted.ammFee, hquoted.receipt, MAX_REFLECTION_FEE_BPS]
  -- The reproduced amounts are the quote's own, so that what is left are the ranges.
  refine ⟨by omega, by omega, by omega, by omega, by omega, by omega, by omega, by omega, by omega,
    by omega, ⟨by omega, by omega⟩, by omega, not_not_intro hchain, hversion, hidentity, by omega,
    by omega, by omega, by omega, by omega, by omega, by omega, by omega, ?_⟩
  simp only [ne_eq, not_true_eq_false, or_false]
  omega

/-! ## From the client to the chain -/

namespace reflection_settlement

omit [NamedAddresses] in
/-- **A swap takes no greater share than it gives**: the cap on its input is a
cap on its output. -/
theorem swap_output_cap {R U n fee_bps bps cap : ℕ} (hR : 0 < R) (hcap : n * bps ≤ R * cap) :
    swap_output R U n fee_bps * bps ≤ U * cap := by
  obtain ⟨i, hi⟩ : ∃ i, i = invariant_input n fee_bps := ⟨_, rfl⟩
  have hle : i ≤ n := hi ▸ invariant_input_le n fee_bps
  have hout : swap_output R U n fee_bps * (R + i) ≤ U * i := by
    rw [swap_output, ← hi]
    exact Nat.div_mul_le_self _ _
  have hsum : 0 < R + i := by omega
  -- Both sides times the reserve after the swap.
  apply Nat.le_of_mul_le_mul_right _ hsum
  calc swap_output R U n fee_bps * bps * (R + i)
      = swap_output R U n fee_bps * (R + i) * bps := Nat.mul_right_comm _ _ _
    _ ≤ U * i * bps := Nat.mul_le_mul_right bps hout
    _ ≤ U * n * bps := Nat.mul_le_mul_right bps (Nat.mul_le_mul_left U hle)
    _ = U * (n * bps) := Nat.mul_assoc _ _ _
    _ ≤ U * (R * cap) := Nat.mul_le_mul_left U hcap
    _ = U * cap * R := by rw [Nat.mul_comm R, Nat.mul_assoc]
    _ ≤ U * cap * (R + i) := Nat.mul_le_mul_left _ (by omega)

end reflection_settlement

/-- What the client has checked of a quote of `n` units. -/
structure sdk.SwapQuote.Accepted (quote : sdk.SwapQuote) (now : ℤ) (n : ℕ) : Prop where
  gross : quote.grossAmount = n
  pos : 0 < n
  max : (n : ℤ) ≤ quote.context.maximumGrossSwap
  input_cap : (n : ℤ) * sdk.BPS_DENOMINATOR
    ≤ quote.context.inputReserve * quote.context.maximumReserveBps
  output : quote.context.expectedGrossOutput quote.direction n ≤ sdk.U64_MAX
  receipt : quote.netUserReceipt = quote.context.expectedReceipt quote.direction n
  receipt_pos : 0 < quote.netUserReceipt
  minimum_nonneg : 0 ≤ quote.minimumNetUserReceipt
  minimum_le : quote.minimumNetUserReceipt ≤ quote.netUserReceipt
  future : now < quote.deadlineUnixSeconds

omit [NamedAddresses] in
theorem sdk.SwapQuote.accepted {quote : sdk.SwapQuote} {now : ℤ}
    (h : sdk.assertSwapQuote quote now = .ok ()) :
    quote.Accepted now quote.grossAmount.toNat := by
  simp only [assertSwapQuote, bind_eq_ok, exists_const, assertPositive, assertUnsigned,
    assertFutureDeadline, throwIf_eq_ok, not_or, not_lt, not_le, ne_eq, not_not] at h
  obtain ⟨⟨hpos, -⟩, ⟨hslippage, -⟩, -, -, -, ⟨-, houtput⟩, ⟨hreceipt_pos, -⟩, ⟨hminimum, -⟩, -, -,
    ⟨-, hfuture⟩, -, -, -, -, -, -, -, -, -, -, -, ⟨hmax, hcap⟩, -, -, -, -, hgross, -, hreceipt,
    hleast, -⟩ := h
  have hn : (quote.grossAmount.toNat : ℤ) = quote.grossAmount := Int.toNat_of_nonneg hpos.le
  refine ⟨hn.symm, by omega, by omega, ?_, ?_, ?_, hreceipt_pos, hminimum, ?_, hfuture⟩
  · rw [hn]
    exact hcap
  · rw [hn, ← hgross]
    exact houtput
  · rw [hn]
    exact hreceipt
  · rw [hleast, SwapQuoteContext.expectedMinimum, ← hreceipt]
    apply Int.ediv_le_of_le_mul (by decide)
    exact Int.mul_le_mul_of_nonneg_left (by omega) hreceipt_pos.le

namespace sdk.SwapQuote.Accepted

variable {quote : SwapQuote} {now : ℤ}

omit [NamedAddresses] in
theorem sellQuoted (ha : quote.Accepted now n) (hsell : quote.direction = .sell)
    (h : Launched e w) (hlive : Live e w) (habout : quote.context.About .sell w) :
    SellQuoted e w n ∧ quote.netUserReceipt = w.sellOutput n := by
  obtain ⟨-, -, hgross, -, hreceipt⟩ := habout.sell h.deployed n
  have hbps : sdk.BPS_DENOMINATOR = (pool.BPS_DENOMINATOR : ℕ) := rfl
  have hmax := ha.max
  have hcap := ha.input_cap
  have hwidth := ha.output
  have hanswer := ha.receipt
  have hpos := ha.receipt_pos
  rw [hsell] at hwidth hanswer
  rw [hreceipt] at hanswer
  rw [hgross] at hwidth
  rw [habout.maximumGrossSwap] at hmax
  rw [habout.inputReserve, if_pos rfl, habout.maximumReserveBps, hbps] at hcap
  have hinput : n * pool.BPS_DENOMINATOR ≤ w.custody.custody_shares * FIXED_MAX_RESERVE_BPS := by
    exact_mod_cast hcap
  have hnet : (n - w.feeOn n) * pool.BPS_DENOMINATOR
      ≤ w.custody.custody_shares * FIXED_MAX_RESERVE_BPS :=
    (Nat.mul_le_mul_right _ (Nat.sub_le _ _)).trans hinput
  refine ⟨⟨hlive, ha.pos, by exact_mod_cast hmax, hinput, ?_, ?_, ?_⟩, hanswer⟩
  · unfold reflection_settlement.MAX_U64
    unfold sdk.U64_MAX at hwidth
    omega
  · exact reflection_settlement.swap_output_cap hlive.rfl_pos hnet
  · omega

omit [NamedAddresses] in
theorem buyQuoted (ha : quote.Accepted now n) (hbuy : quote.direction = .buy)
    (h : Launched e w) (hlive : Live e w) (habout : quote.context.About .buy w) :
    BuyQuoted e w n
      ∧ quote.netUserReceipt = (w.buyOutput n - w.feeOn (w.buyOutput n) : ℕ) := by
  obtain ⟨-, -, -, -, hreceipt⟩ := habout.buy h.deployed n
  have hbps : sdk.BPS_DENOMINATOR = (pool.BPS_DENOMINATOR : ℕ) := rfl
  have hmax := ha.max
  have hcap := ha.input_cap
  have hanswer := ha.receipt
  have hpos := ha.receipt_pos
  rw [hbuy, hreceipt] at hanswer
  rw [habout.maximumGrossSwap] at hmax
  rw [habout.inputReserve, if_neg (by decide), habout.maximumReserveBps, hbps] at hcap
  have hinput : n * pool.BPS_DENOMINATOR ≤ w.usd * FIXED_MAX_RESERVE_BPS := by
    exact_mod_cast hcap
  refine ⟨⟨hlive, ha.pos, by exact_mod_cast hmax, hinput, ?_, ?_⟩, hanswer⟩
  · exact reflection_settlement.swap_output_cap hlive.usd_pos hinput
  · omega

end sdk.SwapQuote.Accepted

/-- `a` may trade and has `n` units to trade with. -/
def sdk.SwapDirection.Able (w : World) (a : Address) (n : ℕ) : sdk.SwapDirection → Prop
  | .sell => is_excluded_store w.reflection (.primary .trfl a) = false ∧ n ≤ w.effective a
  | .buy => is_excluded_store w.reflection (.primary .trfl a) = false
      ∧ n ≤ w.balance (.primary .tusd a)

/-- A trade of `n` units by `a` has paid `out`. -/
def sdk.SwapDirection.Paid (w w' : World) (a : Address) (n out : ℕ) : sdk.SwapDirection → Prop
  | .sell => ∃ fee amm_fee, SellPaid w w' a n out fee amm_fee
  | .buy => ∃ fee amm_fee, BuyPaid w w' a n out fee amm_fee

/-- The tUSD of a trade of `n` units by `a` that pays `out` has room where it goes. -/
def sdk.SwapDirection.Room (fee_bps : ℕ) (w : World) (a : Address) (n out : ℕ) :
    sdk.SwapDirection → Prop
  | .sell => SellRoom fee_bps w a out
  | .buy => BuyRoom fee_bps w a n

/-- **An accepted quote is kept.** Its draft commits for every trader that is able
and pays what the quote says. -/
theorem sdk.SwapQuote.kept {quote : SwapQuote} {clock now : ℤ} {a : Address} (h : Launched e w)
    (hlive : Live e w) (hnow : currentTime clock = .ok now)
    (hassert : assertSwapQuote quote now = .ok ())
    (habout : quote.context.About quote.direction w)
    (hable : quote.direction.Able w a quote.grossAmount.toNat)
    (hdeadline : w.now_seconds ≤ quote.deadlineUnixSeconds) :
    ∃ draft call w', createSwapDraft (some quote) quote clock = .ok draft
      ∧ draft.call a = some call
      ∧ Tx.Performs (quote.direction.Room fee_bps w a quote.grossAmount.toNat
          quote.netUserReceipt.toNat) call.run w () w'
      ∧ quote.direction.Paid w w' a quote.grossAmount.toNat quote.netUserReceipt.toNat
      ∧ quote.minimumNetUserReceipt ≤ quote.netUserReceipt := by
  have ha := sdk.SwapQuote.accepted hassert
  have hmin := ha.minimum_le
  have hmin' : quote.minimumNetUserReceipt.toNat ≤ quote.netUserReceipt.toNat := by omega
  have hdeadline' : w.now_seconds ≤ quote.deadlineUnixSeconds.toNat := by omega
  obtain ⟨draft, hdraft, hcall⟩ := sdk.createSwapDraft_eq_ok hnow hassert
  cases hdirection : quote.direction with
  | sell =>
      rw [hdirection] at habout hable
      rw [sdk.SwapDirection.Able] at hable
      obtain ⟨hquoted, hreceipt⟩ := ha.sellQuoted hdirection h hlive habout
      have hout : quote.netUserReceipt.toNat = w.sellOutput quote.grossAmount.toNat := by omega
      have hview := (Tx.commits_quote_sell h).mpr ⟨hquoted, rfl, rfl⟩
      obtain ⟨w', hperforms, hpaid⟩ := (h.honest_sell fee_bps _).kept _ _ _ _ hview a
        quote.minimumNetUserReceipt.toNat _ hable (hout ▸ hmin') hdeadline'
      refine ⟨draft, quote.call a, w', hdraft, hcall a, ?_, ?_, hmin⟩
      · rw [SwapQuote.call, hdirection, hout]
        exact hperforms
      · rw [hout]
        exact ⟨_, _, hpaid⟩
  | buy =>
      rw [hdirection] at habout hable
      rw [sdk.SwapDirection.Able] at hable
      obtain ⟨hquoted, hreceipt⟩ := ha.buyQuoted hdirection h hlive habout
      have hout : quote.netUserReceipt.toNat = w.buyOutput quote.grossAmount.toNat
          - w.feeOn (w.buyOutput quote.grossAmount.toNat) := by
        omega
      have hview := (Tx.commits_quote_buy h).mpr ⟨hquoted, rfl, rfl⟩
      obtain ⟨w', hperforms, hpaid⟩ := (h.honest_buy fee_bps _).kept _ _ _ _ hview a
        quote.minimumNetUserReceipt.toNat _ hable (hout ▸ hmin') hdeadline'
      refine ⟨draft, quote.call a, w', hdraft, hcall a, ?_, ?_, hmin⟩
      · rw [SwapQuote.call, hdirection, hout]
        exact hperforms
      · rw [hout]
        exact ⟨_, _, hpaid⟩

/-- **The swap path of the SDK is the chain's.** What the chain quotes, the
adapter and the client accept; and what the client accepts about the chain's
own state, at a time that its clock can read, it drafts, and the chain executes
the draft at the receipt of the quote. After a short run no width stops that, if
the tUSD of the trade has room where it goes. -/
theorem swap_path (h : Reachable .machine fee_bps w) (hlive : w.reflection.lifecycle = .LIVE) :
    (∀ (adapter : FinalizedCedraReadAdapter) (identity : ValidatedIdentity),
      adapter.Pins w identity → ∀ (input : SwapInput) (now : ℤ),
      0 < input.grossAmount → input.grossAmount ≤ sdk.U64_MAX →
      0 ≤ input.slippageBps → input.slippageBps ≤ 10_000 →
      input.deadlineUnixSeconds ≤ sdk.U64_MAX →
      identity.timestampUnixSeconds < input.deadlineUnixSeconds →
      now < input.deadlineUnixSeconds →
      (∃ q w', Tx.Commits (input.direction.quote input.grossAmount.toNat) .machine w q w') →
      ∃ quote, adapter.quoteSwap input = .ok quote ∧ sdk.assertSwapQuote quote now = .ok ()
        ∧ quote.direction = input.direction ∧ quote.grossAmount = input.grossAmount
        ∧ quote.context.About quote.direction w)
    ∧ (∀ (quote : sdk.SwapQuote) (clock now : ℤ), sdk.currentTime clock = .ok now →
      sdk.assertSwapQuote quote now = .ok () → quote.context.About quote.direction w →
      ∀ a, quote.direction.Able w a quote.grossAmount.toNat →
      w.now_seconds ≤ quote.deadlineUnixSeconds →
      ∃ draft call w', sdk.createSwapDraft (some quote) quote clock = .ok draft
        ∧ draft.call a = some call
        ∧ Tx.Performs (quote.direction.Room fee_bps w a quote.grossAmount.toNat
            quote.netUserReceipt.toNat) call.run w () w'
        ∧ quote.direction.Paid w w' a quote.grossAmount.toNat quote.netUserReceipt.toNat
        ∧ quote.minimumNetUserReceipt ≤ quote.netUserReceipt) := by
  obtain ⟨e, hl⟩ := h.launched (by rw [hlive]; simp)
  have hle := hl.live_iff.mpr hlive
  refine ⟨?_, ?_⟩
  · intro adapter identity hp input now hpos hmax hslippage hslippage' hdeadline htime hnow
      ⟨q, w', hc⟩
    have hn : input.grossAmount = input.grossAmount.toNat := by omega
    have hmax' : (input.grossAmount.toNat : ℤ) ≤ sdk.U64_MAX := by omega
    have hid := hp.identified
    have hdeadline₀ : 0 ≤ input.deadlineUnixSeconds := hid.timestamp_nonneg.trans htime.le
    refine ⟨_, hp.quoteSwap hl hle h.usd_le hn hmax' hslippage hslippage' hdeadline htime hc, ?_,
      rfl, rfl, w.about_quoteContext identity input.direction⟩
    exact sdk.assertSwapQuote_expectedQuote hid hl hle h.usd_le hn hmax' hslippage hslippage'
      hdeadline₀ hdeadline hnow (Tx.quoted_of_view hl (w.about_quoteContext _ _) hc)
  · intro quote clock now hclock hassert habout a hable hdeadline
    exact sdk.SwapQuote.kept hl hle hclock hassert habout hable hdeadline

end Chain

open Sample in
/-- A sell of the sample, from the chain's quote to its execution. -/
theorem swap_path_traded : ∃ w quote draft call w', traded = some w
    ∧ (adapter w).quoteSwap ⟨.sell, 1_000_000, 100, 60⟩ = .ok quote
    ∧ sdk.assertSwapQuote quote 0 = .ok () ∧ sdk.createSwapDraft (some quote) quote 0 = .ok draft
    ∧ draft.call (.account 9) = some call ∧ Tx.Commits call.run .machine w () w'
    ∧ quote.direction.Paid w w' (.account 9) quote.grossAmount.toNat
      quote.netUserReceipt.toNat := by
  have hable : (traded.map fun w => decide (
      is_excluded_store w.reflection (.primary .trfl (.account 9)) = false
        ∧ 1_000_000 ≤ w.effective (.account 9) ∧ w.now_seconds ≤ 0
        ∧ w.custody.registered_wallet_count < 2 ^ 64 - 1
        ∧ w.balance (.primary .tusd (.account 9)) + w.usd < 2 ^ 64)) = some true := by
    decide +kernel
  have hview : (traded.map fun w =>
      (pool.quote_sell 1_000_000 .machine w).toOption.isSome) = some true := by
    decide +kernel
  obtain ⟨w, hw⟩ := exists_traded
  have hreachable := reachable_traded hw
  rw [hw, Option.map_some] at hable hview
  obtain ⟨heligible, hfunds, hnow, hcount, hheld⟩ := of_decide_eq_true (Option.some.inj hable)
  have hcard : (insert (.account 9) w.wallets).card < 2 ^ 64 :=
    hreachable.core.card_insert_lt hcount
  have hlive := live_traded hw
  obtain ⟨e, hl⟩ := hreachable.launched (by rw [hlive]; simp)
  have hp := pins_adapter hl (by omega)
  obtain ⟨hquotes, hkept⟩ := swap_path hreachable hlive
  have hquote : ∃ q w', Tx.Commits (pool.quote_sell 1_000_000) .machine w q w' := by
    cases hq : pool.quote_sell 1_000_000 .machine w with
    | error reason =>
        rw [hq] at hview
        cases hview
    | ok p => exact ⟨p.1, p.2, hq⟩
  obtain ⟨quote, hquote, hassert, hdirection, hgross, habout⟩ := hquotes (adapter w) (identity w) hp
    ⟨.sell, 1_000_000, 100, 60⟩ 0 (by decide) (by decide) (by decide) (by decide) (by decide)
    (by show (w.now_seconds : ℤ) < 60; omega) (by decide) hquote
  have hable : quote.direction.Able w (.account 9) quote.grossAmount.toNat := by
    rw [hdirection, hgross]
    exact ⟨heligible, hfunds⟩
  have hfuture := (sdk.SwapQuote.accepted hassert).future
  obtain ⟨draft, call, w', hdraft, hcall, hperforms, hpaid, -⟩ :=
    hkept quote 0 0 rfl hassert habout (.account 9) hable (by omega)
  -- What is paid comes out of the reserve, and so it has room.
  have hroom : quote.direction.Room 50 w (.account 9) quote.grossAmount.toNat
      quote.netUserReceipt.toNat := by
    rw [hdirection] at habout
    obtain ⟨hquoted, hreceipt⟩ := (sdk.SwapQuote.accepted hassert).sellQuoted hdirection hl
      (hl.live_iff.mpr hlive) habout
    have hcap := hquoted.output_cap
    unfold pool.BPS_DENOMINATOR FIXED_MAX_RESERVE_BPS at hcap
    rw [hdirection]
    exact ⟨shortRun_traded hw, hcard, by omega⟩
  exact ⟨w, quote, draft, call, w', hw, hquote, hassert, hdraft, hcall, hperforms.commits hroom,
    hpaid⟩

end CedraReflect
