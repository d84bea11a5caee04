/-
`safe-client.ts` of the SDK: the check of a swap quote, and its draft.

The client trusts no quote that it is handed. It reproduces every amount of it
from the reserves, rates and limits that the quote carries, and drafts a trade
only of a quote that it has itself issued and that still reads as it did then.
The draft passes the check of `cedra-draft-encoder.ts` before it is returned.
-/
import CedraReflect.DraftEncoder
import CedraReflect.MoveDomains
import CedraReflect.System

set_option autoImplicit false
set_option linter.constructorNameAsVariable false

namespace CedraReflect.sdk

open indexer (text throwIf utf16Length throwIf_eq_ok bind_eq_ok pure_eq_ok)

/-- The warning that every draft carries. -/
def TESTNET_NO_VALUE_WARNING : String :=
  "TESTNET ASSET — NO MONETARY VALUE — STATE AND ADDRESSES MAY CHANGE"

/-! ## The client's check -/

/-- The contract's own cap on the reflection fee. -/
def MAX_REFLECTION_FEE_BPS : ℤ := 500

/-- An amount that Move can represent. -/
def assertUnsigned (value maximum : ℤ) (label : String) : Except SdkError Unit :=
  throwIf (value < 0 ∨ maximum < value)
    (.RangeError (text (label ++ " must fit the on-chain unsigned integer type")))

/-- An amount that Move can represent and that is not nothing. -/
def assertPositive (value maximum : ℤ) (label : String) : Except SdkError Unit :=
  throwIf (value ≤ 0 ∨ maximum < value)
    (.RangeError (text (label ++ " must be positive and fit the on-chain unsigned integer type")))

/-- A deadline that has not passed on the client's clock. -/
def assertFutureDeadline (deadlineUnixSeconds nowUnixSeconds : ℤ) : Except SdkError Unit := do
  assertUnsigned deadlineUnixSeconds U64_MAX "deadline"
  throwIf (deadlineUnixSeconds ≤ nowUnixSeconds)
    (.RangeError (text "transaction deadline must be in the future"))

namespace SwapQuoteContext

variable (context : SwapQuoteContext) (direction : SwapDirection) (grossAmount : ℤ)

/-! The amounts of a quote, as its context has them. Where they are divided, none
is negative. -/

def expectedSellReflection : ℤ := grossAmount * context.reflectionFeeBps / BPS_DENOMINATOR

/-- A sell pays its fee before the pool sees it. -/
def expectedReserveInput : ℤ :=
  if direction = .sell then grossAmount - context.expectedSellReflection grossAmount
  else grossAmount

def invariantInput : ℤ :=
  context.expectedReserveInput direction grossAmount * (BPS_DENOMINATOR - context.ammFeeBps)
    / BPS_DENOMINATOR

def expectedAmmFee : ℤ :=
  context.expectedReserveInput direction grossAmount - context.invariantInput direction grossAmount

def expectedGrossOutput : ℤ :=
  context.outputReserve * context.invariantInput direction grossAmount
    / (context.inputReserve + context.invariantInput direction grossAmount)

/-- A buy pays its fee out of what the pool gives. -/
def expectedReflectionFee : ℤ :=
  if direction = .sell then context.expectedSellReflection grossAmount
  else context.expectedGrossOutput direction grossAmount * context.reflectionFeeBps
    / BPS_DENOMINATOR

def expectedReceipt : ℤ :=
  if direction = .buy then
    context.expectedGrossOutput direction grossAmount
      - context.expectedReflectionFee direction grossAmount
  else context.expectedGrossOutput direction grossAmount

def expectedMinimum (slippageBps : ℤ) : ℤ :=
  context.expectedReceipt direction grossAmount * (BPS_DENOMINATOR - slippageBps) / BPS_DENOMINATOR

def expectedImpact : ℤ :=
  context.invariantInput direction grossAmount * BPS_DENOMINATOR
    / (context.inputReserve + context.invariantInput direction grossAmount)

end SwapQuoteContext

/-- Validate and independently reproduce every executable quote amount. -/
def assertSwapQuote (candidate : SwapQuote) (nowUnixSeconds : ℤ) : Except SdkError Unit := do
  assertPositive candidate.grossAmount U64_MAX "quote gross amount"
  assertUnsigned candidate.slippageBps U64_MAX "quote slippage"
  assertUnsigned candidate.reflectionFee U64_MAX "quote reflection fee"
  assertUnsigned candidate.ammFee U64_MAX "quote AMM fee"
  assertPositive candidate.netReserveInput U64_MAX "quote net reserve input"
  assertPositive candidate.grossPoolOutput U64_MAX "quote gross pool output"
  assertPositive candidate.netUserReceipt U64_MAX "quote net user receipt"
  assertUnsigned candidate.minimumNetUserReceipt U64_MAX "quote minimum receipt"
  assertUnsigned candidate.priceImpactBps U64_MAX "quote price impact"
  assertUnsigned candidate.deadlineUnixSeconds U64_MAX "quote deadline"
  assertFutureDeadline candidate.deadlineUnixSeconds nowUnixSeconds
  throwIf (BPS_DENOMINATOR < candidate.slippageBps)
    (.RangeError (text "quote slippage cannot exceed 10,000 basis points"))
  let context := candidate.context
  throwIf (context.chainId ≠ CEDRA_TESTNET_CHAIN_ID)
    (.TypeError (text "swap quote provenance must be Cedra Testnet chain 2"))
  assertPositive context.ledgerVersion U64_MAX "quote ledger version"
  throwIf (context.deploymentId = "" ∨ 512 < utf16Length context.deploymentId
      ∨ isPackageVersion context.packageVersion = false)
    (.TypeError
      (text "swap quote provenance requires bounded deployment and package identities"))
  assertPositive context.inputReserve U64_MAX "quote input reserve"
  assertPositive context.outputReserve U64_MAX "quote output reserve"
  assertUnsigned context.reflectionFeeBps U64_MAX "quote reflection fee rate"
  assertUnsigned context.ammFeeBps U64_MAX "quote AMM fee rate"
  assertPositive context.maximumGrossSwap U64_MAX "quote maximum gross swap"
  assertPositive context.maximumReserveBps U64_MAX "quote maximum reserve share"
  throwIf (MAX_REFLECTION_FEE_BPS < context.reflectionFeeBps ∨ 100 < context.ammFeeBps
      ∨ BPS_DENOMINATOR < context.maximumReserveBps)
    (.RangeError (text "swap quote fee or reserve-limit provenance exceeds the contract policy"))
  throwIf (context.maximumGrossSwap < candidate.grossAmount
      ∨ context.inputReserve * context.maximumReserveBps < candidate.grossAmount * BPS_DENOMINATOR)
    (.RangeError (text "swap quote exceeds the pinned gross or reserve-share limit"))
  let direction := candidate.direction
  let gross := candidate.grossAmount
  throwIf (context.expectedReserveInput direction gross ≤ 0
      ∨ context.expectedReceipt direction gross ≤ 0
      ∨ candidate.netReserveInput ≠ context.expectedReserveInput direction gross
      ∨ candidate.ammFee ≠ context.expectedAmmFee direction gross
      ∨ candidate.grossPoolOutput ≠ context.expectedGrossOutput direction gross
      ∨ candidate.reflectionFee ≠ context.expectedReflectionFee direction gross
      ∨ candidate.netUserReceipt ≠ context.expectedReceipt direction gross
      ∨ candidate.minimumNetUserReceipt
        ≠ context.expectedMinimum direction gross candidate.slippageBps
      ∨ candidate.priceImpactBps ≠ context.expectedImpact direction gross)
    (.RangeError (text
      "swap quote disagrees with pinned fee, constant-product, slippage, or rounding arithmetic"))

/-! ## The draft -/

/-- The reading of the client's clock. -/
def currentTime (nowUnixSeconds : ℤ) : Except SdkError ℤ := do
  assertUnsigned nowUnixSeconds U64_MAX "current Unix time"
  pure nowUnixSeconds

/-- A quarter of an hour from now, for a draft that names no expiration. -/
def defaultExpiration (nowUnixSeconds : ℤ) : Except SdkError ℤ := do
  let now ← currentTime nowUnixSeconds
  let lifetime : ℤ := 15 * 60
  throwIf (U64_MAX - lifetime < now)
    (.RangeError (text "default transaction expiration exceeds the Move u64 timestamp domain"))
  pure (now + lifetime)

/-- A draft that has passed the check of the encoder. -/
def createDraft (nowUnixSeconds : ℤ) (kind : TransactionKind) (functionId : String)
    (args : List EntryArgument) (expirationUnixSeconds : Option ℤ)
    (secondarySignerAddresses : List EntryArgument) : Except SdkError TransactionDraft := do
  let expiration ← match expirationUnixSeconds with
    | some expiration => pure expiration
    | none => defaultExpiration nowUnixSeconds
  assertUnsigned expiration U64_MAX "transaction expiration"
  throwIf (expiration ≤ 0) (.RangeError (text "transaction expiration must be positive"))
  let draft : TransactionDraft :=
    { kind, functionId, arguments := args, secondarySignerAddresses,
      expirationUnixSeconds := expiration, warning := TESTNET_NO_VALUE_WARNING }
  assertCedraTransactionDraft draft
  pure draft

/-- The draft of a quote. `issued` is what the client has on record for the quote
object, the fingerprint of the quote it issued as that object; a fingerprint
names every field, so that the record is the quote itself. -/
def createSwapDraft (issued : Option SwapQuote) (quote : SwapQuote) (nowUnixSeconds : ℤ) :
    Except SdkError TransactionDraft := do
  throwIf (issued = none) (.UnverifiedSwapQuoteError (text
    "Swap draft refused: quote was not issued by this client from a finalized read"))
  let now ← currentTime nowUnixSeconds
  assertSwapQuote quote now
  throwIf (some quote ≠ issued) (.UnverifiedSwapQuoteError (text
    "Swap draft refused: issued quote was mutated after verification"))
  createDraft nowUnixSeconds .swap
    (if quote.direction = .buy then "test_amm::pool::buy_trfl" else "test_amm::pool::sell_trfl")
    [.bigint quote.grossAmount, .bigint quote.minimumNetUserReceipt,
      .bigint quote.deadlineUnixSeconds]
    (some quote.deadlineUnixSeconds) []

/-- The call that a draft of a trade becomes, signed by `signer`. -/
def TransactionDraft.call (draft : TransactionDraft) (signer : Address) : Option Call :=
  match draft.functionId, draft.arguments with
  | "test_amm::pool::buy_trfl", [.bigint gross, .bigint minimum, .bigint deadline] =>
      some (.buy_trfl signer gross.toNat minimum.toNat deadline.toNat)
  | "test_amm::pool::sell_trfl", [.bigint gross, .bigint minimum, .bigint deadline] =>
      some (.sell_trfl signer gross.toNat minimum.toNat deadline.toNat)
  | _, _ => none

/-- The trade that `a` makes of a quote. -/
def SwapQuote.call (quote : SwapQuote) (a : Address) : Call :=
  match quote.direction with
  | .sell => .sell_trfl a quote.grossAmount.toNat quote.minimumNetUserReceipt.toNat
      quote.deadlineUnixSeconds.toNat
  | .buy => .buy_trfl a quote.grossAmount.toNat quote.minimumNetUserReceipt.toNat
      quote.deadlineUnixSeconds.toNat

/-- The ranges that the check of a quote leaves to its draft. -/
theorem assertSwapQuote_ranges {quote : SwapQuote} {now : ℤ}
    (h : assertSwapQuote quote now = .ok ()) :
    (0 < quote.grossAmount ∧ quote.grossAmount ≤ U64_MAX)
      ∧ (0 ≤ quote.minimumNetUserReceipt ∧ quote.minimumNetUserReceipt ≤ U64_MAX)
      ∧ now < quote.deadlineUnixSeconds ∧ quote.deadlineUnixSeconds ≤ U64_MAX := by
  simp only [assertSwapQuote, bind_eq_ok, exists_const, assertPositive, assertUnsigned,
    assertFutureDeadline, throwIf_eq_ok, not_or, not_lt, not_le, ne_eq, not_not] at h
  obtain ⟨hgross, -, -, -, -, -, -, hminimum, -, -, ⟨hdeadline, hfuture⟩, -⟩ := h
  exact ⟨hgross, hminimum, hfuture, hdeadline.2⟩

/-- **The draft of an accepted quote is its trade**, for every signer, if the
client has issued the quote and its clock can be read. -/
theorem createSwapDraft_eq_ok {quote : SwapQuote} {clock now : ℤ}
    (hnow : currentTime clock = .ok now) (h : assertSwapQuote quote now = .ok ()) :
    ∃ draft, createSwapDraft (some quote) quote clock = .ok draft
      ∧ ∀ a, draft.call a = some (quote.call a) := by
  obtain ⟨⟨hgross, hgross'⟩, ⟨hminimum, hminimum'⟩, hfuture, hdeadline'⟩ :=
    assertSwapQuote_ranges h
  have hclock : 0 ≤ now := by
    simp only [currentTime, assertUnsigned, bind_eq_ok, throwIf_eq_ok, exists_const,
      pure_eq_ok] at hnow
    omega
  have hdeadline : 0 < quote.deadlineUnixSeconds := by omega
  obtain ⟨functionId, hfunctionId⟩ : ∃ functionId, functionId = (if quote.direction = .buy
      then "test_amm::pool::buy_trfl" else "test_amm::pool::sell_trfl") := ⟨_, rfl⟩
  have hfunction : functionId = "test_amm::pool::buy_trfl"
      ∨ functionId = "test_amm::pool::sell_trfl" := by
    rw [hfunctionId]
    split
    · exact .inl rfl
    · exact .inr rfl
  -- The draft passes its own check.
  obtain ⟨draft, hdraft⟩ : ∃ draft : TransactionDraft, draft =
      { kind := .swap, functionId
        arguments := [.bigint quote.grossAmount, .bigint quote.minimumNetUserReceipt,
          .bigint quote.deadlineUnixSeconds]
        secondarySignerAddresses := []
        expirationUnixSeconds := quote.deadlineUnixSeconds
        warning := TESTNET_NO_VALUE_WARNING } := ⟨_, rfl⟩
  have hwarning : TESTNET_NO_VALUE_WARNING.length ≠ 0 := by decide
  have hpasses : assertCedraTransactionDraft draft = .ok () := by
    rw [hdraft]
    exact assertCedraTransactionDraft_swap rfl hfunction rfl rfl rfl hwarning hgross hgross'
      hminimum hminimum' hdeadline hdeadline'
  refine ⟨draft, ?_, fun a => ?_⟩
  · simp only [createSwapDraft, createDraft, assertUnsigned, bind_eq_ok, throwIf_eq_ok,
      exists_const, pure_eq_ok, exists_eq_left, hnow, Except.ok.injEq, exists_eq_left', h,
      ← hfunctionId, ← hdraft, hpasses]
    exact ⟨nofun, trivial, not_not_intro rfl, by omega, by omega, trivial, trivial⟩
  · rw [hdraft, SwapQuote.call]
    cases hdirection : quote.direction with
    | sell =>
        rw [hdirection] at hfunctionId
        subst hfunctionId
        rfl
    | buy =>
        rw [hdirection] at hfunctionId
        subst hfunctionId
        rfl

end CedraReflect.sdk
