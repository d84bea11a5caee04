/-
`move-domains.ts` and `accounting.ts` of the indexer: Move's integer widths over
unbounded integers, and the accounting read off a projection.

A JavaScript `bigint` has no width, so the indexer checks the widths itself and
throws where Move would abort. A function that throws is an `Except` with the
message it throws, and the lemmas here say when it does not: an assertion passes
when the value fits, a checked operation returns the integer operation's result
when both operands and the result fit.
-/
import CedraReflect.ProtocolEvents
import CedraReflect.ReflectionMath
import CedraReflect.Throwing

set_option autoImplicit false
set_option linter.constructorNameAsVariable false

namespace CedraReflect.indexer

/-! ## Widths -/

def isMoveUnsigned (value : ℤ) (bits : ℕ) : Prop := 0 ≤ value ∧ value ≤ 2 ^ bits - 1

instance (value : ℤ) (bits : ℕ) : Decidable (isMoveUnsigned value bits) :=
  inferInstanceAs (Decidable (_ ∧ _))

def isMoveSignedU256 (value : ℤ) : Prop := -(2 ^ 256 - 1) ≤ value ∧ value ≤ 2 ^ 256 - 1

instance (value : ℤ) : Decidable (isMoveSignedU256 value) :=
  inferInstanceAs (Decidable (_ ∧ _))

theorem isMoveUnsigned_iff {value : ℤ} {bits : ℕ} :
    isMoveUnsigned value bits ↔ 0 ≤ value ∧ value < 2 ^ bits := by
  unfold isMoveUnsigned
  exact and_congr_right fun _ => by omega

/-- A natural number fits if Move's check of it passes. -/
theorem isMoveUnsigned_natCast {n bits : ℕ} : isMoveUnsigned n bits ↔ n < 2 ^ bits := by
  rw [isMoveUnsigned_iff]
  constructor
  · rintro ⟨-, h⟩
    exact_mod_cast h
  · intro h
    exact ⟨Int.natCast_nonneg n, by exact_mod_cast h⟩

theorem isMoveSignedU256_iff {value : ℤ} :
    isMoveSignedU256 value ↔ -2 ^ 256 < value ∧ value < 2 ^ 256 := by
  unfold isMoveSignedU256
  constructor <;> rintro ⟨h₁, h₂⟩ <;> constructor <;> omega

theorem isMoveUnsigned.signed {value : ℤ} (h : isMoveUnsigned value 256) :
    isMoveSignedU256 value := by
  unfold isMoveUnsigned at h
  unfold isMoveSignedU256
  omega

def assertMoveUnsigned (value : ℤ) (bits : ℕ) (label : Text) : Except Text Unit :=
  throwIf (¬ isMoveUnsigned value bits) (label ++ text " must fit Move u" ++ shown bits)

def assertMoveSignedU256 (value : ℤ) (label : Text) : Except Text Unit :=
  throwIf (¬ isMoveSignedU256 value) (label ++ text " must fit Move SignedU256 magnitude")

@[simp] theorem assertMoveUnsigned_eq_ok {value : ℤ} {bits : ℕ} {label : Text} {u : Unit} :
    assertMoveUnsigned value bits label = .ok u ↔ isMoveUnsigned value bits := by
  rw [assertMoveUnsigned, throwIf_eq_ok, not_not]

@[simp] theorem assertMoveSignedU256_eq_ok {value : ℤ} {label : Text} {u : Unit} :
    assertMoveSignedU256 value label = .ok u ↔ isMoveSignedU256 value := by
  rw [assertMoveSignedU256, throwIf_eq_ok, not_not]

/-! ## Checked arithmetic -/

/-- Checked arithmetic matching native Move u256 abort semantics. -/
def checkedMoveU256Add (left right : ℤ) (label : Text) : Except Text ℤ := do
  assertMoveUnsigned left 256 (label ++ text " left operand")
  assertMoveUnsigned right 256 (label ++ text " right operand")
  let result := left + right
  assertMoveUnsigned result 256 label
  pure result

def checkedMoveU256Subtract (left right : ℤ) (label : Text) : Except Text ℤ := do
  assertMoveUnsigned left 256 (label ++ text " left operand")
  assertMoveUnsigned right 256 (label ++ text " right operand")
  throwIf (left < right) (label ++ text " would underflow Move u256")
  pure (left - right)

def checkedMoveU256Multiply (left right : ℤ) (label : Text) : Except Text ℤ := do
  assertMoveUnsigned left 256 (label ++ text " left operand")
  assertMoveUnsigned right 256 (label ++ text " right operand")
  let result := left * right
  assertMoveUnsigned result 256 label
  pure result

/-- Applies a signed correction to an unsigned base. -/
def applyMoveSignedU256 (base correction : ℤ) (label : Text) : Except Text ℤ := do
  assertMoveUnsigned base 256 (label ++ text " base")
  assertMoveSignedU256 correction (label ++ text " correction")
  if correction < 0 then checkedMoveU256Subtract base (-correction) label
  else checkedMoveU256Add base correction label

/-- Mirrors `reflection_math::add_unsigned`. -/
def checkedMoveSignedU256AddUnsigned (value amount : ℤ) (label : Text) : Except Text ℤ := do
  assertMoveSignedU256 value (label ++ text " value")
  assertMoveUnsigned amount 256 (label ++ text " amount")
  let result := value + amount
  assertMoveSignedU256 result label
  pure result

/-- Mirrors `reflection_math::subtract_unsigned`. -/
def checkedMoveSignedU256SubtractUnsigned (value amount : ℤ) (label : Text) :
    Except Text ℤ := do
  assertMoveSignedU256 value (label ++ text " value")
  assertMoveUnsigned amount 256 (label ++ text " amount")
  let result := value - amount
  assertMoveSignedU256 result label
  pure result

/-- Checked ordered accumulation. -/
def checkedMoveSignedU256Add (left right : ℤ) (label : Text) : Except Text ℤ := do
  assertMoveSignedU256 left (label ++ text " left operand")
  assertMoveSignedU256 right (label ++ text " right operand")
  let result := left + right
  assertMoveSignedU256 result label
  pure result

section

variable {left right base correction value amount z : ℤ} {label : Text}

theorem checkedMoveU256Add_eq_ok :
    checkedMoveU256Add left right label = .ok z ↔
      isMoveUnsigned left 256 ∧ isMoveUnsigned right 256 ∧ isMoveUnsigned (left + right) 256
        ∧ z = left + right := by
  simp only [checkedMoveU256Add, bind_eq_ok, pure_eq_ok, assertMoveUnsigned_eq_ok, exists_const]

theorem checkedMoveU256Multiply_eq_ok :
    checkedMoveU256Multiply left right label = .ok z ↔
      isMoveUnsigned left 256 ∧ isMoveUnsigned right 256 ∧ isMoveUnsigned (left * right) 256
        ∧ z = left * right := by
  simp only [checkedMoveU256Multiply, bind_eq_ok, pure_eq_ok, assertMoveUnsigned_eq_ok, exists_const]

theorem checkedMoveU256Subtract_eq_ok :
    checkedMoveU256Subtract left right label = .ok z ↔
      isMoveUnsigned left 256 ∧ isMoveUnsigned right 256 ∧ right ≤ left ∧ z = left - right := by
  simp only [checkedMoveU256Subtract, bind_eq_ok, pure_eq_ok, assertMoveUnsigned_eq_ok,
    throwIf_eq_ok, exists_const, Int.not_lt]

/-- **A correction applies if the sum is not negative and fits.** -/
theorem applyMoveSignedU256_eq_ok :
    applyMoveSignedU256 base correction label = .ok z ↔
      isMoveUnsigned base 256 ∧ isMoveSignedU256 correction
        ∧ isMoveUnsigned (base + correction) 256 ∧ z = base + correction := by
  unfold applyMoveSignedU256
  simp only [bind_eq_ok, assertMoveUnsigned_eq_ok, assertMoveSignedU256_eq_ok, exists_const]
  refine and_congr_right fun hb => and_congr_right fun hc => ?_
  unfold isMoveUnsigned isMoveSignedU256 at *
  by_cases hneg : correction < 0
  · rw [if_pos hneg, checkedMoveU256Subtract_eq_ok]
    unfold isMoveUnsigned
    constructor
    · rintro ⟨-, -, hle, rfl⟩
      omega
    · rintro ⟨⟨h₁, h₂⟩, rfl⟩
      omega
  · rw [if_neg hneg, checkedMoveU256Add_eq_ok]
    unfold isMoveUnsigned
    constructor
    · rintro ⟨-, -, h, rfl⟩
      exact ⟨h, rfl⟩
    · rintro ⟨h, rfl⟩
      omega

theorem checkedMoveSignedU256AddUnsigned_eq_ok :
    checkedMoveSignedU256AddUnsigned value amount label = .ok z ↔
      isMoveSignedU256 value ∧ isMoveUnsigned amount 256 ∧ isMoveSignedU256 (value + amount)
        ∧ z = value + amount := by
  simp only [checkedMoveSignedU256AddUnsigned, bind_eq_ok, pure_eq_ok, assertMoveUnsigned_eq_ok,
    assertMoveSignedU256_eq_ok, exists_const]

theorem checkedMoveSignedU256SubtractUnsigned_eq_ok :
    checkedMoveSignedU256SubtractUnsigned value amount label = .ok z ↔
      isMoveSignedU256 value ∧ isMoveUnsigned amount 256 ∧ isMoveSignedU256 (value - amount)
        ∧ z = value - amount := by
  simp only [checkedMoveSignedU256SubtractUnsigned, bind_eq_ok, pure_eq_ok, assertMoveUnsigned_eq_ok,
    assertMoveSignedU256_eq_ok, exists_const]

theorem checkedMoveSignedU256Add_eq_ok :
    checkedMoveSignedU256Add left right label = .ok z ↔
      isMoveSignedU256 left ∧ isMoveSignedU256 right ∧ isMoveSignedU256 (left + right)
        ∧ z = left + right := by
  simp only [checkedMoveSignedU256Add, bind_eq_ok, pure_eq_ok, assertMoveSignedU256_eq_ok, exists_const]

end

/-! ## `accounting.ts` -/

def REFLECTION_MAGNITUDE : ℤ := 1_000_000_000_000_000_000_000_000

theorem REFLECTION_MAGNITUDE_eq : REFLECTION_MAGNITUDE = (reflection_math.MAGNITUDE : ℕ) := by
  unfold REFLECTION_MAGNITUDE reflection_math.MAGNITUDE
  rfl

def requireNonNegative (value : ℤ) (label : Text) : Except Text ℤ := do
  throwIf (value < 0) (label ++ text " cannot be negative")
  pure value

/-- `/` of two `bigint`s, truncated, is defined for a nonzero divisor. Here the
divisor is a positive constant. -/
def magnifiedEntitlement (shares index signedCorrection : ℤ) : Except Text ℤ := do
  let _ ← requireNonNegative shares (text "shares")
  let _ ← requireNonNegative index (text "index")
  let base ← checkedMoveU256Multiply shares index (text "magnified entitlement base")
  let magnified ← applyMoveSignedU256 base signedCorrection
    (text "corrected magnified entitlement")
  pure (magnified.tdiv REFLECTION_MAGNITUDE)

def walletPending (position : IndexedPosition) (index : ℤ) : Except Text ℤ := do
  let gross ← magnifiedEntitlement position.rawTrfl index position.correction
  checkedMoveU256Subtract gross position.claimed (text "wallet pending reward")

def custodyPending (projection : ProtocolProjection) : Except Text ℤ := do
  let gross ← magnifiedEntitlement projection.custody.shares projection.currentIndex
    projection.custody.correction
  checkedMoveU256Subtract gross projection.custody.claimed (text "custody pending reward")

def coreIndexedLiability (projection : ProtocolProjection) : Except Text ℤ := do
  let gross ← magnifiedEntitlement projection.eligibleSupply projection.currentIndex
    projection.aggregateCorrection
  let unsettled ← checkedMoveU256Subtract gross projection.lifetimeMaterialized
    (text "core indexed liability materialized settlement")
  checkedMoveU256Subtract unsettled projection.lifetimeCustodyRouted
    (text "core indexed liability custody settlement")

def expectedCoreVaultBalance (projection : ProtocolProjection) : Except Text ℤ := do
  let unmaterialized ← checkedMoveU256Subtract projection.lifetimeSwapFees
    projection.lifetimeMaterialized (text "expected core vault materialized settlement")
  checkedMoveU256Subtract unmaterialized projection.lifetimeCustodyRouted
    (text "expected core vault custody settlement")

def lpPositionPending (position : IndexedLpPosition) (epoch : IndexedLpEpoch) :
    Except Text ℤ := do
  let gross ← magnifiedEntitlement position.shares epoch.index position.correction
  checkedMoveU256Subtract gross position.claimed (text "LP position pending reward")

def lpIndexedLiability (epoch : IndexedLpEpoch) : Except Text ℤ := do
  let gross ← magnifiedEntitlement epoch.totalShares epoch.index epoch.aggregateCorrection
  checkedMoveU256Subtract gross epoch.lifetimeClaimed (text "LP indexed liability")

def expectedLpVaultBalance (epoch : IndexedLpEpoch) : Except Text ℤ :=
  checkedMoveU256Subtract epoch.lifetimeReceived epoch.lifetimeClaimed
    [.lit "expected LP vault balance for epoch ", .int epoch.epoch]

def sumWalletShares (positions : OrderedMap Address IndexedPosition) : ℤ :=
  (positions.values.map fun position => position.rawTrfl).sum

def sumLpShares (positions : OrderedMap Address IndexedLpPosition) : ℤ :=
  (positions.values.map fun position => position.shares).sum

/-- **An entitlement is the floor of the accumulator**, when the accumulator
`shares * index + correction` is a u256 and so are its two parts. -/
theorem magnifiedEntitlement_eq_ok {shares index correction z : ℤ} :
    magnifiedEntitlement shares index correction = .ok z ↔
      (0 ≤ shares ∧ 0 ≤ index) ∧ (isMoveUnsigned shares 256 ∧ isMoveUnsigned index 256)
        ∧ isMoveUnsigned (shares * index) 256 ∧ isMoveSignedU256 correction
        ∧ isMoveUnsigned (shares * index + correction) 256
        ∧ z = (shares * index + correction) / REFLECTION_MAGNITUDE := by
  unfold magnifiedEntitlement
  have hreq : ∀ (v : ℤ) l r, requireNonNegative v l = .ok r ↔ 0 ≤ v ∧ r = v := by
    intro v l r
    simp only [requireNonNegative, bind_eq_ok, throwIf_eq_ok, pure_eq_ok, exists_const,
      Int.not_lt]
  simp only [bind_eq_ok, hreq, checkedMoveU256Multiply_eq_ok, applyMoveSignedU256_eq_ok,
    pure_eq_ok, and_assoc, exists_and_left, exists_eq_left]
  refine and_congr_right fun hs => and_congr_right fun hi => and_congr_right fun _ =>
    and_congr_right fun _ => and_congr_right fun _ => ?_
  constructor
  · rintro ⟨-, hc, hm, rfl⟩
    exact ⟨hc, hm, Int.tdiv_eq_ediv_of_nonneg hm.1⟩
  · rintro ⟨hc, hm, rfl⟩
    exact ⟨by assumption, hc, hm, (Int.tdiv_eq_ediv_of_nonneg hm.1).symm⟩

/-! ## Runtime domains

Every assertion below is a list of quantities checked in order. -/

inductive Domain where
  | unsigned (bits : ℕ)
  | signed
deriving DecidableEq

/-- A number, the domain it has to fit and the label it is reported under. -/
structure Quantity where
  value : ℤ
  domain : Domain
  label : Text

def Quantity.assert (q : Quantity) : Except Text Unit :=
  match q.domain with
  | .unsigned bits => assertMoveUnsigned q.value bits q.label
  | .signed => assertMoveSignedU256 q.value q.label

def Quantity.Fits (q : Quantity) : Prop :=
  match q.domain with
  | .unsigned bits => isMoveUnsigned q.value bits
  | .signed => isMoveSignedU256 q.value

theorem Quantity.assert_eq_ok {q : Quantity} : q.assert = .ok () ↔ q.Fits := by
  obtain ⟨value, domain, label⟩ := q
  cases domain
  · exact assertMoveUnsigned_eq_ok
  · exact assertMoveSignedU256_eq_ok

/-- A quantity under a label without holes. -/
def unsigned (value : ℤ) (bits : ℕ) (label : String) : Quantity :=
  ⟨value, .unsigned bits, text label⟩

def signed (value : ℤ) (label : String) : Quantity := ⟨value, .signed, text label⟩

/-- `String.prototype.length`: UTF-16 code units. -/
def utf16Length (s : String) : ℕ :=
  (s.toList.map fun c => if c.toNat < 0x10000 then 1 else 2).sum

/-- `Number.MAX_SAFE_INTEGER`. -/
def MAX_SAFE_INTEGER : ℤ := 2 ^ 53 - 1

def assertBase (event : EventBase) : Except Text Unit := do
  throwIf (utf16Length event.id = 0 ∨ 512 < utf16Length event.id)
    (text "event id must contain 1 to 512 characters")
  throwIf (utf16Length event.txHash = 0 ∨ 512 < utf16Length event.txHash)
    (text "event transaction hash must contain 1 to 512 characters")
  assertMoveUnsigned event.ledgerVersion 64 (text "event ledger version")
  throwIf (event.eventIndex < 0 ∨ MAX_SAFE_INTEGER < event.eventIndex)
    (text "event index must be a non-negative safe Move u64 ordinal")
  assertMoveUnsigned event.timestampUnixMilliseconds 64 (text "event timestamp milliseconds")

/-- The numbers of an event, in the order in which they are asserted. -/
def EventBody.quantities (body : EventBody) : List Quantity :=
  match body with
  | .ProtocolInitialized e =>
      [unsigned e.feeBps 64 "initial fee bps",
        unsigned e.initialIndex 256 "initial reflection index",
        unsigned e.protocolExclusionSlots 64 "protocol exclusion slots"]
  | .TokenCreated e =>
      [unsigned e.reflectionFeeBps 64 "immutable reflection fee bps",
        unsigned e.totalSupply 64 "fixed token supply", unsigned e.decimals 8 "token decimals"]
  | .LaunchSealed e =>
      [unsigned e.reflectionFeeBps 64 "launch reflection fee bps",
        unsigned e.ammFeeBps 64 "launch AMM fee bps",
        unsigned e.maximumReserveBps 64 "launch maximum reserve bps",
        unsigned e.maximumGrossSwap 64 "launch maximum gross swap",
        unsigned e.maximumRflContribution 64 "launch maximum tRFL liquidity",
        unsigned e.maximumTusdContribution 64 "launch maximum tUSD liquidity",
        unsigned e.maximumNonFinalWithdrawalShareBps 64 "launch maximum withdrawal share bps",
        unsigned e.faucetTrflGrant 64 "launch faucet tRFL grant",
        unsigned e.faucetTusdGrant 64 "launch faucet tUSD grant",
        unsigned e.faucetCooldownSeconds 64 "launch faucet cooldown",
        unsigned e.seedRfl 64 "launch tRFL seed", unsigned e.seedUsd 64 "launch tUSD seed",
        unsigned e.initialLpShares 128 "launch initial LP shares"]
  | .PoolClosed e =>
      [unsigned e.epoch 64 "closed pool epoch", unsigned e.lpShares 128 "closed pool LP shares",
        unsigned e.rflOutput 64 "closed pool tRFL output",
        unsigned e.usdOutput 64 "closed pool tUSD output",
        unsigned e.rflReserveAfter 64 "closed pool tRFL reserve",
        unsigned e.usdReserveAfter 64 "closed pool tUSD reserve"]
  | .ProtocolPrimaryStoreExcluded _ _ remainingSlots =>
      [unsigned remainingSlots 64 "remaining exclusion slots"]
  | .OperationalPrimaryStoreExcluded .. | .PositionCreated _ => []
  | .WalletRegistered e => [unsigned e.registeredWalletCount 64 "registered wallet count"]
  | .FaucetGrant _ _ amount => [unsigned amount 64 "faucet grant amount"]
  | .FaucetConfigured trflGrant tusdGrant cooldownSeconds =>
      [unsigned trflGrant 64 "faucet tRFL grant", unsigned tusdGrant 64 "faucet tUSD grant",
        unsigned cooldownSeconds 64 "faucet cooldown"]
  | .PoolReserveBound .. => []
  | .WalletTransfer _ _ _ amount | .EligibleBalanceDebited _ amount
  | .EligibleBalanceCredited _ amount =>
      [⟨amount, .unsigned 64, [.lit body.type, .lit " amount"]⟩]
  | .SwapExecuted e =>
      [unsigned e.grossAmount 64 "swap gross amount",
        unsigned e.reflectionFee 64 "swap reflection fee", unsigned e.ammFee 64 "swap AMM fee",
        unsigned e.netReserveInput 64 "swap net reserve input",
        unsigned e.grossPoolOutput 64 "swap gross pool output",
        unsigned e.netUserReceipt 64 "swap net receipt",
        unsigned e.trflReserveAfter 64 "swap tRFL reserve",
        unsigned e.tusdReserveAfter 64 "swap tUSD reserve"]
  | .ReflectionFeeCollected e =>
      [unsigned e.grossAmount 64 "reflection gross amount",
        unsigned e.feeAmount 64 "reflection fee amount",
        unsigned e.feeBps 64 "reflection fee bps"]
  | .ReflectionIndexAdvanced e =>
      [unsigned e.previousIndex 256 "previous reflection index",
        unsigned e.newIndex 256 "new reflection index",
        unsigned e.indexRemainder 256 "reflection index remainder",
        unsigned e.feeAmount 64 "indexed fee amount",
        unsigned e.eligibleSupply 128 "indexed eligible supply"]
  | .RewardsMaterialized e =>
      (match e.trigger with
        | some trigger => [unsigned trigger 8 "materialization trigger"]
        | none => [])
      ++ [⟨e.amount, .unsigned 64, [.lit body.type, .lit " amount"]⟩,
        ⟨e.totalClaimed, .unsigned 256, [.lit body.type, .lit " total claimed"]⟩]
  | .RewardsClaimed e =>
      [⟨e.amount, .unsigned 64, [.lit body.type, .lit " amount"]⟩,
        ⟨e.totalClaimed, .unsigned 256, [.lit body.type, .lit " total claimed"]⟩]
  | .CustodyAdapterRegistered e =>
      [unsigned e.adapterId 64 "custody adapter id",
        unsigned e.firstEpoch 64 "first custody epoch"]
  | .CustodyEpochRouteOpened e =>
      [unsigned e.adapterId 64 "custody route adapter id",
        unsigned e.epoch 64 "custody route epoch",
        unsigned e.retiredResidueMagnified 256 "custody retired residue"]
  | .CustodySharesChanged e =>
      [unsigned e.amount 64 "custody share amount",
        unsigned e.custodyShares 128 "custody shares",
        unsigned e.globalShares 128 "global shares"]
  | .CustodyRewardsRouted e =>
      [unsigned e.epoch 64 "custody reward epoch", unsigned e.amount 64 "custody reward amount",
        unsigned e.totalRouted 256 "custody total routed"]
  | .FeeConfigurationChanged oldFeeBps newFeeBps =>
      [unsigned oldFeeBps 64 "old fee bps", unsigned newFeeBps 64 "new fee bps"]
  | .SwapLimitsChanged ammFeeBps maximumGrossSwap maximumReserveBps =>
      [unsigned ammFeeBps 64 "AMM fee bps", unsigned maximumGrossSwap 64 "maximum gross swap",
        unsigned maximumReserveBps 64 "maximum reserve bps"]
  | .LiquidityLimitsChanged maximumRflContribution maximumTusdContribution
      maximumNonFinalWithdrawalShareBps =>
      [unsigned maximumRflContribution 64 "maximum tRFL contribution",
        unsigned maximumTusdContribution 64 "maximum tUSD contribution",
        unsigned maximumNonFinalWithdrawalShareBps 64 "maximum withdrawal share bps"]
  | .PauseStateChanged .. | .FaucetPauseChanged _ | .PoolPauseChanged ..
  | .OperationalAdminChanged .. => []
  | .LiquiditySeeded e | .LiquidityAdded e | .LiquidityRemoved e _ =>
      [⟨e.epoch, .unsigned 64, [.lit body.type, .lit " epoch"]⟩,
        ⟨e.trflAmount, .unsigned 64, [.lit body.type, .lit " tRFL amount"]⟩,
        ⟨e.tusdAmount, .unsigned 64, [.lit body.type, .lit " tUSD amount"]⟩,
        ⟨e.lpShares, .unsigned 128, [.lit body.type, .lit " LP shares"]⟩,
        ⟨e.trflReserveAfter, .unsigned 64, [.lit body.type, .lit " tRFL reserve"]⟩,
        ⟨e.tusdReserveAfter, .unsigned 64, [.lit body.type, .lit " tUSD reserve"]⟩]
  | .LpEpochOpened e => [⟨e.epoch, .unsigned 64, [.lit body.type, .lit " epoch"]⟩]
  | .LpEpochStatusChanged e => [⟨e.epoch, .unsigned 64, [.lit body.type, .lit " epoch"]⟩]
  | .LpSharesChanged e =>
      [unsigned e.epoch 64 "LP share epoch", unsigned e.amount 128 "LP share amount",
        unsigned e.ownerShares 128 "LP owner shares",
        unsigned e.totalShares 128 "LP total shares"]
  | .LpSharesTransferred e =>
      [unsigned e.epoch 64 "LP transfer epoch", unsigned e.amount 128 "LP transfer amount"]
  | .LpRewardIndexAdvanced e =>
      [unsigned e.epoch 64 "LP reward epoch", unsigned e.previousIndex 256 "previous LP index",
        unsigned e.newIndex 256 "new LP index",
        unsigned e.indexRemainder 256 "LP index remainder",
        unsigned e.received 64 "LP reward received",
        unsigned e.totalShares 128 "LP reward total shares",
        unsigned e.roundingReserve 128 "LP rounding reserve"]
  | .LpRewardsClaimed e =>
      [unsigned e.epoch 64 "LP claim epoch", unsigned e.amount 64 "LP claim amount",
        unsigned e.totalClaimed 256 "LP claim total"]
  | .LpRewardQuarantined e =>
      [unsigned e.epoch 64 "LP quarantine epoch", unsigned e.amount 64 "LP quarantine amount",
        unsigned e.unallocatedRewards 128 "LP unallocated rewards"]
  | .LpFractionalResidueRetired e =>
      [unsigned e.epoch 64 "LP residue epoch",
        unsigned e.residueMagnified 256 "LP residue magnified",
        unsigned e.cumulativeRetiredResidueMagnified 256 "LP cumulative residue magnified",
        unsigned e.roundingReserveBaseUnits 128 "LP residue rounding base units"]
  | .LpEpochTerminalDustClassified e =>
      [unsigned e.epoch 64 "LP terminal epoch",
        unsigned e.terminalRoundingBaseUnits 128 "LP terminal rounding base units",
        unsigned e.retiredResidueMagnified 256 "LP terminal residue magnified",
        unsigned e.lifetimeReceivedBaseUnits 256 "LP lifetime received",
        unsigned e.lifetimeClaimedBaseUnits 256 "LP lifetime claimed"]
  | .Unknown _ => []

/-- Runtime trust-boundary validation for every numeric field of an event. -/
def assertProtocolEventMoveDomains (event : ProtocolEvent) : Except Text Unit := do
  assertBase event.toEventBase
  match event.body with
  | .Unknown type => .error [.lit "unknown protocol event ", .lit type]
  | body => forAll body.quantities Quantity.assert

/-- The numbers of a wallet's position. -/
def IndexedPosition.quantities (account : Address) (position : IndexedPosition) :
    List Quantity :=
  let label (field : String) : Text := [.lit "wallet ", .address account, .lit field]
  [⟨position.rawTrfl, .unsigned 64, label " raw tRFL"⟩,
    ⟨position.rawTusd, .unsigned 64, label " raw tUSD"⟩,
    ⟨position.correction, .signed, label " correction"⟩,
    ⟨position.claimed, .unsigned 256, label " claimed"⟩,
    ⟨position.lifetimeClaimed, .unsigned 256, label " lifetime claimed"⟩,
    ⟨position.lifetimeMaterialized, .unsigned 256, label " lifetime materialized"⟩]

/-- The numbers of an owner's position in an epoch. -/
def IndexedLpPosition.quantities (owner : Address) (position : IndexedLpPosition) :
    List Quantity :=
  let label (field : String) : Text := [.lit "LP owner ", .address owner, .lit field]
  [⟨position.shares, .unsigned 128, label " shares"⟩,
    ⟨position.correction, .signed, label " correction"⟩,
    ⟨position.claimed, .unsigned 256, label " claimed"⟩]

/-- The numbers of an epoch and of its positions. -/
def IndexedLpEpoch.quantities (key : ℤ) (epoch : IndexedLpEpoch) : List Quantity :=
  let label (field : String) : Text := [.lit "LP epoch ", .int key, .lit field]
  [unsigned key 64 "LP epoch map key", unsigned epoch.epoch 64 "LP epoch id",
    ⟨epoch.index, .unsigned 256, label " index"⟩,
    ⟨epoch.indexRemainder, .unsigned 256, label " index remainder"⟩,
    ⟨epoch.totalShares, .unsigned 128, label " total shares"⟩,
    ⟨epoch.aggregateCorrection, .signed, label " aggregate correction"⟩,
    ⟨epoch.unallocatedRewards, .unsigned 128, label " unallocated rewards"⟩,
    ⟨epoch.roundingReserve, .unsigned 128, label " rounding reserve"⟩,
    ⟨epoch.retiredResidueMagnified, .unsigned 256, label " retired residue"⟩]
  ++ (match epoch.terminalRoundingBaseUnits with
    | some terminal => [⟨terminal, .unsigned 128, label " terminal rounding"⟩]
    | none => [])
  ++ [⟨epoch.lifetimeReceived, .unsigned 256, label " lifetime received"⟩,
    ⟨epoch.lifetimeClaimed, .unsigned 256, label " lifetime claimed"⟩]
  ++ epoch.positions.entries.flatMap fun entry => entry.2.quantities entry.1

/-- The number of an optional field, when it is there. -/
def optional (value : Option ℤ) (bits : ℕ) (label : String) : List Quantity :=
  match value with
  | some value => [unsigned value bits label]
  | none => []

/-- The numbers of a projection, in the order in which they are asserted. -/
def ProtocolProjection.quantities (projection : ProtocolProjection) : List Quantity :=
  [unsigned projection.protocolExclusionSlots 64 "projection protocol exclusion slots",
    unsigned projection.protocolExclusionsRemaining 64 "projection exclusions remaining",
    unsigned projection.registeredWalletCount 64 "projection registered wallet count",
    unsigned projection.feeBps 64 "projection fee bps",
    unsigned projection.currentIndex 256 "projection reflection index",
    unsigned projection.indexRemainder 256 "projection reflection remainder",
    unsigned projection.eligibleSupply 128 "projection eligible supply",
    signed projection.aggregateCorrection "projection aggregate correction",
    unsigned projection.unallocatedFees 128 "projection unallocated fees",
    unsigned projection.roundingReserve 128 "projection core rounding reserve",
    unsigned projection.rewardVaultCredits 256 "projection reward vault credits",
    unsigned projection.rewardVaultPayouts 256 "projection reward vault payouts",
    unsigned projection.lifetimeSwapFees 256 "projection lifetime swap fees",
    unsigned projection.lifetimeMaterialized 256 "projection lifetime materialized",
    unsigned projection.lifetimeCustodyRouted 256 "projection lifetime custody routed",
    unsigned projection.faucetTrflGrant 64 "projection faucet tRFL grant",
    unsigned projection.faucetTusdGrant 64 "projection faucet tUSD grant",
    unsigned projection.faucetCooldownSeconds 64 "projection faucet cooldown",
    unsigned projection.pool.trflReserve 64 "projection tRFL reserve",
    unsigned projection.pool.tusdReserve 64 "projection tUSD reserve",
    unsigned projection.pool.ammFeeBps 64 "projection AMM fee bps",
    unsigned projection.pool.maximumGrossSwap 64 "projection maximum gross swap",
    unsigned projection.pool.maximumReserveBps 64 "projection maximum reserve bps",
    unsigned projection.pool.maximumRflContribution 64 "projection maximum tRFL contribution",
    unsigned projection.pool.maximumTusdContribution 64 "projection maximum tUSD contribution",
    unsigned projection.pool.maximumNonFinalWithdrawalShareBps 64
      "projection maximum withdrawal share bps"]
  ++ optional projection.custody.adapterId 64 "projection custody adapter id"
  ++ optional projection.custody.activeRouteEpoch 64 "projection custody route epoch"
  ++ [unsigned projection.custody.shares 128 "projection custody shares",
    signed projection.custody.correction "projection custody correction",
    unsigned projection.custody.claimed 256 "projection custody claimed",
    unsigned projection.custody.lifetimeRouted 256 "projection custody lifetime routed"]
  ++ optional projection.activeLpEpoch 64 "projection active LP epoch"
  ++ (projection.positions.entries.flatMap fun entry => entry.2.quantities entry.1)
  ++ (projection.lpEpochs.entries.flatMap fun entry => entry.2.quantities entry.1)
  ++ (projection.rewardVaultToEpoch.values.map
    fun epoch => unsigned epoch 64 "reward-vault epoch binding")
  ++ (projection.stateIdToEpoch.values.map
    fun epoch => unsigned epoch 64 "state-object epoch binding")

/-- The ordinals of a remembered cursor. -/
def assertCursor (cursor : EventCursor) : Except Text Unit := do
  assertMoveUnsigned cursor.ledgerVersion 64 (text "seen-event ledger version")
  assertMoveUnsigned cursor.eventIndex 64 (text "seen-event index")
  throwIf (MAX_SAFE_INTEGER < cursor.eventIndex)
    (text "seen-event index exceeds the safe ordinal representation")

/-- Exact Move-width validation for every numeric value retained in projection
state. -/
def assertProjectionMoveDomains (projection : ProtocolProjection) : Except Text Unit := do
  forAll projection.quantities Quantity.assert
  forAll projection.seenEventIds.values assertCursor

section

/-- What [`assertBase`] asserts. -/
structure EventBase.Admissible (event : EventBase) : Prop where
  id : 0 < utf16Length event.id ∧ utf16Length event.id ≤ 512
  txHash : 0 < utf16Length event.txHash ∧ utf16Length event.txHash ≤ 512
  ledgerVersion : isMoveUnsigned event.ledgerVersion 64
  eventIndex : 0 ≤ event.eventIndex ∧ event.eventIndex ≤ MAX_SAFE_INTEGER
  timestamp : isMoveUnsigned event.timestampUnixMilliseconds 64

theorem assertBase_eq_ok {event : EventBase} :
    assertBase event = .ok () ↔ event.Admissible := by
  unfold assertBase
  simp only [bind_eq_ok, throwIf_eq_ok, assertMoveUnsigned_eq_ok, exists_const]
  constructor
  · rintro ⟨h₁, h₂, h₃, h₄, h₅⟩
    exact ⟨by omega, by omega, h₃, by omega, h₅⟩
  · rintro ⟨h₁, h₂, h₃, h₄, h₅⟩
    exact ⟨by omega, by omega, h₃, by omega, h₅⟩

/-- **An event passes if its base is well formed, its type is known and its
numbers fit.** -/
theorem assertProtocolEventMoveDomains_eq_ok {event : ProtocolEvent} :
    assertProtocolEventMoveDomains event = .ok () ↔
      event.toEventBase.Admissible ∧ (∀ type, event.body ≠ .Unknown type)
        ∧ ∀ q ∈ event.body.quantities, q.Fits := by
  unfold assertProtocolEventMoveDomains
  rw [bind_unit_eq_ok, assertBase_eq_ok]
  refine and_congr_right fun _ => ?_
  cases h : event.body <;>
    simp [forAll_eq_ok, Quantity.assert_eq_ok]

def EventCursor.Admissible (cursor : EventCursor) : Prop :=
  isMoveUnsigned cursor.ledgerVersion 64
    ∧ 0 ≤ cursor.eventIndex ∧ cursor.eventIndex ≤ MAX_SAFE_INTEGER

theorem assertCursor_eq_ok {cursor : EventCursor} :
    assertCursor cursor = .ok () ↔ cursor.Admissible := by
  unfold assertCursor EventCursor.Admissible
  simp only [bind_eq_ok, assertMoveUnsigned_eq_ok, throwIf_eq_ok, exists_const]
  refine and_congr_right fun _ => ?_
  unfold isMoveUnsigned MAX_SAFE_INTEGER
  omega

theorem assertProjectionMoveDomains_eq_ok {projection : ProtocolProjection} :
    assertProjectionMoveDomains projection = .ok () ↔
      (∀ q ∈ projection.quantities, q.Fits)
        ∧ ∀ cursor ∈ projection.seenEventIds.values, cursor.Admissible := by
  unfold assertProjectionMoveDomains
  simp only [bind_unit_eq_ok, forAll_eq_ok, Quantity.assert_eq_ok, assertCursor_eq_ok]

end

end CedraReflect.indexer
