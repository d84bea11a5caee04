/-
`reducer.ts` of the indexer: what one event does to a projection.

The reducer keeps going. A check that fails files an alert and the replay of the
group goes on; an exception ends it, and the group then leaves the projection
alone. That is a computation of [`Audited`], over the context the source threads
through its loop. What a handler compares is written out with it, since the two
sides of a comparison are part of the alert.

`bigint` division truncates and throws on zero. A `Map` is copied before it is
written in the source, so that a write here is a new map.
-/
import CedraReflect.Audited
import CedraReflect.MoveDomains

set_option autoImplicit false
set_option linter.constructorNameAsVariable false

namespace CedraReflect.indexer

open Audited

/-! ## Arithmetic -/

def BPS_DENOMINATOR : ℤ := 10_000
def U64_MAX : ℤ := 2 ^ 64 - 1
def U128_MAX : ℤ := 2 ^ 128 - 1
def U256_MAX : ℤ := 2 ^ 256 - 1

/-- `numerator / denominator`. -/
def divide (numerator denominator : ℤ) : Except Text ℤ := do
  throwIf (denominator = 0) (text "Division by zero")
  pure (numerator.tdiv denominator)

/-- `numerator % denominator`. -/
def modulo (numerator denominator : ℤ) : Except Text ℤ := do
  throwIf (denominator = 0) (text "Division by zero")
  pure (numerator.tmod denominator)

def ceilDiv (numerator denominator : ℤ) : Except Text ℤ := do
  throwIf (denominator ≤ 0) (text "division denominator must be positive")
  if numerator = 0 then pure 0
  else do
    let quotient ← divide (numerator - 1) denominator
    pure (quotient + 1)

/-- `(current + value / current) / 2`. -/
def newtonStep (value current : ℤ) : Except Text ℤ := do
  let quotient ← divide value current
  divide (current + quotient) 2

/-- `while (next < current) { current = next; next = … }; return current`, on a
budget that the first value of `current` bounds. -/
def integerSqrtLoop (value : ℤ) : ℕ → ℤ → ℤ → Except Text ℤ
  | 0, current, _ => pure current
  | budget + 1, current, next =>
      if next < current then do
        let following ← newtonStep value next
        integerSqrtLoop value budget next following
      else pure current

def integerSqrt (value : ℤ) : Except Text ℤ := do
  throwIf (value < 0) (text "square-root input cannot be negative")
  if value < 2 then pure value
  else do
    let current ← divide value 2
    let current := current + 1
    let next ← newtonStep value current
    integerSqrtLoop value (current.toNat + 1) current next

def checkedVaultRemainder (vaultBalance liability unallocated : ℤ) (label : Text) :
    Except Text ℤ := do
  let indexed ← checkedMoveU256Subtract vaultBalance liability (label ++ text " indexed liability")
  checkedMoveU256Subtract indexed unallocated (label ++ text " unallocated amount")

/-! ## Projections and alerts -/

/-- `CEDRA_TESTNET_CHAIN_ID` of the SDK. -/
def CEDRA_TESTNET_CHAIN_ID : ℤ := 2

def createEmptyProjection : ProtocolProjection :=
  { chainId := CEDRA_TESTNET_CHAIN_ID
    deploymentId := "uninitialized"
    networkLabel := "uninitialized"
    tokenMetadata := none
    protocolExclusionSlots := 0
    protocolExclusionsRemaining := 0
    protocolExcludedStores := ∅
    registeredWallets := ∅
    registeredWalletCount := 0
    automaticMaterialization := false
    feeBps := 100
    currentIndex := 0
    indexRemainder := 0
    eligibleSupply := 0
    aggregateCorrection := 0
    unallocatedFees := 0
    roundingReserve := 0
    rewardVault := none
    distributionVault := none
    mockUsdPoolReserve := none
    rewardVaultCredits := 0
    rewardVaultPayouts := 0
    lifetimeSwapFees := 0
    lifetimeMaterialized := 0
    lifetimeCustodyRouted := 0
    packageVersion := "uninitialized"
    lifecycle := none
    swapsPaused := false
    claimsPaused := false
    faucetPaused := false
    faucetTrflGrant := 1_000_000_000
    faucetTusdGrant := 1_000_000_000
    faucetCooldownSeconds := 3_600
    operationalAdmins := ⟨none, none, none⟩
    deploymentReady := false
    pool :=
      { trflReserve := 0
        tusdReserve := 0
        ammFeeBps := 30
        maximumGrossSwap := 0
        maximumReserveBps := 0
        maximumRflContribution := 100_000_000_000
        maximumTusdContribution := 100_000_000_000
        maximumNonFinalWithdrawalShareBps := BPS_DENOMINATOR
        poolPaused := false
        liquidityPaused := false
        lpClaimsPaused := false
        shutdownMode := false
        seeded := false }
    custody :=
      { adapterId := none
        reserveStore := none
        activeRouteEpoch := none
        activeLpRewardVault := none
        shares := 0
        correction := 0
        claimed := 0
        lifetimeRouted := 0 }
    activeLpEpoch := none
    lpEpochs := ∅
    rewardVaultToEpoch := ∅
    stateIdToEpoch := ∅
    positions := ∅
    seenEventIds := ∅ }

def positionOrEmpty (account : Address) (positions : OrderedMap Address IndexedPosition) :
    IndexedPosition :=
  (positions.get? account).getD ⟨account, 0, 0, 0, 0, 0, 0⟩

def lpPositionOrEmpty (owner : Address) (positions : OrderedMap Address IndexedLpPosition) :
    IndexedLpPosition :=
  (positions.get? owner).getD ⟨owner, 0, 0, 0⟩

def problem (event : EventBase) (code : AlertCode) (message : Text)
    (expected observed : Option Text) : CriticalAlert :=
  { id := [.lit "event:", .lit event.id, .lit ":", .lit code.name]
    severity := .critical
    code
    message
    detectedAtUnixMilliseconds := event.timestampUnixMilliseconds
    cursor := some event.cursor
    expected
    observed }

structure PendingCoreFee where
  base : EventBase
  event : ReflectionFeeCollectedEvent
  sharesAtCollection : ℤ

/-- `MutableContext` and the three variables of the replay loop. -/
structure Context where
  next : ProtocolProjection
  pendingCoreFees : List PendingCoreFee
  consumedRoutes : List String
  sellWalletDebited : Bool

abbrev Replay (α : Type) : Type := Audited Context CriticalAlert Text α

/-- `context.next = f(context.next)`. -/
def setNext (f : ProtocolProjection → ProtocolProjection) : Replay Unit :=
  update fun context => { context with next := f context.next }

/-- `context.alerts.push(problem(…))` under a condition. -/
def alertIf (p : Prop) [Decidable p] (event : EventBase) (code : AlertCode) (message : String)
    (expected observed : Option Text) : Replay Unit :=
  fileIf p (problem event code (text message) expected observed)

/-! ## Groups

The lists that the source filters out of a group's events, with the payload that
the filter's type guard exposes. -/

def select {α : Type} (payload : EventBody → Option α) (events : List ProtocolEvent) :
    List (EventBase × α) :=
  events.filterMap fun event => (payload event.body).map fun a => (event.toEventBase, a)

/-- Which of the three liquidity receipts. -/
inductive LiquidityKind where
  | seeded
  | added
  | removed (finalExit : Bool)
deriving DecidableEq

def LiquidityKind.isRemoval : LiquidityKind → Bool
  | removed _ => true
  | _ => false

namespace EventBody

def swap : EventBody → Option SwapExecutedEvent
  | SwapExecuted event => some event
  | _ => none

def liquidity : EventBody → Option (LiquidityKind × LiquidityEvent)
  | LiquiditySeeded event => some (.seeded, event)
  | LiquidityAdded event => some (.added, event)
  | LiquidityRemoved event finalExit => some (.removed finalExit, event)
  | _ => none

def custodyChange : EventBody → Option CustodySharesChangedEvent
  | CustodySharesChanged event => some event
  | _ => none

def route : EventBody → Option CustodyRewardsRoutedEvent
  | CustodyRewardsRouted event => some event
  | _ => none

def lpAdvance : EventBody → Option LpRewardIndexAdvancedEvent
  | LpRewardIndexAdvanced event => some event
  | _ => none

def lpQuarantine : EventBody → Option LpRewardQuarantinedEvent
  | LpRewardQuarantined event => some event
  | _ => none

def lpResidue : EventBody → Option LpFractionalResidueRetiredEvent
  | LpFractionalResidueRetired event => some event
  | _ => none

def lpTerminalClassification : EventBody → Option LpEpochTerminalDustClassifiedEvent
  | LpEpochTerminalDustClassified event => some event
  | _ => none

def lpTerminalTransition : EventBody → Option LpEpochStatusChangedEvent
  | LpEpochStatusChanged event => if event.newStatus = .claimOnly then some event else none
  | _ => none

def lpOpening : EventBody → Option LpEpochOpenedEvent
  | LpEpochOpened event => some event
  | _ => none

def lpSharesChange : EventBody → Option LpSharesChangedEvent
  | LpSharesChanged event => some event
  | _ => none

def lpSharesTransfer : EventBody → Option LpSharesTransferredEvent
  | LpSharesTransferred event => some event
  | _ => none

def adapterRegistration : EventBody → Option CustodyAdapterRegisteredEvent
  | CustodyAdapterRegistered event => some event
  | _ => none

def routeOpening : EventBody → Option CustodyEpochRouteOpenedEvent
  | CustodyEpochRouteOpened event => some event
  | _ => none

/-- The account and the amount of a native debit. -/
def nativeDebit : EventBody → Option (Address × ℤ)
  | EligibleBalanceDebited account amount => some (account, amount)
  | _ => none

def nativeCredit : EventBody → Option (Address × ℤ)
  | EligibleBalanceCredited account amount => some (account, amount)
  | _ => none

def walletTransfer : EventBody → Option (Address × Address × Metadata × ℤ)
  | WalletTransfer sender recipient asset amount => some (sender, recipient, asset, amount)
  | _ => none

def materialization : EventBody → Option RewardsMaterializedEvent
  | RewardsMaterialized event => some event
  | _ => none

def explicitClaim : EventBody → Option RewardsClaimedEvent
  | RewardsClaimed event => some event
  | _ => none

def registration : EventBody → Option WalletRegisteredEvent
  | WalletRegistered event => some event
  | _ => none

/-- `accountStateSubjects`. -/
def accountStateSubjects : EventBody → List Address
  | PositionCreated account | EligibleBalanceDebited account _
  | EligibleBalanceCredited account _ => [account]
  | RewardsMaterialized event => [event.account]
  | RewardsClaimed event => [event.account]
  | SwapExecuted event => [event.account]
  | FaucetGrant account _ _ => [account]
  | WalletTransfer sender recipient _ _ => [sender, recipient]
  | LiquiditySeeded event | LiquidityAdded event | LiquidityRemoved event _ => [event.provider]
  | LpSharesChanged event => [event.owner]
  | LpRewardsClaimed event => [event.owner]
  | LpFractionalResidueRetired event => [event.owner]
  | LpSharesTransferred event => [event.sender, event.recipient]
  | _ => []

end EventBody

/-! ## Wallets -/

def assetName : Metadata → String
  | .trfl => "tRFL"
  | .tusd => "tUSD"

/-- Credits or debits a wallet. A tRFL movement enters at the current index. -/
def adjustWalletAsset (account : Address) (asset : Metadata) (delta : ℤ) (event : EventBase) :
    Replay Unit := do
  let next ← gets Context.next
  let current := positionOrEmpty account next.positions
  let balance := if asset = .trfl then current.rawTrfl else current.rawTusd
  failIf (balance + delta < 0)
    [.lit "event group would create a negative ", .lit (assetName asset), .lit " balance for ",
      .address account]
  if asset = .tusd then
    setNext fun next =>
      { next with
        positions := next.positions.set account { current with rawTusd := balance + delta } }
  else do
    let correctionDelta ← attempt (checkedMoveU256Multiply (if delta < 0 then -delta else delta)
      next.currentIndex (text "wallet correction delta"))
    let correction ← attempt (
      if delta < 0 then
        checkedMoveSignedU256AddUnsigned current.correction correctionDelta
          (text "wallet correction")
      else
        checkedMoveSignedU256SubtractUnsigned current.correction correctionDelta
          (text "wallet correction"))
    let aggregateCorrection ← attempt (
      if delta < 0 then
        checkedMoveSignedU256AddUnsigned next.aggregateCorrection correctionDelta
          (text "aggregate wallet correction")
      else
        checkedMoveSignedU256SubtractUnsigned next.aggregateCorrection correctionDelta
          (text "aggregate wallet correction"))
    setNext fun next =>
      { next with
        positions := next.positions.set account
          { current with rawTrfl := balance + delta, correction }
        eligibleSupply := next.eligibleSupply + delta
        aggregateCorrection }
    failIf (next.eligibleSupply + delta < 0)
      [.lit "event group would create negative global shares at ", .lit event.id]

def materializeWallet (base : EventBase) (event : RewardsMaterializedEvent) : Replay Unit := do
  failIf (event.amount ≤ 0) (text "materialized reward amount must be positive")
  let next ← gets Context.next
  let before := positionOrEmpty event.account next.positions
  let pending ← attempt (walletPending before next.currentIndex)
  alertIf (pending < event.amount) base .POSITION_ACCOUNTING
    "Wallet materialization exceeds independently calculated pending rewards."
    (shown pending) (shown event.amount)
  adjustWalletAsset event.account .trfl event.amount base
  let next ← gets Context.next
  let current := positionOrEmpty event.account next.positions
  let claimed ← attempt (checkedMoveU256Add current.claimed event.amount
    (text "wallet cumulative materialization"))
  alertIf (claimed ≠ event.totalClaimed) base .POSITION_ACCOUNTING
    "Wallet cumulative materialization does not match the event."
    (shown claimed) (shown event.totalClaimed)
  let lifetimeMaterialized ← attempt (checkedMoveU256Add current.lifetimeMaterialized event.amount
    (text "wallet lifetime materialization"))
  setNext fun next =>
    { next with
      positions := next.positions.set event.account
        { current with claimed, lifetimeMaterialized } }
  let rewardVaultPayouts ← attempt (checkedMoveU256Add next.rewardVaultPayouts event.amount
    (text "core reward-vault payouts"))
  let lifetimeMaterialized ← attempt (checkedMoveU256Add next.lifetimeMaterialized event.amount
    (text "core lifetime materialization"))
  setNext fun next => { next with rewardVaultPayouts, lifetimeMaterialized }

def rewardsClaimed (event : RewardsClaimedEvent) : Replay Unit := do
  failIf (event.amount ≤ 0) (text "claimed reward amount must be positive")
  let next ← gets Context.next
  let current := positionOrEmpty event.account next.positions
  let lifetimeClaimed ← attempt (checkedMoveU256Add current.lifetimeClaimed event.amount
    (text "wallet lifetime claimed"))
  setNext fun next =>
    { next with
      positions := next.positions.set event.account { current with lifetimeClaimed } }

def positionCreated (base : EventBase) (account : Address) : Replay Unit := do
  let next ← gets Context.next
  alertIf (next.positions.has account = true) base .IDENTIFIER_REUSE
    "Wallet accounting position was created more than once." none none
  setNext fun next =>
    { next with
      positions := next.positions.set account (positionOrEmpty account next.positions) }

def walletRegistered (base : EventBase) (event : WalletRegisteredEvent) : Replay Unit := do
  let next ← gets Context.next
  let expectedCount := next.registeredWalletCount + 1
  alertIf (event.account = .zero ∨ event.primaryStore = .zero
      ∨ event.registeredWalletCount ≤ 0 ∨ U64_MAX < event.registeredWalletCount
      ∨ event.registeredWalletCount ≠ expectedCount
      ∨ next.registeredWallets.has event.account = true
      ∨ event.primaryStore ∈ next.registeredWallets.values
      ∨ next.protocolExcludedStores.has event.account = true
      ∨ event.primaryStore ∈ next.protocolExcludedStores.values) base .WALLET_REGISTRATION
    "Wallet registration must bind one fresh non-excluded account/store and advance the exact u64 count once."
    (shown expectedCount) (shown event.registeredWalletCount)
  setNext fun next =>
    { next with
      registeredWallets := next.registeredWallets.set event.account event.primaryStore
      registeredWalletCount := event.registeredWalletCount }

def faucetGrant (base : EventBase) (account : Address) (asset : Metadata) (amount : ℤ) :
    Replay Unit := do
  failIf (amount ≤ 0) (text "faucet grant must be positive")
  adjustWalletAsset account asset amount base

/-- The receipt of the router changes nothing: an excluded endpoint emits no
hook event, and the hooks of the others have moved the balances. -/
def walletTransfer (events : List ProtocolEvent) (base : EventBase) (sender recipient : Address)
    (amount : ℤ) : Replay Unit := do
  let nativeDebits := select EventBody.nativeDebit events
  let nativeCredits := select EventBody.nativeCredit events
  failIf (amount ≤ 0) (text "wallet transfer must be positive")
  let matchingDebit := nativeDebits.filter fun entry => entry.2 = (sender, amount)
  let matchingCredit := nativeCredits.filter fun entry => entry.2 = (recipient, amount)
  alertIf (0 < nativeDebits.length ∧ matchingDebit.length ≠ 1) base .DOUBLE_COUNTING
    "Router sender receipt disagrees with the native eligible-store debit." none none
  alertIf (0 < nativeCredits.length ∧ matchingCredit.length ≠ 1) base .DOUBLE_COUNTING
    "Router recipient receipt disagrees with the native eligible-store credit." none none

def eligibleBalanceDebited (base : EventBase) (account : Address) (amount : ℤ) :
    Replay Unit := do
  failIf (amount ≤ 0) (text "eligible-balance debit must be positive")
  adjustWalletAsset account .trfl (-amount) base

def eligibleBalanceCredited (base : EventBase) (account : Address) (amount : ℤ) :
    Replay Unit := do
  failIf (amount ≤ 0) (text "eligible-balance credit must be positive")
  adjustWalletAsset account .trfl amount base

/-! ## Identity, launch and closure -/

def protocolInitialized (base : EventBase) (event : ProtocolInitializedEvent) : Replay Unit := do
  let next ← gets Context.next
  alertIf (next.packageVersion ≠ "uninitialized") base .IDENTIFIER_REUSE
    "Protocol initialization appeared more than once." none none
  alertIf (100 < event.feeBps) base .EVENT_DATA
    "Protocol initialized with a reflection fee above 100 bps." none none
  alertIf (event.deploymentId = "" ∨ event.networkLabel ≠ "cedra-testnet"
      ∨ event.protocolExclusionSlots ≠ 2) base .EVENT_DATA
    "Protocol initialization identity or exclusion-slot policy is invalid." none none
  setNext fun next =>
    { next with
      deploymentId := event.deploymentId
      networkLabel := event.networkLabel
      tokenMetadata := some event.tokenMetadata
      protocolExclusionSlots := event.protocolExclusionSlots
      protocolExclusionsRemaining := event.protocolExclusionSlots
      automaticMaterialization := event.automaticMaterialization
      feeBps := event.feeBps
      currentIndex := event.initialIndex
      packageVersion := event.packageVersion
      rewardVault := some event.rewardVault
      distributionVault := some event.distributionVault }

def tokenCreated (base : EventBase) (event : TokenCreatedEvent) : Replay Unit := do
  let next ← gets Context.next
  alertIf (next.packageVersion ≠ "uninitialized") base .IDENTIFIER_REUSE
    "Token creation appeared more than once." none none
  alertIf (event.eventSchema ≠ "v0.2" ∨ event.packageVersion ≠ "testnet-v0.2.0"
      ∨ event.networkLabel ≠ "cedra-testnet" ∨ 500 < event.reflectionFeeBps
      ∨ event.totalSupply ≠ 1_000_000_000_000_000 ∨ event.decimals ≠ 6) base .EVENT_DATA
    "v0.2 TokenCreated identity or immutable creation parameters are invalid." none none
  setNext fun next =>
    { next with
      deploymentId := event.deploymentId
      networkLabel := event.networkLabel
      tokenMetadata := some event.tokenMetadata
      protocolExclusionSlots := 0
      protocolExclusionsRemaining := 0
      automaticMaterialization := true
      feeBps := event.reflectionFeeBps
      packageVersion := event.packageVersion
      lifecycle := some .CONFIGURING
      rewardVault := some event.rewardVault
      distributionVault := some event.distributionVault }

def launchSealed (base : EventBase) (event : LaunchSealedEvent) : Replay Unit := do
  let next ← gets Context.next
  alertIf (next.packageVersion ≠ "testnet-v0.2.0" ∨ next.lifecycle ≠ some .CONFIGURING
      ∨ event.reflectionFeeBps ≠ next.feeBps ∨ 500 < event.reflectionFeeBps
      ∨ event.ammFeeBps ≠ 30 ∨ event.maximumReserveBps ≠ 2_000
      ∨ event.maximumGrossSwap ≠ 100_000_000_000
      ∨ event.maximumRflContribution ≠ 100_000_000_000
      ∨ event.maximumTusdContribution ≠ 100_000_000_000
      ∨ event.maximumNonFinalWithdrawalShareBps ≠ 10_000
      ∨ event.faucetTrflGrant ≠ 1_000_000_000 ∨ event.faucetTusdGrant ≠ 1_000_000_000
      ∨ event.faucetCooldownSeconds ≠ 3_600 ∨ event.seedRfl ≠ 500_000_000
      ∨ event.seedUsd ≠ 500_000_000 ∨ event.initialLpShares ≤ 0) base .EVENT_DATA
    "v0.2 LaunchSealed disagrees with the fixed launch envelope." none none
  setNext fun next =>
    { next with
      lifecycle := some .LIVE
      deploymentReady := true
      faucetTrflGrant := event.faucetTrflGrant
      faucetTusdGrant := event.faucetTusdGrant
      faucetCooldownSeconds := event.faucetCooldownSeconds
      pool :=
        { next.pool with
          ammFeeBps := event.ammFeeBps
          maximumReserveBps := event.maximumReserveBps
          maximumGrossSwap := event.maximumGrossSwap
          maximumRflContribution := event.maximumRflContribution
          maximumTusdContribution := event.maximumTusdContribution
          maximumNonFinalWithdrawalShareBps := event.maximumNonFinalWithdrawalShareBps } }

def poolClosed (base : EventBase) (event : PoolClosedEvent) : Replay Unit := do
  let next ← gets Context.next
  alertIf (next.packageVersion ≠ "testnet-v0.2.0" ∨ next.lifecycle ≠ some .LIVE ∨ event.epoch ≠ 1
      ∨ event.rflReserveAfter ≠ next.pool.trflReserve
      ∨ event.usdReserveAfter ≠ next.pool.tusdReserve) base .EVENT_DATA
    "v0.2 PoolClosed is out of lifecycle order or disagrees with replayed terminal reserves."
    none none
  setNext fun next => { next with lifecycle := some .CLOSED }

def protocolPrimaryStoreExcluded (base : EventBase) (account store : Address)
    (remainingSlots : ℤ) : Replay Unit := do
  let next ← gets Context.next
  alertIf (account = .zero ∨ store = .zero ∨ next.protocolExclusionsRemaining ≤ 0
      ∨ remainingSlots ≠ next.protocolExclusionsRemaining - 1
      ∨ next.protocolExcludedStores.has account = true
      ∨ store ∈ next.protocolExcludedStores.values
      ∨ next.registeredWallets.has account = true
      ∨ store ∈ next.registeredWallets.values) base .IDENTIFIER_REUSE
    "Protocol publisher exclusion is zero, registered, duplicated, or exceeds the finite bootstrap slots."
    none none
  setNext fun next =>
    { next with
      protocolExclusionsRemaining := remainingSlots
      protocolExcludedStores := next.protocolExcludedStores.set account store }

/-- Operational appointments are outside the finite bootstrap slots and cannot
change the remaining count. -/
def operationalPrimaryStoreExcluded (base : EventBase) (account store : Address) :
    Replay Unit := do
  let next ← gets Context.next
  alertIf (account = .zero ∨ store = .zero ∨ next.protocolExcludedStores.has account = true
      ∨ store ∈ next.protocolExcludedStores.values
      ∨ next.registeredWallets.has account = true
      ∨ store ∈ next.registeredWallets.values) base .IDENTIFIER_REUSE
    "Operational primary-store exclusion is zero, duplicated, or reuses an already classified store."
    none none
  setNext fun next =>
    { next with protocolExcludedStores := next.protocolExcludedStores.set account store }

def faucetConfigured (base : EventBase) (trflGrant tusdGrant cooldownSeconds : ℤ) :
    Replay Unit := do
  alertIf (trflGrant ≤ 0 ∨ tusdGrant ≤ 0) base .EVENT_DATA
    "Faucet grants must both be positive." none none
  setNext fun next =>
    { next with
      faucetTrflGrant := trflGrant
      faucetTusdGrant := tusdGrant
      faucetCooldownSeconds := cooldownSeconds }

def poolReserveBound (base : EventBase) (reserveStore custodian : Address) : Replay Unit := do
  let next ← gets Context.next
  alertIf (next.mockUsdPoolReserve ≠ none ∨ reserveStore = .zero ∨ custodian = .zero)
    base .IDENTIFIER_REUSE
    "The one-shot tUSD pool reserve binding is invalid or repeated." none none
  setNext fun next => { next with mockUsdPoolReserve := some reserveStore }

/-! ## The core's fees, its index and its custody -/

def custodyAdapterRegistered (base : EventBase) (event : CustodyAdapterRegisteredEvent) :
    Replay Unit := do
  let next ← gets Context.next
  alertIf (event.adapterId ≤ 0 ∨ event.firstEpoch ≠ 1 ∨ next.custody.adapterId ≠ none
      ∨ next.custody.reserveStore ≠ none
      ∨ next.rewardVaultToEpoch.has event.lpRewardVault = true) base .IDENTIFIER_REUSE
    "Canonical custody adapter, reserve, or first LP vault was registered more than once."
    none none
  setNext fun next =>
    { next with
      custody :=
        { next.custody with
          adapterId := some event.adapterId
          reserveStore := some event.reserveStore
          activeRouteEpoch := some event.firstEpoch
          activeLpRewardVault := some event.lpRewardVault } }

def custodyEpochRouteOpened (base : EventBase) (event : CustodyEpochRouteOpenedEvent) :
    Replay Unit := do
  let next ← gets Context.next
  -- `custodyPending` is the last operand of a disjunction, and throws only if it is reached.
  let mismatch := next.custody.adapterId ≠ some event.adapterId
    ∨ next.custody.reserveStore ≠ some event.reserveStore
    ∨ (next.lpEpochs.get? event.epoch).map (·.rewardVault) ≠ some event.lpRewardVault
    ∨ (next.lpEpochs.get? event.epoch).map (·.status) ≠ some .active
    ∨ next.activeLpEpoch ≠ some event.epoch
    ∨ next.custody.shares ≠ 0
  let pending ← if mismatch then pure 0 else attempt (custodyPending next)
  alertIf (mismatch ∨ pending ≠ 0) base .VAULT_BINDING
    "Fresh custody route does not continue the immutable adapter/reserve/epoch binding."
    none none
  alertIf (next.custody.activeRouteEpoch ≠ none
      ∧ next.custody.activeRouteEpoch.map (· + 1) ≠ some event.epoch) base .OLD_EPOCH_ROUTE
    "Custody route epochs must advance exactly once." none none
  failIf (next.custody.correction < 0)
    (text "custody route correction cannot be negative during residue normalization")
  let normalizedCustodyClaim ← attempt (checkedMoveU256Multiply next.custody.claimed
    REFLECTION_MAGNITUDE (text "custody normalized claim"))
  let expectedResidue ← attempt (checkedMoveU256Subtract next.custody.correction
    normalizedCustodyClaim (text "custody route residue"))
  alertIf (expectedResidue < 0 ∨ REFLECTION_MAGNITUDE ≤ expectedResidue
      ∨ event.retiredResidueMagnified ≠ expectedResidue) base .CUSTODY_ACCOUNTING
    "Custody route did not retire exactly the prior epoch's fractional magnified residue."
    (shown expectedResidue) (shown event.retiredResidueMagnified)
  let aggregateCorrection ← attempt (checkedMoveSignedU256SubtractUnsigned
    next.aggregateCorrection event.retiredResidueMagnified
    (text "aggregate custody residue correction"))
  let correction ← attempt (checkedMoveSignedU256SubtractUnsigned next.custody.correction
    event.retiredResidueMagnified (text "custody residue correction"))
  setNext fun next =>
    { next with
      aggregateCorrection
      custody :=
        { next.custody with
          activeRouteEpoch := some event.epoch
          activeLpRewardVault := some event.lpRewardVault
          correction } }

/-- The seller's debit is implied by the first receipt of a sale, its fee
receipt or the sale's own. -/
def debitSeller (base : EventBase) (account : Address) (grossAmount : ℤ) : Replay Unit := do
  adjustWalletAsset account .trfl (-grossAmount) base
  update fun context => { context with sellWalletDebited := true }

def reflectionFeeCollected (events : List ProtocolEvent) (base : EventBase)
    (event : ReflectionFeeCollectedEvent) : Replay Unit := do
  let debited ← gets Context.sellWalletDebited
  match (select EventBody.swap events).head? with
  | some (_, swap) =>
      if swap.direction = .sell ∧ debited = false then
        debitSeller base swap.account swap.grossAmount
      else pure ()
  | none => pure ()
  let next ← gets Context.next
  let expectedFee := (event.grossAmount * event.feeBps).tdiv BPS_DENOMINATOR
  let maximumFeeBps := if next.packageVersion = "testnet-v0.2.0" then 500 else 100
  alertIf (maximumFeeBps < event.feeBps ∨ event.feeBps ≠ next.feeBps
      ∨ event.feeAmount ≠ expectedFee ∨ event.swapTxHash ≠ base.txHash) base .FEE_FORMULA
    "Reflection fee receipt does not match configured floor arithmetic and transaction identity."
    none none
  let rewardVaultCredits ← attempt (checkedMoveU256Add next.rewardVaultCredits event.feeAmount
    (text "core reward-vault credits"))
  let lifetimeSwapFees ← attempt (checkedMoveU256Add next.lifetimeSwapFees event.feeAmount
    (text "core lifetime fees"))
  setNext fun next => { next with rewardVaultCredits, lifetimeSwapFees }
  update fun context =>
    { context with
      pendingCoreFees := context.pendingCoreFees ++ [⟨base, event, context.next.eligibleSupply⟩] }

/-- The checks of an index event against the fee receipt it follows. -/
def advanceIndex (base : EventBase) (event : ReflectionIndexAdvancedEvent)
    (pending : PendingCoreFee) : Replay Unit := do
  let next ← gets Context.next
  if pending.sharesAtCollection ≤ 0 then
    file (problem base .GLOBAL_INDEX (text "Global index advanced with a zero denominator.")
      none none)
  else do
    let magnified ← attempt (checkedMoveU256Multiply pending.event.feeAmount REFLECTION_MAGNITUDE
      (text "core index fee numerator"))
    let numerator ← attempt (checkedMoveU256Add magnified next.indexRemainder
      (text "core index numerator with remainder"))
    let increment ← attempt (divide numerator pending.sharesAtCollection)
    let expectedIndex ← attempt (checkedMoveU256Add next.currentIndex increment
      (text "core reflection index"))
    let expectedRemainder ← attempt (modulo numerator pending.sharesAtCollection)
    alertIf (event.feeAmount ≠ pending.event.feeAmount ∨ event.previousIndex ≠ next.currentIndex
        ∨ event.newIndex ≠ expectedIndex ∨ event.indexRemainder ≠ expectedRemainder
        ∨ event.eligibleSupply ≠ pending.sharesAtCollection
        ∨ event.eligibleSupply ≠ next.eligibleSupply) base .GLOBAL_INDEX
      "Global index event disagrees with the independent fee/share calculation."
      (slashed [.int next.currentIndex, .int expectedIndex, .int expectedRemainder,
        .int pending.sharesAtCollection])
      (slashed [.int event.previousIndex, .int event.newIndex, .int event.indexRemainder,
        .int event.eligibleSupply])
    setNext fun next =>
      { next with currentIndex := event.newIndex, indexRemainder := event.indexRemainder }

def reflectionIndexAdvanced (base : EventBase) (event : ReflectionIndexAdvancedEvent) :
    Replay Unit := do
  let fees ← gets Context.pendingCoreFees
  match fees with
  | [] =>
      file (problem base .TRANSACTION_GROUP
        (text "Global index advanced without a preceding fee receipt.") none none)
  | pending :: rest => do
      update fun context => { context with pendingCoreFees := rest }
      advanceIndex base event pending

def custodySharesChanged (base : EventBase) (event : CustodySharesChangedEvent) :
    Replay Unit := do
  failIf (event.amount ≤ 0) (text "custody share mutation must be positive")
  let next ← gets Context.next
  let delta := if event.added = true then event.amount else -event.amount
  failIf (next.custody.shares + delta < 0) (text "custody shares cannot underflow")
  let correctionDelta ← attempt (checkedMoveU256Multiply event.amount next.currentIndex
    (text "custody correction delta"))
  let correction ← attempt (
    if event.added = true then
      checkedMoveSignedU256SubtractUnsigned next.custody.correction correctionDelta
        (text "custody correction")
    else
      checkedMoveSignedU256AddUnsigned next.custody.correction correctionDelta
        (text "custody correction"))
  let aggregateCorrection ← attempt (
    if event.added = true then
      checkedMoveSignedU256SubtractUnsigned next.aggregateCorrection correctionDelta
        (text "aggregate custody correction")
    else
      checkedMoveSignedU256AddUnsigned next.aggregateCorrection correctionDelta
        (text "aggregate custody correction"))
  let shares := next.custody.shares + delta
  let eligibleSupply := next.eligibleSupply + delta
  setNext fun next =>
    { next with
      custody := { next.custody with shares, correction }
      eligibleSupply
      aggregateCorrection }
  alertIf (shares ≠ event.custodyShares ∨ eligibleSupply ≠ event.globalShares)
    base .CUSTODY_ACCOUNTING
    "Custody/global post-mutation shares disagree with replay."
    (slashed [.int shares, .int eligibleSupply])
    (slashed [.int event.custodyShares, .int event.globalShares])

/-! ## Epochs -/

def requireEpoch (base : EventBase) (epochId : ℤ) : Replay (Option IndexedLpEpoch) := do
  let next ← gets Context.next
  let epoch := next.lpEpochs.get? epochId
  fileIf (epoch.isNone = true) (problem base .LP_ACCOUNTING
    [.lit "LP event references unknown epoch ", .int epochId, .lit "."] none none)
  pure epoch

/-- The cases that end without an epoch. -/
def inEpoch (base : EventBase) (epochId : ℤ) (body : IndexedLpEpoch → Replay Unit) :
    Replay Unit := do
  let epoch ← requireEpoch base epochId
  match epoch with
  | some epoch => body epoch
  | none => pure ()

def updateEpoch (epoch : IndexedLpEpoch) : Replay Unit :=
  setNext fun next => { next with lpEpochs := next.lpEpochs.set epoch.epoch epoch }

/-- The bucket identity of an epoch: what its vault holds beyond its
liabilities. -/
def epochRounding (epoch : IndexedLpEpoch) (label : Text) : Except Text ℤ := do
  let vaultBalance ← expectedLpVaultBalance epoch
  let liability ← lpIndexedLiability epoch
  checkedVaultRemainder vaultBalance liability epoch.unallocatedRewards label

def custodyRewardsRouted (base : EventBase) (event : CustodyRewardsRoutedEvent) :
    Replay Unit := do
  let epoch ← requireEpoch base event.epoch
  let next ← gets Context.next
  let shownOr := fun (id : Option ℤ) => (id.map Fragment.int).getD (.lit "none")
  alertIf (next.activeLpEpoch ≠ some event.epoch
      ∨ next.custody.activeRouteEpoch ≠ some event.epoch) base .OLD_EPOCH_ROUTE
    "Custody rewards were routed to a non-active LP/custody epoch."
    (slashed [shownOr next.activeLpEpoch, shownOr next.custody.activeRouteEpoch])
    (shown event.epoch)
  let vault := epoch.map (·.rewardVault)
  alertIf (vault ≠ none ∧ vault ≠ some event.lpRewardVault) base .VAULT_BINDING
    "Custody route vault disagrees with the epoch's immutable vault binding."
    (vault.map fun vault => [.address vault]) (some [.address event.lpRewardVault])
  alertIf (next.custody.activeLpRewardVault ≠ some event.lpRewardVault) base .VAULT_BINDING
    "Custody route does not target the adapter's active LP vault."
    (some [(next.custody.activeLpRewardVault.map Fragment.address).getD (.lit "none")])
    (some [.address event.lpRewardVault])
  alertIf (next.custody.reserveStore ≠ none
      ∧ next.custody.reserveStore ≠ some event.reserveStore) base .VAULT_BINDING
    "Canonical custody reserve identifier changed after registration."
    (next.custody.reserveStore.map fun store => [.address store])
    (some [.address event.reserveStore])
  let pending ← attempt (custodyPending next)
  alertIf (event.amount ≠ pending ∨ event.amount ≤ 0) base .CUSTODY_ACCOUNTING
    "Custody route must settle the exact whole pending amount."
    (shown pending) (shown event.amount)
  let claimed ← attempt (checkedMoveU256Add next.custody.claimed event.amount
    (text "custody cumulative routed"))
  alertIf (claimed ≠ event.totalRouted) base .CUSTODY_ACCOUNTING
    "Custody cumulative routed amount disagrees with replay."
    (shown claimed) (shown event.totalRouted)
  let lifetimeRouted ← attempt (checkedMoveU256Add next.custody.lifetimeRouted event.amount
    (text "custody lifetime routed"))
  let lifetimeCustodyRouted ← attempt (checkedMoveU256Add next.lifetimeCustodyRouted event.amount
    (text "core lifetime custody routed"))
  let rewardVaultPayouts ← attempt (checkedMoveU256Add next.rewardVaultPayouts event.amount
    (text "core reward-vault payouts"))
  setNext fun next =>
    { next with
      custody :=
        { next.custody with
          reserveStore := some (next.custody.reserveStore.getD event.reserveStore)
          claimed
          lifetimeRouted }
      lifetimeCustodyRouted
      rewardVaultPayouts }

def lpEpochOpened (base : EventBase) (event : LpEpochOpenedEvent) : Replay Unit := do
  let next ← gets Context.next
  if next.lpEpochs.has event.epoch = true
      ∨ next.rewardVaultToEpoch.has event.rewardVault = true
      ∨ next.stateIdToEpoch.has event.stateId = true ∨ next.activeLpEpoch ≠ none then
    file (problem base .IDENTIFIER_REUSE
      (text "LP epoch or reward-vault identifier was reused while another epoch is active.")
      none none)
  else do
    updateEpoch
      { epoch := event.epoch
        stateId := event.stateId
        status := .active
        rewardVault := event.rewardVault
        index := 0
        indexRemainder := 0
        totalShares := 0
        aggregateCorrection := 0
        unallocatedRewards := 0
        roundingReserve := 0
        retiredResidueMagnified := 0
        terminalRoundingBaseUnits := none
        lifetimeReceived := 0
        lifetimeClaimed := 0
        quarantined := false
        positions := ∅ }
    setNext fun next =>
      { next with
        rewardVaultToEpoch := next.rewardVaultToEpoch.set event.rewardVault event.epoch
        stateIdToEpoch := next.stateIdToEpoch.set event.stateId event.epoch
        activeLpEpoch := some event.epoch }

def lpEpochStatusChanged (base : EventBase) (event : LpEpochStatusChangedEvent) : Replay Unit :=
  inEpoch base event.epoch fun epoch => do
    alertIf (¬ (event.oldStatus = .active ∧ event.newStatus = .claimOnly)
        ∨ epoch.status ≠ event.oldStatus) base .LP_ACCOUNTING
      "LP epoch status transition is invalid or does not continue replayed state." none none
    updateEpoch { epoch with status := event.newStatus }
    if event.newStatus = .claimOnly then do
      let next ← gets Context.next
      alertIf (next.activeLpEpoch ≠ some event.epoch ∨ epoch.totalShares ≠ 0) base .LP_ACCOUNTING
        "Only an empty active epoch can become claim-only." none none
      setNext fun next => { next with activeLpEpoch := none }
    else pure ()

/-- The amount of the first later event by which `owner` leaves the epoch. -/
def exitAmount (events : List ProtocolEvent) (base : EventBase) (epochId : ℤ) (owner : Address) :
    ℤ :=
  let amount := fun (candidate : ProtocolEvent) =>
    if base.eventIndex < candidate.eventIndex then
      match candidate.body with
      | .LpSharesChanged change =>
          if change.added = false ∧ change.epoch = epochId ∧ change.owner = owner
              ∧ change.ownerShares = 0 then some change.amount
          else none
      | .LpSharesTransferred transfer =>
          if transfer.epoch = epochId ∧ transfer.sender = owner then some transfer.amount else none
      | _ => none
    else none
  (events.findSome? amount).getD 0

def lpFractionalResidueRetired (events : List ProtocolEvent) (base : EventBase)
    (event : LpFractionalResidueRetiredEvent) : Replay Unit :=
  inEpoch base event.epoch fun epoch => do
    let current := epoch.positions.get? event.owner
    let shares := (current.map (·.shares)).getD 0
    if event.epoch ≤ 0 ∨ U64_MAX < event.epoch ∨ event.residueMagnified ≤ 0
        ∨ U256_MAX < event.residueMagnified ∨ U256_MAX < event.cumulativeRetiredResidueMagnified
        ∨ U128_MAX < event.roundingReserveBaseUnits ∨ shares ≤ 0
        ∨ exitAmount events base event.epoch event.owner ≠ shares then
      file (problem base .LP_ACCOUNTING
        (text "Fractional residue must use exact u64/u128/u256 units and precede a complete non-zero position exit.")
        none none)
    else do
      let current := lpPositionOrEmpty event.owner epoch.positions
      let correctionDelta ← attempt (checkedMoveU256Multiply current.shares epoch.index
        (text "LP exit correction delta"))
      let correctionAfterExit ← attempt (checkedMoveSignedU256AddUnsigned current.correction
        correctionDelta (text "LP zero-share correction"))
      failIf (correctionAfterExit < 0) (text "LP zero-share correction cannot remain negative")
      let normalizedClaim ← attempt (checkedMoveU256Multiply current.claimed REFLECTION_MAGNITUDE
        (text "LP normalized claim"))
      let expectedResidue ← attempt (checkedMoveU256Subtract correctionAfterExit normalizedClaim
        (text "LP fractional residue"))
      let expectedCumulative ← attempt (checkedMoveU256Add epoch.retiredResidueMagnified
        expectedResidue (text "LP cumulative retired residue"))
      if expectedResidue ≤ 0 ∨ REFLECTION_MAGNITUDE ≤ expectedResidue
          ∨ U256_MAX < expectedCumulative ∨ event.residueMagnified ≠ expectedResidue
          ∨ event.cumulativeRetiredResidueMagnified ≠ expectedCumulative then
        file (problem base .LP_ACCOUNTING
          (text "Fractional residue receipt disagrees with the zero-share correction normalization.")
          (slashed [.int expectedResidue, .int expectedCumulative])
          (slashed [.int event.residueMagnified, .int event.cumulativeRetiredResidueMagnified]))
      else do
        let correction ← attempt (checkedMoveSignedU256SubtractUnsigned current.correction
          expectedResidue (text "LP retired owner residue correction"))
        let aggregateCorrection ← attempt (checkedMoveSignedU256SubtractUnsigned
          epoch.aggregateCorrection expectedResidue
          (text "LP retired aggregate residue correction"))
        let withoutRounding :=
          { epoch with
            aggregateCorrection
            retiredResidueMagnified := expectedCumulative
            positions := epoch.positions.set event.owner { current with correction } }
        let expectedRounding ← attempt (epochRounding withoutRounding
          (text "LP residue rounding reserve"))
        alertIf (expectedRounding < 0 ∨ U128_MAX < expectedRounding
            ∨ event.roundingReserveBaseUnits ≠ expectedRounding) base .LP_VAULT_BACKING
          "Fractional residue retirement reports the wrong physical rounding reserve."
          (shown expectedRounding) (shown event.roundingReserveBaseUnits)
        updateEpoch { withoutRounding with roundingReserve := expectedRounding }

def lpEpochTerminalDustClassified (base : EventBase) (event : LpEpochTerminalDustClassifiedEvent) :
    Replay Unit :=
  inEpoch base event.epoch fun epoch => do
    let expectedVaultBalance ← attempt (expectedLpVaultBalance epoch)
    let calculatedLiability ← attempt (lpIndexedLiability epoch)
    alertIf (event.epoch ≤ 0 ∨ U64_MAX < event.epoch
        ∨ U128_MAX < event.terminalRoundingBaseUnits ∨ U256_MAX < event.retiredResidueMagnified
        ∨ U256_MAX < event.lifetimeReceivedBaseUnits ∨ U256_MAX < event.lifetimeClaimedBaseUnits
        ∨ epoch.status ≠ .claimOnly ∨ epoch.terminalRoundingBaseUnits ≠ none
        ∨ epoch.rewardVault ≠ event.rewardVault ∨ epoch.totalShares ≠ 0
        ∨ epoch.quarantined = true ∨ epoch.unallocatedRewards ≠ 0 ∨ calculatedLiability ≠ 0
        ∨ expectedVaultBalance ≠ epoch.roundingReserve
        ∨ event.terminalRoundingBaseUnits ≠ epoch.roundingReserve
        ∨ event.retiredResidueMagnified ≠ epoch.retiredResidueMagnified
        ∨ event.lifetimeReceivedBaseUnits ≠ epoch.lifetimeReceived
        ∨ event.lifetimeClaimedBaseUnits ≠ epoch.lifetimeClaimed) base .LP_ACCOUNTING
      "Terminal dust classification must exactly match the healthy zero-share claim-only epoch and its immutable vault/lifetime evidence."
      none none
    updateEpoch { epoch with terminalRoundingBaseUnits := some epoch.roundingReserve }

def adjustLpShares (base : EventBase) (event : LpSharesChangedEvent) : Replay Unit :=
  inEpoch base event.epoch fun epoch => do
    if epoch.status ≠ .active ∨ epoch.quarantined = true ∨ event.amount ≤ 0 then
      file (problem base .LP_ACCOUNTING
        (text "LP share mutation must be positive and target the active epoch.") none none)
    else do
      let next ← gets Context.next
      alertIf (next.registeredWallets.has event.owner = false) base .WALLET_REGISTRATION
        "LP share weight may be created or mutated only for a wallet registered earlier in replay order."
        (text "earlier WalletRegistered") (some [.address event.owner])
      let delta := if event.added = true then event.amount else -event.amount
      let current := lpPositionOrEmpty event.owner epoch.positions
      if current.shares + delta < 0 ∨ epoch.totalShares + delta < 0 then
        file (problem base .LP_ACCOUNTING
          (text "LP share mutation would underflow a position or epoch.") none none)
      else do
        let correctionDelta ← attempt (checkedMoveU256Multiply event.amount epoch.index
          (text "LP share correction delta"))
        let correction ← attempt (
          if event.added = true then
            checkedMoveSignedU256SubtractUnsigned current.correction correctionDelta
              (text "LP owner correction")
          else
            checkedMoveSignedU256AddUnsigned current.correction correctionDelta
              (text "LP owner correction"))
        let aggregateCorrection ← attempt (
          if event.added = true then
            checkedMoveSignedU256SubtractUnsigned epoch.aggregateCorrection correctionDelta
              (text "LP aggregate correction")
          else
            checkedMoveSignedU256AddUnsigned epoch.aggregateCorrection correctionDelta
              (text "LP aggregate correction"))
        let shares := current.shares + delta
        let totalShares := epoch.totalShares + delta
        alertIf (shares ≠ event.ownerShares ∨ totalShares ≠ event.totalShares)
          base .LP_ACCOUNTING
          "LP post-mutation shares disagree with independently replayed shares."
          (slashed [.int shares, .int totalShares])
          (slashed [.int event.ownerShares, .int event.totalShares])
        updateEpoch
          { epoch with
            totalShares
            aggregateCorrection
            positions := epoch.positions.set event.owner { current with shares, correction } }

def lpSharesTransferred (base : EventBase) (event : LpSharesTransferredEvent) : Replay Unit :=
  inEpoch base event.epoch fun epoch => do
    if epoch.status ≠ .active ∨ epoch.quarantined = true ∨ event.amount ≤ 0 then
      file (problem base .LP_ACCOUNTING
        (text "LP transfer must be positive and target the active epoch.") none none)
    else do
      let next ← gets Context.next
      alertIf (next.registeredWallets.has event.sender = false
          ∨ next.registeredWallets.has event.recipient = false) base .WALLET_REGISTRATION
        "LP sender and recipient must both have WalletRegistered evidence earlier in replay order."
        (text "registered sender and recipient")
        (slashed [.address event.sender, .address event.recipient])
      let sender := lpPositionOrEmpty event.sender epoch.positions
      let recipient := lpPositionOrEmpty event.recipient epoch.positions
      if sender.shares < event.amount ∨ event.sender = event.recipient then
        file (problem base .LP_ACCOUNTING
          (text "LP transfer would underflow or transfer to self.") none none)
      else do
        let delta ← attempt (checkedMoveU256Multiply event.amount epoch.index
          (text "LP transfer correction delta"))
        let senderCorrection ← attempt (checkedMoveSignedU256AddUnsigned sender.correction delta
          (text "LP transfer sender correction"))
        let recipientCorrection ← attempt (checkedMoveSignedU256SubtractUnsigned
          recipient.correction delta (text "LP transfer recipient correction"))
        let positions := epoch.positions.set event.sender
          { sender with shares := sender.shares - event.amount, correction := senderCorrection }
        updateEpoch
          { epoch with
            positions := positions.set event.recipient
              { recipient with
                shares := recipient.shares + event.amount
                correction := recipientCorrection } }

/-- Consumes the first earlier route of `amount` to `vault` that no receipt has
consumed. -/
def consumeRoute (events : List ProtocolEvent) (base : EventBase) (epochId amount : ℤ)
    (vault : Address) (message : String) : Replay Unit := do
  let consumed ← gets Context.consumedRoutes
  let route := (select EventBody.route events).find? fun candidate =>
    candidate.1.id ∉ consumed ∧ candidate.2.epoch = epochId ∧ candidate.2.amount = amount
      ∧ candidate.2.lpRewardVault = vault ∧ candidate.1.eventIndex < base.eventIndex
  match route with
  | some (route, _) =>
      update fun context => { context with consumedRoutes := context.consumedRoutes ++ [route.id] }
  | none => file (problem base .ROUTE_PAIR (text message) none none)

def lpRewardIndexAdvanced (events : List ProtocolEvent) (base : EventBase)
    (event : LpRewardIndexAdvancedEvent) : Replay Unit :=
  inEpoch base event.epoch fun epoch => do
    consumeRoute events base event.epoch event.received epoch.rewardVault
      "LP index receipt has no preceding equal core custody route."
    let next ← gets Context.next
    alertIf (next.activeLpEpoch ≠ some event.epoch) base .OLD_EPOCH_ROUTE
      "LP index advanced outside the active epoch." none none
    if epoch.totalShares ≤ 0 then
      file (problem base .LP_ACCOUNTING (text "LP index cannot advance with zero shares.")
        none none)
    else do
      let magnified ← attempt (checkedMoveU256Multiply event.received REFLECTION_MAGNITUDE
        (text "LP reward index numerator"))
      let numerator ← attempt (checkedMoveU256Add magnified epoch.indexRemainder
        (text "LP reward index numerator with remainder"))
      let increment ← attempt (divide numerator epoch.totalShares)
      let expectedIndex ← attempt (checkedMoveU256Add epoch.index increment
        (text "LP reward index"))
      let expectedRemainder ← attempt (modulo numerator epoch.totalShares)
      let lifetimeReceived ← attempt (checkedMoveU256Add epoch.lifetimeReceived event.received
        (text "LP lifetime received"))
      let nextEpoch :=
        { epoch with
          index := event.newIndex
          indexRemainder := event.indexRemainder
          lifetimeReceived }
      let calculatedRounding ← attempt (epochRounding nextEpoch
        (text "LP index rounding reserve"))
      alertIf (event.previousIndex ≠ epoch.index ∨ event.newIndex ≠ expectedIndex
          ∨ event.indexRemainder ≠ expectedRemainder ∨ event.totalShares ≠ epoch.totalShares
          ∨ event.roundingReserve ≠ calculatedRounding) base .LP_ACCOUNTING
        "LP reward index or rounding receipt disagrees with independent arithmetic."
        (slashed [.int epoch.index, .int expectedIndex, .int expectedRemainder,
          .int epoch.totalShares, .int calculatedRounding])
        (slashed [.int event.previousIndex, .int event.newIndex, .int event.indexRemainder,
          .int event.totalShares, .int event.roundingReserve])
      updateEpoch { nextEpoch with roundingReserve := calculatedRounding }

def lpRewardQuarantined (events : List ProtocolEvent) (base : EventBase)
    (event : LpRewardQuarantinedEvent) : Replay Unit :=
  inEpoch base event.epoch fun epoch => do
    consumeRoute events base event.epoch event.amount event.rewardVault
      "LP quarantine receipt has no preceding equal custody route."
    let next ← gets Context.next
    alertIf (next.activeLpEpoch ≠ some event.epoch ∨ epoch.status ≠ .active
        ∨ epoch.totalShares ≠ 0 ∨ epoch.rewardVault ≠ event.rewardVault) base .LP_ACCOUNTING
      "LP reward quarantine is valid only for the empty active epoch and its bound vault."
      none none
    let unallocatedRewards := epoch.unallocatedRewards + event.amount
    alertIf (unallocatedRewards ≠ event.unallocatedRewards) base .LP_ACCOUNTING
      "LP quarantine cumulative unallocated amount disagrees with replay."
      (shown unallocatedRewards) (shown event.unallocatedRewards)
    let lifetimeReceived ← attempt (checkedMoveU256Add epoch.lifetimeReceived event.amount
      (text "quarantined LP lifetime received"))
    let nextEpoch := { epoch with lifetimeReceived, unallocatedRewards, quarantined := true }
    let roundingReserve ← attempt (epochRounding nextEpoch
      (text "quarantined LP rounding reserve"))
    updateEpoch { nextEpoch with roundingReserve }

/-- A payout attaches to the wallet at the current global index. -/
def lpRewardsClaimed (base : EventBase) (event : LpRewardsClaimedEvent) : Replay Unit :=
  inEpoch base event.epoch fun epoch => do
    let current := lpPositionOrEmpty event.owner epoch.positions
    let pending ← attempt (lpPositionPending current epoch)
    alertIf (event.amount ≤ 0 ∨ pending < event.amount) base .LP_ACCOUNTING
      "LP claim exceeds independently calculated pending rewards."
      (shown pending) (shown event.amount)
    let claimed ← attempt (checkedMoveU256Add current.claimed event.amount
      (text "LP position cumulative claim"))
    alertIf (claimed ≠ event.totalClaimed) base .POSITION_ACCOUNTING
      "LP position cumulative claim disagrees with replay."
      (shown claimed) (shown event.totalClaimed)
    let lifetimeClaimed ← attempt (checkedMoveU256Add epoch.lifetimeClaimed event.amount
      (text "LP lifetime claimed"))
    updateEpoch
      { epoch with
        positions := epoch.positions.set event.owner { current with claimed }
        lifetimeClaimed }
    adjustWalletAsset event.owner .trfl event.amount base

/-! ## The pool -/

def swapExecuted (base : EventBase) (event : SwapExecutedEvent) : Replay Unit := do
  let debited ← gets Context.sellWalletDebited
  if event.direction = .sell ∧ debited = false then
    debitSeller base event.account event.grossAmount
  else pure ()
  if event.direction = .sell then
    adjustWalletAsset event.account .tusd event.netUserReceipt base
  else do
    adjustWalletAsset event.account .tusd (-event.grossAmount) base
    adjustWalletAsset event.account .trfl event.netUserReceipt base
  let next ← gets Context.next
  let sell := event.direction = .sell
  let pool := next.pool
  let expectedReflectionFee :=
    ((if sell then event.grossAmount else event.grossPoolOutput) * next.feeBps).tdiv
      BPS_DENOMINATOR
  let expectedReserveInput :=
    if sell then event.grossAmount - event.reflectionFee else event.grossAmount
  let expectedTrflReserve :=
    if sell then pool.trflReserve + event.netReserveInput
    else pool.trflReserve - event.grossPoolOutput
  let expectedTusdReserve :=
    if sell then pool.tusdReserve - event.grossPoolOutput
    else pool.tusdReserve + event.netReserveInput
  let ammGrossInput := if sell then event.netReserveInput else event.grossAmount
  let invariantInput := (ammGrossInput * (BPS_DENOMINATOR - pool.ammFeeBps)).tdiv BPS_DENOMINATOR
  let expectedAmmFee := ammGrossInput - invariantInput
  let reserveIn := if sell then pool.trflReserve else pool.tusdReserve
  let reserveOut := if sell then pool.tusdReserve else pool.trflReserve
  let expectedGrossOutput ← attempt (divide (reserveOut * invariantInput)
    (reserveIn + invariantInput))
  let expectedNetReceipt :=
    if sell then expectedGrossOutput else expectedGrossOutput - expectedReflectionFee
  alertIf (event.reflectionFee ≠ expectedReflectionFee
      ∨ event.netReserveInput ≠ expectedReserveInput ∨ event.ammFee ≠ expectedAmmFee
      ∨ event.grossPoolOutput ≠ expectedGrossOutput
      ∨ event.netUserReceipt ≠ expectedNetReceipt) base .FEE_FORMULA
    "Swap receipt disagrees with reflection/AMM fee and constant-product arithmetic." none none
  alertIf (event.trflReserveAfter ≠ expectedTrflReserve
      ∨ event.tusdReserveAfter ≠ expectedTusdReserve) base .POOL_RESERVES
    "Swap reserve movement does not match its direction and amounts."
    (slashed [.int expectedTrflReserve, .int expectedTusdReserve])
    (slashed [.int event.trflReserveAfter, .int event.tusdReserveAfter])
  setNext fun next =>
    { next with
      pool :=
        { next.pool with
          trflReserve := event.trflReserveAfter
          tusdReserve := event.tusdReserveAfter } }

/-- The three liquidity receipts, under the rules that `prior` was in. -/
def liquidityReplayed (prior : ProtocolProjection) (base : EventBase) (kind : LiquidityKind)
    (event : LiquidityEvent) : Replay Unit := do
  let next ← gets Context.next
  alertIf (next.packageVersion = "testnet-v0.2.0" ∧ kind = .seeded
      ∧ (event.epoch ≠ 1 ∨ next.lifecycle ≠ some .LIVE ∨ next.pool.seeded = true))
    base .EVENT_DATA
    "v0.2 permits only the launch transaction's first and only liquidity seed." none none
  let oneSidedRemoval := kind.isRemoval = true
    ∧ ¬ (event.trflAmount = 0 ↔ event.tusdAmount = 0)
  alertIf (event.lpShares ≤ 0 ∨ event.trflAmount < 0 ∨ event.tusdAmount < 0
      ∨ (event.trflAmount = 0 ∧ event.tusdAmount = 0)
      ∨ (kind.isRemoval = false ∧ (event.trflAmount = 0 ∨ event.tusdAmount = 0))
      ∨ (oneSidedRemoval ∧ prior.pool.shutdownMode = false)) base .EVENT_DATA
    "Liquidity shares must be positive; both assets are required except a one-sided, non-empty shutdown removal."
    none none
  let sign : ℤ := if kind.isRemoval = true then -1 else 1
  let expectedTrfl := next.pool.trflReserve + sign * event.trflAmount
  let expectedTusd := next.pool.tusdReserve + sign * event.tusdAmount
  alertIf (event.trflReserveAfter ≠ expectedTrfl ∨ event.tusdReserveAfter ≠ expectedTusd)
    base .POOL_RESERVES
    "Liquidity receipt reserve totals disagree with replay."
    (slashed [.int expectedTrfl, .int expectedTusd])
    (slashed [.int event.trflReserveAfter, .int event.tusdReserveAfter])
  match kind with
  | .seeded => pure ()
  | .added => do
      adjustWalletAsset event.provider .trfl (-event.trflAmount) base
      adjustWalletAsset event.provider .tusd (-event.tusdAmount) base
  | .removed _ => do
      if 0 < event.trflAmount then
        adjustWalletAsset event.provider .trfl event.trflAmount base
      else pure ()
      if 0 < event.tusdAmount then
        adjustWalletAsset event.provider .tusd event.tusdAmount base
      else pure ()
  setNext fun next =>
    { next with
      pool :=
        { next.pool with
          trflReserve := event.trflReserveAfter
          tusdReserve := event.tusdReserveAfter
          seeded :=
            if kind = .seeded then true
            else if kind = .removed true then false
            else next.pool.seeded
          shutdownMode := if kind = .removed true then false else next.pool.shutdownMode } }

/-! ## Configuration

The events of an earlier release. The current one emits none of them and a
replay of it accepts none. -/

/-- The alert of an event that `testnet-v0.2.0` does not have. -/
def alertUnsupported (base : EventBase) (message : String) : Replay Unit := do
  let next ← gets Context.next
  alertIf (next.packageVersion = "testnet-v0.2.0") base .EVENT_DATA message none none

def feeConfigurationChanged (base : EventBase) (oldFeeBps newFeeBps : ℤ) : Replay Unit := do
  let next ← gets Context.next
  if next.packageVersion = "testnet-v0.2.0" then
    alertUnsupported base "v0.2 does not permit fee changes after creation."
  else
    alertIf (oldFeeBps ≠ next.feeBps ∨ 100 < newFeeBps) base .EVENT_DATA
      "Fee configuration does not continue replayed state or exceeds 100 bps." none none
  setNext fun next => { next with feeBps := newFeeBps }

def faucetPauseChanged (base : EventBase) (paused : Bool) : Replay Unit := do
  alertUnsupported base "v0.2 has no faucet pause authority."
  setNext fun next => { next with faucetPaused := paused }

def swapLimitsChanged (base : EventBase) (ammFeeBps maximumGrossSwap maximumReserveBps : ℤ) :
    Replay Unit := do
  alertUnsupported base "v0.2 swap limits are immutable and have no configuration event."
  setNext fun next =>
    { next with pool := { next.pool with ammFeeBps, maximumGrossSwap, maximumReserveBps } }

def liquidityLimitsChanged (base : EventBase) (maximumRflContribution maximumTusdContribution
    maximumNonFinalWithdrawalShareBps : ℤ) : Replay Unit := do
  alertUnsupported base "v0.2 liquidity limits are immutable and have no configuration event."
  alertIf (maximumRflContribution ≤ 0 ∨ maximumTusdContribution ≤ 0
      ∨ maximumNonFinalWithdrawalShareBps ≤ 0
      ∨ BPS_DENOMINATOR < maximumNonFinalWithdrawalShareBps) base .EVENT_DATA
    "Liquidity contribution limits must be positive and the non-final withdrawal share limit must be between 1 and 10,000 bps."
    none none
  setNext fun next =>
    { next with
      pool :=
        { next.pool with
          maximumRflContribution
          maximumTusdContribution
          maximumNonFinalWithdrawalShareBps } }

def pauseStateChanged (base : EventBase) (swapsPaused claimsPaused : Bool) : Replay Unit := do
  alertUnsupported base "v0.2 has no core pause authority."
  setNext fun next => { next with swapsPaused, claimsPaused }

def poolPauseChanged (base : EventBase)
    (poolPaused liquidityPaused lpClaimsPaused shutdownMode : Bool) : Replay Unit := do
  alertUnsupported base "v0.2 has no pool pause or shutdown authority."
  setNext fun next =>
    { next with
      pool := { next.pool with poolPaused, liquidityPaused, lpClaimsPaused, shutdownMode } }

/-- The administrator of a scope, `none` for a scope that is not supported. -/
def OperationalAdmins.get? (admins : OperationalAdmins) (scope : String) :
    Option (Option Address) :=
  if scope = "reflection-core" then some admins.reflectionCore
  else if scope = "test-assets" then some admins.testAssets
  else if scope = "test-amm" then some admins.testAmm
  else none

def OperationalAdmins.set (admins : OperationalAdmins) (scope : String) (admin : Address) :
    OperationalAdmins :=
  if scope = "reflection-core" then { admins with reflectionCore := some admin }
  else if scope = "test-assets" then { admins with testAssets := some admin }
  else { admins with testAmm := some admin }

def operationalAdminChanged (base : EventBase) (scope : String)
    (oldOperationalAdmin newOperationalAdmin : Address) : Replay Unit := do
  alertUnsupported base "v0.2 has no operational administrator or authority handoff."
  let next ← gets Context.next
  let admins := next.operationalAdmins
  match admins.get? scope with
  | none =>
      -- Event sources are a trust boundary: an unknown scope is no role by default.
      file (problem base .OPERATIONAL_ADMIN
        (text "Operational-admin event has an unsupported authority scope.")
        (text "reflection-core|test-assets|test-amm") (text scope))
  | some previous => do
      let initializing := previous = none ∧ oldOperationalAdmin = .zero
      let continuesAuthorityChain := initializing ∨ previous = some oldOperationalAdmin
      let hasPermanentExclusion := next.protocolExcludedStores.has newOperationalAdmin = true
      let alignedToCore :=
        scope = "reflection-core" ∨ admins.reflectionCore = some newOperationalAdmin
      alertIf (¬ continuesAuthorityChain ∨ newOperationalAdmin = .zero
          ∨ (¬ initializing ∧ (¬ hasPermanentExclusion ∨ ¬ alignedToCore)))
        base .OPERATIONAL_ADMIN
        "Operational-admin handoff breaks authority continuity, lacks permanent primary-store exclusion, is not aligned to core, or targets zero."
        (some [.address ((previous.or admins.reflectionCore).getD oldOperationalAdmin)])
        (some [.address newOperationalAdmin])
      let operationalAdmins := admins.set scope newOperationalAdmin
      setNext fun next =>
        { next with
          operationalAdmins
          deploymentReady := operationalAdmins.reflectionCore.isSome
            && operationalAdmins.testAssets.isSome && operationalAdmins.testAmm.isSome }

/-! ## One event -/

/-- The `switch` of the replay loop. `prior` is the projection before the group
and `events` is the group. -/
def replayEvent (prior : ProtocolProjection) (events : List ProtocolEvent)
    (event : ProtocolEvent) : Replay Unit :=
  let base := event.toEventBase
  match event.body with
  | .ProtocolInitialized event => protocolInitialized base event
  | .TokenCreated event => tokenCreated base event
  | .LaunchSealed event => launchSealed base event
  | .PoolClosed event => poolClosed base event
  | .ProtocolPrimaryStoreExcluded account store remainingSlots =>
      protocolPrimaryStoreExcluded base account store remainingSlots
  | .OperationalPrimaryStoreExcluded account store =>
      operationalPrimaryStoreExcluded base account store
  | .WalletRegistered event => walletRegistered base event
  | .PositionCreated account => positionCreated base account
  | .FaucetGrant account asset amount => faucetGrant base account asset amount
  | .FaucetConfigured trflGrant tusdGrant cooldownSeconds =>
      faucetConfigured base trflGrant tusdGrant cooldownSeconds
  | .PoolReserveBound reserveStore custodian => poolReserveBound base reserveStore custodian
  | .WalletTransfer sender recipient _ amount =>
      walletTransfer events base sender recipient amount
  | .EligibleBalanceDebited account amount => eligibleBalanceDebited base account amount
  | .EligibleBalanceCredited account amount => eligibleBalanceCredited base account amount
  | .RewardsMaterialized event => materializeWallet base event
  | .RewardsClaimed event => rewardsClaimed event
  | .CustodyAdapterRegistered event => custodyAdapterRegistered base event
  | .CustodyEpochRouteOpened event => custodyEpochRouteOpened base event
  | .ReflectionFeeCollected event => reflectionFeeCollected events base event
  | .ReflectionIndexAdvanced event => reflectionIndexAdvanced base event
  | .CustodySharesChanged event => custodySharesChanged base event
  | .CustodyRewardsRouted event => custodyRewardsRouted base event
  | .LpEpochOpened event => lpEpochOpened base event
  | .LpEpochStatusChanged event => lpEpochStatusChanged base event
  | .LpFractionalResidueRetired event => lpFractionalResidueRetired events base event
  | .LpEpochTerminalDustClassified event => lpEpochTerminalDustClassified base event
  | .LpSharesChanged event => adjustLpShares base event
  | .LpSharesTransferred event => lpSharesTransferred base event
  | .LpRewardIndexAdvanced event => lpRewardIndexAdvanced events base event
  | .LpRewardQuarantined event => lpRewardQuarantined events base event
  | .LpRewardsClaimed event => lpRewardsClaimed base event
  | .SwapExecuted event => swapExecuted base event
  | .LiquiditySeeded event => liquidityReplayed prior base .seeded event
  | .LiquidityAdded event => liquidityReplayed prior base .added event
  | .LiquidityRemoved event finalExit =>
      liquidityReplayed prior base (.removed finalExit) event
  | .FeeConfigurationChanged oldFeeBps newFeeBps =>
      feeConfigurationChanged base oldFeeBps newFeeBps
  | .FaucetPauseChanged paused => faucetPauseChanged base paused
  | .SwapLimitsChanged ammFeeBps maximumGrossSwap maximumReserveBps =>
      swapLimitsChanged base ammFeeBps maximumGrossSwap maximumReserveBps
  | .LiquidityLimitsChanged maximumRflContribution maximumTusdContribution
      maximumNonFinalWithdrawalShareBps =>
      liquidityLimitsChanged base maximumRflContribution maximumTusdContribution
        maximumNonFinalWithdrawalShareBps
  | .PauseStateChanged swapsPaused claimsPaused =>
      pauseStateChanged base swapsPaused claimsPaused
  | .PoolPauseChanged poolPaused liquidityPaused lpClaimsPaused shutdownMode =>
      poolPauseChanged base poolPaused liquidityPaused lpClaimsPaused shutdownMode
  | .OperationalAdminChanged scope oldOperationalAdmin newOperationalAdmin =>
      operationalAdminChanged base scope oldOperationalAdmin newOperationalAdmin
  | .Unknown type =>
      -- Ignoring it would advance the durable cursor past unaudited state.
      file (problem base .EVENT_DATA
        (text "Event has an unsupported runtime type and cannot be checkpointed.")
        (text "known ProtocolEvent type") (text type))

end CedraReflect.indexer
