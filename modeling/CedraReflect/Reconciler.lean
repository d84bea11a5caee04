/-
`reconciler.ts` of the indexer: the replayed books against the views of the
chain at the same ledger version.

A comparison that fails files an alert and the next one is made all the same;
only the arithmetic throws. So a reconciliation is an audited computation
without a state, and it is clean exactly when every comparison holds. The clock
is read as one number, and the observed lists become maps before they are
compared, as in the source.
-/
import CedraReflect.ReduceGroup
import CedraReflect.Snapshot

set_option autoImplicit false
set_option linter.constructorNameAsVariable false

namespace CedraReflect.indexer

open Audited

/-! ## What is observed -/

structure ObservedPosition where
  account : Address
  rawTrfl : ℤ
  correction : ℤ
  claimed : ℤ
deriving DecidableEq

structure ObservedLpPosition where
  owner : Address
  shares : ℤ
  correction : ℤ
  claimed : ℤ
deriving DecidableEq

structure ObservedLpEpoch where
  epoch : ℤ
  stateId : Address
  status : LpEpochStatus
  rewardVault : Address
  rewardVaultBalance : ℤ
  index : ℤ
  indexRemainder : ℤ
  totalShares : ℤ
  aggregateCorrection : ℤ
  unallocatedRewards : ℤ
  roundingReserve : ℤ
  terminalRoundingBaseUnits : ℤ
  retiredResidueMagnified : ℤ
  lifetimeReceived : ℤ
  lifetimeClaimed : ℤ
  quarantined : Bool
  indexedLiability : ℤ
  positions : List ObservedLpPosition
deriving DecidableEq

/-- Values fetched from on-chain views at one finalized ledger version. -/
structure ObservedAccountingSnapshot where
  chainId : ℤ
  ledgerVersion : ℤ
  deploymentId : String
  networkLabel : String
  tokenMetadata : Address
  protocolExclusionsRemaining : ℤ
  registeredWalletCount : ℤ
  registeredWalletAccounts : List Address
  automaticMaterialization : Bool
  lifecycle : Option ProtocolLifecycle
  reflectionFeeBps : Option ℤ
  rewardVault : Address
  rewardVaultBalance : ℤ
  reflectionLiability : ℤ
  currentIndex : ℤ
  indexRemainder : ℤ
  eligibleSupply : ℤ
  aggregateCorrection : ℤ
  unallocatedFees : ℤ
  roundingReserve : ℤ
  lifetimeSwapFees : ℤ
  lifetimeMaterialized : ℤ
  lifetimeCustodyRouted : ℤ
  custodyAdapterId : ℤ
  custodyReserveStore : Address
  poolRflReserveStore : Address
  poolUsdReserveStore : Address
  mockUsdPoolReserve : Address
  custodyReserveBalance : ℤ
  custodyShares : ℤ
  custodyCorrection : ℤ
  custodyClaimed : ℤ
  custodyPendingRewards : ℤ
  custodyActiveRouteEpoch : ℤ
  custodyActiveLpRewardVault : Address
  trflReserve : ℤ
  tusdReserve : ℤ
  ammFeeBps : ℤ
  maximumGrossSwap : ℤ
  maximumReserveBps : ℤ
  maximumRflContribution : ℤ
  maximumTusdContribution : ℤ
  maximumNonFinalWithdrawalShareBps : ℤ
  activeLpEpoch : Option ℤ
  lpEpochs : List ObservedLpEpoch
  positions : List ObservedPosition
  packageVersion : String
  swapsPaused : Bool
  claimsPaused : Bool
  faucetPaused : Bool
  faucetTrflGrant : ℤ
  faucetTusdGrant : ℤ
  faucetCooldownSeconds : ℤ
  poolPaused : Bool
  liquidityPaused : Bool
  lpClaimsPaused : Bool
  shutdownMode : Bool
  poolSeeded : Bool
  coreOperationalAdmin : Option Address
  faucetOperationalAdmin : Option Address
  ammOperationalAdmin : Option Address

structure LpReconciliationResult where
  epoch : ℤ
  expectedVaultBalance : ℤ
  calculatedLiability : ℤ
  backingSurplus : ℤ

structure ReconciliationReport where
  ledgerVersion : ℤ
  expectedRewardVaultBalance : ℤ
  calculatedReflectionLiability : ℤ
  backingSurplus : ℤ
  lpEpochs : List LpReconciliationResult
  alerts : List CriticalAlert
  reconciled : Bool

/-! ## Text -/

/-- How addresses are written, and so how a list of them is sorted. -/
class Spelling where
  spell : Address → String

def LpEpochStatus.shown : LpEpochStatus → Fragment
  | active => .lit "active"
  | claimOnly => .lit "claim-only"

def ProtocolLifecycle.shown : ProtocolLifecycle → Fragment
  | CONFIGURING => .lit "CONFIGURING"
  | LIVE => .lit "LIVE"
  | CLOSED => .lit "CLOSED"

/-- `value === null ? "none" : String(value)`. -/
def orNone {α : Type} (show' : α → Fragment) (value : Option α) : Fragment :=
  (value.map show').getD (.lit "none")

/-- `value ?? "missing"`. -/
def orMissing {α : Type} (show' : α → Fragment) (value : Option α) : Fragment :=
  (value.map show').getD (.lit "missing")

/-! ## Alerts -/

abbrev Reconciling : Type → Type := Audited Unit CriticalAlert Text

section

variable (now : ℤ) (cursor : Option EventCursor)

def alert (code : AlertCode) (message : String) (expected observed scope : Text) :
    CriticalAlert :=
  { id := [.lit "reconcile:", .lit code.name, .lit ":"] ++ scope ++ [.lit ":",
      orNone (fun cursor => .int cursor.ledgerVersion) cursor, .lit ":",
      orNone (fun cursor => .int cursor.eventIndex) cursor]
    severity := .critical
    code
    message := text message
    detectedAtUnixMilliseconds := now
    cursor
    expected := some expected
    observed := some observed }

/-- `if (p) alerts.push(alert(..))`. -/
def raiseIf (p : Prop) [Decidable p] (code : AlertCode) (message : String)
    (expected observed scope : Text) : Reconciling Unit :=
  fileIf p (alert now cursor code message expected observed scope)

/-! ## One epoch -/

/-- `lp-${observed.epoch}`. -/
def lpScope (epoch : ℤ) : Text := [.lit "lp-", .int epoch]

/-- The last of the listed elements with a key, as in a map made of the list. -/
def lastWith {α κ : Type} [DecidableEq κ] (key : α → κ) (list : List α) (k : κ) : Option α :=
  (mapOf (list.map fun element => (key element, element))).get? k

/-- Every LP position of the epoch against the observed ones, in both directions. -/
def compareLpPositions (observed : ObservedLpEpoch) (expected : IndexedLpEpoch)
    (replayedRegisteredAccounts observedRegisteredAccounts : List Address) : Reconciling Unit := do
  let scope := lpScope observed.epoch
  forEach expected.positions.entries fun (owner, position) => do
    let chain := lastWith ObservedLpPosition.owner observed.positions owner
    raiseIf now cursor (0 < position.shares ∧ owner ∉ replayedRegisteredAccounts)
      .WALLET_REGISTRATION
      "Replayed positive LP ownership is not bound to the registered-wallet set."
      (text "registered LP owner") [.address owner]
      (scope ++ [.lit "-", .address owner, .lit "-replayed-registration"])
    raiseIf now cursor
      (chain.map (fun chain => (chain.shares, chain.correction, chain.claimed))
        ≠ some (position.shares, position.correction, position.claimed))
      .POSITION_ACCOUNTING
      "LP position differs from independently replayed ownership and history."
      (slashed [.int position.shares, .int position.correction, .int position.claimed])
      (match chain with
        | none => text "missing"
        | some chain => slashed [.int chain.shares, .int chain.correction, .int chain.claimed])
      (scope ++ [.lit "-", .address owner])
  forEach observed.positions fun position =>
    raiseIf now cursor (0 < position.shares ∧ position.owner ∉ observedRegisteredAccounts)
      .WALLET_REGISTRATION
      "Observed positive LP ownership is not bound to the finalized registered-wallet set."
      (text "registered LP owner") [.address position.owner]
      (scope ++ [.lit "-", .address position.owner, .lit "-observed-registration"])
  -- The keys of `observedPositions` that the first loop did not delete.
  forEach ((mapOf (observed.positions.map fun position => (position.owner, position))).keys.filter
      fun owner => expected.positions.has owner = false) fun owner =>
    raiseIf now cursor True .POSITION_ACCOUNTING "Observed LP position is absent from replay."
      (text "absent") [.address owner] (scope ++ [.lit "-", .address owner])

/-- The fields of an epoch that must agree, as replayed. -/
def IndexedLpEpoch.compared (epoch : IndexedLpEpoch) : List Fragment :=
  [epoch.status.shown, .int epoch.index, .int epoch.indexRemainder, .int epoch.totalShares,
    .int epoch.aggregateCorrection, .int epoch.unallocatedRewards, .int epoch.roundingReserve,
    .int (epoch.terminalRoundingBaseUnits.getD 0), .int epoch.retiredResidueMagnified,
    .int epoch.lifetimeReceived, .int epoch.lifetimeClaimed, .bool epoch.quarantined]

/-- The fields of an epoch that must agree, as observed. -/
def ObservedLpEpoch.compared (epoch : ObservedLpEpoch) : List Fragment :=
  [epoch.status.shown, .int epoch.index, .int epoch.indexRemainder, .int epoch.totalShares,
    .int epoch.aggregateCorrection, .int epoch.unallocatedRewards, .int epoch.roundingReserve,
    .int epoch.terminalRoundingBaseUnits, .int epoch.retiredResidueMagnified,
    .int epoch.lifetimeReceived, .int epoch.lifetimeClaimed, .bool epoch.quarantined]

def compareLpEpoch (projection : ProtocolProjection) (observed : ObservedLpEpoch)
    (replayedRegisteredAccounts observedRegisteredAccounts : List Address) :
    Reconciling (Option LpReconciliationResult) :=
  let scope := lpScope observed.epoch
  match projection.lpEpochs.get? observed.epoch with
  | none => do
      raiseIf now cursor True .LP_ACCOUNTING
        "Observed chain state contains an LP epoch absent from replay."
        (text "absent") (shown observed.epoch) scope
      pure none
  | some expected => do
      let calculatedLiability ← attempt (lpIndexedLiability expected)
      let expectedVaultBalance ← attempt (expectedLpVaultBalance expected)
      let backingSurplus := observed.rewardVaultBalance - calculatedLiability
      raiseIf now cursor (observed.rewardVault ≠ expected.rewardVault) .VAULT_BINDING
        "LP epoch reward-vault identifier differs from its event-bound vault."
        [.address expected.rewardVault] [.address observed.rewardVault] scope
      raiseIf now cursor (observed.stateId ≠ expected.stateId) .IDENTIFIER_REUSE
        "LP epoch state-object identifier differs from immutable opening evidence."
        [.address expected.stateId] [.address observed.stateId] scope
      raiseIf now cursor (observed.rewardVaultBalance ≠ expectedVaultBalance) .LP_VAULT_BACKING
        "Individual LP vault balance differs from routed rewards less claims."
        (shown expectedVaultBalance) (shown observed.rewardVaultBalance) scope
      raiseIf now cursor (observed.indexedLiability ≠ calculatedLiability) .LP_ACCOUNTING
        "LP indexed liability differs from share/index/correction/claim arithmetic."
        (shown calculatedLiability) (shown observed.indexedLiability) scope
      let indexedAndUnallocated ← attempt (checkedMoveU256Add observed.indexedLiability
        observed.unallocatedRewards (text "observed LP indexed and unallocated buckets"))
      let observedLpBuckets ← attempt (checkedMoveU256Add indexedAndUnallocated
        observed.roundingReserve (text "observed LP vault buckets"))
      raiseIf now cursor (observed.rewardVaultBalance ≠ observedLpBuckets) .LP_VAULT_BACKING
        "Observed LP vault does not equal indexed liability plus unallocated and rounding buckets."
        (shown observedLpBuckets) (shown observed.rewardVaultBalance) scope
      raiseIf now cursor (observed.compared ≠ expected.compared) .LP_ACCOUNTING
        "LP epoch accounting fields disagree with event replay."
        (slashed expected.compared) (slashed observed.compared) scope
      compareLpPositions now cursor observed expected replayedRegisteredAccounts
        observedRegisteredAccounts
      pure (some ⟨observed.epoch, expectedVaultBalance, calculatedLiability, backingSurplus⟩)

/-- `observed.lpEpochs.map(..).filter((result) => result !== null)`. -/
def compareLpEpochs (projection : ProtocolProjection)
    (replayedRegisteredAccounts observedRegisteredAccounts : List Address) :
    List ObservedLpEpoch → Reconciling (List LpReconciliationResult)
  | [] => pure []
  | epoch :: epochs => do
      let result ← compareLpEpoch now cursor projection epoch replayedRegisteredAccounts
        observedRegisteredAccounts
      let results ← compareLpEpochs projection replayedRegisteredAccounts
        observedRegisteredAccounts epochs
      pure (result.toList ++ results)

/-! ## The comparisons, in the order of the source -/

def reconcileDeployment (projection : ProtocolProjection) (observed : ObservedAccountingSnapshot) :
    Reconciling Unit :=
  raiseIf now cursor (projection.chainId ≠ CEDRA_TESTNET_CHAIN_ID
      ∨ observed.chainId ≠ projection.chainId ∨ observed.deploymentId ≠ projection.deploymentId
      ∨ observed.networkLabel ≠ projection.networkLabel
      ∨ projection.tokenMetadata ≠ some observed.tokenMetadata
      ∨ observed.protocolExclusionsRemaining ≠ projection.protocolExclusionsRemaining)
    .DEPLOYMENT_IDENTITY
    "Chain, registry identity, token metadata, or finite exclusion-bootstrap state disagrees with initialization evidence."
    (slashed [.int projection.chainId, .lit projection.deploymentId, .lit projection.networkLabel,
      orNone .address projection.tokenMetadata, .int projection.protocolExclusionsRemaining])
    (slashed [.int observed.chainId, .lit observed.deploymentId, .lit observed.networkLabel,
      .address observed.tokenMetadata, .int observed.protocolExclusionsRemaining])
    (text "global")

/-- The count and the set of registered wallets agree. -/
def registrationsMatch (projection : ProtocolProjection) (observed : ObservedAccountingSnapshot) :
    Bool :=
  let observedSize := observed.registeredWalletAccounts.dedup.length
  observed.registeredWalletAccounts.length = observedSize
    ∧ projection.registeredWalletCount = projection.registeredWallets.size
    ∧ observed.registeredWalletCount = projection.registeredWalletCount
    ∧ observedSize = projection.registeredWallets.size
    ∧ ∀ account ∈ projection.registeredWallets.keys, account ∈ observed.registeredWalletAccounts

def sortAddresses [Spelling] (accounts : List Address) : List Address :=
  accounts.mergeSort fun left right => Spelling.spell left ≤ Spelling.spell right

/-- A count and the accounts counted, sorted. -/
def registrationTuple [Spelling] (count : ℤ) (accounts : List Address) : Text :=
  slashed (.int count :: (sortAddresses accounts).map .address)

def reconcileRegistrations [Spelling] (projection : ProtocolProjection)
    (observed : ObservedAccountingSnapshot) : Reconciling Unit :=
  raiseIf now cursor (registrationsMatch projection observed = false) .WALLET_REGISTRATION
    "Finalized wallet registration count/set disagrees with exact-once event replay."
    (registrationTuple projection.registeredWalletCount projection.registeredWallets.keys)
    (registrationTuple observed.registeredWalletCount observed.registeredWalletAccounts)
    (text "registered-wallets")

/-- One authority of a deployment before `v0.2`. -/
def reconcileAuthority (key : String) (expected observed : Option Address) : Reconciling Unit :=
  match expected with
  | none =>
      raiseIf now cursor True .OPERATIONAL_ADMIN
        "Legacy v0.1 deployment is missing an operational-admin initialization event."
        (text "evented non-zero authority") [orMissing .address observed] (text key)
  | some expected =>
      raiseIf now cursor (some expected ≠ observed) .OPERATIONAL_ADMIN
        "Legacy v0.1 on-chain operational admin differs from the evented publisher handoff."
        [.address expected] [orMissing .address observed] (text key)

/-- `authoritiesComplete` of the indexer and `allAuthorityHistoriesPresent` here. -/
def OperationalAdmins.complete (admins : OperationalAdmins) : Bool :=
  admins.reflectionCore.isSome && admins.testAssets.isSome && admins.testAmm.isSome

def reconcileAuthorities (projection : ProtocolProjection)
    (observed : ObservedAccountingSnapshot) : Reconciling Unit :=
  let admins := projection.operationalAdmins
  if isV02 projection.packageVersion = true then
    raiseIf now cursor (projection.deploymentReady = false
        ∨ projection.lifecycle = some .CONFIGURING) .EVENT_DATA
      "v0.2 deployment readiness requires the ownerless launch seal."
      (text "LIVE|CLOSED") [orMissing ProtocolLifecycle.shown projection.lifecycle]
      (text "deployment-readiness")
  else do
    reconcileAuthority now cursor "reflectionCore" admins.reflectionCore
      observed.coreOperationalAdmin
    reconcileAuthority now cursor "testAssets" admins.testAssets observed.faucetOperationalAdmin
    reconcileAuthority now cursor "testAmm" admins.testAmm observed.ammOperationalAdmin
    raiseIf now cursor (projection.deploymentReady ≠ admins.complete
        ∨ projection.deploymentReady = false) .OPERATIONAL_ADMIN
      "Legacy v0.1 deployment readiness requires complete core, faucet, and AMM authority histories."
      [.bool true] [.bool projection.deploymentReady] (text "deployment-readiness")

def reconcileCore (projection : ProtocolProjection) (observed : ObservedAccountingSnapshot)
    (expectedRewardVaultBalance calculatedReflectionLiability : ℤ) : Reconciling Unit := do
  raiseIf now cursor (projection.rewardVault ≠ some observed.rewardVault) .VAULT_BINDING
    "Core reward-vault identifier differs from initialization evidence."
    [orMissing .address projection.rewardVault] [.address observed.rewardVault] (text "core")
  raiseIf now cursor (observed.rewardVaultBalance ≠ expectedRewardVaultBalance) .VAULT_BACKING
    "Core reward-vault balance differs from lifetime fees less wallet materializations and custody routes."
    (shown expectedRewardVaultBalance) (shown observed.rewardVaultBalance) (text "core")
  raiseIf now cursor (observed.reflectionLiability ≠ calculatedReflectionLiability)
    .REFLECTION_LIABILITY
    "Core indexed liability differs from global shares/index/correction less settled totals."
    (shown calculatedReflectionLiability) (shown observed.reflectionLiability) (text "core")
  let indexedAndUnallocated ← attempt (checkedMoveU256Add observed.reflectionLiability
    observed.unallocatedFees (text "observed core indexed and unallocated buckets"))
  let observedCoreBuckets ← attempt (checkedMoveU256Add indexedAndUnallocated
    observed.roundingReserve (text "observed core vault buckets"))
  raiseIf now cursor (observed.rewardVaultBalance ≠ observedCoreBuckets) .VAULT_BACKING
    "Observed core vault does not equal indexed liability plus unallocated and rounding buckets."
    (shown observedCoreBuckets) (shown observed.rewardVaultBalance) (text "core-buckets")
  raiseIf now cursor (observed.currentIndex ≠ projection.currentIndex
      ∨ observed.indexRemainder ≠ projection.indexRemainder) .GLOBAL_INDEX
    "On-chain global reflection index or remainder disagrees with replay."
    (slashed [.int projection.currentIndex, .int projection.indexRemainder])
    (slashed [.int observed.currentIndex, .int observed.indexRemainder]) (text "global")
  raiseIf now cursor (observed.eligibleSupply ≠ projection.eligibleSupply) .ELIGIBLE_SUPPLY
    "On-chain total global shares disagree with replay."
    (shown projection.eligibleSupply) (shown observed.eligibleSupply) (text "global")
  raiseIf now cursor (observed.aggregateCorrection ≠ projection.aggregateCorrection
      ∨ observed.unallocatedFees ≠ projection.unallocatedFees
      ∨ observed.roundingReserve ≠ projection.roundingReserve) .CORE_ACCOUNTING
    "Core aggregate correction, unallocated, or rounding bucket disagrees with replay."
    (slashed [.int projection.aggregateCorrection, .int projection.unallocatedFees,
      .int projection.roundingReserve])
    (slashed [.int observed.aggregateCorrection, .int observed.unallocatedFees,
      .int observed.roundingReserve]) (text "global")
  raiseIf now cursor (observed.lifetimeSwapFees ≠ projection.lifetimeSwapFees
      ∨ observed.lifetimeMaterialized ≠ projection.lifetimeMaterialized
      ∨ observed.lifetimeCustodyRouted ≠ projection.lifetimeCustodyRouted) .LIFETIME_TOTAL
    "Core fee, wallet-materialization, or custody-route totals disagree with replay."
    (slashed [.int projection.lifetimeSwapFees, .int projection.lifetimeMaterialized,
      .int projection.lifetimeCustodyRouted])
    (slashed [.int observed.lifetimeSwapFees, .int observed.lifetimeMaterialized,
      .int observed.lifetimeCustodyRouted]) (text "global")

def reconcileCustody (projection : ProtocolProjection) (observed : ObservedAccountingSnapshot)
    (calculatedCustodyPending : ℤ) : Reconciling Unit := do
  let custody := projection.custody
  raiseIf now cursor (custody.adapterId ≠ some observed.custodyAdapterId
      ∨ custody.activeRouteEpoch ≠ some observed.custodyActiveRouteEpoch
      ∨ custody.activeLpRewardVault ≠ some observed.custodyActiveLpRewardVault) .VAULT_BINDING
    "Custody adapter or active epoch/vault route disagrees with registration events."
    (slashed [orNone .int custody.adapterId, orNone .int custody.activeRouteEpoch,
      orNone .address custody.activeLpRewardVault])
    (slashed [.int observed.custodyAdapterId, .int observed.custodyActiveRouteEpoch,
      .address observed.custodyActiveLpRewardVault]) (text "custody-route")
  raiseIf now cursor (observed.custodyShares ≠ custody.shares
      ∨ observed.custodyCorrection ≠ custody.correction
      ∨ observed.custodyClaimed ≠ custody.claimed
      ∨ observed.custodyPendingRewards ≠ calculatedCustodyPending) .CUSTODY_ACCOUNTING
    "Canonical custody shares, correction, settlement, or pending rewards disagree with replay."
    (slashed [.int custody.shares, .int custody.correction, .int custody.claimed,
      .int calculatedCustodyPending])
    (slashed [.int observed.custodyShares, .int observed.custodyCorrection,
      .int observed.custodyClaimed, .int observed.custodyPendingRewards]) (text "global")
  raiseIf now cursor (custody.reserveStore ≠ none
      ∧ custody.reserveStore ≠ some observed.custodyReserveStore) .VAULT_BINDING
    "Canonical reserve-store identifier differs from route evidence."
    [orNone .address custody.reserveStore] [.address observed.custodyReserveStore]
    (text "custody")
  raiseIf now cursor (observed.poolRflReserveStore ≠ observed.custodyReserveStore
      ∨ custody.reserveStore ≠ some observed.poolRflReserveStore) .VAULT_BINDING
    "AMM tRFL reserve-store view must equal the immutable custody registration."
    [orMissing .address custody.reserveStore]
    (slashed [.address observed.poolRflReserveStore, .address observed.custodyReserveStore])
    (text "pool-rfl-reserve")
  raiseIf now cursor (projection.mockUsdPoolReserve ≠ some observed.poolUsdReserveStore
      ∨ projection.mockUsdPoolReserve ≠ some observed.mockUsdPoolReserve) .VAULT_BINDING
    "AMM tUSD reserve and mock-asset settlement capability must equal the one-shot reserve event."
    [orMissing .address projection.mockUsdPoolReserve]
    (slashed [.address observed.poolUsdReserveStore, .address observed.mockUsdPoolReserve])
    (text "pool-tusd-reserve")

def reconcilePool (projection : ProtocolProjection) (observed : ObservedAccountingSnapshot) :
    Reconciling Unit := do
  let pool := projection.pool
  raiseIf now cursor (observed.trflReserve ≠ observed.custodyReserveBalance
      ∨ observed.trflReserve ≠ observed.custodyShares
      ∨ pool.trflReserve ≠ projection.custody.shares) .RESERVE_CUSTODY
    "Pool tRFL reserve, raw custody-store balance, and custody shares must be exactly equal."
    (slashed [.int pool.trflReserve, .int projection.custody.shares])
    (slashed [.int observed.trflReserve, .int observed.custodyReserveBalance,
      .int observed.custodyShares]) (text "global")
  raiseIf now cursor (observed.trflReserve ≠ pool.trflReserve
      ∨ observed.tusdReserve ≠ pool.tusdReserve) .POOL_RESERVES
    "On-chain pool reserves disagree with swap/liquidity receipts."
    (slashed [.int pool.trflReserve, .int pool.tusdReserve])
    (slashed [.int observed.trflReserve, .int observed.tusdReserve]) (text "global")
  raiseIf now cursor (observed.ammFeeBps ≠ pool.ammFeeBps
      ∨ observed.maximumGrossSwap ≠ pool.maximumGrossSwap
      ∨ observed.maximumReserveBps ≠ pool.maximumReserveBps
      ∨ observed.maximumRflContribution ≠ pool.maximumRflContribution
      ∨ observed.maximumTusdContribution ≠ pool.maximumTusdContribution
      ∨ observed.maximumNonFinalWithdrawalShareBps ≠ pool.maximumNonFinalWithdrawalShareBps)
    .POOL_LIMITS
    "On-chain swap, liquidity contribution, or withdrawal limits disagree with event replay."
    (slashed [.int pool.ammFeeBps, .int pool.maximumGrossSwap, .int pool.maximumReserveBps,
      .int pool.maximumRflContribution, .int pool.maximumTusdContribution,
      .int pool.maximumNonFinalWithdrawalShareBps])
    (slashed [.int observed.ammFeeBps, .int observed.maximumGrossSwap,
      .int observed.maximumReserveBps, .int observed.maximumRflContribution,
      .int observed.maximumTusdContribution, .int observed.maximumNonFinalWithdrawalShareBps])
    (text "global")

/-- Every wallet position against the observed ones, in both directions. -/
def reconcilePositions (projection : ProtocolProjection) (observed : ObservedAccountingSnapshot) :
    Reconciling Unit := do
  let walletShares := sumWalletShares projection.positions
  raiseIf now cursor (walletShares + projection.custody.shares ≠ projection.eligibleSupply)
    .ELIGIBLE_SUPPLY
    "Replay itself violates wallet plus custody share conservation."
    (shown (walletShares + projection.custody.shares)) (shown projection.eligibleSupply)
    (text "self")
  forEach projection.positions.entries fun (account, position) =>
    let chain := lastWith ObservedPosition.account observed.positions account
    raiseIf now cursor
      (chain.map (fun chain => (chain.rawTrfl, chain.correction, chain.claimed))
        ≠ some (position.rawTrfl, position.correction, position.claimed))
      .POSITION_ACCOUNTING
      "Wallet position differs from independently replayed raw shares and reward history."
      (slashed [.int position.rawTrfl, .int position.correction, .int position.claimed])
      (match chain with
        | none => text "missing"
        | some chain => slashed [.int chain.rawTrfl, .int chain.correction, .int chain.claimed])
      [.lit "wallet-", .address account]
  forEach ((mapOf (observed.positions.map fun position => (position.account, position))).keys.filter
      fun account => projection.positions.has account = false) fun account =>
    raiseIf now cursor True .POSITION_ACCOUNTING "Observed wallet position is absent from replay."
      (text "absent") [.address account] [.lit "wallet-", .address account]

def reconcileEpochs (projection : ProtocolProjection) (observed : ObservedAccountingSnapshot) :
    Reconciling (List LpReconciliationResult) := do
  raiseIf now cursor (observed.activeLpEpoch ≠ projection.activeLpEpoch) .LP_ACCOUNTING
    "Active LP epoch differs from event history."
    [orNone .int projection.activeLpEpoch] [orNone .int observed.activeLpEpoch]
    (text "active-epoch")
  forEach projection.lpEpochs.keys fun epoch =>
    raiseIf now cursor (epoch ∉ observed.lpEpochs.map ObservedLpEpoch.epoch) .LP_ACCOUNTING
      "Replayed LP epoch is missing from chain observation."
      (shown epoch) (text "missing") (lpScope epoch)
  compareLpEpochs now cursor projection projection.registeredWallets.keys
    observed.registeredWalletAccounts observed.lpEpochs

def reconcileRelease (projection : ProtocolProjection) (observed : ObservedAccountingSnapshot) :
    Reconciling Unit := do
  raiseIf now cursor (observed.packageVersion ≠ projection.packageVersion) .PACKAGE_VERSION
    "On-chain package version disagrees with event history."
    (text projection.packageVersion) (text observed.packageVersion) (text "global")
  raiseIf now cursor (observed.automaticMaterialization ≠ projection.automaticMaterialization)
    .CORE_ACCOUNTING
    "On-chain materialization mode disagrees with the immutable initialization event."
    [.bool projection.automaticMaterialization] [.bool observed.automaticMaterialization]
    (text "materialization-mode")
  raiseIf now cursor (isV02 projection.packageVersion = true
      ∧ (observed.lifecycle ≠ projection.lifecycle
        ∨ observed.reflectionFeeBps ≠ some projection.feeBps)) .EVENT_DATA
    "On-chain v0.2 lifecycle or immutable reflection fee disagrees with event history."
    (slashed [orMissing ProtocolLifecycle.shown projection.lifecycle, .int projection.feeBps])
    (slashed [orMissing ProtocolLifecycle.shown observed.lifecycle,
      orMissing .int observed.reflectionFeeBps]) (text "v0.2-identity")
  raiseIf now cursor (observed.faucetTrflGrant ≠ projection.faucetTrflGrant
      ∨ observed.faucetTusdGrant ≠ projection.faucetTusdGrant
      ∨ observed.faucetCooldownSeconds ≠ projection.faucetCooldownSeconds) .FAUCET_CONFIG
    "On-chain faucet configuration disagrees with event history."
    (slashed [.int projection.faucetTrflGrant, .int projection.faucetTusdGrant,
      .int projection.faucetCooldownSeconds])
    (slashed [.int observed.faucetTrflGrant, .int observed.faucetTusdGrant,
      .int observed.faucetCooldownSeconds]) (text "global")
  raiseIf now cursor (isV02 projection.packageVersion = false
      ∧ (observed.swapsPaused ≠ projection.swapsPaused
        ∨ observed.claimsPaused ≠ projection.claimsPaused
        ∨ observed.faucetPaused ≠ projection.faucetPaused
        ∨ observed.poolPaused ≠ projection.pool.poolPaused
        ∨ observed.liquidityPaused ≠ projection.pool.liquidityPaused
        ∨ observed.lpClaimsPaused ≠ projection.pool.lpClaimsPaused
        ∨ observed.shutdownMode ≠ projection.pool.shutdownMode
        ∨ observed.poolSeeded ≠ projection.pool.seeded)) .PAUSE_STATE
    "Core/faucet/pool pause and shutdown state disagrees with event history."
    (slashed [.bool projection.swapsPaused, .bool projection.claimsPaused,
      .bool projection.faucetPaused, .bool projection.pool.poolPaused,
      .bool projection.pool.liquidityPaused, .bool projection.pool.lpClaimsPaused,
      .bool projection.pool.shutdownMode, .bool projection.pool.seeded])
    (slashed [.bool observed.swapsPaused, .bool observed.claimsPaused,
      .bool observed.faucetPaused, .bool observed.poolPaused, .bool observed.liquidityPaused,
      .bool observed.lpClaimsPaused, .bool observed.shutdownMode, .bool observed.poolSeeded])
    (text "global")

/-- All of them, once the ledger versions are the same. -/
def reconcileBooks [Spelling] (projection : ProtocolProjection)
    (observed : ObservedAccountingSnapshot)
    (expectedRewardVaultBalance calculatedReflectionLiability calculatedCustodyPending : ℤ) :
    Reconciling (List LpReconciliationResult) := do
  reconcileDeployment now cursor projection observed
  reconcileRegistrations now cursor projection observed
  reconcileAuthorities now cursor projection observed
  reconcileCore now cursor projection observed expectedRewardVaultBalance
    calculatedReflectionLiability
  reconcileCustody now cursor projection observed calculatedCustodyPending
  reconcilePool now cursor projection observed
  reconcilePositions now cursor projection observed
  let lpEpochs ← reconcileEpochs now cursor projection observed
  reconcileRelease now cursor projection observed
  pure lpEpochs

def reconcile [Spelling] (projection : ProtocolProjection)
    (observed : ObservedAccountingSnapshot) : Except Text ReconciliationReport := do
  let expectedRewardVaultBalance ← expectedCoreVaultBalance projection
  let calculatedReflectionLiability ← coreIndexedLiability projection
  let backingSurplus := observed.rewardVaultBalance - calculatedReflectionLiability
  let calculatedCustodyPending ← custodyPending projection
  let report (lpEpochs : List LpReconciliationResult) (alerts : List CriticalAlert) :=
    (⟨observed.ledgerVersion, expectedRewardVaultBalance, calculatedReflectionLiability,
      backingSurplus, lpEpochs, alerts, alerts.isEmpty⟩ : ReconciliationReport)
  if cursor.map (fun cursor => cursor.ledgerVersion) ≠ some observed.ledgerVersion then
    pure (report [] [alert now cursor .LEDGER_VERSION
      "Finalized chain views must be pinned to the exact event-replay ledger version."
      [(cursor.map fun cursor => .int cursor.ledgerVersion).getD (.lit "indexed cursor required")]
      (shown observed.ledgerVersion) (text "global")])
  else
    match reconcileBooks now cursor projection observed expectedRewardVaultBalance
        calculatedReflectionLiability calculatedCustodyPending () with
    | (_, .error thrown) => .error thrown
    | (alerts, .ok (lpEpochs, ())) => pure (report lpEpochs alerts)

end

end CedraReflect.indexer
