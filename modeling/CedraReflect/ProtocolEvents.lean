/-
`types.ts` of the indexer: its events, its projection and its alerts.

A `bigint` is an integer, `| null` and an optional field are an `Option`, a
union of string literals is an enumeration, a `Map` is an [`OrderedMap`]. An
`Address` is a chain address in its canonical spelling, so that the tests for a
spelling of zero are the test for [`Address.zero`].

What differs from the source is how text is kept. A template literal is the list
of its pieces ([`Text`]), since the spelling of a derived address is not in the
repository, and the cursor remembered for an event is the pair of ordinals
instead of their rendering. An event is its base with its body, so that the
fields every event shares are read the same way whatever its type is.
-/
import CedraReflect.Basic
import CedraReflect.OrderedMap

set_option autoImplicit false
set_option linter.constructorNameAsVariable false

namespace CedraReflect.indexer

/-! ## Text -/

/-- A piece of a template literal. -/
inductive Fragment where
  | lit (s : String)
  | int (n : ℤ)
  | bool (b : Bool)
  | address (a : Address)
deriving DecidableEq, Repr

abbrev Text : Type := List Fragment

/-- A literal without holes. -/
def text (s : String) : Text := [.lit s]

/-- What `String` makes of a value that a message compares. -/
def shown (n : ℤ) : Text := [.int n]

/-- `"${a}/${b}"` and its longer forms. -/
def slashed : Text → Text
  | [] => []
  | [x] => [x]
  | x :: xs => x :: .lit "/" :: slashed xs

/-! ## Events -/

inductive EventSource where
  | chain
  | replay
  | fixture
deriving DecidableEq, Repr

inductive LpEpochStatus where
  | active
  | claimOnly
deriving DecidableEq, Repr

inductive SwapDirection where
  | buy
  | sell
deriving DecidableEq, Repr

inductive ProtocolLifecycle where
  | CONFIGURING
  | LIVE
  | CLOSED
deriving DecidableEq, Repr

structure EventCursor where
  ledgerVersion : ℤ
  eventIndex : ℤ
deriving DecidableEq, Repr

structure ProtocolInitializedEvent where
  deploymentId : String
  networkLabel : String
  tokenMetadata : Address
  automaticMaterialization : Bool
  feeBps : ℤ
  initialIndex : ℤ
  packageVersion : String
  rewardVault : Address
  distributionVault : Address
  protocolExclusionSlots : ℤ
deriving DecidableEq

structure TokenCreatedEvent where
  eventSchema : String
  deploymentId : String
  networkLabel : String
  tokenMetadata : Address
  rewardVault : Address
  distributionVault : Address
  reflectionFeeBps : ℤ
  totalSupply : ℤ
  decimals : ℤ
  packageVersion : String
deriving DecidableEq

structure LaunchSealedEvent where
  eventSchema : String
  reflectionFeeBps : ℤ
  ammFeeBps : ℤ
  maximumReserveBps : ℤ
  maximumGrossSwap : ℤ
  maximumRflContribution : ℤ
  maximumTusdContribution : ℤ
  maximumNonFinalWithdrawalShareBps : ℤ
  faucetTrflGrant : ℤ
  faucetTusdGrant : ℤ
  faucetCooldownSeconds : ℤ
  bootstrap : Address
  rflReserve : Address
  usdReserve : Address
  lpRewardVault : Address
  seedRfl : ℤ
  seedUsd : ℤ
  initialLpShares : ℤ
deriving DecidableEq

structure PoolClosedEvent where
  eventSchema : String
  provider : Address
  epoch : ℤ
  lpShares : ℤ
  rflOutput : ℤ
  usdOutput : ℤ
  rflReserveAfter : ℤ
  usdReserveAfter : ℤ
deriving DecidableEq

structure WalletRegisteredEvent where
  account : Address
  primaryStore : Address
  registeredWalletCount : ℤ
deriving DecidableEq

structure SwapExecutedEvent where
  account : Address
  direction : SwapDirection
  grossAmount : ℤ
  reflectionFee : ℤ
  ammFee : ℤ
  netReserveInput : ℤ
  grossPoolOutput : ℤ
  netUserReceipt : ℤ
  trflReserveAfter : ℤ
  tusdReserveAfter : ℤ
deriving DecidableEq

structure ReflectionFeeCollectedEvent where
  swapTxHash : String
  grossAmount : ℤ
  feeAmount : ℤ
  feeBps : ℤ
deriving DecidableEq

structure ReflectionIndexAdvancedEvent where
  previousIndex : ℤ
  newIndex : ℤ
  indexRemainder : ℤ
  feeAmount : ℤ
  eligibleSupply : ℤ
deriving DecidableEq

/-- `trigger` is absent in the fixtures of the first release. -/
structure RewardsMaterializedEvent where
  account : Address
  amount : ℤ
  totalClaimed : ℤ
  trigger : Option ℤ
deriving DecidableEq

structure RewardsClaimedEvent where
  account : Address
  amount : ℤ
  totalClaimed : ℤ
deriving DecidableEq

structure CustodySharesChangedEvent where
  added : Bool
  amount : ℤ
  custodyShares : ℤ
  globalShares : ℤ
deriving DecidableEq

structure CustodyAdapterRegisteredEvent where
  adapterId : ℤ
  reserveStore : Address
  firstEpoch : ℤ
  lpRewardVault : Address
deriving DecidableEq

structure CustodyEpochRouteOpenedEvent where
  adapterId : ℤ
  epoch : ℤ
  reserveStore : Address
  lpRewardVault : Address
  retiredResidueMagnified : ℤ
deriving DecidableEq

structure CustodyRewardsRoutedEvent where
  reserveStore : Address
  lpRewardVault : Address
  epoch : ℤ
  amount : ℤ
  totalRouted : ℤ
deriving DecidableEq

/-- The three receipts of the pool's liquidity share their fields;
`finalExit` is the removal's own. -/
structure LiquidityEvent where
  epoch : ℤ
  provider : Address
  trflAmount : ℤ
  tusdAmount : ℤ
  lpShares : ℤ
  trflReserveAfter : ℤ
  tusdReserveAfter : ℤ
deriving DecidableEq

structure LpEpochOpenedEvent where
  epoch : ℤ
  stateId : Address
  rewardVault : Address
deriving DecidableEq

structure LpEpochStatusChangedEvent where
  epoch : ℤ
  oldStatus : LpEpochStatus
  newStatus : LpEpochStatus
deriving DecidableEq

structure LpSharesChangedEvent where
  epoch : ℤ
  owner : Address
  added : Bool
  amount : ℤ
  ownerShares : ℤ
  totalShares : ℤ
deriving DecidableEq

structure LpSharesTransferredEvent where
  epoch : ℤ
  sender : Address
  recipient : Address
  amount : ℤ
deriving DecidableEq

structure LpRewardIndexAdvancedEvent where
  epoch : ℤ
  previousIndex : ℤ
  newIndex : ℤ
  indexRemainder : ℤ
  received : ℤ
  totalShares : ℤ
  roundingReserve : ℤ
deriving DecidableEq

structure LpRewardsClaimedEvent where
  epoch : ℤ
  owner : Address
  amount : ℤ
  totalClaimed : ℤ
deriving DecidableEq

structure LpRewardQuarantinedEvent where
  epoch : ℤ
  amount : ℤ
  unallocatedRewards : ℤ
  rewardVault : Address
deriving DecidableEq

structure LpFractionalResidueRetiredEvent where
  epoch : ℤ
  owner : Address
  residueMagnified : ℤ
  cumulativeRetiredResidueMagnified : ℤ
  roundingReserveBaseUnits : ℤ
deriving DecidableEq

structure LpEpochTerminalDustClassifiedEvent where
  epoch : ℤ
  rewardVault : Address
  terminalRoundingBaseUnits : ℤ
  retiredResidueMagnified : ℤ
  lifetimeReceivedBaseUnits : ℤ
  lifetimeClaimedBaseUnits : ℤ
deriving DecidableEq

/-- The union `ProtocolEvent` without the base. Event sources are a runtime
trust boundary, so that there is a body for a type outside the union. -/
inductive EventBody where
  | ProtocolInitialized (event : ProtocolInitializedEvent)
  | TokenCreated (event : TokenCreatedEvent)
  | LaunchSealed (event : LaunchSealedEvent)
  | PoolClosed (event : PoolClosedEvent)
  | ProtocolPrimaryStoreExcluded (account store : Address) (remainingSlots : ℤ)
  | OperationalPrimaryStoreExcluded (account store : Address)
  | PositionCreated (account : Address)
  | WalletRegistered (event : WalletRegisteredEvent)
  | FaucetGrant (account : Address) (asset : Metadata) (amount : ℤ)
  | FaucetConfigured (trflGrant tusdGrant cooldownSeconds : ℤ)
  | PoolReserveBound (reserveStore custodian : Address)
  | WalletTransfer (sender recipient : Address) (asset : Metadata) (amount : ℤ)
  | EligibleBalanceDebited (account : Address) (amount : ℤ)
  | EligibleBalanceCredited (account : Address) (amount : ℤ)
  | SwapExecuted (event : SwapExecutedEvent)
  | ReflectionFeeCollected (event : ReflectionFeeCollectedEvent)
  | ReflectionIndexAdvanced (event : ReflectionIndexAdvancedEvent)
  | RewardsMaterialized (event : RewardsMaterializedEvent)
  | RewardsClaimed (event : RewardsClaimedEvent)
  | CustodyAdapterRegistered (event : CustodyAdapterRegisteredEvent)
  | CustodyEpochRouteOpened (event : CustodyEpochRouteOpenedEvent)
  | CustodySharesChanged (event : CustodySharesChangedEvent)
  | CustodyRewardsRouted (event : CustodyRewardsRoutedEvent)
  | FeeConfigurationChanged (oldFeeBps newFeeBps : ℤ)
  | SwapLimitsChanged (ammFeeBps maximumGrossSwap maximumReserveBps : ℤ)
  | LiquidityLimitsChanged
      (maximumRflContribution maximumTusdContribution maximumNonFinalWithdrawalShareBps : ℤ)
  | PauseStateChanged (swapsPaused claimsPaused : Bool)
  | FaucetPauseChanged (paused : Bool)
  | PoolPauseChanged (poolPaused liquidityPaused lpClaimsPaused shutdownMode : Bool)
  | OperationalAdminChanged (scope : String) (oldOperationalAdmin newOperationalAdmin : Address)
  | LiquiditySeeded (event : LiquidityEvent)
  | LiquidityAdded (event : LiquidityEvent)
  | LiquidityRemoved (event : LiquidityEvent) (finalExit : Bool)
  | LpEpochOpened (event : LpEpochOpenedEvent)
  | LpEpochStatusChanged (event : LpEpochStatusChangedEvent)
  | LpSharesChanged (event : LpSharesChangedEvent)
  | LpSharesTransferred (event : LpSharesTransferredEvent)
  | LpRewardIndexAdvanced (event : LpRewardIndexAdvancedEvent)
  | LpRewardsClaimed (event : LpRewardsClaimedEvent)
  | LpRewardQuarantined (event : LpRewardQuarantinedEvent)
  | LpFractionalResidueRetired (event : LpFractionalResidueRetiredEvent)
  | LpEpochTerminalDustClassified (event : LpEpochTerminalDustClassifiedEvent)
  | Unknown (type : String)
deriving DecidableEq

/-- An event's discriminant. -/
def EventBody.type : EventBody → String
  | ProtocolInitialized _ => "ProtocolInitialized"
  | TokenCreated _ => "TokenCreated"
  | LaunchSealed _ => "LaunchSealed"
  | PoolClosed _ => "PoolClosed"
  | ProtocolPrimaryStoreExcluded .. => "ProtocolPrimaryStoreExcluded"
  | OperationalPrimaryStoreExcluded .. => "OperationalPrimaryStoreExcluded"
  | PositionCreated _ => "PositionCreated"
  | WalletRegistered _ => "WalletRegistered"
  | FaucetGrant .. => "FaucetGrant"
  | FaucetConfigured .. => "FaucetConfigured"
  | PoolReserveBound .. => "PoolReserveBound"
  | WalletTransfer .. => "WalletTransfer"
  | EligibleBalanceDebited .. => "EligibleBalanceDebited"
  | EligibleBalanceCredited .. => "EligibleBalanceCredited"
  | SwapExecuted _ => "SwapExecuted"
  | ReflectionFeeCollected _ => "ReflectionFeeCollected"
  | ReflectionIndexAdvanced _ => "ReflectionIndexAdvanced"
  | RewardsMaterialized _ => "RewardsMaterialized"
  | RewardsClaimed _ => "RewardsClaimed"
  | CustodyAdapterRegistered _ => "CustodyAdapterRegistered"
  | CustodyEpochRouteOpened _ => "CustodyEpochRouteOpened"
  | CustodySharesChanged _ => "CustodySharesChanged"
  | CustodyRewardsRouted _ => "CustodyRewardsRouted"
  | FeeConfigurationChanged .. => "FeeConfigurationChanged"
  | SwapLimitsChanged .. => "SwapLimitsChanged"
  | LiquidityLimitsChanged .. => "LiquidityLimitsChanged"
  | PauseStateChanged .. => "PauseStateChanged"
  | FaucetPauseChanged _ => "FaucetPauseChanged"
  | PoolPauseChanged .. => "PoolPauseChanged"
  | OperationalAdminChanged .. => "OperationalAdminChanged"
  | LiquiditySeeded _ => "LiquiditySeeded"
  | LiquidityAdded _ => "LiquidityAdded"
  | LiquidityRemoved .. => "LiquidityRemoved"
  | LpEpochOpened _ => "LpEpochOpened"
  | LpEpochStatusChanged _ => "LpEpochStatusChanged"
  | LpSharesChanged _ => "LpSharesChanged"
  | LpSharesTransferred _ => "LpSharesTransferred"
  | LpRewardIndexAdvanced _ => "LpRewardIndexAdvanced"
  | LpRewardsClaimed _ => "LpRewardsClaimed"
  | LpRewardQuarantined _ => "LpRewardQuarantined"
  | LpFractionalResidueRetired _ => "LpFractionalResidueRetired"
  | LpEpochTerminalDustClassified _ => "LpEpochTerminalDustClassified"
  | Unknown type => type

structure EventBase where
  id : String
  txHash : String
  ledgerVersion : ℤ
  eventIndex : ℤ
  timestampUnixMilliseconds : ℤ
  source : EventSource
deriving DecidableEq

structure ProtocolEvent extends EventBase where
  body : EventBody
deriving DecidableEq

def EventBase.cursor (event : EventBase) : EventCursor :=
  ⟨event.ledgerVersion, event.eventIndex⟩

/-! ## The projection -/

structure IndexedPosition where
  account : Address
  rawTrfl : ℤ
  rawTusd : ℤ
  correction : ℤ
  claimed : ℤ
  lifetimeClaimed : ℤ
  lifetimeMaterialized : ℤ
deriving DecidableEq

structure IndexedCustodyPosition where
  adapterId : Option ℤ
  reserveStore : Option Address
  activeRouteEpoch : Option ℤ
  activeLpRewardVault : Option Address
  shares : ℤ
  correction : ℤ
  claimed : ℤ
  lifetimeRouted : ℤ
deriving DecidableEq

structure IndexedLpPosition where
  owner : Address
  shares : ℤ
  correction : ℤ
  claimed : ℤ
deriving DecidableEq

structure IndexedLpEpoch where
  epoch : ℤ
  stateId : Address
  status : LpEpochStatus
  rewardVault : Address
  index : ℤ
  indexRemainder : ℤ
  totalShares : ℤ
  aggregateCorrection : ℤ
  unallocatedRewards : ℤ
  roundingReserve : ℤ
  retiredResidueMagnified : ℤ
  terminalRoundingBaseUnits : Option ℤ
  lifetimeReceived : ℤ
  lifetimeClaimed : ℤ
  quarantined : Bool
  positions : OrderedMap Address IndexedLpPosition

structure IndexedPool where
  trflReserve : ℤ
  tusdReserve : ℤ
  ammFeeBps : ℤ
  maximumGrossSwap : ℤ
  maximumReserveBps : ℤ
  maximumRflContribution : ℤ
  maximumTusdContribution : ℤ
  maximumNonFinalWithdrawalShareBps : ℤ
  poolPaused : Bool
  liquidityPaused : Bool
  lpClaimsPaused : Bool
  shutdownMode : Bool
  seeded : Bool
deriving DecidableEq

structure OperationalAdmins where
  reflectionCore : Option Address
  testAssets : Option Address
  testAmm : Option Address
deriving DecidableEq

/-- Event-replayed values: an independent witness, not a chain response. -/
structure ProtocolProjection where
  chainId : ℤ
  deploymentId : String
  networkLabel : String
  tokenMetadata : Option Address
  protocolExclusionSlots : ℤ
  protocolExclusionsRemaining : ℤ
  protocolExcludedStores : OrderedMap Address Address
  registeredWallets : OrderedMap Address Address
  registeredWalletCount : ℤ
  automaticMaterialization : Bool
  feeBps : ℤ
  currentIndex : ℤ
  indexRemainder : ℤ
  eligibleSupply : ℤ
  aggregateCorrection : ℤ
  unallocatedFees : ℤ
  roundingReserve : ℤ
  rewardVault : Option Address
  distributionVault : Option Address
  mockUsdPoolReserve : Option Address
  rewardVaultCredits : ℤ
  rewardVaultPayouts : ℤ
  lifetimeSwapFees : ℤ
  lifetimeMaterialized : ℤ
  lifetimeCustodyRouted : ℤ
  packageVersion : String
  lifecycle : Option ProtocolLifecycle
  swapsPaused : Bool
  claimsPaused : Bool
  faucetPaused : Bool
  faucetTrflGrant : ℤ
  faucetTusdGrant : ℤ
  faucetCooldownSeconds : ℤ
  operationalAdmins : OperationalAdmins
  deploymentReady : Bool
  pool : IndexedPool
  custody : IndexedCustodyPosition
  activeLpEpoch : Option ℤ
  lpEpochs : OrderedMap ℤ IndexedLpEpoch
  rewardVaultToEpoch : OrderedMap Address ℤ
  stateIdToEpoch : OrderedMap Address ℤ
  positions : OrderedMap Address IndexedPosition
  seenEventIds : OrderedMap String EventCursor

/-! ## Alerts -/

inductive AlertCode where
  | EVENT_ORDER
  | EVENT_DATA
  | TRANSACTION_GROUP
  | IDENTIFIER_REUSE
  | DOUBLE_COUNTING
  | FEE_FORMULA
  | VAULT_BACKING
  | REFLECTION_LIABILITY
  | CORE_ACCOUNTING
  | GLOBAL_INDEX
  | ELIGIBLE_SUPPLY
  | LIFETIME_TOTAL
  | POOL_RESERVES
  | POOL_LIMITS
  | FAUCET_CONFIG
  | RESERVE_CUSTODY
  | CUSTODY_ACCOUNTING
  | ROUTE_PAIR
  | OLD_EPOCH_ROUTE
  | LP_ACCOUNTING
  | LP_VAULT_BACKING
  | VAULT_BINDING
  | POSITION_ACCOUNTING
  | WALLET_REGISTRATION
  | PACKAGE_VERSION
  | PAUSE_STATE
  | OPERATIONAL_ADMIN
  | DEPLOYMENT_IDENTITY
  | LEDGER_VERSION
deriving DecidableEq, Repr

def AlertCode.name : AlertCode → String
  | EVENT_ORDER => "EVENT_ORDER"
  | EVENT_DATA => "EVENT_DATA"
  | TRANSACTION_GROUP => "TRANSACTION_GROUP"
  | IDENTIFIER_REUSE => "IDENTIFIER_REUSE"
  | DOUBLE_COUNTING => "DOUBLE_COUNTING"
  | FEE_FORMULA => "FEE_FORMULA"
  | VAULT_BACKING => "VAULT_BACKING"
  | REFLECTION_LIABILITY => "REFLECTION_LIABILITY"
  | CORE_ACCOUNTING => "CORE_ACCOUNTING"
  | GLOBAL_INDEX => "GLOBAL_INDEX"
  | ELIGIBLE_SUPPLY => "ELIGIBLE_SUPPLY"
  | LIFETIME_TOTAL => "LIFETIME_TOTAL"
  | POOL_RESERVES => "POOL_RESERVES"
  | POOL_LIMITS => "POOL_LIMITS"
  | FAUCET_CONFIG => "FAUCET_CONFIG"
  | RESERVE_CUSTODY => "RESERVE_CUSTODY"
  | CUSTODY_ACCOUNTING => "CUSTODY_ACCOUNTING"
  | ROUTE_PAIR => "ROUTE_PAIR"
  | OLD_EPOCH_ROUTE => "OLD_EPOCH_ROUTE"
  | LP_ACCOUNTING => "LP_ACCOUNTING"
  | LP_VAULT_BACKING => "LP_VAULT_BACKING"
  | VAULT_BINDING => "VAULT_BINDING"
  | POSITION_ACCOUNTING => "POSITION_ACCOUNTING"
  | WALLET_REGISTRATION => "WALLET_REGISTRATION"
  | PACKAGE_VERSION => "PACKAGE_VERSION"
  | PAUSE_STATE => "PAUSE_STATE"
  | OPERATIONAL_ADMIN => "OPERATIONAL_ADMIN"
  | DEPLOYMENT_IDENTITY => "DEPLOYMENT_IDENTITY"
  | LEDGER_VERSION => "LEDGER_VERSION"

inductive AlertSeverity where
  | critical
  | warning
  | info
deriving DecidableEq, Repr

structure CriticalAlert where
  id : Text
  severity : AlertSeverity
  code : AlertCode
  message : Text
  detectedAtUnixMilliseconds : ℤ
  cursor : Option EventCursor
  expected : Option Text
  observed : Option Text
deriving DecidableEq

end CedraReflect.indexer
