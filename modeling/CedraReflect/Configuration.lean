/-
The configuration of a replay and its books.

An event writes one or the other: the events of the configuration leave the
books alone ([`configures_of_clean`]), and the others leave the configuration alone
([`settings_of_accounting`]).
-/
import CedraReflect.EpochSteps

set_option autoImplicit false
set_option linter.constructorNameAsVariable false

namespace CedraReflect.indexer

open Audited

/-! ## Two halves of a projection -/

/-- What accounting events write. -/
structure Books where
  currentIndex : ℤ
  indexRemainder : ℤ
  eligibleSupply : ℤ
  aggregateCorrection : ℤ
  unallocatedFees : ℤ
  roundingReserve : ℤ
  rewardVaultCredits : ℤ
  rewardVaultPayouts : ℤ
  lifetimeSwapFees : ℤ
  lifetimeMaterialized : ℤ
  lifetimeCustodyRouted : ℤ
  trflReserve : ℤ
  tusdReserve : ℤ
  custodyShares : ℤ
  custodyCorrection : ℤ
  custodyClaimed : ℤ
  custodyRouted : ℤ
  activeLpEpoch : Option ℤ
  lpEpochs : OrderedMap ℤ IndexedLpEpoch
  rewardVaultToEpoch : OrderedMap Address ℤ
  stateIdToEpoch : OrderedMap Address ℤ
  positions : OrderedMap Address IndexedPosition
  registeredWallets : OrderedMap Address Address
  registeredWalletCount : ℤ
  seenEventIds : OrderedMap String EventCursor

def ProtocolProjection.books (projection : ProtocolProjection) : Books :=
  { currentIndex := projection.currentIndex
    indexRemainder := projection.indexRemainder
    eligibleSupply := projection.eligibleSupply
    aggregateCorrection := projection.aggregateCorrection
    unallocatedFees := projection.unallocatedFees
    roundingReserve := projection.roundingReserve
    rewardVaultCredits := projection.rewardVaultCredits
    rewardVaultPayouts := projection.rewardVaultPayouts
    lifetimeSwapFees := projection.lifetimeSwapFees
    lifetimeMaterialized := projection.lifetimeMaterialized
    lifetimeCustodyRouted := projection.lifetimeCustodyRouted
    trflReserve := projection.pool.trflReserve
    tusdReserve := projection.pool.tusdReserve
    custodyShares := projection.custody.shares
    custodyCorrection := projection.custody.correction
    custodyClaimed := projection.custody.claimed
    custodyRouted := projection.custody.lifetimeRouted
    activeLpEpoch := projection.activeLpEpoch
    lpEpochs := projection.lpEpochs
    rewardVaultToEpoch := projection.rewardVaultToEpoch
    stateIdToEpoch := projection.stateIdToEpoch
    positions := projection.positions
    registeredWallets := projection.registeredWallets
    registeredWalletCount := projection.registeredWalletCount
    seenEventIds := projection.seenEventIds }

/-- What configuration events write, and nothing else does. -/
structure Settings where
  chainId : ℤ
  deploymentId : String
  networkLabel : String
  tokenMetadata : Option Address
  protocolExclusionSlots : ℤ
  protocolExclusionsRemaining : ℤ
  protocolExcludedStores : OrderedMap Address Address
  automaticMaterialization : Bool
  feeBps : ℤ
  rewardVault : Option Address
  distributionVault : Option Address
  mockUsdPoolReserve : Option Address
  packageVersion : String
  lifecycle : Option ProtocolLifecycle
  swapsPaused : Bool
  claimsPaused : Bool
  faucetPaused : Bool
  faucetTrflGrant : ℤ
  faucetTusdGrant : ℤ
  faucetCooldownSeconds : ℤ
  operationalAdmins : OperationalAdmins
  deploymentReady : Bool
  ammFeeBps : ℤ
  maximumGrossSwap : ℤ
  maximumReserveBps : ℤ
  maximumRflContribution : ℤ
  maximumTusdContribution : ℤ
  maximumNonFinalWithdrawalShareBps : ℤ
  poolPaused : Bool
  liquidityPaused : Bool
  lpClaimsPaused : Bool
  adapterId : Option ℤ

def ProtocolProjection.settings (projection : ProtocolProjection) : Settings :=
  { chainId := projection.chainId
    deploymentId := projection.deploymentId
    networkLabel := projection.networkLabel
    tokenMetadata := projection.tokenMetadata
    protocolExclusionSlots := projection.protocolExclusionSlots
    protocolExclusionsRemaining := projection.protocolExclusionsRemaining
    protocolExcludedStores := projection.protocolExcludedStores
    automaticMaterialization := projection.automaticMaterialization
    feeBps := projection.feeBps
    rewardVault := projection.rewardVault
    distributionVault := projection.distributionVault
    mockUsdPoolReserve := projection.mockUsdPoolReserve
    packageVersion := projection.packageVersion
    lifecycle := projection.lifecycle
    swapsPaused := projection.swapsPaused
    claimsPaused := projection.claimsPaused
    faucetPaused := projection.faucetPaused
    faucetTrflGrant := projection.faucetTrflGrant
    faucetTusdGrant := projection.faucetTusdGrant
    faucetCooldownSeconds := projection.faucetCooldownSeconds
    operationalAdmins := projection.operationalAdmins
    deploymentReady := projection.deploymentReady
    ammFeeBps := projection.pool.ammFeeBps
    maximumGrossSwap := projection.pool.maximumGrossSwap
    maximumReserveBps := projection.pool.maximumReserveBps
    maximumRflContribution := projection.pool.maximumRflContribution
    maximumTusdContribution := projection.pool.maximumTusdContribution
    maximumNonFinalWithdrawalShareBps := projection.pool.maximumNonFinalWithdrawalShareBps
    poolPaused := projection.pool.poolPaused
    liquidityPaused := projection.pool.liquidityPaused
    lpClaimsPaused := projection.pool.lpClaimsPaused
    adapterId := projection.custody.adapterId }

/-- An event of the configuration. -/
def EventBody.isConfiguration : EventBody → Bool
  | ProtocolInitialized _ | TokenCreated _ | LaunchSealed _ | PoolClosed _
  | ProtocolPrimaryStoreExcluded .. | OperationalPrimaryStoreExcluded .. | FaucetConfigured ..
  | PoolReserveBound .. | CustodyAdapterRegistered _ | FeeConfigurationChanged ..
  | SwapLimitsChanged .. | LiquidityLimitsChanged .. | PauseStateChanged ..
  | FaucetPauseChanged _ | PoolPauseChanged .. | OperationalAdminChanged .. => true
  | _ => false

/-! ## What an event leaves alone -/

section Settings

variable {base : EventBase} {c c' : Context} {u : Unit}

theorem clean_protocolInitialized {event : ProtocolInitializedEvent}
    (h : Clean (protocolInitialized base event) c u c') :
    c.next.packageVersion = "uninitialized" ∧ c'.next.packageVersion = event.packageVersion
      ∧ c'.next.operationalAdmins = c.next.operationalAdmins := by
  simp only [protocolInitialized, clean_bind, clean_gets, clean_alertIf, clean_setNext, and_assoc,
    exists_and_left, exists_eq_left, exists_const, ne_eq, not_not] at h
  obtain ⟨hversion, -, -, rfl⟩ := h
  exact ⟨hversion, rfl, rfl⟩

theorem clean_tokenCreated {event : TokenCreatedEvent}
    (h : Clean (tokenCreated base event) c u c') :
    c.next.packageVersion = "uninitialized" ∧ c'.next.packageVersion = "testnet-v0.2.0" := by
  simp only [tokenCreated, clean_bind, clean_gets, clean_alertIf, clean_setNext, and_assoc,
    exists_and_left, exists_eq_left, exists_const, ne_eq, not_or, not_not] at h
  obtain ⟨hversion, -, hpackage, -, -, -, -, rfl⟩ := h
  exact ⟨hversion, hpackage⟩

/-- What an event of the configuration leaves alone. -/
structure Configures (body : EventBody) (c c' : Context) : Prop where
  books : c'.next.books = c.next.books
  fees : c'.pendingCoreFees = c.pendingCoreFees
  version : (∀ created, body ≠ .TokenCreated created) →
    c'.next.packageVersion = c.next.packageVersion
  admins : (∀ scope old new, body ≠ .OperationalAdminChanged scope old new) →
    c'.next.operationalAdmins = c.next.operationalAdmins

variable {prior : ProtocolProjection} {events : List ProtocolEvent} {event : ProtocolEvent}

/-- **The configuration leaves the books alone.** The first release's
initialization apart, which sets the index. -/
theorem configures_of_clean (hconfiguration : event.body.isConfiguration = true)
    (hinitialized : ∀ initialized, event.body ≠ .ProtocolInitialized initialized)
    (h : Clean (replayEvent prior events event) c u c') : Configures event.body c c' := by
  unfold replayEvent at h
  rcases hbody : event.body
  all_goals simp only [hbody] at h hconfiguration hinitialized
  case ProtocolInitialized initialized => exact absurd rfl (hinitialized initialized)
  case TokenCreated created =>
    simp only [tokenCreated, clean_bind, clean_gets, clean_alertIf, clean_setNext, and_assoc,
      exists_and_left, exists_eq_left, exists_const] at h
    obtain ⟨-, -, rfl⟩ := h
    exact ⟨rfl, rfl, fun hother => absurd rfl (hother created), fun _ => rfl⟩
  case OperationalAdminChanged scope old new =>
    simp only [operationalAdminChanged, alertUnsupported, clean_bind, clean_gets, clean_alertIf,
      and_assoc, exists_and_left, exists_eq_left, exists_const] at h
    obtain ⟨-, h⟩ := h
    rcases hadmin : c.next.operationalAdmins.get? scope with _ | previous
    · simp [hadmin] at h
    · simp only [hadmin, clean_bind, clean_alertIf, clean_setNext, and_assoc, exists_and_left,
        exists_eq_left, exists_const] at h
      obtain ⟨-, rfl⟩ := h
      exact ⟨rfl, rfl, fun _ => rfl, fun hother => absurd rfl (hother scope old new)⟩
  case FeeConfigurationChanged old new =>
    simp only [feeConfigurationChanged, alertUnsupported, clean_ite, clean_bind, clean_gets,
      clean_alertIf, clean_setNext, and_assoc, exists_and_left, exists_eq_left, exists_const] at h
    obtain ⟨-, -, rfl⟩ | ⟨-, -, rfl⟩ := h
    · exact ⟨rfl, rfl, fun _ => rfl, fun _ => rfl⟩
    · exact ⟨rfl, rfl, fun _ => rfl, fun _ => rfl⟩
  case LiquidityLimitsChanged maximumRfl maximumTusd maximumShareBps =>
    simp only [liquidityLimitsChanged, alertUnsupported, clean_bind, clean_gets, clean_alertIf,
      clean_setNext, and_assoc, exists_and_left, exists_eq_left, exists_const] at h
    obtain ⟨-, -, rfl⟩ := h
    exact ⟨rfl, rfl, fun _ => rfl, fun _ => rfl⟩
  case LaunchSealed | PoolClosed | ProtocolPrimaryStoreExcluded | OperationalPrimaryStoreExcluded
      | FaucetConfigured | PoolReserveBound | CustodyAdapterRegistered | SwapLimitsChanged
      | PauseStateChanged | FaucetPauseChanged | PoolPauseChanged =>
    -- One alert, and then what it is about.
    simp only [launchSealed, poolClosed, protocolPrimaryStoreExcluded,
      operationalPrimaryStoreExcluded, faucetConfigured, poolReserveBound,
      custodyAdapterRegistered, swapLimitsChanged, pauseStateChanged, faucetPauseChanged,
      poolPauseChanged, alertUnsupported, clean_bind, clean_gets, clean_alertIf, clean_setNext,
      and_assoc, exists_and_left, exists_eq_left, exists_const] at h
    obtain ⟨-, rfl⟩ := h
    exact ⟨rfl, rfl, fun _ => rfl, fun _ => rfl⟩
  all_goals exact absurd hconfiguration Bool.false_ne_true

theorem DebitsOnce.settings {swap : SwapExecutedEvent} (h : DebitsOnce c swap c') :
    c'.next.settings = c.next.settings := by
  cases h with
  | due => rfl
  | skip => rfl

/-- **Accounting leaves the configuration alone.** -/
theorem settings_of_accounting (haccounting : event.body.isConfiguration = false)
    (h : Clean (replayEvent prior events event) c u c') :
    c'.next.settings = c.next.settings := by
  -- By the event: what a clean replay of each of them leaves.
  unfold replayEvent at h
  rcases hbody : event.body
  all_goals simp only [hbody] at h haccounting
  case PositionCreated =>
    obtain ⟨-, rfl⟩ := clean_positionCreated.mp h
    rfl
  case WalletRegistered =>
    obtain ⟨-, rfl⟩ := clean_walletRegistered.mp h
    rfl
  case FaucetGrant =>
    obtain ⟨-, -, rfl⟩ := clean_faucetGrant.mp h
    rfl
  case WalletTransfer =>
    obtain ⟨-, rfl⟩ := clean_walletTransfer.mp h
    rfl
  case EligibleBalanceDebited =>
    obtain ⟨-, -, rfl⟩ := clean_eligibleBalanceDebited.mp h
    rfl
  case EligibleBalanceCredited =>
    obtain ⟨-, -, rfl⟩ := clean_eligibleBalanceCredited.mp h
    rfl
  case RewardsMaterialized =>
    obtain ⟨-, rfl⟩ := clean_materializeWallet.mp h
    rfl
  case RewardsClaimed =>
    obtain ⟨-, rfl⟩ := clean_rewardsClaimed.mp h
    rfl
  case CustodyEpochRouteOpened =>
    obtain ⟨-, rfl⟩ := clean_custodyEpochRouteOpened h
    rfl
  case ReflectionFeeCollected =>
    obtain ⟨c₁, hdebits, hskips, -, rfl⟩ := clean_reflectionFeeCollected.mp h
    rcases hswaps : select EventBody.swap events with _ | ⟨swap, swaps⟩
    · obtain rfl := hskips hswaps
      rfl
    · have hsettings := (hdebits swap (by rw [hswaps]; rfl)).settings
      exact hsettings
  case ReflectionIndexAdvanced =>
    obtain ⟨_, _, -, -, rfl⟩ := clean_reflectionIndexAdvanced.mp h
    rfl
  case CustodySharesChanged =>
    obtain ⟨-, rfl⟩ := clean_custodySharesChanged.mp h
    rfl
  case CustodyRewardsRouted =>
    obtain ⟨-, rfl⟩ := clean_custodyRewardsRouted.mp h
    rfl
  case LpEpochOpened =>
    obtain ⟨-, rfl⟩ := clean_lpEpochOpened.mp h
    rfl
  case LpEpochStatusChanged =>
    obtain ⟨_, -, -, rfl⟩ := clean_lpEpochStatusChanged.mp h
    rfl
  case LpFractionalResidueRetired =>
    obtain ⟨_, -, -, rfl⟩ := clean_lpFractionalResidueRetired h
    rfl
  case LpEpochTerminalDustClassified =>
    obtain ⟨_, -, -, rfl⟩ := clean_lpEpochTerminalDustClassified h
    rfl
  case LpSharesChanged =>
    obtain ⟨_, -, -, rfl⟩ := clean_adjustLpShares.mp h
    rfl
  case LpSharesTransferred =>
    obtain ⟨_, -, -, rfl⟩ := clean_lpSharesTransferred.mp h
    rfl
  case LpRewardIndexAdvanced =>
    obtain ⟨_, -, _, -, -, rfl⟩ := clean_lpRewardIndexAdvanced.mp h
    rfl
  case LpRewardQuarantined =>
    obtain ⟨_, -, _, _, -, -, -, -, -, rfl⟩ := clean_lpRewardQuarantined.mp h
    rfl
  case LpRewardsClaimed =>
    obtain ⟨_, -, -, -, rfl⟩ := clean_lpRewardsClaimed.mp h
    rfl
  case SwapExecuted swap =>
    obtain ⟨c₁, hdebits, -, -, rfl⟩ := clean_swapExecuted.mp h
    rw [← hdebits.settings]
    unfold ProtocolProjection.settled
    rcases swap.direction
    · rfl
    · rfl
  case LiquiditySeeded =>
    obtain ⟨-, -, rfl⟩ := clean_liquidityReplayed.mp h
    rfl
  case LiquidityAdded =>
    obtain ⟨-, -, rfl⟩ := clean_liquidityReplayed.mp h
    rfl
  case LiquidityRemoved event finalExit =>
    obtain ⟨-, -, rfl⟩ := clean_liquidityReplayed.mp h
    simp only [ProtocolProjection.provided, ProtocolProjection.credited]
    split_ifs
    all_goals rfl
  case Unknown => exact absurd h (by simp)
  all_goals exact absurd haccounting.symm Bool.false_ne_true

end Settings

end CedraReflect.indexer
