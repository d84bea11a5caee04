/-
Replay keeps every position under its own key.

A handler that writes a position writes it under the account that the position
names, and one that writes an epoch writes it under the epoch's own number. So
the projections of alert-free replay are [`ProtocolProjection.Keyed`], and a
snapshot of one restores to it.
-/
import CedraReflect.Acceptance
import CedraReflect.Configuration
import CedraReflect.SnapshotCodec

set_option autoImplicit false
set_option linter.constructorNameAsVariable false

namespace CedraReflect.indexer

open Audited

/-! ## Writes -/

namespace ProtocolProjection.Keyed

variable {projection next : ProtocolProjection}

/-- Only two maps are keyed. -/
theorem of_eq (h : projection.Keyed) (hpositions : next.positions = projection.positions)
    (hepochs : next.lpEpochs = projection.lpEpochs) : next.Keyed where
  positions := by
    rw [hpositions]
    exact h.positions
  lpEpochs := by
    rw [hepochs]
    exact h.lpEpochs
  lpPositions := by
    rw [hepochs]
    exact h.lpPositions

/-- An empty projection is keyed. -/
theorem empty : createEmptyProjection.Keyed where
  positions := OrderedMap.keyedBy_empty _
  lpEpochs := OrderedMap.keyedBy_empty _
  lpPositions epoch hepoch := absurd hepoch (by simp [createEmptyProjection])

/-- A wallet's position names the wallet, written or not. -/
theorem account (h : projection.Keyed) (account : Address) :
    (positionOrEmpty account projection.positions).account = account := by
  unfold positionOrEmpty
  rcases hposition : projection.positions.get? account with _ | position
  · rfl
  · exact h.positions account position hposition

/-- A position is written under the account that it names. -/
theorem withPosition (h : projection.Keyed) {account : Address} {position : IndexedPosition}
    (haccount : position.account = account)
    (hpositions : next.positions = projection.positions.set account position)
    (hepochs : next.lpEpochs = projection.lpEpochs) : next.Keyed where
  positions := by
    rw [hpositions]
    exact h.positions.set haccount
  lpEpochs := by
    rw [hepochs]
    exact h.lpEpochs
  lpPositions := by
    rw [hepochs]
    exact h.lpPositions

/-- An epoch is written under its own number. -/
theorem withEpoch (h : projection.Keyed) (epoch : IndexedLpEpoch)
    (hpositions : next.positions = projection.positions)
    (hepochs : next.lpEpochs = projection.lpEpochs.set epoch.epoch epoch)
    (hepoch : epoch.positions.KeyedBy IndexedLpPosition.owner) : next.Keyed where
  positions := by
    rw [hpositions]
    exact h.positions
  lpEpochs := by
    rw [hepochs]
    exact h.lpEpochs.set rfl
  lpPositions other hother := by
    rw [hepochs] at hother
    rcases OrderedMap.mem_values_set hother with rfl | hother
    · exact hepoch
    · exact h.lpPositions other hother

/-- The positions of an epoch that is there are keyed by their owners. -/
theorem found (h : projection.Keyed) {number : ℤ} {epoch : IndexedLpEpoch}
    (hfound : projection.lpEpochs.get? number = some epoch) :
    epoch.positions.KeyedBy IndexedLpPosition.owner :=
  h.lpPositions epoch (OrderedMap.mem_values.mpr ⟨number, hfound⟩)

/-- A movement writes the position of its account, and a credit does if there is any. -/
theorem moved (h : projection.Keyed) (account : Address) (asset : Metadata) (delta : ℤ) :
    (projection.moved account asset delta).Keyed := by
  have haccount : ((positionOrEmpty account projection.positions).moved asset delta
      projection.currentIndex).account = account := by
    cases asset with
    | trfl => exact h.account account
    | tusd => exact h.account account
  exact h.withPosition haccount rfl rfl

theorem credited (h : projection.Keyed) (account : Address) (asset : Metadata) (amount : ℤ) :
    (projection.credited account asset amount).Keyed := by
  unfold ProtocolProjection.credited
  split_ifs
  · exact h.moved account asset amount
  · exact h

/-- The seller's debit is a movement, once. -/
theorem debitsOnce {c c' : Context} {swap : SwapExecutedEvent} (h : c.next.Keyed)
    (hdebits : DebitsOnce c swap c') : c'.next.Keyed := by
  cases hdebits with
  | due => exact h.moved _ _ _
  | skip => exact h

end ProtocolProjection.Keyed

/-- An owner's position names the owner, written or not. -/
theorem lpPositionOrEmpty_owner {positions : OrderedMap Address IndexedLpPosition}
    (h : positions.KeyedBy IndexedLpPosition.owner) (owner : Address) :
    (lpPositionOrEmpty owner positions).owner = owner := by
  unfold lpPositionOrEmpty
  rcases hposition : positions.get? owner with _ | position
  · rfl
  · exact h owner position hposition

/-! ## Events -/

section

variable {prior : ProtocolProjection} {events : List ProtocolEvent} {event : ProtocolEvent}
  {c c' : Context}

/-- A liquidity receipt moves both assets of the provider. -/
theorem keyed_of_liquidity {base : EventBase} {kind : LiquidityKind} {liquidity : LiquidityEvent}
    (h : c.next.Keyed) (hclean : Clean (liquidityReplayed prior base kind liquidity) c () c') :
    c'.next.Keyed := by
  obtain ⟨-, -, rfl⟩ := clean_liquidityReplayed.mp hclean
  have hprovided : (c.next.provided kind liquidity).Keyed := by
    unfold ProtocolProjection.provided
    rcases kind with _ | _ | finalExit
    · exact h
    · exact (h.moved _ _ _).moved _ _ _
    · exact (h.credited _ _ _).credited _ _ _
  exact hprovided.of_eq rfl rfl

/-- The initialization of the first release writes numbers only. -/
theorem keyed_of_initialized {base : EventBase} {initialized : ProtocolInitializedEvent}
    (h : c.next.Keyed) (hclean : Clean (protocolInitialized base initialized) c () c') :
    c'.next.Keyed := by
  simp only [protocolInitialized, clean_bind, clean_gets, clean_alertIf, clean_setNext, and_assoc,
    exists_and_left, exists_eq_left, exists_const] at hclean
  obtain ⟨-, -, -, rfl⟩ := hclean
  exact h.of_eq rfl rfl

/-- A materialization is written under the account it pays. -/
theorem keyed_of_materialized {base : EventBase} {materialization : RewardsMaterializedEvent}
    (h : c.next.Keyed) (hclean : Clean (materializeWallet base materialization) c () c') :
    c'.next.Keyed := by
  obtain ⟨-, rfl⟩ := clean_materializeWallet.mp hclean
  have haccount : ((positionOrEmpty materialization.account c.next.positions).materialized
      materialization.amount c.next.currentIndex).account = materialization.account :=
    h.account materialization.account
  exact h.withPosition haccount rfl rfl

/-- A claim is written under the account that made it. -/
theorem keyed_of_claimed {claim : RewardsClaimedEvent} (h : c.next.Keyed)
    (hclean : Clean (rewardsClaimed claim) c () c') : c'.next.Keyed := by
  obtain ⟨-, rfl⟩ := clean_rewardsClaimed.mp hclean
  have haccount : ({ positionOrEmpty claim.account c.next.positions with
      lifetimeClaimed := (positionOrEmpty claim.account c.next.positions).lifetimeClaimed
        + claim.amount } : IndexedPosition).account = claim.account := h.account claim.account
  exact h.withPosition haccount rfl rfl

/-- A fee receipt writes no position but the seller's, and that once. -/
theorem keyed_of_feeCollected {base : EventBase} {receipt : ReflectionFeeCollectedEvent}
    (h : c.next.Keyed) (hclean : Clean (reflectionFeeCollected events base receipt) c () c') :
    c'.next.Keyed := by
  obtain ⟨c₁, hdebits, hskips, -, rfl⟩ := clean_reflectionFeeCollected.mp hclean
  have hdebited : c₁.next.Keyed := by
    rcases hswaps : select EventBody.swap events with _ | ⟨swap, swaps⟩
    · rw [hskips hswaps]
      exact h
    · exact h.debitsOnce (hdebits swap (by rw [hswaps]; rfl))
  exact hdebited.of_eq rfl rfl

/-- A transfer of shares writes both owners' positions in one epoch. -/
theorem keyed_of_sharesTransferred {base : EventBase} {transfer : LpSharesTransferredEvent}
    (h : c.next.Keyed) (hclean : Clean (lpSharesTransferred base transfer) c () c') :
    c'.next.Keyed := by
  obtain ⟨epoch, hepoch, -, rfl⟩ := clean_lpSharesTransferred.mp hclean
  refine h.withEpoch (epoch.transferred transfer.sender transfer.recipient transfer.amount)
    rfl rfl ?_
  have howner := lpPositionOrEmpty_owner (h.found hepoch)
  have hsender : ((lpPositionOrEmpty transfer.sender epoch.positions).moved (-transfer.amount)
      epoch.index).owner = transfer.sender := howner transfer.sender
  have hrecipient : ((lpPositionOrEmpty transfer.recipient epoch.positions).moved
      transfer.amount epoch.index).owner = transfer.recipient := howner transfer.recipient
  exact ((h.found hepoch).set hsender).set hrecipient

/-- A swap writes the position of its trader. -/
theorem keyed_of_swap {base : EventBase} {swap : SwapExecutedEvent} (h : c.next.Keyed)
    (hclean : Clean (swapExecuted base swap) c () c') : c'.next.Keyed := by
  obtain ⟨c₁, hdebits, -, -, rfl⟩ := clean_swapExecuted.mp hclean
  have hdebited := h.debitsOnce hdebits
  have hsettled : (c₁.next.settled swap).Keyed := by
    unfold ProtocolProjection.settled
    rcases swap.direction
    · exact (hdebited.moved _ _ _).moved _ _ _
    · exact hdebited.moved _ _ _
  exact hsettled.of_eq rfl rfl

/-- **Every event keeps the keys.** -/
theorem keyed_of_clean (h : c.next.Keyed)
    (hclean : Clean (replayEvent prior events event) c () c') :
    c'.next.Keyed := by
  by_cases hinitialized : ∃ initialized, event.body = .ProtocolInitialized initialized
  · obtain ⟨initialized, hbody⟩ := hinitialized
    unfold replayEvent at hclean
    rw [hbody] at hclean
    exact keyed_of_initialized h hclean
  · rw [not_exists] at hinitialized
    -- A configuration writes no map that is keyed by its values; of the rest, each event says which
    -- it writes.
    by_cases hconfiguration : event.body.isConfiguration = true
    · have hbooks := (configures_of_clean hconfiguration hinitialized hclean).books
      exact h.of_eq (congrArg Books.positions hbooks) (congrArg Books.lpEpochs hbooks)
    · unfold replayEvent at hclean
      rcases hbody : event.body
      all_goals simp only [hbody] at hclean hconfiguration hinitialized
      case PositionCreated account =>
        obtain ⟨-, rfl⟩ := clean_positionCreated.mp hclean
        exact h.withPosition (h.account account) rfl rfl
      case WalletRegistered =>
        obtain ⟨-, rfl⟩ := clean_walletRegistered.mp hclean
        exact h.of_eq rfl rfl
      case FaucetGrant =>
        obtain ⟨-, -, rfl⟩ := clean_faucetGrant.mp hclean
        exact h.moved _ _ _
      case WalletTransfer =>
        obtain ⟨-, rfl⟩ := clean_walletTransfer.mp hclean
        exact h
      case EligibleBalanceDebited =>
        obtain ⟨-, -, rfl⟩ := clean_eligibleBalanceDebited.mp hclean
        exact h.moved _ _ _
      case EligibleBalanceCredited =>
        obtain ⟨-, -, rfl⟩ := clean_eligibleBalanceCredited.mp hclean
        exact h.moved _ _ _
      case RewardsMaterialized => exact keyed_of_materialized h hclean
      case RewardsClaimed => exact keyed_of_claimed h hclean
      case CustodyEpochRouteOpened =>
        obtain ⟨-, rfl⟩ := clean_custodyEpochRouteOpened hclean
        exact h.of_eq rfl rfl
      case ReflectionFeeCollected => exact keyed_of_feeCollected h hclean
      case ReflectionIndexAdvanced =>
        obtain ⟨_, _, -, -, rfl⟩ := clean_reflectionIndexAdvanced.mp hclean
        exact h.of_eq rfl rfl
      case CustodySharesChanged =>
        obtain ⟨-, rfl⟩ := clean_custodySharesChanged.mp hclean
        exact h.of_eq rfl rfl
      case CustodyRewardsRouted =>
        obtain ⟨-, rfl⟩ := clean_custodyRewardsRouted.mp hclean
        exact h.of_eq rfl rfl
      case LpEpochOpened opening =>
        obtain ⟨-, rfl⟩ := clean_lpEpochOpened.mp hclean
        exact h.withEpoch opening.opened rfl rfl (OrderedMap.keyedBy_empty _)
      case LpEpochStatusChanged =>
        obtain ⟨epoch, hepoch, -, rfl⟩ := clean_lpEpochStatusChanged.mp hclean
        have hfound := h.found hepoch
        exact h.withEpoch { epoch with status := .claimOnly } rfl rfl hfound
      case LpFractionalResidueRetired retirement =>
        obtain ⟨epoch, hepoch, -, rfl⟩ := clean_lpFractionalResidueRetired hclean
        refine h.withEpoch (epoch.retired retirement.owner retirement.residueMagnified _) rfl rfl ?_
        exact (h.found hepoch).set (lpPositionOrEmpty_owner (h.found hepoch) _)
      case LpEpochTerminalDustClassified =>
        obtain ⟨epoch, hepoch, -, rfl⟩ := clean_lpEpochTerminalDustClassified hclean
        have hfound := h.found hepoch
        exact h.withEpoch { epoch with terminalRoundingBaseUnits := some epoch.roundingReserve }
          rfl rfl hfound
      case LpSharesChanged change =>
        obtain ⟨epoch, hepoch, -, rfl⟩ := clean_adjustLpShares.mp hclean
        refine h.withEpoch (epoch.moved change.owner change.delta) rfl rfl ?_
        exact (h.found hepoch).set (lpPositionOrEmpty_owner (h.found hepoch) _)
      case LpSharesTransferred => exact keyed_of_sharesTransferred h hclean
      case LpRewardIndexAdvanced advance =>
        obtain ⟨epoch, hepoch, _, -, -, rfl⟩ := clean_lpRewardIndexAdvanced.mp hclean
        have hfound := h.found hepoch
        exact h.withEpoch (epoch.received advance) rfl rfl hfound
      case LpRewardQuarantined quarantine =>
        obtain ⟨epoch, hepoch, _, reserve, -, -, -, -, -, rfl⟩ :=
          clean_lpRewardQuarantined.mp hclean
        have hfound := h.found hepoch
        exact h.withEpoch (epoch.quarantinedWith quarantine.amount reserve) rfl rfl hfound
      case LpRewardsClaimed claim =>
        obtain ⟨epoch, hepoch, -, -, rfl⟩ := clean_lpRewardsClaimed.mp hclean
        refine (h.moved _ _ _).withEpoch (epoch.paid claim.owner claim.amount) rfl rfl ?_
        exact (h.found hepoch).set (lpPositionOrEmpty_owner (h.found hepoch) _)
      case SwapExecuted => exact keyed_of_swap h hclean
      case LiquiditySeeded => exact keyed_of_liquidity h hclean
      case LiquidityAdded => exact keyed_of_liquidity h hclean
      case LiquidityRemoved => exact keyed_of_liquidity h hclean
      case Unknown => exact absurd hclean (by simp)
      all_goals exact absurd rfl hconfiguration

end

/-! ## Histories -/

/-- A group's events keep the keys one after another, and closing it writes nothing. -/
theorem keyed_of_accepted {prior next : ProtocolProjection} {transaction : List ProtocolEvent}
    (hkeyed : prior.Keyed) (h : accepted prior transaction = some next) : next.Keyed := by
  obtain ⟨-, rfl⟩ | ⟨first, rest, replayed, closed, -, haccepts, rfl⟩ := accepted_eq_some.mp h
  · exact hkeyed
  · have hrun : replayed.next.Keyed := by
      refine Clean.forEach_induction (P := fun c => c.next.Keyed) haccepts.events hkeyed ?_
      intro event _ c c' hc hclean
      exact keyed_of_clean hc hclean
    have hclosed : closed.next.Keyed := by
      rw [(clean_closingChecks haccepts.books).next]
      exact hrun.of_eq rfl rfl
    exact hclosed.of_eq rfl rfl

/-- **The projections of alert-free replay are keyed.** -/
theorem keyed_of_replayed {history : List (List ProtocolEvent)} {projection : ProtocolProjection}
    (h : replayed history = some projection) : projection.Keyed := by
  refine replayed_induction (P := fun _ projection => projection.Keyed) ?_ ?_ h
  · exact ProtocolProjection.Keyed.empty
  · intro history transaction prior next hprior haccepted
    exact keyed_of_accepted hprior haccepted

end CedraReflect.indexer
