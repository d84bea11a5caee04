/-
What one event does to an epoch and to the pool, read off its handler.

An epoch is looked up, checked and written back under its own number. The pool's
receipts move both sides of a wallet and the reserves.
-/
import CedraReflect.ReplaySteps

set_option autoImplicit false
set_option linter.constructorNameAsVariable false

namespace CedraReflect.indexer

open Audited

/-! ## Epochs -/

/-- What opens an epoch. -/
def LpEpochOpenedEvent.opened (event : LpEpochOpenedEvent) : IndexedLpEpoch :=
  { epoch := event.epoch
    stateId := event.stateId
    status := .active
    rewardVault := event.rewardVault
    index := 0
    indexRemainder := 0
    totalShares := 0
    aggregateCorrection := 0
    unallocatedRewards := 0
    roundingReserve := 0
    retiredResidueMagnified := 0
    terminalRoundingBaseUnits := none
    lifetimeReceived := 0
    lifetimeClaimed := 0
    quarantined := false
    positions := ∅ }

theorem clean_lpEpochOpened {base : EventBase} {event : LpEpochOpenedEvent} {c c' : Context}
    {u : Unit} :
    Clean (lpEpochOpened base event) c u c' ↔
      (c.next.lpEpochs.has event.epoch = false
        ∧ c.next.rewardVaultToEpoch.has event.rewardVault = false
        ∧ c.next.stateIdToEpoch.has event.stateId = false ∧ c.next.activeLpEpoch = none)
      ∧ c' = { c with next := { c.next with
          lpEpochs := c.next.lpEpochs.set event.epoch event.opened
          rewardVaultToEpoch := c.next.rewardVaultToEpoch.set event.rewardVault event.epoch
          stateIdToEpoch := c.next.stateIdToEpoch.set event.stateId event.epoch
          activeLpEpoch := some event.epoch } } := by
  simp only [lpEpochOpened, clean_bind, clean_gets, clean_ite, clean_file, clean_updateEpoch,
    clean_setNext, and_assoc, exists_and_left, exists_eq_left, exists_const, and_false, false_or,
    not_or, ne_eq, not_not, Bool.not_eq_true, LpEpochOpenedEvent.opened]

theorem clean_lpEpochStatusChanged {base : EventBase} {event : LpEpochStatusChangedEvent}
    {c c' : Context} {u : Unit} :
    Clean (lpEpochStatusChanged base event) c u c' ↔
      ∃ epoch, c.next.lpEpochs.get? event.epoch = some epoch
        ∧ (event.oldStatus = .active ∧ event.newStatus = .claimOnly ∧ epoch.status = .active
          ∧ c.next.activeLpEpoch = some event.epoch ∧ epoch.totalShares = 0)
        ∧ c' = { c with next := { c.next with
            lpEpochs := c.next.lpEpochs.set epoch.epoch { epoch with status := .claimOnly }
            activeLpEpoch := none } } := by
  rw [lpEpochStatusChanged, clean_inEpoch]
  refine exists_congr fun epoch => and_congr_right fun hepoch => ?_
  simp only [clean_bind, clean_gets, clean_ite, clean_alertIf, clean_updateEpoch, clean_pure,
    clean_setNext, and_assoc, exists_and_left, exists_eq_left, exists_const, not_or, ne_eq,
    not_not]
  constructor
  · rintro ⟨hold, hnew, hstatus, ⟨-, hactive, htotal, rfl⟩ | ⟨hother, -⟩⟩
    · rw [hnew]
      exact ⟨hold, rfl, by rw [hstatus, hold], hactive, htotal, rfl⟩
    · exact absurd hnew hother
  · rintro ⟨hold, hnew, hstatus, hactive, htotal, rfl⟩
    refine ⟨hold, hnew, by rw [hstatus, hold], Or.inl ⟨hnew, hactive, htotal, ?_⟩⟩
    rw [hnew]

@[simp] theorem lpPositionOrEmpty_set (owner other : Address) (position : IndexedLpPosition)
    (positions : OrderedMap Address IndexedLpPosition) :
    lpPositionOrEmpty other (positions.set owner position)
      = if other = owner then position else lpPositionOrEmpty other positions := by
  unfold lpPositionOrEmpty
  rw [OrderedMap.get?_set]
  split_ifs <;> rfl

/-- A position in an epoch after `delta` shares reached it at an index. -/
def IndexedLpPosition.moved (position : IndexedLpPosition) (delta index : ℤ) :
    IndexedLpPosition :=
  { position with
    shares := position.shares + delta
    correction := position.correction - delta * index }

/-- An epoch after `delta` shares were minted for an owner, or burned. -/
@[simps] def IndexedLpEpoch.moved (epoch : IndexedLpEpoch) (owner : Address) (delta : ℤ) :
    IndexedLpEpoch :=
  { epoch with
    totalShares := epoch.totalShares + delta
    aggregateCorrection := epoch.aggregateCorrection - delta * epoch.index
    positions := epoch.positions.set owner
      ((lpPositionOrEmpty owner epoch.positions).moved delta epoch.index) }

/-- What a share receipt adds to the shares. -/
def LpSharesChangedEvent.delta (event : LpSharesChangedEvent) : ℤ :=
  if event.added = true then event.amount else -event.amount

/-- What a share receipt is checked against. -/
structure LpMovable (projection : ProtocolProjection) (epoch : IndexedLpEpoch)
    (event : LpSharesChangedEvent) : Prop where
  active : epoch.status = .active
  healthy : epoch.quarantined = false
  positive : 0 < event.amount
  registered : projection.registeredWallets.has event.owner = true
  covered : 0 ≤ (lpPositionOrEmpty event.owner epoch.positions).shares + event.delta
  coveredTotal : 0 ≤ epoch.totalShares + event.delta
  shares : (lpPositionOrEmpty event.owner epoch.positions).shares + event.delta
    = event.ownerShares
  total : epoch.totalShares + event.delta = event.totalShares
  amount : isMoveUnsigned event.amount 256
  index : isMoveUnsigned epoch.index 256
  product : isMoveUnsigned (event.amount * epoch.index) 256
  correction : isMoveSignedU256 (lpPositionOrEmpty event.owner epoch.positions).correction
  correctionAfter : isMoveSignedU256
    ((lpPositionOrEmpty event.owner epoch.positions).correction - event.delta * epoch.index)
  aggregate : isMoveSignedU256 epoch.aggregateCorrection
  aggregateAfter : isMoveSignedU256 (epoch.aggregateCorrection - event.delta * epoch.index)

theorem clean_adjustLpShares {base : EventBase} {event : LpSharesChangedEvent} {c c' : Context}
    {u : Unit} :
    Clean (adjustLpShares base event) c u c' ↔
      ∃ epoch, c.next.lpEpochs.get? event.epoch = some epoch ∧ LpMovable c.next epoch event
        ∧ c' = { c with next := { c.next with
            lpEpochs := c.next.lpEpochs.set epoch.epoch (epoch.moved event.owner event.delta) } } := by
  rw [adjustLpShares, clean_inEpoch]
  refine exists_congr fun epoch => and_congr_right fun hepoch => ?_
  simp only [clean_bind, clean_gets, clean_ite, clean_file, clean_alertIf, clean_updateEpoch,
    clean_attempt, and_assoc, exists_and_left, exists_eq_left, exists_const, and_false, false_or,
    not_or, not_lt, not_le, ne_eq, not_not, Bool.not_eq_true, Bool.not_eq_false,
    checkedMoveU256Multiply_eq_ok, ← LpSharesChangedEvent.delta.eq_1]
  constructor
  · rintro ⟨hactive, hhealthy, hpositive, hregistered, hcovered, hcoveredTotal, hamount, hindex,
      hproduct, correction, hcorrection, aggregate, haggregate, hshares, htotal, rfl⟩
    rw [settle_eq_ok hproduct, ← LpSharesChangedEvent.delta.eq_1] at hcorrection haggregate
    obtain ⟨hcorrection, hafter, rfl⟩ := hcorrection
    obtain ⟨haggregate, haggregateAfter, rfl⟩ := haggregate
    exact ⟨⟨hactive, hhealthy, hpositive, hregistered, hcovered, hcoveredTotal, hshares, htotal,
      hamount, hindex, hproduct, hcorrection, hafter, haggregate, haggregateAfter⟩, rfl⟩
  · rintro ⟨h, rfl⟩
    exact ⟨h.active, h.healthy, h.positive, h.registered, h.covered, h.coveredTotal, h.amount,
      h.index, h.product, _, (settle_eq_ok h.product).mpr ⟨h.correction, h.correctionAfter, rfl⟩,
      _, (settle_eq_ok h.product).mpr ⟨h.aggregate, h.aggregateAfter, rfl⟩, h.shares, h.total, rfl⟩

/-- What a transfer of shares is checked against. -/
structure LpTransferable (projection : ProtocolProjection) (epoch : IndexedLpEpoch)
    (event : LpSharesTransferredEvent) : Prop where
  active : epoch.status = .active
  healthy : epoch.quarantined = false
  positive : 0 < event.amount
  sender : projection.registeredWallets.has event.sender = true
  recipient : projection.registeredWallets.has event.recipient = true
  covered : event.amount ≤ (lpPositionOrEmpty event.sender epoch.positions).shares
  apart : event.sender ≠ event.recipient
  amount : isMoveUnsigned event.amount 256
  index : isMoveUnsigned epoch.index 256
  product : isMoveUnsigned (event.amount * epoch.index) 256
  senderCorrection : isMoveSignedU256 (lpPositionOrEmpty event.sender epoch.positions).correction
  senderAfter : isMoveSignedU256
    ((lpPositionOrEmpty event.sender epoch.positions).correction + event.amount * epoch.index)
  recipientCorrection :
    isMoveSignedU256 (lpPositionOrEmpty event.recipient epoch.positions).correction
  recipientAfter : isMoveSignedU256
    ((lpPositionOrEmpty event.recipient epoch.positions).correction - event.amount * epoch.index)

/-- An epoch after a transfer of shares. -/
@[simps] def IndexedLpEpoch.transferred (epoch : IndexedLpEpoch) (sender recipient : Address)
    (amount : ℤ) : IndexedLpEpoch :=
  { epoch with
    positions := (epoch.positions.set sender
        ((lpPositionOrEmpty sender epoch.positions).moved (-amount) epoch.index)).set recipient
      ((lpPositionOrEmpty recipient epoch.positions).moved amount epoch.index) }

theorem clean_lpSharesTransferred {base : EventBase} {event : LpSharesTransferredEvent}
    {c c' : Context} {u : Unit} :
    Clean (lpSharesTransferred base event) c u c' ↔
      ∃ epoch, c.next.lpEpochs.get? event.epoch = some epoch ∧ LpTransferable c.next epoch event
        ∧ c' = { c with next := { c.next with
            lpEpochs := c.next.lpEpochs.set epoch.epoch
              (epoch.transferred event.sender event.recipient event.amount) } } := by
  have hdebit : ∀ correction index : ℤ,
      correction + event.amount * index = correction - -event.amount * index := by
    intro correction index
    ring
  rw [lpSharesTransferred, clean_inEpoch]
  refine exists_congr fun epoch => and_congr_right fun hepoch => ?_
  simp only [clean_bind, clean_gets, clean_ite, clean_file, clean_alertIf, clean_updateEpoch,
    clean_attempt, and_assoc, exists_and_left, exists_eq_left, exists_const, and_false, false_or,
    not_or, not_lt, not_le, ne_eq, not_not, Bool.not_eq_true, Bool.not_eq_false,
    checkedMoveU256Multiply_eq_ok, checkedMoveSignedU256AddUnsigned_eq_ok,
    checkedMoveSignedU256SubtractUnsigned_eq_ok]
  constructor
  · rintro ⟨hactive, hhealthy, hpositive, hsender, hrecipient, hcovered, hapart, hamount, hindex,
      hproduct, hcorrection, -, hafter, hcorrection', -, hafter', rfl⟩
    refine ⟨⟨hactive, hhealthy, hpositive, hsender, hrecipient, hcovered, hapart, hamount, hindex,
      hproduct, hcorrection, hafter, hcorrection', hafter'⟩, ?_⟩
    rw [hdebit]
    rfl
  · rintro ⟨h, rfl⟩
    refine ⟨h.active, h.healthy, h.positive, h.sender, h.recipient, h.covered, h.apart, h.amount,
      h.index, h.product, h.senderCorrection, h.product, h.senderAfter, h.recipientCorrection,
      h.product, h.recipientAfter, ?_⟩
    rw [hdebit]
    rfl

/-- A vault's remainder is what it holds beyond its liability and what is set
aside, and it covers both. -/
theorem checkedVaultRemainder_eq_ok {vaultBalance liability unallocated z : ℤ} {label : Text} :
    checkedVaultRemainder vaultBalance liability unallocated label = .ok z ↔
      isMoveUnsigned vaultBalance 256 ∧ isMoveUnsigned liability 256
        ∧ isMoveUnsigned unallocated 256 ∧ liability + unallocated ≤ vaultBalance
        ∧ z = vaultBalance - liability - unallocated := by
  simp only [checkedVaultRemainder, bind_eq_ok, checkedMoveU256Subtract_eq_ok]
  unfold isMoveUnsigned
  constructor
  · rintro ⟨_, ⟨hvault, hliability, hle, rfl⟩, -, hunallocated, hle', rfl⟩
    exact ⟨hvault, hliability, hunallocated, by omega, rfl⟩
  · rintro ⟨hvault, hliability, hunallocated, hle, rfl⟩
    exact ⟨_, ⟨hvault, hliability, by omega, rfl⟩, by omega, hunallocated, by omega, rfl⟩

theorem epochRounding_eq_ok {epoch : IndexedLpEpoch} {label : Text} {z : ℤ} :
    epochRounding epoch label = .ok z ↔
      ∃ vaultBalance liability, expectedLpVaultBalance epoch = .ok vaultBalance
        ∧ lpIndexedLiability epoch = .ok liability
        ∧ isMoveUnsigned vaultBalance 256 ∧ isMoveUnsigned liability 256
        ∧ isMoveUnsigned epoch.unallocatedRewards 256
        ∧ liability + epoch.unallocatedRewards ≤ vaultBalance
        ∧ z = vaultBalance - liability - epoch.unallocatedRewards := by
  simp only [epochRounding, bind_eq_ok, checkedVaultRemainder_eq_ok, exists_and_left]

/-- The first route of `amount` to `vault` that comes before a receipt and that
no receipt has consumed. -/
def openRoute (events : List ProtocolEvent) (consumed : List String) (base : EventBase)
    (epochId amount : ℤ) (vault : Address) : Option (EventBase × CustodyRewardsRoutedEvent) :=
  (select EventBody.route events).find? fun candidate =>
    candidate.1.id ∉ consumed ∧ candidate.2.epoch = epochId ∧ candidate.2.amount = amount
      ∧ candidate.2.lpRewardVault = vault ∧ candidate.1.eventIndex < base.eventIndex

theorem clean_consumeRoute {events : List ProtocolEvent} {base : EventBase}
    {epochId amount : ℤ} {vault : Address} {message : String} {c c' : Context} {u : Unit} :
    Clean (consumeRoute events base epochId amount vault message) c u c' ↔
      ∃ route, openRoute events c.consumedRoutes base epochId amount vault = some route
        ∧ c' = { c with consumedRoutes := c.consumedRoutes ++ [route.1.id] } := by
  simp only [consumeRoute, clean_bind, clean_gets, and_assoc, exists_and_left, exists_eq_left,
    ← openRoute.eq_1]
  rcases openRoute events c.consumedRoutes base epochId amount vault with _ | ⟨route, event⟩
  · simp
  · simp

/-- An epoch after a receipt of rewards moved its index, before the reserve is
written down. -/
@[simps] def IndexedLpEpoch.received (epoch : IndexedLpEpoch) (event : LpRewardIndexAdvancedEvent) :
    IndexedLpEpoch :=
  { epoch with
    index := event.newIndex
    indexRemainder := event.indexRemainder
    lifetimeReceived := epoch.lifetimeReceived + event.received
    roundingReserve := event.roundingReserve }

/-- The magnified units that a receipt of rewards hands out. -/
def LpRewardIndexAdvancedEvent.numerator (event : LpRewardIndexAdvancedEvent)
    (indexRemainder : ℤ) : ℤ :=
  event.received * REFLECTION_MAGNITUDE + indexRemainder

/-- What a receipt of rewards is checked against. -/
structure LpAdvances (projection : ProtocolProjection) (epoch : IndexedLpEpoch)
    (event : LpRewardIndexAdvancedEvent) : Prop where
  active : projection.activeLpEpoch = some event.epoch
  shares : 0 < epoch.totalShares
  previous : event.previousIndex = epoch.index
  newIndex : event.newIndex = epoch.index
    + event.numerator epoch.indexRemainder / epoch.totalShares
  remainder : event.indexRemainder = event.numerator epoch.indexRemainder % epoch.totalShares
  total : event.totalShares = epoch.totalShares
  rounding : epochRounding (epoch.received event) (text "LP index rounding reserve")
    = .ok event.roundingReserve
  amount : isMoveUnsigned event.received 256
  product : isMoveUnsigned (event.received * REFLECTION_MAGNITUDE) 256
  carried : isMoveUnsigned epoch.indexRemainder 256
  numerator : isMoveUnsigned (event.numerator epoch.indexRemainder) 256
  index : isMoveUnsigned epoch.index 256
  increment : isMoveUnsigned (event.numerator epoch.indexRemainder / epoch.totalShares) 256
  indexAfter : isMoveUnsigned event.newIndex 256
  received : isMoveUnsigned epoch.lifetimeReceived 256
  receivedAfter : isMoveUnsigned (epoch.lifetimeReceived + event.received) 256

theorem clean_lpRewardIndexAdvanced {events : List ProtocolEvent} {base : EventBase}
    {event : LpRewardIndexAdvancedEvent} {c c' : Context} {u : Unit} :
    Clean (lpRewardIndexAdvanced events base event) c u c' ↔
      ∃ epoch, c.next.lpEpochs.get? event.epoch = some epoch
        ∧ ∃ route, openRoute events c.consumedRoutes base event.epoch event.received
            epoch.rewardVault = some route
          ∧ LpAdvances c.next epoch event
          ∧ c' = { c with
            consumedRoutes := c.consumedRoutes ++ [route.1.id]
            next := { c.next with
              lpEpochs := c.next.lpEpochs.set epoch.epoch (epoch.received event) } } := by
  rw [lpRewardIndexAdvanced, clean_inEpoch]
  refine exists_congr fun epoch => and_congr_right fun hepoch => ?_
  simp only [clean_bind, clean_gets, clean_ite, clean_file, clean_alertIf, clean_updateEpoch,
    clean_attempt, clean_consumeRoute, and_assoc, exists_and_left, exists_eq_left, exists_const,
    and_false, false_or, not_or, not_le, ne_eq, not_not, checkedMoveU256Multiply_eq_ok,
    checkedMoveU256Add_eq_ok]
  constructor
  · rintro ⟨_, ⟨route, hroute, rfl⟩, hactive, hshares, hamount, -, hproduct, -, hcarried, hnumerator,
      quotient, hquotient, hindex, hincrement, hafter, rest, hrest, hreceived, -, hreceivedAfter,
      reserve, hreserve, hprevious, hnew, hremainder, htotal, hrounding, rfl⟩
    -- The checks are made on quotient and remainder, which the specification writes out.
    rw [divide_eq_ok hnumerator.1] at hquotient
    rw [modulo_eq_ok hnumerator.1] at hrest
    obtain ⟨-, rfl⟩ := hquotient
    obtain ⟨-, rfl⟩ := hrest
    subst hrounding
    refine ⟨route, hroute, ⟨hactive, hshares, hprevious, hnew, hremainder, htotal, hreserve, hamount,
      hproduct, hcarried, hnumerator, hindex, hincrement, ?_, hreceived, hreceivedAfter⟩, rfl⟩
    rwa [hnew]
  · rintro ⟨route, hroute, h, rfl⟩
    -- Division and remainder are defined, as the epoch has shares.
    have hne : epoch.totalShares ≠ 0 := by
      have hpositive := h.shares
      omega
    have hnumerator := h.numerator.1
    refine ⟨_, ⟨route, hroute, rfl⟩, h.active, h.shares, h.amount,
      isMoveUnsigned_REFLECTION_MAGNITUDE, h.product, h.product, h.carried, h.numerator,
      _, (divide_eq_ok hnumerator).mpr ⟨hne, rfl⟩, h.index, h.increment, ?_,
      _, (modulo_eq_ok hnumerator).mpr ⟨hne, rfl⟩, h.received, h.amount, h.receivedAfter,
      event.roundingReserve, h.rounding, h.previous, h.newIndex, h.remainder, h.total, rfl, rfl⟩
    have hafter := h.indexAfter
    rwa [h.newIndex] at hafter

/-- An epoch after rewards reached it while it had no shares. -/
@[simps] def IndexedLpEpoch.quarantinedWith (epoch : IndexedLpEpoch) (amount reserve : ℤ) :
    IndexedLpEpoch :=
  { epoch with
    lifetimeReceived := epoch.lifetimeReceived + amount
    unallocatedRewards := epoch.unallocatedRewards + amount
    quarantined := true
    roundingReserve := reserve }

theorem clean_lpRewardQuarantined {events : List ProtocolEvent} {base : EventBase}
    {event : LpRewardQuarantinedEvent} {c c' : Context} {u : Unit} :
    Clean (lpRewardQuarantined events base event) c u c' ↔
      ∃ epoch, c.next.lpEpochs.get? event.epoch = some epoch
        ∧ ∃ route reserve, openRoute events c.consumedRoutes base event.epoch event.amount
            event.rewardVault = some route
          ∧ (c.next.activeLpEpoch = some event.epoch ∧ epoch.status = .active
            ∧ epoch.totalShares = 0 ∧ epoch.rewardVault = event.rewardVault)
          ∧ epoch.unallocatedRewards + event.amount = event.unallocatedRewards
          ∧ (isMoveUnsigned epoch.lifetimeReceived 256 ∧ isMoveUnsigned event.amount 256
            ∧ isMoveUnsigned (epoch.lifetimeReceived + event.amount) 256)
          ∧ epochRounding (epoch.quarantinedWith event.amount reserve)
            (text "quarantined LP rounding reserve") = .ok reserve
          ∧ c' = { c with
            consumedRoutes := c.consumedRoutes ++ [route.1.id]
            next := { c.next with
              lpEpochs := c.next.lpEpochs.set epoch.epoch
                (epoch.quarantinedWith event.amount reserve) } } := by
  rw [lpRewardQuarantined, clean_inEpoch]
  refine exists_congr fun epoch => and_congr_right fun hepoch => ?_
  simp only [clean_bind, clean_gets, clean_alertIf, clean_updateEpoch, clean_attempt,
    clean_consumeRoute, and_assoc, exists_and_left, exists_eq_left, exists_const, not_or, ne_eq,
    not_not, checkedMoveU256Add_eq_ok]
  constructor
  · rintro ⟨_, ⟨route, hroute, rfl⟩, hactive, hstatus, htotal, hvault, hset, hreceived, hamount,
      hafter, reserve, hreserve, rfl⟩
    exact ⟨route, hroute, hactive, hstatus, htotal, hvault, hset, hreceived, hamount, hafter,
      reserve, hreserve, rfl⟩
  · rintro ⟨route, hroute, hactive, hstatus, htotal, hvault, hset, hreceived, hamount, hafter,
      reserve, hreserve, rfl⟩
    exact ⟨_, ⟨route, hroute, rfl⟩, hactive, hstatus, htotal, hvault, hset, hreceived, hamount,
      hafter, reserve, hreserve, rfl⟩

/-- An epoch after a position of it was paid. -/
@[simps] def IndexedLpEpoch.paid (epoch : IndexedLpEpoch) (owner : Address) (amount : ℤ) :
    IndexedLpEpoch :=
  { epoch with
    positions := epoch.positions.set owner
      { lpPositionOrEmpty owner epoch.positions with
        claimed := (lpPositionOrEmpty owner epoch.positions).claimed + amount }
    lifetimeClaimed := epoch.lifetimeClaimed + amount }

/-- What a claim of rewards is checked against, before it reaches the wallet. -/
structure LpClaimable (epoch : IndexedLpEpoch) (event : LpRewardsClaimedEvent) : Prop where
  positive : 0 < event.amount
  pending : ∃ pending, lpPositionPending (lpPositionOrEmpty event.owner epoch.positions) epoch
    = .ok pending ∧ event.amount ≤ pending
  total : (lpPositionOrEmpty event.owner epoch.positions).claimed + event.amount
    = event.totalClaimed
  amount : isMoveUnsigned event.amount 256
  claimed : isMoveUnsigned (lpPositionOrEmpty event.owner epoch.positions).claimed 256
  totalFits : isMoveUnsigned event.totalClaimed 256
  lifetime : isMoveUnsigned epoch.lifetimeClaimed 256
  lifetimeAfter : isMoveUnsigned (epoch.lifetimeClaimed + event.amount) 256

theorem clean_lpRewardsClaimed {base : EventBase} {event : LpRewardsClaimedEvent} {c c' : Context}
    {u : Unit} :
    Clean (lpRewardsClaimed base event) c u c' ↔
      ∃ epoch, c.next.lpEpochs.get? event.epoch = some epoch ∧ LpClaimable epoch event
        ∧ Movable c.next event.owner .trfl event.amount
        ∧ c' = { c with next :=
          { c.next.moved event.owner .trfl event.amount with
            lpEpochs := c.next.lpEpochs.set epoch.epoch
              (epoch.paid event.owner event.amount) } } := by
  rw [lpRewardsClaimed, clean_inEpoch]
  refine exists_congr fun epoch => and_congr_right fun hepoch => ?_
  simp only [clean_bind, clean_alertIf, clean_updateEpoch, clean_attempt, clean_adjustWalletAsset,
    and_assoc, exists_and_left, exists_eq_left, exists_const, not_or, not_lt, not_le, ne_eq,
    not_not, checkedMoveU256Add_eq_ok]
  constructor
  · rintro ⟨pending, hpending, hpositive, hle, hclaimed, hamount, hfits, htotal, hlifetime, -,
      hafter, hmovable, rfl⟩
    refine ⟨⟨hpositive, ⟨pending, hpending, hle⟩, htotal, hamount, hclaimed, ?_, hlifetime, hafter⟩,
      ⟨hmovable.trfl, hmovable.tusd⟩, rfl⟩
    -- The total that the event reports is the one that was checked to fit.
    rwa [← htotal]
  · rintro ⟨h, hmovable, rfl⟩
    obtain ⟨pending, hpending, hle⟩ := h.pending
    refine ⟨pending, hpending, h.positive, hle, h.claimed, h.amount, ?_, h.total, h.lifetime,
      h.amount, h.lifetimeAfter, ⟨hmovable.trfl, hmovable.tusd⟩, rfl⟩
    rw [h.total]
    exact h.totalFits

/-- An epoch after the fraction of a position was retired. -/
@[simps] def IndexedLpEpoch.retired (epoch : IndexedLpEpoch) (owner : Address)
    (residue reserve : ℤ) : IndexedLpEpoch :=
  { epoch with
    aggregateCorrection := epoch.aggregateCorrection - residue
    retiredResidueMagnified := epoch.retiredResidueMagnified + residue
    roundingReserve := reserve
    positions := epoch.positions.set owner
      { lpPositionOrEmpty owner epoch.positions with
        correction := (lpPositionOrEmpty owner epoch.positions).correction - residue } }

theorem lpPositionOrEmpty_shares (owner : Address)
    (positions : OrderedMap Address IndexedLpPosition) :
    (lpPositionOrEmpty owner positions).shares
      = ((positions.get? owner).map fun position => position.shares).getD 0 := by
  unfold lpPositionOrEmpty
  rcases positions.get? owner with _ | position
  · rfl
  · rfl

/-- What an owner who leaves is not paid is less than one unit. -/
structure Retires (epoch : IndexedLpEpoch) (event : LpFractionalResidueRetiredEvent) :
    Prop where
  positive : 0 < event.residueMagnified
  fraction : event.residueMagnified < REFLECTION_MAGNITUDE
  residue : event.residueMagnified
    = (lpPositionOrEmpty event.owner epoch.positions).correction
      + (lpPositionOrEmpty event.owner epoch.positions).shares * epoch.index
      - (lpPositionOrEmpty event.owner epoch.positions).claimed * REFLECTION_MAGNITUDE
  shares : 0 < (lpPositionOrEmpty event.owner epoch.positions).shares
  cumulative : event.cumulativeRetiredResidueMagnified
    = epoch.retiredResidueMagnified + event.residueMagnified
  cumulativeFits : isMoveUnsigned event.cumulativeRetiredResidueMagnified 256
  rounding : epochRounding (epoch.retired event.owner event.residueMagnified
      event.roundingReserveBaseUnits) (text "LP residue rounding reserve")
    = .ok event.roundingReserveBaseUnits

theorem clean_lpFractionalResidueRetired {events : List ProtocolEvent} {base : EventBase}
    {event : LpFractionalResidueRetiredEvent} {c c' : Context} {u : Unit}
    (h : Clean (lpFractionalResidueRetired events base event) c u c') :
    ∃ epoch, c.next.lpEpochs.get? event.epoch = some epoch ∧ Retires epoch event
      ∧ c' = { c with next := { c.next with
          lpEpochs := c.next.lpEpochs.set epoch.epoch
            (epoch.retired event.owner event.residueMagnified event.roundingReserveBaseUnits) } } := by
  rw [lpFractionalResidueRetired, clean_inEpoch] at h
  obtain ⟨epoch, hepoch, h⟩ := h
  refine ⟨epoch, hepoch, ?_⟩
  simp only [clean_bind, clean_ite, clean_file, clean_alertIf, clean_updateEpoch, clean_attempt,
    clean_failIf, and_assoc, exists_and_left, exists_eq_left, exists_const, and_false, false_or,
    not_or, not_lt, not_le, ne_eq, not_not, checkedMoveU256Multiply_eq_ok,
    checkedMoveSignedU256AddUnsigned_eq_ok, checkedMoveU256Subtract_eq_ok,
    checkedMoveU256Add_eq_ok, checkedMoveSignedU256SubtractUnsigned_eq_ok,
    ← lpPositionOrEmpty_shares] at h
  obtain ⟨-, -, -, -, -, -, hshares, -, -, -, -, -, -, -, -, -, -, -, -, -, -, -, -, hafter, hpositive,
    hfraction, -, hresidue, hcumulative, -, -, -, -, -, -, rounding, hrounding, -, -, hreserve, rfl⟩ := h
  rw [← hresidue] at hafter hpositive hfraction hcumulative hrounding ⊢
  subst hreserve
  refine ⟨⟨hpositive, hfraction, hresidue, hshares, hcumulative, ?_, hrounding⟩, rfl⟩
  rwa [hcumulative]

/-- What a terminal classification is checked against. -/
structure Classifies (epoch : IndexedLpEpoch) (event : LpEpochTerminalDustClassifiedEvent) :
    Prop where
  status : epoch.status = .claimOnly
  unclassified : epoch.terminalRoundingBaseUnits = none
  shares : epoch.totalShares = 0
  healthy : epoch.quarantined = false
  unallocated : epoch.unallocatedRewards = 0

theorem clean_lpEpochTerminalDustClassified {base : EventBase}
    {event : LpEpochTerminalDustClassifiedEvent} {c c' : Context} {u : Unit}
    (h : Clean (lpEpochTerminalDustClassified base event) c u c') :
    ∃ epoch, c.next.lpEpochs.get? event.epoch = some epoch ∧ Classifies epoch event
      ∧ c' = { c with next := { c.next with
          lpEpochs := c.next.lpEpochs.set epoch.epoch
            { epoch with terminalRoundingBaseUnits := some epoch.roundingReserve } } } := by
  rw [lpEpochTerminalDustClassified, clean_inEpoch] at h
  obtain ⟨epoch, hepoch, h⟩ := h
  refine ⟨epoch, hepoch, ?_⟩
  simp only [clean_bind, clean_alertIf, clean_updateEpoch, clean_attempt, and_assoc,
    exists_and_left, exists_eq_left, exists_const, not_or, ne_eq, not_not, Bool.not_eq_true] at h
  obtain ⟨_, -, _, -, -, -, -, -, -, -, hstatus, hunclassified, -, hshares, hhealthy, hunallocated,
    -, -, -, -, -, -, rfl⟩ := h
  exact ⟨⟨hstatus, hunclassified, hshares, hhealthy, hunallocated⟩, rfl⟩

/-! ## The pool -/

/-- A projection after a receipt of the pool wrote the reserves down. -/
@[simps] def ProtocolProjection.withReserves (projection : ProtocolProjection)
    (trflReserve tusdReserve : ℤ) : ProtocolProjection :=
  { projection with pool := { projection.pool with trflReserve, tusdReserve } }

/-- The trader's side of a swap, a seller's debit apart. -/
def ProtocolProjection.settled (projection : ProtocolProjection) (event : SwapExecutedEvent) :
    ProtocolProjection :=
  match event.direction with
  | .sell => projection.moved event.account .tusd event.netUserReceipt
  | .buy =>
      (projection.moved event.account .tusd (-event.grossAmount)).moved event.account .trfl
        event.netUserReceipt

/-- The trader's side is covered. -/
structure SwapSettles (projection : ProtocolProjection) (event : SwapExecutedEvent) : Prop where
  sell : event.direction = .sell → Movable projection event.account .tusd event.netUserReceipt
  buy : event.direction = .buy → Movable projection event.account .tusd (-event.grossAmount)
    ∧ Movable (projection.moved event.account .tusd (-event.grossAmount)) event.account .trfl
      event.netUserReceipt

namespace SwapExecutedEvent

variable (event : SwapExecutedEvent) (pool : IndexedPool)

/-- What the reflection fee is taken from. -/
def feeBase : ℤ := if event.direction = .sell then event.grossAmount else event.grossPoolOutput

/-- What reaches the pool before its own fee. -/
def ammGrossInput : ℤ :=
  if event.direction = .sell then event.netReserveInput else event.grossAmount

/-- What the constant product is computed with. -/
def invariantInput : ℤ :=
  (event.ammGrossInput * (BPS_DENOMINATOR - pool.ammFeeBps)).tdiv BPS_DENOMINATOR

def reserveIn : ℤ := if event.direction = .sell then pool.trflReserve else pool.tusdReserve

def reserveOut : ℤ := if event.direction = .sell then pool.tusdReserve else pool.trflReserve

end SwapExecutedEvent

/-- A swap's receipt against the reserves and the fee of a projection. -/
structure SwapAgrees (pool : IndexedPool) (feeBps : ℤ) (event : SwapExecutedEvent) : Prop where
  reflectionFee : event.reflectionFee = (event.feeBase * feeBps).tdiv BPS_DENOMINATOR
  reserveInput : event.netReserveInput
    = if event.direction = .sell then event.grossAmount - event.reflectionFee
      else event.grossAmount
  ammFee : event.ammFee = event.ammGrossInput - event.invariantInput pool
  output : divide (event.reserveOut pool * event.invariantInput pool)
    (event.reserveIn pool + event.invariantInput pool) = .ok event.grossPoolOutput
  receipt : event.netUserReceipt
    = if event.direction = .sell then event.grossPoolOutput
      else event.grossPoolOutput - event.reflectionFee
  trflReserve : event.trflReserveAfter
    = if event.direction = .sell then pool.trflReserve + event.netReserveInput
      else pool.trflReserve - event.grossPoolOutput
  tusdReserve : event.tusdReserveAfter
    = if event.direction = .sell then pool.tusdReserve - event.grossPoolOutput
      else pool.tusdReserve + event.netReserveInput

theorem swapAgrees_of_sell {pool : IndexedPool} {feeBps : ℤ} {event : SwapExecutedEvent}
    (hsell : event.direction = .sell) :
    SwapAgrees pool feeBps event ↔
      divide (pool.tusdReserve
          * (event.netReserveInput * (BPS_DENOMINATOR - pool.ammFeeBps)).tdiv BPS_DENOMINATOR)
        (pool.trflReserve
          + (event.netReserveInput * (BPS_DENOMINATOR - pool.ammFeeBps)).tdiv BPS_DENOMINATOR)
        = .ok event.grossPoolOutput
      ∧ event.reflectionFee = (event.grossAmount * feeBps).tdiv BPS_DENOMINATOR
      ∧ event.netReserveInput = event.grossAmount - event.reflectionFee
      ∧ event.ammFee = event.netReserveInput
        - (event.netReserveInput * (BPS_DENOMINATOR - pool.ammFeeBps)).tdiv BPS_DENOMINATOR
      ∧ event.netUserReceipt = event.grossPoolOutput
      ∧ event.trflReserveAfter = pool.trflReserve + event.netReserveInput
      ∧ event.tusdReserveAfter = pool.tusdReserve - event.grossPoolOutput := by
  constructor
  · intro h
    have houtput := h.output
    have hfee := h.reflectionFee
    have hinput := h.reserveInput
    have hamm := h.ammFee
    have hreceipt := h.receipt
    have htrfl := h.trflReserve
    have htusd := h.tusdReserve
    simp only [SwapExecutedEvent.feeBase, SwapExecutedEvent.ammGrossInput,
      SwapExecutedEvent.invariantInput, SwapExecutedEvent.reserveIn,
      SwapExecutedEvent.reserveOut, hsell, if_true] at houtput hfee hinput hamm hreceipt htrfl htusd
    exact ⟨houtput, hfee, hinput, hamm, hreceipt, htrfl, htusd⟩
  · rintro ⟨houtput, hfee, hinput, hamm, hreceipt, htrfl, htusd⟩
    constructor <;> simpa only [SwapExecutedEvent.feeBase, SwapExecutedEvent.ammGrossInput,
      SwapExecutedEvent.invariantInput, SwapExecutedEvent.reserveIn,
      SwapExecutedEvent.reserveOut, hsell, if_true]

theorem swapAgrees_of_buy {pool : IndexedPool} {feeBps : ℤ} {event : SwapExecutedEvent}
    (hbuy : event.direction = .buy) :
    SwapAgrees pool feeBps event ↔
      divide (pool.trflReserve
          * (event.grossAmount * (BPS_DENOMINATOR - pool.ammFeeBps)).tdiv BPS_DENOMINATOR)
        (pool.tusdReserve
          + (event.grossAmount * (BPS_DENOMINATOR - pool.ammFeeBps)).tdiv BPS_DENOMINATOR)
        = .ok event.grossPoolOutput
      ∧ event.reflectionFee = (event.grossPoolOutput * feeBps).tdiv BPS_DENOMINATOR
      ∧ event.netReserveInput = event.grossAmount
      ∧ event.ammFee = event.grossAmount
        - (event.grossAmount * (BPS_DENOMINATOR - pool.ammFeeBps)).tdiv BPS_DENOMINATOR
      ∧ event.netUserReceipt = event.grossPoolOutput - event.reflectionFee
      ∧ event.trflReserveAfter = pool.trflReserve - event.grossPoolOutput
      ∧ event.tusdReserveAfter = pool.tusdReserve + event.netReserveInput := by
  constructor
  · intro h
    have houtput := h.output
    have hfee := h.reflectionFee
    have hinput := h.reserveInput
    have hamm := h.ammFee
    have hreceipt := h.receipt
    have htrfl := h.trflReserve
    have htusd := h.tusdReserve
    simp only [SwapExecutedEvent.feeBase, SwapExecutedEvent.ammGrossInput,
      SwapExecutedEvent.invariantInput, SwapExecutedEvent.reserveIn, SwapExecutedEvent.reserveOut,
      hbuy, reduceCtorEq, if_false] at houtput hfee hinput hamm hreceipt htrfl htusd
    exact ⟨houtput, hfee, hinput, hamm, hreceipt, htrfl, htusd⟩
  · rintro ⟨houtput, hfee, hinput, hamm, hreceipt, htrfl, htusd⟩
    constructor <;> simpa only [SwapExecutedEvent.feeBase, SwapExecutedEvent.ammGrossInput,
      SwapExecutedEvent.invariantInput, SwapExecutedEvent.reserveIn,
      SwapExecutedEvent.reserveOut, hbuy, reduceCtorEq, if_false]

theorem clean_swapExecuted {base : EventBase} {event : SwapExecutedEvent} {c c' : Context}
    {u : Unit} :
    Clean (swapExecuted base event) c u c' ↔
      ∃ c₁, DebitsOnce c event c₁ ∧ SwapSettles c₁.next event
        ∧ SwapAgrees c₁.next.pool c₁.next.feeBps event
        ∧ c' = { c₁ with
          next := (c₁.next.settled event).withReserves event.trflReserveAfter
            event.tusdReserveAfter } := by
  rw [swapExecuted, clean_bind]
  unfold ProtocolProjection.settled
  constructor
  · rintro ⟨debited, c₁, hdebited, h⟩
    obtain ⟨rfl, rfl⟩ := (clean_gets ..).mp hdebited
    obtain ⟨c₂, hbranch, h⟩ := clean_branch.mp h
    refine ⟨c₂, clean_debitOnce.mp hbranch, ?_⟩
    rcases hdirection : event.direction with _ | _
    · rw [swapAgrees_of_buy hdirection]
      simp only [hdirection, reduceCtorEq, if_false, clean_bind, clean_gets, clean_alertIf,
        clean_setNext, clean_attempt, clean_adjustWalletAsset, and_assoc, exists_and_left,
        exists_eq_left, exists_const, not_or, not_not, ne_eq, ProtocolProjection.moved_pool,
        ProtocolProjection.moved_feeBps] at h
      obtain ⟨hdebit, hcredit, output, houtput, hfee, hinput, hamm, rfl, hreceipt, htrfl, htusd,
        rfl⟩ := h
      rw [← hfee] at hreceipt
      exact ⟨⟨by simp [hdirection], fun _ => ⟨hdebit, hcredit⟩⟩,
        ⟨houtput, hfee, hinput, hamm, hreceipt, htrfl, htusd⟩, rfl⟩
    · rw [swapAgrees_of_sell hdirection]
      simp only [hdirection, if_true, clean_bind, clean_gets, clean_alertIf,
        clean_setNext, clean_attempt, clean_adjustWalletAsset, and_assoc, exists_and_left,
        exists_eq_left, exists_const, not_or, not_not, ne_eq, ProtocolProjection.moved_pool,
        ProtocolProjection.moved_feeBps] at h
      obtain ⟨hcredit, output, houtput, hfee, hinput, hamm, rfl, hreceipt, htrfl, htusd, rfl⟩ := h
      exact ⟨⟨fun _ => hcredit, by simp [hdirection]⟩,
        ⟨houtput, hfee, hinput, hamm, hreceipt, htrfl, htusd⟩, rfl⟩
  · rintro ⟨c₁, hdebits, hsettles, hagrees, rfl⟩
    refine ⟨_, c, (clean_gets ..).mpr ⟨rfl, rfl⟩,
      clean_branch.mpr ⟨c₁, clean_debitOnce.mpr hdebits, ?_⟩⟩
    rcases hdirection : event.direction with _ | _
    · rw [swapAgrees_of_buy hdirection] at hagrees
      obtain ⟨houtput, hfee, hinput, hamm, hreceipt, htrfl, htusd⟩ := hagrees
      obtain ⟨hdebit, hcredit⟩ := hsettles.buy hdirection
      simp only [reduceCtorEq, if_false, clean_bind, clean_gets, clean_alertIf,
        clean_setNext, clean_attempt, clean_adjustWalletAsset, and_assoc, exists_and_left,
        exists_eq_left, exists_const, not_or, not_not, ne_eq, ProtocolProjection.moved_pool,
        ProtocolProjection.moved_feeBps]
      rw [hfee] at hreceipt
      exact ⟨hdebit, hcredit, _, houtput, hfee, hinput, hamm, rfl, hreceipt, htrfl, htusd, rfl⟩
    · rw [swapAgrees_of_sell hdirection] at hagrees
      obtain ⟨houtput, hfee, hinput, hamm, hreceipt, htrfl, htusd⟩ := hagrees
      simp only [if_true, clean_bind, clean_gets, clean_alertIf,
        clean_setNext, clean_attempt, clean_adjustWalletAsset, and_assoc, exists_and_left,
        exists_eq_left, exists_const, not_or, not_not, ne_eq, ProtocolProjection.moved_pool,
        ProtocolProjection.moved_feeBps]
      exact ⟨hsettles.sell hdirection, _, houtput, hfee, hinput, hamm, rfl, hreceipt, htrfl, htusd,
        rfl⟩

/-- A movement that is left out when it is nothing. -/
def ProtocolProjection.credited (projection : ProtocolProjection) (account : Address)
    (asset : Metadata) (amount : ℤ) : ProtocolProjection :=
  if 0 < amount then projection.moved account asset amount else projection

@[simp] theorem credited_pool (projection : ProtocolProjection) (account : Address)
    (asset : Metadata) (amount : ℤ) :
    (projection.credited account asset amount).pool = projection.pool := by
  unfold ProtocolProjection.credited
  split_ifs
  · rfl
  · rfl

/-- The provider's side of a liquidity receipt. -/
def ProtocolProjection.provided (projection : ProtocolProjection) (kind : LiquidityKind)
    (event : LiquidityEvent) : ProtocolProjection :=
  match kind with
  | .seeded => projection
  | .added =>
      (projection.moved event.provider .trfl (-event.trflAmount)).moved event.provider .tusd
        (-event.tusdAmount)
  | .removed _ =>
      (projection.credited event.provider .trfl event.trflAmount).credited event.provider .tusd
        event.tusdAmount

/-- The pool after a liquidity receipt. -/
@[simps] def IndexedPool.booked (pool : IndexedPool) (kind : LiquidityKind)
    (event : LiquidityEvent) : IndexedPool :=
  { pool with
    trflReserve := event.trflReserveAfter
    tusdReserve := event.tusdReserveAfter
    seeded := if kind = .seeded then true else if kind = .removed true then false else pool.seeded
    shutdownMode := if kind = .removed true then false else pool.shutdownMode }

/-- The provider's side is covered. -/
structure Provides (projection : ProtocolProjection) (kind : LiquidityKind)
    (event : LiquidityEvent) : Prop where
  added : kind = .added → Movable projection event.provider .trfl (-event.trflAmount)
    ∧ Movable (projection.moved event.provider .trfl (-event.trflAmount)) event.provider .tusd
      (-event.tusdAmount)
  removed : ∀ finalExit, kind = .removed finalExit →
    (0 < event.trflAmount → Movable projection event.provider .trfl event.trflAmount)
    ∧ (0 < event.tusdAmount → Movable (projection.credited event.provider .trfl event.trflAmount)
      event.provider .tusd event.tusdAmount)

/-- The sign with which a liquidity receipt moves the reserves. -/
def LiquidityKind.sign (kind : LiquidityKind) : ℤ := if kind.isRemoval = true then -1 else 1

/-- A liquidity receipt against the projection it is replayed on and the one
before its group. -/
structure LiquidityAgrees (prior projection : ProtocolProjection) (kind : LiquidityKind)
    (event : LiquidityEvent) : Prop where
  seed : projection.packageVersion = "testnet-v0.2.0" → kind = .seeded →
    event.epoch = 1 ∧ projection.lifecycle = some .LIVE ∧ projection.pool.seeded = false
  shares : 0 < event.lpShares
  trfl : 0 ≤ event.trflAmount
  tusd : 0 ≤ event.tusdAmount
  moves : ¬ (event.trflAmount = 0 ∧ event.tusdAmount = 0)
  twoSided : kind.isRemoval = false → event.trflAmount ≠ 0 ∧ event.tusdAmount ≠ 0
  oneSided : kind.isRemoval = true → prior.pool.shutdownMode = false →
    (event.trflAmount = 0 ↔ event.tusdAmount = 0)
  trflReserve : event.trflReserveAfter = projection.pool.trflReserve + kind.sign * event.trflAmount
  tusdReserve : event.tusdReserveAfter = projection.pool.tusdReserve + kind.sign * event.tusdAmount

/-- The three alerts of a liquidity receipt. -/
theorem liquidityAgrees_iff {prior projection : ProtocolProjection} {kind : LiquidityKind}
    {event : LiquidityEvent} :
    (¬ (projection.packageVersion = "testnet-v0.2.0" ∧ kind = .seeded
        ∧ (event.epoch ≠ 1 ∨ projection.lifecycle ≠ some .LIVE ∨ projection.pool.seeded = true))
      ∧ ¬ (event.lpShares ≤ 0 ∨ event.trflAmount < 0 ∨ event.tusdAmount < 0
        ∨ (event.trflAmount = 0 ∧ event.tusdAmount = 0)
        ∨ (kind.isRemoval = false ∧ (event.trflAmount = 0 ∨ event.tusdAmount = 0))
        ∨ ((kind.isRemoval = true ∧ ¬ (event.trflAmount = 0 ↔ event.tusdAmount = 0))
          ∧ prior.pool.shutdownMode = false))
      ∧ ¬ (event.trflReserveAfter ≠ projection.pool.trflReserve + kind.sign * event.trflAmount
        ∨ event.tusdReserveAfter ≠ projection.pool.tusdReserve + kind.sign * event.tusdAmount))
      ↔ LiquidityAgrees prior projection kind event := by
  simp only [not_or, not_and, ne_eq, not_not, not_lt, not_le, Bool.not_eq_true]
  constructor
  · rintro ⟨hseed, ⟨hshares, htrfl, htusd, hmoves, htwo, hone⟩, htrflReserve, htusdReserve⟩
    exact ⟨hseed, hshares, htrfl, htusd, fun h => hmoves h.1 h.2, htwo,
      fun hremoval hopen => by
        by_contra hsided
        exact hone ⟨hremoval, hsided⟩ hopen, htrflReserve, htusdReserve⟩
  · intro h
    exact ⟨h.seed, ⟨h.shares, h.trfl, h.tusd, fun htrfl htusd => h.moves ⟨htrfl, htusd⟩, h.twoSided,
      fun hremoval hopen => hremoval.2 (h.oneSided hremoval.1 hopen)⟩, h.trflReserve, h.tusdReserve⟩

theorem clean_credited {account : Address} {asset : Metadata} {amount : ℤ} {base : EventBase}
    {c c' : Context} {u : Unit} :
    Clean (if 0 < amount then adjustWalletAsset account asset amount base else pure ()) c u c' ↔
      (0 < amount → Movable c.next account asset amount)
        ∧ c' = { c with next := c.next.credited account asset amount } := by
  unfold ProtocolProjection.credited
  rw [clean_ite, clean_adjustWalletAsset, clean_pure]
  by_cases hamount : 0 < amount
  · simp [hamount]
  · simp [hamount]

theorem clean_liquidityReplayed {prior : ProtocolProjection} {base : EventBase}
    {kind : LiquidityKind} {event : LiquidityEvent} {c c' : Context} {u : Unit} :
    Clean (liquidityReplayed prior base kind event) c u c' ↔
      LiquidityAgrees prior c.next kind event ∧ Provides c.next kind event
        ∧ c' = { c with next := { c.next.provided kind event with
            pool := c.next.pool.booked kind event } } := by
  rw [← liquidityAgrees_iff]
  simp only [liquidityReplayed, clean_bind, clean_gets, clean_alertIf, exists_and_left,
    exists_eq_left, exists_const, and_assoc]
  -- The checks are the same for the three kinds; what follows them is not.
  refine and_congr_right fun _ => and_congr_right fun _ => and_congr_right fun _ => ?_
  rcases kind with _ | _ | finalExit
  · simp only [clean_setNext]
    refine ⟨fun h => ⟨⟨by simp, by simp⟩, h⟩, fun h => h.2⟩
  · simp only [clean_bind, clean_setNext, clean_adjustWalletAsset, and_assoc, exists_and_left,
      exists_eq_left, exists_const]
    constructor
    · rintro ⟨hdebit, hdebit', rfl⟩
      exact ⟨⟨fun _ => ⟨hdebit, hdebit'⟩, by simp⟩, rfl⟩
    · rintro ⟨hprovides, rfl⟩
      obtain ⟨hdebit, hdebit'⟩ := hprovides.added rfl
      exact ⟨hdebit, hdebit', rfl⟩
  · constructor
    · intro h
      obtain ⟨c₁, hfirst, h⟩ := clean_branch.mp h
      obtain ⟨c₂, hsecond, h⟩ := clean_branch.mp h
      obtain ⟨htrfl, rfl⟩ := clean_credited.mp hfirst
      obtain ⟨htusd, rfl⟩ := clean_credited.mp hsecond
      rw [clean_setNext] at h
      refine ⟨⟨by simp, fun _ _ => ⟨htrfl, htusd⟩⟩, ?_⟩
      rw [h]
      simp [ProtocolProjection.provided, IndexedPool.booked]
    · rintro ⟨hprovides, rfl⟩
      obtain ⟨htrfl, htusd⟩ := hprovides.removed finalExit rfl
      refine clean_branch.mpr ⟨_, clean_credited.mpr ⟨htrfl, rfl⟩,
        clean_branch.mpr ⟨_, clean_credited.mpr ⟨htusd, rfl⟩, ?_⟩⟩
      rw [clean_setNext]
      simp [ProtocolProjection.provided, IndexedPool.booked]

end CedraReflect.indexer
