/-
What one event does to a projection, read off its handler.

A handler that is clean passed each of its checks and left a projection that is
a function of the one it found. There is a lemma per handler that says both at
once, so that nothing after this module looks inside a handler again.
-/
import CedraReflect.ReduceGroup
import Mathlib.Tactic.Ring
import Mathlib.Tactic.Simps.Basic

set_option autoImplicit false
set_option linter.constructorNameAsVariable false

namespace CedraReflect.indexer

open Audited

/-! ## Statements -/

section Statements

variable (p : Prop) [Decidable p] (event : EventBase) (c c' : Context) (u : Unit)

@[simp] theorem clean_setNext (f : ProtocolProjection → ProtocolProjection) :
    Clean (setNext f) c u c' ↔ c' = { c with next := f c.next } := by
  simp [setNext]

@[simp] theorem clean_alertIf (code : AlertCode) (message : String)
    (expected observed : Option Text) :
    Clean (alertIf p event code message expected observed) c u c' ↔ ¬ p ∧ c' = c := by
  simp [alertIf]

/-- A case that has an epoch to work on. -/
theorem clean_inEpoch (epochId : ℤ) (body : IndexedLpEpoch → Replay Unit) :
    Clean (inEpoch event epochId body) c u c' ↔
      ∃ epoch, c.next.lpEpochs.get? epochId = some epoch ∧ Clean (body epoch) c u c' := by
  simp only [inEpoch, requireEpoch, clean_bind, clean_gets, clean_fileIf, clean_pure, and_assoc,
    exists_and_left, exists_eq_left, exists_const]
  rcases c.next.lpEpochs.get? epochId with _ | epoch
  · simp
  · simp

@[simp] theorem clean_updateEpoch (epoch : IndexedLpEpoch) :
    Clean (updateEpoch epoch) c u c' ↔
      c' = { c with next :=
        { c.next with lpEpochs := c.next.lpEpochs.set epoch.epoch epoch } } := by
  simp [updateEpoch]

end Statements

/-! ## Wallets -/

/-- A position that `delta` of an asset reached while the index stood at
`index`. -/
def IndexedPosition.moved (position : IndexedPosition) (asset : Metadata) (delta index : ℤ) :
    IndexedPosition :=
  match asset with
  | .tusd => { position with rawTusd := position.rawTusd + delta }
  | .trfl =>
      { position with
        rawTrfl := position.rawTrfl + delta
        correction := position.correction - delta * index }

/-- A projection after `delta` of an asset reached a wallet. -/
@[simps] def ProtocolProjection.moved (projection : ProtocolProjection) (account : Address)
    (asset : Metadata) (delta : ℤ) : ProtocolProjection :=
  { projection with
    positions := projection.positions.set account
      ((positionOrEmpty account projection.positions).moved asset delta projection.currentIndex)
    eligibleSupply := projection.eligibleSupply + if asset = .trfl then delta else 0
    aggregateCorrection := projection.aggregateCorrection
      - (if asset = .trfl then delta else 0) * projection.currentIndex }

/-- The widths of a tRFL movement at an index, and that the supply covers it. -/
structure Reweighs (index aggregate supply correction delta : ℤ) : Prop where
  indexFits : isMoveUnsigned index 256
  amountFits : isMoveUnsigned |delta| 256
  productFits : isMoveUnsigned (|delta| * index) 256
  correctionFits : isMoveSignedU256 correction
  correctionAfter : isMoveSignedU256 (correction - delta * index)
  aggregateFits : isMoveSignedU256 aggregate
  aggregateAfter : isMoveSignedU256 (aggregate - delta * index)
  covered : 0 ≤ supply + delta

/-- A wallet covers a movement. -/
structure Movable (projection : ProtocolProjection) (account : Address) (asset : Metadata)
    (delta : ℤ) : Prop where
  trfl : asset = .trfl → 0 ≤ (positionOrEmpty account projection.positions).rawTrfl + delta
    ∧ Reweighs projection.currentIndex projection.aggregateCorrection projection.eligibleSupply
      (positionOrEmpty account projection.positions).correction delta
  tusd : asset = .tusd → 0 ≤ (positionOrEmpty account projection.positions).rawTusd + delta

/-- A correction takes a movement in either direction as one subtraction. -/
theorem correct_eq_ok {value delta index z : ℤ} {label : Text}
    (hamount : isMoveUnsigned (|delta| * index) 256) :
    (if delta < 0 then checkedMoveSignedU256AddUnsigned value (|delta| * index) label
      else checkedMoveSignedU256SubtractUnsigned value (|delta| * index) label) = .ok z ↔
      isMoveSignedU256 value ∧ isMoveSignedU256 (value - delta * index)
        ∧ z = value - delta * index := by
  by_cases hneg : delta < 0
  · have habs : value + |delta| * index = value - delta * index := by
      rw [abs_of_neg hneg]
      ring
    rw [if_pos hneg, checkedMoveSignedU256AddUnsigned_eq_ok, habs]
    tauto
  · have habs : value - |delta| * index = value - delta * index := by
      rw [abs_of_nonneg (by omega)]
    rw [if_neg hneg, checkedMoveSignedU256SubtractUnsigned_eq_ok, habs]
    tauto

theorem clean_adjustWalletAsset {account : Address} {asset : Metadata} {delta : ℤ}
    {event : EventBase} {c c' : Context} {u : Unit} :
    Clean (adjustWalletAsset account asset delta event) c u c' ↔
      Movable c.next account asset delta
        ∧ c' = { c with next := c.next.moved account asset delta } := by
  have habs : (if delta < 0 then -delta else delta) = |delta| := by
    split_ifs with hneg
    · rw [abs_of_neg hneg]
    · rw [abs_of_nonneg (by omega)]
  simp only [adjustWalletAsset, clean_bind, clean_gets, clean_failIf, clean_ite, clean_setNext,
    clean_attempt, and_assoc, exists_and_left, exists_eq_left, exists_const, not_lt, habs,
    checkedMoveU256Multiply_eq_ok]
  -- tUSD has a balance only; a move of tRFL moves shares and both corrections as well.
  cases asset with
  | tusd =>
      simp only [reduceCtorEq, if_false, true_and, not_true_eq_false, false_and, or_false]
      constructor
      · rintro ⟨hcovered, rfl⟩
        refine ⟨⟨by simp, fun _ => hcovered⟩, ?_⟩
        simp [ProtocolProjection.moved, IndexedPosition.moved]
      · rintro ⟨hmovable, rfl⟩
        refine ⟨hmovable.tusd rfl, ?_⟩
        simp [ProtocolProjection.moved, IndexedPosition.moved]
  | trfl =>
      simp only [reduceCtorEq, if_true, false_and, not_false_eq_true, true_and, false_or]
      constructor
      · rintro ⟨hcovered, hamount, hindex, hproduct, correction, hcorrection, aggregate,
          haggregate, hsupply, rfl⟩
        rw [correct_eq_ok hproduct] at hcorrection haggregate
        obtain ⟨hcorrection, hafter, rfl⟩ := hcorrection
        obtain ⟨haggregate, haggregateAfter, rfl⟩ := haggregate
        refine ⟨⟨fun _ => ⟨hcovered, ?_⟩, by simp⟩, ?_⟩
        · exact ⟨hindex, hamount, hproduct, hcorrection, hafter, haggregate, haggregateAfter,
            hsupply⟩
        · simp [ProtocolProjection.moved, IndexedPosition.moved]
      · rintro ⟨hmovable, rfl⟩
        obtain ⟨hcovered, h⟩ := hmovable.trfl rfl
        refine ⟨hcovered, h.amountFits, h.indexFits, h.productFits,
          _, (correct_eq_ok h.productFits).mpr ⟨h.correctionFits, h.correctionAfter, rfl⟩,
          _, (correct_eq_ok h.productFits).mpr ⟨h.aggregateFits, h.aggregateAfter, rfl⟩,
          h.covered, ?_⟩
        simp [ProtocolProjection.moved, IndexedPosition.moved]

@[simp] theorem positionOrEmpty_set (account other : Address) (position : IndexedPosition)
    (positions : OrderedMap Address IndexedPosition) :
    positionOrEmpty other (positions.set account position)
      = if other = account then position else positionOrEmpty other positions := by
  unfold positionOrEmpty
  rw [OrderedMap.get?_set]
  split_ifs <;> rfl

/-- A position written back changes a sum over the wallets by the difference, an
absent position counting as nothing. -/
theorem sum_positions_set {account : Address} (f : IndexedPosition → ℤ)
    (hempty : f ⟨account, 0, 0, 0, 0, 0, 0⟩ = 0) (position : IndexedPosition)
    (positions : OrderedMap Address IndexedPosition) :
    ((positions.set account position).values.map f).sum
      = (positions.values.map f).sum
        + (f position - f (positionOrEmpty account positions)) := by
  rw [OrderedMap.sum_values_set]
  unfold positionOrEmpty
  rcases positions.get? account with _ | present
  · simp [hempty]
  · rfl

/-- A position that a materialization credited and counted. -/
def IndexedPosition.materialized (position : IndexedPosition) (amount index : ℤ) :
    IndexedPosition :=
  { position.moved .trfl amount index with
    claimed := position.claimed + amount
    lifetimeMaterialized := position.lifetimeMaterialized + amount }

/-- A projection after a materialization. -/
@[simps] def ProtocolProjection.materialized (projection : ProtocolProjection) (account : Address)
    (amount : ℤ) : ProtocolProjection :=
  { projection.moved account .trfl amount with
    positions := projection.positions.set account
      ((positionOrEmpty account projection.positions).materialized amount projection.currentIndex)
    rewardVaultPayouts := projection.rewardVaultPayouts + amount
    lifetimeMaterialized := projection.lifetimeMaterialized + amount }

/-- What a materialization is checked against. -/
structure Materializable (projection : ProtocolProjection) (event : RewardsMaterializedEvent) :
    Prop where
  positive : 0 < event.amount
  pending : ∃ pending, walletPending (positionOrEmpty event.account projection.positions)
    projection.currentIndex = .ok pending ∧ event.amount ≤ pending
  movable : Movable projection event.account .trfl event.amount
  amount : isMoveUnsigned event.amount 256
  claimed : isMoveUnsigned (positionOrEmpty event.account projection.positions).claimed 256
  total : (positionOrEmpty event.account projection.positions).claimed + event.amount
    = event.totalClaimed
  totalFits : isMoveUnsigned event.totalClaimed 256
  lifetime : isMoveUnsigned
    (positionOrEmpty event.account projection.positions).lifetimeMaterialized 256
  lifetimeAfter : isMoveUnsigned
    ((positionOrEmpty event.account projection.positions).lifetimeMaterialized + event.amount) 256
  payouts : isMoveUnsigned projection.rewardVaultPayouts 256
  payoutsAfter : isMoveUnsigned (projection.rewardVaultPayouts + event.amount) 256
  materialized : isMoveUnsigned projection.lifetimeMaterialized 256
  materializedAfter : isMoveUnsigned (projection.lifetimeMaterialized + event.amount) 256

theorem clean_materializeWallet {base : EventBase} {event : RewardsMaterializedEvent}
    {c c' : Context} {u : Unit} :
    Clean (materializeWallet base event) c u c' ↔
      Materializable c.next event
        ∧ c' = { c with next := c.next.materialized event.account event.amount } := by
  simp only [materializeWallet, clean_bind, clean_gets, clean_failIf, clean_alertIf, clean_setNext,
    clean_attempt, clean_adjustWalletAsset, and_assoc, exists_and_left, exists_eq_left,
    exists_const, not_lt, not_le, not_not, checkedMoveU256Add_eq_ok, ne_eq,
    ProtocolProjection.moved_positions, positionOrEmpty_set, if_true]
  simp only [IndexedPosition.moved]
  -- The wallet is credited before its total is checked against the event.
  constructor
  · rintro ⟨hpositive, pending, hpending, hle, hmovable, hclaimed, hamount, hfits, htotal,
      hlifetime, -, hlifetimeAfter, hpayouts, -, hpayoutsAfter, hmaterialized, -,
      hmaterializedAfter, rfl⟩
    refine ⟨⟨hpositive, ⟨pending, hpending, hle⟩, hmovable, hamount, hclaimed, htotal, ?_,
      hlifetime, hlifetimeAfter, hpayouts, hpayoutsAfter, hmaterialized, hmaterializedAfter⟩, ?_⟩
    · rwa [← htotal]
    · simp [ProtocolProjection.materialized, ProtocolProjection.moved,
        IndexedPosition.materialized, IndexedPosition.moved]
  · rintro ⟨h, rfl⟩
    obtain ⟨pending, hpending, hle⟩ := h.pending
    refine ⟨h.positive, pending, hpending, hle, h.movable, h.claimed, h.amount, ?_, h.total,
      h.lifetime, h.amount, h.lifetimeAfter, h.payouts, h.amount, h.payoutsAfter, h.materialized, h.amount,
      h.materializedAfter, ?_⟩
    · rw [h.total]
      exact h.totalFits
    · simp [ProtocolProjection.materialized, ProtocolProjection.moved,
        IndexedPosition.materialized, IndexedPosition.moved]

theorem clean_rewardsClaimed {event : RewardsClaimedEvent} {c c' : Context} {u : Unit} :
    Clean (rewardsClaimed event) c u c' ↔
      (0 < event.amount
        ∧ isMoveUnsigned (positionOrEmpty event.account c.next.positions).lifetimeClaimed 256
        ∧ isMoveUnsigned event.amount 256
        ∧ isMoveUnsigned
          ((positionOrEmpty event.account c.next.positions).lifetimeClaimed + event.amount) 256)
      ∧ c' = { c with next := { c.next with
          positions := c.next.positions.set event.account
            { positionOrEmpty event.account c.next.positions with
              lifetimeClaimed :=
                (positionOrEmpty event.account c.next.positions).lifetimeClaimed
                  + event.amount } } } := by
  simp only [rewardsClaimed, clean_bind, clean_gets, clean_failIf, clean_setNext, clean_attempt,
    and_assoc, exists_and_left, exists_eq_left, exists_const, not_le, checkedMoveU256Add_eq_ok]

theorem clean_positionCreated {base : EventBase} {account : Address} {c c' : Context} {u : Unit} :
    Clean (positionCreated base account) c u c' ↔
      c.next.positions.has account = false
        ∧ c' = { c with next := { c.next with
          positions := c.next.positions.set account
            (positionOrEmpty account c.next.positions) } } := by
  simp only [positionCreated, clean_bind, clean_gets, clean_alertIf, clean_setNext, and_assoc,
    exists_and_left, exists_eq_left, exists_const, Bool.not_eq_true]

/-- A registration of a fresh account at a fresh store, the next in count. -/
structure Registrable (projection : ProtocolProjection) (event : WalletRegisteredEvent) :
    Prop where
  account : event.account ≠ .zero
  store : event.primaryStore ≠ .zero
  positive : 0 < event.registeredWalletCount
  fits : event.registeredWalletCount ≤ U64_MAX
  count : event.registeredWalletCount = projection.registeredWalletCount + 1
  unregistered : projection.registeredWallets.has event.account = false
  unbound : event.primaryStore ∉ projection.registeredWallets.values
  included : projection.protocolExcludedStores.has event.account = false
  includedStore : event.primaryStore ∉ projection.protocolExcludedStores.values

theorem clean_walletRegistered {base : EventBase} {event : WalletRegisteredEvent} {c c' : Context}
    {u : Unit} :
    Clean (walletRegistered base event) c u c' ↔
      Registrable c.next event
        ∧ c' = { c with next := { c.next with
          registeredWallets := c.next.registeredWallets.set event.account event.primaryStore
          registeredWalletCount := event.registeredWalletCount } } := by
  simp only [walletRegistered, clean_bind, clean_gets, clean_alertIf, clean_setNext, and_assoc,
    exists_and_left, exists_eq_left, exists_const, not_or, not_le, not_lt, ne_eq, not_not,
    Bool.not_eq_true]
  constructor
  · rintro ⟨h₁, h₂, h₃, h₄, h₅, h₆, h₇, h₈, h₉, rfl⟩
    exact ⟨⟨h₁, h₂, h₃, h₄, h₅, h₆, h₇, h₈, h₉⟩, rfl⟩
  · rintro ⟨⟨h₁, h₂, h₃, h₄, h₅, h₆, h₇, h₈, h₉⟩, rfl⟩
    exact ⟨h₁, h₂, h₃, h₄, h₅, h₆, h₇, h₈, h₉, rfl⟩

theorem clean_faucetGrant {base : EventBase} {account : Address} {asset : Metadata} {amount : ℤ}
    {c c' : Context} {u : Unit} :
    Clean (faucetGrant base account asset amount) c u c' ↔
      0 < amount ∧ Movable c.next account asset amount
        ∧ c' = { c with next := c.next.moved account asset amount } := by
  simp only [faucetGrant, clean_bind, clean_failIf, clean_adjustWalletAsset, not_le, and_assoc,
    exists_and_left, exists_eq_left, exists_const]

theorem clean_eligibleBalanceDebited {base : EventBase} {account : Address} {amount : ℤ}
    {c c' : Context} {u : Unit} :
    Clean (eligibleBalanceDebited base account amount) c u c' ↔
      0 < amount ∧ Movable c.next account .trfl (-amount)
        ∧ c' = { c with next := c.next.moved account .trfl (-amount) } := by
  simp only [eligibleBalanceDebited, clean_bind, clean_failIf, clean_adjustWalletAsset, not_le,
    and_assoc, exists_and_left, exists_eq_left, exists_const]

theorem clean_eligibleBalanceCredited {base : EventBase} {account : Address} {amount : ℤ}
    {c c' : Context} {u : Unit} :
    Clean (eligibleBalanceCredited base account amount) c u c' ↔
      0 < amount ∧ Movable c.next account .trfl amount
        ∧ c' = { c with next := c.next.moved account .trfl amount } := by
  simp only [eligibleBalanceCredited, clean_bind, clean_failIf, clean_adjustWalletAsset, not_le,
    and_assoc, exists_and_left, exists_eq_left, exists_const]

/-- The receipts of the hooks that a router's receipt of `amount` has beside it. -/
def RouterAgrees (events : List ProtocolEvent) (sender recipient : Address) (amount : ℤ) : Prop :=
  (select EventBody.nativeDebit events = []
    ∨ ((select EventBody.nativeDebit events).filter fun entry =>
      entry.2 = (sender, amount)).length = 1)
  ∧ (select EventBody.nativeCredit events = []
    ∨ ((select EventBody.nativeCredit events).filter fun entry =>
      entry.2 = (recipient, amount)).length = 1)

theorem clean_walletTransfer {events : List ProtocolEvent} {base : EventBase}
    {sender recipient : Address} {amount : ℤ} {c c' : Context} {u : Unit} :
    Clean (walletTransfer events base sender recipient amount) c u c' ↔
      (0 < amount ∧ RouterAgrees events sender recipient amount) ∧ c' = c := by
  unfold RouterAgrees
  simp only [walletTransfer, clean_bind, clean_failIf, clean_alertIf, not_le, and_assoc,
    exists_and_left, exists_eq_left, exists_const, not_and, ne_eq, not_not, List.length_pos_iff]
  constructor
  · rintro ⟨hpositive, hdebit, hcredit, rfl⟩
    exact ⟨hpositive, by tauto, by tauto, rfl⟩
  · rintro ⟨hpositive, hdebit, hcredit, rfl⟩
    exact ⟨hpositive, by tauto, by tauto, rfl⟩

/-! ## The core -/

/-- A projection after custody took or gave shares. -/
@[simps] def ProtocolProjection.custodyMoved (projection : ProtocolProjection) (delta : ℤ) :
    ProtocolProjection :=
  { projection with
    custody :=
      { projection.custody with
        shares := projection.custody.shares + delta
        correction := projection.custody.correction - delta * projection.currentIndex }
    eligibleSupply := projection.eligibleSupply + delta
    aggregateCorrection := projection.aggregateCorrection - delta * projection.currentIndex }

/-- What a custody receipt adds to the shares. -/
def CustodySharesChangedEvent.delta (event : CustodySharesChangedEvent) : ℤ :=
  if event.added = true then event.amount else -event.amount

/-- What a custody receipt is checked against. -/
structure CustodyMovable (projection : ProtocolProjection) (event : CustodySharesChangedEvent) :
    Prop where
  positive : 0 < event.amount
  covered : 0 ≤ projection.custody.shares + event.delta
  shares : projection.custody.shares + event.delta = event.custodyShares
  supply : projection.eligibleSupply + event.delta = event.globalShares
  index : isMoveUnsigned projection.currentIndex 256
  amount : isMoveUnsigned event.amount 256
  product : isMoveUnsigned (event.amount * projection.currentIndex) 256
  correction : isMoveSignedU256 projection.custody.correction
  correctionAfter :
    isMoveSignedU256 (projection.custody.correction - event.delta * projection.currentIndex)
  aggregate : isMoveSignedU256 projection.aggregateCorrection
  aggregateAfter :
    isMoveSignedU256 (projection.aggregateCorrection - event.delta * projection.currentIndex)

/-- A receipt corrects in either direction by one subtraction. -/
theorem settle_eq_ok {added : Bool} {value amount index z : ℤ} {label : Text}
    (hproduct : isMoveUnsigned (amount * index) 256) :
    (if added = true then checkedMoveSignedU256SubtractUnsigned value (amount * index) label
      else checkedMoveSignedU256AddUnsigned value (amount * index) label) = .ok z ↔
      isMoveSignedU256 value
        ∧ isMoveSignedU256 (value - (if added = true then amount else -amount) * index)
        ∧ z = value - (if added = true then amount else -amount) * index := by
  by_cases hadded : added = true
  · simp only [if_pos hadded]
    rw [checkedMoveSignedU256SubtractUnsigned_eq_ok]
    tauto
  · simp only [if_neg hadded]
    have hneg : value + amount * index = value - -amount * index := by ring
    rw [checkedMoveSignedU256AddUnsigned_eq_ok, hneg]
    tauto

theorem clean_custodySharesChanged {base : EventBase} {event : CustodySharesChangedEvent}
    {c c' : Context} {u : Unit} :
    Clean (custodySharesChanged base event) c u c' ↔
      CustodyMovable c.next event
        ∧ c' = { c with next := c.next.custodyMoved event.delta } := by
  simp only [custodySharesChanged, clean_bind, clean_gets, clean_failIf, clean_alertIf,
    clean_setNext, clean_attempt, and_assoc, exists_and_left, exists_eq_left, exists_const, not_lt,
    not_le, not_or, not_not, ne_eq, checkedMoveU256Multiply_eq_ok,
    ← CustodySharesChangedEvent.delta.eq_1]
  constructor
  · rintro ⟨hpositive, hcovered, hamount, hindex, hproduct, correction, hcorrection, aggregate,
      haggregate, hshares, hsupply, rfl⟩
    rw [settle_eq_ok hproduct, ← CustodySharesChangedEvent.delta.eq_1] at hcorrection haggregate
    obtain ⟨hcorrection, hafter, rfl⟩ := hcorrection
    obtain ⟨haggregate, haggregateAfter, rfl⟩ := haggregate
    exact ⟨⟨hpositive, hcovered, hshares, hsupply, hindex, hamount, hproduct, hcorrection, hafter,
      haggregate, haggregateAfter⟩, rfl⟩
  · rintro ⟨h, rfl⟩
    refine ⟨h.positive, h.covered, h.amount, h.index, h.product,
      _, (settle_eq_ok h.product).mpr ⟨h.correction, h.correctionAfter, rfl⟩,
      _, (settle_eq_ok h.product).mpr ⟨h.aggregate, h.aggregateAfter, rfl⟩, h.shares, h.supply, ?_⟩
    rfl

/-- What a route of custody's rewards is checked against. -/
structure Routable (projection : ProtocolProjection) (event : CustodyRewardsRoutedEvent) :
    Prop where
  epoch : ∃ epoch, projection.lpEpochs.get? event.epoch = some epoch
    ∧ epoch.rewardVault = event.lpRewardVault
  active : projection.activeLpEpoch = some event.epoch
  route : projection.custody.activeRouteEpoch = some event.epoch
  vault : projection.custody.activeLpRewardVault = some event.lpRewardVault
  reserve : projection.custody.reserveStore = none
    ∨ projection.custody.reserveStore = some event.reserveStore
  pending : custodyPending projection = .ok event.amount
  positive : 0 < event.amount
  amount : isMoveUnsigned event.amount 256
  claimed : isMoveUnsigned projection.custody.claimed 256
  total : projection.custody.claimed + event.amount = event.totalRouted
  totalFits : isMoveUnsigned event.totalRouted 256
  lifetime : isMoveUnsigned projection.custody.lifetimeRouted 256
  lifetimeAfter : isMoveUnsigned (projection.custody.lifetimeRouted + event.amount) 256
  routed : isMoveUnsigned projection.lifetimeCustodyRouted 256
  routedAfter : isMoveUnsigned (projection.lifetimeCustodyRouted + event.amount) 256
  payouts : isMoveUnsigned projection.rewardVaultPayouts 256
  payoutsAfter : isMoveUnsigned (projection.rewardVaultPayouts + event.amount) 256

/-- A projection after a route of custody's rewards. -/
@[simps] def ProtocolProjection.routed (projection : ProtocolProjection) (reserveStore : Address)
    (amount : ℤ) : ProtocolProjection :=
  { projection with
    custody :=
      { projection.custody with
        reserveStore := some (projection.custody.reserveStore.getD reserveStore)
        claimed := projection.custody.claimed + amount
        lifetimeRouted := projection.custody.lifetimeRouted + amount }
    lifetimeCustodyRouted := projection.lifetimeCustodyRouted + amount
    rewardVaultPayouts := projection.rewardVaultPayouts + amount }

theorem clean_custodyRewardsRouted {base : EventBase} {event : CustodyRewardsRoutedEvent}
    {c c' : Context} {u : Unit} :
    Clean (custodyRewardsRouted base event) c u c' ↔
      Routable c.next event
        ∧ c' = { c with next := c.next.routed event.reserveStore event.amount } := by
  simp only [custodyRewardsRouted, requireEpoch, clean_bind, clean_gets, clean_fileIf, clean_pure,
    clean_alertIf, clean_setNext, clean_attempt, and_assoc, exists_and_left, exists_eq_left,
    exists_const, not_le, not_or, not_not, not_and, ne_eq, Option.isNone_iff_eq_none,
    checkedMoveU256Add_eq_ok]
  constructor
  · rintro ⟨hsome, hactive, hroute, hbound, hvault, hreserve, pending, hpending, hamount, hpositive,
      hclaimed, hfits, htotalFits, htotal, hlifetime, -, hlifetimeAfter, hrouted, -, hroutedAfter,
      hpayouts, -, hpayoutsAfter, rfl⟩
    obtain ⟨epoch, hepoch⟩ := Option.ne_none_iff_exists'.mp hsome
    rw [hepoch, Option.map_some] at hbound
    subst hamount
    refine ⟨⟨⟨epoch, hepoch, ?_⟩, hactive, hroute, hvault, ?_, hpending, hpositive, hfits, hclaimed,
      htotal, ?_, hlifetime, hlifetimeAfter, hrouted, hroutedAfter, hpayouts, hpayoutsAfter⟩, rfl⟩
    · exact Option.some_injective _ (hbound (by simp))
    · by_cases hnone : c.next.custody.reserveStore = none
      · exact Or.inl hnone
      · exact Or.inr (hreserve hnone)
    · rwa [← htotal]
  · rintro ⟨h, rfl⟩
    obtain ⟨epoch, hepoch, hbound⟩ := h.epoch
    refine ⟨by simp [hepoch], h.active, h.route, ?_, h.vault, ?_, event.amount, h.pending, rfl,
      h.positive, h.claimed, h.amount, ?_, h.total, h.lifetime, h.amount, h.lifetimeAfter, h.routed,
      h.amount, h.routedAfter, h.payouts, h.amount, h.payoutsAfter, ?_⟩
    · intro _
      rw [hepoch, Option.map_some, hbound]
    · intro hne
      exact h.reserve.resolve_left hne
    · rw [h.total]
      exact h.totalFits
    · rfl

/-- A projection after an index event. -/
@[simps] def ProtocolProjection.advanced (projection : ProtocolProjection)
    (index indexRemainder : ℤ) : ProtocolProjection :=
  { projection with currentIndex := index, indexRemainder := indexRemainder }

/-- The magnified units that an index event hands out. -/
def PendingCoreFee.numerator (receipt : PendingCoreFee) (indexRemainder : ℤ) : ℤ :=
  receipt.event.feeAmount * REFLECTION_MAGNITUDE + indexRemainder

/-- What an index event is checked against: the fee receipt it follows, and the
division of the fee. -/
structure Advances (projection : ProtocolProjection) (receipt : PendingCoreFee)
    (event : ReflectionIndexAdvancedEvent) : Prop where
  shares : 0 < receipt.sharesAtCollection
  supply : event.eligibleSupply = projection.eligibleSupply
  supplyThen : event.eligibleSupply = receipt.sharesAtCollection
  fee : event.feeAmount = receipt.event.feeAmount
  previous : event.previousIndex = projection.currentIndex
  newIndex : event.newIndex = projection.currentIndex
    + receipt.numerator projection.indexRemainder / receipt.sharesAtCollection
  remainder : event.indexRemainder
    = receipt.numerator projection.indexRemainder % receipt.sharesAtCollection
  feeFits : isMoveUnsigned receipt.event.feeAmount 256
  product : isMoveUnsigned (receipt.event.feeAmount * REFLECTION_MAGNITUDE) 256
  carried : isMoveUnsigned projection.indexRemainder 256
  numerator : isMoveUnsigned (receipt.numerator projection.indexRemainder) 256
  index : isMoveUnsigned projection.currentIndex 256
  increment : isMoveUnsigned
    (receipt.numerator projection.indexRemainder / receipt.sharesAtCollection) 256
  indexAfter : isMoveUnsigned event.newIndex 256

theorem divide_eq_ok {numerator denominator z : ℤ} (hnumerator : 0 ≤ numerator) :
    divide numerator denominator = .ok z ↔ denominator ≠ 0 ∧ z = numerator / denominator := by
  simp only [divide, bind_eq_ok, throwIf_eq_ok, pure_eq_ok, exists_const, ne_eq,
    Int.tdiv_eq_ediv_of_nonneg hnumerator]

theorem modulo_eq_ok {numerator denominator z : ℤ} (hnumerator : 0 ≤ numerator) :
    modulo numerator denominator = .ok z ↔ denominator ≠ 0 ∧ z = numerator % denominator := by
  simp only [modulo, bind_eq_ok, throwIf_eq_ok, pure_eq_ok, exists_const, ne_eq,
    Int.tmod_eq_emod_of_nonneg hnumerator]

theorem isMoveUnsigned_REFLECTION_MAGNITUDE : isMoveUnsigned REFLECTION_MAGNITUDE 256 := by
  unfold isMoveUnsigned REFLECTION_MAGNITUDE
  norm_num

theorem clean_reflectionIndexAdvanced {base : EventBase} {event : ReflectionIndexAdvancedEvent}
    {c c' : Context} {u : Unit} :
    Clean (reflectionIndexAdvanced base event) c u c' ↔
      ∃ receipt receipts, c.pendingCoreFees = receipt :: receipts
        ∧ Advances c.next receipt event
        ∧ c' = { c with
          pendingCoreFees := receipts
          next := c.next.advanced event.newIndex event.indexRemainder } := by
  -- Without a receipt that waits, the event is an alert.
  rcases hreceipts : c.pendingCoreFees with _ | ⟨receipt, receipts⟩
  · simp [reflectionIndexAdvanced, hreceipts]
  · simp only [reflectionIndexAdvanced, advanceIndex, clean_bind, clean_gets, clean_update,
      clean_ite, clean_file, clean_attempt, clean_alertIf, clean_setNext, exists_and_left,
      exists_eq_left, exists_const, hreceipts, and_assoc, and_false, false_or, not_le, not_or,
      not_not, ne_eq, checkedMoveU256Multiply_eq_ok, checkedMoveU256Add_eq_ok]
    constructor
    · rintro ⟨hshares, hfee, -, hproduct, -, hcarried, hnumerator, quotient, hquotient, hindex,
        hincrement, hafter, rest, hrest, hsame, hprevious, hnew, hremainder, hthen, hsupply, rfl⟩
      rw [divide_eq_ok hnumerator.1] at hquotient
      rw [modulo_eq_ok hnumerator.1] at hrest
      obtain ⟨-, rfl⟩ := hquotient
      obtain ⟨-, rfl⟩ := hrest
      refine ⟨receipt, receipts, rfl, ⟨hshares, hsupply, hthen, hsame, hprevious, hnew, hremainder,
        hfee, hproduct, hcarried, hnumerator, hindex, hincrement, ?_⟩, rfl⟩
      rwa [hnew]
    · rintro ⟨_, _, heq, h, rfl⟩
      obtain ⟨rfl, rfl⟩ := List.cons.inj heq
      have hne : receipt.sharesAtCollection ≠ 0 := by
        have hpositive := h.shares
        omega
      have hnumerator := h.numerator.1
      refine ⟨h.shares, h.feeFits, isMoveUnsigned_REFLECTION_MAGNITUDE, h.product, h.product,
        h.carried, h.numerator, _, (divide_eq_ok hnumerator).mpr ⟨hne, rfl⟩, h.index, h.increment,
        ?_, _, (modulo_eq_ok hnumerator).mpr ⟨hne, rfl⟩, h.fee, h.previous, h.newIndex, h.remainder,
        h.supplyThen, h.supply, rfl⟩
      have hafter := h.indexAfter
      rwa [h.newIndex] at hafter

/-- The seller's debit. -/
theorem clean_debitSeller {base : EventBase} {account : Address} {grossAmount : ℤ}
    {c c' : Context} {u : Unit} :
    Clean (debitSeller base account grossAmount) c u c' ↔
      Movable c.next account .trfl (-grossAmount)
        ∧ c' = { c with
          next := c.next.moved account .trfl (-grossAmount), sellWalletDebited := true } := by
  simp only [debitSeller, clean_bind, clean_adjustWalletAsset, clean_update, and_assoc,
    exists_and_left, exists_eq_left, exists_const]

/-- The debit of `swap`, if it is a sale whose seller is not debited yet. -/
inductive DebitsOnce (c : Context) (swap : SwapExecutedEvent) : Context → Prop where
  | due (hsell : swap.direction = .sell) (hdue : c.sellWalletDebited = false)
      (hmovable : Movable c.next swap.account .trfl (-swap.grossAmount)) :
      DebitsOnce c swap { c with
        next := c.next.moved swap.account .trfl (-swap.grossAmount), sellWalletDebited := true }
  | skip (hskip : ¬ (swap.direction = .sell ∧ c.sellWalletDebited = false)) : DebitsOnce c swap c

theorem clean_debitOnce {base : EventBase} {swap : SwapExecutedEvent} {c c' : Context} {u : Unit} :
    Clean (if swap.direction = .sell ∧ c.sellWalletDebited = false then
        debitSeller base swap.account swap.grossAmount else pure ()) c u c' ↔
      DebitsOnce c swap c' := by
  rw [clean_ite, clean_debitSeller, clean_pure]
  constructor
  · rintro (⟨⟨hsell, hdue⟩, hmovable, rfl⟩ | ⟨hskip, -, rfl⟩)
    · exact .due hsell hdue hmovable
    · exact .skip hskip
  · rintro (⟨hsell, hdue, hmovable⟩ | hskip)
    · exact Or.inl ⟨⟨hsell, hdue⟩, hmovable, rfl⟩
    · exact Or.inr ⟨hskip, rfl, rfl⟩

/-- A projection after a fee receipt. -/
@[simps] def ProtocolProjection.charged (projection : ProtocolProjection) (fee : ℤ) :
    ProtocolProjection :=
  { projection with
    rewardVaultCredits := projection.rewardVaultCredits + fee
    lifetimeSwapFees := projection.lifetimeSwapFees + fee }

/-- What a fee receipt is checked against. -/
structure Chargeable (projection : ProtocolProjection) (base : EventBase)
    (event : ReflectionFeeCollectedEvent) : Prop where
  cap : event.feeBps ≤ if projection.packageVersion = "testnet-v0.2.0" then 500 else 100
  rate : event.feeBps = projection.feeBps
  fee : event.feeAmount = (event.grossAmount * event.feeBps).tdiv BPS_DENOMINATOR
  transaction : event.swapTxHash = base.txHash
  amount : isMoveUnsigned event.feeAmount 256
  credits : isMoveUnsigned projection.rewardVaultCredits 256
  creditsAfter : isMoveUnsigned (projection.rewardVaultCredits + event.feeAmount) 256
  fees : isMoveUnsigned projection.lifetimeSwapFees 256
  feesAfter : isMoveUnsigned (projection.lifetimeSwapFees + event.feeAmount) 256

/-- The receipt itself, once the seller's debit is settled. -/
theorem clean_charge {base : EventBase} {event : ReflectionFeeCollectedEvent} {c c' : Context}
    {u : Unit} :
    Clean (do
      let next ← gets Context.next
      let expectedFee := (event.grossAmount * event.feeBps).tdiv BPS_DENOMINATOR
      let maximumFeeBps := if next.packageVersion = "testnet-v0.2.0" then 500 else 100
      alertIf (maximumFeeBps < event.feeBps ∨ event.feeBps ≠ next.feeBps
          ∨ event.feeAmount ≠ expectedFee ∨ event.swapTxHash ≠ base.txHash) base .FEE_FORMULA
        "Reflection fee receipt does not match configured floor arithmetic and transaction identity."
        none none
      let rewardVaultCredits ← attempt (checkedMoveU256Add next.rewardVaultCredits event.feeAmount
        (text "core reward-vault credits"))
      let lifetimeSwapFees ← attempt (checkedMoveU256Add next.lifetimeSwapFees event.feeAmount
        (text "core lifetime fees"))
      setNext fun next => { next with rewardVaultCredits, lifetimeSwapFees }
      update fun context =>
        { context with
          pendingCoreFees :=
            context.pendingCoreFees ++ [⟨base, event, context.next.eligibleSupply⟩] } :
      Replay Unit) c u c' ↔
      Chargeable c.next base event
        ∧ c' = { c with
          next := c.next.charged event.feeAmount
          pendingCoreFees := c.pendingCoreFees ++ [⟨base, event, c.next.eligibleSupply⟩] } := by
  simp only [clean_bind, clean_gets, clean_alertIf, clean_setNext, clean_update, clean_attempt,
    and_assoc, exists_and_left, exists_eq_left, exists_const, not_or, not_lt, not_not, ne_eq,
    checkedMoveU256Add_eq_ok]
  constructor
  · rintro ⟨hcap, hrate, hfee, htransaction, hcredits, hamount, hcreditsAfter, hfees, -,
      hfeesAfter, rfl⟩
    exact ⟨⟨hcap, hrate, hfee, htransaction, hamount, hcredits, hcreditsAfter, hfees,
      hfeesAfter⟩, rfl⟩
  · rintro ⟨h, rfl⟩
    exact ⟨h.cap, h.rate, h.fee, h.transaction, h.credits, h.amount, h.creditsAfter, h.fees,
      h.amount, h.feesAfter, rfl⟩

/-- What precedes a receipt in a branch of its own. -/
theorem clean_branch {α : Type} {b : Prop} [Decidable b] {m : Replay Unit}
    {k : Unit → Replay α} {c c' : Context} {a : α} :
    Clean (if b then m >>= k else k ()) c a c' ↔
      ∃ c₁, Clean (if b then m else pure ()) c () c₁ ∧ Clean (k ()) c₁ a c' := by
  by_cases hb : b
  · simp only [if_pos hb, clean_bind]
    constructor
    · rintro ⟨_, c₁, h⟩
      exact ⟨c₁, h⟩
    · rintro ⟨c₁, h⟩
      exact ⟨(), c₁, h⟩
  · simp only [if_neg hb, clean_pure, true_and, exists_eq_left]

theorem clean_reflectionFeeCollected {events : List ProtocolEvent} {base : EventBase}
    {event : ReflectionFeeCollectedEvent} {c c' : Context} {u : Unit} :
    Clean (reflectionFeeCollected events base event) c u c' ↔
      ∃ c₁, (∀ swap ∈ (select EventBody.swap events).head?, DebitsOnce c swap.2 c₁)
        ∧ (select EventBody.swap events = [] → c₁ = c)
        ∧ Chargeable c₁.next base event
        ∧ c' = { c₁ with
          next := c₁.next.charged event.feeAmount
          pendingCoreFees :=
            c₁.pendingCoreFees ++ [⟨base, event, c₁.next.eligibleSupply⟩] } := by
  rw [reflectionFeeCollected, clean_bind]
  -- The receipt debits the seller of the first swap of the group, unless that was done before.
  rcases hswaps : select EventBody.swap events with _ | ⟨⟨swapBase, swap⟩, swaps⟩
  · constructor
    · rintro ⟨debited, c₁, hdebited, h⟩
      obtain ⟨-, rfl⟩ := (clean_gets ..).mp hdebited
      exact ⟨c₁, by simp, fun _ => rfl, clean_charge.mp h⟩
    · rintro ⟨c₁, -, hsame, h⟩
      obtain rfl := hsame rfl
      exact ⟨_, c₁, (clean_gets ..).mpr ⟨rfl, rfl⟩, clean_charge.mpr h⟩
  · constructor
    · rintro ⟨debited, c₁, hdebited, h⟩
      obtain ⟨rfl, rfl⟩ := (clean_gets ..).mp hdebited
      obtain ⟨c₂, hbranch, hcharge⟩ := clean_branch.mp h
      refine ⟨c₂, ?_, by simp, clean_charge.mp hcharge⟩
      intro swap' hswap
      obtain rfl := Option.some_injective _ hswap
      exact clean_debitOnce.mp hbranch
    · rintro ⟨c₁, hdebits, -, h⟩
      refine ⟨_, c, (clean_gets ..).mpr ⟨rfl, rfl⟩, clean_branch.mpr ⟨c₁, ?_, clean_charge.mpr h⟩⟩
      exact clean_debitOnce.mpr (hdebits _ rfl)

/-- A fresh route retires what the index had not rounded into a whole unit. -/
structure Reroutes (projection : ProtocolProjection) (event : CustodyEpochRouteOpenedEvent) :
    Prop where
  shares : projection.custody.shares = 0
  pending : custodyPending projection = .ok 0
  residue : event.retiredResidueMagnified
    = projection.custody.correction - projection.custody.claimed * REFLECTION_MAGNITUDE
  nonneg : 0 ≤ event.retiredResidueMagnified
  fraction : event.retiredResidueMagnified < REFLECTION_MAGNITUDE
  epoch : ∃ epoch, projection.lpEpochs.get? event.epoch = some epoch
    ∧ epoch.rewardVault = event.lpRewardVault ∧ epoch.status = .active
  active : projection.activeLpEpoch = some event.epoch

/-- A projection after a fresh route. -/
@[simps] def ProtocolProjection.rerouted (projection : ProtocolProjection)
    (event : CustodyEpochRouteOpenedEvent) : ProtocolProjection :=
  { projection with
    aggregateCorrection := projection.aggregateCorrection - event.retiredResidueMagnified
    custody :=
      { projection.custody with
        activeRouteEpoch := some event.epoch
        activeLpRewardVault := some event.lpRewardVault
        correction := projection.custody.correction - event.retiredResidueMagnified } }

theorem clean_custodyEpochRouteOpened {base : EventBase} {event : CustodyEpochRouteOpenedEvent}
    {c c' : Context} {u : Unit} (h : Clean (custodyEpochRouteOpened base event) c u c') :
    Reroutes c.next event ∧ c' = { c with next := c.next.rerouted event } := by
  simp only [custodyEpochRouteOpened, clean_bind, clean_gets, clean_failIf, clean_alertIf,
    clean_setNext, clean_attempt, clean_pure, clean_ite, and_assoc, exists_and_left,
    exists_eq_left, exists_const, not_or, not_lt, not_le, not_not, ne_eq,
    checkedMoveU256Multiply_eq_ok, checkedMoveU256Subtract_eq_ok,
    checkedMoveSignedU256SubtractUnsigned_eq_ok] at h
  rcases h with ⟨hmismatch, hadapter, hreserve, hvault, hstatus, hactive, hshares, -⟩ |
    ⟨-, -, hvault, hstatus, hactive, hshares, pending, hpending, -, -, -, -, -, -, hzero, -, -, -,
      -, -, -, -, -, hnonneg, hfraction, hresidue, -, -, -, -, -, -, rfl⟩
  · tauto
  · obtain ⟨epoch, hepoch, hvault⟩ := Option.map_eq_some_iff.mp hvault
    rw [hepoch, Option.map_some] at hstatus
    subst hzero
    refine ⟨⟨hshares, hpending, hresidue, ?_, ?_, ⟨epoch, hepoch, hvault, ?_⟩, hactive⟩, rfl⟩
    · rwa [hresidue]
    · rwa [hresidue]
    · exact Option.some_injective _ hstatus

end CedraReflect.indexer
