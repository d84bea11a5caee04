/-
The accounting identities of a replay.

The closing checks of a group compare sums with totals. They do not look at what
the totals are made of: that the index handed out exactly what the fees brought
in, and that nobody was ever credited beyond its share. These identities are
kept by every accounting event on its own, whatever its place in a group
([`Books.Balanced`], [`balanced_of_clean`]), and they are what makes every
pending reward of an accepted replay well defined.
-/
import CedraReflect.Acceptance
import CedraReflect.Holding

set_option autoImplicit false
set_option linter.constructorNameAsVariable false

namespace CedraReflect.indexer

open Audited

/-! ## The holdings of a projection -/

def IndexedPosition.holding (position : IndexedPosition) : Holding :=
  ⟨position.rawTrfl, position.correction, position.claimed⟩

def IndexedLpPosition.holding (position : IndexedLpPosition) : Holding :=
  ⟨position.shares, position.correction, position.claimed⟩

def Books.custody (books : Books) : Holding :=
  ⟨books.custodyShares, books.custodyCorrection, books.custodyClaimed⟩

theorem REFLECTION_MAGNITUDE_pos : 0 < REFLECTION_MAGNITUDE := by
  unfold REFLECTION_MAGNITUDE
  norm_num

/-- What every later use of the magnitude needs of it is its sign. -/
abbrev Covers (index : ℤ) (holding : Holding) : Prop :=
  holding.Covered REFLECTION_MAGNITUDE index

theorem positionOrEmpty_holding {account : Address} {index : ℤ}
    {positions : OrderedMap Address IndexedPosition}
    (h : ∀ position ∈ positions.values, Covers index position.holding) :
    Covers index (positionOrEmpty account positions).holding := by
  unfold positionOrEmpty
  rcases hfind : positions.get? account with _ | position
  · exact Holding.covered_none
  · exact h position (OrderedMap.mem_values.mpr ⟨account, hfind⟩)

theorem lpPositionOrEmpty_holding {owner : Address} {index : ℤ}
    {positions : OrderedMap Address IndexedLpPosition}
    (h : ∀ position ∈ positions.values, Covers index position.holding) :
    Covers index (lpPositionOrEmpty owner positions).holding := by
  unfold lpPositionOrEmpty
  rcases hfind : positions.get? owner with _ | position
  · exact Holding.covered_none
  · exact h position (OrderedMap.mem_values.mpr ⟨owner, hfind⟩)

/-! ## The identities -/

/-- The identities of an epoch: what its index handed out, what it carries, what
was retired and what is set aside are what it received. -/
structure IndexedLpEpoch.Balanced (epoch : IndexedLpEpoch) : Prop where
  indexed : epoch.totalShares * epoch.index + epoch.aggregateCorrection + epoch.indexRemainder
      + epoch.retiredResidueMagnified + REFLECTION_MAGNITUDE * epoch.unallocatedRewards
    = REFLECTION_MAGNITUDE * epoch.lifetimeReceived
  positions : ∀ position ∈ epoch.positions.values, Covers epoch.index position.holding

/-- The identities of the core, of the wallets and of every epoch. `waiting` are
the fees of receipts that no index event has answered, `retired` what fresh
custody routes retired. -/
structure Books.Balanced (books : Books) (waiting retired : ℤ) : Prop where
  indexed : books.eligibleSupply * books.currentIndex + books.aggregateCorrection
      + books.indexRemainder + REFLECTION_MAGNITUDE * (books.unallocatedFees + waiting) + retired
    = REFLECTION_MAGNITUDE * books.lifetimeSwapFees
  wallets : ∀ position ∈ books.positions.values, Covers books.currentIndex position.holding
  custody : Covers books.currentIndex books.custody
  materialized : (books.positions.values.map fun position => position.claimed).sum
    = books.lifetimeMaterialized
  routed : books.custodyClaimed = books.lifetimeCustodyRouted
  epochs : ∀ epoch ∈ books.lpEpochs.values, epoch.Balanced

/-- The fees that wait for an index event. -/
def Context.waiting (context : Context) : ℤ :=
  (context.pendingCoreFees.map fun receipt => receipt.event.feeAmount).sum

def Context.Balanced (context : Context) (retired : ℤ) : Prop :=
  context.next.books.Balanced context.waiting retired

theorem balanced_empty : createEmptyProjection.books.Balanced 0 0 := by
  refine ⟨rfl, ?_, Holding.covered_none, rfl, rfl, ?_⟩
  · intro position hposition
    exact absurd hposition List.not_mem_nil
  · intro epoch hepoch
    exact absurd hepoch List.not_mem_nil

/-! ## Wallets -/

section Wallets

variable {projection : ProtocolProjection} {waiting retired : ℤ}

/-- **A wallet's position written back.** The supply and the aggregate may follow
each other, and the claims their total. -/
theorem Books.Balanced.written {books : Books} (h : books.Balanced waiting retired)
    {account : Address} {position : IndexedPosition} {supply aggregate payouts materialized : ℤ}
    (hcovered : Covers books.currentIndex position.holding)
    (hindexed : supply * books.currentIndex + aggregate
      = books.eligibleSupply * books.currentIndex + books.aggregateCorrection)
    (hclaimed : position.claimed - (positionOrEmpty account books.positions).claimed
      = materialized - books.lifetimeMaterialized) :
    ({ books with
      positions := books.positions.set account position
      eligibleSupply := supply
      aggregateCorrection := aggregate
      rewardVaultPayouts := payouts
      lifetimeMaterialized := materialized } : Books).Balanced waiting retired := by
  refine ⟨?_, ?_, h.custody, ?_, h.routed, h.epochs⟩
  · have hbefore := h.indexed
    show supply * books.currentIndex + aggregate + _ + _ + _ = _
    rw [hindexed]
    exact hbefore
  · intro other hother
    obtain rfl | hother := OrderedMap.mem_values_set hother
    · exact hcovered
    · exact h.wallets other hother
  · show ((books.positions.set account position).values.map _).sum = materialized
    rw [sum_positions_set (fun position => position.claimed) rfl, h.materialized, hclaimed]
    ring

theorem IndexedPosition.claimed_moved (position : IndexedPosition) (asset : Metadata)
    (delta index : ℤ) : (position.moved asset delta index).claimed = position.claimed := by
  unfold IndexedPosition.moved
  rcases asset
  · rfl
  · rfl

/-- Only the reflection token weighs. -/
theorem IndexedPosition.covers_moved {position : IndexedPosition} {asset : Metadata}
    {delta index : ℤ} (h : Covers index position.holding)
    (hcovered : asset = .trfl → 0 ≤ position.rawTrfl + delta) :
    Covers index (position.moved asset delta index).holding := by
  rcases asset
  · exact h.weighed (hcovered rfl)
  · exact h

/-- A movement is corrected on both sides of the identity. -/
theorem Books.Balanced.moved (h : projection.books.Balanced waiting retired) {account : Address}
    {asset : Metadata} {delta : ℤ} (hmovable : Movable projection account asset delta) :
    (projection.moved account asset delta).books.Balanced waiting retired := by
  have hbefore : Covers projection.currentIndex
      (positionOrEmpty account projection.positions).holding := positionOrEmpty_holding h.wallets
  refine h.written
    (IndexedPosition.covers_moved hbefore fun htrfl => (hmovable.trfl htrfl).1) ?_ ?_
  · show (projection.eligibleSupply + _) * projection.currentIndex
        + (projection.aggregateCorrection - _ * projection.currentIndex)
      = projection.eligibleSupply * projection.currentIndex + projection.aggregateCorrection
    ring
  · rw [IndexedPosition.claimed_moved]
    show _ - _ = projection.lifetimeMaterialized - projection.lifetimeMaterialized
    rw [sub_self]
    exact sub_self _

/-- A position that is written back with the holding it had. -/
theorem Books.Balanced.touched (h : projection.books.Balanced waiting retired) {account : Address}
    {position : IndexedPosition}
    (hsame : position.holding = (positionOrEmpty account projection.positions).holding) :
    ({ projection with positions := projection.positions.set account position } :
      ProtocolProjection).books.Balanced waiting retired := by
  refine h.written (positionOrEmpty_holding h.wallets |> (hsame ▸ ·)) rfl ?_
  have hclaimed := congrArg Holding.claimed hsame
  show position.claimed - _ = projection.lifetimeMaterialized - projection.lifetimeMaterialized
  rw [sub_self]
  exact sub_eq_zero.mpr hclaimed

/-- A pending reward is the floor of what is owned, less what was claimed. -/
theorem walletPending_le {position : IndexedPosition} {index pending : ℤ}
    (h : walletPending position index = .ok pending) :
    pending = position.holding.pending REFLECTION_MAGNITUDE index := by
  unfold walletPending at h
  simp only [bind_eq_ok, magnifiedEntitlement_eq_ok, checkedMoveU256Subtract_eq_ok] at h
  obtain ⟨_, ⟨-, -, -, -, -, rfl⟩, -, -, -, rfl⟩ := h
  rfl

/-- A materialization pays what is pending, in shares. -/
theorem Books.Balanced.materialize (h : projection.books.Balanced waiting retired)
    {event : RewardsMaterializedEvent} (hmaterializable : Materializable projection event) :
    (projection.materialized event.account event.amount).books.Balanced waiting retired := by
  have hbefore : Covers projection.currentIndex
      (positionOrEmpty event.account projection.positions).holding :=
    positionOrEmpty_holding h.wallets
  obtain ⟨pending, hpending, hle⟩ := hmaterializable.pending
  have hpositive := hmaterializable.positive
  have hcovered := (hmaterializable.movable.trfl rfl).1
  have hafter := (hbefore.paid REFLECTION_MAGNITUDE_pos hpositive.le
    (by rwa [← walletPending_le hpending])).weighed hcovered
  refine h.written hafter ?_ ?_
  · show (projection.eligibleSupply + _) * projection.currentIndex
        + (projection.aggregateCorrection - _ * projection.currentIndex)
      = projection.eligibleSupply * projection.currentIndex + projection.aggregateCorrection
    ring
  · show _ + event.amount - _ = projection.lifetimeMaterialized + event.amount
      - projection.lifetimeMaterialized
    rw [add_sub_cancel_left]
    exact add_sub_cancel_left _ _

end Wallets

/-! ## Custody and the index -/

section Core

variable {projection : ProtocolProjection} {waiting retired : ℤ}

theorem Books.Balanced.custodyMoved (h : projection.books.Balanced waiting retired)
    {event : CustodySharesChangedEvent} (hmovable : CustodyMovable projection event) :
    (projection.custodyMoved event.delta).books.Balanced waiting retired := by
  have hbefore := h.indexed
  refine ⟨?_, h.wallets, h.custody.weighed hmovable.covered, h.materialized, h.routed, h.epochs⟩
  show (projection.eligibleSupply + event.delta) * projection.currentIndex
      + (projection.aggregateCorrection - event.delta * projection.currentIndex) + _ + _ + _ = _
  have hsame : (projection.eligibleSupply + event.delta) * projection.currentIndex
        + (projection.aggregateCorrection - event.delta * projection.currentIndex)
      = projection.eligibleSupply * projection.currentIndex + projection.aggregateCorrection := by
    ring
  rw [hsame]
  exact hbefore

theorem custodyPending_le {pending : ℤ} (h : custodyPending projection = .ok pending) :
    pending = projection.books.custody.pending REFLECTION_MAGNITUDE projection.currentIndex := by
  unfold custodyPending at h
  simp only [bind_eq_ok, magnifiedEntitlement_eq_ok, checkedMoveU256Subtract_eq_ok] at h
  obtain ⟨_, ⟨-, -, -, -, -, rfl⟩, -, -, -, rfl⟩ := h
  rfl

theorem Books.Balanced.route (h : projection.books.Balanced waiting retired)
    {event : CustodyRewardsRoutedEvent} (hroutable : Routable projection event) :
    (projection.routed event.reserveStore event.amount).books.Balanced waiting retired := by
  have hpending := custodyPending_le hroutable.pending
  have hcovered := h.custody.paid REFLECTION_MAGNITUDE_pos hroutable.positive.le hpending.le
  refine ⟨h.indexed, h.wallets, hcovered, h.materialized, ?_, h.epochs⟩
  show projection.custody.claimed + event.amount = projection.lifetimeCustodyRouted + event.amount
  have hrouted : projection.custody.claimed = projection.lifetimeCustodyRouted := h.routed
  rw [hrouted]

/-- What a fresh route retires leaves the aggregate with the custody's
correction. -/
theorem Books.Balanced.reroute (h : projection.books.Balanced waiting retired)
    {event : CustodyEpochRouteOpenedEvent} (hreroutes : Reroutes projection event) :
    (projection.rerouted event).books.Balanced waiting
      (retired + event.retiredResidueMagnified) := by
  have hbefore := h.indexed
  have hshares := hreroutes.shares
  have hresidue := hreroutes.residue
  refine ⟨?_, h.wallets, h.custody.forfeited ?_, h.materialized, h.routed, h.epochs⟩
  · show _ + (projection.aggregateCorrection - event.retiredResidueMagnified) + _ + _ + _ = _
    have hindexed : projection.eligibleSupply * projection.currentIndex
          + projection.aggregateCorrection + projection.indexRemainder
          + REFLECTION_MAGNITUDE * (projection.unallocatedFees + waiting) + retired
        = REFLECTION_MAGNITUDE * projection.lifetimeSwapFees := hbefore
    show projection.eligibleSupply * projection.currentIndex + _ + projection.indexRemainder
      + REFLECTION_MAGNITUDE * (projection.unallocatedFees + waiting) + _
      = REFLECTION_MAGNITUDE * projection.lifetimeSwapFees
    omega
  · show projection.custody.claimed * REFLECTION_MAGNITUDE + _
      ≤ projection.custody.shares * projection.currentIndex + projection.custody.correction
    rw [hshares, hresidue]
    omega

/-- A rise of the index hands out a fee that was waiting, and carries the
rest. -/
theorem Books.Balanced.advance {receipt : PendingCoreFee} {event : ReflectionIndexAdvancedEvent}
    (h : projection.books.Balanced (receipt.event.feeAmount + waiting) retired)
    (hadvances : Advances projection receipt event) :
    (projection.advanced event.newIndex event.indexRemainder).books.Balanced waiting retired := by
  have hbefore : projection.eligibleSupply * projection.currentIndex
        + projection.aggregateCorrection + projection.indexRemainder
        + REFLECTION_MAGNITUDE * (projection.unallocatedFees + (receipt.event.feeAmount + waiting))
        + retired = REFLECTION_MAGNITUDE * projection.lifetimeSwapFees := h.indexed
  have hdivision := Int.mul_ediv_add_emod (receipt.numerator projection.indexRemainder)
    receipt.sharesAtCollection
  have hsupply : projection.eligibleSupply = receipt.sharesAtCollection := by
    rw [← hadvances.supply, hadvances.supplyThen]
  have hrise : projection.currentIndex ≤ event.newIndex := by
    have hincrement := hadvances.increment.1
    rw [hadvances.newIndex]
    omega
  refine ⟨?_, ?_, h.custody.advanced hrise, h.materialized, h.routed, h.epochs⟩
  · show projection.eligibleSupply * event.newIndex + projection.aggregateCorrection
      + event.indexRemainder + REFLECTION_MAGNITUDE * (projection.unallocatedFees + waiting)
      + retired = REFLECTION_MAGNITUDE * projection.lifetimeSwapFees
    rw [hadvances.newIndex, hadvances.remainder, ← hbefore, hsupply]
    unfold PendingCoreFee.numerator at hdivision ⊢
    linarith
  · intro position hposition
    exact (h.wallets position hposition).advanced hrise

theorem Books.Balanced.charge (h : projection.books.Balanced waiting retired) {fee : ℤ} :
    (projection.charged fee).books.Balanced (waiting + fee) retired := by
  have hbefore : projection.eligibleSupply * projection.currentIndex
        + projection.aggregateCorrection + projection.indexRemainder
        + REFLECTION_MAGNITUDE * (projection.unallocatedFees + waiting) + retired
      = REFLECTION_MAGNITUDE * projection.lifetimeSwapFees := h.indexed
  refine ⟨?_, h.wallets, h.custody, h.materialized, h.routed, h.epochs⟩
  show projection.eligibleSupply * projection.currentIndex
      + projection.aggregateCorrection + projection.indexRemainder
      + REFLECTION_MAGNITUDE * (projection.unallocatedFees + (waiting + fee)) + retired
    = REFLECTION_MAGNITUDE * (projection.lifetimeSwapFees + fee)
  linarith

end Core

/-! ## Epochs -/

section Epochs

variable {epoch : IndexedLpEpoch}

theorem LpEpochOpenedEvent.opened_balanced (event : LpEpochOpenedEvent) :
    event.opened.Balanced := by
  constructor
  · rfl
  · intro position hposition
    exact absurd hposition List.not_mem_nil

namespace IndexedLpEpoch.Balanced

/-- Positions written back one by one stay covered. -/
theorem covers_set (h : epoch.Balanced) {owner : Address} {position : IndexedLpPosition}
    (hcovered : Covers epoch.index position.holding) :
    ∀ other ∈ (epoch.positions.set owner position).values, Covers epoch.index other.holding := by
  intro other hother
  obtain rfl | hother := OrderedMap.mem_values_set hother
  · exact hcovered
  · exact h.positions other hother

theorem owner (h : epoch.Balanced) (owner : Address) :
    Covers epoch.index (lpPositionOrEmpty owner epoch.positions).holding :=
  lpPositionOrEmpty_holding h.positions

theorem moved {projection : ProtocolProjection} {event : LpSharesChangedEvent}
    (h : epoch.Balanced) (hmovable : LpMovable projection epoch event) :
    (epoch.moved event.owner event.delta).Balanced := by
  have hbefore := h.indexed
  refine ⟨?_, h.covers_set ((h.owner event.owner).weighed hmovable.covered)⟩
  show (epoch.totalShares + event.delta) * epoch.index
      + (epoch.aggregateCorrection - event.delta * epoch.index) + epoch.indexRemainder
      + epoch.retiredResidueMagnified + REFLECTION_MAGNITUDE * epoch.unallocatedRewards
    = REFLECTION_MAGNITUDE * epoch.lifetimeReceived
  rw [← hbefore]
  ring

theorem transferred {projection : ProtocolProjection} {event : LpSharesTransferredEvent}
    (h : epoch.Balanced) (htransferable : LpTransferable projection epoch event) :
    (epoch.transferred event.sender event.recipient event.amount).Balanced := by
  have hcovered := htransferable.covered
  have hpositive := htransferable.positive
  have hrecipient := (h.owner event.recipient).shares
  have hsender : Covers epoch.index
      ((lpPositionOrEmpty event.sender epoch.positions).moved (-event.amount)
        epoch.index).holding := by
    refine (h.owner event.sender).weighed ?_
    show 0 ≤ (lpPositionOrEmpty event.sender epoch.positions).shares + -event.amount
    omega
  refine ⟨h.indexed, ?_⟩
  intro other hother
  obtain rfl | hother := OrderedMap.mem_values_set hother
  · refine (h.owner event.recipient).weighed ?_
    omega
  · exact h.covers_set hsender other hother

theorem received {projection : ProtocolProjection} {event : LpRewardIndexAdvancedEvent}
    (h : epoch.Balanced) (hadvances : LpAdvances projection epoch event) :
    (epoch.received event).Balanced := by
  have hbefore := h.indexed
  have hdivision := Int.mul_ediv_add_emod (event.numerator epoch.indexRemainder) epoch.totalShares
  have hrise : epoch.index ≤ event.newIndex := by
    have hincrement := hadvances.increment.1
    rw [hadvances.newIndex]
    omega
  refine ⟨?_, fun position hposition => (h.positions position hposition).advanced hrise⟩
  show epoch.totalShares * event.newIndex + epoch.aggregateCorrection + event.indexRemainder
      + epoch.retiredResidueMagnified + REFLECTION_MAGNITUDE * epoch.unallocatedRewards
    = REFLECTION_MAGNITUDE * (epoch.lifetimeReceived + event.received)
  rw [hadvances.newIndex, hadvances.remainder]
  unfold LpRewardIndexAdvancedEvent.numerator at hdivision ⊢
  linarith

theorem quarantinedWith (h : epoch.Balanced) (amount reserve : ℤ) :
    (epoch.quarantinedWith amount reserve).Balanced := by
  have hbefore := h.indexed
  refine ⟨?_, h.positions⟩
  show epoch.totalShares * epoch.index + epoch.aggregateCorrection + epoch.indexRemainder
      + epoch.retiredResidueMagnified + REFLECTION_MAGNITUDE * (epoch.unallocatedRewards + amount)
    = REFLECTION_MAGNITUDE * (epoch.lifetimeReceived + amount)
  linarith

end IndexedLpEpoch.Balanced

theorem lpPositionPending_le {position : IndexedLpPosition} {pending : ℤ}
    (h : lpPositionPending position epoch = .ok pending) :
    pending = position.holding.pending REFLECTION_MAGNITUDE epoch.index := by
  unfold lpPositionPending at h
  simp only [bind_eq_ok, magnifiedEntitlement_eq_ok, checkedMoveU256Subtract_eq_ok] at h
  obtain ⟨_, ⟨-, -, -, -, -, rfl⟩, -, -, -, rfl⟩ := h
  rfl

theorem IndexedLpEpoch.Balanced.paid {event : LpRewardsClaimedEvent} (h : epoch.Balanced)
    (hclaimable : LpClaimable epoch event) : (epoch.paid event.owner event.amount).Balanced := by
  obtain ⟨pending, hpending, hle⟩ := hclaimable.pending
  refine ⟨h.indexed, h.covers_set ?_⟩
  exact (h.owner event.owner).paid REFLECTION_MAGNITUDE_pos hclaimable.positive.le
    (by rwa [← lpPositionPending_le hpending])

/-- A residue goes from its owner's correction, through the aggregate, to what
is retired. -/
theorem IndexedLpEpoch.Balanced.retire {event : LpFractionalResidueRetiredEvent}
    (h : epoch.Balanced) (hretires : Retires epoch event) (reserve : ℤ) :
    (epoch.retired event.owner event.residueMagnified reserve).Balanced := by
  have hbefore := h.indexed
  have hresidue := hretires.residue
  refine ⟨?_, h.covers_set ((h.owner event.owner).forfeited ?_)⟩
  · show epoch.totalShares * epoch.index + (epoch.aggregateCorrection - event.residueMagnified)
        + epoch.indexRemainder + (epoch.retiredResidueMagnified + event.residueMagnified)
        + REFLECTION_MAGNITUDE * epoch.unallocatedRewards
      = REFLECTION_MAGNITUDE * epoch.lifetimeReceived
    linarith
  · show (lpPositionOrEmpty event.owner epoch.positions).claimed * REFLECTION_MAGNITUDE + _
      ≤ (lpPositionOrEmpty event.owner epoch.positions).shares * epoch.index
        + (lpPositionOrEmpty event.owner epoch.positions).correction
    linarith

/-- An epoch written back. -/
theorem Books.Balanced.withEpoch {books : Books} {waiting retired : ℤ}
    (h : books.Balanced waiting retired) (key : ℤ) {epoch : IndexedLpEpoch}
    (hepoch : epoch.Balanced) :
    ({ books with lpEpochs := books.lpEpochs.set key epoch } : Books).Balanced waiting retired := by
  refine ⟨h.indexed, h.wallets, h.custody, h.materialized, h.routed, ?_⟩
  intro other hother
  obtain rfl | hother := OrderedMap.mem_values_set hother
  · exact hepoch
  · exact h.epochs other hother

theorem Books.Balanced.found {books : Books} {waiting retired : ℤ}
    (h : books.Balanced waiting retired) {key : ℤ} {epoch : IndexedLpEpoch}
    (hfound : books.lpEpochs.get? key = some epoch) : epoch.Balanced :=
  h.epochs epoch (OrderedMap.mem_values.mpr ⟨key, hfound⟩)

end Epochs

/-! ## One event -/

/-- What an event retires of the custody's accumulator. -/
def EventBody.retired : EventBody → ℤ
  | CustodyEpochRouteOpened event => event.retiredResidueMagnified
  | _ => 0

section Step

variable {base : EventBase} {c c' : Context} {retired : ℤ}

theorem DebitsOnce.balanced {swap : SwapExecutedEvent} (hdebits : DebitsOnce c swap c')
    (h : c.Balanced retired) : c'.Balanced retired := by
  cases hdebits with
  | due hsell hdue hmovable => exact Books.Balanced.moved h hmovable
  | skip => exact h

/-- The trader's side of a swap. -/
theorem Books.Balanced.settled {projection : ProtocolProjection} {waiting retired : ℤ}
    (h : projection.books.Balanced waiting retired) {event : SwapExecutedEvent}
    (hsettles : SwapSettles projection event) :
    (projection.settled event).books.Balanced waiting retired := by
  unfold ProtocolProjection.settled
  rcases hdirection : event.direction with _ | _
  · obtain ⟨hdebit, hcredit⟩ := hsettles.buy hdirection
    exact (h.moved hdebit).moved hcredit
  · exact h.moved (hsettles.sell hdirection)

theorem Books.Balanced.credited {projection : ProtocolProjection} {waiting retired : ℤ}
    (h : projection.books.Balanced waiting retired) {account : Address} {asset : Metadata}
    {amount : ℤ} (hmovable : 0 < amount → Movable projection account asset amount) :
    (projection.credited account asset amount).books.Balanced waiting retired := by
  unfold ProtocolProjection.credited
  split_ifs with hamount
  · exact h.moved (hmovable hamount)
  · exact h

/-- The provider's side of a liquidity receipt. -/
theorem Books.Balanced.provided {projection : ProtocolProjection} {waiting retired : ℤ}
    (h : projection.books.Balanced waiting retired) {kind : LiquidityKind} {event : LiquidityEvent}
    (hprovides : Provides projection kind event) :
    (projection.provided kind event).books.Balanced waiting retired := by
  unfold ProtocolProjection.provided
  rcases kind with _ | _ | finalExit
  · exact h
  · obtain ⟨htrfl, htusd⟩ := hprovides.added rfl
    exact (h.moved htrfl).moved htusd
  · obtain ⟨htrfl, htusd⟩ := hprovides.removed finalExit rfl
    exact (h.credited htrfl).credited htusd

theorem balanced_of_liquidity {prior : ProtocolProjection} {kind : LiquidityKind}
    {event : LiquidityEvent} (h : c.Balanced retired)
    (hclean : Clean (liquidityReplayed prior base kind event) c () c') : c'.Balanced retired := by
  obtain ⟨-, hprovides, rfl⟩ := clean_liquidityReplayed.mp hclean
  have hprovided := Books.Balanced.provided h hprovides
  exact ⟨hprovided.indexed, hprovided.wallets, hprovided.custody, hprovided.materialized,
    hprovided.routed, hprovided.epochs⟩

/-- A fee receipt waits for its index event. -/
theorem waiting_append (receipts : List PendingCoreFee) (receipt : PendingCoreFee) :
    ((receipts ++ [receipt]).map fun receipt => receipt.event.feeAmount).sum
      = (receipts.map fun receipt => receipt.event.feeAmount).sum + receipt.event.feeAmount := by
  rw [List.map_append, List.sum_append]
  simp

/-- A configuration leaves the books, and retires nothing. -/
theorem balanced_of_configuration {prior : ProtocolProjection} {events : List ProtocolEvent}
    {event : ProtocolEvent} (hconfiguration : event.body.isConfiguration = true)
    (hinitialized : ∀ initialized, event.body ≠ .ProtocolInitialized initialized)
    (h : c.Balanced retired) (hclean : Clean (replayEvent prior events event) c () c') :
    c'.Balanced (retired + event.body.retired) := by
  have hconfigures := configures_of_clean hconfiguration hinitialized hclean
  have hnone : event.body.retired = 0 := by
    rcases hbody : event.body
    all_goals simp only [hbody] at hconfiguration
    case CustodyEpochRouteOpened => exact absurd hconfiguration Bool.false_ne_true
    all_goals rfl
  unfold Context.Balanced Context.waiting
  rw [hconfigures.books, hconfigures.fees, hnone, add_zero]
  exact h

/-- A fee is charged after the seller's debit, and waits for its index event. -/
theorem balanced_of_feeCollected {events : List ProtocolEvent} {event : ReflectionFeeCollectedEvent}
    (h : c.Balanced retired) (hclean : Clean (reflectionFeeCollected events base event) c () c') :
    c'.Balanced retired := by
  obtain ⟨c₁, hdebits, hskips, -, rfl⟩ := clean_reflectionFeeCollected.mp hclean
  have hdebited : c₁.Balanced retired := by
    rcases hswaps : select EventBody.swap events with _ | ⟨swap, swaps⟩
    · rw [hskips hswaps]
      exact h
    · exact (hdebits swap (by rw [hswaps]; rfl)).balanced h
  show (Books.Balanced _ _ _)
  unfold Context.waiting
  rw [waiting_append]
  exact Books.Balanced.charge hdebited

/-- An index event hands out the fee that waits longest. -/
theorem balanced_of_indexAdvanced {event : ReflectionIndexAdvancedEvent} (h : c.Balanced retired)
    (hclean : Clean (reflectionIndexAdvanced base event) c () c') : c'.Balanced retired := by
  obtain ⟨receipt, receipts, hreceipts, hadvances, rfl⟩ := clean_reflectionIndexAdvanced.mp hclean
  have hwaiting : c.waiting
      = receipt.event.feeAmount + (receipts.map fun receipt => receipt.event.feeAmount).sum := by
    unfold Context.waiting
    rw [hreceipts, List.map_cons, List.sum_cons]
  unfold Context.Balanced at h
  rw [hwaiting] at h
  exact h.advance hadvances

/-- An epoch is opened with nothing in it. -/
theorem balanced_of_opened {event : LpEpochOpenedEvent} (h : c.Balanced retired)
    (hclean : Clean (lpEpochOpened base event) c () c') : c'.Balanced retired := by
  obtain ⟨-, rfl⟩ := clean_lpEpochOpened.mp hclean
  have hopened := Books.Balanced.withEpoch h event.epoch event.opened_balanced
  exact ⟨hopened.indexed, hopened.wallets, hopened.custody, hopened.materialized, hopened.routed,
    hopened.epochs⟩

/-- The status of an epoch is in none of its identities. -/
theorem balanced_of_statusChanged {event : LpEpochStatusChangedEvent} (h : c.Balanced retired)
    (hclean : Clean (lpEpochStatusChanged base event) c () c') : c'.Balanced retired := by
  obtain ⟨epoch, hepoch, -, rfl⟩ := clean_lpEpochStatusChanged.mp hclean
  have hfound := Books.Balanced.found h hepoch
  have hepoch : ({ epoch with status := .claimOnly } : IndexedLpEpoch).Balanced :=
    ⟨hfound.indexed, hfound.positions⟩
  have hended := Books.Balanced.withEpoch h epoch.epoch hepoch
  exact ⟨hended.indexed, hended.wallets, hended.custody, hended.materialized, hended.routed,
    hended.epochs⟩

/-- Neither is the dust that is classified at its end. -/
theorem balanced_of_dustClassified {event : LpEpochTerminalDustClassifiedEvent}
    (h : c.Balanced retired) (hclean : Clean (lpEpochTerminalDustClassified base event) c () c') :
    c'.Balanced retired := by
  obtain ⟨epoch, hepoch, -, rfl⟩ := clean_lpEpochTerminalDustClassified hclean
  have hfound := Books.Balanced.found h hepoch
  have hclassified : ({ epoch with
      terminalRoundingBaseUnits := some epoch.roundingReserve } : IndexedLpEpoch).Balanced :=
    ⟨hfound.indexed, hfound.positions⟩
  exact Books.Balanced.withEpoch h epoch.epoch hclassified

/-- A swap settles with its trader. The pool's reserves are in none of the books. -/
theorem balanced_of_swap {swap : SwapExecutedEvent} (h : c.Balanced retired)
    (hclean : Clean (swapExecuted base swap) c () c') : c'.Balanced retired := by
  obtain ⟨c₁, hdebits, hsettles, -, rfl⟩ := clean_swapExecuted.mp hclean
  have hsettled := Books.Balanced.settled (hdebits.balanced h) hsettles
  exact ⟨hsettled.indexed, hsettled.wallets, hsettled.custody, hsettled.materialized,
    hsettled.routed, hsettled.epochs⟩

/-- **Every event keeps the identities**, the initialization of the first release
apart: that one sets the index by hand. -/
theorem balanced_of_clean {prior : ProtocolProjection} {events : List ProtocolEvent}
    {event : ProtocolEvent} (h : c.Balanced retired)
    (hinitialized : ∀ initialized, event.body ≠ .ProtocolInitialized initialized)
    (hclean : Clean (replayEvent prior events event) c () c') :
    c'.Balanced (retired + event.body.retired) := by
  -- A configuration leaves the books; accounting moves what a holder has, what waits or what an
  -- epoch owes.
  by_cases hconfiguration : event.body.isConfiguration = true
  · exact balanced_of_configuration hconfiguration hinitialized h hclean
  · unfold replayEvent at hclean
    rcases hbody : event.body
    all_goals simp only [hbody] at hclean hconfiguration hinitialized
    all_goals simp only [EventBody.retired, add_zero]
    case PositionCreated account =>
      obtain ⟨-, rfl⟩ := clean_positionCreated.mp hclean
      exact Books.Balanced.touched h rfl
    case WalletRegistered =>
      obtain ⟨-, rfl⟩ := clean_walletRegistered.mp hclean
      exact ⟨h.indexed, h.wallets, h.custody, h.materialized, h.routed, h.epochs⟩
    case FaucetGrant =>
      obtain ⟨-, hmovable, rfl⟩ := clean_faucetGrant.mp hclean
      exact Books.Balanced.moved h hmovable
    case WalletTransfer =>
      obtain ⟨-, rfl⟩ := clean_walletTransfer.mp hclean
      exact h
    case EligibleBalanceDebited =>
      obtain ⟨-, hmovable, rfl⟩ := clean_eligibleBalanceDebited.mp hclean
      exact Books.Balanced.moved h hmovable
    case EligibleBalanceCredited =>
      obtain ⟨-, hmovable, rfl⟩ := clean_eligibleBalanceCredited.mp hclean
      exact Books.Balanced.moved h hmovable
    case RewardsMaterialized =>
      obtain ⟨hmaterializable, rfl⟩ := clean_materializeWallet.mp hclean
      exact Books.Balanced.materialize h hmaterializable
    case RewardsClaimed claim =>
      -- An explicit claim is the second receipt of a materialization: it pays nothing.
      obtain ⟨-, rfl⟩ := clean_rewardsClaimed.mp hclean
      exact Books.Balanced.touched h rfl
    case CustodyEpochRouteOpened =>
      obtain ⟨hreroutes, rfl⟩ := clean_custodyEpochRouteOpened hclean
      exact Books.Balanced.reroute h hreroutes
    case ReflectionFeeCollected => exact balanced_of_feeCollected h hclean
    case ReflectionIndexAdvanced => exact balanced_of_indexAdvanced h hclean
    case CustodySharesChanged =>
      obtain ⟨hmovable, rfl⟩ := clean_custodySharesChanged.mp hclean
      exact Books.Balanced.custodyMoved h hmovable
    case CustodyRewardsRouted =>
      obtain ⟨hroutable, rfl⟩ := clean_custodyRewardsRouted.mp hclean
      exact Books.Balanced.route h hroutable
    case LpEpochOpened => exact balanced_of_opened h hclean
    case LpEpochStatusChanged => exact balanced_of_statusChanged h hclean
    case LpFractionalResidueRetired =>
      obtain ⟨epoch, hepoch, hretires, rfl⟩ := clean_lpFractionalResidueRetired hclean
      exact Books.Balanced.withEpoch h epoch.epoch
        ((Books.Balanced.found h hepoch).retire hretires _)
    case LpEpochTerminalDustClassified => exact balanced_of_dustClassified h hclean
    case LpSharesChanged =>
      obtain ⟨epoch, hepoch, hmovable, rfl⟩ := clean_adjustLpShares.mp hclean
      exact Books.Balanced.withEpoch h epoch.epoch ((Books.Balanced.found h hepoch).moved hmovable)
    case LpSharesTransferred =>
      obtain ⟨epoch, hepoch, htransferable, rfl⟩ := clean_lpSharesTransferred.mp hclean
      exact Books.Balanced.withEpoch h epoch.epoch
        ((Books.Balanced.found h hepoch).transferred htransferable)
    case LpRewardIndexAdvanced =>
      obtain ⟨epoch, hepoch, _, -, hadvances, rfl⟩ := clean_lpRewardIndexAdvanced.mp hclean
      exact Books.Balanced.withEpoch h epoch.epoch
        ((Books.Balanced.found h hepoch).received hadvances)
    case LpRewardQuarantined =>
      obtain ⟨epoch, hepoch, _, reserve, -, -, -, -, -, rfl⟩ := clean_lpRewardQuarantined.mp hclean
      exact Books.Balanced.withEpoch h epoch.epoch
        ((Books.Balanced.found h hepoch).quarantinedWith _ reserve)
    case LpRewardsClaimed =>
      obtain ⟨epoch, hepoch, hclaimable, hmovable, rfl⟩ := clean_lpRewardsClaimed.mp hclean
      exact Books.Balanced.withEpoch (Books.Balanced.moved h hmovable) epoch.epoch
        ((Books.Balanced.found h hepoch).paid hclaimable)
    case SwapExecuted => exact balanced_of_swap h hclean
    case LiquiditySeeded => exact balanced_of_liquidity h hclean
    case LiquidityAdded => exact balanced_of_liquidity h hclean
    case LiquidityRemoved => exact balanced_of_liquidity h hclean
    case Unknown => exact absurd hclean (by simp)
    all_goals exact absurd rfl hconfiguration

end Step

/-! ## Pending rewards are defined -/

section Pending

variable {holdings : List Holding} {index : ℤ}

/-- **One checked total is enough.** If the entitlement of all the holders
together fits, the pending reward of each of them is defined. -/
theorem pending_of_total (hcovered : ∀ holding ∈ holdings, Covers index holding) {gross : ℤ}
    (htotal : magnifiedEntitlement (Holding.total holdings).shares index
      (Holding.total holdings).correction = .ok gross)
    {holding : Holding} (hmem : holding ∈ holdings) (label : Text) :
    (do
      let gross ← magnifiedEntitlement holding.shares index holding.correction
      checkedMoveU256Subtract gross holding.claimed label)
      = .ok (holding.pending REFLECTION_MAGNITUDE index) := by
  obtain ⟨⟨-, hindex⟩, ⟨hsharesFit, hindexFits⟩, hproductFits, -, hgrossFits, -⟩ :=
    magnifiedEntitlement_eq_ok.mp htotal
  have hthis := hcovered holding hmem
  have hshares : holding.shares ≤ (Holding.total holdings).shares :=
    Holding.le_sum_of_nonneg (fun other hother => (hcovered other hother).shares) hmem
  have howned : holding.entitlement index ≤ (Holding.total holdings).entitlement index := by
    rw [Holding.entitlement_total]
    exact Holding.le_sum_of_nonneg
      (fun other hother => (hcovered other hother).entitlement_nonneg REFLECTION_MAGNITUDE_pos) hmem
  have hproduct : holding.shares * index ≤ (Holding.total holdings).shares * index :=
    mul_le_mul_of_nonneg_right hshares hindex
  have hnonneg := hthis.entitlement_nonneg REFLECTION_MAGNITUDE_pos
  have hproductNonneg : 0 ≤ holding.shares * index := mul_nonneg hthis.shares hindex
  have hclaimed : holding.claimed ≤ holding.entitlement index / REFLECTION_MAGNITUDE :=
    Int.le_ediv_of_mul_le REFLECTION_MAGNITUDE_pos hthis.claims
  have hfloor : holding.entitlement index / REFLECTION_MAGNITUDE ≤ holding.entitlement index :=
    Int.ediv_le_self _ hnonneg
  have hsharesNonneg := hthis.shares
  have hclaimedNonneg := hthis.claimed
  unfold Holding.entitlement at howned hnonneg hclaimed hfloor
  unfold isMoveUnsigned at hsharesFit hindexFits hproductFits hgrossFits
  rw [bind_eq_ok]
  refine ⟨_, magnifiedEntitlement_eq_ok.mpr ⟨⟨hsharesNonneg, hindex⟩, ⟨⟨?_, ?_⟩, hindexFits⟩,
    ⟨hproductNonneg, ?_⟩, ⟨?_, ?_⟩, ⟨hnonneg, ?_⟩, rfl⟩,
    checkedMoveU256Subtract_eq_ok.mpr ⟨⟨?_, ?_⟩, ⟨hclaimedNonneg, ?_⟩, hclaimed, rfl⟩⟩
  -- A correction lies between two numbers that fit, and so does everything else.
  all_goals omega

end Pending

end CedraReflect.indexer
