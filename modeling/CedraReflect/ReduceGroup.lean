/-
`reduceEventGroup` of the indexer: the events of one transaction, all or
nothing.

A group passes three gates. Its events are well formed and new, which is what
[`identityChecks`] files alerts about. Its receipts agree with each other, which
[`groupChecks`] looks at as a whole and before anything is replayed. And its
replay ends in a projection whose books close ([`closingChecks`]). Only an
exception keeps the projection from advancing; an alert does not.
-/
import CedraReflect.Reducer

set_option autoImplicit false
set_option linter.constructorNameAsVariable false

namespace CedraReflect.indexer

open Audited

structure ReduceResult where
  projection : ProtocolProjection
  alerts : List CriticalAlert

/-! ## Identity -/

/-- `${ledgerVersion}:${eventIndex}`. -/
def EventCursor.shown (cursor : EventCursor) : Text :=
  [.int cursor.ledgerVersion, .lit ":", .int cursor.eventIndex]

/-- The alerts about one event, after events with the identifiers `groupIds`, the
last of them at `previousEventIndex`. -/
def identityChecks (prior : ProtocolProjection) (first : EventBase) (groupIds : List String)
    (previousEventIndex : ℤ) (event : ProtocolEvent) : List CriticalAlert :=
  let base := event.toEventBase
  let priorCursor := prior.seenEventIds.get? event.id
  (match assertProtocolEventMoveDomains event with
    | .ok () => []
    | .error detail => [problem base .EVENT_DATA detail none none])
  ++ (if event.ledgerVersion ≠ first.ledgerVersion ∨ event.txHash ≠ first.txHash then
      [problem base .TRANSACTION_GROUP
        (text "One atomic event group contains more than one transaction identity.") none none]
    else [])
  ++ (if event.eventIndex ≤ previousEventIndex then
      [problem base .EVENT_ORDER
        (text "Event indices inside a transaction must be strictly increasing.") none none]
    else [])
  ++ (if priorCursor.isSome = true ∨ event.id ∈ groupIds then
      [problem base .IDENTIFIER_REUSE
        (text "An event identifier was reused for a different replay position.")
        (some ((priorCursor.map EventCursor.shown).getD (text "unique in transaction")))
        (some base.cursor.shown)]
    else [])

def identityAlerts (prior : ProtocolProjection) (first : EventBase) :
    List String → ℤ → List ProtocolEvent → List CriticalAlert
  | _, _, [] => []
  | groupIds, previousEventIndex, event :: events =>
      identityChecks prior first groupIds previousEventIndex event
        ++ identityAlerts prior first (groupIds ++ [event.id]) event.eventIndex events

/-! ## The receipts of a group -/

/-- A wallet's registration comes before the other events about the wallet. -/
def registrationOrder (events : List ProtocolEvent) : Replay Unit :=
  forEach (select EventBody.registration events) fun (base, registration) =>
    let preceding := events.find? fun candidate =>
      candidate.id ≠ base.id ∧ registration.account ∈ candidate.body.accountStateSubjects
        ∧ candidate.eventIndex ≤ base.eventIndex
    alertIf (preceding.isSome = true) base .WALLET_REGISTRATION
      "WalletRegistered must precede every same-transaction position or account-balance event for that account."
      (preceding.map fun event => [.lit "registration before ", .lit event.body.type])
      (preceding.map fun event => [.lit event.body.type, .lit " at ", .int event.eventIndex])

/-- The custody receipt that a swap or a liquidity receipt stands for. -/
def expectedCustody (events : List ProtocolEvent) : Option (Bool × ℤ) :=
  match select EventBody.swap events, select EventBody.liquidity events with
  | [(_, swap)], _ =>
      some (swap.direction = .sell,
        if swap.direction = .sell then swap.netReserveInput else swap.grossPoolOutput)
  | _, [(_, kind, receipt)] =>
      if 0 < receipt.trflAmount then some (!kind.isRemoval, receipt.trflAmount) else none
  | _, _ => none

def custodyShown (change : Bool × ℤ) : Text := [.bool change.1, .lit "/", .int change.2]

/-- `Array.prototype.join(",")`. -/
def joined : List Text → Text
  | [] => []
  | [x] => x
  | x :: xs => x ++ [.lit ","] ++ joined xs

/-- One terminal receipt a group, no wallet hooks beside it, and the custody
receipt it stands for. -/
def poolReceipts (first : EventBase) (events : List ProtocolEvent) : Replay Unit := do
  let swaps := select EventBody.swap events
  let liquidity := select EventBody.liquidity events
  let custodyChanges := select EventBody.custodyChange events
  alertIf (1 < swaps.length ∨ 1 < liquidity.length) first .TRANSACTION_GROUP
    "A transaction contains multiple terminal pool receipts." none none
  alertIf (0 < swaps.length + liquidity.length
      ∧ (0 < (select EventBody.nativeDebit events).length
        ∨ 0 < (select EventBody.nativeCredit events).length
        ∨ 0 < (select EventBody.walletTransfer events).length)) first .DOUBLE_COUNTING
    "Composite pool settlement must not also be replayed as a wallet-hook transfer." none none
  match expectedCustody events with
  | some expected =>
      let observed := custodyChanges.map fun (_, change) => (change.added, change.amount)
      alertIf (observed ≠ [expected]) first
        (if 1 < custodyChanges.length then .DOUBLE_COUNTING else .RESERVE_CUSTODY)
        "Pool reserve movement must have exactly one equal custody-share receipt."
        (some (custodyShown expected))
        (some (if observed = [] then text "missing" else joined (observed.map custodyShown)))
  | none =>
      alertIf (0 < custodyChanges.length) first .TRANSACTION_GROUP
        "Custody shares changed without a swap or liquidity receipt." none none

/-- Core routes and LP receipts come in pairs, and so do epochs and the routes
that serve them. -/
def routePairs (prior : ProtocolProjection) (first : EventBase) (events : List ProtocolEvent) :
    Replay Unit := do
  let routes := select EventBody.route events
  let downstream := (select EventBody.lpAdvance events).length
    + (select EventBody.lpQuarantine events).length
  let openings := select EventBody.lpOpening events
  let registrations := select EventBody.adapterRegistration events
  let routeOpenings := select EventBody.routeOpening events
  alertIf (routes.length ≠ downstream) first .ROUTE_PAIR
    "Each core custody route must have exactly one downstream LP-index receipt in the same transaction."
    (shown routes.length) (shown downstream)
  forEach openings fun (base, opening) =>
    let initialPair := registrations.filter fun (_, candidate) =>
      candidate.firstEpoch = opening.epoch ∧ candidate.lpRewardVault = opening.rewardVault
    let laterPair := routeOpenings.filter fun (_, candidate) =>
      candidate.epoch = opening.epoch ∧ candidate.lpRewardVault = opening.rewardVault
    alertIf ((if prior.lpEpochs.size = 0 then initialPair.length else laterPair.length) ≠ 1)
      base .ROUTE_PAIR
      "Every LP epoch opening must pair with exactly one matching initial adapter or fresh custody route."
      none none
  forEach routeOpenings fun (base, routeOpening) =>
    alertIf (¬ openings.any (fun (_, opening) =>
        opening.epoch = routeOpening.epoch ∧ opening.rewardVault = routeOpening.lpRewardVault))
      base .ROUTE_PAIR
      "Fresh custody epoch route lacks a same-transaction LP epoch opening." none none

/-- An epoch ends with a status transition and, after it, a classification. -/
def terminalPairs (events : List ProtocolEvent) : Replay Unit := do
  let transitions := select EventBody.lpTerminalTransition events
  let classifications := select EventBody.lpTerminalClassification events
  forEach transitions fun (base, transition) =>
    let found := classifications.filter fun (candidate, classification) =>
      classification.epoch = transition.epoch ∧ base.eventIndex < candidate.eventIndex
    alertIf (found.length ≠ 1) base .LP_ACCOUNTING
      "Every active-to-claim-only transition requires exactly one later terminal-dust classification in the same transaction."
      (shown 1) (shown found.length)
  forEach classifications fun (base, classification) =>
    let found := transitions.filter fun (candidate, transition) =>
      transition.epoch = classification.epoch ∧ candidate.eventIndex < base.eventIndex
    alertIf (found.length ≠ 1) base .LP_ACCOUNTING
      "Terminal dust classification must follow exactly one matching status transition in its transaction."
      (shown 1) (shown found.length)

/-- A residue is retired before its owner's one exit. -/
def residueExits (events : List ProtocolEvent) : Replay Unit :=
  forEach (select EventBody.lpResidue events) fun (base, residue) =>
    let burns := (select EventBody.lpSharesChange events).filter fun (candidate, change) =>
      change.added = false ∧ change.epoch = residue.epoch ∧ change.owner = residue.owner
        ∧ change.ownerShares = 0 ∧ base.eventIndex < candidate.eventIndex
    let transfers := (select EventBody.lpSharesTransfer events).filter fun (candidate, transfer) =>
      transfer.epoch = residue.epoch ∧ transfer.sender = residue.owner
        ∧ base.eventIndex < candidate.eventIndex
    alertIf (burns.length + transfers.length ≠ 1) base .LP_ACCOUNTING
      "Fractional residue retirement must precede exactly one complete owner exit in the same transaction."
      (shown 1) (shown (burns.length + transfers.length))

/-! ## The liquidity receipt -/

/-- A removal against the epoch it draws on. -/
def removalChecks (prior : ProtocolProjection) (events : List ProtocolEvent) (base : EventBase)
    (receipt : LiquidityEvent) (finalExit : Bool) (epoch : IndexedLpEpoch) : Replay Unit := do
  let fullExit : Bool := receipt.lpShares = epoch.totalShares
  let proportional := fun (reserve : ℤ) (label : String) =>
    if fullExit = true then pure reserve
    else do
      let numerator ← checkedMoveU256Multiply receipt.lpShares reserve (text label)
      divide numerator epoch.totalShares
  let expectedRfl ← attempt (proportional prior.pool.trflReserve "LP withdrawal tRFL numerator")
  let expectedUsd ← attempt (proportional prior.pool.tusdReserve "LP withdrawal tUSD numerator")
  alertIf (receipt.trflAmount ≠ expectedRfl ∨ receipt.tusdAmount ≠ expectedUsd
      ∨ finalExit ≠ fullExit) base .LP_ACCOUNTING
    "Liquidity withdrawal does not match proportional floor/final-exit arithmetic."
    (slashed [.int expectedRfl, .int expectedUsd, .bool fullExit])
    (slashed [.int receipt.trflAmount, .int receipt.tusdAmount, .bool finalExit])
  if fullExit = false ∧ prior.pool.shutdownMode = false then do
    let request ← attempt (checkedMoveU256Multiply receipt.lpShares BPS_DENOMINATOR
      (text "LP withdrawal limit request"))
    let allowance ← attempt (checkedMoveU256Multiply epoch.totalShares
      prior.pool.maximumNonFinalWithdrawalShareBps (text "LP withdrawal limit allowance"))
    alertIf (allowance < request) base .POOL_LIMITS
      "Normal-mode non-final withdrawal exceeds the configured proportional share limit."
      (shown allowance) (shown request)
  else pure ()
  let transitions := (select EventBody.lpTerminalTransition events).filter fun (_, transition) =>
    transition.epoch = receipt.epoch
  let classifications := (select EventBody.lpTerminalClassification events).filter
    fun (_, classification) => classification.epoch = receipt.epoch
  if fullExit = true then
    let shareExits := (select EventBody.lpSharesChange events).filter fun (candidate, change) =>
      change.added = false ∧ change.epoch = receipt.epoch ∧ change.owner = receipt.provider
        ∧ change.amount = receipt.lpShares ∧ change.ownerShares = 0 ∧ change.totalShares = 0
        ∧ candidate.eventIndex < base.eventIndex
    let ordered : Bool := match shareExits, transitions, classifications with
      | [(exit, _)], [(transition, change)], [(classification, _)] =>
          change.oldStatus = .active ∧ exit.eventIndex < transition.eventIndex
            ∧ transition.eventIndex < classification.eventIndex
            ∧ classification.eventIndex < base.eventIndex
      | _, _, _ => false
    alertIf (prior.pool.shutdownMode = false ∨ finalExit = false ∨ ordered = false)
      base .LP_ACCOUNTING
      "Final liquidity removal requires prior shutdown and one ordered same-transaction share exit, active-to-claim-only transition, terminal classification, then receipt."
      none none
  else
    alertIf (0 < transitions.length ∨ 0 < classifications.length) base .LP_ACCOUNTING
      "A non-final liquidity removal cannot terminate or classify its active LP epoch." none none

/-- An addition against the epoch it mints in. -/
def additionChecks (prior : ProtocolProjection) (base : EventBase) (receipt : LiquidityEvent)
    (epoch : IndexedLpEpoch) : Replay Unit := do
  if epoch.totalShares ≤ 0 ∨ prior.pool.trflReserve ≤ 0 ∨ prior.pool.tusdReserve ≤ 0 then
    file (problem base .LP_ACCOUNTING
      (text "Liquidity addition requires nonzero reserves and existing LP shares.") none none)
  else do
    let rflNumerator ← attempt (checkedMoveU256Multiply receipt.lpShares prior.pool.trflReserve
      (text "LP mint tRFL numerator"))
    let expectedRfl ← attempt (ceilDiv rflNumerator epoch.totalShares)
    let usdNumerator ← attempt (checkedMoveU256Multiply receipt.lpShares prior.pool.tusdReserve
      (text "LP mint tUSD numerator"))
    let expectedUsd ← attempt (ceilDiv usdNumerator epoch.totalShares)
    alertIf (receipt.trflAmount ≠ expectedRfl ∨ receipt.tusdAmount ≠ expectedUsd)
      base .LP_ACCOUNTING
      "Liquidity input amounts do not match the shares' proportional ceil arithmetic."
      (slashed [.int expectedRfl, .int expectedUsd])
      (slashed [.int receipt.trflAmount, .int receipt.tusdAmount])

/-- A seed against the empty reserves. -/
def seedChecks (prior : ProtocolProjection) (base : EventBase) (receipt : LiquidityEvent)
    (epoch : Option IndexedLpEpoch) : Replay Unit := do
  let expectedShares ← attempt (integerSqrt (receipt.trflAmount * receipt.tusdAmount))
  alertIf (prior.pool.trflReserve ≠ 0 ∨ prior.pool.tusdReserve ≠ 0
      ∨ (epoch.map (·.totalShares)).getD 0 ≠ 0 ∨ receipt.lpShares ≠ expectedShares)
    base .LP_ACCOUNTING
    "Initial liquidity shares must equal floor(sqrt(tRFL * tUSD)) on empty reserves."
    (shown expectedShares) (shown receipt.lpShares)

/-- The receipt of a group with one liquidity receipt, against `prior`. -/
def liquidityChecks (prior : ProtocolProjection) (events : List ProtocolEvent) : Replay Unit :=
  match select EventBody.liquidity events with
  | [(base, kind, receipt)] =>
      let epoch := prior.lpEpochs.get? receipt.epoch
      let openedInGroup := (select EventBody.lpOpening events).any fun (_, opening) =>
        opening.epoch = receipt.epoch
      let isFreshReseed := kind = .seeded ∧ epoch.isNone = true ∧ prior.activeLpEpoch = none
        ∧ openedInGroup = true
      if ¬ isFreshReseed
          ∧ (epoch.isNone = true ∨ prior.activeLpEpoch ≠ some receipt.epoch) then
        file (problem base .LP_ACCOUNTING
          (text "Liquidity receipt does not target the replayed active LP epoch.") none none)
      else
        match kind, epoch with
        | .seeded, epoch => seedChecks prior base receipt epoch
        | .added, some epoch => additionChecks prior base receipt epoch
        | .removed finalExit, some epoch =>
            if epoch.totalShares ≤ 0 ∨ epoch.totalShares < receipt.lpShares then
              file (problem base .LP_ACCOUNTING
                (text "Liquidity removal exceeds replayed epoch shares.") none none)
            else removalChecks prior events base receipt finalExit epoch
        -- Only a fresh reseed gets here without an epoch.
        | _, none => pure ()
  | _ => pure ()

/-- An explicit claim is the second receipt of one materialization. -/
def claimPairs (events : List ProtocolEvent) : Replay Unit :=
  forEach (select EventBody.explicitClaim events) fun (base, claim) =>
    let found := (select EventBody.materialization events).filter fun (_, entry) =>
      entry.account = claim.account ∧ entry.amount = claim.amount
    alertIf (found.length ≠ 1 ∨ found.any (fun (_, entry) => entry.totalClaimed ≠ claim.totalClaimed))
      base .DOUBLE_COUNTING
      "Explicit claim action must pair with exactly one materialization receipt." none none

/-- Everything that is asked of a group before it is replayed. -/
def groupChecks (prior : ProtocolProjection) (first : EventBase) (events : List ProtocolEvent) :
    Replay Unit := do
  registrationOrder events
  poolReceipts first events
  routePairs prior first events
  terminalPairs events
  residueExits events
  liquidityChecks prior events
  claimPairs events

/-! ## The books of a replayed group -/

/-- Fees that moved no index. -/
def settleFees : Replay Unit := do
  let fees ← gets Context.pendingCoreFees
  forEach fees fun pending =>
    if pending.sharesAtCollection = 0 then
      setNext fun next =>
        { next with unallocatedFees := next.unallocatedFees + pending.event.feeAmount }
    else
      file (problem pending.base .TRANSACTION_GROUP
        (text "Positive-denominator fee has no global-index receipt.") none none)

def unconsumedRoutes (events : List ProtocolEvent) : Replay Unit := do
  let consumed ← gets Context.consumedRoutes
  forEach (select EventBody.route events) fun (base, _) =>
    alertIf (base.id ∉ consumed) base .ROUTE_PAIR
      "Core custody route lacks an equal downstream LP-index receipt." none none

/-- The share mutation of a liquidity receipt. -/
def liquidityShares (events : List ProtocolEvent) : Replay Unit :=
  match select EventBody.liquidity events with
  | [(base, kind, receipt)] =>
      let shares := (select EventBody.lpSharesChange events).filter fun (_, candidate) =>
        candidate.epoch = receipt.epoch ∧ candidate.owner = receipt.provider
          ∧ candidate.amount = receipt.lpShares ∧ candidate.added = !kind.isRemoval
      alertIf (shares.length ≠ 1) base
        (if 1 < shares.length then .DOUBLE_COUNTING else .LP_ACCOUNTING)
        "Liquidity receipt must pair with exactly one equal LP-share mutation." none none
  | _ => pure ()

def registrationBooks (first : EventBase) : Replay Unit := do
  let next ← gets Context.next
  let wallets := next.registeredWallets
  alertIf (next.registeredWalletCount ≠ wallets.size ∨ next.registeredWalletCount < 0
      ∨ U64_MAX < next.registeredWalletCount ∨ ¬ wallets.values.Nodup
      ∨ wallets.entries.any (fun (account, store) =>
        account = .zero ∨ store = .zero ∨ next.protocolExcludedStores.has account = true
          ∨ store ∈ next.protocolExcludedStores.values) = true) first .WALLET_REGISTRATION
    "Registered-wallet count and unique primary-store bindings must exactly match replayed registration events."
    (shown wallets.size) (shown next.registeredWalletCount)
  forEach next.positions.keys fun account =>
    alertIf (wallets.has account = false) first .WALLET_REGISTRATION
      "Every wallet accounting position must have an exact prior or same-transaction registration event."
      (text "registered wallet") (some [.address account])

/-- `sum = checkedMoveSignedU256Add(sum, value, label)` over the values. -/
def checkedSum (label : Text) : ℤ → List ℤ → Except Text ℤ
  | sum, [] => pure sum
  | sum, value :: values => do
      let sum ← checkedMoveSignedU256Add sum value label
      checkedSum label sum values

/-- The core's books: shares, corrections, custody and vault. -/
def coreBooks (first : EventBase) : Replay Unit := do
  let next ← gets Context.next
  let shares := sumWalletShares next.positions + next.custody.shares
  alertIf (shares ≠ next.eligibleSupply) first .ELIGIBLE_SUPPLY
    "Global shares do not equal replayed wallet shares plus canonical custody shares."
    (shown shares) (shown next.eligibleSupply)
  let positionCorrection ← attempt (checkedSum (text "summed core position correction")
    next.custody.correction (next.positions.values.map fun position => position.correction))
  alertIf (positionCorrection ≠ next.aggregateCorrection) first .CORE_ACCOUNTING
    "Aggregate correction does not equal wallet plus custody corrections."
    (shown positionCorrection) (shown next.aggregateCorrection)
  alertIf (next.pool.trflReserve ≠ next.custody.shares) first .RESERVE_CUSTODY
    "Canonical tRFL reserve must equal custody shares exactly."
    (shown next.pool.trflReserve) (shown next.custody.shares)
  let routeVault := (next.custody.activeRouteEpoch.bind next.lpEpochs.get?).map (·.rewardVault)
  alertIf (next.custody.adapterId ≠ none
      ∧ (routeVault = none ∨ routeVault ≠ next.custody.activeLpRewardVault)) first .VAULT_BINDING
    "Active custody route is not bound to the matching immutable LP epoch vault." none none
  let expectedCoreVault ← attempt (expectedCoreVaultBalance next)
  let coreLiability ← attempt (coreIndexedLiability next)
  let roundingReserve ← attempt (checkedVaultRemainder expectedCoreVault coreLiability
    next.unallocatedFees (text "core rounding reserve"))
  setNext fun next => { next with roundingReserve }

/-- A text about an epoch. -/
def epochText (epoch : IndexedLpEpoch) (before after : String) : Text :=
  [.lit before, .int epoch.epoch, .lit after]

/-- The sums of corrections and of claims over an epoch's positions, with a look
at their owners. -/
def sumPositions (first : EventBase) (epoch : IndexedLpEpoch)
    (registeredWallets : OrderedMap Address Address) :
    ℤ → ℤ → List IndexedLpPosition → Replay (ℤ × ℤ)
  | summedCorrection, summedClaims, [] => pure (summedCorrection, summedClaims)
  | summedCorrection, summedClaims, position :: positions => do
      fileIf (0 < position.shares ∧ registeredWallets.has position.owner = false)
        (problem first .WALLET_REGISTRATION
          (epochText epoch "Every positive LP position in epoch "
            " must belong to a previously registered wallet.")
          (text "registered wallet") (some [.address position.owner]))
      let summedCorrection ← attempt (checkedMoveSignedU256Add summedCorrection
        position.correction (epochText epoch "summed LP epoch " " correction"))
      let summedClaims ← attempt (checkedMoveU256Add summedClaims position.claimed
        (epochText epoch "summed LP epoch " " claims"))
      sumPositions first epoch registeredWallets summedCorrection summedClaims positions

/-- The books of one epoch. -/
def epochBooks (first : EventBase) (epoch : IndexedLpEpoch) : Replay Unit := do
  let next ← gets Context.next
  let (summedCorrection, summedClaims) ←
    sumPositions first epoch next.registeredWallets 0 0 epoch.positions.values
  fileIf (sumLpShares epoch.positions ≠ epoch.totalShares
      ∨ summedCorrection ≠ epoch.aggregateCorrection ∨ summedClaims ≠ epoch.lifetimeClaimed)
    (problem first .LP_ACCOUNTING
      (epochText epoch "LP epoch " " aggregate state disagrees with its positions.") none none)
  let terminal := epoch.terminalRoundingBaseUnits
  fileIf (epoch.retiredResidueMagnified < 0 ∨ U256_MAX < epoch.retiredResidueMagnified
      ∨ (epoch.status = .active ∧ terminal ≠ none)
      ∨ (epoch.status = .claimOnly ∧ terminal = none)
      ∨ (terminal.any (fun terminal =>
        terminal < 0 ∨ U128_MAX < terminal ∨ terminal ≠ epoch.roundingReserve)) = true)
    (problem first .LP_ACCOUNTING
      (epochText epoch "LP epoch " " residue units or terminal classification state is invalid.") none none)
  let rounding ← attempt (epochRounding epoch (epochText epoch "LP epoch " " rounding reserve"))
  fileIf (rounding ≠ epoch.roundingReserve)
    (problem first .LP_VAULT_BACKING
      (epochText epoch "LP epoch " " bucket identity is not exact.")
      (shown epoch.roundingReserve) (shown rounding))

/-- Everything that is asked of the projection that a group's replay leaves. -/
def closingChecks (first : EventBase) (events : List ProtocolEvent) : Replay Unit := do
  settleFees
  unconsumedRoutes events
  liquidityShares events
  registrationBooks first
  coreBooks first
  let next ← gets Context.next
  forEach next.lpEpochs.values (epochBooks first)
  -- A `bigint` is unbounded: refuse a state that could not exist in the Move structs.
  let next ← gets Context.next
  attempt (assertProjectionMoveDomains next)

/-! ## The group -/

/-- The body of the `try`. -/
def replayGroup (prior : ProtocolProjection) (first : EventBase) (events : List ProtocolEvent) :
    Replay Unit := do
  forEach events (replayEvent prior events)
  closingChecks first events

def Context.initial (prior : ProtocolProjection) : Context := ⟨prior, [], [], false⟩

/-- Remember the events of a group, accepted or not. -/
def remember (next : ProtocolProjection) (events : List ProtocolEvent) : ProtocolProjection :=
  { next with
    seenEventIds := events.foldl (fun seen event => seen.set event.id event.cursor)
      next.seenEventIds }

/-- `sort((left, right) => left.eventIndex - right.eventIndex)`, which is stable. -/
def sortEvents (events : List ProtocolEvent) : List ProtocolEvent :=
  events.mergeSort fun left right => left.eventIndex ≤ right.eventIndex

theorem sortEvents_of_pairwise {events : List ProtocolEvent}
    (h : events.Pairwise fun left right => left.eventIndex ≤ right.eventIndex) :
    sortEvents events = events := by
  refine List.mergeSort_of_pairwise ?_
  simpa using h

/-- Replays one complete transaction. Committing only after all cross-module
receipts agree prevents one-sided replay. The checks of the group stand outside
the `try`: what they throw leaves the function. -/
def reduceEventGroup (prior : ProtocolProjection) (unsortedEvents : List ProtocolEvent) :
    Except Text ReduceResult :=
  let events := sortEvents unsortedEvents
  match events with
  | [] => .ok ⟨prior, []⟩
  | first :: _ =>
      let first := first.toEventBase
      match assertProjectionMoveDomains prior with
      | .error detail => .ok ⟨prior, [problem first .EVENT_DATA detail none none]⟩
      | .ok () =>
          let identity := identityAlerts prior first [] (-1) events
          if identity.any (fun alert => alert.code = .EVENT_DATA) then .ok ⟨prior, identity⟩
          else
            match groupChecks prior first events (.initial prior) with
            | (_, .error thrown) => .error thrown
            | (receipts, .ok _) =>
                match replayGroup prior first events (.initial prior) with
                | (replayed, .ok (_, context)) =>
                    .ok ⟨remember context.next events, identity ++ receipts ++ replayed⟩
                | (replayed, .error detail) =>
                    .ok ⟨remember prior events, identity ++ receipts ++ replayed
                      ++ [problem first .EVENT_DATA detail none none]⟩

end CedraReflect.indexer
