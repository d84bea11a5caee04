/-
What a swap's group does to the tokens.

Every event of such a group moves tokens between a wallet, the pool, the reward
vault of the core and the reward vaults of the epochs ([`SwapStep`]). Summed over
an accepted group, the movements of the second token cancel, and so do the routes
and the receipts of the epochs, which come in pairs. What is left of the first is
what the fee receipts bring less what the swap says was charged
([`trflHeld_of_accepted`]). Nothing compares the two.
-/
import CedraReflect.KeyedReplay
import CedraReflect.ReplayedBooks

set_option autoImplicit false
set_option linter.constructorNameAsVariable false

namespace CedraReflect.indexer

open Audited

/-! ## What a projection holds -/

/-- What reached the reward vault of the epoch and did not leave it. -/
def IndexedLpEpoch.vaultBalance (epoch : IndexedLpEpoch) : ℤ :=
  epoch.lifetimeReceived - epoch.lifetimeClaimed

namespace ProtocolProjection

variable (projection : ProtocolProjection)

/-- What reached the reward vault of the core and did not leave it. -/
def coreVaultBalance : ℤ :=
  projection.lifetimeSwapFees - projection.lifetimeMaterialized - projection.lifetimeCustodyRouted

def lpVaultBalance : ℤ := (projection.lpEpochs.values.map IndexedLpEpoch.vaultBalance).sum

/-- The tRFL of the wallets, the pool and the reward vaults. -/
def trflHeld : ℤ :=
  sumWalletShares projection.positions + projection.pool.trflReserve
    + projection.coreVaultBalance + projection.lpVaultBalance

/-- The tUSD of the wallets and the pool. -/
def tusdHeld : ℤ :=
  (projection.positions.values.map fun position => position.rawTusd).sum
    + projection.pool.tusdReserve

end ProtocolProjection

section Holdings

variable {projection : ProtocolProjection} {account : Address} {amount : ℤ}

theorem sumWalletShares_set (position : IndexedPosition)
    (positions : OrderedMap Address IndexedPosition) :
    sumWalletShares (positions.set account position)
      = sumWalletShares positions
        + (position.rawTrfl - (positionOrEmpty account positions).rawTrfl) :=
  sum_positions_set (fun position => position.rawTrfl) rfl position positions

theorem trflHeld_moved (asset : Metadata) :
    (projection.moved account asset amount).trflHeld
      = projection.trflHeld + if asset = .trfl then amount else 0 := by
  have hwallets : sumWalletShares (projection.moved account asset amount).positions
      = sumWalletShares projection.positions + if asset = .trfl then amount else 0 := by
    rw [ProtocolProjection.moved_positions, sumWalletShares_set]
    rcases asset
    · simp [IndexedPosition.moved]
    · simp [IndexedPosition.moved]
  show sumWalletShares (projection.moved account asset amount).positions
      + projection.pool.trflReserve + projection.coreVaultBalance + projection.lpVaultBalance = _
  rw [hwallets]
  unfold ProtocolProjection.trflHeld
  ring

theorem tusdHeld_moved (asset : Metadata) :
    (projection.moved account asset amount).tusdHeld
      = projection.tusdHeld + if asset = .tusd then amount else 0 := by
  have hwallets : ((projection.moved account asset amount).positions.values.map
        fun position => position.rawTusd).sum
      = (projection.positions.values.map fun position => position.rawTusd).sum
        + if asset = .tusd then amount else 0 := by
    rw [ProtocolProjection.moved_positions,
      sum_positions_set (fun position => position.rawTusd) rfl]
    rcases asset
    · simp [IndexedPosition.moved]
    · simp [IndexedPosition.moved]
  show ((projection.moved account asset amount).positions.values.map
      fun position => position.rawTusd).sum + projection.pool.tusdReserve = _
  rw [hwallets]
  unfold ProtocolProjection.tusdHeld
  ring

/-- A materialization takes from the core's vault what it gives to the wallet. -/
theorem trflHeld_materialized :
    (projection.materialized account amount).trflHeld = projection.trflHeld := by
  have hwallets : sumWalletShares (projection.materialized account amount).positions
      = sumWalletShares projection.positions + amount := by
    rw [ProtocolProjection.materialized_positions, sumWalletShares_set]
    simp [IndexedPosition.materialized, IndexedPosition.moved]
  show sumWalletShares (projection.materialized account amount).positions
      + projection.pool.trflReserve
      + (projection.lifetimeSwapFees - (projection.lifetimeMaterialized + amount)
        - projection.lifetimeCustodyRouted) + projection.lpVaultBalance = _
  rw [hwallets]
  unfold ProtocolProjection.trflHeld ProtocolProjection.coreVaultBalance
  ring

theorem tusdHeld_materialized :
    (projection.materialized account amount).tusdHeld = projection.tusdHeld := by
  have hwallets : ((projection.materialized account amount).positions.values.map
        fun position => position.rawTusd).sum
      = (projection.positions.values.map fun position => position.rawTusd).sum := by
    rw [ProtocolProjection.materialized_positions,
      sum_positions_set (fun position => position.rawTusd) rfl]
    simp [IndexedPosition.materialized, IndexedPosition.moved]
  show ((projection.materialized account amount).positions.values.map
      fun position => position.rawTusd).sum + projection.pool.tusdReserve = _
  rw [hwallets]
  rfl

theorem trflHeld_charged : (projection.charged amount).trflHeld = projection.trflHeld + amount := by
  show sumWalletShares projection.positions + projection.pool.trflReserve
      + (projection.lifetimeSwapFees + amount - projection.lifetimeMaterialized
        - projection.lifetimeCustodyRouted) + projection.lpVaultBalance = _
  unfold ProtocolProjection.trflHeld ProtocolProjection.coreVaultBalance
  ring

theorem trflHeld_routed (reserveStore : Address) :
    (projection.routed reserveStore amount).trflHeld = projection.trflHeld - amount := by
  show sumWalletShares projection.positions + projection.pool.trflReserve
      + (projection.lifetimeSwapFees - projection.lifetimeMaterialized
        - (projection.lifetimeCustodyRouted + amount)) + projection.lpVaultBalance = _
  unfold ProtocolProjection.trflHeld ProtocolProjection.coreVaultBalance
  ring

/-- What an epoch receives, if it is filed under its number. -/
theorem trflHeld_received (hkeyed : projection.lpEpochs.KeyedBy IndexedLpEpoch.epoch)
    {epoch : IndexedLpEpoch} {event : LpRewardIndexAdvancedEvent}
    (hepoch : projection.lpEpochs.get? event.epoch = some epoch) :
    ({ projection with
        lpEpochs := projection.lpEpochs.set epoch.epoch (epoch.received event) } :
      ProtocolProjection).trflHeld = projection.trflHeld + event.received := by
  have hvaults : ((projection.lpEpochs.set epoch.epoch (epoch.received event)).values.map
      IndexedLpEpoch.vaultBalance).sum = projection.lpVaultBalance + event.received := by
    rw [OrderedMap.sum_values_set, hkeyed _ _ hepoch, hepoch]
    simp only [IndexedLpEpoch.vaultBalance, IndexedLpEpoch.received, Option.map_some,
      Option.getD_some, ProtocolProjection.lpVaultBalance]
    ring
  show sumWalletShares projection.positions + projection.pool.trflReserve
      + projection.coreVaultBalance
      + ((projection.lpEpochs.set epoch.epoch (epoch.received event)).values.map
        IndexedLpEpoch.vaultBalance).sum = _
  rw [hvaults]
  unfold ProtocolProjection.trflHeld
  ring

theorem trflHeld_withReserves (trflReserve tusdReserve : ℤ) :
    (projection.withReserves trflReserve tusdReserve).trflHeld
      = projection.trflHeld + (trflReserve - projection.pool.trflReserve) := by
  show sumWalletShares projection.positions + trflReserve
      + projection.coreVaultBalance + projection.lpVaultBalance = _
  unfold ProtocolProjection.trflHeld
  ring

theorem tusdHeld_withReserves (trflReserve tusdReserve : ℤ) :
    (projection.withReserves trflReserve tusdReserve).tusdHeld
      = projection.tusdHeld + (tusdReserve - projection.pool.tusdReserve) := by
  show (projection.positions.values.map fun position => position.rawTusd).sum + tusdReserve = _
  unfold ProtocolProjection.tusdHeld
  ring

end Holdings

/-! ## One event -/

namespace EventBody

/-- The receipt of a reflection fee. -/
def feeReceipt : EventBody → Option ReflectionFeeCollectedEvent
  | ReflectionFeeCollected event => some event
  | _ => none

/-- The events that a swap's group is made of. -/
def inSwapGroup : EventBody → Bool
  | SwapExecuted _ | WalletRegistered _ | RewardsMaterialized _ | ReflectionFeeCollected _
  | ReflectionIndexAdvanced _ | CustodySharesChanged _ | CustodyRewardsRouted _
  | LpRewardIndexAdvanced _ => true
  | _ => false

end EventBody

/-- What a swap adds to the tRFL held, with the seller's debit. -/
def SwapExecutedEvent.trflEffect (swap : SwapExecutedEvent) : ℤ :=
  if swap.direction = .sell then swap.netReserveInput else -swap.reflectionFee

/-- What an event adds to the tRFL held, where a seller's debit counts from the
start and a consumed route as on its way. -/
def EventBody.trflEffect (body : EventBody) : ℤ :=
  (body.feeReceipt.map fun receipt => receipt.feeAmount).getD 0
    - (body.route.map fun route => route.amount).getD 0
    + (body.swap.map SwapExecutedEvent.trflEffect).getD 0

namespace Context

variable (events : List ProtocolEvent) (swap : SwapExecutedEvent) (context : Context)

/-- The seller's debit, while it is to come. -/
def owed : ℤ :=
  if swap.direction = .sell ∧ context.sellWalletDebited = false then swap.grossAmount else 0

/-- The routes that an epoch's receipt answered. -/
def answered : ℤ :=
  (((select EventBody.route events).filter fun route => route.1.id ∈ context.consumedRoutes).map
    fun route => route.2.amount).sum

/-- The tRFL held, less what is owed and what was answered. -/
def trflSettled : ℤ := context.next.trflHeld - context.owed swap - context.answered events

end Context

theorem DebitsOnce.trflSettled (events : List ProtocolEvent) {swap : SwapExecutedEvent}
    {c c' : Context} (h : DebitsOnce c swap c') :
    c'.trflSettled events swap = c.trflSettled events swap ∧ c'.owed swap = 0
      ∧ c'.next.tusdHeld = c.next.tusdHeld := by
  cases h with
  | due hsell hdue hmovable =>
      refine ⟨?_, by simp [Context.owed], ?_⟩
      · simp only [Context.trflSettled, trflHeld_moved, Context.owed, Context.answered, hsell, hdue,
          if_true, and_self, Bool.true_eq_false, and_false, if_false]
        ring
      · simp [tusdHeld_moved]
  | skip hskip => exact ⟨rfl, if_neg hskip, rfl⟩

/-- A route that is answered for the first time. -/
theorem answered_consume {routes : List (EventBase × CustodyRewardsRoutedEvent)}
    (hids : (routes.map fun route => route.1.id).Nodup) {consumed : List String}
    {route : EventBase × CustodyRewardsRoutedEvent} (hroute : route ∈ routes)
    (hfresh : route.1.id ∉ consumed) :
    ((routes.filter fun other => other.1.id ∈ consumed ++ [route.1.id]).map
        fun other => other.2.amount).sum
      = ((routes.filter fun other => other.1.id ∈ consumed).map
        fun other => other.2.amount).sum + route.2.amount := by
  induction routes with
  | nil => cases hroute
  | cons head routes ih =>
      rw [List.map_cons, List.nodup_cons] at hids
      rcases List.mem_cons.mp hroute with rfl | hmem
      · -- The others have other identifiers.
        have hothers : (routes.filter fun other => other.1.id ∈ consumed ++ [route.1.id])
            = routes.filter fun other => other.1.id ∈ consumed := by
          refine List.filter_congr fun other hother => ?_
          have hne : other.1.id ≠ route.1.id := by
            intro hsame
            exact hids.1 (hsame ▸ List.mem_map_of_mem hother)
          simp [hne]
        rw [List.filter_cons_of_pos (by simp), List.filter_cons_of_neg (by simpa using hfresh),
          hothers, List.map_cons, List.sum_cons, add_comm]
      · have hne : head.1.id ≠ route.1.id := by
          intro hsame
          exact hids.1 (hsame ▸ List.mem_map_of_mem hmem)
        by_cases hhead : head.1.id ∈ consumed
        · rw [List.filter_cons_of_pos (by simp [hhead]), List.filter_cons_of_pos (by simp [hhead]),
            List.map_cons, List.sum_cons, List.map_cons, List.sum_cons, ih hids.2 hmem, add_assoc]
        · rw [List.filter_cons_of_neg (by simp [hhead, hne]),
            List.filter_cons_of_neg (by simp [hhead]), ih hids.2 hmem]

theorem mem_select {α : Type} (payload : EventBody → Option α) {events : List ProtocolEvent}
    {event : ProtocolEvent} {a : α} (hevent : event ∈ events) (ha : payload event.body = some a) :
    (event.toEventBase, a) ∈ select payload events := by
  refine List.mem_filterMap.mpr ⟨event, hevent, ?_⟩
  rw [ha, Option.map_some]

/-- What a swap says of the reflection fee, and of what a seller brings the pool. -/
def SwapExecutedEvent.Charged (swap : SwapExecutedEvent) (feeBps : ℤ) : Prop :=
  swap.reflectionFee = (swap.feeBase * feeBps).tdiv BPS_DENOMINATOR
    ∧ (swap.direction = .sell → swap.netReserveInput = swap.grossAmount - swap.reflectionFee)

/-- What one event of a swap's group does. -/
structure SwapStep (events : List ProtocolEvent) (swap : SwapExecutedEvent) (body : EventBody)
    (c c' : Context) : Prop where
  trfl : c'.trflSettled events swap = c.trflSettled events swap + body.trflEffect
  tusd : c'.next.tusdHeld = c.next.tusdHeld
  owed : c.owed swap = 0 ∨ body.swap = some swap → c'.owed swap = 0
  feeAmount : ∀ receipt, body.feeReceipt = some receipt →
    receipt.feeAmount = (receipt.grossAmount * c.next.feeBps).tdiv BPS_DENOMINATOR
  agrees : body.swap = some swap → swap.Charged c.next.feeBps

section Step

variable {prior : ProtocolProjection} {events : List ProtocolEvent} {event : ProtocolEvent}
  {swap : SwapExecutedEvent} {body : EventBody} {base : EventBase} {c c' : Context}

/-- An event that moves tokens between two holders that both count, or none. -/
theorem SwapStep.of_held (htrfl : c'.next.trflHeld = c.next.trflHeld + body.trflEffect)
    (htusd : c'.next.tusdHeld = c.next.tusdHeld)
    (hdebited : c'.sellWalletDebited = c.sellWalletDebited)
    (hconsumed : c'.consumedRoutes = c.consumedRoutes) (hfee : body.feeReceipt = none)
    (hswap : body.swap = none) : SwapStep events swap body c c' := by
  have howed : c'.owed swap = c.owed swap := by
    unfold Context.owed
    rw [hdebited]
  constructor
  · unfold Context.trflSettled Context.answered
    rw [htrfl, howed, hconsumed]
    ring
  · exact htusd
  · rw [hswap, howed]
    simp
  · simp [hfee]
  · simp [hswap]

/-- A fee receipt comes with the seller's debit, and tells what was charged. -/
theorem SwapStep.feeCollected {receipt : ReflectionFeeCollectedEvent} {base' : EventBase}
    (hswap : select EventBody.swap events = [(base, swap)])
    (h : Clean (reflectionFeeCollected events base' receipt) c () c') :
    SwapStep events swap (.ReflectionFeeCollected receipt) c c' := by
  obtain ⟨c₁, hdebits, -, hchargeable, rfl⟩ := clean_reflectionFeeCollected.mp h
  have hdebit : DebitsOnce c swap c₁ := hdebits (base, swap) (by rw [hswap]; rfl)
  obtain ⟨htrfl, howed, htusd⟩ := hdebit.trflSettled events
  have hfeeBps : c₁.next.feeBps = c.next.feeBps := congrArg Settings.feeBps hdebit.settings
  constructor
  · rw [← htrfl]
    show (c₁.next.charged receipt.feeAmount).trflHeld - c₁.owed swap - c₁.answered events = _
    rw [trflHeld_charged]
    simp only [Context.trflSettled, EventBody.trflEffect, EventBody.feeReceipt, EventBody.route,
      EventBody.swap, Option.map_some, Option.map_none, Option.getD_some, Option.getD_none]
    ring
  · exact htusd
  · intro _
    exact howed
  · rintro _ ⟨⟩
    rw [← hfeeBps, ← hchargeable.rate]
    exact hchargeable.fee
  · simp [EventBody.swap]

/-- An epoch's receipt answers a route that nothing answered before. -/
theorem SwapStep.lpReceived {advance : LpRewardIndexAdvancedEvent} {base' : EventBase}
    (hkeyed : c.next.Keyed)
    (hids : ((select EventBody.route events).map fun route => route.1.id).Nodup)
    (h : Clean (lpRewardIndexAdvanced events base' advance) c () c') :
    SwapStep events swap (.LpRewardIndexAdvanced advance) c c' := by
  obtain ⟨epoch, hepoch, route, hroute, -, rfl⟩ := clean_lpRewardIndexAdvanced.mp h
  have hfound := List.find?_some hroute
  simp only [decide_eq_true_eq] at hfound
  obtain ⟨hfresh, -, hamount, -, -⟩ := hfound
  have hanswered := answered_consume hids (List.mem_of_find?_eq_some hroute) hfresh
  constructor
  · unfold Context.trflSettled Context.answered
    rw [hanswered, trflHeld_received hkeyed.lpEpochs hepoch, hamount]
    simp only [Context.owed, EventBody.trflEffect, EventBody.feeReceipt, EventBody.route,
      EventBody.swap, Option.map_none, Option.getD_none]
    ring
  · rfl
  · rintro (howed | hother)
    · exact howed
    · cases hother
  · simp [EventBody.feeReceipt]
  · simp [EventBody.swap]

section Executed

variable {projection : ProtocolProjection}

/-- The trader's tRFL and the pool's, after a swap that agrees with the reserves. -/
theorem trflHeld_executed (h : SwapAgrees projection.pool projection.feeBps swap) :
    ((projection.settled swap).withReserves swap.trflReserveAfter swap.tusdReserveAfter).trflHeld
      = projection.trflHeld + swap.trflEffect := by
  have htrflAfter := h.trflReserve
  have hreceipt := h.receipt
  rw [trflHeld_withReserves, ProtocolProjection.settled]
  rcases hdirection : swap.direction
  all_goals
    simp only [hdirection, reduceCtorEq, if_true, if_false] at htrflAfter hreceipt
    simp only [trflHeld_moved, SwapExecutedEvent.trflEffect, hdirection, reduceCtorEq, if_true,
      if_false, ProtocolProjection.moved_pool, htrflAfter]
  · rw [hreceipt]
    ring
  · ring

/-- The trader's tUSD and the pool's, which a swap only moves between them. -/
theorem tusdHeld_executed (h : SwapAgrees projection.pool projection.feeBps swap) :
    ((projection.settled swap).withReserves swap.trflReserveAfter swap.tusdReserveAfter).tusdHeld
      = projection.tusdHeld := by
  have htusdAfter := h.tusdReserve
  have hinput := h.reserveInput
  have hreceipt := h.receipt
  rw [tusdHeld_withReserves, ProtocolProjection.settled]
  rcases hdirection : swap.direction
  all_goals
    simp only [hdirection, reduceCtorEq, if_true, if_false] at htusdAfter hreceipt hinput
    simp only [tusdHeld_moved, reduceCtorEq, if_true, if_false, ProtocolProjection.moved_pool,
      htusdAfter]
  · rw [hinput]
    ring
  · rw [hreceipt]
    ring

end Executed

/-- The swap's own event settles what its seller still owed. -/
theorem SwapStep.executed {base' : EventBase} (h : Clean (swapExecuted base' swap) c () c') :
    SwapStep events swap (.SwapExecuted swap) c c' := by
  obtain ⟨c₁, hdebits, -, hagrees, rfl⟩ := clean_swapExecuted.mp h
  obtain ⟨htrfl, howed, htusd⟩ := hdebits.trflSettled events
  have hfeeBps : c₁.next.feeBps = c.next.feeBps := congrArg Settings.feeBps hdebits.settings
  constructor
  · rw [← htrfl]
    show ((c₁.next.settled swap).withReserves _ _).trflHeld - c₁.owed swap - c₁.answered events
      = _
    rw [trflHeld_executed hagrees]
    simp only [Context.trflSettled, EventBody.trflEffect, EventBody.feeReceipt, EventBody.route,
      EventBody.swap, Option.map_some, Option.map_none, Option.getD_some, Option.getD_none]
    ring
  · rw [← htusd]
    exact tusdHeld_executed hagrees
  · intro _
    exact howed
  · simp [EventBody.feeReceipt]
  · intro _
    rw [← hfeeBps]
    exact ⟨hagrees.reflectionFee, fun hsell => by rw [hagrees.reserveInput, if_pos hsell]⟩

/-- **Every event of a swap's group moves what it says it moves.** -/
theorem swapStep_of_clean (hkeyed : c.next.Keyed)
    (hswap : select EventBody.swap events = [(base, swap)])
    (hids : ((select EventBody.route events).map fun route => route.1.id).Nodup)
    (hevent : event ∈ events) (hkind : event.body.inSwapGroup = true)
    (h : Clean (replayEvent prior events event) c () c') :
    SwapStep events swap event.body c c' := by
  unfold replayEvent at h
  rcases hbody : event.body
  all_goals simp only [hbody] at h hkind
  case WalletRegistered =>
    obtain ⟨-, rfl⟩ := clean_walletRegistered.mp h
    exact .of_held (add_zero _).symm rfl rfl rfl rfl rfl
  case RewardsMaterialized =>
    obtain ⟨-, rfl⟩ := clean_materializeWallet.mp h
    exact .of_held (trflHeld_materialized.trans (add_zero _).symm) tusdHeld_materialized rfl rfl rfl
      rfl
  case ReflectionIndexAdvanced =>
    obtain ⟨_, _, -, -, rfl⟩ := clean_reflectionIndexAdvanced.mp h
    exact .of_held (add_zero _).symm rfl rfl rfl rfl rfl
  case CustodySharesChanged =>
    obtain ⟨-, rfl⟩ := clean_custodySharesChanged.mp h
    exact .of_held (add_zero _).symm rfl rfl rfl rfl rfl
  case CustodyRewardsRouted route =>
    obtain ⟨-, rfl⟩ := clean_custodyRewardsRouted.mp h
    refine .of_held ?_ rfl rfl rfl rfl rfl
    rw [trflHeld_routed]
    simp [EventBody.trflEffect, EventBody.feeReceipt, EventBody.route, EventBody.swap,
      sub_eq_add_neg]
  case ReflectionFeeCollected receipt => exact .feeCollected hswap h
  case LpRewardIndexAdvanced advance => exact .lpReceived hkeyed hids h
  case SwapExecuted other =>
    have hother : other = swap := by
      have hmem := mem_select EventBody.swap hevent (by rw [hbody]; rfl)
      rw [hswap] at hmem
      exact (Prod.mk.inj (List.mem_singleton.mp hmem)).2
    subst hother
    exact .executed h
  all_goals exact absurd hkind Bool.false_ne_true

end Step

/-! ## A group -/

/-- One swap, and events that may stand beside it. -/
structure SwapGroup (transaction : List ProtocolEvent) (swap : SwapExecutedEvent) : Prop where
  swap : (select EventBody.swap transaction).map Prod.snd = [swap]
  kinds : ∀ event ∈ transaction, event.body.inSwapGroup = true

/-- What a run of a swap's events does. -/
structure SwapRun (events : List ProtocolEvent) (swap : SwapExecutedEvent)
    (xs : List ProtocolEvent) (c c' : Context) : Prop where
  trfl : c'.trflSettled events swap
    = c.trflSettled events swap + (xs.map fun event => event.body.trflEffect).sum
  tusd : c'.next.tusdHeld = c.next.tusdHeld
  owed : c.owed swap = 0 ∨ (∃ event ∈ xs, event.body.swap = some swap) → c'.owed swap = 0
  feeAmount : ∀ event ∈ xs, ∀ receipt, event.body.feeReceipt = some receipt →
    receipt.feeAmount = (receipt.grossAmount * c.next.feeBps).tdiv BPS_DENOMINATOR
  agrees : (∃ event ∈ xs, event.body.swap = some swap) → swap.Charged c.next.feeBps

theorem EventBody.isConfiguration_of_inSwapGroup {body : EventBody} (h : body.inSwapGroup = true) :
    body.isConfiguration = false := by
  unfold inSwapGroup at h
  split at h
  all_goals first | rfl | cases h

section Run

variable {prior : ProtocolProjection} {events xs : List ProtocolEvent}
  {swap : SwapExecutedEvent} {base : EventBase} {c c' : Context}

/-- **The run lemma.** -/
theorem swapRun_of_clean (hkeyed : c.next.Keyed)
    (hswap : select EventBody.swap events = [(base, swap)])
    (hids : ((select EventBody.route events).map fun route => route.1.id).Nodup)
    (hxs : ∀ event ∈ xs, event ∈ events ∧ event.body.inSwapGroup = true)
    (h : Clean (forEach xs (replayEvent prior events)) c () c') : SwapRun events swap xs c c' := by
  induction xs generalizing c with
  | nil =>
      obtain rfl := (clean_forEach_nil _ _ _ _).mp h
      constructor
      · simp
      · rfl
      · simp
      · simp
      · simp
  | cons event xs ih =>
      obtain ⟨c₁, hevent, hrest⟩ := (clean_forEach_cons _ _ _ _ _ _).mp h
      rw [List.forall_mem_cons] at hxs
      obtain ⟨⟨hmem, hkind⟩, hxs⟩ := hxs
      have hstep := swapStep_of_clean hkeyed hswap hids hmem hkind hevent
      have hfeeBps : c₁.next.feeBps = c.next.feeBps := congrArg Settings.feeBps
        (settings_of_accounting (EventBody.isConfiguration_of_inSwapGroup hkind) hevent)
      have hrun := ih (keyed_of_clean hkeyed hevent) hxs hrest
      have hagrees := hrun.agrees
      have hamounts := hrun.feeAmount
      rw [hfeeBps] at hagrees hamounts
      constructor
      · rw [hrun.trfl, hstep.trfl, List.map_cons, List.sum_cons, add_assoc]
      · rw [hrun.tusd, hstep.tusd]
      · rintro (howed | ⟨other, hother, hbody⟩)
        · exact hrun.owed (.inl (hstep.owed (.inl howed)))
        · rcases List.mem_cons.mp hother with rfl | hother
          · exact hrun.owed (.inl (hstep.owed (.inr hbody)))
          · exact hrun.owed (.inr ⟨other, hother, hbody⟩)
      · rw [List.forall_mem_cons]
        exact ⟨hstep.feeAmount, hamounts⟩
      · rintro ⟨other, hother, hbody⟩
        rcases List.mem_cons.mp hother with rfl | hother
        · exact hstep.agrees hbody
        · exact hagrees ⟨other, hother, hbody⟩

end Run

/-! ## Selections -/

section Selections

variable {α : Type} (payload : EventBody → Option α)

theorem select_perm {xs ys : List ProtocolEvent} (h : xs.Perm ys) :
    (select payload xs).Perm (select payload ys) := h.filterMap _

theorem sum_select (f : α → ℤ) (events : List ProtocolEvent) :
    ((select payload events).map fun entry => f entry.2).sum
      = (events.map fun event => ((payload event.body).map f).getD 0).sum := by
  induction events with
  | nil => rfl
  | cons event events ih =>
      rw [List.map_cons, List.sum_cons, ← ih]
      unfold select
      rcases hpayload : payload event.body with _ | a
      · simp [hpayload]
      · simp [hpayload]

/-- Events that are selected keep their identifiers apart. -/
theorem select_ids_sublist (events : List ProtocolEvent) :
    ((select payload events).map fun entry => entry.1.id).Sublist
      (events.map fun event => event.id) := by
  induction events with
  | nil => exact .slnil
  | cons event events ih =>
      unfold select at ih ⊢
      rcases hpayload : payload event.body with _ | a
      · rw [List.filterMap_cons_none (by simp [hpayload]), List.map_cons]
        exact ih.cons _
      · rw [List.filterMap_cons_some (by rw [hpayload]; rfl), List.map_cons, List.map_cons]
        exact ih.cons_cons _

end Selections

/-- **No identifier occurs twice in a group without alerts.** -/
theorem nodup_of_identityAlerts {prior : ProtocolProjection} {first : EventBase}
    {groupIds : List String} {previousEventIndex : ℤ} {events : List ProtocolEvent}
    (h : identityAlerts prior first groupIds previousEventIndex events = []) :
    (events.map fun event => event.id).Nodup ∧ ∀ event ∈ events, event.id ∉ groupIds := by
  induction events generalizing groupIds previousEventIndex with
  | nil => simp
  | cons event events ih =>
      rw [identityAlerts, List.append_eq_nil_iff] at h
      obtain ⟨hnodup, hfresh⟩ := ih h.2
      have hnew : event.id ∉ groupIds := by
        intro hmem
        have hchecks := h.1
        rw [identityChecks, List.append_eq_nil_iff] at hchecks
        simp [hmem] at hchecks
      rw [List.map_cons, List.nodup_cons, List.forall_mem_cons]
      refine ⟨⟨?_, hnodup⟩, hnew, ?_⟩
      · intro hmem
        obtain ⟨other, hother, hsame⟩ := List.mem_map.mp hmem
        exact hfresh other hother (by simp [hsame])
      · intro other hother hmem
        exact hfresh other hother (List.mem_append_left _ hmem)

theorem sum_trflEffect (events : List ProtocolEvent) :
    (events.map fun event => event.body.trflEffect).sum
      = ((select EventBody.feeReceipt events).map fun entry => entry.2.feeAmount).sum
        - ((select EventBody.route events).map fun entry => entry.2.amount).sum
        + ((select EventBody.swap events).map fun entry => entry.2.trflEffect).sum := by
  rw [sum_select EventBody.feeReceipt fun receipt => receipt.feeAmount,
    sum_select EventBody.route fun route => route.amount,
    sum_select EventBody.swap SwapExecutedEvent.trflEffect]
  have hsub := @Multiset.sum_map_sub _ ℤ _ (events : Multiset ProtocolEvent)
    (fun event => (event.body.feeReceipt.map fun receipt => receipt.feeAmount).getD 0)
    fun event => (event.body.route.map fun route => route.amount).getD 0
  simp only [Multiset.map_coe, Multiset.sum_coe] at hsub
  unfold EventBody.trflEffect
  rw [List.sum_map_add, hsub]

/-! ## An accepted group -/

/-- The fee receipts of a group, with what they charge and what they charge it on. -/
def feeReceipts (transaction : List ProtocolEvent) : List ReflectionFeeCollectedEvent :=
  (select EventBody.feeReceipt transaction).map Prod.snd

/-- What an accepted group of a swap does. -/
structure SwapAccepted (prior next : ProtocolProjection) (transaction : List ProtocolEvent)
    (swap : SwapExecutedEvent) : Prop where
  trfl : next.trflHeld = prior.trflHeld
    + ((feeReceipts transaction).map fun receipt => receipt.feeAmount).sum - swap.reflectionFee
  tusd : next.tusdHeld = prior.tusdHeld
  feeAmount : ∀ receipt ∈ feeReceipts transaction,
    receipt.feeAmount = (receipt.grossAmount * prior.feeBps).tdiv BPS_DENOMINATOR
  reflectionFee : swap.reflectionFee = (swap.feeBase * prior.feeBps).tdiv BPS_DENOMINATOR

section Accepted

variable {prior next : ProtocolProjection} {transaction : List ProtocolEvent}
  {swap : SwapExecutedEvent}

theorem SwapGroup.of_perm {events : List ProtocolEvent} (h : SwapGroup transaction swap)
    (hperm : events.Perm transaction) : SwapGroup events swap where
  swap := by
    have hsame := (select_perm EventBody.swap hperm).map Prod.snd
    rw [h.swap] at hsame
    exact List.perm_singleton.mp hsame
  kinds event hevent := h.kinds event (hperm.mem_iff.mp hevent)

theorem SwapGroup.select_eq (h : SwapGroup transaction swap) :
    ∃ base, select EventBody.swap transaction = [(base, swap)] := by
  obtain ⟨⟨base, other⟩, hselect, rfl⟩ := List.map_eq_singleton_iff.mp h.swap
  exact ⟨base, hselect⟩

theorem mem_feeReceipts {receipt : ReflectionFeeCollectedEvent} :
    receipt ∈ feeReceipts transaction ↔
      ∃ event ∈ transaction, event.body.feeReceipt = some receipt := by
  unfold feeReceipts select
  simp only [List.mem_map, List.mem_filterMap, Option.map_eq_some_iff, Prod.exists, Prod.mk.injEq]
  constructor
  · rintro ⟨_, _, ⟨event, hevent, other, hbody, rfl, rfl⟩, rfl⟩
    exact ⟨event, hevent, hbody⟩
  · rintro ⟨event, hevent, hbody⟩
    exact ⟨_, _, ⟨event, hevent, receipt, hbody, rfl, rfl⟩, rfl⟩

/-- **What is left of an accepted group** is what the fee receipts bring less what
the swap was charged. -/
theorem swapAccepted_of_accepted (hkeyed : prior.Keyed) (hgroup : SwapGroup transaction swap)
    (h : accepted prior transaction = some next) : SwapAccepted prior next transaction swap := by
  have hperm : (sortEvents transaction).Perm transaction := List.mergeSort_perm transaction _
  have hsortedGroup := hgroup.of_perm hperm
  obtain ⟨hempty, -⟩ | ⟨first, rest, replayed, closed, hsorted, haccepts, rfl⟩ :=
    accepted_eq_some.mp h
  · -- An empty group has no swap.
    have hnone := hsortedGroup.swap
    rw [hempty] at hnone
    cases hnone
  · rw [hsorted] at hperm hsortedGroup
    have hids := (select_ids_sublist EventBody.route (first :: rest)).nodup
      (nodup_of_identityAlerts haccepts.identity).1
    obtain ⟨base, hselect⟩ := hsortedGroup.select_eq
    have hswap : ∃ event ∈ first :: rest, event.body.swap = some swap := by
      have hmem : (base, swap) ∈ select EventBody.swap (first :: rest) := by simp [hselect]
      obtain ⟨event, hevent, hsome⟩ := List.mem_filterMap.mp hmem
      obtain ⟨other, hbody, hsame⟩ := Option.map_eq_some_iff.mp hsome
      exact ⟨event, hevent, by rw [hbody, (Prod.mk.inj hsame).2]⟩
    have hrun := swapRun_of_clean (c := .initial prior) hkeyed hselect hids
      (fun event hevent => ⟨hevent, hsortedGroup.kinds event hevent⟩) haccepts.events
    have hcloses := clean_closingChecks haccepts.books
    have hcharged := hrun.agrees hswap
    -- Every route was answered, and the seller was debited.
    have hanswered : replayed.answered (first :: rest)
        = ((select EventBody.route (first :: rest)).map fun route => route.2.amount).sum := by
      unfold Context.answered
      rw [List.filter_eq_self.mpr]
      intro route hroute
      exact decide_eq_true (hcloses.routes route hroute)
    have howed := hrun.owed (.inr hswap)
    have htrfl := hrun.trfl
    rw [sum_trflEffect, hselect] at htrfl
    unfold Context.trflSettled at htrfl
    rw [howed, hanswered] at htrfl
    have hreceipts : ((feeReceipts transaction).map fun receipt => receipt.feeAmount).sum
        = ((select EventBody.feeReceipt (first :: rest)).map
            fun entry => entry.2.feeAmount).sum := by
      unfold feeReceipts
      rw [List.map_map]
      exact ((select_perm EventBody.feeReceipt hperm).map _).sum_eq.symm
    have hheld : (remember closed.next (first :: rest)).trflHeld = replayed.next.trflHeld := by
      rw [hcloses.next]
      rfl
    have hheld' : (remember closed.next (first :: rest)).tusdHeld = replayed.next.tusdHeld := by
      rw [hcloses.next]
      rfl
    constructor
    · have hstart : (Context.initial prior).answered (first :: rest) = 0 := by
        simp [Context.answered, Context.initial]
      rw [hstart] at htrfl
      rw [hheld, hreceipts]
      simp only [Context.initial, Context.owed, and_true, List.map_cons, List.map_nil,
        List.sum_cons, List.sum_nil, SwapExecutedEvent.trflEffect] at htrfl
      by_cases hsell : swap.direction = .sell
      · rw [if_pos hsell, if_pos hsell, hcharged.2 hsell] at htrfl
        linarith
      · rw [if_neg hsell, if_neg hsell] at htrfl
        linarith
    · rw [hheld', hrun.tusd]
      rfl
    · intro receipt hreceipt
      obtain ⟨event, hevent, hbody⟩ := mem_feeReceipts.mp hreceipt
      exact hrun.feeAmount event (hperm.mem_iff.mpr hevent) receipt hbody
    · exact hcharged.1

/-- What is expected of an accepted group of a swap: that both tokens are conserved and that
the fee has one receipt, or none if there is no fee. -/
structure SwapSound (prior next : ProtocolProjection) (transaction : List ProtocolEvent)
    (swap : SwapExecutedEvent) : Prop where
  trfl : next.trflHeld = prior.trflHeld
  tusd : next.tusdHeld = prior.tusdHeld
  charged : swap.reflectionFee ≠ 0 → ∃ receipt, feeReceipts transaction = [receipt]
    ∧ receipt.feeAmount = swap.reflectionFee ∧ receipt.grossAmount = swap.feeBase
  uncharged : swap.reflectionFee = 0 → feeReceipts transaction = []

/-- What the swaps of a group were charged on, those without a fee apart. -/
def chargedAmounts (transaction : List ProtocolEvent) : List ℤ :=
  (((select EventBody.swap transaction).map Prod.snd).filter fun swap =>
    swap.reflectionFee ≠ 0).map SwapExecutedEvent.feeBase

/-- **A group without alerts is sound if its fee receipts name the amounts its
swaps were charged on.** -/
theorem swap_groups_sound_iff (hkeyed : prior.Keyed)
    (hscope : (∃ swap, SwapGroup transaction swap) ∨ select EventBody.swap transaction = [])
    (h : accepted prior transaction = some next) :
    ((∀ swap, SwapGroup transaction swap → SwapSound prior next transaction swap)
      ∧ (select EventBody.swap transaction = [] → feeReceipts transaction = []))
      ↔ (feeReceipts transaction).map (fun receipt => receipt.grossAmount)
        = chargedAmounts transaction := by
  obtain ⟨swap, hgroup⟩ | hnone := hscope
  · have haccepted := swapAccepted_of_accepted hkeyed hgroup h
    have hamounts : chargedAmounts transaction
        = if swap.reflectionFee ≠ 0 then [swap.feeBase] else [] := by
      unfold chargedAmounts
      rw [hgroup.swap]
      by_cases hfee : swap.reflectionFee = 0
      · simp [hfee]
      · simp [hfee]
    have honly : ∀ other, SwapGroup transaction other → other = swap := by
      intro other hother
      have hsame := hother.swap
      rw [hgroup.swap] at hsame
      exact (List.cons.inj hsame).1.symm
    rw [hamounts]
    constructor
    · rintro ⟨hsound, -⟩
      have hthis := hsound swap hgroup
      by_cases hfee : swap.reflectionFee = 0
      · rw [hthis.uncharged hfee, if_neg (not_not.mpr hfee), List.map_nil]
      · obtain ⟨receipt, hreceipts, -, hgross⟩ := hthis.charged hfee
        rw [hreceipts, if_pos hfee, List.map_singleton, hgross]
    · intro hgrosses
      refine ⟨fun other hother => ?_, fun hnone => ?_⟩
      · obtain rfl := honly other hother
        by_cases hfee : other.reflectionFee = 0
        · rw [if_neg (not_not.mpr hfee), List.map_eq_nil_iff] at hgrosses
          have htrfl := haccepted.trfl
          rw [hgrosses, hfee] at htrfl
          refine ⟨?_, haccepted.tusd, fun hcharged => absurd hfee hcharged, fun _ => hgrosses⟩
          simpa using htrfl
        · rw [if_pos hfee, List.map_eq_singleton_iff] at hgrosses
          obtain ⟨receipt, hreceipts, hgross⟩ := hgrosses
          -- One rate was applied twice to the same amount.
          have hsame : receipt.feeAmount = other.reflectionFee := by
            rw [haccepted.feeAmount receipt (by simp [hreceipts]), hgross,
              ← haccepted.reflectionFee]
          have htrfl := haccepted.trfl
          rw [hreceipts, List.map_singleton, List.sum_singleton, hsame] at htrfl
          refine ⟨by linarith, haccepted.tusd, fun _ => ⟨receipt, hreceipts, hsame, hgross⟩,
            fun huncharged => absurd huncharged hfee⟩
      · have hswap := hgroup.swap
        rw [hnone] at hswap
        cases hswap
  · have hamounts : chargedAmounts transaction = [] := by
      unfold chargedAmounts
      rw [hnone]
      rfl
    rw [hamounts, List.map_eq_nil_iff]
    constructor
    · rintro ⟨-, hreceipts⟩
      exact hreceipts hnone
    · intro hreceipts
      refine ⟨fun swap hgroup => ?_, fun _ => hreceipts⟩
      have hswap := hgroup.swap
      rw [hnone] at hswap
      cases hswap

end Accepted

/-! ## Sales -/

namespace Sample

/-- The launch, and a grant to the account that it registered. -/
def granted : List (List ProtocolEvent) :=
  [launch, [event 8 0 "8:0" (.FaucetGrant (.account 1) .trfl 1_000_000_000)]]

/-- A sale of 10,000 units with its fee of 100. -/
def sale : SwapExecutedEvent :=
  ⟨.account 1, .sell, 10_000, 100, 30, 9_900, 9_869, 9_869, 500_009_900, 499_990_131⟩

def chargedSale : List ProtocolEvent :=
  [ event 9 0 "9:0" (.ReflectionFeeCollected ⟨"0x", 10_000, 100, 100⟩),
    event 9 1 "9:1" (.ReflectionIndexAdvanced
      ⟨0, 66_667_111_114_074_093, 1_240_930_000, 100, 1_499_990_000⟩),
    event 9 2 "9:2" (.CustodySharesChanged ⟨true, 9_900, 500_009_900, 1_499_999_900⟩),
    event 9 3 "9:3" (.SwapExecuted sale) ]

/-- The same sale in a feed that lost the fee's two events. -/
def unchargedSale : List ProtocolEvent :=
  [ event 9 0 "9:0" (.CustodySharesChanged ⟨true, 9_900, 500_009_900, 1_500_009_900⟩),
    event 9 1 "9:1" (.SwapExecuted sale) ]

/-- A fee that no swap was charged. -/
def orphanedFee : List ProtocolEvent :=
  [ event 9 0 "9:0" (.ReflectionFeeCollected ⟨"0x", 10_000, 100, 100⟩),
    event 9 1 "9:1" (.ReflectionIndexAdvanced
      ⟨0, 66_666_666_666_666_666, 1_000_000_000, 100, 1_500_000_000⟩) ]

theorem sales_sorted : sortEvents chargedSale = chargedSale
    ∧ sortEvents unchargedSale = unchargedSale ∧ sortEvents orphanedFee = orphanedFee :=
  ⟨sortEvents_of_pairwise (by decide), sortEvents_of_pairwise (by decide),
    sortEvents_of_pairwise (by decide)⟩

/-- The three groups after the grant, of which none raises an alert. -/
theorem exists_granted : ∃ prior, replayed granted = some prior
    ∧ (∃ next, accepted prior chargedSale = some next)
    ∧ (∃ next, accepted prior unchargedSale = some next)
    ∧ ∃ next, accepted prior orphanedFee = some next := by
  have hlaunch : sortEvents launch = launch := launch_sorted
  have hgrant : ∀ grant : ProtocolEvent, sortEvents [grant] = [grant] := fun _ =>
    sortEvents_of_pairwise (by simp)
  obtain ⟨hcharged, huncharged, horphaned⟩ := sales_sorted
  have hall : ((replayed granted).map fun prior =>
      ((accepted prior chargedSale).isSome && (accepted prior unchargedSale).isSome
        && (accepted prior orphanedFee).isSome)) = some true := by
    unfold replayed granted Paging.replay
    simp only [List.foldlM_cons, List.foldlM_nil, accepted, reduceEventGroup, hlaunch, hgrant,
      hcharged, huncharged, horphaned]
    decide +kernel
  obtain ⟨prior, hprior, hsome⟩ := Option.map_eq_some_iff.mp hall
  rw [Bool.and_eq_true, Bool.and_eq_true] at hsome
  obtain ⟨⟨hcharged, huncharged⟩, horphaned⟩ := hsome
  exact ⟨prior, hprior, Option.isSome_iff_exists.mp hcharged,
    Option.isSome_iff_exists.mp huncharged, Option.isSome_iff_exists.mp horphaned⟩

theorem granted_closed {prior : ProtocolProjection} (h : replayed granted = some prior) :
    prior.Closed :=
  (balanced_of_replayed h (by simp [granted, launch, event, Initializes])).2

theorem sale_groups : SwapGroup chargedSale sale ∧ SwapGroup unchargedSale sale :=
  ⟨⟨by decide, by decide⟩, ⟨by decide, by decide⟩⟩

end Sample

/-- The charged sale is sound, since its receipt names what was sold. -/
theorem swap_groups_sound_charged : ∃ prior next, replayed Sample.granted = some prior
    ∧ accepted prior Sample.chargedSale = some next
    ∧ ∀ swap, SwapGroup Sample.chargedSale swap →
      SwapSound prior next Sample.chargedSale swap := by
  obtain ⟨prior, hprior, ⟨next, hnext⟩, -, -⟩ := Sample.exists_granted
  exact ⟨prior, next, hprior, hnext, ((swap_groups_sound_iff (keyed_of_replayed hprior)
    (.inl ⟨_, Sample.sale_groups.1⟩) hnext).mpr (by decide)).1⟩

/-- **A sale whose fee nobody collected is accepted**, and so is a fee that
nobody was charged. -/
theorem swap_groups_unsound : ∃ prior, replayed Sample.granted = some prior ∧ prior.Closed
    ∧ (∃ next, accepted prior Sample.unchargedSale = some next
      ∧ SwapGroup Sample.unchargedSale Sample.sale ∧ Sample.sale.reflectionFee ≠ 0
      ∧ feeReceipts Sample.unchargedSale = [] ∧ next.trflHeld = prior.trflHeld - 100)
    ∧ ∃ next, accepted prior Sample.orphanedFee = some next
      ∧ select EventBody.swap Sample.orphanedFee = []
      ∧ feeReceipts Sample.orphanedFee ≠ [] := by
  obtain ⟨prior, hprior, -, ⟨next, hnext⟩, ⟨next', hnext'⟩⟩ := Sample.exists_granted
  have hgroup := Sample.sale_groups.2
  have hlost := (swapAccepted_of_accepted (keyed_of_replayed hprior) hgroup hnext).trfl
  refine ⟨prior, hprior, Sample.granted_closed hprior, ⟨next, hnext, hgroup, by decide, by decide,
    ?_⟩, next', hnext', by decide, by decide⟩
  have hnone : feeReceipts Sample.unchargedSale = [] := by decide
  rw [hnone] at hlost
  simpa [Sample.sale] using hlost

end CedraReflect.indexer
