/-
What it takes for a transaction to replay.

A transaction is accepted when its group passes every gate without a word:
[`Accepts`] is the list of them, with the states between. What every clean event
keeps, an accepted transaction keeps, and so does a history of them
([`replayed_induction`]).
-/
import CedraReflect.Configuration
import CedraReflect.PagedReplay

set_option autoImplicit false
set_option linter.constructorNameAsVariable false

namespace CedraReflect.indexer

open Audited

/-! ## Accepted groups -/

/-- The group `first :: rest`, sorted, replays on `prior`: its events lead to
`replayed`, and its closing checks to `closed`. -/
structure Accepts (prior : ProtocolProjection) (first : ProtocolEvent)
    (rest : List ProtocolEvent) (replayed closed : Context) : Prop where
  domains : assertProjectionMoveDomains prior = .ok ()
  identity : identityAlerts prior first.toEventBase [] (-1) (first :: rest) = []
  receipts : ∃ c, Clean (groupChecks prior first.toEventBase (first :: rest)) (.initial prior) () c
  events : Clean (forEach (first :: rest) (replayEvent prior (first :: rest))) (.initial prior) ()
    replayed
  books : Clean (closingChecks first.toEventBase (first :: rest)) replayed () closed

/-- **An accepted transaction is empty or passes every gate.** -/
theorem accepted_eq_some {prior next : ProtocolProjection} {transaction : List ProtocolEvent} :
    accepted prior transaction = some next ↔
      (sortEvents transaction = [] ∧ next = prior)
        ∨ ∃ first rest replayed closed, sortEvents transaction = first :: rest
          ∧ Accepts prior first rest replayed closed
          ∧ next = remember closed.next (first :: rest) := by
  unfold accepted reduceEventGroup
  rcases hsorted : sortEvents transaction with _ | ⟨first, rest⟩
  · simp [eq_comm]
  · simp only [reduceCtorEq, false_and, false_or, List.cons.injEq]
    constructor
    · intro h
      -- The stages in the order of the reducer, each of which has to pass without an alert.
      rcases hdomains : assertProjectionMoveDomains prior with detail | ⟨⟩
      · simp [hdomains] at h
      · simp only [hdomains] at h
        split_ifs at h with hdata
        · -- An alert of identity is there, so the group is not accepted.
          rcases hidentity : identityAlerts prior first.toEventBase [] (-1) (first :: rest) with _ | _
          · simp [hidentity] at hdata
          · simp [hidentity] at h
        · rcases hreceipts : groupChecks prior first.toEventBase (first :: rest) (.initial prior) with
            ⟨receipts, thrown | ⟨⟨⟩, checked⟩⟩
          · simp [hreceipts] at h
          · rcases hreplay : replayGroup prior first.toEventBase (first :: rest) (.initial prior) with
              ⟨filed, detail | ⟨⟨⟩, closed⟩⟩
            · simp [hreceipts, hreplay] at h
            · simp only [hreceipts, hreplay] at h
              split at h
              · next projection hresult =>
                  obtain ⟨rfl, hnone⟩ := ReduceResult.mk.inj (Except.ok.inj hresult)
                  rw [List.append_eq_nil_iff, List.append_eq_nil_iff] at hnone
                  obtain ⟨⟨hidentity, rfl⟩, rfl⟩ := hnone
                  have hclean : Clean (replayGroup prior first.toEventBase (first :: rest))
                      (.initial prior) () closed := hreplay
                  rw [replayGroup, clean_bind] at hclean
                  obtain ⟨⟨⟩, replayed, hevents, hbooks⟩ := hclean
                  exact ⟨first, rest, replayed, closed, ⟨rfl, rfl⟩,
                    ⟨hdomains, hidentity, ⟨checked, hreceipts⟩, hevents, hbooks⟩,
                    (Option.some_injective _ h).symm⟩
              · exact absurd h (by simp)
    · rintro ⟨_, _, replayed, closed, ⟨rfl, rfl⟩, h, rfl⟩
      obtain ⟨checked, hreceipts⟩ := h.receipts
      have hreplay : replayGroup prior first.toEventBase (first :: rest) (.initial prior)
          = ([], .ok ((), closed)) := by
        show Clean (replayGroup prior first.toEventBase (first :: rest)) (.initial prior) () closed
        rw [replayGroup, clean_bind]
        exact ⟨(), replayed, h.events, h.books⟩
      simp only [h.domains, h.identity, hreplay]
      rw [show groupChecks prior first.toEventBase (first :: rest) (.initial prior)
        = ([], .ok ((), checked)) from hreceipts]
      rfl

/-- **What every group keeps, a history keeps.** -/
theorem replayed_induction {P : List (List ProtocolEvent) → ProtocolProjection → Prop}
    (hempty : P [] createEmptyProjection)
    (hstep : ∀ history transaction prior next, P history prior →
      accepted prior transaction = some next → P (history ++ [transaction]) next)
    {history : List (List ProtocolEvent)} {projection : ProtocolProjection}
    (h : replayed history = some projection) : P history projection := by
  induction history using List.reverseRecOn generalizing projection with
  | nil =>
      obtain rfl := Option.some_injective _ h
      exact hempty
  | append_singleton history transaction ih =>
      unfold replayed at h ih
      rw [Paging.replay_append] at h
      obtain ⟨prior, hprior, h⟩ := Option.bind_eq_some_iff.mp h
      refine hstep history transaction prior projection (ih hprior) ?_
      simpa [Paging.replay] using h

/-! ## The books of an accepted group -/

theorem clean_settleFees {c c' : Context} {u : Unit} :
    Clean settleFees c u c' ↔
      (∀ receipt ∈ c.pendingCoreFees, receipt.sharesAtCollection = 0)
        ∧ c' = { c with next := { c.next with
            unallocatedFees := c.next.unallocatedFees
              + (c.pendingCoreFees.map fun receipt => receipt.event.feeAmount).sum } } := by
  have hloop : ∀ (receipts : List PendingCoreFee) (c : Context),
      Clean (forEach receipts fun pending =>
        if pending.sharesAtCollection = 0 then
          setNext fun next =>
            { next with unallocatedFees := next.unallocatedFees + pending.event.feeAmount }
        else
          file (problem pending.base .TRANSACTION_GROUP
            (text "Positive-denominator fee has no global-index receipt.") none none)) c u c' ↔
        (∀ receipt ∈ receipts, receipt.sharesAtCollection = 0)
          ∧ c' = { c with next := { c.next with
              unallocatedFees := c.next.unallocatedFees
                + (receipts.map fun receipt => receipt.event.feeAmount).sum } } := by
    intro receipts
    induction receipts with
    | nil => simp
    | cons receipt receipts ih =>
        intro c
        simp only [clean_forEach_cons, ih, clean_ite, clean_setNext, clean_file, and_false, or_false,
          and_assoc, exists_and_left, exists_eq_left, List.forall_mem_cons, List.map_cons,
          List.sum_cons, add_assoc]
  simp only [settleFees, clean_bind, clean_gets, and_assoc, exists_and_left, exists_eq_left, hloop]

/-- The sums over an epoch's positions. -/
theorem clean_sumPositions {first : EventBase} {epoch : IndexedLpEpoch}
    {registeredWallets : OrderedMap Address Address} {positions : List IndexedLpPosition}
    {correction claims : ℤ} {c c' : Context} {sums : ℤ × ℤ}
    (h : Clean (sumPositions first epoch registeredWallets correction claims positions) c sums c') :
    (∀ position ∈ positions, 0 < position.shares →
        registeredWallets.has position.owner = true)
      ∧ sums = (correction + (positions.map fun position => position.correction).sum,
        claims + (positions.map fun position => position.claimed).sum)
      ∧ c' = c := by
  induction positions generalizing correction claims with
  | nil =>
      rw [sumPositions, clean_pure] at h
      simp [h.1, h.2]
  | cons position positions ih =>
      simp only [sumPositions, clean_bind, clean_fileIf, clean_attempt,
        checkedMoveSignedU256Add_eq_ok, checkedMoveU256Add_eq_ok, and_assoc, exists_and_left,
        exists_eq_left, exists_const, not_and, Bool.not_eq_false] at h
      obtain ⟨hregistered, -, -, -, -, -, -, h⟩ := h
      obtain ⟨hrest, hsums, rfl⟩ := ih h
      refine ⟨?_, ?_, rfl⟩
      · rw [List.forall_mem_cons]
        exact ⟨hregistered, hrest⟩
      · rw [hsums]
        simp only [List.map_cons, List.sum_cons, add_assoc]

/-- The books of an epoch close. -/
structure EpochCloses (registeredWallets : OrderedMap Address Address) (epoch : IndexedLpEpoch) :
    Prop where
  registered : ∀ position ∈ epoch.positions.values, 0 < position.shares →
    registeredWallets.has position.owner = true
  shares : sumLpShares epoch.positions = epoch.totalShares
  correction : (epoch.positions.values.map fun position => position.correction).sum
    = epoch.aggregateCorrection
  claims : (epoch.positions.values.map fun position => position.claimed).sum
    = epoch.lifetimeClaimed
  retired : isMoveUnsigned epoch.retiredResidueMagnified 256
  active : epoch.status = .active → epoch.terminalRoundingBaseUnits = none
  terminal : epoch.status = .claimOnly → epoch.terminalRoundingBaseUnits = some epoch.roundingReserve
  rounding : ∃ label, epochRounding epoch label = .ok epoch.roundingReserve

theorem clean_epochBooks {first : EventBase} {epoch : IndexedLpEpoch} {c c' : Context} {u : Unit}
    (h : Clean (epochBooks first epoch) c u c') :
    EpochCloses c.next.registeredWallets epoch ∧ c' = c := by
  simp only [epochBooks, clean_bind, clean_gets, and_assoc, exists_and_left, exists_eq_left] at h
  obtain ⟨sums, c₁, hsums, h⟩ := h
  obtain ⟨hregistered, rfl, rfl⟩ := clean_sumPositions hsums
  simp only [clean_fileIf, clean_attempt, and_assoc, exists_and_left, exists_eq_left,
    exists_const, not_or, not_and, not_lt, not_not, ne_eq, zero_add] at h
  obtain ⟨hshares, hcorrection, hclaims, hretired, hfits, hactive, hclassified, hterminal, _,
    hrounding, rfl, rfl⟩ := h
  refine ⟨⟨hregistered, hshares, hcorrection, hclaims, ⟨hretired, ?_⟩, hactive, ?_,
    ⟨_, hrounding⟩⟩, rfl⟩
  · unfold U256_MAX at hfits
    exact hfits
  · intro hstatus
    obtain ⟨terminal, hsome⟩ := Option.ne_none_iff_exists'.mp (hclassified hstatus)
    rw [hsome] at hterminal ⊢
    simp only [Option.any_some, decide_eq_true_eq, not_or, not_not] at hterminal
    rw [hterminal.2.2]

theorem checkedSum_eq_ok {label : Text} {sum : ℤ} {values : List ℤ} {z : ℤ}
    (h : checkedSum label sum values = .ok z) : z = sum + values.sum := by
  induction values generalizing sum with
  | nil =>
      rw [checkedSum, pure_eq_ok] at h
      simp [h]
  | cons value values ih =>
      rw [checkedSum, bind_eq_ok] at h
      obtain ⟨_, hadd, h⟩ := h
      obtain ⟨-, -, -, rfl⟩ := checkedMoveSignedU256Add_eq_ok.mp hadd
      rw [ih h, List.sum_cons, add_assoc]

/-- The books of the core close. -/
structure CoreCloses (projection : ProtocolProjection) (roundingReserve : ℤ) : Prop where
  shares : sumWalletShares projection.positions + projection.custody.shares
    = projection.eligibleSupply
  correction : projection.custody.correction
      + (projection.positions.values.map fun position => position.correction).sum
    = projection.aggregateCorrection
  reserve : projection.pool.trflReserve = projection.custody.shares
  route : projection.custody.adapterId ≠ none →
    ∃ route epoch, projection.custody.activeRouteEpoch = some route
      ∧ projection.lpEpochs.get? route = some epoch
      ∧ projection.custody.activeLpRewardVault = some epoch.rewardVault
  rounding : ∃ vault liability, expectedCoreVaultBalance projection = .ok vault
    ∧ coreIndexedLiability projection = .ok liability
    ∧ isMoveUnsigned projection.unallocatedFees 256
    ∧ liability + projection.unallocatedFees ≤ vault
    ∧ roundingReserve = vault - liability - projection.unallocatedFees

theorem clean_coreBooks {first : EventBase} {c c' : Context} {u : Unit}
    (h : Clean (coreBooks first) c u c') :
    CoreCloses c.next c'.next.roundingReserve
      ∧ c' = { c with next := { c.next with roundingReserve := c'.next.roundingReserve } } := by
  simp only [coreBooks, clean_bind, clean_gets, clean_alertIf, clean_attempt, clean_setNext,
    and_assoc, exists_and_left, exists_eq_left, exists_const, ne_eq, not_not,
    checkedVaultRemainder_eq_ok] at h
  obtain ⟨hshares, correction, hcorrection, hsame, hreserve, hroute, vault, hvault, liability,
    hliability, -, -, hunallocated, hle, rfl⟩ := h
  refine ⟨⟨hshares, ?_, hreserve, ?_, vault, liability, hvault, hliability, hunallocated, hle, rfl⟩,
    rfl⟩
  · rw [← hsame, checkedSum_eq_ok hcorrection]
  · intro hadapter
    -- An adapter whose route is bound names the reward vault of the active epoch.
    have hbound : ((c.next.custody.activeRouteEpoch.bind c.next.lpEpochs.get?).map
        fun epoch => epoch.rewardVault) = c.next.custody.activeLpRewardVault
        ∧ c.next.custody.activeLpRewardVault ≠ none := by
      by_contra hother
      refine hroute ⟨hadapter, ?_⟩
      by_cases hsame : ((c.next.custody.activeRouteEpoch.bind c.next.lpEpochs.get?).map
          fun epoch => epoch.rewardVault) = c.next.custody.activeLpRewardVault
      · rw [not_and, not_not] at hother
        exact Or.inl (by rw [hsame, hother hsame])
      · exact Or.inr hsame
    obtain ⟨hsame, hsome⟩ := hbound
    obtain ⟨vault', hvault'⟩ := Option.ne_none_iff_exists'.mp hsome
    rw [hvault', Option.map_eq_some_iff] at hsame
    obtain ⟨epoch, hepoch, hrewardVault⟩ := hsame
    obtain ⟨route, hroute', hget⟩ := Option.bind_eq_some_iff.mp hepoch
    exact ⟨route, epoch, hroute', hget, by rw [hvault', hrewardVault]⟩

/-- Registrations and positions belong together. -/
structure RegistrationCloses (projection : ProtocolProjection) : Prop where
  count : projection.registeredWalletCount = projection.registeredWallets.size
  fits : isMoveUnsigned projection.registeredWalletCount 64
  stores : projection.registeredWallets.values.Nodup
  included : ∀ account store, projection.registeredWallets.get? account = some store →
    account ≠ .zero ∧ store ≠ .zero ∧ projection.protocolExcludedStores.has account = false
      ∧ store ∉ projection.protocolExcludedStores.values
  positions : ∀ account ∈ projection.positions.keys,
    projection.registeredWallets.has account = true

theorem clean_registrationBooks {first : EventBase} {c c' : Context} {u : Unit}
    (h : Clean (registrationBooks first) c u c') : RegistrationCloses c.next ∧ c' = c := by
  simp only [registrationBooks, clean_bind, clean_gets, clean_alertIf, and_assoc,
    exists_and_left, exists_eq_left, exists_const, not_or, not_lt, not_not, ne_eq] at h
  obtain ⟨hcount, hpositive, hfits, hstores, hincluded, h⟩ := h
  rw [clean_forEach_look (p := fun account => c.next.registeredWallets.has account = true)
    (by simp)] at h
  refine ⟨⟨hcount, ⟨hpositive, ?_⟩, hstores, ?_, h.1⟩, h.2⟩
  · unfold U64_MAX at hfits
    exact hfits
  · intro account store hget
    rw [Bool.not_eq_true, List.any_eq_false] at hincluded
    have hentry := hincluded (account, store) (OrderedMap.mem_entries.mpr hget)
    simpa [not_or] using hentry

theorem clean_unconsumedRoutes {events : List ProtocolEvent} {c c' : Context} {u : Unit} :
    Clean (unconsumedRoutes events) c u c' ↔
      (∀ route ∈ select EventBody.route events, route.1.id ∈ c.consumedRoutes) ∧ c' = c := by
  simp only [unconsumedRoutes, clean_bind, clean_gets, and_assoc, exists_and_left, exists_eq_left]
  rw [clean_forEach_look (p := fun route => route.1.id ∈ c.consumedRoutes) (by simp)]

theorem clean_liquidityShares {events : List ProtocolEvent} {c c' : Context} {u : Unit}
    (h : Clean (liquidityShares events) c u c') : c' = c := by
  unfold liquidityShares at h
  split at h
  · rw [clean_alertIf] at h
    exact h.2
  · rw [clean_pure] at h
    exact h.2

/-- **An accepted group leaves books that close.** -/
structure Closes (events : List ProtocolEvent) (replayed closed : Context) : Prop where
  routes : ∀ route ∈ select EventBody.route events, route.1.id ∈ replayed.consumedRoutes
  fees : ∀ receipt ∈ replayed.pendingCoreFees, receipt.sharesAtCollection = 0
  next : closed.next = { replayed.next with
    unallocatedFees := replayed.next.unallocatedFees
      + (replayed.pendingCoreFees.map fun receipt => receipt.event.feeAmount).sum
    roundingReserve := closed.next.roundingReserve }
  registration : RegistrationCloses closed.next
  core : CoreCloses closed.next closed.next.roundingReserve
  epochs : ∀ epoch ∈ closed.next.lpEpochs.values,
    EpochCloses closed.next.registeredWallets epoch
  domains : assertProjectionMoveDomains closed.next = .ok ()

theorem clean_closingChecks {first : EventBase} {events : List ProtocolEvent}
    {replayed closed : Context} {u : Unit}
    (h : Clean (closingChecks first events) replayed u closed) : Closes events replayed closed := by
  simp only [closingChecks, clean_bind, clean_gets, clean_settleFees, clean_attempt,
    clean_unconsumedRoutes, and_assoc, exists_and_left, exists_eq_left] at h
  obtain ⟨hfees, hroutes, _, _, _, c₁, hshares, _, c₂, hregistration, _, c₃, hcore, _, c₄, hepochs,
    hdomains, rfl⟩ := h
  obtain rfl := clean_liquidityShares hshares
  obtain ⟨hregistered, rfl⟩ := clean_registrationBooks hregistration
  obtain ⟨hclosed, hnext⟩ := clean_coreBooks hcore
  obtain ⟨hbooks, rfl⟩ := hepochs.forEach_look fun epoch _ c hepoch => clean_epochBooks hepoch
  have hsame : closed.next = { replayed.next with
      unallocatedFees := replayed.next.unallocatedFees
        + (replayed.pendingCoreFees.map fun receipt => receipt.event.feeAmount).sum
      roundingReserve := closed.next.roundingReserve } := by
    rw [hnext]
  refine ⟨hroutes, hfees, hsame, ?_, ?_, hbooks, hdomains⟩
  · rw [hsame]
    exact ⟨hregistered.count, hregistered.fits, hregistered.stores, hregistered.included,
      hregistered.positions⟩
  · rw [hsame]
    exact ⟨hclosed.shares, hclosed.correction, hclosed.reserve, hclosed.route, hclosed.rounding⟩

end CedraReflect.indexer
