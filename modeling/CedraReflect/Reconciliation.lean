/-
What a reconciliation without alerts has compared.

The registered wallets are compared as sets and the observed list may name no
wallet twice. The lists of positions become maps, in which the last of several
elements with one key stays, so only the last one has been compared
([`reconciled_iff_unambiguous`]).
-/
import CedraReflect.PagedReplay
import CedraReflect.Reconciler

set_option autoImplicit false
set_option linter.constructorNameAsVariable false

namespace CedraReflect.indexer

open Audited

/-! ## Clean comparisons -/

@[simp] theorem clean_raiseIf {now : ℤ} {cursor : Option EventCursor} {p : Prop} [Decidable p]
    {code : AlertCode} {message : String} {expected observed scope : Text} {s s' u : Unit} :
    Clean (raiseIf now cursor p code message expected observed scope) s u s' ↔ ¬ p := by
  simp [raiseIf]

/-- Comparisons one after the other. -/
theorem clean_compare_bind {β : Type} {m : Reconciling Unit} {f : Unit → Reconciling β} {b : β} :
    Clean (m >>= f) () b () ↔ Clean m () () () ∧ Clean (f ()) () b () := by
  rw [clean_bind]
  exact ⟨fun ⟨_, _, h⟩ => h, fun h => ⟨(), (), h⟩⟩

/-- A loop of comparisons is clean if each of them is. -/
theorem clean_forEach_compare {α : Type} {xs : List α} {f : α → Reconciling Unit} {p : α → Prop}
    (hf : ∀ x ∈ xs, Clean (f x) () () () ↔ p x) :
    Clean (forEach xs f) () () () ↔ ∀ x ∈ xs, p x := by
  rw [clean_forEach_look (p := p) (fun x hx s' => by rw [hf x hx]; simp)]
  simp

section Maps

variable {α κ : Type} [DecidableEq κ] {key : α → κ} {list : List α} {k : κ}

theorem mem_of_lastWith {x : α} (h : lastWith key list k = some x) : x ∈ list ∧ key x = k := by
  obtain ⟨y, hy, heq⟩ := List.mem_map.mp (mem_of_get?_mapOf h)
  obtain ⟨hkey, rfl⟩ := Prod.mk.inj heq
  exact ⟨hy, hkey⟩

/-- An element of a list has a last one with its key. -/
theorem exists_lastWith {x : α} (hx : x ∈ list) :
    ∃ y ∈ list, key y = key x ∧ lastWith key list (key x) = some y := by
  have hkey : key x ∈ (mapOf (list.map fun element => (key element, element))).keys := by
    rw [mem_keys_mapOf, List.map_map]
    exact List.mem_map_of_mem hx
  obtain ⟨y, hy⟩ := OrderedMap.has_iff.mp (OrderedMap.mem_keys.mp hkey)
  have hfound : y ∈ list ∧ key y = key x := mem_of_lastWith hy
  exact ⟨y, hfound.1, hfound.2, hy⟩

theorem mem_keys_listed :
    k ∈ (mapOf (list.map fun element => (key element, element))).keys ↔ k ∈ list.map key := by
  rw [mem_keys_mapOf, List.map_map]
  rfl

end Maps

/-! ## What is compared -/

/-- A replayed map and an observed list, compared as the reconciler compares
them: every replayed entry with the last element of its key, and no key of the
list beyond the map's. -/
structure Compared {κ ν α β : Type} [DecidableEq κ] (replayed : OrderedMap κ ν) (data : ν → β)
    (observed : List α) (key : α → κ) (seen : α → β) : Prop where
  last : ∀ k v, replayed.get? k = some v → (lastWith key observed k).map seen = some (data v)
  keys : ∀ x ∈ observed, replayed.has (key x) = true

/-- Every element equals the replayed entry, and the keys are the same. -/
structure Complete {κ ν α β : Type} [DecidableEq κ] (replayed : OrderedMap κ ν) (data : ν → β)
    (observed : List α) (key : α → κ) (seen : α → β) : Prop where
  element : ∀ x ∈ observed, (replayed.get? (key x)).map data = some (seen x)
  keys : ∀ k, k ∈ replayed.keys ↔ k ∈ observed.map key

/-- Two elements with one key hold the same data. -/
def Unambiguous {κ α β : Type} (observed : List α) (key : α → κ) (seen : α → β) : Prop :=
  ∀ x ∈ observed, ∀ y ∈ observed, key x = key y → seen x = seen y

/-- **A comparison is complete exactly over a list that does not contradict
itself.** -/
theorem Compared.complete_iff {κ ν α β : Type} [DecidableEq κ] {replayed : OrderedMap κ ν}
    {data : ν → β} {observed : List α} {key : α → κ} {seen : α → β}
    (h : Compared replayed data observed key seen) :
    Complete replayed data observed key seen ↔ Unambiguous observed key seen := by
  constructor
  · intro hcomplete x hx y hy hkey
    have hx' := hcomplete.element x hx
    rw [hkey, hcomplete.element y hy] at hx'
    exact (Option.some_injective _ hx').symm
  · intro hsame
    constructor
    · intro x hx
      obtain ⟨v, hv⟩ := OrderedMap.has_iff.mp (h.keys x hx)
      have hsome : ∃ y ∈ observed, key y = key x ∧ lastWith key observed (key x) = some y :=
        exists_lastWith hx
      obtain ⟨y, hy, hkey, hlast⟩ := hsome
      have hdata := h.last (key x) v hv
      rw [hlast, Option.map_some] at hdata
      rw [hv, Option.map_some, ← hdata, hsame y hy x hx hkey]
    · intro k
      constructor
      · intro hk
        obtain ⟨v, hv⟩ := OrderedMap.has_iff.mp (OrderedMap.mem_keys.mp hk)
        have hdata := h.last k v hv
        obtain ⟨x, hx, _⟩ := Option.map_eq_some_iff.mp hdata
        obtain ⟨hmem, hkey⟩ := mem_of_lastWith hx
        rw [← hkey]
        exact List.mem_map_of_mem hmem
      · intro hk
        obtain ⟨x, hx, rfl⟩ := List.mem_map.mp hk
        exact OrderedMap.mem_keys.mpr (h.keys x hx)

/-! ## The parts of a clean reconciliation -/

def IndexedPosition.data (position : IndexedPosition) : ℤ × ℤ × ℤ :=
  (position.rawTrfl, position.correction, position.claimed)

def ObservedPosition.data (position : ObservedPosition) : ℤ × ℤ × ℤ :=
  (position.rawTrfl, position.correction, position.claimed)

def IndexedLpPosition.data (position : IndexedLpPosition) : ℤ × ℤ × ℤ :=
  (position.shares, position.correction, position.claimed)

def ObservedLpPosition.data (position : ObservedLpPosition) : ℤ × ℤ × ℤ :=
  (position.shares, position.correction, position.claimed)

/-- An observed epoch agrees with the replayed one in every field compared. -/
structure ObservedLpEpoch.Agrees (observed : ObservedLpEpoch) (expected : IndexedLpEpoch) :
    Prop where
  stateId : observed.stateId = expected.stateId
  rewardVault : observed.rewardVault = expected.rewardVault
  rewardVaultBalance : expectedLpVaultBalance expected = .ok observed.rewardVaultBalance
  indexedLiability : lpIndexedLiability expected = .ok observed.indexedLiability
  status : observed.status = expected.status
  index : observed.index = expected.index
  indexRemainder : observed.indexRemainder = expected.indexRemainder
  totalShares : observed.totalShares = expected.totalShares
  aggregateCorrection : observed.aggregateCorrection = expected.aggregateCorrection
  unallocatedRewards : observed.unallocatedRewards = expected.unallocatedRewards
  roundingReserve : observed.roundingReserve = expected.roundingReserve
  terminalRoundingBaseUnits :
    observed.terminalRoundingBaseUnits = expected.terminalRoundingBaseUnits.getD 0
  retiredResidueMagnified : observed.retiredResidueMagnified = expected.retiredResidueMagnified
  lifetimeReceived : observed.lifetimeReceived = expected.lifetimeReceived
  lifetimeClaimed : observed.lifetimeClaimed = expected.lifetimeClaimed
  quarantined : observed.quarantined = expected.quarantined

theorem LpEpochStatus.shown_injective : Function.Injective LpEpochStatus.shown := by
  intro s t h
  cases s <;> cases t <;> simp_all [LpEpochStatus.shown]

section Clean

variable {now : ℤ} {cursor : Option EventCursor} {projection : ProtocolProjection}
  {observed : ObservedAccountingSnapshot}

/-- The sets of registered wallets, in both directions. -/
theorem registrations_complete (h : registrationsMatch projection observed = true)
    (account : Address) :
    account ∈ projection.registeredWallets.keys ↔ account ∈ observed.registeredWalletAccounts := by
  unfold registrationsMatch at h
  simp only [decide_eq_true_eq] at h
  obtain ⟨_, _, _, hsize, hsubset⟩ := h
  refine ⟨hsubset account, ?_⟩
  intro hmem
  -- The replayed accounts are as many as the observed ones, all of them among these.
  have hincluded : projection.registeredWallets.keys.toFinset
      ⊆ observed.registeredWalletAccounts.toFinset := by
    intro a ha
    rw [List.mem_toFinset] at ha ⊢
    exact hsubset a ha
  have hcard : observed.registeredWalletAccounts.toFinset.card
      ≤ projection.registeredWallets.keys.toFinset.card := by
    rw [List.card_toFinset, List.toFinset_card_of_nodup projection.registeredWallets.nodup_keys,
      ← OrderedMap.size_eq, hsize]
  have heq := Finset.eq_of_subset_of_card_le hincluded hcard
  rw [← List.mem_toFinset, heq, List.mem_toFinset]
  exact hmem

theorem positions_compared (h : Clean (reconcilePositions now cursor projection observed) () () ()) :
    Compared projection.positions IndexedPosition.data observed.positions ObservedPosition.account
      ObservedPosition.data := by
  unfold reconcilePositions at h
  simp only [clean_compare_bind, clean_raiseIf] at h
  obtain ⟨_, hlast, hkeys⟩ := h
  rw [clean_forEach_compare fun x _ => clean_raiseIf] at hlast hkeys
  constructor
  · intro account position hposition
    exact not_not.mp (hlast (account, position) (OrderedMap.mem_entries.mpr hposition))
  · intro x hx
    by_contra hnot
    have hkey : x.account ∈ (mapOf (observed.positions.map
        fun position => (position.account, position))).keys := by
      rw [mem_keys_listed]
      exact List.mem_map_of_mem hx
    exact hkeys x.account (List.mem_filter.mpr ⟨hkey, by simpa using hnot⟩) trivial

theorem lpPositions_compared {epoch : ObservedLpEpoch} {expected : IndexedLpEpoch}
    {replayedAccounts observedAccounts : List Address}
    (h : Clean (compareLpPositions now cursor epoch expected replayedAccounts observedAccounts)
      () () ()) :
    Compared expected.positions IndexedLpPosition.data epoch.positions ObservedLpPosition.owner
      ObservedLpPosition.data := by
  unfold compareLpPositions at h
  simp only [clean_compare_bind] at h
  obtain ⟨hlast, _, hkeys⟩ := h
  rw [clean_forEach_compare fun x _ => clean_raiseIf] at hkeys
  have hpair : ∀ x ∈ expected.positions.entries,
      (lastWith ObservedLpPosition.owner epoch.positions x.1).map ObservedLpPosition.data
        = some x.2.data := by
    intro x hx
    rw [clean_forEach_compare fun x _ => clean_compare_bind] at hlast
    have hdata := (hlast x hx).2
    rw [clean_raiseIf, not_not] at hdata
    exact hdata
  constructor
  · intro owner position hposition
    exact hpair (owner, position) (OrderedMap.mem_entries.mpr hposition)
  · intro x hx
    by_contra hnot
    have hkey : x.owner ∈ (mapOf (epoch.positions.map
        fun position => (position.owner, position))).keys := by
      rw [mem_keys_listed]
      exact List.mem_map_of_mem hx
    exact hkeys x.owner (List.mem_filter.mpr ⟨hkey, by simpa using hnot⟩) trivial

/-- The value of an attempt, then the rest. -/
theorem clean_attempt_bind {α β : Type} {x : Except Text α} {f : α → Reconciling β} {b : β} :
    Clean (attempt x >>= f) () b () ↔ ∃ a, x = .ok a ∧ Clean (f a) () b () := by
  rw [clean_bind]
  constructor
  · rintro ⟨a, _, ha, h⟩
    exact ⟨a, ((clean_attempt ..).mp ha).1, h⟩
  · rintro ⟨a, ha, h⟩
    exact ⟨a, (), (clean_attempt ..).mpr ⟨ha, rfl⟩, h⟩

theorem ObservedLpEpoch.compared_eq {epoch : ObservedLpEpoch} {expected : IndexedLpEpoch}
    (h : epoch.compared = expected.compared) :
    epoch.status = expected.status ∧ epoch.index = expected.index
      ∧ epoch.indexRemainder = expected.indexRemainder ∧ epoch.totalShares = expected.totalShares
      ∧ epoch.aggregateCorrection = expected.aggregateCorrection
      ∧ epoch.unallocatedRewards = expected.unallocatedRewards
      ∧ epoch.roundingReserve = expected.roundingReserve
      ∧ epoch.terminalRoundingBaseUnits = expected.terminalRoundingBaseUnits.getD 0
      ∧ epoch.retiredResidueMagnified = expected.retiredResidueMagnified
      ∧ epoch.lifetimeReceived = expected.lifetimeReceived
      ∧ epoch.lifetimeClaimed = expected.lifetimeClaimed
      ∧ epoch.quarantined = expected.quarantined := by
  simp only [ObservedLpEpoch.compared, IndexedLpEpoch.compared, List.cons.injEq,
    Fragment.int.injEq, Fragment.bool.injEq, and_true] at h
  exact ⟨LpEpochStatus.shown_injective h.1, h.2⟩

/-- An observed epoch, all of it. -/
theorem compareLpEpoch_clean {epoch : ObservedLpEpoch} {replayedAccounts observedAccounts : List Address}
    {result : Option LpReconciliationResult}
    (h : Clean (compareLpEpoch now cursor projection epoch replayedAccounts observedAccounts)
      () result ()) :
    ∃ expected, projection.lpEpochs.get? epoch.epoch = some expected ∧ epoch.Agrees expected ∧
      Compared expected.positions IndexedLpPosition.data epoch.positions
        ObservedLpPosition.owner ObservedLpPosition.data := by
  unfold compareLpEpoch at h
  rcases hexpected : projection.lpEpochs.get? epoch.epoch with _ | expected
  · simp only [hexpected, clean_compare_bind, clean_raiseIf, not_true_eq_false, false_and] at h
  · simp only [hexpected, clean_attempt_bind, clean_compare_bind, clean_raiseIf, not_not] at h
    obtain ⟨liability, hliability, balance, hbalance, hvault, hstate, hvaultBalance, hindexed,
      _, _, _, _, _, hcompared, hpositions, _⟩ := h
    obtain ⟨h₁, h₂, h₃, h₄, h₅, h₆, h₇, h₈, h₉, h₁₀, h₁₁, h₁₂⟩ :=
      ObservedLpEpoch.compared_eq hcompared
    rw [← hvaultBalance] at hbalance
    rw [← hindexed] at hliability
    exact ⟨expected, rfl, ⟨hstate, hvault, hbalance, hliability, h₁, h₂, h₃, h₄, h₅, h₆, h₇, h₈,
      h₉, h₁₀, h₁₁, h₁₂⟩, lpPositions_compared hpositions⟩

theorem compareLpEpochs_clean {epochs : List ObservedLpEpoch}
    {replayedAccounts observedAccounts : List Address} {results : List LpReconciliationResult}
    (h : Clean (compareLpEpochs now cursor projection replayedAccounts observedAccounts epochs)
      () results ()) :
    ∀ epoch ∈ epochs, ∃ expected, projection.lpEpochs.get? epoch.epoch = some expected ∧
      epoch.Agrees expected ∧ Compared expected.positions IndexedLpPosition.data epoch.positions
        ObservedLpPosition.owner ObservedLpPosition.data := by
  induction epochs generalizing results with
  | nil => simp
  | cons epoch epochs ih =>
      rw [compareLpEpochs, clean_bind] at h
      obtain ⟨result, _, hepoch, h⟩ := h
      rw [clean_bind] at h
      obtain ⟨rest, _, hrest, _⟩ := h
      rw [List.forall_mem_cons]
      exact ⟨compareLpEpoch_clean hepoch, ih hrest⟩

/-- The numbers of the epochs, in both directions. -/
theorem epochs_compared {results : List LpReconciliationResult}
    (h : Clean (reconcileEpochs now cursor projection observed) () results ()) :
    (∀ k, k ∈ projection.lpEpochs.keys ↔ k ∈ observed.lpEpochs.map ObservedLpEpoch.epoch) ∧
      ∀ epoch ∈ observed.lpEpochs, ∃ expected,
        projection.lpEpochs.get? epoch.epoch = some expected ∧ epoch.Agrees expected ∧
        Compared expected.positions IndexedLpPosition.data epoch.positions
          ObservedLpPosition.owner ObservedLpPosition.data := by
  unfold reconcileEpochs at h
  simp only [clean_compare_bind] at h
  obtain ⟨_, hmissing, hepochs⟩ := h
  rw [clean_forEach_compare fun x _ => clean_raiseIf] at hmissing
  have hall := compareLpEpochs_clean hepochs
  refine ⟨?_, hall⟩
  intro k
  constructor
  · intro hk
    exact not_not.mp (hmissing k hk)
  · intro hk
    obtain ⟨epoch, hepoch, rfl⟩ := List.mem_map.mp hk
    obtain ⟨expected, hexpected, _⟩ := hall epoch hepoch
    exact OrderedMap.mem_keys.mpr (OrderedMap.has_iff.mpr ⟨expected, hexpected⟩)

end Clean

/-! ## Completeness -/

/-- An observation agrees with the replayed books, element by element and key by
key. -/
structure AgreesThroughout (projection : ProtocolProjection)
    (observed : ObservedAccountingSnapshot) : Prop where
  positions : Complete projection.positions IndexedPosition.data observed.positions
    ObservedPosition.account ObservedPosition.data
  epochs : ∀ epoch ∈ observed.lpEpochs, ∃ expected,
    projection.lpEpochs.get? epoch.epoch = some expected ∧ epoch.Agrees expected ∧
      Complete expected.positions IndexedLpPosition.data epoch.positions
        ObservedLpPosition.owner ObservedLpPosition.data
  epochKeys : ∀ k, k ∈ projection.lpEpochs.keys ↔ k ∈ observed.lpEpochs.map ObservedLpEpoch.epoch
  wallets : ∀ account, account ∈ projection.registeredWallets.keys ↔
    account ∈ observed.registeredWalletAccounts

/-- No list of positions names one wallet or owner with two contents. -/
structure ObservedAccountingSnapshot.Unambiguous (observed : ObservedAccountingSnapshot) :
    Prop where
  positions : indexer.Unambiguous observed.positions ObservedPosition.account ObservedPosition.data
  epochs : ∀ epoch ∈ observed.lpEpochs, indexer.Unambiguous epoch.positions
    ObservedLpPosition.owner ObservedLpPosition.data

namespace Sample

/-- Spellings are only sorted by, in a message. -/
@[reducible] def spelling : Spelling := ⟨fun _ => "0x1"⟩

/-- The books after the launch, with an empty wallet position. -/
def books : ProtocolProjection :=
  (accepted createEmptyProjection
    (launch ++ [event 7 9 "7:9" (.PositionCreated (.account 1))])).getD createEmptyProjection

/-- What the chain shows then, with a list of positions. -/
def views (positions : List ObservedPosition) : ObservedAccountingSnapshot :=
  { chainId := 2
    ledgerVersion := 7
    deploymentId := "cedra-reflect"
    networkLabel := "cedra-testnet"
    tokenMetadata := .metadata .trfl
    protocolExclusionsRemaining := 0
    registeredWalletCount := 1
    registeredWalletAccounts := [.account 1]
    automaticMaterialization := true
    lifecycle := some .LIVE
    reflectionFeeBps := some 100
    rewardVault := .reward_vault
    rewardVaultBalance := 0
    reflectionLiability := 0
    currentIndex := 0
    indexRemainder := 0
    eligibleSupply := 500_000_000
    aggregateCorrection := 0
    unallocatedFees := 0
    roundingReserve := 0
    lifetimeSwapFees := 0
    lifetimeMaterialized := 0
    lifetimeCustodyRouted := 0
    custodyAdapterId := 1
    custodyReserveStore := .rfl_reserve
    poolRflReserveStore := .rfl_reserve
    poolUsdReserveStore := .usd_reserve
    mockUsdPoolReserve := .usd_reserve
    custodyReserveBalance := 500_000_000
    custodyShares := 500_000_000
    custodyCorrection := 0
    custodyClaimed := 0
    custodyPendingRewards := 0
    custodyActiveRouteEpoch := 1
    custodyActiveLpRewardVault := .lp_reward_vault
    trflReserve := 500_000_000
    tusdReserve := 500_000_000
    ammFeeBps := 30
    maximumGrossSwap := 100_000_000_000
    maximumReserveBps := 2_000
    maximumRflContribution := 100_000_000_000
    maximumTusdContribution := 100_000_000_000
    maximumNonFinalWithdrawalShareBps := 10_000
    activeLpEpoch := some 1
    lpEpochs :=
      [ { epoch := 1
          stateId := .lp_epoch_state
          status := .active
          rewardVault := .lp_reward_vault
          rewardVaultBalance := 0
          index := 0
          indexRemainder := 0
          totalShares := 500_000_000
          aggregateCorrection := 0
          unallocatedRewards := 0
          roundingReserve := 0
          terminalRoundingBaseUnits := 0
          retiredResidueMagnified := 0
          lifetimeReceived := 0
          lifetimeClaimed := 0
          quarantined := false
          indexedLiability := 0
          positions := [⟨.account 1, 500_000_000, 0, 0⟩] } ]
    positions
    packageVersion := "testnet-v0.2.0"
    swapsPaused := false
    claimsPaused := false
    faucetPaused := false
    faucetTrflGrant := 1_000_000_000
    faucetTusdGrant := 1_000_000_000
    faucetCooldownSeconds := 3_600
    poolPaused := false
    liquidityPaused := false
    lpClaimsPaused := false
    shutdownMode := false
    poolSeeded := true
    coreOperationalAdmin := none
    faucetOperationalAdmin := none
    ammOperationalAdmin := none }

theorem sorted :
    sortEvents (launch ++ [event 7 9 "7:9" (.PositionCreated (.account 1))])
      = launch ++ [event 7 9 "7:9" (.PositionCreated (.account 1))] :=
  sortEvents_of_pairwise (by decide)

theorem reconciled_of_map {x : Except Text ReconciliationReport}
    (h : (x.map fun report => report.reconciled).toOption = some true) :
    ∃ report, x = .ok report ∧ report.reconciled = true := by
  rcases x with thrown | report
  · simp [Except.map, Except.toOption] at h
  · exact ⟨report, rfl, by simpa [Except.map, Except.toOption] using h⟩

end Sample

/-- **What a reconciled report is worth.** The observation agrees with the
replayed books throughout if and only if none of its lists of positions
contradicts itself: of several elements with one key the last one is compared. -/
theorem reconciled_iff_unambiguous [Spelling] {now : ℤ} {cursor : Option EventCursor}
    {projection : ProtocolProjection} {observed : ObservedAccountingSnapshot}
    {report : ReconciliationReport} (hreport : reconcile now cursor projection observed = .ok report)
    (hreconciled : report.reconciled = true) :
    AgreesThroughout projection observed ↔ observed.Unambiguous := by
  unfold reconcile at hreport
  simp only [bind_eq_ok] at hreport
  obtain ⟨vault, _, liability, _, pending, _, hreport⟩ := hreport
  by_cases hversion : cursor.map (fun cursor => cursor.ledgerVersion) ≠ some observed.ledgerVersion
  · rw [if_pos hversion, pure_eq_ok] at hreport
    rw [hreport] at hreconciled
    exact absurd hreconciled (by simp)
  · rw [if_neg hversion] at hreport
    rcases hbooks : reconcileBooks now cursor projection observed vault liability pending () with
      ⟨alerts, thrown | ⟨lpEpochs, ⟨⟩⟩⟩
    · simp [hbooks] at hreport
    · simp only [hbooks, pure_eq_ok] at hreport
      -- A report is reconciled when nothing was filed.
      have halerts : alerts = [] := by
        rw [hreport] at hreconciled
        exact List.isEmpty_iff.mp hreconciled
      rw [halerts] at hbooks
      have hclean : Clean (reconcileBooks now cursor projection observed vault liability pending)
          () lpEpochs () := hbooks
      unfold reconcileBooks at hclean
      simp only [clean_compare_bind] at hclean
      obtain ⟨_, hregistrations, _, _, _, _, hpositions, hrest⟩ := hclean
      rw [clean_bind] at hrest
      obtain ⟨results, _, hepochs, _⟩ := hrest
      unfold reconcileRegistrations at hregistrations
      rw [clean_raiseIf, Bool.not_eq_false] at hregistrations
      have hwallets := registrations_complete hregistrations
      have hcompared := positions_compared hpositions
      obtain ⟨hkeys, hall⟩ := epochs_compared hepochs
      constructor
      · intro h
        refine ⟨hcompared.complete_iff.mp h.positions, ?_⟩
        intro epoch hepoch
        obtain ⟨expected, hexpected, _, hcomplete⟩ := h.epochs epoch hepoch
        obtain ⟨expected', hexpected', _, hcompared'⟩ := hall epoch hepoch
        obtain rfl := Option.some_injective _ (hexpected.symm.trans hexpected')
        exact hcompared'.complete_iff.mp hcomplete
      · intro h
        refine ⟨hcompared.complete_iff.mpr h.positions, ?_, hkeys, hwallets⟩
        intro epoch hepoch
        obtain ⟨expected, hexpected, hagrees, hcompared'⟩ := hall epoch hepoch
        exact ⟨expected, hexpected, hagrees, hcompared'.complete_iff.mpr (h.epochs epoch hepoch)⟩

theorem reconciled_iff_unambiguous_launched :
    AgreesThroughout Sample.books (Sample.views [⟨.account 1, 0, 0, 0⟩]) ↔
      (Sample.views [⟨.account 1, 0, 0, 0⟩]).Unambiguous := by
  obtain ⟨report, hreport, hreconciled⟩ := Sample.reconciled_of_map
    (x := @reconcile 1_000 (some ⟨7, 9⟩) Sample.spelling Sample.books
      (Sample.views [⟨.account 1, 0, 0, 0⟩])) (by
      unfold Sample.books accepted reduceEventGroup
      rw [Sample.sorted]
      decide +kernel)
  exact @reconciled_iff_unambiguous Sample.spelling _ _ _ _ _ hreport hreconciled

/-- A wallet that is listed with five units and then without: the report is
reconciled, and the books and the chain do not agree. -/
theorem reconciled_despite_duplicate :
    ∃ report, @reconcile 1_000 (some ⟨7, 9⟩) Sample.spelling Sample.books
        (Sample.views [⟨.account 1, 5, 0, 0⟩, ⟨.account 1, 0, 0, 0⟩]) = .ok report ∧
      report.reconciled = true ∧
      ¬ AgreesThroughout Sample.books
        (Sample.views [⟨.account 1, 5, 0, 0⟩, ⟨.account 1, 0, 0, 0⟩]) := by
  obtain ⟨report, hreport, hreconciled⟩ := Sample.reconciled_of_map
    (x := @reconcile 1_000 (some ⟨7, 9⟩) Sample.spelling Sample.books
      (Sample.views [⟨.account 1, 5, 0, 0⟩, ⟨.account 1, 0, 0, 0⟩])) (by
      unfold Sample.books accepted reduceEventGroup
      rw [Sample.sorted]
      decide +kernel)
  refine ⟨report, hreport, hreconciled, ?_⟩
  intro hagrees
  have helement := hagrees.positions.element ⟨.account 1, 5, 0, 0⟩ (by decide)
  revert helement
  unfold Sample.books accepted reduceEventGroup
  rw [Sample.sorted]
  decide +kernel

end CedraReflect.indexer
