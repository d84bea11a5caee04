/-
The books of a replayed history.

What every event keeps ([`balanced_of_clean`]) and what the end of every group
compares ([`Closes`]) together settle the books of any history that replays,
wherever its events come from. The one event that can break them is the first
release's initialization, which sets the index by hand: a deployment of release
0.2 accepts one only under the name that stands for no release at all.
-/
import CedraReflect.Identities

set_option autoImplicit false
set_option linter.constructorNameAsVariable false

namespace CedraReflect.indexer

open Audited

/-! ## Initializations -/

/-- An initialization names a release. -/
def NamesRelease (event : ProtocolEvent) : Prop :=
  ∀ initialized, event.body = .ProtocolInitialized initialized →
    initialized.packageVersion ≠ "uninitialized"

def CreatesToken (event : ProtocolEvent) : Prop := ∃ created, event.body = .TokenCreated created

def Initializes (event : ProtocolEvent) : Prop :=
  ∃ initialized, event.body = .ProtocolInitialized initialized

section Versions

variable {prior : ProtocolProjection} {all xs : List ProtocolEvent} {event : ProtocolEvent}
  {c c' : Context}

/-- Other events leave the release alone. -/
theorem version_of_clean (hinitialized : ¬ Initializes event) (hcreated : ¬ CreatesToken event)
    (h : Clean (replayEvent prior all event) c () c') :
    c'.next.packageVersion = c.next.packageVersion := by
  by_cases hconfiguration : event.body.isConfiguration = true
  · exact (configures_of_clean hconfiguration (not_exists.mp hinitialized) h).version
      (not_exists.mp hcreated)
  · rw [Bool.not_eq_true] at hconfiguration
    exact congrArg Settings.packageVersion (settings_of_accounting hconfiguration h)

/-- The two events that name a release find none. -/
theorem unnamed_of_clean (hnames : Initializes event ∨ CreatesToken event)
    (h : Clean (replayEvent prior all event) c () c') : c.next.packageVersion = "uninitialized" := by
  unfold replayEvent at h
  obtain ⟨initialized, hbody⟩ | ⟨created, hbody⟩ := hnames
  · simp only [hbody] at h
    exact (clean_protocolInitialized h).1
  · simp only [hbody] at h
    exact (clean_tokenCreated h).1

/-- Once a release is named, it stays, and nothing names another. -/
theorem named_run (hnamed : c.next.packageVersion ≠ "uninitialized")
    (h : Clean (forEach xs (replayEvent prior all)) c () c') :
    (∀ event ∈ xs, ¬ Initializes event ∧ ¬ CreatesToken event)
      ∧ c'.next.packageVersion ≠ "uninitialized" := by
  induction xs generalizing c with
  | nil =>
      obtain rfl := (clean_forEach_nil _ _ _ _).mp h
      exact ⟨by simp, hnamed⟩
  | cons event xs ih =>
      obtain ⟨c₁, hevent, hrest⟩ := (clean_forEach_cons _ _ _ _ _ _).mp h
      have hneither : ¬ (Initializes event ∨ CreatesToken event) := by
        intro hnames
        exact hnamed (unnamed_of_clean hnames hevent)
      rw [not_or] at hneither
      have hsame := version_of_clean hneither.1 hneither.2 hevent
      obtain ⟨hall, hlast⟩ := ih (by rw [hsame]; exact hnamed) hrest
      refine ⟨?_, hlast⟩
      rw [List.forall_mem_cons]
      exact ⟨hneither, hall⟩

/-- **A group that creates the token initializes nothing else**, unless under
the name that stands for no release. -/
theorem created_run (hnames : ∀ event ∈ xs, NamesRelease event)
    (hcreated : ∃ event ∈ xs, CreatesToken event)
    (h : Clean (forEach xs (replayEvent prior all)) c () c') :
    (∀ event ∈ xs, ¬ Initializes event) ∧ c'.next.packageVersion ≠ "uninitialized" := by
  induction xs generalizing c with
  | nil => exact absurd hcreated (by simp)
  | cons event xs ih =>
      obtain ⟨c₁, hevent, hrest⟩ := (clean_forEach_cons _ _ _ _ _ _).mp h
      rw [List.forall_mem_cons] at hnames
      have hclean := hevent
      unfold replayEvent at hclean
      by_cases hinitialized : Initializes event
      · -- The release is named, and the token is still to come.
        obtain ⟨initialized, hbody⟩ := hinitialized
        simp only [hbody] at hclean
        have hversion := (clean_protocolInitialized hclean).2.1
        have hlater := named_run (by rw [hversion]; exact hnames.1 initialized hbody) hrest
        obtain ⟨creating, hmem, hcreates⟩ := hcreated
        rcases List.mem_cons.mp hmem with rfl | hmem
        · obtain ⟨created, hother⟩ := hcreates
          rw [hbody] at hother
          exact absurd hother (by simp)
        · exact absurd hcreates (hlater.1 creating hmem).2
      · by_cases hcreates : CreatesToken event
        · obtain ⟨created, hbody⟩ := hcreates
          simp only [hbody] at hclean
          have hversion := (clean_tokenCreated hclean).2
          have hlater := named_run (by rw [hversion]; decide) hrest
          refine ⟨?_, hlater.2⟩
          rw [List.forall_mem_cons]
          exact ⟨hinitialized, fun other hother => (hlater.1 other hother).1⟩
        · have hremaining : ∃ event ∈ xs, CreatesToken event := by
            obtain ⟨creating, hmem, hthis⟩ := hcreated
            rcases List.mem_cons.mp hmem with rfl | hmem
            · exact absurd hthis hcreates
            · exact ⟨creating, hmem, hthis⟩
          obtain ⟨hall, hlast⟩ := ih hnames.2 hremaining hrest
          refine ⟨?_, hlast⟩
          rw [List.forall_mem_cons]
          exact ⟨hinitialized, hall⟩

end Versions

/-! ## Groups -/

/-- What the events of a list retire of the custody's accumulator. -/
def retiredResidue (events : List ProtocolEvent) : ℤ :=
  (events.map fun event => event.body.retired).sum

theorem retiredResidue_append (xs ys : List ProtocolEvent) :
    retiredResidue (xs ++ ys) = retiredResidue xs + retiredResidue ys := by
  unfold retiredResidue
  rw [List.map_append, List.sum_append]

/-- **The run lemma.** -/
theorem balanced_run {prior : ProtocolProjection} {all xs : List ProtocolEvent} {c c' : Context}
    {retired : ℤ} (h : c.Balanced retired) (hinitialized : ∀ event ∈ xs, ¬ Initializes event)
    (hclean : Clean (forEach xs (replayEvent prior all)) c () c') :
    c'.Balanced (retired + retiredResidue xs) := by
  induction xs generalizing c retired with
  | nil =>
      obtain rfl := (clean_forEach_nil _ _ _ _).mp hclean
      rw [retiredResidue, List.map_nil, List.sum_nil, add_zero]
      exact h
  | cons event xs ih =>
      obtain ⟨c₁, hevent, hrest⟩ := (clean_forEach_cons _ _ _ _ _ _).mp hclean
      rw [List.forall_mem_cons] at hinitialized
      have hstep := balanced_of_clean h (not_exists.mp hinitialized.1) hevent
      have hrun := ih hstep hinitialized.2 hrest
      rw [retiredResidue, List.map_cons, List.sum_cons, ← add_assoc]
      exact hrun

/-- The books of a projection close, as they do at the end of every group. -/
structure ProtocolProjection.Closed (projection : ProtocolProjection) : Prop where
  core : CoreCloses projection projection.roundingReserve
  epochs : ∀ epoch ∈ projection.lpEpochs.values,
    EpochCloses projection.registeredWallets epoch

theorem closed_empty : createEmptyProjection.Closed := by
  refine ⟨⟨rfl, rfl, rfl, fun hadapter => absurd rfl hadapter, 0, 0, rfl, rfl, ?_, ?_, rfl⟩, ?_⟩
  · show (0 : ℤ) ≤ 0 ∧ (0 : ℤ) ≤ 2 ^ 256 - 1
    norm_num
  · exact le_refl 0
  · intro epoch hepoch
    exact absurd hepoch List.not_mem_nil

/-- **An accepted group keeps the identities and closes the books.** -/
theorem balanced_of_accepted {prior next : ProtocolProjection} {transaction : List ProtocolEvent}
    {retired : ℤ} (hbalanced : prior.books.Balanced 0 retired) (hclosed : prior.Closed)
    (hinitialized : ∀ event ∈ transaction, ¬ Initializes event)
    (h : accepted prior transaction = some next) :
    next.books.Balanced 0 (retired + retiredResidue transaction) ∧ next.Closed := by
  have hperm : (sortEvents transaction).Perm transaction := List.mergeSort_perm transaction _
  have hretired : retiredResidue transaction = retiredResidue (sortEvents transaction) := by
    unfold retiredResidue
    exact (hperm.map _).sum_eq.symm
  rw [hretired]
  obtain ⟨hempty, rfl⟩ | ⟨first, rest, replayed, closed, hsorted, haccepts, rfl⟩ :=
    accepted_eq_some.mp h
  · rw [hempty, retiredResidue, List.map_nil, List.sum_nil, add_zero]
    exact ⟨hbalanced, hclosed⟩
  · have hall : ∀ event ∈ first :: rest, ¬ Initializes event := by
      intro event hevent
      rw [← hsorted] at hevent
      exact hinitialized event (hperm.mem_iff.mp hevent)
    have hrun := balanced_run (c := .initial prior) hbalanced hall haccepts.events
    have hcloses := clean_closingChecks haccepts.books
    rw [hsorted]
    -- What is left waiting is set aside: the sum moves from one term to the other.
    have hindexed := hrun.indexed
    have hnext := hcloses.next
    have hbooks : closed.next.books.Balanced 0 (retired + retiredResidue (first :: rest)) := by
      rw [hnext]
      refine ⟨?_, hrun.wallets, hrun.custody, hrun.materialized, hrun.routed, hrun.epochs⟩
      unfold Context.waiting at hindexed
      show _ + REFLECTION_MAGNITUDE * (replayed.next.unallocatedFees + _ + 0) + _ = _
      rw [add_zero]
      exact hindexed
    constructor
    · exact ⟨hbooks.indexed, hbooks.wallets, hbooks.custody, hbooks.materialized, hbooks.routed,
        hbooks.epochs⟩
    · refine ⟨?_, hcloses.epochs⟩
      have hcore := hcloses.core
      exact ⟨hcore.shares, hcore.correction, hcore.reserve, hcore.route, hcore.rounding⟩

/-! ## Histories -/

/-- A group that finds a release or creates the token leaves one, and initializes
nothing. -/
theorem uninitialized_of_accepted {prior next : ProtocolProjection}
    {transaction : List ProtocolEvent} (hnames : ∀ event ∈ transaction, NamesRelease event)
    (hstart : prior.packageVersion ≠ "uninitialized" ∨ ∃ event ∈ transaction, CreatesToken event)
    (h : accepted prior transaction = some next) :
    (∀ event ∈ transaction, ¬ Initializes event) ∧ next.packageVersion ≠ "uninitialized" := by
  have hperm : (sortEvents transaction).Perm transaction := List.mergeSort_perm transaction _
  obtain ⟨hempty, rfl⟩ | ⟨first, rest, replayed, closed, hsorted, haccepts, rfl⟩ :=
    accepted_eq_some.mp h
  · have hnil : transaction = [] := by
      rw [hempty] at hperm
      exact List.nil_perm.mp hperm
    subst hnil
    refine ⟨by simp, hstart.resolve_right (by simp)⟩
  · rw [hsorted] at hperm
    have hrun : (∀ event ∈ first :: rest, ¬ Initializes event)
        ∧ replayed.next.packageVersion ≠ "uninitialized" := by
      rcases hstart with hnamed | ⟨event, hevent, hcreates⟩
      · obtain ⟨hall, hlast⟩ := named_run (c := .initial prior) hnamed haccepts.events
        exact ⟨fun event hevent => (hall event hevent).1, hlast⟩
      · refine created_run (fun event hevent => hnames event (hperm.mem_iff.mp hevent)) ?_
          haccepts.events
        exact ⟨event, hperm.mem_iff.mpr hevent, hcreates⟩
    refine ⟨fun event hevent => hrun.1 event (hperm.mem_iff.mpr hevent), ?_⟩
    show closed.next.packageVersion ≠ "uninitialized"
    rw [(clean_closingChecks haccepts.books).next]
    exact hrun.2

/-- A history that creates the token at its start and names its releases
initializes nothing. -/
theorem uninitialized_of_replayed {history : List (List ProtocolEvent)}
    {projection : ProtocolProjection} (h : replayed history = some projection)
    (hcreated : ∀ first ∈ history.head?, ∃ event ∈ first, CreatesToken event)
    (hnames : ∀ event ∈ history.flatten, NamesRelease event) :
    ∀ event ∈ history.flatten, ¬ Initializes event := by
  have hboth : (∀ event ∈ history.flatten, ¬ Initializes event)
      ∧ (history ≠ [] → projection.packageVersion ≠ "uninitialized") := by
    revert hcreated hnames
    refine replayed_induction (P := fun history projection =>
      (∀ first ∈ history.head?, ∃ event ∈ first, CreatesToken event) →
      (∀ event ∈ history.flatten, NamesRelease event) →
        (∀ event ∈ history.flatten, ¬ Initializes event)
          ∧ (history ≠ [] → projection.packageVersion ≠ "uninitialized")) ?_ ?_ h
    · intro _ _
      exact ⟨by simp, fun hne => absurd rfl hne⟩
    · intro history transaction prior next ih haccepted hcreated hnames
      rw [List.flatten_append, List.flatten_singleton] at hnames ⊢
      have hbefore := ih (fun first hfirst => hcreated first (by
        rcases history with _ | ⟨head, tail⟩
        · simp at hfirst
        · exact hfirst)) fun event hevent => hnames event (List.mem_append_left _ hevent)
      have hgroup : (∀ event ∈ transaction, ¬ Initializes event)
          ∧ next.packageVersion ≠ "uninitialized" := by
        refine uninitialized_of_accepted
          (fun event hevent => hnames event (List.mem_append_right _ hevent)) ?_ haccepted
        rcases history with _ | ⟨head, tail⟩
        · exact Or.inr (hcreated transaction rfl)
        · exact Or.inl (hbefore.2 (by simp))
      refine ⟨?_, fun _ => hgroup.2⟩
      intro event hevent
      rcases List.mem_append.mp hevent with hevent | hevent
      · exact hbefore.1 event hevent
      · exact hgroup.1 event hevent
  exact hboth.1

/-- **The identities hold after every group.** -/
theorem balanced_of_replayed {history : List (List ProtocolEvent)}
    {projection : ProtocolProjection} (h : replayed history = some projection)
    (hinitialized : ∀ event ∈ history.flatten, ¬ Initializes event) :
    projection.books.Balanced 0 (retiredResidue history.flatten) ∧ projection.Closed := by
  revert hinitialized
  refine replayed_induction (P := fun history projection =>
    (∀ event ∈ history.flatten, ¬ Initializes event) →
      projection.books.Balanced 0 (retiredResidue history.flatten) ∧ projection.Closed) ?_ ?_ h
  · intro _
    exact ⟨balanced_empty, closed_empty⟩
  · intro history transaction prior next ih haccepted hinitialized
    rw [List.flatten_append, List.flatten_singleton] at hinitialized ⊢
    obtain ⟨hbalanced, hclosed⟩ :=
      ih fun event hevent => hinitialized event (List.mem_append_left _ hevent)
    rw [retiredResidue_append]
    exact balanced_of_accepted hbalanced hclosed
      (fun event hevent => hinitialized event (List.mem_append_right _ hevent)) haccepted

/-! ## What the identities say of the rewards -/

/-- The books of an epoch account for every unit it received. -/
structure IndexedLpEpoch.Accounted (epoch : IndexedLpEpoch) : Prop where
  indexed : epoch.totalShares * epoch.index + epoch.aggregateCorrection + epoch.indexRemainder
      + epoch.retiredResidueMagnified + REFLECTION_MAGNITUDE * epoch.unallocatedRewards
    = REFLECTION_MAGNITUDE * epoch.lifetimeReceived
  rewards : ∃ vault liability pendings, expectedLpVaultBalance epoch = .ok vault
    ∧ lpIndexedLiability epoch = .ok liability
    ∧ epoch.positions.values.mapM (fun position => lpPositionPending position epoch) = .ok pendings
    ∧ liability + epoch.unallocatedRewards ≤ vault
    ∧ (∀ pending ∈ pendings, 0 ≤ pending)
    ∧ pendings.sum ≤ liability

/-- The books of a projection account for every fee, where `retired` is what
fresh custody routes retired. -/
structure ProtocolProjection.Accounted (projection : ProtocolProjection) (retired : ℤ) :
    Prop where
  indexed : projection.eligibleSupply * projection.currentIndex + projection.aggregateCorrection
      + projection.indexRemainder + REFLECTION_MAGNITUDE * projection.unallocatedFees + retired
    = REFLECTION_MAGNITUDE * projection.lifetimeSwapFees
  rewards : ∃ vault liability wallets custody, expectedCoreVaultBalance projection = .ok vault
    ∧ coreIndexedLiability projection = .ok liability
    ∧ projection.positions.values.mapM
        (fun position => walletPending position projection.currentIndex) = .ok wallets
    ∧ custodyPending projection = .ok custody
    ∧ liability + projection.unallocatedFees ≤ vault
    ∧ (∀ pending ∈ wallets, 0 ≤ pending) ∧ 0 ≤ custody
    ∧ wallets.sum + custody ≤ liability
  epochs : ∀ epoch ∈ projection.lpEpochs.values, epoch.Accounted

theorem IndexedLpEpoch.Balanced.accounted {epoch : IndexedLpEpoch}
    {registeredWallets : OrderedMap Address Address} (h : epoch.Balanced)
    (hcloses : EpochCloses registeredWallets epoch) : epoch.Accounted := by
  obtain ⟨label, hrounding⟩ := hcloses.rounding
  obtain ⟨vault, liability, hvault, hliability, -, -, -, hle, -⟩ := epochRounding_eq_ok.mp hrounding
  set holdings := epoch.positions.values.map IndexedLpPosition.holding with hholdings
  have hcovered : ∀ holding ∈ holdings, Covers epoch.index holding := by
    intro holding hmem
    obtain ⟨position, hposition, rfl⟩ := List.mem_map.mp hmem
    exact h.positions position hposition
  have htotal : Holding.total holdings
      = ⟨epoch.totalShares, epoch.aggregateCorrection, epoch.lifetimeClaimed⟩ := by
    rw [← hcloses.shares, ← hcloses.correction, ← hcloses.claims, hholdings]
    unfold Holding.total sumLpShares
    simp only [List.map_map]
    rfl
  have hliability' := hliability
  unfold lpIndexedLiability at hliability'
  simp only [bind_eq_ok] at hliability'
  obtain ⟨gross, hgross, hsubtract⟩ := hliability'
  have hchecked : magnifiedEntitlement (Holding.total holdings).shares epoch.index
      (Holding.total holdings).correction = .ok gross := by
    rw [htotal]
    exact hgross
  have howed : liability = (Holding.total holdings).pending REFLECTION_MAGNITUDE epoch.index := by
    obtain ⟨-, -, -, rfl⟩ := checkedMoveU256Subtract_eq_ok.mp hsubtract
    obtain ⟨-, -, -, -, -, rfl⟩ := magnifiedEntitlement_eq_ok.mp hgross
    rw [htotal]
    rfl
  refine ⟨h.indexed, vault, liability,
    epoch.positions.values.map fun position =>
      position.holding.pending REFLECTION_MAGNITUDE epoch.index,
    hvault, hliability, mapM_eq_ok ?_, hle, ?_, ?_⟩
  · intro position hposition
    exact pending_of_total hcovered hchecked (List.mem_map_of_mem hposition) _
  · intro pending hpending
    obtain ⟨position, hposition, rfl⟩ := List.mem_map.mp hpending
    exact (h.positions position hposition).pending_nonneg REFLECTION_MAGNITUDE_pos
  · have hsum : (holdings.map fun holding => holding.pending REFLECTION_MAGNITUDE epoch.index).sum
        ≤ liability := by
      rw [howed]
      exact Holding.sum_pending_le REFLECTION_MAGNITUDE_pos
    rw [hholdings, List.map_map] at hsum
    exact hsum

theorem Books.Balanced.accounted {projection : ProtocolProjection} {retired : ℤ}
    (h : projection.books.Balanced 0 retired) (hclosed : projection.Closed) :
    projection.Accounted retired := by
  have hcore := hclosed.core
  obtain ⟨vault, liability, hvault, hliability, -, hle, -⟩ := hcore.rounding
  -- Custody is one holder more.
  set holdings := projection.books.custody
    :: projection.positions.values.map IndexedPosition.holding with hholdings
  have hcovered : ∀ holding ∈ holdings, Covers projection.currentIndex holding := by
    intro holding hmem
    rcases List.mem_cons.mp hmem with rfl | hmem
    · exact h.custody
    · obtain ⟨position, hposition, rfl⟩ := List.mem_map.mp hmem
      exact h.wallets position hposition
  have hrouted : projection.custody.claimed = projection.lifetimeCustodyRouted := h.routed
  have hmaterialized : (projection.positions.values.map fun position => position.claimed).sum
      = projection.lifetimeMaterialized := h.materialized
  have htotal : Holding.total holdings
      = ⟨projection.eligibleSupply, projection.aggregateCorrection,
        projection.lifetimeCustodyRouted + projection.lifetimeMaterialized⟩ := by
    rw [← hcore.shares, ← hcore.correction, ← hrouted, ← hmaterialized, hholdings, add_comm]
    unfold Holding.total sumWalletShares
    simp only [List.map_cons, List.map_map, List.sum_cons]
    rfl
  have hliability' := hliability
  unfold coreIndexedLiability at hliability'
  simp only [bind_eq_ok] at hliability'
  obtain ⟨gross, hgross, unsettled, hmaterial, hsubtract⟩ := hliability'
  have hchecked : magnifiedEntitlement (Holding.total holdings).shares projection.currentIndex
      (Holding.total holdings).correction = .ok gross := by
    rw [htotal]
    exact hgross
  have howed : liability
      = (Holding.total holdings).pending REFLECTION_MAGNITUDE projection.currentIndex := by
    obtain ⟨-, -, -, rfl⟩ := checkedMoveU256Subtract_eq_ok.mp hsubtract
    obtain ⟨-, -, -, rfl⟩ := checkedMoveU256Subtract_eq_ok.mp hmaterial
    obtain ⟨-, -, -, -, -, rfl⟩ := magnifiedEntitlement_eq_ok.mp hgross
    rw [htotal]
    unfold Holding.pending Holding.entitlement
    ring
  have hindexed := h.indexed
  rw [add_zero] at hindexed
  refine ⟨hindexed, ⟨vault, liability,
    projection.positions.values.map fun position =>
      position.holding.pending REFLECTION_MAGNITUDE projection.currentIndex,
    projection.books.custody.pending REFLECTION_MAGNITUDE projection.currentIndex,
    hvault, hliability, mapM_eq_ok ?_, ?_, hle, ?_, ?_, ?_⟩, ?_⟩
  · intro position hposition
    exact pending_of_total hcovered hchecked
      (List.mem_cons_of_mem _ (List.mem_map_of_mem hposition)) _
  · exact pending_of_total hcovered hchecked List.mem_cons_self _
  · intro pending hpending
    obtain ⟨position, hposition, rfl⟩ := List.mem_map.mp hpending
    exact (h.wallets position hposition).pending_nonneg REFLECTION_MAGNITUDE_pos
  · exact h.custody.pending_nonneg REFLECTION_MAGNITUDE_pos
  · have hsum : (holdings.map fun holding =>
        holding.pending REFLECTION_MAGNITUDE projection.currentIndex).sum ≤ liability := by
      rw [howed]
      exact Holding.sum_pending_le REFLECTION_MAGNITUDE_pos
    rw [hholdings, List.map_cons, List.map_map, List.sum_cons, add_comm] at hsum
    exact hsum
  · intro epoch hepoch
    exact (h.epochs epoch hepoch).accounted (hclosed.epochs epoch hepoch)

/-- **The books of a replayed deployment account for everything.** The history
starts with the creation of the token, and no initialization in it goes by the
name that stands for no release. -/
theorem replayed_accounted {first : List ProtocolEvent} {rest : List (List ProtocolEvent)}
    (hcreated : ∃ event ∈ first, CreatesToken event)
    (hnames : ∀ event ∈ (first :: rest).flatten, NamesRelease event)
    {projection : ProtocolProjection} (h : replayed (first :: rest) = some projection) :
    projection.Accounted (retiredResidue (first :: rest).flatten) := by
  have hinitialized := uninitialized_of_replayed h
    (fun group hgroup => by
      obtain rfl := Option.some_injective _ hgroup
      exact hcreated) hnames
  obtain ⟨hbalanced, hclosed⟩ := balanced_of_replayed h hinitialized
  exact hbalanced.accounted hclosed

namespace Sample

theorem launch_sorted : sortEvents launch = launch := sortEvents_of_pairwise (by decide)

theorem launch_replayed : (replayed [launch]).isSome = true := by
  have hsome : (accepted createEmptyProjection launch).isSome = true := by
    unfold accepted reduceEventGroup
    rw [launch_sorted]
    decide +kernel
  obtain ⟨next, hnext⟩ := Option.isSome_iff_exists.mp hsome
  simp [replayed, Paging.replay, hnext]

/-- A grant to a registered wallet, an initialization that puts the index at 1
under the name of no release, and the creation of the token. -/
def reinitialized : List ProtocolEvent :=
  [ event 7 0 "7:0" (.WalletRegistered ⟨.account 1, .primary .trfl (.account 1), 1⟩),
    event 7 1 "7:1" (.FaucetGrant (.account 1) .trfl 100),
    event 7 2 "7:2" (.ProtocolInitialized
      ⟨"cedra-reflect", "cedra-testnet", .metadata .trfl, true, 100, 1, "uninitialized",
        .reward_vault, .distribution_vault, 2⟩),
    event 7 3 "7:3" (.TokenCreated
      ⟨"v0.2", "cedra-reflect", "cedra-testnet", .metadata .trfl, .reward_vault,
        .distribution_vault, 100, 1_000_000_000_000_000, 6, "testnet-v0.2.0"⟩) ]

theorem reinitialized_sorted : sortEvents reinitialized = reinitialized :=
  sortEvents_of_pairwise (by decide)

end Sample

theorem replayed_accounted_launch :
    ∃ projection, replayed [Sample.launch] = some projection
      ∧ projection.Accounted (retiredResidue [Sample.launch].flatten) := by
  obtain ⟨projection, hprojection⟩ := Option.isSome_iff_exists.mp Sample.launch_replayed
  refine ⟨projection, hprojection, replayed_accounted ?_ ?_ hprojection⟩
  · exact ⟨_, List.mem_cons_self, _, rfl⟩
  · simp [Sample.launch, Sample.event, NamesRelease]

/-- A first group with the creation of the token in it, accepted, after which the
index has handed out what no fee brought in. -/
theorem reinitialized_unaccounted :
    (∃ event ∈ Sample.reinitialized, CreatesToken event)
      ∧ ∃ projection, replayed [Sample.reinitialized] = some projection
        ∧ projection.eligibleSupply * projection.currentIndex + projection.aggregateCorrection
            + projection.indexRemainder + REFLECTION_MAGNITUDE * projection.unallocatedFees
            + retiredResidue [Sample.reinitialized].flatten
          ≠ REFLECTION_MAGNITUDE * projection.lifetimeSwapFees := by
  have hnonempty : Sample.reinitialized ≠ [] := List.cons_ne_nil _ _
  refine ⟨⟨_, List.getLast_mem hnonempty, _, rfl⟩, ?_⟩
  have hnext : ((accepted createEmptyProjection Sample.reinitialized).map fun projection =>
      decide (projection.eligibleSupply * projection.currentIndex + projection.aggregateCorrection
          + projection.indexRemainder + REFLECTION_MAGNITUDE * projection.unallocatedFees
          + retiredResidue [Sample.reinitialized].flatten
        ≠ REFLECTION_MAGNITUDE * projection.lifetimeSwapFees)) = some true := by
    unfold accepted reduceEventGroup
    rw [Sample.reinitialized_sorted]
    decide +kernel
  obtain ⟨projection, haccepted, hne⟩ := Option.map_eq_some_iff.mp hnext
  refine ⟨projection, ?_, of_decide_eq_true hne⟩
  simp [replayed, Paging.replay, haccepted]

end CedraReflect.indexer
