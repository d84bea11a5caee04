/-
The gate in front of a checkpoint, and the deployments that cannot pass it.

A checkpoint asks for complete authority histories: an operational administrator
of the core, of the faucet and of the pool. Release 0.2 has none, the replay of
one sets none, and the gate does not look at the release. So no replay of a
deployment of that release is ever checkpointed.
-/
import CedraReflect.Acceptance
import CedraReflect.Checkpoint
import CedraReflect.Reconciliation

set_option autoImplicit false
set_option linter.constructorNameAsVariable false
set_option linter.dupNamespace false

namespace CedraReflect.indexer

open Audited

/-! ## Histories without administrators -/

/-- Nobody is appointed, as in every history of release 0.2. -/
def AppointsNobody (transaction : List ProtocolEvent) : Prop :=
  ∀ event ∈ transaction, ∀ scope old new, event.body ≠ .OperationalAdminChanged scope old new

/-- **Only an appointment appoints.** -/
theorem operationalAdmins_of_clean {prior : ProtocolProjection} {events : List ProtocolEvent}
    {event : ProtocolEvent} {c c' : Context} {u : Unit}
    (hnobody : ∀ scope old new, event.body ≠ .OperationalAdminChanged scope old new)
    (h : Clean (replayEvent prior events event) c u c') :
    c'.next.operationalAdmins = c.next.operationalAdmins := by
  by_cases haccounting : event.body.isConfiguration = false
  · have hsettings := settings_of_accounting haccounting h
    exact congrArg Settings.operationalAdmins hsettings
  · rw [Bool.not_eq_false] at haccounting
    by_cases hinitialized : ∃ initialized, event.body = .ProtocolInitialized initialized
    · obtain ⟨initialized, hbody⟩ := hinitialized
      unfold replayEvent at h
      simp only [hbody] at h
      exact (clean_protocolInitialized h).2.2
    · rw [not_exists] at hinitialized
      exact (configures_of_clean haccounting hinitialized h).admins hnobody

/-- A transaction that appoints nobody. -/
theorem operationalAdmins_of_accepted {prior next : ProtocolProjection}
    {transaction : List ProtocolEvent} (hnobody : AppointsNobody transaction)
    (h : accepted prior transaction = some next) :
    next.operationalAdmins = prior.operationalAdmins := by
  obtain ⟨-, rfl⟩ | ⟨first, rest, replayed, closed, hsorted, haccepts, rfl⟩ :=
    accepted_eq_some.mp h
  · rfl
  · have hclosed := (clean_closingChecks haccepts.books).next
    have hreplayed : replayed.next.operationalAdmins = prior.operationalAdmins := by
      refine haccepts.events.forEach_induction
        (P := fun c => c.next.operationalAdmins = prior.operationalAdmins) rfl ?_
      intro event hevent c c' hc hclean
      have hmem : event ∈ transaction := by
        rw [← hsorted] at hevent
        exact (List.mergeSort_perm transaction _).mem_iff.mp hevent
      rw [operationalAdmins_of_clean (hnobody event hmem) hclean]
      exact hc
    show closed.next.operationalAdmins = _
    rw [hclosed]
    exact hreplayed

/-- **Release 0.2 has no administrators.** -/
theorem operationalAdmins_of_replayed {history : List (List ProtocolEvent)}
    (hnobody : ∀ transaction ∈ history, AppointsNobody transaction)
    {projection : ProtocolProjection} (h : replayed history = some projection) :
    projection.operationalAdmins = ⟨none, none, none⟩ := by
  revert hnobody
  refine replayed_induction (P := fun history projection =>
    (∀ transaction ∈ history, AppointsNobody transaction) →
      projection.operationalAdmins = ⟨none, none, none⟩) ?_ ?_ h
  · intro _
    rfl
  · intro history transaction prior next ih haccepted hnobody
    rw [operationalAdmins_of_accepted (hnobody transaction (by simp)) haccepted]
    exact ih fun t ht => hnobody t (List.mem_append_left _ ht)

/-! ## Reconciling and then checkpointing -/

section

variable [Sha256] [Spelling]

/-- The indexer after a `reconcile` call of its own that got these views and
could journal what it had to. -/
def Indexer.reconciledWith (indexer : Indexer) (now : ℤ) (observed : ObservedAccountingSnapshot) :
    Indexer :=
  let begun := Operation.reconcile.start indexer true
  match begun.pending with
  | none => begun.indexer
  | some pending =>
      let viewed := pending.continue begun.indexer (.views now observed)
      match viewed.pending with
      | none => viewed.indexer
      | some journal => (journal.continue viewed.indexer .written).indexer

/-- The views are reconciled with the replayed state, and the snapshot call that
follows takes one. -/
def CheckpointsAfter (indexer : Indexer) (now : ℤ) (observed : ObservedAccountingSnapshot)
    (takenAt : ℤ) : Prop :=
  (∃ report, reconcile now indexer.replica.cursor indexer.replica.projection observed = .ok report
      ∧ report.reconciled = true)
    ∧ ∃ snapshot, (indexer.reconciledWith now observed).checkpoint takenAt = .ok snapshot

/-- A reconciliation does not touch the state. -/
theorem Indexer.reconciledWith_replica (indexer : Indexer) (now : ℤ)
    (observed : ObservedAccountingSnapshot) :
    (indexer.reconciledWith now observed).replica = indexer.replica := by
  -- An authorization writes the reconciled state only.
  have hauthorize : ∀ (indexer : Indexer) projection reference cursor identity report,
      (indexer.authorize now projection reference cursor identity observed report).1.replica
        = indexer.replica := by
    intro indexer projection reference cursor identity report
    unfold Indexer.authorize
    simp only
    split_ifs
    · rfl
    · rfl
  unfold Indexer.reconciledWith
  simp only [Operation.start]
  rcases indexer.replica.cursor with _ | cursor
  · rfl
  · simp only
    rcases Indexer.checkpointStateIdentity indexer.invalidateReconciliation.replica.projection
      cursor with thrown | identity
    · rfl
    · simp only [Pending.continue]
      rcases reconcile now (some cursor) indexer.invalidateReconciliation.replica.projection
        observed with thrown | report
      · rfl
      · by_cases halerts : report.alerts = []
        · simp only [halerts, if_true]
          rw [hauthorize]
          rfl
        · simp only [halerts, if_false]
          rw [hauthorize]
          rfl

omit [Spelling] in
/-- **The gate.** -/
theorem checkpoint_of_incomplete {indexer : Indexer} {takenAt : ℤ} {snapshot : IndexerSnapshot}
    (hadmins : indexer.replica.projection.operationalAdmins = ⟨none, none, none⟩) :
    indexer.checkpoint takenAt ≠ .ok snapshot := by
  intro h
  unfold Indexer.checkpoint at h
  simp only [bind_unit_eq_ok, throwIf_eq_ok] at h
  obtain ⟨-, h⟩ := h
  rcases hcursor : indexer.replica.cursor with _ | cursor
  · simp [hcursor] at h
  · simp only [hcursor, bind_unit_eq_ok, throwIf_eq_ok] at h
    refine h.1 (Or.inr (Or.inr ?_))
    rw [hadmins]
    rfl

/-- **No deployment of release 0.2 is ever checkpointed.** Whatever its history,
the views and the time: not both are they reconciled and the snapshot taken. -/
theorem never_checkpointed {history : List (List ProtocolEvent)}
    (hnobody : ∀ transaction ∈ history, AppointsNobody transaction) {indexer : Indexer}
    (hreplayed : replayed history = some indexer.replica.projection) (now : ℤ)
    (observed : ObservedAccountingSnapshot) (takenAt : ℤ) :
    ¬ CheckpointsAfter indexer now observed takenAt := by
  rintro ⟨-, snapshot, hsnapshot⟩
  refine checkpoint_of_incomplete ?_ hsnapshot
  rw [indexer.reconciledWith_replica]
  exact operationalAdmins_of_replayed hnobody hreplayed

end

namespace Sample

/-- The launch of a deployment with the position of its bootstrap account. -/
def release : List (List ProtocolEvent) :=
  [launch ++ [event 7 9 "7:9" (.PositionCreated (.account 1))]]

/-- An indexer that has replayed it. -/
def indexer : Indexer := ⟨⟨books, 1, some ⟨7, 9⟩⟩, none, none⟩

theorem release_appoints_nobody : ∀ transaction ∈ release, AppointsNobody transaction := by
  intro transaction htransaction event hevent scope old new hbody
  have hnone : ∀ event ∈ release.flatten, ∀ scope old new,
      event.body ≠ .OperationalAdminChanged scope old new := by
    simp [release, launch, Sample.event]
  exact hnone event (List.mem_flatten_of_mem htransaction hevent) scope old new hbody

theorem release_replayed : replayed release = some indexer.replica.projection := by
  have hsome : (accepted createEmptyProjection
      (launch ++ [event 7 9 "7:9" (.PositionCreated (.account 1))])).isSome = true := by
    unfold accepted reduceEventGroup
    rw [sorted]
    decide +kernel
  obtain ⟨next, hnext⟩ := Option.isSome_iff_exists.mp hsome
  simp [replayed, Paging.replay, release, indexer, books, hnext]

end Sample

theorem never_checkpointed_launched :
    replayed Sample.release = some Sample.indexer.replica.projection
      ∧ ∀ sha : Sha256, ¬ @CheckpointsAfter sha Sample.spelling Sample.indexer 1_000
        (Sample.views [⟨.account 1, 0, 0, 0⟩]) 2_000 :=
  ⟨Sample.release_replayed, fun sha =>
    @never_checkpointed sha Sample.spelling _ Sample.release_appoints_nobody _
      Sample.release_replayed 1_000 _ 2_000⟩

/-- A launched deployment whose views are reconciled, and whose checkpoint is
refused whatever the digest and the time. -/
theorem reconciled_and_refused :
    (∀ transaction ∈ Sample.release, AppointsNobody transaction)
      ∧ replayed Sample.release = some Sample.indexer.replica.projection
      ∧ (∃ report, @reconcile 1_000 Sample.indexer.replica.cursor Sample.spelling
          Sample.indexer.replica.projection (Sample.views [⟨.account 1, 0, 0, 0⟩]) = .ok report
        ∧ report.reconciled = true)
      ∧ ∀ (sha : Sha256) (takenAt : ℤ) (snapshot : IndexerSnapshot),
        (@Indexer.reconciledWith sha Sample.spelling Sample.indexer 1_000
          (Sample.views [⟨.account 1, 0, 0, 0⟩])).checkpoint takenAt ≠ .ok snapshot := by
  refine ⟨Sample.release_appoints_nobody, Sample.release_replayed, ?_, ?_⟩
  · exact Sample.reconciled_of_map (x := @reconcile 1_000 (some ⟨7, 9⟩) Sample.spelling Sample.books
      (Sample.views [⟨.account 1, 0, 0, 0⟩])) (by
      unfold Sample.books accepted reduceEventGroup
      rw [Sample.sorted]
      decide +kernel)
  · intro sha takenAt snapshot
    refine checkpoint_of_incomplete ?_
    rw [@Indexer.reconciledWith_replica sha Sample.spelling]
    exact operationalAdmins_of_replayed Sample.release_appoints_nobody Sample.release_replayed

end CedraReflect.indexer
