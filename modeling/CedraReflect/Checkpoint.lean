/-
`EventIndexer` of the indexer as a machine: calls that await and interleave.

A call runs without interruption from one `await` to the next. What it has
in hand while it waits is a [`Pending`]; what the store or the source answers is
an [`Answer`], which may be a failure. The owner objects that the class hands
out are numbered, so that [`System.tasks`] has one slot an owner: a direct call
has an owner of its own, and the calls of a writer cycle share one and exclude
each other. What happens to the replayed state is written down as a list of
[`Moment`]s.
-/
import CedraReflect.EventIndexer
import CedraReflect.Reconciler

set_option autoImplicit false
set_option linter.constructorNameAsVariable false
set_option linter.dupNamespace false

namespace CedraReflect.indexer

/-! ## The checkpoint permission -/

/-- `reconciledProjection`, `reconciledCursor` and `reconciledStateIdentity`,
which are set and cleared together. -/
structure Reconciled where
  reference : ℕ
  cursor : EventCursor
  identity : String

structure Indexer where
  replica : Replica
  reconciled : Option Reconciled
  /-- `undefined` until the store was asked, then `null` or an identifier. -/
  durableBaseSnapshotId : Option (Option String)

/-- What bears on a checkpoint: the state touched, reconciled and saved. -/
inductive Moment where
  | restored
  /-- A page of events, with the groups of it that are applied. -/
  | page (events : List ProtocolEvent)
  | alerted (alerts : List CriticalAlert)
  /-- A report that authorises a checkpoint of a projection at a cursor. -/
  | reconciled (now : ℤ) (projection : ProtocolProjection) (cursor : EventCursor)
      (observed : ObservedAccountingSnapshot) (report : ReconciliationReport)
  | saved (snapshot : IndexerSnapshot)

/-- An event group, an alert, a page or a restore. -/
def Moment.touches : Moment → Bool
  | restored | page _ | alerted _ => true
  | reconciled .. | saved _ => false

namespace Indexer

def new : Indexer := ⟨.new, none, none⟩

def invalidateReconciliation (indexer : Indexer) : Indexer := { indexer with reconciled := none }

section

variable [Sha256]

/-- `checkpointStateIdentity`, an identity of content at a fixed time. -/
def checkpointStateIdentity (projection : ProtocolProjection) (cursor : EventCursor) :
    Except Text String := do
  let snapshot ← takeSnapshot projection (some cursor) 0
  pure snapshot.id

def unreconciled (detail : String) : Text :=
  [.lit "Indexer checkpoint refused: ", .lit detail]

/-- `snapshotOwned` up to its first `await`. -/
def checkpoint (indexer : Indexer) (takenAtUnixMilliseconds : ℤ) :
    Except Text IndexerSnapshot := do
  let projection := indexer.replica.projection
  throwIf (takenAtUnixMilliseconds < 0) (text "checkpoint time must be a non-negative bigint")
  match indexer.replica.cursor with
  | none => .error (unreconciled "at least one complete event transaction is required")
  | some cursor => do
      throwIf (projection.chainId ≠ CEDRA_TESTNET_CHAIN_ID ∨ projection.deploymentReady = false
          ∨ projection.operationalAdmins.complete = false)
        (unreconciled "Cedra Testnet identity and complete core, faucet, and AMM authority histories are required")
      let refusal := unreconciled
        "a successful chain-2 reconciliation of this exact projection and cursor is required"
      match indexer.reconciled with
      | none => .error refusal
      | some reconciled => do
          throwIf (reconciled.reference ≠ indexer.replica.reference
            ∨ compareCursor reconciled.cursor cursor ≠ 0) refusal
          let identity ← checkpointStateIdentity projection cursor
          throwIf (reconciled.identity ≠ identity) refusal
          takeSnapshot projection (some cursor) takenAtUnixMilliseconds

/-- A checkpoint is taken of the state in memory, which was reconciled. -/
theorem checkpoint_eq_ok {indexer : Indexer} {takenAtUnixMilliseconds : ℤ}
    {snapshot : IndexerSnapshot} (h : indexer.checkpoint takenAtUnixMilliseconds = .ok snapshot) :
    ∃ cursor reconciled, indexer.replica.cursor = some cursor
      ∧ indexer.reconciled = some reconciled
      ∧ takeSnapshot indexer.replica.projection (some cursor) takenAtUnixMilliseconds
        = .ok snapshot := by
  unfold checkpoint at h
  simp only [bind_unit_eq_ok, throwIf_eq_ok] at h
  obtain ⟨_, h⟩ := h
  rcases hcursor : indexer.replica.cursor with _ | cursor
  · simp [hcursor] at h
  · simp only [hcursor, bind_unit_eq_ok, throwIf_eq_ok] at h
    obtain ⟨_, h⟩ := h
    rcases hreconciled : indexer.reconciled with _ | reconciled
    · simp [hreconciled] at h
    · simp only [hreconciled, bind_unit_eq_ok, throwIf_eq_ok] at h
      obtain ⟨_, h⟩ := h
      obtain ⟨_, _, h⟩ := bind_eq_ok.mp h
      exact ⟨cursor, reconciled, rfl, rfl, (bind_unit_eq_ok.mp h).2⟩

/-- The end of `reconcileOwned`: a clean report of the state that is still the
indexer's authorises a checkpoint of it. -/
def authorize (indexer : Indexer) (now : ℤ) (projection : ProtocolProjection) (reference : ℕ)
    (cursor : EventCursor) (identity : String) (observed : ObservedAccountingSnapshot)
    (report : ReconciliationReport) : Indexer × List Moment :=
  let unchanged : Bool :=
    match indexer.replica.cursor with
    | none => false
    | some current =>
        compareCursor current cursor = 0
          ∧ (checkpointStateIdentity indexer.replica.projection current).toOption = some identity
  if report.reconciled = true ∧ projection.chainId = CEDRA_TESTNET_CHAIN_ID
      ∧ observed.chainId = CEDRA_TESTNET_CHAIN_ID ∧ projection.deploymentReady = true
      ∧ projection.operationalAdmins.complete = true
      ∧ indexer.replica.reference = reference ∧ unchanged = true then
    ({ indexer with reconciled := some ⟨reference, cursor, identity⟩ },
      [.reconciled now projection cursor observed report])
  else (indexer, [])

end

end Indexer

/-! ## Calls, and what they wait for -/

inductive Operation where
  | restoreLatestSnapshot
  | process (events : List ProtocolEvent)
  | pollOnce (limit : ℤ)
  | reconcile
  | snapshot (takenAtUnixMilliseconds : ℤ)

/-- What a call awaits, with the local variables it will go on with. -/
inductive Pending where
  /-- `restoreLatestSnapshot`: the snapshot of the store. -/
  | load
  /-- `pollOnce`: a page of the source. -/
  | page
  /-- `process` and `pollOnce`: the journal. -/
  | journal
  /-- `reconcile`: the views of the source. -/
  | views (projection : ProtocolProjection) (reference : ℕ) (cursor : EventCursor)
      (identity : String)
  /-- `reconcile`: the journal, for a report with alerts. -/
  | reconcileJournal (now : ℤ) (projection : ProtocolProjection) (reference : ℕ)
      (cursor : EventCursor) (identity : String) (observed : ObservedAccountingSnapshot)
      (report : ReconciliationReport)
  /-- `snapshot`, called directly: the lease of the store. -/
  | lease (snapshot : IndexerSnapshot)
  /-- `snapshot` without a known base: the snapshot of the store. -/
  | base (snapshot : IndexerSnapshot)
  /-- `snapshot`: the write. -/
  | save (snapshot : IndexerSnapshot)

/-- How an awaited promise settles. -/
inductive Answer where
  | rejected
  | loaded (snapshot : Option IndexerSnapshot)
  | page (page : EventPage)
  | views (now : ℤ) (observed : ObservedAccountingSnapshot)
  | leased
  | written

/-- Where a call stands after it ran for a while: the indexer, the moments on the
way, and what it waits for, `none` once it returned or threw. -/
structure Turn where
  indexer : Indexer
  moments : List Moment
  pending : Option Pending

section

variable [Sha256] [Spelling]

/-- `processOwned` up to the journal. -/
def processTurn (indexer : Indexer) (events : List ProtocolEvent) : Turn :=
  let indexer := indexer.invalidateReconciliation
  match indexer.replica.process events with
  | (replica, .error _) => ⟨{ indexer with replica }, [.page events], none⟩
  | (replica, .ok result) =>
      if result.alerts = [] then ⟨{ indexer with replica }, [.page events], none⟩
      else ⟨{ indexer with replica }, [.page events, .alerted result.alerts], some .journal⟩

/-- `withStoreWriter(writerLease, ..)` of `snapshotOwned`, with the lease. -/
def saveTurn (indexer : Indexer) (snapshot : IndexerSnapshot) : Turn :=
  match indexer.durableBaseSnapshotId with
  | none => ⟨indexer, [], some (.base snapshot)⟩
  | some _ => ⟨indexer, [.saved snapshot], some (.save snapshot)⟩

/-- A call from its start. A direct one has no lease of the store. -/
def Operation.start (indexer : Indexer) (direct : Bool) : Operation → Turn
  | restoreLatestSnapshot => ⟨indexer.invalidateReconciliation, [.restored], some .load⟩
  | process events => processTurn indexer events
  | pollOnce limit =>
      if limit < 1 ∨ 10_000 < limit then ⟨indexer, [], none⟩ else ⟨indexer, [], some .page⟩
  | reconcile =>
      match indexer.replica.cursor with
      | none => ⟨indexer, [], none⟩
      | some cursor =>
          let indexer := indexer.invalidateReconciliation
          match Indexer.checkpointStateIdentity indexer.replica.projection cursor with
          | .error _ => ⟨indexer, [], none⟩
          | .ok identity =>
              ⟨indexer, [], some (.views indexer.replica.projection indexer.replica.reference
                cursor identity)⟩
  | snapshot takenAtUnixMilliseconds =>
      match indexer.checkpoint takenAtUnixMilliseconds with
      | .error _ => ⟨indexer, [], none⟩
      | .ok taken =>
          if direct = true then ⟨indexer, [], some (.lease taken)⟩ else saveTurn indexer taken

/-- A call from an `await` on, once its owner has been asserted. -/
def Pending.continue (indexer : Indexer) : Pending → Answer → Turn
  | load, .loaded none =>
      ⟨{ indexer with
          replica := ⟨createEmptyProjection, indexer.replica.reference + 1, none⟩
          durableBaseSnapshotId := some none }, [.restored], none⟩
  | load, .loaded (some loaded) =>
      match decodeSnapshot (encodeSnapshot loaded) with
      | .error _ => ⟨indexer, [], none⟩
      | .ok snapshot =>
          ⟨{ indexer with
              replica := ⟨snapshot.projection, indexer.replica.reference + 1, snapshot.cursor⟩
              durableBaseSnapshotId := some (some snapshot.id) }, [.restored], none⟩
  | page, .page served =>
      if served.chainId ≠ CEDRA_TESTNET_CHAIN_ID then ⟨indexer, [], none⟩
      else processTurn indexer served.events
  | views projection reference cursor identity, .views now observed =>
      match reconcile now (some cursor) projection observed with
      | .error _ => ⟨indexer, [], none⟩
      | .ok report =>
          if report.alerts = [] then
            let (indexer, moments) :=
              indexer.authorize now projection reference cursor identity observed report
            ⟨indexer, moments, none⟩
          else
            ⟨indexer, [.alerted report.alerts], some (.reconcileJournal now projection reference
              cursor identity observed report)⟩
  | reconcileJournal now projection reference cursor identity observed report, .written =>
      let (indexer, moments) :=
        indexer.authorize now projection reference cursor identity observed report
      ⟨indexer, moments, none⟩
  | lease taken, .leased => saveTurn indexer taken
  | base taken, .loaded none =>
      ⟨{ indexer with durableBaseSnapshotId := some none }, [.saved taken], some (.save taken)⟩
  | save taken, .written =>
      ⟨{ indexer with durableBaseSnapshotId := some (some taken.id) }, [], none⟩
  -- The journal is written, a base is there already, or the promise was rejected.
  | _, _ => ⟨indexer, [], none⟩

/-! ## Interleaved calls -/

structure System where
  indexer : Indexer
  activeStateOwner : Option ℕ
  /-- How many owner objects there are. -/
  owners : ℕ
  /-- The owner is that of a writer cycle. -/
  cycle : ℕ → Bool
  /-- The call that runs under an owner. In a cycle there is at most one, which
  is what `cycleMethodActive` is for. -/
  tasks : ℕ → Option Pending
  moments : List Moment

def System.new (durableBaseSnapshotId : Option (Option String)) : System :=
  ⟨{ Indexer.new with durableBaseSnapshotId }, none, 0, fun _ => false, fun _ => none, []⟩

/-- What is scheduled next. -/
inductive Act where
  /-- A direct call, under an owner of its own. -/
  | call (operation : Operation)
  /-- `withExclusiveStoreWriter`, once the store has issued its lease. -/
  | openCycle
  /-- A method of a cycle. The capability may be kept for longer than the cycle. -/
  | invoke (owner : ℕ) (operation : Operation)
  | resume (owner : ℕ) (answer : Answer)
  /-- The end of a cycle. It comes after its pending methods are drained, but a
  method invoked between the drain and the release may still be pending. -/
  | closeCycle (owner : ℕ)

namespace System

/-- A call took a turn. A direct call that is over gives its owner up. -/
def take (system : System) (owner : ℕ) (turn : Turn) : System :=
  { system with
    indexer := turn.indexer
    moments := system.moments ++ turn.moments
    tasks := fun o => if o = owner then turn.pending else system.tasks o
    activeStateOwner :=
      if turn.pending.isNone = true ∧ system.cycle owner = false then none
      else system.activeStateOwner }

/-- A call that threw before it did anything. -/
def drop (system : System) (owner : ℕ) : System :=
  { system with tasks := fun o => if o = owner then none else system.tasks o }

def step (system : System) : Act → System
  | .call operation =>
      -- `ConcurrentIndexerOperationError`
      if system.activeStateOwner ≠ none then system
      else
        let owner := system.owners
        let started := { system with activeStateOwner := some owner, owners := owner + 1 }
        started.take owner (operation.start system.indexer true)
  | .openCycle =>
      if system.activeStateOwner ≠ none then system
      else
        { system with
          activeStateOwner := some system.owners
          owners := system.owners + 1
          cycle := fun o => if o = system.owners then true else system.cycle o }
  | .invoke owner operation =>
      -- `InvalidIndexerWriterCycleError`, `ConcurrentIndexerOperationError`
      if system.cycle owner = false ∨ system.activeStateOwner ≠ some owner
          ∨ (system.tasks owner).isSome = true then system
      else system.take owner (operation.start system.indexer false)
  | .resume owner answer =>
      match system.tasks owner with
      | none => system
      | some pending =>
          -- `assertStateOwner(owner)`
          if system.activeStateOwner ≠ some owner then system.drop owner
          else system.take owner (pending.continue system.indexer answer)
  | .closeCycle owner =>
      if system.cycle owner = true ∧ system.activeStateOwner = some owner then
        { system with activeStateOwner := none }
      else system

def run (system : System) (acts : List Act) : System := acts.foldl step system

end System

end

end CedraReflect.indexer
