/-
`worker.ts` of the indexer: one cycle of `IndexerWorker`, over the durable files.

A cycle is a computation that may be cut short at every `await`, over a
[`Station`]: the files of the store and of the alert sink, and the indexer in
memory. Replacing a file takes effect at once or not at all, which is what a
writer of a locked file does that is alone. What the event source, the views and
the clocks answer are the [`Circumstances`] of a cycle. The methods of the cycle are
those of `EventIndexer` from their start to their end: nothing else runs while a
cycle owns the indexer.
-/
import CedraReflect.Checkpoint
import CedraReflect.FileStore
import CedraReflect.Interruptible

set_option autoImplicit false
set_option linter.constructorNameAsVariable false
set_option linter.dupNamespace false

namespace CedraReflect.indexer

open Interruptible

/-! ## The alert sink -/

/-- The file of the sink has the form of a journal. -/
abbrev DeliveredAlertFile : Type := AlertEnvelope

def MAX_DELIVERED_ALERT_BYTES : ℕ := 64 * 1024 * 1024

structure FileCriticalAlertSink where
  manifestSha256 : String
  wellFormed : isHexDigest manifestSha256.toList = true

namespace FileCriticalAlertSink

instance : DecidableEq FileCriticalAlertSink := fun a b =>
  decidable_of_iff (a.manifestSha256 = b.manifestSha256) (by cases a; cases b; simp)

variable [StoreTexts]

def load (sink : FileCriticalAlertSink) :
    Option DeliveredAlertFile → Except Text (List StoredAlert)
  | none => pure []
  | some file => do
      throwIf (MAX_DELIVERED_ALERT_BYTES < StoreTexts.alertsBytes file)
        (text "Durable state exceeds its byte limit")
      throwIf (file.schemaVersion ≠ 1 ∨ file.manifestSha256 ≠ sink.manifestSha256)
        (text "Invalid delivered-alert file")
      throwIf (StoreTexts.alertsHex file.alerts ≠ file.payloadSha256)
        (text "Delivered-alert payload digest mismatch")
      let alerts ← file.alerts.mapM decodeCriticalAlert
      throwIf (¬ (alerts.map StoredAlert.id).Nodup)
        (text "Duplicate delivered critical alert ID")
      pure alerts

/-- `deliver`, from the read of the file to what is there afterwards. -/
def deliver (sink : FileCriticalAlertSink) (alert : StoredAlert)
    (file : Option DeliveredAlertFile) : Except Text (Option DeliveredAlertFile) := do
  let next ← encodeCriticalAlert alert
  let existing ← sink.load file
  match existing.find? fun entry => entry.id = alert.id with
  | some prior => do
      throwIf (equivalentCriticalAlert prior alert = false)
        [.lit "Delivered critical alert ID was reused with different content: ", .lit alert.id]
      pure file
  | none => do
      let encoded ← existing.mapM encodeCriticalAlert
      let alerts := encoded ++ [next]
      let output : DeliveredAlertFile :=
        ⟨1, sink.manifestSha256, StoreTexts.alertsHex alerts, alerts⟩
      throwIf (MAX_DELIVERED_ALERT_BYTES < StoreTexts.alertsBytes output)
        (text "Delivered critical-alert file exceeds its durable file limit")
      pure (some output)

end FileCriticalAlertSink

/-! ## What a cycle works on -/

/-- The files that outlive a process. -/
structure Disk where
  snapshot : Option SnapshotEnvelope
  journal : Option AlertEnvelope
  delivered : Option DeliveredAlertFile

/-- The files, and the indexer in memory. -/
structure Station where
  disk : Disk
  indexer : Indexer

def Station.new : Station := ⟨⟨none, none, none⟩, .new⟩

/-- What a cycle is called with and what it is answered. -/
structure Circumstances where
  limit : ℤ
  /-- `source.listEvents(cursor, limit)`. -/
  page : EventPage
  /-- `source.getAccountingSnapshot(version)`, and the clock its alerts are dated by. -/
  observed : ObservedAccountingSnapshot
  now : ℤ
  /-- `nowUnixMilliseconds()`. -/
  takenAtUnixMilliseconds : ℤ

structure WorkerRunResult where
  processing : ProcessResult
  reconciliation : Option ReconciliationReport
  snapshot : Option IndexerSnapshot
  deliveredAlertIds : List Text

/-- `IndexerWorker`, with an indexer over the store. -/
structure IndexerWorker where
  store : FileIndexerStore
  alertSink : FileCriticalAlertSink

abbrev Cycle : Type → Type := Interruptible Station

def setIndexer (f : Indexer → Indexer) : Cycle Unit :=
  update fun station => { station with indexer := f station.indexer }

/-- Await what comes from outside. -/
def answered {α : Type} (answer : α) : Cycle α := await fun station => some (answer, station)

namespace IndexerWorker

variable [Sha256] [StoreTexts] [Spelling] (worker : IndexerWorker)

/-! ## Awaiting the files -/

def loadLatestSnapshot : Cycle (Option IndexerSnapshot) :=
  await fun station =>
    (worker.store.loadLatestSnapshot station.disk.snapshot).toOption.map fun loaded =>
      (loaded, station)

def saveSnapshot (snapshot : IndexerSnapshot) (base : Option String) : Cycle Unit :=
  focus (fun station => station.disk.snapshot)
    (fun file station => { station with disk := { station.disk with snapshot := file } })
    (replacing fun file => (worker.store.replaceSnapshot snapshot base file).toOption)

def persistAlerts (alerts : List CriticalAlert) : Cycle Unit :=
  if alerts = [] then pure ()
  else
    focus (fun station => station.disk.journal)
      (fun file station => { station with disk := { station.disk with journal := file } })
      (replacing fun file =>
        (worker.store.replaceJournal (alerts.map CriticalAlert.spelled) file).toOption)

/-- A delivery may find that there is nothing to write. -/
def deliverOne (alert : CriticalAlert) : Cycle Unit :=
  await fun station =>
    (worker.alertSink.deliver alert.spelled station.disk.delivered).toOption.map fun delivered =>
      ((), { station with disk := { station.disk with delivered } })

def deliver (deliveredAlertIds : List Text) : List CriticalAlert → Cycle (List Text)
  | [] => pure deliveredAlertIds
  | alert :: alerts => do
      worker.deliverOne alert
      deliver (deliveredAlertIds ++ [alert.id]) alerts

/-! ## The methods of a cycle -/

def restoreLatestSnapshot : Cycle Unit := do
  setIndexer Indexer.invalidateReconciliation
  let loaded ← worker.loadLatestSnapshot
  match loaded with
  | none =>
      setIndexer fun indexer =>
        { indexer with
          replica := ⟨createEmptyProjection, indexer.replica.reference + 1, none⟩
          durableBaseSnapshotId := some none }
  | some loaded => do
      let snapshot ← attempt (decodeSnapshot (encodeSnapshot loaded))
      setIndexer fun indexer =>
        { indexer with
          replica := ⟨snapshot.projection, indexer.replica.reference + 1, snapshot.cursor⟩
          durableBaseSnapshotId := some (some snapshot.id) }

def process (events : List ProtocolEvent) : Cycle ProcessResult := do
  setIndexer Indexer.invalidateReconciliation
  let replica ← gets fun station => station.indexer.replica
  let (replica, result) := replica.process events
  setIndexer fun indexer => { indexer with replica }
  let result ← attempt result
  worker.persistAlerts result.alerts
  pure result

def pollOnce (c : Circumstances) : Cycle ProcessResult :=
  if c.limit < 1 ∨ 10_000 < c.limit then fail
  else do
    let page ← answered c.page
    if page.chainId ≠ CEDRA_TESTNET_CHAIN_ID then fail
    else worker.process page.events

def reconcile (c : Circumstances) : Cycle ReconciliationReport := do
  let replica ← gets fun station => station.indexer.replica
  match replica.cursor with
  | none => fail
  | some cursor => do
      setIndexer Indexer.invalidateReconciliation
      let identity ← attempt (Indexer.checkpointStateIdentity replica.projection cursor)
      let observed ← answered c.observed
      let report ← attempt (indexer.reconcile c.now (some cursor) replica.projection observed)
      worker.persistAlerts report.alerts
      setIndexer fun indexer =>
        (indexer.authorize c.now replica.projection replica.reference cursor identity observed
          report).1
      pure report

/-- A base that was not restored is only assumed where there is no snapshot. -/
def knownBase : Cycle (Option String) := do
  let base ← gets fun station => station.indexer.durableBaseSnapshotId
  match base with
  | some base => pure base
  | none => do
      let existing ← worker.loadLatestSnapshot
      match existing with
      | some _ => fail
      | none => do
          setIndexer fun indexer => { indexer with durableBaseSnapshotId := some none }
          pure none

def snapshot (takenAtUnixMilliseconds : ℤ) : Cycle IndexerSnapshot := do
  let indexer ← gets Station.indexer
  let taken ← attempt (indexer.checkpoint takenAtUnixMilliseconds)
  let base ← worker.knownBase
  worker.saveSnapshot taken base
  setIndexer fun indexer => { indexer with durableBaseSnapshotId := some (some taken.id) }
  pure taken

/-! ## One cycle -/

def runOnceUnderLease (c : Circumstances) : Cycle WorkerRunResult := do
  worker.restoreLatestSnapshot
  let processing ← worker.pollOnce c
  let deliveredAlertIds ← worker.deliver [] processing.alerts
  if processing.alerts ≠ [] ∨ processing.cursor = none then
    pure ⟨processing, none, none, deliveredAlertIds⟩
  else do
    let reconciliation ← worker.reconcile c
    let deliveredAlertIds ← worker.deliver deliveredAlertIds reconciliation.alerts
    if reconciliation.reconciled = false then
      pure ⟨processing, some reconciliation, none, deliveredAlertIds⟩
    else do
      let snapshot ← worker.snapshot c.takenAtUnixMilliseconds
      pure ⟨processing, some reconciliation, some snapshot, deliveredAlertIds⟩

/-- A cycle under the writer lease. Giving the lease back never throws. -/
def runOnce (c : Circumstances) : Cycle WorkerRunResult := do
  answered ()
  let result ← worker.runOnceUnderLease c
  pause
  pure result

/-- Where the next cycle starts. One that died leaves its indexer behind. -/
def after (station : Station) : Except Cut WorkerRunResult → Station
  | .error .died => { station with indexer := .new }
  | .error .threw | .ok _ => station

end IndexerWorker

end CedraReflect.indexer
