/-
Cycles of the worker are restart-safe.

Between two files that change, the disk is [`Consistent`] with the history: its
snapshot is the fold over a prefix, and what the sink has was journaled. Each
method of a cycle has one triple, which keeps that wherever the cycle may be cut
short, and says what the method leaves if it ends. What a run of cycles does is
put together from them.
-/
import CedraReflect.FileStoreSafety
import CedraReflect.KeyedReplay
import CedraReflect.Reconciliation
import CedraReflect.Worker

set_option autoImplicit false
set_option linter.constructorNameAsVariable false
set_option linter.dupNamespace false

namespace CedraReflect.indexer

open Interruptible Paging

/-! ## Prefixes of a history -/

section Prefixes

variable {history : List (List ProtocolEvent)}

theorem replayed_append (done : List (List ProtocolEvent)) (transaction : List ProtocolEvent) :
    replayed (done ++ [transaction])
      = (replayed done).bind fun projection => accepted projection transaction := by
  unfold replayed
  rw [replay_append]
  rcases replay accepted createEmptyProjection done with _ | projection
  · rfl
  · simp [replay]

/-- What is replayed beyond a transaction accepts it. -/
theorem accepted_of_replayed {i j : ℕ} (hij : i < j) {transaction : List ProtocolEvent}
    (htransaction : history[i]? = some transaction) {projection later : ProtocolProjection}
    (hprojection : replayed (history.take i) = some projection)
    (hlater : replayed (history.take j) = some later) :
    accepted projection transaction ≠ none := by
  intro hrefused
  have hlength : i < history.length := (List.getElem?_eq_some_iff.mp htransaction).1
  have hsplit : history.take j
      = history.take i ++ [transaction] ++ (history.drop (i + 1)).take (j - (i + 1)) := by
    have htake : history.take (i + 1) = history.take i ++ [transaction] := by
      rw [List.take_add_one, htransaction]
      rfl
    rw [← htake, ← List.take_add]
    congr 1
    omega
  have hnone : replayed (history.take i ++ [transaction]) = none := by
    rw [replayed_append, hprojection]
    exact hrefused
  unfold replayed at hlater hnone
  rw [hsplit, replay_append, hnone] at hlater
  exact absurd hlater (by simp)

/-- Nothing that is replayed goes beyond a transaction that is rejected. -/
theorem Processed.le_of_replayed {n m j : ℕ} {next : List (List ProtocolEvent)}
    {processed : Replica × Except Text ProcessResult} (h : Processed history n next processed m)
    (hshort : m < n + next.length) (hj : j ≤ history.length) {later : ProtocolProjection}
    (hlater : replayed (history.take j) = some later) : j ≤ m := by
  by_contra hbeyond
  have hlength : m < history.length := by omega
  obtain ⟨hrefused, _⟩ := h.rejected _ hshort (List.getElem?_eq_getElem hlength)
  exact accepted_of_replayed (by omega) (List.getElem?_eq_getElem hlength) h.standsAt.projection
    hlater hrefused

/-- **A page raises the same alerts** from wherever on the way it is processed. -/
theorem Processed.alerts_eq {n n' m m' : ℕ} {next next' : List (List ProtocolEvent)}
    {replica replica' : Replica} {result result' : ProcessResult}
    (h : Processed history n next (replica, .ok result) m)
    (h' : Processed history n' next' (replica', .ok result') m')
    (hend : n + next.length = n' + next'.length) (hlength : n + next.length ≤ history.length) :
    result.alerts = result'.alerts := by
  have hle := h.le_to
  have hle' := h'.le_to
  have hstands := h.standsAt
  have hstands' := h'.standsAt
  -- The replica that stops short stops at the first transaction that is rejected, and that is the
  -- same one for both.
  by_cases hshort : m < n + next.length
  · by_cases hshort' : m' < n' + next'.length
    · have hmm : m' ≤ m := h.le_of_replayed hshort hstands'.le hstands'.projection
      have hmm' : m ≤ m' := h'.le_of_replayed hshort' hstands.le hstands.projection
      obtain rfl : m = m' := by omega
      obtain ⟨transaction, htransaction⟩ : ∃ transaction, history[m]? = some transaction :=
        ⟨_, List.getElem?_eq_getElem (by omega)⟩
      obtain ⟨_, hreported⟩ := h.rejected _ hshort htransaction
      obtain ⟨_, hreported'⟩ := h'.rejected _ hshort' htransaction
      obtain ⟨projection, hresult⟩ := hreported result rfl
      obtain ⟨projection', hresult'⟩ := hreported' result' rfl
      have hsame : replica.projection = replica'.projection :=
        Option.some.inj (hstands.projection.symm.trans hstands'.projection)
      have heq := Except.ok.inj (hresult.symm.trans (hsame ▸ hresult'))
      exact congrArg ReduceResult.alerts heq
    · have hmm : m' ≤ m := h.le_of_replayed hshort hstands'.le hstands'.projection
      omega
  · -- Nothing is reported by a replica that reaches the end of its page.
    have hnone := (h.complete result rfl).mpr (by omega)
    have hm' : m' = n' + next'.length := by
      by_contra hshort'
      have hmm : m ≤ m' := h'.le_of_replayed (by omega) hstands.le hstands.projection
      omega
    rw [hnone, (h'.complete result' rfl).mpr hm']

/-- A prefix with an earlier cursor is shorter. -/
theorem le_of_snapshotPlace_le (hlog : Finalized history) {i j : ℕ} (hj : j ≤ history.length)
    (hi : i ≤ history.length)
    (h : snapshotPlace (cursorAt (history.take i)) ≤ snapshotPlace (cursorAt (history.take j))) :
    i ≤ j := by
  have hdrop : ∀ k, history.filter (isNew (cursorAt (history.take k))) = history.drop k :=
    fun k => (hlog.isNew_iff (List.take_append_drop k history).symm).1
  -- Whatever is past the later cursor is past the earlier one.
  have himp : ∀ transaction, isNew (cursorAt (history.take j)) transaction = true →
      isNew (cursorAt (history.take i)) transaction = true := by
    intro transaction hnew
    unfold isNew at hnew ⊢
    rw [List.all_eq_true] at hnew ⊢
    intro event hevent
    have hafter := hnew event hevent
    unfold EventBase.after at hafter ⊢
    rcases hcursor : cursorAt (history.take i) with _ | cursor
    · rfl
    · rw [hcursor] at h
      rcases hcursor' : cursorAt (history.take j) with _ | cursor'
      · rw [hcursor'] at h
        exact absurd h (WithBot.not_coe_le_bot _)
      · rw [hcursor'] at h hafter
        have hplace : cursor.place ≤ cursor'.place := WithBot.coe_le_coe.mp h
        simp only [Option.all_some, decide_eq_true_eq, compareCursor_pos_iff] at hafter ⊢
        exact lt_of_le_of_lt hplace hafter
  have hlength := List.Sublist.length_le (List.monotone_filter_right history himp)
  rw [hdrop, hdrop, List.length_drop, List.length_drop] at hlength
  omega

end Prefixes

/-! ## What is on the disk -/

/-- The cursor of the persisted snapshot. -/
def durableCursor (disk : Disk) : Option EventCursor :=
  disk.snapshot.bind fun envelope => envelope.snapshot.cursor

/-- The persisted snapshot is the fold over the first `n` transactions. -/
structure DiskAt (history : List (List ProtocolEvent)) (n : ℕ) (disk : Disk) : Prop where
  le : n ≤ history.length
  cursor : durableCursor disk = cursorAt (history.take n)
  absent : disk.snapshot = none → n = 0
  exact : ∀ envelope, disk.snapshot = some envelope →
    ∃ projection, replayed (history.take n) = some projection
      ∧ envelope.snapshot.projection = serialiseProjection projection

/-- A replica with the state of the persisted snapshot, the empty one if there is
none. -/
structure Disk.Restores (disk : Disk) (replica : Replica) : Prop where
  cursor : replica.cursor = durableCursor disk
  projection : replica.projection
    = (disk.snapshot.map fun envelope => envelope.snapshot.projection.restore).getD
      createEmptyProjection

theorem Disk.restores_exists (disk : Disk) : ∃ replica, disk.Restores replica :=
  ⟨⟨_, 0, durableCursor disk⟩, rfl, rfl⟩

/-- What is restored from the fold over a prefix stands at the prefix. -/
theorem DiskAt.standsAt {history : List (List ProtocolEvent)} {n : ℕ} {disk : Disk}
    (h : DiskAt history n disk) {replica : Replica} (hrestores : disk.Restores replica) :
    StandsAt history n replica := by
  refine ⟨h.le, ?_, hrestores.cursor.trans h.cursor⟩
  rw [hrestores.projection]
  rcases hsnapshot : disk.snapshot with _ | envelope
  · rw [h.absent hsnapshot]
    rfl
  · obtain ⟨projection, hreplayed, hexact⟩ := h.exact envelope hsnapshot
    rw [hreplayed, Option.map_some, Option.getD_some, hexact,
      restore_serialise (keyed_of_replayed hreplayed)]

/-- A record of the alert is in the file. -/
def Filed (alert : StoredAlert) (file : Option AlertEnvelope) : Prop :=
  ∃ entry ∈ journalRecords file, equivalentCriticalAlert entry alert = true

/-- What holds between any two changes of the disk. -/
structure Consistent (history : List (List ProtocolEvent)) (disk : Disk) : Prop where
  snapshot : ∃ n, DiskAt history n disk
  once : ((journalRecords disk.delivered).map StoredAlert.id).Nodup
  journaled : ∀ entry ∈ journalRecords disk.delivered, Filed entry disk.journal

/-- What no change of the disk undoes. -/
structure Grows (before after : Disk) : Prop where
  journal : journalRecords before.journal <+: journalRecords after.journal
  delivered : journalRecords before.delivered <+: journalRecords after.delivered
  place : snapshotPlace (durableCursor before) ≤ snapshotPlace (durableCursor after)

theorem Grows.refl (disk : Disk) : Grows disk disk :=
  ⟨List.prefix_refl _, List.prefix_refl _, le_refl _⟩

theorem Grows.trans {a b c : Disk} (hab : Grows a b) (hbc : Grows b c) : Grows a c :=
  ⟨hab.journal.trans hbc.journal, hab.delivered.trans hbc.delivered, hab.place.trans hbc.place⟩

theorem consistent_new (history : List (List ProtocolEvent)) :
    Consistent history Station.new.disk where
  snapshot := ⟨0, Nat.zero_le _, rfl, fun _ => rfl, fun envelope h => absurd h (by simp [Station.new])⟩
  once := List.nodup_nil
  journaled entry hentry := absurd hentry List.not_mem_nil

theorem Filed.mono {alert : StoredAlert} {before after : Option AlertEnvelope}
    (h : Filed alert before) (hkept : journalRecords before <+: journalRecords after) :
    Filed alert after := by
  obtain ⟨entry, hentry, hequivalent⟩ := h
  exact ⟨entry, hkept.subset hentry, hequivalent⟩

section Delivery

variable [StoreTexts] {sink : FileCriticalAlertSink} {alert : StoredAlert}
  {file next : Option DeliveredAlertFile}

omit [StoreTexts] in
theorem mapM_decode_eq_ok {alerts decoded : List StoredAlert}
    (h : alerts.mapM decodeCriticalAlert = .ok decoded) : decoded = alerts := by
  induction alerts generalizing decoded with
  | nil => exact pure_eq_ok.mp h
  | cons alert alerts ih =>
      rw [List.mapM_cons] at h
      obtain ⟨first, hfirst, h⟩ := bind_eq_ok.mp h
      obtain ⟨rest, hrest, h⟩ := bind_eq_ok.mp h
      rw [pure_eq_ok.mp h, decodeCriticalAlert_eq_ok hfirst, ih hrest]

theorem FileCriticalAlertSink.load_eq_ok {alerts : List StoredAlert}
    (h : sink.load file = .ok alerts) :
    alerts = journalRecords file ∧ (alerts.map StoredAlert.id).Nodup := by
  rcases file with _ | file
  · rw [load, pure_eq_ok] at h
    subst h
    exact ⟨rfl, List.nodup_nil⟩
  · unfold load at h
    obtain ⟨_, h⟩ := bind_unit_eq_ok.mp h
    obtain ⟨_, h⟩ := bind_unit_eq_ok.mp h
    obtain ⟨_, h⟩ := bind_unit_eq_ok.mp h
    obtain ⟨decoded, hdecoded, h⟩ := bind_eq_ok.mp h
    obtain ⟨hnodup, h⟩ := bind_unit_eq_ok.mp h
    rw [throwIf_eq_ok, not_not] at hnodup
    obtain rfl := pure_eq_ok.mp h
    exact ⟨mapM_decode_eq_ok hdecoded, hnodup⟩

/-- What a delivery leaves in the file. -/
structure Delivers (alert : StoredAlert) (file next : Option DeliveredAlertFile) : Prop where
  kept : journalRecords file <+: journalRecords next
  filed : Filed alert next
  once : ((journalRecords next).map StoredAlert.id).Nodup
  only : ∀ entry ∈ journalRecords next, entry ∈ journalRecords file ∨ entry = alert

/-- **A delivery** adds the alert, unless a record of it is there. -/
theorem FileCriticalAlertSink.deliver_delivers (h : sink.deliver alert file = .ok next) :
    Delivers alert file next := by
  unfold deliver at h
  obtain ⟨encoded, hencoded, h⟩ := bind_eq_ok.mp h
  obtain ⟨_, rfl⟩ := encodeCriticalAlert_eq_ok.mp hencoded
  obtain ⟨existing, hexisting, h⟩ := bind_eq_ok.mp h
  obtain ⟨hrecords, hnodup⟩ := load_eq_ok hexisting
  -- Either no record has the id of the alert, and one is appended, or one has it, and has to be
  -- equivalent.
  rcases hprior : existing.find? (fun entry => entry.id = encoded.id) with _ | prior
  · rw [hprior] at h
    obtain ⟨written, hwritten, hwrite⟩ := bind_eq_ok.mp h
    obtain ⟨hsame, _⟩ := FileIndexerStore.mapM_encode_eq_ok hwritten
    obtain ⟨_, hwrite⟩ := bind_unit_eq_ok.mp hwrite
    have hnext : journalRecords next = journalRecords file ++ [encoded] := by
      rw [pure_eq_ok.mp hwrite, ← hrecords, ← hsame]
      rfl
    refine ⟨?_, ?_, ?_, ?_⟩
    · rw [hnext]
      exact List.prefix_append _ _
    · refine ⟨encoded, ?_, equivalentCriticalAlert_refl encoded⟩
      rw [hnext]
      exact List.mem_append_right _ (List.mem_singleton_self _)
    · rw [hnext, ← hrecords, List.map_append, List.map_singleton,
        List.nodup_append_comm, List.singleton_append, List.nodup_cons]
      refine ⟨?_, hnodup⟩
      intro hmem
      obtain ⟨entry, hentry, hid⟩ := List.mem_map.mp hmem
      have hother := List.find?_eq_none.mp hprior entry hentry
      exact hother (decide_eq_true hid)
    · intro entry hentry
      rw [hnext, List.mem_append, List.mem_singleton] at hentry
      exact hentry
  · rw [hprior] at h
    obtain ⟨hsame, hkept⟩ := bind_unit_eq_ok.mp h
    rw [throwIf_eq_ok, Bool.not_eq_false] at hsame
    have hmem : prior ∈ journalRecords file := by
      rw [← hrecords]
      exact List.mem_of_find?_eq_some hprior
    rw [pure_eq_ok.mp hkept]
    refine ⟨List.prefix_refl _, ⟨prior, hmem, hsame⟩, ?_, fun entry hentry => .inl hentry⟩
    rwa [← hrecords]

end Delivery

/-! ## Within a cycle -/

/-- The alerts that a cycle raised. -/
def WorkerRunResult.alerts (result : WorkerRunResult) : List CriticalAlert :=
  result.processing.alerts ++ (result.reconciliation.map ReconciliationReport.alerts).getD []

/-- What a cycle that found the files `before` leaves wherever it ends. -/
def Intact (history : List (List ProtocolEvent)) (before : Disk) (station : Station) : Prop :=
  Consistent history station.disk ∧ Grows before station.disk

/-- A cycle that found the files `before`, has filed some alerts since, and works
from a replica of a kind. -/
structure Cycling (history : List (List ProtocolEvent)) (before : Disk)
    (journaled delivered : List StoredAlert) (kind : Replica → Prop) (station : Station) : Prop where
  intact : Intact history before station
  journaled : ∀ alert ∈ journaled, Filed alert station.disk.journal
  delivered : ∀ alert ∈ delivered, Filed alert station.disk.delivered
  replica : kind station.indexer.replica

section Cycles

variable {history : List (List ProtocolEvent)} {before : Disk}
  {journaled delivered : List StoredAlert} {kind : Replica → Prop}

/-- What a cycle notes beside the replica. -/
theorem setIndexer_spec {f : Indexer → Indexer}
    (h : ∀ indexer, (f indexer).replica = indexer.replica) :
    Triple (Cycling history before journaled delivered kind) (setIndexer f)
      (fun _ => Cycling history before journaled delivered kind) (Intact history before) := by
  refine Triple.update fun station hstation => ?_
  refine ⟨hstation.intact, hstation.journaled, hstation.delivered, ?_⟩
  rw [h]
  exact hstation.replica

/-- What comes from outside changes nothing here. -/
theorem answered_spec {α : Type} (answer : α) :
    Triple (Cycling history before journaled delivered kind) (answered answer)
      (fun given station => given = answer
        ∧ Cycling history before journaled delivered kind station) (Intact history before) := by
  refine Triple.await (fun station hstation => hstation.intact) ?_
  intro station given next hstation heffect
  obtain ⟨rfl, rfl⟩ := Prod.mk.inj (Option.some.inj heffect)
  exact ⟨⟨rfl, hstation⟩, hstation.intact⟩

theorem attempt_spec {α ε : Type} (x : Except ε α) :
    Triple (Cycling history before journaled delivered kind) (attempt x)
      (fun a station => x = .ok a ∧ Cycling history before journaled delivered kind station)
      (Intact history before) :=
  Triple.attempt (fun _ _ hx hstation => ⟨hx, hstation⟩) fun _ hstation => hstation.intact

theorem toOption_eq_some {α ε : Type} {x : Except ε α} {a : α} (h : x.toOption = some a) :
    x = .ok a := by
  rcases x with e | b
  · exact absurd h (by simp [Except.toOption])
  · rw [Option.some.inj h]

/-! ## Alerts -/

variable [StoreTexts] [Spelling] {worker : IndexerWorker}

/-- **Journaling** files a record of every alert of the batch. -/
theorem persistAlerts_spec (alerts : List CriticalAlert) :
    Triple (Cycling history before journaled delivered kind) (worker.persistAlerts alerts)
      (fun _ => Cycling history before (journaled ++ alerts.map CriticalAlert.spelled) delivered kind)
      (Intact history before) := by
  unfold IndexerWorker.persistAlerts
  -- An empty batch does not touch the file.
  by_cases hnone : alerts = []
  · rw [if_pos hnone, hnone, List.map_nil, List.append_nil]
    exact Triple.pure fun _ hstation => hstation
  · rw [if_neg hnone]
    -- A cut before the rename leaves the file, one after it leaves the longer journal: both are
    -- intact.
    refine Triple.replacing (fun _ => rfl) (fun station hstation => hstation.intact) ?_
    intro station journal hstation hjournal
    have hextends := FileIndexerStore.replaceJournal_extends (toOption_eq_some hjournal)
    have hkept : journalRecords station.disk.journal <+: journalRecords (some journal) :=
      hextends.kept
    obtain ⟨hconsistent, hgrows⟩ := hstation.intact
    have hintact : Intact history before
        { station with disk := { station.disk with journal := some journal } } := by
      refine ⟨⟨?_, hconsistent.once, ?_⟩, ⟨hgrows.journal.trans hkept, hgrows.delivered,
        hgrows.place⟩⟩
      · obtain ⟨n, hn⟩ := hconsistent.snapshot
        exact ⟨n, hn.le, hn.cursor, hn.absent, hn.exact⟩
      · intro entry hentry
        exact (hconsistent.journaled entry hentry).mono hkept
    refine ⟨⟨hintact, ?_, hstation.delivered, hstation.replica⟩, hintact⟩
    intro alert halert
    rcases List.mem_append.mp halert with halert | halert
    · exact (hstation.journaled alert halert).mono hkept
    · exact hextends.journaled alert halert

theorem deliverOne_spec {alert : CriticalAlert} (halert : alert.spelled ∈ journaled) :
    Triple (Cycling history before journaled delivered kind) (worker.deliverOne alert)
      (fun _ => Cycling history before journaled (delivered ++ [alert.spelled]) kind)
      (Intact history before) := by
  refine Triple.await (fun station hstation => hstation.intact) ?_
  intro station given next hstation heffect
  obtain ⟨file, hfile, hnext⟩ := Option.map_eq_some_iff.mp heffect
  obtain ⟨rfl, rfl⟩ := Prod.mk.inj hnext
  have hdelivers := FileCriticalAlertSink.deliver_delivers (toOption_eq_some hfile)
  obtain ⟨hconsistent, hgrows⟩ := hstation.intact
  -- What is delivered was journaled before, so that a cut after the delivery loses no alert.
  have hintact : Intact history before
      { station with disk := { station.disk with delivered := file } } := by
    refine ⟨⟨?_, hdelivers.once, ?_⟩, ⟨hgrows.journal, hgrows.delivered.trans hdelivers.kept,
      hgrows.place⟩⟩
    · obtain ⟨n, hn⟩ := hconsistent.snapshot
      exact ⟨n, hn.le, hn.cursor, hn.absent, hn.exact⟩
    · intro entry hentry
      rcases hdelivers.only entry hentry with hold | rfl
      · exact hconsistent.journaled entry hold
      · exact hstation.journaled _ halert
  refine ⟨⟨hintact, hstation.journaled, ?_, hstation.replica⟩, hintact⟩
  intro entry hentry
  rcases List.mem_append.mp hentry with hentry | hentry
  · exact (hstation.delivered entry hentry).mono hdelivers.kept
  · rw [List.mem_singleton.mp hentry]
    exact hdelivers.filed

/-- **Delivery** of alerts that are journaled. -/
theorem deliver_spec {alerts : List CriticalAlert}
    (halerts : ∀ alert ∈ alerts, alert.spelled ∈ journaled) (ids : List Text) :
    Triple (Cycling history before journaled delivered kind) (worker.deliver ids alerts)
      (fun _ => Cycling history before journaled
        (delivered ++ alerts.map CriticalAlert.spelled) kind) (Intact history before) := by
  induction alerts generalizing ids delivered with
  | nil =>
      rw [List.map_nil, List.append_nil]
      exact Triple.pure fun _ hstation => hstation
  | cons alert alerts ih =>
      rw [List.forall_mem_cons] at halerts
      have hrest := @ih (delivered ++ [alert.spelled]) halerts.2 (ids ++ [alert.id])
      rw [List.append_assoc, List.singleton_append, ← List.map_cons] at hrest
      exact Triple.bind (deliverOne_spec halerts.1) fun _ => hrest

/-! ## The methods of a cycle -/

variable [Sha256] {n : ℕ}

omit [Spelling] in
/-- **A restored indexer** has the state of the persisted snapshot. -/
theorem restore_spec (hconsistent : Consistent history before) :
    Triple (fun station => station.disk = before) worker.restoreLatestSnapshot
      (fun _ => Cycling history before [] [] before.Restores) (Intact history before) := by
  have hcut : ∀ station : Station, station.disk = before → Intact history before station := by
    rintro station rfl
    exact ⟨hconsistent, Grows.refl _⟩
  have hstart : ∀ {station : Station}, station.disk = before →
      before.Restores station.indexer.replica →
      Cycling history before [] [] before.Restores station :=
    fun hdisk hrestores => ⟨hcut _ hdisk, by simp, by simp, hrestores⟩
  unfold IndexerWorker.restoreLatestSnapshot
  refine Triple.bind (Q := fun _ station => station.disk = before)
    (Triple.update fun _ hdisk => hdisk) fun _ => ?_
  refine Triple.bind (Q := fun loaded station =>
    worker.store.loadLatestSnapshot before.snapshot = .ok loaded ∧ station.disk = before) ?_
    fun loaded => Triple.given fun hloaded => ?_
  · refine Triple.await hcut ?_
    intro station loaded next hdisk heffect
    obtain ⟨loaded', hloaded, hnext⟩ := Option.map_eq_some_iff.mp heffect
    obtain ⟨rfl, rfl⟩ := Prod.mk.inj hnext
    subst hdisk
    exact ⟨⟨toOption_eq_some hloaded, rfl⟩, hcut _ rfl⟩
  · rcases hsnapshot : before.snapshot with _ | envelope
    · rw [hsnapshot, FileIndexerStore.loadLatestSnapshot, pure_eq_ok] at hloaded
      subst hloaded
      refine Triple.update fun station hdisk => hstart hdisk ⟨?_, ?_⟩
      · rw [durableCursor, hsnapshot]
        rfl
      · rw [hsnapshot]
        rfl
    · rw [hsnapshot, FileIndexerStore.loadLatestSnapshot_eq_ok] at hloaded
      obtain ⟨_, _, _, _, decoded, hdecoded, rfl⟩ := hloaded
      refine Triple.bind (Q := fun snapshot station =>
        decodeSnapshot (encodeSnapshot decoded) = .ok snapshot ∧ station.disk = before) ?_
        fun snapshot => Triple.given fun hagain => ?_
      · exact Triple.attempt (fun _ _ hagain hdisk => ⟨hagain, hdisk⟩) hcut
      · -- What was decoded is what its encoding decodes to.
        rw [encodeSnapshot_of_decode hdecoded] at hagain
        obtain ⟨_, _, _, _, _, rfl⟩ := decodeSnapshot_eq_ok.mp hagain
        refine Triple.update fun station hdisk => hstart hdisk ⟨?_, ?_⟩
        · rw [durableCursor, hsnapshot]
          rfl
        · rw [hsnapshot]
          rfl

/-! ### Polling -/

/-- The replica and the result after a page that held the `next` transactions. -/
def Handled (history : List (List ProtocolEvent)) (n : ℕ) (next : List (List ProtocolEvent))
    (result : ProcessResult) (replica : Replica) : Prop :=
  ∃ m, Processed history n next (replica, .ok result) m ∧ result.cursor = replica.cursor

omit [StoreTexts] [Spelling] [Sha256] in
theorem Replica.process_cursor {replica : Replica} {events : List ProtocolEvent}
    {result : ProcessResult} (h : (replica.process events).2 = .ok result) :
    result.cursor = (replica.process events).1.cursor := by
  unfold Replica.process at h ⊢
  simp only at h ⊢
  split at h
  · exact absurd h (by simp)
  · rw [← Except.ok.inj h]

omit [StoreTexts] [Spelling] [Sha256] in
/-- What processing a page leads to is handled if it does not throw. -/
theorem StandsAt.handled (hlog : Finalized history) {replica : Replica}
    (hstands : StandsAt history n replica) {events : List ProtocolEvent}
    {next : List (List ProtocolEvent)} (hpage : Serves history replica.cursor events next)
    {result : ProcessResult} (h : (replica.process events).2 = .ok result) :
    Handled history n next result (replica.process events).1 := by
  obtain ⟨m, hm⟩ := hstands.processed hlog hpage
  refine ⟨m, ?_, Replica.process_cursor h⟩
  rwa [← h]

omit [Sha256] in
/-- **A page is processed and its alerts are journaled.** -/
theorem process_spec (hlog : Finalized history) {events : List ProtocolEvent}
    {next : List (List ProtocolEvent)}
    (hpage : Serves history (cursorAt (history.take n)) events next) :
    Triple (Cycling history before [] [] (StandsAt history n)) (worker.process events)
      (fun result => Cycling history before (result.alerts.map CriticalAlert.spelled) []
        (Handled history n next result)) (Intact history before) := by
  unfold IndexerWorker.process
  refine Triple.bind (setIndexer_spec fun _ => rfl) fun _ => ?_
  refine Triple.bind (Q := fun replica station => StandsAt history n replica
    ∧ Cycling history before [] [] (fun _ => True) station) ?_ fun replica => ?_
  · exact Triple.gets fun station hstation => ⟨hstation.replica,
      hstation.intact, hstation.journaled, hstation.delivered, trivial⟩
  · -- The replica stands at a prefix of the history that the page continues.
    refine Triple.given fun hstands => ?_
    rw [← hstands.cursor] at hpage
    have hhandled : ∀ result, (replica.process events).2 = .ok result →
        Handled history n next result (replica.process events).1 :=
      fun _ h => hstands.handled hlog hpage h
    rcases hprocess : replica.process events with ⟨replica', result⟩
    rw [hprocess] at hhandled
    refine Triple.bind (Q := fun _ => Cycling history before [] [] fun replica =>
      replica = replica') ?_ fun _ => ?_
    · exact Triple.update fun station hstation =>
        ⟨hstation.intact, hstation.journaled, hstation.delivered, rfl⟩
    · refine Triple.bind (attempt_spec result) fun result => Triple.given fun hresult => ?_
      refine Triple.bind (persistAlerts_spec result.alerts) fun _ => ?_
      refine Triple.pure fun station hstation => ?_
      refine ⟨hstation.intact, hstation.journaled, hstation.delivered, ?_⟩
      rw [hstation.replica]
      exact hhandled result hresult

omit [Sha256] in
/-- **A poll** of the chain's page. -/
theorem pollOnce_spec (hlog : Finalized history) {c : Circumstances}
    {next : List (List ProtocolEvent)}
    (hpage : c.page.chainId = CEDRA_TESTNET_CHAIN_ID →
      Serves history (cursorAt (history.take n)) c.page.events next) :
    Triple (Cycling history before [] [] (StandsAt history n)) (worker.pollOnce c)
      (fun result => Cycling history before (result.alerts.map CriticalAlert.spelled) []
        (Handled history n next result)) (Intact history before) := by
  unfold IndexerWorker.pollOnce
  by_cases hlimit : c.limit < 1 ∨ 10_000 < c.limit
  · rw [if_pos hlimit]
    exact Triple.fail fun _ hstation => hstation.intact
  · rw [if_neg hlimit]
    refine Triple.bind (answered_spec c.page) fun page => Triple.given ?_
    rintro rfl
    by_cases hchain : c.page.chainId = CEDRA_TESTNET_CHAIN_ID
    · rw [if_neg (not_not.mpr hchain)]
      exact process_spec hlog (hpage hchain)
    · rw [if_pos hchain]
      exact Triple.fail fun _ hstation => hstation.intact

/-! ### Reconciling -/

omit [StoreTexts] [Spelling] in
theorem authorize_replica (indexer : Indexer) (now : ℤ) (projection : ProtocolProjection)
    (reference : ℕ) (cursor : EventCursor) (identity : String)
    (observed : ObservedAccountingSnapshot) (report : ReconciliationReport) :
    (indexer.authorize now projection reference cursor identity observed report).1.replica
      = indexer.replica := by
  unfold Indexer.authorize
  simp only
  split_ifs <;> rfl

/-- **A reconciliation** journals the alerts of its report. -/
theorem reconcile_spec (c : Circumstances) :
    Triple (Cycling history before journaled delivered kind) (worker.reconcile c)
      (fun report => Cycling history before
        (journaled ++ report.alerts.map CriticalAlert.spelled) delivered kind)
      (Intact history before) := by
  unfold IndexerWorker.reconcile
  refine Triple.bind (Q := fun _ => Cycling history before journaled delivered kind)
    (Triple.gets fun _ hstation => hstation) fun replica => ?_
  rcases replica.cursor with _ | cursor
  · exact Triple.fail fun _ hstation => hstation.intact
  · refine Triple.bind (setIndexer_spec fun _ => rfl) fun _ => ?_
    refine Triple.bind (attempt_spec _) fun identity => Triple.given fun _ => ?_
    refine Triple.bind (answered_spec c.observed) fun observed => Triple.given fun _ => ?_
    refine Triple.bind (attempt_spec _) fun report => Triple.given fun _ => ?_
    refine Triple.bind (persistAlerts_spec report.alerts) fun _ => ?_
    refine Triple.bind (setIndexer_spec fun indexer => ?_) fun _ =>
      Triple.pure fun _ hstation => hstation
    exact authorize_replica _ _ _ _ _ _ _ _

/-! ### Checkpointing -/

/-- A snapshot that is taken of a replica at a prefix. -/
def TakenAt (history : List (List ProtocolEvent)) (snapshot : IndexerSnapshot) : Prop :=
  ∃ m replica takenAtUnixMilliseconds, StandsAt history m replica
    ∧ takeSnapshot replica.projection replica.cursor takenAtUnixMilliseconds = .ok snapshot

omit [Spelling] in
/-- **The snapshot on the disk** is replaced by one that was taken at a prefix. -/
theorem saveSnapshot_spec {snapshot : IndexerSnapshot} (htaken : TakenAt history snapshot)
    (base : Option String) :
    Triple (Cycling history before journaled delivered kind) (worker.saveSnapshot snapshot base)
      (fun _ => Cycling history before journaled delivered kind) (Intact history before) := by
  refine Triple.replacing (fun _ => rfl) (fun station hstation => hstation.intact) ?_
  intro station saved hstation hsaved
  have hreplaces := FileIndexerStore.replaceSnapshot_replaces (toOption_eq_some hsaved)
  obtain ⟨m, replica, takenAt, hstands, htaken⟩ := htaken
  obtain ⟨_, _, _, rfl⟩ := takeSnapshot_eq_ok.mp htaken
  obtain ⟨hconsistent, hgrows⟩ := hstation.intact
  -- The file is only replaced by a snapshot that is not behind it.
  have hplace : snapshotPlace (durableCursor station.disk)
      ≤ snapshotPlace saved.snapshot.cursor := by
    unfold durableCursor
    rcases hfile : station.disk.snapshot with _ | envelope
    · exact bot_le
    · exact (hreplaces.succeeds envelope hfile).2.place
  have hintact : Intact history before
      { station with disk := { station.disk with snapshot := some saved } } := by
    refine ⟨⟨⟨m, hstands.le, ?_, fun h => absurd h (by simp), ?_⟩, hconsistent.once,
      hconsistent.journaled⟩, ⟨hgrows.journal, hgrows.delivered, hgrows.place.trans hplace⟩⟩
    · show saved.snapshot.cursor = _
      rw [hreplaces.snapshot, ← hstands.cursor]
      rfl
    · intro envelope henvelope
      obtain rfl := Option.some.inj henvelope
      refine ⟨replica.projection, hstands.projection, ?_⟩
      rw [hreplaces.snapshot]
      rfl
  exact ⟨⟨hintact, hstation.journaled, hstation.delivered, hstation.replica⟩, hintact⟩

omit [Spelling] in
theorem knownBase_spec :
    Triple (Cycling history before journaled delivered kind) worker.knownBase
      (fun _ => Cycling history before journaled delivered kind) (Intact history before) := by
  unfold IndexerWorker.knownBase
  refine Triple.bind (Q := fun _ => Cycling history before journaled delivered kind)
    (Triple.gets fun _ hstation => hstation) fun base => ?_
  rcases base with _ | base
  · refine Triple.bind (Q := fun _ => Cycling history before journaled delivered kind) ?_
      fun existing => ?_
    · refine Triple.await (fun station hstation => hstation.intact) ?_
      intro station given next hstation heffect
      obtain ⟨_, _, hnext⟩ := Option.map_eq_some_iff.mp heffect
      obtain ⟨rfl, rfl⟩ := Prod.mk.inj hnext
      exact ⟨hstation, hstation.intact⟩
    · rcases existing with _ | existing
      · exact Triple.bind (setIndexer_spec fun _ => rfl) fun _ =>
          Triple.pure fun _ hstation => hstation
      · exact Triple.fail fun _ hstation => hstation.intact
  · exact Triple.pure fun _ hstation => hstation

omit [Spelling] in
/-- **A checkpoint** is one of the replica that is in memory. -/
theorem snapshot_spec (hkind : ∀ replica, kind replica → ∃ m, StandsAt history m replica)
    (takenAtUnixMilliseconds : ℤ) :
    Triple (Cycling history before journaled delivered kind)
      (worker.snapshot takenAtUnixMilliseconds)
      (fun _ => Cycling history before journaled delivered kind) (Intact history before) := by
  unfold IndexerWorker.snapshot
  refine Triple.bind (Q := fun indexer station => kind indexer.replica
    ∧ Cycling history before journaled delivered kind station)
    (Triple.gets fun _ hstation => ⟨hstation.replica, hstation⟩) fun indexer => ?_
  refine Triple.given fun hindexer => ?_
  refine Triple.bind (attempt_spec _) fun taken => Triple.given fun htaken => ?_
  have hat : TakenAt history taken := by
    obtain ⟨m, hstands⟩ := hkind indexer.replica hindexer
    obtain ⟨cursor, _, hcursor, _, htaken⟩ := Indexer.checkpoint_eq_ok htaken
    rw [← hcursor] at htaken
    exact ⟨m, indexer.replica, takenAtUnixMilliseconds, hstands, htaken⟩
  refine Triple.bind knownBase_spec fun base => ?_
  refine Triple.bind (saveSnapshot_spec hat base) fun _ => ?_
  exact Triple.bind (setIndexer_spec fun _ => rfl) fun _ => Triple.pure fun _ hstation => hstation

/-! ## A cycle -/

/-- What a cycle that returns leaves. -/
structure Settled (history : List (List ProtocolEvent)) (before : Disk) (n : ℕ)
    (next : List (List ProtocolEvent)) (result : WorkerRunResult) (station : Station) : Prop where
  intact : Intact history before station
  handled : ∃ replica, Handled history n next result.processing replica
  journaled : ∀ alert ∈ result.alerts, Filed alert.spelled station.disk.journal
  delivered : ∀ alert ∈ result.alerts, Filed alert.spelled station.disk.delivered

omit [Spelling] [StoreTexts] [Sha256] in
theorem Handled.standsAt {next : List (List ProtocolEvent)} {result : ProcessResult}
    {replica : Replica} (h : Handled history n next result replica) :
    ∃ m, StandsAt history m replica := by
  obtain ⟨m, hm, _⟩ := h
  exact ⟨m, hm.standsAt⟩

omit [Sha256] [StoreTexts] in
/-- A cycle that filed every alert of its result. -/
theorem Cycling.settled {next : List (List ProtocolEvent)} {result : WorkerRunResult}
    {station : Station} (hjournaled : journaled = result.alerts.map CriticalAlert.spelled)
    (hdelivered : delivered = result.alerts.map CriticalAlert.spelled)
    (h : Cycling history before journaled delivered (Handled history n next result.processing)
      station) : Settled history before n next result station := by
  refine ⟨h.intact, ⟨_, h.replica⟩, ?_, ?_⟩
  · intro alert halert
    refine h.journaled _ ?_
    rw [hjournaled]
    exact List.mem_map_of_mem halert
  · intro alert halert
    refine h.delivered _ ?_
    rw [hdelivered]
    exact List.mem_map_of_mem halert

/-- **A cycle under the lease**, from the files that it finds. -/
theorem runOnceUnderLease_spec (hlog : Finalized history) (hconsistent : Consistent history before)
    (hn : DiskAt history n before) {c : Circumstances} {next : List (List ProtocolEvent)}
    (hpage : c.page.chainId = CEDRA_TESTNET_CHAIN_ID →
      Serves history (cursorAt (history.take n)) c.page.events next) :
    Triple (fun station => station.disk = before) (worker.runOnceUnderLease c)
      (Settled history before n next) (Intact history before) := by
  unfold IndexerWorker.runOnceUnderLease
  have hrestored : Triple (fun station => station.disk = before) worker.restoreLatestSnapshot
      (fun _ => Cycling history before [] [] (StandsAt history n)) (Intact history before) :=
    (restore_spec hconsistent).weaken (fun _ hdisk => hdisk) fun _ _ hstation =>
      ⟨hstation.intact, hstation.journaled, hstation.delivered, hn.standsAt hstation.replica⟩
  -- The phases of a cycle follow each other: restore, poll, deliver, reconcile, deliver, snapshot.
  refine Triple.bind hrestored fun _ => ?_
  refine Triple.bind (pollOnce_spec hlog hpage) fun processing => ?_
  refine Triple.bind (deliver_spec (fun alert => List.mem_map_of_mem) []) fun ids => ?_
  -- Alerts, or a chain without any event, end the cycle before the reconciliation.
  by_cases hstop : processing.alerts ≠ [] ∨ processing.cursor = none
  · rw [if_pos hstop]
    refine Triple.pure fun station hstation => hstation.settled ?_ ?_
    · simp [WorkerRunResult.alerts]
    · simp [WorkerRunResult.alerts]
  · rw [if_neg hstop]
    refine Triple.bind (reconcile_spec c) fun reconciliation => ?_
    refine Triple.bind (deliver_spec (fun alert halert =>
      List.mem_append_right _ (List.mem_map_of_mem halert)) ids) fun ids => ?_
    -- Only a reconciled projection is snapshotted.
    by_cases hreconciled : reconciliation.reconciled = false
    · rw [if_pos hreconciled]
      refine Triple.pure fun station hstation => hstation.settled ?_ ?_
      · simp [WorkerRunResult.alerts]
      · simp [WorkerRunResult.alerts]
    · rw [if_neg hreconciled]
      refine Triple.bind (snapshot_spec (fun _ => Handled.standsAt) _) fun snapshot => ?_
      refine Triple.pure fun station hstation => hstation.settled ?_ ?_
      · simp [WorkerRunResult.alerts]
      · simp [WorkerRunResult.alerts]

/-- **A cycle** that is called over a consistent disk. -/
theorem runOnce_spec (hlog : Finalized history) (hconsistent : Consistent history before)
    (hn : DiskAt history n before) {c : Circumstances} {next : List (List ProtocolEvent)}
    (hpage : c.page.chainId = CEDRA_TESTNET_CHAIN_ID →
      Serves history (cursorAt (history.take n)) c.page.events next) :
    Triple (fun station => station.disk = before) (worker.runOnce c)
      (Settled history before n next) (Intact history before) := by
  have hcut : ∀ station : Station, station.disk = before → Intact history before station := by
    rintro station rfl
    exact ⟨hconsistent, Grows.refl _⟩
  unfold IndexerWorker.runOnce
  refine Triple.bind (Q := fun _ station => station.disk = before) ?_ fun _ => ?_
  · refine Triple.await hcut ?_
    intro station given next hdisk heffect
    obtain ⟨rfl, rfl⟩ := Prod.mk.inj (Option.some.inj heffect)
    exact ⟨hdisk, hcut _ hdisk⟩
  · refine Triple.bind (runOnceUnderLease_spec hlog hconsistent hn hpage) fun result => ?_
    refine Triple.bind (Q := fun _ => Settled history before n next result)
      (Triple.pause (fun _ hsettled => hsettled.intact) fun _ hsettled => hsettled) fun _ => ?_
    exact Triple.pure fun _ hsettled => hsettled

/-! ## Runs of cycles -/

/-- The source answers a call with a page of the history, if with one of the chain. -/
def Circumstances.Honest (c : Circumstances) (history : List (List ProtocolEvent)) (disk : Disk) :
    Prop :=
  c.page.chainId = CEDRA_TESTNET_CHAIN_ID →
    ∃ next, Serves history (durableCursor disk) c.page.events next

/-- A call of `runOnce`, however it ends, or a new process. -/
inductive IndexerWorker.Step (worker : IndexerWorker) (history : List (List ProtocolEvent)) :
    Station → Station → Prop
  | ran (c : Circumstances) (fates rest : List Fate) (station station' : Station)
      (outcome : Except Cut WorkerRunResult) (hpage : c.Honest history station.disk)
      (hrun : worker.runOnce c (station, fates) = ((station', rest), outcome)) :
      Step worker history station (IndexerWorker.after station' outcome)
  | restarted (station : Station) :
      Step worker history station { station with indexer := .new }

def IndexerWorker.Runs (worker : IndexerWorker) (history : List (List ProtocolEvent)) :
    Station → Station → Prop :=
  Relation.ReflTransGen (worker.Step history)

omit [Spelling] [StoreTexts] [Sha256] in
@[simp]
theorem after_disk (station : Station) (outcome : Except Cut WorkerRunResult) :
    (IndexerWorker.after station outcome).disk = station.disk := by
  rcases outcome with ⟨_ | _⟩ | _ <;> rfl

omit [Spelling] [StoreTexts] [Sha256] in
/-- What a source serves for the cursor of the disk. -/
theorem Circumstances.Honest.serves {c : Circumstances} (h : c.Honest history before)
    (hn : DiskAt history n before) :
    ∃ next, c.page.chainId = CEDRA_TESTNET_CHAIN_ID →
      Serves history (cursorAt (history.take n)) c.page.events next := by
  by_cases hchain : c.page.chainId = CEDRA_TESTNET_CHAIN_ID
  · obtain ⟨next, hnext⟩ := h hchain
    rw [hn.cursor] at hnext
    exact ⟨next, fun _ => hnext⟩
  · exact ⟨[], fun h => absurd h hchain⟩

/-- **A step** keeps the disk consistent, and only adds to it. -/
theorem IndexerWorker.Step.intact (hlog : Finalized history) {station next : Station}
    (h : worker.Step history station next) (hconsistent : Consistent history station.disk) :
    Intact history station.disk next := by
  cases h with
  | restarted => exact ⟨hconsistent, Grows.refl _⟩
  | ran c fates rest _ station' outcome hpage hrun =>
      obtain ⟨n, hn⟩ := hconsistent.snapshot
      obtain ⟨next, hnext⟩ := hpage.serves hn
      have hspec : Triple (fun station' => station'.disk = station.disk) (worker.runOnce c)
          (Settled history station.disk n next) (Intact history station.disk) :=
        runOnce_spec hlog hconsistent hn hnext
      have hintact : Intact history station.disk station' := by
        rcases outcome with cut | result
        · exact hspec.cut rfl hrun
        · exact (hspec.result rfl hrun).intact
      unfold Intact
      rw [after_disk]
      exact hintact

/-- **A run** of cycles. -/
theorem IndexerWorker.Runs.intact (hlog : Finalized history) {station later : Station}
    (h : worker.Runs history station later) (hconsistent : Consistent history station.disk) :
    Intact history station.disk later := by
  induction h with
  | refl => exact ⟨hconsistent, Grows.refl _⟩
  | tail _ hstep ih =>
      obtain ⟨hbetween, hgrows⟩ := ih
      obtain ⟨hlater, hmore⟩ := hstep.intact hlog hbetween
      exact ⟨hlater, hgrows.trans hmore⟩

/-- What cycles have left at a station, and what those after it will do. -/
structure RestartSafe (worker : IndexerWorker) (history : List (List ProtocolEvent))
    (station : Station) : Prop where
  /-- What the sink holds is journaled. -/
  journaled : ∀ entry ∈ journalRecords station.disk.delivered, Filed entry station.disk.journal
  once : ((journalRecords station.disk.delivered).map StoredAlert.id).Nodup
  /-- The persisted snapshot is the fold over the transactions up to its cursor. -/
  snapshot : ∀ envelope, station.disk.snapshot = some envelope →
    ∃ n ≤ history.length, envelope.snapshot.cursor = cursorAt (history.take n)
      ∧ ∃ projection, replayed (history.take n) = some projection
        ∧ envelope.snapshot.projection = serialiseProjection projection
        ∧ envelope.snapshot.projection.restore = projection
  /-- A cycle that returns has journaled and delivered its alerts. -/
  returned : ∀ (c : Circumstances) (fates rest : List Fate) (station' : Station)
    (result : WorkerRunResult), c.Honest history station.disk →
    worker.runOnce c (station, fates) = ((station', rest), .ok result) →
    ∀ alert ∈ result.alerts, Filed alert.spelled station'.disk.journal
      ∧ Filed alert.spelled station'.disk.delivered
  /-- What processing a page raises here is delivered by the next cycle that returns
  on the page, whatever happened in between. -/
  redelivered : ∀ (c : Circumstances) (replica : Replica) (processing : ProcessResult),
    c.Honest history station.disk → c.page.chainId = CEDRA_TESTNET_CHAIN_ID →
    station.disk.Restores replica → (replica.process c.page.events).2 = .ok processing →
    ∀ (later station' : Station) (c' : Circumstances) (fates rest : List Fate)
      (result : WorkerRunResult), worker.Runs history station later → c'.page = c.page →
      worker.runOnce c' (later, fates) = ((station', rest), .ok result) →
      ∀ alert ∈ processing.alerts, alert ∈ result.processing.alerts
        ∧ Filed alert.spelled station'.disk.journal
        ∧ Filed alert.spelled station'.disk.delivered

omit [Spelling] [StoreTexts] [Sha256] in
/-- **A page that is polled again** from a later snapshot raises its alerts again. -/
theorem alerts_again (hlog : Finalized history) {later : Disk} {n' : ℕ}
    (hn : DiskAt history n before) (hn' : DiskAt history n' later) (hgrows : Grows before later)
    {replica : Replica} (hrestores : before.Restores replica) {events : List ProtocolEvent}
    {next : List (List ProtocolEvent)} (hpage : Serves history replica.cursor events next)
    {processing : ProcessResult} (hprocessing : (replica.process events).2 = .ok processing)
    (hraised : processing.alerts ≠ []) :
    ∃ left, Serves history (cursorAt (history.take n')) events left
      ∧ ∀ result replica', Handled history n' left result replica' →
        result.alerts = processing.alerts := by
  have hstands := hn.standsAt hrestores
  obtain ⟨restored, hrestored⟩ := later.restores_exists
  have hstands' := hn'.standsAt hrestored
  obtain ⟨m, hm, _⟩ := hstands.handled hlog hpage hprocessing
  have hle := hm.le_to
  have hshort : m < n + next.length := by
    have hunfinished : m ≠ n + next.length :=
      fun hend => hraised ((hm.complete processing rfl).mpr hend)
    omega
  -- The later snapshot is neither before the earlier one nor past the rejection.
  have hlow : n ≤ n' := by
    refine le_of_snapshotPlace_le hlog hn'.le hn.le ?_
    rw [← hn.cursor, ← hn'.cursor]
    exact hgrows.place
  have hhigh : n' ≤ m := hm.le_of_replayed hshort hn'.le hstands'.projection
  have hdone : (next.take (n' - n)).length = n' - n := by
    rw [List.length_take]
    omega
  have hsplit : next = next.take (n' - n) ++ next.drop (n' - n) :=
    (List.take_append_drop _ _).symm
  have hat : StandsAt history (n + (next.take (n' - n)).length) restored := by
    rwa [hdone, Nat.add_sub_cancel' hlow]
  rw [hsplit] at hpage
  have hleft := hstands.redelivered hlog hpage hat
  refine ⟨next.drop (n' - n), ?_, ?_⟩
  · rw [← hstands'.cursor]
    exact hleft
  · rintro result replica' ⟨m', hm', _⟩
    have hserved := hpage.contiguous.length_le
    rw [(hstands.isNew_iff hlog).1, List.length_drop, ← hsplit] at hserved
    have hstart := hn.le
    refine hm'.alerts_eq hm ?_ ?_
    · rw [List.length_drop]
      omega
    · rw [List.length_drop]
      omega

theorem IndexerWorker.restart_safe (hlog : Finalized history) {station : Station}
    (hruns : worker.Runs history .new station) : RestartSafe worker history station := by
  obtain ⟨hconsistent, _⟩ := hruns.intact hlog (consistent_new history)
  obtain ⟨n, hn⟩ := hconsistent.snapshot
  refine ⟨hconsistent.journaled, hconsistent.once, ?_, ?_, ?_⟩
  · intro envelope henvelope
    obtain ⟨projection, hreplayed, hexact⟩ := hn.exact envelope henvelope
    have hcursor := hn.cursor
    rw [durableCursor, henvelope] at hcursor
    refine ⟨n, hn.le, hcursor, projection, hreplayed, hexact, ?_⟩
    rw [hexact, restore_serialise (keyed_of_replayed hreplayed)]
  · intro c fates rest station' result hpage hrun alert halert
    obtain ⟨next, hnext⟩ := hpage.serves hn
    have hspec : Triple (fun station' => station'.disk = station.disk) (worker.runOnce c)
        (Settled history station.disk n next) (Intact history station.disk) :=
      runOnce_spec hlog hconsistent hn hnext
    have hsettled := hspec.result rfl hrun
    exact ⟨hsettled.journaled alert halert, hsettled.delivered alert halert⟩
  · intro c replica processing hpage hchain hrestores hprocessing later station' c' fates rest
      result hlater hsame hrun alert halert
    obtain ⟨hconsistent', hgrows⟩ := hlater.intact hlog hconsistent
    obtain ⟨n', hn'⟩ := hconsistent'.snapshot
    obtain ⟨next, hnext⟩ := hpage hchain
    rw [← hrestores.cursor] at hnext
    -- What is left of the page raises the same alerts at whatever prefix the disk stands.
    obtain ⟨left, hleft, hagain⟩ := alerts_again hlog hn hn' hgrows hrestores hnext hprocessing
      (List.ne_nil_of_mem halert)
    have hspec : Triple (fun station' => station'.disk = later.disk) (worker.runOnce c')
        (Settled history later.disk n' left) (Intact history later.disk) :=
      runOnce_spec hlog hconsistent' hn' fun _ => hsame ▸ hleft
    have hsettled := hspec.result rfl hrun
    obtain ⟨replica', hhandled⟩ := hsettled.handled
    have hmem : alert ∈ result.processing.alerts := by
      rw [hagain result.processing replica' hhandled]
      exact halert
    have hraised : alert ∈ result.alerts := List.mem_append_left _ hmem
    exact ⟨hmem, hsettled.journaled alert hraised, hsettled.delivered alert hraised⟩

end Cycles

namespace Sample

def worker : IndexerWorker := ⟨store, ⟨digest none, digest_wellFormed⟩⟩

def circumstances : Circumstances := ⟨200, page, views [], 1_000, 1_000⟩

/-- A cycle that is killed while it waits for the views. -/
def killedCycle : (Station × List Fate) × Except Cut WorkerRunResult :=
  @IndexerWorker.runOnce cursorSha256 cursorTexts spelling worker circumstances
    (.new, [.settles, .settles, .settles])

end Sample

theorem restart_safe_killed :
    @RestartSafe Sample.cursorTexts Sample.spelling Sample.cursorSha256 Sample.worker
      Sample.history (IndexerWorker.after Sample.killedCycle.1.1 Sample.killedCycle.2) := by
  let _ := Sample.cursorSha256
  let _ := Sample.cursorTexts
  let _ := Sample.spelling
  have hrun : Sample.worker.runOnce Sample.circumstances (.new, [.settles, .settles, .settles])
      = ((Sample.killedCycle.1.1, Sample.killedCycle.1.2), Sample.killedCycle.2) := rfl
  have hstep := IndexerWorker.Step.ran Sample.circumstances _ _ _ _ _
    (fun _ => ⟨Sample.history, Sample.page_serves⟩) hrun
  exact IndexerWorker.restart_safe Sample.history_finalized (.single hstep)

end CedraReflect.indexer
