/-
`file-store.ts` of the indexer: what its two files hold and how they are
replaced.

A file is the record its JSON text denotes, as in the module on snapshots, and a
critical alert in the journal is one with its texts spelled out. This module has
the part of `FileIndexerStore` between the read of a file and its replacement:
[`FileIndexerStore.replaceSnapshot`] and [`FileIndexerStore.replaceJournal`] are
what `saveSnapshotUnderLease` and `appendAlertsUnderLease` make of the content
they find. The locks, the lease and the order of the file operations are in the
module on the safety of the store.
-/
import CedraReflect.EventIndexer
import CedraReflect.Reconciler
import CedraReflect.SnapshotCodec
import Mathlib.Data.Int.ConditionallyCompleteOrder

set_option autoImplicit false
set_option linter.constructorNameAsVariable false

namespace CedraReflect.indexer

/-! ## Critical alerts in a file -/

def Fragment.render [Spelling] : Fragment → String
  | lit s => s
  | int n => toString n
  | bool b => toString b
  | address a => Spelling.spell a

/-- The string of a template literal. -/
def Text.render [Spelling] (text : Text) : String := String.join (text.map Fragment.render)

/-- A critical alert, with its texts spelled out. -/
structure StoredAlert where
  id : String
  severity : AlertSeverity
  code : AlertCode
  message : String
  detectedAtUnixMilliseconds : ℤ
  cursor : Option EventCursor
  expected : Option String
  observed : Option String
deriving DecidableEq

def CriticalAlert.spelled [Spelling] (alert : CriticalAlert) : StoredAlert :=
  { id := Text.render alert.id
    severity := alert.severity
    code := alert.code
    message := Text.render alert.message
    detectedAtUnixMilliseconds := alert.detectedAtUnixMilliseconds
    cursor := alert.cursor
    expected := alert.expected.map Text.render
    observed := alert.observed.map Text.render }

def MAX_ALERT_ID_LENGTH : ℕ := 512
def MAX_ALERT_MESSAGE_LENGTH : ℕ := 8_192
def MAX_ALERT_VALUE_LENGTH : ℕ := 8_192

def boundedString (value label : String) (maximum : ℕ) : Except Text Unit :=
  throwIf (utf16Length value = 0 ∨ maximum < utf16Length value)
    [.lit label, .lit " must be a non-empty bounded string"]

def validCursor (cursor : Option EventCursor) : Bool :=
  cursor.all fun cursor =>
    0 ≤ cursor.ledgerVersion ∧ 0 ≤ cursor.eventIndex ∧ cursor.eventIndex ≤ MAX_SAFE_INTEGER

/-- The record of a text, checked. Every code there is is one of `ALERT_CODES`. -/
def decodeCriticalAlert (value : StoredAlert) : Except Text StoredAlert := do
  let invalid := text "Invalid persisted critical alert"
  boundedString value.id "critical alert id" MAX_ALERT_ID_LENGTH
  throwIf (value.severity ≠ .critical) invalid
  boundedString value.message "critical alert message" MAX_ALERT_MESSAGE_LENGTH
  throwIf (value.detectedAtUnixMilliseconds < 0) invalid
  throwIf (validCursor value.cursor = false) invalid
  throwIf (∃ expected ∈ value.expected, MAX_ALERT_VALUE_LENGTH < utf16Length expected) invalid
  throwIf (∃ observed ∈ value.observed, MAX_ALERT_VALUE_LENGTH < utf16Length observed) invalid
  pure value

/-- The text of a record. What a later run would not read is not written. -/
def encodeCriticalAlert (alert : StoredAlert) : Except Text StoredAlert := do
  let _ ← decodeCriticalAlert alert
  pure alert

theorem decodeCriticalAlert_eq_ok {value decoded : StoredAlert}
    (h : decodeCriticalAlert value = .ok decoded) : decoded = value := by
  unfold decodeCriticalAlert at h
  simp only [bind_unit_eq_ok, pure_eq_ok] at h
  obtain ⟨_, _, _, _, _, _, _, hvalue⟩ := h
  exact hvalue

theorem encodeCriticalAlert_eq_ok {alert encoded : StoredAlert} :
    encodeCriticalAlert alert = .ok encoded ↔
      decodeCriticalAlert alert = .ok alert ∧ encoded = alert := by
  unfold encodeCriticalAlert
  rw [bind_eq_ok]
  constructor
  · rintro ⟨decoded, hdecoded, hpure⟩
    rw [decodeCriticalAlert_eq_ok hdecoded] at hdecoded
    exact ⟨hdecoded, pure_eq_ok.mp hpure⟩
  · rintro ⟨hdecoded, hencoded⟩
    exact ⟨alert, hdecoded, pure_eq_ok.mpr hencoded⟩

/-- Alert retries may have a later detection clock but no other mutation. -/
def equivalentCriticalAlert (left right : StoredAlert) : Bool :=
  left.id = right.id ∧ left.severity = right.severity ∧ left.code = right.code
    ∧ left.message = right.message
    ∧ left.cursor.map EventCursor.ledgerVersion = right.cursor.map EventCursor.ledgerVersion
    ∧ left.cursor.map EventCursor.eventIndex = right.cursor.map EventCursor.eventIndex
    ∧ left.expected = right.expected ∧ left.observed = right.observed

theorem equivalentCriticalAlert_refl (alert : StoredAlert) :
    equivalentCriticalAlert alert alert = true := by
  simp [equivalentCriticalAlert]

theorem id_eq_of_equivalent {left right : StoredAlert}
    (h : equivalentCriticalAlert left right = true) : left.id = right.id := by
  unfold equivalentCriticalAlert at h
  exact (of_decide_eq_true h).1

/-! ## Envelopes -/

structure SnapshotEnvelope where
  schemaVersion : ℕ
  manifestSha256 : String
  payloadSha256 : String
  snapshot : SerializableSnapshot
deriving DecidableEq

structure AlertEnvelope where
  schemaVersion : ℕ
  manifestSha256 : String
  payloadSha256 : String
  alerts : List StoredAlert
deriving DecidableEq

/-- What `snapshotStateDigest` digests of a snapshot. -/
structure SnapshotState where
  schemaVersion : ℕ
  cursor : Option EventCursor
  projection : SerializableProjection
deriving DecidableEq

/-- `createHash("sha256")` and `Buffer.byteLength`, on the texts of the records of
the store. -/
class StoreTexts where
  stateHex : SnapshotState → String
  alertsHex : List StoredAlert → String
  snapshotBytes : SnapshotEnvelope → ℕ
  alertsBytes : AlertEnvelope → ℕ

def MAX_SNAPSHOT_BYTES : ℕ := 128 * 1024 * 1024
def MAX_ALERT_BYTES : ℕ := 64 * 1024 * 1024

/-- `/^[0-9a-f]{64}$/`. -/
def isHexDigest (characters : List Char) : Bool :=
  characters.length = 64
    ∧ (characters.all fun c => ('0' ≤ c ∧ c ≤ '9') ∨ ('a' ≤ c ∧ c ≤ 'f')) = true

/-- `/^snapshot-[0-9a-f]{64}$/`. -/
def isSnapshotId (id : String) : Bool :=
  id.toList.take 9 = "snapshot-".toList ∧ isHexDigest (id.toList.drop 9) = true

/-- A store over the directory. Stores over the same one differ in the release
manifest they are bound to. -/
structure FileIndexerStore where
  manifestSha256 : String
  wellFormed : isHexDigest manifestSha256.toList = true
deriving DecidableEq

def compareSnapshotCursor : Option EventCursor → Option EventCursor → ℤ
  | none, none => 0
  | none, some _ => -1
  | some _, none => 1
  | some left, some right => compareCursor left right

/-- The place of a snapshot in the order that `compareSnapshotCursor` decides. -/
def snapshotPlace (cursor : Option EventCursor) : WithBot (ℤ ×ₗ ℤ) := cursor.map EventCursor.place

theorem compareSnapshotCursor_nonneg_iff (left right : Option EventCursor) :
    0 ≤ compareSnapshotCursor left right ↔ snapshotPlace right ≤ snapshotPlace left := by
  rcases left with _ | left <;> rcases right with _ | right
  · exact ⟨fun _ => le_refl _, fun _ => le_refl _⟩
  · constructor
    · intro h
      simp [compareSnapshotCursor] at h
    · intro h
      exact absurd h (WithBot.not_coe_le_bot _)
  · exact ⟨fun _ => bot_le, fun _ => by simp [compareSnapshotCursor]⟩
  · show 0 ≤ compareCursor left right
      ↔ ((right.place : ℤ ×ₗ ℤ) : WithBot (ℤ ×ₗ ℤ)) ≤ ((left.place : ℤ ×ₗ ℤ) : WithBot (ℤ ×ₗ ℤ))
    rw [WithBot.coe_le_coe, ← compareCursor_nonpos_iff]
    unfold compareCursor
    split_ifs <;> omega

theorem snapshotPlace_injective : Function.Injective snapshotPlace := by
  intro left right h
  refine Option.map_injective ?_ h
  rintro ⟨v, i⟩ ⟨v', i'⟩ hplace
  have hpair : (v, i) = (v', i') := toLex.injective hplace
  rw [EventCursor.mk.injEq]
  exact Prod.mk.inj hpair

section Store

variable [Sha256] [StoreTexts]

def snapshotStateDigest (snapshot : IndexerSnapshot) : String :=
  let serialised := encodeSnapshot snapshot
  StoreTexts.stateHex ⟨serialised.schemaVersion, serialised.cursor, serialised.projection⟩

def stale (detail : String) : Text :=
  [.lit "Refusing a stale or conflicting indexer snapshot: ", .lit detail]

def assertMonotonicSnapshot (existing candidate : IndexerSnapshot) : Except Text Unit := do
  let order := compareSnapshotCursor candidate.cursor existing.cursor
  throwIf (order < 0) (stale "candidate cursor precedes the durable cursor")
  throwIf (order = 0 ∧ snapshotStateDigest candidate ≠ snapshotStateDigest existing)
    (stale "the same cursor was reused with different projection state")

namespace FileIndexerStore

/-! ## The snapshot file -/

/-- A digest that is not well formed is not that of the payload either. -/
def parseSnapshotEnvelope (store : FileIndexerStore) (value : SnapshotEnvelope) :
    Except Text SnapshotEnvelope := do
  throwIf (value.schemaVersion ≠ 1 ∨ value.manifestSha256 ≠ store.manifestSha256)
    (text "Invalid or release-manifest-mismatched indexer snapshot envelope")
  throwIf (Sha256.hex value.snapshot ≠ value.payloadSha256)
    (text "Indexer snapshot payload digest mismatch")
  pure value

def loadLatestSnapshot (store : FileIndexerStore) :
    Option SnapshotEnvelope → Except Text (Option IndexerSnapshot)
  | none => pure none
  | some encoded => do
      throwIf (MAX_SNAPSHOT_BYTES < StoreTexts.snapshotBytes encoded)
        (text "Durable state exceeds its byte limit")
      let envelope ← store.parseSnapshotEnvelope encoded
      let snapshot ← decodeSnapshot envelope.snapshot
      pure (some snapshot)

/-- `saveSnapshotUnderLease` up to the lock. -/
def prepareSnapshot (store : FileIndexerStore) (snapshot : IndexerSnapshot)
    (expectedBaseSnapshotId : Option String) :
    Except Text (IndexerSnapshot × SnapshotEnvelope) := do
  throwIf (∃ base ∈ expectedBaseSnapshotId, isSnapshotId base = false)
    (text "Expected base snapshot ID is malformed")
  let payload := encodeSnapshot snapshot
  let validatedSnapshot ← decodeSnapshot payload
  let envelope : SnapshotEnvelope := ⟨1, store.manifestSha256, Sha256.hex payload, payload⟩
  throwIf (MAX_SNAPSHOT_BYTES < StoreTexts.snapshotBytes envelope)
    (text "Indexer snapshot envelope exceeds its durable file limit")
  pure (validatedSnapshot, envelope)

/-- `saveSnapshotUnderLease` under the lock, from the read of the file to its
replacement. -/
def replaceSnapshot (store : FileIndexerStore) (snapshot : IndexerSnapshot)
    (expectedBaseSnapshotId : Option String) (file : Option SnapshotEnvelope) :
    Except Text SnapshotEnvelope := do
  let (validatedSnapshot, encoded) ← store.prepareSnapshot snapshot expectedBaseSnapshotId
  let existing ← store.loadLatestSnapshot file
  throwIf (existing.map IndexerSnapshot.id ≠ expectedBaseSnapshotId)
    (stale "durable base changed after this indexer restored its state")
  match existing with
  | none => pure encoded
  | some existing => do
      assertMonotonicSnapshot existing validatedSnapshot
      pure encoded

/-! ## The journal -/

/-- Every record is decoded, and no identifier comes twice. -/
def checkRecords (ids : List String) : List StoredAlert → Except Text Unit
  | [] => pure ()
  | alert :: alerts => do
      let decoded ← decodeCriticalAlert alert
      throwIf (decoded.id ∈ ids) [.lit "Duplicate persisted critical alert ID: ", .lit decoded.id]
      checkRecords (decoded.id :: ids) alerts

def loadAlertStrings (store : FileIndexerStore) :
    Option AlertEnvelope → Except Text (List StoredAlert)
  | none => pure []
  | some encoded => do
      throwIf (MAX_ALERT_BYTES < StoreTexts.alertsBytes encoded)
        (text "Durable state exceeds its byte limit")
      throwIf (encoded.schemaVersion ≠ 1 ∨ encoded.manifestSha256 ≠ store.manifestSha256)
        (text "Invalid or release-manifest-mismatched critical-alert envelope")
      throwIf (StoreTexts.alertsHex encoded.alerts ≠ encoded.payloadSha256)
        (text "Critical-alert payload digest mismatch")
      checkRecords [] encoded.alerts
      pure encoded.alerts

def listAlerts (store : FileIndexerStore) (file : Option AlertEnvelope) :
    Except Text (List StoredAlert) := do
  let alerts ← store.loadAlertStrings file
  alerts.mapM decodeCriticalAlert

/-- The loop over the incoming alerts. -/
def mergeAlerts (byId : OrderedMap String StoredAlert) :
    List StoredAlert → Except Text (OrderedMap String StoredAlert)
  | [] => pure byId
  | alert :: incoming =>
      match byId.get? alert.id with
      | none => mergeAlerts (byId.set alert.id alert) incoming
      | some prior => do
          let decoded ← decodeCriticalAlert prior
          throwIf (equivalentCriticalAlert decoded alert = false)
            [.lit "Critical alert ID was reused with different content: ", .lit alert.id]
          mergeAlerts byId incoming

/-- `appendAlertsUnderLease` under the lock, from the read of the file to its
replacement. The batch is encoded before the lock. -/
def replaceJournal (store : FileIndexerStore) (alerts : List StoredAlert)
    (file : Option AlertEnvelope) : Except Text AlertEnvelope := do
  let incoming ← alerts.mapM encodeCriticalAlert
  let existing ← store.loadAlertStrings file
  let byId ← mergeAlerts (mapOf (existing.map fun entry => (entry.id, entry))) incoming
  let encoded : AlertEnvelope :=
    ⟨1, store.manifestSha256, StoreTexts.alertsHex byId.values, byId.values⟩
  throwIf (MAX_ALERT_BYTES < StoreTexts.alertsBytes encoded)
    (text "Critical-alert envelope exceeds its durable file limit")
  pure encoded

/-! ## What replaces a snapshot -/

variable {store : FileIndexerStore}

theorem loadLatestSnapshot_eq_ok {envelope : SnapshotEnvelope} {loaded : Option IndexerSnapshot} :
    store.loadLatestSnapshot (some envelope) = .ok loaded ↔
      StoreTexts.snapshotBytes envelope ≤ MAX_SNAPSHOT_BYTES ∧ envelope.schemaVersion = 1
        ∧ envelope.manifestSha256 = store.manifestSha256
        ∧ Sha256.hex envelope.snapshot = envelope.payloadSha256
        ∧ ∃ snapshot, decodeSnapshot envelope.snapshot = .ok snapshot ∧ loaded = some snapshot := by
  unfold loadLatestSnapshot parseSnapshotEnvelope
  simp only [bind_eq_ok, exists_const, throwIf_eq_ok, pure_eq_ok, not_or, not_not, ne_eq,
    not_lt, and_assoc, exists_and_left, exists_eq_left]

theorem prepareSnapshot_eq_ok {snapshot validated : IndexerSnapshot} {base : Option String}
    {envelope : SnapshotEnvelope} :
    store.prepareSnapshot snapshot base = .ok (validated, envelope) ↔
      (∀ id ∈ base, isSnapshotId id = true)
        ∧ decodeSnapshot (encodeSnapshot snapshot) = .ok validated
        ∧ StoreTexts.snapshotBytes envelope ≤ MAX_SNAPSHOT_BYTES
        ∧ envelope = ⟨1, store.manifestSha256, Sha256.hex (encodeSnapshot snapshot),
          encodeSnapshot snapshot⟩ := by
  unfold prepareSnapshot
  simp only [bind_eq_ok, exists_const, throwIf_eq_ok, pure_eq_ok, not_exists, not_and,
    Bool.not_eq_false, not_lt, Prod.mk.injEq]
  constructor
  · rintro ⟨hbase, _, hvalidated, hbytes, rfl, rfl⟩
    exact ⟨hbase, hvalidated, hbytes, rfl⟩
  · rintro ⟨hbase, hvalidated, hbytes, rfl⟩
    exact ⟨hbase, validated, hvalidated, hbytes, rfl, rfl⟩

end FileIndexerStore

/-- The state that a persisted snapshot is a snapshot of. -/
def SnapshotEnvelope.state (envelope : SnapshotEnvelope) : SnapshotState :=
  ⟨envelope.snapshot.schemaVersion, envelope.snapshot.cursor, envelope.snapshot.projection⟩

/-- `later` is not before `earlier`, and has the same state, as far as digests
tell states apart, if it is at the same cursor. -/
structure SnapshotEnvelope.Succeeds (earlier later : SnapshotEnvelope) : Prop where
  place : snapshotPlace earlier.snapshot.cursor ≤ snapshotPlace later.snapshot.cursor
  state : later.snapshot.cursor = earlier.snapshot.cursor →
    StoreTexts.stateHex later.state = StoreTexts.stateHex earlier.state

omit [Sha256] in
theorem SnapshotEnvelope.Succeeds.trans {u v w : SnapshotEnvelope} (huv : u.Succeeds v)
    (hvw : v.Succeeds w) : u.Succeeds w where
  place := le_trans huv.place hvw.place
  state hcursor := by
    -- A snapshot between two of one cursor has that cursor too.
    have hmiddle : v.snapshot.cursor = u.snapshot.cursor := by
      refine snapshotPlace_injective (le_antisymm ?_ huv.place)
      rw [← hcursor]
      exact hvw.place
    rw [hvw.state (hcursor.trans hmiddle.symm), huv.state hmiddle]

/-- A snapshot that every store of its release manifest reads back. -/
def SnapshotEnvelope.Reads (envelope : SnapshotEnvelope) : Prop :=
  ∀ store : FileIndexerStore, store.manifestSha256 = envelope.manifestSha256 →
    ∃ snapshot, store.loadLatestSnapshot (some envelope) = .ok (some snapshot)
      ∧ encodeSnapshot snapshot = envelope.snapshot

/-- What a replacement of the snapshot file is. -/
structure SnapshotEnvelope.Replaces (store : FileIndexerStore) (snapshot : IndexerSnapshot)
    (base : Option String) (file : Option SnapshotEnvelope) (next : SnapshotEnvelope) : Prop where
  manifest : next.manifestSha256 = store.manifestSha256
  snapshot : next.snapshot = encodeSnapshot snapshot
  reads : next.Reads
  base : file.map (fun envelope => envelope.snapshot.id) = base
  succeeds : ∀ envelope ∈ file, envelope.manifestSha256 = store.manifestSha256
    ∧ envelope.Succeeds next

/-- **A snapshot is replaced by one that comes after it** and can be read back. -/
theorem FileIndexerStore.replaceSnapshot_replaces {store : FileIndexerStore}
    {snapshot : IndexerSnapshot} {base : Option String} {file : Option SnapshotEnvelope}
    {next : SnapshotEnvelope} (h : store.replaceSnapshot snapshot base file = .ok next) :
    next.Replaces store snapshot base file := by
  unfold replaceSnapshot at h
  obtain ⟨⟨validated, encoded⟩, hprepared, h⟩ := bind_eq_ok.mp h
  obtain ⟨existing, hexisting, h⟩ := bind_eq_ok.mp h
  obtain ⟨hbase, h⟩ := bind_unit_eq_ok.mp h
  rw [throwIf_eq_ok, ne_eq, not_not] at hbase
  obtain ⟨_, hvalidated, hbytes, hencoded⟩ := prepareSnapshot_eq_ok.mp hprepared
  have hnext : next = encoded := by
    rcases existing with _ | existing
    · exact pure_eq_ok.mp h
    · exact pure_eq_ok.mp (bind_unit_eq_ok.mp h).2
  subst hnext
  have hpayload : next.snapshot = encodeSnapshot snapshot := by rw [hencoded]
  have hmanifest : next.manifestSha256 = store.manifestSha256 := by rw [hencoded]
  refine ⟨hmanifest, hpayload, ?_, ?_, ?_⟩
  · intro reader hreader
    refine ⟨validated, ?_, ?_⟩
    · rw [loadLatestSnapshot_eq_ok]
      refine ⟨hbytes, ?_, hreader.symm, ?_, validated, ?_, rfl⟩
      · rw [hencoded]
      · rw [hencoded]
      · rwa [hpayload]
    · rw [hpayload]
      exact encodeSnapshot_of_decode hvalidated
  · rcases file with _ | envelope
    · have hnone : existing = none := pure_eq_ok.mp hexisting
      rw [← hbase, hnone]
      rfl
    · obtain ⟨_, _, _, _, loaded, hloaded, rfl⟩ := loadLatestSnapshot_eq_ok.mp hexisting
      obtain ⟨_, _, _, _, _, rfl⟩ := decodeSnapshot_eq_ok.mp hloaded
      exact hbase
  · rintro envelope hfile
    obtain rfl := Option.mem_def.mp hfile
    obtain ⟨_, _, hown, _, loaded, hloaded, rfl⟩ := loadLatestSnapshot_eq_ok.mp hexisting
    obtain ⟨hmonotonic, _⟩ := bind_unit_eq_ok.mp h
    unfold assertMonotonicSnapshot at hmonotonic
    obtain ⟨horder, hdigest⟩ := bind_unit_eq_ok.mp hmonotonic
    rw [throwIf_eq_ok, not_lt, compareSnapshotCursor_nonneg_iff] at horder
    rw [throwIf_eq_ok, not_and, ne_eq, not_not] at hdigest
    -- What is compared are the records, for both snapshots were decoded from one.
    have hold := encodeSnapshot_of_decode hloaded
    have hnew := encodeSnapshot_of_decode hvalidated
    rw [← hpayload] at hnew
    have holdCursor : loaded.cursor = envelope.snapshot.cursor := by rw [← hold]; rfl
    have hnewCursor : validated.cursor = next.snapshot.cursor := by rw [← hnew]; rfl
    refine ⟨hown, ?_, ?_⟩
    · rwa [← holdCursor, ← hnewCursor]
    · intro hcursor
      have hzero : compareSnapshotCursor validated.cursor loaded.cursor = 0 := by
        rw [holdCursor, hnewCursor, hcursor]
        rcases envelope.snapshot.cursor with _ | cursor
        · rfl
        · show compareCursor cursor cursor = 0
          simp [compareCursor]
      have hequal := hdigest hzero
      unfold snapshotStateDigest at hequal
      rw [hold, hnew] at hequal
      exact hequal

end Store

/-! ## What replaces a journal -/

section Journal

variable [StoreTexts]

/-- A journal that a store of its release manifest reads back. -/
structure AlertEnvelope.Sound (envelope : AlertEnvelope) : Prop where
  schemaVersion : envelope.schemaVersion = 1
  digest : StoreTexts.alertsHex envelope.alerts = envelope.payloadSha256
  bytes : StoreTexts.alertsBytes envelope ≤ MAX_ALERT_BYTES
  decoded : ∀ entry ∈ envelope.alerts, decodeCriticalAlert entry = .ok entry
  nodup : (envelope.alerts.map StoredAlert.id).Nodup

namespace FileIndexerStore

variable {store : FileIndexerStore}

omit [StoreTexts] in
theorem checkRecords_eq_ok {ids : List String} {alerts : List StoredAlert} :
    checkRecords ids alerts = .ok () ↔
      (∀ entry ∈ alerts, decodeCriticalAlert entry = .ok entry)
        ∧ (alerts.map StoredAlert.id).Nodup ∧ ∀ entry ∈ alerts, entry.id ∉ ids := by
  induction alerts generalizing ids with
  | nil => simp [checkRecords, pure_eq_ok]
  | cons alert alerts ih =>
      rw [checkRecords, bind_eq_ok]
      simp only [List.forall_mem_cons, List.map_cons, List.nodup_cons, List.mem_map]
      constructor
      · rintro ⟨decoded, hdecoded, h⟩
        obtain rfl := decodeCriticalAlert_eq_ok hdecoded
        obtain ⟨hnew, h⟩ := bind_unit_eq_ok.mp h
        rw [throwIf_eq_ok] at hnew
        obtain ⟨hrest, hnodup, hapart⟩ := ih.mp h
        refine ⟨⟨hdecoded, hrest⟩, ⟨?_, hnodup⟩, hnew, ?_⟩
        · rintro ⟨entry, hentry, hid⟩
          exact hapart entry hentry (hid ▸ List.mem_cons_self)
        · intro entry hentry hmem
          exact hapart entry hentry (List.mem_cons_of_mem _ hmem)
      · rintro ⟨⟨hdecoded, hrest⟩, ⟨habsent, hnodup⟩, hnew, hapart⟩
        refine ⟨alert, hdecoded, bind_unit_eq_ok.mpr ⟨throwIf_eq_ok.mpr hnew, ?_⟩⟩
        refine ih.mpr ⟨hrest, hnodup, ?_⟩
        intro entry hentry hmem
        rcases List.mem_cons.mp hmem with hid | hmem
        · exact habsent ⟨entry, hentry, hid⟩
        · exact hapart entry hentry hmem

theorem loadAlertStrings_eq_ok {envelope : AlertEnvelope} {alerts : List StoredAlert} :
    store.loadAlertStrings (some envelope) = .ok alerts ↔
      envelope.manifestSha256 = store.manifestSha256 ∧ envelope.Sound
        ∧ alerts = envelope.alerts := by
  unfold loadAlertStrings
  simp only [bind_eq_ok, exists_const, throwIf_eq_ok, pure_eq_ok, not_or, not_not, ne_eq, not_lt]
  constructor
  · rintro ⟨hbytes, ⟨hschema, hmanifest⟩, hdigest, _, hrecords, rfl⟩
    obtain ⟨hdecoded, hnodup, _⟩ := checkRecords_eq_ok.mp hrecords
    exact ⟨hmanifest, ⟨hschema, hdigest, hbytes, hdecoded, hnodup⟩, rfl⟩
  · rintro ⟨hmanifest, hsound, rfl⟩
    exact ⟨hsound.bytes, ⟨hsound.schemaVersion, hmanifest⟩, hsound.digest, (),
      checkRecords_eq_ok.mpr ⟨hsound.decoded, hsound.nodup, by simp⟩, rfl⟩

/-- A journal reads back as its records. -/
theorem listAlerts_eq_ok {envelope : AlertEnvelope} (hsound : envelope.Sound)
    (hmanifest : envelope.manifestSha256 = store.manifestSha256) :
    store.listAlerts (some envelope) = .ok envelope.alerts := by
  have hmap : ∀ alerts : List StoredAlert,
      (∀ entry ∈ alerts, decodeCriticalAlert entry = .ok entry) →
        alerts.mapM decodeCriticalAlert = .ok alerts := by
    intro alerts
    induction alerts with
    | nil =>
        intro _
        rfl
    | cons entry alerts ih =>
        intro h
        rw [List.forall_mem_cons] at h
        rw [List.mapM_cons, h.1, ih h.2]
        rfl
  unfold listAlerts
  rw [bind_eq_ok]
  exact ⟨envelope.alerts, loadAlertStrings_eq_ok.mpr ⟨hmanifest, hsound, rfl⟩,
    hmap envelope.alerts hsound.decoded⟩

/-- The records of a journal, under their identifiers. -/
structure Filed (byId : OrderedMap String StoredAlert) : Prop where
  keyed : byId.KeyedBy StoredAlert.id
  decoded : ∀ entry ∈ byId.values, decodeCriticalAlert entry = .ok entry

omit [StoreTexts] in
/-- **A batch is merged by appending.** What is there stays where it is, and every
alert of the batch has an equivalent record afterwards. -/
theorem mergeAlerts_spec {byId merged : OrderedMap String StoredAlert}
    {incoming : List StoredAlert} (hfiled : Filed byId)
    (hincoming : ∀ alert ∈ incoming, decodeCriticalAlert alert = .ok alert)
    (h : mergeAlerts byId incoming = .ok merged) :
    Filed merged ∧ byId.values <+: merged.values
      ∧ ∀ alert ∈ incoming,
        ∃ entry ∈ merged.values, equivalentCriticalAlert entry alert = true := by
  induction incoming generalizing byId with
  | nil =>
      rw [mergeAlerts, pure_eq_ok] at h
      subst h
      exact ⟨hfiled, List.prefix_refl _, by simp⟩
  | cons alert incoming ih =>
      rw [List.forall_mem_cons] at hincoming
      rw [mergeAlerts] at h
      rcases hprior : byId.get? alert.id with _ | prior
      · rw [hprior] at h
        have hentries : (byId.set alert.id alert).values = byId.values ++ [alert] := by
          unfold OrderedMap.values
          rw [OrderedMap.entries_set_of_absent hprior, List.map_append, List.map_singleton]
        have hfiled' : Filed (byId.set alert.id alert) := by
          refine ⟨hfiled.keyed.set rfl, ?_⟩
          intro entry hentry
          rw [hentries, List.mem_append, List.mem_singleton] at hentry
          rcases hentry with hentry | rfl
          · exact hfiled.decoded entry hentry
          · exact hincoming.1
        obtain ⟨hmerged, hprefix, hequivalent⟩ := ih hfiled' hincoming.2 h
        rw [hentries] at hprefix
        refine ⟨hmerged, (List.prefix_append _ _).trans hprefix, ?_⟩
        rw [List.forall_mem_cons]
        refine ⟨⟨alert, hprefix.subset ?_, equivalentCriticalAlert_refl alert⟩, hequivalent⟩
        exact List.mem_append_right _ (List.mem_singleton_self _)
      · rw [hprior] at h
        obtain ⟨decoded, hdecoded, hmerge⟩ := bind_eq_ok.mp h
        obtain rfl := decodeCriticalAlert_eq_ok hdecoded
        obtain ⟨hsame, hmerge⟩ := bind_unit_eq_ok.mp hmerge
        rw [throwIf_eq_ok, Bool.not_eq_false] at hsame
        obtain ⟨hmerged, hprefix, hequivalent⟩ := ih hfiled hincoming.2 hmerge
        refine ⟨hmerged, hprefix, ?_⟩
        rw [List.forall_mem_cons]
        exact ⟨⟨decoded, hprefix.subset (OrderedMap.mem_values.mpr ⟨_, hprior⟩), hsame⟩,
          hequivalent⟩

omit [StoreTexts] in
theorem mapM_encode_eq_ok {alerts incoming : List StoredAlert}
    (h : alerts.mapM encodeCriticalAlert = .ok incoming) :
    incoming = alerts ∧ ∀ alert ∈ alerts, decodeCriticalAlert alert = .ok alert := by
  induction alerts generalizing incoming with
  | nil =>
      rw [List.mapM_nil, pure_eq_ok] at h
      exact ⟨h, by simp⟩
  | cons alert alerts ih =>
      rw [List.mapM_cons] at h
      obtain ⟨encoded, hencoded, htail⟩ := bind_eq_ok.mp h
      obtain ⟨rest, hrest, hpure⟩ := bind_eq_ok.mp htail
      obtain ⟨hdecoded, rfl⟩ := encodeCriticalAlert_eq_ok.mp hencoded
      obtain ⟨rfl, hall⟩ := ih hrest
      exact ⟨pure_eq_ok.mp hpure, List.forall_mem_cons.mpr ⟨hdecoded, hall⟩⟩

end FileIndexerStore

/-- The records of the journal, none if there is no file. -/
def journalRecords (file : Option AlertEnvelope) : List StoredAlert :=
  (file.map AlertEnvelope.alerts).getD []

/-- What a replacement of the journal is. -/
structure AlertEnvelope.Extends (store : FileIndexerStore) (alerts : List StoredAlert)
    (file : Option AlertEnvelope) (next : AlertEnvelope) : Prop where
  manifest : next.manifestSha256 = store.manifestSha256
  sound : next.Sound
  kept : journalRecords file <+: next.alerts
  journaled : ∀ alert ∈ alerts, ∃ entry ∈ next.alerts, equivalentCriticalAlert entry alert = true

/-- **A journal is replaced by one that extends it** and can be read back. -/
theorem FileIndexerStore.replaceJournal_extends {store : FileIndexerStore}
    {alerts : List StoredAlert} {file : Option AlertEnvelope} {next : AlertEnvelope}
    (h : store.replaceJournal alerts file = .ok next) : next.Extends store alerts file := by
  unfold replaceJournal at h
  obtain ⟨incoming, hincoming, h⟩ := bind_eq_ok.mp h
  obtain ⟨existing, hexisting, h⟩ := bind_eq_ok.mp h
  obtain ⟨byId, hmerged, h⟩ := bind_eq_ok.mp h
  obtain ⟨hbytes, h⟩ := bind_unit_eq_ok.mp h
  rw [throwIf_eq_ok, not_lt] at hbytes
  rw [pure_eq_ok] at h
  subst h
  obtain ⟨rfl, hdecoded⟩ := mapM_encode_eq_ok hincoming
  have hloaded : existing = journalRecords file
      ∧ (∀ entry ∈ existing, decodeCriticalAlert entry = .ok entry)
      ∧ (existing.map StoredAlert.id).Nodup := by
    rcases file with _ | envelope
    · rw [loadAlertStrings, pure_eq_ok] at hexisting
      subst hexisting
      exact ⟨rfl, by simp, by simp⟩
    · obtain ⟨_, hsound, rfl⟩ := loadAlertStrings_eq_ok.mp hexisting
      exact ⟨rfl, hsound.decoded, hsound.nodup⟩
  obtain ⟨hrecords, hentries, hnodup⟩ := hloaded
  have hvalues := values_mapOf hnodup
  have hfiled : Filed (mapOf (existing.map fun entry => (entry.id, entry))) := by
    refine ⟨keyedBy_mapOf _ _, ?_⟩
    rw [hvalues]
    exact hentries
  obtain ⟨hfiled', hprefix, hequivalent⟩ := mergeAlerts_spec hfiled hdecoded hmerged
  rw [hvalues, hrecords] at hprefix
  refine ⟨rfl, ⟨rfl, rfl, hbytes, hfiled'.decoded, ?_⟩, hprefix, hequivalent⟩
  -- The identifiers are the keys of the map.
  have hkeys : byId.values.map StoredAlert.id = byId.keys := by
    unfold OrderedMap.keys
    rw [← hfiled'.keyed.entries_eq, List.map_map]
    rfl
  show (byId.values.map StoredAlert.id).Nodup
  rw [hkeys]
  exact byId.nodup_keys

end Journal

end CedraReflect.indexer
