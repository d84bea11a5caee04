/-
Snapshots read back.

A projection and its record are two forms of one thing, as long as every
position, epoch and LP position of the projection is under the key that it names
([`ProtocolProjection.Keyed`]): then restoring the record of the projection gives
the projection. The other way round it is `isProjection` that makes a record one
of the projection it is restored to.
-/
import CedraReflect.Snapshot

set_option autoImplicit false
set_option linter.constructorNameAsVariable false

namespace CedraReflect.indexer

/-! ## Keys -/

/-- Every position is under the key that it names. -/
structure ProtocolProjection.Keyed (projection : ProtocolProjection) : Prop where
  positions : projection.positions.KeyedBy IndexedPosition.account
  lpEpochs : projection.lpEpochs.KeyedBy IndexedLpEpoch.epoch
  lpPositions : ∀ epoch ∈ projection.lpEpochs.values,
    epoch.positions.KeyedBy IndexedLpPosition.owner

/-! ## From a projection to its record and back -/

theorem IndexedLpEpoch.restore_serialise {epoch : IndexedLpEpoch}
    (h : epoch.positions.KeyedBy IndexedLpPosition.owner) : epoch.serialise.restore = epoch := by
  unfold serialise SerializableLpEpoch.restore
  rw [mapOf_values h]

/-- **What a record of a projection is restored to is the projection.** -/
theorem restore_serialise {projection : ProtocolProjection} (h : projection.Keyed) :
    (serialiseProjection projection).restore = projection := by
  have hepochs : ((projection.lpEpochs.values.map IndexedLpEpoch.serialise).map
        fun epoch => (epoch.epoch, epoch.restore))
      = projection.lpEpochs.values.map fun epoch => (epoch.epoch, epoch) := by
    rw [List.map_map]
    refine List.map_congr_left ?_
    intro epoch hepoch
    exact Prod.ext rfl (IndexedLpEpoch.restore_serialise (h.lpPositions epoch hepoch))
  unfold serialiseProjection SerializableProjection.restore
  simp only [hepochs, mapOf_values h.lpEpochs, mapOf_values h.positions, mapOf_entries]

/-! ## From a record to its projection and back -/

theorem SerializableLpEpoch.serialise_restore {epoch : SerializableLpEpoch}
    (h : (epoch.positions.map IndexedLpPosition.owner).Nodup) :
    epoch.restore.serialise = epoch := by
  unfold restore IndexedLpEpoch.serialise
  rw [values_mapOf h]

/-- **A valid record is that of the projection it is restored to.** -/
theorem serialise_restore {value : SerializableProjection} (h : isProjection value = true) :
    serialiseProjection value.restore = value := by
  have hentries : hasValidEntries value = true := by
    unfold isProjection at h
    simp only [Bool.and_eq_true] at h
    exact h.1.1.1.1
  unfold hasValidEntries at hentries
  obtain ⟨_, hpositions, hepoch, hepochs, _, _, hvaults, hstates, hseen, hstores, hwallets⟩ :=
    of_decide_eq_true hentries
  -- A valid record has each key once, so that its maps list their entries as they were.
  have hvaults' := (of_decide_eq_true hvaults).2.1
  have hstates' := (of_decide_eq_true hstates).2.1
  have hseen' := (of_decide_eq_true hseen).2
  have hstores' := (of_decide_eq_true hstores).1
  have hwallets' := (of_decide_eq_true hwallets).1
  have hlist : (mapOf (value.lpEpochs.map fun epoch => (epoch.epoch, epoch.restore))).values
      = value.lpEpochs.map SerializableLpEpoch.restore := by
    unfold OrderedMap.values
    rw [entries_mapOf, List.map_map]
    · rfl
    · rwa [List.map_map]
  have hserialised : ((value.lpEpochs.map SerializableLpEpoch.restore).map
      IndexedLpEpoch.serialise) = value.lpEpochs := by
    rw [List.map_map]
    refine (List.map_congr_left ?_).trans (List.map_id _)
    intro epoch hmem
    have hvalid := hepoch epoch hmem
    unfold isLpEpoch at hvalid
    obtain ⟨_, _, _, _, _, _, _, _, _, _, _, _, _, hnodup⟩ := of_decide_eq_true hvalid
    exact SerializableLpEpoch.serialise_restore hnodup
  unfold SerializableProjection.restore serialiseProjection
  simp only [hlist, hserialised, values_mapOf hpositions, entries_mapOf hvaults',
    entries_mapOf hstates', entries_mapOf hseen', entries_mapOf hstores', entries_mapOf hwallets']

/-! ## Snapshots -/

section

variable [Sha256]

theorem decodeSnapshot_eq_ok {encoded : SerializableSnapshot} {snapshot : IndexerSnapshot} :
    decodeSnapshot encoded = .ok snapshot ↔
      encoded.schemaVersion = 1 ∧ isMoveUnsigned encoded.takenAtUnixMilliseconds 64
        ∧ isCursor encoded.cursor = true ∧ isProjection encoded.projection = true
        ∧ encoded.id = snapshotId encoded
        ∧ snapshot = ⟨encoded.schemaVersion, encoded.id, encoded.takenAtUnixMilliseconds,
          encoded.cursor, encoded.projection.restore⟩ := by
  unfold decodeSnapshot
  simp only [bind_unit_eq_ok, throwIf_eq_ok, pure_eq_ok, not_or, not_not, ne_eq,
    Bool.not_eq_false, and_assoc]

/-- What is decoded is encoded as what it was decoded from. -/
theorem encodeSnapshot_of_decode {encoded : SerializableSnapshot} {snapshot : IndexerSnapshot}
    (h : decodeSnapshot encoded = .ok snapshot) : encodeSnapshot snapshot = encoded := by
  obtain ⟨_, _, _, hprojection, _, rfl⟩ := decodeSnapshot_eq_ok.mp h
  unfold encodeSnapshot
  rw [serialise_restore hprojection]

/-- **A snapshot that is taken reads back.** -/
theorem decodeSnapshot_takeSnapshot {projection : ProtocolProjection}
    {cursor : Option EventCursor} {takenAtUnixMilliseconds : ℤ} {snapshot : IndexerSnapshot}
    (hkeyed : projection.Keyed)
    (h : takeSnapshot projection cursor takenAtUnixMilliseconds = .ok snapshot) :
    decodeSnapshot (encodeSnapshot snapshot) = .ok snapshot := by
  obtain ⟨htime, hcursor, hprojection, rfl⟩ := takeSnapshot_eq_ok.mp h
  rw [decodeSnapshot_eq_ok]
  refine ⟨rfl, htime, hcursor, hprojection, rfl, ?_⟩
  unfold encodeSnapshot
  rw [restore_serialise hkeyed]

end

end CedraReflect.indexer
