/-
Appends to the alert journal, one call at a time.

What a batch adds is the list of its alerts whose identifiers are new, the first
of each ([`newAlerts`]). The loop over the batch computes exactly that, over a
map that keeps the order of the journal, and over the map that it led to it
computes nothing. A call of `appendAlerts` replaces the file at once or leaves
it alone, so that what holds of the loop holds of the file.
-/
import CedraReflect.FileStore
import CedraReflect.Interruptible

set_option autoImplicit false

namespace CedraReflect.indexer

/-! ## What a batch adds -/

/-- The alerts of a batch whose identifiers are not among `ids`, the first of each. -/
def newAlerts (ids : List String) : List StoredAlert → List StoredAlert
  | [] => []
  | alert :: alerts =>
      if alert.id ∈ ids then newAlerts ids alerts
      else alert :: newAlerts (ids ++ [alert.id]) alerts

theorem newAlerts_sublist (ids : List String) (alerts : List StoredAlert) :
    (newAlerts ids alerts).Sublist alerts := by
  induction alerts generalizing ids with
  | nil => exact List.Sublist.slnil
  | cons alert alerts ih =>
      rw [newAlerts]
      by_cases hold : alert.id ∈ ids
      · rw [if_pos hold]
        exact (ih ids).cons alert
      · rw [if_neg hold]
        exact (ih _).cons_cons alert

/-- The identifiers that are added are those of the batch that were not there. -/
theorem mem_newAlerts_ids {ids : List String} {alerts : List StoredAlert} {id : String} :
    id ∈ (newAlerts ids alerts).map StoredAlert.id ↔
      id ∈ alerts.map StoredAlert.id ∧ id ∉ ids := by
  induction alerts generalizing ids with
  | nil => simp [newAlerts]
  | cons alert alerts ih =>
      rw [newAlerts, List.map_cons, List.mem_cons]
      by_cases hold : alert.id ∈ ids
      · rw [if_pos hold, ih]
        constructor
        · rintro ⟨hmem, hnew⟩
          exact ⟨.inr hmem, hnew⟩
        · rintro ⟨rfl | hmem, hnew⟩
          · exact absurd hold hnew
          · exact ⟨hmem, hnew⟩
      · rw [if_neg hold, List.map_cons, List.mem_cons, ih, List.mem_append, List.mem_singleton]
        constructor
        · rintro (rfl | ⟨hmem, hnew⟩)
          · exact ⟨.inl rfl, hold⟩
          · exact ⟨.inr hmem, fun h => hnew (.inl h)⟩
        · rintro ⟨hmem, hnew⟩
          by_cases hself : id = alert.id
          · exact .inl hself
          · exact .inr ⟨hmem.resolve_left hself, fun h => h.elim hnew hself⟩

theorem nodup_newAlerts (ids : List String) (alerts : List StoredAlert) :
    ((newAlerts ids alerts).map StoredAlert.id).Nodup := by
  induction alerts generalizing ids with
  | nil => exact List.nodup_nil
  | cons alert alerts ih =>
      rw [newAlerts]
      by_cases hold : alert.id ∈ ids
      · rw [if_pos hold]
        exact ih ids
      · rw [if_neg hold, List.map_cons, List.nodup_cons]
        refine ⟨?_, ih _⟩
        rw [mem_newAlerts_ids]
        intro h
        exact h.2 (List.mem_append_right _ (List.mem_singleton_self _))

/-! ## The loop -/

namespace FileIndexerStore

/-- **The loop appends what is new**, in the order of the batch. -/
theorem mergeAlerts_values {byId merged : OrderedMap String StoredAlert}
    {incoming : List StoredAlert} (h : mergeAlerts byId incoming = .ok merged) :
    merged.values = byId.values ++ newAlerts byId.keys incoming := by
  induction incoming generalizing byId with
  | nil =>
      rw [mergeAlerts, pure_eq_ok] at h
      rw [h, newAlerts, List.append_nil]
  | cons alert incoming ih =>
      rw [mergeAlerts] at h
      rw [newAlerts]
      rcases hprior : byId.get? alert.id with _ | prior
      · rw [hprior] at h
        have habsent : byId.has alert.id = false := OrderedMap.has_eq_false.mpr hprior
        have hvalues : (byId.set alert.id alert).values = byId.values ++ [alert] := by
          unfold OrderedMap.values
          rw [OrderedMap.entries_set_of_absent hprior, List.map_append, List.map_singleton]
        have hkeys : (byId.set alert.id alert).keys = byId.keys ++ [alert.id] := by
          rw [OrderedMap.keys_set, if_neg (by rw [habsent]; decide)]
        rw [ih h, hvalues, hkeys, if_neg (by rw [OrderedMap.mem_keys, habsent]; decide),
          List.append_assoc, List.singleton_append]
      · rw [hprior] at h
        obtain ⟨_, _, h⟩ := bind_eq_ok.mp h
        rw [ih (bind_unit_eq_ok.mp h).2,
          if_pos (OrderedMap.mem_keys.mpr (OrderedMap.has_iff.mpr ⟨prior, hprior⟩))]

/-- A batch that has equivalent records already changes nothing. -/
theorem mergeAlerts_idle {byId : OrderedMap String StoredAlert} {incoming : List StoredAlert}
    (hfiled : Filed byId) (h : ∀ alert ∈ incoming,
      ∃ entry ∈ byId.values, equivalentCriticalAlert entry alert = true) :
    mergeAlerts byId incoming = .ok byId := by
  induction incoming with
  | nil => rfl
  | cons alert incoming ih =>
      rw [List.forall_mem_cons] at h
      obtain ⟨⟨entry, hentry, hequivalent⟩, hrest⟩ := h
      -- The record is found under the identifier that it shares with the alert.
      obtain ⟨id, hget⟩ := OrderedMap.mem_values.mp hentry
      have hid : alert.id = id := by
        rw [← id_eq_of_equivalent hequivalent]
        exact hfiled.keyed id entry hget
      rw [mergeAlerts, hid, hget]
      refine bind_eq_ok.mpr ⟨entry, hfiled.decoded entry hentry, ?_⟩
      refine bind_unit_eq_ok.mpr ⟨throwIf_eq_ok.mpr (by rw [hequivalent]; decide), ih hrest⟩

/-! ## The file -/

theorem mapM_encode_of_decode {alerts : List StoredAlert}
    (h : ∀ alert ∈ alerts, decodeCriticalAlert alert = .ok alert) :
    alerts.mapM encodeCriticalAlert = .ok alerts := by
  induction alerts with
  | nil => rfl
  | cons alert alerts ih =>
      rw [List.forall_mem_cons] at h
      rw [List.mapM_cons]
      refine bind_eq_ok.mpr ⟨alert, encodeCriticalAlert_eq_ok.mpr ⟨h.1, rfl⟩, ?_⟩
      exact bind_eq_ok.mpr ⟨alerts, ih h.2, rfl⟩

variable [StoreTexts] {store : FileIndexerStore} {alerts : List StoredAlert}
  {journal : Option AlertEnvelope} {next : AlertEnvelope}

/-- What is read of a journal, and under which identifiers. -/
theorem loadAlertStrings_filed {existing : List StoredAlert}
    (h : store.loadAlertStrings journal = .ok existing) :
    existing = journalRecords journal
      ∧ (∀ entry ∈ existing, decodeCriticalAlert entry = .ok entry)
      ∧ (existing.map StoredAlert.id).Nodup := by
  rcases journal with _ | envelope
  · rw [loadAlertStrings, pure_eq_ok] at h
    subst h
    exact ⟨rfl, by simp, List.nodup_nil⟩
  · obtain ⟨_, hsound, rfl⟩ := loadAlertStrings_eq_ok.mp h
    exact ⟨rfl, hsound.decoded, hsound.nodup⟩

/-- **A replacement of the journal** appends what is new of the batch. -/
theorem replaceJournal_records (h : store.replaceJournal alerts journal = .ok next) :
    next.alerts = journalRecords journal
      ++ newAlerts ((journalRecords journal).map StoredAlert.id) alerts := by
  unfold replaceJournal at h
  obtain ⟨incoming, hincoming, h⟩ := bind_eq_ok.mp h
  obtain ⟨existing, hexisting, h⟩ := bind_eq_ok.mp h
  obtain ⟨byId, hmerged, h⟩ := bind_eq_ok.mp h
  have hnext := pure_eq_ok.mp (bind_unit_eq_ok.mp h).2
  obtain ⟨rfl, _⟩ := mapM_encode_eq_ok hincoming
  obtain ⟨hrecords, _, hnodup⟩ := loadAlertStrings_filed hexisting
  have hkeys : (mapOf (existing.map fun entry => (entry.id, entry))).keys
      = existing.map StoredAlert.id := by
    unfold OrderedMap.keys
    rw [entries_mapOf, List.map_map]
    · rfl
    · rw [List.map_map]
      exact hnodup
  rw [hnext]
  show byId.values = _
  rw [mergeAlerts_values hmerged, values_mapOf hnodup, hkeys, hrecords]

/-- **The same batch again** replaces the journal by itself. -/
theorem replaceJournal_again (h : store.replaceJournal alerts journal = .ok next) :
    store.replaceJournal alerts (some next) = .ok next := by
  have hextends := replaceJournal_extends h
  unfold replaceJournal at h
  obtain ⟨incoming, hincoming, h⟩ := bind_eq_ok.mp h
  obtain ⟨existing, hexisting, h⟩ := bind_eq_ok.mp h
  obtain ⟨byId, hmerged, h⟩ := bind_eq_ok.mp h
  obtain ⟨hbytes, h⟩ := bind_unit_eq_ok.mp h
  have hnext := pure_eq_ok.mp h
  obtain ⟨rfl, hdecoded⟩ := mapM_encode_eq_ok hincoming
  obtain ⟨_, hentries, hnodup⟩ := loadAlertStrings_filed hexisting
  have hfiled : Filed (mapOf (existing.map fun entry => (entry.id, entry))) := by
    refine ⟨keyedBy_mapOf _ _, ?_⟩
    rw [values_mapOf hnodup]
    exact hentries
  obtain ⟨hfiled', _, hequivalent⟩ := mergeAlerts_spec hfiled hdecoded hmerged
  have hvalues : next.alerts = byId.values := by rw [hnext]
  -- What is read back is the map that was written.
  have hmap : mapOf (next.alerts.map fun entry => (entry.id, entry)) = byId := by
    rw [hvalues]
    exact mapOf_values hfiled'.keyed
  unfold replaceJournal
  refine bind_eq_ok.mpr ⟨incoming, mapM_encode_of_decode hdecoded, ?_⟩
  refine bind_eq_ok.mpr ⟨next.alerts,
    loadAlertStrings_eq_ok.mpr ⟨hextends.manifest, hextends.sound, rfl⟩, ?_⟩
  refine bind_eq_ok.mpr ⟨byId, ?_, ?_⟩
  · rw [hmap]
    exact mergeAlerts_idle hfiled' hequivalent
  · exact bind_unit_eq_ok.mpr ⟨hbytes, pure_eq_ok.mpr hnext⟩

/-! ## A call -/

open Interruptible

/-- `appendAlerts` over the file of the journal. -/
def appendAlerts (store : FileIndexerStore) (alerts : List StoredAlert) :
    Interruptible (Option AlertEnvelope) Unit :=
  if alerts = [] then pure ()
  else replacing fun file => (store.replaceJournal alerts file).toOption

/-- What a call adds to a journal, and where it leaves it. -/
structure Appended (store : FileIndexerStore) (alerts : List StoredAlert)
    (journal after : Option AlertEnvelope) (added : List StoredAlert) : Prop where
  /-- Every record stays where it is, and what is added comes after it. -/
  records : journalRecords after = journalRecords journal ++ added
  /-- The first alert of the batch for each identifier that is new, in order. -/
  first : added = newAlerts ((journalRecords journal).map StoredAlert.id) alerts
  inOrder : added.Sublist alerts
  once : (added.map StoredAlert.id).Nodup
  fresh : ∀ id, id ∈ added.map StoredAlert.id ↔
    id ∈ alerts.map StoredAlert.id ∧ id ∉ (journalRecords journal).map StoredAlert.id
  /-- The batch again is accepted, and changes nothing, whatever becomes of the call. -/
  accepted : ∀ fates, (store.appendAlerts alerts (after, .settles :: fates)).2 = .ok ()
  again : ∀ fates, (store.appendAlerts alerts (after, fates)).1.1 = after

theorem appended_of_eq_ok (hsome : alerts ≠ [])
    (h : store.replaceJournal alerts journal = .ok next) :
    Appended store alerts journal (some next)
      (newAlerts ((journalRecords journal).map StoredAlert.id) alerts) := by
  -- To append the batch again changes nothing.
  have hagain : (store.replaceJournal alerts (some next)).toOption = some next := by
    rw [replaceJournal_again h]
    rfl
  refine ⟨replaceJournal_records h, rfl, newAlerts_sublist _ _, nodup_newAlerts _ _,
    fun id => mem_newAlerts_ids, ?_, ?_⟩
  · intro fates
    unfold appendAlerts
    rw [if_neg hsome]
    simp [replacing, await, hagain]
  · intro fates
    have houtcome := replacing_outcome
      (fun file => (store.replaceJournal alerts file).toOption) (some next) fates
    unfold appendAlerts
    rw [if_neg hsome]
    rcases hrun : replacing (fun file => (store.replaceJournal alerts file).toOption)
      (some next, fates) with ⟨⟨after, rest⟩, (_ | _) | ⟨⟩⟩
    · rw [hrun] at houtcome
      exact houtcome
    · rw [hrun] at houtcome
      rcases houtcome with hsame | ⟨last, hlast, hafter⟩
      · exact hsame
      · rw [hagain] at hlast
        exact hafter.trans hlast.symm
    · rw [hrun] at houtcome
      obtain ⟨last, hlast, hafter⟩ := houtcome
      rw [hagain] at hlast
      exact hafter.trans hlast.symm

/-- A batch without alerts is not written. -/
theorem appended_nil (store : FileIndexerStore) (journal : Option AlertEnvelope) :
    Appended store [] journal journal [] := by
  refine ⟨(List.append_nil _).symm, rfl, List.nil_sublist _, List.nodup_nil, ?_, fun _ => rfl,
    fun _ => rfl⟩
  intro id
  simp

/-- **Appends are idempotent, atomic and append-only.** A call that throws leaves
the journal alone; one that returns has appended what is new of the batch; and one
whose process dies has done either. -/
theorem appendAlerts_exact (store : FileIndexerStore) (alerts : List StoredAlert)
    (journal : Option AlertEnvelope) (fates : List Fate) :
    match store.appendAlerts alerts (journal, fates) with
    | ((after, _), .ok ()) => ∃ added, Appended store alerts journal after added
    | ((after, _), .error .threw) => after = journal
    | ((after, _), .error .died) =>
        after = journal ∨ ∃ added, Appended store alerts journal after added := by
  by_cases hnone : alerts = []
  · subst hnone
    exact ⟨[], appended_nil store journal⟩
  · -- Whatever is renamed into the file is the journal with the batch appended.
    have hsaved : ∀ next, (store.replaceJournal alerts journal).toOption = some next →
        ∃ added, Appended store alerts journal (some next) added := by
      intro next hnext
      rcases hreplaced : store.replaceJournal alerts journal with e | replaced
      · rw [hreplaced] at hnext
        exact absurd hnext (by simp [Except.toOption])
      · rw [hreplaced] at hnext
        obtain rfl := Option.some.inj hnext
        exact ⟨_, appended_of_eq_ok hnone hreplaced⟩
    have houtcome := replacing_outcome
      (fun file => (store.replaceJournal alerts file).toOption) journal fates
    unfold appendAlerts
    rw [if_neg hnone]
    rcases hrun : replacing (fun file => (store.replaceJournal alerts file).toOption)
      (journal, fates) with ⟨⟨after, rest⟩, (_ | _) | ⟨⟩⟩
    · rw [hrun] at houtcome
      exact houtcome
    · rw [hrun] at houtcome
      rcases houtcome with hsame | ⟨next, hnext, rfl⟩
      · exact .inl hsame
      · exact .inr (hsaved next hnext)
    · rw [hrun] at houtcome
      obtain ⟨next, hnext, rfl⟩ := houtcome
      exact hsaved next hnext

end FileIndexerStore

end CedraReflect.indexer
