/-
Every checkpoint was reconciled.

A snapshot is saved only of a projection and a cursor that a clean report was
about, with nothing in between that touched the state ([`Cleared`]). The calls
of one owner exclude each other and a call under an owner that is not the active
one fails before it does anything, so it is enough to follow the one call that
can go on: what it waits for knows that the permission is withdrawn, or that the
state it holds is still the reconciled one ([`Pending.Safe`]).
-/
import CedraReflect.Checkpoint

set_option autoImplicit false
set_option linter.constructorNameAsVariable false
set_option linter.unusedSectionVars false

namespace CedraReflect.indexer

variable [Sha256] [Spelling]

/-! ## What a saved snapshot rests on -/

/-- The last report was clean and of this projection at this cursor, and no
event group, alert, page or restore came after it. -/
def Cleared (moments : List Moment) (projection : ProtocolProjection) (cursor : EventCursor) :
    Prop :=
  ∃ before after now observed report,
    moments = before ++ .reconciled now projection cursor observed report :: after ∧
      (∀ moment ∈ after, moment.touches = false) ∧
      reconcile now (some cursor) projection observed = .ok report ∧ report.alerts = [] ∧
      observed.chainId = CEDRA_TESTNET_CHAIN_ID

/-- A snapshot of a cleared state. -/
def Sound (moments : List Moment) (snapshot : IndexerSnapshot) : Prop :=
  ∃ cursor takenAt, takeSnapshot snapshot.projection (some cursor) takenAt = .ok snapshot ∧
    Cleared moments snapshot.projection cursor

/-- Every snapshot was sound when it was saved. -/
def AllSound (moments : List Moment) : Prop :=
  ∀ before snapshot, before ++ [.saved snapshot] <+: moments → Sound before snapshot

theorem Cleared.append {moments more : List Moment} {projection : ProtocolProjection}
    {cursor : EventCursor} (h : Cleared moments projection cursor)
    (hmore : ∀ moment ∈ more, moment.touches = false) :
    Cleared (moments ++ more) projection cursor := by
  obtain ⟨before, after, now, observed, report, hmoments, hafter, hreport⟩ := h
  refine ⟨before, after ++ more, now, observed, report, ?_, ?_, hreport⟩
  · rw [hmoments, List.append_assoc, List.cons_append]
  · intro moment hmoment
    rcases List.mem_append.mp hmoment with hin | hin
    · exact hafter moment hin
    · exact hmore moment hin

theorem AllSound.concat {moments : List Moment} {moment : Moment} (h : AllSound moments)
    (hmoment : ∀ snapshot, moment = .saved snapshot → Sound moments snapshot) :
    AllSound (moments ++ [moment]) := by
  intro before snapshot hprefix
  rcases List.prefix_concat_iff.mp hprefix with heq | hprefix
  · obtain ⟨rfl, hlast⟩ := List.append_inj' heq rfl
    exact hmoment snapshot (List.head_eq_of_cons_eq hlast).symm
  · exact h before snapshot hprefix

/-! ## The call that can go on -/

/-- The permission is for the state that the indexer has. -/
def Permitted (indexer : Indexer) (moments : List Moment) : Prop :=
  ∀ reconciled, indexer.reconciled = some reconciled →
    indexer.replica.cursor = some reconciled.cursor ∧
      Cleared moments indexer.replica.projection reconciled.cursor

/-- What the call that can go on knows of the state while it waits. -/
def Pending.Safe (indexer : Indexer) (moments : List Moment) : Pending → Prop
  | load | journal => indexer.reconciled = none
  | page | save _ => True
  | views projection _ cursor _ =>
      indexer.reconciled = none ∧ indexer.replica.projection = projection ∧
        indexer.replica.cursor = some cursor
  | reconcileJournal now projection _ cursor _ observed report =>
      indexer.reconciled = none ∧ indexer.replica.projection = projection ∧
        indexer.replica.cursor = some cursor ∧
        reconcile now (some cursor) projection observed = .ok report
  | lease snapshot | base snapshot => Sound moments snapshot

/-- A turn that keeps the state safe. -/
structure Turn.Safe (moments : List Moment) (turn : Turn) : Prop where
  permitted : Permitted turn.indexer (moments ++ turn.moments)
  sound : AllSound (moments ++ turn.moments)
  pending : ∀ pending, turn.pending = some pending →
    pending.Safe turn.indexer (moments ++ turn.moments)

variable {indexer : Indexer} {moments : List Moment}

/-- A call that stops without a word. -/
theorem Turn.Safe.stop (hpermitted : Permitted indexer moments) (hsound : AllSound moments) :
    Turn.Safe moments ⟨indexer, [], none⟩ := by
  refine ⟨?_, ?_, ?_⟩
  · simpa using hpermitted
  · simpa using hsound
  · intro pending hpending
    exact absurd hpending (by simp)

theorem permitted_of_none (h : indexer.reconciled = none) : Permitted indexer moments := by
  intro reconciled hreconciled
  rw [h] at hreconciled
  exact absurd hreconciled (by simp)

theorem processTurn_safe (hsound : AllSound moments) (events : List ProtocolEvent) :
    (processTurn indexer events).Safe moments := by
  have hpage : AllSound (moments ++ [.page events]) := hsound.concat (by simp)
  unfold processTurn
  dsimp only
  rcases hprocess : indexer.invalidateReconciliation.replica.process events with
    ⟨replica, thrown | result⟩
  · exact ⟨permitted_of_none rfl, hpage, by simp⟩
  · by_cases halerts : result.alerts = []
    · simp only [halerts, if_true]
      exact ⟨permitted_of_none rfl, hpage, by simp⟩
    · simp only [halerts, if_false]
      refine ⟨permitted_of_none rfl, ?_, ?_⟩
      · have halerted : AllSound (moments ++ [.page events] ++ [.alerted result.alerts]) :=
          hpage.concat (by simp)
        simpa using halerted
      · intro pending hpending
        obtain rfl := Option.some_injective _ hpending
        rfl

theorem saveTurn_safe (hpermitted : Permitted indexer moments) (hall : AllSound moments)
    {snapshot : IndexerSnapshot} (hsound : Sound moments snapshot) :
    (saveTurn indexer snapshot).Safe moments := by
  unfold saveTurn
  rcases hbase : indexer.durableBaseSnapshotId with _ | base
  · refine ⟨by simpa using hpermitted, by simpa using hall, ?_⟩
    intro pending hpending
    obtain rfl := Option.some_injective _ hpending
    simpa [Pending.Safe] using hsound
  · refine ⟨?_, ?_, ?_⟩
    · intro reconciled hreconciled
      obtain ⟨hcursor, hcleared⟩ := hpermitted reconciled hreconciled
      exact ⟨hcursor, hcleared.append (by simp [Moment.touches])⟩
    · refine hall.concat ?_
      intro snapshot' heq
      obtain rfl := Moment.saved.inj heq
      exact hsound
    · intro pending hpending
      obtain rfl := Option.some_injective _ hpending
      trivial

/-- A snapshot is taken only of a state that the permission is for. -/
theorem checkpoint_sound (hpermitted : Permitted indexer moments) {takenAt : ℤ}
    {snapshot : IndexerSnapshot} (h : indexer.checkpoint takenAt = .ok snapshot) :
    Sound moments snapshot := by
  obtain ⟨cursor, reconciled, hcursor, hreconciled, htaken⟩ := Indexer.checkpoint_eq_ok h
  obtain ⟨hsame, hcleared⟩ := hpermitted reconciled hreconciled
  rw [hcursor] at hsame
  obtain rfl := Option.some_injective _ hsame
  have hprojection : snapshot.projection = indexer.replica.projection := by
    rw [takeSnapshot_eq_ok] at htaken
    rw [htaken.2.2.2]
  refine ⟨reconciled.cursor, takenAt, ?_, ?_⟩
  · rw [hprojection]
    exact htaken
  · rw [hprojection]
    exact hcleared

/-- The end of a reconciliation that went on undisturbed. -/
theorem authorize_safe (hall : AllSound moments) {now : ℤ} {projection : ProtocolProjection}
    {reference : ℕ} {cursor : EventCursor} {identity : String}
    {observed : ObservedAccountingSnapshot} {report : ReconciliationReport}
    (hnone : indexer.reconciled = none) (hprojection : indexer.replica.projection = projection)
    (hcursor : indexer.replica.cursor = some cursor)
    (hreport : reconcile now (some cursor) projection observed = .ok report)
    (hreconciled : report.reconciled = true → report.alerts = []) :
    Turn.Safe moments
      ⟨(indexer.authorize now projection reference cursor identity observed report).1,
        (indexer.authorize now projection reference cursor identity observed report).2, none⟩ := by
  unfold Indexer.authorize
  simp only
  -- Only an authorization leaves a reconciled state behind, and it is of this report.
  split_ifs with hauthorized
  · refine ⟨?_, ?_, by simp⟩
    · intro reconciled heq
      obtain rfl := Option.some_injective _ heq
      refine ⟨hcursor, moments, [], now, observed, report, ?_, by simp, ?_, ?_, ?_⟩
      · rw [← hprojection]
      · rw [hprojection]
        exact hreport
      · exact hreconciled hauthorized.1
      · exact hauthorized.2.2.1
    · exact hall.concat (by simp)
  · exact Turn.Safe.stop (permitted_of_none hnone) hall

/-- A report is reconciled when it has no alerts. -/
theorem reconcile_alerts {now : ℤ} {cursor : Option EventCursor} {projection : ProtocolProjection}
    {observed : ObservedAccountingSnapshot} {report : ReconciliationReport}
    (h : reconcile now cursor projection observed = .ok report) :
    report.reconciled = true → report.alerts = [] := by
  unfold reconcile at h
  simp only [bind_eq_ok] at h
  obtain ⟨vault, _, liability, _, pending, _, h⟩ := h
  split_ifs at h with hversion
  · rw [pure_eq_ok] at h
    rw [h]
    simp
  · rcases hbooks : reconcileBooks now cursor projection observed vault liability pending () with
      ⟨alerts, thrown | ⟨lpEpochs, ⟨⟩⟩⟩
    · simp [hbooks] at h
    · simp only [hbooks, pure_eq_ok] at h
      rw [h]
      exact List.isEmpty_iff.mp

/-! ## Turns -/

/-- A call from its start, in a safe state. -/
theorem Operation.start_safe (hpermitted : Permitted indexer moments) (hall : AllSound moments)
    (direct : Bool) (operation : Operation) : (operation.start indexer direct).Safe moments := by
  -- Each operation up to its first `await`.
  cases operation with
  | restoreLatestSnapshot =>
      refine ⟨permitted_of_none rfl, hall.concat (by simp), ?_⟩
      intro pending hpending
      obtain rfl := Option.some_injective _ hpending
      rfl
  | process events => exact processTurn_safe hall events
  | pollOnce limit =>
      unfold Operation.start
      by_cases hlimit : limit < 1 ∨ 10_000 < limit
      · simp only [hlimit, if_true]
        exact Turn.Safe.stop hpermitted hall
      · simp only [hlimit, if_false]
        refine ⟨by simpa using hpermitted, by simpa using hall, ?_⟩
        intro pending hpending
        obtain rfl := Option.some_injective _ hpending
        trivial
  | reconcile =>
      unfold Operation.start
      rcases hcursor : indexer.replica.cursor with _ | cursor
      · exact Turn.Safe.stop hpermitted hall
      · dsimp only
        rcases Indexer.checkpointStateIdentity indexer.invalidateReconciliation.replica.projection
          cursor with thrown | identity
        · exact Turn.Safe.stop (permitted_of_none rfl) hall
        · refine ⟨permitted_of_none rfl, by simpa using hall, ?_⟩
          intro pending hpending
          obtain rfl := Option.some_injective _ hpending
          exact ⟨rfl, rfl, hcursor⟩
  | snapshot takenAt =>
      unfold Operation.start
      rcases hcheckpoint : indexer.checkpoint takenAt with thrown | taken
      · simp only [hcheckpoint]
        exact Turn.Safe.stop hpermitted hall
      · simp only [hcheckpoint]
        have hsound := checkpoint_sound hpermitted hcheckpoint
        split_ifs
        · refine ⟨by simpa using hpermitted, by simpa using hall, ?_⟩
          intro pending hpending
          obtain rfl := Option.some_injective _ hpending
          simpa [Pending.Safe] using hsound
        · exact saveTurn_safe hpermitted hall hsound

/-- A call from an `await` on, if what it knew is still so. -/
theorem Pending.continue_safe (hpermitted : Permitted indexer moments) (hall : AllSound moments)
    {pending : Pending} (hpending : pending.Safe indexer moments) (answer : Answer) :
    (pending.continue indexer answer).Safe moments := by
  -- An answer of another kind, or one that throws, ends the call and leaves the state.
  have hstop : Turn.Safe moments ⟨indexer, [], none⟩ := Turn.Safe.stop hpermitted hall
  cases pending with
  | load =>
      cases answer with
      | loaded loaded =>
          rcases loaded with _ | loaded
          · exact ⟨permitted_of_none hpending, hall.concat (by simp), by simp [Pending.continue]⟩
          · simp only [Pending.continue]
            rcases decodeSnapshot (encodeSnapshot loaded) with thrown | snapshot
            · exact hstop
            · exact ⟨permitted_of_none hpending, hall.concat (by simp), by simp⟩
      | _ => exact hstop
  | page =>
      cases answer with
      | page served =>
          simp only [Pending.continue]
          split_ifs
          · exact hstop
          · exact processTurn_safe hall served.events
      | _ => exact hstop
  | journal => cases answer <;> exact hstop
  | views projection reference cursor identity =>
      cases answer with
      | views now observed =>
          -- The views are compared with the projection and cursor that were kept when they were
          -- asked for.
          obtain ⟨hnone, hprojection, hcursor⟩ := hpending
          simp only [Pending.continue]
          rcases hreport : reconcile now (some cursor) projection observed with thrown | report
          · exact hstop
          · by_cases halerts : report.alerts = []
            · simp only [halerts, if_true]
              exact authorize_safe hall hnone hprojection hcursor hreport fun _ => halerts
            · simp only [halerts, if_false]
              refine ⟨permitted_of_none hnone, hall.concat (by simp), ?_⟩
              intro pending hpending
              obtain rfl := Option.some_injective _ hpending
              exact ⟨hnone, hprojection, hcursor, hreport⟩
      | _ => exact hstop
  | reconcileJournal now projection reference cursor identity observed report =>
      cases answer with
      | written =>
          obtain ⟨hnone, hprojection, hcursor, hreport⟩ := hpending
          exact authorize_safe hall hnone hprojection hcursor hreport (reconcile_alerts hreport)
      | _ => exact hstop
  | lease taken =>
      cases answer with
      | leased => exact saveTurn_safe hpermitted hall hpending
      | _ => exact hstop
  | base taken =>
      cases answer with
      | loaded loaded =>
          rcases loaded with _ | loaded
          · refine ⟨?_, ?_, ?_⟩
            · intro reconciled hreconciled
              obtain ⟨hcursor, hcleared⟩ := hpermitted reconciled hreconciled
              exact ⟨hcursor, hcleared.append (by simp [Pending.continue, Moment.touches])⟩
            · refine hall.concat ?_
              intro snapshot heq
              obtain rfl := Moment.saved.inj heq
              exact hpending
            · intro pending hpending
              obtain rfl := Option.some_injective _ hpending
              trivial
          · exact hstop
      | _ => exact hstop
  | save taken =>
      cases answer with
      | written =>
          have hkept : Permitted { indexer with durableBaseSnapshotId := some (some taken.id) }
              moments := hpermitted
          exact Turn.Safe.stop hkept hall
      | _ => exact hstop

/-! ## Runs -/

/-- What every step keeps. -/
structure System.Safe (system : System) : Prop where
  permitted : Permitted system.indexer system.moments
  sound : AllSound system.moments
  active : ∀ owner, system.activeStateOwner = some owner → owner < system.owners
  fresh : ∀ owner, system.owners ≤ owner → system.tasks owner = none
  live : ∀ owner pending, system.activeStateOwner = some owner →
    system.tasks owner = some pending → pending.Safe system.indexer system.moments

/-- The owner that is active takes a turn. -/
theorem System.take_safe {system : System} (hactive : ∀ owner, system.activeStateOwner = some owner →
    owner < system.owners) (hfresh : ∀ owner, system.owners ≤ owner → system.tasks owner = none)
    {owner : ℕ} (howner : system.activeStateOwner = some owner) {turn : Turn}
    (hturn : turn.Safe system.moments) : (system.take owner turn).Safe where
  permitted := hturn.permitted
  sound := hturn.sound
  active := by
    intro o ho
    simp only [take] at ho
    split_ifs at ho
    exact hactive o ho
  fresh := by
    intro o ho
    simp only [take] at ho ⊢
    have hlt := hactive owner howner
    rw [if_neg (by omega)]
    exact hfresh o ho
  live := by
    intro o pending ho hpending
    simp only [take] at ho hpending
    split_ifs at ho
    rw [howner] at ho
    obtain rfl := Option.some_injective _ ho
    rw [if_pos rfl] at hpending
    exact hturn.pending pending hpending

theorem System.step_safe {system : System} (h : system.Safe) (act : Act) :
    (system.step act).Safe := by
  cases act with
  | call operation =>
      simp only [System.step]
      split_ifs with hbusy
      · exact h
      · refine System.take_safe ?_ ?_ rfl (operation.start_safe h.permitted h.sound true)
        · intro owner howner
          obtain rfl := Option.some_injective _ howner
          exact Nat.lt_succ_self _
        · intro owner howner
          exact h.fresh owner (by simp only at howner; omega)
  | openCycle =>
      simp only [System.step]
      split_ifs with hbusy
      · exact h
      · refine ⟨h.permitted, h.sound, ?_, ?_, ?_⟩
        · intro owner howner
          obtain rfl := Option.some_injective _ howner
          exact Nat.lt_succ_self _
        · intro owner howner
          exact h.fresh owner (by simp only at howner; omega)
        · -- The owner is new, so no call runs under it.
          intro owner pending howner hpending
          obtain rfl := Option.some_injective _ howner
          rw [h.fresh system.owners (le_refl _)] at hpending
          exact absurd hpending (by simp)
  | invoke owner operation =>
      simp only [System.step]
      split_ifs with hrefused
      · exact h
      · push Not at hrefused
        exact System.take_safe h.active h.fresh hrefused.2.1
          (operation.start_safe h.permitted h.sound false)
  | resume owner answer =>
      simp only [System.step]
      rcases hpending : system.tasks owner with _ | pending
      · exact h
      · dsimp only
        split_ifs with howner
        · -- `assertStateOwner` fails: the call ends and the state stays.
          refine ⟨h.permitted, h.sound, h.active, ?_, ?_⟩
          · intro o ho
            simp only [System.drop]
            split_ifs
            · rfl
            · exact h.fresh o ho
          · intro o pending' ho hpending'
            simp only [System.drop] at hpending'
            split_ifs at hpending'
            exact h.live o pending' ho hpending'
        · rw [ne_eq, not_not] at howner
          exact System.take_safe h.active h.fresh howner
            (pending.continue_safe h.permitted h.sound (h.live owner pending howner hpending) answer)
  | closeCycle owner =>
      simp only [System.step]
      split_ifs with hclosed
      · exact ⟨h.permitted, h.sound, by simp, h.fresh, by simp⟩
      · exact h

theorem System.new_safe (base : Option (Option String)) : (System.new base).Safe where
  permitted := permitted_of_none rfl
  sound := by
    intro before snapshot hprefix
    exact absurd (List.prefix_nil.mp hprefix) (by simp)
  active := by simp [System.new]
  fresh := by simp [System.new]
  live := by simp [System.new]

theorem System.run_safe {system : System} (h : system.Safe) (acts : List Act) :
    (system.run acts).Safe := by
  induction acts generalizing system with
  | nil => exact h
  | cons act acts ih => exact ih (System.step_safe h act)

/-- **Every checkpoint was reconciled.** However calls are scheduled, under
cycles or directly, and whatever the store and the source answer: at every
snapshot that is saved, the last report was clean, of just that projection at
just that cursor, and nothing has touched the state since. -/
theorem checkpoints_reconciled (base : Option (Option String)) (acts : List Act) :
    AllSound ((System.new base).run acts).moments :=
  (System.run_safe (System.new_safe base) acts).sound

end CedraReflect.indexer
