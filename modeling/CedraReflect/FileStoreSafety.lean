/-
Any number of processes over the directory of one `FileIndexerStore`.

A [`Workload`] says who ever calls what, and a [`StoreWorld`] is where all of it
stands: the writer lease, the sections of `withExclusiveWriter`, and the two
files with their own lock files. One step is one file operation of one call, the
death of a process, or an operator's removal of a lock file whose creator is
gone. What a step may do to a file is a step of the library of locked files.
-/
import CedraReflect.FileStore
import CedraReflect.LockedFile

set_option autoImplicit false
set_option linter.constructorNameAsVariable false

namespace CedraReflect.indexer

/-! ## Who calls what -/

/-- A store of a process. -/
structure Client where
  process : ℕ
  store : FileIndexerStore

/-- `saveSnapshot(snapshot, lease, expectedBaseSnapshotId)`, with the lease that
a section issued. -/
structure Save where
  client : ℕ
  lease : ℕ
  snapshot : IndexerSnapshot
  expectedBaseSnapshotId : Option String

/-- `appendAlerts(alerts, lease)`. -/
structure Append where
  client : ℕ
  lease : ℕ
  alerts : List StoredAlert

/-- All calls there may ever be. Clients, sections and calls are numbered; a
section is a call of `withExclusiveWriter`, by the client that is noted. -/
structure Workload where
  clients : ℕ → Client
  sections : ℕ → ℕ
  saves : ℕ → Save
  appends : ℕ → Append

/-- How far a call of `withExclusiveWriter` has come. -/
inductive SectionStage where
  | uncalled
  | locked
  | active
  | drained
  | ended
  | dead
deriving DecidableEq

/-- The section's lock file is there, and its process as well. -/
def SectionStage.live : SectionStage → Bool
  | locked | active | drained => true
  | uncalled | ended | dead => false

theorem live_of_active {stage : SectionStage} (h : stage = .active) : stage.live = true := by
  rw [h]
  rfl

structure StoreWorld where
  /-- The process was killed. -/
  killed : ℕ → Bool
  /-- `indexer-writer.lock`, with the section that created it. -/
  writerLock : Option ℕ
  sections : ℕ → SectionStage
  /-- `activeLease` of a client. -/
  activeLease : ℕ → Option ℕ
  snapshotFile : LockedFile ℕ SnapshotEnvelope
  alertsFile : LockedFile ℕ AlertEnvelope

namespace StoreWorld

def fresh : StoreWorld :=
  ⟨fun _ => false, none, fun _ => .uncalled, fun _ => none, .fresh, .fresh⟩

/-- A section goes on to a stage. -/
def enter (world : StoreWorld) (s : ℕ) (stage : SectionStage) : StoreWorld :=
  { world with sections := Function.update world.sections s stage }

/-- `this.activeLease = lease`. -/
def lease (world : StoreWorld) (client : ℕ) (lease : Option ℕ) : StoreWorld :=
  { world with activeLease := Function.update world.activeLease client lease }

end StoreWorld

/-- `assertActiveLease(lease)` comes before the call, the read and the write. -/
def asserts {ι : Type} : LockedFile.Act ι → Bool
  | .call _ | .read _ | .stage _ => true
  | .acquire _ | .rename _ | .acknowledge _ | .fail _ | .kill _ | .clear => false

namespace Workload

variable [Sha256] [StoreTexts] (load : Workload)

def storeOf (client : ℕ) : FileIndexerStore := (load.clients client).store

def processOf (client : ℕ) : ℕ := (load.clients client).process

def saveUpdate (k : ℕ) (file : Option SnapshotEnvelope) : Option SnapshotEnvelope :=
  let save := load.saves k
  let replaced :=
    (load.storeOf save.client).replaceSnapshot save.snapshot save.expectedBaseSnapshotId file
  replaced.toOption

def appendUpdate (k : ℕ) (file : Option AlertEnvelope) : Option AlertEnvelope :=
  let append := load.appends k
  ((load.storeOf append.client).replaceJournal append.alerts file).toOption

/-- The snapshot is encoded and decoded before the lock. -/
def SaveAdmitted (k : ℕ) : Prop :=
  let save := load.saves k
  ∃ prepared, (load.storeOf save.client).prepareSnapshot save.snapshot save.expectedBaseSnapshotId
    = .ok prepared

/-- The batch is encoded before the lock, and an empty one is not written. -/
def AppendAdmitted (k : ℕ) : Prop :=
  (load.appends k).alerts ≠ []
    ∧ ∃ incoming, (load.appends k).alerts.mapM encodeCriticalAlert = .ok incoming

/-- The client has no call that is still running. -/
def Drained (world : StoreWorld) (client : ℕ) : Prop :=
  (∀ k, (load.saves k).client = client → (world.snapshotFile.stage k).running = false)
    ∧ ∀ k, (load.appends k).client = client → (world.alertsFile.stage k).running = false

/-- What can happen next. -/
inductive Step : StoreWorld → StoreWorld → Prop where
  | lock {w : StoreWorld} {s : ℕ} (hstage : w.sections s = .uncalled)
      (halive : w.killed (load.processOf (load.sections s)) = false) (hfree : w.writerLock = none) :
      Step w { w.enter s .locked with writerLock := some s }
  -- The lock file is written, and the callback gets a lease of its own.
  | activate {w : StoreWorld} {s : ℕ} (hstage : w.sections s = .locked) :
      Step w ((w.enter s .active).lease (load.sections s) (some s))
  | abandon {w : StoreWorld} {s : ℕ} {lock : Option ℕ} (hstage : w.sections s = .locked)
      (hlock : lock = w.writerLock ∨ lock = none) :
      Step w { w.enter s .ended with writerLock := lock }
  | drain {w : StoreWorld} {s : ℕ} (hstage : w.sections s = .active)
      (hdrained : load.Drained w (load.sections s)) :
      Step w ((w.enter s .drained).lease (load.sections s) none)
  | unlock {w : StoreWorld} {s : ℕ} {lock : Option ℕ} (hstage : w.sections s = .drained)
      (hlock : lock = w.writerLock ∨ lock = none) :
      Step w { w.enter s .ended with writerLock := lock }
  | save {w : StoreWorld} {k : ℕ} {act : LockedFile.Act ℕ} {file : LockedFile ℕ SnapshotEnvelope}
      (hactor : act.actor = some k)
      (hlease : asserts act = true →
        w.activeLease (load.saves k).client = some (load.saves k).lease)
      (hadmitted : act = .call k → load.SaveAdmitted k)
      (hfile : w.snapshotFile.Step load.saveUpdate act file) :
      Step w { w with snapshotFile := file }
  | append {w : StoreWorld} {k : ℕ} {act : LockedFile.Act ℕ} {file : LockedFile ℕ AlertEnvelope}
      (hactor : act.actor = some k)
      (hlease : asserts act = true →
        w.activeLease (load.appends k).client = some (load.appends k).lease)
      (hadmitted : act = .call k → load.AppendAdmitted k)
      (hfile : w.alertsFile.Step load.appendUpdate act file) :
      Step w { w with alertsFile := file }
  | kill {w : StoreWorld} (p : ℕ) :
      Step w
        { killed := Function.update w.killed p true
          writerLock := w.writerLock
          sections := fun s =>
            if load.processOf (load.sections s) = p ∧ (w.sections s).live = true then .dead
            else w.sections s
          activeLease := fun c => if load.processOf c = p then none else w.activeLease c
          snapshotFile := w.snapshotFile.kill fun k => load.processOf (load.saves k).client = p
          alertsFile := w.alertsFile.kill fun k => load.processOf (load.appends k).client = p }
  -- An operator removes a lock file once its creator is no longer at work.
  | clearWriter {w : StoreWorld} {s : ℕ} (hlock : w.writerLock = some s)
      (hover : (w.sections s).live = false) : Step w { w with writerLock := none }
  | clearSnapshot {w : StoreWorld} {file : LockedFile ℕ SnapshotEnvelope}
      (hfile : w.snapshotFile.Step load.saveUpdate .clear file) :
      Step w { w with snapshotFile := file }
  | clearAlerts {w : StoreWorld} {file : LockedFile ℕ AlertEnvelope}
      (hfile : w.alertsFile.Step load.appendUpdate .clear file) :
      Step w { w with alertsFile := file }

/-- Any number of steps. -/
def Runs : StoreWorld → StoreWorld → Prop := Relation.ReflTransGen load.Step

/-- A world that the workload may lead to. -/
def Reachable (world : StoreWorld) : Prop := load.Runs .fresh world

/-! ## The files over a run -/

section

variable {load} {w w' : StoreWorld}

/-- A step of the world as a step of each file. -/
theorem Step.files (h : load.Step w w') :
    (w'.snapshotFile = w.snapshotFile
        ∨ ∃ act, w.snapshotFile.Step load.saveUpdate act w'.snapshotFile)
      ∧ (w'.alertsFile = w.alertsFile
        ∨ ∃ act, w.alertsFile.Step load.appendUpdate act w'.alertsFile) := by
  cases h with
  | lock | activate | abandon | drain | unlock | clearWriter => exact ⟨.inl rfl, .inl rfl⟩
  | save hactor hlease hadmitted hfile => exact ⟨.inr ⟨_, hfile⟩, .inl rfl⟩
  | append hactor hlease hadmitted hfile => exact ⟨.inl rfl, .inr ⟨_, hfile⟩⟩
  | kill p => exact ⟨.inr ⟨_, .kill⟩, .inr ⟨_, .kill⟩⟩
  | clearSnapshot hfile => exact ⟨.inr ⟨_, hfile⟩, .inl rfl⟩
  | clearAlerts hfile => exact ⟨.inl rfl, .inr ⟨_, hfile⟩⟩

/-- What the library says of both files. -/
structure FilesSound (load : Workload) (world : StoreWorld) : Prop where
  snapshot : world.snapshotFile.Sound load.saveUpdate
  snapshotAuthored : world.snapshotFile.Authored
  alerts : world.alertsFile.Sound load.appendUpdate
  alertsAuthored : world.alertsFile.Authored

theorem FilesSound.step (hs : load.FilesSound w) (h : load.Step w w') : load.FilesSound w' := by
  obtain ⟨hsnapshot, halerts⟩ := h.files
  constructor
  · rcases hsnapshot with heq | ⟨act, hact⟩
    · rw [heq]
      exact hs.snapshot
    · exact hact.sound hs.snapshot
  · rcases hsnapshot with heq | ⟨act, hact⟩
    · rw [heq]
      exact hs.snapshotAuthored
    · exact hact.authored hs.snapshotAuthored
  · rcases halerts with heq | ⟨act, hact⟩
    · rw [heq]
      exact hs.alerts
    · exact hact.sound hs.alerts
  · rcases halerts with heq | ⟨act, hact⟩
    · rw [heq]
      exact hs.alertsAuthored
    · exact hact.authored hs.alertsAuthored

theorem Runs.filesSound (hrun : load.Runs w w') (hs : load.FilesSound w) :
    load.FilesSound w' := by
  induction hrun with
  | refl => exact hs
  | tail _ hstep ih => exact ih.step hstep

theorem Reachable.filesSound (h : load.Reachable w) : load.FilesSound w :=
  Runs.filesSound h ⟨LockedFile.sound_fresh, LockedFile.authored_fresh, LockedFile.sound_fresh,
    LockedFile.authored_fresh⟩

/-- What was written stays written, over any run. -/
theorem Runs.written_prefix (hrun : load.Runs w w') :
    w.snapshotFile.written <+: w'.snapshotFile.written
      ∧ w.alertsFile.written <+: w'.alertsFile.written := by
  induction hrun with
  | refl => exact ⟨List.prefix_refl _, List.prefix_refl _⟩
  | tail _ hstep ih =>
      obtain ⟨hsnapshot, halerts⟩ := hstep.files
      constructor
      · rcases hsnapshot with heq | ⟨act, hact⟩
        · rw [heq]
          exact ih.1
        · exact ih.1.trans hact.written_prefix
      · rcases halerts with heq | ⟨act, hact⟩
        · rw [heq]
          exact ih.2
        · exact ih.2.trans hact.written_prefix

/-! ## The writer lease -/

/-- A lease is active in a section that holds the writer lock, and a call that
runs was made under the lease of its client. -/
structure Leased (load : Workload) (world : StoreWorld) : Prop where
  lock : ∀ s, (world.sections s).live = true → world.writerLock = some s
  lease : ∀ c s, world.activeLease c = some s →
    world.sections s = .active ∧ load.sections s = c
  saves : ∀ k, (world.snapshotFile.stage k).running = true →
    world.activeLease (load.saves k).client = some (load.saves k).lease
  appends : ∀ k, (world.alertsFile.stage k).running = true →
    world.activeLease (load.appends k).client = some (load.appends k).lease

omit [Sha256] [StoreTexts] in
/-- There is at most one live section. -/
theorem Leased.only (hs : load.Leased w) {s s' : ℕ} (hlive : (w.sections s).live = true)
    (hlive' : (w.sections s').live = true) : s' = s := by
  have hlock := hs.lock s hlive
  rw [hs.lock s' hlive'] at hlock
  exact Option.some.inj hlock

omit [Sha256] [StoreTexts] in
/-- A section that gives the writer lock up, or leaves its file behind. -/
theorem Leased.leave (hs : load.Leased w) {s : ℕ} {stage : SectionStage} {lock : Option ℕ}
    (hlive : (w.sections s).live = true) (hactive : w.sections s ≠ .active)
    (hover : stage.live = false) :
    load.Leased { w.enter s stage with writerLock := lock } where
  lock s' hlive' := by
    have hupdated : (Function.update w.sections s stage s').live = true := hlive'
    by_cases hs' : s' = s
    · rw [hs', Function.update_self, hover] at hupdated
      exact absurd hupdated (by decide)
    · rw [Function.update_of_ne hs'] at hupdated
      exact absurd (hs.only hlive hupdated) hs'
  lease c s' hlease := by
    obtain ⟨hactive', hclient⟩ := hs.lease c s' hlease
    refine ⟨?_, hclient⟩
    show Function.update w.sections s stage s' = .active
    rw [Function.update_of_ne]
    · exact hactive'
    · intro heq
      rw [heq] at hactive'
      exact hactive hactive'
  saves := hs.saves
  appends := hs.appends

omit [Sha256] [StoreTexts] in
/-- While nobody holds the writer lock, no section is live. -/
theorem Leased.not_live (hs : load.Leased w) (hfree : w.writerLock = none) (s : ℕ) :
    (w.sections s).live = false := by
  rw [Bool.eq_false_iff]
  intro hlive
  rw [hs.lock s hlive] at hfree
  exact absurd hfree (by simp)

omit [Sha256] [StoreTexts] in
/-- The section that holds the writer lock goes on to its next stage. -/
theorem Leased.lock_enter (hs : load.Leased w) {s : ℕ} (hlive : (w.sections s).live = true)
    (stage : SectionStage) (s' : ℕ) (hlive' : (Function.update w.sections s stage s').live = true) :
    w.writerLock = some s' := by
  by_cases hs' : s' = s
  · rw [hs']
    exact hs.lock s hlive
  · rw [Function.update_of_ne hs'] at hlive'
    exact hs.lock s' hlive'

omit [Sha256] [StoreTexts] in
/-- A section takes the free writer lock. -/
theorem Leased.locked (hs : load.Leased w) {s : ℕ} (hfree : w.writerLock = none) :
    load.Leased { w.enter s .locked with writerLock := some s } where
  lock s' hlive := by
    have hupdated : (Function.update w.sections s .locked s').live = true := hlive
    by_cases hs' : s' = s
    · rw [hs']
    · rw [Function.update_of_ne hs', hs.not_live hfree s'] at hupdated
      exact absurd hupdated (by decide)
  lease c s' hlease := by
    -- No lease was active: its section would be live without the lock.
    obtain ⟨hactive, _⟩ := hs.lease c s' hlease
    have hdead := hs.not_live hfree s'
    rw [hactive] at hdead
    exact absurd hdead (by decide)
  saves := hs.saves
  appends := hs.appends

omit [Sha256] [StoreTexts] in
/-- While a section is only locked, no client has a lease. -/
theorem Leased.no_lease (hs : load.Leased w) {s : ℕ} (hstage : w.sections s = .locked) (c : ℕ) :
    w.activeLease c = none := by
  have hlive : (w.sections s).live = true := by rw [hstage]; rfl
  rcases hlease : w.activeLease c with _ | s'
  · rfl
  · obtain ⟨hactive, _⟩ := hs.lease c s' hlease
    have heq := hs.only hlive (live_of_active hactive)
    rw [heq, hstage] at hactive
    exact absurd hactive (by decide)

omit [Sha256] [StoreTexts] in
/-- The section that holds the writer lock gives its client a lease. -/
theorem Leased.activated (hs : load.Leased w) {s : ℕ} (hstage : w.sections s = .locked) :
    load.Leased ((w.enter s .active).lease (load.sections s) (some s)) where
  lock s' hlive' := hs.lock_enter (by rw [hstage]; rfl) .active s' hlive'
  lease c s' hlease := by
    have hupdated : Function.update w.activeLease (load.sections s) (some s) c = some s' := hlease
    by_cases hc : c = load.sections s
    · rw [hc, Function.update_self] at hupdated
      rw [← Option.some.inj hupdated]
      exact ⟨Function.update_self _ _ _, hc.symm⟩
    · rw [Function.update_of_ne hc, hs.no_lease hstage c] at hupdated
      exact absurd hupdated (by simp)
  saves k hrunning := by
    have hlease := hs.saves k hrunning
    rw [hs.no_lease hstage] at hlease
    exact absurd hlease (by simp)
  appends k hrunning := by
    have hlease := hs.appends k hrunning
    rw [hs.no_lease hstage] at hlease
    exact absurd hlease (by simp)

omit [Sha256] [StoreTexts] in
/-- A section takes the lease back once none of its client's calls runs. -/
theorem Leased.drained (hs : load.Leased w) {s : ℕ} (hlive : (w.sections s).live = true)
    (hdrained : load.Drained w (load.sections s)) :
    load.Leased ((w.enter s .drained).lease (load.sections s) none) where
  lock s' hlive' := hs.lock_enter hlive .drained s' hlive'
  lease c s' hlease := by
    have hupdated : Function.update w.activeLease (load.sections s) none c = some s' := hlease
    by_cases hc : c = load.sections s
    · rw [hc, Function.update_self] at hupdated
      exact absurd hupdated (by simp)
    · rw [Function.update_of_ne hc] at hupdated
      obtain ⟨hactive, hclient⟩ := hs.lease c s' hupdated
      refine ⟨?_, hclient⟩
      show Function.update w.sections s .drained s' = .active
      rw [Function.update_of_ne]
      · exact hactive
      · intro heq
        rw [heq] at hclient
        exact hc hclient.symm
  saves k hrunning := by
    show Function.update w.activeLease (load.sections s) none _ = _
    rw [Function.update_of_ne]
    · exact hs.saves k hrunning
    · intro hclient
      exact Bool.false_ne_true ((hdrained.1 k hclient).symm.trans hrunning)
  appends k hrunning := by
    show Function.update w.activeLease (load.sections s) none _ = _
    rw [Function.update_of_ne]
    · exact hs.appends k hrunning
    · intro hclient
      exact Bool.false_ne_true ((hdrained.2 k hclient).symm.trans hrunning)

omit [Sha256] [StoreTexts] in
/-- A process is killed: its sections are dead, its leases gone and its calls
stopped. -/
theorem Leased.kill (hs : load.Leased w) (p : ℕ) :
    load.Leased
      { killed := Function.update w.killed p true
        writerLock := w.writerLock
        sections := fun s =>
          if load.processOf (load.sections s) = p ∧ (w.sections s).live = true then .dead
          else w.sections s
        activeLease := fun c => if load.processOf c = p then none else w.activeLease c
        snapshotFile := w.snapshotFile.kill fun k => load.processOf (load.saves k).client = p
        alertsFile := w.alertsFile.kill fun k => load.processOf (load.appends k).client = p } where
  lock s hlive := by
    refine hs.lock s ?_
    simp only at hlive
    split_ifs at hlive with hgone
    · exact hgone.2
    · exact hlive
  lease c s hlease := by
    simp only at hlease ⊢
    split_ifs at hlease with hgone
    obtain ⟨hactive, hclient⟩ := hs.lease c s hlease
    rw [if_neg (by rw [hclient]; exact fun hkilled => hgone hkilled.1)]
    exact ⟨hactive, hclient⟩
  saves k hrunning := by
    obtain ⟨hbefore, hgone⟩ := LockedFile.running_of_kill hrunning
    simp only [if_neg (of_decide_eq_false hgone)]
    exact hs.saves k hbefore
  appends k hrunning := by
    obtain ⟨hbefore, hgone⟩ := LockedFile.running_of_kill hrunning
    simp only [if_neg (of_decide_eq_false hgone)]
    exact hs.appends k hbefore

/-- **One step keeps the lease exclusive.** -/
theorem Leased.step (hs : load.Leased w) (h : load.Step w w') : load.Leased w' := by
  cases h with
  | @lock s hstage halive hfree => exact hs.locked hfree
  | @activate s hstage => exact hs.activated hstage
  | @abandon s lock hstage hlock =>
      exact hs.leave (by rw [hstage]; rfl) (by rw [hstage]; decide) rfl
  | @drain s hstage hdrained => exact hs.drained (by rw [hstage]; rfl) hdrained
  | @unlock s lock hstage hlock =>
      exact hs.leave (by rw [hstage]; rfl) (by rw [hstage]; decide) rfl
  -- Only a call makes a writer run, and a call asserts its lease.
  | @save k act file hactor hlease hadmitted hfile =>
      refine ⟨hs.lock, hs.lease, ?_, hs.appends⟩
      intro j hrunning
      rcases hfile.running_of hrunning with hbefore | rfl
      · exact hs.saves j hbefore
      · obtain rfl := Option.some.inj hactor
        exact hlease rfl
  | @append k act file hactor hlease hadmitted hfile =>
      refine ⟨hs.lock, hs.lease, hs.saves, ?_⟩
      intro j hrunning
      rcases hfile.running_of hrunning with hbefore | rfl
      · exact hs.appends j hbefore
      · obtain rfl := Option.some.inj hactor
        exact hlease rfl
  | kill p => exact hs.kill p
  | @clearWriter s hlock hover =>
      refine ⟨?_, hs.lease, hs.saves, hs.appends⟩
      intro s' hlive
      have hlock' := hs.lock s' hlive
      rw [hlock] at hlock'
      obtain rfl := Option.some.inj hlock'
      have hlive' : (w.sections s).live = true := hlive
      rw [hover] at hlive'
      exact absurd hlive' (by decide)
  | clearSnapshot hfile =>
      refine ⟨hs.lock, hs.lease, ?_, hs.appends⟩
      intro j hrunning
      rcases hfile.running_of hrunning with hbefore | hcall
      · exact hs.saves j hbefore
      · exact absurd hcall (by simp)
  | clearAlerts hfile =>
      refine ⟨hs.lock, hs.lease, hs.saves, ?_⟩
      intro j hrunning
      rcases hfile.running_of hrunning with hbefore | hcall
      · exact hs.appends j hbefore
      · exact absurd hcall (by simp)

theorem Reachable.leased (h : load.Reachable w) : load.Leased w := by
  unfold Reachable Runs at h
  induction h with
  | refl =>
      exact ⟨fun s hlive => absurd hlive (by simp [StoreWorld.fresh, SectionStage.live]),
        fun c s hlease => absurd hlease (by simp [StoreWorld.fresh]),
        fun k hrunning => absurd hrunning
          (by simp [StoreWorld.fresh, LockedFile.fresh, WriterStage.running]),
        fun k hrunning => absurd hrunning
          (by simp [StoreWorld.fresh, LockedFile.fresh, WriterStage.running])⟩
  | tail _ hstep ih => exact ih.step hstep

/-- **One writer at a time.** The calls that run at any moment are all made under
one lease, by one client. -/
theorem Reachable.one_writer (h : load.Reachable w) :
    ∃ client lease, (∀ k, (w.snapshotFile.stage k).running = true →
        (load.saves k).client = client ∧ (load.saves k).lease = lease)
      ∧ ∀ k, (w.alertsFile.stage k).running = true →
        (load.appends k).client = client ∧ (load.appends k).lease = lease := by
  have hs := h.leased
  -- Two active leases are those of one section.
  have hone : ∀ {c c' s s' : ℕ}, w.activeLease c = some s → w.activeLease c' = some s' →
      c' = c ∧ s' = s := by
    intro c c' s s' hc hc'
    obtain ⟨hactive, hclient⟩ := hs.lease c s hc
    obtain ⟨hactive', hclient'⟩ := hs.lease c' s' hc'
    have heq := hs.only (live_of_active hactive) (live_of_active hactive')
    rw [heq] at hclient'
    exact ⟨hclient'.symm.trans hclient, heq⟩
  by_cases hactive : ∃ c s, w.activeLease c = some s
  · obtain ⟨c, s, hlease⟩ := hactive
    exact ⟨c, s, fun k hrunning => hone hlease (hs.saves k hrunning),
      fun k hrunning => hone hlease (hs.appends k hrunning)⟩
  · refine ⟨0, 0, ?_, ?_⟩
    · intro k hrunning
      exact absurd ⟨_, _, hs.saves k hrunning⟩ hactive
    · intro k hrunning
      exact absurd ⟨_, _, hs.appends k hrunning⟩ hactive

/-! ## What is in the files -/

theorem saveUpdate_replaces {k : ℕ} {file : Option SnapshotEnvelope} {next : SnapshotEnvelope}
    (h : load.saveUpdate k file = some next) :
    next.Replaces (load.storeOf (load.saves k).client) (load.saves k).snapshot
      (load.saves k).expectedBaseSnapshotId file := by
  unfold saveUpdate at h
  refine FileIndexerStore.replaceSnapshot_replaces ?_
  rcases hreplaced : (load.storeOf (load.saves k).client).replaceSnapshot (load.saves k).snapshot
    (load.saves k).expectedBaseSnapshotId file with thrown | envelope
  · simp [hreplaced, Except.toOption] at h
  · simp only [hreplaced, Except.toOption, Option.some.injEq] at h
    rw [h]

omit [Sha256] in
theorem appendUpdate_extends {k : ℕ} {file : Option AlertEnvelope} {next : AlertEnvelope}
    (h : load.appendUpdate k file = some next) :
    next.Extends (load.storeOf (load.appends k).client) (load.appends k).alerts file := by
  unfold appendUpdate at h
  refine FileIndexerStore.replaceJournal_extends ?_
  rcases hreplaced : (load.storeOf (load.appends k).client).replaceJournal (load.appends k).alerts
    file with thrown | envelope
  · simp [hreplaced, Except.toOption] at h
  · simp only [hreplaced, Except.toOption, Option.some.injEq] at h
    rw [h]

/-- **A snapshot that was written** is followed only by snapshots that succeed it. -/
theorem FilesSound.snapshot_after (hs : load.FilesSound w) {k : ℕ} {envelope : SnapshotEnvelope}
    (hmem : (k, envelope) ∈ w.snapshotFile.written) :
    ∃ latest, w.snapshotFile.content = some latest ∧ envelope.Succeeds latest := by
  refine hs.snapshot.content_after (fun v => ⟨le_refl _, fun _ => rfl⟩) ?_ ?_ hmem
  · intro u v w huv hvw
    exact huv.trans hvw
  · intro i seen next hupdate
    exact ((saveUpdate_replaces hupdate).succeeds seen rfl).2

/-- **A journal that was written** is at the start of every later one. -/
theorem FilesSound.journal_after (hs : load.FilesSound w) {k : ℕ} {envelope : AlertEnvelope}
    (hmem : (k, envelope) ∈ w.alertsFile.written) :
    ∃ latest, w.alertsFile.content = some latest ∧ envelope.alerts <+: latest.alerts := by
  refine hs.alerts.content_after (r := fun earlier later => earlier.alerts <+: later.alerts)
    (fun v => List.prefix_refl _) ?_ ?_ hmem
  · intro u v w huv hvw
    exact huv.trans hvw
  · intro i seen next hupdate
    exact (appendUpdate_extends hupdate).kept

end

/-- What becomes, by `later`, of what there was and what was acknowledged in
`earlier`. -/
structure Durable (load : Workload) (earlier later : StoreWorld) : Prop where
  /-- The persisted cursor never decreases, and one cursor has one state. -/
  snapshot : ∀ envelope, earlier.snapshotFile.content = some envelope →
    ∃ latest, later.snapshotFile.content = some latest ∧ envelope.Succeeds latest
  /-- A snapshot that was acknowledged was put in place, and is succeeded by the
  persisted one. -/
  saved : ∀ k envelope, earlier.snapshotFile.stage k = .acknowledged envelope →
    envelope.snapshot = encodeSnapshot (load.saves k).snapshot
      ∧ (k, envelope) ∈ later.snapshotFile.written
      ∧ ∃ latest, later.snapshotFile.content = some latest ∧ envelope.Succeeds latest
  /-- The journal only grows, at its end. -/
  journal : journalRecords earlier.alertsFile.content <+: journalRecords later.alertsFile.content
  /-- Every alert of an acknowledged batch is there. -/
  journaled : ∀ k envelope, earlier.alertsFile.stage k = .acknowledged envelope →
    ∀ alert ∈ (load.appends k).alerts, ∃ entry ∈ journalRecords later.alertsFile.content,
      equivalentCriticalAlert entry alert = true
  /-- What is read back is what the last save wrote. -/
  snapshotReads : ∀ envelope, later.snapshotFile.content = some envelope →
    ∃ k, later.snapshotFile.LastWritten k envelope
      ∧ ∀ store : FileIndexerStore, store.manifestSha256 = envelope.manifestSha256 →
        ∃ snapshot, store.loadLatestSnapshot later.snapshotFile.content = .ok (some snapshot)
          ∧ encodeSnapshot snapshot = encodeSnapshot (load.saves k).snapshot
  /-- What is read back is what the last append wrote. -/
  alertsRead : ∀ envelope, later.alertsFile.content = some envelope →
    ∃ k, later.alertsFile.LastWritten k envelope
      ∧ ∀ store : FileIndexerStore, store.manifestSha256 = envelope.manifestSha256 →
        store.listAlerts later.alertsFile.content
          = .ok (journalRecords later.alertsFile.content)

section

variable {load} {earlier later : StoreWorld}

/-- **The store is durable.** However the calls of any number of processes
interleave, and wherever they are killed, the persisted cursor never decreases
and one cursor keeps one state, whatever was acknowledged is kept, and both
files can be read back. -/
theorem store_durable (hreached : load.Reachable earlier) (hrun : load.Runs earlier later) :
    load.Durable earlier later := by
  have hs := hreached.filesSound
  have hs' := hrun.filesSound hs
  -- Both files keep a list of what was ever renamed into them, which only grows.
  obtain ⟨hsnapshots, hjournals⟩ := hrun.written_prefix
  refine ⟨?_, ?_, ?_, ?_, ?_, ?_⟩
  · intro envelope hcontent
    obtain ⟨k, hlast⟩ := hs.snapshot.content_eq_some hcontent
    exact hs'.snapshot_after (hsnapshots.subset (List.mem_of_getLast? hlast))
  · intro k envelope hstage
    have hmem := hs.snapshot.promises k
    rw [hstage] at hmem
    obtain ⟨before, hupdate⟩ := hs.snapshot.update_of_mem hmem
    exact ⟨(saveUpdate_replaces hupdate).snapshot, hsnapshots.subset hmem,
      hs'.snapshot_after (hsnapshots.subset hmem)⟩
  · rcases hcontent : earlier.alertsFile.content with _ | envelope
    · exact List.nil_prefix
    · obtain ⟨k, hlast⟩ := hs.alerts.content_eq_some hcontent
      obtain ⟨latest, hlatest, hprefix⟩ :=
        hs'.journal_after (hjournals.subset (List.mem_of_getLast? hlast))
      rw [hlatest]
      exact hprefix
  · intro k envelope hstage alert halert
    have hmem := hs.alerts.promises k
    rw [hstage] at hmem
    obtain ⟨before, hupdate⟩ := hs.alerts.update_of_mem hmem
    obtain ⟨entry, hentry, hequivalent⟩ := (appendUpdate_extends hupdate).journaled alert halert
    obtain ⟨latest, hlatest, hprefix⟩ := hs'.journal_after (hjournals.subset hmem)
    refine ⟨entry, ?_, hequivalent⟩
    rw [hlatest]
    exact hprefix.subset hentry
  · intro envelope hcontent
    obtain ⟨k, hlast, before, hupdate⟩ :=
      hs'.snapshot.lastWritten hs'.snapshotAuthored hcontent
    have hreplaces := saveUpdate_replaces hupdate
    refine ⟨k, hlast, ?_⟩
    rw [hcontent, ← hreplaces.snapshot]
    exact hreplaces.reads
  · intro envelope hcontent
    obtain ⟨k, hlast, before, hupdate⟩ :=
      hs'.alerts.lastWritten hs'.alertsAuthored hcontent
    have hextends := appendUpdate_extends hupdate
    refine ⟨k, hlast, ?_⟩
    intro store hmanifest
    rw [hcontent]
    exact FileIndexerStore.listAlerts_eq_ok hextends.sound hmanifest.symm

/-! ## Calls that nothing disturbs -/

/-- The acts of a save in a world where its lease is active. -/
theorem Runs.save {k : ℕ} {w : StoreWorld} {acts : List (LockedFile.Act ℕ)}
    {file : LockedFile ℕ SnapshotEnvelope}
    (hlease : w.activeLease (load.saves k).client = some (load.saves k).lease)
    (hadmitted : load.SaveAdmitted k) (hactors : ∀ act ∈ acts, act.actor = some k)
    (hsteps : w.snapshotFile.Steps load.saveUpdate acts file) :
    load.Runs w { w with snapshotFile := file } := by
  suffices hrun : ∀ (acts : List (LockedFile.Act ℕ)) (before : LockedFile ℕ SnapshotEnvelope),
      before.Steps load.saveUpdate acts file → (∀ act ∈ acts, act.actor = some k) →
        load.Runs { w with snapshotFile := before } { w with snapshotFile := file } from
    hrun acts w.snapshotFile hsteps hactors
  clear hsteps hactors
  intro acts before hsteps
  induction hsteps with
  | nil =>
      intro _
      exact .refl
  | cons hstep _ ih =>
      intro hactors
      rw [List.forall_mem_cons] at hactors
      exact .head (.save hactors.1 (fun _ => hlease) (fun _ => hadmitted) hstep) (ih hactors.2)

/-- A save whose snapshot is written was admitted. -/
theorem saveAdmitted_of_update {k : ℕ} {file : Option SnapshotEnvelope} {next : SnapshotEnvelope}
    (h : load.saveUpdate k file = some next) : load.SaveAdmitted k := by
  unfold saveUpdate FileIndexerStore.replaceSnapshot at h
  unfold SaveAdmitted
  rcases hprepared : (load.storeOf (load.saves k).client).prepareSnapshot (load.saves k).snapshot
    (load.saves k).expectedBaseSnapshotId with thrown | prepared
  · simp only [hprepared] at h
    exact absurd h (by simp [bind, Except.bind, Except.toOption])
  · exact ⟨prepared, hprepared⟩

/-- **A save that nothing disturbs** puts its snapshot in place. -/
theorem Runs.save_replaced {k : ℕ} {w : StoreWorld} {next : SnapshotEnvelope}
    (hlease : w.activeLease (load.saves k).client = some (load.saves k).lease)
    (hstage : w.snapshotFile.stage k = .uncalled) (hfree : w.snapshotFile.lock = none)
    (hnext : load.saveUpdate k w.snapshotFile.content = some next) :
    load.Runs w { w with snapshotFile := w.snapshotFile.replaced k next } :=
  Runs.save hlease (saveAdmitted_of_update hnext)
    (by simp [LockedFile.Act.replacing, LockedFile.Act.actor])
    (LockedFile.steps_replacing hstage hfree hnext)

/-- And it is acknowledged. -/
theorem Runs.save_settled {k : ℕ} {w : StoreWorld} {next : SnapshotEnvelope}
    (hlease : w.activeLease (load.saves k).client = some (load.saves k).lease)
    (hstage : w.snapshotFile.stage k = .uncalled) (hfree : w.snapshotFile.lock = none)
    (hnext : load.saveUpdate k w.snapshotFile.content = some next) :
    load.Runs w { w with snapshotFile := w.snapshotFile.settled k next } :=
  .tail (Runs.save_replaced hlease hstage hfree hnext)
    (.save rfl (fun h => absurd h (by simp [asserts])) (fun h => absurd h (by simp))
      (LockedFile.step_settled _ k next))

/-- A section of a live client that finds the writer lock free. -/
theorem Runs.active {w : StoreWorld} {s : ℕ} (hstage : w.sections s = .uncalled)
    (halive : w.killed (load.processOf (load.sections s)) = false) (hfree : w.writerLock = none) :
    load.Runs w (({ w.enter s .locked with writerLock := some s } : StoreWorld).enter s .active
      |>.lease (load.sections s) (some s)) :=
  .tail (.single (.lock hstage halive hfree)) (.activate (Function.update_self _ _ _))

end

end Workload

/-! ## One version, two states -/

namespace Sample

/-- 64 digits, the last of which tells two cursors apart. -/
def digest (cursor : Option EventCursor) : String :=
  String.ofList (List.replicate 63 '0' ++ [if cursor = some ⟨5, 0⟩ then '0' else '1'])

@[reducible] def cursorSha256 : Sha256 := ⟨fun snapshot => digest snapshot.cursor⟩

@[reducible] def cursorTexts : StoreTexts :=
  ⟨fun state => digest state.cursor, fun _ => digest none, fun _ => 4_000, fun _ => 1_000⟩

theorem digest_wellFormed : isHexDigest (digest none).toList = true := by decide +kernel

def store : FileIndexerStore := ⟨digest none, digest_wellFormed⟩

/-- A snapshot of version 5. -/
def snapshotAt (eventIndex currentIndex : ℤ) : IndexerSnapshot :=
  let projection := { createEmptyProjection with currentIndex }
  ⟨1, @snapshotId cursorSha256
    ⟨1, "pending", 1_000, some ⟨5, eventIndex⟩, serialiseProjection projection⟩, 1_000,
    some ⟨5, eventIndex⟩, projection⟩

def early : IndexerSnapshot := snapshotAt 0 0

def late : IndexerSnapshot := snapshotAt 1 1

def envelopeOf (snapshot : IndexerSnapshot) : SnapshotEnvelope :=
  ⟨1, store.manifestSha256, digest snapshot.cursor, encodeSnapshot snapshot⟩

/-- One client, one section, and one save after the other. -/
def workload : Workload :=
  { clients := fun client => ⟨client, store⟩
    sections := fun _ => 0
    saves := fun k => if k = 0 then ⟨0, 0, early, none⟩ else ⟨0, 0, late, some early.id⟩
    appends := fun _ => ⟨0, 0, []⟩ }

/-- The first save has returned. -/
def savedWorld : StoreWorld :=
  { (({ StoreWorld.fresh.enter 0 .locked with writerLock := some 0 } : StoreWorld).enter 0
      .active).lease 0 (some 0) with
    snapshotFile := LockedFile.fresh.settled 0 (envelopeOf early) }

/-- The second save has renamed its file, and its process was killed. -/
def killedWorld : StoreWorld :=
  { killed := Function.update savedWorld.killed 0 true
    writerLock := savedWorld.writerLock
    sections := fun s =>
      if workload.processOf (workload.sections s) = 0 ∧ (savedWorld.sections s).live = true
      then .dead else savedWorld.sections s
    activeLease := fun c => if workload.processOf c = 0 then none else savedWorld.activeLease c
    snapshotFile := (savedWorld.snapshotFile.replaced 1 (envelopeOf late)).kill fun k =>
      workload.processOf (workload.saves k).client = 0
    alertsFile := savedWorld.alertsFile.kill fun k =>
      workload.processOf (workload.appends k).client = 0 }

theorem savedWorld_reachable :
    @Workload.Reachable cursorSha256 cursorTexts workload savedWorld := by
  let _ := cursorSha256
  let _ := cursorTexts
  have hupdate : workload.saveUpdate 0 none = some (envelopeOf early) := by decide +kernel
  exact Relation.ReflTransGen.trans (@Workload.Runs.active _ _ workload _ 0 rfl rfl rfl)
    (Workload.Runs.save_settled (k := 0) rfl rfl rfl hupdate)

theorem savedWorld_runs :
    @Workload.Runs cursorSha256 cursorTexts workload savedWorld killedWorld := by
  let _ := cursorSha256
  let _ := cursorTexts
  have hupdate : workload.saveUpdate 1 (some (envelopeOf early)) = some (envelopeOf late) := by
    decide +kernel
  exact .tail (Workload.Runs.save_replaced (k := 1) (w := savedWorld) rfl rfl rfl hupdate) (.kill 0)

end Sample

/-- One ledger version, two contents, and the second of them never acknowledged:
a later event of the version makes a later cursor, and a process may be killed
between the rename and the return. -/
theorem store_changed_at_version :
    ∃ earlier later,
      @Workload.Reachable Sample.cursorSha256 Sample.cursorTexts Sample.workload earlier
      ∧ @Workload.Runs Sample.cursorSha256 Sample.cursorTexts Sample.workload earlier later
      ∧ ∃ envelope latest, earlier.snapshotFile.content = some envelope
        ∧ earlier.snapshotFile.stage 0 = .acknowledged envelope
        ∧ later.snapshotFile.content = some latest
        ∧ latest.snapshot.cursor.map EventCursor.ledgerVersion
          = envelope.snapshot.cursor.map EventCursor.ledgerVersion
        ∧ latest.snapshot.projection ≠ envelope.snapshot.projection
        ∧ ∀ k, later.snapshotFile.stage k ≠ .acknowledged latest := by
  refine ⟨Sample.savedWorld, Sample.killedWorld, Sample.savedWorld_reachable,
    Sample.savedWorld_runs, Sample.envelopeOf Sample.early, Sample.envelopeOf Sample.late, rfl, rfl,
    rfl, rfl, ?_, ?_⟩
  · decide +kernel
  · intro k hstage
    have hkilled : (Function.update (Function.update (fun _ => WriterStage.uncalled) 0
        (WriterStage.acknowledged (Sample.envelopeOf Sample.early))) 1
        (WriterStage.renamed (Sample.envelopeOf Sample.late)) k).killed
        = WriterStage.acknowledged (Sample.envelopeOf Sample.late) := by
      have hgone : decide (Sample.workload.processOf (Sample.workload.saves k).client = 0)
          = true := by
        by_cases hk : k = 0 <;> simp [Sample.workload, Workload.processOf, hk]
      rw [← hstage]
      exact (if_pos hgone).symm
    -- The one that wrote the second content was killed, and the other wrote the first.
    by_cases hsecond : k = 1
    · rw [hsecond, Function.update_self] at hkilled
      exact absurd hkilled (by simp [WriterStage.killed, WriterStage.running, WriterStage.holding])
    · rw [Function.update_of_ne hsecond] at hkilled
      by_cases hfirst : k = 0
      · rw [hfirst, Function.update_self] at hkilled
        have hsame : Sample.envelopeOf Sample.early = Sample.envelopeOf Sample.late := by
          simpa [WriterStage.killed, WriterStage.running, WriterStage.holding] using hkilled
        exact absurd hsame (by decide +kernel)
      · rw [Function.update_of_ne hfirst] at hkilled
        exact absurd hkilled (by simp [WriterStage.killed, WriterStage.running])

theorem store_durable_killed :
    @Workload.Durable Sample.cursorSha256 Sample.cursorTexts Sample.workload Sample.savedWorld
      Sample.killedWorld :=
  @Workload.store_durable Sample.cursorSha256 Sample.cursorTexts Sample.workload _ _
    Sample.savedWorld_reachable Sample.savedWorld_runs

end CedraReflect.indexer
