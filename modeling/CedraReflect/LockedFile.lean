/-
A file that many writers replace, one at a time, under a lock file.

A writer creates the lock file, reads the content, works out the replacement,
writes it to a temporary file of its own and renames that over the content.
Creating the lock file and renaming are atomic; between any two operations a
writer may give up or die, and a lock file it leaves behind is removed only once
it no longer runs. The replacement is an `update` of what was read, and the
invariant ([`LockedFile.Sound`]) says that nobody reads what is not there any
more: the contents the file ever had are a chain of updates.
-/
import Mathlib.Data.List.Basic
import Mathlib.Logic.Function.Basic
import Mathlib.Logic.Relation

set_option autoImplicit false

namespace CedraReflect

/-! ## Writers -/

/-- How far a writer of a file with contents `V` has come. -/
inductive WriterStage (V : Type) where
  | uncalled
  | called
  | locked
  | read (seen : Option V)
  | staged (next : V)
  | renamed (next : V)
  | acknowledged (next : V)
  | failed
  | dead

namespace WriterStage

variable {V : Type}

/-- The writer's lock file is there. -/
def holding : WriterStage V → Bool
  | locked | read _ | staged _ | renamed _ => true
  | uncalled | called | acknowledged _ | failed | dead => false

def running : WriterStage V → Bool
  | called => true
  | uncalled => false
  | stage => stage.holding

theorem running_of_holding {stage : WriterStage V} (h : stage.holding = true) :
    stage.running = true := by
  cases stage with
  | locked | read seen | staged next | renamed next => rfl
  | uncalled | called | acknowledged next | failed | dead => exact absurd h (by simp [holding])

/-- A writer may throw until the rename, and not after it. -/
def mayFail : WriterStage V → Bool
  | called | locked | read _ | staged _ => true
  | uncalled | renamed _ | acknowledged _ | failed | dead => false

/-- A writer at this stage when its process is killed. -/
def killed (stage : WriterStage V) : WriterStage V := if stage.running = true then dead else stage

end WriterStage

/-- A file, its lock file with the writer that created it, and the writers. All
replacements that were ever renamed into place are remembered, in order. -/
structure LockedFile (ι V : Type) where
  content : Option V
  lock : Option ι
  stage : ι → WriterStage V
  written : List (ι × V)

namespace LockedFile

variable {ι V : Type}

/-- No file, no lock file, and nobody has called. -/
def fresh : LockedFile ι V := ⟨none, none, fun _ => .uncalled, []⟩

inductive Act (ι : Type) where
  | call (i : ι)
  | acquire (i : ι)
  | read (i : ι)
  | stage (i : ι)
  | rename (i : ι)
  | acknowledge (i : ι)
  | fail (i : ι)
  | kill (gone : ι → Bool)
  /-- A stale lock file is removed. -/
  | clear

/-- The writer that acts. -/
def Act.actor : Act ι → Option ι
  | call i | acquire i | read i | stage i | rename i | acknowledge i | fail i => some i
  | kill _ | clear => none

/-- The writer `i` goes on to a stage. -/
def enter [DecidableEq ι] (file : LockedFile ι V) (i : ι) (stage : WriterStage V) :
    LockedFile ι V :=
  { file with stage := Function.update file.stage i stage }

/-- The writers of a process are killed. -/
def kill (file : LockedFile ι V) (gone : ι → Bool) : LockedFile ι V :=
  { file with stage := fun i => if gone i = true then (file.stage i).killed else file.stage i }

/-- A lock file that is removed, or left behind where removing it fails. -/
def Released (file : LockedFile ι V) (i : ι) (lock : Option ι) : Prop :=
  lock = file.lock ∨ (file.lock = some i ∧ lock = none)

/-- What can happen to the file. The replacement that `i` makes of what it read
is its `update`, `none` where it throws. -/
inductive Step [DecidableEq ι] (update : ι → Option V → Option V) :
    LockedFile ι V → Act ι → LockedFile ι V → Prop where
  | call {file : LockedFile ι V} {i : ι} (hstage : file.stage i = .uncalled) :
      Step update file (.call i) (file.enter i .called)
  -- `open(.., O_CREAT | O_EXCL)` fails where the lock file exists.
  | acquire {file : LockedFile ι V} {i : ι} (hstage : file.stage i = .called)
      (hfree : file.lock = none) :
      Step update file (.acquire i) { file.enter i .locked with lock := some i }
  | read {file : LockedFile ι V} {i : ι} (hstage : file.stage i = .locked) :
      Step update file (.read i) (file.enter i (.read file.content))
  | stage {file : LockedFile ι V} {i : ι} {seen : Option V} {next : V}
      (hstage : file.stage i = .read seen) (hnext : update i seen = some next) :
      Step update file (.stage i) (file.enter i (.staged next))
  | rename {file : LockedFile ι V} {i : ι} {next : V} (hstage : file.stage i = .staged next) :
      Step update file (.rename i) { file.enter i (.renamed next) with
        content := some next
        written := file.written ++ [(i, next)] }
  | acknowledge {file : LockedFile ι V} {i : ι} {next : V} {lock : Option ι}
      (hstage : file.stage i = .renamed next) (hlock : file.Released i lock) :
      Step update file (.acknowledge i) { file.enter i (.acknowledged next) with lock }
  | fail {file : LockedFile ι V} {i : ι} {lock : Option ι}
      (hstage : (file.stage i).mayFail = true) (hlock : file.Released i lock) :
      Step update file (.fail i) { file.enter i .failed with lock }
  | kill {file : LockedFile ι V} {gone : ι → Bool} :
      Step update file (.kill gone) (file.kill gone)
  | clear {file : LockedFile ι V} {i : ι} (hlock : file.lock = some i)
      (hover : (file.stage i).running = false) :
      Step update file .clear { file with lock := none }

theorem running_of_kill {file : LockedFile ι V} {gone : ι → Bool} {j : ι}
    (h : ((file.kill gone).stage j).running = true) :
    (file.stage j).running = true ∧ gone j = false := by
  have hstage : (file.kill gone).stage j
      = if gone j = true then (file.stage j).killed else file.stage j := rfl
  rw [hstage] at h
  by_cases hgone : gone j = true
  · rw [if_pos hgone] at h
    unfold WriterStage.killed at h
    by_cases hrunning : (file.stage j).running = true
    · rw [if_pos hrunning] at h
      exact absurd h (by simp [WriterStage.running, WriterStage.holding])
    · rw [if_neg hrunning] at h
      exact absurd h hrunning
  · rw [if_neg hgone] at h
    exact ⟨h, by simpa using hgone⟩

/-- Steps by a list of acts. -/
inductive Steps [DecidableEq ι] (update : ι → Option V → Option V) :
    LockedFile ι V → List (Act ι) → LockedFile ι V → Prop where
  | nil {file : LockedFile ι V} : Steps update file [] file
  | cons {file file' file'' : LockedFile ι V} {act : Act ι} {acts : List (Act ι)}
      (hstep : Step update file act file') (hsteps : Steps update file' acts file'') :
      Steps update file (act :: acts) file''

/-- What a writer does up to the rename. -/
def Act.replacing (i : ι) : List (Act ι) := [.call i, .acquire i, .read i, .stage i, .rename i]

/-- The file once `i` has put `next` in place. -/
def replaced [DecidableEq ι] (file : LockedFile ι V) (i : ι) (next : V) : LockedFile ι V :=
  ⟨some next, some i, Function.update file.stage i (.renamed next), file.written ++ [(i, next)]⟩

/-- The file once `i` has returned as well. -/
def settled [DecidableEq ι] (file : LockedFile ι V) (i : ι) (next : V) : LockedFile ι V :=
  ⟨some next, none, Function.update file.stage i (.acknowledged next), file.written ++ [(i, next)]⟩

/-- **A writer that nothing disturbs gets through.** -/
theorem steps_replacing [DecidableEq ι] {update : ι → Option V → Option V} {file : LockedFile ι V}
    {i : ι} {next : V} (hstage : file.stage i = .uncalled) (hfree : file.lock = none)
    (hnext : update i file.content = some next) :
    Steps update file (Act.replacing i) (file.replaced i next) := by
  have hself : ∀ stage : WriterStage V, (file.enter i stage).stage i = stage := by
    intro stage
    exact Function.update_self i stage file.stage
  have henter : ∀ (f : LockedFile ι V) (stage stage' : WriterStage V),
      (f.enter i stage).enter i stage' = f.enter i stage' := by
    intro f stage stage'
    unfold enter
    rw [Function.update_idem]
  refine .cons (.call hstage) ?_
  refine .cons (.acquire (hself .called) hfree) ?_
  rw [henter]
  refine .cons (.read (hself .locked)) ?_
  refine .cons (@Step.stage _ _ _ _ _ _ file.content next (Function.update_self _ _ _) hnext) ?_
  refine .cons (@Step.rename _ _ _ _ _ _ next (Function.update_self _ _ _)) ?_
  have hend : ({ (((({ file.enter i .locked with lock := some i } : LockedFile ι V).enter i
        (.read file.content)).enter i (.staged next)).enter i (.renamed next)) with
        content := some next
        written := file.written ++ [(i, next)] } : LockedFile ι V) = file.replaced i next := by
    unfold enter replaced
    simp only [Function.update_idem]
  rw [← hend]
  exact .nil

theorem step_settled [DecidableEq ι] {update : ι → Option V → Option V} (file : LockedFile ι V)
    (i : ι) (next : V) :
    Step update (file.replaced i next) (.acknowledge i) (file.settled i next) := by
  have hend : ({ (file.replaced i next).enter i (.acknowledged next) with lock := none } :
      LockedFile ι V) = file.settled i next := by
    unfold enter replaced settled
    rw [Function.update_idem]
  rw [← hend]
  exact .acknowledge (Function.update_self _ _ _) (.inr ⟨rfl, rfl⟩)

/-! ## The invariant -/

/-- What a writer at a stage may rely on. -/
def Promises (update : ι → Option V → Option V) (file : LockedFile ι V) (i : ι) :
    WriterStage V → Prop
  | .locked => file.lock = some i
  | .read seen => file.lock = some i ∧ seen = file.content
  | .staged next => file.lock = some i ∧ update i file.content = some next
  | .renamed next => file.lock = some i ∧ (i, next) ∈ file.written
  | .acknowledged next => (i, next) ∈ file.written
  | .uncalled | .called | .failed | .dead => True

/-- Each replacement is an update of the content before it. -/
def Chained (update : ι → Option V → Option V) : Option V → List (ι × V) → Prop
  | _, [] => True
  | before, (i, next) :: later => update i before = some next ∧ Chained update (some next) later

structure Sound (update : ι → Option V → Option V) (file : LockedFile ι V) : Prop where
  promises : ∀ i, file.Promises update i (file.stage i)
  content : file.content = file.written.getLast?.map Prod.snd
  chained : Chained update none file.written

section

variable {update : ι → Option V → Option V} {file file' : LockedFile ι V} {i : ι}

theorem sound_fresh : (fresh : LockedFile ι V).Sound update where
  promises _ := trivial
  content := rfl
  chained := trivial

/-- Whoever holds the lock file created the one that is there. -/
theorem Promises.lock_eq {stage : WriterStage V} (h : file.Promises update i stage)
    (hholding : stage.holding = true) : file.lock = some i := by
  cases stage with
  | locked => exact h
  | read seen => exact h.1
  | staged next => exact h.1
  | renamed next => exact h.1
  | uncalled | called | acknowledged next | failed | dead =>
      exact absurd hholding (by simp [WriterStage.holding])

/-- **Mutual exclusion.** At most one writer is between creating the lock file
and removing it. -/
theorem Sound.exclusive (hs : file.Sound update) {j : ι} (hi : (file.stage i).holding = true)
    (hj : (file.stage j).holding = true) : i = j := by
  have hlocki := (hs.promises i).lock_eq hi
  have hlockj := (hs.promises j).lock_eq hj
  rw [hlocki] at hlockj
  exact Option.some.inj hlockj

/-- A writer without the lock relies on nothing but what was written. -/
theorem Promises.of_idle {stage : WriterStage V} (h : file.Promises update i stage)
    (hidle : stage.holding = false) (hwritten : file.written ⊆ file'.written) :
    file'.Promises update i stage := by
  cases stage with
  | locked | read seen | staged next | renamed next =>
      exact absurd hidle (by simp [WriterStage.holding])
  | acknowledged next => exact hwritten h
  | uncalled | called | failed | dead => trivial

/-- Nothing that a writer relies on has changed. -/
theorem Promises.of_eq {stage : WriterStage V} (h : file.Promises update i stage)
    (hlock : file'.lock = file.lock) (hcontent : file'.content = file.content)
    (hwritten : file'.written = file.written) : file'.Promises update i stage := by
  cases stage <;> simp only [Promises, hlock, hcontent, hwritten] at h ⊢ <;> exact h

theorem Chained.append {before : Option V} {written : List (ι × V)} {i : ι} {next : V}
    (h : Chained update before written)
    (hnext : update i ((written.getLast?.map Prod.snd).or before) = some next) :
    Chained update before (written ++ [(i, next)]) := by
  induction written generalizing before with
  | nil => exact ⟨hnext, trivial⟩
  | cons entry later ih =>
      refine ⟨h.1, ih h.2 ?_⟩
      rw [← hnext]
      -- The last of a list with an entry in front is the last of it, or the entry.
      rcases later with _ | ⟨entry', later⟩
      · rfl
      · rw [List.getLast?_cons_cons]
        rcases hlast : (entry' :: later).getLast? with _ | last
        · simp at hlast
        · rfl

section Steps

variable [DecidableEq ι]

/-- The writers other than `i` after a step of `i`, which holds the lock or finds
it free. -/
theorem Sound.others (hs : file.Sound update) (stage : WriterStage V)
    (hi : file'.Promises update i stage) (hlock : file.lock = none ∨ file.lock = some i)
    (hstage : file'.stage = Function.update file.stage i stage)
    (hwritten : file.written ⊆ file'.written) (j : ι) :
    file'.Promises update j (file'.stage j) := by
  rw [hstage]
  by_cases hj : j = i
  · subst hj
    rw [Function.update_self]
    exact hi
  · rw [Function.update_of_ne hj]
    refine (hs.promises j).of_idle ?_ hwritten
    rw [Bool.eq_false_iff]
    intro hholding
    have hlockj := (hs.promises j).lock_eq hholding
    rcases hlock with hnone | hsome
    · rw [hnone] at hlockj
      exact absurd hlockj (by simp)
    · rw [hsome] at hlockj
      exact hj (Option.some.inj hlockj).symm

/-- The writers after a step of `i` that touches only its own stage. -/
theorem Sound.enter (hs : file.Sound update) {stage : WriterStage V}
    (hi : file.Promises update i stage) : (file.enter i stage).Sound update where
  promises j := by
    show Promises update (file.enter i stage) j (Function.update file.stage i stage j)
    by_cases hj : j = i
    · subst hj
      rw [Function.update_self]
      exact hi.of_eq rfl rfl rfl
    · rw [Function.update_of_ne hj]
      exact (hs.promises j).of_eq rfl rfl rfl
  content := hs.content
  chained := hs.chained

/-- The end of a writer, which keeps its lock file or removes it. -/
theorem Sound.leave (hs : file.Sound update) (stage : WriterStage V) {lock : Option ι}
    (hi : file.Promises update i stage) (hidle : stage.holding = false)
    (hlock : file.Released i lock) : Sound update { file.enter i stage with lock } := by
  rcases hlock with rfl | ⟨hown, rfl⟩
  · exact hs.enter hi
  · exact ⟨hs.others stage (hi.of_idle hidle (List.Subset.refl _)) (.inr hown) rfl
      (List.Subset.refl _),      hs.content, hs.chained⟩

/-- **One step keeps the invariant.** -/
theorem Step.sound {act : Act ι} (h : Step update file act file') (hs : file.Sound update) :
    file'.Sound update := by
  cases h with
  | call hstage => exact hs.enter trivial
  | @acquire i hstage hfree =>
      exact ⟨hs.others .locked rfl (.inl hfree) rfl (List.Subset.refl _), hs.content,
        hs.chained⟩
  | @read i hstage =>
      have hi := hs.promises i
      rw [hstage] at hi
      exact hs.enter ⟨hi, rfl⟩
  | @stage i seen next hstage hnext =>
      have hi := hs.promises i
      rw [hstage] at hi
      -- Nothing was renamed since the read, for the lock was held.
      rw [hi.2] at hnext
      exact hs.enter ⟨hi.1, hnext⟩
  | @rename i next hstage =>
      have hi := hs.promises i
      rw [hstage] at hi
      refine ⟨hs.others (.renamed next) ⟨hi.1, ?_⟩ (.inr hi.1) rfl ?_, ?_, ?_⟩
      · exact List.mem_append_right _ (List.mem_singleton_self _)
      · exact List.subset_append_left _ _
      · show some next = ((file.written ++ [(i, next)]).getLast?).map Prod.snd
        rw [List.getLast?_concat]
        rfl
      · refine hs.chained.append ?_
        rw [← hs.content, Option.or_none]
        exact hi.2
  | @acknowledge i next lock hstage hlock =>
      have hi := hs.promises i
      rw [hstage] at hi
      exact hs.leave (.acknowledged next) hi.2 rfl hlock
  | fail hstage hlock => exact hs.leave .failed trivial rfl hlock
  | @kill gone =>
      refine ⟨fun j => ?_, hs.content, hs.chained⟩
      have hj := hs.promises j
      show Promises update _ j (if gone j = true then (file.stage j).killed else file.stage j)
      by_cases hgone : gone j = true
      · rw [if_pos hgone]
        unfold WriterStage.killed
        by_cases hrunning : (file.stage j).running = true
        · rw [if_pos hrunning]
          trivial
        · rw [if_neg hrunning]
          exact hj.of_eq rfl rfl rfl
      · rw [if_neg hgone]
        exact hj.of_eq rfl rfl rfl
  | @clear i hlock hover =>
      refine ⟨fun j => (hs.promises j).of_idle ?_ (List.Subset.refl _), hs.content, hs.chained⟩
      rw [Bool.eq_false_iff]
      intro hholding
      -- The holder is the one whose lock file is removed, and that one is over.
      have hj := (hs.promises j).lock_eq hholding
      rw [hlock] at hj
      obtain rfl := Option.some.inj hj
      rw [WriterStage.running_of_holding hholding] at hover
      exact absurd hover (by decide)

/-- What was written stays written. -/
theorem Step.written_prefix {act : Act ι} (h : Step update file act file') :
    file.written <+: file'.written := by
  cases h with
  | rename hstage => exact List.prefix_append _ _
  | call | acquire | read | stage | acknowledge | fail | kill | clear => exact List.prefix_refl _

end Steps

/-! ## Who runs -/

section

variable [DecidableEq ι]

/-- Only a call makes a writer run. -/
theorem Step.running_of {act : Act ι} (h : Step update file act file') {j : ι}
    (hrunning : (file'.stage j).running = true) :
    (file.stage j).running = true ∨ act = .call j := by
  have henter : ∀ {i : ι} {stage : WriterStage V}, (file.stage i).running = true →
      (Function.update file.stage i stage j).running = true → (file.stage j).running = true := by
    intro i stage hi hupdated
    by_cases hj : j = i
    · rw [hj]
      exact hi
    · rwa [Function.update_of_ne hj] at hupdated
  -- Every step but a call is one of a writer that runs already, or of none.
  cases h with
  | @call i hstage =>
      by_cases hj : j = i
      · exact .inr (by rw [hj])
      · refine .inl ?_
        rwa [show (file.enter i .called).stage j = file.stage j from Function.update_of_ne hj _ _]
          at hrunning
  | acquire hstage hfree => exact .inl (henter (by rw [hstage]; rfl) hrunning)
  | read hstage => exact .inl (henter (by rw [hstage]; rfl) hrunning)
  | stage hstage hnext => exact .inl (henter (by rw [hstage]; rfl) hrunning)
  | rename hstage => exact .inl (henter (by rw [hstage]; rfl) hrunning)
  | acknowledge hstage hlock => exact .inl (henter (by rw [hstage]; rfl) hrunning)
  | @fail i lock hstage hlock =>
      refine .inl (henter (i := i) ?_ hrunning)
      cases hi : file.stage i with
      | called | locked | read seen | staged next => rfl
      | uncalled | renamed next | acknowledged next | failed | dead =>
          rw [hi] at hstage
          exact absurd hstage (by simp [WriterStage.mayFail])
  | @kill gone =>
      refine .inl (running_of_kill hrunning).1
  | clear hlock hover => exact .inl hrunning

end

/-! ## Who wrote what -/

/-- Whoever wrote something is about to return, has returned or was killed. -/
def Authored (file : LockedFile ι V) : Prop :=
  ∀ entry ∈ file.written, file.stage entry.1 = .renamed entry.2
    ∨ file.stage entry.1 = .acknowledged entry.2 ∨ file.stage entry.1 = .dead

theorem authored_fresh : (fresh : LockedFile ι V).Authored :=
  fun _ hentry => absurd hentry List.not_mem_nil

section

variable [DecidableEq ι]

/-- A writer that has written nothing goes on. -/
theorem Authored.enter (h : file.Authored) (stage : WriterStage V)
    (hbefore : (file.stage i).mayFail = true ∨ file.stage i = .uncalled) :
    (file.enter i stage).Authored := by
  intro entry hentry
  have hold := h entry hentry
  have hne : entry.1 ≠ i := by
    intro heq
    rw [heq] at hold
    rcases hold with hold | hold | hold <;> rw [hold] at hbefore <;>
      simp [WriterStage.mayFail] at hbefore
  show Function.update file.stage i stage entry.1 = _
    ∨ Function.update file.stage i stage entry.1 = _
    ∨ Function.update file.stage i stage entry.1 = _
  rw [Function.update_of_ne hne]
  exact hold

theorem Step.authored {act : Act ι} (h : Step update file act file') (hs : file.Authored) :
    file'.Authored := by
  cases h with
  | call hstage => exact hs.enter _ (.inr hstage)
  | acquire hstage hfree => exact hs.enter _ (.inl (by rw [hstage]; rfl))
  | read hstage => exact hs.enter _ (.inl (by rw [hstage]; rfl))
  | stage hstage hnext => exact hs.enter _ (.inl (by rw [hstage]; rfl))
  | @rename i next hstage =>
      intro entry hentry
      rcases List.mem_append.mp hentry with hentry | hentry
      · exact hs.enter (i := i) (.renamed next) (.inl (by rw [hstage]; rfl)) entry hentry
      · rw [List.mem_singleton] at hentry
        subst hentry
        exact .inl (Function.update_self i _ _)
  | @acknowledge i next lock hstage hlock =>
      intro entry hentry
      have hold := hs entry hentry
      by_cases hi : entry.1 = i
      · -- What it has written is what it returns with.
        rw [hi, hstage] at hold
        have hnext : entry.2 = next := by simpa [eq_comm] using hold
        refine .inr (.inl ?_)
        show Function.update file.stage i (.acknowledged next) entry.1 = _
        rw [hi, hnext, Function.update_self]
      · show Function.update file.stage i _ entry.1 = _ ∨ Function.update file.stage i _ entry.1 = _
          ∨ Function.update file.stage i _ entry.1 = _
        rw [Function.update_of_ne hi]
        exact hold
  | fail hstage hlock => exact hs.enter _ (.inl hstage)
  | @kill gone =>
      intro entry hentry
      have hold := hs entry hentry
      show (if gone entry.1 = true then (file.stage entry.1).killed else file.stage entry.1) = _
        ∨ (if gone entry.1 = true then (file.stage entry.1).killed else file.stage entry.1) = _
        ∨ (if gone entry.1 = true then (file.stage entry.1).killed else file.stage entry.1) = _
      by_cases hgone : gone entry.1 = true
      · rw [if_pos hgone]
        rcases hold with hold | hold | hold <;> rw [hold] <;>
          simp [WriterStage.killed, WriterStage.running, WriterStage.holding]
      · rw [if_neg hgone]
        exact hold
  | clear hlock hover => exact hs

end

/-! ## What all contents have in common -/

/-- Whatever was written is an update, by its writer, of some content. -/
theorem Sound.update_of_mem (hs : file.Sound update) {next : V}
    (hmem : (i, next) ∈ file.written) : ∃ before, update i before = some next := by
  have hchain : ∀ (written : List (ι × V)) (before : Option V), Chained update before written →
      (i, next) ∈ written → ∃ before, update i before = some next := by
    intro written
    induction written with
    | nil =>
        intro before _ hentry
        exact absurd hentry List.not_mem_nil
    | cons head later ih =>
        intro before hchained hentry
        rcases List.mem_cons.mp hentry with rfl | hlater
        · exact ⟨before, hchained.1⟩
        · exact ih (some head.2) hchained.2 hlater
  exact hchain file.written none hs.chained hmem

/-- **The contents of a file are ordered** by every transitive relation in which
an update comes after what it updates. -/
theorem Sound.pairwise_written (hs : file.Sound update) {r : V → V → Prop}
    (htrans : ∀ u v w, r u v → r v w → r u w)
    (hupdate : ∀ i seen next, update i (some seen) = some next → r seen next) :
    file.written.Pairwise fun earlier later => r earlier.2 later.2 := by
  have hchain : ∀ (written : List (ι × V)) (before : V), Chained update (some before) written →
      (∀ entry ∈ written, r before entry.2)
        ∧ written.Pairwise fun earlier later => r earlier.2 later.2 := by
    intro written
    -- The relation holds from what was there before the first of the writes.
    induction written with
    | nil =>
        intro before _
        exact ⟨fun entry hentry => absurd hentry List.not_mem_nil, List.Pairwise.nil⟩
    | cons head later ih =>
        intro before hchained
        have hhead := hupdate head.1 before head.2 hchained.1
        obtain ⟨hlater, hpairwise⟩ := ih head.2 hchained.2
        refine ⟨?_, List.Pairwise.cons hlater hpairwise⟩
        intro entry hentry
        rcases List.mem_cons.mp hentry with rfl | hmem
        · exact hhead
        · exact htrans _ _ _ hhead (hlater entry hmem)
  have hchained := hs.chained
  rcases hwritten : file.written with _ | ⟨head, later⟩
  · exact List.Pairwise.nil
  · rw [hwritten] at hchained
    obtain ⟨hlater, hpairwise⟩ := hchain later head.2 hchained.2
    exact List.Pairwise.cons hlater hpairwise

theorem Sound.content_eq_some (hs : file.Sound update) {v : V} (h : file.content = some v) :
    ∃ i, file.written.getLast? = some (i, v) := by
  rw [hs.content, Option.map_eq_some_iff] at h
  obtain ⟨⟨i, v'⟩, hlast, rfl⟩ := h
  exact ⟨i, hlast⟩

/-- The content is the last that was put in place, by a writer that has returned
unless it is about to or was killed. -/
def LastWritten (file : LockedFile ι V) (k : ι) (content : V) : Prop :=
  file.written.getLast? = some (k, content)
    ∧ (file.stage k = .renamed content ∨ file.stage k = .acknowledged content
      ∨ file.stage k = .dead)

theorem Sound.lastWritten (hs : file.Sound update) (hauthored : file.Authored) {content : V}
    (hcontent : file.content = some content) :
    ∃ k, file.LastWritten k content ∧ ∃ before, update k before = some content := by
  obtain ⟨k, hlast⟩ := hs.content_eq_some hcontent
  have hmem := List.mem_of_getLast? hlast
  exact ⟨k, ⟨hlast, hauthored _ hmem⟩, hs.update_of_mem hmem⟩

/-- **Nothing that was written is lost**: the content comes after all of it. -/
theorem Sound.content_after (hs : file.Sound update) {r : V → V → Prop} (hrefl : ∀ v, r v v)
    (htrans : ∀ u v w, r u v → r v w → r u w)
    (hupdate : ∀ i seen next, update i (some seen) = some next → r seen next) {v : V}
    (hmem : (i, v) ∈ file.written) : ∃ latest, file.content = some latest ∧ r v latest := by
  obtain ⟨earlier, ⟨j, latest⟩, hwritten⟩ :=
    List.eq_nil_or_concat' file.written |>.resolve_left (List.ne_nil_of_mem hmem)
  refine ⟨latest, ?_, ?_⟩
  · rw [hs.content, hwritten, List.getLast?_concat]
    rfl
  · have hpairwise := hs.pairwise_written htrans hupdate
    rw [hwritten] at hmem hpairwise
    rcases List.mem_append.mp hmem with hearlier | hlast
    · exact (List.pairwise_append.mp hpairwise).2.2 _ hearlier _ (List.mem_singleton_self _)
    · rw [List.mem_singleton, Prod.mk.injEq] at hlast
      rw [hlast.2]
      exact hrefl latest

end

section

variable {update : ι → Option V → Option V} {file file' : LockedFile ι V} {i : ι}
  {before : Option V}

/-! ## One writer alone -/

/-- How far a writer that acts alone has brought a file with the content `before`. -/
def Brought (update : ι → Option V → Option V) (before : Option V) (i : ι)
    (file : LockedFile ι V) : WriterStage V → Prop
  | .uncalled | .called | .locked | .failed => file.content = before
  | .read seen => file.content = before ∧ seen = before
  | .staged next => file.content = before ∧ update i before = some next
  | .renamed next | .acknowledged next => file.content = some next ∧ update i before = some next
  | .dead => file.content = before
      ∨ ∃ next, file.content = some next ∧ update i before = some next

/-- What a killed writer leaves is what it had brought about. -/
theorem Brought.killed {stage : WriterStage V} (h : file.Brought update before i stage) :
    file.Brought update before i stage.killed := by
  cases stage with
  | uncalled | acknowledged next | failed | dead => exact h
  | called | locked => exact .inl h
  | read seen => exact .inl h.1
  | staged next => exact .inl h.1
  | renamed next => exact .inr ⟨next, h⟩

theorem Brought.failed {stage : WriterStage V} (h : file.Brought update before i stage)
    (hstage : stage.mayFail = true) : file.content = before := by
  cases stage with
  | called | locked => exact h
  | read seen => exact h.1
  | staged next => exact h.1
  | uncalled | renamed next | acknowledged next | failed | dead =>
      exact absurd hstage (by simp [WriterStage.mayFail])

section
variable [DecidableEq ι]

/-- **A step of the writer**, or of nobody, keeps what it had brought about. -/
theorem Step.brought {act : Act ι} (h : Step update file act file')
    (hact : ∀ j, act.actor = some j → j = i)
    (hbrought : file.Brought update before i (file.stage i)) :
    file'.Brought update before i (file'.stage i) := by
  have henter : ∀ stage : WriterStage V, file'.stage = Function.update file.stage i stage →
      file'.Brought update before i stage → file'.Brought update before i (file'.stage i) := by
    intro stage hstage hnext
    rw [hstage, Function.update_self]
    exact hnext
  -- A writer that takes each step itself goes from stage to stage with what it has brought about.
  cases h with
  | @call j hstage =>
      obtain rfl : i = j := (hact j rfl).symm
      rw [hstage] at hbrought
      exact henter .called rfl hbrought
  | @acquire j hstage =>
      obtain rfl : i = j := (hact j rfl).symm
      rw [hstage] at hbrought
      exact henter .locked rfl hbrought
  | @read j hstage =>
      obtain rfl : i = j := (hact j rfl).symm
      rw [hstage] at hbrought
      exact henter _ rfl ⟨hbrought, hbrought⟩
  | @stage j seen next hstage hnext =>
      obtain rfl : i = j := (hact j rfl).symm
      rw [hstage] at hbrought
      exact henter _ rfl ⟨hbrought.1, hbrought.2 ▸ hnext⟩
  | @rename j next hstage =>
      obtain rfl : i = j := (hact j rfl).symm
      rw [hstage] at hbrought
      exact henter _ rfl ⟨rfl, hbrought.2⟩
  | @acknowledge j next lock hstage =>
      obtain rfl : i = j := (hact j rfl).symm
      rw [hstage] at hbrought
      exact henter _ rfl hbrought
  | @fail j lock hstage =>
      obtain rfl : i = j := (hact j rfl).symm
      exact henter .failed rfl (hbrought.failed hstage)
  | @kill gone =>
      show (file.kill gone).Brought update before i
        (if gone i = true then (file.stage i).killed else file.stage i)
      split_ifs
      · exact hbrought.killed
      · exact hbrought
  | clear => exact hbrought

/-- **A writer alone** brings its update about at once or not at all. -/
theorem Steps.brought {acts : List (Act ι)} (h : Steps update file acts file')
    (hacts : ∀ act ∈ acts, ∀ j, act.actor = some j → j = i)
    (hbrought : file.Brought update before i (file.stage i)) :
    file'.Brought update before i (file'.stage i) := by
  induction h with
  | nil => exact hbrought
  | cons hstep _ ih =>
      rw [List.forall_mem_cons] at hacts
      exact ih hacts.2 (hstep.brought hacts.1 hbrought)

end

end

end LockedFile

end CedraReflect
