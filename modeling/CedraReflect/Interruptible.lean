/-
Computations that await, and that may be cut short wherever they do.

What is awaited takes effect at once or not at all, and meets a [`Fate`]: it may
settle, it may be rejected, and the process may die before or after the effect.
The fates of a run are a list that comes from outside, one for each await, so
that a statement about all lists is one about all runs. A [`Triple`] says what
holds at the end of a computation and what holds wherever it may be cut short.
-/
import CedraReflect.LockedFile

set_option autoImplicit false

namespace CedraReflect

/-- What becomes of an awaited operation. -/
inductive Fate where
  | settles
  | rejects
  | diesBefore
  | diesAfter
deriving DecidableEq

/-- How a computation ends before its end. -/
inductive Cut where
  | threw
  | died
deriving DecidableEq

/-- A computation over `σ`, with the fates that are left. -/
def Interruptible (σ α : Type) : Type := σ × List Fate → (σ × List Fate) × Except Cut α

namespace Interruptible

variable {σ ε α β : Type}

/-! ## Primitives -/

instance : Monad (Interruptible σ) where
  pure a := fun s => (s, .ok a)
  bind m f := fun s =>
    match m s with
    | (s', .error cut) => (s', .error cut)
    | (s', .ok a) => f a s'

def gets (f : σ → α) : Interruptible σ α := fun s => (s, .ok (f s.1))

def update (f : σ → σ) : Interruptible σ Unit := fun s => ((f s.1, s.2), .ok ())

def fail : Interruptible σ α := fun s => (s, .error .threw)

/-- What a pure computation returns or throws. -/
def attempt (x : Except ε α) : Interruptible σ α := fun s =>
  match x with
  | .ok a => (s, .ok a)
  | .error _ => (s, .error .threw)

/-- Await an operation, which rejects by itself where `effect` has no result. A
process without a fate has died. -/
def await (effect : σ → Option (α × σ)) : Interruptible σ α := fun s =>
  match s.2 with
  | [] | .diesBefore :: _ => (s, .error .died)
  | .rejects :: fates => ((s.1, fates), .error .threw)
  | .settles :: fates =>
      match effect s.1 with
      | none => ((s.1, fates), .error .threw)
      | some (a, next) => ((next, fates), .ok a)
  | .diesAfter :: fates =>
      match effect s.1 with
      | none => ((s.1, fates), .error .died)
      | some (_, next) => ((next, fates), .error .died)

/-- Await something whose failure is swallowed. -/
def pause : Interruptible σ Unit := fun s =>
  match s.2 with
  | [] | .diesBefore :: _ | .diesAfter :: _ => (s, .error .died)
  | .rejects :: fates | .settles :: fates => ((s.1, fates), .ok ())

/-- A computation over a part of the state. -/
def focus {τ : Type} (get : σ → τ) (put : τ → σ → σ) (m : Interruptible τ α) :
    Interruptible σ α := fun s =>
  match m (get s.1, s.2) with
  | ((part, fates), outcome) => ((put part s.1, fates), outcome)

/-- Await the replacement of a file. -/
def replacing {V : Type} (update : Option V → Option V) : Interruptible (Option V) Unit :=
  await fun content => (update content).map fun next => ((), some next)

theorem bind_eq (m : Interruptible σ α) (f : α → Interruptible σ β) (s : σ × List Fate) :
    (m >>= f) s = match m s with
      | (s', .error cut) => (s', .error cut)
      | (s', .ok a) => f a s' := rfl

/-! ## Triples -/

/-- From a state with `P`, `m` ends with a result and a state with `Q`, or is cut
short in a state with `E`. -/
def Triple (P : σ → Prop) (m : Interruptible σ α) (Q : α → σ → Prop) (E : σ → Prop) : Prop :=
  ∀ s fates, P s →
    match m (s, fates) with
    | ((s', _), .ok a) => Q a s'
    | ((s', _), .error _) => E s'

namespace Triple

variable {P : σ → Prop} {Q : α → σ → Prop} {R : β → σ → Prop} {E : σ → Prop}

/-- What a triple says of one run. -/
theorem result {m : Interruptible σ α} (h : Triple P m Q E) {s s' : σ} {fates fates' : List Fate}
    (hs : P s) {a : α} (hrun : m (s, fates) = ((s', fates'), .ok a)) : Q a s' := by
  have hresult := h s fates hs
  rwa [hrun] at hresult

theorem cut {m : Interruptible σ α} (h : Triple P m Q E) {s s' : σ} {fates fates' : List Fate}
    (hs : P s) {cut : Cut} (hrun : m (s, fates) = ((s', fates'), .error cut)) : E s' := by
  have hresult := h s fates hs
  rwa [hrun] at hresult

theorem weaken {P' : σ → Prop} {Q' : α → σ → Prop} {m : Interruptible σ α} (h : Triple P m Q E)
    (hbefore : ∀ s, P' s → P s) (hafter : ∀ a s, Q a s → Q' a s) : Triple P' m Q' E := by
  intro s fates hs
  have hresult := h s fates (hbefore s hs)
  rcases hrun : m (s, fates) with ⟨⟨s', fates'⟩, cut | a⟩
  · rw [hrun] at hresult
    exact hresult
  · rw [hrun] at hresult
    exact hafter a s' hresult

/-- **Sequencing.** The second half starts where the first ended. -/
theorem bind {m : Interruptible σ α} {f : α → Interruptible σ β} (hm : Triple P m Q E)
    (hf : ∀ a, Triple (Q a) (f a) R E) : Triple P (m >>= f) R E := by
  intro s fates hs
  have hfirst := hm s fates hs
  rw [bind_eq]
  rcases hrun : m (s, fates) with ⟨⟨s', fates'⟩, cut | a⟩
  · rw [hrun] at hfirst
    exact hfirst
  · rw [hrun] at hfirst
    exact hf a s' fates' hfirst

/-- A fact that the state before does not bear on. -/
theorem given {φ : Prop} {m : Interruptible σ α} (h : φ → Triple P m Q E) :
    Triple (fun s => φ ∧ P s) m Q E :=
  fun s fates hs => h hs.1 s fates hs.2

theorem pure {a : α} (h : ∀ s, P s → Q a s) : Triple P (Pure.pure a) Q E :=
  fun s _ hs => h s hs

theorem gets {f : σ → α} (h : ∀ s, P s → Q (f s) s) : Triple P (gets f) Q E :=
  fun s _ hs => h s hs

theorem update {f : σ → σ} {Q : Unit → σ → Prop} (h : ∀ s, P s → Q () (f s)) :
    Triple P (update f) Q E :=
  fun s _ hs => h s hs

theorem fail (h : ∀ s, P s → E s) : Triple P (fail : Interruptible σ α) Q E :=
  fun s _ hs => h s hs

theorem attempt {x : Except ε α} (hok : ∀ a s, x = .ok a → P s → Q a s)
    (herror : ∀ s, P s → E s) : Triple P (attempt x) Q E := by
  intro s fates hs
  rcases x with e | a
  · exact herror s hs
  · exact hok a s rfl hs

/-- **An await** may be cut short where it is and where its effect leads. -/
theorem await {effect : σ → Option (α × σ)} (hcut : ∀ s, P s → E s)
    (heffect : ∀ s a next, P s → effect s = some (a, next) → Q a next ∧ E next) :
    Triple P (await effect) Q E := by
  intro s fates hs
  unfold Interruptible.await
  rcases fates with _ | ⟨fate, fates⟩
  · exact hcut s hs
  · cases fate with
    | rejects => exact hcut s hs
    | diesBefore => exact hcut s hs
    | settles =>
        rcases heq : effect s with _ | ⟨a, next⟩
        · exact hcut s hs
        · exact (heffect s a next hs heq).1
    | diesAfter =>
        rcases heq : effect s with _ | ⟨a, next⟩
        · exact hcut s hs
        · exact (heffect s a next hs heq).2

theorem pause {Q : Unit → σ → Prop} (hcut : ∀ s, P s → E s) (h : ∀ s, P s → Q () s) :
    Triple P pause Q E := by
  intro s fates hs
  unfold Interruptible.pause
  rcases fates with _ | ⟨fate, fates⟩
  · exact hcut s hs
  · cases fate with
    | rejects | settles => exact h s hs
    | diesBefore | diesAfter => exact hcut s hs

/-- **A replaced file** holds what it held or its update. -/
theorem replacing {V : Type} {get : σ → Option V} {put : Option V → σ → σ}
    {update : Option V → Option V} {Q : Unit → σ → Prop} (hput : ∀ s, put (get s) s = s)
    (hcut : ∀ s, P s → E s)
    (hnext : ∀ s next, P s → update (get s) = some next →
      Q () (put (some next) s) ∧ E (put (some next) s)) :
    Triple P (focus get put (Interruptible.replacing update)) Q E := by
  intro s fates hs
  have hpart : Triple (fun part => part = get s) (Interruptible.replacing update)
      (fun a part => Q a (put part s)) (fun part => E (put part s)) := by
    refine Triple.await ?_ ?_
    · rintro part rfl
      rw [hput]
      exact hcut s hs
    · rintro part a next rfl heffect
      obtain ⟨content, hcontent, heq⟩ := Option.map_eq_some_iff.mp heffect
      obtain ⟨rfl, rfl⟩ := Prod.mk.inj heq
      exact hnext s content hs hcontent
  have hresult := hpart (get s) fates rfl
  unfold focus
  rcases hrun : Interruptible.replacing update (get s, fates) with ⟨⟨part, rest⟩, cut | a⟩
  · rw [hrun] at hresult
    exact hresult
  · rw [hrun] at hresult
    exact hresult

end Triple

/-- How the replacement of a file may end. -/
theorem replacing_outcome {V : Type} (update : Option V → Option V) (content : Option V)
    (fates : List Fate) :
    match replacing update (content, fates) with
    | ((after, _), .ok ()) => ∃ next, update content = some next ∧ after = some next
    | ((after, _), .error .threw) => after = content
    | ((after, _), .error .died) =>
        after = content ∨ ∃ next, update content = some next ∧ after = some next := by
  unfold replacing await
  rcases fates with _ | ⟨fate, fates⟩
  · exact .inl rfl
  · cases fate with
    | rejects => rfl
    | diesBefore => exact .inl rfl
    | settles =>
        rcases hnext : update content with _ | next
        · simp [hnext]
        · simp [hnext]
    | diesAfter =>
        rcases hnext : update content with _ | next
        · simp [hnext]
        · simp [hnext]

/-! ## What replacing a file stands for -/

/-- How a call of a writer ended, if it did. -/
def ending {V : Type} : WriterStage V → Option (Except Cut Unit)
  | .acknowledged _ => some (.ok ())
  | .failed => some (.error .threw)
  | .dead => some (.error .died)
  | .uncalled | .called | .locked | .read _ | .staged _ | .renamed _ => none

/-- **A writer alone replaces its file** as `replacing` says, wherever between its
system calls it fails or is killed. -/
theorem replacing_of_steps {ι V : Type} [DecidableEq ι] {update : ι → Option V → Option V}
    {file file' : LockedFile ι V} {acts : List (LockedFile.Act ι)} {i : ι}
    (hsteps : LockedFile.Steps update file acts file')
    (hacts : ∀ act ∈ acts, ∀ j, act.actor = some j → j = i)
    (huncalled : file.stage i = .uncalled) {outcome : Except Cut Unit}
    (hend : ending (file'.stage i) = some outcome) :
    ∃ fates, replacing (update i) (file.content, fates) = ((file'.content, []), outcome) := by
  have hbrought : file'.Brought update file.content i (file'.stage i) := by
    refine hsteps.brought hacts ?_
    rw [huncalled]
    rfl
  generalize file'.stage i = stage at hbrought hend
  cases stage with
  | acknowledged next =>
      obtain ⟨hcontent, hnext⟩ := hbrought
      obtain rfl := Option.some.inj hend
      refine ⟨[.settles], ?_⟩
      simp [replacing, await, hnext, hcontent]
  | failed =>
      have hcontent : file'.content = file.content := hbrought
      obtain rfl := Option.some.inj hend
      refine ⟨[.rejects], ?_⟩
      simp [replacing, await, hcontent]
  | dead =>
      obtain rfl := Option.some.inj hend
      rcases hbrought with hcontent | ⟨next, hcontent, hnext⟩
      · refine ⟨[], ?_⟩
        simp [replacing, await, hcontent]
      · refine ⟨[.diesAfter], ?_⟩
        simp [replacing, await, hnext, hcontent]
  | uncalled | called | locked | read seen | staged next | renamed next =>
      exact absurd hend (by simp [ending])

end Interruptible

end CedraReflect
