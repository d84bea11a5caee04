/-
Computations under audit: they update a state, file findings on the way and may
fail.

A finding is not a failure. Filing one does not end the computation, which goes
on to its end or to an exception, and what was filed before an exception is
kept. The question asked of such a computation is whether it is clean:
[`Clean`] is the graph of those that end without an exception and without a
single finding, and the `clean_*` lemmas turn a `do` block into the conjunction
of what it checks and the state it leaves.
-/
import Mathlib.Logic.Basic
import Mathlib.Tactic.SimpRw

set_option autoImplicit false

namespace CedraReflect

/-- A computation updating `σ`, filing findings `ω`, failing with an `ε` or
ending with an `α`. -/
def Audited (σ ω ε α : Type) : Type := σ → List ω × Except ε (α × σ)

namespace Audited

variable {σ ω ε α β : Type}

/-! ## Primitives -/

instance : Monad (Audited σ ω ε) where
  pure a s := ([], .ok (a, s))
  bind m f s :=
    match m s with
    | (filed, .error e) => (filed, .error e)
    | (filed, .ok (a, s')) => (filed ++ (f a s').1, (f a s').2)

/-- Read the state. -/
def gets (f : σ → α) : Audited σ ω ε α := fun s => ([], .ok (f s, s))

/-- Write the state. -/
def update (f : σ → σ) : Audited σ ω ε Unit := fun s => ([], .ok ((), f s))

/-- File a finding and go on. -/
def file (a : ω) : Audited σ ω ε Unit := fun s => ([a], .ok ((), s))

/-- File a finding if `p` holds. -/
def fileIf (p : Prop) [Decidable p] (a : ω) : Audited σ ω ε Unit :=
  if p then file a else pure ()

/-- Throw. -/
def fail (e : ε) : Audited σ ω ε α := fun _ => ([], .error e)

/-- Throw if `p` holds. -/
def failIf (p : Prop) [Decidable p] (e : ε) : Audited σ ω ε Unit :=
  if p then fail e else pure ()

/-- What a pure computation returns or throws. -/
def attempt (x : Except ε α) : Audited σ ω ε α := fun s =>
  match x with
  | .ok a => ([], .ok (a, s))
  | .error e => ([], .error e)

/-- `for (const x of xs) f(x)`. -/
def forEach : List β → (β → Audited σ ω ε Unit) → Audited σ ω ε Unit
  | [], _ => pure ()
  | x :: xs, f => do
      f x
      forEach xs f

/-! ## Clean computations -/

/-- `m`, started in `s`, ends with `a` in `s'` and files nothing. -/
def Clean (m : Audited σ ω ε α) (s : σ) (a : α) (s' : σ) : Prop := m s = ([], .ok (a, s'))

theorem Clean.unique {m : Audited σ ω ε α} {s s₁ s₂ : σ} {a b : α} (h₁ : Clean m s a s₁)
    (h₂ : Clean m s b s₂) : a = b ∧ s₁ = s₂ := by
  unfold Clean at h₁ h₂
  rw [h₁] at h₂
  simpa using h₂

@[simp] theorem clean_pure (a b : α) (s s' : σ) :
    Clean (pure a : Audited σ ω ε α) s b s' ↔ b = a ∧ s' = s := by
  show (([] : List ω), (Except.ok (a, s) : Except ε (α × σ))) = ([], .ok (b, s')) ↔ _
  simp [eq_comm]

/-- **Sequencing.** Both halves are clean, and the second starts where the first
ended. -/
@[simp] theorem clean_bind (m : Audited σ ω ε α) (f : α → Audited σ ω ε β) (s s'' : σ) (b : β) :
    Clean (m >>= f) s b s'' ↔ ∃ a s', Clean m s a s' ∧ Clean (f a) s' b s'' := by
  unfold Clean
  show (match m s with
    | (filed, .error e) => (filed, .error e)
    | (filed, .ok (a, s')) => (filed ++ (f a s').1, (f a s').2)) = ([], .ok (b, s'')) ↔ _
  rcases hm : m s with ⟨filed, e | ⟨a, s'⟩⟩
  · simp
  · constructor
    · intro h
      obtain ⟨hfiled, hf⟩ := Prod.mk.inj h
      obtain ⟨rfl, hfiled'⟩ := List.append_eq_nil_iff.mp hfiled
      exact ⟨a, s', rfl, Prod.ext hfiled' hf⟩
    · rintro ⟨a₀, s₀, h, hf⟩
      cases h
      simp [hf]

@[simp] theorem clean_gets (f : σ → α) (s s' : σ) (a : α) :
    Clean (gets f : Audited σ ω ε α) s a s' ↔ a = f s ∧ s' = s := by
  simp [Clean, gets, eq_comm]

@[simp] theorem clean_update (f : σ → σ) (s s' : σ) (u : Unit) :
    Clean (update f : Audited σ ω ε Unit) s u s' ↔ s' = f s := by
  simp [Clean, update, eq_comm]

@[simp] theorem clean_file (x : ω) (s s' : σ) (u : Unit) :
    Clean (file x : Audited σ ω ε Unit) s u s' ↔ False := by
  simp [Clean, file]

@[simp] theorem clean_fail (e : ε) (s s' : σ) (a : α) :
    Clean (fail e : Audited σ ω ε α) s a s' ↔ False := by
  simp [Clean, fail]

@[simp] theorem clean_ite (p : Prop) [Decidable p] (m n : Audited σ ω ε α) (s s' : σ) (a : α) :
    Clean (if p then m else n) s a s' ↔ (p ∧ Clean m s a s') ∨ (¬ p ∧ Clean n s a s') := by
  split <;> simp_all

@[simp] theorem clean_fileIf (p : Prop) [Decidable p] (x : ω) (s s' : σ) (u : Unit) :
    Clean (fileIf p x : Audited σ ω ε Unit) s u s' ↔ ¬ p ∧ s' = s := by
  simp [fileIf]

@[simp] theorem clean_failIf (p : Prop) [Decidable p] (e : ε) (s s' : σ) (u : Unit) :
    Clean (failIf p e : Audited σ ω ε Unit) s u s' ↔ ¬ p ∧ s' = s := by
  simp [failIf]

@[simp] theorem clean_attempt (x : Except ε α) (s s' : σ) (a : α) :
    Clean (attempt x : Audited σ ω ε α) s a s' ↔ x = .ok a ∧ s' = s := by
  cases x <;> simp [Clean, attempt, eq_comm]

/-! ## Loops -/

@[simp] theorem clean_forEach_nil (f : β → Audited σ ω ε Unit) (s s' : σ) (u : Unit) :
    Clean (forEach [] f) s u s' ↔ s' = s := by
  simp [forEach]

theorem clean_forEach_cons (x : β) (xs : List β) (f : β → Audited σ ω ε Unit) (s s'' : σ)
    (u : Unit) :
    Clean (forEach (x :: xs) f) s u s'' ↔
      ∃ s', Clean (f x) s () s' ∧ Clean (forEach xs f) s' () s'' := by
  rw [forEach, clean_bind]
  exact ⟨fun ⟨_, s', h⟩ => ⟨s', h⟩, fun ⟨s', h⟩ => ⟨(), s', h⟩⟩

/-- A loop over two lists is the one after the other. -/
theorem clean_forEach_append {xs ys : List β} {f : β → Audited σ ω ε Unit} {s s'' : σ} {u : Unit} :
    Clean (forEach (xs ++ ys) f) s u s'' ↔
      ∃ s', Clean (forEach xs f) s () s' ∧ Clean (forEach ys f) s' () s'' := by
  induction xs generalizing s with
  | nil => simp
  | cons x xs ih =>
      simp only [List.cons_append, clean_forEach_cons, ih]
      constructor
      · rintro ⟨s₁, hx, s₂, hxs, hys⟩
        exact ⟨s₂, ⟨s₁, hx, hxs⟩, hys⟩
      · rintro ⟨s₂, ⟨s₁, hx, hxs⟩, hys⟩
        exact ⟨s₁, hx, s₂, hxs, hys⟩

/-- A loop whose body only looks is clean if every turn is. -/
theorem clean_forEach_look {f : β → Audited σ ω ε Unit} {p : β → Prop} {xs : List β} {s s' : σ}
    (hf : ∀ x ∈ xs, ∀ s', Clean (f x) s () s' ↔ p x ∧ s' = s) (u : Unit) :
    Clean (forEach xs f) s u s' ↔ (∀ x ∈ xs, p x) ∧ s' = s := by
  induction xs with
  | nil => simp
  | cons x xs ih =>
      rw [clean_forEach_cons]
      simp only [hf x List.mem_cons_self, and_assoc, exists_and_left, exists_eq_left,
        List.forall_mem_cons]
      rw [ih fun y hy => hf y (List.mem_cons_of_mem _ hy)]

/-- What every turn of such a loop has seen. -/
theorem Clean.forEach_look {f : β → Audited σ ω ε Unit} {p : β → Prop} {xs : List β} {s s' : σ}
    {u : Unit} (h : Clean (forEach xs f) s u s')
    (hf : ∀ x ∈ xs, ∀ s', Clean (f x) s () s' → p x ∧ s' = s) : (∀ x ∈ xs, p x) ∧ s' = s := by
  induction xs with
  | nil => simpa using h
  | cons x xs ih =>
      obtain ⟨s₁, hx, hxs⟩ := (clean_forEach_cons x xs f s s' u).mp h
      obtain ⟨hp, rfl⟩ := hf x List.mem_cons_self s₁ hx
      obtain ⟨hps, hsame⟩ := ih hxs fun y hy => hf y (List.mem_cons_of_mem _ hy)
      exact ⟨List.forall_mem_cons.mpr ⟨hp, hps⟩, hsame⟩

/-- **The loop rule.** What every clean turn keeps, a clean loop keeps. -/
theorem Clean.forEach_induction {f : β → Audited σ ω ε Unit} {P : σ → Prop} {xs : List β}
    {s s' : σ} (h : Clean (forEach xs f) s () s') (hs : P s)
    (step : ∀ x ∈ xs, ∀ s₁ s₂, P s₁ → Clean (f x) s₁ () s₂ → P s₂) : P s' := by
  induction xs generalizing s with
  | nil =>
      obtain rfl := (clean_forEach_nil f s s' ()).mp h
      exact hs
  | cons x xs ih =>
      obtain ⟨s₁, h₁, h₂⟩ := (clean_forEach_cons x xs f s s' ()).mp h
      exact ih h₂ (step x List.mem_cons_self s s₁ hs h₁)
        fun y hy => step y (List.mem_cons_of_mem _ hy)

end Audited

end CedraReflect
