/-
Computations that throw, in the languages of the off-chain programs.

Such a function is an `Except` with what it throws. A block returns when each of
its statements does, which is what the lemmas turn it into.
-/
import Mathlib.Logic.Basic

set_option autoImplicit false

namespace CedraReflect.indexer

variable {ε α β : Type}

theorem bind_eq_ok {x : Except ε α} {f : α → Except ε β} {b : β} :
    (x >>= f) = .ok b ↔ ∃ a, x = .ok a ∧ f a = .ok b := by
  cases x with
  | error e => simp [bind, Except.bind]
  | ok a => simp [bind, Except.bind]

theorem ok_bind {a : α} {f : α → Except ε β} : ((Except.ok a : Except ε α) >>= f) = f a := rfl

/-- A statement of a block binds nothing. -/
theorem bind_unit_eq_ok {x : Except ε Unit} {f : Unit → Except ε β} {b : β} :
    (x >>= f) = .ok b ↔ x = .ok () ∧ f () = .ok b := by
  rw [bind_eq_ok]
  exact ⟨fun ⟨_, h⟩ => h, fun h => ⟨(), h⟩⟩

theorem pure_eq_ok {a b : α} : (pure a : Except ε α) = .ok b ↔ b = a := by
  simp [pure, Except.pure, eq_comm]

/-- `if (p) throw e`. -/
def throwIf (p : Prop) [Decidable p] (e : ε) : Except ε Unit :=
  if p then .error e else .ok ()

@[simp] theorem throwIf_eq_ok {p : Prop} [Decidable p] {e : ε} {u : Unit} :
    throwIf p e = .ok u ↔ ¬ p := by
  unfold throwIf
  split <;> simp_all

/-- `for (const x of xs) f(x)` where `f` may throw. -/
def forAll : List α → (α → Except ε Unit) → Except ε Unit
  | [], _ => pure ()
  | x :: xs, f => do
      f x
      forAll xs f

theorem forAll_eq_ok {xs : List α} {f : α → Except ε Unit} :
    forAll xs f = .ok () ↔ ∀ x ∈ xs, f x = .ok () := by
  induction xs with
  | nil => simp [forAll, pure_eq_ok]
  | cons x xs ih =>
      rw [forAll, bind_unit_eq_ok, List.forall_mem_cons, ← ih]

theorem mapM_eq_ok {f : α → Except ε β} {g : α → β} {xs : List α}
    (h : ∀ x ∈ xs, f x = .ok (g x)) : xs.mapM f = .ok (xs.map g) := by
  induction xs with
  | nil => rfl
  | cons x xs ih =>
      rw [List.mapM_cons, h x List.mem_cons_self, ih fun y hy => h y (List.mem_cons_of_mem x hy)]
      rfl

/-- What returns for a list returns for each of it. -/
theorem of_mapM_eq_ok {f : α → Except ε β} {xs : List α} {ys : List β} (h : xs.mapM f = .ok ys) :
    ∀ x ∈ xs, ∃ y, f x = .ok y := by
  induction xs generalizing ys with
  | nil =>
      intro x hx
      cases hx
  | cons x xs ih =>
      rw [List.mapM_cons, bind_eq_ok] at h
      obtain ⟨y, hy, h⟩ := h
      rw [bind_eq_ok] at h
      obtain ⟨rest, hrest, -⟩ := h
      rw [List.forall_mem_cons]
      exact ⟨⟨y, hy⟩, ih hrest⟩

end CedraReflect.indexer
