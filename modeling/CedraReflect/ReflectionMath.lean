/-
`reflection_math.move`: magnified-dividend arithmetic.

Move has no signed integers, so the module stores a sign and a magnitude and
keeps zero non-negative. [`SignedU256`] carries that convention as a field: a
negative zero is not a value, and every branch below that builds one of these
has to say why it does not build that.

The specifications read the pair as an integer and say that the two updates
are addition and subtraction ([`Tx.commits_add_unsigned`],
[`Tx.commits_subtract_unsigned`]) and that `apply` is addition into the
naturals, aborting exactly when the result is negative
([`Tx.commits_apply`]).
-/
import CedraReflect.Basic
import Mathlib.Tactic.NormNum

set_option autoImplicit false

namespace CedraReflect

/-- `SignedU256`, with the invariant of its docstring: canonical zero. -/
@[ext] structure SignedU256 where
  negative : Bool
  magnitude : ℕ
  canonical : magnitude = 0 → negative = false
deriving DecidableEq, Repr

namespace SignedU256

/-- The integer a pair stands for. -/
def toInt (v : SignedU256) : ℤ := if v.negative then -(v.magnitude : ℤ) else v.magnitude

/-- The pair of an integer. -/
def ofInt (z : ℤ) : SignedU256 := ⟨decide (z < 0), z.natAbs, fun h => by simp at h; simp [h]⟩

@[simp] theorem toInt_ofInt (z : ℤ) : (ofInt z).toInt = z := by
  unfold toInt ofInt
  by_cases hz : z < 0
  · simp only [hz, decide_true, if_true]
    omega
  · simp only [hz, decide_false]
    simp
    omega

/-- One pair per integer, which is what the convention about zero is for. -/
theorem toInt_injective {v v' : SignedU256} (h : v.toInt = v'.toInt) : v = v' := by
  obtain ⟨n, m, hc⟩ := v
  obtain ⟨n', m', hc'⟩ := v'
  simp only [toInt] at h
  ext
  · cases n <;> cases n' <;> grind
  · cases n <;> cases n' <;> grind

@[simp] theorem ofInt_toInt (v : SignedU256) : ofInt v.toInt = v :=
  toInt_injective (toInt_ofInt _)

theorem eq_ofInt_iff {v : SignedU256} {z : ℤ} : v = ofInt z ↔ v.toInt = z :=
  ⟨fun h => by rw [h, toInt_ofInt], fun h => by rw [← h, ofInt_toInt]⟩

theorem of_nonneg {v : SignedU256} (h : 0 ≤ v.toInt) :
    v.negative = false ∧ (v.magnitude : ℤ) = v.toInt := by
  obtain ⟨n, m, hc⟩ := v
  simp only [toInt] at h ⊢
  cases n <;> grind

end SignedU256

namespace reflection_math

variable {σ : Type}

def E_NEGATIVE_RESULT : Abort := .code .reflection_math 1
def E_UNDERFLOW : Abort := .code .reflection_math 2

/-- Enough precision to retain fee division dust. -/
@[irreducible] def MAGNITUDE : ℕ := 1_000_000_000_000_000_000_000_000

theorem MAGNITUDE_pos : 0 < MAGNITUDE := by
  unfold MAGNITUDE
  norm_num

abbrev u256 (n : ℕ) : Tx Arithmetic σ Abort ℕ := checked .reflection_math 256 n

def zero : SignedU256 := ⟨false, 0, fun _ => rfl⟩

@[simp] theorem toInt_zero : zero.toInt = 0 := by simp [zero, SignedU256.toInt]

/-- `value + amount`. -/
def add_unsigned (value : SignedU256) (amount : ℕ) : Tx Arithmetic σ Abort SignedU256 :=
  if amount = 0 then pure value
  else if value.negative then
    if hgt : value.magnitude > amount then
      pure ⟨true, value.magnitude - amount, fun h => by omega⟩
    else if value.magnitude < amount then
      pure ⟨false, amount - value.magnitude, fun _ => rfl⟩
    else
      pure ⟨false, 0, fun _ => rfl⟩
  else do
    let magnitude ← u256 (value.magnitude + amount)
    pure ⟨false, magnitude, fun _ => rfl⟩

/-- `value - amount`. -/
def subtract_unsigned (value : SignedU256) (amount : ℕ) : Tx Arithmetic σ Abort SignedU256 :=
  if hz : amount = 0 then pure value
  else if value.negative then do
    let _ ← u256 (value.magnitude + amount)
    pure ⟨true, value.magnitude + amount, fun h => by omega⟩
  else if value.magnitude > amount then
    pure ⟨false, value.magnitude - amount, fun _ => rfl⟩
  else if hlt : value.magnitude < amount then
    pure ⟨true, amount - value.magnitude, fun h => by omega⟩
  else
    pure ⟨false, 0, fun _ => rfl⟩

/-- Adds the signed correction to a non-negative magnified balance. -/
def apply (base : ℕ) (correction : SignedU256) : Tx Arithmetic σ Abort ℕ :=
  if correction.negative then do
    Tx.require (correction.magnitude ≤ base) E_NEGATIVE_RESULT
    sub .reflection_math base correction.magnitude
  else
    u256 (base + correction.magnitude)

def checked_subtract (left right : ℕ) : Tx Arithmetic σ Abort ℕ := do
  Tx.require (right ≤ left) E_UNDERFLOW
  sub .reflection_math left right

end reflection_math

/-! ## Specifications -/

namespace Tx

open reflection_math

variable {σ : Type} {s s' : σ} {r : Arithmetic} {v v' : SignedU256} {a : ℕ}

@[simp] theorem commits_add_unsigned (n : ℕ) :
    Commits (add_unsigned v n) .ideal s v' s' ↔ v' = .ofInt (v.toInt + n) ∧ s' = s := by
  refine Commits.iff ?_ v' s'
  obtain ⟨neg, m, hc⟩ := v
  unfold add_unsigned
  simp only [commits_ite, commits_dite, commits_pure, commits_bind, commits_checked,
    eq_comm (a := SignedU256.ofInt _), SignedU256.eq_ofInt_iff, SignedU256.toInt]
  cases neg <;> grind

@[simp] theorem commits_subtract_unsigned (n : ℕ) :
    Commits (subtract_unsigned v n) .ideal s v' s' ↔ v' = .ofInt (v.toInt - n) ∧ s' = s := by
  refine Commits.iff ?_ v' s'
  obtain ⟨neg, m, hc⟩ := v
  unfold subtract_unsigned
  simp only [commits_ite, commits_dite, commits_pure, commits_bind, commits_checked,
    eq_comm (a := SignedU256.ofInt _), SignedU256.eq_ofInt_iff, SignedU256.toInt]
  cases neg <;> grind

/-- `apply` is the sum, and aborts exactly when the sum is negative. -/
@[simp] theorem commits_apply (base : ℕ) :
    Commits (apply base v) .ideal s a s' ↔ (a : ℤ) = base + v.toInt ∧ s' = s := by
  obtain ⟨neg, m, hc⟩ := v
  unfold apply
  simp only [commits_ite, commits_bind, commits_require, commits_sub, commits_checked,
    SignedU256.toInt]
  cases neg <;> grind

@[simp] theorem commits_checked_subtract (left right : ℕ) :
    Commits (checked_subtract left right) r s a s' ↔ right ≤ left ∧ a = left - right ∧ s' = s := by
  simp only [checked_subtract, commits_bind, commits_require, commits_sub]
  grind

end Tx

section Sound

variable {σ : Type} {arithmetic : Arithmetic}

open reflection_math

instance (v : SignedU256) (n : ℕ) : Sound (σ := σ) arithmetic (add_unsigned v n) := by
  unfold add_unsigned
  infer_instance

instance (v : SignedU256) (n : ℕ) : Sound (σ := σ) arithmetic (subtract_unsigned v n) := by
  unfold subtract_unsigned
  infer_instance

instance (base : ℕ) (v : SignedU256) : Sound (σ := σ) arithmetic (apply base v) := by
  unfold apply
  infer_instance

instance (left right : ℕ) : Sound (σ := σ) arithmetic (checked_subtract left right) := by
  unfold checked_subtract
  infer_instance

end Sound

end CedraReflect
