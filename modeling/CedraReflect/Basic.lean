/-
Addresses, abort reasons and checked integer arithmetic of the Move packages.

**Addresses.** Objects have addresses derived from how they were created, and
no two derivations clash. [`Address`] is the free type of those derivations, so
that telling two stores apart is telling two constructors apart.

**Integers.** Every Move integer is a natural number here and every width is a
check. A run is judged under one of two arithmetics. Under `machine` a sum or a
product that leaves its width aborts, as in the VM. Under `ideal` only those
checks are off: subtraction below zero, division by zero and narrowing casts
abort under both. The ideal reading is what the accounting arguments are about,
and the two differ in one way only, since a machine run either does what the
ideal one does or stops on an overflow.
-/
import CedraReflect.Transaction
import Mathlib.Data.Finmap
import Mathlib.Data.Finset.Insert

set_option autoImplicit false

namespace CedraReflect

/-! ## Addresses -/

/-- The two fungible assets. -/
inductive Metadata where
  | trfl
  | tusd
deriving DecidableEq, Repr

/-- An account address, or the address of an object of the deployment. -/
inductive Address where
  | account (n : ℕ)
  | metadata (asset : Metadata)
  | reward_vault
  | distribution_vault
  | rfl_reserve
  | usd_reserve
  | lp_reward_vault
  | lp_epoch_state
  | primary (asset : Metadata) (owner : Address)
  | secondary (asset : Metadata) (owner : Address) (salt : ℕ)
deriving DecidableEq, Repr

namespace Address

/-- `@0x0`. -/
def zero : Address := .account 0

/-- `fungible_asset::store_metadata`, defined on stores only. -/
def store_metadata : Address → Option Metadata
  | reward_vault | distribution_vault | rfl_reserve | lp_reward_vault => some .trfl
  | usd_reserve => some .tusd
  | primary asset _ | secondary asset _ _ => some asset
  | account _ | metadata _ | lp_epoch_state => none

end Address

/-- The named addresses the packages are compiled with. -/
class NamedAddresses where
  reflection_core : Address
  test_assets : Address
  test_amm : Address
  bootstrap_lp : Address

open NamedAddresses in
/-- `object::owner`. Named objects belong to the package that created them. An
account is nobody's object and is mapped to itself. -/
def Address.owner [NamedAddresses] : Address → Address
  | reward_vault | distribution_vault | metadata .trfl => reflection_core
  | metadata .tusd => test_assets
  | rfl_reserve | usd_reserve | lp_reward_vault | lp_epoch_state => test_amm
  | primary _ owner | secondary _ owner _ => owner
  | account n => .account n

/-! ## Aborts -/

/-- The modules that abort. -/
inductive Module where
  | reflection_math
  | reflection_token
  | custody_registry
  | mock_usd
  | test_faucet
  | reflection_settlement
  | lp_rewards
  | pool
  | fungible_asset
deriving DecidableEq, Repr

/-- The refusals of the asset framework. -/
inductive FrameworkError where
  | not_a_store
  | not_store_owner
  | store_is_frozen
  | insufficient_balance
  | asset_mismatch
deriving DecidableEq, Repr

/-- Why a transaction aborted: an `assert!` of a module, a result wider than
its type, an undefined operation (a difference below zero, a division by zero,
a narrowing cast that loses bits), a missing resource or a table key that is
absent or taken, or a refusal of the asset framework. -/
inductive Abort where
  | code (module : Module) (n : ℕ)
  | overflow (module : Module)
  | undefined (module : Module)
  | missing (module : Module)
  | framework (reason : FrameworkError)
deriving DecidableEq, Repr

/-- The only reason for which the two arithmetics part. -/
def Abort.isOverflow : Abort → Prop
  | overflow _ => True
  | _ => False

/-! ## Arithmetic -/

/-- How widths are treated. -/
inductive Arithmetic where
  | ideal
  | machine
deriving DecidableEq, Repr

/-- Whether `n` is representable in `bits` bits. -/
def Arithmetic.fits : Arithmetic → ℕ → ℕ → Bool
  | ideal, _, _ => true
  | machine, bits, n => n < 2 ^ bits

@[simp] theorem Arithmetic.fits_ideal (bits n : ℕ) : ideal.fits bits n = true := rfl

section Checked

variable {σ : Type}

/-- The result `n` of a sum or product of `bits`-bit integers. -/
def checked (m : Module) (bits n : ℕ) : Tx Arithmetic σ Abort ℕ := do
  let fits ← Tx.asks (fun a : Arithmetic => a.fits bits n)
  Tx.require (fits = true) (.overflow m)
  pure n

/-- `x - y`. -/
def sub (m : Module) (x y : ℕ) : Tx Arithmetic σ Abort ℕ := do
  Tx.require (y ≤ x) (.undefined m)
  pure (x - y)

/-- `x / y`. -/
def div (m : Module) (x y : ℕ) : Tx Arithmetic σ Abort ℕ := do
  Tx.require (0 < y) (.undefined m)
  pure (x / y)

/-- `x % y`. -/
def mod (m : Module) (x y : ℕ) : Tx Arithmetic σ Abort ℕ := do
  Tx.require (0 < y) (.undefined m)
  pure (x % y)

/-- The narrowing cast `x as u⟨bits⟩`. -/
def narrow (m : Module) (bits x : ℕ) : Tx Arithmetic σ Abort ℕ := do
  Tx.require (x < 2 ^ bits) (.undefined m)
  pure x

end Checked

namespace Tx

variable {σ : Type} {s s' : σ} {a : ℕ} {r : Arithmetic}

@[simp] theorem commits_checked (m : Module) (bits n : ℕ) :
    Commits (checked m bits n) .ideal s a s' ↔ a = n ∧ s' = s := by
  simp [checked, and_comm]

@[simp] theorem commits_sub (m : Module) (x y : ℕ) :
    Commits (sub m x y) r s a s' ↔ y ≤ x ∧ a = x - y ∧ s' = s := by
  simp [sub, and_assoc, and_comm (a := a = _)]

@[simp] theorem commits_div (m : Module) (x y : ℕ) :
    Commits (div m x y) r s a s' ↔ 0 < y ∧ a = x / y ∧ s' = s := by
  simp [div, and_assoc, and_comm (a := a = _)]

@[simp] theorem commits_mod (m : Module) (x y : ℕ) :
    Commits (mod m x y) r s a s' ↔ 0 < y ∧ a = x % y ∧ s' = s := by
  simp [mod, and_assoc, and_comm (a := a = _)]

@[simp] theorem commits_narrow (m : Module) (bits x : ℕ) :
    Commits (narrow m bits x) r s a s' ↔ x < 2 ^ bits ∧ a = x ∧ s' = s := by
  simp [narrow, and_assoc, and_comm (a := a = _)]

end Tx

/-- **Arithmetics agree up to overflow.** Under either arithmetic `m` does what
it does under the ideal one, or stops on an overflow. -/
abbrev Sound {σ α : Type} (arithmetic : Arithmetic) (m : Tx Arithmetic σ Abort α) : Prop :=
  Tx.Agrees arithmetic .ideal Abort.isOverflow m

section Sound

variable {σ : Type} {arithmetic : Arithmetic}

instance (m : Module) (bits n : ℕ) : Sound (σ := σ) arithmetic (checked m bits n) := by
  constructor
  intro s
  cases hfits : arithmetic.fits bits n
  · refine .inr ⟨.overflow m, trivial, ?_⟩
    simp [checked, Tx.asks, Tx.require, Tx.abort, hfits, bind, ReaderT.bind, StateT.bind,
      Except.bind]
  · refine .inl ?_
    simp only [checked, Tx.asks, Tx.require, hfits, bind, ReaderT.bind, StateT.bind, Except.bind]
    rfl

instance (m : Module) (x y : ℕ) : Sound (σ := σ) arithmetic (sub m x y) := by
  unfold sub
  infer_instance

instance (m : Module) (x y : ℕ) : Sound (σ := σ) arithmetic (div m x y) := by
  unfold div
  infer_instance

instance (m : Module) (x y : ℕ) : Sound (σ := σ) arithmetic (mod m x y) := by
  unfold mod
  infer_instance

instance (m : Module) (bits x : ℕ) : Sound (σ := σ) arithmetic (narrow m bits x) := by
  unfold narrow
  infer_instance

end Sound

/-! ## Tables -/

/-- `table::Table`. -/
abbrev Table (κ ν : Type) : Type := Finmap (fun _ : κ => ν)

namespace Table

variable {κ ν : Type} [DecidableEq κ]

theorem lookup_insert_ite (t : Table κ ν) (k k' : κ) (v : ν) :
    (t.insert k v).lookup k' = if k' = k then some v else t.lookup k' := by
  split
  · next h => rw [h, Finmap.lookup_insert]
  · next h => rw [Finmap.lookup_insert_of_ne t h]

@[simp] theorem keys_insert (t : Table κ ν) (k : κ) (v : ν) :
    (t.insert k v).keys = insert k t.keys := by
  ext k'
  simp [Finmap.mem_keys, Finmap.mem_insert]

end Table

end CedraReflect
