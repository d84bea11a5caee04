/-
The core's accounting as a dividend ledger.

[`World.coreLedger`] reads the naive ledger off the contract's state: a
holder's shares are its raw units, its accumulator is what the contract never
stores but always uses, `raw * index + correction`, and the pool is the holder
`none`. [`Accounting`] says that the contract's aggregates are that ledger's
sums, and [`Accounting.step`] that they stay the sums when the ledger makes an
event and the aggregates move along. Which functions make which events is not
this file's business.
-/
import CedraReflect.Dividend
import CedraReflect.System
import Mathlib.Algebra.BigOperators.Option

set_option autoImplicit false
set_option linter.constructorNameAsVariable false

namespace CedraReflect

open Dividend (Ledger Act Valid)
open reflection_math (MAGNITUDE MAGNITUDE_pos)

namespace World

/-- The position of an account, the one `ensure_position` would create if it
has none. -/
def position (w : World) (a : Address) : Position :=
  (w.reflection.positions.lookup a).getD ⟨reflection_math.zero, 0⟩

/-- The raw tRFL of an account's primary store. -/
def raw (w : World) (a : Address) : ℕ := w.balance (.primary .trfl a)

def wallets (w : World) : Finset Address := w.custody.registered_wallets.keys

/-- What the contract knows about every holder. `none` is the pool. -/
def coreLedger (w : World) : Ledger (Option Address) where
  holders := w.wallets.insertNone
  shares
    | some a => w.raw a
    | none => w.custody.custody_shares
  accrued
    | some a => w.raw a * w.reflection.index + (w.position a).correction.toInt
    | none =>
        w.custody.custody_shares * w.reflection.index + w.custody.pool_position.correction.toInt
  claimed
    | some a => (w.position a).claimed
    | none => w.custody.pool_position.claimed
  index := w.reflection.index
  remainder := w.reflection.index_remainder
  unallocated := w.reflection.unallocated_fees
  retired := 0
  received := w.reflection.lifetime_fees

/-- Whole units a holder has earned and not been paid. -/
def pending (w : World) (i : Option Address) : ℕ := w.coreLedger.pending MAGNITUDE i

section

variable (w : World) (a : Address)

@[simp] theorem coreLedger_shares_some : w.coreLedger.shares (some a) = w.raw a := rfl
@[simp] theorem coreLedger_shares_none : w.coreLedger.shares none = w.custody.custody_shares := rfl
@[simp] theorem coreLedger_accrued_some :
    w.coreLedger.accrued (some a)
      = w.raw a * w.reflection.index + (w.position a).correction.toInt := rfl
@[simp] theorem coreLedger_accrued_none :
    w.coreLedger.accrued none
      = w.custody.custody_shares * w.reflection.index
        + w.custody.pool_position.correction.toInt := rfl
@[simp] theorem coreLedger_claimed_some :
    w.coreLedger.claimed (some a) = (w.position a).claimed := rfl
@[simp] theorem coreLedger_claimed_none :
    w.coreLedger.claimed none = w.custody.pool_position.claimed := rfl
@[simp] theorem coreLedger_index : w.coreLedger.index = w.reflection.index := rfl
@[simp] theorem coreLedger_remainder :
    w.coreLedger.remainder = w.reflection.index_remainder := rfl
@[simp] theorem coreLedger_unallocated :
    w.coreLedger.unallocated = w.reflection.unallocated_fees := rfl
@[simp] theorem coreLedger_retired : w.coreLedger.retired = 0 := rfl
@[simp] theorem coreLedger_received : w.coreLedger.received = w.reflection.lifetime_fees := rfl

@[simp] theorem some_mem_holders : some a ∈ w.coreLedger.holders ↔ a ∈ w.wallets :=
  Finset.some_mem_insertNone

@[simp] theorem none_mem_holders : none ∈ w.coreLedger.holders :=
  Finset.none_mem_insertNone

theorem total_eq : w.coreLedger.total = w.custody.custody_shares + ∑ a ∈ w.wallets, w.raw a :=
  Finset.sum_insertNone _ _

theorem claimedSum_eq :
    w.coreLedger.claimedSum
      = w.custody.pool_position.claimed + ∑ a ∈ w.wallets, (w.position a).claimed :=
  Finset.sum_insertNone _ _

theorem accruedSum_eq :
    w.coreLedger.accruedSum
      = w.coreLedger.accrued none + ∑ a ∈ w.wallets, w.coreLedger.accrued (some a) :=
  Finset.sum_insertNone _ _

end

end World

/-! ## The aggregates -/

/-- The contract's aggregates are the sums of its ledger, and the reward vault
holds what was collected and not paid out. -/
structure Accounting (w : World) : Prop where
  valid : Valid MAGNITUDE w.coreLedger
  total : w.reflection.total_shares = w.coreLedger.total
  aggregate :
    (w.reflection.total_shares : ℤ) * w.reflection.index
      + w.reflection.aggregate_correction.toInt = w.coreLedger.accruedSum
  settled :
    w.reflection.lifetime_materialized + w.custody.lifetime_custody_routed
      = w.coreLedger.claimedSum
  routed : w.custody.lifetime_custody_routed = w.custody.pool_position.claimed
  vault : w.balance .reward_vault + w.coreLedger.claimedSum = w.reflection.lifetime_fees
  remainder : w.reflection.index_remainder < MAGNITUDE

namespace Accounting

variable {w w' : World}

/-- **The vault's partition.** What is in the vault is the liability, the fees
nobody could be credited with, and the reserve of the carried remainder. -/
theorem partition (h : Accounting w) :
    (w.balance .reward_vault : ℤ)
      = w.coreLedger.liability MAGNITUDE + w.reflection.unallocated_fees
        + w.coreLedger.reserve MAGNITUDE := by
  have hp := h.valid.partition MAGNITUDE_pos
  have hv := h.vault
  simp only [World.coreLedger_unallocated, World.coreLedger_received] at hp
  omega

theorem liability_nonneg (h : Accounting w) : 0 ≤ w.coreLedger.liability MAGNITUDE :=
  h.valid.liability_nonneg MAGNITUDE_pos

theorem pending_le_vault (h : Accounting w) (i : Option Address) :
    w.pending i ≤ w.balance .reward_vault := by
  have hl := h.valid.pending_le_liability MAGNITUDE_pos i
  have hp := h.partition
  unfold World.pending
  omega

/-- One unit of reserve for any remainder at all. -/
theorem reserve_eq (h : Accounting w) :
    w.coreLedger.reserve MAGNITUDE = if w.reflection.index_remainder = 0 then 0 else 1 := by
  have hr := h.remainder
  have hM := MAGNITUDE_pos
  simp only [Ledger.reserve, World.coreLedger_remainder, World.coreLedger_retired, add_zero]
  split
  · next hz => rw [hz, zero_add]; exact Nat.div_eq_of_lt (by omega)
  · next hz =>
      rw [Nat.div_eq_iff hM]
      omega

/-- **The step.** If the ledger made the event `a` and the stored aggregates
moved along, they are still the sums. -/
theorem step (h : Accounting w) {a : Act (Option Address)}
    (ha : a.Enabled MAGNITUDE w.coreLedger)
    (hl : w'.coreLedger = a.apply MAGNITUDE w.coreLedger)
    (ht : (w'.reflection.total_shares : ℤ) = w.reflection.total_shares + a.weight)
    (hc : (w'.reflection.total_shares : ℤ) * w'.reflection.index
        + w'.reflection.aggregate_correction.toInt
      = (w.reflection.total_shares : ℤ) * w.reflection.index
        + w.reflection.aggregate_correction.toInt + a.handed MAGNITUDE w.coreLedger)
    (hs : w'.reflection.lifetime_materialized + w'.custody.lifetime_custody_routed
      = w.reflection.lifetime_materialized + w.custody.lifetime_custody_routed + a.paid)
    (hr : w'.custody.lifetime_custody_routed = w'.custody.pool_position.claimed)
    (hv : w'.balance .reward_vault + a.paid = w.balance .reward_vault + a.collected)
    (hrem : w'.reflection.index_remainder < MAGNITUDE) : Accounting w' := by
  have htot := ha.total_apply h.valid
  have hacc := ha.accruedSum_apply h.valid
  have hcla := ha.claimedSum_apply h.valid
  -- The fees received are the ledger's, which only an event that collects raises.
  have hrec : w'.reflection.lifetime_fees = w.reflection.lifetime_fees + a.collected := by
    have := Act.received_apply (L := w.coreLedger) MAGNITUDE a
    rwa [← hl] at this
  rw [← hl] at htot hacc hcla
  refine ⟨hl ▸ ha.valid h.valid, ?_, ?_, ?_, hr, ?_, hrem⟩
  · have := h.total
    omega
  · rw [hc, hacc, h.aggregate]
  · rw [hs, hcla, h.settled]
  · have := h.vault
    omega

end Accounting

end CedraReflect
