/-
The LP epoch's accounting as a dividend ledger.

The same reading as for the core: [`LpEpoch.ledger`] is the naive ledger in
which every owner's accumulator is `shares * index + correction`, and
[`LpAccounting`] says that the epoch's aggregates are its sums. The effects
below are what the functions of `lp_rewards` do to the epoch. They differ from
the core's in one event: an owner who leaves gives up a fraction of a unit, and
[`LpEpoch.Settled`] is what makes giving it up harmless.
-/
import CedraReflect.Dividend
import CedraReflect.System

set_option autoImplicit false
set_option linter.constructorNameAsVariable false

namespace CedraReflect

open Dividend (Ledger Act Valid Run)
open reflection_math (MAGNITUDE MAGNITUDE_pos)

namespace LpEpoch

/-- The position of an owner, the one `ensure_position` would create if it has
none. -/
def position (e : LpEpoch) (a : Address) : LpPosition :=
  (e.positions.lookup a).getD ⟨0, reflection_math.zero, 0⟩

/-- What the epoch knows about every owner. -/
def ledger (e : LpEpoch) : Ledger Address where
  holders := e.positions.keys
  shares a := (e.position a).shares
  accrued a := (e.position a).shares * e.index + (e.position a).correction.toInt
  claimed a := (e.position a).claimed
  index := e.index
  remainder := e.index_remainder
  unallocated := e.unallocated_rewards
  retired := e.retired_residue_magnified
  received := e.lifetime_received

/-- Whole units an owner has earned and not been paid. -/
def pending (e : LpEpoch) (a : Address) : ℕ := e.ledger.pending MAGNITUDE a

section

variable (e : LpEpoch) (a : Address)

@[simp] theorem ledger_shares : e.ledger.shares a = (e.position a).shares := rfl
@[simp] theorem ledger_accrued :
    e.ledger.accrued a
      = (e.position a).shares * e.index + (e.position a).correction.toInt := rfl
@[simp] theorem ledger_claimed : e.ledger.claimed a = (e.position a).claimed := rfl
@[simp] theorem ledger_index : e.ledger.index = e.index := rfl
@[simp] theorem ledger_remainder : e.ledger.remainder = e.index_remainder := rfl
@[simp] theorem ledger_unallocated : e.ledger.unallocated = e.unallocated_rewards := rfl
@[simp] theorem ledger_retired : e.ledger.retired = e.retired_residue_magnified := rfl
@[simp] theorem ledger_received : e.ledger.received = e.lifetime_received := rfl

@[simp] theorem mem_holders : a ∈ e.ledger.holders ↔ a ∈ e.positions := Finmap.mem_keys

theorem position_of_notMem {e : LpEpoch} {a : Address} (ha : a ∉ e.positions) :
    e.position a = ⟨0, reflection_math.zero, 0⟩ := by
  simp [position, Finmap.lookup_eq_none.mpr ha]

theorem position_insert {e e' : LpEpoch} {b : Address} {p : LpPosition}
    (h : e'.positions = e.positions.insert a p) :
    e'.position b = if b = a then p else e.position b := by
  unfold position
  rw [h, Table.lookup_insert_ite]
  split <;> rfl

end

/-! ## The effects -/

variable (e : LpEpoch) (a : Address) (n : ℕ)

/-- Where a reward of `n` units moves the index. -/
def nextIndex : ℕ := e.index + (MAGNITUDE * n + e.index_remainder) / e.total_shares

/-- What a reward of `n` units leaves to the next one. -/
def nextRemainder : ℕ := (MAGNITUDE * n + e.index_remainder) % e.total_shares

/-- A routed reward moves the index to the values given. -/
def indexed (index index_remainder rounding_reserve : ℕ) : LpEpoch :=
  { e with lifetime_received := e.lifetime_received + n, index, index_remainder, rounding_reserve }

/-- Shares come into being. -/
def minted : LpEpoch :=
  { e with
    positions := e.positions.insert a
      ⟨(e.position a).shares + n, .ofInt ((e.position a).correction.toInt - n * e.index),
        (e.position a).claimed⟩
    aggregate_correction := .ofInt (e.aggregate_correction.toInt - n * e.index)
    total_shares := e.total_shares + n }

/-- Shares go out of being. -/
def burned : LpEpoch :=
  { e with
    positions := e.positions.insert a
      ⟨(e.position a).shares - n, .ofInt ((e.position a).correction.toInt + n * e.index),
        (e.position a).claimed⟩
    aggregate_correction := .ofInt (e.aggregate_correction.toInt + n * e.index)
    total_shares := e.total_shares - n }

/-- Whole units are counted as claimed. -/
def paid : LpEpoch :=
  { e with
    positions := e.positions.insert a { e.position a with claimed := (e.position a).claimed + n }
    lifetime_claimed := e.lifetime_claimed + n }

/-- The fraction of a unit a position keeps beyond what it was paid. -/
def residue : ℕ := ((e.position a).correction.toInt - (e.position a).claimed * MAGNITUDE).toNat

/-- `r` magnified units of a position are given up. -/
def normalized (r rounding_reserve : ℕ) : LpEpoch :=
  { e with
    positions := e.positions.insert a
      { e.position a with correction := .ofInt ((e.position a).correction.toInt - r) }
    aggregate_correction := .ofInt (e.aggregate_correction.toInt - r)
    retired_residue_magnified := e.retired_residue_magnified + r
    rounding_reserve }

end LpEpoch

/-! ## The aggregates -/

/-- The epoch's aggregates are the sums of its ledger. -/
structure LpAccounting (e : LpEpoch) : Prop where
  valid : Valid MAGNITUDE e.ledger
  total : e.total_shares = e.ledger.total
  aggregate :
    (e.total_shares : ℤ) * e.index + e.aggregate_correction.toInt = e.ledger.accruedSum
  settled : e.lifetime_claimed = e.ledger.claimedSum

namespace LpAccounting

variable {e e' : LpEpoch}

/-- **The step.** If the ledger made the event `a` and the stored aggregates
moved along, they are still the sums. -/
theorem step (h : LpAccounting e) {a : Act Address} (ha : a.Enabled MAGNITUDE e.ledger)
    (hl : e'.ledger = a.apply MAGNITUDE e.ledger)
    (ht : (e'.total_shares : ℤ) = e.total_shares + a.weight)
    (hc : (e'.total_shares : ℤ) * e'.index + e'.aggregate_correction.toInt
      = (e.total_shares : ℤ) * e.index + e.aggregate_correction.toInt
        + a.handed MAGNITUDE e.ledger)
    (hs : e'.lifetime_claimed = e.lifetime_claimed + a.paid) : LpAccounting e' := by
  have htot := ha.total_apply h.valid
  have hacc := ha.accruedSum_apply h.valid
  have hcla := ha.claimedSum_apply h.valid
  rw [← hl] at htot hacc hcla
  refine ⟨hl ▸ ha.valid h.valid, ?_, ?_, ?_⟩
  · have := h.total
    omega
  · rw [hc, hacc, h.aggregate]
  · rw [hs, hcla, h.settled]

/-- The vault's partition, of what was received and not claimed. -/
theorem partition (h : LpAccounting e) :
    e.ledger.liability MAGNITUDE + e.unallocated_rewards + e.ledger.reserve MAGNITUDE
      + e.lifetime_claimed = e.lifetime_received := by
  have hp := h.valid.partition MAGNITUDE_pos
  rw [← h.settled] at hp
  exact hp

theorem liability_nonneg (h : LpAccounting e) : 0 ≤ e.ledger.liability MAGNITUDE :=
  h.valid.liability_nonneg MAGNITUDE_pos

theorem pending_of_notMem (h : LpAccounting e) {a : Address} (ha : a ∉ e.positions) :
    e.pending a = 0 :=
  h.valid.pending_outside (by simpa using ha)

theorem shares_le (h : LpAccounting e) (a : Address) : (e.position a).shares ≤ e.total_shares := by
  by_cases ha : a ∈ e.positions
  · rw [h.total]
    exact Dividend.shares_le_total ((e.mem_holders a).mpr ha)
  · simp [LpEpoch.position_of_notMem ha]

end LpAccounting

/-! ## The effects as events -/

namespace LpEpoch

open lp_rewards (ensure_position)

variable {e : LpEpoch} {a : Address} {n : ℕ}

theorem mem_ensure_position (e : LpEpoch) (a : Address) : a ∈ (ensure_position e a).positions := by
  unfold ensure_position
  split
  · assumption
  · simp [Finmap.mem_insert]

@[simp] theorem position_ensure_position (e : LpEpoch) (a b : Address) :
    (ensure_position e a).position b = e.position b := by
  unfold ensure_position
  split
  · rfl
  · next ha =>
      rw [position_insert a rfl]
      split
      · next hb => rw [hb, position_of_notMem ha]
      · rfl

/-- A new position is all that changes. -/
theorem ensure_position_eq (e : LpEpoch) (a : Address) :
    ensure_position e a = { e with positions := (ensure_position e a).positions } := by
  unfold ensure_position
  split <;> rfl

theorem ledger_ensure_position (e : LpEpoch) (a : Address) :
    (ensure_position e a).ledger = (Act.enroll a).apply MAGNITUDE e.ledger := by
  have hk : (ensure_position e a).positions.keys = insert a e.positions.keys := by
    unfold ensure_position
    split
    · next ha => rw [Finset.insert_eq_self.mpr (Finmap.mem_keys.mpr ha)]
    · rw [Table.keys_insert]
  have hr := e.ensure_position_eq a
  have hi : (ensure_position e a).index = e.index := by rw [hr]
  refine Ledger.ext hk ?_ ?_ ?_ hi ?_ ?_ ?_ ?_
  · funext b
    simp [Act.apply]
  · funext b
    simp [Act.apply, hi]
  · funext b
    simp [Act.apply]
  all_goals
    rw [hr]
    rfl

/-- An epoch that differs from `e` in the position of `a` only, seen as a
ledger. -/
theorem ledger_insert (e₁ : LpEpoch) {p : LpPosition} (ha : a ∈ e.positions)
    (hp : e₁.positions = e.positions.insert a p) (hi : e₁.index = e.index)
    (hr : e₁.index_remainder = e.index_remainder)
    (hu : e₁.unallocated_rewards = e.unallocated_rewards)
    (hx : e₁.lifetime_received = e.lifetime_received) :
    e₁.ledger
      = { e.ledger with
          shares := Function.update e.ledger.shares a p.shares
          accrued := Function.update e.ledger.accrued a (p.shares * e.index + p.correction.toInt)
          claimed := Function.update e.ledger.claimed a p.claimed
          retired := e₁.retired_residue_magnified } := by
  refine Ledger.ext ?_ ?_ ?_ ?_ hi hr hu rfl hx
  · show e₁.positions.keys = _
    rw [hp, Table.keys_insert]
    exact Finset.insert_eq_self.mpr (Finmap.mem_keys.mpr ha)
  · funext b
    by_cases hb : b = a <;> simp [position_insert a hp, hb]
  · funext b
    by_cases hb : b = a <;> simp [position_insert a hp, hb, hi]
  · funext b
    by_cases hb : b = a <;> simp [position_insert a hp, hb]

theorem ledger_minted (ha : a ∈ e.positions) :
    (e.minted a n).ledger = (Act.give a n).apply MAGNITUDE e.ledger := by
  refine (ledger_insert (e.minted a n) ha rfl rfl rfl rfl rfl).trans
    (Ledger.ext rfl rfl ?_ ?_ rfl rfl rfl rfl rfl)
  · refine Function.update_eq_self_iff.mpr ?_
    simp only [SignedU256.toInt_ofInt, ledger_accrued]
    push_cast
    ring
  · exact Function.update_eq_self a _

theorem ledger_burned (ha : a ∈ e.positions) (hn : n ≤ (e.position a).shares) :
    (e.burned a n).ledger = (Act.take a n).apply MAGNITUDE e.ledger := by
  refine (ledger_insert (e.burned a n) ha rfl rfl rfl rfl rfl).trans
    (Ledger.ext rfl rfl ?_ ?_ rfl rfl rfl rfl rfl)
  · refine Function.update_eq_self_iff.mpr ?_
    simp only [SignedU256.toInt_ofInt, ledger_accrued]
    push_cast [Nat.cast_sub hn]
    ring
  · exact Function.update_eq_self a _

theorem ledger_paid (ha : a ∈ e.positions) :
    (e.paid a n).ledger = (Act.pay a n).apply MAGNITUDE e.ledger := by
  refine (ledger_insert (e.paid a n) ha rfl rfl rfl rfl rfl).trans
    (Ledger.ext rfl ?_ ?_ rfl rfl rfl rfl rfl rfl)
  · exact Function.update_eq_self a _
  · exact Function.update_eq_self a _

theorem ledger_normalized (ha : a ∈ e.positions) {r : ℕ} (c : ℕ) :
    (e.normalized a r c).ledger = (Act.retire a r).apply MAGNITUDE e.ledger := by
  refine (ledger_insert (e.normalized a r c) ha rfl rfl rfl rfl rfl).trans
    (Ledger.ext rfl ?_ ?_ ?_ rfl rfl rfl rfl rfl)
  · exact Function.update_eq_self a _
  · simp only [Act.apply, SignedU256.toInt_ofInt, ledger_accrued]
    congr 1
    ring
  · exact Function.update_eq_self a _

/-- **A reward is received.** If the index and its remainder move by what the
ledger says, every accumulator moves by its shares at that instant. -/
theorem ledger_indexed (ht : e.ledger.total ≠ 0) {i r : ℕ} (c : ℕ)
    (hi : i = e.index + e.ledger.increment MAGNITUDE n)
    (hr : r = (MAGNITUDE * n + e.index_remainder) % e.ledger.total) :
    (e.indexed n i r c).ledger = (Act.receive n).apply MAGNITUDE e.ledger := by
  rw [Act.apply, if_neg ht]
  refine Ledger.ext rfl rfl ?_ rfl hi hr rfl rfl rfl
  funext b
  have hp : (e.indexed n i r c).position b = e.position b := rfl
  have hidx : (e.indexed n i r c).index = i := rfl
  simp only [ledger_accrued, ledger_shares]
  rw [hidx, hp, hi]
  push_cast
  ring

end LpEpoch

namespace LpAccounting

open lp_rewards (ensure_position)

variable {e : LpEpoch} {a : Address} {n : ℕ}

theorem ensure_position (h : LpAccounting e) (a : Address) :
    LpAccounting (lp_rewards.ensure_position e a) := by
  have hr := e.ensure_position_eq a
  refine h.step (a := .enroll a) trivial (e.ledger_ensure_position a) ?_ ?_ ?_ <;> rw [hr] <;>
    simp [Act.weight, Act.handed, Act.paid]

theorem minted (h : LpAccounting e) (ha : a ∈ e.positions) : LpAccounting (e.minted a n) := by
  have hen : (Act.give a n).Enabled MAGNITUDE e.ledger := (e.mem_holders a).mpr ha
  refine h.step hen (LpEpoch.ledger_minted ha) ?_ ?_ rfl
  · simp [LpEpoch.minted, Act.weight]
  · simp only [LpEpoch.minted, SignedU256.toInt_ofInt, Act.handed]
    push_cast
    ring

theorem burned (h : LpAccounting e) (ha : a ∈ e.positions) (hn : n ≤ (e.position a).shares) :
    LpAccounting (e.burned a n) := by
  have hen : (Act.take a n).Enabled MAGNITUDE e.ledger := ⟨(e.mem_holders a).mpr ha, hn⟩
  have ht : ((e.total_shares - n : ℕ) : ℤ) = e.total_shares - n := by
    have := h.shares_le a
    omega
  refine h.step hen (LpEpoch.ledger_burned ha hn) ?_ ?_ rfl
  · simpa [LpEpoch.burned, Act.weight, sub_eq_add_neg] using ht
  · simp only [LpEpoch.burned, SignedU256.toInt_ofInt, Act.handed, ht]
    ring

theorem paid (h : LpAccounting e) (ha : a ∈ e.positions) (hn : n ≤ e.pending a) :
    LpAccounting (e.paid a n) := by
  have hen := h.valid.pay_enabled MAGNITUDE_pos ((e.mem_holders a).mpr ha) hn
  refine h.step hen (LpEpoch.ledger_paid ha) ?_ ?_ rfl
  · simp [LpEpoch.paid, Act.weight]
  · simp [LpEpoch.paid, Act.handed]

theorem normalized (h : LpAccounting e) {r : ℕ}
    (hen : (Act.retire a r).Enabled MAGNITUDE e.ledger) (c : ℕ) :
    LpAccounting (e.normalized a r c) := by
  refine h.step hen (LpEpoch.ledger_normalized ((e.mem_holders a).mp hen.1) c) ?_ ?_ rfl
  · simp [LpEpoch.normalized, Act.weight]
  · simp only [LpEpoch.normalized, SignedU256.toInt_ofInt, Act.handed]
    ring

theorem indexed (h : LpAccounting e) (ht : e.total_shares ≠ 0) {i r : ℕ}
    (hi : i = e.nextIndex n) (hr : r = e.nextRemainder n) (c : ℕ) :
    LpAccounting (e.indexed n i r c) := by
  have heq := h.total
  have ht' : e.ledger.total ≠ 0 := by rwa [← heq]
  rw [LpEpoch.nextRemainder, heq] at hr
  replace hi : i = e.index + e.ledger.increment MAGNITUDE n := by
    rw [hi, LpEpoch.nextIndex, heq, Ledger.increment, LpEpoch.ledger_remainder]
  refine h.step (a := .receive n) trivial (LpEpoch.ledger_indexed ht' c hi hr) ?_ ?_ rfl
  · simp [LpEpoch.indexed, Act.weight]
  · simp only [LpEpoch.indexed, Act.handed, if_neg ht', hi, heq]
    push_cast
    ring

end LpAccounting

end CedraReflect
