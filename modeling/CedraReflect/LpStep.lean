/-
The invariant of an LP epoch, and that every effect keeps it.

[`Books`] adds to the sums what the pool relies on: nothing is set aside or
quarantined, the stored reserve is the ledger's, and a position without shares
is owed exactly nothing, not even a fraction. The last point is what an owner
who leaves is normalized for, and what makes the terminal accounting close.
-/
import CedraReflect.LpLedger

set_option autoImplicit false
set_option linter.constructorNameAsVariable false

namespace CedraReflect

open Dividend (Ledger Act Valid Run)
open reflection_math (MAGNITUDE MAGNITUDE_pos)
open lp_rewards (ensure_position)

/-- The invariant of the epoch. -/
structure Books (e : LpEpoch) : Prop where
  accounting : LpAccounting e
  rounding : e.rounding_reserve = e.ledger.reserve MAGNITUDE
  idle : ∀ a, (e.position a).shares = 0 →
    (e.position a).correction.toInt = (e.position a).claimed * MAGNITUDE
  unallocated : e.unallocated_rewards = 0
  healthy : e.quarantined = false
  vault : e.reward_vault = .lp_reward_vault

/-- The events `bs` of the ledger lead from `e` to `e'`. -/
structure LpStep (bs : List (Act Address)) (e e' : LpEpoch) : Prop where
  books : Books e'
  run : Run MAGNITUDE e.ledger bs e'.ledger

namespace LpStep

variable {e e' e'' : LpEpoch} {as bs : List (Act Address)}

theorem refl (h : Books e) : LpStep [] e e := ⟨h, .nil _⟩

theorem trans (h : LpStep as e e') (h' : LpStep bs e' e'') : LpStep (as ++ bs) e e'' :=
  ⟨h'.books, h.run.append h'.run⟩

end LpStep

namespace LpEpoch

variable (e : LpEpoch) (a b : Address) (n : ℕ)

/-! ## Exits -/

/-- The reserve the ledger names once `r` more magnified units are retired. -/
def retiredReserve (r : ℕ) : ℕ :=
  (e.index_remainder + (e.retired_residue_magnified + r) + (MAGNITUDE - 1)) / MAGNITUDE

/-- `normalize_zero_position`. -/
def settled : LpEpoch :=
  if e.residue a = 0 then e else e.normalized a (e.residue a) (e.retiredReserve (e.residue a))

/-- The events of a normalization. -/
def retirement : List (Act Address) :=
  if e.residue a = 0 then [] else [.retire a (e.residue a)]

/-- A position that has lost shares, normalized if it has lost them all. -/
def exited : LpEpoch := if (e.position a).shares = 0 then e.settled a else e

def exit : List (Act Address) := if (e.position a).shares = 0 then e.retirement a else []

/-- `receive_routed_reward`. -/
def received : LpEpoch :=
  e.indexed n (e.nextIndex n) (e.nextRemainder n)
    ((e.nextRemainder n + e.retired_residue_magnified + (MAGNITUDE - 1)) / MAGNITUDE)

/-- `mark_active_claim_only`. -/
def closed : LpEpoch :=
  { e with terminal_rounding_reserve := e.rounding_reserve, status := .CLAIM_ONLY }

/-- `burn_active`. -/
def withdrawn : LpEpoch := ((ensure_position e a).burned a n).exited a

/-- `transfer_active`. -/
def transferred : LpEpoch :=
  (((ensure_position (ensure_position e a) b).burned a n).minted b n).exited a

end LpEpoch

/-! ## The effects as steps -/

/-- The invariant but for the fraction of a unit that `a` may still be owed. -/
structure OpenFor (a : Address) (e : LpEpoch) : Prop where
  accounting : LpAccounting e
  rounding : e.rounding_reserve = e.ledger.reserve MAGNITUDE
  idle : ∀ b, b ≠ a → (e.position b).shares = 0 →
    (e.position b).correction.toInt = (e.position b).claimed * MAGNITUDE
  unallocated : e.unallocated_rewards = 0
  healthy : e.quarantined = false
  vault : e.reward_vault = .lp_reward_vault

namespace LpEpoch

variable {e : LpEpoch} {a b : Address} {n : ℕ}

theorem position_minted :
    (e.minted a n).position b
      = if b = a then
          ⟨(e.position a).shares + n, .ofInt ((e.position a).correction.toInt - n * e.index),
            (e.position a).claimed⟩
        else e.position b :=
  position_insert a rfl

theorem position_burned :
    (e.burned a n).position b
      = if b = a then
          ⟨(e.position a).shares - n, .ofInt ((e.position a).correction.toInt + n * e.index),
            (e.position a).claimed⟩
        else e.position b :=
  position_insert a rfl

theorem position_paid :
    (e.paid a n).position b
      = if b = a then { e.position a with claimed := (e.position a).claimed + n }
        else e.position b :=
  position_insert a rfl

theorem position_normalized (r c : ℕ) :
    (e.normalized a r c).position b
      = if b = a then { e.position a with correction := .ofInt ((e.position a).correction.toInt - r) }
        else e.position b :=
  position_insert a rfl

/-- An exit moves no shares. -/
@[simp] theorem shares_exited : ((e.exited a).position b).shares = (e.position b).shares := by
  unfold exited settled
  split_ifs with h₁ h₂
  · rfl
  · rw [position_normalized]
    by_cases hb : b = a
    · rw [if_pos hb, hb]
    · rw [if_neg hb]
  · rfl

theorem shares_withdrawn :
    ((e.withdrawn a n).position b).shares
      = if b = a then (e.position a).shares - n else (e.position b).shares := by
  rw [withdrawn, shares_exited, position_burned, position_ensure_position, position_ensure_position]
  by_cases hb : b = a
  · rw [if_pos hb, if_pos hb]
  · rw [if_neg hb, if_neg hb]

theorem shares_transferred {c : Address} (hab : b ≠ a) :
    ((e.transferred a b n).position c).shares
      = if c = a then (e.position a).shares - n
        else if c = b then (e.position b).shares + n else (e.position c).shares := by
  rw [transferred, shares_exited, position_minted, position_burned, position_burned,
    position_ensure_position, position_ensure_position, position_ensure_position,
    position_ensure_position, position_ensure_position, position_ensure_position]
  by_cases hb : c = b
  · rw [if_pos hb, hb, if_neg hab, if_neg hab, if_pos rfl]
  · rw [if_neg hb, if_neg hb]
    by_cases ha : c = a
    · rw [if_pos ha, if_pos ha]
    · rw [if_neg ha, if_neg ha]

/-- Nobody is owed anything on no shares. -/
theorem pending_idle (h : Books e) (hs : (e.position a).shares = 0) : e.pending a = 0 := by
  have hp := h.accounting.valid.pending_eq MAGNITUDE_pos a
  have hM : (MAGNITUDE : ℤ) ≠ 0 := by exact_mod_cast MAGNITUDE_pos.ne'
  rw [ledger_accrued, h.idle a hs, hs, ledger_claimed, Nat.cast_zero, zero_mul, zero_add,
    Int.mul_ediv_cancel _ hM] at hp
  unfold pending
  omega

/-- What one position loses and another gains, the aggregates do not see. -/
theorem burned_minted (hab : b ≠ a) (hn : n ≤ e.total_shares) :
    (e.burned a n).minted b n
      = { e with
          positions := (e.positions.insert a
            ⟨(e.position a).shares - n, .ofInt ((e.position a).correction.toInt + n * e.index),
              (e.position a).claimed⟩).insert b
            ⟨(e.position b).shares + n, .ofInt ((e.position b).correction.toInt - n * e.index),
              (e.position b).claimed⟩ } := by
  have hp : (e.burned a n).position b = e.position b := by rw [position_burned, if_neg hab]
  unfold minted
  rw [hp]
  simp [burned, Nat.sub_add_cancel hn]

end LpEpoch

namespace OpenFor

variable {e : LpEpoch} {a b : Address} {n : ℕ}

theorem minted (h : OpenFor a e) (hb : b ∈ e.positions) (hn : 0 < n) :
    OpenFor a (e.minted b n) := by
  refine ⟨h.accounting.minted hb, h.rounding, fun c hc => ?_, h.unallocated, h.healthy, h.vault⟩
  rw [LpEpoch.position_minted]
  split
  · intro hs
    dsimp only at hs
    omega
  · exact h.idle c hc

/-- **The exit.** An owner left without shares and without a whole unit of
pending reward gives up less than one unit, after which it is owed nothing. -/
theorem exited (h : OpenFor a e) (ha : a ∈ e.positions)
    (hp : (e.position a).shares = 0 → e.pending a = 0) : LpStep (e.exit a) e (e.exited a) := by
  -- A position is at rest once its correction is what was claimed.
  have hclose : ∀ hid : (e.position a).shares = 0 →
      (e.position a).correction.toInt = (e.position a).claimed * MAGNITUDE, Books e := by
    intro hid
    refine ⟨h.accounting, h.rounding, fun b hs => ?_, h.unallocated, h.healthy, h.vault⟩
    by_cases hb : b = a
    · rw [hb] at hs ⊢
      exact hid hs
    · exact h.idle b hb hs
  unfold LpEpoch.exited LpEpoch.exit
  split
  · next hs =>
      have hcov := h.accounting.valid.covered a
      have hpe := h.accounting.valid.pending_eq MAGNITUDE_pos a
      have hz : e.ledger.pending MAGNITUDE a = 0 := hp hs
      rw [hz] at hpe
      simp only [LpEpoch.ledger_accrued, LpEpoch.ledger_claimed, hs, Nat.cast_zero, zero_mul,
        zero_add] at hcov hpe
      have hdm := Int.mul_ediv_add_emod (e.position a).correction.toInt MAGNITUDE
      have hlt := Int.emod_lt_of_pos (e.position a).correction.toInt
        (by exact_mod_cast MAGNITUDE_pos : (0 : ℤ) < MAGNITUDE)
      have hr : (e.residue a : ℤ)
          = (e.position a).correction.toInt - (e.position a).claimed * MAGNITUDE := by
        unfold LpEpoch.residue
        omega
      unfold LpEpoch.settled LpEpoch.retirement
      split
      · next hr0 =>
          refine .refl (hclose fun _ => ?_)
          rw [hr0] at hr
          push_cast at hr
          linarith
      · have hrM : e.residue a < MAGNITUDE := by
          have : (e.residue a : ℤ) < MAGNITUDE := by
            rw [hr]
            nlinarith
          exact_mod_cast this
        have hen : (Act.retire a (e.residue a)).Enabled MAGNITUDE e.ledger := by
          refine ⟨(e.mem_holders a).mpr ha, hs, hrM, ?_⟩
          simp only [LpEpoch.ledger_accrued, LpEpoch.ledger_claimed, hs]
          push_cast
          linarith
        have hl := LpEpoch.ledger_normalized ha (r := e.residue a) (e.retiredReserve (e.residue a))
        refine ⟨⟨h.accounting.normalized hen _, ?_, fun b hb => ?_, h.unallocated, h.healthy,
          h.vault⟩, hl ▸ .single hen⟩
        · rw [hl]
          rfl
        · rw [LpEpoch.position_normalized] at hb ⊢
          split
          · simp only [SignedU256.toInt_ofInt, hr]
            ring
          · next hne =>
              rw [if_neg hne] at hb
              exact h.idle b hne hb
  · next hs => exact .refl (hclose fun h0 => absurd h0 hs)

end OpenFor

namespace Books

variable {e : LpEpoch} {a b : Address} {n : ℕ}

theorem openFor (h : Books e) (a : Address) : OpenFor a e :=
  ⟨h.accounting, h.rounding, fun b _ => h.idle b, h.unallocated, h.healthy, h.vault⟩

theorem step_ensure_position (h : Books e) (a : Address) :
    LpStep [.enroll a] e (ensure_position e a) := by
  have hr := e.ensure_position_eq a
  refine ⟨⟨h.accounting.ensure_position a, ?_, fun b => ?_, ?_, ?_, ?_⟩, ?_⟩
  · rw [e.ledger_ensure_position, hr]
    exact h.rounding
  · rw [LpEpoch.position_ensure_position]
    exact h.idle b
  · rw [hr]
    exact h.unallocated
  · rw [hr]
    exact h.healthy
  · rw [hr]
    exact h.vault
  · rw [e.ledger_ensure_position]
    exact .single trivial

theorem step_minted (h : Books e) (hn : 0 < n) :
    LpStep [.enroll a, .give a n] e ((ensure_position e a).minted a n) := by
  have h₁ := h.step_ensure_position a
  have ha := e.mem_ensure_position a
  refine h₁.trans ⟨?_, LpEpoch.ledger_minted ha ▸ .single ((LpEpoch.mem_holders _ a).mpr ha)⟩
  have ho := (h₁.books.openFor a).minted ha hn
  refine ⟨ho.accounting, ho.rounding, fun b hs => ?_, ho.unallocated, ho.healthy, ho.vault⟩
  by_cases hb : b = a
  · rw [hb, LpEpoch.position_minted, if_pos rfl] at hs
    dsimp only at hs
    omega
  · exact ho.idle b hb hs

theorem burned (h : Books e) (ha : a ∈ e.positions) (hn : n ≤ (e.position a).shares) :
    OpenFor a (e.burned a n) := by
  refine ⟨h.accounting.burned ha hn, ?_, fun b hb => ?_, h.unallocated, h.healthy, h.vault⟩
  · rw [LpEpoch.ledger_burned ha hn]
    exact h.rounding
  · rw [LpEpoch.position_burned, if_neg hb]
    exact h.idle b

/-- Giving up shares does not change what is pending. -/
theorem pending_burned (ha : a ∈ e.positions) (hn : n ≤ (e.position a).shares) :
    (e.burned a n).pending b = e.pending b := by
  rw [LpEpoch.pending, LpEpoch.ledger_burned ha hn]
  rfl

theorem pending_minted (ha : a ∈ e.positions) : (e.minted a n).pending b = e.pending b := by
  rw [LpEpoch.pending, LpEpoch.ledger_minted ha]
  rfl

theorem pending_ensure_position : (ensure_position e a).pending b = e.pending b := by
  rw [LpEpoch.pending, e.ledger_ensure_position]
  rfl

/-- Shares that are burned: a loss of weight, and the exit of an owner that
keeps none. -/
theorem step_withdrawn (h : Books e) (hn : n ≤ (e.position a).shares)
    (hp : n = (e.position a).shares → e.pending a = 0) :
    LpStep ([.enroll a, .take a n] ++ ((ensure_position e a).burned a n).exit a) e
      (e.withdrawn a n) := by
  have h₁ := h.step_ensure_position a
  have ha := e.mem_ensure_position a
  have hn' : n ≤ ((ensure_position e a).position a).shares := by simpa using hn
  have ho := h₁.books.burned ha hn'
  have hx := ho.exited (Finmap.mem_insert.mpr (.inl rfl)) (fun hs => ?_)
  · have hrun : Run MAGNITUDE (ensure_position e a).ledger [.take a n]
        ((ensure_position e a).burned a n).ledger :=
      LpEpoch.ledger_burned ha hn' ▸ .single ⟨(LpEpoch.mem_holders _ a).mpr ha, hn'⟩
    exact ⟨hx.books, (h₁.run.append hrun).append hx.run⟩
  · rw [LpEpoch.position_burned, if_pos rfl, LpEpoch.position_ensure_position] at hs
    dsimp only at hs
    rw [pending_burned ha hn', pending_ensure_position]
    exact hp (by omega)

/-- `ensure_position` of both ends of a transfer. -/
theorem mem_ensure_positions (e : LpEpoch) (a b : Address) :
    a ∈ (ensure_position (ensure_position e a) b).positions := by
  rw [← Finmap.mem_keys]
  have hk := congrArg Ledger.holders ((ensure_position e a).ledger_ensure_position b)
  have hm : a ∈ ((Act.enroll b).apply MAGNITUDE (ensure_position e a).ledger).holders :=
    Finset.mem_insert_of_mem ((LpEpoch.mem_holders _ a).mpr (e.mem_ensure_position a))
  rw [← hk] at hm
  exact hm

/-- Shares that change hands. -/
theorem step_transferred (h : Books e) (hab : b ≠ a) (hn0 : 0 < n)
    (hn : n ≤ (e.position a).shares) (hp : n = (e.position a).shares → e.pending a = 0) :
    LpStep ([.enroll a, .enroll b, .take a n, .give b n]
        ++ (((ensure_position (ensure_position e a) b).burned a n).minted b n).exit a) e
      (e.transferred a b n) := by
  have h₁ := h.step_ensure_position a
  have h₂ := h₁.books.step_ensure_position b
  have ha := mem_ensure_positions e a b
  have hb := (ensure_position e a).mem_ensure_position b
  have hn' : n ≤ ((ensure_position (ensure_position e a) b).position a).shares := by simpa using hn
  have hb' : b ∈ ((ensure_position (ensure_position e a) b).burned a n).positions :=
    Finmap.mem_insert.mpr (.inr hb)
  have ha' : a ∈ (((ensure_position (ensure_position e a) b).burned a n).minted b n).positions :=
    Finmap.mem_insert.mpr (.inr (Finmap.mem_insert.mpr (.inl rfl)))
  have ho := (h₂.books.burned ha hn').minted hb' hn0
  have hx := ho.exited ha' (fun hs => ?_)
  · -- The ledger's run: the sender's shares are taken, and given to the recipient.
    have hr₁ : Run MAGNITUDE (ensure_position (ensure_position e a) b).ledger [.take a n]
        ((ensure_position (ensure_position e a) b).burned a n).ledger :=
      LpEpoch.ledger_burned ha hn' ▸ .single ⟨(LpEpoch.mem_holders _ a).mpr ha, hn'⟩
    have hr₂ : Run MAGNITUDE ((ensure_position (ensure_position e a) b).burned a n).ledger
        [.give b n]
        (((ensure_position (ensure_position e a) b).burned a n).minted b n).ledger :=
      LpEpoch.ledger_minted hb' ▸ .single ((LpEpoch.mem_holders _ b).mpr hb')
    exact ⟨hx.books, (((h₁.run.append h₂.run).append hr₁).append hr₂).append hx.run⟩
  · rw [LpEpoch.position_minted, if_neg hab.symm, LpEpoch.position_burned, if_pos rfl] at hs
    simp only [LpEpoch.position_ensure_position] at hs
    rw [pending_minted hb', pending_burned ha hn', pending_ensure_position,
      pending_ensure_position]
    exact hp (by omega)

/-- Whole units that are paid out. -/
theorem step_paid (h : Books e) (hn0 : 0 < n) (hn : n ≤ e.pending a) :
    LpStep [.pay a n] e (e.paid a n) := by
  have ha : a ∈ e.positions := by
    by_contra hne
    rw [h.accounting.pending_of_notMem hne] at hn
    omega
  have hs : (e.position a).shares ≠ 0 := by
    intro hs
    rw [LpEpoch.pending_idle h hs] at hn
    omega
  have hen := h.accounting.valid.pay_enabled MAGNITUDE_pos ((e.mem_holders a).mpr ha) hn
  refine ⟨⟨h.accounting.paid ha hn, ?_, fun b hb => ?_, h.unallocated, h.healthy, h.vault⟩,
    LpEpoch.ledger_paid ha ▸ .single hen⟩
  · rw [LpEpoch.ledger_paid ha]
    exact h.rounding
  · rw [LpEpoch.position_paid] at hb ⊢
    split at hb
    · exact absurd hb hs
    · next hne =>
        rw [if_neg hne]
        exact h.idle b hb

theorem step_indexed (h : Books e) (ht : e.total_shares ≠ 0) {i r c : ℕ} (hi : i = e.nextIndex n)
    (hr : r = e.nextRemainder n)
    (hc : c = (r + e.retired_residue_magnified + (MAGNITUDE - 1)) / MAGNITUDE) :
    LpStep [.receive n] e (e.indexed n i r c) := by
  have heq := h.accounting.total
  have hl : (e.indexed n i r c).ledger = (Act.receive n).apply MAGNITUDE e.ledger := by
    refine LpEpoch.ledger_indexed (heq ▸ ht) c ?_ ?_
    · rw [hi, LpEpoch.nextIndex, heq, Ledger.increment, LpEpoch.ledger_remainder]
    · rw [hr, LpEpoch.nextRemainder, heq]
  exact ⟨⟨h.accounting.indexed ht hi hr c, hc, h.idle, h.unallocated, h.healthy, h.vault⟩,
    hl ▸ .single trivial⟩

theorem step_received (h : Books e) (ht : e.total_shares ≠ 0) :
    LpStep [.receive n] e (e.received n) := h.step_indexed ht rfl rfl rfl

theorem step_closed (h : Books e) : LpStep [] e e.closed :=
  ⟨⟨⟨h.accounting.valid, h.accounting.total, h.accounting.aggregate, h.accounting.settled⟩,
    h.rounding, h.idle, h.unallocated, h.healthy, h.vault⟩, .nil _⟩

/-- **Nothing is owed on no shares.** When the last share is gone the aggregate
is what was paid, to the last magnified unit. -/
theorem liability_eq_zero (h : Books e) (ht : e.total_shares = 0) :
    e.ledger.liability MAGNITUDE = 0 := by
  have hM : (MAGNITUDE : ℤ) ≠ 0 := by exact_mod_cast MAGNITUDE_pos.ne'
  have hsum : e.ledger.accruedSum = e.ledger.claimedSum * MAGNITUDE := by
    rw [Ledger.accruedSum, Ledger.claimedSum]
    push_cast
    rw [Finset.sum_mul]
    refine Finset.sum_congr rfl fun a _ => ?_
    have hs : (e.position a).shares = 0 := by
      have := h.accounting.shares_le a
      omega
    rw [LpEpoch.ledger_accrued, h.idle a hs, hs, LpEpoch.ledger_claimed]
    ring
  rw [Ledger.liability, hsum, Int.mul_ediv_cancel _ hM, sub_self]

end Books

end CedraReflect
