/-
The indexer's arithmetic on the ledgers' numbers.

The reducer recomputes what it is told: a wallet's pending reward, the pool's,
an owner's, the liabilities and the reserves. Each is a chain of checked
operations on unbounded integers that throws where Move would abort. On the
numbers of a legitimate ledger none of them throws, and each returns what the
ledger says ([`entitlement`], [`FitsMove.pending`], [`FitsMove.rounding`]).
-/
import CedraReflect.Mirror

set_option autoImplicit false
set_option linter.constructorNameAsVariable false

namespace CedraReflect

open Dividend (Ledger Act Valid Weighs)
open reflection_math (MAGNITUDE MAGNITUDE_pos)
open reflection_token (TOTAL_SUPPLY)

namespace indexer

/-! ## A ledger in Move's integers -/

/-- A legitimate ledger whose magnified numbers are a `u256`, with room for one
more addition. -/
structure FitsMove {ι : Type} (L : Ledger ι) : Prop where
  valid : Valid MAGNITUDE L
  index : L.index < 2 ^ 255
  total : L.total < 2 ^ 255
  worth : L.total * L.index < 2 ^ 255
  magnified : MAGNITUDE * L.received < 2 ^ 255

section Fits

variable {n m : ℕ}

theorem fits_256 (h : n < 2 ^ 256) : isMoveUnsigned n 256 := isMoveUnsigned_natCast.mpr h

/-- An amount that fits is reported as one. -/
theorem unsigned_fits {bits : ℕ} {label : Text} :
    (⟨n, .unsigned bits, label⟩ : Quantity).Fits ↔ n < 2 ^ bits := isMoveUnsigned_natCast

theorem fits_unsigned {bits : ℕ} {label : String} :
    (unsigned n bits label).Fits ↔ n < 2 ^ bits := isMoveUnsigned_natCast

theorem fits_256_of_le (hm : m < 2 ^ 255) (h : n ≤ m) : isMoveUnsigned n 256 :=
  fits_256 (by omega)

/-- A number between the two bounds of a correction. -/
theorem signed_of_bounds {z : ℤ} (hn : n < 2 ^ 255) (hm : m < 2 ^ 255) (hlo : -(n : ℤ) ≤ z)
    (hhi : z ≤ m) : isMoveSignedU256 z := by
  rw [isMoveSignedU256_iff]
  omega

end Fits

/-- What is paid out leaves the widths alone. -/
theorem FitsMove.congr {ι : Type} {L L' : Ledger ι} (h : FitsMove L) (hv : Valid MAGNITUDE L')
    (hindex : L'.index = L.index) (htotal : L'.total = L.total)
    (hreceived : L'.received = L.received) : FitsMove L' where
  valid := hv
  index := hindex ▸ h.index
  total := htotal ▸ h.total
  worth := by
    rw [htotal, hindex]
    exact h.worth
  magnified := hreceived ▸ h.magnified

namespace FitsMove

variable {ι : Type} [DecidableEq ι] {L : Ledger ι} (h : FitsMove L) (i : ι)

include h

omit [DecidableEq ι] in
theorem shares_le : L.shares i ≤ L.total := by
  by_cases hi : i ∈ L.holders
  · exact Dividend.shares_le_total hi
  · rw [(h.valid.outside i hi).1]
    exact Nat.zero_le _

theorem correction : isMoveSignedU256 (L.correction i) := by
  obtain ⟨hlo, hhi⟩ := h.valid.correction_bounds i
  exact signed_of_bounds h.worth h.magnified (by exact_mod_cast hlo) (by exact_mod_cast hhi)

/-- Those of a group together. -/
theorem correction_group (S : Finset ι) : isMoveSignedU256 (∑ i ∈ S, L.correction i) := by
  obtain ⟨hlo, hhi⟩ := h.valid.correction_group S
  exact signed_of_bounds h.worth h.magnified (by exact_mod_cast hlo) (by exact_mod_cast hhi)

theorem aggregate : isMoveSignedU256 L.aggregate := by
  obtain ⟨hlo, hhi⟩ := h.valid.aggregate_bounds
  exact signed_of_bounds h.worth h.magnified (by exact_mod_cast hlo) (by exact_mod_cast hhi)

omit [DecidableEq ι] in
theorem product : isMoveUnsigned ((L.shares i : ℤ) * L.index) 256 := by
  have hle := Nat.mul_le_mul_right L.index (h.shares_le i)
  exact_mod_cast fits_256_of_le h.worth hle

omit [DecidableEq ι] in
theorem claimed : isMoveUnsigned (L.claimed i) 256 := by
  have hpos := MAGNITUDE_pos
  have hle : L.claimed i ≤ MAGNITUDE * L.received := by
    have h₁ := h.valid.covered i
    have h₂ := h.valid.accrued_le i
    have h₃ : L.claimed i ≤ L.claimed i * MAGNITUDE := Nat.le_mul_of_pos_right _ hpos
    zify at h₃ ⊢
    linarith
  exact fits_256_of_le h.magnified hle

omit [DecidableEq ι] in
theorem claimedSum_le : L.claimedSum ≤ L.received := by
  have hp := h.valid.partition MAGNITUDE_pos
  have hl := h.valid.liability_nonneg MAGNITUDE_pos
  omega

omit [DecidableEq ι] in
theorem claimed_le_sum : L.claimed i ≤ L.claimedSum := by
  by_cases hi : i ∈ L.holders
  · exact Finset.single_le_sum (fun _ _ => Nat.zero_le _) hi
  · rw [(h.valid.outside i hi).2.2]
    exact Nat.zero_le _

omit [DecidableEq ι] in
theorem received_fits : isMoveUnsigned L.received 256 :=
  fits_256_of_le h.magnified (Nat.le_mul_of_pos_left _ MAGNITUDE_pos)

omit [DecidableEq ι] in
theorem retired_le : L.retired ≤ MAGNITUDE * L.received := by
  have hbalance := h.valid.balance
  have haccrued := h.valid.accruedSum_nonneg
  have hunallocated : (0 : ℤ) ≤ MAGNITUDE * L.unallocated := by positivity
  zify
  linarith

omit [DecidableEq ι] in
theorem claimedSum_fits : isMoveUnsigned L.claimedSum 256 :=
  fits_256_of_le h.magnified
    (h.claimedSum_le.trans (Nat.le_mul_of_pos_left _ MAGNITUDE_pos))

omit [DecidableEq ι] in
theorem claimed_group (S : Finset ι) : isMoveUnsigned (∑ i ∈ S, (L.claimed i : ℤ)) 256 := by
  have hle := (h.valid.claimed_group S).trans h.claimedSum_le
  exact_mod_cast fits_256_of_le h.magnified
    (hle.trans (Nat.le_mul_of_pos_left _ MAGNITUDE_pos))

/-- **A holder's entitlement** is the floor of its accumulator. -/
theorem entitlement : magnifiedEntitlement (L.shares i) L.index (L.correction i)
    = .ok (L.accrued i / MAGNITUDE) := by
  rw [magnifiedEntitlement_eq_ok, L.accrued_eq, REFLECTION_MAGNITUDE_eq]
  refine ⟨⟨by positivity, by positivity⟩, ⟨fits_256_of_le h.total (h.shares_le i),
    fits_256_of_le h.index le_rfl⟩, h.product i, h.correction i, ⟨h.valid.accrued_nonneg i, ?_⟩, rfl⟩
  have hle := h.valid.accrued_le i
  have hlt := h.magnified
  zify at hlt
  push_cast at hlt
  omega

/-- The entitlement of all holders together. -/
theorem entitlementSum : magnifiedEntitlement L.total L.index L.aggregate
    = .ok (L.accruedSum / MAGNITUDE) := by
  rw [magnifiedEntitlement_eq_ok, L.accruedSum_eq, REFLECTION_MAGNITUDE_eq]
  refine ⟨⟨by positivity, by positivity⟩, ⟨fits_256_of_le h.total le_rfl,
    fits_256_of_le h.index le_rfl⟩, by exact_mod_cast fits_256_of_le h.worth le_rfl, h.aggregate,
    ⟨h.valid.accruedSum_nonneg, ?_⟩, rfl⟩
  have hle := h.valid.accruedSum_le
  have hlt := h.magnified
  zify at hlt
  push_cast at hlt
  omega

omit [DecidableEq ι] in
/-- A quotient of something a `u256` is one. -/
theorem quotient_fits {z : ℤ} (hz : 0 ≤ z) (hle : z ≤ MAGNITUDE * L.received) :
    isMoveUnsigned (z / MAGNITUDE) 256 := by
  have hlt := h.magnified
  have hdiv : z / MAGNITUDE ≤ z := Int.ediv_le_self _ hz
  refine ⟨Int.ediv_nonneg hz (by positivity), ?_⟩
  zify at hlt
  push_cast at hlt
  omega

omit [DecidableEq ι] in
/-- **What is pending** is the entitlement less what was paid. -/
theorem pending (label : Text) :
    checkedMoveU256Subtract (L.accrued i / MAGNITUDE) (L.claimed i) label
      = .ok (L.pending MAGNITUDE i : ℤ) := by
  rw [checkedMoveU256Subtract_eq_ok]
  exact ⟨h.quotient_fits (h.valid.accrued_nonneg i) (h.valid.accrued_le i), h.claimed i,
    h.valid.claimed_le MAGNITUDE_pos i, h.valid.pending_eq MAGNITUDE_pos i⟩

omit [DecidableEq ι] in
theorem claimedSum_le_quotient : (L.claimedSum : ℤ) ≤ L.accruedSum / MAGNITUDE := by
  have hl := h.valid.liability_nonneg MAGNITUDE_pos
  unfold Ledger.liability at hl
  omega

omit [DecidableEq ι] in
theorem liability_le : L.liability MAGNITUDE ≤ L.received := by
  have hp := h.valid.partition MAGNITUDE_pos
  omega

omit [DecidableEq ι] in
theorem unallocated_le : L.unallocated ≤ L.received := by
  have hp := h.valid.partition MAGNITUDE_pos
  have hl := h.valid.liability_nonneg MAGNITUDE_pos
  omega

omit [DecidableEq ι] in
/-- **What is left over**, once the liability and what is set aside are taken
from the vault, is the ledger's reserve. -/
theorem rounding (label : Text) :
    checkedVaultRemainder ((L.received : ℤ) - L.claimedSum) (L.liability MAGNITUDE) L.unallocated
      label = .ok (L.reserve MAGNITUDE : ℤ) := by
  have hp := h.valid.partition MAGNITUDE_pos
  have hl := h.valid.liability_nonneg MAGNITUDE_pos
  have hr := h.received_fits.2
  rw [checkedVaultRemainder_eq_ok]
  unfold isMoveUnsigned
  omega

omit [DecidableEq ι] in
theorem reserve_le : L.reserve MAGNITUDE ≤ L.received := by
  have hp := h.valid.partition MAGNITUDE_pos
  have hl := h.valid.liability_nonneg MAGNITUDE_pos
  omega

end FitsMove

/-! ## Where the system stands -/

end indexer

namespace Stand.Sound

variable {s : Stand} (h : s.Sound)

include h

theorem core_fits : indexer.FitsMove s.core where
  valid := h.core
  index := h.index.trans_lt (by norm_num)
  total := h.total.trans_lt (by unfold TOTAL_SUPPLY; norm_num)
  worth := by
    have hle := Nat.mul_le_mul h.total h.index
    exact hle.trans_lt (by unfold TOTAL_SUPPLY; norm_num)
  magnified := by
    have hle := Nat.mul_le_mul_left MAGNITUDE h.received
    exact hle.trans_lt (by unfold MAGNITUDE; norm_num)

theorem epoch_fits : indexer.FitsMove s.epoch where
  valid := h.epoch
  index := h.lpIndex.trans_lt (by norm_num)
  total := h.lpTotal.trans_lt (by norm_num)
  worth := by
    have hle := Nat.mul_le_mul h.lpTotal h.lpIndex
    exact hle.trans_lt (by norm_num)
  magnified := by
    have hle := Nat.mul_le_mul_left MAGNITUDE h.lpReceived
    exact hle.trans_lt (by unfold MAGNITUDE; norm_num)

theorem shares_le (i : Option Address) : s.core.shares i ≤ TOTAL_SUPPLY :=
  (h.core_fits.shares_le i).trans h.total

end Stand.Sound

namespace indexer

namespace Follows

variable {s : Stand} {p : ProtocolProjection} {positions : OrderedMap Address IndexedLpPosition}

/-- A wallet's pending reward. -/
theorem walletPending (hs : FitsMove s.core) (a : Address) :
    indexer.walletPending (s.wallet a) s.core.index = .ok (s.core.pending MAGNITUDE (some a) : ℤ) := by
  rw [indexer.walletPending, bind_eq_ok]
  exact ⟨_, hs.entitlement (some a), hs.pending (some a) _⟩

/-- The pool's. -/
theorem custodyPending (h : Follows s p) (hs : FitsMove s.core) :
    indexer.custodyPending p = .ok (s.core.pending MAGNITUDE none : ℤ) := by
  rw [indexer.custodyPending, h.custody, h.currentIndex, bind_eq_ok]
  exact ⟨_, hs.entitlement none, hs.pending none _⟩

/-- An owner's. -/
theorem lpPositionPending (hs : FitsMove s.epoch) (a : Address) :
    indexer.lpPositionPending (s.owner a) (s.lpEpoch positions)
      = .ok (s.epoch.pending MAGNITUDE a : ℤ) := by
  rw [indexer.lpPositionPending, bind_eq_ok]
  exact ⟨_, hs.entitlement a, hs.pending a _⟩

/-- What the wallets were paid is what everybody was paid but the pool. -/
theorem materialized_eq (h : Follows s p) : p.lifetimeMaterialized
    = s.core.claimedSum - s.core.claimed none := by
  have hlifetime := h.lifetimeMaterialized
  linarith

/-- The two settlements of the core's liability and of its vault. -/
theorem settlements {gross : ℤ} (h : Follows s p) (hs : FitsMove s.core)
    (hgross : isMoveUnsigned gross 256) (hle : (s.core.claimedSum : ℤ) ≤ gross)
    (label label' : Text) :
    (do
      let unsettled ← checkedMoveU256Subtract gross p.lifetimeMaterialized label
      checkedMoveU256Subtract unsettled p.lifetimeCustodyRouted label')
      = .ok (gross - s.core.claimedSum) := by
  have hrouted := hs.claimed_le_sum none
  have hclaimed := hs.claimedSum_fits
  rw [bind_eq_ok, h.materialized_eq, h.lifetimeCustodyRouted]
  simp only [checkedMoveU256Subtract_eq_ok]
  unfold isMoveUnsigned at *
  exact ⟨_, ⟨hgross, by omega, by omega, rfl⟩, by omega, by omega, by omega, by omega⟩

theorem coreIndexedLiability (h : Follows s p) (hs : FitsMove s.core) :
    indexer.coreIndexedLiability p = .ok (s.core.liability MAGNITUDE) := by
  rw [indexer.coreIndexedLiability, h.eligibleSupply, h.currentIndex, h.aggregateCorrection,
    hs.entitlementSum]
  exact h.settlements hs (hs.quotient_fits hs.valid.accruedSum_nonneg hs.valid.accruedSum_le)
    hs.claimedSum_le_quotient _ _

theorem expectedCoreVaultBalance (h : Follows s p) (hs : FitsMove s.core) :
    indexer.expectedCoreVaultBalance p = .ok ((s.core.received : ℤ) - s.core.claimedSum) := by
  rw [indexer.expectedCoreVaultBalance, h.lifetimeSwapFees]
  exact h.settlements hs hs.received_fits (by exact_mod_cast hs.claimedSum_le) _ _

end Follows

section Epoch

variable {s : Stand} {positions : OrderedMap Address IndexedLpPosition}

theorem lpIndexedLiability_lpEpoch (h : FitsMove s.epoch) :
    lpIndexedLiability (s.lpEpoch positions) = .ok (s.epoch.liability MAGNITUDE) := by
  rw [lpIndexedLiability, bind_eq_ok]
  refine ⟨_, h.entitlementSum, ?_⟩
  rw [checkedMoveU256Subtract_eq_ok]
  exact ⟨h.quotient_fits h.valid.accruedSum_nonneg h.valid.accruedSum_le, h.claimedSum_fits,
    h.claimedSum_le_quotient, rfl⟩

theorem expectedLpVaultBalance_lpEpoch (h : FitsMove s.epoch) :
    expectedLpVaultBalance (s.lpEpoch positions)
      = .ok ((s.epoch.received : ℤ) - s.epoch.claimedSum) := by
  rw [expectedLpVaultBalance, checkedMoveU256Subtract_eq_ok]
  exact ⟨h.received_fits, h.claimedSum_fits, Int.ofNat_le.mpr h.claimedSum_le, rfl⟩

/-- The reserve that an epoch writes down is the one its books leave. -/
theorem epochRounding_lpEpoch (h : FitsMove s.epoch) (label : Text) :
    epochRounding (s.lpEpoch positions) label = .ok (s.epoch.reserve MAGNITUDE : ℤ) := by
  rw [epochRounding, lpIndexedLiability_lpEpoch h, expectedLpVaultBalance_lpEpoch h]
  exact h.rounding label

end Epoch

end indexer

end CedraReflect
