/-
`SignedU256` is integer arithmetic on all of its machine domain, and so are the
indexer's helpers for it.

A pair whose magnitude is a `u256` is updated to the pair of the integer result,
or the update aborts, and it aborts exactly when the magnitude of that result is
no `u256`. No other sum is computed on the way: where the code adds two
magnitudes, the signs agree and the sum is the magnitude of the result. The
helpers take a `bigint` for the pair, and a `bigint` is accepted when some pair
stands for it.
-/
import CedraReflect.MoveDomains

set_option autoImplicit false

namespace CedraReflect

variable {σ : Type}

/-- A checked result is returned if it fits, and is an overflow otherwise. -/
theorem checked_machine (m : Module) (bits n : ℕ) (s : σ) :
    checked m bits n .machine s = if n < 2 ^ bits then .ok (n, s) else .error (.overflow m) := by
  by_cases hfits : n < 2 ^ bits
  · simp only [checked, Tx.asks, Tx.require, Arithmetic.fits, hfits, bind, ReaderT.bind,
      StateT.bind, Except.bind]
    rfl
  · simp [checked, Tx.asks, Tx.require, Tx.abort, Arithmetic.fits, hfits, bind, ReaderT.bind,
      StateT.bind, Except.bind]

namespace SignedU256

variable {x : SignedU256} {z : ℤ} {n : ℕ}

theorem toInt_of_negative (h : x.negative = true) : x.toInt = -(x.magnitude : ℤ) := if_pos h

theorem toInt_of_not_negative (h : ¬ x.negative = true) : x.toInt = x.magnitude := if_neg h

theorem natAbs_toInt (x : SignedU256) : x.toInt.natAbs = x.magnitude := by
  by_cases hneg : x.negative = true
  · rw [toInt_of_negative hneg, Int.natAbs_neg, Int.natAbs_natCast]
  · rw [toInt_of_not_negative hneg, Int.natAbs_natCast]

/-- The pair of a number below zero. -/
theorem ofInt_negative (hc : n = 0 → true = false) (h : z = -(n : ℤ)) : ofInt z = ⟨true, n, hc⟩ := by
  rw [eq_comm, eq_ofInt_iff, h]
  exact toInt_of_negative rfl

/-- The pair of any other. -/
theorem ofInt_nonnegative (hc : n = 0 → false = false) (h : z = n) : ofInt z = ⟨false, n, hc⟩ := by
  rw [eq_comm, eq_ofInt_iff, h]
  exact toInt_of_not_negative Bool.false_ne_true

/-- Where the signs agree the magnitudes are added. -/
theorem natAbs_add (h : ¬ x.negative = true) (d : ℕ) :
    (x.toInt + d).natAbs = x.magnitude + d := by
  rw [toInt_of_not_negative h]
  omega

theorem natAbs_sub (h : x.negative = true) (d : ℕ) : (x.toInt - d).natAbs = x.magnitude + d := by
  rw [toInt_of_negative h]
  omega

end SignedU256

/-! ## In Move -/

namespace reflection_math

open SignedU256 (ofInt)

variable {x : SignedU256} {d : ℕ}

theorem u256_machine (n : ℕ) (s : σ) : (u256 n : Tx Arithmetic σ Abort ℕ) .machine s =
    if n < 2 ^ 256 then .ok (n, s) else .error (.overflow .reflection_math) :=
  checked_machine .reflection_math 256 n s

/-- The branch that adds two magnitudes. -/
theorem added_eq (n : ℕ) (f : ℕ → SignedU256) (s : σ) :
    (u256 n >>= fun magnitude => pure (f magnitude) : Tx Arithmetic σ Abort SignedU256) .machine s
      = if n < 2 ^ 256 then .ok (f n, s) else .error (.overflow .reflection_math) := by
  change ((u256 n : Tx Arithmetic σ Abort ℕ) .machine s >>= _) = _
  rw [u256_machine]
  by_cases hfits : n < 2 ^ 256
  · rw [if_pos hfits, if_pos hfits]
    rfl
  · rw [if_neg hfits, if_neg hfits]
    rfl

/-- **Addition.** Crossing zero takes three branches: the sign stays, turns or goes. -/
theorem add_unsigned_eq (hx : x.magnitude < 2 ^ 256) (hd : d < 2 ^ 256) (s : σ) :
    add_unsigned x d .machine s =
      if (x.toInt + d).natAbs < 2 ^ 256 then .ok (ofInt (x.toInt + d), s)
      else .error (.overflow .reflection_math) := by
  rw [add_unsigned]
  by_cases hzero : d = 0
  · have hsame : x.toInt + d = x.toInt := by omega
    rw [if_pos hzero, hsame, SignedU256.natAbs_toInt, if_pos hx, SignedU256.ofInt_toInt]
    rfl
  rw [if_neg hzero]
  -- A pair that is negative comes closer to zero, and past it, by at most the amount.
  by_cases hneg : x.negative = true
  · have hint := SignedU256.toInt_of_negative hneg
    have hfits : (x.toInt + d).natAbs < 2 ^ 256 := by omega
    rw [if_pos hneg, if_pos hfits]
    by_cases hgt : x.magnitude > d
    · rw [dif_pos hgt, SignedU256.ofInt_negative (n := x.magnitude - d) (by omega) (by omega)]
      rfl
    rw [dif_neg hgt]
    by_cases hlt : x.magnitude < d
    · rw [if_pos hlt, SignedU256.ofInt_nonnegative (n := d - x.magnitude) (fun _ => rfl) (by omega)]
      rfl
    · rw [if_neg hlt, SignedU256.ofInt_nonnegative (n := 0) (fun _ => rfl) (by omega)]
      rfl
  · have hint := SignedU256.toInt_of_not_negative hneg
    rw [if_neg hneg, SignedU256.natAbs_add hneg,
      SignedU256.ofInt_nonnegative (n := x.magnitude + d) (fun _ => rfl) (by omega)]
    exact added_eq _ (fun magnitude => ⟨false, magnitude, fun _ => rfl⟩) s

/-- **Subtraction.** Here a pair that is not negative crosses zero. -/
theorem subtract_unsigned_eq (hx : x.magnitude < 2 ^ 256) (hd : d < 2 ^ 256) (s : σ) :
    subtract_unsigned x d .machine s =
      if (x.toInt - d).natAbs < 2 ^ 256 then .ok (ofInt (x.toInt - d), s)
      else .error (.overflow .reflection_math) := by
  rw [subtract_unsigned]
  by_cases hzero : d = 0
  · have hsame : x.toInt - d = x.toInt := by omega
    rw [dif_pos hzero, hsame, SignedU256.natAbs_toInt, if_pos hx, SignedU256.ofInt_toInt]
    rfl
  rw [dif_neg hzero]
  -- Here it is a negative pair whose magnitude grows.
  by_cases hneg : x.negative = true
  · have hint := SignedU256.toInt_of_negative hneg
    have hpair : ∀ h, ofInt (x.toInt - d) = ⟨true, x.magnitude + d, h⟩ := fun h =>
      SignedU256.ofInt_negative h (by omega)
    rw [if_pos hneg, SignedU256.natAbs_sub hneg, hpair (by omega)]
    exact added_eq _ (fun _ => ⟨true, x.magnitude + d, by omega⟩) s
  · have hint := SignedU256.toInt_of_not_negative hneg
    have hfits : (x.toInt - d).natAbs < 2 ^ 256 := by omega
    rw [if_neg hneg, if_pos hfits]
    by_cases hgt : x.magnitude > d
    · rw [if_pos hgt, SignedU256.ofInt_nonnegative (n := x.magnitude - d) (fun _ => rfl) (by omega)]
      rfl
    rw [if_neg hgt]
    by_cases hlt : x.magnitude < d
    · rw [dif_pos hlt, SignedU256.ofInt_negative (n := d - x.magnitude) (by omega) (by omega)]
      rfl
    · rw [dif_neg hlt, SignedU256.ofInt_nonnegative (n := 0) (fun _ => rfl) (by omega)]
      rfl

/-- **Application.** The two ways out of range abort each for its own reason. -/
theorem apply_eq (hd : d < 2 ^ 256) (x : SignedU256) (s : σ) :
    apply d x .machine s =
      if d + x.toInt < 0 then .error E_NEGATIVE_RESULT
      else if d + x.toInt < 2 ^ 256 then .ok ((d + x.toInt).toNat, s)
      else .error (.overflow .reflection_math) := by
  rw [apply]
  by_cases hneg : x.negative = true
  · have hint := SignedU256.toInt_of_negative hneg
    rw [if_pos hneg]
    by_cases hle : x.magnitude ≤ d
    · have hresult : (d + x.toInt).toNat = d - x.magnitude := by omega
      rw [Tx.require, if_pos hle, pure_bind, sub, Tx.require, if_pos hle, pure_bind,
        if_neg (by omega), if_pos (by omega), hresult]
      rfl
    · rw [Tx.require, if_neg hle, if_pos (by omega)]
      rfl
  · have hint := SignedU256.toInt_of_not_negative hneg
    have hresult : (d + x.toInt).toNat = d + x.magnitude := by omega
    have hnonneg : ¬ d + x.toInt < 0 := by omega
    rw [if_neg hneg, u256_machine, if_neg hnonneg, hresult]
    by_cases hfits : d + x.magnitude < 2 ^ 256
    · rw [if_pos hfits, if_pos (by omega)]
    · rw [if_neg hfits, if_neg (by omega)]

end reflection_math

/-! ## In the indexer -/

namespace indexer

open reflection_math
open SignedU256 (ofInt)

variable {value amount z : ℤ} {label : Text}

/-- The integers of the pairs whose magnitude is a `u256`. -/
theorem isMoveSignedU256_iff_natAbs : isMoveSignedU256 z ↔ z.natAbs < 2 ^ 256 := by
  rw [isMoveSignedU256_iff]
  omega

/-- **What the helpers accept, Move has.** A `bigint` that passes both assertions is the
integer of a pair and of an amount of Move. -/
theorem exists_pair (hvalue : isMoveSignedU256 value) (hamount : isMoveUnsigned amount 256) :
    ∃ (x : SignedU256) (d : ℕ), x.magnitude < 2 ^ 256 ∧ d < 2 ^ 256 ∧ x.toInt = value
      ∧ (d : ℤ) = amount := by
  obtain ⟨d, rfl⟩ := Int.eq_ofNat_of_zero_le hamount.1
  refine ⟨ofInt value, d, ?_, isMoveUnsigned_natCast.mp hamount, SignedU256.toInt_ofInt value, rfl⟩
  exact isMoveSignedU256_iff_natAbs.mp hvalue

theorem isMoveSignedU256_toInt {x : SignedU256} (hx : x.magnitude < 2 ^ 256) :
    isMoveSignedU256 x.toInt := by
  rw [isMoveSignedU256_iff_natAbs, SignedU256.natAbs_toInt]
  exact hx

/-- **One update in both programs.** A helper for an operation on integers and an update
that is exact for it accept the same and compute the same. -/
theorem update_iff (op : ℤ → ℤ → ℤ) (update : SignedU256 → ℕ → Tx Arithmetic σ Abort SignedU256)
    (s : σ) (hupdate : ∀ (x : SignedU256) (d : ℕ), x.magnitude < 2 ^ 256 → d < 2 ^ 256 →
      update x d .machine s = if (op x.toInt d).natAbs < 2 ^ 256 then .ok (ofInt (op x.toInt d), s)
        else .error (.overflow .reflection_math)) :
    (isMoveSignedU256 value ∧ isMoveUnsigned amount 256 ∧ isMoveSignedU256 (op value amount)
        ∧ z = op value amount) ↔
      ∃ (x : SignedU256) (d : ℕ), x.magnitude < 2 ^ 256 ∧ d < 2 ^ 256 ∧ x.toInt = value
        ∧ (d : ℤ) = amount ∧ update x d .machine s = .ok (ofInt z, s) := by
  constructor
  · rintro ⟨hvalue, hamount, hresult, rfl⟩
    -- Both inputs are in range, so that Move has a pair and an amount of them.
    obtain ⟨x, d, hx, hd, rfl, rfl⟩ := exists_pair hvalue hamount
    refine ⟨x, d, hx, hd, rfl, rfl, ?_⟩
    rw [hupdate x d hx hd, if_pos (isMoveSignedU256_iff_natAbs.mp hresult)]
  · rintro ⟨x, d, hx, hd, rfl, rfl, h⟩
    rw [hupdate x d hx hd] at h
    by_cases hfits : (op x.toInt d).natAbs < 2 ^ 256
    · rw [if_pos hfits] at h
      refine ⟨isMoveSignedU256_toInt hx, isMoveUnsigned_natCast.mpr hd,
        isMoveSignedU256_iff_natAbs.mpr hfits, ?_⟩
      have hpair : ofInt (op x.toInt d) = ofInt z := (Prod.mk.inj (Except.ok.inj h)).1
      rw [SignedU256.eq_ofInt_iff, SignedU256.toInt_ofInt] at hpair
      exact hpair.symm
    · rw [if_neg hfits] at h
      cases h

theorem checkedMoveSignedU256AddUnsigned_iff (s : σ) :
    checkedMoveSignedU256AddUnsigned value amount label = .ok z ↔
      ∃ (x : SignedU256) (d : ℕ), x.magnitude < 2 ^ 256 ∧ d < 2 ^ 256 ∧ x.toInt = value
        ∧ (d : ℤ) = amount ∧ add_unsigned x d .machine s = .ok (ofInt z, s) := by
  rw [checkedMoveSignedU256AddUnsigned_eq_ok]
  exact update_iff (· + ·) add_unsigned s fun x d hx hd => add_unsigned_eq hx hd s

theorem checkedMoveSignedU256SubtractUnsigned_iff (s : σ) :
    checkedMoveSignedU256SubtractUnsigned value amount label = .ok z ↔
      ∃ (x : SignedU256) (d : ℕ), x.magnitude < 2 ^ 256 ∧ d < 2 ^ 256 ∧ x.toInt = value
        ∧ (d : ℤ) = amount ∧ subtract_unsigned x d .machine s = .ok (ofInt z, s) := by
  rw [checkedMoveSignedU256SubtractUnsigned_eq_ok]
  exact update_iff (· - ·) subtract_unsigned s fun x d hx hd => subtract_unsigned_eq hx hd s

theorem applyMoveSignedU256_iff (s : σ) :
    applyMoveSignedU256 amount value label = .ok z ↔
      ∃ (x : SignedU256) (d a : ℕ), x.magnitude < 2 ^ 256 ∧ d < 2 ^ 256 ∧ x.toInt = value
        ∧ (d : ℤ) = amount ∧ (a : ℤ) = z ∧ apply d x .machine s = .ok (a, s) := by
  rw [applyMoveSignedU256_eq_ok]
  constructor
  · rintro ⟨hamount, hvalue, hresult, rfl⟩
    obtain ⟨x, d, hx, hd, rfl, rfl⟩ := exists_pair hvalue hamount
    have hrange := isMoveUnsigned_iff.mp hresult
    refine ⟨x, d, (d + x.toInt).toNat, hx, hd, rfl, rfl, Int.toNat_of_nonneg hrange.1, ?_⟩
    rw [apply_eq hd, if_neg (by omega), if_pos hrange.2]
  · rintro ⟨x, d, a, hx, hd, rfl, rfl, rfl, h⟩
    rw [apply_eq hd] at h
    -- A sum below zero and one past a `u256` abort in Move and throw here.
    by_cases hneg : d + x.toInt < 0
    · rw [if_pos hneg] at h
      cases h
    rw [if_neg hneg] at h
    by_cases hfits : d + x.toInt < 2 ^ 256
    · rw [if_pos hfits] at h
      have hresult : (d + x.toInt).toNat = a := (Prod.mk.inj (Except.ok.inj h)).1
      refine ⟨isMoveUnsigned_natCast.mpr hd, isMoveSignedU256_toInt hx,
        isMoveUnsigned_iff.mpr ⟨by omega, hfits⟩, by omega⟩
    · rw [if_neg hfits] at h
      cases h

end indexer

/-! ## Both -/

open reflection_math indexer
open SignedU256 (ofInt)

/-- **`SignedU256` is exact.** For a pair and an amount of Move the two updates return the
pair of the integer result, or abort when its magnitude is past a `u256`; the one sum they
may compute is that magnitude. `apply` returns the integer sum if it is a `u256` and aborts
otherwise. Each helper of the indexer accepts an input just when Move has it and returns on
it, and then returns what Move does. -/
theorem signed_u256_exact (s : σ) {x : SignedU256} (hx : x.magnitude < 2 ^ 256) {d : ℕ}
    (hd : d < 2 ^ 256) :
    (add_unsigned x d .machine s =
        (if (x.toInt + d).natAbs < 2 ^ 256 then .ok (ofInt (x.toInt + d), s)
          else .error (.overflow .reflection_math))
      ∧ (x.negative = false → x.magnitude + d = (x.toInt + d).natAbs))
    ∧ (subtract_unsigned x d .machine s =
        (if (x.toInt - d).natAbs < 2 ^ 256 then .ok (ofInt (x.toInt - d), s)
          else .error (.overflow .reflection_math))
      ∧ (x.negative = true → x.magnitude + d = (x.toInt - d).natAbs))
    ∧ apply d x .machine s =
        (if d + x.toInt < 0 then .error E_NEGATIVE_RESULT
          else if d + x.toInt < 2 ^ 256 then .ok ((d + x.toInt).toNat, s)
          else .error (.overflow .reflection_math))
    ∧ ∀ (value amount z : ℤ) (label : Text),
        (checkedMoveSignedU256AddUnsigned value amount label = .ok z ↔
          ∃ (x : SignedU256) (d : ℕ), x.magnitude < 2 ^ 256 ∧ d < 2 ^ 256 ∧ x.toInt = value
            ∧ (d : ℤ) = amount ∧ add_unsigned x d .machine s = .ok (ofInt z, s))
        ∧ (checkedMoveSignedU256SubtractUnsigned value amount label = .ok z ↔
          ∃ (x : SignedU256) (d : ℕ), x.magnitude < 2 ^ 256 ∧ d < 2 ^ 256 ∧ x.toInt = value
            ∧ (d : ℤ) = amount ∧ subtract_unsigned x d .machine s = .ok (ofInt z, s))
        ∧ (applyMoveSignedU256 amount value label = .ok z ↔
          ∃ (x : SignedU256) (d a : ℕ), x.magnitude < 2 ^ 256 ∧ d < 2 ^ 256 ∧ x.toInt = value
            ∧ (d : ℤ) = amount ∧ (a : ℤ) = z ∧ apply d x .machine s = .ok (a, s)) := by
  refine ⟨⟨add_unsigned_eq hx hd s, ?_⟩, ⟨subtract_unsigned_eq hx hd s, ?_⟩, apply_eq hd x s, ?_⟩
  · intro hneg
    exact (SignedU256.natAbs_add (by rw [hneg]; exact Bool.false_ne_true) d).symm
  · intro hneg
    exact (SignedU256.natAbs_sub hneg d).symm
  · intro value amount z label
    exact ⟨checkedMoveSignedU256AddUnsigned_iff s, checkedMoveSignedU256SubtractUnsigned_iff s,
      applyMoveSignedU256_iff s⟩

/-- Minus ten and twenty, across zero. -/
theorem signed_u256_exact_crossing :
    add_unsigned (ofInt (-10)) 20 .machine () = .ok (ofInt 10, ())
      ∧ apply 20 (ofInt (-10)) .machine () = .ok (10, ()) := by
  have h := signed_u256_exact () (x := ofInt (-10)) (by decide) (d := 20) (by decide)
  obtain ⟨⟨hadd, -⟩, -, happly, -⟩ := h
  constructor
  · rw [hadd, SignedU256.toInt_ofInt]
    rfl
  · rw [happly, SignedU256.toInt_ofInt]
    rfl

end CedraReflect
