/-
The units of texts: the bytes they are encoded in, and the two orders of them.

JavaScript compares strings by their UTF-16 units, Python by their characters.
A character past the sixteenth bit is two units from D800 on, so that in the
first order it comes before the characters from E000 to FFFF, and in the second
after them. There is no other difference: both orders are decided by the first
character in which two texts differ.
-/
import CedraReflect.KeyOrder
import CedraReflect.ReleaseGates
import Mathlib.Data.String.Basic

set_option autoImplicit false

namespace CedraReflect.release

open LinearLe (lexLe_cons lexLe_of_ne)

/-! ## Bytes -/

/-- UTF-8. -/
def utf8 (text : List Char) : List UInt8 := text.flatMap String.utf8EncodeChar

/-- **No two texts have the same bytes.** -/
theorem utf8_injective {a b : List Char} (h : utf8 a = utf8 b) : a = b := by
  have hencode : a.utf8Encode = b.utf8Encode := by
    unfold List.utf8Encode
    exact congrArg List.toByteArray h
  apply String.ofList_injective
  rw [← String.toByteArray_inj]
  exact hencode

theorem utf8_append (a b : List Char) : utf8 (a ++ b) = utf8 a ++ utf8 b := List.flatMap_append

/-! ## Characters -/

/-- A character before another, by code points. -/
def pointLe (c d : Char) : Bool := decide (c.toNat ≤ d.toNat)

/-- The place of a character among all, by UTF-16 units: the rest of the sixteen bits after
the surrogates comes last. -/
def unitRank (c : Char) : ℕ :=
  if 0xE000 ≤ c.toNat ∧ c.toNat < 0x10000 then c.toNat + 0x110000 else c.toNat

def unitLe (c d : Char) : Bool := decide (unitRank c ≤ unitRank d)

/-- The units of a character. -/
def units (c : Char) : List ℕ :=
  if c.toNat < 0x10000 then [c.toNat]
  else [0xD800 + (c.toNat - 0x10000) / 0x400, 0xDC00 + (c.toNat - 0x10000) % 0x400]

theorem codeUnits_eq (s : String) : codeUnits s = s.toList.flatMap units := rfl

theorem char_eq {c d : Char} (h : c.toNat = d.toNat) : c = d := by
  rw [← Char.ofNat_toNat c, h, Char.ofNat_toNat]

/-- What the characters are: none is a surrogate, and all are below 110000. -/
theorem char_range (c : Char) : (c.toNat < 0xD800 ∨ 0xE000 ≤ c.toNat) ∧ c.toNat < 0x110000 := by
  have hvalid := c.valid
  unfold UInt32.isValidChar Nat.isValidChar at hvalid
  change c.toNat < 0xd800 ∨ 0xdfff < c.toNat ∧ c.toNat < 0x110000 at hvalid
  omega

theorem pointLe_linear : LinearLe pointLe where
  total c d := by
    unfold pointLe
    rw [decide_eq_true_eq, decide_eq_true_eq]
    omega
  trans c d e hcd hde := by
    unfold pointLe at *
    rw [decide_eq_true_eq] at *
    omega
  antisymm c d hcd hdc := by
    unfold pointLe at *
    rw [decide_eq_true_eq] at *
    exact char_eq (by omega)

theorem unitRank_injective {c d : Char} (h : unitRank c = unitRank d) : c = d := by
  have hc := char_range c
  have hd := char_range d
  unfold unitRank at h
  apply char_eq
  split_ifs at h <;> omega

theorem unitLe_linear : LinearLe unitLe where
  total c d := by
    unfold unitLe
    rw [decide_eq_true_eq, decide_eq_true_eq]
    omega
  trans c d e hcd hde := by
    unfold unitLe at *
    rw [decide_eq_true_eq] at *
    omega
  antisymm c d hcd hdc := by
    unfold unitLe at *
    rw [decide_eq_true_eq] at *
    exact unitRank_injective (by omega)

/-- **Where the orders differ**: one of the characters is past the sixteenth bit, and the
other is within it and after the surrogates. -/
theorem unitLe_eq_false_iff {c d : Char} (hcd : pointLe c d = true) :
    unitLe c d = false ↔ 0xE000 ≤ c.toNat ∧ c.toNat < 0x10000 ∧ 0x10000 ≤ d.toNat := by
  have hd := char_range d
  unfold pointLe at hcd
  unfold unitLe unitRank
  rw [decide_eq_true_eq] at hcd
  rw [decide_eq_false_iff_not]
  split_ifs <;> omega

/-! ## Texts -/

theorem unitsLe_cons_self (n : ℕ) (as bs : List ℕ) :
    unitsLe (n :: as) (n :: bs) = unitsLe as bs := by
  rw [unitsLe]
  simp

theorem unitsLe_cons_of_ne {m n : ℕ} (h : m ≠ n) (as bs : List ℕ) :
    unitsLe (m :: as) (n :: bs) = decide (m < n) := by
  rw [unitsLe]
  simp [h]

/-- **Two different characters are compared by their own units**: neither is the beginning
of the other. -/
theorem unitsLe_units {c d : Char} (hne : c ≠ d) (as bs : List ℕ) :
    unitsLe (units c ++ as) (units d ++ bs) = unitLe c d := by
  have hc := char_range c
  have hd := char_range d
  have hpoint : c.toNat ≠ d.toNat := fun h => hne (char_eq h)
  unfold units unitLe unitRank
  by_cases hcs : c.toNat < 0x10000
  · by_cases hds : d.toNat < 0x10000
    · rw [if_pos hcs, if_pos hds, List.singleton_append, List.singleton_append,
        unitsLe_cons_of_ne hpoint]
      split_ifs <;> simp only [decide_eq_decide] <;> omega
    · have hfirst : c.toNat ≠ 0xD800 + (d.toNat - 0x10000) / 0x400 := by omega
      rw [if_pos hcs, if_neg hds, List.singleton_append, List.cons_append,
        unitsLe_cons_of_ne hfirst]
      split_ifs <;> simp only [decide_eq_decide] <;> omega
  · by_cases hds : d.toNat < 0x10000
    · have hfirst : 0xD800 + (c.toNat - 0x10000) / 0x400 ≠ d.toNat := by omega
      rw [if_neg hcs, if_pos hds, List.singleton_append, List.cons_append,
        unitsLe_cons_of_ne hfirst]
      split_ifs <;> simp only [decide_eq_decide] <;> omega
    · rw [if_neg hcs, if_neg hds]
      simp only [List.cons_append, List.nil_append]
      by_cases hfirst : (c.toNat - 0x10000) / 0x400 = (d.toNat - 0x10000) / 0x400
      · -- Within one first unit the second ones decide.
        have hsecond : 0xDC00 + (c.toNat - 0x10000) % 0x400
            ≠ 0xDC00 + (d.toNat - 0x10000) % 0x400 := by omega
        rw [hfirst, unitsLe_cons_self, unitsLe_cons_of_ne hsecond]
        split_ifs <;> simp only [decide_eq_decide] <;> omega
      · rw [unitsLe_cons_of_ne (by omega)]
        split_ifs <;> simp only [decide_eq_decide] <;> omega

theorem unitsLe_flatMap (a b : List Char) :
    unitsLe (a.flatMap units) (b.flatMap units) = lexLe unitLe a b := by
  have hsome : ∀ c : Char, ∃ n rest, units c = n :: rest := by
    intro c
    unfold units
    by_cases hc : c.toNat < 0x10000
    · exact ⟨_, _, if_pos hc⟩
    · exact ⟨_, _, if_neg hc⟩
  have hself : ∀ (us : List ℕ) (as bs : List ℕ), unitsLe (us ++ as) (us ++ bs) = unitsLe as bs := by
    intro us as bs
    induction us with
    | nil => rfl
    | cons u us ih => rw [List.cons_append, List.cons_append, unitsLe_cons_self, ih]
  induction a generalizing b with
  | nil => rw [List.flatMap_nil, unitsLe, lexLe]
  | cons c a ih =>
      rw [List.flatMap_cons]
      cases b with
      | nil =>
          obtain ⟨n, rest, hn⟩ := hsome c
          rw [List.flatMap_nil, hn, List.cons_append, unitsLe, lexLe]
      | cons d b =>
          rw [List.flatMap_cons]
          by_cases hcd : c = d
          · rw [hcd, hself, lexLe_cons, ih]
          · rw [unitsLe_units hcd, lexLe_of_ne hcd]

/-- **Strings of JavaScript are compared by their first different character.** -/
theorem textLe_eq (a b : String) : textLe a b = lexLe unitLe a.toList b.toList := by
  rw [textLe, codeUnits_eq, codeUnits_eq, unitsLe_flatMap]

/-- Lean's order of lists is the one by the first different character. -/
theorem not_lt_iff_lexLe (as bs : List Char) : ¬ bs < as ↔ lexLe pointLe as bs = true := by
  induction as generalizing bs with
  | nil =>
      rw [lexLe]
      exact ⟨fun _ => rfl, fun _ => List.not_lt_nil bs⟩
  | cons c as ih =>
      cases bs with
      | nil =>
          rw [lexLe]
          exact ⟨fun h => absurd (List.nil_lt_cons c as) h, fun h => by cases h⟩
      | cons d bs =>
          rw [List.cons_lt_cons_iff]
          by_cases hcd : c = d
          · subst hcd
            rw [lexLe_cons, ← ih bs]
            simp
          · have hpoint : c.toNat ≠ d.toNat := fun h => hcd (char_eq h)
            have hlt : d < c ↔ d.toNat < c.toNat := Iff.rfl
            rw [lexLe_of_ne hcd, pointLe, decide_eq_true_eq, hlt]
            have hdc : ¬ d = c := fun h => hcd h.symm
            simp only [hdc, false_and, or_false]
            omega

/-- Strings of Python are, too. -/
theorem nameLe_eq (a b : String) :
    release_evidence.nameLe a b = lexLe pointLe a.toList b.toList := by
  unfold release_evidence.nameLe
  by_cases hlex : lexLe pointLe a.toList b.toList = true
  · rw [hlex, decide_eq_true_eq]
    exact (not_lt_iff_lexLe a.toList b.toList).mpr hlex
  · rw [Bool.eq_false_iff.mpr hlex, decide_eq_false_iff_not]
    exact fun h => hlex ((not_lt_iff_lexLe a.toList b.toList).mp h)

theorem textLe_linear : LinearLe textLe := by
  have hcomap : LinearLe fun a b : String => lexLe unitLe a.toList b.toList :=
    unitLe_linear.lex.comap fun _ _ h => String.toList_injective h
  have heq : textLe = fun a b : String => lexLe unitLe a.toList b.toList := by
    funext a b
    exact textLe_eq a b
  rw [heq]
  exact hcomap

theorem nameLe_linear : LinearLe release_evidence.nameLe := by
  have hcomap : LinearLe fun a b : String => lexLe pointLe a.toList b.toList :=
    pointLe_linear.lex.comap fun _ _ h => String.toList_injective h
  have heq : release_evidence.nameLe = fun a b : String => lexLe pointLe a.toList b.toList := by
    funext a b
    exact nameLe_eq a b
  rw [heq]
  exact hcomap

end CedraReflect.release
