/-
Unsigned integers in base 128, the low group first.

Every byte but the last has its high bit set, so that a number ends where it
says it does and no number's bytes begin another's. A number has one shortest
spelling, the one whose last group is not a redundant zero; padding it with
zero groups spells it again.
-/
import Mathlib.Data.List.Basic
import Mathlib.Tactic.Ring

set_option autoImplicit false

namespace CedraReflect.Uleb128

/-- The number some groups spell. -/
def value : List UInt8 → ℕ
  | [] => 0
  | b :: bs => b.toNat % 128 + 128 * value bs

/-- Exactly the last byte has its high bit clear. -/
def Terminated : List UInt8 → Prop
  | [] => False
  | [b] => b.toNat < 128
  | b :: bs => 128 ≤ b.toNat ∧ Terminated bs

/-- No zero group pads the number. -/
def Minimal (bs : List UInt8) : Prop := 1 < bs.length → bs.getLast? ≠ some 0

/-- The shortest spelling. -/
def encode (n : ℕ) : List UInt8 :=
  if n < 128 then [UInt8.ofNat n] else UInt8.ofNat (n % 128 + 128) :: encode (n / 128)
termination_by n
decreasing_by omega

/-! ## Terminated groups -/

theorem terminated_cons {b : UInt8} {bs : List UInt8} (h : bs ≠ []) :
    Terminated (b :: bs) ↔ 128 ≤ b.toNat ∧ Terminated bs := by
  cases bs with
  | nil => exact absurd rfl h
  | cons c cs => exact Iff.rfl

theorem Terminated.ne_nil {bs : List UInt8} (h : Terminated bs) : bs ≠ [] := by
  intro hnil
  rw [hnil] at h
  exact h

theorem Terminated.length_pos {bs : List UInt8} (h : Terminated bs) : 0 < bs.length :=
  List.length_pos_of_ne_nil h.ne_nil

/-- **No number's bytes begin another's.** -/
theorem Terminated.eq_of_begins {bs cs data : List UInt8} (hb : Terminated bs)
    (hc : Terminated cs) (h : bs <+: data) (h' : cs <+: data) : bs = cs := by
  induction bs generalizing cs data with
  | nil => exact absurd hb id
  | cons b bs ih =>
      cases cs with
      | nil => exact absurd hc id
      | cons c cs =>
          obtain ⟨rest, hrest⟩ := h
          obtain ⟨rest', hrest'⟩ := h'
          rw [← hrest, List.cons_append, List.cons_append] at hrest'
          obtain ⟨hhead, htail⟩ := List.cons.inj hrest'
          subst hhead
          by_cases hbs : bs = []
          · by_cases hcs : cs = []
            · rw [hbs, hcs]
            · -- One says that it ends here, the other that it goes on.
              subst hbs
              have hlast : c.toNat < 128 := hb
              have hmore := ((terminated_cons hcs).mp hc).1
              omega
          · have hmore := ((terminated_cons hbs).mp hb).1
            by_cases hcs : cs = []
            · subst hcs
              have hlast : c.toNat < 128 := hc
              omega
            · rw [ih ((terminated_cons hbs).mp hb).2 ((terminated_cons hcs).mp hc).2
                (List.prefix_append bs rest) ⟨rest', htail⟩]

/-! ## The shortest spelling -/

theorem encode_of_lt {n : ℕ} (h : n < 128) : encode n = [UInt8.ofNat n] := by
  rw [encode, if_pos h]

theorem encode_of_le {n : ℕ} (h : 128 ≤ n) :
    encode n = UInt8.ofNat (n % 128 + 128) :: encode (n / 128) := by
  rw [encode, if_neg (by omega)]

theorem encode_ne_nil (n : ℕ) : encode n ≠ [] := by
  rw [encode]
  split <;> exact List.cons_ne_nil _ _

theorem toNat_ofNat {n : ℕ} (h : n < 256) : (UInt8.ofNat n).toNat = n := by
  rw [UInt8.toNat_ofNat']
  omega

theorem terminated_encode (n : ℕ) : Terminated (encode n) := by
  induction n using Nat.strongRecOn with
  | ind n ih =>
      by_cases h : n < 128
      · rw [encode_of_lt h]
        show (UInt8.ofNat n).toNat < 128
        rw [toNat_ofNat (by omega)]
        exact h
      · rw [encode_of_le (by omega), terminated_cons (encode_ne_nil _), toNat_ofNat (by omega)]
        exact ⟨by omega, ih (n / 128) (by omega)⟩

theorem value_encode (n : ℕ) : value (encode n) = n := by
  induction n using Nat.strongRecOn with
  | ind n ih =>
      by_cases h : n < 128
      · rw [encode_of_lt h, value, value, toNat_ofNat (by omega)]
        omega
      · rw [encode_of_le (by omega), value, toNat_ofNat (by omega), ih (n / 128) (by omega)]
        omega

theorem length_encode_le {n k : ℕ} (h : n < 128 ^ (k + 1)) : (encode n).length ≤ k + 1 := by
  induction k generalizing n with
  | zero =>
      rw [encode_of_lt (by omega)]
      simp
  | succ k ih =>
      by_cases hsmall : n < 128
      · rw [encode_of_lt hsmall]
        simp
      · rw [encode_of_le (by omega), List.length_cons]
        have hquotient : n / 128 < 128 ^ (k + 1) := by
          rw [Nat.div_lt_iff_lt_mul (by decide), ← Nat.pow_succ]
          exact h
        have := ih hquotient
        omega

theorem minimal_encode (n : ℕ) : Minimal (encode n) := by
  induction n using Nat.strongRecOn with
  | ind n ih =>
      by_cases h : n < 128
      · rw [encode_of_lt h]
        intro hlength
        simp at hlength
      · rw [encode_of_le (by omega)]
        intro _
        rw [List.getLast?_cons_of_ne_nil (encode_ne_nil _)]
        by_cases hsmall : n / 128 < 128
        · rw [encode_of_lt hsmall]
          intro hzero
          have hlast : UInt8.ofNat (n / 128) = 0 := Option.some.inj hzero
          have hnat := congrArg UInt8.toNat hlast
          rw [toNat_ofNat (by omega), UInt8.toNat_zero] at hnat
          omega
        · refine ih (n / 128) (by omega) ?_
          rw [encode_of_le (by omega), List.length_cons]
          have := (terminated_encode (n / 128 / 128)).length_pos
          omega

/-- **There is one shortest spelling.** -/
theorem encode_value {bs : List UInt8} (h : Terminated bs) (hmin : Minimal bs) :
    encode (value bs) = bs := by
  induction bs with
  | nil => exact absurd h id
  | cons b bs ih =>
      by_cases hbs : bs = []
      · subst hbs
        have hlast : b.toNat < 128 := h
        have hvalue : value [b] = b.toNat := by
          rw [value, value]
          omega
        rw [hvalue, encode_of_lt hlast, UInt8.ofNat_toNat]
      · obtain ⟨hmore, hrest⟩ := (terminated_cons hbs).mp h
        have hlast : (b :: bs).getLast? = bs.getLast? := List.getLast?_cons_of_ne_nil hbs
        have hlength : 1 < (b :: bs).length := by
          rw [List.length_cons]
          have := hrest.length_pos
          omega
        have hminimal : Minimal bs := by
          intro _
          rw [← hlast]
          exact hmin hlength
        have htail := ih hrest hminimal
        -- What follows is not zero, or the spelling would end before it.
        have hpos : 0 < value bs := by
          by_contra hzero
          have hvalue : value bs = 0 := by omega
          rw [hvalue, encode_of_lt (by decide)] at htail
          refine hmin hlength ?_
          rw [hlast, ← htail]
          rfl
        have hbyte : b.toNat < 256 := UInt8.toNat_lt b
        rw [value, encode_of_le (by omega)]
        have hgroup : (b.toNat % 128 + 128 * value bs) % 128 + 128 = b.toNat := by omega
        have hquotient : (b.toNat % 128 + 128 * value bs) / 128 = value bs := by omega
        rw [hgroup, hquotient, htail, UInt8.ofNat_toNat]

end CedraReflect.Uleb128
