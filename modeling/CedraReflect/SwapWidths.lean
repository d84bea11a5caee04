/-
How far a swap moves the numbers of the two ledgers.

A fee is at most a twentieth of a gross amount that is itself at most a fifth of
the pool, so that a hundred times the fee is covered by the shares it is divided
over and the core's index moves by less than an eightieth of the magnitude. The
epoch has no such rate: all that bounds its index is what it received.
-/
import CedraReflect.LpFits
import CedraReflect.ReserveWidth

set_option autoImplicit false
set_option linter.constructorNameAsVariable false

namespace CedraReflect

open reflection_math (MAGNITUDE MAGNITUDE_pos)
open reflection_token (TOTAL_SUPPLY)
open reflection_settlement (swap_output invariant_input invariant_input_le MAX_U64)
open pool (FIXED_AMM_FEE_BPS FIXED_MAX_RESERVE_BPS)

/-! ## One fee -/

/-- If `c` times the fee is covered by the shares, the index moves by no more
than a `c`-th of the magnitude and of the remainder. -/
theorem advance_le {fee remainder total c : ℕ} (hc : 0 < c) (hfee : 0 < fee)
    (ht : c * fee ≤ total) :
    (MAGNITUDE * fee + remainder) / total ≤ (MAGNITUDE + remainder) / c := by
  calc (MAGNITUDE * fee + remainder) / total
      ≤ (MAGNITUDE * fee + remainder) / (c * fee) := Nat.div_le_div_left ht (Nat.mul_pos hc hfee)
    _ ≤ (MAGNITUDE * fee + remainder * fee) / (c * fee) :=
        Nat.div_le_div_right (Nat.add_le_add_left (Nat.le_mul_of_pos_right _ hfee) _)
    _ = (MAGNITUDE + remainder) * fee / (c * fee) := by rw [Nat.add_mul]
    _ = (MAGNITUDE + remainder) / c := Nat.mul_div_mul_right _ _ hfee

namespace World

variable (w : World) (a : Address) (n fee gross kind : ℕ)

theorem index_feeTaken_le {c : ℕ} (hc : 0 < c) (ht : c * fee ≤ w.reflection.total_shares) :
    (w.feeTaken a gross fee kind).reflection.index
      ≤ w.reflection.index + (MAGNITUDE + w.reflection.index_remainder) / c := by
  unfold feeTaken
  split
  · exact Nat.le_add_right _ _
  · next hz =>
      have hfee : 0 < fee := Nat.pos_of_ne_zero hz
      have hpos : 0 < w.reflection.total_shares := (Nat.mul_pos hc hfee).trans_le ht
      unfold collected
      rw [if_neg hpos.ne']
      exact Nat.add_le_add_left (advance_le hc hfee ht) _

theorem index_remainder_feeTaken_le {m : ℕ} (hr : w.reflection.index_remainder ≤ m)
    (ht : w.reflection.total_shares ≤ m) :
    (w.feeTaken a gross fee kind).reflection.index_remainder ≤ m := by
  unfold feeTaken collected
  split
  · exact hr
  · split
    · exact hr
    · next ht0 => exact ((Nat.mod_lt _ (Nat.pos_of_ne_zero ht0)).le).trans ht

end World

/-- The three numbers of the core that only a fee moves. -/
structure SameFees (w w' : World) : Prop where
  index : w'.reflection.index = w.reflection.index
  fees : w'.reflection.lifetime_fees = w.reflection.lifetime_fees
  remainder : w'.reflection.index_remainder = w.reflection.index_remainder

namespace SameFees

variable {w w' w'' : World} {a : Address} {n : ℕ}

theorem trans (h : SameFees w w') (h' : SameFees w' w'') : SameFees w w'' :=
  ⟨h'.index.trans h.index, h'.fees.trans h.fees, h'.remainder.trans h.remainder⟩

theorem materializedAll (explicit_claim : Bool) (trigger : Trigger) :
    SameFees w (w.materializedAll a explicit_claim trigger) := by
  unfold World.materializedAll
  split
  · exact ⟨rfl, rfl, rfl⟩
  · cases explicit_claim <;> exact ⟨rfl, rfl, rfl⟩

theorem ensured : SameFees w (w.ensured a) := by
  unfold World.ensured
  split <;> exact ⟨rfl, rfl, rfl⟩

theorem sellInstant : SameFees w (w.sellInstant a n) :=
  (materializedAll false .SELL_PRE).trans ⟨rfl, rfl, rfl⟩

theorem buyInstant : SameFees w (w.buyInstant a n) :=
  (ensured.trans (materializedAll false .BUY_PRE)).trans ⟨rfl, rfl, rfl⟩

theorem sold {fee : ℕ} : SameFees ((w.sellInstant a n).feeTaken a n fee 1) (w.sold a n fee) :=
  (materializedAll false .SELL_POST).trans ⟨rfl, rfl, rfl⟩

theorem bought {fee : ℕ} : SameFees ((w.buyInstant a n).feeTaken a n fee 2) (w.bought a n fee) :=
  (materializedAll false .BUY_POST).trans ⟨rfl, rfl, rfl⟩

theorem checkpointed {e : LpEpoch} : SameFees w (w.checkpointed e) := by
  unfold World.checkpointed
  split <;> exact ⟨rfl, rfl, rfl⟩

theorem outside (h : Outside w w') : SameFees w w' := by
  refine ⟨?_, ?_, ?_⟩ <;> rw [h.reflection]

end SameFees

namespace Core

variable {w : World} {a : Address} {n : ℕ}

/-- The invariant holds where the fee of a sell is taken. -/
theorem sellInstant (h : Core w) (ha : a ∈ w.wallets)
    (hn : n ≤ (w.materializedAll a false .SELL_PRE).raw a) : Core (w.sellInstant a n) := by
  obtain ⟨_, -, hs⟩ := h.step_sellInstant ha hn
  exact hs.core

/-- The invariant holds where the fee of a buy is taken. -/
theorem buyInstant (h : Core w)
    (hx : reflection_token.is_excluded_store w.reflection (.primary .trfl a) = false)
    (hn : n ≤ w.custody.custody_shares) : Core (w.buyInstant a n) := by
  obtain ⟨_, -, hs⟩ := h.step_buyInstant hx hn
  exact hs.core

end Core

/-! ## Caps -/

/-- An input of a fifth of its reserve takes no more than a sixth of the other. -/
theorem swap_output_le_sixth {R U n : ℕ} (bps : ℕ) (hn : n * 5 ≤ U) :
    swap_output U R n bps * 6 ≤ R := by
  unfold swap_output
  have hx := invariant_input_le n bps
  generalize invariant_input n bps = x at hx ⊢
  rcases Nat.eq_zero_or_pos x with rfl | hx0
  · simp
  · calc R * x / (U + x) * 6 ≤ R * x / (6 * x) * 6 :=
          Nat.mul_le_mul_right 6 (Nat.div_le_div_left (by omega) (by omega))
      _ = R / 6 * 6 := by rw [Nat.mul_div_mul_right _ _ hx0]
      _ ≤ R := Nat.div_mul_le_self R 6

/-- The cap on the input of a swap is a fifth of the reserve. -/
theorem fifth_of_cap {n reserve : ℕ}
    (h : n * pool.BPS_DENOMINATOR ≤ reserve * FIXED_MAX_RESERVE_BPS) : n * 5 ≤ reserve := by
  unfold pool.BPS_DENOMINATOR FIXED_MAX_RESERVE_BPS at h
  omega

/-! ## The bounds -/

theorem MAGNITUDE_eq : MAGNITUDE = 1_000_000_000_000_000_000_000_000 := by
  unfold MAGNITUDE
  rfl

/-- How far `k` swaps can have moved the numbers of the core. -/
structure World.Within (k : ℕ) (w : World) : Prop where
  index : w.reflection.index ≤ k * (MAGNITUDE / 80)
  fees : w.reflection.lifetime_fees ≤ k * TOTAL_SUPPLY
  remainder : w.reflection.index_remainder ≤ TOTAL_SUPPLY

/-- How far `k` swaps can have moved the numbers of the epoch. -/
structure LpEpoch.Within (k : ℕ) (e : LpEpoch) : Prop where
  index : e.index ≤ k * (MAGNITUDE * TOTAL_SUPPLY + 2 ^ 57)
  remainder : e.index_remainder ≤ 2 ^ 57
  received : e.lifetime_received ≤ k * TOTAL_SUPPLY

namespace World.Within

variable {k : ℕ} {w w' : World} {a : Address} {n fee : ℕ}

/-- Every number has room for as many swaps as a `u64` can count. -/
theorem narrow (h : w.Within k) (hk : k ≤ 2 ^ 64) : w.Narrow := by
  have hi := h.index.trans (Nat.mul_le_mul_right _ hk)
  have hf := h.fees.trans (Nat.mul_le_mul_right _ hk)
  rw [MAGNITUDE_eq] at hi
  unfold TOTAL_SUPPLY at hf
  exact ⟨hi.trans (by norm_num), hf.trans (by norm_num), h.remainder⟩

theorem same (h : w.Within k) (hs : SameFees w w') : w'.Within k :=
  ⟨hs.index ▸ h.index, hs.fees ▸ h.fees, hs.remainder ▸ h.remainder⟩

/-- A fee taken over a hundred times as many shares moves the index by no more
than an eightieth of the magnitude. -/
theorem index_feeTaken_le (h : w.Within k) (ht : 100 * fee ≤ w.reflection.total_shares)
    (gross kind : ℕ) :
    (w.feeTaken a gross fee kind).reflection.index ≤ w.reflection.index + MAGNITUDE / 80 := by
  have hi := w.index_feeTaken_le a fee gross kind (by norm_num) ht
  have hstep : (MAGNITUDE + w.reflection.index_remainder) / 100 ≤ MAGNITUDE / 80 := by
    refine (Nat.div_le_div_right (Nat.add_le_add_left h.remainder _)).trans ?_
    rw [MAGNITUDE_eq]
    unfold TOTAL_SUPPLY
    norm_num
  exact hi.trans (Nat.add_le_add_left hstep _)

/-- It moves each of the other bounds by one swap. -/
theorem feeTaken (h : w.Within k) (hfee : fee ≤ TOTAL_SUPPLY)
    (ht : 100 * fee ≤ w.reflection.total_shares)
    (htot : w.reflection.total_shares ≤ TOTAL_SUPPLY) (gross kind : ℕ) :
    (w.feeTaken a gross fee kind).Within (k + 1) := by
  refine ⟨?_, ?_, w.index_remainder_feeTaken_le a fee gross kind h.remainder htot⟩
  · rw [Nat.succ_mul]
    exact (h.index_feeTaken_le ht gross kind).trans (Nat.add_le_add_right h.index _)
  · rw [w.lifetime_fees_feeTaken, Nat.succ_mul]
    exact Nat.add_le_add h.fees hfee

/-- The fee of **a sell**, of a fifth of the pool at most. The pool's shares alone
are five times the gross amount. -/
theorem hundred_sold (hc : Core (w.sellInstant a n)) (hcap : n * 5 ≤ w.custody.custody_shares)
    (hfee : fee * 20 ≤ n) : 100 * fee ≤ (w.sellInstant a n).reflection.total_shares := by
  have hR := hc.custody_le_total
  have hcs : (w.sellInstant a n).custody.custody_shares = w.custody.custody_shares := by
    rw [World.sellInstant, World.custody_walletDebited, World.custody_materializedAll]
  rw [hcs] at hR
  omega

/-- The fee of **a buy**, of a sixth of the pool at most. -/
theorem hundred_bought (hc : Core (w.buyInstant a n)) (hcap : n * 6 ≤ w.custody.custody_shares)
    (hfee : fee * 20 ≤ n) : 100 * fee ≤ (w.buyInstant a n).reflection.total_shares := by
  have hR := hc.custody_le_total
  have hcs : (w.buyInstant a n).custody.custody_shares = w.custody.custody_shares - n := by
    rw [World.buyInstant, World.custody_shares_poolDebited, World.custody_materializedAll,
      World.custody_shares_ensured]
  rw [hcs] at hR
  omega

theorem sold (h : w.Within k) (hc : Core (w.sellInstant a n))
    (hcap : n * 5 ≤ w.custody.custody_shares) (hfee : fee * 20 ≤ n) :
    (w.sold a n fee).Within (k + 1) := by
  have htot := hc.total_le
  have hfee' := hundred_sold hc hcap hfee
  exact ((h.same .sellInstant).feeTaken (by omega) hfee' htot n 1).same .sold

theorem bought (h : w.Within k) (hc : Core (w.buyInstant a n))
    (hcap : n * 6 ≤ w.custody.custody_shares) (hfee : fee * 20 ≤ n) :
    (w.bought a n fee).Within (k + 1) := by
  have htot := hc.total_le
  have hfee' := hundred_bought hc hcap hfee
  exact ((h.same .buyInstant).feeTaken (by omega) hfee' htot n 2).same .bought

/-- What a sell adds to the index. -/
theorem index_sold_le (h : w.Within k) (hc : Core (w.sellInstant a n))
    (hcap : n * 5 ≤ w.custody.custody_shares) (hfee : fee * 20 ≤ n) :
    (w.sold a n fee).reflection.index ≤ w.reflection.index + MAGNITUDE / 80 := by
  have hsame : SameFees w (w.sellInstant a n) := .sellInstant
  rw [SameFees.sold.index, ← hsame.index]
  exact (h.same hsame).index_feeTaken_le (hundred_sold hc hcap hfee) n 1

/-- What a buy adds to the index. -/
theorem index_bought_le (h : w.Within k) (hc : Core (w.buyInstant a n))
    (hcap : n * 6 ≤ w.custody.custody_shares) (hfee : fee * 20 ≤ n) :
    (w.bought a n fee).reflection.index ≤ w.reflection.index + MAGNITUDE / 80 := by
  have hsame : SameFees w (w.buyInstant a n) := .buyInstant
  rw [SameFees.bought.index, ← hsame.index]
  exact (h.same hsame).index_feeTaken_le (hundred_bought hc hcap hfee) n 2

end World.Within

/-- The shares of a pool whose reserves have the widths of stores. -/
theorem shares_le_of_backed {R U T : ℕ} (hb : T ^ 2 ≤ R * U) (hR : R ≤ TOTAL_SUPPLY)
    (hU : U ≤ MAX_U64) : T ≤ 2 ^ 57 := by
  have hRU : R * U ≤ (2 ^ 57) ^ 2 := by
    refine (Nat.mul_le_mul hR hU).trans ?_
    unfold TOTAL_SUPPLY MAX_U64
    norm_num
  exact (Nat.pow_le_pow_iff_left (by norm_num)).mp (hb.trans hRU)

namespace LpEpoch.Within

variable {k : ℕ} {e : LpEpoch} {n : ℕ}

theorem narrow (h : e.Within k) (hk : k ≤ 2 ^ 64) (ht : e.total_shares ≤ 2 ^ 57) : e.Narrow := by
  have hi := h.index.trans (Nat.mul_le_mul_right _ hk)
  have hf := h.received.trans (Nat.mul_le_mul_right _ hk)
  rw [MAGNITUDE_eq] at hi
  unfold TOTAL_SUPPLY at hi hf
  exact ⟨ht, hi.trans (by norm_num), h.remainder, hf.trans (by norm_num)⟩

theorem mono {k' : ℕ} (h : e.Within k) (hk : k ≤ k') : e.Within k' :=
  ⟨h.index.trans (Nat.mul_le_mul_right _ hk), h.remainder,
    h.received.trans (Nat.mul_le_mul_right _ hk)⟩

/-- What is routed in one call is no more than there is. -/
theorem checkpointed (h : e.Within k) (hn : n ≤ TOTAL_SUPPLY) (ht0 : 0 < e.total_shares)
    (ht : e.total_shares ≤ 2 ^ 57) : (e.checkpointed n).Within (k + 1) := by
  unfold LpEpoch.checkpointed
  split
  · exact h.mono (Nat.le_succ k)
  · refine ⟨?_, ((Nat.mod_lt _ ht0).le).trans ht, ?_⟩
    · rw [Nat.succ_mul]
      refine Nat.add_le_add h.index ((Nat.div_le_self _ _).trans ?_)
      exact Nat.add_le_add (Nat.mul_le_mul_left _ hn) h.remainder
    · rw [Nat.succ_mul]
      exact Nat.add_le_add h.received hn

end LpEpoch.Within

end CedraReflect
