/-
What a share of the pool is worth.

Measured by the product of the reserves over the square of the shares, a share
never loses: every rounding of a swap, an addition or a withdrawal is the
pool's. The comparison composes along runs, since what follows the closure
never reopens the pool.
-/
import CedraReflect.LpFairness

set_option autoImplicit false
set_option linter.constructorNameAsVariable false

namespace CedraReflect

open Dividend (Ledger Act Valid Run)
open reflection_math (MAGNITUDE MAGNITUDE_pos)
open reflection_token (TOTAL_SUPPLY is_excluded_store)

/-- The calls that add to the pool or withdraw from it. -/
def Call.of_liquidity : Call → Bool
  | .add_liquidity .. | .remove_liquidity .. => true
  | _ => false

section

variable [NamedAddresses] {arithmetic : Arithmetic} {fee_bps : ℕ} {w w' : World} {e e' : LpEpoch}
  {c : Call} {cs : List Call}

/-- **The run lemma of the shares' value.** -/
theorem Launched.worth_calls (h : Launched e w) (hs : Calls arithmetic w cs w')
    (hlive : w'.reflection.lifecycle = .LIVE) :
    ∃ e', Launched e' w' ∧ Live e w ∧ Worth w.custody.custody_shares w.usd e.total_shares
      w'.custody.custody_shares w'.usd e'.total_shares := by
  induction hs generalizing e with
  | nil w => exact ⟨e, h, h.live_iff.mpr hlive, .refl _ _ _⟩
  | cons hc _ ih =>
      obtain ⟨e', ht⟩ := h.transition (Call.Commits.ideal hc)
      obtain ⟨_, _, -, -, hp⟩ := h.passage ht
      obtain ⟨e'', h'', hl', hw'⟩ := ih hp.launched hlive
      obtain ⟨hl, hw⟩ := hp.worth hl'
      exact ⟨e'', h'', hl, hw.trans hl'.shares_pos hw'⟩

/-- Additions and partial withdrawals lower neither reserve of a share. -/
theorem Launched.both_liquidity (h : Launched e w) (ht : Transition e w c e' w')
    (hc : c.of_liquidity = true) (hlive : w'.reflection.lifecycle = .LIVE) :
    w.custody.custody_shares * e'.total_shares ≤ w'.custody.custody_shares * e.total_shares
      ∧ w.usd * e'.total_shares ≤ w'.usd * e.total_shares := by
  cases ht with
  | add hs => exact h.both_add hs rfl
  | remove hs hne => exact h.both_removePart hs hne
  | remove_all hs hall => cases hlive
  | _ => cases hc

/-- **A share of the pool never loses value.** While the pool is live, the
product of its reserves is at least the square of its shares, and over any run
that leaves it live the product per square of the shares does not fall.
Additions and partial withdrawals keep each reserve of a share separately. -/
theorem share_value (h : Reachable arithmetic fee_bps w) (hlive : w.reflection.lifecycle = .LIVE) :
    ∃ e, w.lp_epoch 1 = some e
      ∧ e.total_shares ^ 2 ≤ w.balance .rfl_reserve * w.balance .usd_reserve
      ∧ (∀ cs w', Calls arithmetic w cs w' → w'.reflection.lifecycle = .LIVE →
        ∃ e', w'.lp_epoch 1 = some e'
          ∧ w.balance .rfl_reserve * w.balance .usd_reserve * e'.total_shares ^ 2
            ≤ w'.balance .rfl_reserve * w'.balance .usd_reserve * e.total_shares ^ 2)
      ∧ ∀ (c : Call) w', c.Commits arithmetic w w' → c.of_liquidity = true →
        w'.reflection.lifecycle = .LIVE →
        ∃ e', w'.lp_epoch 1 = some e'
          ∧ w.balance .rfl_reserve * e'.total_shares ≤ w'.balance .rfl_reserve * e.total_shares
          ∧ w.balance .usd_reserve * e'.total_shares ≤ w'.balance .usd_reserve * e.total_shares := by
  -- Live means launched, and the reserves are then those of the books.
  obtain ⟨e, hl⟩ := h.launched (by rw [hlive]; simp)
  have hL := hl.live_iff.mpr hlive
  have hR := hl.deployed.core.supply.custody
  refine ⟨e, hl.lp_epoch, ?_, fun cs w' hs hlive' => ?_, fun c w' hc hliq hlive' => ?_⟩
  · rw [← hR]
    exact hL.backed
  · obtain ⟨e', hl', -, hw⟩ := hl.worth_calls hs hlive'
    rw [← hR, ← hl'.deployed.core.supply.custody]
    exact ⟨e', hl'.lp_epoch, hw⟩
  · obtain ⟨e', ht⟩ := hl.transition (Call.Commits.ideal hc)
    obtain ⟨_, _, -, -, hp⟩ := hl.passage ht
    rw [← hR, ← hp.launched.deployed.core.supply.custody]
    exact ⟨e', hp.launched.lp_epoch, hl.both_liquidity ht hliq hlive'⟩

end

namespace Sample

theorem share_value_traded : ∃ w e, traded = some w ∧ w.lp_epoch 1 = some e
    ∧ e.total_shares ^ 2 ≤ w.balance .rfl_reserve * w.balance .usd_reserve := by
  obtain ⟨w, hw⟩ := exists_traded
  obtain ⟨e, he, hback, -⟩ := share_value (reachable_traded hw) (live_traded hw)
  exact ⟨w, e, hw, he, hback⟩

end Sample

end CedraReflect
