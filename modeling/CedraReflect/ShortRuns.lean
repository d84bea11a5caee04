/-
Runs that no width stops.

On the machine a run with fewer than `2 ^ 64` swaps keeps every ledger within
its widths, whatever else it does ([`ShortRun`]). What executes after it
therefore commits, if the stores it pays into have the room: tRFL stores always
have it, and a store of tUSD is asked for it by name. That is what a theorem
about executions adds with [`Tx.Performs`].
-/
import CedraReflect.ArithmeticSafety
import CedraReflect.StoreFits

set_option autoImplicit false
set_option linter.constructorNameAsVariable false

namespace CedraReflect

open reflection_token (TOTAL_SUPPLY is_excluded_store)
open reflection_settlement (MAX_U64)

/-- `m` executes in `w`, and where `fits` holds no width stops it: on the machine
it commits. -/
structure Tx.Performs {α : Type} (fits : Prop) (m : Move α) (w : World) (x : α) (w' : World) :
    Prop extends Tx.Executes m w x w' where
  commits : fits → Tx.Commits m .machine w x w'

section Performs

variable {α : Type} {fits : Prop} {m : Move α} {w w' : World} {x : α}

theorem Tx.Executes.performs (h : Tx.Executes m w x w') (hin : fits → Fits m w)
    (hout : fits → Spacious m w) : Tx.Performs fits m w x w' :=
  ⟨h, fun hfits => h.commits (hin hfits) (hout hfits)⟩

/-- The core and the epoch pay in tRFL only, of which every store has room. -/
theorem Core.performs (h : Core w) [Sheltered w.balance m] (hx : Tx.Executes m w x w')
    (hin : fits → Fits m w) : Tx.Performs fits m w x w' :=
  hx.performs hin fun _ => Tx.sheltered h.funded

end Performs

section ShortRun

variable [NamedAddresses] {fee_bps : ℕ} {w : World} {e : LpEpoch} {a : Address} {cs : List Call}

/-- `w` is where a run of the machine with fewer than `2 ^ 64` swaps has led. -/
def ShortRun (fee_bps : ℕ) (w : World) : Prop :=
  ∃ admin w₀ cs, Tx.Commits (reflection_token.initialize_token admin fee_bps) .machine .unpublished
      () w₀
    ∧ Calls .machine w₀ cs w ∧ cs.countP Call.swap < 2 ^ 64

namespace ShortRun

theorem reachable (h : ShortRun fee_bps w) : Reachable .machine fee_bps w := by
  obtain ⟨admin, w₀, cs, hgenesis, hrun, -⟩ := h
  exact (Reachable.genesis hgenesis).calls hrun

theorem reached (h : ShortRun fee_bps w) : ∃ k < 2 ^ 64, Reached fee_bps k w := by
  obtain ⟨admin, w₀, cs, hgenesis, hrun, hswaps⟩ := h
  have hreached := (Reached.genesis hgenesis).calls (.genesis hgenesis) hrun
  rw [Nat.zero_add] at hreached
  exact ⟨_, hswaps, hreached⟩

/-- Calls that are no swaps do not make a run any longer. -/
theorem calls {w' : World} (h : ShortRun fee_bps w) (hrun : Calls .machine w cs w')
    (hcs : ∀ c ∈ cs, c.swap = false) : ShortRun fee_bps w' := by
  obtain ⟨admin, w₀, before, hgenesis, hbefore, hswaps⟩ := h
  refine ⟨admin, w₀, before ++ cs, hgenesis, hbefore.append hrun, ?_⟩
  have hzero : cs.countP Call.swap = 0 := List.countP_eq_zero.mpr fun c hc => by simp [hcs c hc]
  rw [List.countP_append, hzero, Nat.add_zero]
  exact hswaps

/-- The core's ledger is narrow. -/
theorem narrow (h : ShortRun fee_bps w) : w.Narrow := by
  obtain ⟨k, hk, hreached⟩ := h.reached
  cases hreached with
  | configuring hc =>
      obtain ⟨faucet, bound, now, rfl⟩ := hc
      exact Tx.narrow_configuring
  | launched _ hw _ => exact hw.narrow hk.le

/-- A launched state is within the bounds of its swaps, and its epoch with it. -/
theorem launched (h : ShortRun fee_bps w) (hl : Launched e w) :
    ∃ k < 2 ^ 64, w.Within k ∧ e.Within k ∧ e.total_shares ≤ 2 ^ 57 := by
  obtain ⟨k, hk, hreached⟩ := h.reached
  cases hreached with
  | configuring hc =>
      obtain ⟨faucet, bound, now, rfl⟩ := hc
      exact absurd rfl hl.not_configuring
  | launched hl' hw he =>
      obtain rfl : _ = e := Option.some.inj (hl'.lp_epoch.symm.trans hl.lp_epoch)
      exact ⟨k, hk, hw, he, hl.shares_le h.reachable.usd_le⟩

/-- If `a` can be counted, every entry of `a` has the room it asks for. -/
theorem roomy (h : ShortRun fee_bps w) (hl : Launched e w)
    (hcard : (insert a w.wallets).card < 2 ^ 64) : Roomy {a} e w := by
  obtain ⟨k, hk, hw, he, ht⟩ := h.launched hl
  refine ⟨hw.narrow hk.le, he.narrow hk.le ht, ?_⟩
  rwa [Finset.union_comm, ← Finset.insert_eq]

end ShortRun

omit [NamedAddresses] in
/-- While the count of wallets has room for one more, `a` can be counted. -/
theorem Core.card_insert_lt (h : Core w)
    (hcount : w.custody.registered_wallet_count < 2 ^ 64 - 1) :
    (insert a w.wallets).card < 2 ^ 64 := by
  rw [h.membership.count] at hcount
  exact (Finset.card_insert_le _ _).trans_lt (by omega)

/-- A script of the machine is short as far as anyone can write one. -/
theorem shortRun_of_script {admin : Address}
    (h : script .machine .unpublished (.initialize_token admin fee_bps :: cs) = some w)
    (hswaps : cs.countP Call.swap < 2 ^ 64) : ShortRun fee_bps w := by
  cases calls_of_script h with
  | cons hc hs => exact ⟨admin, _, cs, hc, hs, hswaps⟩

end ShortRun

namespace Sample

theorem shortRun_traded {w : World} (hw : traded = some w) : ShortRun 50 w := by
  unfold traded at hw
  exact shortRun_of_script hw (by decide)

/-- After the opening two more accounts are granted tRFL, and are owed a part of
the fee of one more sell. -/
def owing : Option World :=
  script .machine .unpublished (.initialize_token (.account 1) 50 :: (opening ++
    [.claim_trfl (.account 7), .claim_trfl (.account 8), .sell_trfl (.account 9) 40_000_000 0 0]))

theorem exists_owing : ∃ w, owing = some w ∧ w.reflection.lifecycle = .LIVE
    ∧ 2 ≤ w.pending (some (.account 7)) ∧ 2 ≤ w.pending (some (.account 8)) := by
  have h : (owing.map fun w => decide (w.reflection.lifecycle = .LIVE
      ∧ 2 ≤ w.pending (some (.account 7)) ∧ 2 ≤ w.pending (some (.account 8)))) = some true := by
    decide +kernel
  obtain ⟨w, hw, hp⟩ := Option.map_eq_some_iff.mp h
  exact ⟨w, hw, of_decide_eq_true hp⟩

theorem shortRun_owing {w : World} (hw : owing = some w) : ShortRun 50 w := by
  unfold owing at hw
  exact shortRun_of_script hw (by decide)

end Sample

end CedraReflect
