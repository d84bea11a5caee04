/-
The last withdrawal, and what follows it.

Whoever holds all shares can always withdraw them: nothing in the history of a
reachable live state stands against the closing checks (`final_exit`). After
it nothing reopens: the pool, the core and the epoch stay as they are, and the
wallets go on (`closure_terminal`).
-/
import CedraReflect.Conservation
import CedraReflect.ShareValue

set_option autoImplicit false
set_option linter.constructorNameAsVariable false

namespace CedraReflect

open Dividend (Ledger Act Valid Run)
open reflection_math (MAGNITUDE MAGNITUDE_pos)
open reflection_token (TOTAL_SUPPLY is_excluded_store)

/-! ## The last withdrawal -/

namespace World

variable {w : World} {e : LpEpoch} {a b : Address} {n : ℕ}

theorem effective_usdOut : (w.usdOut a n).effective b = w.effective b := by
  rw [effective, (w.outside_usdOut a n).pending, raw, (w.outside_usdOut a n).trfl _ rfl]
  rfl

theorem effective_lpWithdrawn : (w.lpWithdrawn e a n).effective b = w.effective b := by
  unfold lpWithdrawn exitLogged
  split <;> rfl

theorem effective_logged (event : Event) : (w.logged event).effective b = w.effective b := rfl

theorem lifecycle_logged (event : Event) :
    (w.logged event).reflection.lifecycle = w.reflection.lifecycle := rfl

theorem effective_shutDown : (w.shutDown e).effective b = w.effective b := rfl

theorem balance_shutDown : (w.shutDown e).balance = w.balance := rfl

theorem lifecycle_shutDown : (w.shutDown e).reflection.lifecycle = .CLOSED := rfl

/-- What a withdrawal pays: what is pending of LP rewards, and the share of the reserve. -/
theorem effective_liquidityRemoved (hn : w.rflShare e n ≤ w.custody.custody_shares) :
    (w.liquidityRemoved e a n).effective a
      = w.effective a + e.pending a + w.rflShare e n := by
  rw [liquidityRemoved, effective_usdOut, effective_released (by simpa using hn), if_pos rfl,
    effective_lpWithdrawn, effective_rewarded, if_pos rfl]

theorem balance_lpWithdrawn : (w.lpWithdrawn e a n).balance = w.balance := by
  unfold lpWithdrawn exitLogged
  split <;> rfl

/-- The closing itself moves nothing. -/
theorem parts_removedAll (w : World) (e : LpEpoch) (a : Address) (n : ℕ) :
    (w.removedAll e a n).reflection.lifecycle = .CLOSED
      ∧ (w.removedAll e a n).effective a = (w.liquidityRemoved e a n).effective a
      ∧ (w.removedAll e a n).balance = (w.liquidityRemoved e a n).balance := by
  unfold removedAll
  obtain ⟨v, hv⟩ : ∃ v, v = w.liquidityRemoved e a n := ⟨_, rfl⟩
  simp only [← hv, effective_logged, effective_shutDown, balance_logged, balance_shutDown,
    lifecycle_logged, lifecycle_shutDown, and_self]

end World

theorem Launched.tusd_liquidityRemoved {w : World} {e : LpEpoch} {a : Address} {n : ℕ}
    (h : Launched e w) (hl : Live e w) (hn0 : 0 < n) (hn : n ≤ (e.position a).shares) :
    (w.liquidityRemoved e a n).balance (.primary .tusd a)
      = w.balance (.primary .tusd a) + w.usdShare e n := by
  have hm := h.moved_withdrawn hl hn0 hn
  have htusd : (.primary .tusd a : Address).store_metadata ≠ some .trfl := by
    simp [Address.store_metadata]
  have hb : (((w.rewarded e a).lpWithdrawn (e.rewarded a) a n).released a (w.rflShare e n)).balance
      (.primary .tusd a) = w.balance (.primary .tusd a) := by
    rw [hm.frame.tusd _ htusd, World.balance_lpWithdrawn, World.tusd_rewarded _ _ _ htusd]
  rw [World.liquidityRemoved, World.usdOut, World.credit_balance, Function.update_self,
    World.debit_balance, Function.update_of_ne (by simp), hb]

theorem Launched.closed_iff {w : World} {e : LpEpoch} (h : Launched e w) :
    Closed e w ↔ w.reflection.lifecycle = .CLOSED := by
  refine ⟨fun hc => hc.lifecycle, fun hclosed => ?_⟩
  rcases h.phase with hp | hp
  · rw [hp.lifecycle] at hclosed
    cases hclosed
  · exact hp

/-- A closed epoch owes nobody, and its vault holds what rounding has left. -/
theorem Launched.terminal {w : World} {e : LpEpoch} (h : Launched e w) (hc : Closed e w) :
    w.balance .lp_reward_vault = e.terminal_rounding_reserve ∧ ∀ a, e.pending a = 0 := by
  have hb := h.deployed.books
  have hpart := hb.accounting.partition
  have hvault := h.deployed.vault
  have hliab := hb.liability_eq_zero hc.shares_zero
  rw [hliab, ← hb.rounding, hb.unallocated] at hpart
  refine ⟨?_, fun a => ?_⟩
  · rw [hc.terminal]
    omega
  · have hle := hb.accounting.shares_le a
    rw [hc.shares_zero] at hle
    exact LpEpoch.pending_idle hb (Nat.le_zero.mp hle)

section FinalExit

variable [NamedAddresses] {arithmetic : Arithmetic} {fee_bps : ℕ} {w : World}

/-- A withdrawal within the widths. -/
theorem Launched.performs_remove_liquidity {e : LpEpoch} {a : Address} {w' : World}
    {n min_rfl min_usd deadline : ℕ} (h : Launched e w)
    (hx : Tx.Executes (Call.remove_liquidity a n min_rfl min_usd deadline).run w () w') :
    Tx.Performs (ShortRun fee_bps w ∧ (insert a w.wallets).card < 2 ^ 64
        ∧ w.balance (.primary .tusd a) + w.balance .usd_reserve < 2 ^ 64)
      (Call.remove_liquidity a n min_rfl min_usd deadline).run w () w' := by
  refine hx.performs (fun hf => ?_) fun hf => ?_
  · obtain ⟨hs, hcard, -⟩ := hf
    exact Tx.fits_remove_liquidity h (hs.roomy h hcard) (Finset.mem_singleton_self a)
  · obtain ⟨hs, -, hroom⟩ := hf
    obtain ⟨_, _, _, _, ht⟩ := hs.launched h
    refine Tx.spacious_remove_liquidity h (ht.trans ?_) hroom
    decide

/-- **The final exit is never blocked.** In every reachable live state both
reserves and the shares are positive, and whoever holds all shares can withdraw
them at once, for no minimum. That pays what is pending of rewards and both
reserves whole, and closes the pool, the core and the epoch together; the
epoch's vault is left with its rounding reserve. After a short run of the
machine no width stops it, if the owner can be counted and has room in its
store for the tUSD. -/
theorem final_exit (h : Reachable arithmetic fee_bps w) (hlive : w.reflection.lifecycle = .LIVE) :
    ∃ e, w.lp_epoch 1 = some e ∧ 0 < w.balance .rfl_reserve ∧ 0 < w.balance .usd_reserve
      ∧ 0 < e.total_shares
      ∧ ∀ a deadline, (e.position a).shares = e.total_shares → w.now_seconds ≤ deadline →
        ∃ w' e', Tx.Performs (ShortRun fee_bps w ∧ (insert a w.wallets).card < 2 ^ 64
              ∧ w.balance (.primary .tusd a) + w.balance .usd_reserve < 2 ^ 64)
            (Call.remove_liquidity a e.total_shares 0 0 deadline).run w () w'
          ∧ w'.balance .rfl_reserve = 0 ∧ w'.balance .usd_reserve = 0
          ∧ w'.effective a = w.effective a + e.pending a + w.balance .rfl_reserve
          ∧ w'.balance (.primary .tusd a)
            = w.balance (.primary .tusd a) + w.balance .usd_reserve
          ∧ w'.reflection.lifecycle = .CLOSED
          ∧ w'.pool.map (fun pool => pool.lifecycle) = some .CLOSED
          ∧ w'.lp_epoch 1 = some e' ∧ e'.status = .CLAIM_ONLY ∧ e'.total_shares = 0
          ∧ e'.unallocated_rewards = 0
          ∧ w'.balance .lp_reward_vault = e'.terminal_rounding_reserve := by
  obtain ⟨e, hl⟩ := h.launched (by rw [hlive]; simp)
  have hL := hl.live_iff.mpr hlive
  have hR := hl.deployed.core.supply.custody
  refine ⟨e, hl.lp_epoch, hR ▸ hL.rfl_pos, hL.usd_pos, hL.shares_pos, fun a deadline hall hdl => ?_⟩
  have hRs : w.rflShare e e.total_shares = w.custody.custody_shares := if_pos rfl
  have hUs : w.usdShare e e.total_shares = w.usd := if_pos rfl
  -- For no minimum, the last owner passes every check of a withdrawal.
  have hrem : Removes e w a e.total_shares 0 0 deadline :=
    { deadline := hdl, pos := hL.shares_pos, live := hL, owned := hall.ge
      width := fun hne => absurd rfl hne
      rfl_pos := hRs ▸ hL.rfl_pos
      usd_pos := hUs ▸ hL.usd_pos
      min_rfl := Nat.zero_le _
      min_usd := Nat.zero_le _ }
  have hx : (Call.remove_liquidity a e.total_shares 0 0 deadline).Commits .ideal w
      (w.removedAll e a e.total_shares) :=
    (Tx.commits_remove_liquidity hl ()).mpr ⟨hrem, (if_pos rfl).symm⟩
  obtain ⟨_, -, hp⟩ := hl.removeAll hL hall.ge
  have hl' := hp.launched
  obtain ⟨hclosed, heff, htusd⟩ := w.parts_removedAll e a e.total_shares
  rw [World.effective_liquidityRemoved hRs.le, hRs, hR] at heff
  obtain ⟨w', hw'⟩ : ∃ w', w' = w.removedAll e a e.total_shares := ⟨_, rfl⟩
  rw [← hw'] at hx hl' hclosed heff htusd
  have hc' := hl'.closed_iff.mpr hclosed
  refine ⟨w', _, hl.performs_remove_liquidity
      (hx.executes (Call.remove_liquidity a e.total_shares 0 0 deadline).sound),
    ?_, hc'.usd_zero, heff, ?_, hclosed, ?_, hl'.lp_epoch, hc'.status, hc'.shares_zero,
    hl'.deployed.books.unallocated, (hl'.terminal hc').1⟩
  · rw [← hl'.deployed.core.supply.custody]
    exact hc'.rfl_zero
  · rw [htusd, hl.tusd_liquidityRemoved hL hL.shares_pos hall.ge, hUs]
    rfl
  · rw [hl'.deployed.pool, hclosed]
    rfl

end FinalExit

open Sample in
theorem final_exit_traded : ∃ w e w', traded = some w ∧ w.lp_epoch 1 = some e
    ∧ Tx.Commits (Call.remove_liquidity (.account 4) e.total_shares 0 0 0).run .machine w () w'
    ∧ w'.reflection.lifecycle = .CLOSED := by
  have hsole : (traded.bind fun w => (w.lp_epoch 1).map fun e =>
      decide ((e.position (.account 4)).shares = e.total_shares ∧ w.now_seconds ≤ 0
        ∧ w.custody.registered_wallet_count < 2 ^ 64 - 1
        ∧ w.balance (.primary .tusd (.account 4)) + w.balance .usd_reserve < 2 ^ 64))
        = some true := by
    decide +kernel
  obtain ⟨w, hw⟩ := exists_traded
  have hreachable := reachable_traded hw
  obtain ⟨e, he, -, -, -, hexit⟩ := final_exit hreachable (live_traded hw)
  rw [hw, Option.bind_some, he, Option.map_some] at hsole
  obtain ⟨hall, hdl, hcount, hroom⟩ := of_decide_eq_true (Option.some.inj hsole)
  have hcard : (insert (.account 4) w.wallets).card < 2 ^ 64 :=
    hreachable.core.card_insert_lt hcount
  obtain ⟨w', -, hx, -, -, -, -, hclosed, -⟩ := hexit (.account 4) 0 hall hdl
  exact ⟨w, e, w', hw, he, hx.commits ⟨shortRun_traded hw, hcard, hroom⟩, hclosed⟩

/-! ## After the closure -/

/-- The calls that a closed pool refuses. -/
def Call.of_live : Call → Bool
  | .sell_trfl .. | .buy_trfl .. | .add_liquidity .. | .remove_liquidity ..
  | .transfer_lp_shares .. | .claim_lp_rewards .. | .checkpoint_lp_rewards | .claim_trfl _
  | .claim_tusd _ => true
  | _ => false

section Terminal

variable [NamedAddresses] {arithmetic : Arithmetic} {fee_bps : ℕ} {w w' : World} {e e' : LpEpoch}
  {c : Call}

/-- What a closed state keeps: the epoch, and the index with its remainder and fees. -/
structure Shut (e : LpEpoch) (w v : World) : Prop where
  launched : Launched e v
  closed : Closed e v
  index : v.reflection.index = w.reflection.index
  index_remainder : v.reflection.index_remainder = w.reflection.index_remainder
  lifetime_fees : v.reflection.lifetime_fees = w.reflection.lifetime_fees

omit [NamedAddresses] in
theorem Closed.not_live (hc : Closed e w) : ¬ Live e w := by
  intro hl
  have := hl.lifecycle
  rw [hc.lifecycle] at this
  cases this

/-- A closed pool makes no transition of a live one, and stays closed. -/
theorem Launched.transition_closed (h : Launched e w) (hc : Closed e w)
    (ht : Transition e w c e' w') : c.of_live = false ∧ Shut e w w' := by
  obtain ⟨as, _, has, -, hp⟩ := h.passage ht
  have hfaucet : w.reflection.lifecycle ≠ .LIVE := by simp [hc.lifecycle]
  -- Every call of a live pool aborts, and so do the faucet's.
  have hquiet : c.of_live = false ∧ c.swap = false ∧ e' = e := by
    cases ht with
    | sell hs => exact absurd hs.live hc.not_live
    | buy hs => exact absurd hs.live hc.not_live
    | add hs => exact absurd hs.live hc.not_live
    | remove hs _ => exact absurd hs.live hc.not_live
    | remove_all hs _ => exact absurd hs.live hc.not_live
    | transfer_shares hs => exact absurd hs.live hc.not_live
    | claim_shares hl _ _ _ => exact absurd hl hc.not_live
    | checkpoint hl => exact absurd hl hc.not_live
    | claim_trfl _ hl _ _ => exact absurd hl hfaucet
    | claim_tusd _ hl => exact absurd hl hfaucet
    | _ => exact ⟨rfl, rfl, rfl⟩
  obtain ⟨hlive, hswap, rfl⟩ := hquiet
  have hclosed : Closed e' w' := by
    rcases hp.launched.phase with hl | hc'
    · have := hl.status
      rw [hc.status] at this
      cases this
    · exact hc'
  have hrun := hp.core_run
  have hstill : ∀ x ∈ as, ∀ n, x ≠ .receive n := by
    cases has with
    | sell _ => cases hswap
    | buy _ => cases hswap
    | quiet _ hq =>
        rintro x hx n rfl
        exact hq _ hx
  obtain ⟨hi, hr, -, hf⟩ := hrun.scalars_eq hstill
  exact ⟨hlive, hp.launched, hclosed, hi, hr, hf⟩

/-- **The run lemma of closure.** No list of attempts reopens anything. -/
theorem Launched.attempts_closed (h : Launched e w) (hc : Closed e w) (cs : List Call) :
    Shut e w (Call.attempts arithmetic w cs) := by
  refine Call.attempts_induction (P := Shut e w) ⟨h, hc, rfl, rfl, rfl⟩ fun v v' hv c _ hcv => ?_
  obtain ⟨e', ht⟩ := hv.launched.transition (Call.Commits.ideal hcv)
  obtain ⟨-, hv'⟩ := hv.launched.transition_closed hv.closed ht
  exact ⟨hv'.launched, hv'.closed, hv'.index.trans hv.index,
    hv'.index_remainder.trans hv.index_remainder, hv'.lifetime_fees.trans hv.lifetime_fees⟩

/-- **Closure is terminal, and freezes nobody.** Whatever is attempted from a
closed state, pool and core stay closed, the index, its remainder, the fees and
the whole LP registry stay as they are, and there are no shares, no pending LP
rewards and nothing in the vault but the reserve of rounding. Calls of a live
pool, LP claims among them, commit no more. Registration, claims and transfers
go on as ever: they register, and pay out of the vault what they are asked for,
and move effective balances as they do while live. After a short run of the
machine no width stops them, if whom they register can be counted. -/
theorem closure_terminal (h : Reachable arithmetic fee_bps w)
    (hclosed : w.reflection.lifecycle = .CLOSED) (cs : List Call) :
    ∃ v, v = Call.attempts arithmetic w cs
      ∧ v.reflection.lifecycle = .CLOSED ∧ v.pool.map (fun pool => pool.lifecycle) = some .CLOSED
      ∧ v.reflection.index = w.reflection.index
      ∧ v.reflection.index_remainder = w.reflection.index_remainder
      ∧ v.reflection.lifetime_fees = w.reflection.lifetime_fees
      ∧ v.lp_registry = w.lp_registry
      ∧ (∃ e, v.lp_epoch 1 = some e ∧ e.total_shares = 0 ∧ (∀ a, e.pending a = 0)
        ∧ v.balance .lp_reward_vault = e.terminal_rounding_reserve)
      ∧ (∀ (c : Call) v', c.Commits arithmetic v v' → c.of_live = false)
      ∧ (∀ a, is_excluded_store v.reflection (.primary .trfl a) = false →
        ∃ v', Tx.Performs (ShortRun fee_bps w ∧ (insert a v.wallets).card < 2 ^ 64)
            (Call.register_wallet a).run v () v'
          ∧ v'.wallets = insert a v.wallets ∧ v'.balance = v.balance
          ∧ ∀ b, v'.effective b = v.effective b)
      ∧ (∀ a ∈ v.wallets, ∀ n, 0 < n → n ≤ v.pending (some a) →
        ∃ v', Tx.Performs (ShortRun fee_bps w) (Call.claim a n).run v () v'
          ∧ v'.raw a = v.raw a + n ∧ v'.balance .reward_vault + n = v.balance .reward_vault
          ∧ ∀ b, v'.effective b = v.effective b)
      ∧ (∀ a ∈ v.wallets, 0 < v.pending (some a) →
        ∃ v', Tx.Performs (ShortRun fee_bps w) (Call.claim_all a).run v () v'
          ∧ v'.raw a = v.raw a + v.pending (some a) ∧ v'.pending (some a) = 0
          ∧ v'.balance .reward_vault + v.pending (some a) = v.balance .reward_vault
          ∧ ∀ b, v'.effective b = v.effective b)
      ∧ ∀ a ∈ v.wallets, ∀ b n, is_excluded_store v.reflection (.primary .trfl b) = false →
        (n ≤ v.effective a → ∃ v',
            Tx.Performs (ShortRun fee_bps w ∧ (insert b v.wallets).card < 2 ^ 64)
              (reflection_token.hook_transfer a b n) v () v')
          ∧ ∀ v', Tx.Commits (reflection_token.hook_transfer a b n) arithmetic v () v' →
            n ≤ v.effective a
              ∧ (a ≠ b → v'.effective a + n = v.effective a ∧ v'.effective b = v.effective b + n)
              ∧ (a = b → v'.effective a = v.effective a)
              ∧ ∀ c, c ≠ a → c ≠ b → v'.raw c = v.raw c
                ∧ v'.pending (some c) = v.pending (some c) ∧ v'.effective c = v.effective c := by
  obtain ⟨e, hl⟩ := h.launched (by rw [hclosed]; simp)
  -- A closed pool stays closed over any number of attempts.
  have hv : Shut e w (Call.attempts arithmetic w cs) :=
    hl.attempts_closed (hl.closed_iff.mpr hclosed) cs
  obtain ⟨v, hveq⟩ : ∃ v, v = Call.attempts arithmetic w cs := ⟨_, rfl⟩
  rw [← hveq] at hv
  have hcore := hv.launched.deployed.core
  have hcl := hv.closed.lifecycle
  have hnc : v.reflection.lifecycle ≠ .CONFIGURING := by simp [hcl]
  obtain ⟨hvault, hpending⟩ := hv.launched.terminal hv.closed
  -- The index stands still, and with it all that a width could be exceeded by.
  have hnarrow : ShortRun fee_bps w → v.Narrow := fun hs =>
    ⟨hv.index ▸ hs.narrow.index, hv.lifetime_fees ▸ hs.narrow.fees,
      hv.index_remainder ▸ hs.narrow.remainder⟩
  refine ⟨v, hveq, hcl, ?_, hv.index, hv.index_remainder, hv.lifetime_fees, ?_,
    ⟨e, hv.launched.lp_epoch, hv.closed.shares_zero, hpending, hvault⟩, fun c v' hc => ?_,
    fun a hx => ?_, fun a ha n hn0 hn => ?_, fun a ha hpos => ?_,
    fun a ha b n hx => hcore.hook_transfer hnc ha hx (fun hf => hnarrow hf.1) fun hf => hf.2⟩
  · rw [hv.launched.deployed.pool, hcl]
    rfl
  · rw [hv.closed.epoch, (hl.closed_iff.mpr hclosed).epoch]
  · obtain ⟨e', ht⟩ := hv.launched.transition (Call.Commits.ideal hc)
    exact (hv.launched.transition_closed hv.closed ht).1
  · have hc := (Tx.commits_register_wallet hcore ()).mpr ⟨hnc, hx, rfl⟩
    refine ⟨_, hcore.performs (m := reflection_token.register_wallet a)
      (hc.executes (Call.register_wallet a).sound) fun hf => Tx.fits_register_wallet hcore hf.2,
      World.wallets_ensured v a, World.balance_ensured v a, fun b => ?_⟩
    rw [World.effective, World.raw, World.balance_ensured, World.pending_ensured]
    rfl
  · have hx := hcore.performs_claim hnc ha hn0 hn hnarrow
    obtain ⟨hraw, hpaid⟩ := hcore.claim_pays hx.ideal
    exact ⟨_, hx, hraw, hpaid, hcore.effective_claimed (.inl hx.ideal)⟩
  · have hc := (Tx.commits_claim_all hcore ()).mpr ⟨hnc, ha, hpos, rfl⟩
    obtain ⟨hraw, hzero, hpaid⟩ := hcore.claim_all_pays hc
    exact ⟨_, hcore.performs (m := reflection_token.claim_all a)
      (hc.executes (Call.claim_all a).sound) fun hf => Tx.fits_claim_all hcore (hnarrow hf),
      hraw, hzero, hpaid, hcore.effective_claimed (n := 0) (.inr hc)⟩

end Terminal

namespace Sample

/-- The sample after the exit of its only owner, with two accounts yet to be paid. -/
def exited : Option World :=
  script .machine .unpublished (.initialize_token (.account 1) 50 :: (opening ++
    [.claim_trfl (.account 7), .claim_trfl (.account 8), .sell_trfl (.account 9) 40_000_000 0 0,
      .remove_liquidity (.account 4) 500_000_000 0 0 0]))

/-- One of them claims, the other sends all that it can spend. -/
theorem closure_terminal_exited : ∃ w v v' v'', exited = some w
    ∧ v = Call.attempts .machine w [.sell_trfl (.account 9) 1_000_000 0 0]
    ∧ v.reflection.lifecycle = .CLOSED
    ∧ Tx.Commits (Call.claim_all (.account 7)).run .machine v () v'
    ∧ v.raw (.account 7) < v'.raw (.account 7)
    ∧ Tx.Commits (reflection_token.hook_transfer (.account 8) (.account 6)
      (v.effective (.account 8))) .machine v () v'' := by
  have hfacts : (exited.map fun w => decide (w.reflection.lifecycle = .CLOSED)) = some true := by
    decide +kernel
  have hleft : (exited.map fun w =>
      let v := Call.attempts .machine w [.sell_trfl (.account 9) 1_000_000 0 0]
      decide (0 < v.pending (some (.account 7)) ∧ 0 < v.pending (some (.account 8))
        ∧ is_excluded_store v.reflection (.primary .trfl (.account 6)) = false
        ∧ v.custody.registered_wallet_count < 2 ^ 64 - 1)) = some true := by
    decide +kernel
  obtain ⟨w, hw, hcl⟩ := Option.map_eq_some_iff.mp hfacts
  rw [hw, Option.map_some] at hleft
  have hscript := hw
  unfold exited at hscript
  have hshort : ShortRun 50 w := shortRun_of_script hscript (by decide)
  obtain ⟨v, hv, hlc, -, -, -, -, -, -, -, -, -, hclaims, htransfers⟩ :=
    closure_terminal hshort.reachable (of_decide_eq_true hcl)
      [.sell_trfl (.account 9) 1_000_000 0 0]
  have hcore : Core v := by
    rw [hv]
    exact (hshort.reachable.attempts _).core
  rw [← hv] at hleft
  obtain ⟨h₇, h₈, heligible, hcount⟩ := of_decide_eq_true (Option.some.inj hleft)
  have hcard : (insert (.account 6) v.wallets).card < 2 ^ 64 := hcore.card_insert_lt hcount
  obtain ⟨v', hclaim, hraw, -⟩ := hclaims _ (hcore.wallet_of_pending h₇) h₇
  obtain ⟨v'', hsent⟩ := (htransfers _ (hcore.wallet_of_pending h₈) (.account 6) _ heligible).1
    le_rfl
  exact ⟨w, v, v', v'', hw, hv, hlc, hclaim.commits hshort, by omega,
    hsent.commits ⟨hshort, hcard⟩⟩

end Sample

end CedraReflect
