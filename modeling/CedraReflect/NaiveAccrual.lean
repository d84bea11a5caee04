/-
The index against iteration over all holders.

[`Naive`] keeps one accumulator a holder and touches them only when a fee is
received, by walking over everybody who then has shares. Who has how many
shares at that instant is in [`Call.receipt`]. The contract walks over nobody,
and its `raw * index + correction` is the accumulator all the same.
-/
import CedraReflect.Solvency

set_option autoImplicit false
set_option linter.constructorNameAsVariable false

namespace CedraReflect

open Dividend (Ledger Act Valid Run)
open reflection_math (MAGNITUDE MAGNITUDE_pos)
open reflection_token (TOTAL_SUPPLY is_excluded_store)

/-! ## The naive books -/

/-- A fee, and who shares in it. -/
structure Receipt where
  fee : ℕ
  holders : Finset (Option Address)
  shares : Option Address → ℕ

/-- All shares that share in the fee. -/
def Receipt.total (r : Receipt) : ℕ := ∑ i ∈ r.holders, r.shares i

/-- Nothing is received of a fee of zero. -/
def Receipt.unlessZero (r : Receipt) : Option Receipt := if r.fee = 0 then none else some r

namespace World

variable (w : World) (a : Address) (n : ℕ)

/-- The fee of a sell of `n` gross units: they are already gone, and the net
units are not yet the pool's. -/
def sellReceipt : Receipt where
  fee := w.feeOn n
  holders := w.wallets.insertNone
  shares
    | none => w.custody.custody_shares
    | some b => if b = a then w.effective a - n else w.raw b

/-- The fee of a buy for `n` units of tUSD: the gross output is gone from the
pool, and the net output is not yet the buyer's. -/
def buyReceipt : Receipt where
  fee := w.feeOn (w.buyOutput n)
  holders := (insert a w.wallets).insertNone
  shares
    | none => w.custody.custody_shares - w.buyOutput n
    | some b => if b = a then w.effective a else w.raw b

end World

/-- The fee a call receives. -/
def Call.receipt (w : World) : Call → Option Receipt
  | .sell_trfl seller gross _ _ => (w.sellReceipt seller gross).unlessZero
  | .buy_trfl buyer input _ _ => (w.buyReceipt buyer input).unlessZero
  | _ => none

/-- An accumulator for every holder, with the index the receipts have moved. -/
structure Naive where
  index : ℕ
  remainder : ℕ
  accumulator : Option Address → ℕ

namespace Naive

/-- Before the first receipt. -/
def zero : Naive := ⟨0, 0, fun _ => 0⟩

/-- How far a receipt moves the index. -/
def increase (v : Naive) (r : Receipt) : ℕ := (MAGNITUDE * r.fee + v.remainder) / r.total

/-- A receipt is shared by walking over all holders. -/
def receive (v : Naive) (r : Receipt) : Naive where
  index := v.index + v.increase r
  remainder := (MAGNITUDE * r.fee + v.remainder) % r.total
  accumulator i := v.accumulator i + r.shares i * v.increase r

/-- The naive books after what a call receives, if anything. -/
def after (v : Naive) : Option Receipt → Naive
  | some r => v.receive r
  | none => v

/-- The naive books are kept beside the contract: an attempt that aborts changes neither. -/
def step [NamedAddresses] (arithmetic : Arithmetic) (s : World × Naive) (c : Call) :
    World × Naive :=
  match c.run arithmetic s.1 with
  | .ok (_, w') => (w', s.2.after (c.receipt s.1))
  | .error _ => s

/-- The contract and the naive books after a list of attempts. -/
def run [NamedAddresses] (arithmetic : Arithmetic) (s : World × Naive) (cs : List Call) :
    World × Naive :=
  cs.foldl (step arithmetic) s

end Naive

/-- The naive books tell what the contract's index and corrections encode. -/
structure Encodes (w : World) (v : Naive) : Prop where
  index : w.reflection.index = v.index
  remainder : w.reflection.index_remainder = v.remainder
  accrued : ∀ i, w.coreLedger.accrued i = v.accumulator i

/-! ## The instant of a receipt -/

section Instant

variable {e : LpEpoch} {w : World} {a : Address} {n fee : ℕ}

/-- Neither a receipt nor a retirement. -/
def Still (x : Act (Option Address)) : Prop := (∀ n, x ≠ .receive n) ∧ ∀ i r, x ≠ .retire i r

theorem Quiet.still {x : Act (Option Address)} (h : Quiet x) : Still x := by
  constructor <;> intros <;> rintro rfl <;> exact h

theorem still_routing (n : ℕ) : ∀ x ∈ World.routing n, Still x := by
  intro x hx
  unfold World.routing at hx
  split at hx
  · simp at hx
  · rw [List.mem_singleton.mp hx]
    simp [Still]

/-- A sell, seen from the instant at which its fee is taken. -/
theorem Launched.run_sell {limit deadline : ℕ} (h : Launched e w)
    (hs : Sells e w a n limit deadline) :
    ∃ as bs, (∀ x ∈ as, Quiet x) ∧ (∀ x ∈ bs, Still x)
      ∧ Run MAGNITUDE w.coreLedger as (w.sellInstant a n).coreLedger
      ∧ Run MAGNITUDE (w.sellInstant a n).coreLedger (Core.receipts (w.feeOn n) ++ bs)
        (w.sellSwapped e a n).coreLedger := by
  -- Up to the fee nothing is received, and after it only payments and transfers follow.
  obtain ⟨pre, hpre, h₁⟩ := h.deployed.core.step_sellInstant hs.wallet hs.funds
  obtain ⟨mid, hmid, h₂⟩ := h₁.core.step_sold_of_instant (h.deployed.feeOn_le n)
  obtain ⟨_, _, -, -, h₃⟩ :=
    h.deployed.sold hs.live.rfl_pos hs.wallet hs.funds (h.deployed.feeOn_le n)
  have h₄ := h₃.deployed.checkpointed (h₃.epoch 1 hs.live.epoch) hs.live.shares_pos.ne'
  have h₅ := h₄.deployed.outside (w.outside_sellSwapped e a n)
  have hrun := (h₂.run.append h₄.core_run).append h₅.core_run
  rw [List.append_nil, List.append_assoc] at hrun
  refine ⟨_, _, ?_, ?_, h₁.run, hrun⟩
  · intro x hx
    rcases List.mem_append.mp hx with hx | hx
    · exact hpre x hx
    · rw [List.mem_singleton.mp hx]
      trivial
  · intro x hx
    rcases List.mem_append.mp hx with hx | hx
    · rcases List.mem_append.mp hx with hx | hx
      · exact (hmid x hx).still
      · rw [List.mem_singleton.mp hx]
        simp [Still]
    · exact still_routing _ x hx

/-- A buy, seen from the instant at which its fee is taken. -/
theorem Launched.run_buy {limit deadline : ℕ} (h : Launched e w)
    (hs : Buys e w a n limit deadline) :
    ∃ as bs, (∀ x ∈ as, Quiet x) ∧ (∀ x ∈ bs, Still x)
      ∧ Run MAGNITUDE w.coreLedger as ((w.usdIn a n).buyInstant a (w.buyOutput n)).coreLedger
      ∧ Run MAGNITUDE ((w.usdIn a n).buyInstant a (w.buyOutput n)).coreLedger
        (Core.receipts (w.feeOn (w.buyOutput n)) ++ bs) (w.buySwapped e a n).coreLedger := by
  have h₀ := h.deployed.outside (w.outside_usdIn a n)
  have hR := hs.output_lt
  obtain ⟨pre, hpre, h₁⟩ := h₀.deployed.core.step_buyInstant (a := a) hs.eligible hR.le
  obtain ⟨mid, hmid, h₂⟩ := h₁.core.step_bought_of_instant (h.deployed.feeOn_le (w.buyOutput n))
  obtain ⟨_, _, -, -, h₃⟩ := h₀.deployed.bought (a := a) hR hs.eligible (h.deployed.feeOn_le _)
  have h₄ := h₃.deployed.checkpointed (h₃.epoch 1 (h₀.epoch 1 hs.live.epoch))
    hs.live.shares_pos.ne'
  have h₅ := h₄.deployed.outside (w.outside_buySwapped e a n)
  have hrun := (h₂.run.append h₄.core_run).append h₅.core_run
  rw [List.append_nil, List.append_assoc] at hrun
  refine ⟨_, _, ?_, ?_, h₀.core_run.append h₁.run, hrun⟩
  · intro x hx
    rw [List.nil_append] at hx
    rcases List.mem_append.mp hx with hx | hx
    · exact hpre x hx
    · rw [List.mem_singleton.mp hx]
      trivial
  · intro x hx
    rcases List.mem_append.mp hx with hx | hx
    · rcases List.mem_append.mp hx with hx | hx
      · exact (hmid x hx).still
      · rw [List.mem_singleton.mp hx]
        simp [Still]
    · exact still_routing _ x hx

/-- Who shares in a sell's fee. -/
theorem shares_sellInstant (i : Option Address) :
    (w.sellInstant a n).coreLedger.shares i = (w.sellReceipt a n).shares i := by
  rcases i with _ | b
  · simp [World.sellInstant, World.sellReceipt]
  · show (w.sellInstant a n).raw b = if b = a then w.effective a - n else w.raw b
    rw [World.sellInstant, World.raw_walletDebited, World.raw_materializedAll,
      World.raw_materializedAll, if_pos rfl]
    by_cases hb : b = a
    · rw [if_pos hb, if_pos hb]
    · rw [if_neg hb, if_neg hb, if_neg hb]

theorem holders_sellInstant :
    (w.sellInstant a n).coreLedger.holders = w.wallets.insertNone := by
  show (w.materializedAll a false .SELL_PRE).wallets.insertNone = _
  rw [World.wallets_materializedAll]

/-- Who shares in a buy's fee. -/
theorem shares_buyInstant (i : Option Address) :
    ((w.usdIn a n).buyInstant a (w.buyOutput n)).coreLedger.shares i
      = (w.buyReceipt a n).shares i := by
  have hraw : ∀ b, ((w.usdIn a n).ensured a).raw b = w.raw b := fun b => by
    rw [World.raw, World.balance_ensured]
    exact (w.outside_usdIn a n).trfl _ rfl
  rcases i with _ | b
  · simp [World.buyInstant, World.usdIn, World.buyReceipt]
  · show (((w.usdIn a n).ensured a).materializedAll a false .BUY_PRE).raw b
      = if b = a then w.effective a else w.raw b
    rw [World.raw_materializedAll, World.effective, hraw, hraw, World.pending_ensured,
      (w.outside_usdIn a n).pending]
    rfl

theorem holders_buyInstant :
    ((w.usdIn a n).buyInstant a (w.buyOutput n)).coreLedger.holders
      = (insert a w.wallets).insertNone := by
  show (((w.usdIn a n).ensured a).materializedAll a false .BUY_PRE).wallets.insertNone = _
  rw [World.wallets_materializedAll]
  congr 1
  show ((w.usdIn a n).ensured a).wallets = _
  unfold World.ensured
  split
  · next ha => exact (Finset.insert_eq_of_mem ha).symm
  · exact World.wallets_enrolled _

end Instant

/-! ## The simulation -/

namespace Encodes

variable {w w' : World} {v : Naive} {as bs : List (Act (Option Address))}

/-- Where nothing is received, the naive books stay. -/
theorem still (h : Encodes w v) (hrun : Run MAGNITUDE w.coreLedger as w'.coreLedger)
    (has : ∀ x ∈ as, Still x) : Encodes w' v := by
  obtain ⟨hi, hr, -, -⟩ := hrun.scalars_eq fun x hx => (has x hx).1
  exact ⟨hi.trans h.index, hr.trans h.remainder, fun i =>
    (hrun.accrued_eq i fun x hx => ⟨(has x hx).1, (has x hx).2 i⟩).trans (h.accrued i)⟩

/-- Where a fee is received from `P`, they receive it. -/
theorem receive {P : World} {r : Receipt} (h : Encodes P v)
    (hrun : Run MAGNITUDE P.coreLedger (Core.receipts r.fee ++ bs) w'.coreLedger)
    (hbs : ∀ x ∈ bs, Still x) (hshares : ∀ i, P.coreLedger.shares i = r.shares i)
    (hholders : P.coreLedger.holders = r.holders) (hpos : 0 < r.shares none) :
    Encodes w' (v.after r.unlessZero) ∧ 0 < r.total := by
  have htotal : P.coreLedger.total = r.total := by
    rw [Ledger.total, Receipt.total, hholders]
    exact Finset.sum_congr rfl fun i _ => hshares i
  -- The pool has shares at that instant, so that the division is defined.
  have hle := Dividend.shares_le_total (L := P.coreLedger) P.none_mem_holders
  rw [hshares, htotal] at hle
  refine ⟨?_, by omega⟩
  unfold Receipt.unlessZero
  by_cases hfee : r.fee = 0
  · rw [if_pos hfee]
    rw [hfee] at hrun
    exact h.still hrun hbs
  rw [if_neg hfee]
  rw [Core.receipts, if_neg hfee, List.singleton_append] at hrun
  obtain ⟨hi, hr, hacc⟩ := hrun.receive_still (by omega) hbs
  have hinc : P.coreLedger.increment MAGNITUDE r.fee = v.increase r := by
    rw [Ledger.increment, htotal, Naive.increase, P.coreLedger_remainder, h.remainder]
  refine ⟨?_, ?_, fun i => ?_⟩
  · change w'.reflection.index = _ at hi
    rw [hi, hinc, P.coreLedger_index, h.index]
    rfl
  · change w'.reflection.index_remainder = _ at hr
    rw [hr, htotal, P.coreLedger_remainder, h.remainder]
    rfl
  · rw [hacc, hinc, h.accrued, hshares]
    show _ = ((v.accumulator i + r.shares i * v.increase r : ℕ) : ℤ)
    push_cast
    rfl

end Encodes

theorem Receipt.unlessZero_eq {r r' : Receipt} (h : r.unlessZero = some r') : r' = r := by
  unfold Receipt.unlessZero at h
  split at h
  · cases h
  · exact (Option.some.inj h).symm

section Simulation

variable {e e' : LpEpoch} {w w' : World} {v : Naive} {c : Call}

theorem Call.receipt_of_not_swap (hc : c.swap = false) : c.receipt w = none := by
  cases c <;> first | rfl | cases hc

variable [NamedAddresses]

/-- **One step of the simulation**: the naive books after a call encode the
state after it. A fee is never divided over nobody. -/
theorem Encodes.transition (hl : Launched e w) (h : Encodes w v) (ht : Transition e w c e' w') :
    Encodes w' (v.after (c.receipt w)) ∧ ∀ r, c.receipt w = some r → 0 < r.total := by
  -- Only a swap receives a fee; every other call leaves the accumulators.
  by_cases hswap : c.swap = false
  · obtain ⟨as, bs, hacts, -, hp⟩ := hl.passage ht
    rw [Call.receipt_of_not_swap hswap]
    refine ⟨h.still hp.core_run fun x hx => ?_, by simp⟩
    cases hacts with
    | sell => cases hswap
    | buy => cases hswap
    | quiet _ hq => exact (hq x hx).still
  · cases ht with
    | @sell a n limit deadline hs =>
        obtain ⟨as, bs, has, hbs, hpre, hpost⟩ := hl.run_sell hs
        have hP := h.still hpre fun x hx => (has x hx).still
        obtain ⟨henc, hpos⟩ := hP.receive hpost hbs shares_sellInstant holders_sellInstant
          hs.live.rfl_pos
        exact ⟨henc, fun r hr => Receipt.unlessZero_eq hr ▸ hpos⟩
    | @buy a n limit deadline hs =>
        obtain ⟨as, bs, has, hbs, hpre, hpost⟩ := hl.run_buy hs
        have hP := h.still hpre fun x hx => (has x hx).still
        obtain ⟨henc, hpos⟩ := hP.receive hpost hbs shares_buyInstant holders_buyInstant
          (Nat.sub_pos_of_lt hs.output_lt)
        exact ⟨henc, fun r hr => Receipt.unlessZero_eq hr ▸ hpos⟩
    | _ => exact absurd rfl hswap

omit [NamedAddresses] in
/-- Nothing has been received before the launch, nor by the launch. -/
theorem encodes_zero (hindex : w.reflection.index = 0)
    (hremainder : w.reflection.index_remainder = 0)
    (hpositions : w.reflection.positions = ∅)
    (hpool : w.custody.pool_position = ⟨reflection_math.zero, 0⟩) : Encodes w .zero := by
  refine ⟨hindex, hremainder, fun i => ?_⟩
  rcases i with _ | a
  · simp [hindex, hpool, Naive.zero]
  · simp [hindex, World.position, hpositions, Naive.zero]

theorem Configuring.encodes {fee_bps : ℕ} (h : Configuring fee_bps w) : Encodes w .zero := by
  obtain ⟨faucet, bound, now, rfl⟩ := h
  exact encodes_zero rfl rfl rfl rfl

omit [NamedAddresses] in
/-- Books that encode one state are the same books. -/
theorem Encodes.unique {v v' : Naive} (h : Encodes w v) (h' : Encodes w v') : v = v' := by
  obtain ⟨i, r, acc⟩ := v
  obtain ⟨i', r', acc'⟩ := v'
  obtain rfl : i = i' := h.index.symm.trans h'.index
  obtain rfl : r = r' := h.remainder.symm.trans h'.remainder
  obtain rfl : acc = acc' := funext fun j => by
    exact_mod_cast (h.accrued j).symm.trans (h'.accrued j)
  rfl

/-- There is no pool to swap with before the launch. -/
theorem Configuring.not_swap {fee_bps : ℕ} (h : Configuring fee_bps w)
    (hc : c.Commits .ideal w w') : c.swap = false := by
  have hpool : w.pool = none := by
    obtain ⟨faucet, bound, now, rfl⟩ := h
    rfl
  have hborrow : ∀ d (f : PoolState → Move Unit),
      ¬ Tx.Commits (pool.assert_deadline d >>= fun _ => pool.borrow_state >>= f) .ideal w () w' := by
    intro d f
    simp [pool.assert_deadline, pool.borrow_state, hpool]
  cases c with
  | sell_trfl a n limit deadline => exact absurd hc (hborrow _ _)
  | buy_trfl a n limit deadline => exact absurd hc (hborrow _ _)
  | _ => rfl

/-- **The simulation, from any reachable state.** -/
theorem Encodes.call {fee_bps : ℕ} {arithmetic : Arithmetic} (hp : Phase fee_bps w)
    (hfee : fee_bps ≤ reflection_token.MAX_FEE_BPS) (h : Encodes w v)
    (hc : c.Commits arithmetic w w') :
    Encodes w' (v.after (c.receipt w)) ∧ ∀ r, c.receipt w = some r → 0 < r.total := by
  cases hp with
  | configuring hconf =>
      obtain rfl := h.unique hconf.encodes
      rw [Call.receipt_of_not_swap (hconf.not_swap (Call.Commits.ideal hc))]
      refine ⟨?_, by simp⟩
      obtain hc' | ⟨-, -, -, now, rfl⟩ := hconf.call hfee (Call.Commits.ideal hc)
      · exact hc'.encodes
      · exact encodes_zero rfl rfl rfl rfl
  | launched hl _ =>
      obtain ⟨e', ht⟩ := hl.transition (Call.Commits.ideal hc)
      exact h.transition hl ht

omit [NamedAddresses] in
/-- What is pending and what has been claimed are the whole units of the accumulator. -/
theorem Encodes.pending (h : Encodes w v) (hc : Core w) (i : Option Address) :
    w.pending i + w.coreLedger.claimed i = v.accumulator i / MAGNITUDE := by
  have hp := hc.accounting.valid.pending_eq MAGNITUDE_pos i
  rw [h.accrued i] at hp
  change (w.pending i : ℤ) = _ at hp
  have : ((v.accumulator i / MAGNITUDE : ℕ) : ℤ) = (v.accumulator i : ℤ) / MAGNITUDE :=
    Int.natCast_ediv _ _
  omega

variable {arithmetic : Arithmetic} {fee_bps : ℕ} {admin : Address} {w₀ : World}

/-- The simulation along a list of attempts. -/
theorem Encodes.run (hw : Reachable arithmetic fee_bps w) (h : Encodes w v) (cs : List Call) :
    (Naive.run arithmetic (w, v) cs).1 = Call.attempts arithmetic w cs
      ∧ Encodes (Naive.run arithmetic (w, v) cs).1 (Naive.run arithmetic (w, v) cs).2 := by
  induction cs generalizing w v with
  | nil => exact ⟨rfl, h⟩
  | cons c cs ih =>
      have hrun : Naive.run arithmetic (w, v) (c :: cs)
          = Naive.run arithmetic (Naive.step arithmetic (w, v) c) cs := rfl
      have hatt : Call.attempts arithmetic w (c :: cs)
          = Call.attempts arithmetic (c.attempt arithmetic w) cs := rfl
      rw [hrun, hatt]
      -- An attempt that aborts leaves both the state and the naive books.
      cases hr : c.run arithmetic w with
      | error x =>
          have h₁ : Naive.step arithmetic (w, v) c = (w, v) := by rw [Naive.step, hr]
          have h₂ : c.attempt arithmetic w = w := by rw [Call.attempt, hr]
          rw [h₁, h₂]
          exact ih hw h
      | ok p =>
          have h₁ : Naive.step arithmetic (w, v) c = (p.2, v.after (c.receipt w)) := by
            rw [Naive.step, hr]
          have h₂ : c.attempt arithmetic w = p.2 := by rw [Call.attempt, hr]
          rw [h₁, h₂]
          have hcommit : c.Commits arithmetic w p.2 := hr
          exact ih (hw.call hcommit) (h.call hw.phase.2 hw.phase.1 hcommit).1

/-- Every reachable state has its naive books. -/
theorem Reachable.encodes (hw : Reachable arithmetic fee_bps w) : ∃ v, Encodes w v := by
  induction hw with
  | @genesis admin w hg =>
      have hs : Sound arithmetic (reflection_token.initialize_token admin fee_bps) := inferInstance
      obtain ⟨-, -, rfl⟩ := (Tx.commits_initialize_token ()).mp (hs.commits hg)
      exact ⟨.zero, encodes_zero rfl rfl rfl rfl⟩
  | call hw hc ih =>
      obtain ⟨v, hv⟩ := ih
      exact ⟨_, (hv.call hw.phase.2 hw.phase.1 hc).1⟩

/-- **The index accounting refines iteration over all holders.** After any list
of attempts, the contract's `raw * index + correction` is, for every wallet and
for the pool, the accumulator that only receipts have touched; what is pending
is what the accumulator has in whole units beyond what was claimed, and can be
read on the machine after any short run. And a receipt that is still to come is never divided over nobody. -/
theorem naive_refinement
    (hg : Tx.Commits (reflection_token.initialize_token admin fee_bps) arithmetic .unpublished () w₀)
    (cs : List Call) : ∃ w v, Naive.run arithmetic (w₀, .zero) cs = (w, v)
      ∧ w = Call.attempts arithmetic w₀ cs
      ∧ w.reflection.index = v.index ∧ w.reflection.index_remainder = v.remainder
      ∧ (∀ a, (w.raw a : ℤ) * w.reflection.index + (w.position a).correction.toInt
        = v.accumulator (some a))
      ∧ (w.custody.custody_shares : ℤ) * w.reflection.index
          + w.custody.pool_position.correction.toInt = v.accumulator none
      ∧ (∀ a ∈ w.wallets, ∃ pending,
        Tx.Performs (ShortRun fee_bps w)
            (reflection_token.claimable_for_store a (.primary .trfl a)) w pending w
          ∧ pending + (w.position a).claimed = v.accumulator (some a) / MAGNITUDE)
      ∧ (∃ pending,
        Tx.Performs (ShortRun fee_bps w) reflection_token.pool_pending_rewards w pending w
          ∧ pending + w.custody.pool_position.claimed = v.accumulator none / MAGNITUDE)
      ∧ ∀ (c : Call) w', c.Commits arithmetic w w' → ∀ r, c.receipt w = some r → 0 < r.total := by
  have hw₀ : Reachable arithmetic fee_bps w₀ := .genesis hg
  have henc : Encodes w₀ .zero := by
    have hs : Sound arithmetic (reflection_token.initialize_token admin fee_bps) := inferInstance
    obtain ⟨-, -, rfl⟩ := (Tx.commits_initialize_token ()).mp (hs.commits hg)
    exact encodes_zero rfl rfl rfl rfl
  obtain ⟨hatt, h⟩ := henc.run hw₀ cs
  obtain ⟨⟨w, v⟩, hrun⟩ : ∃ s, Naive.run arithmetic (w₀, .zero) cs = s := ⟨_, rfl⟩
  rw [hrun] at hatt h
  replace hatt : w = Call.attempts arithmetic w₀ cs := hatt
  have hw : Reachable arithmetic fee_bps w := hatt ▸ hw₀.attempts cs
  have hc := hw.core
  refine ⟨w, v, hrun, hatt, h.index, h.remainder, fun a => ?_, ?_,
    fun a ha => ⟨w.pending (some a), hc.performs_claimable_for_store a, h.pending hc (some a)⟩,
    ⟨w.pending none, hw.performs_pool_pending_rewards, h.pending hc none⟩,
    fun c w' hcommit => (h.call hw.phase.2 hw.phase.1 hcommit).2⟩
  · exact (w.coreLedger_accrued_some a).symm.trans (h.accrued (some a))
  · exact w.coreLedger_accrued_none.symm.trans (h.accrued none)

end Simulation

open Sample in
theorem naive_refinement_opening : ∃ w₀ w v,
    Tx.Commits (reflection_token.initialize_token (.account 1) 50) .machine .unpublished () w₀
      ∧ Naive.run .machine (w₀, .zero) opening = (w, v)
      ∧ (w.custody.custody_shares : ℤ) * w.reflection.index
          + w.custody.pool_position.correction.toInt = v.accumulator none := by
  obtain ⟨w, hw⟩ := exists_traded
  unfold traded at hw
  cases calls_of_script hw with
  | cons hg hs =>
      obtain ⟨w, v, hrun, -, -, -, -, hpool, -⟩ := naive_refinement hg opening
      exact ⟨_, w, v, hg, hrun, hpool⟩

end CedraReflect
