/-
The two swaps: what they ask for, what they leave behind, and that the system
is launched afterwards as it was before.

A swap is a settlement in the core followed by a checkpoint, so that the pool's
part of the fee is in the epoch before the call returns. Everything the entry
asserts in between is a consequence of the invariant, and is gone from the
specifications.
-/
import CedraReflect.PoolSpec
import CedraReflect.SettlementSpec

set_option autoImplicit false
set_option linter.constructorNameAsVariable false

namespace CedraReflect

open Dividend (Ledger Act Valid Run)
open reflection_math (MAGNITUDE MAGNITUDE_pos)
open reflection_token (TOTAL_SUPPLY MAX_FEE_BPS is_excluded_store)
open reflection_settlement (swap_output invariant_input invariant_input_le MAX_U64)
open pool (FIXED_AMM_FEE_BPS FIXED_MAX_RESERVE_BPS FIXED_MAX_GROSS_SWAP)

/-! ## The effects -/

namespace World

variable (w : World) (e : LpEpoch) (a : Address) (n : ℕ)

/-- The reflection fee on `n` units. -/
def feeOn : ℕ := n * w.reflection.fee_bps / reflection_token.BPS_DENOMINATOR

/-- What a sell of `n` units pays. -/
def sellOutput : ℕ :=
  swap_output w.custody.custody_shares w.usd (n - w.feeOn n) FIXED_AMM_FEE_BPS

/-- What a buy with `n` units takes out of the pool. -/
def buyOutput : ℕ := swap_output w.usd w.custody.custody_shares n FIXED_AMM_FEE_BPS

/-- tUSD out of the pool into a wallet. -/
def usdOut : World := (w.debit .tusd .usd_reserve n).credit .tusd (.primary .tusd a) n

/-- tUSD out of a wallet into the pool. -/
def usdIn : World := (w.debit .tusd (.primary .tusd a) n).credit .tusd .usd_reserve n

/-- The pool's part of a sell's fee. -/
def sellRouted : ℕ := (w.sold a n (w.feeOn n)).pending none

/-- The pool's part of a buy's fee. -/
def buyRouted : ℕ :=
  ((w.usdIn a n).bought a (w.buyOutput n) (w.feeOn (w.buyOutput n))).pending none

/-- `sell_trfl`. -/
def sellSwapped : World :=
  let after := ((w.sold a n (w.feeOn n)).checkpointed e).usdOut a (w.sellOutput n)
  after.logged (.SwapExecuted a true n (w.feeOn n)
    (n - w.feeOn n - invariant_input (n - w.feeOn n) FIXED_AMM_FEE_BPS) (w.sellOutput n)
    (w.sellOutput n) after.custody.custody_shares after.usd)

/-- `buy_trfl`. -/
def buySwapped : World :=
  let fee := w.feeOn (w.buyOutput n)
  let after := ((w.usdIn a n).bought a (w.buyOutput n) fee).checkpointed e
  after.logged (.SwapExecuted a false n fee (n - invariant_input n FIXED_AMM_FEE_BPS)
    (w.buyOutput n) (w.buyOutput n - fee) after.custody.custody_shares after.usd)

end World

/-- What `sell_trfl` asks for, in the order in which it does. -/
@[mk_iff] structure Sells (e : LpEpoch) (w : World) (seller : Address)
    (gross_trfl_input min_tusd_output deadline_seconds : ℕ) : Prop where
  deadline : w.now_seconds ≤ deadline_seconds
  live : Live e w
  pos : 0 < gross_trfl_input
  max : gross_trfl_input ≤ FIXED_MAX_GROSS_SWAP
  input_cap : gross_trfl_input * pool.BPS_DENOMINATOR
    ≤ w.custody.custody_shares * FIXED_MAX_RESERVE_BPS
  width : w.sellOutput gross_trfl_input ≤ MAX_U64
  output_cap : w.sellOutput gross_trfl_input * pool.BPS_DENOMINATOR
    ≤ w.usd * FIXED_MAX_RESERVE_BPS
  output_pos : 0 < w.sellOutput gross_trfl_input
  min_output : min_tusd_output ≤ w.sellOutput gross_trfl_input
  eligible : is_excluded_store w.reflection (.primary .trfl seller) = false
  wallet : seller ∈ w.wallets
  funds : gross_trfl_input ≤ (w.materializedAll seller false .SELL_PRE).raw seller

/-- What `buy_trfl` asks for, in the order in which it does. -/
@[mk_iff] structure Buys (e : LpEpoch) (w : World) (buyer : Address)
    (tusd_input min_net_trfl_output deadline_seconds : ℕ) : Prop where
  deadline : w.now_seconds ≤ deadline_seconds
  live : Live e w
  pos : 0 < tusd_input
  max : tusd_input ≤ FIXED_MAX_GROSS_SWAP
  input_cap : tusd_input * pool.BPS_DENOMINATOR ≤ w.usd * FIXED_MAX_RESERVE_BPS
  output_cap : w.buyOutput tusd_input * pool.BPS_DENOMINATOR
    ≤ w.custody.custody_shares * FIXED_MAX_RESERVE_BPS
  output_pos : 0 < w.buyOutput tusd_input - w.feeOn (w.buyOutput tusd_input)
  min_output : min_net_trfl_output ≤ w.buyOutput tusd_input - w.feeOn (w.buyOutput tusd_input)
  funds : tusd_input ≤ w.balance (.primary .tusd buyer)
  eligible : is_excluded_store w.reflection (.primary .trfl buyer) = false

/-! ## Fees and caps -/

/-- The cap on the output leaves the pool shares. -/
theorem Buys.output_lt {e : LpEpoch} {w : World} {a : Address} {n limit deadline : ℕ}
    (hs : Buys e w a n limit deadline) : w.buyOutput n < w.custody.custody_shares := by
  have hcap := hs.output_cap
  have hpos := hs.live.rfl_pos
  unfold pool.BPS_DENOMINATOR FIXED_MAX_RESERVE_BPS at hcap
  omega

namespace Deployed

variable {e : LpEpoch} {w : World} {n : ℕ}

/-- The fee is at most a twentieth. -/
theorem feeOn_mul_le (h : Deployed e w) (n : ℕ) : w.feeOn n * 20 ≤ n := by
  have hdiv := Nat.div_mul_le_self (n * w.reflection.fee_bps) reflection_token.BPS_DENOMINATOR
  have hfee := h.fee
  unfold MAX_FEE_BPS at hfee
  have hle : n * w.reflection.fee_bps ≤ n * 500 := Nat.mul_le_mul_left n hfee
  unfold World.feeOn
  unfold reflection_token.BPS_DENOMINATOR at hdiv ⊢
  omega

theorem feeOn_le (h : Deployed e w) (n : ℕ) : w.feeOn n ≤ n := by
  have := h.feeOn_mul_le n
  omega

/-- A tRFL reserve fits its width. -/
theorem custody_lt (h : Deployed e w) : w.custody.custody_shares < 2 ^ 64 := by
  have hb := h.core.supply.balance_le .rfl_reserve rfl
  rw [← h.core.supply.custody] at hb
  unfold TOTAL_SUPPLY at hb
  omega

end Deployed

/-! ## tUSD moves -/

theorem Frame.usd {w w' : World} (h : Frame w w') : w'.usd = w.usd :=
  h.tusd .usd_reserve (by simp [Address.store_metadata])

namespace World

variable (w : World) (e : LpEpoch) (a : Address) (n : ℕ)

theorem outside_usdOut : Outside w (w.usdOut a n) := (Outside.debit rfl).trans (.credit rfl)

theorem outside_usdIn : Outside w (w.usdIn a n) := (Outside.debit rfl).trans (.credit rfl)

/-- After its checkpoint a sell only pays tUSD. -/
theorem outside_sellSwapped :
    Outside ((w.sold a n (w.feeOn n)).checkpointed e) (w.sellSwapped e a n) :=
  (outside_usdOut _ a _).trans (.logged _ _)

/-- After its checkpoint a buy is over. -/
theorem outside_buySwapped :
    Outside (((w.usdIn a n).bought a (w.buyOutput n) (w.feeOn (w.buyOutput n))).checkpointed e)
      (w.buySwapped e a n) := .logged _ _

@[simp] theorem usd_usdOut : (w.usdOut a n).usd = w.usd - n := by
  simp [usdOut, usd]

@[simp] theorem usd_usdIn : (w.usdIn a n).usd = w.usd + n := by
  simp [usdIn, usd]

@[simp] theorem usd_logged (event : Event) : (w.logged event).usd = w.usd := rfl

theorem usd_checkpointed : (w.checkpointed e).usd = w.usd := by
  unfold checkpointed
  split
  · rfl
  · exact (Frame.routed (w := w) (n := w.pending none) 1).usd

end World

/-! ## Settlements as stages -/

namespace World

variable (w : World) (a : Address) (n fee : ℕ)

/-- A settlement leaves the epoch's vault to the checkpoint. -/
@[simp] theorem lp_vault_feeTaken (gross kind : ℕ) :
    (w.feeTaken a gross fee kind).balance .lp_reward_vault = w.balance .lp_reward_vault := by
  unfold feeTaken collected
  split
  · rfl
  · split <;> simp [logged, setAside, indexed]

@[simp] theorem lp_vault_walletDebited :
    (w.walletDebited a n).balance .lp_reward_vault = w.balance .lp_reward_vault := by
  simp [walletDebited, removeRaw]

@[simp] theorem lp_vault_walletCredited :
    (w.walletCredited a n).balance .lp_reward_vault = w.balance .lp_reward_vault := by
  simp [walletCredited, addRaw]

@[simp] theorem lp_vault_poolDebited :
    (w.poolDebited n).balance .lp_reward_vault = w.balance .lp_reward_vault := by
  simp [poolDebited, removeCustody]

@[simp] theorem lp_vault_poolCredited :
    (w.poolCredited n).balance .lp_reward_vault = w.balance .lp_reward_vault := by
  simp [poolCredited, addCustody]

@[simp] theorem lp_vault_materializedAll (explicit_claim : Bool) (trigger : Trigger) :
    (w.materializedAll a explicit_claim trigger).balance .lp_reward_vault
      = w.balance .lp_reward_vault :=
  balance_materializedAll w a explicit_claim trigger (by simp) (by simp)

theorem lp_vault_sold :
    (w.sold a n fee).balance .lp_reward_vault = w.balance .lp_reward_vault := by
  simp [sold]

theorem lp_vault_bought :
    (w.bought a n fee).balance .lp_reward_vault = w.balance .lp_reward_vault := by
  simp [bought]

/-- A fee that finds shares is not set aside. -/
theorem unallocated_feeTaken (gross kind : ℕ) (ht : w.reflection.total_shares ≠ 0) :
    (w.feeTaken a gross fee kind).reflection.unallocated_fees = w.reflection.unallocated_fees := by
  unfold feeTaken collected
  split
  · rfl
  · rfl

end World

namespace Deployed

variable {e : LpEpoch} {w : World} {a : Address} {n fee : ℕ}

/-- A sell's settlement. While the gross units are nobody's the pool's shares
are still there, so that the fee is not set aside. -/
theorem sold (h : Deployed e w) (hR : 0 < w.custody.custody_shares) (ha : a ∈ w.wallets)
    (hn : n ≤ (w.materializedAll a false .SELL_PRE).raw a) (hf : fee ≤ n) :
    ∃ pre mid, (∀ x ∈ pre, Quiet x) ∧ (∀ x ∈ mid, Quiet x) ∧
      Stage (pre ++ .take (some a) n :: (Core.receipts fee ++ (mid ++ [.give none (n - fee)]))) []
        e w e (w.sold a n fee) := by
  obtain ⟨pre, mid, hpre, hmid, hs⟩ := h.core.step_sold ha hn hf
  refine ⟨pre, mid, hpre, hmid, h.step hs (w.lp_vault_sold a n fee) ?_⟩
  have h₁ := h.core.moved_materializedAll (a := a) false .SELL_PRE
  have h₂ := h₁.core.step_walletDebited (n := n) (by simpa using ha) hn
  have h₃ := h₂.core.step_feeTaken (a := a) n fee 1 (by simp; omega)
  have h₄ := h₃.core.moved_materializedAll (a := a) false .SELL_POST
  have ht : ((w.materializedAll a false .SELL_PRE).walletDebited a n).reflection.total_shares
      ≠ 0 := by
    have := h₂.core.custody_le_total
    simp only [World.custody_walletDebited, World.custody_materializedAll] at this
    omega
  show ((((w.materializedAll a false .SELL_PRE).walletDebited a n).feeTaken a n fee
    1).materializedAll a false .SELL_POST).reflection.unallocated_fees = 0
  rw [h₄.scalars.2.2.1, World.unallocated_feeTaken _ _ _ _ _ ht]
  show (w.materializedAll a false .SELL_PRE).reflection.unallocated_fees = 0
  rw [h₁.scalars.2.2.1, h.unallocated]

/-- A buy's settlement. The cap on the output leaves the pool shares. -/
theorem bought (h : Deployed e w) (hR : n < w.custody.custody_shares)
    (hx : is_excluded_store w.reflection (.primary .trfl a) = false) (hf : fee ≤ n) :
    ∃ pre mid, (∀ x ∈ pre, Quiet x) ∧ (∀ x ∈ mid, Quiet x) ∧
      Stage (pre ++ .take none n :: (Core.receipts fee ++ (mid ++ [.give (some a) (n - fee)]))) []
        e w e (w.bought a n fee) := by
  obtain ⟨pre, mid, hpre, hmid, hs⟩ := h.core.step_bought hx hR.le hf
  refine ⟨pre, mid, hpre, hmid, h.step hs (w.lp_vault_bought a n fee) ?_⟩
  have h₀ := h.core.moved_ensured hx
  have h₁ := h₀.trans (h₀.core.moved_materializedAll (a := a) false .BUY_PRE)
  have h₂ := h₁.core.step_poolDebited (n := n) (by simpa using hR.le)
  have h₃ := h₂.core.step_feeTaken (a := a) n fee 2 (by simp; omega)
  have h₄ := h₃.core.moved_materializedAll (a := a) false .BUY_POST
  have ht : (((w.ensured a).materializedAll a false .BUY_PRE).poolDebited
      n).reflection.total_shares ≠ 0 := by
    have := h₂.core.custody_le_total
    simp only [World.custody_shares_poolDebited, World.custody_materializedAll,
      World.custody_shares_ensured] at this
    omega
  show (((((w.ensured a).materializedAll a false .BUY_PRE).poolDebited n).feeTaken a n fee
    2).materializedAll a false .BUY_POST).reflection.unallocated_fees = 0
  rw [h₄.scalars.2.2.1, World.unallocated_feeTaken _ _ _ _ _ ht]
  show ((w.ensured a).materializedAll a false .BUY_PRE).reflection.unallocated_fees = 0
  rw [h₁.scalars.2.2.1, h.unallocated]

end Deployed

/-! ## The swaps as stages -/

/-- The events of a swap in the core: a weight goes, the fee is received, a
weight comes, and the pool's part of the fee is routed. -/
def SwapActs (taker giver : Option Address) (n fee routed : ℕ)
    (as : List (Act (Option Address))) : Prop :=
  ∃ pre mid, (∀ x ∈ pre, Quiet x) ∧ (∀ x ∈ mid, Quiet x) ∧
    as = pre ++ .take taker n :: (Core.receipts fee ++ (mid ++ [.give giver (n - fee)]))
      ++ World.routing routed

@[simp] theorem LpEpoch.total_shares_checkpointed (e : LpEpoch) (n : ℕ) :
    (e.checkpointed n).total_shares = e.total_shares := by
  unfold LpEpoch.checkpointed
  split <;> rfl

/-- A passage between two launched states. It may close the pool, and until it
does a share of it is worth no less afterwards. -/
structure Passage (as : List (Act (Option Address))) (bs : List (Act Address)) (e : LpEpoch)
    (w : World) (e' : LpEpoch) (w' : World) : Prop where
  launched : Launched e' w'
  core_run : Run MAGNITUDE w.coreLedger as w'.coreLedger
  lp_run : Run MAGNITUDE e.ledger bs e'.ledger
  fee_bps : w'.reflection.fee_bps = w.reflection.fee_bps
  worth : Live e' w' → Live e w ∧ Worth w.custody.custody_shares w.usd e.total_shares
    w'.custody.custody_shares w'.usd e'.total_shares

namespace Launched

variable {e : LpEpoch} {w : World} {a : Address} {n limit deadline : ℕ}

/-- **A sell**, as a stage. -/
theorem stage_sell (h : Launched e w) (hs : Sells e w a n limit deadline) :
    ∃ as, SwapActs (some a) none n (w.feeOn n) (w.sellRouted a n) as ∧
      Stage as (LpEpoch.routing (w.sellRouted a n)) e w (e.checkpointed (w.sellRouted a n))
        (w.sellSwapped e a n) := by
  obtain ⟨pre, mid, hpre, hmid, h₁⟩ :=
    h.deployed.sold hs.live.rfl_pos hs.wallet hs.funds (h.deployed.feeOn_le n)
  have h₂ := h₁.deployed.checkpointed (h₁.epoch 1 hs.live.epoch) hs.live.shares_pos.ne'
  have h₃ := h₂.deployed.outside (w.outside_sellSwapped e a n)
  refine ⟨_, ⟨pre, mid, hpre, hmid, rfl⟩, ?_⟩
  have hst := (h₁.trans h₂).trans h₃
  simpa only [List.append_nil, List.nil_append, World.sellRouted] using hst

/-- **A buy**, as a stage. -/
theorem stage_buy (h : Launched e w) (hs : Buys e w a n limit deadline) :
    ∃ as, SwapActs none (some a) (w.buyOutput n) (w.feeOn (w.buyOutput n)) (w.buyRouted a n) as ∧
      Stage as (LpEpoch.routing (w.buyRouted a n)) e w (e.checkpointed (w.buyRouted a n))
        (w.buySwapped e a n) := by
  have h₀ := h.deployed.outside (w.outside_usdIn a n)
  have hR : w.buyOutput n < (w.usdIn a n).custody.custody_shares := hs.output_lt
  obtain ⟨pre, mid, hpre, hmid, h₁⟩ := h₀.deployed.bought (a := a) hR hs.eligible
    (h.deployed.feeOn_le _)
  have h₂ := h₁.deployed.checkpointed (h₁.epoch 1 (h₀.epoch 1 hs.live.epoch))
    hs.live.shares_pos.ne'
  have h₃ := h₂.deployed.outside (w.outside_buySwapped e a n)
  refine ⟨_, ⟨pre, mid, hpre, hmid, rfl⟩, ?_⟩
  have hst := (h₀.trans (h₁.trans h₂)).trans h₃
  simpa only [List.append_nil, List.nil_append, World.buyRouted] using hst

/-- The reserves after a sell. -/
theorem reserves_sell (h : Launched e w) (hs : Sells e w a n limit deadline) :
    (w.sellSwapped e a n).custody.custody_shares = w.custody.custody_shares + (n - w.feeOn n)
      ∧ (w.sellSwapped e a n).usd = w.usd - w.sellOutput n := by
  obtain ⟨_, _, -, -, hst⟩ :=
    h.deployed.core.step_sold hs.wallet hs.funds (h.deployed.feeOn_le n)
  constructor
  · show ((w.sold a n (w.feeOn n)).checkpointed e).custody.custody_shares = _
    simp
  · show (((w.sold a n (w.feeOn n)).checkpointed e).usdOut a (w.sellOutput n)).usd = _
    rw [World.usd_usdOut, World.usd_checkpointed, hst.frame.usd]

/-- The reserves after a buy. -/
theorem reserves_buy (h : Launched e w) (hs : Buys e w a n limit deadline) :
    (w.buySwapped e a n).custody.custody_shares = w.custody.custody_shares - w.buyOutput n
      ∧ (w.buySwapped e a n).usd = w.usd + n := by
  have hcap := hs.output_cap
  unfold pool.BPS_DENOMINATOR FIXED_MAX_RESERVE_BPS at hcap
  obtain ⟨_, _, -, -, hst⟩ := ((w.outside_usdIn a n).core h.deployed.core).step_bought
    (a := a) (n := w.buyOutput n) hs.eligible
    (show w.buyOutput n ≤ w.custody.custody_shares by omega) (h.deployed.feeOn_le _)
  constructor
  · show (((w.usdIn a n).bought a (w.buyOutput n) _).checkpointed e).custody.custody_shares = _
    rw [World.custody_shares_checkpointed, World.custody_shares_bought]
    rfl
  · show (((w.usdIn a n).bought a (w.buyOutput n) _).checkpointed e).usd = _
    rw [World.usd_checkpointed, hst.frame.usd, World.usd_usdIn]

/-- A share is worth no less after a sell. -/
theorem worth_sell (h : Launched e w) (hs : Sells e w a n limit deadline) :
    Worth w.custody.custody_shares w.usd e.total_shares
      (w.sellSwapped e a n).custody.custody_shares (w.sellSwapped e a n).usd e.total_shares := by
  rw [(h.reserves_sell hs).1, (h.reserves_sell hs).2]
  exact Worth.swap _ _

/-- A share is worth no less after a buy. -/
theorem worth_buy (h : Launched e w) (hs : Buys e w a n limit deadline) :
    Worth w.custody.custody_shares w.usd e.total_shares
      (w.buySwapped e a n).custody.custody_shares (w.buySwapped e a n).usd e.total_shares := by
  rw [(h.reserves_buy hs).1, (h.reserves_buy hs).2]
  have := Worth.swap (R := w.usd) (U := w.custody.custody_shares) (n := n) FIXED_AMM_FEE_BPS
    e.total_shares
  unfold Worth at this ⊢
  rwa [mul_comm w.custody.custody_shares, mul_comm (w.custody.custody_shares - _)]

/-- A stage that ends settled, on positive reserves and a share that is worth no
less, leads from a live state to a live one. -/
theorem of_stage {as : List (Act (Option Address))} {bs : List (Act Address)} {e' : LpEpoch}
    {w' : World} (hl : Live e w) (hst : Stage as bs e w e' w') (hp : w'.pending none = 0)
    (hR : 0 < w'.custody.custody_shares) (hU : 0 < w'.usd) (hT : 0 < e'.total_shares)
    (hw : Worth w.custody.custody_shares w.usd e.total_shares w'.custody.custody_shares w'.usd
      e'.total_shares) : Passage as bs e w e' w' :=
  ⟨⟨hst.deployed, hp, .inl ⟨hst.lifecycle.trans hl.lifecycle, hst.epoch 1 hl.epoch,
    hst.status.trans hl.status, hR, hU, hT, hw.backed hl.shares_pos hl.backed⟩⟩,
    hst.core_run, hst.lp_run, hst.fee_bps, fun _ => ⟨hl, hw⟩⟩

theorem sell (h : Launched e w) (hs : Sells e w a n limit deadline) :
    ∃ as, SwapActs (some a) none n (w.feeOn n) (w.sellRouted a n) as ∧
      Passage as (LpEpoch.routing (w.sellRouted a n)) e w (e.checkpointed (w.sellRouted a n))
        (w.sellSwapped e a n) := by
  obtain ⟨as, has, hst⟩ := h.stage_sell hs
  obtain ⟨hR, hU⟩ := h.reserves_sell hs
  have hcap := hs.output_cap
  unfold pool.BPS_DENOMINATOR FIXED_MAX_RESERVE_BPS at hcap
  have hRp := hs.live.rfl_pos
  have hUp := hs.live.usd_pos
  refine ⟨as, has, of_stage hs.live hst ?_ (by omega) (by omega) ?_ ?_⟩
  · exact ((w.outside_sellSwapped e a n).pending none).trans (World.pending_checkpointed _ e)
  · simpa using hs.live.shares_pos
  · rw [LpEpoch.total_shares_checkpointed]
    exact h.worth_sell hs

theorem buy (h : Launched e w) (hs : Buys e w a n limit deadline) :
    ∃ as, SwapActs none (some a) (w.buyOutput n) (w.feeOn (w.buyOutput n)) (w.buyRouted a n) as ∧
      Passage as (LpEpoch.routing (w.buyRouted a n)) e w (e.checkpointed (w.buyRouted a n))
        (w.buySwapped e a n) := by
  obtain ⟨as, has, hst⟩ := h.stage_buy hs
  obtain ⟨hR, hU⟩ := h.reserves_buy hs
  have hcap := hs.output_cap
  unfold pool.BPS_DENOMINATOR FIXED_MAX_RESERVE_BPS at hcap
  have hRp := hs.live.rfl_pos
  have hUp := hs.live.usd_pos
  refine ⟨as, has, of_stage hs.live hst ?_ (by omega) (by omega) ?_ ?_⟩
  · exact ((w.outside_buySwapped e a n).pending none).trans (World.pending_checkpointed _ e)
  · simpa using hs.live.shares_pos
  · rw [LpEpoch.total_shares_checkpointed]
    exact h.worth_buy hs

end Launched

/-! ## The entries -/

namespace Tx

open pool

variable {w w' : World} {a : Address} {n limit deadline : ℕ} {e : LpEpoch}

/-- Between two calls there is nothing to check in. -/
theorem commits_checkpoint_settled (h : Launched e w) (hl : Live e w) (u : Unit) :
    Commits (checkpoint_active (pool.deployed w.reflection.lifecycle)) .ideal w u w' ↔ w' = w := by
  rw [commits_checkpoint_active h.deployed hl.lifecycle hl.epoch hl.status hl.shares_pos,
    World.checkpointed, if_pos h.settled]

theorem commits_fee_on (h : Deployed e w) (hn : n ≤ 2 ^ 64) (x : ℕ) :
    Commits (reflection_token.fee_for n) .ideal w x w' ↔ x = w.feeOn n ∧ w' = w := by
  have hf := h.feeOn_mul_le n
  have hlt : w.feeOn n < 2 ^ 64 := by omega
  unfold World.feeOn at hlt ⊢
  rw [commits_fee_for, and_iff_right hlt]

theorem commits_settle_sell_on [NamedAddresses] (h : Deployed e w)
    (hl : w.reflection.lifecycle = .LIVE) (hn : n ≤ 2 ^ 64) (p : ℕ × ℕ) :
    Commits (reflection_token.settle_sell ⟨1⟩ a .rfl_reserve n) .ideal w p w' ↔
      0 < n ∧ is_excluded_store w.reflection (.primary .trfl a) = false ∧ a ∈ w.wallets
        ∧ n ≤ (w.materializedAll a false .SELL_PRE).raw a
        ∧ p = (n - w.feeOn n, w.feeOn n) ∧ w' = w.sold a n (w.feeOn n) := by
  have hf := h.feeOn_mul_le n
  have hlt : w.feeOn n < 2 ^ 64 := by omega
  have hle := h.feeOn_le n
  unfold World.feeOn at hlt hle ⊢
  rw [commits_settle_sell h.core h.bound]
  simp only [hl, hlt, hle, true_and]

theorem commits_settle_buy_on [NamedAddresses] (w' : World) (h : Deployed e w)
    (hl : w.reflection.lifecycle = .LIVE) (p : ℕ × ℕ) :
    Commits (reflection_token.settle_buy ⟨1⟩ a .rfl_reserve n) .ideal w p w' ↔
      0 < n ∧ is_excluded_store w.reflection (.primary .trfl a) = false
        ∧ n ≤ w.custody.custody_shares ∧ 0 < n - w.feeOn n
        ∧ p = (n - w.feeOn n, w.feeOn n) ∧ w' = w.bought a n (w.feeOn n) := by
  have hc := h.custody_lt
  have hf := h.feeOn_mul_le n
  have hle := h.feeOn_le n
  rw [commits_settle_buy h.core h.bound]
  unfold World.feeOn at hf hle ⊢
  simp only [hl, hle, true_and]
  refine and_congr_right fun _ => and_congr_right fun _ => and_congr_right fun hn => ?_
  rw [and_iff_right (by omega)]

/-- **`sell_trfl`.** -/
theorem commits_sell_trfl [NamedAddresses] (h : Launched e w) (u : Unit) :
    Commits (sell_trfl a n limit deadline) .ideal w u w' ↔
      Sells e w a n limit deadline ∧ w' = w.sellSwapped e a n := by
  have hd := h.deployed
  simp only [sell_trfl, commits_bind, commits_assert_deadline, commits_pool_borrow_state hd,
    commits_assert_pool_live h, sells_iff, and_assoc, exists_and_left, exists_eq_left,
    exists_const]
  refine and_congr_right fun hdl => and_congr_right fun hl => ?_
  simp only [commits_checkpoint_settled h hl, commits_assert_swap_bounds hd.core.supply,
    commits_reserves hd.core.supply, hl.rfl_pos, and_assoc, exists_and_left, exists_eq_left,
    exists_const, if_true, true_and]
  refine and_congr_right fun hpos => and_congr_right fun hmax => and_congr_right fun hcap => ?_
  have hn : n ≤ 2 ^ 64 := by
    unfold FIXED_MAX_GROSS_SWAP at hmax
    omega
  have hnet : invariant_input (n - w.feeOn n) FIXED_AMM_FEE_BPS ≤ MAX_U64 := by
    have := invariant_input_le (n - w.feeOn n) FIXED_AMM_FEE_BPS
    unfold FIXED_MAX_GROSS_SWAP at hmax
    unfold MAX_U64
    omega
  have hbps : FIXED_AMM_FEE_BPS ≤ reflection_settlement.BPS_DENOMINATOR := by decide
  have hf := hd.feeOn_le n
  have hout : swap_output w.custody.custody_shares w.usd (n - w.feeOn n) FIXED_AMM_FEE_BPS
      = w.sellOutput n := rfl
  simp only [commits_fee_on hd hn, commits_sub, hf, hl.rfl_pos, hnet, hbps, hpos, hout,
    commits_constant_product_output, commits_assert_reserve_output_cap, commits_require,
    pool.deployed_settlement_cap, pool.deployed_rfl_reserve,
    commits_settle_sell_on hd hl.lifecycle hn, and_assoc, exists_and_left, exists_eq_left,
    exists_const, true_and]
  refine and_congr_right fun hwidth => and_congr_right fun hocap => and_congr_right fun hopos =>
    and_congr_right fun hmin => and_congr_right fun hel => and_congr_right fun hwal =>
    and_congr_right fun hfunds => ?_
  obtain ⟨_, _, -, -, h₁⟩ := hd.sold hl.rfl_pos hwal hfunds hf
  have h₂ := h₁.deployed.checkpointed (h₁.epoch 1 hl.epoch) hl.shares_pos.ne'
  have h₃ := h₂.deployed.outside (.debit (n := w.sellOutput n) (s := .usd_reserve) rfl)
  have h₄ := h₂.deployed.outside (World.outside_usdOut _ a (w.sellOutput n))
  have husd : w.sellOutput n ≤ ((w.sold a n (w.feeOn n)).checkpointed e).usd := by
    obtain ⟨_, _, -, -, hst⟩ := hd.core.step_sold hwal hfunds hf
    rw [World.usd_checkpointed, hst.frame.usd]
    unfold pool.BPS_DENOMINATOR FIXED_MAX_RESERVE_BPS at hocap
    omega
  simp only [commits_checkpoint_active h₁.deployed (h₁.lifecycle.trans hl.lifecycle)
      (h₁.epoch 1 hl.epoch) hl.status hl.shares_pos, commits_pool_pending_rewards h₂.deployed,
    World.pending_checkpointed, pool.deployed_usd_pool_cap, pool.deployed_usd_reserve,
    commits_withdraw_from_pool h₂.deployed, husd, commits_deposit_tusd h₃.deployed,
    World.debit_in_flight, Function.update_self, le_add_iff_nonneg_left, zero_le, and_assoc,
    exists_and_left, exists_eq_left, exists_const, true_and]
  change (∃ x s, Commits _ _ (((w.sold a n (w.feeOn n)).checkpointed e).usdOut a
    (w.sellOutput n)) x s ∧ _) ↔ _
  simp only [commits_assert_reserve_custody h₄.deployed.core,
    commits_reserves h₄.deployed.core.supply, commits_emit, exists_eq_left, exists_const,
    and_assoc, exists_and_left]
  rfl

/-- **`buy_trfl`.** -/
theorem commits_buy_trfl [NamedAddresses] (h : Launched e w) (u : Unit) :
    Commits (buy_trfl a n limit deadline) .ideal w u w' ↔
      Buys e w a n limit deadline ∧ w' = w.buySwapped e a n := by
  have hd := h.deployed
  simp only [buy_trfl, commits_bind, commits_assert_deadline, commits_pool_borrow_state hd,
    commits_assert_pool_live h, buys_iff, and_assoc, exists_and_left, exists_eq_left,
    exists_const]
  refine and_congr_right fun hdl => and_congr_right fun hl => ?_
  simp only [commits_checkpoint_settled h hl, commits_assert_swap_bounds hd.core.supply,
    commits_reserves hd.core.supply, hl.usd_pos, and_assoc, exists_and_left, exists_eq_left,
    exists_const, if_false, true_and, Bool.false_eq_true]
  refine and_congr_right fun hpos => and_congr_right fun hmax => and_congr_right fun hcap => ?_
  have hin : invariant_input n FIXED_AMM_FEE_BPS ≤ MAX_U64 := by
    have := invariant_input_le n FIXED_AMM_FEE_BPS
    unfold FIXED_MAX_GROSS_SWAP at hmax
    unfold MAX_U64
    omega
  have hbps : FIXED_AMM_FEE_BPS ≤ reflection_settlement.BPS_DENOMINATOR := by decide
  have hle : w.buyOutput n ≤ w.custody.custody_shares := reflection_settlement.swap_output_le _ _ _ _
  have hwidth : w.buyOutput n ≤ MAX_U64 := by
    have := hd.custody_lt
    unfold MAX_U64
    omega
  have hn : w.buyOutput n ≤ 2 ^ 64 := by
    have := hd.custody_lt
    omega
  have hf := hd.feeOn_le (w.buyOutput n)
  have hout : swap_output w.usd w.custody.custody_shares n FIXED_AMM_FEE_BPS = w.buyOutput n := rfl
  have h₀ := hd.outside (w.outside_usdIn a n)
  have hdeb := hd.outside (.debit (n := n) (s := .primary .tusd a) rfl)
  have hfee : (w.usdIn a n).feeOn (w.buyOutput n) = w.feeOn (w.buyOutput n) := rfl
  have hset := fun p s => commits_settle_buy_on s (a := a) (n := w.buyOutput n)
    h₀.deployed hl.lifecycle p
  rw [World.usdIn] at hset
  simp only [hl.usd_pos, hin, hbps, hout, hwidth, commits_constant_product_output,
    commits_assert_reserve_output_cap, commits_fee_on hd hn, commits_sub, hf, commits_require,
    commits_withdraw_tusd hd, pool.deployed_usd_pool_cap, pool.deployed_usd_reserve,
    commits_deposit_to_pool hdeb.deployed, World.debit_in_flight, Function.update_self,
    le_add_iff_nonneg_left, zero_le, pool.deployed_settlement_cap, pool.deployed_rfl_reserve,
    hset, and_assoc, exists_and_left, exists_eq_left, exists_const, true_and]
  refine and_congr_right fun hocap => and_congr_right fun hopos => and_congr_right fun hmin =>
    and_congr_right fun hfunds => ?_
  change (0 < w.buyOutput n ∧ is_excluded_store w.reflection (.primary .trfl a) = false
    ∧ w.buyOutput n ≤ w.custody.custody_shares
    ∧ 0 < w.buyOutput n - w.feeOn (w.buyOutput n)
    ∧ w.buyOutput n - w.feeOn (w.buyOutput n) = w.buyOutput n - w.feeOn (w.buyOutput n)
    ∧ w.feeOn (w.buyOutput n) = w.feeOn (w.buyOutput n)
    ∧ ∃ x s, Commits _ _ ((w.usdIn a n).bought a (w.buyOutput n) (w.feeOn (w.buyOutput n))) x s
      ∧ _) ↔ _
  rw [and_iff_right (by omega)]
  refine and_congr_right fun hel => ?_
  rw [and_iff_right hle, and_iff_right hopos, and_iff_right rfl, and_iff_right rfl]
  -- The output is capped at a part of the reserve, which therefore does not run dry.
  have hR : w.buyOutput n < w.custody.custody_shares := by
    have hpos := hl.rfl_pos
    unfold pool.BPS_DENOMINATOR FIXED_MAX_RESERVE_BPS at hocap
    omega
  obtain ⟨_, _, -, -, h₁⟩ := h₀.deployed.bought (a := a) hR hel hf
  have hw₁ := h₁.epoch 1 (h₀.epoch 1 hl.epoch)
  have h₂ := h₁.deployed.checkpointed hw₁ hl.shares_pos.ne'
  simp only [commits_checkpoint_active h₁.deployed (h₁.lifecycle.trans hl.lifecycle) hw₁ hl.status
      hl.shares_pos, commits_pool_pending_rewards h₂.deployed, World.pending_checkpointed,
    commits_assert_reserve_custody h₂.deployed.core, commits_reserves h₂.deployed.core.supply,
    commits_emit, and_assoc, exists_and_left, exists_eq_left, exists_const, true_and]
  rfl

end Tx

end CedraReflect
