/-
Liquidity and LP ownership: what the entries ask for, what they leave behind,
and that the system is launched afterwards.

Every entry that changes an LP weight first pays the owners concerned what they
are owed, so that the change finds nothing whole pending. The final withdrawal
closes pool and core together; that its terminal checks hold is the closing
half of the file.
-/
import CedraReflect.PoolSwap

set_option autoImplicit false
set_option linter.constructorNameAsVariable false

namespace CedraReflect

open Dividend (Ledger Act Valid Run)
open reflection_math (MAGNITUDE MAGNITUDE_pos)
open reflection_token (TOTAL_SUPPLY is_excluded_store)
open reflection_settlement (minted_shares ceil_div le_ceil_div_mul MAX_U64 MAX_U128)
open lp_rewards (ensure_position)
open pool (FIXED_MAX_LIQUIDITY_RFL FIXED_MAX_LIQUIDITY_USD)

/-! ## The epoch's writes as stages -/

namespace LpEpoch

variable (e : LpEpoch) (a b : Address) (n : ℕ)

/-- An exit changes accounting fields and one position. -/
theorem exited_eq :
    ∃ ps ag ret c, e.exited a = { e with
        positions := ps, aggregate_correction := ag, retired_residue_magnified := ret,
        rounding_reserve := c }
      ∧ ∀ c ∈ ps, c = a ∨ c ∈ e.positions := by
  unfold exited settled
  split
  · split
    · exact ⟨_, _, _, _, rfl, fun c hc => .inr hc⟩
    · exact ⟨_, _, _, _, rfl, fun c hc => Finmap.mem_insert.mp hc⟩
  · exact ⟨_, _, _, _, rfl, fun c hc => .inr hc⟩

theorem mem_ensure_position_iff : b ∈ (ensure_position e a).positions ↔ b = a ∨ b ∈ e.positions := by
  unfold ensure_position
  split
  · next ha =>
      refine ⟨.inr, fun h => ?_⟩
      rcases h with rfl | h
      · exact ha
      · exact h
  · exact Finmap.mem_insert

/-- So does a withdrawal, which also lowers the total. -/
theorem withdrawn_eq :
    ∃ ps ag ret c, e.withdrawn a n = { e with
        positions := ps, aggregate_correction := ag, total_shares := e.total_shares - n,
        retired_residue_magnified := ret, rounding_reserve := c }
      ∧ ∀ c ∈ ps, c = a ∨ c ∈ e.positions := by
  obtain ⟨ps, ag, ret, c, heq, hps⟩ := ((ensure_position e a).burned a n).exited_eq a
  refine ⟨ps, ag, ret, c, ?_, fun d hd => ?_⟩
  · rw [withdrawn, heq, burned, e.ensure_position_eq a]
  · rcases hps d hd with rfl | hd
    · exact .inl rfl
    · rcases Finmap.mem_insert.mp hd with rfl | hd
      · exact .inl rfl
      · exact (e.mem_ensure_position_iff a d).mp hd

/-- A transfer keeps the total. -/
theorem transferred_eq (hn : n ≤ e.total_shares) :
    ∃ ps ag ret c, e.transferred a b n = { e with
        positions := ps, aggregate_correction := ag, retired_residue_magnified := ret,
        rounding_reserve := c }
      ∧ ∀ c ∈ ps, c = a ∨ c = b ∨ c ∈ e.positions := by
  have hens : ensure_position (ensure_position e a) b
      = { e with positions := (ensure_position (ensure_position e a) b).positions } := by
    rw [(ensure_position e a).ensure_position_eq b, e.ensure_position_eq a]
  obtain ⟨ps, ag, ret, c, heq, hps⟩ :=
    (((ensure_position (ensure_position e a) b).burned a n).minted b n).exited_eq a
  refine ⟨ps, ag, ret, c, ?_, fun d hd => ?_⟩
  · rw [transferred, heq, minted, burned, hens]
    simp only [Nat.sub_add_cancel hn]
  · rcases hps d hd with rfl | hd
    · exact .inl rfl
    · rcases Finmap.mem_insert.mp hd with rfl | hd
      · exact .inr (.inl rfl)
      · rcases Finmap.mem_insert.mp hd with rfl | hd
        · exact .inl rfl
        · rcases ((ensure_position e a).mem_ensure_position_iff b d).mp hd with rfl | hd
          · exact .inr (.inl rfl)
          · exact ((e.mem_ensure_position_iff a d).mp hd).imp_right .inr

end LpEpoch

namespace Deployed

variable {e : LpEpoch} {w : World} {a b : Address} {n : ℕ}

theorem lpMinted (h : Deployed e w) (hw : Epoch 1 e w) (hn : 0 < n)
    (hx : is_excluded_store w.reflection (.primary .trfl a) = false) :
    Stage [] [.enroll a, .give a n] e w ((ensure_position e a).minted a n) (w.lpMinted e a n) := by
  have heq := e.ensure_position_eq a
  have hst := h.written hw (h.books.step_minted (a := a) hn) (by rw [LpEpoch.minted, heq])
    (by rw [LpEpoch.minted, heq]) (by rw [LpEpoch.minted, heq]) (fun c hc => ?_)
  · exact hst.trans (hst.deployed.outside (.logged _ _))
  · rcases Finmap.mem_insert.mp hc with rfl | hc
    · exact hx
    · rcases (e.mem_ensure_position_iff a c).mp hc with rfl | hc
      · exact hx
      · exact h.owners c hc

theorem lpWithdrawn (h : Deployed e w) (hw : Epoch 1 e w) (ha : a ∈ e.positions)
    (hn : n ≤ (e.position a).shares) (hp : e.pending a = 0) :
    Stage [] ([.enroll a, .take a n] ++ ((ensure_position e a).burned a n).exit a) e w
      (e.withdrawn a n) (w.lpWithdrawn e a n) := by
  obtain ⟨ps, ag, ret, c, heq, hps⟩ := e.withdrawn_eq a n
  have h₀ := h.outside (Outside.exitLogged w ((ensure_position e a).burned a n) a)
  have h₁ := h₀.deployed.written (h₀.epoch 1 hw) (h.books.step_withdrawn hn fun _ => hp)
    (by rw [heq]) (by rw [heq]) (by rw [heq]) (fun d hd => ?_)
  · have h₂ := h₁.deployed.outside (.logged _
      (.LpSharesChanged 1 a false n ((e.position a).shares - n) (e.total_shares - n)))
    simpa only [List.append_nil, List.nil_append, World.lpWithdrawn] using (h₀.trans h₁).trans h₂
  · rw [heq] at hd
    rcases hps d hd with rfl | hd
    · exact h₀.deployed.owners d ha
    · exact h₀.deployed.owners d hd

theorem lpTransferred (h : Deployed e w) (hw : Epoch 1 e w) (hab : b ≠ a) (hn0 : 0 < n)
    (hn : n ≤ (e.position a).shares) (hp : e.pending a = 0)
    (hx : is_excluded_store w.reflection (.primary .trfl b) = false) :
    Stage [] ([.enroll a, .enroll b, .take a n, .give b n]
        ++ (((ensure_position (ensure_position e a) b).burned a n).minted b n).exit a) e w
      (e.transferred a b n) (w.lpTransferred e a b n) := by
  have hle : n ≤ e.total_shares := hn.trans (h.books.accounting.shares_le a)
  obtain ⟨ps, ag, ret, c, heq, hps⟩ := e.transferred_eq a b n hle
  have ha : a ∈ e.positions := by
    by_contra hne
    rw [LpEpoch.position_of_notMem hne] at hn
    simp at hn
    omega
  have h₀ := h.outside (Outside.exitLogged w
    (((ensure_position (ensure_position e a) b).burned a n).minted b n) a)
  have h₁ := h₀.deployed.written (h₀.epoch 1 hw)
    (h.books.step_transferred hab hn0 hn fun _ => hp) (by rw [heq]) (by rw [heq]) (by rw [heq])
    (fun d hd => ?_)
  · have h₂ := h₁.deployed.outside (.logged _ (.LpSharesTransferred 1 a b n))
    simpa only [List.append_nil, List.nil_append, World.lpTransferred] using (h₀.trans h₁).trans h₂
  · rw [heq] at hd
    have hxb : is_excluded_store (w.exitLogged
        (((ensure_position (ensure_position e a) b).burned a n).minted b n) a).reflection
        (.primary .trfl b) = false := by
      rw [(Outside.exitLogged _ _ _).reflection]
      exact hx
    -- The owners are those there were, the sender and the recipient.
    rcases hps d hd with rfl | rfl | hd
    · exact h₀.deployed.owners d ha
    · exact hxb
    · exact h₀.deployed.owners d hd

end Deployed

/-! ## After a payout -/

namespace LpEpoch

variable (e : LpEpoch) (a b : Address)

@[simp] theorem total_shares_rewarded : (e.rewarded a).total_shares = e.total_shares := by
  unfold rewarded
  split <;> rfl

@[simp] theorem shares_rewarded : ((e.rewarded a).position b).shares = (e.position b).shares := by
  unfold rewarded
  split
  · rfl
  · rw [position_paid]
    split
    · next hb => rw [hb]
    · rfl

theorem pending_paid (n : ℕ) (ha : a ∈ e.positions) :
    (e.paid a n).pending b = if b = a then e.pending a - n else e.pending b := by
  rw [pending, ledger_paid ha]
  simp only [Ledger.pending, Act.apply, pending, Function.update_apply]
  split
  · next hb =>
      subst hb
      omega
  · rfl

end LpEpoch

/-- A payout leaves its owner with nothing pending, and pays nobody else. -/
theorem LpEpoch.pending_rewarded {e : LpEpoch} (h : LpAccounting e) (a b : Address) :
    (e.rewarded a).pending b = if b = a then 0 else e.pending b := by
  unfold LpEpoch.rewarded
  split
  · next hp =>
      split
      · next hb => rw [hb, hp]
      · rfl
  · next hp =>
      have ha : a ∈ e.positions := by
        by_contra hne
        exact hp (h.pending_of_notMem hne)
      rw [LpEpoch.pending_paid e a b _ ha]
      simp

namespace World

variable (w : World) (e : LpEpoch) (a : Address)

/-- A payout moves tRFL only. -/
theorem tusd_rewarded {s : Address} (hs : s.store_metadata ≠ some .trfl) :
    (w.rewarded e a).balance s = w.balance s := by
  have hne : ∀ t : Address, t.store_metadata = some .trfl → s ≠ t := by
    rintro t ht rfl
    exact hs ht
  unfold rewarded
  split
  · rfl
  · have hb := balance_materializedAll ((w.lpPaid e a (e.pending a) 1).ensured a) a false
      .LP_PAYOUT (hne (.primary .trfl a) rfl) (hne .reward_vault rfl)
    simp only [lpClaimed, paidOut, walletCredited, addRaw, credit_balance, debit_balance,
      Function.update_of_ne (hne (.primary .trfl a) rfl),
      Function.update_of_ne (hne .lp_reward_vault rfl), hb, balance_ensured]
    rfl

@[simp] theorem usd_rewarded : (w.rewarded e a).usd = w.usd :=
  w.tusd_rewarded e a (by simp [Address.store_metadata])

end World

/-! ## The effects -/

namespace World

variable (w : World) (e : LpEpoch) (a b : Address) (n : ℕ)

/-- The shares that two maximum inputs buy. -/
def mintShares (max_rfl max_usd : ℕ) : ℕ :=
  minted_shares max_rfl max_usd w.custody.custody_shares w.usd e.total_shares

/-- What `n` new shares cost in tRFL. -/
def rflUsed : ℕ := ceil_div (n * w.custody.custody_shares) e.total_shares

/-- What `n` new shares cost in tUSD. -/
def usdUsed : ℕ := ceil_div (n * w.usd) e.total_shares

/-- What `n` shares pay in tRFL, the last ones the whole reserve. -/
def rflShare : ℕ :=
  if n = e.total_shares then w.custody.custody_shares
  else n * w.custody.custody_shares / e.total_shares

/-- What `n` shares pay in tUSD, the last ones the whole reserve. -/
def usdShare : ℕ :=
  if n = e.total_shares then w.usd else n * w.usd / e.total_shares

/-- `add_liquidity` of `n` shares. -/
def liquidityAdded : World :=
  let after := (((w.rewarded e a).provided a (w.rflUsed e n)).usdIn a (w.usdUsed e n)).lpMinted
    (e.rewarded a) a n
  after.logged (.LiquidityAdded 1 a (w.rflUsed e n) (w.usdUsed e n) n
    after.custody.custody_shares after.usd)

/-- `remove_liquidity` of `n` shares, before the closing of the pool. -/
def liquidityRemoved : World :=
  (((w.rewarded e a).lpWithdrawn (e.rewarded a) a n).released a (w.rflShare e n)).usdOut a
    (w.usdShare e n)

/-- `close_pool`. -/
def coreClosed : World :=
  ({ w with reflection := { w.reflection with lifecycle := .CLOSED } } : World).logged
    (.CorePoolClosed .rfl_reserve)

/-- The closing of pool, epoch and core together. -/
def shutDown : World :=
  { (w.lpClosed e).coreClosed with pool := some (pool.deployed .CLOSED) }

/-- `remove_liquidity` of some shares. -/
def removedPart : World :=
  let after := w.liquidityRemoved e a n
  after.logged (.LiquidityRemoved 1 a (w.rflShare e n) (w.usdShare e n) n false
    after.custody.custody_shares after.usd)

/-- `remove_liquidity` of all shares. -/
def removedAll : World :=
  let after := w.liquidityRemoved e a n
  (((after.shutDown ((e.rewarded a).withdrawn a n)).logged
        (.PoolLifecycleChanged .LIVE .CLOSED)).logged
      (.PoolClosed a 1 n (w.rflShare e n) (w.usdShare e n) after.custody.custody_shares
        after.usd)).logged
    (.LiquidityRemoved 1 a (w.rflShare e n) (w.usdShare e n) n true after.custody.custody_shares
      after.usd)

/-- `transfer_lp_shares`. -/
def sharesTransferred : World :=
  ((w.rewarded e a).rewarded (e.rewarded a) b).lpTransferred ((e.rewarded a).rewarded b) a b n

end World

/-- What `add_liquidity` asks for, in the order in which it does. -/
@[mk_iff] structure Adds [NamedAddresses] (e : LpEpoch) (w : World) (provider : Address)
    (max_rfl max_usd min_lp_shares deadline_seconds : ℕ) : Prop where
  deadline : w.now_seconds ≤ deadline_seconds
  max_rfl_pos : 0 < max_rfl
  max_usd_pos : 0 < max_usd
  live : Live e w
  owner_zero : provider ≠ .zero
  owner_core : provider ≠ NamedAddresses.reflection_core
  owner_assets : provider ≠ NamedAddresses.test_assets
  owner_amm : provider ≠ NamedAddresses.test_amm
  eligible : is_excluded_store w.reflection (.primary .trfl provider) = false
  width : w.mintShares e max_rfl max_usd ≤ MAX_U128
  rfl_cap : w.rflUsed e (w.mintShares e max_rfl max_usd) ≤ FIXED_MAX_LIQUIDITY_RFL
  usd_cap : w.usdUsed e (w.mintShares e max_rfl max_usd) ≤ FIXED_MAX_LIQUIDITY_USD
  shares_pos : 0 < w.mintShares e max_rfl max_usd
  min_shares : min_lp_shares ≤ w.mintShares e max_rfl max_usd
  wallet : provider ∈ (w.rewarded e provider).wallets
  rfl_funds : w.rflUsed e (w.mintShares e max_rfl max_usd)
    ≤ ((w.rewarded e provider).materializedAll provider false .LIQUIDITY_IN).raw provider
  usd_funds : w.usdUsed e (w.mintShares e max_rfl max_usd) ≤ w.balance (.primary .tusd provider)

/-- What `remove_liquidity` asks for, in the order in which it does. -/
@[mk_iff] structure Removes (e : LpEpoch) (w : World) (provider : Address)
    (shares min_rfl_output min_usd_output deadline_seconds : ℕ) : Prop where
  deadline : w.now_seconds ≤ deadline_seconds
  pos : 0 < shares
  live : Live e w
  owned : shares ≤ (e.position provider).shares
  width : shares ≠ e.total_shares → w.usdShare e shares ≤ MAX_U64
  rfl_pos : 0 < w.rflShare e shares
  usd_pos : 0 < w.usdShare e shares
  min_rfl : min_rfl_output ≤ w.rflShare e shares
  min_usd : min_usd_output ≤ w.usdShare e shares

/-- What `transfer_lp_shares` asks for, in the order in which it does. -/
@[mk_iff] structure TransfersShares [NamedAddresses] (e : LpEpoch) (w : World)
    (sender recipient : Address) (shares : ℕ) : Prop where
  pos : 0 < shares
  distinct : recipient ≠ sender
  live : Live e w
  owner_zero : recipient ≠ .zero
  owner_core : recipient ≠ NamedAddresses.reflection_core
  owner_assets : recipient ≠ NamedAddresses.test_assets
  owner_amm : recipient ≠ NamedAddresses.test_amm
  eligible : is_excluded_store w.reflection (.primary .trfl recipient) = false
  owned : shares ≤ (e.position sender).shares

/-! ## The entries as passages -/

namespace World

variable (w : World) (e : LpEpoch) (a b : Address) (n : ℕ)

@[simp] theorem lp_vault_provided :
    (w.provided a n).balance .lp_reward_vault = w.balance .lp_reward_vault := by
  simp [provided]

@[simp] theorem lp_vault_released :
    (w.released a n).balance .lp_reward_vault = w.balance .lp_reward_vault := by
  simp [released]

@[simp] theorem custody_shares_usdIn :
    (w.usdIn a n).custody.custody_shares = w.custody.custody_shares := rfl

@[simp] theorem custody_shares_usdOut :
    (w.usdOut a n).custody.custody_shares = w.custody.custody_shares := rfl

@[simp] theorem custody_shares_lpMinted :
    (w.lpMinted e a n).custody.custody_shares = w.custody.custody_shares := rfl

@[simp] theorem custody_shares_lpWithdrawn :
    (w.lpWithdrawn e a n).custody.custody_shares = w.custody.custody_shares := by
  unfold lpWithdrawn exitLogged
  split <;> rfl

@[simp] theorem usd_lpMinted : (w.lpMinted e a n).usd = w.usd := rfl

@[simp] theorem usd_lpWithdrawn : (w.lpWithdrawn e a n).usd = w.usd := by
  unfold lpWithdrawn exitLogged
  split <;> rfl

@[simp] theorem custody_shares_lpTransferred :
    (w.lpTransferred e a b n).custody.custody_shares = w.custody.custody_shares := by
  unfold lpTransferred exitLogged
  split <;> rfl

@[simp] theorem usd_lpTransferred : (w.lpTransferred e a b n).usd = w.usd := by
  unfold lpTransferred exitLogged
  split <;> rfl

end World

namespace Launched

variable {e : LpEpoch} {w : World} {a b : Address} {n min_rfl min_usd deadline : ℕ}

/-- The stages of `add_liquidity`, whatever the shares minted. -/
theorem stage_add (h : Launched e w) (hl : Live e w)
    (hx : is_excluded_store w.reflection (.primary .trfl a) = false) (hn : 0 < n)
    (ha : a ∈ (w.rewarded e a).wallets)
    (hf : w.rflUsed e n
      ≤ ((w.rewarded e a).materializedAll a false .LIQUIDITY_IN).raw a) :
    ∃ as, (∀ x ∈ as, Quiet x) ∧
      Stage as (e.payment a ++ [.enroll a, .give a n]) e w
        ((ensure_position (e.rewarded a) a).minted a n) (w.liquidityAdded e a n) := by
  obtain ⟨as₁, hq₁, h₁⟩ := h.deployed.rewarded hl.epoch a
  have hm := h₁.deployed.core.moved_provided ha hf
  obtain ⟨as₂, hq₂, h₂⟩ := h₁.deployed.moved hm (by simp)
  have h₃ := h₂.deployed.outside (World.outside_usdIn _ a (w.usdUsed e n))
  have h₁₃ := (h₁.trans h₂).trans h₃
  have hx₃ : is_excluded_store
      (((w.rewarded e a).provided a (w.rflUsed e n)).usdIn a (w.usdUsed e n)).reflection
      (.primary .trfl a) = false := by
    rw [is_excluded_store, h₁₃.exclusions]
    exact hx
  have h₄ := h₃.deployed.lpMinted (h₁₃.epoch 1 hl.epoch) hn hx₃
  have h₅ : Stage [] [] _ _ _ (w.liquidityAdded e a n) := h₄.deployed.outside (.logged _ _)
  refine ⟨as₁ ++ as₂, fun x hx => (List.mem_append.mp hx).elim (hq₁ x) (hq₂ x), ?_⟩
  simpa only [List.append_nil, List.nil_append] using (h₁₃.trans h₄).trans h₅

theorem reserves_add (h : Launched e w) (hl : Live e w) (ha : a ∈ (w.rewarded e a).wallets)
    (hf : w.rflUsed e n
      ≤ ((w.rewarded e a).materializedAll a false .LIQUIDITY_IN).raw a) :
    (w.liquidityAdded e a n).custody.custody_shares = w.custody.custody_shares + w.rflUsed e n
      ∧ (w.liquidityAdded e a n).usd = w.usd + w.usdUsed e n := by
  obtain ⟨_, -, h₁⟩ := h.deployed.rewarded hl.epoch a
  have hm := h₁.deployed.core.moved_provided ha hf
  constructor
  · simp [World.liquidityAdded]
  · simp [World.liquidityAdded, hm.frame.usd]

/-- A share of the pool has no less of either reserve after an addition. -/
theorem both_add [NamedAddresses] {max_rfl max_usd limit : ℕ} (h : Launched e w)
    (hs : Adds e w a max_rfl max_usd limit deadline) {e' : LpEpoch}
    (he' : e' = (ensure_position (e.rewarded a) a).minted a (w.mintShares e max_rfl max_usd)) :
    w.custody.custody_shares * e'.total_shares
        ≤ (w.liquidityAdded e a (w.mintShares e max_rfl max_usd)).custody.custody_shares
          * e.total_shares
      ∧ w.usd * e'.total_shares
        ≤ (w.liquidityAdded e a (w.mintShares e max_rfl max_usd)).usd * e.total_shares := by
  obtain ⟨hR, hU⟩ := h.reserves_add hs.live hs.wallet hs.rfl_funds
  have hT : e'.total_shares = e.total_shares + w.mintShares e max_rfl max_usd := by
    rw [he', LpEpoch.minted, (e.rewarded a).ensure_position_eq a]
    simp
  rw [hR, hU, hT]
  exact ⟨Worth.deposit _ _ hs.live.shares_pos, Worth.deposit _ _ hs.live.shares_pos⟩

/-- **A deposit**, as a passage. -/
theorem add [NamedAddresses] {max_rfl max_usd limit : ℕ} (h : Launched e w)
    (hs : Adds e w a max_rfl max_usd limit deadline) :
    ∃ as, (∀ x ∈ as, Quiet x) ∧
      Passage as (e.payment a ++ [.enroll a, .give a (w.mintShares e max_rfl max_usd)]) e w
        ((ensure_position (e.rewarded a) a).minted a (w.mintShares e max_rfl max_usd))
        (w.liquidityAdded e a (w.mintShares e max_rfl max_usd)) := by
  obtain ⟨as, hq, hst⟩ := h.stage_add hs.live hs.eligible hs.shares_pos hs.wallet hs.rfl_funds
  obtain ⟨hR, hU⟩ := h.reserves_add hs.live hs.wallet hs.rfl_funds
  have hT : ((ensure_position (e.rewarded a) a).minted a
      (w.mintShares e max_rfl max_usd)).total_shares
        = e.total_shares + w.mintShares e max_rfl max_usd := by
    rw [LpEpoch.minted, (e.rewarded a).ensure_position_eq a]
    simp
  have hRp := hs.live.rfl_pos
  have hUp := hs.live.usd_pos
  have hTp := hs.live.shares_pos
  obtain ⟨hbR, hbU⟩ := h.both_add hs rfl
  refine ⟨as, hq, of_stage hs.live hst ?_ (by omega) (by omega) (by omega) (.of_both hbR hbU)⟩
  rw [hst.pending_none hq, h.settled]

/-! ### Withdrawals -/

theorem share_le (w : World) (e : LpEpoch) (hn : n ≤ e.total_shares) :
    w.rflShare e n ≤ w.custody.custody_shares ∧ w.usdShare e n ≤ w.usd := by
  have hdiv : ∀ R : ℕ, n * R / e.total_shares ≤ R := fun R =>
    Nat.div_le_of_le_mul (Nat.mul_le_mul_right R hn)
  unfold World.rflShare World.usdShare
  constructor <;> split
  · exact le_rfl
  · exact hdiv _
  · exact le_rfl
  · exact hdiv _

theorem mem_of_owned (hn0 : 0 < n) (hn : n ≤ (e.position a).shares) : a ∈ e.positions := by
  by_contra hne
  rw [LpEpoch.position_of_notMem hne] at hn
  exact absurd hn (by simpa using hn0.ne')

/-- The payout and the burn, after which the reserves can be paid out. -/
theorem stage_withdrawn (h : Launched e w) (hl : Live e w) (hn0 : 0 < n)
    (hn : n ≤ (e.position a).shares) :
    ∃ as, (∀ x ∈ as, Quiet x) ∧
      Stage as (e.payment a ++ ([.enroll a, .take a n]
          ++ ((ensure_position (e.rewarded a) a).burned a n).exit a)) e w
        ((e.rewarded a).withdrawn a n) ((w.rewarded e a).lpWithdrawn (e.rewarded a) a n) := by
  obtain ⟨as, hq, h₁⟩ := h.deployed.rewarded hl.epoch a
  have hn₁ : n ≤ ((e.rewarded a).position a).shares := by simpa using hn
  have hp₁ : (e.rewarded a).pending a = 0 := by
    rw [LpEpoch.pending_rewarded h.deployed.books.accounting, if_pos rfl]
  have h₂ := h₁.deployed.lpWithdrawn (h₁.epoch 1 hl.epoch) (mem_of_owned hn0 hn₁) hn₁ hp₁
  refine ⟨as, hq, ?_⟩
  simpa only [List.append_nil] using h₁.trans h₂

theorem moved_withdrawn (h : Launched e w) (hl : Live e w) (hn0 : 0 < n)
    (hn : n ≤ (e.position a).shares) :
    Moved ((w.rewarded e a).lpWithdrawn (e.rewarded a) a n)
      (((w.rewarded e a).lpWithdrawn (e.rewarded a) a n).released a (w.rflShare e n)) := by
  obtain ⟨_, -, hst⟩ := h.stage_withdrawn hl hn0 hn
  refine hst.deployed.core.moved_released ?_ ?_
  · rw [is_excluded_store, hst.exclusions]
    exact h.deployed.owners a (mem_of_owned hn0 hn)
  · simpa using (share_le w e (hn.trans (h.deployed.books.accounting.shares_le a))).1

/-- The stages of `remove_liquidity` up to the closing of the pool. -/
theorem stage_remove (h : Launched e w) (hl : Live e w) (hn0 : 0 < n)
    (hn : n ≤ (e.position a).shares) :
    ∃ as, (∀ x ∈ as, Quiet x) ∧
      Stage as (e.payment a ++ ([.enroll a, .take a n]
          ++ ((ensure_position (e.rewarded a) a).burned a n).exit a)) e w
        ((e.rewarded a).withdrawn a n) (w.liquidityRemoved e a n) := by
  obtain ⟨as₁, hq₁, h₁⟩ := h.stage_withdrawn hl hn0 hn
  obtain ⟨as₂, hq₂, h₂⟩ := h₁.deployed.moved (h.moved_withdrawn hl hn0 hn) (by simp)
  have h₃ : Stage [] [] _ _ _ (w.liquidityRemoved e a n) :=
    h₂.deployed.outside (World.outside_usdOut _ a (w.usdShare e n))
  refine ⟨as₁ ++ as₂, fun x hx => (List.mem_append.mp hx).elim (hq₁ x) (hq₂ x), ?_⟩
  simpa only [List.append_nil] using (h₁.trans h₂).trans h₃

theorem reserves_remove (h : Launched e w) (hl : Live e w) (hn0 : 0 < n)
    (hn : n ≤ (e.position a).shares) :
    (w.liquidityRemoved e a n).custody.custody_shares
        = w.custody.custody_shares - w.rflShare e n
      ∧ (w.liquidityRemoved e a n).usd = w.usd - w.usdShare e n := by
  constructor
  · simp [World.liquidityRemoved]
  · simp [World.liquidityRemoved, (h.moved_withdrawn hl hn0 hn).frame.usd]

theorem total_shares_withdrawn (e : LpEpoch) (a : Address) (n : ℕ) :
    (e.withdrawn a n).total_shares = e.total_shares - n := by
  obtain ⟨ps, ag, ret, c, heq, -⟩ := e.withdrawn_eq a n
  rw [heq]

/-- What a partial withdrawal leaves of the reserves and of the shares. -/
theorem reserves_removePart (h : Launched e w) (hs : Removes e w a n min_rfl min_usd deadline)
    (hne : n ≠ e.total_shares) :
    (w.removedPart e a n).custody.custody_shares
        = w.custody.custody_shares - n * w.custody.custody_shares / e.total_shares
      ∧ (w.removedPart e a n).usd = w.usd - n * w.usd / e.total_shares
      ∧ ((e.rewarded a).withdrawn a n).total_shares = e.total_shares - n := by
  obtain ⟨hR, hU⟩ := h.reserves_remove hs.live hs.pos hs.owned
  have hR₁ : w.rflShare e n = n * w.custody.custody_shares / e.total_shares := if_neg hne
  have hU₁ : w.usdShare e n = n * w.usd / e.total_shares := if_neg hne
  refine ⟨?_, ?_, ?_⟩
  · simpa only [World.removedPart, World.custody_logged, ← hR₁] using hR
  · simpa only [World.removedPart, World.usd_logged, ← hU₁] using hU
  · rw [total_shares_withdrawn, LpEpoch.total_shares_rewarded]

/-- A share of the pool has no less of either reserve after a partial withdrawal. -/
theorem both_removePart (h : Launched e w) (hs : Removes e w a n min_rfl min_usd deadline)
    (hne : n ≠ e.total_shares) :
    w.custody.custody_shares * ((e.rewarded a).withdrawn a n).total_shares
        ≤ (w.removedPart e a n).custody.custody_shares * e.total_shares
      ∧ w.usd * ((e.rewarded a).withdrawn a n).total_shares
        ≤ (w.removedPart e a n).usd * e.total_shares := by
  obtain ⟨hR, hU, hT⟩ := h.reserves_removePart hs hne
  rw [hR, hU, hT]
  exact ⟨Worth.withdrawal _ _ _, Worth.withdrawal _ _ _⟩

/-- **A withdrawal that leaves shares**, as a passage. -/
theorem removePart (h : Launched e w) (hs : Removes e w a n min_rfl min_usd deadline)
    (hne : n ≠ e.total_shares) :
    ∃ as, (∀ x ∈ as, Quiet x) ∧
      Passage as (e.payment a ++ ([.enroll a, .take a n]
          ++ ((ensure_position (e.rewarded a) a).burned a n).exit a)) e w
        ((e.rewarded a).withdrawn a n) (w.removedPart e a n) := by
  obtain ⟨as, hq, h₁⟩ := h.stage_remove hs.live hs.pos hs.owned
  have h₂ : Stage [] [] _ _ _ (w.removedPart e a n) := h₁.deployed.outside (.logged _ _)
  have hst := h₁.trans h₂
  simp only [List.append_nil] at hst
  obtain ⟨hR, hU, hT⟩ := h.reserves_removePart hs hne
  obtain ⟨hbR, hbU⟩ := h.both_removePart hs hne
  have hle := hs.owned.trans (h.deployed.books.accounting.shares_le a)
  have hlt : ∀ R : ℕ, 0 < R → n * R / e.total_shares < R := by
    intro R hR
    rw [Nat.div_lt_iff_lt_mul hs.live.shares_pos, mul_comm R]
    exact Nat.mul_lt_mul_of_pos_right (lt_of_le_of_ne hle hne) hR
  have hRlt := hlt _ hs.live.rfl_pos
  have hUlt := hlt _ hs.live.usd_pos
  refine ⟨as, hq, of_stage hs.live hst ?_ (by omega) (by omega) (by omega) (.of_both hbR hbU)⟩
  rw [hst.pending_none hq, h.settled]

theorem logged (h : Launched e w) (event : Event) : Launched e (w.logged event) := by
  refine ⟨(h.deployed.outside (.logged w event)).deployed, h.settled, ?_⟩
  rcases h.phase with hl | hc
  · exact .inl ⟨hl.lifecycle, hl.epoch, hl.status, hl.rfl_pos, hl.usd_pos, hl.shares_pos,
      hl.backed⟩
  · exact .inr ⟨hc.lifecycle, hc.epoch, hc.status, hc.rfl_zero, hc.usd_zero, hc.shares_zero,
      hc.terminal⟩

/-- **The closing.** An empty pool that is owed nothing closes with its epoch. -/
theorem shutDown (h : Deployed e w) (hR : w.custody.custody_shares = 0) (hU : w.usd = 0)
    (hT : e.total_shares = 0) (hp : w.pending none = 0) : Launched e.closed (w.shutDown e) := by
  have hc : Core (w.shutDown e) :=
    h.core.congr rfl rfl rfl rfl rfl rfl rfl (fun _ _ => rfl) rfl
  refine ⟨⟨hc, ⟨h.bound.custody_registry, h.bound.pool_store, h.bound.pool_registered,
    h.bound.registered⟩, h.books.step_closed.books, h.vault, h.owners, rfl, h.usd_reserve,
    h.faucet, h.frozen, h.fee, h.unallocated, h.published⟩, hp, .inr ?_⟩
  exact ⟨rfl, rfl, rfl, hR, hU, hT, rfl⟩

/-- A stage that empties the pool, closed. -/
theorem close {as : List (Act (Option Address))} {bs : List (Act Address)} {e' : LpEpoch}
    {w' : World} (hst : Stage as bs e w e' w') (hR : w'.custody.custody_shares = 0)
    (hU : w'.usd = 0) (hT : e'.total_shares = 0) (hp : w'.pending none = 0)
    (event₁ event₂ event₃ : Event) :
    Passage as bs e w e'.closed
      ((((w'.shutDown e').logged event₁).logged event₂).logged event₃) := by
  have hs := shutDown hst.deployed hR hU hT hp
  refine ⟨((hs.logged _).logged _).logged _, hst.core_run, hst.lp_run, hst.fee_bps, fun hl => ?_⟩
  cases hl.lifecycle

/-- What the last withdrawal finds when it closes the pool. -/
theorem emptied (h : Launched e w) (hl : Live e w) (hown : e.total_shares ≤ (e.position a).shares) :
    (w.liquidityRemoved e a e.total_shares).custody.custody_shares = 0
      ∧ (w.liquidityRemoved e a e.total_shares).usd = 0
      ∧ ((e.rewarded a).withdrawn a e.total_shares).total_shares = 0
      ∧ (w.liquidityRemoved e a e.total_shares).pending none = 0 := by
  obtain ⟨as, hq, hst⟩ := h.stage_remove hl hl.shares_pos hown
  obtain ⟨hR, hU⟩ := h.reserves_remove hl hl.shares_pos hown
  refine ⟨?_, ?_, ?_, ?_⟩
  · rw [hR, World.rflShare, if_pos rfl, Nat.sub_self]
  · rw [hU, World.usdShare, if_pos rfl, Nat.sub_self]
  · rw [total_shares_withdrawn, LpEpoch.total_shares_rewarded, Nat.sub_self]
  · rw [hst.pending_none hq, h.settled]

/-- **The last withdrawal**, as a passage. -/
theorem removeAll (h : Launched e w) (hl : Live e w) (hown : e.total_shares ≤ (e.position a).shares) :
    ∃ as, (∀ x ∈ as, Quiet x) ∧
      Passage as (e.payment a ++ ([.enroll a, .take a e.total_shares]
          ++ ((ensure_position (e.rewarded a) a).burned a e.total_shares).exit a)) e w
        ((e.rewarded a).withdrawn a e.total_shares).closed (w.removedAll e a e.total_shares) := by
  obtain ⟨as, hq, hst⟩ := h.stage_remove hl hl.shares_pos hown
  obtain ⟨hR, hU, hT, hp⟩ := h.emptied hl hown
  exact ⟨as, hq, close hst hR hU hT hp _ _ _⟩

/-! ### LP ownership -/

/-- **A transfer of LP shares**, as a passage. -/
theorem transferShares [NamedAddresses] (h : Launched e w) (hs : TransfersShares e w a b n) :
    ∃ as, (∀ x ∈ as, Quiet x) ∧
      Passage as ((e.payment a ++ (e.rewarded a).payment b)
          ++ ([.enroll a, .enroll b, .take a n, .give b n]
            ++ (((ensure_position (ensure_position ((e.rewarded a).rewarded b) a) b).burned a
              n).minted b n).exit a)) e w
        (((e.rewarded a).rewarded b).transferred a b n) (w.sharesTransferred e a b n) := by
  have hl := hs.live
  -- Both sides are paid first, and then the shares change hands.
  obtain ⟨as₁, hq₁, h₁⟩ := h.deployed.rewarded hl.epoch a
  obtain ⟨as₂, hq₂, h₂⟩ := h₁.deployed.rewarded (h₁.epoch 1 hl.epoch) b
  have h₁₂ := h₁.trans h₂
  have hn : n ≤ (((e.rewarded a).rewarded b).position a).shares := by simpa using hs.owned
  have hp : ((e.rewarded a).rewarded b).pending a = 0 := by
    rw [LpEpoch.pending_rewarded h₁.deployed.books.accounting, if_neg hs.distinct.symm,
      LpEpoch.pending_rewarded h.deployed.books.accounting, if_pos rfl]
  have hx : is_excluded_store ((w.rewarded e a).rewarded (e.rewarded a) b).reflection
      (.primary .trfl b) = false := by
    rw [is_excluded_store, h₁₂.exclusions]
    exact hs.eligible
  have h₃ := h₂.deployed.lpTransferred (h₁₂.epoch 1 hl.epoch) hs.distinct hs.pos hn hp hx
  have hst := h₁₂.trans h₃
  rw [List.append_nil] at hst
  change Stage _ _ e w _ (w.sharesTransferred e a b n) at hst
  have hq : ∀ x ∈ as₁ ++ as₂, Quiet x := fun x hx =>
    (List.mem_append.mp hx).elim (hq₁ x) (hq₂ x)
  have hR : (w.sharesTransferred e a b n).custody.custody_shares = w.custody.custody_shares := by
    simp [World.sharesTransferred]
  have hU : (w.sharesTransferred e a b n).usd = w.usd := by
    simp [World.sharesTransferred]
  have hle : n ≤ ((e.rewarded a).rewarded b).total_shares :=
    hn.trans (h₂.deployed.books.accounting.shares_le a)
  have hT : (((e.rewarded a).rewarded b).transferred a b n).total_shares = e.total_shares := by
    obtain ⟨ps, ag, ret, c, heq, -⟩ := ((e.rewarded a).rewarded b).transferred_eq a b n hle
    rw [heq]
    simp
  refine ⟨as₁ ++ as₂, hq, of_stage hl hst ?_ ?_ ?_ ?_ ?_⟩
  · rw [hst.pending_none hq, h.settled]
  · rw [hR]
    exact hl.rfl_pos
  · rw [hU]
    exact hl.usd_pos
  · rw [hT]
    exact hl.shares_pos
  · rw [hR, hU, hT]
    exact .refl _ _ _

/-- **A claim of LP rewards**, as a passage. -/
theorem claimShares (h : Launched e w) (hl : Live e w) (hn0 : 0 < n) (hn : n ≤ e.pending a) :
    ∃ as, (∀ x ∈ as, Quiet x) ∧
      Passage as [.pay a n] e w (e.paid a n) (w.lpClaimed e a n) := by
  obtain ⟨as, hq, hst⟩ := h.deployed.lpClaimed hl.epoch hn0 hn
  have hU : (w.lpClaimed e a n).usd = w.usd := by
    have hb := World.balance_materializedAll ((w.lpPaid e a n 1).ensured a) a false .LP_PAYOUT
      (s := .usd_reserve) (by simp) (by simp)
    simp [World.usd, World.lpClaimed, World.paidOut, World.walletCredited, World.addRaw, hb]
    rfl
  refine ⟨as, hq, of_stage hl hst ?_ ?_ ?_ hl.shares_pos ?_⟩
  · rw [hst.pending_none hq, h.settled]
  · rw [World.custody_shares_lpClaimed]
    exact hl.rfl_pos
  · rw [hU]
    exact hl.usd_pos
  · rw [World.custody_shares_lpClaimed, hU]
    exact .refl _ _ _

end Launched

end CedraReflect
