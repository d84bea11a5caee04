/-
The deployed system between its launch and the end of time.

[`Deployed`] is what holds of the core, of the LP epoch and of the wiring
between them at every point where no reward is in transit, [`Launched`] what
holds in addition between two calls: the pool is owed nothing, and it is either
live with two positive reserves or closed with none. A [`Stage`] is a passage
from one deployed state to another, with the events of both ledgers; a call is
a sequence of stages.
-/
import CedraReflect.LpSpec
import CedraReflect.TokenSpec

set_option autoImplicit false
set_option linter.constructorNameAsVariable false

namespace CedraReflect

open Dividend (Ledger Act Valid Run)
open reflection_math (MAGNITUDE MAGNITUDE_pos)
open reflection_token (TOTAL_SUPPLY MAX_FEE_BPS is_excluded_store)

/-! ## The wiring -/

/-- The pool's record, which only its lifecycle changes in. -/
@[simps settlement_cap custody_cap lp_cap usd_pool_cap rfl_reserve usd_reserve lifecycle]
def pool.deployed (lifecycle : Lifecycle) : PoolState where
  settlement_cap := ⟨1⟩
  custody_cap := custody_registry.deployed_cap
  lp_cap := lp_rewards.deployed_cap
  usd_pool_cap := ⟨.usd_reserve, 1⟩
  rfl_reserve := .rfl_reserve
  usd_reserve := .usd_reserve
  lifecycle := lifecycle

/-- The stores that the launch freezes. -/
def frozenStores : List Address :=
  [.reward_vault, .distribution_vault, .rfl_reserve, .lp_reward_vault, .usd_reserve]

namespace World

/-- The tUSD reserve. -/
def usd (w : World) : ℕ := w.balance .usd_reserve

end World

/-- The state of the system where no reward is in transit. -/
structure Deployed (e : LpEpoch) (w : World) : Prop where
  core : Core w
  bound : Bound w
  books : Books e
  vault : w.balance .lp_reward_vault + e.lifetime_claimed = e.lifetime_received
  owners : ∀ a ∈ e.positions, is_excluded_store w.reflection (.primary .trfl a) = false
  pool : w.pool = some (pool.deployed w.reflection.lifecycle)
  usd_reserve : w.mock_usd.pool_reserve = .usd_reserve
  faucet : w.faucet.isSome = true
  frozen : ∀ s, w.frozen s = decide (s ∈ frozenStores)
  fee : w.reflection.fee_bps ≤ MAX_FEE_BPS
  unallocated : w.reflection.unallocated_fees = 0
  published : w.published = true

/-- The pool is open: nobody can be short of shares, and the shares are worth
their reserves. -/
structure Live (e : LpEpoch) (w : World) : Prop where
  lifecycle : w.reflection.lifecycle = .LIVE
  epoch : Epoch 1 e w
  status : e.status = .ACTIVE
  rfl_pos : 0 < w.custody.custody_shares
  usd_pos : 0 < w.usd
  shares_pos : 0 < e.total_shares
  backed : e.total_shares ^ 2 ≤ w.custody.custody_shares * w.usd

/-- The pool is closed, pool and epoch alike. -/
structure Closed (e : LpEpoch) (w : World) : Prop where
  lifecycle : w.reflection.lifecycle = .CLOSED
  epoch : Epoch 0 e w
  status : e.status = .CLAIM_ONLY
  rfl_zero : w.custody.custody_shares = 0
  usd_zero : w.usd = 0
  shares_zero : e.total_shares = 0
  terminal : e.terminal_rounding_reserve = e.rounding_reserve

/-- The system between two calls. -/
structure Launched (e : LpEpoch) (w : World) : Prop where
  deployed : Deployed e w
  settled : w.pending none = 0
  phase : Live e w ∨ Closed e w

theorem Deployed.backed {e : LpEpoch} {w : World} (h : Deployed e w) : Backed e w :=
  ⟨h.vault, h.core.supply.balance_le _ rfl⟩

/-- The phase of a launched system is the core's lifecycle. -/
theorem Launched.live_iff {e : LpEpoch} {w : World} (h : Launched e w) :
    Live e w ↔ w.reflection.lifecycle = .LIVE := by
  refine ⟨fun hl => hl.lifecycle, fun hlive => ?_⟩
  rcases h.phase with hp | hp
  · exact hp
  · rw [hp.lifecycle] at hlive
    cases hlive

/-! ## Stages -/

/-- A passage between two deployed states, with the events `as` of the core's
ledger and `bs` of the epoch's. -/
structure Stage (as : List (Act (Option Address))) (bs : List (Act Address)) (e : LpEpoch)
    (w : World) (e' : LpEpoch) (w' : World) : Prop where
  deployed : Deployed e' w'
  core_run : Run MAGNITUDE w.coreLedger as w'.coreLedger
  lp_run : Run MAGNITUDE e.ledger bs e'.ledger
  lifecycle : w'.reflection.lifecycle = w.reflection.lifecycle
  fee_bps : w'.reflection.fee_bps = w.reflection.fee_bps
  exclusions : w'.reflection.exclusions = w.reflection.exclusions
  status : e'.status = e.status
  epoch : ∀ active, Epoch active e w → Epoch active e' w'

namespace Stage

variable {as as' : List (Act (Option Address))} {bs bs' : List (Act Address)}
  {e e' e'' : LpEpoch} {w w' w'' : World}

theorem refl (h : Deployed e w) : Stage [] [] e w e w :=
  ⟨h, .nil _, .nil _, rfl, rfl, rfl, rfl, fun _ h => h⟩

theorem trans (h : Stage as bs e w e' w') (h' : Stage as' bs' e' w' e'' w'') :
    Stage (as ++ as') (bs ++ bs') e w e'' w'' :=
  ⟨h'.deployed, h.core_run.append h'.core_run, h.lp_run.append h'.lp_run,
    h'.lifecycle.trans h.lifecycle, h'.fee_bps.trans h.fee_bps,
    h'.exclusions.trans h.exclusions, h'.status.trans h.status, fun _ hk => h'.epoch _ (h.epoch _ hk)⟩

end Stage

namespace Deployed

variable {as : List (Act (Option Address))} {bs : List (Act Address)} {e e' : LpEpoch}
  {w w' : World}

/-- A step of the core that leaves the epoch's vault alone. -/
theorem step (h : Deployed e w) (hs : Step as w w')
    (hv : w'.balance .lp_reward_vault = w.balance .lp_reward_vault)
    (hu : w'.reflection.unallocated_fees = 0) : Stage as [] e w e w' := by
  have hf := hs.frame
  refine ⟨⟨hs.core, h.bound.frame hf, h.books, hv ▸ h.vault, fun a ha => ?_, ?_, ?_, ?_, ?_, ?_,
    hu, hf.published.trans h.published⟩, hs.run, .nil _, hf.lifecycle, hf.fee_bps, hf.exclusions,
    rfl, fun _ hk => hk.frame hf⟩
  · rw [is_excluded_store, hf.exclusions]
    exact h.owners a ha
  · rw [hf.pool, hf.lifecycle, h.pool]
  · rw [hf.mock_usd, h.usd_reserve]
  · rw [hf.faucet, h.faucet]
  · rw [hf.frozen]
    exact h.frozen
  · rw [hf.fee_bps]
    exact h.fee

/-- A quiet passage that leaves the epoch's vault alone. -/
theorem moved (h : Deployed e w) (hm : Moved w w')
    (hv : w'.balance .lp_reward_vault = w.balance .lp_reward_vault) :
    ∃ as, (∀ a ∈ as, Quiet a) ∧ Stage as [] e w e w' := by
  obtain ⟨as, has, hs⟩ := id hm
  refine ⟨as, has, h.step hs hv ?_⟩
  rw [hm.scalars.2.2.1, h.unallocated]

end Deployed

/-- Where only quiet events happen, the pool is owed what it was owed. -/
theorem Stage.pending_none {as : List (Act (Option Address))} {bs : List (Act Address)}
    {e e' : LpEpoch} {w w' : World} (h : Stage as bs e w e' w') (hq : ∀ a ∈ as, Quiet a) :
    w'.pending none = w.pending none := by
  refine h.core_run.pending_eq none (fun a ha => ?_) (fun a ha => ?_)
  · have := hq a ha
    constructor <;> rintro x rfl <;> exact this
  · have := hq a ha
    rintro x rfl
    exact this

/-! ## Outside of both ledgers -/

/-- A change of tUSD, of the faucet, of the clock or of the journal. -/
structure Outside (w w' : World) : Prop where
  reflection : w'.reflection = w.reflection
  custody : w'.custody = w.custody
  custody_registry : w'.custody_registry = w.custody_registry
  lp_registry : w'.lp_registry = w.lp_registry
  pool : w'.pool = w.pool
  mock_usd : w'.mock_usd = w.mock_usd
  faucet : w'.faucet.isSome = w.faucet.isSome
  frozen : w'.frozen = w.frozen
  trfl : ∀ s : Address, s.store_metadata = some .trfl → w'.balance s = w.balance s
  in_flight : w'.in_flight .trfl = w.in_flight .trfl
  published : w'.published = w.published

namespace Outside

variable {w w' w'' : World} {n : ℕ} {s : Address}

theorem refl (w : World) : Outside w w :=
  ⟨rfl, rfl, rfl, rfl, rfl, rfl, rfl, rfl, fun _ _ => rfl, rfl, rfl⟩

theorem trans (h : Outside w w') (h' : Outside w' w'') : Outside w w'' :=
  ⟨h'.reflection.trans h.reflection, h'.custody.trans h.custody,
    h'.custody_registry.trans h.custody_registry, h'.lp_registry.trans h.lp_registry,
    h'.pool.trans h.pool, h'.mock_usd.trans h.mock_usd, h'.faucet.trans h.faucet,
    h'.frozen.trans h.frozen, fun s hs => (h'.trfl s hs).trans (h.trfl s hs),
    h'.in_flight.trans h.in_flight, h'.published.trans h.published⟩

theorem logged (w : World) (event : Event) : Outside w (w.logged event) :=
  ⟨rfl, rfl, rfl, rfl, rfl, rfl, rfl, rfl, fun _ _ => rfl, rfl, rfl⟩

theorem tusd_off {b : Address → ℕ} (hs : s.store_metadata = some .tusd) (n : ℕ) (t : Address)
    (ht : t.store_metadata = some .trfl) : Function.update b s n t = b t :=
  Function.update_of_ne (by rintro rfl; simp [hs] at ht) _ _

theorem debit (hs : s.store_metadata = some .tusd) : Outside w (w.debit .tusd s n) :=
  ⟨rfl, rfl, rfl, rfl, rfl, rfl, rfl, rfl, tusd_off hs _, by simp, rfl⟩

theorem credit (hs : s.store_metadata = some .tusd) : Outside w (w.credit .tusd s n) :=
  ⟨rfl, rfl, rfl, rfl, rfl, rfl, rfl, rfl, tusd_off hs _, by simp, rfl⟩

theorem minted : Outside w (w.minted .tusd n) :=
  ⟨rfl, rfl, rfl, rfl, rfl, rfl, rfl, rfl, fun _ _ => rfl, by simp, rfl⟩

theorem exitLogged (w : World) (e : LpEpoch) (a : Address) : Outside w (w.exitLogged e a) := by
  unfold World.exitLogged
  split
  · exact logged w _
  · exact refl w

theorem coreLedger (h : Outside w w') : w'.coreLedger = w.coreLedger := by
  have hraw : ∀ a, w'.raw a = w.raw a := fun a => h.trfl _ rfl
  have hpos : ∀ a, w'.position a = w.position a := fun a => by
    rw [World.position, h.reflection, World.position]
  refine Ledger.ext ?_ ?_ ?_ ?_ ?_ ?_ ?_ rfl ?_
  · show w'.wallets.insertNone = w.wallets.insertNone
    rw [World.wallets, h.custody, World.wallets]
  · funext i
    rcases i with _ | a
    · simp [h.custody]
    · simp [hraw]
  · funext i
    rcases i with _ | a
    · simp [h.custody, h.reflection]
    · simp [hraw, hpos, h.reflection]
  · funext i
    rcases i with _ | a
    · simp [h.custody]
    · simp [hpos]
  all_goals simp [h.reflection]

theorem pending (h : Outside w w') (i : Option Address) : w'.pending i = w.pending i := by
  rw [World.pending, h.coreLedger, World.pending]

theorem core (h : Outside w w') (hc : Core w) : Core w' :=
  hc.congr h.coreLedger (by rw [h.reflection]) (by rw [h.reflection]) (by rw [h.reflection])
    (by rw [h.reflection]) (by rw [h.reflection]) h.custody h.trfl h.in_flight

end Outside

namespace Deployed

variable {as : List (Act (Option Address))} {bs : List (Act Address)} {e e' : LpEpoch}
  {w w' : World} {active : ℕ}

theorem outside (h : Deployed e w) (ho : Outside w w') : Stage [] [] e w e w' := by
  refine ⟨⟨ho.core h.core, ⟨?_, ?_, ?_, ?_⟩, h.books, ?_, fun a ha => ?_, ?_, ?_, ?_, ?_, ?_, ?_,
    ho.published.trans h.published⟩, ?_, .nil _, by rw [ho.reflection], by rw [ho.reflection],
    by rw [ho.reflection], rfl, fun k hk => ?_⟩
  · rw [ho.custody_registry, h.bound.custody_registry]
  · rw [ho.reflection, h.bound.pool_store]
  · rw [ho.reflection, h.bound.pool_registered]
  · rw [ho.custody, h.bound.registered]
  · rw [ho.trfl _ rfl, h.vault]
  · rw [ho.reflection]
    exact h.owners a ha
  · rw [ho.pool, h.pool, ho.reflection]
  · rw [ho.mock_usd, h.usd_reserve]
  · rw [ho.faucet, h.faucet]
  · rw [ho.frozen]
    exact h.frozen
  · rw [ho.reflection]
    exact h.fee
  · rw [ho.reflection]
    exact h.unallocated
  · rw [ho.coreLedger]
    exact .nil _
  · rw [Epoch, ho.lp_registry]
    exact hk

/-- **A step of the epoch**, together with whatever the core does, if between
them they keep the epoch's vault what was received and not claimed. -/
theorem joint (h : Deployed e w) (hw : Epoch active e w) (hc : Core w')
    (hf : Frame (w.withEpoch active e') w') (hrun : Run MAGNITUDE w.coreLedger as w'.coreLedger)
    (hl : LpStep bs e e')
    (hv : w'.balance .lp_reward_vault + e'.lifetime_claimed = e'.lifetime_received)
    (hst : e'.status = e.status)
    (ho : ∀ a ∈ e'.positions, is_excluded_store w.reflection (.primary .trfl a) = false)
    (hu : w'.reflection.unallocated_fees = 0) : Stage as bs e w e' w' := by
  have hb : Bound (w.withEpoch active e') :=
    ⟨h.bound.custody_registry, h.bound.pool_store, h.bound.pool_registered, h.bound.registered⟩
  refine ⟨⟨hc, hb.frame hf, hl.books, hv, fun a ha => ?_, ?_, ?_, ?_, ?_, ?_, hu,
    hf.published.trans h.published⟩, hrun, hl.run, hf.lifecycle, hf.fee_bps, hf.exclusions, hst,
    fun k hk => ?_⟩
  · rw [is_excluded_store, hf.exclusions]
    exact ho a ha
  · rw [hf.pool, hf.lifecycle]
    exact h.pool
  · rw [hf.mock_usd]
    exact h.usd_reserve
  · rw [hf.faucet]
    exact h.faucet
  · rw [hf.frozen]
    exact h.frozen
  · rw [hf.fee_bps]
    exact h.fee
  · -- There is one epoch, the active one.
    have hkw : k = active := by
      have := hk.symm.trans hw
      simp only [Option.some.injEq, LpEpochRegistry.mk.injEq] at this
      exact this.1
    rw [hkw]
    exact hf.lp_registry

/-- The epoch is written and nobody is paid. -/
theorem written (h : Deployed e w) (hw : Epoch active e w) (hs : LpStep bs e e')
    (hr : e'.lifetime_received = e.lifetime_received)
    (hc : e'.lifetime_claimed = e.lifetime_claimed) (hst : e'.status = e.status)
    (ho : ∀ a ∈ e'.positions, is_excluded_store w.reflection (.primary .trfl a) = false) :
    Stage [] bs e w e' (w.withEpoch active e') := by
  refine h.joint hw ?_ (Frame.refl _) (.nil _) hs ?_ hst ho h.unallocated
  · exact h.core.congr rfl rfl rfl rfl rfl rfl rfl (fun _ _ => rfl) rfl
  · rw [hr, hc]
    exact h.vault

end Deployed

end CedraReflect
