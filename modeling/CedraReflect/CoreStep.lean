/-
Steps of the core: an effect together with the events of the ledger it makes.

[`Step`] bundles what every downstream argument wants to know about a piece of
a call: the invariant afterwards, what was left alone, and the events. Steps
compose, so that a call is read off effect by effect. Most effects make only
[`Quiet`] events, which move shares and pay wallets; such a passage is
[`Moved`], and nothing the pool has earned changes in it.
-/
import CedraReflect.CoreInvariant

set_option autoImplicit false
set_option linter.constructorNameAsVariable false

namespace CedraReflect

open Dividend (Ledger Act Valid Run)
open reflection_math (MAGNITUDE MAGNITUDE_pos)
open reflection_token (is_excluded_store)

/-! ## The deployment -/

namespace custody_registry

/-- The registry a launch leaves: one reserve, one approved vault. -/
def deployed : CustodyRegistry where
  adapter_id := 1
  reserve_store := .rfl_reserve
  active_epoch := 1
  active_lp_vault := .lp_reward_vault
  approved_lp_vaults := (∅ : Table Address ℕ).insert .lp_reward_vault 1

/-- The capability it hands out. -/
def deployed_cap : CustodySettlementCapability := ⟨1, .rfl_reserve, 1⟩

end custody_registry

/-- The core is bound to the canonical pool. -/
structure Bound (w : World) : Prop where
  custody_registry : w.custody_registry = some custody_registry.deployed
  pool_store : w.reflection.pool_store = .rfl_reserve
  pool_registered : w.reflection.pool_registered = true
  registered : w.custody.registered = true

theorem Bound.frame {w w' : World} (h : Bound w) (hf : Frame w w') : Bound w' :=
  ⟨hf.custody_registry.trans h.custody_registry, hf.pool_store.trans h.pool_store,
    hf.pool_registered.trans h.pool_registered, hf.registered.trans h.registered⟩

/-! ## Composite effects -/

namespace World

variable (w : World) (a : Address) (n : ℕ)

/-- `ensure_registered_wallet_for_store`. -/
def ensured : World := if a ∈ w.wallets then w else w.enrolled a (.primary .trfl a)

/-- Where the fee of a sell is taken: all the seller earned has been paid, and
the gross units have left. -/
def sellInstant : World := (w.materializedAll a false .SELL_PRE).walletDebited a n

/-- Where the fee of a buy is taken: all the buyer earned has been paid, and the
gross units have left the pool. -/
def buyInstant : World := ((w.ensured a).materializedAll a false .BUY_PRE).poolDebited n

/-- `settle_sell`. -/
def sold (fee : ℕ) : World :=
  ((((w.materializedAll a false .SELL_PRE).walletDebited a n).feeTaken a n fee 1).materializedAll
    a false .SELL_POST).poolCredited (n - fee)

/-- `settle_buy`. -/
def bought (fee : ℕ) : World :=
  (((((w.ensured a).materializedAll a false .BUY_PRE).poolDebited n).feeTaken a n fee
    2).materializedAll a false .BUY_POST).walletCredited a (n - fee)

/-- `move_wallet_to_custody`. -/
def provided : World :=
  ((w.materializedAll a false .LIQUIDITY_IN).walletDebited a n).poolCredited n

/-- `move_custody_to_wallet`. -/
def released : World :=
  (((w.ensured a).materializedAll a false .LIQUIDITY_OUT).poolDebited n).walletCredited a n

/-- `payout_lp_reward_to`. -/
def paidOut : World :=
  (((w.ensured a).materializedAll a false .LP_PAYOUT).debit .trfl .lp_reward_vault
    n).walletCredited a n

/-- `faucet_grant`. -/
def granted (operator : Address) : World :=
  ((((w.ensured a).materializedAll a false .FAUCET).debit .trfl .distribution_vault
    n).walletCredited a n).logged (.FaucetGrant a n operator)

/-- `withdraw_hook_impl` of a wallet. -/
def sent : World :=
  ((w.materializedAll a false .TRANSFER_SEND).walletDebited a n).logged
    (.EligibleBalanceDebited a n)

/-- `deposit_hook_impl`. -/
def arrived : World :=
  (((w.ensured a).materializedAll a false .TRANSFER_RECEIVE).walletCredited a n).logged
    (.EligibleBalanceCredited a n)

end World

/-! ## Steps -/

/-- An event that neither brings a fee nor pays the pool. -/
def Quiet : Act (Option Address) → Prop
  | .enroll (some _) | .give _ _ | .take _ _ | .pay (some _) _ => True
  | _ => False

/-- The events `as` of the ledger lead from `w` to `w'`, and nothing else
happens than what the core does. -/
structure Step (as : List (Act (Option Address))) (w w' : World) : Prop where
  core : Core w'
  frame : Frame w w'
  run : Run MAGNITUDE w.coreLedger as w'.coreLedger

/-- A step made of quiet events. -/
def Moved (w w' : World) : Prop := ∃ as, (∀ a ∈ as, Quiet a) ∧ Step as w w'

namespace Step

variable {w w' w'' : World} {as bs : List (Act (Option Address))}

theorem refl (h : Core w) : Step [] w w := ⟨h, .refl w, .nil _⟩

theorem trans (h : Step as w w') (h' : Step bs w' w'') : Step (as ++ bs) w w'' :=
  ⟨h'.core, h.frame.trans h'.frame, h.run.append h'.run⟩

theorem moved (h : Step as w w') (hq : ∀ a ∈ as, Quiet a) : Moved w w' := ⟨as, hq, h⟩

/-- One event. -/
theorem single {a : Act (Option Address)} (hc : Core w') (hf : Frame w w')
    (ha : a.Enabled MAGNITUDE w.coreLedger)
    (hl : w'.coreLedger = a.apply MAGNITUDE w.coreLedger) : Step [a] w w' :=
  ⟨hc, hf, hl ▸ .single ha⟩

end Step

namespace Moved

variable {w w' w'' : World}

theorem refl (h : Core w) : Moved w w := (Step.refl h).moved (by simp)

theorem trans (h : Moved w w') (h' : Moved w' w'') : Moved w w'' := by
  obtain ⟨as, has, hs⟩ := h
  obtain ⟨bs, hbs, hs'⟩ := h'
  exact (hs.trans hs').moved (fun a ha => (List.mem_append.mp ha).elim (has a) (hbs a))

theorem core (h : Moved w w') : Core w' := by
  obtain ⟨_, -, hs⟩ := h
  exact hs.core

theorem frame (h : Moved w w') : Frame w w' := by
  obtain ⟨_, -, hs⟩ := h
  exact hs.frame

/-- The pool is owed what it was owed. -/
theorem pending_none (h : Moved w w') : w'.pending none = w.pending none := by
  obtain ⟨as, has, hs⟩ := h
  refine hs.run.pending_eq none (fun a ha => ?_) (fun a ha => ?_)
  · have := has a ha
    constructor <;> rintro x rfl <;> exact this
  · have := has a ha
    rintro x rfl
    exact this

/-- The index and all that goes with it stand still. -/
theorem scalars (h : Moved w w') :
    w'.reflection.index = w.reflection.index
      ∧ w'.reflection.index_remainder = w.reflection.index_remainder
      ∧ w'.reflection.unallocated_fees = w.reflection.unallocated_fees
      ∧ w'.reflection.lifetime_fees = w.reflection.lifetime_fees := by
  obtain ⟨as, has, hs⟩ := h
  refine hs.run.scalars_eq (fun a ha x hx => ?_)
  have := has a ha
  rw [hx] at this
  exact this

end Moved

/-! ## The effects as steps -/

namespace Core

variable {w : World} {a : Address} {n : ℕ}

theorem step_walletDebited (h : Core w) (ha : a ∈ w.wallets) (hn : n ≤ w.raw a) :
    Step [.take (some a) n] w (w.walletDebited a n) :=
  .single (h.walletDebited ha hn) .walletDebited ⟨(w.some_mem_holders a).mpr ha, hn⟩
    (w.coreLedger_walletDebited hn)

theorem step_walletCredited (h : Core w) (ha : a ∈ w.wallets) (hn : n ≤ w.in_flight .trfl) :
    Step [.give (some a) n] w (w.walletCredited a n) :=
  .single (h.walletCredited ha hn) .walletCredited ((w.some_mem_holders a).mpr ha)
    w.coreLedger_walletCredited

theorem step_poolDebited (h : Core w) (hn : n ≤ w.custody.custody_shares) :
    Step [.take none n] w (w.poolDebited n) :=
  .single (h.poolDebited hn) .poolDebited ⟨w.none_mem_holders, hn⟩ (w.coreLedger_poolDebited hn)

theorem step_poolCredited (h : Core w) (hn : n ≤ w.in_flight .trfl) :
    Step [.give none n] w (w.poolCredited n) :=
  .single (h.poolCredited hn) .poolCredited w.none_mem_holders w.coreLedger_poolCredited

theorem step_logged (h : Core w) (e : Event) : Step [] w (w.logged e) :=
  ⟨h.logged e, .logged e, .nil _⟩

theorem step_debit (h : Core w) {s : Address} (hs : s = .distribution_vault ∨ s = .lp_reward_vault)
    (hn : n ≤ w.balance s) : Step [] w (w.debit .trfl s n) := by
  refine ⟨h.debit hs hn, .debit (by rcases hs with rfl | rfl <;> rfl), ?_⟩
  rw [w.coreLedger_debit n hs]
  exact .nil _

theorem step_credit (h : Core w) (hn : n ≤ w.in_flight .trfl) :
    Step [] w (w.credit .trfl .lp_reward_vault n) := by
  refine ⟨h.credit hn, .credit rfl, ?_⟩
  rw [w.coreLedger_credit n]
  exact .nil _

theorem step_enrolled (h : Core w) (ha : a ∉ w.wallets)
    (hx : is_excluded_store w.reflection (.primary .trfl a) = false) (store : Address) :
    Step [.enroll (some a)] w (w.enrolled a store) :=
  .single (h.enrolled ha hx store) (.enrolled store) trivial (World.coreLedger_enrolled store)

theorem step_walletPaid (h : Core w) (ha : a ∈ w.reflection.positions)
    (hn : n ≤ w.pending (some a)) : Step [.pay (some a) n] w (w.walletPaid a n) :=
  .single (h.walletPaid ha hn) .walletPaid
    (h.accounting.valid.pay_enabled MAGNITUDE_pos
      ((w.some_mem_holders a).mpr (h.membership.position_wallet a ha)) hn)
    World.coreLedger_walletPaid

theorem step_poolPaid (h : Core w) (hn : n ≤ w.pending none) :
    Step [.pay none n] w (w.poolPaid n) :=
  .single (h.poolPaid hn) .poolPaid
    (h.accounting.valid.pay_enabled MAGNITUDE_pos w.none_mem_holders hn)
    World.coreLedger_poolPaid

theorem step_routed (h : Core w) (hn : n ≤ w.pending none) (epoch : ℕ) :
    Step [.pay none n] w (w.routed n epoch) := by
  have hp := h.step_poolPaid hn
  have hc := hp.trans (hp.core.step_credit (n := n) (by simp [World.poolPaid]))
  exact hc.trans (hc.core.step_logged _)

/-- A positive materialization. -/
theorem step_materialized (h : Core w) (ha : a ∈ w.reflection.positions)
    (hn : n ≤ w.pending (some a)) (explicit_claim : Bool) (trigger : Trigger) :
    Step [.pay (some a) n, .give (some a) n] w (w.materialized a n explicit_claim trigger) := by
  have hw := h.membership.position_wallet a ha
  have hp := h.step_walletPaid ha hn
  have hc := hp.trans (hp.core.step_walletCredited hw (n := n) (by simp [World.walletPaid]))
  have hl := hc.trans (hc.core.step_logged
    (.RewardsMaterialized a n ((w.position a).claimed + n) trigger))
  cases explicit_claim
  · exact hl
  · exact hl.trans (hl.core.step_logged _)

theorem step_collected (h : Core w) (hn : n ≤ w.in_flight .trfl) (gross kind : ℕ) :
    Step [.receive n] w (w.collected a n gross kind) := by
  refine .single (h.collected hn gross kind) (.collected gross kind) trivial ?_
  have heq := h.accounting.total
  unfold World.collected
  split
  · next ht =>
      rw [World.coreLedger_logged]
      exact World.coreLedger_setAside (heq ▸ ht)
  · next ht =>
      rw [World.coreLedger_logged, World.coreLedger_logged]
      refine World.coreLedger_indexed (heq ▸ ht) _ ?_ ?_
      · rw [World.nextIndex, heq, Ledger.increment, World.coreLedger_remainder]
      · rw [World.nextRemainder, heq]

/-- The events of a fee, none at all if it rounds to zero. -/
def receipts (fee : ℕ) : List (Act (Option Address)) := if fee = 0 then [] else [.receive fee]

theorem step_feeTaken (h : Core w) (gross fee kind : ℕ) (hn : fee ≤ w.in_flight .trfl) :
    Step (receipts fee) w (w.feeTaken a gross fee kind) := by
  unfold World.feeTaken receipts
  split
  · exact .refl h
  · exact h.step_collected hn gross kind

/-! ### Quiet passages -/

theorem moved_materialized (h : Core w) (ha : a ∈ w.reflection.positions)
    (hn : n ≤ w.pending (some a)) (explicit_claim : Bool) (trigger : Trigger) :
    Moved w (w.materialized a n explicit_claim trigger) :=
  (h.step_materialized ha hn explicit_claim trigger).moved (by simp [Quiet])

theorem moved_materializedAll (h : Core w) (explicit_claim : Bool) (trigger : Trigger) :
    Moved w (w.materializedAll a explicit_claim trigger) := by
  unfold World.materializedAll
  split
  · exact .refl h
  · next hp =>
      have ha : a ∈ w.reflection.positions := by
        by_contra hne
        exact hp (h.membership.pending_of_notMem hne)
      exact h.moved_materialized ha le_rfl explicit_claim trigger

theorem moved_ensured (h : Core w)
    (hx : is_excluded_store w.reflection (.primary .trfl a) = false) : Moved w (w.ensured a) := by
  unfold World.ensured
  split
  · exact .refl h
  · next ha => exact (h.step_enrolled ha hx _).moved (by simp [Quiet])

theorem moved_logged (h : Core w) (e : Event) : Moved w (w.logged e) :=
  (h.step_logged e).moved (by simp)

end Core

/-! ## What the pool holds and what is in flight -/

namespace World

variable (w : World) (a : Address) (n : ℕ)

@[simp] theorem in_flight_walletDebited :
    (w.walletDebited a n).in_flight .trfl = w.in_flight .trfl + n := by
  simp [walletDebited, removeRaw]

@[simp] theorem in_flight_walletCredited :
    (w.walletCredited a n).in_flight .trfl = w.in_flight .trfl - n := by
  simp [walletCredited, addRaw]

@[simp] theorem in_flight_poolDebited :
    (w.poolDebited n).in_flight .trfl = w.in_flight .trfl + n := by
  simp [poolDebited, removeCustody]

@[simp] theorem in_flight_poolCredited :
    (w.poolCredited n).in_flight .trfl = w.in_flight .trfl - n := by
  simp [poolCredited, addCustody]

@[simp] theorem in_flight_logged (e : Event) : (w.logged e).in_flight = w.in_flight := rfl

@[simp] theorem in_flight_materialized (explicit_claim : Bool) (trigger : Trigger) :
    (w.materialized a n explicit_claim trigger).in_flight .trfl = w.in_flight .trfl := by
  cases explicit_claim <;> simp [materialized, walletPaid]

@[simp] theorem in_flight_materializedAll (explicit_claim : Bool) (trigger : Trigger) :
    (w.materializedAll a explicit_claim trigger).in_flight .trfl = w.in_flight .trfl := by
  unfold materializedAll
  split <;> simp

@[simp] theorem in_flight_ensured : (w.ensured a).in_flight = w.in_flight := by
  unfold ensured
  split <;> rfl

@[simp] theorem in_flight_feeTaken (gross fee kind : ℕ) :
    (w.feeTaken a gross fee kind).in_flight .trfl = w.in_flight .trfl - fee := by
  unfold feeTaken
  split
  · next hz => simp [hz]
  · unfold collected
    split <;> simp [setAside, indexed]

@[simp] theorem custody_walletDebited : (w.walletDebited a n).custody = w.custody := rfl

@[simp] theorem custody_walletCredited : (w.walletCredited a n).custody = w.custody := rfl

@[simp] theorem custody_materialized (explicit_claim : Bool) (trigger : Trigger) :
    (w.materialized a n explicit_claim trigger).custody = w.custody := by
  cases explicit_claim <;> rfl

@[simp] theorem custody_materializedAll (explicit_claim : Bool) (trigger : Trigger) :
    (w.materializedAll a explicit_claim trigger).custody = w.custody := by
  unfold materializedAll
  split
  · rfl
  · exact custody_materialized w a _ explicit_claim trigger

@[simp] theorem wallets_materializedAll (explicit_claim : Bool) (trigger : Trigger) :
    (w.materializedAll a explicit_claim trigger).wallets = w.wallets := by
  rw [wallets, custody_materializedAll, wallets]

@[simp] theorem custody_shares_ensured :
    (w.ensured a).custody.custody_shares = w.custody.custody_shares := by
  unfold ensured
  split <;> rfl

theorem mem_wallets_ensured : a ∈ (w.ensured a).wallets := by
  unfold ensured
  split
  · assumption
  · simp

@[simp] theorem custody_shares_poolDebited :
    (w.poolDebited n).custody.custody_shares = w.custody.custody_shares - n := rfl

@[simp] theorem custody_shares_poolCredited :
    (w.poolCredited n).custody.custody_shares = w.custody.custody_shares + n := rfl

@[simp] theorem custody_logged (e : Event) : (w.logged e).custody = w.custody := rfl

@[simp] theorem custody_shares_feeTaken (gross fee kind : ℕ) :
    (w.feeTaken a gross fee kind).custody.custody_shares = w.custody.custody_shares := by
  unfold feeTaken collected
  split
  · rfl
  · split <;> rfl

@[simp] theorem wallets_feeTaken (gross fee kind : ℕ) :
    (w.feeTaken a gross fee kind).wallets = w.wallets := by
  unfold feeTaken collected
  split
  · rfl
  · split <;> rfl

@[simp] theorem custody_shares_sold (fee : ℕ) :
    (w.sold a n fee).custody.custody_shares = w.custody.custody_shares + (n - fee) := by
  simp [sold]

@[simp] theorem custody_shares_bought (fee : ℕ) :
    (w.bought a n fee).custody.custody_shares = w.custody.custody_shares - n := by
  simp [bought]

@[simp] theorem custody_shares_provided :
    (w.provided a n).custody.custody_shares = w.custody.custody_shares + n := by
  simp [provided]

@[simp] theorem custody_shares_released :
    (w.released a n).custody.custody_shares = w.custody.custody_shares - n := by
  simp [released]

@[simp] theorem balance_ensured : (w.ensured a).balance = w.balance := by
  unfold ensured
  split <;> rfl

/-- A materialization touches the reward vault and the wallet's store only. -/
theorem balance_materializedAll (explicit_claim : Bool) (trigger : Trigger) {s : Address}
    (ha : s ≠ .primary .trfl a) (hv : s ≠ .reward_vault) :
    (w.materializedAll a explicit_claim trigger).balance s = w.balance s := by
  unfold materializedAll materialized
  split
  · rfl
  · cases explicit_claim <;>
      simp [logged, walletCredited, addRaw, walletPaid, Function.update_of_ne ha,
        Function.update_of_ne hv]

end World

/-! ## The composite effects as steps -/

namespace Core

variable {w : World} {a : Address} {n fee : ℕ}

/-- Up to the fee of a sell: the gross units are nobody's shares. -/
theorem step_sellInstant (h : Core w) (ha : a ∈ w.wallets)
    (hn : n ≤ (w.materializedAll a false .SELL_PRE).raw a) :
    ∃ pre, (∀ e ∈ pre, Quiet e) ∧ Step (pre ++ [.take (some a) n]) w (w.sellInstant a n) := by
  obtain ⟨pre, hpre, h₁⟩ := h.moved_materializedAll (a := a) false .SELL_PRE
  exact ⟨pre, hpre, h₁.trans (h₁.core.step_walletDebited (by simpa using ha) hn)⟩

/-- From the fee of a sell on: the net units become the pool's. -/
theorem step_sold_of_instant (h : Core (w.sellInstant a n)) (hf : fee ≤ n) :
    ∃ mid, (∀ e ∈ mid, Quiet e) ∧
      Step (receipts fee ++ (mid ++ [.give none (n - fee)])) (w.sellInstant a n)
        (w.sold a n fee) := by
  have h₃ := h.step_feeTaken (a := a) n fee 1 (by simp [World.sellInstant]; omega)
  obtain ⟨mid, hmid, h₄⟩ := h₃.core.moved_materializedAll (a := a) false .SELL_POST
  have h₅ := h₄.core.step_poolCredited (n := n - fee) (by simp [World.sellInstant]; omega)
  exact ⟨mid, hmid, h₃.trans (h₄.trans h₅)⟩

/-- A sell: the gross units are nobody's shares when the fee is received, and
the net units become the pool's afterwards. -/
theorem step_sold (h : Core w) (ha : a ∈ w.wallets)
    (hn : n ≤ (w.materializedAll a false .SELL_PRE).raw a) (hf : fee ≤ n) :
    ∃ pre mid, (∀ e ∈ pre, Quiet e) ∧ (∀ e ∈ mid, Quiet e) ∧
      Step (pre ++ .take (some a) n :: (receipts fee ++ (mid ++ [.give none (n - fee)]))) w
        (w.sold a n fee) := by
  obtain ⟨pre, hpre, h₁⟩ := h.step_sellInstant ha hn
  obtain ⟨mid, hmid, h₂⟩ := h₁.core.step_sold_of_instant hf
  refine ⟨pre, mid, hpre, hmid, ?_⟩
  have := h₁.trans h₂
  rwa [List.append_assoc, List.singleton_append] at this

/-- Up to the fee of a buy: the gross units are nobody's shares. -/
theorem step_buyInstant (h : Core w)
    (hx : is_excluded_store w.reflection (.primary .trfl a) = false)
    (hn : n ≤ w.custody.custody_shares) :
    ∃ pre, (∀ e ∈ pre, Quiet e) ∧ Step (pre ++ [.take none n]) w (w.buyInstant a n) := by
  have h₀ := h.moved_ensured hx
  obtain ⟨pre, hpre, h₁⟩ := h₀.trans (h₀.core.moved_materializedAll (a := a) false .BUY_PRE)
  exact ⟨pre, hpre, h₁.trans (h₁.core.step_poolDebited (by simpa using hn))⟩

/-- From the fee of a buy on: the net units become the buyer's. -/
theorem step_bought_of_instant (h : Core (w.buyInstant a n)) (hf : fee ≤ n) :
    ∃ mid, (∀ e ∈ mid, Quiet e) ∧
      Step (receipts fee ++ (mid ++ [.give (some a) (n - fee)])) (w.buyInstant a n)
        (w.bought a n fee) := by
  have h₃ := h.step_feeTaken (a := a) n fee 2 (by simp [World.buyInstant]; omega)
  obtain ⟨mid, hmid, h₄⟩ := h₃.core.moved_materializedAll (a := a) false .BUY_POST
  have hw : a ∈ ((w.buyInstant a n).feeTaken a n fee 2).wallets := by
    rw [World.wallets_feeTaken]
    show a ∈ ((w.ensured a).materializedAll a false .BUY_PRE).wallets
    simpa using w.mem_wallets_ensured a
  have h₅ := h₄.core.step_walletCredited (a := a) (n := n - fee) (by simpa using hw)
    (by simp [World.buyInstant]; omega)
  exact ⟨mid, hmid, h₃.trans (h₄.trans h₅)⟩

/-- A buy: the gross units are nobody's shares when the fee is received, and
the net units become the buyer's afterwards. -/
theorem step_bought (h : Core w)
    (hx : is_excluded_store w.reflection (.primary .trfl a) = false)
    (hn : n ≤ w.custody.custody_shares) (hf : fee ≤ n) :
    ∃ pre mid, (∀ e ∈ pre, Quiet e) ∧ (∀ e ∈ mid, Quiet e) ∧
      Step (pre ++ .take none n :: (receipts fee ++ (mid ++ [.give (some a) (n - fee)]))) w
        (w.bought a n fee) := by
  obtain ⟨pre, hpre, h₁⟩ := h.step_buyInstant hx hn
  obtain ⟨mid, hmid, h₂⟩ := h₁.core.step_bought_of_instant hf
  refine ⟨pre, mid, hpre, hmid, ?_⟩
  have := h₁.trans h₂
  rwa [List.append_assoc, List.singleton_append] at this

/-- A provider's units, and the shares they are, go to the pool. -/
theorem moved_provided (h : Core w) (ha : a ∈ w.wallets)
    (hn : n ≤ (w.materializedAll a false .LIQUIDITY_IN).raw a) : Moved w (w.provided a n) := by
  have h₁ := h.moved_materializedAll (a := a) false .LIQUIDITY_IN
  have h₂ := h₁.core.step_walletDebited (n := n) (by simpa using ha) hn
  have h₃ := h₂.core.step_poolCredited (n := n) (by simp)
  exact h₁.trans ((h₂.trans h₃).moved (by simp [Quiet]))

theorem moved_released (h : Core w)
    (hx : is_excluded_store w.reflection (.primary .trfl a) = false)
    (hn : n ≤ w.custody.custody_shares) : Moved w (w.released a n) := by
  have h₀ := h.moved_ensured hx
  have h₁ := h₀.trans (h₀.core.moved_materializedAll (a := a) false .LIQUIDITY_OUT)
  have h₂ := h₁.core.step_poolDebited (n := n) (by simpa using hn)
  have hw : a ∈ ((w.ensured a).materializedAll a false .LIQUIDITY_OUT).wallets := by
    simpa using w.mem_wallets_ensured a
  have h₃ := h₂.core.step_walletCredited (a := a) (n := n) hw (by simp)
  exact h₁.trans ((h₂.trans h₃).moved (by simp [Quiet]))

/-- A vault nobody has shares of pays a wallet. -/
theorem moved_vault {s : Address} (hs : s = .distribution_vault ∨ s = .lp_reward_vault)
    (h : Core w) (ha : a ∈ w.wallets) (hn : n ≤ w.balance s) :
    Moved w ((w.debit .trfl s n).walletCredited a n) := by
  have h₁ := h.step_debit hs hn
  have h₂ := h₁.core.step_walletCredited (a := a) (n := n) ha (by simp)
  exact (h₁.trans h₂).moved (by simp [Quiet])

theorem moved_sent (h : Core w) (ha : a ∈ w.wallets)
    (hn : n ≤ (w.materializedAll a false .TRANSFER_SEND).raw a) : Moved w (w.sent a n) := by
  have h₁ := h.moved_materializedAll (a := a) false .TRANSFER_SEND
  have h₂ := h₁.core.step_walletDebited (n := n) (by simpa using ha) hn
  exact h₁.trans ((h₂.trans (h₂.core.step_logged _)).moved (by simp [Quiet]))

theorem moved_arrived (h : Core w)
    (hx : is_excluded_store w.reflection (.primary .trfl a) = false)
    (hn : n ≤ w.in_flight .trfl) : Moved w (w.arrived a n) := by
  have h₀ := h.moved_ensured hx
  have h₁ := h₀.trans (h₀.core.moved_materializedAll (a := a) false .TRANSFER_RECEIVE)
  have hw : a ∈ ((w.ensured a).materializedAll a false .TRANSFER_RECEIVE).wallets := by
    simpa using w.mem_wallets_ensured a
  have h₂ := h₁.core.step_walletCredited (a := a) (n := n) hw (by simpa using hn)
  exact h₁.trans ((h₂.trans (h₂.core.step_logged _)).moved (by simp [Quiet]))

theorem moved_paidOut (h : Core w)
    (hx : is_excluded_store w.reflection (.primary .trfl a) = false)
    (hn : n ≤ w.balance .lp_reward_vault) : Moved w (w.paidOut a n) := by
  have h₀ := h.moved_ensured hx
  have h₁ := h₀.trans (h₀.core.moved_materializedAll (a := a) false .LP_PAYOUT)
  refine h₁.trans (Core.moved_vault (.inr rfl) h₁.core ?_ ?_)
  · simpa using w.mem_wallets_ensured a
  · rwa [World.balance_materializedAll _ _ _ _ (by simp) (by simp), World.balance_ensured]

theorem moved_granted (h : Core w)
    (hx : is_excluded_store w.reflection (.primary .trfl a) = false)
    (hn : n ≤ w.balance .distribution_vault) (operator : Address) :
    Moved w (w.granted a n operator) := by
  have h₀ := h.moved_ensured hx
  have h₁ := h₀.trans (h₀.core.moved_materializedAll (a := a) false .FAUCET)
  have h₂ := h₁.trans (Core.moved_vault (n := n) (.inl rfl) h₁.core
    (by simpa using w.mem_wallets_ensured a)
    (by rwa [World.balance_materializedAll _ _ _ _ (by simp) (by simp), World.balance_ensured]))
  exact h₂.trans (h₂.core.moved_logged _)

end Core

end CedraReflect
