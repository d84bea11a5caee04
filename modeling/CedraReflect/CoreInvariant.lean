/-
The invariant of the core, and that every effect keeps it.

[`Core`] has three layers. [`Accounting`] is about sums and comes from the
ledger of `CoreLedger`. [`Membership`] is about who is registered and who has a
position. [`Supply`] says where every unit of tRFL is. Each effect of
`CoreEffects` is shown to make its events in the ledger and to keep each layer.
-/
import CedraReflect.CoreEffects

set_option autoImplicit false
set_option linter.constructorNameAsVariable false

namespace CedraReflect

open Dividend (Ledger Act Valid)
open reflection_math (MAGNITUDE MAGNITUDE_pos)
open reflection_token (TOTAL_SUPPLY is_excluded_store is_registered_wallet)

/-! ## The layers -/

namespace World

/-- `Address.primary .trfl`, as an embedding. -/
def primaryStore : Address ↪ Address :=
  ⟨Address.primary .trfl, fun _ _ h => by injection h⟩

@[simp] theorem primaryStore_apply (a : Address) : primaryStore a = .primary .trfl a := rfl

/-- The stores that may hold tRFL. -/
def stores (w : World) : Finset Address :=
  {.rfl_reserve, .reward_vault, .distribution_vault, .lp_reward_vault}
    ∪ w.wallets.map primaryStore

theorem primary_mem_stores (w : World) (a : Address) :
    .primary .trfl a ∈ w.stores ↔ a ∈ w.wallets := by
  simp [stores]

@[simp] theorem rfl_reserve_mem (w : World) : .rfl_reserve ∈ w.stores := by simp [stores]
@[simp] theorem reward_vault_mem (w : World) : .reward_vault ∈ w.stores := by simp [stores]
@[simp] theorem distribution_vault_mem (w : World) : .distribution_vault ∈ w.stores := by
  simp [stores]
@[simp] theorem lp_reward_vault_mem (w : World) : .lp_reward_vault ∈ w.stores := by simp [stores]

/-- The sum over the stores, store by store. -/
theorem sum_stores (w : World) (f : Address → ℕ) :
    ∑ s ∈ w.stores, f s
      = f .rfl_reserve + f .reward_vault + f .distribution_vault + f .lp_reward_vault
        + ∑ a ∈ w.wallets, f (.primary .trfl a) := by
  have hd : Disjoint
      ({.rfl_reserve, .reward_vault, .distribution_vault, .lp_reward_vault} : Finset Address)
      (w.wallets.map primaryStore) := by
    simp [Finset.disjoint_left]
  rw [stores, Finset.sum_union hd, Finset.sum_map]
  simp [add_assoc]

end World

/-- Who is registered, and what a position and a registration imply. -/
structure Membership (w : World) : Prop where
  position_wallet : ∀ a, a ∈ w.reflection.positions → a ∈ w.wallets
  funded : ∀ a, w.raw a ≠ 0 → a ∈ w.reflection.positions
  flagged : ∀ a ∈ w.wallets, w.custody.registered_wallets.lookup a = some true
  count : w.custody.registered_wallet_count = w.wallets.card
  eligible : ∀ a ∈ w.wallets, is_excluded_store w.reflection (.primary .trfl a) = false

/-- Where the fixed supply is, and that the pool's shares are its raw units. -/
structure Supply (w : World) : Prop where
  supply : ∑ s ∈ w.stores, w.balance s + w.in_flight .trfl = TOTAL_SUPPLY
  elsewhere : ∀ s : Address, s.store_metadata = some .trfl → s ∉ w.stores → w.balance s = 0
  custody : w.custody.custody_shares = w.balance .rfl_reserve

/-- The invariant of the core. The stored rounding reserve is recomputed only
when the index moves; that it is right at all other times is a consequence of
what moves in between. -/
structure Core (w : World) : Prop where
  accounting : Accounting w
  membership : Membership w
  supply : Supply w
  rounding : w.custody.rounding_reserve = w.coreLedger.reserve MAGNITUDE

/-! ## Consequences -/

namespace Membership

variable {w : World}

theorem is_registered_iff (h : Membership w) (a : Address) :
    is_registered_wallet w.custody a = true ↔ a ∈ w.wallets := by
  unfold is_registered_wallet
  constructor
  · intro ht
    rw [World.wallets, Finmap.mem_keys, ← Finmap.lookup_isSome]
    cases hl : w.custody.registered_wallets.lookup a <;> simp_all
  · intro ha
    simp [h.flagged a ha]

theorem position_of_notMem {a : Address} (ha : a ∉ w.reflection.positions) :
    w.position a = ⟨reflection_math.zero, 0⟩ := by
  simp [World.position, Finmap.lookup_eq_none.mpr ha]

theorem raw_of_notMem (h : Membership w) {a : Address} (ha : a ∉ w.reflection.positions) :
    w.raw a = 0 := by
  by_contra hne
  exact ha (h.funded a hne)

theorem pending_of_notMem (h : Membership w) {a : Address} (ha : a ∉ w.reflection.positions) :
    w.pending (some a) = 0 := by
  simp [World.pending, Ledger.pending, h.raw_of_notMem ha, position_of_notMem ha]

/-- A change that keeps the registrations and the exclusions, gives positions
only to wallets, takes none away, and funds only accounts with a position. -/
theorem step (h : Membership w) {w' : World}
    (hw : w'.custody.registered_wallets = w.custody.registered_wallets)
    (hc : w'.custody.registered_wallet_count = w.custody.registered_wallet_count)
    (he : w'.reflection.exclusions = w.reflection.exclusions)
    (hp : ∀ a, a ∈ w'.reflection.positions → a ∈ w.reflection.positions ∨ a ∈ w.wallets)
    (hm : ∀ a, a ∈ w.reflection.positions → a ∈ w'.reflection.positions)
    (hr : ∀ a, w'.raw a ≠ 0 → w.raw a ≠ 0 ∨ a ∈ w'.reflection.positions) :
    Membership w' := by
  have hws : w'.wallets = w.wallets := by rw [World.wallets, hw, World.wallets]
  constructor
  · intro a ha
    rw [hws]
    exact (hp a ha).elim (h.position_wallet a) id
  · intro a ha
    exact (hr a ha).elim (fun h0 => hm a (h.funded a h0)) id
  · rw [hws, hw]
    exact h.flagged
  · rw [hc, hws]
    exact h.count
  · intro a ha
    rw [hws] at ha
    rw [is_excluded_store, he]
    exact h.eligible a ha

end Membership

namespace Supply

variable {w w' : World} {s t : Address} {n : ℕ}

theorem balance_le (h : Supply w) (s : Address) (hs : s.store_metadata = some .trfl) :
    w.balance s ≤ TOTAL_SUPPLY := by
  by_cases hm : s ∈ w.stores
  · have := Finset.single_le_sum (f := w.balance) (fun _ _ => Nat.zero_le _) hm
    have := h.supply
    omega
  · rw [h.elsewhere s hs hm]
    exact Nat.zero_le _

/-- The shares never exceed the supply. -/
theorem total_le (h : Supply w) : w.coreLedger.total ≤ TOTAL_SUPPLY := by
  have hs := h.supply
  rw [World.sum_stores] at hs
  rw [World.total_eq, h.custody]
  simp only [World.raw]
  omega

theorem raw_of_notMem (h : Supply w) {a : Address} (ha : a ∉ w.wallets) : w.raw a = 0 :=
  h.elsewhere _ rfl (by rwa [World.primary_mem_stores])

/-- Units leave a store that may hold them. -/
theorem debit (h : ∑ s ∈ w.stores, w.balance s + w.in_flight .trfl = TOTAL_SUPPLY)
    (hs : s ∈ w.stores) (hn : n ≤ w.balance s) :
    ∑ t ∈ w.stores, (w.debit .trfl s n).balance t + (w.debit .trfl s n).in_flight .trfl
      = TOTAL_SUPPLY := by
  have hu := Dividend.sum_update w.stores w.balance s (w.balance s - n) hs
  simp only [World.debit_balance, World.debit_in_flight, Function.update_self]
  omega

/-- Units in flight reach a store that may hold them. -/
theorem credit (h : ∑ s ∈ w.stores, w.balance s + w.in_flight .trfl = TOTAL_SUPPLY)
    (hs : s ∈ w.stores) (hn : n ≤ w.in_flight .trfl) :
    ∑ t ∈ w.stores, (w.credit .trfl s n).balance t + (w.credit .trfl s n).in_flight .trfl
      = TOTAL_SUPPLY := by
  have hu := Dividend.sum_update w.stores w.balance s (w.balance s + n) hs
  simp only [World.credit_balance, World.credit_in_flight, Function.update_self]
  omega

/-- A change of balances inside the stores that keeps their sum and the pool's
shares keeps the layer. -/
theorem step (h : Supply w)
    (hw : w'.wallets = w.wallets)
    (hsum : ∑ s ∈ w.stores, w'.balance s + w'.in_flight .trfl = TOTAL_SUPPLY)
    (hout : ∀ s, s ∉ w.stores → w'.balance s = w.balance s)
    (hc : w'.custody.custody_shares = w'.balance .rfl_reserve) : Supply w' := by
  have hst : w'.stores = w.stores := by rw [World.stores, hw, World.stores]
  refine ⟨by rw [hst]; exact hsum, fun s hs hm => ?_, hc⟩
  rw [hst] at hm
  rw [hout s hm]
  exact h.elsewhere s hs hm

theorem update_off {b : Address → ℕ} (hs : s ∈ w.stores) (hm : t ∉ w.stores) :
    Function.update b s n t = b t :=
  Function.update_of_ne (by rintro rfl; exact hm hs) _ _

end Supply

/-! ## Share moves -/

namespace World

variable (w : World) (a b : Address) (n : ℕ)

theorem position_insert {w' : World} {p : Position}
    (h : w'.reflection.positions = w.reflection.positions.insert a p) :
    w'.position b = if b = a then p else w.position b := by
  unfold position
  rw [h, Table.lookup_insert_ite]
  split <;> rfl

theorem position_addRaw :
    (w.addRaw a n).position b
      = if b = a then
          ⟨.ofInt ((w.position a).correction.toInt - n * w.reflection.index),
            (w.position a).claimed⟩
        else w.position b := by
  by_cases hn : n = 0
  · have hp : (w.addRaw a n).position b = w.position b := by simp [position, addRaw, hn]
    rw [hp]
    split
    · next h => simp [hn, h]
    · rfl
  · exact position_insert w a b (by simp [addRaw, hn])

theorem position_removeRaw :
    (w.removeRaw a n).position b
      = if b = a then
          ⟨.ofInt ((w.position a).correction.toInt + n * w.reflection.index),
            (w.position a).claimed⟩
        else w.position b := by
  by_cases hn : n = 0
  · have hp : (w.removeRaw a n).position b = w.position b := by simp [position, removeRaw, hn]
    rw [hp]
    split
    · next h => simp [hn, h]
    · rfl
  · exact position_insert w a b (by simp [removeRaw, hn])

@[simp] theorem raw_walletDebited :
    (w.walletDebited a n).raw b = if b = a then w.raw a - n else w.raw b := by
  simp [raw, walletDebited, removeRaw, debit, Function.update_apply]

@[simp] theorem raw_walletCredited :
    (w.walletCredited a n).raw b = if b = a then w.raw a + n else w.raw b := by
  simp [raw, walletCredited, addRaw, credit, Function.update_apply]

@[simp] theorem raw_poolDebited : (w.poolDebited n).raw b = w.raw b := by
  simp [raw, poolDebited, removeCustody, debit]

@[simp] theorem raw_poolCredited : (w.poolCredited n).raw b = w.raw b := by
  simp [raw, poolCredited, addCustody, credit]

theorem position_walletDebited :
    (w.walletDebited a n).position b
      = if b = a then
          ⟨.ofInt ((w.position a).correction.toInt + n * w.reflection.index),
            (w.position a).claimed⟩
        else w.position b :=
  position_removeRaw (w.debit .trfl (.primary .trfl a) n) a b n

theorem position_walletCredited :
    (w.walletCredited a n).position b
      = if b = a then
          ⟨.ofInt ((w.position a).correction.toInt - n * w.reflection.index),
            (w.position a).claimed⟩
        else w.position b :=
  position_addRaw (w.credit .trfl (.primary .trfl a) n) a b n

variable {a n}

/-- A wallet gives up shares and keeps its accumulator. -/
theorem coreLedger_walletDebited (hn : n ≤ w.raw a) :
    (w.walletDebited a n).coreLedger = (Act.take (some a) n).apply MAGNITUDE w.coreLedger := by
  refine Ledger.ext rfl ?_ ?_ ?_ rfl rfl rfl rfl rfl
  · funext i
    rcases i with _ | b
    · rfl
    · by_cases hb : b = a <;> simp [Act.apply, hb]
  · funext i
    rcases i with _ | b
    · rfl
    · have hi : (w.walletDebited a n).reflection.index = w.reflection.index := rfl
      by_cases hb : b = a
      · subst hb
        simp only [coreLedger_accrued_some, raw_walletDebited, position_walletDebited, if_true,
          SignedU256.toInt_ofInt, hi, Act.apply]
        push_cast [Nat.cast_sub hn]
        ring
      · simp [position_walletDebited, hb, hi, Act.apply]
  · funext i
    rcases i with _ | b
    · rfl
    · by_cases hb : b = a <;> simp [Act.apply, position_walletDebited, hb]

/-- A wallet gains shares and no part of what was collected before. -/
theorem coreLedger_walletCredited :
    (w.walletCredited a n).coreLedger = (Act.give (some a) n).apply MAGNITUDE w.coreLedger := by
  refine Ledger.ext rfl ?_ ?_ ?_ rfl rfl rfl rfl rfl
  · funext i
    rcases i with _ | b
    · rfl
    · by_cases hb : b = a <;> simp [Act.apply, hb]
  · funext i
    rcases i with _ | b
    · rfl
    · have hi : (w.walletCredited a n).reflection.index = w.reflection.index := rfl
      by_cases hb : b = a
      · subst hb
        simp only [coreLedger_accrued_some, raw_walletCredited, position_walletCredited, if_true,
          SignedU256.toInt_ofInt, hi, Act.apply]
        push_cast
        ring
      · simp [position_walletCredited, hb, hi, Act.apply]
  · funext i
    rcases i with _ | b
    · rfl
    · by_cases hb : b = a <;> simp [Act.apply, position_walletCredited, hb]

/-- The pool gives up shares and keeps its accumulator. -/
theorem coreLedger_poolDebited (hn : n ≤ w.custody.custody_shares) :
    (w.poolDebited n).coreLedger = (Act.take none n).apply MAGNITUDE w.coreLedger := by
  refine Ledger.ext rfl ?_ ?_ ?_ rfl rfl rfl rfl rfl
  · funext i
    rcases i with _ | b
    · simp [Act.apply, poolDebited, removeCustody]
    · simp [Act.apply]
  · funext i
    rcases i with _ | b
    · simp only [Act.apply, coreLedger_accrued_none, poolDebited, removeCustody,
        debit_custody, debit_reflection, SignedU256.toInt_ofInt]
      push_cast [Nat.cast_sub hn]
      ring
    · rw [coreLedger_accrued_some, raw_poolDebited]
      rfl
  · funext i
    rcases i with _ | b <;> rfl

/-- The pool gains shares and no part of what was collected before. -/
theorem coreLedger_poolCredited :
    (w.poolCredited n).coreLedger = (Act.give none n).apply MAGNITUDE w.coreLedger := by
  refine Ledger.ext rfl ?_ ?_ ?_ rfl rfl rfl rfl rfl
  · funext i
    rcases i with _ | b
    · simp [Act.apply, poolCredited, addCustody]
    · simp [Act.apply]
  · funext i
    rcases i with _ | b
    · simp only [Act.apply, coreLedger_accrued_none, poolCredited, addCustody,
        credit_custody, credit_reflection, SignedU256.toInt_ofInt]
      push_cast
      ring
    · rw [coreLedger_accrued_some, raw_poolCredited]
      rfl
  · funext i
    rcases i with _ | b <;> rfl

end World

namespace Core

variable {w : World} {a : Address} {n : ℕ}

/-- No pending reward is too wide for a balance. -/
theorem pending_lt (h : Core w) (i : Option Address) : w.pending i < 2 ^ 64 := by
  have hv := h.accounting.pending_le_vault i
  have hb := h.supply.balance_le .reward_vault rfl
  unfold TOTAL_SUPPLY at hb
  omega

theorem raw_le_total (h : Core w) (ha : a ∈ w.wallets) : w.raw a ≤ w.reflection.total_shares := by
  rw [h.accounting.total]
  exact Dividend.shares_le_total ((w.some_mem_holders a).mpr ha)

theorem custody_le_total (h : Core w) : w.custody.custody_shares ≤ w.reflection.total_shares := by
  rw [h.accounting.total]
  exact Dividend.shares_le_total w.none_mem_holders

theorem walletDebited (h : Core w) (ha : a ∈ w.wallets) (hn : n ≤ w.raw a) :
    Core (w.walletDebited a n) := by
  -- In the ledger the debit is a `take`: what was accrued on the shares stays with the holder.
  have hen : (Act.take (some a) n).Enabled MAGNITUDE w.coreLedger :=
    ⟨(w.some_mem_holders a).mpr ha, hn⟩
  have hm : Address.primary .trfl a ∈ w.stores := (w.primary_mem_stores a).mpr ha
  have ht : ((w.reflection.total_shares - n : ℕ) : ℤ) = w.reflection.total_shares - n := by
    have := h.raw_le_total ha
    omega
  refine ⟨?_, ?_, ?_, h.rounding⟩
  · refine h.accounting.step hen (w.coreLedger_walletDebited hn) ?_ ?_ rfl h.accounting.routed ?_
      h.accounting.remainder
    · simpa [World.walletDebited, World.removeRaw, Act.weight, sub_eq_add_neg] using ht
    · simp only [World.walletDebited, World.removeRaw, World.debit_reflection,
        SignedU256.toInt_ofInt, ht, Act.handed]
      ring
    · simp [World.walletDebited, World.removeRaw, Act.paid, Act.collected]
  · refine h.membership.step rfl rfl rfl ?_ ?_ ?_
    · intro b hb
      by_cases hn0 : n = 0 <;>
        simp_all [World.walletDebited, World.removeRaw, Finmap.mem_insert]
      grind
    · intro b hb
      by_cases hn0 : n = 0 <;>
        simp_all [World.walletDebited, World.removeRaw, Finmap.mem_insert]
    · intro b hb
      rw [World.raw_walletDebited] at hb
      left
      split at hb
      · next he => rw [he]; omega
      · exact hb
  · refine h.supply.step rfl (Supply.debit h.supply.supply hm hn)
      (fun s hs => Supply.update_off hm hs) ?_
    simpa [World.walletDebited, World.removeRaw] using h.supply.custody

theorem walletCredited (h : Core w) (ha : a ∈ w.wallets) (hn : n ≤ w.in_flight .trfl) :
    Core (w.walletCredited a n) := by
  -- In the ledger the credit is a `give`: the correction cancels what the index has already paid
  -- on.
  have hen : (Act.give (some a) n).Enabled MAGNITUDE w.coreLedger :=
    (w.some_mem_holders a).mpr ha
  have hm : Address.primary .trfl a ∈ w.stores := (w.primary_mem_stores a).mpr ha
  refine ⟨?_, ?_, ?_, h.rounding⟩
  · refine h.accounting.step hen w.coreLedger_walletCredited ?_ ?_ rfl h.accounting.routed ?_
      h.accounting.remainder
    · simp [World.walletCredited, World.addRaw, Act.weight]
    · simp only [World.walletCredited, World.addRaw, World.credit_reflection,
        SignedU256.toInt_ofInt, Act.handed]
      push_cast
      ring
    · simp [World.walletCredited, World.addRaw, Act.paid, Act.collected]
  · refine h.membership.step rfl rfl rfl ?_ ?_ ?_
    · intro b hb
      by_cases hn0 : n = 0 <;>
        simp_all [World.walletCredited, World.addRaw, Finmap.mem_insert]
      grind
    · intro b hb
      by_cases hn0 : n = 0 <;>
        simp_all [World.walletCredited, World.addRaw, Finmap.mem_insert]
    · intro b hb
      rw [World.raw_walletCredited] at hb
      by_cases hn0 : n = 0 <;> by_cases hba : b = a <;>
        simp_all [World.walletCredited, World.addRaw, Finmap.mem_insert]
  · refine h.supply.step rfl (Supply.credit h.supply.supply hm hn)
      (fun s hs => Supply.update_off hm hs) ?_
    simpa [World.walletCredited, World.addRaw] using h.supply.custody

theorem poolDebited (h : Core w) (hn : n ≤ w.custody.custody_shares) : Core (w.poolDebited n) := by
  have hen : (Act.take none n).Enabled MAGNITUDE w.coreLedger := ⟨w.none_mem_holders, hn⟩
  have ht : ((w.reflection.total_shares - n : ℕ) : ℤ) = w.reflection.total_shares - n := by
    have := h.custody_le_total
    omega
  have hb : n ≤ w.balance .rfl_reserve := h.supply.custody ▸ hn
  refine ⟨?_, ?_, ?_, h.rounding⟩
  · refine h.accounting.step hen (w.coreLedger_poolDebited hn) ?_ ?_ rfl h.accounting.routed ?_
      h.accounting.remainder
    · simpa [World.poolDebited, World.removeCustody, Act.weight, sub_eq_add_neg] using ht
    · simp only [World.poolDebited, World.removeCustody, World.debit_reflection,
        SignedU256.toInt_ofInt, ht, Act.handed]
      ring
    · simp [World.poolDebited, World.removeCustody, Act.paid, Act.collected]
  · refine h.membership.step rfl rfl rfl (fun b hb => .inl hb) (fun b hb => hb) ?_
    intro b hb
    rw [World.raw_poolDebited] at hb
    exact .inl hb
  · refine h.supply.step rfl (Supply.debit h.supply.supply w.rfl_reserve_mem hb)
      (fun s hs => Supply.update_off w.rfl_reserve_mem hs) ?_
    simp [World.poolDebited, World.removeCustody, h.supply.custody]

theorem poolCredited (h : Core w) (hn : n ≤ w.in_flight .trfl) : Core (w.poolCredited n) := by
  have hen : (Act.give none n).Enabled MAGNITUDE w.coreLedger := w.none_mem_holders
  refine ⟨?_, ?_, ?_, h.rounding⟩
  · refine h.accounting.step hen w.coreLedger_poolCredited ?_ ?_ rfl h.accounting.routed ?_
      h.accounting.remainder
    · simp [World.poolCredited, World.addCustody, Act.weight]
    · simp only [World.poolCredited, World.addCustody, World.credit_reflection,
        SignedU256.toInt_ofInt, Act.handed]
      push_cast
      ring
    · simp [World.poolCredited, World.addCustody, Act.paid, Act.collected]
  · refine h.membership.step rfl rfl rfl (fun b hb => .inl hb) (fun b hb => hb) ?_
    intro b hb
    rw [World.raw_poolCredited] at hb
    exact .inl hb
  · refine h.supply.step rfl (Supply.credit h.supply.supply w.rfl_reserve_mem hn)
      (fun s hs => Supply.update_off w.rfl_reserve_mem hs) ?_
    simp [World.poolCredited, World.addCustody, h.supply.custody]

end Core

/-! ## Registration, payments and fees -/

namespace World

variable {w : World} {a b : Address} {n : ℕ}

@[simp] theorem wallets_enrolled (store : Address) :
    (w.enrolled a store).wallets = insert a w.wallets := by
  simp [wallets, enrolled]

theorem position_walletPaid :
    (w.walletPaid a n).position b
      = if b = a then ⟨(w.position a).correction, (w.position a).claimed + n⟩
        else w.position b :=
  position_insert w a b rfl

@[simp] theorem raw_walletPaid : (w.walletPaid a n).raw b = w.raw b := by
  simp [raw, walletPaid]

@[simp] theorem raw_poolPaid : (w.poolPaid n).raw b = w.raw b := by
  simp [raw, poolPaid]

theorem coreLedger_enrolled (store : Address) :
    (w.enrolled a store).coreLedger
      = (Act.enroll (some a)).apply MAGNITUDE w.coreLedger := by
  refine Ledger.ext ?_ rfl rfl rfl rfl rfl rfl rfl rfl
  show (w.enrolled a store).wallets.insertNone = insert (some a) w.wallets.insertNone
  rw [wallets_enrolled]
  ext i
  rcases i with _ | b <;> simp

theorem coreLedger_walletPaid :
    (w.walletPaid a n).coreLedger = (Act.pay (some a) n).apply MAGNITUDE w.coreLedger := by
  refine Ledger.ext rfl ?_ ?_ ?_ rfl rfl rfl rfl rfl
  · funext i
    rcases i with _ | b
    · rfl
    · simp [Act.apply]
  · funext i
    rcases i with _ | b
    · rfl
    · have hi : (w.walletPaid a n).reflection.index = w.reflection.index := rfl
      by_cases hb : b = a <;> simp [Act.apply, position_walletPaid, hb, hi]
  · funext i
    rcases i with _ | b
    · rfl
    · by_cases hb : b = a <;> simp [Act.apply, position_walletPaid, hb]

theorem coreLedger_poolPaid :
    (w.poolPaid n).coreLedger = (Act.pay none n).apply MAGNITUDE w.coreLedger := by
  refine Ledger.ext rfl ?_ ?_ ?_ rfl rfl rfl rfl rfl
  · funext i
    rcases i with _ | b
    · rfl
    · simp [Act.apply]
  · funext i
    rcases i with _ | b
    · rfl
    · rw [coreLedger_accrued_some, raw_poolPaid]
      rfl
  · funext i
    rcases i with _ | b
    · simp [Act.apply, poolPaid]
    · simp only [Act.apply, ne_eq, reduceCtorEq, not_false_eq_true, Function.update_of_ne]
      rfl

@[simp] theorem raw_setAside : (w.setAside n).raw b = w.raw b := by simp [raw, setAside]

@[simp] theorem raw_indexed (i r c : ℕ) : (w.indexed n i r c).raw b = w.raw b := by
  simp [raw, indexed]

/-- A fee that finds no shares moves no accumulator. -/
theorem coreLedger_setAside (ht : w.coreLedger.total = 0) :
    (w.setAside n).coreLedger = (Act.receive n).apply MAGNITUDE w.coreLedger := by
  rw [Act.apply, if_pos ht]
  refine Ledger.ext rfl ?_ ?_ rfl rfl rfl rfl rfl rfl
  · funext i
    rcases i with _ | b
    · rfl
    · simp
  · funext i
    rcases i with _ | b
    · rfl
    · rw [coreLedger_accrued_some, raw_setAside]
      rfl

/-- **A fee is received.** If the index and its remainder move by what the
ledger says, every accumulator moves by its shares at that instant. -/
theorem coreLedger_indexed (ht : w.coreLedger.total ≠ 0) {i r : ℕ} (c : ℕ)
    (hi : i = w.reflection.index + w.coreLedger.increment MAGNITUDE n)
    (hr : r = (MAGNITUDE * n + w.reflection.index_remainder) % w.coreLedger.total) :
    (w.indexed n i r c).coreLedger = (Act.receive n).apply MAGNITUDE w.coreLedger := by
  have hidx : (w.indexed n i r c).reflection.index = i := rfl
  rw [Act.apply, if_neg ht]
  refine Ledger.ext rfl ?_ ?_ rfl hi hr rfl rfl rfl
  · funext j
    rcases j with _ | b
    · rfl
    · simp
  · funext j
    rcases j with _ | b
    · have hc : (w.indexed n i r c).custody.custody_shares = w.custody.custody_shares := rfl
      have hp : (w.indexed n i r c).custody.pool_position = w.custody.pool_position := rfl
      simp only [coreLedger_accrued_none, coreLedger_shares_none]
      rw [hidx, hc, hp, hi]
      push_cast
      ring
    · have hp : (w.indexed n i r c).position b = w.position b := rfl
      simp only [coreLedger_accrued_some, coreLedger_shares_some, raw_indexed]
      rw [hidx, hp, hi]
      push_cast
      ring

/-- Nobody's shares are in the distribution or the LP vault. -/
theorem coreLedger_debit (w : World) (n : ℕ) {s : Address}
    (hs : s = .distribution_vault ∨ s = .lp_reward_vault) :
    (w.debit .trfl s n).coreLedger = w.coreLedger := by
  have hraw : ∀ a, (w.debit .trfl s n).raw a = w.raw a := by
    intro a
    rcases hs with rfl | rfl <;> simp [raw]
  refine Ledger.ext rfl ?_ ?_ rfl rfl rfl rfl rfl rfl
  · funext i
    rcases i with _ | b
    · rfl
    · simp [hraw]
  · funext i
    rcases i with _ | b
    · rfl
    · rw [coreLedger_accrued_some, hraw]
      rfl

theorem coreLedger_credit (w : World) (n : ℕ) :
    (w.credit .trfl .lp_reward_vault n).coreLedger = w.coreLedger := by
  have hraw : ∀ a, (w.credit .trfl .lp_reward_vault n).raw a = w.raw a := by simp [raw]
  refine Ledger.ext rfl ?_ ?_ rfl rfl rfl rfl rfl rfl
  · funext i
    rcases i with _ | b
    · rfl
    · simp [hraw]
  · funext i
    rcases i with _ | b
    · rfl
    · rw [coreLedger_accrued_some, hraw]
      rfl

end World

namespace Core

variable {w w' : World} {a : Address} {n : ℕ}

/-- The invariant reads nothing but the core's resources and tRFL. -/
theorem congr (h : Core w) (hl : w'.coreLedger = w.coreLedger)
    (hp : w'.reflection.positions = w.reflection.positions)
    (hx : w'.reflection.exclusions = w.reflection.exclusions)
    (ht : w'.reflection.total_shares = w.reflection.total_shares)
    (ha : w'.reflection.aggregate_correction = w.reflection.aggregate_correction)
    (hm : w'.reflection.lifetime_materialized = w.reflection.lifetime_materialized)
    (hc : w'.custody = w.custody)
    (hb : ∀ s : Address, s.store_metadata = some .trfl → w'.balance s = w.balance s)
    (hf : w'.in_flight .trfl = w.in_flight .trfl) : Core w' := by
  have hi : w'.reflection.index = w.reflection.index := congrArg Ledger.index hl
  have hr : w'.reflection.index_remainder = w.reflection.index_remainder :=
    congrArg Ledger.remainder hl
  have hfee : w'.reflection.lifetime_fees = w.reflection.lifetime_fees :=
    congrArg Ledger.received hl
  have hw : w'.wallets = w.wallets := by rw [World.wallets, hc, World.wallets]
  have hst : w'.stores = w.stores := by rw [World.stores, hw, World.stores]
  -- Accounting, membership, supply and rounding, each from the fields that it reads.
  refine ⟨?_, ?_, ?_, ?_⟩
  · obtain ⟨h1, h2, h3, h4, h5, h6, h7⟩ := h.accounting
    refine ⟨hl ▸ h1, ?_, ?_, ?_, ?_, ?_, ?_⟩
    · rw [ht, hl, h2]
    · rw [ht, hi, ha, hl, h3]
    · rw [hm, hc, hl, h4]
    · rw [hc, h5]
    · rw [hb _ rfl, hl, hfee, h6]
    · rw [hr]
      exact h7
  · refine h.membership.step (by rw [hc]) (by rw [hc]) hx (fun a ha => .inl (hp ▸ ha))
      (fun a ha => hp ▸ ha) (fun a ha => .inl ?_)
    rwa [World.raw, hb _ rfl] at ha
  · refine ⟨?_, fun s hs hm => ?_, ?_⟩
    · have hsum : ∑ s ∈ w.stores, w'.balance s = ∑ s ∈ w.stores, w.balance s := by
        rw [World.sum_stores, World.sum_stores, hb _ rfl, hb _ rfl, hb _ rfl, hb _ rfl]
        exact congrArg _ (Finset.sum_congr rfl (fun a _ => hb _ rfl))
      rw [hst, hsum, hf]
      exact h.supply.supply
    · rw [hb s hs]
      exact h.supply.elsewhere s hs (hst ▸ hm)
    · rw [hc, hb _ rfl]
      exact h.supply.custody
  · rw [hc, hl, h.rounding]

theorem logged (h : Core w) (e : Event) : Core (w.logged e) :=
  h.congr rfl rfl rfl rfl rfl rfl rfl (fun _ _ => rfl) rfl

theorem enrolled (h : Core w) (ha : a ∉ w.wallets)
    (hx : is_excluded_store w.reflection (.primary .trfl a) = false) (store : Address) :
    Core (w.enrolled a store) := by
  -- A wallet that joins brings a store that was empty until then.
  have hm : Address.primary .trfl a ∉ w.stores := by rwa [World.primary_mem_stores]
  have hst : (w.enrolled a store).stores = insert (.primary .trfl a) w.stores := by
    simp [World.stores, Finset.map_insert]
  refine ⟨?_, ?_, ?_, h.rounding⟩
  · refine h.accounting.step (a := .enroll (some a)) trivial (World.coreLedger_enrolled store)
      ?_ ?_ rfl h.accounting.routed rfl h.accounting.remainder
    · simp [World.enrolled, Act.weight]
    · simp [World.enrolled, Act.handed]
  · constructor
    · intro b hb
      rw [World.wallets_enrolled]
      exact Finset.mem_insert_of_mem (h.membership.position_wallet b hb)
    · exact h.membership.funded
    · intro b hb
      rw [World.wallets_enrolled, Finset.mem_insert] at hb
      show (w.custody.registered_wallets.insert a true).lookup b = some true
      rw [Table.lookup_insert_ite]
      split
      · rfl
      · next hne => exact h.membership.flagged b (hb.resolve_left hne)
    · rw [World.wallets_enrolled, Finset.card_insert_of_notMem ha, ← h.membership.count]
      rfl
    · intro b hb
      rw [World.wallets_enrolled, Finset.mem_insert] at hb
      rcases hb with rfl | hb
      · exact hx
      · exact h.membership.eligible b hb
  · refine ⟨?_, fun s hs hs' => ?_, h.supply.custody⟩
    · have hz := h.supply.raw_of_notMem ha
      rw [hst, Finset.sum_insert hm]
      show w.raw a + _ + _ = _
      rw [hz, zero_add]
      exact h.supply.supply
    · rw [hst, Finset.mem_insert, not_or] at hs'
      exact h.supply.elsewhere s hs hs'.2

/-- A payment of what is pending. -/
theorem walletPaid (h : Core w) (ha : a ∈ w.reflection.positions)
    (hn : n ≤ w.pending (some a)) : Core (w.walletPaid a n) := by
  have hw := h.membership.position_wallet a ha
  -- In the ledger this is a `pay`, which the vault covers.
  have hen := h.accounting.valid.pay_enabled MAGNITUDE_pos ((w.some_mem_holders a).mpr hw) hn
  have hv : n ≤ w.balance .reward_vault := hn.trans (h.accounting.pending_le_vault _)
  refine ⟨?_, ?_, ?_, h.rounding⟩
  · refine h.accounting.step hen World.coreLedger_walletPaid ?_ ?_ ?_ h.accounting.routed ?_
      h.accounting.remainder
    · simp [World.walletPaid, Act.weight]
    · simp [World.walletPaid, Act.handed]
    · simp only [World.walletPaid, World.debit_custody, Act.paid]
      omega
    · simp only [World.walletPaid, World.debit_balance, Function.update_self, Act.paid,
        Act.collected]
      omega
  · refine h.membership.step rfl rfl rfl ?_ ?_ ?_
    · intro b hb
      simp only [World.walletPaid, Finmap.mem_insert] at hb
      rcases hb with rfl | hb
      · exact .inl ha
      · exact .inl hb
    · intro b hb
      simp only [World.walletPaid, Finmap.mem_insert]
      exact .inr hb
    · intro b hb
      rw [World.raw_walletPaid] at hb
      exact .inl hb
  · refine h.supply.step rfl (Supply.debit h.supply.supply w.reward_vault_mem hv)
      (fun s hs => Supply.update_off w.reward_vault_mem hs) ?_
    simpa [World.walletPaid] using h.supply.custody

theorem poolPaid (h : Core w) (hn : n ≤ w.pending none) : Core (w.poolPaid n) := by
  have hen := h.accounting.valid.pay_enabled MAGNITUDE_pos w.none_mem_holders hn
  have hv : n ≤ w.balance .reward_vault := hn.trans (h.accounting.pending_le_vault _)
  refine ⟨?_, ?_, ?_, h.rounding⟩
  · refine h.accounting.step hen World.coreLedger_poolPaid ?_ ?_ ?_ ?_ ?_ h.accounting.remainder
    · simp [World.poolPaid, Act.weight]
    · simp [World.poolPaid, Act.handed]
    · simp only [World.poolPaid, World.debit_reflection, Act.paid]
      omega
    · simp only [World.poolPaid]
      rw [h.accounting.routed]
    · simp only [World.poolPaid, World.debit_balance, Function.update_self, Act.paid,
        Act.collected]
      omega
  · refine h.membership.step rfl rfl rfl (fun b hb => .inl hb) (fun b hb => hb) (fun b hb => ?_)
    rw [World.raw_poolPaid] at hb
    exact .inl hb
  · refine h.supply.step rfl (Supply.debit h.supply.supply w.reward_vault_mem hv)
      (fun s hs => Supply.update_off w.reward_vault_mem hs) ?_
    simpa [World.poolPaid] using h.supply.custody

/-- Units of a vault that nobody has shares of go in flight. -/
theorem debit (h : Core w) {s : Address} (hs : s = .distribution_vault ∨ s = .lp_reward_vault)
    (hn : n ≤ w.balance s) : Core (w.debit .trfl s n) := by
  have hm : s ∈ w.stores := by rcases hs with rfl | rfl <;> simp
  have hne : ∀ t : Address, t ≠ .distribution_vault → t ≠ .lp_reward_vault →
      (w.debit .trfl s n).balance t = w.balance t := by
    intro t h1 h2
    rw [World.debit_balance, Function.update_of_ne]
    rcases hs with rfl | rfl
    · exact h1
    · exact h2
  have hraw : ∀ a, (w.debit .trfl s n).raw a = w.raw a :=
    fun a => hne _ (by simp) (by simp)
  have hl := World.coreLedger_debit w n hs
  refine ⟨?_, ?_, ?_, h.rounding⟩
  · obtain ⟨h1, h2, h3, h4, h5, h6, h7⟩ := h.accounting
    refine ⟨by rw [hl]; exact h1, by rw [hl]; exact h2, by rw [hl]; exact h3,
      by rw [hl]; exact h4, h5, ?_, h7⟩
    rw [hne _ (by simp) (by simp), hl]
    exact h6
  · refine h.membership.step rfl rfl rfl (fun b hb => .inl hb) (fun b hb => hb) (fun b hb => ?_)
    rw [hraw] at hb
    exact .inl hb
  · refine h.supply.step rfl (Supply.debit h.supply.supply hm hn)
      (fun t ht => Supply.update_off hm ht) ?_
    rw [hne _ (by simp) (by simp)]
    exact h.supply.custody

/-- Units in flight reach the LP vault, of which nobody has shares. -/
theorem credit (h : Core w) (hn : n ≤ w.in_flight .trfl) :
    Core (w.credit .trfl .lp_reward_vault n) := by
  have hne : ∀ t : Address, t ≠ .lp_reward_vault →
      (w.credit .trfl .lp_reward_vault n).balance t = w.balance t :=
    fun t ht => Function.update_of_ne ht _ _
  have hl := World.coreLedger_credit w n
  refine ⟨?_, ?_, ?_, h.rounding⟩
  · obtain ⟨h1, h2, h3, h4, h5, h6, h7⟩ := h.accounting
    refine ⟨by rw [hl]; exact h1, by rw [hl]; exact h2, by rw [hl]; exact h3,
      by rw [hl]; exact h4, h5, ?_, h7⟩
    rw [hne _ (by simp), hl]
    exact h6
  · refine h.membership.step rfl rfl rfl (fun b hb => .inl hb) (fun b hb => hb) (fun b hb => ?_)
    rw [World.raw, hne _ (by simp)] at hb
    exact .inl hb
  · refine h.supply.step rfl (Supply.credit h.supply.supply w.lp_reward_vault_mem hn)
      (fun t ht => Supply.update_off w.lp_reward_vault_mem ht) ?_
    rw [hne _ (by simp)]
    exact h.supply.custody

/-- Materialization: a payment, then a gain of shares. -/
theorem materialized (h : Core w) (ha : a ∈ w.reflection.positions)
    (hn : n ≤ w.pending (some a)) (explicit_claim : Bool) (trigger : Trigger) :
    Core (w.materialized a n explicit_claim trigger) := by
  have hf : n ≤ (w.walletPaid a n).in_flight .trfl := by simp [World.walletPaid]
  have hc := ((h.walletPaid ha hn).walletCredited (h.membership.position_wallet a ha) hf).logged
    (.RewardsMaterialized a n ((w.position a).claimed + n) trigger)
  cases explicit_claim
  · exact hc
  · exact hc.logged _

theorem materializedAll (h : Core w) (explicit_claim : Bool) (trigger : Trigger) :
    Core (w.materializedAll a explicit_claim trigger) := by
  unfold World.materializedAll
  split
  · exact h
  · next hp =>
      have ha : a ∈ w.reflection.positions := by
        by_contra hne
        exact hp (h.membership.pending_of_notMem hne)
      exact h.materialized ha le_rfl explicit_claim trigger

theorem routed (h : Core w) (hn : n ≤ w.pending none) (epoch : ℕ) : Core (w.routed n epoch) :=
  ((h.poolPaid hn).credit (by simp [World.poolPaid])).logged _

theorem setAside (h : Core w) (ht : w.reflection.total_shares = 0)
    (hn : n ≤ w.in_flight .trfl) : Core (w.setAside n) := by
  have ht' : w.coreLedger.total = 0 := by rw [← h.accounting.total, ht]
  refine ⟨?_, ?_, ?_, h.rounding⟩
  · refine h.accounting.step (a := .receive n) trivial (World.coreLedger_setAside ht') ?_ ?_ rfl
      h.accounting.routed ?_ h.accounting.remainder
    · simp [World.setAside, Act.weight]
    · simp [World.setAside, Act.handed, ht']
    · simp [World.setAside, Act.paid, Act.collected]
  · refine h.membership.step rfl rfl rfl (fun b hb => .inl hb) (fun b hb => hb) (fun b hb => ?_)
    rw [World.raw_setAside] at hb
    exact .inl hb
  · refine h.supply.step rfl (Supply.credit h.supply.supply w.reward_vault_mem hn)
      (fun s hs => Supply.update_off w.reward_vault_mem hs) ?_
    simpa [World.setAside] using h.supply.custody

theorem TOTAL_SUPPLY_le : TOTAL_SUPPLY ≤ MAGNITUDE := by
  unfold TOTAL_SUPPLY MAGNITUDE
  norm_num

/-- **The fee step.** The remainder stays below the shares, hence below the
magnitude. -/
theorem accounting_indexed (h : Core w) (ht : w.reflection.total_shares ≠ 0) {i r : ℕ}
    (hi : i = w.nextIndex n) (hr : r = w.nextRemainder n) (c : ℕ) :
    Accounting (w.indexed n i r c) := by
  have heq := h.accounting.total
  have ht' : w.coreLedger.total ≠ 0 := by rwa [← heq]
  rw [World.nextRemainder, heq] at hr
  replace hi : i = w.reflection.index + w.coreLedger.increment MAGNITUDE n := by
    rw [hi, World.nextIndex, heq, Ledger.increment, World.coreLedger_remainder]
  have hl := World.coreLedger_indexed ht' c hi hr
  have hlt : r < MAGNITUDE := by
    have hsup := h.supply.total_le
    have hmod : r < w.coreLedger.total := hr ▸ Nat.mod_lt _ (Nat.pos_of_ne_zero ht')
    exact lt_of_lt_of_le (hmod.trans_le hsup) TOTAL_SUPPLY_le
  refine h.accounting.step (a := .receive n) trivial hl ?_ ?_ rfl h.accounting.routed ?_ hlt
  · simp [World.indexed, Act.weight]
  · simp only [World.indexed, Act.handed, if_neg ht', hi, heq]
    push_cast
    ring
  · simp [World.indexed, Act.paid, Act.collected]

/-- With the reserve the index step stores: at most one unit. -/
theorem indexed (h : Core w) (ht : w.reflection.total_shares ≠ 0) (hn : n ≤ w.in_flight .trfl)
    {i r c : ℕ} (hi : i = w.nextIndex n) (hr : r = w.nextRemainder n)
    (hc : c = if r = 0 then 0 else 1) : Core (w.indexed n i r c) := by
  have hacc := h.accounting_indexed ht hi hr c
  refine ⟨hacc, ?_, ?_, ?_⟩
  · refine h.membership.step rfl rfl rfl (fun b hb => .inl hb) (fun b hb => hb) (fun b hb => ?_)
    rw [World.raw_indexed] at hb
    exact .inl hb
  · refine h.supply.step rfl (Supply.credit h.supply.supply w.reward_vault_mem hn)
      (fun s hs => Supply.update_off w.reward_vault_mem hs) ?_
    simpa [World.indexed] using h.supply.custody
  · rw [hacc.reserve_eq]
    exact hc

theorem collected (h : Core w) (hn : n ≤ w.in_flight .trfl) (gross kind : ℕ) :
    Core (w.collected a n gross kind) := by
  unfold World.collected
  split
  · next ht => exact (h.setAside ht hn).logged _
  · next ht => exact ((h.indexed ht hn rfl rfl rfl).logged _).logged _

theorem feeTaken (h : Core w) {gross fee : ℕ} (hn : fee ≤ w.in_flight .trfl) (kind : ℕ) :
    Core (w.feeTaken a gross fee kind) := by
  unfold World.feeTaken
  split
  · exact h
  · exact h.collected hn gross kind

end Core

end CedraReflect
