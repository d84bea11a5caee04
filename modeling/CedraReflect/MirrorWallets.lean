/-
The effects of the core, replayed.

What a call of the contracts emits is a concatenation of short transcripts, one
an effect: an account that is registered, a reward that is materialized, a
position that is created, an amount that comes or goes. Each transcript feeds a
replay that stands where the chain does before the effect, and leaves it where
the chain is afterwards. The widths that the reducer asks for are those of a
legitimate core within its bounds ([`Core.fitsMove`]).
-/
import CedraReflect.CoreFits
import CedraReflect.LpFits
import CedraReflect.MirrorGroups
import CedraReflect.Transition

set_option autoImplicit false
set_option linter.constructorNameAsVariable false

namespace CedraReflect

open Dividend (Ledger Act Valid Weighs)
open reflection_math (MAGNITUDE MAGNITUDE_pos)
open reflection_token (TOTAL_SUPPLY is_excluded_store)

/-! ## Transcripts -/

namespace World

variable (w : World) (a : Address) (n : ℕ) (trigger : Trigger)

/-- What `ensure_registered_wallet_for_store` emits. -/
def enrollment : List Event :=
  if a ∈ w.wallets then [] else [.WalletRegistered a (.primary .trfl a) (w.wallets.card + 1)]

/-- What `ensure_position` emits. -/
def opening : List Event := if a ∈ w.reflection.positions then [] else [.PositionCreated a]

/-- What `materialize_all_to_store` emits. -/
def materialization : List Event :=
  if w.pending (some a) = 0 then []
  else [.RewardsMaterialized a (w.pending (some a)) ((w.position a).claimed + w.pending (some a))
    trigger]

theorem events_ensured (h : Membership w) :
    (w.ensured a).events = w.events ++ w.enrollment a := by
  unfold ensured enrollment
  split
  · rw [List.append_nil]
  · rw [← h.count, enrolled]

theorem events_walletCredited (hn : n ≠ 0) :
    (w.walletCredited a n).events = w.events ++ w.opening a := by
  show (if n = 0 ∨ a ∈ w.reflection.positions then w.events
    else w.events ++ [.PositionCreated a]) = _
  unfold opening
  by_cases ha : a ∈ w.reflection.positions
  · rw [if_pos (Or.inr ha), if_pos ha, List.append_nil]
  · rw [if_neg (not_or.mpr ⟨hn, ha⟩), if_neg ha]

variable {a n}

theorem events_walletDebited (ha : a ∈ w.reflection.positions) :
    (w.walletDebited a n).events = w.events := if_pos (Or.inr ha)

/-- A payment creates no position: it is made to one. -/
theorem events_materialized (claim : Bool) : (w.materialized a n claim trigger).events
    = w.events ++ .RewardsMaterialized a n ((w.position a).claimed + n) trigger
      :: if claim = true then [.RewardsClaimed a n ((w.position a).claimed + n)] else [] := by
  have hpaid : ((w.walletPaid a n).walletCredited a n).events = w.events := by
    have ha : a ∈ (w.walletPaid a n).reflection.positions :=
      Finmap.mem_insert.mpr (Or.inl rfl)
    exact if_pos (Or.inr ha)
  cases claim <;> simp [materialized, logged, hpaid]

theorem events_materializedAll : (w.materializedAll a false trigger).events
    = w.events ++ w.materialization a trigger := by
  unfold materializedAll materialization
  split
  · rw [List.append_nil]
  · rw [events_materialized]
    rfl

/-- An account that is about to get units: registered, and paid what it has
earned. -/
def prepared (w : World) (a : Address) (trigger : Trigger) : World :=
  (w.ensured a).materializedAll a false trigger

/-- What it emits to prepare an account. -/
def preparation (w : World) (a : Address) (trigger : Trigger) : List Event :=
  w.enrollment a ++ (w.ensured a).materialization a trigger

theorem events_prepared (h : Membership w) :
    (w.prepared a trigger).events = w.events ++ w.preparation a trigger := by
  rw [prepared, events_materializedAll, w.events_ensured a h, List.append_assoc, preparation]

@[simp] theorem wallets_prepared (w : World) (a : Address) (trigger : Trigger) :
    (w.prepared a trigger).wallets = (w.ensured a).wallets := by
  rw [prepared, wallets_materializedAll]

@[simp] theorem wallets_sent : (w.sent a n).wallets = w.wallets := by
  rw [wallets, sent, custody_logged, custody_walletDebited, custody_materializedAll, wallets]

@[simp] theorem wallets_arrived : (w.arrived a n).wallets = (w.ensured a).wallets := by
  rw [wallets, arrived, custody_logged, custody_walletCredited, custody_materializedAll, wallets]

theorem wallets_granted (operator : Address) :
    (w.granted a n operator).wallets = (w.ensured a).wallets := by
  rw [wallets, granted, custody_logged, custody_walletCredited]
  exact wallets_prepared w a .FAUCET

theorem mem_wallets_prepared (w : World) (a : Address) (trigger : Trigger) :
    a ∈ (w.prepared a trigger).wallets := by
  rw [wallets_prepared]
  exact w.mem_wallets_ensured a

/-- Only a wallet can send something. -/
theorem Sends.of_pos {w : World} {a : Address} {n : ℕ} (h : w.Sends a n) (hn : 0 < n) :
    a ∈ w.wallets ∧ n ≤ (w.materializedAll a false .TRANSFER_SEND).raw a := by
  unfold Sends at h
  split at h
  · next ha => exact ⟨ha, h⟩
  · omega

end World

theorem Core.moved_prepared {w : World} {a : Address} (h : Core w)
    (hx : is_excluded_store w.reflection (.primary .trfl a) = false) (trigger : Trigger) :
    Moved w (w.prepared a trigger) := by
  have hensured := h.moved_ensured hx
  exact hensured.trans (hensured.core.moved_materializedAll false trigger)

/-! ## Where an effect leads -/

namespace World

variable (w : World) {a : Address} {n : ℕ} (e : LpEpoch) (usd claims : Address → ℕ)

/-- No effect of the core touches a store of tUSD. -/
theorem cash_eq {w w' : World} (hf : Frame w w') : w'.cash = w.cash :=
  funext fun _ => hf.tusd _ (by simp [Address.store_metadata])

/-- A store of tUSD is written. -/
theorem cash_write (n : ℕ) :
    (fun b => Function.update w.balance (.primary .tusd a) n (.primary .tusd b))
      = Function.update w.cash a n := by
  funext b
  by_cases hb : b = a
  · rw [hb, Function.update_self, Function.update_self]
  · rw [Function.update_of_ne hb, Function.update_of_ne (by simpa using hb)]
    rfl

@[simp] theorem stand_logged (event : Event) : (w.logged event).stand e usd claims = w.stand e usd claims :=
  rfl

theorem stand_enrolled (store : Address) :
    (w.enrolled a store).stand e usd claims = (w.stand e usd claims).act (.enroll (some a)) :=
  Stand.ext (coreLedger_enrolled store) rfl rfl rfl rfl

theorem keys_walletCredited (hn : n ≠ 0) :
    (w.walletCredited a n).reflection.positions.keys = insert a w.reflection.positions.keys := by
  show (if n = 0 then w.reflection.positions else _).keys = _
  rw [if_neg hn, Table.keys_insert]
  rfl

/-- Units that come make the position they are kept in. -/
theorem stand_walletCredited (hn : n ≠ 0) : (w.walletCredited a n).stand e usd claims
    = ((w.stand e usd claims).opened a).act (.give (some a) n) :=
  Stand.ext w.coreLedger_walletCredited rfl (w.keys_walletCredited hn)
    rfl rfl

theorem stand_walletDebited (ha : a ∈ w.reflection.positions) (hn : n ≤ w.raw a) :
    (w.walletDebited a n).stand e usd claims = (w.stand e usd claims).act (.take (some a) n) := by
  refine Stand.ext (w.coreLedger_walletDebited hn) rfl ?_ rfl rfl
  show (if n = 0 then w.reflection.positions else _).keys = _
  split
  · rfl
  · rw [Table.keys_insert]
    exact Finset.insert_eq_of_mem (Finmap.mem_keys.mpr ha)

theorem stand_materialized (ha : a ∈ w.reflection.positions) (hn : n ≠ 0) (claim : Bool)
    (trigger : Trigger) : (w.materialized a n claim trigger).stand e usd claims
      = (w.stand e usd claims).materialized a n := by
  have hstand : ((w.walletPaid a n).walletCredited a n).stand e usd claims
      = (w.stand e usd claims).materialized a n := by
    refine Stand.ext ?_ rfl ?_ rfl rfl
    · show ((w.walletPaid a n).walletCredited a n).coreLedger = _
      rw [World.coreLedger_walletCredited, World.coreLedger_walletPaid]
      rfl
    · show ((w.walletPaid a n).walletCredited a n).reflection.positions.keys = _
      rw [keys_walletCredited _ hn]
      show insert a (w.reflection.positions.insert a _).keys = _
      rw [Table.keys_insert, Finset.insert_idem, Finset.insert_eq_of_mem (Finmap.mem_keys.mpr ha)]
      rfl
  cases claim <;> exact hstand

end World

/-! ## Widths -/

theorem Core.fitsMove {w : World} (h : Core w) (hw : w.Narrow) :
    indexer.FitsMove w.coreLedger where
  valid := h.accounting.valid
  index := hw.index.trans_lt (by norm_num)
  total := h.supply.total_le.trans_lt (by unfold TOTAL_SUPPLY; norm_num)
  worth := (Nat.mul_le_mul h.supply.total_le hw.index).trans_lt (by unfold TOTAL_SUPPLY; norm_num)
  magnified := (Nat.mul_le_mul_left MAGNITUDE hw.fees).trans_lt (by unfold MAGNITUDE; norm_num)

/-- Amounts of tRFL are 64 bits wide. -/
theorem Core.lt_of_le {w : World} {s : Address} {n : ℕ} (h : Core w)
    (hs : s.store_metadata = some .trfl) (hn : n ≤ w.balance s) : n < 2 ^ 64 :=
  (hn.trans (h.supply.balance_le s hs)).trans_lt (by unfold TOTAL_SUPPLY; norm_num)

theorem Core.lt_of_in_flight {w : World} {n : ℕ} (h : Core w) (hn : n ≤ w.in_flight .trfl) :
    n < 2 ^ 64 := by
  have hsupply := h.supply.supply
  have hlt : TOTAL_SUPPLY < 2 ^ 64 := by
    unfold TOTAL_SUPPLY
    norm_num
  omega

namespace indexer

namespace Feeds

variable {prior : ProtocolProjection} {events : List ProtocolEvent} {txHash : String}
  {w : World} {e : LpEpoch} {usd claims : Address → ℕ} {k : Context} {a : Address} {n : ℕ}

/-! ## The rules of the effects -/

/-- An account is registered, if it is not. -/
theorem ensured (h : Core w) (hk : a ∉ w.wallets → Admits k.next a)
    (hcount : (w.ensured a).wallets.card < 2 ^ 64) :
    Feeds prior events txHash (w.enrollment a) (w.stand e usd claims) k
      ((w.ensured a).stand e usd claims) k := by
  unfold World.ensured World.enrollment at *
  split at hcount
  · next ha =>
      rw [if_pos ha, if_pos ha]
      exact .nil
  · next ha =>
      have hwallets : (w.stand e usd claims).wallets = w.wallets := w.wallets_stand e usd claims
      rw [if_neg ha, if_neg ha, World.stand_enrolled, ← hwallets]
      rw [World.wallets_enrolled, Finset.card_insert_of_notMem ha] at hcount
      exact registered (hwallets ▸ ha) (hk ha) (hwallets ▸ hcount) h.accounting.valid

/-- What an account has earned is materialized, whether it is anything or not. -/
theorem materializedAll (h : Core w) (hw : w.Narrow) (trigger : Trigger) :
    Feeds prior events txHash (w.materialization a trigger) (w.stand e usd claims) k
      ((w.materializedAll a false trigger).stand e usd claims) k := by
  unfold World.materializedAll World.materialization
  split
  · exact .nil
  · next hn =>
      have ha : a ∈ w.reflection.positions := by
        by_contra hne
        exact hn (h.membership.pending_of_notMem hne)
      have hmoved := h.moved_materialized ha (le_refl (w.pending (some a))) false trigger
      have hfits := hmoved.core.fitsMove (hw.moved hmoved)
      have hstand := w.stand_materialized e usd claims ha hn false trigger
      rw [hstand]
      refine materialized (s := w.stand e usd claims) (h.fitsMove hw) ?_ ?_
        (Finmap.mem_keys.mpr ha) (Nat.pos_of_ne_zero hn)
        (h.pending_lt _) ?_
      · rw [← hstand]
        exact hfits
      · rw [World.wallets_stand]
        exact h.membership.position_wallet a ha
      · exact le_refl (w.pending (some a))

/-- An account is prepared. -/
theorem prepared (h : Core w) (hw : w.Narrow)
    (hx : is_excluded_store w.reflection (.primary .trfl a) = false)
    (hk : a ∉ w.wallets → Admits k.next a) (hcount : (w.ensured a).wallets.card < 2 ^ 64)
    (trigger : Trigger) :
    Feeds prior events txHash (w.preparation a trigger) (w.stand e usd claims) k
      ((w.prepared a trigger).stand e usd claims) k := by
  have hmoved := h.moved_ensured hx
  exact (ensured h hk hcount).append (materializedAll hmoved.core (hw.moved hmoved) trigger)

/-- A position is created, if there is none. -/
theorem opening (ha : a ∈ w.wallets) :
    Feeds prior events txHash (w.opening a) (w.stand e usd claims) k
      ((w.stand e usd claims).opened a) k := by
  unfold World.opening
  split
  · next hmem =>
      have hsame : (w.stand e usd claims).opened a = w.stand e usd claims :=
        Stand.ext rfl rfl (Finset.insert_eq_of_mem (Finmap.mem_keys.mpr hmem)) rfl rfl
      rw [hsame]
      exact .nil
  · next hmem =>
      refine opened ?_ fun hkeys => hmem (Finmap.mem_keys.mp hkeys)
      rw [World.wallets_stand]
      exact ha

/-! ## Units that come and go -/

/-- A wallet's shares at another world that the core's effects lead to. -/
theorem weighs_walletCredited (h : Core w) (ha : a ∈ w.wallets) :
    Weighs w.coreLedger ((Act.give (some a) n).apply MAGNITUDE w.coreLedger) (some a) n :=
  Weighs.give h.accounting.valid ((w.some_mem_holders a).mpr ha)

section Credited

variable (h : Core w) (hw : w.Narrow) (ha : a ∈ w.wallets) (hn0 : 0 < n)
  (hn : n ≤ w.in_flight .trfl)

include h hw ha hn

theorem fitsMove_walletCredited :
    FitsMove ((Act.give (some a) n).apply MAGNITUDE w.coreLedger) := by
  have hstep := h.step_walletCredited ha hn
  rw [← World.coreLedger_walletCredited]
  exact hstep.core.fitsMove (hw.moved (hstep.moved (by simp [Quiet])))

include hn0

/-- The hook's receipt of units that come. -/
theorem walletCredited :
    Feeds prior events txHash (w.opening a ++ [.EligibleBalanceCredited a n]) (w.stand e usd claims) k
      ((w.walletCredited a n).stand e usd claims) k := by
  rw [World.stand_walletCredited _ _ _ _ hn0.ne']
  refine (opening ha).append (credited (s := (w.stand e usd claims).opened a) (h.fitsMove hw)
    (fitsMove_walletCredited h hw ha hn) (weighs_walletCredited h ha) ?_
    (Finset.mem_insert_self _ _) hn0 (h.lt_of_in_flight hn))
  show a ∈ (w.stand e usd claims).wallets
  rw [World.wallets_stand]
  exact ha

/-- The faucet's. -/
theorem walletGranted (operator : Address) :
    Feeds prior events txHash (w.opening a ++ [.FaucetGrant a n operator]) (w.stand e usd claims) k
      ((w.walletCredited a n).stand e usd claims) k := by
  rw [World.stand_walletCredited _ _ _ _ hn0.ne']
  refine (opening ha).append (granted (s := (w.stand e usd claims).opened a) (h.fitsMove hw)
    (fitsMove_walletCredited h hw ha hn) (weighs_walletCredited h ha) ?_
    (Finset.mem_insert_self _ _) hn0 (h.lt_of_in_flight hn))
  show a ∈ (w.stand e usd claims).wallets
  rw [World.wallets_stand]
  exact ha

end Credited

/-- The hook's receipt of units that go. -/
theorem walletDebited (h : Core w) (hw : w.Narrow) (ha : a ∈ w.wallets) (hn0 : 0 < n)
    (hn : n ≤ w.raw a) :
    Feeds prior events txHash [.EligibleBalanceDebited a n] (w.stand e usd claims) k
      ((w.walletDebited a n).stand e usd claims) k := by
  have hpos : a ∈ w.reflection.positions := h.membership.funded a (by omega)
  have hstep := h.step_walletDebited ha hn
  have hen : (Act.take (some a) n).Enabled MAGNITUDE w.coreLedger :=
    ⟨(w.some_mem_holders a).mpr ha, hn⟩
  have hfits := hstep.core.fitsMove (hw.moved (hstep.moved (by simp [Quiet])))
  rw [w.coreLedger_walletDebited hn] at hfits
  rw [World.stand_walletDebited _ _ _ _ hpos hn]
  refine debited (s := w.stand e usd claims) (h.fitsMove hw) hfits (Weighs.take h.accounting.valid hen)
    ?_ (Finmap.mem_keys.mpr hpos) hn0 (h.lt_of_le rfl hn)
  rw [World.wallets_stand]
  exact ha

end Feeds

end indexer

end CedraReflect
