/-
What the core's functions do to the state, as functions of the state.

Every commit of a function of `reflection_token` is a composition of the few
effects defined here, and each of them is one or two events of the ledger of
`CoreLedger`: registering enrolls, a share move gives or takes, materialization
and routing pay, a fee is received. [`Core`] is the invariant they all keep.
-/
import CedraReflect.CoreLedger

set_option autoImplicit false
set_option linter.constructorNameAsVariable false

namespace CedraReflect

open Dividend (Ledger Act Valid)
open reflection_math (MAGNITUDE MAGNITUDE_pos)
open reflection_token (TOTAL_SUPPLY is_excluded_store is_registered_wallet)

namespace World

variable (w : World) (a : Address) (n : ℕ)

/-! ## The effects -/

/-- An event is emitted. -/
def logged (e : Event) : World := { w with events := w.events ++ [e] }

/-- `ensure_registered_wallet` of a new wallet. -/
def enrolled (store : Address) : World :=
  { w with
    custody :=
      { w.custody with
        registered_wallets := w.custody.registered_wallets.insert a true
        registered_wallet_count := w.custody.registered_wallet_count + 1 }
    events := w.events ++ [.WalletRegistered a store (w.custody.registered_wallet_count + 1)] }

/-- `add_raw_shares`. -/
def addRaw : World :=
  { w with
    reflection :=
      { w.reflection with
        positions :=
          if n = 0 then w.reflection.positions
          else w.reflection.positions.insert a
            ⟨.ofInt ((w.position a).correction.toInt - n * w.reflection.index),
              (w.position a).claimed⟩
        aggregate_correction :=
          .ofInt (w.reflection.aggregate_correction.toInt - n * w.reflection.index)
        total_shares := w.reflection.total_shares + n }
    events :=
      if n = 0 ∨ a ∈ w.reflection.positions then w.events else w.events ++ [.PositionCreated a] }

/-- `remove_raw_shares`. -/
def removeRaw : World :=
  { w with
    reflection :=
      { w.reflection with
        positions :=
          if n = 0 then w.reflection.positions
          else w.reflection.positions.insert a
            ⟨.ofInt ((w.position a).correction.toInt + n * w.reflection.index),
              (w.position a).claimed⟩
        aggregate_correction :=
          .ofInt (w.reflection.aggregate_correction.toInt + n * w.reflection.index)
        total_shares := w.reflection.total_shares - n }
    events :=
      if n = 0 ∨ a ∈ w.reflection.positions then w.events else w.events ++ [.PositionCreated a] }

/-- `add_custody_shares`. -/
def addCustody : World :=
  { w with
    reflection :=
      { w.reflection with
        aggregate_correction :=
          .ofInt (w.reflection.aggregate_correction.toInt - n * w.reflection.index)
        total_shares := w.reflection.total_shares + n }
    custody :=
      { w.custody with
        pool_position :=
          ⟨.ofInt (w.custody.pool_position.correction.toInt - n * w.reflection.index),
            w.custody.pool_position.claimed⟩
        custody_shares := w.custody.custody_shares + n }
    events :=
      if n = 0 then w.events
      else w.events ++ [.CustodySharesChanged true n (w.custody.custody_shares + n)
        (w.reflection.total_shares + n)] }

/-- `remove_custody_shares`. -/
def removeCustody : World :=
  { w with
    reflection :=
      { w.reflection with
        aggregate_correction :=
          .ofInt (w.reflection.aggregate_correction.toInt + n * w.reflection.index)
        total_shares := w.reflection.total_shares - n }
    custody :=
      { w.custody with
        pool_position :=
          ⟨.ofInt (w.custody.pool_position.correction.toInt + n * w.reflection.index),
            w.custody.pool_position.claimed⟩
        custody_shares := w.custody.custody_shares - n }
    events :=
      if n = 0 then w.events
      else w.events ++ [.CustodySharesChanged false n (w.custody.custody_shares - n)
        (w.reflection.total_shares - n)] }

/-- Units leave a wallet together with their shares. -/
def walletDebited : World := (w.debit .trfl (.primary .trfl a) n).removeRaw a n

/-- Units in flight reach a wallet together with their shares. -/
def walletCredited : World := (w.credit .trfl (.primary .trfl a) n).addRaw a n

/-- Units leave the pool together with their shares. -/
def poolDebited : World := (w.debit .trfl .rfl_reserve n).removeCustody n

/-- Units in flight reach the pool together with their shares. -/
def poolCredited : World := (w.credit .trfl .rfl_reserve n).addCustody n

/-- Whole units leave the vault for a wallet and are counted as claimed. -/
def walletPaid : World :=
  { w.debit .trfl .reward_vault n with
    reflection :=
      { w.reflection with
        positions := w.reflection.positions.insert a
          ⟨(w.position a).correction, (w.position a).claimed + n⟩
        lifetime_materialized := w.reflection.lifetime_materialized + n } }

/-- Whole units leave the vault for the pool and are counted as claimed. -/
def poolPaid : World :=
  { w.debit .trfl .reward_vault n with
    custody :=
      { w.custody with
        pool_position :=
          ⟨w.custody.pool_position.correction, w.custody.pool_position.claimed + n⟩
        lifetime_custody_routed := w.custody.lifetime_custody_routed + n } }

/-- `materialize_to_store`: a payment that gains shares on arrival. -/
def materialized (explicit_claim : Bool) (trigger : Trigger) : World :=
  let claimed := (w.position a).claimed + n
  let w := ((w.walletPaid a n).walletCredited a n).logged
    (.RewardsMaterialized a n claimed trigger)
  if explicit_claim = true then w.logged (.RewardsClaimed a n claimed) else w

/-- `materialize_all_to_store`. -/
def materializedAll (explicit_claim : Bool) (trigger : Trigger) : World :=
  if w.pending (some a) = 0 then w
  else w.materialized a (w.pending (some a)) explicit_claim trigger

/-- The fee reaches the vault and is set aside, nobody having shares. -/
def setAside : World :=
  { w.credit .trfl .reward_vault n with
    reflection :=
      { w.reflection with
        lifetime_fees := w.reflection.lifetime_fees + n
        unallocated_fees := w.reflection.unallocated_fees + n } }

/-- The fee reaches the vault and moves the index to the values given. -/
def indexed (index index_remainder rounding_reserve : ℕ) : World :=
  { w.credit .trfl .reward_vault n with
    reflection :=
      { w.reflection with
        lifetime_fees := w.reflection.lifetime_fees + n, index, index_remainder }
    custody := { w.custody with rounding_reserve } }

/-- Where a fee of `n` units moves the index. The magnitude stands on the left, where
unfolding a product cannot count it down. -/
def nextIndex : ℕ :=
  w.reflection.index + (MAGNITUDE * n + w.reflection.index_remainder) / w.reflection.total_shares

/-- What a fee of `n` units leaves to the next one. -/
def nextRemainder : ℕ :=
  (MAGNITUDE * n + w.reflection.index_remainder) % w.reflection.total_shares

/-- `advance_index` of a fee on its way to the vault. -/
def collected (gross kind : ℕ) : World :=
  if w.reflection.total_shares = 0 then
    (w.setAside n).logged (.ReflectionFeeCollected a gross n w.reflection.fee_bps kind)
  else
    ((w.indexed n (w.nextIndex n) (w.nextRemainder n)
        (if w.nextRemainder n = 0 then 0 else 1)).logged
        (.ReflectionFeeCollected a gross n w.reflection.fee_bps kind)).logged
      (.ReflectionIndexAdvanced w.reflection.index (w.nextIndex n) (w.nextRemainder n) n
        w.reflection.total_shares)

/-- `take_fee`. -/
def feeTaken (gross fee kind : ℕ) : World :=
  if fee = 0 then w else w.collected a fee gross kind

/-- `route_custody_rewards` of a positive amount: a payment to the LP epoch's
vault. -/
def routed (epoch : ℕ) : World :=
  ((w.poolPaid n).credit .trfl .lp_reward_vault n).logged
    (.CustodyRewardsRouted .rfl_reserve .lp_reward_vault epoch n
      (w.custody.pool_position.claimed + n))

/-! ## What the effects leave alone -/

end World

@[simp] theorem World.coreLedger_logged (w : World) (e : Event) :
    (w.logged e).coreLedger = w.coreLedger := rfl

theorem Accounting.logged {w : World} (h : Accounting w) (e : Event) : Accounting (w.logged e) :=
  ⟨h.valid, h.total, h.aggregate, h.settled, h.routed, h.vault, h.remainder⟩

/-- What no function of the core changes outside of launch: every resource of
the other packages, the core's parameters, the frozen flags, the clock, and
everything made of tUSD. -/
structure Frame (w w' : World) : Prop where
  published : w'.published = w.published
  custody_registry : w'.custody_registry = w.custody_registry
  lp_registry : w'.lp_registry = w.lp_registry
  pool : w'.pool = w.pool
  mock_usd : w'.mock_usd = w.mock_usd
  faucet : w'.faucet = w.faucet
  frozen : w'.frozen = w.frozen
  now_seconds : w'.now_seconds = w.now_seconds
  fee_bps : w'.reflection.fee_bps = w.reflection.fee_bps
  lifecycle : w'.reflection.lifecycle = w.reflection.lifecycle
  exclusions : w'.reflection.exclusions = w.reflection.exclusions
  pool_store : w'.reflection.pool_store = w.reflection.pool_store
  pool_registered : w'.reflection.pool_registered = w.reflection.pool_registered
  registered : w'.custody.registered = w.custody.registered
  tusd : ∀ s : Address, s.store_metadata ≠ some .trfl → w'.balance s = w.balance s
  tusd_in_flight : w'.in_flight .tusd = w.in_flight .tusd
  wallets : w.wallets ⊆ w'.wallets

namespace Frame

variable {w w' w'' : World} {a : Address} {n : ℕ}

theorem refl (w : World) : Frame w w :=
  ⟨rfl, rfl, rfl, rfl, rfl, rfl, rfl, rfl, rfl, rfl, rfl, rfl, rfl, rfl, fun _ _ => rfl, rfl,
    Finset.Subset.refl _⟩

theorem trans (h : Frame w w') (h' : Frame w' w'') : Frame w w'' :=
  ⟨h'.published.trans h.published, h'.custody_registry.trans h.custody_registry,
    h'.lp_registry.trans h.lp_registry, h'.pool.trans h.pool, h'.mock_usd.trans h.mock_usd,
    h'.faucet.trans h.faucet, h'.frozen.trans h.frozen, h'.now_seconds.trans h.now_seconds,
    h'.fee_bps.trans h.fee_bps, h'.lifecycle.trans h.lifecycle,
    h'.exclusions.trans h.exclusions, h'.pool_store.trans h.pool_store,
    h'.pool_registered.trans h.pool_registered, h'.registered.trans h.registered,
    fun s hs => (h'.tusd s hs).trans (h.tusd s hs),
    h'.tusd_in_flight.trans h.tusd_in_flight, h.wallets.trans h'.wallets⟩

/-- Stores of tRFL can be written without leaving the frame. -/
theorem of_update {b : Address → ℕ} {s : Address} (hs : s.store_metadata = some .trfl) (n : ℕ)
    (t : Address) (ht : t.store_metadata ≠ some .trfl) :
    Function.update b s n t = b t :=
  Function.update_of_ne (by rintro rfl; exact ht hs) _ _

theorem logged (e : Event) : Frame w (w.logged e) :=
  ⟨rfl, rfl, rfl, rfl, rfl, rfl, rfl, rfl, rfl, rfl, rfl, rfl, rfl, rfl, fun _ _ => rfl, rfl,
    Finset.Subset.refl _⟩

theorem debit {s : Address} (hs : s.store_metadata = some .trfl) : Frame w (w.debit .trfl s n) :=
  ⟨rfl, rfl, rfl, rfl, rfl, rfl, rfl, rfl, rfl, rfl, rfl, rfl, rfl, rfl,
    of_update hs _, by simp, Finset.Subset.refl _⟩

theorem credit {s : Address} (hs : s.store_metadata = some .trfl) :
    Frame w (w.credit .trfl s n) :=
  ⟨rfl, rfl, rfl, rfl, rfl, rfl, rfl, rfl, rfl, rfl, rfl, rfl, rfl, rfl,
    of_update hs _, by simp, Finset.Subset.refl _⟩

theorem enrolled (store : Address) : Frame w (w.enrolled a store) :=
  ⟨rfl, rfl, rfl, rfl, rfl, rfl, rfl, rfl, rfl, rfl, rfl, rfl, rfl, rfl, fun _ _ => rfl, rfl,
    fun b hb => by
      simp only [World.wallets, World.enrolled, Table.keys_insert] at hb ⊢
      exact Finset.mem_insert_of_mem hb⟩

theorem addRaw : Frame w (w.addRaw a n) :=
  ⟨rfl, rfl, rfl, rfl, rfl, rfl, rfl, rfl, rfl, rfl, rfl, rfl, rfl, rfl, fun _ _ => rfl, rfl,
    Finset.Subset.refl _⟩

theorem removeRaw : Frame w (w.removeRaw a n) :=
  ⟨rfl, rfl, rfl, rfl, rfl, rfl, rfl, rfl, rfl, rfl, rfl, rfl, rfl, rfl, fun _ _ => rfl, rfl,
    Finset.Subset.refl _⟩

theorem addCustody : Frame w (w.addCustody n) :=
  ⟨rfl, rfl, rfl, rfl, rfl, rfl, rfl, rfl, rfl, rfl, rfl, rfl, rfl, rfl, fun _ _ => rfl, rfl,
    Finset.Subset.refl _⟩

theorem removeCustody : Frame w (w.removeCustody n) :=
  ⟨rfl, rfl, rfl, rfl, rfl, rfl, rfl, rfl, rfl, rfl, rfl, rfl, rfl, rfl, fun _ _ => rfl, rfl,
    Finset.Subset.refl _⟩

theorem walletDebited : Frame w (w.walletDebited a n) := (debit rfl).trans removeRaw

theorem walletCredited : Frame w (w.walletCredited a n) := (credit rfl).trans addRaw

theorem poolDebited : Frame w (w.poolDebited n) := (debit rfl).trans removeCustody

theorem poolCredited : Frame w (w.poolCredited n) := (credit rfl).trans addCustody

theorem walletPaid : Frame w (w.walletPaid a n) :=
  ⟨rfl, rfl, rfl, rfl, rfl, rfl, rfl, rfl, rfl, rfl, rfl, rfl, rfl, rfl,
    of_update rfl _, by simp [World.walletPaid], Finset.Subset.refl _⟩

theorem poolPaid : Frame w (w.poolPaid n) :=
  ⟨rfl, rfl, rfl, rfl, rfl, rfl, rfl, rfl, rfl, rfl, rfl, rfl, rfl, rfl,
    of_update rfl _, by simp [World.poolPaid], Finset.Subset.refl _⟩

theorem materialized (explicit_claim : Bool) (trigger : Trigger) :
    Frame w (w.materialized a n explicit_claim trigger) := by
  have h := (walletPaid (w := w) (a := a) (n := n)).trans (walletCredited (a := a) (n := n))
  cases explicit_claim
  · exact h.trans (logged _)
  · exact (h.trans (logged _)).trans (logged _)

theorem materializedAll (explicit_claim : Bool) (trigger : Trigger) :
    Frame w (w.materializedAll a explicit_claim trigger) := by
  unfold World.materializedAll
  split
  · exact refl w
  · exact materialized explicit_claim trigger

theorem setAside : Frame w (w.setAside n) :=
  ⟨rfl, rfl, rfl, rfl, rfl, rfl, rfl, rfl, rfl, rfl, rfl, rfl, rfl, rfl,
    of_update rfl _, by simp [World.setAside], Finset.Subset.refl _⟩

theorem indexed (i r c : ℕ) : Frame w (w.indexed n i r c) :=
  ⟨rfl, rfl, rfl, rfl, rfl, rfl, rfl, rfl, rfl, rfl, rfl, rfl, rfl, rfl,
    of_update rfl _, by simp [World.indexed], Finset.Subset.refl _⟩

theorem collected (gross kind : ℕ) : Frame w (w.collected a n gross kind) := by
  unfold World.collected
  split
  · exact setAside.trans (logged _)
  · exact ((indexed _ _ _).trans (logged _)).trans (logged _)

theorem feeTaken (gross fee kind : ℕ) : Frame w (w.feeTaken a gross fee kind) := by
  unfold World.feeTaken
  split
  · exact refl w
  · exact collected gross kind

theorem routed (epoch : ℕ) : Frame w (w.routed n epoch) :=
  (poolPaid.trans (credit rfl)).trans (logged _)

end Frame

end CedraReflect
