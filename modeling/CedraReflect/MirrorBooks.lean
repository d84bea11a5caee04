/-
The books close wherever a projection follows a sound stand.

The reducer ends a group by adding everything up again: the wallets' shares and
corrections, the pool's, an epoch's, the vaults. It adds with checks, so that
every partial sum has to fit as well as the whole. A partial sum is the sum over
a group of holders, which is what [`Dividend.Valid.correction_group`] bounds.
-/
import CedraReflect.Acceptance
import CedraReflect.MirrorSteps

set_option autoImplicit false
set_option linter.constructorNameAsVariable false

namespace CedraReflect

open Dividend (Ledger Act Valid Weighs)
open reflection_math (MAGNITUDE MAGNITUDE_pos)
open reflection_token (TOTAL_SUPPLY)

namespace indexer

open Audited

/-! ## Sums that are checked on the way -/

/-- A sum is returned if every partial sum fits. -/
theorem checkedSum_of_prefixes {α : Type} {label : Text} {f : α → ℤ} {sum : ℤ} {values : List α}
    (hvalues : ∀ value ∈ values, isMoveSignedU256 (f value))
    (hsums : ∀ part, part <+: values → isMoveSignedU256 (sum + (part.map f).sum)) :
    checkedSum label sum (values.map f) = .ok (sum + (values.map f).sum) := by
  induction values generalizing sum with
  | nil =>
      rw [List.map_nil, List.sum_nil, add_zero]
      rfl
  | cons value values ih =>
      rw [List.forall_mem_cons] at hvalues
      have hstart := hsums [] List.nil_prefix
      have hnext := hsums [value] (List.prefix_append [value] values)
      rw [List.map_nil, List.sum_nil, add_zero] at hstart
      rw [List.map_singleton, List.sum_singleton] at hnext
      rw [List.map_cons, checkedSum, bind_eq_ok]
      refine ⟨sum + f value, checkedMoveSignedU256Add_eq_ok.mpr ⟨hstart, hvalues.1, hnext, rfl⟩, ?_⟩
      rw [ih hvalues.2 fun part hpart => ?_, List.sum_cons, add_assoc]
      have hsum := hsums (value :: part) (List.cons_prefix_cons.mpr ⟨rfl, hpart⟩)
      rwa [List.map_cons, List.sum_cons, ← add_assoc] at hsum

/-- So are the two sums over an epoch's positions. -/
theorem sumPositions_of_prefixes {first : EventBase} {epoch : IndexedLpEpoch}
    {registeredWallets : OrderedMap Address Address} {positions : List IndexedLpPosition}
    {correction claims : ℤ} {c : Context}
    (hregistered : ∀ position ∈ positions, 0 < position.shares →
      registeredWallets.has position.owner = true)
    (hvalues : ∀ position ∈ positions, isMoveSignedU256 position.correction
      ∧ isMoveUnsigned position.claimed 256)
    (hsums : ∀ part, part <+: positions →
      isMoveSignedU256 (correction + (part.map fun position => position.correction).sum)
        ∧ isMoveUnsigned (claims + (part.map fun position => position.claimed).sum) 256) :
    Clean (sumPositions first epoch registeredWallets correction claims positions) c
      (correction + (positions.map fun position => position.correction).sum,
        claims + (positions.map fun position => position.claimed).sum) c := by
  induction positions generalizing correction claims with
  | nil => simp [sumPositions]
  | cons position positions ih =>
      rw [List.forall_mem_cons] at hregistered hvalues
      have hstart := hsums [] List.nil_prefix
      have hnext := hsums [position] (List.prefix_append [position] positions)
      simp only [List.map_nil, List.sum_nil, add_zero] at hstart
      simp only [List.map_cons, List.map_nil, List.sum_singleton] at hnext
      have hrest := @ih (correction + position.correction) (claims + position.claimed)
        hregistered.2 hvalues.2 fun part hpart => by
          have hsum := hsums (position :: part) (List.cons_prefix_cons.mpr ⟨rfl, hpart⟩)
          simpa only [List.map_cons, List.sum_cons, ← add_assoc] using hsum
      simp only [sumPositions, clean_bind, clean_fileIf, clean_attempt,
        checkedMoveSignedU256Add_eq_ok, checkedMoveU256Add_eq_ok, and_assoc, exists_and_left,
        exists_eq_left, exists_const, not_and, Bool.not_eq_false]
      refine ⟨hregistered.1, hstart.1, hvalues.1.1, hnext.1, hstart.2, hvalues.1.2, hnext.2, ?_⟩
      simpa only [List.map_cons, List.sum_cons, ← add_assoc] using hrest

/-- Two sums of a function are one where it is nothing outside of either. -/
theorem sum_eq_of_outside {ι : Type} [DecidableEq ι] {S T : Finset ι} {f : ι → ℤ}
    (hS : ∀ i, i ∉ S → f i = 0) (hT : ∀ i, i ∉ T → f i = 0) : ∑ i ∈ S, f i = ∑ i ∈ T, f i :=
  calc ∑ i ∈ S, f i = ∑ i ∈ S ∪ T, f i :=
        Finset.sum_subset Finset.subset_union_left fun i _ hi => hS i hi
    _ = ∑ i ∈ T, f i :=
        (Finset.sum_subset Finset.subset_union_right fun i _ hi => hT i hi).symm

/-! ## The epoch's books -/

section Epoch

variable {s : Stand} {positions : OrderedMap Address IndexedLpPosition}

/-- Every position that is there is the owner's. -/
theorem owner_of_get (howner : ∀ b, lpPositionOrEmpty b positions = s.owner b) {a : Address}
    {position : IndexedLpPosition} (h : positions.get? a = some position) :
    position = s.owner a := by
  rw [← howner, lpPositionOrEmpty, h, Option.getD_some]

/-- An owner without a position has nothing. -/
theorem owner_of_absent (howner : ∀ b, lpPositionOrEmpty b positions = s.owner b) {a : Address}
    (h : a ∉ positions.keys) : s.owner a = ⟨a, 0, 0, 0⟩ := by
  rw [← howner, lpPositionOrEmpty, OrderedMap.has_eq_false.mp]
  · rfl
  · rw [← Bool.not_eq_true, ← OrderedMap.mem_keys]
    exact h

/-- A sum over the positions is one over the ledger's holders. -/
theorem sum_owners (howner : ∀ b, lpPositionOrEmpty b positions = s.owner b)
    (hv : Valid MAGNITUDE s.epoch) {f : IndexedLpPosition → ℤ} (hf : ∀ a, f ⟨a, 0, 0, 0⟩ = 0) :
    (positions.values.map f).sum = ∑ a ∈ s.epoch.holders, f (s.owner a) := by
  rw [OrderedMap.sum_values (g := fun a => f (s.owner a))
    fun a position h => by rw [owner_of_get howner h]]
  refine sum_eq_of_outside (fun a ha => ?_) fun a ha => ?_
  · rw [owner_of_absent howner (by simpa using ha)]
    exact hf a
  · have houtside := hv.outside a ha
    rw [Stand.owner, houtside.1, hv.correction_outside ha, houtside.2.2]
    exact hf a

/-- **An epoch's books close.** -/
theorem epochBooks_lpEpoch {first : EventBase} {c : Context} (h : FitsMove s.epoch)
    (howner : ∀ b, lpPositionOrEmpty b positions = s.owner b)
    (hregistered : ∀ a, 0 < s.epoch.shares a → c.next.registeredWallets.has a = true) :
    Clean (epochBooks first (s.lpEpoch positions)) c () c := by
  have hentry : ∀ position ∈ positions.values, ∃ a, position = s.owner a := by
    intro position hposition
    obtain ⟨a, ha⟩ := OrderedMap.mem_values.mp hposition
    exact ⟨a, owner_of_get howner ha⟩
  have hshares : sumLpShares positions = s.epoch.total := by
    rw [sumLpShares, sum_owners howner h.valid fun _ => rfl, Ledger.total, Nat.cast_sum]
    rfl
  have hcorrection : (positions.values.map fun position => position.correction).sum
      = s.epoch.aggregate := by
    rw [sum_owners howner h.valid fun _ => rfl, ← s.epoch.sum_correction]
    rfl
  have hclaims : (positions.values.map fun position => position.claimed).sum
      = s.epoch.claimedSum := by
    rw [sum_owners howner h.valid fun _ => rfl, Ledger.claimedSum, Nat.cast_sum]
    rfl
  have hsums : Clean (sumPositions first (s.lpEpoch positions) c.next.registeredWallets 0 0
      positions.values) c (s.epoch.aggregate, s.epoch.claimedSum) c := by
    rw [← zero_add s.epoch.aggregate, ← zero_add (s.epoch.claimedSum : ℤ), ← hcorrection, ← hclaims]
    refine sumPositions_of_prefixes ?_ ?_ fun part hpart => ?_
    · intro position hposition hpos
      obtain ⟨a, rfl⟩ := hentry position hposition
      exact hregistered a (Int.natCast_pos.mp hpos)
    · intro position hposition
      obtain ⟨a, rfl⟩ := hentry position hposition
      exact ⟨h.correction a, h.claimed a⟩
    · obtain ⟨S, hS⟩ := OrderedMap.sum_prefix hpart
      rw [zero_add, zero_add, hS fun a position ha => by rw [owner_of_get howner ha],
        hS fun a position ha => by rw [owner_of_get howner ha]]
      exact ⟨h.correction_group S, h.claimed_group S⟩
  simp only [epochBooks, clean_bind, clean_gets, and_assoc, exists_and_left, exists_eq_left]
  refine ⟨_, c, hsums, ?_⟩
  simp only [clean_fileIf, clean_attempt, and_assoc, exists_and_left, exists_eq_left]
  refine ⟨?_, ?_, (), (), _, epochRounding_lpEpoch h _, not_not.mpr rfl, trivial⟩
  · rw [not_or, not_or, not_not, not_not, not_not]
    exact ⟨hshares, rfl, rfl⟩
  · -- The epoch is active, so that nothing is asked of a classification.
    have hretired := h.retired_le.trans_lt h.magnified
    have hnonneg : ¬ ((s.epoch.retired : ℤ) < 0) := by omega
    have hfits : ¬ (U256_MAX < (s.epoch.retired : ℤ)) := by
      unfold U256_MAX
      omega
    simp [Stand.lpEpoch, hnonneg, hfits]

end Epoch

/-! ## The core's books -/

section Core

variable {s : Stand} {p : ProtocolProjection}

namespace Follows

/-- Every position that is there is the wallet's. -/
theorem wallet_of_get (h : Follows s p) {a : Address} {position : IndexedPosition}
    (hget : p.positions.get? a = some position) : position = s.wallet a := by
  rw [← h.held, positionOrEmpty, hget, Option.getD_some]

/-- A wallet without a position has nothing. -/
theorem wallet_of_absent (h : Follows s p) {a : Address} (ha : a ∉ s.positions) :
    s.wallet a = ⟨a, 0, 0, 0, 0, 0, 0⟩ := by
  rw [← h.held, positionOrEmpty, OrderedMap.has_eq_false.mp]
  · rfl
  · rw [← Bool.not_eq_true, h.has]
    exact ha

/-- A sum over the positions, with the pool's part, is one over the ledger's
holders. -/
theorem sum_holders (h : Follows s p) (hpool : none ∈ s.core.holders)
    {f : IndexedPosition → ℤ} {g : Option Address → ℤ} (hf : ∀ a, f (s.wallet a) = g (some a))
    (hg : ∀ i, i ∉ s.core.holders → g i = 0) (hempty : ∀ a, f ⟨a, 0, 0, 0, 0, 0, 0⟩ = 0) :
    g none + (p.positions.values.map f).sum = ∑ i ∈ s.core.holders, g i := by
  have hholders : s.core.holders = s.wallets.insertNone := by
    rw [Stand.wallets, Finset.insertNone_eraseNone, Finset.insert_eq_of_mem hpool]
  rw [OrderedMap.sum_values (g := fun a => g (some a))
    fun a position hget => by rw [h.wallet_of_get hget, hf], hholders, Finset.sum_insertNone]
  congr 1
  refine sum_eq_of_outside (fun a ha => ?_) fun a ha => hg _ ?_
  · rw [← hf, h.wallet_of_absent]
    · exact hempty a
    · rw [← h.has, ← OrderedMap.mem_keys]
      simpa using ha
  · rwa [← Stand.mem_wallets]

/-- **The core's books close**, and leave the ledger's reserve behind. -/
theorem coreBooks {c : Context} (first : EventBase) (h : Follows s c.next) (hs : FitsMove s.core)
    (hpool : none ∈ s.core.holders) (hreserve : c.next.pool.trflReserve = s.core.shares none) :
    Clean (indexer.coreBooks first) c ()
      { c with next := { c.next with roundingReserve := s.core.reserve MAGNITUDE } } := by
  have hshares : sumWalletShares c.next.positions + s.core.shares none = s.core.total := by
    rw [sumWalletShares, add_comm, h.sum_holders (g := fun i => s.core.shares i) hpool
      (fun _ => rfl) (fun i hi => by rw [(hs.valid.outside i hi).1, Nat.cast_zero]) fun _ => rfl,
      Ledger.total, Nat.cast_sum]
  have hsum := h.sum_holders (f := fun position => position.correction) (g := s.core.correction)
    hpool (fun _ => rfl) (fun i hi => hs.valid.correction_outside hi) fun _ => rfl
  have hcorrection : checkedSum (text "summed core position correction") (s.core.correction none)
      (c.next.positions.values.map fun position => position.correction)
        = .ok s.core.aggregate := by
    rw [← s.core.sum_correction, ← hsum]
    refine checkedSum_of_prefixes ?_ fun part hpart => ?_
    · intro position hposition
      obtain ⟨a, ha⟩ := OrderedMap.mem_values.mp hposition
      rw [h.wallet_of_get ha]
      exact hs.correction (some a)
    · obtain ⟨S, hS⟩ := OrderedMap.sum_prefix hpart
      have hgroup := hs.correction_group S.insertNone
      rw [Finset.sum_insertNone] at hgroup
      rwa [hS fun a position ha => by rw [h.wallet_of_get ha]]
  obtain ⟨positions, hget, -, -⟩ := h.epoch
  simp only [indexer.coreBooks, clean_bind, clean_gets, clean_alertIf, clean_attempt, clean_setNext,
    and_assoc, exists_and_left, exists_eq_left, exists_const, ne_eq, not_not]
  rw [h.custody, h.eligibleSupply]
  refine ⟨hshares, _, hcorrection, h.aggregateCorrection.symm, hreserve, ?_, _,
    h.expectedCoreVaultBalance hs, _, h.coreIndexedLiability hs, _, ?_, rfl⟩
  · simp [Stand.custody, hget, Stand.lpEpoch]
  · rw [h.unallocatedFees]
    exact hs.rounding _

/-- The keys of the registrations are the wallets. -/
theorem mem_keys_registered (h : Follows s p) {a : Address} :
    a ∈ p.registeredWallets.keys ↔ a ∈ s.wallets := by
  rw [OrderedMap.mem_keys, OrderedMap.has_iff, h.registeredWallets]
  by_cases ha : a ∈ s.wallets
  · simp [ha]
  · simp [ha]

theorem size_registered (h : Follows s p) : p.registeredWallets.size = s.wallets.card := by
  rw [OrderedMap.size_eq, ← List.toFinset_card_of_nodup p.registeredWallets.nodup_keys]
  congr 1
  ext a
  rw [List.mem_toFinset, h.mem_keys_registered]

/-- A registration is at the account's primary store. -/
theorem registered_of_mem (h : Follows s p) {a store : Address}
    (hentry : (a, store) ∈ p.registeredWallets.entries) :
    a ∈ s.wallets ∧ store = .primary .trfl a := by
  have hget := OrderedMap.mem_entries.mp hentry
  rw [h.registeredWallets] at hget
  split at hget
  · next ha => exact ⟨ha, (Option.some_injective _ hget).symm⟩
  · cases hget

theorem nodup_stores (h : Follows s p) : p.registeredWallets.values.Nodup := by
  have hvalues : p.registeredWallets.values
      = p.registeredWallets.keys.map (Address.primary .trfl) := by
    unfold OrderedMap.values OrderedMap.keys
    rw [List.map_map]
    exact List.map_congr_left fun entry hentry => (h.registered_of_mem hentry).2
  rw [hvalues]
  exact p.registeredWallets.nodup_keys.map fun a b hab => by injection hab

/-- **Registrations and positions belong together.** -/
theorem registrationBooks {c : Context} (first : EventBase) (h : Follows s c.next)
    (hcount : s.wallets.card < 2 ^ 64) (hpositions : s.positions ⊆ s.wallets)
    (hadmits : ∀ a ∈ s.wallets, Admits c.next a) :
    Clean (indexer.registrationBooks first) c () c := by
  simp only [indexer.registrationBooks, clean_bind, clean_gets, clean_alertIf, and_assoc,
    exists_and_left, exists_eq_left, exists_const]
  refine ⟨?_, (clean_forEach_look (p := fun account => c.next.registeredWallets.has account = true)
    (by simp) ()).mpr ⟨fun a ha => ?_, rfl⟩⟩
  · rw [h.registeredWalletCount, h.size_registered]
    have hfits : ¬ (U64_MAX < (s.wallets.card : ℤ)) := by
      unfold U64_MAX
      omega
    rw [not_or, not_or, not_or, not_or, not_not, not_not]
    refine ⟨rfl, by omega, hfits, h.nodup_stores, ?_⟩
    rw [List.any_eq_true]
    rintro ⟨⟨a, store⟩, hentry, hbad⟩
    obtain ⟨ha, rfl⟩ := h.registered_of_mem hentry
    obtain ⟨hzero, haccount, hstore⟩ := hadmits a ha
    have hprimary : Address.primary .trfl a ≠ .zero := by simp [Address.zero]
    simp [hzero, hprimary, haccount, hstore] at hbad
  · rw [← OrderedMap.mem_keys, h.mem_keys_registered]
    exact hpositions ((h.has a).mp (OrderedMap.mem_keys.mp ha))

end Follows

end Core

/-! ## Widths -/

section Widths

variable {s : Stand} {p : ProtocolProjection}

theorem wallet_quantities (hs : s.Sound) (a : Address) :
    ∀ q ∈ (s.wallet a).quantities a, q.Fits := by
  have hc := hs.core_fits
  have hraw := (hs.shares_le (some a)).trans_lt (show TOTAL_SUPPLY < 2 ^ 64 by decide)
  have hclaimed := isMoveUnsigned_natCast.mp (hc.claimed (some a))
  have hclaims := (hs.claims a).trans_lt hclaimed
  simp only [IndexedPosition.quantities, Stand.wallet, List.forall_mem_cons, unsigned_fits]
  exact ⟨hraw, hs.usd a, hc.correction (some a), hclaimed, hclaims, hclaimed, by simp⟩

theorem owner_quantities (hs : s.Sound) (a : Address) :
    ∀ q ∈ (s.owner a).quantities a, q.Fits := by
  have he := hs.epoch_fits
  have hshares := ((he.shares_le a).trans hs.lpTotal).trans_lt (show 2 ^ 57 < 2 ^ 128 by norm_num)
  simp only [IndexedLpPosition.quantities, Stand.owner, List.forall_mem_cons, unsigned_fits]
  exact ⟨hshares, he.correction a, isMoveUnsigned_natCast.mp (he.claimed a), by simp⟩

theorem lpEpoch_quantities {positions : OrderedMap Address IndexedLpPosition} (hs : s.Sound)
    (howner : ∀ b, lpPositionOrEmpty b positions = s.owner b) :
    ∀ q ∈ (s.lpEpoch positions).quantities 1, q.Fits := by
  have he := hs.epoch_fits
  have hreceived := hs.lpReceived
  have htotal := hs.lpTotal
  have hremainder := hs.lpRemainder
  have hunallocated := he.unallocated_le
  have hreserve := he.reserve_le
  have hone : ∀ label : Text, (⟨1, .unsigned 64, label⟩ : Quantity).Fits := fun _ => by
    show isMoveUnsigned 1 64
    decide
  simp only [IndexedLpEpoch.quantities, Stand.lpEpoch, List.forall_mem_append,
    List.forall_mem_cons, unsigned_fits, List.mem_flatMap, List.not_mem_nil, false_implies,
    implies_true, and_true]
  refine ⟨⟨⟨hone _, hone _, he.index.trans (by norm_num), by omega, by omega, he.aggregate,
    by omega, by omega, he.retired_le.trans_lt (he.magnified.trans (by norm_num))⟩, by omega,
    he.claimedSum_le.trans_lt (by omega)⟩, ?_⟩
  rintro q ⟨⟨a, position⟩, hentry, hq⟩
  rw [owner_of_get howner (OrderedMap.mem_entries.mp hentry)] at hq
  exact owner_quantities hs a q hq

/-- **Every number of a projection that follows a sound stand is one of Move's**,
if those are that no event moves. -/
theorem Follows.fits (h : Follows s p) (hs : s.Sound) (hstill : ∀ q ∈ p.still.quantities, q.Fits)
    (hround : isMoveUnsigned p.roundingReserve 128) : ∀ q ∈ p.quantities, q.Fits := by
  have hc := hs.core_fits
  have htotal := hs.total.trans_lt (show TOTAL_SUPPLY < 2 ^ 64 by decide)
  have hpool := (hs.shares_le none).trans_lt (show TOTAL_SUPPLY < 2 ^ 64 by decide)
  have hreceived := hs.received
  have hremainder := hs.remainder.trans_lt (show TOTAL_SUPPLY < 2 ^ 64 by decide)
  have hunallocated := hc.unallocated_le
  have hclaimedSum := hc.claimedSum_le
  have hrouted := hc.claimed_le_sum none
  have hindex := hs.index
  have hcount := hs.count
  have hmaterialized : isMoveUnsigned p.lifetimeMaterialized 256 := by
    rw [h.materialized_eq]
    unfold isMoveUnsigned
    omega
  have hone : ∀ label : String, ∀ q ∈ optional (some 1) 64 label, q.Fits := by
    intro label q hq
    obtain rfl := List.mem_singleton.mp hq
    show isMoveUnsigned 1 64
    decide
  obtain ⟨positions, hentries, howner⟩ := h.lpEpochs
  simp only [ProtocolProjection.quantities, List.forall_mem_append, List.forall_mem_cons,
    ProtocolProjection.still] at hstill ⊢
  obtain ⟨⟨⟨⟨⟨⟨⟨⟨⟨hslots, hremaining, -, hfee, -, -, -, -, -, -, -, -, -, -, -, htrflGrant,
    htusdGrant, hcooldown, htrfl, htusd, hamm, hgross, hbps, hrflIn, husdIn, hwithdrawal, hnil⟩, -⟩,
    -⟩, -⟩, -⟩, -⟩, -⟩, hvaults⟩, hstates⟩ := hstill
  rw [h.registeredWalletCount, h.currentIndex, h.indexRemainder, h.eligibleSupply,
    h.aggregateCorrection, h.unallocatedFees, h.rewardVaultCredits, h.rewardVaultPayouts,
    h.lifetimeSwapFees, h.lifetimeCustodyRouted, h.custody, h.activeLpEpoch, hentries]
  simp only [fits_unsigned]
  refine ⟨⟨⟨⟨⟨⟨⟨⟨⟨hslots, hremaining, hcount, hfee, by omega, by omega, by omega, hc.aggregate,
    by omega, hround, by omega, by omega, by omega, hmaterialized, by omega, htrflGrant, htusdGrant,
    hcooldown, htrfl, htusd, hamm, hgross, hbps, hrflIn, husdIn, hwithdrawal, hnil⟩, hone _⟩,
    hone _⟩, ?_⟩, hone _⟩, ?_⟩, ?_⟩, hvaults⟩, hstates⟩
  · exact ⟨fits_unsigned.mpr (hpool.trans (by norm_num)), hc.correction none, hc.claimed none,
      hc.claimed none, hnil⟩
  · intro q hq
    obtain ⟨⟨a, position⟩, hentry, hq⟩ := List.mem_flatMap.mp hq
    rw [h.wallet_of_get (OrderedMap.mem_entries.mp hentry)] at hq
    exact wallet_quantities hs a q hq
  · intro q hq
    rw [List.flatMap_singleton] at hq
    exact lpEpoch_quantities hs howner q hq

/-- What is carried besides the books fits where everything does. -/
theorem still_quantities (h : ∀ q ∈ p.quantities, q.Fits) : ∀ q ∈ p.still.quantities, q.Fits := by
  have hzero : ∀ (bits : ℕ) (label : String), (unsigned 0 bits label).Fits := fun bits label => by
    have hfits : (unsigned (0 : ℕ) bits label).Fits := fits_unsigned.mpr (by positivity)
    exact_mod_cast hfits
  have hsigned : ∀ label : String, (signed 0 label).Fits := fun label => by
    show isMoveSignedU256 0
    decide
  simp only [ProtocolProjection.quantities, List.forall_mem_append, List.forall_mem_cons] at h
  obtain ⟨⟨⟨⟨⟨⟨⟨⟨⟨hslots, hremaining, -, hfee, -, -, -, -, -, -, -, -, -, -, -, htrflGrant,
    htusdGrant, hcooldown, htrfl, htusd, hamm, hgross, hbps, hrflIn, husdIn, hwithdrawal, hnil⟩, -⟩,
    -⟩, -⟩, -⟩, -⟩, -⟩, hvaults⟩, hstates⟩ := h
  simp only [ProtocolProjection.quantities, List.forall_mem_append, List.forall_mem_cons,
    ProtocolProjection.still]
  exact ⟨⟨⟨⟨⟨⟨⟨⟨⟨hslots, hremaining, hzero _ _, hfee, hzero _ _, hzero _ _, hzero _ _, hsigned _,
    hzero _ _, hzero _ _, hzero _ _, hzero _ _, hzero _ _, hzero _ _, hzero _ _, htrflGrant,
    htusdGrant, hcooldown, htrfl, htusd, hamm, hgross, hbps, hrflIn, husdIn, hwithdrawal, hnil⟩,
    by simp [optional]⟩, by simp [optional]⟩, hzero _ _, hsigned _, hzero _ _, hzero _ _, hnil⟩,
    by simp [optional]⟩, fun _ hq => absurd hq List.not_mem_nil⟩,
    fun _ hq => absurd hq List.not_mem_nil⟩, hvaults⟩, hstates⟩

end Widths

/-! ## The closing checks -/

/-- What a replay has to have come to when its group ends. -/
structure Closable (s : Stand) (events : List ProtocolEvent) (c : Context) : Prop where
  sound : s.Sound
  positions : s.positions ⊆ s.wallets
  owners : ∀ a, 0 < s.epoch.shares a → a ∈ s.wallets
  admits : ∀ a ∈ s.wallets, Admits c.next a
  reserve : c.next.pool.trflReserve = s.core.shares none
  fees : c.pendingCoreFees = []
  routes : ∀ route ∈ select EventBody.route events, route.1.id ∈ c.consumedRoutes
  liquidity : Clean (liquidityShares events) c () c
  still : ∀ q ∈ c.next.still.quantities, q.Fits
  seen : ∀ cursor ∈ c.next.seenEventIds.values, cursor.Admissible

namespace Closable

variable {s : Stand} {events : List ProtocolEvent} {c : Context}

/-- The projection that a group ends in passes its own check. -/
theorem domains (h : Closable s events c) (hf : Follows s c.next) : assertProjectionMoveDomains
    { c.next with roundingReserve := s.core.reserve MAGNITUDE } = .ok () := by
  have hround : isMoveUnsigned (s.core.reserve MAGNITUDE : ℕ) 128 := by
    have hle := h.sound.core_fits.reserve_le
    have hreceived := h.sound.received
    exact isMoveUnsigned_natCast.mpr (by omega)
  have hclosed : Follows s
      { c.next with roundingReserve := s.core.reserve MAGNITUDE } := { hf with }
  exact assertProjectionMoveDomains_eq_ok.mpr ⟨hclosed.fits h.sound h.still hround, h.seen⟩

/-- **The closing checks pass**, and leave the ledger's reserve behind. -/
theorem closes (first : EventBase) (h : Closable s events c) (hf : Follows s c.next) :
    Clean (closingChecks first events) c ()
      { c with next := { c.next with roundingReserve := s.core.reserve MAGNITUDE } } := by
  obtain ⟨positions, hentries, howner⟩ := hf.lpEpochs
  have hsettled : Clean settleFees c () c := by
    have hsum : c.next.unallocatedFees
        + (c.pendingCoreFees.map fun receipt => receipt.event.feeAmount).sum
          = c.next.unallocatedFees := by
      rw [h.fees, List.map_nil, List.sum_nil, add_zero]
    rw [clean_settleFees, hsum]
    exact ⟨by simp [h.fees], rfl⟩
  have hroutes := (clean_unconsumedRoutes (u := ())).mpr ⟨h.routes, rfl⟩
  have hregistration := hf.registrationBooks first h.sound.count h.positions h.admits
  have hbooks := hf.coreBooks first h.sound.core_fits h.sound.pool h.reserve
  have hepochs : Clean (forEach c.next.lpEpochs.values (epochBooks first))
      { c with next := { c.next with roundingReserve := s.core.reserve MAGNITUDE } } ()
      { c with next := { c.next with roundingReserve := s.core.reserve MAGNITUDE } } := by
    rw [OrderedMap.values, hentries, List.map_singleton, clean_forEach_cons]
    refine ⟨_, epochBooks_lpEpoch h.sound.epoch_fits howner fun a ha => ?_, by simp⟩
    rw [← OrderedMap.mem_keys]
    exact hf.mem_keys_registered.mpr (h.owners a ha)
  simp only [closingChecks, clean_bind, clean_gets, clean_attempt, and_assoc, exists_and_left,
    exists_eq_left]
  exact ⟨_, _, hsettled, _, _, hroutes, _, _, h.liquidity, _, _, hregistration, _, _, hbooks, _, _,
    hepochs, h.domains hf, rfl⟩

end Closable

end indexer

end CedraReflect
