/-
Every system has a mirror.

What [`Mirrored`] asks of a projection can be had of any steady system whose tUSD
is with accounts that have a position: the projection that writes down where the
system stands ([`Stand.image`]) is its mirror ([`exists_mirrored`]). A replay that
starts from a snapshot starts there.
-/
import CedraReflect.MirrorWorlds

set_option autoImplicit false
set_option linter.constructorNameAsVariable false

namespace CedraReflect

open Dividend (Ledger Valid)
open reflection_math (MAGNITUDE)
open reflection_token (TOTAL_SUPPLY MAX_FEE_BPS)

/-! ## A function on finitely many keys, written down -/

namespace OrderedMap

variable {κ ν : Type}

/-- The keys of `S` in some order, each with its value. -/
noncomputable def tabulate (S : Finset κ) (f : κ → ν) : OrderedMap κ ν where
  entries := S.toList.map fun k => (k, f k)
  nodup := by
    rw [List.map_map]
    exact (List.map_id' S.toList).symm ▸ S.nodup_toList

variable [DecidableEq κ] {S : Finset κ} {f : κ → ν} {k : κ}

theorem get?_tabulate : (tabulate S f).get? k = if k ∈ S then some (f k) else none := by
  have hmem : ∀ v, (tabulate S f).get? k = some v ↔ k ∈ S ∧ v = f k := by
    intro v
    rw [← mem_entries, tabulate, List.mem_map]
    constructor
    · rintro ⟨k', hk', heq⟩
      obtain ⟨rfl, rfl⟩ := Prod.mk.inj heq
      exact ⟨Finset.mem_toList.mp hk', rfl⟩
    · rintro ⟨hk, rfl⟩
      exact ⟨k, Finset.mem_toList.mpr hk, rfl⟩
  split
  · next hk => exact (hmem _).mpr ⟨hk, rfl⟩
  · next hk =>
      rw [Option.eq_none_iff_forall_ne_some]
      intro v hv
      exact hk ((hmem v).mp hv).1

theorem has_tabulate : (tabulate S f).has k = true ↔ k ∈ S := by
  rw [has_iff, get?_tabulate]
  split
  · next hk => simp [hk]
  · next hk => simp [hk]

end OrderedMap

/-! ## The image of a stand -/

open indexer

/-- The projection that writes a stand down, of a deployment with the fee and the
reserves given. -/
noncomputable def Stand.image (s : Stand) (fee_bps usd : ℕ) : ProtocolProjection :=
  { createEmptyProjection with
    registeredWallets := .tabulate s.wallets (.primary .trfl)
    registeredWalletCount := s.wallets.card
    feeBps := fee_bps
    currentIndex := s.core.index
    indexRemainder := s.core.remainder
    eligibleSupply := s.core.total
    aggregateCorrection := s.core.aggregate
    unallocatedFees := s.core.unallocated
    rewardVaultCredits := s.core.received
    rewardVaultPayouts := s.core.claimedSum
    lifetimeSwapFees := s.core.received
    lifetimeMaterialized := s.core.claimedSum - s.core.claimed none
    lifetimeCustodyRouted := s.core.claimed none
    packageVersion := "testnet-v0.2.0"
    pool :=
      { createEmptyProjection.pool with trflReserve := s.core.shares none, tusdReserve := usd }
    custody := s.custody
    activeLpEpoch := some 1
    lpEpochs := (∅ : OrderedMap ℤ IndexedLpEpoch).set 1
      (s.lpEpoch (.tabulate s.epoch.holders s.owner))
    positions := .tabulate s.positions s.wallet }

namespace indexer

/-- What writes a stand down follows it, if whoever has something has a position. -/
theorem Follows.image {s : Stand} (hv : Valid MAGNITUDE s.epoch) (fee_bps usd : ℕ)
    (hempty : ∀ a, a ∉ s.positions → s.wallet a = ⟨a, 0, 0, 0, 0, 0, 0⟩) :
    Follows s (s.image fee_bps usd) where
  registeredWallets a := OrderedMap.get?_tabulate
  registeredWalletCount := rfl
  currentIndex := rfl
  indexRemainder := rfl
  eligibleSupply := rfl
  aggregateCorrection := rfl
  unallocatedFees := rfl
  rewardVaultCredits := rfl
  rewardVaultPayouts := rfl
  lifetimeSwapFees := rfl
  lifetimeMaterialized := by
    show (s.core.claimedSum : ℤ) - s.core.claimed none + s.core.claimed none = s.core.claimedSum
    ring
  lifetimeCustodyRouted := rfl
  custody := rfl
  activeLpEpoch := rfl
  lpEpochs := by
    refine ⟨_, rfl, fun a => ?_⟩
    rw [lpPositionOrEmpty, OrderedMap.get?_tabulate]
    split
    · rfl
    · next ha =>
        obtain ⟨hshares, haccrued, hclaimed⟩ := hv.outside a ha
        simp [Stand.owner, Ledger.correction, hshares, haccrued, hclaimed]
  held a := by
    show positionOrEmpty a (.tabulate s.positions s.wallet) = s.wallet a
    rw [positionOrEmpty, OrderedMap.get?_tabulate]
    split
    · rfl
    · next ha => rw [hempty a ha, Option.getD_none]
  has a := OrderedMap.has_tabulate

/-- **Every steady system has a mirror**, if its tUSD is with accounts that have a
position. -/
theorem exists_mirrored {e : LpEpoch} {w : World} (hs : Steady e w) (hnamed : .zero ∉ w.wallets)
    (howners : ∀ a, 0 < (e.position a).shares → a ∈ w.wallets) (husd : w.usd < 2 ^ 64)
    (hcash : ∀ a, a ∉ w.reflection.positions → w.cash a = 0) :
    ∃ p, Mirrored e w p ∧ p.seenEventIds = ∅ := by
  have hd := hs.launched.deployed
  have hsound : (w.stand e w.cash fun _ => 0).Sound := hs.sound fun _ => Nat.zero_le _
  have hempty : ∀ a, a ∉ (w.stand e w.cash fun _ => 0).positions →
      (w.stand e w.cash fun _ => 0).wallet a = ⟨a, 0, 0, 0, 0, 0, 0⟩ := by
    intro a ha
    have hnone : a ∉ w.reflection.positions := fun hmem => ha (Finmap.mem_keys.mpr hmem)
    have hraw : w.raw a = 0 := by
      by_contra hne
      exact hnone (hd.core.membership.funded a hne)
    have hposition : w.position a = ⟨reflection_math.zero, 0⟩ := by
      rw [World.position, Finmap.lookup_eq_none.mpr hnone, Option.getD_none]
    simp [Stand.wallet, Ledger.correction, World.stand, World.coreLedger, hraw, hposition,
      hcash a hnone]
  have hf := Follows.image hsound.epoch w.reflection.fee_bps w.usd hempty
  have hfee := hd.fee
  have hreserve := hd.custody_lt
  refine ⟨_, ⟨⟨fun _ => 0, fun _ => Nat.zero_le _, hf, ?_⟩, ?_, hnamed, howners⟩, rfl⟩
  · refine assertProjectionMoveDomains_eq_ok.mpr ⟨hf.fits hsound ?_ ?_, ?_⟩
    · simp only [ProtocolProjection.quantities, ProtocolProjection.still, Stand.image,
        createEmptyProjection, List.forall_mem_append, List.forall_mem_cons]
      have hfits : ∀ (z : ℤ) (bits : ℕ) (label : String),
          (unsigned z bits label).Fits ↔ isMoveUnsigned z bits := fun _ _ _ => Iff.rfl
      have hsigned : ∀ label : String, (signed 0 label).Fits := fun label => by
        show isMoveSignedU256 0
        decide
      have hnone : ∀ (label : String), ∀ q ∈ optional none 64 label, q.Fits := by simp [optional]
      unfold MAX_FEE_BPS at hfee
      have hnil : ∀ q : Quantity, q ∈ ([] : List Quantity) → q.Fits := fun q hq =>
        absurd hq List.not_mem_nil
      refine ⟨⟨⟨⟨⟨⟨⟨⟨?_, hnone _⟩, hnone _⟩, ?_⟩, hnone _⟩, hnil⟩, hnil⟩, hnil⟩, hnil⟩
      · simp [hfits, hsigned, isMoveUnsigned, BPS_DENOMINATOR]
        omega
      · simp [hfits, hsigned, isMoveUnsigned]
    · show isMoveUnsigned 0 128
      decide
    · intro cursor hcursor
      cases hcursor
  · constructor
    · rfl
    · rfl
    · rfl
    · rfl
    · rfl
    · rfl
    · rfl
    · intro a ha _
      exact ⟨ha, rfl, List.not_mem_nil⟩

end indexer

end CedraReflect
