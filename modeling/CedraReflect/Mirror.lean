/-
The chain and the indexer, side by side.

The contracts keep their books in resources, the indexer in a projection that it
replays from events. [`Stand`] is what the two have in common: the core's and
the epoch's dividend ledgers, the accounts with a position, the wallets' tUSD
and what each wallet claimed by itself. A world stands at [`World.stand`], and
[`Follows`] says that a projection stands there too, each of its numbers being
the ledger's.

The projection stores one correction per holder and their sum where the ledger
has accumulators, so that every number it keeps is one that `Corrections` names.
-/
import CedraReflect.Corrections
import CedraReflect.CoreLedger
import CedraReflect.EpochSteps
import CedraReflect.LpLedger

set_option autoImplicit false
set_option linter.constructorNameAsVariable false

namespace CedraReflect

open Dividend (Ledger Act Valid Weighs)
open reflection_math (MAGNITUDE MAGNITUDE_pos)
open reflection_token (TOTAL_SUPPLY)

/-! ## Where the system stands -/

/-- What the contracts and the indexer both account for. -/
@[ext] structure Stand where
  core : Ledger (Option Address)
  epoch : Ledger Address
  positions : Finset Address
  usd : Address → ℕ
  claims : Address → ℕ

namespace Stand

variable (s : Stand) (a : Address) (n : ℕ)

def wallets : Finset Address := s.core.holders.eraseNone

@[simp] theorem mem_wallets : a ∈ s.wallets ↔ some a ∈ s.core.holders := Finset.mem_eraseNone

/-! ### What an event does -/

/-- An event of the core's ledger. -/
@[simps] def act (x : Act (Option Address)) : Stand := { s with core := x.apply MAGNITUDE s.core }

/-- An event of the epoch's ledger. -/
@[simps] def lpAct (x : Act Address) : Stand := { s with epoch := x.apply MAGNITUDE s.epoch }

/-- An account gets a position. -/
@[simps] def opened : Stand := { s with positions := insert a s.positions }

/-- A wallet gets tUSD. -/
@[simps] def usdGiven : Stand := { s with usd := Function.update s.usd a (s.usd a + n) }

/-- A wallet gives tUSD away. -/
@[simps] def usdTaken : Stand := { s with usd := Function.update s.usd a (s.usd a - n) }

/-- A wallet claims by itself. -/
@[simps] def claimed : Stand := { s with claims := Function.update s.claims a (s.claims a + n) }

/-- A wallet gets what it earned, and has it as shares from then on. -/
def materialized : Stand := (s.act (.pay (some a) n)).act (.give (some a) n)

/-! ### What the indexer writes down -/

/-- A wallet's position. -/
def wallet : indexer.IndexedPosition where
  account := a
  rawTrfl := s.core.shares (some a)
  rawTusd := s.usd a
  correction := s.core.correction (some a)
  claimed := s.core.claimed (some a)
  lifetimeClaimed := s.claims a
  lifetimeMaterialized := s.core.claimed (some a)

/-- The pool's position. -/
def custody : indexer.IndexedCustodyPosition where
  adapterId := some 1
  reserveStore := some .rfl_reserve
  activeRouteEpoch := some 1
  activeLpRewardVault := some .lp_reward_vault
  shares := s.core.shares none
  correction := s.core.correction none
  claimed := s.core.claimed none
  lifetimeRouted := s.core.claimed none

/-- An owner's position in the epoch. -/
def owner : indexer.IndexedLpPosition where
  owner := a
  shares := s.epoch.shares a
  correction := s.epoch.correction a
  claimed := s.epoch.claimed a

/-- The epoch, over positions given. -/
def lpEpoch (positions : OrderedMap Address indexer.IndexedLpPosition) :
    indexer.IndexedLpEpoch where
  epoch := 1
  stateId := .lp_epoch_state
  status := .active
  rewardVault := .lp_reward_vault
  index := s.epoch.index
  indexRemainder := s.epoch.remainder
  totalShares := s.epoch.total
  aggregateCorrection := s.epoch.aggregate
  unallocatedRewards := s.epoch.unallocated
  roundingReserve := s.epoch.reserve MAGNITUDE
  retiredResidueMagnified := s.epoch.retired
  terminalRoundingBaseUnits := none
  lifetimeReceived := s.epoch.received
  lifetimeClaimed := s.epoch.claimedSum
  quarantined := false
  positions

end Stand

namespace World

variable (w : World) (e : LpEpoch) (usd claims : Address → ℕ)

/-- The wallets' tUSD. -/
def cash (a : Address) : ℕ := w.balance (.primary .tusd a)

/-- Where a world stands, of whose wallets each has the tUSD that is given, and
claimed by itself what is given. A replay settles the tUSD of a swap last. -/
@[simps] def stand : Stand where
  core := w.coreLedger
  epoch := e.ledger
  positions := w.reflection.positions.keys
  usd
  claims

@[simp] theorem wallets_stand : (w.stand e usd claims).wallets = w.wallets := by
  show w.wallets.insertNone.eraseNone = w.wallets
  rw [Finset.eraseNone_insertNone]

end World

/-! ## Widths -/

/-- The ledgers are legitimate, and what they hold is as narrow as what fewer
than `2 ^ 64` swaps can have made it. -/
structure Stand.Sound (s : Stand) : Prop where
  core : Valid MAGNITUDE s.core
  epoch : Valid MAGNITUDE s.epoch
  pool : none ∈ s.core.holders
  total : s.core.total ≤ TOTAL_SUPPLY
  index : s.core.index ≤ 2 ^ 138
  remainder : s.core.remainder ≤ TOTAL_SUPPLY
  received : s.core.received ≤ 2 ^ 114
  lpTotal : s.epoch.total ≤ 2 ^ 57
  lpIndex : s.epoch.index ≤ 2 ^ 195
  lpRemainder : s.epoch.remainder ≤ 2 ^ 57
  lpReceived : s.epoch.received ≤ 2 ^ 114
  usd : ∀ a, s.usd a < 2 ^ 64
  claims : ∀ a, s.claims a ≤ s.core.claimed (some a)
  count : s.wallets.card < 2 ^ 64

namespace indexer

/-! ## Following -/

/-- A projection stands at `s`. -/
structure Follows (s : Stand) (p : ProtocolProjection) : Prop where
  registeredWallets : ∀ a, p.registeredWallets.get? a
    = if a ∈ s.wallets then some (.primary .trfl a) else none
  registeredWalletCount : p.registeredWalletCount = s.wallets.card
  currentIndex : p.currentIndex = s.core.index
  indexRemainder : p.indexRemainder = s.core.remainder
  eligibleSupply : p.eligibleSupply = s.core.total
  aggregateCorrection : p.aggregateCorrection = s.core.aggregate
  unallocatedFees : p.unallocatedFees = s.core.unallocated
  rewardVaultCredits : p.rewardVaultCredits = s.core.received
  rewardVaultPayouts : p.rewardVaultPayouts = s.core.claimedSum
  lifetimeSwapFees : p.lifetimeSwapFees = s.core.received
  lifetimeMaterialized : p.lifetimeMaterialized + s.core.claimed none = s.core.claimedSum
  lifetimeCustodyRouted : p.lifetimeCustodyRouted = s.core.claimed none
  custody : p.custody = s.custody
  activeLpEpoch : p.activeLpEpoch = some 1
  lpEpochs : ∃ positions, p.lpEpochs.entries = [(1, s.lpEpoch positions)]
    ∧ ∀ a, lpPositionOrEmpty a positions = s.owner a
  held : ∀ a, positionOrEmpty a p.positions = s.wallet a
  has : ∀ a, p.positions.has a = true ↔ a ∈ s.positions

/-- What no event of a launched system's books moves. -/
def ProtocolProjection.still (p : ProtocolProjection) : ProtocolProjection :=
  { p with
    registeredWallets := ∅
    registeredWalletCount := 0
    currentIndex := 0
    indexRemainder := 0
    eligibleSupply := 0
    aggregateCorrection := 0
    unallocatedFees := 0
    roundingReserve := 0
    rewardVaultCredits := 0
    rewardVaultPayouts := 0
    lifetimeSwapFees := 0
    lifetimeMaterialized := 0
    lifetimeCustodyRouted := 0
    custody := ⟨none, none, none, none, 0, 0, 0, 0⟩
    activeLpEpoch := none
    lpEpochs := ∅
    positions := ∅ }

/-! ## Wallets -/

namespace Follows

variable {s : Stand} {p : ProtocolProjection} {a : Address} {n : ℕ}

/-- A position that is written at `a`, where every other one stays. -/
theorem held_set {s' : Stand} (h : Follows s p) {position : IndexedPosition}
    (hsame : ∀ b, b ≠ a → s'.wallet b = s.wallet b) (hposition : position = s'.wallet a)
    (b : Address) : positionOrEmpty b (p.positions.set a position) = s'.wallet b := by
  rw [positionOrEmpty_set]
  by_cases hb : b = a
  · rw [if_pos hb, hb, hposition]
  · rw [if_neg hb, h.held, hsame b hb]

theorem has_set (h : Follows s p) (ha : a ∈ s.positions) (position : IndexedPosition)
    (b : Address) : (p.positions.set a position).has b = true ↔ b ∈ s.positions := by
  rw [OrderedMap.has_set, Bool.or_eq_true, decide_eq_true_eq, h.has]
  constructor
  · rintro (rfl | hb)
    · exact ha
    · exact hb
  · exact Or.inr

/-- Shares come to a wallet, or go. -/
theorem moved {L : Ledger (Option Address)} {delta : ℤ} (h : Follows s p)
    (hw : Weighs s.core L (some a) delta) (ha : a ∈ s.positions) :
    Follows { s with core := L } (p.moved a .trfl delta) := by
  have hpool := hw.other none (by simp)
  refine
    { h with
      registeredWallets := fun b => ?_
      registeredWalletCount := ?_
      currentIndex := ?_
      indexRemainder := ?_
      eligibleSupply := ?_
      aggregateCorrection := ?_
      unallocatedFees := ?_
      rewardVaultCredits := ?_
      rewardVaultPayouts := ?_
      lifetimeSwapFees := ?_
      lifetimeMaterialized := ?_
      lifetimeCustodyRouted := ?_
      custody := ?_
      held := h.held_set (fun b hb => ?_) ?_
      has := h.has_set ha _ }
  · simpa [Stand.wallets, hw.holders] using h.registeredWallets b
  · simpa [Stand.wallets, hw.holders] using h.registeredWalletCount
  · simpa [hw.index] using h.currentIndex
  · simpa [hw.remainder] using h.indexRemainder
  · simpa [hw.total] using h.eligibleSupply
  · simp [hw.aggregate, h.aggregateCorrection, h.currentIndex]
  · simpa [hw.unallocated] using h.unallocatedFees
  · simpa [hw.received] using h.rewardVaultCredits
  · simpa [hw.claimedSum] using h.rewardVaultPayouts
  · simpa [hw.received] using h.lifetimeSwapFees
  · simpa [hw.claimedSum, hw.claimed] using h.lifetimeMaterialized
  · simpa [hw.claimed] using h.lifetimeCustodyRouted
  · simpa [Stand.custody, hpool.1, hpool.2, hw.claimed] using h.custody
  · have hb := hw.other (some b) (by simpa using hb)
    simp [Stand.wallet, hb.1, hb.2, hw.claimed]
  · simp [h.held, h.currentIndex, IndexedPosition.moved, Stand.wallet, hw.shares, hw.correction,
      hw.claimed]

/-- A wallet is registered. -/
theorem enrolled (h : Follows s p) (hv : Valid MAGNITUDE s.core) (ha : a ∉ s.wallets) :
    Follows (s.act (.enroll (some a)))
      { p with
        registeredWallets := p.registeredWallets.set a (.primary .trfl a)
        registeredWalletCount := p.registeredWalletCount + 1 } := by
  have hen : (Act.enroll (some a)).Enabled MAGNITUDE s.core := trivial
  have htotal := hen.total_apply hv
  have haggregate := hen.aggregate_apply hv
  have hclaimed := hen.claimedSum_apply hv
  have hwallets : (s.act (.enroll (some a))).wallets = insert a s.wallets := by
    ext b
    simp [Act.apply]
  simp only [Act.weight, Act.shiftSum, Act.paid, add_zero] at htotal haggregate hclaimed
  refine
    { h with
      registeredWallets := fun b => ?_
      registeredWalletCount := ?_
      eligibleSupply := ?_
      aggregateCorrection := ?_
      rewardVaultPayouts := ?_
      lifetimeMaterialized := ?_ }
  · simp only [OrderedMap.get?_set, hwallets, Finset.mem_insert]
    by_cases hb : b = a
    · simp [hb]
    · simpa [hb] using h.registeredWallets b
  · rw [hwallets, Finset.card_insert_of_notMem ha, h.registeredWalletCount]
    push_cast
    rfl
  · rw [h.eligibleSupply, ← htotal, Stand.act_core]
  · rw [h.aggregateCorrection, ← haggregate, Stand.act_core]
  · rw [h.rewardVaultPayouts, ← hclaimed, Stand.act_core]
  · rw [Stand.act_core, hclaimed]
    exact h.lifetimeMaterialized

/-- A wallet is paid what it earned. -/
theorem walletPaid (h : Follows s p) (hv : Valid MAGNITUDE s.core)
    (hen : (Act.pay (some a) n).Enabled MAGNITUDE s.core) (ha : a ∈ s.positions) :
    Follows (s.act (.pay (some a) n))
      { p with
        positions := p.positions.set a
          { positionOrEmpty a p.positions with
            claimed := (positionOrEmpty a p.positions).claimed + n
            lifetimeMaterialized := (positionOrEmpty a p.positions).lifetimeMaterialized + n }
        rewardVaultPayouts := p.rewardVaultPayouts + n
        lifetimeMaterialized := p.lifetimeMaterialized + n } := by
  have hclaimed := hen.claimedSum_apply hv
  simp only [Act.paid] at hclaimed
  refine
    { h with
      rewardVaultPayouts := ?_
      lifetimeMaterialized := ?_
      held := h.held_set (fun b hb => ?_) ?_
      has := h.has_set ha _ }
  · rw [h.rewardVaultPayouts, Stand.act_core, hclaimed]
    push_cast
    rfl
  · rw [Stand.act_core, hclaimed]
    have hlifetime := h.lifetimeMaterialized
    simp only [Act.apply, Function.update_of_ne (show (none : Option Address) ≠ some a by simp)]
    push_cast
    linarith
  · have hne : (some b : Option Address) ≠ some a := by simpa using hb
    simp [Stand.wallet, Act.apply, hne, Ledger.correction]
  · rw [h.held]
    simp [Stand.wallet, Act.apply, Ledger.correction]

/-- A wallet is paid what it earned, and has it as shares from then on. -/
theorem materialized (h : Follows s p) (hv : Valid MAGNITUDE s.core)
    (hen : (Act.pay (some a) n).Enabled MAGNITUDE s.core) (ha : a ∈ s.positions) :
    Follows (s.materialized a n) (p.materialized a n) := by
  have hgive : (Act.give (some a) n).Enabled MAGNITUDE (s.act (.pay (some a) n)).core := hen.1
  have hmoved := (h.walletPaid hv hen ha).moved (Weighs.give (hen.valid hv) hgive) ha
  have heq : ∀ paid : ProtocolProjection, paid = { p with
        positions := p.positions.set a
          { positionOrEmpty a p.positions with
            claimed := (positionOrEmpty a p.positions).claimed + n
            lifetimeMaterialized := (positionOrEmpty a p.positions).lifetimeMaterialized + n }
        rewardVaultPayouts := p.rewardVaultPayouts + n
        lifetimeMaterialized := p.lifetimeMaterialized + n } →
      paid.moved a .trfl n = p.materialized a n := by
    rintro _ rfl
    simp [ProtocolProjection.materialized, ProtocolProjection.moved, IndexedPosition.materialized,
      IndexedPosition.moved]
  rw [heq _ rfl] at hmoved
  exact hmoved

/-- A wallet gets tUSD, or gives it away. -/
theorem movedUsd {s' : Stand} {delta : ℤ} (h : Follows s p) (ha : a ∈ s.positions)
    (hs : (s' = s.usdGiven a n ∧ delta = n)
      ∨ (s' = s.usdTaken a n ∧ delta = -n ∧ n ≤ s.usd a)) :
    Follows s' (p.moved a .tusd delta) := by
  have husd : (∀ b, b ≠ a → s'.usd b = s.usd b) ∧ (s'.usd a : ℤ) = s.usd a + delta := by
    rcases hs with ⟨rfl, rfl⟩ | ⟨rfl, rfl, hn⟩
    · refine ⟨fun b hb => by simp [hb], by simp⟩
    · refine ⟨fun b hb => by simp [hb], ?_⟩
      simp only [Stand.usdTaken_usd, Function.update_self]
      omega
  obtain ⟨hcore, hepoch, hpositions, hclaims⟩ : s'.core = s.core ∧ s'.epoch = s.epoch
      ∧ s'.positions = s.positions ∧ s'.claims = s.claims := by
    rcases hs with ⟨rfl, -⟩ | ⟨rfl, -⟩ <;> exact ⟨rfl, rfl, rfl, rfl⟩
  have hheld : ∀ b, positionOrEmpty b (p.positions.set a
      ((positionOrEmpty a p.positions).moved .tusd delta p.currentIndex)) = s'.wallet b :=
    h.held_set (fun b hb => by simp [Stand.wallet, hcore, hclaims, husd.1 b hb])
      (by simp [h.held, IndexedPosition.moved, Stand.wallet, hcore, hclaims, husd.2])
  obtain ⟨core, epoch, positions, usd, claims⟩ := s'
  simp only at hcore hepoch hpositions hclaims
  subst hcore hepoch hpositions hclaims
  exact
    { h with
      eligibleSupply := by simpa using h.eligibleSupply
      aggregateCorrection := by simpa using h.aggregateCorrection
      held := hheld
      has := h.has_set ha _ }

/-- A position is created. -/
theorem opened (h : Follows s p) : Follows (s.opened a)
    { p with positions := p.positions.set a (positionOrEmpty a p.positions) } :=
  { h with
    held := h.held_set (fun _ _ => rfl) (h.held a)
    has := fun b => by
      rw [OrderedMap.has_set, Bool.or_eq_true, decide_eq_true_eq, h.has]
      simp }

/-- A wallet counts a claim of its own. -/
theorem claimed (h : Follows s p) (ha : a ∈ s.positions) : Follows (s.claimed a n)
    { p with
      positions := p.positions.set a
        { positionOrEmpty a p.positions with
          lifetimeClaimed := (positionOrEmpty a p.positions).lifetimeClaimed + n } } :=
  { h with
    held := h.held_set (fun b hb => by simp [Stand.wallet, hb])
      (by simp [h.held, Stand.wallet])
    has := h.has_set ha _ }

/-! ## The pool -/

/-- Shares come to the pool, or go. -/
theorem custodyMoved {L : Ledger (Option Address)} {delta : ℤ} (h : Follows s p)
    (hw : Weighs s.core L none delta) :
    Follows { s with core := L } (p.custodyMoved delta) := by
  refine
    { h with
      registeredWallets := fun b => ?_
      registeredWalletCount := ?_
      currentIndex := ?_
      indexRemainder := ?_
      eligibleSupply := ?_
      aggregateCorrection := ?_
      unallocatedFees := ?_
      rewardVaultCredits := ?_
      rewardVaultPayouts := ?_
      lifetimeSwapFees := ?_
      lifetimeMaterialized := ?_
      lifetimeCustodyRouted := ?_
      custody := ?_
      held := fun b => ?_ }
  · simpa [Stand.wallets, hw.holders] using h.registeredWallets b
  · simpa [Stand.wallets, hw.holders] using h.registeredWalletCount
  · simpa [hw.index] using h.currentIndex
  · simpa [hw.remainder] using h.indexRemainder
  · simpa [hw.total] using h.eligibleSupply
  · simp [hw.aggregate, h.aggregateCorrection, h.currentIndex]
  · simpa [hw.unallocated] using h.unallocatedFees
  · simpa [hw.received] using h.rewardVaultCredits
  · simpa [hw.claimedSum] using h.rewardVaultPayouts
  · simpa [hw.received] using h.lifetimeSwapFees
  · simpa [hw.claimedSum, hw.claimed] using h.lifetimeMaterialized
  · simpa [hw.claimed] using h.lifetimeCustodyRouted
  · simp only [ProtocolProjection.custodyMoved, h.custody, h.currentIndex, Stand.custody, hw.shares,
      hw.correction, hw.claimed]
  · have hb := hw.other (some b) (by simp)
    simpa [Stand.wallet, hb.1, hb.2, hw.claimed] using h.held b

/-- The pool is paid what it earned. -/
theorem routed (h : Follows s p) (hv : Valid MAGNITUDE s.core)
    (hen : (Act.pay none n).Enabled MAGNITUDE s.core) :
    Follows (s.act (.pay none n)) (p.routed .rfl_reserve n) := by
  have hclaimed := hen.claimedSum_apply hv
  simp only [Act.paid] at hclaimed
  refine
    { h with
      rewardVaultPayouts := ?_
      lifetimeMaterialized := ?_
      lifetimeCustodyRouted := ?_
      custody := ?_
      held := fun b => ?_ }
  · simp [h.rewardVaultPayouts, hclaimed]
  · have hlifetime := h.lifetimeMaterialized
    rw [Stand.act_core, hclaimed]
    simp only [ProtocolProjection.routed_lifetimeMaterialized, Act.apply, Function.update_self]
    push_cast
    linarith
  · simp [h.lifetimeCustodyRouted, Act.apply]
  · simp [ProtocolProjection.routed, h.custody, Stand.custody, Act.apply, Ledger.correction]
  · simpa [Stand.wallet, Act.apply, Ledger.correction] using h.held b

/-- A fee is received, and moves the index. -/
theorem received (h : Follows s p) (hv : Valid MAGNITUDE s.core) (ht : s.core.total ≠ 0) :
    Follows (s.act (.receive n))
      ((p.charged n).advanced (s.core.index + s.core.increment MAGNITUDE n : ℕ)
        ((MAGNITUDE * n + s.core.remainder) % s.core.total : ℕ)) := by
  have hen : (Act.receive n : Dividend.Act (Option Address)).Enabled MAGNITUDE s.core := trivial
  have htotal := hen.total_apply hv
  have haggregate := hen.aggregate_apply hv
  have hclaimed := hen.claimedSum_apply hv
  simp only [Act.weight, Act.shiftSum, Act.paid, add_zero] at htotal haggregate hclaimed
  have hcorrection : ∀ i, ((Act.receive n).apply MAGNITUDE s.core).correction i
      = s.core.correction i := by
    intro i
    rw [hen.correction_apply]
    simp [Act.shift]
  obtain ⟨hholders, hshares, hclaims, hindex, hremainder, hunallocated, hreceived⟩ :
      ((Act.receive n).apply MAGNITUDE s.core).holders = s.core.holders
        ∧ ((Act.receive n).apply MAGNITUDE s.core).shares = s.core.shares
        ∧ ((Act.receive n).apply MAGNITUDE s.core).claimed = s.core.claimed
        ∧ ((Act.receive n).apply MAGNITUDE s.core).index
          = s.core.index + s.core.increment MAGNITUDE n
        ∧ ((Act.receive n).apply MAGNITUDE s.core).remainder
          = (MAGNITUDE * n + s.core.remainder) % s.core.total
        ∧ ((Act.receive n).apply MAGNITUDE s.core).unallocated = s.core.unallocated
        ∧ ((Act.receive n).apply MAGNITUDE s.core).received = s.core.received + n := by
    rw [Act.apply, if_neg ht]
    exact ⟨rfl, rfl, rfl, rfl, rfl, rfl, rfl⟩
  refine
    { h with
      registeredWallets := fun b => ?_
      registeredWalletCount := ?_
      currentIndex := ?_
      indexRemainder := ?_
      eligibleSupply := ?_
      aggregateCorrection := ?_
      unallocatedFees := ?_
      rewardVaultCredits := ?_
      rewardVaultPayouts := ?_
      lifetimeSwapFees := ?_
      lifetimeMaterialized := ?_
      lifetimeCustodyRouted := ?_
      custody := ?_
      held := fun b => ?_ }
  · simpa [Stand.wallets, hholders] using h.registeredWallets b
  · simpa [Stand.wallets, hholders] using h.registeredWalletCount
  · rw [Stand.act_core, hindex]
    rfl
  · rw [Stand.act_core, hremainder]
    rfl
  · simpa [htotal] using h.eligibleSupply
  · simpa [haggregate] using h.aggregateCorrection
  · simpa [hunallocated] using h.unallocatedFees
  · simp [hreceived, h.rewardVaultCredits]
  · simpa [hclaimed] using h.rewardVaultPayouts
  · simp [hreceived, h.lifetimeSwapFees]
  · simpa [hclaimed, hclaims] using h.lifetimeMaterialized
  · simpa [hclaims] using h.lifetimeCustodyRouted
  · simpa [Stand.custody, hshares, hcorrection, hclaims] using h.custody
  · simpa [Stand.wallet, hshares, hcorrection, hclaims] using h.held b

/-! ## The epoch -/

/-- The epoch is there, under its number. -/
theorem epoch (h : Follows s p) : ∃ positions, p.lpEpochs.get? 1 = some (s.lpEpoch positions)
    ∧ p.lpEpochs.entries = [(1, s.lpEpoch positions)]
    ∧ ∀ b, lpPositionOrEmpty b positions = s.owner b := by
  obtain ⟨positions, hentries, howner⟩ := h.lpEpochs
  refine ⟨positions, OrderedMap.mem_entries.mp ?_, hentries, howner⟩
  rw [hentries]
  exact List.mem_singleton_self _

/-- The epoch is written back. -/
theorem written {L : Ledger Address} (h : Follows s p)
    {positions : OrderedMap Address IndexedLpPosition}
    (howner : ∀ b, lpPositionOrEmpty b positions = ({ s with epoch := L } : Stand).owner b) :
    Follows { s with epoch := L }
      { p with lpEpochs := p.lpEpochs.set 1 (({ s with epoch := L } : Stand).lpEpoch positions) } := by
  obtain ⟨before, -, hentries, -⟩ := h.epoch
  have hset : (p.lpEpochs.set 1 (({ s with epoch := L } : Stand).lpEpoch positions)).entries
      = [(1, ({ s with epoch := L } : Stand).lpEpoch positions)] := by
    show OrderedMap.put _ _ _ = _
    rw [hentries, OrderedMap.put, if_pos rfl]
  exact { h with lpEpochs := ⟨positions, hset, howner⟩ }

/-- An owner without a position has an empty one, so that who has one does not
show. -/
theorem ensured (h : Follows s p) (hv : Valid MAGNITUDE s.epoch) :
    Follows (s.lpAct (.enroll a)) p := by
  have hen : (Act.enroll a).Enabled MAGNITUDE s.epoch := trivial
  have htotal := hen.total_apply hv
  have haggregate := hen.aggregate_apply hv
  have hclaimed := hen.claimedSum_apply hv
  simp only [Act.weight, Act.shiftSum, Act.paid, add_zero, Nat.cast_inj] at htotal haggregate hclaimed
  obtain ⟨positions, hentries, howner⟩ := h.lpEpochs
  have hsame : (s.lpAct (.enroll a)).lpEpoch positions = s.lpEpoch positions := by
    simp only [Stand.lpEpoch, Stand.lpAct_epoch, htotal, haggregate, hclaimed]
    rfl
  refine { h with lpEpochs := ⟨positions, ?_, howner⟩ }
  rw [hsame]
  exact hentries

section Written

variable {L : Ledger Address} {positions : OrderedMap Address IndexedLpPosition}

/-- A position of the epoch is written, where every other one stays. -/
theorem owner_set {s' : Stand} (howner : ∀ b, lpPositionOrEmpty b positions = s.owner b)
    {position : IndexedLpPosition} (hsame : ∀ b, b ≠ a → s'.owner b = s.owner b)
    (hposition : position = s'.owner a) (b : Address) :
    lpPositionOrEmpty b (positions.set a position) = s'.owner b := by
  rw [lpPositionOrEmpty_set]
  by_cases hb : b = a
  · rw [if_pos hb, hb, hposition]
  · rw [if_neg hb, howner, hsame b hb]

/-- An owner is paid what it earned. -/
theorem lpPaid (h : Follows s p) (hv : Valid MAGNITUDE s.epoch)
    (howner : ∀ b, lpPositionOrEmpty b positions = s.owner b)
    (hen : (Act.pay a n).Enabled MAGNITUDE s.epoch) : Follows (s.lpAct (.pay a n))
      { p with lpEpochs := p.lpEpochs.set 1 ((s.lpEpoch positions).paid a n) } := by
  have hclaimed := hen.claimedSum_apply hv
  simp only [Act.paid] at hclaimed
  have heq : (s.lpEpoch positions).paid a n = (s.lpAct (.pay a n)).lpEpoch
      (positions.set a { lpPositionOrEmpty a positions with
        claimed := (lpPositionOrEmpty a positions).claimed + n }) := by
    simp only [IndexedLpEpoch.paid, Stand.lpEpoch, Stand.lpAct_epoch, hclaimed, Nat.cast_add]
    rfl
  rw [heq]
  refine h.written (owner_set howner (fun b hb => ?_) ?_)
  · simp [Stand.owner, Act.apply, hb, Ledger.correction]
  · simp [howner, Stand.owner, Act.apply, Ledger.correction]

/-- A reward is received, and moves the epoch's index. -/
theorem lpReceived (h : Follows s p) (hv : Valid MAGNITUDE s.epoch) (ht : s.epoch.total ≠ 0)
    (howner : ∀ b, lpPositionOrEmpty b positions = s.owner b) {event : LpRewardIndexAdvancedEvent}
    (hindex : event.newIndex = (s.epoch.index + s.epoch.increment MAGNITUDE n : ℕ))
    (hremainder : event.indexRemainder = ((MAGNITUDE * n + s.epoch.remainder) % s.epoch.total : ℕ))
    (hreceived : event.received = n)
    (hreserve : event.roundingReserve
      = (((Act.receive n).apply MAGNITUDE s.epoch).reserve MAGNITUDE : ℕ)) :
    Follows (s.lpAct (.receive n))
      { p with lpEpochs := p.lpEpochs.set 1 ((s.lpEpoch positions).received event) } := by
  have hen : (Act.receive n : Dividend.Act Address).Enabled MAGNITUDE s.epoch := trivial
  have htotal := hen.total_apply hv
  have haggregate := hen.aggregate_apply hv
  have hclaimed := hen.claimedSum_apply hv
  simp only [Act.weight, Act.shiftSum, Act.paid, add_zero, Nat.cast_inj] at htotal haggregate hclaimed
  obtain ⟨hshares, hclaims, hindex', hremainder', hunallocated, hretired, hreceived'⟩ :
      ((Act.receive n).apply MAGNITUDE s.epoch).shares = s.epoch.shares
        ∧ ((Act.receive n).apply MAGNITUDE s.epoch).claimed = s.epoch.claimed
        ∧ ((Act.receive n).apply MAGNITUDE s.epoch).index
          = s.epoch.index + s.epoch.increment MAGNITUDE n
        ∧ ((Act.receive n).apply MAGNITUDE s.epoch).remainder
          = (MAGNITUDE * n + s.epoch.remainder) % s.epoch.total
        ∧ ((Act.receive n).apply MAGNITUDE s.epoch).unallocated = s.epoch.unallocated
        ∧ ((Act.receive n).apply MAGNITUDE s.epoch).retired = s.epoch.retired
        ∧ ((Act.receive n).apply MAGNITUDE s.epoch).received = s.epoch.received + n := by
    rw [Act.apply, if_neg ht]
    exact ⟨rfl, rfl, rfl, rfl, rfl, rfl, rfl⟩
  have heq : (s.lpEpoch positions).received event = (s.lpAct (.receive n)).lpEpoch positions := by
    simp only [IndexedLpEpoch.received, Stand.lpEpoch, Stand.lpAct_epoch, htotal, haggregate,
      hclaimed, hindex, hindex', hremainder, hremainder', hunallocated, hretired, hreceived,
      hreceived', hreserve, Nat.cast_add]
  rw [heq]
  refine h.written fun b => ?_
  have hcorrection : ((Act.receive n).apply MAGNITUDE s.epoch).correction b
      = s.epoch.correction b := by
    rw [hen.correction_apply]
    simp [Act.shift]
  rw [howner]
  simp [Stand.owner, hshares, hclaims, hcorrection]

end Written

end Follows
end indexer

end CedraReflect
