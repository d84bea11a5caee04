/-
A world's group, from the call to the next mirror.

[`Mirrored`] is what is asked between two calls: a projection that stands where
the world does, and knows of the deployment what no event of a call says. A
group that feeds it, with receipts that agree, leaves a projection that is
mirrored by the world after the call (`Feeds.mirrored`). What is sound about a
world is collected here once ([`Deployed.sound`]).
-/
import CedraReflect.MirrorWallets

set_option autoImplicit false
set_option linter.constructorNameAsVariable false

namespace CedraReflect

open Dividend (Ledger Act Valid Weighs)
open reflection_math (MAGNITUDE MAGNITUDE_pos)
open reflection_token (TOTAL_SUPPLY is_excluded_store)

/-- A deployed world within its widths stands where it is sound to stand. -/
theorem Deployed.sound {e : LpEpoch} {w : World} {claims : Address → ℕ} (h : Deployed e w)
    (hw : w.Narrow) (he : e.Narrow) (husd : ∀ a, w.cash a < 2 ^ 64)
    (hclaims : ∀ a, claims a ≤ (w.position a).claimed) (hcount : w.wallets.card < 2 ^ 64) :
    (w.stand e w.cash claims).Sound where
  core := h.core.accounting.valid
  epoch := h.books.accounting.valid
  pool := w.none_mem_holders
  total := h.core.supply.total_le
  index := hw.index
  remainder := hw.remainder
  received := hw.fees
  lpTotal := h.books.accounting.total ▸ he.total
  lpIndex := he.index
  lpRemainder := he.remainder
  lpReceived := he.received
  usd := husd
  claims := hclaims
  count := by
    rw [World.wallets_stand]
    exact hcount

/-- A launched system within its widths, between two calls. -/
structure Steady (e : LpEpoch) (w : World) : Prop where
  launched : Launched e w
  core : w.Narrow
  epoch : e.Narrow
  usd : ∀ a, w.cash a < 2 ^ 64
  count : w.wallets.card < 2 ^ 64

theorem Steady.sound {e : LpEpoch} {w : World} {claims : Address → ℕ} (h : Steady e w)
    (hclaims : ∀ a, claims a ≤ (w.position a).claimed) : (w.stand e w.cash claims).Sound :=
  h.launched.deployed.sound h.core h.epoch h.usd hclaims h.count

namespace indexer

open Audited

/-! ## What is known of the deployment -/

/-- What a projection knows of a launched world besides its books. -/
structure Knows (w : World) (p : ProtocolProjection) : Prop where
  version : p.packageVersion = "testnet-v0.2.0"
  feeBps : p.feeBps = w.reflection.fee_bps
  ammFeeBps : p.pool.ammFeeBps = 30
  withdrawal : p.pool.maximumNonFinalWithdrawalShareBps = 10_000
  running : p.pool.shutdownMode = false
  trflReserve : p.pool.trflReserve = w.custody.custody_shares
  tusdReserve : p.pool.tusdReserve = w.usd
  admits : ∀ a, a ≠ .zero → is_excluded_store w.reflection (.primary .trfl a) = false → Admits p a

/-- A projection mirrors a world between two calls. -/
structure Mirrored (e : LpEpoch) (w : World) (p : ProtocolProjection) : Prop where
  mirrors : ∃ claims, (∀ a, claims a ≤ (w.position a).claimed) ∧ Mirrors (w.stand e w.cash claims) p
  knows : Knows w p
  named : .zero ∉ w.wallets
  owners : ∀ a, 0 < (e.position a).shares → a ∈ w.wallets

namespace Knows

variable {w w' : World} {p p' : ProtocolProjection}

/-- Whatever a projection knows, it knows by what no event moves. -/
theorem of_still (h : Knows w p) (hstill : p'.still = p.still) : Knows w p' := by
  have hread {α : Type} (f : ProtocolProjection → α) (hf : ∀ p, f p.still = f p) : f p' = f p := by
    rw [← hf, hstill, hf]
  have hpool := hread (fun p => p.pool) fun _ => rfl
  have hexcluded := hread (fun p => p.protocolExcludedStores) fun _ => rfl
  constructor
  · exact (hread (fun p => p.packageVersion) fun _ => rfl).trans h.version
  · exact (hread (fun p => p.feeBps) fun _ => rfl).trans h.feeBps
  · rw [hpool]
    exact h.ammFeeBps
  · rw [hpool]
    exact h.withdrawal
  · rw [hpool]
    exact h.running
  · rw [hpool]
    exact h.trflReserve
  · rw [hpool]
    exact h.tusdReserve
  · intro a ha hx
    have hadmits := h.admits a ha hx
    constructor
    · exact hadmits.nonzero
    · rw [hexcluded]
      exact hadmits.account
    · rw [hexcluded]
      exact hadmits.store

/-- What it knows of a world it knows of another with the same reserves. -/
theorem congr (h : Knows w p) (hfee : w'.reflection.fee_bps = w.reflection.fee_bps)
    (hexclusions : w'.reflection.exclusions = w.reflection.exclusions)
    (hshares : w'.custody.custody_shares = w.custody.custody_shares) (husd : w'.usd = w.usd) :
    Knows w' p :=
  { h with
    feeBps := hfee ▸ h.feeBps
    trflReserve := hshares ▸ h.trflReserve
    tusdReserve := husd ▸ h.tusdReserve
    admits := fun a ha hx => h.admits a ha (by rwa [is_excluded_store, ← hexclusions]) }

/-- It remembers nothing of the events it replays. -/
theorem remember (h : Knows w p) (group : List ProtocolEvent) : Knows w (remember p group) :=
  { h with admits := fun a ha hx => { h.admits a ha hx with } }

end Knows

/-! ## The step -/

/-- The receipts of a group agree with each other, and with what its replay
carries in the end. -/
structure Settles (prior : ProtocolProjection) (group : List ProtocolEvent) (k : Context) :
    Prop where
  receipts : ∀ first, Clean (groupChecks prior first group) (.initial prior) () (.initial prior)
  fees : k.pendingCoreFees = []
  routes : ∀ route ∈ select EventBody.route group, route.1.id ∈ k.consumedRoutes
  liquidity : ∀ c, Clean (liquidityShares group) c () c
  quantities : ∀ q ∈ k.next.quantities, q.Fits
  seen : k.next.seenEventIds = prior.seenEventIds

/-- What a world has to be for a projection to close its books there. -/
structure Boundary (e : LpEpoch) (w : World) (claims : Address → ℕ) : Prop where
  sound : (w.stand e w.cash claims).Sound
  membership : Membership w
  named : .zero ∉ w.wallets
  owners : ∀ a, 0 < (e.position a).shares → a ∈ w.wallets

/-- **A group that feeds a mirror leaves a mirror**, of the world after it. -/
theorem Feeds.mirrored {prior : ProtocolProjection} {group : List ProtocolEvent} {txHash : String}
    {emitted : List Event} {e e' : LpEpoch} {w w' : World} {claims claims' : Address → ℕ}
    {k : Context}
    (h : Feeds prior group txHash emitted (w.stand e w.cash claims) (Context.initial prior).still
      (w'.stand e' w'.cash claims') k)
    (hm : Mirrors (w.stand e w.cash claims) prior) (ht : Transcribes prior txHash emitted group)
    (hs : Settles prior group k) (hc : Boundary e' w' claims') (hk : Knows w' k.next) :
    ∃ next, accepted prior group = some next ∧ Mirrored e' w' next
      ∧ next.seenEventIds = (remember prior group).seenEventIds := by
  have hclosable : ∀ c, At (w'.stand e' w'.cash claims') k c →
      Closable (w'.stand e' w'.cash claims') group c := by
    intro c hat
    have hcarried : c.next.still = k.next.still := by
      rw [← hat.still]
      rfl
    have hknows := hk.of_still hcarried
    have hread {α : Type} (f : ProtocolProjection → α) (hf : ∀ p, f p.still = f p) :
        f c.next = f k.next := hat.read f hf
    constructor
    · exact hc.sound
    · intro a ha
      rw [World.wallets_stand]
      exact hc.membership.position_wallet a (Finmap.mem_keys.mp ha)
    · intro a ha
      rw [World.wallets_stand]
      exact hc.owners a ha
    · intro a ha
      rw [World.wallets_stand] at ha
      exact hknows.admits a (fun heq => hc.named (heq ▸ ha)) (hc.membership.eligible a ha)
    · exact hknows.trflReserve
    · have hfees : c.pendingCoreFees = k.pendingCoreFees := by
        rw [← hat.still]
        rfl
      rw [hfees, hs.fees]
    · have hroutes : c.consumedRoutes = k.consumedRoutes := by
        rw [← hat.still]
        rfl
      rw [hroutes]
      exact hs.routes
    · exact hs.liquidity c
    · have hquantities : c.next.still = k.next := by
        rw [← hat.still]
        rfl
      rw [hquantities]
      exact hs.quantities
    · rw [hread (fun p => p.seenEventIds) fun _ => rfl, hs.seen]
      exact (assertProjectionMoveDomains_eq_ok.mp hm.domains).2
  obtain ⟨next, haccepted, hmirrors, hstill⟩ := h.accepts hm ht hs.receipts hclosable
  have hcarried : next.still.still = (remember k.next group).still := by rw [hstill]
  have hseen : next.seenEventIds = (remember k.next group).seenEventIds := by
    show next.still.seenEventIds = _
    rw [hstill]
  refine ⟨next, haccepted, ⟨⟨claims', hc.sound.claims, hmirrors⟩, ?_, hc.named, hc.owners⟩, ?_⟩
  · exact (hk.remember group).of_still hcarried
  · rw [hseen, remember, remember, hs.seen]

end indexer

end CedraReflect
