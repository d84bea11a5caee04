/-
The wallets' calls, replayed.

A call's transcript is put together from those of its effects, and so is the
replay of it. What the reducer asks of the group as a whole, that the router's
receipt agrees with the hooks' and that a claim is paired, is read off the
transcript: everything in it but the receipts of the movement itself prepares
an account ([`EventBody.preparing`]).
-/
import CedraReflect.MirrorWorlds

set_option autoImplicit false
set_option linter.constructorNameAsVariable false

namespace CedraReflect

open Dividend (Ledger Act Valid Weighs)
open reflection_math (MAGNITUDE MAGNITUDE_pos)
open reflection_token (TOTAL_SUPPLY is_excluded_store)
open test_faucet (FIXED_TRFL_GRANT FIXED_TUSD_GRANT)
open NamedAddresses (test_assets)

/-! ## Transcripts -/

namespace World

variable (w : World) (a b : Address) (n : ℕ)

/-- What `withdraw_hook_impl` of a wallet emits. -/
def sending : List Event :=
  w.materialization a .TRANSFER_SEND ++ [.EligibleBalanceDebited a n]

/-- What `deposit_hook_impl` emits. -/
def arrival : List Event :=
  w.preparation a .TRANSFER_RECEIVE
    ++ ((w.prepared a .TRANSFER_RECEIVE).opening a ++ [.EligibleBalanceCredited a n])

/-- What `reflection_router::transfer` emits. -/
def transferral : List Event :=
  w.sending a n ++ ((w.sent a n).arrival b n ++ [.WalletTransfer a b n])

/-- What `faucet_grant` emits. -/
def grant (operator : Address) : List Event :=
  w.preparation a .FAUCET
    ++ ((w.prepared a .FAUCET).opening a ++ [.FaucetGrant a n operator])

/-- What `claim` emits. -/
def claiming : List Event :=
  [.RewardsMaterialized a n ((w.position a).claimed + n) .MANUAL,
    .RewardsClaimed a n ((w.position a).claimed + n)]

variable {w a b n}

/-- A wallet's transfer is what its two hooks do, and its event. -/
theorem walletTransferred_eq (ha : a ∈ w.wallets) : w.walletTransferred a b n
    = ((w.sent a n).arrived b n).logged (.WalletTransfer a b n) := by
  rw [walletTransferred, transferred, sentFrom, if_pos ha]

theorem wallets_walletTransferred (ha : a ∈ w.wallets) :
    (w.walletTransferred a b n).wallets = ((w.sent a n).ensured b).wallets := by
  rw [walletTransferred_eq ha, wallets, custody_logged, ← wallets, wallets_arrived]

end World

namespace Core

variable {w : World} {a b : Address} {n : ℕ}

theorem events_sent (h : Core w) (hn0 : 0 < n)
    (hn : n ≤ (w.materializedAll a false .TRANSFER_SEND).raw a) :
    (w.sent a n).events = w.events ++ w.sending a n := by
  have hpos : a ∈ (w.materializedAll a false .TRANSFER_SEND).reflection.positions :=
    (h.materializedAll false .TRANSFER_SEND).membership.funded a (by omega)
  show ((w.materializedAll a false .TRANSFER_SEND).walletDebited a n).events ++ _ = _
  rw [World.events_walletDebited _ hpos, World.events_materializedAll, List.append_assoc]
  rfl

theorem events_arrived (h : Core w) (hn0 : 0 < n) :
    (w.arrived a n).events = w.events ++ w.arrival a n := by
  show ((w.prepared a .TRANSFER_RECEIVE).walletCredited a n).events ++ _ = _
  rw [World.events_walletCredited _ _ _ hn0.ne', World.events_prepared _ _ h.membership,
    List.append_assoc, List.append_assoc]
  rfl

theorem moved_walletTransferred (h : Core w) (ha : a ∈ w.wallets)
    (hn : n ≤ (w.materializedAll a false .TRANSFER_SEND).raw a)
    (hx : is_excluded_store w.reflection (.primary .trfl b) = false) :
    Moved w (w.walletTransferred a b n) := by
  have hsent := h.moved_sent ha hn
  have harrived := hsent.core.moved_arrived (a := b) (n := n)
    (by rwa [is_excluded_store, hsent.frame.exclusions]) (by simp [World.sent])
  rw [World.walletTransferred_eq ha]
  exact (hsent.trans harrived).trans (harrived.core.moved_logged _)

theorem events_walletTransferred (h : Core w) (ha : a ∈ w.wallets) (hn0 : 0 < n)
    (hn : n ≤ (w.materializedAll a false .TRANSFER_SEND).raw a) :
    (w.walletTransferred a b n).events = w.events ++ w.transferral a b n := by
  rw [World.walletTransferred_eq ha]
  show ((w.sent a n).arrived b n).events ++ _ = _
  rw [(h.moved_sent ha hn).core.events_arrived hn0, h.events_sent hn0 hn, List.append_assoc,
    List.append_assoc]
  rfl

theorem events_granted (h : Core w) (hn0 : 0 < n) (operator : Address) :
    (w.granted a n operator).events = w.events ++ w.grant a n operator := by
  show (((w.prepared a .FAUCET).debit .trfl .distribution_vault n).walletCredited a n).events ++ _
    = _
  rw [World.events_walletCredited _ _ _ hn0.ne']
  show ((w.prepared a .FAUCET).events ++ _) ++ _ = _
  rw [World.events_prepared _ _ h.membership, List.append_assoc, List.append_assoc]
  rfl

end Core

namespace indexer

/-! ## What prepares an account -/

/-- What is said of an account before anything moves. -/
def EventBody.preparing : EventBody → Bool
  | WalletRegistered _ | PositionCreated _ | RewardsMaterialized _ => true
  | _ => false

/-- What is emitted besides what prepares accounts. -/
def movements (txHash : String) (emitted : List Event) : List EventBody :=
  (emitted.filterMap (normalized txHash)).filter fun body => !body.preparing

section Movements

variable {txHash : String} {emitted emitted' : List Event} {w : World} {a b : Address} {n : ℕ}
  {trigger : Trigger}

@[simp] theorem movements_append :
    movements txHash (emitted ++ emitted') = movements txHash emitted ++ movements txHash emitted' := by
  rw [movements, List.filterMap_append, List.filter_append, movements, movements]

@[simp] theorem movements_enrollment : movements txHash (w.enrollment a) = [] := by
  unfold World.enrollment
  split <;> rfl

@[simp] theorem movements_opening : movements txHash (w.opening a) = [] := by
  unfold World.opening
  split <;> rfl

@[simp] theorem movements_materialization :
    movements txHash (w.materialization a trigger) = [] := by
  unfold World.materialization
  split <;> rfl

@[simp] theorem movements_preparation : movements txHash (w.preparation a trigger) = [] := by
  simp [World.preparation]

/-- What prepares an account counts for none of the receipts. -/
theorem filterMap_movements {α : Type} {payload : EventBody → Option α}
    (hpayload : ∀ body : EventBody, body.preparing = true → payload body = none) :
    (emitted.filterMap (normalized txHash)).filterMap payload
      = (movements txHash emitted).filterMap payload := by
  rw [movements, List.filterMap_filter]
  refine List.filterMap_congr fun body _ => ?_
  cases hbody : body.preparing with
  | true => rw [hpayload body hbody]; rfl
  | false => rfl

/-- What prepares an account concerns wallets alone. -/
theorem walletwise_of_movements (h : ∀ body ∈ movements txHash emitted, body.walletwise = true) :
    ∀ body ∈ emitted.filterMap (normalized txHash), body.walletwise = true := by
  intro body hbody
  cases hpreparing : body.preparing with
  | true => cases body <;> first | rfl | cases hpreparing
  | false => exact h body (List.mem_filter.mpr ⟨hbody, by rw [hpreparing]; rfl⟩)

/-- Of a transfer the receipts of its three movements remain. -/
theorem movements_transferral : movements txHash (w.transferral a b n)
    = [.EligibleBalanceDebited a n, .EligibleBalanceCredited b n, .WalletTransfer a b .trfl n] := by
  simp only [World.transferral, World.sending, World.arrival, movements_append,
    movements_materialization, movements_preparation, movements_opening, List.nil_append]
  rfl

theorem movements_grant {operator : Address} : movements txHash (w.grant a n operator)
    = [.FaucetGrant a .trfl n] := by
  simp only [World.grant, movements_append, movements_preparation, movements_opening,
    List.nil_append]
  rfl

end Movements

/-! ## Replays -/

namespace Feeds

variable {prior : ProtocolProjection} {events : List ProtocolEvent} {txHash : String}
  {w : World} {e : LpEpoch} {usd claims : Address → ℕ} {k : Context} {a b : Address} {n : ℕ}

/-- A withdrawal from a wallet. -/
theorem sent (h : Core w) (hw : w.Narrow) (ha : a ∈ w.wallets) (hn0 : 0 < n)
    (hn : n ≤ (w.materializedAll a false .TRANSFER_SEND).raw a) :
    Feeds prior events txHash (w.sending a n) (w.stand e usd claims) k
      ((w.sent a n).stand e usd claims) k := by
  have hmoved := h.moved_materializedAll (a := a) false .TRANSFER_SEND
  exact (materializedAll h hw .TRANSFER_SEND).append
    (walletDebited hmoved.core (hw.moved hmoved) (by simpa using ha) hn0 hn)

section Prepared

variable (h : Core w) (hw : w.Narrow)
  (hx : is_excluded_store w.reflection (.primary .trfl a) = false)
  (hk : a ∉ w.wallets → Admits k.next a) (hcount : (w.ensured a).wallets.card < 2 ^ 64)
  (hn0 : 0 < n)

include h hw hx hk hcount hn0

/-- A deposit. -/
theorem arrived (hn : n ≤ w.in_flight .trfl) :
    Feeds prior events txHash (w.arrival a n) (w.stand e usd claims) k
      ((w.arrived a n).stand e usd claims) k := by
  have hmoved := h.moved_prepared hx .TRANSFER_RECEIVE
  have hflight : n ≤ (w.prepared a .TRANSFER_RECEIVE).in_flight .trfl := by
    rwa [World.prepared, World.in_flight_materializedAll, World.in_flight_ensured]
  have harrived : w.arrived a n = ((w.prepared a .TRANSFER_RECEIVE).walletCredited a n).logged
      (.EligibleBalanceCredited a n) := rfl
  rw [World.arrival, harrived, World.stand_logged]
  exact (prepared h hw hx hk hcount .TRANSFER_RECEIVE).append
    (walletCredited hmoved.core (hw.moved hmoved) (w.mem_wallets_prepared a _) hn0 hflight)

/-- A grant of the faucet's. -/
theorem faucetGranted (hn : n ≤ w.balance .distribution_vault) (operator : Address) :
    Feeds prior events txHash (w.grant a n operator) (w.stand e usd claims) k
      ((w.granted a n operator).stand e usd claims) k := by
  have hmoved := h.moved_prepared hx .FAUCET
  have hvault : n ≤ (w.prepared a .FAUCET).balance .distribution_vault := by
    rwa [World.prepared, World.balance_materializedAll _ _ _ _ (by simp) (by simp),
      World.balance_ensured]
  have hdebit := hmoved.core.step_debit (.inl rfl) hvault
  have hnarrow := (hw.moved hmoved).moved (hdebit.moved (by simp))
  -- The vault is nobody's, so that what leaves it does not show yet.
  have hvault_stand : ((w.prepared a .FAUCET).debit .trfl .distribution_vault n).stand e usd claims
      = (w.prepared a .FAUCET).stand e usd claims :=
    Stand.ext (World.coreLedger_debit _ n (.inl rfl)) rfl rfl
      rfl rfl
  have hgranted : w.granted a n operator
      = (((w.prepared a .FAUCET).debit .trfl .distribution_vault n).walletCredited a n).logged
        (.FaucetGrant a n operator) := rfl
  have hcredit : Feeds prior events txHash
      ((w.prepared a .FAUCET).opening a ++ [.FaucetGrant a n operator])
      (((w.prepared a .FAUCET).debit .trfl .distribution_vault n).stand e usd claims) k
      ((((w.prepared a .FAUCET).debit .trfl .distribution_vault n).walletCredited a n).stand e
        usd claims) k :=
    walletGranted hdebit.core hnarrow (w.mem_wallets_prepared a .FAUCET) hn0 (by simp) operator
  rw [World.grant, hgranted, World.stand_logged]
  rw [hvault_stand] at hcredit
  exact (prepared h hw hx hk hcount .FAUCET).append hcredit

end Prepared

/-- A transfer, beside the receipts of the two hooks. -/
theorem walletTransferred (h : Core w) (hw : w.Narrow) (ha : a ∈ w.wallets) (hn0 : 0 < n)
    (hn : n ≤ (w.materializedAll a false .TRANSFER_SEND).raw a)
    (hx : is_excluded_store w.reflection (.primary .trfl b) = false)
    (hk : b ∉ w.wallets → Admits k.next b)
    (hcount : ((w.sent a n).ensured b).wallets.card < 2 ^ 64)
    (hrouter : RouterAgrees events a b n) :
    Feeds prior events txHash (w.transferral a b n) (w.stand e usd claims) k
      ((w.walletTransferred a b n).stand e usd claims) k := by
  have hmoved := h.moved_sent ha hn
  have hflight : n ≤ (w.sent a n).in_flight .trfl := by simp [World.sent]
  have hwallets : (w.sent a n).wallets = w.wallets := w.wallets_sent
  have hx' : is_excluded_store (w.sent a n).reflection (.primary .trfl b) = false := by
    rw [is_excluded_store, hmoved.frame.exclusions]
    exact hx
  have harrived := hmoved.core.moved_arrived hx' hflight
  have hb : b ∈ ((w.sent a n).arrived b n).wallets := by
    rw [World.wallets_arrived]
    exact World.mem_wallets_ensured _ b
  rw [World.transferral, World.walletTransferred_eq ha, World.stand_logged]
  refine (sent h hw ha hn0 hn).append ((arrived hmoved.core (hw.moved hmoved) hx' (hwallets ▸ hk)
    hcount hn0 hflight).append (transferred ?_ ?_ hrouter hn0 (hmoved.core.lt_of_in_flight hflight)))
  · rw [World.wallets_stand]
    exact harrived.frame.wallets (hmoved.frame.wallets ha)
  · rw [World.wallets_stand]
    exact hb

/-- A claim, which counts as one of the wallet's own. -/
theorem claim (h : Core w) (hw : w.Narrow) (hn0 : 0 < n) (hn : n ≤ w.pending (some a))
    (hclaims : claims a ≤ (w.position a).claimed) :
    Feeds prior events txHash (w.claiming a n) (w.stand e usd claims) k
      ((w.materialized a n true .MANUAL).stand e usd
        (Function.update claims a (claims a + n))) k := by
  have ha : a ∈ w.reflection.positions := by
    by_contra hne
    rw [h.membership.pending_of_notMem hne] at hn
    omega
  have hwallet := h.membership.position_wallet a ha
  have hmoved := h.moved_materialized ha hn true .MANUAL
  have hstand := w.stand_materialized e usd claims ha hn0.ne' true .MANUAL
  have hfits := hmoved.core.fitsMove (hw.moved hmoved)
  have hcore : ((w.stand e usd claims).materialized a n).core
      = (w.materialized a n true .MANUAL).coreLedger := by
    rw [← hstand, World.stand_core]
  have hclaimed : ((w.position a).claimed + n : ℕ) < 2 ^ 256 := by
    have hfit := isMoveUnsigned_natCast.mp (hfits.claimed (some a))
    rw [← hcore] at hfit
    simpa [Stand.materialized, Act.apply] using hfit
  have hmaterialized : Feeds prior events txHash
      [.RewardsMaterialized a n ((w.position a).claimed + n) .MANUAL] (w.stand e usd claims) k
      ((w.stand e usd claims).materialized a n) k := by
    refine materialized (s := w.stand e usd claims) (h.fitsMove hw) (hcore ▸ hfits) ?_
      (Finmap.mem_keys.mpr ha) hn0 (hn.trans_lt (h.pending_lt _)) hn
    rw [World.wallets_stand]
    exact hwallet
  have hlast : (w.materialized a n true .MANUAL).stand e usd (Function.update claims a (claims a + n))
      = ((w.stand e usd claims).materialized a n).claimed a n := by
    rw [← hstand]
    rfl
  rw [hlast]
  refine hmaterialized.append (claimed ?_ (Finmap.mem_keys.mpr ha) hn0
    (hn.trans_lt (h.pending_lt _)) hclaimed ?_)
  · show a ∈ (w.stand e usd claims).wallets
    rw [World.wallets_stand]
    exact hwallet
  · show claims a + n < 2 ^ 256
    omega

/-- Fresh tUSD, for a wallet with a position. -/
theorem usdMinted (h : Core w) (ha : a ∈ w.reflection.positions) (hn0 : 0 < n) (hn : n < 2 ^ 64)
    (operator : Address) :
    Feeds prior events txHash [.MockUsdMinted a n operator] (w.stand e w.cash claims) k
      ((w.usdMinted a n operator).stand e (w.usdMinted a n operator).cash claims) k := by
  have hstand : (w.usdMinted a n operator).stand e (w.usdMinted a n operator).cash claims
      = (w.stand e w.cash claims).usdGiven a n :=
    Stand.ext rfl rfl rfl (w.cash_write _) rfl
  rw [hstand]
  refine minted ?_ (Finmap.mem_keys.mpr ha) hn0 hn
  rw [World.wallets_stand]
  exact h.membership.position_wallet a ha

end Feeds

/-! ## Groups -/

section Groups

variable {prior : ProtocolProjection} {group : List ProtocolEvent} {txHash : String}
  {emitted : List Event} {e : LpEpoch} {w w' : World} {k : Context}

/-- A group that concerns wallets alone settles, once its claims are paired. -/
theorem settles_of_walletwise {s s' : Stand}
    (hf : Feeds prior group txHash emitted s (Context.initial prior).still s' k)
    (hm : Mirrors s prior) (ht : Transcribes prior txHash emitted group)
    (hwallets : ∀ body ∈ emitted.filterMap (normalized txHash), body.walletwise = true)
    (hclaims : ClaimsPaired (emitted.filterMap (normalized txHash))) :
    Settles prior group (Context.initial prior).still := by
  have hwalletwise : ∀ event ∈ group, event.body.walletwise = true := by
    intro event hevent
    refine hwallets event.body ?_
    rw [← ht.bodies]
    exact List.mem_map_of_mem hevent
  have hnone {α : Type} (payload : EventBody → Option α)
      (hpayload : ∀ body : EventBody, body.walletwise = true → payload body = none) :
      select payload group = [] := select_walletwise hwalletwise hpayload
  have hroutes := hnone EventBody.route (by rintro ⟨⟩ h <;> first | rfl | cases h)
  have hliquidity := hnone EventBody.liquidity (by rintro ⟨⟩ h <;> first | rfl | cases h)
  constructor
  · intro first
    exact groupChecks_of_walletwise hwalletwise
      (registrationOrder_of ht.ordered (ht.bodies ▸ hf.order)) (claimPairs_of (ht.bodies ▸ hclaims))
  · rfl
  · simp [hroutes]
  · intro c
    simp [liquidityShares, hliquidity]
  · exact still_quantities (assertProjectionMoveDomains_eq_ok.mp hm.domains).1
  · rfl

/-- The router's receipt agrees with the two of the hooks. -/
theorem routerAgrees_of {a b : Address} {n : ℕ}
    (hbodies : group.map (fun event => event.body) = emitted.filterMap (normalized txHash))
    (hmovements : movements txHash emitted = [.EligibleBalanceDebited a n,
      .EligibleBalanceCredited b n, .WalletTransfer a b .trfl n]) : RouterAgrees group a b n := by
  refine ⟨Or.inr ?_, Or.inr ?_⟩
  · refine (length_filter_select fun entry => decide (entry = (a, (n : ℤ)))).trans ?_
    rw [hbodies, filterMap_movements (by rintro ⟨⟩ h <;> first | rfl | cases h), hmovements]
    show ([(a, (n : ℤ))].filter _).length = 1
    simp
  · refine (length_filter_select fun entry => decide (entry = (b, (n : ℤ)))).trans ?_
    rw [hbodies, filterMap_movements (by rintro ⟨⟩ h <;> first | rfl | cases h), hmovements]
    show ([(b, (n : ℤ))].filter _).length = 1
    simp

/-- The indexer accepts a group, and mirrors the world it is left in. -/
def Followed (prior : ProtocolProjection) (group : List ProtocolEvent) (e : LpEpoch) (w : World) :
    Prop :=
  ∃ next, accepted prior group = some next ∧ Mirrored e w next
    ∧ next.seenEventIds = (remember prior group).seenEventIds

/-- **A call that concerns wallets alone is followed.** -/
theorem Mirrored.walletwise (h : Mirrored e w prior) (hs : Steady e w')
    (ht : Transcribes prior txHash emitted group)
    (hfeeds : ∀ claims, (∀ a, claims a ≤ (w.position a).claimed) → ∃ claims',
      (∀ a, claims' a ≤ (w'.position a).claimed)
      ∧ Feeds prior group txHash emitted (w.stand e w.cash claims) (Context.initial prior).still
        (w'.stand e w'.cash claims') (Context.initial prior).still)
    (hwallets : ∀ body ∈ emitted.filterMap (normalized txHash), body.walletwise = true)
    (hpaired : ClaimsPaired (emitted.filterMap (normalized txHash)))
    (hknows : Knows w' prior) (hnamed : .zero ∉ w'.wallets) (hmore : w.wallets ⊆ w'.wallets) :
    Followed prior group e w' := by
  obtain ⟨claims, hclaims, hm⟩ := h.mirrors
  obtain ⟨claims', hclaims', hf⟩ := hfeeds claims hclaims
  refine hf.mirrored hm ht (settles_of_walletwise hf hm ht hwallets hpaired)
    ⟨hs.sound hclaims', hs.launched.deployed.core.membership, hnamed, ?_⟩ (hknows.of_still rfl)
  exact fun a ha => hmore (h.owners a ha)

end Groups

/-! ## The calls -/

section Calls

variable {prior : ProtocolProjection} {group : List ProtocolEvent} {txHash : String} {e : LpEpoch}
  {w : World} {a b : Address} {n : ℕ}

/-- Nobody is paid back. -/
theorem claimed_mono {w' : World} (hm : Moved w w') (a : Address) :
    (w.position a).claimed ≤ (w'.position a).claimed := by
  obtain ⟨as, -, hs⟩ := hm
  have hsum := hs.run.claimed_sum (some a)
  simp only [World.coreLedger_claimed_some] at hsum
  omega

/-- No call registers an account that has no name. -/
theorem named_ensured (hnamed : .zero ∉ w.wallets) (ha : a ≠ .zero) :
    .zero ∉ (w.ensured a).wallets := by
  unfold World.ensured
  split
  · exact hnamed
  · rw [World.wallets_enrolled, Finset.mem_insert, not_or]
    exact ⟨ha.symm, hnamed⟩

/-- A call of the wallets' that moves the core, and no claim of a wallet's own. -/
theorem Mirrored.moved {w' : World} {emitted : List Event} (h : Mirrored e w prior)
    (hs : Steady e w') (hm : Moved w w')
    (hshares : w'.custody.custody_shares = w.custody.custody_shares)
    (ht : Transcribes prior txHash emitted group)
    (hfeeds : ∀ claims, Feeds prior group txHash emitted (w.stand e w.cash claims)
      (Context.initial prior).still (w'.stand e w.cash claims) (Context.initial prior).still)
    (hwallets : ∀ body ∈ movements txHash emitted, body.walletwise = true)
    (hpaired : (movements txHash emitted).filterMap EventBody.explicitClaim = [])
    (hnamed : .zero ∉ w'.wallets) : Followed prior group e w' := by
  have hcash := World.cash_eq hm.frame
  have hpairs : ClaimsPaired (emitted.filterMap (normalized txHash)) := by
    intro claim hclaim
    rw [filterMap_movements (by rintro ⟨⟩ h <;> first | rfl | cases h), hpaired] at hclaim
    cases hclaim
  refine h.walletwise hs ht (fun claims hclaims => ⟨claims, fun a => ?_, hcash ▸ hfeeds claims⟩)
    (walletwise_of_movements hwallets) hpairs ?_ hnamed hm.frame.wallets
  · exact (hclaims a).trans (claimed_mono hm a)
  · exact h.knows.congr hm.frame.fee_bps hm.frame.exclusions hshares hm.frame.usd

/-- Whom the chain does not exclude, the indexer admits. -/
theorem Mirrored.admits (h : Mirrored e w prior) (ha : a ≠ .zero)
    (hx : is_excluded_store w.reflection (.primary .trfl a) = false) :
    Admits (Context.initial prior).still.next a :=
  { h.knows.admits a ha hx with }

/-- **A registration is followed.** -/
theorem Mirrored.register_wallet (h : Mirrored e w prior) (hs : Steady e w)
    (hs' : Steady e (w.ensured a))
    (hx : is_excluded_store w.reflection (.primary .trfl a) = false) (ha : a ≠ .zero)
    (ht : Transcribes prior txHash (w.enrollment a) group) :
    Followed prior group e (w.ensured a) := by
  have hmovements : movements txHash (w.enrollment a) = [] := movements_enrollment
  refine h.moved hs' (hs.launched.deployed.core.moved_ensured hx) (w.custody_shares_ensured a) ht
    (fun claims => ?_) (by simp [hmovements]) (by simp [hmovements]) (named_ensured h.named ha)
  exact .ensured hs.launched.deployed.core (fun _ => h.admits ha hx) hs'.count

/-- **A transfer is followed**, of a positive amount. -/
theorem Mirrored.transfer (h : Mirrored e w prior) (hs : Steady e w)
    (hs' : Steady e (w.walletTransferred a b n)) (hsends : w.Sends a n) (hn0 : 0 < n)
    (hx : is_excluded_store w.reflection (.primary .trfl b) = false) (hb : b ≠ .zero)
    (ht : Transcribes prior txHash (w.transferral a b n) group) :
    Followed prior group e (w.walletTransferred a b n) := by
  obtain ⟨ha, hn⟩ := hsends.of_pos hn0
  have hcore := hs.launched.deployed.core
  have hwallets : (w.walletTransferred a b n).wallets = ((w.sent a n).ensured b).wallets :=
    World.wallets_walletTransferred ha
  have hnamed : .zero ∉ (w.sent a n).wallets := by
    rw [World.wallets_sent]
    exact h.named
  refine h.moved hs' (hcore.moved_walletTransferred ha hn hx) ?_ ht (fun claims => ?_) ?_ ?_ ?_
  · rw [World.walletTransferred_eq ha, World.custody_logged, World.custody_shares_arrived,
      World.custody_shares_sent]
  · exact .walletTransferred hcore hs.core ha hn0 hn hx (fun _ => h.admits hb hx)
      (hwallets ▸ hs'.count) (routerAgrees_of ht.bodies movements_transferral)
  · rw [movements_transferral]
    simp [EventBody.walletwise]
  · rw [movements_transferral]
    rfl
  · rw [hwallets]
    exact named_ensured hnamed hb

/-- **A claim is followed.** -/
theorem Mirrored.claim (h : Mirrored e w prior) (hs : Steady e w)
    (hs' : Steady e (w.materialized a n true .MANUAL)) (hn0 : 0 < n)
    (hn : n ≤ w.pending (some a)) (ht : Transcribes prior txHash (w.claiming a n) group) :
    Followed prior group e (w.materialized a n true .MANUAL) := by
  have hcore := hs.launched.deployed.core
  have ha : a ∈ w.reflection.positions := by
    by_contra hne
    rw [hcore.membership.pending_of_notMem hne] at hn
    omega
  have hmoved := hcore.moved_materialized ha hn true .MANUAL
  have hcash := World.cash_eq hmoved.frame
  have hclaimed : ((w.materialized a n true .MANUAL).position a).claimed
      = (w.position a).claimed + n := by
    have hstand := w.stand_materialized e w.cash (fun _ => 0) ha hn0.ne' true .MANUAL
    have hcore := congrArg (fun s : Stand => s.core.claimed (some a)) hstand
    simpa [Stand.materialized, Act.apply] using hcore
  refine h.walletwise hs' ht (fun claims hclaims => ⟨Function.update claims a (claims a + n),
    fun b => ?_, hcash.symm ▸ .claim hcore hs.core hn0 hn (hclaims a)⟩) ?_ ?_ ?_ ?_
    hmoved.frame.wallets
  · by_cases hb : b = a
    · rw [hb, Function.update_self, hclaimed]
      exact Nat.add_le_add_right (hclaims a) n
    · rw [Function.update_of_ne hb]
      exact (hclaims b).trans (claimed_mono hmoved b)
  · simp [World.claiming, normalized, EventBody.walletwise]
  · simp [World.claiming, normalized, ClaimsPaired, EventBody.explicitClaim,
      EventBody.materialization]
  · exact h.knows.congr hmoved.frame.fee_bps hmoved.frame.exclusions
      (by rw [World.custody_materialized]) hmoved.frame.usd
  · rw [World.wallets, World.custody_materialized]
    exact h.named

/-- What is neither kept in the core nor in a store does not show. -/
theorem Mirrored.congr {w' : World} (h : Mirrored e w prior)
    (hreflection : w'.reflection = w.reflection) (hcustody : w'.custody = w.custody)
    (hbalance : w'.balance = w.balance) : Mirrored e w' prior := by
  have hstand : ∀ claims, w'.stand e w'.cash claims = w.stand e w.cash claims := by
    intro claims
    have hcash : w'.cash = w.cash := by
      unfold World.cash
      rw [hbalance]
    simp only [World.stand, World.coreLedger, World.wallets, World.raw, World.position, hcash,
      hreflection, hcustody, hbalance]
  obtain ⟨claims, hclaims, hm⟩ := h.mirrors
  refine ⟨⟨claims, ?_, (hstand claims).symm ▸ hm⟩, h.knows.congr ?_ ?_ ?_ ?_, ?_, ?_⟩
  · simpa only [World.position, hreflection] using hclaims
  · rw [hreflection]
  · rw [hreflection]
  · rw [hcustody]
  · rw [World.usd, hbalance, World.usd]
  · rw [World.wallets, hcustody]
    exact h.named
  · rw [World.wallets, hcustody]
    exact h.owners

/-- **A call that emits nothing is followed.** -/
theorem Mirrored.nothing (h : Mirrored e w prior) (ht : Transcribes prior txHash [] group) :
    Followed prior group e w := by
  obtain rfl : group = [] := by
    have hbodies := ht.bodies
    rwa [List.filterMap_nil, List.map_eq_nil_iff] at hbodies
  exact ⟨prior, accepted_eq_some.mpr (Or.inl ⟨List.mergeSort_nil, rfl⟩), h, rfl⟩

/-- **A grant of tRFL is followed.** -/
theorem Mirrored.claim_trfl {operator : Address} (h : Mirrored e w prior) (hs : Steady e w)
    (hs' : Steady e (w.granted a n operator)) (hn0 : 0 < n)
    (hx : is_excluded_store w.reflection (.primary .trfl a) = false) (ha : a ≠ .zero)
    (hn : n ≤ w.balance .distribution_vault)
    (ht : Transcribes prior txHash (w.grant a n operator) group) :
    Followed prior group e (w.granted a n operator) := by
  have hcore := hs.launched.deployed.core
  have hwallets : (w.granted a n operator).wallets = (w.ensured a).wallets :=
    w.wallets_granted operator
  refine h.moved hs' (hcore.moved_granted hx hn operator) (w.custody_shares_granted a n operator) ht
    (fun claims => ?_) ?_ ?_ ?_
  · exact .faucetGranted hcore hs.core hx (fun _ => h.admits ha hx) (hwallets ▸ hs'.count) hn0 hn
      operator
  · rw [movements_grant]
    simp [EventBody.walletwise]
  · rw [movements_grant]
    rfl
  · rw [hwallets]
    exact named_ensured h.named ha

/-- **A grant of tUSD is followed**, once the account has a position. -/
theorem Mirrored.claim_tusd {operator : Address} (h : Mirrored e w prior) (hs : Steady e w)
    (hs' : Steady e (w.usdMinted a n operator)) (hn0 : 0 < n) (hn : n < 2 ^ 64)
    (ha : a ∈ w.reflection.positions)
    (ht : Transcribes prior txHash [.MockUsdMinted a n operator] group) :
    Followed prior group e (w.usdMinted a n operator) := by
  refine h.walletwise hs' ht (fun claims hclaims => ⟨claims, hclaims,
    .usdMinted hs.launched.deployed.core ha hn0 hn operator⟩) ?_ ?_ ?_ h.named subset_rfl
  · simp [normalized, EventBody.walletwise]
  · simp [normalized, ClaimsPaired, EventBody.explicitClaim]
  · refine h.knows.congr rfl rfl rfl ?_
    show Function.update w.balance (.primary .tusd a) (w.balance (.primary .tusd a) + n)
      .usd_reserve = w.balance .usd_reserve
    rw [Function.update_of_ne (by simp)]

end Calls

end indexer

end CedraReflect
