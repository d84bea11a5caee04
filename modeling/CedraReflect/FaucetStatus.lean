/-
The status of a faucet, and the claims it is about.

The status is made of three views: the constants of the faucet, the last claim
of the account, and what is left to distribute. A claim asks for one more thing
of the pool and one more of the claimant, so that the two agree exactly while
the pool is live and the claimant eligible, or where the status says no.
-/
import CedraReflect.Closure
import CedraReflect.NodeViews

set_option autoImplicit false
set_option linter.constructorNameAsVariable false
set_option synthInstance.maxSize 1000000000000

namespace CedraReflect

open reflection_token (is_excluded_store TOTAL_SUPPLY)
open test_faucet (FIXED_TRFL_GRANT FIXED_TUSD_GRANT FIXED_COOLDOWN_SECONDS)
open NamedAddresses (reflection_core test_assets test_amm)

/-! ## The dispenser along a run -/

namespace World

/-- What the claims of the faucet are about: the faucet, the clock, and what is left
to distribute. -/
def dispenser (w : World) : Option FaucetState × ℕ × ℕ :=
  (w.faucet, w.now_seconds, w.balance .distribution_vault)

end World

theorem Frame.dispenser {w w' : World} (h : Frame w w')
    (hvault : w'.balance .distribution_vault = w.balance .distribution_vault) :
    w'.dispenser = w.dispenser := by
  rw [World.dispenser, h.faucet, h.now_seconds, hvault, World.dispenser]

namespace World

section Dispenser

variable (w : World) (e : LpEpoch) (a : Address) (n : ℕ)

@[simp] theorem dispenser_logged (event : Event) : (w.logged event).dispenser = w.dispenser := rfl

@[simp] theorem dispenser_withEpoch (active : ℕ) : (w.withEpoch active e).dispenser = w.dispenser :=
  rfl

@[simp] theorem dispenser_debit (ref : Metadata) {s : Address} (hs : .distribution_vault ≠ s) :
    (w.debit ref s n).dispenser = w.dispenser := by
  simp [dispenser, Function.update_of_ne hs]

@[simp] theorem dispenser_credit (ref : Metadata) {s : Address} (hs : .distribution_vault ≠ s) :
    (w.credit ref s n).dispenser = w.dispenser := by
  simp [dispenser, Function.update_of_ne hs]

@[simp] theorem dispenser_walletDebited : (w.walletDebited a n).dispenser = w.dispenser :=
  Frame.walletDebited.dispenser (by simp [walletDebited, removeRaw])

@[simp] theorem dispenser_walletCredited : (w.walletCredited a n).dispenser = w.dispenser :=
  Frame.walletCredited.dispenser (by simp [walletCredited, addRaw])

@[simp] theorem dispenser_poolDebited : (w.poolDebited n).dispenser = w.dispenser :=
  Frame.poolDebited.dispenser (by simp [poolDebited, removeCustody])

@[simp] theorem dispenser_poolCredited : (w.poolCredited n).dispenser = w.dispenser :=
  Frame.poolCredited.dispenser (by simp [poolCredited, addCustody])

@[simp] theorem dispenser_ensured : (w.ensured a).dispenser = w.dispenser := by
  unfold ensured
  split
  · rfl
  · exact (Frame.enrolled _).dispenser rfl

@[simp] theorem dispenser_materialized (claim : Bool) (trigger : Trigger) :
    (w.materialized a n claim trigger).dispenser = w.dispenser := by
  refine (Frame.materialized claim trigger).dispenser ?_
  unfold materialized
  cases claim <;> simp [walletPaid, walletCredited, addRaw, logged]

@[simp] theorem dispenser_materializedAll (claim : Bool) (trigger : Trigger) :
    (w.materializedAll a claim trigger).dispenser = w.dispenser := by
  unfold materializedAll
  split <;> simp

@[simp] theorem dispenser_feeTaken (gross fee kind : ℕ) :
    (w.feeTaken a gross fee kind).dispenser = w.dispenser := by
  refine (Frame.feeTaken gross fee kind).dispenser ?_
  unfold feeTaken collected
  split
  · rfl
  · split <;> simp [setAside, indexed, logged]

@[simp] theorem dispenser_paidOut : (w.paidOut a n).dispenser = w.dispenser := by
  simp [paidOut]

@[simp] theorem dispenser_lpClaimed : (w.lpClaimed e a n).dispenser = w.dispenser := by
  simp [lpClaimed, lpPaid]

@[simp] theorem dispenser_rewarded : (w.rewarded e a).dispenser = w.dispenser := by
  unfold rewarded
  split <;> simp

@[simp] theorem dispenser_routed (epoch : ℕ) : (w.routed n epoch).dispenser = w.dispenser :=
  (Frame.routed epoch).dispenser (by simp [routed, poolPaid, logged])

@[simp] theorem dispenser_checkpointed : (w.checkpointed e).dispenser = w.dispenser := by
  unfold checkpointed
  split <;> simp [lpReceived]

@[simp] theorem dispenser_exitLogged : (w.exitLogged e a).dispenser = w.dispenser := by
  unfold exitLogged
  split <;> simp

@[simp] theorem dispenser_usdIn : (w.usdIn a n).dispenser = w.dispenser := by
  simp [usdIn]

@[simp] theorem dispenser_usdOut : (w.usdOut a n).dispenser = w.dispenser := by
  simp [usdOut]

@[simp] theorem dispenser_shutDown : (w.shutDown e).dispenser = w.dispenser := rfl

@[simp] theorem dispenser_sent : (w.sent a n).dispenser = w.dispenser := by simp [sent]

@[simp] theorem dispenser_arrived : (w.arrived a n).dispenser = w.dispenser := by simp [arrived]

@[simp] theorem dispenser_sentFrom : (w.sentFrom a n).dispenser = w.dispenser := by
  unfold sentFrom
  split <;> simp

@[simp] theorem dispenser_sold (fee : ℕ) : (w.sold a n fee).dispenser = w.dispenser := by
  simp [sold]

@[simp] theorem dispenser_bought (fee : ℕ) : (w.bought a n fee).dispenser = w.dispenser := by
  simp [bought]

@[simp] theorem dispenser_provided : (w.provided a n).dispenser = w.dispenser := by
  simp [provided]

@[simp] theorem dispenser_liquidityRemoved :
    (w.liquidityRemoved e a n).dispenser = w.dispenser := by
  simp [liquidityRemoved, released, lpWithdrawn]

/-- A grant of tRFL comes out of what is left. -/
theorem dispenser_granted (operator : Address) :
    (w.granted a n operator).dispenser
      = (w.faucet, w.now_seconds, w.balance .distribution_vault - n) := by
  have hready : ((w.ensured a).materializedAll a false .FAUCET).dispenser = w.dispenser := by simp
  have hdebit : ∀ u : World, (u.debit .trfl .distribution_vault n).dispenser
      = (u.dispenser.1, u.dispenser.2.1, u.dispenser.2.2 - n) := by
    intro u
    simp [dispenser]
  rw [granted, dispenser_logged, dispenser_walletCredited, hdebit, hready]
  rfl

/-- A grant of tUSD is fresh. -/
theorem dispenser_usdMinted (operator : Address) :
    (w.usdMinted a n operator).dispenser = w.dispenser := by
  simp [usdMinted, dispenser, logged]

end Dispenser

end World

/-- The calls that write the dispenser: the claims of the faucet, and the clock's. -/
def Call.dispenses : Call → Bool
  | .claim_trfl _ | .claim_tusd _ | .tick _ => true
  | _ => false

/-- **The frame lemma of the dispenser.** -/
theorem Transition.dispenser [NamedAddresses] {e e' : LpEpoch} {w w' : World} {c : Call}
    (ht : Transition e w c e' w') (hc : c.dispenses = false) : w'.dispenser = w.dispenser := by
  have htusd : ∀ {store : Address}, store.store_metadata = some .tusd →
      Address.distribution_vault ≠ store := by
    rintro store hm rfl
    cases hm
  cases ht with
  | claim_trfl => cases hc
  | claim_tusd => cases hc
  | tick => cases hc
  | withdraw_tusd hm _ _ => exact w.dispenser_debit _ _ (htusd hm)
  | deposit_tusd hm _ _ => exact w.dispenser_credit _ _ (htusd hm)
  | sell _ => simp [World.sellSwapped]
  | buy _ => simp [World.buySwapped]
  | add _ => simp [World.liquidityAdded, World.lpMinted]
  | remove _ _ => simp [World.removedPart]
  | remove_all _ _ => simp [World.removedAll]
  | transfer_shares _ => simp [World.sharesTransferred, World.lpTransferred]
  | transfer _ _ => simp [World.walletTransferred, World.transferred]
  | _ => simp

/-! ## The faucet along a run -/

/-- Both capabilities are the ones that were handed out, and no claim lies in the
future. -/
structure FaucetState.Sound (f : FaucetState) (now : ℕ) : Prop where
  rfl_cap : f.rfl_cap.nonce = 1
  usd_cap : f.usd_cap.nonce = 1
  last_trfl_claim : ∀ a previous, f.last_trfl_claim.lookup a = some previous → previous ≤ now
  last_tusd_claim : ∀ a previous, f.last_tusd_claim.lookup a = some previous → previous ≤ now

namespace FaucetState.Sound

variable {f : FaucetState} {now : ℕ}

/-- The faucet as it is handed out. -/
theorem fresh (now : ℕ) : FaucetState.Sound ⟨⟨1⟩, ⟨1⟩, ∅, ∅⟩ now := by
  refine ⟨rfl, rfl, ?_, ?_⟩
  · intro a previous hprevious
    rw [Finmap.lookup_empty] at hprevious
    cases hprevious
  · intro a previous hprevious
    rw [Finmap.lookup_empty] at hprevious
    cases hprevious

theorem later (h : f.Sound now) (n : ℕ) : f.Sound (now + n) :=
  ⟨h.rfl_cap, h.usd_cap,
    fun a previous hp => (h.last_trfl_claim a previous hp).trans (Nat.le_add_right _ _),
    fun a previous hp => (h.last_tusd_claim a previous hp).trans (Nat.le_add_right _ _)⟩

/-- A table of past claims stays one when a claim of the present is added. -/
theorem past_insert {claims : Table Address ℕ}
    (h : ∀ a previous, claims.lookup a = some previous → previous ≤ now) (b a : Address)
    (previous : ℕ) (hp : (claims.insert b now).lookup a = some previous) : previous ≤ now := by
  by_cases hab : a = b
  · subst hab
    rw [Finmap.lookup_insert] at hp
    injection hp with hp
    omega
  · rw [Finmap.lookup_insert_of_ne _ hab] at hp
    exact h a previous hp

end FaucetState.Sound

/-- The faucet of a state, where there is one. -/
def World.FaucetSound (w : World) : Prop := ∀ f ∈ w.faucet, f.Sound w.now_seconds

theorem World.FaucetSound.congr {w w' : World} (h : w.FaucetSound) (hf : w'.faucet = w.faucet)
    (hnow : w'.now_seconds = w.now_seconds) : w'.FaucetSound := by
  unfold World.FaucetSound
  rw [hf, hnow]
  exact h

section Run

variable [NamedAddresses] {arithmetic : Arithmetic} {fee_bps : ℕ} {w w' : World} {c : Call}
  {e e' : LpEpoch}

/-- **The step lemma of the faucet.** -/
theorem Transition.faucetSound (ht : Transition e w c e' w') (h : w.FaucetSound) :
    w'.FaucetSound := by
  have hkept : c.dispenses = false → w'.FaucetSound := fun hc =>
    h.congr (congrArg Prod.fst (ht.dispenser hc)) (congrArg (·.2.1) (ht.dispenser hc))
  cases ht with
  | @claim_trfl a f hf _ _ _ =>
      have hs := h f hf
      have hclaimed : (w.trflClaimed a f).FaucetSound := by
        rintro g ⟨⟩
        exact ⟨hs.rfl_cap, hs.usd_cap, FaucetState.Sound.past_insert hs.last_trfl_claim a,
          hs.last_tusd_claim⟩
      have hgranted := (w.trflClaimed a f).dispenser_granted a FIXED_TRFL_GRANT test_assets
      exact hclaimed.congr (congrArg Prod.fst hgranted) (congrArg (·.2.1) hgranted)
  | @claim_tusd a f hf _ =>
      have hs := h f hf
      rintro g ⟨⟩
      exact ⟨hs.rfl_cap, hs.usd_cap, hs.last_trfl_claim,
        FaucetState.Sound.past_insert hs.last_tusd_claim a⟩
  | tick =>
      intro f hf
      exact (h f hf).later _
  | _ => exact hkept rfl

theorem Configuring.faucetSound (h : Configuring fee_bps w) : w.FaucetSound := by
  obtain ⟨faucet, bound, now, rfl⟩ := h
  intro f hf
  cases faucet with
  | false => cases hf
  | true =>
      obtain rfl := Option.some.inj hf
      exact .fresh _

/-- **The run lemma of the faucet.** -/
theorem Reachable.faucetSound (h : Reachable arithmetic fee_bps w) : w.FaucetSound := by
  induction h with
  | @genesis admin w hg =>
      have hs : Sound arithmetic (reflection_token.initialize_token admin fee_bps) := inferInstance
      obtain ⟨-, -, rfl⟩ := (Tx.commits_initialize_token ()).mp (hs.commits hg)
      exact Configuring.faucetSound (show Configuring fee_bps _ from ⟨false, false, 0, rfl⟩)
  | @call c w w' hw hc ih =>
      obtain ⟨hfee, hconf | ⟨hl, -⟩⟩ := hw.phase
      · obtain hconf' | ⟨-, -, -, now, rfl⟩ := hconf.call hfee hc.ideal
        · exact hconf'.faucetSound
        · intro f hf
          obtain rfl := Option.some.inj hf
          exact .fresh _
      · obtain ⟨e', ht⟩ := hl.transition hc.ideal
        exact ht.faucetSound ih

/-- A launched system has a faucet. -/
theorem Reachable.faucet (h : Reachable arithmetic fee_bps w)
    (hl : w.reflection.lifecycle ≠ .CONFIGURING) :
    ∃ f, w.faucet = some f ∧ f.Sound w.now_seconds := by
  obtain ⟨e, hlaunched⟩ := h.launched hl
  obtain ⟨f, hf⟩ := Option.isSome_iff_exists.mp hlaunched.deployed.faucet
  exact ⟨f, hf, h.faucetSound f hf⟩

/-! ## The claims -/

namespace sdk.FaucetAsset

/-- The claim of an asset. -/
def claim : FaucetAsset → Address → Call
  | tRFL, a => .claim_trfl a
  | tUSD, a => .claim_tusd a

/-- The claims of an asset so far. -/
def last_claims : FaucetAsset → FaucetState → Table Address ℕ
  | tRFL, f => f.last_trfl_claim
  | tUSD, f => f.last_tusd_claim

end sdk.FaucetAsset

namespace World

variable (w : World) (asset : sdk.FaucetAsset) (a : Address)

/-- What a claim asks for and the status does not: an open pool, and of tRFL a
claimant that may hold it. -/
def Serves : Prop :=
  w.reflection.lifecycle = .LIVE
    ∧ (asset = .tRFL → is_excluded_store w.reflection (.primary .trfl a) = false)

/-- The faucet can grant: of tRFL it has what is left, of tUSD anything. -/
def Stocked : Prop := asset = .tRFL → FIXED_TRFL_GRANT ≤ w.balance .distribution_vault

/-- The cooldown of the claimant is over. -/
def Ready : Prop := ∃ f, w.faucet = some f ∧ w.Available a (asset.last_claims f)

end World

/-- **A claim commits** where the pool serves, the faucet is stocked and the
claimant ready. -/
theorem Reachable.executes_claim (h : Reachable arithmetic fee_bps w)
    (hl : w.reflection.lifecycle ≠ .CONFIGURING) (asset : sdk.FaucetAsset) (a : Address) :
    (∃ w', Tx.Executes (asset.claim a).run w () w') ↔
      w.Serves asset a ∧ w.Stocked asset ∧ w.Ready asset a := by
  obtain ⟨e, hlaunched⟩ := h.launched hl
  -- The cap never refuses: it is the one that the dispenser was set up with.
  have hsound := h.faucetSound
  cases asset with
  | tRFL =>
      constructor
      · intro ⟨w', hw'⟩
        obtain ⟨hlive, f, hf, havailable, -, heligible, hfunds, -⟩ :=
          (Tx.commits_claim_trfl hlaunched ()).mp hw'.ideal
        exact ⟨⟨hlive, fun _ => heligible⟩, fun _ => hfunds, f, hf, havailable⟩
      · intro ⟨⟨hlive, heligible⟩, hfunds, f, hf, havailable⟩
        have hcap := (hsound f hf).rfl_cap
        have hc := (Tx.commits_claim_trfl hlaunched ()).mpr
          ⟨hlive, f, hf, havailable, hcap, heligible rfl, hfunds rfl, rfl⟩
        exact ⟨_, hc.executes (Call.claim_trfl a).sound⟩
  | tUSD =>
      constructor
      · intro ⟨w', hw'⟩
        obtain ⟨hlive, f, hf, havailable, -, -⟩ :=
          (Tx.commits_claim_tusd hlaunched ()).mp hw'.ideal
        exact ⟨⟨hlive, nofun⟩, nofun, f, hf, havailable⟩
      · intro ⟨⟨hlive, _⟩, _, f, hf, havailable⟩
        have hcap := (hsound f hf).usd_cap
        have hc := (Tx.commits_claim_tusd hlaunched ()).mpr ⟨hlive, f, hf, havailable, hcap, rfl⟩
        exact ⟨_, hc.executes (Call.claim_tusd a).sound⟩

/-- After a short run, the claimant can be counted and its store has room for the
grant. -/
def World.GrantRoom (fee_bps : ℕ) (w : World) (asset : sdk.FaucetAsset) (a : Address) : Prop :=
  ShortRun fee_bps w ∧ (insert a w.wallets).card < 2 ^ 64
    ∧ (asset = .tUSD → w.balance (.primary .tusd a) + FIXED_TUSD_GRANT < 2 ^ 64)

/-- What executes commits on the machine, where the grant has room. -/
theorem Reachable.performs_claim (h : Reachable arithmetic fee_bps w) {asset : sdk.FaucetAsset}
    {a : Address} {w' : World} (hx : Tx.Executes (asset.claim a).run w () w') :
    Tx.Performs (w.GrantRoom fee_bps asset a) (asset.claim a).run w () w' := by
  cases asset with
  | tRFL =>
      exact h.core.performs (m := test_faucet.claim_trfl a) hx fun hf =>
        Tx.fits_claim_trfl h.core hf.1.narrow hf.2.1
  | tUSD =>
      exact hx.performs (fun _ => Tx.spares (m := test_faucet.claim_tusd a)) fun hf =>
        Tx.spacious_claim_tusd h.core (hf.2.2 rfl)

/-! ## The status -/

open sdk (FinalizedCedraReadAdapter ValidatedIdentity ViewValue FunctionId FaucetStatus)
open indexer (ok_bind throwIf)

section Status

variable {adapter : FinalizedCedraReadAdapter} {identity : ValidatedIdentity}

/-- The answer of `last_claim`. -/
theorem World.viewJson_last_claim {f : FaucetState} (hf : w.faucet = some f) (a : Address)
    (asset : sdk.FaucetAsset) :
    w.viewJson (.view test_assets "test_faucet" "last_claim")
        [.address a, .boolean (asset = .tRFL)]
      = .ok [.boolean ((asset.last_claims f).lookup a).isSome,
          sdk.decimal (((asset.last_claims f).lookup a).getD 0)] := by
  rw [sdk.viewJson_eq_ok test_assets rfl rfl]
  refine ⟨w, ?_⟩
  have htable : (if decide (asset = .tRFL) = true then f.last_trfl_claim else f.last_tusd_claim)
      = asset.last_claims f := by
    cases asset <;> rfl
  simp only [test_faucet.last_claim, test_faucet.borrow_faucet, Tx.commits_bind, Tx.commits_gets,
    Tx.commits_expect, hf, Option.some.injEq, and_assoc, exists_and_left, exists_eq_left,
    exists_eq_left', htable]
  cases (asset.last_claims f).lookup a with
  | none => simp
  | some previous => simp

namespace sdk.FinalizedCedraReadAdapter.Pins

/-- The three reads of the status. -/
theorem faucet_reads (hp : adapter.Pins w identity) {f : FaucetState} (hf : w.faucet = some f)
    (a : Address) (asset : FaucetAsset) :
    adapter.tuple identity.version test_assets "test_faucet" "configuration" [] 3
        = .ok [decimal FIXED_TRFL_GRANT, decimal FIXED_TUSD_GRANT, decimal FIXED_COOLDOWN_SECONDS]
      ∧ adapter.tuple identity.version test_assets "test_faucet" "last_claim"
          [.address a, .boolean (asset = .tRFL)] 2
        = .ok [.boolean ((asset.last_claims f).lookup a).isSome,
          decimal (((asset.last_claims f).lookup a).getD 0)]
      ∧ adapter.scalar identity.version reflection_core "reflection_token"
          "distribution_vault_balance" [] = .ok (decimal (w.balance .distribution_vault)) := by
  refine ⟨?_, ?_, ?_⟩
  · rw [tuple_eq_ok, hp.views, viewJson_eq_ok test_assets rfl rfl]
    exact ⟨⟨w, by simp [test_faucet.configuration]⟩, rfl⟩
  · rw [tuple_eq_ok, hp.views, World.viewJson_last_claim hf]
    exact ⟨rfl, rfl⟩
  · rw [scalar_eq_ok, hp.views, viewJson_eq_ok reflection_core rfl rfl]
    exact ⟨w, by simp [reflection_token.distribution_vault_balance]⟩

/-- The cooldown is compared two ways, and in the range of a header's timestamp
they agree: the end of it is a `u64`, and it has passed when the faucet's clock
lets the claimant. -/
theorem cooldown (hp : adapter.Pins w identity) {claims : Table Address ℕ} {a : Address}
    {last : Option ℕ} (hlast : last = claims.lookup a)
    (hpast : ∀ a previous, claims.lookup a = some previous → previous ≤ w.now_seconds) :
    last.getD 0 < 2 ^ 64
      ∧ ¬ (U64_MAX < if last.isSome = true then
        ((last.getD 0 : ℕ) : ℤ) + (FIXED_COOLDOWN_SECONDS : ℕ) else 0)
      ∧ ((last.isSome = false ∨ ((last.getD 0 : ℕ) : ℤ) ≤ identity.timestampUnixSeconds
          ∧ (if last.isSome = true then
            ((last.getD 0 : ℕ) : ℤ) + (FIXED_COOLDOWN_SECONDS : ℕ) else 0)
              ≤ identity.timestampUnixSeconds) ↔ w.Available a claims) := by
  have hle := hp.identified.timestamp_le
  rw [hp.clock] at hle
  unfold U64_MAX LEDGER_TIMESTAMP_MICROSECONDS at hle
  rw [World.Available, ← hlast, hp.clock]
  unfold U64_MAX FIXED_COOLDOWN_SECONDS
  cases last with
  | none => simp
  | some previous =>
      have hprevious := hpast a previous hlast.symm
      simp only [Option.isSome_some, Option.getD_some, if_true, Option.some.injEq, forall_eq',
        Bool.true_eq_false, false_or]
      omega

/-- **The status** says whether the faucet is stocked and the claimant ready. -/
theorem getFaucetStatus (hp : adapter.Pins w identity) (h : Reachable arithmetic fee_bps w)
    (hl : w.reflection.lifecycle ≠ .CONFIGURING) {a : Address} (ha : a ≠ .zero)
    (asset : FaucetAsset) :
    ∃ status, adapter.getFaucetStatus a asset = .ok status
      ∧ (status.canClaim = true ↔ w.Stocked asset ∧ w.Ready asset a) := by
  have hid := hp.identified
  obtain ⟨e, hlaunched⟩ := h.launched hl
  obtain ⟨f, hf, hsound⟩ := h.faucet hl
  have hready : w.Ready asset a ↔ w.Available a (asset.last_claims f) := by
    rw [World.Ready, hf]
    simp only [Option.some.injEq, exists_eq_left']
  -- A claim lies in the past, so that the adapter's check of the cooldown's end passes.
  have hpast : ∀ b previous, (asset.last_claims f).lookup b = some previous →
      previous ≤ w.now_seconds := by
    cases asset with
    | tRFL => exact hsound.last_trfl_claim
    | tUSD => exact hsound.last_tusd_claim
  have hfits : w.balance .distribution_vault < 2 ^ 64 := by
    have := hlaunched.deployed.core.supply.balance_le .distribution_vault rfl
    unfold TOTAL_SUPPLY at this
    omega
  obtain ⟨hconfiguration, hlast, hbalance⟩ := hp.faucet_reads hf a asset
  obtain ⟨last, hlookup⟩ : ∃ last, last = (asset.last_claims f).lookup a := ⟨_, rfl⟩
  obtain ⟨hprevious, hends, havailable⟩ := hp.cooldown hlookup hpast
  rw [← hlookup] at hlast
  have hnonzero : nonzeroAddress a "account" = .ok a := by
    simp only [nonzeroAddress, throwIf, if_neg ha, ok_bind]
    rfl
  have hgrant : ∀ id, unsigned (decimal FIXED_TRFL_GRANT) 64 id = .ok (FIXED_TRFL_GRANT : ℤ) :=
    unsigned_decimal (by decide)
  have hgrant' : ∀ id, unsigned (decimal FIXED_TUSD_GRANT) 64 id = .ok (FIXED_TUSD_GRANT : ℤ) :=
    unsigned_decimal (by decide)
  have hcooldown : ∀ id, unsigned (decimal FIXED_COOLDOWN_SECONDS) 64 id
      = .ok (FIXED_COOLDOWN_SECONDS : ℤ) := unsigned_decimal (by decide)
  rw [hready, ← havailable]
  unfold FinalizedCedraReadAdapter.getFaucetStatus
  simp only [hnonzero, ok_bind, hp.accepted, hid.assets, hid.core, hconfiguration, hlast]
  cases asset with
  | tRFL =>
      simp only [if_true, hbalance, ok_bind, entry, List.getD_cons_zero, List.getD_cons_succ,
        hgrant, hcooldown, boolean, unsigned_decimal hfits, unsigned_decimal hprevious, throwIf,
        if_neg hends]
      refine ⟨_, rfl, ?_⟩
      rw [decide_eq_true_iff]
      refine and_congr_left fun _ => ?_
      simp only [reduceCtorEq, false_or, World.Stocked, true_implies, Int.ofNat_le]
  | tUSD =>
      simp only [reduceCtorEq, if_false, pure, Except.pure, ok_bind, entry, List.getD_cons_zero,
        List.getD_cons_succ, hgrant', hcooldown, boolean, unsigned_decimal hprevious, throwIf,
        if_neg hends]
      refine ⟨_, rfl, ?_⟩
      rw [decide_eq_true_iff]
      refine and_congr_left fun _ => ?_
      simp [World.Stocked]

end sdk.FinalizedCedraReadAdapter.Pins

/-- **When the faucet's status tells the truth.** In every launched state, for
every account and either asset, `canClaim` is whether the claim commits if and
only if the pool serves the claimant, or else the status says no already: the
faucet is not stocked, or the claimant not ready. A claim that executes commits
on the machine after a short run, if the grant has room. -/
theorem faucet_status_truthful (h : Reachable arithmetic fee_bps w)
    (hl : w.reflection.lifecycle ≠ .CONFIGURING) (hp : adapter.Pins w identity) {a : Address}
    (ha : a ≠ .zero) (asset : sdk.FaucetAsset) :
    ∃ status, adapter.getFaucetStatus a asset = .ok status
      ∧ ((status.canClaim = true ↔
          ∃ w', Tx.Performs (w.GrantRoom fee_bps asset a) (asset.claim a).run w () w') ↔
        w.Serves asset a ∨ ¬ w.Stocked asset ∨ ¬ w.Ready asset a) := by
  obtain ⟨status, hstatus, hcan⟩ := hp.getFaucetStatus h hl ha asset
  refine ⟨status, hstatus, ?_⟩
  have hclaims : (∃ w', Tx.Performs (w.GrantRoom fee_bps asset a) (asset.claim a).run w () w')
      ↔ ∃ w', Tx.Executes (asset.claim a).run w () w' :=
    exists_congr fun w' => ⟨fun hx => hx.toExecutes, fun hx => h.performs_claim hx⟩
  rw [hcan, hclaims, h.executes_claim hl asset a]
  tauto

end Status

end Run

namespace Sample

open sdk (FaucetStatus)

/-- Where the status is right, of the open sample: the newcomer's claim commits. -/
theorem faucet_status_truthful_traded : ∃ w status w', traded = some w
    ∧ (adapter w).getFaucetStatus (.account 7) .tRFL = .ok status ∧ status.canClaim = true
    ∧ Tx.Commits (Call.claim_trfl (.account 7)).run .machine w () w' := by
  have hserves : (traded.map fun w => decide (w.reflection.lifecycle = .LIVE
      ∧ is_excluded_store w.reflection (.primary .trfl (.account 7)) = false
      ∧ w.now_seconds = 0 ∧ w.custody.registered_wallet_count < 2 ^ 64 - 1
      ∧ (w.faucet.map fun f => f.last_trfl_claim.lookup (.account 7)) = some none
      ∧ FIXED_TRFL_GRANT ≤ w.balance .distribution_vault)) = some true := by
    decide +kernel
  obtain ⟨w, hw⟩ := exists_traded
  rw [hw, Option.map_some] at hserves
  obtain ⟨hlive, heligible, hnow, hcount, hlookup, hstock⟩ :=
    of_decide_eq_true (Option.some.inj hserves)
  obtain ⟨f, hf, hnever⟩ := Option.map_eq_some_iff.mp hlookup
  have hreached := reachable_traded hw
  have hnc : w.reflection.lifecycle ≠ .CONFIGURING := by simp [hlive]
  have hcard : (insert (.account 7) w.wallets).card < 2 ^ 64 := hreached.core.card_insert_lt hcount
  obtain ⟨e, hl⟩ := hreached.launched hnc
  have hserves : w.Serves .tRFL (.account 7) := ⟨hlive, fun _ => heligible⟩
  have hready : w.Ready .tRFL (.account 7) := by
    refine ⟨f, hf, fun previous hprevious => ?_⟩
    rw [sdk.FaucetAsset.last_claims, hnever] at hprevious
    cases hprevious
  obtain ⟨status, hstatus, htruth⟩ := faucet_status_truthful hreached hnc
    (pins_adapter hl (by omega)) (a := .account 7) (by decide) .tRFL
  have hclaims := htruth.mpr (.inl hserves)
  obtain ⟨w', hx⟩ := (hreached.executes_claim hnc .tRFL (.account 7)).mpr
    ⟨hserves, fun _ => hstock, hready⟩
  have hperforms := hreached.performs_claim hx
  exact ⟨w, status, w', hw, hstatus, hclaims.mpr ⟨w', hperforms⟩,
    hperforms.commits ⟨shortRun_traded hw, hcard, nofun⟩⟩

/-- The sample after the exit of its only owner has a status that a newcomer can
claim tUSD, and no claim of it commits. -/
theorem faucet_status_closed : ∃ w status, exited = some w
    ∧ w.reflection.lifecycle = .CLOSED ∧ (adapter w).Pins w (identity w)
    ∧ (adapter w).getFaucetStatus (.account 7) .tUSD = .ok status ∧ status.canClaim = true
    ∧ ¬ ∃ w', (Call.claim_tusd (.account 7)).Commits .machine w w' := by
  have hclosed : (exited.map fun w => decide (w.reflection.lifecycle = .CLOSED
      ∧ (w.faucet.map fun f => f.last_tusd_claim.lookup (.account 7)) = some none
      ∧ w.now_seconds = 0)) = some true := by
    decide +kernel
  obtain ⟨w, hw, hdecided⟩ := Option.map_eq_some_iff.mp hclosed
  obtain ⟨hclosed, hlookup, hnow⟩ := of_decide_eq_true hdecided
  obtain ⟨f, hf, hnever⟩ := Option.map_eq_some_iff.mp hlookup
  have hreached : Reachable .machine 50 w := by
    unfold exited at hw
    exact reachable_of_script hw
  have hl : w.reflection.lifecycle ≠ .CONFIGURING := by simp [hclosed]
  obtain ⟨e, hlaunched⟩ := hreached.launched hl
  have hp := pins_adapter hlaunched (by omega)
  obtain ⟨status, hstatus, hcan⟩ := hp.getFaucetStatus hreached hl (a := .account 7) (by decide)
    .tUSD
  refine ⟨w, status, hw, hclosed, hp, hstatus, ?_, ?_⟩
  · refine hcan.mpr ⟨nofun, f, hf, ?_⟩
    intro previous hprevious
    rw [sdk.FaucetAsset.last_claims, hnever] at hprevious
    cases hprevious
  · intro ⟨w', hc⟩
    -- A closed pool does not serve, which the status does not ask.
    have hserves := ((hreached.executes_claim hl .tUSD (.account 7)).mp
      ⟨w', hc.ideal.executes (Call.claim_tusd (.account 7)).sound⟩).1
    exact absurd (hserves.1.symm.trans hclosed) (by decide)

end Sample

end CedraReflect
