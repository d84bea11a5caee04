/-
What the faucets give away along a run.

Nothing but a claim of tRFL takes from the distribution vault, and each takes
the fixed grant. Between two claims of one account the clock moves by the whole
cooldown, whatever is called in between, so that the clock bounds the number of
claims of a run.
-/
import CedraReflect.FaucetStatus

set_option autoImplicit false
set_option linter.constructorNameAsVariable false

namespace CedraReflect

open reflection_token (is_excluded_store)
open test_faucet (FIXED_TRFL_GRANT FIXED_TUSD_GRANT FIXED_COOLDOWN_SECONDS)

/-! ## The distribution vault -/

/-- The calls that take from the distribution vault. -/
def Call.grant : Call → Bool
  | .claim_trfl _ => true
  | _ => false

section Run

variable [NamedAddresses] {arithmetic : Arithmetic} {fee_bps : ℕ} {w w' : World} {e e' : LpEpoch}
  {c : Call} {cs : List Call}

/-- **The step lemma of the vault.** -/
theorem Transition.stock (ht : Transition e w c e' w') :
    w'.balance .distribution_vault + (if c.grant = true then FIXED_TRFL_GRANT else 0)
      = w.balance .distribution_vault := by
  have hkept : c.dispenses = false →
      w'.balance .distribution_vault = w.balance .distribution_vault := fun hc =>
    congrArg (·.2.2) (ht.dispenser hc)
  cases ht with
  | @claim_trfl a f hf _ _ hfunds =>
      have hgranted := congrArg (·.2.2)
        ((w.trflClaimed a f).dispenser_granted a FIXED_TRFL_GRANT NamedAddresses.test_assets)
      exact (congrArg (· + FIXED_TRFL_GRANT) hgranted).trans (Nat.sub_add_cancel hfunds)
  | @claim_tusd a f _ _ =>
      exact congrArg (·.2.2)
        ((w.tusdClaimed a f).dispenser_usdMinted a FIXED_TUSD_GRANT NamedAddresses.test_assets)
  | tick => rfl
  | _ => exact (Nat.add_zero _).trans (hkept rfl)

/-! ## The cooldown -/

/-- What a call does to the clocks of the faucets: the clock does not go back, a
claim is on time and is written down, and nothing else is. -/
structure Clocked (c : Call) (w : World) (f : FaucetState) (w' : World) (f' : FaucetState) :
    Prop where
  faucet : w'.faucet = some f'
  forward : w.now_seconds ≤ w'.now_seconds
  available : ∀ asset a, c = sdk.FaucetAsset.claim asset a → w.Available a (asset.last_claims f)
  claimed : ∀ asset a, c = sdk.FaucetAsset.claim asset a →
    (asset.last_claims f').lookup a = some w.now_seconds
  kept : ∀ asset a, c ≠ sdk.FaucetAsset.claim asset a →
    (asset.last_claims f').lookup a = (asset.last_claims f).lookup a

omit [NamedAddresses] in
theorem Clocked.still {f : FaucetState} (hf : w.faucet = some f)
    (hc : ∀ asset a, c ≠ sdk.FaucetAsset.claim asset a) (hw : w'.faucet = w.faucet)
    (hnow : w.now_seconds ≤ w'.now_seconds) : Clocked c w f w' f :=
  ⟨hw.trans hf, hnow, fun asset a h => absurd h (hc asset a),
    fun asset a h => absurd h (hc asset a), fun _ _ _ => rfl⟩

/-- What is no claim leaves the faucets alone, and the clock goes on. -/
theorem Transition.clocks (ht : Transition e w c e' w')
    (hc : ∀ asset a, c ≠ sdk.FaucetAsset.claim asset a) :
    w'.faucet = w.faucet ∧ w.now_seconds ≤ w'.now_seconds := by
  have hkept : c.dispenses = false → w'.faucet = w.faucet ∧ w.now_seconds ≤ w'.now_seconds :=
    fun h => ⟨congrArg Prod.fst (ht.dispenser h), (congrArg (·.2.1) (ht.dispenser h)).ge⟩
  cases ht with
  | claim_trfl => exact absurd rfl (hc .tRFL _)
  | claim_tusd => exact absurd rfl (hc .tUSD _)
  | tick => exact ⟨rfl, Nat.le_add_right _ _⟩
  | _ => exact hkept rfl

/-- **The step lemma of the clocks.** -/
theorem Launched.clocked (h : Launched e w) {f : FaucetState} (hf : w.faucet = some f)
    (hc : c.Commits .ideal w w') : ∃ f', Clocked c w f w' f' := by
  by_cases hclaim : ∃ asset a, c = sdk.FaucetAsset.claim asset a
  · obtain ⟨asset, a, rfl⟩ := hclaim
    cases asset with
    | tRFL =>
        obtain ⟨-, g, hg, havailable, -, -, -, rfl⟩ := (Tx.commits_claim_trfl h ()).mp hc
        obtain rfl := Option.some.inj (hf.symm.trans hg)
        have hd := (w.trflClaimed a f).dispenser_granted a FIXED_TRFL_GRANT
          NamedAddresses.test_assets
        refine ⟨_, congrArg Prod.fst hd, (congrArg (·.2.1) hd).ge, ?_, ?_, ?_⟩
        · rintro (_ | _) b ⟨⟩
          exact havailable
        · rintro (_ | _) b ⟨⟩
          exact Finmap.lookup_insert _
        · rintro (_ | _) b hb
          · exact Finmap.lookup_insert_of_ne _ fun hab => hb (by rw [hab])
          · rfl
    | tUSD =>
        obtain ⟨-, g, hg, havailable, -, rfl⟩ := (Tx.commits_claim_tusd h ()).mp hc
        obtain rfl := Option.some.inj (hf.symm.trans hg)
        refine ⟨_, rfl, le_rfl, ?_, ?_, ?_⟩
        · rintro (_ | _) b ⟨⟩
          exact havailable
        · rintro (_ | _) b ⟨⟩
          exact Finmap.lookup_insert _
        · rintro (_ | _) b hb
          · rfl
          · exact Finmap.lookup_insert_of_ne _ fun hab => hb (by rw [hab])
  · push Not at hclaim
    obtain ⟨e', ht⟩ := h.transition hc
    obtain ⟨hfaucet, hnow⟩ := ht.clocks hclaim
    exact ⟨f, .still hf hclaim hfaucet hnow⟩

omit [NamedAddresses] in
theorem FaucetState.Sound.past {f : FaucetState} {now : ℕ} (h : f.Sound now)
    (asset : sdk.FaucetAsset) {a : Address} {previous : ℕ}
    (hp : (asset.last_claims f).lookup a = some previous) : previous ≤ now := by
  cases asset with
  | tRFL => exact h.last_trfl_claim a previous hp
  | tUSD => exact h.last_tusd_claim a previous hp

/-- **The run lemma of the cooldown.** Counted from the last claim there is, every
claim of a run takes a whole cooldown; counted from the start, every claim but
the first. -/
theorem Launched.cooldown (h : Launched e w) {f : FaucetState} (hf : w.faucet = some f)
    (hsound : w.FaucetSound) (hs : Calls arithmetic w cs w') (asset : sdk.FaucetAsset)
    (a : Address) :
    (∀ previous, (asset.last_claims f).lookup a = some previous →
        previous + cs.count (asset.claim a) * FIXED_COOLDOWN_SECONDS ≤ w'.now_seconds)
      ∧ w.now_seconds + (cs.count (asset.claim a) - 1) * FIXED_COOLDOWN_SECONDS
        ≤ w'.now_seconds := by
  induction hs generalizing e f with
  | nil w =>
      refine ⟨fun previous hp => ?_, by simp⟩
      have hpast : previous ≤ w.now_seconds :=
        (hsound f hf).past asset hp
      simpa using hpast
  | @cons c cs w w₁ w₂ hc _ ih =>
      have hideal := Call.Commits.ideal hc
      obtain ⟨e₁, ht⟩ := h.transition hideal
      obtain ⟨_, _, -, -, hp⟩ := h.passage ht
      obtain ⟨f₁, hclocked⟩ := h.clocked hf hideal
      obtain ⟨hlast, hstart⟩ := ih hp.launched hclocked.faucet (ht.faucetSound hsound)
      have hforward := hclocked.forward
      by_cases hclaim : c = asset.claim a
      · -- The claim is a cooldown after the last one, and those to come are counted from it.
        have havailable := hclocked.available asset a hclaim
        have hrest := hlast _ (hclocked.claimed asset a hclaim)
        rw [hclaim, List.count_cons_self, Nat.add_sub_cancel]
        refine ⟨fun previous hprevious => ?_, hrest⟩
        obtain ⟨hle, hcooldown⟩ := havailable previous hprevious
        rw [Nat.add_mul, Nat.one_mul]
        omega
      · rw [List.count_cons_of_ne hclaim]
        refine ⟨fun previous hprevious => hlast previous ?_, by omega⟩
        rw [hclocked.kept asset a hclaim, hprevious]

/-- **The run lemma of the vault.** -/
theorem Launched.stock (h : Launched e w) (hs : Calls arithmetic w cs w') :
    w'.balance .distribution_vault + cs.countP Call.grant * FIXED_TRFL_GRANT
      = w.balance .distribution_vault := by
  induction hs generalizing e with
  | nil w => simp
  | @cons c cs w w₁ w₂ hc _ ih =>
      obtain ⟨e₁, ht⟩ := h.transition (Call.Commits.ideal hc)
      obtain ⟨_, _, -, -, hp⟩ := h.passage ht
      have hrest := ih hp.launched
      have hstep := ht.stock
      rw [List.countP_cons, Nat.add_mul]
      by_cases hgrant : c.grant = true
      · rw [if_pos hgrant] at hstep ⊢
        omega
      · rw [if_neg hgrant] at hstep ⊢
        omega

/-! ## The theorem -/

/-- **The faucets are rationed.** Over any run of a launched system, whatever else
is called: the distribution vault loses the fixed grant for each claim of tRFL
and nothing otherwise, so that the grants never exceed what it had; and of either
asset an account claims once and then at most once in each cooldown, the claims
before the run counted with the first. -/
theorem faucet_rationed (h : Reachable arithmetic fee_bps w)
    (hl : w.reflection.lifecycle ≠ .CONFIGURING) (hs : Calls arithmetic w cs w') :
    w'.balance .distribution_vault + cs.countP Call.grant * FIXED_TRFL_GRANT
        = w.balance .distribution_vault
      ∧ ∃ f, w.faucet = some f ∧ ∀ (asset : sdk.FaucetAsset) a,
        cs.count (asset.claim a)
            ≤ (w'.now_seconds - w.now_seconds) / FIXED_COOLDOWN_SECONDS + 1
          ∧ ∀ previous, (asset.last_claims f).lookup a = some previous →
            cs.count (asset.claim a)
              ≤ (w'.now_seconds - previous) / FIXED_COOLDOWN_SECONDS := by
  obtain ⟨e, he⟩ := h.launched hl
  obtain ⟨f, hf, -⟩ := h.faucet hl
  have hpos : 0 < FIXED_COOLDOWN_SECONDS := by decide
  refine ⟨he.stock hs, f, hf, fun asset a => ?_⟩
  obtain ⟨hlast, hstart⟩ := he.cooldown hf h.faucetSound hs asset a
  constructor
  · have hle : cs.count (asset.claim a) - 1
        ≤ (w'.now_seconds - w.now_seconds) / FIXED_COOLDOWN_SECONDS := by
      rw [Nat.le_div_iff_mul_le hpos]
      omega
    omega
  · intro previous hprevious
    rw [Nat.le_div_iff_mul_le hpos]
    have hle := hlast previous hprevious
    omega

end Run

namespace Sample

/-- The system right after its launch. -/
def opened : Option World :=
  script .machine .unpublished (.initialize_token (.account 1) 50 :: opening.take 1)

/-- One claim of each asset leaves the distribution vault with one grant less. -/
theorem faucet_rationed_opened : ∃ w w', opened = some w
    ∧ Calls .machine w ((opening.drop 1).take 2) w'
    ∧ w'.balance .distribution_vault + FIXED_TRFL_GRANT = w.balance .distribution_vault := by
  have hlaunched : (opened.map fun w => decide (w.reflection.lifecycle ≠ .CONFIGURING))
      = some true := by
    decide +kernel
  have hclaims : (opened.bind fun w =>
      script .machine w ((opening.drop 1).take 2)).isSome = true := by
    decide +kernel
  obtain ⟨w, hw⟩ : ∃ w, opened = some w := by
    cases hf : opened with
    | none => simp [hf] at hlaunched
    | some w => exact ⟨w, rfl⟩
  rw [hw] at hlaunched hclaims
  obtain ⟨w', hw'⟩ := Option.isSome_iff_exists.mp hclaims
  obtain ⟨hvault, -⟩ := faucet_rationed (reachable_of_script hw)
    (of_decide_eq_true (Option.some.inj hlaunched)) (calls_of_script hw')
  have hcount : ((opening.drop 1).take 2).countP Call.grant = 1 := by decide
  rw [hcount, Nat.one_mul] at hvault
  exact ⟨w, w', hw, calls_of_script hw', hvault⟩

end Sample

end CedraReflect
