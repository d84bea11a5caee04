/-
Where the deployed system can be.

A reachable state is either one of the states before the launch or a launched
one (`Reachable.phase`), under either arithmetic. Scripts evaluate a list of
calls from the unpublished state, which is how a concrete reachable state is
exhibited.
-/
import CedraReflect.Launch
import CedraReflect.Soundness

set_option autoImplicit false
set_option linter.constructorNameAsVariable false

namespace CedraReflect

open reflection_token (MAX_FEE_BPS)

section

variable [NamedAddresses] {arithmetic : Arithmetic} {fee_bps : ℕ} {w w' : World} {c : Call}

/-! ## Phases -/

/-- Before its launch, or between two calls after it. -/
inductive Phase (fee_bps : ℕ) (w : World) : Prop where
  | configuring (h : Configuring fee_bps w)
  | launched {e : LpEpoch} (h : Launched e w) (fee : w.reflection.fee_bps = fee_bps)

theorem Phase.core (h : Phase fee_bps w) : Core w := by
  cases h with
  | configuring h => exact h.core
  | launched h _ => exact h.deployed.core

theorem Phase.call (hfee : fee_bps ≤ MAX_FEE_BPS) (h : Phase fee_bps w)
    (hc : c.Commits arithmetic w w') : Phase fee_bps w' := by
  cases h with
  | configuring h =>
      obtain hc' | ⟨-, hboot, -, now, rfl⟩ := h.call hfee hc.ideal
      · exact .configuring hc'
      · exact .launched (launched_launched _ _ _ hboot hfee) rfl
  | launched h fee =>
      obtain ⟨e', ht⟩ := h.transition hc.ideal
      obtain ⟨as, bs, -, -, hp⟩ := h.passage ht
      exact .launched hp.launched (hp.fee_bps.trans fee)

/-- **Every reachable state is in one of the two phases.** -/
theorem Reachable.phase (h : Reachable arithmetic fee_bps w) :
    fee_bps ≤ MAX_FEE_BPS ∧ Phase fee_bps w := by
  induction h with
  | @genesis admin w hg =>
      have hs : Sound arithmetic (reflection_token.initialize_token admin fee_bps) := inferInstance
      obtain ⟨-, hfee, rfl⟩ := (Tx.commits_initialize_token ()).mp (hs.commits hg)
      exact ⟨hfee, .configuring ⟨false, false, 0, rfl⟩⟩
  | call _ hc ih => exact ⟨ih.1, ih.2.call ih.1 hc⟩

theorem Reachable.core (h : Reachable arithmetic fee_bps w) : Core w := h.phase.2.core

/-- What is not configuring has been launched. -/
theorem Reachable.launched (h : Reachable arithmetic fee_bps w)
    (hl : w.reflection.lifecycle ≠ .CONFIGURING) : ∃ e, Launched e w := by
  obtain ⟨-, hc | ⟨hl', -⟩⟩ := h.phase
  · obtain ⟨faucet, bound, now, rfl⟩ := hc
    exact absurd rfl hl
  · exact ⟨_, hl'⟩

/-! ## The epoch of a state -/

/-- The LP epoch `k`, if there is one. -/
def World.lp_epoch (w : World) (k : ℕ) : Option LpEpoch :=
  w.lp_registry.bind fun registry => registry.epochs.lookup k

omit [NamedAddresses] in
theorem Launched.lp_epoch {e : LpEpoch} (h : Launched e w) : w.lp_epoch 1 = some e := by
  obtain ⟨k, hk⟩ : ∃ k, Epoch k e w := by
    rcases h.phase with hp | hp
    · exact ⟨_, hp.epoch⟩
    · exact ⟨_, hp.epoch⟩
  rw [World.lp_epoch, hk]
  exact Finmap.lookup_singleton_eq

omit [NamedAddresses] in
theorem Launched.lp_epoch_eq {e e' : LpEpoch} {k : ℕ} (h : Launched e w)
    (he : w.lp_epoch k = some e') : k = 1 ∧ e' = e := by
  have h₁ := h.lp_epoch
  rcases h.phase with hp | hp
  all_goals
    have hk := hp.epoch
    rw [World.lp_epoch, hk] at he h₁
    have hmem : k ∈ (Finmap.singleton 1 e : Table ℕ LpEpoch) := by
      rw [← Finmap.lookup_isSome]
      exact Option.isSome_iff_exists.mpr ⟨e', he⟩
    obtain rfl := Finmap.mem_singleton _ _ _ |>.mp hmem
    exact ⟨rfl, Option.some.inj (he.symm.trans h₁)⟩

/-- Only a launched system has an epoch. -/
theorem Reachable.of_lp_epoch (h : Reachable arithmetic fee_bps w) {e : LpEpoch} {k : ℕ}
    (he : w.lp_epoch k = some e) : k = 1 ∧ Launched e w := by
  obtain ⟨-, hc | ⟨hl, -⟩⟩ := h.phase
  · obtain ⟨faucet, bound, now, rfl⟩ := hc
    cases he
  · obtain ⟨rfl, rfl⟩ := hl.lp_epoch_eq he
    exact ⟨rfl, hl⟩

/-! ## Attempts -/

theorem Call.attempt_cases (arithmetic : Arithmetic) (w : World) (c : Call) :
    c.attempt arithmetic w = w ∨ c.Commits arithmetic w (c.attempt arithmetic w) := by
  unfold Call.attempt
  cases hr : c.run arithmetic w with
  | ok p => exact .inr hr
  | error e => exact .inl rfl

/-- The state after a list of attempts, committed or not. -/
def Call.attempts (arithmetic : Arithmetic) (w : World) (cs : List Call) : World :=
  cs.foldl (fun w c => c.attempt arithmetic w) w

/-- What every committed call keeps, every list of attempts keeps. -/
theorem Call.attempts_induction {P : World → Prop} (hw : P w) {cs : List Call}
    (step : ∀ v v', P v → ∀ c ∈ cs, c.Commits arithmetic v v' → P v') :
    P (Call.attempts arithmetic w cs) := by
  induction cs generalizing w with
  | nil => exact hw
  | cons c cs ih =>
      refine ih ?_ fun v v' hv d hd => step v v' hv d (List.mem_cons_of_mem _ hd)
      rcases c.attempt_cases arithmetic w with h | h
      · show P (c.attempt arithmetic w)
        rw [h]
        exact hw
      · exact step w _ hw c List.mem_cons_self h

theorem Reachable.attempts (h : Reachable arithmetic fee_bps w) (cs : List Call) :
    Reachable arithmetic fee_bps (Call.attempts arithmetic w cs) :=
  Call.attempts_induction h fun _ _ hv _ _ hc => hv.call hc

/-! ## Scripts -/

/-- The state after the calls of a script, if all of them commit. -/
def script (arithmetic : Arithmetic) : World → List Call → Option World
  | w, [] => some w
  | w, c :: cs =>
      match c.run arithmetic w with
      | .ok (_, w') => script arithmetic w' cs
      | .error _ => none

theorem calls_of_script {cs : List Call} (h : script arithmetic w cs = some w') :
    Calls arithmetic w cs w' := by
  induction cs generalizing w with
  | nil =>
      obtain rfl := Option.some.inj h
      exact .nil _
  | cons c cs ih =>
      cases hr : c.run arithmetic w with
      | error e =>
          rw [script, hr] at h
          cases h
      | ok p =>
          rw [script, hr] at h
          exact .cons hr (ih h)

theorem reachable_of_script {admin : Address} {cs : List Call}
    (h : script arithmetic .unpublished (.initialize_token admin fee_bps :: cs) = some w) :
    Reachable arithmetic fee_bps w := by
  cases calls_of_script h with
  | cons hc hs => exact (Reachable.genesis hc).calls hs

end

/-! ## A deployment -/

namespace Sample

/-- Four accounts for the publishers and the first provider. -/
scoped instance addresses : NamedAddresses where
  reflection_core := .account 1
  test_assets := .account 2
  test_amm := .account 3
  bootstrap_lp := .account 4

/-- Deployed with a fee of one half percent, launched, and used by one trader
who is granted both assets, sells some tRFL and buys some back. -/
def opening : List Call :=
  [.launch (.account 1) (.account 2) (.account 3) (.account 4), .claim_trfl (.account 9),
    .claim_tusd (.account 9), .sell_trfl (.account 9) 40_000_000 0 0,
    .buy_trfl (.account 9) 20_000_000 0 0]

/-- The state the opening leaves. -/
def traded : Option World :=
  script .machine .unpublished (.initialize_token (.account 1) 50 :: opening)

theorem exists_traded : ∃ w, traded = some w :=
  Option.isSome_iff_exists.mp (by decide +kernel)

theorem reachable_traded {w : World} (hw : traded = some w) : Reachable .machine 50 w := by
  unfold traded at hw
  exact reachable_of_script hw

theorem live_traded {w : World} (hw : traded = some w) : w.reflection.lifecycle = .LIVE := by
  have hlive : (traded.map fun w => w.reflection.lifecycle) = some .LIVE := by decide +kernel
  rw [hw] at hlive
  exact Option.some.inj hlive

end Sample

end CedraReflect
