/-
The views of the packages, as a node answers them.

A view is a function of a package that is run for its result. A node runs it on
the state of a version and answers with the JSON of what it returns; it refuses
a function that is not there, arguments of another type and a run that aborts.
-/
import CedraReflect.Quotes
import CedraReflect.ReadAdapter

set_option autoImplicit false
set_option linter.constructorNameAsVariable false

namespace CedraReflect

open NamedAddresses (reflection_core test_assets test_amm)

/-! ## The views -/

namespace reflection_token

def distribution_vault_balance : Move ℕ := fungible_asset.balance .distribution_vault

end reflection_token

namespace test_faucet

def configuration : Move (ℕ × ℕ × ℕ) :=
  pure (FIXED_TRFL_GRANT, FIXED_TUSD_GRANT, FIXED_COOLDOWN_SECONDS)

def last_claim (account : Address) (trfl : Bool) : Move (Bool × ℕ) := do
  let state ← borrow_faucet
  let claims := if trfl = true then state.last_trfl_claim else state.last_tusd_claim
  match claims.lookup account with
  | none => pure (false, 0)
  | some previous => pure (true, previous)

end test_faucet

namespace pool

def reserves_view : Move (ℕ × ℕ) := do
  let state ← borrow_state
  reserves state

def limits : Move (ℕ × ℕ × ℕ) :=
  pure (FIXED_AMM_FEE_BPS, FIXED_MAX_RESERVE_BPS, FIXED_MAX_GROSS_SWAP)

end pool

/-! ## Their answers -/

namespace sdk

/-- A number of an answer, its decimals in the JSON. -/
def decimal (n : ℕ) : ViewValue := .integer n

/-- A view of the package `package`, asked for at `publisher`. -/
def publishedAt (publisher package : Address) (view : Move (List ViewValue)) :
    Option (Move (List ViewValue)) :=
  if publisher = package then some view else none

/-- An argument of the type `u64`. -/
def withU64 (n : ℤ) (view : ℕ → Move (List ViewValue)) : Move (List ViewValue) := do
  Tx.require (0 ≤ n ∧ n ≤ U64_MAX) (.missing .fungible_asset)
  view n.toNat

/-- The views that the adapter asks for. The registry's are what the core's
initialization wrote into it. -/
def moveView [NamedAddresses] (publisher : Address) :
    String → String → List ViewValue → Option (Move (List ViewValue))
  | "reflection_registry", "state_object", [] =>
      publishedAt publisher reflection_core (pure [.address reflection_core])
  | "reflection_registry", "deployment_id", [] =>
      publishedAt publisher reflection_core (pure [.utf8 reflection_token.DEPLOYMENT_ID])
  | "reflection_registry", "network_label", [] =>
      publishedAt publisher reflection_core (pure [.utf8 reflection_token.NETWORK_LABEL])
  | "reflection_registry", "release_version", [] =>
      publishedAt publisher reflection_core (pure [decimal reflection_token.RELEASE_MAJOR,
        decimal reflection_token.RELEASE_MINOR, decimal reflection_token.RELEASE_PATCH])
  | "reflection_token", "metadata", [] =>
      publishedAt publisher reflection_core (pure [.address (.metadata .trfl)])
  | "reflection_token", "reward_vault", [] =>
      publishedAt publisher reflection_core (pure [.address .reward_vault])
  | "reflection_token", "distribution_vault", [] =>
      publishedAt publisher reflection_core (pure [.address .distribution_vault])
  | "reflection_token", "distribution_vault_balance", [] =>
      publishedAt publisher reflection_core do
        let balance ← reflection_token.distribution_vault_balance
        pure [decimal balance]
  | "reflection_token", "reflection_fee_bps", [] =>
      publishedAt publisher reflection_core do
        let fee_bps ← reflection_token.reflection_fee_bps
        pure [decimal fee_bps]
  | "mock_usd", "metadata", [] =>
      publishedAt publisher test_assets (pure [.address (.metadata .tusd)])
  | "mock_usd", "pool_reserve", [] =>
      publishedAt publisher test_assets do
        let state ← mock_usd.borrow_state
        pure [.address state.pool_reserve]
  | "test_faucet", "configuration", [] =>
      publishedAt publisher test_assets do
        let configuration ← test_faucet.configuration
        pure [decimal configuration.1, decimal configuration.2.1, decimal configuration.2.2]
  | "test_faucet", "last_claim", [.address account, .boolean trfl] =>
      publishedAt publisher test_assets do
        let last ← test_faucet.last_claim account trfl
        pure [.boolean last.1, decimal last.2]
  | "pool", "rfl_reserve_store", [] =>
      publishedAt publisher test_amm do
        let state ← pool.borrow_state
        pure [.address state.rfl_reserve]
  | "pool", "usd_reserve_store", [] =>
      publishedAt publisher test_amm do
        let state ← pool.borrow_state
        pure [.address state.usd_reserve]
  | "pool", "reserves_view", [] =>
      publishedAt publisher test_amm do
        let reserve ← pool.reserves_view
        pure [decimal reserve.1, decimal reserve.2]
  | "pool", "limits", [] =>
      publishedAt publisher test_amm do
        let limits ← pool.limits
        pure [decimal limits.1, decimal limits.2.1, decimal limits.2.2]
  | "pool", "quote_sell", [.integer n] =>
      publishedAt publisher test_amm <| withU64 n fun n => do
        let quote ← pool.quote_sell n
        pure [decimal quote.1, decimal quote.2.1, decimal quote.2.2]
  | "pool", "quote_buy", [.integer n] =>
      publishedAt publisher test_amm <| withU64 n fun n => do
        let quote ← pool.quote_buy n
        pure [decimal quote.1, decimal quote.2.1, decimal quote.2.2]
  | _, _, _ => none

end sdk

/-- What a node answers to a view in the state `w`. -/
def World.viewJson [NamedAddresses] (w : World) (functionId : sdk.FunctionId)
    (arguments : List sdk.ViewValue) : Except sdk.SdkError (List sdk.ViewValue) :=
  match functionId with
  | .label _ => .error (.rejected functionId)
  | .view publisher moduleName functionName =>
      match sdk.moveView publisher moduleName functionName arguments with
      | none => .error (.rejected functionId)
      | some view =>
          match view .machine w with
          | .ok (values, _) => .ok values
          | .error _ => .error (.rejected functionId)

namespace sdk

open indexer (bind_eq_ok pure_eq_ok throwIf_eq_ok)

variable [NamedAddresses] {w w' : World} {publisher : Address}
  {moduleName functionName : String} {arguments values : List ViewValue}

/-- A view that returns is answered. -/
theorem viewJson_eq_ok (package : Address) {view : Move (List ViewValue)}
    (hview : moveView publisher moduleName functionName arguments
      = publishedAt publisher package view) (hpublisher : publisher = package) :
    w.viewJson (.view publisher moduleName functionName) arguments = .ok values ↔
      ∃ w', Tx.Commits view .machine w values w' := by
  simp only [World.viewJson, hview, publishedAt, if_pos hpublisher, Tx.Commits]
  cases view .machine w with
  | error reason => simp
  | ok p =>
      obtain ⟨answer, w₁⟩ := p
      simp

omit [NamedAddresses] in
theorem unsigned_eq_ok {value : ViewValue} {bits : ℕ} {functionId : FunctionId} {n : ℤ} :
    unsigned value bits functionId = .ok n ↔ value = .integer n ∧ 0 ≤ n ∧ n ≤ 2 ^ bits - 1 := by
  cases value with
  | integer m =>
      simp only [unsigned, bind_eq_ok, throwIf_eq_ok, pure_eq_ok, exists_const, not_or, not_lt,
        ViewValue.integer.injEq]
      constructor
      · rintro ⟨⟨hpos, hle⟩, rfl⟩
        exact ⟨rfl, hpos, hle⟩
      · rintro ⟨rfl, hpos, hle⟩
        exact ⟨⟨hpos, hle⟩, rfl⟩
  | boolean | address | utf8 | other => simp [unsigned]

omit [NamedAddresses] in
theorem unsigned_decimal {n bits : ℕ} (h : n < 2 ^ bits) (functionId : FunctionId) :
    unsigned (decimal n) bits functionId = .ok (n : ℤ) := by
  rw [unsigned_eq_ok]
  have : (n : ℤ) < 2 ^ bits := by exact_mod_cast h
  exact ⟨rfl, by omega, by omega⟩

/-! ## Adapters of the deployment -/

namespace FinalizedCedraReadAdapter

/-- The adapter reads the state `w`: it accepts what it finds at the version that
the client pins, the client answers there as a node does, and the header has the
time of the state. -/
structure Pins (adapter : FinalizedCedraReadAdapter) (w : World) (identity : ValidatedIdentity) :
    Prop where
  accepted : adapter.pinAndValidateIdentity = .ok identity
  views : ∀ functionId arguments,
    adapter.client.viewJson functionId arguments identity.version = w.viewJson functionId arguments
  clock : identity.timestampUnixSeconds = w.now_seconds

variable {adapter : FinalizedCedraReadAdapter} {identity : ValidatedIdentity}

omit [NamedAddresses] in
theorem tuple_eq_ok {version : ℤ} {n : ℕ} :
    adapter.tuple version publisher moduleName functionName arguments n = .ok values ↔
      adapter.client.viewJson (.view publisher moduleName functionName) arguments version
          = .ok values ∧ values.length = n := by
  simp only [tuple, bind_eq_ok, throwIf_eq_ok, pure_eq_ok, not_not, exists_const]
  constructor
  · rintro ⟨found, hfound, hlength, rfl⟩
    exact ⟨hfound, hlength⟩
  · rintro ⟨hfound, hlength⟩
    exact ⟨values, hfound, hlength, rfl⟩

omit [NamedAddresses] in
theorem scalar_eq_ok {version : ℤ} {value : ViewValue} :
    adapter.scalar version publisher moduleName functionName arguments = .ok value ↔
      adapter.client.viewJson (.view publisher moduleName functionName) arguments version
        = .ok [value] := by
  simp only [scalar, bind_eq_ok, throwIf_eq_ok, pure_eq_ok, not_not, exists_const]
  constructor
  · rintro ⟨found, hfound, hlength, rfl⟩
    obtain ⟨value, rfl⟩ := List.length_eq_one_iff.mp hlength
    exact hfound
  · intro hfound
    exact ⟨[value], hfound, rfl, rfl⟩

/-- Only the package itself answers for it. -/
theorem publisher_of_viewJson (package : Address) {view : Move (List ViewValue)}
    (hview : moveView publisher moduleName functionName arguments
      = publishedAt publisher package view)
    (h : w.viewJson (.view publisher moduleName functionName) arguments = .ok values) :
    publisher = package := by
  by_contra hne
  simp only [World.viewJson, hview, publishedAt, if_neg hne] at h
  cases h

/-- What an accepted manifest and an accepted version are. -/
structure Identified [NamedAddresses] (adapter : FinalizedCedraReadAdapter)
    (identity : ValidatedIdentity) : Prop where
  core : adapter.manifest.packages.reflectionCore = reflection_core
  assets : adapter.manifest.packages.testAssets = test_assets
  amm : adapter.manifest.packages.testAmm = test_amm
  deploymentId : adapter.manifest.deploymentId = reflection_token.DEPLOYMENT_ID
  packageVersion : isPackageVersion identity.packageVersion = true
  chainId : identity.chainId = CEDRA_TESTNET_CHAIN_ID
  version_pos : 0 < identity.version
  version_le : identity.version ≤ U64_MAX
  timestamp_nonneg : 0 ≤ identity.timestampUnixSeconds
  timestamp_le : identity.timestampUnixSeconds ≤ U64_MAX / LEDGER_TIMESTAMP_MICROSECONDS

omit [NamedAddresses] in
theorem pinLedger_eq_ok {ledger : PinnedLedger} (h : adapter.pinLedger = .ok ledger) :
    ledger.chainId = CEDRA_TESTNET_CHAIN_ID
      ∧ adapter.manifest.finalizedLedgerVersion ≤ ledger.version ∧ ledger.version ≤ U64_MAX
      ∧ 0 ≤ ledger.timestampUnixSeconds
      ∧ ledger.timestampUnixSeconds ≤ U64_MAX / LEDGER_TIMESTAMP_MICROSECONDS := by
  simp only [pinLedger, bind_eq_ok, throwIf_eq_ok, pure_eq_ok, exists_const, unsigned_eq_ok,
    not_lt] at h
  obtain ⟨chainId, -, -, version, ⟨-, -, hversion⟩, timestamp, ⟨-, hpos, hle⟩, hfinal, rfl⟩ := h
  refine ⟨rfl, hfinal, hversion, Int.ediv_nonneg hpos (by decide), ?_⟩
  exact Int.ediv_le_ediv (by decide) hle

omit [NamedAddresses] in
theorem finalizedLedgerVersion_pos (adapter : FinalizedCedraReadAdapter) :
    0 < adapter.manifest.finalizedLedgerVersion
      ∧ isPackageVersion adapter.manifest.packageVersion = true := by
  have h := adapter.asserted
  simp only [assertManifest, bind_eq_ok, throwIf_eq_ok, exists_const, unsigned_eq_ok,
    ViewValue.integer.injEq] at h
  obtain ⟨-, -, -, hpackage, version, ⟨rfl, hnonneg, -⟩, hzero, -⟩ := h
  exact ⟨by omega, by simpa using hpackage⟩

/-- **An accepted identity is the deployment's.** -/
theorem Pins.identified (h : adapter.Pins w identity) : Identified adapter identity := by
  have haccepted := h.accepted
  simp only [pinAndValidateIdentity, bind_eq_ok, exists_const, expectSameAddress, expectText,
    throwIf_eq_ok, pure_eq_ok, scalar_eq_ok, tuple_eq_ok, not_not] at haccepted
  obtain ⟨ledger, hledger, stateObject, hstate, deployment, hdeployment, network, -, release, -,
    token, -, reward, -, distribution, -, mockUsd, hmock, rflReserve, hrfl, usdReserve, -, bound, -,
    _, -, -, deployed, hdeployed, hid, _, -, -, major, -, minor, -, patch, -, hversion,
    _, -, -, _, -, -, _, -, -, _, -, -, _, -, _, -, _, -, -, -, -, rfl⟩ := haccepted
  obtain ⟨hchain, hfinal, hle, htime, htime'⟩ := pinLedger_eq_ok hledger
  obtain ⟨hfinalized, hpackage⟩ := adapter.finalizedLedgerVersion_pos
  have hviews : ∀ functionId arguments,
      adapter.client.viewJson functionId arguments ledger.version = w.viewJson functionId arguments
    := h.views
  rw [hviews] at hstate hdeployment hmock hrfl
  have hcore := publisher_of_viewJson reflection_core rfl hstate
  refine ⟨hcore, publisher_of_viewJson test_assets rfl hmock,
    publisher_of_viewJson test_amm rfl hrfl, ?_, ?_, hchain,
    hfinalized.trans_le hfinal, hle, htime, htime'⟩
  · have hanswer := (viewJson_eq_ok (w := w) reflection_core rfl hcore).mp hdeployment
    simp only [Tx.commits_pure] at hanswer
    obtain ⟨-, hanswer, -⟩ := hanswer
    obtain rfl := List.singleton_inj.mp hanswer
    rw [hid]
    exact (Except.ok.inj hdeployed).symm
  · rw [← hversion]
    exact hpackage

end FinalizedCedraReadAdapter

end sdk

/-! ## The adapter of a deployment -/

namespace Sample

open sdk
open indexer (ok_bind throwIf)

/-- The manifest of the sample. -/
def manifest : FinalizedProtocolManifest where
  networkLabel := "cedra-testnet"
  chainId := 2
  deploymentId := "reflection-pilot-002"
  packageVersion := "testnet-v0.2.0"
  finalizedLedgerVersion := 1
  packages := ⟨.account 1, .account 2, .account 3⟩
  addresses :=
    { tokenMetadata := .metadata .trfl
      mockUsdMetadata := .metadata .tusd
      rewardVault := .reward_vault
      distributionVault := .distribution_vault
      pool := .account 3
      poolRflReserveStore := .rfl_reserve
      poolUsdReserveStore := .usd_reserve }

theorem asserted_manifest : assertManifest manifest = .ok () := by decide +kernel

/-- An adapter whose client has the one state `w`. -/
def adapter (w : World) : FinalizedCedraReadAdapter where
  client :=
    { getLedgerInfo := ⟨decimal 2, decimal 1, decimal (1_000_000 * w.now_seconds)⟩
      viewJson := fun functionId arguments _ => w.viewJson functionId arguments }
  manifest
  asserted := asserted_manifest

def identity (w : World) : ValidatedIdentity where
  chainId := 2
  version := 1
  timestampUnixSeconds := w.now_seconds
  packageVersion := "testnet-v0.2.0"

/-- The adapter reads the sample, as long as its clock fits a header. -/
theorem pins_adapter {w : World} {e : LpEpoch} (h : Launched e w)
    (hclock : 1_000_000 * w.now_seconds < 2 ^ 64) : (adapter w).Pins w (identity w) := by
  refine ⟨?_, fun _ _ => rfl, rfl⟩
  -- What the adapter reads of the sample, view by view.
  have hpool := h.deployed.pool
  have hledger : (adapter w).pinLedger = .ok ⟨2, 1, w.now_seconds⟩ := by
    have htimestamp : unsigned (decimal (1_000_000 * w.now_seconds)) 64
        (.label "ledger_info::ledger_timestamp") = .ok ((1_000_000 * w.now_seconds : ℕ) : ℤ) :=
      unsigned_decimal hclock _
    have hseconds : ((1_000_000 * w.now_seconds : ℕ) : ℤ) / LEDGER_TIMESTAMP_MICROSECONDS
        = w.now_seconds := by
      unfold LEDGER_TIMESTAMP_MICROSECONDS
      omega
    show (do
      let timestamp ← unsigned (decimal (1_000_000 * w.now_seconds)) 64
        (.label "ledger_info::ledger_timestamp")
      _) = _
    rw [htimestamp]
    show Except.ok (PinnedLedger.mk _ _ _) = _
    rw [hseconds]
    rfl
  have hread : ∀ (publisher package : Address) (moduleName functionName : String)
      (values : List ViewValue) (view : Move (List ViewValue)),
      moveView publisher moduleName functionName [] = publishedAt publisher package view →
      publisher = package → Tx.Commits view .machine w values w →
        w.viewJson (.view publisher moduleName functionName) [] = .ok values :=
    fun _ _ _ _ _ _ hview hpublisher hcommits =>
      (viewJson_eq_ok _ hview hpublisher).mpr ⟨w, hcommits⟩
  have hstate := hread (.account 1) _ "reflection_registry" "state_object"
    [.address (.account 1)] _ rfl rfl rfl
  have hdeployment := hread (.account 1) _ "reflection_registry" "deployment_id"
    [.utf8 "reflection-pilot-002"] _ rfl rfl rfl
  have hnetwork := hread (.account 1) _ "reflection_registry" "network_label"
    [.utf8 "cedra-testnet"] _ rfl rfl rfl
  have hrelease := hread (.account 1) _ "reflection_registry" "release_version"
    [.integer 0, .integer 2, .integer 0] _ rfl rfl rfl
  have htoken := hread (.account 1) _ "reflection_token" "metadata"
    [.address (.metadata .trfl)] _ rfl rfl rfl
  have hreward := hread (.account 1) _ "reflection_token" "reward_vault"
    [.address .reward_vault] _ rfl rfl rfl
  have hdistribution := hread (.account 1) _ "reflection_token" "distribution_vault"
    [.address .distribution_vault] _ rfl rfl rfl
  have hmock := hread (.account 2) _ "mock_usd" "metadata"
    [.address (.metadata .tusd)] _ rfl rfl rfl
  have hrfl := hread (.account 3) _ "pool" "rfl_reserve_store" [.address .rfl_reserve] _ rfl rfl
    (by simp [pool.borrow_state, hpool, pool.deployed])
  have husd := hread (.account 3) _ "pool" "usd_reserve_store" [.address .usd_reserve] _ rfl rfl
    (by simp [pool.borrow_state, hpool, pool.deployed])
  have hbound := hread (.account 2) _ "mock_usd" "pool_reserve" [.address .usd_reserve] _ rfl rfl
    (by simp [mock_usd.borrow_state, h.deployed.usd_reserve])
  have hzero : ∀ id, unsigned (.integer 0) 64 id = .ok 0 := fun _ => rfl
  have htwo : ∀ id, unsigned (.integer 2) 64 id = .ok 2 := fun _ => rfl
  have hversion : "testnet-v" ++ toString (0 : ℤ) ++ "." ++ toString (2 : ℤ) ++ "."
      ++ toString (0 : ℤ) = "testnet-v0.2.0" := by decide +kernel
  unfold FinalizedCedraReadAdapter.pinAndValidateIdentity FinalizedCedraReadAdapter.scalar
    FinalizedCedraReadAdapter.tuple
  rw [hledger]
  simp only [ok_bind, adapter, manifest, hstate, hdeployment, hnetwork, hrelease, htoken, hreward,
    hdistribution, hmock, hrfl, husd, hbound, throwIf, entry, List.length_cons, List.length_nil,
    List.getD_cons_zero, List.getD_cons_succ, canonicalAddress, objectAddress, utf8Vector,
    expectSameAddress, expectText, hzero, htwo, hversion, ne_eq, not_true_eq_false, if_false,
    pure, Except.pure]
  rfl

end Sample

end CedraReflect
