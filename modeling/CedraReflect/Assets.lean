/-
The dispatcher, `reflection_router.move`, `mock_usd.move` and
`test_faucet.move`.

The dispatcher is where an owner's transfer of tRFL enters
`reflection_hooks.move`, whose three functions are calls of the `_impl`
functions. tUSD registers no hook, so its transfers are plain.

Of the framework's `dispatchable_fungible_asset` and `primary_fungible_store`
the functions here are their documented behaviour. The registration of a hook is
not a step: which asset has one is fixed when the packages are published. Nor is
there a guard against a hook that dispatches again, which none of the three does.
-/
import CedraReflect.ReflectionToken

set_option autoImplicit false
set_option linter.constructorNameAsVariable false

namespace CedraReflect

open NamedAddresses
open fungible_asset (withdraw_with_ref deposit_with_ref)

/-! ## The dispatcher -/

namespace dispatchable_fungible_asset

/-- The owner's withdrawal, through the hook of the store's asset. -/
def withdraw [NamedAddresses] (owner store : Address) (amount : ℕ) : Move FungibleAsset := do
  fungible_asset.withdraw_sanity_check owner store
  if store.store_metadata = some .trfl then reflection_token.withdraw_hook_impl store amount
  else withdraw_with_ref .tusd store amount

/-- A deposit by anybody, through the hook of the store's asset. -/
def deposit [NamedAddresses] (store : Address) (asset : FungibleAsset) : Move Unit := do
  fungible_asset.deposit_sanity_check store
  if store.store_metadata = some .trfl then reflection_token.deposit_hook_impl store asset
  else deposit_with_ref .tusd store asset

end dispatchable_fungible_asset

namespace primary_fungible_store

/-- The three calls at primary stores, whose addresses are made of the asset and the owner. -/
def withdraw [NamedAddresses] (owner : Address) (metadata : Metadata) (amount : ℕ) :
    Move FungibleAsset :=
  dispatchable_fungible_asset.withdraw owner (.primary metadata owner) amount

def deposit [NamedAddresses] (owner : Address) (asset : FungibleAsset) : Move Unit :=
  dispatchable_fungible_asset.deposit (.primary asset.metadata owner) asset

def transfer [NamedAddresses] (sender : Address) (metadata : Metadata) (recipient : Address)
    (amount : ℕ) : Move Unit := do
  let asset ← withdraw sender metadata amount
  deposit recipient asset

/-- Fresh units pass the frozen flag, and no hook: a mint is with a reference. -/
def mint (mint_ref : Metadata) (recipient : Address) (amount : ℕ) : Move Unit := do
  let store := .primary mint_ref recipient
  fungible_asset.deposit_sanity_check store
  let asset ← fungible_asset.mint mint_ref amount
  deposit_with_ref mint_ref store asset

end primary_fungible_store

namespace reflection_router

/-- A wallet transfer of tRFL, and the event that names its two sides. -/
def transfer [NamedAddresses] (sender recipient : Address) (amount : ℕ) : Move Unit := do
  primary_fungible_store.transfer sender .trfl recipient amount
  emit (.WalletTransfer sender recipient amount)

end reflection_router

/-! ## `mock_usd` -/

namespace mock_usd

/-- The abort codes of the module, under the source's numbers. -/
def E_NOT_PUBLISHER : Abort := .code .mock_usd 2
def E_CAPABILITY_ALREADY_ISSUED : Abort := .code .mock_usd 3
def E_INVALID_CAP : Abort := .code .mock_usd 4
def E_ZERO_AMOUNT : Abort := .code .mock_usd 5
def E_BOOTSTRAP_COMPLETE : Abort := .code .mock_usd 6
def E_NOT_CONFIGURING : Abort := .code .mock_usd 7

/-- What the pool starts with. -/
def FIXED_POOL_BOOTSTRAP : ℕ := 500_000_000

/-- The state `init_module` leaves at publication. -/
def published : MockUsdState where
  faucet_capability_issued := false
  pool_capability_issued := false
  pool_bootstrap_complete := false
  pool_reserve := .zero

/-- The state is there from publication on, so that no borrow of it aborts. -/
def borrow_state : Move MockUsdState := Tx.gets (fun w => w.mock_usd)

/-- What a mutable borrow writes. -/
def modify_state (f : MockUsdState → MockUsdState) : Move Unit :=
  Tx.update fun w => { w with mock_usd := f w.mock_usd }

/-- Handed once to the faucet. -/
def issue_faucet_capability [NamedAddresses] (admin : Address) : Move FaucetMintCapability := do
  let state ← borrow_state
  Tx.require (admin = test_assets) E_NOT_PUBLISHER
  Tx.require (state.faucet_capability_issued = false) E_CAPABILITY_ALREADY_ISSUED
  modify_state fun state => { state with faucet_capability_issued := true }
  pure ⟨1⟩

/-- The faucet's capability mints to any account, and the event names who had it minted. -/
def mint_from_faucet (cap : FaucetMintCapability) (recipient : Address) (amount : ℕ)
    (operator : Address) : Move Unit := do
  Tx.require (cap.nonce = 1) E_INVALID_CAP
  Tx.require (0 < amount) E_ZERO_AMOUNT
  primary_fungible_store.mint .tusd recipient amount
  emit (.MockUsdMinted recipient amount operator)

/-- Handed once to the canonical AMM. -/
def issue_pool_settlement_capability [NamedAddresses] (admin custodian store : Address) :
    Move PoolSettlementCapability := do
  let state ← borrow_state
  Tx.require (admin = test_assets) E_NOT_PUBLISHER
  Tx.require (state.pool_capability_issued = false) E_CAPABILITY_ALREADY_ISSUED
  Tx.require (store.store_metadata = some .tusd) E_INVALID_CAP
  Tx.require (store.owner = custodian) E_INVALID_CAP
  let held ← fungible_asset.balance store
  Tx.require (held = 0) E_INVALID_CAP
  modify_state fun state => { state with pool_capability_issued := true, pool_reserve := store }
  fungible_asset.set_frozen_flag .tusd store
  emit (.PoolReserveBound store custodian)
  pure ⟨store, 1⟩

/-- The capability is the one that was issued, and for the store that is bound. -/
def assert_pool_cap (cap : PoolSettlementCapability) (store : Address) : Move Unit := do
  let state ← borrow_state
  Tx.require (cap.nonce = 1 ∧ cap.reserve_store = store ∧ state.pool_reserve = store)
    E_INVALID_CAP

/-- Only tUSD reaches the reserve, and only through the capability. -/
def deposit_to_pool (cap : PoolSettlementCapability) (store : Address) (asset : FungibleAsset) :
    Move Unit := do
  Tx.require (asset.metadata = .tusd) E_INVALID_CAP
  assert_pool_cap cap store
  deposit_with_ref .tusd store asset

/-- One-shot CONFIGURING-only seed for the exact canonical AMM reserve. -/
def bootstrap_pool_reserve [NamedAddresses] (cap : PoolSettlementCapability) (store : Address) :
    Move ℕ := do
  let lifecycle ← reflection_token.launch_state
  Tx.require (lifecycle = .CONFIGURING) E_NOT_CONFIGURING
  assert_pool_cap cap store
  let state ← borrow_state
  Tx.require (state.pool_bootstrap_complete = false) E_BOOTSTRAP_COMPLETE
  modify_state fun state => { state with pool_bootstrap_complete := true }
  let asset ← fungible_asset.mint .tusd FIXED_POOL_BOOTSTRAP
  deposit_with_ref .tusd store asset
  emit (.MockUsdMinted store FIXED_POOL_BOOTSTRAP test_amm)
  pure FIXED_POOL_BOOTSTRAP

/-- The reserve is frozen: this is the one way out of it. -/
def withdraw_from_pool (cap : PoolSettlementCapability) (store : Address) (amount : ℕ) :
    Move FungibleAsset := do
  assert_pool_cap cap store
  withdraw_with_ref .tusd store amount

end mock_usd

/-! ## `test_faucet` -/

namespace test_faucet

/-- The abort codes of the module, under the source's numbers. -/
def E_ALREADY_INITIALIZED : Abort := .code .test_faucet 1
def E_COOLDOWN : Abort := .code .test_faucet 2
def E_WRONG_FAUCET_ADDRESS : Abort := .code .test_faucet 3
def E_NOT_LIVE : Abort := .code .test_faucet 4

/-- The parameters of the faucet: an hour, and a thousand of each asset. -/
def FIXED_COOLDOWN_SECONDS : ℕ := 3_600
def FIXED_TRFL_GRANT : ℕ := 1_000_000_000
def FIXED_TUSD_GRANT : ℕ := 1_000_000_000

/-- `borrow_global_mut<FaucetState>(@test_assets)`. -/
def borrow_faucet : Move FaucetState := do
  let faucet ← Tx.gets (fun w : World => w.faucet)
  Tx.expect faucet (.missing .test_faucet)

/-- What a mutable borrow writes. -/
def write_faucet (faucet : FaucetState) : Move Unit :=
  Tx.update fun w => { w with faucet := some faucet }

/-- `initialize` (a keyword here): the one-time capability handoff. -/
def initialize_faucet [NamedAddresses] (core_admin faucet_admin : Address) : Move Unit := do
  let existing ← Tx.gets (fun w : World => w.faucet)
  Tx.require (existing.isNone = true) E_ALREADY_INITIALIZED
  Tx.require (faucet_admin = test_assets) E_WRONG_FAUCET_ADDRESS
  let rfl_cap ← reflection_token.issue_faucet_capability core_admin faucet_admin
  let usd_cap ← mock_usd.issue_faucet_capability faucet_admin
  write_faucet { rfl_cap, usd_cap, last_trfl_claim := ∅, last_tusd_claim := ∅ }

/-- Returns the table with `account`'s last claim set to the present. -/
def assert_available (last_claims : Table Address ℕ) (account : Address) :
    Move (Table Address ℕ) := do
  let now ← Tx.gets (fun w : World => w.now_seconds)
  if account ∈ last_claims then do
    let previous ← Tx.expect (last_claims.lookup account) (.missing .test_faucet)
    Tx.require (previous ≤ now ∧ FIXED_COOLDOWN_SECONDS ≤ now - previous) E_COOLDOWN
    pure (last_claims.insert account now)
  else pure (last_claims.insert account now)

/-- The first line of both claims. -/
def assert_open : Move Unit := do
  let is_sealed ← reflection_token.is_sealed
  let is_closed ← reflection_token.is_closed
  Tx.require (is_sealed = true ∧ is_closed = false) E_NOT_LIVE

/-- A grant out of the distribution vault: the core checks that the claimant may hold tRFL
and that enough is left. -/
def claim_trfl [NamedAddresses] (claimant : Address) : Move Unit := do
  assert_open
  let faucet ← borrow_faucet
  let last_trfl_claim ← assert_available faucet.last_trfl_claim claimant
  write_faucet { faucet with last_trfl_claim }
  reflection_token.faucet_grant faucet.rfl_cap claimant FIXED_TRFL_GRANT test_assets

/-- A grant of fresh tUSD, which anybody may hold. -/
def claim_tusd [NamedAddresses] (claimant : Address) : Move Unit := do
  assert_open
  let faucet ← borrow_faucet
  let last_tusd_claim ← assert_available faucet.last_tusd_claim claimant
  write_faucet { faucet with last_tusd_claim }
  mock_usd.mint_from_faucet faucet.usd_cap claimant FIXED_TUSD_GRANT test_assets

end test_faucet

end CedraReflect
