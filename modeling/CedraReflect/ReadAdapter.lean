/-
`finalized-read-adapter.ts` of the SDK: reads of one pinned ledger version.

Every operation asks the client for the header of the ledger, checks that the
package set at its version is the one of the manifest, and makes its answer of
views at that version. What a client answers is what its JSON denotes:
[`ViewValue`] has one constructor for each kind of value that the adapter tells
apart, a decimal text and a number being one integer. The two operations here
are the status of a faucet and the quote of a swap.
-/
import CedraReflect.ProtocolEvents
import CedraReflect.Throwing

set_option autoImplicit false
set_option linter.constructorNameAsVariable false

namespace CedraReflect.sdk

open indexer (Text text shown throwIf)

def U64_MAX : ℤ := 2 ^ 64 - 1
def BPS_DENOMINATOR : ℤ := 10_000
def LEDGER_TIMESTAMP_MICROSECONDS : ℤ := 1_000_000
def CEDRA_TESTNET_CHAIN_ID : ℤ := 2

/-! ## Values and errors -/

/-- A value of an answer. `utf8` is a `vector<u8>` that decodes, and `other`
whatever no check accepts. -/
inductive ViewValue where
  | integer (n : ℤ)
  | boolean (b : Bool)
  | address (a : Address)
  | utf8 (s : String)
  | other
deriving DecidableEq, Repr

/-- `${publisher}::${moduleName}::${functionName}`, or the name of a field that is
checked like a value of a view. -/
inductive FunctionId where
  | view (publisher : Address) (moduleName functionName : String)
  | label (field : String)
deriving DecidableEq, Repr

def FunctionId.text : FunctionId → Text
  | view publisher moduleName functionName =>
      [.address publisher, .lit "::", .lit moduleName, .lit "::", .lit functionName]
  | label field => indexer.text field

/-- What an operation throws. `rejected` is the client's refusal of a view. -/
inductive SdkError where
  | TypeError (message : Text)
  | RangeError (message : Text)
  | UnverifiedSwapQuoteError (message : Text)
  | ManifestIdentityMismatchError (field : String) (expected observed : Text)
  | MalformedMoveViewError (functionId : FunctionId) (detail : String)
  | rejected (functionId : FunctionId)
deriving DecidableEq, Repr

def canonicalAddress (value : ViewValue) (field : FunctionId) : Except SdkError Address :=
  match value with
  | .address a => .ok a
  | _ => .error (.TypeError (field.text ++ text " must be a 0x-prefixed hexadecimal address"))

def nonzeroAddress (value : Address) (field : String) : Except SdkError Address := do
  throwIf (value = .zero) (.TypeError (text (field ++ " must not be the zero address")))
  pure value

def objectAddress (value : ViewValue) (functionId : FunctionId) : Except SdkError Address :=
  match value with
  | .address a => .ok a
  | _ => .error (.MalformedMoveViewError functionId "expected an object address")

def unsigned (value : ViewValue) (bits : ℕ) (functionId : FunctionId) : Except SdkError ℤ :=
  match value with
  | .integer parsed => do
      throwIf (parsed < 0 ∨ 2 ^ bits - 1 < parsed)
        (.MalformedMoveViewError functionId ("value is outside u" ++ toString bits))
      pure parsed
  | _ => .error (.MalformedMoveViewError functionId ("expected a decimal u" ++ toString bits))

def boolean (value : ViewValue) (functionId : FunctionId) : Except SdkError Bool :=
  match value with
  | .boolean b => .ok b
  | _ => .error (.MalformedMoveViewError functionId "expected a boolean")

def utf8Vector (value : ViewValue) (functionId : FunctionId) : Except SdkError String :=
  match value with
  | .utf8 s => .ok s
  | _ => .error (.MalformedMoveViewError functionId "expected vector<u8> as hex or byte array")

/-! ## The manifest -/

structure ProtocolModuleAddresses where
  reflectionCore : Address
  testAssets : Address
  testAmm : Address

structure ProtocolAddresses where
  tokenMetadata : Address
  mockUsdMetadata : Address
  rewardVault : Address
  distributionVault : Address
  pool : Address
  poolRflReserveStore : Address
  poolUsdReserveStore : Address

structure FinalizedProtocolManifest where
  networkLabel : String
  chainId : ℤ
  deploymentId : String
  packageVersion : String
  finalizedLedgerVersion : ℤ
  packages : ProtocolModuleAddresses
  addresses : ProtocolAddresses

/-- `0|[1-9][0-9]*`. -/
def isDecimal (digits : List Char) : Bool :=
  digits = ['0'] ∨ (digits ≠ [] ∧ digits.head? ≠ some '0' ∧ digits.all Char.isDigit = true)

/-- `/^testnet-vMAJOR.MINOR.PATCH$/`, each of the three a decimal. -/
def isPackageVersion (version : String) : Bool :=
  "testnet-v".toList.isPrefixOf version.toList
    ∧ ((version.toList.drop 9).splitOn '.').length = 3
    ∧ ((version.toList.drop 9).splitOn '.').all isDecimal = true

def assertManifest (manifest : FinalizedProtocolManifest) : Except SdkError Unit := do
  throwIf (manifest.networkLabel ≠ "cedra-testnet")
    (.TypeError (text "finalized manifest networkLabel must be cedra-testnet"))
  throwIf (manifest.chainId ≠ CEDRA_TESTNET_CHAIN_ID)
    (.TypeError (text "finalized manifest chainId must be Cedra Testnet chain 2"))
  throwIf (manifest.deploymentId = "")
    (.TypeError (text "manifest deploymentId must not be empty"))
  throwIf (isPackageVersion manifest.packageVersion = false)
    (.TypeError (text "manifest packageVersion must be testnet-vMAJOR.MINOR.PATCH"))
  let finalizedLedgerVersion ← unsigned (.integer manifest.finalizedLedgerVersion) 64
    (.label "manifest.finalizedLedgerVersion")
  throwIf (finalizedLedgerVersion = 0)
    (.TypeError (text "manifest finalizedLedgerVersion must be greater than zero"))
  let core ← nonzeroAddress manifest.packages.reflectionCore "manifest.packages.reflectionCore"
  let assets ← nonzeroAddress manifest.packages.testAssets "manifest.packages.testAssets"
  let amm ← nonzeroAddress manifest.packages.testAmm "manifest.packages.testAmm"
  throwIf (core = assets ∨ core = amm ∨ assets = amm)
    (.TypeError (text "manifest package publishers must be distinct"))
  let _ ← nonzeroAddress manifest.addresses.tokenMetadata "manifest.addresses.tokenMetadata"
  let _ ← nonzeroAddress manifest.addresses.mockUsdMetadata "manifest.addresses.mockUsdMetadata"
  let _ ← nonzeroAddress manifest.addresses.rewardVault "manifest.addresses.rewardVault"
  let _ ← nonzeroAddress manifest.addresses.distributionVault
    "manifest.addresses.distributionVault"
  let pool ← nonzeroAddress manifest.addresses.pool "manifest.addresses.pool"
  let rflReserve ← nonzeroAddress manifest.addresses.poolRflReserveStore
    "manifest.addresses.poolRflReserveStore"
  let usdReserve ← nonzeroAddress manifest.addresses.poolUsdReserveStore
    "manifest.addresses.poolUsdReserveStore"
  throwIf (rflReserve = usdReserve)
    (.TypeError (text "manifest pool reserve stores must be distinct"))
  throwIf (pool ≠ amm)
    (.TypeError
      (text "manifest pool address must equal the immutable test-AMM publisher address"))

/-! ## The adapter -/

structure LedgerHeader where
  chain_id : ViewValue
  ledger_version : ViewValue
  ledger_timestamp : ViewValue

/-- The client; `viewJson` takes the function, its arguments and the version. -/
structure FinalizedCedraViewClient where
  getLedgerInfo : LedgerHeader
  viewJson : FunctionId → List ViewValue → ℤ → Except SdkError (List ViewValue)

/-- An adapter, whose constructor asserts the manifest. -/
structure FinalizedCedraReadAdapter where
  client : FinalizedCedraViewClient
  manifest : FinalizedProtocolManifest
  asserted : assertManifest manifest = .ok ()

structure PinnedLedger where
  chainId : ℤ
  version : ℤ
  timestampUnixSeconds : ℤ

structure ValidatedIdentity extends PinnedLedger where
  packageVersion : String

def expectSameAddress (field : String) (expected observed : Address) : Except SdkError Unit :=
  throwIf (expected ≠ observed)
    (.ManifestIdentityMismatchError field [.address expected] [.address observed])

def expectText (field expected observed : String) : Except SdkError Unit :=
  throwIf (expected ≠ observed)
    (.ManifestIdentityMismatchError field (text expected) (text observed))

/-- An entry of an answer, `undefined` past its end. -/
def entry (values : List ViewValue) (i : ℕ) : ViewValue := values.getD i .other

namespace FinalizedCedraReadAdapter

variable (adapter : FinalizedCedraReadAdapter)

/-- `scalar` and `tuple`, which differ in the words of their error. -/
def tuple (ledgerVersion : ℤ) (publisher : Address) (moduleName functionName : String)
    (functionArguments : List ViewValue) (length : ℕ) : Except SdkError (List ViewValue) := do
  let functionId := FunctionId.view publisher moduleName functionName
  let values ← adapter.client.viewJson functionId functionArguments ledgerVersion
  throwIf (values.length ≠ length)
    (.MalformedMoveViewError functionId ("expected " ++ toString length
      ++ " return values, received " ++ toString values.length))
  pure values

def scalar (ledgerVersion : ℤ) (publisher : Address) (moduleName functionName : String)
    (functionArguments : List ViewValue) : Except SdkError ViewValue := do
  let functionId := FunctionId.view publisher moduleName functionName
  let values ← adapter.client.viewJson functionId functionArguments ledgerVersion
  throwIf (values.length ≠ 1)
    (.MalformedMoveViewError functionId ("expected 1 return value, received "
      ++ toString values.length))
  pure (entry values 0)

def pinLedger : Except SdkError PinnedLedger := do
  let header := adapter.client.getLedgerInfo
  let chainId ← unsigned header.chain_id 64 (.label "ledger_info::chain_id")
  throwIf (chainId ≠ adapter.manifest.chainId)
    (.ManifestIdentityMismatchError "chainId" (shown adapter.manifest.chainId) (shown chainId))
  let version ← unsigned header.ledger_version 64 (.label "ledger_info::ledger_version")
  let timestamp ← unsigned header.ledger_timestamp 64 (.label "ledger_info::ledger_timestamp")
  throwIf (version < adapter.manifest.finalizedLedgerVersion)
    (.ManifestIdentityMismatchError "finalizedLedgerVersion"
      (shown adapter.manifest.finalizedLedgerVersion) (shown version))
  pure
    { chainId := CEDRA_TESTNET_CHAIN_ID
      version
      timestampUnixSeconds := timestamp / LEDGER_TIMESTAMP_MICROSECONDS }

/-- The package set of the manifest is the one at the pinned version. -/
def pinAndValidateIdentity : Except SdkError ValidatedIdentity := do
  let ledger ← adapter.pinLedger
  let core := adapter.manifest.packages.reflectionCore
  let assets := adapter.manifest.packages.testAssets
  let amm := adapter.manifest.packages.testAmm
  let addresses := adapter.manifest.addresses
  let stateObject ← adapter.scalar ledger.version core "reflection_registry" "state_object" []
  let deployment ← adapter.scalar ledger.version core "reflection_registry" "deployment_id" []
  let network ← adapter.scalar ledger.version core "reflection_registry" "network_label" []
  let release ← adapter.tuple ledger.version core "reflection_registry" "release_version" [] 3
  let token ← adapter.scalar ledger.version core "reflection_token" "metadata" []
  let reward ← adapter.scalar ledger.version core "reflection_token" "reward_vault" []
  let distribution ← adapter.scalar ledger.version core "reflection_token" "distribution_vault" []
  let mockUsd ← adapter.scalar ledger.version assets "mock_usd" "metadata" []
  let poolRflReserve ← adapter.scalar ledger.version amm "pool" "rfl_reserve_store" []
  let poolUsdReserve ← adapter.scalar ledger.version amm "pool" "usd_reserve_store" []
  let boundUsdReserve ← adapter.scalar ledger.version assets "mock_usd" "pool_reserve" []
  let stateObject ← canonicalAddress stateObject (.view core "reflection_registry" "state_object")
  expectSameAddress "packages.reflectionCore" core stateObject
  let deployment ← utf8Vector deployment (.view core "reflection_registry" "deployment_id")
  expectText "deploymentId" adapter.manifest.deploymentId deployment
  let network ← utf8Vector network (.view core "reflection_registry" "network_label")
  expectText "networkLabel" adapter.manifest.networkLabel network
  let releaseId := FunctionId.view core "reflection_registry" "release_version"
  let major ← unsigned (entry release 0) 64 releaseId
  let minor ← unsigned (entry release 1) 64 releaseId
  let patch ← unsigned (entry release 2) 64 releaseId
  let packageVersion :=
    "testnet-v" ++ toString major ++ "." ++ toString minor ++ "." ++ toString patch
  expectText "packageVersion" adapter.manifest.packageVersion packageVersion
  let token ← objectAddress token (.view core "reflection_token" "metadata")
  expectSameAddress "addresses.tokenMetadata" addresses.tokenMetadata token
  let reward ← objectAddress reward (.view core "reflection_token" "reward_vault")
  expectSameAddress "addresses.rewardVault" addresses.rewardVault reward
  let distribution ← objectAddress distribution
    (.view core "reflection_token" "distribution_vault")
  expectSameAddress "addresses.distributionVault" addresses.distributionVault distribution
  let mockUsd ← objectAddress mockUsd (.view assets "mock_usd" "metadata")
  expectSameAddress "addresses.mockUsdMetadata" addresses.mockUsdMetadata mockUsd
  let poolRflReserve ← objectAddress poolRflReserve (.view amm "pool" "rfl_reserve_store")
  let poolUsdReserve ← objectAddress poolUsdReserve (.view amm "pool" "usd_reserve_store")
  let boundUsdReserve ← canonicalAddress boundUsdReserve (.view assets "mock_usd" "pool_reserve")
  expectSameAddress "addresses.poolRflReserveStore" addresses.poolRflReserveStore poolRflReserve
  expectSameAddress "addresses.poolUsdReserveStore" addresses.poolUsdReserveStore poolUsdReserve
  expectSameAddress "addresses.poolUsdReserveStore/mock_usd.pool_reserve"
    addresses.poolUsdReserveStore boundUsdReserve
  pure { toPinnedLedger := ledger, packageVersion }

end FinalizedCedraReadAdapter

/-! ## The status of a faucet -/

inductive FaucetAsset where
  | tRFL
  | tUSD
deriving DecidableEq, Repr

structure FaucetStatus where
  asset : FaucetAsset
  account : Address
  grantAmount : ℤ
  cooldownEndsAtUnixSeconds : ℤ
  canClaim : Bool
deriving DecidableEq, Repr

namespace FinalizedCedraReadAdapter

variable (adapter : FinalizedCedraReadAdapter)

def getFaucetStatus (account : Address) (asset : FaucetAsset) : Except SdkError FaucetStatus := do
  let canonicalAccount ← nonzeroAddress account "account"
  let identity ← adapter.pinAndValidateIdentity
  let assets := adapter.manifest.packages.testAssets
  let core := adapter.manifest.packages.reflectionCore
  let configuration ← adapter.tuple identity.version assets "test_faucet" "configuration" [] 3
  let lastClaim ← adapter.tuple identity.version assets "test_faucet" "last_claim"
    [.address canonicalAccount, .boolean (asset = .tRFL)] 2
  let distributionBalance ←
    if asset = .tRFL then
      adapter.scalar identity.version core "reflection_token" "distribution_vault_balance" []
    else pure (.integer U64_MAX)
  let configurationId := FunctionId.view assets "test_faucet" "configuration"
  let lastClaimId := FunctionId.view assets "test_faucet" "last_claim"
  let grantAmount ← unsigned (entry configuration (if asset = .tRFL then 0 else 1)) 64
    configurationId
  let cooldown ← unsigned (entry configuration 2) 64 configurationId
  let hasClaimed ← boolean (entry lastClaim 0) lastClaimId
  let previousClaim ← unsigned (entry lastClaim 1) 64 lastClaimId
  let cooldownEndsAtUnixSeconds := if hasClaimed = true then previousClaim + cooldown else 0
  throwIf (U64_MAX < cooldownEndsAtUnixSeconds)
    (.MalformedMoveViewError configurationId
      "previous claim plus cooldown exceeds the u64 timestamp domain")
  let balance ← unsigned distributionBalance 64
    (.view core "reflection_token" "distribution_vault_balance")
  pure
    { asset
      account := canonicalAccount
      grantAmount
      cooldownEndsAtUnixSeconds
      -- Neither the lifecycle nor the eligibility of the account is asked.
      canClaim := (asset = .tUSD ∨ grantAmount ≤ balance)
        ∧ (hasClaimed = false ∨ (previousClaim ≤ identity.timestampUnixSeconds
          ∧ cooldownEndsAtUnixSeconds ≤ identity.timestampUnixSeconds)) }

end FinalizedCedraReadAdapter

/-! ## The quote of a swap -/

inductive SwapDirection where
  | buy
  | sell
deriving DecidableEq, Repr

structure SwapInput where
  direction : SwapDirection
  grossAmount : ℤ
  slippageBps : ℤ
  deadlineUnixSeconds : ℤ
deriving DecidableEq, Repr

structure SwapQuoteContext where
  chainId : ℤ
  ledgerVersion : ℤ
  deploymentId : String
  packageVersion : String
  inputReserve : ℤ
  outputReserve : ℤ
  reflectionFeeBps : ℤ
  ammFeeBps : ℤ
  maximumGrossSwap : ℤ
  maximumReserveBps : ℤ
deriving DecidableEq, Repr

structure SwapQuote where
  direction : SwapDirection
  grossAmount : ℤ
  slippageBps : ℤ
  reflectionFee : ℤ
  ammFee : ℤ
  netReserveInput : ℤ
  grossPoolOutput : ℤ
  netUserReceipt : ℤ
  minimumNetUserReceipt : ℤ
  priceImpactBps : ℤ
  deadlineUnixSeconds : ℤ
  context : SwapQuoteContext
deriving DecidableEq, Repr

namespace FinalizedCedraReadAdapter

variable (adapter : FinalizedCedraReadAdapter)

/-- Where the amounts are divided, none is negative. -/
def quoteSwap (input : SwapInput) : Except SdkError SwapQuote := do
  throwIf (input.grossAmount = 0) (.RangeError (text "grossAmount must be greater than zero"))
  let _ ← unsigned (.integer input.grossAmount) 64 (.label "quote.grossAmount")
  let _ ← unsigned (.integer input.slippageBps) 64 (.label "quote.slippageBps")
  let _ ← unsigned (.integer input.deadlineUnixSeconds) 64 (.label "quote.deadlineUnixSeconds")
  throwIf (BPS_DENOMINATOR < input.slippageBps)
    (.RangeError (text "slippageBps must not exceed 10,000"))
  let identity ← adapter.pinAndValidateIdentity
  throwIf (input.deadlineUnixSeconds ≤ identity.timestampUnixSeconds)
    (.RangeError (text "quote deadline must be later than the pinned ledger timestamp"))
  let amm := adapter.manifest.packages.testAmm
  let core := adapter.manifest.packages.reflectionCore
  let view := if input.direction = .sell then "quote_sell" else "quote_buy"
  let quote ← adapter.tuple identity.version amm "pool" view [.integer input.grossAmount] 3
  let reserves ← adapter.tuple identity.version amm "pool" "reserves_view" [] 2
  let limits ← adapter.tuple identity.version amm "pool" "limits" [] 3
  let feeBpsRaw ← adapter.scalar identity.version core "reflection_token" "reflection_fee_bps" []
  let functionId := FunctionId.view amm "pool" view
  let limitsId := FunctionId.view amm "pool" "limits"
  let reservesId := FunctionId.view amm "pool" "reserves_view"
  let firstOutput ← unsigned (entry quote 0) 64 functionId
  let reflectionFee ← unsigned (entry quote 1) 64 functionId
  let ammFee ← unsigned (entry quote 2) 64 functionId
  let reflectionFeeBps ← unsigned feeBpsRaw 64 (.view core "reflection_token" "reflection_fee_bps")
  let ammFeeBps ← unsigned (entry limits 0) 64 limitsId
  let maximumReserveBps ← unsigned (entry limits 1) 64 limitsId
  let maximumGrossSwap ← unsigned (entry limits 2) 64 limitsId
  throwIf (500 < reflectionFeeBps ∨ 100 < ammFeeBps ∨ maximumReserveBps = 0
      ∨ BPS_DENOMINATOR < maximumReserveBps ∨ maximumGrossSwap = 0)
    (.MalformedMoveViewError limitsId
      "fee or swap limit is outside the immutable contract policy")
  let netReserveInput :=
    if input.direction = .sell then input.grossAmount - reflectionFee else input.grossAmount
  throwIf (netReserveInput < 0 ∨ netReserveInput < ammFee)
    (.MalformedMoveViewError functionId "fee tuple exceeds its associated input")
  let grossPoolOutput :=
    if input.direction = .buy then firstOutput + reflectionFee else firstOutput
  throwIf (U64_MAX < grossPoolOutput)
    (.MalformedMoveViewError functionId "gross pool output exceeds u64")
  let invariantInput := netReserveInput - ammFee
  let inputReserve ← unsigned (entry reserves (if input.direction = .sell then 0 else 1)) 64
    reservesId
  let outputReserve ← unsigned (entry reserves (if input.direction = .sell then 1 else 0)) 64
    reservesId
  throwIf (inputReserve = 0 ∨ outputReserve = 0 ∨ firstOutput = 0)
    (.MalformedMoveViewError functionId "quote requires non-zero reserves and output")
  throwIf (maximumGrossSwap < input.grossAmount
      ∨ inputReserve * maximumReserveBps < input.grossAmount * BPS_DENOMINATOR)
    (.MalformedMoveViewError functionId "quote input exceeds the finalized on-chain swap limits")
  let expectedAmmFee := netReserveInput
    - netReserveInput * (BPS_DENOMINATOR - ammFeeBps) / BPS_DENOMINATOR
  let expectedGrossPoolOutput := outputReserve * invariantInput / (inputReserve + invariantInput)
  let expectedReflectionFee :=
    if input.direction = .sell then input.grossAmount * reflectionFeeBps / BPS_DENOMINATOR
    else expectedGrossPoolOutput * reflectionFeeBps / BPS_DENOMINATOR
  throwIf (ammFee ≠ expectedAmmFee ∨ reflectionFee ≠ expectedReflectionFee
      ∨ grossPoolOutput ≠ expectedGrossPoolOutput)
    (.MalformedMoveViewError functionId
      "quote tuple disagrees with finalized fee and constant-product arithmetic")
  pure
    { direction := input.direction
      grossAmount := input.grossAmount
      slippageBps := input.slippageBps
      reflectionFee
      ammFee
      netReserveInput
      grossPoolOutput
      netUserReceipt := firstOutput
      minimumNetUserReceipt :=
        firstOutput * (BPS_DENOMINATOR - input.slippageBps) / BPS_DENOMINATOR
      priceImpactBps := invariantInput * BPS_DENOMINATOR / (inputReserve + invariantInput)
      deadlineUnixSeconds := input.deadlineUnixSeconds
      context :=
        { chainId := identity.chainId
          ledgerVersion := identity.version
          deploymentId := adapter.manifest.deploymentId
          packageVersion := identity.packageVersion
          inputReserve
          outputReserve
          reflectionFeeBps
          ammFeeBps
          maximumGrossSwap
          maximumReserveBps } }

end FinalizedCedraReadAdapter

end CedraReflect.sdk
