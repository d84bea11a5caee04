/-
`cedra-normalizer.ts` of the indexer: from the event of a Move module to the
event the indexer replays.

An envelope carries what a node returns for an event. Its `data` has a leaf for
each field of the struct, and a leaf is what its spelling denotes: `Value` has
one constructor for each kind of spelling the normalizer tells apart, since the
spelling of a derived address is not in the repository. A type tag is split at
`::` and an address in it or in a field is canonical from the start.
-/
import CedraReflect.Events
import CedraReflect.MoveDomains

set_option autoImplicit false
set_option linter.constructorNameAsVariable false

namespace CedraReflect.indexer

/-! ## Envelopes -/

/-- What a leaf of the data denotes. An integer is a `bigint`, a decimal string of
at most 78 digits or a safe number that is not negative. `other` is what no field
of an event is: `null`, an object, a longer decimal, a number with a sign or a
fraction. -/
inductive Value where
  | integer (n : ℤ)
  | boolean (b : Bool)
  | address (a : Address)
  | bytes (b : ByteArray)
  | other

abbrev DataRecord : Type := List (String × Value)

/-- `0x…::module::Name`. -/
structure TypeTag where
  address : Address
  path : List String
deriving DecidableEq

structure CedraChainEventEnvelope where
  typeTag : TypeTag
  /-- `none` for data that is not an object. -/
  data : Option DataRecord
  txHash : String
  ledgerVersion : ℤ
  eventIndex : ℤ
  timestampUnixMilliseconds : ℤ

/-! ## Reading fields -/

def MAX_IDENTITY_BYTES : ℕ := 512

def asRecord (value : Option DataRecord) : Except String DataRecord :=
  match value with
  | some data => .ok data
  | none => .error "Cedra event data must be an object"

def requiredAddress (data : DataRecord) (key : String) : Except String Address :=
  match data.lookup key with
  | some (.address a) => .ok a
  | _ => .error ("Cedra event field " ++ key ++ " must be a hexadecimal address")

def requiredBigint (data : DataRecord) (key : String) : Except String ℤ :=
  match data.lookup key with
  | some (.integer parsed) => do
      throwIf (parsed < 0 ∨ 2 ^ 256 - 1 < parsed)
        ("Cedra event field " ++ key ++ " exceeds the Move u256 domain")
      pure parsed
  | _ => .error ("Cedra event field " ++ key ++ " must be a non-negative integer")

def requiredUnsigned (data : DataRecord) (key : String) (bits : ℕ) : Except String ℤ := do
  let parsed ← requiredBigint data key
  throwIf (2 ^ bits - 1 < parsed)
    ("Cedra event field " ++ key ++ " exceeds the Move u" ++ toString bits ++ " domain")
  pure parsed

def requiredBoolean (data : DataRecord) (key : String) : Except String Bool :=
  match data.lookup key with
  | some (.boolean b) => .ok b
  | _ => .error ("Cedra event field " ++ key ++ " must be a boolean")

/-- The values of `MATERIALIZATION_TRIGGERS` of the SDK. -/
def MATERIALIZATION_TRIGGERS : List ℤ := [0, 1, 2, 3, 4, 5, 6, 7, 8, 9, 10]

def materializationTrigger (data : DataRecord) : Except String ℤ := do
  let value ← requiredUnsigned data "trigger" 8
  throwIf (value ∉ MATERIALIZATION_TRIGGERS)
    ("Cedra event field trigger has unsupported v0.2 code " ++ toString value)
  pure value

/-- `new TextDecoder("utf-8", { fatal: true }).decode`, which drops a leading
byte order mark. -/
def decodeUtf8 (bytes : ByteArray) : Option String :=
  (String.fromUTF8? bytes).map fun s =>
    match s.toList with
    | c :: rest => if c = Char.ofNat 0xFEFF then String.ofList rest else s
    | [] => s

def requiredUtf8Vector (data : DataRecord) (key : String) : Except String String :=
  match data.lookup key with
  | some (.bytes bytes) => do
      throwIf (bytes.size = 0 ∨ MAX_IDENTITY_BYTES < bytes.size)
        ("Cedra event field " ++ key ++ " must contain 1 to " ++ toString MAX_IDENTITY_BYTES
          ++ " bytes")
      match decodeUtf8 bytes with
      | some decoded => do
          throwIf (decoded = "")
            ("Cedra event field " ++ key ++ " must contain valid non-empty UTF-8")
          pure decoded
      | none => .error ("Cedra event field " ++ key ++ " must contain valid non-empty UTF-8")
  | _ => .error ("Cedra event field " ++ key ++ " must be a hexadecimal byte vector")

def lpStatus (value : ℤ) (key : String) : Except String LpEpochStatus :=
  if value = 1 then .ok .active
  else if value = 2 then .ok .claimOnly
  else .error ("Cedra event field " ++ key ++ " must be LP status 1 or 2")

/-- The fields of the base; the identifier of an event is its transaction and
its position in it. -/
def base (envelope : CedraChainEventEnvelope) : Except String EventBase := do
  throwIf (utf16Length envelope.txHash = 0 ∨ 512 < utf16Length envelope.txHash
      ∨ ¬ isMoveUnsigned envelope.ledgerVersion 64
      ∨ MAX_SAFE_INTEGER < envelope.eventIndex ∨ envelope.eventIndex < 0
      ∨ ¬ isMoveUnsigned envelope.timestampUnixMilliseconds 64)
    "Cedra event envelope has an invalid transaction identity, cursor, or timestamp"
  pure
    { id := envelope.txHash ++ ":" ++ toString envelope.eventIndex
      txHash := envelope.txHash
      ledgerVersion := envelope.ledgerVersion
      eventIndex := envelope.eventIndex
      timestampUnixMilliseconds := envelope.timestampUnixMilliseconds
      source := .chain }

def isType (typeTag : TypeTag) (packageAddress : Address) (moduleName eventName : String) : Bool :=
  typeTag.address = packageAddress ∧ typeTag.path = [moduleName, eventName]

/-! ## The normalizer -/

/-- `CedraEventNormalizer`, with what its constructor checks. -/
structure CedraEventNormalizer where
  reflectionCore : Address
  testAssets : Address
  testAmm : Address
  nonzero : .zero ∉ [reflectionCore, testAssets, testAmm]
  distinct : [reflectionCore, testAssets, testAmm].Nodup

def CedraEventNormalizer.new (reflectionCore testAssets testAmm : Address) :
    Except String CedraEventNormalizer :=
  if hzero : .zero ∈ [reflectionCore, testAssets, testAmm] then
    .error "Cedra event package addresses must be non-zero"
  else if hdistinct : [reflectionCore, testAssets, testAmm].Nodup then
    .ok ⟨reflectionCore, testAssets, testAmm, hzero, hdistinct⟩
  else
    .error "Cedra event package addresses must be canonically distinct"

/-- `pool::LiquiditySeeded` and `pool::LiquidityAdded` have one shape. -/
def liquidityReceipt (data : DataRecord) : Except String LiquidityEvent := do
  pure
    { epoch := ← requiredUnsigned data "epoch" 64
      provider := ← requiredAddress data "provider"
      trflAmount := ← requiredUnsigned data "rfl_amount" 64
      tusdAmount := ← requiredUnsigned data "usd_amount" 64
      lpShares := ← requiredUnsigned data "lp_shares" 128
      trflReserveAfter := ← requiredUnsigned data "reserve_rfl" 64
      tusdReserveAfter := ← requiredUnsigned data "reserve_usd" 64 }

/-- The release of the package that emitted the event. -/
def releaseVersion (data : DataRecord) : Except String String := do
  let releaseMajor ← requiredUnsigned data "release_major" 64
  let releaseMinor ← requiredUnsigned data "release_minor" 64
  let releasePatch ← requiredUnsigned data "release_patch" 64
  pure ("testnet-v" ++ toString releaseMajor ++ "." ++ toString releaseMinor ++ "."
    ++ toString releasePatch)

/-- The event that a type tag and its data stand for, `none` for the types that
are not replayed. -/
def CedraEventNormalizer.body (normalizer : CedraEventNormalizer) (typeTag : TypeTag)
    (data : DataRecord) (txHash : String) : Except String (Option EventBody) :=
  let coreType := isType typeTag normalizer.reflectionCore
  let assetsType := isType typeTag normalizer.testAssets
  let ammType := isType typeTag normalizer.testAmm
  let address := requiredAddress data
  let unsigned := requiredUnsigned data
  let boolean := requiredBoolean data
  if coreType "reflection_events" "ProtocolInitialized" then do
    let schemaVersion ← unsigned "version" 64
    throwIf (schemaVersion ≠ 1)
      ("Unsupported reflection event schema version: " ++ toString schemaVersion)
    let packageVersion ← releaseVersion data
    return some (.ProtocolInitialized
      { deploymentId := ← requiredUtf8Vector data "deployment_id"
        networkLabel := ← requiredUtf8Vector data "network_label"
        tokenMetadata := ← address "metadata"
        automaticMaterialization := ← boolean "automatic_materialization"
        feeBps := ← unsigned "initial_fee_bps" 64
        initialIndex := 0
        packageVersion
        rewardVault := ← address "reward_vault"
        distributionVault := ← address "distribution_vault"
        protocolExclusionSlots := ← unsigned "protocol_exclusion_slots" 64 })
  else if coreType "reflection_events" "TokenCreated" then do
    let schemaVersion ← unsigned "version" 64
    throwIf (schemaVersion ≠ 2)
      ("Unsupported TokenCreated schema version: " ++ toString schemaVersion)
    let packageVersion ← releaseVersion data
    return some (.TokenCreated
      { eventSchema := "v0.2"
        deploymentId := ← requiredUtf8Vector data "deployment_id"
        networkLabel := ← requiredUtf8Vector data "network_label"
        tokenMetadata := ← address "metadata"
        rewardVault := ← address "reward_vault"
        distributionVault := ← address "distribution_vault"
        reflectionFeeBps := ← unsigned "reflection_fee_bps" 64
        totalSupply := ← unsigned "total_supply" 64
        decimals := ← unsigned "decimals" 8
        packageVersion })
  else if coreType "reflection_events" "ProtocolPrimaryStoreExcluded" then do
    return some (.ProtocolPrimaryStoreExcluded (← address "account") (← address "store")
      (← unsigned "remaining_slots" 64))
  else if coreType "reflection_events" "OperationalPrimaryStoreExcluded" then do
    return some (.OperationalPrimaryStoreExcluded (← address "account") (← address "store"))
  else if coreType "reflection_events" "PositionCreated" then do
    return some (.PositionCreated (← address "account"))
  else if coreType "reflection_events" "WalletRegistered" then do
    return some (.WalletRegistered
      { account := ← address "account"
        primaryStore := ← address "primary_store"
        registeredWalletCount := ← unsigned "registered_wallet_count" 64 })
  else if coreType "reflection_events" "FaucetGrant" then do
    return some (.FaucetGrant (← address "recipient") .trfl (← unsigned "amount" 64))
  else if assetsType "mock_usd" "MockUsdMinted" then do
    return some (.FaucetGrant (← address "recipient") .tusd (← unsigned "amount" 64))
  else if assetsType "test_faucet" "FaucetConfigured" then do
    return some (.FaucetConfigured (← unsigned "trfl_grant" 64) (← unsigned "tusd_grant" 64)
      (← unsigned "cooldown_seconds" 64))
  else if assetsType "mock_usd" "PoolReserveBound" then do
    return some (.PoolReserveBound (← address "reserve_store") (← address "custodian"))
  else if coreType "reflection_events" "WalletTransfer" then do
    return some (.WalletTransfer (← address "from") (← address "to") .trfl
      (← unsigned "amount" 64))
  else if coreType "reflection_events" "EligibleBalanceDebited" then do
    return some (.EligibleBalanceDebited (← address "account") (← unsigned "amount" 64))
  else if coreType "reflection_events" "EligibleBalanceCredited" then do
    return some (.EligibleBalanceCredited (← address "account") (← unsigned "amount" 64))
  else if coreType "reflection_events" "ReflectionFeeCollected" then do
    return some (.ReflectionFeeCollected
      { swapTxHash := txHash
        grossAmount := ← unsigned "gross_amount" 64
        feeAmount := ← unsigned "fee_amount" 64
        feeBps := ← unsigned "fee_bps" 64 })
  else if coreType "reflection_events" "ReflectionIndexAdvanced" then do
    return some (.ReflectionIndexAdvanced
      { previousIndex := ← unsigned "old_index" 256
        newIndex := ← unsigned "new_index" 256
        indexRemainder := ← unsigned "remainder" 256
        feeAmount := ← unsigned "fee_amount" 64
        eligibleSupply := ← unsigned "eligible_supply" 128 })
  else if coreType "reflection_events" "RewardsMaterialized" then do
    return some (.RewardsMaterialized
      { account := ← address "account"
        amount := ← unsigned "amount" 64
        totalClaimed := ← unsigned "total_claimed" 256
        trigger := some (← materializationTrigger data) })
  else if coreType "reflection_events" "RewardsClaimed" then do
    return some (.RewardsClaimed
      { account := ← address "account"
        amount := ← unsigned "amount" 64
        totalClaimed := ← unsigned "total_claimed" 256 })
  else if coreType "reflection_events" "CustodyAdapterRegistered" then do
    return some (.CustodyAdapterRegistered
      { adapterId := ← unsigned "adapter_id" 64
        reserveStore := ← address "reserve_store"
        firstEpoch := ← unsigned "first_epoch" 64
        lpRewardVault := ← address "lp_reward_vault" })
  else if coreType "reflection_events" "CustodyEpochRouteOpened" then do
    return some (.CustodyEpochRouteOpened
      { adapterId := ← unsigned "adapter_id" 64
        epoch := ← unsigned "epoch" 64
        reserveStore := ← address "reserve_store"
        lpRewardVault := ← address "lp_reward_vault"
        retiredResidueMagnified := ← unsigned "retired_residue_magnified" 256 })
  else if coreType "reflection_events" "CustodySharesChanged" then do
    return some (.CustodySharesChanged
      { added := ← boolean "added"
        amount := ← unsigned "amount" 64
        custodyShares := ← unsigned "custody_shares" 128
        globalShares := ← unsigned "global_shares" 128 })
  else if coreType "reflection_events" "CustodyRewardsRouted" then do
    return some (.CustodyRewardsRouted
      { reserveStore := ← address "reserve_store"
        lpRewardVault := ← address "lp_reward_vault"
        epoch := ← unsigned "epoch" 64
        amount := ← unsigned "amount" 64
        totalRouted := ← unsigned "total_routed" 256 })
  else if coreType "reflection_events" "FeeConfigurationChanged" then do
    let newFeeBps ← unsigned "new_fee_bps" 64
    return some (.FeeConfigurationChanged (← unsigned "old_fee_bps" 64) newFeeBps)
  else if coreType "reflection_events" "PauseStateChanged" then do
    return some (.PauseStateChanged (← boolean "swaps_paused") (← boolean "claims_paused"))
  else if assetsType "test_faucet" "FaucetPauseChanged" then do
    return some (.FaucetPauseChanged (← boolean "paused"))
  else if coreType "reflection_events" "OperationalAdminChanged"
      || assetsType "test_faucet" "OperationalAdminChanged"
      || ammType "pool" "OperationalAdminChanged" then do
    let scope :=
      if coreType "reflection_events" "OperationalAdminChanged" then "reflection-core"
      else if assetsType "test_faucet" "OperationalAdminChanged" then "test-assets"
      else "test-amm"
    return some (.OperationalAdminChanged scope (← address "old_operational_admin")
      (← address "new_operational_admin"))
  else if ammType "pool" "LiquiditySeeded" || ammType "pool" "LiquidityAdded" then do
    let receipt ← liquidityReceipt data
    return some (if ammType "pool" "LiquiditySeeded" then .LiquiditySeeded receipt
      else .LiquidityAdded receipt)
  else if ammType "pool" "LiquidityRemoved" then do
    let epoch ← unsigned "epoch" 64
    let provider ← address "provider"
    let trflAmount ← unsigned "rfl_amount" 64
    let tusdAmount ← unsigned "usd_amount" 64
    let lpShares ← unsigned "lp_shares" 128
    let finalExit ← boolean "final_exit"
    return some (.LiquidityRemoved
      { epoch, provider, trflAmount, tusdAmount, lpShares
        trflReserveAfter := ← unsigned "reserve_rfl" 64
        tusdReserveAfter := ← unsigned "reserve_usd" 64 } finalExit)
  else if ammType "pool" "LaunchSealed" then do
    return some (.LaunchSealed
      { eventSchema := "v0.2"
        reflectionFeeBps := ← unsigned "reflection_fee_bps" 64
        ammFeeBps := ← unsigned "amm_fee_bps" 64
        maximumReserveBps := ← unsigned "max_reserve_bps" 64
        maximumGrossSwap := ← unsigned "max_gross_swap" 64
        maximumRflContribution := ← unsigned "max_liquidity_rfl" 64
        maximumTusdContribution := ← unsigned "max_liquidity_usd" 64
        maximumNonFinalWithdrawalShareBps := ← unsigned "max_withdrawal_share_bps" 64
        faucetTrflGrant := ← unsigned "faucet_trfl_grant" 64
        faucetTusdGrant := ← unsigned "faucet_tusd_grant" 64
        faucetCooldownSeconds := ← unsigned "faucet_cooldown_seconds" 64
        bootstrap := ← address "bootstrap"
        rflReserve := ← address "rfl_reserve"
        usdReserve := ← address "usd_reserve"
        lpRewardVault := ← address "lp_reward_vault"
        seedRfl := ← unsigned "seed_rfl" 64
        seedUsd := ← unsigned "seed_usd" 64
        initialLpShares := ← unsigned "initial_lp_shares" 128 })
  else if ammType "pool" "PoolClosed" then do
    return some (.PoolClosed
      { eventSchema := "v0.2"
        provider := ← address "provider"
        epoch := ← unsigned "epoch" 64
        lpShares := ← unsigned "lp_shares" 128
        rflOutput := ← unsigned "rfl_output" 64
        usdOutput := ← unsigned "usd_output" 64
        rflReserveAfter := ← unsigned "reserve_rfl" 64
        usdReserveAfter := ← unsigned "reserve_usd" 64 })
  else if ammType "pool" "SwapExecuted" then do
    let grossAmount ← unsigned "gross_input" 64
    let reflectionFee ← unsigned "reflection_fee" 64
    let direction := if ← boolean "is_sell" then SwapDirection.sell else .buy
    let grossPoolOutput ← unsigned "gross_output" 64
    return some (.SwapExecuted
      { account := ← address "trader"
        direction, grossAmount, reflectionFee
        ammFee := ← unsigned "amm_fee" 64
        netReserveInput :=
          if direction = .sell then grossAmount - reflectionFee else grossAmount
        grossPoolOutput
        netUserReceipt := ← unsigned "net_output" 64
        trflReserveAfter := ← unsigned "reserve_rfl" 64
        tusdReserveAfter := ← unsigned "reserve_usd" 64 })
  else if ammType "pool" "SwapLimitsChanged" then do
    let ammFeeBps ← unsigned "amm_fee_bps" 64
    let maximumReserveBps ← unsigned "max_reserve_bps" 64
    let maximumGrossSwap ← unsigned "max_gross_swap" 64
    return some (.SwapLimitsChanged ammFeeBps maximumGrossSwap maximumReserveBps)
  else if ammType "pool" "LiquidityLimitsChanged" then do
    return some (.LiquidityLimitsChanged (← unsigned "max_rfl_contribution" 64)
      (← unsigned "max_usd_contribution" 64) (← unsigned "max_withdrawal_share_bps" 64))
  else if ammType "pool" "PoolPauseChanged" then do
    return some (.PoolPauseChanged (← boolean "pool_paused") (← boolean "liquidity_paused")
      (← boolean "lp_claims_paused") (← boolean "shutdown_mode"))
  else if ammType "lp_rewards" "LpEpochOpened" then do
    return some (.LpEpochOpened
      { epoch := ← unsigned "epoch" 64
        stateId := ← address "state_id"
        rewardVault := ← address "reward_vault" })
  else if ammType "lp_rewards" "LpEpochStatusChanged" then do
    return some (.LpEpochStatusChanged
      { epoch := ← unsigned "epoch" 64
        oldStatus := ← lpStatus (← unsigned "old_status" 8) "old_status"
        newStatus := ← lpStatus (← unsigned "new_status" 8) "new_status" })
  else if ammType "lp_rewards" "LpSharesChanged" then do
    return some (.LpSharesChanged
      { epoch := ← unsigned "epoch" 64
        owner := ← address "owner"
        added := ← boolean "added"
        amount := ← unsigned "amount" 128
        ownerShares := ← unsigned "owner_shares" 128
        totalShares := ← unsigned "total_shares" 128 })
  else if ammType "lp_rewards" "LpSharesTransferred" then do
    return some (.LpSharesTransferred
      { epoch := ← unsigned "epoch" 64
        sender := ← address "sender"
        recipient := ← address "recipient"
        amount := ← unsigned "amount" 128 })
  else if ammType "lp_rewards" "LpRewardIndexAdvanced" then do
    return some (.LpRewardIndexAdvanced
      { epoch := ← unsigned "epoch" 64
        previousIndex := ← unsigned "old_index" 256
        newIndex := ← unsigned "new_index" 256
        indexRemainder := ← unsigned "remainder" 256
        received := ← unsigned "received" 64
        totalShares := ← unsigned "total_shares" 128
        roundingReserve := ← unsigned "rounding_reserve" 128 })
  else if ammType "lp_rewards" "LpRewardsClaimed" then do
    return some (.LpRewardsClaimed
      { epoch := ← unsigned "epoch" 64
        owner := ← address "owner"
        amount := ← unsigned "amount" 64
        totalClaimed := ← unsigned "total_claimed" 256 })
  else if ammType "lp_rewards" "LpRewardQuarantined" then do
    return some (.LpRewardQuarantined
      { epoch := ← unsigned "epoch" 64
        amount := ← unsigned "amount" 64
        unallocatedRewards := ← unsigned "unallocated_rewards" 128
        rewardVault := ← address "reward_vault" })
  else if ammType "lp_rewards" "LpFractionalResidueRetired" then do
    return some (.LpFractionalResidueRetired
      { epoch := ← unsigned "epoch" 64
        owner := ← address "owner"
        residueMagnified := ← unsigned "residue_magnified" 256
        cumulativeRetiredResidueMagnified :=
          ← unsigned "cumulative_retired_residue_magnified" 256
        roundingReserveBaseUnits := ← unsigned "rounding_reserve_base_units" 128 })
  else if ammType "lp_rewards" "LpEpochTerminalDustClassified" then do
    return some (.LpEpochTerminalDustClassified
      { epoch := ← unsigned "epoch" 64
        rewardVault := ← address "reward_vault"
        terminalRoundingBaseUnits := ← unsigned "terminal_rounding_base_units" 128
        retiredResidueMagnified := ← unsigned "retired_residue_magnified" 256
        lifetimeReceivedBaseUnits := ← unsigned "lifetime_received_base_units" 256
        lifetimeClaimedBaseUnits := ← unsigned "lifetime_claimed_base_units" 256 })
  else return none

/-- Strict conversion of an envelope, `none` for the types that are not
replayed. -/
def CedraEventNormalizer.normalize (normalizer : CedraEventNormalizer)
    (envelope : CedraChainEventEnvelope) : Except String (Option ProtocolEvent) := do
  let data ← asRecord envelope.data
  let eventBase ← base envelope
  let body ← normalizer.body envelope.typeTag data envelope.txHash
  pure (body.map fun body => { eventBase with body })

end CedraReflect.indexer
