/-
`snapshot.ts` of the indexer: what a checkpoint holds and what it may hold.

A JSON text is kept as the record it denotes ([`SerializableSnapshot`]): the
maps of a projection have become the lists of their values or entries, and a
tagged bigint is its integer. Writing the record and reading it back is the
business of `JSON` itself. The identifier of a snapshot is a digest of that
record with its identifier pending, and the digest function comes from outside.
-/
import CedraReflect.MoveDomains
import Mathlib.Data.List.Induction

set_option autoImplicit false
set_option linter.constructorNameAsVariable false

namespace CedraReflect.indexer

/-! ## Records -/

structure SerializableLpEpoch where
  epoch : ℤ
  stateId : Address
  status : LpEpochStatus
  rewardVault : Address
  index : ℤ
  indexRemainder : ℤ
  totalShares : ℤ
  aggregateCorrection : ℤ
  unallocatedRewards : ℤ
  roundingReserve : ℤ
  retiredResidueMagnified : ℤ
  terminalRoundingBaseUnits : Option ℤ
  lifetimeReceived : ℤ
  lifetimeClaimed : ℤ
  quarantined : Bool
  positions : List IndexedLpPosition
deriving DecidableEq

structure SerializableProjection where
  chainId : ℤ
  deploymentId : String
  networkLabel : String
  tokenMetadata : Option Address
  protocolExclusionSlots : ℤ
  protocolExclusionsRemaining : ℤ
  protocolExcludedStores : List (Address × Address)
  registeredWallets : List (Address × Address)
  registeredWalletCount : ℤ
  automaticMaterialization : Bool
  feeBps : ℤ
  currentIndex : ℤ
  indexRemainder : ℤ
  eligibleSupply : ℤ
  aggregateCorrection : ℤ
  unallocatedFees : ℤ
  roundingReserve : ℤ
  rewardVault : Option Address
  distributionVault : Option Address
  mockUsdPoolReserve : Option Address
  rewardVaultCredits : ℤ
  rewardVaultPayouts : ℤ
  lifetimeSwapFees : ℤ
  lifetimeMaterialized : ℤ
  lifetimeCustodyRouted : ℤ
  packageVersion : String
  lifecycle : Option ProtocolLifecycle
  swapsPaused : Bool
  claimsPaused : Bool
  faucetPaused : Bool
  faucetTrflGrant : ℤ
  faucetTusdGrant : ℤ
  faucetCooldownSeconds : ℤ
  operationalAdmins : OperationalAdmins
  deploymentReady : Bool
  pool : IndexedPool
  custody : IndexedCustodyPosition
  activeLpEpoch : Option ℤ
  lpEpochs : List SerializableLpEpoch
  rewardVaultToEpoch : List (Address × ℤ)
  stateIdToEpoch : List (Address × ℤ)
  positions : List IndexedPosition
  seenEventIds : List (String × EventCursor)
deriving DecidableEq

structure SerializableSnapshot where
  schemaVersion : ℕ
  id : String
  takenAtUnixMilliseconds : ℤ
  cursor : Option EventCursor
  projection : SerializableProjection
deriving DecidableEq

structure IndexerSnapshot where
  schemaVersion : ℕ
  id : String
  takenAtUnixMilliseconds : ℤ
  cursor : Option EventCursor
  projection : ProtocolProjection

/-- `createHash("sha256")`, on the text of a record. -/
class Sha256 where
  hex : SerializableSnapshot → String

def IndexedLpEpoch.serialise (epoch : IndexedLpEpoch) : SerializableLpEpoch :=
  { epoch := epoch.epoch
    stateId := epoch.stateId
    status := epoch.status
    rewardVault := epoch.rewardVault
    index := epoch.index
    indexRemainder := epoch.indexRemainder
    totalShares := epoch.totalShares
    aggregateCorrection := epoch.aggregateCorrection
    unallocatedRewards := epoch.unallocatedRewards
    roundingReserve := epoch.roundingReserve
    retiredResidueMagnified := epoch.retiredResidueMagnified
    terminalRoundingBaseUnits := epoch.terminalRoundingBaseUnits
    lifetimeReceived := epoch.lifetimeReceived
    lifetimeClaimed := epoch.lifetimeClaimed
    quarantined := epoch.quarantined
    positions := epoch.positions.values }

def serialiseProjection (projection : ProtocolProjection) : SerializableProjection :=
  { chainId := projection.chainId
    deploymentId := projection.deploymentId
    networkLabel := projection.networkLabel
    tokenMetadata := projection.tokenMetadata
    protocolExclusionSlots := projection.protocolExclusionSlots
    protocolExclusionsRemaining := projection.protocolExclusionsRemaining
    protocolExcludedStores := projection.protocolExcludedStores.entries
    registeredWallets := projection.registeredWallets.entries
    registeredWalletCount := projection.registeredWalletCount
    automaticMaterialization := projection.automaticMaterialization
    feeBps := projection.feeBps
    currentIndex := projection.currentIndex
    indexRemainder := projection.indexRemainder
    eligibleSupply := projection.eligibleSupply
    aggregateCorrection := projection.aggregateCorrection
    unallocatedFees := projection.unallocatedFees
    roundingReserve := projection.roundingReserve
    rewardVault := projection.rewardVault
    distributionVault := projection.distributionVault
    mockUsdPoolReserve := projection.mockUsdPoolReserve
    rewardVaultCredits := projection.rewardVaultCredits
    rewardVaultPayouts := projection.rewardVaultPayouts
    lifetimeSwapFees := projection.lifetimeSwapFees
    lifetimeMaterialized := projection.lifetimeMaterialized
    lifetimeCustodyRouted := projection.lifetimeCustodyRouted
    packageVersion := projection.packageVersion
    lifecycle := projection.lifecycle
    swapsPaused := projection.swapsPaused
    claimsPaused := projection.claimsPaused
    faucetPaused := projection.faucetPaused
    faucetTrflGrant := projection.faucetTrflGrant
    faucetTusdGrant := projection.faucetTusdGrant
    faucetCooldownSeconds := projection.faucetCooldownSeconds
    operationalAdmins := projection.operationalAdmins
    deploymentReady := projection.deploymentReady
    pool := projection.pool
    custody := projection.custody
    activeLpEpoch := projection.activeLpEpoch
    lpEpochs := projection.lpEpochs.values.map IndexedLpEpoch.serialise
    rewardVaultToEpoch := projection.rewardVaultToEpoch.entries
    stateIdToEpoch := projection.stateIdToEpoch.entries
    positions := projection.positions.values
    seenEventIds := projection.seenEventIds.entries }

/-! ## Validation -/

def isOptionalMoveUnsigned (value : Option ℤ) (bits : ℕ) : Bool :=
  value.all fun value => isMoveUnsigned value bits

/-- Both ordinals of a cursor, and the index as a number. -/
def EventCursor.valid (cursor : EventCursor) : Bool :=
  isMoveUnsigned cursor.ledgerVersion 64 ∧ 0 ≤ cursor.eventIndex
    ∧ cursor.eventIndex ≤ MAX_SAFE_INTEGER

def isCursor (cursor : Option EventCursor) : Bool := cursor.all EventCursor.valid

def isWalletPosition (position : IndexedPosition) : Bool :=
  isMoveUnsigned position.rawTrfl 64 ∧ isMoveUnsigned position.rawTusd 64
    ∧ isMoveSignedU256 position.correction ∧ isMoveUnsigned position.claimed 256
    ∧ isMoveUnsigned position.lifetimeClaimed 256
    ∧ isMoveUnsigned position.lifetimeMaterialized 256

def isLpPosition (position : IndexedLpPosition) : Bool :=
  isMoveUnsigned position.shares 128 ∧ isMoveSignedU256 position.correction
    ∧ isMoveUnsigned position.claimed 256

def isLpEpoch (epoch : SerializableLpEpoch) : Bool :=
  isMoveUnsigned epoch.epoch 64 ∧ 0 < epoch.epoch ∧ isMoveUnsigned epoch.index 256
    ∧ isMoveUnsigned epoch.indexRemainder 256 ∧ isMoveUnsigned epoch.totalShares 128
    ∧ isMoveSignedU256 epoch.aggregateCorrection ∧ isMoveUnsigned epoch.unallocatedRewards 128
    ∧ isMoveUnsigned epoch.roundingReserve 128
    ∧ isMoveUnsigned epoch.retiredResidueMagnified 256
    ∧ (match epoch.terminalRoundingBaseUnits with
        | none => decide (epoch.status = .active)
        | some terminal => decide (epoch.status = .claimOnly ∧ isMoveUnsigned terminal 128)) = true
    ∧ isMoveUnsigned epoch.lifetimeReceived 256 ∧ isMoveUnsigned epoch.lifetimeClaimed 256
    ∧ (∀ position ∈ epoch.positions, isLpPosition position = true)
    ∧ (epoch.positions.map fun position => position.owner).Nodup

def isAddressEpochEntries (entries : List (Address × ℤ)) : Bool :=
  (∀ entry ∈ entries, isMoveUnsigned entry.2 64 ∧ entry.2 ≠ 0)
    ∧ (entries.map Prod.fst).Nodup ∧ (entries.map Prod.snd).Nodup

def isAddressEntries (entries : List (Address × Address)) : Bool :=
  (entries.map Prod.fst).Nodup ∧ (entries.map Prod.snd).Nodup

def isSeenEventEntries (entries : List (String × EventCursor)) : Bool :=
  (∀ entry ∈ entries, 0 < utf16Length entry.1 ∧ utf16Length entry.1 ≤ 512
      ∧ entry.2.valid = true)
    ∧ (entries.map Prod.fst).Nodup

/-- The entry of a key in a list of entries, the last if there are several. -/
def entryOf {κ ν : Type} [DecidableEq κ] (entries : List (κ × ν)) (key : κ) : Option ν :=
  (entries.reverse.find? fun entry => entry.1 = key).map Prod.snd

/-- No two positions of an account, no two epochs with a number, a vault or a
state in common, and entries of the widths that Move has. -/
def hasValidEntries (value : SerializableProjection) : Bool :=
  (∀ position ∈ value.positions, isWalletPosition position = true)
    ∧ (value.positions.map fun position => position.account).Nodup
    ∧ (∀ epoch ∈ value.lpEpochs, isLpEpoch epoch = true)
    ∧ (value.lpEpochs.map fun epoch => epoch.epoch).Nodup
    ∧ (value.lpEpochs.map fun epoch => epoch.rewardVault).Nodup
    ∧ (value.lpEpochs.map fun epoch => epoch.stateId).Nodup
    ∧ isAddressEpochEntries value.rewardVaultToEpoch = true
    ∧ isAddressEpochEntries value.stateIdToEpoch = true
    ∧ isSeenEventEntries value.seenEventIds = true
    ∧ isAddressEntries value.protocolExcludedStores = true
    ∧ isAddressEntries value.registeredWallets = true

/-- Registered wallets and excluded stores have nothing in common. -/
def hasValidBindings (value : SerializableProjection) : Bool :=
  let excludedAccounts := value.protocolExcludedStores.map Prod.fst
  let excludedStores := value.protocolExcludedStores.map Prod.snd
  (∀ entry ∈ value.protocolExcludedStores, entry.1 ≠ .zero ∧ entry.2 ≠ .zero)
    ∧ ∀ entry ∈ value.registeredWallets, entry.1 ≠ .zero ∧ entry.2 ≠ .zero
      ∧ entry.1 ∉ excludedAccounts ∧ entry.2 ∉ excludedStores

/-- Every epoch is bound to its vault and its state, and at most one is active. -/
def hasValidEpochs (value : SerializableProjection) : Bool :=
  value.rewardVaultToEpoch.length = value.lpEpochs.length
    ∧ value.stateIdToEpoch.length = value.lpEpochs.length
    ∧ (∀ epoch ∈ value.lpEpochs,
      entryOf value.rewardVaultToEpoch epoch.rewardVault = some epoch.epoch
        ∧ entryOf value.stateIdToEpoch epoch.stateId = some epoch.epoch)
    ∧ isOptionalMoveUnsigned value.activeLpEpoch 64 = true
    ∧ (let activeEpochs := value.lpEpochs.filter fun epoch => epoch.status = .active
      match value.activeLpEpoch with
      | none => decide (activeEpochs = [])
      | some active =>
          decide (active ≠ 0 ∧ activeEpochs.map (fun epoch => epoch.epoch) = [active])) = true

def isV02 (packageVersion : String) : Bool := packageVersion = "testnet-v0.2.0"

/-- Identity, release and deployment state. -/
def hasValidDeployment (value : SerializableProjection) : Bool :=
  0 < utf16Length value.deploymentId ∧ utf16Length value.deploymentId ≤ 512
    ∧ (value.networkLabel = "uninitialized" ∨ value.networkLabel = "cedra-testnet")
    ∧ value.chainId = 2
    ∧ isMoveUnsigned value.protocolExclusionSlots 64
    ∧ isMoveUnsigned value.protocolExclusionsRemaining 64
    ∧ isMoveUnsigned value.registeredWalletCount 64
    ∧ value.registeredWalletCount = value.registeredWallets.length
    ∧ (∀ position ∈ value.positions, position.account ∈ value.registeredWallets.map Prod.fst)
    ∧ (∀ epoch ∈ value.lpEpochs, ∀ position ∈ epoch.positions,
      position.shares = 0 ∨ position.owner ∈ value.registeredWallets.map Prod.fst)
    ∧ isMoveUnsigned value.feeBps 64
    ∧ value.feeBps ≤ (if isV02 value.packageVersion = true then 500 else 100)
    ∧ 0 < utf16Length value.packageVersion ∧ utf16Length value.packageVersion ≤ 128
    ∧ (if isV02 value.packageVersion = true then
        value.lifecycle ≠ none ∧ value.automaticMaterialization = true
      else value.lifecycle = none)
    ∧ value.deploymentReady =
      (if isV02 value.packageVersion = true then decide (value.lifecycle ≠ some .CONFIGURING)
      else value.operationalAdmins.reflectionCore.isSome
        && value.operationalAdmins.testAssets.isSome && value.operationalAdmins.testAmm.isSome)

/-- The amounts of the core, the faucet, the pool and the custody. -/
def hasValidAmounts (value : SerializableProjection) : Bool :=
  isMoveUnsigned value.currentIndex 256 ∧ isMoveUnsigned value.indexRemainder 256
    ∧ isMoveUnsigned value.eligibleSupply 128 ∧ isMoveSignedU256 value.aggregateCorrection
    ∧ isMoveUnsigned value.unallocatedFees 128 ∧ isMoveUnsigned value.roundingReserve 128
    ∧ isMoveUnsigned value.rewardVaultCredits 256 ∧ isMoveUnsigned value.rewardVaultPayouts 256
    ∧ isMoveUnsigned value.lifetimeSwapFees 256 ∧ isMoveUnsigned value.lifetimeMaterialized 256
    ∧ isMoveUnsigned value.lifetimeCustodyRouted 256
    ∧ isMoveUnsigned value.faucetTrflGrant 64 ∧ isMoveUnsigned value.faucetTusdGrant 64
    ∧ isMoveUnsigned value.faucetCooldownSeconds 64
    ∧ isMoveUnsigned value.pool.trflReserve 64 ∧ isMoveUnsigned value.pool.tusdReserve 64
    ∧ isMoveUnsigned value.pool.ammFeeBps 64 ∧ isMoveUnsigned value.pool.maximumGrossSwap 64
    ∧ isMoveUnsigned value.pool.maximumReserveBps 64
    ∧ isMoveUnsigned value.pool.maximumRflContribution 64
    ∧ isMoveUnsigned value.pool.maximumTusdContribution 64
    ∧ isMoveUnsigned value.pool.maximumNonFinalWithdrawalShareBps 64
    ∧ isOptionalMoveUnsigned value.custody.adapterId 64 = true
    ∧ isOptionalMoveUnsigned value.custody.activeRouteEpoch 64 = true
    ∧ isMoveUnsigned value.custody.shares 128 ∧ isMoveSignedU256 value.custody.correction
    ∧ isMoveUnsigned value.custody.claimed 256 ∧ isMoveUnsigned value.custody.lifetimeRouted 256

def isProjection (value : SerializableProjection) : Bool :=
  hasValidEntries value && hasValidBindings value && hasValidEpochs value
    && hasValidDeployment value && hasValidAmounts value

/-! ## Taking, encoding and decoding -/

section Codec

variable [Sha256]

/-- `snapshotId(snapshotIdentityEncoding(snapshot))`. -/
def snapshotId (snapshot : SerializableSnapshot) : String :=
  "snapshot-" ++ Sha256.hex { snapshot with id := "pending" }

def takeSnapshot (projection : ProtocolProjection) (cursor : Option EventCursor)
    (takenAtUnixMilliseconds : ℤ) : Except Text IndexerSnapshot := do
  throwIf (¬ isMoveUnsigned takenAtUnixMilliseconds 64)
    (text "snapshot timestamp must fit Move u64")
  throwIf (isCursor cursor = false)
    (text "snapshot cursor must fit the finalized Move u64 cursor domain")
  let serialisable : SerializableSnapshot :=
    ⟨1, "pending", takenAtUnixMilliseconds, cursor, serialiseProjection projection⟩
  throwIf (isProjection serialisable.projection = false)
    (text "snapshot projection is not a complete, exact-width protocol state")
  pure ⟨1, snapshotId serialisable, takenAtUnixMilliseconds, cursor, projection⟩

theorem takeSnapshot_eq_ok {projection : ProtocolProjection} {cursor : Option EventCursor}
    {takenAtUnixMilliseconds : ℤ} {snapshot : IndexerSnapshot} :
    takeSnapshot projection cursor takenAtUnixMilliseconds = .ok snapshot ↔
      isMoveUnsigned takenAtUnixMilliseconds 64 ∧ isCursor cursor = true
        ∧ isProjection (serialiseProjection projection) = true
        ∧ snapshot = ⟨1, snapshotId ⟨1, "pending", takenAtUnixMilliseconds, cursor,
          serialiseProjection projection⟩, takenAtUnixMilliseconds, cursor, projection⟩ := by
  unfold takeSnapshot
  simp only [bind_unit_eq_ok, throwIf_eq_ok, pure_eq_ok, not_not, Bool.not_eq_false]

def encodeSnapshot (snapshot : IndexerSnapshot) : SerializableSnapshot :=
  ⟨snapshot.schemaVersion, snapshot.id, snapshot.takenAtUnixMilliseconds, snapshot.cursor,
    serialiseProjection snapshot.projection⟩

/-- A map from its entries, set one after the other. -/
def mapOf {κ ν : Type} [DecidableEq κ] (entries : List (κ × ν)) : OrderedMap κ ν :=
  entries.foldl (fun map entry => map.set entry.1 entry.2) ∅

def SerializableLpEpoch.restore (epoch : SerializableLpEpoch) : IndexedLpEpoch :=
  { epoch := epoch.epoch
    stateId := epoch.stateId
    status := epoch.status
    rewardVault := epoch.rewardVault
    index := epoch.index
    indexRemainder := epoch.indexRemainder
    totalShares := epoch.totalShares
    aggregateCorrection := epoch.aggregateCorrection
    unallocatedRewards := epoch.unallocatedRewards
    roundingReserve := epoch.roundingReserve
    retiredResidueMagnified := epoch.retiredResidueMagnified
    terminalRoundingBaseUnits := epoch.terminalRoundingBaseUnits
    lifetimeReceived := epoch.lifetimeReceived
    lifetimeClaimed := epoch.lifetimeClaimed
    quarantined := epoch.quarantined
    positions := mapOf (epoch.positions.map fun position => (position.owner, position)) }

def SerializableProjection.restore (value : SerializableProjection) : ProtocolProjection :=
  { chainId := value.chainId
    deploymentId := value.deploymentId
    networkLabel := value.networkLabel
    tokenMetadata := value.tokenMetadata
    protocolExclusionSlots := value.protocolExclusionSlots
    protocolExclusionsRemaining := value.protocolExclusionsRemaining
    protocolExcludedStores := mapOf value.protocolExcludedStores
    registeredWallets := mapOf value.registeredWallets
    registeredWalletCount := value.registeredWalletCount
    automaticMaterialization := value.automaticMaterialization
    feeBps := value.feeBps
    currentIndex := value.currentIndex
    indexRemainder := value.indexRemainder
    eligibleSupply := value.eligibleSupply
    aggregateCorrection := value.aggregateCorrection
    unallocatedFees := value.unallocatedFees
    roundingReserve := value.roundingReserve
    rewardVault := value.rewardVault
    distributionVault := value.distributionVault
    mockUsdPoolReserve := value.mockUsdPoolReserve
    rewardVaultCredits := value.rewardVaultCredits
    rewardVaultPayouts := value.rewardVaultPayouts
    lifetimeSwapFees := value.lifetimeSwapFees
    lifetimeMaterialized := value.lifetimeMaterialized
    lifetimeCustodyRouted := value.lifetimeCustodyRouted
    packageVersion := value.packageVersion
    lifecycle := value.lifecycle
    swapsPaused := value.swapsPaused
    claimsPaused := value.claimsPaused
    faucetPaused := value.faucetPaused
    faucetTrflGrant := value.faucetTrflGrant
    faucetTusdGrant := value.faucetTusdGrant
    faucetCooldownSeconds := value.faucetCooldownSeconds
    operationalAdmins := value.operationalAdmins
    deploymentReady := value.deploymentReady
    pool := value.pool
    custody := value.custody
    activeLpEpoch := value.activeLpEpoch
    lpEpochs := mapOf (value.lpEpochs.map fun epoch => (epoch.epoch, epoch.restore))
    rewardVaultToEpoch := mapOf value.rewardVaultToEpoch
    stateIdToEpoch := mapOf value.stateIdToEpoch
    positions := mapOf (value.positions.map fun position => (position.account, position))
    seenEventIds := mapOf value.seenEventIds }

/-- Decodes a record and checks it against its digest. The digest is a
well-formed one, so an identifier that is not is refused with it. -/
def decodeSnapshot (encoded : SerializableSnapshot) : Except Text IndexerSnapshot := do
  throwIf (encoded.schemaVersion ≠ 1 ∨ ¬ isMoveUnsigned encoded.takenAtUnixMilliseconds 64
      ∨ isCursor encoded.cursor = false ∨ isProjection encoded.projection = false)
    (text "Invalid indexer snapshot")
  throwIf (encoded.id ≠ snapshotId encoded)
    (text "Indexer snapshot identifier does not match its content")
  pure ⟨encoded.schemaVersion, encoded.id, encoded.takenAtUnixMilliseconds, encoded.cursor,
    encoded.projection.restore⟩

end Codec

/-! ## Maps from entries -/

section

variable {κ ν : Type} [DecidableEq κ]

theorem mapOf_append (entries : List (κ × ν)) (entry : κ × ν) :
    mapOf (entries ++ [entry]) = (mapOf entries).set entry.1 entry.2 := by
  simp [mapOf]

theorem mem_keys_mapOf {entries : List (κ × ν)} {k : κ} :
    k ∈ (mapOf entries).keys ↔ k ∈ entries.map Prod.fst := by
  induction entries using List.reverseRecOn with
  | nil => simp [mapOf]
  | append_singleton entries entry ih =>
      rw [mapOf_append, OrderedMap.mem_keys_set, ih, List.map_append, List.mem_append,
        List.map_singleton, List.mem_singleton, or_comm]

/-- What a lookup finds was an entry. -/
theorem mem_of_get?_mapOf {entries : List (κ × ν)} {k : κ} {v : ν}
    (h : (mapOf entries).get? k = some v) : (k, v) ∈ entries := by
  induction entries using List.reverseRecOn with
  | nil => simp [mapOf] at h
  | append_singleton entries entry ih =>
      rw [mapOf_append, OrderedMap.get?_set] at h
      rw [List.mem_append, List.mem_singleton]
      by_cases hk : k = entry.1
      · rw [if_pos hk] at h
        exact .inr (Prod.ext hk (Option.some_injective _ h).symm)
      · rw [if_neg hk] at h
        exact .inl (ih h)

/-- Entries without a repeated key are the entries of their map. -/
theorem entries_mapOf {entries : List (κ × ν)} (hnodup : (entries.map Prod.fst).Nodup) :
    (mapOf entries).entries = entries := by
  induction entries using List.reverseRecOn with
  | nil => rfl
  | append_singleton entries entry ih =>
      rw [List.map_append, List.map_singleton, List.nodup_append] at hnodup
      rw [mapOf_append, OrderedMap.entries_set_of_absent, ih hnodup.1]
      -- The key of the last entry is not that of another.
      rw [← OrderedMap.has_eq_false, Bool.eq_false_iff, ne_eq, ← OrderedMap.mem_keys,
        mem_keys_mapOf]
      intro hmem
      exact hnodup.2.2 entry.1 hmem entry.1 (List.mem_singleton_self _) rfl

theorem mapOf_entries (map : OrderedMap κ ν) : mapOf map.entries = map :=
  OrderedMap.ext (entries_mapOf map.nodup)

/-- A map from its values, under the keys that they name. -/
theorem mapOf_values {key : ν → κ} {map : OrderedMap κ ν} (h : map.KeyedBy key) :
    mapOf (map.values.map fun value => (key value, value)) = map := by
  rw [h.entries_eq, mapOf_entries]

theorem values_mapOf {key : ν → κ} {list : List ν} (hnodup : (list.map key).Nodup) :
    (mapOf (list.map fun value => (key value, value))).values = list := by
  unfold OrderedMap.values
  rw [entries_mapOf, List.map_map]
  · exact List.map_id _
  · rwa [List.map_map]

theorem keyedBy_mapOf (key : ν → κ) (list : List ν) :
    (mapOf (list.map fun value => (key value, value))).KeyedBy key := by
  intro k v h
  obtain ⟨value, _, hvalue⟩ := List.mem_map.mp (mem_of_get?_mapOf h)
  rw [Prod.mk.injEq] at hvalue
  rw [← hvalue.2, hvalue.1]

end

end CedraReflect.indexer
